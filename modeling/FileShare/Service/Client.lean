import FileShare.Service.Connection

/-!
# Clients

A client runs one exchange, the one that its settings describe. Its first request is queued before
there is a connection, so that nothing comes before it. The client is finished when the exchange has
an outcome or the connection is over; in the second case the exchange has failed.
-/

namespace FileShare

/-- Why a client could not begin. -/
inductive ClientError where
  | noOperation (code : UInt8)
  /-- The first request fits into no packet. -/
  | unsendable (fault : FrameError)
  | noConnection (path : String)
  deriving DecidableEq, Repr, Inhabited

/-- The report of why a client could not begin. -/
def ClientError.message : ClientError → String
  | noOperation code => s!"no operation selected (op_code {code.toNat})"
  | unsendable fault => fault.message
  | noConnection path => s!"Failed to connect to {path}"

/-- The session that settings ask for. -/
def Settings.session {τ : Type} (settings : Settings) : Session τ :=
  .ofSettings settings.buffers.queueSize.toNat settings.buffers.socketBuffer.toNat

namespace Client

/-- The outcome of an exchange that lost its connection. -/
def lost : Outcome :=
  .failed StatusCode.reset "connection closed before the exchange finished"

/-- Begin the exchange that settings describe. The connection is made only if there is something to
send on it. -/
def start (settings : Settings) (store : Store) (workDir : Path) (canConnect : Bool) :
    Except ClientError (Connection Socket) :=
  let request := settings.request
  match Family.ofOperation? request.operation with
  | none => .error (.noOperation request.operation)
  | some family =>
    let exchange := Exchange.ofFamily .initiator family request.requestId
    match Packet.ofMessage (exchange.initialRequest request) with
    | .error fault => .error (.unsendable fault)
    | .ok packet =>
      if canConnect then
        let session := (settings.session.returnResponse packet).bind Socket.connected
        .ok (.start .initiator settings.transfer exchange ⟨session, store, false, workDir, none⟩)
      else
        .error (.noConnection settings.process.socketPath)

/-- Whether the exchange of a client has come to an end. -/
def isFinished (client : Connection Socket) : Bool :=
  client.isOver || client.world.outcome.isSome

/-- Let a client do something, after which it goes away if it is finished. -/
def advance (client : Connection Socket) (step : Connection Socket → Connection Socket) :
    Connection Socket :=
  let client := step client
  if isFinished client && !client.isOver then client.hangUp else client

/-- The outcome of a client that is finished. -/
def outcome (client : Connection Socket) : Outcome :=
  client.world.outcome.getD lost

end Client

end FileShare
