import FileShare.Service.Worker
import FileShare.Transport.Socket
import FileShare.Wire.Frame

/-!
# Connections

A `Connection` is a session on a transport together with its worker. On a socket, its `turn` does
what is due on all sides: take what has arrived, give complete requests to the exchange, let the
background job go on, and send what is queued. A failure of the session ends the connection: the
socket is shut down, and the worker leaves nothing behind.

What is sent is delivered at once, so a socket is never full for long. Delivered bytes wait until
the peer reads them (`readMessages`, `readBytes`).

The file system is shared with others. Whoever owns several connections hands it from one to the
next (`withStore`, `withFiles`).
-/

namespace FileShare

/-- A **connection** of a client or a server. -/
structure Connection (τ : Type) where
  worker : Worker
  world : World (Session τ)
  isOver : Bool
  /-- What has been delivered and the peer has not read. -/
  delivered : ByteArray
  deriving Inhabited

namespace Connection

/-- The most steps that a background job takes in one turn. -/
def jobBound : Nat := 0x10000000000

section Parts

variable {τ : Type}

/-- A connection on which nothing has happened. -/
def start (role : Role) (settings : TransferSettings) (exchange : Option Exchange)
    (world : World (Session τ)) : Connection τ :=
  ⟨⟨role, settings, exchange⟩, world, false, ByteArray.empty⟩

/-- The session of a connection. -/
def session (c : Connection τ) : Session τ :=
  c.world.outlet

/-- Change the session of a connection. -/
def onSession (c : Connection τ) (change : Session τ → Session τ) : Connection τ :=
  { c with world := { c.world with outlet := change c.session } }

/-- Change the transport of a connection. -/
def onTransport (c : Connection τ) (change : τ → τ) : Connection τ :=
  c.onSession fun session => { session with transport := session.transport.map change }

/-- Hand over the shares. -/
def withStore (c : Connection τ) (store : Store) : Connection τ :=
  { c with world := { c.world with store } }

/-- Hand over the file system. -/
def withFiles (c : Connection τ) (fs : FileSystem) : Connection τ :=
  c.withStore { c.world.store with fs }

/-- Hand over the exchange. -/
def withExchange (c : Connection τ) (exchange : Exchange) : Connection τ :=
  { c with worker := { c.worker with exchange := some exchange } }

/-- Run a computation on the world of a connection. -/
def run {α : Type} (c : Connection τ) (action : WorldM (Session τ) α) : α × Connection τ :=
  let (result, world) := action.run c.world
  (result, { c with world })

variable [Transport τ]

/-- Take what has arrived. -/
def readEvent (c : Connection τ) : Except SessionError Unit × Connection τ :=
  let (result, session) := c.session.readEvent
  (result, c.onSession fun _ => session)

/-- Send what is queued. -/
def writeEvent (c : Connection τ) : Except SessionError Unit × Connection τ :=
  let (result, session) := c.session.writeEvent
  (result, c.onSession fun _ => session)

/-- Let the worker do something. -/
def runWorker {α : Type} (c : Connection τ)
    (action : Worker → WorldM (Session τ) (α × Worker)) : α × Connection τ :=
  let ((result, worker), c) := c.run (action c.worker)
  (result, { c with worker })

/-- Wake the worker if there is work, and let the background job go on. -/
def work (c : Connection τ) : JobStatus × Connection τ :=
  c.runWorker fun worker => do
    let worker ← if c.session.workPending then worker.wake else pure worker
    worker.runJob jobBound

/-- Let the worker go on until something holds, with a step before every further try, for so many
tries at most. -/
def workUntil (c : Connection τ) (done : Connection τ → Bool)
    (step : Connection τ → Connection τ) : Nat → Connection τ
  | 0 => c
  | tries + 1 =>
    let (_, c) := c.work
    if done c then c else (step c).workUntil done step tries

/-- End a connection. Ending it again changes nothing. -/
def hangUp (c : Connection τ) : Connection τ :=
  if c.isOver then
    c
  else
    let c := (c.onTransport Transport.shutdown).onSession Session.cancel
    let (_, c) := c.runWorker fun worker => do pure ((), ← worker.quit)
    { c.onSession Session.cleanUp with isOver := true }

end Parts

/-! ### On sockets -/

/-- The socket of a connection. -/
def socket (c : Connection Socket) : Socket :=
  c.session.transport.getD .connected

/-- Do what is due on all sides once. -/
def turnOnce (c : Connection Socket) : Connection Socket :=
  let (read, c) := if c.socket.isReadable then c.readEvent else (.ok (), c)
  match read with
  | .error _ => c.hangUp
  | .ok () =>
    match c.work.2.writeEvent with
    | (.error _, c) => c.hangUp
    | (.ok (), c) => c

/-- Deliver what has been sent. -/
def deliver (c : Connection Socket) : Connection Socket :=
  let (data, socket) := c.socket.peerTake c.socket.outbound.size
  { c.onTransport fun _ => socket with delivered := c.delivered ++ data }

/-- Do what is due until nothing is sent any more, or so many times. -/
def turnUpTo (c : Connection Socket) : Nat → Connection Socket
  | 0 => c
  | bound + 1 =>
    let next := (if c.isOver then c else c.turnOnce).deliver
    if next.delivered.size = c.delivered.size then next else next.turnUpTo bound

/-- Do what is due until nothing more can be done without the peer. -/
def turn (c : Connection Socket) : Connection Socket :=
  c.turnUpTo jobBound

/-- Time passes: the worker looks again, as it does from time to time without being woken. -/
def tick (c : Connection Socket) : Connection Socket :=
  (c.onSession Session.signal).turn

/-! ### The peer -/

/-- Something happens to the socket. -/
def react (c : Connection Socket) (change : Socket → Socket) : Connection Socket :=
  (c.onTransport change).turn

/-- The peer reads all that has been delivered. -/
def readBytes (c : Connection Socket) : ByteArray × Connection Socket :=
  (c.delivered, { c with delivered := ByteArray.empty })

/-- Wait until so many messages have been delivered, for a number of ticks at most. -/
def await (c : Connection Socket) (count : Nat) : Nat → Connection Socket
  | 0 => c
  | bound + 1 =>
    if (Frame.firstMessages c.delivered count).messages.length < count then
      c.tick.await count bound
    else
      c

/-- The peer reads messages, so many if they come. Every request that is dropped may keep the ones
behind it waiting for a tick. -/
def readMessages (c : Connection Socket) (count : Nat) : List Message × Connection Socket :=
  let c := c.await count (c.session.requests.length + 1)
  let reading := Frame.firstMessages c.delivered count
  (reading.messages,
    { c with delivered := c.delivered.extract reading.consumed c.delivered.size })

/-- Whether the peer finds the end, with nothing before it. -/
def isAtEnd (c : Connection Socket) : Bool :=
  c.isOver && c.delivered.size = 0

end Connection

end FileShare
