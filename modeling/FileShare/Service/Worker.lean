import FileShare.Exchange.Exchange

/-!
# The processing worker

Behind every session stands a worker that gives complete requests to the exchange. A server does not
know the exchange of a connection beforehand: the first request that opens one decides
(`Worker.adopt`).

The worker sleeps until it is woken, and then takes requests until none is complete. It goes back to
sleep early when it drops a request: one that holds no message, or one that comes before any
exchange and opens none. The requests behind it wait for the next time.
-/

namespace FileShare

/-- The **processing worker** of a session. -/
structure Worker where
  role : Role
  settings : TransferSettings
  exchange : Option Exchange
  deriving Inhabited

namespace Worker

/-- The exchange that a message is for: the one at hand, or else the one that the message opens. -/
def adopt (worker : Worker) (message : Message) : Option Exchange :=
  match worker.exchange with
  | some exchange => some exchange
  | none =>
    match Session.familyOf message with
    | .ok family => some (.ofFamily worker.role family message.requestId)
    | .error _ => none

variable {τ : Type} [Transport τ]

/-- Give the oldest request to the exchange, if it is complete. Tells whether to go on. -/
def take (worker : Worker) : WorldM (Session τ) (Bool × Worker) := do
  let (packet, session) := (← get).outlet.popRequest
  modify fun world => { world with outlet := session }
  match packet with
  | none => pure (false, worker)
  | some packet =>
    if session.cancelled then
      pure (false, worker)
    else
      match packet.message with
      | .error _ => pure (false, worker)
      | .ok message =>
        match worker.adopt message with
        | none => pure (false, worker)
        | some exchange =>
          let (_, exchange) ← exchange.process worker.settings message
          pure (true, { worker with exchange := some exchange })

/-- Take so many requests at most. -/
def takeUpTo (worker : Worker) : Nat → WorldM (Session τ) Worker
  | 0 => pure worker
  | bound + 1 => do
    let (more, worker) ← worker.take
    if more then worker.takeUpTo bound else pure worker

/-- Wake up, and take what is there. -/
def wake (worker : Worker) : WorldM (Session τ) Worker := do
  modify fun world => { world with outlet := { world.outlet with workPending := false } }
  worker.takeUpTo (← get).outlet.requests.length

/-- Let the background job of the exchange take steps, so many at most, until it is blocked or has
ended. -/
def runJob (worker : Worker) (bound : Nat) : WorldM (Session τ) (JobStatus × Worker) := do
  match worker.exchange with
  | none => pure (.ended, worker)
  | some exchange =>
    let (status, exchange) ← exchange.runJob bound
    pure (status, { worker with exchange := some exchange })

/-- Stop, and leave nothing behind. -/
def quit (worker : Worker) : WorldM (Session τ) Worker := do
  match worker.exchange with
  | none => pure worker
  | some exchange => pure { worker with exchange := some (← exchange.quit) }

end Worker

end FileShare
