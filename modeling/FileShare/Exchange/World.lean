import FileShare.Exchange.Outcome
import FileShare.Exchange.Outlet
import FileShare.Settings.Settings
import FileShare.Share.Store

/-!
# What an exchange acts on

An exchange sees a `World`: where its messages go, the shares, the directory from which local paths
start, and the outcome that has been reported. `WorldM` computes on it, and `StepM` may fail while
it does.

How a failure is told depends on the side (`fail`): a responder answers with the error command of
the family, an initiator reports it as its outcome. A failure of the session is told to nobody by a
responder, since the connection is going away.
-/

namespace FileShare

/-- The side of an exchange. -/
inductive Role where
  /-- Does what is asked for. -/
  | responder
  /-- Asks, and collects the result. -/
  | initiator
  deriving DecidableEq, Repr, Inhabited

/-- What an exchange acts on. -/
structure World (ω : Type) where
  outlet : ω
  store : Store
  /-- Whether there is anybody to ask for a share. -/
  hasShares : Bool
  /-- The directory from which local paths start. -/
  workDir : Path
  /-- The outcome, once it has been reported. -/
  outcome : Option Outcome
  deriving Inhabited

/-- A computation on a world. -/
abbrev WorldM (ω : Type) := StateM (World ω)

/-- A computation on a world that may fail. -/
abbrev StepM (ω : Type) := ExceptT ExchangeError (WorldM ω)

namespace World

variable {ω : Type}

/-- Do something with the shares. -/
def share {α : Type} (action : ShareM α) : StepM ω α :=
  ExceptT.mk fun world =>
    let (result, store) := action.run.run world.store
    (result.mapError .share, { world with store })

/-- Do something with the shares that cannot fail. -/
def onStore {α : Type} (action : StateM Store α) : WorldM ω α :=
  fun world =>
    let (result, store) := action.run world.store
    (result, { world with store })

/-- Record the outcome, unless there is one. -/
def report (outcome : Outcome) : WorldM ω Unit :=
  modify fun world => { world with outcome := world.outcome.or (some outcome) }

section Messages

variable [Outlet ω]

/-- Send a message. -/
def send (message : Message) : StepM ω Unit :=
  ExceptT.mk fun world =>
    let (result, outlet) := Outlet.send world.outlet message
    (result.mapError .session, { world with outlet })

/-- Move on what has been queued. -/
def flush : StepM ω Unit :=
  ExceptT.mk fun world =>
    let (result, outlet) := Outlet.flush world.outlet
    (result.mapError .session, { world with outlet })

/-- Tell a failure. -/
def fail (role : Role) (family : Family) (requestId : String) (error : ExchangeError) :
    WorldM ω Unit := do
  match role, error with
  | .initiator, error => report (.ofError error)
  | .responder, .session _ => pure ()
  | .responder, error =>
    let _ ← (send (.of requestId family.errorCommand (.status error.status))).run

/-- Adopt the credentials of a message, and tell the URL they address. -/
def connect (message : Message) : StepM ω String := do
  match message.command? with
  | none => throw (.unexpectedCommand message.code)
  | some command =>
    match message.credentials? with
    | none => throw (.missingBody command)
    | some credentials =>
      if (← get).hasShares then
        share (Share.connect credentials)
        pure credentials.url
      else
        throw (.invalidParameter "no backend configured")

end Messages

end World

end FileShare
