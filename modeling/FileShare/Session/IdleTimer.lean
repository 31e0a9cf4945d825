/-!
# Idle timers

An `IdleTimer` remembers when something last happened. Points in time and durations are counted in
nanoseconds.
-/

namespace FileShare

/-- The time of the last activity. -/
structure IdleTimer where
  lastActivity : Nat
  deriving DecidableEq, Repr, Inhabited

namespace IdleTimer

/-- A timer that starts now. -/
def start (now : Nat) : IdleTimer :=
  ⟨now⟩

/-- Something happens. -/
def reset (_ : IdleTimer) (now : Nat) : IdleTimer :=
  ⟨now⟩

/-- The time since the last activity. -/
def idleFor (timer : IdleTimer) (now : Nat) : Nat :=
  now - timer.lastActivity

/-- Whether more than some time has passed without activity. -/
def isExpired (timer : IdleTimer) (now timeout : Nat) : Bool :=
  timeout < timer.idleFor now

end IdleTimer

end FileShare
