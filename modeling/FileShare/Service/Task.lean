/-!
# Background tasks

A `Task` runs beside whoever has started it, and is told to stop through a token. The token is a
child of another one: it counts as cancelled when either is, but cancelling it leaves its parent
alone. Stopping a task cancels its token and waits until the task has ended, so stopping it again
changes nothing.

Here a task does as good as nothing, and it is all about its token and its end. What the tasks of an
exchange do, step by step, are its jobs.
-/

namespace FileShare

/-- What a task does. -/
inductive Work where
  /-- It goes on until it is told to stop. -/
  | untilCancelled
  /-- It ends by itself at once. -/
  | atOnce
  /-- It breaks off at once. -/
  | broken
  deriving DecidableEq, Repr, Inhabited

/-- A token that tells whether to stop. -/
structure Token where
  parentCancelled : Bool
  ownCancelled : Bool
  deriving DecidableEq, Repr, Inhabited

/-- Whether to stop. -/
def Token.isCancelled (token : Token) : Bool :=
  token.parentCancelled || token.ownCancelled

/-- A **background task**. -/
structure Task where
  work : Work
  token : Token
  deriving DecidableEq, Repr, Inhabited

namespace Task

/-- Start a task under a parent token. -/
def start (work : Work) (parentCancelled : Bool) : Task :=
  ⟨work, ⟨parentCancelled, false⟩⟩

/-- Cancel the parent of the token. -/
def cancelParent (task : Task) : Task :=
  { task with token := { task.token with parentCancelled := true } }

/-- Tell a task to stop, and wait for it. -/
def stop (task : Task) : Task :=
  { task with token := { task.token with ownCancelled := true } }

/-- Whether a task has ended. -/
def isFinished (task : Task) : Bool :=
  match task.work with
  | .untilCancelled => task.token.isCancelled
  | .atOnce | .broken => true

/-- Whether a task has come to its own end. -/
def ranToEnd (task : Task) : Bool :=
  task.isFinished && task.work ≠ .broken

end Task

end FileShare
