import FileShare.Host.Errno

/-!
# Failures of input and output

A failed call of the system has a number. Some failures arise without a call and are known by their
kind alone, and some kinds come with a text of their own. What a session does about a failure
depends on its kind, so numbers have kinds too (`IoError.kind?`), as far as they matter here.
-/

namespace FileShare

/-- Kinds of failures that a stream reports. -/
inductive IoKind where
  | wouldBlock
  | connectionReset
  | connectionAborted
  | brokenPipe
  | unexpectedEof
  | permissionDenied
  | notConnected
  | timedOut
  | interrupted
  | other
  deriving DecidableEq, Repr, Inhabited

namespace IoKind

/-- All kinds. -/
def all : List IoKind :=
  [wouldBlock, connectionReset, connectionAborted, brokenPipe, unexpectedEof, permissionDenied,
    notConnected, timedOut, interrupted, other]

/-- The report of a failure that is known by its kind alone. -/
def message : IoKind → String
  | wouldBlock => "operation would block"
  | connectionReset => "connection reset"
  | connectionAborted => "connection aborted"
  | brokenPipe => "broken pipe"
  | unexpectedEof => "unexpected end of file"
  | permissionDenied => "permission denied"
  | notConnected => "not connected"
  | timedOut => "timed out"
  | interrupted => "operation interrupted"
  | other => "other error"

end IoKind

/-- A failure of input or output. -/
inductive IoError where
  /-- A call of the system failed. -/
  | system (number : Int32)
  | kind (kind : IoKind)
  /-- A failure with a text of its own. -/
  | text (kind : IoKind) (reason : String)
  deriving DecidableEq, Repr, Inhabited

namespace IoError

/-- The report of a failure. -/
def message : IoError → String
  | system number => s!"{systemText number.toInt} (os error {number.toInt})"
  | kind k => k.message
  | text _ reason => reason

/-- The number of a failure, if the system gave one. -/
def number? : IoError → Option Int32
  | system number => some number
  | _ => none

/-- The kind of a failure; numbers that no stream cares about have none. -/
def kind? : IoError → Option IoKind
  | system number =>
    if number = 11 then some .wouldBlock
    else if number = 104 then some .connectionReset
    else if number = 32 then some .brokenPipe
    else none
  | kind k => some k
  | text k _ => some k

/-- The failure of a system call with a known number. -/
def ofErrno (errno : Errno) : IoError :=
  system errno.code

end IoError

end FileShare
