import FileShare.Host.IoError

/-!
# Failures of a share

A failed operation on a share tells which operation it was, which URL it addressed, and the error
number. A number without a meaning is reported as zero, and a failure without a number as a failure
of input or output.
-/

namespace FileShare

/-- A failed operation on a share. -/
structure ShareError where
  /-- The operation that failed. -/
  operation : String
  /-- The URL it addressed. -/
  url : String
  errno : Errno
  deriving DecidableEq, Repr, Inhabited

namespace ShareError

/-- The failure of an operation for a reason that the system gave. -/
def ofIoError (operation url : String) (error : IoError) : ShareError :=
  ⟨operation, url, (error.number?.map fun number => Errno.ofNumber number.toInt).getD .ioFailure⟩

/-- The status code that tells the failure. -/
def code (error : ShareError) : Int32 :=
  error.errno.code

/-- The report of a failure. -/
def message (error : ShareError) : String :=
  s!"{error.operation} {error.url}: {error.errno.description}"

end ShareError

end FileShare
