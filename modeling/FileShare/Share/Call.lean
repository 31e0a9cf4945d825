import FileShare.Host.Errno

/-!
# Calls on a share, and what can disturb them

Everything that happens to a share is a `Call`, and every call leaves a record of what came of it.
A `Fault` disturbs calls: those of one operation whose URL ends in a given way, after letting some
of them pass and until it is used up. The first fault in a list that applies to a call decides; a
fault that lets the call pass has been asked, one behind the deciding fault has not.

A list of faults can spell any finite script of failures, since each fault can be made to wait for
its turn.
-/

namespace FileShare

/-- The operations on a share. -/
inductive Operation where
  | connect
  | openDirectory
  | openFile
  | stat
  | linkStat
  | makeDirectory
  | removeDirectory
  | unlink
  | rename
  | nextEntry
  | fileStat
  | seek
  | read
  | write
  | close
  deriving DecidableEq, Repr, Inhabited

namespace Operation

/-- All operations. -/
def all : List Operation :=
  [connect, openDirectory, openFile, stat, linkStat, makeDirectory, removeDirectory, unlink,
    rename, nextEntry, fileStat, seek, read, write, close]

/-- The name of an operation, as records have it. -/
def name : Operation → String
  | connect => "connect"
  | openDirectory => "open_dir"
  | openFile => "open_file"
  | stat => "stat"
  | linkStat => "lstat"
  | makeDirectory => "mkdir"
  | removeDirectory => "rmdir"
  | unlink => "unlink"
  | rename => "rename"
  | nextEntry => "next_entry"
  | fileStat => "fstat"
  | seek => "seek"
  | read => "read"
  | write => "write"
  | close => "close"

/-- The call of the system behind an operation, as reports of its failures have it. -/
def systemName : Operation → String
  | openDirectory => "opendir"
  | openFile => "open"
  | nextEntry => "readdir"
  | seek => "lseek"
  | operation => operation.name

/-- The operation with a name. -/
def ofName? (name : String) : Option Operation :=
  all.find? (·.name == name)

end Operation

/-- How a file is opened. -/
inductive OpenMode where
  | read
  /-- For writing; what the file held is dropped, and a missing file is made. -/
  | create
  deriving DecidableEq, Repr, Inhabited

/-- What a call has beside its URL. -/
inductive Argument where
  | none
  | mode (mode : OpenMode)
  /-- The second URL of a rename. -/
  | to (url : String)
  /-- A position, or a number of bytes. -/
  | number (n : Nat)
  deriving DecidableEq, Repr, Inhabited

/-- A call on a share. -/
structure Call where
  operation : Operation
  url : String
  argument : Argument
  deriving DecidableEq, Repr, Inhabited

/-- What came of a call. -/
inductive Answer where
  | ok
  | number (n : Nat)
  /-- The name of a directory entry. -/
  | name (name : String)
  /-- A directory has no further entries. -/
  | atEnd
  | failed (errno : Errno)
  deriving DecidableEq, Repr, Inhabited

/-- How a call and its answer stand in a record: the operation, the URL, what the call has beside
it, and what came of it. -/
def Call.line (call : Call) (answer : Answer) : String :=
  let argument := match call.argument with
    | .none => ""
    | .mode .read => " Read"
    | .mode .create => " Create"
    | .to url => " " ++ url
    | .number n => s!" {n}"
  let result := match answer with
    | .ok => "ok"
    | .number n => toString n
    | .name name => name
    | .atEnd => "end"
    | .failed errno => s!"E{errno.number}"
  s!"{call.operation.name} {call.url}{argument} -> {result}"

/-- What a fault does to a call. -/
structure Disturbance where
  /-- Fail, without touching anything. -/
  errno : Option Errno
  /-- Read or write no more than this. -/
  limit : Option Nat
  deriving DecidableEq, Repr, Inhabited

/-- A **fault**. -/
structure Fault where
  operation : Operation
  /-- How the URL of a call must end. -/
  suffix : String
  /-- How many calls are still let pass. -/
  skip : Nat
  /-- How many calls are disturbed after that; all, if nothing is said. -/
  count : Option Nat
  effect : Disturbance
  deriving DecidableEq, Repr, Inhabited

namespace Fault

/-- Whether a fault is about a call. -/
def concerns (fault : Fault) (call : Call) : Bool :=
  fault.operation == call.operation && fault.suffix.toList.isSuffixOf call.url.toList

/-- What a list of faults does to the next call, and what is left of the faults. -/
def disturb (call : Call) : List Fault → Option Disturbance × List Fault
  | [] => (none, [])
  | fault :: rest =>
    if fault.concerns call then
      if 0 < fault.skip then
        let (disturbance, rest) := disturb call rest
        (disturbance, { fault with skip := fault.skip - 1 } :: rest)
      else
        match fault.count with
        | none => (some fault.effect, fault :: rest)
        | some (count + 1) => (some fault.effect, { fault with count := some count } :: rest)
        | some 0 =>
          let (disturbance, rest) := disturb call rest
          (disturbance, fault :: rest)
    else
      let (disturbance, rest) := disturb call rest
      (disturbance, fault :: rest)

/-- Without faults, nothing is disturbed. -/
@[simp] theorem disturb_nil (call : Call) : disturb call [] = (none, []) := rfl

end Fault

end FileShare
