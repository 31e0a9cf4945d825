import FileShare.Share.Call
import FileShare.Share.ShareError
import FileShare.Share.Stat
import FileShare.Share.Url

/-!
# A store of shares

A `Store` serves shares from a directory of a file system: under its root stand the servers, under
them their shares. `ShareM` is a computation on a store that may fail.

Every operation is a call: it is first exposed to the faults of the store, and then recorded with
its answer (`attempt`). Directories are listed as they are when they are opened, by the bytes of
their names. Files are opened under a number and keep a position; they outlive their names.
-/

namespace FileShare

/-- An entry of a directory of a share. -/
structure Entry where
  name : String
  stat : Stat
  deriving DecidableEq, Inhabited

/-- A directory that is being listed. -/
structure Directory where
  /-- The URL it was opened with. -/
  url : String
  /-- The entries that have not been given out. -/
  entries : List Entry
  deriving DecidableEq, Inhabited

/-- A file that is open, or was. -/
structure OpenFile where
  /-- The URL it was opened with. -/
  url : String
  /-- The name at the end of its path. -/
  name : Name
  /-- The number of its content. -/
  content : Nat
  mode : OpenMode
  /-- Where the next read or write begins. -/
  position : Nat
  isOpen : Bool
  deriving DecidableEq, Inhabited

/-- The number of an open file. -/
structure FileId where
  index : Nat
  deriving DecidableEq, Repr, Inhabited

/-- A **store** of shares. -/
structure Store where
  fs : FileSystem
  /-- The directory that holds the servers. -/
  root : Path
  faults : List Fault
  /-- All calls so far with their answers. -/
  calls : Array (Call × Answer)
  /-- All files that were ever opened. -/
  files : Array OpenFile
  /-- The number of temporary names that were given out. It is the next token, in place of a random
  one. -/
  tokens : Nat
  deriving Inhabited

/-- A computation on a store that may fail. -/
abbrev ShareM := ExceptT ShareError (StateM Store)

namespace Store

/-- A store on a directory of a file system, with nothing opened yet. -/
def onRoot (fs : FileSystem) (root : Path) (faults : List Fault) : Store :=
  ⟨fs, root, faults, #[], #[], 0⟩

/-- Record a call. -/
def record (store : Store) (call : Call) (answer : Answer) : Store :=
  { store with calls := store.calls.push (call, answer) }

/-- The bytes of a path when it is spelled. -/
def spelledSize (path : Path) : Nat :=
  path.foldl (fun size name => size + name.size + 1) 0

/-- The steps from the root that a URL stands for. Names that no file can have are refused. -/
def steps? (store : Store) (url : String) : Except Errno (List Step) := do
  let names ← Url.names? url
  if names.any fun name => name.data.contains 0 then
    throw .ioFailure
  else if spelledSize (store.root ++ names) > maxRouteSize then
    throw .nameTooLong
  else
    pure (names.map Step.name)

/-- The name at the end of some steps. -/
def lastName (steps : List Step) : Name :=
  match steps.getLast? with
  | some (.name name) => name
  | _ => ByteArray.empty

end Store

namespace Share

/-! ### Calls -/

/-- Make a call: unless a fault makes it fail, do what it is for, and record what came of it. What
is to be done is told how much it may read or write at most, if a fault limits it. -/
def attempt {α : Type} (call : Call) (answer : α → Answer)
    (body : Option Nat → Store → Except ShareError α × Store) : ShareM α :=
  ExceptT.mk fun store =>
    let (disturbance, faults) := Fault.disturb call store.faults
    let store := { store with faults }
    match disturbance.bind (·.errno) with
    | some errno =>
      (.error ⟨call.operation.name, call.url, errno⟩, store.record call (.failed errno))
    | none =>
      match body (disturbance.bind (·.limit)) store with
      | (.ok result, store) => (.ok result, store.record call (answer result))
      | (.error error, store) => (.error error, store.record call (.failed error.errno))

/-- The failure of a call for some reason. -/
def failure (call : Call) (errno : Errno) : ShareError :=
  ⟨call.operation.systemName, call.url, errno⟩

/-- A call that only looks. -/
def inspect {α : Type} (call : Call) (answer : α → Answer) (look : Store → Except Errno α) :
    ShareM α :=
  attempt call answer fun _ store => ((look store).mapError (failure call), store)

/-- A call that changes the file system. -/
def change (call : Call) (act : Store → Except Errno FileSystem) : ShareM Unit :=
  attempt call (fun _ => .ok) fun _ store =>
    match act store with
    | .ok fs => (.ok (), { store with fs })
    | .error errno => (.error (failure call errno), store)

/-- Adopt credentials. Any are accepted, as long as their URL is not empty. -/
def connect (credentials : Credentials) : ShareM Unit :=
  inspect ⟨.connect, credentials.url, .none⟩ (fun _ => .ok) fun _ =>
    if Url.normalize credentials.url = "" then .error .invalid else .ok ()

/-- What is known about the end of a URL. -/
def stat (url : String) : ShareM Stat :=
  inspect ⟨.stat, url, .none⟩ (fun _ => .ok) fun store => do
    let steps ← store.steps? url
    let info ← store.fs.info true store.root steps
    pure (Stat.ofNodeInfo (Store.lastName steps) info)

/-- What is known about a URL; a link at its end describes itself. -/
def linkStat (url : String) : ShareM Stat :=
  inspect ⟨.linkStat, url, .none⟩ (fun _ => .ok) fun store => do
    let steps ← store.steps? url
    let info ← store.fs.info false store.root steps
    pure (Stat.ofNodeInfo (Store.lastName steps) info)

/-- Make a directory. -/
def makeDirectory (url : String) : ShareM Unit :=
  change ⟨.makeDirectory, url, .none⟩ fun store => do
    store.fs.makeDirectory store.root (← store.steps? url)

/-- Remove a directory without entries. -/
def removeDirectory (url : String) : ShareM Unit :=
  change ⟨.removeDirectory, url, .none⟩ fun store => do
    store.fs.removeDirectory store.root (← store.steps? url)

/-- Remove what is no directory. -/
def unlink (url : String) : ShareM Unit :=
  change ⟨.unlink, url, .none⟩ fun store => do
    store.fs.unlink store.root (← store.steps? url)

/-- Give an entry another URL, in place of what may be there. Of two URLs that cannot be resolved,
the first is reported; all other failures are put down to the first URL. -/
def rename (source target : String) : ShareM Unit :=
  let call : Call := ⟨.rename, source, .to target⟩
  attempt call (fun _ => .ok) fun _ store =>
    let renamed : Except ShareError FileSystem := do
      let _ ← (Url.names? source).mapError (failure call)
      let _ ← (Url.names? target).mapError (failure { call with url := target })
      let moved : Except Errno FileSystem := do
        store.fs.rename store.root (← store.steps? source) (← store.steps? target)
      moved.mapError (failure call)
    match renamed with
    | .ok fs => (.ok (), { store with fs })
    | .error error => (.error error, store)

/-! ### Directories -/

/-- Open a directory for listing. -/
def openDirectory (url : String) : ShareM Directory :=
  inspect ⟨.openDirectory, url, .none⟩ (fun _ => .ok) fun store => do
    let children ← store.fs.list store.root (← store.steps? url)
    let sorted := children.mergeSort fun a b => a.1.le b.1
    pure ⟨url, sorted.map fun (name, info) => ⟨lossyText name, Stat.ofNodeInfo name info⟩⟩

/-- The next entry of a directory, if there is one. -/
def nextEntry (directory : Directory) : ShareM (Option Entry) :=
  inspect ⟨.nextEntry, directory.url, .none⟩
    (fun | some entry => .name entry.name | none => .atEnd)
    fun _ => .ok directory.entries.head?

/-! ### Files -/

/-- Open a file. A directory can be opened neither for reading nor for writing. -/
def openFile (url : String) (mode : OpenMode) : ShareM FileId :=
  let call : Call := ⟨.openFile, url, .mode mode⟩
  attempt call (fun _ => .ok) fun _ store =>
    let opened : Except Errno (FileSystem × Nat × Name) := do
      let steps ← store.steps? url
      match mode with
      | .read =>
        match ← store.fs.openToRead store.root steps with
        | .directory => throw .isDirectory
        | .file content => pure (store.fs, content, Store.lastName steps)
      | .create =>
        let (fs, content) ← store.fs.openToWrite store.root steps
        pure (fs, content, Store.lastName steps)
    match opened with
    | .ok (fs, content, name) =>
      (.ok ⟨store.files.size⟩,
        { store with fs, files := store.files.push ⟨url, name, content, mode, 0, true⟩ })
    | .error errno => (.error (failure call errno), store)

/-- The record of a file. -/
def fileOf (store : Store) (id : FileId) : OpenFile :=
  store.files[id.index]?.getD default

/-- A call on an open file; on a closed one it fails. -/
def onFile {α : Type} (operation : Operation) (argument : Argument) (id : FileId)
    (answer : α → Answer) (body : OpenFile → Option Nat → Store → Except Errno α × Store) :
    ShareM α := do
  let file := fileOf (← get) id
  let call : Call := ⟨operation, file.url, argument⟩
  attempt call answer fun limit store =>
    if file.isOpen then
      let (result, store) := body file limit store
      (result.mapError (failure call), store)
    else
      (.error (failure call .badHandle), store)

/-- Replace the record of a file. -/
def setFile (store : Store) (id : FileId) (file : OpenFile) : Store :=
  { store with files := store.files.set! id.index file }

/-- What is known about an open file. -/
def fileStat (id : FileId) : ShareM Stat :=
  onFile .fileStat .none id (fun _ => .ok) fun file _ store =>
    (.ok (Stat.ofNodeInfo file.name (store.fs.infoOf (.file file.content))), store)

/-- The largest size of a file on one kind of file system, which has blocks of 4096 bytes: one block
short of `2 ^ 44`. Another kind has another limit. -/
def maxFileSize : Nat := 0xffffffff000

/-- Move to a position, which may lie beyond the end of the file, but not beyond the largest size
that the file system allows. -/
def seek (id : FileId) (position : UInt64) : ShareM Nat :=
  onFile .seek (.number position.toNat) id .number fun file _ store =>
    if position.toNat > maxFileSize then
      (.error .invalid, store)
    else
      (.ok position.toNat, setFile store id { file with position := position.toNat })

/-- Read at most `size` bytes; there are none only at the end of the file. -/
def read (id : FileId) (size : Nat) : ShareM ByteArray :=
  onFile .read (.number size) id (fun data => .number data.size) fun file limit store =>
    if file.mode = .read then
      let data := store.fs.read file.content file.position (min size (limit.getD size))
      (.ok data, setFile store id { file with position := file.position + data.size })
    else
      (.error .badHandle, store)

/-- Write bytes, and tell how many were written: all of them, unless a fault limits it. -/
def write (id : FileId) (data : ByteArray) : ShareM Nat :=
  onFile .write (.number data.size) id .number fun file limit store =>
    let data := data.extract 0 (limit.getD data.size)
    if file.mode = .create ∨ data.size = 0 then
      (.ok data.size, setFile { store with fs := store.fs.write file.content file.position data } id
        { file with position := file.position + data.size })
    else
      (.error .badHandle, store)

/-- Give a file up. -/
def close (id : FileId) : ShareM Unit :=
  onFile .close .none id (fun _ => .ok) fun file _ store =>
    (.ok (), setFile store id { file with isOpen := false })

/-! ### Failures that are borne -/

/-- What an action comes to, as a value. -/
def outcome {α : Type} (action : ShareM α) : ShareM (Except ShareError α) :=
  ExceptT.mk do
    let result ← action.run
    pure (.ok result)

/-- Do something that may fail, and go on in either case. -/
def tolerate {α : Type} (action : ShareM α) : StateM Store Unit := do
  let _ ← action.run

end Share

end FileShare
