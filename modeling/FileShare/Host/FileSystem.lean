import FileShare.Host.Errno
import FileShare.Host.Path

/-!
# A file system

A `FileSystem` is a finite table of nodes under their paths: directories, files, symbolic links and
sockets. The content of a file is kept apart from its node, under a number of its own, so that a
file that has been opened can still be read and written after its name is gone.

Every operation takes a place to start from and a route. `FileSystem.place` walks the route: each
step but the last must lead to a directory, links on the way are followed, and the last step may
lead to nothing. What an operation then does depends on what is at the place. Every refusal has the
error number that POSIX gives it, and where two reasons apply, the one that the walk meets first.

Times are in milliseconds since the epoch. The clock is a field of the file system; only the
operations that change something write it down. A node keeps the time of its last change, and not
that of its creation.
-/

namespace FileShare

/-- What is at a path. -/
inductive Node where
  | directory (modified : Int64)
  /-- A file, by the number of its content. -/
  | file (id : Nat)
  /-- A symbolic link and its target, as it was spelled. -/
  | link (target : ByteArray) (modified : Int64)
  | socket (modified : Int64)
  deriving DecidableEq, Inhabited

/-- The content of a file. -/
structure Content where
  bytes : ByteArray
  modified : Int64
  deriving DecidableEq, Inhabited

/-- What a file system tells about a node. -/
structure NodeInfo where
  isDirectory : Bool
  isLink : Bool
  size : Nat
  modified : Int64
  deriving DecidableEq, Inhabited

/-- A **file system**. The root is a directory even if the table does not hold it. -/
structure FileSystem where
  nodes : List (Path × Node)
  /-- The contents of all files that ever were. -/
  contents : Array Content
  /-- The time that changes are given. -/
  clock : Int64
  deriving Inhabited

namespace FileSystem

/-- The most links that one walk follows. -/
def maxLinks : Nat := 40

/-! ### The table -/

/-- The node at a path. -/
def node? (fs : FileSystem) (path : Path) : Option Node :=
  if path = [] then
    some ((fs.nodes.lookup []).getD (.directory fs.clock))
  else
    fs.nodes.lookup path

/-- Whether a path holds a directory. -/
def isDirectoryAt (fs : FileSystem) (path : Path) : Bool :=
  match fs.node? path with
  | some (.directory _) => true
  | _ => false

/-- Put a node at a path, in place of what was there. -/
def put (fs : FileSystem) (path : Path) (node : Node) : FileSystem :=
  { fs with nodes := (path, node) :: fs.nodes.filter (·.1 ≠ path) }

/-- Take the node at a path away. -/
def erase (fs : FileSystem) (path : Path) : FileSystem :=
  { fs with nodes := fs.nodes.filter (·.1 ≠ path) }

/-- Take the node at a path away, and all below it. -/
def eraseTree (fs : FileSystem) (path : Path) : FileSystem :=
  { fs with nodes := fs.nodes.filter fun entry => !path.isPrefixOf entry.1 }

/-- The entries of a directory. -/
def children (fs : FileSystem) (path : Path) : List (Name × Node) :=
  fs.nodes.filterMap fun (below, node) =>
    match below.getLast? with
    | some name => if below.dropLast = path then some (name, node) else none
    | none => none

/-- Note that the entries of a directory have changed. -/
def touch (fs : FileSystem) (path : Path) : FileSystem :=
  match fs.node? path with
  | some (.directory _) => fs.put path (.directory fs.clock)
  | _ => fs

/-- What can be told about a node. -/
def infoOf (fs : FileSystem) : Node → NodeInfo
  | .directory modified => ⟨true, false, 0, modified⟩
  | .file id =>
    let content := fs.contents[id]?.getD ⟨ByteArray.empty, 0⟩
    ⟨false, false, content.bytes.size, content.modified⟩
  | .link target modified => ⟨false, true, target.size, modified⟩
  | .socket modified => ⟨false, false, 0, modified⟩

/-! ### Walking -/

/-- Where a route leads, if it is known where a link leads that is followed: it is the rest of the
route from there on that is asked for. -/
def walkUpTo (fs : FileSystem) (follow : Bool) (through : Path → List Step → Except Errno Path) :
    Path → List Step → Except Errno Path
  | path, [] => .ok path
  | path, step :: rest =>
    match fs.node? path with
    | none => .error .notFound
    | some (.directory _) =>
      match step with
      | .here => walkUpTo fs follow through path rest
      | .up => walkUpTo fs follow through path.dropLast rest
      | .name name =>
        if name.size > maxNameSize then
          .error .nameTooLong
        else
          match fs.node? (path ++ [name]) with
          | some (.link target _) =>
            if rest = [] ∧ !follow then
              .ok (path ++ [name])
            else
              let route := Route.ofBytes target
              through (if route.fromRoot then [] else path) (route.steps ++ rest)
          | _ => walkUpTo fs follow through (path ++ [name]) rest
    | some _ => .error .notDirectory

/-- Where a route leads. Its last step may lead to nothing; whether a link at the end is followed
is for the caller to say. The budget bounds the links that are followed. -/
def walk (fs : FileSystem) (follow : Bool) : Nat → Path → List Step → Except Errno Path
  | 0 => fs.walkUpTo follow fun _ _ => .error .tooManyLinks
  | budget + 1 => fs.walkUpTo follow (walk fs follow budget)

/-- Where a route leads, from some directory on. -/
def place (fs : FileSystem) (follow : Bool) (start : Path) (steps : List Step) :
    Except Errno Path :=
  fs.walk follow maxLinks start steps

/-- What is at the end of a route. -/
def find (fs : FileSystem) (follow : Bool) (start : Path) (steps : List Step) :
    Except Errno (Path × Node) := do
  let path ← fs.place follow start steps
  match fs.node? path with
  | some node => pure (path, node)
  | none => throw .notFound

/-- What can be told about the end of a route. -/
def info (fs : FileSystem) (follow : Bool) (start : Path) (steps : List Step) :
    Except Errno NodeInfo := do
  let (_, node) ← fs.find follow start steps
  pure (fs.infoOf node)

/-- Whether a route leads to something. -/
def leadsSomewhere (fs : FileSystem) (start : Path) (steps : List Step) : Bool :=
  match fs.find true start steps with
  | .ok _ => true
  | .error _ => false

/-! ### Directories -/

/-- Make a directory. -/
def makeDirectory (fs : FileSystem) (start : Path) (steps : List Step) :
    Except Errno FileSystem := do
  let path ← fs.place false start steps
  match fs.node? path with
  | some _ => throw .exists_
  | none => pure ((fs.put path (.directory fs.clock)).touch path.dropLast)

/-- Remove a directory that has no entries. -/
def removeDirectory (fs : FileSystem) (start : Path) (steps : List Step) :
    Except Errno FileSystem := do
  let (path, node) ← fs.find false start steps
  match node with
  | .directory _ =>
    if path = [] then throw .busy
    else if fs.children path ≠ [] then throw .notEmpty
    else pure ((fs.erase path).touch path.dropLast)
  | _ => throw .notDirectory

/-- The entries of a directory with what can be told about each; a link describes itself. -/
def list (fs : FileSystem) (start : Path) (steps : List Step) :
    Except Errno (List (Name × NodeInfo)) := do
  let (path, node) ← fs.find true start steps
  match node with
  | .directory _ => pure ((fs.children path).map fun (name, child) => (name, fs.infoOf child))
  | _ => throw .notDirectory

/-! ### Files -/

/-- Remove a name that is no directory. -/
def unlink (fs : FileSystem) (start : Path) (steps : List Step) : Except Errno FileSystem := do
  let (path, node) ← fs.find false start steps
  match node with
  | .directory _ => throw .isDirectory
  | _ => pure ((fs.erase path).touch path.dropLast)

/-- What a route can be opened as for reading. -/
inductive Opened where
  | directory
  /-- A file, by the number of its content. -/
  | file (id : Nat)
  deriving DecidableEq, Inhabited

/-- Open the end of a route for reading. -/
def openToRead (fs : FileSystem) (start : Path) (steps : List Step) : Except Errno Opened := do
  let (_, node) ← fs.find true start steps
  match node with
  | .directory _ => pure .directory
  | .file id => pure (.file id)
  | .link .. => throw .tooManyLinks
  | .socket _ => throw .noDevice

/-- Open the end of a route for writing: a file that exists loses its content, and a missing one is
made. -/
def openToWrite (fs : FileSystem) (start : Path) (steps : List Step) :
    Except Errno (FileSystem × Nat) := do
  let path ← fs.place true start steps
  match fs.node? path with
  | some (.directory _) => throw .isDirectory
  | some (.file id) =>
    pure ({ fs with contents := fs.contents.set! id ⟨ByteArray.empty, fs.clock⟩ }, id)
  | some (.link ..) => throw .tooManyLinks
  | some (.socket _) => throw .noDevice
  | none =>
    let id := fs.contents.size
    let made := { fs with contents := fs.contents.push ⟨ByteArray.empty, fs.clock⟩ }
    pure ((made.put path (.file id)).touch path.dropLast, id)

/-- At most `count` bytes of a file, from a position on. -/
def read (fs : FileSystem) (id position count : Nat) : ByteArray :=
  match fs.contents[id]? with
  | some content => content.bytes.extract position (position + count)
  | none => ByteArray.empty

/-- Bytes with others put over them from a position on; a gap is filled with zeros. -/
def overwrite (bytes : ByteArray) (position : Nat) (data : ByteArray) : ByteArray :=
  if position = bytes.size then
    bytes ++ data
  else if bytes.size < position then
    bytes ++ ⟨Array.replicate (position - bytes.size) 0⟩ ++ data
  else
    bytes.extract 0 position ++ data ++ bytes.extract (position + data.size) bytes.size

/-- Write into a file from a position on. -/
def write (fs : FileSystem) (id position : Nat) (data : ByteArray) : FileSystem :=
  if data.size = 0 then
    fs
  else
    let clock := fs.clock
    { fs with contents := fs.contents.modify id fun content =>
        ⟨overwrite content.bytes position data, clock⟩ }

/-! ### Renaming -/

/-- Whether two nodes are the same file. -/
def isSameFile : Node → Node → Bool
  | .file a, .file b => a == b
  | _, _ => false

/-- Move what is at one path, with all below it, to another path. -/
def move (fs : FileSystem) (source target : Path) : FileSystem :=
  let kept := (fs.eraseTree target).nodes
  let moved := kept.map fun (path, node) =>
    if source.isPrefixOf path then (target ++ path.drop source.length, node) else (path, node)
  { fs with nodes := moved }

/-- Give what is at the end of one route the name at the end of another, in place of what may be
there. A directory replaces only an empty directory, and anything else only what is no directory. -/
def rename (fs : FileSystem) (start : Path) (fromSteps toSteps : List Step) :
    Except Errno FileSystem := do
  let parentOf (steps : List Step) : Except Errno Path := do
    let (path, node) ← fs.find true start steps.dropLast
    match node with
    | .directory _ => pure path
    | _ => throw .notDirectory
  let _ ← parentOf fromSteps
  let _ ← parentOf toSteps
  let (source, node) ← fs.find false start fromSteps
  let target ← fs.place false start toSteps
  if source = target then
    pure fs
  else if source.isPrefixOf target then
    throw .invalid
  else if target.isPrefixOf source then
    throw .notEmpty
  else
    let done := ((fs.move source target).touch source.dropLast).touch target.dropLast
    match node, fs.node? target with
    | _, none => pure done
    | .directory _, some (.directory _) =>
      if fs.children target ≠ [] then throw .notEmpty else pure done
    | .directory _, some _ => throw .notDirectory
    | _, some (.directory _) => throw .isDirectory
    | node, some other => if isSameFile node other then pure fs else pure done

/-! ### Whole branches -/

/-- Make a directory with all directories above it, as far as they are missing. -/
def makeDirectories (fs : FileSystem) (start : Path) (steps : List Step) :
    Except Errno FileSystem :=
  match steps with
  | [] => .ok fs
  | step :: rest =>
    let steps := step :: rest
    let isThere (fs : FileSystem) : Bool :=
      match fs.find true start steps with
      | .ok (_, .directory _) => true
      | _ => false
    match fs.makeDirectory start steps with
    | .ok made => .ok made
    | .error first =>
      if first ≠ .notFound then
        if isThere fs then .ok fs else .error first
      else
        match makeDirectories fs start steps.dropLast with
        | .error above => .error above
        | .ok fs =>
          match fs.makeDirectory start steps with
          | .ok made => .ok made
          | .error second => if isThere fs then .ok fs else .error second
termination_by steps.length

/-- Write a whole file, in place of what it may have held. -/
def writeFile (fs : FileSystem) (start : Path) (steps : List Step) (data : ByteArray) :
    Except Errno FileSystem := do
  let (fs, id) ← fs.openToWrite start steps
  pure (fs.write id 0 data)

/-- Read a whole file. -/
def fileBytes (fs : FileSystem) (start : Path) (steps : List Step) : Except Errno ByteArray := do
  match ← fs.openToRead start steps with
  | .directory => throw .isDirectory
  | .file id => pure (fs.contents[id]?.getD ⟨ByteArray.empty, 0⟩).bytes

end FileSystem

end FileShare
