import FileShare.Host.FileSystem

/-!
# Planting file systems

A file system for a purpose is built by planting one entry after the other below some directory.
Directories on the way are made as needed, and what cannot be planted is left out. The time of the
last change of an entry may be set, though not into the future.
-/

namespace FileShare

/-- What to put at a path. -/
inductive Seed where
  | directory
  | file (data : ByteArray)
  | link (target : ByteArray)
  /-- Nothing; what is there is taken away. -/
  | nothing
  deriving Inhabited

namespace FileSystem

/-- A file system with some directories. -/
def ofDirectories (clock : Int64) (paths : List Path) : FileSystem :=
  paths.foldl (fun fs path => (fs.makeDirectories [] (path.map Step.name)).toOption.getD fs)
    ⟨[], #[], clock⟩

/-- Set the time of the last change of what is at a path. -/
def setModified (fs : FileSystem) (path : Path) (time : Int64) : FileSystem :=
  match fs.node? path with
  | some (.directory _) => fs.put path (.directory time)
  | some (.link target _) => fs.put path (.link target time)
  | some (.socket _) => fs.put path (.socket time)
  | some (.file id) =>
    { fs with contents := fs.contents.modify id fun content => { content with modified := time } }
  | none => fs

/-- Plant an entry. -/
def plant (fs : FileSystem) (base : Path) (spelled : ByteArray) (seed : Seed)
    (modified : Option Int) : FileSystem :=
  let steps := (Route.ofBytes spelled).steps
  let fs := (fs.makeDirectories base steps.dropLast).toOption.getD fs
  let path := (fs.place false base steps).toOption.getD base
  let fs := match seed with
    | .directory => (fs.makeDirectories base steps).toOption.getD fs
    | .file data => (fs.writeFile base steps data).toOption.getD fs
    | .link target => (fs.put path (.link target fs.clock)).touch path.dropLast
    | .nothing =>
      if (fs.node? path).isSome then (fs.eraseTree path).touch path.dropLast else fs
  match modified with
  | none => fs
  | some time =>
    fs.setModified ((fs.place true base steps).toOption.getD path)
      (Int64.ofInt (min time fs.clock.toInt))

/-- All entries below a directory, with their paths from there. -/
def below (fs : FileSystem) (base : Path) : List (Path × Node) :=
  fs.nodes.filterMap fun (path, node) =>
    if base.isPrefixOf path && path ≠ base then some (path.drop base.length, node) else none

end FileSystem

/-- The bytes of a path from some directory. -/
def Path.spelled : Path → ByteArray
  | [] => ByteArray.empty
  | [name] => name
  | name :: rest => (name.push 47) ++ Path.spelled rest

end FileShare
