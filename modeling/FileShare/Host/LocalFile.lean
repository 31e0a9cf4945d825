import FileShare.Host.FileSystem
import FileShare.Host.IoError

/-!
# Local files

Settings and command lines name local files by spelled paths, which start from the working
directory unless they start from the root. The functions here open such files and give the failures
that the system reports for odd spellings.

`BufferedFile` is a file that is written through a buffer: small pieces are gathered, and what does
not fit makes room first. What is in the buffer is in no file yet.
-/

namespace FileShare

namespace LocalFile

/-- The place to start from and the steps of a spelled path. -/
def locate (workDir : Path) (path : String) : Except IoError (Path × List Step) :=
  let bytes := path.toUTF8
  if bytes.data.contains 0 then
    .error (.text .other "file name contained an unexpected NUL byte")
  else if bytes.size > maxRouteSize then
    .error (.ofErrno .nameTooLong)
  else if bytes.size = 0 then
    .error (.ofErrno .notFound)
  else
    let route := Route.ofBytes bytes
    .ok (if route.fromRoot then [] else workDir, route.steps)

/-- Open a file for reading. -/
def openToRead (fs : FileSystem) (workDir : Path) (path : String) :
    Except IoError FileSystem.Opened := do
  let (start, steps) ← locate workDir path
  (fs.openToRead start steps).mapError .ofErrno

/-- Open a file for writing, empty. A path that can only be that of a directory names no file, even
if nothing is there. -/
def create (fs : FileSystem) (workDir : Path) (path : String) :
    Except IoError (FileSystem × Nat) := do
  let (start, steps) ← locate workDir path
  match steps.getLast? with
  | some (.name _) => (fs.openToWrite start steps).mapError .ofErrno
  | _ =>
    let above := if path.endsWith "/" then steps.dropLast.dropLast else steps.dropLast
    match fs.find true start above with
    | .error errno => throw (.ofErrno errno)
    | .ok (_, .directory _) => throw (.ofErrno .isDirectory)
    | .ok _ => throw (.ofErrno .notDirectory)

/-- Whether a path leads to something. -/
def leadsSomewhere (fs : FileSystem) (workDir : Path) (path : String) : Bool :=
  match locate workDir path with
  | .ok (start, steps) => fs.leadsSomewhere start steps
  | .error _ => false

/-- Read a whole file. -/
def readAll (fs : FileSystem) (workDir : Path) (path : String) : Except IoError ByteArray := do
  let (start, steps) ← locate workDir path
  (fs.fileBytes start steps).mapError .ofErrno

/-- Write a whole file, in place of what it may have held. -/
def writeAll (fs : FileSystem) (workDir : Path) (path : String) (data : ByteArray) :
    Except IoError FileSystem := do
  let (fs, content) ← create fs workDir path
  pure (fs.write content 0 data)

/-- Make a directory with all directories above it, as far as they are missing. The empty path is
always there. -/
def makeDirectories (fs : FileSystem) (workDir : Path) (path : String) :
    Except IoError FileSystem := do
  if path = "" then
    pure fs
  else
    let (start, steps) ← locate workDir path
    (fs.makeDirectories start steps).mapError .ofErrno

/-- Remove a name that is no directory. -/
def remove (fs : FileSystem) (workDir : Path) (path : String) : Except IoError FileSystem := do
  let (start, steps) ← locate workDir path
  (fs.unlink start steps).mapError .ofErrno

end LocalFile

/-- A file that is written through a buffer. -/
structure BufferedFile where
  /-- The number of its content. -/
  content : Nat
  /-- Where the next write goes. -/
  position : Nat
  /-- What has not been written yet. -/
  buffer : ByteArray
  deriving DecidableEq, Inhabited

namespace BufferedFile

/-- How many bytes are gathered. -/
def capacity : Nat := 8192

/-- A file that has just been opened. -/
def ofContent (content : Nat) : BufferedFile :=
  ⟨content, 0, ByteArray.empty⟩

/-- Write what has been gathered. -/
def flush (file : BufferedFile) (fs : FileSystem) : BufferedFile × FileSystem :=
  ({ file with position := file.position + file.buffer.size, buffer := ByteArray.empty },
    fs.write file.content file.position file.buffer)

/-- Write bytes. -/
def write (file : BufferedFile) (fs : FileSystem) (data : ByteArray) : BufferedFile × FileSystem :=
  let (file, fs) := if capacity < file.buffer.size + data.size then file.flush fs else (file, fs)
  if data.size < capacity then
    ({ file with buffer := file.buffer ++ data }, fs)
  else
    ({ file with position := file.position + data.size },
      fs.write file.content file.position data)

end BufferedFile

end FileShare
