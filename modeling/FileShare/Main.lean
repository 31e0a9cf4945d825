import FileShare.CommandLine.Program
import FileShare.Host.Planting

/-!
# The program on a real machine

Everything that the program decides is decided in memory, by `Program.run`. Here it is given what it
needs to know of the machine around it: the variables of the environment, the working directory and
the settings file. Then it is told to the user what came of it.

Sockets stay in memory as well. A server that listens there is not heard of by anybody else, and a
client from outside finds no server.
-/

namespace FileShare.CommandLine

/-- The environment of this process. -/
def environment : IO Environment := do
  let given ← Environment.names.filterMapM fun name => do
    pure ((← IO.getEnv name).map (name, ·))
  let userId := (← IO.getEnv "UID").bind String.toNat?
  pure ⟨given, userId.getD 0, "/"⟩

/-- Bring a file into memory. What is there but cannot be read is as good as a directory, and what
is not there is left out. -/
def bring (fs : FileSystem) (workDir : Path) (path : String) : IO FileSystem := do
  let base := if Spelling.isAbsolute path then [] else workDir
  match ← (IO.FS.readBinFile path).toBaseIO with
  | .ok data => pure (fs.plant base path.toUTF8 (.file data) none)
  | .error (.noFileOrDirectory ..) => pure fs
  | .error _ => pure (fs.plant base path.toUTF8 .directory none)

/-- The machine that a command line is run on. -/
def machine (words : List String) : IO Machine := do
  let environment ← environment
  let workDir : Path := (Route.ofBytes (← IO.currentDir).toString.toUTF8).steps.filterMap fun
    | .name name => some name
    | .here | .up => none
  let fs := FileSystem.ofDirectories 0 [workDir]
  let fs ← match Invocation.read words with
    | .run invocation =>
      bring fs workDir (invocation.settingsFile.getD environment.settingsPath)
    | _ => pure fs
  pure ⟨fs, workDir, environment, none⟩

end FileShare.CommandLine

open FileShare.CommandLine in
/-- Run the program, and show what it has to say. -/
def main (words : List String) : IO UInt32 := do
  let (finish, _) := Program.run (← machine words) words
  IO.print finish.output
  IO.eprint finish.errors
  pure (UInt32.ofNat finish.exitCode)
