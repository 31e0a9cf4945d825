import FileShare.CommandLine.Invocation
import FileShare.CommandLine.Report
import FileShare.Service.Meeting
import FileShare.Settings.File

/-!
# The program

`Program.run` is what the program does on a `Machine`, from its command line to its exit code. It
loads the settings, puts the wishes of the environment and of the command line in their place,
checks them, opens the log, and then serves or runs one exchange.

A server that nobody talks to runs until it has been idle for long enough or is interrupted, which
ends it in the same way: it takes its socket away and reports success.
-/

namespace FileShare.CommandLine

/-- What the program runs on. -/
structure Machine where
  fs : FileSystem
  workDir : Path
  environment : Environment
  /-- A server that is running already. -/
  server : Option Server
  deriving Inhabited

/-- Stop the server that is running. -/
def Machine.stopServer (machine : Machine) : Machine :=
  match machine.server with
  | none => machine
  | some server =>
    let server := (server.withFiles machine.fs).stop
    { machine with fs := server.store.fs, server }

/-- How the program ends. -/
structure Finish where
  exitCode : Nat
  output : String
  errors : String
  deriving Inhabited

namespace Finish

/-- The exit code for a command line that makes no sense. -/
def usage : Finish :=
  ⟨2, "", "error: invalid usage; see --help\n"⟩

/-- The program ends because something is wrong. -/
def failure (reason : String) : Finish :=
  ⟨1, "", s!"Error: {reason}\n"⟩

/-- The program cannot go on. -/
def broken : Finish :=
  ⟨101, "", ""⟩

end Finish

namespace Program

/-! ### The log -/

/-- Open the log file, in a directory that is made if it is missing. Nothing is opened if the log
goes to the standard error stream. -/
def openLog (fs : FileSystem) (workDir : Path) (path : String) : Except Finish FileSystem :=
  if path = "" then
    .ok fs
  else
    match Spelling.name? path with
    | none => .error (.failure s!"Invalid log file path: {path}")
    | some name =>
      let above := (Spelling.parent? path).getD ""
      let directory := if above = "" then "." else above
      match LocalFile.makeDirectories fs workDir directory with
      | .error _ => .error (.failure s!"Failed to create log directory: {directory}")
      | .ok fs =>
        let path := Spelling.join directory name
        match LocalFile.openToRead fs workDir path with
        | .ok (.file _) => .ok fs
        | .ok .directory => .error .broken
        | .error _ =>
          match LocalFile.create fs workDir path with
          | .ok (fs, _) => .ok fs
          | .error _ => .error .broken

/-! ### Running -/

/-- The settings that a command line runs with. -/
def settings (machine : Machine) (invocation : Invocation) : Except String Settings := do
  let environment := machine.environment
  let path := invocation.settingsFile.getD environment.settingsPath
  let loaded ← (Settings.load machine.fs machine.workDir environment path).mapError (·.message)
  let settings := invocation.order.apply (loaded.override environment)
  settings.validate.mapError (·.message)
  pure settings

/-- Serve until interrupted. -/
def serve (machine : Machine) (settings : Settings) : Finish × Machine :=
  match Server.bind settings (.onRoot machine.fs [] []) machine.workDir with
  | .error _ => (.failure (Server.bindFailure settings.process.socketPath), machine)
  | .ok server => (⟨0, "", ""⟩, { machine with fs := server.stop.store.fs })

/-- Run one exchange with the server, if its socket is where the settings say. -/
def exchange (machine : Machine) (settings : Settings) : Except ClientError Outcome × Machine :=
  let reached := machine.server.filter fun server =>
    Server.leadsTo machine.fs machine.workDir settings.process.socketPath
      server.settings.process.socketPath
  let store := Store.onRoot machine.fs [] []
  match Client.start settings store machine.workDir reached.isSome, reached with
  | .error error, _ => (.error error, machine)
  | .ok _, none => (.error (.noConnection settings.process.socketPath), machine)
  | .ok client, some server =>
    let (outcome, server) := Meeting.run client (server.withFiles machine.fs)
    (.ok outcome, { machine with fs := server.store.fs, server := some server })

/-- Do what a command line that makes sense asks for. -/
def perform (machine : Machine) (invocation : Invocation) : Finish × Machine :=
  match settings machine invocation with
  | .error reason => (.failure reason, machine)
  | .ok settings =>
    match openLog machine.fs machine.workDir settings.process.logFile with
    | .error finish => (finish, machine)
    | .ok fs =>
      let machine := { machine with fs }
      match invocation.order with
      | .server _ => serve machine settings
      | .client order =>
        match exchange machine settings with
        | (.error error, machine) => (.failure error.message, machine)
        | (.ok outcome, machine) =>
          let (output, errors) := report order.asJson outcome
          (⟨if outcome.isSuccess then 0 else 1, output, errors⟩, machine)

/-- Run the program. -/
def run (machine : Machine) (words : List String) : Finish × Machine :=
  match Invocation.read words with
  | .refused => (.usage, machine)
  | .help text => (⟨0, text, ""⟩, machine)
  | .version => (⟨0, versionText, ""⟩, machine)
  | .run invocation => perform machine invocation

end Program

end FileShare.CommandLine
