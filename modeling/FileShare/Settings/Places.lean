import FileShare.Host.Spelling
import FileShare.Settings.Settings

/-!
# Where things are by default

Where the settings file, the socket and the shares are depends on the environment. A variable that
names a directory counts only if its value starts from the root. `Settings.standard` holds the
settings that are used unless others are asked for, and `Settings.override` what the environment
asks for.
-/

namespace FileShare

/-- What the program is told by the environment it runs in. -/
structure Environment where
  bindings : List (String × String)
  userId : Nat
  /-- The home directory of the user, for when no variable names it. -/
  userHome : String
  deriving Inhabited

namespace Environment

/-- The variables that matter. -/
def names : List String :=
  ["HOME", "XDG_CONFIG_HOME", "XDG_DATA_HOME", "XDG_RUNTIME_DIR", "SHARE_CONNECTOR_SOCKET",
    "SHARE_CONNECTOR_LOG_LEVEL", "SHARE_CONNECTOR_BACKEND_ROOT"]

/-- The value of a variable. An empty one counts as missing. -/
def value? (environment : Environment) (name : String) : Option String :=
  (environment.bindings.lookup name).filter (· ≠ "")

/-- The directory that a variable names. -/
def directory? (environment : Environment) (name : String) : Option String :=
  (environment.bindings.lookup name).filter Spelling.isAbsolute

/-- The home directory. -/
def home (environment : Environment) : String :=
  (environment.value? "HOME").getD environment.userHome

/-- A directory that a variable names, or else one below the home directory. -/
def directoryOr (environment : Environment) (name below : String) : String :=
  (environment.directory? name).getD (Spelling.join environment.home below)

/-- A path below a directory of this program. -/
def ownFile (directory name : String) : String :=
  Spelling.join (Spelling.join directory "share-connector") name

/-- Where the settings file is. -/
def settingsPath (environment : Environment) : String :=
  ownFile (environment.directoryOr "XDG_CONFIG_HOME" ".config") "config.toml"

/-- Where the socket is. -/
def socketPath (environment : Environment) : String :=
  match environment.directory? "XDG_RUNTIME_DIR" with
  | some directory => ownFile directory "connector.sock"
  | none => s!"/tmp/share-connector-{environment.userId}/connector.sock"

/-- Where the shares are. -/
def storeRoot (environment : Environment) : String :=
  ownFile (environment.directoryOr "XDG_DATA_HOME" ".local/share") "shares"

end Environment

namespace Settings

/-- The settings that are used unless others are asked for. -/
def standard (environment : Environment) : Settings :=
  ⟨⟨environment.socketPath, 300, "info", "", 1⟩, .standard, ⟨environment.storeRoot⟩, .standard⟩

/-- Put what the environment asks for in place of what is set. -/
def override (settings : Settings) (environment : Environment) : Settings :=
  let pick (name current : String) : String := (environment.value? name).getD current
  { settings with
    process := { settings.process with
      socketPath := pick "SHARE_CONNECTOR_SOCKET" settings.process.socketPath
      logLevel := pick "SHARE_CONNECTOR_LOG_LEVEL" settings.process.logLevel }
    store := ⟨pick "SHARE_CONNECTOR_BACKEND_ROOT" settings.store.root⟩ }

end Settings

end FileShare
