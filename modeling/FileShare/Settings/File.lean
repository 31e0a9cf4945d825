import FileShare.Host.LocalFile
import FileShare.Settings.Fields
import FileShare.Settings.Places

/-!
# The settings file

Settings are loaded from a file, and saved into one. A file that is not there holds no settings, so
that loading it gives the standard ones.
-/

namespace FileShare

/-- Why settings could not be loaded or saved. -/
inductive SettingsFileError where
  | unreadable (path : String)
  | malformed (path : String)
  /-- The directory for the file could not be made. -/
  | noDirectory (path : String)
  /-- The settings cannot be written as text. -/
  | unwritten
  | unwritable (path : String)
  deriving DecidableEq, Repr, Inhabited

/-- The report of why settings could not be loaded or saved. -/
def SettingsFileError.message : SettingsFileError → String
  | unreadable path => s!"Failed to read config file: {path}"
  | malformed path => s!"Failed to parse config file: {path}"
  | noDirectory path => s!"Failed to create config directory: {path}"
  | unwritten => "Failed to serialize configuration to TOML"
  | unwritable path => s!"Failed to write config file: {path}"

namespace Settings

/-- Load settings from a file. -/
def load (fs : FileSystem) (workDir : Path) (environment : Environment) (path : String) :
    Except SettingsFileError Settings :=
  if LocalFile.leadsSomewhere fs workDir path then
    match (LocalFile.readAll fs workDir path).toOption.bind String.fromUTF8? with
    | none => .error (.unreadable path)
    | some text =>
      match read? text (standard environment) with
      | some settings => .ok settings
      | none => .error (.malformed path)
  else
    .ok (standard environment)

/-- Save settings into a file. -/
def save (fs : FileSystem) (workDir : Path) (path : String) (settings : Settings) :
    Except SettingsFileError FileSystem := do
  let fs ← match Spelling.parent? path with
    | none => pure fs
    | some above =>
      match LocalFile.makeDirectories fs workDir above with
      | .ok fs => pure fs
      | .error _ => throw (.noDirectory above)
  match settings.write? with
  | none => throw .unwritten
  | some text =>
    match LocalFile.writeAll fs workDir path text.toUTF8 with
    | .ok fs => pure fs
    | .error _ => throw (.unwritable path)

end Settings

end FileShare
