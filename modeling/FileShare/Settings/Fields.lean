import FileShare.Settings.Settings
import FileShare.Toml.Document
import FileShare.Toml.Layout

/-!
# Settings as text

`sections` lists the fields of all settings with their names in the settings file, in the order in
which they are written. Reading and writing both follow this one table.

A field that is not mentioned keeps its value, and a name that no field has is skipped. A section
may also be given as an array of the values of its fields in order. A point in time in place of a
section says nothing about any field.
-/

namespace FileShare

open Toml (Value)

/-- A field of the settings: its name, what it shows and how it is set. Setting fails for a value of
the wrong kind or out of range. -/
structure Field where
  name : String
  show_ : Settings → Value
  set? : Value → Settings → Option Settings

namespace Field

/-- A field for a text. -/
def text (name : String) (get : Settings → String) (set : String → Settings → Settings) : Field :=
  ⟨name, fun s => .string (get s), fun
    | .string value, s => some (set value s)
    | _, _ => none⟩

/-- A field for a truth value. -/
def flag (name : String) (get : Settings → Bool) (set : Bool → Settings → Settings) : Field :=
  ⟨name, fun s => .boolean (get s), fun
    | .boolean value, s => some (set value s)
    | _, _ => none⟩

/-- A field for a number below a limit. -/
def number (name : String) (limit : Nat) (get : Settings → Nat) (set : Nat → Settings → Settings) :
    Field :=
  ⟨name, fun s => .integer (get s), fun
    | .integer value, s =>
      if 0 ≤ value ∧ value < limit then some (set value.toNat s) else none
    | _, _ => none⟩

end Field

namespace Settings

/-- Change the process settings. -/
def withProcess (settings : Settings) (change : ProcessSettings → ProcessSettings) : Settings :=
  { settings with process := change settings.process }

/-- Change the buffer settings. -/
def withBuffers (settings : Settings) (change : BufferSettings → BufferSettings) : Settings :=
  { settings with buffers := change settings.buffers }

/-- Change the request settings. -/
def withRequest (settings : Settings) (change : RequestSettings → RequestSettings) : Settings :=
  { settings with request := change settings.request }

/-- The fields of the process. -/
def processFields : List Field :=
  [ .text "socket_path" (·.process.socketPath) fun v s =>
      s.withProcess ({ · with socketPath := v }),
    .number "idle_timeout" UInt64.size (·.process.idleTimeout.toNat) fun v s =>
      s.withProcess ({ · with idleTimeout := .ofNat v }),
    .text "log_level" (·.process.logLevel) fun v s => s.withProcess ({ · with logLevel := v }),
    .text "log_file" (·.process.logFile) fun v s => s.withProcess ({ · with logFile := v }),
    .number "accept_backlog" UInt32.size (·.process.acceptBacklog.toNat) fun v s =>
      s.withProcess ({ · with acceptBacklog := .ofNat v }) ]

/-- The fields of the buffers. -/
def bufferFields : List Field :=
  [ .number "queue_size" UInt64.size (·.buffers.queueSize.toNat) fun v s =>
      s.withBuffers ({ · with queueSize := .ofNat v }),
    .number "unix_sock_buffer" UInt64.size (·.buffers.socketBuffer.toNat) fun v s =>
      s.withBuffers ({ · with socketBuffer := .ofNat v }),
    .number "backend_read_buffer" UInt64.size (·.buffers.readBuffer.toNat) fun v s =>
      s.withBuffers ({ · with readBuffer := .ofNat v }),
    .number "backend_write_buffer" UInt64.size (·.buffers.writeBuffer.toNat) fun v s =>
      s.withBuffers ({ · with writeBuffer := .ofNat v }) ]

/-- The fields of the served directory. -/
def storeFields : List Field :=
  [ .text "root" (·.store.root) fun v s => { s with store := ⟨v⟩ } ]

/-- The fields of the request. -/
def requestFields : List Field :=
  [ .number "op_code" UInt8.size (·.request.operation.toNat) fun v s =>
      s.withRequest ({ · with operation := .ofNat v }),
    .text "request_id" (·.request.requestId) fun v s => s.withRequest ({ · with requestId := v }),
    .text "url" (·.request.url) fun v s => s.withRequest ({ · with url := v }),
    .text "workgroup" (·.request.workgroup) fun v s => s.withRequest ({ · with workgroup := v }),
    .text "user_name" (·.request.userName) fun v s => s.withRequest ({ · with userName := v }),
    .text "password" (·.request.password) fun v s => s.withRequest ({ · with password := v }),
    .flag "kerberos" (·.request.kerberos) fun v s => s.withRequest ({ · with kerberos := v }),
    .number "page_size" UInt32.size (·.request.pageSize.toNat) fun v s =>
      s.withRequest ({ · with pageSize := .ofNat v }),
    .flag "show_only_folders" (·.request.onlyFolders) fun v s =>
      s.withRequest ({ · with onlyFolders := v }),
    .flag "show_hidden_files" (·.request.showHidden) fun v s =>
      s.withRequest ({ · with showHidden := v }),
    .number "start_offset" UInt64.size (·.request.startOffset.toNat) fun v s =>
      s.withRequest ({ · with startOffset := .ofNat v }),
    .number "end_offset" UInt64.size (·.request.endOffset.toNat) fun v s =>
      s.withRequest ({ · with endOffset := .ofNat v }),
    .text "output_file" (·.request.outputFile) fun v s =>
      s.withRequest ({ · with outputFile := v }),
    .text "input_file" (·.request.inputFile) fun v s =>
      s.withRequest ({ · with inputFile := v }) ]

/-- All fields, section by section. -/
def sections : List (String × List Field) :=
  [("connector", processFields), ("buffers", bufferFields), ("backend", storeFields),
    ("request", requestFields)]

/-! ### Reading -/

/-- Set the fields that a section mentions. -/
def readSection (fields : List Field) (given : Value) (settings : Settings) : Option Settings :=
  match given with
  | .table entries => entries.foldlM (fun settings (name, value) =>
      match fields.find? (·.name = name) with
      | some field => field.set? value settings
      | none => some settings) settings
  | .array items =>
    (fields.zip items).foldlM (fun settings (field, value) => field.set? value settings) settings
  | .dateTime _ => some settings
  | _ => none

/-- Set what a document mentions. -/
def readDocument (document : Value) (settings : Settings) : Option Settings :=
  sections.foldlM (fun settings (name, fields) =>
    match document.entry? name with
    | some given => readSection fields given settings
    | none => some settings) settings

/-- Set what a text mentions. -/
def read? (text : String) (settings : Settings) : Option Settings :=
  (Toml.read? text).bind (readDocument · settings)

/-! ### Writing -/

/-- What all fields show. -/
def shown (settings : Settings) : List (String × List (String × Value)) :=
  sections.map fun (name, fields) =>
    (name, fields.map fun field => (field.name, field.show_ settings))

/-- Settings as text. Numbers that do not fit into the text make it fail. -/
def write? (settings : Settings) : Option String :=
  Toml.write? settings.shown

end Settings

end FileShare
