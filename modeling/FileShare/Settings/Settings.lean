import FileShare.Wire.Packet

/-!
# Settings

The settings of the program come in four sections: the process, the buffers, the served directory,
and the request that a client makes. Numbers have the width that a machine gives them.

`Settings.validate` is what stands between settings and their use. It checks the sections in a fixed
order and reports the first thing that is wrong.
-/

namespace FileShare

/-- Settings of the process. -/
structure ProcessSettings where
  /-- The socket on which server and client meet. -/
  socketPath : String
  /-- Seconds without activity before a server ends. -/
  idleTimeout : UInt64
  logLevel : String
  /-- Where the log goes; nothing means to the standard error stream. -/
  logFile : String
  /-- How many connections may wait to be accepted. -/
  acceptBacklog : UInt32
  deriving DecidableEq, Repr, Inhabited

/-- Sizes of queues and buffers. -/
structure BufferSettings where
  /-- The capacity of each queue of a session. -/
  queueSize : UInt64
  /-- The most bytes that are received at once, and the most data bytes in a packet. -/
  socketBuffer : UInt64
  /-- Bytes that a download reads at once. -/
  readBuffer : UInt64
  /-- Bytes that an upload reads at once. -/
  writeBuffer : UInt64
  deriving DecidableEq, Repr, Inhabited

/-- Settings of the served directory. -/
structure StoreSettings where
  /-- The directory that holds one directory per server. -/
  root : String
  deriving DecidableEq, Repr, Inhabited

/-- What a client asks for. -/
structure RequestSettings where
  /-- The operation, from one to six; zero means that none is selected. -/
  operation : UInt8
  requestId : String
  url : String
  workgroup : String
  userName : String
  password : String
  kerberos : Bool
  /-- Entries per page of a listing. -/
  pageSize : UInt32
  onlyFolders : Bool
  showHidden : Bool
  /-- The first byte to download. -/
  startOffset : UInt64
  /-- The last byte to download; zero means the last one of the file. -/
  endOffset : UInt64
  /-- Where a download goes. -/
  outputFile : String
  /-- Where an upload comes from. -/
  inputFile : String
  deriving DecidableEq, Repr, Inhabited

/-- All settings. -/
structure Settings where
  process : ProcessSettings
  buffers : BufferSettings
  store : StoreSettings
  request : RequestSettings
  deriving DecidableEq, Repr, Inhabited

namespace BufferSettings

/-- The sizes that are used unless others are asked for. -/
def standard : BufferSettings :=
  ⟨10, 61440, 364544, 61440⟩

end BufferSettings

namespace RequestSettings

/-- The request that is made unless another is asked for. -/
def standard : RequestSettings :=
  ⟨0, "1234", "", "", "", "", false, 5, false, true, 0, 0, "out", ""⟩

/-- The credentials that open an exchange. -/
def credentials (request : RequestSettings) : Credentials :=
  ⟨request.url, request.workgroup, request.userName, request.password, request.kerberos⟩

end RequestSettings

/-! ### Validation -/

/-- What can be wrong with settings. -/
inductive SettingsError where
  | queueSize (got : UInt64)
  | zeroBuffer (name : String)
  | bufferTooLarge (name : String) (got : UInt64)
  | zeroPageSize
  | zeroIdleTimeout
  | operation (got : UInt8)
  | logLevel (got : String)
  deriving DecidableEq, Repr, Inhabited

namespace SettingsError

/-- The report of what is wrong. -/
def message : SettingsError → String
  | queueSize got => s!"queue_size must be between 1 and 1024, got {got.toNat}"
  | zeroBuffer name => s!"{name} must be greater than 0"
  | bufferTooLarge name got => s!"{name} must be at most {Header.maxPayload} bytes, got {got.toNat}"
  | zeroPageSize => "page_size must be greater than 0"
  | zeroIdleTimeout => "idle_timeout must be greater than 0"
  | operation got => s!"op_code must be between 0 and 6, got {got.toNat}"
  | logLevel got => s!"log_level must be one of: trace, debug, info, warn, error; got {got}"

end SettingsError

/-- Whether a text names a level of the log, in any case of letters. The names have letters of ASCII
only, and no other letter has one of them as its lower case. -/
def isLogLevel (level : String) : Bool :=
  ["trace", "debug", "info", "warn", "error"].contains
    (String.ofList (level.toList.map Char.toLower))

/-- The largest capacity of a queue. -/
def maxQueueSize : UInt64 := 1024

namespace Settings

/-- Check settings, section by section. -/
def validate (settings : Settings) : Except SettingsError Unit :=
  let buffers := settings.buffers
  if buffers.queueSize < 1 ∨ maxQueueSize < buffers.queueSize then
    .error (.queueSize buffers.queueSize)
  else if buffers.socketBuffer = 0 then
    .error (.zeroBuffer "unix_sock_buffer")
  else if Header.maxPayload < buffers.socketBuffer.toNat then
    .error (.bufferTooLarge "unix_sock_buffer" buffers.socketBuffer)
  else if buffers.readBuffer = 0 then
    .error (.zeroBuffer "backend_read_buffer")
  else if buffers.writeBuffer = 0 then
    .error (.zeroBuffer "backend_write_buffer")
  else if settings.request.pageSize = 0 then
    .error .zeroPageSize
  else if settings.process.idleTimeout = 0 then
    .error .zeroIdleTimeout
  else if 6 < settings.request.operation then
    .error (.operation settings.request.operation)
  else if isLogLevel settings.process.logLevel then
    .ok ()
  else
    .error (.logLevel settings.process.logLevel)

end Settings

/-! ### What an exchange needs -/

/-- The settings that an exchange depends on. -/
structure TransferSettings where
  /-- Bytes that a download reads at once. -/
  readBuffer : Nat
  /-- Bytes that an upload reads at once. -/
  writeBuffer : Nat
  /-- The most data bytes in a packet. -/
  chunkSize : Nat
  request : RequestSettings
  deriving DecidableEq, Repr, Inhabited

/-- The part of all settings that an exchange depends on. -/
def Settings.transfer (settings : Settings) : TransferSettings :=
  ⟨settings.buffers.readBuffer.toNat, settings.buffers.writeBuffer.toNat,
    settings.buffers.socketBuffer.toNat, settings.request⟩

end FileShare
