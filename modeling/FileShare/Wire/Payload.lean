import FileShare.MessagePack.Shape
import FileShare.Wire.Message

/-!
# Payloads

The payload of a packet is one message, spelled in MessagePack. A record is an array of its fields
in order, an absent option is nil, a case of a sum is its name or a map from its name to its
content, and pieces of files are plain bytes.

`Message.payload` writes and `Message.ofPayload?` reads. Reading accepts every spelling that
`FileShare.MessagePack.Value` lets pass for the same shape and ignores bytes behind the message.
-/

namespace FileShare

open MessagePack (Value)

/-! ### Writing -/

/-- A record of six fields. -/
def FileInfo.toValue (info : FileInfo) : Value :=
  .array [.ofString info.name, .bool info.isDirectory, .uint info.size, .ofInt info.createTime,
    .ofInt info.modifiedTime, .uint info.attributes.toUInt64]

/-- A record of five fields. -/
def Credentials.toValue (credentials : Credentials) : Value :=
  .array [.ofString credentials.url, .ofString credentials.workgroup,
    .ofString credentials.username, .ofString credentials.password, .bool credentials.kerberos]

/-- One of four cases. -/
def Parameters.toValue : Parameters → Value
  | none => .ofName "None"
  | listing options => .ofCase "FolderStructure" <|
      .array [.uint options.pageSize.toUInt64, .bool options.onlyFolders, .bool options.showHidden]
  | range span => .ofCase "RangeDownload" <|
      .array [.uint span.first, .uint span.last, .uint span.chunkSize.toUInt64]
  | upload data => .ofCase "UploadData" (.bin data)

/-- A record of two fields. -/
def Request.toValue (request : Request) : Value :=
  .array [(request.credentials.map Credentials.toValue).getD .nil, request.parameters.toValue]

/-- One of six cases. -/
def Response.toValue : Response → Value
  | page entries => .ofCase "FolderStructure" (.array (entries.map FileInfo.toValue))
  | downloadInit info => .ofCase "DownloadInit" info.toValue
  | downloadData data => .ofCase "DownloadData" (.bin data)
  | folderAdded info => .ofCase "AddFolder" info.toValue
  | connectionTested info => .ofCase "TestConnection" info.toValue
  | deleted info => .ofCase "DeleteResource" info.toValue

/-- A record of two fields. -/
def Status.toValue (status : Status) : Value :=
  .array [.ofInt status.code.toInt64, .ofString status.text]

/-- One of four cases. -/
def Body.toValue : Body → Value
  | empty => .ofName "Empty"
  | request content => .ofCase "Request" content.toValue
  | response content => .ofCase "Response" content.toValue
  | status content => .ofCase "Status" content.toValue

/-- A record of the command and the body; the command is a record of the id and the code. -/
def Message.toValue (message : Message) : Value :=
  .array [.array [.ofString message.requestId, .ofInt message.code.toInt64], message.body.toValue]

/-! ### Reading -/

/-- Read what `FileInfo.toValue` writes. -/
def FileInfo.ofValue? (value : Value) : Option FileInfo :=
  match value.record?
      ["name", "is_directory", "size", "create_time", "modified_time", "resource_type"] with
  | some [some name, some isDirectory, some size, some createTime, some modifiedTime,
      some attributes] => do
    pure ⟨← name.text?, ← isDirectory.flag?, ← size.uint64?, ← createTime.int64?,
      ← modifiedTime.int64?, ← attributes.uint32?⟩
  | _ => none

/-- Read what `Credentials.toValue` writes. -/
def Credentials.ofValue? (value : Value) : Option Credentials :=
  match value.record? ["url", "workgroup", "username", "password", "kerberos"] with
  | some [some url, some workgroup, some username, some password, some kerberos] => do
    pure ⟨← url.text?, ← workgroup.text?, ← username.text?, ← password.text?, ← kerberos.flag?⟩
  | _ => none

/-- Read the options of a listing. -/
def ListingOptions.ofValue? (value : Value) : Option ListingOptions :=
  match value.record? ["page_size", "show_only_folders", "show_hidden_files"] with
  | some [some pageSize, some onlyFolders, some showHidden] => do
    pure ⟨← pageSize.uint32?, ← onlyFolders.flag?, ← showHidden.flag?⟩
  | _ => none

/-- Read a range. -/
def ByteRange.ofValue? (value : Value) : Option ByteRange :=
  match value.record? ["start", "end", "chunk_size"] with
  | some [some first, some last, some chunkSize] => do
    pure ⟨← first.uint64?, ← last.uint64?, ← chunkSize.uint32?⟩
  | _ => none

/-- Read what `Parameters.toValue` writes. -/
def Parameters.ofValue? (value : Value) : Option Parameters :=
  match value.case? ["None", "FolderStructure", "RangeDownload", "UploadData"] with
  | some (0, content) => if Value.isBlank content then some none else Option.none
  | some (1, some content) => (ListingOptions.ofValue? content).map listing
  | some (2, some content) => (ByteRange.ofValue? content).map range
  | some (3, some content) => content.bytes?.map upload
  | _ => Option.none

/-- Read what `Request.toValue` writes; credentials may also be left out of a map. -/
def Request.ofValue? (value : Value) : Option Request :=
  match value.record? ["credentials", "params"] with
  | some [credentials, some parameters] => do
    pure ⟨← (credentials.getD .nil).optional? Credentials.ofValue?,
      ← Parameters.ofValue? parameters⟩
  | _ => none

/-- Read what `Response.toValue` writes. -/
def Response.ofValue? (value : Value) : Option Response :=
  match value.case? ["FolderStructure", "DownloadInit", "DownloadData", "AddFolder",
      "TestConnection", "DeleteResource"] with
  | some (0, some content) => (content.list? FileInfo.ofValue?).map page
  | some (1, some content) => (FileInfo.ofValue? content).map downloadInit
  | some (2, some content) => content.bytes?.map downloadData
  | some (3, some content) => (FileInfo.ofValue? content).map folderAdded
  | some (4, some content) => (FileInfo.ofValue? content).map connectionTested
  | some (5, some content) => (FileInfo.ofValue? content).map deleted
  | _ => none

/-- Read what `Status.toValue` writes. -/
def Status.ofValue? (value : Value) : Option Status :=
  match value.record? ["code", "msg"] with
  | some [some code, some text] => do pure ⟨← code.int32?, ← text.text?⟩
  | _ => none

/-- Read what `Body.toValue` writes. -/
def Body.ofValue? (value : Value) : Option Body :=
  match value.case? ["Empty", "Request", "Response", "Status"] with
  | some (0, content) => if Value.isBlank content then some empty else none
  | some (1, some content) => (Request.ofValue? content).map request
  | some (2, some content) => (Response.ofValue? content).map response
  | some (3, some content) => (Status.ofValue? content).map status
  | _ => none

/-- Read what `Message.toValue` writes. -/
def Message.ofValue? (value : Value) : Option Message :=
  match value.record? ["command", "body"] with
  | some [some command, some body] =>
    match command.record? ["request_id", "code"] with
    | some [some requestId, some code] => do
      pure ⟨← requestId.text?, ← code.int32?, ← Body.ofValue? body⟩
    | _ => none
  | _ => none

namespace Message

/-- The most arrays and maps that may nest in a payload. -/
def maxDepth : Nat := 1023

/-- The payload that carries a message. -/
def payload (message : Message) : ByteArray :=
  message.toValue.bytes.toByteArray

/-- The message that a payload carries, if it carries one. -/
def ofPayload? (payload : ByteArray) : Option Message :=
  match Value.read maxDepth (before payload []) with
  | some (value, _) => ofValue? value
  | none => none

end Message

end FileShare
