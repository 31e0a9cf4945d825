import FileShare.Bytes.Equality
import FileShare.Wire.Command
import FileShare.Wire.Status

/-!
# Messages

A message is a request id, a command code and at most one body. The id is chosen by the initiator
and repeated in every message of the exchange; the code stays a number, so that a message with an
unknown code can still be read, answered and refused.

The body is one of four kinds: nothing, a request, a response, or a status. A request may carry
credentials (the first request of an exchange does) and the parameters of its operation. Bytes of
files travel as `ByteArray`; all numbers have the width that they have on the wire.
-/

namespace FileShare

/-! ### Files and folders -/

namespace Attribute

/-- Set on hidden entries. -/
def hidden : UInt32 := 0x2
/-- Set on folders. -/
def directory : UInt32 := 0x10
/-- Set on everything that is no folder. -/
def normal : UInt32 := 0x80

end Attribute

/-- What is told about one file or folder. Times are milliseconds since the epoch. -/
structure FileInfo where
  name : String
  isDirectory : Bool
  size : UInt64
  createTime : Int64
  modifiedTime : Int64
  /-- Attribute bits. -/
  attributes : UInt32
  deriving DecidableEq, Inhabited

/-- Whether the attribute bits mark an entry as hidden. -/
def FileInfo.isHidden (info : FileInfo) : Bool :=
  info.attributes &&& Attribute.hidden != 0

/-- What a responder needs before it may touch a share: the addressed URL and who asks. -/
structure Credentials where
  url : String
  workgroup : String
  username : String
  password : String
  kerberos : Bool
  deriving DecidableEq, Inhabited

/-! ### Requests and responses -/

/-- How a directory is to be listed. -/
structure ListingOptions where
  /-- The most entries that one response may hold. -/
  pageSize : UInt32
  onlyFolders : Bool
  showHidden : Bool
  deriving DecidableEq, Inhabited

/-- Which bytes of a file to send: both ends count. -/
structure ByteRange where
  first : UInt64
  last : UInt64
  /-- The most data bytes that one response may hold; zero leaves the choice to the responder. -/
  chunkSize : UInt32
  deriving DecidableEq, Inhabited

/-- The parameters of a request. -/
inductive Parameters where
  | none
  | listing (options : ListingOptions)
  | range (range : ByteRange)
  | upload (data : ByteArray)
  deriving DecidableEq, Inhabited

/-- The body of a request. -/
structure Request where
  credentials : Option Credentials
  parameters : Parameters
  deriving DecidableEq, Inhabited

/-- The body of a response. -/
inductive Response where
  /-- One page of a directory. -/
  | page (entries : List FileInfo)
  /-- The file that is about to be sent. -/
  | downloadInit (info : FileInfo)
  /-- A piece of the file. -/
  | downloadData (data : ByteArray)
  | folderAdded (info : FileInfo)
  | connectionTested (info : FileInfo)
  | deleted (info : FileInfo)
  deriving DecidableEq, Inhabited

/-- The body of a message. -/
inductive Body where
  | empty
  | request (request : Request)
  | response (response : Response)
  | status (status : Status)
  deriving DecidableEq, Inhabited

/-- A **message**. -/
structure Message where
  requestId : String
  code : Int32
  body : Body
  deriving DecidableEq, Inhabited

namespace Message

/-- A message with a known command. -/
def of (requestId : String) (command : Command) (body : Body) : Message :=
  ⟨requestId, command.code, body⟩

/-- The command of a message, if its code is known. -/
def command? (message : Message) : Option Command :=
  Command.ofCode? message.code

@[simp] theorem command?_of (requestId : String) (command : Command) (body : Body) :
    (of requestId command body).command? = some command :=
  Command.ofCode?_code command

/-- A message without a body. -/
def bare (requestId : String) (command : Command) : Message :=
  of requestId command .empty

/-- The request that a message carries. -/
def request? (message : Message) : Option Request :=
  match message.body with
  | .request request => some request
  | _ => none

/-- The response that a message carries. -/
def response? (message : Message) : Option Response :=
  match message.body with
  | .response response => some response
  | _ => none

/-- The status that a message carries. -/
def status? (message : Message) : Option Status :=
  match message.body with
  | .status status => some status
  | _ => none

/-- The credentials that a message carries. -/
def credentials? (message : Message) : Option Credentials :=
  message.request?.bind (·.credentials)

/-- The parameters that a message carries. -/
def parameters? (message : Message) : Option Parameters :=
  message.request?.map (·.parameters)

/-- The piece of an upload that a message carries. -/
def uploadData? (message : Message) : Option ByteArray :=
  match message.body with
  | .request ⟨_, .upload data⟩ => some data
  | _ => none

/-- The piece of a download that a message carries. -/
def downloadData? (message : Message) : Option ByteArray :=
  match message.body with
  | .response (.downloadData data) => some data
  | _ => none

end Message

end FileShare
