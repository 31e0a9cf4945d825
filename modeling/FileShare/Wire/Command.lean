/-!
# Commands and their families

Every message names a command by a 32-bit code. The codes form one numeric space, cut into six
blocks, one per family of operations. A family opens with its *init request* and has one *error
command*; the transfer families add data and end phases between the two.

`Command.ofCode?` finds each command under its code (`Command.ofCode?_code`), so a known code is one
command and nothing else. Unknown codes are legal on the wire: they decode, and are refused only
where they are handled.

Direction matters too. A request travels from initiator to responder, everything else travels
back, with one exception (`Command.isTwoWay`): an initiator that cannot feed its upload sends the
same error command that a responder uses.
-/

namespace FileShare

/-- A family of operations. One exchange belongs to one family from its first message on. -/
inductive Family where
  | testConnection
  | listing
  | upload
  | download
  | addFolder
  | deletion
  deriving DecidableEq, Repr, Inhabited

/-- A **command**: what one message asks for, answers, or reports. -/
inductive Command where
  | testConnectionInitReq
  | testConnectionInitResp
  | testConnectionErrorResp
  | listingInitReq
  | listingInitResp
  | listingEndResp
  | listingErrorResp
  | uploadInitReq
  | uploadInitResp
  | uploadDataReq
  | uploadError
  | uploadEndReq
  | uploadEndResp
  | downloadInitReq
  | downloadInitResp
  | downloadDataReq
  | downloadDataResp
  | downloadEndResp
  | downloadError
  | addFolderInitReq
  | addFolderInitResp
  | addFolderErrorResp
  | deletionInitReq
  | deletionInitResp
  | deletionErrorResp
  deriving DecidableEq, Repr, Inhabited

namespace Command

/-- All commands, in the order of their codes. -/
def all : List Command :=
  [testConnectionInitReq, testConnectionInitResp, testConnectionErrorResp,
    listingInitReq, listingInitResp, listingEndResp, listingErrorResp,
    uploadInitReq, uploadInitResp, uploadDataReq, uploadError, uploadEndReq, uploadEndResp,
    downloadInitReq, downloadInitResp, downloadDataReq, downloadDataResp, downloadEndResp,
    downloadError, addFolderInitReq, addFolderInitResp, addFolderErrorResp,
    deletionInitReq, deletionInitResp, deletionErrorResp]

/-- The code a command has on the wire. -/
def code : Command → Int32
  | testConnectionInitReq => 1
  | testConnectionInitResp => 2
  | testConnectionErrorResp => 3
  | listingInitReq => 11
  | listingInitResp => 12
  | listingEndResp => 13
  | listingErrorResp => 14
  | uploadInitReq => 21
  | uploadInitResp => 22
  | uploadDataReq => 23
  | uploadError => 24
  | uploadEndReq => 26
  | uploadEndResp => 27
  | downloadInitReq => 31
  | downloadInitResp => 32
  | downloadDataReq => 33
  | downloadDataResp => 34
  | downloadEndResp => 35
  | downloadError => 36
  | addFolderInitReq => 41
  | addFolderInitResp => 42
  | addFolderErrorResp => 43
  | deletionInitReq => 51
  | deletionInitResp => 52
  | deletionErrorResp => 53

/-- The command with a given code, if the code is known. -/
def ofCode? (code : Int32) : Option Command :=
  all.find? fun command => command.code == code

@[simp] theorem ofCode?_code (command : Command) : ofCode? command.code = some command := by
  cases command <;> decide

/-- The diagnostic name of a command, as it appears in reports. -/
def name : Command → String
  | testConnectionInitReq => "TEST_CONNECTION_INIT_REQ"
  | testConnectionInitResp => "TEST_CONNECTION_INIT_RESP"
  | testConnectionErrorResp => "TEST_CONNECTION_ERROR_RESP"
  | listingInitReq => "GET_STRUCTURE_INIT_REQ"
  | listingInitResp => "GET_STRUCTURE_INIT_RESP"
  | listingEndResp => "GET_STRUCTURE_END_RESP"
  | listingErrorResp => "GET_STRUCTURE_ERROR_RESP"
  | uploadInitReq => "UPLOAD_INIT_REQ"
  | uploadInitResp => "UPLOAD_INIT_RESP"
  | uploadDataReq => "UPLOAD_DATA_REQ"
  | uploadError => "UPLOAD_ERROR"
  | uploadEndReq => "UPLOAD_END_REQ"
  | uploadEndResp => "UPLOAD_END_RESP"
  | downloadInitReq => "DOWNLOAD_INIT_REQ"
  | downloadInitResp => "DOWNLOAD_INIT_RESP"
  | downloadDataReq => "DOWNLOAD_DATA_REQ"
  | downloadDataResp => "DOWNLOAD_DATA_RESP"
  | downloadEndResp => "DOWNLOAD_END_RESP"
  | downloadError => "DOWNLOAD_ERROR"
  | addFolderInitReq => "ADD_FOLDER_INIT_REQ"
  | addFolderInitResp => "ADD_FOLDER_INIT_RESP"
  | addFolderErrorResp => "ADD_FOLDER_ERROR_RESP"
  | deletionInitReq => "DELETE_INIT_REQ"
  | deletionInitResp => "DELETE_INIT_RESP"
  | deletionErrorResp => "DELETE_ERROR_RESP"

/-- The family a command belongs to. -/
def family : Command → Family
  | testConnectionInitReq | testConnectionInitResp | testConnectionErrorResp => .testConnection
  | listingInitReq | listingInitResp | listingEndResp | listingErrorResp => .listing
  | uploadInitReq | uploadInitResp | uploadDataReq | uploadError | uploadEndReq
  | uploadEndResp => .upload
  | downloadInitReq | downloadInitResp | downloadDataReq | downloadDataResp | downloadEndResp
  | downloadError => .download
  | addFolderInitReq | addFolderInitResp | addFolderErrorResp => .addFolder
  | deletionInitReq | deletionInitResp | deletionErrorResp => .deletion

/-- Whether a command travels from initiator to responder. -/
def isRequest : Command → Bool
  | testConnectionInitReq | listingInitReq | uploadInitReq | uploadDataReq | uploadEndReq
  | downloadInitReq | downloadDataReq | addFolderInitReq | deletionInitReq => true
  | _ => false

/-- Whether either side may send a command. An initiator that cannot read its upload source
abandons the upload with the error command, so that the responder drops its temporary file. -/
def isTwoWay (command : Command) : Bool :=
  command == uploadError

end Command

namespace Family

/-- The command that opens an exchange of this family. -/
def initRequest : Family → Command
  | testConnection => .testConnectionInitReq
  | listing => .listingInitReq
  | upload => .uploadInitReq
  | download => .downloadInitReq
  | addFolder => .addFolderInitReq
  | deletion => .deletionInitReq

/-- The command that reports a failure in this family. -/
def errorCommand : Family → Command
  | testConnection => .testConnectionErrorResp
  | listing => .listingErrorResp
  | upload => .uploadError
  | download => .downloadError
  | addFolder => .addFolderErrorResp
  | deletion => .deletionErrorResp

/-- The short name of a family, as it is spelled on the command line and in reports. -/
def name : Family → String
  | testConnection => "test-connection"
  | listing => "list"
  | upload => "upload"
  | download => "download"
  | addFolder => "add-folder"
  | deletion => "delete"

/-- The family a client selects by its operation number; zero means that none is selected. -/
def ofOperation? : UInt8 → Option Family
  | 1 => some .listing
  | 2 => some .download
  | 3 => some .upload
  | 4 => some .addFolder
  | 5 => some .deletion
  | 6 => some .testConnection
  | _ => none

@[simp] theorem family_initRequest (family : Family) : family.initRequest.family = family := by
  cases family <;> rfl

@[simp] theorem family_errorCommand (family : Family) : family.errorCommand.family = family := by
  cases family <;> rfl

end Family

namespace Command

/-- Whether a command opens an exchange. -/
def isInitRequest (command : Command) : Bool :=
  command == command.family.initRequest

/-- Whether a command reports a failure. -/
def isError (command : Command) : Bool :=
  command == command.family.errorCommand

end Command

/-- The diagnostic name of any code: unknown codes share one name. -/
def commandName (code : Int32) : String :=
  match Command.ofCode? code with
  | some command => command.name
  | none => "INVALID_COMMAND"

end FileShare
