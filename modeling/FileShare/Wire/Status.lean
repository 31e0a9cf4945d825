/-!
# Status codes

A status carries one 32-bit code and a text. Zero and one report success, the negative codes
below are failures of the connector itself, and every other positive code is an error number of
the operating system that serves the files.

The three kinds share one number space. `StatusCode.isSuccess_iff` says which codes count as
success; nothing in the encoding keeps an error number of the operating system apart from them.
-/

namespace FileShare

namespace StatusCode

/-- Success. -/
def success : Int32 := 0
/-- Success of an operation that created something. -/
def createSuccess : Int32 := 1
/-- A failure without a code of its own. -/
def error : Int32 := -11
/-- The named file does not exist. -/
def notFound : Int32 := -18
/-- The connection was lost. -/
def reset : Int32 := -16
/-- A packet that cannot be used. -/
def invalidPacket : Int32 := -28

/-- The codes that have a name, with their names. -/
def named : List (Int32 × String) :=
  [(0, "SMB_SUCCESS"), (1, "SMB_CREATE_SUCCESS"), (-11, "SMB_ERROR"), (-12, "SMB_INIT_FAILED"),
    (-13, "SMB_OPEN_FAILED"), (-14, "SMB_INVALID_SERVER"), (-15, "SMB_AGAIN"), (-16, "SMB_RESET"),
    (-17, "SMB_EOF"), (-18, "SMB_NOT_FOUND"), (-19, "SMB_TIMEOUT"),
    (-20, "SMB_ALLOCATION_FAILED"), (-21, "SMB_FILE_CREATE_FAILED"), (-28, "SMB_INVALID_PACKET")]

/-- The name of a code, for the codes that have one. -/
def name? (code : Int32) : Option String :=
  named.lookup code

/-- Whether a code reports success. -/
def isSuccess (code : Int32) : Bool :=
  code == success || code == createSuccess

end StatusCode

/-- The outcome of an operation, as one side tells the other. -/
structure Status where
  /-- A success code, a failure of the connector, or an error number of the file system. -/
  code : Int32
  /-- A description for people. -/
  text : String
  deriving DecidableEq, Repr, Inhabited

namespace Status

/-- The status of a code under its own name. -/
def ofCode (code : Int32) : Status :=
  ⟨code, (StatusCode.name? code).getD "NONE"⟩

/-- The status that reports success. -/
def success : Status := ofCode StatusCode.success

/-- Whether a status reports success. -/
def isSuccess (status : Status) : Bool :=
  StatusCode.isSuccess status.code

end Status

end FileShare
