/-!
# Error numbers of the operating system

Every failed call of the operating system has a number. Two wordings of the numbers are in use:
`Errno.description` is what a status tells the other side, and `systemText` is what the system
itself says, which is what people see in local reports. They agree on most numbers.

A number that has no meaning is never kept: `Errno.ofNumber` turns it into `Errno.unknown`, which
has the number zero.
-/

namespace FileShare

/-- The system's own wording, for every number that has a meaning. -/
def systemTexts : List (Nat × String) :=
  [(1, "Operation not permitted"), (2, "No such file or directory"), (3, "No such process"),
    (4, "Interrupted system call"), (5, "Input/output error"), (6, "No such device or address"),
    (7, "Argument list too long"), (8, "Exec format error"), (9, "Bad file descriptor"),
    (10, "No child processes"), (11, "Resource temporarily unavailable"),
    (12, "Cannot allocate memory"), (13, "Permission denied"), (14, "Bad address"),
    (15, "Block device required"), (16, "Device or resource busy"), (17, "File exists"),
    (18, "Invalid cross-device link"), (19, "No such device"), (20, "Not a directory"),
    (21, "Is a directory"), (22, "Invalid argument"), (23, "Too many open files in system"),
    (24, "Too many open files"), (25, "Inappropriate ioctl for device"), (26, "Text file busy"),
    (27, "File too large"), (28, "No space left on device"), (29, "Illegal seek"),
    (30, "Read-only file system"), (31, "Too many links"), (32, "Broken pipe"),
    (33, "Numerical argument out of domain"), (34, "Numerical result out of range"),
    (35, "Resource deadlock avoided"), (36, "File name too long"), (37, "No locks available"),
    (38, "Function not implemented"), (39, "Directory not empty"),
    (40, "Too many levels of symbolic links"), (42, "No message of desired type"),
    (43, "Identifier removed"), (44, "Channel number out of range"),
    (45, "Level 2 not synchronized"), (46, "Level 3 halted"), (47, "Level 3 reset"),
    (48, "Link number out of range"), (49, "Protocol driver not attached"),
    (50, "No CSI structure available"), (51, "Level 2 halted"), (52, "Invalid exchange"),
    (53, "Invalid request descriptor"), (54, "Exchange full"), (55, "No anode"),
    (56, "Invalid request code"), (57, "Invalid slot"), (59, "Bad font file format"),
    (60, "Device not a stream"), (61, "No data available"), (62, "Timer expired"),
    (63, "Out of streams resources"), (64, "Machine is not on the network"),
    (65, "Package not installed"), (66, "Object is remote"), (67, "Link has been severed"),
    (68, "Advertise error"), (69, "Srmount error"), (70, "Communication error on send"),
    (71, "Protocol error"), (72, "Multihop attempted"), (73, "RFS specific error"),
    (74, "Bad message"), (75, "Value too large for defined data type"),
    (76, "Name not unique on network"), (77, "File descriptor in bad state"),
    (78, "Remote address changed"), (79, "Can not access a needed shared library"),
    (80, "Accessing a corrupted shared library"), (81, ".lib section in a.out corrupted"),
    (82, "Attempting to link in too many shared libraries"),
    (83, "Cannot exec a shared library directly"),
    (84, "Invalid or incomplete multibyte or wide character"),
    (85, "Interrupted system call should be restarted"), (86, "Streams pipe error"),
    (87, "Too many users"), (88, "Socket operation on non-socket"),
    (89, "Destination address required"), (90, "Message too long"),
    (91, "Protocol wrong type for socket"), (92, "Protocol not available"),
    (93, "Protocol not supported"), (94, "Socket type not supported"),
    (95, "Operation not supported"), (96, "Protocol family not supported"),
    (97, "Address family not supported by protocol"), (98, "Address already in use"),
    (99, "Cannot assign requested address"), (100, "Network is down"),
    (101, "Network is unreachable"), (102, "Network dropped connection on reset"),
    (103, "Software caused connection abort"), (104, "Connection reset by peer"),
    (105, "No buffer space available"), (106, "Transport endpoint is already connected"),
    (107, "Transport endpoint is not connected"),
    (108, "Cannot send after transport endpoint shutdown"),
    (109, "Too many references: cannot splice"), (110, "Connection timed out"),
    (111, "Connection refused"), (112, "Host is down"), (113, "No route to host"),
    (114, "Operation already in progress"), (115, "Operation now in progress"),
    (116, "Stale file handle"), (117, "Structure needs cleaning"),
    (118, "Not a XENIX named type file"), (119, "No XENIX semaphores available"),
    (120, "Is a named type file"), (121, "Remote I/O error"), (122, "Disk quota exceeded"),
    (123, "No medium found"), (124, "Wrong medium type"), (125, "Operation canceled"),
    (126, "Required key not available"), (127, "Key has expired"),
    (128, "Key has been revoked"), (129, "Key was rejected by service"), (130, "Owner died"),
    (131, "State not recoverable"), (132, "Operation not possible due to RF-kill"),
    (133, "Memory page has hardware error")]

/-- The numbers whose description on the wire differs from the system's own wording. -/
def wireTexts : List (Nat × String) :=
  [(5, "I/O error"), (9, "Bad file number"), (11, "Try again"), (12, "Out of memory"),
    (18, "Cross-device link"), (23, "File table overflow"), (25, "Not a typewriter"),
    (33, "Math argument out of domain of func"), (34, "Math result not representable"),
    (35, "Resource deadlock would occur"), (37, "No record locks available"),
    (40, "Too many symbolic links encountered"), (74, "Not a data message"),
    (84, "Illegal byte sequence"), (95, "Operation not supported on transport endpoint"),
    (102, "Network dropped connection because of reset"), (122, "Quota exceeded")]

/-- The system's wording of any number; zero is the absence of a failure. -/
def systemText (number : Int) : String :=
  if number = 0 then "Success" else
  match systemTexts.find? fun entry => (entry.1 : Int) == number with
  | some (_, text) => text
  | none => s!"Unknown error {number}"

/-- An **error number** that has a meaning, or zero for all others. -/
structure Errno where
  number : Nat
  deriving DecidableEq, Repr, Inhabited

namespace Errno

/-- The stand-in for numbers without a meaning. -/
def unknown : Errno := ⟨0⟩
/-- No such entry. -/
def notFound : Errno := ⟨2⟩
/-- Input or output failed. -/
def ioFailure : Errno := ⟨5⟩
/-- No such device or address. -/
def noDevice : Errno := ⟨6⟩
/-- Not an open handle. -/
def badHandle : Errno := ⟨9⟩
/-- No progress without waiting. -/
def tryAgain : Errno := ⟨11⟩
/-- Permission denied. -/
def accessDenied : Errno := ⟨13⟩
/-- Device busy. -/
def busy : Errno := ⟨16⟩
/-- The entry exists. -/
def exists_ : Errno := ⟨17⟩
/-- Not a directory. -/
def notDirectory : Errno := ⟨20⟩
/-- Is a directory. -/
def isDirectory : Errno := ⟨21⟩
/-- Invalid argument. -/
def invalid : Errno := ⟨22⟩
/-- File too large. -/
def tooLarge : Errno := ⟨27⟩
/-- Name too long. -/
def nameTooLong : Errno := ⟨36⟩
/-- Directory not empty. -/
def notEmpty : Errno := ⟨39⟩
/-- Too many symbolic links. -/
def tooManyLinks : Errno := ⟨40⟩
/-- Address already in use. -/
def addressInUse : Errno := ⟨98⟩

/-- The error of a number. -/
def ofNumber (number : Int) : Errno :=
  if systemTexts.any fun entry => (entry.1 : Int) == number then ⟨number.toNat⟩ else unknown

/-- The number as a status code. -/
def code (errno : Errno) : Int32 :=
  Int32.ofNat errno.number

/-- The description that a status carries. -/
def description (errno : Errno) : String :=
  match wireTexts.lookup errno.number with
  | some text => text
  | none => (systemTexts.lookup errno.number).getD "Unknown errno"

end Errno

end FileShare
