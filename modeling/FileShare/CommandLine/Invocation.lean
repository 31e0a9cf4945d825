import FileShare.CommandLine.Switch
import FileShare.Settings.Settings

/-!
# Command lines

A command line asks for a server or for one operation of a client. `CommandLine.read` makes sense of
it; `ServerOrder.apply` and `ClientOrder.apply` put what it asks for in place of what is set.

Two switches belong to the program as a whole and may stand on either side of the command; the later
one counts.
-/

namespace FileShare.CommandLine

/-- What a command line may set for a server. -/
structure ServerOrder where
  socketPath : Option String
  idleTimeout : Option UInt64
  storeRoot : Option String
  deriving DecidableEq, Repr, Inhabited

/-- What a command line asks of a client. -/
structure ClientOrder where
  operation : UInt8
  url : String
  userName : Option String
  password : Option String
  workgroup : Option String
  kerberos : Bool
  requestId : Option String
  onlyFolders : Bool
  hideHidden : Bool
  pageSize : Option UInt32
  startOffset : Option UInt64
  endOffset : Option UInt64
  outputFile : Option String
  inputFile : Option String
  socketBuffer : Option UInt64
  socketPath : Option String
  /-- Show the result as JSON. -/
  asJson : Bool
  deriving DecidableEq, Repr, Inhabited

/-- What a command line asks for. -/
inductive Order where
  | server (order : ServerOrder)
  | client (order : ClientOrder)
  deriving DecidableEq, Repr, Inhabited

/-- A command line that makes sense. -/
structure Invocation where
  settingsFile : Option String
  /-- Tell more in the log. -/
  verbose : Bool
  order : Order
  deriving DecidableEq, Repr, Inhabited

/-- What a command line comes to. -/
inductive Request where
  | refused
  | help (text : String)
  | version
  | run (invocation : Invocation)
  deriving Inhabited

/-! ### Switches -/

/-- The operations of a client with their codes. -/
def operations : List (String × UInt8) :=
  [("list", 1), ("download", 2), ("upload", 3), ("add-folder", 4), ("delete", 5),
    ("test-connection", 6)]

/-- The switches of the program as a whole. -/
def commonSwitches : List Switch :=
  [ ⟨"config", some 'c', .path, "FILE", "Path to configuration file"⟩,
    ⟨"verbose", some 'v', .flag, "", "Enable verbose logging"⟩,
    ⟨"help", some 'h', .help, "", "Print help"⟩ ]

/-- The switches that may stand before the command. -/
def programSwitches : List Switch :=
  commonSwitches ++ [⟨"version", some 'V', .version, "", "Print version"⟩]

/-- The switches of a server. -/
def serverSwitches : List Switch :=
  [ ⟨"socket", none, .path, "PATH", "Unix socket path"⟩,
    ⟨"idle-timeout", none, .number UInt64.size, "SECS", "Seconds without activity before exiting"⟩,
    ⟨"backend-root", none, .path, "DIR", "Directory holding one subdirectory per server"⟩ ] ++
  commonSwitches

/-- The switches of a client. -/
def clientSwitches : List Switch :=
  [ ⟨"op", none, .word (operations.map (·.1)), "OP", "Operation to perform"⟩,
    ⟨"url", none, .text, "URL", "Target URL, [smb://]server/share/path"⟩,
    ⟨"user", none, .text, "USER", ""⟩,
    ⟨"password", none, .text, "PASSWORD", ""⟩,
    ⟨"workgroup", none, .text, "WORKGROUP", ""⟩,
    ⟨"kerberos", none, .flag, "", "Authenticate with kerberos"⟩,
    ⟨"request-id", none, .text, "REQUEST_ID", "Request id sent with every packet"⟩,
    ⟨"show-only-folders", none, .flag, "", "List folders only"⟩,
    ⟨"hide-hidden", none, .flag, "", "Leave hidden entries out of listings"⟩,
    ⟨"page-size", none, .number UInt32.size, "N", "Entries per listing page"⟩,
    ⟨"start-offset", none, .number UInt64.size, "N", "First byte to download"⟩,
    ⟨"end-offset", none, .number UInt64.size, "N", "Last byte to download (inclusive)"⟩,
    ⟨"output", none, .path, "FILE", "Download destination"⟩,
    ⟨"input", none, .path, "FILE", "Upload source"⟩,
    ⟨"buffer-size", none, .number UInt64.size, "N", "Socket buffer and data chunk size"⟩,
    ⟨"socket", none, .path, "PATH", "Unix socket path"⟩,
    ⟨"json", none, .flag, "", "Print the result as JSON"⟩ ] ++ commonSwitches

/-! ### Help -/

/-- The name of the program. -/
def programName : String := "share-connector"

/-- The name of the program with its version. -/
def versionText : String := programName ++ " 0.1.0\n"

/-- What each command does. -/
def commands : List (String × String) :=
  [("server", "Serve share requests until idle or interrupted"),
    ("client", "Run one operation against a running server"),
    ("help", "Print this message or the help of the given subcommand(s)")]

/-- Help on the program. -/
def programHelp : String :=
  "Share Connector - file-share operations over a local socket\n\nUsage: " ++ programName ++
    " [OPTIONS] <COMMAND>\n\nCommands:\n" ++
    columns (commands.map fun (name, about) => ("  " ++ name, about)) ++
    "\nOptions:\n" ++ switchTable programSwitches

/-- Help on a command. -/
def commandHelp (name usage : String) (switches : List Switch) : String :=
  (commands.lookup name).getD "" ++ "\n\nUsage: " ++ programName ++ " " ++ name ++ " " ++ usage ++
    "\n\nOptions:\n" ++ switchTable switches

/-- Help on the server. -/
def serverHelp : String :=
  commandHelp "server" "[OPTIONS]" serverSwitches

/-- Help on the client. -/
def clientHelp : String :=
  commandHelp "client" "[OPTIONS] --op <OP> --url <URL>" clientSwitches

/-! ### Reading -/

namespace Found

/-- Whether a switch was found. -/
def has (found : Found) (name : String) : Bool :=
  (found.lookup name).isSome

/-- The number that a switch was given. -/
def number? (found : Found) (name : String) : Option Nat :=
  (found.lookup name).bind CommandLine.number?

/-- What the switches of a server ask for. -/
def serverOrder (found : Found) : ServerOrder :=
  ⟨found.lookup "socket", (found.number? "idle-timeout").map .ofNat, found.lookup "backend-root"⟩

/-- What the switches of a client ask for. Two of them have to be there. -/
def clientOrder? (found : Found) : Option ClientOrder := do
  let operation ← operations.lookup (← found.lookup "op")
  let url ← found.lookup "url"
  some
    { operation, url
      userName := found.lookup "user"
      password := found.lookup "password"
      workgroup := found.lookup "workgroup"
      kerberos := found.has "kerberos"
      requestId := found.lookup "request-id"
      onlyFolders := found.has "show-only-folders"
      hideHidden := found.has "hide-hidden"
      pageSize := (found.number? "page-size").map .ofNat
      startOffset := (found.number? "start-offset").map .ofNat
      endOffset := (found.number? "end-offset").map .ofNat
      outputFile := found.lookup "output"
      inputFile := found.lookup "input"
      socketBuffer := (found.number? "buffer-size").map .ofNat
      socketPath := found.lookup "socket"
      asJson := found.has "json" }

end Found

namespace Invocation

/-- Read the words behind a command. -/
def readCommand (outer : Found) (switches : List Switch) (help : String)
    (order? : Found → Option Order) (words : List String) : Request :=
  match Reader.read switches [] none words with
  | .refused | .word .. => .refused
  | .help => .help help
  | .version => .version
  | .done found =>
    match order? found with
    | none => .refused
    | some order =>
      .run ⟨(found.lookup "config").or (outer.lookup "config"),
        found.has "verbose" || outer.has "verbose", order⟩

/-- Read a command line. Without any words it says nothing. -/
def read (words : List String) : Request :=
  match Reader.read programSwitches [] none words with
  | .refused | .done _ => .refused
  | .help => .help programHelp
  | .version => .version
  | .word found word rest =>
    if word = "server" then
      readCommand found serverSwitches serverHelp (fun found => some (.server found.serverOrder))
        rest
    else if word = "client" then
      readCommand found clientSwitches clientHelp (fun found => found.clientOrder?.map .client) rest
    else if word = "help" then
      if rest = [] ∨ rest = ["help"] then .help programHelp
      else if rest = ["server"] then .help serverHelp
      else if rest = ["client"] then .help clientHelp
      else .refused
    else
      .refused

end Invocation

/-! ### Applying -/

/-- Put what a server is asked for in place of what is set. -/
def ServerOrder.apply (order : ServerOrder) (settings : Settings) : Settings :=
  { settings with
    process := { settings.process with
      socketPath := order.socketPath.getD settings.process.socketPath
      idleTimeout := order.idleTimeout.getD settings.process.idleTimeout }
    store := ⟨order.storeRoot.getD settings.store.root⟩ }

/-- Put what a client is asked for in place of what is set. -/
def ClientOrder.apply (order : ClientOrder) (settings : Settings) : Settings :=
  let request := settings.request
  { settings with
    process := { settings.process with
      socketPath := order.socketPath.getD settings.process.socketPath }
    buffers := { settings.buffers with
      socketBuffer := order.socketBuffer.getD settings.buffers.socketBuffer }
    request :=
      { operation := order.operation
        requestId := order.requestId.getD request.requestId
        url := order.url
        workgroup := order.workgroup.getD request.workgroup
        userName := order.userName.getD request.userName
        password := order.password.getD request.password
        kerberos := request.kerberos || order.kerberos
        pageSize := order.pageSize.getD request.pageSize
        onlyFolders := request.onlyFolders || order.onlyFolders
        showHidden := request.showHidden && !order.hideHidden
        startOffset := order.startOffset.getD request.startOffset
        endOffset := order.endOffset.getD request.endOffset
        outputFile := order.outputFile.getD request.outputFile
        inputFile := order.inputFile.getD request.inputFile } }

/-- Put what is asked for in place of what is set. -/
def Order.apply : Order → Settings → Settings
  | server order, settings => order.apply settings
  | client order, settings => order.apply settings

end FileShare.CommandLine
