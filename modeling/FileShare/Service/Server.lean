import FileShare.Host.LocalFile
import FileShare.Host.Spelling
import FileShare.Service.Client

/-!
# Servers

A server listens on a socket in the file system and serves one client at a time. While a client is
served, others are turned away at once. Every client meets a new session; the shares are the same
for all.

Listening makes the directory for the socket if it is missing, and takes away what is left over from
an earlier server. When a server stops, its socket goes with it.
-/

namespace FileShare

/-- A **server**. -/
structure Server where
  settings : Settings
  store : Store
  /-- Where local paths start. -/
  workDir : Path
  /-- All clients that ever came, first to last. -/
  clients : Array (Connection Socket)
  deriving Inhabited

namespace Server

/-! ### Listening -/

/-- The most bytes that the path of a socket may have. -/
def maxSocketPath : Nat := 107

/-- One more than the most connections that may wait to be accepted. -/
def backlogLimit : Int := 4096

/-- Whether so many connections may wait; the number is read as a signed one. -/
def isBacklog (backlog : UInt32) : Bool :=
  let count := (max backlog 1).toInt32.toInt
  decide (-1 ≤ count ∧ count < backlogLimit)

/-- Put a socket into the file system. A socket with an empty path leaves no trace there. -/
def putSocket (fs : FileSystem) (workDir : Path) (path : String) : Except IoError FileSystem := do
  if path.utf8ByteSize > maxSocketPath then
    throw (.ofErrno .nameTooLong)
  else if path = "" then
    pure fs
  else
    let (start, steps) ← LocalFile.locate workDir path
    match steps.getLast? with
    | some (.name _) =>
      let place ← (fs.place false start steps).mapError .ofErrno
      match fs.node? place with
      | some _ => throw (.ofErrno .addressInUse)
      | none => pure ((fs.put place (.socket fs.clock)).touch place.dropLast)
    | _ => throw (.ofErrno .notFound)

/-- Listen on a path. -/
def listen (fs : FileSystem) (workDir : Path) (path : String) (backlog : UInt32) :
    Except IoError FileSystem := do
  let fs ← match Spelling.parent? path with
    | some above =>
      if LocalFile.leadsSomewhere fs workDir above then pure fs
      else LocalFile.makeDirectories fs workDir above
    | none => pure fs
  let fs ←
    if LocalFile.leadsSomewhere fs workDir path then LocalFile.remove fs workDir path else pure fs
  let fs ← putSocket fs workDir path
  if isBacklog backlog then pure fs else throw (.ofErrno .invalid)

/-- The report of a path on which nobody can listen. -/
def bindFailure (path : String) : String :=
  s!"Failed to bind {path}"

/-- Whether a path leads to the socket of another path. -/
def leadsTo (fs : FileSystem) (workDir : Path) (path socketPath : String) : Bool :=
  let node (path : String) : Option (Path × Node) :=
    match LocalFile.locate workDir path with
    | .ok (start, steps) => (fs.find true start steps).toOption
    | .error _ => none
  match node path, node socketPath with
  | some (a, .socket _), some (b, _) => a = b && path.utf8ByteSize ≤ maxSocketPath
  | _, _ => false

/-- Take the socket of a path away. -/
def removeSocket (fs : FileSystem) (workDir : Path) (path : String) : FileSystem :=
  (LocalFile.remove fs workDir path).toOption.getD fs

/-! ### Serving -/

/-- Listen on the path that the settings say. The server has no clients yet. -/
def bind (settings : Settings) (store : Store) (workDir : Path) : Except IoError Server := do
  let fs ← listen store.fs workDir settings.process.socketPath settings.process.acceptBacklog
  pure ⟨settings, { store with fs }, workDir, #[]⟩

/-- Hand over the file system. -/
def withFiles (server : Server) (fs : FileSystem) : Server :=
  { server with store := { server.store with fs } }

/-- Whether a client is being served. -/
def isBusy (server : Server) : Bool :=
  server.clients.any fun client => !client.isOver

/-- The connection to a new client. -/
def newClient (server : Server) : Connection Socket :=
  .start .responder server.settings.transfer none
    ⟨server.settings.session.bind Socket.connected, server.store, true, server.workDir, none⟩

/-- A client comes. It gets the number of its connection. -/
def accept (server : Server) : Nat × Server :=
  let client := server.newClient
  let client := if server.isBusy then client.hangUp else client
  (server.clients.size, { server with clients := server.clients.push client })

/-- Do something with the connection of a client. It has the shares as long as it lasts. -/
def withClient {α : Type} (server : Server) (number : Nat)
    (step : Connection Socket → α × Connection Socket) : α × Server :=
  let client := server.clients[number]?.getD server.newClient
  let (result, next) := step (if client.isOver then client else client.withStore server.store)
  (result, { server with
    store := if client.isOver then server.store else next.world.store
    clients := server.clients.set! number next })

/-- Change the connection of a client. -/
def onClient (server : Server) (number : Nat) (step : Connection Socket → Connection Socket) :
    Server :=
  (server.withClient number fun client => ((), step client)).2

/-- Stop serving: whoever is being served is hung up on, and the socket is taken away. -/
def stop (server : Server) : Server :=
  let server := match server.clients.findIdx? fun client => !client.isOver with
    | none => server
    | some number => server.onClient number Connection.hangUp
  server.withFiles
    (removeSocket server.store.fs server.workDir server.settings.process.socketPath)

end Server

end FileShare
