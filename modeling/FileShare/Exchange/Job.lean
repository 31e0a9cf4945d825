import FileShare.Exchange.World
import FileShare.Host.LocalFile
import FileShare.Share.TemporaryName

/-!
# Background jobs

Three things take longer than one message: a directory is listed, a range of a file is sent, and a
local file is sent. Each is a `Job` that runs beside its exchange, one step at a time.

A job alternates between two phases. It **produces** its next message from its source
(`Producer.advance`), and it then **offers** the message until there is room for it in the outlet.
Only one message is ever in hand, so a job never queues more than there is room for.

When an exchange has been told to stop, or its job is stopped, the job ends where it stands: it
offers nothing more, and it reads nothing more than the entry of a directory that it was about to
read. A failure ends a job as well, and is told as the side of the job tells failures.

Two failures of the host are left out: that a job cannot be started, and that a local file which has
been opened cannot be read, unless it is a directory. Calls on the share may fail in any way.
-/

namespace FileShare

/-! ### Sources of messages -/

/-- A directory that is being listed in pages. -/
structure ListingSource where
  directory : Directory
  options : ListingOptions
  /-- The entries of the page that is being filled. -/
  page : List FileInfo
  deriving Inhabited

/-- A range of an open file that is being sent. -/
structure RangeSource where
  file : FileId
  /-- Where the next read begins. -/
  position : Nat
  /-- The last byte of the range. -/
  last : Nat
  /-- The most data bytes in a message. -/
  chunkSize : Nat
  /-- The most bytes that are read at once. -/
  readSize : Nat
  /-- What has been read and not been sent. -/
  pending : ByteArray
  deriving Inhabited

/-- A local file that is being sent. -/
structure FileSource where
  file : FileSystem.Opened
  /-- Where the next read begins. -/
  position : Nat
  /-- The most bytes that are read at once. -/
  readSize : Nat
  deriving Inhabited

/-- What a job takes its messages from. -/
inductive Producer where
  | listing (source : ListingSource)
  /-- All pages have been offered. -/
  | listed
  | range (source : RangeSource)
  | upload (source : FileSource)
  /-- The message that ends the work has been offered. -/
  | finished
  deriving Inhabited

/-- What a producer comes to. -/
inductive Product where
  /-- A message, and what comes after it. -/
  | message (message : Message) (next : Producer)
  /-- Nothing to send yet. -/
  | quiet (next : Producer)
  /-- There is nothing more to do. -/
  | stop
  | failure (error : ExchangeError)
  deriving Inhabited

namespace Producer

/-- Whether a directory entry belongs into a listing. -/
def isListed (options : ListingOptions) (entry : Entry) : Bool :=
  !(entry.name = "." || entry.name = ".." || isTemporaryName entry.name) &&
    (!entry.stat.hidden || options.showHidden) &&
    (!options.onlyFolders || entry.stat.isDirectory)

/-- The message that carries a page. -/
def pageMessage (requestId : String) (page : List FileInfo) : Message :=
  .of requestId .listingInitResp (.response (.page page))

/-- The message that carries a piece of a download. -/
def downloadMessage (requestId : String) (data : ByteArray) : Message :=
  .of requestId .downloadDataResp (.response (.downloadData data))

/-- The message that carries a piece of an upload. -/
def uploadMessage (requestId : String) (data : ByteArray) : Message :=
  .of requestId .uploadDataReq (.request ⟨none, .upload data⟩)

variable {ω : Type}

/-- Take the next entry of a directory, and send the page that it fills. -/
def advanceListing (requestId : String) (cancelled : Bool) (source : ListingSource) :
    WorldM ω Product := do
  match ← (World.share (Share.nextEntry source.directory)).run with
  | .error error => pure (.failure error)
  | .ok none =>
    if source.page = [] then
      pure (.message (.bare requestId .listingEndResp) .finished)
    else
      pure (.message (pageMessage requestId source.page) .listed)
  | .ok (some entry) =>
    let directory := { source.directory with entries := source.directory.entries.tail }
    if cancelled then
      pure .stop
    else if isListed source.options entry then
      let page := source.page ++ [entry.stat.toFileInfo entry.name]
      if page.length = source.options.pageSize.toNat then
        pure (.message (pageMessage requestId page)
          (.listing { source with directory, page := [] }))
      else
        pure (.quiet (.listing { source with directory, page }))
    else
      pure (.quiet (.listing { source with directory }))

/-- Send the next piece of what has been read, or read on. -/
def advanceRange (requestId : String) (cancelled : Bool) (source : RangeSource) :
    WorldM ω Product := do
  if source.pending.size ≠ 0 then
    let chunk := source.pending.extract 0 source.chunkSize
    let pending := source.pending.extract source.chunkSize source.pending.size
    pure (.message (downloadMessage requestId chunk) (.range { source with pending }))
  else if source.last < source.position then
    pure (.message (.bare requestId .downloadEndResp) .finished)
  else if cancelled then
    pure .stop
  else
    let wanted := min (source.last - source.position + 1) source.readSize
    match ← (World.share (Share.read source.file wanted)).run with
    | .error error => pure (.failure error)
    | .ok data =>
      if data.size = 0 then
        pure (.message (.bare requestId .downloadEndResp) .finished)
      else
        pure (.quiet (.range
          { source with position := source.position + data.size, pending := data }))

/-- Read the next piece of a local file and send it. -/
def advanceUpload (requestId : String) (cancelled : Bool) (source : FileSource) :
    WorldM ω Product := do
  if cancelled then
    pure .stop
  else
    match source.file with
    | .directory => pure (.failure (.io (.ofErrno .isDirectory)))
    | .file content =>
      let data := (← get).store.fs.read content source.position source.readSize
      if data.size = 0 then
        pure (.message (.bare requestId .uploadEndReq) .finished)
      else
        pure (.message (uploadMessage requestId data)
          (.upload { source with position := source.position + data.size }))

/-- One step of a producer. -/
def advance (requestId : String) (cancelled : Bool) : Producer → WorldM ω Product
  | listing source => advanceListing requestId cancelled source
  | listed => pure (.message (.bare requestId .listingEndResp) .finished)
  | range source => advanceRange requestId cancelled source
  | upload source => advanceUpload requestId cancelled source
  | finished => pure .stop

end Producer

/-! ### Jobs -/

/-- A **background job**. -/
structure Job where
  role : Role
  family : Family
  requestId : String
  producer : Producer
  /-- The message that is being offered. -/
  offer : Option Message
  /-- How many bytes of a local file have been queued. -/
  sent : UInt64
  /-- Nothing is left to do. -/
  isEnded : Bool
  deriving Inhabited

/-- How a job stands after a step. -/
inductive JobStatus where
  | running
  /-- There is no room for the message that is being offered. -/
  | blocked
  | ended
  deriving DecidableEq, Repr, Inhabited

namespace Job

/-- A job that has not produced anything; some bytes may have been queued by jobs before it. -/
def start (role : Role) (family : Family) (requestId : String) (producer : Producer)
    (sent : UInt64) : Job :=
  ⟨role, family, requestId, producer, none, sent, false⟩

/-- A job that has nothing left to do. -/
def ended (job : Job) : Job :=
  { job with isEnded := true }

/-- How many bytes of a local file a message carries. -/
def uploadedBytes (message : Message) : Nat :=
  match message.uploadData? with
  | some data => data.size
  | none => 0

variable {ω : Type} [Outlet ω]

/-- End a job with a failure. -/
def failWith (job : Job) (error : ExchangeError) : WorldM ω (JobStatus × Job) := do
  World.fail job.role job.family job.requestId error
  pure (.ended, job.ended)

/-- Offer the message in hand once. -/
def offerOnce (job : Job) (message : Message) : WorldM ω (JobStatus × Job) := do
  let outlet := (← get).outlet
  if Outlet.isCancelled outlet then
    pure (.ended, job.ended)
  else if Outlet.hasSpace outlet then
    match ← (World.send message).run with
    | .error error => job.failWith error
    | .ok () =>
      pure (.running, { job with
        offer := none
        sent := job.sent + UInt64.ofNat (uploadedBytes message) })
  else
    match ← (World.flush : StepM ω Unit).run with
    | .error error => job.failWith error
    | .ok () =>
      pure (if Outlet.hasSpace (← get).outlet then .running else .blocked, job)

/-- Produce something. -/
def produce (job : Job) : WorldM ω (JobStatus × Job) := do
  match ← job.producer.advance job.requestId (Outlet.isCancelled (← get).outlet) with
  | .message message next => pure (.running, { job with producer := next, offer := some message })
  | .quiet next => pure (.running, { job with producer := next })
  | .stop => pure (.ended, job.ended)
  | .failure error => job.failWith error

/-- One step of a job: offer what is in hand, or produce something. -/
def step (job : Job) : WorldM ω (JobStatus × Job) := do
  if job.isEnded then
    pure (.ended, job)
  else
    match job.offer with
    | some message => job.offerOnce message
    | none => job.produce

/-- Stop a job. One that is producing still finishes the read that it is in. -/
def stop (job : Job) : WorldM ω Unit := do
  if !job.isEnded && job.offer.isNone then
    match ← job.producer.advance job.requestId true with
    | .failure error => World.fail job.role job.family job.requestId error
    | _ => pure ()

end Job

end FileShare
