import FileShare.Exchange.Listing

/-!
# Downloading a range of a file

The initiator opens an exchange with the URL of a file, is told what there is, creates its local
file, and asks for a range. The responder keeps the file open, so ranges may be asked for again;
every accepted request ends the transfer before it.

Both ends of a range count. The responder cuts a range at the last byte of the file as it was when
it was opened (`clampRange`), and sends what is left of it in pieces out of a background job,
followed by an end message.

The initiator writes the pieces through a buffer. What the buffer holds reaches the file when the
file is given up, for whatever reason.

The local file may fail to be created. After that it takes whatever is written to it: that a write
fails, or the flush of the buffer, is left out. Calls on the share may fail in any way.
-/

namespace FileShare

/-- The part of a range that lies in a file of a given size: its first and last byte, if there are
any. -/
def clampRange (first last size : UInt64) : Option (Nat × Nat) :=
  if size = 0 then
    none
  else
    let last := min last.toNat (size.toNat - 1)
    if first.toNat ≤ last then some (first.toNat, last) else none

/-! ### The responder -/

/-- The responder of a download. -/
structure FileServer where
  file : Option FileId
  /-- The size of the file when it was opened. -/
  size : UInt64
  job : Option Job
  deriving Inhabited

namespace FileServer

variable {ω : Type} [Outlet ω]

/-- Nothing opened yet. -/
def idle : FileServer := ⟨none, 0, none⟩

/-- Stop the transfer that is going on. -/
def stopJob (server : FileServer) : WorldM ω FileServer := do
  Listing.stopJob server.job
  pure { server with job := none }

/-- Give the file up. A failure to close it concerns nobody. -/
def closeFile (server : FileServer) : WorldM ω FileServer := do
  match server.file with
  | some file =>
    World.onStore (Share.tolerate (Share.close file))
    pure { server with file := none }
  | none => pure server

/-- Open the file that a request asks for. -/
def openSource (message : Message) : StepM ω (String × FileId × Stat) := do
  let url ← World.connect message
  let file ← World.share (Share.openFile url .read)
  let stat ← World.share (Share.fileStat file)
  pure (url, file, stat)

/-- Answer the opening request. -/
def begin (server : FileServer) (requestId : String) (message : Message) :
    WorldM ω (Handled FileServer) := do
  match ← (openSource message).run with
  | .error error => pure (.error error, server)
  | .ok (url, file, stat) =>
    let server ← (← server.stopJob).closeFile
    let result ← (World.send (.of requestId .downloadInitResp
      (.response (.downloadInit (stat.toFileInfo (Url.lastSegment url)))))).run
    pure (result, { server with file := some file, size := stat.size })

/-- The range that a request asks for. -/
def requestedRange? (message : Message) : Option ByteRange :=
  match message.parameters? with
  | some (.range range) => some range
  | _ => none

/-- How many data bytes a message of a transfer has at most. -/
def chunkSize (settings : TransferSettings) (range : ByteRange) : Nat :=
  max 1 (if range.chunkSize = 0 then settings.chunkSize else range.chunkSize.toNat)

/-- Answer the request for a range. -/
def serve (server : FileServer) (settings : TransferSettings) (requestId : String)
    (message : Message) : WorldM ω (Handled FileServer) := do
  match requestedRange? message, server.file with
  | none, _ => pure (.error (.missingBody .downloadDataReq), server)
  | some _, none => pure (.error (.unexpectedCommand Command.downloadDataReq.code), server)
  | some range, some file =>
    let server ← server.stopJob
    match clampRange range.first range.last server.size with
    | none =>
      let result ← (World.send (.bare requestId .downloadEndResp)).run
      pure (result, server)
    | some (first, last) =>
      match ← (World.share (Share.seek file (UInt64.ofNat first))).run with
      | .error error => pure (.error error, server)
      | .ok _ =>
        let source : RangeSource :=
          ⟨file, first, last, chunkSize settings range, max 1 settings.readBuffer,
            ByteArray.empty⟩
        pure (.ok (), { server with
          job := some (.start .responder .download requestId (.range source) 0) })

/-- Stop and give everything up. -/
def quit (server : FileServer) : WorldM ω FileServer := do
  (← server.stopJob).closeFile

end FileServer

/-! ### The initiator -/

/-- The initiator of a download. -/
structure Fetcher where
  /-- What the responder told about the file. -/
  info : Option FileInfo
  /-- The local file. -/
  sink : Option BufferedFile
  /-- How many bytes have been received. -/
  received : UInt64
  deriving Inhabited

namespace Fetcher

variable {ω : Type}

/-- Nothing received yet. -/
def idle : Fetcher := ⟨none, none, 0⟩

/-- Give the local file up: what is in the buffer is written. -/
def dropSink (fetcher : Fetcher) : WorldM ω Fetcher := do
  match fetcher.sink with
  | some sink =>
    modify fun world =>
      { world with store := { world.store with fs := (sink.flush world.store.fs).2 } }
    pure { fetcher with sink := none }
  | none => pure fetcher

/-- Create a local file. -/
def createSink (path : String) : StepM ω BufferedFile := do
  let world ← get
  match LocalFile.create world.store.fs world.workDir path with
  | .error error => throw (.io error)
  | .ok (fs, content) =>
    set { world with store := { world.store with fs } }
    pure (.ofContent content)

/-- The range to ask for: the configured one, where an end of zero means the end of the file. -/
def rangeOf (settings : TransferSettings) (info : FileInfo) : ByteRange :=
  let request := settings.request
  let last := if request.endOffset = 0 then
      (if info.size = 0 then 0 else info.size - 1)
    else request.endOffset
  ⟨request.startOffset, last, UInt32.ofNat settings.chunkSize⟩

/-- Take note of the file, create the local file, and ask for the range. A local file from before
is given up once the new one is there. -/
def begin [Outlet ω] (fetcher : Fetcher) (settings : TransferSettings) (requestId : String)
    (message : Message) : WorldM ω (Handled Fetcher) := do
  match message.response? with
  | some (.downloadInit info) =>
    if UInt32.size ≤ settings.chunkSize then
      pure (.error (.invalidParameter "chunk size does not fit in 32 bits"), fetcher)
    else
      match ← (createSink settings.request.outputFile).run with
      | .error error => pure (.error error, fetcher)
      | .ok sink =>
        let fetcher ← fetcher.dropSink
        let request : Request := ⟨none, .range (rangeOf settings info)⟩
        let result ← (World.send (.of requestId .downloadDataReq (.request request))).run
        pure (result, { fetcher with sink := some sink, info := some info })
  | _ => pure (.error (.missingBody .downloadInitResp), fetcher)

/-- Write a piece to the local file. -/
def accept (fetcher : Fetcher) (message : Message) : WorldM ω (Handled Fetcher) := do
  match fetcher.sink, message.downloadData? with
  | none, _ => pure (.error (.unexpectedCommand Command.downloadDataResp.code), fetcher)
  | some _, none => pure (.error (.missingBody .downloadDataResp), fetcher)
  | some sink, some data =>
    let world ← get
    let (sink, fs) := sink.write world.store.fs data
    set { world with store := { world.store with fs } }
    pure (.ok (), { fetcher with
      sink := some sink
      received := fetcher.received + UInt64.ofNat data.size })

/-- Finish the local file and report. -/
def finish (fetcher : Fetcher) : WorldM ω (Handled Fetcher) := do
  let fetcher ← fetcher.dropSink
  World.report (.completed fetcher.info.toList fetcher.received)
  pure (.ok (), { fetcher with info := none })

end Fetcher

end FileShare
