import FileShare.Exchange.Listing
import FileShare.Share.Branch

/-!
# Uploading a file

The responder writes an upload under a temporary name next to its target, and gives it the target's
name only when the end of the upload has been announced. So a target holds what it held before, or
the whole of an upload, and never a part of one.

An upload that fails is removed at once. From then on the rest of its stream is dropped without a
word, until the next opening request.

The initiator sends its local file out of a background job, once the responder is ready for it. If
the file cannot be opened, it tells the responder that the upload is abandoned. Once it is open,
reading it fails for a directory only: other failures to read a local file are left out.
-/

namespace FileShare

/-! ### The responder -/

/-- An upload that is being written. -/
structure Receiving where
  target : String
  /-- The URL of the temporary file. -/
  temporary : String
  /-- The temporary file, until it has been given up. -/
  file : Option FileId
  deriving DecidableEq, Inhabited

namespace Receiving

/-- Write bytes, in as many calls as it takes. A call that writes nothing is a failure. The bound
is on the number of calls. -/
def writeAll (receiving : Receiving) (file : FileId) : Nat → ByteArray → ShareM Unit
  | 0, _ => pure ()
  | bound + 1, data => do
    if data.size ≠ 0 then
      let count ← Share.write file data
      if count = 0 then
        throw ⟨Operation.write.systemName, receiving.temporary, .ioFailure⟩
      receiving.writeAll file bound (data.extract count data.size)

/-- Write a piece of the upload. Every call writes something, so there are no more calls than
bytes. -/
def write (receiving : Receiving) (data : ByteArray) : Except ExchangeError (ShareM Unit) :=
  match receiving.file with
  | some file => .ok (receiving.writeAll file data.size data)
  | none => .error (.unexpectedCommand Command.uploadDataReq.code)

/-- Put the upload in the place of its target. -/
def commit (receiving : Receiving) : ShareM Unit := do
  if let some file := receiving.file then
    Share.close file
  Share.rename receiving.temporary receiving.target

/-- Remove the temporary file. -/
def discard (receiving : Receiving) : StateM Store Unit := do
  if let some file := receiving.file then
    Share.tolerate (Share.close file)
  Share.tolerate (Share.unlink receiving.temporary)

end Receiving

/-- The responder of an upload. -/
structure Receiver where
  receiving : Option Receiving
  /-- The stream has failed, and the rest of it is dropped. -/
  failed : Bool
  /-- The upload is complete, or has been abandoned. -/
  finished : Bool
  deriving DecidableEq, Inhabited

namespace Receiver

variable {ω : Type}

/-- No upload yet. -/
def idle : Receiver := ⟨none, false, false⟩

/-- Remove the upload that is being written, if there is one. -/
def discard (receiver : Receiver) : WorldM ω Receiver := do
  if let some receiving := receiver.receiving then
    World.onStore receiving.discard
  pure { receiver with receiving := none }

/-- Remove the upload, and drop the rest of its stream. -/
def abort (receiver : Receiver) (error : ExchangeError) : WorldM ω (Handled Receiver) := do
  pure (.error error, { ← receiver.discard with failed := true })

/-- Open the temporary file for an upload. That directories are missing and cannot be made shows
when the file is opened. -/
def openTemporary [Outlet ω] (message : Message) : StepM ω Receiving := do
  let url ← World.connect message
  match (Url.parent? url).filter fun parent => !Url.isServer parent with
  | none => throw (.invalidParameter "upload target must be inside a share")
  | some parent =>
    (World.onStore (Share.tolerate (Share.makeBranch parent)) : WorldM ω Unit)
    let token := (← get).store.tokens
    modify fun world => { world with store := { world.store with tokens := token + 1 } }
    let temporary := Url.join parent (temporaryName token)
    let file ← World.share (Share.openFile temporary .create)
    pure ⟨url, temporary, some file⟩

/-- Answer the opening request. An upload from before is removed once the new one is open. -/
def begin [Outlet ω] (receiver : Receiver) (requestId : String) (message : Message) :
    WorldM ω (Handled Receiver) := do
  match ← (openTemporary message).run with
  | .error error => pure (.error error, receiver)
  | .ok receiving =>
    let _ ← receiver.discard
    let result ← (World.send (.of requestId .uploadInitResp (.status .success))).run
    pure (result, ⟨some receiving, false, false⟩)

/-- Write a piece of the upload. -/
def accept (receiver : Receiver) (message : Message) : WorldM ω (Handled Receiver) := do
  if receiver.failed then
    pure (.ok (), receiver)
  else
    match message.uploadData?, receiver.receiving with
    | none, _ => pure (.error (.missingBody .uploadDataReq), receiver)
    | some _, none => receiver.abort (.unexpectedCommand Command.uploadDataReq.code)
    | some data, some receiving =>
      match receiving.write data with
      | .error error => receiver.abort error
      | .ok action =>
        match ← (World.share action : StepM ω Unit).run with
        | .ok () => pure (.ok (), receiver)
        | .error error => receiver.abort error

/-- Put the upload in its place, and confirm it. -/
def complete [Outlet ω] (receiver : Receiver) (requestId : String) :
    WorldM ω (Handled Receiver) := do
  if receiver.failed then
    pure (.ok (), receiver)
  else
    match receiver.receiving with
    | none => receiver.abort (.unexpectedCommand Command.uploadEndReq.code)
    | some receiving =>
      match ← (World.share receiving.commit : StepM ω Unit).run with
      | .error error =>
        ({ receiver with receiving := some { receiving with file := none } } : Receiver).abort error
      | .ok () =>
        let result ← (World.send (.of requestId .uploadEndResp (.status .success))).run
        pure (result, { receiver with receiving := none, finished := true })

/-- The initiator gives the upload up. -/
def abandon (receiver : Receiver) : WorldM ω (Handled Receiver) := do
  pure (.ok (), { ← receiver.discard with failed := true, finished := true })

/-- Leave nothing behind. -/
def quit (receiver : Receiver) : WorldM ω Receiver := do
  if receiver.finished then pure receiver else receiver.discard

end Receiver

/-! ### The initiator -/

/-- The initiator of an upload. -/
structure Sender where
  job : Option Job
  /-- How many bytes earlier jobs have sent. -/
  sent : UInt64
  deriving Inhabited

namespace Sender

variable {ω : Type}

/-- Nothing sent yet. -/
def idle : Sender := ⟨none, 0⟩

/-- Stop sending, and remember how much was sent. -/
def stopJob [Outlet ω] (sender : Sender) : WorldM ω Sender := do
  match sender.job with
  | some job =>
    job.stop
    pure ⟨none, job.sent⟩
  | none => pure sender

/-- What the responder is told about a source that cannot be opened. -/
def sourceMissing (path : String) (error : IoError) : Status :=
  ⟨StatusCode.notFound, s!"{path}: {error.message}"⟩

/-- Start sending the local file. -/
def begin [Outlet ω] (sender : Sender) (settings : TransferSettings) (requestId : String) :
    WorldM ω (Handled Sender) := do
  let path := settings.request.inputFile
  let world ← get
  match LocalFile.openToRead world.store.fs world.workDir path with
  | .error error =>
    let told ← (World.send (.of requestId .uploadError
      (.status (sourceMissing path error)))).run
    pure (told.bind fun () => .error (.io error), sender)
  | .ok file =>
    let sender ← sender.stopJob
    let source : FileSource := ⟨file, 0, max 1 settings.writeBuffer⟩
    pure (.ok (), { sender with
      job := some (.start .initiator .upload requestId (.upload source) sender.sent) })

/-- The responder is ready, or reports that it is not. -/
def answered [Outlet ω] (sender : Sender) (settings : TransferSettings) (requestId : String)
    (message : Message) : WorldM ω (Handled Sender) := do
  match message.status? with
  | some status =>
    if status.isSuccess then sender.begin settings requestId
    else pure (.error (.remote .uploadInitResp status), sender)
  | none => sender.begin settings requestId

/-- The upload is in its place. -/
def finish [Outlet ω] (sender : Sender) : WorldM ω (Handled Sender) := do
  let sender ← sender.stopJob
  World.report (.completed [] sender.sent)
  pure (.ok (), sender)

/-- The responder reports a failure. -/
def refused [Outlet ω] (sender : Sender) (message : Message) : WorldM ω (Handled Sender) := do
  let sender ← sender.stopJob
  pure (.error (.ofPeer .uploadError message), sender)

end Sender

end FileShare
