import FileShare.Proofs.Dialogue
import FileShare.Proofs.Streaming

/-!
# How large the pieces of a file are in their packets

A piece of a file travels in a message, and the message in a packet, whose payload must not be
longer than `Header.maxPayload`. How much longer a payload is than the piece in it is known exactly
(`size_uploadMessage`, `size_downloadMessage`): some thirty bytes, and the id.

The pieces that a side ever has in hand are no longer than the buffers in its settings say
(`Job.Cuts`), and settings are checked before they are used. But the check allows buffers that are
as long as a payload may be, and the buffer of an upload may even be longer. So it does not see to
it that all pieces make packets: `Settings.pieces_of_validate` says for each of them whether it
does.
-/

namespace FileShare

/-! ### Sizes of payloads -/

namespace MessagePack

/-- How many bytes the marker and the length of a text take. -/
def strHeadSize (length : Nat) : Nat :=
  if length < 0x20 then 1 else if length < 0x100 then 2 else if length < 0x10000 then 3 else 5

/-- How many bytes the marker and the length of plain bytes take. -/
def binHeadSize (length : Nat) : Nat :=
  if length < 0x100 then 2 else if length < 0x10000 then 3 else 5

theorem length_writeStrHead (length : Nat) (rest : List UInt8) :
    (writeStrHead length rest).length = strHeadSize length + rest.length := by
  unfold writeStrHead strHeadSize
  grind [length_writeWord]

theorem length_writeBinHead (length : Nat) (rest : List UInt8) :
    (writeBinHead length rest).length = binHeadSize length + rest.length := by
  unfold writeBinHead binHeadSize
  grind [length_writeWord]

namespace Value

theorem length_write_ofString (text : String) (rest : List UInt8) :
    ((ofString text).write rest).length =
      strHeadSize text.toUTF8.size + text.toUTF8.size + rest.length := by
  rw [ofString, write, length_writeStrHead, length_before, Nat.add_assoc]

theorem length_write_bin (bytes : ByteArray) (rest : List UInt8) :
    ((bin bytes).write rest).length = binHeadSize bytes.size + bytes.size + rest.length := by
  rw [write, length_writeBinHead, length_before, Nat.add_assoc]

/-- A case of a sum is a map of one entry. -/
theorem length_write_ofCase (name : String) (content : Value) (rest : List UInt8) :
    ((ofCase name content).write rest).length =
      1 + strHeadSize name.toUTF8.size + name.toUTF8.size + (content.write rest).length := by
  rw [ofCase, write, writeEntries, writeEntries]
  show ((ofString name).write (content.write rest)).length + 1 = _
  rw [length_write_ofString]
  omega

theorem length_write_pair (first second : Value) (rest : List UInt8) :
    ((array [first, second]).write rest).length =
      1 + (first.write (second.write rest)).length := by
  rw [write, writeItems, writeItems, writeItems]
  exact Nat.add_comm _ 1

end Value

end MessagePack

open MessagePack (Value strHeadSize binHeadSize)

/-- **The payload of a message** is its id, three bytes, and its body. -/
theorem Message.size_payload (requestId : String) (command : Command) (body : Body) :
    (Message.of requestId command body).payload.size =
      3 + strHeadSize requestId.toUTF8.size + requestId.toUTF8.size +
        body.toValue.bytes.length := by
  -- every command has a code that is its own marker
  have hcode (rest : List UInt8) :
      ((Value.ofInt command.code.toInt64).write rest).length = 1 + rest.length := by
    cases command <;> exact Nat.add_comm _ 1
  rw [Message.payload, Message.toValue, Message.of, Value.bytes, List.size_toByteArray,
    Value.length_write_pair, Value.length_write_pair, Value.length_write_ofString, hcode,
    Value.bytes]
  dsimp only
  omega

/-- **How long a payload is** that carries so many bytes, from the length of the id and from what
else is spelled in it. -/
def payloadSize (frame : Nat) (requestId : String) (count : Nat) : Nat :=
  frame + strHeadSize requestId.toUTF8.size + requestId.toUTF8.size + binHeadSize count + count

/-- What else is spelled in a message that carries a piece of an upload. -/
def uploadFrame : Nat := 26

/-- What else is spelled in a message that carries a piece of a download. -/
def downloadFrame : Nat := 27

theorem size_uploadMessage (requestId : String) (data : ByteArray) :
    (Producer.uploadMessage requestId data).payload.size =
      payloadSize uploadFrame requestId data.size := by
  have hnil (rest : List UInt8) : (Value.nil.write rest).length = 1 + rest.length :=
    Nat.add_comm _ 1
  have hsizes : "Request".toUTF8.size = 7 ∧ "UploadData".toUTF8.size = 10 ∧
      strHeadSize 7 = 1 ∧ strHeadSize 10 = 1 := ⟨rfl, rfl, rfl, rfl⟩
  obtain ⟨hrequest, hupload, hshort, hshort'⟩ := hsizes
  rw [Producer.uploadMessage, Message.size_payload, Body.toValue, Request.toValue,
    Parameters.toValue, Value.bytes, Value.length_write_ofCase, Value.length_write_pair]
  show _ + (_ + (1 + (Value.nil.write
    ((Value.ofCase "UploadData" (.bin data)).write [])).length)) = _
  rw [hnil, Value.length_write_ofCase, Value.length_write_bin, hrequest, hupload, hshort, hshort',
    payloadSize, uploadFrame, List.length_nil]
  omega

theorem size_downloadMessage (requestId : String) (data : ByteArray) :
    (Producer.downloadMessage requestId data).payload.size =
      payloadSize downloadFrame requestId data.size := by
  have hsizes : "Response".toUTF8.size = 8 ∧ "DownloadData".toUTF8.size = 12 ∧
      strHeadSize 8 = 1 ∧ strHeadSize 12 = 1 := ⟨rfl, rfl, rfl, rfl⟩
  obtain ⟨hresponse, hdownload, hshort, hshort'⟩ := hsizes
  rw [Producer.downloadMessage, Message.size_payload, Body.toValue, Response.toValue, Value.bytes,
    Value.length_write_ofCase, Value.length_write_ofCase, Value.length_write_bin, hresponse,
    hdownload, hshort, hshort', payloadSize, downloadFrame, List.length_nil]
  omega

/-- Of an id of at most 64 bytes, the length takes two bytes at most, and that of a piece five. -/
theorem payloadSize_le {requestId : String} (hid : requestId.toUTF8.size ≤ 64)
    (frame count : Nat) : payloadSize frame requestId count ≤ frame + 71 + count := by
  unfold payloadSize strHeadSize binHeadSize
  grind

/-- **A message makes a packet if its payload is not too long**, and otherwise none. -/
theorem Packet.exists_ofMessage_iff {message : Message} :
    (∃ packet, Packet.ofMessage message = .ok packet) ↔
      message.payload.size ≤ Header.maxPayload :=
  ⟨fun ⟨_, hpacket⟩ ↦ (ofMessage_eq_ok hpacket).1, fun hle ↦ ⟨_, ofMessage_of_le hle⟩⟩

/-! ### What is read is cut into pieces -/

/-- No read gives more than was asked for. -/
theorem Share.size_le_of_read {store store' : Store} {file : FileId} {size : Nat}
    {data : ByteArray} (h : (Share.read file size).run.run store = (.ok data, store')) :
    data.size ≤ size := by
  rcases Share.onFile_cases h with ⟨⟨error, heq⟩, -⟩ |
    ⟨limit, faults, value, mid, -, hbody, ⟨report, heq⟩, -⟩
  · cases heq
  split at hbody
  · obtain ⟨rfl, -⟩ := Prod.mk.inj hbody
    obtain rfl := Except.ok.inj heq
    rw [FileSystem.read_eq_extract, ByteArray.size_extract]
    omega
  · obtain ⟨rfl, -⟩ := Prod.mk.inj hbody
    cases heq

/-- **A message of a transfer** that carries at most so many bytes, but some, or the end message. -/
inductive Message.Carries (requestId : String) (limit : Nat) : Message → Prop where
  | upload {data : ByteArray} (hsome : data.size ≠ 0) (hle : data.size ≤ limit) :
      Carries requestId limit (Producer.uploadMessage requestId data)
  | download {data : ByteArray} (hsome : data.size ≠ 0) (hle : data.size ≤ limit) :
      Carries requestId limit (Producer.downloadMessage requestId data)
  | ending {command : Command} (hlast : command = .uploadEndReq ∨ command = .downloadEndResp) :
      Carries requestId limit (.bare requestId command)

/-- What messages of a transfer are taken from that carry at most so many bytes. -/
inductive Producer.Cuts (limit : Nat) : Producer → Prop where
  | upload {source : FileSource} (hle : source.readSize ≤ limit) : Cuts limit (.upload source)
  | range {source : RangeSource} (hchunk : source.chunkSize ≠ 0)
      (hle : min source.chunkSize source.readSize ≤ limit)
      (hpending : source.pending.size ≤ source.readSize) : Cuts limit (.range source)
  | finished : Cuts limit .finished

/-- What comes of it. -/
inductive Product.Cuts (requestId : String) (limit : Nat) : Product → Prop where
  | message {message : Message} {next : Producer} (hmessage : message.Carries requestId limit)
      (hnext : next.Cuts limit) : Cuts requestId limit (.message message next)
  | quiet {next : Producer} (hnext : next.Cuts limit) : Cuts requestId limit (.quiet next)
  | stop : Cuts requestId limit .stop
  | failure (error : ExchangeError) : Cuts requestId limit (.failure error)

/-- **A job cuts a file into pieces** of at most so many bytes: the one that it has in hand, and all
that are to come. -/
structure Job.Cuts (job : Job) (requestId : String) (limit : Nat) : Prop where
  producer : job.producer.Cuts limit
  offer : ∀ message ∈ job.offer, message.Carries requestId limit
  requestId : job.requestId = requestId

section Cutting

variable {requestId : String} {limit : Nat}

/-- **Whatever comes of a producer carries no more than it may.** -/
theorem Producer.Cuts.advance {producer : Producer} (h : producer.Cuts limit)
    (requestId : String) (cancelled : Bool) (world : World Channel) :
    ((producer.advance requestId cancelled).run world).1.Cuts requestId limit := by
  cases h with
  | @upload source hle =>
    show ((advanceUpload requestId cancelled source).run world).1.Cuts requestId limit
    rw [advanceUpload_run]
    dsimp only
    split
    · exact .stop
    split
    · exact .failure _
    split
    · exact .message (.ending (.inl rfl)) .finished
    · rename_i hsome
      refine .message (.upload hsome (Nat.le_trans ?_ hle)) (.upload hle)
      rw [FileSystem.read_eq_extract, ByteArray.size_extract]
      omega
  | @range source hchunk hle hpending =>
    show ((advanceRange requestId cancelled source).run world).1.Cuts requestId limit
    rw [advanceRange_run]
    split
    · have hsize : (source.pending.extract 0 source.chunkSize).size =
          min source.chunkSize source.pending.size := by
        rw [ByteArray.size_extract, Nat.sub_zero]
      refine .message (.download (by omega) (by omega)) (.range hchunk hle ?_)
      dsimp only
      rw [ByteArray.size_extract]
      omega
    split
    · exact .message (.ending (.inr rfl)) .finished
    split
    · exact .stop
    dsimp only
    rcases hread : (Share.read source.file (min (source.last - source.position + 1)
      source.readSize)).run.run world.store with ⟨_ | data, store⟩
    · exact .failure _
    · dsimp only
      split
      · exact .message (.ending (.inr rfl)) .finished
      · have hsize := Share.size_le_of_read hread
        exact .quiet (.range hchunk hle (by dsimp only; omega))
  | finished => exact .stop

/-- **A step of a job** keeps to what it may carry. -/
theorem Job.Cuts.step {job job' : Job} {world world' : World Channel} {status : JobStatus}
    (h : job.Cuts requestId limit) (hrun : job.step.run world = ((status, job'), world')) :
    job'.Cuts requestId limit := by
  have hended : job.ended.Cuts requestId limit := ⟨h.producer, h.offer, h.requestId⟩
  rw [step_run] at hrun
  split at hrun
  · obtain ⟨-, rfl, -⟩ := run_inj hrun
    exact h
  split at hrun
  · rcases offerOnce_cases hrun with ⟨-, rfl | rfl⟩ | ⟨-, -, rfl⟩ | ⟨-, -, -, -, rfl, -⟩
    · exact h
    · exact hended
    · exact ⟨h.producer, nofun, h.requestId⟩
    · exact hended
  · have hproduct := h.producer.advance job.requestId (Outlet.isCancelled world.outlet) world
    rw [produce_run] at hrun
    rcases hadvance : (job.producer.advance job.requestId (Outlet.isCancelled world.outlet)).run
      world with ⟨product, mid⟩
    rw [hadvance] at hrun hproduct
    cases hproduct with
    | message hmessage hnext =>
      obtain ⟨-, rfl, -⟩ := run_inj hrun
      exact ⟨hnext, fun other hmem ↦ Option.some.inj hmem ▸ h.requestId ▸ hmessage, h.requestId⟩
    | quiet hnext =>
      obtain ⟨-, rfl, -⟩ := run_inj hrun
      exact ⟨hnext, h.offer, h.requestId⟩
    | stop =>
      obtain ⟨-, rfl, -⟩ := run_inj hrun
      exact hended
    | failure error =>
      obtain ⟨-, rfl, -⟩ := run_inj hrun
      exact hended

end Cutting

/-! ### The sides of a transfer -/

/-- The message that the job of a side has in hand. -/
def Side.inHand? (side : Side) : Option Message :=
  side.exchange.party.job?.bind (·.offer)

/-- **A responder of a download that can be reached** if it is only asked for ranges as a client
with the same settings asks for them. What else it is told makes no difference. -/
inductive Side.Serves (settings : TransferSettings) (requestId : String) : Side → Prop where
  | fresh (world : World Channel) :
      Serves settings requestId ⟨settings, .ofFamily .responder .download requestId, world⟩
  | live {side : Side} (before : Serves settings requestId side) (moment : Moment)
      (hasks : ∀ message range, moment = .meets (.message message) →
        FileServer.requestedRange? message = some range →
          ∃ info, range = Fetcher.rangeOf settings info) :
      Serves settings requestId (side.live moment)
  | elsewhere {side : Side} (before : Serves settings requestId side) (world : World Channel) :
      Serves settings requestId { side with world }

/-- How much a responder sends at once to a client with the same settings. -/
def TransferSettings.downloadLimit (settings : TransferSettings) : Nat :=
  min settings.chunkSize (max 1 settings.readBuffer)

namespace Side

variable {side : Side} {requestId : String}

theorem settings_live (side : Side) (moment : Moment) :
    (side.live moment).settings = side.settings := by
  cases moment with
  | meets happening => cases happening <;> rfl
  | _ => rfl

/-- **The initiator of an upload** cuts its file into pieces as long as the buffer for that. -/
theorem Reachable.cuts (h : side.Reachable requestId .upload .initiator) :
    ∀ job ∈ side.exchange.party.job?,
      job.Cuts requestId (max 1 side.settings.writeBuffer) := by
  induction h with
  | fresh settings world => exact fun job hmem ↦ by cases hmem
  | elsewhere before world ih => exact ih
  | @live side before moment ih =>
    rw [settings_live]
    refine job_live ih (fun hjob hrun ↦ hjob.step hrun) fun message _ job hmem ↦ ?_
    obtain ⟨-, hid, -, hrole⟩ := before.keepsTo
    rcases hexchange : side.exchange with ⟨requestId', state | state⟩
    · rw [hexchange] at hrole
      cases hrole
    obtain rfl : requestId' = requestId := by rw [← hid, hexchange]
    rcases follows_of_process_initiator hexchange message with hsame | hnone |
      ⟨opened, sent, -, hstarted⟩
    · rw [hexchange] at ih
      exact ih job (hsame.symm.trans hmem)
    · cases hnone.symm.trans hmem
    · obtain rfl := Option.some.inj (hstarted.symm.trans hmem)
      exact ⟨.upload (Nat.le_refl _), nofun, rfl⟩

/-- A responder of a download that is asked in this way is one that can be reached. -/
theorem Serves.reachable {settings : TransferSettings} (h : side.Serves settings requestId) :
    side.Reachable requestId .download .responder ∧ side.settings = settings := by
  induction h with
  | fresh world => exact ⟨.fresh settings world, rfl⟩
  | live before moment hasks ih => exact ⟨.live ih.1 moment, (settings_live _ _).trans ih.2⟩
  | elsewhere before world ih => exact ⟨.elsewhere ih.1 world, ih.2⟩

/-- **Whatever a responder of a download is told, the job that it has afterwards** is the one that
it had, or one that cuts a range into the pieces that were asked for, if it has a job at all. -/
theorem KeepsTo.follows_download (h : side.KeepsTo requestId .download .responder)
    (message : Message) :
    let job? := (side.process message).exchange.party.job?
    job? = side.exchange.party.job? ∨ job? = none ∨ ∃ range file first last,
      FileServer.requestedRange? message = some range ∧
        job? = some (.start .responder .download requestId
          (.range ⟨file, first, last, FileServer.chunkSize side.settings range,
            max 1 side.settings.readBuffer, ByteArray.empty⟩) 0) := by
  obtain ⟨-, rfl, hfamily, hrole⟩ := h
  rcases hexchange : side.exchange with ⟨requestId, state | state⟩ <;> rw [hexchange] at hrole
  swap
  · cases hrole
  obtain ⟨server, rfl⟩ : ∃ server, state = .download server := by
    rw [hexchange] at hfamily
    cases state with
    | download server => exact ⟨server, rfl⟩
    | _ => cases hfamily
  cases hcheck : side.exchange.check message with
  | error error =>
    refine .inl ?_
    unfold Side.process Exchange.process
    rw [hcheck, hexchange]
    rfl
  | ok command =>
    rcases hrun : (Responder.handle side.settings requestId command message
      (.download server)).run side.world with ⟨⟨result, state'⟩, mid⟩
    have hhandle : (side.exchange.handle side.settings command message).run side.world =
        ((result, ⟨requestId, .responder state'⟩), mid) := by
      rw [hexchange]
      exact (run_bind_of_run hrun).trans rfl
    rw [process_eq hcheck, hhandle, hexchange]
    exact FileServer.job_of_handle hrun

/-- **A responder of a download** cuts a range into pieces as long as both of its buffers, if it is
asked for it by a client with the same settings. -/
theorem Serves.cuts {settings : TransferSettings} (hchunk : settings.chunkSize ≠ 0)
    (hlimit : settings.chunkSize < UInt32.size) (h : side.Serves settings requestId) :
    ∀ job ∈ side.exchange.party.job?, job.Cuts requestId settings.downloadLimit := by
  induction h with
  | fresh world => exact fun job hmem ↦ by cases hmem
  | elsewhere before world ih => exact ih
  | @live side before moment hasks ih =>
    refine job_live ih (fun hjob hrun ↦ hjob.step hrun) fun message hmoment job hmem ↦ ?_
    obtain ⟨hreachable, rfl⟩ := before.reachable
    rcases hreachable.keepsTo.follows_download message with hsame | hnone |
      ⟨range, file, first, last, hrange, hstarted⟩
    · exact ih job (hsame.symm.trans hmem)
    · cases hnone.symm.trans hmem
    · obtain rfl := Option.some.inj (hstarted.symm.trans hmem)
      obtain ⟨info, rfl⟩ := hasks message range hmoment hrange
      -- a client asks for pieces as long as its own settings say
      have hsize : FileServer.chunkSize side.settings (Fetcher.rangeOf side.settings info) =
          side.settings.chunkSize := by
        have hword : (UInt32.ofNat side.settings.chunkSize).toNat = side.settings.chunkSize :=
          UInt32.toNat_ofNat_of_lt' hlimit
        have hne : UInt32.ofNat side.settings.chunkSize ≠ 0 := fun hzero ↦
          hchunk (hword.symm.trans (congrArg UInt32.toNat hzero))
        unfold FileServer.chunkSize Fetcher.rangeOf
        dsimp only
        rw [if_neg hne, hword]
        omega
      rw [hsize]
      exact ⟨.range hchunk (Nat.le_refl _) (Nat.zero_le _), nofun, rfl⟩

/-- **The first piece of an upload** is as much of the local file as the buffer takes. -/
theorem first_piece {settings : TransferSettings} {world : World Channel} {content : Nat}
    (hopen : LocalFile.openToRead world.store.fs world.workDir settings.request.inputFile =
      .ok (.file content))
    (hsome : (world.store.fs.bytesOf (.file content)).size ≠ 0)
    (hgoes : world.outlet.isCancelled = false) (requestId : String) :
    let side : Side := ⟨settings, .ofFamily .initiator .upload requestId, world⟩
    (side.process (uploadReady requestId)).work.inHand? =
      some (Producer.uploadMessage requestId
        ((world.store.fs.bytesOf (.file content)).extract 0 (max 1 settings.writeBuffer))) := by
  intro side
  let data := world.store.fs.read content 0 (max 1 settings.writeBuffer)
  have hread : data = (world.store.fs.bytesOf (.file content)).extract 0
      (max 1 settings.writeBuffer) :=
    (FileSystem.read_eq_extract ..).trans (by rw [Nat.zero_add])
  have hdata : data.size ≠ 0 := by
    rw [hread, ByteArray.size_extract]
    omega
  let source : FileSource := ⟨.file content, 0, max 1 settings.writeBuffer⟩
  let job : Job := .start .initiator .upload requestId (.upload source) 0
  have hasked : side.process (uploadReady requestId) =
      ⟨settings, ⟨requestId, .initiator (.upload ⟨some job, 0⟩)⟩, world⟩ := by
    have hexchange : side.exchange = ⟨requestId, .initiator (.upload .idle)⟩ := rfl
    have hcheck : side.exchange.check (uploadReady requestId) = .ok .uploadInitResp :=
      Exchange.check_eq_ok rfl (Message.command?_of ..) rfl rfl
    have hbegin := Sender.idle.begin_run side.settings requestId side.world
    rw [hopen] at hbegin
    exact process_sender hexchange hcheck (Sender.idle.begin side.settings requestId) rfl hbegin
  have hstep : job.step.run world = ((.running, { job with
      producer := .upload { source with position := 0 + data.size }
      offer := some (Producer.uploadMessage requestId data) }), world) := by
    have hgoing : job.isEnded = false := rfl
    have hoffer : job.offer = none := rfl
    have hcancelled : Outlet.isCancelled world.outlet = false := hgoes
    have hadvance : (job.producer.advance job.requestId
        (Outlet.isCancelled world.outlet)).run world =
          (.message (Producer.uploadMessage requestId data)
            (.upload { source with position := 0 + data.size }), world) := by
      rw [hcancelled]
      show (Producer.advanceUpload requestId false source).run world = _
      rw [Producer.advanceUpload_run]
      exact Prod.ext (if_neg hdata) rfl
    exact Job.step_of_advance hgoing hoffer hadvance
  rw [← hread, hasked]
  unfold inHand?
  rw [work_of_run rfl rfl hstep]
  rfl

end Side

/-! ### Settings that have been checked -/

namespace Settings

/-- What the check says about the buffers. -/
theorem buffers_of_validate {settings : Settings} (h : settings.validate = .ok ()) :
    settings.transfer.chunkSize ≠ 0 ∧ settings.transfer.chunkSize ≤ Header.maxPayload ∧
      settings.transfer.readBuffer ≠ 0 ∧ settings.transfer.writeBuffer ≠ 0 := by
  have hne {n : UInt64} (h : n ≠ 0) : n.toNat ≠ 0 := fun hzero ↦ h (UInt64.toNat_inj.1 hzero)
  unfold validate at h
  dsimp only at h
  split at h
  · cases h
  split at h
  · cases h
  rename_i hsocket
  split at h
  · cases h
  rename_i hlarge
  split at h
  · cases h
  rename_i hread
  split at h
  · cases h
  rename_i hwrite
  exact ⟨hne hsocket, Nat.not_lt.1 hlarge, hne hread, hne hwrite⟩

/-- **Which pieces of a file make packets** when the settings have been checked, and the id has at
most 64 bytes.

* A piece that an initiator of an upload has in hand is no longer than the buffer for that, and it
  makes a packet if and only if the payload of its message is not too long.
* So it is with a piece that a responder of a download has in hand, if it is only asked for ranges
  by clients with the same settings; it is no longer than both of the buffers for that.
* So every piece makes a packet that comes out of a buffer which is 98 bytes shorter than a payload
  may be. No check sees to that: a file that is as long as the buffer of an upload comes to a piece
  of just that length. -/
theorem pieces_of_validate {settings : Settings} (hvalid : settings.validate = .ok ())
    {requestId : String} (hid : requestId.toUTF8.size ≤ 64) :
    (∀ side : Side, side.Reachable requestId .upload .initiator →
      side.settings = settings.transfer → ∀ message, side.inHand? = some message →
        message.command? = some .uploadDataReq →
        ∃ data, message = Producer.uploadMessage requestId data ∧ data.size ≠ 0 ∧
          data.size ≤ settings.transfer.writeBuffer ∧
          ((∃ packet, Packet.ofMessage message = .ok packet) ↔
            payloadSize uploadFrame requestId data.size ≤ Header.maxPayload) ∧
          (settings.transfer.writeBuffer + 98 ≤ Header.maxPayload →
            ∃ packet, Packet.ofMessage message = .ok packet)) ∧
    (∀ side : Side, side.Serves settings.transfer requestId →
      ∀ message, side.inHand? = some message → message.command? = some .downloadDataResp →
        ∃ data, message = Producer.downloadMessage requestId data ∧ data.size ≠ 0 ∧
          data.size ≤ min settings.transfer.chunkSize settings.transfer.readBuffer ∧
          ((∃ packet, Packet.ofMessage message = .ok packet) ↔
            payloadSize downloadFrame requestId data.size ≤ Header.maxPayload) ∧
          (min settings.transfer.chunkSize settings.transfer.readBuffer + 98 ≤ Header.maxPayload →
            ∃ packet, Packet.ofMessage message = .ok packet)) ∧
    ∀ (world : World Channel) (content : Nat),
      LocalFile.openToRead world.store.fs world.workDir settings.transfer.request.inputFile =
        .ok (.file content) →
      settings.transfer.writeBuffer ≤ (world.store.fs.bytesOf (.file content)).size →
      world.outlet.isCancelled = false →
        let side : Side :=
          ⟨settings.transfer, .ofFamily .initiator .upload requestId, world⟩
        ∃ data, data.size = settings.transfer.writeBuffer ∧
          (side.process (uploadReady requestId)).work.inHand? =
            some (Producer.uploadMessage requestId data) := by
  obtain ⟨hchunk, hlimit, hread, hwrite⟩ := buffers_of_validate hvalid
  have hwrites : max 1 settings.transfer.writeBuffer = settings.transfer.writeBuffer := by omega
  have hreads : settings.transfer.downloadLimit =
      min settings.transfer.chunkSize settings.transfer.readBuffer := by
    unfold TransferSettings.downloadLimit
    omega
  refine ⟨?_, ?_, fun world content hopen hsize hgoes ↦ ?_⟩
  · intro side hreach hsettings message hmem hcommand
    obtain ⟨job, hjob, hoffer⟩ := Option.bind_eq_some_iff.1 hmem
    have hcuts := hreach.cuts job hjob
    rw [hsettings, hwrites] at hcuts
    cases hcuts.offer message hoffer with
    | @upload data hsome hle =>
      rw [Packet.exists_ofMessage_iff, size_uploadMessage]
      refine ⟨data, rfl, hsome, hle, .rfl, fun hfits ↦ ?_⟩
      have hlong := payloadSize_le hid uploadFrame data.size
      unfold uploadFrame at hlong ⊢
      omega
    | download => cases hcommand
    | ending hlast => rcases hlast with rfl | rfl <;> cases hcommand
  · intro side hserves message hmem hcommand
    obtain ⟨job, hjob, hoffer⟩ := Option.bind_eq_some_iff.1 hmem
    have hcuts := hserves.cuts hchunk (Nat.lt_of_le_of_lt hlimit (by decide)) job hjob
    rw [hreads] at hcuts
    cases hcuts.offer message hoffer with
    | @download data hsome hle =>
      rw [Packet.exists_ofMessage_iff, size_downloadMessage]
      refine ⟨data, rfl, hsome, hle, .rfl, fun hfits ↦ ?_⟩
      have hlong := payloadSize_le hid downloadFrame data.size
      unfold downloadFrame at hlong ⊢
      omega
    | upload => cases hcommand
    | ending hlast => rcases hlast with rfl | rfl <;> cases hcommand
  · refine ⟨_, ?_, Side.first_piece hopen (by omega) hgoes requestId⟩
    rw [ByteArray.size_extract, hwrites]
    omega

/-- Settings whose buffers are as long as a payload may be. -/
def large : Settings where
  process := ⟨"", 1, "info", "", 1⟩
  buffers := ⟨10, 0x1000000, 0x1000000, 0x1000000⟩
  store := ⟨""⟩
  request := { RequestSettings.standard with inputFile := "big" }

/-- A world with one local file. -/
def worldOf (bytes : ByteArray) : World Channel where
  outlet := .empty 2
  store := .onRoot ⟨[(["big".toUTF8], .file 0)], #[⟨bytes, 0⟩], 0⟩ [] []
  hasShares := false
  workDir := []
  outcome := none

/-- **Settings that are accepted, and a file that is never sent with them:** its first piece makes
no packet. -/
theorem pieces_of_validate_large :
    large.validate = .ok () ∧ "1234".toUTF8.size ≤ 64 ∧
    let side : Side :=
      ⟨large.transfer, .ofFamily .initiator .upload "1234", worldOf Side.largeFile⟩
    let sending := (side.process (uploadReady "1234")).work
    sending.Reachable "1234" .upload .initiator ∧
    ∃ data, data.size = large.transfer.writeBuffer ∧
      sending.inHand? = some (Producer.uploadMessage "1234" data) ∧
      ¬∃ packet, Packet.ofMessage (Producer.uploadMessage "1234" data) = .ok packet := by
  -- only the size of the file matters, and it is never written out
  have hsize : Side.largeFile.size = Header.maxPayload := Array.size_replicate
  generalize Side.largeFile = bytes at hsize
  have hvalid : large.validate = .ok () := by decide +kernel
  have hid : "1234".toUTF8.size ≤ 64 := by decide +kernel
  obtain ⟨hfits, -, hreached⟩ := pieces_of_validate hvalid hid
  have hopen : LocalFile.openToRead (worldOf bytes).store.fs (worldOf bytes).workDir
      large.transfer.request.inputFile = .ok (.file 0) := by
    -- where a name leads does not depend on the bytes of any file
    have hempty : LocalFile.openToRead (worldOf ByteArray.empty).store.fs [] "big" =
        .ok (.file 0) := by decide +kernel
    have hext : (worldOf ByteArray.empty).store.fs.Extends (worldOf bytes).store.fs :=
      ⟨fun _ _ hkind ↦ hkind, fun _ _ _ hlink ↦ hlink⟩
    exact LocalFile.openToRead_mono hext hempty
  have hbuffer : large.transfer.writeBuffer = Header.maxPayload := by decide +kernel
  have hbytes : (worldOf bytes).store.fs.bytesOf (.file 0) = bytes := rfl
  obtain ⟨data, hdata, hhand⟩ := hreached (worldOf bytes) 0 hopen
    (by rw [hbuffer, hbytes, hsize]) rfl
  refine ⟨hvalid, hid, ?_⟩
  intro side sending
  have hstart : side.Reachable "1234" .upload .initiator := .fresh large.transfer (worldOf bytes)
  have hready : (side.process (uploadReady "1234")).Reachable "1234" .upload .initiator :=
    hstart.live (.meets (.message (uploadReady "1234")))
  have hreach : sending.Reachable "1234" .upload .initiator := hready.live .work
  have hsettings : sending.settings = large.transfer :=
    (Side.settings_live (side.process (uploadReady "1234")) .work).trans
      (Side.settings_live side (.meets (.message (uploadReady "1234"))))
  have hlong : ¬payloadSize uploadFrame "1234" data.size ≤ Header.maxPayload := by
    rw [hdata, hbuffer]
    unfold payloadSize uploadFrame
    omega
  refine ⟨hreach, data, hdata, hhand, fun hpacket ↦ hlong ?_⟩
  obtain ⟨data', hsame, -, -, hiff, -⟩ :=
    hfits sending hreach hsettings _ hhand (Message.command?_of ..)
  have hequal : payloadSize uploadFrame "1234" data.size =
      payloadSize uploadFrame "1234" data'.size := by
    rw [← size_uploadMessage, ← size_uploadMessage, hsame]
  rw [hequal]
  exact hiff.1 hpacket

end Settings

end FileShare
