import FileShare.Proofs.Jobs
import FileShare.Proofs.Stream
import FileShare.Proofs.WorldCalls
import Mathlib.Tactic.NthRewrite

/-!
# The job that serves a range of a file

The responder of a download reads a range of an open file in pieces, cuts what it has read into
messages, and offers them one after the other. Reads may be short, and a piece that has been read is
cut by the chunk size. `Serves` is what the job has in hand by the number of bytes of the range that
it has queued: bytes that have been read and not been sent, and perhaps a message.

As long as the job goes on, the open file stands where the next read is due (`Store.Reads`). A step
queues what follows on what has been queued (`Emits`), or the job ends, perhaps with a failure that
is told (`Job.step_served`).

A read of nothing is taken for the end of the file. It is, unless a fault hides bytes that are
there; so the faults that are allowed here are those that let a read come to something or to an
error (`Fault.Fruitful`).
-/

namespace FileShare

/-! ### An open file -/

/-- Nothing on the share has changed, and the faults have stayed fruitful. -/
structure Store.Keeps (store store' : Store) : Prop where
  fs : store'.fs = store.fs
  root : store'.root = store.root
  fruitful : Fault.Fruitful store.faults → Fault.Fruitful store'.faults

theorem Store.Keeps.refl (store : Store) : store.Keeps store :=
  ⟨rfl, rfl, id⟩

theorem Store.Keeps.trans {store store' store'' : Store} (h : store.Keeps store')
    (h' : store'.Keeps store'') : store.Keeps store'' :=
  ⟨h'.fs.trans h.fs, h'.root.trans h.root, h'.fruitful ∘ h.fruitful⟩

/-- A call that changes nothing on a share keeps it as it is. -/
theorem Store.Records.keeps {store store' : Store} (h : store.Records store')
    (hfruitful : Fault.Fruitful store.faults → Fault.Fruitful store'.faults) :
    store.Keeps store' :=
  ⟨h.fs, h.root, hfruitful⟩

/-- A file that has been opened is the last one. -/
theorem Share.fileOf_push {store store' : Store} {openFile : OpenFile}
    (hfiles : store'.files = store.files.push openFile) :
    Share.fileOf store' ⟨store.files.size⟩ = openFile := by
  unfold Share.fileOf
  rw [hfiles]
  simp

/-- A file is open for reading, and the next read begins at a position of its content. -/
structure Store.Reads (store : Store) (file : FileId) (content position : Nat) : Prop where
  inRange : file.index < store.files.size
  mode : (Share.fileOf store file).mode = .read
  content : (Share.fileOf store file).content = content
  position : (Share.fileOf store file).position = position

namespace Store.Reads

variable {store store' : Store} {file : FileId} {content position : Nat}

theorem congr (h : store.Reads file content position) (hfiles : store'.files = store.files) :
    store'.Reads file content position := by
  have hfile : Share.fileOf store' file = Share.fileOf store file := by
    unfold Share.fileOf
    rw [hfiles]
  exact ⟨hfiles ▸ h.inRange, hfile ▸ h.mode, hfile ▸ h.content, hfile ▸ h.position⟩

/-- The position of an open file moves. -/
theorem move {position' : Nat} (h : store.Reads file content position)
    (hfiles : store'.files = store.files.set! file.index
      { Share.fileOf store file with position := position' }) :
    store'.Reads file content position' := by
  have hfile := Share.fileOf_of_set h.inRange hfiles
  exact ⟨by rw [hfiles]; simpa using h.inRange, hfile ▸ h.mode, hfile ▸ h.content, by rw [hfile]⟩

/-- A file that has been opened for reading stands at its beginning. -/
theorem ofOpen {openFile : OpenFile} (hfiles : store'.files = store.files.push openFile)
    (hmode : openFile.mode = .read) (hposition : openFile.position = 0) :
    store'.Reads ⟨store.files.size⟩ openFile.content 0 := by
  have hfile := Share.fileOf_push hfiles
  exact ⟨by rw [hfiles]; simp, hfile ▸ hmode, hfile ▸ rfl, hfile ▸ hposition⟩

/-- **A read gives the bytes at the position, and moves on**, or fails and changes nothing. -/
theorem read {size : Nat} {result : Except ShareError ByteArray}
    (h : store.Reads file content position)
    (hrun : (Share.read file size).run.run store = (result, store')) :
    store.Keeps store' ∧
      ((∃ error, result = .error error) ∨
        ∃ count ≤ size, (Fault.Fruitful store.faults → size ≠ 0 → count ≠ 0) ∧
          let data := (store.fs.bytesOf (.file content)).extract position (position + count)
          result = .ok data ∧ store'.Reads file content (position + data.size)) := by
  rcases Share.read_cases h.mode hrun with ⟨hfailed, hrecords⟩ |
    ⟨count, hle, hfruitful, rfl, hrecords⟩
  · exact ⟨⟨hrecords.fs, hrecords.root, Share.fruitful_read hrun⟩, .inl hfailed⟩
  · refine ⟨⟨hrecords.fs, hrecords.root, Share.fruitful_read hrun⟩,
      .inr ⟨count, hle, hfruitful, ?_, ?_⟩⟩
    · rw [h.content, h.position, FileSystem.read_eq_extract]
    · refine h.move ?_
      rw [← FileSystem.read_eq_extract, ← h.content, ← h.position]
      exact hrecords.files

/-- **To seek moves on to another position**, or fails. -/
theorem seek {target : UInt64} {result : Except ShareError Nat}
    (h : store.Reads file content position)
    (hrun : (Share.seek file target).run.run store = (result, store')) :
    store.Keeps store' ∧
      ((∃ error, result = .error error) ∨ store'.Reads file content target.toNat) := by
  have hfruitful := Share.fruitful_seek hrun
  rcases Share.seek_cases hrun with ⟨hfailed, hrecords⟩ | hmoved
  · exact ⟨hrecords.keeps hfruitful, .inl hfailed⟩
  · exact ⟨⟨hmoved.fs, hmoved.root, hfruitful⟩, .inr (h.move hmoved.files)⟩

end Store.Reads

/-! ### What the job has in hand -/

/-- The message that ends a download. -/
def downloadEnd (requestId : String) : Message :=
  .bare requestId .downloadEndResp

/-- The messages that carry a download. -/
def downloadCarrier (requestId : String) : Carrier :=
  ⟨Producer.downloadMessage requestId, downloadEnd requestId⟩

/-- The responder cannot go on. -/
def downloadFailed (requestId : String) (status : Status) : Message :=
  .of requestId .downloadError (.status status)

/-- **A range of an open file that is served**: from a first to a last byte, with both ends. -/
structure ServedRange where
  requestId : String
  file : FileId
  /-- The number of the content of the file. -/
  content : Nat
  first : Nat
  last : Nat
  chunkSize : Nat
  readSize : Nat

/-- The bytes of a range. -/
def ServedRange.bytes (range : ServedRange) (fs : FileSystem) : ByteArray :=
  (fs.bytesOf (.file range.content)).extract range.first (range.last + 1)

/-- A range lies in its file, and is read in pieces that are not empty. -/
structure ServedRange.IsWithin (range : ServedRange) (fs : FileSystem) : Prop where
  first_le : range.first ≤ range.last
  last_lt : range.last < (fs.bytesOf (.file range.content)).size
  readSize_ne : range.readSize ≠ 0

theorem ServedRange.IsWithin.size_bytes {range : ServedRange} {fs : FileSystem}
    (h : range.IsWithin fs) : (range.bytes fs).size = range.last + 1 - range.first := by
  have := h.last_lt
  unfold bytes
  rw [ByteArray.size_extract]
  omega

/-- **A read in a range gives the bytes that follow**, or fails. With fruitful faults it gives at
least one. -/
theorem ServedRange.IsWithin.read {range : ServedRange} {store store' : Store} {count : Nat}
    {result : Except ShareError ByteArray} (h : range.IsWithin store.fs)
    (hat : store.Reads range.file range.content (range.first + count))
    (hleft : range.first + count ≤ range.last)
    (hrun : (Share.read range.file (min (range.last - (range.first + count) + 1)
      range.readSize)).run.run store = (result, store')) :
    store.Keeps store' ∧ ((∃ error, result = .error error) ∨
      ∃ data, result = .ok data ∧ (Fault.Fruitful store.faults → data.size ≠ 0) ∧
        data = (range.bytes store.fs).extract count (count + data.size) ∧
        count + data.size ≤ (range.bytes store.fs).size ∧
        store'.Reads range.file range.content (range.first + (count + data.size))) := by
  obtain ⟨hkeeps, hfailed | ⟨amount, hamount, hsome, rfl, hmoved⟩⟩ := hat.read hrun
  · exact ⟨hkeeps, .inl hfailed⟩
  obtain ⟨data, hdata⟩ : ∃ data, data = (store.fs.bytesOf (.file range.content)).extract
    (range.first + count) (range.first + count + amount) := ⟨_, rfl⟩
  have hread := h.readSize_ne
  have hlast := h.last_lt
  have hsize := h.size_bytes
  have hdataSize : data.size = amount := by
    rw [hdata, ByteArray.size_extract]
    omega
  -- something is left of the range, so a read that is asked for something gives something
  have hne : Fault.Fruitful store.faults → data.size ≠ 0 := fun hfruitful ↦ by
    have := hsome hfruitful (by omega)
    omega
  rw [← hdata, Nat.add_assoc] at hmoved
  refine ⟨hkeeps, .inr ⟨data, congrArg Except.ok hdata.symm, hne, ?_, by omega, hmoved⟩⟩
  rw [hdataSize, hdata, ServedRange.bytes, ByteArray.extract_extract]
  congr 1
  omega

/-- What a job reads from when it has come to a position of the range. -/
def ServedRange.source (range : ServedRange) (count : Nat) (pending : ByteArray) : RangeSource :=
  ⟨range.file, range.first + count, range.last, range.chunkSize, range.readSize, pending⟩

/-- **What a job that serves a range has in hand** when so many bytes of the range have been queued,
and perhaps the end message. The bytes are those of the range. -/
inductive Serves (range : ServedRange) (bytes : ByteArray) :
    Option Message → Producer → Nat → Bool → Prop where
  | reading {count : Nat} {pending : ByteArray}
      (hpending : pending = bytes.extract count (count + pending.size))
      (hle : count + pending.size ≤ bytes.size) :
      Serves range bytes none (.range (range.source (count + pending.size) pending)) count false
  | piece {count : Nat} {data pending : ByteArray}
      (hdata : data = bytes.extract count (count + data.size))
      (hpending : pending =
        bytes.extract (count + data.size) (count + data.size + pending.size))
      (hle : count + data.size + pending.size ≤ bytes.size) :
      Serves range bytes (some (Producer.downloadMessage range.requestId data))
        (.range (range.source (count + data.size + pending.size) pending)) count false
  | ending : Serves range bytes (some (downloadEnd range.requestId)) .finished bytes.size false
  | finished : Serves range bytes none .finished bytes.size true

/-- The file of a job stands where its next read begins. -/
def Producer.IsAt (producer : Producer) (store : Store) (content : Nat) : Prop :=
  ∀ source, producer = .range source → store.Reads source.file content source.position

/-- What sending on in a range comes to. -/
theorem Producer.advanceRange_run {ω : Type} (requestId : String) (cancelled : Bool)
    (source : RangeSource) (world : World ω) :
    (advanceRange requestId cancelled source).run world =
      if source.pending.size ≠ 0 then
        (.message (downloadMessage requestId (source.pending.extract 0 source.chunkSize))
          (.range { source with
            pending := source.pending.extract source.chunkSize source.pending.size }), world)
      else if source.last < source.position then
        (.message (downloadEnd requestId) .finished, world)
      else if cancelled then (.stop, world)
      else
        let wanted := min (source.last - source.position + 1) source.readSize
        let (result, store) := (Share.read source.file wanted).run.run world.store
        (match result with
          | .error error => .failure (.share error)
          | .ok data =>
            if data.size = 0 then .message (downloadEnd requestId) .finished
            else .quiet (.range { source with
              position := source.position + data.size
              pending := data }), { world with store }) := by
  unfold advanceRange
  by_cases hpending : source.pending.size ≠ 0
  · rw [if_pos hpending, if_pos hpending]
    rfl
  rw [if_neg hpending, if_neg hpending]
  by_cases hlast : source.last < source.position
  · rw [if_pos hlast, if_pos hlast]
    rfl
  rw [if_neg hlast, if_neg hlast]
  cases cancelled with
  | true => rfl
  | false =>
    simp only [Bool.false_eq_true, if_false]
    rw [StateT.run_bind, World.share_run]
    rcases (Share.read source.file (min (source.last - source.position + 1)
      source.readSize)).run.run world.store with ⟨_ | data, store⟩
    · rfl
    · show StateT.run (if data.size = 0 then _ else _) { world with store } = _
      by_cases hsize : data.size = 0
      · simp only [hsize, if_true]
        rfl
      · simp only [hsize, if_false]
        rfl

/-- A job that has been told to stop reads nothing more. -/
theorem Producer.advanceRange_cancelled {ω : Type} (requestId : String) (source : RangeSource)
    (world : World ω) : ∃ product,
      (advanceRange requestId true source).run world = (product, world) ∧
        ∀ error, product ≠ .failure error := by
  rw [advanceRange_run]
  split
  · exact ⟨_, rfl, nofun⟩
  · split
    · exact ⟨_, rfl, nofun⟩
    · exact ⟨_, rfl, nofun⟩

/-! ### A step of the job -/

/-- Of a piece of some bytes, the front is a piece, and so is the rest. -/
theorem cut_extract {bytes pending : ByteArray} {count : Nat} (limit : Nat)
    (hpending : pending = bytes.extract count (count + pending.size)) :
    let data := pending.extract 0 limit
    let rest := pending.extract limit pending.size
    data.size + rest.size = pending.size ∧ data = bytes.extract count (count + data.size) ∧
      rest = bytes.extract (count + data.size) (count + data.size + rest.size) := by
  intro data rest
  have hdata : data.size = min limit pending.size := by simp [data]
  have hrest : rest.size = pending.size - limit := by simp [rest]
  refine ⟨by omega, ?_, ?_⟩
  · show pending.extract 0 limit = _
    nth_rewrite 1 [hpending]
    rw [ByteArray.extract_extract, hdata]
    congr 1
    omega
  · rcases Nat.le_total limit pending.size with hle | hle
    · show pending.extract limit pending.size = _
      nth_rewrite 1 [hpending]
      rw [ByteArray.extract_extract, hdata, hrest]
      congr 1 <;> omega
    · -- nothing is left
      have hzero : rest.size = 0 := by omega
      rw [ByteArray.size_eq_zero_iff.1 hzero]
      exact (ByteArray.extract_eq_empty_iff.2 (Nat.min_le_left _ _)).symm

namespace Job

variable {range : ServedRange} {bytes : ByteArray} {job job' : Job} {count : Nat} {done : Bool}
variable {world world' : World Channel} {status : JobStatus}

/-- A job of a download: a failure of it is told to the initiator. -/
structure IsDownload (job : Job) (requestId : String) : Prop where
  role : job.role = .responder
  family : job.family = .download
  requestId : job.requestId = requestId

/-- **What a job that serves a range is at**: it has ended, or it has something in hand and its file
stands where the next read begins. -/
def ServesOn (job : Job) (range : ServedRange) (bytes : ByteArray) (store : Store) (count : Nat)
    (done : Bool) : Prop :=
  job.isEnded = true ∨
    Serves range bytes job.offer job.producer count done ∧ job.producer.IsAt store range.content

/-- What one step of a job that serves a range comes to: it goes on, or it ends with a failure that
is told. -/
structure Served (range : ServedRange) (bytes : ByteArray) (job' : Job)
    (world world' : World Channel) (count : Nat) (done : Bool) : Prop where
  isDownload : job'.IsDownload range.requestId
  keeps : world.store.Keeps world'.store
  cases : (∃ count' done' messages,
      Emits (downloadCarrier range.requestId) True bytes count done count' done' messages ∧
      world'.outlet.underway = world.outlet.underway ++ messages ∧
      job'.ServesOn range bytes world'.store count'
        done') ∨
    job'.isEnded = true ∧ done = false ∧ ∃ status,
      world'.outlet.underway = world.outlet.underway ++ [downloadFailed range.requestId status]

/-- A step that queues nothing. -/
theorem Served.idle (hjob : job'.IsDownload range.requestId)
    (hkeeps : world.store.Keeps world'.store) (houtlet : world'.outlet = world.outlet)
    (hserves : job'.ServesOn range bytes world'.store count done) :
    Served range bytes job' world world' count done :=
  ⟨hjob, hkeeps, .inl ⟨count, done, [], .nothing _ _, by simp [houtlet], hserves⟩⟩

/-- An offer of what is in hand. -/
theorem Served.offer {message : Message} {count' : Nat} {done' : Bool}
    (hjob : job.IsDownload range.requestId)
    (hserves : job.ServesOn range bytes world.store count done)
    (hemits : Emits (downloadCarrier range.requestId) True bytes count done count' done' [message])
    (hnext : Serves range bytes none job.producer count' done')
    (hat : job.producer.IsAt world.store range.content)
    (hrun : (job.offerOnce message).run world = ((status, job'), world')) :
    Served range bytes job' world world' count done := by
  have hended : job.ended.IsDownload range.requestId :=
    ⟨hjob.role, hjob.family, hjob.requestId⟩
  -- the job goes on unless it was told to stop or the session has failed; only in the second case
  -- is it open whether the message has been queued
  rcases offerOnce_cases hrun with ⟨rfl, rfl | rfl⟩ | ⟨hchannel, hsent, rfl⟩ |
    ⟨cause, mid, hchannel, hsent, rfl, rfl⟩
  · exact .idle hjob (.refl _) rfl hserves
  · exact .idle hended (.refl _) rfl (.inl rfl)
  · refine ⟨⟨hjob.role, hjob.family, hjob.requestId⟩, hchannel.store ▸ .refl _,
      .inl ⟨count', done', [message], hemits, hsent, .inr ⟨hnext, ?_⟩⟩⟩
    rw [hchannel.store]
    exact hat
  · -- a failure of the session is told to nobody
    rw [hjob.role]
    change Served range bytes job.ended world mid count done
    refine ⟨hended, hchannel.store ▸ .refl _, .inl ?_⟩
    rcases hsent with hsent | hsent
    · exact ⟨_, _, _, .nothing _ _, hsent.trans (List.append_nil _).symm, .inl rfl⟩
    · exact ⟨_, _, _, hemits, hsent, .inl rfl⟩

/-- A call that fails is told, and the job ends. -/
theorem Served.fail {mid : World Channel} {error : ExchangeError}
    (hjob : job.IsDownload range.requestId) (hkeeps : world.store.Keeps mid.store)
    (houtlet : mid.outlet = world.outlet)
    (hrun : (job.failWith error).run mid = ((status, job'), world')) :
    Served range bytes job' world world' count false := by
  rw [failWith_run, hjob.role, hjob.family, hjob.requestId] at hrun
  obtain ⟨-, rfl, hworld⟩ := run_inj hrun
  have hfail : (World.fail .responder .download range.requestId error).run mid = ((), world') :=
    Prod.ext rfl hworld
  obtain ⟨hchannel, htold⟩ := World.fail_responder_cases hfail
  rw [houtlet] at htold
  refine ⟨⟨hjob.role, hjob.family, hjob.requestId⟩, hchannel.store ▸ hkeeps, ?_⟩
  rcases htold with hsame | ⟨status, htold⟩
  · exact .inl ⟨_, _, _, .nothing _ _, hsame.trans (List.append_nil _).symm, .inl rfl⟩
  · exact .inr ⟨rfl, rfl, status, htold⟩

/-- **The front of what has been read is the next message**, and the rest is kept. -/
theorem Serves.cut {pending : ByteArray}
    (hpending : pending = bytes.extract count (count + pending.size))
    (hle : count + pending.size ≤ bytes.size) :
    Serves range bytes
      (some (Producer.downloadMessage range.requestId (pending.extract 0 range.chunkSize)))
      (.range (range.source (count + pending.size)
        (pending.extract range.chunkSize pending.size))) count false := by
  obtain ⟨hsum, hdata, hrest⟩ := cut_extract range.chunkSize hpending
  have hposition : count + pending.size = count + (pending.extract 0 range.chunkSize).size +
      (pending.extract range.chunkSize pending.size).size := by omega
  -- the position of the file does not move while what has been read is cut
  rw [hposition]
  exact .piece hdata hrest (by omega)

/-- **A read comes to nothing although the range goes on**, and the job takes that for the end of
the file. Only a fault that is not fruitful does that. -/
structure Dries (range : ServedRange) (bytes : ByteArray) (job' : Job)
    (world world' : World Channel) (count : Nat) : Prop where
  isDownload : job'.IsDownload range.requestId
  keeps : world.store.Keeps world'.store
  outlet : world'.outlet = world.outlet
  unfruitful : ¬Fault.Fruitful world.store.faults
  le : count ≤ bytes.size
  offer : job'.offer = some (downloadEnd range.requestId)
  producer : job'.producer = .finished

/-- **What has been read is cut into a message, or more is read.** -/
theorem produce_served {pending : ByteArray} (hjob : job.IsDownload range.requestId)
    (hbytes : bytes = range.bytes world.store.fs) (hwithin : range.IsWithin world.store.fs)
    (hoffer : job.offer = none)
    (hproducer : job.producer = .range (range.source (count + pending.size) pending))
    (hpending : pending = bytes.extract count (count + pending.size))
    (hle : count + pending.size ≤ bytes.size)
    (hat : world.store.Reads range.file range.content (range.first + (count + pending.size)))
    (hrun : job.produce.run world = ((status, job'), world')) :
    Served range bytes job' world world' count false ∨
      Dries range bytes job' world world' count := by
  have hsize := hwithin.size_bytes
  rw [← hbytes] at hsize
  have hfirst := hwithin.first_le
  have hdownload : ∀ producer offer,
      ({ job with requestId := range.requestId, producer, offer } : Job).IsDownload
        range.requestId := fun _ _ ↦ ⟨hjob.role, hjob.family, rfl⟩
  rw [produce_run, hproducer, hjob.requestId] at hrun
  unfold Producer.advance ServedRange.source at hrun
  dsimp only at hrun
  rw [Producer.advanceRange_run] at hrun
  dsimp only at hrun
  by_cases hnone : pending.size ≠ 0
  · -- the next message is the front of what has been read
    rw [if_pos hnone] at hrun
    obtain ⟨-, rfl, rfl⟩ := run_inj hrun
    refine .inl (.idle (hdownload _ _) (.refl _) rfl (.inr ⟨Serves.cut hpending hle, ?_⟩))
    rintro source ⟨⟩
    exact hat
  -- nothing is pending: the range has come to its end, or it is time to read
  rw [if_neg hnone] at hrun
  have hzero : pending.size = 0 := by omega
  rw [hzero, Nat.add_zero] at hat hle
  by_cases hover : range.last < range.first + (count + pending.size)
  · -- all of the range has been queued
    rw [if_pos hover] at hrun
    obtain ⟨-, rfl, rfl⟩ := run_inj hrun
    obtain rfl : count = bytes.size := by omega
    exact .inl (.idle (hdownload _ _) (.refl _) rfl (.inr ⟨.ending, nofun⟩))
  rw [if_neg hover] at hrun
  cases hcancelled : Outlet.isCancelled world.outlet with
  | true =>
    rw [hcancelled] at hrun
    obtain ⟨-, rfl, rfl⟩ := run_inj hrun
    exact .inl (.idle ⟨hjob.role, hjob.family, hjob.requestId⟩ (.refl _) rfl (.inl rfl))
  | false =>
    rw [hcancelled] at hrun
    simp only [Bool.false_eq_true, if_false, hzero, Nat.add_zero] at hrun
    rcases hcall : (Share.read range.file (min (range.last - (range.first + count) + 1)
      range.readSize)).run.run world.store with ⟨result, store⟩
    rw [hcall] at hrun
    obtain ⟨hkeeps, ⟨error, rfl⟩ | ⟨data, rfl, hne, hdata, hwhole, hmoved⟩⟩ :=
      hwithin.read hat (by omega) hcall
    · change (job.failWith (.share error)).run { world with store } = _ at hrun
      refine .inl (Served.fail hjob ?_ ?_ hrun)
      · exact hkeeps
      · rfl
    · rw [← hbytes] at hdata hwhole
      dsimp only at hrun
      by_cases hempty : data.size = 0
      · rw [if_pos hempty] at hrun
        obtain ⟨-, rfl, rfl⟩ := run_inj hrun
        exact .inr ⟨hdownload _ _, hkeeps, rfl, fun hfruitful ↦ hne hfruitful hempty, hle, rfl, rfl⟩
      rw [if_neg hempty] at hrun
      obtain ⟨-, rfl, rfl⟩ := run_inj hrun
      refine .inl (.idle (hdownload _ _) hkeeps rfl (.inr ⟨?_, ?_⟩))
      · dsimp only
        rw [hoffer, Nat.add_assoc]
        exact .reading hdata hwhole
      · rintro source ⟨⟩
        rw [Nat.add_assoc]
        exact hmoved

/-- **A job that has come to the end message** has nothing to do but to offer it. -/
theorem step_served_of_finished (hjob : job.IsDownload range.requestId)
    (hfinished : job.producer = .finished)
    (hserves : job.ServesOn range bytes world.store count done)
    (hrun : job.step.run world = ((status, job'), world')) :
    Served range bytes job' world world' count done ∧ job'.producer = .finished := by
  rw [step_run] at hrun
  split at hrun
  · rename_i hended
    obtain ⟨-, rfl, rfl⟩ := run_inj hrun
    exact ⟨.idle hjob (.refl _) rfl hserves, hfinished⟩
  rename_i hgoes
  obtain ⟨hhand, hat⟩ := hserves.resolve_left hgoes
  obtain ⟨role, family, requestId, producer, offer, sent, isEnded⟩ := job
  obtain rfl : producer = .finished := hfinished
  dsimp only at hhand hat hrun
  cases hhand with
  | ending =>
    exact ⟨.offer hjob hserves (.ending trivial) .finished hat hrun, producer_of_offerOnce hrun⟩
  | finished =>
    -- all has been queued, and nothing more comes
    rw [produce_run] at hrun
    obtain ⟨-, rfl, rfl⟩ := run_inj hrun
    exact ⟨.idle ⟨hjob.role, hjob.family, hjob.requestId⟩ (.refl _) rfl (.inl rfl), rfl⟩

/-- **One step of a job that serves a range**, whatever the faults. -/
theorem step_served_or_dries (hjob : job.IsDownload range.requestId)
    (hbytes : bytes = range.bytes world.store.fs) (hwithin : range.IsWithin world.store.fs)
    (hserves : job.ServesOn range bytes world.store count done)
    (hrun : job.step.run world = ((status, job'), world')) :
    Served range bytes job' world world' count done ∨
      done = false ∧ Dries range bytes job' world world' count := by
  by_cases hfinished : job.producer = .finished
  · exact .inl (step_served_of_finished hjob hfinished hserves hrun).1
  rw [step_run] at hrun
  split at hrun
  · rename_i hended
    obtain ⟨-, rfl, rfl⟩ := run_inj hrun
    exact .inl (.idle hjob (.refl _) rfl hserves)
  rename_i hgoes
  obtain ⟨hhand, hat⟩ := hserves.resolve_left hgoes
  obtain ⟨role, family, requestId, producer, offer, sent, isEnded⟩ := job
  dsimp only at hhand hat hrun hfinished
  -- the cases are what the job has in hand
  cases hhand with
  | reading hpending hle =>
    exact (produce_served hjob hbytes hwithin rfl rfl hpending hle (hat _ rfl) hrun).imp_right
      fun hdries ↦ ⟨rfl, hdries⟩
  | piece hdata hpending hle =>
    refine .inl (.offer hjob hserves (.piece hdata (by omega)) ?_ hat hrun)
    dsimp only
    exact .reading hpending hle
  | ending => exact absurd rfl hfinished
  | finished => exact absurd rfl hfinished

/-- **One step of a job that serves a range**, if the faults are fruitful. -/
theorem step_served (hjob : job.IsDownload range.requestId)
    (hbytes : bytes = range.bytes world.store.fs) (hwithin : range.IsWithin world.store.fs)
    (hfruitful : Fault.Fruitful world.store.faults)
    (hserves : job.ServesOn range bytes world.store count done)
    (hrun : job.step.run world = ((status, job'), world')) :
    Served range bytes job' world world' count done :=
  (step_served_or_dries hjob hbytes hwithin hserves hrun).resolve_right
    fun hdries ↦ hdries.2.unfruitful hfruitful

/-- To stop a job that sends a range changes nothing: nothing more is read. -/
theorem stop_run_of_range
    (h : job.isEnded = false →
      (∃ source, job.producer = .range source) ∨ job.producer = .finished) :
    job.stop.run world = ((), world) := by
  rw [stop_run]
  split
  · rename_i hidle
    obtain ⟨hgoing, -⟩ := Bool.and_eq_true_iff.1 hidle
    rcases h (by simpa using hgoing) with ⟨source, hproducer⟩ | hproducer
    · obtain ⟨product, hadvance, hfailure⟩ :=
        Producer.advanceRange_cancelled job.requestId source world
      rw [hproducer]
      dsimp only [Producer.advance]
      rw [hadvance]
      cases product with
      | failure error => exact absurd rfl (hfailure error)
      | _ => rfl
    · rw [hproducer]
      rfl
  · rfl

/-- A job that serves a range has nothing to do when it is stopped. -/
theorem stop_run_of_serves (hserves : job.ServesOn range bytes world.store count done) :
    job.stop.run world = ((), world) := by
  refine stop_run_of_range fun hgoing ↦ ?_
  rcases hserves with hended | ⟨hhand, -⟩
  · rw [hended] at hgoing
    cases hgoing
  · obtain ⟨role, family, requestId, producer, offer, sent, isEnded⟩ := job
    cases hhand with
    | finished => exact .inr rfl
    | ending => exact .inr rfl
    | _ => exact .inl ⟨_, rfl⟩

end Job

end FileShare
