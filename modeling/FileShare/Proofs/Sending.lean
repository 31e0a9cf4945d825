import FileShare.Proofs.FileChanges
import FileShare.Proofs.Jobs
import FileShare.Proofs.Stream

/-!
# The job that sends a local file

The initiator of an upload reads its local file in pieces out of a background job, and offers each
piece until there is room for it. `Feeds` is what such a job has in hand at any moment, by the
number of bytes that it has queued: nothing, a piece that begins there, or the end message when that
was all. A step queues what follows on that (`Emits`), or ends the job (`Job.step_fed`).

What was sent is counted in the job as well. As long as the job has not failed, the count is the
number of bytes that have been queued (`Job.Counts`). A message that was queued although the session
reported a failure is the last one, and it is not counted; but then the failure is the outcome.
-/

namespace FileShare

/-! ### What a job has in hand -/

/-- The message that ends an upload. -/
def uploadEnd (requestId : String) : Message :=
  .bare requestId .uploadEndReq

/-- The messages that carry an upload. -/
def uploadCarrier (requestId : String) : Carrier :=
  ⟨Producer.uploadMessage requestId, uploadEnd requestId⟩

/-- **What a job that sends a file has in hand** when so many bytes of the file have been queued,
and perhaps the end message. -/
inductive Feeds (requestId : String) (opened : FileSystem.Opened) (bytes : ByteArray)
    (readSize : Nat) : Option Message → Producer → Nat → Bool → Prop where
  | reading {count : Nat} (hle : count ≤ bytes.size) :
      Feeds requestId opened bytes readSize none (.upload ⟨opened, count, readSize⟩) count false
  | piece {count : Nat} {data : ByteArray}
      (hdata : data = bytes.extract count (count + data.size))
      (hle : count + data.size ≤ bytes.size) :
      Feeds requestId opened bytes readSize (some (Producer.uploadMessage requestId data))
        (.upload ⟨opened, count + data.size, readSize⟩) count false
  | ending (hfile : opened ≠ .directory) :
      Feeds requestId opened bytes readSize (some (uploadEnd requestId)) .finished bytes.size false
  | finished (hfile : opened ≠ .directory) :
      Feeds requestId opened bytes readSize none .finished bytes.size true

/-- What reading on in a local file comes to. -/
theorem Producer.advanceUpload_run {ω : Type} (requestId : String) (cancelled : Bool)
    (source : FileSource) (world : World ω) :
    (advanceUpload requestId cancelled source).run world =
      (if cancelled then .stop
      else match source.file with
        | .directory => .failure (.io (.ofErrno .isDirectory))
        | .file id =>
          let data := world.store.fs.read id source.position source.readSize
          if data.size = 0 then .message (uploadEnd requestId) .finished
          else .message (uploadMessage requestId data)
            (.upload { source with position := source.position + data.size }), world) := by
  obtain ⟨opened, position, readSize⟩ := source
  unfold advanceUpload
  cases cancelled with
  | true => rfl
  | false =>
    cases opened with
    | directory => rfl
    | file id =>
      show StateT.run (if (world.store.fs.read id position readSize).size = 0 then _ else _)
        world = _
      simp only [Bool.false_eq_true, if_false]
      split <;> rfl

namespace Job

variable {requestId : String} {opened : FileSystem.Opened} {bytes : ByteArray} {readSize : Nat}
variable {job job' : Job} {count : Nat} {done : Bool} {world world' : World Channel}
variable {status : JobStatus}

/-- A job of an upload: a failure of it is the outcome of its initiator. -/
structure IsUpload (job : Job) (requestId : String) : Prop where
  role : job.role = .initiator
  family : job.family = .upload
  requestId : job.requestId = requestId

/-- To stop a job of an upload changes nothing. -/
theorem stop_run_of_feeds (h : job.isEnded = true ∨
    Feeds requestId opened bytes readSize job.offer job.producer count done) :
    job.stop.run world = ((), world) := by
  obtain ⟨role, family, requestId', producer, offer, sent, isEnded⟩ := job
  rw [stop_run]
  rcases h with hended | hfeeds
  · obtain rfl : isEnded = true := hended
    rfl
  · cases isEnded with
    | true => rfl
    | false =>
      dsimp only at hfeeds
      cases hfeeds <;> rfl

/-- How the outcome and the count of a job stand after a step: it has counted what was queued, or it
has failed. -/
def Counts (job job' : Job) (world world' : World Channel) (count count' : Nat) : Prop :=
  (world'.outcome = world.outcome ∧
      (job.sent = UInt64.ofNat count → job'.sent = UInt64.ofNat count')) ∨
    ∃ error, world'.outcome = world.outcome.or (some (.ofError error))

/-- What one step of a job that sends a file comes to. -/
structure Fed (requestId : String) (opened : FileSystem.Opened) (bytes : ByteArray)
    (readSize : Nat) (job job' : Job) (world world' : World Channel) (count : Nat) (done : Bool)
    (count' : Nat) (done' : Bool) (messages : List Message) : Prop where
  isUpload : job'.IsUpload requestId
  store : world'.store = world.store
  workDir : world'.workDir = world.workDir
  emits : Emits (uploadCarrier requestId) (opened ≠ .directory) bytes count done count' done'
    messages
  underway : world'.outlet.underway = world.outlet.underway ++ messages
  feeds : job'.isEnded = true ∨
    Feeds requestId opened bytes readSize job'.offer job'.producer count' done'
  counts : Counts job job' world world' count count'

/-- A step of which nothing comes but, perhaps, the end of the job. -/
theorem Fed.idle (hjob : job.IsUpload requestId)
    (hfeeds : job.isEnded = true ∨
      Feeds requestId opened bytes readSize job.offer job.producer count done)
    (hsame : job' = job ∨ job' = job.ended) :
    Fed requestId opened bytes readSize job job' world world count done count done [] := by
  rcases hsame with rfl | rfl
  · exact ⟨hjob, rfl, rfl, .nothing _ _, (List.append_nil _).symm, hfeeds, .inl ⟨rfl, id⟩⟩
  · exact ⟨⟨hjob.role, hjob.family, hjob.requestId⟩, rfl, rfl, .nothing _ _,
      (List.append_nil _).symm, .inl rfl, .inl ⟨rfl, id⟩⟩

/-- An offer of what is in hand. -/
theorem Fed.offer {message : Message} {count' : Nat} {done' : Bool} (hjob : job.IsUpload requestId)
    (hfeeds : Feeds requestId opened bytes readSize job.offer job.producer count done)
    (hemits : Emits (uploadCarrier requestId) (opened ≠ .directory) bytes count done count' done'
      [message])
    (hnext : Feeds requestId opened bytes readSize none job.producer count' done')
    (hcount : UInt64.ofNat count' = UInt64.ofNat count + UInt64.ofNat (uploadedBytes message))
    (hrun : (job.offerOnce message).run world = ((status, job'), world')) :
    ∃ count' done' messages, Fed requestId opened bytes readSize job job' world world' count done
      count' done' messages := by
  rcases offerOnce_cases hrun with ⟨rfl, hsame⟩ | ⟨hchannel, hsent, rfl⟩ |
    ⟨cause, mid, hchannel, hsent, rfl, rfl⟩
  · exact ⟨_, _, _, .idle hjob (.inr hfeeds) hsame⟩
  · refine ⟨count', done', [message], ⟨hjob.role, hjob.family, hjob.requestId⟩, hchannel.store,
      hchannel.workDir, hemits, hsent, .inr hnext, .inl ⟨hchannel.outcome, fun hcounted ↦ ?_⟩⟩
    rw [hcount, ← hcounted]
  · -- a message that was queued although the send has failed is the last one
    rw [hjob.role, World.fail_initiator_run]
    have hfailed : ∃ error, mid.outcome.or (some (.ofError (.session cause))) =
        world.outcome.or (some (.ofError error)) := ⟨_, by rw [hchannel.outcome]⟩
    rcases hsent with hsent | hsent
    · exact ⟨_, _, _, ⟨hjob.role, hjob.family, hjob.requestId⟩, hchannel.store, hchannel.workDir,
        .nothing _ _, hsent.trans (List.append_nil _).symm, .inl rfl, .inr hfailed⟩
    · exact ⟨_, _, _, ⟨hjob.role, hjob.family, hjob.requestId⟩, hchannel.store, hchannel.workDir,
        hemits, hsent, .inl rfl, .inr hfailed⟩

/-- A read of the next piece. -/
theorem Fed.produce (hjob : job.IsUpload requestId) (hread : readSize ≠ 0)
    (hbytes : world.store.fs.bytesOf opened = bytes) (hoffer : job.offer = none)
    (hproducer : job.producer = .upload ⟨opened, count, readSize⟩) (hle : count ≤ bytes.size)
    (hrun : job.produce.run world = ((status, job'), world')) :
    Fed requestId opened bytes readSize job job' world world' count false count false [] := by
  obtain rfl := hjob.requestId
  have hfeeds : Feeds job.requestId opened bytes readSize job.offer job.producer count false := by
    rw [hoffer, hproducer]
    exact .reading hle
  have hupload : ∀ next offer, ({ job with producer := next, offer } : Job).IsUpload
      job.requestId :=
    fun _ _ ↦ ⟨hjob.role, hjob.family, hjob.requestId⟩
  rw [produce_run, hproducer] at hrun
  unfold Producer.advance at hrun
  dsimp only at hrun
  rw [Producer.advanceUpload_run] at hrun
  cases hcancelled : Outlet.isCancelled world.outlet with
  | true =>
    rw [hcancelled] at hrun
    obtain ⟨-, rfl, rfl⟩ := run_inj hrun
    exact .idle hjob (.inr hfeeds) (.inr rfl)
  | false =>
    rw [hcancelled] at hrun
    cases opened with
    | directory =>
      change (job.failWith (.io (.ofErrno .isDirectory))).run world = _ at hrun
      rw [failWith_run, hjob.role, World.fail_initiator_run] at hrun
      obtain ⟨-, rfl, rfl⟩ := run_inj hrun
      exact ⟨⟨hjob.role, hjob.family, hjob.requestId⟩, rfl, rfl, .nothing _ _,
        (List.append_nil _).symm, .inl rfl, .inr ⟨_, rfl⟩⟩
    | file id =>
      simp only [Bool.false_eq_true, if_false] at hrun
      rw [FileSystem.read_eq_extract, hbytes] at hrun
      obtain ⟨hpiece, hfits⟩ := extract_of_size readSize hle
      by_cases hsize : (bytes.extract count (count + readSize)).size = 0
      · rw [if_pos hsize] at hrun
        obtain ⟨-, rfl, rfl⟩ := run_inj hrun
        -- nothing is left to read, so all of the file has been queued
        obtain rfl : count = bytes.size := by
          rw [ByteArray.size_extract] at hsize
          omega
        exact ⟨hupload _ _, rfl, rfl, .nothing _ _, (List.append_nil _).symm,
          .inr (.ending (by simp)), .inl ⟨rfl, fun h ↦ h⟩⟩
      · rw [if_neg hsize] at hrun
        obtain ⟨-, rfl, rfl⟩ := run_inj hrun
        exact ⟨hupload _ _, rfl, rfl, .nothing _ _, (List.append_nil _).symm,
          .inr (.piece hpiece hfits), .inl ⟨rfl, fun h ↦ h⟩⟩

/-- **One step of a job that sends a file.** It keeps having in hand what follows on what has been
queued, or ends. -/
theorem step_fed (hjob : job.IsUpload requestId) (hread : readSize ≠ 0)
    (hbytes : world.store.fs.bytesOf opened = bytes)
    (hfeeds : job.isEnded = true ∨
      Feeds requestId opened bytes readSize job.offer job.producer count done)
    (hrun : job.step.run world = ((status, job'), world')) :
    ∃ count' done' messages, Fed requestId opened bytes readSize job job' world world' count done
      count' done' messages := by
  rw [step_run] at hrun
  split at hrun
  · rename_i hended
    obtain ⟨-, rfl, rfl⟩ := run_inj hrun
    exact ⟨_, _, _, .idle hjob (.inl hended) (.inl rfl)⟩
  rename_i hgoes
  replace hfeeds := hfeeds.resolve_left hgoes
  obtain ⟨role, family, requestId', producer, offer, sent, isEnded⟩ := job
  obtain rfl : requestId' = requestId := hjob.requestId
  dsimp only at hfeeds hrun
  cases hfeeds with
  | reading hle => exact ⟨_, _, _, .produce hjob hread hbytes rfl rfl hle hrun⟩
  | piece hdata hle =>
    exact Fed.offer hjob (.piece hdata hle) (.piece hdata hle) (.reading hle)
      (UInt64.ofNat_add ..) hrun
  | ending hfile =>
    exact Fed.offer hjob (.ending hfile) (.ending hfile) (.finished hfile) (UInt64.add_zero _).symm
      hrun
  | finished hfile =>
    -- all has been queued, and nothing more comes
    rw [produce_run] at hrun
    obtain ⟨-, rfl, rfl⟩ := run_inj hrun
    exact ⟨_, _, _, .idle hjob (.inr (.finished hfile)) (.inr rfl)⟩

end Job

end FileShare
