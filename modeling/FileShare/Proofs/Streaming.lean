import FileShare.Proofs.Hosting
import FileShare.Proofs.Ledger
import FileShare.Proofs.RangeOutput

/-!
# A range is streamed

What a responder of a download does about one request for a range, whatever the size of the file was
when it was opened and is now, and wherever the range begins and ends. The bytes that are wanted
(`ByteRange.wanted`) are those of the file from the first to the last one, as far as the file was
told to reach. If it has become shorter since, that is where they end.

* **What is said** (`Pieces`): pieces of what is wanted, from its first byte on, none of them empty
  or longer than a chunk; behind all of it one end message.
* **What is read** (`Reading`): each read begins behind what the one before has given, and asks for
  no byte behind the last one of the range. There is no read, and nothing is sought, if no byte is
  wanted.

Neither depends on how much each read gives of what it is asked for, as long as that is something
(`Fault.Giving`), nor on when there is room for a message, whether the connection goes bad, or
whether the side is told to stop. While none of the latter happens, all is said, once there has been
room often enough (`Side.range_streamed`). The one exception is a piece that makes no packet. A
chunk may be chosen as long as a payload may be, and then the message around it is too long
(`Side.large_piece_untold`).
-/

namespace FileShare

/-! ### Reads that give something -/

/-- **No fault keeps a read from giving something.** -/
def Fault.Giving (faults : List Fault) : Prop :=
  ∀ fault ∈ faults, fault.operation = .read →
    fault.effect.errno = none ∧ fault.effect.limit ≠ some 0

instance : DecidablePred Fault.Giving := fun faults ↦ by
  unfold Fault.Giving
  infer_instance

/-- What disturbs a read lets it give something, and so do the faults that are left. -/
theorem Fault.Giving.disturb {faults : List Fault} (h : Giving faults) (call : Call) :
    (call.operation = .read → ∀ disturbance, (Fault.disturb call faults).1 = some disturbance →
        disturbance.errno = none ∧ disturbance.limit ≠ some 0) ∧
      Giving (Fault.disturb call faults).2 := by
  obtain ⟨hdisturbs, hleft⟩ := forall_disturb (P := fun operation effect ↦
    operation = .read → effect.errno = none ∧ effect.limit ≠ some 0) h call
  exact ⟨fun hread disturbance hsome ↦ hdisturbs disturbance hsome hread, hleft⟩

namespace Share

variable {α : Type} {store mid : Store} {call : Call} {answer : α → Answer} {a : α}

/-- A call that no fault makes fail, and whose body succeeds, gives what its body gives. -/
theorem attempt_run_of_ok {body : Option Nat → Store → Except ShareError α × Store}
    (herrno : (Fault.disturb call store.faults).1.bind (·.errno) = none)
    (hbody : body ((Fault.disturb call store.faults).1.bind (·.limit))
      { store with faults := (Fault.disturb call store.faults).2 } = (.ok a, mid)) :
    (attempt call answer body).run.run store = (.ok a, mid.record call (answer a)) := by
  unfold attempt
  simp only [ExceptT.run_mk, StateT.run, herrno, hbody]

/-- The same for a call on an open file. -/
theorem onFile_run_of_ok {operation : Operation} {argument : Argument} {id : FileId}
    {body : OpenFile → Option Nat → Store → Except Errno α × Store}
    (hopen : (fileOf store id).isOpen = true)
    (hcall : call = ⟨operation, (fileOf store id).url, argument⟩)
    (herrno : (Fault.disturb call store.faults).1.bind (·.errno) = none)
    (hbody : body (fileOf store id) ((Fault.disturb call store.faults).1.bind (·.limit))
      { store with faults := (Fault.disturb call store.faults).2 } = (.ok a, mid)) :
    (onFile operation argument id answer body).run.run store =
      (.ok a, mid.record call (answer a)) := by
  subst hcall
  rw [onFile_run]
  refine attempt_run_of_ok herrno ?_
  rw [if_pos hopen, hbody]
  rfl

/-- A call on a file that does not fail finds it open. -/
theorem isOpen_of_onFile {operation : Operation} {argument : Argument} {id : FileId}
    {body : OpenFile → Option Nat → Store → Except Errno α × Store}
    (h : (onFile operation argument id answer body).run.run store = (.ok a, mid)) :
    (fileOf store id).isOpen = true := by
  rw [onFile_run] at h
  rcases attempt_cases h with ⟨⟨error, herror⟩, -⟩ | ⟨limit, faults, last, -, hbody, -⟩
  · cases herror
  · split at hbody
    · assumption
    · cases (Prod.mk.inj hbody).1

end Share

/-- **A file that can be read from a position on**: it is open, and a read gives something. -/
structure Store.Gives (store : Store) (file : FileId) (url : String) (content position : Nat) :
    Prop where
  reads : store.Reads file content position
  isOpen : (Share.fileOf store file).isOpen = true
  url : (Share.fileOf store file).url = url
  giving : Fault.Giving store.faults

/-- **A read gives some of what it is asked for**, as far as it is there, and moves on. -/
theorem Store.Gives.read {store : Store} {file : FileId} {url : String} {content position : Nat}
    (h : store.Gives file url content position) (asked : Nat) :
    ∃ count ≤ asked, (asked ≠ 0 → count ≠ 0) ∧ ∃ store',
      let data := (store.fs.bytesOf (.file content)).extract position (position + count)
      (Share.read file asked).run.run store = (.ok data, store') ∧ store'.fs = store.fs ∧
        store'.Gives file url content (position + data.size) ∧
        store.Logs store' [(⟨.read, url, .number asked⟩, .number data.size)] := by
  let call : Call := ⟨.read, url, .number asked⟩
  let disturbed := Fault.disturb call store.faults
  obtain ⟨hdisturbs, hgiving⟩ := h.giving.disturb call
  have herrno : disturbed.1.bind (·.errno) = none := by
    rw [Option.bind_eq_none_iff]
    exact fun disturbance hsome ↦ (hdisturbs rfl disturbance hsome).1
  have hlimit : disturbed.1.bind (·.limit) ≠ some 0 := fun hzero ↦ by
    obtain ⟨disturbance, hsome, hzero⟩ := Option.bind_eq_some_iff.1 hzero
    exact (hdisturbs rfl disturbance hsome).2 hzero
  let count := min asked ((disturbed.1.bind (·.limit)).getD asked)
  let data := (store.fs.bytesOf (.file content)).extract position (position + count)
  let moved : OpenFile :=
    { Share.fileOf store file with position := position + data.size }
  let mid := Share.setFile { store with faults := disturbed.2 } file moved
  have hdata : store.fs.read (Share.fileOf store file).content
      (Share.fileOf store file).position count = data := by
    rw [h.reads.content, h.reads.position, FileSystem.read_eq_extract]
  have hread : (Share.read file asked).run.run store =
      (.ok data, mid.record call (.number data.size)) := by
    refine Share.onFile_run_of_ok h.isOpen (by rw [h.url]) herrno ?_
    rw [if_pos h.reads.mode]
    dsimp only
    rw [hdata, h.reads.position]
  have hfile : Share.fileOf (mid.record call (.number data.size)) file = moved :=
    Share.fileOf_of_set h.reads.inRange rfl
  refine ⟨count, Nat.min_le_left _ _, fun hasked ↦ ?_, _, hread, rfl,
    ⟨h.reads.move rfl, ?_, ?_, hgiving⟩, store.logs_record mid rfl rfl _ _⟩
  · -- a limit that is not zero leaves something of what is asked for
    cases hsome : disturbed.1.bind (·.limit) with
    | none => simpa [count, hsome] using hasked
    | some limit =>
      have hne : limit ≠ 0 := fun hzero ↦ hlimit (hsome.trans (congrArg some hzero))
      simp only [count, hsome, Option.getD_some]
      omega
  · rw [hfile]
    exact h.isOpen
  · rw [hfile]
    exact h.url

/-- **To seek makes ready for reads**, from the position on that is sought. -/
theorem Store.Reads.gives_of_seek {store store' : Store} {file : FileId}
    {content position answer : Nat} {target : UInt64} (h : store.Reads file content position)
    (hgiving : Fault.Giving store.faults)
    (hrun : (Share.seek file target).run.run store = (.ok answer, store')) :
    let url := (Share.fileOf store file).url
    store'.fs = store.fs ∧ store'.Gives file url content target.toNat ∧
      store.Logs store' [(⟨.seek, url, .number target.toNat⟩, .number target.toNat)] := by
  intro url
  have hopen : (Share.fileOf store file).isOpen = true := Share.isOpen_of_onFile hrun
  obtain ⟨hkeeps, ⟨error, herror⟩ | hmoved⟩ := h.seek hrun
  · cases herror
  rcases Share.seek_cases hrun with ⟨⟨error, herror⟩, -⟩ | hrecords
  · cases herror
  have hfile := Share.fileOf_of_set h.inRange hrecords.files
  have hfaults := Share.faults_onFile
    (fun file limit mid ↦ by split <;> rfl) hrun
  have hanswer : answer = target.toNat := by
    rcases Share.onFile_cases hrun with ⟨⟨error, herror⟩, -⟩ |
      ⟨limit, faults, value, mid, -, hbody, ⟨report, hvalue⟩, -⟩
    · cases herror
    · obtain rfl := of_mapError_eq_ok hvalue.symm
      split at hbody
      · cases (Prod.mk.inj hbody).1
      · exact (Except.ok.inj (Prod.mk.inj hbody).1).symm
  obtain ⟨recorded, hrecorded, hlogs⟩ := Share.onFile_logs
    (fun file limit mid ↦ by split <;> exact ⟨rfl, rfl⟩) hrun
  obtain rfl : recorded = .number answer := hrecorded
  refine ⟨hkeeps.fs, ⟨hmoved, ?_, ?_, ?_⟩, hanswer ▸ hlogs⟩
  · rw [hfile]
    exact hopen
  · rw [hfile]
  · rw [hfaults]
    exact (hgiving.disturb _).2

/-- **Reads in a row**, of which the first begins at the first byte of a range, up to a position.
Each asks for something and for no byte behind the last one, gives no more than it is asked for, and
the next one begins behind what it has given. All that is worked out on the way fits in 64 bits. -/
inductive Reading (url : String) (first last : Nat) : Nat → List (Call × Answer) → Prop where
  | nil : Reading url first last first []
  | read {position asked given : Nat} {log : List (Call × Answer)}
      (h : Reading url first last position log) (hposition : position ≤ last)
      (hleft : last - position + 1 < UInt64.size) (hasked : asked ≠ 0)
      (hwithin : position + asked ≤ last + 1) (hgiven : given ≤ asked)
      (hmoved : position + given < UInt64.size) :
      Reading url first last (position + given)
        (log ++ [(⟨.read, url, .number asked⟩, .number given)])

/-! ### Pieces -/

/-- **Pieces of some bytes**, from the first one on: so many of them, and none of the pieces is
empty or longer than a limit. -/
structure Pieces (bytes : ByteArray) (limit : Nat) (pieces : List ByteArray) (count : Nat) :
    Prop where
  le : count ≤ bytes.size
  together : pieces.flatMap (·.data.toList) = (bytes.extract 0 count).data.toList
  each : ∀ piece ∈ pieces, piece.size ≠ 0 ∧ piece.size ≤ limit

namespace Pieces

variable {bytes data : ByteArray} {limit count : Nat} {pieces : List ByteArray}

theorem nil (bytes : ByteArray) (limit : Nat) : Pieces bytes limit [] 0 :=
  ⟨Nat.zero_le _, by simp, nofun⟩

/-- **The piece that follows** makes them more. -/
theorem snoc (h : Pieces bytes limit pieces count)
    (hdata : data = bytes.extract count (count + data.size)) (hle : count + data.size ≤ bytes.size)
    (hne : data.size ≠ 0) (hlimit : data.size ≤ limit) :
    Pieces bytes limit (pieces ++ [data]) (count + data.size) := by
  refine ⟨hle, ?_, List.forall_mem_append.2 ⟨h.each, List.forall_mem_singleton.2 ⟨hne, hlimit⟩⟩⟩
  rw [List.flatMap_append, h.together, List.flatMap_singleton]
  nth_rewrite 1 [hdata]
  rw [← Array.toList_append, ← ByteArray.data_append, ByteArray.extract_append_extract,
    Nat.zero_min, Nat.max_eq_right (Nat.le_add_right _ _)]

theorem isPrefix (h : Pieces bytes limit pieces count) :
    pieces.flatMap (·.data.toList) <+: bytes.data.toList := by
  rw [h.together]
  exact extract_prefix bytes count

/-- Pieces of as many bytes as there are, are all of them. -/
theorem eq_of_eq_size (h : Pieces bytes limit pieces count) (hcount : count = bytes.size) :
    pieces.flatMap (·.data.toList) = bytes.data.toList := by
  rw [h.together, hcount, ByteArray.extract_zero_size]

end Pieces

/-- What has been said: some pieces, and perhaps the end message. -/
def spoken (requestId : String) (pieces : List ByteArray) (done : Bool) : List Message :=
  pieces.map (Producer.downloadMessage requestId) ++ if done then [downloadEnd requestId] else []

/-- **The next piece makes no packet**, since the payload of its message is too long. -/
def Stuck (requestId : String) (bytes : ByteArray) (limit : Nat) (pieces : List ByteArray) : Prop :=
  ∃ next count, Pieces bytes limit (pieces ++ [next]) count ∧
    Header.maxPayload < (Producer.downloadMessage requestId next).payload.size

theorem Packet.maxPayload_lt_of_error {message : Message} {fault : FrameError}
    (h : ofMessage message = .error fault) : Header.maxPayload < message.payload.size := by
  unfold ofMessage at h
  dsimp only at h
  split at h
  · assumption
  · cases h

/-- A range is as long as the file reaches into it. -/
theorem ServedRange.size_bytes (range : ServedRange) (fs : FileSystem) : (range.bytes fs).size =
    min (range.last + 1) (fs.bytesOf (.file range.content)).size - range.first :=
  ByteArray.size_extract ..

/-- A range that can be streamed: neither chunks nor reads are empty, the place behind the range is
a number of 64 bits, and the end message makes a packet. -/
structure ServedRange.IsRegular (range : ServedRange) : Prop where
  chunkSize_ne : range.chunkSize ≠ 0
  readSize_ne : range.readSize ≠ 0
  last_lt : range.last + 1 < UInt64.size
  ending_fits : (downloadEnd range.requestId).payload.size ≤ Header.maxPayload

/-! ### A step of the job -/

namespace Job

/-- **What a job that streams a range has said**, what it has in hand, and which reads it has made.
It says all, and only then the end message, unless it is stuck. Whether it has been left alone so
far, by the connection and by whoever could tell it to stop, is a condition. -/
inductive Streams (calm : Prop) (range : ServedRange) (url : String) (bytes : ByteArray)
    (store : Store) (log : List (Call × Answer)) : Job → List ByteArray → Bool → Prop where
  | reading {pieces : List ByteArray} {pending : ByteArray} {count : Nat} {sent : UInt64}
      (hpieces : Pieces bytes range.chunkSize pieces count)
      (hpending : pending = bytes.extract count (count + pending.size))
      (hle : count + pending.size ≤ bytes.size)
      (hreads : Reading url range.first range.last (range.first + (count + pending.size)) log)
      (hgives : store.Gives range.file url range.content
        (range.first + (count + pending.size))) :
      Streams calm range url bytes store log ⟨.responder, .download, range.requestId,
        .range (range.source (count + pending.size) pending), none, sent, false⟩ pieces false
  | offering {pieces : List ByteArray} {data pending : ByteArray} {count : Nat} {sent : UInt64}
      (hpieces : Pieces bytes range.chunkSize pieces count)
      (hnext : Pieces bytes range.chunkSize (pieces ++ [data]) (count + data.size))
      (hpending : pending =
        bytes.extract (count + data.size) (count + data.size + pending.size))
      (hle : count + data.size + pending.size ≤ bytes.size)
      (hreads : Reading url range.first range.last
        (range.first + (count + data.size + pending.size)) log)
      (hgives : store.Gives range.file url range.content
        (range.first + (count + data.size + pending.size))) :
      Streams calm range url bytes store log ⟨.responder, .download, range.requestId,
        .range (range.source (count + data.size + pending.size) pending),
        some (Producer.downloadMessage range.requestId data), sent, false⟩ pieces false
  | ending {pieces : List ByteArray} {position : Nat} {sent : UInt64}
      (hpieces : Pieces bytes range.chunkSize pieces bytes.size)
      (hreads : Reading url range.first range.last position log) :
      Streams calm range url bytes store log ⟨.responder, .download, range.requestId, .finished,
        some (downloadEnd range.requestId), sent, false⟩ pieces false
  | finished {pieces : List ByteArray} {position : Nat} {sent : UInt64} {isEnded : Bool}
      (hpieces : Pieces bytes range.chunkSize pieces bytes.size)
      (hreads : Reading url range.first range.last position log) :
      Streams calm range url bytes store log ⟨.responder, .download, range.requestId, .finished,
        none, sent, isEnded⟩ pieces true
  | stuck {job : Job} {pieces : List ByteArray} {count position : Nat} (hended : job.isEnded = true)
      (hpieces : Pieces bytes range.chunkSize pieces count)
      (hstuck : Stuck range.requestId bytes range.chunkSize pieces)
      (hreads : Reading url range.first range.last position log) :
      Streams calm range url bytes store log job pieces false
  | halted {job : Job} {pieces : List ByteArray} {done : Bool} {count position : Nat}
      (hcalm : ¬calm) (hended : job.isEnded = true)
      (hpieces : Pieces bytes range.chunkSize pieces count)
      (hdone : done = true → count = bytes.size)
      (hreads : Reading url range.first range.last position log) :
      Streams calm range url bytes store log job pieces done

variable {calm : Prop} {range : ServedRange} {url : String} {bytes : ByteArray} {store : Store}
variable {log : List (Call × Answer)} {job job' : Job} {pieces : List ByteArray} {done : Bool}
variable {world world' : World Channel} {status : JobStatus} {message : Message}

/-- What is known of a job whatever it is at. -/
theorem Streams.exists_pieces (h : job.Streams calm range url bytes store log pieces done) :
    ∃ count position, Pieces bytes range.chunkSize pieces count ∧
      (done = true → count = bytes.size) ∧
      Reading url range.first range.last position log := by
  cases h with
  | reading hpieces _ _ hreads => exact ⟨_, _, hpieces, nofun, hreads⟩
  | offering hpieces _ _ _ hreads => exact ⟨_, _, hpieces, nofun, hreads⟩
  | ending hpieces hreads => exact ⟨_, _, hpieces, nofun, hreads⟩
  | finished hpieces hreads => exact ⟨_, _, hpieces, fun _ ↦ rfl, hreads⟩
  | stuck _ hpieces _ hreads => exact ⟨_, _, hpieces, nofun, hreads⟩
  | halted _ _ hpieces hdone hreads => exact ⟨_, _, hpieces, hdone, hreads⟩

/-- **A job that has been left alone ends when all is said**, or it is stuck. -/
theorem Streams.of_isEnded (h : job.Streams calm range url bytes store log pieces done)
    (hcalm : calm) (hended : job.isEnded = true) :
    done = true ∨ Stuck range.requestId bytes range.chunkSize pieces := by
  cases h with
  | finished => exact .inl rfl
  | stuck _ _ hstuck => exact .inr hstuck
  | halted hnot => exact absurd hcalm hnot
  | _ => cases hended

/-- Other faults do not matter, as long as reads give something. -/
theorem Streams.withFaults {faults : List Fault}
    (h : job.Streams calm range url bytes store log pieces done) (hfaults : Fault.Giving faults) :
    job.Streams calm range url bytes { store with faults } log pieces done := by
  have hgives : ∀ {position : Nat}, store.Gives range.file url range.content position →
      Store.Gives { store with faults } range.file url range.content position :=
    fun ⟨hreads, hopen, hurl, _⟩ ↦ ⟨hreads.congr rfl, hopen, hurl, hfaults⟩
  cases h with
  | reading hpieces hpending hle hreads hat =>
    exact .reading hpieces hpending hle hreads (hgives hat)
  | offering hpieces hnext hpending hle hreads hat =>
    exact .offering hpieces hnext hpending hle hreads (hgives hat)
  | ending hpieces hreads => exact .ending hpieces hreads
  | finished hpieces hreads => exact .finished hpieces hreads
  | stuck hended hpieces hstuck hreads => exact .stuck hended hpieces hstuck hreads
  | halted hnot hended hpieces hdone hreads => exact .halted hnot hended hpieces hdone hreads

/-- **What comes of an offer of a responder**: nothing; or the message has been queued; or the job
has ended, and then the message makes no packet, or the job has not been left alone. -/
theorem offerOnce_ends (hrole : job.role = .responder)
    (hrun : (job.offerOnce message).run world = ((status, job'), world')) :
    world'.store = world.store ∧
      (world'.outlet = world.outlet ∧ job' = job ∨
        world'.outlet.underway = world.outlet.underway ++ [message] ∧
          job' = { job with
            offer := none
            sent := job.sent + UInt64.ofNat (uploadedBytes message) } ∨
        job' = job.ended ∧
          (world'.outlet.underway = world.outlet.underway ∨
            world'.outlet.underway = world.outlet.underway ++ [message]) ∧
          (world.outlet.isUp = true ∧ world.outlet.isCancelled = false →
            world'.outlet = world.outlet ∧ Header.maxPayload < message.payload.size)) := by
  refine ⟨store_of_offerOnce hrole hrun, ?_⟩
  by_cases hcalm : world.outlet.isUp = true ∧ world.outlet.isCancelled = false
  · rcases offerOnce_up hrole hcalm.1 hcalm.2 hrun with ⟨-, rfl, rfl⟩ | ⟨fault, hfault, rfl, rfl⟩ |
      ⟨rfl, hsent⟩
    · exact .inl ⟨rfl, rfl⟩
    · exact .inr (.inr ⟨rfl, .inl rfl, fun _ ↦ ⟨rfl, Packet.maxPayload_lt_of_error hfault⟩⟩)
    · exact .inr (.inl ⟨hsent, rfl⟩)
  · rcases offerOnce_cases hrun with ⟨rfl, rfl | rfl⟩ | ⟨-, hsent, rfl⟩ |
      ⟨cause, mid, -, hsent, rfl, rfl⟩
    · exact .inl ⟨rfl, rfl⟩
    · exact .inr (.inr ⟨rfl, .inl rfl, fun h ↦ absurd h hcalm⟩)
    · exact .inr (.inl ⟨hsent, rfl⟩)
    · -- a failure of the session is told to nobody
      rw [hrole]
      exact .inr (.inr ⟨rfl, hsent, fun h ↦ absurd h hcalm⟩)

/-- **What a step of a job that streams a range adds** to what has been said, and to the calls. -/
structure Streamed (calm : Prop) (range : ServedRange) (url : String) (bytes : ByteArray)
    (log : List (Call × Answer)) (pieces : List ByteArray) (done : Bool) (job' : Job)
    (world world' : World Channel) : Prop where
  fs : world'.store.fs = world.store.fs
  adds : ∃ pieces' done' messages calls,
    spoken range.requestId pieces' done' = spoken range.requestId pieces done ++ messages ∧
    world'.outlet.underway = world.outlet.underway ++ messages ∧
    world.store.Logs world'.store calls ∧
    job'.Streams calm range url bytes world'.store (log ++ calls) pieces' done'

/-- A step in which nothing is queued and no call is made. -/
theorem Streamed.quiet (houtlet : world'.outlet.underway = world.outlet.underway)
    (hstore : world'.store = world.store)
    (hjob : job'.Streams calm range url bytes world.store log pieces done) :
    Streamed calm range url bytes log pieces done job' world world' :=
  ⟨by rw [hstore], pieces, done, [], [], (List.append_nil _).symm,
    houtlet.trans (List.append_nil _).symm, hstore ▸ .refl _,
    by rwa [hstore, List.append_nil]⟩

/-- A step in which a message is queued. -/
theorem Streamed.said {pieces' : List ByteArray} {done' : Bool}
    (hspoken : spoken range.requestId pieces' done' =
      spoken range.requestId pieces done ++ [message])
    (houtlet : world'.outlet.underway = world.outlet.underway ++ [message])
    (hstore : world'.store = world.store)
    (hjob : job'.Streams calm range url bytes world.store log pieces' done') :
    Streamed calm range url bytes log pieces done job' world world' :=
  ⟨by rw [hstore], pieces', done', [message], [], hspoken, houtlet, hstore ▸ .refl _,
    by rwa [hstore, List.append_nil]⟩

theorem spoken_snoc (requestId : String) (pieces : List ByteArray) (data : ByteArray) :
    spoken requestId (pieces ++ [data]) false =
      spoken requestId pieces false ++ [Producer.downloadMessage requestId data] := by
  simp [spoken]

theorem spoken_done (requestId : String) (pieces : List ByteArray) :
    spoken requestId pieces true = spoken requestId pieces false ++ [downloadEnd requestId] := by
  simp [spoken]

/-- **The next message is the front of what has been read.** -/
theorem Streamed.cut {pending : ByteArray} {count : Nat} {sent : UInt64}
    (hpieces : Pieces bytes range.chunkSize pieces count)
    (hpending : pending = bytes.extract count (count + pending.size))
    (hle : count + pending.size ≤ bytes.size)
    (hreads : Reading url range.first range.last (range.first + (count + pending.size)) log)
    (hgives : world.store.Gives range.file url range.content
      (range.first + (count + pending.size)))
    (hchunk : range.chunkSize ≠ 0) (hsome : pending.size ≠ 0)
    (hrun : (Job.step ⟨.responder, .download, range.requestId,
      .range (range.source (count + pending.size) pending), none, sent, false⟩).run world =
        ((status, job'), world')) :
    Streamed calm range url bytes log pieces false job' world world' := by
  rw [step_of_cut rfl rfl rfl hsome] at hrun
  obtain ⟨-, rfl, rfl⟩ := run_inj hrun
  obtain ⟨hsum, hdata, hrest⟩ := cut_extract range.chunkSize hpending
  have hposition : count + pending.size = count + (pending.extract 0 range.chunkSize).size +
      (pending.extract range.chunkSize pending.size).size := by omega
  have hnext := hpieces.snoc hdata (by omega) (by rw [ByteArray.size_extract]; omega)
    (by rw [ByteArray.size_extract]; omega)
  rw [hposition] at hreads hgives
  refine .quiet rfl rfl ?_
  dsimp only [ServedRange.source]
  rw [hposition]
  exact .offering hpieces hnext hrest (by omega) hreads hgives

/-- **More is read**, unless the file has come to its end. -/
theorem Streamed.read {count : Nat} {sent : UInt64}
    (hpieces : Pieces bytes range.chunkSize pieces count) (hle : count ≤ bytes.size)
    (hreads : Reading url range.first range.last (range.first + count) log)
    (hgives : world.store.Gives range.file url range.content (range.first + count))
    (hbytes : bytes = range.bytes world.store.fs) (hregular : range.IsRegular)
    (hwithin : range.first + count ≤ range.last) (hgoes : Outlet.isCancelled world.outlet = false)
    (hrun : (Job.step ⟨.responder, .download, range.requestId,
      .range (range.source count ByteArray.empty), none, sent, false⟩).run world =
        ((status, job'), world')) :
    Streamed calm range url bytes log pieces false job' world world' := by
  obtain ⟨-, hread, hlast, -⟩ := hregular
  have hsize := (congrArg ByteArray.size hbytes).trans (range.size_bytes world.store.fs)
  let asked := min (range.last - (range.first + count) + 1) range.readSize
  have hasked : asked ≠ 0 := by omega
  obtain ⟨given, hgiven, hsome, store', hcall, hfs, hmoved, hlogs⟩ := hgives.read asked
  generalize hdata : (world.store.fs.bytesOf (.file range.content)).extract
    (range.first + count) (range.first + count + given) = data at hcall hmoved hlogs
  have hsome := hsome hasked
  have hdataSize : data.size = min (range.first + count + given)
      (world.store.fs.bytesOf (.file range.content)).size - (range.first + count) := by
    rw [← hdata, ByteArray.size_extract]
  have hreads' := @Reading.read url range.first range.last _ asked data.size log hreads
    (by omega) (by omega) hasked (by omega) (by omega) (by omega)
  have hnothing : ¬ByteArray.empty.size ≠ 0 := not_not.2 ByteArray.size_empty
  have hadvance := Producer.advanceRange_run range.requestId (Outlet.isCancelled world.outlet)
    ⟨range.file, range.first + count, range.last, range.chunkSize, range.readSize,
      ByteArray.empty⟩ world
  rw [if_neg hnothing, if_neg (Nat.not_lt.2 hwithin),
    if_neg (by rw [hgoes]; exact Bool.false_ne_true)] at hadvance
  dsimp only at hadvance
  rw [hcall] at hadvance
  dsimp only at hadvance
  by_cases hempty : data.size = 0
  · rw [if_pos hempty] at hadvance
    obtain ⟨-, rfl, rfl⟩ := run_inj (hrun.symm.trans (step_of_advance rfl rfl hadvance))
    obtain rfl : count = bytes.size := by omega
    exact ⟨hfs, pieces, false, [], _, (List.append_nil _).symm, (List.append_nil _).symm, hlogs,
      .ending hpieces hreads'⟩
  · rw [if_neg hempty] at hadvance
    obtain ⟨-, rfl, rfl⟩ := run_inj (hrun.symm.trans (step_of_advance rfl rfl hadvance))
    have hposition : range.first + count + data.size = range.first + (count + data.size) := by
      omega
    have hnext : data = bytes.extract count (count + data.size) := by
      have hwhole := (@extract_of_size (world.store.fs.bytesOf (.file range.content))
        (range.first + count) given (by omega)).1
      rw [hdata] at hwhole
      rw [hbytes, ServedRange.bytes, ByteArray.extract_extract]
      nth_rewrite 1 [hwhole]
      congr 1
      omega
    rw [hposition] at hreads' hmoved
    refine ⟨hfs, pieces, false, [], _, (List.append_nil _).symm, (List.append_nil _).symm, hlogs,
      ?_⟩
    dsimp only
    rw [hposition]
    exact .reading hpieces hnext (by omega) hreads' hmoved

/-- **What has been read is cut, or more is read**, up to the last byte or the end of the file. -/
theorem Streamed.produce {pending : ByteArray} {count : Nat} {sent : UInt64}
    (hpieces : Pieces bytes range.chunkSize pieces count)
    (hpending : pending = bytes.extract count (count + pending.size))
    (hle : count + pending.size ≤ bytes.size)
    (hreads : Reading url range.first range.last (range.first + (count + pending.size)) log)
    (hgives : world.store.Gives range.file url range.content
      (range.first + (count + pending.size)))
    (hbytes : bytes = range.bytes world.store.fs) (hregular : range.IsRegular)
    (hcalm : calm → world.outlet.isUp = true ∧ world.outlet.isCancelled = false)
    (hrun : (Job.step ⟨.responder, .download, range.requestId,
      .range (range.source (count + pending.size) pending), none, sent, false⟩).run world =
        ((status, job'), world')) :
    Streamed calm range url bytes log pieces false job' world world' := by
  by_cases hsome : pending.size ≠ 0
  · exact .cut hpieces hpending hle hreads hgives hregular.chunkSize_ne hsome hrun
  -- nothing is pending: the range has come to its end, or it is time to read
  obtain rfl : pending = ByteArray.empty := ByteArray.size_eq_zero_iff.1 (not_not.1 hsome)
  rw [ByteArray.size_empty, Nat.add_zero] at hle hreads hgives hrun
  have hnothing : ¬ByteArray.empty.size ≠ 0 := not_not.2 ByteArray.size_empty
  have hadvance := Producer.advanceRange_run range.requestId (Outlet.isCancelled world.outlet)
    ⟨range.file, range.first + count, range.last, range.chunkSize, range.readSize,
      ByteArray.empty⟩ world
  rw [if_neg hnothing] at hadvance
  by_cases hover : range.last < range.first + count
  · rw [if_pos hover] at hadvance
    have hsize := (congrArg ByteArray.size hbytes).trans (range.size_bytes world.store.fs)
    obtain ⟨-, rfl, rfl⟩ := run_inj (hrun.symm.trans (step_of_advance rfl rfl hadvance))
    obtain rfl : count = bytes.size := by omega
    exact .quiet rfl rfl (.ending hpieces hreads)
  cases hcancelled : Outlet.isCancelled world.outlet with
  | false =>
    exact .read hpieces hle hreads hgives hbytes hregular (by omega) hcancelled hrun
  | true =>
    have hnot : ¬calm := fun h ↦ by
      have : Outlet.isCancelled world.outlet = false := (hcalm h).2
      rw [this] at hcancelled
      cases hcancelled
    rw [if_neg hover, if_pos hcancelled] at hadvance
    obtain ⟨-, rfl, rfl⟩ := run_inj (hrun.symm.trans (step_of_advance rfl rfl hadvance))
    exact .quiet rfl rfl (.halted hnot rfl hpieces (fun h ↦ by cases h) hreads)

/-- **A step of a job that streams a range** says what follows, or reads what follows. -/
theorem Streams.step (h : job.Streams calm range url bytes world.store log pieces done)
    (hbytes : bytes = range.bytes world.store.fs) (hregular : range.IsRegular)
    (hcalm : calm → world.outlet.isUp = true ∧ world.outlet.isCancelled = false)
    (hrun : job.step.run world = ((status, job'), world')) :
    Streamed calm range url bytes log pieces done job' world world' := by
  have hstreams := h
  cases hended : job.isEnded with
  | true =>
    rw [step_run, if_pos hended] at hrun
    obtain ⟨-, rfl, rfl⟩ := run_inj hrun
    exact .quiet rfl rfl h
  | false =>
    -- the cases are what the job has in hand
    cases h with
    | reading hpieces hpending hle hreads hgives =>
      exact .produce hpieces hpending hle hreads hgives hbytes hregular hcalm hrun
    | @offering _ data pending count sent hpieces hnext hpending hle hreads hgives =>
      have hoffer := hrun
      rw [step_run] at hoffer
      obtain ⟨hstore, ⟨houtlet, rfl⟩ | ⟨hsent, rfl⟩ | ⟨rfl, hsent, hwhy⟩⟩ :=
        offerOnce_ends rfl hoffer
      · exact .quiet (congrArg _ houtlet) hstore hstreams
      · exact .said (spoken_snoc ..) hsent hstore (.reading hnext hpending hle hreads hgives)
      · by_cases hleft : calm
        · obtain ⟨houtlet, hlarge⟩ := hwhy (hcalm hleft)
          exact .quiet (congrArg _ houtlet) hstore
            (.stuck rfl hpieces ⟨data, _, hnext, hlarge⟩ hreads)
        · rcases hsent with hsent | hsent
          · exact .quiet hsent hstore (.halted hleft rfl hpieces nofun hreads)
          · exact .said (spoken_snoc ..) hsent hstore (.halted hleft rfl hnext nofun hreads)
    | ending hpieces hreads =>
      have hoffer := hrun
      rw [step_run] at hoffer
      obtain ⟨hstore, ⟨houtlet, rfl⟩ | ⟨hsent, rfl⟩ | ⟨rfl, hsent, hwhy⟩⟩ :=
        offerOnce_ends rfl hoffer
      · exact .quiet (congrArg _ houtlet) hstore hstreams
      · exact .said (spoken_done ..) hsent hstore (.finished hpieces hreads)
      · have hleft : ¬calm := fun hleft ↦
          absurd (hwhy (hcalm hleft)).2 (Nat.not_lt.2 hregular.ending_fits)
        rcases hsent with hsent | hsent
        · exact .quiet hsent hstore (.halted hleft rfl hpieces nofun hreads)
        · exact .said (spoken_done ..) hsent hstore
            (.halted hleft rfl hpieces (fun _ ↦ rfl) hreads)
    | @finished _ position sent isEnded hpieces hreads =>
      -- all has been said, and nothing more comes
      have hstop : (Producer.finished.advance range.requestId
          (Outlet.isCancelled world.outlet)).run world = (.stop, world) := rfl
      rw [step_of_advance hended rfl hstop] at hrun
      obtain ⟨-, rfl, rfl⟩ := run_inj hrun
      exact .quiet rfl rfl (.finished hpieces hreads)
    | stuck hend' => exact absurd hend' (by simp [hended])
    | halted _ hend' => exact absurd hend' (by simp [hended])

end Job

/-! ### A whole run -/

/-- **What may happen while a range is streamed**: the job takes a step, something goes on its way,
the connection goes bad or recovers, other faults let reads give something, the side is told to
stop. No message comes in between. -/
inductive Moment.IsAside : Moment → Prop where
  | work : IsAside .work
  | transmit : IsAside (.meets .transmit)
  | connection (isUp : Bool) : IsAside (.meets (.connection isUp))
  | faults {faults : List Fault} (h : Fault.Giving faults) : IsAside (.meets (.faults faults))
  | cancel : IsAside .cancel

/-- **A moment in which the side is left alone**: the connection does not go bad, and nobody tells
the side to stop. -/
def Moment.IsCalm (moment : Moment) : Prop :=
  moment ≠ .cancel ∧ moment ≠ .meets (.connection false)

instance : DecidablePred Moment.IsCalm := fun moment ↦ by
  unfold Moment.IsCalm
  infer_instance

namespace Side

/-- **A side that streams a range**: what it has said since some moment, which calls it has made,
and what its job is at. -/
structure Streams (start side : Side) (calm : Prop) (range : ServedRange) (url : String)
    (server : FileServer) (job : Job) (pieces : List ByteArray) (done : Bool)
    (log : List (Call × Answer)) : Prop where
  exchange : side.exchange =
    ⟨range.requestId, .responder (.download { server with job := some job })⟩
  streams : job.Streams calm range url (range.bytes side.world.store.fs) side.world.store log
    pieces done
  fs : side.world.store.fs = start.world.store.fs
  underway : side.world.outlet.underway =
    start.world.outlet.underway ++ spoken range.requestId pieces done
  logs : start.world.store.Logs side.world.store log
  leftAlone : calm → side.world.outlet.isUp = true ∧ side.world.outlet.isCancelled = false
  stands : calm → ∃ said, job.Stands range.requestId .download said

variable {start side : Side} {calm : Prop} {range : ServedRange} {url : String}
variable {server : FileServer} {job : Job} {pieces : List ByteArray} {done : Bool}
variable {log : List (Call × Answer)}

/-- **A step of the job** says or reads what follows, and brings the end nearer if there is room. -/
theorem Streams.work (h : Streams start side calm range url server job pieces done log)
    (hregular : range.IsRegular) : ∃ job' pieces' done' log',
      Streams start side.work calm range url server job' pieces' done' log' ∧
        (calm → job'.stepsLeft ≤
          job.stepsLeft - if Outlet.hasSpace side.world.outlet then 1 else 0) := by
  rcases hrun : job.step.run side.world with ⟨⟨status, job'⟩, world'⟩
  have hwork : side.work = ⟨side.settings, ⟨range.requestId,
      .responder (.download { server with job := some job' })⟩, world'⟩ :=
    work_of_run h.exchange rfl hrun
  obtain ⟨hfs, pieces', done', messages, calls, hspoken, hunderway, hlogs, hstreams⟩ :=
    h.streams.step rfl hregular h.leftAlone hrun
  obtain ⟨hup, hcancelled⟩ := Job.step_keeps_channel hrun
  have hgoes : calm → ∃ said, job'.Stands range.requestId .download said ∧ job'.stepsLeft ≤
      job.stepsLeft - if Outlet.hasSpace side.world.outlet then 1 else 0 := fun hcalm ↦ by
    obtain ⟨said, hstands⟩ := h.stands hcalm
    obtain ⟨⟨more, -, hstands'⟩, hleft⟩ :=
      hstands.step (h.leftAlone hcalm).1 (h.leftAlone hcalm).2 hrun
    exact ⟨_, hstands', hleft⟩
  rw [hwork]
  refine ⟨job', pieces', done', _, ⟨rfl, hfs ▸ hstreams, hfs.trans h.fs, ?_, h.logs.trans hlogs,
    fun hcalm ↦ ?_, fun hcalm ↦ ?_⟩, fun hcalm ↦ ?_⟩
  · rw [hunderway, h.underway, hspoken, List.append_assoc]
  · exact ⟨hup.trans (h.leftAlone hcalm).1, hcancelled.trans (h.leftAlone hcalm).2⟩
  · obtain ⟨said, hstands, -⟩ := hgoes hcalm
    exact ⟨said, hstands⟩
  · obtain ⟨said, -, hleft⟩ := hgoes hcalm
    exact hleft

/-- **Whatever else happens meanwhile** changes nothing of it. -/
theorem Streams.live (h : Streams start side calm range url server job pieces done log)
    {moment : Moment} (haside : moment.IsAside) (hwork : moment ≠ .work)
    (hcalm : calm → moment.IsCalm) :
    Streams start (side.live moment) calm range url server job pieces done log := by
  cases haside with
  | work => exact absurd rfl hwork
  | transmit =>
    have halike := side.alike_transmit
    refine ⟨h.exchange, h.streams, h.fs, ?_, h.logs, fun hleft ↦ ?_, h.stands⟩
    · exact (Channel.underway_transmit _).trans h.underway
    · exact ⟨halike.world.isUp.trans (h.leftAlone hleft).1,
        halike.world.isCancelled.trans (h.leftAlone hleft).2⟩
  | connection isUp =>
    refine ⟨h.exchange, h.streams, h.fs, h.underway, h.logs, fun hleft ↦ ?_, h.stands⟩
    cases isUp with
    | true => exact ⟨rfl, (h.leftAlone hleft).2⟩
    | false => exact absurd rfl (hcalm hleft).2
  | faults hgiving =>
    exact ⟨h.exchange, h.streams.withFaults hgiving, h.fs, h.underway,
      ⟨h.logs.calls, h.logs.tokens⟩, h.leftAlone, h.stands⟩
  | cancel =>
    exact ⟨h.exchange, h.streams, h.fs, h.underway, h.logs,
      fun hleft ↦ absurd rfl (hcalm hleft).1, h.stands⟩

/-- **In a whole run**, a side that streams a range goes on with it. -/
theorem Streams.liveAll (h : Streams start side calm range url server job pieces done log)
    (hregular : range.IsRegular) (moments : List Moment)
    (haside : ∀ moment ∈ moments, moment.IsAside)
    (hcalm : calm → ∀ moment ∈ moments, moment.IsCalm) : ∃ job' pieces' done' log',
      Streams start (side.liveAll moments) calm range url server job' pieces' done' log' ∧
        (calm → job'.stepsLeft ≤ job.stepsLeft - (side.rooms moments).count true) := by
  induction moments generalizing side job pieces done log with
  | nil => exact ⟨job, pieces, done, log, h, fun _ ↦ Nat.le_refl _⟩
  | cons moment rest ih =>
    obtain ⟨hfirst, hrest⟩ := List.forall_mem_cons.1 haside
    have hcalmRest : calm → ∀ moment ∈ rest, moment.IsCalm :=
      fun hleft moment hmem ↦ hcalm hleft moment (List.mem_cons_of_mem _ hmem)
    by_cases hwork : moment = .work
    · subst hwork
      obtain ⟨job', pieces', done', log', h', hleft⟩ := h.work hregular
      obtain ⟨job'', pieces'', done'', log'', h'', hcount⟩ := ih h' hrest hcalmRest
      refine ⟨job'', pieces'', done'', log'', h'', fun hleftAlone ↦ ?_⟩
      have hfirst := hleft hleftAlone
      have hothers := hcount hleftAlone
      rw [rooms, List.count_cons]
      cases hspace : Outlet.hasSpace side.world.outlet
      all_goals
        rw [hspace] at hfirst
        simp at hfirst ⊢
        omega
    · obtain ⟨job', pieces', done', log', h', hcount⟩ :=
        ih (h.live hfirst hwork fun hleft ↦ hcalm hleft moment List.mem_cons_self) hrest hcalmRest
      refine ⟨job', pieces', done', log', h', ?_⟩
      have hrooms : side.rooms (moment :: rest) = (side.live moment).rooms rest := by
        cases moment with
        | work => exact absurd rfl hwork
        | _ => rfl
      rwa [hrooms]

end Side

/-! ### The request -/

/-- **The bytes that a range asks for** of a file that was told to have a size: from the first to
the last one, as far as it was told to reach, and as far as there are any. -/
def ByteRange.wanted (range : ByteRange) (size : UInt64) (bytes : ByteArray) : ByteArray :=
  bytes.extract range.first.toNat (min (range.last.toNat + 1) size.toNat)

/-- **Nothing is left of a range** of an empty file, and behind the last byte of it. -/
def ByteRange.IsBeyond (range : ByteRange) (size : UInt64) : Prop :=
  size = 0 ∨ min range.last.toNat (size.toNat - 1) < range.first.toNat

instance (range : ByteRange) (size : UInt64) : Decidable (range.IsBeyond size) := by
  unfold ByteRange.IsBeyond
  infer_instance

namespace ByteRange

variable {range : ByteRange} {size : UInt64}

theorem clampRange_of_isBeyond (h : range.IsBeyond size) :
    clampRange range.first range.last size = none := by
  rw [clampRange_eq rfl, if_neg]
  rintro ⟨hsize, hle⟩
  rcases h with rfl | hlt
  · exact hsize rfl
  · omega

theorem clampRange_of_not_isBeyond (h : ¬range.IsBeyond size) :
    clampRange range.first range.last size =
      some (range.first.toNat, min range.last.toNat (size.toNat - 1)) := by
  rw [clampRange_eq rfl, if_pos]
  refine ⟨fun hzero ↦ h (.inl (UInt64.toNat_inj.1 hzero)), ?_⟩
  exact Nat.not_lt.1 fun hlt ↦ h (.inr hlt)

/-- Nothing is wanted of a range of which nothing is left. -/
theorem wanted_of_isBeyond (h : range.IsBeyond size) (bytes : ByteArray) :
    range.wanted size bytes = ByteArray.empty := by
  unfold wanted
  rw [ByteArray.extract_eq_empty_iff]
  rcases h with rfl | hlt
  · exact Nat.le_trans (Nat.min_le_left _ _) (Nat.le_trans (Nat.min_le_right _ _) (Nat.zero_le _))
  · omega

/-- What is wanted reaches up to the last byte that is left. -/
theorem wanted_of_not_isBeyond (h : ¬range.IsBeyond size) (bytes : ByteArray) :
    range.wanted size bytes =
      bytes.extract range.first.toNat (min range.last.toNat (size.toNat - 1) + 1) := by
  have hsize : size.toNat ≠ 0 := fun hzero ↦ h (.inl (UInt64.toNat_inj.1 hzero))
  unfold wanted
  congr 1
  omega

end ByteRange

/-- A job of a download says nothing when it is stopped. -/
theorem Job.stop_run_of_download {job : Job} {world : World Channel}
    (h : job.producer.IsFor .download ∨ job.producer = .finished) :
    job.stop.run world = ((), world) := by
  refine stop_run_of_range fun _ ↦ h.imp_left fun hfor ↦ ?_
  generalize job.producer = producer at hfor ⊢
  cases hfor with
  | range source => exact ⟨source, rfl⟩

namespace Side

variable {requestId : String} {range : ByteRange} {server : FileServer} {side : Side}

/-- **A request for a range is taken** by the responder of a download, and nothing is told but what
it does. -/
theorem process_of_serve_run {server' : FileServer} {result : Except ExchangeError Unit}
    {mid : World Channel}
    (hexchange : side.exchange = ⟨requestId, .responder (.download server)⟩)
    (hserve : (server.serve side.settings requestId (downloadRequest requestId range)).run
      side.world = ((result, server'), mid))
    (hresult : result = .ok () ∨ ∃ cause, result = .error (.session cause)) :
    side.process (downloadRequest requestId range) =
      ⟨side.settings, ⟨requestId, .responder (.download server')⟩, mid⟩ := by
  have hcheck : side.exchange.check (downloadRequest requestId range) = .ok .downloadDataReq := by
    rw [hexchange]
    exact Exchange.check_eq_ok rfl (Message.command?_of ..) rfl rfl
  have hstate : (Responder.handle side.settings requestId .downloadDataReq
      (downloadRequest requestId range) (.download server)).run side.world =
        ((result, .download server'), mid) := (run_bind_of_run hserve).trans rfl
  have hhandle : (side.exchange.handle side.settings .downloadDataReq
      (downloadRequest requestId range)).run side.world =
        ((result, ⟨requestId, .responder (.download server')⟩), mid) := by
    rw [hexchange]
    exact (run_bind_of_run hstate).trans rfl
  rw [process_eq hcheck, hhandle, hexchange]
  rcases hresult with rfl | ⟨cause, rfl⟩ <;> rfl

/-- **A range of which nothing is left** is answered with the end message, and with no call. -/
theorem process_of_isBeyond {file : FileId}
    (hexchange : side.exchange = ⟨requestId, .responder (.download server)⟩)
    (hjob : (Listing.stopJob server.job : WorldM Channel Unit).run side.world = ((), side.world))
    (hfile : server.file = some file)
    (hend : (downloadEnd requestId).payload.size ≤ Header.maxPayload)
    (hbeyond : range.IsBeyond server.size) :
    let asked := side.process (downloadRequest requestId range)
    asked.exchange = ⟨requestId, .responder (.download { server with job := none })⟩ ∧
      asked.world.store = side.world.store ∧
      asked.world.outlet.underway = side.world.outlet.underway ++ [downloadEnd requestId] := by
  intro asked
  have hserve := @FileServer.serve_run requestId server side.settings
    (downloadRequest requestId range) range file side.world rfl hfile hjob
  rw [ByteRange.clampRange_of_isBeyond hbeyond] at hserve
  rcases hsend : (World.send (downloadEnd requestId)).run.run side.world with ⟨result, mid⟩
  rw [hsend] at hserve
  have hresult : result = .ok () ∨ ∃ cause, result = .error (.session cause) := by
    cases result with
    | ok _ => exact .inl rfl
    | error error =>
      obtain ⟨cause, rfl⟩ := World.send_error hsend
      exact .inr ⟨cause, rfl⟩
  have hasked : asked = _ := process_of_serve_run hexchange hserve hresult
  rw [hasked]
  -- the end message makes a packet, so it is queued even if the connection is bad
  have hmid : mid = { side.world with outlet := { side.world.outlet with
      queued := side.world.outlet.queued ++ [downloadEnd requestId] } } := by
    have hpacket : ∃ packet, Packet.ofMessage (downloadEnd requestId) = .ok packet :=
      ⟨_, if_neg (Nat.not_lt.2 hend)⟩
    obtain ⟨packet, hpacket⟩ := hpacket
    rw [World.send_run] at hsend
    unfold Outlet.send Channel.outlet at hsend
    dsimp only at hsend
    rw [hpacket] at hsend
    exact (Prod.mk.inj hsend).2.symm
  rw [hmid]
  exact ⟨rfl, rfl, (List.append_assoc ..).symm⟩

/-- A side whose job has ended, or that has none, says nothing more, and makes no call. -/
theorem liveAll_of_isQuiet
    (hexchange : side.exchange = ⟨requestId, .responder (.download server)⟩)
    (hquiet : server.IsQuiet) (moments : List Moment)
    (haside : ∀ moment ∈ moments, moment.IsAside) :
    (side.liveAll moments).world.outlet.underway = side.world.outlet.underway ∧
      (side.liveAll moments).world.store.calls = side.world.store.calls ∧
      (side.liveAll moments).world.store.fs = side.world.store.fs := by
  induction moments generalizing side with
  | nil => exact ⟨rfl, rfl, rfl⟩
  | cons moment rest ih =>
    obtain ⟨hfirst, hrest⟩ := List.forall_mem_cons.1 haside
    change ((side.live moment).liveAll rest).world.outlet.underway = _ ∧
      ((side.live moment).liveAll rest).world.store.calls = _ ∧
      ((side.live moment).liveAll rest).world.store.fs = _
    cases hfirst with
    | work =>
      have hsame : side.live .work = side := work_of_isQuiet hexchange hquiet
      rw [hsame]
      exact ih hexchange hrest
    | transmit =>
      obtain ⟨hunderway, hcalls, hfs⟩ := @ih (side.onChannel Channel.transmit) hexchange hrest
      exact ⟨hunderway.trans (Channel.underway_transmit _), hcalls, hfs⟩
    | connection isUp => exact @ih (side.onChannel ({ · with isUp })) hexchange hrest
    | @faults faults => exact @ih (side.withFaults faults) hexchange hrest
    | cancel => exact @ih (side.onChannel ({ · with isCancelled := true })) hexchange hrest

/-- **A range that is not empty** is sought, and a job begins with its first byte. -/
theorem process_of_not_isBeyond {file : FileId} {content position answer : Nat} {store : Store}
    {calm : Prop} (hexchange : side.exchange = ⟨requestId, .responder (.download server)⟩)
    (hjob : (Listing.stopJob server.job : WorldM Channel Unit).run side.world = ((), side.world))
    (hfile : server.file = some file) (hreads : side.world.store.Reads file content position)
    (hgiving : Fault.Giving side.world.store.faults) (hbeyond : ¬range.IsBeyond server.size)
    (hseek : (Share.seek file range.first).run.run side.world.store = (.ok answer, store))
    (hcalm : calm → side.world.outlet.isUp = true ∧ side.world.outlet.isCancelled = false) :
    let url := (Share.fileOf side.world.store file).url
    let last := min range.last.toNat (server.size.toNat - 1)
    let served : ServedRange := ⟨requestId, file, content, range.first.toNat, last,
      FileServer.chunkSize side.settings range, max 1 side.settings.readBuffer⟩
    let job := Job.start .responder .download requestId
      (.range (served.source 0 ByteArray.empty)) 0
    let asked := side.process (downloadRequest requestId range)
    Streams asked asked calm served url server job [] false [] ∧
      asked.world.outlet.underway = side.world.outlet.underway ∧
      asked.world.store.fs = side.world.store.fs ∧
      side.world.store.Logs asked.world.store
        [(⟨.seek, url, .number range.first.toNat⟩, .number range.first.toNat)] := by
  intro url last served job asked
  have hserve := @FileServer.serve_run requestId server side.settings
    (downloadRequest requestId range) range file side.world rfl hfile hjob
  rw [ByteRange.clampRange_of_not_isBeyond hbeyond] at hserve
  dsimp only at hserve
  rw [UInt64.ofNat_toNat, hseek] at hserve
  have hasked : asked = ⟨side.settings,
      ⟨requestId, .responder (.download { server with job := some job })⟩,
      { side.world with store }⟩ := process_of_serve_run hexchange hserve (.inl rfl)
  obtain ⟨hfs, hgives, hlogs⟩ := hreads.gives_of_seek hgiving hseek
  have hstreams : job.Streams calm served url (served.bytes store.fs) store [] [] false :=
    .reading (.nil _ _) (ByteArray.extract_same).symm (Nat.zero_le _) .nil hgives
  have hstands : job.Stands requestId .download [] :=
    .working (.range _ (Nat.ne_of_gt (Nat.le_max_left 1 _))) nofun nofun
  rw [hasked]
  refine ⟨⟨rfl, hstreams, rfl, ?_, .refl _, hcalm, fun _ ↦ ⟨[], hstands⟩⟩, rfl, hfs, hlogs⟩
  exact (List.append_nil _).symm

/-- **A range of a file is streamed**, whatever the size of the file was when it was opened and is
now, wherever the range begins and ends, however much may be said or read at once, and whatever a
read gives as long as that is something. After the request, and whatever happens aside, what has been
said are pieces of what is wanted, from its first byte on, none of them empty or longer than a chunk,
and behind all of it one end message. The calls that have been made are the one that seeks the first
byte, and reads in a row that ask for no byte outside of the range. If nothing is left of the range,
no call is made, and the end message is told at once.

A side that is left alone comes to the end message once there has been room often enough, unless it
is stuck with a piece that makes no packet. -/
theorem range_streamed {file : FileId} {content position : Nat}
    (hexchange : side.exchange = ⟨requestId, .responder (.download server)⟩)
    (hjob : ∀ job, server.job = some job →
      job.producer.IsFor .download ∨ job.producer = .finished)
    (hfile : server.file = some file) (hreads : side.world.store.Reads file content position)
    (hgiving : Fault.Giving side.world.store.faults)
    (hseek : ¬range.IsBeyond server.size → ∃ answer store,
      (Share.seek file range.first).run.run side.world.store = (.ok answer, store))
    (hend : (downloadEnd requestId).payload.size ≤ Header.maxPayload)
    (moments : List Moment) (haside : ∀ moment ∈ moments, moment.IsAside) :
    let wanted := range.wanted server.size (side.world.store.fs.bytesOf (.file content))
    let chunkSize := FileServer.chunkSize side.settings range
    let url := (Share.fileOf side.world.store file).url
    let asked := side.process (downloadRequest requestId range)
    let later := asked.liveAll moments
    ∃ (pieces : List ByteArray) (done : Bool) (log : List (Call × Answer)),
      later.world.outlet.underway = side.world.outlet.underway ++
        (pieces.map (Producer.downloadMessage requestId) ++
          if done then [downloadEnd requestId] else []) ∧
      (∀ piece ∈ pieces, piece.size ≠ 0 ∧ piece.size ≤ chunkSize) ∧
      pieces.flatMap (·.data.toList) <+: wanted.data.toList ∧
      (done = true → pieces.flatMap (·.data.toList) = wanted.data.toList) ∧
      later.world.store.fs = side.world.store.fs ∧
      later.world.store.calls.toList = side.world.store.calls.toList ++ log ∧
      (range.IsBeyond server.size → pieces = [] ∧ done = true ∧ log = []) ∧
      (¬range.IsBeyond server.size →
        let last := min range.last.toNat (server.size.toNat - 1)
        server.size ≠ 0 ∧ ∃ reads position',
          log = (⟨.seek, url, .number range.first.toNat⟩, .number range.first.toNat) :: reads ∧
          Reading url range.first.toNat last position' reads) ∧
      (side.world.outlet.isUp = true → side.world.outlet.isCancelled = false →
        (∀ moment ∈ moments, moment.IsCalm) →
        3 * server.size.toNat + 3 ≤ (asked.rooms moments).count true →
          done = true ∨ Stuck requestId wanted chunkSize pieces) := by
  intro wanted chunkSize url asked later
  have hstop : (Listing.stopJob server.job : WorldM Channel Unit).run side.world =
      ((), side.world) := by
    cases hsome : server.job with
    | none => rfl
    | some job => exact Job.stop_run_of_download (hjob job hsome)
  by_cases hbeyond : range.IsBeyond server.size
  · have hwanted : wanted = ByteArray.empty := ByteRange.wanted_of_isBeyond hbeyond _
    obtain ⟨hasked, hstore, hunderway⟩ :=
      process_of_isBeyond hexchange hstop hfile hend hbeyond
    obtain ⟨hlater, hcalls, hfs⟩ :=
      liveAll_of_isQuiet hasked (FileServer.isQuiet_of_none rfl) moments haside
    refine ⟨[], true, [], hlater.trans hunderway, nofun, List.nil_prefix, fun _ ↦ ?_,
      hfs.trans (congrArg _ hstore), ?_, fun _ ↦ ⟨rfl, rfl, rfl⟩, fun hnot ↦ absurd hbeyond hnot,
      fun _ _ _ _ ↦ .inl rfl⟩
    · rw [hwanted]
      rfl
    · rw [List.append_nil]
      exact congrArg Array.toList (hcalls.trans (congrArg _ hstore))
  · obtain ⟨answer, store, hsought⟩ := hseek hbeyond
    have hsize : server.size ≠ 0 := fun hzero ↦ hbeyond (.inl hzero)
    let last := min range.last.toNat (server.size.toNat - 1)
    let served : ServedRange := ⟨requestId, file, content, range.first.toNat, last, chunkSize,
      max 1 side.settings.readBuffer⟩
    let calm := side.world.outlet.isUp = true ∧ side.world.outlet.isCancelled = false ∧
      ∀ moment ∈ moments, moment.IsCalm
    have hlast : last + 1 ≤ server.size.toNat := by
      have : server.size.toNat ≠ 0 := fun hzero ↦ hsize (UInt64.toNat_inj.1 hzero)
      omega
    have hregular : served.IsRegular :=
      ⟨Nat.ne_of_gt (Nat.le_max_left 1 _), Nat.ne_of_gt (Nat.le_max_left 1 _),
        Nat.lt_of_le_of_lt hlast server.size.toNat_lt, hend⟩
    obtain ⟨hstart, hquiet, hfs, hlogs⟩ := process_of_not_isBeyond hexchange hstop hfile
      hreads hgiving hbeyond hsought (fun h : calm ↦ ⟨h.1, h.2.1⟩)
    obtain ⟨job, pieces, done, reads, hstreams, hleft⟩ :=
      hstart.liveAll hregular moments haside fun h ↦ h.2.2
    have hwanted : served.bytes later.world.store.fs = wanted := by
      rw [hstreams.fs, hfs]
      exact (ByteRange.wanted_of_not_isBeyond hbeyond _).symm
    have hjob' := hwanted ▸ hstreams.streams
    obtain ⟨count, position', hpieces, hdone, hreading⟩ := hjob'.exists_pieces
    refine ⟨pieces, done, _ :: reads, ?_, hpieces.each, hpieces.isPrefix,
      fun h ↦ hpieces.eq_of_eq_size (hdone h), hstreams.fs.trans hfs, ?_,
      fun h ↦ absurd h hbeyond, fun _ ↦ ⟨hsize, reads, position', rfl, hreading⟩,
      fun hup hgoes hcalm henough ↦ ?_⟩
    · rw [hstreams.underway, hquiet]
      rfl
    · rw [hstreams.logs.calls, hlogs.calls, List.append_assoc]
      rfl
    · -- a job that has used up all its steps has ended
      have hended : job.isEnded = true := by
        by_contra hgoing
        have hpos := job.producer.stepsLeft_pos
        have hcount : job.stepsLeft ≤ 2 * 0 + 3 * (last + 1 - (range.first.toNat + 0)) + 3 + 0 -
            (asked.rooms moments).count true := hleft ⟨hup, hgoes, hcalm⟩
        rw [Job.stepsLeft, if_neg hgoing] at hcount
        omega
      exact hjob'.of_isEnded ⟨hup, hgoes, hcalm⟩ hended

/-- A responder of a download that has opened a file, which was told to have a size. -/
def ofOpenFile (settings : TransferSettings) (bytes : ByteArray) (size : UInt64)
    (faults : List Fault) : Side where
  settings := settings
  exchange := ⟨"7", .responder (.download ⟨some ⟨0⟩, size, none⟩)⟩
  world := {
    outlet := .empty 2
    store := {
      fs := ⟨[(["srv".toUTF8], .directory 0), (["srv".toUTF8, "big".toUTF8], .file 0)],
        #[⟨bytes, 0⟩], 0⟩
      root := []
      faults
      calls := #[]
      files := #[⟨"srv/big", "big".toUTF8, 0, .read, 0, true⟩]
      tokens := 0 }
    hasShares := true
    workDir := []
    outcome := none }

/-- A file of five bytes that was told to have nine. The first read gives one byte. -/
def shrunkFile : Side :=
  ofOpenFile ⟨3, 1, 4, default⟩ ⟨#[10, 11, 12, 13, 14]⟩ 9
    [⟨.read, "big", 0, some 1, ⟨none, some 1⟩⟩]

/-- The job works, and whatever it has queued goes on its way. -/
def shrunkMoments : List Moment :=
  (List.replicate 30 [.work, .meets .transmit]).flatten

theorem range_streamed_shrunkFile :
    let range : ByteRange := ⟨1, 0xffffffffffffffff, 2⟩
    let later := (shrunkFile.process (downloadRequest "7" range)).liveAll shrunkMoments
    (∀ moment ∈ shrunkMoments, moment.IsAside) ∧
    shrunkFile.world.store.Reads ⟨0⟩ 0 0 ∧ Fault.Giving shrunkFile.world.store.faults ∧
    ((Share.seek ⟨0⟩ 1).run.run shrunkFile.world.store).1.isOk = true ∧
    (downloadEnd "7").payload.size ≤ Header.maxPayload ∧
    later.world.outlet.underway.map (·.command?) = [some .downloadDataResp,
      some .downloadDataResp, some .downloadDataResp, some .downloadEndResp] ∧
    ∃ pieces : List ByteArray, later.world.outlet.underway =
        pieces.map (Producer.downloadMessage "7") ++ [downloadEnd "7"] ∧
      (∀ piece ∈ pieces, piece.size ≠ 0 ∧ piece.size ≤ 2) ∧
      pieces.flatMap (·.data.toList) = [11, 12, 13, 14] := by
  intro range later
  have haside : ∀ moment ∈ shrunkMoments, moment.IsAside := by
    have hmoments : ∀ moment ∈ shrunkMoments, moment = .work ∨ moment = .meets .transmit := by
      decide +kernel
    intro moment hmem
    rcases hmoments moment hmem with rfl | rfl
    · exact .work
    · exact .transmit
  have hreads : shrunkFile.world.store.Reads ⟨0⟩ 0 0 := ⟨by decide, rfl, rfl, rfl⟩
  have hgiving : Fault.Giving shrunkFile.world.store.faults := by decide
  have hseek : ((Share.seek ⟨0⟩ 1).run.run shrunkFile.world.store).1.isOk = true := by
    decide +kernel
  have hend : (downloadEnd "7").payload.size ≤ Header.maxPayload := by decide +kernel
  have hcommands : later.world.outlet.underway.map (·.command?) = [some .downloadDataResp,
      some .downloadDataResp, some .downloadDataResp, some .downloadEndResp] := by
    decide +kernel
  have hsought : ∃ answer store,
      (Share.seek ⟨0⟩ range.first).run.run shrunkFile.world.store = (.ok answer, store) := by
    rcases hrun : (Share.seek ⟨0⟩ 1).run.run shrunkFile.world.store with ⟨error | answer, store⟩
    · rw [hrun] at hseek
      cases hseek
    · exact ⟨answer, store, rfl⟩
  obtain ⟨pieces, done, log, hunderway, heach, -, hall, -⟩ :=
    @range_streamed "7" range ⟨some ⟨0⟩, 9, none⟩ shrunkFile ⟨0⟩ 0 0 rfl
      (fun _ hsome ↦ by cases hsome) rfl hreads hgiving (fun _ ↦ hsought) hend shrunkMoments
      haside
  have hchunk : FileServer.chunkSize shrunkFile.settings range = 2 := by decide
  have hwanted : (range.wanted 9 (shrunkFile.world.store.fs.bytesOf (.file 0))).data.toList =
      [11, 12, 13, 14] := by
    decide +kernel
  have hnothing : shrunkFile.world.outlet.underway = [] := rfl
  rw [hnothing, List.nil_append] at hunderway
  cases done with
  | true =>
    rw [hchunk] at heach
    exact ⟨haside, hreads, hgiving, hseek, hend, hcommands, pieces, hunderway, heach,
      (hall rfl).trans hwanted⟩
  | false =>
    -- the end message is no piece
    have hmem : some Command.downloadEndResp ∈ later.world.outlet.underway.map (·.command?) := by
      rw [hcommands]
      decide
    rw [hunderway] at hmem
    simp [Producer.downloadMessage] at hmem

/-! ### A piece that makes no packet -/

/-- **A job that reads a piece as long as a payload may be, and cuts it into no smaller ones,** ends
in three steps and says nothing. -/
theorem work_of_large_piece {requestId : String} {side : Side} {server : FileServer}
    {source : RangeSource} {data : ByteArray} {store : Store}
    (hexchange : side.exchange = ⟨requestId, .responder (.download { server with
      job := some (.start .responder .download requestId (.range source) 0) })⟩)
    (hpending : source.pending.size = 0) (hposition : source.position ≤ source.last)
    (hchunk : Header.maxPayload ≤ source.chunkSize)
    (hread : (Share.read source.file (min (source.last - source.position + 1)
      source.readSize)).run.run side.world.store = (.ok data, store))
    (hlarge : Header.maxPayload ≤ data.size) (hgoes : side.world.outlet.isCancelled = false)
    (hspace : Outlet.hasSpace side.world.outlet = true) :
    ∃ job : Job, job.isEnded = true ∧ side.work.work.work = ⟨side.settings,
      ⟨requestId, .responder (.download { server with job := some job })⟩,
      { side.world with store }⟩ := by
  obtain ⟨reading, offering, hreads, hcuts, hends⟩ :=
    Job.steps_of_large_piece requestId hpending hposition hchunk hgoes hread hlarge
  let next (job : Job) : Side := ⟨side.settings,
    ⟨requestId, .responder (.download { server with job := some job })⟩, { side.world with store }⟩
  have hfirst : side.work = next reading := work_of_run hexchange rfl hreads
  have hsecond : (next reading).work = next offering := work_of_run rfl rfl (hcuts _)
  have hthird : (next offering).work = next offering.ended :=
    work_of_run rfl rfl (hends _ hgoes hspace)
  rw [hfirst, hsecond, hthird]
  exact ⟨_, rfl, rfl⟩

/-- A file that is as long as a payload may be. -/
def largeFile : ByteArray := ⟨Array.replicate Header.maxPayload 7⟩

/-- **A range that is read and sent in one piece as long as a payload may be** is never sent. After
the three steps in which the job reads the piece, cuts it and offers it, nothing has been said, and
nothing ever is, although nothing has failed and there is room. -/
theorem large_piece_untold :
    let side := ofOpenFile ⟨Header.maxPayload, 4096, 4096, default⟩ largeFile 0x1000000 []
    let range : ByteRange := ⟨0, 0xffffff, 0x1000000⟩
    let asked := side.process (downloadRequest "7" range)
    range.wanted 0x1000000 (side.world.store.fs.bytesOf (.file 0)) = largeFile ∧
    FileServer.chunkSize side.settings range = Header.maxPayload ∧
    side.world.store.faults = [] ∧ side.world.outlet.isUp = true ∧
    side.world.outlet.isCancelled = false ∧ Outlet.hasSpace side.world.outlet = true ∧
    ∀ moments : List Moment, (∀ moment ∈ moments, moment.IsAside) →
      (asked.liveAll (.work :: .work :: .work :: moments)).world.outlet.underway = [] := by
  -- only the size of the file matters, and it is never written out
  have hsize : largeFile.size = Header.maxPayload := Array.size_replicate
  generalize largeFile = bytes at hsize
  intro side range asked
  let server : FileServer := ⟨some ⟨0⟩, 0x1000000, none⟩
  let sought := ((Share.seek ⟨0⟩ 0).run.run side.world.store).2
  let source : RangeSource :=
    ⟨⟨0⟩, 0, 0xffffff, FileServer.chunkSize side.settings range, Header.maxPayload,
      ByteArray.empty⟩
  have hchunk : FileServer.chunkSize side.settings range = Header.maxPayload := by
    show FileServer.chunkSize ⟨Header.maxPayload, 4096, 4096, default⟩ ⟨0, 0xffffff, 0x1000000⟩ = _
    decide +kernel
  have hplace : min ((0xffffff : UInt64).toNat + 1) (0x1000000 : UInt64).toNat =
      Header.maxPayload := by decide +kernel
  have hclamp : clampRange 0 0xffffff 0x1000000 = some (0, 0xffffff) := by decide +kernel
  have hwanted : range.wanted 0x1000000 (side.world.store.fs.bytesOf (.file 0)) = bytes := by
    show bytes.extract 0 (min ((0xffffff : UInt64).toNat + 1) (0x1000000 : UInt64).toNat) = bytes
    rw [hplace, ← hsize, ByteArray.extract_zero_size]
  refine ⟨hwanted, hchunk, rfl, rfl, rfl, rfl, fun moments haside ↦ ?_⟩
  have hserve := @FileServer.serve_run "7" server side.settings (downloadRequest "7" range) range
    ⟨0⟩ side.world rfl rfl rfl
  dsimp only [range, server] at hserve
  rw [hclamp] at hserve
  have hseek : (Share.seek ⟨0⟩ (UInt64.ofNat 0)).run.run side.world.store = (.ok 0, sought) := rfl
  dsimp only at hserve
  rw [hseek] at hserve
  have hasked : asked = ⟨side.settings, ⟨"7", .responder (.download { server with
      job := some (.start .responder .download "7" (.range source) 0) })⟩,
      { side.world with store := sought }⟩ := process_of_serve_run rfl hserve (.inl rfl)
  have hread : (Share.read ⟨0⟩ Header.maxPayload).run.run sought =
      (.ok (sought.fs.read 0 0 Header.maxPayload),
        ((Share.read ⟨0⟩ Header.maxPayload).run.run sought).2) := rfl
  have hlarge : Header.maxPayload ≤ (sought.fs.read 0 0 Header.maxPayload).size := by
    rw [FileSystem.read_eq_extract, ByteArray.size_extract]
    show Header.maxPayload ≤ min (0 + Header.maxPayload) bytes.size - 0
    omega
  obtain ⟨job, hended, hlater⟩ := @work_of_large_piece "7" ⟨side.settings, ⟨"7",
      .responder (.download { server with
        job := some (.start .responder .download "7" (.range source) 0) })⟩,
      { side.world with store := sought }⟩ server source _ _ rfl rfl (Nat.zero_le _)
    (Nat.le_of_eq hchunk.symm) hread hlarge rfl rfl
  have hquiet : FileServer.IsQuiet { server with job := some job } := by
    rintro other ⟨⟩
    exact hended
  rw [← hasked] at hlater
  have hthree : ∀ side : Side, side.liveAll (.work :: .work :: .work :: moments) =
      side.work.work.work.liveAll moments := fun _ ↦ rfl
  rw [hthree, hlater]
  exact (liveAll_of_isQuiet rfl hquiet moments haside).1

end Side

end FileShare
