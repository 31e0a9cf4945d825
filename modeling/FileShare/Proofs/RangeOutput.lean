import FileShare.Proofs.Pages

/-!
# What is said of a range

A job that serves a range may be stopped at any time, and it may fail. Whatever it has queued until
then is the front of an output of its range (`ServedRange.IsFront`): pieces that follow on each
other from the first byte on, and then the end message or one that tells a failure
(`ServedRange.IsOutput`).

`Job.Tells` says this of a job together with what it has queued so far. One step of the job
preserves it (`Job.Tells.step`), and so does anything else that leaves the open files as they are
(`Job.Tells.leaves`). The end message stands behind the whole range if all reads come to something.
After a read that comes to nothing, it stands behind the front that has been read.

A job moves the file that it reads, and no other one; all open files stay the files that they are
(`Store.Retains`). What opens a file or looks at one moves none at all (`Store.Leaves`).
-/

namespace FileShare

/-! ### Open files -/

/-- **Every open file is still the same file**; others may have been opened, and positions may have
moved. -/
structure Store.Retains (store store' : Store) : Prop where
  fs : store'.fs = store.fs
  files : ∀ file : FileId, file.index < store.files.size → file.index < store'.files.size ∧
    (Share.fileOf store' file).mode = (Share.fileOf store file).mode ∧
    (Share.fileOf store' file).content = (Share.fileOf store file).content

/-- **Every open file is as it was**; others may have been opened. -/
structure Store.Leaves (store store' : Store) : Prop where
  fs : store'.fs = store.fs
  files : ∀ file : FileId, file.index < store.files.size → file.index < store'.files.size ∧
    Share.fileOf store' file = Share.fileOf store file

/-- A file is open for reading, and this was its size. -/
def Store.Opened (store : Store) (file : FileId) (size : UInt64) : Prop :=
  ∃ content position, store.Reads file content position ∧
    size = UInt64.ofNat (store.fs.bytesOf (.file content)).size

namespace Store

variable {store store' store'' : Store} {file : FileId} {size : UInt64} {content position : Nat}

theorem Leaves.retains (h : store.Leaves store') : store.Retains store' where
  fs := h.fs
  files file hfile := by
    obtain ⟨hlt, hsame⟩ := h.files file hfile
    exact ⟨hlt, by rw [hsame], by rw [hsame]⟩

theorem Leaves.of_files (hfs : store'.fs = store.fs) (hfiles : store'.files = store.files) :
    store.Leaves store' where
  fs := hfs
  files file hfile := by
    unfold Share.fileOf
    rw [hfiles]
    exact ⟨hfile, rfl⟩

theorem Leaves.refl (store : Store) : store.Leaves store :=
  .of_files rfl rfl

theorem Leaves.of_push {openFile : OpenFile} (hfs : store'.fs = store.fs)
    (hfiles : store'.files = store.files.push openFile) : store.Leaves store' where
  fs := hfs
  files file hfile := by
    unfold Share.fileOf
    rw [hfiles, Array.size_push, Array.getElem?_push_lt hfile, Array.getElem?_eq_getElem hfile]
    exact ⟨by omega, rfl⟩

/-- The record of one file has been replaced. -/
theorem Retains.of_set {openFile : OpenFile} (hfs : store'.fs = store.fs)
    (hfiles : store'.files = store.files.set! file.index openFile)
    (hmode : openFile.mode = (Share.fileOf store file).mode)
    (hcontent : openFile.content = (Share.fileOf store file).content) :
    store.Retains store' where
  fs := hfs
  files other hother := by
    have hsize : store'.files.size = store.files.size := by
      rw [hfiles, Array.set!_eq_setIfInBounds, Array.size_setIfInBounds]
    refine ⟨hsize ▸ hother, ?_⟩
    by_cases hsame : other = file
    · subst hsame
      have hfile : Share.fileOf store' other = openFile := by
        unfold Share.fileOf
        rw [hfiles]
        simp [hother]
      rw [hfile]
      exact ⟨hmode, hcontent⟩
    · have hfile : Share.fileOf store' other = Share.fileOf store other := by
        have hsame := @Share.fileOf_setFile_of_ne store file other openFile hsame
        unfold Share.fileOf Share.setFile at hsame
        unfold Share.fileOf
        rw [hfiles]
        exact hsame
      rw [hfile]
      exact ⟨rfl, rfl⟩

theorem Reads.leaves (h : store.Reads file content position) (hleaves : store.Leaves store') :
    store'.Reads file content position := by
  obtain ⟨hlt, hsame⟩ := hleaves.files file h.inRange
  exact ⟨hlt, hsame ▸ h.mode, hsame ▸ h.content, hsame ▸ h.position⟩

theorem Reads.retains (h : store.Reads file content position) (hretains : store.Retains store') :
    ∃ position', store'.Reads file content position' := by
  obtain ⟨hlt, hmode, hcontent⟩ := hretains.files file h.inRange
  exact ⟨_, hlt, hmode.trans h.mode, hcontent.trans h.content, rfl⟩

theorem Opened.retains (h : store.Opened file size) (hretains : store.Retains store') :
    store'.Opened file size := by
  obtain ⟨content, position, hreads, hsize⟩ := h
  obtain ⟨position', hreads'⟩ := hreads.retains hretains
  exact ⟨content, position', hreads', by rw [hretains.fs]; exact hsize⟩

theorem Opened.inRange (h : store.Opened file size) : file.index < store.files.size := by
  obtain ⟨_, _, hreads, -⟩ := h
  exact hreads.inRange

end Store

namespace Share

variable {store store' : Store} {file : FileId}

theorem retains_read {size : Nat} {result : Except ShareError ByteArray}
    (hmode : (fileOf store file).mode = .read)
    (h : (read file size).run.run store = (result, store')) : store.Retains store' := by
  rcases read_cases hmode h with ⟨-, hrecords⟩ | ⟨count, -, -, -, hrecords⟩
  · exact (Store.Leaves.of_files hrecords.fs hrecords.files).retains
  · exact .of_set hrecords.fs hrecords.files rfl rfl

theorem retains_seek {position : UInt64} {result : Except ShareError Nat}
    (h : (seek file position).run.run store = (result, store')) : store.Retains store' := by
  rcases seek_cases h with ⟨-, hrecords⟩ | hrecords
  · exact (Store.Leaves.of_files hrecords.fs hrecords.files).retains
  · exact .of_set hrecords.fs hrecords.files rfl rfl

/-- **A file is opened behind those that are open.** -/
theorem leaves_openFile {url : String} {result : Except ShareError FileId}
    (h : (openFile url .read).run.run store = (result, store')) :
    store.Keeps store' ∧ store.Leaves store' ∧ ∀ file, result = .ok file →
      file.index = store.files.size ∧ ∃ content, store'.Reads file content 0 := by
  have hfruitful := fruitful_openFile h
  rcases openFile_read_cases h with ⟨⟨error, rfl⟩, hrecords⟩ |
    ⟨steps, content, -, -, rfl, hrecords⟩
  · exact ⟨hrecords.keeps hfruitful, .of_files hrecords.fs hrecords.files, nofun⟩
  · refine ⟨⟨hrecords.fs, hrecords.root, hfruitful⟩, .of_push hrecords.fs hrecords.files, ?_⟩
    rintro file ⟨⟩
    exact ⟨rfl, content, .ofOpen hrecords.files rfl rfl⟩

/-- **What is known about an open file is its size**, among other things. -/
theorem leaves_fileStat {result : Except ShareError Stat} {content position : Nat}
    (hreads : store.Reads file content position)
    (h : (fileStat file).run.run store = (result, store')) :
    store.Leaves store' ∧ ∀ stat, result = .ok stat → store'.Opened file stat.size := by
  obtain ⟨hrecords, hresult⟩ := fileStat_cases h
  have hleaves : store.Leaves store' := .of_files hrecords.fs hrecords.files
  refine ⟨hleaves, ?_⟩
  rintro stat rfl
  rcases hresult with ⟨error, herror⟩ | hstat
  · cases herror
  obtain rfl := Except.ok.inj hstat
  refine ⟨content, position, hreads.leaves hleaves, ?_⟩
  rw [hreads.content, hrecords.fs]
  show UInt64.ofNat (store.fs.contents[content]?.getD ⟨ByteArray.empty, 0⟩).bytes.size =
    UInt64.ofNat ((store.fs.contents[content]?.map (·.bytes)).getD ByteArray.empty).size
  cases store.fs.contents[content]? <;> rfl

end Share

/-! ### The output of a range -/

section Streams

variable {carrier : Carrier} {whole : Prop} {bytes : ByteArray} {count count' : Nat} {done : Bool}
variable {messages : List Message}

theorem Stream.le (h : Stream carrier whole bytes count count' done messages) : count ≤ count' := by
  induction h with
  | nil => exact Nat.le_refl _
  | ending => exact Nat.le_refl _
  | piece _ _ _ ih => omega

theorem Stream.le_size (h : Stream carrier whole bytes count count' done messages)
    (hle : count ≤ bytes.size) : count' ≤ bytes.size := by
  induction h with
  | nil => exact hle
  | ending => exact hle
  | piece _ hle' _ ih => exact ih hle'

/-- **The pieces of a stream**, and the bytes that they are together. -/
theorem Stream.exists_pieces (h : Stream carrier whole bytes count count' done messages) :
    ∃ pieces : List ByteArray,
      messages = pieces.map carrier.piece ++ (if done then [carrier.ending] else []) ∧
      pieces.flatMap (·.data.toList) = (bytes.extract count count').data.toList ∧
      (done = true → count' = bytes.size) := by
  induction h with
  | nil count => exact ⟨[], rfl, by simp, nofun⟩
  | ending => exact ⟨[], rfl, by simp, fun _ ↦ rfl⟩
  | @piece count count' done data messages hdata hle hrest ih =>
    obtain ⟨pieces, rfl, hpieces, hdone⟩ := ih
    have hcount := hrest.le
    refine ⟨data :: pieces, rfl, ?_, hdone⟩
    rw [List.flatMap_cons, hpieces]
    nth_rewrite 1 [hdata]
    rw [← Array.toList_append, ← ByteArray.data_append, ByteArray.extract_append_extract,
      Nat.min_eq_left (by omega), Nat.max_eq_right hcount]

/-- What comes before a place does not depend on what is behind it. -/
theorem Stream.front (h : Stream carrier whole bytes count count' false messages)
    (hle : count' ≤ bytes.size) :
    Stream carrier whole (bytes.extract 0 count') count count' false messages := by
  generalize hdone : false = done at h
  induction h with
  | nil count => exact .nil count
  | ending => cases hdone
  | @piece count count' done data messages hdata _ hrest ih =>
    have hcount := hrest.le
    refine .piece ?_ ?_ (ih hle hdone)
    · rw [ByteArray.extract_extract]
      nth_rewrite 1 [hdata]
      congr 1 <;> omega
    · rw [ByteArray.size_extract]
      omega

end Streams

theorem extract_prefix (bytes : ByteArray) (count : Nat) :
    (bytes.extract 0 count).data.toList <+: bytes.data.toList := by
  rw [ByteArray.data_extract, Array.toList_extract, List.extract_eq_take_drop, List.drop_zero]
  exact List.take_prefix _ _

/-- **An output of a range**: pieces that follow on each other from the first byte on, and one last
message. That is the end message, which stands behind the whole range if all reads come to
something, or it tells a failure. -/
def ServedRange.IsOutput (range : ServedRange) (fs : FileSystem) (fruitful : Prop)
    (messages : List Message) : Prop :=
  ∃ (pieces : List ByteArray) (last : Message),
    messages = pieces.map (Producer.downloadMessage range.requestId) ++ [last] ∧
    pieces.flatMap (·.data.toList) <+: (range.bytes fs).data.toList ∧
    (last = downloadEnd range.requestId ∧
        (fruitful → pieces.flatMap (·.data.toList) = (range.bytes fs).data.toList) ∨
      ∃ status, last = downloadFailed range.requestId status)

/-- **The front of an output of a range.** -/
def ServedRange.IsFront (range : ServedRange) (fs : FileSystem) (fruitful : Prop)
    (messages : List Message) : Prop :=
  ∃ output, range.IsOutput fs fruitful output ∧ messages <+: output

namespace Job

variable {range : ServedRange} {bytes : ByteArray} {fruitful : Prop} {store store' : Store}
variable {job job' : Job} {said : List Message} {world world' : World Channel} {status : JobStatus}

/-- **What a job that serves a range has said, and what it is at.** After a read that came to
nothing the range counts as the front of it that has been queued. -/
inductive Tells (range : ServedRange) (bytes : ByteArray) (fruitful : Prop) (store : Store)
    (job : Job) : List Message → Prop where
  | going {front : ByteArray} {count : Nat} {done : Bool} {said : List Message}
      (hfront : front = bytes.extract 0 front.size) (hfruitful : fruitful → front = bytes)
      (hway : front = bytes ∨ job.producer = .finished)
      (hstream : Stream (downloadCarrier range.requestId) True front 0 count done said)
      (hserves : job.ServesOn range front store count done) :
      Tells range bytes fruitful store job said
  | failed {front : ByteArray} {count : Nat} {said : List Message} {status : Status}
      (hfront : front = bytes.extract 0 front.size) (hended : job.isEnded = true)
      (hstream : Stream (downloadCarrier range.requestId) True front 0 count false said) :
      Tells range bytes fruitful store job (said ++ [downloadFailed range.requestId status])

namespace Tells

theorem leaves (h : job.Tells range bytes fruitful store said) (hleaves : store.Leaves store') :
    job.Tells range bytes fruitful store' said := by
  cases h with
  | going hfront hfruitful hway hstream hserves =>
    refine .going hfront hfruitful hway hstream (hserves.imp_right fun ⟨hhand, hat⟩ ↦ ⟨hhand, ?_⟩)
    exact fun source hsource ↦ (hat source hsource).leaves hleaves
  | failed hfront hended hstream => exact .failed hfront hended hstream

/-- A job that has just been started has said nothing. -/
theorem start (hreads : store.Reads range.file range.content range.first) :
    (Job.start .responder .download range.requestId
      (.range (range.source 0 ByteArray.empty)) 0).Tells range bytes fruitful store [] := by
  have hserves : Serves range bytes none (.range (range.source 0 ByteArray.empty)) 0 false :=
    Serves.reading ByteArray.extract_same.symm (Nat.zero_le _)
  refine .going ByteArray.extract_zero_size.symm (fun _ ↦ rfl) (.inl rfl) (.nil 0)
    (.inr ⟨hserves, ?_⟩)
  rintro source ⟨⟩
  exact hreads

/-- **A step says what follows on what has been said**, and changes no file but the one that is
read. -/
theorem step (h : job.Tells range bytes fruitful world.store said)
    (hjob : job.IsDownload range.requestId) (hbytes : bytes = range.bytes world.store.fs)
    (hwithin : range.IsWithin world.store.fs)
    (hfruitful : fruitful → Fault.Fruitful world.store.faults)
    (hrun : job.step.run world = ((status, job'), world')) :
    job'.IsDownload range.requestId ∧ world.store.Keeps world'.store ∧ ∃ more,
      world'.outlet.underway = world.outlet.underway ++ more ∧
      job'.Tells range bytes fruitful world'.store (said ++ more) := by
  cases h with
  | failed hfront hended hstream =>
    rw [step_run, if_pos hended] at hrun
    obtain ⟨-, rfl, rfl⟩ := run_inj hrun
    exact ⟨hjob, .refl _, [], (List.append_nil _).symm,
      (List.append_nil _).symm ▸ .failed hfront hended hstream⟩
  | @going front count done _ hfront hall hway hstream hserves =>
    have hstep : Served range front job' world world' count done ∧
          (front = bytes ∨ job'.producer = .finished) ∨
        done = false ∧ Dries range front job' world world' count := by
      by_cases hfinished : job.producer = .finished
      · exact .inl ((step_served_of_finished hjob hfinished hserves hrun).imp_right .inr)
      · obtain rfl : front = bytes := hway.resolve_right hfinished
        exact (step_served_or_dries hjob hbytes hwithin hserves hrun).imp_left (⟨·, .inl rfl⟩)
    rcases hstep with ⟨hserved, hway⟩ | ⟨rfl, hdries⟩
    · refine ⟨hserved.isDownload, hserved.keeps, ?_⟩
      rcases hserved.cases with ⟨count', done', more, hemits, hunderway, hserves'⟩ |
        ⟨hended, rfl, status, hunderway⟩
      · exact ⟨more, hunderway, .going hfront hall hway (hstream.append hemits) hserves'⟩
      · exact ⟨_, hunderway, .failed hfront hended hstream⟩
    · -- what has been queued so far counts as all there is
      have hsize : (front.extract 0 count).size = count := by
        have := hdries.le
        rw [ByteArray.size_extract]
        omega
      have hserves' :
          Serves range (front.extract 0 count) job'.offer job'.producer count false := by
        rw [hdries.offer, hdries.producer]
        nth_rewrite 2 [← hsize]
        exact .ending
      refine ⟨hdries.isDownload, hdries.keeps, [], by rw [hdries.outlet, List.append_nil], ?_⟩
      rw [List.append_nil]
      refine .going ?_ (fun h ↦ absurd (hfruitful h) hdries.unfruitful) (.inr hdries.producer)
        (hstream.front hdries.le) (.inr ⟨hserves', ?_⟩)
      · rw [hsize, hfront, ByteArray.extract_extract]
        have := hdries.le
        congr 1
        omega
      · intro source hsource
        rw [hdries.producer] at hsource
        cases hsource

/-- **Every open file stays the same file.** -/
theorem retains (h : job.Tells range bytes fruitful world.store said)
    (hjob : job.IsDownload range.requestId)
    (hrun : job.step.run world = ((status, job'), world')) : world.store.Retains world'.store := by
  have hrefl : world.store.Retains world.store := (Store.Leaves.refl _).retains
  rw [step_run] at hrun
  split at hrun
  · obtain ⟨-, rfl, rfl⟩ := run_inj hrun
    exact hrefl
  rename_i hgoes
  cases h with
  | failed _ hended => exact absurd hended hgoes
  | @going front count done _ _ _ _ _ hserves =>
    obtain ⟨hhand, hat⟩ := hserves.resolve_left hgoes
    obtain ⟨role, family, requestId, producer, offer, sent, isEnded⟩ := job
    dsimp only at hhand hat hrun
    obtain rfl : role = .responder := hjob.role
    cases hhand with
    | piece => rw [store_of_offerOnce rfl hrun]; exact hrefl
    | ending => rw [store_of_offerOnce rfl hrun]; exact hrefl
    | finished =>
      rw [produce_run] at hrun
      obtain ⟨-, rfl, rfl⟩ := run_inj hrun
      exact hrefl
    | @reading _ pending hpending hle =>
      have hmode := (hat _ rfl).mode
      have hadvance : world.store.Retains
          ((Producer.range (range.source (count + pending.size) pending)).advance requestId
            (Outlet.isCancelled world.outlet) |>.run world).2.store := by
        dsimp only [Producer.advance]
        rw [Producer.advanceRange_run]
        split
        · exact hrefl
        split
        · exact hrefl
        split
        · exact hrefl
        · exact Share.retains_read hmode rfl
      rw [produce_run] at hrun
      dsimp only at hrun
      split at hrun <;> rename_i hcall <;> rw [hcall] at hadvance
      · obtain ⟨-, rfl, rfl⟩ := run_inj hrun
        exact hadvance
      · obtain ⟨-, rfl, rfl⟩ := run_inj hrun
        exact hadvance
      · obtain ⟨-, rfl, rfl⟩ := run_inj hrun
        exact hadvance
      · obtain ⟨-, -, rfl⟩ := run_inj hrun
        rw [(World.fail_responder_cases rfl).1.store]
        exact hadvance

/-- **What has been said is the front of an output of the range.** -/
theorem isFront {fs : FileSystem} (h : job.Tells range (range.bytes fs) fruitful store said) :
    range.IsFront fs fruitful said := by
  -- what has been queued is a front of the range, up to the place that the stream has come to
  have hextract : ∀ {front : ByteArray} {count : Nat},
      front = (range.bytes fs).extract 0 front.size → count ≤ front.size →
        front.extract 0 count = (range.bytes fs).extract 0 count := fun hfront hle ↦ by
    rw [hfront, ByteArray.extract_extract]
    congr 1
    omega
  cases h with
  | @going front count done _ hfront hall _ hstream _ =>
    have hle := hstream.le_size (Nat.zero_le _)
    obtain ⟨pieces, rfl, hpieces, hdone⟩ := hstream.exists_pieces
    rw [hextract hfront hle] at hpieces
    cases done with
    | true =>
      refine ⟨_, ⟨pieces, _, rfl, ?_, .inl ⟨rfl, fun hfruitful ↦ ?_⟩⟩, List.prefix_refl _⟩
      · rw [hpieces]
        exact extract_prefix _ _
      · rw [hpieces, hdone rfl, hall hfruitful, ByteArray.extract_zero_size]
    | false =>
      -- what is left of the range may be said in one more piece
      let left := (range.bytes fs).extract count (range.bytes fs).size
      have hcount : count ≤ (range.bytes fs).size := by
        have := congrArg ByteArray.size hfront
        rw [ByteArray.size_extract] at this
        omega
      have hwhole : (pieces ++ [left]).flatMap (·.data.toList) = (range.bytes fs).data.toList := by
        rw [List.flatMap_append, hpieces, List.flatMap_singleton, ← Array.toList_append,
          ← ByteArray.data_append, ByteArray.extract_append_extract, Nat.zero_min,
          Nat.max_eq_right hcount, ByteArray.extract_zero_size]
      have houtput : range.IsOutput fs fruitful
          ((pieces ++ [left]).map (Producer.downloadMessage range.requestId) ++
            [downloadEnd range.requestId]) :=
        ⟨pieces ++ [left], _, rfl, hwhole ▸ List.prefix_refl _, .inl ⟨rfl, fun _ ↦ hwhole⟩⟩
      refine ⟨_, houtput, ?_⟩
      rw [List.map_append, List.append_assoc]
      exact List.prefix_append_right_inj _ |>.2 (List.nil_prefix)
  | @failed front count said status hfront _ hstream =>
    have hle := hstream.le_size (Nat.zero_le _)
    obtain ⟨pieces, rfl, hpieces, -⟩ := hstream.exists_pieces
    rw [hextract hfront hle] at hpieces
    refine ⟨_, ⟨pieces, _, ?_, ?_, .inr ⟨status, rfl⟩⟩, List.prefix_refl _⟩
    · simp [downloadCarrier]
    · rw [hpieces]
      exact extract_prefix _ _

end Tells

end Job

end FileShare
