import FileShare.Proofs.RangeOutput
import FileShare.Proofs.Threads

/-!
# What the threads of a download keep to

A new worker is started only after the old one has been waited for, and a file is moved only in
between. The definitions do not say so. It follows from the order of the points (`Threads.Fits`):
from where a worker has been waited for until the next one is started, the responder holds none.

The invariant is `Threads.Sound`. The workers that the responder has let go of have ended, and the
one that it holds serves the range that was accepted last (`Threads.Attends`). Until a request has
passed its checks, the steps of the responder change nothing that counts
(`Threads.Sound.checks`). A worker moves the file that it reads; but as long as the
responder holds a worker, it relies only on which files are open, and not on where they stand
(`Threads.Fits.retains`).

One move preserves the invariant (`Threads.Sound.step`), and so does a run (`Threads.Sound.run`).
-/

namespace FileShare

open Conversation (Machine)

/-! ### Workers -/

namespace JobThread

variable {worker worker' : JobThread} {heeds : Bool} {world world' : World Channel}

/-- A worker that has ended does nothing any more. -/
theorem step_of_isEnded (hended : worker.job.isEnded = true) :
    worker.step heeds world = (worker, world) := by
  unfold step
  dsimp only
  rw [Job.step_run, if_pos hended]
  rfl

/-- **A step of a worker is one of its job**, whether it knows that it is to stop or not. -/
theorem step_tells {range : ServedRange} {fruitful : Prop} {said : List Message}
    (h : worker.job.Tells range (range.bytes world.store.fs) fruitful world.store said)
    (hjob : worker.job.IsDownload range.requestId) (hwithin : range.IsWithin world.store.fs)
    (hfruitful : fruitful → Fault.Fruitful world.store.faults)
    (hrun : worker.step heeds world = (worker', world')) :
    worker'.job.IsDownload range.requestId ∧ world.store.Keeps world'.store ∧
      world.store.Retains world'.store ∧
      worker'.job.Tells range (range.bytes world.store.fs) fruitful world'.store
        (said ++ world'.outlet.underway.drop world.outlet.underway.length) := by
  obtain ⟨seen, hseen⟩ : ∃ seen,
      seen = world.withStop (heeds && (worker.told || world.outlet.isCancelled)) := ⟨_, rfl⟩
  have hstore : seen.store = world.store := by rw [hseen]; rfl
  have hsame : seen.outlet.underway = world.outlet.underway := by rw [hseen]; rfl
  unfold step at hrun
  dsimp only at hrun
  rw [← hseen] at hrun
  rcases hstep : worker.job.step.run seen with ⟨⟨status, job⟩, next⟩
  rw [hstep] at hrun
  obtain ⟨rfl, rfl⟩ := Prod.mk.inj hrun
  rw [← hstore] at h hwithin hfruitful ⊢
  obtain ⟨hdownload, hkeeps, more, hmore, htells⟩ := h.step hjob rfl hwithin hfruitful hstep
  have hunderway : (next.withStop world.outlet.isCancelled).outlet.underway =
      world.outlet.underway ++ more := hmore.trans (by rw [hsame])
  have hretains := h.retains hjob hstep
  rw [hunderway, List.drop_left]
  exact ⟨hdownload, hkeeps, hretains, htells⟩

end JobThread

/-! ### The invariant -/

/-- A plan fits the file that is open: another one has been opened beside it, or a range of it is
to be served. -/
def Plan.Fits (store : Store) (file : Option FileId) : Plan → Prop
  | .replace _ next stat => store.Opened next stat.size ∧ file ≠ some next
  | .serve _ served => file = some served
  | .leave => True

namespace Threads

/-- The responder is at a point at which it may be. -/
def Fits (threads : Threads) : Prop :=
  let store := threads.world.store
  match threads.point with
  | .looking _ file =>
    (∃ content position, store.Reads file content position) ∧ threads.file ≠ some file
  | .stopping plan | .joining plan => plan.Fits store threads.file
  | .closing next => threads.worker = none ∧ ∀ url file stat, next = some (url, file, stat) →
      store.Opened file stat.size ∧ threads.file ≠ some file
  | .seeking range => threads.worker = none ∧ range.requestId = threads.requestId ∧
      range.IsWithin store.fs ∧ range.first < UInt64.size ∧
      ∃ position, store.Reads range.file range.content position
  | .starting range => threads.worker = none ∧ threads.accepted = some range ∧
      threads.said = [] ∧ range.requestId = threads.requestId ∧ range.IsWithin store.fs ∧
      store.Reads range.file range.content range.first
  | _ => True

/-- A worker serves the range that was accepted last, and has said what has been said since. -/
def Attends (threads : Threads) (fs : FileSystem) (fruitful : Prop) (worker : JobThread) : Prop :=
  ∃ range, threads.accepted = some range ∧ range.requestId = threads.requestId ∧
    range.IsWithin fs ∧ worker.job.IsDownload range.requestId ∧
    worker.job.Tells range (range.bytes fs) fruitful threads.world.store threads.said

/-- **What the threads of a responder keep to.** At most one worker is live, and that one serves the
range that was accepted last. -/
structure Sound (threads : Threads) (fs : FileSystem) (fruitful : Prop) : Prop where
  share : threads.world.store.fs = fs
  faults : fruitful → Fault.Fruitful threads.world.store.faults
  others : ∀ worker ∈ threads.others, worker.job.isEnded = true
  file : ∀ file, threads.file = some file → threads.world.store.Opened file threads.size
  point : threads.Fits
  worker : ∀ worker, threads.worker = some worker → threads.Attends fs fruitful worker
  unsaid : threads.accepted = none → threads.said = []
  front : ∀ range, threads.accepted = some range → range.IsFront fs fruitful threads.said

/-- **Nothing has happened to a transfer**: the worker goes on as before, and every open file is
where it was. -/
structure Undisturbed (threads threads' : Threads) : Prop where
  requestId : threads'.requestId = threads.requestId
  file : threads'.file = threads.file
  size : threads'.size = threads.size
  worker : threads'.worker = threads.worker
  others : threads'.others = threads.others
  accepted : threads'.accepted = threads.accepted
  said : threads'.said = threads.said
  store : threads.world.store.Leaves threads'.world.store

variable {threads threads' : Threads} {fs : FileSystem} {fruitful : Prop}

theorem attends_of_none (hnone : threads.worker = none) :
    ∀ worker, threads.worker = some worker → threads.Attends fs fruitful worker := by
  intro worker hworker
  rw [hnone] at hworker
  cases hworker

/-- What does not disturb a transfer keeps what the threads keep to. -/
theorem Sound.undisturbed (h : threads.Sound fs fruitful) (hsame : threads.Undisturbed threads')
    (hfruitful : fruitful → Fault.Fruitful threads'.world.store.faults) (hpoint : threads'.Fits) :
    threads'.Sound fs fruitful where
  share := hsame.store.fs.trans h.share
  faults := hfruitful
  others := hsame.others ▸ h.others
  file file hfile := by
    rw [hsame.size]
    exact (h.file file (hsame.file ▸ hfile)).retains hsame.store.retains
  point := hpoint
  worker worker hworker := by
    obtain ⟨range, haccepted, hid, hwithin, hjob, htells⟩ :=
      h.worker worker (hsame.worker ▸ hworker)
    refine ⟨range, hsame.accepted.trans haccepted, hid.trans hsame.requestId.symm, hwithin, hjob,
      ?_⟩
    rw [hsame.said]
    exact htells.leaves hsame.store
  unsaid haccepted := hsame.said.trans (h.unsaid (hsame.accepted ▸ haccepted))
  front range haccepted := hsame.said ▸ h.front range (hsame.accepted ▸ haccepted)

theorem Sound.live_le_one (h : threads.Sound fs fruitful) : threads.live ≤ 1 := by
  have hothers : threads.others.countP (fun worker ↦ !worker.job.isEnded) = 0 := by
    rw [List.countP_eq_zero]
    intro worker hworker
    simp [h.others worker hworker]
  unfold live
  rw [List.countP_append, hothers, Nat.add_zero]
  refine List.countP_le_length.trans ?_
  cases threads.worker <;> simp

theorem Sound.live_eq_zero (h : threads.Sound fs fruitful) (hnone : threads.worker = none) :
    threads.live = 0 := by
  unfold live
  rw [hnone, List.countP_eq_zero]
  intro worker hworker
  simp [h.others worker hworker]

/-! ### The steps of the responder -/

theorem Undisturbed.of_store {world : World Channel} {point : Point}
    (hleaves : threads.world.store.Leaves world.store) :
    threads.Undisturbed { threads with world, point } :=
  ⟨rfl, rfl, rfl, rfl, rfl, rfl, rfl, hleaves⟩

/-- The responder asks about a file, and learns what is known. -/
def Learns (threads : Threads) : Prop :=
  ∃ url file stat, threads.point = .looking url file ∧
    ((Share.fileStat file).run.run threads.world.store).1 = .ok stat

/-- **A step of a request that has not passed its checks.** It leaves a transfer undisturbed, and it
is the last check, or the request has still not passed them. -/
structure Checks (threads next : Threads) : Prop where
  undisturbed : threads.Undisturbed next
  keeps : threads.world.store.Keeps next.world.store
  fits : next.Fits
  precedes : next.point.precedesStop = true ∨ threads.Learns

/-- A call fails, and that is told, or the request goes on. -/
theorem Checks.of_attempt {α : Type} {action : StepM Channel α} {next : Threads → α → Threads}
    {result : Except ExchangeError α} {world : World Channel}
    (hrun : action.run.run threads.world = (result, world))
    (hleaves : threads.world.store.Leaves world.store)
    (hkeeps : threads.world.store.Keeps world.store)
    (hnext : ∀ value, result = .ok value → threads.Checks (next { threads with world } value)) :
    threads.Checks (threads.attempt action next) := by
  cases result with
  | error error =>
    rw [attempt_error hrun]
    exact ⟨.of_store hleaves, hkeeps, trivial, .inl rfl⟩
  | ok value =>
    rw [attempt_ok hrun]
    exact hnext value rfl

/-- **As long as a request has not passed its checks**, and if it does not pass them, the responder
leaves a transfer undisturbed. The last check is the one that asks about the file. -/
theorem Sound.checks (h : threads.Sound fs fruitful)
    (hpoint : threads.point.precedesStop = true) : threads.Checks threads.advance := by
  have hfits := h.point
  unfold Fits at hfits
  cases hat : threads.point with
  | ready =>
    have hsame : threads.advance = threads := by
      unfold Threads.advance
      rw [hat]
    rw [hsame]
    exact ⟨.of_store (.refl _), .refl _, h.point, .inl hpoint⟩
  | connecting message =>
    rw [advance_connecting hat]
    rcases hrun : (World.connect message).run.run threads.world with ⟨result, world⟩
    obtain ⟨-, hrecords, hfruitful, -⟩ := World.connect_cases hrun
    have hleaves : threads.world.store.Leaves world.store := .of_files hrecords.fs hrecords.files
    have hkeeps := hrecords.keeps hfruitful
    exact .of_attempt hrun hleaves hkeeps fun _ _ ↦ ⟨.of_store hleaves, hkeeps, trivial, .inl rfl⟩
  | opening url =>
    rw [advance_opening hat]
    rcases hrun : (World.share (Share.openFile url .read) : StepM Channel FileId).run.run
      threads.world with ⟨result, world⟩
    obtain ⟨answer, hopen, rfl, -⟩ := World.share_cases hrun
    obtain ⟨hkeeps, hleaves, hopened⟩ := Share.leaves_openFile hopen
    refine .of_attempt hrun hleaves hkeeps fun file hresult ↦ ?_
    obtain ⟨hindex, content, hreads⟩ := hopened file (of_mapError_eq_ok hresult)
    refine ⟨.of_store hleaves, hkeeps, ⟨⟨content, 0, hreads⟩, fun hsame ↦ ?_⟩, .inl rfl⟩
    -- the file is a new one
    have := (h.file file hsame).inRange
    omega
  | looking url file =>
    rw [hat] at hfits
    obtain ⟨⟨content, position, hreads⟩, hne⟩ := hfits
    rw [advance_looking hat]
    rcases hrun : (World.share (Share.fileStat file) : StepM Channel Stat).run.run
      threads.world with ⟨result, world⟩
    obtain ⟨answer, hstat, rfl, -⟩ := World.share_cases hrun
    obtain ⟨hleaves, hopened⟩ := Share.leaves_fileStat hreads hstat
    have hkeeps := (Share.fileStat_cases hstat).1.keeps (Share.fruitful_fileStat hstat)
    refine .of_attempt hrun hleaves hkeeps fun stat hresult ↦ ?_
    obtain rfl := of_mapError_eq_ok hresult
    exact ⟨.of_store hleaves, hkeeps, ⟨hopened stat rfl, hne⟩,
      .inr ⟨url, file, stat, hat, congrArg Prod.fst hstat⟩⟩
  | failing requestId error =>
    have hfail : (World.fail .responder .download requestId error).run threads.world =
      ((), ((World.fail .responder .download requestId error).run threads.world).2) := rfl
    have hstore := (World.fail_responder_cases hfail).1.store
    rw [advance_failing hat]
    exact ⟨.of_store (.of_files (by rw [hstore]) (by rw [hstore])),
      by rw [hstore]; exact .refl _, trivial, .inl rfl⟩
  | _ =>
    rw [hat] at hpoint
    cases hpoint

/-- What is left of a range lies in the file. -/
theorem within_of_clampRange {bytes : ByteArray} {first last size : UInt64} {first' last' : Nat}
    (hsize : size = UInt64.ofNat bytes.size)
    (h : clampRange first last size = some (first', last')) :
    first' ≤ last' ∧ last' < bytes.size ∧ first' < UInt64.size := by
  have hle : size.toNat ≤ bytes.size := by
    rw [hsize, UInt64.toNat_ofNat']
    exact Nat.mod_le _ _
  have hfirst := first.toNat_lt_size
  rw [clampRange_eq rfl] at h
  split at h
  · rename_i hsome
    obtain ⟨rfl, rfl⟩ := Prod.mk.inj (Option.some.inj h)
    omega
  · cases h

/-- **No worker is in the way**: the file may be closed, or moved. -/
theorem Sound.carryOn (h : threads.Sound fs fruitful) (hnone : threads.worker = none) {plan : Plan}
    (hplan : plan.Fits threads.world.store threads.file) :
    (threads.carryOn plan).Sound fs fruitful := by
  unfold Threads.carryOn
  cases plan with
  | replace url file stat =>
    refine { h with point := ⟨hnone, ?_⟩ }
    rintro _ _ _ ⟨⟩
    exact hplan
  | leave => exact { h with point := ⟨hnone, nofun⟩ }
  | serve range file =>
    dsimp only
    split
    · exact {
        h with
        point := trivial
        worker := attends_of_none hnone
        unsaid := fun _ ↦ rfl
        front := nofun }
    · rename_i first last hclamp
      obtain ⟨content, position, hreads, hsize⟩ := h.file file hplan
      obtain ⟨hfirst, hlast, hfits⟩ := within_of_clampRange hsize hclamp
      refine { h with point := ⟨hnone, rfl, ⟨hfirst, ?_, ?_⟩, hfits, position, ?_⟩ }
      · exact hreads.content ▸ hlast
      · show max 1 threads.settings.readBuffer ≠ 0
        omega
      · exact hreads.content ▸ hreads

theorem Sound.stopWorker (h : threads.Sound fs fruitful) {plan : Plan}
    (hplan : plan.Fits threads.world.store threads.file) :
    (threads.stopWorker plan).Sound fs fruitful := by
  unfold Threads.stopWorker
  cases hworker : threads.worker with
  | none => exact h.carryOn hworker hplan
  | some worker =>
    refine { h with point := hplan, worker := ?_ }
    rintro _ ⟨⟩
    exact h.worker worker hworker

/-- **A worker that the responder lets go of has ended.** -/
theorem Sound.joinWorker (h : threads.Sound fs fruitful) {plan : Plan}
    (hplan : plan.Fits threads.world.store threads.file) :
    (threads.joinWorker plan).Sound fs fruitful := by
  unfold Threads.joinWorker
  cases hworker : threads.worker with
  | none => exact h.carryOn hworker hplan
  | some worker =>
    dsimp only
    split
    · rename_i hended
      have hmid : { threads with
          worker := none
          others := worker :: threads.others
          point := .ready }.Sound fs fruitful := {
        h with
        others := List.forall_mem_cons.2 ⟨hended, h.others⟩
        point := trivial
        worker := attends_of_none rfl }
      rw [← carryOn_withPoint _ .ready]
      exact hmid.carryOn rfl hplan
    · exact h

/-- To give a file up leaves the other files as they are. -/
theorem opened_closeFile (file : Option FileId) (size : UInt64) (world : World Channel) :
    let closed := ((⟨file, size, none⟩ : FileServer).closeFile.run world).2
    world.store.Keeps closed.store ∧ ∀ other largest, file ≠ some other →
      world.store.Opened other largest → closed.store.Opened other largest := by
  cases file with
  | none => exact ⟨.refl _, fun _ _ _ hopened ↦ hopened⟩
  | some file =>
    rcases hclose : (Share.close file).run.run world.store with ⟨answer, store⟩
    have hrun : ((⟨some file, size, none⟩ : FileServer).closeFile.run world) =
        (⟨none, size, none⟩, { world with store }) := by
      unfold FileServer.closeFile
      dsimp only
      rw [run_bind_of_run (World.tolerate_run hclose)]
      rfl
    rw [hrun]
    obtain ⟨hfs, hroot⟩ := Share.close_keeps hclose
    obtain ⟨hsize, hothers⟩ := Share.close_files hclose
    refine ⟨⟨hfs, hroot, Share.fruitful_close hclose⟩, ?_⟩
    rintro other largest hne ⟨content, position, hreads, hlargest⟩
    have hsame := hothers other fun heq ↦ hne (congrArg some heq.symm)
    exact ⟨content, position, ⟨hsize ▸ hreads.inRange, hsame ▸ hreads.mode, hsame ▸ hreads.content,
      hsame ▸ hreads.position⟩, by rw [hfs]; exact hlargest⟩

/-- **A file is given up when no worker is in the way.** -/
theorem Sound.closeFile (h : threads.Sound fs fruitful) (hnone : threads.worker = none)
    {next : Option (String × FileId × Stat)}
    (hnext : ∀ url file stat, next = some (url, file, stat) →
      threads.world.store.Opened file stat.size ∧ threads.file ≠ some file) :
    (threads.closeFile next).Sound fs fruitful := by
  obtain ⟨hkeeps, hopened⟩ :=
    opened_closeFile threads.file threads.size threads.world
  have hshare := hkeeps.fs.trans h.share
  have hfaults := fun hfruitful ↦ hkeeps.fruitful (h.faults hfruitful)
  unfold Threads.closeFile
  cases next with
  | none =>
    exact {
      h with
      share := hshare
      faults := hfaults
      file := nofun
      point := trivial
      worker := attends_of_none hnone }
  | some next =>
    obtain ⟨url, file, stat⟩ := next
    obtain ⟨hnew, hne⟩ := hnext url file stat rfl
    refine {
      h with
      share := hshare
      faults := hfaults
      file := ?_
      point := trivial
      worker := attends_of_none hnone }
    rintro _ ⟨⟩
    exact hopened file stat.size hne hnew

/-- **The file is moved to the first byte of a range when no worker is in the way**, and then it
stands there. -/
theorem Sound.seek (h : threads.Sound fs fruitful) {range : ServedRange}
    (hpoint : threads.point = .seeking range) : threads.advance.Sound fs fruitful := by
  have hfits := h.point
  unfold Fits at hfits
  rw [hpoint] at hfits
  obtain ⟨hnone, hid, hwithin, hfirst, position, hreads⟩ := hfits
  rw [advance_seeking hpoint]
  rcases hrun : (World.share (Share.seek range.file (UInt64.ofNat range.first)) :
    StepM Channel Nat).run.run threads.world with ⟨result, world'⟩
  obtain ⟨answer, hseek, rfl, -⟩ := World.share_cases hrun
  have hretains := Share.retains_seek hseek
  obtain ⟨hkeeps, hmoved⟩ := hreads.seek hseek
  cases answer with
  | error error =>
    rw [attempt_error hrun]
    exact {
      h with
      share := hretains.fs.trans h.share
      faults := fun hfruitful ↦ hkeeps.fruitful (h.faults hfruitful)
      file := fun file hfile ↦ (h.file file hfile).retains hretains
      point := trivial
      worker := attends_of_none hnone }
  | ok moved =>
    rcases hmoved with ⟨error, herror⟩ | hmoved
    · cases herror
    rw [UInt64.toNat_ofNat_of_lt' hfirst] at hmoved
    rw [attempt_ok hrun]
    have hstart : Job.Tells range (range.bytes fs) fruitful world'.store
        (.start .responder .download range.requestId
          (.range (range.source 0 ByteArray.empty)) 0) [] := .start hmoved
    refine {
      h with
      share := hretains.fs.trans h.share
      faults := fun hfruitful ↦ hkeeps.fruitful (h.faults hfruitful)
      file := fun file hfile ↦ (h.file file hfile).retains hretains
      point := ⟨hnone, rfl, rfl, hid, ?_, hmoved⟩
      worker := attends_of_none hnone
      unsaid := nofun
      front := ?_ }
    · rw [hretains.fs]
      exact hwithin
    · rintro _ ⟨⟩
      exact hstart.isFront

/-- **A worker is started when there is none**, and its file stands at the first byte. -/
theorem Sound.startWorker (h : threads.Sound fs fruitful) {range : ServedRange}
    (hpoint : threads.point = .starting range) : (threads.startWorker range).Sound fs fruitful := by
  have hfits := h.point
  unfold Fits at hfits
  rw [hpoint] at hfits
  obtain ⟨hnone, haccepted, hsaid, hid, hwithin, hreads⟩ := hfits
  refine { h with others := ?_, point := trivial, worker := ?_ }
  · show ∀ worker ∈ threads.worker.toList ++ threads.others, worker.job.isEnded = true
    rw [hnone]
    exact h.others
  · rintro _ ⟨⟩
    refine ⟨range, haccepted, hid, h.share ▸ hwithin, ⟨rfl, rfl, hid.symm⟩, ?_⟩
    show Job.Tells range _ _ _ _ threads.said
    rw [hsaid, ← hid]
    exact .start hreads

/-- An answer is queued, or it is not and that is a failure. -/
theorem Sound.tell (h : threads.Sound fs fruitful) {message : Message}
    (hpoint : threads.point = .telling message) : threads.advance.Sound fs fruitful := by
  rw [advance_telling hpoint]
  rcases hrun : (World.send message).run.run threads.world with ⟨result, world'⟩
  obtain ⟨hchannel, -⟩ := World.send_cases hrun
  have hleaves : threads.world.store.Leaves world'.store := hchannel.store ▸ .refl _
  have hfaults : fruitful → Fault.Fruitful world'.store.faults := hchannel.store ▸ h.faults
  cases result with
  | error error =>
    rw [attempt_error hrun]
    exact h.undisturbed (.of_store hleaves) hfaults trivial
  | ok _ =>
    rw [attempt_ok hrun]
    exact h.undisturbed (.of_store hleaves) hfaults trivial

/-- **Every step of the responder keeps what the threads keep to.** -/
theorem Sound.advance (h : threads.Sound fs fruitful) : threads.advance.Sound fs fruitful := by
  by_cases hprecedes : threads.point.precedesStop = true
  · have hchecks := h.checks hprecedes
    exact h.undisturbed hchecks.undisturbed
      (fun hfruitful ↦ hchecks.keeps.fruitful (h.faults hfruitful)) hchecks.fits
  have hfits := h.point
  unfold Fits at hfits
  cases hpoint : threads.point with
  | stopping plan =>
    rw [hpoint] at hfits
    rw [advance_stopping hpoint]
    exact h.stopWorker hfits
  | joining plan =>
    rw [hpoint] at hfits
    rw [advance_joining hpoint]
    exact h.joinWorker hfits
  | closing next =>
    rw [hpoint] at hfits
    rw [advance_closing hpoint]
    exact h.closeFile hfits.1 hfits.2
  | seeking range => exact h.seek hpoint
  | starting range =>
    rw [advance_starting hpoint]
    exact h.startWorker hpoint
  | telling message => exact h.tell hpoint
  | _ =>
    rw [hpoint] at hprecedes
    exact absurd rfl hprecedes

/-! ### Steps of workers -/

/-- **A responder stays where it is** as long as every open file stays the same. The positions of
files may move, but not where the responder is about to move or to close one itself; there is no
worker then. -/
theorem Fits.retains (h : threads.Fits) (hpoint : threads'.point = threads.point)
    (hfile : threads'.file = threads.file)
    (hretains : threads.world.store.Retains threads'.world.store)
    (hrest : threads.worker ≠ none ∨ threads.Undisturbed threads') : threads'.Fits := by
  have hplan : ∀ plan : Plan, plan.Fits threads.world.store threads.file →
      plan.Fits threads'.world.store threads.file := by
    intro plan hfits
    cases plan with
    | replace url file stat => exact ⟨hfits.1.retains hretains, hfits.2⟩
    | _ => exact hfits
  unfold Fits at h ⊢
  rw [hpoint, hfile]
  cases hat : threads.point with
  | looking url file =>
    rw [hat] at h
    obtain ⟨⟨content, position, hreads⟩, hne⟩ := h
    exact ⟨⟨content, hreads.retains hretains⟩, hne⟩
  | stopping plan => rw [hat] at h; exact hplan plan h
  | joining plan => rw [hat] at h; exact hplan plan h
  | closing next =>
    rw [hat] at h
    have hsame := hrest.resolve_left (not_not_intro h.1)
    refine ⟨hsame.worker.trans h.1, fun url file stat hnext ↦ ?_⟩
    obtain ⟨hopened, hne⟩ := h.2 url file stat hnext
    exact ⟨hopened.retains hretains, hne⟩
  | seeking range =>
    rw [hat] at h
    obtain ⟨hnone, hid, hwithin, hfirst, position, hreads⟩ := h
    have hsame := hrest.resolve_left (not_not_intro hnone)
    exact ⟨hsame.worker.trans hnone, hid.trans hsame.requestId.symm,
      by rw [hretains.fs]; exact hwithin, hfirst, position, hreads.leaves hsame.store⟩
  | starting range =>
    rw [hat] at h
    obtain ⟨hnone, haccepted, hsaid, hid, hwithin, hreads⟩ := h
    have hsame := hrest.resolve_left (not_not_intro hnone)
    exact ⟨hsame.worker.trans hnone, hsame.accepted.trans haccepted, hsame.said.trans hsaid,
      hid.trans hsame.requestId.symm, by rw [hretains.fs]; exact hwithin, hreads.leaves hsame.store⟩
  | _ => trivial

/-- A worker that the responder has let go of does nothing any more. -/
theorem work_some (h : ∀ worker ∈ threads.others, worker.job.isEnded = true) (index : Nat)
    (heeds : Bool) : threads.work (some index) heeds = threads := by
  unfold work
  dsimp only
  split
  · rename_i worker hother
    obtain ⟨hlt, rfl⟩ := List.getElem?_eq_some_iff.1 hother
    rw [JobThread.step_of_isEnded (h _ (List.getElem_mem hlt))]
    dsimp only
    rw [List.set_getElem_self]
    unfold hear
    rw [List.drop_length, List.append_nil]
  · rfl

/-- **Every step of a worker keeps what the threads keep to.** -/
theorem Sound.work (h : threads.Sound fs fruitful) (other : Option Nat) (heeds : Bool) :
    (threads.work other heeds).Sound fs fruitful := by
  unfold Threads.work
  cases other with
  | none =>
    cases hworker : threads.worker with
    | none => exact h
    | some worker =>
      dsimp only
      rcases hrun : worker.step heeds threads.world with ⟨worker', world'⟩
      obtain ⟨range, haccepted, hid, hwithin, hjob, htells⟩ := h.worker worker hworker
      obtain ⟨hjob', hkeeps, hretains, htells'⟩ := JobThread.step_tells (h.share ▸ htells) hjob
        (h.share ▸ hwithin) h.faults hrun
      rw [h.share] at htells'
      refine {
        share := hkeeps.fs.trans h.share
        faults := fun hfruitful ↦ hkeeps.fruitful (h.faults hfruitful)
        others := h.others
        file := fun file hfile ↦ (h.file file hfile).retains hretains
        point := h.point.retains rfl rfl hretains (.inl (by rw [hworker]; nofun))
        worker := ?_
        unsaid := fun hnone ↦ absurd (hnone.symm.trans haccepted) nofun
        front := ?_ }
      · rintro _ ⟨⟩
        exact ⟨range, haccepted, hid, hwithin, hjob', htells'⟩
      · intro range' haccepted'
        obtain rfl := Option.some.inj (haccepted.symm.trans haccepted')
        exact htells'.isFront
  | some index =>
    have hwork := work_some h.others index heeds
    unfold Threads.work at hwork
    rw [hwork]
    exact h

/-! ### Runs -/

/-- Where a message leads, the responder may be. -/
theorem Sound.arrive (h : threads.Sound fs fruitful) (message : Message) :
    { threads with point := threads.pointOf message }.Sound fs fruitful := by
  refine h.undisturbed (.of_store (.refl _)) h.faults ?_
  rcases threads.pointOf_cases message with ⟨_, _, hpoint⟩ | hpoint | ⟨_, _, -, hfile, hpoint⟩
  · rw [hpoint]
    trivial
  · rw [hpoint]
    trivial
  · rw [hpoint]
    exact hfile

/-- **Every move keeps what the threads keep to.** -/
theorem Sound.step (h : threads.Sound fs fruitful) (move : Move)
    (hmove : fruitful → move.IsFruitful) : (threads.step move).Sound fs fruitful := by
  -- what happens to the surroundings disturbs no transfer
  have hsurroundings : ∀ {world : World Channel},
      world.store.fs = threads.world.store.fs → world.store.files = threads.world.store.files →
      (fruitful → Fault.Fruitful world.store.faults) →
      { threads with world }.Sound fs fruitful := fun {world} hfs hfiles hfaults ↦ by
    have hsame : threads.Undisturbed { threads with world } := .of_store (.of_files hfs hfiles)
    exact h.undisturbed hsame hfaults (h.point.retains rfl rfl hsame.store.retains (.inr hsame))
  cases move with
  | arrive message =>
    unfold Threads.step
    dsimp only
    split
    · exact h.arrive message
    · exact h
  | leave =>
    unfold Threads.step
    dsimp only
    split
    · exact h.undisturbed (.of_store (.refl _)) h.faults trivial
    · exact h
  | advance => exact h.advance
  | work other heeds => exact h.work other heeds
  | cancel => exact hsurroundings rfl rfl h.faults
  | transmit => exact hsurroundings rfl rfl h.faults
  | connection isUp => exact hsurroundings rfl rfl h.faults
  | faults others => exact hsurroundings rfl rfl hmove

theorem Sound.run (h : threads.Sound fs fruitful) (moves : List Move)
    (hmoves : fruitful → ∀ move ∈ moves, move.IsFruitful) :
    (threads.run moves).Sound fs fruitful := by
  induction moves generalizing threads with
  | nil => exact h
  | cons move moves ih =>
    have hmove := h.step move fun hfruitful ↦ hmoves hfruitful move List.mem_cons_self
    exact ih hmove fun hfruitful other hother ↦
      hmoves hfruitful other (List.mem_cons_of_mem _ hother)

theorem Sound.start (server : Machine) (requestId : String)
    (hfruitful : fruitful → Fault.Fruitful server.store.faults) :
    (start server requestId).Sound server.store.fs fruitful where
  share := rfl
  faults := hfruitful
  others worker hworker := absurd hworker List.not_mem_nil
  file file hfile := by cases hfile
  point := trivial
  worker := attends_of_none rfl
  unsaid _ := rfl
  front range haccepted := by cases haccepted

end Threads

end FileShare
