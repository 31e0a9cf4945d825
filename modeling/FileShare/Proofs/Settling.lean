import FileShare.Proofs.Interleaving

/-!
# A responder of a download as a whole

A responder as a whole handles a message in one go, and its job takes a step only between two
messages. Every such run is a run of the threads (`Threads.Sound.settles_of_liveAll`): for each
thing that may happen to the responder there are moves after which the responder waits again, and
then the threads are, taken together, the responder as a whole (`Threads.Settles`).

That a job is stopped is one step of the responder as a whole: it goes on with the job until the job
ends. For the threads it is a worker that has been told to stop, knows it, and ends within two steps
(`Job.ends_of_cancelled`). On the way it touches neither its file nor the session, so nothing comes
of it but that it has ended (`Threads.Sound.settles_of_stopping`).
-/

namespace FileShare

/-! ### A worker that is told to stop -/

namespace Job

variable {range : ServedRange} {front : ByteArray} {job : Job} {count : Nat} {done : Bool}
variable {world : World Channel}

/-- A job that knows that it is to stop touches nothing, and it ends unless it has just taken its
next message in hand. -/
theorem step_of_cancelled (hserves : job.ServesOn range front world.store count done)
    (hcancelled : Outlet.isCancelled world.outlet = true) :
    ∃ status job', job.step.run world = ((status, job'), world) ∧
      (job'.isEnded = true ∨ job.offer = none ∧ job'.offer ≠ none) := by
  rw [step_run]
  by_cases hended : job.isEnded = true
  · rw [if_pos hended]
    exact ⟨_, _, rfl, .inl hended⟩
  rw [if_neg hended]
  obtain ⟨hhand, -⟩ := hserves.resolve_left hended
  obtain ⟨role, family, requestId, producer, offer, sent, isEnded⟩ := job
  dsimp only at hhand ⊢
  have hoffer : ∀ {job : Job} {message : Message}, ∃ status job',
      (job.offerOnce message).run world = ((status, job'), world) ∧ job'.isEnded = true := by
    intro job message
    rw [offerOnce_run, if_pos hcancelled]
    exact ⟨_, _, rfl, rfl⟩
  cases hhand with
  | piece =>
    obtain ⟨status, job', hrun, hlast⟩ := hoffer
    exact ⟨status, job', hrun, .inl hlast⟩
  | ending =>
    obtain ⟨status, job', hrun, hlast⟩ := hoffer
    exact ⟨status, job', hrun, .inl hlast⟩
  | finished =>
    rw [produce_run]
    exact ⟨_, _, rfl, .inl rfl⟩
  | @reading _ pending _ _ =>
    rw [produce_run, hcancelled]
    dsimp only [Producer.advance]
    rw [Producer.advanceRange_run]
    -- the next message is taken in hand, or there is none
    by_cases hpending : (range.source (count + pending.size) pending).pending.size ≠ 0
    · rw [if_pos hpending]
      exact ⟨_, _, rfl, .inr ⟨rfl, nofun⟩⟩
    rw [if_neg hpending]
    by_cases hover : (range.source (count + pending.size) pending).last <
        (range.source (count + pending.size) pending).position
    · rw [if_pos hover]
      exact ⟨_, _, rfl, .inr ⟨rfl, nofun⟩⟩
    · rw [if_neg hover]
      exact ⟨_, _, rfl, .inl rfl⟩

/-- **A job that knows that it is to stop ends within two steps**, and touches nothing. -/
theorem ends_of_cancelled (hserves : job.ServesOn range front world.store count done)
    (hcancelled : Outlet.isCancelled world.outlet = true) :
    ∃ first second mid last, job.step.run world = ((first, mid), world) ∧
      mid.step.run world = ((second, last), world) ∧ last.isEnded = true := by
  obtain ⟨first, mid, hfirst, hmid⟩ := step_of_cancelled hserves hcancelled
  by_cases hended : mid.isEnded = true
  · refine ⟨first, .ended, mid, mid, hfirst, ?_, hended⟩
    rw [step_run, if_pos hended]
  -- the message in hand is not offered any more
  obtain ⟨message, hmessage⟩ := Option.ne_none_iff_exists'.1 (hmid.resolve_left hended).2
  refine ⟨first, .ended, mid, mid.ended, hfirst, ?_, rfl⟩
  rw [step_run, if_neg hended, hmessage]
  dsimp only
  rw [offerOnce_run, if_pos hcancelled]

end Job

theorem Job.Tells.exists_servesOn {range : ServedRange} {bytes : ByteArray} {fruitful : Prop}
    {store : Store} {job : Job} {said : List Message}
    (h : job.Tells range bytes fruitful store said) :
    ∃ front count done, job.ServesOn range front store count done := by
  cases h with
  | @going front count done _ _ _ _ _ hserves => exact ⟨front, count, done, hserves⟩
  | failed _ hended => exact ⟨bytes, 0, false, .inl hended⟩

namespace Threads

variable {threads threads' : Threads} {fs : FileSystem} {fruitful : Prop} {side : Side}

/-- The responder waits for a message, and has not told its worker to stop. -/
structure Rests (threads : Threads) : Prop where
  point : threads.point = .ready
  untold : ∀ worker, threads.worker = some worker → worker.told = false

theorem untold_of_none (hnone : threads.worker = none) :
    ∀ worker, threads.worker = some worker → worker.told = false := by
  intro worker hworker
  rw [hnone] at hworker
  cases hworker

/-- **Some moves lead to a side** at which the responder waits. -/
def Settles (threads : Threads) (side : Side) : Prop :=
  ∃ moves, (threads.run moves).Rests ∧ (threads.run moves).side = side

theorem Rests.settles (h : threads.Rests) : threads.Settles threads.side :=
  ⟨[], h, rfl⟩

theorem Settles.of_step (move : Move) (h : (threads.step move).Settles side) :
    threads.Settles side := by
  obtain ⟨moves, hrests, hside⟩ := h
  exact ⟨move :: moves, hrests, hside⟩

/-! ### One step as a whole -/

/-- A worker that has been told to stop ends within two steps, and touches nothing. -/
theorem work_of_told {worker : JobThread} {job : Job} {status : JobStatus}
    (hworker : threads.worker = some worker) (htold : worker.told = true)
    (hrun : worker.job.step.run (threads.world.withStop true) =
      ((status, job), threads.world.withStop true)) :
    threads.step (.work none true) = { threads with worker := some ⟨job, true⟩ } := by
  have hstep : worker.step true threads.world = (⟨job, true⟩, threads.world) := by
    unfold JobThread.step
    dsimp only
    rw [htold, Bool.true_or, Bool.and_true, hrun]
    rfl
  unfold step work
  dsimp only
  rw [hworker]
  dsimp only
  rw [hstep]
  unfold hear
  dsimp only
  rw [List.drop_length, List.append_nil]

/-- **A worker is stopped as a whole**: nothing comes of it but that it has ended. -/
theorem Sound.settles_of_stopping (h : threads.Sound fs fruitful) {plan : Plan}
    (hpoint : threads.point = .stopping plan)
    (hnext : ∀ others, ({ threads with worker := none, others }.carryOn plan).Settles side) :
    threads.Settles side := by
  refine .of_step .advance ?_
  show threads.advance.Settles side
  unfold Threads.advance Threads.stopWorker
  rw [hpoint]
  dsimp only
  cases hworker : threads.worker with
  | none =>
    have hsame := hnext threads.others
    rw [← hworker] at hsame
    exact hsame
  | some worker =>
    obtain ⟨range, -, -, -, -, htells⟩ := h.worker worker hworker
    obtain ⟨front, count, done, hserves⟩ := htells.exists_servesOn
    have hstopped : worker.job.ServesOn range front (threads.world.withStop true).store count done :=
      hserves
    obtain ⟨first, second, mid, last, hfirst, hsecond, hended⟩ :=
      Job.ends_of_cancelled hstopped rfl
    -- two steps of the worker, and it can be let go of
    let held (job : Job) : Threads :=
      { threads with worker := some ⟨job, true⟩, point := .joining plan }
    have hone : (held worker.job).step (.work none true) = held mid := work_of_told rfl rfl hfirst
    have htwo : (held mid).step (.work none true) = held last := work_of_told rfl rfl hsecond
    show (held worker.job).Settles side
    refine .of_step (.work none true) ?_
    rw [hone]
    refine .of_step (.work none true) ?_
    rw [htwo]
    refine .of_step .advance ?_
    show ((held last).joinWorker plan).Settles side
    unfold Threads.joinWorker
    dsimp only [held]
    rw [if_pos hended]
    have hlast := hnext (⟨last, true⟩ :: threads.others)
    rw [← carryOn_withPoint _ (.joining plan)] at hlast
    exact hlast

/-- A failure is told, unless it is one of the session. -/
def withFailure (requestId : String) (result : Except ExchangeError Unit)
    (world : World Channel) : World Channel :=
  match result with
  | .ok () => world
  | .error error => ((World.fail .responder .download requestId error).run world).2

/-- **The handling of a message comes to an end**, well or with a failure that is told. -/
theorem settles_of_result {result : Except ExchangeError Unit} {requestId : String}
    (huntold : ∀ worker, threads.worker = some worker → worker.told = false)
    (hpoint : threads.point =
      match result with
      | .ok () => .ready
      | .error error => .failing requestId error) :
    threads.Settles
      ⟨threads.settings, threads.exchange, withFailure requestId result threads.world⟩ := by
  cases result with
  | ok _ => exact Rests.settles ⟨hpoint, huntold⟩
  | error error =>
    refine .of_step .advance ?_
    have hadvance : threads.step .advance = { threads with
        world := withFailure requestId (.error error) threads.world
        point := .ready } := by
      exact advance_failing hpoint
    rw [hadvance]
    exact Rests.settles ⟨rfl, huntold⟩

/-- A call has been made, and the responder goes on. -/
theorem settles_of_ok {α : Type} {action : StepM Channel α} {next : Threads → α → Threads}
    {value : α} {world : World Channel} (hadvance : threads.advance = threads.attempt action next)
    (hrun : action.run.run threads.world = (.ok value, world))
    (hnext : (next { threads with world } value).Settles side) : threads.Settles side := by
  refine .of_step .advance ?_
  show threads.advance.Settles side
  rw [hadvance, attempt_ok hrun]
  exact hnext

/-- A call has failed, and that is told. -/
theorem settles_of_error {α : Type} {action : StepM Channel α} {next : Threads → α → Threads}
    {error : ExchangeError} {world : World Channel}
    (huntold : ∀ worker, threads.worker = some worker → worker.told = false)
    (hadvance : threads.advance = threads.attempt action next)
    (hrun : action.run.run threads.world = (.error error, world)) :
    threads.Settles
      ⟨threads.settings, threads.exchange, withFailure threads.requestId (.error error) world⟩ := by
  refine .of_step .advance ?_
  show threads.advance.Settles _
  rw [hadvance, attempt_error hrun]
  exact settles_of_result huntold rfl

/-- A call has been made, and the threads still keep to what they keep to. -/
theorem Sound.of_ok {α : Type} {action : StepM Channel α} {next : Threads → α → Threads}
    {value : α} {world : World Channel} (h : threads.Sound fs fruitful)
    (hadvance : threads.advance = threads.attempt action next)
    (hrun : action.run.run threads.world = (.ok value, world)) :
    (next { threads with world } value).Sound fs fruitful := by
  have hnext := h.advance
  rw [hadvance, attempt_ok hrun] at hnext
  exact hnext

/-- **An answer is sent as a whole.** -/
theorem settles_of_telling {message : Message} {result : Except ExchangeError Unit}
    {world : World Channel}
    (huntold : ∀ worker, threads.worker = some worker → worker.told = false)
    (hpoint : threads.point = .telling message)
    (hsend : (World.send message).run.run threads.world = (result, world)) :
    threads.Settles
      ⟨threads.settings, threads.exchange, withFailure threads.requestId result world⟩ := by
  cases result with
  | error error => exact settles_of_error huntold (advance_telling hpoint) hsend
  | ok _ =>
    refine settles_of_ok (advance_telling hpoint) hsend ?_
    exact settles_of_result huntold rfl

/-- **A message is handled as a whole**, if its command is one of the exchange. -/
theorem process_of_handled {message : Message} {command : Command} {server : FileServer}
    {handled : WorldM Channel (Handled FileServer)} {result : Except ExchangeError Unit}
    {world : World Channel} (hcheck : threads.exchange.check message = .ok command)
    (hhandle : Responder.handle threads.settings threads.requestId command message
        (.download ⟨threads.file, threads.size, threads.worker.map JobThread.job⟩) =
      handled >>= fun handled ↦ pure (handled.1, .download handled.2))
    (hrun : handled.run threads.world = ((result, server), world)) :
    threads.side.process message =
      ⟨threads.settings, ⟨threads.requestId, .responder (.download server)⟩,
        withFailure threads.requestId result world⟩ := by
  have hid : message.requestId = threads.requestId := (Exchange.of_check_eq_ok hcheck).1
  have hhandled : (threads.side.exchange.handle threads.side.settings command message).run
      threads.side.world =
        ((result, ⟨threads.requestId, .responder (.download server)⟩), world) := by
    change (Responder.handle threads.settings threads.requestId command message
        (.download ⟨threads.file, threads.size, threads.worker.map JobThread.job⟩) >>=
      fun handled ↦ pure (handled.1, (⟨threads.requestId, .responder handled.2⟩ : Exchange)) :
        WorldM Channel (Handled Exchange)).run threads.world = _
    rw [StateT.run_bind, hhandle, StateT.run_bind, hrun]
    rfl
  rw [Side.process_eq hcheck, hhandled, hid]
  cases result <;> rfl

/-! ### Messages as a whole -/

/-- To stop the worker of a responder touches nothing. -/
theorem Sound.stopJob_run (h : threads.Sound fs fruitful) (world : World Channel)
    (hstore : world.store = threads.world.store) :
    (FileServer.stopJob ⟨threads.file, threads.size, threads.worker.map JobThread.job⟩ :
        WorldM Channel FileServer).run world = (⟨threads.file, threads.size, none⟩, world) := by
  have hstop : (Listing.stopJob (threads.worker.map JobThread.job) :
      WorldM Channel Unit).run world = ((), world) := by
    cases hworker : threads.worker with
    | none => rfl
    | some worker =>
      obtain ⟨range, -, -, -, -, htells⟩ := h.worker worker hworker
      obtain ⟨front, count, done, hserves⟩ := htells.exists_servesOn
      exact Job.stop_run_of_serves (hstore ▸ hserves)
  unfold FileServer.stopJob
  rw [run_bind_of_run hstop]
  rfl

/-- A message that comes to a responder at rest leads to its point. -/
theorem Rests.settles_of_arrive (hrests : threads.Rests) {message : Message} {point : Point}
    (hpoint : threads.pointOf message = point)
    (hnext : { threads with point }.Settles side) : threads.Settles side := by
  refine .of_step (.arrive message) ?_
  unfold step
  dsimp only
  rw [hrests.point]
  dsimp only
  rw [hpoint]
  exact hnext

/-- **A range of the open file is served as a whole.** -/
theorem Sound.settles_of_range (h : threads.Sound fs fruitful) {range : ByteRange} {file : FileId}
    {message : Message} {server : FileServer} {result : Except ExchangeError Unit}
    {world : World Channel} (hpoint : threads.point = .stopping (.serve range file))
    (hrange : FileServer.requestedRange? message = some range) (hfile : threads.file = some file)
    (hrun : (FileServer.serve ⟨threads.file, threads.size, threads.worker.map JobThread.job⟩
      threads.settings threads.requestId message).run threads.world = ((result, server), world)) :
    threads.Settles ⟨threads.settings, ⟨threads.requestId, .responder (.download server)⟩,
      withFailure threads.requestId result world⟩ := by
  refine h.settles_of_stopping hpoint fun others ↦ ?_
  have hstop := h.stopJob_run threads.world rfl
  unfold FileServer.serve at hrun
  rw [hrange] at hrun
  rw [hfile] at hrun hstop
  dsimp only at hrun
  rw [run_bind_of_run hstop] at hrun
  unfold Threads.carryOn
  dsimp only at hrun ⊢
  cases hclamp : clampRange range.first range.last threads.size with
  | none =>
    rw [hclamp] at hrun
    rcases hsend : (World.send (downloadEnd threads.requestId)).run.run threads.world with
      ⟨told, last⟩
    change StateT.run ((World.send (downloadEnd threads.requestId)).run >>= fun told ↦
      (pure (told, ⟨some file, threads.size, none⟩) : WorldM Channel (Handled FileServer)))
        threads.world = _ at hrun
    rw [run_bind_of_run hsend] at hrun
    obtain ⟨rfl, rfl, rfl⟩ := run_inj hrun
    rw [← hfile]
    exact settles_of_telling (untold_of_none rfl) rfl hsend
  | some ends =>
    obtain ⟨first, last⟩ := ends
    rw [hclamp] at hrun
    rcases hseek : (World.share (Share.seek file (UInt64.ofNat first)) :
      StepM Channel Nat).run.run threads.world with ⟨told, mid⟩
    dsimp only at hrun ⊢
    rw [run_bind_of_run hseek] at hrun
    rw [← hfile] at hrun
    cases told with
    | error error =>
      obtain ⟨rfl, rfl, rfl⟩ := run_inj hrun
      exact settles_of_error (untold_of_none rfl) (advance_seeking rfl) hseek
    | ok moved =>
      obtain ⟨rfl, rfl, rfl⟩ := run_inj hrun
      refine settles_of_ok (advance_seeking rfl) hseek ?_
      refine .of_step .advance ?_
      exact Rests.settles ⟨rfl, by rintro _ ⟨⟩; rfl⟩

/-- **A request for a range is handled as a whole.** -/
theorem Sound.settles_of_serve (h : threads.Sound fs fruitful) (hrests : threads.Rests)
    {message : Message} (hcheck : threads.exchange.check message = .ok .downloadDataReq) :
    threads.Settles (threads.side.process message) := by
  have hid : message.requestId = threads.requestId := (Exchange.of_check_eq_ok hcheck).1
  rcases hrun : (FileServer.serve ⟨threads.file, threads.size, threads.worker.map JobThread.job⟩
    threads.settings threads.requestId message).run threads.world with ⟨⟨result, server⟩, world⟩
  rw [process_of_handled hcheck rfl hrun]
  have harrive := h.arrive message
  -- without a range, or without a file, the request fails at once
  have hfails : ∀ error, threads.pointOf message = .failing threads.requestId error →
      ((result, server), world) = ((.error error,
        ⟨threads.file, threads.size, threads.worker.map JobThread.job⟩), threads.world) →
      threads.Settles ⟨threads.settings, ⟨threads.requestId, .responder (.download server)⟩,
        withFailure threads.requestId result world⟩ := by
    rintro error hpoint hfailed
    obtain ⟨rfl, rfl, rfl⟩ := run_inj hfailed
    exact hrests.settles_of_arrive hpoint (settles_of_result hrests.untold rfl)
  unfold FileServer.serve at hrun
  cases hrange : FileServer.requestedRange? message with
  | none =>
    rw [hrange] at hrun
    refine hfails _ ?_ hrun.symm
    unfold pointOf
    rw [hcheck, hid]
    dsimp only
    rw [hrange]
  | some range =>
    cases hfile : threads.file with
    | none =>
      rw [hrange, hfile] at hrun
      refine hfails _ ?_ (by rw [hfile]; exact hrun.symm)
      unfold pointOf
      rw [hcheck, hid]
      dsimp only
      rw [hrange, hfile]
    | some file =>
      have hpoint : threads.pointOf message = .stopping (.serve range file) := by
        unfold pointOf
        rw [hcheck]
        dsimp only
        rw [hrange, hfile]
      refine hrests.settles_of_arrive hpoint ?_
      rw [hpoint] at harrive
      exact harrive.settles_of_range rfl hrange hfile hrun

/-- To give a file up leaves nothing open. -/
theorem closeFile_run (file : Option FileId) (size : UInt64) (world : World Channel) :
    (FileServer.closeFile ⟨file, size, none⟩ : WorldM Channel FileServer).run world =
      (⟨none, size, none⟩, ((FileServer.closeFile ⟨file, size, none⟩ :
        WorldM Channel FileServer).run world).2) := by
  cases file <;> rfl

/-- **Another file takes the place of the open one as a whole.** -/
theorem Sound.settles_of_replace (h : threads.Sound fs fruitful) {url : String} {file : FileId}
    {stat : Stat} {server : FileServer} {result : Except ExchangeError Unit}
    {world : World Channel} (hpoint : threads.point = .stopping (.replace url file stat))
    (hrun : (do
      let server ← (← FileServer.stopJob
        ⟨threads.file, threads.size, threads.worker.map JobThread.job⟩).closeFile
      let result ← (World.send (downloadReady threads.requestId
        (stat.toFileInfo (Url.lastSegment url)))).run
      pure (result, { server with file := some file, size := stat.size }) :
        WorldM Channel (Handled FileServer)).run threads.world = ((result, server), world)) :
    threads.Settles ⟨threads.settings, ⟨threads.requestId, .responder (.download server)⟩,
      withFailure threads.requestId result world⟩ := by
  refine h.settles_of_stopping hpoint fun others ↦ ?_
  rw [run_bind_of_run (h.stopJob_run threads.world rfl),
    run_bind_of_run (closeFile_run threads.file threads.size threads.world)] at hrun
  obtain ⟨closed, hclosed⟩ : ∃ closed, closed = ((FileServer.closeFile
    ⟨threads.file, threads.size, none⟩ : WorldM Channel FileServer).run threads.world).2 :=
      ⟨_, rfl⟩
  rw [← hclosed] at hrun
  rcases hsend : (World.send (downloadReady threads.requestId
    (stat.toFileInfo (Url.lastSegment url)))).run.run closed with ⟨told, last⟩
  rw [run_bind_of_run hsend] at hrun
  obtain ⟨rfl, rfl, rfl⟩ := run_inj hrun
  refine .of_step .advance ?_
  unfold Threads.step Threads.advance Threads.carryOn Threads.closeFile
  dsimp only
  rw [← hclosed]
  exact settles_of_telling (untold_of_none rfl) rfl hsend

/-- **An opening request is handled as a whole.** -/
theorem Sound.settles_of_begin (h : threads.Sound fs fruitful) (hrests : threads.Rests)
    {message : Message} (hcheck : threads.exchange.check message = .ok .downloadInitReq) :
    threads.Settles (threads.side.process message) := by
  have hid : message.requestId = threads.requestId := (Exchange.of_check_eq_ok hcheck).1
  rcases hrun : (FileServer.begin ⟨threads.file, threads.size, threads.worker.map JobThread.job⟩
    threads.requestId message).run threads.world with ⟨⟨result, server⟩, world⟩
  rw [process_of_handled hcheck rfl hrun]
  have hpoint : threads.pointOf message = .connecting message := by
    unfold pointOf
    rw [hcheck]
  have hconnecting := h.arrive message
  refine hrests.settles_of_arrive hpoint ?_
  rw [hpoint] at hconnecting
  unfold FileServer.begin at hrun
  have hfailed : ∀ {error : ExchangeError} {last : World Channel},
      (FileServer.openSource message).run.run threads.world = (.error error, last) →
        ((.error error, ⟨threads.file, threads.size, threads.worker.map JobThread.job⟩), last) =
          ((result, server), world) := fun hopen ↦ by
    rw [run_bind_of_run hopen] at hrun
    exact hrun
  -- three calls, of which each may fail
  unfold FileServer.openSource at hfailed hrun
  rcases hconnect : (World.connect message).run.run threads.world with ⟨error | url, first⟩
  · obtain ⟨rfl, rfl, rfl⟩ := run_inj (hfailed (bind_run_of_error _ hconnect))
    exact settles_of_error hrests.untold (advance_connecting rfl) hconnect
  have hopening := hconnecting.of_ok (advance_connecting rfl) hconnect
  refine settles_of_ok (advance_connecting rfl) hconnect ?_
  rcases hopen : (World.share (Share.openFile url .read) : StepM Channel FileId).run.run first with
    ⟨error | file, second⟩
  · obtain ⟨rfl, rfl, rfl⟩ := run_inj (hfailed
      ((bind_run_of_ok _ hconnect).trans (bind_run_of_error _ hopen)))
    exact settles_of_error hrests.untold (advance_opening rfl) hopen
  have hlooking := hopening.of_ok (advance_opening rfl) hopen
  refine settles_of_ok (advance_opening rfl) hopen ?_
  rcases hstat : (World.share (Share.fileStat file) : StepM Channel Stat).run.run second with
    ⟨error | stat, third⟩
  · obtain ⟨rfl, rfl, rfl⟩ := run_inj (hfailed ((bind_run_of_ok _ hconnect).trans
      ((bind_run_of_ok _ hopen).trans (bind_run_of_error _ hstat))))
    exact settles_of_error hrests.untold (advance_looking rfl) hstat
  have hstopping := hlooking.of_ok (advance_looking rfl) hstat
  refine settles_of_ok (advance_looking rfl) hstat ?_
  rw [run_bind_of_run ((bind_run_of_ok _ hconnect).trans
    ((bind_run_of_ok _ hopen).trans (bind_run_of_ok _ hstat)))] at hrun
  exact hstopping.settles_of_replace rfl hrun

/-- **A message is handled as a whole.** -/
theorem Sound.settles_of_message (h : threads.Sound fs fruitful) (hrests : threads.Rests)
    (message : Message) : threads.Settles (threads.side.process message) := by
  cases hcheck : threads.exchange.check message with
  | error error =>
    have hpoint : threads.pointOf message = .failing message.requestId error := by
      unfold pointOf
      rw [hcheck]
    have hprocess : threads.side.process message = ⟨threads.settings, threads.exchange,
        withFailure message.requestId (.error error) threads.world⟩ := by
      unfold Side.process Exchange.process
      have hcheck' : threads.side.exchange.check message = .error error := hcheck
      rw [hcheck']
      rfl
    rw [hprocess]
    exact hrests.settles_of_arrive hpoint (settles_of_result hrests.untold rfl)
  | ok command =>
    by_cases hinit : command = .downloadInitReq
    · exact h.settles_of_begin hrests (hinit ▸ hcheck)
    by_cases hdata : command = .downloadDataReq
    · exact h.settles_of_serve hrests (hdata ▸ hcheck)
    -- a responder of a download has no use for any other command
    have hpoint : threads.pointOf message =
        .failing message.requestId (.unexpectedCommand command.code) := by
      unfold pointOf
      rw [hcheck]
      cases command <;> first | rfl | exact absurd rfl hinit | exact absurd rfl hdata
    have hhandle : Responder.handle threads.settings threads.requestId command message
        (.download ⟨threads.file, threads.size, threads.worker.map JobThread.job⟩) =
          (pure (.error (.unexpectedCommand command.code),
            ⟨threads.file, threads.size, threads.worker.map JobThread.job⟩) :
              WorldM Channel (Handled FileServer)) >>=
            fun handled ↦ pure (handled.1, .download handled.2) := by
      cases command <;> first | rfl | exact absurd rfl hinit | exact absurd rfl hdata
    have hid : message.requestId = threads.requestId := (Exchange.of_check_eq_ok hcheck).1
    rw [hid] at hpoint
    rw [process_of_handled hcheck hhandle rfl]
    exact hrests.settles_of_arrive hpoint (settles_of_result hrests.untold rfl)

/-- **A responder quits as a whole.** -/
theorem Sound.settles_of_quit (h : threads.Sound fs fruitful) (hrests : threads.Rests) :
    threads.Settles threads.side.quit := by
  obtain ⟨closed, hclosed⟩ : ∃ closed, closed = ((FileServer.closeFile
    ⟨threads.file, threads.size, none⟩ : WorldM Channel FileServer).run threads.world).2 :=
      ⟨_, rfl⟩
  have hserver : (FileServer.quit ⟨threads.file, threads.size, threads.worker.map JobThread.job⟩ :
      WorldM Channel FileServer).run threads.world = (⟨none, threads.size, none⟩, closed) := by
    unfold FileServer.quit
    rw [run_bind_of_run (h.stopJob_run threads.world rfl), closeFile_run, hclosed]
  have hquit : (Responder.quit (.download
      ⟨threads.file, threads.size, threads.worker.map JobThread.job⟩)).run threads.side.world =
        (.download ⟨none, threads.size, none⟩, closed) := by
    unfold Responder.quit
    dsimp only
    rw [show threads.side.world = threads.world from rfl, run_bind_of_run hserver]
    rfl
  rw [Side.quit_responder rfl hquit]
  have hleave := h.step .leave fun _ ↦ trivial
  refine .of_step .leave ?_
  have hstep : threads.step .leave = { threads with point := .stopping .leave } := by
    unfold Threads.step
    dsimp only
    rw [hrests.point]
  rw [hstep] at hleave ⊢
  refine hleave.settles_of_stopping rfl fun others ↦ .of_step .advance ?_
  unfold Threads.step Threads.advance Threads.carryOn Threads.closeFile
  dsimp only
  rw [← hclosed]
  exact Rests.settles ⟨rfl, untold_of_none rfl⟩

/-- **A step of the background job is one of the worker**, which knows whether it is to stop. -/
theorem Rests.settles_of_work (hrests : threads.Rests) : threads.Settles threads.side.work := by
  cases hworker : threads.worker with
  | none =>
    have hnone : threads.side.exchange.party.job? = none := by
      show threads.worker.map JobThread.job = none
      rw [hworker]
      rfl
    rw [Side.work_of_none hnone]
    exact hrests.settles
  | some worker =>
    have hjob : threads.side.exchange.party.job? = some worker.job := by
      show threads.worker.map JobThread.job = some worker.job
      rw [hworker]
      rfl
    rcases hrun : worker.job.step.run threads.world with ⟨⟨status, job⟩, world⟩
    have hstops : world.outlet.isCancelled = threads.world.outlet.isCancelled :=
      (Job.step_keeps_channel hrun).2
    have hstep : worker.step true threads.world = (⟨job, false⟩, world) := by
      have hseen : threads.world.withStop (true && (worker.told ||
          threads.world.outlet.isCancelled)) = threads.world := by
        rw [hrests.untold worker hworker]
        rfl
      have hafter : world.withStop threads.world.outlet.isCancelled = world := by
        rw [← hstops]
        rfl
      unfold JobThread.step
      dsimp only
      rw [hseen, hrun, hafter, hrests.untold worker hworker]
    rw [Side.work_of_run rfl hjob hrun]
    refine .of_step (.work none true) ?_
    have hwork : threads.step (.work none true) =
        { threads.hear world with worker := some ⟨job, false⟩ } := by
      unfold Threads.step Threads.work
      dsimp only
      rw [hworker]
      dsimp only
      rw [hstep]
    rw [hwork]
    exact Rests.settles ⟨hrests.point, by rintro _ ⟨⟩; rfl⟩

/-- **Whatever happens to a responder as a whole happens to its threads.** -/
theorem Sound.settles_of_live (h : threads.Sound fs fruitful) (hrests : threads.Rests)
    (moment : Moment) : threads.Settles (threads.side.live moment) := by
  have hsurroundings : ∀ move, (threads.step move).Rests →
      (threads.step move).side = threads.side.live moment →
        threads.Settles (threads.side.live moment) := fun move hrests hside ↦
    .of_step move (hside ▸ hrests.settles)
  cases moment with
  | work => exact hrests.settles_of_work
  | cancel => exact hsurroundings .cancel ⟨hrests.point, hrests.untold⟩ rfl
  | meets happening =>
    cases happening with
    | message message => exact h.settles_of_message hrests message
    | quit => exact h.settles_of_quit hrests
    | transmit => exact hsurroundings .transmit ⟨hrests.point, hrests.untold⟩ rfl
    | connection isUp => exact hsurroundings (.connection isUp) ⟨hrests.point, hrests.untold⟩ rfl
    | faults others => exact hsurroundings (.faults others) ⟨hrests.point, hrests.untold⟩ rfl

/-- **Every run of a responder as a whole is a run of its threads.** -/
theorem Sound.settles_of_liveAll (h : threads.Sound fs False) (hrests : threads.Rests)
    (moments : List Moment) : threads.Settles (threads.side.liveAll moments) := by
  induction moments generalizing threads with
  | nil => exact hrests.settles
  | cons moment moments ih =>
    obtain ⟨moves, hrests', hside⟩ := h.settles_of_live hrests moment
    obtain ⟨more, hlast⟩ := ih (h.run moves False.elim) hrests'
    rw [hside] at hlast
    refine ⟨moves ++ more, ?_⟩
    rw [run_append]
    exact hlast

end Threads

end FileShare
