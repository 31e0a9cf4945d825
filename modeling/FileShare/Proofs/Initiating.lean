import FileShare.Proofs.Sending

/-!
# The initiator of an upload

How far an upload has come at its initiator is its `Progress`: it waits for the responder, it has
queued so many bytes of the local file, or it has found that there is no file. What the initiator
remembers in each case is `Sender.At`. It says in particular that the count of bytes is right, which
is why it is the size of the file when the upload is complete.

There is one theorem for each thing that can happen to an initiator (`Side.Sends`). Each says that
the initiator goes on, or begins, and what it has queued. Only one of them can complete the upload
(`Side.Sends.done`).
-/

namespace FileShare

/-! ### Messages and progress -/

/-- The responder is ready. -/
def uploadReady (requestId : String) : Message :=
  .of requestId .uploadInitResp (.status .success)

/-- The upload is in its place. -/
def uploadDone (requestId : String) : Message :=
  .of requestId .uploadEndResp (.status .success)

/-- One of the sides cannot go on. -/
def uploadFailed (requestId : String) (status : Status) : Message :=
  .of requestId .uploadError (.status status)

/-- **How far an upload has come** at its initiator. -/
inductive Progress where
  /-- The responder has not answered. -/
  | waiting
  /-- So many bytes have been queued, and perhaps the end message. -/
  | sending (count : Nat) (done : Bool)
  /-- There is nothing to send. -/
  | abandoned

open Conversation (Machine)

/-- What the initiator of an upload reads. -/
def Conversation.Machine.source (machine : Machine) : Except IoError FileSystem.Opened :=
  LocalFile.openToRead machine.store.fs machine.workDir machine.settings.request.inputFile

/-- How many bytes the initiator of an upload reads at once. -/
def Conversation.Machine.readSize (machine : Machine) : Nat :=
  max 1 machine.settings.writeBuffer

variable {client : Machine} {requestId : String} {progress : Progress}

/-- **How an initiator begins**, and what it queues. -/
inductive Begins (client : Machine) (requestId : String) : Progress → List Message → Prop where
  | ready {opened : FileSystem.Opened} (hsource : client.source = .ok opened) :
      Begins client requestId (.sending 0 false) []
  | gone {messages : List Message}
      (hmessages : messages = [] ∨ ∃ status, messages = [uploadFailed requestId status]) :
      Begins client requestId .abandoned messages

/-- **How an initiator goes on**, and what it queues. -/
inductive Goes (client : Machine) (requestId : String) :
    Progress → Progress → List Message → Prop where
  | stay (progress : Progress) : Goes client requestId progress progress []
  | emit {opened : FileSystem.Opened} {count count' : Nat} {done done' : Bool}
      {messages : List Message} (hsource : client.source = .ok opened)
      (hemits : Emits (uploadCarrier requestId) (opened ≠ .directory)
        (client.store.fs.bytesOf opened) count done count' done' messages) :
      Goes client requestId (.sending count done) (.sending count' done') messages

/-- **What an initiator remembers** when it has come so far: as long as it has not failed, it knows
how many bytes have been queued. -/
inductive Sender.At (client : Machine) (requestId : String) :
    Progress → Sender → Option Outcome → Prop where
  | waiting {outcome : Option Outcome} (hopen : outcome = none ∨ Outcome.IsFailure outcome) :
      Sender.At client requestId .waiting .idle outcome
  | sending {opened : FileSystem.Opened} {job : Job} {sent : UInt64} {count : Nat} {done : Bool}
      {outcome : Option Outcome} (hsource : client.source = .ok opened)
      (hjob : job.IsUpload requestId)
      (hfeeds : job.isEnded = true ∨ Feeds requestId opened (client.store.fs.bytesOf opened)
        client.readSize job.offer job.producer count done)
      (hcount : outcome = none ∧ job.sent = UInt64.ofNat count ∨ Outcome.IsFailure outcome) :
      Sender.At client requestId (.sending count done) ⟨some job, sent⟩ outcome
  | stopped {sent : UInt64} {count : Nat} {done : Bool} {outcome : Option Outcome}
      (hcount : sent = UInt64.ofNat count ∨ Outcome.IsFailure outcome) :
      Sender.At client requestId (.sending count done) ⟨none, sent⟩ outcome
  | abandoned {sent : UInt64} {outcome : Option Outcome} (hfailed : Outcome.IsFailure outcome) :
      Sender.At client requestId .abandoned ⟨none, sent⟩ outcome

/-- **A side is the initiator of an upload** that has come so far. -/
structure Side.Sends (side : Side) (client : Machine) (requestId : String) (progress : Progress) :
    Prop where
  settings : side.settings = client.settings
  fs : side.world.store.fs = client.store.fs
  workDir : side.world.workDir = client.workDir
  sender : ∃ sender, side.exchange = ⟨requestId, .initiator (.upload sender)⟩ ∧
    sender.At client requestId progress side.world.outcome

/-- **The initiator has moved on** in some way, by what it has queued, and has not completed the
upload. -/
def Side.Advances (side side' : Side) (client : Machine) (requestId : String)
    (moves : Progress → List Message → Prop) : Prop :=
  ∃ progress messages, moves progress messages ∧ side'.Sends client requestId progress ∧
    side'.world.outlet.underway = side.world.outlet.underway ++ messages ∧
    ∀ entries bytes, side'.world.outcome = some (.completed entries bytes) →
      side.world.outcome = some (.completed entries bytes)

namespace Sender

variable {sender sender' : Sender} {outcome : Option Outcome} {world world' : World Channel}

/-- A failure does not change how far an upload has come. -/
theorem At.fail (h : sender.At client requestId progress outcome) (error : ExchangeError) :
    sender.At client requestId progress (outcome.or (some (.ofError error))) := by
  cases h with
  | waiting hopen => exact .waiting (.inr (Outcome.isFailure_or_ofError error hopen))
  | sending hsource hjob hfeeds hcount =>
    exact .sending hsource hjob hfeeds
      (.inr (Outcome.isFailure_or_ofError error (hcount.imp_left And.left)))
  | stopped hcount => exact .stopped (hcount.imp_right (·.or _))
  | abandoned hfailed => exact .abandoned (hfailed.or _)

/-- **To stop sending** forgets the job, and keeps the count. -/
theorem At.stopJob (h : sender.At client requestId progress outcome)
    (hrun : sender.stopJob.run world = (sender', world')) :
    world' = world ∧ sender'.job = none ∧ sender'.At client requestId progress outcome := by
  cases h with
  | waiting hopen =>
    obtain ⟨rfl, rfl⟩ := Prod.mk.inj hrun
    exact ⟨rfl, rfl, .waiting hopen⟩
  | sending hsource hjob hfeeds hcount =>
    rename_i job _ _ _
    unfold Sender.stopJob at hrun
    dsimp only at hrun
    rw [StateT.run_bind, Job.stop_run_of_feeds hfeeds] at hrun
    obtain ⟨rfl, rfl⟩ := Prod.mk.inj hrun
    exact ⟨rfl, rfl, .stopped (hcount.imp_left And.right)⟩
  | stopped hcount =>
    obtain ⟨rfl, rfl⟩ := Prod.mk.inj hrun
    exact ⟨rfl, rfl, .stopped hcount⟩
  | abandoned hfailed =>
    obtain ⟨rfl, rfl⟩ := Prod.mk.inj hrun
    exact ⟨rfl, rfl, .abandoned hfailed⟩

/-- **To begin** is to open the local file: it is sent from the start, in the place of what was sent
before, or the responder is told that there is nothing to send. -/
theorem begin_run (sender : Sender) (settings : TransferSettings) (requestId : String)
    (world : World Channel) :
    (sender.begin settings requestId).run world =
      match LocalFile.openToRead world.store.fs world.workDir settings.request.inputFile with
      | .error error =>
        let status := sourceMissing settings.request.inputFile error
        let (told, mid) := (World.send (uploadFailed requestId status)).run.run world
        ((told.bind fun () ↦ .error (.io error), sender), mid)
      | .ok opened =>
        let (stopped, mid) := sender.stopJob.run world
        ((.ok (), { stopped with
          job := some (.start .initiator .upload requestId
            (.upload ⟨opened, 0, max 1 settings.writeBuffer⟩) stopped.sent) }), mid) := by
  show StateT.run (match LocalFile.openToRead world.store.fs world.workDir
      settings.request.inputFile with
    | .error error => do
      let told ← (World.send (.of requestId .uploadError
        (.status (sourceMissing settings.request.inputFile error)))).run
      pure (told.bind fun () ↦ .error (.io error), sender)
    | .ok file => do
      let sender ← sender.stopJob
      let source : FileSource := ⟨file, 0, max 1 settings.writeBuffer⟩
      pure (.ok (), { sender with
        job := some (.start .initiator .upload requestId (.upload source) sender.sent) }))
    world = _
  cases LocalFile.openToRead world.store.fs world.workDir settings.request.inputFile <;> rfl

end Sender

namespace Side

variable {side : Side} {sender sender' : Sender} {message : Message} {command : Command}
variable {result : Except ExchangeError Unit} {mid : World Channel}

/-- What an initiator of an upload does with a message, from how its sender handles it. -/
theorem process_sender (hexchange : side.exchange = ⟨requestId, .initiator (.upload sender)⟩)
    (hcheck : side.exchange.check message = .ok command) (handled : WorldM Channel (Handled Sender))
    (hhandle : Initiator.handle side.settings requestId command message (.upload sender) =
      handled >>= fun handled ↦ pure (handled.1, .upload handled.2))
    (hrun : handled.run side.world = ((result, sender'), mid)) :
    side.process message = ⟨side.settings, ⟨requestId, .initiator (.upload sender')⟩,
      { mid with outcome := Outcome.after mid.outcome result }⟩ := by
  have hinitiator : (Initiator.handle side.settings requestId command message
      (.upload sender)).run side.world = ((result, .upload sender'), mid) := by
    rw [hhandle, StateT.run_bind, hrun]
    rfl
  exact process_initiator hexchange hcheck hinitiator

namespace Sends

/-- What happens on the way changes no side. -/
theorem onChannel (h : side.Sends client requestId progress) (change : Channel → Channel) :
    (side.onChannel change).Sends client requestId progress :=
  ⟨h.settings, h.fs, h.workDir, h.sender⟩

theorem withFaults (h : side.Sends client requestId progress) (faults : List Fault) :
    (side.withFaults faults).Sends client requestId progress :=
  ⟨h.settings, h.fs, h.workDir, h.sender⟩

/-- **When the responder is ready**, the initiator begins to send, or tells that it cannot. -/
theorem ready (h : side.Sends client requestId .waiting) :
    side.Advances (side.process (uploadReady requestId)) client requestId
      (Begins client requestId) := by
  obtain ⟨sender, hexchange, hat⟩ := h.sender
  cases hat with
  | waiting hopen => ?_
  have hcheck : side.exchange.check (uploadReady requestId) = .ok .uploadInitResp := by
    rw [hexchange]
    exact Exchange.check_eq_ok rfl (Message.command?_of ..) rfl rfl
  have hsource : LocalFile.openToRead side.world.store.fs side.world.workDir
      side.settings.request.inputFile = client.source := by
    rw [h.fs, h.workDir, h.settings]
    rfl
  have hbegin := Sender.idle.begin_run side.settings requestId side.world
  rw [hsource] at hbegin
  have hhandle : Initiator.handle side.settings requestId .uploadInitResp (uploadReady requestId)
      (.upload .idle) = Sender.idle.begin side.settings requestId >>= fun handled ↦
        (pure (handled.1, .upload handled.2) : WorldM Channel (Handled Initiator)) := rfl
  cases hopened : client.source with
  | ok opened =>
    rw [hopened] at hbegin
    rw [process_sender hexchange hcheck _ hhandle hbegin]
    refine ⟨_, _, .ready hopened, ⟨h.settings, h.fs, h.workDir, _, rfl, .sending hopened
      ⟨rfl, rfl, rfl⟩ (.inr ?_) (hopen.imp_left (⟨·, rfl⟩))⟩, (List.append_nil _).symm,
      fun _ _ h ↦ h⟩
    rw [h.settings]
    exact .reading (Nat.zero_le _)
  | error error =>
    rw [hopened] at hbegin
    rcases hsend : (World.send (uploadFailed requestId (Sender.sourceMissing
      side.settings.request.inputFile error))).run.run side.world with ⟨told, mid⟩
    dsimp only at hbegin
    rw [hsend] at hbegin
    dsimp only at hbegin
    obtain ⟨hchannel, hsent⟩ := World.send_cases hsend
    -- whether or not that could be told, it is a failure
    obtain ⟨error', herror⟩ : ∃ error', (told.bind fun () ↦
        (.error (.io error) : Except ExchangeError Unit)) = .error error' := by
      cases told <;> exact ⟨_, rfl⟩
    rw [herror] at hbegin
    rw [process_sender hexchange hcheck _ hhandle hbegin]
    have hat : Sender.idle.At client requestId .abandoned
        (Outcome.after mid.outcome (.error error')) :=
      .abandoned (Outcome.isFailure_or_ofError error' (by rwa [hchannel.outcome]))
    have hcompleted : ∀ entries bytes, Outcome.after mid.outcome (.error error') =
        some (.completed entries bytes) → side.world.outcome = some (.completed entries bytes) :=
      fun entries bytes hdone ↦ hchannel.outcome ▸ Outcome.eq_completed_of_or hdone
    have hsends : Side.Sends ⟨side.settings, ⟨requestId, .initiator (.upload .idle)⟩,
        { mid with outcome := Outcome.after mid.outcome (.error error') }⟩ client requestId
          .abandoned :=
      ⟨h.settings, (congrArg (·.fs) hchannel.store).trans h.fs, hchannel.workDir.trans h.workDir,
        _, rfl, hat⟩
    rcases hsent with hsent | ⟨-, hsent⟩
    · exact ⟨_, _, .gone (.inr ⟨_, rfl⟩), hsends, hsent, hcompleted⟩
    · exact ⟨_, _, .gone (.inl rfl), hsends, hsent.trans (List.append_nil _).symm, hcompleted⟩

/-- **When the upload is in its place**, it is complete, unless it has failed before. -/
theorem done {count : Nat} {isDone : Bool}
    (h : side.Sends client requestId (.sending count isDone)) :
    let side' := side.process (uploadDone requestId)
    side'.Sends client requestId (.sending count isDone) ∧
      side'.world.outlet = side.world.outlet ∧
      ∀ entries bytes, side'.world.outcome = some (.completed entries bytes) →
        side.world.outcome = some (.completed entries bytes) ∨
          entries = [] ∧ bytes = UInt64.ofNat count := by
  obtain ⟨sender, hexchange, hat⟩ := h.sender
  have hcheck : side.exchange.check (uploadDone requestId) = .ok .uploadEndResp := by
    rw [hexchange]
    exact Exchange.check_eq_ok rfl (Message.command?_of ..) rfl rfl
  rcases hstop : sender.stopJob.run side.world with ⟨stopped, mid⟩
  obtain ⟨rfl, hnone, hat⟩ := hat.stopJob hstop
  have hfinish : sender.finish.run side.world = ((.ok (), stopped),
      { side.world with
        outcome := side.world.outcome.or (some (.completed [] stopped.sent)) }) := by
    unfold Sender.finish
    rw [StateT.run_bind, hstop]
    rfl
  rw [process_sender hexchange hcheck _ rfl hfinish]
  obtain ⟨job, sent⟩ := stopped
  obtain rfl : job = none := hnone
  cases hat with
  | stopped hcount => ?_
  refine ⟨⟨h.settings, h.fs, h.workDir, _, rfl, .stopped (hcount.imp_right (·.or _))⟩, rfl, ?_⟩
  intro entries bytes hdone
  change side.world.outcome.or (some (.completed [] sent)) = _ at hdone
  rcases hcount with hcount | ⟨code, reason, hfailed⟩
  · cases houtcome : side.world.outcome with
    | none =>
      rw [houtcome] at hdone
      obtain ⟨rfl, rfl⟩ := Outcome.completed.inj (Option.some.inj hdone)
      exact .inr ⟨rfl, hcount⟩
    | some outcome =>
      rw [houtcome] at hdone
      exact .inl hdone
  · rw [hfailed] at hdone
    cases hdone

/-- **When the responder has failed**, nothing more is sent. -/
theorem failed (h : side.Sends client requestId progress) (status : Status) :
    side.Advances (side.process (uploadFailed requestId status)) client requestId
      (Goes client requestId progress) := by
  obtain ⟨sender, hexchange, hat⟩ := h.sender
  have hcheck : side.exchange.check (uploadFailed requestId status) = .ok .uploadError := by
    rw [hexchange]
    exact Exchange.check_eq_ok rfl (Message.command?_of ..) rfl rfl
  rcases hstop : sender.stopJob.run side.world with ⟨stopped, mid⟩
  obtain ⟨rfl, -, hat⟩ := hat.stopJob hstop
  have hrefused : (sender.refused (uploadFailed requestId status)).run side.world =
      ((.error (.ofPeer .uploadError (uploadFailed requestId status)), stopped), side.world) := by
    unfold Sender.refused
    rw [StateT.run_bind, hstop]
    rfl
  rw [process_sender hexchange hcheck _ rfl hrefused]
  exact ⟨_, _, .stay _, ⟨h.settings, h.fs, h.workDir, _, rfl, hat.fail _⟩,
    (List.append_nil _).symm, fun _ _ hdone ↦ Outcome.eq_completed_of_or hdone⟩

/-- **A step of the job** sends what follows. -/
theorem work (h : side.Sends client requestId progress) :
    side.Advances side.work client requestId (Goes client requestId progress) := by
  obtain ⟨sender, hexchange, hat⟩ := h.sender
  -- without a job, nothing happens
  have hidle : sender.job = none →
      side.Advances side.work client requestId (Goes client requestId progress) := by
    intro hnone
    have hjob : side.exchange.party.job? = none := by
      rw [hexchange]
      exact hnone
    rw [work_of_none hjob]
    exact ⟨_, _, .stay _, h, (List.append_nil _).symm, fun _ _ h ↦ h⟩
  cases hat with
  | waiting hopen => exact hidle rfl
  | stopped hcount => exact hidle rfl
  | abandoned hfailed => exact hidle rfl
  | sending hsource hjob hfeeds hcount =>
    rename_i opened job sent count isDone
    rcases hrun : job.step.run side.world with ⟨⟨status, job'⟩, world'⟩
    have hread : client.readSize ≠ 0 := by
      unfold Machine.readSize
      omega
    obtain ⟨count', done', messages, hfed⟩ := Job.step_fed hjob hread
      (congrArg (·.bytesOf opened) h.fs) hfeeds hrun
    have hwork : side.work = ⟨side.settings,
        ⟨requestId, .initiator (.upload ⟨some job', sent⟩)⟩, world'⟩ :=
      work_of_run hexchange rfl hrun
    rw [hwork]
    refine ⟨_, messages, .emit hsource hfed.emits, ⟨h.settings,
      (congrArg (·.fs) hfed.store).trans h.fs, hfed.workDir.trans h.workDir, _, rfl,
      .sending hsource hfed.isUpload hfed.feeds ?_⟩, hfed.underway, ?_⟩
    · show world'.outcome = none ∧ _ ∨ Outcome.IsFailure world'.outcome
      rcases hfed.counts with ⟨houtcome, hcounted⟩ | ⟨error, houtcome⟩
      · rw [houtcome]
        exact hcount.imp_left (And.imp_right hcounted)
      · rw [houtcome]
        exact .inr (Outcome.isFailure_or_ofError error (hcount.imp_left And.left))
    · intro entries bytes hdone
      rcases hfed.counts with ⟨houtcome, -⟩ | ⟨error, houtcome⟩
      · exact houtcome ▸ hdone
      · exact Outcome.eq_completed_of_or (houtcome ▸ hdone)

/-- **To quit** only stops the job. -/
theorem quit (h : side.Sends client requestId progress) :
    side.Advances side.quit client requestId (Goes client requestId progress) := by
  obtain ⟨sender, hexchange, hat⟩ := h.sender
  rcases hstop : sender.stopJob.run side.world with ⟨stopped, mid⟩
  obtain ⟨rfl, -, hat⟩ := hat.stopJob hstop
  have hquit : (Initiator.quit (.upload sender)).run side.world =
      (.upload stopped, side.world) := by
    unfold Initiator.quit
    rw [StateT.run_bind, hstop]
    rfl
  rw [quit_initiator hexchange hquit]
  exact ⟨_, _, .stay _, ⟨h.settings, h.fs, h.workDir, _, rfl, hat⟩, (List.append_nil _).symm,
    fun _ _ h ↦ h⟩

end Sends

end Side

end FileShare
