import FileShare.Proofs.Causes

/-!
# Every failure that is told has a cause

The law of `Proofs.Causes`, carried through everything that a side does: through the handlers of
both sides, through their background jobs, and through stopping them
(`Side.KeepsTo.candid_live`). So whatever error command a side sends in a moment, and whatever
failure it reports as its outcome, is put down to a call on the share that has failed in that
moment, to the message that the side has been given, or to a local file, unless it is about nothing
but the exchange itself.

A job may be stopped in a later moment than the one in which it was started. What it has in hand in
between is never an error command (`Job.IsPlain`), so nothing is told then that was put down to
something before.
-/

namespace FileShare

open World (Ensures Caused IsCaused)

/-! ### Background jobs -/

/-- A job that has no error command in hand. -/
def Job.IsPlain (job : Job) : Prop :=
  ∀ message ∈ job.offer, message.IsPlain

theorem Job.isPlain_start {role : Role} {family : Family} {requestId : String}
    {producer : Producer} {sent : UInt64} : (start role family requestId producer sent).IsPlain :=
  nofun

theorem Job.isPlain_none : ∀ job ∈ (none : Option Job), job.IsPlain :=
  fun _ hmem ↦ by cases hmem

/-- What comes of a producer: a message that tells no failure, or a failure that has a cause. -/
def Product.IsCaused (role : Role) (heard : Option Message) (log : CallLog) : Product → Prop
  | .message given _ => given.IsPlain
  | .failure error => error.HasCause role heard log
  | _ => True

variable {role : Role} {family : Family} {heard : Option Message} {before : CallLog}
variable {requestId : String}

/-- **A producer fails for a cause**, whether it has been told to stop or not. -/
theorem Producer.WorksFor.ensures_advance {producer : Producer} (h : producer.WorksFor family role)
    (requestId : String) (cancelled : Bool) :
    Ensures role heard before (producer.advance requestId cancelled)
      (Product.IsCaused role heard) := by
  cases h with
  | listing source =>
    refine Ensures.bind (Caused.share Share.caused_inspect) fun result log hresult ↦ ?_
    rcases result with error | _ | entry
    · exact .pure (hresult error rfl)
    · dsimp only
      split
      · exact .pure (Message.isPlain_of rfl)
      · exact .pure (Message.isPlain_of rfl)
    · dsimp only
      split
      · exact .pure trivial
      split
      · split
        · exact .pure (Message.isPlain_of rfl)
        · exact .pure trivial
      · exact .pure trivial
  | listed => exact .pure (Message.isPlain_of rfl)
  | range source =>
    rw [Producer.advance, Producer.advanceRange]
    split
    · exact .pure (Message.isPlain_of rfl)
    split
    · exact .pure (Message.isPlain_of rfl)
    split
    · exact .pure trivial
    refine Ensures.bind (Caused.share (Share.caused_read _ _)) fun result log hresult ↦ ?_
    cases result with
    | error error => exact .pure (hresult error rfl)
    | ok data =>
      dsimp only
      split
      · exact .pure (Message.isPlain_of rfl)
      · exact .pure trivial
  | upload source =>
    rw [Producer.advance, Producer.advanceUpload]
    split
    · exact .pure trivial
    split
    · exact .pure ⟨rfl, .inr rfl⟩
    · refine .get fun world ↦ ?_
      dsimp only
      split
      · exact .pure (Message.isPlain_of rfl)
      · exact .pure (Message.isPlain_of rfl)
  | finished => exact .pure trivial

namespace Job

variable {job : Job}

/-- What a job does comes to an end that is told, or leaves it without an error command in hand. -/
theorem ensures_failWith {error : ExchangeError} (hrole : job.role = role) (hplain : job.IsPlain)
    (h : error.HasCause role heard before) :
    Ensures role heard before (job.failWith error) fun _ handled ↦ handled.2.IsPlain := by
  subst hrole
  exact (World.ensures_fail h).bind fun _ _ _ ↦ .pure hplain

theorem WorksFor.ensures_produce (h : job.WorksFor requestId family role) (hplain : job.IsPlain) :
    Ensures role heard before job.produce fun _ handled ↦ handled.2.IsPlain := by
  refine .get fun world ↦ (h.producer.ensures_advance _ _).bind fun product log hproduct ↦ ?_
  cases product with
  | message message next => exact .pure fun other hmem ↦ Option.some.inj hmem ▸ hproduct
  | quiet next => exact .pure hplain
  | stop => exact .pure hplain
  | failure error => exact ensures_failWith h.role hplain hproduct

theorem WorksFor.ensures_offerOnce {message : Message} (h : job.WorksFor requestId family role)
    (hplain : job.IsPlain) (hmessage : message.IsPlain) :
    Ensures role heard before (job.offerOnce message) fun _ handled ↦ handled.2.IsPlain := by
  refine .get fun world ↦ ?_
  dsimp only
  split
  · exact .pure hplain
  split
  · refine Ensures.bind (Caused.send hmessage.hasCause) fun result log hresult ↦ ?_
    cases result with
    | ok _ => exact .pure nofun
    | error error => exact ensures_failWith h.role hplain (hresult error rfl)
  · refine Ensures.bind Caused.flush fun result log hresult ↦ ?_
    cases result with
    | ok _ => exact .get fun _ ↦ .pure hplain
    | error error => exact ensures_failWith h.role hplain (hresult error rfl)

/-- **A step of a job** tells no failure without a cause. -/
theorem WorksFor.ensures_step (h : job.WorksFor requestId family role) (hplain : job.IsPlain) :
    Ensures role heard before job.step fun _ handled ↦ handled.2.IsPlain := by
  rw [Job.step]
  split
  · exact .pure hplain
  split
  · rename_i message hoffer
    exact h.ensures_offerOnce hplain (hplain message hoffer)
  · exact h.ensures_produce hplain

theorem WorksFor.ensures_stop (h : job.WorksFor requestId family role) :
    Ensures role heard before job.stop fun _ _ ↦ True := by
  rw [Job.stop]
  split
  · refine (h.producer.ensures_advance _ _).bind fun product log hproduct ↦ ?_
    cases product with
    | failure error =>
      have hrole := h.role
      subst hrole
      exact World.ensures_fail hproduct
    | _ => exact .pure trivial
  · exact .pure trivial

end Job

/-! ### Responders -/

/-- **What handling a message ensures**: it fails for a cause, if it fails, and leaves no job with
an error command in hand. -/
abbrev Handles {σ : Type} (role : Role) (heard : Option Message) (before : CallLog)
    (job? : σ → Option Job) (action : WorldM Channel (Handled σ)) : Prop :=
  Ensures role heard before action fun log handled ↦
    IsCaused role heard log handled.1 ∧ ∀ job ∈ job? handled.2, job.IsPlain

variable (message : Message)

namespace Single

theorem caused_testConnection :
    Caused .responder heard before (testConnection requestId message) :=
  (Caused.connect message).bind fun url _ ↦ (Caused.share (caused_reach url)).bind fun _ _ ↦
    .send (Message.isPlain_of rfl).hasCause

theorem caused_addFolder : Caused .responder heard before (addFolder requestId message) :=
  (Caused.connect message).bind fun url _ ↦ (Caused.share (caused_make url)).bind fun _ _ ↦
    .send (Message.isPlain_of rfl).hasCause

theorem caused_delete : Caused .responder heard before (delete requestId message) :=
  (Caused.connect message).bind fun url _ ↦ (Caused.share (caused_remove url)).bind fun _ _ ↦
    .send (Message.isPlain_of rfl).hasCause

end Single

namespace Listing

variable {job : Option Job}

theorem ensures_stopJob (hworks : ∀ running ∈ job, running.WorksFor requestId family role) :
    Ensures role heard before (stopJob job) fun _ _ ↦ True := by
  cases job with
  | none => exact .pure trivial
  | some running => exact (hworks running rfl).ensures_stop

theorem caused_sendItself (url : String) :
    Caused .responder heard before (sendItself requestId url) :=
  (Caused.share (Share.caused_openFile url .read)).bind fun file _ ↦
    (Caused.share (Share.caused_fileStat file)).bind fun _ _ ↦
      Caused.lift (.onStore (Share.caused_close file).tolerate) fun _ _ ↦
        (Caused.send (Message.isPlain_of rfl).hasCause).bind fun _ _ ↦
          .send (Message.isPlain_of rfl).hasCause

theorem caused_openListing : Caused .responder heard before (openListing requestId message) := by
  rw [openListing]
  split
  · rename_i options _
    by_cases hpage : options.pageSize = 0
    · rw [if_pos hpage]
      exact .throw trivial
    rw [if_neg hpage]
    refine (Caused.connect message).bind fun url _ ↦ ?_
    -- that the directory cannot be opened is looked at before it is told
    refine Caused.outcome Share.caused_inspect fun opened log hopened ↦ ?_
    cases opened with
    | ok directory => exact .pure _
    | error error =>
      dsimp only
      split
      · exact (caused_sendItself url).bind fun _ _ ↦ .pure _
      · exact .throw ⟨rfl, hopened error rfl⟩
  · exact .throw trivial

theorem handles_answer (hworks : ∀ running ∈ job, running.WorksFor requestId family .responder)
    (hplain : ∀ running ∈ job, running.IsPlain) :
    Handles .responder heard before id (answer requestId message job) := by
  refine Ensures.bind (caused_openListing message) fun result log hresult ↦ ?_
  rcases result with error | _ | source
  · exact .pure ⟨World.isCaused_error (hresult error rfl), hplain⟩
  · exact .pure ⟨World.isCaused_ok _, hplain⟩
  · refine (ensures_stopJob hworks).bind fun _ _ _ ↦ .pure ⟨World.isCaused_ok _, ?_⟩
    intro running hmem
    exact Option.some.inj hmem ▸ Job.isPlain_start

end Listing

namespace FileServer

variable {server : FileServer}

theorem ensures_stopJob (hworks : ∀ job ∈ server.job, job.WorksFor requestId family role) :
    Ensures role heard before server.stopJob fun _ stopped ↦ stopped.job = none :=
  (Listing.ensures_stopJob hworks).bind fun _ _ _ ↦ .pure rfl

theorem ensures_closeFile (server : FileServer) :
    Ensures role heard before server.closeFile fun _ closed ↦ closed.job = server.job := by
  rw [closeFile]
  split
  · rename_i file _
    exact (Ensures.onStore (Share.caused_close file).tolerate).bind fun _ _ _ ↦ .pure rfl
  · exact .pure rfl

theorem caused_openSource : Caused .responder heard before (openSource message) :=
  (Caused.connect message).bind fun url _ ↦
    (Caused.share (Share.caused_openFile url .read)).bind fun file _ ↦
      (Caused.share (Share.caused_fileStat file)).bind fun _ _ ↦ .pure _

theorem handles_begin (hworks : ∀ job ∈ server.job, job.WorksFor requestId family .responder)
    (hplain : ∀ job ∈ server.job, job.IsPlain) :
    Handles .responder heard before FileServer.job (server.begin requestId message) := by
  refine Ensures.bind (caused_openSource message) fun result log hresult ↦ ?_
  rcases result with error | ⟨url, file, stat⟩
  · exact .pure ⟨World.isCaused_error (hresult error rfl), hplain⟩
  · refine (ensures_stopJob hworks).bind fun stopped _ hstopped ↦ ?_
    refine (ensures_closeFile stopped).bind fun closed _ hclosed ↦ ?_
    refine Ensures.bind (Caused.send (Message.isPlain_of rfl).hasCause) fun result _ hresult ↦ ?_
    have hnone : closed.job = none := hclosed.trans hstopped
    refine .pure ⟨hresult, ?_⟩
    show ∀ job ∈ closed.job, job.IsPlain
    rw [hnone]
    exact Job.isPlain_none

theorem handles_serve (settings : TransferSettings)
    (hworks : ∀ job ∈ server.job, job.WorksFor requestId family .responder)
    (hplain : ∀ job ∈ server.job, job.IsPlain) :
    Handles .responder heard before FileServer.job (server.serve settings requestId message) := by
  rw [serve]
  split
  · exact .pure ⟨World.isCaused_error trivial, hplain⟩
  · exact .pure ⟨World.isCaused_error trivial, hplain⟩
  · refine (ensures_stopJob hworks).bind fun stopped _ hstopped ↦ ?_
    have hnone : ∀ job ∈ stopped.job, job.IsPlain := by
      rw [hstopped]
      exact Job.isPlain_none
    split
    · exact Ensures.bind (Caused.send (Message.isPlain_of rfl).hasCause) fun result _ hresult ↦
        .pure ⟨hresult, hnone⟩
    · refine Ensures.bind (Caused.share (Share.caused_seek _ _)) fun sought _ hsought ↦ ?_
      cases sought with
      | error error => exact .pure ⟨World.isCaused_error (hsought error rfl), hnone⟩
      | ok _ =>
        refine .pure ⟨World.isCaused_ok _, fun job hmem ↦ ?_⟩
        exact Option.some.inj hmem ▸ Job.isPlain_start

theorem ensures_quit (hworks : ∀ job ∈ server.job, job.WorksFor requestId family role) :
    Ensures role heard before server.quit fun _ closed ↦ closed.job = none := by
  refine (ensures_stopJob hworks).bind fun stopped _ hstopped ↦ ?_
  exact (ensures_closeFile stopped).mono fun _ _ hclosed ↦ hclosed.trans hstopped

end FileServer

namespace Receiver

variable (receiver : Receiver)

theorem ensures_discard : Ensures role heard before receiver.discard fun _ _ ↦ True := by
  rw [discard]
  cases receiver.receiving with
  | none => exact .pure trivial
  | some receiving =>
    exact (Ensures.onStore receiving.ensures_discard).bind fun _ _ _ ↦ .pure trivial

/-- The failure that ends an upload is still there when the temporary file is removed. -/
theorem handles_abort {error : ExchangeError} (h : error.HasCause role heard before) :
    Handles role heard before (fun _ ↦ none) (receiver.abort error) := by
  refine (ensures_discard receiver).since.bind fun _ _ hsince ↦ ?_
  obtain ⟨-, log, rfl⟩ := hsince
  exact .pure ⟨World.isCaused_error h.mono, Job.isPlain_none⟩

/-- A temporary name is given out without a call. -/
theorem caused_numbered {α : Type} {f : Nat → StepM Channel α}
    (h : ∀ token, Caused role heard before (f token)) :
    Caused role heard before (get >>= fun world : World Channel ↦
      modify (fun world' ↦ { world' with
        store := { world'.store with tokens := world.store.tokens + 1 } }) >>= fun _ ↦
      f world.store.tokens) := by
  intro world
  obtain ⟨log, hlogs, hcandid, hgood⟩ := h world.store.tokens
    { world with store := { world.store with tokens := world.store.tokens + 1 } }
  exact ⟨log, ⟨hlogs.calls, Nat.le_of_succ_le hlogs.tokens⟩, ⟨hcandid.tells, hcandid.outcome⟩,
    hgood⟩

theorem caused_openTemporary : Caused .responder heard before (openTemporary message) := by
  refine (Caused.connect message).bind fun url _ ↦ ?_
  split
  · exact .throw trivial
  · rename_i parent _
    refine Caused.lift (.onStore (Share.caused_makeBranch parent).tolerate) fun _ _ ↦ ?_
    let numbered (token : Nat) : StepM Channel Receiving := do
      let temporary := Url.join parent (temporaryName token)
      let file ← World.share (Share.openFile temporary .create)
      pure ⟨url, temporary, some file⟩
    exact caused_numbered (f := numbered) fun token ↦
      (Caused.share (Share.caused_openFile _ _)).bind fun _ _ ↦ .pure _

theorem handles_begin :
    Handles .responder heard before (fun _ ↦ none) (receiver.begin requestId message) := by
  refine Ensures.bind (caused_openTemporary message) fun result log hresult ↦ ?_
  cases result with
  | error error => exact .pure ⟨World.isCaused_error (hresult error rfl), Job.isPlain_none⟩
  | ok receiving =>
    refine (ensures_discard receiver).bind fun _ _ _ ↦ ?_
    exact Ensures.bind (Caused.send (Message.isPlain_of rfl).hasCause) fun result _ hresult ↦
      .pure ⟨hresult, Job.isPlain_none⟩

theorem handles_accept :
    Handles .responder heard before (fun _ ↦ none) (receiver.accept message) := by
  rw [accept]
  split
  · exact .pure ⟨World.isCaused_ok _, Job.isPlain_none⟩
  split
  · exact .pure ⟨World.isCaused_error trivial, Job.isPlain_none⟩
  · exact handles_abort receiver trivial
  rename_i data receiving _ _
  cases hfile : receiving.file with
  | none =>
    have hwrite : receiving.write data =
        .error (.unexpectedCommand Command.uploadDataReq.code) := by
      rw [Receiving.write, hfile]
    rw [hwrite]
    exact handles_abort receiver trivial
  | some file =>
    have hwrite : receiving.write data = .ok (receiving.writeAll file data.size data) := by
      rw [Receiving.write, hfile]
    rw [hwrite]
    refine Ensures.bind (Caused.share (receiving.caused_writeAll file _ _))
      fun result _ hresult ↦ ?_
    cases result with
    | ok _ => exact .pure ⟨World.isCaused_ok _, Job.isPlain_none⟩
    | error error => exact handles_abort receiver (hresult error rfl)

theorem handles_complete :
    Handles .responder heard before (fun _ ↦ none) (receiver.complete requestId) := by
  rw [complete]
  split
  · exact .pure ⟨World.isCaused_ok _, Job.isPlain_none⟩
  split
  · exact handles_abort receiver trivial
  · rename_i receiving _
    refine Ensures.bind (Caused.share receiving.caused_commit) fun result log hresult ↦ ?_
    cases result with
    | error error => exact handles_abort _ (hresult error rfl)
    | ok _ =>
      exact Ensures.bind (Caused.send (Message.isPlain_of rfl).hasCause) fun result _ hresult ↦
        .pure ⟨hresult, Job.isPlain_none⟩

theorem handles_abandon :
    Handles .responder heard before (fun _ ↦ none) receiver.abandon :=
  (ensures_discard receiver).bind fun _ _ _ ↦ .pure ⟨World.isCaused_ok _, Job.isPlain_none⟩

theorem ensures_quit : Ensures role heard before receiver.quit fun _ _ ↦ True := by
  rw [quit]
  split
  · exact .pure trivial
  · exact ensures_discard receiver

end Receiver

namespace Responder

variable {state : Responder}

/-- **What a responder does with a command** tells no failure without a cause. -/
theorem handles_handle (settings : TransferSettings) (command : Command)
    (hworks : ∀ job ∈ state.job?, job.WorksFor requestId state.family .responder)
    (hplain : ∀ job ∈ state.job?, job.IsPlain) :
    Handles .responder heard before job? (state.handle settings requestId command message) := by
  unfold handle
  split
  · exact Ensures.bind (Single.caused_testConnection message) fun _ _ hresult ↦
      .pure ⟨hresult, hplain⟩
  · exact Ensures.bind (Single.caused_addFolder message) fun _ _ hresult ↦ .pure ⟨hresult, hplain⟩
  · exact Ensures.bind (Single.caused_delete message) fun _ _ hresult ↦ .pure ⟨hresult, hplain⟩
  · exact (Listing.handles_answer message hworks hplain).bind fun _ _ hhandled ↦ .pure hhandled
  · exact (FileServer.handles_begin message hworks hplain).bind fun _ _ hhandled ↦ .pure hhandled
  · exact (FileServer.handles_serve message settings hworks hplain).bind fun _ _ hhandled ↦
      .pure hhandled
  · exact (Receiver.handles_begin message _).bind fun _ _ hhandled ↦ .pure hhandled
  · exact (Receiver.handles_accept message _).bind fun _ _ hhandled ↦ .pure hhandled
  · exact (Receiver.handles_complete _).bind fun _ _ hhandled ↦ .pure hhandled
  · exact (Receiver.handles_abandon _).bind fun _ _ hhandled ↦ .pure hhandled
  · exact .pure ⟨World.isCaused_error trivial, hplain⟩

theorem ensures_quit (hworks : ∀ job ∈ state.job?, job.WorksFor requestId state.family .responder) :
    Ensures .responder heard before state.quit fun _ _ ↦ True := by
  unfold quit
  split
  · exact (Listing.ensures_stopJob hworks).bind fun _ _ _ ↦ .pure trivial
  · exact (FileServer.ensures_quit hworks).bind fun _ _ _ ↦ .pure trivial
  · exact (Receiver.ensures_quit _).bind fun _ _ _ ↦ .pure trivial
  · exact .pure trivial

end Responder

/-! ### Initiators -/

namespace Fetcher

variable (fetcher : Fetcher)

theorem ensures_dropSink : Ensures role heard before fetcher.dropSink fun _ _ ↦ True := by
  rw [dropSink]
  split
  · rename_i sink _
    have hflush : Ensures role heard before (modify fun world : World Channel ↦
        { world with store := { world.store with fs := (sink.flush world.store.fs).2 } })
        fun _ _ ↦ True :=
      .acts (fun world ↦ ((), (sink.flush world.store.fs).2)) fun _ ↦ trivial
    exact hflush.bind fun _ _ _ ↦ .pure trivial
  · exact .pure trivial

theorem caused_createSink (path : String) :
    Caused .initiator heard before (createSink path) := by
  intro world
  have hrun : (createSink path).run.run world = _ := createSink_run path world
  rw [hrun, created]
  rcases hcreate : LocalFile.create world.store.fs world.workDir path with error | ⟨fs, content⟩
  · exact ⟨[], .refl _, .nothing rfl rfl,
      World.isCaused_error ⟨rfl, .inl ⟨_, _, _, .inr hcreate⟩⟩⟩
  · exact ⟨[], ⟨(List.append_nil _).symm, Nat.le_refl _⟩, .nothing rfl rfl, World.isCaused_ok _⟩

theorem handles_begin (settings : TransferSettings) :
    Handles .initiator heard before (fun _ ↦ none) (fetcher.begin settings requestId message) := by
  rw [begin]
  split
  · split
    · exact .pure ⟨World.isCaused_error trivial, Job.isPlain_none⟩
    refine Ensures.bind (caused_createSink _) fun result log hresult ↦ ?_
    cases result with
    | error error => exact .pure ⟨World.isCaused_error (hresult error rfl), Job.isPlain_none⟩
    | ok sink =>
      refine (ensures_dropSink fetcher).bind fun _ _ _ ↦ ?_
      exact Ensures.bind (Caused.send (Message.isPlain_of rfl).hasCause) fun result _ hresult ↦
        .pure ⟨hresult, Job.isPlain_none⟩
  · exact .pure ⟨World.isCaused_error trivial, Job.isPlain_none⟩

theorem handles_accept :
    Handles .initiator heard before (fun _ ↦ none) (fetcher.accept message) := by
  rw [accept]
  split
  · exact .pure ⟨World.isCaused_error trivial, Job.isPlain_none⟩
  · exact .pure ⟨World.isCaused_error trivial, Job.isPlain_none⟩
  · rename_i sink data _ _
    let change (world : World Channel) : Handled Fetcher × FileSystem :=
      ((.ok (), { fetcher with
        sink := some (sink.write world.store.fs data).1
        received := fetcher.received + UInt64.ofNat data.size }),
        (sink.write world.store.fs data).2)
    exact .acts change fun _ ↦ ⟨World.isCaused_ok _, Job.isPlain_none⟩

theorem handles_finish : Handles .initiator heard before (fun _ ↦ none) fetcher.finish :=
  (ensures_dropSink fetcher).bind fun _ _ _ ↦ (Ensures.report (.inl rfl)).bind fun _ _ _ ↦
    .pure ⟨World.isCaused_ok _, Job.isPlain_none⟩

end Fetcher

namespace Sender

variable {sender : Sender}

theorem ensures_stopJob (hworks : ∀ job ∈ sender.job, job.WorksFor requestId family role) :
    Ensures role heard before sender.stopJob fun _ stopped ↦ stopped.job = none := by
  rw [stopJob]
  split
  · rename_i job hjob
    exact (hworks job hjob).ensures_stop.bind fun _ _ _ ↦ .pure rfl
  · rename_i hnone
    exact .pure hnone

/-- What the responder is told about a local file that cannot be opened is no success. -/
theorem hasCause_sourceMissing (path : String) (error : IoError) :
    (Message.of requestId .uploadError (.status (sourceMissing path error))).HasCause role heard
      before := by
  intro command status _ _ hstatus
  obtain rfl := Option.some.inj hstatus
  exact .inl rfl

theorem handles_begin (settings : TransferSettings)
    (hworks : ∀ job ∈ sender.job, job.WorksFor requestId .upload .initiator)
    (hplain : ∀ job ∈ sender.job, job.IsPlain) :
    Handles .initiator heard before Sender.job (sender.begin settings requestId) := by
  refine .get fun world ↦ ?_
  dsimp only
  split
  · rename_i error hopen
    refine Ensures.bind (Caused.send (hasCause_sourceMissing _ _)) fun told _ htold ↦ ?_
    refine .pure ⟨?_, hplain⟩
    cases told with
    | ok _ => exact World.isCaused_error ⟨rfl, .inl ⟨_, _, _, .inl hopen⟩⟩
    | error cause => exact World.isCaused_error (htold cause rfl)
  · refine (ensures_stopJob hworks).bind fun stopped _ _ ↦ .pure ⟨World.isCaused_ok _, ?_⟩
    intro job hmem
    exact Option.some.inj hmem ▸ Job.isPlain_start

theorem handles_answered (settings : TransferSettings)
    (hworks : ∀ job ∈ sender.job, job.WorksFor requestId .upload .initiator)
    (hplain : ∀ job ∈ sender.job, job.IsPlain) :
    Handles .initiator (some message) before Sender.job
      (sender.answered settings requestId message) := by
  rw [answered]
  split
  · rename_i status hstatus
    split
    · exact handles_begin settings hworks hplain
    · exact .pure ⟨World.isCaused_error ⟨rfl, message, rfl, by rw [hstatus]; rfl⟩, hplain⟩
  · exact handles_begin settings hworks hplain

theorem handles_finish (hworks : ∀ job ∈ sender.job, job.WorksFor requestId .upload .initiator) :
    Handles .initiator heard before Sender.job sender.finish := by
  refine (ensures_stopJob hworks).bind fun stopped _ hstopped ↦ ?_
  refine (Ensures.report (.inl rfl)).bind fun _ _ _ ↦ .pure ⟨World.isCaused_ok _, ?_⟩
  show ∀ job ∈ stopped.job, job.IsPlain
  rw [hstopped]
  exact Job.isPlain_none

theorem handles_refused (hworks : ∀ job ∈ sender.job, job.WorksFor requestId .upload .initiator) :
    Handles .initiator (some message) before Sender.job (sender.refused message) := by
  refine (ensures_stopJob hworks).bind fun stopped _ hstopped ↦ .pure ⟨?_, ?_⟩
  · exact World.isCaused_error ⟨rfl, message, rfl, rfl⟩
  · show ∀ job ∈ stopped.job, job.IsPlain
    rw [hstopped]
    exact Job.isPlain_none

end Sender

namespace Initiator

variable {state : Initiator}

theorem handles_conclude (hplain : ∀ job ∈ state.job?, job.IsPlain) :
    Handles .initiator heard before job? (state.conclude message) :=
  (Ensures.report (.inl rfl)).bind fun _ _ _ ↦ .pure ⟨World.isCaused_ok _, hplain⟩

/-- **What an initiator does with a command** tells no failure without a cause. -/
theorem handles_handle (settings : TransferSettings) (command : Command)
    (hworks : ∀ job ∈ state.job?, job.WorksFor requestId state.family .initiator)
    (hplain : ∀ job ∈ state.job?, job.IsPlain) :
    Handles .initiator (some message) before job?
      (state.handle settings requestId command message) := by
  have hpeer : (ExchangeError.ofPeer command message).HasCause .initiator (some message) before :=
    ⟨rfl, message, rfl, rfl⟩
  unfold handle
  split
  · exact handles_conclude message hplain
  · exact handles_conclude message hplain
  · exact handles_conclude message hplain
  · exact .pure ⟨World.isCaused_ok _, Job.isPlain_none⟩
  · exact (Ensures.report (.inl rfl)).bind fun _ _ _ ↦ .pure ⟨World.isCaused_ok _, Job.isPlain_none⟩
  · exact (Fetcher.handles_begin message _ _).bind fun _ _ hhandled ↦ .pure hhandled
  · exact (Fetcher.handles_accept message _).bind fun _ _ hhandled ↦ .pure hhandled
  · exact (Fetcher.handles_finish _).bind fun _ _ hhandled ↦ .pure hhandled
  · refine (Fetcher.ensures_dropSink _).since.bind fun _ _ hsince ↦ ?_
    obtain ⟨-, log, rfl⟩ := hsince
    exact .pure ⟨World.isCaused_error ⟨rfl, message, rfl, rfl⟩, Job.isPlain_none⟩
  · exact (Sender.handles_answered message settings hworks hplain).bind fun _ _ hhandled ↦
      .pure hhandled
  · exact (Sender.handles_finish hworks).bind fun _ _ hhandled ↦ .pure hhandled
  · exact (Sender.handles_refused message hworks).bind fun _ _ hhandled ↦ .pure hhandled
  · split
    · exact .pure ⟨World.isCaused_error hpeer, hplain⟩
    · exact .pure ⟨World.isCaused_error trivial, hplain⟩

theorem ensures_quit (hworks : ∀ job ∈ state.job?, job.WorksFor requestId state.family .initiator) :
    Ensures .initiator heard before state.quit fun _ _ ↦ True := by
  unfold quit
  split
  · exact (Fetcher.ensures_dropSink _).bind fun _ _ _ ↦ .pure trivial
  · exact (Sender.ensures_stopJob hworks).bind fun _ _ _ ↦ .pure trivial
  · exact .pure trivial

end Initiator

/-! ### Exchanges -/

namespace Exchange

variable {exchange : Exchange}

/-- A check that fails is about the message alone. -/
theorem hasCause_check {error : ExchangeError} (h : exchange.check message = .error error) :
    error.HasCause role heard before := by
  rcases of_check_eq_error h with rfl | rfl <;> trivial

theorem handles_handle (settings : TransferSettings) (command : Command)
    (hworks : ∀ job ∈ exchange.party.job?,
      job.WorksFor exchange.requestId exchange.family exchange.party.role)
    (hplain : ∀ job ∈ exchange.party.job?, job.IsPlain) :
    Handles exchange.party.role (some message) before (·.party.job?)
      (exchange.handle settings command message) := by
  obtain ⟨requestId, state | state⟩ := exchange
  · exact (Responder.handles_handle message settings command hworks hplain).bind
      fun _ _ hhandled ↦ .pure hhandled
  · exact (Initiator.handles_handle message settings command hworks hplain).bind
      fun _ _ hhandled ↦ .pure hhandled

/-- **Taking a message** tells no failure without a cause. -/
theorem handles_process (settings : TransferSettings)
    (hworks : ∀ job ∈ exchange.party.job?,
      job.WorksFor exchange.requestId exchange.family exchange.party.role)
    (hplain : ∀ job ∈ exchange.party.job?, job.IsPlain) :
    Handles exchange.party.role (some message) before (·.party.job?)
      (exchange.process settings message) := by
  have htell {error : ExchangeError} {next : Exchange} {log : CallLog}
      (hcause : error.HasCause exchange.party.role (some message) log)
      (hnext : ∀ job ∈ next.party.job?, job.IsPlain) :
      Handles exchange.party.role (some message) log (·.party.job?)
        (World.fail exchange.party.role exchange.family message.requestId error >>= fun _ ↦
          pure (.error error, next)) := by
    refine (World.ensures_fail hcause).since.bind fun _ _ hsince ↦ ?_
    obtain ⟨-, log, rfl⟩ := hsince
    exact .pure ⟨World.isCaused_error hcause.mono, hnext⟩
  unfold process
  cases hcheck : exchange.check message with
  | error error => exact htell (hasCause_check message hcheck) hplain
  | ok command =>
    refine (handles_handle message settings command hworks hplain).bind
      fun handled log hhandled ↦ ?_
    obtain ⟨result, next⟩ := handled
    obtain ⟨hresult, hnext⟩ := hhandled
    cases result with
    | ok _ => exact .pure ⟨World.isCaused_ok _, hnext⟩
    | error error => exact htell (hresult error rfl) hnext

theorem ensures_quit (hworks : ∀ job ∈ exchange.party.job?,
      job.WorksFor exchange.requestId exchange.family exchange.party.role) :
    Ensures exchange.party.role heard before exchange.quit fun _ quitted ↦
      quitted.party.job? = none := by
  obtain ⟨requestId, state | state⟩ := exchange
  all_goals intro world
  · obtain ⟨log, hlogs, hcandid, -⟩ := Responder.ensures_quit hworks world
    exact ⟨log, hlogs, hcandid, state.job_of_quit world⟩
  · obtain ⟨log, hlogs, hcandid, -⟩ := Initiator.ensures_quit hworks world
    exact ⟨log, hlogs, hcandid, state.job_of_quit world⟩

theorem ensures_stepJob (hworks : ∀ job ∈ exchange.party.job?,
      job.WorksFor exchange.requestId exchange.family exchange.party.role)
    (hplain : ∀ job ∈ exchange.party.job?, job.IsPlain) :
    Ensures exchange.party.role heard before exchange.stepJob fun _ stepped ↦
      ∀ job ∈ stepped.2.party.job?, job.IsPlain := by
  rw [stepJob]
  split
  · rename_i job hjob
    refine ((hworks job hjob).ensures_step (hplain job hjob)).bind fun stepped _ hstepped ↦ ?_
    refine .pure fun other hmem ↦ ?_
    obtain rfl := Option.some.inj ((Party.job_of_withJob hjob).symm.trans hmem)
    exact hstepped
  · exact .pure hplain

end Exchange

/-! ### Moments -/

/-- The message that a side is given in a moment. -/
def Moment.message? : Moment → Option Message
  | .meets (.message message) => some message
  | _ => none

namespace Side

variable {side : Side}

/-- The calls that have been made on the share of a side between two moments. -/
def callsUntil (side later : Side) : CallLog :=
  later.world.store.calls.toList.drop side.world.store.calls.size

theorem callsUntil_eq {later : Side} {log : CallLog}
    (h : side.world.store.Logs later.world.store log) : side.callsUntil later = log := by
  rw [callsUntil, h.calls, List.drop_left' Array.length_toList]

/-- No job of a side has an error command in hand. -/
def IsPlain (side : Side) : Prop :=
  ∀ job ∈ side.exchange.party.job?, job.IsPlain

/-- **In every moment, no failure is told without a cause**: a call that fails in that moment, the
message that the side is given, or a local file. -/
theorem KeepsTo.candid_live (h : side.KeepsTo requestId family role) (hplain : side.IsPlain)
    (moment : Moment) : (side.live moment).IsPlain ∧
      side.world.Candid role moment.message? (side.callsUntil (side.live moment))
        (side.live moment).world := by
  obtain ⟨hworks, rfl, rfl, rfl⟩ := h
  have hmakes {log : CallLog} {later : Side} (hlater : later.IsPlain)
      (hlogs : side.world.store.Logs later.world.store log)
      (hcandid : side.world.Candid side.exchange.party.role moment.message? log later.world) :
      later.IsPlain ∧ side.world.Candid side.exchange.party.role moment.message?
        (side.callsUntil later) later.world := by
    rw [callsUntil_eq hlogs]
    exact ⟨hlater, hcandid⟩
  have hidle {later : Side} (hexchange : later.exchange = side.exchange)
      (hcalls : later.world.store.calls = side.world.store.calls)
      (htokens : later.world.store.tokens = side.world.store.tokens)
      (houtcome : later.world.outcome = side.world.outcome)
      (hsaid : later.world.outlet.underway = side.world.outlet.underway) :
      later.IsPlain ∧ side.world.Candid side.exchange.party.role moment.message?
        (side.callsUntil later) later.world := by
    have hlogs : side.world.store.Logs later.world.store [] :=
      ⟨by rw [hcalls, List.append_nil], Nat.le_of_eq htokens.symm⟩
    refine hmakes ?_ hlogs (.nothing hsaid houtcome)
    rw [IsPlain, hexchange]
    exact hplain
  cases moment with
  | cancel => exact hidle rfl rfl rfl rfl rfl
  | work =>
    obtain ⟨log, hlogs, hcandid, hstepped⟩ :=
      (Exchange.ensures_stepJob hworks hplain).alone side.world
    exact hmakes hstepped hlogs hcandid
  | meets happening =>
    cases happening with
    | transmit => exact hidle rfl rfl rfl rfl (Channel.underway_transmit _)
    | connection isUp => exact hidle rfl rfl rfl rfl rfl
    | faults faults => exact hidle rfl rfl rfl rfl rfl
    | message message =>
      obtain ⟨log, hlogs, hcandid, -, hnext⟩ :=
        (Exchange.handles_process message side.settings hworks hplain).alone side.world
      exact hmakes hnext hlogs hcandid
    | quit =>
      obtain ⟨log, hlogs, hcandid, hnone⟩ := (Exchange.ensures_quit hworks).alone side.world
      have hquit : side.quit.exchange.party.job? = none := hnone
      have hplain' : side.quit.IsPlain := by
        rw [IsPlain, hquit]
        exact Job.isPlain_none
      exact hmakes hplain' hlogs hcandid

/-- A side that can be reached has no error command in hand. -/
theorem Reachable.isPlain (h : side.Reachable requestId family role) : side.IsPlain := by
  induction h with
  | fresh settings world =>
    cases role <;> cases family <;> exact Job.isPlain_none
  | live before moment ih => exact (before.keepsTo.candid_live ih moment).1
  | elsewhere before world ih => exact ih

end Side

end FileShare
