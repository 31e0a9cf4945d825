import FileShare.Proofs.Ledger
import FileShare.Proofs.Dialogue

/-!
# What failures are put down to

A failure of the share has the number with which a call has failed, and calls are recorded with
their answers. So the record tells where such a failure comes from, wherever it turns up later: a
call that was made before has failed with that number (`ShareError.HasCause`). A few failures are
no call's, and their numbers are known.

That is kept as a law of computations. `Share.Ensures` says what a computation on the store makes
sure of in view of all calls that have been made, those before it and its own, and
`World.Ensures` says the same of a computation on a world, of which it says besides that it tells no
failure without a cause. Both pass from one computation to the next (`Ensures.bind`), so there is
one lemma for every call, and one for every handler.

Nothing is said here about which numbers there are, nor about which of them a status may carry.
-/

namespace FileShare

/-- All calls that have been made, the oldest first, with their answers. -/
abbrev CallLog := List (Call × Answer)

/-! ### Failures of the share -/

/-- **What a failure of the share is put down to**: a call that has failed with its number. The ones
that no call has reported are failures of input or output, and directories that are none. -/
def ShareError.HasCause (log : CallLog) (error : ShareError) : Prop :=
  (∃ call, (call, .failed error.errno) ∈ log) ∨
    error.errno = .ioFailure ∨ error.errno = .notDirectory

theorem ShareError.HasCause.mono {log log' : CallLog} {error : ShareError}
    (h : error.HasCause log) : error.HasCause (log ++ log') :=
  h.imp_left fun ⟨call, hmem⟩ ↦ ⟨call, List.mem_append_left _ hmem⟩

namespace Share

variable {α β : Type} {before : CallLog}

/-- A result that is no failure without a cause. -/
def IsCaused (log : CallLog) (result : Except ShareError α) : Prop :=
  ∀ error, result = .error error → error.HasCause log

theorem isCaused_ok {log : CallLog} (a : α) : IsCaused log (.ok a : Except ShareError α) :=
  nofun

/-- **What a computation on a store ensures** in view of all calls: those before it, and its own. -/
def Ensures (before : CallLog) (action : StateM Store α) (good : CallLog → α → Prop) : Prop :=
  ∀ store, ∃ log, store.Logs (action.run store).2 log ∧
    good (before ++ log) (action.run store).1

namespace Ensures

variable {good : CallLog → α → Prop} {action : StateM Store α}

theorem pure {a : α} (h : good before a) : Ensures before (Pure.pure a) good :=
  fun store ↦ ⟨[], .refl store, by rwa [List.append_nil]⟩

/-- **Of two computations in a row**, the second one finds the calls of the first one made. -/
theorem bind {f : α → StateM Store β} {last : CallLog → β → Prop}
    (h : Ensures before action good) (hnext : ∀ a log, good log a → Ensures log (f a) last) :
    Ensures before (action >>= f) last := by
  intro store
  obtain ⟨log, hlogs, hgood⟩ := h store
  obtain ⟨log', hlogs', hlast⟩ := hnext _ _ hgood (action.run store).2
  exact ⟨log ++ log', hlogs.trans hlogs', by rwa [← List.append_assoc]⟩

end Ensures

/-- **A computation that fails for a cause**, if it fails. -/
abbrev Caused (before : CallLog) (action : ShareM α) : Prop :=
  Ensures before action.run IsCaused

namespace Caused

variable {action : ShareM α} {next : α → ShareM β}

theorem pure (a : α) : Caused before (Pure.pure a : ShareM α) :=
  Ensures.pure (isCaused_ok a)

theorem throw {error : ShareError} (h : error.HasCause before) :
    Caused before (throw error : ShareM α) :=
  Ensures.pure fun _ heq ↦ Except.error.inj heq ▸ h

theorem bind (h : Caused before action) (hnext : ∀ a log, Caused log (next a)) :
    Caused before (action >>= next) := by
  rw [Caused, ExceptT.run_bind]
  refine Ensures.bind h fun result log hresult ↦ ?_
  cases result with
  | ok a => exact hnext a log
  | error error => exact Ensures.pure fun _ heq ↦ Except.error.inj heq ▸ hresult error rfl

/-- What an action comes to may be looked at; if it has failed, that has a cause. -/
theorem outcome {next : Except ShareError α → ShareM β} (h : Caused before action)
    (hnext : ∀ result log, IsCaused log result → Caused log (next result)) :
    Caused before (Share.outcome action >>= next) :=
  Ensures.bind (f := fun result ↦ (next result).run) h hnext

/-- What cannot fail comes before what can. -/
theorem lift {first : StateM Store β} {next : β → ShareM α} {good : CallLog → β → Prop}
    (h : Ensures before first good) (hnext : ∀ b log, Caused log (next b)) :
    Caused before ((liftM first : ShareM β) >>= next) :=
  Ensures.bind (f := fun b ↦ (next b).run) h fun b log _ ↦ hnext b log

theorem tolerate (h : Caused before action) :
    Ensures before (Share.tolerate action) fun _ _ ↦ True :=
  Ensures.bind h fun _ _ _ ↦ .pure trivial

end Caused

/-! #### Calls -/

/-- **A call that fails is the cause of its failure.** -/
theorem caused_attempt {call : Call} {answer : α → Answer}
    {body : Option Nat → Store → Except ShareError α × Store}
    (hbody : ∀ limit store, (body limit store).2.calls = store.calls ∧
      (body limit store).2.tokens = store.tokens) : Caused before (attempt call answer body) := by
  intro store
  rcases hrun : (attempt call answer body).run.run store with ⟨result, last⟩
  have hcaused {errno : Errno} {error : ShareError} (herror : error.errno = errno) :
      error.HasCause (before ++ [(call, .failed errno)]) :=
    .inl ⟨call, by rw [herror]; exact List.mem_append_right _ (.head _)⟩
  unfold attempt at hrun
  simp only [ExceptT.run_mk, StateT.run] at hrun
  split at hrun
  · obtain ⟨rfl, rfl⟩ := Prod.mk.inj hrun
    exact ⟨_, store.logs_record { store with faults := (Fault.disturb call store.faults).2 } rfl rfl
      _ _, fun error heq ↦ hcaused (Except.error.inj heq ▸ rfl)⟩
  · have hkeeps := hbody ((Fault.disturb call store.faults).1.bind (·.limit))
      { store with faults := (Fault.disturb call store.faults).2 }
    split at hrun
    all_goals
      rename_i hmade
      rw [hmade] at hkeeps
      obtain ⟨rfl, rfl⟩ := Prod.mk.inj hrun
    · exact ⟨_, store.logs_record _ hkeeps.1 hkeeps.2 _ _, isCaused_ok _⟩
    · exact ⟨_, store.logs_record _ hkeeps.1 hkeeps.2 _ _,
        fun error heq ↦ hcaused (Except.error.inj heq ▸ rfl)⟩

theorem caused_inspect {call : Call} {answer : α → Answer} {look : Store → Except Errno α} :
    Caused before (inspect call answer look) :=
  caused_attempt fun _ _ ↦ ⟨rfl, rfl⟩

theorem caused_change {call : Call} {act : Store → Except Errno FileSystem} :
    Caused before (change call act) :=
  caused_attempt fun _ _ ↦ by split <;> exact ⟨rfl, rfl⟩

theorem caused_onFile {operation : Operation} {argument : Argument} {id : FileId}
    {answer : α → Answer} {body : OpenFile → Option Nat → Store → Except Errno α × Store}
    (hbody : ∀ file limit store, (body file limit store).2.calls = store.calls ∧
      (body file limit store).2.tokens = store.tokens) :
    Caused before (onFile operation argument id answer body) := by
  intro store
  rw [onFile_run]
  refine caused_attempt (fun limit mid ↦ ?_) store
  split
  · exact hbody _ _ _
  · exact ⟨rfl, rfl⟩

theorem caused_rename (source target : String) : Caused before (rename source target) := by
  unfold rename
  refine caused_attempt fun _ store ↦ ?_
  dsimp only
  split <;> exact ⟨rfl, rfl⟩

theorem caused_openFile (url : String) (mode : OpenMode) : Caused before (openFile url mode) := by
  unfold openFile
  refine caused_attempt fun _ store ↦ ?_
  dsimp only
  split <;> exact ⟨rfl, rfl⟩

theorem caused_seek (id : FileId) (position : UInt64) : Caused before (seek id position) :=
  caused_onFile fun _ _ _ ↦ by split <;> exact ⟨rfl, rfl⟩

theorem caused_read (id : FileId) (size : Nat) : Caused before (read id size) :=
  caused_onFile fun _ _ _ ↦ by dsimp only; split <;> exact ⟨rfl, rfl⟩

theorem caused_write (id : FileId) (data : ByteArray) : Caused before (write id data) :=
  caused_onFile fun _ _ _ ↦ by dsimp only; split <;> exact ⟨rfl, rfl⟩

theorem caused_close (id : FileId) : Caused before (close id) :=
  caused_onFile fun _ _ _ ↦ ⟨rfl, rfl⟩

theorem caused_fileStat (id : FileId) : Caused before (fileStat id) :=
  caused_onFile fun _ _ _ ↦ ⟨rfl, rfl⟩

/-! #### What is made of calls -/

theorem caused_makeBranch (url : String) : Caused before (makeBranch url) := by
  -- the climb goes to ever shorter URLs
  induction hlength : url.toList.length using Nat.strongRecOn generalizing before url with
  | ind length ih =>
    subst hlength
    rw [makeBranch]
    refine caused_change.outcome fun result log hresult ↦ ?_
    cases result with
    | ok _ => exact .pure ()
    | error error =>
      have hcause := hresult error rfl
      dsimp only
      split
      · exact .pure ()
      split
      · split
        · exact .throw hcause
        rename_i parent hparent
        split
        · exact .throw hcause
        refine (ih _ (Url.length_parent?_lt hparent) parent rfl).bind fun _ _ ↦ ?_
        refine caused_change.outcome fun again log' hagain ↦ ?_
        cases again with
        | ok _ => exact .pure ()
        | error error' =>
          dsimp only
          split
          · exact .pure ()
          · exact .throw (hagain error' rfl)
      · exact .throw hcause

theorem ensures_clearEntries (depth : Nat) (url : String) (entries : List Entry) :
    Ensures before (clearEntries depth url entries) fun _ _ ↦ True := by
  -- the outer recursion is on the depth, and at one depth there are fewer and fewer entries
  induction depth using Nat.strongRecOn generalizing before url entries with
  | ind depth ihdepth =>
  induction entries generalizing before with
  | nil =>
    rw [clearEntries]
    exact caused_inspect.tolerate
  | cons entry rest ih =>
    rw [clearEntries]
    refine Ensures.bind caused_inspect fun result log _ ↦ ?_
    cases result with
    | error error => exact .pure trivial
    | ok _ =>
      have hrest {action : ShareM Unit} {log : CallLog} (haction : Caused log action) :
          Ensures log (Share.tolerate action >>= fun _ ↦ clearEntries depth url rest)
            fun _ _ ↦ True :=
        haction.tolerate.bind fun _ _ _ ↦ ih
      dsimp only
      split
      · exact ih
      split
      · split
        · exact hrest caused_change
        refine Ensures.bind caused_inspect fun opened log' _ ↦ ?_
        cases opened with
        | error error => exact hrest caused_change
        | ok directory =>
          exact (ihdepth _ (Nat.lt_succ_self _) _ _).bind fun _ _ _ ↦ hrest caused_change
      · exact hrest caused_change

theorem ensures_clear (url : String) (directory : Directory) :
    Ensures before (clear url directory) fun _ _ ↦ True :=
  ensures_clearEntries _ _ _

end Share

namespace Single

open Share

variable {before : CallLog}

theorem caused_reach (url : String) : Caused before (reach url) := by
  refine caused_inspect.outcome fun opened log hopened ↦ ?_
  cases opened with
  | ok _ =>
    refine caused_inspect.outcome fun result _ _ ↦ ?_
    cases result <;> exact .pure _
  | error error =>
    dsimp only
    split
    · exact (caused_openFile url .read).bind fun file _ ↦ (caused_fileStat file).bind fun _ _ ↦
        (caused_close file).bind fun _ _ ↦ .pure _
    · exact .throw (hopened error rfl)

theorem caused_make (url : String) : Caused before (make url) :=
  caused_change.bind fun _ _ ↦ caused_inspect

theorem caused_openDoomed (url : String) : Caused before (openDoomed url) := by
  refine caused_inspect.outcome fun looked log _ ↦ ?_
  cases looked with
  | ok stat =>
    dsimp only
    split
    · exact .throw (.inr (.inr rfl))
    · exact caused_inspect
  | error error => exact caused_inspect

theorem caused_remove (url : String) : Caused before (remove url) := by
  refine (caused_openDoomed url).outcome fun opened log _ ↦ ?_
  cases opened with
  | ok directory =>
    exact .lift (ensures_clear url directory) fun _ _ ↦ caused_change.bind fun _ _ ↦ .pure _
  | error error => exact caused_change.bind fun _ _ ↦ .pure _

end Single

namespace Receiving

open Share

variable {before : CallLog} (receiving : Receiving)

theorem caused_writeAll (file : FileId) (bound : Nat) (data : ByteArray) :
    Caused before (receiving.writeAll file bound data) := by
  induction bound generalizing before data with
  | zero => exact .pure ()
  | succ bound ih =>
    rw [writeAll]
    split
    · refine (caused_write file data).bind fun count log ↦ ?_
      split
      · exact .throw (.inr (.inl rfl))
      · exact ih _
    · exact .pure ()

theorem caused_commit : Caused before receiving.commit := by
  rw [commit]
  split
  · exact (caused_close _).bind fun _ _ ↦ caused_rename _ _
  · exact caused_rename _ _

theorem ensures_discard : Ensures before receiving.discard fun _ _ ↦ True := by
  rw [discard]
  split
  · exact (caused_close _).tolerate.bind fun _ _ _ ↦ caused_change.tolerate
  · exact caused_change.tolerate

end Receiving

/-! ### Failures of a step -/

/-- A failure of a local file: it could not be opened or created, or it is a directory. -/
def IoError.IsLocal (error : IoError) : Prop :=
  (∃ fs workDir path, LocalFile.openToRead fs workDir path = .error error ∨
    LocalFile.create fs workDir path = .error error) ∨ error = .ofErrno .isDirectory

/-- **What a failure of a step is put down to.** A failure of the share has a cause, and it is the
responder's. A failure that the peer has reported is the one that was heard. Local files are the
initiator's. All others are no failures of anything else. -/
def ExchangeError.HasCause (role : Role) (heard : Option Message) (log : CallLog) :
    ExchangeError → Prop
  | .share error => role = .responder ∧ error.HasCause log
  | .remote _ status => role = .initiator ∧ ∃ message, heard = some message ∧
      status = message.status?.getD (Status.ofCode StatusCode.error)
  | .io error => role = .initiator ∧ error.IsLocal
  | _ => True

/-- What is told as a failure has a cause, or it is none that could pass for a success. -/
def Message.HasCause (role : Role) (heard : Option Message) (log : CallLog) (message : Message) :
    Prop :=
  ∀ command status, message.command? = some command → command.isError = true →
    message.status? = some status →
      status.isSuccess = false ∨ ∃ error : ExchangeError,
        error.HasCause role heard log ∧ status = error.status

/-- An outcome that is a failure has a cause. -/
def Outcome.HasCause (role : Role) (heard : Option Message) (log : CallLog) (outcome : Outcome) :
    Prop :=
  outcome.isSuccess = true ∨
    ∃ error : ExchangeError, error.HasCause role heard log ∧ outcome = .ofError error

/-- A message that tells no failure. -/
def Message.IsPlain (message : Message) : Prop :=
  ∀ command, message.command? = some command → command.isError = false

theorem Message.isPlain_of {requestId : String} {command : Command} {body : Body}
    (h : command.isError = false) : (Message.of requestId command body).IsPlain := by
  intro other hother
  rw [command?_of] at hother
  exact Option.some.inj hother ▸ h

section Mono

variable {role : Role} {heard : Option Message} {log log' : CallLog}

theorem ExchangeError.HasCause.mono {error : ExchangeError} (h : error.HasCause role heard log) :
    error.HasCause role heard (log ++ log') := by
  cases error with
  | share error => exact ⟨h.1, h.2.mono⟩
  | _ => exact h

theorem Message.HasCause.mono {message : Message} (h : message.HasCause role heard log) :
    message.HasCause role heard (log ++ log') := by
  intro command status hcommand herror hstatus
  obtain hfails | ⟨error, hcause, heq⟩ := h command status hcommand herror hstatus
  · exact .inl hfails
  · exact .inr ⟨error, hcause.mono, heq⟩

theorem Outcome.HasCause.mono {outcome : Outcome} (h : outcome.HasCause role heard log) :
    outcome.HasCause role heard (log ++ log') :=
  h.imp_right fun ⟨error, hcause, heq⟩ ↦ ⟨error, hcause.mono, heq⟩

theorem Message.IsPlain.hasCause {message : Message} (h : message.IsPlain) :
    message.HasCause role heard log := by
  intro command status hcommand herror
  rw [h command hcommand] at herror
  cases herror

end Mono

namespace World

variable {α β : Type} {role : Role} {heard : Option Message} {before : CallLog}

/-- **No failure has been told without a cause** between two worlds, neither in a message nor as the
outcome. -/
structure Candid (role : Role) (heard : Option Message) (log : CallLog)
    (world world' : World Channel) : Prop where
  tells : world.Says (·.HasCause role heard log) world'
  outcome : world'.outcome = world.outcome ∨ ∃ outcome, world.outcome = none ∧
    world'.outcome = some outcome ∧ outcome.HasCause role heard log

theorem Says.mono {may may' : Message → Prop} {world world' : World Channel}
    (h : world.Says may world') (himp : ∀ message, may message → may' message) :
    world.Says may' world' := by
  obtain ⟨messages, hsaid, hmay⟩ := h
  exact ⟨messages, hsaid, fun message hmem ↦ himp message (hmay message hmem)⟩

namespace Candid

variable {log log' : CallLog} {world mid world' : World Channel}

/-- Nothing has been told at all. -/
theorem nothing (hsaid : world'.outlet.underway = world.outlet.underway)
    (houtcome : world'.outcome = world.outcome) : world.Candid role heard log world' :=
  ⟨.nothing hsaid, .inl houtcome⟩

theorem trans (h : world.Candid role heard log mid)
    (h' : mid.Candid role heard (log ++ log') world') :
    world.Candid role heard (log ++ log') world' := by
  refine ⟨(h.tells.mono fun _ hcause ↦ hcause.mono).trans h'.tells, ?_⟩
  rcases h'.outcome with hsame | ⟨outcome, hnone, hsome, hcause⟩
  · rw [hsame]
    exact h.outcome.imp_right fun ⟨outcome, hnone, hsome, hcause⟩ ↦
      ⟨outcome, hnone, hsome, hcause.mono⟩
  · rcases h.outcome with hsame | ⟨other, -, hother, -⟩
    · exact .inr ⟨outcome, hsame ▸ hnone, hsome, hcause⟩
    · cases hnone.symm.trans hother

end Candid

/-- A result that is no failure without a cause. -/
def IsCaused (role : Role) (heard : Option Message) (log : CallLog)
    (result : Except ExchangeError α) : Prop :=
  ∀ error, result = .error error → error.HasCause role heard log

theorem isCaused_ok {log : CallLog} (a : α) :
    IsCaused role heard log (.ok a : Except ExchangeError α) :=
  nofun

theorem isCaused_error {log : CallLog} {error : ExchangeError}
    (h : error.HasCause role heard log) :
    IsCaused role heard log (.error error : Except ExchangeError α) :=
  fun _ heq ↦ Except.error.inj heq ▸ h

/-- **What a computation on a world ensures** in view of all calls: those before it, and its own.
Besides, it tells no failure without a cause. -/
def Ensures (role : Role) (heard : Option Message) (before : CallLog) (action : WorldM Channel α)
    (good : CallLog → α → Prop) : Prop :=
  ∀ world, ∃ log, world.store.Logs (action.run world).2.store log ∧
    world.Candid role heard (before ++ log) (action.run world).2 ∧
    good (before ++ log) (action.run world).1

namespace Ensures

variable {action : WorldM Channel α} {good good' : CallLog → α → Prop}

theorem pure {a : α} (h : good before a) : Ensures role heard before (Pure.pure a) good :=
  fun world ↦ ⟨[], .refl _, .nothing rfl rfl, by rwa [List.append_nil]⟩

theorem bind {f : α → WorldM Channel β} {last : CallLog → β → Prop}
    (h : Ensures role heard before action good)
    (hnext : ∀ a log, good log a → Ensures role heard log (f a) last) :
    Ensures role heard before (action >>= f) last := by
  intro world
  obtain ⟨log, hlogs, hcandid, hgood⟩ := h world
  obtain ⟨log', hlogs', hcandid', hlast⟩ := hnext _ _ hgood (action.run world).2
  refine ⟨log ++ log', hlogs.trans hlogs', ?_, ?_⟩
  · rw [← List.append_assoc]
    exact hcandid.trans hcandid'
  · rwa [← List.append_assoc]

theorem mono (h : Ensures role heard before action good)
    (himp : ∀ log a, good log a → good' log a) : Ensures role heard before action good' := by
  intro world
  obtain ⟨log, hlogs, hcandid, hgood⟩ := h world
  exact ⟨log, hlogs, hcandid, himp _ _ hgood⟩

/-- The calls from before are still among all calls. -/
theorem since (h : Ensures role heard before action good) :
    Ensures role heard before action fun log a ↦ good log a ∧ before <+: log := by
  intro world
  obtain ⟨log, hlogs, hcandid, hgood⟩ := h world
  exact ⟨log, hlogs, hcandid, hgood, List.prefix_append _ _⟩

/-- The world may be looked at. -/
theorem get {next : World Channel → WorldM Channel α}
    (h : ∀ world, Ensures role heard before (next world) good) :
    Ensures role heard before (get >>= next) good :=
  fun world ↦ h world world

/-- What a computation ensures on its own. -/
theorem alone (h : Ensures role heard [] action good) (world : World Channel) :
    ∃ log, world.store.Logs (action.run world).2.store log ∧
      world.Candid role heard log (action.run world).2 ∧ good log (action.run world).1 :=
  h world

/-- Nothing but the files is changed. -/
theorem acts (change : World Channel → α × FileSystem)
    (hgood : ∀ world, good before (change world).1) :
    Ensures role heard before (fun world ↦ ((change world).1,
      { world with store := { world.store with fs := (change world).2 } })) good :=
  fun world ↦ ⟨[], ⟨(List.append_nil _).symm, Nat.le_refl _⟩, .nothing rfl rfl, by
    rw [List.append_nil]
    exact hgood world⟩

theorem onStore {action : StateM Store α} (h : Share.Ensures before action good) :
    Ensures role heard before (World.onStore action) good := by
  intro world
  obtain ⟨log, hlogs, hgood⟩ := h world.store
  exact ⟨log, hlogs, .nothing rfl rfl, hgood⟩

theorem report {outcome : Outcome} (h : outcome.HasCause role heard before) :
    Ensures role heard before (World.report outcome) fun _ _ ↦ True := by
  intro world
  refine ⟨[], .refl _, ⟨.nothing rfl, ?_⟩, trivial⟩
  show world.outcome.or (some outcome) = world.outcome ∨ _
  rw [List.append_nil]
  cases houtcome : world.outcome with
  | some other => exact .inl rfl
  | none => exact .inr ⟨outcome, rfl, congrArg (Option.or · (some outcome)) houtcome, h⟩

end Ensures

/-- **A step that fails for a cause**, if it fails. -/
abbrev Caused (role : Role) (heard : Option Message) (before : CallLog)
    (action : StepM Channel α) : Prop :=
  Ensures role heard before action.run (IsCaused role heard)

namespace Caused

theorem pure (a : α) : Caused role heard before (Pure.pure a : StepM Channel α) :=
  Ensures.pure (isCaused_ok a)

theorem throw {error : ExchangeError} (h : error.HasCause role heard before) :
    Caused role heard before (throw error : StepM Channel α) :=
  Ensures.pure (isCaused_error h)

theorem bind {action : StepM Channel α} {next : α → StepM Channel β}
    (h : Caused role heard before action) (hnext : ∀ a log, Caused role heard log (next a)) :
    Caused role heard before (action >>= next) := by
  rw [Caused, ExceptT.run_bind]
  refine Ensures.bind h fun result log hresult ↦ ?_
  cases result with
  | ok a => exact hnext a log
  | error error => exact Ensures.pure (isCaused_error (hresult error rfl))

/-- What cannot fail comes before what can. -/
theorem lift {first : WorldM Channel β} {next : β → StepM Channel α} {good : CallLog → β → Prop}
    (h : Ensures role heard before first good) (hnext : ∀ b log, Caused role heard log (next b)) :
    Caused role heard before ((liftM first : StepM Channel β) >>= next) :=
  Ensures.bind (f := fun b ↦ (next b).run) h fun b log _ ↦ hnext b log

/-- What calls come to may be looked at; if they have failed, that has a cause. -/
theorem outcome {action : ShareM β} {next : Except ShareError β → StepM Channel α}
    (h : Share.Caused before action)
    (hnext : ∀ result log, Share.IsCaused log result → Caused role heard log (next result)) :
    Caused role heard before (World.share (Share.outcome action) >>= next) :=
  Ensures.bind (f := fun result ↦ (next result).run) (Ensures.onStore h) hnext

/-- The world may be looked at. -/
theorem get {next : World Channel → StepM Channel α}
    (h : ∀ world, Caused role heard before (next world)) :
    Caused role heard before (get >>= next) :=
  fun world ↦ h world world

/-- **A call of a responder** that fails is the cause of its failure. -/
theorem share {action : ShareM α} (h : Share.Caused before action) :
    Caused .responder heard before (World.share action) := by
  refine Ensures.bind (f := fun result ↦ Pure.pure (result.mapError ExchangeError.share))
    (Ensures.onStore h) fun result log hresult ↦ .pure ?_
  cases result with
  | ok a => exact isCaused_ok a
  | error error => exact isCaused_error ⟨rfl, hresult error rfl⟩

/-- What is sent fails with the session, and that is its own cause. -/
theorem send {message : Message} (h : message.HasCause role heard before) :
    Caused role heard before (World.send message) := by
  intro world
  rcases hsend : (World.send message).run.run world with ⟨result, world'⟩
  obtain ⟨hchannel, hsaid⟩ := send_cases hsend
  refine ⟨[], ?_, ⟨?_, .inl hchannel.outcome⟩, fun error heq ↦ ?_⟩
  · rw [hchannel.store]
    exact .refl _
  · rw [List.append_nil]
    rcases hsaid with hsent | ⟨-, hsame⟩
    · exact ⟨[message], hsent, fun other hmem ↦ List.mem_singleton.1 hmem ▸ h⟩
    · exact .nothing hsame
  · obtain rfl : result = .error error := heq
    obtain ⟨cause, rfl⟩ := send_error hsend
    trivial

theorem flush : Caused role heard before World.flush := by
  intro world
  refine ⟨[], .refl _, .nothing rfl rfl, fun error heq ↦ ?_⟩
  have hreport : world.outlet.report.mapError ExchangeError.session = .error error := heq
  cases hcause : world.outlet.report with
  | ok _ =>
    rw [hcause] at hreport
    cases hreport
  | error cause =>
    rw [hcause] at hreport
    obtain rfl := Except.error.inj hreport
    trivial

theorem connect (message : Message) :
    Caused .responder heard before (World.connect message) := by
  rw [World.connect]
  split
  · exact .throw trivial
  split
  · exact .throw trivial
  refine .get fun world ↦ ?_
  split
  · exact (share Share.caused_inspect).bind fun _ _ ↦ .pure _
  · exact .throw trivial

end Caused

/-- **A failure that has a cause is told**, in the way of the side. -/
theorem ensures_fail {family : Family} {requestId : String} {error : ExchangeError}
    (h : error.HasCause role heard before) :
    Ensures role heard before (fail role family requestId error : WorldM Channel Unit)
      fun _ _ ↦ True := by
  cases role with
  | initiator => exact .report (.inr ⟨error, h, rfl⟩)
  | responder =>
    have hsend : Ensures .responder heard before
        ((send (.of requestId family.errorCommand (.status error.status)) :
          StepM Channel Unit).run >>= fun _ ↦ pure ()) fun _ _ ↦ True := by
      refine Ensures.bind (Caused.send ?_) fun _ _ _ ↦ .pure trivial
      intro command status _ _ hstatus
      exact .inr ⟨error, h, (Option.some.inj hstatus).symm⟩
    cases error with
    | session cause => exact .pure trivial
    | _ => exact hsend

end World

end FileShare
