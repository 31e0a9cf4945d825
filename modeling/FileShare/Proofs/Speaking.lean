import FileShare.Proofs.Endings
import FileShare.Proofs.Fetching
import FileShare.Proofs.Refusals

/-!
# What a side says suits the other side

What a side accepts is decided in one place, by the id, the family and the direction of a message
(`Exchange.check`). What a side says is said in many places: by the handlers of six families, by
three kinds of background jobs, and wherever a failure is told, each time with a command that is
named on the spot. Here it is shown that all of it suits the other side (`Message.Suits`).

That handlers say no more than they may is in `Composed`. What is left are the background jobs: what
a job has in hand, and what its producer is still to come to, suits the other side
(`Job.WorksFor`). A side that only ever has such jobs keeps to its exchange (`Side.KeepsTo`), from
one moment to the next (`Side.KeepsTo.live`), and what it says in a moment suits the other side
(`Side.KeepsTo.speaks_live`). The exception is a message with a foreign id, which a responder
answers under that id.

The last section is about silence. An initiator says nothing about an error command, and a responder
says nothing about the one error command that suits it.
-/

namespace FileShare

open Conversation (peer)

/-! ### What has been said -/

/-- **What has been said between two worlds** is all of a kind. -/
def World.Says (may : Message → Prop) (world world' : World Channel) : Prop :=
  ∃ messages, world'.outlet.underway = world.outlet.underway ++ messages ∧
    ∀ message ∈ messages, may message

namespace World.Says

variable {may : Message → Prop} {world mid world' : World Channel}

theorem nothing (h : world'.outlet.underway = world.outlet.underway) : world.Says may world' :=
  ⟨[], by rw [h, List.append_nil], nofun⟩

theorem trans (h : world.Says may mid) (h' : mid.Says may world') : world.Says may world' := by
  obtain ⟨messages, hsaid, hmay⟩ := h
  obtain ⟨more, hmore, hmay'⟩ := h'
  exact ⟨messages ++ more, by rw [hmore, hsaid, List.append_assoc],
    fun message hmem ↦ (List.mem_append.1 hmem).elim (hmay message) (hmay' message)⟩

/-- If nothing may be said, nothing has been said. -/
theorem underway_eq (h : world.Says (fun _ ↦ False) world') :
    world'.outlet.underway = world.outlet.underway := by
  obtain ⟨messages, hsaid, hnone⟩ := h
  rw [hsaid, List.eq_nil_iff_forall_not_mem.2 hnone, List.append_nil]

end World.Says

/-- **A computation says no more than it may.** -/
theorem Composed.speaks {α : Type} {may : Message → Prop} {action : WorldM Channel α}
    (h : Composed may action) (world : World Channel) : world.Says may (action.run world).2 := by
  induction h generalizing world with
  | pure a => exact .nothing rfl
  | bind first second ih ih' => exact (ih world).trans (ih' _ _)
  | asks same second ih => exact ih world world
  | acts change same => exact .nothing rfl
  | @send message allowed =>
    have hsend : (World.send message).run.run world =
        (((World.send message).run.run world).1, ((World.send message).run.run world).2) := rfl
    rcases (World.send_cases hsend).2 with hsent | ⟨-, hsame⟩
    · exact ⟨[message], hsent, fun other hmem ↦ List.mem_singleton.1 hmem ▸ allowed⟩
    · exact .nothing hsame
  | report outcome => exact .nothing rfl

/-- **An exchange accepts what suits it**, and nothing else. -/
theorem Exchange.exists_check_eq_ok {exchange : Exchange} {message : Message} :
    (∃ command, exchange.check message = .ok command) ↔
      message.Suits exchange.requestId exchange.family exchange.party.role := by
  constructor
  · rintro ⟨command, hcheck⟩
    obtain ⟨hid, hcommand, hfamily, hmay⟩ := of_check_eq_ok hcheck
    exact ⟨hid, command, hcommand, hfamily, hmay⟩
  · rintro ⟨hid, command, hcommand, hfamily, hmay⟩
    exact ⟨command, check_eq_ok hid hcommand hfamily hmay⟩

/-! ### Background jobs -/

/-- What a side of a family takes its messages from. -/
inductive Producer.WorksFor : Family → Role → Producer → Prop where
  | listing (source : ListingSource) : WorksFor .listing .responder (.listing source)
  | listed : WorksFor .listing .responder .listed
  | range (source : RangeSource) : WorksFor .download .responder (.range source)
  | upload (source : FileSource) : WorksFor .upload .initiator (.upload source)
  | finished {family : Family} {role : Role} : WorksFor family role .finished

/-- What comes of a producer suits the other side, and so does what is still to come. -/
inductive Product.Suits (requestId : String) (family : Family) (role : Role) : Product → Prop where
  | message {message : Message} {next : Producer}
      (hmessage : message.Suits requestId family (peer role)) (hnext : next.WorksFor family role) :
      Suits requestId family role (.message message next)
  | quiet {next : Producer} (hnext : next.WorksFor family role) :
      Suits requestId family role (.quiet next)
  | stop : Suits requestId family role .stop
  | failure (error : ExchangeError) : Suits requestId family role (.failure error)

section Jobs

variable {ω : Type} {requestId : String} {family : Family} {role : Role}

/-- **What comes of a producer suits the other side**, whether it has been told to stop or not. -/
theorem Producer.WorksFor.advance {producer : Producer} (h : producer.WorksFor family role)
    (requestId : String) (cancelled : Bool) (world : World ω) :
    ((producer.advance requestId cancelled).run world).1.Suits requestId family role := by
  cases h with
  | listing source =>
    show ((advanceListing requestId cancelled source).run world).1.Suits requestId _ _
    rw [advanceListing_run]
    rcases (Share.nextEntry source.directory).run.run world.store with ⟨_ | _ | entry, store⟩
    · exact .failure _
    · dsimp only
      split
      · exact .message (Message.suits_of rfl rfl) .finished
      · exact .message (Message.suits_of rfl rfl) .listed
    · dsimp only
      split
      · exact .stop
      split
      · split
        · exact .message (Message.suits_of rfl rfl) (.listing _)
        · exact .quiet (.listing _)
      · exact .quiet (.listing _)
  | listed => exact .message (Message.suits_of rfl rfl) .finished
  | range source =>
    show ((advanceRange requestId cancelled source).run world).1.Suits requestId _ _
    rw [advanceRange_run]
    split
    · exact .message (Message.suits_of rfl rfl) (.range _)
    split
    · exact .message (Message.suits_of rfl rfl) .finished
    split
    · exact .stop
    dsimp only
    rcases (Share.read source.file (min (source.last - source.position + 1)
      source.readSize)).run.run world.store with ⟨_ | data, store⟩
    · exact .failure _
    · dsimp only
      split
      · exact .message (Message.suits_of rfl rfl) .finished
      · exact .quiet (.range _)
  | upload source =>
    show ((advanceUpload requestId cancelled source).run world).1.Suits requestId _ _
    rw [advanceUpload_run]
    dsimp only
    split
    · exact .stop
    split
    · exact .failure _
    split
    · exact .message (Message.suits_of rfl rfl) .finished
    · exact .message (Message.suits_of rfl rfl) (.upload _)
  | finished => exact .stop

/-- **A job works for an exchange**: what it has in hand suits the other side, and so does all that
its producer is to come to. -/
structure Job.WorksFor (job : Job) (requestId : String) (family : Family) (role : Role) :
    Prop where
  producer : job.producer.WorksFor family role
  offer : ∀ message ∈ job.offer, message.Suits requestId family (peer role)
  role : job.role = role
  family : job.family = family
  requestId : job.requestId = requestId

/-- A job that a responder has accepted works for it. -/
theorem Job.Accepted.worksFor {job : Job} (h : job.Accepted requestId family) :
    job.WorksFor requestId family .responder := by
  obtain ⟨producer, hproducer, rfl⟩ := h
  refine ⟨?_, nofun, rfl, rfl, rfl⟩
  cases hproducer with
  | listing source => exact .listing source
  | listed => exact .listed
  | range source _ => exact .range source

namespace Job.WorksFor

variable {job job' : Job} {world world' : World Channel} {status : JobStatus}

/-- To tell a failure of the job suits the other side. -/
theorem mayTell (h : job.WorksFor requestId family role) :
    job.MayTell (·.Suits requestId family (peer role)) := by
  intro hrole
  obtain rfl : role = .responder := h.role.symm.trans hrole
  rw [h.requestId, h.family]
  exact .self

theorem ended (h : job.WorksFor requestId family role) : job.ended.WorksFor requestId family role :=
  ⟨h.producer, h.offer, h.role, h.family, h.requestId⟩

/-- **A step of a job** keeps it working for the exchange, and what it says suits the other side. -/
theorem step (h : job.WorksFor requestId family role)
    (hrun : job.step.run world = ((status, job'), world')) :
    job'.WorksFor requestId family role ∧
      world.Says (·.Suits requestId family (peer role)) world' := by
  rw [step_run] at hrun
  split at hrun
  · obtain ⟨-, rfl, rfl⟩ := run_inj hrun
    exact ⟨h, .nothing rfl⟩
  split at hrun
  · rename_i message hoffer
    have hsaid {mid : World Channel}
        (hsent : mid.outlet.underway = world.outlet.underway ++ [message]) :
        world.Says (·.Suits requestId family (peer role)) mid :=
      ⟨[message], hsent, fun other hmem ↦ List.mem_singleton.1 hmem ▸ h.offer message hoffer⟩
    rcases offerOnce_cases hrun with ⟨rfl, rfl | rfl⟩ | ⟨-, hsent, rfl⟩ |
      ⟨cause, mid, -, hsent, rfl, rfl⟩
    · exact ⟨h, .nothing rfl⟩
    · exact ⟨h.ended, .nothing rfl⟩
    · exact ⟨⟨h.producer, nofun, h.role, h.family, h.requestId⟩, hsaid hsent⟩
    · exact ⟨h.ended, (hsent.elim .nothing hsaid).trans
        ((Composed.fail h.mayTell (.session cause)).speaks mid)⟩
  · have hspeaks := (job.composed_produce h.mayTell).speaks world
    rw [hrun] at hspeaks
    refine ⟨?_, hspeaks⟩
    have hproduct := h.producer.advance job.requestId (Outlet.isCancelled world.outlet) world
    rw [produce_run] at hrun
    rcases hadvance : (job.producer.advance job.requestId (Outlet.isCancelled world.outlet)).run
      world with ⟨product, mid⟩
    rw [hadvance] at hrun hproduct
    cases hproduct with
    | message hmessage hnext =>
      obtain ⟨-, rfl, -⟩ := run_inj hrun
      refine ⟨hnext, fun other hmem ↦ ?_, h.role, h.family, h.requestId⟩
      obtain rfl := Option.some.inj hmem
      exact h.requestId ▸ hmessage
    | quiet hnext =>
      obtain ⟨-, rfl, -⟩ := run_inj hrun
      exact ⟨hnext, h.offer, h.role, h.family, h.requestId⟩
    | stop =>
      obtain ⟨-, rfl, -⟩ := run_inj hrun
      exact h.ended
    | failure error =>
      obtain ⟨-, rfl, -⟩ := run_inj hrun
      exact h.ended

end Job.WorksFor

end Jobs

/-! ### The jobs of a side -/

/-- A responder that has quit has no job. -/
theorem Responder.job_of_quit {ω : Type} [Outlet ω] (state : Responder) (world : World ω) :
    (state.quit.run world).1.job? = none := by
  cases state with
  | download server =>
    obtain ⟨file, size, job⟩ := server
    cases file <;> rfl
  | _ => rfl

/-- A sender that has stopped has no job. -/
theorem Sender.job_of_stopJob {ω : Type} [Outlet ω] (sender : Sender) (world : World ω) :
    (sender.stopJob.run world).1.job = none := by
  obtain ⟨_ | job, sent⟩ := sender <;> rfl

/-- An initiator that has quit has no job. -/
theorem Initiator.job_of_quit {ω : Type} [Outlet ω] (state : Initiator) (world : World ω) :
    (state.quit.run world).1.job? = none := by
  cases state with
  | upload sender => exact sender.job_of_stopJob world
  | _ => rfl

section Initiators

variable {settings : TransferSettings} {requestId : String} {command : Command} {message : Message}
variable {world world' : World Channel} {result : Except ExchangeError Unit}

/-- **To begin sending** starts a job that reads the local file from the start. Otherwise the
connection has failed, or the local file could not be opened, and then the upload is given up. -/
theorem Sender.begin_cases {sender sender' : Sender}
    (hrun : (sender.begin settings requestId).run world = ((result, sender'), world')) :
    (result = .ok () ∧ ∃ opened sent, sender'.job = some (.start .initiator .upload requestId
      (.upload ⟨opened, 0, max 1 settings.writeBuffer⟩) sent)) ∨
    sender' = sender ∧ ∃ error, result = .error error ∧ ((∃ cause, error = .session cause) ∨
      ∃ cause status, error = .io cause ∧
        world'.outlet.underway = world.outlet.underway ++ [uploadFailed requestId status]) := by
  rw [begin_run] at hrun
  split at hrun
  · rename_i cause _
    rcases hsend : (World.send (uploadFailed requestId
      (sourceMissing settings.request.inputFile cause))).run.run world with ⟨told, mid⟩
    dsimp only at hrun
    rw [hsend] at hrun
    obtain ⟨rfl, rfl, rfl⟩ := run_inj hrun
    refine .inr ⟨rfl, ?_⟩
    cases told with
    | error error => exact ⟨_, rfl, .inl (World.send_error hsend)⟩
    | ok _ =>
      rcases (World.send_cases hsend).2 with hsent | ⟨⟨error, herror⟩, -⟩
      · exact ⟨_, rfl, .inr ⟨cause, _, rfl, hsent⟩⟩
      · cases herror
  · obtain ⟨rfl, rfl, -⟩ := run_inj hrun
    exact .inl ⟨rfl, _, _, rfl⟩

/-- **What an initiator does about the answer to its opening request:** it begins to send, or it
says nothing, because the responder has failed. -/
theorem Sender.answered_cases {sender sender' : Sender}
    (hrun : (sender.answered settings requestId message).run world = ((result, sender'), world')) :
    (sender.begin settings requestId).run world = ((result, sender'), world') ∨
      (∃ error, result = .error error) ∧ sender' = sender ∧ world' = world := by
  unfold answered at hrun
  split at hrun
  · split at hrun
    · exact .inl hrun
    · obtain ⟨rfl, rfl, rfl⟩ := run_inj hrun
      exact .inr ⟨⟨_, rfl⟩, rfl, rfl⟩
  · exact .inl hrun

/-- **An initiator that fails has said nothing**, unless its connection has failed, or it could not
open its local file and has given the upload up. -/
theorem Initiator.said_of_error {state state' : Initiator} {error : ExchangeError}
    (hopens : command.opensTransfer = true)
    (hrun : (state.handle settings requestId command message).run world =
      ((.error error, state'), world')) :
    world'.outlet.underway = world.outlet.underway ∨ (∃ cause, error = .session cause) ∨
      ∃ cause status, error = .io cause ∧
        world'.outlet.underway = world.outlet.underway ++ [uploadFailed requestId status] := by
  unfold handle at hrun
  split at hrun
  case h_6 fetcher =>
    rcases hbegin : (fetcher.begin settings requestId message).run world with
      ⟨⟨begun, fetcher'⟩, mid⟩
    rw [run_bind_of_run hbegin] at hrun
    obtain ⟨rfl, -, rfl⟩ := run_inj hrun
    obtain ⟨-, -, -, -, rfl⟩ | ⟨-, -, -, -, -, -, -, -, -, ⟨cause, heq⟩ | ⟨heq, -⟩⟩ :=
      Fetcher.begin_cases hbegin
    · exact .inl rfl
    · exact .inr (.inl ⟨cause, Except.error.inj heq⟩)
    · cases heq
  case h_10 sender =>
    rcases hanswered : (sender.answered settings requestId message).run world with
      ⟨⟨answer, sender'⟩, mid⟩
    rw [run_bind_of_run hanswered] at hrun
    obtain ⟨rfl, -, rfl⟩ := run_inj hrun
    obtain hbegin | ⟨-, -, rfl⟩ := Sender.answered_cases hanswered
    · obtain ⟨heq, -⟩ | ⟨-, failure, heq, hfails⟩ := Sender.begin_cases hbegin
      · cases heq
      · obtain rfl := Except.error.inj heq
        exact .inr hfails
    · exact .inl rfl
  case h_13 =>
    split at hrun <;> obtain ⟨-, -, rfl⟩ := run_inj hrun <;> exact .inl rfl
  all_goals cases hopens

/-- **Whatever an initiator is told, the job that it has afterwards** is the one that it had, or one
that sends its local file, if it has a job at all. -/
theorem Initiator.follows_of_handle {state state' : Initiator}
    (hrun : (state.handle settings requestId command message).run world =
      ((result, state'), world')) :
    state'.job? = state.job? ∨ state'.job? = none ∨ ∃ opened sent, state.family = .upload ∧
      state'.job? = some (.start .initiator .upload requestId
        (.upload ⟨opened, 0, max 1 settings.writeBuffer⟩) sent) := by
  unfold handle at hrun
  -- only an upload has a job
  split at hrun
  case h_10 sender =>
    rcases hanswered : (sender.answered settings requestId message).run world with
      ⟨⟨answer, sender'⟩, mid⟩
    rw [run_bind_of_run hanswered] at hrun
    obtain ⟨-, rfl, -⟩ := run_inj hrun
    obtain hbegin | ⟨-, rfl, -⟩ := Sender.answered_cases hanswered
    · obtain ⟨-, opened, sent, hjob⟩ | ⟨rfl, -⟩ := Sender.begin_cases hbegin
      · exact .inr (.inr ⟨opened, sent, rfl, hjob⟩)
      · exact .inl rfl
    · exact .inl rfl
  case h_11 sender =>
    rw [StateT.run_bind] at hrun
    obtain ⟨-, rfl, -⟩ := run_inj hrun
    exact .inr (.inl (sender.job_of_stopJob world))
  case h_12 sender =>
    rw [StateT.run_bind] at hrun
    obtain ⟨-, rfl, -⟩ := run_inj hrun
    exact .inr (.inl (sender.job_of_stopJob world))
  case h_13 =>
    split at hrun <;> obtain ⟨-, rfl, -⟩ := run_inj hrun <;> exact .inl rfl
  all_goals
    first | rw [StateT.run_bind] at hrun | skip
    obtain ⟨-, rfl, -⟩ := run_inj hrun
    exact .inr (.inl rfl)

end Initiators

/-- What takes a step is the job of the side afterwards. -/
theorem Party.job_of_withJob {party : Party} {job job' : Job} (h : party.job? = some job) :
    (party.withJob job').job? = some job' := by
  obtain state | state := party <;> cases state <;> first | rfl | cases h

namespace Side

variable {side : Side}

/-- **Whatever an initiator is told, the job that it has afterwards** is the one that it had, or one
that sends its local file, if it has a job at all. -/
theorem follows_of_process_initiator {requestId : String} {state : Initiator}
    (hexchange : side.exchange = ⟨requestId, .initiator state⟩) (message : Message) :
    let job? := (side.process message).exchange.party.job?
    job? = state.job? ∨ job? = none ∨ ∃ opened sent, state.family = .upload ∧
      job? = some (.start .initiator .upload requestId
        (.upload ⟨opened, 0, max 1 side.settings.writeBuffer⟩) sent) := by
  cases hcheck : side.exchange.check message with
  | error error =>
    refine .inl ?_
    unfold Side.process Exchange.process
    rw [hcheck, hexchange]
    rfl
  | ok command =>
    rcases hrun : (state.handle side.settings requestId command message).run side.world with
      ⟨⟨result, state'⟩, mid⟩
    rw [process_initiator hexchange hcheck hrun]
    exact Initiator.follows_of_handle hrun

/-- A side that has quit has no job. -/
theorem job_of_quit (side : Side) : side.quit.exchange.party.job? = none := by
  obtain ⟨settings, ⟨requestId, state | state⟩, world⟩ := side
  · have hnone := state.job_of_quit world
    rcases hrun : state.quit.run world with ⟨state', mid⟩
    rw [quit_responder rfl hrun]
    rw [hrun] at hnone
    exact hnone
  · have hnone := state.job_of_quit world
    rcases hrun : state.quit.run world with ⟨state', mid⟩
    rw [quit_initiator rfl hrun]
    rw [hrun] at hnone
    exact hnone

/-- **What holds of the job of a side holds in every moment**, if it is kept by the steps of the
job, and holds of the jobs that messages start. -/
theorem job_live {holds : Job → Prop} (hjob : ∀ job ∈ side.exchange.party.job?, holds job)
    {moment : Moment}
    (hstep : ∀ {job job' : Job} {world' : World Channel} {status : JobStatus}, holds job →
      job.step.run side.world = ((status, job'), world') → holds job')
    (hstarts : ∀ message, moment = .meets (.message message) →
      ∀ job ∈ (side.process message).exchange.party.job?, holds job) :
    ∀ job ∈ (side.live moment).exchange.party.job?, holds job := by
  cases moment with
  | cancel => exact hjob
  | work =>
    show ∀ job ∈ side.work.exchange.party.job?, holds job
    cases hcurrent : side.exchange.party.job? with
    | none =>
      rw [work_of_none hcurrent]
      exact hjob
    | some job =>
      rcases hrun : job.step.run side.world with ⟨⟨status, job'⟩, world'⟩
      rw [work_of_run rfl hcurrent hrun, Party.job_of_withJob hcurrent]
      exact fun other hmem ↦ Option.some.inj hmem ▸ hstep (hjob job hcurrent) hrun
  | meets happening =>
    cases happening with
    | message message => exact hstarts message rfl
    | quit =>
      intro job hmem
      cases side.job_of_quit.symm.trans hmem
    | _ => exact hjob

end Side

/-! ### Sides that keep to their exchange -/

/-- **A side keeps to its exchange**: its job works for it, if it has one. -/
structure Side.KeepsTo (side : Side) (requestId : String) (family : Family) (role : Role) :
    Prop where
  job : ∀ job ∈ side.exchange.party.job?, job.WorksFor requestId family role
  requestId : side.exchange.requestId = requestId
  family : side.exchange.family = family
  role : side.exchange.party.role = role

namespace Side.KeepsTo

variable {side : Side} {requestId : String} {family : Family} {role : Role}

/-- What the job of a side tells suits the other side. -/
theorem mayTell (h : side.KeepsTo requestId family role) :
    ∀ job ∈ side.exchange.party.job?, job.MayTell (·.Suits requestId family (peer role)) :=
  fun job hjob ↦ (h.job job hjob).mayTell

/-- What happens to the channel or the store of a side makes no difference. -/
theorem of_exchange_eq {later : Side} (h : side.KeepsTo requestId family role)
    (heq : later.exchange = side.exchange) : later.KeepsTo requestId family role :=
  ⟨heq ▸ h.job, heq ▸ h.requestId, heq ▸ h.family, heq ▸ h.role⟩

/-- A side accepts what suits it. -/
theorem exists_check_eq_ok (h : side.KeepsTo requestId family role) {message : Message} :
    (∃ command, side.exchange.check message = .ok command) ↔
      message.Suits requestId family role := by
  rw [Exchange.exists_check_eq_ok, h.requestId, h.family, h.role]

/-! #### From one moment to the next -/

/-- **Taking a message**, of whatever kind, does not make a side depart from its exchange. -/
theorem process (h : side.KeepsTo requestId family role) (message : Message) :
    (side.process message).KeepsTo requestId family role := by
  have hcontinues : side.exchange.Continues (side.process message).exchange :=
    side.exchange.continues_process side.settings message side.world
  refine ⟨?_, hcontinues.requestId.trans h.requestId, hcontinues.family.trans h.family,
    hcontinues.role.trans h.role⟩
  obtain ⟨hjob, rfl, rfl, rfl⟩ := h
  rcases hexchange : side.exchange with ⟨requestId, state | state⟩
  · intro job hmem
    rcases follows_of_process hexchange message with hsame | hnone | ⟨next, hnext, haccepted⟩
    · rw [hsame, hexchange] at hmem
      rw [hexchange] at hjob
      exact hjob job hmem
    · cases hnone.symm.trans hmem
    · obtain rfl := Option.some.inj (hnext.symm.trans hmem)
      exact haccepted.worksFor
  · rw [hexchange] at hjob
    intro job hmem
    rcases follows_of_process_initiator hexchange message with hsame | hnone |
      ⟨opened, sent, hfamily, hstarted⟩
    · exact hjob job (hsame.symm.trans hmem)
    · cases hnone.symm.trans hmem
    · obtain rfl := Option.some.inj (hstarted.symm.trans hmem)
      exact ⟨hfamily ▸ .upload _, nofun, rfl, hfamily.symm, rfl⟩

/-- **Quitting** leaves a side without a job. -/
theorem quit (h : side.KeepsTo requestId family role) :
    side.quit.KeepsTo requestId family role := by
  have hcontinues : side.exchange.Continues side.quit.exchange :=
    side.exchange.continues_quit side.world
  refine ⟨fun job hmem ↦ ?_, hcontinues.requestId.trans h.requestId,
    hcontinues.family.trans h.family, hcontinues.role.trans h.role⟩
  cases side.job_of_quit.symm.trans hmem

/-- **A step of the job** keeps it working for the exchange, and says what suits the other side. -/
theorem work (h : side.KeepsTo requestId family role) :
    side.work.KeepsTo requestId family role ∧
      side.world.Says (·.Suits requestId family (peer role)) side.work.world := by
  cases hjob : side.exchange.party.job? with
  | none =>
    rw [work_of_none hjob]
    exact ⟨h, .nothing rfl⟩
  | some job =>
    have hcontinues : side.exchange.Continues side.work.exchange :=
      side.exchange.continues_stepJob side.world
    rcases hrun : job.step.run side.world with ⟨⟨status, job'⟩, world'⟩
    obtain ⟨hworks, hspeaks⟩ := (h.job job hjob).step hrun
    refine ⟨⟨fun other hmem ↦ ?_, hcontinues.requestId.trans h.requestId,
      hcontinues.family.trans h.family, hcontinues.role.trans h.role⟩, ?_⟩
    · rw [work_of_run rfl hjob hrun, Party.job_of_withJob hjob] at hmem
      obtain rfl := Option.some.inj hmem
      exact hworks
    · rw [work_of_run rfl hjob hrun]
      exact hspeaks

/-- **A side keeps to its exchange** in every moment. -/
theorem live (h : side.KeepsTo requestId family role) (moment : Moment) :
    (side.live moment).KeepsTo requestId family role := by
  cases moment with
  | work => exact h.work.1
  | cancel => exact h.of_exchange_eq rfl
  | meets happening =>
    cases happening with
    | message message => exact h.process message
    | quit => exact h.quit
    | transmit => exact h.of_exchange_eq rfl
    | connection isUp => exact h.of_exchange_eq rfl
    | faults faults => exact h.of_exchange_eq rfl

/-! #### What is said in a moment -/

/-- **What is said about a message suits the other side**, unless the message has a foreign id. An
initiator says nothing about such a one. -/
theorem speaks_process (h : side.KeepsTo requestId family role) {message : Message}
    (hown : role = .responder → message.requestId = requestId) :
    side.world.Says (·.Suits requestId family (peer role)) (side.process message).world := by
  refine (Exchange.composed_process message side.exchange side.settings (fun hheeds ↦ ?_)
    h.mayTell).speaks side.world
  have hid : message.requestId = requestId := by
    cases hrole : role with
    | responder => exact hown hrole
    | initiator =>
      obtain ⟨command, hcheck, -⟩ := hheeds (h.role.trans hrole)
      exact (Exchange.of_check_eq_ok hcheck).1.trans h.requestId
  rw [hid, h.family, h.role]
  exact .self

/-- **What a side says in a moment suits the other side**, unless it is about a message that has a
foreign id. -/
theorem speaks_live (h : side.KeepsTo requestId family role) (moment : Moment)
    (hown : role = .responder →
      ∀ message, moment = .meets (.message message) → message.requestId = requestId) :
    side.world.Says (·.Suits requestId family (peer role)) (side.live moment).world := by
  cases moment with
  | work => exact h.work.2
  | cancel => exact .nothing rfl
  | meets happening =>
    cases happening with
    | message message => exact h.speaks_process fun hrole ↦ hown hrole message rfl
    | quit => exact (Exchange.composed_quit side.exchange h.mayTell).speaks side.world
    | transmit => exact .nothing (Channel.underway_transmit _)
    | connection isUp => exact .nothing rfl
    | faults faults => exact .nothing rfl

/-! #### Silence -/

/-- **An initiator says nothing about a message that does not let its transfer go on.** -/
theorem silent_of_not_heeds (h : side.KeepsTo requestId family .initiator) {message : Message}
    (hnot : ¬side.exchange.Heeds message) :
    (side.process message).world.outlet.underway = side.world.outlet.underway := by
  have htell : ∀ job ∈ side.exchange.party.job?, job.MayTell fun _ ↦ False := by
    intro job hjob hrole
    cases hrole.symm.trans (h.job job hjob).role
  exact ((Exchange.composed_process message side.exchange side.settings
    (fun hheeds ↦ absurd hheeds hnot) htell).speaks side.world).underway_eq

/-- **An initiator says nothing about an error command**, whatever its id and its family. -/
theorem silent_of_isError (h : side.KeepsTo requestId family .initiator) {message : Message}
    {command : Command} (hcommand : message.command? = some command)
    (herror : command.isError = true) :
    (side.process message).world.outlet.underway = side.world.outlet.underway := by
  refine h.silent_of_not_heeds fun hheeds ↦ ?_
  obtain ⟨heeded, hcheck, hopens⟩ := hheeds h.role
  obtain rfl := Option.some.inj (hcommand.symm.trans (Exchange.of_check_eq_ok hcheck).2.1)
  rw [Command.isError_of_opensTransfer hopens] at herror
  cases herror

/-- **An initiator that fails to take a message says nothing**, unless its connection has failed, or
it could not open its local file and gives the upload up. -/
theorem said_of_error (h : side.KeepsTo requestId family .initiator) {message : Message}
    {error : ExchangeError} (hanswer : side.answer message = .error error) :
    (side.process message).world.outlet.underway = side.world.outlet.underway ∨
      (∃ cause, error = .session cause) ∨ ∃ cause status, error = .io cause ∧
        (side.process message).world.outlet.underway =
          side.world.outlet.underway ++ [uploadFailed requestId status] := by
  by_cases hheeds : side.exchange.Heeds message
  · obtain ⟨command, hcheck, hopens⟩ := hheeds h.role
    obtain ⟨-, rfl, -, hrole⟩ := h
    rcases hexchange : side.exchange with ⟨requestId, state | state⟩
    · rw [hexchange] at hrole
      cases hrole
    rcases hrun : (state.handle side.settings requestId command message).run side.world with
      ⟨⟨result, state'⟩, mid⟩
    have hhandle : (side.exchange.handle side.settings command message).run side.world =
        ((result, ⟨requestId, .initiator state'⟩), mid) := by
      rw [hexchange]
      exact (run_bind_of_run hrun).trans rfl
    have hresult : result = .error error := by
      rw [← hanswer, answer, Exchange.process_run _ _ hcheck, hhandle]
    subst hresult
    have hsaid := Initiator.said_of_error hopens hrun
    rw [process_initiator hexchange hcheck hrun]
    exact hsaid
  · exact .inl (h.silent_of_not_heeds hheeds)

/-- **A responder says nothing about the error command that suits it.** -/
theorem silent_of_uploadError (h : side.KeepsTo requestId family .responder) {message : Message}
    (hcheck : side.exchange.check message = .ok .uploadError) :
    (side.process message).world.outlet.underway = side.world.outlet.underway := by
  obtain ⟨hid, hcommand, hfamily, -⟩ := Exchange.of_check_eq_ok hcheck
  have hrole := h.role
  rcases hexchange : side.exchange with ⟨requestId, state | state⟩ <;>
    rw [hexchange] at hid hfamily hrole
  · cases state with
    | upload receiver =>
      rcases habandon : receiver.abandon.run side.world with ⟨⟨result, receiver'⟩, mid⟩
      have hspeaks : side.world.Says (fun _ ↦ False) (receiver.abandon.run side.world).2 :=
        receiver.composed_abandon.speaks side.world
      rw [habandon] at hspeaks
      have hrun : (Responder.handle side.settings requestId .uploadError message
          (.upload receiver)).run side.world = ((result, .upload receiver'), mid) :=
        run_bind_of_run habandon
      obtain ⟨rfl, -, -⟩ := run_inj habandon
      obtain ⟨-, -, hsaid | ⟨⟨error, herror, -⟩, -⟩⟩ :=
        process_responder hexchange hid hcommand rfl rfl hrun
      · exact hsaid.trans hspeaks.underway_eq
      · cases herror
    | _ => cases hfamily
  · cases hrole

end Side.KeepsTo

end FileShare
