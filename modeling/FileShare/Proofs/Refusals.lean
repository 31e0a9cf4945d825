import FileShare.Proofs.Happenings
import FileShare.Proofs.Outward
import FileShare.Proofs.UploadRun

/-!
# Messages that have no place in an exchange

A responder refuses a message that carries another id than its own, or whose code is unknown, of
another family, or a command that travels the other way (`Message.IsMisplaced`). Such a message is
answered under its own id, and that is all that comes of it: no call is made on the share, and
neither the responder nor its job notices (`Exchange.process_misplaced`).

So in a run, misplaced messages are invisible. `Side.misplaced_invisible` compares two runs whose
moments are the same but for messages that are misplaced and for what goes on its way. The answers
to misplaced messages take up room, and a background job waits for room. It is up to what goes on
its way in between whether the job is held up by them, so the two runs are compared under the same
schedule of the job: where it finds room in one run, it finds room in the other (`Side.rooms`).

The comparison rests on `Outward`: what a responder does depends on its channel only through what is
the same in both runs.
-/

namespace FileShare

/-! ### Refusing a message -/

namespace Message

/-- **A message that has no place with a responder**: it has another id, or a code that is unknown,
of another family, or of a response. The command with which either side gives an upload up is no
response. -/
def IsMisplaced (message : Message) (requestId : String) (family : Family) : Prop :=
  message.requestId ≠ requestId ∨
    match message.command? with
    | none => True
    | some command =>
      command.family ≠ family ∨ command.isRequest = false ∧ command ≠ .uploadError

instance (message : Message) (requestId : String) (family : Family) :
    Decidable (message.IsMisplaced requestId family) := by
  unfold IsMisplaced
  cases message.command? <;> infer_instance

/-- Why a misplaced message is refused. -/
def refusal (message : Message) (requestId : String) : ExchangeError :=
  if message.requestId ≠ requestId then .foreignId requestId message.requestId
  else .unexpectedCommand message.code

/-- How a misplaced message is answered: with the error command of the family, under the id of the
message. -/
def rejection (message : Message) (requestId : String) (family : Family) : Message :=
  .of message.requestId family.errorCommand
    (.status ⟨StatusCode.error, (message.refusal requestId).message⟩)

end Message

namespace Exchange

variable {requestId : String} {state : Responder} {message : Message}

theorem mayReceive_responder {command : Command} :
    mayReceive .responder command = true ↔ command.isRequest = true ∨ command = .uploadError := by
  cases command <;> decide

/-- **A responder refuses what is misplaced and nothing else.** -/
theorem check_eq_error (h : message.IsMisplaced requestId state.family) :
    (⟨requestId, .responder state⟩ : Exchange).check message =
      .error (message.refusal requestId) := by
  unfold check Message.refusal
  dsimp only
  by_cases hid : message.requestId = requestId
  · rw [if_neg (not_not_intro hid), if_neg (not_not_intro hid)]
    cases hcommand : message.command? with
    | none => rfl
    | some command =>
      rcases h with hforeign | hplace
      · exact absurd hid hforeign
      rw [hcommand] at hplace
      have hsuits : ¬(command.family = state.family ∧ mayReceive .responder command = true) := by
        rintro ⟨hfamily, hmay⟩
        rcases hplace with hother | ⟨hresponse, hsingle⟩
        · exact hother hfamily
        · rcases mayReceive_responder.1 hmay with hrequest | htwoWay
          · exact absurd (hresponse.symm.trans hrequest) nofun
          · exact hsingle htwoWay
      exact if_neg hsuits
  · rw [if_pos hid, if_pos hid]

/-- **What comes of a misplaced message**, wherever messages go: it is answered, and that is all. -/
theorem process_misplaced {ω : Type} [Outlet ω] (settings : TransferSettings) (world : World ω)
    (h : message.IsMisplaced requestId state.family) :
    ((⟨requestId, .responder state⟩ : Exchange).process settings message).run world =
      ((.error (message.refusal requestId), ⟨requestId, .responder state⟩),
        { world with outlet :=
            (Outlet.send world.outlet (message.rejection requestId state.family)).2 }) := by
  have hstatus : (message.refusal requestId).status =
      ⟨StatusCode.error, (message.refusal requestId).message⟩ := by
    unfold Message.refusal
    split <;> rfl
  have hfail : (World.fail .responder state.family message.requestId
      (message.refusal requestId)).run world = ((), { world with outlet :=
        (Outlet.send world.outlet (message.rejection requestId state.family)).2 }) := by
    rw [Message.rejection, ← hstatus]
    unfold Message.refusal
    split <;> rfl
  unfold process
  rw [check_eq_error h]
  exact congrArg (fun told : Unit × World ω ↦
    (((.error (message.refusal requestId), ⟨requestId, .responder state⟩), told.2) :
      Handled Exchange × World ω)) hfail

end Exchange

/-! ### Moments -/

/-- What may happen to a side, and what it may do by itself. -/
inductive Moment where
  | meets (happening : Happening)
  /-- The background job takes a step. -/
  | work
  /-- The side is told to stop. -/
  | cancel
  deriving DecidableEq

/-- Whether a moment matters to a responder: not so if a misplaced message comes, or if something
goes on its way. -/
def Moment.counts (requestId : String) (family : Family) : Moment → Bool
  | .meets (.message message) => !decide (message.IsMisplaced requestId family)
  | .meets .transmit => false
  | _ => true

namespace Side

/-- What one moment does. -/
def live (side : Side) : Moment → Side
  | .meets happening => side.meet happening
  | .work => side.work
  | .cancel => side.onChannel ({ · with isCancelled := true })

/-- Moments in turn. -/
def liveAll (side : Side) (moments : List Moment) : Side :=
  moments.foldl live side

/-- What has been queued between two moments. -/
def queuedUntil (side later : Side) : List Message :=
  later.world.outlet.underway.drop side.world.outlet.underway.length

/-- **The trace of a run**: every moment, with what is queued in it. -/
def trace (side : Side) : List Moment → List (Moment × List Message)
  | [] => []
  | moment :: rest =>
    (moment, side.queuedUntil (side.live moment)) :: (side.live moment).trace rest

/-- **The schedule of the background job**: whether there is room, for each of its steps. -/
def rooms (side : Side) : List Moment → List Bool
  | [] => []
  | .work :: rest => Outlet.hasSpace side.world.outlet :: side.work.rooms rest
  | moment :: rest => (side.live moment).rooms rest

end Side

/-! ### One moment of two runs -/

namespace Exchange

/-- A step of the background job comes to the same where it finds room, and where it finds none. -/
theorem stepJob_matches (exchange : Exchange) {world other : World Channel}
    (halike : world.Alike other)
    (hroom : Outlet.hasSpace other.outlet = Outlet.hasSpace world.outlet) :
    Matches exchange.stepJob world other := by
  unfold stepJob
  split
  · rename_i job _
    have hstep := job.step_matches halike hroom
    exact hstep.bind (.pure hstep.alike _)
  · exact .pure halike _

end Exchange

namespace Side

variable {requestId : String} {family : Family} {side other : Side} {moment : Moment}

/-- **Two sides that are alike** differ in nothing but what waits in their channels, what is on its
way, and how much may wait. -/
structure Alike (side other : Side) : Prop where
  settings : other.settings = side.settings
  exchange : other.exchange = side.exchange
  world : side.world.Alike other.world

theorem Alike.refl (side : Side) : side.Alike side :=
  ⟨rfl, rfl, .refl _⟩

theorem Alike.symm (h : side.Alike other) : other.Alike side :=
  ⟨h.settings.symm, h.exchange.symm, h.world.store.symm, h.world.hasShares.symm,
    h.world.workDir.symm, h.world.outcome.symm, h.world.isUp.symm, h.world.isCancelled.symm⟩

theorem Alike.trans {last : Side} (h : side.Alike other) (h' : other.Alike last) :
    side.Alike last :=
  ⟨h'.settings.trans h.settings, h'.exchange.trans h.exchange,
    h'.world.store.trans h.world.store, h'.world.hasShares.trans h.world.hasShares,
    h'.world.workDir.trans h.world.workDir, h'.world.outcome.trans h.world.outcome,
    h'.world.isUp.trans h.world.isUp, h'.world.isCancelled.trans h.world.isCancelled⟩

/-- A side that answers in a family, under an id. -/
def IsResponder (side : Side) (requestId : String) (family : Family) : Prop :=
  ∃ state : Responder, side.exchange = ⟨requestId, .responder state⟩ ∧ state.family = family

/-- **What two sides come to is the same**: they are alike again, and have queued the same. -/
structure Agree (side later other later' : Side) : Prop where
  alike : later.Alike later'
  queued : ∃ messages, later.world.outlet.underway = side.world.outlet.underway ++ messages ∧
    later'.world.outlet.underway = other.world.outlet.underway ++ messages

theorem Agree.queuedUntil_eq {later later' : Side} (h : Agree side later other later') :
    other.queuedUntil later' = side.queuedUntil later := by
  obtain ⟨messages, hqueued, hqueued'⟩ := h.queued
  unfold queuedUntil
  rw [hqueued, hqueued', List.drop_left, List.drop_left]

/-- Sides agree on what is outward. -/
theorem Agree.of_matches {α : Type} {action : WorldM Channel α} (exchange : α → Exchange)
    (halike : side.Alike other) (h : Matches action side.world other.world) :
    Agree side ⟨side.settings, exchange (action.run side.world).1, (action.run side.world).2⟩
      other ⟨other.settings, exchange (action.run other.world).1, (action.run other.world).2⟩ := by
  obtain ⟨messages, hqueues, hqueues'⟩ := h.queues
  exact ⟨⟨halike.settings, congrArg exchange h.answer, h.alike⟩, messages, hqueues.underway,
    hqueues'.underway⟩

/-- Nothing is queued when something else about the channel, or the faults, is replaced. -/
theorem Agree.of_replaced {later later' : Side} (halike : later.Alike later')
    (hqueued : later.world.outlet.underway = side.world.outlet.underway)
    (hqueued' : later'.world.outlet.underway = other.world.outlet.underway) :
    Agree side later other later' :=
  ⟨halike, [], by rw [hqueued, List.append_nil], by rw [hqueued', List.append_nil]⟩

/-- What goes on its way makes no difference. -/
theorem alike_transmit (side : Side) : side.Alike (side.onChannel Channel.transmit) := by
  have hkeeps : side.world.outlet.transmit.isUp = side.world.outlet.isUp ∧
      side.world.outlet.transmit.isCancelled = side.world.outlet.isCancelled := by
    unfold Channel.transmit
    split <;> exact ⟨rfl, rfl⟩
  exact ⟨rfl, rfl, rfl, rfl, rfl, rfl, hkeeps.1, hkeeps.2⟩

/-- **Any one moment comes to the same for two sides that are alike**, if the background job
finds room for both or for neither. -/
theorem Alike.live (h : side.Alike other)
    (hroom : moment = .work →
      Outlet.hasSpace other.world.outlet = Outlet.hasSpace side.world.outlet) :
    Agree side (side.live moment) other (other.live moment) := by
  cases moment with
  | work =>
    have hstep := side.exchange.stepJob_matches h.world (hroom rfl)
    have hagree := Agree.of_matches Prod.snd h hstep
    change Agree side side.work other ⟨_, (other.exchange.stepJob.run other.world).1.2, _⟩
    rw [h.exchange]
    exact hagree
  | cancel =>
    exact .of_replaced ⟨h.settings, h.exchange, h.world.store, h.world.hasShares, h.world.workDir,
      h.world.outcome, h.world.isUp, rfl⟩ rfl rfl
  | meets happening =>
    cases happening with
    | message message =>
      have hprocess :=
        (Exchange.composed_process message side.exchange side.settings (fun _ ↦ .any)
          fun _ _ ↦ .any).outward.comes h.world
      have hagree := Agree.of_matches Prod.snd h hprocess
      change Agree side (side.process message) other
        ⟨_, ((other.exchange.process other.settings message).run other.world).1.2, _⟩
      rw [h.exchange, h.settings]
      rw [h.settings] at hagree
      exact hagree
    | quit =>
      have hquit := (Exchange.composed_quit side.exchange fun _ _ ↦ .any).outward.comes h.world
      have hagree := Agree.of_matches id h hquit
      change Agree side side.quit other ⟨_, (other.exchange.quit.run other.world).1, _⟩
      rw [h.exchange]
      exact hagree
    | transmit =>
      have halike := ((alike_transmit side).symm.trans h).trans (alike_transmit other)
      exact .of_replaced halike (Channel.underway_transmit _) (Channel.underway_transmit _)
    | connection isUp =>
      exact .of_replaced ⟨h.settings, h.exchange, h.world.store, h.world.hasShares,
        h.world.workDir, h.world.outcome, rfl, h.world.isCancelled⟩ rfl rfl
    | faults faults =>
      exact .of_replaced ⟨h.settings, h.exchange, congrArg (fun store ↦ { store with faults })
        h.world.store, h.world.hasShares, h.world.workDir, h.world.outcome, h.world.isUp,
        h.world.isCancelled⟩ rfl rfl

/-- **A responder stays one**, of its family and under its id. -/
theorem IsResponder.live (h : side.IsResponder requestId family) (moment : Moment) :
    (side.live moment).IsResponder requestId family := by
  obtain ⟨state, hexchange, hfamily⟩ := h
  have hsame {later : Side} (heq : later.exchange = side.exchange) :
      later.IsResponder requestId family := ⟨state, heq.trans hexchange, hfamily⟩
  cases moment with
  | cancel => exact hsame rfl
  | work =>
    cases hjob : state.job? with
    | none =>
      have hnone : side.exchange.party.job? = none := by rw [hexchange]; exact hjob
      exact hsame (congrArg exchange (work_of_none hnone))
    | some job =>
      rcases hrun : job.step.run side.world with ⟨⟨status, job'⟩, world'⟩
      refine ⟨state.withJob job', ?_, (state.family_withJob job').trans hfamily⟩
      exact congrArg exchange (work_of_run hexchange hjob hrun)
  | meets happening =>
    cases happening with
    | message message =>
      cases hcheck : side.exchange.check message with
      | error error =>
        refine hsame ?_
        change (side.process message).exchange = _
        unfold process Exchange.process
        rw [hcheck]
        rfl
      | ok command =>
        rcases hrun : (state.handle side.settings requestId command message).run side.world with
          ⟨⟨result, state'⟩, mid⟩
        have hhandle : (side.exchange.handle side.settings command message).run side.world =
            ((result, ⟨requestId, .responder state'⟩), mid) := by
          rw [hexchange]
          exact (run_bind_of_run hrun).trans rfl
        have hkept := state.family_handle side.settings requestId command message side.world
        rw [hrun] at hkept
        refine ⟨state', ?_, hkept.trans hfamily⟩
        change (side.process message).exchange = _
        rw [process_eq hcheck, hhandle]
    | quit =>
      rcases hrun : state.quit.run side.world with ⟨state', world'⟩
      have hkept := state.family_quit side.world
      rw [hrun] at hkept
      refine ⟨state', ?_, hkept.trans hfamily⟩
      exact congrArg exchange (quit_responder hexchange hrun)
    | transmit => exact hsame rfl
    | connection isUp => exact hsame rfl
    | faults faults => exact hsame rfl

/-- **A misplaced message is answered**, and that is all. -/
theorem IsResponder.process_misplaced {message : Message} (h : side.IsResponder requestId family)
    (hmisplaced : message.IsMisplaced requestId family) :
    side.process message = side.onChannel fun channel ↦
      (Outlet.send channel (message.rejection requestId family)).2 := by
  obtain ⟨state, hexchange, rfl⟩ := h
  have hprocess := Exchange.process_misplaced side.settings side.world hmisplaced
  rw [← hexchange] at hprocess
  unfold process
  rw [hprocess]
  rfl

/-- What is sent is queued, if it makes a packet, and nothing else changes. -/
theorem queuedUntil_send (side : Side) (message : Message) :
    let later := side.onChannel fun channel ↦ (Outlet.send channel message).2
    side.Alike later ∧ (∀ packet, Packet.ofMessage message = .ok packet →
        side.queuedUntil later = [message]) ∧
      ∀ fault, Packet.ofMessage message = .error fault → side.queuedUntil later = [] := by
  simp only [onChannel, Outlet.send, queuedUntil]
  cases hpacket : Packet.ofMessage message with
  | error fault =>
    exact ⟨⟨rfl, rfl, .refl _⟩, nofun, fun _ _ ↦ List.drop_length⟩
  | ok packet =>
    refine ⟨⟨rfl, rfl, rfl, rfl, rfl, rfl, rfl, rfl⟩, fun _ _ ↦ ?_, nofun⟩
    simp only [Channel.underway, ← List.append_assoc]
    exact List.drop_left

/-- **A moment that does not count makes no difference.** -/
theorem IsResponder.alike_live (h : side.IsResponder requestId family)
    (hcounts : moment.counts requestId family = false) : side.Alike (side.live moment) := by
  cases moment with
  | work => cases hcounts
  | cancel => cases hcounts
  | meets happening =>
    cases happening with
    | message message =>
      have hmisplaced : message.IsMisplaced requestId family := by
        simpa [Moment.counts] using hcounts
      change side.Alike (side.process message)
      rw [h.process_misplaced hmisplaced]
      exact (side.queuedUntil_send _).1
    | transmit => exact alike_transmit side
    | quit => cases hcounts
    | connection isUp => cases hcounts
    | faults faults => cases hcounts

/-! ### Runs -/

theorem trace_cons (side : Side) (moment : Moment) (rest : List Moment) :
    side.trace (moment :: rest) =
      (moment, side.queuedUntil (side.live moment)) :: (side.live moment).trace rest := rfl

/-- Only a step of the background job adds to its schedule. -/
theorem rooms_cons_of_ne (side : Side) {rest : List Moment} (hwork : moment ≠ .work) :
    side.rooms (moment :: rest) = (side.live moment).rooms rest := by
  cases moment with
  | work => exact absurd rfl hwork
  | meets happening => rfl
  | cancel => rfl

/-- Equal schedules agree on the first step, and on all the others. -/
theorem rooms_cons_eq {rest rest' : List Moment}
    (h : other.rooms (moment :: rest') = side.rooms (moment :: rest)) :
    (moment = .work → Outlet.hasSpace other.world.outlet = Outlet.hasSpace side.world.outlet) ∧
      (other.live moment).rooms rest' = (side.live moment).rooms rest := by
  by_cases hwork : moment = .work
  · subst hwork
    obtain ⟨hroom, hrooms⟩ := List.cons.inj h
    exact ⟨fun _ ↦ hroom, hrooms⟩
  · rw [rooms_cons_of_ne _ hwork, rooms_cons_of_ne _ hwork] at h
    exact ⟨fun heq ↦ absurd heq hwork, h⟩

theorem ne_work_of_counts (h : moment.counts requestId family = false) : moment ≠ .work :=
  fun hwork ↦ by rw [hwork] at h; cases h

/-- **A trace tells all that is queued.** -/
theorem IsResponder.underway_liveAll (h : side.IsResponder requestId family)
    (moments : List Moment) : (side.liveAll moments).world.outlet.underway =
      side.world.outlet.underway ++ ((side.trace moments).map Prod.snd).flatten := by
  induction moments generalizing side with
  | nil => exact (List.append_nil _).symm
  | cons moment rest ih =>
    obtain ⟨messages, hqueued, -⟩ := ((Alike.refl side).live fun _ ↦ rfl).queued
    have hsaid : side.queuedUntil (side.live moment) = messages := by
      unfold queuedUntil
      rw [hqueued, List.drop_left]
    change ((side.live moment).liveAll rest).world.outlet.underway = _
    rw [ih (h.live moment), hqueued, trace_cons, hsaid, List.map_cons, List.flatten_cons,
      List.append_assoc]

/-- **What a misplaced message in a run is answered with**, and that it is all that is queued. -/
theorem IsResponder.of_mem_trace (h : side.IsResponder requestId family) {moments : List Moment}
    {message : Message} {said : List Message}
    (hmem : (.meets (.message message), said) ∈ side.trace moments)
    (hmisplaced : message.IsMisplaced requestId family) :
    (∀ packet, Packet.ofMessage (message.rejection requestId family) = .ok packet →
        said = [message.rejection requestId family]) ∧
      ∀ fault, Packet.ofMessage (message.rejection requestId family) = .error fault →
        said = [] := by
  induction moments generalizing side with
  | nil => cases hmem
  | cons moment rest ih =>
    rw [trace_cons] at hmem
    rcases List.mem_cons.1 hmem with heq | hmem
    · obtain ⟨rfl, rfl⟩ := Prod.mk.inj heq
      change (∀ _, _ → side.queuedUntil (side.process message) = _) ∧
        ∀ _, _ → side.queuedUntil (side.process message) = _
      rw [h.process_misplaced hmisplaced]
      exact (side.queuedUntil_send _).2
    · exact ih (h.live moment) hmem

/-- A moment that does not count may be left out of a run. -/
theorem skip (side : Side) (moments : List Moment)
    (hcounts : moment.counts requestId family = false) :
    (moment :: moments).filter (·.counts requestId family) =
        moments.filter (·.counts requestId family) ∧
      side.rooms (moment :: moments) = (side.live moment).rooms moments ∧
      (side.trace (moment :: moments)).filter (·.1.counts requestId family) =
        ((side.live moment).trace moments).filter (·.1.counts requestId family) := by
  refine ⟨?_, side.rooms_cons_of_ne (ne_work_of_counts hcounts), ?_⟩
  · rw [List.filter_cons_of_neg (by rw [hcounts]; nofun)]
  · rw [trace_cons, List.filter_cons_of_neg (by rw [hcounts]; nofun)]

/-- A run that does not begin with a moment to leave out is over, or begins with one that counts. -/
theorem counts_of_filter {moment : Moment} {rest moments : List Moment}
    (hcounts : moment.counts requestId family = true)
    (hnone : ¬∃ first others, moments = first :: others ∧
      first.counts requestId family = false)
    (hmoments : moments.filter (·.counts requestId family) =
      (moment :: rest).filter (·.counts requestId family)) :
    ∃ others, moments = moment :: others ∧
      others.filter (·.counts requestId family) = rest.filter (·.counts requestId family) := by
  rw [List.filter_cons_of_pos hcounts] at hmoments
  cases moments with
  | nil => cases hmoments
  | cons first others =>
    have hfirst : first.counts requestId family = true := by
      by_contra hfirst
      exact hnone ⟨first, others, rfl, by simpa using hfirst⟩
    rw [List.filter_cons_of_pos hfirst] at hmoments
    obtain ⟨rfl, hothers⟩ := List.cons.inj hmoments
    exact ⟨others, rfl, hothers⟩

/-- **Two runs of responders that are alike**, whose moments are the same but for those that do not
count, and whose background jobs have the same schedule. -/
theorem Alike.liveAll {side other : Side} (h : side.Alike other)
    (hside : side.IsResponder requestId family) (hother : other.IsResponder requestId family)
    {moments moments' : List Moment}
    (hmoments : moments'.filter (·.counts requestId family) =
      moments.filter (·.counts requestId family))
    (hrooms : other.rooms moments' = side.rooms moments) :
    (side.liveAll moments).Alike (other.liveAll moments') ∧
      (other.trace moments').filter (·.1.counts requestId family) =
        (side.trace moments).filter (·.1.counts requestId family) := by
  -- what does not count is left out of either run, until both go on with the same moment
  by_cases hleft : ∃ moment rest, moments = moment :: rest ∧
      moment.counts requestId family = false
  · obtain ⟨moment, rest, rfl, hcounts⟩ := hleft
    obtain ⟨hfilter, hroom, htrace⟩ := side.skip rest hcounts
    rw [hfilter] at hmoments
    rw [hroom] at hrooms
    rw [htrace]
    exact ((hside.alike_live hcounts).symm.trans h).liveAll (hside.live moment) hother hmoments
      hrooms
  by_cases hright : ∃ moment rest, moments' = moment :: rest ∧
      moment.counts requestId family = false
  · obtain ⟨moment, rest, rfl, hcounts⟩ := hright
    obtain ⟨hfilter, hroom, htrace⟩ := other.skip rest hcounts
    rw [hfilter] at hmoments
    rw [hroom] at hrooms
    rw [htrace]
    exact (h.trans (hother.alike_live hcounts)).liveAll hside (hother.live moment) hmoments hrooms
  match moments with
  | [] =>
    match moments' with
    | [] => exact ⟨h, rfl⟩
    | moment :: rest =>
      have hcounts : moment.counts requestId family = true := by
        by_contra hcounts
        exact hright ⟨moment, rest, rfl, by simpa using hcounts⟩
      obtain ⟨_, hnil, -⟩ := counts_of_filter hcounts hleft hmoments.symm
      cases hnil
  | moment :: rest =>
    have hcounts : moment.counts requestId family = true := by
      by_contra hcounts
      exact hleft ⟨moment, rest, rfl, by simpa using hcounts⟩
    obtain ⟨rest', rfl, hrest⟩ := counts_of_filter hcounts hright hmoments
    obtain ⟨hroom, hrooms⟩ := rooms_cons_eq hrooms
    have hagree := h.live hroom
    obtain ⟨halike, htrace⟩ := hagree.alike.liveAll (hside.live moment) (hother.live moment) hrest
      hrooms
    refine ⟨halike, ?_⟩
    simp only [trace_cons, List.filter_cons, hcounts, if_true, htrace, hagree.queuedUntil_eq]
termination_by moments.length + moments'.length

/-- **Misplaced messages are invisible** to a responder. Wherever its messages go, one that is
misplaced is answered under its own id, and nothing else happens: no call is made, and the responder
with its job is what it was. In a run, what is queued for it is its answer alone, if that makes a
packet. Two runs with the same moments, but for misplaced messages and for what goes on its way,
come to the same responder, the same share with the same calls, and the same outcome, and the same
is queued in all the moments that they have in common, as long as the job has the same schedule. -/
theorem misplaced_invisible {side : Side} {state : Responder}
    (hexchange : side.exchange = ⟨requestId, .responder state⟩) :
    (∀ {ω : Type} [Outlet ω] (settings : TransferSettings) (world : World ω) (message : Message),
      message.IsMisplaced requestId state.family →
        (side.exchange.process settings message).run world =
          ((.error (message.refusal requestId), side.exchange), { world with outlet :=
            (Outlet.send world.outlet (message.rejection requestId state.family)).2 })) ∧
    (∀ moments : List Moment,
      (side.liveAll moments).world.outlet.underway =
          side.world.outlet.underway ++ ((side.trace moments).map Prod.snd).flatten ∧
        ∀ message said, (.meets (.message message), said) ∈ side.trace moments →
          message.IsMisplaced requestId state.family →
            (∀ packet, Packet.ofMessage (message.rejection requestId state.family) = .ok packet →
              said = [message.rejection requestId state.family]) ∧
            ∀ fault, Packet.ofMessage (message.rejection requestId state.family) = .error fault →
              said = []) ∧
    ∀ moments moments' : List Moment,
      moments'.filter (·.counts requestId state.family) =
          moments.filter (·.counts requestId state.family) →
      side.rooms moments' = side.rooms moments →
        (side.liveAll moments').exchange = (side.liveAll moments).exchange ∧
        (side.liveAll moments').world.store = (side.liveAll moments).world.store ∧
        (side.liveAll moments').world.outcome = (side.liveAll moments).world.outcome ∧
        (side.trace moments').filter (·.1.counts requestId state.family) =
          (side.trace moments).filter (·.1.counts requestId state.family) := by
  have hside : side.IsResponder requestId state.family := ⟨state, hexchange, rfl⟩
  refine ⟨fun settings world message hmisplaced ↦ ?_,
    fun moments ↦ ⟨hside.underway_liveAll moments, fun _ _ ↦ hside.of_mem_trace⟩,
    fun moments moments' hmoments hrooms ↦ ?_⟩
  · rw [hexchange]
    exact Exchange.process_misplaced settings world hmisplaced
  · obtain ⟨halike, htrace⟩ := (Alike.refl side).liveAll hside hside hmoments hrooms
    exact ⟨halike.exchange, halike.world.store, halike.world.outcome, htrace⟩

/-- A server that has not been asked for anything, and is to be asked for a listing. -/
def smallLister : Side :=
  Conversation.smallServer.side .responder .listing "7"

/-- A directory with one file is listed. -/
def undisturbed : List Moment :=
  [.meets (.message (.of "7" .listingInitReq
      (.request ⟨some ⟨"srv/box", "", "", "", false⟩, .listing ⟨1, false, false⟩⟩))),
    .work, .work, .work, .work]

/-- While it is listed, somebody else asks, somebody sends a page, and somebody sends a message that
nobody knows. The answers go on their way before the job finds no room. -/
def disturbed : List Moment :=
  [.meets (.message (.bare "8" .listingInitReq)),
    .meets (.message (.of "7" .listingInitReq
      (.request ⟨some ⟨"srv/box", "", "", "", false⟩, .listing ⟨1, false, false⟩⟩))),
    .work, .meets (.message (.bare "7" .listingInitResp)), .meets .transmit, .meets .transmit,
    .work, .meets (.message ⟨"7", 99, .empty⟩), .meets .transmit, .work, .work]

theorem misplaced_invisible_smallLister :
    smallLister.exchange = ⟨"7", .responder (.listing none)⟩ ∧
    disturbed.filter (·.counts "7" .listing) = undisturbed.filter (·.counts "7" .listing) ∧
    smallLister.rooms disturbed = smallLister.rooms undisturbed ∧
    (smallLister.liveAll disturbed).world.store = (smallLister.liveAll undisturbed).world.store ∧
    (smallLister.trace disturbed).filter (·.1.counts "7" .listing) =
      (smallLister.trace undisturbed).filter (·.1.counts "7" .listing) ∧
    (smallLister.liveAll disturbed).world.outlet.underway.map
        (fun message ↦ (message.requestId, message.command?)) =
      [("8", some .listingErrorResp), ("7", some .listingErrorResp),
        ("7", some .listingInitResp), ("7", some .listingErrorResp),
        ("7", some .listingEndResp)] := by
  have hexchange : smallLister.exchange = ⟨"7", .responder (.listing none)⟩ := rfl
  have hmoments : disturbed.filter (·.counts "7" .listing) =
      undisturbed.filter (·.counts "7" .listing) := by decide +kernel
  have hrooms : smallLister.rooms disturbed = smallLister.rooms undisturbed := by
    decide +kernel
  obtain ⟨-, -, hruns⟩ := misplaced_invisible hexchange
  obtain ⟨-, hstore, -, htrace⟩ := hruns undisturbed disturbed hmoments hrooms
  exact ⟨hexchange, hmoments, hrooms, hstore, htrace, by decide +kernel⟩

end Side

end FileShare
