import FileShare.Proofs.Jobs
import FileShare.Session.Session

/-!
# The worker that fills the queue of responses and the writer that empties it

A background job offers a message until there is room for it (`Job.offerOnce`), and in a session the
offer is one step: room is looked for, the packet is queued, and what can go out is sent. Its worker
does this in steps, beside others that call the writer. Here the offer is taken apart (`Phase`), and
steps of the writer may fall between any two of them:

* the worker looks whether it is to stop, then looks for room, and only then queues the packet;
* after that, or if it has found no room, it calls the writer, and does nothing if somebody else is
  writing;
* whoever writes takes the oldest response out of the queue, sends pieces of it, and may put it back
  at the head; it lets go of the lock only after that.

What the transport does is left open: it may be another one from step to step.

`Sending` and `Sent` take note of the packets that were queued for a message, so that it can be said
that none is queued twice.

The bounds are in `Proofs.Backpressure`. That the steps of a worker that is alone are the offer of a
job is the subject of the last section (`Backlog.followsJob`).
-/

namespace FileShare

/-! ### What is waiting to go out -/

namespace Packet

/-- A packet as it was before anything of it was sent. -/
def rewound (packet : Packet) : Packet :=
  { packet with headerSent := 0, payloadSent := 0 }

@[simp] theorem rewound_advance (packet : Packet) (count : Nat) :
    (packet.advance count).rewound = packet.rewound := by
  rw [advance]
  split <;> rfl

end Packet

namespace Session

variable {τ : Type}

/-- The responses that have not gone out: the one that the writer holds, and those in the queue. -/
def outstanding (s : Session τ) : List Packet :=
  s.held.toList ++ s.responses

/-- Which responses have not gone out, however much of them has been sent. -/
def owed (s : Session τ) : List Packet :=
  s.outstanding.map Packet.rewound

theorem outstanding_of_held {s : Session τ} {packet : Packet} (h : s.held = some packet) :
    s.outstanding = packet :: s.responses := by
  rw [outstanding, h]
  rfl

theorem outstanding_pushResponse (s : Session τ) (packet : Packet) :
    (s.pushResponse packet).outstanding = s.outstanding ++ [packet] :=
  (List.append_assoc ..).symm

theorem length_owed (s : Session τ) : s.owed.length = s.outstanding.length :=
  List.length_map _

/-- Whoever looks for room overlooks the response that the writer holds, and no other one. -/
theorem length_outstanding_of_space {s : Session τ} (hspace : s.hasResponseSpace = true) :
    s.outstanding.length ≤ s.capacity ∧ (s.held = none → s.outstanding.length < s.capacity) := by
  have hlt : s.responses.length < s.capacity := of_decide_eq_true hspace
  rw [outstanding, List.length_append]
  refine ⟨?_, fun hheld ↦ ?_⟩
  · have hheld : s.held.toList.length ≤ 1 := by cases s.held <;> simp
    omega
  · rw [hheld]
    simpa using hlt

variable [Transport τ]

/-- A piece that is sent leaves the response where it was, or it is the last that is heard of it. -/
theorem owed_sendPiece {s : Session τ} {t : τ} {packet : Packet} (hheld : s.held = some packet) :
    (s.sendPiece t packet).2.owed <:+ s.owed ∧
      (s.sendPiece t packet).2.capacity = s.capacity := by
  have howed : s.owed = packet.rewound :: s.responses.map Packet.rewound := by
    rw [owed, outstanding_of_held hheld]
    rfl
  rw [howed, sendPiece]
  split
  · split
    · exact ⟨by simp [owed, outstanding, returnResponse, release, bind], rfl⟩
    · exact ⟨by simp [owed, outstanding, hold, bind], rfl⟩
  · split
    · exact ⟨by simp [owed, outstanding, returnResponse, release, bind], rfl⟩
    · exact ⟨List.suffix_cons _ _, rfl⟩

/-- **A step of the writer takes nothing out of turn**: what is owed after it is what was owed
before, perhaps without the first response. -/
theorem owed_writeStep (s : Session τ) :
    s.writeStep.2.owed <:+ s.owed ∧ s.writeStep.2.capacity = s.capacity := by
  rw [writeStep]
  split
  · exact ⟨List.suffix_rfl, rfl⟩
  split
  · rename_i hheld
    split
    · exact ⟨List.suffix_rfl, rfl⟩
    split
    · exact ⟨List.suffix_rfl, rfl⟩
    · rename_i packet rest hresponses
      exact ⟨by simp [owed, outstanding, hold, hheld, hresponses], rfl⟩
  · rename_i packet hheld
    split
    · rw [owed, owed, outstanding_of_held hheld]
      exact ⟨List.suffix_cons _ _, rfl⟩
    · exact owed_sendPiece hheld

theorem writeEvent_of_transport_none {s : Session τ} (h : s.transport = none) :
    s.writeEvent = (.error .notInitialised, s) :=
  writeEvent_of_done (by rw [writeStep, h])

end Session

/-! ### The worker and the writer -/

/-- Who has the write lock. -/
inductive Writer where
  | worker
  /-- Somebody else, whose call may be over already. -/
  | other (isOver : Bool)

/-- **Where a worker is** in the sending of a message. -/
inductive Phase where
  /-- It is about to look whether it is to stop. -/
  | asking
  /-- It is about to look for room. -/
  | looking
  /-- It has found room, and is about to queue the packet. -/
  | posting
  /-- It is about to call the writer. -/
  | calling
  /-- It is writing. -/
  | writing
  /-- Its call of the writer is over. -/
  | leaving (result : Except SessionError Unit)
  /-- It waits for room, and looks again after some time. -/
  | waiting

/-- Whether room has been found for a packet that is not queued yet. -/
def Phase.isPosting : Phase → Bool
  | .posting => true
  | _ => false

/-- A message that is being sent. -/
structure Sending where
  message : Message
  /-- The packets that were queued for it. -/
  queued : List Packet
  phase : Phase

/-- A message that has been dealt with. -/
structure Sent where
  message : Message
  /-- The packets that were queued for it. -/
  queued : List Packet
  /-- Whether it was sent, or why not. -/
  answer : Except SessionError Bool

/-- **A session between the worker that fills its queue and the writer that empties it.** -/
structure Backlog (τ : Type) where
  session : Session τ
  /-- The worker has been told to stop. -/
  told : Bool
  lock : Option Writer
  sending : Option Sending
  /-- The messages that have been dealt with, oldest first. -/
  sent : List Sent

namespace Backlog

variable {τ : Type}

/-- The worker has not been given any message, and nobody is writing. -/
def start (session : Session τ) : Backlog τ :=
  ⟨session, false, none, none, []⟩

/-- All packets that the worker has queued, oldest first. -/
def queued (m : Backlog τ) : List Packet :=
  m.sent.flatMap Sent.queued ++ (m.sending.map Sending.queued).getD []

/-- The worker has found room for a packet that it has not queued. -/
def IsPosting (m : Backlog τ) : Prop :=
  m.sending.any (·.phase.isPosting) = true

instance (m : Backlog τ) : Decidable m.IsPosting :=
  inferInstanceAs (Decidable (_ = true))

/-- The worker queues a packet while the writer holds one. -/
def Overlaps (m : Backlog τ) : Prop :=
  m.IsPosting ∧ m.session.held ≠ none

/-- The worker goes on to the next phase. -/
def goOn (m : Backlog τ) (call : Sending) (phase : Phase) : Backlog τ :=
  { m with sending := some { call with phase } }

/-- The message has been dealt with. -/
def finish (m : Backlog τ) (call : Sending) (answer : Except SessionError Bool) : Backlog τ :=
  { m with
    sending := none
    sent := m.sent ++ [⟨call.message, call.queued, answer⟩] }

/-- The writer that the worker has called has come back. -/
def comeBack (m : Backlog τ) (call : Sending) : Except SessionError Unit → Backlog τ
  | .error error => m.finish call (.error error)
  | .ok () => if call.queued = [] then m.goOn call .waiting else m.finish call (.ok true)

variable [Transport τ]

/-- **The next step of the worker.** -/
def advance (m : Backlog τ) (call : Sending) : Backlog τ :=
  match call.phase with
  | .asking =>
    if m.told || m.session.cancelled then m.finish call (.ok false) else m.goOn call .looking
  | .looking => m.goOn call (if m.session.hasResponseSpace then .posting else .calling)
  | .posting =>
    match Packet.ofMessage call.message with
    | .error fault => m.finish call (.error (.frame fault))
    | .ok packet =>
      { m with session := m.session.pushResponse packet }.goOn
        { call with queued := call.queued ++ [packet] } .calling
  | .calling =>
    match m.session.transport, m.lock with
    | none, _ => m.comeBack call (.error .notInitialised)
    | some _, none => { m with lock := some .worker }.goOn call .writing
    | some _, some _ => m.comeBack call (.ok ())
  | .writing =>
    match m.session.writeStep with
    | (.again, session) => { m with session }
    | (.done result, session) => { m with session }.goOn call (.leaving result)
  | .leaving result => { m with lock := none }.comeBack call result
  | .waiting => m.goOn call .asking

/-- The next step of the other one who is writing. -/
def writeOn (m : Backlog τ) : Backlog τ :=
  match m.lock with
  | some (.other false) =>
    match m.session.writeStep with
    | (.again, session) => { m with session }
    | (.done _, session) => { m with session, lock := some (.other true) }
  | some (.other true) => { m with lock := none }
  | _ => m

/-- **What may happen next.** -/
inductive Move (τ : Type) where
  /-- The worker is given a message, unless it has one. -/
  | give (message : Message)
  /-- The worker takes its next step. -/
  | work
  /-- Somebody else calls the writer. -/
  | call
  /-- The other one who is writing takes a step. -/
  | write
  /-- The worker is told to stop. -/
  | tell
  /-- The session is told to stop. -/
  | cancel
  /-- From here on, the transport is another one. -/
  | transport (t : τ)

/-- What one move does. -/
def step (m : Backlog τ) : Move τ → Backlog τ
  | .give message =>
    match m.sending with
    | none => { m with sending := some ⟨message, [], .asking⟩ }
    | some _ => m
  | .work =>
    match m.sending with
    | none => m
    | some call => m.advance call
  | .call =>
    match m.session.transport, m.lock with
    | some _, none => { m with lock := some (.other false) }
    | _, _ => m
  | .write => m.writeOn
  | .tell => { m with told := true }
  | .cancel => { m with session := m.session.cancel }
  | .transport t => { m with session := m.session.bind t }

/-- **Moves in turn.** -/
def run (m : Backlog τ) (moves : List (Move τ)) : Backlog τ :=
  moves.foldl step m

/-! ### What one move can do -/

/-- **What one move can do** to what is outstanding. -/
inductive Changes (m m' : Backlog τ) : Prop where
  /-- Nothing is queued. What goes out is the oldest response. -/
  | emptied (capacity : m'.session.capacity = m.session.capacity)
    (owed : m'.session.owed <:+ m.session.owed) (queued : m'.queued = m.queued)
    (posting : m'.IsPosting → m.IsPosting)
  /-- The worker finds room. -/
  | found (session : m'.session = m.session) (space : m.session.hasResponseSpace = true)
    (queued : m'.queued = m.queued)
  /-- A packet is queued for which room had been found. -/
  | posted {packet : Packet} (posting : m.IsPosting)
    (session : m'.session = m.session.pushResponse packet)
    (queued : m'.queued = m.queued ++ [packet]) (ended : ¬ m'.IsPosting)

section Changes

variable {m m' : Backlog τ} {call : Sending}

omit [Transport τ] in
/-- Nothing happens to the session, and no room is found. -/
theorem Changes.still (session : m'.session = m.session) (queued : m'.queued = m.queued)
    (posting : m'.IsPosting → m.IsPosting) : Changes m m' :=
  .emptied (session ▸ rfl) (session ▸ List.suffix_rfl) queued posting

omit [Transport τ] in
theorem queued_finish (hsending : m.sending = some call) (answer : Except SessionError Bool) :
    (m.finish call answer).queued = m.queued := by
  rw [queued, queued, hsending]
  simp [finish, List.flatMap_append]

omit [Transport τ] in
theorem queued_goOn (hsending : m.sending = some call) (phase : Phase) :
    (m.goOn call phase).queued = m.queued := by
  rw [queued, queued, hsending]
  rfl

omit [Transport τ] in
theorem not_isPosting_finish (answer : Except SessionError Bool) :
    ¬ (m.finish call answer).IsPosting :=
  Bool.false_ne_true

omit [Transport τ] in
theorem not_isPosting_goOn {phase : Phase} (hphase : phase.isPosting = false) :
    ¬ (m.goOn call phase).IsPosting :=
  Bool.eq_false_iff.1 hphase

omit [Transport τ] in
theorem changes_finish (hsending : m.sending = some call) (answer : Except SessionError Bool) :
    Changes m (m.finish call answer) :=
  .still rfl (queued_finish hsending answer) fun h ↦ absurd h (not_isPosting_finish answer)

omit [Transport τ] in
theorem changes_goOn (hsending : m.sending = some call) {phase : Phase}
    (hphase : phase.isPosting = false) : Changes m (m.goOn call phase) :=
  .still rfl (queued_goOn hsending phase) fun h ↦ absurd h (not_isPosting_goOn hphase)

omit [Transport τ] in
theorem changes_comeBack (hsending : m.sending = some call) (result : Except SessionError Unit) :
    Changes m (m.comeBack call result) := by
  rcases result with error | -
  · exact changes_finish hsending _
  · rw [comeBack]
    split
    · exact changes_goOn hsending rfl
    · exact changes_finish hsending _

/-- A step of the writer, whoever takes it. -/
theorem Changes.written (session : m'.session = m.session.writeStep.2)
    (queued : m'.queued = m.queued) (posting : m'.IsPosting → m.IsPosting) : Changes m m' :=
  .emptied (session ▸ (m.session.owed_writeStep).2) (session ▸ (m.session.owed_writeStep).1) queued
    posting

omit [Transport τ] in
/-- To let go of the lock changes nothing that matters here. -/
theorem Changes.of_unlocked (h : Changes { m with lock := none } m') : Changes m m' := by
  cases h with
  | emptied capacity owed queued posting => exact .emptied capacity owed queued posting
  | found session space queued => exact .found session space queued
  | posted posting session queued ended => exact .posted posting session queued ended

theorem changes_advance (hsending : m.sending = some call) : Changes m (m.advance call) := by
  rw [advance]
  split
  · split
    · exact changes_finish hsending _
    · exact changes_goOn hsending rfl
  · by_cases hspace : m.session.hasResponseSpace = true
    · rw [if_pos hspace]
      exact .found rfl hspace (queued_goOn hsending _)
    · rw [if_neg hspace]
      exact changes_goOn hsending rfl
  · rename_i hphase
    split
    · exact changes_finish hsending _
    · refine .posted ?_ rfl ?_ (not_isPosting_goOn rfl)
      · rw [IsPosting, hsending, Option.any_some, hphase]
        rfl
      · rw [queued, queued, hsending]
        exact (List.append_assoc ..).symm
  · split
    · exact changes_comeBack hsending _
    · exact .still rfl (queued_goOn hsending _) fun h ↦ absurd h (not_isPosting_goOn rfl)
    · exact changes_comeBack hsending _
  · split
    · rename_i session hstep
      exact .written (by rw [hstep]) rfl id
    · rename_i result session hstep
      exact .written (by rw [hstep]; rfl) (queued_goOn hsending _)
        fun h ↦ absurd h (not_isPosting_goOn rfl)
  · rename_i result _
    have hunlocked : ({ m with lock := none } : Backlog τ).sending = some call := hsending
    exact (changes_comeBack hunlocked result).of_unlocked
  · exact changes_goOn hsending rfl

/-- **Everything that a move can do** to what is outstanding. -/
theorem changes_step (m : Backlog τ) (move : Move τ) : Changes m (m.step move) := by
  have hsame : Changes m m := .still rfl rfl id
  cases move with
  | give message =>
    rw [step]
    split
    · rename_i hsending
      refine .still rfl ?_ fun hposting ↦ absurd hposting Bool.false_ne_true
      rw [queued, queued, hsending]
      rfl
    · exact hsame
  | work =>
    rw [step]
    split
    · exact hsame
    · exact changes_advance ‹_›
  | call =>
    rw [step]
    split
    · exact .still rfl rfl id
    · exact hsame
  | write =>
    rw [step, writeOn]
    split
    · split
      · rename_i session hstep
        exact .written (by rw [hstep]) rfl id
      · rename_i result session hstep
        exact .written (by rw [hstep]) rfl id
    · exact .still rfl rfl id
    · exact hsame
  | tell => exact .still rfl rfl id
  | cancel => exact .emptied rfl List.suffix_rfl rfl id
  | transport t => exact .emptied rfl List.suffix_rfl rfl id

end Changes

/-! ### A worker that is alone -/

theorem run_append (m : Backlog τ) (moves more : List (Move τ)) :
    m.run (moves ++ more) = (m.run moves).run more :=
  List.foldl_append

/-- The worker takes so many steps, and nothing else happens. -/
def alone (m : Backlog τ) (steps : Nat) : Backlog τ :=
  m.run (List.replicate steps .work)

/-- What is there after some steps of the worker alone. -/
def ComesTo (m last : Backlog τ) : Prop :=
  ∃ steps, m.alone steps = last

namespace ComesTo

variable {m mid last : Backlog τ} {call : Sending}

theorem trans (first : m.ComesTo mid) (second : mid.ComesTo last) : m.ComesTo last := by
  obtain ⟨steps, rfl⟩ := first
  obtain ⟨more, rfl⟩ := second
  refine ⟨steps + more, ?_⟩
  rw [alone, ← List.replicate_append_replicate, run_append]
  rfl

/-- One step of the worker. -/
theorem advance (hsending : m.sending = some call) (hadvance : m.advance call = last) :
    m.ComesTo last := by
  refine ⟨1, ?_⟩
  show m.step .work = last
  rw [step, hsending]
  exact hadvance

variable {result : Except SessionError Unit} {session : Session τ}

/-- **The steps of a worker that writes are one write event.** -/
theorem written (hsending : m.sending = some call) (hphase : call.phase = .writing)
    (hevent : m.session.writeEvent = (result, session)) :
    m.ComesTo ({ m with session }.goOn call (.leaving result)) := by
  -- the work that is left decreases with every step that asks for another one
  induction hwork : m.session.writeWork using Nat.strongRecOn generalizing m with
  | _ work ih =>
    rcases hstep : m.session.writeStep with ⟨_ | done, mid⟩
    · rw [Session.writeEvent_of_again hstep] at hevent
      have hnext : m.ComesTo { m with session := mid } := .advance hsending <| by
        rw [Backlog.advance, hphase, hstep]
      have hlt : mid.writeWork < work := hwork ▸ Session.writeWork_writeStep_lt hstep
      exact hnext.trans (ih _ hlt hsending hevent rfl)
    · rw [Session.writeEvent_of_done hstep] at hevent
      cases hevent
      refine .advance hsending ?_
      rw [Backlog.advance, hphase, hstep]

/-- **The call of a writer that nobody else has called is one write event.** -/
theorem called (hsending : m.sending = some call) (hphase : call.phase = .calling)
    (hlock : m.lock = none) (hevent : m.session.writeEvent = (result, session)) :
    m.ComesTo ({ m with session }.comeBack call result) := by
  rcases htransport : m.session.transport with - | t
  · rw [Session.writeEvent_of_transport_none htransport] at hevent
    cases hevent
    refine .advance hsending ?_
    rw [Backlog.advance, hphase, htransport]
  · have hentered : m.ComesTo ({ m with lock := some .worker }.goOn call .writing) :=
      .advance hsending <| by rw [Backlog.advance, hphase, htransport, hlock]
    have hwritten := written (m := { m with lock := some .worker }.goOn call .writing) rfl rfl
      hevent
    have hleft : Backlog.advance ({ m with session, lock := some .worker }.goOn call
        (.leaving result)) { call with phase := .leaving result } =
        { m with session }.comeBack call result := by
      show comeBack { m with session, lock := none, sending := _ } _ result = _
      rw [← hlock]
      cases result <;> rfl
    exact (hentered.trans hwritten).trans (.advance rfl hleft)

variable {message : Message} {answer : Except SessionError Unit}

/-- A worker that has found room queues the packet and calls the writer: it sends the message. -/
theorem posted (hsending : m.sending = some ⟨message, [], .posting⟩) (hlock : m.lock = none)
    (hsend : m.session.send message = (answer, session)) :
    ∃ packets, m.ComesTo ({ m with session }.finish ⟨message, packets, .posting⟩
        (answer.map fun _ ↦ true)) ∧ (answer = .ok () → packets ≠ []) := by
  rw [Session.send] at hsend
  rcases hpacket : Packet.ofMessage message with fault | packet <;> rw [hpacket] at hsend
  · cases hsend
    refine ⟨[], .advance hsending ?_, fun hsent ↦ by cases hsent⟩
    rw [Backlog.advance]
    dsimp only
    rw [hpacket]
    rfl
  · have hqueued : m.ComesTo ({ m with session := m.session.pushResponse packet }.goOn
        ⟨message, [packet], .posting⟩ .calling) := .advance hsending <| by
      rw [Backlog.advance]
      dsimp only
      rw [hpacket]
      rfl
    have hcalled := called (m := { m with session := m.session.pushResponse packet }.goOn
      ⟨message, [packet], .posting⟩ .calling) rfl rfl hlock hsend
    refine ⟨[packet], hqueued.trans ?_, fun _ ↦ List.cons_ne_nil _ _⟩
    cases answer <;> exact hcalled

end ComesTo

/-- **What the worker says of a message is what becomes of the job that offers it.** -/
inductive Agrees (m last : Backlog τ) (message : Message) (job : Job) : JobStatus × Job → Prop where
  /-- The worker was to stop, and nothing was queued. -/
  | stopped (sending : last.sending = none)
    (sent : last.sent = m.sent ++ [⟨message, [], .ok false⟩]) :
    Agrees m last message job (.ended, job.ended)
  /-- The message was queued. -/
  | sent {packets : List Packet} (sending : last.sending = none)
    (sent : last.sent = m.sent ++ [⟨message, packets, .ok true⟩]) (queued : packets ≠ []) :
    Agrees m last message job (.running, { job with
      offer := none
      sent := job.sent + UInt64.ofNat (Job.uploadedBytes message) })
  /-- The session has failed. -/
  | failed {packets : List Packet} {error : SessionError} (sending : last.sending = none)
    (sent : last.sent = m.sent ++ [⟨message, packets, .error error⟩]) :
    Agrees m last message job (.ended, job.ended)
  /-- There was no room, and the message is offered again. -/
  | waits {status : JobStatus} (sending : last.sending = some ⟨message, [], .waiting⟩)
    (goes : status ≠ .ended) : Agrees m last message job (status, job)

/-- A failure of the session is told without the session. -/
theorem outlet_failWith (job : Job) (error : SessionError) (world : World (Session τ)) :
    ((job.failWith (.session error)).run world).2.outlet = world.outlet := by
  rw [Job.failWith_run]
  cases job.role <;> rfl

/-- The worker that has just been given a message comes to what a job that offers it comes to, if
nothing else happens. -/
def FollowsJob (m : Backlog τ) : Prop :=
  ∀ message, m.sending = some ⟨message, [], .asking⟩ → m.lock = none → m.told = false →
    ∀ (job : Job) (world : World (Session τ)), world.outlet = m.session →
      ∃ last, m.ComesTo last ∧ last.lock = none ∧
        last.session = ((job.offerOnce message).run world).2.outlet ∧
        Agrees m last message job ((job.offerOnce message).run world).1

/-- **The steps of a worker that is alone are the offer of its job.** -/
theorem followsJob (m : Backlog τ) : m.FollowsJob := by
  intro message hsending hlock htold job world hworld
  rw [Job.offerOnce_run, hworld]
  split
  · -- it is to stop
    rename_i hcancelled
    refine ⟨m.finish ⟨message, [], .asking⟩ (.ok false), .advance hsending ?_, hlock, hworld.symm,
      .stopped rfl rfl⟩
    exact if_pos (Bool.or_eq_true_iff.mpr (.inr hcancelled))
  rename_i hgoes
  have hlooks : m.ComesTo (m.goOn ⟨message, [], .asking⟩ .looking) := .advance hsending <| by
    rw [advance]
    dsimp only
    rw [htold]
    exact if_neg hgoes
  split
  · -- there is room
    rename_i hspace
    have hposting : m.ComesTo (m.goOn ⟨message, [], .asking⟩ .posting) :=
      hlooks.trans (.advance rfl (congrArg (m.goOn _) (if_pos hspace)))
    rcases hsend : m.session.send message with ⟨answer, session⟩
    obtain ⟨packets, hposted, hpackets⟩ :=
      ComesTo.posted (m := m.goOn ⟨message, [], .asking⟩ .posting) rfl hlock hsend
    have hsent : (World.send message).run.run world =
        (answer.mapError .session, { world with outlet := session }) := by
      show ((world.outlet.send message).1.mapError ExchangeError.session,
        { world with outlet := (world.outlet.send message).2 }) = _
      rw [hworld, hsend]
    refine ⟨_, hposting.trans hposted, hlock, ?_⟩
    rw [hsent]
    rcases answer with error | ⟨⟩
    · exact ⟨(outlet_failWith job error { world with outlet := session }).symm, .failed rfl rfl⟩
    · exact ⟨rfl, .sent rfl rfl (hpackets rfl)⟩
  · -- there is no room
    rename_i hfull
    have hcalling : m.ComesTo (m.goOn ⟨message, [], .asking⟩ .calling) :=
      hlooks.trans (.advance rfl (congrArg (m.goOn _) (if_neg hfull)))
    rcases hevent : m.session.writeEvent with ⟨result, session⟩
    have hcalled : (m.goOn ⟨message, [], .asking⟩ .calling).ComesTo _ :=
      .called rfl rfl hlock hevent
    have hflushed : (World.flush : StepM (Session τ) Unit).run.run world =
        (result.mapError .session, { world with outlet := session }) := by
      show (world.outlet.writeEvent.1.mapError ExchangeError.session,
        { world with outlet := world.outlet.writeEvent.2 }) = _
      rw [hworld, hevent]
    refine ⟨_, hcalling.trans hcalled, ?_⟩
    rw [hflushed]
    rcases result with error | ⟨⟩
    · exact ⟨hlock, (outlet_failWith job error { world with outlet := session }).symm,
        .failed rfl rfl⟩
    · refine ⟨hlock, rfl, .waits rfl ?_⟩
      show (if Outlet.hasSpace session then _ else _) ≠ _
      split <;> nofun

end Backlog

end FileShare
