import FileShare.Proofs.Cursor
import FileShare.Session.Session
import FileShare.Transport.Scripted
import FileShare.Transport.Socket

/-!
# Responses go out whole and in order

A response may be interrupted anywhere: inside its header, between header and payload, inside its
payload, any number of times, and other responses are queued behind it while the writer holds it.
What a transport has accepted is nevertheless the front of one string, the bytes of all responses in
the order in which they were queued.

## The surroundings

`Recorded` wraps any transport and writes down what its sends have accepted and how they have
failed; it changes no answer. `Outbox` is a session on a recorded transport whose writer may be
interrupted: its events are the queueing of a response, a call of the writer, and a single step of
the one writer that has come through. A call that finds another one writing does nothing.

## What the statements rest on

* `Writes` lists everything that one step of a writer can do (`writes_writeStep`).
* `Outbox.Sound` balances the account: as long as no send has failed, what was accepted, what is
  left of the response that is held, and what is left of those that are queued are together what was
  queued in all. Each event keeps the balance (`Outbox.Sound.step`).
* A failed send ends the call and shuts the transport down (`Outbox.Sound.settled_step`). What
  happens to bytes after that is up to the transport: one that refuses sends once it is shut down
  (`RefusesAfterShutdown`; sockets do) takes no further byte (`Outbox.Sound.accepted_run_of_down`),
  while one that goes on accepting them gets the next response behind a torn one
  (`Outbox.accepted_not_prefix`).
-/

namespace FileShare

/-! ### Transports under observation -/

/-- A transport whose sends are written down. -/
structure Recorded (τ : Type) where
  inner : τ
  /-- All bytes that sends have accepted. -/
  accepted : List UInt8
  /-- The failures of sends that were no mere reasons to wait. -/
  failures : List IoError

namespace Recorded

variable {τ : Type} [Transport τ]

/-- A transport of which nothing is known yet. -/
def fresh (t : τ) : Recorded τ := ⟨t, [], []⟩

/-- Whether a failure of a send is a mere reason to wait. -/
def isPassing (error : IoError) : Bool := error.kind? = some .wouldBlock

instance : Transport (Recorded τ) where
  peek t n := ((Transport.peek t.inner n).1, { t with inner := (Transport.peek t.inner n).2 })
  recv t n := ((Transport.recv t.inner n).1, { t with inner := (Transport.recv t.inner n).2 })
  send t data :=
    match Transport.send t.inner data with
    | (.ok count, inner) =>
      (.ok count, { t with inner, accepted := t.accepted ++ data.data.toList.take count })
    | (.error error, inner) =>
      (.error error, { t with
        inner
        failures := if isPassing error then t.failures else t.failures ++ [error] })
  shutdown t := { t with inner := Transport.shutdown t.inner }
  isReadClosed t := Transport.isReadClosed t.inner
  unread t := Transport.unread t.inner
  unread_peek t n := Transport.unread_peek t.inner n
  peek_eq_ok {t t' n data} h := by
    obtain ⟨hdata, rfl⟩ := Prod.mk.inj h
    exact Transport.peek_eq_ok (Prod.ext hdata rfl)
  unread_recv_ok {t t' n data} h := by
    obtain ⟨hdata, rfl⟩ := Prod.mk.inj h
    exact Transport.unread_recv_ok (Prod.ext hdata rfl)
  unread_recv_error {t t' n error} h := by
    obtain ⟨herror, rfl⟩ := Prod.mk.inj h
    exact Transport.unread_recv_error (Prod.ext herror rfl)

end Recorded

/-- A transport that **refuses sends** once it has been shut down, and goes on refusing them. -/
def RefusesAfterShutdown (τ : Type) [Transport τ] : Prop :=
  ∃ isDown : τ → Prop, (∀ t : τ, isDown (Transport.shutdown t)) ∧
    ∀ (t : τ) (data : ByteArray), isDown t →
      ∃ error t', Transport.send t data = (.error error, t') ∧ isDown t'

/-- **Sockets** refuse sends once they have been shut down. -/
theorem Socket.refusesAfterShutdown : RefusesAfterShutdown Socket := by
  refine ⟨fun s ↦ s.isShutdown = true, fun _ ↦ rfl, fun s data hdown ↦ ?_⟩
  exact ⟨.kind .notConnected, s, if_pos hdown, hdown⟩

/-! ### What one step of a writer can do -/

namespace Session

variable {τ : Type} [Transport τ]

/-- Everything that a write step can do to a session on a recorded transport. -/
inductive Writes (s : Session (Recorded τ)) (t : Recorded τ) :
    Turn × Session (Recorded τ) → Prop where
  /-- Nothing is to be done, or the session is over. -/
  | idle (held : s.held = none) : Writes s t (.done (.ok ()), s)
  /-- The oldest response is taken out of the queue. -/
  | take {packet : Packet} {rest : List Packet} (held : s.held = none)
    (responses : s.responses = packet :: rest) :
    Writes s t (.again, { s with held := some packet, responses := rest })
  /-- The response that is held has been sent. -/
  | release {packet : Packet} (held : s.held = some packet) (empty : packet.unsent.size = 0) :
    Writes s t (.again, { s with held := none })
  /-- A whole piece is accepted. -/
  | piece {packet : Packet} {count : Nat} {inner : τ} (held : s.held = some packet)
    (sent : Transport.send t.inner packet.unsent = (.ok count, inner)) :
    Writes s t (.again, { s with
      transport := some { t with
        inner
        accepted := t.accepted ++ packet.unsent.data.toList.take count }
      held := some (packet.advance count) })
  /-- Less than a piece is accepted, and the response goes back to the head. -/
  | short {packet : Packet} {count : Nat} {inner : τ} (held : s.held = some packet)
    (sent : Transport.send t.inner packet.unsent = (.ok count, inner)) :
    Writes s t (.done (.ok ()), { s with
      transport := some { t with
        inner
        accepted := t.accepted ++ packet.unsent.data.toList.take count }
      responses := packet.advance count :: s.responses
      held := none })
  /-- The transport asks to wait, and the response goes back to the head. -/
  | blocked {packet : Packet} {error : IoError} {inner : τ} (held : s.held = some packet)
    (sent : Transport.send t.inner packet.unsent = (.error error, inner)) :
    Writes s t (.done (.ok ()), { s with
      transport := some { t with inner }
      responses := packet :: s.responses
      held := none })
  /-- The send fails, and the transport is shut down. -/
  | failed {packet : Packet} {error : IoError} {inner : τ} (held : s.held = some packet)
    (hard : Recorded.isPassing error = false)
    (sent : Transport.send t.inner packet.unsent = (.error error, inner)) :
    Writes s t (.done (.error (.ofStream error)), { s with
      transport := some { t with
        inner := Transport.shutdown inner
        failures := t.failures ++ [error] }
      held := none })

variable {s : Session (Recorded τ)} {t : Recorded τ}

theorem writes_sendPiece {packet : Packet} (hheld : s.held = some packet) :
    Writes s t (s.sendPiece t packet) := by
  rcases hsend : Transport.send t.inner packet.unsent with ⟨error | count, inner⟩
  · rcases hpassing : Recorded.isPassing error with - | -
    · have hrecorded : Transport.send t packet.unsent =
          (.error error, { t with inner, failures := t.failures ++ [error] }) := by
        simp only [Transport.send, hsend, hpassing, Bool.false_eq_true, if_false]
      have hkind : ¬ error.kind? = some .wouldBlock := by simpa [Recorded.isPassing] using hpassing
      rw [sendPiece, hrecorded]
      simp only [if_neg hkind]
      exact .failed hheld hpassing hsend
    · have hrecorded : Transport.send t packet.unsent = (.error error, { t with inner }) := by
        simp only [Transport.send, hsend, hpassing, if_true]
      have hkind : error.kind? = some .wouldBlock := by simpa [Recorded.isPassing] using hpassing
      rw [sendPiece, hrecorded]
      simp only [if_pos hkind]
      exact .blocked hheld hsend
  · have hrecorded : Transport.send t packet.unsent = (.ok count,
        { t with inner, accepted := t.accepted ++ packet.unsent.data.toList.take count }) := by
      simp only [Transport.send, hsend]
    rw [sendPiece, hrecorded]
    simp only
    split
    · exact .short hheld hsend
    · exact .piece hheld hsend

/-- **Everything that a write step can do.** -/
theorem writes_writeStep (ht : s.transport = some t) : Writes s t s.writeStep := by
  unfold writeStep
  simp only [ht]
  rcases hheld : s.held with - | packet
  · simp only
    split
    · exact .idle hheld
    · split
      · exact .idle hheld
      · rename_i packet rest hresponses
        exact .take hheld hresponses
  · simp only
    split
    · rename_i hempty
      exact .release hheld hempty
    · exact writes_sendPiece hheld

end Session

/-! ### The writer beside those who queue responses -/

/-- A session on a recorded transport, and what has been queued in it. -/
structure Outbox (τ : Type) where
  session : Session (Recorded τ)
  /-- All responses that were ever queued, oldest first. -/
  pushed : List Packet
  /-- Somebody is writing. -/
  writing : Bool
  /-- What the call that ended last came to. -/
  last : Option (Except SessionError Unit)

namespace Outbox

/-- What can happen. -/
inductive Event where
  /-- A response is queued of which nothing has been sent. -/
  | push (packet : Packet) (unsent : packet.IsUnsent)
  /-- The writer is called. -/
  | call
  /-- The one who is writing takes one step. -/
  | write
  /-- The session is cancelled. -/
  | cancel

variable {τ : Type}

/-- Nothing has been queued. -/
def start (capacity readChunk : Nat) (t : τ) : Outbox τ :=
  ⟨(Session.ofSettings capacity readChunk).bind (.fresh t), [], false, none⟩

/-- What the transport has accepted. -/
def accepted (m : Outbox τ) : List UInt8 := (m.session.transport.map (·.accepted)).getD []

/-- How sends have failed. -/
def failures (m : Outbox τ) : List IoError := (m.session.transport.map (·.failures)).getD []

theorem accepted_of_transport {m : Outbox τ} {t : Recorded τ} (ht : m.session.transport = some t) :
    m.accepted = t.accepted := by
  rw [accepted, ht]
  rfl

theorem failures_of_transport {m : Outbox τ} {t : Recorded τ} (ht : m.session.transport = some t) :
    m.failures = t.failures := by
  rw [failures, ht]
  rfl

/-- What is left of the response that is held. -/
def heldLeft (m : Outbox τ) : List UInt8 := (m.session.held.map Packet.left).getD []

/-- What is left of the responses that are queued. -/
def queuedLeft (m : Outbox τ) : List UInt8 := m.session.responses.flatMap Packet.left

/-- The bytes of all responses, in the order in which they were queued. -/
def whole (m : Outbox τ) : List UInt8 := m.pushed.flatMap (·.bytes.data.toList)

variable [Transport τ]

/-- What an event does. -/
def step (m : Outbox τ) : Event → Outbox τ
  | .push packet _ =>
    { m with session := m.session.pushResponse packet, pushed := m.pushed ++ [packet] }
  | .call => { m with writing := true }
  | .write =>
    if m.writing then
      match m.session.writeStep with
      | (.again, session) => { m with session }
      | (.done result, session) => { m with session, writing := false, last := some result }
    else m
  | .cancel => { m with session := m.session.cancel }

/-- What a series of events does. -/
def run (m : Outbox τ) (events : List Event) : Outbox τ := events.foldl step m

/-- What holds of an outbox at any moment. -/
structure Sound (m : Outbox τ) : Prop where
  bound : m.session.transport.isSome = true
  held : ∀ packet ∈ m.session.held, packet.Cursor
  queued : ∀ packet ∈ m.session.responses, packet.Cursor
  /-- **The account is balanced** as long as no send has failed. -/
  balance : m.failures = [] → m.accepted ++ m.heldLeft ++ m.queuedLeft = m.whole

omit [Transport τ] in
theorem sound_start (capacity readChunk : Nat) (t : τ) : (start capacity readChunk t).Sound where
  bound := rfl
  held := by simp [start, Session.bind, Session.ofSettings]
  queued := by simp [start, Session.bind, Session.ofSettings]
  balance := fun _ ↦ rfl

/-- What one event may do to the account of sends: nothing, or a send fails. Then the call is over,
its result is the failure, and the transport is shut down without having taken a byte. -/
inductive Settled (m m' : Outbox τ) : Prop where
  | quiet (failures : m'.failures = m.failures) (whole : m.whole <+: m'.whole)
    (last : m'.last = m.last ∨ m'.last = some (.ok ()))
  | failed {error : IoError} (failures : m'.failures = m.failures ++ [error])
    (hard : Recorded.isPassing error = false) (last : m'.last = some (.error (.ofStream error)))
    (ended : m'.writing = false) (accepted : m'.accepted = m.accepted) (whole : m'.whole = m.whole)
    (down : ∃ t inner, m'.session.transport = some t ∧ t.inner = Transport.shutdown inner)

variable {m : Outbox τ}

theorem writes (h : m.Sound) : ∃ t, m.session.transport = some t ∧
    Session.Writes m.session t m.session.writeStep := by
  obtain ⟨t, ht⟩ := Option.isSome_iff_exists.1 h.bound
  exact ⟨t, ht, Session.writes_writeStep ht⟩

namespace Sound

theorem push (h : m.Sound) {packet : Packet} (hunsent : packet.IsUnsent) :
    (m.step (.push packet hunsent)).Sound := by
  refine ⟨h.bound, h.held, ?_, fun hfailures ↦ ?_⟩
  · intro p hp
    rcases List.mem_append.1 hp with hp | hp
    · exact h.queued p hp
    · rw [List.mem_singleton.1 hp]
      exact hunsent.cursor
  · have hbalance := h.balance hfailures
    show m.accepted ++ m.heldLeft ++ (m.session.responses ++ [packet]).flatMap Packet.left =
      (m.pushed ++ [packet]).flatMap (·.bytes.data.toList)
    rw [List.flatMap_append, List.flatMap_append, ← List.append_assoc, List.flatMap_singleton,
      List.flatMap_singleton, hunsent.left_eq]
    exact congrArg (· ++ packet.bytes.data.toList) hbalance

omit [Transport τ] in
/-- The account while a response is held. -/
theorem balance_of_held {packet : Packet} (h : m.Sound) (hheld : m.session.held = some packet)
    (hnone : m.failures = []) :
    m.accepted ++ packet.left ++ m.queuedLeft = m.whole := by
  have hleft : m.heldLeft = packet.left := by
    rw [heldLeft, hheld]
    rfl
  rw [← hleft]
  exact h.balance hnone

omit [Transport τ] in
/-- The account while a response is held of which the first bytes have just been sent. -/
theorem balance_of_piece {packet : Packet} (h : m.Sound) (hheld : m.session.held = some packet)
    (count : Nat) (hnone : m.failures = []) :
    m.accepted ++ packet.unsent.data.toList.take count ++
      ((packet.advance count).left ++ m.queuedLeft) = m.whole := by
  have hcursor : packet.Cursor := h.held packet (by rw [hheld]; rfl)
  have hbalance := h.balance_of_held hheld hnone
  rw [← hcursor.take_unsent_append_left count] at hbalance
  rw [← hbalance]
  simp only [List.append_assoc]

/-- **A step of the writer** moves bytes from what is left to what was accepted. -/
theorem write (h : m.Sound) : (m.step .write).Sound := by
  rw [Outbox.step]
  split
  · obtain ⟨t, ht, hwrites⟩ := writes h
    have haccepted := accepted_of_transport ht
    have hfailures := failures_of_transport ht
    generalize m.session.writeStep = step at hwrites
    -- one case for each thing that a step of the writer may do; in each, the account stays balanced
    -- because what leaves one of its three parts enters another
    cases hwrites with
    | idle hheld => exact ⟨h.bound, h.held, h.queued, h.balance⟩
    | @take packet rest hheld hresponses =>
      have hqueued := h.queued
      rw [hresponses] at hqueued
      refine ⟨h.bound, ?_, fun p hp ↦ hqueued p (List.mem_cons_of_mem _ hp), fun hnone ↦ ?_⟩
      · rintro p ⟨⟩
        exact hqueued packet List.mem_cons_self
      · have hbalance := h.balance hnone
        rw [heldLeft, hheld, queuedLeft, hresponses] at hbalance
        show m.accepted ++ packet.left ++ rest.flatMap Packet.left = m.whole
        rw [← hbalance, List.flatMap_cons, List.append_assoc]
        simp
    | @release packet hheld hempty =>
      refine ⟨h.bound, by simp, h.queued, fun hnone ↦ ?_⟩
      have hleft : packet.left = [] := (h.held packet (by rw [hheld]; rfl)).left_eq_nil hempty
      have hbalance := h.balance_of_held hheld hnone
      rw [hleft] at hbalance
      exact hbalance
    | @piece packet count inner hheld _ =>
      refine ⟨rfl, ?_, h.queued, fun hnone ↦ ?_⟩
      · rintro p ⟨⟩
        exact (h.held packet (by rw [hheld]; rfl)).advance count
      · show t.accepted ++ packet.unsent.data.toList.take count ++ (packet.advance count).left ++
          m.queuedLeft = m.whole
        rw [List.append_assoc, ← haccepted]
        exact h.balance_of_piece hheld count (hfailures.trans hnone)
    -- a piece went out and the rest goes back to the front of the queue
    | @short packet count inner hheld _ =>
      refine ⟨rfl, by simp, ?_, fun hnone ↦ ?_⟩
      · intro p hp
        rcases List.mem_cons.1 hp with rfl | hp
        · exact (h.held packet (by rw [hheld]; rfl)).advance count
        · exact h.queued p hp
      · show t.accepted ++ packet.unsent.data.toList.take count ++ [] ++
          (packet.advance count :: m.session.responses).flatMap Packet.left = m.whole
        rw [List.append_nil, ← haccepted]
        exact h.balance_of_piece hheld count (hfailures.trans hnone)
    | @blocked packet _ inner hheld _ =>
      refine ⟨rfl, by simp, ?_, fun hnone ↦ ?_⟩
      · intro p hp
        rcases List.mem_cons.1 hp with rfl | hp
        · exact h.held p (by rw [hheld]; rfl)
        · exact h.queued p hp
      · have hbalance := h.balance_of_held hheld (hfailures.trans hnone)
        show t.accepted ++ [] ++ (packet :: m.session.responses).flatMap Packet.left = m.whole
        rw [List.append_nil, ← haccepted, ← hbalance, List.append_assoc]
        rfl
    | @failed packet error inner hheld _ _ =>
      refine ⟨rfl, by simp, h.queued, fun hnone ↦ ?_⟩
      have hne : t.failures ++ [error] = [] := hnone
      simp at hne
  · exact h

/-- **Each event keeps an outbox sound.** -/
theorem step (h : m.Sound) (event : Event) : (m.step event).Sound := by
  cases event with
  | push packet hunsent => exact h.push hunsent
  | call => exact ⟨h.bound, h.held, h.queued, h.balance⟩
  | write => exact h.write
  | cancel => exact ⟨h.bound, h.held, h.queued, h.balance⟩

/-- **And so does a run.** -/
theorem run (h : m.Sound) (events : List Event) : (m.run events).Sound := by
  induction events generalizing m with
  | nil => exact h
  | cons event events ih => exact ih (h.step event)

omit [Transport τ] in
/-- What was accepted is the front of what was queued, as long as no send has failed. -/
theorem accepted_front (h : m.Sound) (hnone : m.failures = []) : m.accepted <+: m.whole := by
  rw [← h.balance hnone, List.append_assoc]
  exact List.prefix_append _ _

/-- **What one event does to the account of sends.** -/
theorem settled_step (h : m.Sound) (event : Event) : m.Settled (m.step event) := by
  cases event with
  | push packet _ =>
    have hwhole : (m.step (.push packet ‹_›)).whole =
        m.whole ++ [packet].flatMap (·.bytes.data.toList) := List.flatMap_append
    exact .quiet rfl (hwhole ▸ List.prefix_append _ _) (.inl rfl)
  | call => exact .quiet rfl List.prefix_rfl (.inl rfl)
  | cancel => exact .quiet rfl List.prefix_rfl (.inl rfl)
  | write =>
    rw [Outbox.step]
    split
    · obtain ⟨t, ht, hwrites⟩ := writes h
      have haccepted := accepted_of_transport ht
      have hfailures := failures_of_transport ht
      generalize m.session.writeStep = step at hwrites
      cases hwrites with
      | idle => exact .quiet rfl List.prefix_rfl (.inr rfl)
      | take => exact .quiet rfl List.prefix_rfl (.inl rfl)
      | release => exact .quiet rfl List.prefix_rfl (.inl rfl)
      | piece => exact .quiet hfailures.symm List.prefix_rfl (.inl rfl)
      | short => exact .quiet hfailures.symm List.prefix_rfl (.inr rfl)
      | blocked => exact .quiet hfailures.symm List.prefix_rfl (.inr rfl)
      | failed _ hard =>
        exact .failed (by rw [hfailures]; rfl) hard rfl rfl haccepted.symm rfl ⟨_, _, rfl, rfl⟩
    · exact .quiet rfl List.prefix_rfl (.inl rfl)

/-- The front of what was queued has been accepted, up to and including a send that fails. -/
theorem accepted_front_step (h : m.Sound) (hnone : m.failures = []) (event : Event) :
    (m.step event).accepted <+: (m.step event).whole := by
  cases h.settled_step event with
  | quiet hfailures => exact (h.step event).accepted_front (hfailures.trans hnone)
  | failed _ _ _ _ haccepted hwhole =>
    rw [haccepted, hwhole]
    exact h.accepted_front hnone

/-! ### Transports that refuse sends once they are shut down -/

section Refusing

variable {down : τ → Prop}
  (hshut : ∀ t : τ, down (Transport.shutdown t))
  (hrefuses : ∀ (t : τ) (data : ByteArray), down t →
    ∃ error t', Transport.send t data = (.error error, t') ∧ down t')

include hshut hrefuses

/-- A transport that refuses sends takes nothing, and goes on refusing. -/
theorem accepted_step_of_down (h : m.Sound) (hdown : ∀ t ∈ m.session.transport, down t.inner)
    (event : Event) : (m.step event).accepted = m.accepted ∧
      ∀ t ∈ (m.step event).session.transport, down t.inner := by
  cases event with
  | push | call | cancel => exact ⟨rfl, hdown⟩
  | write =>
    rw [Outbox.step]
    split
    · obtain ⟨t, ht, hwrites⟩ := writes h
      have haccepted := accepted_of_transport ht
      have hinner : down t.inner := hdown t (by rw [ht]; rfl)
      generalize m.session.writeStep = step at hwrites
      cases hwrites with
      | idle | take | release => exact ⟨rfl, hdown⟩
      | piece _ hsent | short _ hsent =>
        obtain ⟨error, t', hrefused, -⟩ := hrefuses _ _ hinner
        rw [hrefused] at hsent
        exact absurd (Prod.mk.inj hsent).1 (by simp)
      | blocked _ hsent =>
        obtain ⟨error, t', hrefused, hdown'⟩ := hrefuses _ _ hinner
        rw [hrefused] at hsent
        obtain ⟨-, rfl⟩ := Prod.mk.inj hsent
        refine ⟨haccepted.symm, ?_⟩
        rintro _ ⟨⟩
        exact hdown'
      | failed =>
        refine ⟨haccepted.symm, ?_⟩
        rintro _ ⟨⟩
        exact hshut _
    · exact ⟨rfl, hdown⟩

/-- **Once sends are refused, no further byte goes out.** -/
theorem accepted_run_of_down (h : m.Sound) (hdown : ∀ t ∈ m.session.transport, down t.inner)
    (events : List Event) : (m.run events).accepted = m.accepted := by
  induction events generalizing m with
  | nil => rfl
  | cons event events ih =>
    obtain ⟨haccepted, hdown'⟩ := h.accepted_step_of_down hshut hrefuses hdown event
    exact (ih (h.step event) hdown').trans haccepted

/-- What holds at any moment if the transport refuses sends once it is shut down. -/
theorem refusing_run (h : m.Sound) (hfront : m.accepted <+: m.whole)
    (hdown : m.failures ≠ [] → ∀ t ∈ m.session.transport, down t.inner) (events : List Event) :
    (m.run events).accepted <+: (m.run events).whole ∧
      ((m.run events).failures ≠ [] → ∀ t ∈ (m.run events).session.transport, down t.inner) := by
  -- Until the first failure the balanced account bounds what was accepted. After it, the transport
  -- takes nothing more, so the bound that held then still holds.
  induction events generalizing m with
  | nil => exact ⟨hfront, hdown⟩
  | cons event events ih =>
    have hsettled := h.settled_step event
    by_cases hnone : m.failures = []
    · refine ih (h.step event) (h.accepted_front_step hnone event) fun hsome ↦ ?_
      cases hsettled with
      | quiet hfailures => exact absurd (hfailures.trans hnone) hsome
      | failed _ _ _ _ _ _ hshutdown =>
        obtain ⟨t, inner, ht, hinner⟩ := hshutdown
        intro t' ht'
        rw [ht] at ht'
        obtain rfl := Option.some.inj ht'
        rw [hinner]
        exact hshut inner
    · obtain ⟨haccepted, hdown'⟩ :=
        h.accepted_step_of_down hshut hrefuses (hdown hnone) event
      refine ih (h.step event) ?_ fun _ ↦ hdown'
      rw [haccepted]
      cases hsettled with
      | quiet _ hwhole => exact hfront.trans hwhole
      | failed _ _ _ _ _ hwhole => rwa [hwhole]

end Refusing

end Sound

/-! ### A call that nobody interrupts -/

/-- **Steps of the writer on end are one write event.** -/
theorem exists_run_write (m : Outbox τ) (hwriting : m.writing = true) :
    ∃ steps, m.run (List.replicate steps .write) =
      { m with
        session := m.session.writeEvent.2
        writing := false
        last := some m.session.writeEvent.1 } := by
  -- the work that is left decreases with every step that asks for another one
  induction hn : m.session.writeWork using Nat.strongRecOn generalizing m with
  | _ n ih =>
    rw [Session.writeEvent]
    split
    · rename_i result session hstep
      refine ⟨1, ?_⟩
      show m.step .write = _
      rw [step, if_pos hwriting, hstep]
    · rename_i session hstep
      have hlt : session.writeWork < n := hn ▸ Session.writeWork_writeStep_lt hstep
      obtain ⟨steps, hsteps⟩ := ih _ hlt { m with session } hwriting rfl
      refine ⟨steps + 1, ?_⟩
      have hfirst : m.step .write = { m with session } := by
        rw [step, if_pos hwriting, hstep]
      rw [List.replicate_succ]
      show (m.step .write).run _ = _
      rw [hfirst, hsteps]

/-! ### The main statement -/

/-- **Responses go out whole and in order.** Whatever is queued at whatever time, wherever the
writer is interrupted, and whatever the transport answers to its sends:

* as long as no send has failed, what was accepted, what is left of the response that is held, and
  what is left of the queued ones are together the bytes of all responses in order;
* up to and including the first failure, what was accepted is the front of those bytes;
* a send that fails ends its call with that failure, and the transport is shut down;
* if the transport refuses sends once it is shut down, nothing more is accepted after a failure, and
  what was accepted is the front of all responses at any time;
* a call that nobody interrupts is a write event of the session. -/
theorem accepted_in_order (capacity readChunk : Nat) (t : τ) (events : List Event) :
    let m := (start capacity readChunk t).run events
    (m.failures = [] → m.accepted ++ m.heldLeft ++ m.queuedLeft = m.whole) ∧
    (m.failures = [] → ∀ event, (m.step event).accepted <+: (m.step event).whole) ∧
    (∀ event, m.Settled (m.step event)) ∧
    (RefusesAfterShutdown τ → m.accepted <+: m.whole ∧
      (m.failures ≠ [] → ∀ more, (m.run more).accepted = m.accepted)) ∧
    ∃ steps, m.run (.call :: List.replicate steps .write) =
      { m with
        session := m.session.writeEvent.2
        writing := false
        last := some m.session.writeEvent.1 } := by
  intro m
  have h : m.Sound := (sound_start capacity readChunk t).run events
  refine ⟨h.balance, h.accepted_front_step, h.settled_step, ?_,
    exists_run_write (m.step .call) rfl⟩
  rintro ⟨down, hshut, hrefuses⟩
  obtain ⟨hfront, hdown⟩ := (sound_start capacity readChunk t).refusing_run hshut hrefuses
    List.nil_prefix (fun hsome ↦ absurd rfl hsome) events
  exact ⟨hfront, fun hsome more ↦ h.accepted_run_of_down hshut hrefuses (hdown hsome) more⟩

/-- A response of one byte that is sent to a peer who is gone: the send fails, the socket is shut
down, and nothing goes out any more. -/
theorem accepted_in_order_peerGone :
    let m := (start 10 1 { Socket.connected with peerGone := true }).run
      [.push ⟨1, [7].toByteArray, 0, 0⟩ ⟨rfl, rfl⟩, .call, .write, .write]
    m.failures = [.kind .brokenPipe] ∧ m.last = some (.error .reset) ∧
      ∀ more, (m.run more).accepted = [] := by
  intro m
  have hfailures : m.failures = [.kind .brokenPipe] := by decide
  refine ⟨hfailures, rfl, fun more ↦ ?_⟩
  have haccepted : m.accepted = [] := by decide
  rw [← haccepted]
  exact ((accepted_in_order 10 1 _ _).2.2.2.1 Socket.refusesAfterShutdown).2
    (by rw [hfailures]; simp) more

/-! ### Transports that accept sends after they were shut down -/

/-- A transport that answers its sends as a script says, shut down or not. When the script is
through, it accepts everything. -/
structure Answers where
  script : List (Except IoError Nat)

instance : Transport Answers where
  peek t _ := (.error (.kind .wouldBlock), t)
  recv t _ := (.error (.kind .wouldBlock), t)
  send t data :=
    match t.script with
    | answer :: rest => (answer.map (min data.size), ⟨rest⟩)
    | [] => (.ok data.size, t)
  shutdown t := t
  isReadClosed _ := false
  unread _ := []
  unread_peek _ _ := rfl
  peek_eq_ok h := by simp at h
  unread_recv_ok h := by simp at h
  unread_recv_error _ := rfl

/-- **Behind a torn response the next one goes out** if the transport lets it: after five bytes of
a header were accepted and the next send has failed, the second response is sent from its start. So
what was accepted is not always the front of what was queued. -/
theorem accepted_not_prefix : ¬ ∀ (τ : Type) [Transport τ] (capacity readChunk : Nat) (t : τ)
    (events : List Event), ((start capacity readChunk t).run events).accepted <+:
      ((start capacity readChunk t).run events).whole := by
  intro h
  have htorn := h Answers 10 1 ⟨[.ok 5, .error (.kind .brokenPipe)]⟩
    [.push ⟨1, [7].toByteArray, 0, 0⟩ ⟨rfl, rfl⟩, .push ⟨1, [8].toByteArray, 0, 0⟩ ⟨rfl, rfl⟩,
      .call, .write, .write, .call, .write, .write, .call, .write, .write]
  exact absurd htorn (by decide)

end Outbox

end FileShare
