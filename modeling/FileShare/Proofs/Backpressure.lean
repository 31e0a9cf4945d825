import FileShare.Proofs.Backlog
import FileShare.Transport.Scripted

/-!
# How many responses wait to go out

A worker looks for room before it queues a packet, but not in the same step. In between, the writer
may take a response out of the queue, and after that it may put it back. So the queue alone says
little about what is to come. What decides is the number of responses that are outstanding, in the
queue or held by the writer, and whether the worker has found room (`Backlog.Within`):

* when the worker finds room, the queue is not full, so that at most a full queue is outstanding,
  and less than that if the writer holds nothing;
* until the worker has queued its packet, that number can only decrease;
* a packet makes it one more, and the next one has to wait until there is room again.

Thus **one response more than the capacity** is the most that can wait, and not more than the
capacity if the worker and the writer keep out of each other's way (`Backlog.outstanding_bounded`).

That no packet is queued twice has two sides. For a message at most one packet is queued
(`Sending.Honest`, `Sent.Honest`), and the responses that are outstanding are the last ones of those
that were queued, in order, so that none is there twice (`Backlog.Accounted`).
-/

namespace FileShare

/-! ### What was queued for a message -/

/-- Whether nothing can have been queued for the message so far. -/
def Phase.isEarly : Phase → Bool
  | .asking | .looking | .posting | .waiting => true
  | .calling | .writing | .leaving _ => false

/-- A message is queued once at most, and not before room was found. -/
structure Sending.Honest (call : Sending) : Prop where
  once : call.queued.length ≤ 1
  own : ∀ packet ∈ call.queued, Packet.ofMessage call.message = .ok packet
  early : call.phase.isEarly = true → call.queued = []

/-- The worker goes on with what it has queued. -/
theorem Sending.Honest.at {call : Sending} (h : call.Honest) {phase : Phase}
    (hearly : phase.isEarly = true → call.queued = []) : Sending.Honest { call with phase } :=
  ⟨h.once, h.own, hearly⟩

/-- What is past the queueing is so whatever was queued. -/
theorem Sending.Honest.past {call : Sending} (h : call.Honest) {phase : Phase}
    (hearly : phase.isEarly = false) : Sending.Honest { call with phase } :=
  h.at fun htrue ↦ absurd (hearly.symm.trans htrue) Bool.false_ne_true

/-- **A message is queued once at most**, not at all if it is said not to have been sent, and once
if it is said to have been. -/
structure Sent.Honest (sent : Sent) : Prop where
  once : sent.queued.length ≤ 1
  own : ∀ packet ∈ sent.queued, Packet.ofMessage sent.message = .ok packet
  refused : sent.answer = .ok false → sent.queued = []
  queued : sent.answer = .ok true → sent.queued ≠ []

namespace Backlog

variable {τ : Type}

/-- The worker is honest about all messages. -/
structure Honest (m : Backlog τ) : Prop where
  sending : ∀ call, m.sending = some call → call.Honest
  sent : ∀ sent ∈ m.sent, sent.Honest

/-- **At most so many responses are outstanding**, and if room has been found there is one less. -/
structure Within (bound : Nat) (m : Backlog τ) : Prop where
  bounded : m.session.outstanding.length ≤ bound
  posting : m.IsPosting → m.session.outstanding.length < bound

/-- The responses that are outstanding are the last ones of those that there were at the beginning
and those that were queued. -/
def Accounted (first : Session τ) (m : Backlog τ) : Prop :=
  m.session.owed <:+ first.owed ++ m.queued.map Packet.rewound

section Honest

variable {m : Backlog τ} {call : Sending}

theorem Honest.finish (h : m.Honest) (hcall : call.Honest) {answer : Except SessionError Bool}
    (hrefused : answer = .ok false → call.queued = [])
    (hqueued : answer = .ok true → call.queued ≠ []) : (m.finish call answer).Honest where
  sending _ hsending := (Option.some_ne_none _ hsending.symm).elim
  sent sent hmem := by
    rcases List.mem_append.1 hmem with hmem | hmem
    · exact h.sent sent hmem
    · cases List.mem_singleton.1 hmem
      exact ⟨hcall.once, hcall.own, hrefused, hqueued⟩

/-- A message that could not be sent may have been queued. -/
theorem Honest.fail (h : m.Honest) (hcall : call.Honest) (error : SessionError) :
    (m.finish call (.error error)).Honest :=
  h.finish hcall (fun hanswer ↦ by cases hanswer) fun hanswer ↦ by cases hanswer

theorem Honest.goOn (h : m.Honest) {phase : Phase} (hcall : Sending.Honest { call with phase }) :
    (m.goOn call phase).Honest where
  sending _ hsending := Option.some.inj hsending ▸ hcall
  sent := h.sent

theorem Honest.comeBack (h : m.Honest) (hcall : call.Honest) (result : Except SessionError Unit) :
    (m.comeBack call result).Honest := by
  rcases result with error | -
  · exact h.fail hcall error
  · rw [Backlog.comeBack]
    split
    · rename_i hqueued
      exact h.goOn (hcall.at fun _ ↦ hqueued)
    · rename_i hqueued
      exact h.finish hcall (fun hanswer ↦ by cases hanswer) fun _ ↦ hqueued

/-- The session and the lock have no part in it. -/
theorem Honest.of_eq {m' : Backlog τ} (h : m.Honest) (hsending : m'.sending = m.sending)
    (hsent : m'.sent = m.sent) : m'.Honest where
  sending := hsending ▸ h.sending
  sent := hsent ▸ h.sent

variable [Transport τ]

theorem Honest.advance (h : m.Honest) (hsending : m.sending = some call) :
    (m.advance call).Honest := by
  have hcall : call.Honest := h.sending call hsending
  rw [Backlog.advance]
  split
  · rename_i hphase
    have hnone : call.queued = [] := hcall.early (hphase ▸ rfl)
    split
    · exact h.finish hcall (fun _ ↦ hnone) fun hanswer ↦ by cases hanswer
    · exact h.goOn (hcall.at fun _ ↦ hnone)
  · rename_i hphase
    exact h.goOn (hcall.at fun _ ↦ hcall.early (hphase ▸ rfl))
  · rename_i hphase
    have hnone : call.queued = [] := hcall.early (hphase ▸ rfl)
    split
    · exact h.fail hcall _
    · rename_i packet hpacket
      have hmid : Honest { m with session := m.session.pushResponse packet } := h.of_eq rfl rfl
      refine hmid.goOn ⟨?_, fun other hmem ↦ ?_, fun hearly ↦ absurd hearly Bool.false_ne_true⟩
      · rw [hnone]
        exact Nat.le_refl 1
      · rw [hnone] at hmem
        cases List.mem_singleton.1 hmem
        exact hpacket
  · split
    · exact h.comeBack hcall _
    · exact (h.of_eq rfl rfl : Honest { m with lock := some .worker }).goOn (hcall.past rfl)
    · exact h.comeBack hcall _
  · split
    · exact h.of_eq rfl rfl
    · rename_i session _
      exact (h.of_eq rfl rfl : Honest { m with session }).goOn (hcall.past rfl)
  · exact (h.of_eq rfl rfl : Honest { m with lock := none }).comeBack hcall _
  · rename_i hphase
    exact h.goOn (hcall.at fun _ ↦ hcall.early (hphase ▸ rfl))

theorem Honest.step (h : m.Honest) (move : Move τ) : (m.step move).Honest := by
  cases move with
  | give message =>
    rw [Backlog.step]
    split
    · refine ⟨fun call hcall ↦ ?_, h.sent⟩
      cases hcall
      exact ⟨Nat.zero_le 1, fun _ hmem ↦ (List.not_mem_nil hmem).elim, fun _ ↦ rfl⟩
    · exact h
  | work =>
    rw [Backlog.step]
    split
    · exact h
    · exact h.advance ‹_›
  | call =>
    rw [Backlog.step]
    split
    · exact h.of_eq rfl rfl
    · exact h
  | write =>
    rw [Backlog.step, writeOn]
    split
    · split <;> exact h.of_eq rfl rfl
    · exact h.of_eq rfl rfl
    · exact h
  | tell | cancel | transport t => exact h.of_eq rfl rfl

theorem Honest.run (h : m.Honest) (moves : List (Move τ)) : (m.run moves).Honest := by
  induction moves generalizing m with
  | nil => exact h
  | cons move moves ih => exact ih (h.step move)

end Honest

variable [Transport τ] {m : Backlog τ}

/-! ### How many responses are outstanding -/

theorem capacity_step (m : Backlog τ) (move : Move τ) :
    (m.step move).session.capacity = m.session.capacity := by
  cases changes_step m move with
  | emptied capacity => exact capacity
  | found session => rw [session]
  | posted _ session => rw [session]; rfl

/-- **A bound lasts** if the room that the worker finds is within it. -/
theorem Within.step {bound : Nat} (h : m.Within bound) (move : Move τ)
    (hfound : (m.step move).IsPosting → (m.step move).session.hasResponseSpace = true →
      (m.step move).session.outstanding.length < bound) : (m.step move).Within bound := by
  cases changes_step m move with
  | emptied capacity owed queued posting =>
    have hle : (m.step move).session.outstanding.length ≤ m.session.outstanding.length := by
      rw [← Session.length_owed, ← Session.length_owed]
      exact owed.length_le
    exact ⟨Nat.le_trans hle h.bounded,
      fun hposting ↦ Nat.lt_of_le_of_lt hle (h.posting (posting hposting))⟩
  | found session space queued =>
    exact ⟨session ▸ h.bounded, fun hposting ↦ hfound hposting (session ▸ space)⟩
  | posted posting session queued ended =>
    refine ⟨?_, fun hposting ↦ absurd hposting ended⟩
    rw [session, Session.outstanding_pushResponse, List.length_append]
    exact h.posting posting

/-- **At most one response more than the capacity** is outstanding. -/
theorem within_succ_run (h : m.Within (m.session.capacity + 1)) (moves : List (Move τ)) :
    (m.run moves).Within (m.session.capacity + 1) := by
  induction moves generalizing m with
  | nil => exact h
  | cons move moves ih =>
    have hcapacity := capacity_step m move
    have hnext : (m.step move).Within (m.session.capacity + 1) :=
      h.step move fun _ hspace ↦
        Nat.lt_succ_of_le (hcapacity ▸ (Session.length_outstanding_of_space hspace).1)
    rw [← hcapacity] at hnext ⊢
    exact ih hnext

/-- **No more than the capacity** is outstanding if the writer holds nothing while the worker
queues a packet. -/
theorem within_run (h : m.Within m.session.capacity) (moves : List (Move τ))
    (hapart : ∀ count, ¬ (m.run (moves.take count)).Overlaps) :
    (m.run moves).Within m.session.capacity := by
  induction moves generalizing m with
  | nil => exact h
  | cons move moves ih =>
    have hcapacity := capacity_step m move
    have hnext : (m.step move).Within m.session.capacity := by
      refine h.step move fun hposting hspace ↦ ?_
      have hheld : (m.step move).session.held = none :=
        Decidable.not_not.1 fun hheld ↦ hapart 1 ⟨hposting, hheld⟩
      exact hcapacity ▸ (Session.length_outstanding_of_space hspace).2 hheld
    rw [← hcapacity] at hnext ⊢
    exact ih hnext fun count ↦ hapart (count + 1)

/-! ### Which responses are outstanding -/

theorem Accounted.step {first : Session τ} (h : m.Accounted first) (move : Move τ) :
    (m.step move).Accounted first := by
  rw [Accounted] at h ⊢
  cases changes_step m move with
  | emptied capacity owed queued posting =>
    rw [queued]
    exact owed.trans h
  | found session space queued =>
    rw [session, queued]
    exact h
  | @posted packet posting session queued ended =>
    have howed : (m.session.pushResponse packet).owed = m.session.owed ++ [packet.rewound] := by
      rw [Session.owed, Session.outstanding_pushResponse, List.map_append]
      rfl
    rw [session, queued, howed, List.map_append, ← List.append_assoc]
    obtain ⟨gone, hgone⟩ := h
    exact ⟨gone, by rw [← hgone, List.append_assoc]; rfl⟩

theorem Accounted.run {first : Session τ} (h : m.Accounted first) (moves : List (Move τ)) :
    (m.run moves).Accounted first := by
  induction moves generalizing m with
  | nil => exact h
  | cons move moves ih => exact ih (h.step move)

/-! ### The bound -/

/-- **A worker that looks for room keeps the queue of responses bounded.** Whatever there was in the
queue at first, if it was not more than the capacity; whatever the worker is given to send, whenever
it and the one who is writing take their steps, and whatever the transport does:

* at most one response more than the capacity is outstanding, in the queue or held by the writer;
* not more than the capacity, if the writer never holds a response while the worker, having found
  room, has not queued its packet yet;
* what is outstanding are the last ones of the packets that were there and those that were queued,
  in order;
* for each message at most one packet was queued; it was queued if the worker says so, and if the
  worker says that the message was not sent, it was not;
* a worker that nobody disturbs does what the job does that offers its message. -/
theorem outstanding_bounded {first : Session τ} (hheld : first.held = none)
    (hfirst : first.responses.length ≤ first.capacity) (moves : List (Move τ)) :
    let m := (start first).run moves
    m.session.outstanding.length ≤ first.capacity + 1 ∧
    ((∀ count, ¬ ((start first).run (moves.take count)).Overlaps) →
      m.session.outstanding.length ≤ first.capacity) ∧
    m.session.owed <:+ (first.responses ++ m.queued).map Packet.rewound ∧
    m.Honest ∧
    m.FollowsJob := by
  have houtstanding : first.outstanding = first.responses := by
    rw [Session.outstanding, hheld]
    rfl
  have hwithin : (start first).Within first.capacity :=
    ⟨houtstanding ▸ hfirst, fun hposting ↦ absurd hposting Bool.false_ne_true⟩
  have hhonest : (start first).Honest :=
    ⟨fun _ hsending ↦ (Option.some_ne_none _ hsending.symm).elim,
      fun _ hmem ↦ (List.not_mem_nil hmem).elim⟩
  have haccounted : (start first).Accounted first := by
    show first.owed <:+ first.owed ++ []
    exact (List.append_nil first.owed).symm ▸ List.suffix_rfl
  intro m
  refine ⟨?_, fun hapart ↦ (within_run hwithin moves hapart).bounded, ?_,
    hhonest.run moves, m.followsJob⟩
  · have hsucc : (start first).Within (first.capacity + 1) :=
      ⟨Nat.le_succ_of_le hwithin.bounded, fun hposting ↦ absurd hposting Bool.false_ne_true⟩
    exact (within_succ_run hsucc moves).bounded
  · rw [List.map_append, ← houtstanding]
    exact haccounted.run moves

/-- A session of capacity one with a response in its queue, whose transport does not take anything
at first. -/
def crowded : Session Scripted :=
  ((Session.ofSettings 1 1).bind { Scripted.quiet with blockSends := 1 }).pushResponse
    ⟨1, [7].toByteArray, 0, 0⟩

/-- The worker finds room while the writer holds the response, and queues its packet after the
writer has put it back. -/
def overlapping : List (Move Scripted) :=
  [.give (.bare "1234" .listingEndResp), .work, .call, .write, .work, .write, .work]

/-- The writer sends the response, and then the worker finds room and queues its packet. -/
def alternating : List (Move Scripted) :=
  [.transport .quiet, .call, .write, .write, .write, .write, .write,
    .give (.bare "1234" .listingEndResp), .work, .work, .work]

theorem outstanding_bounded_crowded :
    ((start crowded).run overlapping).session.outstanding.length = crowded.capacity + 1 ∧
      ((start crowded).run overlapping).session.outstanding.length ≤ crowded.capacity + 1 ∧
      ((start crowded).run alternating).session.outstanding.length = crowded.capacity ∧
      ((start crowded).run alternating).session.outstanding.length ≤ crowded.capacity := by
  have hapart : ∀ count < 12, ((start crowded).run (alternating.take count)).IsPosting →
      ((start crowded).run (alternating.take count)).session.held.isNone = true := by
    decide +kernel
  refine ⟨by decide +kernel, (outstanding_bounded rfl (by decide) overlapping).1, by decide +kernel,
    (outstanding_bounded rfl (by decide) alternating).2.1 fun count hoverlaps ↦ ?_⟩
  rw [List.take_eq_take_min] at hoverlaps
  have hheld := hapart _ (Nat.lt_succ_of_le (Nat.min_le_right ..)) hoverlaps.1
  exact hoverlaps.2 (Option.isNone_iff_eq_none.1 hheld)

end Backlog

end FileShare
