import FileShare.Proofs.Reassembly

/-!
# How many requests wait in the queue

A session can tell whether there is room for another request (`Session.hasRequestSpace`), but the
reader does not ask. It puts a request into the queue whenever it comes upon a header, so that the
capacity makes no difference to what is queued (`Intake.run_withCapacity`).

What keeps the queue short is the worker. As long as it does not take anything, all frames that have
arrived are in the queue after a read event, and a frame can be as short as its header. So the bytes
of the peer are the only bound: sixteen for each request (`Intake.requests_unbounded`).
-/

namespace FileShare

namespace Session

variable {τ : Type}

/-- The session with another capacity. -/
def withCapacity (s : Session τ) (capacity : Nat) : Session τ :=
  { s with capacity }

theorem popRequest_withCapacity (s : Session τ) (capacity : Nat) :
    (s.withCapacity capacity).popRequest =
      (s.popRequest.1, s.popRequest.2.withCapacity capacity) := by
  simp only [popRequest, withCapacity]
  repeat' split
  all_goals rfl

variable [Transport τ]

theorem readHeader_withCapacity (s : Session τ) (capacity : Nat) (t : τ) :
    (s.withCapacity capacity).readHeader t =
      ((s.readHeader t).1, (s.readHeader t).2.withCapacity capacity) := by
  simp only [readHeader]
  repeat' split
  all_goals rfl

theorem readPayload_withCapacity (s : Session τ) (capacity : Nat) (t : τ) (older : List Packet)
    (newest : Packet) :
    (s.withCapacity capacity).readPayload t older newest =
      ((s.readPayload t older newest).1,
        (s.readPayload t older newest).2.withCapacity capacity) := by
  simp only [readPayload, withCapacity]
  repeat' split
  all_goals rfl

/-- **A step of the reader does not depend on the capacity.** -/
theorem readStep_withCapacity (s : Session τ) (capacity : Nat) :
    (s.withCapacity capacity).readStep =
      (s.readStep.1, s.readStep.2.withCapacity capacity) := by
  rcases htransport : s.transport with - | t
  · simp only [readStep, withCapacity, htransport]
  by_cases hcancelled : s.cancelled = true
  · simp only [readStep, withCapacity, htransport, hcancelled, if_true]
  have hheader := s.readHeader_withCapacity capacity t
  rcases hnewest : s.requests.getLast? with - | newest
  · simpa [readStep, withCapacity, htransport, hcancelled, hnewest] using hheader
  by_cases hcomplete : newest.isComplete = true
  · simpa [readStep, withCapacity, htransport, hcancelled, hnewest, hcomplete] using hheader
  · have hpayload := s.readPayload_withCapacity capacity t s.requests.dropLast newest
    simpa [readStep, withCapacity, htransport, hcancelled, hnewest, hcomplete] using hpayload

end Session

namespace Intake

variable {m : Intake}

/-- The intake with another capacity. -/
def withCapacity (m : Intake) (capacity : Nat) : Intake :=
  { m with session := m.session.withCapacity capacity }

theorem step_withCapacity (m : Intake) (capacity : Nat) (event : Event) :
    (m.withCapacity capacity).step event = (m.step event).withCapacity capacity := by
  cases event with
  | arrive data =>
    show (if m.transport.finished then _ else _) = withCapacity (if _ then _ else _) capacity
    split <;> rfl
  | finish => rfl
  | read =>
    rw [step, step, withCapacity, Session.readStep_withCapacity]
    rcases m.session.readStep with ⟨_ | _, session⟩ <;> rfl
  | pop =>
    rw [step, step, withCapacity, Session.popRequest_withCapacity]
    rcases m.session.popRequest with ⟨_ | _, session⟩ <;> rfl

/-- **The capacity plays no part in what happens to the queue.** -/
theorem run_withCapacity (m : Intake) (capacity : Nat) (events : List Event) :
    (m.withCapacity capacity).run events = (m.run events).withCapacity capacity := by
  induction events generalizing m with
  | nil => rfl
  | cons event events ih =>
    show ((m.withCapacity capacity).step event).run events = _
    rw [step_withCapacity]
    exact ih _

/-- **A header that can be trusted is taken**, however many requests are queued. -/
theorem Sound.requests_of_header (h : m.Sound) (hlast : LastComplete m.session.requests)
    (hlong : Header.size ≤ m.session.unread.length) {header : Header}
    (hheader : Header.ofBytes (m.session.unread.take Header.size).toByteArray = .ok header) :
    (m.step .read).session.requests =
      m.session.requests ++ [⟨header.length.toNat, ByteArray.empty, 0, 0⟩] := by
  have hreads := h.reads
  rw [h.unread] at hlong hheader
  rw [Intake.step]
  generalize m.session.readStep = step at hreads
  cases hreads with
  | header _ _ valid _ _ _ _ requests =>
    cases hheader.symm.trans valid
    exact requests
  | @payload _ _ older newest _ before room _ hsome _ _ _ _ =>
    -- a request that lacks something is not complete
    have hcomplete : newest.isComplete = true := hlast newest (by rw [before]; simp)
    have hremaining : newest.remaining = 0 := by
      rw [Packet.remaining, eq_of_beq hcomplete, Nat.sub_self]
    rw [hremaining, Nat.le_zero, List.length_eq_zero_iff] at room
    exact absurd room hsome
  | stop _ _ _ _ _ why =>
    rcases why with ⟨⟨-, hshort⟩ | hempty, -⟩ | ⟨-, -, fault, hfault, -⟩
    · exact absurd hlong (Nat.not_le.2 hshort)
    · rw [hempty] at hlong
      exact absurd hlong (by decide)
    · cases hheader.symm.trans hfault

/-- What is in the queue has arrived, at sixteen bytes for each request at least. -/
theorem Sound.size_mul_requests_le (h : m.Sound) :
    Header.size * (m.popped ++ m.session.requests).length ≤ m.arrived.length := by
  obtain ⟨taken, harrived, hused⟩ := h.taken
  have hcut := size_mul_length_packets_le taken
  rw [hused] at hcut
  rw [harrived]
  exact Nat.le_trans hcut (List.prefix_append taken _).length_le

/-! ### Requests without a payload -/

/-- The header of a request without a payload, as it arrives. -/
def emptyHeader : List UInt8 :=
  (Header.bytes ⟨Header.currentVersion, 0⟩).data.toList

/-- So many requests without a payload, as they arrive. -/
def emptyRequests (count : Nat) : List UInt8 :=
  (List.replicate count emptyHeader).flatten

theorem emptyRequests_succ (count : Nat) :
    emptyRequests (count + 1) = emptyRequests count ++ emptyHeader := by
  rw [emptyRequests, List.replicate_succ', List.flatten_append, List.flatten_singleton]
  rfl

theorem length_emptyRequests (count : Nat) :
    (emptyRequests count).length = Header.size * count := by
  induction count with
  | zero => rfl
  | succ count ih =>
    rw [emptyRequests_succ, List.length_append, ih]
    rfl

/-- **Each of them is a frame.** -/
theorem usedUp_emptyRequests (count : Nat) :
    UsedUp (emptyRequests count) (List.replicate count ⟨0, ByteArray.empty, 0, 0⟩) := by
  induction count with
  | zero => exact UsedUp.nil
  | succ count ih =>
    have hlast : LastComplete (List.replicate count ⟨0, ByteArray.empty, 0, 0⟩) := by
      intro packet hpacket
      rw [List.eq_of_mem_replicate (List.mem_of_getLast? hpacket)]
      rfl
    have hheader : Header.ofBytes emptyHeader.toByteArray = .ok ⟨Header.currentVersion, 0⟩ := by
      decide
    rw [emptyRequests_succ, List.replicate_succ']
    exact ih.header hlast rfl hheader

/-- **The queue of requests is bounded by nothing but the bytes of the peer**, whatever the capacity
is:

* with another capacity the same requests are handed out and the same ones are queued;
* when the newest request is complete and a header that can be trusted has arrived, the next step of
  the reader queues one more, however many there are;
* a request costs the peer the sixteen bytes of a header;
* and no more than that, since a read event queues all requests without a payload that have arrived,
  be they ever so many. -/
theorem requests_unbounded (capacity readChunk : Nat) (takes : Nat → Nat) :
    (∀ (other : Nat) (events : List Event),
      (start other readChunk takes).run events =
        ((start capacity readChunk takes).run events).withCapacity other) ∧
    (∀ events : List Event, let m := (start capacity readChunk takes).run events
      (∀ header : Header, LastComplete m.session.requests →
        Header.size ≤ m.session.unread.length →
        Header.ofBytes (m.session.unread.take Header.size).toByteArray = .ok header →
        (m.step .read).session.requests =
          m.session.requests ++ [⟨header.length.toNat, ByteArray.empty, 0, 0⟩]) ∧
      Header.size * (m.popped ++ m.session.requests).length ≤ m.arrived.length) ∧
    ∀ count : Nat, (emptyRequests count).length = Header.size * count ∧
      let m := (start capacity readChunk takes).run [.arrive (emptyRequests count)]
      m.session.readEvent.1 = .ok () ∧
        m.session.readEvent.2.requests = List.replicate count ⟨0, ByteArray.empty, 0, 0⟩ := by
  have hstart : (start capacity readChunk takes).Sound := sound_start capacity readChunk takes
  refine ⟨fun other events ↦ ?_, fun events ↦ ⟨fun header ↦ ?_, ?_⟩, fun count ↦ ⟨?_, ?_⟩⟩
  · exact run_withCapacity (start capacity readChunk takes) other events
  · exact fun hlast hlong ↦ (hstart.run events).requests_of_header hlast hlong
  · exact (hstart.run events).size_mul_requests_le
  · exact length_emptyRequests count
  · intro m
    have hends := (hstart.run [.arrive (emptyRequests count)]).ends_readEvent
    have hcut : cut m.arrived = ⟨List.replicate count ⟨0, ByteArray.empty, 0, 0⟩, [], none⟩ :=
      usedUp_emptyRequests count
    have hresult : m.verdict = .ok () := by
      rw [verdict, hcut]
      rfl
    have hpackets : m.session.readEvent.2.requests = (cut m.arrived).packets := hends.packets
    rw [hcut] at hpackets
    exact ⟨hends.result.trans hresult, hpackets⟩

end Intake

end FileShare
