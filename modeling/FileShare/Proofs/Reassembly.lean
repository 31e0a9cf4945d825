import FileShare.Proofs.Cut
import FileShare.Session.Session

/-!
# Requests are cut out of the stream exactly

A reader takes bytes as they arrive, in whatever pieces, and the worker takes complete requests out
of its queue at any time. Whatever the order, what has been handed out and what is still queued is
together the cut (`cut`) of the bytes that have been received, and a read event leaves nothing
behind but what no cut can use.

## The surroundings

`Arrivals` is a transport on which bytes arrive in pieces and are received in pieces: a receive may
be as short as a given pattern says, but takes at least what the peek just before it has shown.
`Intake` is a session on it beside the worker, and its events are single steps of the reader, so
that arrivals and the worker come in between the steps of one read event.

## What the statements rest on

* `Reads` lists everything that one step of a reader can do (`reads_readStep`). No other statement
  opens `Session.readStep`.
* `Intake.Sound` ties the queue to the stream: the received bytes are used up by what was handed out
  and what is queued. Each event keeps it (`Intake.Sound.step`), and so does a run
  (`Intake.Sound.run`).
* The reader stops only where the cut of everything that has arrived stops
  (`Intake.Sound.ends_readStep`), and so does a whole read event (`Intake.Sound.ends_readEvent`).
-/

namespace FileShare

/-! ### Bytes that arrive in pieces -/

/-- A transport on which bytes arrive in pieces and are received in pieces. -/
structure Arrivals where
  /-- What has arrived and has not been received. -/
  inbound : List UInt8
  /-- No more bytes will arrive. -/
  finished : Bool
  /-- What the last peek has shown, if nothing was received since: a receive takes all of it. -/
  shown : Nat
  /-- How many bytes beyond the first the receives take at most, each in its turn. -/
  takes : Nat → Nat
  /-- How many bytes receives have been called for. -/
  calls : Nat

namespace Arrivals

/-- Nothing has arrived. -/
def empty (takes : Nat → Nat) : Arrivals := ⟨[], false, 0, takes, 0⟩

/-- What a call finds when nothing has arrived. -/
def whenEmpty (t : Arrivals) : Except IoError ByteArray :=
  if t.finished then .ok ByteArray.empty else .error (.kind .wouldBlock)

/-- How many bytes a receive takes. -/
def count (t : Arrivals) (n : Nat) : Nat := min n (max t.shown (t.takes t.calls + 1))

/-- Show bytes without taking them. -/
def peek (t : Arrivals) (n : Nat) : Except IoError ByteArray × Arrivals :=
  if t.inbound = [] then (t.whenEmpty, t)
  else (.ok (t.inbound.take n).toByteArray, { t with shown := n })

/-- Take bytes. -/
def recv (t : Arrivals) (n : Nat) : Except IoError ByteArray × Arrivals :=
  if t.inbound = [] then (t.whenEmpty, t)
  else (.ok (t.inbound.take (t.count n)).toByteArray,
    { t with inbound := t.inbound.drop (t.count n), shown := 0, calls := t.calls + 1 })

instance : Transport Arrivals where
  peek := peek
  recv := recv
  send t data := (.ok data.size, t)
  shutdown t := t
  isReadClosed := finished
  unread := inbound
  unread_peek t n := by
    unfold peek
    split <;> rfl
  peek_eq_ok {t t' n data} h := by
    unfold peek whenEmpty at h
    split at h
    · split at h
      · obtain ⟨hdata, -⟩ := Prod.mk.inj h
        obtain rfl := Except.ok.inj hdata
        exact ⟨Nat.zero_le n, List.nil_prefix⟩
      · simp at h
    · obtain ⟨hdata, -⟩ := Prod.mk.inj h
      obtain rfl := Except.ok.inj hdata
      refine ⟨?_, by simpa using List.take_prefix n t.inbound⟩
      rw [List.size_toByteArray]
      exact List.length_take_le n t.inbound
  unread_recv_ok {t t' n data} h := by
    unfold recv whenEmpty at h
    split at h
    · split at h
      · obtain ⟨hdata, rfl⟩ := Prod.mk.inj h
        obtain rfl := Except.ok.inj hdata
        exact ⟨Nat.zero_le n, rfl⟩
      · simp at h
    · obtain ⟨hdata, rfl⟩ := Prod.mk.inj h
      obtain rfl := Except.ok.inj hdata
      refine ⟨?_, by simp⟩
      rw [List.size_toByteArray, List.length_take, count]
      omega
  unread_recv_error {t t' n error} h := by
    unfold recv at h
    split at h
    · exact congrArg inbound (Prod.mk.inj h).2.symm
    · simp at h

end Arrivals

/-! ### What one step of the reader can do -/

namespace Session

/-- Everything that a read step can do to a session on bytes that arrive, if it is not cancelled. -/
inductive Reads (s : Session Arrivals) (t : Arrivals) : Turn × Session Arrivals → Prop where
  /-- A header is taken, and opens a packet. -/
  | header {s' : Session Arrivals} {t' : Arrivals} {header : Header}
    (last : LastComplete s.requests) (long : Header.size ≤ t.inbound.length)
    (valid : Header.ofBytes (t.inbound.take Header.size).toByteArray = .ok header)
    (transport : s'.transport = some t') (cancelled : s'.cancelled = false)
    (inbound : t'.inbound = t.inbound.drop Header.size) (finished : t'.finished = t.finished)
    (requests : s'.requests = s.requests ++ [⟨header.length.toNat, ByteArray.empty, 0, 0⟩]) :
    Reads s t (.again, s')
  /-- A piece of a payload is taken, and lengthens the newest packet. -/
  | payload {s' : Session Arrivals} {t' : Arrivals} {older : List Packet} {newest : Packet}
    {data : List UInt8} (before : s.requests = older ++ [newest])
    (room : data.length ≤ newest.remaining) (taken : t.inbound = data ++ t'.inbound)
    (some_ : data ≠ []) (transport : s'.transport = some t') (cancelled : s'.cancelled = false)
    (finished : t'.finished = t.finished)
    (requests : s'.requests = older ++ [newest.append data.toByteArray]) :
    Reads s t (.again, s')
  /-- Nothing is taken, because a header cannot be had or nothing has arrived of a payload. -/
  | stop {s' : Session Arrivals} {t' : Arrivals} {result : Except SessionError Unit}
    (transport : s'.transport = some t') (cancelled : s'.cancelled = false)
    (inbound : t'.inbound = t.inbound) (finished : t'.finished = t.finished)
    (requests : s'.requests = s.requests)
    (why : (LastComplete s.requests ∧ t.inbound.length < Header.size ∨ t.inbound = []) ∧
        result = (if t.finished then .error .closed else .ok ()) ∨
      LastComplete s.requests ∧ Header.size ≤ t.inbound.length ∧
        ∃ fault, Header.ofBytes (t.inbound.take Header.size).toByteArray = .error fault ∧
          result = .error (.frame fault)) :
    Reads s t (.done result, s')

variable {s : Session Arrivals} {t : Arrivals}

/-! What a step signals to the worker touches neither the stream nor the queue. -/

theorem transport_signalled (complete : Bool) (s : Session Arrivals) :
    (if complete then s.signal else s).transport = s.transport := by
  split <;> rfl

theorem cancelled_signalled (complete : Bool) (s : Session Arrivals) :
    (if complete then s.signal else s).cancelled = s.cancelled := by
  split <;> rfl

theorem requests_signalled (complete : Bool) (s : Session Arrivals) :
    (if complete then s.signal else s).requests = s.requests := by
  split <;> rfl

theorem reads_readHeader (hc : s.cancelled = false)
    (hlast : LastComplete s.requests) : Reads s t (s.readHeader t) := by
  by_cases hempty : t.inbound = []
  · -- nothing to see: the end, or a reason to wait
    have hpeek : Transport.peek t Header.size = (t.whenEmpty, t) := if_pos hempty
    have hstop : ∀ result, result = (if t.finished then .error .closed else .ok ()) →
        Reads s t (.done result, s.bind t) := fun result hresult ↦
      .stop rfl hc rfl rfl rfl (.inl ⟨.inr hempty, hresult⟩)
    unfold readHeader
    rw [hpeek, Arrivals.whenEmpty]
    rcases hfin : t.finished with - | -
    · exact hstop _ (by rw [hfin]; rfl)
    · exact hstop _ (by rw [hfin]; rfl)
  · have hpeek : Transport.peek t Header.size =
        (.ok (t.inbound.take Header.size).toByteArray, { t with shown := Header.size }) :=
      if_neg hempty
    have hpos : 0 < t.inbound.length := List.length_pos_iff.2 hempty
    have hsize : (t.inbound.take Header.size).toByteArray.size =
        min Header.size t.inbound.length := by simp
    unfold readHeader
    rw [hpeek]
    simp only [hsize]
    rw [if_neg (by rw [Header.size]; omega)]
    by_cases hlen : t.inbound.length < Header.size
    · rw [if_pos (by omega)]
      exact .stop rfl hc rfl rfl rfl (.inl ⟨.inl ⟨hlast, hlen⟩, rfl⟩)
    · rw [if_neg (by omega), Packet.ofHeader]
      rcases hheader : Header.ofBytes (t.inbound.take Header.size).toByteArray with fault | header
      · exact .stop rfl hc rfl rfl rfl (.inr ⟨hlast, Nat.not_lt.1 hlen, fault, hheader, rfl⟩)
      · -- what was shown can be taken, and no more than a header is asked for
        have hcount : Arrivals.count { t with shown := Header.size } Header.size = Header.size :=
          Nat.min_eq_left (Nat.le_max_left _ _)
        have hrecv : Transport.recv { t with shown := Header.size } Header.size =
            (.ok (t.inbound.take Header.size).toByteArray,
              { t with inbound := t.inbound.drop Header.size, shown := 0, calls := t.calls + 1 }) :=
            by
          show Arrivals.recv _ _ = _
          rw [Arrivals.recv, if_neg hempty, hcount]
        rw [hrecv]
        simp only [Except.map, hsize]
        rw [if_neg (by rw [Header.size]; omega), if_neg (by omega)]
        exact .header hlast (Nat.not_lt.1 hlen) hheader
          (transport_signalled ..) ((cancelled_signalled ..).trans hc) rfl rfl
          (requests_signalled ..)

theorem reads_readPayload {older : List Packet} {newest : Packet}
    (hc : s.cancelled = false) (hs : s.requests = older ++ [newest])
    (hnewest : newest.isComplete = false) (hfits : newest.received ≤ newest.length) :
    Reads s t (s.readPayload t older newest) := by
  have hmissing : 0 < newest.remaining := by
    have hne : newest.received ≠ newest.length := by simpa [Packet.isComplete] using hnewest
    rw [Packet.remaining]
    omega
  -- a read asks for at least one byte and no more than is missing: it cannot overrun the frame
  set n := min newest.remaining (max s.readChunk 1) with hn
  by_cases hempty : t.inbound = []
  · have hrecv : Transport.recv t n = (t.whenEmpty, t) := if_pos hempty
    have hstop : ∀ result, result = (if t.finished then .error .closed else .ok ()) →
        Reads s t (.done result, s.bind t) := fun result hresult ↦
      .stop rfl hc rfl rfl rfl (.inl ⟨.inr hempty, hresult⟩)
    unfold readPayload
    rw [hrecv, Arrivals.whenEmpty]
    rcases hfin : t.finished with - | -
    · exact hstop _ (by rw [hfin]; rfl)
    · exact hstop _ (by rw [hfin]; rfl)
  · have hrecv : Transport.recv t n = (.ok (t.inbound.take (t.count n)).toByteArray,
        { t with inbound := t.inbound.drop (t.count n), shown := 0, calls := t.calls + 1 }) :=
      if_neg hempty
    have hpos : 0 < t.inbound.length := List.length_pos_iff.2 hempty
    have hcount : 0 < t.count n ∧ t.count n ≤ newest.remaining := by
      rw [Arrivals.count]
      omega
    have hsize : (t.inbound.take (t.count n)).toByteArray.size =
        min (t.count n) t.inbound.length := by simp
    unfold readPayload
    rw [hrecv]
    simp only [hsize]
    rw [if_neg (by omega)]
    have hlength : (t.inbound.take (t.count n)).length = min (t.count n) t.inbound.length :=
      List.length_take
    have hsome : t.inbound.take (t.count n) ≠ [] :=
      List.length_pos_iff.1 (by omega)
    exact .payload hs (by omega)
      (List.take_append_drop _ _).symm hsome (transport_signalled ..)
      ((cancelled_signalled ..).trans hc) rfl (requests_signalled ..)

/-- The worker takes the oldest request if it is complete, and nothing otherwise. -/
theorem popRequest_cases {τ : Type} (s : Session τ) :
    (∃ first more, s.requests = first :: more ∧ first.isComplete = true ∧
      s.popRequest = (some first, { s with requests := more })) ∨ s.popRequest = (none, s) := by
  rw [popRequest]
  split
  · rename_i first more hrequests
    split
    · rename_i hcomplete
      exact .inl ⟨first, more, hrequests, hcomplete, rfl⟩
    · exact .inr rfl
  · exact .inr rfl

/-- **Everything that a read step can do.** -/
theorem reads_readStep (ht : s.transport = some t) (hc : s.cancelled = false)
    (hfits : ∀ packet ∈ s.requests, packet.received ≤ packet.length) :
    Reads s t s.readStep := by
  unfold readStep
  simp only [ht, hc, Bool.false_eq_true, if_false]
  -- what is read next is decided by the newest request alone
  rcases hnewest : s.requests.getLast? with - | newest
  · exact reads_readHeader hc (by rw [LastComplete, hnewest]; simp)
  · obtain ⟨older, hs⟩ := List.getLast?_eq_some_iff.1 hnewest
    rcases hcomplete : newest.isComplete with - | -
    · simp only [hcomplete, Bool.false_eq_true, if_false]
      rw [hs, List.dropLast_concat]
      exact reads_readPayload hc hs hcomplete (hfits newest (by rw [hs]; simp))
    · simp only [hcomplete, if_true]
      exact reads_readHeader hc fun packet hp ↦ by
        rw [hnewest] at hp
        obtain rfl := Option.some.inj hp
        exact hcomplete

end Session

/-! ### The reader beside the worker -/

/-- A session on bytes that arrive, and what the worker has taken out of it. -/
structure Intake where
  session : Session Arrivals
  /-- What the worker has taken, oldest first. -/
  popped : List Packet
  /-- All bytes that ever arrived. -/
  arrived : List UInt8
  /-- How many steps of the reader were followed by another one. -/
  repeats : Nat

namespace Intake

/-- What can happen. -/
inductive Event where
  /-- Bytes arrive. -/
  | arrive (data : List UInt8)
  /-- The peer sends no more. -/
  | finish
  /-- The reader takes one step. -/
  | read
  /-- The worker takes a request, if the oldest one is complete. -/
  | pop

/-- The transport of an intake. -/
def transport (m : Intake) : Arrivals := m.session.transport.getD (.empty fun _ ↦ 0)

/-- Nothing has happened. -/
def start (capacity readChunk : Nat) (takes : Nat → Nat) : Intake :=
  ⟨(Session.ofSettings capacity readChunk).bind (.empty takes), [], [], 0⟩

/-- What an event does. -/
def step (m : Intake) : Event → Intake
  | .arrive data =>
    if m.transport.finished then m
    else { m with
      session := m.session.bind { m.transport with inbound := m.transport.inbound ++ data }
      arrived := m.arrived ++ data }
  | .finish => { m with session := m.session.bind { m.transport with finished := true } }
  | .read =>
    match m.session.readStep with
    | (.again, session) => { m with session, repeats := m.repeats + 1 }
    | (.done _, session) => { m with session }
  | .pop =>
    match m.session.popRequest with
    | (some packet, session) => { m with session, popped := m.popped ++ [packet] }
    | (none, session) => { m with session }

/-- What a series of events does. -/
def run (m : Intake) (events : List Event) : Intake := events.foldl step m

/-- What a read event comes to once nothing more can be taken: a header that is refused is an error,
and so is the end of the stream, wherever it comes. -/
def verdict (m : Intake) : Except SessionError Unit :=
  match (cut m.arrived).fault with
  | some fault => .error (.frame fault)
  | none => if m.transport.finished then .error .closed else .ok ()

/-- How a read event ends that comes to `result` and leaves `session` behind: with nothing that the
cut of all arrived bytes could still use. -/
structure Ends (m : Intake) (result : Except SessionError Unit) (session : Session Arrivals) :
    Prop where
  /-- All frames are there. -/
  packets : m.popped ++ session.requests = (cut m.arrived).packets
  /-- Nothing else was received. -/
  unread : session.unread = (cut m.arrived).rest
  /-- What was not received is a piece of a header, or begins with one that is refused. -/
  left : session.unread.length < Header.size ∨ ∃ fault, (cut m.arrived).fault = some fault ∧
    Header.ofBytes (session.unread.take Header.size).toByteArray = .error fault
  result : result = m.verdict

/-- What holds of an intake at any moment. -/
structure Sound (m : Intake) : Prop where
  bound : m.session.transport = some m.transport
  going : m.session.cancelled = false
  /-- What was received is used up by what was handed out and what is queued. -/
  taken : ∃ taken, m.arrived = taken ++ m.session.unread ∧
    UsedUp taken (m.popped ++ m.session.requests)
  popped : ∀ packet ∈ m.popped, packet.isComplete = true
  /-- Every step that is followed by another one takes a byte at least. -/
  steps : m.repeats + m.session.unread.length ≤ m.arrived.length

variable {m : Intake}

theorem unread_eq (h : m.session.transport = some m.transport) :
    m.session.unread = m.transport.inbound := by
  rw [Session.unread, h]
  rfl

namespace Sound

theorem unread (h : m.Sound) : m.session.unread = m.transport.inbound := unread_eq h.bound

/-- The newest packet is the last one that the stream was cut into. -/
theorem lastComplete (h : m.Sound) (hlast : LastComplete m.session.requests) :
    LastComplete (m.popped ++ m.session.requests) := by
  intro packet hp
  rcases hrequests : m.session.requests with - | ⟨first, more⟩
  · rw [hrequests, List.append_nil] at hp
    exact h.popped packet (List.mem_of_getLast? hp)
  · rw [hrequests, List.getLast?_append_of_ne_nil _ (List.cons_ne_nil _ _), ← hrequests] at hp
    exact hlast packet hp

/-- **Every queued packet but the last is complete.** -/
theorem queued (h : m.Sound) {packet : Packet} (hp : packet ∈ m.session.requests.dropLast) :
    packet.isComplete = true := by
  obtain ⟨taken, -, hused⟩ := h.taken
  have hne : m.session.requests ≠ [] := by
    rintro hnil
    rw [hnil] at hp
    simp at hp
  have hmem : packet ∈ (cut taken).packets.dropLast := by
    rw [hused, List.dropLast_append_of_ne_nil hne]
    exact List.mem_append_right _ hp
  exact isComplete_of_mem_dropLast_cut hmem

theorem received_le (h : m.Sound) {packet : Packet} (hp : packet ∈ m.session.requests) :
    packet.received ≤ packet.length := by
  obtain ⟨taken, -, hused⟩ := h.taken
  have hmem : packet ∈ (cut taken).packets := by
    rw [hused]
    exact List.mem_append_right _ hp
  exact received_le_of_mem_cut hmem

theorem reads (h : m.Sound) : Session.Reads m.session m.transport m.session.readStep :=
  Session.reads_readStep h.bound h.going fun _ hp ↦ h.received_le hp

end Sound

theorem sound_start (capacity readChunk : Nat) (takes : Nat → Nat) :
    (start capacity readChunk takes).Sound where
  bound := rfl
  going := rfl
  taken := ⟨[], rfl, UsedUp.nil⟩
  popped := by simp [start]
  steps := Nat.le_refl 0

namespace Sound

/-- Bytes arrive. -/
theorem arrive (h : m.Sound) (data : List UInt8) : (m.step (.arrive data)).Sound := by
  rw [step]
  split
  · exact h
  · obtain ⟨taken, harrived, hused⟩ := h.taken
    refine ⟨rfl, h.going, ⟨taken, ?_, hused⟩, h.popped, ?_⟩
    · show m.arrived ++ data = taken ++ (m.transport.inbound ++ data)
      rw [harrived, h.unread, List.append_assoc]
    · have hsteps := h.steps
      rw [h.unread] at hsteps
      show m.repeats + (m.transport.inbound ++ data).length ≤ (m.arrived ++ data).length
      rw [List.length_append, List.length_append]
      omega

/-- The peer sends no more. -/
theorem finish (h : m.Sound) : (m.step .finish).Sound := by
  have hunread : (m.step .finish).session.unread = m.session.unread := h.unread.symm
  obtain ⟨taken, harrived, hused⟩ := h.taken
  exact ⟨rfl, h.going, ⟨taken, by rw [hunread]; exact harrived, hused⟩, h.popped,
    by rw [hunread]; exact h.steps⟩

/-- The worker takes a request, and only a complete one. -/
theorem pop (h : m.Sound) : (m.step .pop).Sound := by
  rw [step]
  rcases Session.popRequest_cases m.session with ⟨first, more, hrequests, hcomplete, hpop⟩ | hpop
  · rw [hpop]
    obtain ⟨taken, harrived, hused⟩ := h.taken
    refine ⟨h.bound, h.going, ⟨taken, harrived, ?_⟩, ?_, h.steps⟩
    · show UsedUp taken ((m.popped ++ [first]) ++ more)
      rwa [List.append_assoc, List.singleton_append, ← hrequests]
    · intro packet hp
      rcases List.mem_append.1 hp with hp | hp
      · exact h.popped packet hp
      · rw [List.mem_singleton.1 hp]
        exact hcomplete
  · rw [hpop]
    exact h

/-- **A step of the reader** takes from the stream what it puts into the queue. -/
theorem read (h : m.Sound) : (m.step .read).Sound := by
  have hreads := h.reads
  obtain ⟨taken, harrived, hused⟩ := h.taken
  have hsteps := h.steps
  rw [h.unread] at harrived hsteps
  rw [step]
  generalize m.session.readStep = step at hreads
  cases hreads with
  | @header s' t' header hlast hlong hvalid htransport hcancelled hinbound hfinished hrequests =>
    set m' : Intake := { m with session := s', repeats := m.repeats + 1 } with hm'
    have hbound : m'.session.transport = some m'.transport := by
      rw [transport, hm', htransport, Option.getD_some]
    have hunread : m'.session.unread = m.transport.inbound.drop Header.size := by
      rw [unread_eq hbound, transport, hm', htransport, Option.getD_some, hinbound]
    have hlen : (m.transport.inbound.take Header.size).length = Header.size :=
      List.length_take_of_le hlong
    refine ⟨hbound, hcancelled, ⟨taken ++ m.transport.inbound.take Header.size, ?_, ?_⟩,
      h.popped, ?_⟩
    · rw [hunread, List.append_assoc, List.take_append_drop]
      exact harrived
    · show UsedUp _ (m.popped ++ s'.requests)
      rw [hrequests, ← List.append_assoc]
      exact hused.header (h.lastComplete hlast) hlen hvalid
    · rw [hunread, List.length_drop]
      show m.repeats + 1 + (m.transport.inbound.length - Header.size) ≤ m.arrived.length
      rw [Header.size] at hlong ⊢
      omega
  | @payload s' t' older newest data hbefore hroom htaken hsome htransport hcancelled hfinished
      hrequests =>
    set m' : Intake := { m with session := s', repeats := m.repeats + 1 } with hm'
    have hbound : m'.session.transport = some m'.transport := by
      rw [transport, hm', htransport, Option.getD_some]
    have hunread : m'.session.unread = t'.inbound := by
      rw [unread_eq hbound, transport, hm', htransport, Option.getD_some]
    refine ⟨hbound, hcancelled, ⟨taken ++ data, ?_, ?_⟩, h.popped, ?_⟩
    · rw [hunread, List.append_assoc, ← htaken]
      exact harrived
    · show UsedUp _ (m.popped ++ s'.requests)
      rw [hrequests, ← List.append_assoc]
      rw [hbefore, ← List.append_assoc] at hused
      exact hused.payload hroom
    · have hpos : 0 < data.length := List.length_pos_iff.2 hsome
      rw [htaken, List.length_append] at hsteps
      rw [hunread]
      show m.repeats + 1 + t'.inbound.length ≤ m.arrived.length
      omega
  | @stop s' t' result htransport hcancelled hinbound hfinished hrequests _ =>
    set m' : Intake := { m with session := s' } with hm'
    have hbound : m'.session.transport = some m'.transport := by
      rw [transport, hm', htransport, Option.getD_some]
    have hunread : m'.session.unread = m.transport.inbound := by
      rw [unread_eq hbound, transport, hm', htransport, Option.getD_some, hinbound]
    refine ⟨hbound, hcancelled, ⟨taken, by rw [hunread]; exact harrived, ?_⟩, h.popped,
      by rw [hunread]; exact hsteps⟩
    show UsedUp _ (m.popped ++ s'.requests)
    rwa [hrequests]

/-- **Each event keeps an intake sound.** -/
theorem step (h : m.Sound) (event : Event) : (m.step event).Sound := by
  cases event with
  | arrive data => exact h.arrive data
  | finish => exact h.finish
  | read => exact h.read
  | pop => exact h.pop

/-- **And so does a run.** -/
theorem run (h : m.Sound) (events : List Event) : (m.run events).Sound := by
  induction events generalizing m with
  | nil => exact h
  | cons event events ih => exact ih (h.step event)

/-! ### Where a read event ends -/

/-- **The reader stops where the cut of all arrived bytes stops.** -/
theorem ends_readStep (h : m.Sound) {result : Except SessionError Unit}
    {session : Session Arrivals} (hstep : m.session.readStep = (.done result, session)) :
    m.Ends result session := by
  have hreads := h.reads
  rw [hstep] at hreads
  obtain ⟨taken, harrived, hused⟩ := h.taken
  rw [h.unread] at harrived
  cases hreads with
  | @stop _ t' _ htransport _ hinbound _ hrequests hwhy =>
    have hunread : session.unread = m.transport.inbound := by
      rw [Session.unread, htransport, ← hinbound]
      rfl
    -- what is left over of the arrived bytes, and why nothing of it can be used
    have hcut : ∃ fault, cut m.arrived = ⟨m.popped ++ session.requests, session.unread, fault⟩ ∧
        result = (match fault with
          | some fault => .error (.frame fault)
          | none => if m.transport.finished then .error .closed else .ok ()) := by
      rw [hrequests, hunread, harrived]
      rcases hwhy with ⟨⟨hlast, hshort⟩ | hempty, hresult⟩ | ⟨hlast, hlong, fault, hfault, hresult⟩
      · refine ⟨none, ?_, hresult⟩
        rw [hused.cut_append (h.lastComplete hlast), cut_of_length_lt hshort, List.append_nil]
      · refine ⟨none, ?_, hresult⟩
        rw [hempty, List.append_nil]
        exact hused
      · refine ⟨some fault, ?_, hresult⟩
        rw [hused.cut_append (h.lastComplete hlast), cut_of_error hlong hfault, List.append_nil]
    obtain ⟨fault, hcut, hresult⟩ := hcut
    have hrest := cut_rest m.arrived
    rw [hcut] at hrest
    refine ⟨by rw [hcut], by rw [hcut], ?_, by rw [verdict, hcut]; exact hresult⟩
    rcases fault with - | fault
    · exact .inl hrest
    · exact .inr ⟨fault, by rw [hcut], hrest.2⟩

/-- **A whole read event** ends there as well, if nothing comes in between. -/
theorem ends_readEvent (h : m.Sound) : m.Ends m.session.readEvent.1 m.session.readEvent.2 := by
  induction hn : m.session.unread.length using Nat.strongRecOn generalizing m with
  | _ n ih =>
    rw [Session.readEvent]
    split
    · rename_i result session hstep
      exact h.ends_readStep hstep
    · rename_i session hstep
      have hnext := h.step .read
      rw [Intake.step, hstep] at hnext
      have hlt : session.unread.length < n := hn ▸ Session.length_unread_readStep_lt hstep
      obtain ⟨hpackets, hunread, hleft, hresult⟩ := ih _ hlt hnext rfl
      have htransport : (Intake.mk session m.popped m.arrived (m.repeats + 1)).transport.finished =
          m.transport.finished := by
        have hreads := h.reads
        rw [hstep] at hreads
        cases hreads with
        | header _ _ _ htransport _ _ hfinished =>
          rw [transport, htransport, Option.getD_some, hfinished]
        | payload _ _ _ _ htransport _ hfinished =>
          rw [transport, htransport, Option.getD_some, hfinished]
      refine ⟨hpackets, hunread, hleft, hresult.trans ?_⟩
      rw [verdict, verdict, htransport]

end Sound

/-- **Requests are cut out of the stream exactly.** Whatever order bytes arrive in, however short
the receives are, and wherever the worker and further bytes come in between the steps of the reader:

* what was handed out and what is queued is the cut of what was received;
* only complete requests are handed out, and only the newest queued one may be incomplete;
* all read events together repeat their step no more often than bytes have arrived;
* when a read event comes to its end, whether or not something came in between, all frames of the
  arrived bytes are there, what was not received is a piece of a header or begins with one that is
  refused, and the event fails only for such a header or for the end of the stream. -/
theorem requests_eq_cut (capacity readChunk : Nat) (takes : Nat → Nat) (events : List Event) :
    let m := (start capacity readChunk takes).run events
    (∃ taken, m.arrived = taken ++ m.session.unread ∧
      cut taken = ⟨m.popped ++ m.session.requests, [], none⟩) ∧
    (∀ packet ∈ m.popped, packet.isComplete = true) ∧
    (∀ packet ∈ m.session.requests.dropLast, packet.isComplete = true) ∧
    m.repeats + m.session.unread.length ≤ m.arrived.length ∧
    (∀ result session, m.session.readStep = (.done result, session) → m.Ends result session) ∧
    m.Ends m.session.readEvent.1 m.session.readEvent.2 := by
  intro m
  have h : m.Sound := (sound_start capacity readChunk takes).run events
  exact ⟨h.taken, h.popped, fun _ hp ↦ h.queued hp, h.steps, fun _ _ hstep ↦ h.ends_readStep hstep,
    h.ends_readEvent⟩

end Intake

end FileShare
