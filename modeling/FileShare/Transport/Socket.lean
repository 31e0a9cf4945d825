import FileShare.Bytes.ByteQueue
import FileShare.Transport.Transport

/-!
# Sockets

A `Socket` is one end of a local stream. It is used without waiting: whether a call is worth a try
is known from the readiness that the system has reported, and a call that finds nothing to do takes
that readiness back until there is news. Once a direction is closed, its readiness stays.

What a peek shows may be less than was asked for. Readiness is taken back then too, so that nobody
is woken again before more has arrived. Nothing else than the news of arriving bytes brings it back.
-/

namespace FileShare

/-- One end of a local stream. -/
structure Socket where
  /-- What the peer has sent and has not been received. -/
  inbound : ByteQueue
  /-- What has been sent and the peer has not received. -/
  outbound : ByteQueue
  /-- Arrived bytes are worth a try. -/
  mayRead : Bool
  /-- Sending is worth a try. -/
  mayWrite : Bool
  /-- The peer sends no more. -/
  peerFinished : Bool
  /-- The peer is gone. -/
  peerGone : Bool
  /-- The peer has gone without having received everything, and this has not been told yet. -/
  resetPending : Bool
  isShutdown : Bool
  deriving Inhabited

namespace Socket

/-- A socket that has just been connected. -/
def connected : Socket :=
  ⟨.empty, .empty, false, true, false, false, false, false⟩

/-- How many bytes may be on their way. -/
def capacity : Nat := 219264

/-- No more bytes will arrive. -/
def isReadClosed (s : Socket) : Bool :=
  s.peerFinished || s.peerGone || s.isShutdown

/-- No more bytes can be sent. -/
def isWriteClosed (s : Socket) : Bool :=
  s.peerGone || s.isShutdown

/-- Whether receiving is worth a try. -/
def isReadable (s : Socket) : Bool :=
  s.mayRead || s.isReadClosed

/-- Whether sending is worth a try. -/
def isWritable (s : Socket) : Bool :=
  s.mayWrite || s.isWriteClosed

/-! ### This end -/

/-- What a call that wants bytes finds when none have arrived. -/
def whenEmpty (s : Socket) : Except IoError ByteArray × Socket :=
  if s.resetPending then
    (.error (.kind .connectionReset), { s with resetPending := false })
  else if s.isReadClosed then
    (.ok ByteArray.empty, s)
  else
    (.error (.kind .wouldBlock), { s with mayRead := false })

/-- Show bytes without taking them. -/
def peek (s : Socket) (n : Nat) : Except IoError ByteArray × Socket :=
  if !s.isReadable then
    (.error (.kind .wouldBlock), s)
  else if s.inbound.size = 0 then
    s.whenEmpty
  else
    let data := s.inbound.front n
    (.ok data, if 0 < data.size ∧ data.size < n then { s with mayRead := false } else s)

/-- Take bytes. -/
def recv (s : Socket) (n : Nat) : Except IoError ByteArray × Socket :=
  if !s.isReadable then
    (.error (.kind .wouldBlock), s)
  else if n = 0 then
    (.ok ByteArray.empty, s)
  else if s.inbound.size = 0 then
    s.whenEmpty
  else
    let data := s.inbound.front n
    (.ok data, { s with inbound := s.inbound.drop data.size })

/-- Send bytes. -/
def send (s : Socket) (data : ByteArray) : Except IoError Nat × Socket :=
  if s.isShutdown then
    (.error (.kind .notConnected), s)
  else if !s.isWritable then
    (.error (.kind .wouldBlock), s)
  else if data.size = 0 then
    (.ok 0, s)
  else if s.peerGone then
    (.error (.kind .brokenPipe), s)
  else
    let count := min data.size (capacity - s.outbound.size)
    if count = 0 then
      (.error (.kind .wouldBlock), { s with mayWrite := false })
    else
      (.ok count, { s with outbound := s.outbound.push (data.extract 0 count) })

/-! ### The other end -/

/-- The peer sends bytes. -/
def peerSend (s : Socket) (data : ByteArray) : Socket :=
  if s.isShutdown || s.peerGone || s.peerFinished || data.size = 0 then s
  else { s with inbound := s.inbound.push data, mayRead := true }

/-- The peer takes bytes. Sending is worth a try again once little is on its way. -/
def peerTake (s : Socket) (n : Nat) : ByteArray × Socket :=
  let data := s.outbound.front n
  let outbound := s.outbound.drop data.size
  (data, { s with outbound, mayWrite := s.mayWrite || decide (4 * outbound.size ≤ capacity) })

/-- The peer sends no more. -/
def peerFinish (s : Socket) : Socket :=
  { s with peerFinished := true, mayRead := true }

/-- The peer goes away. -/
def peerClose (s : Socket) : Socket :=
  if s.peerGone then s
  else { s with
    peerGone := true
    mayRead := true
    resetPending := decide (0 < s.outbound.size) && !s.isShutdown }

/-- Whether the peer finds the end. -/
def peerAtEnd (s : Socket) : Bool :=
  s.isShutdown && s.outbound.size = 0

/-! ### Laws -/

theorem inbound_whenEmpty (s : Socket) : s.whenEmpty.2.inbound = s.inbound := by
  unfold whenEmpty
  split
  · rfl
  · split <;> rfl

theorem whenEmpty_eq_ok {s s' : Socket} {data : ByteArray} (h : s.whenEmpty = (.ok data, s')) :
    data = ByteArray.empty := by
  unfold whenEmpty at h
  split at h
  · simp at h
  · split at h
    · exact (Except.ok.inj (Prod.mk.inj h).1).symm
    · simp at h

instance : Transport Socket where
  peek := peek
  recv := recv
  send := send
  shutdown s := { s with isShutdown := true }
  isReadClosed := isReadClosed
  unread s := s.inbound.toList
  unread_peek s n := by
    unfold peek
    split
    · rfl
    · split
      · exact congrArg ByteQueue.toList s.inbound_whenEmpty
      · dsimp only
        split <;> rfl
  peek_eq_ok {s s' n data} h := by
    unfold peek at h
    split at h
    · simp at h
    · split at h
      · rw [whenEmpty_eq_ok h]
        simp
      · obtain rfl := Except.ok.inj (Prod.mk.inj h).1
        exact ⟨s.inbound.size_front_le n, s.inbound.front_prefix n⟩
  unread_recv_ok {s s' n data} h := by
    unfold recv at h
    split at h
    · simp at h
    · split at h
      · obtain ⟨eq, rfl⟩ := Prod.mk.inj h
        obtain rfl := Except.ok.inj eq
        simp
      · split at h
        · have same := s.inbound_whenEmpty
          rw [h] at same
          rw [whenEmpty_eq_ok h, same]
          simp
        · obtain ⟨eq, rfl⟩ := Prod.mk.inj h
          obtain rfl := Except.ok.inj eq
          exact ⟨s.inbound.size_front_le n, s.inbound.front_append_drop n⟩
  unread_recv_error {s s' n error} h := by
    unfold recv at h
    split at h
    · obtain ⟨-, rfl⟩ := Prod.mk.inj h
      rfl
    · split at h
      · simp at h
      · split at h
        · have same := s.inbound_whenEmpty
          rw [h] at same
          rw [same]
        · simp at h

end Socket

end FileShare
