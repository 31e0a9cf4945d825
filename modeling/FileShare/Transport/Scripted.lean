import FileShare.Bytes.ByteQueue
import FileShare.Transport.Transport

/-!
# A transport that follows a script

`Scripted` is a transport in memory. Bytes are fed to it from outside, what is sent piles up in it,
and its settings make it short of breath: limits on what one call moves, calls that block, and
errors, at once or after a budget of bytes.
-/

namespace FileShare

/-- A transport in memory. -/
structure Scripted where
  /-- What has been fed and not been received. -/
  inbound : ByteQueue
  /-- All bytes that were ever sent. -/
  outbound : ByteArray
  peekError : Option IoKind
  recvError : Option IoKind
  /-- Receives find the end, whatever has been fed. -/
  recvZero : Bool
  /-- The most bytes that one receive takes. -/
  recvLimit : Option Nat
  /-- No more bytes will be fed. -/
  eof : Bool
  /-- How many of the next sends block. -/
  blockSends : Nat
  /-- The most bytes that one send takes. -/
  sendLimit : Option Nat
  /-- What sends fail with once the budget is used up. -/
  sendError : Option IoKind
  sendBudget : Nat
  isShutdown : Bool
  sendCalls : Nat
  recvCalls : Nat
  deriving Inhabited

namespace Scripted

/-- A transport without any bytes, limits or errors. -/
def quiet : Scripted :=
  ⟨.empty, ByteArray.empty, none, none, false, none, false, 0, none, none, 0, false, 0, 0⟩

/-- Bytes arrive. -/
def feed (t : Scripted) (data : ByteArray) : Scripted :=
  { t with inbound := t.inbound.push data }

/-- What a peek shows. -/
def shown (t : Scripted) (n : Nat) : Except IoError ByteArray :=
  match t.peekError with
  | some kind => .error (.kind kind)
  | none =>
    if t.inbound.size = 0 then
      if t.eof then .ok ByteArray.empty else .error (.kind .wouldBlock)
    else
      .ok (t.inbound.front n)

/-- How many bytes a receive may take. -/
def allowed (t : Scripted) (n : Nat) : Except IoError Nat :=
  match t.recvError with
  | some kind => .error (.kind kind)
  | none =>
    if t.recvZero then
      .ok 0
    else if t.inbound.size = 0 then
      if t.eof then .ok 0 else .error (.kind .wouldBlock)
    else
      .ok (min n (t.recvLimit.getD n))

/-- Take the bytes at the front. -/
def recv (t : Scripted) (n : Nat) : Except IoError ByteArray × Scripted :=
  let t' := { t with recvCalls := t.recvCalls + 1 }
  match t.allowed n with
  | .ok count =>
    let data := t.inbound.front count
    (.ok data, { t' with inbound := t.inbound.drop data.size })
  | .error error => (.error error, t')

/-- Send bytes, as many as limits and budget allow. -/
def send (t : Scripted) (data : ByteArray) : Except IoError Nat × Scripted :=
  let t := { t with sendCalls := t.sendCalls + 1 }
  if t.blockSends > 0 then
    (.error (.kind .wouldBlock), { t with blockSends := t.blockSends - 1 })
  else
    let count := min data.size (t.sendLimit.getD data.size)
    match t.sendError with
    | none => (.ok count, { t with outbound := t.outbound ++ data.extract 0 count })
    | some kind =>
      if t.sendBudget = 0 then
        (.error (.kind kind), t)
      else
        let count := min count t.sendBudget
        (.ok count, { t with
          outbound := t.outbound ++ data.extract 0 count
          sendBudget := t.sendBudget - count })

theorem shown_eq_ok {t : Scripted} {n : Nat} {data : ByteArray} (h : t.shown n = .ok data) :
    data.size ≤ n ∧ data.data.toList <+: t.inbound.toList := by
  unfold shown at h
  split at h
  · simp at h
  · split at h
    · split at h
      · obtain rfl := Except.ok.inj h
        simp
      · simp at h
    · obtain rfl := Except.ok.inj h
      exact ⟨t.inbound.size_front_le n, t.inbound.front_prefix n⟩

theorem allowed_eq_ok {t : Scripted} {n count : Nat} (h : t.allowed n = .ok count) : count ≤ n := by
  unfold allowed at h
  split at h
  · simp at h
  · split at h
    · obtain rfl := Except.ok.inj h
      omega
    · split at h
      · split at h
        · obtain rfl := Except.ok.inj h
          omega
        · simp at h
      · obtain rfl := Except.ok.inj h
        omega

instance : Transport Scripted where
  peek t n := (t.shown n, t)
  recv := recv
  send := send
  shutdown t := { t with isShutdown := true }
  isReadClosed t := t.eof
  unread t := t.inbound.toList
  unread_peek _ _ := rfl
  peek_eq_ok h := shown_eq_ok (Prod.mk.inj h).1
  unread_recv_ok {t t' n data} h := by
    unfold recv at h
    split at h
    · rename_i count eq
      obtain ⟨eq', rfl⟩ := Prod.mk.inj h
      obtain rfl := Except.ok.inj eq'
      exact ⟨Nat.le_trans (t.inbound.size_front_le count) (allowed_eq_ok eq),
        t.inbound.front_append_drop count⟩
    · simp at h
  unread_recv_error {t t' n error} h := by
    unfold recv at h
    split at h
    · simp at h
    · obtain ⟨-, rfl⟩ := Prod.mk.inj h
      rfl

end Scripted

end FileShare
