import FileShare.Host.IoError

/-!
# Transports

A transport carries bytes both ways and never waits: a call that cannot make progress fails with
`IoKind.wouldBlock`. It is a state, and every call returns the next one.

What has arrived and has not been received yet is `Transport.unread`. It is a view for proofs, and
the laws say what the calls do to it: a peek shows the front of it and takes nothing, a receive
takes what it returns from the front, and neither gives more than was asked for.
-/

namespace FileShare

/-- A **transport**. -/
class Transport (τ : Type) where
  /-- Show at most so many bytes without taking them; none are shown only at the end. -/
  peek : τ → Nat → Except IoError ByteArray × τ
  /-- Take at most so many bytes; none are taken only at the end. -/
  recv : τ → Nat → Except IoError ByteArray × τ
  /-- Send some bytes at the front, and tell how many. -/
  send : τ → ByteArray → Except IoError Nat × τ
  /-- Shut down both directions. -/
  shutdown : τ → τ
  /-- Whether the peer has stopped sending; what has arrived can still be received. -/
  isReadClosed : τ → Bool
  /-- What has arrived and has not been received. -/
  unread : τ → List UInt8
  unread_peek (t : τ) (n : Nat) : unread (peek t n).2 = unread t
  peek_eq_ok {t t' : τ} {n : Nat} {data : ByteArray} (h : peek t n = (.ok data, t')) :
    data.size ≤ n ∧ data.data.toList <+: unread t
  unread_recv_ok {t t' : τ} {n : Nat} {data : ByteArray} (h : recv t n = (.ok data, t')) :
    data.size ≤ n ∧ data.data.toList ++ unread t' = unread t
  unread_recv_error {t t' : τ} {n : Nat} {error : IoError} (h : recv t n = (.error error, t')) :
    unread t' = unread t

end FileShare
