/-!
# Bytes as a list

Arrays of bytes hold what is stored or sent, and lists of bytes are what a format is read from and
written to. `before` puts the bytes of an array in front of a list, in one pass from the back.
-/

namespace FileShare

/-- The first `count` bytes of an array, in front of `rest`. -/
def firstBefore (bytes : ByteArray) : (count : Nat) → count ≤ bytes.size → List UInt8 → List UInt8
  | 0, _, rest => rest
  | count + 1, h, rest => firstBefore bytes count (Nat.le_of_succ_le h) (bytes[count] :: rest)

/-- The bytes of an array, in front of `rest`. -/
def before (bytes : ByteArray) (rest : List UInt8) : List UInt8 :=
  firstBefore bytes bytes.size (Nat.le_refl _) rest

theorem firstBefore_eq (bytes : ByteArray) (count : Nat) (h : count ≤ bytes.size)
    (rest : List UInt8) :
    firstBefore bytes count h rest = bytes.data.toList.take count ++ rest := by
  induction count generalizing rest with
  | zero => rfl
  | succ count ih =>
    have inside : count < bytes.data.toList.length := by
      rw [Array.length_toList]
      exact h
    rw [firstBefore, ih, List.take_succ_eq_append_getElem inside, List.append_assoc]
    rfl

/-- **Nothing is lost and nothing moves.** -/
@[simp] theorem before_eq_append (bytes : ByteArray) (rest : List UInt8) :
    before bytes rest = bytes.data.toList ++ rest := by
  rw [before, firstBefore_eq, List.take_of_length_le]
  rw [Array.length_toList]
  exact Nat.le_refl _

end FileShare
