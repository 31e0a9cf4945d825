/-!
# Numbers as bytes, most significant first

`bigEndian width n` writes the lowest `width` bytes of `n`, and `ofBigEndian` reads any list of
bytes as a number. The two are inverse to each other: `ofBigEndian_bigEndian` reads back what fits
the width, and `length_bigEndian` says that the width is kept, so a reader knows how much to take.
-/

namespace FileShare

/-- How many numbers fit into `width` bytes. -/
def wordCount : Nat → Nat
  | 0 => 1
  | width + 1 => 256 * wordCount width

/-- The lowest `width` bytes of a number, most significant first. -/
def bigEndian : Nat → Nat → List UInt8
  | 0, _ => []
  | width + 1, n => bigEndian width (n / 256) ++ [UInt8.ofNat n]

/-- The number that a list of bytes spells, most significant first. -/
def ofBigEndian (bytes : List UInt8) : Nat :=
  bytes.foldl (fun n byte => n * 256 + byte.toNat) 0

@[simp] theorem length_bigEndian (width n : Nat) : (bigEndian width n).length = width := by
  induction width generalizing n with
  | zero => rfl
  | succ width ih => simp [bigEndian, ih]

theorem ofBigEndian_append (bytes : List UInt8) (byte : UInt8) :
    ofBigEndian (bytes ++ [byte]) = ofBigEndian bytes * 256 + byte.toNat := by
  simp [ofBigEndian]

/-- **A number that fits its width reads back.** -/
theorem ofBigEndian_bigEndian {width n : Nat} (h : n < wordCount width) :
    ofBigEndian (bigEndian width n) = n := by
  induction width generalizing n with
  | zero =>
    rw [wordCount] at h
    rw [bigEndian, ofBigEndian, List.foldl_nil]
    omega
  | succ width ih =>
    rw [wordCount] at h
    have low : (UInt8.ofNat n).toNat = n % 256 := UInt8.toNat_ofNat'
    rw [bigEndian, ofBigEndian_append, ih (by omega), low]
    omega

/-- Take a number of `width` bytes from the front. -/
def takeWord (width : Nat) (bytes : List UInt8) : Option (Nat × List UInt8) :=
  let (word, rest) := bytes.splitAt width
  if word.length = width then some (ofBigEndian word, rest) else none

theorem takeWord_bigEndian {width n : Nat} (h : n < wordCount width) (rest : List UInt8) :
    takeWord width (bigEndian width n ++ rest) = some (n, rest) := by
  simp [takeWord, List.splitAt_eq, ofBigEndian_bigEndian h]

end FileShare
