import Mathlib.Data.List.Induction
import FileShare.MessagePack.Read

/-!
# Reading back what is written

Three laws about `Value.read`, each carried by the depth that arrays and maps use up.

* **It reads back what `Value.write` writes** (`Value.read_write`), whatever stands behind, as long
  as every length fits the four bytes that the format has for it.
* **It looks at nothing behind the value that it takes** (`Value.steady_read`), so a value that is
  there stays the same value when more bytes arrive.
* **Whatever it reads has lengths that fit** (`Value.yields_read`), since each was read from at
  most four bytes.

They speak of values that are `Value.Sized`: all lengths in them are allowed, and their arrays and
maps nest no deeper than they may. From the first two together, no spelling is the beginning of
another one (`Value.read_eq_none_of_append`).
-/

namespace FileShare.MessagePack

/-! ### Taking bytes -/

theorem takeBytes_append (front rest : List UInt8) (taken : ByteArray) :
    takeBytes front.length (front ++ rest) taken = some (taken ++ front.toByteArray, rest) := by
  induction front generalizing taken with
  | nil => simp [takeBytes]
  | cons byte front ih =>
    have hpush : taken.push byte ++ front.toByteArray = taken ++ (byte :: front).toByteArray :=
      ByteArray.ext (by simp)
    rw [List.length_cons, List.cons_append, takeBytes, ih, hpush]

theorem exists_of_takeBytes_eq_some {count : Nat} {bytes rest : List UInt8}
    {taken data : ByteArray} (h : takeBytes count bytes taken = some (data, rest)) :
    ∃ front, front.length = count ∧ bytes = front ++ rest := by
  induction count generalizing bytes taken with
  | zero =>
    obtain ⟨-, rfl⟩ := Prod.mk.inj (Option.some.inj h)
    exact ⟨[], rfl, rfl⟩
  | succ count ih =>
    rcases bytes with - | ⟨byte, bytes⟩
    · exact nomatch h
    · obtain ⟨front, rfl, rfl⟩ := ih h
      exact ⟨byte :: front, rfl, rfl⟩

theorem readBytes_append (wrap : ByteArray → Value) (front rest : List UInt8) :
    Value.readBytes wrap front.length (front ++ rest) = some (wrap front.toByteArray, rest) := by
  rw [Value.readBytes, takeBytes_append, ByteArray.empty_append]

theorem exists_of_readBytes_eq_some {wrap : ByteArray → Value} {length : Nat}
    {bytes rest : List UInt8} {value : Value}
    (h : Value.readBytes wrap length bytes = some (value, rest)) :
    ∃ front, front.length = length ∧ bytes = front ++ rest ∧ value = wrap front.toByteArray := by
  rw [Value.readBytes] at h
  rcases htake : takeBytes length bytes ByteArray.empty with - | ⟨data, behind⟩
  · rw [htake] at h
    exact nomatch h
  · rw [htake] at h
    obtain ⟨rfl, rfl⟩ := Prod.mk.inj (Option.some.inj h)
    obtain ⟨front, rfl, rfl⟩ := exists_of_takeBytes_eq_some htake
    rw [takeBytes_append, ByteArray.empty_append] at htake
    obtain ⟨rfl, -⟩ := Prod.mk.inj (Option.some.inj htake)
    exact ⟨front, rfl, rfl, rfl⟩

theorem takeWord_append (word rest : List UInt8) :
    takeWord word.length (word ++ rest) = some (ofBigEndian word, rest) := by
  simp [takeWord, List.splitAt_eq]

theorem exists_of_takeWord_eq_some {width n : Nat} {bytes rest : List UInt8}
    (h : takeWord width bytes = some (n, rest)) :
    ∃ word, word.length = width ∧ bytes = word ++ rest ∧ n = ofBigEndian word := by
  rw [takeWord, List.splitAt_eq] at h
  dsimp only at h
  split at h
  · rename_i hlen
    obtain ⟨rfl, rfl⟩ := Prod.mk.inj (Option.some.inj h)
    exact ⟨_, hlen, (List.take_append_drop width bytes).symm, rfl⟩
  · cases h

theorem ofBigEndian_lt (word : List UInt8) : ofBigEndian word < wordCount word.length := by
  induction word using List.reverseRecOn with
  | nil => decide
  | append_singleton word byte ih =>
    have := byte.toNat_lt
    rw [ofBigEndian_append, List.length_append, List.length_singleton, wordCount]
    omega

/-! ### Markers -/

namespace Marker

theorem ofByte_of_lt {byte : UInt8} (h : byte.toNat < 0x80) :
    ofByte byte = .done (.uint byte.toUInt64) := if_pos h

theorem ofByte_map {byte : UInt8} {length : Nat} (h : byte.toNat = 0x80 + length)
    (short : length < 0x10) : ofByte byte = .map length :=
  (if_neg (by omega)).trans <| (if_pos (by omega)).trans <| by rw [h, Nat.add_sub_cancel_left]

theorem ofByte_array {byte : UInt8} {length : Nat} (h : byte.toNat = 0x90 + length)
    (short : length < 0x10) : ofByte byte = .array length :=
  (if_neg (by omega)).trans <| (if_neg (by omega)).trans <| (if_pos (by omega)).trans <| by
    rw [h, Nat.add_sub_cancel_left]

theorem ofByte_str {byte : UInt8} {length : Nat} (h : byte.toNat = 0xa0 + length)
    (short : length < 0x20) : ofByte byte = .str length :=
  (if_neg (by omega)).trans <| (if_neg (by omega)).trans <| (if_neg (by omega)).trans <|
    (if_pos (by omega)).trans <| by rw [h, Nat.add_sub_cancel_left]

theorem ofByte_negative {byte : UInt8} (h : 0xe0 ≤ byte.toNat) :
    ofByte byte = .done (.int (Int64.ofInt (byte.toNat - 0x100))) :=
  (if_neg (by omega)).trans <| (if_neg (by omega)).trans <| (if_neg (by omega)).trans <|
    (if_neg (by omega)).trans <| if_pos h

end Marker

namespace Value

/-- Read the items of an array, if one may still nest. -/
def readArray : (depth length : Nat) → List UInt8 → Option (Value × List UInt8)
  | 0, _, _ => none
  | depth + 1, length, bytes =>
    (readMany (read depth) length bytes []).map fun (items, rest) => (array items, rest)

/-- Read the entries of a map, if one may still nest. -/
def readMap : (depth length : Nat) → List UInt8 → Option (Value × List UInt8)
  | 0, _, _ => none
  | depth + 1, length, bytes =>
    (readMany (readEntry (read depth)) length bytes []).map fun (entries, rest) =>
      (map entries, rest)

/-- What a marker makes of the bytes behind it. -/
def readBehind (depth : Nat) : Marker → List UInt8 → Option (Value × List UInt8)
  | .done value, bytes => some (value, bytes)
  | .uint width, bytes =>
    (takeWord width bytes).map fun (n, rest) => (uint (UInt64.ofNat n), rest)
  | .int width, bytes =>
    (takeWord width bytes).map fun (n, rest) => (int (Int64.ofInt (signed width n)), rest)
  | .float32, bytes => (takeWord 4 bytes).map fun (n, rest) => (float32 (UInt32.ofNat n), rest)
  | .float64, bytes => (takeWord 8 bytes).map fun (n, rest) => (float64 (UInt64.ofNat n), rest)
  | .str length, bytes => readBytes str length bytes
  | .longStr width, bytes => (takeWord width bytes).bind fun (n, rest) => readBytes str n rest
  | .longBin width, bytes => (takeWord width bytes).bind fun (n, rest) => readBytes bin n rest
  | .array length, bytes => readArray depth length bytes
  | .longArray width, bytes => (takeWord width bytes).bind fun (n, rest) => readArray depth n rest
  | .map length, bytes => readMap depth length bytes
  | .longMap width, bytes => (takeWord width bytes).bind fun (n, rest) => readMap depth n rest
  | .ext length, bytes => readExt length bytes
  | .longExt width, bytes => (takeWord width bytes).bind fun (n, rest) => readExt n rest
  | .reserved, _ => none

theorem read_cons (depth : Nat) (byte : UInt8) (bytes : List UInt8) :
    read depth (byte :: bytes) = readBehind depth (Marker.ofByte byte) bytes := by
  rw [read]
  cases depth <;> cases Marker.ofByte byte <;> rfl

end Value

theorem readEntry_eq (reader : List UInt8 → Option (Value × List UInt8)) (bytes : List UInt8) :
    readEntry reader bytes =
      (reader bytes).bind fun (key, rest) =>
        (reader rest).map fun (value, rest) => ((key, value), rest) := by
  rw [readEntry]
  rcases reader bytes with - | ⟨key, rest⟩
  · rfl
  · dsimp only [Option.bind_some]
    rcases reader rest with - | ⟨value, rest⟩ <;> rfl

/-! ### Readers that look at nothing behind what they take -/

/-- **Steady**: what a reader has found does not change when more bytes follow. -/
def Steady {α : Type} (reader : List UInt8 → Option (α × List UInt8)) : Prop :=
  ∀ ⦃bytes : List UInt8⦄ ⦃x : α⦄ ⦃rest : List UInt8⦄, reader bytes = some (x, rest) →
    ∀ more, reader (bytes ++ more) = some (x, rest ++ more)

namespace Steady

variable {α β : Type} {reader : List UInt8 → Option (α × List UInt8)}

theorem none : Steady fun _ ↦ (Option.none : Option (α × List UInt8)) :=
  fun _ _ _ h ↦ nomatch h

theorem map (h : Steady reader) (f : α → β) :
    Steady fun bytes ↦ (reader bytes).map fun (x, rest) => (f x, rest) := by
  intro bytes y rest hread more
  obtain ⟨⟨x, rest⟩, hx, heq⟩ := Option.map_eq_some_iff.1 hread
  obtain ⟨rfl, rfl⟩ := Prod.mk.inj heq
  show (reader (bytes ++ more)).map _ = _
  rw [h hx more, Option.map_some]

theorem bind (h : Steady reader) {next : α → List UInt8 → Option (β × List UInt8)}
    (hnext : ∀ x, Steady (next x)) :
    Steady fun bytes ↦ (reader bytes).bind fun (x, rest) => next x rest := by
  intro bytes y rest hread more
  obtain ⟨⟨x, between⟩, hx, hy⟩ := Option.bind_eq_some_iff.1 hread
  show (reader (bytes ++ more)).bind _ = _
  rw [h hx more, Option.bind_some]
  exact hnext x hy more

theorem takeWord (width : Nat) : Steady (takeWord width) := by
  intro bytes n rest hread more
  obtain ⟨word, rfl, rfl, rfl⟩ := exists_of_takeWord_eq_some hread
  rw [List.append_assoc, takeWord_append]

theorem readBytes (wrap : ByteArray → Value) (length : Nat) :
    Steady (Value.readBytes wrap length) := by
  intro bytes value rest hread more
  obtain ⟨front, rfl, rfl, rfl⟩ := exists_of_readBytes_eq_some hread
  rw [List.append_assoc, readBytes_append]

theorem readExt (length : Nat) : Steady (Value.readExt length) := by
  intro bytes value rest hread more
  rcases bytes with - | ⟨kind, bytes⟩
  · exact nomatch hread
  · exact readBytes (.ext kind) length hread more

theorem readMany (h : Steady reader) (count : Nat) (done : List α) :
    Steady fun bytes ↦ readMany reader count bytes done := by
  induction count generalizing done with
  | zero =>
    intro bytes items rest hread more
    obtain ⟨rfl, rfl⟩ := Prod.mk.inj (Option.some.inj hread)
    rfl
  | succ count ih =>
    intro bytes items rest hread more
    simp only [MessagePack.readMany] at hread ⊢
    rcases hfirst : reader bytes with - | ⟨item, behind⟩
    · rw [hfirst] at hread
      exact nomatch hread
    · rw [hfirst] at hread
      rw [h hfirst more]
      exact ih (item :: done) hread more

theorem readEntry {reader : List UInt8 → Option (Value × List UInt8)} (h : Steady reader) :
    Steady (readEntry reader) := by
  intro bytes entry rest hread more
  rw [readEntry_eq] at hread ⊢
  exact h.bind (fun key ↦ h.map (Prod.mk key)) hread more

end Steady

namespace Value

theorem steady_readBehind (depth : Nat) (harray : ∀ length, Steady (readArray depth length))
    (hmap : ∀ length, Steady (readMap depth length)) (marker : Marker) :
    Steady (readBehind depth marker) := by
  cases marker with
  | done value =>
    intro bytes x rest hread more
    obtain ⟨rfl, rfl⟩ := Prod.mk.inj (Option.some.inj hread)
    rfl
  | uint width => exact (Steady.takeWord width).map fun n ↦ uint (UInt64.ofNat n)
  | int width => exact (Steady.takeWord width).map fun n ↦ int (Int64.ofInt (signed width n))
  | float32 => exact (Steady.takeWord 4).map fun n ↦ float32 (UInt32.ofNat n)
  | float64 => exact (Steady.takeWord 8).map fun n ↦ float64 (UInt64.ofNat n)
  | str length => exact Steady.readBytes str length
  | longStr width => exact (Steady.takeWord width).bind (Steady.readBytes str)
  | longBin width => exact (Steady.takeWord width).bind (Steady.readBytes bin)
  | array length => exact harray length
  | longArray width => exact (Steady.takeWord width).bind harray
  | map length => exact hmap length
  | longMap width => exact (Steady.takeWord width).bind hmap
  | ext length => exact Steady.readExt length
  | longExt width => exact (Steady.takeWord width).bind Steady.readExt
  | reserved => exact Steady.none

/-- **A value that is there stays the same value when more bytes follow.** -/
theorem steady_read (depth : Nat) : Steady (read depth) := by
  -- Only arrays and maps read values again, and they use up one unit of the depth for it.
  induction depth with
  | zero =>
    rintro (- | ⟨byte, bytes⟩) value rest hread more
    · exact nomatch hread
    · rw [List.cons_append, read_cons] at *
      exact steady_readBehind 0 (fun _ ↦ Steady.none) (fun _ ↦ Steady.none) _ hread more
  | succ depth ih =>
    rintro (- | ⟨byte, bytes⟩) value rest hread more
    · exact nomatch hread
    · rw [List.cons_append, read_cons] at *
      exact steady_readBehind (depth + 1) (fun length ↦ (ih.readMany length []).map array)
        (fun length ↦ (ih.readEntry.readMany length []).map map) _ hread more

/-! ### Values of allowed sizes -/

/-- **Sized**: every length in a value is allowed, and arrays and maps nest to `depth` at most. -/
inductive Sized (allowed : Nat → Prop) : (depth : Nat) → Value → Prop
  | nil {depth : Nat} : Sized allowed depth nil
  | bool {depth : Nat} (value : Bool) : Sized allowed depth (bool value)
  | uint {depth : Nat} (value : UInt64) : Sized allowed depth (uint value)
  | int {depth : Nat} (value : Int64) : Sized allowed depth (int value)
  | float32 {depth : Nat} (bits : UInt32) : Sized allowed depth (float32 bits)
  | float64 {depth : Nat} (bits : UInt64) : Sized allowed depth (float64 bits)
  | str {depth : Nat} {bytes : ByteArray} (size : allowed bytes.size) :
    Sized allowed depth (str bytes)
  | bin {depth : Nat} {bytes : ByteArray} (size : allowed bytes.size) :
    Sized allowed depth (bin bytes)
  | ext {depth : Nat} {kind : UInt8} {bytes : ByteArray} (size : allowed bytes.size) :
    Sized allowed depth (ext kind bytes)
  | array {depth : Nat} {items : List Value} (length : allowed items.length)
    (each : ∀ item ∈ items, Sized allowed depth item) : Sized allowed (depth + 1) (array items)
  | map {depth : Nat} {entries : List (Value × Value)} (length : allowed entries.length)
    (keys : ∀ entry ∈ entries, Sized allowed depth entry.1)
    (values : ∀ entry ∈ entries, Sized allowed depth entry.2) :
    Sized allowed (depth + 1) (map entries)

namespace Sized

variable {p q : Nat → Prop} {d e : Nat}

/-- Sizes may be allowed more generously, and depths too. -/
theorem mono (hpq : ∀ n, p n → q n) (hde : d ≤ e) {value : Value} (h : value.Sized p d) :
    value.Sized q e := by
  induction h generalizing e with
  | nil => exact nil
  | bool value => exact bool value
  | uint value => exact uint value
  | int value => exact int value
  | float32 bits => exact float32 bits
  | float64 bits => exact float64 bits
  | str size => exact str (hpq _ size)
  | bin size => exact bin (hpq _ size)
  | ext size => exact ext (hpq _ size)
  | array length _ ih =>
    obtain ⟨e, rfl⟩ := Nat.exists_eq_succ_of_ne_zero (by omega : e ≠ 0)
    exact array (hpq _ length) fun item hitem ↦ ih item hitem (Nat.le_of_succ_le_succ hde)
  | map length _ _ ihkeys ihvalues =>
    obtain ⟨e, rfl⟩ := Nat.exists_eq_succ_of_ne_zero (by omega : e ≠ 0)
    exact map (hpq _ length) (fun entry hentry ↦ ihkeys entry hentry (Nat.le_of_succ_le_succ hde))
      fun entry hentry ↦ ihvalues entry hentry (Nat.le_of_succ_le_succ hde)

end Sized

/-! ### Lengths of spellings -/

theorem writeItems_eq_foldr (items : List Value) (rest : List UInt8) :
    writeItems items rest = items.foldr write rest := by
  induction items with
  | nil => rw [writeItems, List.foldr_nil]
  | cons item items ih => rw [writeItems, ih, List.foldr_cons]

/-- A key and its value, in front of `rest`. -/
def writeEntry (entry : Value × Value) (rest : List UInt8) : List UInt8 :=
  entry.1.write (entry.2.write rest)

theorem writeEntries_eq_foldr (entries : List (Value × Value)) (rest : List UInt8) :
    writeEntries entries rest = entries.foldr writeEntry rest := by
  induction entries with
  | nil => rw [writeEntries, List.foldr_nil]
  | cons entry entries ih => rw [writeEntries, ih, List.foldr_cons, writeEntry]

end Value

@[simp] theorem length_writeWord (marker : UInt8) (width n : Nat) (rest : List UInt8) :
    (writeWord marker width n rest).length = rest.length + width + 1 := by
  simp [writeWord]
  omega

theorem length_lt_writeUInt (value : UInt64) (rest : List UInt8) :
    rest.length < (writeUInt value rest).length := by
  unfold writeUInt
  grind [length_writeWord]

theorem length_lt_writeInt (value : Int64) (rest : List UInt8) :
    rest.length < (writeInt value rest).length := by
  unfold writeInt
  grind [length_writeWord]

theorem length_lt_writeStrHead (length : Nat) (rest : List UInt8) :
    rest.length < (writeStrHead length rest).length := by
  unfold writeStrHead
  grind [length_writeWord]

theorem length_lt_writeBinHead (length : Nat) (rest : List UInt8) :
    rest.length < (writeBinHead length rest).length := by
  unfold writeBinHead
  grind [length_writeWord]

theorem length_lt_writeArrayHead (length : Nat) (rest : List UInt8) :
    rest.length < (writeArrayHead length rest).length := by
  unfold writeArrayHead
  grind [length_writeWord]

theorem length_lt_writeMapHead (length : Nat) (rest : List UInt8) :
    rest.length < (writeMapHead length rest).length := by
  unfold writeMapHead
  grind [length_writeWord]

theorem length_lt_writeExtHead (length : Nat) (kind : UInt8) (rest : List UInt8) :
    rest.length < (writeExtHead length kind rest).length := by
  unfold writeExtHead
  grind [length_writeWord]

section Many

variable {α : Type} {spell : α → List UInt8 → List UInt8}

/-- Things that are spelled one after the other take a byte each, at least. -/
theorem length_le_foldr {items : List α} (rest : List UInt8)
    (h : ∀ item ∈ items, ∀ rest, rest.length < (spell item rest).length) :
    items.length + rest.length ≤ (items.foldr spell rest).length := by
  induction items with
  | nil => simp
  | cons item items ih =>
    have := h item List.mem_cons_self (items.foldr spell rest)
    have := ih fun other hother ↦ h other (List.mem_cons_of_mem item hother)
    rw [List.length_cons, List.foldr_cons]
    omega

/-- None of the things that are spelled one after the other is longer than all of them. -/
theorem exists_length_le_foldr {items : List α} (rest : List UInt8)
    (h : ∀ item ∈ items, ∀ rest, rest.length < (spell item rest).length) {item : α}
    (hitem : item ∈ items) :
    ∃ tail, (spell item tail).length ≤ (items.foldr spell rest).length := by
  induction items with
  | nil => exact absurd hitem List.not_mem_nil
  | cons first items ih =>
    rcases List.mem_cons.1 hitem with rfl | hlater
    · exact ⟨items.foldr spell rest, Nat.le_refl _⟩
    · have hothers := fun other hother ↦ h other (List.mem_cons_of_mem first hother)
      obtain ⟨tail, hle⟩ := ih hothers hlater
      have := h first List.mem_cons_self (items.foldr spell rest)
      exact ⟨tail, by rw [List.foldr_cons]; omega⟩

/-- Reading many things finds what spelling them one after the other has put there. -/
theorem readMany_foldr {reader : List UInt8 → Option (α × List UInt8)} {items : List α}
    (h : ∀ item ∈ items, ∀ rest, reader (spell item rest) = some (item, rest))
    (rest : List UInt8) (done : List α) :
    readMany reader items.length (items.foldr spell rest) done =
      some (done.reverse ++ items, rest) := by
  induction items generalizing done with
  | nil => simp [readMany]
  | cons item items ih =>
    rw [List.length_cons, List.foldr_cons, readMany, h item List.mem_cons_self]
    dsimp only
    rw [ih fun other hother ↦ h other (List.mem_cons_of_mem item hother)]
    simp

/-- What reading many things finds: so many, and each of them was read. -/
theorem exists_of_readMany_eq_some {reader : List UInt8 → Option (α × List UInt8)} {count : Nat}
    {bytes rest : List UInt8} {done items : List α}
    (h : readMany reader count bytes done = some (items, rest)) :
    ∃ found : List α, items = done.reverse ++ found ∧ found.length = count ∧
      ∀ item ∈ found, ∃ bytes rest, reader bytes = some (item, rest) := by
  induction count generalizing bytes done with
  | zero =>
    obtain ⟨rfl, rfl⟩ := Prod.mk.inj (Option.some.inj h)
    exact ⟨[], by simp⟩
  | succ count ih =>
    rw [readMany] at h
    rcases hfirst : reader bytes with - | ⟨item, behind⟩
    · rw [hfirst] at h
      exact nomatch h
    · rw [hfirst] at h
      obtain ⟨found, rfl, rfl, hfound⟩ := ih h
      refine ⟨item :: found, by simp, rfl, fun other hother ↦ ?_⟩
      rcases List.mem_cons.1 hother with rfl | hlater
      · exact ⟨bytes, behind, hfirst⟩
      · exact hfound other hlater

end Many

namespace Value

variable {p : Nat → Prop} {d : Nat}

@[simp] theorem length_before (bytes : ByteArray) (rest : List UInt8) :
    (before bytes rest).length = bytes.size + rest.length := by
  simp

/-- **No length in a value reaches that of its spelling**, and every spelling takes a byte. -/
theorem Sized.lt_length_write {value : Value} (h : value.Sized p d) (rest : List UInt8) :
    rest.length < (value.write rest).length ∧ value.Sized (· < (value.write rest).length) d := by
  induction h generalizing rest with
  | nil => exact ⟨Nat.lt_succ_self _, nil⟩
  | bool value => cases value <;> exact ⟨Nat.lt_succ_self _, bool _⟩
  | uint value => exact ⟨by rw [write]; exact length_lt_writeUInt value rest, uint value⟩
  | int value => exact ⟨by rw [write]; exact length_lt_writeInt value rest, int value⟩
  | float32 bits => exact ⟨by rw [write, length_writeWord]; omega, float32 bits⟩
  | float64 bits => exact ⟨by rw [write, length_writeWord]; omega, float64 bits⟩
  | @str _ bytes _ =>
    have := length_lt_writeStrHead bytes.size (before bytes rest)
    rw [length_before] at this
    exact ⟨by rw [write]; omega, str (by rw [write]; omega)⟩
  | @bin _ bytes _ =>
    have := length_lt_writeBinHead bytes.size (before bytes rest)
    rw [length_before] at this
    exact ⟨by rw [write]; omega, bin (by rw [write]; omega)⟩
  | @ext _ kind bytes _ =>
    have := length_lt_writeExtHead bytes.size kind (before bytes rest)
    rw [length_before] at this
    exact ⟨by rw [write]; omega, ext (by rw [write]; omega)⟩
  | @array _ items _ _ ih =>
    have hone : ∀ item ∈ items, ∀ rest, rest.length < (item.write rest).length :=
      fun item hitem rest ↦ (ih item hitem rest).1
    have hhead := length_lt_writeArrayHead items.length (items.foldr write rest)
    have hall := length_le_foldr rest hone
    rw [write, writeItems_eq_foldr]
    refine ⟨by omega, array (by omega) fun item hitem ↦ ?_⟩
    obtain ⟨tail, hle⟩ := exists_length_le_foldr rest hone hitem
    exact (ih item hitem tail).2.mono (fun n hn ↦ by omega) (Nat.le_refl _)
  | @map _ entries _ _ _ ihkeys ihvalues =>
    have hone : ∀ entry ∈ entries, ∀ rest, rest.length < (writeEntry entry rest).length :=
      fun entry hentry rest ↦
        Nat.lt_trans (ihvalues entry hentry rest).1 (ihkeys entry hentry (entry.2.write rest)).1
    have hhead := length_lt_writeMapHead entries.length (entries.foldr writeEntry rest)
    have hall := length_le_foldr rest hone
    rw [write, writeEntries_eq_foldr]
    refine ⟨by omega, map (by omega) (fun entry hentry ↦ ?_) fun entry hentry ↦ ?_⟩
    · obtain ⟨tail, hle⟩ := exists_length_le_foldr rest hone hentry
      exact (ihkeys entry hentry (entry.2.write tail)).2.mono
        (fun n hn ↦ by rw [writeEntry] at hle; omega) (Nat.le_refl _)
    · obtain ⟨tail, hle⟩ := exists_length_le_foldr rest hone hentry
      have hkey := (ihkeys entry hentry (entry.2.write tail)).1
      exact (ihvalues entry hentry tail).2.mono
        (fun n hn ↦ by rw [writeEntry] at hle; omega) (Nat.le_refl _)

end Value

/-! ### Reading back what is written -/

theorem signed_toNat {width : Nat} {i : Int} (low : -(wordCount width : Int) ≤ 2 * i)
    (high : 2 * i < wordCount width) : signed width (i % wordCount width).toNat = i := by
  unfold signed
  by_cases neg : i < 0
  · have : i % wordCount width = i + wordCount width := by
      rw [← Int.add_emod_right, Int.emod_eq_of_lt] <;> omega
    rw [this, if_neg] <;> omega
  · have : i % wordCount width = i := Int.emod_eq_of_lt (Int.not_lt.1 neg) (by omega)
    rw [this, if_pos] <;> omega

namespace Value

variable {d : Nat}

theorem readBytes_before (wrap : ByteArray → Value) (bytes : ByteArray) (rest : List UInt8) :
    readBytes wrap bytes.size (before bytes rest) = some (wrap bytes, rest) := by
  have hread : readBytes wrap bytes.size (bytes.data.toList ++ rest) = _ :=
    readBytes_append wrap bytes.data.toList rest
  have hbytes : bytes.data.toList.toByteArray = bytes := ByteArray.ext (by simp)
  rw [before_eq_append, hread, hbytes]

theorem read_writeUInt (value : UInt64) (rest : List UInt8) :
    read d (writeUInt value rest) = some (uint value, rest) := by
  have hback : UInt64.ofNat value.toNat = value := UInt64.ofNat_toNat
  have hword : ∀ width, value.toNat < wordCount width →
      (takeWord width (bigEndian width value.toNat ++ rest)).map
        (fun (n, rest) => (uint (UInt64.ofNat n), rest)) = some (uint value, rest) := by
    intro width hlt
    rw [takeWord_bigEndian hlt]
    exact congrArg (fun word ↦ some (uint word, rest)) hback
  have hmax := value.toNat_lt
  unfold writeUInt
  dsimp only
  split
  · rename_i hlt
    have hbyte : (UInt8.ofNat value.toNat).toNat = value.toNat := by
      rw [UInt8.toNat_ofNat']
      omega
    have hword : (UInt8.ofNat value.toNat).toUInt64 = value := by
      rw [← UInt64.toNat_inj, UInt8.toNat_toUInt64, hbyte]
    rw [read_cons, Marker.ofByte_of_lt (by omega), hword, readBehind]
  · split
    · exact (read_cons _ _ _).trans (hword 1 ‹_›)
    · split
      · exact (read_cons _ _ _).trans (hword 2 ‹_›)
      · split
        · exact (read_cons _ _ _).trans (hword 4 ‹_›)
        · exact (read_cons _ _ _).trans (hword 8 (by simpa [wordCount] using hmax))

theorem read_writeInt (value : Int64) (rest : List UInt8) :
    read d (writeInt value rest) = some (int value, rest) := by
  have hback : Int64.ofInt value.toInt = value := Int64.ofInt_toInt value
  have hword : ∀ width, -(wordCount width : Int) ≤ 2 * value.toInt →
      2 * value.toInt < wordCount width →
      (takeWord width (bigEndian width (value.toInt % wordCount width).toNat ++ rest)).map
        (fun (n, rest) => (int (Int64.ofInt (signed width n)), rest)) = some (int value, rest) := by
    intro width low high
    have hfits : (value.toInt % wordCount width).toNat < wordCount width := by
      have := Int.emod_lt_of_pos value.toInt (by omega : 0 < (wordCount width : Int))
      have := Int.emod_nonneg value.toInt (by omega : (wordCount width : Int) ≠ 0)
      omega
    rw [takeWord_bigEndian hfits]
    show some (int (Int64.ofInt (signed _ _)), rest) = _
    rw [signed_toNat low high, hback]
  have hmin := value.le_toInt
  have hmax := value.toInt_lt
  have h1 : wordCount 1 = 0x100 := rfl
  have h2 : wordCount 2 = 0x10000 := rfl
  have h4 : wordCount 4 = 0x100000000 := rfl
  have h8 : wordCount 8 = 0x10000000000000000 := rfl
  unfold writeInt
  dsimp only
  split
  · have hbyte : ((UInt8.ofNat (value.toInt + 0x100).toNat).toNat : Int) = value.toInt + 0x100 := by
      rw [UInt8.toNat_ofNat']
      omega
    rw [read_cons, Marker.ofByte_negative (by omega), hbyte, Int.add_sub_cancel, hback, readBehind]
  · split
    · exact (read_cons _ _ _).trans (hword 1 (by omega) (by omega))
    · split
      · exact (read_cons _ _ _).trans (hword 2 (by omega) (by omega))
      · split
        · exact (read_cons _ _ _).trans (hword 4 (by omega) (by omega))
        · exact (read_cons _ _ _).trans (hword 8 (by omega) (by omega))

/-- A length in a word of its own is read before what it is the length of. -/
theorem bind_takeWord {width length : Nat} (h : length < wordCount width) (bytes : List UInt8)
    (next : Nat → List UInt8 → Option (Value × List UInt8)) :
    ((takeWord width (bigEndian width length ++ bytes)).bind fun (n, rest) => next n rest) =
      next length bytes := by
  rw [takeWord_bigEndian h, Option.bind_some]

theorem read_writeStrHead {length : Nat} (h : length < wordCount 4) (bytes : List UInt8) :
    read d (writeStrHead length bytes) = readBytes str length bytes := by
  unfold writeStrHead
  split
  · have hbyte : (UInt8.ofNat (0xa0 + length)).toNat = 0xa0 + length := by
      rw [UInt8.toNat_ofNat']
      omega
    rw [read_cons, Marker.ofByte_str hbyte ‹_›, readBehind]
  · split
    · exact (read_cons _ _ _).trans (bind_takeWord ‹_› bytes (readBytes str))
    · split
      · exact (read_cons _ _ _).trans (bind_takeWord ‹_› bytes (readBytes str))
      · exact (read_cons _ _ _).trans (bind_takeWord h bytes (readBytes str))

theorem read_writeBinHead {length : Nat} (h : length < wordCount 4) (bytes : List UInt8) :
    read d (writeBinHead length bytes) = readBytes bin length bytes := by
  unfold writeBinHead
  split
  · exact (read_cons _ _ _).trans (bind_takeWord ‹_› bytes (readBytes bin))
  · split
    · exact (read_cons _ _ _).trans (bind_takeWord ‹_› bytes (readBytes bin))
    · exact (read_cons _ _ _).trans (bind_takeWord h bytes (readBytes bin))

theorem read_writeArrayHead {length : Nat} (h : length < wordCount 4) (bytes : List UInt8) :
    read d (writeArrayHead length bytes) = readArray d length bytes := by
  unfold writeArrayHead
  split
  · have hbyte : (UInt8.ofNat (0x90 + length)).toNat = 0x90 + length := by
      rw [UInt8.toNat_ofNat']
      omega
    rw [read_cons, Marker.ofByte_array hbyte ‹_›, readBehind]
  · split
    · exact (read_cons _ _ _).trans (bind_takeWord ‹_› bytes (readArray d))
    · exact (read_cons _ _ _).trans (bind_takeWord h bytes (readArray d))

theorem read_writeMapHead {length : Nat} (h : length < wordCount 4) (bytes : List UInt8) :
    read d (writeMapHead length bytes) = readMap d length bytes := by
  unfold writeMapHead
  split
  · have hbyte : (UInt8.ofNat (0x80 + length)).toNat = 0x80 + length := by
      rw [UInt8.toNat_ofNat']
      omega
    rw [read_cons, Marker.ofByte_map hbyte ‹_›, readBehind]
  · split
    · exact (read_cons _ _ _).trans (bind_takeWord ‹_› bytes (readMap d))
    · exact (read_cons _ _ _).trans (bind_takeWord h bytes (readMap d))

theorem read_writeExtHead {length : Nat} (h : length < wordCount 4) (kind : UInt8)
    (bytes : List UInt8) :
    read d (writeExtHead length kind bytes) = readExt length (kind :: bytes) := by
  unfold writeExtHead
  split
  · subst length
    exact read_cons d 0xd4 (kind :: bytes)
  · split
    · subst length
      exact read_cons d 0xd5 (kind :: bytes)
    · split
      · subst length
        exact read_cons d 0xd6 (kind :: bytes)
      · split
        · subst length
          exact read_cons d 0xd7 (kind :: bytes)
        · split
          · subst length
            exact read_cons d 0xd8 (kind :: bytes)
          · split
            · exact (read_cons _ _ _).trans (@bind_takeWord 1 length ‹_› (kind :: bytes) readExt)
            · split
              · exact (read_cons _ _ _).trans (@bind_takeWord 2 length ‹_› (kind :: bytes) readExt)
              · exact (read_cons _ _ _).trans (@bind_takeWord 4 length h (kind :: bytes) readExt)

/-- **What is written is read back**, whatever stands behind it. -/
theorem read_write {value : Value} (h : value.Sized (· < wordCount 4) d) (rest : List UInt8) :
    read d (value.write rest) = some (value, rest) := by
  induction h generalizing rest with
  | nil => exact read_cons _ _ _
  | bool value => cases value <;> exact read_cons _ _ _
  | uint value => rw [write, read_writeUInt]
  | int value => rw [write, read_writeInt]
  | float32 bits =>
    rw [write, writeWord, read_cons]
    show (takeWord 4 _).map _ = _
    rw [takeWord_bigEndian bits.toNat_lt]
    exact congrArg (fun word ↦ some (float32 word, rest)) UInt32.ofNat_toNat
  | float64 bits =>
    rw [write, writeWord, read_cons]
    show (takeWord 8 _).map _ = _
    rw [takeWord_bigEndian bits.toNat_lt]
    exact congrArg (fun word ↦ some (float64 word, rest)) UInt64.ofNat_toNat
  | str size => rw [write, read_writeStrHead size, readBytes_before]
  | bin size => rw [write, read_writeBinHead size, readBytes_before]
  | ext size => rw [write, read_writeExtHead size, readExt, readBytes_before]
  | array length _ ih =>
    rw [write, read_writeArrayHead length, writeItems_eq_foldr, readArray, readMany_foldr ih]
    rfl
  | @map depth entries length _ _ ihkeys ihvalues =>
    have hentry : ∀ entry ∈ entries, ∀ rest,
        readEntry (read depth) (writeEntry entry rest) = some (entry, rest) := by
      intro entry hentry rest
      rw [readEntry, writeEntry, ihkeys entry hentry]
      dsimp only
      rw [ihvalues entry hentry]
    rw [write, read_writeMapHead length, writeEntries_eq_foldr, readMap, readMany_foldr hentry]
    rfl

/-- **No spelling is the beginning of another one**: what is missing of it is missed. -/
theorem read_eq_none_of_append {value : Value} (h : value.Sized (· < wordCount 4) d)
    {front missing : List UInt8} (hspelling : value.bytes = front ++ missing)
    (hmissing : missing ≠ []) : read d front = none := by
  rcases hread : read d front with - | ⟨early, rest⟩
  · rfl
  · have hwhole := read_write h []
    rw [← bytes, hspelling, steady_read d hread missing] at hwhole
    have hnil : rest ++ missing = [] := (Prod.mk.inj (Option.some.inj hwhole)).2
    exact absurd (List.append_eq_nil_iff.1 hnil).2 hmissing

end Value

/-! ### Sizes of what is read -/

/-- Whatever a reader finds has a property. -/
def Yields {α : Type} (P : α → Prop) (reader : List UInt8 → Option (α × List UInt8)) : Prop :=
  ∀ ⦃bytes : List UInt8⦄ ⦃x : α⦄ ⦃rest : List UInt8⦄, reader bytes = some (x, rest) → P x

namespace Yields

variable {α β : Type} {P : α → Prop} {Q : β → Prop} {reader : List UInt8 → Option (α × List UInt8)}

theorem none : Yields P fun _ ↦ Option.none :=
  fun _ _ _ h ↦ nomatch h

theorem map (h : Yields P reader) (f : α → β) (hf : ∀ x, P x → Q (f x)) :
    Yields Q fun bytes ↦ (reader bytes).map fun (x, rest) => (f x, rest) := by
  intro bytes y rest hread
  obtain ⟨⟨x, rest⟩, hx, heq⟩ := Option.map_eq_some_iff.1 hread
  obtain ⟨rfl, rfl⟩ := Prod.mk.inj heq
  exact hf x (h hx)

theorem bind (h : Yields P reader) {next : α → List UInt8 → Option (β × List UInt8)}
    (hnext : ∀ x, P x → Yields Q (next x)) :
    Yields Q fun bytes ↦ (reader bytes).bind fun (x, rest) => next x rest := by
  intro bytes y rest hread
  obtain ⟨⟨x, between⟩, hx, hy⟩ := Option.bind_eq_some_iff.1 hread
  exact hnext x (h hx) hy

theorem takeWord (width : Nat) : Yields (· < wordCount width) (takeWord width) := by
  intro bytes n rest hread
  obtain ⟨word, rfl, rfl, rfl⟩ := exists_of_takeWord_eq_some hread
  exact ofBigEndian_lt word

theorem readBytes {P : Value → Prop} {wrap : ByteArray → Value} {length : Nat}
    (h : ∀ data, data.size = length → P (wrap data)) : Yields P (Value.readBytes wrap length) := by
  intro bytes value rest hread
  obtain ⟨front, rfl, rfl, rfl⟩ := exists_of_readBytes_eq_some hread
  exact h _ List.size_toByteArray

theorem readExt {P : Value → Prop} {length : Nat}
    (h : ∀ kind data, data.size = length → P (.ext kind data)) :
    Yields P (Value.readExt length) := by
  rintro (- | ⟨kind, bytes⟩) value rest hread
  · exact nomatch hread
  · exact readBytes (h kind) hread

theorem readEntry {P : Value → Prop} {reader : List UInt8 → Option (Value × List UInt8)}
    (h : Yields P reader) : Yields (fun entry ↦ P entry.1 ∧ P entry.2) (readEntry reader) := by
  intro bytes entry rest hread
  rw [readEntry_eq] at hread
  exact h.bind (Q := fun entry ↦ P entry.1 ∧ P entry.2)
    (fun key hkey ↦ h.map (Prod.mk key) fun value hvalue ↦ ⟨hkey, hvalue⟩) hread

theorem readMany (h : Yields P reader) (count : Nat) :
    Yields (fun items ↦ items.length = count ∧ ∀ item ∈ items, P item)
      fun bytes ↦ readMany reader count bytes [] := by
  intro bytes items rest hread
  obtain ⟨found, rfl, hlength, hfound⟩ := exists_of_readMany_eq_some hread
  refine ⟨hlength, fun item hitem ↦ ?_⟩
  obtain ⟨bytes, rest, hitem⟩ := hfound item hitem
  exact h hitem

end Yields

theorem wordCount_mono {v w : Nat} (h : v ≤ w) : wordCount v ≤ wordCount w := by
  induction h with
  | refl => exact Nat.le_refl _
  | step _ ih =>
    rw [wordCount]
    omega

/-- A marker announces lengths that fit four bytes, or a word of at most four bytes for them. -/
def Marker.Sized : Marker → Prop
  | done value => value.Sized (· < wordCount 4) 0
  | str length | array length | map length | ext length => length < wordCount 4
  | longStr width | longBin width | longArray width | longMap width | longExt width => width ≤ 4
  | uint _ | int _ | float32 | float64 | reserved => True

theorem Marker.sized_ofByte (byte : UInt8) : (ofByte byte).Sized := by
  have hbyte := byte.toNat_lt
  have h4 : wordCount 4 = 0x100000000 := rfl
  unfold ofByte
  dsimp only
  split
  · exact .uint _
  · split
    · show byte.toNat - 0x80 < wordCount 4
      omega
    · split
      · show byte.toNat - 0x90 < wordCount 4
        omega
      · split
        · show byte.toNat - 0xa0 < wordCount 4
          omega
        · split
          · exact .int _
          · -- what is left are the markers that have a byte of their own
            split <;> first | exact trivial | exact .nil | exact .bool _ | simp [Marker.Sized, h4]

namespace Value

theorem yields_readBehind {d : Nat}
    (harray : ∀ length < wordCount 4, Yields (Sized (· < wordCount 4) d) (readArray d length))
    (hmap : ∀ length < wordCount 4, Yields (Sized (· < wordCount 4) d) (readMap d length))
    {marker : Marker} (h : marker.Sized) :
    Yields (Sized (· < wordCount 4) d) (readBehind d marker) := by
  have hword : ∀ width ≤ 4, Yields (· < wordCount 4) (takeWord width) :=
    fun width hle _ _ _ hread ↦
      Nat.lt_of_lt_of_le (Yields.takeWord width hread) (wordCount_mono hle)
  cases marker with
  | done value =>
    intro bytes x rest hread
    obtain ⟨rfl, rfl⟩ := Prod.mk.inj (Option.some.inj hread)
    exact h.mono (fun _ hn ↦ hn) (Nat.zero_le d)
  | uint width =>
    exact (Yields.takeWord width).map (fun n ↦ uint (UInt64.ofNat n)) fun _ _ ↦ Sized.uint _
  | int width =>
    exact (Yields.takeWord width).map (fun n ↦ int (Int64.ofInt (signed width n)))
      fun _ _ ↦ Sized.int _
  | float32 =>
    exact (Yields.takeWord 4).map (fun n ↦ float32 (UInt32.ofNat n)) fun _ _ ↦ Sized.float32 _
  | float64 =>
    exact (Yields.takeWord 8).map (fun n ↦ float64 (UInt64.ofNat n)) fun _ _ ↦ Sized.float64 _
  | str length => exact Yields.readBytes fun data hsize ↦ .str (hsize ▸ h)
  | longStr width =>
    exact (hword width h).bind fun n hn ↦ Yields.readBytes fun data hsize ↦ .str (hsize ▸ hn)
  | longBin width =>
    exact (hword width h).bind fun n hn ↦ Yields.readBytes fun data hsize ↦ .bin (hsize ▸ hn)
  | array length => exact harray length h
  | longArray width => exact (hword width h).bind harray
  | map length => exact hmap length h
  | longMap width => exact (hword width h).bind hmap
  | ext length => exact Yields.readExt fun kind data hsize ↦ .ext (hsize ▸ h)
  | longExt width =>
    exact (hword width h).bind fun n hn ↦ Yields.readExt fun kind data hsize ↦ .ext (hsize ▸ hn)
  | reserved => exact Yields.none

/-- **Whatever is read has lengths that fit their four bytes.** -/
theorem yields_read (d : Nat) : Yields (Sized (· < wordCount 4) d) (read d) := by
  induction d with
  | zero =>
    rintro (- | ⟨byte, bytes⟩) value rest hread
    · exact nomatch hread
    · rw [read_cons] at hread
      exact yields_readBehind (fun _ _ ↦ Yields.none) (fun _ _ ↦ Yields.none)
        (Marker.sized_ofByte byte) hread
  | succ d ih =>
    rintro (- | ⟨byte, bytes⟩) value rest hread
    · exact nomatch hread
    · rw [read_cons] at hread
      refine yields_readBehind (fun length hlength ↦ ?_) (fun length hlength ↦ ?_)
        (Marker.sized_ofByte byte) hread
      · exact (ih.readMany length).map array fun items hitems ↦
          Sized.array (hitems.1 ▸ hlength) hitems.2
      · exact (ih.readEntry.readMany length).map map fun entries hentries ↦
          Sized.map (hentries.1 ▸ hlength) (fun entry hentry ↦ (hentries.2 entry hentry).1)
            fun entry hentry ↦ (hentries.2 entry hentry).2

end Value

end FileShare.MessagePack
