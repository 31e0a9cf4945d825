import FileShare.Wire.Message

/-!
# Bytes that travel in pieces

A transfer carries bytes in pieces, with one message behind the last of them (`Carrier`). Whoever
sends them queues the piece that follows on what has been queued, or the end when that was all
(`Emits`). So the messages that are under way continue each other (`Stream`): each begins where the
one before it ends, and the end message stands behind the whole.

This is what makes a count of bytes enough to say how far a transfer has come, on either side of it.
-/

namespace FileShare

/-- The messages of a transfer: one that carries a piece, and the one behind the last piece. -/
structure Carrier where
  piece : ByteArray → Message
  ending : Message

variable {carrier : Carrier} {whole : Prop} {bytes : ByteArray}

/-- A piece of a file that is as long as it is. -/
theorem extract_of_size {bytes : ByteArray} {start : Nat} (count : Nat)
    (hle : start ≤ bytes.size) :
    bytes.extract start (start + count) =
        bytes.extract start (start + (bytes.extract start (start + count)).size) ∧
      start + (bytes.extract start (start + count)).size ≤ bytes.size := by
  rw [ByteArray.size_extract]
  have hend : start + (min (start + count) bytes.size - start) =
      min (start + count) bytes.size := by omega
  rw [hend]
  refine ⟨?_, Nat.min_le_right _ _⟩
  rcases Nat.le_total (start + count) bytes.size with h | h
  · rw [Nat.min_eq_left h]
  · rw [Nat.min_eq_right h]
    apply ByteArray.ext
    rw [ByteArray.data_extract, ByteArray.data_extract, Array.extract_eq_extract_right]
    simp only [ByteArray.size_data]
    omega

/-- **What is queued in one step**, by the number of bytes that have been queued, and whether the
end message has: nothing, the piece that follows, or the end message behind the whole. That there is
a whole may be a condition. -/
inductive Emits (carrier : Carrier) (whole : Prop) (bytes : ByteArray) :
    Nat → Bool → Nat → Bool → List Message → Prop where
  | nothing (count : Nat) (done : Bool) : Emits carrier whole bytes count done count done []
  | piece {count : Nat} {data : ByteArray}
      (hdata : data = bytes.extract count (count + data.size))
      (hle : count + data.size ≤ bytes.size) :
      Emits carrier whole bytes count false (count + data.size) false [carrier.piece data]
  | ending (hwhole : whole) :
      Emits carrier whole bytes bytes.size false bytes.size true [carrier.ending]

/-- **Messages that continue some bytes** from one place on up to another, perhaps with the end
message behind the whole of them. -/
inductive Stream (carrier : Carrier) (whole : Prop) (bytes : ByteArray) :
    Nat → Nat → Bool → List Message → Prop where
  | nil (count : Nat) : Stream carrier whole bytes count count false []
  | ending (hwhole : whole) :
      Stream carrier whole bytes bytes.size bytes.size true [carrier.ending]
  | piece {count count' : Nat} {done : Bool} {data : ByteArray} {messages : List Message}
      (hdata : data = bytes.extract count (count + data.size))
      (hle : count + data.size ≤ bytes.size)
      (h : Stream carrier whole bytes (count + data.size) count' done messages) :
      Stream carrier whole bytes count count' done (carrier.piece data :: messages)

variable {count count' count'' : Nat} {done done' : Bool} {messages more rest : List Message}
variable {message : Message} {P : Message → Prop}

theorem Emits.forall_mem (h : Emits carrier whole bytes count done count' done' messages)
    (hpiece : ∀ data, P (carrier.piece data)) (hending : P carrier.ending) :
    ∀ message ∈ messages, P message := by
  cases h with
  | nothing => simp
  | piece => simpa using hpiece _
  | ending => simpa using hending

theorem Stream.forall_mem (h : Stream carrier whole bytes count count' done messages)
    (hpiece : ∀ data, P (carrier.piece data)) (hending : P carrier.ending) :
    ∀ message ∈ messages, P message := by
  induction h with
  | nil => simp
  | ending => simpa using hending
  | piece _ _ _ ih => simpa using ⟨hpiece _, ih⟩

/-- **What is emitted continues what is under way.** -/
theorem Stream.append (h : Stream carrier whole bytes count count' done messages)
    (hemits : Emits carrier whole bytes count' done count'' done' more) :
    Stream carrier whole bytes count count'' done' (messages ++ more) := by
  induction h with
  | nil count =>
    cases hemits with
    | nothing => exact .nil _
    | piece hdata hle => exact .piece hdata hle (.nil _)
    | ending hwhole => exact .ending hwhole
  | ending hwhole =>
    -- nothing comes after the end message
    cases hemits with
    | nothing => exact .ending hwhole
  | piece hdata hle _ ih => exact .piece hdata hle (ih hemits)

/-- **The next message of a stream**: a piece, or the end message. -/
theorem Stream.uncons (h : Stream carrier whole bytes count count' done (message :: rest)) :
    (∃ data, message = carrier.piece data ∧ data = bytes.extract count (count + data.size) ∧
        Stream carrier whole bytes (count + data.size) count' done rest) ∨
      message = carrier.ending ∧ rest = [] ∧ whole ∧ count = bytes.size ∧
        count' = bytes.size ∧ done = true := by
  cases h with
  | piece hdata hle hrest => exact .inl ⟨_, rfl, hdata, hrest⟩
  | ending hwhole => exact .inr ⟨rfl, rfl, hwhole, rfl, rfl, rfl⟩

/-- A piece that follows on the front of some bytes makes a longer front. -/
theorem append_extract {written data : ByteArray}
    (hwritten : written = bytes.extract 0 written.size)
    (hdata : data = bytes.extract written.size (written.size + data.size)) :
    written ++ data = bytes.extract 0 (written ++ data).size := by
  calc written ++ data
      = bytes.extract 0 written.size ++
          bytes.extract written.size (written.size + data.size) := by rw [← hwritten, ← hdata]
    _ = bytes.extract 0 (written ++ data).size := by
      rw [ByteArray.extract_append_extract, Nat.zero_min, Nat.max_eq_right (by omega),
        ByteArray.size_append]

end FileShare
