import FileShare.Wire.Packet

/-!
# The cursor of a packet that is being sent

A packet remembers how far it has been sent, first through its header and then through its payload.
Seen from the other side there is one string of bytes, `Packet.bytes`, and one place in it:
`Packet.left` is what lies behind that place. The piece that a packet offers next is at the front of
what is left, and to note that bytes of the piece were sent is to drop them from what is left
(`Packet.Cursor.take_unsent_append_left`), whether the piece ends there, in the header or in the
payload.

The one thing that could go wrong is a cursor that has entered the payload before the header was
through. `Packet.Cursor` excludes it, and every advance keeps it so. A packet then has been sent
when it offers no next piece (`Packet.Cursor.isSent_iff`), and that is when nothing is left of it
(`Packet.Cursor.size_unsent_eq_zero_iff`).
-/

namespace FileShare

namespace Packet

/-- The cursor has not moved yet. -/
def IsUnsent (packet : Packet) : Prop :=
  packet.headerSent = 0 ∧ packet.payloadSent = 0

/-- The cursor stands inside the packet, and reaches the payload only through the header. -/
structure Cursor (packet : Packet) : Prop where
  header_le : packet.headerSent ≤ Header.size
  payload_le : packet.payloadSent ≤ packet.payload.size
  header_first : packet.headerSent < Header.size → packet.payloadSent = 0

/-- What has not been sent of a packet. -/
def left (packet : Packet) : List UInt8 :=
  packet.bytes.data.toList.drop (packet.headerSent + packet.payloadSent)

variable {packet : Packet}

theorem IsUnsent.cursor (h : packet.IsUnsent) : packet.Cursor where
  header_le := by rw [h.1]; exact Nat.zero_le _
  payload_le := by rw [h.2]; exact Nat.zero_le _
  header_first := fun _ ↦ h.2

theorem IsUnsent.left_eq (h : packet.IsUnsent) : packet.left = packet.bytes.data.toList := by
  rw [left, h.1, h.2, List.drop_zero]

theorem length_header (packet : Packet) : packet.header.data.toList.length = Header.size := by
  rw [Array.length_toList]
  exact packet.size_header

theorem toList_bytes (packet : Packet) :
    packet.bytes.data.toList = packet.header.data.toList ++ packet.payload.data.toList := by
  rw [bytes, ByteArray.data_append, Array.toList_append]

/-- A byte of the payload goes out only when the header is through. -/
theorem Cursor.headerSent_eq (h : packet.Cursor) (hpos : 0 < packet.payloadSent) :
    packet.headerSent = Header.size := by
  refine Nat.le_antisymm h.header_le (Nat.not_lt.1 fun hlt ↦ ?_)
  rw [h.header_first hlt] at hpos
  exact Nat.lt_irrefl 0 hpos

/-- Inside the header, the rest of it and the whole payload are left. -/
theorem Cursor.left_of_lt (h : packet.Cursor) (hlt : packet.headerSent < Header.size) :
    packet.left =
      packet.header.data.toList.drop packet.headerSent ++ packet.payload.data.toList := by
  rw [left, h.header_first hlt, Nat.add_zero, toList_bytes, List.drop_append_of_le_length]
  rw [length_header]
  exact h.header_le

/-- Behind the header, the rest of the payload is left. -/
theorem Cursor.left_of_not_lt (h : packet.Cursor) (hge : ¬ packet.headerSent < Header.size) :
    packet.left = packet.payload.data.toList.drop packet.payloadSent := by
  have hthrough : packet.headerSent = Header.size :=
    Nat.le_antisymm h.header_le (Nat.not_lt.1 hge)
  rw [left, hthrough, toList_bytes, ← List.drop_drop,
    List.drop_left' packet.length_header]

/-! ### To advance -/

@[simp] theorem length_advance (packet : Packet) (count : Nat) :
    (packet.advance count).length = packet.length := by
  rw [Packet.advance]
  split <;> rfl

@[simp] theorem payload_advance (packet : Packet) (count : Nat) :
    (packet.advance count).payload = packet.payload := by
  rw [Packet.advance]
  split <;> rfl

/-- To advance changes nothing of what is sent. -/
theorem bytes_advance (packet : Packet) (count : Nat) :
    (packet.advance count).bytes = packet.bytes := by
  simp only [bytes, header, length_advance, payload_advance]

/-- **A cursor stays a cursor.** -/
theorem Cursor.advance (h : packet.Cursor) (count : Nat) : (packet.advance count).Cursor := by
  rw [Packet.advance]
  split
  · rename_i hlt
    refine ⟨Nat.min_le_right _ _, ?_, fun _ ↦ h.header_first hlt⟩
    exact h.payload_le
  · rename_i hge
    exact ⟨h.header_le, Nat.min_le_right _ _, fun hlt ↦ absurd hlt hge⟩

/-! ### What is sent next -/

/-- When the next piece is empty, nothing is left. -/
theorem Cursor.left_eq_nil (h : packet.Cursor) (hempty : packet.unsent.size = 0) :
    packet.left = [] := by
  rw [unsent] at hempty
  split at hempty
  · rename_i hlt
    rw [ByteArray.size_extract, size_header] at hempty
    omega
  · rename_i hge
    rw [ByteArray.size_extract] at hempty
    rw [h.left_of_not_lt hge]
    refine List.drop_eq_nil_of_le ?_
    rw [Array.length_toList]
    show packet.payload.size ≤ packet.payloadSent
    omega

/-- Skipping past the end is skipping everything. -/
theorem drop_min_length {bytes : List UInt8} {size : Nat} (h : bytes.length = size) (n : Nat) :
    bytes.drop (min n size) = bytes.drop n := by
  rcases Nat.le_total n size with hle | hle
  · rw [Nat.min_eq_left hle]
  · rw [Nat.min_eq_right hle, List.drop_eq_nil_of_le (Nat.le_of_eq h),
      List.drop_eq_nil_of_le (h ▸ hle)]

theorem toList_extract_of_size_eq {bytes : ByteArray} {size : Nat}
    (h : bytes.data.toList.length = size) (n : Nat) :
    (bytes.extract n size).data.toList = bytes.data.toList.drop n := by
  have hle : (bytes.data.toList.drop n).length ≤ size - n := by
    rw [List.length_drop]
    exact Nat.sub_le_sub_right (Nat.le_of_eq h) n
  rw [ByteArray.data_extract, Array.toList_extract, List.extract_eq_take_drop,
    List.take_of_length_le hle]

/-- **Bytes of the next piece are the bytes at the front of what is left**, and to note them is to
drop them. A count beyond the piece counts as the whole piece. -/
theorem Cursor.take_unsent_append_left (h : packet.Cursor) (count : Nat) :
    packet.unsent.data.toList.take count ++ (packet.advance count).left = packet.left := by
  have hlength := packet.length_header
  by_cases hlt : packet.headerSent < Header.size
  · have hunsent : packet.unsent.data.toList =
        packet.header.data.toList.drop packet.headerSent := by
      rw [unsent, if_pos hlt, toList_extract_of_size_eq hlength]
    have hadvance : packet.advance count =
        { packet with headerSent := min (packet.headerSent + count) Header.size } := by
      rw [Packet.advance, if_pos hlt]
    have hleft : (packet.advance count).left =
        (packet.header.data.toList.drop packet.headerSent).drop count ++
          packet.payload.data.toList := by
      rw [hadvance, left, h.header_first hlt, Nat.add_zero, toList_bytes]
      show (packet.header.data.toList ++ _).drop (min (packet.headerSent + count) Header.size) = _
      rw [List.drop_append_of_le_length (by rw [hlength]; omega), drop_min_length hlength,
        List.drop_drop]
    rw [hunsent, hleft, h.left_of_lt hlt, ← List.append_assoc, List.take_append_drop]
  · have hsize : packet.payload.data.toList.length = packet.payload.size := Array.length_toList
    have hunsent : packet.unsent.data.toList =
        packet.payload.data.toList.drop packet.payloadSent := by
      rw [unsent, if_neg hlt, toList_extract_of_size_eq hsize]
    have hadvance : packet.advance count =
        { packet with payloadSent := min (packet.payloadSent + count) packet.payload.size } := by
      rw [Packet.advance, if_neg hlt]
    have hleft : (packet.advance count).left =
        (packet.payload.data.toList.drop packet.payloadSent).drop count := by
      rw [(h.advance count).left_of_not_lt (by rw [hadvance]; exact hlt), hadvance, List.drop_drop]
      exact drop_min_length hsize _
    rw [hunsent, hleft, h.left_of_not_lt hlt, List.take_append_drop]

/-- **The next piece is empty only at the end**: there is always a piece to send while anything is
left. -/
theorem Cursor.size_unsent_eq_zero_iff (h : packet.Cursor) :
    packet.unsent.size = 0 ↔ packet.left = [] := by
  refine ⟨h.left_eq_nil, fun hnil ↦ ?_⟩
  have hpiece := h.take_unsent_append_left packet.unsent.data.toList.length
  rw [List.take_length, hnil] at hpiece
  have hlength := congrArg List.length (List.append_eq_nil_iff.1 hpiece).1
  rwa [Array.length_toList] at hlength

/-- A packet knows when it has been sent. -/
theorem Cursor.isSent_iff (h : packet.Cursor) : packet.isSent = true ↔ packet.unsent.size = 0 := by
  have hheader := h.header_le
  have hpayload := h.payload_le
  simp only [isSent, Bool.and_eq_true, beq_iff_eq, unsent]
  split
  · rw [ByteArray.size_extract, size_header]
    omega
  · rw [ByteArray.size_extract]
    omega

end Packet

end FileShare
