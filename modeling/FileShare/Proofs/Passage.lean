import FileShare.Proofs.Cursor
import FileShare.Proofs.PayloadReading

/-!
# Packets that fill up and are sent

One structure serves as the buffer of a packet that arrives and as the cursor of a packet that
leaves, and nothing keeps the two uses apart: bytes may be appended while a part of the packet has
been sent, even a part of its header. A **passage** is a packet together with all bytes that have
been offered to it and all that it has handed out, and the question is what these three have to do
with each other after any mixture of appends and advances.

The answer is an account (`Passage.Sound`) with one line for each side:

* the payload is the front of what the packet began with and of what was offered, cut off at the
  declared length;
* what was handed out and what is left of the packet are together its bytes.

The two sides meet in one place only. To append makes the bytes of the packet longer at their end,
and since the cursor stands inside them, it makes what is left longer by the same bytes
(`Packet.Cursor.left_append`). So the second line is kept wherever the cursor stands.

A packet may be sent before it is complete; it is then sent *so far*, and no longer sent when more
arrives. Nothing here says that a packet is complete when it leaves.
-/

namespace FileShare

/-- A header that is accepted declares no more than a payload may have. -/
theorem Header.length_le_of_ofBytes {data : ByteArray} {header : Header}
    (h : ofBytes data = .ok header) : header.length.toNat ≤ maxPayload := by
  rw [ofBytes] at h
  -- of the ways through a header, all but the one behind every check end in a fault
  split at h
  · cases h
  · split at h
    · split at h
      · cases h
      · dsimp only at h
        split at h
        · cases h
        · rename_i hle
          rw [← Except.ok.inj h, toNat_ofLength (Nat.not_lt.1 hle)]
          exact Nat.not_lt.1 hle
    · cases h

namespace Packet

variable {packet : Packet}

/-! ### New packets -/

/-- What a packet is made of. -/
inductive Origin where
  /-- A message that is to be sent. -/
  | outbound (message : Message)
  /-- A header behind which a payload is to arrive. -/
  | inbound (header : ByteArray)

/-- Make a packet. -/
def Origin.make : Origin → Except FrameError Packet
  | .outbound message => ofMessage message
  | .inbound header => ofHeader header

/-- What the payload of a packet of some length is when some bytes have been offered to it. A
message is all there from the beginning; behind a header it is the front of what was offered. -/
def Origin.payload (length : Nat) (offered : List UInt8) : Origin → List UInt8
  | .outbound message => message.payload.data.toList
  | .inbound _ => offered.take length

theorem ofHeader_eq_ok {data : ByteArray} (h : ofHeader data = .ok packet) :
    packet.length ≤ Header.maxPayload ∧ packet.payload = ByteArray.empty ∧ packet.IsUnsent := by
  rw [ofHeader] at h
  rcases hheader : Header.ofBytes data with fault | header
  · rw [hheader] at h
    cases h
  · rw [hheader] at h
    obtain rfl := Except.ok.inj h
    exact ⟨Header.length_le_of_ofBytes hheader, rfl, rfl, rfl⟩

/-- **A new packet** holds no more than it may, and nothing of it has been sent. -/
theorem Origin.make_eq_ok {origin : Origin} (h : origin.make = .ok packet) :
    packet.length ≤ Header.maxPayload ∧ packet.received ≤ packet.length ∧ packet.IsUnsent := by
  cases origin with
  | outbound message =>
    obtain ⟨hle, rfl⟩ := ofMessage_eq_ok h
    exact ⟨hle, Nat.le_refl _, rfl, rfl⟩
  | inbound header =>
    obtain ⟨hle, hempty, hunsent⟩ := ofHeader_eq_ok h
    refine ⟨hle, ?_, hunsent⟩
    rw [received, hempty]
    exact Nat.zero_le _

/-! ### To fill a packet -/

/-- The bytes that are taken come behind those that are there. -/
theorem toList_payload_append (packet : Packet) (data : ByteArray) :
    (packet.append data).payload.data.toList =
      packet.payload.data.toList ++ data.data.toList.take (packet.accepts data.size) := by
  rw [append, ByteArray.data_append, Array.toList_append, ByteArray.data_extract,
    Array.toList_extract, List.extract_eq_take_drop, List.drop_zero, Nat.sub_zero]

/-- The packet holds as many bytes more as it has taken. -/
theorem received_append (packet : Packet) (data : ByteArray) :
    (packet.append data).received = packet.received + packet.accepts data.size := by
  have hle : packet.accepts data.size ≤ data.size := Nat.min_le_left _ _
  rw [received, append, ByteArray.size_append, ByteArray.size_extract, received]
  omega

/-- The header is sent as before, and the bytes that are taken come behind all others. -/
theorem toList_bytes_append (packet : Packet) (data : ByteArray) :
    (packet.append data).bytes.data.toList =
      packet.bytes.data.toList ++ data.data.toList.take (packet.accepts data.size) := by
  rw [toList_bytes, toList_bytes, toList_payload_append, List.append_assoc]
  rfl

/-- A cursor stays inside a packet that grows. -/
theorem Cursor.append (h : packet.Cursor) (data : ByteArray) : (packet.append data).Cursor where
  header_le := h.header_le
  payload_le := by
    have hgrown := packet.received_append data
    have hle := h.payload_le
    rw [received, received] at hgrown
    show packet.payloadSent ≤ (packet.append data).payload.size
    omega
  header_first := h.header_first

/-- **What is left grows by the bytes that are taken**, wherever the cursor stands. -/
theorem Cursor.left_append (h : packet.Cursor) (data : ByteArray) :
    (packet.append data).left =
      packet.left ++ data.data.toList.take (packet.accepts data.size) := by
  have hinside : packet.headerSent + packet.payloadSent ≤ packet.bytes.data.toList.length := by
    rw [toList_bytes, List.length_append, length_header, Array.length_toList]
    exact Nat.add_le_add h.header_le h.payload_le
  rw [left, toList_bytes_append]
  exact List.drop_append_of_le_length hinside

end Packet

/-! ### Passages -/

/-- **A packet in use**, with all that went in and all that came out. -/
structure Passage where
  packet : Packet
  /-- The bytes that have been offered to the packet, whether or not it took them. -/
  offered : List UInt8
  /-- The bytes that the packet has handed out. -/
  handedOut : List UInt8

namespace Passage

/-- What can be done with a packet. -/
inductive Event where
  /-- Bytes are offered to it. -/
  | append (data : ByteArray)
  /-- So many bytes of its next piece are sent. A count beyond the piece is the whole piece. -/
  | advance (count : Nat)

/-- A packet that has just been made. -/
def start (packet : Packet) : Passage :=
  ⟨packet, [], []⟩

/-- What an event does. -/
def step (m : Passage) : Event → Passage
  | .append data =>
    { m with packet := m.packet.append data, offered := m.offered ++ data.data.toList }
  | .advance count =>
    { m with
      packet := m.packet.advance count
      handedOut := m.handedOut ++ m.packet.unsent.data.toList.take count }

/-- What a series of events does. -/
def run (m : Passage) (events : List Event) : Passage := events.foldl step m

/-- What holds of a passage at any moment, by the packet that was made. -/
structure Sound (made : Packet) (m : Passage) : Prop where
  length : m.packet.length = made.length
  cursor : m.packet.Cursor
  payload : m.packet.payload.data.toList =
    (made.payload.data.toList ++ m.offered).take made.length
  /-- **The account is balanced.** -/
  balance : m.handedOut ++ m.packet.left = m.packet.bytes.data.toList

variable {made : Packet} {m : Passage}

theorem sound_start (hfits : made.received ≤ made.length) (hunsent : made.IsUnsent) :
    (start made).Sound made where
  length := rfl
  cursor := hunsent.cursor
  payload := by
    show made.payload.data.toList = (made.payload.data.toList ++ []).take made.length
    rw [List.append_nil, List.take_of_length_le]
    exact hfits
  balance := hunsent.left_eq

namespace Sound

/-- The packet holds no more than it declares. -/
theorem received_le (h : m.Sound made) : m.packet.received ≤ m.packet.length := by
  have hlength := congrArg List.length h.payload
  rw [Array.length_toList, List.length_take] at hlength
  rw [h.length, Packet.received, ← ByteArray.size_data, hlength]
  exact Nat.min_le_left _ _

/-- **What is offered is taken until the packet is full**, and its end is not looked at. -/
theorem append (h : m.Sound made) (data : ByteArray) : (m.step (.append data)).Sound made where
  length := h.length
  cursor := h.cursor.append data
  payload := by
    have hreceived := congrArg List.length h.payload
    rw [Array.length_toList, List.length_take, ByteArray.size_data] at hreceived
    -- room is counted by what the packet holds, and the account by all that was ever offered
    have hroom : data.data.toList.take (m.packet.accepts data.size) =
        data.data.toList.take
          (made.length - (made.payload.data.toList ++ m.offered).length) := by
      rw [List.take_eq_take_iff, Packet.accepts, Packet.remaining, Packet.received, h.length,
        Array.length_toList, ByteArray.size_data]
      omega
    show (m.packet.append data).payload.data.toList =
      (made.payload.data.toList ++ (m.offered ++ data.data.toList)).take made.length
    rw [Packet.toList_payload_append, h.payload, hroom, ← List.append_assoc, ← List.take_append]
  balance := by
    show m.handedOut ++ (m.packet.append data).left = (m.packet.append data).bytes.data.toList
    rw [h.cursor.left_append, Packet.toList_bytes_append, ← List.append_assoc, h.balance]

/-- **What is sent** leaves what is left and enters what was handed out. -/
theorem advance (h : m.Sound made) (count : Nat) : (m.step (.advance count)).Sound made where
  length := (m.packet.length_advance count).trans h.length
  cursor := h.cursor.advance count
  payload := by
    show (m.packet.advance count).payload.data.toList = _
    rw [Packet.payload_advance]
    exact h.payload
  balance := by
    show m.handedOut ++ m.packet.unsent.data.toList.take count ++ (m.packet.advance count).left =
      (m.packet.advance count).bytes.data.toList
    rw [List.append_assoc, h.cursor.take_unsent_append_left, Packet.bytes_advance, h.balance]

/-- **Each event keeps the account.** -/
theorem step (h : m.Sound made) (event : Event) : (m.step event).Sound made := by
  cases event with
  | append data => exact h.append data
  | advance count => exact h.advance count

/-- **And so does a run.** -/
theorem run (h : m.Sound made) (events : List Event) : (m.run events).Sound made := by
  induction events generalizing m with
  | nil => exact h
  | cons event events ih => exact ih (h.step event)

/-- What was handed out is what lies before the cursor. -/
theorem handedOut_eq (h : m.Sound made) :
    m.handedOut =
      m.packet.bytes.data.toList.take (m.packet.headerSent + m.packet.payloadSent) := by
  have hsplit : m.packet.bytes.data.toList.take (m.packet.headerSent + m.packet.payloadSent) ++
      m.packet.left = m.packet.bytes.data.toList := List.take_append_drop _ _
  exact List.append_cancel_right (h.balance.trans hsplit.symm)

/-- Nothing is left when all has been handed out. -/
theorem left_eq_nil_iff (h : m.Sound made) :
    m.packet.left = [] ↔ m.handedOut = m.packet.bytes.data.toList := by
  rw [← h.balance]
  exact List.self_eq_append_right.symm

/-- The payload, by what the packet was made of. -/
theorem payload_eq {origin : Packet.Origin} (h : m.Sound made) (hmade : origin.make = .ok made) :
    m.packet.payload.data.toList = origin.payload m.packet.length m.offered := by
  have hpayload := h.payload
  cases origin with
  | outbound message =>
    obtain ⟨-, rfl⟩ := Packet.ofMessage_eq_ok hmade
    exact hpayload.trans (List.take_left' Array.length_toList)
  | inbound header =>
    rw [(Packet.ofHeader_eq_ok hmade).2.1] at hpayload
    rw [h.length]
    exact hpayload

end Sound

/-- **A packet is filled and sent in order.** Whatever it is made of, and whatever is offered to it
and sent of it in between:

* it holds no more than it declares, which is what it declared when it was made, and no more than
  any payload may have; so what is held and what is missing are together what is declared;
* of any bytes that are offered next, it takes as many as are missing, from their front;
* its payload is that of the message it was made of, or the front of what was offered;
* the cursor stands inside it, and in its payload only when the header is through;
* what was handed out is what lies before the cursor;
* it is sent exactly when there is no next piece, and exactly when all its bytes are handed out.

Nothing is asked of the counts that are sent: one beyond the next piece is the whole piece. -/
theorem filled_and_sent_in_order {origin : Packet.Origin} {made : Packet}
    (hmade : origin.make = .ok made) (events : List Event) :
    let m := (start made).run events
    let packet := m.packet
    (packet.received ≤ packet.length ∧ packet.length = made.length ∧
      packet.length ≤ Header.maxPayload ∧ packet.received + packet.remaining = packet.length) ∧
    (∀ data, packet.accepts data.size = min data.size packet.remaining ∧
      (packet.append data).received = packet.received + packet.accepts data.size ∧
      (packet.append data).payload.data.toList =
        packet.payload.data.toList ++ data.data.toList.take (packet.accepts data.size)) ∧
    packet.payload.data.toList = origin.payload packet.length m.offered ∧
    (packet.headerSent ≤ Header.size ∧ packet.payloadSent ≤ packet.received ∧
      (0 < packet.payloadSent → packet.headerSent = Header.size)) ∧
    m.handedOut = packet.bytes.data.toList.take (packet.headerSent + packet.payloadSent) ∧
    (packet.isSent = true ↔ packet.unsent.size = 0) ∧
    (packet.unsent.size = 0 ↔ m.handedOut = packet.bytes.data.toList) := by
  intro m packet
  obtain ⟨hlimit, hfits, hunsent⟩ := Packet.Origin.make_eq_ok hmade
  have h : m.Sound made := (sound_start hfits hunsent).run events
  have hcursor : packet.Cursor := h.cursor
  refine ⟨⟨h.received_le, h.length, h.length ▸ hlimit, Nat.add_sub_cancel' h.received_le⟩,
    fun data ↦ ⟨rfl, packet.received_append data, packet.toList_payload_append data⟩,
    h.payload_eq hmade, ⟨hcursor.header_le, hcursor.payload_le, hcursor.headerSent_eq⟩,
    h.handedOut_eq, hcursor.isSent_iff, ?_⟩
  exact hcursor.size_unsent_eq_zero_iff.trans h.left_eq_nil_iff

/-- A packet of three bytes, the first of which comes while the header is being sent. It is sent so
far when the other two come, with one byte too many behind them, and they are sent after it. -/
theorem filled_and_sent_in_order_late :
    let origin := Packet.Origin.inbound (Header.ofLength 3).bytes
    let made : Packet := ⟨3, ByteArray.empty, 0, 0⟩
    let events : List Event := [.advance 10, .append [97].toByteArray, .advance 6, .advance 1,
      .append [98, 99, 100].toByteArray, .advance 2]
    let m := (start made).run events
    origin.make = .ok made ∧ m.packet.payload.data.toList = [97, 98, 99] ∧
      m.handedOut = (Header.ofLength 3).bytes.data.toList ++ [97, 98, 99] := by
  intro origin made events m
  have hmade : origin.make = .ok made := by decide +kernel
  have hsent : m.packet.isSent = true := by decide +kernel
  have hbytes : m.packet.bytes.data.toList =
      (Header.ofLength 3).bytes.data.toList ++ [97, 98, 99] := by decide +kernel
  obtain ⟨-, -, hpayload, -, -, hempty, hall⟩ := filled_and_sent_in_order hmade events
  exact ⟨hmade, hpayload, (hall.1 (hempty.1 hsent)).trans hbytes⟩

end Passage

end FileShare
