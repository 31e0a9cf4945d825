import FileShare.Wire.FrameError
import FileShare.Wire.Payload

/-!
# Packets

A packet is a header of sixteen bytes and a payload. The header holds a version, the length of the
payload in four bytes, and eleven bytes that are zero when sent and ignored when received.

`Packet` serves both directions. On receipt it is a buffer that fills up (`Packet.append`); when
sent it is a cursor that moves first through the header and then through the payload
(`Packet.unsent`, `Packet.advance`), so that a short read or a short write picks up where it
stopped. The header is a function of the length alone, which is why a packet does not store it.
-/

namespace FileShare

/-- The header of a packet. -/
structure Header where
  version : UInt8
  /-- The length of the payload. -/
  length : UInt32
  deriving DecidableEq, Repr, Inhabited

namespace Header

/-- The number of bytes in a header. -/
def size : Nat := 16

/-- The version that is written and accepted. -/
def currentVersion : UInt8 := 1

/-- The longest payload: sixteen mebibytes. -/
def maxPayload : Nat := 16 * 1024 * 1024

/-- The header of a payload of a given length. -/
def ofLength (length : UInt32) : Header :=
  ⟨currentVersion, length⟩

/-- The bytes of a header. -/
def bytes (header : Header) : ByteArray :=
  ⟨(header.version :: (bigEndian 4 header.length.toNat ++ List.replicate 11 0)).toArray⟩

@[simp] theorem size_bytes (header : Header) : header.bytes.size = size := by
  simp [bytes, ByteArray.size, size]

/-- Read and check a header; bytes behind it are ignored. -/
def ofBytes (data : ByteArray) : Except FrameError Header :=
  if data.size < size then
    .error (.incomplete size data.size)
  else
    match (data.extract 0 size).data.toList with
    | version :: rest =>
      if version ≠ currentVersion then
        .error (.unsupportedVersion currentVersion version)
      else
        let length := ofBigEndian (rest.take 4)
        if length > maxPayload then
          .error (.packetTooLarge length maxPayload)
        else
          .ok ⟨version, UInt32.ofNat length⟩
    | [] => .error (.incomplete size 0)

end Header

/-- A packet that is being received or sent. -/
structure Packet where
  /-- The length that the header declares. -/
  length : Nat
  /-- The bytes of the payload that are here. -/
  payload : ByteArray
  /-- How much of the header has been sent. -/
  headerSent : Nat
  /-- How much of the payload has been sent. -/
  payloadSent : Nat
  deriving DecidableEq, Inhabited

namespace Packet

/-! ### Making packets -/

/-- The packet that carries a message. -/
def ofMessage (message : Message) : Except FrameError Packet :=
  let payload := message.payload
  if payload.size > Header.maxPayload then
    .error (.packetTooLarge payload.size Header.maxPayload)
  else
    .ok ⟨payload.size, payload, 0, 0⟩

/-- The packet that a header announces, with nothing of its payload received. -/
def ofHeader (data : ByteArray) : Except FrameError Packet :=
  (Header.ofBytes data).map fun header => ⟨header.length.toNat, ByteArray.empty, 0, 0⟩

/-! ### Receiving -/

/-- How much of the payload is here. -/
def received (packet : Packet) : Nat :=
  packet.payload.size

/-- How much of the payload is missing. -/
def remaining (packet : Packet) : Nat :=
  packet.length - packet.received

/-- Whether the whole payload is here. -/
def isComplete (packet : Packet) : Bool :=
  packet.received == packet.length

/-- How many of `count` further bytes a packet takes. -/
def accepts (packet : Packet) (count : Nat) : Nat :=
  min count packet.remaining

/-- Put bytes behind the payload, as many as are missing. -/
def append (packet : Packet) (data : ByteArray) : Packet :=
  { packet with payload := packet.payload ++ data.extract 0 (packet.accepts data.size) }

/-- The packet at the front of some bytes: its header, and of its payload what is there. -/
def ofFront (data : ByteArray) : Except FrameError Packet :=
  (ofHeader data).map fun packet => packet.append (data.extract Header.size data.size)

/-- The message of a complete packet. -/
def message (packet : Packet) : Except FrameError Message :=
  if packet.isComplete then
    match Message.ofPayload? packet.payload with
    | some message => .ok message
    | none => .error (.malformedPayload "not a message")
  else
    .error (.packetIncomplete packet.received packet.length)

/-! ### Sending -/

/-- The header of a packet. -/
def header (packet : Packet) : ByteArray :=
  (Header.ofLength (UInt32.ofNat packet.length)).bytes

/-- The packet as bytes: its header, and of its payload what is here. -/
def bytes (packet : Packet) : ByteArray :=
  packet.header ++ packet.payload

/-- The piece to send next: the rest of the header, and after that the rest of the payload. -/
def unsent (packet : Packet) : ByteArray :=
  if packet.headerSent < Header.size then
    packet.header.extract packet.headerSent Header.size
  else
    packet.payload.extract packet.payloadSent packet.payload.size

/-- Note that `count` bytes of the next piece have been sent. -/
def advance (packet : Packet) (count : Nat) : Packet :=
  if packet.headerSent < Header.size then
    { packet with headerSent := min (packet.headerSent + count) Header.size }
  else
    { packet with payloadSent := min (packet.payloadSent + count) packet.payload.size }

/-- How many of its two pieces a packet still has to send. -/
def piecesLeft (packet : Packet) : Nat :=
  (if packet.headerSent < Header.size then 1 else 0) +
    (if packet.payloadSent < packet.payload.size then 1 else 0)

theorem piecesLeft_le (packet : Packet) : packet.piecesLeft ≤ 2 := by
  unfold piecesLeft
  split <;> split <;> omega

theorem size_header (packet : Packet) : packet.header.size = Header.size :=
  Header.size_bytes _

/-- **Sending a whole piece leaves one piece less.** -/
theorem piecesLeft_advance_lt (packet : Packet) {count : Nat} (pos : packet.unsent.size ≠ 0)
    (h : packet.unsent.size ≤ count) : (packet.advance count).piecesLeft < packet.piecesLeft := by
  unfold unsent at pos h
  unfold advance
  split
  · rename_i inHeader
    simp only [inHeader, if_true, ByteArray.size_extract, size_header, Nat.min_self] at pos h
    have : ¬ min (packet.headerSent + count) Header.size < Header.size := by omega
    simp only [piecesLeft, inHeader, this, if_true, if_false]
    omega
  · rename_i inPayload
    simp only [inPayload, if_false, ByteArray.size_extract, Nat.min_self] at pos h
    have : ¬ min (packet.payloadSent + count) packet.payload.size < packet.payload.size := by omega
    have : packet.payloadSent < packet.payload.size := by omega
    simp only [piecesLeft, inPayload, if_false]
    split <;> omega

/-- Whether everything has been sent. -/
def isSent (packet : Packet) : Bool :=
  packet.headerSent == Header.size && packet.payloadSent == packet.payload.size

end Packet

end FileShare
