import FileShare.Wire.Packet

/-!
# Whole packets in a buffer

Where all bytes are in one buffer, packets can be written and read without a cursor.
`Frame.decode` takes the packet at the front and fails if there is none; `Frame.decode?` tells "not
yet" from "never": it has no answer while bytes are missing, and a fault only where more bytes
would not help. `Frame.messages` reads as many packets as are there.
-/

namespace FileShare.Frame

/-- The bytes of the packet that carries a message. -/
def encode (message : Message) : Except FrameError ByteArray :=
  (Packet.ofMessage message).map Packet.bytes

/-- The message in the packet at the front, and how many bytes the packet has. -/
def decode (data : ByteArray) : Except FrameError (Message × Nat) := do
  let header ← Header.ofBytes data
  let total := Header.size + header.length.toNat
  if data.size < total then
    throw (.incomplete total data.size)
  match Message.ofPayload? (data.extract Header.size total) with
  | some message => pure (message, total)
  | none => throw (.malformedPayload "not a message")

/-- As `decode`, but without an answer while bytes are missing. -/
def decode? (data : ByteArray) : Except FrameError (Option (Message × Nat)) := do
  if data.size < Header.size then
    return none
  let header ← Header.ofBytes data
  if data.size < Header.size + header.length.toNat then
    return none
  some <$> decode data

/-- What reading packets from the front of a buffer has found. -/
structure Reading where
  /-- The messages found, in order. -/
  messages : List Message
  /-- The fault that ended the reading, if one did. -/
  fault : Option FrameError
  /-- The bytes of the packets found. -/
  consumed : Nat

/-- Read packets from position `start` on, with a bound on their number. -/
def messagesFrom (data : ByteArray) : Nat → Nat → List Message → Reading
  | 0, start, found => ⟨found.reverse, none, start⟩
  | bound + 1, start, found =>
    match decode? (data.extract start data.size) with
    | .error fault => ⟨found.reverse, some fault, start⟩
    | .ok none => ⟨found.reverse, none, start⟩
    | .ok (some (message, size)) => messagesFrom data bound (start + size) (message :: found)

/-- All messages at the front of a buffer. A packet has at least the bytes of its header, which
bounds their number. -/
def messages (data : ByteArray) : Reading :=
  messagesFrom data (data.size / Header.size + 1) 0 []

/-- So many messages at the front of a buffer, or as many as there are. -/
def firstMessages (data : ByteArray) (count : Nat) : Reading :=
  messagesFrom data count 0 []

end FileShare.Frame
