/-!
# What can be wrong with a packet

Some faults lose the boundaries between packets: after a header that cannot be trusted, nothing
behind it can be found. These are **fatal to the stream** (`FrameError.isStreamFatal`). The others
concern one packet only, or just say that more bytes are needed.
-/

namespace FileShare

/-- A fault in a packet or in the bytes of a stream. -/
inductive FrameError where
  /-- A message could not be written. -/
  | serialization (reason : String)
  /-- A payload is no message. -/
  | malformedPayload (reason : String)
  /-- There are fewer bytes than a header or a whole packet needs. -/
  | incomplete (need available : Nat)
  /-- A payload is longer than any payload may be. -/
  | packetTooLarge (size limit : Nat)
  /-- A header of another version of the format. -/
  | unsupportedVersion (expected got : UInt8)
  /-- A packet was read before its payload had arrived. -/
  | packetIncomplete (received length : Nat)
  deriving DecidableEq, Repr, Inhabited

namespace FrameError

/-- The report of a fault. -/
def message : FrameError → String
  | serialization reason => s!"serialization failed: {reason}"
  | malformedPayload reason => s!"malformed payload: {reason}"
  | incomplete need available => s!"insufficient data: need {need} bytes, have {available}"
  | packetTooLarge size limit => s!"packet too large: {size} bytes exceeds maximum of {limit} bytes"
  | unsupportedVersion expected got =>
    s!"unsupported packet version: expected {expected}, got {got}"
  | packetIncomplete received length =>
    s!"packet incomplete: {received} of {length} payload bytes received"

/-- Whether a fault leaves the rest of the stream unreadable. -/
def isStreamFatal : FrameError → Bool
  | packetTooLarge .. | unsupportedVersion .. => true
  | _ => false

end FrameError

end FileShare
