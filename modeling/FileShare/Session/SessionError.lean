import FileShare.Host.IoError
import FileShare.Wire.Command
import FileShare.Wire.FrameError

/-!
# Failures of a session

A session fails when its stream does, when the bytes of the stream make no packets, or when it is
used before it has a stream. `SessionError.ofStream` sorts the failures of a stream: one that only
asks to wait is no failure, and the ways in which a peer goes away have names of their own.
-/

namespace FileShare

/-- A failure of a session. -/
inductive SessionError where
  /-- No progress until the stream is ready again. -/
  | tryAgain
  /-- The peer has closed the connection. -/
  | closed
  /-- The peer has reset the connection. -/
  | reset
  /-- Any other failure of the stream. -/
  | io (error : IoError)
  /-- The bytes of the stream make no packets. -/
  | frame (fault : FrameError)
  /-- The session has no stream. -/
  | notInitialised
  /-- The first message of a connection opens no exchange. -/
  | noExchange (code : Int32)
  deriving DecidableEq, Repr, Inhabited

namespace SessionError

/-- The failure of a session that a failure of its stream is. -/
def ofStream (error : IoError) : SessionError :=
  match error.kind? with
  | some .wouldBlock => tryAgain
  | some .connectionReset | some .brokenPipe => reset
  | some .unexpectedEof => closed
  | _ => io error

/-- The report of a failure. -/
def message : SessionError → String
  | tryAgain => "operation would block"
  | closed => "connection closed by peer"
  | reset => "connection reset by peer"
  | io error => s!"transport I/O error: {error.message}"
  | frame fault => s!"protocol error: {fault.message}"
  | notInitialised => "session not initialised"
  | noExchange code => s!"cannot start a processor for {commandName code}"

/-- Whether a failure ends the connection. -/
def isFatal : SessionError → Bool
  | tryAgain | noExchange _ => false
  | _ => true

end SessionError

end FileShare
