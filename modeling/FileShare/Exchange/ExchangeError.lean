import FileShare.Session.SessionError
import FileShare.Share.ShareError
import FileShare.Text.Quoted
import FileShare.Wire.Message

/-!
# Failures of a step of an exchange

One message of an exchange is handled in one step, and the step may fail. `ExchangeError` holds the
causes. Each has a report for people, and a status that tells the other side: failures of the share
and of local files keep the error number of the system, all others have a code of the connector.
-/

namespace FileShare

/-- Why a message could not be handled. -/
inductive ExchangeError where
  /-- The message belongs to another exchange. -/
  | foreignId (expected got : String)
  /-- The code of the message has no place here. -/
  | unexpectedCommand (code : Int32)
  /-- The body of the message is not the one its command needs. -/
  | missingBody (command : Command)
  | invalidParameter (what : String)
  /-- The peer has reported a failure. -/
  | remote (command : Command) (status : Status)
  | share (error : ShareError)
  | session (error : SessionError)
  | frame (fault : FrameError)
  /-- A local file could not be read or written. -/
  | io (error : IoError)
  deriving DecidableEq, Repr, Inhabited

namespace ExchangeError

/-- The report of a failure. -/
def message : ExchangeError → String
  | foreignId expected got =>
    s!"request id mismatch: expected {quoted expected}, got {quoted got}"
  | unexpectedCommand code => s!"unexpected command {commandName code}"
  | missingBody command => s!"{command.name} carries no usable body"
  | invalidParameter what => s!"invalid parameter: {what}"
  | remote command status => s!"peer reported {command.name}: {status.text} ({status.code.toInt})"
  | share error => error.message
  | session error => s!"session error: {error.message}"
  | frame fault => s!"protocol error: {fault.message}"
  | io error => s!"local I/O error: {error.message}"

/-- The code that the status of a failure has. -/
def statusCode : ExchangeError → Int32
  | foreignId .. | unexpectedCommand _ | session _ => StatusCode.error
  | missingBody _ | invalidParameter _ | frame _ => StatusCode.invalidPacket
  | remote _ status => status.code
  | share error => error.code
  | io error => error.number?.getD StatusCode.error

/-- The text that the status of a failure has. -/
def statusText : ExchangeError → String
  | share error => error.errno.description
  | remote _ status => status.text
  | io error =>
    match error.number? with
    | some number => (Errno.ofNumber number.toInt).description
    | none => error.message
  | other => other.message

/-- The status that tells a failure. -/
def status (error : ExchangeError) : Status :=
  ⟨error.statusCode, error.statusText⟩

/-- The failure that an error command of the peer reports. -/
def ofPeer (command : Command) (message : Message) : ExchangeError :=
  remote command (message.status?.getD (Status.ofCode StatusCode.error))

end ExchangeError

end FileShare
