import FileShare.Exchange.Download
import FileShare.Exchange.Single
import FileShare.Exchange.Upload

/-!
# One side of an exchange

An `Exchange` is bound to a request id and plays one side of one family. `Exchange.process` takes a
message and does what is due. Before that, the message is checked (`Exchange.check`): it must carry
the id, its command must be of the family, and it must travel in the direction that suits the side.

A message that is refused, or whose handling fails, is told in the way of the side
(`World.fail`): under the id of the message itself, so that whoever sent it can tell. Handling such
a message never closes the connection.

A `Party` is the side with all that it remembers between messages.
-/

namespace FileShare

/-- What a responder remembers between messages. -/
inductive Responder where
  | testConnection
  | listing (job : Option Job)
  | upload (receiver : Receiver)
  | download (server : FileServer)
  | addFolder
  | deletion
  deriving Inhabited

/-- What an initiator remembers between messages. -/
inductive Initiator where
  | testConnection
  /-- The entries of the pages so far. -/
  | listing (entries : List FileInfo)
  | upload (sender : Sender)
  | download (fetcher : Fetcher)
  | addFolder
  | deletion
  deriving Inhabited

/-- One side of an exchange. -/
inductive Party where
  | responder (state : Responder)
  | initiator (state : Initiator)
  deriving Inhabited

namespace Responder

/-- A responder that has not been asked for anything. -/
def ofFamily : Family → Responder
  | .testConnection => testConnection
  | .listing => listing none
  | .upload => upload .idle
  | .download => download .idle
  | .addFolder => addFolder
  | .deletion => deletion

/-- The family of a responder. -/
def family : Responder → Family
  | testConnection => .testConnection
  | listing _ => .listing
  | upload _ => .upload
  | download _ => .download
  | addFolder => .addFolder
  | deletion => .deletion

/-- The background job of a responder. -/
def job? : Responder → Option Job
  | listing job => job
  | download server => server.job
  | _ => none

/-- Replace the background job of a responder. -/
def withJob (job : Job) : Responder → Responder
  | listing _ => listing (some job)
  | download server => download { server with job := some job }
  | other => other

variable {ω : Type} [Outlet ω]

/-- Do what a command asks for. -/
def handle (settings : TransferSettings) (requestId : String) (command : Command)
    (message : Message) (state : Responder) : WorldM ω (Handled Responder) := do
  match state, command with
  | testConnection, .testConnectionInitReq =>
    pure (← (Single.testConnection requestId message).run, state)
  | addFolder, .addFolderInitReq => pure (← (Single.addFolder requestId message).run, state)
  | deletion, .deletionInitReq => pure (← (Single.delete requestId message).run, state)
  | listing job, .listingInitReq =>
    let (result, job) ← Listing.answer requestId message job
    pure (result, listing job)
  | download server, .downloadInitReq =>
    let (result, server) ← server.begin requestId message
    pure (result, download server)
  | download server, .downloadDataReq =>
    let (result, server) ← server.serve settings requestId message
    pure (result, download server)
  | upload receiver, .uploadInitReq =>
    let (result, receiver) ← receiver.begin requestId message
    pure (result, upload receiver)
  | upload receiver, .uploadDataReq =>
    let (result, receiver) ← receiver.accept message
    pure (result, upload receiver)
  | upload receiver, .uploadEndReq =>
    let (result, receiver) ← receiver.complete requestId
    pure (result, upload receiver)
  | upload receiver, .uploadError =>
    let (result, receiver) ← receiver.abandon
    pure (result, upload receiver)
  | _, _ => pure (.error (.unexpectedCommand command.code), state)

/-- Stop, and leave nothing behind. -/
def quit (state : Responder) : WorldM ω Responder := do
  match state with
  | listing job =>
    Listing.stopJob job
    pure (listing none)
  | download server => pure (download (← server.quit))
  | upload receiver => pure (upload (← receiver.quit))
  | _ => pure state

end Responder

namespace Initiator

/-- An initiator that has not received anything. -/
def ofFamily : Family → Initiator
  | .testConnection => testConnection
  | .listing => listing []
  | .upload => upload .idle
  | .download => download .idle
  | .addFolder => addFolder
  | .deletion => deletion

/-- The family of an initiator. -/
def family : Initiator → Family
  | testConnection => .testConnection
  | listing _ => .listing
  | upload _ => .upload
  | download _ => .download
  | addFolder => .addFolder
  | deletion => .deletion

/-- The background job of an initiator. -/
def job? : Initiator → Option Job
  | upload sender => sender.job
  | _ => none

/-- Replace the background job of an initiator. -/
def withJob (job : Job) : Initiator → Initiator
  | upload sender => upload { sender with job := some job }
  | other => other

variable {ω : Type} [Outlet ω]

/-- Take note of an answer that ends the exchange. -/
def conclude (message : Message) (state : Initiator) : WorldM ω (Handled Initiator) := do
  World.report (.completed (Single.answeredEntries state.family message) 0)
  pure (.ok (), state)

/-- Do what a command asks for. -/
def handle (settings : TransferSettings) (requestId : String) (command : Command)
    (message : Message) (state : Initiator) : WorldM ω (Handled Initiator) := do
  match state, command with
  | testConnection, .testConnectionInitResp
  | addFolder, .addFolderInitResp
  | deletion, .deletionInitResp => state.conclude message
  | listing entries, .listingInitResp =>
    pure (.ok (), listing (entries ++ Listing.pageEntries message))
  | listing entries, .listingEndResp =>
    World.report (.completed entries 0)
    pure (.ok (), listing [])
  | download fetcher, .downloadInitResp =>
    let (result, fetcher) ← fetcher.begin settings requestId message
    pure (result, download fetcher)
  | download fetcher, .downloadDataResp =>
    let (result, fetcher) ← fetcher.accept message
    pure (result, download fetcher)
  | download fetcher, .downloadEndResp =>
    let (result, fetcher) ← fetcher.finish
    pure (result, download fetcher)
  | download fetcher, .downloadError =>
    pure (.error (.ofPeer command message), download (← fetcher.dropSink))
  | upload sender, .uploadInitResp =>
    let (result, sender) ← sender.answered settings requestId message
    pure (result, upload sender)
  | upload sender, .uploadEndResp =>
    let (result, sender) ← sender.finish
    pure (result, upload sender)
  | upload sender, .uploadError =>
    let (result, sender) ← sender.refused message
    pure (result, upload sender)
  | _, _ =>
    if command.isError then pure (.error (.ofPeer command message), state)
    else pure (.error (.unexpectedCommand command.code), state)

/-- Stop, and leave nothing behind. -/
def quit (state : Initiator) : WorldM ω Initiator := do
  match state with
  | download fetcher => pure (download (← fetcher.dropSink))
  | upload sender => pure (upload (← sender.stopJob))
  | _ => pure state

end Initiator

namespace Party

/-- A side that has not seen a message yet. -/
def ofFamily (role : Role) (family : Family) : Party :=
  match role with
  | .responder => responder (.ofFamily family)
  | .initiator => initiator (.ofFamily family)

/-- Which side it is. -/
def role : Party → Role
  | responder _ => .responder
  | initiator _ => .initiator

/-- The family of a side. -/
def family : Party → Family
  | responder state => state.family
  | initiator state => state.family

/-- The background job of a side. -/
def job? : Party → Option Job
  | responder state => state.job?
  | initiator state => state.job?

/-- Replace the background job of a side. -/
def withJob (job : Job) : Party → Party
  | responder state => responder (state.withJob job)
  | initiator state => initiator (state.withJob job)

end Party

/-- One side of an **exchange**. -/
structure Exchange where
  requestId : String
  party : Party
  deriving Inhabited

namespace Exchange

/-- A side of an exchange before the first message. -/
def ofFamily (role : Role) (family : Family) (requestId : String) : Exchange :=
  ⟨requestId, .ofFamily role family⟩

/-- The family of an exchange. -/
def family (exchange : Exchange) : Family :=
  exchange.party.family

/-- The message with which an initiator opens the exchange. -/
def initialRequest (exchange : Exchange) (request : RequestSettings) : Message :=
  let parameters := match exchange.family with
    | .listing => Listing.requestParameters request
    | _ => .none
  .of exchange.requestId exchange.family.initRequest
    (.request ⟨some request.credentials, parameters⟩)

/-- Whether a command may be sent to a side. -/
def mayReceive (role : Role) (command : Command) : Bool :=
  command.isTwoWay || command.isRequest == (role == .responder)

/-- The command of a message that belongs to the exchange. -/
def check (exchange : Exchange) (message : Message) : Except ExchangeError Command :=
  if message.requestId ≠ exchange.requestId then
    .error (.foreignId exchange.requestId message.requestId)
  else
    match message.command? with
    | some command =>
      if command.family = exchange.family ∧ mayReceive exchange.party.role command then
        .ok command
      else
        .error (.unexpectedCommand message.code)
    | none => .error (.unexpectedCommand message.code)

variable {ω : Type} [Outlet ω]

/-- Do what a command asks for. -/
def handle (settings : TransferSettings) (command : Command) (message : Message)
    (exchange : Exchange) : WorldM ω (Handled Exchange) := do
  match exchange.party with
  | .responder state =>
    let (result, state) ← state.handle settings exchange.requestId command message
    pure (result, { exchange with party := .responder state })
  | .initiator state =>
    let (result, state) ← state.handle settings exchange.requestId command message
    pure (result, { exchange with party := .initiator state })

/-- Take a message. A failure has been told when this returns. -/
def process (settings : TransferSettings) (message : Message) (exchange : Exchange) :
    WorldM ω (Handled Exchange) := do
  let (result, next) ← match exchange.check message with
    | .error error => pure (.error error, exchange)
    | .ok command => exchange.handle settings command message
  if let .error error := result then
    World.fail exchange.party.role exchange.family message.requestId error
  pure (result, next)

/-- Stop, and leave nothing behind. -/
def quit (exchange : Exchange) : WorldM ω Exchange := do
  match exchange.party with
  | .responder state => pure { exchange with party := .responder (← state.quit) }
  | .initiator state => pure { exchange with party := .initiator (← state.quit) }

/-! ### The background job -/

/-- One step of the background job. -/
def stepJob (exchange : Exchange) : WorldM ω (JobStatus × Exchange) := do
  match exchange.party.job? with
  | some job =>
    let (status, job) ← job.step
    pure (status, { exchange with party := exchange.party.withJob job })
  | none => pure (.ended, exchange)

/-- Take steps of the background job, up to some number, until it is blocked or has ended. -/
def runJob (exchange : Exchange) : Nat → WorldM ω (JobStatus × Exchange)
  | 0 => pure (.running, exchange)
  | bound + 1 => do
    match ← exchange.stepJob with
    | (.running, exchange) => exchange.runJob bound
    | result => pure result

end Exchange

end FileShare
