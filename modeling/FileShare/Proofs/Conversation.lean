import FileShare.Exchange.Exchange

/-!
# Two sides and the channels between them

An exchange has two sides, a client that asks and a server that answers. A `Conversation` is both of
them, each with a world of its own, and between them a `Channel` for each direction: messages are
queued by one side, travel in the order in which they were queued, and are taken by the other side.

What happens, and when, is left open. An `Event` says who does something next: a side takes the
next message that has arrived, or takes a step of its background job, or is told to stop, or quits;
a queued message goes on its way; the connection goes bad or recovers for one side; the faults of a
store are replaced. A run is any list of events (`Conversation.run`), so a statement about all runs
is one about every order of steps. A connection that has been cut is one on which no message travels
any more.

## What is above and what is left out

The channels carry messages, not bytes. That the messages of a session arrive whole and in order is
the subject of `Proofs.Delivery` and `Proofs.Reassembly`.

A message that makes no packet is refused by the channel, as it is by a session. Whether the
connection is bad decides what a side is told when it sends; what was queued may travel or not,
which is up to the events.
-/

namespace FileShare

/-- What a run comes to: an answer, a state and a world. -/
theorem run_inj {α β γ : Type} {a a' : α} {b b' : β} {c c' : γ}
    (h : ((a, b), c) = ((a', b'), c')) : a = a' ∧ b = b' ∧ c = c' := by
  cases h
  exact ⟨rfl, rfl, rfl⟩

/-! ### Channels -/

/-- One direction of a connection. -/
structure Channel where
  /-- Messages that wait to be sent. -/
  queued : List Message
  /-- Messages that have been sent and not been taken. -/
  onWay : List Message
  /-- How many messages may wait before the background job does. -/
  capacity : Nat
  /-- Whether the side that sends finds its connection in order. -/
  isUp : Bool
  /-- Whether the side that sends has been told to stop. -/
  isCancelled : Bool

namespace Channel

/-- A channel before anything was sent. -/
def empty (capacity : Nat) : Channel :=
  ⟨[], [], capacity, true, false⟩

/-- What a side is told about its connection. -/
def report (channel : Channel) : Except SessionError Unit :=
  if channel.isUp then .ok () else .error .reset

instance outlet : Outlet Channel where
  send channel message :=
    match Packet.ofMessage message with
    | .error fault => (.error (.frame fault), channel)
    | .ok _ => (channel.report, { channel with queued := channel.queued ++ [message] })
  hasSpace channel := channel.queued.length < channel.capacity
  flush channel := (channel.report, channel)
  isCancelled := Channel.isCancelled

/-- Everything that was queued and not taken, the oldest message first. -/
def underway (channel : Channel) : List Message :=
  channel.onWay ++ channel.queued

/-- The oldest message that waits goes on its way. -/
def transmit (channel : Channel) : Channel :=
  match channel.queued with
  | [] => channel
  | message :: rest => { channel with queued := rest, onWay := channel.onWay ++ [message] }

/-- The oldest message on its way has been taken. -/
def drop (channel : Channel) : Channel :=
  { channel with onWay := channel.onWay.tail }

@[simp] theorem underway_transmit (channel : Channel) :
    channel.transmit.underway = channel.underway := by
  unfold transmit
  split
  · rfl
  · rename_i h
    simp [underway, h]

theorem underway_drop {channel : Channel} {message : Message} {rest : List Message}
    (h : channel.onWay = message :: rest) :
    channel.underway = message :: channel.drop.underway := by
  simp [underway, drop, h]

end Channel

/-! ### What is sent -/

namespace World

variable {world world' : World Channel} {message : Message} {result : Except ExchangeError Unit}

/-- What a side does to its channel is all that it does. -/
structure OnChannel (world world' : World Channel) : Prop where
  store : world'.store = world.store
  workDir : world'.workDir = world.workDir
  hasShares : world'.hasShares = world.hasShares
  outcome : world'.outcome = world.outcome

theorem send_run (message : Message) (world : World Channel) :
    (send message).run.run world = ((Outlet.send world.outlet message).1.mapError .session,
      { world with outlet := (Outlet.send world.outlet message).2 }) := rfl

/-- **A message is queued behind all others**, or it is not and that is a failure. A message that
was queued may still be reported as a failure. -/
theorem send_cases (h : (send message).run.run world = (result, world')) :
    world.OnChannel world' ∧
      (world'.outlet.underway = world.outlet.underway ++ [message] ∨
        (∃ error, result = .error (.session error)) ∧
          world'.outlet.underway = world.outlet.underway) := by
  rw [send_run] at h
  obtain ⟨rfl, rfl⟩ := Prod.mk.inj h
  refine ⟨⟨rfl, rfl, rfl, rfl⟩, ?_⟩
  show (Outlet.send world.outlet message).2.underway = _ ∨ _
  unfold Outlet.send Channel.outlet
  dsimp only
  cases hpacket : Packet.ofMessage message with
  | error fault => exact .inr ⟨⟨_, rfl⟩, rfl⟩
  | ok packet => exact .inl (List.append_assoc ..).symm

/-- The only failures of a send are those of a session. -/
theorem send_error {error : ExchangeError}
    (h : (send message).run.run world = (.error error, world')) :
    ∃ cause, error = .session cause := by
  rw [send_run] at h
  obtain ⟨hresult, -⟩ := Prod.mk.inj h
  cases hsent : (Outlet.send world.outlet message).1 with
  | error cause =>
    rw [hsent] at hresult
    exact ⟨cause, (Except.error.inj hresult).symm⟩
  | ok _ =>
    rw [hsent] at hresult
    cases hresult

/-- A failure of a responder is answered with the error command of the family, or with nothing. -/
theorem fail_responder_cases {family : Family} {requestId : String} {error : ExchangeError}
    (h : (fail .responder family requestId error).run world = ((), world')) :
    world.OnChannel world' ∧ (world'.outlet.underway = world.outlet.underway ∨
      ∃ status, world'.outlet.underway = world.outlet.underway ++
        [.of requestId family.errorCommand (.status status)]) := by
  have hsend (result : Except ExchangeError Unit) (status : Status) :
      (send (.of requestId family.errorCommand (.status status))).run.run world =
        (result, world') → world.OnChannel world' ∧
      (world'.outlet.underway = world.outlet.underway ∨
        ∃ status, world'.outlet.underway = world.outlet.underway ++
          [.of requestId family.errorCommand (.status status)]) := by
    intro hrun
    obtain ⟨hchannel, hsent | ⟨-, hsame⟩⟩ := send_cases hrun
    · exact ⟨hchannel, .inr ⟨status, hsent⟩⟩
    · exact ⟨hchannel, .inl hsame⟩
  cases error with
  | session cause =>
    obtain ⟨-, rfl⟩ := Prod.mk.inj h
    exact ⟨⟨rfl, rfl, rfl, rfl⟩, .inl rfl⟩
  | _ =>
    obtain ⟨-, rfl⟩ := Prod.mk.inj h
    exact hsend _ _ rfl

/-- A failure of an initiator is its outcome, unless it has one. -/
theorem fail_initiator_run (family : Family) (requestId : String) (error : ExchangeError)
    (world : World Channel) : (fail .initiator family requestId error).run world =
      ((), { world with outcome := world.outcome.or (some (.ofError error)) }) := rfl

end World

/-! ### Taking a message -/

namespace Exchange

variable {ω : Type} [Outlet ω] {exchange : Exchange} {message : Message} {command : Command}

/-- A message belongs to an exchange if it has its id, and a command of its family that travels in
the right direction. -/
theorem check_eq_ok (hid : message.requestId = exchange.requestId)
    (hcommand : message.command? = some command) (hfamily : command.family = exchange.family)
    (hmay : mayReceive exchange.party.role command = true) :
    exchange.check message = .ok command := by
  unfold check
  rw [if_neg (not_not_intro hid), hcommand]
  simp [hfamily, hmay]

/-- What a message must be like to belong to an exchange. -/
theorem of_check_eq_ok (h : exchange.check message = .ok command) :
    message.requestId = exchange.requestId ∧ message.command? = some command ∧
      command.family = exchange.family ∧ mayReceive exchange.party.role command = true := by
  unfold check at h
  split at h
  · cases h
  rename_i hid
  split at h
  · rename_i found hfound
    split at h
    · rename_i hsuits
      obtain rfl := Except.ok.inj h
      exact ⟨Decidable.not_not.1 hid, hfound, hsuits⟩
    · cases h
  · cases h

/-- What is wrong with a message that does not belong to an exchange. -/
theorem of_check_eq_error {error : ExchangeError} (h : exchange.check message = .error error) :
    error = .foreignId exchange.requestId message.requestId ∨
      error = .unexpectedCommand message.code := by
  unfold check at h
  split at h
  · exact .inl (Except.error.inj h).symm
  split at h
  · split at h
    · cases h
    · exact .inr (Except.error.inj h).symm
  · exact .inr (Except.error.inj h).symm

/-- A message that belongs to an exchange is handled, and a failure of that is told. -/
theorem process_run (settings : TransferSettings) (world : World ω)
    (hcheck : exchange.check message = .ok command) :
    (exchange.process settings message).run world =
      let ((result, next), mid) := (exchange.handle settings command message).run world
      ((result, next), match result with
        | .error error => ((World.fail exchange.party.role exchange.family message.requestId
            error).run mid).2
        | .ok () => mid) := by
  unfold process
  rw [hcheck]
  rcases h : (exchange.handle settings command message).run world with ⟨⟨result, next⟩, mid⟩
  rw [StateT.run_bind, h]
  cases result <;> rfl

end Exchange

/-! ### Outcomes -/

namespace Outcome

/-- The outcome of an initiator after a message. -/
def after (outcome : Option Outcome) : Except ExchangeError Unit → Option Outcome
  | .ok () => outcome
  | .error error => outcome.or (some (.ofError error))

/-- An outcome that is a failure. -/
def IsFailure (outcome : Option Outcome) : Prop :=
  ∃ code reason, outcome = some (.failed code reason)

theorem IsFailure.or {outcome : Option Outcome} (h : IsFailure outcome) (other : Option Outcome) :
    IsFailure (outcome.or other) := by
  obtain ⟨code, reason, rfl⟩ := h
  exact ⟨code, reason, rfl⟩

/-- A failure is the outcome, unless there is another one. -/
theorem isFailure_or_ofError {outcome : Option Outcome} (error : ExchangeError)
    (h : outcome = none ∨ IsFailure outcome) : IsFailure (outcome.or (some (.ofError error))) := by
  rcases h with rfl | h
  · exact ⟨_, _, rfl⟩
  · exact h.or _

/-- No failure is a completed exchange. -/
theorem eq_completed_of_or {outcome : Option Outcome} {error : ExchangeError}
    {entries : List FileInfo} {bytes : UInt64}
    (h : outcome.or (some (.ofError error)) = some (.completed entries bytes)) :
    outcome = some (.completed entries bytes) := by
  cases outcome with
  | none => cases h
  | some outcome => exact h

end Outcome

/-! ### Conversations -/

/-- One side of a conversation. -/
structure Side where
  settings : TransferSettings
  exchange : Exchange
  world : World Channel

namespace Side

/-- Take a message. -/
def process (side : Side) (message : Message) : Side :=
  let ((_, exchange), world) := (side.exchange.process side.settings message).run side.world
  { side with exchange, world }

/-- Take a step of the background job. -/
def work (side : Side) : Side :=
  let ((_, exchange), world) := side.exchange.stepJob.run side.world
  { side with exchange, world }

/-- Stop, and leave nothing behind. -/
def quit (side : Side) : Side :=
  let (exchange, world) := side.exchange.quit.run side.world
  { side with exchange, world }

/-- Do something with the channel of a side. -/
def onChannel (side : Side) (change : Channel → Channel) : Side :=
  { side with world := { side.world with outlet := change side.world.outlet } }

/-- Replace the faults of the store of a side. -/
def withFaults (side : Side) (faults : List Fault) : Side :=
  { side with world := { side.world with store := { side.world.store with faults } } }

/-- **Taking a message that belongs to the exchange** is to handle it, and to tell a failure. -/
theorem process_eq {side : Side} {message : Message} {command : Command}
    (hcheck : side.exchange.check message = .ok command) :
    side.process message =
      let ((result, exchange), mid) :=
        (side.exchange.handle side.settings command message).run side.world
      ⟨side.settings, exchange, match result with
        | .error error => ((World.fail side.exchange.party.role side.exchange.family
            message.requestId error).run mid).2
        | .ok () => mid⟩ := by
  unfold process
  rw [Exchange.process_run _ _ hcheck]
  rfl

/-- **An initiator takes a message.** A failure is its outcome, unless it has one. -/
theorem process_initiator {side : Side} {requestId : String} {state state' : Initiator}
    {message : Message} {command : Command} {result : Except ExchangeError Unit}
    {mid : World Channel} (hexchange : side.exchange = ⟨requestId, .initiator state⟩)
    (hcheck : side.exchange.check message = .ok command)
    (hrun : (state.handle side.settings requestId command message).run side.world =
      ((result, state'), mid)) :
    side.process message = ⟨side.settings, ⟨requestId, .initiator state'⟩,
      { mid with outcome := Outcome.after mid.outcome result }⟩ := by
  have hinitiator : (side.exchange.handle side.settings command message).run side.world =
      ((result, ⟨requestId, .initiator state'⟩), mid) := by
    rw [hexchange]
    change (state.handle side.settings requestId command message >>= fun handled ↦
      pure (handled.1, (⟨requestId, .initiator handled.2⟩ : Exchange)) :
        WorldM Channel (Handled Exchange)).run side.world = _
    rw [StateT.run_bind, hrun]
    rfl
  rw [process_eq hcheck, hinitiator, hexchange]
  cases result <;> rfl

/-- **A responder takes a message**, and tells a failure, unless it is one of the session. -/
theorem process_responder {side : Side} {requestId : String} {state state' : Responder}
    {message : Message} {command : Command} {result : Except ExchangeError Unit}
    {mid : World Channel} (hexchange : side.exchange = ⟨requestId, .responder state⟩)
    (hid : message.requestId = requestId) (hcommand : message.command? = some command)
    (hfamily : command.family = state.family)
    (hmay : Exchange.mayReceive .responder command = true)
    (hrun : (state.handle side.settings requestId command message).run side.world =
      ((result, state'), mid)) :
    (side.process message).exchange = ⟨requestId, .responder state'⟩ ∧
      mid.OnChannel (side.process message).world ∧
      ((side.process message).world.outlet.underway = mid.outlet.underway ∨
        (∃ error, result = .error error ∧ ∀ cause, error ≠ .session cause) ∧
          ∃ status, (side.process message).world.outlet.underway = mid.outlet.underway ++
            [.of requestId state.family.errorCommand (.status status)]) := by
  have hresponder : (side.exchange.handle side.settings command message).run side.world =
      ((result, ⟨requestId, .responder state'⟩), mid) := by
    rw [hexchange]
    change (state.handle side.settings requestId command message >>= fun handled ↦
      pure (handled.1, (⟨requestId, .responder handled.2⟩ : Exchange)) :
        WorldM Channel (Handled Exchange)).run side.world = _
    rw [StateT.run_bind, hrun]
    rfl
  have hcheck : side.exchange.check message = .ok command := by
    rw [hexchange]
    exact Exchange.check_eq_ok hid hcommand hfamily hmay
  rw [process_eq hcheck, hresponder, hexchange]
  cases result with
  | ok _ => exact ⟨rfl, ⟨rfl, rfl, rfl, rfl⟩, .inl rfl⟩
  | error error =>
    by_cases hsession : ∃ cause, error = .session cause
    · obtain ⟨cause, rfl⟩ := hsession
      exact ⟨rfl, ⟨rfl, rfl, rfl, rfl⟩, .inl rfl⟩
    · have hfail : (World.fail .responder state.family message.requestId error).run mid =
          ((), ((World.fail .responder state.family message.requestId error).run mid).2) := rfl
      rw [hid] at hfail ⊢
      obtain ⟨hchannel, htold⟩ := World.fail_responder_cases hfail
      exact ⟨rfl, hchannel, htold.imp_right fun htold ↦
        ⟨⟨error, rfl, fun cause heq ↦ hsession ⟨cause, heq⟩⟩, htold⟩⟩

/-- **A step of the background job** is all that a side does in the background. -/
theorem work_of_run {side : Side} {requestId : String} {party : Party} {job job' : Job}
    {status : JobStatus} {world' : World Channel} (hexchange : side.exchange = ⟨requestId, party⟩)
    (hjob : party.job? = some job) (hrun : job.step.run side.world = ((status, job'), world')) :
    side.work = ⟨side.settings, ⟨requestId, party.withJob job'⟩, world'⟩ := by
  have hstep : side.exchange.stepJob.run side.world =
      ((status, ⟨requestId, party.withJob job'⟩), world') := by
    rw [hexchange]
    unfold Exchange.stepJob
    dsimp only
    rw [hjob]
    dsimp only
    rw [StateT.run_bind, hrun]
    rfl
  unfold work
  rw [hstep]

/-- Without a background job, a side does nothing in the background. -/
theorem work_of_none {side : Side} (hjob : side.exchange.party.job? = none) :
    side.work = side := by
  have hstep : side.exchange.stepJob.run side.world = ((.ended, side.exchange), side.world) := by
    unfold Exchange.stepJob
    rw [hjob]
    rfl
  unfold work
  rw [hstep]

/-- **An initiator quits.** -/
theorem quit_initiator {side : Side} {requestId : String} {state state' : Initiator}
    {world' : World Channel} (hexchange : side.exchange = ⟨requestId, .initiator state⟩)
    (hrun : state.quit.run side.world = (state', world')) :
    side.quit = ⟨side.settings, ⟨requestId, .initiator state'⟩, world'⟩ := by
  have hquit : side.exchange.quit.run side.world =
      (⟨requestId, .initiator state'⟩, world') := by
    rw [hexchange]
    unfold Exchange.quit
    dsimp only
    rw [StateT.run_bind, hrun]
    rfl
  unfold quit
  rw [hquit]

/-- **A responder quits.** -/
theorem quit_responder {side : Side} {requestId : String} {state state' : Responder}
    {world' : World Channel} (hexchange : side.exchange = ⟨requestId, .responder state⟩)
    (hrun : state.quit.run side.world = (state', world')) :
    side.quit = ⟨side.settings, ⟨requestId, .responder state'⟩, world'⟩ := by
  have hquit : side.exchange.quit.run side.world =
      (⟨requestId, .responder state'⟩, world') := by
    rw [hexchange]
    unfold Exchange.quit
    dsimp only
    rw [StateT.run_bind, hrun]
    rfl
  unfold quit
  rw [hquit]

end Side

/-- **Two sides** of one exchange. -/
structure Conversation where
  client : Side
  server : Side

/-- What may happen next. The side is that of a role: the initiator is the client. -/
inductive Event where
  /-- The oldest message that waits at a side goes on its way. -/
  | transmit (role : Role)
  /-- A side takes the next message that has arrived. -/
  | take (role : Role)
  /-- The background job of a side takes a step. -/
  | work (role : Role)
  | cancel (role : Role)
  | quit (role : Role)
  /-- From here on, a side finds its connection in order, or not. -/
  | connection (role : Role) (isUp : Bool)
  /-- From here on, other calls on the shares of a side fail. -/
  | faults (role : Role) (faults : List Fault)
  deriving DecidableEq

namespace Conversation

/-- The side with a role. -/
def side (c : Conversation) : Role → Side
  | .initiator => c.client
  | .responder => c.server

/-- Do something with the side with a role. -/
def onSide (c : Conversation) (role : Role) (change : Side → Side) : Conversation :=
  match role with
  | .initiator => { c with client := change c.client }
  | .responder => { c with server := change c.server }

/-- The role of the other side. -/
def peer : Role → Role
  | .initiator => .responder
  | .responder => .initiator

/-- What one event does. -/
def step (c : Conversation) : Event → Conversation
  | .transmit role => c.onSide role (·.onChannel Channel.transmit)
  | .take role =>
    match (c.side (peer role)).world.outlet.onWay with
    | [] => c
    | message :: _ =>
      (c.onSide (peer role) (·.onChannel Channel.drop)).onSide role (·.process message)
  | .work role => c.onSide role Side.work
  | .cancel role => c.onSide role (·.onChannel ({ · with isCancelled := true }))
  | .quit role => c.onSide role Side.quit
  | .connection role isUp => c.onSide role (·.onChannel ({ · with isUp }))
  | .faults role faults => c.onSide role (·.withFaults faults)

/-- A list of events in turn. -/
def run (c : Conversation) (events : List Event) : Conversation :=
  events.foldl step c

theorem run_append (c : Conversation) (before after : List Event) :
    c.run (before ++ after) = (c.run before).run after :=
  List.foldl_append

/-- What one side starts with. -/
structure Machine where
  settings : TransferSettings
  store : Store
  hasShares : Bool
  /-- The directory from which local paths start. -/
  workDir : Path
  /-- The capacity of its queue. -/
  capacity : Nat

/-- The URL that a client addresses. -/
def Machine.targetUrl (machine : Machine) : String :=
  machine.settings.request.credentials.url

/-- A side before the first message. -/
def Machine.side (machine : Machine) (role : Role) (family : Family) (requestId : String) : Side :=
  ⟨machine.settings, .ofFamily role family requestId,
    ⟨.empty machine.capacity, machine.store, machine.hasShares, machine.workDir, none⟩⟩

/-- The client has sent its opening request, and nothing else has happened. -/
def start (family : Family) (requestId : String) (client server : Machine) : Conversation :=
  let side := client.side .initiator family requestId
  let request := side.exchange.initialRequest client.settings.request
  { client := { side with world := ((World.send request).run.run side.world).2 }
    server := server.side .responder family requestId }

end Conversation

end FileShare
