import FileShare.Proofs.Speaking

/-!
# Both sides speak the same protocol

`Conversation.same_protocol` compares an initiator and a responder of one family and one id, in any
two states that they can be in: whatever the one says is accepted by the other. No assumption is
made about the settings, the shares and their faults, the connection, or the messages that either of
the two is given before (`Side.Reachable`).

The same goes for failures. A side that is told one says nothing about it, so in a conversation
there is never an error command in answer to another one. What an initiator says when it cannot open
its local file is not about the message that it was given: that message told it to begin, and it
says that it will not. Every other failure of an initiator is kept to itself.
-/

namespace FileShare

open Conversation (peer)

/-! ### Sides that can be reached -/

/-- **A side that can be reached** from the beginning of an exchange: it has lived from moment to
moment, and in between, anything may have become of the world that it lives in. -/
inductive Side.Reachable (requestId : String) (family : Family) (role : Role) : Side → Prop where
  | fresh (settings : TransferSettings) (world : World Channel) :
      Reachable requestId family role ⟨settings, .ofFamily role family requestId, world⟩
  | live {side : Side} (before : Reachable requestId family role side) (moment : Moment) :
      Reachable requestId family role (side.live moment)
  | elsewhere {side : Side} (before : Reachable requestId family role side)
      (world : World Channel) : Reachable requestId family role { side with world }

/-- A side that has not been told anything keeps to its exchange. -/
theorem Side.KeepsTo.fresh (settings : TransferSettings) (requestId : String) (family : Family)
    (role : Role) (world : World Channel) :
    Side.KeepsTo ⟨settings, .ofFamily role family requestId, world⟩ requestId family role := by
  refine ⟨?_, rfl, ?_, ?_⟩
  · cases role <;> cases family <;> exact fun job hmem ↦ by cases hmem
  · cases role <;> cases family <;> rfl
  · cases role <;> rfl

/-- **Whatever has become of a side, it keeps to its exchange.** -/
theorem Side.Reachable.keepsTo {side : Side} {requestId : String} {family : Family} {role : Role}
    (h : side.Reachable requestId family role) : side.KeepsTo requestId family role := by
  induction h with
  | fresh settings world => exact .fresh settings requestId family role world
  | live before moment ih => exact ih.live moment
  | elsewhere before world ih => exact ih.of_exchange_eq rfl

/-- The opening request suits the responder. -/
theorem Side.KeepsTo.suits_initialRequest {side : Side} {requestId : String} {family : Family}
    {role : Role} (h : side.KeepsTo requestId family role) (request : RequestSettings) :
    (side.exchange.initialRequest request).Suits requestId family .responder := by
  obtain ⟨-, rfl, rfl, -⟩ := h
  exact Message.suits_of (Family.family_initRequest _) (Family.mayReceive_initRequest _)

/-- Of the error commands, only one suits a responder. -/
theorem Exchange.eq_uploadError_of_mayReceive {command : Command}
    (hmay : mayReceive .responder command = true) (herror : command.isError = true) :
    command = .uploadError := by
  cases command <;> revert hmay herror <;> decide

/-- Whether a failure is that a message has been rejected for what it is: it is not so if the
connection has failed, or a local file. -/
def ExchangeError.isRejection : ExchangeError → Bool
  | session _ | io _ => false
  | _ => true

/-! ### Conversations -/

namespace Conversation

variable {c : Conversation} {requestId : String} {family : Family}

theorem side_onSide (c : Conversation) (role other : Role) (change : Side → Side) :
    (c.onSide role change).side other =
      if other = role then change (c.side role) else c.side other := by
  cases role <;> cases other <;> rfl

theorem peer_ne (role : Role) : peer role ≠ role := by
  cases role <;> exact nofun

@[simp] theorem peer_peer (role : Role) : peer (peer role) = role := by
  cases role <;> rfl

/-- **Both sides keep to the exchange**, and all that is underway suits the side that it is for. -/
structure InTune (c : Conversation) (requestId : String) (family : Family) : Prop where
  keepsTo : ∀ role, (c.side role).KeepsTo requestId family role
  suits : ∀ role, ∀ message ∈ (c.side role).world.outlet.underway,
    message.Suits requestId family (peer role)

theorem InTune.onSide (h : c.InTune requestId family) {role : Role} {change : Side → Side}
    (hkeeps : (change (c.side role)).KeepsTo requestId family role)
    (hsuits : ∀ message ∈ (change (c.side role)).world.outlet.underway,
      message.Suits requestId family (peer role)) :
    (c.onSide role change).InTune requestId family := by
  constructor <;> intro other <;> rw [side_onSide] <;> split
  · rename_i heq
    exact heq ▸ hkeeps
  · exact h.keepsTo other
  · rename_i heq
    exact heq ▸ hsuits
  · exact h.suits other

/-- **What one side does leaves both in tune**, if it keeps to the exchange and says what suits the
other one. -/
theorem InTune.speaks (h : c.InTune requestId family) {role : Role} {change : Side → Side}
    (hkeeps : (change (c.side role)).KeepsTo requestId family role)
    (hspeaks : (c.side role).world.Says (·.Suits requestId family (peer role))
      (change (c.side role)).world) : (c.onSide role change).InTune requestId family := by
  obtain ⟨messages, hsaid, hmessages⟩ := hspeaks
  refine h.onSide hkeeps ?_
  rw [hsaid]
  exact fun message hmem ↦ (List.mem_append.1 hmem).elim (h.suits role message)
    (hmessages message)

/-- The next message that a side takes suits it. -/
theorem InTune.arrives (h : c.InTune requestId family) {role : Role} {message : Message}
    {rest : List Message} (hway : (c.side (peer role)).world.outlet.onWay = message :: rest) :
    message.Suits requestId family role := by
  have hsuits := h.suits (peer role) message (by simp [Channel.underway, hway])
  rwa [peer_peer] at hsuits

/-- **Both sides stay in tune**, whatever happens next. -/
theorem InTune.step (h : c.InTune requestId family) (event : Event) :
    (c.step event).InTune requestId family := by
  have hlive (role : Role) (moment : Moment)
      (hown : ∀ message, moment = .meets (.message message) → message.requestId = requestId) :
      (c.onSide role (·.live moment)).InTune requestId family :=
    h.speaks ((h.keepsTo role).live moment) ((h.keepsTo role).speaks_live moment fun _ ↦ hown)
  cases event with
  | transmit role => exact hlive role (.meets .transmit) nofun
  | work role => exact hlive role .work nofun
  | cancel role => exact hlive role .cancel nofun
  | quit role => exact hlive role (.meets .quit) nofun
  | connection role isUp => exact hlive role (.meets (.connection isUp)) nofun
  | faults role faults => exact hlive role (.meets (.faults faults)) nofun
  | take role =>
    unfold Conversation.step
    dsimp only
    split
    · exact h
    rename_i message rest hway
    have hsuits := h.arrives hway
    -- what is still underway to the side after the message has been taken was so before
    have hdropped : (c.onSide (peer role) (·.onChannel Channel.drop)).InTune requestId family := by
      refine h.onSide ((h.keepsTo (peer role)).of_exchange_eq rfl) fun other hmem ↦
        h.suits (peer role) other ?_
      rw [Channel.underway_drop hway]
      exact List.mem_cons_of_mem message hmem
    exact hdropped.speaks ((hdropped.keepsTo role).process message)
      ((hdropped.keepsTo role).speaks_process fun _ ↦ hsuits.requestId)

/-- **Both sides are in tune** in every run. -/
theorem InTune.run (h : c.InTune requestId family) (events : List Event) :
    (c.run events).InTune requestId family := by
  induction events generalizing c with
  | nil => exact h
  | cons event rest ih => exact ih (h.step event)

/-- The opening request is the first thing that is said. -/
theorem inTune_start (family : Family) (requestId : String) (client server : Machine) :
    (start family requestId client server).InTune requestId family := by
  have hclient : (client.side .initiator family requestId).KeepsTo requestId family .initiator :=
    .fresh ..
  have hserver : (server.side .responder family requestId).KeepsTo requestId family .responder :=
    .fresh ..
  let request := (client.side .initiator family requestId).exchange.initialRequest
    client.settings.request
  have hrequest : request.Suits requestId family (peer .initiator) :=
    hclient.suits_initialRequest client.settings.request
  obtain ⟨messages, hsaid, hmessages⟩ :
      (client.side .initiator family requestId).world.Says (·.Suits requestId family .responder)
        (start family requestId client server).client.world :=
    (Composed.send hrequest).speaks (client.side .initiator family requestId).world
  constructor <;> intro role <;> cases role
  · exact hserver
  · exact hclient.of_exchange_eq rfl
  · exact fun message hmem ↦ by cases hmem
  · show ∀ message ∈ (start family requestId client server).client.world.outlet.underway, _
    rw [hsaid]
    exact hmessages

/-- **What arrives at a side is accepted**, and if it tells a failure, nothing is said about it. -/
theorem InTune.takes (h : c.InTune requestId family) {role : Role} {message : Message}
    {rest : List Message} (hway : (c.side (peer role)).world.outlet.onWay = message :: rest) :
    (∃ command, (c.side role).exchange.check message = .ok command) ∧
      ∀ command, message.command? = some command → command.isError = true →
        ((c.step (.take role)).side role).world.outlet.underway =
          (c.side role).world.outlet.underway := by
  obtain ⟨taken, hcheck⟩ := (h.keepsTo role).exists_check_eq_ok.2 (h.arrives hway)
  refine ⟨⟨taken, hcheck⟩, fun command hcommand herror ↦ ?_⟩
  have htakes : (c.step (.take role)).side role = (c.side role).process message := by
    unfold Conversation.step
    simp only [hway, side_onSide, if_true, if_neg (peer_ne role).symm]
  rw [htakes]
  cases role with
  | initiator => exact (h.keepsTo .initiator).silent_of_isError hcommand herror
  | responder =>
    obtain ⟨-, hfound, -, hmay⟩ := Exchange.of_check_eq_ok hcheck
    obtain rfl := Option.some.inj (hcommand.symm.trans hfound)
    rw [(h.keepsTo .responder).role] at hmay
    rw [Exchange.eq_uploadError_of_mayReceive hmay herror] at hcheck
    exact (h.keepsTo .responder).silent_of_uploadError hcheck

/-! ### The same protocol -/

variable {initiator responder : Side}

/-- **What an initiator says** is accepted by the responder, and it says nothing about failures and
about what it rejects. -/
theorem initiator_speaks (hinitiator : initiator.KeepsTo requestId family .initiator)
    (hresponder : responder.KeepsTo requestId family .responder) (moment : Moment) :
    ∃ said, (initiator.live moment).world.outlet.underway =
        initiator.world.outlet.underway ++ said ∧
      (∀ message ∈ said, ∃ command, responder.exchange.check message = .ok command ∧
        (command.isError = true → command = .uploadError)) ∧
      ∀ message, moment = .meets (.message message) →
        (∀ command, message.command? = some command → command.isError = true → said = []) ∧
        (∀ error, initiator.answer message = .error error → error.isRejection = true →
          said = []) ∧
        ∀ cause, initiator.answer message = .error (.io cause) →
          said = [] ∨ ∃ status, said = [uploadFailed requestId status] := by
  obtain ⟨said, hsaid, hsuits⟩ := hinitiator.speaks_live moment nofun
  refine ⟨said, hsaid, fun message hmem ↦ ?_, ?_⟩
  · obtain ⟨command, hcheck⟩ := hresponder.exists_check_eq_ok.2 (hsuits message hmem)
    refine ⟨command, hcheck, fun herror ↦ ?_⟩
    obtain ⟨-, -, -, hmay⟩ := Exchange.of_check_eq_ok hcheck
    rw [hresponder.role] at hmay
    exact Exchange.eq_uploadError_of_mayReceive hmay herror
  · rintro message rfl
    have hsilent (h : (initiator.process message).world.outlet.underway =
        initiator.world.outlet.underway) : said = [] :=
      List.append_right_eq_self.1 (hsaid.symm.trans h)
    refine ⟨fun command hcommand herror ↦ hsilent (hinitiator.silent_of_isError hcommand herror),
      fun error hanswer hrejection ↦ ?_, fun cause hanswer ↦ ?_⟩
    · rcases hinitiator.said_of_error hanswer with h | ⟨cause, rfl⟩ | ⟨cause, status, rfl, -⟩
      · exact hsilent h
      · cases hrejection
      · cases hrejection
    · rcases hinitiator.said_of_error hanswer with h | ⟨_, heq⟩ | ⟨_, status, -, htold⟩
      · exact .inl (hsilent h)
      · cases heq
      · exact .inr ⟨status, List.append_cancel_left (hsaid.symm.trans htold)⟩

/-- **What a responder says** is accepted by the initiator, unless it is about a message that has a
foreign id, and it says nothing when the upload is given up. -/
theorem responder_speaks (hinitiator : initiator.KeepsTo requestId family .initiator)
    (hresponder : responder.KeepsTo requestId family .responder) (moment : Moment) :
    ∃ said, (responder.live moment).world.outlet.underway =
        responder.world.outlet.underway ++ said ∧
      ((∀ message, moment = .meets (.message message) → message.requestId = requestId) →
        ∀ message ∈ said, ∃ command, initiator.exchange.check message = .ok command) ∧
      ∀ message, moment = .meets (.message message) →
        responder.exchange.check message = .ok .uploadError → said = [] := by
  by_cases hown : ∀ message, moment = .meets (.message message) → message.requestId = requestId
  · obtain ⟨said, hsaid, hsuits⟩ := hresponder.speaks_live moment fun _ ↦ hown
    refine ⟨said, hsaid, fun _ message hmem ↦
      hinitiator.exists_check_eq_ok.2 (hsuits message hmem), ?_⟩
    rintro message rfl hcheck
    exact List.append_right_eq_self.1
      (hsaid.symm.trans (hresponder.silent_of_uploadError hcheck))
  · have hagree : responder.Agree (responder.live moment) responder (responder.live moment) :=
      (Side.Alike.refl responder).live fun _ ↦ rfl
    obtain ⟨said, hsaid, -⟩ := hagree.queued
    refine ⟨said, hsaid, fun h ↦ absurd h hown, ?_⟩
    -- a message with a foreign id is not accepted
    rintro message rfl hcheck
    refine absurd (fun other heq ↦ ?_) hown
    cases heq
    exact (Exchange.of_check_eq_ok hcheck).1.trans hresponder.requestId

/-- **Both sides speak the same protocol.** Take any initiator and any responder of one family and
one id, in any states that they can be in. The opening request of the initiator is accepted by the
responder. In any moment, whatever the initiator says is accepted by the responder, and the only
error command that it ever says is the one that gives an upload up. It says nothing about an error
command or about a message that it rejects; if it is its local file that fails, it says that it
gives the upload up, and nothing else. Whatever the responder says is accepted by the initiator,
unless the moment is one in which it is given a message with a foreign id, and it says nothing when
it is told that the upload has been given up.

So in a conversation, whatever arrives is accepted, and if it tells a failure, nothing is said about
it: failures never go back and forth. -/
theorem same_protocol (hinitiator : initiator.Reachable requestId family .initiator)
    (hresponder : responder.Reachable requestId family .responder) :
    (∀ request, ∃ command,
      responder.exchange.check (initiator.exchange.initialRequest request) = .ok command) ∧
    (∀ moment, ∃ said, (initiator.live moment).world.outlet.underway =
        initiator.world.outlet.underway ++ said ∧
      (∀ message ∈ said, ∃ command, responder.exchange.check message = .ok command ∧
        (command.isError = true → command = .uploadError)) ∧
      ∀ message, moment = .meets (.message message) →
        (∀ command, message.command? = some command → command.isError = true → said = []) ∧
        (∀ error, initiator.answer message = .error error → error.isRejection = true →
          said = []) ∧
        ∀ cause, initiator.answer message = .error (.io cause) →
          said = [] ∨ ∃ status, said = [uploadFailed requestId status]) ∧
    (∀ moment, ∃ said, (responder.live moment).world.outlet.underway =
        responder.world.outlet.underway ++ said ∧
      ((∀ message, moment = .meets (.message message) → message.requestId = requestId) →
        ∀ message ∈ said, ∃ command, initiator.exchange.check message = .ok command) ∧
      ∀ message, moment = .meets (.message message) →
        responder.exchange.check message = .ok .uploadError → said = []) ∧
    ∀ (client server : Machine) (events : List Event) (role : Role) (message : Message)
      (rest : List Message),
      let c := (start family requestId client server).run events
      (c.side (peer role)).world.outlet.onWay = message :: rest →
        (∃ command, (c.side role).exchange.check message = .ok command) ∧
        ∀ command, message.command? = some command → command.isError = true →
          ((c.step (.take role)).side role).world.outlet.underway =
            (c.side role).world.outlet.underway := by
  have hasks := hinitiator.keepsTo
  have hanswers := hresponder.keepsTo
  refine ⟨fun request ↦ hanswers.exists_check_eq_ok.2 (hasks.suits_initialRequest request),
    initiator_speaks hasks hanswers, responder_speaks hasks hanswers, ?_⟩
  intro client server events role message rest c hway
  exact ((inTune_start family requestId client server).run events).takes hway

/-- A client whose local file is missing. -/
def emptyHanded : Side :=
  { smallClient with settings := default }.side .initiator .upload "7"

/-- A server that has opened an upload. -/
def expectant : Side :=
  (smallServer.side .responder .upload "7").live (.meets (.message
    (emptyHanded.exchange.initialRequest smallClient.settings.request)))

/-- The server lets the client begin. What the client says then, the server takes without a word. -/
theorem same_protocol_emptyHanded :
    emptyHanded.Reachable "7" .upload .initiator ∧ expectant.Reachable "7" .upload .responder ∧
    expectant.world.outlet.underway = [uploadReady "7"] ∧
    ∃ status, (emptyHanded.live (.meets (.message (uploadReady "7")))).world.outlet.underway =
        [uploadFailed "7" status] ∧
      expectant.exchange.check (uploadFailed "7" status) = .ok .uploadError ∧
      (expectant.live (.meets (.message (uploadFailed "7" status)))).world.outlet.underway =
        expectant.world.outlet.underway := by
  have hinitiator : emptyHanded.Reachable "7" .upload .initiator := .fresh _ _
  have hresponder : expectant.Reachable "7" .upload .responder := .live (.fresh _ _) _
  obtain ⟨-, hasks, hanswers, -⟩ := same_protocol hinitiator hresponder
  obtain ⟨said, hsaid, haccepted, hreacts⟩ := hasks (.meets (.message (uploadReady "7")))
  obtain ⟨-, -, hfails⟩ := hreacts _ rfl
  have hanswer : emptyHanded.answer (uploadReady "7") = .error (.io (.ofErrno .notFound)) := by
    decide +kernel
  have hnothing : emptyHanded.world.outlet.underway = [] := rfl
  have hspeaks : (emptyHanded.live
      (.meets (.message (uploadReady "7")))).world.outlet.underway ≠ [] := by
    decide +kernel
  obtain ⟨status, rfl⟩ : ∃ status, said = [uploadFailed "7" status] := by
    refine (hfails _ hanswer).resolve_left fun hsilent ↦ hspeaks ?_
    rw [hsaid, hsilent, hnothing, List.append_nil]
  obtain ⟨command, hcheck, -⟩ := haccepted _ (List.mem_singleton_self _)
  obtain rfl : command = .uploadError :=
    Option.some.inj ((Exchange.of_check_eq_ok hcheck).2.1.symm.trans (Message.command?_of ..))
  obtain ⟨reply, hreply, -, hsilent⟩ := hanswers (.meets (.message (uploadFailed "7" status)))
  refine ⟨hinitiator, hresponder, by decide +kernel, status, ?_, hcheck, ?_⟩
  · rw [hsaid, hnothing, List.nil_append]
  · rw [hreply, hsilent _ rfl hcheck, List.append_nil]

end Conversation

end FileShare
