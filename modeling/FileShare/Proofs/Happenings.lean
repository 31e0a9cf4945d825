import FileShare.Proofs.Receiving

/-!
# What a responder of an upload can meet with

One side on its own: messages that are delivered to it in any order, a connection that goes bad or
recovers, other faults of its store, and that it is told to quit (`Happening`). A run is any list of
these (`Side.follow`), so a statement about all runs is one about every order of messages, whole or
malformed, its own or foreign, and about every script of failures.

What the responder of an upload does with a message is said once, in `Receiver.Takes`: there is one
case for each way through it, with the calls that were made and what came of them. What it does
with the message besides, it does to its channel (`Side.process_takes`). All that is proved about
runs goes by these cases.
-/

namespace FileShare

/-! ### Runs -/

/-- What may happen to one side. -/
inductive Happening where
  /-- A message is delivered. -/
  | message (message : Message)
  | quit
  /-- The oldest message that waits goes on its way. -/
  | transmit
  /-- From here on, the connection is found in order, or not. -/
  | connection (isUp : Bool)
  /-- From here on, other calls on the shares fail. -/
  | faults (faults : List Fault)
  deriving DecidableEq

namespace Side

/-- What one happening does. -/
def meet (side : Side) : Happening → Side
  | .message message => side.process message
  | .quit => side.quit
  | .transmit => side.onChannel Channel.transmit
  | .connection isUp => side.onChannel ({ · with isUp })
  | .faults faults => side.withFaults faults

/-- Happenings in turn. -/
def follow (side : Side) (happenings : List Happening) : Side :=
  happenings.foldl meet side

@[simp] theorem follow_nil (side : Side) : side.follow [] = side := rfl

@[simp] theorem follow_cons (side : Side) (happening : Happening) (rest : List Happening) :
    side.follow (happening :: rest) = (side.meet happening).follow rest := rfl

/-- What comes of a message for whoever delivers it. -/
def answer (side : Side) (message : Message) : Except ExchangeError Unit :=
  ((side.exchange.process side.settings message).run side.world).1.1

end Side

/-! ### Taking a message -/

namespace Receiver

/-- The upload that is being written is removed, if there is one. -/
def Discards (receiver : Receiver) (store store' : Store) : Prop :=
  match receiver.receiving with
  | none => store' = store
  | some receiving => receiving.discard.run store = ((), store')

variable {ω : Type}

theorem discard_run {receiver receiver' : Receiver} {world world' : World ω}
    (h : receiver.discard.run world = (receiver', world')) :
    receiver' = { receiver with receiving := none } ∧
      ∃ store, world' = { world with store } ∧ receiver.Discards world.store store := by
  unfold Discards
  cases hreceiving : receiver.receiving with
  | none =>
    rw [discard_run_of_none hreceiving] at h
    obtain ⟨rfl, rfl⟩ := Prod.mk.inj h
    exact ⟨by rw [← hreceiving], _, rfl, rfl⟩
  | some receiving =>
    unfold discard at h
    rw [hreceiving] at h
    obtain ⟨rfl, rfl⟩ := Prod.mk.inj h
    exact ⟨rfl, _, rfl, rfl⟩

/-- **What a responder of an upload does with a command**, one case for each way through it: what
comes of it, what the responder is then, and what the world is. -/
inductive Takes [Outlet ω] (requestId : String) (message : Message) (receiver : Receiver)
    (world : World ω) : Command → Except ExchangeError Unit → Receiver → World ω → Prop
  /-- No temporary file could be opened. -/
  | notOpened {error : ExchangeError} {world' : World ω}
      (hopen : (openTemporary message).run.run world = (.error error, world')) :
      Takes requestId message receiver world .uploadInitReq (.error error) receiver world'
  /-- A temporary file has been opened, and the one from before has been removed. -/
  | opened {receiving : Receiving} {mid world' : World ω} {store : Store}
      {result : Except ExchangeError Unit}
      (hopen : (openTemporary message).run.run world = (.ok receiving, mid))
      (hdiscards : receiver.Discards mid.store store)
      (hsend : (World.send (.of requestId .uploadInitResp (.status .success))).run.run
        { mid with store } = (result, world')) :
      Takes requestId message receiver world .uploadInitReq result ⟨some receiving, false, false⟩
        world'
  /-- The stream has failed, and its rest is dropped. -/
  | dropped {command : Command} (hcommand : command = .uploadDataReq ∨ command = .uploadEndReq)
      (hfailed : receiver.failed = true) :
      Takes requestId message receiver world command (.ok ()) receiver world
  /-- There is no piece in the message. -/
  | malformed (hfailed : receiver.failed = false) (hdata : message.uploadData? = none) :
      Takes requestId message receiver world .uploadDataReq
        (.error (.missingBody .uploadDataReq)) receiver world
  /-- Nothing is being written. -/
  | unexpected {command : Command}
      (hcommand : command = .uploadDataReq ∧ message.uploadData? ≠ none ∨ command = .uploadEndReq)
      (hfailed : receiver.failed = false) (hnone : receiver.receiving = none) :
      Takes requestId message receiver world command (.error (.unexpectedCommand command.code))
        { receiver with failed := true } world
  /-- A piece has been written. -/
  | piece {data : ByteArray} {receiving : Receiving} {action : ShareM Unit} {store : Store}
      (hfailed : receiver.failed = false) (hdata : message.uploadData? = some data)
      (hreceiving : receiver.receiving = some receiving)
      (haction : receiving.write data = .ok action)
      (hwrite : action.run.run world.store = (.ok (), store)) :
      Takes requestId message receiver world .uploadDataReq (.ok ()) receiver { world with store }
  /-- A piece could not be written whole, and the upload has been removed. -/
  | torn {data : ByteArray} {receiving : Receiving} {action : ShareM Unit} {error : ShareError}
      {mid store : Store}
      (hfailed : receiver.failed = false) (hdata : message.uploadData? = some data)
      (hreceiving : receiver.receiving = some receiving)
      (haction : receiving.write data = .ok action)
      (hwrite : action.run.run world.store = (.error error, mid))
      (hdiscard : receiving.discard.run mid = ((), store)) :
      Takes requestId message receiver world .uploadDataReq (.error (.share error))
        { receiver with receiving := none, failed := true } { world with store }
  /-- The upload has been put into its place. -/
  | committed {receiving : Receiving} {store : Store} {world' : World ω}
      {result : Except ExchangeError Unit}
      (hfailed : receiver.failed = false) (hreceiving : receiver.receiving = some receiving)
      (hcommit : receiving.commit.run.run world.store = (.ok (), store))
      (hsend : (World.send (.of requestId .uploadEndResp (.status .success))).run.run
        { world with store } = (result, world')) :
      Takes requestId message receiver world .uploadEndReq result ⟨none, false, true⟩ world'
  /-- The upload could not be put into its place, and has been removed. -/
  | uncommitted {receiving : Receiving} {error : ShareError} {mid store : Store}
      (hfailed : receiver.failed = false) (hreceiving : receiver.receiving = some receiving)
      (hcommit : receiving.commit.run.run world.store = (.error error, mid))
      (hdiscard : ({ receiving with file := none } : Receiving).discard.run mid = ((), store)) :
      Takes requestId message receiver world .uploadEndReq (.error (.share error))
        { receiver with receiving := none, failed := true } { world with store }
  /-- The upload has been given up. -/
  | abandoned {store : Store} (hdiscards : receiver.Discards world.store store) :
      Takes requestId message receiver world .uploadError (.ok ())
        { receiver with receiving := none, failed := true, finished := true } { world with store }

variable [Outlet ω] {requestId : String} {message : Message} {receiver receiver' : Receiver}
variable {world world' : World ω} {result : Except ExchangeError Unit}

theorem begin_takes
    (h : (receiver.begin requestId message).run world = ((result, receiver'), world')) :
    receiver.Takes requestId message world .uploadInitReq result receiver' world' := by
  unfold Receiver.begin at h
  rcases hopen : (openTemporary message).run.run world with ⟨error | receiving, mid⟩
  · rw [StateT.run_bind, hopen] at h
    obtain ⟨rfl, rfl, rfl⟩ := run_inj h
    exact .notOpened hopen
  · rw [StateT.run_bind, hopen] at h
    rcases hdiscard : receiver.discard.run mid with ⟨previous, last⟩
    obtain ⟨-, store, rfl, hdiscards⟩ := discard_run hdiscard
    change (receiver.discard >>= fun _ ↦
      (World.send (.of requestId .uploadInitResp (.status .success))).run >>= fun told ↦
        pure (told, (⟨some receiving, false, false⟩ : Receiver)) :
          WorldM ω (Handled Receiver)).run mid = _ at h
    rw [StateT.run_bind, hdiscard] at h
    rcases hsend : (World.send (.of requestId .uploadInitResp (.status .success))).run.run
      { mid with store } with ⟨told, after⟩
    change ((World.send (.of requestId .uploadInitResp (.status .success))).run >>= fun told ↦
        pure (told, (⟨some receiving, false, false⟩ : Receiver)) :
          WorldM ω (Handled Receiver)).run { mid with store } = _ at h
    rw [StateT.run_bind, hsend] at h
    obtain ⟨rfl, rfl, rfl⟩ := run_inj h
    exact .opened hopen hdiscards hsend

theorem accept_takes
    (hhandle : ∀ receiving, receiver.receiving = some receiving → receiving.file ≠ none)
    (h : (receiver.accept message).run world = ((result, receiver'), world')) :
    receiver.Takes requestId message world .uploadDataReq result receiver' world' := by
  unfold Receiver.accept at h
  cases hfailed : receiver.failed with
  | true =>
    rw [hfailed] at h
    obtain ⟨rfl, rfl, rfl⟩ := run_inj h
    exact .dropped (.inl rfl) hfailed
  | false =>
    rw [hfailed] at h
    simp only [Bool.false_eq_true, if_false] at h
    cases hdata : message.uploadData? with
    | none =>
      rw [hdata] at h
      obtain ⟨rfl, rfl, rfl⟩ := run_inj h
      exact .malformed hfailed hdata
    | some data =>
      rw [hdata] at h
      cases hreceiving : receiver.receiving with
      | none =>
        rw [hreceiving] at h
        dsimp only at h
        rw [abort_run, discard_run_of_none hreceiving] at h
        obtain ⟨rfl, rfl, rfl⟩ := run_inj h
        exact .unexpected (.inl ⟨rfl, by simp [hdata]⟩) hfailed hreceiving
      | some receiving =>
        rw [hreceiving] at h
        dsimp only at h
        obtain ⟨id, hid⟩ := Option.ne_none_iff_exists'.1 (hhandle receiving hreceiving)
        have haction : receiving.write data = .ok (receiving.writeAll id data.size data) := by
          unfold Receiving.write
          rw [hid]
        rw [haction] at h
        dsimp only at h
        rcases hwrite : (receiving.writeAll id data.size data).run.run world.store with
          ⟨error | _, mid⟩
        · rw [StateT.run_bind, World.share_run, hwrite] at h
          change (receiver.abort (.share error)).run { world with store := mid } = _ at h
          rw [abort_run] at h
          rcases hdiscard : receiver.discard.run { world with store := mid } with ⟨rest, last⟩
          obtain ⟨rfl, store, rfl, hdiscards⟩ := discard_run hdiscard
          rw [hdiscard] at h
          obtain ⟨rfl, rfl, rfl⟩ := run_inj h
          unfold Discards at hdiscards
          rw [hreceiving] at hdiscards
          exact .torn hfailed hdata hreceiving haction hwrite hdiscards
        · rw [StateT.run_bind, World.share_run, hwrite] at h
          obtain ⟨rfl, rfl, rfl⟩ := run_inj h
          exact .piece hfailed hdata hreceiving haction hwrite

theorem complete_takes
    (h : (receiver.complete requestId).run world = ((result, receiver'), world')) :
    receiver.Takes requestId message world .uploadEndReq result receiver' world' := by
  unfold Receiver.complete at h
  cases hfailed : receiver.failed with
  | true =>
    rw [hfailed] at h
    obtain ⟨rfl, rfl, rfl⟩ := run_inj h
    exact .dropped (.inr rfl) hfailed
  | false =>
    rw [hfailed] at h
    simp only [Bool.false_eq_true, if_false] at h
    cases hreceiving : receiver.receiving with
    | none =>
      rw [hreceiving] at h
      dsimp only at h
      rw [abort_run, discard_run_of_none hreceiving] at h
      obtain ⟨rfl, rfl, rfl⟩ := run_inj h
      exact .unexpected (.inr rfl) hfailed hreceiving
    | some receiving =>
      rw [hreceiving] at h
      dsimp only at h
      rcases hcommit : receiving.commit.run.run world.store with ⟨error | _, mid⟩
      · rw [StateT.run_bind, World.share_run, hcommit] at h
        change (({ receiver with receiving := some { receiving with file := none } } :
          Receiver).abort (.share error)).run { world with store := mid } = _ at h
        rw [abort_run] at h
        rcases hdiscard : ({ receiver with receiving := some { receiving with file := none } } :
          Receiver).discard.run { world with store := mid } with ⟨rest, last⟩
        obtain ⟨rfl, store, rfl, hdiscards⟩ := discard_run hdiscard
        rw [hdiscard] at h
        obtain ⟨rfl, rfl, rfl⟩ := run_inj h
        exact .uncommitted hfailed hreceiving hcommit hdiscards
      · rw [StateT.run_bind, World.share_run, hcommit] at h
        rcases hsend : (World.send (.of requestId .uploadEndResp (.status .success))).run.run
          { world with store := mid } with ⟨told, last⟩
        change ((World.send (.of requestId .uploadEndResp (.status .success))).run >>= fun told ↦
          pure (told, (⟨none, false, true⟩ : Receiver)) :
            WorldM ω (Handled Receiver)).run { world with store := mid } = _ at h
        rw [StateT.run_bind, hsend] at h
        obtain ⟨rfl, rfl, rfl⟩ := run_inj h
        exact .committed hfailed hreceiving hcommit hsend

theorem abandon_takes (h : receiver.abandon.run world = ((result, receiver'), world')) :
    receiver.Takes requestId message world .uploadError result receiver' world' := by
  unfold Receiver.abandon at h
  rcases hdiscard : receiver.discard.run world with ⟨rest, last⟩
  obtain ⟨rfl, store, rfl, hdiscards⟩ := discard_run hdiscard
  rw [StateT.run_bind, hdiscard] at h
  obtain ⟨rfl, rfl, rfl⟩ := run_inj h
  exact .abandoned hdiscards

end Receiver

namespace Side

variable {side : Side} {requestId : String} {receiver : Receiver} {message : Message}

/-- The world in which a failure has been told. -/
def told (requestId : String) (result : Except ExchangeError Unit) (world : World Channel) :
    World Channel :=
  match result with
  | .ok () => world
  | .error error => ((World.fail .responder .upload requestId error).run world).2

/-- **What a responder of an upload does with any message.** It refuses it, or it takes a command
of its own; in either case, a failure is told under the id of the message. -/
theorem process_takes (hexchange : side.exchange = ⟨requestId, .responder (.upload receiver)⟩)
    (hhandle : ∀ receiving, receiver.receiving = some receiving → receiving.file ≠ none) :
    (∃ error, side.exchange.check message = .error error ∧ side.answer message = .error error ∧
        side.process message =
          ⟨side.settings, side.exchange, told message.requestId (.error error) side.world⟩) ∨
      ∃ command receiver' mid, message.requestId = requestId ∧ message.command? = some command ∧
        receiver.Takes requestId message side.world command (side.answer message) receiver' mid ∧
        side.process message = ⟨side.settings, ⟨requestId, .responder (.upload receiver')⟩,
          told requestId (side.answer message) mid⟩ := by
  cases hcheck : side.exchange.check message with
  | error error =>
    refine .inl ⟨error, rfl, ?_, ?_⟩
    · unfold answer Exchange.process
      rw [hcheck]
      rfl
    · unfold Side.process Exchange.process
      rw [hcheck, hexchange]
      rfl
  | ok command =>
    obtain ⟨hid, hcommand, hfamily, hmay⟩ := Exchange.of_check_eq_ok hcheck
    rw [hexchange] at hid hfamily hmay
    have hfamily : command.family = .upload := hfamily
    have hmay : Exchange.mayReceive .responder command = true := hmay
    -- what comes of the message, from what the receiver makes of it
    have hprocess : ∀ {handled : WorldM Channel (Handled Receiver)} {result receiver' mid},
        Responder.handle side.settings requestId command message (.upload receiver) =
          (handled >>= fun handled ↦ pure (handled.1, .upload handled.2)) →
        handled.run side.world = ((result, receiver'), mid) →
        receiver.Takes requestId message side.world command result receiver' mid →
        ∃ command receiver' mid, message.requestId = requestId ∧
          message.command? = some command ∧
          receiver.Takes requestId message side.world command (side.answer message) receiver' mid ∧
          side.process message = ⟨side.settings, ⟨requestId, .responder (.upload receiver')⟩,
            told requestId (side.answer message) mid⟩ := by
      intro handled result receiver' mid hhandle hrun htakes
      have hhandled : (side.exchange.handle side.settings command message).run side.world =
          ((result, ⟨requestId, .responder (.upload receiver')⟩), mid) := by
        rw [hexchange]
        change (Responder.handle side.settings requestId command message (.upload receiver) >>=
          fun handled ↦ pure (handled.1, (⟨requestId, .responder handled.2⟩ : Exchange)) :
            WorldM Channel (Handled Exchange)).run side.world = _
        rw [StateT.run_bind, hhandle, StateT.run_bind, hrun]
        rfl
      have hresult : side.answer message = result := by
        unfold answer
        rw [Exchange.process_run _ _ hcheck, hhandled]
      refine ⟨command, receiver', mid, hid, hcommand, hresult ▸ htakes, ?_⟩
      rw [process_eq hcheck, hhandled, hexchange, hresult, hid]
      cases result <;> rfl
    refine .inr ?_
    cases command with
    | uploadInitReq =>
      rcases hrun : (receiver.begin requestId message).run side.world with ⟨⟨result, _⟩, mid⟩
      exact hprocess rfl hrun (Receiver.begin_takes hrun)
    | uploadDataReq =>
      rcases hrun : (receiver.accept message).run side.world with ⟨⟨result, _⟩, mid⟩
      exact hprocess rfl hrun (Receiver.accept_takes hhandle hrun)
    | uploadEndReq =>
      rcases hrun : (receiver.complete requestId).run side.world with ⟨⟨result, _⟩, mid⟩
      exact hprocess rfl hrun (Receiver.complete_takes hrun)
    | uploadError =>
      rcases hrun : receiver.abandon.run side.world with ⟨⟨result, _⟩, mid⟩
      exact hprocess rfl hrun (Receiver.abandon_takes hrun)
    | _ => exact absurd (And.intro hfamily hmay) (by decide)

/-- To tell a failure is to queue the error command of the family, or nothing. -/
theorem told_cases (requestId : String) (result : Except ExchangeError Unit)
    (world : World Channel) :
    world.OnChannel (told requestId result world) ∧
      ((told requestId result world).outlet.underway = world.outlet.underway ∨
        ∃ status, (told requestId result world).outlet.underway =
          world.outlet.underway ++ [.of requestId .uploadError (.status status)]) := by
  cases result with
  | ok _ => exact ⟨⟨rfl, rfl, rfl, rfl⟩, .inl rfl⟩
  | error error => exact World.fail_responder_cases rfl

/-- **A responder of an upload quits**: an upload that is not finished is removed. -/
theorem quit_receiver (hexchange : side.exchange = ⟨requestId, .responder (.upload receiver)⟩) :
    receiver.finished = true ∧ side.quit = side ∨
      receiver.finished = false ∧ ∃ store, receiver.Discards side.world.store store ∧
        side.quit = ⟨side.settings,
          ⟨requestId, .responder (.upload { receiver with receiving := none })⟩,
          { side.world with store }⟩ := by
  rcases hrun : receiver.quit.run side.world with ⟨receiver', mid⟩
  have hquit : (Responder.quit (.upload receiver)).run side.world = (.upload receiver', mid) := by
    change (receiver.quit >>= fun rest ↦ pure (Responder.upload rest) :
      WorldM Channel Responder).run side.world = _
    rw [StateT.run_bind, hrun]
    rfl
  rw [quit_responder hexchange hquit]
  unfold Receiver.quit at hrun
  cases hfinished : receiver.finished with
  | true =>
    rw [hfinished] at hrun
    obtain ⟨rfl, rfl⟩ := Prod.mk.inj hrun
    exact .inl ⟨rfl, by rw [← hexchange]⟩
  | false =>
    rw [hfinished] at hrun
    obtain ⟨rfl, store, rfl, hdiscards⟩ := Receiver.discard_run hrun
    exact .inr ⟨rfl, store, hdiscards, by rw [hfinished]⟩

end Side

end FileShare
