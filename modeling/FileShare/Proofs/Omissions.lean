import FileShare.Proofs.Disposal
import FileShare.Proofs.Refusals

/-!
# Pieces that are refused

A responder of an upload may answer a piece with a failure, and go on being sent the rest of the
stream. Then it depends on why the piece was refused whether the upload can still be put into its
place. There are two kinds of refusals.

* A call on the share has failed, or nothing is being written. The responder remembers that its
  stream has failed. Until another temporary file has been opened, nothing is renamed, and pieces
  and ends of uploads cause nothing at all.
* There is no piece in the message. The responder tells so, and that is all it does. Whatever comes
  next comes to what it would have come to without that message (`Side.Alike.follow`), so the end of
  the upload puts into place what was written before and after, with a gap where the piece should
  have been.

That nothing is renamed is read off the accounts: a responder whose stream has failed has nothing
live, so without another opening there is nothing that could be settled
(`Receiver.Settles.of_failed`).
-/

namespace FileShare

/-- Accounts of nothing are empty. -/
theorem Accounts.eq_nil {ledger : Ledger} {live : List (String × String)}
    (h : Accounts [] ledger live) : ledger.renamed = [] ∧ ledger.unlinked = [] ∧ live = [] := by
  obtain ⟨removed, hremoved, hperm⟩ := h
  obtain ⟨hsettled, hlive⟩ := List.append_eq_nil_iff.1 hperm.symm.eq_nil
  obtain ⟨hrenamed, rfl⟩ := List.append_eq_nil_iff.1 hsettled
  exact ⟨hrenamed, hremoved.symm, hlive⟩

namespace Receiver

variable {receiver receiver' : Receiver} {store store' : Store} {ledger : Ledger}

/-- Nothing is live once the stream has failed. -/
theorem Sound.live_eq_nil (h : receiver.Sound store) (hfailed : receiver.failed = true) :
    receiver.live = [] := by
  unfold live
  cases hreceiving : receiver.receiving with
  | none => rfl
  | some receiving =>
    obtain ⟨hrunning, -⟩ := h receiving hreceiving
    rw [hfailed] at hrunning
    cases hrunning

/-- **A responder whose stream has failed renames nothing**, and is still one, as long as it opens
nothing. -/
theorem Settles.of_failed (hsound : receiver.Sound store) (hfailed : receiver.failed = true)
    (h : receiver.Settles receiver' store store' [] ledger) :
    receiver'.failed = true ∧ ledger.renamed = [] := by
  have haccounts := h.accounts
  rw [hsound.live_eq_nil hfailed, List.append_nil] at haccounts
  exact ⟨h.failed hfailed rfl, haccounts.eq_nil.1⟩

/-- **Why a piece is refused**, and what the responder makes of it. -/
theorem Takes.refused {requestId : String} {message : Message} {world mid : World Channel}
    {error : ExchangeError}
    (h : receiver.Takes requestId message world .uploadDataReq (.error error) receiver' mid) :
    message.uploadData? = none ∧ error = .missingBody .uploadDataReq ∧ receiver' = receiver ∧
        mid = world ∨
      message.uploadData? ≠ none ∧ error ≠ .missingBody .uploadDataReq ∧
        receiver'.failed = true := by
  cases h with
  | malformed _ hdata => exact .inl ⟨hdata, rfl, rfl, rfl⟩
  | unexpected hcommand =>
    obtain ⟨-, hdata⟩ | hother := hcommand
    · exact .inr ⟨hdata, nofun, rfl⟩
    · cases hother
  | torn _ hdata => exact .inr ⟨by simp [hdata], nofun, rfl⟩

end Receiver

namespace Side

variable {side other : Side} {requestId : String} {receiver : Receiver} {message : Message}

/-- **What happens comes to the same for two sides that are alike.** -/
theorem Alike.follow (h : side.Alike other) (happenings : List Happening) :
    (side.follow happenings).Alike (other.follow happenings) := by
  induction happenings generalizing side other with
  | nil => exact h
  | cons happening rest ih =>
    have hfree : Moment.meets happening = .work →
        Outlet.hasSpace other.world.outlet = Outlet.hasSpace side.world.outlet := nofun
    exact ih (h.live hfree).alike

/-- To tell a failure touches nothing but the channel. -/
theorem alike_told (side : Side) (requestId : String) (result : Except ExchangeError Unit) :
    side.Alike { side with world := told requestId result side.world } := by
  have hsend (status : Status) :=
    (side.queuedUntil_send (.of requestId .uploadError (.status status))).1
  rcases result with error | _
  · cases error with
    | session cause => exact .refl side
    | _ => exact hsend _
  · exact .refl side

/-- **A responder whose stream has failed is done with it**: whatever happens then, until another
temporary file has been opened, nothing is renamed, and pieces and ends of uploads cause nothing. -/
theorem follow_of_failed
    (hexchange : side.exchange = ⟨requestId, .responder (.upload receiver)⟩)
    (hsound : receiver.Sound side.world.store) (hfailed : receiver.failed = true)
    {later : List Happening} (hquiet : side.openings later = []) :
    (side.world.store.ledger (side.follow later).world.store).renamed = [] ∧
      ∀ message : Message, message.requestId = requestId →
        message.command? = some .uploadDataReq ∨ message.command? = some .uploadEndReq →
        (side.follow later).process message = side.follow later := by
  obtain ⟨last, ledger, hlast, hsoundLast, hsettles⟩ := follow_settles hexchange hsound later
  rw [hquiet] at hsettles
  obtain ⟨hstill, hrenamed⟩ := hsettles.of_failed hsound hfailed
  rw [hsettles.tells.ledger_eq]
  exact ⟨hrenamed, fun message ↦ process_of_failed hlast hsoundLast hstill⟩

/-- **A refused piece ends its upload, unless there was no piece in the message.** Whatever has
happened to a responder of an upload, in any order and whatever failed, and then a piece is answered
with a failure:

* if there is no piece in the message, it is told so, and nothing else changes; whatever happens
  from then on comes to the same responder and the same share, with the same calls, as without that
  message;
* if there is one, then until another temporary file has been opened, nothing is renamed, and pieces
  and ends of uploads cause nothing at all. -/
theorem refused_piece {side : Side} {requestId : String}
    (hstart : side.exchange = .ofFamily .responder .upload requestId) (before : List Happening)
    {piece : Message} (hid : piece.requestId = requestId)
    (hpiece : piece.command? = some .uploadDataReq) {error : ExchangeError}
    (hrefused : (side.follow before).answer piece = .error error) :
    let now := side.follow before
    let next := now.process piece
    (piece.uploadData? = none → error = .missingBody .uploadDataReq ∧
      next = { now with world := told requestId (.error error) now.world } ∧
      ∀ later : List Happening, (next.follow later).exchange = (now.follow later).exchange ∧
        (next.follow later).world.store = (now.follow later).world.store) ∧
    (piece.uploadData? ≠ none → ∀ later : List Happening, next.openings later = [] →
      (next.world.store.ledger (next.follow later).world.store).renamed = [] ∧
      ∀ message : Message, message.requestId = requestId →
        message.command? = some .uploadDataReq ∨ message.command? = some .uploadEndReq →
        (next.follow later).process message = next.follow later) := by
  intro now next
  obtain ⟨receiver, -, hexchange, hsound, -⟩ := follow_settles hstart (.of_none rfl) before
  obtain ⟨receiver', mid, htakes, hprocess⟩ :=
    process_takes_of hexchange hsound hid hpiece rfl rfl
  rw [hrefused] at htakes hprocess
  rcases htakes.refused with ⟨hdata, rfl, rfl, rfl⟩ | ⟨hdata, -, hfailed⟩
  · have hnext : next = { now with
        world := told requestId (.error (.missingBody .uploadDataReq)) now.world } := by
      rw [← hexchange] at hprocess
      exact hprocess
    refine ⟨fun _ ↦ ⟨rfl, hnext, fun later ↦ ?_⟩, fun hthere ↦ absurd hdata hthere⟩
    have halike : now.Alike next := by
      rw [hnext]
      exact now.alike_told requestId _
    exact ⟨(halike.follow later).exchange, (halike.follow later).world.store⟩
  · refine ⟨fun hnone ↦ absurd hnone hdata, fun _ later hquiet ↦ ?_⟩
    obtain ⟨found, -, hfound, hsoundNext, -⟩ := meet_settles hexchange hsound (.message piece)
    have hsame : next.exchange = ⟨requestId, .responder (.upload receiver')⟩ :=
      congrArg exchange hprocess
    obtain ⟨-, hparty⟩ := Exchange.mk.inj (hfound.symm.trans hsame)
    obtain rfl := Responder.upload.inj (Party.responder.inj hparty)
    exact follow_of_failed hfound hsoundNext hfailed hquiet

/-- An upload is opened, and a piece of it is written. -/
def hollowStart : List Happening :=
  [.message (uploadOpening Conversation.smallClient "7"), .message brokenPiece]

/-- A message in which there should be a piece, and is none. -/
def hollowPiece : Message :=
  .bare "7" .uploadDataReq

/-- Another piece is written, and the upload ends. -/
def hollowRest : List Happening :=
  [.message brokenPiece, .message (uploadEnd "7")]

/-- **An upload with a gap is put into its place**, and that is confirmed. One of which a piece
could not be written is not. -/
theorem refused_piece_hollow :
    let start := Conversation.smallServer.side .responder .upload "7"
    let hollow := (start.follow hollowStart).process hollowPiece
    let broken := (start.follow brokenStart).process brokenPiece
    (start.follow hollowStart).answer hollowPiece = .error (.missingBody .uploadDataReq) ∧
    (hollow.follow hollowRest).world.store =
      ((start.follow hollowStart).follow hollowRest).world.store ∧
    (hollow.follow hollowRest).world.store.fs.fileAt
      ["srv".toUTF8, "box".toUTF8, "old".toUTF8] = some ⟨#[1, 2, 3, 1, 2, 3]⟩ ∧
    (hollow.follow hollowRest).world.outlet.underway.map (·.command?) =
      [some .uploadInitResp, some .uploadError, some .uploadEndResp] ∧
    (broken.world.store.ledger (broken.follow hollowRest).world.store).renamed = [] := by
  intro start hollow broken
  have hstart : start.exchange = .ofFamily .responder .upload "7" := rfl
  have hhollow : (start.follow hollowStart).answer hollowPiece =
      .error (.missingBody .uploadDataReq) := by decide +kernel
  have hbroken : (start.follow brokenStart).answer brokenPiece =
      .error (.share ⟨"write", Url.join "srv/box" (temporaryName 0), .ioFailure⟩) := by
    decide +kernel
  have hquiet : broken.openings hollowRest = [] := by decide +kernel
  obtain ⟨hgap, -⟩ := refused_piece hstart hollowStart rfl (by decide +kernel) hhollow
  obtain ⟨-, hend⟩ := refused_piece hstart brokenStart rfl (by decide +kernel) hbroken
  obtain ⟨-, -, hsame⟩ := hgap (by decide +kernel)
  refine ⟨hhollow, ?_, by decide +kernel, by decide +kernel, ?_⟩
  · dsimp only [hollow]
    exact (hsame hollowRest).2
  · dsimp only [broken] at hquiet ⊢
    exact (hend (by decide +kernel) hollowRest hquiet).1

end Side

end FileShare
