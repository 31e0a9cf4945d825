import FileShare.Proofs.DownloadRun
import FileShare.Proofs.Settling

/-!
# Range requests do not mix

An initiator may ask for another range, or for another file, while a range is being served. Whatever
messages it sends, and wherever the steps of the workers fall, the ranges do not mix
(`Threads.range_requests_do_not_mix`). What has been queued since a range was accepted belongs to
that range, from its first byte on; what was queued before belongs to the ranges before.

It rests on the invariant of `Proofs.Interleaving`. That the threads are those of a responder is
`Proofs.Settling`.
-/

namespace FileShare

open Conversation (Machine)

namespace Threads

variable {threads : Threads} {fs : FileSystem} {fruitful : Prop}

/-! ### Requests and the worker -/

/-- **A request passes its checks** with a move of the responder: it asks for a range and a file is
open, or the file that it asks for has been opened and looked at. To quit is never refused. -/
def Passes (threads : Threads) : Move → Prop
  | .arrive message => FileServer.requestedRange? message ≠ none ∧ threads.file ≠ none
  | .leave => True
  | .advance => threads.Learns
  | _ => False

/-- **A request that has not passed its checks leaves a transfer undisturbed**, and so does one that
fails them. -/
theorem Sound.undisturbed_of_precedesStop (h : threads.Sound fs fruitful)
    (hpoint : threads.point.precedesStop = true) {move : Move} (hmove : move.isResponder = true) :
    threads.Undisturbed (threads.step move) ∧
      ((threads.step move).point.precedesStop = true ∨ threads.Passes move) := by
  have hrefl : threads.Undisturbed threads := .of_store (.refl _)
  cases move with
  | arrive message =>
    unfold Threads.step
    dsimp only
    split
    · refine ⟨.of_store (.refl _), ?_⟩
      dsimp only
      rcases threads.pointOf_cases message with ⟨_, _, hnext⟩ | hnext |
        ⟨range, file, hrange, hfile, -⟩
      · rw [hnext]
        exact .inl rfl
      · rw [hnext]
        exact .inl rfl
      · exact .inr ⟨by rw [hrange]; nofun, by rw [hfile]; nofun⟩
    · exact ⟨hrefl, .inl hpoint⟩
  | leave =>
    unfold Threads.step
    dsimp only
    split
    · exact ⟨.of_store (.refl _), .inr trivial⟩
    · exact ⟨hrefl, .inr trivial⟩
  | advance =>
    have hchecks := h.checks hpoint
    exact ⟨hchecks.undisturbed, hchecks.precedes⟩
  | _ => cases hmove

/-- **The responder moves an open file only while no worker is live.** -/
theorem Sound.live_eq_zero_of_moved (h : threads.Sound fs fruitful) {move : Move}
    (hmove : move.isResponder = true) {file : FileId}
    (hfile : file.index < threads.world.store.files.size)
    (hmoved : (Share.fileOf (threads.step move).world.store file).position ≠
      (Share.fileOf threads.world.store file).position) : threads.live = 0 := by
  have hstays : ∀ {world : World Channel}, threads.world.store.Leaves world.store →
      (threads.step move).world = world → threads.live = 0 := fun hleaves hworld ↦ by
    rw [hworld, (hleaves.files file hfile).2] at hmoved
    exact absurd rfl hmoved
  by_cases hprecedes : threads.point.precedesStop = true
  · exact hstays (h.undisturbed_of_precedesStop hprecedes hmove).1.store rfl
  cases move with
  | arrive message =>
    refine hstays (.refl _) ?_
    unfold Threads.step
    dsimp only
    split <;> rfl
  | leave =>
    refine hstays (.refl _) ?_
    unfold Threads.step
    dsimp only
    split <;> rfl
  | advance =>
    have hfits := h.point
    unfold Fits at hfits
    have hadvance : ∀ {next : Threads}, threads.advance = next →
        next.world.store = threads.world.store → threads.live = 0 := fun hnext hstore ↦
      hstays (hstore ▸ .refl _) (congrArg world hnext)
    cases hpoint : threads.point with
    | stopping plan =>
      exact hadvance (advance_stopping hpoint) (by rw [stopWorker_world])
    | joining plan =>
      exact hadvance (advance_joining hpoint) (by rw [joinWorker_world])
    | closing next =>
      rw [hpoint] at hfits
      exact h.live_eq_zero hfits.1
    | seeking range =>
      rw [hpoint] at hfits
      exact h.live_eq_zero hfits.1
    | starting range =>
      rw [hpoint] at hfits
      exact h.live_eq_zero hfits.1
    | telling message =>
      refine hadvance (advance_telling hpoint) ?_
      rcases threads.attempt_cases (World.send message) _ with ⟨_, world, hrun, hnext⟩ |
        ⟨_, world, hrun, hnext⟩
      all_goals
        rw [hnext]
        exact (World.send_cases hrun).1.store
    | _ =>
      rw [hpoint] at hprecedes
      exact absurd rfl hprecedes
  | _ => cases hmove

/-- **Range requests do not mix.** Whatever messages come, and however the steps of the responder
and of its workers fall:

* at most one worker is live;
* the responder moves an open file only while no worker is live;
* what workers have queued since a range was accepted is the front of an output of that range, and
  it is nothing if nothing was left of the range;
* a request leaves the transfer undisturbed until it has passed its checks, and if it does not pass
  them.

These are the threads of the responder: whatever may happen to it as a whole is a run of them. -/
theorem range_requests_do_not_mix (server : Machine) (requestId : String) (moves : List Move) :
    let threads := (start server requestId).run moves
    let fruitful := Fault.Fruitful server.store.faults ∧ ∀ move ∈ moves, move.IsFruitful
    threads.live ≤ 1 ∧
    (∀ move, move.isResponder = true → ∀ file : FileId,
      file.index < threads.world.store.files.size →
      (Share.fileOf (threads.step move).world.store file).position ≠
        (Share.fileOf threads.world.store file).position → threads.live = 0) ∧
    (threads.accepted = none → threads.said = []) ∧
    (∀ range, threads.accepted = some range →
      range.IsFront server.store.fs fruitful threads.said) ∧
    (threads.point.precedesStop = true → ∀ move, move.isResponder = true →
      threads.Undisturbed (threads.step move) ∧
        ((threads.step move).point.precedesStop = true ∨ threads.Passes move)) ∧
    (threads.Rests → ∀ moments, threads.Settles (threads.side.liveAll moments)) := by
  intro threads fruitful
  have h : threads.Sound server.store.fs fruitful :=
    (Sound.start server requestId And.left).run moves And.right
  have hany : threads.Sound server.store.fs False :=
    (Sound.start server requestId False.elim).run moves False.elim
  exact ⟨h.live_le_one, fun move hmove file ↦ h.live_eq_zero_of_moved hmove, h.unsaid, h.front,
    fun hpoint move ↦ h.undisturbed_of_precedesStop hpoint, hany.settles_of_liveAll⟩

/-- Two ranges are asked for, the second one while the first is being served. The worker goes on for
a while before it notices that it is to stop. -/
def twoRanges : List Move :=
  [.arrive (downloadOpening Conversation.smallAsker "7")] ++ List.replicate 6 .advance ++
    [.transmit, .arrive (downloadRequest "7" ⟨1, 3, 2⟩)] ++ List.replicate 3 .advance ++
    List.replicate 3 (.work none true) ++ [.transmit, .arrive (downloadRequest "7" ⟨0, 4, 2⟩)] ++
    [.advance, .work none false, .advance, .work none false, .transmit] ++
    List.replicate 2 (.work none true) ++ List.replicate 3 .advance ++
    List.replicate 3 (.work none true)

theorem range_requests_do_not_mix_twoRanges :
    let threads := (start Conversation.smallHost "7").run twoRanges
    let fruitful := Fault.Fruitful Conversation.smallHost.store.faults ∧
      ∀ move ∈ twoRanges, move.IsFruitful
    fruitful ∧ threads.live = 1 ∧
      threads.said = [Producer.downloadMessage "7" ⟨#[1, 2]⟩] ∧
      ∃ range, threads.accepted = some range ∧ range.first = 0 ∧ range.last = 4 ∧
        range.IsFront Conversation.smallHost.store.fs fruitful threads.said := by
  intro threads fruitful
  have hfaults : Fault.Fruitful Conversation.smallHost.store.faults := by
    simp [Conversation.smallHost, Store.onRoot, Fault.Fruitful]
  have hmoves : ∀ move ∈ twoRanges, move.IsFruitful := by
    simp [twoRanges, Move.IsFruitful]
  have hends : threads.accepted.map (fun range ↦ (range.first, range.last)) = some (0, 4) := by
    decide +kernel
  obtain ⟨range, haccepted, hrange⟩ := Option.map_eq_some_iff.1 hends
  obtain ⟨hfirst, hlast⟩ := Prod.mk.inj hrange
  obtain ⟨-, -, -, hfront, -⟩ := range_requests_do_not_mix Conversation.smallHost "7" twoRanges
  exact ⟨⟨hfaults, hmoves⟩, by decide +kernel, by decide +kernel, range, haccepted, hfirst, hlast,
    hfront range haccepted⟩

end Threads

end FileShare
