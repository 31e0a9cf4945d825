import FileShare.Exchange.World
import FileShare.Proofs.Calls

/-!
# Calls that an exchange makes

An exchange reaches its share through `World.share`, which changes the store and nothing else
(`World.OnStore`). Every opening request begins with credentials that are adopted, which makes one
call on the share and leaves everything on it as it was.
-/

namespace FileShare

namespace World

variable {ω : Type} {world world' : World ω}

/-- What is done to the shares is all that is done. -/
structure OnStore (world world' : World ω) : Prop where
  outlet : world'.outlet = world.outlet
  workDir : world'.workDir = world.workDir
  hasShares : world'.hasShares = world.hasShares
  outcome : world'.outcome = world.outcome

theorem share_run {α : Type} (action : ShareM α) (world : World ω) :
    (share action : StepM ω α).run.run world =
      ((action.run.run world.store).1.mapError .share,
        { world with store := (action.run.run world.store).2 }) := rfl

/-- A call whose failure does not matter is made, and that is all. -/
theorem tolerate_run {α : Type} {action : ShareM α} {answer : Except ShareError α} {store : Store}
    (h : action.run.run world.store = (answer, store)) :
    (onStore (Share.tolerate action) : WorldM ω Unit).run world = ((), { world with store }) := by
  have hstore : store = (action.run.run world.store).2 := by rw [h]
  rw [hstore]
  rfl

theorem OnStore.trans {world'' : World ω} (h : world.OnStore world') (h' : world'.OnStore world'') :
    world.OnStore world'' :=
  ⟨h'.outlet.trans h.outlet, h'.workDir.trans h.workDir, h'.hasShares.trans h.hasShares,
    h'.outcome.trans h.outcome⟩

/-- **An exchange gets the answer of its share**, and nothing but the store has changed. -/
theorem share_cases {α : Type} {action : ShareM α} {result : Except ExchangeError α}
    (h : (share action : StepM ω α).run.run world = (result, world')) :
    ∃ answer, action.run.run world.store = (answer, world'.store) ∧
      result = answer.mapError .share ∧ world.OnStore world' := by
  rw [share_run] at h
  obtain ⟨rfl, rfl⟩ := Prod.mk.inj h
  exact ⟨_, rfl, rfl, ⟨rfl, rfl, rfl, rfl⟩⟩

/-- Credentials are adopted without a change of the shares. -/
theorem connect_cases [Outlet ω] {message : Message} {result : Except ExchangeError String}
    (h : (connect message).run.run world = (result, world')) :
    world.OnStore world' ∧ world.store.Records world'.store ∧
      (Fault.Fruitful world.store.faults → Fault.Fruitful world'.store.faults) ∧
      ∀ url, result = .ok url →
        ∃ credentials, message.credentials? = some credentials ∧ credentials.url = url := by
  have hnothing : world.OnStore world ∧ world.store.Records world.store :=
    ⟨⟨rfl, rfl, rfl, rfl⟩, ⟨rfl, rfl, rfl, rfl⟩⟩
  unfold connect at h
  split at h
  · obtain ⟨rfl, rfl⟩ := Prod.mk.inj h
    exact ⟨hnothing.1, hnothing.2, id, fun url hurl ↦ by cases hurl⟩
  split at h
  · obtain ⟨rfl, rfl⟩ := Prod.mk.inj h
    exact ⟨hnothing.1, hnothing.2, id, fun url hurl ↦ by cases hurl⟩
  rename_i credentials hcredentials
  rw [bind_get_run] at h
  split at h
  · rcases hshare : (Share.connect credentials).run.run world.store with ⟨answer, last⟩
    have hrecords := Share.records_connect hshare
    rcases bind_cases h with ⟨error, hrun, rfl⟩ | ⟨_, mid, hrun, h⟩
    all_goals
      rw [share_run, hshare] at hrun
      obtain ⟨-, rfl⟩ := Prod.mk.inj hrun
    · exact ⟨⟨rfl, rfl, rfl, rfl⟩, hrecords, Share.fruitful_connect hshare,
        fun url hurl ↦ by cases hurl⟩
    · obtain ⟨rfl, rfl⟩ := Prod.mk.inj h
      exact ⟨⟨rfl, rfl, rfl, rfl⟩, hrecords, Share.fruitful_connect hshare,
        fun url hurl ↦ ⟨credentials, hcredentials, Except.ok.inj hurl⟩⟩
  · obtain ⟨rfl, rfl⟩ := Prod.mk.inj h
    exact ⟨hnothing.1, hnothing.2, id, fun url hurl ↦ by cases hurl⟩

end World

end FileShare
