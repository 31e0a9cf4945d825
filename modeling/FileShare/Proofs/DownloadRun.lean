import FileShare.Proofs.Downloading

/-!
# Downloads, from one end to the other

A download is a conversation of an initiator, which writes a local file, and a responder, which
reads a file of a share. Whatever happens to either of them and to the connection, and in whichever
order, a download that is reported as complete is right: the local file holds the bytes of the range
that the settings of the client ask for, neither more nor less, the size that is reported is theirs,
and the one entry that is reported is the file (`Conversation.download_is_requested_range`).

## What may fail

Calls on the share may fail, connections may be cut, and either side may stop or quit at any moment;
such a download is not reported as complete, or it is right all the same. Only one fault is left
out. A read that comes to nothing and reports no error is what a responder takes for the end of the
file, so no fault may let that happen earlier (`Fault.Fruitful`).

The local file system is a tree whose files have contents. That the local file is what is read under
its path afterwards needs this. Sizes are numbers of 64 bits, so the file that is served must not be
longer than these can tell.
-/

namespace FileShare

/-- If the faults of the responder are replaced, a read still comes to something or to an error. -/
def Event.IsFruitful : Event → Prop
  | .faults .responder others => Fault.Fruitful others
  | _ => True

namespace Conversation

variable {client server : Machine} {requestId : String} {c : Conversation}

/-- **The invariant of a download.** -/
def Downloads (client server : Machine) (requestId : String) (c : Conversation) : Prop :=
  Downloading client server requestId c.client c.server c.client.world.outlet.underway
    c.server.world.outlet.underway

namespace Downloads

/-- What happens on a channel without a message being taken. -/
theorem onChannel (h : c.Downloads client server requestId) (role : Role)
    {change : Channel → Channel} (hchange : ∀ channel, (change channel).underway =
      channel.underway) :
    (c.onSide role (·.onChannel change)).Downloads client server requestId := by
  cases role with
  | initiator =>
    show Downloading client server requestId (c.client.onChannel change) c.server
      (change c.client.world.outlet).underway c.server.world.outlet.underway
    rw [hchange]
    exact h.withAsker fun _ hasker ↦ hasker.onChannel change
  | responder =>
    show Downloading client server requestId c.client (c.server.onChannel change)
      c.client.world.outlet.underway (change c.server.world.outlet).underway
    rw [hchange]
    exact h.withAnswerer (fun _ hanswerer ↦ hanswerer.onChannel change) rfl rfl

/-- **A side takes the next message** that has arrived. -/
theorem take (hwell : client.store.fs.WellFormed)
    (hsize : ∀ content stat, server.store.served? client.targetUrl = some (content, stat) →
      (server.store.fs.bytesOf (.file content)).size < UInt64.size)
    (h : c.Downloads client server requestId) (role : Role) :
    (c.step (.take role)).Downloads client server requestId := by
  unfold Conversation.step
  dsimp only
  split
  · exact h
  rename_i message rest hnext
  have hunderway := Channel.underway_drop hnext
  cases role with
  | initiator =>
    change c.server.world.outlet.underway = _ at hunderway
    unfold Downloads at h
    rw [hunderway] at h
    exact (h.withAnswerer (fun _ hanswerer ↦ hanswerer.onChannel Channel.drop) rfl
      rfl).askerTakes hwell
  | responder =>
    change c.client.world.outlet.underway = _ at hunderway
    unfold Downloads at h
    rw [hunderway] at h
    exact (h.withAsker fun _ hasker ↦ hasker.onChannel Channel.drop).hostTakes hsize

/-- **One event.** -/
theorem step (hwell : client.store.fs.WellFormed)
    (hsize : ∀ content stat, server.store.served? client.targetUrl = some (content, stat) →
      (server.store.fs.bytesOf (.file content)).size < UInt64.size)
    (h : c.Downloads client server requestId) (event : Event) (hevent : event.IsFruitful) :
    (c.step event).Downloads client server requestId := by
  cases event with
  | transmit role => exact h.onChannel role Channel.underway_transmit
  | cancel role => exact h.onChannel role fun _ ↦ rfl
  | connection role isUp => exact h.onChannel role fun _ ↦ rfl
  | take role => exact h.take hwell hsize role
  | work role =>
    cases role with
    | initiator => exact h.askerWorks
    | responder => exact h.hostWorks
  | quit role =>
    cases role with
    | initiator => exact h.askerQuits
    | responder => exact h.hostQuits
  | faults role faults =>
    cases role with
    | initiator => exact h.withAsker fun _ hasker ↦ hasker.withFaults faults
    | responder =>
      exact h.withAnswerer (fun _ hanswerer ↦ hanswerer.withFaults hevent) rfl rfl

/-- At the start, the opening request is all that is under way. -/
theorem start (client server : Machine) (requestId : String)
    (hfaults : Fault.Fruitful server.store.faults) :
    (Conversation.start .download requestId client server).Downloads client server requestId := by
  rcases hsend : (World.send (downloadOpening client requestId)).run.run
    (client.side .initiator .download requestId).world with ⟨told, world⟩
  obtain ⟨hchannel, hsent⟩ := World.send_cases hsend
  have hstart : Conversation.start .download requestId client server =
      ⟨⟨client.settings, .ofFamily .initiator .download requestId, world⟩,
        server.side .responder .download requestId⟩ := by
    show Conversation.mk ⟨_, _, ((World.send (downloadOpening client requestId)).run.run
      (client.side .initiator .download requestId).world).2⟩ _ = _
    rw [hsend]
    rfl
  rw [hstart]
  refine .opening ⟨rfl, hchannel.workDir, .idle, rfl, ?_⟩ ⟨rfl, rfl, rfl, rfl, hfaults⟩ ?_ rfl
  · show Fetcher.At client .waiting .idle world.store.fs world.outcome
    rw [hchannel.store, hchannel.outcome]
    exact .waiting
  · rcases hsent with hsent | ⟨-, hsent⟩
    · exact .inr hsent
    · exact .inl hsent

end Downloads

/-- **The invariant holds along every run.** -/
theorem downloads_run (hwell : client.store.fs.WellFormed)
    (hsize : ∀ content stat, server.store.served? client.targetUrl = some (content, stat) →
      (server.store.fs.bytesOf (.file content)).size < UInt64.size)
    (hfaults : Fault.Fruitful server.store.faults) (requestId : String) (events : List Event)
    (hevents : ∀ event ∈ events, event.IsFruitful) :
    ((start .download requestId client server).run events).Downloads client server requestId := by
  -- the invariant is carried from the start to the end, so the last event is split off
  induction events using List.reverseRecOn with
  | nil => exact .start client server requestId hfaults
  | append_singleton events event ih =>
    rw [run_append]
    refine Downloads.step hwell hsize (ih fun other hother ↦ hevents other ?_) event
      (hevents event (by simp))
    simp [hother]

/-- **A download that is complete is what was asked for.** After any run, with any order of steps,
if the initiator has reported a completed download, then

* the local file holds exactly the bytes of the range that the settings of the client ask for, of
  the file that its URL addresses on the share;
* the number of bytes that is reported is theirs;
* the file is the one entry that is reported, with its size. -/
theorem download_is_requested_range (client server : Machine) (requestId : String)
    (events : List Event) (hwell : client.store.fs.WellFormed)
    (hsize : ∀ content stat, server.store.served? client.targetUrl = some (content, stat) →
      (server.store.fs.bytesOf (.file content)).size < UInt64.size)
    (hfaults : Fault.Fruitful server.store.faults)
    (hevents : ∀ event ∈ events, event.IsFruitful) :
    let final := (start .download requestId client server).run events
    ∀ entries bytes, final.client.world.outcome = some (.completed entries bytes) →
      ∃ content stat, server.store.served? client.targetUrl = some (content, stat) ∧
        let source := server.store.fs.bytesOf (.file content)
        LocalFile.readAll final.client.world.store.fs client.workDir
            client.settings.request.outputFile = .ok (client.requestedBytes source) ∧
          bytes.toNat = (client.requestedBytes source).size ∧
          entries = [client.announced stat] ∧ (client.announced stat).size.toNat = source.size := by
  intro final entries bytes houtcome
  have hdownloads := downloads_run hwell hsize hfaults requestId events hevents
  obtain ⟨content, stat, hserved, hentries, hbytes, hread⟩ := hdownloads.of_completed houtcome
  have hlt := hsize content stat hserved
  have hle := client.size_requestedBytes_le (server.store.fs.bytesOf (.file content))
  have hinfo : (client.announced stat).size =
      UInt64.ofNat (server.store.fs.bytesOf (.file content)).size :=
    Store.size_of_served? hserved
  refine ⟨content, stat, hserved, hread, ?_, hentries, ?_⟩
  · rw [hbytes, UInt64.toNat_ofNat_of_lt' (Nat.lt_of_le_of_lt hle hlt)]
  · rw [hinfo, UInt64.toNat_ofNat_of_lt' hlt]

/-- A server with one share, in which there is one file of five bytes. -/
def smallHost : Machine where
  settings := ⟨4, 2, 4, default⟩
  store := .onRoot ⟨[(["srv".toUTF8], .directory 0), (["srv".toUTF8, "box".toUTF8], .directory 0),
    (["srv".toUTF8, "box".toUTF8, "old".toUTF8], .file 0)], #[⟨⟨#[1, 2, 3, 4, 5]⟩, 0⟩], 0⟩ [] []
  hasShares := true
  workDir := []
  capacity := 2

/-- A client that asks for three bytes of it, from the second one on, two in a message. -/
def smallAsker : Machine where
  settings := ⟨2, 2, 2, { (default : RequestSettings) with
    url := "srv/box/old", outputFile := "new", startOffset := 1, endOffset := 3 }⟩
  store := .onRoot ⟨[], #[], 0⟩ [] []
  hasShares := false
  workDir := []
  capacity := 2

theorem wellFormed_smallAsker : smallAsker.store.fs.WellFormed := by
  refine FileSystem.wellFormed_of_nodes ?_ ?_
  · intro path node hmem
    simp [smallAsker, Store.onRoot] at hmem
  · intro path id hmem
    simp [smallAsker, Store.onRoot] at hmem

theorem size_smallHost (content : Nat) (stat : Stat)
    (h : smallHost.store.served? smallAsker.targetUrl = some (content, stat)) :
    (smallHost.store.fs.bytesOf (.file content)).size < UInt64.size := by
  have hserved : smallHost.store.served? smallAsker.targetUrl =
      some (0, ⟨false, false, false, 5, 0, 0⟩) := by decide +kernel
  obtain ⟨rfl, -⟩ := Prod.mk.inj (Option.some.inj (h.symm.trans hserved))
  decide +kernel

/-- A run in which the client gets the bytes in two messages. -/
def smallDownload : List Event :=
  [.transmit .initiator, .take .responder, .transmit .responder, .take .initiator,
    .transmit .initiator, .take .responder,
    .work .responder, .work .responder, .work .responder, .transmit .responder, .take .initiator,
    .work .responder, .work .responder, .work .responder, .transmit .responder, .take .initiator,
    .work .responder, .work .responder, .transmit .responder, .take .initiator]

theorem isFruitful_smallDownload : ∀ event ∈ smallDownload, event.IsFruitful := by
  simp [smallDownload, Event.IsFruitful]

theorem download_is_requested_range_smallDownload :
    let final := (start .download "7" smallAsker smallHost).run smallDownload
    smallAsker.store.fs.WellFormed ∧ Fault.Fruitful smallHost.store.faults ∧
    final.client.world.outcome = some (.completed [⟨"old", false, 5, 0, 0, 0x80⟩] 3) ∧
    ∃ content stat, smallHost.store.served? smallAsker.targetUrl = some (content, stat) ∧
      let source := smallHost.store.fs.bytesOf (.file content)
      LocalFile.readAll final.client.world.store.fs smallAsker.workDir
          smallAsker.settings.request.outputFile = .ok (smallAsker.requestedBytes source) ∧
        (3 : UInt64).toNat = (smallAsker.requestedBytes source).size ∧
        [⟨"old", false, 5, 0, 0, 0x80⟩] = [smallAsker.announced stat] ∧
        (smallAsker.announced stat).size.toNat = source.size := by
  intro final
  have hfaults : Fault.Fruitful smallHost.store.faults := by
    simp [smallHost, Store.onRoot, Fault.Fruitful]
  have houtcome : final.client.world.outcome =
      some (.completed [⟨"old", false, 5, 0, 0, 0x80⟩] 3) := by decide +kernel
  exact ⟨wellFormed_smallAsker, hfaults, houtcome,
    download_is_requested_range smallAsker smallHost "7" smallDownload wellFormed_smallAsker
      size_smallHost hfaults isFruitful_smallDownload _ _ houtcome⟩

end Conversation

end FileShare
