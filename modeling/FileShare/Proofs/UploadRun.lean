import FileShare.Proofs.Uploading

/-!
# Uploads, from one end to the other

An upload is a conversation of an initiator, which sends a local file, and a responder, which writes
it on a share. Whatever happens to either of them and to the connection, and in whichever order, the
target of the upload holds what it held before or the whole of the file
(`Conversation.upload_whole_or_not_at_all`). If the initiator reports a completed upload, it holds
the whole of the file, and the size that is reported is right.

## The target

The target is where the URL leads. If directories on the way to it are missing, it leads nowhere
until the responder has made them, so the target is where it leads at some moment of the run; and
that is where it leads from the start if it leads anywhere then (`Conversation.Leads`).

## Assumptions

The share is a tree whose files have contents, and the temporary name that the responder makes up is
one that nobody uses (`Store.Fresh`).
-/

namespace FileShare

open Conversation (Machine)

variable {requestId : String} {client server : Machine}

/-! ### Both sides -/

namespace Conversation

/-- **The invariant of an upload.** If the initiator has reported a completed upload, it is in its
place, and the size is right. -/
def Uploads (client server : Machine) (requestId : String) (led : Path → Prop)
    (c : Conversation) : Prop :=
  ∃ progress placed, c.client.Sends client requestId progress ∧
    Uploading client server requestId led c.server c.client.world.outlet.underway progress placed ∧
    ∀ entries bytes, c.client.world.outcome = some (.completed entries bytes) →
      placed = true ∧ entries = [] ∧ ∀ id, client.source = .ok (.file id) →
        bytes = UInt64.ofNat (client.store.fs.bytesOf (.file id)).size

variable {c : Conversation} {led led' : Path → Prop}

namespace Uploads

theorem mono (h : c.Uploads client server requestId led) (hled : ∀ path, led path → led' path) :
    c.Uploads client server requestId led' := by
  obtain ⟨progress, placed, hclient, hserver, hcompleted⟩ := h
  exact ⟨progress, placed, hclient, hserver.mono hled, hcompleted⟩

/-- **The initiator goes on.** -/
theorem advance (c : Conversation) {side : Side} {progress : Progress} {placed : Bool}
    (hserver : Uploading client server requestId led c.server c.client.world.outlet.underway
      progress placed)
    (hcompleted : ∀ entries bytes, c.client.world.outcome = some (.completed entries bytes) →
      placed = true ∧ entries = [] ∧ ∀ id, client.source = .ok (.file id) →
        bytes = UInt64.ofNat (client.store.fs.bytesOf (.file id)).size)
    (hadvances : c.client.Advances side client requestId (Goes client requestId progress)) :
    Uploads client server requestId led { c with client := side } := by
  obtain ⟨progress', messages, hgoes, hsends, hunderway, houtcome⟩ := hadvances
  refine ⟨progress', placed, hsends, ?_, fun entries bytes hdone ↦
    hcompleted entries bytes (houtcome entries bytes hdone)⟩
  show Uploading client server requestId led c.server side.world.outlet.underway progress' placed
  rw [hunderway]
  exact hserver.goes hgoes

/-- What happens on a channel without a message being taken. -/
theorem onChannel (h : c.Uploads client server requestId led) (role : Role)
    {change : Channel → Channel} (hchange : ∀ channel, (change channel).underway =
      channel.underway) :
    (c.onSide role (·.onChannel change)).Uploads client server requestId led := by
  obtain ⟨progress, placed, hclient, hserver, hcompleted⟩ := h
  cases role with
  | initiator =>
    refine ⟨progress, placed, hclient.onChannel change, ?_, hcompleted⟩
    show Uploading client server requestId led c.server
      (change c.client.world.outlet).underway progress placed
    rw [hchange]
    exact hserver
  | responder =>
    exact ⟨progress, placed, hclient, hserver.congr rfl ⟨rfl, rfl, rfl, rfl⟩ (hchange _),
      hcompleted⟩

/-- **The initiator takes an answer.** -/
theorem takeAnswer (h : c.Uploads client server requestId led) {message : Message}
    {rest : List Message} (hnext : c.server.world.outlet.onWay = message :: rest) :
    Uploads client server requestId led
      ⟨c.client.process message, c.server.onChannel Channel.drop⟩ := by
  obtain ⟨progress, placed, hclient, hserver, hcompleted⟩ := h
  rcases hserver.answer (c.server.onChannel Channel.drop) (Channel.underway_drop hnext)
    ⟨rfl, rfl, rfl, rfl⟩ rfl rfl with
    ⟨rfl, rfl, hbegins⟩ | ⟨⟨status, rfl⟩ | ⟨rfl, rfl⟩, hserver⟩
  · obtain ⟨progress', messages, hbegin, hsends, hunderway, houtcome⟩ := hclient.ready
    refine ⟨progress', placed, hsends, ?_, fun entries bytes hdone ↦
      hcompleted entries bytes (houtcome entries bytes hdone)⟩
    show Uploading client server requestId led _ (c.client.process
      (uploadReady requestId)).world.outlet.underway progress' placed
    rw [hunderway]
    exact hbegins progress' messages hbegin
  · exact advance ⟨c.client, c.server.onChannel Channel.drop⟩ hserver hcompleted
      (hclient.failed status)
  · -- only now can the initiator report a completed upload, and the upload is in its place
    obtain ⟨id, hsource, rfl⟩ := hserver.of_placed
    obtain ⟨hsends, houtlet, hdone⟩ := hclient.done
    refine ⟨_, true, hsends, ?_, fun entries bytes houtcome ↦ ?_⟩
    · show Uploading client server requestId led _ (c.client.process
        (uploadDone requestId)).world.outlet.underway _ true
      rw [houtlet]
      exact hserver
    · rcases hdone entries bytes houtcome with hbefore | ⟨rfl, rfl⟩
      · exact hcompleted entries bytes hbefore
      · refine ⟨rfl, rfl, fun id' hsource' ↦ ?_⟩
        obtain rfl := FileSystem.Opened.file.inj (Except.ok.inj (hsource.symm.trans hsource'))
        rfl

/-- **One event.** Where the URL of the target leads before it is all that is asked about earlier
times. -/
theorem step (hwell : server.store.fs.WellFormed) (hfresh : server.store.Fresh client.targetUrl)
    (h : c.Uploads client server requestId led)
    (hled : ∀ target, c.server.world.store.place? client.targetUrl = some target → led target)
    (event : Event) : (c.step event).Uploads client server requestId led := by
  cases event with
  | transmit role => exact h.onChannel role Channel.underway_transmit
  | cancel role => exact h.onChannel role fun _ ↦ rfl
  | connection role isUp => exact h.onChannel role fun _ ↦ rfl
  | take role =>
    unfold Conversation.step
    dsimp only
    split
    · exact h
    rename_i message rest hnext
    cases role with
    | initiator => exact h.takeAnswer hnext
    | responder =>
      obtain ⟨progress, placed, hclient, hserver, hcompleted⟩ := h
      have hunderway : c.client.world.outlet.underway = _ := Channel.underway_drop hnext
      rw [hunderway] at hserver
      obtain ⟨placed', hkeeps, hserver'⟩ := hserver.take hwell hfresh hled
      exact ⟨progress, placed', hclient.onChannel Channel.drop, hserver', fun entries bytes hdone ↦
        (hcompleted entries bytes hdone).imp_left hkeeps⟩
  | work role =>
    obtain ⟨progress, placed, hclient, hserver, hcompleted⟩ := h
    cases role with
    | initiator => exact advance c hserver hcompleted hclient.work
    | responder =>
      refine ⟨progress, placed, hclient, ?_, hcompleted⟩
      show Uploading client server requestId led c.server.work _ progress placed
      rw [hserver.work]
      exact hserver
  | quit role =>
    obtain ⟨progress, placed, hclient, hserver, hcompleted⟩ := h
    cases role with
    | initiator => exact advance c hserver hcompleted hclient.quit
    | responder => exact ⟨progress, placed, hclient, hserver.quit, hcompleted⟩
  | faults role faults =>
    obtain ⟨progress, placed, hclient, hserver, hcompleted⟩ := h
    cases role with
    | initiator => exact ⟨progress, placed, hclient.withFaults faults, hserver, hcompleted⟩
    | responder =>
      exact ⟨progress, placed, hclient, hserver.congr rfl ⟨rfl, rfl, rfl, rfl⟩ rfl, hcompleted⟩

/-- At the start, the opening request is all that is under way. -/
theorem start (client server : Machine) (requestId : String) (led : Path → Prop) :
    (Conversation.start .upload requestId client server).Uploads client server requestId led := by
  rcases hsend : (World.send (uploadOpening client requestId)).run.run
    (client.side .initiator .upload requestId).world with ⟨told, world⟩
  obtain ⟨hchannel, hsent⟩ := World.send_cases hsend
  have hstart : Conversation.start .upload requestId client server =
      ⟨⟨client.settings, .ofFamily .initiator .upload requestId, world⟩,
        server.side .responder .upload requestId⟩ := by
    show Conversation.mk ⟨_, _, ((World.send (uploadOpening client requestId)).run.run
      (client.side .initiator .upload requestId).world).2⟩ _ = _
    rw [hsend]
    rfl
  rw [hstart]
  refine ⟨.waiting, false, ⟨rfl, congrArg (·.fs) hchannel.store, hchannel.workDir, _, rfl,
    .waiting (.inl hchannel.outcome)⟩, .opening rfl ⟨rfl, rfl, rfl, rfl⟩ rfl ?_, ?_⟩
  · rcases hsent with hsent | ⟨-, hsent⟩
    · exact .inr hsent
    · exact .inl hsent
  · intro entries bytes hdone
    rw [show world.outcome = none from hchannel.outcome] at hdone
    cases hdone

end Uploads

/-- **Where the target of an upload is**: where its URL leads from the start, if it leads anywhere
then, and otherwise where it leads at some moment of the run. -/
structure Leads (start : Conversation) (events : List Event) (url : String) (target : Path) :
    Prop where
  atSomeTime : ∃ earlier, earlier <+: events ∧
    (start.run earlier).server.world.store.place? url = some target
  fromTheStart : ∀ place, start.server.world.store.place? url = some place → target = place

/-- **The invariant holds along every run.** -/
theorem uploads_run (hwell : server.store.fs.WellFormed)
    (hfresh : server.store.Fresh client.targetUrl) (requestId : String) (events : List Event) :
    let start := start .upload requestId client server
    (start.run events).Uploads client server requestId fun target ↦
      ∃ earlier, earlier <+: events ∧
        (start.run earlier).server.world.store.place? client.targetUrl = some target := by
  intro start
  -- The last event is split off: where the target leads before it is part of what the step needs,
  -- and what has been a moment of the shorter run is one of the longer run.
  induction events using List.reverseRecOn with
  | nil => exact .start client server requestId _
  | append_singleton events event ih =>
    rw [run_append]
    refine Uploads.step hwell hfresh (ih.mono ?_) ?_ event
    · rintro target ⟨earlier, hearlier, hplace⟩
      exact ⟨earlier, hearlier.trans (List.prefix_append _ _), hplace⟩
    · intro target hplace
      exact ⟨events, List.prefix_append _ _, hplace⟩

/-- The bytes of the local file that an initiator uploads, if it is a file. -/
def Machine.sourceBytes? (machine : Machine) : Option ByteArray :=
  match machine.source with
  | .ok (.file id) => some (machine.store.fs.bytesOf (.file id))
  | _ => none

theorem sourceBytes?_of_file {id : Nat} (h : client.source = .ok (.file id)) :
    client.sourceBytes? = some (client.store.fs.bytesOf (.file id)) := by
  unfold Machine.sourceBytes?
  rw [h]

/-- **An upload is in its place**: its target holds the whole local file, and all other files of the
share are as they were, but for the temporary one. -/
structure Delivers (client server : Machine) (requestId : String) (events : List Event)
    (target : Path) (source : ByteArray) : Prop where
  leads : (start .upload requestId client server).Leads events client.targetUrl target
  isSource : client.sourceBytes? = some source
  there : ((start .upload requestId client server).run events).server.world.store.fs.fileAt target =
    some source
  others : ∀ path, path.getLast? ≠ some server.store.nextTemporary → path ≠ target →
    ((start .upload requestId client server).run events).server.world.store.fs.fileAt path =
      server.store.fs.fileAt path

/-- **An upload is whole or not at all.** After any run, with any order of steps, whatever fails:

* all files of the share are as they were, or the target holds the whole local file and all other
  files are as they were, but for the temporary one;
* if the initiator has reported a completed upload, the target holds the whole local file, and the
  size that was reported is its size. -/
theorem upload_whole_or_not_at_all (client server : Machine) (requestId : String)
    (events : List Event) (hwell : server.store.fs.WellFormed)
    (hfresh : server.store.Fresh client.targetUrl) :
    let final := (start .upload requestId client server).run events
    ((∀ path, path.getLast? ≠ some server.store.nextTemporary →
        final.server.world.store.fs.fileAt path = server.store.fs.fileAt path) ∨
      ∃ target source, Delivers client server requestId events target source) ∧
    ∀ entries bytes, final.client.world.outcome = some (.completed entries bytes) →
      ∃ target source, Delivers client server requestId events target source ∧
        entries = [] ∧ bytes = UInt64.ofNat source.size := by
  intro final
  obtain ⟨progress, placed, -, hserver, hcompleted⟩ := uploads_run hwell hfresh requestId events
  -- only a responder that has put the upload into its place has touched the target
  cases hserver with
  | opening _ hrecords =>
    refine ⟨.inl fun path _ ↦ ?_, fun entries bytes hdone ↦ absurd (hcompleted _ _ hdone).1 nofun⟩
    show final.server.world.store.fs.fileAt path = _
    rw [hrecords.fs]
  | writing _ _ hname _ hspares =>
    exact ⟨.inl (Uploading.of_spares hname hspares),
      fun entries bytes hdone ↦ absurd (hcompleted _ _ hdone).1 nofun⟩
  | closed _ _ hfiles =>
    exact ⟨.inl hfiles, fun entries bytes hdone ↦ absurd (hcompleted _ _ hdone).1 nofun⟩
  | placed _ _ hsource hled hstart hthere hothers =>
    have hdelivers : Delivers client server requestId events _ _ :=
      ⟨⟨hled, hstart⟩, sourceBytes?_of_file hsource, hthere, hothers⟩
    refine ⟨.inr ⟨_, _, hdelivers⟩, fun entries bytes hdone ↦ ?_⟩
    obtain ⟨-, hentries, hsize⟩ := hcompleted entries bytes hdone
    exact ⟨_, _, hdelivers, hentries, hsize _ hsource⟩

/-- A server with one share, in which there is one file. -/
def smallServer : Machine where
  settings := default
  store := .onRoot ⟨[(["srv".toUTF8], .directory 0), (["srv".toUTF8, "box".toUTF8], .directory 0),
    (["srv".toUTF8, "box".toUTF8, "old".toUTF8], .file 0)], #[⟨⟨#[9]⟩, 0⟩], 0⟩ [] []
  hasShares := true
  workDir := []
  capacity := 2

/-- A client with one local file, which it uploads in the place of that file. -/
def smallClient : Machine where
  settings := ⟨4, 2, 4, { (default : RequestSettings) with
    url := "srv/box/old", inputFile := "new" }⟩
  store := .onRoot ⟨[(["new".toUTF8], .file 0)], #[⟨⟨#[1, 2, 3]⟩, 0⟩], 0⟩ [] []
  hasShares := false
  workDir := []
  capacity := 2

theorem wellFormed_smallServer : smallServer.store.fs.WellFormed := by
  refine FileSystem.wellFormed_of_nodes ?_ ?_
  · intro path node hmem
    simp [smallServer, Store.onRoot] at hmem
    rcases hmem with ⟨rfl, rfl⟩ | ⟨rfl, rfl⟩ | ⟨rfl, rfl⟩ <;> decide +kernel
  · intro path id hmem
    simp [smallServer, Store.onRoot] at hmem ⊢
    omega

theorem fresh_smallServer : smallServer.store.Fresh smallClient.targetUrl := by
  refine ⟨FileSystem.unused_of_nodes ?_, ?_⟩
  · intro path node hmem
    simp [smallServer, Store.onRoot] at hmem
    rcases hmem with ⟨rfl, rfl⟩ | ⟨rfl, rfl⟩ | ⟨rfl, rfl⟩ <;> decide +kernel
  · intro names hnames
    have hurl : Url.names? smallClient.targetUrl =
        .ok ["srv".toUTF8, "box".toUTF8, "old".toUTF8] := by decide +kernel
    obtain rfl := Except.ok.inj (hnames.symm.trans hurl)
    decide +kernel

/-- A run in which the client uploads its file: both pieces, and the end. -/
def smallRun : List Event :=
  [.transmit .initiator, .take .responder, .transmit .responder, .take .initiator,
    .work .initiator, .work .initiator, .transmit .initiator, .take .responder,
    .work .initiator, .work .initiator, .transmit .initiator, .take .responder,
    .work .initiator, .work .initiator, .transmit .initiator, .take .responder,
    .transmit .responder, .take .initiator]

theorem upload_whole_or_not_at_all_smallRun :
    smallServer.store.fs.WellFormed ∧ smallServer.store.Fresh smallClient.targetUrl ∧
    let final := (start .upload "7" smallClient smallServer).run smallRun
    final.client.world.outcome = some (.completed [] 3) ∧
    ((∀ path, path.getLast? ≠ some smallServer.store.nextTemporary →
        final.server.world.store.fs.fileAt path = smallServer.store.fs.fileAt path) ∨
      ∃ target source, Delivers smallClient smallServer "7" smallRun target source) ∧
    ∃ target source, Delivers smallClient smallServer "7" smallRun target source ∧
      (3 : UInt64) = UInt64.ofNat source.size := by
  have houtcome : ((start .upload "7" smallClient smallServer).run smallRun).client.world.outcome =
      some (.completed [] 3) := by decide +kernel
  obtain ⟨hwhole, hcompleted⟩ := upload_whole_or_not_at_all smallClient smallServer "7" smallRun
    wellFormed_smallServer fresh_smallServer
  obtain ⟨target, source, hdelivers, -, hsize⟩ := hcompleted _ _ houtcome
  exact ⟨wellFormed_smallServer, fresh_smallServer, houtcome, hwhole, target, source, hdelivers,
    hsize⟩

end Conversation

end FileShare
