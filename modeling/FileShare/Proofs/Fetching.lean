import FileShare.Proofs.Hosting
import FileShare.Proofs.LocalFiles

/-!
# The initiator of a download

How far a download has come at its initiator is its `Stage`: it waits for the responder, it has
received some bytes, it is complete, or it has failed. What the initiator remembers in each case is
`Fetcher.At`. While it receives, the local file holds what has been received, in part through the
buffer; to give the file up writes what is in the buffer, so a file that has been given up early
holds all that came until then.

There is one theorem for each thing that can happen to an initiator (`Side.Fetches`). An initiator
that has failed stays failed, whatever it is sent.
-/

namespace FileShare

open Conversation (Machine)

/-- **How far a download has come** at its initiator. -/
inductive Stage where
  /-- The responder has not answered. -/
  | waiting
  /-- The file has been announced, and some bytes have been received. -/
  | receiving (info : FileInfo) (got : ByteArray)
  /-- All has been received. -/
  | complete (info : FileInfo) (got : ByteArray)
  | failed

/-- **What has been received is in a local file**, in part through its buffer as long as it is open.
-/
structure Fetcher.Receives (fetcher : Fetcher) (fs : FileSystem) (workDir : Path) (path : String)
    (info : FileInfo) (got : ByteArray) : Prop where
  info : fetcher.info = some info
  received : fetcher.received = UInt64.ofNat got.size
  file : ∃ content, LocalFile.openToRead fs workDir path = .ok (.file content) ∧
    ((∃ sink, fetcher.sink = some sink ∧ sink.content = content ∧ sink.Holds fs got) ∨
      fetcher.sink = none ∧ fs.contents[content]?.map (·.bytes) = some got)

variable {client : Machine} {requestId : String} {stage : Stage} {info : FileInfo}
variable {got : ByteArray}

/-- **What an initiator remembers** when it has come so far. -/
inductive Fetcher.At (client : Machine) :
    Stage → Fetcher → FileSystem → Option Outcome → Prop where
  | waiting : Fetcher.At client .waiting .idle client.store.fs none
  | receiving {fetcher : Fetcher} {fs : FileSystem} {info : FileInfo} {got : ByteArray}
      (hreceives : fetcher.Receives fs client.workDir client.settings.request.outputFile info got) :
      Fetcher.At client (.receiving info got) fetcher fs none
  | complete {received : UInt64} {fs : FileSystem} {info : FileInfo} {got : ByteArray}
      (hread : LocalFile.readAll fs client.workDir client.settings.request.outputFile = .ok got) :
      Fetcher.At client (.complete info got) ⟨none, none, received⟩ fs
        (some (.completed [info] (UInt64.ofNat got.size)))
  | failed {fetcher : Fetcher} {fs : FileSystem} {outcome : Option Outcome}
      (hfailed : Outcome.IsFailure outcome) : Fetcher.At client .failed fetcher fs outcome

namespace Fetcher.At

variable {fetcher : Fetcher} {fs : FileSystem} {outcome : Option Outcome}

theorem of_waiting (h : Fetcher.At client .waiting fetcher fs outcome) :
    fetcher = .idle ∧ fs = client.store.fs ∧ outcome = none := by
  cases h with
  | waiting => exact ⟨rfl, rfl, rfl⟩

theorem of_receiving (h : Fetcher.At client (.receiving info got) fetcher fs outcome) :
    fetcher.Receives fs client.workDir client.settings.request.outputFile info got ∧
      outcome = none := by
  cases h with
  | receiving hreceives => exact ⟨hreceives, rfl⟩

theorem of_complete (h : Fetcher.At client (.complete info got) fetcher fs outcome) :
    fetcher.info = none ∧ fetcher.sink = none ∧
      LocalFile.readAll fs client.workDir client.settings.request.outputFile = .ok got ∧
      outcome = some (.completed [info] (UInt64.ofNat got.size)) := by
  cases h with
  | complete hread => exact ⟨rfl, rfl, hread, rfl⟩

/-- An initiator whose download is not complete has no outcome, or has failed. -/
theorem open_or_complete (h : Fetcher.At client stage fetcher fs outcome) :
    (outcome = none ∨ Outcome.IsFailure outcome) ∨ ∃ info got, stage = .complete info got := by
  cases h with
  | waiting => exact .inl (.inl rfl)
  | receiving => exact .inl (.inl rfl)
  | complete => exact .inr ⟨_, _, rfl⟩
  | failed hfailed => exact .inl (.inr hfailed)

end Fetcher.At

/-- **A side is the initiator of a download** that has come so far. -/
structure Side.Fetches (side : Side) (client : Machine) (requestId : String) (stage : Stage) :
    Prop where
  settings : side.settings = client.settings
  workDir : side.world.workDir = client.workDir
  fetcher : ∃ fetcher : Fetcher, side.exchange = ⟨requestId, .initiator (.download fetcher)⟩ ∧
    Fetcher.At client stage fetcher side.world.store.fs side.world.outcome

namespace Fetcher

variable {fetcher fetcher' : Fetcher} {world world' : World Channel}
variable {settings : TransferSettings} {message : Message} {result : Except ExchangeError Unit}

/-! ### What an initiator does -/

/-- The files when the local file has been given up. -/
def flushed (fetcher : Fetcher) (fs : FileSystem) : FileSystem :=
  fetcher.sink.elim fs fun sink ↦ (sink.flush fs).2

theorem flushed_of_none (hsink : fetcher.sink = none) (fs : FileSystem) :
    fetcher.flushed fs = fs := by
  unfold flushed
  rw [hsink]
  rfl

theorem flushed_of_some {sink : BufferedFile} (hsink : fetcher.sink = some sink)
    (fs : FileSystem) : fetcher.flushed fs = (sink.flush fs).2 := by
  unfold flushed
  rw [hsink]
  rfl

/-- **To give the local file up** writes what is in the buffer. -/
theorem dropSink_run (fetcher : Fetcher) (world : World Channel) :
    fetcher.dropSink.run world = ({ fetcher with sink := none },
      { world with store := { world.store with fs := fetcher.flushed world.store.fs } }) := by
  obtain ⟨info?, sink?, received⟩ := fetcher
  cases sink? <;> rfl

/-- A file that is given up holds what has been received. -/
theorem Receives.flushed {fs : FileSystem} {workDir : Path} {path : String}
    (h : fetcher.Receives fs workDir path info got) :
    Receives { fetcher with sink := none } (fetcher.flushed fs) workDir path info got := by
  obtain ⟨content, hopen, ⟨sink, hsink, rfl, hholds⟩ | ⟨hsink, hbytes⟩⟩ := h.file
  · rw [flushed_of_some hsink]
    exact ⟨h.info, h.received, _, LocalFile.openToRead_mono (sink.extends_flush _) hopen,
      .inr ⟨rfl, hholds.flush.2⟩⟩
  · -- a closed file has been flushed before
    rw [flushed_of_none hsink]
    exact ⟨h.info, h.received, content, hopen, .inr ⟨rfl, hbytes⟩⟩

theorem createSink_cases {path : String} {result : Except ExchangeError BufferedFile}
    (h : (createSink path).run.run world = (result, world')) :
    ((∃ cause, result = .error (.io cause)) ∧ world' = world) ∨
      ∃ fs content, LocalFile.create world.store.fs world.workDir path = .ok (fs, content) ∧
        result = .ok (.ofContent content) ∧
        world' = { world with store := { world.store with fs } } := by
  unfold createSink at h
  rw [bind_get_run] at h
  split at h
  · obtain ⟨rfl, rfl⟩ := Prod.mk.inj h
    exact .inl ⟨⟨_, rfl⟩, rfl⟩
  · rename_i fs content hcreate
    obtain ⟨rfl, rfl⟩ := Prod.mk.inj h
    exact .inr ⟨fs, content, hcreate, rfl, rfl⟩

/-- **To begin** creates the local file, gives up the one from before, and asks for the range, which
fails only with the session. Otherwise nothing is done. -/
theorem begin_cases
    (h : (fetcher.begin settings requestId message).run world = ((result, fetcher'), world')) :
    (∃ error, result = .error error ∧ (∀ cause, error ≠ .session cause) ∧ fetcher' = fetcher ∧
        world' = world) ∨
      ∃ info fs content, message.response? = some (.downloadInit info) ∧
        LocalFile.create world.store.fs world.workDir settings.request.outputFile =
          .ok (fs, content) ∧
        fetcher' = { fetcher with sink := some (.ofContent content), info := some info } ∧
        world'.store.fs = fetcher.flushed fs ∧ world'.workDir = world.workDir ∧
        world'.outcome = world.outcome ∧
        ((∃ cause, result = .error (.session cause)) ∨ result = .ok () ∧
          world'.outlet.underway = world.outlet.underway ++
            [downloadRequest requestId (rangeOf settings info)]) := by
  unfold Fetcher.begin at h
  split at h
  · rename_i info hresponse
    split at h
    · obtain ⟨rfl, rfl, rfl⟩ := run_inj h
      exact .inl ⟨_, rfl, nofun, rfl, rfl⟩
    rcases hcreate : (createSink settings.request.outputFile).run.run world with ⟨sink, first⟩
    rw [run_bind_of_run hcreate] at h
    rcases createSink_cases hcreate with ⟨⟨cause, rfl⟩, rfl⟩ |
      ⟨fs, content, hcreated, rfl, rfl⟩
    · obtain ⟨rfl, rfl, rfl⟩ := run_inj h
      exact .inl ⟨_, rfl, nofun, rfl, rfl⟩
    · dsimp only at h
      rw [run_bind_of_run (dropSink_run fetcher _)] at h
      rcases hsend : (World.send (downloadRequest requestId (rangeOf settings info))).run.run
        { world with store := { world.store with fs := fetcher.flushed fs } } with ⟨told, last⟩
      obtain ⟨hchannel, hsent⟩ := World.send_cases hsend
      change StateT.run ((World.send (downloadRequest requestId (rangeOf settings info))).run >>=
        _) _ = _ at h
      rw [run_bind_of_run hsend] at h
      obtain ⟨rfl, rfl, rfl⟩ := run_inj h
      refine .inr ⟨info, fs, content, hresponse, hcreated, rfl, by rw [hchannel.store],
        hchannel.workDir, hchannel.outcome, ?_⟩
      cases told with
      | error error =>
        obtain ⟨cause, rfl⟩ := World.send_error hsend
        exact .inl ⟨cause, rfl⟩
      | ok _ =>
        rcases hsent with hsent | ⟨⟨error, herror⟩, -⟩
        · exact .inr ⟨rfl, hsent⟩
        · cases herror
  · obtain ⟨rfl, rfl, rfl⟩ := run_inj h
    exact .inl ⟨_, rfl, nofun, rfl, rfl⟩

/-- **A piece** is added to what has been received, if the local file is open. Otherwise nothing is
done. -/
theorem accept_cases
    (h : (fetcher.accept message).run world = ((result, fetcher'), world')) :
    (∃ error, result = .error error ∧ (∀ cause, error ≠ .session cause) ∧ fetcher' = fetcher ∧
        world' = world) ∨
      ∃ sink data, fetcher.sink = some sink ∧ message.downloadData? = some data ∧
        result = .ok () ∧
        fetcher' = { fetcher with
          sink := some (sink.write world.store.fs data).1
          received := fetcher.received + UInt64.ofNat data.size } ∧
        world' = { world with
          store := { world.store with fs := (sink.write world.store.fs data).2 } } := by
  unfold accept at h
  split at h
  · obtain ⟨rfl, rfl, rfl⟩ := run_inj h
    exact .inl ⟨_, rfl, nofun, rfl, rfl⟩
  · obtain ⟨rfl, rfl, rfl⟩ := run_inj h
    exact .inl ⟨_, rfl, nofun, rfl, rfl⟩
  · rename_i sink data hsink hdata
    obtain ⟨rfl, rfl, rfl⟩ := run_inj h
    exact .inr ⟨sink, data, hsink, hdata, rfl, rfl, rfl⟩

/-- **To finish** gives the local file up and reports what has been received. -/
theorem finish_run (fetcher : Fetcher) (world : World Channel) :
    fetcher.finish.run world = ((.ok (), ⟨none, none, fetcher.received⟩),
      { world with
        store := { world.store with fs := fetcher.flushed world.store.fs }
        outcome := world.outcome.or
          (some (.completed fetcher.info.toList fetcher.received)) }) := by
  unfold finish
  rw [run_bind_of_run (dropSink_run fetcher world)]
  rfl

/-- **When the responder has failed**, the local file is given up. -/
theorem failed_run (fetcher : Fetcher) (world : World Channel) (error : ExchangeError) :
    (fetcher.dropSink >>= fun dropped ↦
      (pure (.error error, dropped) : WorldM Channel (Handled Fetcher))).run world =
      ((.error error, { fetcher with sink := none }),
        { world with store := { world.store with fs := fetcher.flushed world.store.fs } }) := by
  rw [run_bind_of_run (dropSink_run fetcher world)]
  rfl

/-- **To quit** gives the local file up. -/
theorem quit_run (fetcher : Fetcher) (world : World Channel) :
    (Initiator.quit (.download fetcher)).run world = (.download { fetcher with sink := none },
      { world with store := { world.store with fs := fetcher.flushed world.store.fs } }) := by
  unfold Initiator.quit
  rw [run_bind_of_run (dropSink_run fetcher world)]
  rfl

/-- What a fetcher has handled is what its side has handled. -/
theorem handled_cases {handled : WorldM Channel (Handled Fetcher)} {state : Initiator}
    (h : (handled >>= fun handled ↦ pure (handled.1, Initiator.download handled.2)).run world =
      ((result, state), world')) :
    ∃ next, state = .download next ∧ handled.run world = ((result, next), world') := by
  rcases hrun : handled.run world with ⟨⟨told, next⟩, mid⟩
  rw [run_bind_of_run hrun] at h
  obtain ⟨rfl, rfl, rfl⟩ := run_inj h
  exact ⟨next, rfl, rfl⟩

/-- **No message makes an initiator that has failed forget it**, or moves it to another
directory. -/
theorem handle_keeps {command : Command} {state : Initiator}
    (h : (Initiator.handle settings requestId command message (.download fetcher)).run world =
      ((result, state), world')) :
    (∃ fetcher', state = .download fetcher') ∧ world'.workDir = world.workDir ∧
      (Outcome.IsFailure world.outcome → Outcome.IsFailure world'.outcome) := by
  cases command with
  | downloadInitResp =>
    obtain ⟨next, rfl, hbegin⟩ := handled_cases h
    obtain ⟨-, -, -, -, rfl⟩ | ⟨-, -, -, -, -, -, -, hdir, hsame, -⟩ := begin_cases hbegin
    · exact ⟨⟨_, rfl⟩, rfl, id⟩
    · exact ⟨⟨_, rfl⟩, hdir, fun hfailed ↦ hsame ▸ hfailed⟩
  | downloadDataResp =>
    obtain ⟨next, rfl, haccept⟩ := handled_cases h
    obtain ⟨-, -, -, -, rfl⟩ | ⟨-, -, -, -, -, -, rfl⟩ := accept_cases haccept
    · exact ⟨⟨_, rfl⟩, rfl, id⟩
    · exact ⟨⟨_, rfl⟩, rfl, id⟩
  | downloadEndResp =>
    obtain ⟨next, rfl, hfinish⟩ := handled_cases h
    rw [finish_run] at hfinish
    obtain ⟨-, rfl⟩ := Prod.mk.inj hfinish
    exact ⟨⟨_, rfl⟩, rfl, fun hfailed ↦ .or hfailed _⟩
  | downloadError =>
    change (fetcher.dropSink >>= _).run world = _ at h
    rw [run_bind_of_run (dropSink_run fetcher world)] at h
    obtain ⟨-, rfl, rfl⟩ := run_inj h
    exact ⟨⟨_, rfl⟩, rfl, id⟩
  | _ =>
    -- all other commands are refused
    obtain ⟨-, rfl, rfl⟩ := run_inj h
    exact ⟨⟨_, rfl⟩, rfl, id⟩

end Fetcher

/-! ### What happens to an initiator -/

namespace Side.Fetches

variable {side : Side} {message : Message} {command : Command}

/-- What happens on the way changes no side. -/
theorem onChannel (h : side.Fetches client requestId stage) (change : Channel → Channel) :
    (side.onChannel change).Fetches client requestId stage :=
  ⟨h.settings, h.workDir, h.fetcher⟩

theorem withFaults (h : side.Fetches client requestId stage) (faults : List Fault) :
    (side.withFaults faults).Fetches client requestId stage :=
  ⟨h.settings, h.workDir, h.fetcher⟩

/-- The initiator of a download has no job. -/
theorem work (h : side.Fetches client requestId stage) : side.work = side := by
  obtain ⟨fetcher, hexchange, -⟩ := h.fetcher
  refine work_of_none ?_
  rw [hexchange]
  rfl

/-- What an initiator does with a message, from how its fetcher handles it. -/
theorem process_fetcher {fetcher fetcher' : Fetcher} {result : Except ExchangeError Unit}
    {mid : World Channel} (hexchange : side.exchange = ⟨requestId, .initiator (.download fetcher)⟩)
    (hid : message.requestId = requestId) (hcommand : message.command? = some command)
    (hfamily : command.family = .download)
    (hmay : Exchange.mayReceive .initiator command = true)
    (handled : WorldM Channel (Handled Fetcher))
    (hhandle : Initiator.handle side.settings requestId command message (.download fetcher) =
      handled >>= fun handled ↦ pure (handled.1, .download handled.2))
    (hrun : handled.run side.world = ((result, fetcher'), mid)) :
    side.process message = ⟨side.settings, ⟨requestId, .initiator (.download fetcher')⟩,
      { mid with outcome := Outcome.after mid.outcome result }⟩ := by
  have hcheck : side.exchange.check message = .ok command := by
    rw [hexchange]
    exact Exchange.check_eq_ok hid hcommand hfamily hmay
  have hinitiator : (Initiator.handle side.settings requestId command message
      (.download fetcher)).run side.world = ((result, .download fetcher'), mid) := by
    rw [hhandle, run_bind_of_run hrun]
    rfl
  exact process_initiator hexchange hcheck hinitiator

/-- A failure is the outcome, unless there is another one. -/
theorem ofError {fetcher : Fetcher} {mid : World Channel} (h : side.Fetches client requestId stage)
    (hopen : side.world.outcome = none ∨ Outcome.IsFailure side.world.outcome)
    (hdir : mid.workDir = side.world.workDir) (hsame : mid.outcome = side.world.outcome)
    (error : ExchangeError) :
    Side.Fetches ⟨side.settings, ⟨requestId, .initiator (.download fetcher)⟩,
      { mid with outcome := Outcome.after mid.outcome (.error error) }⟩ client requestId
        .failed :=
  ⟨h.settings, hdir.trans h.workDir, fetcher, rfl,
    .failed (Outcome.isFailure_or_ofError error (by rwa [hsame]))⟩

/-- **When the file is announced**, the initiator asks for the range, or fails. -/
theorem ready (hwell : client.store.fs.WellFormed)
    (h : side.Fetches client requestId .waiting) (info : FileInfo) :
    let side' := side.process (downloadReady requestId info)
    side'.Fetches client requestId .failed ∨
      side'.Fetches client requestId (.receiving info ByteArray.empty) ∧
        side'.world.outlet.underway = side.world.outlet.underway ++
          [downloadRequest requestId (Fetcher.rangeOf client.settings info)] := by
  intro side'
  obtain ⟨fetcher, hexchange, hat⟩ := h.fetcher
  obtain ⟨rfl, hfs, houtcome⟩ := hat.of_waiting
  have hcommand : (downloadReady requestId info).command? = some .downloadInitResp :=
    Message.command?_of ..
  rcases hbegin : (Fetcher.idle.begin side.settings requestId (downloadReady requestId info)).run
    side.world with ⟨⟨result, fetcher'⟩, mid⟩
  have hprocess : side' = _ := process_fetcher hexchange rfl hcommand rfl rfl _ rfl hbegin
  rw [hprocess]
  rcases Fetcher.begin_cases hbegin with ⟨error, rfl, -, -, rfl⟩ |
    ⟨info', fs, content, hinfo, hcreate, rfl, hmade, hdir, hsame, ⟨cause, rfl⟩ | ⟨rfl, hsent⟩⟩
  · exact .inl (h.ofError (.inl houtcome) rfl rfl error)
  · exact .inl (h.ofError (.inl houtcome) hdir hsame _)
  · obtain rfl : info = info' := Response.downloadInit.inj (Option.some.inj hinfo)
    rw [hfs, h.workDir, h.settings] at hcreate
    obtain ⟨hopen, hempty⟩ := LocalFile.create_opens hwell hcreate
    refine .inr ⟨⟨h.settings, hdir.trans h.workDir, _, rfl, ?_⟩, ?_⟩
    · show Fetcher.At client (.receiving info ByteArray.empty) _ mid.store.fs mid.outcome
      rw [hsame, houtcome, hmade]
      exact .receiving ⟨rfl, rfl, content, hopen, .inl ⟨_, rfl, rfl, .ofContent hempty⟩⟩
    · rw [← h.settings]
      exact hsent

/-- **A piece that follows on what has been received** is added to it, or cannot be taken any more.
-/
theorem piece (h : side.Fetches client requestId (.receiving info got)) (data : ByteArray) :
    let side' := side.process (Producer.downloadMessage requestId data)
    side'.Fetches client requestId .failed ∨
      side'.Fetches client requestId (.receiving info (got ++ data)) ∧
        side'.world.outlet = side.world.outlet := by
  intro side'
  obtain ⟨fetcher, hexchange, hat⟩ := h.fetcher
  obtain ⟨hreceives, houtcome⟩ := hat.of_receiving
  have hcommand : (Producer.downloadMessage requestId data).command? = some .downloadDataResp :=
    Message.command?_of ..
  rcases haccept : (fetcher.accept (Producer.downloadMessage requestId data)).run side.world
    with ⟨⟨result, fetcher'⟩, mid⟩
  have hprocess : side' = _ := process_fetcher hexchange rfl hcommand rfl rfl _ rfl haccept
  rw [hprocess]
  rcases Fetcher.accept_cases haccept with ⟨error, rfl, -, rfl, rfl⟩ |
    ⟨sink, data', hsink, hdata, rfl, rfl, rfl⟩
  · exact .inl (h.ofError (.inl houtcome) rfl rfl error)
  · obtain rfl : data = data' := Option.some.inj hdata
    obtain ⟨content, hopen, hheld⟩ := hreceives.file
    rcases hheld with ⟨sink', hsink', rfl, hholds⟩ | ⟨hnone, -⟩
    · obtain rfl := Option.some.inj (hsink.symm.trans hsink')
      obtain ⟨hwritten, hext⟩ := hholds.write data
      refine .inr ⟨⟨h.settings, h.workDir, _, rfl, ?_⟩, rfl⟩
      show Fetcher.At client (.receiving info (got ++ data)) _ _ side.world.outcome
      rw [houtcome]
      refine .receiving ⟨hreceives.info, ?_, _, LocalFile.openToRead_mono hext hopen,
        .inl ⟨_, rfl, ?_, hwritten⟩⟩
      · show fetcher.received + UInt64.ofNat data.size = _
        rw [hreceives.received, ByteArray.size_append, UInt64.ofNat_add]
      · exact sink.content_write _ data
    · rw [hsink] at hnone
      cases hnone

/-- **When all has been received**, the download is complete. -/
theorem ending (h : side.Fetches client requestId (.receiving info got)) :
    let side' := side.process (downloadEnd requestId)
    side'.Fetches client requestId (.complete info got) ∧
      side'.world.outlet = side.world.outlet := by
  intro side'
  obtain ⟨fetcher, hexchange, hat⟩ := h.fetcher
  obtain ⟨hreceives, houtcome⟩ := hat.of_receiving
  have hcommand : (downloadEnd requestId).command? = some .downloadEndResp :=
    Message.command?_of ..
  have hprocess : side' = _ :=
    process_fetcher hexchange rfl hcommand rfl rfl _ rfl (fetcher.finish_run side.world)
  rw [hprocess]
  refine ⟨⟨h.settings, h.workDir, _, rfl, ?_⟩, rfl⟩
  show Fetcher.At client (.complete info got) ⟨none, none, fetcher.received⟩
    (fetcher.flushed side.world.store.fs)
    (side.world.outcome.or (some (.completed fetcher.info.toList fetcher.received)))
  rw [houtcome, hreceives.info, hreceives.received]
  refine .complete ?_
  -- the file is given up before the outcome is reported, so nothing is left in a buffer
  obtain ⟨content, hopen, ⟨sink, hsink, -⟩ | ⟨-, hbytes⟩⟩ := hreceives.flushed.file
  · cases hsink
  · rw [LocalFile.readAll_of_openToRead hopen, FileSystem.bytesOf_of_contents hbytes]

/-- **When the responder has failed**, so has the initiator, unless the download is complete. -/
theorem refused (h : side.Fetches client requestId stage) (status : Status) :
    let side' := side.process (downloadFailed requestId status)
    side'.Fetches client requestId .failed ∨
      (∃ info got, stage = .complete info got) ∧ side'.Fetches client requestId stage ∧
        side'.world.outlet = side.world.outlet := by
  intro side'
  obtain ⟨fetcher, hexchange, hat⟩ := h.fetcher
  have hcommand : (downloadFailed requestId status).command? = some .downloadError :=
    Message.command?_of ..
  have hprocess : side' = _ :=
    process_fetcher hexchange rfl hcommand rfl rfl _ rfl (fetcher.failed_run side.world _)
  rw [hprocess]
  rcases hat.open_or_complete with hopen | ⟨info, got, rfl⟩
  · let given : World Channel := { side.world with
      store := { side.world.store with fs := fetcher.flushed side.world.store.fs } }
    have hdir : given.workDir = side.world.workDir := rfl
    have hsame : given.outcome = side.world.outcome := rfl
    exact .inl (h.ofError hopen hdir hsame _)
  · obtain ⟨hinfo, hsink, hread, houtcome⟩ := hat.of_complete
    refine .inr ⟨⟨info, got, rfl⟩, ⟨h.settings, h.workDir, _, rfl, ?_⟩, rfl⟩
    show Fetcher.At client (.complete info got) { fetcher with sink := none }
      (fetcher.flushed side.world.store.fs) (side.world.outcome.or _)
    rw [Fetcher.flushed_of_none hsink, houtcome, hinfo]
    exact .complete hread

/-- **Only a download that is complete is reported as such.** -/
theorem of_completed (h : side.Fetches client requestId stage) {entries : List FileInfo}
    {bytes : UInt64} (houtcome : side.world.outcome = some (.completed entries bytes)) :
    ∃ info got, stage = .complete info got ∧ entries = [info] ∧ bytes = UInt64.ofNat got.size ∧
      LocalFile.readAll side.world.store.fs client.workDir client.settings.request.outputFile =
        .ok got := by
  obtain ⟨fetcher, -, hat⟩ := h.fetcher
  rw [houtcome] at hat
  rcases hat.open_or_complete with (hnone | ⟨code, reason, hfailed⟩) | ⟨info, got, rfl⟩
  · cases hnone
  · cases hfailed
  · obtain ⟨-, -, hread, hcompleted⟩ := hat.of_complete
    obtain ⟨rfl, rfl⟩ := Outcome.completed.inj (Option.some.inj hcompleted)
    exact ⟨info, got, rfl, rfl, rfl, hread⟩

/-- **To quit** gives the local file up, which then holds what has been received. -/
theorem quit (h : side.Fetches client requestId stage) :
    side.quit.Fetches client requestId stage ∧ side.quit.world.outlet = side.world.outlet := by
  obtain ⟨fetcher, hexchange, hat⟩ := h.fetcher
  rw [quit_initiator hexchange (fetcher.quit_run side.world)]
  refine ⟨⟨h.settings, h.workDir, _, rfl, ?_⟩, rfl⟩
  dsimp only
  cases stage with
  | waiting =>
    obtain ⟨rfl, hfs, houtcome⟩ := hat.of_waiting
    rw [Fetcher.flushed_of_none rfl, hfs, houtcome]
    exact .waiting
  | receiving info got =>
    obtain ⟨hreceives, houtcome⟩ := hat.of_receiving
    rw [houtcome]
    exact .receiving hreceives.flushed
  | complete info got =>
    obtain ⟨hinfo, hsink, hread, houtcome⟩ := hat.of_complete
    rw [Fetcher.flushed_of_none hsink, houtcome, hinfo]
    exact .complete hread
  | failed =>
    cases hat with
    | failed hfailed => exact .failed hfailed

/-- **An initiator that has failed stays failed**, whatever it is sent. -/
theorem process_of_failed (h : side.Fetches client requestId .failed) (message : Message) :
    (side.process message).Fetches client requestId .failed := by
  obtain ⟨fetcher, hexchange, hat⟩ := h.fetcher
  cases hat with
  | failed hfailed => ?_
  -- only the first outcome counts, and this one is there already
  cases hcheck : side.exchange.check message with
  | error error =>
    -- a message that is refused is a failure of its own
    have hprocess : side.process message = { side with world := ((World.fail
        side.exchange.party.role side.exchange.family message.requestId error).run
          side.world).2 } := by
      unfold Side.process Exchange.process
      rw [hcheck]
      rfl
    rw [hprocess, hexchange]
    exact ⟨h.settings, h.workDir, fetcher, rfl, .failed (hfailed.or _)⟩
  | ok command =>
    rcases hrun : (Initiator.handle side.settings requestId command message
      (.download fetcher)).run side.world with ⟨⟨result, state⟩, mid⟩
    obtain ⟨⟨fetcher', rfl⟩, hdir, hkept⟩ := Fetcher.handle_keeps hrun
    rw [process_initiator hexchange hcheck hrun]
    refine ⟨h.settings, hdir.trans h.workDir, fetcher', rfl, .failed ?_⟩
    show Outcome.IsFailure (Outcome.after mid.outcome result)
    cases result with
    | ok _ => exact hkept hfailed
    | error error => exact (hkept hfailed).or _

end Side.Fetches

end FileShare
