import FileShare.Proofs.DownloadRun
import FileShare.Proofs.Replacement

/-!
# What a completed download reports

Whatever is delivered to the initiator of a download, in any order and however often: a download
that is reported as completed has been ended by its responder, and the report names the file that
was announced last and counts every byte that has come (`Side.completed_download`).

That is the file on the disk if its announcement was the only one. A second announcement empties the
local file, but not the count; and the buffer of the first one is written after that, where it would
have stood, so it lies under the bytes of the second. If no file was announced at all, the report
says so, and there is no local file.

What has been told to an initiator is kept beside it (`Retrieved`): the files that were announced,
the bytes that have come, and what of the local file these lie over. What the initiator remembers
and what is in the local file follow from that (`Fetcher.Recounts`) until there is an outcome. From
then on only another announcement touches the local file.
-/

namespace FileShare

/-! ### What has been told -/

/-- The file that a message announces. -/
def Message.announced? (message : Message) : Option FileInfo :=
  match message.response? with
  | some (.downloadInit info) => some info
  | _ => none

/-- **What a buffer holds** when another piece has been written through it. -/
def BufferedFile.gather (buffer data : ByteArray) : ByteArray :=
  if capacity ≤ data.size then ByteArray.empty
  else if capacity < buffer.size + data.size then data
  else buffer ++ data

theorem BufferedFile.buffer_write (file : BufferedFile) (fs : FileSystem) (data : ByteArray) :
    (file.write fs data).1.buffer = gather file.buffer data := by
  unfold BufferedFile.write gather
  by_cases hsmall : data.size < capacity
  · rw [if_neg (Nat.not_le.2 hsmall)]
    by_cases hfull : capacity < file.buffer.size + data.size
    · simp only [hfull, hsmall, if_true]
      exact ByteArray.empty_append
    · simp only [hfull, hsmall, if_true, if_false]
  · rw [if_pos (Nat.not_lt.1 hsmall)]
    by_cases hfull : capacity < file.buffer.size + data.size
    · simp only [hfull, hsmall, if_true, if_false]
      rfl
    · simp only [hfull, hsmall, if_false]
      exact ByteArray.size_eq_zero_iff.1 (by omega)

/-- **A download as it is told to its initiator.** -/
structure Retrieved where
  /-- The files that have been announced, in turn. -/
  files : List FileInfo
  /-- The pieces that have come since the last of them, one behind the other. -/
  got : ByteArray
  /-- How many bytes have come in all. -/
  total : Nat
  /-- The last bytes that have come, as far as they are in the buffer of the local file. -/
  pending : ByteArray
  /-- What was in the local file before the first of the pieces. -/
  under : ByteArray
  deriving DecidableEq

namespace Retrieved

/-- Nothing has been told. -/
def nothing : Retrieved := ⟨[], ByteArray.empty, 0, ByteArray.empty, ByteArray.empty⟩

/-- What a buffer leaves in a file that was emptied meanwhile: its bytes, where they would have
stood, behind zeros. -/
def residue (told : Retrieved) : ByteArray :=
  if told.pending.size = 0 then ByteArray.empty
  else FileSystem.overwrite ByteArray.empty (told.got.size - told.pending.size) told.pending

/-- A file is announced. -/
def announce (told : Retrieved) (info : FileInfo) : Retrieved :=
  ⟨told.files ++ [info], ByteArray.empty, told.total, ByteArray.empty, told.residue⟩

/-- A piece comes. -/
def piece (told : Retrieved) (data : ByteArray) : Retrieved :=
  { told with
    got := told.got ++ data
    total := told.total + data.size
    pending := BufferedFile.gather told.pending data }

/-- The local file is given up. -/
def close (told : Retrieved) : Retrieved :=
  { told with pending := ByteArray.empty }

/-- **What has been told when something has happened to an initiator**, from what came of it. -/
def meet (told : Retrieved) (side : Side) : Happening → Retrieved
  | .message message =>
    match isDone (side.answer message), message.command? with
    | true, some .downloadInitResp => message.announced?.elim told told.announce
    | true, some .downloadDataResp => message.downloadData?.elim told told.piece
    | _, _ => told
  | .quit => told.close
  | _ => told

section

variable {told : Retrieved} {side : Side} {message : Message}

theorem meet_announcement {info : FileInfo} (hdone : isDone (side.answer message) = true)
    (hcommand : message.command? = some .downloadInitResp)
    (hinfo : message.announced? = some info) :
    told.meet side (.message message) = told.announce info := by
  unfold meet
  dsimp only
  rw [hdone, hcommand, hinfo]
  rfl

theorem meet_piece {data : ByteArray} (hdone : isDone (side.answer message) = true)
    (hcommand : message.command? = some .downloadDataResp)
    (hdata : message.downloadData? = some data) :
    told.meet side (.message message) = told.piece data := by
  unfold meet
  dsimp only
  rw [hdone, hcommand, hdata]
  rfl

theorem meet_ending (hcommand : message.command? = some .downloadEndResp) :
    told.meet side (.message message) = told := by
  unfold meet
  dsimp only
  rw [hcommand]
  cases isDone (side.answer message) <;> rfl

end

/-- A file that has been announced stays announced. -/
theorem files_meet (told : Retrieved) (side : Side) (happening : Happening) :
    ∃ more, (told.meet side happening).files = told.files ++ more := by
  have hsame : ∃ more, told.files = told.files ++ more := ⟨[], (List.append_nil _).symm⟩
  cases happening with
  | message message =>
    unfold meet
    dsimp only
    split
    · cases message.announced? with
      | none => exact hsame
      | some info => exact ⟨[info], rfl⟩
    · cases message.downloadData? with
      | none => exact hsame
      | some data => exact hsame
    · exact hsame
  | _ => exact hsame

end Retrieved

/-- **What has been told by the end of a run.** -/
def Side.retrieved (side : Side) (told : Retrieved) : List Happening → Retrieved
  | [] => told
  | happening :: rest => (side.meet happening).retrieved (told.meet side happening) rest

theorem Side.files_retrieved (side : Side) (told : Retrieved) (happenings : List Happening) :
    ∃ more, (side.retrieved told happenings).files = told.files ++ more := by
  induction happenings generalizing side told with
  | nil => exact ⟨[], (List.append_nil _).symm⟩
  | cons happening rest ih =>
    obtain ⟨more, hmore⟩ := told.files_meet side happening
    obtain ⟨others, hothers⟩ := ih (side.meet happening) (told.meet side happening)
    exact ⟨more ++ others, by rw [Side.retrieved, hothers, hmore, List.append_assoc]⟩

namespace Fetcher

variable {fetcher fetcher' : Fetcher} {world world' : World Channel} {requestId : String}
variable {settings : TransferSettings} {message : Message} {result : Except ExchangeError Unit}

/-! ### What an initiator does with a message -/

/-- **What an initiator does with a message**, one case for each way through it: what comes of it,
what the initiator is then, and what the world is, before a failure is its outcome. -/
inductive Takes (settings : TransferSettings) (requestId : String) (message : Message)
    (fetcher : Fetcher) (world : World Channel) :
    Except ExchangeError Unit → Fetcher → World Channel → Prop
  /-- It is refused. -/
  | refused {error : ExchangeError} (hdone : isDone (.error error) = false) :
      Takes settings requestId message fetcher world (.error error) fetcher world
  /-- The local file has been created, and the one from before has been given up. -/
  | begun {info : FileInfo} {fs : FileSystem} {content : Nat} {world' : World Channel}
      {result : Except ExchangeError Unit} (hcommand : message.command? = some .downloadInitResp)
      (hinfo : message.announced? = some info)
      (hcreate : LocalFile.create world.store.fs world.workDir settings.request.outputFile =
        .ok (fs, content))
      (hdone : isDone result = true)
      (hfs : world'.store.fs = fetcher.flushed fs) (hdir : world'.workDir = world.workDir)
      (houtcome : world'.outcome = world.outcome) :
      Takes settings requestId message fetcher world result
        { fetcher with sink := some (.ofContent content), info := some info } world'
  /-- A piece has been written. -/
  | piece {sink : BufferedFile} {data : ByteArray}
      (hcommand : message.command? = some .downloadDataResp) (hsink : fetcher.sink = some sink)
      (hdata : message.downloadData? = some data) :
      Takes settings requestId message fetcher world (.ok ())
        { fetcher with
          sink := some (sink.write world.store.fs data).1
          received := fetcher.received + UInt64.ofNat data.size }
        { world with store := { world.store with fs := (sink.write world.store.fs data).2 } }
  /-- The download is complete. -/
  | finished (hid : message.requestId = requestId)
      (hcommand : message.command? = some .downloadEndResp) :
      Takes settings requestId message fetcher world (.ok ()) ⟨none, none, fetcher.received⟩
        { world with
          store := { world.store with fs := fetcher.flushed world.store.fs }
          outcome := world.outcome.or
            (some (.completed fetcher.info.toList fetcher.received)) }
  /-- The responder has failed. -/
  | failed {error : ExchangeError} (hcommand : message.command? = some .downloadError) :
      Takes settings requestId message fetcher world (.error error) { fetcher with sink := none }
        { world with store := { world.store with fs := fetcher.flushed world.store.fs } }

/-- Whatever fails is not done, unless it is the session that fails. -/
theorem isDone_of_ne {error : ExchangeError} (h : ∀ cause, error ≠ .session cause) :
    isDone (.error error) = false := by
  cases error with
  | session cause => exact absurd rfl (h cause)
  | _ => rfl

theorem begin_takes (hcommand : message.command? = some .downloadInitResp)
    (h : (fetcher.begin settings requestId message).run world = ((result, fetcher'), world')) :
    fetcher.Takes settings requestId message world result fetcher' world' := by
  rcases begin_cases h with ⟨error, rfl, hlocal, rfl, rfl⟩ |
    ⟨info, fs, content, hresponse, hcreate, rfl, hfs, hdir, houtcome, hresult⟩
  · exact .refused (isDone_of_ne hlocal)
  · have hinfo : message.announced? = some info := by
      unfold Message.announced?
      rw [hresponse]
    refine .begun hcommand hinfo hcreate ?_ hfs hdir houtcome
    rcases hresult with ⟨cause, rfl⟩ | ⟨rfl, -⟩ <;> rfl

theorem accept_takes (hcommand : message.command? = some .downloadDataResp)
    (h : (fetcher.accept message).run world = ((result, fetcher'), world')) :
    fetcher.Takes settings requestId message world result fetcher' world' := by
  rcases accept_cases h with ⟨error, rfl, hlocal, rfl, rfl⟩ |
    ⟨sink, data, hsink, hdata, rfl, rfl, rfl⟩
  · exact .refused (isDone_of_ne hlocal)
  · exact .piece hcommand hsink hdata

end Fetcher

namespace Side

variable {side : Side} {requestId : String} {fetcher : Fetcher} {message : Message}

/-- What comes of a message for whoever delivers it to an initiator. -/
theorem answer_initiator {state state' : Initiator} {command : Command}
    {result : Except ExchangeError Unit} {mid : World Channel}
    (hexchange : side.exchange = ⟨requestId, .initiator state⟩)
    (hcheck : side.exchange.check message = .ok command)
    (hrun : (state.handle side.settings requestId command message).run side.world =
      ((result, state'), mid)) : side.answer message = result := by
  unfold answer
  rw [Exchange.process_run _ _ hcheck, hexchange]
  change ((state.handle side.settings requestId command message >>= fun handled ↦
    pure (handled.1, (⟨requestId, .initiator handled.2⟩ : Exchange)) :
      WorldM Channel (Handled Exchange)).run side.world).1.1 = _
  rw [run_bind_of_run hrun]
  rfl

/-- **What an initiator of a download does with any message**; a failure is its outcome, unless it
has one. -/
theorem process_retrieves
    (hexchange : side.exchange = ⟨requestId, .initiator (.download fetcher)⟩) (message : Message) :
    ∃ fetcher' mid, fetcher.Takes side.settings requestId message side.world (side.answer message)
        fetcher' mid ∧
      side.process message = ⟨side.settings, ⟨requestId, .initiator (.download fetcher')⟩,
        { mid with outcome := Outcome.after mid.outcome (side.answer message) }⟩ := by
  cases hcheck : side.exchange.check message with
  | error error =>
    have hanswer : side.answer message = .error error := by
      unfold answer Exchange.process
      rw [hcheck]
      rfl
    refine ⟨fetcher, side.world, hanswer ▸ .refused (Exchange.isDone_check hcheck), ?_⟩
    rw [hanswer, ← hexchange]
    unfold Side.process Exchange.process
    rw [hcheck, hexchange]
    rfl
  | ok command =>
    obtain ⟨hid, hcommand, hfamily, hmay⟩ := Exchange.of_check_eq_ok hcheck
    rw [hexchange] at hid hfamily hmay
    have hfamily : command.family = .download := hfamily
    have hmay : Exchange.mayReceive .initiator command = true := hmay
    -- what comes of the message, from what the fetcher makes of it
    have hprocess : ∀ {handled : WorldM Channel (Handled Fetcher)} {result fetcher' mid},
        Initiator.handle side.settings requestId command message (.download fetcher) =
          (handled >>= fun handled ↦ pure (handled.1, .download handled.2)) →
        handled.run side.world = ((result, fetcher'), mid) →
        fetcher.Takes side.settings requestId message side.world result fetcher' mid →
        ∃ fetcher' mid, fetcher.Takes side.settings requestId message side.world
            (side.answer message) fetcher' mid ∧
          side.process message = ⟨side.settings, ⟨requestId, .initiator (.download fetcher')⟩,
            { mid with outcome := Outcome.after mid.outcome (side.answer message) }⟩ := by
      intro handled result fetcher' mid hhandle hrun htakes
      have hinitiator : (Initiator.handle side.settings requestId command message
          (.download fetcher)).run side.world = ((result, .download fetcher'), mid) := by
        rw [hhandle, run_bind_of_run hrun]
        rfl
      have hresult := answer_initiator hexchange hcheck hinitiator
      exact ⟨fetcher', mid, hresult ▸ htakes,
        hresult ▸ process_initiator hexchange hcheck hinitiator⟩
    cases command with
    | downloadInitResp =>
      rcases hrun : (fetcher.begin side.settings requestId message).run side.world with
        ⟨⟨result, _⟩, mid⟩
      exact hprocess rfl hrun (Fetcher.begin_takes hcommand hrun)
    | downloadDataResp =>
      rcases hrun : (fetcher.accept message).run side.world with ⟨⟨result, _⟩, mid⟩
      exact hprocess rfl hrun (Fetcher.accept_takes hcommand hrun)
    | downloadEndResp =>
      exact hprocess rfl (fetcher.finish_run side.world) (.finished hid hcommand)
    | downloadError =>
      exact hprocess rfl (fetcher.failed_run side.world _) (.failed hcommand)
    | _ => exact absurd (And.intro hfamily hmay) (by decide)

/-- **An initiator of a download quits**: it gives the local file up. -/
theorem quit_retrieves
    (hexchange : side.exchange = ⟨requestId, .initiator (.download fetcher)⟩) :
    side.quit = ⟨side.settings, ⟨requestId, .initiator (.download { fetcher with sink := none })⟩,
      { side.world with store := { side.world.store with
        fs := fetcher.flushed side.world.store.fs } }⟩ :=
  quit_initiator hexchange (fetcher.quit_run side.world)

/-- **An initiator of a download stays one**, with its settings and its working directory, and keeps
its outcome once it has one. -/
theorem meet_retrieves
    (hexchange : side.exchange = ⟨requestId, .initiator (.download fetcher)⟩)
    (happening : Happening) :
    (side.meet happening).settings = side.settings ∧
      (side.meet happening).world.workDir = side.world.workDir ∧
      (∃ fetcher', (side.meet happening).exchange = ⟨requestId, .initiator (.download fetcher')⟩) ∧
      ∀ outcome, side.world.outcome = some outcome →
        (side.meet happening).world.outcome = some outcome := by
  cases happening with
  | message message =>
    obtain ⟨fetcher', mid, htakes, hprocess⟩ := process_retrieves hexchange message
    have hmeet : side.meet (.message message) = _ := hprocess
    rw [hmeet]
    generalize side.answer message = result at htakes ⊢
    have hmid : mid.workDir = side.world.workDir ∧
        ∀ outcome, side.world.outcome = some outcome → mid.outcome = some outcome := by
      cases htakes with
      | begun _ _ _ _ _ hdir houtcome => exact ⟨hdir, fun _ h ↦ houtcome.trans h⟩
      | finished => exact ⟨rfl, fun _ h ↦ congrArg (Option.or · _) h⟩
      | _ => exact ⟨rfl, fun _ h ↦ h⟩
    refine ⟨rfl, hmid.1, ⟨_, rfl⟩, fun outcome houtcome ↦ ?_⟩
    dsimp only
    rw [hmid.2 outcome houtcome]
    cases result <;> rfl
  | quit =>
    have hmeet : side.meet .quit = _ := quit_retrieves hexchange
    rw [hmeet]
    exact ⟨rfl, rfl, ⟨_, rfl⟩, fun _ h ↦ h⟩
  | _ => exact ⟨rfl, rfl, ⟨_, hexchange⟩, fun _ h ↦ h⟩

/-- **The first outcome stays.** -/
theorem outcome_follow
    (hexchange : side.exchange = ⟨requestId, .initiator (.download fetcher)⟩) {outcome : Outcome}
    (houtcome : side.world.outcome = some outcome) (happenings : List Happening) :
    (side.follow happenings).world.outcome = some outcome := by
  induction happenings generalizing side fetcher with
  | nil => exact houtcome
  | cons happening rest ih =>
    obtain ⟨-, -, ⟨fetcher', hnext⟩, hkept⟩ := meet_retrieves hexchange happening
    exact ih hnext (hkept outcome houtcome)

/-- **A local file that has been given up is left alone** until a file is announced. -/
theorem follow_of_closed {told : Retrieved}
    (hexchange : side.exchange = ⟨requestId, .initiator (.download fetcher)⟩)
    (hclosed : fetcher.sink = none) {happenings : List Happening}
    (hquiet : (side.retrieved told happenings).files = told.files) :
    (side.follow happenings).world.store.fs = side.world.store.fs := by
  induction happenings generalizing side fetcher told with
  | nil => rfl
  | cons happening rest ih =>
    -- files are only added, so none has been announced in the first step either
    have hfirst : (told.meet side happening).files = told.files := by
      obtain ⟨more, hmore⟩ := told.files_meet side happening
      obtain ⟨others, hothers⟩ :=
        (side.meet happening).files_retrieved (told.meet side happening) rest
      rw [retrieved, hothers, hmore, List.append_assoc, List.append_right_eq_self] at hquiet
      rw [hmore, (List.append_eq_nil_iff.1 hquiet).1, List.append_nil]
    have hstep : ∃ fetcher', (side.meet happening).exchange =
        ⟨requestId, .initiator (.download fetcher')⟩ ∧ fetcher'.sink = none ∧
          (side.meet happening).world.store.fs = side.world.store.fs := by
      cases happening with
      | message message =>
        obtain ⟨fetcher', mid, htakes, hprocess⟩ := process_retrieves hexchange message
        have hmeet : side.meet (.message message) = _ := hprocess
        rw [hmeet]
        refine ⟨_, rfl, ?_⟩
        generalize hanswer : side.answer message = result at htakes ⊢
        cases htakes with
        | refused => exact ⟨hclosed, rfl⟩
        | begun hcommand hinfo _ hdone =>
          rw [Retrieved.meet_announcement (hanswer ▸ hdone) hcommand hinfo] at hfirst
          exact absurd hfirst (by simp [Retrieved.announce])
        | piece _ hsink =>
          rw [hclosed] at hsink
          cases hsink
        | finished => exact ⟨rfl, Fetcher.flushed_of_none hclosed _⟩
        | failed => exact ⟨rfl, Fetcher.flushed_of_none hclosed _⟩
      | quit =>
        have hmeet : side.meet .quit = _ := quit_retrieves hexchange
        rw [hmeet]
        exact ⟨_, rfl, rfl, Fetcher.flushed_of_none hclosed _⟩
      | _ => exact ⟨_, hexchange, hclosed, rfl⟩
    obtain ⟨fetcher', hnext, hstill, hfs⟩ := hstep
    rw [follow_cons, ih hnext hstill (hquiet.trans hfirst.symm), hfs]

end Side

/-! ### Until there is an outcome -/

/-- **What has come lies in the local file**, over what was there before. Unless a file has been
announced, nothing has changed. -/
structure Retrieved.LiesIn (told : Retrieved) (first fs : FileSystem) (workDir : Path)
    (path : String) : Prop where
  unannounced : told.files = [] → fs = first
  content : told.files ≠ [] →
    LocalFile.readAll fs workDir path = .ok (FileSystem.overwrite told.under 0 told.got)

/-- **What an initiator remembers, and what is in its local file**, from what it has been told. -/
structure Fetcher.Recounts (fetcher : Fetcher) (first fs : FileSystem) (workDir : Path)
    (path : String) (told : Retrieved) : Prop where
  info : fetcher.info = told.files.getLast?
  received : fetcher.received = UInt64.ofNat told.total
  fresh : told.files = [] → told = .nothing ∧ fetcher.sink = none ∧ fs = first
  once : told.files.length = 1 → told.under = ByteArray.empty ∧ told.total = told.got.size
  file : told.files ≠ [] → ∃ content, LocalFile.openToRead fs workDir path = .ok (.file content) ∧
    ((∃ sink, fetcher.sink = some sink ∧ sink.content = content ∧ sink.buffer = told.pending ∧
        sink.Lays fs told.under told.got) ∨
      fetcher.sink = none ∧ told.pending = ByteArray.empty ∧
        fs.contents[content]?.map (·.bytes) =
          some (FileSystem.overwrite told.under 0 told.got))

namespace Fetcher.Recounts

variable {fetcher : Fetcher} {first fs fs' : FileSystem} {workDir : Path} {path : String}
variable {told : Retrieved}

/-- **When the local file has been given up**, all that has come lies in it. -/
theorem close (h : fetcher.Recounts first fs workDir path told) :
    Recounts { fetcher with sink := none } first (fetcher.flushed fs) workDir path told.close where
  info := h.info
  received := h.received
  fresh hfiles := by
    obtain ⟨rfl, hsink, rfl⟩ := h.fresh hfiles
    exact ⟨rfl, rfl, flushed_of_none hsink _⟩
  once := h.once
  file hfiles := by
    obtain ⟨content, hopen, ⟨sink, hsink, rfl, -, hlays⟩ | ⟨hsink, -, hbytes⟩⟩ := h.file hfiles
    · rw [flushed_of_some hsink]
      exact ⟨_, LocalFile.openToRead_mono (sink.extends_flush fs) hopen,
        .inr ⟨rfl, rfl, hlays.flush.2⟩⟩
    · rw [flushed_of_none hsink]
      exact ⟨content, hopen, .inr ⟨rfl, rfl, hbytes⟩⟩

theorem liesIn (h : fetcher.Recounts first fs workDir path told) :
    told.LiesIn first (fetcher.flushed fs) workDir path where
  unannounced hfiles := (h.close.fresh hfiles).2.2
  content hfiles := by
    obtain ⟨content, hopen, ⟨sink, hsink, -⟩ | ⟨-, -, hbytes⟩⟩ := h.close.file hfiles
    · cases hsink
    · rw [LocalFile.readAll_of_openToRead hopen, FileSystem.bytesOf_of_contents hbytes]
      rfl

/-- **A piece** lies behind what has come, in part through the buffer. -/
theorem piece (h : fetcher.Recounts first fs workDir path told) {sink : BufferedFile}
    (hsink : fetcher.sink = some sink) (data : ByteArray) :
    Recounts
      { fetcher with
        sink := some (sink.write fs data).1
        received := fetcher.received + UInt64.ofNat data.size }
      first (sink.write fs data).2 workDir path (told.piece data) where
  info := h.info
  received := by
    show fetcher.received + UInt64.ofNat data.size = UInt64.ofNat (told.total + data.size)
    rw [h.received, UInt64.ofNat_add]
  fresh hfiles := by
    obtain ⟨-, hnone, -⟩ := h.fresh hfiles
    rw [hsink] at hnone
    cases hnone
  once hfiles := by
    obtain ⟨hunder, htotal⟩ := h.once hfiles
    exact ⟨hunder, by simp [Retrieved.piece, htotal]⟩
  file hfiles := by
    obtain ⟨content, hopen, ⟨sink', hsink', rfl, hbuffer, hlays⟩ | ⟨hnone, -⟩⟩ := h.file hfiles
    · obtain rfl := Option.some.inj (hsink.symm.trans hsink')
      obtain ⟨hwritten, hext⟩ := hlays.write data
      refine ⟨_, LocalFile.openToRead_mono hext hopen,
        .inl ⟨_, rfl, sink.content_write fs data, ?_, hwritten⟩⟩
      rw [sink.buffer_write, hbuffer]
      rfl
    · rw [hsink] at hnone
      cases hnone

/-- **When a file is announced**, the local file is created, or emptied. Then the bytes are written
that were still in the buffer. -/
theorem announce (h : fetcher.Recounts first fs workDir path told) (hwell : first.WellFormed)
    {content : Nat} (hcreate : LocalFile.create fs workDir path = .ok (fs', content))
    (info : FileInfo) :
    Recounts { fetcher with sink := some (.ofContent content), info := some info } first
      (fetcher.flushed fs') workDir path (told.announce info) where
  info := by simp [Retrieved.announce]
  received := h.received
  fresh hfiles := absurd hfiles (by simp [Retrieved.announce])
  once hlength := by
    obtain ⟨rfl, -⟩ := h.fresh (by simpa [Retrieved.announce] using hlength)
    exact ⟨rfl, rfl⟩
  file _ := by
    -- it is enough that the new file is read under the path and holds what the old buffer left
    suffices hholds : LocalFile.openToRead (fetcher.flushed fs') workDir path =
        .ok (.file content) ∧ (fetcher.flushed fs').contents[content]?.map (·.bytes) =
          some told.residue from
      ⟨content, hholds.1, .inl ⟨_, rfl, rfl, rfl, .ofContent hholds.2⟩⟩
    by_cases hfiles : told.files = []
    · obtain ⟨rfl, hsink, rfl⟩ := h.fresh hfiles
      rw [flushed_of_none hsink]
      exact LocalFile.create_opens hwell hcreate
    obtain ⟨old, hopen, hold⟩ := h.file hfiles
    have hthere : old < fs.contents.size := by
      by_contra hbeyond
      have hmissing : fs.contents[old]? = none := by simpa using hbeyond
      obtain ⟨sink, -, rfl, -, ⟨_, hbytes, -⟩⟩ | ⟨-, -, hbytes⟩ := hold
      all_goals
        rw [hmissing] at hbytes
        cases hbytes
    obtain ⟨rfl, hagain, hempty⟩ := LocalFile.create_again hopen hthere hcreate
    obtain ⟨sink, hsink, rfl, hbuffer, ⟨written, -, hposition, hgot⟩⟩ | ⟨hsink, hpending, -⟩ := hold
    · rw [flushed_of_some hsink]
      refine ⟨LocalFile.openToRead_mono (sink.extends_flush fs') hagain, ?_⟩
      -- the older handle goes on where it was
      have hstood : told.got.size - told.pending.size = sink.position := by
        rw [← hgot, ← hbuffer, hposition, ByteArray.size_append, Nat.add_sub_cancel]
      unfold Retrieved.residue
      rw [hstood, ← hbuffer]
      exact FileSystem.bytes_write hempty
    · rw [flushed_of_none hsink]
      refine ⟨hagain, ?_⟩
      unfold Retrieved.residue
      rw [hpending]
      exact hempty

end Fetcher.Recounts

/-- **A side is the initiator of a download**, which has no outcome, and of which so much has been
told. -/
structure Side.Recounts (side start : Side) (requestId : String) (told : Retrieved) : Prop where
  settings : side.settings = start.settings
  workDir : side.world.workDir = start.world.workDir
  outcome : side.world.outcome = none
  fetcher : ∃ fetcher : Fetcher, side.exchange = ⟨requestId, .initiator (.download fetcher)⟩ ∧
    fetcher.Recounts start.world.store.fs side.world.store.fs start.world.workDir
      start.settings.request.outputFile told

/-- **A download has been reported as completed**: the file that was announced last, and all bytes
that have come. The local file has been given up. -/
structure Side.Concludes (side start : Side) (requestId : String) (told : Retrieved) : Prop where
  outcome : side.world.outcome =
    some (.completed told.files.getLast?.toList (UInt64.ofNat told.total))
  fetcher : ∃ fetcher : Fetcher, side.exchange = ⟨requestId, .initiator (.download fetcher)⟩ ∧
    fetcher.sink = none
  file : told.LiesIn start.world.store.fs side.world.store.fs start.world.workDir
    start.settings.request.outputFile

namespace Side

variable {side start : Side} {requestId : String} {told : Retrieved}

/-- **After one happening**, there is still no outcome, or the download has failed, or it has been
ended. -/
theorem Recounts.meet (h : side.Recounts start requestId told)
    (hwell : start.world.store.fs.WellFormed) (happening : Happening) :
    (side.meet happening).Recounts start requestId (told.meet side happening) ∨
      Outcome.IsFailure (side.meet happening).world.outcome ∨
      ∃ ending, happening = .message ending ∧ ending.requestId = requestId ∧
        ending.command? = some .downloadEndResp ∧
        (side.meet happening).Concludes start requestId told := by
  obtain ⟨fetcher, hexchange, hrecounts⟩ := h.fetcher
  cases happening with
  | message message =>
    obtain ⟨fetcher', mid, htakes, hprocess⟩ := process_retrieves hexchange message
    have hmeet : side.meet (.message message) = _ := hprocess
    rw [hmeet]
    generalize hanswer : side.answer message = result at htakes ⊢
    cases htakes with
    | refused => exact .inr (.inl (Outcome.isFailure_or_ofError _ (.inl h.outcome)))
    | failed => exact .inr (.inl (Outcome.isFailure_or_ofError _ (.inl h.outcome)))
    | begun hcommand hinfo hcreate hdone hfs hdir houtcome =>
      cases result with
      | error error =>
        exact .inr (.inl (Outcome.isFailure_or_ofError _ (.inl (houtcome.trans h.outcome))))
      | ok _ =>
        rw [Retrieved.meet_announcement (hanswer ▸ hdone) hcommand hinfo]
        rw [h.workDir, h.settings] at hcreate
        refine .inl ⟨h.settings, hdir.trans h.workDir, houtcome.trans h.outcome, _, rfl, ?_⟩
        dsimp only
        rw [hfs]
        exact hrecounts.announce hwell hcreate _
    | piece hcommand hsink hdata =>
      rw [Retrieved.meet_piece (hanswer ▸ rfl) hcommand hdata]
      exact .inl ⟨h.settings, h.workDir, h.outcome, _, rfl, hrecounts.piece hsink _⟩
    | finished hid hcommand =>
      refine .inr (.inr ⟨message, rfl, hid, hcommand, ?_, ⟨_, rfl, rfl⟩, hrecounts.liesIn⟩)
      show side.world.outcome.or _ = _
      rw [h.outcome, hrecounts.info, hrecounts.received]
      rfl
  | quit =>
    have hmeet : side.meet .quit = _ := quit_retrieves hexchange
    rw [hmeet]
    exact .inl ⟨h.settings, h.workDir, h.outcome, _, rfl, hrecounts.close⟩
  | _ => exact .inl ⟨h.settings, h.workDir, h.outcome, fetcher, hexchange, hrecounts⟩

/-- **A run that ends with a completed download** has come to its end in one of its messages. -/
theorem Recounts.follow (h : side.Recounts start requestId told)
    (hwell : start.world.store.fs.WellFormed) {happenings : List Happening}
    {entries : List FileInfo} {bytes : UInt64}
    (hcompleted : (side.follow happenings).world.outcome = some (.completed entries bytes)) :
    ∃ before ending after, happenings = before ++ .message ending :: after ∧
      ending.requestId = requestId ∧ ending.command? = some .downloadEndResp ∧
      (side.follow before).Recounts start requestId (side.retrieved told before) ∧
      ((side.follow before).process ending).Concludes start requestId
        (side.retrieved told before) := by
  induction happenings generalizing side told with
  | nil =>
    rw [follow_nil, h.outcome] at hcompleted
    cases hcompleted
  | cons happening rest ih =>
    obtain ⟨fetcher, hexchange, -⟩ := h.fetcher
    obtain ⟨-, -, ⟨_, hnext⟩, -⟩ := meet_retrieves hexchange happening
    rcases h.meet hwell happening with hopen | ⟨code, reason, hfailed⟩ |
      ⟨ending, rfl, hid, hcommand, hconcludes⟩
    · obtain ⟨before, ending, after, rfl, hrest⟩ := ih hopen hcompleted
      exact ⟨happening :: before, ending, after, rfl, hrest⟩
    · -- a failure would have stayed
      rw [follow_cons, outcome_follow hnext hfailed] at hcompleted
      cases hcompleted
    · exact ⟨[], ending, rest, rfl, hid, hcommand, h, hconcludes⟩

/-- What has been told by the end of a run is told by the end of its first part, and then by the end
of the second. -/
theorem retrieved_append (side : Side) (told : Retrieved) (before after : List Happening) :
    side.retrieved told (before ++ after) =
      (side.follow before).retrieved (side.retrieved told before) after := by
  induction before generalizing side told with
  | nil => rfl
  | cons happening rest ih => exact ih (side.meet happening) (told.meet side happening)

/-- **What a completed download reports.** Whatever is delivered to an initiator of a download, in
any order and however often: if the outcome is a completed download, then one of the messages has
ended it, before which there was no outcome, and

* the file that is reported is the one that was announced last before that, and the bytes that are
  reported are all that had come, whether before or after the last announcement;
* until another file is announced, the bytes that had come since the last announcement lie in the
  local file, over what the buffer of an earlier one has left there; or, if no file had been
  announced, nothing has been created or changed;
* if only one file had been announced, the local file is what has come, and the bytes that are
  reported are its size. -/
theorem completed_download
    (hexchange : side.exchange = ⟨requestId, .initiator (.download .idle)⟩)
    (houtcome : side.world.outcome = none) (hwell : side.world.store.fs.WellFormed)
    {happenings : List Happening} {entries : List FileInfo} {bytes : UInt64}
    (hcompleted : (side.follow happenings).world.outcome = some (.completed entries bytes)) :
    ∃ before ending after, happenings = before ++ .message ending :: after ∧
      ending.requestId = requestId ∧ ending.command? = some .downloadEndResp ∧
      (side.follow before).world.outcome = none ∧
      let told := side.retrieved .nothing before
      entries = told.files.getLast?.toList ∧ bytes = UInt64.ofNat told.total ∧
      ((side.retrieved .nothing happenings).files = told.files →
        told.LiesIn side.world.store.fs (side.follow happenings).world.store.fs
          side.world.workDir side.settings.request.outputFile ∧
        (told.files.length = 1 →
          LocalFile.readAll (side.follow happenings).world.store.fs side.world.workDir
            side.settings.request.outputFile = .ok told.got ∧
          bytes = UInt64.ofNat told.got.size)) := by
  have hstart : side.Recounts side requestId .nothing :=
    ⟨rfl, rfl, houtcome, .idle, hexchange, rfl, rfl, fun _ ↦ ⟨rfl, rfl, rfl⟩, nofun,
      fun hfiles ↦ absurd rfl hfiles⟩
  obtain ⟨before, ending, after, rfl, hid, hcommand, hrecounts, hconcludes⟩ :=
    hstart.follow hwell hcompleted
  obtain ⟨fetcher, hnext, hclosed⟩ := hconcludes.fetcher
  have hfollow : side.follow (before ++ .message ending :: after) =
      ((side.follow before).process ending).follow after := List.foldl_append ..
  rw [hfollow, outcome_follow hnext hconcludes.outcome] at hcompleted
  obtain ⟨rfl, rfl⟩ := Outcome.completed.inj (Option.some.inj hcompleted)
  refine ⟨before, ending, after, rfl, hid, hcommand, hrecounts.outcome, rfl, rfl,
    fun hquiet ↦ ?_⟩
  rw [retrieved_append, retrieved, Retrieved.meet_ending hcommand] at hquiet
  have hlies := hconcludes.file
  rw [← follow_of_closed hnext hclosed hquiet, ← hfollow] at hlies
  refine ⟨hlies, fun hlength ↦ ?_⟩
  obtain ⟨fetcher, -, honly⟩ := hrecounts.fetcher
  obtain ⟨hunder, htotal⟩ := honly.once hlength
  have hcontent := hlies.content (by
    intro hnone
    rw [hnone] at hlength
    cases hlength)
  rw [hunder, FileSystem.overwrite_empty_zero] at hcontent
  exact ⟨hcontent, by rw [htotal]⟩

/-- Three bytes of a file come, it is announced again, and another byte comes before the end. -/
def announcedTwice : List Happening :=
  [.message (downloadReady "7" default),
    .message (Producer.downloadMessage "7" ⟨#[1, 2, 3]⟩),
    .message (downloadReady "7" default), .message (Producer.downloadMessage "7" ⟨#[4]⟩),
    .message (downloadEnd "7")]

/-- **A file that is announced twice** is reported with all its bytes, and lies over what was left
of the first of them. -/
theorem completed_download_announcedTwice :
    let side := Conversation.smallAsker.side .initiator .download "7"
    let final := side.follow announcedTwice
    side.world.outcome = none ∧ side.world.store.fs.WellFormed ∧
    final.world.outcome = some (.completed [default] 4) ∧
    LocalFile.readAll final.world.store.fs side.world.workDir
      side.settings.request.outputFile = .ok ⟨#[4, 2, 3]⟩ ∧
    ∃ before ending after, announcedTwice = before ++ .message ending :: after ∧
      ending.requestId = "7" ∧ ending.command? = some .downloadEndResp ∧
      (side.follow before).world.outcome = none ∧
      let told := side.retrieved .nothing before
      [default] = told.files.getLast?.toList ∧ 4 = UInt64.ofNat told.total ∧
      ((side.retrieved .nothing announcedTwice).files = told.files →
        told.LiesIn side.world.store.fs final.world.store.fs side.world.workDir
          side.settings.request.outputFile ∧
        (told.files.length = 1 →
          LocalFile.readAll final.world.store.fs side.world.workDir
            side.settings.request.outputFile = .ok told.got ∧
          4 = UInt64.ofNat told.got.size)) := by
  intro side final
  have hexchange : side.exchange = ⟨"7", .initiator (.download .idle)⟩ := rfl
  have houtcome : side.world.outcome = none := rfl
  have hwell : side.world.store.fs.WellFormed := Conversation.wellFormed_smallAsker
  have hcompleted : (side.follow announcedTwice).world.outcome =
      some (.completed [default] 4) := by decide +kernel
  have hread : LocalFile.readAll (side.follow announcedTwice).world.store.fs side.world.workDir
      side.settings.request.outputFile = .ok ⟨#[4, 2, 3]⟩ := by decide +kernel
  dsimp only [final]
  exact ⟨houtcome, hwell, hcompleted, hread,
    completed_download hexchange houtcome hwell hcompleted⟩

end Side

end FileShare
