import FileShare.Proofs.Serving

/-!
# The responder of a download

The responder opens a file, tells what is known about it, and serves a range of it on request. Its
share stays as it is; all that changes is where the open file stands. There is one theorem for each
thing that can happen to a responder (`Side.Hosts`): it opens the file, it serves a range or finds
that there is nothing to serve, its job takes a step, it quits.

The range that is served is worked out twice, by the initiator from its settings and what it was
told, and by the responder from the request and the size of the file. `requestedBytes` says what
comes of both, without going through them.
-/

namespace FileShare

open Conversation (Machine)

/-! ### The range -/

/-- The last byte that the settings of a client ask for. Zero means the last one of the file. -/
def Conversation.Machine.lastByte (client : Machine) (size : Nat) : Nat :=
  if client.settings.request.endOffset = 0 then size - 1
  else client.settings.request.endOffset.toNat

/-- **The bytes that the settings of a client ask for**: from a first to a last one, with both ends,
as far as there are any. -/
def Conversation.Machine.requestedBytes (client : Machine) (bytes : ByteArray) : ByteArray :=
  bytes.extract client.settings.request.startOffset.toNat
    (min (client.lastByte bytes.size) (bytes.size - 1) + 1)

theorem Conversation.Machine.size_requestedBytes_le (client : Machine) (bytes : ByteArray) :
    (client.requestedBytes bytes).size ≤ bytes.size := by
  unfold requestedBytes
  rw [ByteArray.size_extract]
  omega

/-- **There is nothing to ask for** in an empty file, and behind the last byte. -/
theorem Conversation.Machine.requestedBytes_eq_empty_iff (client : Machine) (bytes : ByteArray) :
    client.requestedBytes bytes = ByteArray.empty ↔ bytes.size = 0 ∨
      min (client.lastByte bytes.size) (bytes.size - 1) <
        client.settings.request.startOffset.toNat := by
  unfold requestedBytes
  rw [ByteArray.extract_eq_empty_iff]
  omega

variable {client : Machine} {info : FileInfo} {bytes : ByteArray} {first last : Nat}

/-- The last byte of the range that is asked for. -/
theorem toNat_last_rangeOf {size : Nat} (hsize : size < UInt64.size)
    (hinfo : info.size = UInt64.ofNat size) :
    (Fetcher.rangeOf client.settings info).last.toNat = client.lastByte size := by
  have htoNat : info.size.toNat = size := by
    rw [hinfo, UInt64.toNat_ofNat_of_lt' hsize]
  unfold Machine.lastByte
  show UInt64.toNat (if client.settings.request.endOffset = 0 then
    (if info.size = 0 then 0 else info.size - 1) else client.settings.request.endOffset) = _
  -- the default of the end is worked out without wrapping around, since an empty file is set apart
  split
  · split
    · rename_i hzero
      rw [hzero] at htoNat
      have : size = 0 := htoNat.symm
      rw [this]
      rfl
    · rename_i hzero
      have hone : (1 : UInt64) ≤ info.size := by
        rw [UInt64.le_iff_toNat_le]
        have : info.size.toNat ≠ 0 := fun h ↦ hzero (UInt64.toNat_inj.1 h)
        show 1 ≤ _
        omega
      rw [UInt64.toNat_sub_of_le _ _ hone, htoNat]
      rfl
  · rfl

/-- What is left of a range in a file of a given size. -/
theorem clampRange_eq {first last size : UInt64} {length : Nat} (hsize : size.toNat = length) :
    clampRange first last size =
      if length ≠ 0 ∧ first.toNat ≤ min last.toNat (length - 1) then
        some (first.toNat, min last.toNat (length - 1))
      else none := by
  unfold clampRange
  rw [hsize]
  by_cases hzero : size = 0
  · have hlength : length = 0 := by rw [← hsize, hzero]; rfl
    rw [if_pos hzero, if_neg fun h ↦ h.1 hlength]
  · have hlength : length ≠ 0 := fun h ↦ hzero (UInt64.toNat_inj.1 (hsize.trans h))
    rw [if_neg hzero]
    dsimp only
    by_cases hle : first.toNat ≤ min last.toNat (length - 1)
    · rw [if_pos hle, if_pos ⟨hlength, hle⟩]
    · rw [if_neg hle, if_neg fun h : _ ∧ _ ↦ hle h.2]

/-- **A range of which nothing is left asks for no byte.** -/
theorem requestedBytes_of_none (hsize : bytes.size < UInt64.size)
    (hinfo : info.size = UInt64.ofNat bytes.size)
    (h : clampRange (Fetcher.rangeOf client.settings info).first
      (Fetcher.rangeOf client.settings info).last (UInt64.ofNat bytes.size) = none) :
    client.requestedBytes bytes = ByteArray.empty := by
  rw [clampRange_eq (UInt64.toNat_ofNat_of_lt' hsize), toNat_last_rangeOf hsize hinfo] at h
  rw [client.requestedBytes_eq_empty_iff]
  split at h
  · cases h
  · rename_i hnothing
    change ¬(_ ∧ client.settings.request.startOffset.toNat ≤ _) at hnothing
    omega

/-- **What is left of a range is what is asked for.** -/
theorem requestedBytes_of_some (hsize : bytes.size < UInt64.size)
    (hinfo : info.size = UInt64.ofNat bytes.size)
    (h : clampRange (Fetcher.rangeOf client.settings info).first
      (Fetcher.rangeOf client.settings info).last (UInt64.ofNat bytes.size) = some (first, last)) :
    client.requestedBytes bytes = bytes.extract first (last + 1) ∧ first ≤ last ∧
      last < bytes.size := by
  rw [clampRange_eq (UInt64.toNat_ofNat_of_lt' hsize), toNat_last_rangeOf hsize hinfo] at h
  split at h
  · rename_i hsome
    obtain ⟨rfl, rfl⟩ := Prod.mk.inj (Option.some.inj h)
    exact ⟨rfl, hsome.2, by omega⟩
  · cases h

/-! ### Opening the file -/

/-- **What a store serves under a URL**: the number of a content, and what is known about it. -/
def Store.served? (store : Store) (url : String) : Option (Nat × Stat) :=
  match store.steps? url with
  | .error _ => none
  | .ok steps =>
    match store.fs.openToRead store.root steps with
    | .ok (.file content) =>
      some (content, .ofNodeInfo (Store.lastName steps) (store.fs.infoOf (.file content)))
    | _ => none

theorem Store.served?_congr {store store' : Store} (hroot : store'.root = store.root)
    (hfs : store'.fs = store.fs) (url : String) : store'.served? url = store.served? url := by
  unfold served? steps?
  rw [hroot, hfs]

/-- What is known about a file says how large it is. -/
theorem Store.size_of_served? {store : Store} {url : String} {content : Nat} {stat : Stat}
    (h : store.served? url = some (content, stat)) :
    stat.size = UInt64.ofNat (store.fs.bytesOf (.file content)).size := by
  unfold served? at h
  split at h
  · cases h
  split at h
  · obtain ⟨rfl, rfl⟩ := Prod.mk.inj (Option.some.inj h)
    rename_i found _
    show UInt64.ofNat (store.fs.contents[found]?.getD ⟨ByteArray.empty, 0⟩).bytes.size =
      UInt64.ofNat ((store.fs.contents[found]?.map (·.bytes)).getD ByteArray.empty).size
    cases store.fs.contents[found]? <;> rfl
  · cases h

theorem Store.served?_of_openToRead {store : Store} {url : String} {steps : List Step}
    {content : Nat} (hsteps : store.steps? url = .ok steps)
    (hopened : store.fs.openToRead store.root steps = .ok (.file content)) :
    store.served? url =
      some (content, .ofNodeInfo (lastName steps) (store.fs.infoOf (.file content))) := by
  unfold served?
  rw [hsteps]
  dsimp only
  rw [hopened]

namespace FileServer

variable {ω : Type} [Outlet ω] {world world' : World ω} {message : Message}

/-- **The file is opened, and nothing on the share changes.** -/
theorem openSource_cases {result : Except ExchangeError (String × FileId × Stat)}
    {credentials : Credentials} (hcredentials : message.credentials? = some credentials)
    (h : (openSource message).run.run world = (result, world')) :
    world.OnStore world' ∧ world.store.Keeps world'.store ∧
      ((∃ error, result = .error error) ∨
        ∃ file content stat, result = .ok (credentials.url, file, stat) ∧
          world.store.served? credentials.url = some (content, stat) ∧
          world'.store.Reads file content 0) := by
  -- three calls, of which each may fail with nothing changed
  unfold openSource at h
  rcases bind_cases h with ⟨error, hconnect, rfl⟩ | ⟨url, first, hconnect, h⟩
  · obtain ⟨hstore, hrecords, hfruitful, -⟩ := World.connect_cases hconnect
    exact ⟨hstore, hrecords.keeps hfruitful, .inl ⟨_, rfl⟩⟩
  obtain ⟨hfirst, hrecords, hfruitful, hurl⟩ := World.connect_cases hconnect
  have hkeeps := hrecords.keeps hfruitful
  obtain ⟨credentials', hsome, rfl⟩ := hurl _ rfl
  obtain rfl := Option.some.inj (hcredentials.symm.trans hsome)
  rcases bind_cases h with ⟨error, hrun, rfl⟩ | ⟨file, second, hrun, h⟩
  · -- the file cannot be opened
    obtain ⟨answer, hopen, hanswer, hstore⟩ := World.share_cases hrun
    refine ⟨hfirst.trans hstore, hkeeps.trans ?_, .inl ⟨_, rfl⟩⟩
    rcases Share.openFile_read_cases hopen with ⟨-, hsame⟩ | ⟨_, _, -, -, hok, -⟩
    · exact hsame.keeps (Share.fruitful_openFile hopen)
    · rw [hok] at hanswer
      cases hanswer
  obtain ⟨answer, hopen, hanswer, hsecond⟩ := World.share_cases hrun
  rcases Share.openFile_read_cases hopen with ⟨⟨error, rfl⟩, -⟩ |
    ⟨steps, content, hsteps, hread, rfl, hopened⟩
  · cases hanswer
  obtain rfl := Except.ok.inj hanswer
  have hsame : first.store.Keeps second.store :=
    ⟨hopened.fs, hopened.root, Share.fruitful_openFile hopen⟩
  have hreads : second.store.Reads ⟨first.store.files.size⟩ content 0 :=
    .ofOpen hopened.files rfl rfl
  have hserved : world.store.served? credentials.url = some (content,
      .ofNodeInfo (Store.lastName steps) (world.store.fs.infoOf (.file content))) := by
    rw [← Store.served?_congr hkeeps.root hkeeps.fs, ← hkeeps.fs]
    exact Store.served?_of_openToRead hsteps hread
  rcases bind_cases h with ⟨error, hrun, rfl⟩ | ⟨stat, third, hrun, h⟩
  · obtain ⟨answer, hstat, -, hstore⟩ := World.share_cases hrun
    exact ⟨(hfirst.trans hsecond).trans hstore, (hkeeps.trans hsame).trans
      ((Share.fileStat_cases hstat).1.keeps (Share.fruitful_fileStat hstat)), .inl ⟨_, rfl⟩⟩
  obtain ⟨answer, hstat, hanswer, hthird⟩ := World.share_cases hrun
  obtain ⟨hrecords', ⟨error, rfl⟩ | rfl⟩ := Share.fileStat_cases hstat
  · cases hanswer
  obtain rfl := Except.ok.inj hanswer
  obtain ⟨rfl, rfl⟩ := Prod.mk.inj h
  refine ⟨(hfirst.trans hsecond).trans hthird, (hkeeps.trans hsame).trans
    (hrecords'.keeps (Share.fruitful_fileStat hstat)), .inr ⟨_, content, _, rfl, ?_,
      hreads.congr hrecords'.files⟩⟩
  rw [Share.fileOf_push hopened.files, hopened.fs, hkeeps.fs]
  exact hserved

end FileServer

/-! ### Messages -/

variable {requestId : String} {server : Machine} {host : FileServer} {side side' : Side}

/-- The opening request of a download. -/
def downloadOpening (client : Machine) (requestId : String) : Message :=
  (Exchange.ofFamily .initiator .download requestId).initialRequest client.settings.request

/-- The file has been opened, and this is what is known about it. -/
def downloadReady (requestId : String) (info : FileInfo) : Message :=
  .of requestId .downloadInitResp (.response (.downloadInit info))

/-- A range of the file is asked for. -/
def downloadRequest (requestId : String) (range : ByteRange) : Message :=
  .of requestId .downloadDataReq (.request ⟨none, .range range⟩)

/-- Nothing but failures is told. -/
def Failures (requestId : String) (messages : List Message) : Prop :=
  ∀ message ∈ messages, ∃ status, message = downloadFailed requestId status

theorem Failures.nil (requestId : String) : Failures requestId [] :=
  fun _ hmem ↦ absurd hmem List.not_mem_nil

theorem Failures.singleton (requestId : String) (status : Status) :
    Failures requestId [downloadFailed requestId status] :=
  fun _ hmem ↦ ⟨status, List.mem_singleton.1 hmem⟩

theorem Failures.append {messages more : List Message} (h : Failures requestId messages)
    (hmore : Failures requestId more) : Failures requestId (messages ++ more) := by
  intro message hmessage
  rcases List.mem_append.1 hmessage with hmessage | hmessage
  · exact h message hmessage
  · exact hmore message hmessage

/-- What the responder tells about a file: the name is the last one of the URL. -/
def Conversation.Machine.announced (client : Machine) (stat : Stat) : FileInfo :=
  stat.toFileInfo (Url.lastSegment client.targetUrl)

/-! ### What the responder is at -/

/-- No job queues anything any more. -/
def FileServer.IsQuiet (host : FileServer) : Prop :=
  ∀ job, host.job = some job → job.isEnded = true

theorem FileServer.isQuiet_of_none (h : host.job = none) : host.IsQuiet := by
  intro job hjob
  rw [h] at hjob
  cases hjob

/-- **A file has been opened**, and is still open unless the responder has quit. -/
structure FileServer.Awaits (host : FileServer) (store : Store) (content : Nat) : Prop where
  job : host.job = none
  file : ∀ file, host.file = some file → store.Reads file content 0 ∧
    host.size = UInt64.ofNat (store.fs.bytesOf (.file content)).size

/-- **A job serves some bytes**, of which so many have been queued. -/
inductive FileServer.Supplies (requestId : String) (bytes : ByteArray) (store : Store) :
    FileServer → Nat → Bool → Prop where
  | serving {file : Option FileId} {size : UInt64} {range : ServedRange} {job : Job} {count : Nat}
      {done : Bool} (hid : range.requestId = requestId) (hjob : job.IsDownload range.requestId)
      (hbytes : bytes = range.bytes store.fs) (hwithin : range.IsWithin store.fs)
      (hserves : job.ServesOn range bytes store count done) :
      Supplies requestId bytes store ⟨file, size, some job⟩ count done

namespace FileServer

variable {store store' : Store} {content count : Nat} {bytes : ByteArray} {done : Bool}

theorem Awaits.congr (h : host.Awaits store content) (hfs : store'.fs = store.fs)
    (hfiles : store'.files = store.files) : host.Awaits store' content := by
  refine ⟨h.job, fun file hfile ↦ ?_⟩
  obtain ⟨hreads, hsize⟩ := h.file file hfile
  exact ⟨hreads.congr hfiles, hfs ▸ hsize⟩

theorem Supplies.congr (h : host.Supplies requestId bytes store count done)
    (hfs : store'.fs = store.fs) (hfiles : store'.files = store.files) :
    host.Supplies requestId bytes store' count done := by
  cases h with
  | serving hid hjob hbytes hwithin hserves =>
    refine .serving hid hjob (hfs ▸ hbytes) (hfs ▸ hwithin) (hserves.imp_right fun hgoes ↦ ?_)
    exact ⟨hgoes.1, fun source hsource ↦ (hgoes.2 source hsource).congr hfiles⟩

variable {world : World Channel} {job : Job}

theorem IsQuiet.stop_run (h : host.IsQuiet) (hjob : host.job = some job) :
    job.stop.run world = ((), world) := by
  rw [Job.stop_run, h job hjob]
  rfl

theorem Supplies.stop_run (h : host.Supplies requestId bytes world.store count done)
    (hjob : host.job = some job) : job.stop.run world = ((), world) := by
  cases h with
  | serving _ _ _ _ hserves =>
    obtain rfl := Option.some.inj hjob
    exact Job.stop_run_of_serves hserves

end FileServer

/-- **A responder that has opened nothing** opens the file and tells what is known about it, or
fails. -/
theorem FileServer.begin_idle_cases {message : Message} {credentials : Credentials}
    {result : Except ExchangeError Unit} {world world' : World Channel}
    (hcredentials : message.credentials? = some credentials)
    (h : (FileServer.idle.begin requestId message).run world = ((result, host), world')) :
    world.store.Keeps world'.store ∧
      (host = .idle ∧ world'.outlet = world.outlet ∨
        ∃ file content stat mid, host = ⟨some file, stat.size, none⟩ ∧
          world.store.served? credentials.url = some (content, stat) ∧
          world'.store.Reads file content 0 ∧ mid.outlet = world.outlet ∧
          (World.send (downloadReady requestId (stat.toFileInfo
            (Url.lastSegment credentials.url)))).run.run mid = (result, world')) := by
  unfold FileServer.begin at h
  rcases hopen : (openSource message).run.run world with ⟨opened, mid⟩
  rw [run_bind_of_run hopen] at h
  obtain ⟨hstore, hkeeps, ⟨error, rfl⟩ | ⟨file, content, stat, rfl, hserved, hreads⟩⟩ :=
    openSource_cases hcredentials hopen
  · obtain ⟨-, rfl, rfl⟩ := run_inj h
    exact ⟨hkeeps, .inl ⟨rfl, hstore.outlet⟩⟩
  · rcases hsend : (World.send (downloadReady requestId (stat.toFileInfo
      (Url.lastSegment credentials.url)))).run.run mid with ⟨told, last⟩
    change StateT.run ((World.send (downloadReady requestId (stat.toFileInfo
      (Url.lastSegment credentials.url)))).run >>= fun told ↦
        (pure (told, ⟨some file, stat.size, none⟩) : WorldM Channel (Handled FileServer))) mid = _
      at h
    rw [run_bind_of_run hsend] at h
    obtain ⟨rfl, rfl, rfl⟩ := run_inj h
    obtain ⟨hchannel, -⟩ := World.send_cases hsend
    rw [hchannel.store]
    exact ⟨hkeeps, .inr ⟨file, content, stat, mid, rfl, hserved, hreads, hstore.outlet, hsend⟩⟩

/-- **A side is the responder of a download.** Its share is as it was. -/
structure Side.Hosts (side : Side) (server : Machine) (requestId : String) (host : FileServer) :
    Prop where
  settings : side.settings = server.settings
  exchange : side.exchange = ⟨requestId, .responder (.download host)⟩
  fs : side.world.store.fs = server.store.fs
  root : side.world.store.root = server.store.root
  fruitful : Fault.Fruitful side.world.store.faults

namespace Side.Hosts

/-- What happens on the way changes no side. -/
theorem onChannel (h : side.Hosts server requestId host) (change : Channel → Channel) :
    (side.onChannel change).Hosts server requestId host :=
  ⟨h.settings, h.exchange, h.fs, h.root, h.fruitful⟩

theorem withFaults (h : side.Hosts server requestId host) {faults : List Fault}
    (hfaults : Fault.Fruitful faults) : (side.withFaults faults).Hosts server requestId host :=
  ⟨h.settings, h.exchange, h.fs, h.root, hfaults⟩

/-- A responder that leaves its share as it is stays a responder. -/
theorem keeps {host' : FileServer} (h : side.Hosts server requestId host)
    (hsettings : side'.settings = side.settings)
    (hexchange : side'.exchange = ⟨requestId, .responder (.download host')⟩)
    (hkeeps : side.world.store.Keeps side'.world.store) :
    side'.Hosts server requestId host' :=
  ⟨hsettings.trans h.settings, hexchange, hkeeps.fs.trans h.fs, hkeeps.root.trans h.root,
    hkeeps.fruitful h.fruitful⟩

/-- **A responder takes a message** that leaves its share as it is. A failure is told last, unless
it is one of the session. -/
theorem process {host' : FileServer} {message : Message} {command : Command}
    {result : Except ExchangeError Unit} {mid : World Channel}
    (h : side.Hosts server requestId host) (hid : message.requestId = requestId)
    (hcommand : message.command? = some command) (hfamily : command.family = .download)
    (hmay : Exchange.mayReceive .responder command = true)
    (handled : WorldM Channel (Handled FileServer))
    (hhandle : Responder.handle side.settings requestId command message (.download host) =
      handled >>= fun handled ↦ pure (handled.1, .download handled.2))
    (hrun : handled.run side.world = ((result, host'), mid))
    (hkeeps : side.world.store.Keeps mid.store) :
    let side' := side.process message
    side'.Hosts server requestId host' ∧ side'.world.store = mid.store ∧
      ∃ failures, Failures requestId failures ∧
        side'.world.outlet.underway = mid.outlet.underway ++ failures ∧
        (failures = [] ∨ ∃ error, result = .error error ∧ ∀ cause, error ≠ .session cause) := by
  intro side'
  have hresponder : (Responder.handle side.settings requestId command message
      (.download host)).run side.world = ((result, .download host'), mid) := by
    rw [hhandle, StateT.run_bind, hrun]
    rfl
  obtain ⟨hnext, hchannel, htold⟩ :=
    process_responder h.exchange hid hcommand hfamily hmay hresponder
  refine ⟨h.keeps rfl hnext (hchannel.store ▸ hkeeps), hchannel.store, ?_⟩
  rcases htold with hsame | ⟨herror, status, htold⟩
  · exact ⟨[], .nil _, hsame.trans (List.append_nil _).symm, .inl rfl⟩
  · exact ⟨_, .singleton _ status, htold, .inr herror⟩

/-- A send fails with nothing but an error of the session. -/
theorem not_other_error {world world' : World Channel} {message : Message}
    {result : Except ExchangeError Unit}
    (h : (World.send message).run.run world = (result, world')) :
    ¬ ∃ error, result = .error error ∧ ∀ cause, error ≠ .session cause := by
  rintro ⟨error, rfl, hsession⟩
  obtain ⟨cause, rfl⟩ := World.send_error h
  exact hsession cause rfl

/-- **The file is opened**, or that is refused. -/
theorem opening (h : side.Hosts server requestId .idle) (client : Machine) :
    let side' := side.process (downloadOpening client requestId)
    ∃ host messages, side'.Hosts server requestId host ∧
      side'.world.outlet.underway = side.world.outlet.underway ++ messages ∧
      (host.IsQuiet ∧ Failures requestId messages ∨
        ∃ content stat, server.store.served? client.targetUrl = some (content, stat) ∧
          host.Awaits side'.world.store content ∧
          (messages = [] ∨ messages = [downloadReady requestId (client.announced stat)])) := by
  intro side'
  have hcommand : (downloadOpening client requestId).command? = some .downloadInitReq :=
    Message.command?_of ..
  have hcredentials : (downloadOpening client requestId).credentials? =
      some client.settings.request.credentials := rfl
  have hhandle : Responder.handle side.settings requestId .downloadInitReq
      (downloadOpening client requestId) (.download .idle) =
      FileServer.idle.begin requestId (downloadOpening client requestId) >>= fun handled ↦
        (pure (handled.1, .download handled.2) : WorldM Channel (Handled Responder)) := rfl
  rcases hbegin : (FileServer.idle.begin requestId (downloadOpening client requestId)).run
    side.world with ⟨⟨result, host⟩, mid⟩
  obtain ⟨hkeeps, hcases⟩ := FileServer.begin_idle_cases hcredentials hbegin
  obtain ⟨hhosts, hsame, failures, hfailures, hunderway, hnone⟩ :=
    h.process rfl hcommand rfl rfl _ hhandle hbegin hkeeps
  rcases hcases with ⟨rfl, houtlet⟩ | ⟨file, content, stat, opened, rfl, hserved, hreads, houtlet,
    hsend⟩
  · rw [houtlet] at hunderway
    exact ⟨_, failures, hhosts, hunderway, .inl ⟨FileServer.isQuiet_of_none rfl, hfailures⟩⟩
  -- that the answer cannot be sent is a failure of the session
  obtain rfl : failures = [] := hnone.resolve_right (not_other_error hsend)
  have hserved' : server.store.served? client.targetUrl = some (content, stat) := by
    rw [← hserved]
    exact (Store.served?_congr h.root h.fs _).symm
  have hawaits : (⟨some file, stat.size, none⟩ : FileServer).Awaits side'.world.store content := by
    refine ⟨rfl, fun file' hfile ↦ ?_⟩
    obtain rfl := Option.some.inj hfile
    rw [hsame]
    exact ⟨hreads, by rw [hkeeps.fs]; exact Store.size_of_served? hserved⟩
  obtain ⟨-, hsent⟩ := World.send_cases hsend
  rw [List.append_nil] at hunderway
  rcases hsent with hsent | ⟨-, hsent⟩
  · rw [hsent, houtlet] at hunderway
    exact ⟨_, _, hhosts, hunderway, .inr ⟨content, stat, hserved', hawaits, .inr rfl⟩⟩
  · rw [hsent, houtlet, ← List.append_nil side.world.outlet.underway] at hunderway
    exact ⟨_, _, hhosts, hunderway, .inr ⟨content, stat, hserved', hawaits, .inl rfl⟩⟩

end Side.Hosts

/-! ### Serving a range -/

/-- **What comes of a request for a range of an open file.** The job from before says nothing when it
is stopped. -/
theorem FileServer.serve_run {settings : TransferSettings} {message : Message} {range : ByteRange}
    {file : FileId} {world : World Channel} (hrange : requestedRange? message = some range)
    (hfile : host.file = some file)
    (hstop : (Listing.stopJob host.job : WorldM Channel Unit).run world = ((), world)) :
    (host.serve settings requestId message).run world =
      match clampRange range.first range.last host.size with
      | none =>
        let (result, world') := (World.send (downloadEnd requestId)).run.run world
        ((result, { host with job := none }), world')
      | some (first, last) =>
        match (Share.seek file (UInt64.ofNat first)).run.run world.store with
        | (.error error, store) =>
          ((.error (.share error), { host with job := none }), { world with store })
        | (.ok _, store) =>
          ((.ok (), { host with
            job := some (.start .responder .download requestId (.range ⟨file, first, last,
              chunkSize settings range, max 1 settings.readBuffer, ByteArray.empty⟩) 0) }),
            { world with store }) := by
  obtain ⟨file?, size, job⟩ := host
  obtain rfl : file? = some file := hfile
  have hstopped : (stopJob ⟨some file, size, job⟩ : WorldM Channel FileServer).run world =
      (⟨some file, size, none⟩, world) := by
    unfold stopJob
    rw [run_bind_of_run hstop]
    rfl
  unfold serve
  rw [hrange]
  dsimp only
  rw [run_bind_of_run hstopped]
  dsimp only
  cases clampRange range.first range.last size with
  | none => rfl
  | some ends =>
    rw [StateT.run_bind, World.share_run]
    dsimp only
    rcases (Share.seek file (UInt64.ofNat ends.1)).run.run world.store with ⟨_ | _, store⟩ <;> rfl

/-- **A request for a range** fails, finds that there is nothing to serve, or starts a job at the
first byte. -/
theorem FileServer.serve_cases {settings : TransferSettings} {message : Message} {range : ByteRange}
    {content : Nat} {host' : FileServer} {result : Except ExchangeError Unit}
    {world world' : World Channel} (hrange : requestedRange? message = some range)
    (hawaits : host.Awaits world.store content)
    (h : (host.serve settings requestId message).run world = ((result, host'), world')) :
    ((∃ error, result = .error error) ∧ host' = host ∧ world.OnStore world' ∧
        world.store.Keeps world'.store) ∨
      ∃ file, host.file = some file ∧
        (clampRange range.first range.last host.size = none ∧ host' = host ∧
            (World.send (downloadEnd requestId)).run.run world = (result, world') ∨
          ∃ first last, clampRange range.first range.last host.size = some (first, last) ∧
            result = .ok () ∧ world.OnStore world' ∧ world.store.Keeps world'.store ∧
            world'.store.Reads file content (UInt64.ofNat first).toNat ∧
            host' = { host with
              job := some (.start .responder .download requestId (.range ⟨file, first, last,
                chunkSize settings range, max 1 settings.readBuffer, ByteArray.empty⟩) 0) }) := by
  obtain ⟨file?, size, job⟩ := host
  obtain rfl : job = none := hawaits.job
  -- without an open file there is nothing to serve; with one, the range decides
  cases file? with
  | none =>
    unfold serve at h
    rw [hrange] at h
    obtain ⟨rfl, rfl, rfl⟩ := run_inj h
    exact .inl ⟨⟨_, rfl⟩, rfl, ⟨rfl, rfl, rfl, rfl⟩, .refl _⟩
  | some file =>
    rw [serve_run hrange rfl rfl] at h
    dsimp only at h ⊢
    cases hclamp : clampRange range.first range.last size with
    | none =>
      rw [hclamp] at h
      rcases hsend : (World.send (downloadEnd requestId)).run.run world with ⟨told, last⟩
      rw [hsend] at h
      obtain ⟨rfl, rfl, rfl⟩ := run_inj h
      exact .inr ⟨file, rfl, .inl ⟨rfl, rfl, rfl⟩⟩
    | some ends =>
      rw [hclamp] at h
      obtain ⟨first, last⟩ := ends
      dsimp only at h
      rcases hseek : (Share.seek file (UInt64.ofNat first)).run.run world.store with
        ⟨answer, store⟩
      rw [hseek] at h
      obtain ⟨hkeeps, hmoved⟩ := (hawaits.file file rfl).1.seek hseek
      cases answer with
      | error error =>
        obtain ⟨rfl, rfl, rfl⟩ := run_inj h
        exact .inl ⟨⟨_, rfl⟩, rfl, ⟨rfl, rfl, rfl, rfl⟩, hkeeps⟩
      | ok position =>
        obtain ⟨rfl, rfl, rfl⟩ := run_inj h
        rcases hmoved with ⟨error, herror⟩ | hreads
        · cases herror
        · exact .inr ⟨file, rfl, .inr
            ⟨first, last, rfl, rfl, ⟨rfl, rfl, rfl, rfl⟩, hkeeps, hreads, rfl⟩⟩

/-- A job that has just been started serves a range from its first byte on. -/
theorem FileServer.Supplies.ofStart {store : Store} {range : ServedRange} {file : Option FileId}
    {size : UInt64} (hwithin : range.IsWithin store.fs)
    (hreads : store.Reads range.file range.content range.first) :
    Supplies range.requestId (range.bytes store.fs) store
      ⟨file, size, some (.start .responder .download range.requestId
        (.range (range.source 0 ByteArray.empty)) 0)⟩ 0 false := by
  have hserves : Serves range (range.bytes store.fs) none
      (.range (range.source 0 ByteArray.empty)) 0 false :=
    Serves.reading ByteArray.extract_same.symm (Nat.zero_le _)
  refine .serving rfl ⟨rfl, rfl, rfl⟩ rfl hwithin (.inr ⟨hserves, ?_⟩)
  rintro source ⟨⟩
  exact hreads

/-- **What a responder has queued of some bytes** and nobody has taken, from a place on. Behind the
last piece there may be failures, if nothing more comes. -/
inductive FileServer.Sends (requestId : String) (bytes : ByteArray) (store : Store)
    (host : FileServer) (start : Nat) : List Message → Prop where
  | going {count : Nat} {done : Bool} {stream : List Message}
      (hstream : Stream (downloadCarrier requestId) True bytes start count done stream)
      (hsupplies : host.Supplies requestId bytes store count done) :
      Sends requestId bytes store host start stream
  | stopped {count : Nat} {done : Bool} {stream failures : List Message} (hquiet : host.IsQuiet)
      (hstream : Stream (downloadCarrier requestId) True bytes start count done stream)
      (hfailures : Failures requestId failures) :
      Sends requestId bytes store host start (stream ++ failures)

/-- **A responder of a download whose job has ended**, or that has none, does nothing in the
background. -/
theorem Side.work_of_isQuiet (hexchange : side.exchange = ⟨requestId, .responder (.download host)⟩)
    (hquiet : host.IsQuiet) : side.work = side := by
  obtain ⟨settings, exchange, world⟩ := side
  obtain rfl : exchange = ⟨requestId, .responder (.download host)⟩ := hexchange
  obtain ⟨file, size, job⟩ := host
  cases job with
  | none => exact work_of_none rfl
  | some job =>
    have hstep : job.step.run world = ((.ended, job), world) := by
      rw [Job.step_run, if_pos (hquiet job rfl)]
    exact work_of_run rfl rfl hstep

namespace Side.Hosts

variable {bytes : ByteArray} {content count start : Nat} {done : Bool} {messages : List Message}

/-- **A range is served from its first byte on**: it is what the settings of the client ask for. -/
theorem serving (h : side.Hosts server requestId host)
    (hawaits : host.Awaits side.world.store content) (client : Machine) {info : FileInfo}
    (hsize : (server.store.fs.bytesOf (.file content)).size < UInt64.size)
    (hinfo : info.size = UInt64.ofNat (server.store.fs.bytesOf (.file content)).size) :
    let side' := side.process (downloadRequest requestId (Fetcher.rangeOf client.settings info))
    ∃ host' messages, side'.Hosts server requestId host' ∧
      side'.world.outlet.underway = side.world.outlet.underway ++ messages ∧
      host'.Sends requestId (client.requestedBytes (server.store.fs.bytesOf (.file content)))
        side'.world.store 0 messages := by
  intro side'
  have hcommand : (downloadRequest requestId (Fetcher.rangeOf client.settings info)).command? =
      some .downloadDataReq := Message.command?_of ..
  have hhandle : Responder.handle side.settings requestId .downloadDataReq
      (downloadRequest requestId (Fetcher.rangeOf client.settings info)) (.download host) =
      host.serve side.settings requestId
          (downloadRequest requestId (Fetcher.rangeOf client.settings info)) >>= fun handled ↦
        (pure (handled.1, .download handled.2) : WorldM Channel (Handled Responder)) := rfl
  rcases hserve : (host.serve side.settings requestId (downloadRequest requestId
    (Fetcher.rangeOf client.settings info))).run side.world with ⟨⟨result, host'⟩, mid⟩
  -- a failure, an empty range, or a job: in each case what has been queued is a front of the range
  rcases FileServer.serve_cases rfl hawaits hserve with
    ⟨-, rfl, hstore, hkeeps⟩ | ⟨file, hfile, ⟨hclamp, rfl, hsend⟩ |
      ⟨first, last, hclamp, rfl, hstore, hkeeps, hreads, rfl⟩⟩
  · obtain ⟨hhosts, -, failures, hfailures, hunderway, -⟩ :=
      h.process rfl hcommand rfl rfl _ hhandle hserve hkeeps
    rw [hstore.outlet] at hunderway
    exact ⟨_, _, hhosts, hunderway,
      .stopped (FileServer.isQuiet_of_none hawaits.job) (.nil 0) hfailures⟩
  · -- nothing is left of the range
    obtain ⟨-, hlength⟩ := hawaits.file file hfile
    rw [hlength, h.fs] at hclamp
    have hempty := requestedBytes_of_none hsize hinfo hclamp
    obtain ⟨hchannel, hsent⟩ := World.send_cases hsend
    obtain ⟨hhosts, -, failures, -, hunderway, hnone⟩ :=
      h.process rfl hcommand rfl rfl _ hhandle hserve (hchannel.store ▸ .refl _)
    obtain rfl : failures = [] := hnone.resolve_right (not_other_error hsend)
    have hquiet := FileServer.isQuiet_of_none hawaits.job
    rw [hempty]
    rw [List.append_nil] at hunderway
    rcases hsent with hsent | ⟨-, hsent⟩
    · rw [hsent] at hunderway
      exact ⟨_, _, hhosts, hunderway, .stopped hquiet (.ending trivial) (.nil _)⟩
    · rw [hsent, ← List.append_nil side.world.outlet.underway] at hunderway
      exact ⟨_, _, hhosts, hunderway, .stopped hquiet (.nil 0) (.nil _)⟩
  · obtain ⟨-, hlength⟩ := hawaits.file file hfile
    rw [hlength, h.fs] at hclamp
    obtain ⟨hbytes, hfirst, hlast⟩ := requestedBytes_of_some hsize hinfo hclamp
    obtain ⟨hhosts, hsame, failures, -, hunderway, hnone⟩ :=
      h.process rfl hcommand rfl rfl _ hhandle hserve hkeeps
    obtain rfl : failures = [] := hnone.resolve_right fun ⟨_, herror, _⟩ ↦ by cases herror
    rw [UInt64.toNat_ofNat_of_lt' (by omega)] at hreads
    rw [hstore.outlet] at hunderway
    let range : ServedRange := ⟨requestId, file, content, first, last,
      FileServer.chunkSize side.settings (Fetcher.rangeOf client.settings info),
      max 1 side.settings.readBuffer⟩
    have hwithin : range.IsWithin side'.world.store.fs := by
      rw [hhosts.fs]
      refine ⟨hfirst, hlast, ?_⟩
      show max 1 side.settings.readBuffer ≠ 0
      omega
    have hrange : client.requestedBytes (server.store.fs.bytesOf (.file content)) =
        range.bytes side'.world.store.fs := by
      rw [hhosts.fs]
      exact hbytes
    rw [← hsame] at hreads
    rw [hrange]
    exact ⟨_, _, hhosts, hunderway, .going (.nil 0) (.ofStart hwithin hreads)⟩

/-- A responder whose job has ended, or that has none, does nothing in the background. -/
theorem work_of_isQuiet (h : side.Hosts server requestId host) (hquiet : host.IsQuiet) :
    side.work = side :=
  Side.work_of_isQuiet h.exchange hquiet

/-- **A step of the job** queues what follows, or a failure with which it ends. -/
theorem work_of_supplies (h : side.Hosts server requestId host)
    (hsupplies : host.Supplies requestId bytes side.world.store count done) :
    ∃ host', side.work.Hosts server requestId host' ∧
      ((∃ count' done' messages,
          Emits (downloadCarrier requestId) True bytes count done count' done' messages ∧
          side.work.world.outlet.underway = side.world.outlet.underway ++ messages ∧
          host'.Supplies requestId bytes side.work.world.store count' done') ∨
        host'.IsQuiet ∧ ∃ status, side.work.world.outlet.underway =
          side.world.outlet.underway ++ [downloadFailed requestId status]) := by
  cases hsupplies with
  | @serving file size range job _ _ hid hjob hbytes hwithin hserves =>
    subst hid
    rcases hrun : job.step.run side.world with ⟨⟨status, job'⟩, world'⟩
    have hserved := Job.step_served hjob hbytes hwithin h.fruitful hserves hrun
    have hwork : side.work = ⟨side.settings,
        ⟨range.requestId, .responder (.download ⟨file, size, some job'⟩)⟩, world'⟩ :=
      work_of_run h.exchange rfl hrun
    rw [hwork]
    refine ⟨_, h.keeps rfl rfl hserved.keeps, ?_⟩
    -- the share has not changed, so the bytes of the range are still the same
    rcases hserved.cases with ⟨count', done', messages, hemits, hunderway, hserves'⟩ |
      ⟨hended, -, status, hunderway⟩
    · refine .inl ⟨count', done', messages, hemits, hunderway,
        .serving rfl hserved.isDownload ?_ ?_ hserves'⟩
      · rw [hserved.keeps.fs]
        exact hbytes
      · rw [hserved.keeps.fs]
        exact hwithin
    · refine .inr ⟨fun other hother ↦ ?_, status, hunderway⟩
      obtain rfl := Option.some.inj hother
      exact hended

/-- **What has been queued and not been taken is continued** by a step of the job. -/
theorem work (h : side.Hosts server requestId host)
    (hsends : host.Sends requestId bytes side.world.store start messages) :
    ∃ host' more, side.work.Hosts server requestId host' ∧
      side.work.world.outlet.underway = side.world.outlet.underway ++ more ∧
      host'.Sends requestId bytes side.work.world.store start (messages ++ more) := by
  cases hsends with
  | going hstream hsupplies =>
    obtain ⟨host', hhosts, ⟨count', done', more, hemits, hunderway, hsupplies'⟩ |
      ⟨hquiet, status, hunderway⟩⟩ := h.work_of_supplies hsupplies
    · exact ⟨host', more, hhosts, hunderway, .going (hstream.append hemits) hsupplies'⟩
    · exact ⟨host', _, hhosts, hunderway, .stopped hquiet hstream (.singleton _ status)⟩
  | stopped hquiet hstream hfailures =>
    rw [h.work_of_isQuiet hquiet]
    exact ⟨host, [], h, (List.append_nil _).symm,
      (List.append_nil _).symm ▸ .stopped hquiet hstream hfailures⟩

/-- **To quit** gives the file up, and queues nothing if stopping the job does not. -/
theorem quit (h : side.Hosts server requestId host)
    (hstop : ∀ job, host.job = some job → job.stop.run side.world = ((), side.world)) :
    side.quit.Hosts server requestId ⟨none, host.size, none⟩ ∧
      side.quit.world.outlet = side.world.outlet := by
  obtain ⟨file, size, job⟩ := host
  -- neither stopping the job nor closing the file queues a message
  have hstopJob : (Listing.stopJob job : WorldM Channel Unit).run side.world =
      ((), side.world) := by
    cases job with
    | none => rfl
    | some job => exact hstop job rfl
  obtain ⟨world', hclose, hkeeps, houtlet⟩ : ∃ world',
      (FileServer.closeFile ⟨file, size, none⟩ : WorldM Channel FileServer).run side.world =
        (⟨none, size, none⟩, world') ∧ side.world.store.Keeps world'.store ∧
      world'.outlet = side.world.outlet := by
    cases file with
    | none => exact ⟨_, rfl, .refl _, rfl⟩
    | some file =>
      rcases hrun : (Share.close file).run.run side.world.store with ⟨result, store⟩
      obtain ⟨hfs, hroot⟩ := Share.close_keeps hrun
      refine ⟨{ side.world with store }, ?_, ⟨hfs, hroot, Share.fruitful_close hrun⟩, rfl⟩
      unfold FileServer.closeFile
      dsimp only
      rw [run_bind_of_run (World.tolerate_run hrun)]
      rfl
  have hstopHost : (FileServer.stopJob ⟨file, size, job⟩ : WorldM Channel FileServer).run
      side.world = (⟨file, size, none⟩, side.world) := by
    unfold FileServer.stopJob
    rw [run_bind_of_run hstopJob]
    rfl
  have hquitHost : (FileServer.quit ⟨file, size, job⟩ : WorldM Channel FileServer).run
      side.world = (⟨none, size, none⟩, world') := by
    unfold FileServer.quit
    rw [run_bind_of_run hstopHost]
    exact hclose
  have hquit : (Responder.quit (.download ⟨file, size, job⟩)).run side.world =
      (.download ⟨none, size, none⟩, world') := by
    unfold Responder.quit
    rw [run_bind_of_run hquitHost]
    rfl
  rw [quit_responder h.exchange hquit]
  exact ⟨h.keeps rfl rfl hkeeps, houtlet⟩

end Side.Hosts

end FileShare
