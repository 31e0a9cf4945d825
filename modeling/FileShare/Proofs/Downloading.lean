import FileShare.Proofs.Fetching

/-!
# A download on its way

`Downloading` is the invariant of a download: what the initiator and the responder are at, and what
is under way between them. A download is opened, the range is requested, the responder feeds the
initiator, and the download is complete. In each of these cases, all that has been received and all
that is under way are, together, what the responder has queued of the range (`FileServer.Sends`), so
a download that is complete has all of it.

Not every download gets that far. The responder may refuse to open the file; and once the initiator
has failed, nothing is said about the rest. It will not report a completed download any more.

Every step of either side keeps the invariant (`Downloading.askerTakes`, `Downloading.hostTakes`,
`Downloading.hostWorks`, `Downloading.hostQuits`).
-/

namespace FileShare

open Conversation (Machine)

variable {requestId : String} {client server : Machine}

/-! ### What has been queued and not been taken -/

namespace FileServer

variable {host : FileServer} {bytes : ByteArray} {store store' : Store} {start : Nat}
variable {message : Message} {messages rest : List Message}

/-- All has been queued, or nothing more comes. -/
def IsSpent (host : FileServer) (requestId : String) (bytes : ByteArray) (store : Store) : Prop :=
  host.IsQuiet ∨ host.Supplies requestId bytes store bytes.size true

theorem Sends.congr (h : host.Sends requestId bytes store start messages)
    (hfs : store'.fs = store.fs) (hfiles : store'.files = store.files) :
    host.Sends requestId bytes store' start messages := by
  cases h with
  | going hstream hsupplies => exact .going hstream (hsupplies.congr hfs hfiles)
  | stopped hquiet hstream hfailures => exact .stopped hquiet hstream hfailures

/-- A responder that becomes quiet has queued what it has queued. -/
theorem Sends.quiet {host' : FileServer} (h : host.Sends requestId bytes store start messages)
    (hquiet : host'.IsQuiet) : host'.Sends requestId bytes store' start messages := by
  cases h with
  | going hstream =>
    rw [← List.append_nil messages]
    exact .stopped hquiet hstream (.nil _)
  | stopped _ hstream hfailures => exact .stopped hquiet hstream hfailures

theorem Sends.stop_run {world : World Channel} {job : Job}
    (h : host.Sends requestId bytes world.store start messages) (hjob : host.job = some job) :
    job.stop.run world = ((), world) := by
  cases h with
  | going _ hsupplies => exact hsupplies.stop_run hjob
  | stopped hquiet => exact hquiet.stop_run hjob

/-- **The next message of what has been queued**: the piece that follows, the end behind the whole,
or a failure. -/
theorem Sends.uncons (h : host.Sends requestId bytes store start (message :: rest)) :
    (∃ data, message = Producer.downloadMessage requestId data ∧
        data = bytes.extract start (start + data.size) ∧
        host.Sends requestId bytes store (start + data.size) rest) ∨
      (message = downloadEnd requestId ∧ start = bytes.size ∧ Failures requestId rest ∧
        host.IsSpent requestId bytes store) ∨
      ∃ status, message = downloadFailed requestId status := by
  -- what is under way may be a stream followed by failures, and the stream may be empty
  generalize hall : message :: rest = all at h
  cases h with
  | going hstream hsupplies =>
    subst hall
    rcases hstream.uncons with ⟨data, rfl, hdata, hrest⟩ | ⟨rfl, rfl, -, hstart, rfl, rfl⟩
    · exact .inl ⟨data, rfl, hdata, .going hrest hsupplies⟩
    · exact .inr (.inl ⟨rfl, hstart, .nil _, .inr hsupplies⟩)
  | @stopped _ _ stream failures hquiet hstream hfailures =>
    cases stream with
    | nil =>
      rw [List.nil_append] at hall
      exact .inr (.inr (hfailures message (hall ▸ List.mem_cons_self)))
    | cons first stream =>
      obtain ⟨rfl, rfl⟩ := List.cons.inj hall
      rcases hstream.uncons with ⟨data, rfl, hdata, hrest⟩ | ⟨rfl, rfl, -, hstart, -, -⟩
      · exact .inl ⟨data, rfl, hdata, .stopped hquiet hrest hfailures⟩
      · exact .inr (.inl ⟨rfl, hstart, hfailures, .inl hquiet⟩)

end FileServer

/-! ### The invariant -/

/-- **What both sides of a download are at**, with what is under way to the responder and to the
initiator. -/
inductive Downloading (client server : Machine) (requestId : String) (asker answerer : Side)
    (requests answers : List Message) : Prop where
  /-- The opening request has not been seen. -/
  | opening (hasker : asker.Fetches client requestId .waiting)
      (hanswerer : answerer.Hosts server requestId .idle)
      (hrequests : requests = [] ∨ requests = [downloadOpening client requestId])
      (hanswers : answers = [])
  /-- The file could not be opened. -/
  | refused {host : FileServer} (hasker : asker.Fetches client requestId .waiting)
      (hanswerer : answerer.Hosts server requestId host) (hquiet : host.IsQuiet)
      (hrequests : requests = []) (hanswers : Failures requestId answers)
  /-- The file has been opened. -/
  | opened {host : FileServer} {content : Nat} {stat : Stat}
      (hasker : asker.Fetches client requestId .waiting)
      (hanswerer : answerer.Hosts server requestId host)
      (hserved : server.store.served? client.targetUrl = some (content, stat))
      (hawaits : host.Awaits answerer.world.store content) (hrequests : requests = [])
      (hanswers : answers = [] ∨ answers = [downloadReady requestId (client.announced stat)])
  /-- The range has been requested. -/
  | requested {host : FileServer} {content : Nat} {stat : Stat}
      (hasker : asker.Fetches client requestId
        (.receiving (client.announced stat) ByteArray.empty))
      (hanswerer : answerer.Hosts server requestId host)
      (hserved : server.store.served? client.targetUrl = some (content, stat))
      (hawaits : host.Awaits answerer.world.store content)
      (hrequests : requests = [downloadRequest requestId
        (Fetcher.rangeOf client.settings (client.announced stat))])
      (hanswers : answers = [])
  /-- Bytes of the range are under way. -/
  | feeding {host : FileServer} {content : Nat} {stat : Stat} {wanted got : ByteArray}
      (hasker : asker.Fetches client requestId (.receiving (client.announced stat) got))
      (hanswerer : answerer.Hosts server requestId host)
      (hserved : server.store.served? client.targetUrl = some (content, stat))
      (hwanted : wanted = client.requestedBytes (server.store.fs.bytesOf (.file content)))
      (hgot : got = wanted.extract 0 got.size) (hrequests : requests = [])
      (hsends : host.Sends requestId wanted answerer.world.store got.size answers)
  /-- All of the range has been received. -/
  | complete {host : FileServer} {content : Nat} {stat : Stat} {wanted : ByteArray}
      (hasker : asker.Fetches client requestId (.complete (client.announced stat) wanted))
      (hanswerer : answerer.Hosts server requestId host)
      (hserved : server.store.served? client.targetUrl = some (content, stat))
      (hwanted : wanted = client.requestedBytes (server.store.fs.bytesOf (.file content)))
      (hrequests : requests = []) (hspent : host.IsSpent requestId wanted answerer.world.store)
      (hanswers : Failures requestId answers)
  /-- The initiator has failed. -/
  | failed (hasker : asker.Fetches client requestId .failed)

namespace Downloading

variable {asker asker' answerer answerer' : Side} {requests answers rest : List Message}
variable {message : Message}

/-- An initiator that is at the same stage is as good. -/
theorem withAsker (h : Downloading client server requestId asker answerer requests answers)
    (hasker' : ∀ stage, asker.Fetches client requestId stage →
      asker'.Fetches client requestId stage) :
    Downloading client server requestId asker' answerer requests answers := by
  cases h with
  | opening hasker hanswerer hrequests hanswers =>
    exact .opening (hasker' _ hasker) hanswerer hrequests hanswers
  | refused hasker hanswerer hquiet hrequests hanswers =>
    exact .refused (hasker' _ hasker) hanswerer hquiet hrequests hanswers
  | opened hasker hanswerer hserved hawaits hrequests hanswers =>
    exact .opened (hasker' _ hasker) hanswerer hserved hawaits hrequests hanswers
  | requested hasker hanswerer hserved hawaits hrequests hanswers =>
    exact .requested (hasker' _ hasker) hanswerer hserved hawaits hrequests hanswers
  | feeding hasker hanswerer hserved hwanted hgot hrequests hsends =>
    exact .feeding (hasker' _ hasker) hanswerer hserved hwanted hgot hrequests hsends
  | complete hasker hanswerer hserved hwanted hrequests hspent hanswers =>
    exact .complete (hasker' _ hasker) hanswerer hserved hwanted hrequests hspent hanswers
  | failed hasker => exact .failed (hasker' _ hasker)

/-- A responder that is at the same, with the same share and the same open files, is as good. -/
theorem withAnswerer (h : Downloading client server requestId asker answerer requests answers)
    (hanswerer' : ∀ host, answerer.Hosts server requestId host →
      answerer'.Hosts server requestId host)
    (hfs : answerer'.world.store.fs = answerer.world.store.fs)
    (hfiles : answerer'.world.store.files = answerer.world.store.files) :
    Downloading client server requestId asker answerer' requests answers := by
  cases h with
  | opening hasker hanswerer hrequests hanswers =>
    exact .opening hasker (hanswerer' _ hanswerer) hrequests hanswers
  | refused hasker hanswerer hquiet hrequests hanswers =>
    exact .refused hasker (hanswerer' _ hanswerer) hquiet hrequests hanswers
  | opened hasker hanswerer hserved hawaits hrequests hanswers =>
    exact .opened hasker (hanswerer' _ hanswerer) hserved (hawaits.congr hfs hfiles) hrequests
      hanswers
  | requested hasker hanswerer hserved hawaits hrequests hanswers =>
    exact .requested hasker (hanswerer' _ hanswerer) hserved (hawaits.congr hfs hfiles) hrequests
      hanswers
  | feeding hasker hanswerer hserved hwanted hgot hrequests hsends =>
    exact .feeding hasker (hanswerer' _ hanswerer) hserved hwanted hgot hrequests
      (hsends.congr hfs hfiles)
  | complete hasker hanswerer hserved hwanted hrequests hspent hanswers =>
    exact .complete hasker (hanswerer' _ hanswerer) hserved hwanted hrequests
      (hspent.imp_right (·.congr hfs hfiles)) hanswers
  | failed hasker => exact .failed hasker

/-- **The initiator takes a message.** -/
theorem askerTakes (hwell : client.store.fs.WellFormed)
    (h : Downloading client server requestId asker answerer asker.world.outlet.underway
      (message :: rest)) :
    Downloading client server requestId (asker.process message) answerer
      (asker.process message).world.outlet.underway rest := by
  -- what can arrive depends on the stage; where nothing is under way, nothing arrives
  cases h with
  | opening _ _ _ hanswers => cases hanswers
  | requested _ _ _ _ _ hanswers => cases hanswers
  | refused hasker _ _ _ hanswers =>
    obtain ⟨status, rfl⟩ := hanswers message List.mem_cons_self
    rcases hasker.refused status with hfailed | ⟨⟨info, got, hstage⟩, -⟩
    · exact .failed hfailed
    · cases hstage
  | opened hasker hanswerer hserved hawaits hrequests hanswers =>
    obtain ⟨rfl, rfl⟩ := List.cons.inj (hanswers.resolve_left (List.cons_ne_nil _ _))
    rcases hasker.ready hwell _ with hfailed | ⟨hreceiving, hsent⟩
    · exact .failed hfailed
    · rw [hrequests] at hsent
      exact .requested hreceiving hanswerer hserved hawaits hsent rfl
  | feeding hasker hanswerer hserved hwanted hgot hrequests hsends =>
    rcases hsends.uncons with ⟨data, rfl, hdata, hrest⟩ | ⟨rfl, hsize, hanswers, hspent⟩ |
      ⟨status, rfl⟩
    · rcases hasker.piece data with hfailed | ⟨hreceiving, houtlet⟩
      · exact .failed hfailed
      · rw [← ByteArray.size_append] at hrest
        exact .feeding hreceiving hanswerer hserved hwanted (append_extract hgot hdata)
          (houtlet ▸ hrequests) hrest
    · -- the end message stands behind the whole, so that is what has been received
      obtain ⟨hcomplete, houtlet⟩ := hasker.ending
      rw [hsize, ByteArray.extract_zero_size] at hgot
      subst hgot
      exact .complete hcomplete hanswerer hserved hwanted (houtlet ▸ hrequests) hspent hanswers
    · rcases hasker.refused status with hfailed | ⟨⟨info, got, hstage⟩, -⟩
      · exact .failed hfailed
      · cases hstage
  | complete hasker hanswerer hserved hwanted hrequests hspent hanswers =>
    obtain ⟨status, rfl⟩ := hanswers message List.mem_cons_self
    rcases hasker.refused status with hfailed | ⟨-, hcomplete, houtlet⟩
    · exact .failed hfailed
    · exact .complete hcomplete hanswerer hserved hwanted (houtlet ▸ hrequests) hspent
        fun other hother ↦ hanswers other (List.mem_cons_of_mem _ hother)
  | failed hasker => exact .failed (hasker.process_of_failed message)

/-- Every initiator is at some stage. -/
theorem exists_stage (h : Downloading client server requestId asker answerer requests answers) :
    ∃ stage, asker.Fetches client requestId stage := by
  cases h with
  | opening hasker => exact ⟨_, hasker⟩
  | refused hasker => exact ⟨_, hasker⟩
  | opened hasker => exact ⟨_, hasker⟩
  | requested hasker => exact ⟨_, hasker⟩
  | feeding hasker => exact ⟨_, hasker⟩
  | complete hasker => exact ⟨_, hasker⟩
  | failed hasker => exact ⟨_, hasker⟩

/-- The initiator has no job, and no step of it does anything. -/
theorem askerWorks (h : Downloading client server requestId asker answerer
      asker.world.outlet.underway answers) :
    Downloading client server requestId asker.work answerer asker.work.world.outlet.underway
      answers := by
  obtain ⟨stage, hasker⟩ := h.exists_stage
  rw [hasker.work]
  exact h

/-- **The initiator quits.** -/
theorem askerQuits (h : Downloading client server requestId asker answerer
      asker.world.outlet.underway answers) :
    Downloading client server requestId asker.quit answerer asker.quit.world.outlet.underway
      answers := by
  obtain ⟨stage, hasker⟩ := h.exists_stage
  rw [hasker.quit.2]
  exact h.withAsker fun _ hasker ↦ hasker.quit.1

/-- **The responder takes a message.** -/
theorem hostTakes (hsize : ∀ content stat,
      server.store.served? client.targetUrl = some (content, stat) →
        (server.store.fs.bytesOf (.file content)).size < UInt64.size)
    (h : Downloading client server requestId asker answerer (message :: rest)
      answerer.world.outlet.underway) :
    Downloading client server requestId asker (answerer.process message) rest
      (answerer.process message).world.outlet.underway := by
  -- only two messages ever travel to the responder
  cases h with
  | refused _ _ _ hrequests => cases hrequests
  | opened _ _ _ _ hrequests => cases hrequests
  | feeding _ _ _ _ _ hrequests => cases hrequests
  | complete _ _ _ _ hrequests => cases hrequests
  | opening hasker hanswerer hrequests hanswers =>
    obtain ⟨rfl, rfl⟩ := List.cons.inj (hrequests.resolve_left (List.cons_ne_nil _ _))
    obtain ⟨host, messages, hhosts, hunderway, hcases⟩ := hanswerer.opening client
    rw [hanswers, List.nil_append] at hunderway
    subst hunderway
    rcases hcases with ⟨hquiet, hfailures⟩ | ⟨content, stat, hserved, hawaits, htold⟩
    · exact .refused hasker hhosts hquiet rfl hfailures
    · exact .opened hasker hhosts hserved hawaits rfl htold
  | requested hasker hanswerer hserved hawaits hrequests hanswers =>
    rename_i host content stat
    obtain ⟨rfl, rfl⟩ := List.cons.inj hrequests
    have hinfo : (client.announced stat).size =
        UInt64.ofNat (server.store.fs.bytesOf (.file content)).size :=
      Store.size_of_served? hserved
    obtain ⟨host', messages, hhosts, hunderway, hsends⟩ :=
      hanswerer.serving hawaits client (hsize content stat hserved) hinfo
    rw [hanswers, List.nil_append] at hunderway
    subst hunderway
    exact .feeding hasker hhosts hserved rfl ByteArray.extract_same.symm rfl hsends
  | failed hasker => exact .failed hasker

/-- **The job of the responder takes a step.** -/
theorem hostWorks (h : Downloading client server requestId asker answerer requests
      answerer.world.outlet.underway) :
    Downloading client server requestId asker answerer.work requests
      answerer.work.world.outlet.underway := by
  -- as long as there is no job, nothing happens
  have hnothing : ∀ host, answerer.Hosts server requestId host → host.IsQuiet →
      Downloading client server requestId asker answerer.work requests
        answerer.work.world.outlet.underway := by
    intro host hhosts hquiet
    rw [hhosts.work_of_isQuiet hquiet]
    exact h
  cases h with
  | opening _ hanswerer => exact hnothing _ hanswerer (FileServer.isQuiet_of_none rfl)
  | refused _ hanswerer hquiet => exact hnothing _ hanswerer hquiet
  | opened _ hanswerer _ hawaits =>
    exact hnothing _ hanswerer (FileServer.isQuiet_of_none hawaits.job)
  | requested _ hanswerer _ hawaits =>
    exact hnothing _ hanswerer (FileServer.isQuiet_of_none hawaits.job)
  | feeding hasker hanswerer hserved hwanted hgot hrequests hsends =>
    obtain ⟨host', more, hhosts, hunderway, hsends'⟩ := hanswerer.work hsends
    rw [hunderway]
    exact .feeding hasker hhosts hserved hwanted hgot hrequests hsends'
  | complete hasker hanswerer hserved hwanted hrequests hspent hanswers =>
    rcases hspent with hquiet | hsupplies
    · exact hnothing _ hanswerer hquiet
    · obtain ⟨host', hhosts, ⟨count, done, more, hemits, hunderway, hsupplies'⟩ |
        ⟨hquiet, status, hunderway⟩⟩ := hanswerer.work_of_supplies hsupplies
      · -- nothing is queued behind the end message
        cases hemits with
        | nothing =>
          rw [hunderway, List.append_nil]
          exact .complete hasker hhosts hserved hwanted hrequests (.inr hsupplies') hanswers
      · rw [hunderway]
        exact .complete hasker hhosts hserved hwanted hrequests (.inl hquiet)
          (hanswers.append (.singleton _ status))
  | failed hasker => exact .failed hasker

/-- **The responder quits.** -/
theorem hostQuits (h : Downloading client server requestId asker answerer requests
      answerer.world.outlet.underway) :
    Downloading client server requestId asker answerer.quit requests
      answerer.quit.world.outlet.underway := by
  have hquits : ∀ size, (⟨none, size, none⟩ : FileServer).IsQuiet :=
    fun size ↦ FileServer.isQuiet_of_none rfl
  cases h with
  | opening hasker hanswerer hrequests hanswers =>
    obtain ⟨hhosts, houtlet⟩ := hanswerer.quit fun _ hjob ↦ (hquits 0).stop_run hjob
    rw [houtlet]
    exact .opening hasker hhosts hrequests hanswers
  | refused hasker hanswerer hquiet hrequests hanswers =>
    obtain ⟨hhosts, houtlet⟩ := hanswerer.quit fun _ hjob ↦ hquiet.stop_run hjob
    rw [houtlet]
    exact .refused hasker hhosts (hquits _) hrequests hanswers
  | opened hasker hanswerer hserved hawaits hrequests hanswers =>
    obtain ⟨hhosts, houtlet⟩ := hanswerer.quit fun _ hjob ↦
      (FileServer.isQuiet_of_none hawaits.job).stop_run hjob
    rw [houtlet]
    exact .opened hasker hhosts hserved ⟨rfl, nofun⟩ hrequests hanswers
  | requested hasker hanswerer hserved hawaits hrequests hanswers =>
    obtain ⟨hhosts, houtlet⟩ := hanswerer.quit fun _ hjob ↦
      (FileServer.isQuiet_of_none hawaits.job).stop_run hjob
    rw [houtlet]
    exact .requested hasker hhosts hserved ⟨rfl, nofun⟩ hrequests hanswers
  | feeding hasker hanswerer hserved hwanted hgot hrequests hsends =>
    obtain ⟨hhosts, houtlet⟩ := hanswerer.quit fun _ hjob ↦ hsends.stop_run hjob
    rw [houtlet]
    exact .feeding hasker hhosts hserved hwanted hgot hrequests (hsends.quiet (hquits _))
  | complete hasker hanswerer hserved hwanted hrequests hspent hanswers =>
    obtain ⟨hhosts, houtlet⟩ := hanswerer.quit fun _ hjob ↦
      hspent.elim (fun hquiet ↦ hquiet.stop_run hjob) fun hsupplies ↦ hsupplies.stop_run hjob
    rw [houtlet]
    exact .complete hasker hhosts hserved hwanted hrequests (.inl (hquits _)) hanswers
  | failed hasker => exact .failed hasker

/-- **A download that is reported as complete** has brought the whole range. -/
theorem of_completed (h : Downloading client server requestId asker answerer requests answers)
    {entries : List FileInfo} {bytes : UInt64}
    (houtcome : asker.world.outcome = some (.completed entries bytes)) :
    ∃ content stat, server.store.served? client.targetUrl = some (content, stat) ∧
      entries = [client.announced stat] ∧
      let wanted := client.requestedBytes (server.store.fs.bytesOf (.file content))
      bytes = UInt64.ofNat wanted.size ∧
      LocalFile.readAll asker.world.store.fs client.workDir client.settings.request.outputFile =
        .ok wanted := by
  cases h with
  | complete hasker _ hserved hwanted =>
    obtain ⟨info, got, hstage, rfl, rfl, hread⟩ := hasker.of_completed houtcome
    obtain ⟨rfl, rfl⟩ := Stage.complete.inj hstage
    subst hwanted
    exact ⟨_, _, hserved, rfl, rfl, hread⟩
  | opening hasker | refused hasker | opened hasker | requested hasker | feeding hasker
  | failed hasker =>
    obtain ⟨info, got, hstage, -⟩ := hasker.of_completed houtcome
    cases hstage

end Downloading

end FileShare
