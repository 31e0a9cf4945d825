import FileShare.Proofs.Receiving
import FileShare.Proofs.UploadFlow

/-!
# The responder of an upload, and what it has been sent

`Uploading` is the part of the invariant of an upload that concerns the responder. It goes by what
the responder is at: it has not seen the opening request, it writes, it has given up, or it has put
the upload into its place. In the first three cases all files of the share are as they were, but for
the temporary one; in the last, the target holds the whole local file. The responder never returns
from there.

Every step of either side keeps it: the initiator goes on or takes an answer, and the responder
takes a message (`Uploading.take`), or quits.
-/

namespace FileShare

open Conversation (Machine)

variable {requestId : String}
variable {client server : Machine} {progress progress' : Progress}
variable {requests messages : List Message}

/-! ### The responder -/

/-- The opening request of an upload. -/
def uploadOpening (client : Machine) (requestId : String) : Message :=
  (Exchange.ofFamily .initiator .upload requestId).initialRequest client.settings.request

/-- The name of the temporary file that a store makes next. -/
def Store.nextTemporary (store : Store) : Name :=
  (temporaryName store.tokens).toUTF8

/-- **The next temporary name is fresh**: nothing on the share has it, and no target does. -/
structure Store.Fresh (store : Store) (url : String) : Prop where
  unused : store.fs.Unused store.nextTemporary
  target : ∀ names, Url.names? url = .ok names → names.getLast? ≠ some store.nextTemporary

theorem Store.Fresh.getLast?_ne {store store' : Store} {url : String} {target : Path}
    (h : store.Fresh url) (hplace : store'.place? url = some target) :
    target.getLast? ≠ some store.nextTemporary := by
  obtain ⟨steps, hsteps, -⟩ := Store.place?_eq_some.1 hplace
  obtain ⟨names, hnames, -⟩ := Store.steps?_cases hsteps
  rw [Store.getLast?_place? hplace hnames]
  exact h.target names hnames

/-- **What the responder is at**, with what is under way to it and from it. The flag tells that the
upload has been put into its place, and `led` says where the URL of the target has led. -/
inductive Uploading (client server : Machine) (requestId : String) (led : Path → Prop) (side : Side)
    (requests : List Message) : Progress → Bool → Prop where
  /-- The opening request has not been seen. -/
  | opening (hexchange : side.exchange = ⟨requestId, .responder (.upload .idle)⟩)
      (hrecords : server.store.Records side.world.store)
      (hanswers : side.world.outlet.underway = [])
      (hrequests : requests = [] ∨ requests = [uploadOpening client requestId]) :
      Uploading client server requestId led side requests .waiting false
  /-- The temporary file is being written. -/
  | writing {receiver : Receiver} {path : Path} {written : ByteArray} {progress : Progress}
      (hexchange : side.exchange = ⟨requestId, .responder (.upload receiver)⟩)
      (hwrites : receiver.Writes client.targetUrl side.world.store path written)
      (hname : path.getLast? = some server.store.nextTemporary)
      (hkept : server.store.fs.Extends side.world.store.fs)
      (hspares : server.store.Spares side.world.store path)
      (hflow : Flow client requestId written progress requests)
      (hanswers : Answers requestId false progress side.world.outlet.underway) :
      Uploading client server requestId led side requests progress false
  /-- The upload has been given up. -/
  | closed {receiver : Receiver} {progress : Progress}
      (hexchange : side.exchange = ⟨requestId, .responder (.upload receiver)⟩)
      (hnone : receiver.receiving = none)
      (hfiles : ∀ path, path.getLast? ≠ some server.store.nextTemporary →
        side.world.store.fs.fileAt path = server.store.fs.fileAt path)
      (htraffic : ∀ message ∈ requests, Traffic requestId message)
      (hanswers : Answers requestId false progress side.world.outlet.underway) :
      Uploading client server requestId led side requests progress false
  /-- The upload is in its place. -/
  | placed {receiver : Receiver} {target : Path} {id : Nat}
      (hexchange : side.exchange = ⟨requestId, .responder (.upload receiver)⟩)
      (hnone : receiver.receiving = none)
      (hsource : client.source = .ok (.file id))
      (hled : led target)
      (hstart : ∀ place, server.store.place? client.targetUrl = some place → target = place)
      (hthere : side.world.store.fs.fileAt target = some (client.store.fs.bytesOf (.file id)))
      (hothers : ∀ path, path.getLast? ≠ some server.store.nextTemporary → path ≠ target →
        side.world.store.fs.fileAt path = server.store.fs.fileAt path)
      (htraffic : ∀ message ∈ requests, Traffic requestId message)
      (hanswers : Answers requestId true
        (.sending (client.store.fs.bytesOf (.file id)).size true) side.world.outlet.underway) :
      Uploading client server requestId led side requests
        (.sending (client.store.fs.bytesOf (.file id)).size true) true

namespace Uploading

variable {led led' : Path → Prop} {side side' : Side} {placed : Bool}

/-- Where the URL has led at some time, it has led at any later time. -/
theorem mono (h : Uploading client server requestId led side requests progress placed)
    (hled : ∀ path, led path → led' path) :
    Uploading client server requestId led' side requests progress placed := by
  cases h with
  | opening hexchange hrecords hanswers hrequests =>
    exact .opening hexchange hrecords hanswers hrequests
  | writing hexchange hwrites hname hkept hspares hflow hanswers =>
    exact .writing hexchange hwrites hname hkept hspares hflow hanswers
  | closed hexchange hnone hfiles htraffic hanswers =>
    exact .closed hexchange hnone hfiles htraffic hanswers
  | placed hexchange hnone hsource hwas hstart hthere hothers htraffic hanswers =>
    exact .placed hexchange hnone hsource (hled _ hwas) hstart hthere hothers htraffic hanswers

/-- What happens on the way, and faults that are to come, do not matter. -/
theorem congr (h : Uploading client server requestId led side requests progress placed)
    (hexchange' : side'.exchange = side.exchange)
    (hrecords' : side.world.store.Records side'.world.store)
    (hunderway : side'.world.outlet.underway = side.world.outlet.underway) :
    Uploading client server requestId led side' requests progress placed := by
  cases h with
  | opening hexchange hrecords hanswers hrequests =>
    exact .opening (hexchange'.trans hexchange)
      ⟨hrecords'.fs.trans hrecords.fs, hrecords'.root.trans hrecords.root,
        hrecords'.files.trans hrecords.files, hrecords'.tokens.trans hrecords.tokens⟩
      (hunderway.trans hanswers) hrequests
  | writing hexchange hwrites hname hkept hspares hflow hanswers =>
    exact .writing (hexchange'.trans hexchange) (hwrites.congr hrecords') hname
      (hrecords'.fs ▸ hkept) (hspares.trans (Store.Apart.ofRecords hrecords').toSpares) hflow
      (hunderway ▸ hanswers)
  | closed hexchange hnone hfiles htraffic hanswers =>
    exact .closed (hexchange'.trans hexchange) hnone (hrecords'.fs ▸ hfiles) htraffic
      (hunderway ▸ hanswers)
  | placed hexchange hnone hsource hled hstart hthere hothers htraffic hanswers =>
    exact .placed (hexchange'.trans hexchange) hnone hsource hled hstart (hrecords'.fs ▸ hthere)
      (hrecords'.fs ▸ hothers) htraffic (hunderway ▸ hanswers)

/-- An upload is in its place only after all of a file has been sent. -/
theorem of_placed (h : Uploading client server requestId led side requests progress true) :
    ∃ id, client.source = .ok (.file id) ∧
      progress = .sending (client.store.fs.bytesOf (.file id)).size true := by
  cases h with
  | placed _ _ hsource => exact ⟨_, hsource, rfl⟩

/-! ### Steps of the initiator -/

/-- **The initiator goes on.** -/
theorem goes (h : Uploading client server requestId led side requests progress placed)
    (hgoes : Goes client requestId progress progress' messages) :
    Uploading client server requestId led side (requests ++ messages) progress' placed := by
  have hmore : (∀ message ∈ requests, Traffic requestId message) →
      ∀ message ∈ requests ++ messages, Traffic requestId message := fun htraffic message hmem ↦
    (List.mem_append.1 hmem).elim (htraffic message) (hgoes.traffic message)
  cases h with
  | opening hexchange hrecords hanswers hrequests =>
    cases hgoes with
    | stay => exact .opening hexchange hrecords hanswers (by rwa [List.append_nil])
  | writing hexchange hwrites hname hkept hspares hflow hanswers =>
    exact .writing hexchange hwrites hname hkept hspares (hflow.goes hgoes)
      (hanswers.goes hgoes)
  | closed hexchange hnone hfiles htraffic hanswers =>
    exact .closed hexchange hnone hfiles (hmore htraffic) (hanswers.goes hgoes)
  | placed hexchange hnone hsource hled hstart hthere hothers htraffic hanswers =>
    obtain rfl := hgoes.of_done
    exact .placed hexchange hnone hsource hled hstart hthere hothers (hmore htraffic)
      (hanswers.goes hgoes)

/-- **The initiator takes an answer.** It begins if it has been waiting for that; it can only be
told that the upload is in its place if it is. -/
theorem answer (side' : Side) {message : Message} {rest : List Message}
    (h : Uploading client server requestId led side requests progress placed)
    (hnext : side.world.outlet.underway = message :: rest)
    (hrecords' : side.world.store.Records side'.world.store)
    (hexchange' : side'.exchange = side.exchange)
    (hunderway : side'.world.outlet.underway = rest) :
    (progress = .waiting ∧ message = uploadReady requestId ∧
        ∀ progress' messages, Begins client requestId progress' messages →
          Uploading client server requestId led side' (requests ++ messages) progress' placed) ∨
      ((∃ status, message = uploadFailed requestId status) ∨
          placed = true ∧ message = uploadDone requestId) ∧
        Uploading client server requestId led side' requests progress placed := by
  cases h with
  | opening hexchange hrecords hanswers hrequests =>
    rw [hanswers] at hnext
    cases hnext
  | writing hexchange hwrites hname hkept hspares hflow hanswers =>
    have hspares' := hspares.trans (Store.Apart.ofRecords hrecords').toSpares
    rw [hnext] at hanswers
    rcases hanswers.uncons with ⟨rfl, rfl, hrest⟩ | ⟨hmessage, hrest⟩
    · refine .inl ⟨rfl, rfl, fun progress' messages hbegins ↦ ?_⟩
      exact .writing (hexchange'.trans hexchange) (hwrites.congr hrecords') hname
        (hrecords'.fs ▸ hkept) hspares' (hflow.begins hbegins) (hunderway ▸ hrest progress')
    · exact .inr ⟨hmessage, .writing (hexchange'.trans hexchange) (hwrites.congr hrecords') hname
        (hrecords'.fs ▸ hkept) hspares' hflow (hunderway ▸ hrest)⟩
  | closed hexchange hnone hfiles htraffic hanswers =>
    rw [hnext] at hanswers
    rcases hanswers.uncons with ⟨rfl, rfl, hrest⟩ | ⟨hmessage, hrest⟩
    · refine .inl ⟨rfl, rfl, fun progress' messages hbegins ↦ ?_⟩
      refine .closed (hexchange'.trans hexchange) hnone (hrecords'.fs ▸ hfiles) ?_
        (hunderway ▸ hrest progress')
      intro message hmem
      exact (List.mem_append.1 hmem).elim (htraffic message) (hbegins.traffic message)
    · exact .inr ⟨hmessage, .closed (hexchange'.trans hexchange) hnone (hrecords'.fs ▸ hfiles)
        htraffic (hunderway ▸ hrest)⟩
  | placed hexchange hnone hsource hled hstart hthere hothers htraffic hanswers =>
    rw [hnext] at hanswers
    rcases hanswers.uncons with ⟨hwaiting, -⟩ | ⟨hmessage, hrest⟩
    · cases hwaiting
    · exact .inr ⟨hmessage, .placed (hexchange'.trans hexchange) hnone hsource hled hstart
        (hrecords'.fs ▸ hthere) (hrecords'.fs ▸ hothers) htraffic (hunderway ▸ hrest)⟩

end Uploading

/-! ### Steps of the responder -/

namespace Side

variable {side : Side} {receiver receiver' : Receiver} {message : Message} {command : Command}
variable {result : Except ExchangeError Unit} {mid : World Channel}

/-- What a responder of an upload does with a message, from how its receiver handles it: a failure
may be told. -/
theorem process_receiver (hexchange : side.exchange = ⟨requestId, .responder (.upload receiver)⟩)
    (hid : message.requestId = requestId) (hcommand : message.command? = some command)
    (hfamily : command.family = .upload)
    (hmay : Exchange.mayReceive .responder command = true)
    (handled : WorldM Channel (Handled Receiver))
    (hhandle : Responder.handle side.settings requestId command message (.upload receiver) =
      handled >>= fun handled ↦ pure (handled.1, .upload handled.2))
    (hrun : handled.run side.world = ((result, receiver'), mid)) :
    (side.process message).exchange = ⟨requestId, .responder (.upload receiver')⟩ ∧
      mid.OnChannel (side.process message).world ∧
      ((side.process message).world.outlet.underway = mid.outlet.underway ∨
        ∃ status, (side.process message).world.outlet.underway =
          mid.outlet.underway ++ [uploadFailed requestId status]) := by
  have hresponder : (Responder.handle side.settings requestId command message
      (.upload receiver)).run side.world = ((result, .upload receiver'), mid) := by
    rw [hhandle, StateT.run_bind, hrun]
    rfl
  obtain ⟨hnext, hchannel, htold⟩ :=
    process_responder hexchange hid hcommand hfamily hmay hresponder
  exact ⟨hnext, hchannel, htold.imp_right And.right⟩

end Side

namespace Uploading

variable {led : Path → Prop} {side : Side} {placed : Bool} {message : Message}

/-- **The responder takes the opening request**: it writes from then on, or has given up. -/
theorem takeOpening (hwell : server.store.fs.WellFormed)
    (hfresh : server.store.Fresh client.targetUrl)
    (hexchange : side.exchange = ⟨requestId, .responder (.upload .idle)⟩)
    (hrecords : server.store.Records side.world.store)
    (hquiet : side.world.outlet.underway = []) :
    Uploading client server requestId led (side.process (uploadOpening client requestId)) []
      .waiting false := by
  rcases hbegin : (Receiver.idle.begin requestId (uploadOpening client requestId)).run side.world
    with ⟨⟨result, receiver⟩, mid⟩
  have hcommand : (uploadOpening client requestId).command? = some .uploadInitReq :=
    Message.command?_of ..
  obtain ⟨hnext, hchannel, htold⟩ :=
    Side.process_receiver hexchange rfl hcommand rfl rfl _ rfl hbegin
  have hunused : side.world.store.fs.Unused (temporaryName side.world.store.tokens).toUTF8 := by
    rw [hrecords.fs, hrecords.tokens]
    exact hfresh.unused
  -- an answer is all that can be under way, and after it a failure
  have hanswers : (mid.outlet.underway = [] ∨ mid.outlet.underway = [uploadReady requestId]) →
      Answers requestId false .waiting
        (side.process (uploadOpening client requestId)).world.outlet.underway := by
    intro hmid
    refine .told ?_ htold
    rcases hmid with hmid | hmid
    · exact ⟨[], [], hmid, .inl rfl, by simp⟩
    · exact ⟨[uploadReady requestId], [], hmid, .inr ⟨rfl, rfl⟩, by simp⟩
  rcases Receiver.begin_cases rfl rfl (hrecords.fs ▸ hwell) hunused hbegin with
    ⟨rfl, hstore, hroot, hgrown⟩ |
      ⟨path, hwrites, hname, hkept, hspares, hsent⟩
  · refine .closed hnext rfl (fun path _ ↦ ?_) (by simp) (hanswers (.inl ?_))
    · rw [hchannel.store, hgrown.files (hrecords.fs ▸ hwell), hrecords.fs]
    · rw [hstore.outlet, hquiet]
  · refine .writing hnext (hchannel.store ▸ hwrites) ?_ ?_ ⟨?_, ?_⟩ .waiting (hanswers ?_)
    · rw [hname, hrecords.tokens]
      rfl
    · rw [hchannel.store, ← hrecords.fs]
      exact hkept
    · rw [hchannel.store, hspares.root, hrecords.root]
    · intro other hne
      rw [hchannel.store, hspares.files other hne, hrecords.fs]
    · rw [hquiet] at hsent
      exact hsent

section Writing

variable {receiver : Receiver} {path : Path} {written : ByteArray} {rest : List Message}

/-- An upload that is given up leaves all files as they were, but for the temporary one. -/
theorem of_spares {store : Store} (hname : path.getLast? = some server.store.nextTemporary)
    (hspares : server.store.Spares store path) (other : Path)
    (hother : other.getLast? ≠ some server.store.nextTemporary) :
    store.fs.fileAt other = server.store.fs.fileAt other :=
  hspares.files other fun heq ↦ hother (heq ▸ hname)

/-- **The responder takes a piece**: it writes on, or has given up. -/
theorem takePiece {data : ByteArray}
    (hexchange : side.exchange = ⟨requestId, .responder (.upload receiver)⟩)
    (hwrites : receiver.Writes client.targetUrl side.world.store path written)
    (hname : path.getLast? = some server.store.nextTemporary)
    (hkept : server.store.fs.Extends side.world.store.fs)
    (hspares : server.store.Spares side.world.store path)
    (hflow : Flow client requestId (written ++ data) progress rest)
    (hanswers : Answers requestId false progress side.world.outlet.underway) :
    Uploading client server requestId led
      (side.process (Producer.uploadMessage requestId data)) rest progress false := by
  rcases haccept : (receiver.accept (Producer.uploadMessage requestId data)).run side.world
    with ⟨⟨result, receiver'⟩, mid⟩
  have hcommand : (Producer.uploadMessage requestId data).command? = some .uploadDataReq :=
    Message.command?_of ..
  obtain ⟨hnext, hchannel, htold⟩ :=
    Side.process_receiver hexchange rfl hcommand rfl rfl _ rfl haccept
  obtain ⟨hstore, hspares', hcases⟩ := hwrites.accept rfl haccept
  rw [hstore.outlet] at htold
  have hspares := hspares.trans hspares'
  rw [← hchannel.store] at hspares hcases
  rcases hcases with ⟨-, hwrites', hext⟩ | hnone
  · exact .writing hnext hwrites' hname (hkept.trans hext) hspares hflow (hanswers.told htold)
  · exact .closed hnext hnone (of_spares hname hspares) hflow.traffic (hanswers.told htold)

/-- **The responder takes the end of the upload**: the upload is in its place, or given up. -/
theorem takeEnd {id : Nat} (hfresh : server.store.Fresh client.targetUrl)
    (hled : ∀ target, side.world.store.place? client.targetUrl = some target → led target)
    (hexchange : side.exchange = ⟨requestId, .responder (.upload receiver)⟩)
    (hwrites : receiver.Writes client.targetUrl side.world.store path written)
    (hname : path.getLast? = some server.store.nextTemporary)
    (hkept : server.store.fs.Extends side.world.store.fs)
    (hspares : server.store.Spares side.world.store path)
    (hsource : client.source = .ok (.file id))
    (hwritten : written = client.store.fs.bytesOf (.file id))
    (hanswers : Answers requestId false (.sending written.size true) side.world.outlet.underway) :
    ∃ placed, Uploading client server requestId led (side.process (uploadEnd requestId)) []
      (.sending written.size true) placed := by
  rcases hcomplete : (receiver.complete requestId).run side.world with ⟨⟨result, receiver'⟩, mid⟩
  have hcommand : (uploadEnd requestId).command? = some .uploadEndReq := Message.command?_of ..
  obtain ⟨hnext, hchannel, htold⟩ :=
    Side.process_receiver hexchange rfl hcommand rfl rfl _ rfl hcomplete
  obtain ⟨hnone, hroot, ⟨hstore, hspares'⟩ | ⟨target, htarget, hthere, hsent⟩⟩ :=
    hwrites.complete hcomplete
  · rw [hstore.outlet] at htold
    have hspares := hspares.trans hspares'
    rw [← hchannel.store] at hspares
    exact ⟨false, .closed hnext hnone (of_spares hname hspares) (by simp) (hanswers.told htold)⟩
  · -- the target has another name than the temporary file
    have hne : target ≠ path := fun heq ↦ hfresh.getLast?_ne htarget (heq ▸ hname)
    obtain ⟨hthere, hothers⟩ := hthere hne
    have hmid : Answers requestId true (.sending written.size true) mid.outlet.underway := by
      rcases hsent with hsent | hsent
      · rw [hsent]
        exact hanswers.place
      · rw [hsent]
        exact hanswers.confirm
    subst hwritten
    refine ⟨true, .placed hnext hnone hsource (hled target htarget) ?_ ?_ ?_ (by simp)
      (hmid.told htold)⟩
    · intro place hplace
      have hsame := Store.place?_mono hspares.root hkept.keepsRoutes hplace
      rw [htarget] at hsame
      exact Option.some.inj hsame
    · rw [hchannel.store]
      exact hthere
    · intro other hother hne'
      rw [hchannel.store, hothers other (fun heq ↦ hother (heq ▸ hname)) hne',
        of_spares hname hspares other hother]

/-- **The responder is told that there is nothing to send.** -/
theorem takeFailed {status : Status}
    (hexchange : side.exchange = ⟨requestId, .responder (.upload receiver)⟩)
    (hwrites : receiver.Writes client.targetUrl side.world.store path written)
    (hname : path.getLast? = some server.store.nextTemporary)
    (hspares : server.store.Spares side.world.store path)
    (htraffic : ∀ message ∈ rest, Traffic requestId message)
    (hanswers : Answers requestId false progress side.world.outlet.underway) :
    Uploading client server requestId led (side.process (uploadFailed requestId status)) rest
      progress false := by
  rcases habandon : receiver.abandon.run side.world with ⟨⟨result, receiver'⟩, mid⟩
  have hcommand : (uploadFailed requestId status).command? = some .uploadError :=
    Message.command?_of ..
  obtain ⟨hnext, hchannel, htold⟩ :=
    Side.process_receiver hexchange rfl hcommand rfl rfl _ rfl habandon
  obtain ⟨hstore, hspares', hnone⟩ := hwrites.abandon habandon
  rw [hstore.outlet] at htold
  have hspares := hspares.trans hspares'
  rw [← hchannel.store] at hspares
  exact .closed hnext hnone (of_spares hname hspares) htraffic (hanswers.told htold)

end Writing

/-- **Without an upload, nothing that the responder is told touches a file.** -/
theorem process_of_none {receiver : Receiver}
    (hexchange : side.exchange = ⟨requestId, .responder (.upload receiver)⟩)
    (hnone : receiver.receiving = none) (htraffic : Traffic requestId message) :
    ∃ receiver', (side.process message).exchange = ⟨requestId, .responder (.upload receiver')⟩ ∧
      receiver'.receiving = none ∧ side.world.OnChannel (side.process message).world ∧
      ((side.process message).world.outlet.underway = side.world.outlet.underway ∨
        ∃ status, (side.process message).world.outlet.underway =
          side.world.outlet.underway ++ [uploadFailed requestId status]) := by
  cases htraffic with
  | piece data =>
    obtain ⟨result, failed, haccept⟩ := Receiver.accept_of_none hnone
    have hcommand : (Producer.uploadMessage requestId data).command? = some .uploadDataReq :=
      Message.command?_of ..
    obtain ⟨hnext, hchannel, htold⟩ :=
      Side.process_receiver hexchange rfl hcommand rfl rfl _ rfl haccept
    exact ⟨_, hnext, hnone, hchannel, htold⟩
  | ending =>
    obtain ⟨result, failed, hcomplete⟩ : ∃ result failed,
        (receiver.complete requestId).run side.world =
          ((result, { receiver with failed }), side.world) := Receiver.complete_of_none hnone
    have hcommand : (uploadEnd requestId).command? = some .uploadEndReq := Message.command?_of ..
    obtain ⟨hnext, hchannel, htold⟩ :=
      Side.process_receiver hexchange rfl hcommand rfl rfl _ rfl hcomplete
    exact ⟨_, hnext, hnone, hchannel, htold⟩
  | failed status =>
    have hcommand : (uploadFailed requestId status).command? = some .uploadError :=
      Message.command?_of ..
    obtain ⟨hnext, hchannel, htold⟩ :=
      Side.process_receiver hexchange rfl hcommand rfl rfl _ rfl (Receiver.abandon_of_none hnone)
    exact ⟨_, hnext, hnone, hchannel, htold⟩

/-- **The responder takes a message.** What is in its place stays there. -/
theorem take {rest : List Message} (hwell : server.store.fs.WellFormed)
    (hfresh : server.store.Fresh client.targetUrl)
    (hled : ∀ target, side.world.store.place? client.targetUrl = some target → led target)
    (h : Uploading client server requestId led side (message :: rest) progress placed) :
    ∃ placed', (placed = true → placed' = true) ∧
      Uploading client server requestId led (side.process message) rest progress placed' := by
  cases h with
  | opening hexchange hrecords hanswers hrequests =>
    obtain ⟨rfl, rfl⟩ := List.cons.inj (hrequests.resolve_left (List.cons_ne_nil _ _))
    exact ⟨false, id, takeOpening hwell hfresh hexchange hrecords hanswers⟩
  | writing hexchange hwrites hname hkept hspares hflow hanswers =>
    cases hflow with
    | sending hsource hwritten hstream =>
      rename_i path written opened count done
      rcases hstream.uncons with ⟨data, rfl, hdata, hrest⟩ | ⟨rfl, rfl, hfile, hcount, rfl, rfl⟩
      · have hmore := append_extract hwritten hdata
        refine ⟨false, id, takePiece hexchange hwrites hname hkept hspares
          (.sending hsource hmore ?_) hanswers⟩
        rw [ByteArray.size_append]
        exact hrest
      · -- all of the file has been written
        rw [hcount, ByteArray.extract_zero_size] at hwritten
        rw [← hwritten] at hanswers ⊢
        cases opened with
        | directory => exact absurd rfl hfile
        | file id =>
          obtain ⟨placed', h⟩ := takeEnd hfresh hled hexchange hwrites hname hkept hspares hsource
            hwritten hanswers
          exact ⟨placed', nofun, h⟩
    | abandoned hrequests =>
      obtain ⟨status, rfl⟩ := hrequests message (by simp)
      refine ⟨false, id, takeFailed hexchange hwrites hname hspares (fun other hother ↦ ?_)
        hanswers⟩
      obtain ⟨status, rfl⟩ := hrequests other (by simp [hother])
      exact .failed status
  | closed hexchange hnone hfiles htraffic hanswers =>
    obtain ⟨receiver', hnext, hnone', hchannel, htold⟩ :=
      process_of_none hexchange hnone (htraffic message (by simp))
    exact ⟨false, id, .closed hnext hnone' (hchannel.store ▸ hfiles)
      (fun other hother ↦ htraffic other (by simp [hother])) (hanswers.told htold)⟩
  | placed hexchange hnone hsource hwas hstart hthere hothers htraffic hanswers =>
    obtain ⟨receiver', hnext, hnone', hchannel, htold⟩ :=
      process_of_none hexchange hnone (htraffic message (by simp))
    exact ⟨true, id, .placed hnext hnone' hsource hwas hstart (hchannel.store ▸ hthere)
      (hchannel.store ▸ hothers) (fun other hother ↦ htraffic other (by simp [hother]))
      (hanswers.told htold)⟩

/-- A responder of an upload has no job. -/
theorem work (h : Uploading client server requestId led side requests progress placed) :
    side.work = side := by
  have hnothing : ∀ receiver, side.exchange = ⟨requestId, .responder (.upload receiver)⟩ →
      side.work = side := by
    intro receiver hexchange
    refine Side.work_of_none ?_
    rw [hexchange]
    rfl
  cases h with
  | opening hexchange => exact hnothing _ hexchange
  | writing hexchange => exact hnothing _ hexchange
  | closed hexchange => exact hnothing _ hexchange
  | placed hexchange => exact hnothing _ hexchange

/-- **The responder quits.** What is in its place stays there. -/
theorem quit (h : Uploading client server requestId led side requests progress placed) :
    Uploading client server requestId led side.quit requests progress placed := by
  have hquit : ∀ receiver receiver' world,
      side.exchange = ⟨requestId, .responder (.upload receiver)⟩ →
      receiver.quit.run side.world = (receiver', world) →
      side.quit = ⟨side.settings, ⟨requestId, .responder (.upload receiver')⟩, world⟩ := by
    intro receiver receiver' world hexchange hrun
    refine Side.quit_responder hexchange ?_
    unfold Responder.quit
    rw [StateT.run_bind, hrun]
    rfl
  cases h with
  | opening hexchange hrecords hanswers hrequests =>
    rw [hquit _ _ _ hexchange (Receiver.quit_of_none rfl)]
    exact .opening rfl hrecords hanswers hrequests
  | writing hexchange hwrites hname hkept hspares hflow hanswers =>
    rename_i receiver path written
    rcases hrun : receiver.quit.run side.world with ⟨receiver', world⟩
    obtain ⟨hstore, hspares', hnone⟩ := hwrites.quit hrun
    rw [hquit _ _ _ hexchange hrun]
    refine .closed rfl hnone (of_spares hname (hspares.trans hspares')) hflow.traffic ?_
    show Answers requestId false progress world.outlet.underway
    rw [hstore.outlet]
    exact hanswers
  | closed hexchange hnone hfiles htraffic hanswers =>
    rw [hquit _ _ _ hexchange (Receiver.quit_of_none hnone)]
    exact .closed rfl hnone hfiles htraffic hanswers
  | placed hexchange hnone hsource hwas hstart hthere hothers htraffic hanswers =>
    rw [hquit _ _ _ hexchange (Receiver.quit_of_none hnone)]
    exact .placed rfl hnone hsource hwas hstart hthere hothers htraffic hanswers

end Uploading

end FileShare
