import FileShare.Proofs.Deletion
import FileShare.Proofs.Staging

/-!
# Making a folder, and what is told about it

A responder that is asked for a folder makes it, looks at it, and tells what it has seen. These are
two calls, and either may be made to fail. If the first one fails, nothing has changed, and the
failure is told. If both are done, the folder was missing and is there now, nothing else has
changed, and that is told. But **if the look fails, the folder is there and a failure is told.**
That is the only case in which what is told is not what has been done
(`Exchange.folder_tells_what_was_done`), and a look at a folder that has just been made fails for no
other reason than that it was made to fail: the route that led to nothing leads to the folder now
(`Single.stat_of_folder`).

The tree may have links anywhere. What a URL leads to is where its route leads, with all links
followed but one at its end, where no folder can be made.
-/

namespace FileShare

/-! ### Calls that are made to fail -/

/-- No fault makes an operation fail. -/
def Fault.Spares (operation : Operation) (faults : List Fault) : Prop :=
  ∀ fault ∈ faults, fault.operation = operation → fault.effect.errno = none

/-- **What disturbs a call is a fault**, and the faults that are left were there before, but for
their counts. -/
theorem Fault.exists_of_disturb (call : Call) (faults : List Fault) :
    (∀ disturbance, (disturb call faults).1 = some disturbance →
      ∃ fault ∈ faults, fault.operation = call.operation ∧ fault.effect = disturbance) ∧
    ∀ left ∈ (disturb call faults).2,
      ∃ fault ∈ faults, fault.operation = left.operation ∧ fault.effect = left.effect :=
  forall_disturb (P := fun operation effect ↦
    ∃ fault ∈ faults, fault.operation = operation ∧ fault.effect = effect)
    (fun fault hmem ↦ ⟨fault, hmem, rfl, rfl⟩) call

theorem Fault.Spares.disturb {operation : Operation} {faults : List Fault}
    (h : Spares operation faults) (call : Call) : Spares operation (disturb call faults).2 := by
  intro left hleft hoperation
  obtain ⟨fault, hmem, hsame, heffect⟩ := (exists_of_disturb call faults).2 left hleft
  exact heffect ▸ h fault hmem (hsame.trans hoperation)

namespace Share

variable {α : Type} {store store' : Store}

/-- **A call is made to fail by a fault, or its body is run.** -/
theorem attempt_disturbed_or_run {call : Call} {answer : α → Answer}
    {body : Option Nat → Store → Except ShareError α × Store} {result : Except ShareError α}
    (h : (attempt call answer body).run.run store = (result, store')) :
    (∃ errno, result = .error ⟨call.operation.name, call.url, errno⟩ ∧ store'.fs = store.fs ∧
      ∃ fault ∈ store.faults, fault.operation = call.operation ∧
        fault.effect.errno = some errno) ∨
    ∃ limit mid recorded, body limit { store with faults := (Fault.disturb call store.faults).2 } =
      (result, mid) ∧ store' = mid.record call recorded := by
  unfold attempt at h
  simp only [ExceptT.run_mk, StateT.run] at h
  split at h
  · rename_i errno herrno
    obtain ⟨rfl, rfl⟩ := Prod.mk.inj h
    obtain ⟨disturbance, hsome, herrno⟩ := Option.bind_eq_some_iff.1 herrno
    obtain ⟨fault, hmem, hoperation, rfl⟩ := (Fault.exists_of_disturb call store.faults).1 _ hsome
    exact .inl ⟨errno, rfl, rfl, fault, hmem, hoperation, herrno⟩
  · refine .inr ⟨(Fault.disturb call store.faults).1.bind (·.limit), ?_⟩
    split at h
    all_goals
      rename_i hbody
      obtain ⟨rfl, rfl⟩ := Prod.mk.inj h
      exact ⟨_, _, hbody, rfl⟩

theorem faults_change {call : Call} {act : Store → Except Errno FileSystem}
    {result : Except ShareError Unit}
    (h : (change call act).run.run store = (result, store')) :
    store'.faults = (Fault.disturb call store.faults).2 :=
  faults_attempt (fun _ _ ↦ by split <;> rfl) h

end Share

/-! ### A folder that has been made -/

namespace FileSystem

variable {fs fs' : FileSystem} {budget : Nat} {path last : Path} {steps : List Step}

/-- Where no link is at the end, it does not matter whether it would be followed. -/
theorem Walks.follow (h : fs.Walks false budget path steps last)
    (hlast : ∀ target time, fs.kind? last ≠ some (.link target time)) :
    fs.Walks true budget path steps last := by
  induction h with
  | stop budget path => exact .stop budget path
  | here hdir _ ih => exact .here hdir (ih hlast)
  | up hdir _ ih => exact .up hdir (ih hlast)
  | entry hdir hsize hlink _ ih => exact .entry hdir hsize hlink (ih hlast)
  | @atLink _ _ _ target time _ _ hlink _ => exact absurd hlink (hlast target time)
  | through hdir hsize hlink hgo _ ih => exact .through hdir hsize hlink (by simp) (ih hlast)

/-- What a directory that is made is, beside a new entry. -/
theorem makeDirectory_others {start : Path} {name : Name}
    (h : fs.makeDirectory start steps = .ok fs') (hname : steps.getLast? = some (.name name)) :
    ∃ path, fs.place false start steps = .ok path ∧ fs.Gains fs' path (.directory 0) ∧
      (∀ other, other ≠ path → other ≠ path.dropLast → fs'.node? other = fs.node? other) ∧
      fs'.contents = fs.contents ∧ fs'.clock = fs.clock := by
  obtain ⟨path, hplace, hgains⟩ := makeDirectory_gains h hname
  obtain ⟨found, hfound, h⟩ := bind_eq_ok.1 h
  obtain rfl := Except.ok.inj (hplace.symm.trans hfound)
  refine ⟨path, hplace, hgains, ?_⟩
  split at h
  · cases h
  · obtain rfl := Except.ok.inj h
    refine ⟨fun other hne habove ↦ ?_, by simp, ?_⟩
    · rw [node?_touch_of_ne _ habove, node?_put, if_neg hne]
    · unfold touch
      split <;> rfl

end FileSystem

/-- **A folder has been made** where a URL leads, and nothing else has changed. -/
structure Store.Folder (store store' : Store) (url : String) (path : Path) : Prop where
  led : ∃ steps, store.steps? url = .ok steps ∧ store.fs.place false store.root steps = .ok path
  /-- It was missing. -/
  fresh : store.fs.kind? path = none
  /-- It is a directory now. -/
  there : store'.fs.isDirectoryAt path = true
  kinds : ∀ other, other ≠ path → store'.fs.kind? other = store.fs.kind? other
  /-- The directory above notes the time. -/
  nodes : ∀ other, other ≠ path → other ≠ path.dropLast →
    store'.fs.node? other = store.fs.node? other
  contents : store'.fs.contents = store.fs.contents
  clock : store'.fs.clock = store.fs.clock
  root : store'.root = store.root

namespace Store

variable {store store' last : Store} {url : String} {path : Path}

/-- Where nothing has changed, no folder has been made. -/
theorem Folder.fs_ne (h : store.Folder store' url path) : store'.fs ≠ store.fs := by
  intro hsame
  have hthere := FileSystem.kind?_eq_directory.2 h.there
  rw [hsame, h.fresh] at hthere
  cases hthere

/-- Calls and faults do not matter. -/
theorem Folder.congr (h : store.Folder store' url path) {before after : Store}
    (hbefore : before.Records store) (hafter : store'.Records after) :
    before.Folder after url path where
  led := by
    obtain ⟨steps, hsteps, hplace⟩ := h.led
    exact ⟨steps, (steps?_congr hbefore.root url) ▸ hsteps, hbefore.fs ▸ hbefore.root ▸ hplace⟩
  fresh := hbefore.fs ▸ h.fresh
  there := hafter.fs ▸ h.there
  kinds other hne := by rw [hafter.fs, h.kinds other hne, hbefore.fs]
  nodes other hne habove := by rw [hafter.fs, h.nodes other hne habove, hbefore.fs]
  contents := by rw [hafter.fs, h.contents, hbefore.fs]
  clock := by rw [hafter.fs, h.clock, hbefore.fs]
  root := by rw [hafter.root, h.root, hbefore.root]

/-- **The route that led to nothing leads to the folder**, and no link is at its end. -/
theorem Folder.place (h : store.Folder store' url path) :
    ∃ steps, store'.steps? url = .ok steps ∧
      store'.fs.place true store'.root steps = .ok path := by
  obtain ⟨steps, hsteps, hplace⟩ := h.led
  have hkind := FileSystem.kind?_eq_directory.2 h.there
  have hnotLink (target : ByteArray) (time : Int64) :
      store'.fs.kind? path ≠ some (.link target time) := by simp [hkind]
  have hkeeps : store.fs.KeepsRoutes store'.fs := by
    refine ⟨fun other hdir ↦ ?_, fun other target time ↦ ?_⟩
    · by_cases heq : other = path
      · exact heq ▸ h.there
      · rwa [FileSystem.isDirectoryAt_congr (h.kinds other heq)]
    · by_cases heq : other = path
      · simp [heq, hkind, h.fresh]
      · rw [h.kinds other heq]
  have hwalks := (FileSystem.place_eq_ok.1 hplace).mono hkeeps
  refine ⟨steps, (steps?_congr h.root url).trans hsteps, ?_⟩
  rw [h.root]
  exact FileSystem.place_eq_ok.2 (hwalks.follow hnotLink)

end Store

namespace Single

variable {store store' last : Store} {url : String} {path : Path}

/-- A call to make a folder fails with nothing done, or it has made the folder. -/
theorem folder_of_makeDirectory {result : Except ShareError Unit}
    (h : (Share.makeDirectory url).run.run store = (result, store')) :
    ((∃ error, result = .error error) ∧ store'.fs = store.fs) ∨
      result = .ok () ∧ ∃ path, store.Folder store' url path := by
  rcases Share.change_cases h with ⟨herror, hrecords⟩ | ⟨faults, fs, hact, rfl, hrecords⟩
  · exact .inl ⟨herror, hrecords.fs⟩
  · obtain ⟨steps, hsteps, hmake⟩ := FileSystem.bind_eq_ok.1 hact
    obtain ⟨name, hname⟩ := Store.exists_getLast?_steps? hsteps
    obtain ⟨path, hplace, hgains, hnodes, hcontents, hclock⟩ :=
      FileSystem.makeDirectory_others hmake hname
    have hfolder : store.Folder { store with fs } url path :=
      ⟨⟨steps, hsteps, hplace⟩, hgains.fresh, FileSystem.kind?_eq_directory.1 hgains.kind?_self,
        fun _ hne ↦ hgains.kind?_of_ne hne, hnodes, hcontents, hclock, rfl⟩
    exact .inr ⟨rfl, path, hfolder.congr ⟨rfl, rfl, rfl, rfl⟩ hrecords⟩

/-- **A folder that has been made is seen**, unless the look is made to fail. -/
theorem stat_of_folder {result : Except ShareError Stat} (hfolder : store.Folder store' url path)
    (h : (Share.stat url).run.run store' = (result, last)) :
    (∃ stat, result = .ok stat ∧ stat.isDirectory = true) ∨
      ∃ errno, result = .error ⟨Operation.stat.name, url, errno⟩ ∧
        ∃ fault ∈ store'.faults, fault.operation = .stat ∧ fault.effect.errno = some errno := by
  unfold Share.stat Share.inspect at h
  rcases Share.attempt_disturbed_or_run h with ⟨errno, rfl, -, hfault⟩ | ⟨_, mid, _, hbody, -⟩
  · exact .inr ⟨errno, rfl, hfault⟩
  · obtain ⟨steps, hsteps, hplace⟩ := hfolder.place
    obtain ⟨time, hnode⟩ := FileSystem.exists_of_isDirectoryAt hfolder.there
    have hinfo : store'.fs.info true store'.root steps =
        .ok (store'.fs.infoOf (.directory time)) := by
      rw [FileSystem.info, FileSystem.find_eq_ok.2 ⟨hplace, hnode⟩]
      rfl
    have hsteps' (faults : List Fault) : { store' with faults }.steps? url = .ok steps := hsteps
    simp only [hsteps', hinfo, bind, Except.bind] at hbody
    obtain ⟨rfl, -⟩ := Prod.mk.inj hbody
    exact .inl ⟨_, rfl, rfl⟩

/-- **What making a folder comes to**: nothing, or the folder; and a failure in spite of the folder
only if the look at it is made to fail. -/
theorem make_cases {result : Except ShareError Stat}
    (h : (make url).run.run store = (result, store')) :
    ((∃ error, result = .error error) ∧ store'.fs = store.fs) ∨
      ∃ path, store.Folder store' url path ∧
        ((∃ stat, result = .ok stat ∧ stat.isDirectory = true) ∨
          ∃ errno, result = .error ⟨Operation.stat.name, url, errno⟩ ∧
            ∃ fault ∈ store.faults, fault.operation = .stat ∧
              fault.effect.errno = some errno) := by
  unfold make at h
  rcases bind_cases h with ⟨error, hmake, rfl⟩ | ⟨⟨⟩, mid, hmake, hlook⟩
  · rcases folder_of_makeDirectory hmake with ⟨-, hsame⟩ | ⟨hcontra, -⟩
    · exact .inl ⟨⟨error, rfl⟩, hsame⟩
    · cases hcontra
  · rcases folder_of_makeDirectory hmake with ⟨⟨error, hcontra⟩, -⟩ | ⟨-, path, hfolder⟩
    · cases hcontra
    · have hdone := hfolder.congr ⟨rfl, rfl, rfl, rfl⟩ (Share.records_inspect hlook)
      refine .inr ⟨path, hdone, (stat_of_folder hfolder hlook).imp_right ?_⟩
      rintro ⟨errno, rfl, fault, hmem, hoperation, herrno⟩
      -- the faults that are left after the first call were there before it
      rw [Share.faults_change hmake] at hmem
      obtain ⟨earlier, hearlier, hsame, heffect⟩ := (Fault.exists_of_disturb _ _).2 fault hmem
      exact ⟨errno, rfl, earlier, hearlier, hsame.trans hoperation, heffect ▸ herrno⟩

end Single

/-! ### What is told -/

/-- The faults that are left after credentials have been adopted were there before. -/
theorem World.faults_connect {ω : Type} {world world' : World ω} {message : Message}
    {result : Except ExchangeError String}
    (h : (connect message).run.run world = (result, world')) :
    ∀ left ∈ world'.store.faults, ∃ fault ∈ world.store.faults,
      fault.operation = left.operation ∧ fault.effect = left.effect := by
  have hnothing {result' : Except ExchangeError String} (h : (result', world) = (result, world')) :
      ∀ left ∈ world'.store.faults, ∃ fault ∈ world.store.faults,
        fault.operation = left.operation ∧ fault.effect = left.effect := by
    obtain ⟨-, rfl⟩ := Prod.mk.inj h
    exact fun left hleft ↦ ⟨left, hleft, rfl, rfl⟩
  unfold connect at h
  split at h
  · exact hnothing h
  split at h
  · exact hnothing h
  rw [bind_get_run] at h
  split at h
  · rename_i credentials _ _
    rcases hshare : (Share.connect credentials).run.run world.store with ⟨answer, store⟩
    have hfaults : store.faults = (Fault.disturb ⟨.connect, credentials.url, .none⟩
        world.store.faults).2 := by
      unfold Share.connect Share.inspect at hshare
      exact Share.faults_attempt (fun _ _ ↦ rfl) hshare
    have hstore : world'.store = store := by
      rcases bind_cases h with ⟨error, hrun, -⟩ | ⟨_, mid, hrun, hdone⟩
      all_goals
        rw [share_run, hshare] at hrun
        obtain ⟨-, rfl⟩ := Prod.mk.inj hrun
      · rfl
      · obtain ⟨-, rfl⟩ := Prod.mk.inj hdone
        rfl
    rw [hstore, hfaults]
    exact (Fault.exists_of_disturb _ _).2
  · exact hnothing h

/-- Credentials are not refused for want of a session. -/
theorem World.connect_error {ω : Type} {world world' : World ω} {message : Message}
    {error : ExchangeError} (h : (connect message).run.run world = (.error error, world'))
    (cause : SessionError) : error ≠ .session cause := by
  rintro rfl
  unfold connect at h
  split at h
  · cases h
  split at h
  · cases h
  rw [bind_get_run] at h
  split at h
  · rcases bind_cases h with ⟨error, hshare, heq⟩ | ⟨_, mid, -, hdone⟩
    · obtain ⟨answer, -, hanswer, -⟩ := share_cases hshare
      cases answer <;> simp_all [Except.mapError]
    · cases hdone
  · cases h

namespace Single

/-- The answer that tells of a folder. -/
def folderReply (requestId url : String) (stat : Stat) : Message :=
  .of requestId .addFolderInitResp
    (.response (.folderAdded (stat.toFileInfo (Url.lastSegment url))))

/-- The answer that tells of a failure. -/
def folderFailure (requestId : String) (status : Status) : Message :=
  .of requestId .addFolderErrorResp (.status status)

variable {ω : Type} [Outlet ω] {message : Message} {requestId : String}

/-! A folder is asked for in two steps: the share is found, and the folder is made there. -/

section Asking

variable {world mid : World ω} {url : String} {store : Store}

theorem addFolder_run_of_refused {error : ExchangeError}
    (hconnect : (World.connect message).run.run world = (.error error, mid)) :
    (addFolder requestId message).run.run world = (.error error, mid) := by
  unfold addFolder
  rw [bind_run_of_error _ hconnect]

variable (hconnect : (World.connect message).run.run world = (.ok url, mid))

include hconnect

theorem addFolder_run_of_failed {error : ShareError}
    (hmake : (make url).run.run mid.store = (.error error, store)) :
    (addFolder requestId message).run.run world = (.error (.share error), { mid with store }) := by
  have hshare : (World.share (make url) : StepM ω Stat).run.run mid =
      (.error (.share error), { mid with store }) := by
    rw [World.share_run, hmake]
    rfl
  unfold addFolder
  rw [bind_run_of_ok _ hconnect, bind_run_of_error _ hshare]

theorem addFolder_run_of_made {stat : Stat}
    (hmake : (make url).run.run mid.store = (.ok stat, store)) :
    (addFolder requestId message).run.run world =
      ((Outlet.send mid.outlet (folderReply requestId url stat)).1.mapError .session,
        { mid with
          store
          outlet := (Outlet.send mid.outlet (folderReply requestId url stat)).2 }) := by
  have hshare : (World.share (make url) : StepM ω Stat).run.run mid =
      (.ok stat, { mid with store }) := by
    rw [World.share_run, hmake]
    rfl
  unfold addFolder
  rw [bind_run_of_ok _ hconnect, bind_run_of_ok _ hshare]
  rfl

end Asking

/-- **A responder that is asked for a folder gives one answer.** It tells what has been seen, or why
the request has failed; and if nothing could be sent, nothing else is. -/
theorem process_addFolder (settings : TransferSettings) (world : World ω)
    (hcheck : (Exchange.mk requestId (.responder .addFolder)).check message =
      .ok .addFolderInitReq) :
    (∃ error mid, (World.connect message).run.run world = (.error error, mid) ∧
      (((Exchange.mk requestId (.responder .addFolder)).process settings message).run world).2 =
        { mid with outlet := (Outlet.send mid.outlet (folderFailure requestId error.status)).2 }) ∨
    ∃ url mid, (World.connect message).run.run world = (.ok url, mid) ∧
      (((Exchange.mk requestId (.responder .addFolder)).process settings message).run world).2 =
        { mid with
          store := ((make url).run.run mid.store).2
          outlet := (Outlet.send mid.outlet (match ((make url).run.run mid.store).1 with
            | .ok stat => folderReply requestId url stat
            | .error error =>
              folderFailure requestId ⟨error.code, error.errno.description⟩)).2 } := by
  have hid := (Exchange.of_check_eq_ok hcheck).1
  rw [Exchange.process_run settings world hcheck]
  have hhandle : ((Exchange.mk requestId (.responder .addFolder)).handle settings .addFolderInitReq
      message).run world = ((((addFolder requestId message).run.run world).1,
        ⟨requestId, .responder .addFolder⟩), ((addFolder requestId message).run.run world).2) := rfl
  rw [hhandle]
  rcases hconnect : (World.connect message).run.run world with ⟨error | url, mid⟩
  · refine .inl ⟨error, mid, rfl, ?_⟩
    rw [addFolder_run_of_refused hconnect, hid]
    cases error with
    | session cause => exact absurd rfl (World.connect_error hconnect cause)
    | _ => rfl
  · refine .inr ⟨url, mid, rfl, ?_⟩
    rcases hmake : (make url).run.run mid.store with ⟨error | stat, store⟩
    · rw [addFolder_run_of_failed hconnect hmake, hid]
      rfl
    · -- a send that fails is not told
      rw [addFolder_run_of_made hconnect hmake]
      cases (Outlet.send mid.outlet (folderReply requestId url stat)).1 <;> rfl

end Single

/-- What a request asks for has been done: where its URL leads, a folder has been made, and nothing
else has changed. -/
def Message.Adds (message : Message) (store store' : Store) : Prop :=
  ∃ credentials path, message.credentials? = some credentials ∧
    store.Folder store' credentials.url path

namespace Single

variable {requestId : String} {message reply : Message} {store store' : Store}

/-- **What is told about a folder**, beside what has been done. -/
inductive FolderTold (requestId : String) (message : Message) (store store' : Store) :
    Message → Prop where
  | added {url : String} {stat : Stat} (hdirectory : stat.isDirectory = true)
      (hadds : message.Adds store store') :
      FolderTold requestId message store store' (folderReply requestId url stat)
  | refused {status : Status} (hsame : store'.fs = store.fs) :
      FolderTold requestId message store store' (folderFailure requestId status)
  /-- There is a folder, but a fault has made the look at it fail. -/
  | unseen {fault : Fault} {errno : Errno} (hadds : message.Adds store store')
      (hfault : fault ∈ store.faults) (hstat : fault.operation = .stat)
      (herrno : fault.effect.errno = some errno) :
      FolderTold requestId message store store'
        (folderFailure requestId ⟨errno.code, errno.description⟩)

theorem folderReply_ne_folderFailure {url : String} {stat : Stat} {status : Status} :
    folderReply requestId url stat ≠ folderFailure requestId status := by
  simp [folderReply, folderFailure, Message.of]

/-- **If no look is made to fail, a folder is told exactly if it has been made.** -/
theorem FolderTold.iff_adds (h : FolderTold requestId message store store' reply)
    (hspares : Fault.Spares .stat store.faults) :
    ((∃ url stat, reply = folderReply requestId url stat) ↔ message.Adds store store') ∧
      ((∃ status, reply = folderFailure requestId status) → store'.fs = store.fs) := by
  cases h with
  | added hdirectory hadds =>
    refine ⟨iff_of_true ⟨_, _, rfl⟩ hadds, ?_⟩
    rintro ⟨status, hreply⟩
    exact absurd hreply folderReply_ne_folderFailure
  | refused hsame =>
    refine ⟨iff_of_false ?_ ?_, fun _ ↦ hsame⟩
    · rintro ⟨url, stat, hreply⟩
      exact folderReply_ne_folderFailure hreply.symm
    · rintro ⟨credentials, path, -, hfolder⟩
      exact hfolder.fs_ne hsame
  | unseen _ hfault hstat herrno =>
    rw [hspares _ hfault hstat] at herrno
    cases herrno

/-- What a responder does that is asked for a folder is told, but for a look that fails. -/
theorem folderTold_of_process {ω : Type} [Outlet ω] (settings : TransferSettings)
    {world last : World ω} {handled : Handled Exchange}
    (hcheck : (Exchange.mk requestId (.responder .addFolder)).check message =
      .ok .addFolderInitReq)
    (hrun : ((Exchange.mk requestId (.responder .addFolder)).process settings message).run world =
      (handled, last)) :
    ∃ reply, last.outlet = (Outlet.send world.outlet reply).2 ∧
      FolderTold requestId message world.store last.store reply := by
  have hlast := congrArg Prod.snd hrun
  rcases process_addFolder settings world hcheck with
    ⟨error, mid, hconnect, hprocess⟩ | ⟨url, mid, hconnect, hprocess⟩
  all_goals
    obtain rfl := hprocess.symm.trans hlast
    obtain ⟨hworld, hrecords, -, hurl⟩ := World.connect_cases hconnect
    rw [← hworld.outlet]
    refine ⟨_, rfl, ?_⟩
  · exact .refused hrecords.fs
  · obtain ⟨credentials, hcredentials, rfl⟩ := hurl url rfl
    rcases hmake : (make credentials.url).run.run mid.store with ⟨result, store'⟩
    rcases make_cases hmake with ⟨⟨error, rfl⟩, hsame⟩ | ⟨path, hfolder, htold⟩
    · exact .refused (hsame.trans hrecords.fs)
    · have hadds : message.Adds world.store store' :=
        ⟨credentials, path, hcredentials, hfolder.congr hrecords ⟨rfl, rfl, rfl, rfl⟩⟩
      rcases htold with ⟨stat, rfl, hdirectory⟩ | ⟨errno, rfl, fault, hfault, hstat, herrno⟩
      · exact .added hdirectory hadds
      · obtain ⟨earlier, hearlier, hsame, heffect⟩ := World.faults_connect hconnect fault hfault
        exact .unseen hadds hearlier (hsame.trans hstat) (heffect ▸ herrno)

end Single

/-- **Making a folder is told as it was done, but for one case.** A responder that is asked for a
folder gives one answer: that there is a folder, or a failure. If it tells of a folder, the folder
was missing, is a directory now, and nothing else has changed. If it tells of a failure, nothing has
changed; or the folder was made all the same, and the look at it was made to fail with the number
that is told. So if nothing makes that look fail, a folder is told exactly if it has been made, and
nothing has changed if a failure is told: for every tree and every URL, whatever else is made to
fail. -/
theorem Exchange.folder_tells_what_was_done {ω : Type} [Outlet ω] {settings : TransferSettings}
    {requestId : String} {message : Message} {world last : World ω} {handled : Handled Exchange}
    (hcheck : (Exchange.mk requestId (.responder .addFolder)).check message =
      .ok .addFolderInitReq)
    (hrun : ((Exchange.mk requestId (.responder .addFolder)).process settings message).run world =
      (handled, last)) :
    ∃ reply, last.outlet = (Outlet.send world.outlet reply).2 ∧
      Single.FolderTold requestId message world.store last.store reply ∧
      (Fault.Spares .stat world.store.faults →
        ((∃ url stat, reply = Single.folderReply requestId url stat) ↔
          message.Adds world.store last.store) ∧
        ((∃ status, reply = Single.folderFailure requestId status) →
          last.store.fs = world.store.fs)) := by
  obtain ⟨reply, houtlet, htold⟩ := Single.folderTold_of_process settings hcheck hrun
  exact ⟨reply, houtlet, htold, htold.iff_adds⟩

namespace Single

/-- A request to make the folder `srv/share/new`. -/
def folderRequest : Message :=
  .of "1234" .addFolderInitReq (.request ⟨some ⟨"srv/share/new", "", "", "", false⟩, .none⟩)

/-- A responder on a share on which no look at the folder succeeds. -/
def blindWorld : World Channel :=
  ⟨.empty 8, .onRoot (.branch ["srv".toUTF8, "share".toUTF8]) []
    [⟨.stat, "srv/share/new", 0, none, ⟨some .ioFailure, none⟩⟩], true, [], none⟩

end Single

/-- The folder is made, the look at it is made to fail, and a failure is told. -/
theorem Exchange.folder_tells_what_was_done_unseen :
    let last := (((Exchange.mk "1234" (.responder .addFolder)).process default
      Single.folderRequest).run Single.blindWorld).2
    last.outlet = (Outlet.send Single.blindWorld.outlet (Single.folderFailure "1234"
        ⟨Errno.ioFailure.code, Errno.ioFailure.description⟩)).2 ∧
      last.store.fs.isDirectoryAt ["srv".toUTF8, "share".toUTF8, "new".toUTF8] = true ∧
      ∃ reply, last.outlet = (Outlet.send Single.blindWorld.outlet reply).2 ∧
        Single.FolderTold "1234" Single.folderRequest Single.blindWorld.store last.store reply := by
  intro last
  have hcheck : (Exchange.mk "1234" (.responder .addFolder)).check Single.folderRequest =
      .ok .addFolderInitReq := by decide +kernel
  refine ⟨?_, by decide +kernel, ?_⟩
  · let connected := Single.blindWorld.store.record ⟨.connect, "srv/share/new", .none⟩ .ok
    have hconnect : (World.connect Single.folderRequest).run.run Single.blindWorld =
        (.ok "srv/share/new", { Single.blindWorld with store := connected }) := rfl
    have hmake : ((Single.make "srv/share/new").run.run connected).1 =
        .error ⟨"stat", "srv/share/new", .ioFailure⟩ := by decide +kernel
    rcases Single.process_addFolder default Single.blindWorld hcheck with
      ⟨error, mid, hrefused, -⟩ | ⟨url, mid, hadopted, hlast⟩
    · cases hconnect.symm.trans hrefused
    · obtain ⟨hurl, rfl⟩ := Prod.mk.inj (hconnect.symm.trans hadopted)
      obtain rfl := Except.ok.inj hurl
      dsimp only at hlast
      rw [hmake] at hlast
      exact congrArg World.outlet hlast
  · have hrun : ((Exchange.mk "1234" (.responder .addFolder)).process default
        Single.folderRequest).run Single.blindWorld = (_, last) := rfl
    obtain ⟨reply, houtlet, htold, -⟩ := folder_tells_what_was_done hcheck hrun
    exact ⟨reply, houtlet, htold⟩

end FileShare
