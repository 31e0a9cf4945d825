import FileShare.Exchange.Upload
import FileShare.Proofs.Staging
import FileShare.Proofs.WorldCalls

/-!
# What the record of calls tells about temporary files

A store records every call with its answer, and never takes a record back. So two moments have a
**log** between them (`Store.Logs`), and logs of actions in a row are put one behind the other.

Of a log, three things matter here (`Ledger`): which files were created, which were renamed, and on
which an unlink was attempted. A call that failed has created and renamed nothing, but an unlink
counts as attempted whatever came of it. The ledger of a log in two parts is the sum of theirs.

Every action of a responder of an upload has an entry of its own in the ledger, and everything else
that it calls has none.
-/

namespace FileShare

/-- **The calls that have been made between two moments.** Temporary names may have been given out
as well, and are not given out again. -/
structure Store.Logs (store store' : Store) (log : List (Call × Answer)) : Prop where
  calls : store'.calls.toList = store.calls.toList ++ log
  tokens : store.tokens ≤ store'.tokens

theorem Store.Logs.refl (store : Store) : store.Logs store [] :=
  ⟨(List.append_nil _).symm, Nat.le_refl _⟩

theorem Store.Logs.trans {store store' store'' : Store} {log log' : List (Call × Answer)}
    (h : store.Logs store' log) (h' : store'.Logs store'' log') :
    store.Logs store'' (log ++ log') :=
  ⟨by rw [h'.calls, h.calls, List.append_assoc], Nat.le_trans h.tokens h'.tokens⟩

/-- A call that is recorded is all that a log gains. -/
theorem Store.logs_record (store mid : Store) (hcalls : mid.calls = store.calls)
    (htokens : mid.tokens = store.tokens) (call : Call) (answer : Answer) :
    store.Logs (mid.record call answer) [(call, answer)] := by
  refine ⟨?_, Nat.le_of_eq htokens.symm⟩
  show (mid.calls.push (call, answer)).toList = store.calls.toList ++ [(call, answer)]
  rw [hcalls, Array.toList_push]

/-! ### The ledger of a log -/

/-- What has become of files, by their URLs. -/
@[ext] structure Ledger where
  /-- Files that were created. -/
  created : List String
  /-- Files that were renamed, with what they were renamed to. -/
  renamed : List (String × String)
  /-- Files on which an unlink was attempted. -/
  unlinked : List String
  deriving DecidableEq

namespace Ledger

/-- Nothing has become of any file. -/
def empty : Ledger := ⟨[], [], []⟩

/-- One ledger behind another one. -/
def append (ledger ledger' : Ledger) : Ledger :=
  ⟨ledger.created ++ ledger'.created, ledger.renamed ++ ledger'.renamed,
    ledger.unlinked ++ ledger'.unlinked⟩

instance : Append Ledger := ⟨append⟩

@[simp] theorem append_empty (ledger : Ledger) : ledger ++ empty = ledger := by
  show append ledger empty = ledger
  simp [append, empty]

/-- What one call adds. -/
def ofCall : Call × Answer → Ledger
  | (⟨.openFile, url, .mode .create⟩, .ok) => ⟨[url], [], []⟩
  | (⟨.rename, url, .to target⟩, .ok) => ⟨[], [(url, target)], []⟩
  | (⟨.unlink, url, _⟩, _) => ⟨[], [], [url]⟩
  | _ => empty

/-- **What a log tells.** -/
def ofLog (log : List (Call × Answer)) : Ledger :=
  log.foldr (fun entry ledger ↦ ofCall entry ++ ledger) empty

theorem append_assoc (a b c : Ledger) : a ++ b ++ c = a ++ (b ++ c) := by
  show append (append a b) c = append a (append b c)
  simp [append]

theorem ofLog_append (log log' : List (Call × Answer)) :
    ofLog (log ++ log') = ofLog log ++ ofLog log' := by
  induction log with
  | nil => rfl
  | cons entry log ih =>
    show ofCall entry ++ ofLog (log ++ log') = ofCall entry ++ ofLog log ++ ofLog log'
    rw [ih, append_assoc]

@[simp] theorem ofLog_singleton (entry : Call × Answer) : ofLog [entry] = ofCall entry :=
  append_empty _

end Ledger

/-- Two moments with calls between them that a ledger tells of. -/
def Store.Tells (store store' : Store) (ledger : Ledger) : Prop :=
  ∃ log, store.Logs store' log ∧ Ledger.ofLog log = ledger

namespace Store.Tells

variable {store store' store'' : Store} {ledger ledger' : Ledger}

theorem refl (store : Store) : store.Tells store .empty := ⟨[], .refl store, rfl⟩

theorem trans (h : store.Tells store' ledger) (h' : store'.Tells store'' ledger') :
    store.Tells store'' (ledger ++ ledger') := by
  obtain ⟨log, hlog, rfl⟩ := h
  obtain ⟨log', hlog', rfl⟩ := h'
  exact ⟨log ++ log', hlog.trans hlog', Ledger.ofLog_append log log'⟩

theorem ofCall {entry : Call × Answer} (h : store.Logs store' [entry]) :
    store.Tells store' (.ofCall entry) :=
  ⟨[entry], h, Ledger.ofLog_singleton entry⟩

end Store.Tells

namespace Share

variable {α : Type} {store store' : Store}

/-- What is recorded of a call: its answer if it succeeded, and why if it failed. -/
def Records (answer : α → Answer) (result : Except ShareError α) (recorded : Answer) : Prop :=
  match result with
  | .ok a => recorded = answer a
  | .error _ => ∃ errno, recorded = .failed errno

/-- **Every call is recorded once.** -/
theorem attempt_logs {call : Call} {answer : α → Answer}
    {body : Option Nat → Store → Except ShareError α × Store} {result : Except ShareError α}
    (hbody : ∀ limit store, (body limit store).2.calls = store.calls ∧
      (body limit store).2.tokens = store.tokens)
    (h : (attempt call answer body).run.run store = (result, store')) :
    ∃ recorded, Records answer result recorded ∧ store.Logs store' [(call, recorded)] := by
  unfold attempt at h
  simp only [ExceptT.run_mk, StateT.run] at h
  split at h
  · rename_i errno _
    obtain ⟨rfl, rfl⟩ := Prod.mk.inj h
    exact ⟨.failed errno, ⟨errno, rfl⟩,
      store.logs_record { store with faults := (Fault.disturb call store.faults).2 } rfl rfl _ _⟩
  · have hkeeps := hbody ((Fault.disturb call store.faults).1.bind (·.limit))
      { store with faults := (Fault.disturb call store.faults).2 }
    split at h
    all_goals
      rename_i hrun
      rw [hrun] at hkeeps
      obtain ⟨rfl, rfl⟩ := Prod.mk.inj h
    · exact ⟨_, rfl, store.logs_record _ hkeeps.1 hkeeps.2 _ _⟩
    · exact ⟨_, ⟨_, rfl⟩, store.logs_record _ hkeeps.1 hkeeps.2 _ _⟩

theorem inspect_logs {call : Call} {answer : α → Answer} {look : Store → Except Errno α}
    {result : Except ShareError α}
    (h : (inspect call answer look).run.run store = (result, store')) :
    ∃ recorded, Records answer result recorded ∧ store.Logs store' [(call, recorded)] :=
  attempt_logs (fun _ _ ↦ ⟨rfl, rfl⟩) h

theorem change_logs {call : Call} {act : Store → Except Errno FileSystem}
    {result : Except ShareError Unit}
    (h : (change call act).run.run store = (result, store')) :
    ∃ recorded, Records (fun _ ↦ .ok) result recorded ∧ store.Logs store' [(call, recorded)] := by
  refine attempt_logs (fun limit mid ↦ ?_) h
  split <;> exact ⟨rfl, rfl⟩

theorem onFile_logs {operation : Operation} {argument : Argument} {id : FileId}
    {answer : α → Answer} {body : OpenFile → Option Nat → Store → Except Errno α × Store}
    {result : Except ShareError α}
    (hbody : ∀ file limit store, (body file limit store).2.calls = store.calls ∧
      (body file limit store).2.tokens = store.tokens)
    (h : (onFile operation argument id answer body).run.run store = (result, store')) :
    ∃ recorded, Records answer result recorded ∧
      store.Logs store' [(⟨operation, (fileOf store id).url, argument⟩, recorded)] := by
  rw [onFile_run] at h
  refine attempt_logs (fun limit mid ↦ ?_) h
  split
  · exact hbody _ _ _
  · exact ⟨rfl, rfl⟩

/-! ### What each call adds to the ledger -/

variable {url : String}

theorem connect_tells {credentials : Credentials} {result : Except ShareError Unit}
    (h : (connect credentials).run.run store = (result, store')) : store.Tells store' .empty := by
  obtain ⟨recorded, -, hlogs⟩ := inspect_logs h
  exact .ofCall hlogs

theorem makeDirectory_tells {result : Except ShareError Unit}
    (h : (makeDirectory url).run.run store = (result, store')) : store.Tells store' .empty := by
  obtain ⟨recorded, -, hlogs⟩ := change_logs h
  exact .ofCall hlogs

/-- **An unlink counts as attempted**, whatever came of it. -/
theorem unlink_tells {result : Except ShareError Unit}
    (h : (unlink url).run.run store = (result, store')) :
    store.Tells store' ⟨[], [], [url]⟩ := by
  obtain ⟨recorded, -, hlogs⟩ := change_logs h
  exact .ofCall hlogs

theorem write_tells {id : FileId} {data : ByteArray} {result : Except ShareError Nat}
    (h : (write id data).run.run store = (result, store')) : store.Tells store' .empty := by
  unfold write at h
  obtain ⟨recorded, -, hlogs⟩ := onFile_logs
    (fun file limit mid ↦ by dsimp only; split <;> exact ⟨rfl, rfl⟩) h
  exact .ofCall hlogs

theorem close_tells {id : FileId} {result : Except ShareError Unit}
    (h : (close id).run.run store = (result, store')) : store.Tells store' .empty := by
  unfold close at h
  obtain ⟨recorded, -, hlogs⟩ := onFile_logs (fun _ _ _ ↦ ⟨rfl, rfl⟩) h
  exact .ofCall hlogs

/-- **A file has been renamed** if the call succeeded. -/
theorem rename_tells {target : String} {result : Except ShareError Unit}
    (h : (rename url target).run.run store = (result, store')) :
    result = .ok () ∧ store.Tells store' ⟨[], [(url, target)], []⟩ ∨
      (∃ error, result = .error error) ∧ store.Tells store' .empty := by
  unfold rename at h
  obtain ⟨recorded, hrecorded, hlogs⟩ :=
    attempt_logs (fun limit mid ↦ by dsimp only; split <;> exact ⟨rfl, rfl⟩) h
  cases result with
  | ok _ =>
    obtain rfl : recorded = .ok := hrecorded
    exact .inl ⟨rfl, .ofCall hlogs⟩
  | error error =>
    obtain ⟨errno, rfl⟩ : ∃ errno, recorded = .failed errno := hrecorded
    exact .inr ⟨⟨error, rfl⟩, .ofCall hlogs⟩

/-- **A file has been created** if the call succeeded. -/
theorem openFile_create_tells {result : Except ShareError FileId}
    (h : (openFile url .create).run.run store = (result, store')) :
    (∃ id, result = .ok id) ∧ store.Tells store' ⟨[url], [], []⟩ ∨
      (∃ error, result = .error error) ∧ store.Tells store' .empty := by
  unfold openFile at h
  obtain ⟨recorded, hrecorded, hlogs⟩ :=
    attempt_logs (fun limit mid ↦ by dsimp only; split <;> exact ⟨rfl, rfl⟩) h
  cases result with
  | ok id =>
    obtain rfl : recorded = .ok := hrecorded
    exact .inl ⟨⟨id, rfl⟩, .ofCall hlogs⟩
  | error error =>
    obtain ⟨errno, rfl⟩ : ∃ errno, recorded = .failed errno := hrecorded
    exact .inr ⟨⟨error, rfl⟩, .ofCall hlogs⟩

theorem makeBranch_tells {result : Except ShareError Unit}
    (h : (makeBranch url).run.run store = (result, store')) : store.Tells store' .empty :=
  makeBranch_rel (fun h h' ↦ h.trans h') makeDirectory_tells h

end Share

/-! ### What a responder of an upload adds -/

namespace Receiving

variable {store store' : Store} {receiving : Receiving}

theorem writeAll_tells {id : FileId} (bound : Nat) {data : ByteArray}
    {result : Except ShareError Unit}
    (h : (receiving.writeAll id bound data).run.run store = (result, store')) :
    store.Tells store' .empty := by
  induction bound generalizing data store with
  | zero =>
    obtain ⟨-, rfl⟩ := Prod.mk.inj h
    exact .refl _
  | succ bound ih =>
    rw [writeAll] at h
    split at h
    · rcases bind_cases h with ⟨error, hwrite, -⟩ | ⟨count, mid, hwrite, hrest⟩
      · exact Share.write_tells hwrite
      · dsimp only at hrest
        split at hrest
        · obtain ⟨-, rfl⟩ := Prod.mk.inj hrest
          exact Share.write_tells hwrite
        · exact (Share.write_tells hwrite).trans (ih hrest)
    · obtain ⟨-, rfl⟩ := Prod.mk.inj h
      exact .refl _

theorem write_tells {data : ByteArray} {action : ShareM Unit} {result : Except ShareError Unit}
    (haction : receiving.write data = .ok action)
    (h : action.run.run store = (result, store')) : store.Tells store' .empty := by
  unfold write at haction
  split at haction
  · obtain rfl := Except.ok.inj haction
    exact writeAll_tells _ h
  · cases haction

/-- **A commit renames the temporary file to its target**, or no file at all. -/
theorem commit_tells {result : Except ShareError Unit}
    (h : receiving.commit.run.run store = (result, store')) :
    result = .ok () ∧ store.Tells store' ⟨[], [(receiving.temporary, receiving.target)], []⟩ ∨
      (∃ error, result = .error error) ∧ store.Tells store' .empty := by
  unfold commit at h
  cases hfile : receiving.file with
  | none =>
    rw [hfile] at h
    exact Share.rename_tells h
  | some id =>
    rw [hfile] at h
    rcases bind_cases h with ⟨error, hclose, rfl⟩ | ⟨_, mid, hclose, hrename⟩
    · exact .inr ⟨⟨error, rfl⟩, Share.close_tells hclose⟩
    · have hclosed := Share.close_tells hclose
      rcases Share.rename_tells hrename with ⟨rfl, hrenamed⟩ | ⟨hfailed, hnone⟩
      · exact .inl ⟨rfl, hclosed.trans hrenamed⟩
      · exact .inr ⟨hfailed, hclosed.trans hnone⟩

/-- **To discard an upload attempts one unlink**, on the temporary file. -/
theorem discard_tells (h : receiving.discard.run store = ((), store')) :
    store.Tells store' ⟨[], [], [receiving.temporary]⟩ := by
  unfold discard at h
  cases hfile : receiving.file with
  | none =>
    rw [hfile] at h
    obtain ⟨-, rfl⟩ := Prod.mk.inj h
    exact Share.unlink_tells rfl
  | some id =>
    rw [hfile] at h
    obtain ⟨-, rfl⟩ := Prod.mk.inj h
    exact (Share.close_tells rfl).trans (Share.unlink_tells rfl)

end Receiving

theorem World.connect_tells {ω : Type} [Outlet ω] {world world' : World ω} {message : Message}
    {result : Except ExchangeError String}
    (h : (World.connect message).run.run world = (result, world')) :
    world.store.Tells world'.store .empty := by
  unfold World.connect at h
  split at h
  · obtain ⟨-, rfl⟩ := Prod.mk.inj h
    exact .refl _
  split at h
  · obtain ⟨-, rfl⟩ := Prod.mk.inj h
    exact .refl _
  rename_i credentials _
  rw [bind_get_run] at h
  split at h
  · rcases bind_cases h with ⟨error, hshare, -⟩ | ⟨_, mid, hshare, h⟩
    · obtain ⟨answer, hrun, -⟩ := World.share_cases hshare
      exact Share.connect_tells hrun
    · obtain ⟨answer, hrun, -⟩ := World.share_cases hshare
      obtain ⟨-, rfl⟩ := Prod.mk.inj h
      exact Share.connect_tells hrun
  · obtain ⟨-, rfl⟩ := Prod.mk.inj h
    exact .refl _

/-- A file is opened for writing under the next number, if it is opened. -/
theorem Share.openFile_create_files {store store' : Store} {url : String}
    {result : Except ShareError FileId}
    (h : (Share.openFile url .create).run.run store = (result, store')) :
    store'.tokens = store.tokens ∧
      ((∃ error, result = .error error) ∧ store'.files = store.files ∨
        ∃ name content, result = .ok ⟨store.files.size⟩ ∧
          store'.files = store.files.push ⟨url, name, content, .create, 0, true⟩) := by
  rcases Share.openFile_create_cases h with ⟨hfailed, hrecords⟩ |
    ⟨steps, fs, content, name, -, -, rfl, hrecords⟩
  · exact ⟨hrecords.tokens, .inl ⟨hfailed, hrecords.files⟩⟩
  · exact ⟨hrecords.tokens, .inr ⟨name, content, rfl, hrecords.files⟩⟩

/-- **To open an upload creates its temporary file**, under a name of its own and with a handle of
its own, for the target that the message names. If it fails, no file is created. -/
theorem Receiver.openTemporary_tells {ω : Type} [Outlet ω] {world world' : World ω}
    {message : Message} {result : Except ExchangeError Receiving}
    (h : (openTemporary message).run.run world = (result, world')) :
    (∃ error, result = .error error) ∧ world.store.Tells world'.store .empty ∧
        world'.store.files = world.store.files ∨
      ∃ credentials parent name content, let file : OpenFile :=
          ⟨Url.join parent (temporaryName world.store.tokens), name, content, .create, 0, true⟩
        message.credentials? = some credentials ∧
        result = .ok ⟨credentials.url, file.url, some ⟨world.store.files.size⟩⟩ ∧
        world.store.Tells world'.store ⟨[file.url], [], []⟩ ∧
        world'.store.files = world.store.files.push file ∧
        world'.store.tokens = world.store.tokens + 1 := by
  unfold openTemporary at h
  rcases bind_cases h with ⟨error, hconnect, rfl⟩ | ⟨url, first, hconnect, h⟩
  · obtain ⟨-, hrecords, -⟩ := World.connect_cases hconnect
    exact .inl ⟨⟨_, rfl⟩, World.connect_tells hconnect, hrecords.files⟩
  obtain ⟨-, hrecords, -, hurl⟩ := World.connect_cases hconnect
  obtain ⟨credentials, hcredentials, rfl⟩ := hurl _ rfl
  have hconnected := World.connect_tells hconnect
  split at h
  · obtain ⟨rfl, rfl⟩ := Prod.mk.inj h
    exact .inl ⟨⟨_, rfl⟩, hconnected, hrecords.files⟩
  rename_i parent hparent
  rw [bind_lift_run, bind_get_run, bind_modify_run] at h
  rcases hbranch : (Share.makeBranch parent).run.run first.store with ⟨made, second⟩
  have hgrown : first.store.Grown second := Share.grown_makeBranch parent hbranch
  rw [World.tolerate_run hbranch] at h
  dsimp only at h
  have htokens : second.tokens = world.store.tokens := hgrown.tokens.trans hrecords.tokens
  have hfiles : second.files = world.store.files := hgrown.files.trans hrecords.files
  rw [htokens] at h
  have hmade : world.store.Tells { second with tokens := world.store.tokens + 1 } .empty := by
    obtain ⟨log, hlog, hledger⟩ := hconnected.trans (Share.makeBranch_tells hbranch)
    exact ⟨log, ⟨hlog.calls, Nat.le_succ _⟩, hledger⟩
  rcases hopened : (Share.openFile (Url.join parent (temporaryName world.store.tokens))
    .create).run.run { second with tokens := world.store.tokens + 1 } with ⟨answer, last⟩
  have hcreated := Share.openFile_create_tells hopened
  obtain ⟨hnext, hopen⟩ := Share.openFile_create_files hopened
  rcases bind_cases h with ⟨error, hrun, rfl⟩ | ⟨id, mid, hrun, h⟩
  all_goals
    rw [World.share_run, hopened] at hrun
    obtain ⟨hanswer, rfl⟩ := Prod.mk.inj hrun
  · rcases hopen with ⟨-, hsame⟩ | ⟨name, content, rfl, -⟩
    · rcases hcreated with ⟨⟨id, rfl⟩, -⟩ | ⟨-, hnone⟩
      · cases hanswer
      · exact .inl ⟨⟨_, rfl⟩, hmade.trans hnone, hsame.trans hfiles⟩
    · cases hanswer
  · obtain ⟨rfl, rfl⟩ := Prod.mk.inj h
    rcases hopen with ⟨⟨error, rfl⟩, -⟩ | ⟨name, content, rfl, hpushed⟩
    · cases hanswer
    · obtain rfl := Except.ok.inj hanswer
      rcases hcreated with ⟨-, hfile⟩ | ⟨⟨error, hfailed⟩, -⟩
      · refine .inr ⟨credentials, parent, name, content, hcredentials, ?_, hmade.trans hfile, ?_,
          hnext⟩
        · rw [← hfiles]
        · rw [← hfiles]
          exact hpushed
      · cases hfailed

/-! ### Handles that stay open -/

namespace Share

variable {store store' : Store} {id other : FileId}

/-- Every handle that was open still is. -/
def KeepsOpen (store store' : Store) : Prop :=
  ∀ id : FileId, (fileOf store id).isOpen = true → (fileOf store' id).isOpen = true

theorem keepsOpen_of_files (h : store'.files = store.files) : KeepsOpen store store' := by
  intro id hopen
  unfold fileOf at hopen ⊢
  rwa [h]

theorem index_lt_of_isOpen (h : (fileOf store id).isOpen = true) :
    id.index < store.files.size := by
  by_contra hge
  unfold fileOf at h
  rw [Array.getElem?_eq_none (Nat.not_lt.1 hge)] at h
  cases h

/-- A record that is replaced by one that is as open as it was. -/
theorem keepsOpen_setFile {file : OpenFile} (h : file.isOpen = (fileOf store id).isOpen) :
    KeepsOpen store (setFile store id file) := by
  intro other hopen
  by_cases heq : other = id
  · subst heq
    have hlt := index_lt_of_isOpen hopen
    rw [fileOf_of_set hlt rfl, h]
    exact hopen
  · rwa [fileOf_setFile_of_ne heq]

theorem keepsOpen_write {data : ByteArray} {result : Except ShareError Nat}
    (h : (write id data).run.run store = (result, store')) : KeepsOpen store store' := by
  rcases onFile_cases h with ⟨-, hrecords⟩ | ⟨limit, faults, value, mid, -, hbody, -, hrecords⟩
  · exact keepsOpen_of_files hrecords.files
  · have hmid : KeepsOpen store mid := by
      dsimp only at hbody
      split at hbody
      · obtain ⟨-, rfl⟩ := Prod.mk.inj hbody
        exact keepsOpen_setFile rfl
      · obtain ⟨-, rfl⟩ := Prod.mk.inj hbody
        exact keepsOpen_of_files rfl
    exact fun other hopen ↦ keepsOpen_of_files hrecords.files other (hmid other hopen)

end Share

theorem Receiving.keepsOpen_writeAll {store store' : Store} {receiving : Receiving} {id : FileId}
    (bound : Nat) {data : ByteArray} {result : Except ShareError Unit}
    (h : (receiving.writeAll id bound data).run.run store = (result, store')) :
    Share.KeepsOpen store store' := by
  induction bound generalizing data store with
  | zero =>
    obtain ⟨-, rfl⟩ := Prod.mk.inj h
    exact fun _ hopen ↦ hopen
  | succ bound ih =>
    rw [writeAll] at h
    split at h
    · rcases bind_cases h with ⟨error, hwrite, -⟩ | ⟨count, mid, hwrite, hrest⟩
      · exact Share.keepsOpen_write hwrite
      · have hfirst := Share.keepsOpen_write hwrite
        dsimp only at hrest
        split at hrest
        · obtain ⟨-, rfl⟩ := Prod.mk.inj hrest
          exact hfirst
        · exact fun other hopen ↦ ih hrest other (hfirst other hopen)
    · obtain ⟨-, rfl⟩ := Prod.mk.inj h
      exact fun _ hopen ↦ hopen

/-- To discard an upload gives up no handle but its own. -/
theorem Receiving.isOpen_discard {store store' : Store} {receiving : Receiving} {other : FileId}
    (hne : receiving.file ≠ some other) (hopen : (Share.fileOf store other).isOpen = true)
    (h : receiving.discard.run store = ((), store')) :
    (Share.fileOf store' other).isOpen = true := by
  obtain ⟨-, -, hothers, -⟩ := discard_cases h
  rwa [hothers other hne]

end FileShare
