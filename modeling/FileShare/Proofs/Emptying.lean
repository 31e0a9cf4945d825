import FileShare.Proofs.EntryNames
import FileShare.Proofs.Ledger

/-!
# Emptying a directory of a share

`Share.clear` empties a directory: entry by entry, and each directory among them before it is
removed. Nothing that fails on the way keeps it from going on. `Share.Empties` has a rule for each
thing that may come of an entry, with no bound on the depth, so that a derivation is a recursion
that has come to its end. **There is one for every directory that has been opened**
(`Share.clear_empties`): whatever its URL is, whatever bytes the names below it are, wherever links
are, and whatever fails. It is not the directories that bound the recursion, as it may come to one
of them by any number of URLs: what is bounded is how often a name can be joined to a URL
(`Url.slashes_join_lt`).

The calls are made with URLs, and a URL is looked up anew each time. `Store.Stood` says what a URL
stood for when its directory was opened; since then the file system has only shrunk, so the URL
leads there still, or nowhere.

What has been done at the end is told by `Store.Prunes`, which can be put one behind the other: the
calls that were made, each on a name below, and the entries that are gone, each of them below as
well. `Empties.prunes` is the step from one directory to all that is below it, and `Empties.gone`
says that nothing is left if nothing fails and all paths are short enough to be asked for.
-/

namespace FileShare

/-! ### Calls that take something away -/

/-- Whether a call takes something away, if it succeeds. -/
def Operation.isDisposal : Operation → Bool
  | removeDirectory | unlink => true
  | _ => false

/-- How it stands in the record that a call without an answer of its own was done, or why not. -/
def Answer.ofOutcome : Except Errno Unit → Answer
  | .ok () => ok
  | .error errno => failed errno

namespace Store

variable {store store' : Store} {url : String}

/-- What a URL stands for on a store: names that a file can have, on a path that is short enough. -/
theorem steps?_eq_ok {steps : List Step} : store.steps? url = .ok steps ↔
    ∃ names, Url.names? url = .ok names ∧ (∀ name ∈ names, name.data.contains 0 = false) ∧
      spelledSize (store.root ++ names) ≤ maxRouteSize ∧ steps = names.map Step.name := by
  unfold steps?
  rw [FileSystem.bind_eq_ok]
  refine exists_congr fun names ↦ and_congr_right fun _ ↦ ?_
  by_cases hzero : (names.any fun name ↦ name.data.contains 0) = true
  · rw [if_pos hzero]
    obtain ⟨name, hmem, hname⟩ := List.any_eq_true.1 hzero
    refine iff_of_false nofun fun ⟨hnames, _⟩ ↦ ?_
    rw [hnames name hmem] at hname
    cases hname
  · rw [if_neg hzero]
    have hnames : ∀ name ∈ names, name.data.contains 0 = false := by simpa using hzero
    by_cases hsize : spelledSize (store.root ++ names) > maxRouteSize
    · rw [if_pos hsize]
      exact iff_of_false nofun fun ⟨_, hle, _⟩ ↦ Nat.not_lt.2 hle hsize
    · rw [if_neg hsize]
      refine ⟨fun h ↦ ⟨hnames, Nat.le_of_not_lt hsize, (Except.ok.inj h).symm⟩, ?_⟩
      rintro ⟨-, -, rfl⟩
      rfl

/-- A path takes more bytes to spell than it has names. -/
theorem length_le_spelledSize (path : Path) : path.length ≤ spelledSize path := by
  induction path using List.reverseRecOn with
  | nil => exact Nat.le_refl 0
  | append_singleton front name ih =>
    unfold spelledSize at ih ⊢
    rw [List.foldl_append, List.length_append, List.foldl_cons, List.foldl_nil,
      List.length_singleton]
    omega

theorem steps?_map_eq_ok {names : List Name} : store.steps? url = .ok (names.map .name) ↔
    Url.names? url = .ok names ∧ (∀ name ∈ names, name.data.contains 0 = false) ∧
      spelledSize (store.root ++ names) ≤ maxRouteSize := by
  rw [steps?_eq_ok]
  constructor
  · rintro ⟨names', hnames, hclean, hsize, hmap⟩
    have hinjective : Function.Injective Step.name := fun _ _ h ↦ Step.name.inj h
    obtain rfl := List.map_injective_iff.2 hinjective hmap
    exact ⟨hnames, hclean, hsize⟩
  · rintro ⟨hnames, hclean, hsize⟩
    exact ⟨names, hnames, hclean, hsize, rfl⟩

end Store

namespace Share

variable {α : Type} {store store' : Store} {url : String}

/-- Without faults, a call comes to what its body comes to. -/
theorem attempt_of_faultless {call : Call} {answer : α → Answer}
    {body : Option Nat → Store → Except ShareError α × Store} {result : Except ShareError α}
    (hfaults : store.faults = []) (h : (attempt call answer body).run.run store = (result, store')) :
    ∃ mid recorded, body none store = (result, mid) ∧ store' = mid.record call recorded := by
  unfold attempt at h
  simp only [ExceptT.run_mk, StateT.run, hfaults, Fault.disturb_nil, Option.bind_none] at h
  have hsame : { store with faults := [] } = store := by
    cases store
    cases hfaults
    rfl
  rw [hsame] at h
  split at h
  all_goals
    rename_i hbody
    obtain ⟨rfl, rfl⟩ := Prod.mk.inj h
    exact ⟨_, _, hbody, rfl⟩

/-- Without faults, a call that looks tells what there is to see. -/
theorem inspect_of_faultless {call : Call} {answer : α → Answer} {look : Store → Except Errno α}
    {result : Except ShareError α} (hfaults : store.faults = [])
    (h : (inspect call answer look).run.run store = (result, store')) :
    store'.faults = [] ∧ result = (look store).mapError (failure call) := by
  obtain ⟨mid, recorded, hbody, rfl⟩ := attempt_of_faultless hfaults h
  obtain ⟨rfl, rfl⟩ := Prod.mk.inj hbody
  exact ⟨hfaults, rfl⟩

/-- What is seen is on the share. -/
theorem look_of_inspect {call : Call} {answer : α → Answer} {look : Store → Except Errno α} {a : α}
    (h : (inspect call answer look).run.run store = (.ok a, store')) :
    ∃ faults, look { store with faults } = .ok a := by
  rcases attempt_cases h with ⟨⟨error, herror⟩, -⟩ | ⟨_, faults, mid, -, hbody, -⟩
  · cases herror
  · exact ⟨faults, of_mapError_eq_ok (Prod.mk.inj hbody).1⟩

/-- Without faults, a call that changes the file system fails only for a reason of that. -/
theorem change_of_faultless {call : Call} {act : Store → Except Errno FileSystem}
    {result : Except ShareError Unit} (hfaults : store.faults = [])
    (h : (change call act).run.run store = (result, store')) :
    store'.faults = [] ∧ ∀ fs, act store = .ok fs → result = .ok () := by
  obtain ⟨mid, recorded, hbody, rfl⟩ := attempt_of_faultless hfaults h
  split at hbody
  · rename_i fs hact
    obtain ⟨rfl, rfl⟩ := Prod.mk.inj hbody
    exact ⟨hfaults, fun _ _ ↦ rfl⟩
  · rename_i errno hact
    obtain ⟨rfl, rfl⟩ := Prod.mk.inj hbody
    exact ⟨hfaults, fun fs hok ↦ by rw [hact] at hok; cases hok⟩

/-- **A call that changes the file system is recorded with its outcome.** -/
theorem change_told {call : Call} {act : Store → Except Errno FileSystem}
    {result : Except ShareError Unit} (h : (change call act).run.run store = (result, store')) :
    store.Logs store' [(call, .ofOutcome (result.mapError (·.errno)))] := by
  unfold change attempt at h
  simp only [ExceptT.run_mk, StateT.run] at h
  split at h
  · obtain ⟨rfl, rfl⟩ := Prod.mk.inj h
    exact store.logs_record { store with faults := (Fault.disturb call store.faults).2 } rfl rfl _ _
  · cases hact : act { store with faults := (Fault.disturb call store.faults).2 } with
    | ok fs =>
      rw [hact] at h
      obtain ⟨rfl, rfl⟩ := Prod.mk.inj h
      exact store.logs_record { store with fs, faults := (Fault.disturb call store.faults).2 }
        rfl rfl _ _
    | error errno =>
      rw [hact] at h
      obtain ⟨rfl, rfl⟩ := Prod.mk.inj h
      exact store.logs_record { store with faults := (Fault.disturb call store.faults).2 }
        rfl rfl _ _

/-- Take away what a URL addresses: a directory without entries, or what is no directory. -/
def dispose (isDirectory : Bool) (url : String) : ShareM Unit :=
  if isDirectory then removeDirectory url else unlink url

/-- The call that takes away what a URL addresses. -/
def disposal (isDirectory : Bool) (url : String) : Call :=
  ⟨if isDirectory then .removeDirectory else .unlink, url, .none⟩

theorem dispose_eq_change (isDirectory : Bool) (url : String) :
    dispose isDirectory url = change (disposal isDirectory url) fun store ↦
      store.steps? url >>= store.fs.dispose isDirectory store.root := by
  cases isDirectory <;> rfl

/-- **What a URL addresses is taken away, or nothing has happened**; either is recorded. -/
theorem dispose_cases {isDirectory : Bool} {result : Except ShareError Unit}
    (hformed : store.fs.WellFormed)
    (h : (dispose isDirectory url).run.run store = (result, store')) :
    store'.root = store.root ∧
      store.Logs store' [(disposal isDirectory url, .ofOutcome (result.mapError (·.errno)))] ∧
      (store.faults = [] → store'.faults = []) ∧
      ((∃ error, result = .error error) ∧ store'.fs = store.fs ∨
        result = .ok () ∧ ∃ names path, Url.names? url = .ok names ∧
          Store.spelledSize (store.root ++ names) ≤ maxRouteSize ∧
          store.fs.place false store.root (names.map .name) = .ok path ∧
          store.fs.isDirectoryAt path = isDirectory ∧ store.fs.Drops store'.fs path) := by
  rw [dispose_eq_change] at h
  have hfaults : store.faults = [] → store'.faults = [] :=
    fun hfaults ↦ (change_of_faultless hfaults h).1
  rcases change_cases h with ⟨hfailed, hrecords⟩ | ⟨faults, fs, hact, hresult, hrecords⟩
  · exact ⟨hrecords.root, change_told h, hfaults, .inl ⟨hfailed, hrecords.fs⟩⟩
  · obtain ⟨steps, hsteps, hdone⟩ := FileSystem.bind_eq_ok.1 hact
    obtain ⟨name, hname⟩ := Store.exists_getLast?_steps? hsteps
    obtain ⟨names, hnames, -, hsize, rfl⟩ := Store.steps?_eq_ok.1 hsteps
    obtain ⟨path, hplace, hkind, hdrops⟩ := FileSystem.dispose_drops hformed hname hdone
    exact ⟨hrecords.root, change_told h, hfaults,
      .inr ⟨hresult, names, path, hnames, hsize, hplace, hkind, hrecords.fs ▸ hdrops⟩⟩

/-- Without faults, what a URL addresses is taken away if it has no entries. -/
theorem dispose_of_faultless {result : Except ShareError Unit} {names : List Name} {path : Path}
    (hfaults : store.faults = []) (hsteps : store.steps? url = .ok (names.map .name))
    (hplace : store.fs.place false store.root (names.map .name) = .ok path)
    (hthere : store.fs.kind? path ≠ none) (hnil : path ≠ [])
    (hempty : store.fs.isDirectoryAt path = true → store.fs.children path = [])
    (h : (dispose (store.fs.isDirectoryAt path) url).run.run store = (result, store')) :
    result = .ok () := by
  obtain ⟨fs, hdone⟩ := FileSystem.dispose_eq_ok hplace hthere hnil hempty
  rw [dispose_eq_change] at h
  exact (change_of_faultless hfaults h).2 fs (FileSystem.bind_eq_ok.2 ⟨_, hsteps, hdone⟩)

end Share

/-! ### The entries of a directory -/

/-- An entry tells of a node: of its name, and of whether it is a directory. -/
structure Entry.IsAt (fs : FileSystem) (path : Path) (entry : Entry) : Prop where
  there : fs.kind? (path ++ [entry.name.toUTF8]) ≠ none
  kind : (entry.stat.isDirectory && !entry.stat.isLink) =
    fs.isDirectoryAt (path ++ [entry.name.toUTF8])

theorem Entry.IsAt.isText {fs : FileSystem} {path : Path} {entry : Entry} (h : entry.IsAt fs path)
    (htree : fs.IsTree) : entry.name ≠ "" ∧ entry.name ≠ "." ∧ entry.name ≠ ".." ∧
      '/' ∉ entry.name.toList ∧ entry.name.toUTF8.data.contains 0 = false := by
  obtain ⟨text, htext, hne, hhere, habove, hslash, hzero, -⟩ := htree.text _ _ h.there
  obtain rfl := String.toByteArray_inj.1 htext
  exact ⟨hne, hhere, habove, hslash, hzero⟩

/-- What is told about a node of a tree tells of it. -/
theorem Entry.isAt_of_node? {fs : FileSystem} {path : Path} {name : Name} {node : Node}
    (htree : fs.IsTree) (h : fs.node? (path ++ [name]) = some node) :
    (⟨lossyText name, .ofNodeInfo name (fs.infoOf node)⟩ : Entry).IsAt fs path := by
  have hthere : fs.kind? (path ++ [name]) ≠ none := mt FileSystem.kind?_eq_none.1 (by simp [h])
  obtain ⟨text, rfl, hlossy⟩ := (htree.text _ _ hthere).exists_text
  rw [hlossy]
  refine ⟨hthere, ?_⟩
  unfold FileSystem.isDirectoryAt
  rw [h]
  cases node <;> rfl

/-- What is told about the node of a name when a directory is listed. -/
def Entry.ofNode (fs : FileSystem) (name : Name) (node : Node) : Entry :=
  ⟨lossyText name, .ofNodeInfo name (fs.infoOf node)⟩

/-- An entry of a listing tells of a node. -/
def Entry.IsListed (fs : FileSystem) (path : Path) (entry : Entry) : Prop :=
  ∃ name node, fs.node? (path ++ [name]) = some node ∧ entry = .ofNode fs name node

/-- The text of an entry can be joined to the URL of its directory. -/
theorem Entry.IsListed.isEntryName {fs : FileSystem} {path : Path} {entry : Entry}
    (h : entry.IsListed fs path) (hhosted : fs.IsHosted)
    (hdots : ¬ (entry.name = "." ∨ entry.name = "..")) : Url.IsEntryName entry.name := by
  obtain ⟨name, node, hnode, rfl⟩ := h
  have hthere : fs.kind? (path ++ [name]) ≠ none := mt FileSystem.kind?_eq_none.1 (by simp [hnode])
  exact (hhosted.proper path name hthere).isEntryName hdots

/-- **A directory that is opened lists the nodes one below it**, each under the text of its name. -/
theorem Share.openDirectory_entries {store store' : Store} {url : String} {directory : Directory}
    (hkeys : (store.fs.nodes.map Prod.fst).Nodup)
    (h : (openDirectory url).run.run store = (.ok directory, store')) :
    ∃ (names : List Name) (path : Path), store.steps? url = .ok (names.map .name) ∧
      store.fs.place true store.root (names.map .name) = .ok path ∧
      store.fs.isDirectoryAt path = true ∧
      ∀ entry, entry ∈ directory.entries ↔ entry.IsListed store.fs path := by
  obtain ⟨faults, hlook⟩ := look_of_inspect h
  obtain ⟨steps, hsteps, hlook⟩ := FileSystem.bind_eq_ok.1 hlook
  obtain ⟨children, hlist, hdirectory⟩ := FileSystem.bind_eq_ok.1 hlook
  obtain rfl := Except.ok.inj hdirectory
  obtain ⟨names, -, -, -, rfl⟩ := Store.steps?_eq_ok.1 hsteps
  obtain ⟨⟨path, node⟩, hfind, hlist⟩ := FileSystem.bind_eq_ok.1 hlist
  obtain ⟨hplace, hnode⟩ := FileSystem.find_eq_ok.1 hfind
  cases node with
  | file | link | socket => cases hlist
  | directory time =>
  obtain rfl := Except.ok.inj hlist
  refine ⟨names, path, hsteps, hplace, FileSystem.isDirectoryAt_of_node? hnode, fun entry ↦ ?_⟩
  constructor
  · intro hentry
    obtain ⟨⟨listed, info⟩, hsorted, rfl⟩ := List.mem_map.1 hentry
    obtain ⟨⟨name, child⟩, hchild, heq⟩ := List.mem_map.1 (List.mem_mergeSort.1 hsorted)
    obtain ⟨rfl, rfl⟩ := Prod.mk.inj heq
    exact ⟨name, child, (FileSystem.mem_children_iff hkeys).1 hchild, rfl⟩
  · rintro ⟨name, child, hat, rfl⟩
    exact List.mem_map.2 ⟨(name, store.fs.infoOf child), List.mem_mergeSort.2
      (List.mem_map.2 ⟨(name, child), (FileSystem.mem_children_iff hkeys).2 hat, rfl⟩), rfl⟩

/-- **A directory that is opened has exactly the entries that are there.** -/
theorem Share.openDirectory_cases {store store' : Store} {url : String} {directory : Directory}
    (htree : store.fs.IsTree)
    (h : (openDirectory url).run.run store = (.ok directory, store')) :
    ∃ (names : List Name) (path : Path), store.steps? url = .ok (names.map .name) ∧
      store.fs.place true store.root (names.map .name) = .ok path ∧
      store.fs.isDirectoryAt path = true ∧
      (∀ entry ∈ directory.entries, entry.IsAt store.fs path) ∧
      ∀ name, store.fs.kind? (path ++ [name]) ≠ none →
        ∃ entry ∈ directory.entries, entry.name.toUTF8 = name := by
  obtain ⟨names, path, hsteps, hplace, hdir, hentries⟩ := openDirectory_entries htree.keys h
  refine ⟨names, path, hsteps, hplace, hdir, fun entry hentry ↦ ?_, fun name hthere ↦ ?_⟩
  · obtain ⟨name, node, hnode, rfl⟩ := (hentries entry).1 hentry
    exact Entry.isAt_of_node? htree hnode
  · obtain ⟨text, htext, hlossy⟩ := (htree.text _ _ hthere).exists_text
    obtain ⟨node, hnode⟩ := Option.ne_none_iff_exists'.1 (mt FileSystem.kind?_eq_none.2 hthere)
    exact ⟨_, (hentries _).2 ⟨name, node, hnode, rfl⟩,
      (congrArg String.toUTF8 hlossy).trans htext⟩

/-- Without faults, a directory can be opened. -/
theorem Share.openDirectory_of_faultless {store store' : Store} {url : String} {names : List Name}
    {path : Path} {result : Except ShareError Directory} (hfaults : store.faults = [])
    (hsteps : store.steps? url = .ok (names.map .name))
    (hplace : store.fs.place true store.root (names.map .name) = .ok path)
    (hdir : store.fs.isDirectoryAt path = true)
    (h : (openDirectory url).run.run store = (result, store')) :
    ∃ directory, result = .ok directory := by
  obtain ⟨time, hnode⟩ := FileSystem.exists_of_isDirectoryAt hdir
  have hlist : store.fs.list store.root (names.map .name) =
      .ok ((store.fs.children path).map fun child ↦ (child.1, store.fs.infoOf child.2)) := by
    unfold FileSystem.list
    rw [FileSystem.find_eq_ok.2 ⟨hplace, hnode⟩]
    rfl
  rw [(inspect_of_faultless hfaults h).2, hsteps]
  exact ⟨_, by simp only [bind, Except.bind, hlist]; rfl⟩

/-! ### What a URL stood for -/

/-- A URL **stood for** a directory when that was opened, and since then the tree has only shrunk. -/
structure Store.Stood (store : Store) (fs : FileSystem) (url : String) (names : List Name)
    (path : Path) : Prop where
  stable : Url.IsStable url
  spelled : Url.names? url = .ok names
  clean : ∀ name ∈ names, name.data.contains 0 = false
  place : fs.place true store.root (names.map .name) = .ok path
  tree : store.fs.IsTree
  treeThen : fs.IsTree
  shrinks : fs.Shrinks store.fs

/-- **What has become of a store** at which has only been looked. -/
structure Store.Looks (store store' : Store) : Prop where
  records : store.Records store'
  faults : store.faults = [] → store'.faults = []
  log : ∃ log, store.Logs store' log ∧ ∀ entry ∈ log, entry.1.operation.isDisposal = false

/-- **What has become of a store** on which only entries below a directory have been taken away. The
URL of the directory stands for some names. -/
structure Store.Prunes (store store' : Store) (names : List Name) (path : Path) : Prop where
  root : store'.root = store.root
  tree : store'.fs.IsTree
  faults : store.faults = [] → store'.faults = []
  shrinks : store.fs.Shrinks store'.fs
  contents : store'.fs.contents = store.fs.contents
  dropped : ∀ other, store.fs.kind? other ≠ none → store'.fs.kind? other = none →
    ∃ rest, rest ≠ [] ∧ other = path ++ rest ∧
      spelledSize (store.root ++ (names ++ rest)) ≤ maxRouteSize
  outside : ∀ other, ¬ path <+: other → store'.fs.node? other = store.fs.node? other
  log : ∃ log, store.Logs store' log ∧ ∀ entry ∈ log, entry.1.operation.isDisposal = true →
    ∃ rest, rest ≠ [] ∧ Url.names? entry.1.url = .ok (names ++ rest)

namespace Store

variable {store store' store'' : Store} {fs : FileSystem} {url : String} {names : List Name}
variable {path : Path} {entry : Entry} {name : Name}

theorem Prunes.trans (h : store.Prunes store' names path) (h' : store'.Prunes store'' names path) :
    store.Prunes store'' names path where
  root := h'.root.trans h.root
  tree := h'.tree
  faults hfaults := h'.faults (h.faults hfaults)
  shrinks := h.shrinks.trans h'.shrinks
  contents := h'.contents.trans h.contents
  dropped other hthere hgone := by
    by_cases hmid : store'.fs.kind? other = none
    · exact h.dropped other hthere hmid
    · exact h.root ▸ h'.dropped other hmid hgone
  outside other hother := (h'.outside other hother).trans (h.outside other hother)
  log := by
    obtain ⟨log, hlog, hnames⟩ := h.log
    obtain ⟨log', hlog', hnames'⟩ := h'.log
    refine ⟨log ++ log', hlog.trans hlog', fun entry hentry ↦ ?_⟩
    exact (List.mem_append.1 hentry).elim (hnames entry) (hnames' entry)

/-- What is below an entry is below the directory. -/
theorem Prunes.of_entry (h : store.Prunes store' (names ++ [name]) (path ++ [name])) :
    store.Prunes store' names path where
  root := h.root
  tree := h.tree
  faults := h.faults
  shrinks := h.shrinks
  contents := h.contents
  dropped other hthere hgone := by
    obtain ⟨rest, -, rfl, hsize⟩ := h.dropped other hthere hgone
    exact ⟨name :: rest, by simp, by simp, by simpa using hsize⟩
  outside other hother :=
    h.outside other fun hprefix ↦ hother ((List.prefix_append path [name]).trans hprefix)
  log := by
    obtain ⟨log, hlog, hnames⟩ := h.log
    refine ⟨log, hlog, fun entry hentry hdisposal ↦ ?_⟩
    obtain ⟨rest, -, hurl⟩ := hnames entry hentry hdisposal
    exact ⟨name :: rest, by simp, by simpa using hurl⟩

theorem Looks.trans (h : store.Looks store') (h' : store'.Looks store'') : store.Looks store'' where
  records := ⟨h'.records.fs.trans h.records.fs, h'.records.root.trans h.records.root,
    h'.records.files.trans h.records.files, h'.records.tokens.trans h.records.tokens⟩
  faults hfaults := h'.faults (h.faults hfaults)
  log := by
    obtain ⟨log, hlog, hcalls⟩ := h.log
    obtain ⟨log', hlog', hcalls'⟩ := h'.log
    refine ⟨log ++ log', hlog.trans hlog', fun entry hentry ↦ ?_⟩
    exact (List.mem_append.1 hentry).elim (hcalls entry) (hcalls' entry)

theorem Looks.of_inspect {α : Type} {call : Call} {answer : α → Answer}
    {look : Store → Except Errno α} {result : Except ShareError α}
    (hcall : call.operation.isDisposal = false)
    (h : (Share.inspect call answer look).run.run store = (result, store')) :
    store.Looks store' where
  records := Share.records_inspect h
  faults hfaults := (Share.inspect_of_faultless hfaults h).1
  log := by
    obtain ⟨recorded, -, hlog⟩ := Share.inspect_logs h
    exact ⟨_, hlog, fun entry hmem ↦ by rwa [List.mem_singleton.1 hmem]⟩

/-- Looking takes nothing away. -/
theorem Looks.prunes (h : store.Looks store') (htree : store.fs.IsTree) (names : List Name)
    (path : Path) : store.Prunes store' names path := by
  obtain ⟨log, hlog, hcalls⟩ := h.log
  have hfs := h.records.fs
  refine ⟨h.records.root, hfs.symm ▸ htree, h.faults, hfs.symm ▸ .refl _, by rw [hfs],
    fun other hthere hgone ↦ absurd (hfs ▸ hgone) hthere, fun _ _ ↦ by rw [hfs], log, hlog,
    fun entry hentry hdisposal ↦ ?_⟩
  rw [hcalls entry hentry] at hdisposal
  cases hdisposal

theorem Stood.prunes_inspect {α : Type} {call : Call} {answer : α → Answer}
    {look : Store → Except Errno α} {result : Except ShareError α}
    (h : store.Stood fs url names path) (hcall : call.operation.isDisposal = false)
    (hrun : (Share.inspect call answer look).run.run store = (result, store')) :
    store.Prunes store' names path :=
  (Looks.of_inspect hcall hrun).prunes h.tree names path

theorem Stood.mono (h : store.Stood fs url names path) (hprunes : store.Prunes store' names path) :
    store'.Stood fs url names path :=
  ⟨h.stable, h.spelled, h.clean, hprunes.root ▸ h.place, hprunes.tree, h.treeThen,
    h.shrinks.trans hprunes.shrinks⟩

/-- The URL of an entry stands for the name of the entry below what the directory stands for. -/
theorem Stood.names_join (h : store.Stood fs url names path) (hentry : entry.IsAt fs path) :
    Url.IsStable (Url.join url entry.name) ∧
      Url.names? (Url.join url entry.name) = .ok (names ++ [entry.name.toUTF8]) := by
  obtain ⟨hne, hhere, habove, hslash, -⟩ := hentry.isText h.treeThen
  exact Url.names?_join h.stable h.spelled ⟨hne, hhere, habove, hslash⟩

/-- **The URL of an entry leads to the entry, or nowhere**, unless a link is followed at its end. -/
theorem Stood.place_entry {follow : Bool} {last : Path} (h : store.Stood fs url names path)
    (hlink : follow = true → ∀ target time,
      store.fs.kind? (path ++ [name]) ≠ some (.link target time))
    (hplace : store.fs.place follow store.root ((names ++ [name]).map .name) = .ok last) :
    last = path ++ [name] :=
  FileSystem.place_entry_of_shrinks h.shrinks h.place hlink hplace

/-- **To take an entry away** prunes its directory, whatever comes of it. -/
theorem Stood.prunes_dispose (isDirectory : Bool) {result : Except ShareError Unit}
    (h : store.Stood fs url names path) (hentry : entry.IsAt fs path)
    (hrun : (Share.dispose isDirectory (Url.join url entry.name)).run.run store =
      (result, store')) : store.Prunes store' names path := by
  obtain ⟨-, hjoin⟩ := h.names_join hentry
  obtain ⟨hroot, hlog, hfaults, hdone⟩ := Share.dispose_cases h.tree.formed hrun
  have hnames : ∀ entry' ∈ [(Share.disposal isDirectory (Url.join url entry.name),
      Answer.ofOutcome (result.mapError (·.errno)))], entry'.1.operation.isDisposal = true →
        ∃ rest, rest ≠ [] ∧ Url.names? entry'.1.url = .ok (names ++ rest) := by
    intro entry' hmem _
    rw [List.mem_singleton.1 hmem]
    exact ⟨_, by simp, hjoin⟩
  rcases hdone with ⟨-, hfs⟩ | ⟨-, names', last, hnames', hsize, hplace, -, hdrops⟩
  · exact ⟨hroot, hfs ▸ h.tree, hfaults, hfs ▸ .refl _, by rw [hfs],
      fun other hthere hgone ↦ absurd (hfs ▸ hgone) hthere, fun _ _ ↦ by rw [hfs], _, hlog, hnames⟩
  · obtain rfl : names' = names ++ [entry.name.toUTF8] := Except.ok.inj (hnames'.symm.trans hjoin)
    obtain rfl := h.place_entry (by simp) hplace
    refine ⟨hroot, hdrops.isTree h.tree, hfaults, hdrops.shrinks, hdrops.contents, ?_, ?_,
      _, hlog, hnames⟩
    · intro other hthere hgone
      refine ⟨[entry.name.toUTF8], by simp, ?_, hsize⟩
      by_contra hne
      exact hthere (hdrops.kinds other hne ▸ hgone)
    · intro other hother
      refine hdrops.nodes other ?_ ?_
      · rintro rfl
        exact hother (List.prefix_append _ _)
      · rintro rfl
        exact hother (by simp)

/-- **A directory among the entries** that is opened is the one that was there. -/
theorem Stood.opened {directory : Directory} (h : store.Stood fs url names path)
    (hentry : entry.IsAt fs path) (hkind : fs.isDirectoryAt (path ++ [entry.name.toUTF8]) = true)
    (hrun : (Share.openDirectory (Url.join url entry.name)).run.run store =
      (.ok directory, store')) :
    store'.Stood store.fs (Url.join url entry.name) (names ++ [entry.name.toUTF8])
        (path ++ [entry.name.toUTF8]) ∧
      (∀ below ∈ directory.entries,
        below.IsAt store.fs (path ++ [entry.name.toUTF8])) ∧
      ∀ name, store.fs.kind? (path ++ [entry.name.toUTF8] ++ [name]) ≠ none →
        ∃ below ∈ directory.entries, below.name.toUTF8 = name := by
  obtain ⟨hstable, hjoin⟩ := h.names_join hentry
  obtain ⟨names', last, hsteps, hplace, -, hentries, hall⟩ := Share.openDirectory_cases h.tree hrun
  obtain ⟨hnames', hclean, -⟩ := steps?_map_eq_ok.1 hsteps
  obtain rfl : names' = names ++ [entry.name.toUTF8] := Except.ok.inj (hnames'.symm.trans hjoin)
  obtain rfl := h.place_entry (fun _ target time hlink ↦ by
    -- it was a directory, and can only be gone since then
    have hwas := h.shrinks _ _ hlink
    rw [FileSystem.kind?_eq_directory.2 hkind] at hwas
    cases hwas) hplace
  have hrecords := Share.records_inspect hrun
  exact ⟨⟨hstable, hjoin, hclean, hrecords.root.symm ▸ hplace, hrecords.fs.symm ▸ h.tree, h.tree,
    hrecords.fs.symm ▸ .refl _⟩, hentries, hall⟩

/-- The URL of an entry can be asked for, if the path is short enough. -/
theorem Stood.steps_join (h : store.Stood fs url names path) (hentry : entry.IsAt fs path)
    (hsize : spelledSize (store.root ++ (names ++ [entry.name.toUTF8])) ≤ maxRouteSize) :
    store.steps? (Url.join url entry.name) =
      .ok ((names ++ [entry.name.toUTF8]).map Step.name) := by
  refine steps?_eq_ok.2 ⟨_, (h.names_join hentry).2, fun name hmem ↦ ?_, hsize, rfl⟩
  rcases List.mem_append.1 hmem with hmem | hmem
  · exact h.clean name hmem
  · rw [List.mem_singleton.1 hmem]
    exact (hentry.isText h.treeThen).2.2.2.2

/-- **Without faults, an entry that has nothing below it is gone** once it has been taken away. -/
theorem Stood.gone_dispose (isDirectory : Bool) {result : Except ShareError Unit}
    (h : store.Stood fs url names path) (hpath : path = store.root ++ names)
    (hentry : entry.IsAt fs path)
    (hdirectory : fs.isDirectoryAt (path ++ [entry.name.toUTF8]) = isDirectory)
    (hfaults : store.faults = [])
    (hsize : store.fs.kind? (path ++ [entry.name.toUTF8]) ≠ none →
      spelledSize (path ++ [entry.name.toUTF8]) ≤ maxRouteSize)
    (hbare : ∀ name, store.fs.kind? (path ++ [entry.name.toUTF8] ++ [name]) = none)
    (hrun : (Share.dispose isDirectory (Url.join url entry.name)).run.run store =
      (result, store')) :
    store'.fs.kind? (path ++ [entry.name.toUTF8]) = none := by
  subst hdirectory
  by_cases hthere : store.fs.kind? (path ++ [entry.name.toUTF8]) = none
  · exact (h.prunes_dispose _ hentry hrun).shrinks.gone hthere
  have hkind : fs.isDirectoryAt (path ++ [entry.name.toUTF8]) =
      store.fs.isDirectoryAt (path ++ [entry.name.toUTF8]) :=
    (FileSystem.isDirectoryAt_congr (h.shrinks.congr hthere)).symm
  have hsteps := h.steps_join hentry (by rw [← List.append_assoc, ← hpath]; exact hsize hthere)
  have hplace : store.fs.place false store.root ((names ++ [entry.name.toUTF8]).map .name) =
      .ok (path ++ [entry.name.toUTF8]) := by
    rw [hpath, List.append_assoc] at hthere ⊢
    exact h.tree.place_eq hthere (by simp)
  have hok : result = .ok () := Share.dispose_of_faultless hfaults hsteps hplace hthere (by simp)
    (fun _ ↦ h.tree.children_eq_nil hbare) (hkind ▸ hrun)
  obtain ⟨-, -, -, ⟨⟨error, herror⟩, -⟩ | ⟨-, names', last, hnames', -, hlast, -, hdrops⟩⟩ :=
    Share.dispose_cases h.tree.formed hrun
  · rw [hok] at herror
    cases herror
  · obtain rfl : names' = names ++ [entry.name.toUTF8] :=
      Except.ok.inj (hnames'.symm.trans (h.names_join hentry).2)
    obtain rfl := Except.ok.inj (hlast.symm.trans hplace)
    exact hdrops.gone

/-- **A directory that is still there can be opened**, if there are no faults and its path can be
asked for. -/
theorem Stood.gone_of_shut {error : ShareError} (hstood : store.Stood fs url names path)
    (hpath : path = store.root ++ names) (hentry : entry.IsAt fs path)
    (hdirectory : fs.isDirectoryAt (path ++ [entry.name.toUTF8]) = true)
    (hfaults : store.faults = [])
    (hfits : store.fs.kind? (path ++ [entry.name.toUTF8]) ≠ none →
      spelledSize (path ++ [entry.name.toUTF8]) ≤ maxRouteSize)
    (hopen : (Share.openDirectory (Url.join url entry.name)).run.run store =
      (.error error, store')) :
    store.fs.kind? (path ++ [entry.name.toUTF8]) = none := by
  by_contra hthere
  have hsize := hfits hthere
  have hdirectory : store.fs.isDirectoryAt (path ++ [entry.name.toUTF8]) = true := by
    rw [FileSystem.isDirectoryAt_congr (hstood.shrinks.congr hthere)]
    exact hdirectory
  have hplace : store.fs.place true store.root ((names ++ [entry.name.toUTF8]).map .name) =
      .ok (path ++ [entry.name.toUTF8]) := by
    rw [hpath, List.append_assoc] at hthere hdirectory ⊢
    refine hstood.tree.place_eq hthere fun _ target time hlink ↦ ?_
    rw [FileSystem.kind?_eq_directory.2 hdirectory] at hlink
    cases hlink
  rw [hpath, List.append_assoc] at hsize
  obtain ⟨directory, hok⟩ := Share.openDirectory_of_faultless hfaults
    (hstood.steps_join hentry hsize) hplace hdirectory hopen
  cases hok

/-- Nothing is below an entry that is no directory. -/
theorem Stood.bare_of_plain (hstood : store.Stood fs url names path) {last : Name}
    (hplain : fs.isDirectoryAt (path ++ [last]) = false) (name : Name) :
    store.fs.kind? (path ++ [last] ++ [name]) = none := by
  refine hstood.tree.formed.kind?_below ?_ (by simp)
  by_contra hdir
  rw [hstood.shrinks.isDirectoryAt (Bool.not_eq_false _ ▸ hdir)] at hplain
  cases hplain

end Store

namespace Share

/-! ### What is emptied -/

/-- What is known of a directory that has been opened on a system: its URL stands for some names, no
more than a route can have, and a name can be joined to it for each entry. -/
structure IsListing (url : String) (entries : List Entry) : Prop where
  ne_nil : Url.segments url.toList ≠ []
  short : (Url.segments url.toList).length ≤ maxRouteSize
  names : ∀ entry ∈ entries, ¬ (entry.name = "." ∨ entry.name = "..") →
    Url.IsEntryName entry.name

variable {store store' : Store} {url : String}

theorem isListing_of_openDirectory {directory : Directory} (hhosted : store.fs.IsHosted)
    (h : (openDirectory url).run.run store = (.ok directory, store')) :
    IsListing url directory.entries := by
  obtain ⟨names, path, hsteps, -, -, hentries⟩ := openDirectory_entries hhosted.keys h
  obtain ⟨hnames, -, hsize⟩ := Store.steps?_map_eq_ok.1 hsteps
  obtain ⟨hne, -, rfl⟩ := Url.names?_eq_ok_iff.1 hnames
  have hlength := (Store.length_le_spelledSize _).trans hsize
  rw [List.length_append, List.length_map] at hlength
  exact ⟨hne, by omega, fun entry hentry ↦ ((hentries entry).1 hentry).isEntryName hhosted⟩

theorem isHosted_of_inspect {α : Type} {call : Call} {answer : α → Answer}
    {look : Store → Except Errno α} {result : Except ShareError α} (hhosted : store.fs.IsHosted)
    (h : (inspect call answer look).run.run store = (result, store')) : store'.fs.IsHosted :=
  (records_inspect h).fs.symm ▸ hhosted

theorem isHosted_of_dispose (isDirectory : Bool) (url : String) {result : Except ShareError Unit}
    (hhosted : store.fs.IsHosted)
    (h : (dispose isDirectory url).run.run store = (result, store')) : store'.fs.IsHosted := by
  obtain ⟨-, -, -, ⟨-, hfs⟩ | ⟨-, names, path, -, -, -, -, hdrops⟩⟩ :=
    dispose_cases hhosted.formed h
  · exact hfs.symm ▸ hhosted
  · exact hdrops.isHosted hhosted

theorem isHosted_of_removeDirectory {result : Except ShareError Unit} (hhosted : store.fs.IsHosted)
    (h : (removeDirectory url).run.run store = (result, store')) : store'.fs.IsHosted :=
  isHosted_of_dispose true url hhosted h

theorem isHosted_of_unlink {result : Except ShareError Unit} (hhosted : store.fs.IsHosted)
    (h : (unlink url).run.run store = (result, store')) : store'.fs.IsHosted :=
  isHosted_of_dispose false url hhosted h

/-! ### The recursion -/

/-- The **recursion that empties a directory**, with a rule for each thing that may come of an
entry. -/
inductive Empties : String → List Entry → Store → Store → Prop where
  /-- There is no further entry. -/
  | ended {url : String} {store store' : Store} {answer : Except ShareError (Option Entry)}
      (hnext : (nextEntry ⟨url, []⟩).run.run store = (answer, store')) :
      Empties url [] store store'
  /-- The listing breaks off. -/
  | broken {url : String} {entry : Entry} {rest : List Entry} {store store' : Store}
      {error : ShareError}
      (hnext : (nextEntry ⟨url, entry :: rest⟩).run.run store = (.error error, store')) :
      Empties url (entry :: rest) store store'
  /-- The directory itself, or the one above, is passed over. -/
  | dots {url : String} {entry : Entry} {rest : List Entry} {store given store' : Store}
      {answer : Option Entry}
      (hnext : (nextEntry ⟨url, entry :: rest⟩).run.run store = (.ok answer, given))
      (hdots : entry.name = "." ∨ entry.name = "..")
      (hrest : Empties url rest given store') : Empties url (entry :: rest) store store'
  /-- A directory is opened, emptied and removed. -/
  | folder {url : String} {entry : Entry} {rest : List Entry}
      {store given opened emptied removed store' : Store} {answer : Option Entry}
      {directory : Directory} {result : Except ShareError Unit}
      (hnext : (nextEntry ⟨url, entry :: rest⟩).run.run store = (.ok answer, given))
      (hdots : ¬ (entry.name = "." ∨ entry.name = ".."))
      (hkind : (entry.stat.isDirectory && !entry.stat.isLink) = true)
      (hopen : (openDirectory (Url.join url entry.name)).run.run given = (.ok directory, opened))
      (hbelow : Empties (Url.join url entry.name) directory.entries opened emptied)
      (hremove : (removeDirectory (Url.join url entry.name)).run.run emptied = (result, removed))
      (hrest : Empties url rest removed store') : Empties url (entry :: rest) store store'
  /-- A directory that cannot be opened is removed if it has no entries. -/
  | shut {url : String} {entry : Entry} {rest : List Entry}
      {store given opened removed store' : Store} {answer : Option Entry} {error : ShareError}
      {result : Except ShareError Unit}
      (hnext : (nextEntry ⟨url, entry :: rest⟩).run.run store = (.ok answer, given))
      (hdots : ¬ (entry.name = "." ∨ entry.name = ".."))
      (hkind : (entry.stat.isDirectory && !entry.stat.isLink) = true)
      (hopen : (openDirectory (Url.join url entry.name)).run.run given = (.error error, opened))
      (hremove : (removeDirectory (Url.join url entry.name)).run.run opened = (result, removed))
      (hrest : Empties url rest removed store') : Empties url (entry :: rest) store store'
  /-- Anything else is unlinked, links among it. -/
  | other {url : String} {entry : Entry} {rest : List Entry}
      {store given removed store' : Store} {answer : Option Entry}
      {result : Except ShareError Unit}
      (hnext : (nextEntry ⟨url, entry :: rest⟩).run.run store = (.ok answer, given))
      (hdots : ¬ (entry.name = "." ∨ entry.name = ".."))
      (hkind : (entry.stat.isDirectory && !entry.stat.isLink) = false)
      (hremove : (unlink (Url.join url entry.name)).run.run given = (result, removed))
      (hrest : Empties url rest removed store') : Empties url (entry :: rest) store store'

variable {fs : FileSystem} {names : List Name} {path : Path} {entry : Entry} {entries : List Entry}

/-- A system stays one while a directory is emptied. -/
theorem Empties.isHosted (h : Empties url entries store store') (hhosted : store.fs.IsHosted) :
    store'.fs.IsHosted := by
  induction h with
  | ended hnext | broken hnext => exact isHosted_of_inspect hhosted hnext
  | dots hnext _ _ ih => exact ih (isHosted_of_inspect hhosted hnext)
  | folder hnext _ _ hopen _ hremove _ ihbelow ih =>
    have hopened := isHosted_of_inspect (isHosted_of_inspect hhosted hnext) hopen
    exact ih (isHosted_of_removeDirectory (ihbelow hopened) hremove)
  | shut hnext _ _ hopen hremove _ ih =>
    have hopened := isHosted_of_inspect (isHosted_of_inspect hhosted hnext) hopen
    exact ih (isHosted_of_removeDirectory hopened hremove)
  | other hnext _ _ hremove _ ih =>
    exact ih (isHosted_of_unlink (isHosted_of_inspect hhosted hnext) hremove)

/-- **Emptying a directory takes away entries below it, and nothing else**, whatever fails. -/
theorem Empties.prunes (h : Empties url entries store store') (hstood : store.Stood fs url names path)
    (hentries : ∀ entry ∈ entries, entry.IsAt fs path) : store.Prunes store' names path := by
  induction h generalizing fs names path with
  | ended hnext | broken hnext => exact hstood.prunes_inspect rfl hnext
  | dots hnext _ _ ih =>
    have hgiven := hstood.prunes_inspect rfl hnext
    exact hgiven.trans (ih (hstood.mono hgiven) (List.forall_mem_cons.1 hentries).2)
  | @folder _ entry _ _ _ _ _ _ _ _ _ _ hnext _ hkind hopen _ hremove _ ihbelow ihrest =>
    obtain ⟨hentry, hrest⟩ := List.forall_mem_cons.1 hentries
    have hgiven := hstood.prunes_inspect rfl hnext
    have hopened := hgiven.trans ((hstood.mono hgiven).prunes_inspect rfl hopen)
    obtain ⟨hbelow, hlisted, -⟩ :=
      (hstood.mono hgiven).opened hentry (hentry.kind.symm.trans hkind) hopen
    have hemptied := hopened.trans (ihbelow hbelow hlisted).of_entry
    have hremoved := hemptied.trans
      ((hstood.mono hemptied).prunes_dispose true hentry hremove)
    exact hremoved.trans (ihrest (hstood.mono hremoved) hrest)
  | shut hnext _ _ hopen hremove _ ih =>
    obtain ⟨hentry, hrest⟩ := List.forall_mem_cons.1 hentries
    have hgiven := hstood.prunes_inspect rfl hnext
    have hopened := hgiven.trans ((hstood.mono hgiven).prunes_inspect rfl hopen)
    have hremoved := hopened.trans
      ((hstood.mono hopened).prunes_dispose true hentry hremove)
    exact hremoved.trans (ih (hstood.mono hremoved) hrest)
  | other hnext _ _ hremove _ ih =>
    obtain ⟨hentry, hrest⟩ := List.forall_mem_cons.1 hentries
    have hgiven := hstood.prunes_inspect rfl hnext
    have hremoved := hgiven.trans
      ((hstood.mono hgiven).prunes_dispose false hentry hremove)
    exact hremoved.trans (ih (hstood.mono hremoved) hrest)

theorem tolerate_run {α : Type} {action : ShareM α} {result : Except ShareError α}
    (h : action.run.run store = (result, store')) : (tolerate action).run store = ((), store') := by
  unfold tolerate
  rw [run_bind_of_run h]
  rfl

section Runs

variable {rest : List Entry} {given opened emptied removed : Store} {answer : Option Entry}
variable {directory : Directory} {error : ShareError} {result : Except ShareError Unit} {depth : Nat}

theorem clearEntries_broken
    (hnext : (nextEntry ⟨url, entry :: rest⟩).run.run store = (.error error, store')) :
    (clearEntries depth url (entry :: rest)).run store = ((), store') := by
  rw [clearEntries, run_bind_of_run hnext]
  rfl

theorem clearEntries_dots
    (hnext : (nextEntry ⟨url, entry :: rest⟩).run.run store = (.ok answer, given))
    (hdots : entry.name = "." ∨ entry.name = "..") :
    (clearEntries depth url (entry :: rest)).run store =
      (clearEntries depth url rest).run given := by
  have hname : (decide (entry.name = ".") || decide (entry.name = "..")) = true := by
    simpa using hdots
  rw [clearEntries, run_bind_of_run hnext]
  simp only [hname, if_true]

theorem clearEntries_other
    (hnext : (nextEntry ⟨url, entry :: rest⟩).run.run store = (.ok answer, given))
    (hdots : ¬ (entry.name = "." ∨ entry.name = ".."))
    (hkind : (entry.stat.isDirectory && !entry.stat.isLink) = false)
    (hremove : (unlink (Url.join url entry.name)).run.run given = (result, removed)) :
    (clearEntries depth url (entry :: rest)).run store =
      (clearEntries depth url rest).run removed := by
  have hname : (decide (entry.name = ".") || decide (entry.name = "..")) = false := by
    simpa using hdots
  rw [clearEntries, run_bind_of_run hnext]
  simp only [hname, hkind, Bool.false_eq_true, if_false]
  rw [run_bind_of_run (tolerate_run hremove)]

theorem clearEntries_shut
    (hnext : (nextEntry ⟨url, entry :: rest⟩).run.run store = (.ok answer, given))
    (hdots : ¬ (entry.name = "." ∨ entry.name = ".."))
    (hkind : (entry.stat.isDirectory && !entry.stat.isLink) = true)
    (hopen : (openDirectory (Url.join url entry.name)).run.run given = (.error error, opened))
    (hremove : (removeDirectory (Url.join url entry.name)).run.run opened = (result, removed)) :
    (clearEntries (depth + 1) url (entry :: rest)).run store =
      (clearEntries (depth + 1) url rest).run removed := by
  have hname : (decide (entry.name = ".") || decide (entry.name = "..")) = false := by
    simpa using hdots
  rw [clearEntries, run_bind_of_run hnext]
  simp only [hname, hkind, Bool.false_eq_true, if_false, if_true]
  rw [run_bind_of_run hopen]
  dsimp only
  rw [run_bind_of_run (tolerate_run hremove)]

theorem clearEntries_folder
    (hnext : (nextEntry ⟨url, entry :: rest⟩).run.run store = (.ok answer, given))
    (hdots : ¬ (entry.name = "." ∨ entry.name = ".."))
    (hkind : (entry.stat.isDirectory && !entry.stat.isLink) = true)
    (hopen : (openDirectory (Url.join url entry.name)).run.run given = (.ok directory, opened))
    (hbelow : (clearEntries depth (Url.join url entry.name) directory.entries).run opened =
      ((), emptied))
    (hremove : (removeDirectory (Url.join url entry.name)).run.run emptied = (result, removed)) :
    (clearEntries (depth + 1) url (entry :: rest)).run store =
      (clearEntries (depth + 1) url rest).run removed := by
  have hname : (decide (entry.name = ".") || decide (entry.name = "..")) = false := by
    simpa using hdots
  rw [clearEntries, run_bind_of_run hnext]
  simp only [hname, hkind, Bool.false_eq_true, if_false, if_true]
  rw [run_bind_of_run hopen]
  dsimp only
  rw [run_bind_of_run hbelow, run_bind_of_run (tolerate_run hremove)]

end Runs

/-- **The bound on the depth is never met**: emptying a directory is the recursion, if the bound is
more than the names that a URL can still get and the slashes that it can still lose. -/
theorem clearEntries_empties (depth : Nat) (url : String) (entries : List Entry)
    (hhosted : store.fs.IsHosted) (hlisting : IsListing url entries)
    (hdepth : Url.slashes url + 2 * maxRouteSize < depth + 2 * (Url.segments url.toList).length) :
    Empties url entries store ((clearEntries depth url entries).run store).2 := by
  -- the outer recursion is on the depth, and at one depth there are fewer and fewer entries
  induction depth using Nat.strongRecOn generalizing url entries store with
  | ind depth ihdepth =>
  induction entries generalizing store with
  | nil =>
    rw [clearEntries]
    exact .ended rfl
  | cons entry rest ih =>
    obtain ⟨hname, hrest⟩ := List.forall_mem_cons.1 hlisting.names
    have ih {store : Store} (hhosted : store.fs.IsHosted) :=
      ih hhosted ⟨hlisting.ne_nil, hlisting.short, hrest⟩
    rcases hnext : (nextEntry ⟨url, entry :: rest⟩).run.run store with ⟨error | answer, given⟩
    · rw [clearEntries_broken hnext]
      exact .broken hnext
    have hgiven := isHosted_of_inspect hhosted hnext
    by_cases hdots : entry.name = "." ∨ entry.name = ".."
    · rw [clearEntries_dots hnext hdots]
      exact .dots hnext hdots (ih hgiven)
    cases hkind : entry.stat.isDirectory && !entry.stat.isLink with
    | false =>
      rcases hremove : (unlink (Url.join url entry.name)).run.run given with ⟨result, removed⟩
      rw [clearEntries_other hnext hdots hkind hremove]
      exact .other hnext hdots hkind hremove (ih (isHosted_of_unlink hgiven hremove))
    | true =>
      -- what has been opened has no more names than a route, so that there is some depth left
      have hshort := hlisting.short
      cases depth with
      | zero => omega
      | succ depth =>
      rcases hopen : (openDirectory (Url.join url entry.name)).run.run given with
        ⟨error | directory, opened⟩
      all_goals have hopened := isHosted_of_inspect hgiven hopen
      · rcases hremove : (removeDirectory (Url.join url entry.name)).run.run opened with
          ⟨result, removed⟩
        rw [clearEntries_shut hnext hdots hkind hopen hremove]
        exact .shut hnext hdots hkind hopen hremove
          (ih (isHosted_of_removeDirectory hopened hremove))
      · have hdeeper := @Url.slashes_join_lt url entry.name (hname hdots)
        have hempties := ihdepth depth (Nat.lt_succ_self depth) (Url.join url entry.name)
          directory.entries hopened (isListing_of_openDirectory hgiven hopen) (by omega)
        rcases hbelow : (clearEntries depth (Url.join url entry.name) directory.entries).run
          opened with ⟨⟨⟩, emptied⟩
        rw [hbelow] at hempties
        change Empties (Url.join url entry.name) directory.entries opened emptied at hempties
        rcases hremove : (removeDirectory (Url.join url entry.name)).run.run emptied with
          ⟨result, removed⟩
        rw [clearEntries_folder hnext hdots hkind hopen hbelow hremove]
        exact .folder hnext hdots hkind hopen hempties hremove
          (ih (isHosted_of_removeDirectory (hempties.isHosted hopened) hremove))

/-- **A directory that has been opened is emptied by a recursion that comes to its end.** -/
theorem clear_empties {directory : Directory} {opened : Store} (hhosted : store.fs.IsHosted)
    (hopen : (openDirectory url).run.run store = (.ok directory, opened)) :
    Empties url directory.entries opened ((clear url directory).run opened).2 := by
  have hlisting := isListing_of_openDirectory hhosted hopen
  have hslashes := Url.slashes_le_length url
  have hnames := List.length_pos_iff.2 hlisting.ne_nil
  exact clearEntries_empties _ url directory.entries (isHosted_of_inspect hhosted hopen) hlisting
    (by omega)

/-- An entry that is gone stays gone, with all that was below it, while the others are worked off. -/
theorem Empties.stays_gone {rest : List Entry} (h : Empties url rest store store')
    (hstood : store.Stood fs url names path) (hrest : ∀ entry ∈ rest, entry.IsAt fs path)
    (hgone : store.fs.kind? (path ++ [entry.name.toUTF8]) = none) (below : List Name) :
    store'.fs.kind? (path ++ entry.name.toUTF8 :: below) = none :=
  (h.prunes hstood hrest).shrinks.gone
    (not_not.1 fun hthere ↦ hstood.tree.formed.entry_above hthere hgone)

/-- **Without faults, the entries that have been worked off are gone**, with all that was below
them, if every path can be asked for. -/
theorem Empties.gone (h : Empties url entries store store')
    (hstood : store.Stood fs url names path) (hpath : path = store.root ++ names)
    (hentries : ∀ entry ∈ entries, entry.IsAt fs path) (hfaults : store.faults = [])
    (hfits : ∀ rest, store.fs.kind? (path ++ rest) ≠ none →
      Store.spelledSize (path ++ rest) ≤ maxRouteSize) :
    ∀ entry ∈ entries, ∀ rest, store'.fs.kind? (path ++ entry.name.toUTF8 :: rest) = none := by
  induction h generalizing fs names path with
  | ended => exact fun entry hmem ↦ nomatch hmem
  | broken hnext => cases (inspect_of_faultless hfaults hnext).2
  | dots _ hdots =>
    obtain ⟨-, hhere, habove, -⟩ := (hentries _ List.mem_cons_self).isText hstood.treeThen
    exact absurd hdots (not_or.2 ⟨hhere, habove⟩)
  | @folder _ entry _ _ given _ emptied _ _ _ _ _ hnext _ hkind hopen hempties hremove hrun
      ihbelow ih =>
    obtain ⟨hentry, hrest⟩ := List.forall_mem_cons.1 hentries
    have hdirectory := hentry.kind.symm.trans hkind
    have hgiven := hstood.prunes_inspect rfl hnext
    have hopened := (hstood.mono hgiven).prunes_inspect rfl hopen
    obtain ⟨hstoodBelow, hlisted, hall⟩ := (hstood.mono hgiven).opened hentry hdirectory hopen
    have hcleared := hopened.trans (hempties.prunes hstoodBelow hlisted).of_entry
    have hemptied := hgiven.trans hcleared
    have hbelow := ihbelow hstoodBelow
      (by rw [hpath, (hgiven.trans hopened).root, List.append_assoc]) hlisted
      ((hgiven.trans hopened).faults hfaults) fun rest hthere ↦ by
        rw [← List.append_cons] at hthere ⊢
        exact hfits _ ((hgiven.trans hopened).shrinks.there hthere)
    -- what is below the entry is one of the entries that were listed
    have hbare (name : Name) :
        emptied.fs.kind? (path ++ [entry.name.toUTF8] ++ [name]) = none := by
      by_contra hthere
      obtain ⟨below, hmem, rfl⟩ := hall name (hcleared.shrinks.there hthere)
      exact hthere (hbelow below hmem [])
    have hremoved := hemptied.trans
      ((hstood.mono hemptied).prunes_dispose true hentry hremove)
    have hgone := (hstood.mono hemptied).gone_dispose true (hemptied.root.symm ▸ hpath) hentry
      hdirectory (hemptied.faults hfaults) (fun hthere ↦ hfits _ (hemptied.shrinks.there hthere))
      hbare hremove
    exact List.forall_mem_cons.2 ⟨hrun.stays_gone (hstood.mono hremoved) hrest hgone,
      ih (hstood.mono hremoved) (hremoved.root.symm ▸ hpath) hrest (hremoved.faults hfaults)
        fun rest hthere ↦ hfits rest (hremoved.shrinks.there hthere)⟩
  | @shut _ entry _ _ given _ _ _ _ _ _ hnext _ hkind hopen hremove hrun ih =>
    obtain ⟨hentry, hrest⟩ := List.forall_mem_cons.1 hentries
    have hgiven := hstood.prunes_inspect rfl hnext
    have hstoodGiven := hstood.mono hgiven
    have hopened := hgiven.trans (hstoodGiven.prunes_inspect rfl hopen)
    have hnone := hstoodGiven.gone_of_shut (hgiven.root.symm ▸ hpath) hentry
      (hentry.kind.symm.trans hkind) (hgiven.faults hfaults)
      (fun hthere ↦ hfits _ (hgiven.shrinks.there hthere)) hopen
    have hshut := (hstoodGiven.prunes_inspect rfl hopen).trans
      ((hstood.mono hopened).prunes_dispose true hentry hremove)
    have hremoved := hgiven.trans hshut
    have hgone := hshut.shrinks.gone hnone
    exact List.forall_mem_cons.2 ⟨hrun.stays_gone (hstood.mono hremoved) hrest hgone,
      ih (hstood.mono hremoved) (hremoved.root.symm ▸ hpath) hrest (hremoved.faults hfaults)
        fun rest hthere ↦ hfits rest (hremoved.shrinks.there hthere)⟩
  | @other _ entry _ _ given _ _ _ _ hnext _ hkind hremove hrun ih =>
    obtain ⟨hentry, hrest⟩ := List.forall_mem_cons.1 hentries
    have hplain := hentry.kind.symm.trans hkind
    have hgiven := hstood.prunes_inspect rfl hnext
    have hbare := (hstood.mono hgiven).bare_of_plain hplain
    have hremoved := hgiven.trans
      ((hstood.mono hgiven).prunes_dispose false hentry hremove)
    have hgone := (hstood.mono hgiven).gone_dispose false (hgiven.root.symm ▸ hpath) hentry hplain
      (hgiven.faults hfaults) (fun hthere ↦ hfits _ (hgiven.shrinks.there hthere)) hbare hremove
    exact List.forall_mem_cons.2 ⟨hrun.stays_gone (hstood.mono hremoved) hrest hgone,
      ih (hstood.mono hremoved) (hremoved.root.symm ▸ hpath) hrest (hremoved.faults hfaults)
        fun rest hthere ↦ hfits rest (hremoved.shrinks.there hthere)⟩

end Share

end FileShare
