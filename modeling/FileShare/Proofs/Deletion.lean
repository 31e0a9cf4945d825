import FileShare.Proofs.Emptying
import FileShare.Proofs.Happenings

/-!
# What a deletion does, and what it tells

A responder that is asked to delete looks at what the URL addresses, empties it if it is a directory,
and makes one last call: a directory is removed, anything else is unlinked. That call alone decides
what is told (`Single.deletionReply`), and it is the last one in the record.

`Single.Deleted` says what such a deletion comes to, for every tree and whatever fails: on which URLs
calls were made that take something away, what is gone, and what is as it was. A link at the end of
the URL is unlinked, unless nothing could be told about it; that takes a fault.

Paths have a length that systems do not exceed. A path that is too long cannot be asked for, and what
is there stays there. So a deletion without faults succeeds if and only if no path at or below its
target is too long, and a tree that is too deep is reported as a directory that is not empty.
-/

namespace FileShare

namespace Url

/-- Whether a URL is another one, or stands for something below it. -/
def IsWithin (url other : String) : Prop :=
  other = url ∨ ∃ names rest, names? url = .ok names ∧ names? other = .ok (names ++ rest)

end Url

/-- The path that a URL stands for on a store, if none of its names is a link. -/
def Store.Addresses (store : Store) (url : String) (path : Path) : Prop :=
  ∃ names, Url.names? url = .ok names ∧ path = store.root ++ names

namespace Single

/-- What a responder tells about the last call of a deletion. -/
def deletionReply (requestId url : String) (isDirectory : Bool) : Except Errno Unit → Message
  | .ok () =>
    .of requestId .deletionInitResp (.response (.deleted (deletedInfo url isDirectory)))
  | .error errno => .of requestId .deletionErrorResp (.status ⟨errno.code, errno.description⟩)

/-- No directory between the root of a store and what a URL addresses is a link. -/
def LinkFree (store : Store) (url : String) : Prop :=
  ∀ path, store.Addresses url path → ∀ above, store.root <+: above → above <+: path →
    above ≠ path → ∀ target time, store.fs.kind? above ≠ some (.link target time)

/-- **What a deletion comes to**: its last call was that for a directory or not, and it came to
something. -/
structure Deleted (store store' : Store) (url : String) (isDirectory : Bool)
    (outcome : Except Errno Unit) : Prop where
  /-- All calls that take something away are made at the URL or below it, and the last one is made
  at the URL. -/
  log : ∃ log, store.Logs store' (log ++ [(Share.disposal isDirectory url, .ofOutcome outcome)]) ∧
    ∀ entry ∈ log, entry.1.operation.isDisposal = true → Url.IsWithin url entry.1.url
  /-- A directory is emptied by a recursion that comes to its end. -/
  ends : ∀ directory opened, (openDoomed url).run.run store = (.ok directory, opened) →
    Share.Empties url directory.entries opened ((Share.clear url directory).run opened).2
  /-- The bytes of files are as they were. -/
  contents : store'.fs.contents = store.fs.contents
  /-- If the last call succeeds, the target was what it was taken for, and nothing is left of it. -/
  gone : outcome = .ok () → ∃ path, store.Addresses url path ∧
    store.fs.kind? path ≠ none ∧ store.fs.isDirectoryAt path = isDirectory ∧
      ∀ other, path <+: other → store'.fs.kind? other = none
  /-- What is not at or below the target is as it was. The directory above notes the time. -/
  others : ∀ path, store.Addresses url path →
    ((∀ target time, store.fs.kind? path ≠ some (.link target time)) ∨ store.faults = []) →
      ∀ other, ¬ path <+: other → store'.fs.kind? other = store.fs.kind? other ∧
        (other ≠ path.dropLast → store'.fs.node? other = store.fs.node? other)
  /-- Without faults, it is the length of paths that decides. -/
  succeeds : ∀ path, store.Addresses url path → store.fs.kind? path ≠ none → store.faults = [] →
    (outcome = .ok () ↔ ∀ other, path <+: other → store.fs.kind? other ≠ none →
      Store.spelledSize other ≤ maxRouteSize)

variable {store store' : Store} {url : String}

/-! ### The calls of a deletion -/

theorem outcome_bind_run {α β : Type} {action : ShareM α} {next : Except ShareError α → ShareM β}
    {result : Except ShareError α} (h : action.run.run store = (result, store')) :
    (Share.outcome action >>= next).run.run store = (next result).run.run store' := by
  have hrun : (Share.outcome action >>= next).run.run store =
      (next (action.run.run store).1).run.run (action.run.run store).2 := rfl
  rw [hrun, h]

/-- What has been done when a deletion comes to its last call. -/
inductive Prepared (store : Store) (url : String) : Bool → Store → Prop where
  /-- A directory has been emptied. -/
  | emptied {directory : Directory} {opened before : Store}
      (hopen : (openDoomed url).run.run store = (.ok directory, opened))
      (hclear : (Share.clear url directory).run opened = ((), before)) :
      Prepared store url true before
  /-- What was found has not been opened. -/
  | unopened {error : ShareError} {before : Store}
      (hopen : (openDoomed url).run.run store = (.error error, before)) :
      Prepared store url false before

/-- **A deletion empties a directory that it could open, and removes it; anything else it unlinks.**
Its last call is all that it tells. -/
theorem remove_cases {result : Except ShareError Bool}
    (h : (remove url).run.run store = (result, store')) :
    ∃ isDirectory before last, Prepared store url isDirectory before ∧
      (Share.dispose isDirectory url).run.run before = (last, store') ∧
      result = last.map fun _ ↦ isDirectory := by
  unfold remove at h
  rcases hopen : (openDoomed url).run.run store with ⟨error | directory, opened⟩
  · rw [outcome_bind_run hopen] at h
    rcases bind_cases h with ⟨failure, hlast, rfl⟩ | ⟨⟨⟩, mid, hlast, hdone⟩
    · exact ⟨false, opened, .error failure, .unopened hopen, hlast, rfl⟩
    · obtain ⟨rfl, rfl⟩ := Prod.mk.inj hdone
      exact ⟨false, opened, .ok (), .unopened hopen, hlast, rfl⟩
  · rw [outcome_bind_run hopen] at h
    rcases hclear : (Share.clear url directory).run opened with ⟨⟨⟩, emptied⟩
    dsimp only at h
    rw [bind_lift_run, hclear] at h
    rcases bind_cases h with ⟨failure, hlast, rfl⟩ | ⟨⟨⟩, mid, hlast, hdone⟩
    · exact ⟨true, emptied, .error failure, .emptied hopen hclear, hlast, rfl⟩
    · obtain ⟨rfl, rfl⟩ := Prod.mk.inj hdone
      exact ⟨true, emptied, .ok (), .emptied hopen hclear, hlast, rfl⟩

/-- A link is not opened. Anything else is, and so is what nothing can be told about. -/
theorem openDoomed_cases {result : Except ShareError Directory}
    (h : (openDoomed url).run.run store = (result, store')) :
    (∃ stat error, (Share.linkStat url).run.run store = (.ok stat, store') ∧
        stat.isLink = true ∧ result = .error error) ∨
      ∃ answer looked, (Share.linkStat url).run.run store = (answer, looked) ∧
        (∀ stat, answer = .ok stat → stat.isLink = false) ∧
        (Share.openDirectory url).run.run looked = (result, store') := by
  unfold openDoomed at h
  rcases hlook : (Share.linkStat url).run.run store with ⟨error | stat, looked⟩
  · rw [outcome_bind_run hlook] at h
    exact .inr ⟨_, looked, rfl, nofun, h⟩
  · rw [outcome_bind_run hlook] at h
    dsimp only at h
    split at h
    · rename_i hlink
      obtain ⟨rfl, rfl⟩ := Prod.mk.inj h
      exact .inl ⟨stat, _, rfl, hlink, rfl⟩
    · rename_i hlink
      refine .inr ⟨_, looked, rfl, fun stat' hstat ↦ ?_, h⟩
      rw [← Except.ok.inj hstat]
      simpa using hlink

/-- **A directory that has been opened for deletion is emptied** by a recursion that comes to its
end. -/
theorem empties_of_openDoomed {directory : Directory} (hhosted : store.fs.IsHosted)
    (h : (openDoomed url).run.run store = (.ok directory, store')) :
    Share.Empties url directory.entries store' ((Share.clear url directory).run store').2 := by
  rcases openDoomed_cases h with ⟨_, _, -, -, hcontra⟩ | ⟨answer, looked, hlook, -, hopen⟩
  · cases hcontra
  · exact Share.clear_empties (Share.isHosted_of_inspect hhosted hlook) hopen

/-- **Before anything is taken away**, the share is only looked at. -/
theorem openDoomed_looks {result : Except ShareError Directory}
    (h : (openDoomed url).run.run store = (result, store')) : store.Looks store' := by
  rcases openDoomed_cases h with ⟨stat, error, hlink, -, -⟩ | ⟨answer, looked, hlook, -, hopen⟩
  · exact .of_inspect rfl hlink
  · exact .trans (.of_inspect rfl hlook) (.of_inspect rfl hopen)

/-- Without faults, it is seen whether the end of a URL is a link. -/
theorem linkStat_of_faultless {names : List Name} {path : Path} {node : Node}
    {answer : Except ShareError Stat} (hfaults : store.faults = [])
    (hsteps : store.steps? url = .ok (names.map .name))
    (hplace : store.fs.place false store.root (names.map .name) = .ok path)
    (hnode : store.fs.node? path = some node)
    (h : (Share.linkStat url).run.run store = (answer, store')) :
    ∃ stat, answer = .ok stat ∧ stat.isLink = (store.fs.infoOf node).isLink := by
  have hinfo : store.fs.info false store.root (names.map .name) = .ok (store.fs.infoOf node) := by
    unfold FileSystem.info
    rw [FileSystem.find_eq_ok.2 ⟨hplace, hnode⟩]
    rfl
  rw [(Share.inspect_of_faultless hfaults h).2, hsteps]
  exact ⟨Stat.ofNodeInfo (Store.lastName (names.map .name)) (store.fs.infoOf node),
    by simp only [bind, Except.bind, hinfo]; rfl, rfl⟩

/-- What the URL of a directory stood for when it was opened for deletion. -/
theorem stood_of_openDoomed {directory : Directory} (htree : store.fs.IsTree)
    (hstable : Url.IsStable url) (h : (openDoomed url).run.run store = (.ok directory, store')) :
    ∃ (names : List Name) (path : Path), store.steps? url = .ok (names.map .name) ∧
      store'.Stood store'.fs url names path ∧ store'.fs.isDirectoryAt path = true ∧
      (∀ entry ∈ directory.entries, entry.IsAt store'.fs path) ∧
      ∀ name, store'.fs.kind? (path ++ [name]) ≠ none →
        ∃ entry ∈ directory.entries, entry.name.toUTF8 = name := by
  rcases openDoomed_cases h with ⟨_, _, -, -, hcontra⟩ | ⟨answer, looked, hlook, -, hopen⟩
  · cases hcontra
  have hlooked := (Share.records_inspect hlook)
  have hopened := (Share.records_inspect hopen)
  obtain ⟨names, path, hsteps, hplace, hdir, hentries, hall⟩ :=
    Share.openDirectory_cases (hlooked.fs.symm ▸ htree) hopen
  obtain ⟨hnames, hclean, -⟩ := Store.steps?_map_eq_ok.1 hsteps
  rw [← hopened.fs] at hplace hdir hentries hall
  rw [Store.steps?_congr hlooked.root] at hsteps
  have htree' : store'.fs.IsTree := hopened.fs.symm ▸ hlooked.fs.symm ▸ htree
  exact ⟨names, path, hsteps, ⟨hstable, hnames, hclean, hopened.root.symm ▸ hplace, htree',
    htree', .refl _⟩, hdir, hentries, hall⟩

/-- **Without faults, a link is never opened** for deletion. -/
theorem not_link_of_openDoomed {names : List Name} {directory : Directory} {target : ByteArray}
    {time : Int64} (htree : store.fs.IsTree) (hfaults : store.faults = [])
    (hsteps : store.steps? url = .ok (names.map .name))
    (h : (openDoomed url).run.run store = (.ok directory, store')) :
    store.fs.kind? (store.root ++ names) ≠ some (.link target time) := by
  intro hlink
  have hplace : store.fs.place false store.root (names.map .name) = .ok (store.root ++ names) :=
    htree.place_eq (by simp [hlink]) (by simp)
  rcases openDoomed_cases h with ⟨_, _, -, -, hcontra⟩ | ⟨answer, looked, hlook, hplain, -⟩
  · cases hcontra
  obtain ⟨stat, rfl, hstat⟩ := linkStat_of_faultless hfaults hsteps hplace
    (FileSystem.kind?_eq_link.1 hlink) hlook
  rw [hplain stat rfl] at hstat
  cases hstat

/-- **Without faults, a directory is always opened** for deletion, if it can be asked for. -/
theorem openDoomed_of_faultless {names : List Name} {result : Except ShareError Directory}
    (htree : store.fs.IsTree) (hfaults : store.faults = [])
    (hsteps : store.steps? url = .ok (names.map .name))
    (hdir : store.fs.isDirectoryAt (store.root ++ names) = true)
    (h : (openDoomed url).run.run store = (result, store')) :
    ∃ directory, result = .ok directory := by
  have hkind := FileSystem.kind?_eq_directory.2 hdir
  have hplace (follow : Bool) : store.fs.place follow store.root (names.map .name) =
      .ok (store.root ++ names) := htree.place_eq (by simp [hkind]) (by simp [hkind])
  obtain ⟨time, hnode⟩ := FileSystem.exists_of_isDirectoryAt hdir
  rcases openDoomed_cases h with ⟨stat, _, hlook, hlink, -⟩ | ⟨answer, looked, hlook, -, hopen⟩
  · obtain ⟨stat', hstat, hplain⟩ :=
      linkStat_of_faultless hfaults hsteps (hplace false) hnode hlook
    obtain rfl := Except.ok.inj hstat
    rw [hlink] at hplain
    cases hplain
  · have hlooked := Store.Looks.of_inspect rfl hlook
    have hfs := hlooked.records.fs
    have hroot := hlooked.records.root
    refine Share.openDirectory_of_faultless (hlooked.faults hfaults)
      ((Store.steps?_congr hroot url).trans hsteps) ?_ (hfs.symm ▸ hdir) hopen
    rw [hfs, hroot]
    exact hplace true

/-! ### Up to the last call -/

variable {isDirectory : Bool} {before : Store} {names : List Name}

/-- **Without links on the way, a URL leads to the path that it addresses.** -/
theorem LinkFree.eq_of_place {fs : FileSystem} {follow : Bool} {path : Path}
    (h : LinkFree store url) (hnames : Url.names? url = .ok names)
    (hshrinks : store.fs.Shrinks fs)
    (hend : follow = true →
      ∀ target time, store.fs.kind? (store.root ++ names) ≠ some (.link target time))
    (hplace : fs.place follow store.root (names.map .name) = .ok path) :
    path = store.root ++ names := by
  refine (FileSystem.place_eq_ok.1 hplace).eq_append fun front hfront _ hends target time hlink ↦ ?_
  have hlink := hshrinks _ _ hlink
  by_cases heq : front = names
  · subst heq
    exact hend (hends.resolve_left (not_not_intro rfl)) target time hlink
  · exact h _ ⟨names, hnames, rfl⟩ (store.root ++ front) (List.prefix_append _ _)
      ((List.prefix_append_right_inj _).2 hfront) (fun happend ↦ heq (List.append_cancel_left happend))
      target time hlink

/-- What has been done up to the last call has been done below what the URL stands for. -/
theorem Prepared.cases (h : Prepared store url isDirectory before) (htree : store.fs.IsTree)
    (hstable : Url.IsStable url) :
    (isDirectory = false ∧ store.Looks before) ∨
      isDirectory = true ∧ ∃ (names : List Name) (path : Path),
        store.steps? url = .ok (names.map .name) ∧
        store.fs.place true store.root (names.map .name) = .ok path ∧
        store.Prunes before names path := by
  cases h with
  | unopened hopen => exact .inl ⟨rfl, openDoomed_looks hopen⟩
  | @emptied directory opened _ hopen hclear =>
    have hlooks := openDoomed_looks hopen
    obtain ⟨names, path, hsteps, hstood, -, hentries, -⟩ := stood_of_openDoomed htree hstable hopen
    have hempties := empties_of_openDoomed htree.isHosted hopen
    rw [hclear] at hempties
    refine .inr ⟨rfl, names, path, hsteps, ?_,
      (hlooks.prunes htree names path).trans (hempties.prunes hstood hentries)⟩
    rw [← hlooks.records.fs, ← hlooks.records.root]
    exact hstood.place

/-- Up to the last call, entries below the target have been taken away, and nothing else. -/
theorem Prepared.prunes (h : Prepared store url isDirectory before) (htree : store.fs.IsTree)
    (hstable : Url.IsStable url) (hfree : LinkFree store url)
    (hnames : Url.names? url = .ok names)
    (hplain : (∀ target time, store.fs.kind? (store.root ++ names) ≠ some (.link target time)) ∨
      store.faults = []) : store.Prunes before names (store.root ++ names) := by
  rcases h.cases htree hstable with ⟨-, hlooks⟩ | ⟨rfl, names', path, hsteps, hplace, hprunes⟩
  · exact hlooks.prunes htree _ _
  obtain ⟨hnames', -, -⟩ := Store.steps?_map_eq_ok.1 hsteps
  obtain rfl := Except.ok.inj (hnames.symm.trans hnames')
  have hend : ∀ target time,
      store.fs.kind? (store.root ++ names) ≠ some (.link target time) := by
    refine hplain.elim id fun hfaults target time ↦ ?_
    cases h with
    | emptied hopen _ => exact not_link_of_openDoomed htree hfaults hsteps hopen
  obtain rfl := hfree.eq_of_place hnames (.refl _) (fun _ ↦ hend) hplace
  exact hprunes

/-- All calls up to the last one that take something away are made below the URL. -/
theorem Prepared.log (h : Prepared store url isDirectory before) (htree : store.fs.IsTree)
    (hstable : Url.IsStable url) :
    ∃ log, store.Logs before log ∧
      ∀ entry ∈ log, entry.1.operation.isDisposal = true → Url.IsWithin url entry.1.url := by
  rcases h.cases htree hstable with ⟨-, hlooks⟩ | ⟨-, names, path, hsteps, -, hprunes⟩
  · obtain ⟨log, hlog, hcalls⟩ := hlooks.log
    refine ⟨log, hlog, fun entry hentry hdisposal ↦ ?_⟩
    rw [hcalls entry hentry] at hdisposal
    cases hdisposal
  · obtain ⟨log, hlog, hbelow⟩ := hprunes.log
    refine ⟨log, hlog, fun entry hentry hdisposal ↦ ?_⟩
    obtain ⟨rest, -, hurl⟩ := hbelow entry hentry hdisposal
    exact .inr ⟨names, rest, (Store.steps?_map_eq_ok.1 hsteps).1, hurl⟩

/-! ### The last call -/

variable {last : Except ShareError Unit}

theorem Prepared.exists_prunes (h : Prepared store url isDirectory before) (htree : store.fs.IsTree)
    (hstable : Url.IsStable url) : ∃ names path, store.Prunes before names path := by
  rcases h.cases htree hstable with ⟨-, hlooks⟩ | ⟨-, names, path, -, -, hprunes⟩
  · exact ⟨[], [], hlooks.prunes htree [] []⟩
  · exact ⟨names, path, hprunes⟩

/-- **The last call takes the target away**, or nothing has happened. -/
theorem Prepared.last_cases (h : Prepared store url isDirectory before) (htree : store.fs.IsTree)
    (hstable : Url.IsStable url) (hfree : LinkFree store url)
    (hlast : (Share.dispose isDirectory url).run.run before = (last, store')) :
    (∃ error, last = .error error) ∧ store'.fs = before.fs ∨
      last = .ok () ∧ ∃ names, Url.names? url = .ok names ∧
        Store.spelledSize (store.root ++ names) ≤ maxRouteSize ∧
        before.fs.isDirectoryAt (store.root ++ names) = isDirectory ∧
        before.fs.Drops store'.fs (store.root ++ names) := by
  obtain ⟨_, _, hprunes⟩ := h.exists_prunes htree hstable
  obtain ⟨-, -, -, hfailed | ⟨hok, names, path, hnames, hsize, hplace, hkind, hdrops⟩⟩ :=
    Share.dispose_cases hprunes.tree.formed hlast
  · exact .inl hfailed
  · rw [hprunes.root] at hsize hplace
    obtain rfl := hfree.eq_of_place hnames hprunes.shrinks (by simp) hplace
    exact .inr ⟨hok, names, hnames, hsize, hkind, hdrops⟩

/-- What the last call took away was there from the beginning, as what it was taken for. Nothing is
left below it. -/
theorem Prepared.gone (h : Prepared store url isDirectory before) (htree : store.fs.IsTree)
    (hstable : Url.IsStable url) (hfree : LinkFree store url)
    (hlast : (Share.dispose isDirectory url).run.run before = (.ok (), store')) :
    ∃ path, store.Addresses url path ∧ store.fs.kind? path ≠ none ∧
      store.fs.isDirectoryAt path = isDirectory ∧
        ∀ other, path <+: other → store'.fs.kind? other = none := by
  obtain ⟨_, _, hprunes⟩ := h.exists_prunes htree hstable
  rcases h.last_cases htree hstable hfree hlast with
    ⟨⟨error, hcontra⟩, -⟩ | ⟨-, names, hnames, -, hkind, hdrops⟩
  · cases hcontra
  refine ⟨store.root ++ names, ⟨names, hnames, rfl⟩, hprunes.shrinks.there hdrops.there, ?_, ?_⟩
  · rw [← hkind]
    exact (FileSystem.isDirectoryAt_congr (hprunes.shrinks.congr hdrops.there)).symm
  · rintro other ⟨rest, rfl⟩
    by_cases hrest : rest = []
    · rw [hrest, List.append_nil]
      exact hdrops.gone
    · exact hdrops.shrinks.gone (hdrops.bare rest hrest)

/-- What is not at or below the target stays as it was. -/
theorem Prepared.others (h : Prepared store url isDirectory before) (htree : store.fs.IsTree)
    (hstable : Url.IsStable url) (hfree : LinkFree store url)
    (hlast : (Share.dispose isDirectory url).run.run before = (last, store'))
    (hnames : Url.names? url = .ok names)
    (hplain : (∀ target time, store.fs.kind? (store.root ++ names) ≠ some (.link target time)) ∨
      store.faults = []) {other : Path} (hother : ¬ store.root ++ names <+: other) :
    store'.fs.kind? other = store.fs.kind? other ∧
      (other ≠ (store.root ++ names).dropLast → store'.fs.node? other = store.fs.node? other) := by
  have hprunes := h.prunes htree hstable hfree hnames hplain
  have hnode := hprunes.outside other hother
  have hkind : before.fs.kind? other = store.fs.kind? other := congrArg (·.map Node.timeless) hnode
  rcases h.last_cases htree hstable hfree hlast with
    ⟨-, hfs⟩ | ⟨-, names', hnames', -, -, hdrops⟩
  · rw [hfs]
    exact ⟨hkind, fun _ ↦ hnode⟩
  · obtain rfl := Except.ok.inj (hnames.symm.trans hnames')
    have hne : other ≠ store.root ++ names := fun heq ↦ hother (heq ▸ List.prefix_refl _)
    exact ⟨(hdrops.kinds other hne).trans hkind,
      fun habove ↦ (hdrops.nodes other hne habove).trans hnode⟩

/-- **What is too long to be asked for stays**, and then the target stays as well. -/
theorem Prepared.fits (h : Prepared store url isDirectory before) (htree : store.fs.IsTree)
    (hstable : Url.IsStable url) (hfree : LinkFree store url) (hfaults : store.faults = [])
    (hlast : (Share.dispose isDirectory url).run.run before = (.ok (), store'))
    (hnames : Url.names? url = .ok names) {other : Path} (hother : store.root ++ names <+: other)
    (hthere : store.fs.kind? other ≠ none) : Store.spelledSize other ≤ maxRouteSize := by
  have hprunes := h.prunes htree hstable hfree hnames (.inr hfaults)
  rcases h.last_cases htree hstable hfree hlast with
    ⟨⟨error, hcontra⟩, -⟩ | ⟨-, names', hnames', hsize, -, hdrops⟩
  · cases hcontra
  obtain rfl := Except.ok.inj (hnames.symm.trans hnames')
  obtain ⟨rest, rfl⟩ := hother
  by_cases hrest : rest = []
  · rwa [hrest, List.append_nil]
  · obtain ⟨rest', -, heq, hsize'⟩ := hprunes.dropped _ hthere (hdrops.bare rest hrest)
    rwa [← List.append_assoc, ← heq] at hsize'

/-- **Without faults, a directory is emptied** if all paths can be asked for. -/
theorem bare_of_emptied {directory : Directory} {opened : Store} (htree : store.fs.IsTree)
    (hstable : Url.IsStable url) (hfree : LinkFree store url) (hfaults : store.faults = [])
    (hopen : (openDoomed url).run.run store = (.ok directory, opened))
    (hclear : (Share.clear url directory).run opened = ((), before))
    (hsteps : store.steps? url = .ok (names.map .name))
    (hfits : ∀ other, store.root ++ names <+: other → store.fs.kind? other ≠ none →
      Store.spelledSize other ≤ maxRouteSize) :
    store.fs.isDirectoryAt (store.root ++ names) = true ∧
      before.fs.children (store.root ++ names) = [] := by
  have hlooks := openDoomed_looks hopen
  obtain ⟨names', path, hsteps', hstood, hdir, hentries, hall⟩ :=
    stood_of_openDoomed htree hstable hopen
  obtain ⟨hnames, -, -⟩ := Store.steps?_map_eq_ok.1 hsteps
  obtain ⟨hnames', -, -⟩ := Store.steps?_map_eq_ok.1 hsteps'
  obtain rfl := Except.ok.inj (hnames.symm.trans hnames')
  have hplace := hstood.place
  rw [hlooks.records.root] at hplace
  obtain rfl := hfree.eq_of_place hnames (hlooks.records.fs.symm ▸ .refl _)
    (fun _ _ _ ↦ not_link_of_openDoomed htree hfaults hsteps hopen) hplace
  have hempties := empties_of_openDoomed htree.isHosted hopen
  rw [hclear] at hempties
  have hprunes := hempties.prunes hstood hentries
  have hgone := hempties.gone hstood (by rw [hlooks.records.root]) hentries
    (hlooks.faults hfaults) fun rest hthere ↦
      hfits _ (List.prefix_append _ _) (hlooks.records.fs ▸ hthere)
  refine ⟨hlooks.records.fs ▸ hdir, hprunes.tree.children_eq_nil fun name ↦ ?_⟩
  by_contra hthere
  obtain ⟨entry, hmem, rfl⟩ := hall name (hprunes.shrinks.there hthere)
  exact hthere (hgone entry hmem [])

/-- **Without faults, a target is taken away if all paths can be asked for.** -/
theorem Prepared.succeeds (h : Prepared store url isDirectory before) (htree : store.fs.IsTree)
    (hstable : Url.IsStable url) (hfree : LinkFree store url) (hfaults : store.faults = [])
    (hlast : (Share.dispose isDirectory url).run.run before = (last, store'))
    (hnames : Url.names? url = .ok names)
    (hthere : store.fs.kind? (store.root ++ names) ≠ none)
    (hfits : ∀ other, store.root ++ names <+: other → store.fs.kind? other ≠ none →
      Store.spelledSize other ≤ maxRouteSize) : last = .ok () := by
  have hprunes := h.prunes htree hstable hfree hnames (.inr hfaults)
  have hsteps : store.steps? url = .ok (names.map .name) := by
    refine Store.steps?_map_eq_ok.2 ⟨hnames, fun name hname ↦ ?_,
      hfits _ (List.prefix_refl _) hthere⟩
    obtain ⟨-, -, -, -, -, -, hclean, -⟩ := htree.text_of_mem hthere hname
    exact hclean
  -- the target itself is not among what has been taken away
  have hstill : before.fs.kind? (store.root ++ names) ≠ none := by
    intro hgone
    obtain ⟨rest, hrest, heq, -⟩ := hprunes.dropped _ hthere hgone
    exact hrest (by simpa using heq)
  have hkind := FileSystem.isDirectoryAt_congr (hprunes.shrinks.congr hstill)
  have htaken : before.fs.isDirectoryAt (store.root ++ names) = isDirectory ∧
      (before.fs.isDirectoryAt (store.root ++ names) = true →
        before.fs.children (store.root ++ names) = []) := by
    rw [hkind]
    cases h with
    | unopened hopen =>
      have hplain : store.fs.isDirectoryAt (store.root ++ names) = false := by
        by_contra hdir
        obtain ⟨directory, hcontra⟩ := openDoomed_of_faultless htree hfaults hsteps
          (Bool.not_eq_false _ ▸ hdir) hopen
        cases hcontra
      exact ⟨hplain, fun hdir ↦ by rw [hplain] at hdir; cases hdir⟩
    | emptied hopen hclear =>
      obtain ⟨hdir, hempty⟩ :=
        bare_of_emptied htree hstable hfree hfaults hopen hclear hsteps hfits
      exact ⟨hdir, fun _ ↦ hempty⟩
  have hplace : before.fs.place false before.root (names.map .name) =
      .ok (store.root ++ names) := by
    rw [hprunes.root]
    exact hprunes.tree.place_eq hstill (by simp)
  rw [← htaken.1] at hlast
  exact Share.dispose_of_faultless (hprunes.faults hfaults)
    ((Store.steps?_congr hprunes.root url).trans hsteps) hplace hstill
    (by simp [Url.names?_ne_nil hnames]) htaken.2 hlast

/-- **A deletion does what is told about it**, whatever fails. -/
theorem deleted_of_remove {result : Except ShareError Bool} (htree : store.fs.IsTree)
    (hstable : Url.IsStable url) (hfree : LinkFree store url)
    (h : (remove url).run.run store = (result, store')) :
    ∃ (isDirectory : Bool) (last : Except ShareError Unit),
      Deleted store store' url isDirectory (last.mapError (·.errno)) ∧
        result = last.map fun _ ↦ isDirectory := by
  obtain ⟨isDirectory, before, last, hprepared, hlast, hresult⟩ := remove_cases h
  obtain ⟨_, _, hprunes⟩ := hprepared.exists_prunes htree hstable
  obtain ⟨-, hlogged, -, -⟩ := Share.dispose_cases hprunes.tree.formed hlast
  have hok : last.mapError (·.errno) = .ok () → last = .ok () := of_mapError_eq_ok
  refine ⟨isDirectory, last, ⟨?_, fun directory opened hopen ↦ ?_, ?_, fun hdone ↦ ?_, ?_, ?_⟩,
    hresult⟩
  · obtain ⟨log, hlog, hwithin⟩ := hprepared.log htree hstable
    exact ⟨log, hlog.trans hlogged, hwithin⟩
  · exact empties_of_openDoomed htree.isHosted hopen
  · rcases hprepared.last_cases htree hstable hfree hlast with
      ⟨-, hfs⟩ | ⟨-, names, -, -, -, hdrops⟩
    · rw [hfs, hprunes.contents]
    · rw [hdrops.contents, hprunes.contents]
  · exact hprepared.gone htree hstable hfree (hok hdone ▸ hlast)
  · rintro path ⟨names, hnames, rfl⟩ hplain other hother
    exact hprepared.others htree hstable hfree hlast hnames hplain hother
  · rintro path ⟨names, hnames, rfl⟩ hthere hfaults
    refine ⟨fun hdone other hother hkind ↦ ?_, fun hfits ↦ ?_⟩
    · exact hprepared.fits htree hstable hfree hfaults (hok hdone ▸ hlast) hnames hother hkind
    · rw [hprepared.succeeds htree hstable hfree hfaults hlast hnames hthere hfits]
      rfl

/-! ### What is told -/

section Telling

variable {ω : Type} [Outlet ω] {world mid : World ω} {message : Message} {requestId : String}

/-- A deletion that succeeds is told. -/
theorem delete_run_of_ok (hconnect : (World.connect message).run.run world = (.ok url, mid))
    (hremove : (remove url).run.run mid.store = (.ok isDirectory, store')) :
    (delete requestId message).run.run world =
      (World.send (deletionReply requestId url isDirectory (.ok ()))).run.run
        { mid with store := store' } := by
  have hshare : (World.share (remove url) : StepM ω Bool).run.run mid =
      (.ok isDirectory, { mid with store := store' }) := by
    rw [World.share_run, hremove]
    rfl
  unfold delete
  rw [bind_run_of_ok _ hconnect, bind_run_of_ok _ hshare]
  rfl

/-- A deletion that fails leaves it to others to tell so. -/
theorem delete_run_of_error {error : ShareError}
    (hconnect : (World.connect message).run.run world = (.ok url, mid))
    (hremove : (remove url).run.run mid.store = (.error error, store')) :
    (delete requestId message).run.run world =
      (.error (.share error), { mid with store := store' }) := by
  have hshare : (World.share (remove url) : StepM ω Bool).run.run mid =
      (.error (.share error), { mid with store := store' }) := by
    rw [World.share_run, hremove]
    rfl
  unfold delete
  rw [bind_run_of_ok _ hconnect, bind_run_of_error _ hshare]

/-- **A responder tells what came of the last call of a deletion**, and nothing else. -/
theorem process_delete (settings : TransferSettings) {last : Except ShareError Unit}
    (hid : message.requestId = requestId)
    (hcheck : (Exchange.mk requestId (.responder .deletion)).check message =
      .ok .deletionInitReq)
    (hconnect : (World.connect message).run.run world = (.ok url, mid))
    (hremove : (remove url).run.run mid.store = (last.map fun _ ↦ isDirectory, store')) :
    (((Exchange.mk requestId (.responder .deletion)).process settings message).run world).2 =
      { mid with
        store := store'
        outlet := (Outlet.send mid.outlet
          (deletionReply requestId url isDirectory (last.mapError (·.errno)))).2 } := by
  rw [Exchange.process_run settings world hcheck]
  have hhandle : ((Exchange.mk requestId (.responder .deletion)).handle settings .deletionInitReq
      message).run world = ((((delete requestId message).run.run world).1,
        ⟨requestId, .responder .deletion⟩), ((delete requestId message).run.run world).2) := rfl
  rw [hhandle]
  cases last with
  | error error =>
    rw [delete_run_of_error hconnect hremove, hid]
    rfl
  | ok done =>
    rw [delete_run_of_ok hconnect hremove]
    have hsend (world : World ω) (reply : Message) : (World.send reply).run.run world =
        ((Outlet.send world.outlet reply).1.mapError .session,
          { world with outlet := (Outlet.send world.outlet reply).2 }) := rfl
    rw [hsend]
    cases (Outlet.send mid.outlet (deletionReply requestId url isDirectory (.ok ()))).1 <;> rfl

end Telling

end Single

/-- **A deletion does what it tells.** The tree may have links anywhere, but not between the root of
the share and the target, and calls may fail in any way once the credentials have been adopted. -/
theorem Exchange.deletion_does_what_it_tells {ω : Type} [Outlet ω] {settings : TransferSettings}
    {requestId url : String} {message : Message} {world mid last : World ω}
    {handled : Handled Exchange}
    (hcheck : (Exchange.mk requestId (.responder .deletion)).check message =
      .ok .deletionInitReq)
    (hconnect : (World.connect message).run.run world = (.ok url, mid))
    (htree : mid.store.fs.IsTree) (hstable : Url.IsStable url)
    (hfree : Single.LinkFree mid.store url)
    (hrun : ((Exchange.mk requestId (.responder .deletion)).process settings message).run world =
      (handled, last)) :
    ∃ (isDirectory : Bool) (outcome : Except Errno Unit),
      Single.Deleted mid.store last.store url isDirectory outcome ∧
      last.outlet = (Outlet.send world.outlet
        (Single.deletionReply requestId url isDirectory outcome)).2 := by
  rcases hremove : (Single.remove url).run.run mid.store with ⟨result, store⟩
  obtain ⟨isDirectory, outcome, hdeleted, rfl⟩ :=
    Single.deleted_of_remove htree hstable hfree hremove
  obtain ⟨houtlet, -⟩ := World.connect_cases hconnect
  have hlast := Single.process_delete settings (Exchange.of_check_eq_ok hcheck).1
    hcheck hconnect hremove
  rw [hrun] at hlast
  change last = _ at hlast
  rw [hlast, ← houtlet.outlet]
  exact ⟨isDirectory, _, hdeleted, rfl⟩

/-- A text is a name. -/
theorem Name.isText_of_text (text : String) (h : text ≠ "" ∧ text ≠ "." ∧ text ≠ ".." ∧
    '/' ∉ text.toList ∧ text.toUTF8.data.contains 0 = false ∧ text.toUTF8.size ≤ maxNameSize) :
    Name.IsText text.toUTF8 :=
  ⟨text, rfl, h⟩

namespace Single

/-- A request to delete `srv/share/t`. -/
def deleteRequest : Message :=
  .of "1234" .deletionInitReq (.request ⟨some ⟨"srv/share/t", "", "", "", false⟩, .none⟩)

/-- A folder with a link to a file that is next to the folder. -/
def linkedTree : FileSystem where
  nodes := [(["srv".toUTF8], .directory 0), (["srv".toUTF8, "share".toUTF8], .directory 0),
    (["srv".toUTF8, "share".toUTF8, "t".toUTF8], .directory 0),
    (["srv".toUTF8, "share".toUTF8, "t".toUTF8, "l".toUTF8], .link "../k".toUTF8 0),
    (["srv".toUTF8, "share".toUTF8, "k".toUTF8], .file 0)]
  contents := #[⟨"kept".toUTF8, 0⟩]
  clock := 1

/-- A responder on a share with the folder. -/
def linkedWorld : World Channel :=
  ⟨.empty 8, .onRoot linkedTree [] [], true, [], none⟩

theorem mem_linkedTree {path : Path} {node : Node} (hpath : path ≠ [])
    (h : linkedTree.node? path = some node) :
    (path, node) ∈ linkedTree.nodes ∧ Store.spelledSize path ≤ maxRouteSize ∧
      ∀ name ∈ path, name.IsText := by
  have hmem := FileSystem.mem_of_node?_eq_some hpath h
  have hnames : ∀ name ∈ ["srv", "share", "t", "l", "k"].map String.toUTF8, Name.IsText name := by
    simp only [List.map_cons, List.map_nil, List.forall_mem_cons, List.not_mem_nil, false_implies,
      implies_true, and_true]
    refine ⟨?_, ?_, ?_, ?_, ?_⟩
    all_goals exact Name.isText_of_text _ (by decide +kernel)
  have hall : ∀ entry ∈ linkedTree.nodes, Store.spelledSize entry.1 ≤ maxRouteSize ∧
      ∀ name ∈ entry.1, name ∈ ["srv", "share", "t", "l", "k"].map String.toUTF8 := by
    decide +kernel
  obtain ⟨hsize, htexts⟩ := hall _ hmem
  exact ⟨hmem, hsize, fun name hname ↦ hnames name (htexts name hname)⟩

theorem isTree_linkedTree : linkedTree.IsTree where
  formed := by
    refine FileSystem.wellFormed_of_nodes (fun path node hmem ↦ ?_) fun path id hmem ↦ ?_
    · have hall : ∀ entry ∈ linkedTree.nodes,
          linkedTree.isDirectoryAt entry.1.dropLast = true := by decide +kernel
      exact hall _ hmem
    · obtain ⟨-, rfl⟩ : path = ["srv".toUTF8, "share".toUTF8, "k".toUTF8] ∧ id = 0 := by
        simpa [linkedTree] using hmem
      decide
  keys := by decide +kernel
  text above name hthere := by
    obtain ⟨node, hnode⟩ := Option.ne_none_iff_exists'.1 (mt FileSystem.kind?_eq_none.2 hthere)
    exact (mem_linkedTree (by simp) hnode).2.2 name (by simp)

theorem linkFree_linkedWorld : LinkFree linkedWorld.store "srv/share/t" := by
  rintro path ⟨names, hnames, rfl⟩ above - habove - target time hlink
  have hspelled : Url.names? "srv/share/t" = .ok ["srv".toUTF8, "share".toUTF8, "t".toUTF8] := by
    decide +kernel
  obtain rfl := Except.ok.inj (hspelled.symm.trans hnames)
  have hlink : linkedTree.node? above = some (.link target time) :=
    FileSystem.kind?_eq_link.1 hlink
  have hroot : above ≠ [] := by
    rintro rfl
    have hdir : linkedTree.isDirectoryAt [] = true := by decide +kernel
    rw [FileSystem.isDirectoryAt, hlink] at hdir
    cases hdir
  have hmem := (mem_linkedTree hroot hlink).1
  obtain ⟨rfl, -⟩ : above = ["srv".toUTF8, "share".toUTF8, "t".toUTF8, "l".toUTF8] ∧
      target = "../k".toUTF8 ∧ time = 0 := by simpa [linkedTree] using hmem
  exact absurd habove.length_le (by decide)

end Single

/-- The link is removed, and what it leads to is not. -/
theorem Exchange.deletion_does_what_it_tells_linkedTree :
    let run := ((Exchange.mk "1234" (.responder .deletion)).process default
      Single.deleteRequest).run Single.linkedWorld
    run.2.outlet = (Outlet.send Single.linkedWorld.outlet
        (Single.deletionReply "1234" "srv/share/t" true (.ok ()))).2 ∧
      run.2.store.fs.kind? ["srv".toUTF8, "share".toUTF8, "t".toUTF8] = none ∧
      run.2.store.fs.kind? ["srv".toUTF8, "share".toUTF8, "t".toUTF8, "l".toUTF8] = none ∧
      run.2.store.fs.kind? ["srv".toUTF8, "share".toUTF8, "k".toUTF8] = some (.file 0) := by
  intro run
  let connected := Single.linkedWorld.store.record ⟨.connect, "srv/share/t", .none⟩ .ok
  have hconnect : (World.connect Single.deleteRequest).run.run Single.linkedWorld =
      (.ok "srv/share/t", { Single.linkedWorld with store := connected }) := rfl
  have hspelled : Url.names? "srv/share/t" = .ok ["srv".toUTF8, "share".toUTF8, "t".toUTF8] := by
    decide +kernel
  have hcheck : (Exchange.mk "1234" (.responder .deletion)).check Single.deleteRequest =
      .ok .deletionInitReq := by decide +kernel
  have hrun : ((Exchange.mk "1234" (.responder .deletion)).process default
      Single.deleteRequest).run Single.linkedWorld = (run.1, run.2) := rfl
  obtain ⟨isDirectory, outcome, hdeleted, houtlet⟩ := deletion_does_what_it_tells hcheck hconnect
    Single.isTree_linkedTree (by decide +kernel) Single.linkFree_linkedWorld hrun
  have htarget : connected.Addresses "srv/share/t" ["srv".toUTF8, "share".toUTF8, "t".toUTF8] :=
    ⟨_, hspelled, rfl⟩
  have hdir : Single.linkedTree.isDirectoryAt ["srv".toUTF8, "share".toUTF8, "t".toUTF8] = true := by
    decide +kernel
  have hthere : connected.fs.kind? ["srv".toUTF8, "share".toUTF8, "t".toUTF8] ≠ none := by
    show Single.linkedTree.kind? _ ≠ none
    rw [FileSystem.kind?_eq_directory.2 hdir]
    simp
  have hdone : outcome = .ok () := by
    refine (hdeleted.succeeds _ htarget hthere rfl).2 fun other hother hsome ↦ ?_
    obtain ⟨node, hnode⟩ := Option.ne_none_iff_exists'.1 (mt FileSystem.kind?_eq_none.2 hsome)
    refine (Single.mem_linkedTree ?_ hnode).2.1
    rintro rfl
    simp at hother
  obtain ⟨path, ⟨names, hnames, rfl⟩, -, hkind, hgone⟩ := hdeleted.gone hdone
  obtain rfl := Except.ok.inj (hspelled.symm.trans hnames)
  obtain rfl : true = isDirectory := hdir.symm.trans hkind
  rw [hdone] at houtlet
  refine ⟨houtlet, hgone _ (List.prefix_refl _), hgone _ ⟨["l".toUTF8], rfl⟩, ?_⟩
  have hbeside : ¬ ["srv".toUTF8, "share".toUTF8, "t".toUTF8] <+:
      ["srv".toUTF8, "share".toUTF8, "k".toUTF8] := by decide +kernel
  rw [(hdeleted.others _ htarget (.inr rfl) _ hbeside).1]
  decide +kernel

/-! ### A tree that is too deep -/

namespace FileSystem

/-- A file system with nothing but the directories on the way down to a path. -/
def branch (path : Path) : FileSystem :=
  ⟨(List.range path.length).map fun level ↦ (path.take (level + 1), .directory 0), #[], 0⟩

variable {path other : Path}

theorem mem_nodes_branch {node : Node} (h : (other, node) ∈ (branch path).nodes) :
    other <+: path ∧ other ≠ [] ∧ node = .directory 0 := by
  obtain ⟨level, hlevel, heq⟩ := List.mem_map.1 h
  obtain ⟨rfl, rfl⟩ := Prod.mk.inj heq
  have hlength := List.mem_range.1 hlevel
  refine ⟨List.take_prefix _ _, ?_, rfl⟩
  rw [← List.length_pos_iff, List.length_take]
  omega

theorem keys_branch : ((branch path).nodes.map Prod.fst).Nodup := by
  simp only [branch, List.map_map]
  refine List.Nodup.map_on (fun level hlevel level' hlevel' heq ↦ ?_) List.nodup_range
  have hlength := congrArg List.length heq
  simp only [List.mem_range] at hlevel hlevel'
  simp only [Function.comp_apply, List.length_take] at hlength
  omega

theorem kind?_branch (h : other <+: path) : (branch path).kind? other = some (.directory 0) := by
  by_cases hroot : other = []
  · subst hroot
    have hlookup : (branch path).nodes.lookup [] = none := by
      rw [List.lookup_eq_none_iff]
      rintro ⟨key, node⟩ hmem
      simpa using (mem_nodes_branch hmem).2.1
    simp [kind?, node?, hlookup, Node.timeless]
  · have hlength := List.length_pos_iff.2 hroot
    have hle := h.length_le
    have hmem : (other, .directory 0) ∈ (branch path).nodes :=
      List.mem_map.2 ⟨other.length - 1, List.mem_range.2 (by omega), by
        rw [Nat.sub_add_cancel hlength, ← List.prefix_iff_eq_take.1 h]⟩
    rw [kind?, node?_of_lookup (lookup_of_mem keys_branch hmem)]
    rfl

theorem kind?_branch_ne_link {target : ByteArray} {time : Int64} :
    (branch path).kind? other ≠ some (.link target time) := by
  intro hlink
  by_cases hroot : other = []
  · rw [kind?_branch (hroot ▸ List.nil_prefix)] at hlink
    cases hlink
  · cases (mem_nodes_branch (mem_of_node?_eq_some hroot (kind?_eq_link.1 hlink))).2.2

/-- The directories on the way down to a path make a tree. -/
theorem isTree_branch (h : ∀ name ∈ path, name.IsText) : (branch path).IsTree where
  formed := wellFormed_of_nodes
    (fun other node hmem ↦ kind?_eq_directory.1
      (kind?_branch ((List.dropLast_prefix other).trans (mem_nodes_branch hmem).1)))
    (fun other id hmem ↦ by cases (mem_nodes_branch hmem).2.2)
  keys := keys_branch
  text above name hthere := by
    obtain ⟨node, hnode⟩ := Option.ne_none_iff_exists'.1 (mt kind?_eq_none.2 hthere)
    have hmem := mem_of_node?_eq_some (by simp) hnode
    exact h name ((mem_nodes_branch hmem).1.subset (by simp))

end FileSystem

namespace Single

/-- A name that is as long as a name can be. -/
def longText : String :=
  String.ofList (List.replicate 255 'a')

theorem slash_notMem_replicate (count : Nat) :
    '/' ∉ (String.ofList (List.replicate count 'a')).toList := by
  simp [List.mem_replicate]

theorem isText_longText : Name.IsText longText.toUTF8 :=
  ⟨longText, rfl, by decide +kernel, by decide +kernel, by decide +kernel,
    slash_notMem_replicate 255, by rw [← Array.contains_toList]; decide +kernel, by decide +kernel⟩

/-- A path that is longer than a path that can be asked for, below a target of a few names. -/
def deepPath : Path :=
  ["srv".toUTF8, "share".toUTF8, "t".toUTF8] ++ List.replicate 16 longText.toUTF8

theorem isTree_deep : (FileSystem.branch deepPath).IsTree := by
  refine FileSystem.isTree_branch fun name hname ↦ ?_
  rcases List.mem_append.1 hname with hshort | hdeep
  · have hshort : name = "srv".toUTF8 ∨ name = "share".toUTF8 ∨ name = "t".toUTF8 := by
      simpa using hshort
    rcases hshort with rfl | rfl | rfl
    all_goals exact Name.isText_of_text _ (by decide +kernel)
  · rw [List.eq_of_mem_replicate hdeep]
    exact isText_longText

/-- A responder on a share with nothing but the way down to a path that is too long. -/
def deepWorld : World Channel :=
  ⟨.empty 8, .onRoot (.branch deepPath) [] [], true, [], none⟩

/-- What the responder is asked to delete. -/
def deepTarget : Path :=
  ["srv".toUTF8, "share".toUTF8, "t".toUTF8]

/-- **A tree that is too deep cannot be deleted**, though it is there and nothing is made to fail. -/
theorem deletion_of_deep_tree_fails :
    let exchange := Exchange.mk "1234" (.responder .deletion)
    exchange.check deleteRequest = .ok .deletionInitReq ∧
    ((World.connect deleteRequest).run.run deepWorld).1 = .ok "srv/share/t" ∧
    deepWorld.store.fs.IsTree ∧ Url.IsStable "srv/share/t" ∧
    LinkFree deepWorld.store "srv/share/t" ∧ deepWorld.store.faults = [] ∧
    deepWorld.store.Addresses "srv/share/t" deepTarget ∧
    deepWorld.store.fs.kind? deepTarget ≠ none ∧
    ∃ isDirectory errno, ((exchange.process default deleteRequest).run deepWorld).2.outlet =
      (Outlet.send deepWorld.outlet
        (deletionReply "1234" "srv/share/t" isDirectory (.error errno))).2 := by
  intro exchange
  have hcheck : exchange.check deleteRequest = .ok .deletionInitReq := by decide +kernel
  have hstable : Url.IsStable "srv/share/t" := by decide +kernel
  let connected := deepWorld.store.record ⟨.connect, "srv/share/t", .none⟩ .ok
  have hconnect : (World.connect deleteRequest).run.run deepWorld =
      (.ok "srv/share/t", { deepWorld with store := connected }) := rfl
  have hfree : LinkFree deepWorld.store "srv/share/t" :=
    fun _ _ _ _ _ _ _ _ ↦ FileSystem.kind?_branch_ne_link
  have haddresses : deepWorld.store.Addresses "srv/share/t" deepTarget :=
    ⟨deepTarget, by decide +kernel, rfl⟩
  have hthere : deepWorld.store.fs.kind? deepTarget ≠ none := by
    show (FileSystem.branch deepPath).kind? deepTarget ≠ none
    rw [FileSystem.kind?_branch (show deepTarget <+: deepPath from List.prefix_append _ _)]
    simp
  refine ⟨hcheck, rfl, isTree_deep, hstable, hfree, rfl, haddresses, hthere, ?_⟩
  rcases hremove : (remove "srv/share/t").run.run connected with ⟨result, store⟩
  obtain ⟨isDirectory, last, hdeleted, rfl⟩ :=
    @deleted_of_remove connected store "srv/share/t" result isTree_deep hstable hfree hremove
  -- the path all the way down is there, and too long
  cases last with
  | ok done =>
    have hfits := (hdeleted.succeeds deepTarget haddresses hthere rfl).1 rfl deepPath
      (List.prefix_append _ _) (by
        show (FileSystem.branch deepPath).kind? deepPath ≠ none
        rw [FileSystem.kind?_branch (List.prefix_refl _)]
        simp)
    exact absurd hfits (by decide +kernel)
  | error error =>
    have hid : deleteRequest.requestId = "1234" := rfl
    exact ⟨isDirectory, error.errno,
      congrArg World.outlet (process_delete default hid hcheck hconnect hremove)⟩

end Single

end FileShare
