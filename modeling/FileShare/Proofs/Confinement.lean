import FileShare.Proofs.Deletion

/-!
# What a deletion leaves alone

A deletion goes by names: it lists a directory and makes the URL of each entry anew, from the text
of its name. Looking and removing never follow a link at the end of a URL, but opening a directory
does. So it has to be known, each time a directory is opened, that no link is in its place.

Below the target that is known from the listing, up to one thing: a name that is no text is listed
under another name, and that may be the name of a link next to it (`FileSystem.ListsApart`). At the
target it is known from the look that is taken at it before; if nothing could be told about it, it
is opened all the same. Where neither of the two comes up, **nothing outside the target is touched**
(`Exchange.deletion_stays_below`): for names of any bytes and links anywhere below the target, and
whatever fails.

What is kept from one call to the next is that the table has only shrunk since a directory was
opened, so that its URL leads there still, or nowhere (`Store.Leads`), and that what has been done
was done below it (`Store.Confines`). Nothing is said here about what a deletion achieves.
-/

namespace FileShare

/-! ### Tables with names of any bytes -/

namespace FileSystem

variable {fs fs' : FileSystem} {path : Path}

/-- No directory at or below a path has a directory among its entries that is listed under the name
of a link. A name that is text is listed under itself; others may be listed under the same name. -/
def ListsApart (fs : FileSystem) (path : Path) : Prop :=
  ∀ above name, path <+: above → fs.isDirectoryAt (above ++ [name]) = true →
    ∀ target time, fs.kind? (above ++ [(lossyText name).toUTF8]) ≠ some (.link target time)

theorem ListsApart.mono {below : Path} (h : fs.ListsApart path) (hshrinks : fs.Shrinks fs')
    (hbelow : path <+: below) : fs'.ListsApart below :=
  fun above name habove hdir target time hlink ↦
    h above name (hbelow.trans habove) (hshrinks.isDirectoryAt hdir) target time
      (hshrinks _ _ hlink)

end FileSystem

/-! ### What a URL leads to -/

namespace Store

variable {store store' store'' : Store} {fs : FileSystem} {url text : String} {names : List Name}
variable {path : Path} {name : Name}

/-- A URL **leads** to a directory: it did when that was opened, and since then the table has only
shrunk. -/
structure Leads (store : Store) (fs : FileSystem) (url : String) (names : List Name)
    (path : Path) : Prop where
  stable : Url.IsStable url
  spelled : Url.names? url = .ok names
  place : fs.place true store.root (names.map .name) = .ok path
  hosted : store.fs.IsHosted
  hostedThen : fs.IsHosted
  shrinks : fs.Shrinks store.fs

/-- **What has become of a store** on which entries below a directory may have been taken away, and
nothing else. -/
structure Confines (store store' : Store) (path : Path) : Prop where
  root : store'.root = store.root
  hosted : store'.fs.IsHosted
  shrinks : store.fs.Shrinks store'.fs
  contents : store'.fs.contents = store.fs.contents
  outside : ∀ other, ¬ path <+: other → store'.fs.node? other = store.fs.node? other

theorem Confines.trans (h : store.Confines store' path) (h' : store'.Confines store'' path) :
    store.Confines store'' path where
  root := h'.root.trans h.root
  hosted := h'.hosted
  shrinks := h.shrinks.trans h'.shrinks
  contents := h'.contents.trans h.contents
  outside other hother := (h'.outside other hother).trans (h.outside other hother)

/-- What is below an entry is below the directory. -/
theorem Confines.of_entry (h : store.Confines store' (path ++ [name])) :
    store.Confines store' path :=
  ⟨h.root, h.hosted, h.shrinks, h.contents, fun other hother ↦
    h.outside other fun hprefix ↦ hother ((List.prefix_append path [name]).trans hprefix)⟩

/-- Where nothing is changed, nothing is changed outside. -/
theorem Confines.of_eq (hhosted : store.fs.IsHosted) (hroot : store'.root = store.root)
    (hfs : store'.fs = store.fs) : store.Confines store' path :=
  ⟨hroot, hfs ▸ hhosted, hfs ▸ .refl _, by rw [hfs], fun _ _ ↦ by rw [hfs]⟩

theorem Leads.mono (h : store.Leads fs url names path) (hconfines : store.Confines store' path) :
    store'.Leads fs url names path :=
  ⟨h.stable, h.spelled, hconfines.root ▸ h.place, hconfines.hosted, h.hostedThen,
    h.shrinks.trans hconfines.shrinks⟩

theorem Leads.confines_inspect {α : Type} {call : Call} {answer : α → Answer}
    {look : Store → Except Errno α} {result : Except ShareError α}
    (h : store.Leads fs url names path)
    (hrun : (Share.inspect call answer look).run.run store = (result, store')) :
    store.Confines store' path :=
  .of_eq h.hosted (Share.records_inspect hrun).root (Share.records_inspect hrun).fs

/-- **To take away what is under a name** in a directory touches nothing outside the directory. -/
theorem Leads.confines_dispose (isDirectory : Bool) {result : Except ShareError Unit}
    (h : store.Leads fs url names path) (htext : Url.IsEntryName text)
    (hrun : (Share.dispose isDirectory (Url.join url text)).run.run store = (result, store')) :
    store.Confines store' path := by
  obtain ⟨-, hjoin⟩ := Url.names?_join h.stable h.spelled htext
  obtain ⟨hroot, -, -, ⟨-, hfs⟩ | ⟨-, names', last, hnames', -, hplace, -, hdrops⟩⟩ :=
    Share.dispose_cases h.hosted.formed hrun
  · exact .of_eq h.hosted hroot hfs
  · obtain rfl : names' = names ++ [text.toUTF8] := Except.ok.inj (hnames'.symm.trans hjoin)
    obtain rfl := FileSystem.place_entry_of_shrinks h.shrinks h.place (by simp) hplace
    refine ⟨hroot, hdrops.isHosted h.hosted, hdrops.shrinks, hdrops.contents, fun other hother ↦ ?_⟩
    refine hdrops.nodes other ?_ ?_
    · rintro rfl
      exact hother (List.prefix_append _ _)
    · rintro rfl
      exact hother (by simp)

/-- **A directory that is opened under a name that is no link** is in the directory. -/
theorem Leads.opened {directory : Directory} (h : store.Leads fs url names path)
    (htext : Url.IsEntryName text)
    (hplain : ∀ target time, fs.kind? (path ++ [text.toUTF8]) ≠ some (.link target time))
    (hrun : (Share.openDirectory (Url.join url text)).run.run store = (.ok directory, store')) :
    store'.Leads store.fs (Url.join url text) (names ++ [text.toUTF8]) (path ++ [text.toUTF8]) ∧
      ∀ entry ∈ directory.entries, entry.IsListed store.fs (path ++ [text.toUTF8]) := by
  obtain ⟨hstable, hjoin⟩ := Url.names?_join h.stable h.spelled htext
  obtain ⟨names', last, hsteps, hplace, -, hentries⟩ :=
    Share.openDirectory_entries h.hosted.keys hrun
  obtain ⟨hnames', -, -⟩ := steps?_map_eq_ok.1 hsteps
  obtain rfl : names' = names ++ [text.toUTF8] := Except.ok.inj (hnames'.symm.trans hjoin)
  obtain rfl := FileSystem.place_entry_of_shrinks h.shrinks h.place
    (fun _ target time hlink ↦ hplain target time (h.shrinks _ _ hlink)) hplace
  have hrecords := Share.records_inspect hrun
  exact ⟨⟨hstable, hjoin, hrecords.root.symm ▸ hplace, hrecords.fs.symm ▸ h.hosted, h.hosted,
    hrecords.fs.symm ▸ .refl _⟩, fun entry ↦ (hentries entry).1⟩

end Store

namespace Share

variable {store store' : Store} {fs : FileSystem} {url : String} {names : List Name} {path : Path}

/-- **What is listed as a directory is one**, so there is no link under its text. -/
theorem not_link_of_isListed {entry : Entry} (hapart : fs.ListsApart path)
    (h : entry.IsListed fs path) (hkind : (entry.stat.isDirectory && !entry.stat.isLink) = true)
    (target : ByteArray) (time : Int64) :
    fs.kind? (path ++ [entry.name.toUTF8]) ≠ some (.link target time) := by
  obtain ⟨name, node, hnode, rfl⟩ := h
  refine hapart path name (List.prefix_refl _) ?_ target time
  cases node with
  | directory time => exact FileSystem.isDirectoryAt_of_node? hnode
  | _ => cases hkind

/-- **Emptying a directory touches nothing outside it**, if no link can pass for one of its
directories. -/
theorem Empties.confines {entries : List Entry} (h : Empties url entries store store')
    (hleads : store.Leads fs url names path) (hlisted : ∀ entry ∈ entries, entry.IsListed fs path)
    (hapart : fs.ListsApart path) : store.Confines store' path := by
  induction h generalizing fs names path with
  | ended hnext | broken hnext => exact hleads.confines_inspect hnext
  | dots hnext _ _ ih =>
    have hgiven := hleads.confines_inspect hnext
    exact hgiven.trans (ih (hleads.mono hgiven) (List.forall_mem_cons.1 hlisted).2 hapart)
  | folder hnext hdots hkind hopen _ hremove _ ihbelow ih =>
    obtain ⟨hentry, hrest⟩ := List.forall_mem_cons.1 hlisted
    have htext := hentry.isEntryName hleads.hostedThen hdots
    have hgiven := hleads.confines_inspect hnext
    have hleadsGiven := hleads.mono hgiven
    obtain ⟨hleadsBelow, hlistedBelow⟩ :=
      hleadsGiven.opened htext (not_link_of_isListed hapart hentry hkind) hopen
    have hcleared := ihbelow hleadsBelow hlistedBelow
      (hapart.mono hleadsGiven.shrinks (List.prefix_append _ _))
    have hemptied := hgiven.trans ((hleadsGiven.confines_inspect hopen).trans hcleared.of_entry)
    have hremoved := hemptied.trans
      ((hleads.mono hemptied).confines_dispose true htext hremove)
    exact hremoved.trans (ih (hleads.mono hremoved) hrest hapart)
  | shut hnext hdots _ hopen hremove _ ih =>
    obtain ⟨hentry, hrest⟩ := List.forall_mem_cons.1 hlisted
    have htext := hentry.isEntryName hleads.hostedThen hdots
    have hgiven := hleads.confines_inspect hnext
    have hopened := hgiven.trans ((hleads.mono hgiven).confines_inspect hopen)
    have hremoved := hopened.trans
      ((hleads.mono hopened).confines_dispose true htext hremove)
    exact hremoved.trans (ih (hleads.mono hremoved) hrest hapart)
  | other hnext hdots _ hremove _ ih =>
    obtain ⟨hentry, hrest⟩ := List.forall_mem_cons.1 hlisted
    have htext := hentry.isEntryName hleads.hostedThen hdots
    have hgiven := hleads.confines_inspect hnext
    have hremoved := hgiven.trans
      ((hleads.mono hgiven).confines_dispose false htext hremove)
    exact hremoved.trans (ih (hleads.mono hremoved) hrest hapart)

end Share

/-! ### From the target on -/

namespace Single

variable {store store' before : Store} {url : String} {names : List Name} {isDirectory : Bool}

/-- If what a URL addresses is a link, that can be told. -/
def Discerns (store : Store) (url : String) : Prop :=
  (∀ path, store.Addresses url path →
    ∀ target time, store.fs.kind? path ≠ some (.link target time)) ∨
  ∃ stat looked, (Share.linkStat url).run.run store = (.ok stat, looked)

/-- **What a deletion leaves alone**: all that is not at or below its target. The directory above
notes the time. -/
structure StaysBelow (store store' : Store) (url : String) : Prop where
  /-- A directory is emptied by a recursion that comes to its end. -/
  ends : ∀ directory opened, (openDoomed url).run.run store = (.ok directory, opened) →
    Share.Empties url directory.entries opened ((Share.clear url directory).run opened).2
  contents : store'.fs.contents = store.fs.contents
  kinds : ∀ other, (∀ path, store.Addresses url path → ¬ path <+: other) →
    store'.fs.kind? other = store.fs.kind? other
  nodes : ∀ other, (∀ path, store.Addresses url path → ¬ path <+: other ∧ other ≠ path.dropLast) →
    store'.fs.node? other = store.fs.node? other

/-- A link that can be told to be one is not opened for deletion. -/
theorem Discerns.not_link {directory : Directory} {opened : Store} (h : Discerns store url)
    (hfree : LinkFree store url) (hnames : Url.names? url = .ok names)
    (hopen : (openDoomed url).run.run store = (.ok directory, opened)) :
    ∀ target time, store.fs.kind? (store.root ++ names) ≠ some (.link target time) := by
  rcases h with hplain | ⟨stat, looked, hlook⟩
  · exact hplain _ ⟨names, hnames, rfl⟩
  intro target time hlink
  obtain ⟨faults, hlooked⟩ := Share.look_of_inspect hlook
  obtain ⟨steps, hsteps, hlooked⟩ := FileSystem.bind_eq_ok.1 hlooked
  obtain ⟨info, hinfo, hstat⟩ := FileSystem.bind_eq_ok.1 hlooked
  obtain rfl := Except.ok.inj hstat
  obtain ⟨⟨path, node⟩, hfind, hnode⟩ := FileSystem.bind_eq_ok.1 hinfo
  obtain rfl := Except.ok.inj hnode
  obtain ⟨hplace, hnode⟩ := FileSystem.find_eq_ok.1 hfind
  obtain ⟨names', hnames', -, -, rfl⟩ := Store.steps?_eq_ok.1 hsteps
  obtain rfl := Except.ok.inj (hnames.symm.trans hnames')
  obtain rfl := hfree.eq_of_place hnames (.refl _) (by simp) hplace
  obtain rfl := Option.some.inj (hnode.symm.trans (FileSystem.kind?_eq_link.1 hlink))
  rcases openDoomed_cases hopen with ⟨_, _, -, -, hcontra⟩ | ⟨answer, _, hlook', hplain, -⟩
  · cases hcontra
  · obtain ⟨rfl, -⟩ := Prod.mk.inj (hlook.symm.trans hlook')
    cases hplain _ rfl

/-- What the URL of a directory leads to when that has been opened for deletion. -/
theorem leads_of_openDoomed {directory : Directory} {opened : Store} (hhosted : store.fs.IsHosted)
    (hstable : Url.IsStable url) (hfree : LinkFree store url) (hdiscerns : Discerns store url)
    (hopen : (openDoomed url).run.run store = (.ok directory, opened)) :
    ∃ names : List Name, Url.names? url = .ok names ∧
      opened.Leads store.fs url names (store.root ++ names) ∧
      ∀ entry ∈ directory.entries, entry.IsListed store.fs (store.root ++ names) := by
  rcases openDoomed_cases hopen with ⟨_, _, -, -, hcontra⟩ | ⟨answer, looked, hlook, -, hlist⟩
  · cases hcontra
  have hlooked := Share.records_inspect hlook
  have hopened := Share.records_inspect hlist
  obtain ⟨names, path, hsteps, hplace, -, hentries⟩ :=
    Share.openDirectory_entries (hlooked.fs.symm ▸ hhosted.keys) hlist
  obtain ⟨hnames, -, -⟩ := Store.steps?_map_eq_ok.1 hsteps
  rw [hlooked.fs, hlooked.root] at hplace
  obtain rfl := hfree.eq_of_place hnames (.refl _) (fun _ ↦ hdiscerns.not_link hfree hnames hopen)
    hplace
  have hfs := hopened.fs.trans hlooked.fs
  have hroot := hopened.root.trans hlooked.root
  rw [hlooked.fs] at hentries
  exact ⟨names, hnames, ⟨hstable, hnames, hroot.symm ▸ hplace, hfs.symm ▸ hhosted, hhosted,
    hfs.symm ▸ .refl _⟩, fun entry ↦ (hentries entry).1⟩

/-- A directory that has been opened for deletion is emptied without touching what is outside. -/
theorem clear_confines {directory : Directory} {opened : Store} (hhosted : store.fs.IsHosted)
    (hstable : Url.IsStable url) (hfree : LinkFree store url) (hdiscerns : Discerns store url)
    (hapart : ∀ path, store.Addresses url path → store.fs.ListsApart path)
    (hopen : (openDoomed url).run.run store = (.ok directory, opened))
    (hclear : (Share.clear url directory).run opened = ((), before)) :
    ∃ names, Url.names? url = .ok names ∧ store.Confines before (store.root ++ names) := by
  obtain ⟨names, hnames, hleads, hlisted⟩ :=
    leads_of_openDoomed hhosted hstable hfree hdiscerns hopen
  have hlooks := (openDoomed_looks hopen).records
  have hempties := empties_of_openDoomed hhosted hopen
  rw [hclear] at hempties
  exact ⟨names, hnames, (Store.Confines.of_eq hhosted hlooks.root hlooks.fs).trans
    (hempties.confines hleads hlisted (hapart _ ⟨names, hnames, rfl⟩))⟩

/-- Up to the last call of a deletion, nothing outside the target has been touched. -/
theorem Prepared.confines (h : Prepared store url isDirectory before) (hhosted : store.fs.IsHosted)
    (hstable : Url.IsStable url) (hfree : LinkFree store url) (hdiscerns : Discerns store url)
    (hapart : ∀ path, store.Addresses url path → store.fs.ListsApart path) :
    store.root = before.root ∧ store.fs = before.fs ∨
      ∃ names, Url.names? url = .ok names ∧ store.Confines before (store.root ++ names) := by
  cases h with
  | unopened hopen =>
    have hlooks := (openDoomed_looks hopen).records
    exact .inl ⟨hlooks.root.symm, hlooks.fs.symm⟩
  | emptied hopen hclear =>
    exact .inr (clear_confines hhosted hstable hfree hdiscerns hapart hopen hclear)

/-- **A deletion stays below its target**, whatever fails. -/
theorem staysBelow_of_remove {result : Except ShareError Bool} (hhosted : store.fs.IsHosted)
    (hstable : Url.IsStable url) (hfree : LinkFree store url) (hdiscerns : Discerns store url)
    (hapart : ∀ path, store.Addresses url path → store.fs.ListsApart path)
    (h : (remove url).run.run store = (result, store')) : StaysBelow store store' url := by
  obtain ⟨isDirectory, before, last, hprepared, hlast, -⟩ := remove_cases h
  -- up to the last call, which is made at the target itself
  have hbefore : before.root = store.root ∧ before.fs.IsHosted ∧ store.fs.Shrinks before.fs ∧
      before.fs.contents = store.fs.contents ∧
      ∀ other, (∀ path, store.Addresses url path → ¬ path <+: other) →
        before.fs.node? other = store.fs.node? other := by
    rcases hprepared.confines hhosted hstable hfree hdiscerns hapart with
      ⟨hroot, hfs⟩ | ⟨names, hnames, hconfines⟩
    · rw [← hfs]
      exact ⟨hroot.symm, hhosted, .refl _, rfl, fun _ _ ↦ rfl⟩
    · exact ⟨hconfines.root, hconfines.hosted, hconfines.shrinks, hconfines.contents,
        fun other hother ↦ hconfines.outside other (hother _ ⟨names, hnames, rfl⟩)⟩
  obtain ⟨hroot, hhostedBefore, hshrinks, hcontents, houtside⟩ := hbefore
  have hends (directory : Directory) (opened : Store) :=
    @empties_of_openDoomed store opened url directory hhosted
  have hkinds (other : Path) (hother : ∀ path, store.Addresses url path → ¬ path <+: other) :
      before.fs.kind? other = store.fs.kind? other :=
    congrArg (·.map Node.timeless) (houtside other hother)
  obtain ⟨-, -, -, ⟨-, hfs⟩ | ⟨-, names, path, hnames, -, hplace, -, hdrops⟩⟩ :=
    Share.dispose_cases hhostedBefore.formed hlast
  · refine ⟨hends, by rw [hfs, hcontents], fun other hother ↦ ?_, fun other hother ↦ ?_⟩
    · rw [hfs, hkinds other hother]
    · rw [hfs, houtside other fun path hpath ↦ (hother path hpath).1]
  · rw [hroot] at hplace
    obtain rfl := hfree.eq_of_place hnames hshrinks (by simp) hplace
    have htarget : store.Addresses url (store.root ++ names) := ⟨names, hnames, rfl⟩
    have hne {other : Path} (hother : ¬ store.root ++ names <+: other) :
        other ≠ store.root ++ names := fun heq ↦ hother (heq ▸ List.prefix_refl _)
    refine ⟨hends, hdrops.contents.trans hcontents, fun other hother ↦ ?_, fun other hother ↦ ?_⟩
    · exact (hdrops.kinds other (hne (hother _ htarget))).trans (hkinds other hother)
    · obtain ⟨hoff, habove⟩ := hother _ htarget
      exact (hdrops.nodes other (hne hoff) habove).trans
        (houtside other fun path hpath ↦ (hother path hpath).1)

end Single

/-- **A deletion follows no link.** Names may be any bytes, links may be anywhere but between the
root of the share and the target, and calls may fail in any way once the credentials have been
adopted. Then nothing is touched that is not at or below the target, so nothing that only a link
leads to, if a link at the target can be told to be one, and if no directory below the target is
listed under the name of a link next to it. -/
theorem Exchange.deletion_stays_below {ω : Type} [Outlet ω] {settings : TransferSettings}
    {requestId url : String} {message : Message} {world mid last : World ω}
    {handled : Handled Exchange}
    (hcheck : (Exchange.mk requestId (.responder .deletion)).check message =
      .ok .deletionInitReq)
    (hconnect : (World.connect message).run.run world = (.ok url, mid))
    (hhosted : mid.store.fs.IsHosted) (hstable : Url.IsStable url)
    (hfree : Single.LinkFree mid.store url) (hdiscerns : Single.Discerns mid.store url)
    (hapart : ∀ path, mid.store.Addresses url path → mid.store.fs.ListsApart path)
    (hrun : ((Exchange.mk requestId (.responder .deletion)).process settings message).run world =
      (handled, last)) :
    Single.StaysBelow mid.store last.store url := by
  rcases hremove : (Single.remove url).run.run mid.store with ⟨result, store⟩
  have hbelow := Single.staysBelow_of_remove hhosted hstable hfree hdiscerns hapart hremove
  obtain ⟨isDirectory, -, outcome, -, -, rfl⟩ := Single.remove_cases hremove
  have hlast := Single.process_delete settings (Exchange.of_check_eq_ok hcheck).1 hcheck hconnect
    hremove
  rw [hrun] at hlast
  change last = _ at hlast
  rw [hlast]
  exact hbelow

namespace Single

/-- A folder with a link to a folder that is next to it, and with a folder whose name is no text. -/
def strangeTree : FileSystem where
  nodes := [(["srv".toUTF8], .directory 0), (["srv".toUTF8, "share".toUTF8], .directory 0),
    (["srv".toUTF8, "share".toUTF8, "t".toUTF8], .directory 0),
    (["srv".toUTF8, "share".toUTF8, "t".toUTF8, "l".toUTF8], .link "../k".toUTF8 0),
    (["srv".toUTF8, "share".toUTF8, "t".toUTF8, ⟨#[0xff]⟩], .directory 0),
    (["srv".toUTF8, "share".toUTF8, "k".toUTF8], .directory 0),
    (["srv".toUTF8, "share".toUTF8, "k".toUTF8, "x".toUTF8], .file 0)]
  contents := #[⟨"kept".toUTF8, 0⟩]
  clock := 1

/-- A responder on a share with the folder, on which the first thing that is to be unlinked cannot
be. -/
def strangeWorld : World Channel :=
  ⟨.empty 8, .onRoot strangeTree [] [⟨.unlink, "", 0, some 1, ⟨some .accessDenied, none⟩⟩], true,
    [], none⟩

theorem isHosted_strangeTree : strangeTree.IsHosted where
  formed := by
    refine FileSystem.wellFormed_of_nodes (fun path node hmem ↦ ?_) fun path id hmem ↦ ?_
    · have hall : ∀ entry ∈ strangeTree.nodes,
          strangeTree.isDirectoryAt entry.1.dropLast = true := by decide +kernel
      exact hall _ hmem
    · obtain ⟨-, rfl⟩ : path = ["srv".toUTF8, "share".toUTF8, "k".toUTF8, "x".toUTF8] ∧ id = 0 := by
        simpa [strangeTree] using hmem
      decide
  keys := by decide +kernel
  proper above name hthere := by
    obtain ⟨node, hnode⟩ := Option.ne_none_iff_exists'.1 (mt FileSystem.kind?_eq_none.2 hthere)
    have hall : ∀ entry ∈ strangeTree.nodes, ∀ name ∈ entry.1, name.IsProper := by decide +kernel
    exact hall _ (FileSystem.mem_of_node?_eq_some (by simp) hnode) name (by simp)

/-- The only link is where its name says. -/
theorem kind?_strangeTree_link {path : Path} {target : ByteArray} {time : Int64}
    (h : strangeTree.kind? path = some (.link target time)) :
    path = ["srv".toUTF8, "share".toUTF8, "t".toUTF8, "l".toUTF8] := by
  have hnode := FileSystem.kind?_eq_link.1 h
  have hroot : path ≠ [] := by
    rintro rfl
    have hdir : strangeTree.isDirectoryAt [] = true := by decide +kernel
    rw [FileSystem.isDirectoryAt, hnode] at hdir
    cases hdir
  have hmem := FileSystem.mem_of_node?_eq_some hroot hnode
  exact (show _ ∧ target = "../k".toUTF8 ∧ time = 0 by simpa [strangeTree] using hmem).1

end Single

/-- The folder is kept by the link that cannot be removed; what the link leads to is as it was. -/
theorem Exchange.deletion_stays_below_strangeTree :
    let run := ((Exchange.mk "1234" (.responder .deletion)).process default
      Single.deleteRequest).run Single.strangeWorld
    run.2.store.fs.kind? ["srv".toUTF8, "share".toUTF8, "k".toUTF8, "x".toUTF8] =
        some (.file 0) ∧
      run.2.store.fs.node? ["srv".toUTF8, "share".toUTF8, "k".toUTF8] = some (.directory 0) := by
  intro run
  let connected := Single.strangeWorld.store.record ⟨.connect, "srv/share/t", .none⟩ .ok
  have hconnect : (World.connect Single.deleteRequest).run.run Single.strangeWorld =
      (.ok "srv/share/t", { Single.strangeWorld with store := connected }) := rfl
  have hspelled : Url.names? "srv/share/t" = .ok ["srv".toUTF8, "share".toUTF8, "t".toUTF8] := by
    decide +kernel
  have hcheck : (Exchange.mk "1234" (.responder .deletion)).check Single.deleteRequest =
      .ok .deletionInitReq := by decide +kernel
  have hrun : ((Exchange.mk "1234" (.responder .deletion)).process default
      Single.deleteRequest).run Single.strangeWorld = (run.1, run.2) := rfl
  have htarget (path : Path) (h : connected.Addresses "srv/share/t" path) :
      path = ["srv".toUTF8, "share".toUTF8, "t".toUTF8] := by
    obtain ⟨names, hnames, rfl⟩ := h
    rw [← Except.ok.inj (hspelled.symm.trans hnames)]
  have hfree : Single.LinkFree connected "srv/share/t" := by
    rintro path hpath above - habove - target time hlink
    have hlength := htarget path hpath ▸ habove.length_le
    rw [Single.kind?_strangeTree_link hlink] at hlength
    exact absurd hlength (by decide)
  have hdiscerns : Single.Discerns connected "srv/share/t" := by
    refine .inl fun path hpath target time hlink ↦ ?_
    have hlength := congrArg List.length (htarget path hpath ▸ Single.kind?_strangeTree_link hlink)
    exact absurd hlength (by decide)
  have hapart (path : Path) (_ : connected.Addresses "srv/share/t" path) :
      connected.fs.ListsApart path := by
    intro above name _ hdir target time hlink
    have hsplit : above ++ [(lossyText name).toUTF8] =
        ["srv".toUTF8, "share".toUTF8, "t".toUTF8] ++ ["l".toUTF8] :=
      Single.kind?_strangeTree_link hlink
    obtain ⟨rfl, hname⟩ := List.append_inj' hsplit rfl
    -- the only directory next to the link is listed under the replacement character
    obtain ⟨modified, hnode⟩ := FileSystem.exists_of_isDirectoryAt hdir
    have hmem := FileSystem.mem_of_node?_eq_some (by simp) hnode
    obtain ⟨rfl, -⟩ : name = ⟨#[0xff]⟩ ∧ modified = 0 := by
      simpa [connected, Single.strangeWorld, Single.strangeTree, Store.onRoot, Store.record]
        using hmem
    exact absurd hname (by decide +kernel)
  have hbelow := Exchange.deletion_stays_below hcheck hconnect Single.isHosted_strangeTree
    (by decide +kernel) hfree hdiscerns hapart hrun
  refine ⟨(hbelow.kinds _ fun path hpath ↦ ?_).trans (by decide +kernel),
    (hbelow.nodes _ fun path hpath ↦ ?_).trans (by decide +kernel)⟩
  · rw [htarget path hpath]
    decide +kernel
  · rw [htarget path hpath]
    decide +kernel

end FileShare
