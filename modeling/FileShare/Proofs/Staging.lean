import FileShare.Exchange.Upload
import FileShare.Proofs.Calls
import FileShare.Proofs.Urls

/-!
# The temporary file of an upload

An upload is written into a temporary file, and put into the place of its target when it is
complete. This module follows the temporary file through the calls of the responder, whatever fails.

Directories that are made on the way to the target leave all files as they are
(`FileSystem.Grown`). After the temporary file has been opened it is **staged** (`Staged`): it has a
content of its own that no other path names, the handle writes at its end, and its URL leads to it.
Writing keeps it so, and a write that succeeds has appended all of its bytes (`Staged.write`). To
commit it moves it to the place of the target, as it is, or changes nothing (`Staged.commit`).
To discard it touches nothing but the temporary
file.

What this needs of the temporary name is that nothing else has it (`Unused`).
-/

namespace FileShare

namespace FileSystem

variable {fs fs' fs'' : FileSystem} {path : Path}

/-! ### Directories that are made -/

/-- Directories may have been made, and nothing else has changed. -/
structure Grown (fs fs' : FileSystem) : Prop where
  kept : fs.Extends fs'
  fresh : ∀ path kind, fs'.kind? path = some kind →
    fs.kind? path = some kind ∨ kind = .directory 0
  wellFormed : fs.WellFormed → fs'.WellFormed
  files : fs.WellFormed → ∀ path, fs'.fileAt path = fs.fileAt path

theorem Grown.refl (fs : FileSystem) : fs.Grown fs :=
  ⟨.refl fs, fun _ _ h ↦ .inl h, id, fun _ _ ↦ rfl⟩

theorem Grown.trans (h : fs.Grown fs') (h' : fs'.Grown fs'') : fs.Grown fs'' where
  kept := h.kept.trans h'.kept
  fresh path kind hkind := by
    rcases h'.fresh path kind hkind with hkind | hdir
    · exact h.fresh path kind hkind
    · exact .inr hdir
  wellFormed hwell := h'.wellFormed (h.wellFormed hwell)
  files hwell path := (h'.files (h.wellFormed hwell) path).trans (h.files hwell path)

theorem Gains.grown (h : fs.Gains fs' path (.directory 0)) : fs.Grown fs' where
  kept := h.extends
  fresh other kind hkind := by
    rw [h.kinds] at hkind
    split at hkind
    · exact .inr (Option.some.inj hkind).symm
    · exact .inl hkind
  wellFormed := h.wellFormed
  files hwell other := by
    by_cases heq : other = path
    · rw [heq, fileAt_eq_none fun id ↦ by rw [h.kind?_self]; simp,
        fileAt_eq_none fun id ↦ by rw [h.fresh]; simp]
    · exact h.fileAt_of_ne hwell heq

end FileSystem

namespace Store

variable {store store' store'' : Store}

/-- What a URL stands for depends on the root alone, and ends in a name. -/
theorem steps?_cases {url : String} {steps : List Step} (h : store.steps? url = .ok steps) :
    ∃ names, Url.names? url = .ok names ∧ steps = names.map Step.name := by
  unfold steps? at h
  obtain ⟨names, hnames, h⟩ := FileSystem.bind_eq_ok.1 h
  split at h
  · cases h
  · split at h
    · cases h
    · exact ⟨names, hnames, (Except.ok.inj h).symm⟩

theorem steps?_congr (h : store'.root = store.root) (url : String) :
    store'.steps? url = store.steps? url := by
  unfold steps?
  rw [h]

theorem exists_getLast?_steps? {url : String} {steps : List Step}
    (h : store.steps? url = .ok steps) : ∃ name, steps.getLast? = some (.name name) := by
  obtain ⟨names, hnames, rfl⟩ := steps?_cases h
  obtain ⟨name, hname⟩ := Option.ne_none_iff_exists'.1
    (mt List.getLast?_eq_none_iff.1 (Url.names?_ne_nil hnames))
  exact ⟨name, by rw [List.getLast?_map, hname]; rfl⟩

/-- Directories may have been made on the share, and nothing else has changed. -/
structure Grown (store store' : Store) : Prop where
  fs : store.fs.Grown store'.fs
  root : store'.root = store.root
  files : store'.files = store.files
  tokens : store'.tokens = store.tokens

theorem Records.grown (h : store.Records store') : store.Grown store' :=
  ⟨h.fs ▸ .refl _, h.root, h.files, h.tokens⟩

theorem Grown.trans (h : store.Grown store') (h' : store'.Grown store'') : store.Grown store'' :=
  ⟨h.fs.trans h'.fs, h'.root.trans h.root, h'.files.trans h.files, h'.tokens.trans h.tokens⟩

end Store

namespace Share

variable {store store' : Store}

theorem grown_makeDirectory {url : String} {result : Except ShareError Unit}
    (h : (makeDirectory url).run.run store = (result, store')) : store.Grown store' := by
  rcases makeDirectory_cases h with ⟨-, hrecords⟩ | ⟨steps, fs, hsteps, hmake, hrecords⟩
  · exact hrecords.grown
  · obtain ⟨name, hname⟩ := Store.exists_getLast?_steps? hsteps
    obtain ⟨path, -, hgains⟩ := FileSystem.makeDirectory_gains hmake hname
    exact ⟨hrecords.fs ▸ hgains.grown, hrecords.root, hrecords.files, hrecords.tokens⟩

/-- **Making a branch only makes directories**, whatever fails on the way. -/
theorem grown_makeBranch (url : String) {result : Except ShareError Unit}
    (h : (makeBranch url).run.run store = (result, store')) : store.Grown store' :=
  makeBranch_rel (fun h h' ↦ h.trans h') grown_makeDirectory h

end Share

/-! ### The temporary file -/

/-- The front of some bytes and the rest of them. -/
theorem extract_append_rest (data : ByteArray) {count : Nat} (h : count ≤ data.size) :
    data.extract 0 count ++ data.extract count data.size = data := by
  rw [ByteArray.extract_append_extract, Nat.zero_min, Nat.max_eq_right h,
    ByteArray.extract_zero_size]

/-- A piece at the front is as long as it is. -/
theorem extract_size_extract (data : ByteArray) (limit : Nat) :
    data.extract 0 (data.extract 0 limit).size = data.extract 0 limit := by
  rw [ByteArray.size_extract, Nat.sub_zero]
  rcases Nat.le_total limit data.size with hle | hle
  · rw [Nat.min_eq_left hle]
  · rw [Nat.min_eq_right hle, ByteArray.extract_zero_size, ← Nat.max_eq_left hle,
      ByteArray.extract_zero_max_size]

/-- **All files but the one at a path** are as they were. -/
structure Store.Spares (store store' : Store) (path : Path) : Prop where
  root : store'.root = store.root
  files : ∀ other, other ≠ path → store'.fs.fileAt other = store.fs.fileAt other

theorem Store.Spares.refl (store : Store) (path : Path) : store.Spares store path :=
  ⟨rfl, fun _ _ ↦ rfl⟩

theorem Store.Spares.trans {store store' store'' : Store} {path : Path}
    (h : store.Spares store' path) (h' : store'.Spares store'' path) : store.Spares store'' path :=
  ⟨h'.root.trans h.root, fun other hne ↦ (h'.files other hne).trans (h.files other hne)⟩

/-- Only the file at one path may have another content, and handles another position. -/
structure Store.Apart (store store' : Store) (path : Path) : Prop extends
    store.Spares store' path where
  kinds : ∀ other, store'.fs.kind? other = store.fs.kind? other
  size : store'.fs.contents.size = store.fs.contents.size

namespace Store.Apart

variable {store store' store'' : Store} {path : Path}

theorem ofRecords (h : store.Records store') : store.Apart store' path :=
  ⟨⟨h.root, fun _ _ ↦ by rw [h.fs]⟩, fun _ ↦ by rw [h.fs], by rw [h.fs]⟩

theorem trans (h : store.Apart store' path) (h' : store'.Apart store'' path) :
    store.Apart store'' path where
  toSpares := h.toSpares.trans h'.toSpares
  kinds other := (h'.kinds other).trans (h.kinds other)
  size := h'.size.trans h.size

theorem extends_fs (h : store.Apart store' path) : store.fs.Extends store'.fs where
  kept other _ hkind := (h.kinds other).trans hkind
  links other _ _ hlink := (h.kinds other).symm.trans hlink

end Store.Apart

/-- A handle writes at the end of the file at a path, which holds some bytes. No other path names
that file. -/
structure Store.Handles (store : Store) (id : FileId) (path : Path) (written : ByteArray) :
    Prop where
  inRange : id.index < store.files.size
  mode : (Share.fileOf store id).mode = .create
  position : (Share.fileOf store id).position = written.size
  node : store.fs.kind? path = some (.file (Share.fileOf store id).content)
  bytes : store.fs.contents[(Share.fileOf store id).content]?.map (·.bytes) = some written
  own : ∀ other, store.fs.kind? other = some (.file (Share.fileOf store id).content) →
    other = path

namespace Store.Handles

variable {store store' : Store} {id : FileId} {path : Path} {written : ByteArray}

theorem fileAt (h : store.Handles id path written) : store.fs.fileAt path = some written :=
  (FileSystem.fileAt_of_file h.node).trans h.bytes

theorem congr (h : store.Handles id path written) (hfs : store'.fs = store.fs)
    (hfiles : store'.files = store.files) : store'.Handles id path written := by
  have hfile : Share.fileOf store' id = Share.fileOf store id := by
    unfold Share.fileOf
    rw [hfiles]
  exact ⟨hfiles ▸ h.inRange, hfile ▸ h.mode, hfile ▸ h.position, hfile ▸ hfs ▸ h.node,
    hfile ▸ hfs ▸ h.bytes, hfile ▸ hfs ▸ h.own⟩

/-- **One write appends a piece of what it was given**, or nothing at all if it fails. -/
theorem write {data : ByteArray} {result : Except ShareError Nat}
    (h : store.Handles id path written)
    (hrun : (Share.write id data).run.run store = (result, store')) :
    ∃ piece, store'.Handles id path (written ++ piece) ∧ store.Apart store' path ∧
      ∀ count, result = .ok count → piece.size = count ∧ piece = data.extract 0 count := by
  rcases Share.write_cases h.mode hrun with ⟨⟨error, rfl⟩, hrecords⟩ | ⟨limit, rfl, hrecords⟩
  · refine ⟨ByteArray.empty, ?_, .ofRecords hrecords, fun count hcount ↦ by cases hcount⟩
    rw [ByteArray.append_empty]
    exact h.congr hrecords.fs hrecords.files
  · generalize hpiece : data.extract 0 limit = piece at hrecords
    generalize hmoved : { Share.fileOf store id with
      position := (Share.fileOf store id).position + piece.size } = moved at hrecords
    have hfile : Share.fileOf store' id = moved := by
      unfold Share.fileOf
      rw [hrecords.files]
      simp [h.inRange]
    have hcontent : moved.content = (Share.fileOf store id).content := by rw [← hmoved]
    refine ⟨piece, ⟨?_, ?_, ?_, ?_, ?_, ?_⟩, ⟨⟨hrecords.root, ?_⟩, ?_, ?_⟩, ?_⟩
    · rw [hrecords.files]
      simpa using h.inRange
    · rw [hfile, ← hmoved]
      exact h.mode
    · rw [hfile, ← hmoved]
      simp [h.position]
    · rw [hfile, hcontent, hrecords.fs, FileSystem.kind?_write]
      exact h.node
    · rw [hfile, hcontent, hrecords.fs, h.position]
      exact FileSystem.bytes_write_end h.bytes
    · intro other hother
      rw [hfile, hcontent, hrecords.fs, FileSystem.kind?_write] at hother
      exact h.own other hother
    · intro other hne
      rw [hrecords.fs]
      exact FileSystem.fileAt_write_of_ne fun hother ↦ hne (h.own other hother)
    · intro other
      rw [hrecords.fs, FileSystem.kind?_write]
    · rw [hrecords.fs, FileSystem.size_contents_write]
    · intro count hcount
      obtain rfl := Except.ok.inj hcount
      exact ⟨rfl, by rw [← hpiece, extract_size_extract]⟩

end Store.Handles

namespace Receiving

variable {store store' : Store} {receiving : Receiving} {id : FileId} {path : Path}
variable {written : ByteArray}

/-- **Writing appends all bytes if it succeeds**, and some of them if it fails. -/
theorem writeAll_handles (bound : Nat) {data : ByteArray} {result : Except ShareError Unit}
    (h : store.Handles id path written) (hbound : data.size ≤ bound)
    (hrun : (receiving.writeAll id bound data).run.run store = (result, store')) :
    ∃ more, store'.Handles id path (written ++ more) ∧ store.Apart store' path ∧
      (result = .ok () → more = data) := by
  -- each round writes at least one byte, so the bound is the number of bytes that are left
  induction bound generalizing data written store store' result with
  | zero =>
    have hempty : data = ByteArray.empty := ByteArray.size_eq_zero_iff.1 (by omega)
    obtain ⟨rfl, rfl⟩ := Prod.mk.inj hrun
    exact ⟨data, by simpa [hempty] using h, .ofRecords ⟨rfl, rfl, rfl, rfl⟩, fun _ ↦ rfl⟩
  | succ bound ih =>
    rw [writeAll] at hrun
    split at hrun
    · rcases bind_cases hrun with ⟨error, hwrite, rfl⟩ | ⟨count, mid, hwrite, hrest⟩
      · obtain ⟨piece, hpiece, hapart, -⟩ := h.write hwrite
        exact ⟨piece, hpiece, hapart, fun hok ↦ by cases hok⟩
      · obtain ⟨piece, hpiece, hapart, hcount⟩ := h.write hwrite
        obtain ⟨hsize, hfront⟩ := hcount count rfl
        dsimp only at hrest
        split at hrest
        · -- a write of nothing is a failure
          obtain ⟨rfl, rfl⟩ := Prod.mk.inj hrest
          exact ⟨piece, hpiece, hapart, fun hok ↦ by cases hok⟩
        · have hle : count ≤ data.size := by
            rw [hfront, ByteArray.size_extract] at hsize
            omega
          have hshort : (data.extract count data.size).size ≤ bound := by
            rw [ByteArray.size_extract]
            omega
          obtain ⟨more, hmore, hapart', hall⟩ := ih hpiece hshort hrest
          refine ⟨piece ++ more, by rwa [← ByteArray.append_assoc], hapart.trans hapart', ?_⟩
          intro hok
          rw [hall hok, hfront, extract_append_rest data hle]
    · rename_i hsize
      have hempty : data = ByteArray.empty := ByteArray.size_eq_zero_iff.1 (by omega)
      obtain ⟨rfl, rfl⟩ := Prod.mk.inj hrun
      exact ⟨data, by simpa [hempty] using h, .ofRecords ⟨rfl, rfl, rfl, rfl⟩, fun _ ↦ rfl⟩

end Receiving

/-! ### Putting it into place, and removing it -/

namespace Store

variable {store store' : Store} {url : String} {path : Path}

/-- The place that a URL leads to, where there may or may not be something. A link at its end is a
place like any other. -/
def place? (store : Store) (url : String) : Option Path :=
  match store.steps? url with
  | .ok steps => (store.fs.place false store.root steps).toOption
  | .error _ => none

theorem place?_eq_some : store.place? url = some path ↔ ∃ steps, store.steps? url = .ok steps ∧
    store.fs.place false store.root steps = .ok path := by
  unfold place?
  cases store.steps? url with
  | error errno => simp
  | ok steps => cases h : store.fs.place false store.root steps <;> simp [h, Except.toOption]

theorem place?_congr (hroot : store'.root = store.root) (hfs : store'.fs = store.fs) :
    store'.place? url = store.place? url := by
  unfold place?
  rw [steps?_congr hroot, hroot, hfs]

/-- **A URL keeps its place** where routes are kept. -/
theorem place?_mono (hroot : store'.root = store.root) (hkeeps : store.fs.KeepsRoutes store'.fs)
    (h : store.place? url = some path) : store'.place? url = some path := by
  obtain ⟨steps, hsteps, hplace⟩ := place?_eq_some.1 h
  refine place?_eq_some.2 ⟨steps, (steps?_congr hroot url).trans hsteps, ?_⟩
  rw [hroot]
  exact hkeeps.place hplace

/-- The place of a URL has the last name of the URL. -/
theorem getLast?_place? {names : List Name} (h : store.place? url = some path)
    (hnames : Url.names? url = .ok names) : path.getLast? = names.getLast? := by
  obtain ⟨steps, hsteps, hplace⟩ := place?_eq_some.1 h
  obtain ⟨names', hnames', rfl⟩ := steps?_cases hsteps
  obtain rfl := Except.ok.inj (hnames.symm.trans hnames')
  obtain ⟨name, hname⟩ := Option.ne_none_iff_exists'.1
    (mt List.getLast?_eq_none_iff.1 (Url.names?_ne_nil hnames))
  have hlast : (names.map Step.name).getLast? = some (.name name) := by
    rw [List.getLast?_map, hname]
    rfl
  obtain ⟨above, rfl, -⟩ := (FileSystem.place_eq_ok.1 hplace).last_name hlast (by simp)
  rw [hname, List.getLast?_append]
  rfl

end Store

/-- An upload is **staged**: its handle writes at the end of the temporary file, which holds some
bytes, and its URL leads there. -/
structure Receiving.Staged (receiving : Receiving) (store : Store) (path : Path)
    (written : ByteArray) : Prop where
  handles : ∃ id, receiving.file = some id ∧ store.Handles id path written
  place : store.place? receiving.temporary = some path
  wellFormed : store.fs.WellFormed

namespace Receiving

variable {store store' : Store} {receiving : Receiving} {path : Path} {written : ByteArray}

theorem Staged.congr (h : receiving.Staged store path written) (hfs : store'.fs = store.fs)
    (hroot : store'.root = store.root) (hfiles : store'.files = store.files) :
    receiving.Staged store' path written := by
  obtain ⟨id, hid, hhandles⟩ := h.handles
  exact ⟨⟨id, hid, hhandles.congr hfs hfiles⟩, (Store.place?_congr hroot hfs).trans h.place,
    hfs ▸ h.wellFormed⟩

/-- **A file that is opened under an unused name is staged**, and empty. -/
theorem staged_openFile (target : String) {url : String} {name : Name}
    {result : Except ShareError FileId} (hwell : store.fs.WellFormed)
    (hunused : ∀ above kind, store.fs.kind? (above ++ [name]) = some kind → kind = .directory 0)
    (hname : ∀ names, Url.names? url = .ok names → names.getLast? = some name)
    (h : (Share.openFile url .create).run.run store = (result, store')) :
    store'.root = store.root ∧
      ((∃ error, result = .error error) ∧ store'.fs = store.fs ∨
        ∃ id path, result = .ok id ∧ path.getLast? = some name ∧
          (⟨target, url, some id⟩ : Receiving).Staged store' path ByteArray.empty ∧
          store.fs.Extends store'.fs ∧
          ∀ other, other ≠ path → store'.fs.fileAt other = store.fs.fileAt other) := by
  rcases Share.openFile_create_cases h with ⟨hfailed, hrecords⟩ |
    ⟨steps, fs, content, last, hsteps, hopened, rfl, hrecords⟩
  · exact ⟨hrecords.root, .inl ⟨hfailed, hrecords.fs⟩⟩
  obtain ⟨names, hnames, rfl⟩ := Store.steps?_cases hsteps
  have hlast : (names.map Step.name).getLast? = some (.name name) := by
    rw [List.getLast?_map, hname names hnames]
    rfl
  have hlinks : ∀ above target time,
      store.fs.kind? (above ++ [name]) ≠ some (.link target time) := by
    intro above target time hlink
    cases hunused above _ hlink
  obtain ⟨path, hplace, hopened⟩ := FileSystem.openToWrite_cases hopened hlast hlinks
  have hwalks := FileSystem.place_eq_ok.1 hplace
  obtain ⟨above, rfl, -⟩ := hwalks.last_name hlast fun _ ↦ hlinks
  rcases hopened with hthere | ⟨hgains, rfl, hcontents⟩
  · cases hunused above _ hthere
  have hfile : Share.fileOf store' ⟨store.files.size⟩ =
      ⟨url, last, store.fs.contents.size, .create, 0, true⟩ := by
    unfold Share.fileOf
    rw [hrecords.files]
    simp
  refine ⟨hrecords.root, .inr ⟨_, above ++ [name], rfl, by simp,
    ⟨⟨_, rfl, ⟨?_, ?_, ?_, ?_, ?_, ?_⟩⟩, ?_, ?_⟩, ?_, ?_⟩⟩
  · rw [hrecords.files]
    simp
  · rw [hfile]
  · rw [hfile]
    rfl
  · rw [hfile, hrecords.fs]
    exact hgains.kind?_self
  · rw [hfile, hrecords.fs, hcontents]
    simp
  · -- the content is new, so no other path can name it
    intro other hother
    rw [hfile, hrecords.fs] at hother
    by_contra hne
    rw [hgains.kind?_of_ne hne] at hother
    exact absurd (hwell.content other _ hother) (Nat.lt_irrefl _)
  · refine Store.place?_eq_some.2 ⟨_, (Store.steps?_congr hrecords.root url).trans hsteps, ?_⟩
    rw [hrecords.root, hrecords.fs]
    exact FileSystem.place_eq_ok.2
      ((hwalks.follow_irrel hlast hlinks).mono hgains.extends.keepsRoutes)
  · rw [hrecords.fs]
    exact hgains.wellFormed hwell
  · rw [hrecords.fs]
    exact hgains.extends
  · intro other hne
    rw [hrecords.fs]
    exact hgains.fileAt_of_ne hwell hne

/-- **An upload stays staged when a piece is written**, with all of the piece if that succeeds. -/
theorem Staged.write {data : ByteArray} {action : ShareM Unit} {result : Except ShareError Unit}
    (h : receiving.Staged store path written) (haction : receiving.write data = .ok action)
    (hrun : action.run.run store = (result, store')) :
    ∃ more, receiving.Staged store' path (written ++ more) ∧ store.Apart store' path ∧
      (result = .ok () → more = data) := by
  obtain ⟨id, hid, hhandles⟩ := h.handles
  unfold Receiving.write at haction
  rw [hid] at haction
  obtain rfl := Except.ok.inj haction
  obtain ⟨more, hmore, hapart, hall⟩ := writeAll_handles data.size hhandles (Nat.le_refl _) hrun
  exact ⟨more, ⟨⟨id, hid, hmore⟩,
    Store.place?_mono hapart.root hapart.extends_fs.keepsRoutes h.place,
    h.wellFormed.congr hapart.kinds hapart.size⟩, hapart, hall⟩

/-- **A commit puts the whole temporary file into the place of the target**, or changes nothing. -/
theorem Staged.commit {result : Except ShareError Unit}
    (h : receiving.Staged store path written)
    (hrun : receiving.commit.run.run store = (result, store')) :
    store'.root = store.root ∧ store'.fs.WellFormed ∧
      ((∃ error, result = .error error) ∧ store'.fs = store.fs ∨
        result = .ok () ∧ ∃ target, store.place? receiving.target = some target ∧
          (target ≠ path → store'.fs.fileAt target = some written ∧
            ∀ other, other ≠ path → other ≠ target →
              store'.fs.fileAt other = store.fs.fileAt other)) := by
  obtain ⟨id, hid, hhandles⟩ := h.handles
  obtain ⟨fromSteps, hfrom, hplace⟩ := Store.place?_eq_some.1 h.place
  unfold Receiving.commit at hrun
  rw [hid] at hrun
  rcases bind_cases hrun with ⟨error, hclose, rfl⟩ | ⟨_, mid, hclose, hrename⟩
  · obtain ⟨hfs, hroot⟩ := Share.close_keeps hclose
    exact ⟨hroot, hfs ▸ h.wellFormed, .inl ⟨⟨_, rfl⟩, hfs⟩⟩
  obtain ⟨hfs, hroot⟩ := Share.close_keeps hclose
  rcases Share.rename_cases hrename with ⟨hfailed, hrecords⟩ |
    ⟨fromSteps', toSteps, fs, hfrom', hto, hmoved, rfl, hrecords⟩
  · have hsame := hrecords.fs.trans hfs
    exact ⟨hrecords.root.trans hroot, hsame ▸ h.wellFormed, .inl ⟨hfailed, hsame⟩⟩
  · rw [Store.steps?_congr hroot] at hfrom' hto
    obtain rfl := Except.ok.inj (hfrom.symm.trans hfrom')
    rw [hfs, hroot] at hmoved
    obtain ⟨name, hname⟩ := Store.exists_getLast?_steps? hto
    have hwell := FileSystem.wellFormed_rename h.wellFormed hmoved hplace hhandles.node
      hhandles.own hname
    obtain ⟨target, htarget, hdone⟩ :=
      FileSystem.fileAt_rename h.wellFormed hmoved hplace hhandles.node hhandles.own
    refine ⟨hrecords.root.trans hroot, hrecords.fs ▸ hwell, .inr ⟨rfl, target,
      Store.place?_eq_some.2 ⟨toSteps, hto, htarget⟩, fun hne ↦ ?_⟩⟩
    obtain ⟨hthere, hothers⟩ := hdone hne
    rw [hrecords.fs]
    exact ⟨hthere.trans hhandles.fileAt, hothers⟩

/-- **To discard an upload** is to give up its handle, and to unlink its name; that may fail. -/
theorem discard_cases (hrun : receiving.discard.run store = ((), store')) :
    store'.root = store.root ∧ store'.files.size = store.files.size ∧
      (∀ id, receiving.file ≠ some id → Share.fileOf store' id = Share.fileOf store id) ∧
      (store'.fs = store.fs ∨ ∃ path, store.place? receiving.temporary = some path ∧
        store.fs.Loses store'.fs path) := by
  -- with the handle given up or not, the name is removed from the same files
  have hunlink : ∀ mid result last, mid.fs = store.fs → mid.root = store.root →
      (Share.unlink receiving.temporary).run.run mid = (result, last) →
      last.root = store.root ∧ last.files = mid.files ∧
        (last.fs = store.fs ∨ ∃ path, store.place? receiving.temporary = some path ∧
          store.fs.Loses last.fs path) := by
    intro mid result last hfs hroot hrun
    rcases Share.unlink_cases hrun with ⟨-, hrecords⟩ | ⟨steps, fs, hsteps, hgone, hrecords⟩
    · exact ⟨hrecords.root.trans hroot, hrecords.files, .inl (hrecords.fs.trans hfs)⟩
    · rw [Store.steps?_congr hroot] at hsteps
      rw [hfs, hroot] at hgone
      obtain ⟨path, hplace, hloses⟩ := FileSystem.unlink_loses hgone
      exact ⟨hrecords.root.trans hroot, hrecords.files,
        .inr ⟨path, Store.place?_eq_some.2 ⟨steps, hsteps, hplace⟩, hrecords.fs ▸ hloses⟩⟩
  have hcongr : ∀ {mid last : Store} id, last.files = mid.files →
      Share.fileOf last id = Share.fileOf mid id := fun id hfiles ↦ by
    unfold Share.fileOf
    rw [hfiles]
  unfold Receiving.discard at hrun
  cases hfile : receiving.file with
  | none =>
    rw [hfile] at hrun
    obtain ⟨-, rfl⟩ := Prod.mk.inj hrun
    obtain ⟨hroot, hfiles, hgone⟩ := hunlink store _ _ rfl rfl rfl
    exact ⟨hroot, congrArg Array.size hfiles, fun id _ ↦ hcongr id hfiles, hgone⟩
  | some id =>
    rw [hfile] at hrun
    obtain ⟨-, rfl⟩ := Prod.mk.inj hrun
    rcases hclose : (Share.close id).run.run store with ⟨closed, mid⟩
    obtain rfl : mid = ((Share.close id).run.run store).2 := by rw [hclose]
    obtain ⟨hfs, hroot⟩ := Share.close_keeps hclose
    obtain ⟨hsize, hothers⟩ := Share.close_files hclose
    obtain ⟨hroot, hfiles, hgone⟩ := hunlink _ _ _ hfs hroot rfl
    refine ⟨hroot, (congrArg Array.size hfiles).trans hsize, fun other hne ↦ ?_, hgone⟩
    exact (hcongr other hfiles).trans (hothers other fun heq ↦ hne (heq ▸ rfl))

/-- **To discard an upload touches no file but the temporary one.** -/
theorem discard_spares (hplace : store.place? receiving.temporary = some path)
    (hrun : receiving.discard.run store = ((), store')) : store.Spares store' path := by
  obtain ⟨hroot, -, -, hsame | hloses⟩ := discard_cases hrun
  · exact ⟨hroot, fun other _ ↦ by rw [hsame]⟩
  · obtain ⟨found, hfound, hloses⟩ := hloses
    obtain rfl : path = found := Option.some.inj (hplace.symm.trans hfound)
    exact ⟨hroot, fun other hne ↦ hloses.fileAt_of_ne hne⟩

theorem discard_wellFormed (hwell : store.fs.WellFormed)
    (hrun : receiving.discard.run store = ((), store')) : store'.fs.WellFormed := by
  obtain ⟨-, -, -, hsame | ⟨found, -, hloses⟩⟩ := discard_cases hrun
  · exact hsame ▸ hwell
  · exact hloses.wellFormed hwell

/-- **An upload stays staged when another one is discarded.** -/
theorem Staged.discard {other : Receiving} {otherPath : Path} {content : Nat}
    (h : receiving.Staged store path written)
    (hplace : store.place? other.temporary = some otherPath)
    (hfile : store.fs.kind? otherPath = some (.file content)) (hne : path ≠ otherPath)
    (hhandle : ∀ id, receiving.file = some id → other.file ≠ some id)
    (hrun : other.discard.run store = ((), store')) : receiving.Staged store' path written := by
  obtain ⟨id, hid, hhandles⟩ := h.handles
  obtain ⟨hroot, hsize, hrecords, hfs⟩ := discard_cases hrun
  have hrecord := hrecords id (hhandle id hid)
  rcases hfs with hsame | ⟨found, hfound, hloses⟩
  · refine ⟨⟨id, hid, ?_⟩, (Store.place?_congr hroot hsame).trans h.place, hsame ▸ h.wellFormed⟩
    exact ⟨hsize ▸ hhandles.inRange, hrecord ▸ hhandles.mode, hrecord ▸ hhandles.position,
      hrecord ▸ hsame ▸ hhandles.node, hrecord ▸ hsame ▸ hhandles.bytes,
      hrecord ▸ hsame ▸ hhandles.own⟩
  · obtain rfl : otherPath = found := Option.some.inj (hplace.symm.trans hfound)
    refine ⟨⟨id, hid, ⟨hsize ▸ hhandles.inRange, hrecord ▸ hhandles.mode,
      hrecord ▸ hhandles.position, ?_, ?_, fun place hthere ↦ ?_⟩⟩,
      Store.place?_mono hroot (hloses.keepsRoutes hfile) h.place, hloses.wellFormed h.wellFormed⟩
    · rw [hloses.others path hne, hrecord]
      exact hhandles.node
    · rw [hloses.contents, hrecord]
      exact hhandles.bytes
    · rw [hrecord] at hthere
      by_cases heq : place = otherPath
      · cases hloses.gone _ (heq ▸ hthere)
      · rw [hloses.others place heq] at hthere
        exact hhandles.own place hthere

/-- **An upload stays staged when directories are made.** -/
theorem Staged.grown (h : receiving.Staged store path written)
    (hgrown : store.fs.Grown store'.fs) (hroot : store'.root = store.root)
    (hfiles : store'.files = store.files) : receiving.Staged store' path written := by
  obtain ⟨id, hid, hhandles⟩ := h.handles
  have hrecord : Share.fileOf store' id = Share.fileOf store id := by
    unfold Share.fileOf
    rw [hfiles]
  have hnode := hgrown.kept.kept _ _ hhandles.node
  refine ⟨⟨id, hid, ⟨hfiles ▸ hhandles.inRange, hrecord ▸ hhandles.mode,
    hrecord ▸ hhandles.position, hrecord ▸ hnode, ?_, fun place hthere ↦ ?_⟩⟩,
    Store.place?_mono hroot hgrown.kept.keepsRoutes h.place, hgrown.wellFormed h.wellFormed⟩
  · rw [hrecord, ← FileSystem.fileAt_of_file hnode, hgrown.files h.wellFormed, hhandles.fileAt]
  · rw [hrecord] at hthere
    rcases hgrown.fresh place _ hthere with hbefore | hdirectory
    · exact hhandles.own place hbefore
    · cases hdirectory

end Receiving

end FileShare
