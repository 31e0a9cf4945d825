import FileShare.Proofs.Routes
import Mathlib.Data.List.Infix

/-!
# What the operations of a file system change

For each operation that changes something, this module says once what a success means: which route
was walked, what was found at its end, and what the table holds afterwards. Everything else follows
from that without a look at the operation.

A directory that is made, and a file that is opened for writing where nothing was, are one new entry
in a directory (`Gains`). What is unlinked is one entry less (`Loses`). A file that is renamed is
found at the target, and **what was at the target is gone**; every other path holds the file that it
held (`fileAt_rename`). There is no moment in between, which is why an upload is put into its place
by a renaming.
-/

namespace FileShare

namespace FileSystem

variable {fs fs' : FileSystem} {follow : Bool} {start path other : Path} {steps : List Step}
variable {node : Node}

/-- Two actions in a row succeed if both do. -/
theorem bind_eq_ok {ε α β : Type} {action : Except ε α} {next : α → Except ε β} {b : β} :
    (action >>= next) = .ok b ↔ ∃ a, action = .ok a ∧ next a = .ok b := by
  cases action with
  | error e => simp [bind, Except.bind]
  | ok a => simp [bind, Except.bind]

theorem find_eq_ok : fs.find follow start steps = .ok (path, node) ↔
    fs.place follow start steps = .ok path ∧ fs.node? path = some node := by
  unfold find
  rw [bind_eq_ok]
  constructor
  · rintro ⟨found, hplace, h⟩
    split at h
    · rename_i there hnode
      obtain ⟨rfl, rfl⟩ := Prod.mk.inj (Except.ok.inj h)
      exact ⟨hplace, hnode⟩
    · cases h
  · rintro ⟨hplace, hnode⟩
    exact ⟨path, hplace, by simp only [hnode]; rfl⟩

/-! ### New entries -/

/-- One table **gains** an entry over another one: something that is no link is in a directory,
where nothing was. Contents may have been added behind the ones that there were. -/
structure Gains (fs fs' : FileSystem) (path : Path) (node : Node) : Prop where
  fresh : fs.kind? path = none
  above : ∃ above name, path = above ++ [name] ∧ fs.isDirectoryAt above = true
  kinds : ∀ other, fs'.kind? other = if other = path then some node else fs.kind? other
  noLink : ∀ target time, node ≠ .link target time
  contents : ∀ id < fs.contents.size, fs'.contents[id]? = fs.contents[id]?
  content : ∀ id, node = .file id → id < fs'.contents.size
  size_le : fs.contents.size ≤ fs'.contents.size

theorem Gains.kind?_self (h : fs.Gains fs' path node) : fs'.kind? path = some node := by
  rw [h.kinds, if_pos rfl]

theorem Gains.kind?_of_ne (h : fs.Gains fs' path node) (hne : other ≠ path) :
    fs'.kind? other = fs.kind? other := by
  rw [h.kinds, if_neg hne]

theorem Gains.extends (h : fs.Gains fs' path node) : fs.Extends fs' where
  kept other kind hkind := by
    rw [h.kind?_of_ne, hkind]
    rintro rfl
    rw [h.fresh] at hkind
    cases hkind
  links other target time hlink := by
    by_cases heq : other = path
    · rw [heq, h.kind?_self] at hlink
      exact absurd (Option.some.inj hlink) (h.noLink target time)
    · rw [← h.kind?_of_ne heq, hlink]

theorem Gains.wellFormed (h : fs.Gains fs' path node) (hwell : fs.WellFormed) :
    fs'.WellFormed where
  above below name hsome := by
    obtain ⟨above, last, hpath, hdir⟩ := h.above
    by_cases heq : below ++ [name] = path
    · obtain ⟨rfl, -⟩ := List.append_inj' (heq.trans hpath) rfl
      exact h.extends.isDirectoryAt hdir
    · rw [h.kind?_of_ne heq] at hsome
      exact h.extends.isDirectoryAt (hwell.above below name hsome)
  content other id hfile := by
    by_cases heq : other = path
    · rw [heq, h.kind?_self] at hfile
      exact h.content id (Option.some.inj hfile)
    · rw [h.kind?_of_ne heq] at hfile
      exact Nat.lt_of_lt_of_le (hwell.content other id hfile) h.size_le

/-- **A new entry leaves the files of all other paths alone.** -/
theorem Gains.fileAt_of_ne (h : fs.Gains fs' path node) (hwell : fs.WellFormed)
    (hne : other ≠ path) : fs'.fileAt other = fs.fileAt other :=
  fileAt_congr (h.kind?_of_ne hne) fun id hfile ↦ h.contents id (hwell.content other id hfile)

/-- A directory that is made is a new entry. The route must end in a name. -/
theorem makeDirectory_gains {name : Name} (h : fs.makeDirectory start steps = .ok fs')
    (hname : steps.getLast? = some (.name name)) :
    ∃ path, fs.place false start steps = .ok path ∧ fs.Gains fs' path (.directory 0) := by
  unfold makeDirectory at h
  obtain ⟨path, hplace, h⟩ := bind_eq_ok.1 h
  split at h
  · cases h
  · rename_i hnode
    obtain rfl := Except.ok.inj h
    obtain ⟨above, hpath, hdir⟩ := (place_eq_ok.1 hplace).last_name hname (by simp)
    refine ⟨path, hplace, kind?_eq_none.2 hnode, ⟨above, name, hpath, hdir⟩, ?_, ?_, ?_, ?_, ?_⟩
    · intro other
      rw [kind?_touch, kind?_put]
      rfl
    · intro target time
      simp
    · intro id _
      simp
    · intro id hfile
      cases hfile
    · simp

/-- What is opened for writing is a file that was there and is emptied, or a new one. -/
theorem openToWrite_cases {id : Nat} {name : Name}
    (h : fs.openToWrite start steps = .ok (fs', id))
    (hname : steps.getLast? = some (.name name))
    (hlinks : ∀ above target time, fs.kind? (above ++ [name]) ≠ some (.link target time)) :
    ∃ path, fs.place true start steps = .ok path ∧
      (fs.kind? path = some (.file id) ∨
        fs.Gains fs' path (.file id) ∧ id = fs.contents.size ∧
          fs'.contents = fs.contents.push ⟨ByteArray.empty, fs.clock⟩) := by
  unfold openToWrite at h
  obtain ⟨path, hplace, h⟩ := bind_eq_ok.1 h
  refine ⟨path, hplace, ?_⟩
  split at h
  · cases h
  · rename_i found hnode
    obtain ⟨-, rfl⟩ := Prod.mk.inj (Except.ok.inj h)
    exact .inl (kind?_eq_file.2 hnode)
  · cases h
  · cases h
  · rename_i hnode
    obtain ⟨rfl, rfl⟩ := Prod.mk.inj (Except.ok.inj h)
    obtain ⟨above, hpath, hdir⟩ := (place_eq_ok.1 hplace).last_name hname fun _ ↦ hlinks
    refine .inr ⟨⟨kind?_eq_none.2 hnode, ⟨above, name, hpath, hdir⟩, ?_, ?_, ?_, ?_, ?_⟩, rfl, ?_⟩
    · intro other
      rw [kind?_touch, kind?_put]
      rfl
    · intro target time
      simp
    · intro id hid
      rw [contents_touch, contents_put]
      exact Array.getElem?_push_lt hid ▸ (Array.getElem?_eq_getElem hid).symm
    · intro id hfile
      cases hfile
      simp
    · simp
    · simp

/-! ### Entries that are gone -/

/-- One table **loses** an entry over another one: something that was there and was no directory is
gone. If it was the root, there is an empty one. -/
structure Loses (fs fs' : FileSystem) (path : Path) : Prop where
  there : fs.kind? path ≠ none
  plain : fs.isDirectoryAt path = false
  contents : fs'.contents = fs.contents
  others : ∀ other, other ≠ path → fs'.kind? other = fs.kind? other
  gone : ∀ node, fs'.kind? path = some node → node = .directory 0

theorem Loses.isDirectoryAt (h : fs.Loses fs' path) (hdir : fs.isDirectoryAt other = true) :
    fs'.isDirectoryAt other = true := by
  have hne : other ≠ path := by
    rintro rfl
    rw [h.plain] at hdir
    cases hdir
  rwa [isDirectoryAt_congr (h.others other hne)]

/-- **A lost entry leaves no loose ends**, because nothing is below it. -/
theorem Loses.wellFormed (h : fs.Loses fs' path) (hwell : fs.WellFormed) : fs'.WellFormed where
  above above name hsome := by
    refine h.isDirectoryAt (hwell.above above name ?_)
    by_cases heq : above ++ [name] = path
    · exact heq ▸ h.there
    · rwa [h.others _ heq] at hsome
  content other id hfile := by
    rw [h.contents]
    by_cases heq : other = path
    · cases h.gone _ (heq ▸ hfile)
    · rw [h.others other heq] at hfile
      exact hwell.content other id hfile

/-- A file that is lost was on no route. -/
theorem Loses.keepsRoutes {id : Nat} (h : fs.Loses fs' path)
    (hfile : fs.kind? path = some (.file id)) : fs.KeepsRoutes fs' where
  directories other hdir := h.isDirectoryAt hdir
  links other target time := by
    by_cases heq : other = path
    · rw [heq, hfile]
      refine ⟨fun hlink ↦ ?_, fun hlink ↦ by cases hlink⟩
      cases h.gone _ hlink
    · rw [h.others other heq]

theorem Loses.fileAt_of_ne (h : fs.Loses fs' path) (hne : other ≠ path) :
    fs'.fileAt other = fs.fileAt other :=
  fileAt_congr (h.others other hne) fun _ _ ↦ by rw [h.contents]

/-- What is unlinked is at the end of the route. -/
theorem unlink_loses (h : fs.unlink start steps = .ok fs') :
    ∃ path, fs.place false start steps = .ok path ∧ fs.Loses fs' path := by
  unfold unlink at h
  obtain ⟨⟨path, node⟩, hfind, h⟩ := bind_eq_ok.1 h
  obtain ⟨hplace, hnode⟩ := find_eq_ok.1 hfind
  have hdone : fs' = (fs.erase path).touch path.dropLast ∧ fs.isDirectoryAt path = false := by
    unfold isDirectoryAt
    rw [hnode]
    cases node with
    | directory time => cases h
    | _ => exact ⟨(Except.ok.inj h).symm, rfl⟩
  obtain ⟨rfl, hplain⟩ := hdone
  refine ⟨path, hplace, mt kind?_eq_none.1 (by simp [hnode]), hplain, by simp, ?_, ?_⟩
  · intro other hne
    rw [kind?_touch, kind?_erase_of_ne fs hne]
  · intro node hsome
    rw [kind?_touch] at hsome
    rcases fs.kind?_erase_self path with hgone | hgone
    all_goals
      rw [hgone] at hsome
      cases hsome
    rfl

/-! ### Renaming -/

/-- What is found after entries got other paths, or none: what the path stood for before. -/
theorem lookup_rekey {now before : Path → Option Path}
    (h : ∀ key path, now key = some path ↔ before path = some key) (nodes : List (Path × Node))
    (path : Path) :
    (nodes.filterMap fun entry ↦ (now entry.1).map (·, entry.2)).lookup path =
      (before path).bind (List.lookup · nodes) := by
  -- an entry is met first under its new path if and only if it was met first under the old one,
  -- because no two keys get the same new path
  induction nodes with
  | nil => cases before path <;> rfl
  | cons entry nodes ih =>
    obtain ⟨key, node⟩ := entry
    by_cases hkey : before path = some key
    · rw [List.filterMap_cons_some (b := (path, node)) (by simp [(h key path).2 hkey]), hkey]
      simp
    · have hskip : (before path).bind (List.lookup · ((key, node) :: nodes)) =
          (before path).bind (List.lookup · nodes) := by
        cases hbefore : before path with
        | none => rfl
        | some other =>
          have hne : other ≠ key := fun heq ↦ hkey (heq ▸ hbefore)
          simp [List.lookup_cons, beq_eq_false_iff_ne.2 hne]
      rw [hskip, ← ih]
      cases hnow : now key with
      | none => simp [hnow]
      | some other =>
        have hne : path ≠ other := fun heq ↦ hkey ((h key path).1 (heq ▸ hnow))
        simp [hnow, List.lookup_cons, beq_eq_false_iff_ne.2 hne]

/-- Where a move puts what was at a path; what was at or below the target is dropped. -/
def movedTo (source target path : Path) : Option Path :=
  if target.isPrefixOf path then none
  else some (if source.isPrefixOf path then target ++ path.drop source.length else path)

/-- Where that which is at a path after a move was before. -/
def movedFrom (source target path : Path) : Option Path :=
  if target <+: path then some (source ++ path.drop target.length)
  else if source <+: path then none else some path

variable {source target : Path}

theorem movedTo_iff (hsource : ¬ source <+: target) (htarget : ¬ target <+: source)
    (key path : Path) : movedTo source target key = some path ↔
      movedFrom source target path = some key := by
  have hapart : ∀ rest, ¬ target <+: source ++ rest := fun rest h ↦
    (List.prefix_or_prefix_of_prefix h (List.prefix_append source rest)).elim htarget hsource
  simp only [movedTo, movedFrom, List.isPrefixOf_iff_prefix]
  constructor
  · intro h
    split at h
    · cases h
    · rename_i hkey
      split at h
      · rename_i hmoved
        obtain ⟨rest, rfl⟩ := hmoved
        obtain rfl := Option.some.inj h
        simp
      · rename_i hstays
        obtain rfl := Option.some.inj h
        rw [if_neg hkey, if_neg hstays]
  · intro h
    split at h
    · rename_i hpath
      obtain ⟨rest, rfl⟩ := hpath
      obtain rfl := Option.some.inj h
      rw [if_neg (hapart _)]
      simp
    · rename_i hpath
      split at h
      · cases h
      · rename_i hstays
        obtain rfl := Option.some.inj h
        rw [if_neg hpath, if_neg hstays]

/-- A move takes every entry to its new path. -/
theorem nodes_move (fs : FileSystem) (source target : Path) : (fs.move source target).nodes =
    fs.nodes.filterMap fun entry ↦ (movedTo source target entry.1).map (·, entry.2) := by
  unfold move eraseTree movedTo
  simp only
  induction fs.nodes with
  | nil => rfl
  | cons entry nodes ih =>
    obtain ⟨key, node⟩ := entry
    cases hkey : target.isPrefixOf key with
    | true =>
      simp only [List.filter_cons, List.filterMap_cons, hkey, Bool.not_true, if_true,
        Bool.false_eq_true, if_false, Option.map_none]
      exact ih
    | false =>
      simp only [List.filter_cons, List.filterMap_cons, hkey, Bool.not_false, if_true,
        Bool.false_eq_true, if_false, Option.map_some, List.map_cons]
      rw [ih]
      cases source.isPrefixOf key <;> rfl

/-- **What is at a path after a move** is what was at the path where it came from. -/
theorem node?_move (hsource : ¬ source <+: target) (htarget : ¬ target <+: source)
    (path : Path) :
    (fs.move source target).node? path = (movedFrom source target path).bind fs.node? := by
  have hlookup : (fs.move source target).nodes.lookup path =
      (movedFrom source target path).bind (List.lookup · fs.nodes) := by
    rw [nodes_move]
    exact lookup_rekey (movedTo_iff hsource htarget) _ _
  have hne : source ≠ [] := fun h ↦ hsource (h ▸ List.nil_prefix)
  have hne' : target ≠ [] := fun h ↦ htarget (h ▸ List.nil_prefix)
  by_cases hroot : path = []
  · have hfrom : movedFrom source target path = some path := by
      simp [movedFrom, hroot, hne, hne']
    rw [hfrom] at hlookup ⊢
    exact node?_congr hlookup rfl
  · unfold movedFrom at hlookup ⊢
    unfold node?
    rw [if_neg hroot, hlookup]
    split
    · simp [hne]
    · split
      · rfl
      · simp [hroot]

theorem kind?_move (hsource : ¬ source <+: target) (htarget : ¬ target <+: source)
    (path : Path) :
    (fs.move source target).kind? path = (movedFrom source target path).bind fs.kind? := by
  unfold kind?
  rw [node?_move hsource htarget]
  cases movedFrom source target path <;> rfl

/-- **What a renaming of a file can come to.** The routes lead to a source and a target. If they are
the same file, nothing happens. Otherwise neither lies below the other, there is no directory at the
target, and the source is moved there. -/
theorem rename_cases {fromSteps toSteps : List Step}
    (h : fs.rename start fromSteps toSteps = .ok fs') :
    ∃ source node target, fs.place false start fromSteps = .ok source ∧
      fs.node? source = some node ∧ fs.place false start toSteps = .ok target ∧
      (fs' = fs ∧ (source = target ∨ ∃ id, node = .file id ∧ fs.node? target = some (.file id)) ∨
        ¬ source <+: target ∧ ¬ target <+: source ∧
          fs' = ((fs.move source target).touch source.dropLast).touch target.dropLast ∧
          ((∀ time, node ≠ .directory time) → fs.isDirectoryAt target = false)) := by
  unfold rename at h
  obtain ⟨_, -, h⟩ := bind_eq_ok.1 h
  obtain ⟨_, -, h⟩ := bind_eq_ok.1 h
  obtain ⟨⟨source, node⟩, hfind, h⟩ := bind_eq_ok.1 h
  obtain ⟨hplace, hnode⟩ := find_eq_ok.1 hfind
  obtain ⟨target, htarget, h⟩ := bind_eq_ok.1 h
  refine ⟨source, node, target, hplace, hnode, htarget, ?_⟩
  simp only [List.isPrefixOf_iff_prefix] at h
  split at h
  · rename_i heq
    exact .inl ⟨(Except.ok.inj h).symm, .inl heq⟩
  split at h
  · cases h
  rename_i hsource
  split at h
  · cases h
  rename_i hover
  -- what is left is a match on the two nodes
  have hdone {result : FileSystem} (hresult : Except.ok (ε := Errno) result = .ok fs') :
      fs' = result := (Except.ok.inj hresult).symm
  cases hthere : fs.node? target with
  | none =>
    rw [hthere] at h
    refine .inr ⟨hsource, hover, ?_, fun _ ↦ by unfold isDirectoryAt; rw [hthere]⟩
    cases node <;> exact hdone h
  | some there =>
    rw [hthere] at h
    cases there with
    | directory time =>
      cases node with
      | directory time' =>
        simp only at h
        split at h
        · cases h
        · exact .inr ⟨hsource, hover, hdone h, fun hfile ↦ absurd rfl (hfile time')⟩
      | _ => cases h
    | _ =>
      have hnone : fs.isDirectoryAt target = false := by
        unfold isDirectoryAt
        rw [hthere]
      cases node with
      | directory time' => cases h
      | _ =>
        simp only at h
        split at h
        · rename_i hsame
          first
          | cases hsame
          | obtain rfl := eq_of_beq hsame
            exact .inl ⟨hdone h, .inr ⟨_, rfl, rfl⟩⟩
        · exact .inr ⟨hsource, hover, hdone h, fun _ ↦ hnone⟩

/-- **What a renamed file leaves where**: it is at the target and not at its source any more, and
nothing else has moved. The file must have no second name. -/
theorem kind?_rename {fromSteps toSteps : List Step} {id : Nat} (hwell : fs.WellFormed)
    (h : fs.rename start fromSteps toSteps = .ok fs')
    (hsource : fs.place false start fromSteps = .ok source)
    (hfile : fs.kind? source = some (.file id))
    (hown : ∀ path, fs.kind? path = some (.file id) → path = source) :
    ∃ target, fs.place false start toSteps = .ok target ∧
      (fs' = fs ∧ source = target ∨
        fs.isDirectoryAt target = false ∧ fs'.contents = fs.contents ∧ ∀ other, fs'.kind? other =
          if other = target then some (.file id) else if other = source then none
            else fs.kind? other) := by
  obtain ⟨found, node, target, hfound, hnode, htarget, hdone⟩ := rename_cases h
  obtain rfl : source = found := Except.ok.inj (hsource.symm.trans hfound)
  rw [kind?_eq_file.1 hfile] at hnode
  obtain rfl := Option.some.inj hnode
  refine ⟨target, htarget, ?_⟩
  rcases hdone with ⟨hsame, rfl | ⟨id', hid, hthere⟩⟩ | ⟨hleft, hright, rfl, hplain⟩
  · exact .inl ⟨hsame, rfl⟩
  · obtain rfl := Node.file.inj hid
    exact .inl ⟨hsame, (hown target (kind?_eq_file.2 hthere)).symm⟩
  have hfree : fs.isDirectoryAt target = false := hplain (by simp)
  have hplainSource : fs.isDirectoryAt source = false := by
    unfold isDirectoryAt
    rw [kind?_eq_file.1 hfile]
  refine .inr ⟨hfree, by simp, fun other ↦ ?_⟩
  rw [kind?_touch, kind?_touch, kind?_move hleft hright]
  by_cases hbelow : target <+: other
  · obtain ⟨rest, rfl⟩ := hbelow
    have hmoved : (movedFrom source target (target ++ rest)).bind fs.kind? =
        fs.kind? (source ++ rest) := by simp [movedFrom]
    by_cases hrest : rest = []
    · rw [hmoved, hrest, List.append_nil, List.append_nil, if_pos rfl, hfile]
    · -- nothing is below the target, neither before nor after
      have hne : target ++ rest ≠ source := fun heq ↦ hright ⟨rest, heq⟩
      rw [hmoved, hwell.kind?_below hplainSource hrest, if_neg (by simpa using hrest), if_neg hne,
        hwell.kind?_below hfree hrest]
  · have hne : other ≠ target := fun heq ↦ hbelow (heq ▸ List.prefix_rfl)
    rw [if_neg hne]
    by_cases hmoved : source <+: other
    · obtain ⟨rest, rfl⟩ := hmoved
      have hgone : (movedFrom source target (source ++ rest)).bind fs.kind? = none := by
        simp [movedFrom, hbelow]
      rw [hgone]
      by_cases hrest : rest = []
      · rw [hrest, List.append_nil, if_pos rfl]
      · -- nothing is below the source
        rw [if_neg (by simpa using hrest), hwell.kind?_below hplainSource hrest]
    · have hstays : other ≠ source := fun heq ↦ hmoved (heq ▸ List.prefix_rfl)
      rw [if_neg hstays]
      simp [movedFrom, hbelow, hmoved]

/-- **A renamed file is at the target, and every other path holds the file that it held.** The file
must have no second name. -/
theorem fileAt_rename {fromSteps toSteps : List Step} {id : Nat} (hwell : fs.WellFormed)
    (h : fs.rename start fromSteps toSteps = .ok fs')
    (hsource : fs.place false start fromSteps = .ok source)
    (hfile : fs.kind? source = some (.file id))
    (hown : ∀ path, fs.kind? path = some (.file id) → path = source) :
    ∃ target, fs.place false start toSteps = .ok target ∧ (target ≠ source →
      fs'.fileAt target = fs.fileAt source ∧
        ∀ other, other ≠ source → other ≠ target → fs'.fileAt other = fs.fileAt other) := by
  obtain ⟨target, htarget, hdone⟩ := kind?_rename hwell h hsource hfile hown
  refine ⟨target, htarget, fun hne ↦ ?_⟩
  rcases hdone with ⟨-, rfl⟩ | ⟨-, hcontents, hkind⟩
  · exact absurd rfl hne
  · refine ⟨?_, fun other hsourceNe htargetNe ↦ fileAt_congr ?_ fun id _ ↦ by rw [hcontents]⟩
    · have hthere : fs'.kind? target = some (.file id) := by rw [hkind, if_pos rfl]
      rw [fileAt_of_file hthere, fileAt_of_file hfile, hcontents]
    · rw [hkind, if_neg htargetNe, if_neg hsourceNe]

/-- **Renaming a file leaves no loose ends.** -/
theorem wellFormed_rename {fromSteps toSteps : List Step} {id : Nat} {name : Name}
    (hwell : fs.WellFormed) (h : fs.rename start fromSteps toSteps = .ok fs')
    (hsource : fs.place false start fromSteps = .ok source)
    (hfile : fs.kind? source = some (.file id))
    (hown : ∀ path, fs.kind? path = some (.file id) → path = source)
    (hname : toSteps.getLast? = some (.name name)) : fs'.WellFormed := by
  obtain ⟨target, htarget, hdone⟩ := kind?_rename hwell h hsource hfile hown
  rcases hdone with ⟨rfl, -⟩ | ⟨hfree, hcontents, hkind⟩
  · exact hwell
  -- directories stay, because neither the source nor what was at the target is one
  have hdirectory : ∀ above, fs.isDirectoryAt above = true → fs'.isDirectoryAt above = true := by
    intro above hdir
    have hkindAbove := kind?_eq_directory.2 hdir
    refine kind?_eq_directory.1 ?_
    rw [hkind, if_neg, if_neg, hkindAbove]
    · rintro rfl
      rw [hfile] at hkindAbove
      cases hkindAbove
    · rintro rfl
      rw [hfree] at hdir
      cases hdir
  constructor
  · intro above below hsome
    refine hdirectory above ?_
    by_cases heq : above ++ [below] = target
    · obtain ⟨found, hpath, hdir⟩ := (place_eq_ok.1 htarget).last_name hname (by simp)
      obtain ⟨rfl, -⟩ := List.append_inj' (heq.trans hpath) rfl
      exact hdir
    · rw [hkind, if_neg heq] at hsome
      refine hwell.above above below fun hnone ↦ hsome ?_
      rw [hnone, ite_self]
  · intro other found hthere
    rw [hcontents]
    rw [hkind] at hthere
    split at hthere
    · obtain rfl := Node.file.inj (Option.some.inj hthere)
      exact hwell.content source _ hfile
    · split at hthere
      · cases hthere
      · exact hwell.content other found hthere

/-! ### Writing -/

theorem kind?_write (fs : FileSystem) (id position : Nat) (data : ByteArray) (path : Path) :
    (fs.write id position data).kind? path = fs.kind? path := by
  unfold write
  split <;> rfl

theorem size_contents_write (fs : FileSystem) (id position : Nat) (data : ByteArray) :
    (fs.write id position data).contents.size = fs.contents.size := by
  unfold write
  split
  · rfl
  · simp

theorem contents_write_of_ne (fs : FileSystem) {id other : Nat} (position : Nat)
    (data : ByteArray) (hne : other ≠ id) :
    (fs.write id position data).contents[other]? = fs.contents[other]? := by
  unfold write
  split
  · rfl
  · simp [Array.getElem?_modify, hne.symm]

/-- Bytes that are put over others from the start leave what goes further. -/
theorem overwrite_zero (under data : ByteArray) :
    overwrite under 0 data = data ++ under.extract data.size under.size := by
  unfold overwrite
  split
  · rename_i hsize
    obtain rfl := ByteArray.size_eq_zero_iff.1 hsize.symm
    rw [ByteArray.extract_eq_empty_iff.2 (by simp)]
    simp
  · simp

theorem overwrite_empty_zero (data : ByteArray) : overwrite ByteArray.empty 0 data = data := by
  rw [overwrite_zero, ByteArray.extract_eq_empty_iff.2 (by simp), ByteArray.append_empty]

/-- **Bytes that are put behind others** lie over the same as all of them together. -/
theorem overwrite_overwrite (under written data : ByteArray) :
    overwrite (overwrite under 0 written) written.size data =
      overwrite under 0 (written ++ data) := by
  rw [overwrite_zero, overwrite_zero]
  unfold overwrite
  simp only [ByteArray.size_append, ByteArray.size_extract]
  split
  · -- the first bytes cover what was there
    rename_i hsize
    have hcovered : under.extract written.size under.size = ByteArray.empty :=
      ByteArray.extract_eq_empty_iff.2 (by omega)
    have hbehind : under.extract (written.size + data.size) under.size = ByteArray.empty :=
      ByteArray.extract_eq_empty_iff.2 (by omega)
    rw [hcovered, hbehind]
    simp
  · rw [if_neg (by omega)]
    have hfront : (written ++ under.extract written.size under.size).extract 0 written.size =
        written := by
      rw [ByteArray.extract_append]
      simp
    have hover : written.extract (written.size + data.size)
        (written.size + (min under.size under.size - written.size)) = ByteArray.empty :=
      ByteArray.extract_eq_empty_iff.2 (by omega)
    rw [hfront, ByteArray.extract_append, hover, ByteArray.extract_extract]
    simp only [ByteArray.empty_append]
    congr 2 <;> omega

/-- **What a file holds when it has been written.** -/
theorem bytes_write {id position : Nat} {data bytes : ByteArray}
    (h : fs.contents[id]?.map (·.bytes) = some bytes) :
    (fs.write id position data).contents[id]?.map (·.bytes) =
      some (if data.size = 0 then bytes else overwrite bytes position data) := by
  unfold write
  split
  · exact h
  · rw [Array.getElem?_modify, if_pos rfl]
    obtain ⟨content, hcontent, rfl⟩ := Option.map_eq_some_iff.1 h
    rw [hcontent]
    rfl

/-- **Bytes that are written at the end are appended.** -/
theorem bytes_write_end {id : Nat} {data bytes : ByteArray}
    (h : fs.contents[id]?.map (·.bytes) = some bytes) :
    (fs.write id bytes.size data).contents[id]?.map (·.bytes) = some (bytes ++ data) := by
  rw [bytes_write h]
  split
  · rename_i hempty
    rw [ByteArray.size_eq_zero_iff.1 hempty, ByteArray.append_empty]
  · rw [overwrite, if_pos rfl]

/-- **Bytes that are written behind others** lie over the same as these. -/
theorem bytes_write_behind {id : Nat} {under written data : ByteArray}
    (h : fs.contents[id]?.map (·.bytes) = some (overwrite under 0 written)) :
    (fs.write id written.size data).contents[id]?.map (·.bytes) =
      some (overwrite under 0 (written ++ data)) := by
  rw [bytes_write h]
  split
  · rename_i hempty
    rw [ByteArray.size_eq_zero_iff.1 hempty, ByteArray.append_empty]
  · rw [overwrite_overwrite]

/-- **Writing into a file leaves the files of all paths alone that do not name it.** -/
theorem fileAt_write_of_ne {id position : Nat} {data : ByteArray}
    (hne : fs.kind? path ≠ some (.file id)) :
    (fs.write id position data).fileAt path = fs.fileAt path :=
  fileAt_congr (kind?_write fs id position data path) fun _ hother ↦
    contents_write_of_ne fs position data fun heq ↦ hne (heq ▸ hother)

/-! ### Reading -/

/-- The bytes that can be read from what was opened. -/
def bytesOf (fs : FileSystem) : Opened → ByteArray
  | .directory => ByteArray.empty
  | .file id => (fs.contents[id]?.map (·.bytes)).getD ByteArray.empty

theorem bytesOf_of_contents {id : Nat} {bytes : ByteArray}
    (h : fs.contents[id]?.map (·.bytes) = some bytes) : fs.bytesOf (.file id) = bytes := by
  show (fs.contents[id]?.map (·.bytes)).getD ByteArray.empty = bytes
  rw [h]
  rfl

theorem read_eq_extract (fs : FileSystem) (id position count : Nat) :
    fs.read id position count = (fs.bytesOf (.file id)).extract position (position + count) := by
  unfold read
  cases h : fs.contents[id]? with
  | none =>
    show ByteArray.empty = (((fs.contents[id]?).map (·.bytes)).getD ByteArray.empty).extract _ _
    rw [h]
    exact (ByteArray.extract_eq_empty_iff.2 (by simp)).symm
  | some content =>
    show _ = (((fs.contents[id]?).map (·.bytes)).getD ByteArray.empty).extract _ _
    rw [h]
    rfl

end FileSystem

end FileShare
