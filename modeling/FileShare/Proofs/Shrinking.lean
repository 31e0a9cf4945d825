import FileShare.Proofs.FileChanges
import Mathlib.Data.List.Nodup

/-!
# Removing entries from a file system

What is unlinked, and a directory that is removed, is one entry less (`FileSystem.Drops`): it was
there, nothing was below it, and every other path holds what it held, except that the directory above
notes the time. Both operations are told by one lemma (`drops_of_erase`), since they differ only in
what they insist on.

Along a series of removals a table only **shrinks** (`Shrinks`). A route that leads to something in
the smaller table led there in the larger one (`Walks.of_shrinks`): the only thing a removal can do
to a route is to break it. That is what pins down where a URL leads while a directory is being
emptied, even where links are on the way.

Of the trees of real systems it is used here that they are well formed, that no path is in the table
twice, and that their names are names that a system accepts and that are text (`IsTree`). Removals
preserve that.
-/

namespace FileShare

/-- A name that a system accepts for an entry, and that is text. -/
def Name.IsText (name : Name) : Prop :=
  ∃ text : String, text.toUTF8 = name ∧ text ≠ "" ∧ text ≠ "." ∧ text ≠ ".." ∧
    '/' ∉ text.toList ∧ name.data.contains 0 = false ∧ name.size ≤ maxNameSize

namespace FileSystem

variable {fs fs' : FileSystem} {follow : Bool} {budget : Nat} {start path last other : Path}
variable {steps : List Step} {node : Node} {name : Name}

/-! ### Entries that are dropped -/

/-- One table **drops** an entry of another one. -/
structure Drops (fs fs' : FileSystem) (path : Path) : Prop where
  ne_nil : path ≠ []
  there : fs.kind? path ≠ none
  bare : ∀ rest, rest ≠ [] → fs.kind? (path ++ rest) = none
  gone : fs'.kind? path = none
  kinds : ∀ other, other ≠ path → fs'.kind? other = fs.kind? other
  /-- The directory above notes the time. -/
  nodes : ∀ other, other ≠ path → other ≠ path.dropLast → fs'.node? other = fs.node? other
  contents : fs'.contents = fs.contents
  keys : (fs.nodes.map Prod.fst).Nodup → (fs'.nodes.map Prod.fst).Nodup

theorem node?_touch_of_ne (fs : FileSystem) (h : other ≠ path) :
    (fs.touch path).node? other = fs.node? other := by
  unfold touch
  split
  · rw [node?_put, if_neg h]
  · rfl

theorem nodup_keys_filter (keep : Path × Node → Bool) (h : (fs.nodes.map Prod.fst).Nodup) :
    ((fs.nodes.filter keep).map Prod.fst).Nodup :=
  h.sublist (List.filter_sublist.map Prod.fst)

theorem nodup_keys_touch (path : Path) (h : (fs.nodes.map Prod.fst).Nodup) :
    ((fs.touch path).nodes.map Prod.fst).Nodup := by
  unfold touch
  split
  · rw [put, List.map_cons, List.nodup_cons]
    refine ⟨fun hmem ↦ ?_, nodup_keys_filter _ h⟩
    obtain ⟨entry, hentry, hkey⟩ := List.mem_map.1 hmem
    exact absurd hkey (by simpa using (List.mem_filter.1 hentry).2)
  · exact h

/-- **What is erased is dropped**, if nothing was below it. -/
theorem drops_of_erase (hnil : path ≠ []) (hthere : fs.node? path = some node)
    (hbare : ∀ rest, rest ≠ [] → fs.kind? (path ++ rest) = none) :
    fs.Drops ((fs.erase path).touch path.dropLast) path where
  ne_nil := hnil
  there := mt kind?_eq_none.1 (by simp [hthere])
  bare := hbare
  gone := by
    rw [kind?_touch, kind?_eq_none, node?, if_neg hnil]
    exact (lookup_filter_key (fun key ↦ decide (key ≠ path)) _ _).trans (by simp)
  kinds other hne := by rw [kind?_touch, kind?_erase_of_ne fs hne]
  nodes other hne habove := by rw [node?_touch_of_ne _ habove, node?_erase_of_ne fs hne]
  contents := by simp
  keys hkeys := nodup_keys_touch _ (nodup_keys_filter _ hkeys)

/-- The entries of a directory are the nodes one below it. -/
theorem mem_children_of_node? (h : fs.node? (path ++ [name]) = some node) :
    (name, node) ∈ fs.children path :=
  List.mem_filterMap.2 ⟨_, mem_of_node?_eq_some (by simp) h, by simp⟩

/-- What hangs below a directory hangs below one of its entries. -/
theorem WellFormed.entry_above (h : fs.WellFormed) {rest : List Name}
    (hthere : fs.kind? (path ++ name :: rest) ≠ none) : fs.kind? (path ++ [name]) ≠ none := by
  cases rest with
  | nil => exact hthere
  | cons next rest =>
    intro hnone
    refine hthere ?_
    rw [List.append_cons path name]
    refine h.kind?_below ?_ (by simp)
    rw [← Bool.not_eq_true, ← kind?_eq_directory, hnone]
    simp

/-- What is above something is a directory. -/
theorem WellFormed.isDirectoryAt_above (h : fs.WellFormed) {rest : List Name}
    (hthere : fs.kind? (path ++ rest) ≠ none) (hrest : rest ≠ []) :
    fs.isDirectoryAt path = true := by
  by_contra hdir
  exact hthere (h.kind?_below (Bool.not_eq_true _ ▸ hdir) hrest)

/-- A directory without entries has nothing below it. -/
theorem WellFormed.bare_of_children (h : fs.WellFormed) (hempty : fs.children path = [])
    (rest : List Name) (hrest : rest ≠ []) : fs.kind? (path ++ rest) = none := by
  obtain ⟨name, rest, rfl⟩ := List.exists_cons_of_ne_nil hrest
  by_contra hthere
  obtain ⟨node, hnode⟩ :=
    Option.ne_none_iff_exists'.1 (mt kind?_eq_none.2 (h.entry_above hthere))
  simpa [hempty] using mem_children_of_node? hnode

/-- **What is unlinked is dropped**, and it was no directory. -/
theorem unlink_drops (hwell : fs.WellFormed) (hname : steps.getLast? = some (.name name))
    (h : fs.unlink start steps = .ok fs') :
    ∃ path, fs.place false start steps = .ok path ∧ fs.isDirectoryAt path = false ∧
      fs.Drops fs' path := by
  unfold unlink at h
  obtain ⟨⟨path, node⟩, hfind, h⟩ := bind_eq_ok.1 h
  obtain ⟨hplace, hnode⟩ := find_eq_ok.1 hfind
  obtain ⟨above, hpath, -⟩ := (place_eq_ok.1 hplace).last_name hname (by simp)
  have hdone : fs' = (fs.erase path).touch path.dropLast ∧ fs.isDirectoryAt path = false := by
    unfold isDirectoryAt
    rw [hnode]
    cases node with
    | directory time => cases h
    | _ => exact ⟨(Except.ok.inj h).symm, rfl⟩
  obtain ⟨rfl, hplain⟩ := hdone
  exact ⟨path, hplace, hplain,
    drops_of_erase (by simp [hpath]) hnode fun rest ↦ hwell.kind?_below hplain⟩

/-- **A directory that is removed is dropped.** -/
theorem removeDirectory_drops (hwell : fs.WellFormed)
    (h : fs.removeDirectory start steps = .ok fs') :
    ∃ path, fs.place false start steps = .ok path ∧ fs.isDirectoryAt path = true ∧
      fs.Drops fs' path := by
  unfold removeDirectory at h
  obtain ⟨⟨path, node⟩, hfind, h⟩ := bind_eq_ok.1 h
  obtain ⟨hplace, hnode⟩ := find_eq_ok.1 hfind
  dsimp only at h
  split at h
  · split at h
    · cases h
    split at h
    · cases h
    rename_i hnil hempty
    obtain rfl := Except.ok.inj h
    exact ⟨path, hplace, isDirectoryAt_of_node? hnode,
      drops_of_erase hnil hnode (hwell.bare_of_children (not_not.1 hempty))⟩
  · cases h

/-- Take away what a route leads to: a directory without entries, or what is no directory. -/
def dispose (fs : FileSystem) (isDirectory : Bool) (start : Path) (steps : List Step) :
    Except Errno FileSystem :=
  if isDirectory then fs.removeDirectory start steps else fs.unlink start steps

/-- **What is taken away is dropped**, and it was what it was taken for. -/
theorem dispose_drops {isDirectory : Bool} (hwell : fs.WellFormed)
    (hname : steps.getLast? = some (.name name))
    (h : fs.dispose isDirectory start steps = .ok fs') :
    ∃ path, fs.place false start steps = .ok path ∧ fs.isDirectoryAt path = isDirectory ∧
      fs.Drops fs' path := by
  cases isDirectory with
  | false => exact unlink_drops hwell hname h
  | true => exact removeDirectory_drops hwell h

/-- What a route leads to can be taken away, if it is not the root and has no entries. -/
theorem dispose_eq_ok (hplace : fs.place false start steps = .ok path)
    (hthere : fs.kind? path ≠ none) (hnil : path ≠ [])
    (hempty : fs.isDirectoryAt path = true → fs.children path = []) :
    ∃ fs', fs.dispose (fs.isDirectoryAt path) start steps = .ok fs' := by
  obtain ⟨node, hnode⟩ := Option.ne_none_iff_exists'.1 (mt kind?_eq_none.2 hthere)
  have hfind := find_eq_ok.2 ⟨hplace, hnode⟩
  cases hdir : fs.isDirectoryAt path with
  | true =>
    obtain ⟨time, hdirectory⟩ := exists_of_isDirectoryAt hdir
    obtain rfl := Option.some.inj (hnode.symm.trans hdirectory)
    refine ⟨(fs.erase path).touch path.dropLast, ?_⟩
    show fs.removeDirectory start steps = _
    unfold removeDirectory
    rw [hfind]
    simp [bind, Except.bind, hnil, hempty hdir, pure, Except.pure]
  | false =>
    refine ⟨(fs.erase path).touch path.dropLast, ?_⟩
    show fs.unlink start steps = _
    unfold unlink
    rw [hfind]
    cases node with
    | directory time =>
      rw [isDirectoryAt_of_node? hnode] at hdir
      cases hdir
    | _ => rfl

/-! ### Tables that shrink -/

/-- One table **shrinks** to another one that holds some of what it holds, and nothing else. -/
def Shrinks (fs fs' : FileSystem) : Prop :=
  ∀ path kind, fs'.kind? path = some kind → fs.kind? path = some kind

theorem Shrinks.refl (fs : FileSystem) : fs.Shrinks fs := fun _ _ h ↦ h

theorem Shrinks.trans {fs'' : FileSystem} (h : fs.Shrinks fs') (h' : fs'.Shrinks fs'') :
    fs.Shrinks fs'' :=
  fun path kind hkind ↦ h path kind (h' path kind hkind)

theorem Shrinks.there (h : fs.Shrinks fs') (hthere : fs'.kind? path ≠ none) :
    fs.kind? path ≠ none := by
  obtain ⟨kind, hkind⟩ := Option.ne_none_iff_exists'.1 hthere
  simp [h path kind hkind]

theorem Shrinks.gone (h : fs.Shrinks fs') (hgone : fs.kind? path = none) :
    fs'.kind? path = none :=
  not_not.1 fun hthere ↦ h.there hthere hgone

theorem Shrinks.isDirectoryAt (h : fs.Shrinks fs') (hdir : fs'.isDirectoryAt path = true) :
    fs.isDirectoryAt path = true :=
  kind?_eq_directory.1 (h _ _ (kind?_eq_directory.2 hdir))

theorem Shrinks.congr (h : fs.Shrinks fs') (hthere : fs'.kind? path ≠ none) :
    fs'.kind? path = fs.kind? path := by
  obtain ⟨kind, hkind⟩ := Option.ne_none_iff_exists'.1 hthere
  rw [hkind, h path kind hkind]

theorem Drops.shrinks (h : fs.Drops fs' path) : fs.Shrinks fs' := by
  intro other kind hkind
  by_cases heq : other = path
  · rw [heq, h.gone] at hkind
    cases hkind
  · rw [← h.kinds other heq, hkind]

/-! ### Trees -/

/-- The table of a **tree**: each path is in it once, and the names are text. -/
structure IsTree (fs : FileSystem) : Prop where
  formed : fs.WellFormed
  keys : (fs.nodes.map Prod.fst).Nodup
  text : ∀ path name, fs.kind? (path ++ [name]) ≠ none → name.IsText

theorem Drops.wellFormed (h : fs.Drops fs' path) (hformed : fs.WellFormed) : fs'.WellFormed where
  above above name hthere := by
    have habove := hformed.above above name (h.shrinks.there hthere)
    rw [isDirectoryAt_congr (h.kinds above ?_), habove]
    rintro rfl
    exact h.shrinks.there hthere (h.bare [name] (by simp))
  content other id hfile := by
    rw [h.contents]
    exact hformed.content other id (h.shrinks _ _ hfile)

/-- **A tree stays a tree** when an entry is dropped that has nothing below it. -/
theorem Drops.isTree (h : fs.Drops fs' path) (htree : fs.IsTree) : fs'.IsTree where
  formed := h.wellFormed htree.formed
  keys := h.keys htree.keys
  text above name hthere := htree.text above name (h.shrinks.there hthere)

/-- What is in a table under a path of its own is what is found there. -/
theorem lookup_of_mem {nodes : List (Path × Node)} (hkeys : (nodes.map Prod.fst).Nodup)
    (h : (path, node) ∈ nodes) : nodes.lookup path = some node := by
  induction nodes with
  | nil => cases h
  | cons entry nodes ih =>
    rw [List.map_cons, List.nodup_cons] at hkeys
    rcases List.mem_cons.1 h with rfl | hmem
    · simp
    · have hne : path ≠ entry.1 := fun heq ↦ hkeys.1 (heq ▸ List.mem_map_of_mem hmem)
      rw [List.lookup_cons, beq_eq_false_iff_ne.2 hne]
      exact ih hkeys.2 hmem

/-- **The entries of a directory are exactly the nodes one below it**, if each path is in the table
once. -/
theorem mem_children_iff (hkeys : (fs.nodes.map Prod.fst).Nodup) :
    (name, node) ∈ fs.children path ↔ fs.node? (path ++ [name]) = some node := by
  refine ⟨fun hmem ↦ ?_, mem_children_of_node?⟩
  obtain ⟨⟨below, found⟩, hin, hsome⟩ := List.mem_filterMap.1 hmem
  dsimp only at hsome
  split at hsome
  · rename_i last hlast
    split at hsome
    · rename_i hdrop
      obtain ⟨rfl, rfl⟩ := Prod.mk.inj (Option.some.inj hsome)
      obtain rfl : below = path ++ [last] := by
        rw [← hdrop]
        exact (List.dropLast_append_getLast? last hlast).symm
      exact node?_of_lookup (lookup_of_mem hkeys hin)
    · cases hsome
  · cases hsome

/-- The names on the way to something in a tree are text. -/
theorem IsTree.text_of_mem (h : fs.IsTree) {names : List Name}
    (hthere : fs.kind? (path ++ names) ≠ none) (hname : name ∈ names) : name.IsText := by
  obtain ⟨front, rest, rfl⟩ := List.append_of_mem hname
  rw [← List.append_assoc] at hthere
  exact h.text _ _ (h.formed.entry_above hthere)

theorem IsTree.children_eq_nil (h : fs.IsTree)
    (hbare : ∀ name, fs.kind? (path ++ [name]) = none) : fs.children path = [] := by
  rw [List.eq_nil_iff_forall_not_mem]
  rintro ⟨name, node⟩ hmem
  have hnode := (mem_children_iff h.keys).1 hmem
  rw [kind?_eq_none.1 (hbare name)] at hnode
  cases hnode

/-! ### Routes in a table that shrinks -/

/-- A route that goes on leads somewhere on its way, and on from there. Links on the way are
followed in any case. -/
theorem Walks.of_append {front back : List Step} (hback : back ≠ [])
    (h : fs.Walks follow budget path (front ++ back) last) :
    ∃ mid below, fs.Walks true budget path front mid ∧ fs.Walks follow below mid back last := by
  generalize hsteps : front ++ back = steps at h
  induction h generalizing front with
  | stop => exact absurd (List.append_eq_nil_iff.1 hsteps).2 hback
  | @here budget path _ rest hdir hrest ih =>
    cases front with
    | nil => exact ⟨path, budget, .stop _ _, by subst hsteps; exact .here hdir hrest⟩
    | cons step front =>
      obtain ⟨rfl, rfl⟩ := List.cons.inj hsteps
      obtain ⟨mid, below, hfront, hend⟩ := ih rfl
      exact ⟨mid, below, .here hdir hfront, hend⟩
  | @up budget path _ rest hdir hrest ih =>
    cases front with
    | nil => exact ⟨path, budget, .stop _ _, by subst hsteps; exact .up hdir hrest⟩
    | cons step front =>
      obtain ⟨rfl, rfl⟩ := List.cons.inj hsteps
      obtain ⟨mid, below, hfront, hend⟩ := ih rfl
      exact ⟨mid, below, .up hdir hfront, hend⟩
  | @entry budget path _ rest name hdir hsize hlink hrest ih =>
    cases front with
    | nil => exact ⟨path, budget, .stop _ _, by subst hsteps; exact .entry hdir hsize hlink hrest⟩
    | cons step front =>
      obtain ⟨rfl, rfl⟩ := List.cons.inj hsteps
      obtain ⟨mid, below, hfront, hend⟩ := ih rfl
      exact ⟨mid, below, .entry hdir hsize hlink hfront, hend⟩
  | @atLink budget path name _ _ hdir hsize hlink hfollow =>
    cases front with
    | nil => exact ⟨path, budget, .stop _ _, by subst hsteps; exact .atLink hdir hsize hlink hfollow⟩
    | cons step front =>
      exact absurd (List.append_eq_nil_iff.1 (List.cons.inj hsteps).2).2 hback
  | @through budget path _ rest name target _ hdir hsize hlink hgo hrest ih =>
    cases front with
    | nil =>
      exact ⟨path, budget + 1, .stop _ _, by subst hsteps; exact .through hdir hsize hlink hgo hrest⟩
    | cons step front =>
      obtain ⟨rfl, rfl⟩ := List.cons.inj hsteps
      obtain ⟨mid, below, hfront, hend⟩ := ih (List.append_assoc ..)
      exact ⟨mid, below, .through hdir hsize hlink (by simp) hfront, hend⟩

/-- A walk that gets to something starts at something. -/
theorem Walks.start_there (h : fs.Walks follow budget path steps last)
    (hthere : fs.kind? last ≠ none) : fs.kind? path ≠ none := by
  cases h with
  | stop => exact hthere
  | here hdir | up hdir | entry hdir | atLink hdir | through hdir =>
    rw [kind?_eq_directory.2 hdir]
    simp

/-- **A route that still leads to something has always led there.** -/
theorem Walks.of_shrinks (hshrinks : fs.Shrinks fs')
    (h : fs'.Walks follow budget path steps last) (hthere : fs'.kind? last ≠ none) :
    fs.Walks follow budget path steps last := by
  induction h with
  | stop budget path => exact .stop budget path
  | here hdir _ ih => exact .here (hshrinks.isDirectoryAt hdir) (ih hthere)
  | up hdir _ ih => exact .up (hshrinks.isDirectoryAt hdir) (ih hthere)
  | entry hdir hsize hlink hrest ih =>
    -- a link that is gone would leave nothing to go on from
    refine .entry (hshrinks.isDirectoryAt hdir) hsize (fun target time hsome ↦ ?_) (ih hthere)
    exact hlink target time ((hshrinks.congr (hrest.start_there hthere)).trans hsome)
  | atLink hdir hsize hlink hfollow =>
    exact .atLink (hshrinks.isDirectoryAt hdir) hsize (hshrinks _ _ hlink) hfollow
  | through hdir hsize hlink hgo _ ih =>
    exact .through (hshrinks.isDirectoryAt hdir) hsize (hshrinks _ _ hlink) hgo (ih hthere)

/-- A route that has gone on in a table that has shrunk goes through where it led before. -/
theorem place_of_shrinks (hshrinks : fs.Shrinks fs')
    (hbefore : fs.place true start steps = .ok path)
    (h : fs'.place follow start (steps ++ [.name name]) = .ok last) :
    ∃ below, fs'.Walks follow below path [.name name] last := by
  obtain ⟨mid, below, hfront, hend⟩ := (place_eq_ok.1 h).of_append (by simp)
  have hmid : fs'.kind? mid ≠ none := by
    cases hend with
    | entry hdir | atLink hdir | through hdir =>
      rw [kind?_eq_directory.2 hdir]
      simp
  have hplace : fs.place true start steps = .ok mid :=
    place_eq_ok.2 (hfront.of_shrinks hshrinks hmid)
  rw [hbefore] at hplace
  obtain rfl := Except.ok.inj hplace
  exact ⟨below, hend⟩

/-- **One name on from where a route led**, it leads to that entry, unless a link is followed at its
end. -/
theorem place_entry_of_shrinks {names : List Name} (hshrinks : fs.Shrinks fs')
    (hbefore : fs.place true start (names.map .name) = .ok path)
    (hlink : follow = true → ∀ target time, fs'.kind? (path ++ [name]) ≠ some (.link target time))
    (h : fs'.place follow start ((names ++ [name]).map .name) = .ok last) :
    last = path ++ [name] := by
  rw [List.map_append] at h
  obtain ⟨below, hwalks⟩ := place_of_shrinks hshrinks hbefore h
  cases hwalks with
  | entry _ _ _ hrest =>
    cases hrest
    rfl
  | atLink => rfl
  | through _ _ hsome hgo => exact absurd hsome (hlink (by simpa using hgo) _ _)

/-! ### Routes without links -/

/-- Along names that are no links, a route leads where its names say. -/
theorem Walks.eq_append {names : List Name}
    (hlinks : ∀ front, front <+: names → front ≠ [] → front ≠ names ∨ follow = true →
      ∀ target time, fs.kind? (path ++ front) ≠ some (.link target time))
    (h : fs.Walks follow budget path (names.map .name) last) : last = path ++ names := by
  induction names generalizing path with
  | nil =>
    cases h
    simp
  | cons name names ih =>
    rw [List.map_cons] at h
    generalize hrest : names.map Step.name = rest at h
    cases h with
    | entry _ _ _ hwalks =>
      subst hrest
      rw [List.append_cons]
      refine ih (fun front hfront hne hends ↦ ?_) hwalks
      rw [← List.append_cons]
      exact hlinks (name :: front) (List.cons_prefix_cons.2 ⟨rfl, hfront⟩) (by simp)
        (by simpa using hends)
    | atLink _ _ hlink =>
      obtain rfl := List.map_eq_nil_iff.1 hrest
      rfl
    | @through _ _ _ _ _ target time _ _ hlink hgo =>
      have hends : [name] ≠ name :: names ∨ follow = true := by
        by_contra hneither
        simp only [not_or, not_not, List.cons.injEq, true_and, Bool.not_eq_true] at hneither
        exact hgo ⟨by rw [← hrest, ← hneither.1]; rfl, hneither.2⟩
      exact absurd hlink (hlinks [name] (by simp) (by simp) hends target time)

/-- What is in a tree is found by its names, except that a link may be followed. -/
theorem IsTree.walks (h : fs.IsTree) {names : List Name}
    (hthere : fs.kind? (path ++ names) ≠ none)
    (hlinks : follow = true → ∀ target time, fs.kind? (path ++ names) ≠ some (.link target time)) :
    fs.Walks follow budget path (names.map .name) (path ++ names) := by
  induction names generalizing path with
  | nil => simpa using Walks.stop budget path
  | cons name names ih =>
    have hdir := h.formed.isDirectoryAt_above hthere (by simp)
    have hentry := h.formed.entry_above hthere
    obtain ⟨-, -, -, -, -, -, -, hsize⟩ := h.text path name hentry
    rw [List.append_cons] at hthere hlinks ⊢
    rw [List.map_cons]
    by_cases hlink : ∃ target time, fs.kind? (path ++ [name]) = some (.link target time)
    · -- below a link there is nothing
      obtain ⟨target, time, hlink⟩ := hlink
      obtain rfl : names = [] := by
        by_contra hne
        have hdir := h.formed.isDirectoryAt_above hthere hne
        rw [← kind?_eq_directory, hlink] at hdir
        simp at hdir
      rw [List.append_nil] at hlinks ⊢
      have hfollow : follow = false :=
        Bool.not_eq_true _ ▸ fun hfollow ↦ hlinks hfollow target time hlink
      exact .atLink hdir hsize hlink hfollow
    · exact .entry hdir hsize (fun target time hsome ↦ hlink ⟨target, time, hsome⟩)
        (ih hthere hlinks)

theorem IsTree.place_eq (h : fs.IsTree) {names : List Name}
    (hthere : fs.kind? (start ++ names) ≠ none)
    (hlinks : follow = true → ∀ target time, fs.kind? (start ++ names) ≠ some (.link target time)) :
    fs.place follow start (names.map .name) = .ok (start ++ names) :=
  place_eq_ok.2 (h.walks hthere hlinks)

end FileSystem

end FileShare
