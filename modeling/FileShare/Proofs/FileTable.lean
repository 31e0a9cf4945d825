import FileShare.Host.FileSystem
import Mathlib.Data.List.Induction
import Mathlib.Tactic.ByContra

/-!
# What the table of a file system holds

The operations of a file system put entries into a table and take them out of it. This module says
what is in the table afterwards, and it does so up to the times of directories (`kind?`): making or
removing an entry writes the time into the directory above, which is of no interest to anybody who
asks what is where.

The question that is asked of a table here is: **what is the file at a path?** (`fileAt`). It
depends on the kind of the node and on the content that the node names, and on nothing else. Where a
route leads is asked in `Proofs.Routes`.

The tables of real file systems are trees whose files have contents (`WellFormed`). Nothing hangs
below a path that holds no directory, and a content that is new belongs to no file.

## Surroundings

`Proofs.Staging` follows the upload that a responder writes through these operations.
-/

namespace FileShare

/-- A node without the time at which a directory was changed. -/
def Node.timeless : Node → Node
  | .directory _ => .directory 0
  | node => node

namespace FileSystem

variable {fs fs' : FileSystem} {path other : Path} {node : Node}

/-! ### Looking up -/

/-- Entries that are kept are found as before, and the others are not found. -/
theorem lookup_filter_key (keep : Path → Bool) (nodes : List (Path × Node)) (path : Path) :
    (nodes.filter fun entry ↦ keep entry.1).lookup path =
      if keep path then nodes.lookup path else none := by
  induction nodes with
  | nil => simp
  | cons entry nodes ih =>
    obtain ⟨key, node⟩ := entry
    rw [List.filter_cons]
    by_cases hkey : path = key
    · subst hkey
      by_cases hkeep : keep path
      · simp [hkeep]
      · simp [hkeep, ih]
    · have hne : (path == key) = false := beq_eq_false_iff_ne.2 hkey
      by_cases hkeep : keep key
      · simp [hkeep, List.lookup_cons, hne, ih]
      · simp [hkeep, List.lookup_cons, hne, ih]

/-- The node at a path depends on the entry that is found, and at the root on the clock. -/
theorem node?_congr (hlookup : fs'.nodes.lookup path = fs.nodes.lookup path)
    (hclock : fs'.clock = fs.clock) : fs'.node? path = fs.node? path := by
  unfold node?
  by_cases hroot : path = []
  · subst hroot
    rw [if_pos rfl, if_pos rfl, hlookup, hclock]
  · rw [if_neg hroot, if_neg hroot, hlookup]

theorem node?_of_lookup (h : fs.nodes.lookup path = some node) : fs.node? path = some node := by
  unfold node?
  split
  · rename_i hroot
    subst hroot
    rw [h]
    rfl
  · exact h

theorem node?_put (fs : FileSystem) (path : Path) (node : Node) (other : Path) :
    (fs.put path node).node? other = if other = path then some node else fs.node? other := by
  by_cases h : other = path
  · subst h
    rw [if_pos rfl]
    exact node?_of_lookup (by simp [put])
  · rw [if_neg h]
    refine node?_congr ?_ rfl
    rw [put, List.lookup_cons, beq_eq_false_iff_ne.2 h]
    exact (lookup_filter_key (fun key ↦ decide (key ≠ path)) _ _).trans (by simp [h])

theorem node?_erase_of_ne (fs : FileSystem) (h : other ≠ path) :
    (fs.erase path).node? other = fs.node? other :=
  node?_congr
    ((lookup_filter_key (fun key ↦ decide (key ≠ path)) _ _).trans (by simp [h])) rfl

/-! ### Kinds of nodes -/

/-- What is at a path, but for the time of a directory. -/
def kind? (fs : FileSystem) (path : Path) : Option Node :=
  (fs.node? path).map Node.timeless

theorem kind?_eq_none : fs.kind? path = none ↔ fs.node? path = none :=
  Option.map_eq_none_iff

theorem kind?_eq_directory :
    fs.kind? path = some (.directory 0) ↔ fs.isDirectoryAt path = true := by
  unfold kind? isDirectoryAt
  cases h : fs.node? path with
  | none => simp
  | some node => cases node <;> simp [Node.timeless]

theorem kind?_eq_file {id : Nat} :
    fs.kind? path = some (.file id) ↔ fs.node? path = some (.file id) := by
  unfold kind?
  cases h : fs.node? path with
  | none => simp
  | some node => cases node <;> simp [Node.timeless]

theorem kind?_eq_link {target : ByteArray} {time : Int64} :
    fs.kind? path = some (.link target time) ↔ fs.node? path = some (.link target time) := by
  unfold kind?
  cases h : fs.node? path with
  | none => simp
  | some node => cases node <;> simp [Node.timeless]

theorem kind?_put (fs : FileSystem) (path : Path) (node : Node) (other : Path) :
    (fs.put path node).kind? other =
      if other = path then some node.timeless else fs.kind? other := by
  unfold kind?
  rw [node?_put]
  split <;> rfl

theorem kind?_erase_of_ne (fs : FileSystem) (h : other ≠ path) :
    (fs.erase path).kind? other = fs.kind? other := by
  unfold kind?
  rw [node?_erase_of_ne fs h]

/-- What is taken away leaves nothing, or the root as it is without an entry. -/
theorem kind?_erase_self (fs : FileSystem) (path : Path) :
    (fs.erase path).kind? path = none ∨ (fs.erase path).kind? path = some (.directory 0) := by
  have hlookup : (fs.erase path).nodes.lookup path = none :=
    (lookup_filter_key (fun key ↦ decide (key ≠ path)) _ _).trans (by simp)
  unfold kind? node?
  by_cases hroot : path = []
  · subst hroot
    rw [if_pos rfl, hlookup]
    exact .inr rfl
  · rw [if_neg hroot, hlookup]
    exact .inl rfl

/-- **That a directory has changed changes nothing else.** -/
@[simp] theorem kind?_touch (fs : FileSystem) (path other : Path) :
    (fs.touch path).kind? other = fs.kind? other := by
  unfold touch
  split
  · rename_i modified h
    rw [kind?_put]
    split
    · rename_i heq
      subst heq
      rw [kind?_eq_directory.2 (by unfold isDirectoryAt; rw [h])]
      rfl
    · rfl
  · rfl

@[simp] theorem contents_put (fs : FileSystem) (path : Path) (node : Node) :
    (fs.put path node).contents = fs.contents := rfl

@[simp] theorem contents_erase (fs : FileSystem) (path : Path) :
    (fs.erase path).contents = fs.contents := rfl

@[simp] theorem contents_touch (fs : FileSystem) (path : Path) :
    (fs.touch path).contents = fs.contents := by
  unfold touch
  split <;> rfl

@[simp] theorem contents_move (fs : FileSystem) (source target : Path) :
    (fs.move source target).contents = fs.contents := rfl

/-- A directory is told by its kind. -/
theorem isDirectoryAt_congr (h : fs'.kind? path = fs.kind? path) :
    fs'.isDirectoryAt path = fs.isDirectoryAt path := by
  rw [Bool.eq_iff_iff, ← kind?_eq_directory, ← kind?_eq_directory, h]

/-! ### Files -/

/-- The bytes of the file at a path, if there is a file. -/
def fileAt (fs : FileSystem) (path : Path) : Option ByteArray :=
  match fs.node? path with
  | some (.file id) => fs.contents[id]?.map (·.bytes)
  | _ => none

theorem fileAt_of_file {id : Nat} (h : fs.kind? path = some (.file id)) :
    fs.fileAt path = fs.contents[id]?.map (·.bytes) := by
  unfold fileAt
  rw [kind?_eq_file.1 h]

theorem fileAt_eq_none (h : ∀ id, fs.kind? path ≠ some (.file id)) : fs.fileAt path = none := by
  unfold fileAt
  split
  · rename_i id hnode
    exact absurd (kind?_eq_file.2 hnode) (h id)
  · rfl

/-- The file at a path is what its node and the content of its node say. -/
theorem fileAt_congr (hkind : fs'.kind? path = fs.kind? path)
    (hcontent : ∀ id, fs.kind? path = some (.file id) → fs'.contents[id]? = fs.contents[id]?) :
    fs'.fileAt path = fs.fileAt path := by
  by_cases h : ∃ id, fs.kind? path = some (.file id)
  · obtain ⟨id, h⟩ := h
    rw [fileAt_of_file h, fileAt_of_file (hkind.trans h), hcontent id h]
  · have hnone : ∀ id, fs.kind? path ≠ some (.file id) := fun id hid ↦ h ⟨id, hid⟩
    rw [fileAt_eq_none hnone, fileAt_eq_none fun id ↦ hkind ▸ hnone id]

/-! ### Trees -/

/-- A table is **well formed** if its nodes hang in directories and its files have contents. -/
structure WellFormed (fs : FileSystem) : Prop where
  above : ∀ path name, fs.kind? (path ++ [name]) ≠ none → fs.isDirectoryAt path = true
  content : ∀ path id, fs.kind? path = some (.file id) → id < fs.contents.size

/-- **Nothing hangs below what is no directory.** -/
theorem WellFormed.kind?_below (h : fs.WellFormed) (hpath : fs.isDirectoryAt path = false)
    {rest : List Name} (hrest : rest ≠ []) : fs.kind? (path ++ rest) = none := by
  induction rest using List.reverseRecOn with
  | nil => exact absurd rfl hrest
  | append_singleton rest name ih =>
    by_contra hsome
    rw [← List.append_assoc] at hsome
    have habove := h.above _ _ hsome
    by_cases hnil : rest = []
    · rw [hnil, List.append_nil, hpath] at habove
      exact absurd habove (by decide)
    · have hnone := ih hnil
      rw [kind?_eq_directory.2 habove] at hnone
      exact absurd hnone (by simp)

/-- The table of well-formed nodes depends on kinds and on the number of contents. -/
theorem WellFormed.congr (h : fs.WellFormed) (hkind : ∀ path, fs'.kind? path = fs.kind? path)
    (hsize : fs'.contents.size = fs.contents.size) : fs'.WellFormed where
  above path name hsome := by
    rw [isDirectoryAt_congr (hkind path)]
    exact h.above path name (hkind (path ++ [name]) ▸ hsome)
  content path id hfile := by
    rw [hsize]
    exact h.content path id (hkind path ▸ hfile)

/-- What is found below the root is an entry of the table. -/
theorem mem_of_node?_eq_some (hpath : path ≠ []) (h : fs.node? path = some node) :
    (path, node) ∈ fs.nodes := by
  unfold node? at h
  rw [if_neg hpath] at h
  obtain ⟨front, rest, heq, -⟩ := List.lookup_eq_some_iff.1 h
  rw [heq]
  simp

/-- A file is an entry of the table, even at the root. -/
theorem mem_of_kind?_eq_file {id : Nat} (h : fs.kind? path = some (.file id)) :
    (path, .file id) ∈ fs.nodes := by
  have hnode := kind?_eq_file.1 h
  by_cases hroot : path = []
  · subst hroot
    unfold node? at hnode
    rw [if_pos rfl] at hnode
    cases hlookup : fs.nodes.lookup [] with
    | none =>
      rw [hlookup] at hnode
      cases hnode
    | some node =>
      rw [hlookup] at hnode
      obtain rfl : node = .file id := Option.some.inj hnode
      obtain ⟨front, rest, heq, -⟩ := List.lookup_eq_some_iff.1 hlookup
      rw [heq]
      simp
  · exact mem_of_node?_eq_some hroot hnode

/-- **A table is well formed if its entries are**, of which there are finitely many. -/
theorem wellFormed_of_nodes
    (habove : ∀ path node, (path, node) ∈ fs.nodes → fs.isDirectoryAt path.dropLast = true)
    (hcontent : ∀ path id, (path, .file id) ∈ fs.nodes → id < fs.contents.size) :
    fs.WellFormed where
  above path name hsome := by
    obtain ⟨node, hnode⟩ := Option.ne_none_iff_exists'.1 (mt kind?_eq_none.2 hsome)
    simpa using habove _ _ (mem_of_node?_eq_some (by simp) hnode)
  content path id hfile := hcontent path id (mem_of_kind?_eq_file hfile)

end FileSystem

end FileShare
