import FileShare.Proofs.FileTable

/-!
# Where routes lead

A walk along a route looks at one directory after the other, follows links as long as its budget
lasts, and stops at the last name. `FileSystem.Walks` has a rule for each thing that a step may
find, so that a successful walk is a derivation (`walk_eq_ok`), and a statement about all routes is
an induction over it.

Two things are worth knowing about a route that ends in a name. It leads to an entry of that name in
a directory, unless a link is followed at the end (`Walks.last_name`). And it still leads there as
long as directories and links are kept (`Walks.mono`): a walk that got through never looked for
anything else, except at its very end.
-/

namespace FileShare

namespace FileSystem

variable {fs fs' : FileSystem} {follow : Bool} {budget : Nat} {path last : Path} {name : Name}
variable {rest steps : List Step}

/-- The **derivation of a walk** that gets to the end of its route. -/
inductive Walks (fs : FileSystem) (follow : Bool) : Nat → Path → List Step → Path → Prop where
  | stop (budget : Nat) (path : Path) : Walks fs follow budget path [] path
  | here {budget : Nat} {path last : Path} {rest : List Step}
      (hdir : fs.isDirectoryAt path = true) (hrest : Walks fs follow budget path rest last) :
      Walks fs follow budget path (.here :: rest) last
  | up {budget : Nat} {path last : Path} {rest : List Step}
      (hdir : fs.isDirectoryAt path = true)
      (hrest : Walks fs follow budget path.dropLast rest last) :
      Walks fs follow budget path (.up :: rest) last
  /-- What is found is no link. Nothing may be found as well. -/
  | entry {budget : Nat} {path last : Path} {rest : List Step} {name : Name}
      (hdir : fs.isDirectoryAt path = true) (hsize : name.size ≤ maxNameSize)
      (hlink : ∀ target time, fs.kind? (path ++ [name]) ≠ some (.link target time))
      (hrest : Walks fs follow budget (path ++ [name]) rest last) :
      Walks fs follow budget path (.name name :: rest) last
  /-- The last step finds a link, which is not followed. -/
  | atLink {budget : Nat} {path : Path} {name : Name} {target : ByteArray} {time : Int64}
      (hdir : fs.isDirectoryAt path = true) (hsize : name.size ≤ maxNameSize)
      (hlink : fs.kind? (path ++ [name]) = some (.link target time)) (hfollow : follow = false) :
      Walks fs follow budget path [.name name] (path ++ [name])
  | through {budget : Nat} {path last : Path} {rest : List Step} {name : Name}
      {target : ByteArray} {time : Int64}
      (hdir : fs.isDirectoryAt path = true) (hsize : name.size ≤ maxNameSize)
      (hlink : fs.kind? (path ++ [name]) = some (.link target time))
      (hgo : ¬ (rest = [] ∧ follow = false))
      (hrest : Walks fs follow budget (if (Route.ofBytes target).fromRoot then [] else path)
        ((Route.ofBytes target).steps ++ rest) last) :
      Walks fs follow (budget + 1) path (.name name :: rest) last

theorem isDirectoryAt_of_node? {time : Int64} (h : fs.node? path = some (.directory time)) :
    fs.isDirectoryAt path = true := by
  unfold isDirectoryAt
  rw [h]

theorem exists_of_isDirectoryAt (h : fs.isDirectoryAt path = true) :
    ∃ time, fs.node? path = some (.directory time) := by
  unfold isDirectoryAt at h
  split at h
  · rename_i time hnode
    exact ⟨time, hnode⟩
  · exact absurd h (by decide)

/-- A walk that gets to the end is derived, if that is so behind each link that it follows. -/
theorem walks_of_walkUpTo_eq_ok {through : Path → List Step → Except Errno Path}
    (hthrough : ∀ path steps, through path steps = .ok last →
      ∃ below, budget = below + 1 ∧ fs.Walks follow below path steps last)
    (h : fs.walkUpTo follow through path steps = .ok last) :
    fs.Walks follow budget path steps last := by
  induction steps generalizing path with
  | nil =>
    obtain rfl := Except.ok.inj h
    exact .stop _ _
  | cons step rest ih =>
    unfold walkUpTo at h
    split at h
    · cases h
    · rename_i time hdir
      have hdir := isDirectoryAt_of_node? hdir
      split at h
      · exact .here hdir (ih h)
      · exact .up hdir (ih h)
      rename_i name
      split at h
      · cases h
      rename_i hsize
      have hsize := Nat.le_of_not_lt hsize
      split at h
      · -- a link is where the route ends, or it is followed
        rename_i target time hlink
        have hlink := kind?_eq_link.2 hlink
        split at h
        · rename_i hstop
          obtain ⟨rfl, hfollow⟩ := hstop
          obtain rfl := Except.ok.inj h
          exact .atLink hdir hsize hlink (by simpa using hfollow)
        · rename_i hgo
          obtain ⟨below, rfl, hrest⟩ := hthrough _ _ h
          exact .through hdir hsize hlink (by simpa using hgo) hrest
      · rename_i hlink
        exact .entry hdir hsize
          (fun target time hkind ↦ hlink target time (kind?_eq_link.1 hkind)) (ih h)
    · cases h

theorem walks_of_walk_eq_ok (h : fs.walk follow budget path steps = .ok last) :
    fs.Walks follow budget path steps last := by
  -- the outer recursion is on the budget, and within one budget the route only gets shorter
  induction budget generalizing path steps with
  | zero =>
    change fs.walkUpTo follow (fun _ _ ↦ .error .tooManyLinks) path steps = .ok last at h
    exact walks_of_walkUpTo_eq_ok (fun _ _ hlink ↦ by cases hlink) h
  | succ budget ih => exact walks_of_walkUpTo_eq_ok (fun _ _ hrest ↦ ⟨budget, rfl, ih hrest⟩) h

/-- A walk is one up to the links, and goes on behind them as long as its budget lasts. -/
theorem exists_walk_eq (fs : FileSystem) (follow : Bool) (budget : Nat) :
    ∃ through, fs.walk follow budget = fs.walkUpTo follow through ∧
      ∀ below, budget = below + 1 → through = fs.walk follow below := by
  cases budget with
  | zero => exact ⟨_, rfl, nofun⟩
  | succ budget =>
    refine ⟨_, rfl, fun below heq ↦ ?_⟩
    obtain rfl := Nat.succ.inj heq
    rfl

/-- What is derived is walked. -/
theorem Walks.walk_eq_ok (h : fs.Walks follow budget path steps last) :
    fs.walk follow budget path steps = .ok last := by
  induction h with
  | stop budget =>
    obtain ⟨through, hwalk, -⟩ := fs.exists_walk_eq follow budget
    rw [hwalk]
    rfl
  | @here budget _ _ _ hdir _ ih =>
    obtain ⟨through, hwalk, -⟩ := fs.exists_walk_eq follow budget
    obtain ⟨time, hnode⟩ := exists_of_isDirectoryAt hdir
    rw [hwalk] at ih ⊢
    rw [walkUpTo, hnode]
    exact ih
  | @up budget _ _ _ hdir _ ih =>
    obtain ⟨through, hwalk, -⟩ := fs.exists_walk_eq follow budget
    obtain ⟨time, hnode⟩ := exists_of_isDirectoryAt hdir
    rw [hwalk] at ih ⊢
    rw [walkUpTo, hnode]
    exact ih
  | @entry budget _ _ _ _ hdir hsize hlink _ ih =>
    obtain ⟨through, hwalk, -⟩ := fs.exists_walk_eq follow budget
    obtain ⟨time, hnode⟩ := exists_of_isDirectoryAt hdir
    rw [hwalk] at ih ⊢
    simp only [walkUpTo, hnode, Nat.not_lt.2 hsize, if_false]
    split
    · rename_i target time' hsome
      exact absurd (kind?_eq_link.2 hsome) (hlink target time')
    · exact ih
  | @atLink budget _ _ _ _ hdir hsize hlink hfollow =>
    obtain ⟨through, hwalk, -⟩ := fs.exists_walk_eq follow budget
    obtain ⟨time, hnode⟩ := exists_of_isDirectoryAt hdir
    rw [hwalk]
    simp only [walkUpTo, hnode, Nat.not_lt.2 hsize, if_false, kind?_eq_link.1 hlink]
    rw [hfollow]
    rfl
  | @through budget _ _ _ _ _ _ hdir hsize hlink hgo _ ih =>
    obtain ⟨through, hwalk, hbelow⟩ := fs.exists_walk_eq follow (budget + 1)
    obtain ⟨time, hnode⟩ := exists_of_isDirectoryAt hdir
    rw [← hbelow budget rfl] at ih
    rw [hwalk]
    simp only [walkUpTo, hnode, Nat.not_lt.2 hsize, if_false, kind?_eq_link.1 hlink]
    rw [if_neg (by simpa using hgo)]
    exact ih

theorem walk_eq_ok : fs.walk follow budget path steps = .ok last ↔
    fs.Walks follow budget path steps last :=
  ⟨walks_of_walk_eq_ok, Walks.walk_eq_ok⟩

theorem place_eq_ok {start : Path} : fs.place follow start steps = .ok last ↔
    fs.Walks follow maxLinks start steps last :=
  walk_eq_ok

/-! ### Routes that end in a name -/

/-- **The last name of a route is the name at its end**, and the entry is in a directory. If links
are followed, there must be none under that name. -/
theorem Walks.last_name (h : fs.Walks follow budget path steps last)
    (hname : steps.getLast? = some (.name name))
    (hlinks : follow = true → ∀ above target time,
      fs.kind? (above ++ [name]) ≠ some (.link target time)) :
    ∃ above, last = above ++ [name] ∧ fs.isDirectoryAt above = true := by
  induction h with
  | stop => cases hname
  | @here _ _ _ rest _ _ ih | @up _ _ _ rest _ _ ih =>
    cases rest with
    | nil => cases hname
    | cons step rest => exact ih hname
  | @entry _ path _ rest found hdir _ _ hrest ih =>
    cases rest with
    | nil =>
      obtain rfl : found = name := by simpa using hname
      cases hrest
      exact ⟨path, rfl, hdir⟩
    | cons step rest => exact ih hname
  | @atLink _ path found _ _ hdir _ _ _ =>
    obtain rfl : found = name := by simpa using hname
    exact ⟨path, rfl, hdir⟩
  -- a link that is followed puts other steps in front, but the last one stays the last
  | @through _ path _ rest found target time hdir _ hlink hgo _ ih =>
    cases rest with
    | nil =>
      obtain rfl : found = name := by simpa using hname
      have hfollow : follow = true := by simpa using hgo
      exact absurd hlink (hlinks hfollow path target time)
    | cons step rest =>
      refine ih ?_
      rw [List.getLast?_append]
      rw [List.getLast?_cons_cons] at hname
      simp [hname]

/-- Where no link can be found under the last name, it does not matter whether links would be
followed there. -/
theorem Walks.follow_irrel (h : fs.Walks true budget path steps last)
    (hname : steps.getLast? = some (.name name))
    (hlinks : ∀ above target time, fs.kind? (above ++ [name]) ≠ some (.link target time)) :
    fs.Walks false budget path steps last := by
  induction h with
  | stop => cases hname
  | @here _ _ _ rest hdir _ ih =>
    cases rest with
    | nil => cases hname
    | cons step rest => exact .here hdir (ih hname)
  | @up _ _ _ rest hdir _ ih =>
    cases rest with
    | nil => cases hname
    | cons step rest => exact .up hdir (ih hname)
  | @entry _ path _ rest found hdir hsize hlink hrest ih =>
    cases rest with
    | nil =>
      cases hrest
      exact .entry hdir hsize hlink (.stop _ _)
    | cons step rest => exact .entry hdir hsize hlink (ih hname)
  | atLink _ _ _ hfollow => cases hfollow
  | @through _ path _ rest found target time hdir hsize hlink hgo _ ih =>
    cases rest with
    | nil =>
      obtain rfl : found = name := by simpa using hname
      exact absurd hlink (hlinks path target time)
    | cons step rest =>
      refine .through hdir hsize hlink (by simp) (ih ?_)
      rw [List.getLast?_append]
      rw [List.getLast?_cons_cons] at hname
      simp [hname]

/-! ### Tables that grow -/

/-- A table **extends** another if it holds the same kinds of nodes, and perhaps more, but no more
links. -/
structure Extends (fs fs' : FileSystem) : Prop where
  kept : ∀ path kind, fs.kind? path = some kind → fs'.kind? path = some kind
  links : ∀ path target time,
    fs'.kind? path = some (.link target time) → fs.kind? path = some (.link target time)

theorem Extends.refl (fs : FileSystem) : fs.Extends fs :=
  ⟨fun _ _ h ↦ h, fun _ _ _ h ↦ h⟩

theorem Extends.trans {fs'' : FileSystem} (h : fs.Extends fs') (h' : fs'.Extends fs'') :
    fs.Extends fs'' :=
  ⟨fun path kind hkind ↦ h'.kept path kind (h.kept path kind hkind),
    fun path target time hlink ↦ h.links path target time (h'.links path target time hlink)⟩

theorem Extends.isDirectoryAt (h : fs.Extends fs') (hdir : fs.isDirectoryAt path = true) :
    fs'.isDirectoryAt path = true :=
  kind?_eq_directory.1 (h.kept path _ (kind?_eq_directory.2 hdir))

/-- A table **keeps the routes** of another if it holds the same links, and all directories. -/
structure KeepsRoutes (fs fs' : FileSystem) : Prop where
  directories : ∀ path, fs.isDirectoryAt path = true → fs'.isDirectoryAt path = true
  links : ∀ path target time,
    fs'.kind? path = some (.link target time) ↔ fs.kind? path = some (.link target time)

theorem Extends.keepsRoutes (h : fs.Extends fs') : fs.KeepsRoutes fs' :=
  ⟨fun _ hdir ↦ h.isDirectoryAt hdir,
    fun path target time ↦ ⟨h.links path target time, h.kept path _⟩⟩

/-- **Where directories and links are kept, all routes are.** -/
theorem Walks.mono (hkeeps : fs.KeepsRoutes fs') (h : fs.Walks follow budget path steps last) :
    fs'.Walks follow budget path steps last := by
  -- every rule asks only for directories and links that are there, and these are kept; nothing asks
  -- for a place to be empty, except the last step, which ends the walk
  induction h with
  | stop budget path => exact .stop budget path
  | here hdir _ ih => exact .here (hkeeps.directories _ hdir) ih
  | up hdir _ ih => exact .up (hkeeps.directories _ hdir) ih
  | entry hdir hsize hlink _ ih =>
    exact .entry (hkeeps.directories _ hdir) hsize
      (fun target time hsome ↦ hlink target time ((hkeeps.links _ target time).1 hsome)) ih
  | atLink hdir hsize hlink hfollow =>
    exact .atLink (hkeeps.directories _ hdir) hsize ((hkeeps.links ..).2 hlink) hfollow
  | through hdir hsize hlink hgo _ ih =>
    exact .through (hkeeps.directories _ hdir) hsize ((hkeeps.links ..).2 hlink) hgo ih

theorem KeepsRoutes.place {start : Path} (hkeeps : fs.KeepsRoutes fs')
    (h : fs.place follow start steps = .ok last) : fs'.place follow start steps = .ok last :=
  place_eq_ok.2 ((place_eq_ok.1 h).mono hkeeps)

theorem Extends.place {start : Path} (hext : fs.Extends fs')
    (h : fs.place follow start steps = .ok last) : fs'.place follow start steps = .ok last :=
  hext.keepsRoutes.place h

end FileSystem

end FileShare
