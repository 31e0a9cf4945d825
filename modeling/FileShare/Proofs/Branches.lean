import FileShare.Proofs.Folders

/-!
# Directories that are made with those above them

`Share.makeBranch` climbs from a URL to its parents as long as the error numbers tell it that
something is missing, and makes directories on the way back. It knows the tree by these numbers
only. What they say is said once, for one call (`FileSystem.Makes`): without links, a walk along
names comes to its end or stops where something is missing, where something is no directory, or at a
name that is too long (`FileSystem.Stops`).

A call for a branch is a climb (`Share.Climbs`), with a rule for each thing that may come of its
first call, and a climb raises the branch or leaves the tree alone (`Share.Climbs.raised`, by
induction on the climb): what is missing above is missing all the way down, so what has been made
above is all directories, and the second call finds its way. It never gets as far as the server.
Together, `Share.branch_is_made` says when a branch is made and what it changes.

There is one way to fail with something made. Whether a name is too long is only found out in the
directory where it would be, so **the directories above it are made, and then it is refused**
(`Share.overlong_name_leaves_branch`).
-/

namespace FileShare

namespace Url

/-! ### How far a climb can go -/

/-- What is no server has a parent. -/
theorem exists_parent? {url : String} (h : isServer url = false) :
    ∃ parent, parent? url = some parent := by
  have hslash : '/' ∈ normal url.toList := by simpa [isServer] using h
  unfold parent? beforeLastSlash?
  cases hdrop : (normal url.toList).reverse.dropWhile (· ≠ '/') with
  | nil =>
    have hall := List.dropWhile_eq_nil_iff.1 hdrop '/' (List.mem_reverse.2 hslash)
    simp at hall
  | cons c rest => exact ⟨_, rfl⟩

/-- **A URL names a server if it has no more than one name.** -/
theorem isServer_eq_false_iff {url : String} {names : List Name} (hurl : names? url = .ok names) :
    isServer url = false ↔ 2 ≤ names.length := by
  obtain ⟨-, -, rfl⟩ := names?_eq_ok_iff.1 hurl
  rw [List.length_map]
  constructor
  · intro hserver
    obtain ⟨parent, hparent⟩ := exists_parent? hserver
    obtain ⟨name, hname, hne, hnormal, hparentne, hhead⟩ := exists_of_parent? hparent
    obtain ⟨c, rest, hcons⟩ := List.exists_cons_of_ne_nil hparentne
    have hpieces : pieces parent.toList ≠ [] :=
      pieces_ne_nil (c := c) (by simpa [hcons] using hhead) (by simp [hcons])
    have hlength := List.length_pos_iff.2 hpieces
    show 2 ≤ (pieces (normal url.toList)).length
    rw [hnormal, pieces_append, pieces_of_notMem hname hne, List.length_append]
    simpa using Nat.succ_le_of_lt hlength
  · intro hlength
    by_contra hserver
    have hmem : '/' ∉ normal url.toList := by simpa [isServer] using hserver
    have hle : (segments url.toList).length ≤ (split (normal url.toList)).length :=
      List.length_filter_le _ _
    rw [split_of_notMem hmem, List.length_singleton] at hle
    omega

/-- **The parent of a stable URL stands for all names but the last one.** -/
theorem names?_parent_of_isStable {url parent : String} {names : List Name}
    (hstable : IsStable url) (hurl : names? url = .ok names) (h : parent? url = some parent) :
    names? parent = .ok names.dropLast := by
  rw [names?_parent hurl h, if_neg (not_scheme_prefix_parent hstable h)]

end Url

/-! ### Names in a table without links -/

namespace FileSystem

variable {fs fs' fs'' : FileSystem} {path : Path} {names : List Name} {name : Name}

/-- A table **without links**. -/
def LinkFree (fs : FileSystem) : Prop :=
  ∀ path target time, fs.kind? path ≠ some (.link target time)

/-- Nothing is in the way of a walk along names: all of them are short enough, and the last one is
that of an entry of a directory. -/
structure IsClear (fs : FileSystem) (path : Path) (names : List Name) : Prop where
  short : ∀ name ∈ names, name.size ≤ maxNameSize
  directories : ∀ front, front <+: names → front ≠ names → fs.isDirectoryAt (path ++ front) = true

/-- **Why a walk along names stops** before its end. -/
inductive Stops (fs : FileSystem) (path : Path) (names : List Name) : Errno → Prop where
  | missing {front : List Name} (hfront : front <+: names) (hne : front ≠ names)
      (hmissing : fs.kind? (path ++ front) = none) : Stops fs path names .notFound
  | blocked {front : List Name} (hfront : front <+: names) (hne : front ≠ names)
      (hthere : fs.kind? (path ++ front) ≠ none)
      (hplain : fs.isDirectoryAt (path ++ front) = false) : Stops fs path names .notDirectory
  /-- A name is too long, and the walk has come to the directory where it would be. -/
  | long {front rest : List Name} {name : Name} (hnames : names = front ++ name :: rest)
      (hsize : maxNameSize < name.size) (hclear : fs.IsClear path front)
      (hdir : fs.isDirectoryAt (path ++ front) = true) : Stops fs path names .nameTooLong

theorem isClear_nil (path : Path) : fs.IsClear path [] :=
  ⟨nofun, fun _ hfront hne ↦ absurd (List.prefix_nil.1 hfront) hne⟩

theorem IsClear.cons (h : fs.IsClear (path ++ [name]) names) (hdir : fs.isDirectoryAt path = true)
    (hsize : name.size ≤ maxNameSize) : fs.IsClear path (name :: names) where
  short := List.forall_mem_cons.2 ⟨hsize, h.short⟩
  directories front hfront hne := by
    cases front with
    | nil => rwa [List.append_nil]
    | cons first front =>
      obtain ⟨rfl, hrest⟩ := List.cons_prefix_cons.1 hfront
      rw [List.append_cons]
      exact h.directories front hrest fun heq ↦ hne (congrArg _ heq)

theorem Stops.cons {errno : Errno} (h : fs.Stops (path ++ [name]) names errno)
    (hdir : fs.isDirectoryAt path = true) (hsize : name.size ≤ maxNameSize) :
    fs.Stops path (name :: names) errno := by
  have hlonger {front : List Name} (hfront : front <+: names) (hne : front ≠ names) :
      name :: front <+: name :: names ∧ name :: front ≠ name :: names :=
    ⟨List.cons_prefix_cons.2 ⟨rfl, hfront⟩, by simpa using hne⟩
  cases h with
  | missing hfront hne hmissing =>
    rw [← List.append_cons] at hmissing
    exact .missing (hlonger hfront hne).1 (hlonger hfront hne).2 hmissing
  | blocked hfront hne hthere hplain =>
    rw [← List.append_cons] at hthere hplain
    exact .blocked (hlonger hfront hne).1 (hlonger hfront hne).2 hthere hplain
  | long hnames hlong hclear hlast =>
    rw [← List.append_cons] at hlast
    exact .long (congrArg _ hnames) hlong (hclear.cons hdir hsize) hlast

/-- **Without links, a walk along names goes down step by step**, or stops. -/
theorem walkUpTo_names (hfree : fs.LinkFree) {follow : Bool}
    {through : Path → List Step → Except Errno Path} :
    (fs.walkUpTo follow through path (names.map .name) = .ok (path ++ names) ∧
        fs.IsClear path names) ∨
      ∃ errno, fs.walkUpTo follow through path (names.map .name) = .error errno ∧
        fs.Stops path names errno := by
  induction names generalizing path with
  | nil =>
    exact .inl ⟨by simp [walkUpTo], isClear_nil path⟩
  | cons name names ih =>
    rw [List.map_cons, walkUpTo]
    split
    · rename_i hnode
      exact .inr ⟨_, rfl, .missing List.nil_prefix (by simp) (by
        rw [List.append_nil]; exact kind?_eq_none.2 hnode)⟩
    · rename_i time hnode
      have hdir := isDirectoryAt_of_node? hnode
      dsimp only
      by_cases hsize : name.size > maxNameSize
      · rw [if_pos hsize]
        exact .inr ⟨_, rfl, .long rfl hsize (isClear_nil path) (by rwa [List.append_nil])⟩
      · rw [if_neg hsize]
        split
        · rename_i target time' hlink
          exact absurd (kind?_eq_link.2 hlink) (hfree _ _ _)
        · rw [List.append_cons path name names]
          rcases @ih (path ++ [name]) with ⟨hwalk, hclear⟩ | ⟨errno, hwalk, hstops⟩
          · exact .inl ⟨hwalk, hclear.cons hdir (Nat.le_of_not_lt hsize)⟩
          · exact .inr ⟨errno, hwalk, hstops.cons hdir (Nat.le_of_not_lt hsize)⟩
    · rename_i node hnot hnode
      refine .inr ⟨_, rfl, .blocked List.nil_prefix (by simp) ?_ ?_⟩
      · rw [List.append_nil, ne_eq, kind?_eq_none, hnode]
        simp
      · rw [List.append_nil, isDirectoryAt, hnode]
        cases node with
        | directory time => exact absurd rfl (hnot time)
        | _ => rfl

theorem place_names (hfree : fs.LinkFree) (follow : Bool) (path : Path) (names : List Name) :
    (fs.place follow path (names.map .name) = .ok (path ++ names) ∧ fs.IsClear path names) ∨
      ∃ errno, fs.place follow path (names.map .name) = .error errno ∧
        fs.Stops path names errno := by
  obtain ⟨through, hwalk, -⟩ := fs.exists_walk_eq follow maxLinks
  rw [place, hwalk]
  exact walkUpTo_names hfree

/-- **What a call to make a directory comes to** in a table without links. -/
inductive Makes (fs fs' : FileSystem) (path : Path) (names : List Name) :
    Except Errno Unit → Prop where
  | made (hclear : fs.IsClear path names) (hgains : fs.Gains fs' (path ++ names) (.directory 0))
      (hcontents : fs'.contents = fs.contents) : Makes fs fs' path names (.ok ())
  | there (hclear : fs.IsClear path names) (hthere : fs.kind? (path ++ names) ≠ none)
      (hsame : fs' = fs) : Makes fs fs' path names (.error .exists_)
  | stopped {errno : Errno} (hstops : fs.Stops path names errno) (hsame : fs' = fs) :
      Makes fs fs' path names (.error errno)

/-- **A directory is made where names lead**, if nothing is in the way and nothing is there. -/
theorem makes_makeDirectory (hfree : fs.LinkFree) (path : Path) (hne : names ≠ []) :
    (∃ fs', fs.makeDirectory path (names.map .name) = .ok fs' ∧ fs.Makes fs' path names (.ok ())) ∨
      ∃ errno, fs.makeDirectory path (names.map .name) = .error errno ∧
        fs.Makes fs path names (.error errno) := by
  rcases fs.place_names hfree false path names with ⟨hplace, hclear⟩ | ⟨errno, hplace, hstops⟩
  · have hname : (names.map Step.name).getLast? = some (.name (names.getLast hne)) := by
      rw [List.getLast?_map, List.getLast?_eq_some_getLast hne]
      rfl
    have hmake : fs.makeDirectory path (names.map .name) =
        if fs.kind? (path ++ names) = none then
          .ok ((fs.put (path ++ names) (.directory fs.clock)).touch (path ++ names).dropLast)
        else .error .exists_ := by
      rw [makeDirectory, hplace]
      cases hnode : fs.node? (path ++ names) with
      | none =>
        rw [if_pos (kind?_eq_none.2 hnode)]
        simp only [bind, Except.bind, hnode]
        rfl
      | some node =>
        rw [if_neg (by simp [kind?_eq_none, hnode])]
        simp only [bind, Except.bind, hnode]
        rfl
    by_cases hthere : fs.kind? (path ++ names) = none
    · rw [if_pos hthere] at hmake
      obtain ⟨last, hlast, hgains, -, hcontents, -⟩ := makeDirectory_others hmake hname
      obtain rfl := Except.ok.inj (hplace.symm.trans hlast)
      exact .inl ⟨_, hmake, .made hclear hgains hcontents⟩
    · rw [if_neg hthere] at hmake
      exact .inr ⟨_, hmake, .there hclear hthere rfl⟩
  · refine .inr ⟨errno, ?_, .stopped hstops rfl⟩
    rw [makeDirectory, hplace]
    rfl

/-! ### Branches -/

/-- The way to a branch is open: its server is a directory, and what is above its end is missing or
a directory. -/
structure IsOpen (fs : FileSystem) (path : Path) (names : List Name) : Prop where
  server : fs.isDirectoryAt (path ++ names.take 1) = true
  above : ∀ front, front <+: names → front ≠ names →
    fs.kind? (path ++ front) = none ∨ fs.isDirectoryAt (path ++ front) = true

/-- **A branch is there**, and what was missing of it has been made, below the server. Nothing else
has changed, but for the times of directories. -/
structure Branched (fs fs' : FileSystem) (path : Path) (names : List Name) : Prop where
  there : ∀ front, front <+: names → fs'.kind? (path ++ front) ≠ none
  kinds : ∀ other, fs'.kind? other = fs.kind? other ∨
    fs.kind? other = none ∧ fs'.kind? other = some (.directory 0) ∧
      ∃ front, front <+: names ∧ 2 ≤ front.length ∧ other = path ++ front
  contents : fs'.contents = fs.contents

/-- The names that a file can have, up to the first one that is too long. -/
def shortNames (names : List Name) : List Name :=
  names.takeWhile fun name ↦ name.size ≤ maxNameSize

/-- **What making a branch comes to.** -/
inductive Raised {ε : Type} (fs fs' : FileSystem) (path : Path) (names : List Name) :
    Except ε Unit → Prop where
  | made (hopen : fs.IsOpen path names) (hshort : ∀ name ∈ names, name.size ≤ maxNameSize)
      (hbranched : fs.Branched fs' path names) : Raised fs fs' path names (.ok ())
  | refused {error : ε} (hnot : ¬ fs.IsOpen path names) (hsame : fs' = fs) :
      Raised fs fs' path names (.error error)
  /-- A name is too long, and what is above it is there. -/
  | cut {error : ε} {name : Name} (hopen : fs.IsOpen path names) (hmem : name ∈ names)
      (hlong : maxNameSize < name.size) (hbranched : fs.Branched fs' path (shortNames names)) :
      Raised fs fs' path names (.error error)

theorem proper_prefix_concat {above front : List Name} (hfront : front <+: above) :
    front <+: above ++ [name] ∧ front ≠ above ++ [name] := by
  refine ⟨hfront.trans (List.prefix_append _ _), fun heq ↦ ?_⟩
  have hlength := (heq ▸ hfront).length_le
  rw [List.length_append, List.length_singleton] at hlength
  omega

/-- There are finitely many fronts. -/
theorem IsOpen.of_inits (hserver : fs.isDirectoryAt (path ++ names.take 1) = true)
    (h : ∀ front ∈ names.inits, front ≠ names →
      fs.kind? (path ++ front) = none ∨ fs.isDirectoryAt (path ++ front) = true) :
    fs.IsOpen path names :=
  ⟨hserver, fun front hfront ↦ h front ((List.mem_inits _ _).2 hfront)⟩

theorem IsOpen.of_concat {above : List Name} (h : fs.IsOpen path (above ++ [name]))
    (hne : above ≠ []) : fs.IsOpen path above where
  server := by
    have hserver := h.server
    rwa [List.take_append_of_le_length (List.length_pos_iff.2 hne)] at hserver
  above front hfront _ :=
    h.above front (proper_prefix_concat hfront).1 (proper_prefix_concat hfront).2

theorem IsOpen.concat {above : List Name} (h : fs.IsOpen path above)
    (hmissing : fs.kind? (path ++ above) = none) (hne : above ≠ []) :
    fs.IsOpen path (above ++ [name]) where
  server := by
    rw [List.take_append_of_le_length (List.length_pos_iff.2 hne)]
    exact h.server
  above front hfront hfull := by
    have hfront := (List.prefix_concat_iff.1 hfront).resolve_left hfull
    by_cases heq : front = above
    · exact .inl (heq ▸ hmissing)
    · exact h.above front hfront heq

theorem IsClear.isOpen (h : fs.IsClear path names) (hlength : 2 ≤ names.length) :
    fs.IsOpen path names where
  server := h.directories _ (List.take_prefix 1 names) fun heq ↦ by
    have := congrArg List.length heq
    rw [List.length_take] at this
    omega
  above front hfront hne := .inr (h.directories front hfront hne)

/-- What is there is a branch that nothing had to be made for. -/
theorem branched_refl (hthere : ∀ front, front <+: names → fs.kind? (path ++ front) ≠ none) :
    fs.Branched fs path names :=
  ⟨hthere, fun _ ↦ .inl rfl, rfl⟩

theorem IsClear.there (h : fs.IsClear path names) {front : List Name} (hfront : front <+: names)
    (hne : front ≠ names) : fs.kind? (path ++ front) ≠ none := by
  simp [kind?_eq_directory.2 (h.directories front hfront hne)]

/-- A directory at the end of a branch that is there makes the branch longer. -/
theorem Branched.concat (h : fs.Branched fs' path names)
    (hgains : fs'.Gains fs'' (path ++ (names ++ [name])) (.directory 0))
    (hfresh : fs.kind? (path ++ (names ++ [name])) = none)
    (hcontents : fs''.contents = fs'.contents) (hne : names ≠ []) :
    fs.Branched fs'' path (names ++ [name]) where
  there front hfront := by
    rcases List.prefix_concat_iff.1 hfront with rfl | hfront
    · simp [hgains.kind?_self]
    · obtain ⟨node, hnode⟩ := Option.ne_none_iff_exists'.1 (h.there front hfront)
      simp [hgains.extends.kept _ _ hnode]
  kinds other := by
    by_cases heq : other = path ++ (names ++ [name])
    · subst heq
      have hlength := List.length_pos_iff.2 hne
      exact .inr ⟨hfresh, hgains.kind?_self, _, List.prefix_refl _, by simpa, rfl⟩
    · rw [hgains.kind?_of_ne heq]
      refine (h.kinds other).imp_right fun ⟨hnone, hmade, front, hfront, hlength, hother⟩ ↦ ?_
      exact ⟨hnone, hmade, front, hfront.trans (List.prefix_append _ _), hlength, hother⟩
  contents := hcontents.trans h.contents

/-- Below what is missing, nothing is there. -/
theorem WellFormed.kind?_below_missing (h : fs.WellFormed) {front names : List Name}
    (hfront : front <+: names) (hmissing : fs.kind? (path ++ front) = none) :
    fs.kind? (path ++ names) = none := by
  obtain ⟨rest, rfl⟩ := hfront
  by_cases hrest : rest = []
  · rwa [hrest, List.append_nil]
  · rw [← List.append_assoc]
    refine h.kind?_below ?_ hrest
    rw [← Bool.not_eq_true, ← kind?_eq_directory, hmissing]
    simp

/-- If a walk did not find its way, what is above its end is missing. -/
theorem Stops.gap {above : List Name} (h : fs.Stops path (above ++ [name]) .notFound)
    (hformed : fs.WellFormed) : fs.kind? (path ++ above) = none := by
  cases h with
  | missing hfront hfull hmissing =>
    exact hformed.kind?_below_missing ((List.prefix_concat_iff.1 hfront).resolve_left hfull)
      hmissing

/-- **All of a branch is directories**, if it was open and its end was missing. -/
theorem Branched.isDirectoryAt (h : fs.Branched fs' path names) (hopen : fs.IsOpen path names)
    (hmissing : fs.kind? (path ++ names) = none) {front : List Name} (hfront : front <+: names) :
    fs'.isDirectoryAt (path ++ front) = true := by
  rcases h.kinds (path ++ front) with hsame | ⟨-, hmade, -⟩
  · have hthere := h.there front hfront
    rw [hsame] at hthere
    rw [isDirectoryAt_congr hsame]
    exact (hopen.above front hfront fun heq ↦ hthere (heq ▸ hmissing)).resolve_left hthere
  · exact kind?_eq_directory.1 hmade

theorem Branched.linkFree (h : fs.Branched fs' path names) (hfree : fs.LinkFree) :
    fs'.LinkFree := by
  intro other target time hlink
  rcases h.kinds other with hsame | ⟨-, hmade, -⟩
  · exact hfree other target time (hsame ▸ hlink)
  · rw [hmade] at hlink
    cases hlink

theorem Raised.linkFree {ε : Type} {result : Except ε Unit}
    (h : fs.Raised fs' path names result) (hfree : fs.LinkFree) : fs'.LinkFree := by
  cases h with
  | made _ _ hbranched => exact hbranched.linkFree hfree
  | refused _ hsame => exact hsame ▸ hfree
  | cut _ _ _ hbranched => exact hbranched.linkFree hfree

theorem shortNames_append {front rest : List Name}
    (hshort : ∀ name ∈ front, name.size ≤ maxNameSize) (hlong : maxNameSize < name.size) :
    shortNames (front ++ name :: rest) = front := by
  rw [shortNames, List.takeWhile_append_of_pos (by simpa using hshort)]
  simp [hlong]

/-- **What stops a walk is in the way of a branch**, unless something is missing. -/
theorem Stops.raised {ε : Type} {error : ε} {errno : Errno} (h : fs.Stops path names errno)
    (hmissing : errno ≠ .notFound) : fs.Raised fs path names (.error error) := by
  cases h with
  | missing => exact absurd rfl hmissing
  | blocked hfront hne hthere hplain =>
    refine .refused (fun hopen ↦ ?_) rfl
    rcases hopen.above _ hfront hne with hnone | hdir
    · exact hthere hnone
    · rw [hplain] at hdir
      cases hdir
  | @long front rest name hnames hsize hclear hdir =>
    by_cases hopen : fs.IsOpen path names
    · refine .cut hopen (hnames ▸ by simp) hsize ?_
      rw [hnames, shortNames_append hclear.short hsize]
      refine branched_refl fun above hprefix ↦ ?_
      by_cases heq : above = front
      · simp [heq, kind?_eq_directory.2 hdir]
      · exact hclear.there hprefix heq
    · exact .refused hopen rfl

theorem shortNames_of_long {above : List Name} {long : Name} (hmem : long ∈ above)
    (hlong : maxNameSize < long.size) : shortNames (above ++ [name]) = shortNames above := by
  rw [shortNames, List.takeWhile_append, if_neg]
  · rfl
  · intro hlength
    have hall := List.takeWhile_eq_self_iff.1
      ((List.takeWhile_prefix _).eq_of_length hlength) long hmem
    simp only [decide_eq_true_eq] at hall
    omega

end FileSystem

namespace Share

variable {store store' : Store} {url : String} {result : Except ShareError Unit}

/-! ### The climb -/

/-- A directory that exists is as good as one that has been made. -/
def pardon : Except ShareError Unit → Except ShareError Unit
  | .ok () => .ok ()
  | .error error => if error.errno = .exists_ then .ok () else .error error

theorem pardon_of_exists {error : ShareError} (h : error.errno = .exists_) :
    pardon (.error error) = .ok () :=
  if_pos h

theorem pardon_of_not_exists {error : ShareError} (h : error.errno ≠ .exists_) :
    pardon (.error error) = .error error :=
  if_neg h

/-- The **climb of a branch**, with a rule for each thing that may come of the first call. -/
inductive Climbs : String → Store → Except ShareError Unit → Store → Prop where
  /-- Nothing is missing above. -/
  | settled {url : String} {store store' : Store} {first : Except ShareError Unit}
      (hfirst : (makeDirectory url).run.run store = (first, store'))
      (hmissing : ∀ error, first = .error error → error.errno ≠ .notFound) :
      Climbs url store (pardon first) store'
  /-- It is the server that is missing, or the directory of all servers. -/
  | stopped {url : String} {store store' : Store} {error : ShareError}
      (hfirst : (makeDirectory url).run.run store = (.error error, store'))
      (hmissing : error.errno = .notFound)
      (htop : ∀ parent, Url.parent? url = some parent → Url.isServer parent = true) :
      Climbs url store (.error error) store'
  /-- The directory above cannot be made. -/
  | refused {url parent : String} {store mid store' : Store} {error error' : ShareError}
      (hfirst : (makeDirectory url).run.run store = (.error error, mid))
      (hmissing : error.errno = .notFound) (hparent : Url.parent? url = some parent)
      (hserver : Url.isServer parent = false)
      (habove : Climbs parent mid (.error error') store') :
      Climbs url store (.error error') store'
  /-- The directory above has been made, and there is another try. -/
  | retried {url parent : String} {store mid above store' : Store} {error : ShareError}
      {second : Except ShareError Unit}
      (hfirst : (makeDirectory url).run.run store = (.error error, mid))
      (hmissing : error.errno = .notFound) (hparent : Url.parent? url = some parent)
      (hserver : Url.isServer parent = false) (habove : Climbs parent mid (.ok ()) above)
      (hsecond : (makeDirectory url).run.run above = (second, store')) :
      Climbs url store (pardon second) store'

/-- **A branch is made by a climb.** -/
theorem climbs_of_makeBranch (h : (makeBranch url).run.run store = (result, store')) :
    Climbs url store result store' := by
  -- the parent is shorter
  induction hlength : url.toList.length using Nat.strongRecOn
    generalizing url store store' result with
  | ind length ih =>
    subst hlength
    rw [makeBranch] at h
    rcases hfirst : (makeDirectory url).run.run store with ⟨first, mid⟩
    rw [Single.outcome_bind_run hfirst] at h
    cases first with
    | ok _ =>
      obtain ⟨rfl, rfl⟩ := Prod.mk.inj h
      exact .settled hfirst fun error heq ↦ by cases heq
    | error error =>
      dsimp only at h
      split at h
      · rename_i hexists
        obtain ⟨rfl, rfl⟩ := Prod.mk.inj h
        rw [← pardon_of_exists hexists]
        refine .settled hfirst fun error' heq ↦ ?_
        rw [← Except.error.inj heq, hexists]
        decide
      rename_i hexists
      split at h
      · rename_i hmissing
        split at h
        · rename_i hparent
          obtain ⟨rfl, rfl⟩ := Prod.mk.inj h
          refine .stopped hfirst hmissing fun parent hsome ↦ ?_
          rw [hparent] at hsome
          cases hsome
        rename_i parent hparent
        split at h
        · rename_i hserver
          obtain ⟨rfl, rfl⟩ := Prod.mk.inj h
          refine .stopped hfirst hmissing fun parent' hsome ↦ ?_
          rw [hparent] at hsome
          rwa [← Option.some.inj hsome]
        rename_i hserver
        have hserver := Bool.not_eq_true _ ▸ hserver
        have hshort := Url.length_parent?_lt hparent
        rcases bind_cases h with ⟨error', habove, rfl⟩ | ⟨_, above, habove, hagain⟩
        · exact .refused hfirst hmissing hparent hserver (ih _ hshort habove rfl)
        · have habove := ih _ hshort habove rfl
          rcases hsecond : (makeDirectory url).run.run above with ⟨second, last⟩
          rw [Single.outcome_bind_run hsecond] at hagain
          have hpardon : (result, store') = (pardon second, last) := by
            rw [← hagain]
            cases second with
            | ok _ => rfl
            | error error' =>
              dsimp only [pardon]
              split <;> rfl
          obtain ⟨rfl, rfl⟩ := Prod.mk.inj hpardon
          exact .retried hfirst hmissing hparent hserver habove hsecond
      · rename_i hmissing
        obtain ⟨rfl, rfl⟩ := Prod.mk.inj h
        rw [← pardon_of_not_exists hexists]
        exact .settled hfirst fun error' heq ↦ Except.error.inj heq ▸ hmissing

/-! ### What a climb achieves -/

/-- **A call to make a directory that no fault makes fail** comes to what the file system says. -/
theorem makeDirectory_of_spares {names : List Name}
    (hsteps : store.steps? url = .ok (names.map .name)) (hne : names ≠ [])
    (hspares : Fault.Spares .makeDirectory store.faults) (hfree : store.fs.LinkFree)
    (h : (makeDirectory url).run.run store = (result, store')) :
    store'.root = store.root ∧ Fault.Spares .makeDirectory store'.faults ∧
      store.fs.Makes store'.fs store.root names (result.mapError (·.errno)) := by
  unfold makeDirectory change at h
  have hfaults := faults_change h
  rcases attempt_disturbed_or_run h with ⟨_, -, -, fault, hmem, hoperation, herrno⟩ |
    ⟨_, mid, _, hbody, rfl⟩
  · rw [hspares fault hmem hoperation] at herrno
    cases herrno
  have hact : ({ store with faults := (Fault.disturb ⟨.makeDirectory, url, .none⟩
      store.faults).2 } : Store).steps? url = .ok (names.map .name) := hsteps
  simp only [hact, bind, Except.bind] at hbody
  rcases FileSystem.makes_makeDirectory hfree store.root hne with
    ⟨fs, hmake, hmakes⟩ | ⟨errno, hmake, hmakes⟩
  all_goals
    simp only [hmake] at hbody
    obtain ⟨rfl, rfl⟩ := Prod.mk.inj hbody
    exact ⟨rfl, hfaults ▸ hspares.disturb _, hmakes⟩

open FileSystem

variable {fs fs' : FileSystem} {path : Path} {names : List Name} {name : Name}

/-- **What a call comes to with pardon**: what it was made for is there, or it has stopped. -/
inductive Pardoned (fs fs' : FileSystem) (path : Path) (names : List Name)
    (first : Except ShareError Unit) : Prop where
  | made (hpardon : pardon first = .ok ()) (hclear : fs.IsClear path names)
      (hgains : fs.Gains fs' (path ++ names) (.directory 0))
      (hcontents : fs'.contents = fs.contents)
  | there (hpardon : pardon first = .ok ()) (hclear : fs.IsClear path names)
      (hthere : fs.kind? (path ++ names) ≠ none) (hsame : fs' = fs)
  | stopped {error : ShareError} (hfirst : first = .error error)
      (hpardon : pardon first = .error error) (hstops : fs.Stops path names error.errno)
      (hsame : fs' = fs)

theorem pardoned_of_makes {first : Except ShareError Unit}
    (h : fs.Makes fs' path names (first.mapError (·.errno))) :
    Pardoned fs fs' path names first := by
  cases first with
  | ok _ =>
    cases h with
    | made hclear hgains hcontents => exact .made rfl hclear hgains hcontents
  | error error =>
    change fs.Makes fs' path names (.error error.errno) at h
    generalize herrno : error.errno = errno at h
    cases h with
    | there hclear hthere hsame => exact .there (pardon_of_exists herrno) hclear hthere hsame
    | stopped hstops hsame =>
      have hexists : error.errno ≠ .exists_ := by
        intro heq
        rw [← herrno, heq] at hstops
        cases hstops
      exact .stopped rfl (pardon_of_not_exists hexists) (herrno ▸ hstops) hsame

/-- The first call decides, unless something is missing above. -/
theorem raised_of_settled {above : List Name} {first : Except ShareError Unit}
    (hmakes : fs.Makes fs' path (above ++ [name]) (first.mapError (·.errno))) (hne : above ≠ [])
    (hmissing : ∀ error, first = .error error → error.errno ≠ .notFound) :
    fs.Raised fs' path (above ++ [name]) (pardon first) := by
  have hlength : 2 ≤ (above ++ [name]).length := by
    have := List.length_pos_iff.2 hne
    rw [List.length_append, List.length_singleton]
    omega
  cases pardoned_of_makes hmakes with
  | made hpardon hclear hgains hcontents =>
    have habove : fs.Branched fs path above := branched_refl fun front hfront ↦
      hclear.there (proper_prefix_concat hfront).1 (proper_prefix_concat hfront).2
    rw [hpardon]
    exact .made (hclear.isOpen hlength) hclear.short
      (habove.concat hgains hgains.fresh hcontents hne)
  | there hpardon hclear hthere hsame =>
    subst hsame
    rw [hpardon]
    refine .made (hclear.isOpen hlength) hclear.short (branched_refl fun front hfront ↦ ?_)
    by_cases heq : front = above ++ [name]
    · exact heq ▸ hthere
    · exact hclear.there hfront heq
  | stopped hfirst hpardon hstops hsame =>
    rw [hpardon]
    exact hsame ▸ hstops.raised (hmissing _ hfirst)

/-- **When what is above has been made, the second call decides**, and only a name that is too long
can stop it. -/
theorem raised_of_retried {above : List Name} {mid : FileSystem} {second : Except ShareError Unit}
    (hformed : fs.WellFormed) (hstops : fs.Stops path (above ++ [name]) .notFound)
    (habove : fs.Raised mid path above (.ok () : Except ShareError Unit))
    (hmakes : mid.Makes fs' path (above ++ [name]) (second.mapError (·.errno)))
    (hne : above ≠ []) : fs.Raised fs' path (above ++ [name]) (pardon second) := by
  cases habove with
  | made hopen hshort hbranched =>
  have hgap := hstops.gap hformed
  have hfresh : fs.kind? (path ++ (above ++ [name])) = none :=
    hformed.kind?_below_missing (List.prefix_append _ _) hgap
  have hdirs (front : List Name) (hfront : front <+: above ++ [name])
      (hfull : front ≠ above ++ [name]) : mid.isDirectoryAt (path ++ front) = true :=
    hbranched.isDirectoryAt hopen hgap ((List.prefix_concat_iff.1 hfront).resolve_left hfull)
  cases pardoned_of_makes hmakes with
  | made hpardon hclear hgains hcontents =>
    rw [hpardon]
    exact .made (hopen.concat hgap hne) hclear.short
      (hbranched.concat hgains hfresh hcontents hne)
  | there _ _ hthere =>
    -- nothing was there, and what has been made is above
    rcases hbranched.kinds (path ++ (above ++ [name])) with hsame | ⟨-, -, front, hfront, -, heq⟩
    · exact absurd (hsame.trans hfresh) hthere
    · exact absurd (List.append_cancel_left heq).symm (proper_prefix_concat hfront).2
  | @stopped error _ hpardon hstops hsame =>
    subst hsame
    rw [hpardon]
    generalize error.errno = errno at hstops
    cases hstops with
    | missing hfront hfull hmissing =>
      have hdir := kind?_eq_directory.2 (hdirs _ hfront hfull)
      rw [hmissing] at hdir
      cases hdir
    | blocked hfront hfull _ hplain =>
      rw [hdirs _ hfront hfull] at hplain
      cases hplain
    | @long front rest long hnames hsize =>
      have hmem : long ∈ above ++ [name] := hnames ▸ by simp
      rcases List.mem_append.1 hmem with hmem | hlast
      · exact absurd (hshort long hmem) (Nat.not_le.2 hsize)
      · obtain rfl := List.mem_singleton.1 hlast
        exact .cut (hopen.concat hgap hne) (by simp) hsize
          ((shortNames_append hshort hsize).symm ▸ hbranched)

/-- Where the server is missing, no branch is open. -/
theorem not_open_of_stopped {above : List Name} (hformed : fs.WellFormed)
    (hstops : fs.Stops path (above ++ [name]) .notFound) (htop : above.length = 1) :
    ¬ fs.IsOpen path (above ++ [name]) := by
  intro hopen
  have hserver := hopen.server
  rw [← htop, List.take_left, ← kind?_eq_directory, hstops.gap hformed] at hserver
  cases hserver

/-- What cannot be made above stops the whole branch. -/
theorem raised_of_refused {above : List Name} {error : ShareError} (hformed : fs.WellFormed)
    (hstops : fs.Stops path (above ++ [name]) .notFound) (hne : above ≠ [])
    (habove : fs.Raised fs' path above (.error error : Except ShareError Unit)) :
    fs.Raised fs' path (above ++ [name]) (.error error : Except ShareError Unit) := by
  cases habove with
  | refused hnot hsame => exact .refused (fun hopen ↦ hnot (hopen.of_concat hne)) hsame
  | cut hopen hmem hlong hbranched =>
    exact .cut (hopen.concat (hstops.gap hformed) hne) (List.mem_append_left _ hmem) hlong
      (shortNames_of_long hmem hlong ▸ hbranched)

/-- The parent of a URL can be asked for if the URL can. -/
theorem steps?_parent {parent : String} {above : List Name} (hstable : Url.IsStable url)
    (hsteps : store.steps? url = .ok ((above ++ [name]).map .name))
    (hparent : Url.parent? url = some parent) : store.steps? parent = .ok (above.map .name) := by
  obtain ⟨hurl, hclean, hsize⟩ := Store.steps?_map_eq_ok.1 hsteps
  refine Store.steps?_map_eq_ok.2
    ⟨?_, fun name hmem ↦ hclean name (List.mem_append_left _ hmem), ?_⟩
  · rw [Url.names?_parent_of_isStable hstable hurl hparent, List.dropLast_concat]
  · rw [← List.append_assoc, Store.spelledSize, List.foldl_append] at hsize
    simp only [List.foldl_cons, List.foldl_nil] at hsize
    rw [Store.spelledSize]
    omega

/-- A call that does not find its way has stopped there, and changed nothing. -/
theorem stops_of_missing {error : ShareError}
    (hmakes : fs.Makes fs' path names
      ((.error error : Except ShareError Unit).mapError (·.errno)))
    (hmissing : error.errno = .notFound) : fs' = fs ∧ fs.Stops path names .notFound := by
  change fs.Makes fs' path names (.error error.errno) at hmakes
  rw [hmissing] at hmakes
  cases hmakes with
  | stopped hstops hsame => exact ⟨hsame, hstops⟩

/-- A branch **can be asked for**: its URL stands for names below a server, on a table without
links, and no fault makes a directory fail. -/
structure Asks (store : Store) (url : String) (names : List Name) : Prop where
  stable : Url.IsStable url
  steps : store.steps? url = .ok (names.map .name)
  deep : 2 ≤ names.length
  spares : Fault.Spares .makeDirectory store.faults
  formed : store.fs.WellFormed
  linkFree : store.fs.LinkFree

theorem Asks.exists_concat (h : Asks store url names) :
    ∃ above name, names = above ++ [name] ∧ above ≠ [] := by
  have hne : names ≠ [] := List.length_pos_iff.1 (by have := h.deep; omega)
  refine ⟨names.dropLast, names.getLast hne, (List.dropLast_append_getLast hne).symm, ?_⟩
  rw [← List.length_pos_iff, List.length_dropLast]
  have := h.deep
  omega

theorem Asks.makes (h : Asks store url names)
    (hmake : (makeDirectory url).run.run store = (result, store')) :
    store'.root = store.root ∧ Fault.Spares .makeDirectory store'.faults ∧
      store.fs.Makes store'.fs store.root names (result.mapError (·.errno)) :=
  makeDirectory_of_spares h.steps (List.length_pos_iff.1 (by have := h.deep; omega)) h.spares
    h.linkFree hmake

/-- Under a server, there is nothing above a branch but the server. -/
theorem Asks.length_of_top {above : List Name} (h : Asks store url (above ++ [name]))
    (htop : ∀ parent, Url.parent? url = some parent → Url.isServer parent = true) :
    above.length = 1 := by
  obtain ⟨hurl, -⟩ := Store.steps?_map_eq_ok.1 h.steps
  obtain ⟨parent, hparent⟩ := Url.exists_parent? ((Url.isServer_eq_false_iff hurl).2 h.deep)
  obtain ⟨habove, -⟩ := Store.steps?_map_eq_ok.1 (steps?_parent h.stable h.steps hparent)
  have hserver := mt (Url.isServer_eq_false_iff habove).2 (by simp [htop parent hparent])
  have hdeep := h.deep
  rw [List.length_append, List.length_singleton] at hdeep
  omega

/-- **If something is missing, nothing has changed, and the branch above can be asked for.** -/
theorem Asks.above {parent : String} {above : List Name} {error : ShareError}
    (h : Asks store url (above ++ [name]))
    (hfirst : (makeDirectory url).run.run store = (.error error, store'))
    (hmissing : error.errno = .notFound) (hparent : Url.parent? url = some parent)
    (hserver : Url.isServer parent = false) :
    store'.fs = store.fs ∧ store'.root = store.root ∧
      store.fs.Stops store.root (above ++ [name]) .notFound ∧ Asks store' parent above := by
  obtain ⟨hroot, hspares, hmakes⟩ := h.makes hfirst
  obtain ⟨hsame, hstops⟩ := stops_of_missing hmakes hmissing
  have habove := steps?_parent h.stable h.steps hparent
  exact ⟨hsame, hroot, hstops,
    { stable := Url.isStable_parent h.stable hparent
      steps := (Store.steps?_congr hroot _).trans habove
      deep := (Url.isServer_eq_false_iff (Store.steps?_map_eq_ok.1 habove).1).1 hserver
      spares := hspares
      formed := hsame ▸ h.formed
      linkFree := hsame ▸ h.linkFree }⟩

/-- **A climb raises a branch.** -/
theorem Climbs.raised (h : Climbs url store result store') (hasks : Asks store url names) :
    store.fs.Raised store'.fs store.root names result ∧ store'.root = store.root ∧
      Fault.Spares .makeDirectory store'.faults := by
  induction h generalizing names with
  | settled hfirst hmissing =>
    obtain ⟨above, name, rfl, hne⟩ := hasks.exists_concat
    obtain ⟨hroot, hspares, hmakes⟩ := hasks.makes hfirst
    exact ⟨raised_of_settled hmakes hne hmissing, hroot, hspares⟩
  | stopped hfirst hmissing htop =>
    obtain ⟨above, name, rfl, hne⟩ := hasks.exists_concat
    obtain ⟨hroot, hspares, hmakes⟩ := hasks.makes hfirst
    obtain ⟨hsame, hstops⟩ := stops_of_missing hmakes hmissing
    have hnot := not_open_of_stopped hasks.formed hstops (hasks.length_of_top htop)
    exact ⟨.refused hnot hsame, hroot, hspares⟩
  | refused hfirst hmissing hparent hserver _ ih =>
    obtain ⟨above, name, rfl, hne⟩ := hasks.exists_concat
    obtain ⟨hsame, hroot, hstops, habove⟩ := hasks.above hfirst hmissing hparent hserver
    obtain ⟨hraised, hroot', hspares⟩ := ih habove
    rw [hsame, hroot] at hraised
    exact ⟨raised_of_refused hasks.formed hstops hne hraised, hroot'.trans hroot, hspares⟩
  | retried hfirst hmissing hparent hserver _ hsecond ih =>
    obtain ⟨above, name, rfl, hne⟩ := hasks.exists_concat
    obtain ⟨hsame, hroot, hstops, habove⟩ := hasks.above hfirst hmissing hparent hserver
    obtain ⟨hraised, hroot', hspares⟩ := ih habove
    rw [hsame, hroot] at hraised
    have hroot := hroot'.trans hroot
    -- the second call is made on what the climb above has left
    obtain ⟨hroot'', hspares', hmakes⟩ := makeDirectory_of_spares
      ((Store.steps?_congr hroot _).trans hasks.steps) (by simp) hspares
      (hraised.linkFree hasks.linkFree) hsecond
    rw [hroot] at hmakes
    exact ⟨raised_of_retried hasks.formed hstops hraised hmakes hne, hroot''.trans hroot, hspares'⟩

/-! ### The calls of a climb -/

/-- A directory on the way to the end of a branch, below the server. -/
def IsOnBranch (names : List Name) (call : Call) : Prop :=
  call.operation = .makeDirectory ∧ Url.isServer call.url = false ∧
    ∃ front, front <+: names ∧ Url.names? call.url = .ok front

theorem IsOnBranch.of_dropLast {call : Call} (h : IsOnBranch names.dropLast call) :
    IsOnBranch names call := by
  obtain ⟨hoperation, hserver, front, hfront, hurl⟩ := h
  exact ⟨hoperation, hserver, front, hfront.trans (List.dropLast_prefix _), hurl⟩

theorem logs_of_makeDirectory (hurl : Url.names? url = .ok names)
    (hserver : Url.isServer url = false)
    (h : (makeDirectory url).run.run store = (result, store')) :
    ∃ entry, store.Logs store' [entry] ∧ IsOnBranch names entry.1 :=
  ⟨_, change_told h, rfl, hserver, names, List.prefix_refl _, hurl⟩

/-- **A climb never asks for a server**, and makes at most two calls for each directory. -/
theorem Climbs.logs (h : Climbs url store result store') (hstable : Url.IsStable url)
    (hurl : Url.names? url = .ok names) (hserver : Url.isServer url = false) :
    ∃ log, store.Logs store' log ∧ log.length + 3 ≤ 2 * names.length ∧
      ∀ entry ∈ log, IsOnBranch names entry.1 := by
  induction h generalizing names with
  | settled hfirst | stopped hfirst =>
    obtain ⟨entry, hlogs, hentry⟩ := logs_of_makeDirectory hurl hserver hfirst
    have hdeep := (Url.isServer_eq_false_iff hurl).1 hserver
    refine ⟨_, hlogs, ?_, by simpa using hentry⟩
    rw [List.length_singleton]
    omega
  | refused hfirst _ hparent habove _ ih =>
    obtain ⟨entry, hlogs, hentry⟩ := logs_of_makeDirectory hurl hserver hfirst
    obtain ⟨log, hlogs', hlength, hlog⟩ := ih (Url.isStable_parent hstable hparent)
      (Url.names?_parent_of_isStable hstable hurl hparent) habove
    rw [List.length_dropLast] at hlength
    refine ⟨_, hlogs.trans hlogs', ?_, List.forall_mem_append.2 ⟨by simpa using hentry,
      fun entry hmem ↦ (hlog entry hmem).of_dropLast⟩⟩
    rw [List.length_append, List.length_singleton]
    omega
  | retried hfirst _ hparent habove _ hsecond ih =>
    obtain ⟨entry, hlogs, hentry⟩ := logs_of_makeDirectory hurl hserver hfirst
    obtain ⟨entry', hlogs'', hentry'⟩ := logs_of_makeDirectory hurl hserver hsecond
    obtain ⟨log, hlogs', hlength, hlog⟩ := ih (Url.isStable_parent hstable hparent)
      (Url.names?_parent_of_isStable hstable hurl hparent) habove
    rw [List.length_dropLast] at hlength
    refine ⟨_, (hlogs.trans hlogs').trans hlogs'', ?_, List.forall_mem_append.2
      ⟨List.forall_mem_append.2 ⟨by simpa using hentry,
        fun entry hmem ↦ (hlog entry hmem).of_dropLast⟩, by simpa using hentry'⟩⟩
    simp only [List.length_append, List.length_singleton]
    omega

/-- What a URL stands for is a path that can be asked for, whatever is there. -/
structure CanBeAsked (store : Store) (names : List Name) : Prop where
  clean : ∀ name ∈ names, name.data.contains 0 = false
  short : ∀ name ∈ names, name.size ≤ maxNameSize
  size : Store.spelledSize (store.root ++ names) ≤ maxRouteSize

theorem steps?_of_canBeAsked (hurl : Url.names? url = .ok names) (h : CanBeAsked store names) :
    store.steps? url = .ok (names.map .name) :=
  Store.steps?_map_eq_ok.2 ⟨hurl, h.clean, h.size⟩

/-- A name with a zero, or a path that is too long, cannot be asked for. -/
theorem steps?_cases_of_names? (hurl : Url.names? url = .ok names) :
    store.steps? url = .ok (names.map .name) ∨
      ∃ errno, store.steps? url = .error errno ∧ errno ≠ .notFound ∧ errno ≠ .exists_ := by
  unfold Store.steps?
  simp only [hurl, bind, Except.bind]
  split
  · exact .inr ⟨_, rfl, by decide, by decide⟩
  · split
    · exact .inr ⟨_, rfl, by decide, by decide⟩
    · exact .inl rfl

/-- **A branch that cannot be spelled is refused** at the first call. -/
theorem Climbs.of_steps_error {errno : Errno} (h : Climbs url store result store')
    (hsteps : store.steps? url = .error errno) (hspares : Fault.Spares .makeDirectory store.faults)
    (hmissing : errno ≠ .notFound) (hexists : errno ≠ .exists_) :
    (∃ error, result = .error error) ∧ store'.fs = store.fs := by
  have hfirst {first : Except ShareError Unit} {mid : Store}
      (hmake : (makeDirectory url).run.run store = (first, mid)) :
      mid.fs = store.fs ∧ ∃ error, first = .error error ∧ error.errno = errno := by
    unfold makeDirectory change at hmake
    rcases attempt_disturbed_or_run hmake with ⟨_, -, -, fault, hmem, hoperation, herrno⟩ |
      ⟨_, last, _, hbody, rfl⟩
    · rw [hspares fault hmem hoperation] at herrno
      cases herrno
    · have hact : ({ store with faults := (Fault.disturb ⟨.makeDirectory, url, .none⟩
          store.faults).2 } : Store).steps? url = .error errno := hsteps
      simp only [hact, bind, Except.bind] at hbody
      obtain ⟨rfl, rfl⟩ := Prod.mk.inj hbody
      exact ⟨rfl, _, rfl, rfl⟩
  cases h with
  | settled hmake =>
    obtain ⟨hsame, error, rfl, rfl⟩ := hfirst hmake
    exact ⟨⟨error, pardon_of_not_exists hexists⟩, hsame⟩
  | stopped hmake hnotFound | refused hmake hnotFound | retried hmake hnotFound =>
    obtain ⟨-, error, heq, herrno⟩ := hfirst hmake
    obtain rfl := Except.error.inj heq
    exact absurd (herrno.symm.trans hnotFound) hmissing

/-- **What a call for a branch comes to**, in a table without links and if no fault makes a
directory fail. -/
theorem makeBranch_raises (hurl : Url.names? url = .ok names)
    (hserver : Url.isServer url = false) (hstable : Url.IsStable url)
    (hspares : Fault.Spares .makeDirectory store.faults) (hformed : store.fs.WellFormed)
    (hfree : store.fs.LinkFree) (h : (makeBranch url).run.run store = (result, store')) :
    (store.steps? url = .ok (names.map .name) ∧
        store.fs.Raised store'.fs store.root names result) ∨
      (∃ errno, store.steps? url = .error errno) ∧ (∃ error, result = .error error) ∧
        store'.fs = store.fs := by
  have hclimbs := climbs_of_makeBranch h
  rcases @steps?_cases_of_names? store url names hurl with
    hsteps | ⟨errno, hsteps, hmissing, hexists⟩
  · have hdeep := (Url.isServer_eq_false_iff hurl).1 hserver
    exact .inl ⟨hsteps, (hclimbs.raised ⟨hstable, hsteps, hdeep, hspares, hformed, hfree⟩).1⟩
  · exact .inr ⟨⟨errno, hsteps⟩, hclimbs.of_steps_error hsteps hspares hmissing hexists⟩

end Share

/-- **Making a branch.** Take a URL below a server whose normal form is stable, a tree without
links, and calls that are not made to fail. The branch is made, with at most two calls for each
directory, if and only if its server is a directory, what is above its end is missing or a
directory, and its path can be asked for: it holds no zero and is not too long, nor is a name of it.
Then all of it is there, and what has been made is what was missing of it, all directories, all
below the server. If it fails, the tree is as it was; except that a name can be too long with
nothing else in the way, and then what is above the first such name is there. A server is never
asked for. -/
theorem Share.branch_is_made {store : Store} {url : String} {names : List Name}
    (hurl : Url.names? url = .ok names) (hserver : Url.isServer url = false)
    (hstable : Url.IsStable url) (hspares : Fault.Spares .makeDirectory store.faults)
    (hformed : store.fs.WellFormed) (hfree : store.fs.LinkFree) :
    let made := (makeBranch url).run.run store
    (made.1 = .ok () ↔ store.fs.IsOpen store.root names ∧ CanBeAsked store names) ∧
    (made.1 = .ok () → store.fs.Branched made.2.fs store.root names) ∧
    (∀ error, made.1 = .error error → made.2.fs = store.fs ∨
      store.fs.IsOpen store.root names ∧ (∃ name ∈ names, maxNameSize < name.size) ∧
        store.fs.Branched made.2.fs store.root (FileSystem.shortNames names)) ∧
    ∃ log, store.Logs made.2 log ∧ log.length + 3 ≤ 2 * names.length ∧
      ∀ entry ∈ log, IsOnBranch names entry.1 := by
  rcases hmade : (makeBranch url).run.run store with ⟨result, store'⟩
  intro made
  have hlogs := (climbs_of_makeBranch hmade).logs hstable hurl hserver
  rcases makeBranch_raises hurl hserver hstable hspares hformed hfree hmade with
    ⟨hsteps, hraised⟩ | ⟨⟨errno, hsteps⟩, ⟨error, rfl⟩, hsame⟩
  · obtain ⟨-, hclean, hsize⟩ := Store.steps?_map_eq_ok.1 hsteps
    cases hraised with
    | made hopen hshort hbranched =>
      exact ⟨iff_of_true rfl ⟨hopen, hclean, hshort, hsize⟩, fun _ ↦ hbranched, nofun, hlogs⟩
    | refused hnot hsame =>
      exact ⟨iff_of_false nofun fun h ↦ hnot h.1, nofun, fun _ _ ↦ .inl hsame, hlogs⟩
    | cut hopen hmem hlong hbranched =>
      exact ⟨iff_of_false nofun fun h ↦ Nat.not_le.2 hlong (h.2.short _ hmem), nofun,
        fun _ _ ↦ .inr ⟨hopen, ⟨_, hmem, hlong⟩, hbranched⟩, hlogs⟩
  · refine ⟨iff_of_false nofun fun h ↦ ?_, nofun, fun _ _ ↦ .inl hsame, hlogs⟩
    rw [steps?_of_canBeAsked hurl h.2] at hsteps
    cases hsteps

namespace Share

/-- A share with nothing on it. -/
def bareStore : Store :=
  .onRoot (.branch ["srv".toUTF8, "share".toUTF8]) [] []

theorem wellFormed_bareStore : bareStore.fs.WellFormed := by
  refine (FileSystem.isTree_branch fun name hname ↦ ?_).formed
  have hname : name = "srv".toUTF8 ∨ name = "share".toUTF8 := by simpa using hname
  rcases hname with rfl | rfl
  all_goals exact Name.isText_of_text _ (by decide +kernel)

theorem linkFree_bareStore : bareStore.fs.LinkFree :=
  fun _ _ _ ↦ FileSystem.kind?_branch_ne_link

/-- A branch of two directories is made. -/
theorem branch_is_made_bareStore :
    let made := (makeBranch "srv/share/a/b").run.run bareStore
    made.1 = .ok () ∧ made.2.fs.kind? ["srv".toUTF8, "share".toUTF8, "a".toUTF8] ≠ none ∧
      made.2.fs.kind? ["srv".toUTF8, "share".toUTF8, "a".toUTF8, "b".toUTF8] ≠ none := by
  have hurl : Url.names? "srv/share/a/b" =
      .ok ["srv".toUTF8, "share".toUTF8, "a".toUTF8, "b".toUTF8] := by decide +kernel
  have hspares : Fault.Spares .makeDirectory bareStore.faults := nofun
  obtain ⟨hiff, hdone, -⟩ := branch_is_made hurl (by decide +kernel) (by decide +kernel) hspares
    wellFormed_bareStore linkFree_bareStore
  have hopen : bareStore.fs.IsOpen [] ["srv".toUTF8, "share".toUTF8, "a".toUTF8, "b".toUTF8] :=
    .of_inits (by decide +kernel) (by decide +kernel)
  have hmade := hiff.2 ⟨hopen, by decide +kernel, by decide +kernel, by decide +kernel⟩
  exact ⟨hmade, (hdone hmade).there ["srv".toUTF8, "share".toUTF8, "a".toUTF8] (by decide +kernel),
    (hdone hmade).there _ (List.prefix_refl _)⟩

/-- A name that is longer than a name can be. -/
def overlongText : String :=
  String.ofList (List.replicate 256 'a')

theorem isEntryName_overlongText : Url.IsEntryName overlongText :=
  ⟨by decide +kernel, by decide +kernel, by decide +kernel, Single.slash_notMem_replicate 256⟩

theorem size_overlongText : overlongText.toUTF8.size = 256 := by
  decide +kernel

/-- The URL of a branch that ends in such a name. -/
def overlongUrl : String :=
  Url.join "srv/share/a" overlongText

/-- The names above it, the last of which is missing. -/
def aboveOverlong : List Name :=
  ["srv".toUTF8, "share".toUTF8, "a".toUTF8]

theorem isStable_overlongUrl : Url.IsStable overlongUrl ∧
    Url.names? overlongUrl = .ok (aboveOverlong ++ [overlongText.toUTF8]) :=
  Url.names?_join (by decide +kernel) (by decide +kernel) isEntryName_overlongText

theorem missing_aboveOverlong : bareStore.fs.kind? aboveOverlong = none := by
  decide +kernel

theorem isOpen_overlong :
    bareStore.fs.IsOpen [] (aboveOverlong ++ [overlongText.toUTF8]) :=
  (FileSystem.IsOpen.of_inits (by decide +kernel) (by decide +kernel)).concat
    missing_aboveOverlong (by simp [aboveOverlong])

theorem steps?_overlongUrl :
    bareStore.steps? overlongUrl = .ok ((aboveOverlong ++ [overlongText.toUTF8]).map .name) := by
  refine Store.steps?_map_eq_ok.2 ⟨isStable_overlongUrl.2, ?_, by decide +kernel⟩
  refine List.forall_mem_append.2 ⟨by decide +kernel, List.forall_mem_singleton.2 ?_⟩
  rw [← Array.contains_toList]
  decide +kernel

/-- **A name that is too long leaves a branch behind**: nothing is in the way and nothing is made to
fail, but the branch is refused, and what is above the name has been made. -/
theorem overlong_name_leaves_branch :
    Url.isServer overlongUrl = false ∧ Url.IsStable overlongUrl ∧
    Url.names? overlongUrl = .ok (aboveOverlong ++ [overlongText.toUTF8]) ∧
    bareStore.faults = [] ∧ bareStore.fs.WellFormed ∧ bareStore.fs.LinkFree ∧
    bareStore.fs.IsOpen bareStore.root (aboveOverlong ++ [overlongText.toUTF8]) ∧
    (∃ error, ((makeBranch overlongUrl).run.run bareStore).1 = .error error) ∧
    bareStore.fs.kind? aboveOverlong = none ∧
    ((makeBranch overlongUrl).run.run bareStore).2.fs.kind? aboveOverlong ≠ none := by
  obtain ⟨hstable, hurl⟩ := isStable_overlongUrl
  have hserver : Url.isServer overlongUrl = false :=
    (Url.isServer_eq_false_iff hurl).2 (by decide)
  have hspares : Fault.Spares .makeDirectory bareStore.faults := nofun
  have hlong : maxNameSize < overlongText.toUTF8.size := by
    rw [size_overlongText]
    decide
  have hshort : FileSystem.shortNames (aboveOverlong ++ [overlongText.toUTF8]) = aboveOverlong :=
    FileSystem.shortNames_append (by decide +kernel) hlong
  refine ⟨hserver, hstable, hurl, rfl, wellFormed_bareStore, linkFree_bareStore, isOpen_overlong,
    ?_⟩
  rcases hmade : (makeBranch overlongUrl).run.run bareStore with ⟨result, store'⟩
  have hclimbs := climbs_of_makeBranch hmade
  obtain ⟨hraised, -⟩ := hclimbs.raised
    ⟨hstable, steps?_overlongUrl, by decide, hspares, wellFormed_bareStore, linkFree_bareStore⟩
  cases hraised with
  | made _ hnames =>
    exact absurd (hnames _ (List.mem_append_right _ (List.mem_singleton_self _)))
      (Nat.not_le.2 hlong)
  | refused hnot => exact absurd isOpen_overlong hnot
  | @cut error name _ _ _ hbranched =>
    rw [hshort] at hbranched
    exact ⟨⟨error, rfl⟩, missing_aboveOverlong, hbranched.there _ (List.prefix_refl _)⟩

end Share

end FileShare
