import FileShare.Share.TemporaryName
import FileShare.Share.Url
import Mathlib.Data.List.Infix
import Mathlib.Data.List.TakeWhile

/-!
# The names in a URL

The functions on URLs normalise what they are given, on every call and over again, and they work on
the text. What a text stands for are its pieces between slashes, less the empty ones
(`Url.pieces`). Trimming slashes leaves the pieces alone (`Url.pieces_trimSlashes`), and dropping a
scheme takes one piece away, its own (`Url.segments_eq_pieces`). These two facts give the names of a
URL that is joined from another one and a name, and the names of the parent of a URL.

Joining goes one level down and the parent goes one level up, except that a scheme can get in the
way: where a normal form has a scheme again, the next call drops it, and the names lose their first
one (`Url.names?_of_steps`). A URL whose normal form is one (`Url.IsStable`) is safe from that, and
so are all URLs that are made from it. Whatever a URL looks like, a URL joined from it and a name
ends in the name (`Url.getLast?_names?_join`).
-/

namespace FileShare

namespace Url

/-! ### Pieces between slashes -/

theorem split_ne_nil (url : List Char) : split url ≠ [] := by
  induction url with
  | nil => simp [split]
  | cons c rest ih =>
    unfold split
    split
    · simp
    · split <;> simp

theorem split_append (front back : List Char) :
    split (front ++ '/' :: back) = split front ++ split back := by
  induction front with
  | nil => simp [split]
  | cons c front ih =>
    by_cases hslash : c = '/'
    · simp [split, hslash, ih]
    · obtain ⟨piece, pieces, hsplit⟩ := List.exists_cons_of_ne_nil (split_ne_nil front)
      simp [split, hslash, ih, hsplit]

theorem split_of_notMem {name : List Char} (h : '/' ∉ name) : split name = [name] := by
  induction name with
  | nil => rfl
  | cons c rest ih =>
    have hc : c ≠ '/' := fun heq ↦ h (by simp [heq])
    have hrest : '/' ∉ rest := fun hmem ↦ h (List.mem_cons_of_mem c hmem)
    simp [split, hc, ih hrest]

/-- What is no slash is in some piece. -/
theorem exists_mem_split {c : Char} {url : List Char} (hc : c ≠ '/') (h : c ∈ url) :
    ∃ piece ∈ split url, c ∈ piece := by
  induction url with
  | nil => cases h
  | cons d rest ih =>
    obtain ⟨piece, pieces, hsplit⟩ := List.exists_cons_of_ne_nil (split_ne_nil rest)
    by_cases hd : d = '/'
    · have hmem : c ∈ rest := (List.mem_cons.1 h).resolve_left (hd ▸ hc)
      obtain ⟨found, hfound, hin⟩ := ih hmem
      exact ⟨found, by simp [split, hd, hfound], hin⟩
    · rcases List.mem_cons.1 h with rfl | hmem
      · exact ⟨c :: piece, by simp [split, hd, hsplit], by simp⟩
      · obtain ⟨found, hfound, hin⟩ := ih hmem
        rw [hsplit] at hfound
        rcases List.mem_cons.1 hfound with rfl | hfound
        · exact ⟨d :: found, by simp [split, hd, hsplit], List.mem_cons_of_mem d hin⟩
        · exact ⟨found, by simp [split, hd, hsplit, hfound], hin⟩

/-- The pieces between slashes, without the empty ones. -/
def pieces (url : List Char) : List (List Char) :=
  (split url).filter (· ≠ [])

theorem pieces_append (front back : List Char) :
    pieces (front ++ '/' :: back) = pieces front ++ pieces back := by
  rw [pieces, split_append, List.filter_append]
  rfl

theorem pieces_of_notMem {name : List Char} (h : '/' ∉ name) (hne : name ≠ []) :
    pieces name = [name] := by
  simp [pieces, split_of_notMem h, hne]

/-- Only slashes have no pieces. -/
theorem pieces_ne_nil {c : Char} {url : List Char} (hc : c ≠ '/') (h : c ∈ url) :
    pieces url ≠ [] := by
  obtain ⟨piece, hpiece, hin⟩ := exists_mem_split hc h
  exact List.ne_nil_of_mem (List.mem_filter.2 ⟨hpiece, by simp [List.ne_nil_of_mem hin]⟩)

/-! ### Slashes around a URL -/

/-- **Slashes around a text mean nothing to its pieces.** -/
theorem pieces_trimSlashes (url : List Char) : pieces (trimSlashes url) = pieces url := by
  have hfront (list : List Char) : pieces (list.dropWhile (· = '/')) = pieces list := by
    induction list with
    | nil => rfl
    | cons c rest ih =>
      by_cases hc : c = '/'
      · rw [List.dropWhile_cons_of_pos (by simpa using hc), ih, hc]
        exact (pieces_append [] rest).symm
      · rw [List.dropWhile_cons_of_neg (by simpa using hc)]
  have hback (list : List Char) :
      pieces (list.reverse.dropWhile (· = '/')).reverse = pieces list := by
    induction list using List.reverseRecOn with
    | nil => rfl
    | append_singleton front c ih =>
      rw [List.reverse_concat]
      by_cases hc : c = '/'
      · rw [List.dropWhile_cons_of_pos (by simpa using hc), ih, hc, pieces_append]
        simp [pieces, split]
      · rw [List.dropWhile_cons_of_neg (by simpa using hc), List.reverse_cons, List.reverse_reverse]
  rw [trimSlashes, hback, hfront]

/-- What is left after slashes have been trimmed is not all slashes. -/
theorem exists_mem_trimSlashes {url : List Char} (h : trimSlashes url ≠ []) :
    ∃ c ∈ trimSlashes url, c ≠ '/' := by
  unfold trimSlashes at h ⊢
  obtain ⟨c, rest, hcons⟩ := List.exists_cons_of_ne_nil (mt List.reverse_eq_nil_iff.2 h)
  have hhead := List.head?_dropWhile_not (· = '/')
    (url.dropWhile (· = '/')).reverse
  rw [hcons] at hhead ⊢
  exact ⟨c, by simp, by simpa using hhead⟩

theorem trimSlashes_prefix (url : List Char) : trimSlashes url <+: url.dropWhile (· = '/') := by
  have hsuffix := List.dropWhile_suffix (· = '/') (l := (url.dropWhile (· = '/')).reverse)
  simpa [trimSlashes] using List.reverse_prefix.2 hsuffix

theorem trimSlashes_sublist (url : List Char) : (trimSlashes url).Sublist url := by
  have hprefix := trimSlashes_prefix url
  exact hprefix.sublist.trans (List.dropWhile_sublist _)

theorem head?_trimSlashes (url : List Char) : (trimSlashes url).head? ≠ some '/' := by
  intro hhead
  obtain ⟨back, hback⟩ := trimSlashes_prefix url
  have hfirst := List.head?_dropWhile_not (· = '/') url
  rw [← hback, List.head?_append, hhead] at hfirst
  simp at hfirst

theorem getLast?_trimSlashes (url : List Char) : (trimSlashes url).getLast? ≠ some '/' := by
  intro hlast
  have hfirst := List.head?_dropWhile_not (· = '/') (url.dropWhile (· = '/')).reverse
  rw [trimSlashes, List.getLast?_reverse] at hlast
  rw [hlast] at hfirst
  simp at hfirst

theorem dropWhile_slash_of_head {url : List Char} (h : url.head? ≠ some '/') :
    url.dropWhile (· = '/') = url := by
  cases url with
  | nil => rfl
  | cons c rest => exact List.dropWhile_cons_of_neg (by simpa using h)

theorem trimSlashes_eq_self_iff {url : List Char} :
    trimSlashes url = url ↔ url.head? ≠ some '/' ∧ url.getLast? ≠ some '/' := by
  constructor
  · intro h
    exact ⟨congrArg List.head? h ▸ head?_trimSlashes url,
      congrArg List.getLast? h ▸ getLast?_trimSlashes url⟩
  · rintro ⟨hhead, hlast⟩
    rw [trimSlashes, dropWhile_slash_of_head hhead,
      dropWhile_slash_of_head (List.head?_reverse.symm ▸ hlast), List.reverse_reverse]

/-- A text is a normal form of itself if it has no scheme and no slashes around it. -/
theorem normal_eq_self_iff {url : List Char} : normal url = url ↔
    ¬ scheme <+: url ∧ url.head? ≠ some '/' ∧ url.getLast? ≠ some '/' := by
  unfold normal dropScheme
  constructor
  · intro h
    by_cases hscheme : scheme.isPrefixOf url = true
    · -- without its scheme, a text is shorter
      rw [if_pos hscheme] at h
      have hle := length_trimSlashes_le (url.drop scheme.length)
      have hlt := (List.isPrefixOf_iff_prefix.1 hscheme).length_le
      rw [h, List.length_drop] at hle
      have hpos : scheme.length = 6 := rfl
      omega
    · rw [if_neg hscheme] at h
      exact ⟨mt List.isPrefixOf_iff_prefix.2 hscheme, trimSlashes_eq_self_iff.1 h⟩
  · rintro ⟨hscheme, hends⟩
    rw [if_neg (mt List.isPrefixOf_iff_prefix.1 hscheme)]
    exact trimSlashes_eq_self_iff.2 hends

/-! ### Schemes -/

/-- **A scheme is a piece,** which goes with it. -/
theorem segments_eq_pieces (url : List Char) :
    segments url = if scheme <+: url then (pieces url).tail else pieces url := by
  show pieces (trimSlashes (dropScheme url)) = _
  rw [pieces_trimSlashes, dropScheme]
  by_cases hscheme : scheme <+: url
  · rw [if_pos (List.isPrefixOf_iff_prefix.2 hscheme), if_pos hscheme]
    obtain ⟨rest, rfl⟩ := hscheme
    have hpieces : pieces (scheme ++ rest) = ['s', 'm', 'b', ':'] :: pieces rest :=
      (pieces_append ['s', 'm', 'b', ':'] ('/' :: rest)).trans
        (congrArg _ (pieces_append [] rest))
    rw [List.drop_left, hpieces, List.tail_cons]
  · rw [if_neg (mt List.isPrefixOf_iff_prefix.1 hscheme), if_neg hscheme]

/-- **A scheme has two slashes,** which go with it; a normal form has no more than are left. -/
theorem count_slash_normal_le (url : List Char) :
    (normal url).count '/' + (if scheme <+: url then 2 else 0) ≤ url.count '/' := by
  have htrim := (trimSlashes_sublist (dropScheme url)).count_le '/'
  change (normal url).count '/' ≤ _ at htrim
  by_cases hscheme : scheme <+: url
  · rw [dropScheme, if_pos (List.isPrefixOf_iff_prefix.2 hscheme)] at htrim
    obtain ⟨rest, rfl⟩ := hscheme
    have htwo : scheme.count '/' = 2 := rfl
    rw [List.drop_left] at htrim
    rw [if_pos (List.prefix_append _ _), List.count_append]
    omega
  · rw [dropScheme, if_neg (mt List.isPrefixOf_iff_prefix.1 hscheme)] at htrim
    rwa [if_neg hscheme]

/-- A URL is **stable** if its normal form is one. -/
def IsStable (url : String) : Prop :=
  normalize (normalize url) = normalize url

instance (url : String) : Decidable (IsStable url) :=
  inferInstanceAs (Decidable (_ = _))

/-- A URL is stable if there is no other scheme behind its scheme and its slashes. -/
theorem isStable_iff {url : String} : IsStable url ↔ ¬ scheme <+: normal url.toList := by
  have hiff : IsStable url ↔ normal (normal url.toList) = normal url.toList := by
    rw [IsStable, normalize, normalize, String.toList_ofList, String.ofList_inj]
  rw [hiff, normal_eq_self_iff]
  exact ⟨fun h ↦ h.1, fun h ↦ ⟨h, head?_trimSlashes _, getLast?_trimSlashes _⟩⟩

/-- No scheme comes about by joining: what is in front of its slashes has no slash at its end, and
a name has none at its beginning. -/
theorem not_scheme_prefix_join {front name : List Char} (hfront : ¬ scheme <+: front)
    (hlast : front.getLast? ≠ some '/') (hname : '/' ∉ name) :
    ¬ scheme <+: front ++ '/' :: name := by
  intro hscheme
  have hinit : front ∈ scheme.inits := by
    rw [List.mem_inits _ _]
    exact (List.prefix_or_prefix_of_prefix hscheme (List.prefix_append front _)).resolve_left hfront
  obtain ⟨rest, hrest⟩ := (List.mem_inits _ _).1 hinit
  rw [← hrest, List.prefix_append_right_inj] at hscheme
  have hdrop : scheme.drop front.length = rest := by rw [← hrest, List.drop_left]
  have hcases : ∀ front ∈ scheme.inits, front = scheme ∨ front.getLast? = some '/' ∨
      (scheme.drop front.length).head?.any (· ≠ '/') ∨
      scheme.drop front.length = ['/', '/'] := by
    decide
  have hcases := hcases front hinit
  rw [hdrop] at hcases
  rcases hcases with rfl | hend | hhead | rfl
  · exact hfront (List.prefix_refl _)
  · exact hlast hend
  · cases rest with
    | nil => cases hhead
    | cons c rest =>
      obtain ⟨rfl, -⟩ := List.cons_prefix_cons.1 hscheme
      simp at hhead
  · have hslash := (List.cons_prefix_cons.1 hscheme).2
    exact hname (hslash.subset (by simp))

/-! ### A URL stands for something -/

theorem normal_eq_nil_iff {url : List Char} : normal url = [] ↔ segments url = [] := by
  constructor
  · intro h
    simp [segments, h, split]
  · intro h
    by_contra hne
    obtain ⟨c, hmem, hc⟩ := exists_mem_trimSlashes hne
    exact pieces_ne_nil hc hmem h

/-- **A URL stands for its segments,** unless there are none or one of them is made of dots. -/
theorem names?_eq_ok_iff {url : String} {names : List Name} : names? url = .ok names ↔
    segments url.toList ≠ [] ∧ (segments url.toList).any isDots = false ∧
      (segments url.toList).map (fun segment ↦ (String.ofList segment).toUTF8) = names := by
  unfold names?
  by_cases hempty : segments url.toList = []
  · simp [normal_eq_nil_iff, hempty]
  · rw [if_neg (mt normal_eq_nil_iff.1 hempty)]
    cases hdots : (segments url.toList).any isDots <;> simp [hempty]

theorem names?_eq_invalid {url : String} (h : segments url.toList = []) :
    names? url = .error .invalid := by
  rw [names?, if_pos (normal_eq_nil_iff.2 h)]

/-- **A URL that stands for anything stands for at least one name.** -/
theorem names?_ne_nil {url : String} {names : List Name} (h : names? url = .ok names) :
    names ≠ [] := by
  obtain ⟨hne, -, rfl⟩ := names?_eq_ok_iff.1 h
  exact mt List.map_eq_nil_iff.1 hne

/-! ### One level down -/

theorem toList_join (url name : String) :
    (join url name).toList = normal url.toList ++ '/' :: name.toList := by
  simp [join, normalize]

/-- **Joining puts a name at the end,** and takes one away at the front if there is a scheme. -/
theorem segments_join {url name : String} (hname : '/' ∉ name.toList) (hne : name.toList ≠ []) :
    segments (join url name).toList =
      (if IsStable url then segments url.toList else (segments url.toList).tail) ++
        [name.toList] := by
  have hpieces : pieces (join url name).toList = segments url.toList ++ [name.toList] := by
    rw [toList_join, pieces_append, pieces_of_notMem hname hne]
    rfl
  rw [segments_eq_pieces, hpieces]
  by_cases hstable : IsStable url
  · have hscheme := not_scheme_prefix_join (isStable_iff.1 hstable) (getLast?_trimSlashes _) hname
    rw [if_pos hstable, toList_join, if_neg hscheme]
  · have hscheme := not_not.1 (mt isStable_iff.2 hstable)
    have hsegments : segments url.toList ≠ [] := by
      refine mt normal_eq_nil_iff.2 fun hnil ↦ ?_
      rw [hnil] at hscheme
      exact absurd hscheme (by decide)
    rw [if_neg hstable, toList_join, if_pos (hscheme.trans (List.prefix_append _ _)),
      List.tail_append_of_ne_nil hsegments]

/-- **A URL that is joined from a URL and a name ends in the name.** -/
theorem getLast?_names?_join {url name : String} {names : List Name}
    (hname : '/' ∉ name.toList) (hne : name.toList ≠ []) (h : names? (join url name) = .ok names) :
    names.getLast? = some name.toUTF8 := by
  obtain ⟨-, -, rfl⟩ := names?_eq_ok_iff.1 h
  simp [segments_join hname hne]

/-- A name that an entry of a directory can have. -/
structure IsEntryName (name : String) : Prop where
  ne_empty : name ≠ ""
  ne_here : name ≠ "."
  ne_above : name ≠ ".."
  slash_notMem : '/' ∉ name.toList

theorem IsEntryName.isDots {name : String} (h : IsEntryName name) : isDots name.toList = false := by
  have hhere : name.toList ≠ ['.'] := fun heq ↦ h.ne_here (String.toList_inj.1 heq)
  have habove : name.toList ≠ ['.', '.'] := fun heq ↦ h.ne_above (String.toList_inj.1 heq)
  simp [Url.isDots, hhere, habove]

/-- The slashes that are left in a URL. -/
def slashes (url : String) : Nat :=
  (normal url.toList).count '/'

theorem slashes_le_length (url : String) : slashes url ≤ url.length :=
  List.count_le_length.trans (length_normal_le url.toList)

/-- **How deep joining can go**: a URL gets one name and one slash more, or it gets no name more and
loses a slash, where a scheme turns up. -/
theorem slashes_join_lt {url name : String} (hname : IsEntryName name) :
    slashes (join url name) + 2 * (segments url.toList).length <
      slashes url + 2 * (segments (join url name).toList).length := by
  have hjoin := @segments_join url name hname.slash_notMem (by simpa using hname.ne_empty)
  have hnormal := count_slash_normal_le (join url name).toList
  have hcount : (join url name).toList.count '/' = slashes url + 1 := by
    rw [toList_join, List.count_append, List.count_cons_self,
      List.count_eq_zero.2 hname.slash_notMem]
    rfl
  change slashes (join url name) + _ ≤ _ at hnormal
  rw [hcount] at hnormal
  by_cases hstable : IsStable url
  · rw [hjoin, if_pos hstable, List.length_append, List.length_singleton]
    omega
  · have hscheme : scheme <+: (join url name).toList := by
      rw [toList_join]
      exact (not_not.1 (mt isStable_iff.2 hstable)).trans (List.prefix_append _ _)
    rw [if_pos hscheme] at hnormal
    rw [hjoin, if_neg hstable, List.length_append, List.length_singleton, List.length_tail]
    omega

theorem names?_join_eq {url name : String} {names : List Name} (hurl : names? url = .ok names)
    (hname : IsEntryName name) :
    names? (join url name) =
      .ok ((if IsStable url then names else names.tail) ++ [name.toUTF8]) := by
  obtain ⟨-, hdots, rfl⟩ := names?_eq_ok_iff.1 hurl
  have hjoin := @segments_join url name hname.slash_notMem (by simpa using hname.ne_empty)
  refine names?_eq_ok_iff.2 ⟨by simp [hjoin], ?_, ?_⟩
  · have htail : (segments url.toList).tail.any Url.isDots = false :=
      List.any_eq_false.2 fun segment hmem ↦
      List.any_eq_false.1 hdots segment (List.mem_of_mem_tail hmem)
    rw [hjoin]
    split <;> simp [hdots, htail, hname.isDots]
  · rw [hjoin]
    split <;> simp

/-- Without a scheme or a slash in front, a URL is stable: trimming takes nothing from its front. -/
theorem isStable_of_head {url : String} (hscheme : ¬ scheme <+: url.toList)
    (hhead : url.toList.head? ≠ some '/') : IsStable url := by
  have hprefix : normal url.toList <+: url.toList := by
    rw [normal, dropScheme, if_neg (mt List.isPrefixOf_iff_prefix.1 hscheme)]
    simpa only [dropWhile_slash_of_head hhead] using trimSlashes_prefix url.toList
  exact isStable_iff.2 fun h ↦ hscheme (h.trans hprefix)

/-- **The URL of an entry stands for the names of its directory and its own**, and is stable like
the URL of the directory. -/
theorem names?_join {url name : String} {names : List Name} (hstable : IsStable url)
    (hurl : names? url = .ok names) (hname : IsEntryName name) :
    IsStable (join url name) ∧ names? (join url name) = .ok (names ++ [name.toUTF8]) := by
  have hjoin := names?_join_eq hurl hname
  rw [if_pos hstable] at hjoin
  refine ⟨isStable_of_head ?_ ?_, hjoin⟩
  · rw [toList_join]
    exact not_scheme_prefix_join (isStable_iff.1 hstable) (getLast?_trimSlashes _)
      hname.slash_notMem
  · have hnormal := mt normal_eq_nil_iff.1 (names?_eq_ok_iff.1 hurl).1
    rw [toList_join, List.head?_append_of_ne_nil _ hnormal]
    exact head?_trimSlashes _

/-! ### One level up -/

/-- A text with a slash is what stands before its last slash and what stands behind it. -/
theorem eq_append_of_beforeLastSlash? {url parent : List Char}
    (h : beforeLastSlash? url = some parent) :
    url = parent ++ '/' :: afterLastSlash url ∧ '/' ∉ afterLastSlash url := by
  have hsplit := List.takeWhile_append_dropWhile (p := (· ≠ '/')) (l := url.reverse)
  have hfirst := List.head?_dropWhile_not (· ≠ '/') url.reverse
  unfold beforeLastSlash? at h
  split at h
  · cases h
  · rename_i c rest hdrop
    obtain rfl := Option.some.inj h
    rw [hdrop] at hsplit hfirst
    obtain rfl : c = '/' := by simpa using hfirst
    refine ⟨?_, fun hmem ↦ ?_⟩
    · simpa [afterLastSlash] using (congrArg List.reverse hsplit).symm
    · simpa using List.mem_takeWhile_imp (List.mem_reverse.1 hmem)

/-- The parent of a URL is its normal form up to the last slash, which is neither its first
character nor its last one. -/
theorem exists_of_parent? {url parent : String} (h : parent? url = some parent) :
    ∃ name, '/' ∉ name ∧ name ≠ [] ∧ normal url.toList = parent.toList ++ '/' :: name ∧
      parent.toList ≠ [] ∧ parent.toList.head? ≠ some '/' := by
  obtain ⟨front, hbefore, rfl⟩ := Option.map_eq_some_iff.1 h
  obtain ⟨heq, hslash⟩ := eq_append_of_beforeLastSlash? hbefore
  have hhead := head?_trimSlashes (dropScheme url.toList)
  have hlast := getLast?_trimSlashes (dropScheme url.toList)
  change (normal url.toList).head? ≠ _ at hhead
  change (normal url.toList).getLast? ≠ _ at hlast
  have hname : afterLastSlash (normal url.toList) ≠ [] := fun hnil ↦ by
    rw [heq, hnil, List.getLast?_append_of_ne_nil _ (by simp)] at hlast
    exact hlast rfl
  have hfront : front ≠ [] := fun hnil ↦ by
    rw [heq, hnil] at hhead
    exact hhead rfl
  refine ⟨_, hslash, hname, by rwa [String.toList_ofList], by rwa [String.toList_ofList], ?_⟩
  rw [heq, List.head?_append_of_ne_nil _ hfront] at hhead
  rwa [String.toList_ofList]

/-- **The parent loses the last name,** and also the first one if there is a scheme. -/
theorem segments_parent {url parent : String} (h : parent? url = some parent) :
    segments parent.toList =
      if scheme <+: parent.toList then (segments url.toList).dropLast.tail
      else (segments url.toList).dropLast := by
  obtain ⟨name, hname, hne, hnormal, -⟩ := exists_of_parent? h
  have hpieces : (segments url.toList).dropLast = pieces parent.toList := by
    show (pieces (normal url.toList)).dropLast = _
    rw [hnormal, pieces_append, pieces_of_notMem hname hne, List.dropLast_concat]
  rw [segments_eq_pieces, hpieces]

theorem names?_parent {url parent : String} {names : List Name} (hurl : names? url = .ok names)
    (h : parent? url = some parent) :
    names? parent =
      if scheme <+: parent.toList then
        if names.dropLast.tail = [] then .error .invalid else .ok names.dropLast.tail
      else .ok names.dropLast := by
  obtain ⟨-, hdots, rfl⟩ := names?_eq_ok_iff.1 hurl
  have hsegments := segments_parent h
  have hsub : ∀ segment ∈ segments parent.toList, segment ∈ segments url.toList := by
    intro segment hmem
    rw [hsegments] at hmem
    split at hmem
    · exact List.mem_of_mem_dropLast (List.mem_of_mem_tail hmem)
    · exact List.mem_of_mem_dropLast hmem
  have hplain : (segments parent.toList).any isDots = false :=
    List.any_eq_false.2 fun segment hmem ↦
      List.any_eq_false.1 hdots segment (hsub segment hmem)
  by_cases hscheme : scheme <+: parent.toList
  · rw [if_pos hscheme] at hsegments ⊢
    by_cases hnil : (segments url.toList).dropLast.tail = []
    · rw [if_pos (by simp [← List.map_dropLast, ← List.map_tail, hnil])]
      exact names?_eq_invalid (hsegments.trans hnil)
    · rw [if_neg (by simpa [← List.map_dropLast, ← List.map_tail] using hnil)]
      refine names?_eq_ok_iff.2 ⟨hsegments ▸ hnil, hplain, ?_⟩
      rw [hsegments, List.map_tail, List.map_dropLast]
  · rw [if_neg hscheme] at hsegments ⊢
    obtain ⟨-, -, -, -, hne, hhead⟩ := exists_of_parent? h
    have hpieces : segments parent.toList ≠ [] := by
      obtain ⟨c, rest, hcons⟩ := List.exists_cons_of_ne_nil hne
      rw [segments_eq_pieces, if_neg hscheme]
      exact pieces_ne_nil (c := c) (by simpa [hcons] using hhead) (by simp [hcons])
    refine names?_eq_ok_iff.2 ⟨hpieces, hplain, ?_⟩
    rw [hsegments, List.map_dropLast]

/-- The parent of a stable URL has no scheme, as it is the front of a normal form. -/
theorem not_scheme_prefix_parent {url parent : String} (hstable : IsStable url)
    (h : parent? url = some parent) : ¬ scheme <+: parent.toList := by
  obtain ⟨name, -, -, hnormal, -⟩ := exists_of_parent? h
  exact fun hscheme ↦ isStable_iff.1 hstable (hnormal ▸ hscheme.trans (List.prefix_append _ _))

theorem isStable_parent {url parent : String} (hstable : IsStable url)
    (h : parent? url = some parent) : IsStable parent := by
  obtain ⟨-, -, -, -, -, hhead⟩ := exists_of_parent? h
  exact isStable_of_head (not_scheme_prefix_parent hstable h) hhead

/-- **Joining goes one level down and the parent goes one level up, but for a scheme.** Let a URL
stand for some names. A name joined to it comes behind these, or behind all but the first one if
the URL is not stable; its parent stands for all but the last one, and not for the first one either
if it has a scheme. The first name is then what is left of a second scheme, behind the first one or
behind slashes, and there may be no other name. For a stable URL there are no such exceptions, and
neither are there for any URL that is made from it by going down and up. -/
theorem names?_of_steps {url : String} {names : List Name} (hurl : names? url = .ok names) :
    (∀ name, IsEntryName name →
      names? (join url name) =
        .ok ((if IsStable url then names else names.tail) ++ [name.toUTF8])) ∧
    (∀ parent, parent? url = some parent →
      names? parent =
        if scheme <+: parent.toList then
          if names.dropLast.tail = [] then .error .invalid else .ok names.dropLast.tail
        else .ok names.dropLast) ∧
    (IsStable url →
      (∀ name, IsEntryName name → IsStable (join url name)) ∧
      ∀ parent, parent? url = some parent → IsStable parent ∧ ¬ scheme <+: parent.toList) := by
  refine ⟨fun name hname ↦ names?_join_eq hurl hname,
    fun parent hparent ↦ names?_parent hurl hparent, fun hstable ↦ ⟨fun name hname ↦ ?_, ?_⟩⟩
  · exact (names?_join hstable hurl hname).1
  · intro parent hparent
    exact ⟨isStable_parent hstable hparent, not_scheme_prefix_parent hstable hparent⟩

/-- Slashes in front of a scheme: the URL stands for a directory below one that is called like the
scheme, its entries and its parent do not. -/
theorem names?_of_steps_slashedScheme :
    names? "/smb://srv/share" = .ok ["smb:".toUTF8, "srv".toUTF8, "share".toUTF8] ∧
    names? (join "/smb://srv/share" "notes") =
      .ok ["srv".toUTF8, "share".toUTF8, "notes".toUTF8] ∧
    names? "smb://srv" = .ok ["srv".toUTF8] := by
  have hurl : names? "/smb://srv/share" = .ok ["smb:".toUTF8, "srv".toUTF8, "share".toUTF8] := by
    decide +kernel
  have hname : IsEntryName "notes" := ⟨by decide, by decide, by decide, by decide⟩
  obtain ⟨hjoin, hparent, -⟩ := names?_of_steps hurl
  have hjoin := hjoin "notes" hname
  have hparent := hparent "smb://srv" (by decide +kernel)
  rw [if_neg (by decide +kernel)] at hjoin
  rw [if_pos (by decide +kernel), if_neg (by decide +kernel)] at hparent
  exact ⟨hurl, hjoin, hparent⟩

end Url

/-! ### Temporary names -/

theorem slash_notMem_digits (count n : Nat) : '/' ∉ Hex.digits count n := by
  induction count generalizing n with
  | zero => simp [Hex.digits]
  | succ count ih =>
    have hdigit : ∀ digit < 16, Nat.digitChar digit ≠ '/' := by decide
    simp only [Hex.digits, List.mem_append, List.mem_singleton, not_or]
    exact ⟨ih _, (hdigit _ (Nat.mod_lt n (by decide))).symm⟩

theorem slash_notMem_temporaryName (token : Nat) : '/' ∉ (temporaryName token).toList := by
  have hsuffix : '/' ∉ temporarySuffix.toList := by decide
  simp [temporaryName, slash_notMem_digits, hsuffix]

/-- **The temporary file of an upload has its temporary name.** -/
theorem getLast?_names?_temporary {url : String} {token : Nat} {names : List Name}
    (h : Url.names? (Url.join url (temporaryName token)) = .ok names) :
    names.getLast? = some (temporaryName token).toUTF8 :=
  Url.getLast?_names?_join (slash_notMem_temporaryName token) (by simp [temporaryName]) h

end FileShare
