import FileShare.Proofs.Shrinking
import FileShare.Proofs.Urls
import FileShare.Text.Lossy

/-!
# The names of entries

A name is some bytes, and a share tells its text. A system accepts a name if it has bytes and none
of them is a slash (`Name.IsProper`); what is accepted need not be text. The text of a name that is
accepted can be joined to a URL whatever its bytes are (`Name.IsProper.isEntryName`): replacements
are no slashes, and no spelling of a slash is read but the plain one.

A table with such names is one that a system can have (`FileSystem.IsHosted`). A tree is one of them
(`FileSystem.IsTree.isHosted`), and what is left of one when an entry is dropped is another.
-/

namespace FileShare

/-! ### Names that are text -/

theorem lossyText_toUTF8 (text : String) : lossyText text.toUTF8 = text := by
  have hvalid : String.fromUTF8? text.toUTF8 = some text := by
    rw [String.fromUTF8?, String.toUTF8_eq_toByteArray, dif_pos text.isValidUTF8]
    rfl
  rw [lossyText, hvalid]

/-- The text of a name. -/
theorem Name.IsText.exists_text {name : Name} (h : name.IsText) :
    ∃ text : String, text.toUTF8 = name ∧ lossyText name = text := by
  obtain ⟨text, rfl, -⟩ := h
  exact ⟨text, rfl, lossyText_toUTF8 text⟩

/-- Nothing but a slash is spelled with the byte of a slash. -/
theorem eq_slash_of_mem_utf8EncodeChar {c : Char} (h : 47 ∈ String.utf8EncodeChar c) : c = '/' := by
  have hbyte (n : Nat) : 47 = UInt8.ofNat n ↔ n % 256 = 47 := by
    rw [← UInt8.toNat_inj, UInt8.toNat_ofNat', eq_comm]
    rfl
  refine Char.ext (UInt32.toNat_inj.1 ?_)
  change c.val.toNat = 47
  unfold String.utf8EncodeChar at h
  dsimp only at h
  split_ifs at h <;> simp only [List.mem_cons, List.not_mem_nil, or_false, hbyte] at h <;> omega

theorem slash_notMem_toUTF8 {text : List Char} (h : '/' ∉ text) :
    47 ∉ (String.ofList text).toUTF8.data.toList := by
  intro hmem
  rw [String.toUTF8_eq_toByteArray, String.toByteArray_ofList] at hmem
  obtain ⟨c, hc, hslash⟩ : ∃ c ∈ text, 47 ∈ String.utf8EncodeChar c := by
    simpa [List.utf8Encode] using hmem
  exact h (eq_slash_of_mem_utf8EncodeChar hslash ▸ hc)

/-! ### Names of any bytes -/

/-- A name that a system may accept: it has bytes, and none of them is a slash. -/
def Name.IsProper (name : Name) : Prop :=
  name.data.toList ≠ [] ∧ 47 ∉ name.data.toList

instance (name : Name) : Decidable name.IsProper :=
  inferInstanceAs (Decidable (_ ∧ _))

/-- The names in a tree are accepted. -/
theorem Name.IsText.isProper {name : Name} (h : name.IsText) : name.IsProper := by
  obtain ⟨text, rfl, hne, -, -, hslash, -⟩ := h
  refine ⟨fun hnil ↦ hne ?_, ?_⟩
  · refine String.toByteArray_inj.1 (ByteArray.ext ?_)
    simpa using hnil
  · simpa using slash_notMem_toUTF8 hslash

theorem eq_of_ofNat_eq_slash {n : Nat} (h : Char.ofNat n = '/') : n = 47 := by
  unfold Char.ofNat at h
  by_cases hvalid : n.isValidChar
  · rw [dif_pos hvalid] at h
    have hn : (Char.ofNatAux n hvalid).toNat = n := rfl
    exact hn.symm.trans (congrArg Char.toNat h)
  · rw [dif_neg hvalid] at h
    cases h

/-- The bits of a byte that are part of a character. -/
theorem toNat_and_mask (byte : UInt8) :
    (byte &&& 0x3f).toNat = byte.toNat % 64 ∧ (byte &&& 0x1f).toNat = byte.toNat % 32 ∧
      (byte &&& 0x0f).toNat = byte.toNat % 16 ∧ (byte &&& 0x07).toNat = byte.toNat % 8 := by
  simp only [UInt8.toNat_and]
  exact ⟨Nat.and_two_pow_sub_one_eq_mod _ 6, Nat.and_two_pow_sub_one_eq_mod _ 5,
    Nat.and_two_pow_sub_one_eq_mod _ 4, Nat.and_two_pow_sub_one_eq_mod _ 3⟩

/-- What may follow a first byte whose own bits are all zero. -/
theorem isSecond_of_zeros {second : UInt8} :
    (isSecond 0xe0 second = true → 0xa0 ≤ second ∧ second ≤ 0xbf) ∧
      (isSecond 0xf0 second = true → 0x90 ≤ second ∧ second ≤ 0xbf) := by
  simp [isSecond]

/-- **No spelling of a slash is read but the plain one.** -/
theorem slash_notMem_lossyChars (bytes : List UInt8) (h : 47 ∉ bytes) : '/' ∉ lossyChars bytes := by
  fun_induction lossyChars bytes
  all_goals try simp_all [replacementChar]
  -- left are the characters that are put together from one byte, two, three and four
  case case2 =>
    exact fun heq ↦ h.1 (UInt8.toNat_inj.1 (eq_of_ofNat_eq_slash heq.symm).symm)
  case case3 lead second _ _ hlead _ _ =>
    intro heq
    have hvalue := eq_of_ofNat_eq_slash heq.symm
    simp only [List.foldl_cons, List.foldl_nil, toNat_and_mask] at hvalue
    simp only [UInt8.le_iff_toNat_le, UInt8.reduceToNat] at hlead
    omega
  case case6 lead second _ _ _ _ hlead hsecond _ _ =>
    intro heq
    have hvalue := eq_of_ofNat_eq_slash heq.symm
    simp only [List.foldl_cons, List.foldl_nil, toNat_and_mask] at hvalue
    simp only [UInt8.le_iff_toNat_le, UInt8.reduceToNat] at hlead
    obtain rfl : lead = 0xe0 := UInt8.toNat_inj.1 (by simp only [UInt8.reduceToNat]; omega)
    have hrange := isSecond_of_zeros.1 hsecond
    simp only [UInt8.le_iff_toNat_le, UInt8.reduceToNat] at hrange
    omega
  case case12 lead second _ _ _ _ _ _ hlead hsecond _ _ _ =>
    intro heq
    have hvalue := eq_of_ofNat_eq_slash heq.symm
    simp only [List.foldl_cons, List.foldl_nil, toNat_and_mask] at hvalue
    simp only [UInt8.le_iff_toNat_le, UInt8.reduceToNat] at hlead
    obtain rfl : lead = 0xf0 := UInt8.toNat_inj.1 (by simp only [UInt8.reduceToNat]; omega)
    have hrange := isSecond_of_zeros.2 hsecond
    simp only [UInt8.le_iff_toNat_le, UInt8.reduceToNat] at hrange
    omega

theorem lossyChars_ne_nil (bytes : List UInt8) (h : bytes ≠ []) : lossyChars bytes ≠ [] := by
  fun_induction lossyChars bytes
  all_goals simp_all

theorem toUTF8_of_fromUTF8? {bytes : ByteArray} {text : String}
    (h : String.fromUTF8? bytes = some text) : text.toUTF8 = bytes := by
  unfold String.fromUTF8? at h
  split at h
  · obtain rfl := Option.some.inj h
    rfl
  · cases h

theorem slash_notMem_of_toUTF8 {text : String} (h : 47 ∉ text.toUTF8.data.toList) :
    '/' ∉ text.toList := by
  intro hmem
  obtain ⟨front, back, hsplit⟩ := List.append_of_mem hmem
  obtain rfl : text = String.ofList front ++ "/" ++ String.ofList back := by
    rw [← String.toList_inj]
    simp [hsplit]
  refine h ?_
  simp only [String.toUTF8_eq_toByteArray, String.toByteArray_append, ByteArray.data_append,
    Array.toList_append, List.mem_append]
  exact .inl (.inr (by decide))

/-- **The text of a name can be the name of an entry**, if it is not made of dots. -/
theorem Name.IsProper.isEntryName {name : Name} (h : name.IsProper)
    (hdots : ¬ (lossyText name = "." ∨ lossyText name = "..")) :
    Url.IsEntryName (lossyText name) := by
  refine ⟨?_, fun hhere ↦ hdots (.inl hhere), fun habove ↦ hdots (.inr habove), ?_⟩
  · unfold lossyText
    split
    · rename_i text htext
      rintro rfl
      exact h.1 (by rw [← toUTF8_of_fromUTF8? htext]; rfl)
    · exact fun hempty ↦ lossyChars_ne_nil _ h.1 (by simpa using congrArg String.toList hempty)
  · unfold lossyText
    split
    · rename_i text htext
      exact slash_notMem_of_toUTF8 (by rw [toUTF8_of_fromUTF8? htext]; exact h.2)
    · rw [String.toList_ofList]
      exact slash_notMem_lossyChars _ h.2

/-! ### Tables with names of any bytes -/

namespace FileSystem

variable {fs fs' : FileSystem} {path : Path}

/-- The table of a system: each path is in it once, and the names are such as a system accepts. They
may be bytes that are no text. -/
structure IsHosted (fs : FileSystem) : Prop where
  formed : fs.WellFormed
  keys : (fs.nodes.map Prod.fst).Nodup
  proper : ∀ path name, fs.kind? (path ++ [name]) ≠ none → name.IsProper

theorem IsTree.isHosted (h : fs.IsTree) : fs.IsHosted where
  formed := h.formed
  keys := h.keys
  proper path name hthere := (h.text path name hthere).isProper

theorem Drops.isHosted (h : fs.Drops fs' path) (hhosted : fs.IsHosted) : fs'.IsHosted where
  formed := h.wellFormed hhosted.formed
  keys := h.keys hhosted.keys
  proper above name hthere := hhosted.proper above name (h.shrinks.there hthere)

end FileSystem

end FileShare
