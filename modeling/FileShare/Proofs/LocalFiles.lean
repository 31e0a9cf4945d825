import FileShare.Host.LocalFile
import FileShare.Proofs.FileChanges

/-!
# Local files that are written

A file that has been created under a path is what is read under that path, and it goes on being that
file while it is written: writing changes no node, and a table that grows keeps its routes.

A `BufferedFile` holds the bytes that it was given (`BufferedFile.Holds`): those that are in the
file, and behind them those that are in the buffer. That is all that a reader of this module needs
to know about the buffer. A write may or may not empty it, and the file holds one piece more after
it; when it is flushed, the bytes of the file are all of them.

The same goes for a file that was not empty when the first byte was written. What it was given then
lies over what was there (`BufferedFile.Lays`), and the older bytes that go further are still there
in the end.
-/

namespace FileShare

namespace FileSystem

variable {fs fs' : FileSystem} {start : Path} {steps : List Step} {id : Nat}

/-- What is read is the file at the end of a route. -/
theorem openToRead_eq_file : fs.openToRead start steps = .ok (.file id) ↔
    ∃ path, fs.place true start steps = .ok path ∧ fs.kind? path = some (.file id) := by
  unfold openToRead
  rw [bind_eq_ok]
  constructor
  · rintro ⟨⟨path, node⟩, hfind, h⟩
    obtain ⟨hplace, hnode⟩ := find_eq_ok.1 hfind
    cases node with
    | file found =>
      obtain rfl := Opened.file.inj (Except.ok.inj h)
      exact ⟨path, hplace, kind?_eq_file.2 hnode⟩
    | _ => cases h
  · rintro ⟨path, hplace, hkind⟩
    exact ⟨_, find_eq_ok.2 ⟨hplace, kind?_eq_file.1 hkind⟩, rfl⟩

/-- **A file that can be read can still be read when the table has grown.** -/
theorem Extends.openToRead (hext : fs.Extends fs')
    (h : fs.openToRead start steps = .ok (.file id)) :
    fs'.openToRead start steps = .ok (.file id) := by
  obtain ⟨path, hplace, hkind⟩ := openToRead_eq_file.1 h
  exact openToRead_eq_file.2 ⟨path, hext.place hplace, hext.kept _ _ hkind⟩

theorem extends_write (fs : FileSystem) (id position : Nat) (data : ByteArray) :
    fs.Extends (fs.write id position data) where
  kept path _ hkind := (kind?_write fs id position data path).trans hkind
  links path _ _ hlink := (kind?_write fs id position data path).symm.trans hlink

/-- **What is opened for writing is what is read**, and it is empty. -/
theorem openToWrite_opens (hwell : fs.WellFormed)
    (h : fs.openToWrite start steps = .ok (fs', id)) :
    fs'.openToRead start steps = .ok (.file id) ∧
      fs'.contents[id]?.map (·.bytes) = some ByteArray.empty := by
  unfold openToWrite at h
  obtain ⟨path, hplace, h⟩ := bind_eq_ok.1 h
  split at h
  · cases h
  · -- the file was there, and loses its content
    rename_i found hnode
    obtain ⟨rfl, rfl⟩ := Prod.mk.inj (Except.ok.inj h)
    have hkind := kind?_eq_file.2 hnode
    have hlt := hwell.content path found hkind
    -- no node has changed
    have hext : fs.Extends
        { fs with contents := fs.contents.set! found ⟨ByteArray.empty, fs.clock⟩ } :=
      ⟨fun _ _ h ↦ h, fun _ _ _ h ↦ h⟩
    exact ⟨openToRead_eq_file.2 ⟨path, hext.place hplace, hkind⟩, by simp [hlt]⟩
  · cases h
  · cases h
  · -- the file is new
    rename_i hnode
    obtain ⟨rfl, rfl⟩ := Prod.mk.inj (Except.ok.inj h)
    obtain ⟨made, hmade⟩ : ∃ made : FileSystem, made = { fs with
      contents := fs.contents.push ⟨ByteArray.empty, fs.clock⟩ } := ⟨_, rfl⟩
    have hkinds : ∀ other, ((made.put path (.file fs.contents.size)).touch path.dropLast).kind?
        other = if other = path then some (.file fs.contents.size) else fs.kind? other := by
      intro other
      rw [kind?_touch, kind?_put, hmade]
      rfl
    -- the new entry is where the route ends, and the route does not look behind itself
    have hext : fs.Extends ((made.put path (.file fs.contents.size)).touch path.dropLast) := by
      refine ⟨fun other kind hkind ↦ ?_, fun other target time hlink ↦ ?_⟩
      · have hne : other ≠ path := by
          rintro rfl
          rw [kind?_eq_none.2 hnode] at hkind
          cases hkind
        rw [hkinds, if_neg hne]
        exact hkind
      · rw [hkinds] at hlink
        split at hlink
        · cases hlink
        · exact hlink
    rw [← hmade]
    refine ⟨openToRead_eq_file.2 ⟨path, hext.place hplace, by rw [hkinds, if_pos rfl]⟩, ?_⟩
    rw [contents_touch, contents_put, hmade]
    simp

/-- **A file that can be read is what is opened for writing**, and loses its content. -/
theorem openToWrite_of_openToRead (h : fs.openToRead start steps = .ok (.file id)) :
    fs.openToWrite start steps =
      .ok ({ fs with contents := fs.contents.set! id ⟨ByteArray.empty, fs.clock⟩ }, id) := by
  obtain ⟨path, hplace, hkind⟩ := openToRead_eq_file.1 h
  unfold openToWrite
  rw [hplace]
  simp only [Except.bind, bind, kind?_eq_file.1 hkind]
  rfl

end FileSystem

namespace LocalFile

variable {fs fs' : FileSystem} {workDir : Path} {path : String} {id : Nat}

/-- What is opened under a spelled path is what is at the end of its route. -/
theorem openToRead_eq_ok {opened : FileSystem.Opened} :
    openToRead fs workDir path = .ok opened ↔ ∃ start steps,
      locate workDir path = .ok (start, steps) ∧ fs.openToRead start steps = .ok opened := by
  unfold openToRead
  rw [FileSystem.bind_eq_ok]
  constructor
  · rintro ⟨⟨start, steps⟩, hlocate, h⟩
    refine ⟨start, steps, hlocate, ?_⟩
    dsimp only at h
    cases hopen : fs.openToRead start steps with
    | error errno =>
      rw [hopen] at h
      cases h
    | ok found =>
      rw [hopen] at h
      exact congrArg Except.ok (Except.ok.inj h)
  · rintro ⟨start, steps, hlocate, hopen⟩
    refine ⟨_, hlocate, ?_⟩
    dsimp only
    rw [hopen]
    rfl

theorem openToRead_mono (hext : fs.Extends fs')
    (h : openToRead fs workDir path = .ok (.file id)) :
    openToRead fs' workDir path = .ok (.file id) := by
  obtain ⟨start, steps, hlocate, hopen⟩ := openToRead_eq_ok.1 h
  exact openToRead_eq_ok.2 ⟨start, steps, hlocate, hext.openToRead hopen⟩

/-- **A file that has been created is what is read**, and it is empty. -/
theorem create_opens (hwell : fs.WellFormed) (h : create fs workDir path = .ok (fs', id)) :
    openToRead fs' workDir path = .ok (.file id) ∧
      fs'.contents[id]?.map (·.bytes) = some ByteArray.empty := by
  unfold create at h
  obtain ⟨⟨start, steps⟩, hlocate, h⟩ := FileSystem.bind_eq_ok.1 h
  dsimp only at h
  split at h
  · cases hopen : fs.openToWrite start steps with
    | error errno =>
      rw [hopen] at h
      cases h
    | ok made =>
      rw [hopen] at h
      obtain rfl := Except.ok.inj h
      obtain ⟨hread, hempty⟩ := FileSystem.openToWrite_opens hwell hopen
      exact ⟨openToRead_eq_ok.2 ⟨start, steps, hlocate, hread⟩, hempty⟩
  · -- what is no name cannot be created
    split at h
    · cases h
    · cases h
    · cases h

/-- **A file that is created again** is the same file, and is empty. -/
theorem create_again {made : Nat} (hopen : openToRead fs workDir path = .ok (.file id))
    (hthere : id < fs.contents.size) (h : create fs workDir path = .ok (fs', made)) :
    made = id ∧ openToRead fs' workDir path = .ok (.file id) ∧
      fs'.contents[id]?.map (·.bytes) = some ByteArray.empty := by
  obtain ⟨start, steps, hlocate, hread⟩ := openToRead_eq_ok.1 hopen
  unfold create at h
  rw [hlocate] at h
  obtain ⟨_, hsame, h⟩ := FileSystem.bind_eq_ok.1 h
  obtain rfl := Except.ok.inj hsame
  dsimp only at h
  split at h
  · rw [FileSystem.openToWrite_of_openToRead hread] at h
    obtain ⟨rfl, rfl⟩ := Prod.mk.inj (Except.ok.inj h)
    -- no node has changed
    have hext : fs.Extends
        { fs with contents := fs.contents.set! id ⟨ByteArray.empty, fs.clock⟩ } :=
      ⟨fun _ _ hkind ↦ hkind, fun _ _ _ hlink ↦ hlink⟩
    exact ⟨rfl, openToRead_mono hext hopen, by simp [hthere]⟩
  · split at h
    · cases h
    · cases h
    · cases h

/-- **The whole of a file is its bytes.** -/
theorem readAll_of_openToRead (h : openToRead fs workDir path = .ok (.file id)) :
    readAll fs workDir path = .ok (fs.bytesOf (.file id)) := by
  obtain ⟨start, steps, hlocate, hopen⟩ := openToRead_eq_ok.1 h
  unfold readAll FileSystem.fileBytes
  rw [hlocate]
  show Except.mapError _ (fs.openToRead start steps >>= _) = _
  rw [hopen]
  show Except.ok (fs.contents[id]?.getD ⟨ByteArray.empty, 0⟩).bytes =
    Except.ok ((fs.contents[id]?.map (·.bytes)).getD ByteArray.empty)
  cases fs.contents[id]? <;> rfl

end LocalFile

/-! ### The buffer -/

namespace BufferedFile

variable {file : BufferedFile} {fs : FileSystem} {under got data : ByteArray}

/-- **The bytes that a file was given** are in it, and behind them in the buffer. -/
structure Holds (file : BufferedFile) (fs : FileSystem) (got : ByteArray) : Prop where
  written : ∃ written, fs.contents[file.content]?.map (·.bytes) = some written ∧
    file.position = written.size ∧ written ++ file.buffer = got

/-- **The bytes that a file was given lie over those** that it held before; they are in it, and
behind them in the buffer. -/
structure Lays (file : BufferedFile) (fs : FileSystem) (under got : ByteArray) : Prop where
  written : ∃ written,
    fs.contents[file.content]?.map (·.bytes) = some (FileSystem.overwrite under 0 written) ∧
    file.position = written.size ∧ written ++ file.buffer = got

theorem holds_iff_lays : file.Holds fs got ↔ file.Lays fs ByteArray.empty got := by
  constructor
  · rintro ⟨written, hbytes, hrest⟩
    exact ⟨written, by rw [hbytes, FileSystem.overwrite_empty_zero], hrest⟩
  · rintro ⟨written, hbytes, hrest⟩
    exact ⟨written, by rw [hbytes, FileSystem.overwrite_empty_zero], hrest⟩

/-- A file that has just been opened was given nothing. -/
theorem Lays.ofContent {id : Nat} (h : fs.contents[id]?.map (·.bytes) = some under) :
    (ofContent id).Lays fs under ByteArray.empty := by
  refine ⟨ByteArray.empty, ?_, rfl, rfl⟩
  rw [FileSystem.overwrite_zero, ByteArray.empty_append]
  exact h.trans (congrArg some ByteArray.extract_zero_size.symm)

/-- **To flush writes all that is in the buffer.** -/
theorem Lays.flush (h : file.Lays fs under got) :
    (file.flush fs).1.Lays (file.flush fs).2 under got ∧
      (file.flush fs).2.contents[file.content]?.map (·.bytes) =
        some (FileSystem.overwrite under 0 got) := by
  obtain ⟨written, hbytes, hposition, rfl⟩ := h.written
  have hend : (file.flush fs).2.contents[file.content]?.map (·.bytes) =
      some (FileSystem.overwrite under 0 (written ++ file.buffer)) := by
    show (fs.write file.content file.position file.buffer).contents[file.content]?.map
      (·.bytes) = _
    rw [hposition]
    exact FileSystem.bytes_write_behind hbytes
  refine ⟨⟨_, hend, ?_, ByteArray.append_empty⟩, hend⟩
  show file.position + file.buffer.size = _
  rw [hposition, ByteArray.size_append]

theorem extends_flush (file : BufferedFile) (fs : FileSystem) : fs.Extends (file.flush fs).2 :=
  fs.extends_write _ _ _

/-- A file stays the same file when it is written. -/
theorem content_write (file : BufferedFile) (fs : FileSystem) (data : ByteArray) :
    (file.write fs data).1.content = file.content := by
  unfold BufferedFile.write
  by_cases hfull : capacity < file.buffer.size + data.size
  · rw [if_pos hfull]
    by_cases hsmall : data.size < capacity <;> simp only [hsmall, if_true, if_false] <;> rfl
  · rw [if_neg hfull]
    by_cases hsmall : data.size < capacity <;> simp only [hsmall, if_true, if_false]

/-- What is written into a buffer that has room, or past a buffer that is empty. -/
theorem Lays.put (h : file.Lays fs under got)
    (hroom : data.size < capacity ∨ file.buffer = ByteArray.empty) :
    let put := if data.size < capacity then ({ file with buffer := file.buffer ++ data }, fs)
      else ({ file with position := file.position + data.size },
        fs.write file.content file.position data)
    put.1.Lays put.2 under (got ++ data) ∧ fs.Extends put.2 := by
  intro put
  obtain ⟨written, hbytes, hposition, rfl⟩ := h.written
  -- a piece too large for the buffer goes past it, which is right only if the buffer is empty
  by_cases hsmall : data.size < capacity
  · have hput : put = ({ file with buffer := file.buffer ++ data }, fs) := if_pos hsmall
    rw [hput]
    exact ⟨⟨written, hbytes, hposition, ByteArray.append_assoc.symm⟩, .refl fs⟩
  · have hput : put = ({ file with position := file.position + data.size },
        fs.write file.content file.position data) := if_neg hsmall
    have hempty := hroom.resolve_left hsmall
    rw [hput, hempty, ByteArray.append_empty]
    refine ⟨⟨written ++ data, ?_, ?_, ?_⟩, fs.extends_write _ _ _⟩
    · dsimp only
      rw [hposition]
      exact FileSystem.bytes_write_behind hbytes
    · dsimp only
      rw [hposition, ByteArray.size_append]
    · exact ByteArray.append_empty

/-- **A write adds a piece** to what the file was given, through the buffer or past it. -/
theorem Lays.write (h : file.Lays fs under got) (data : ByteArray) :
    (file.write fs data).1.Lays (file.write fs data).2 under (got ++ data) ∧
      fs.Extends (file.write fs data).2 := by
  unfold BufferedFile.write
  by_cases hfull : capacity < file.buffer.size + data.size
  · -- there is no room for the piece until the buffer has been written
    rw [if_pos hfull]
    obtain ⟨hput, hext⟩ := h.flush.1.put (.inr rfl)
    exact ⟨hput, (extends_flush file fs).trans hext⟩
  · rw [if_neg hfull]
    refine h.put ?_
    by_cases hsmall : data.size < capacity
    · exact .inl hsmall
    · exact .inr (ByteArray.size_eq_zero_iff.1 (by omega))

/-! What holds of a file that was empty when it was opened. -/

theorem Holds.ofContent {id : Nat} (h : fs.contents[id]?.map (·.bytes) = some ByteArray.empty) :
    (BufferedFile.ofContent id).Holds fs ByteArray.empty :=
  holds_iff_lays.2 (.ofContent h)

theorem Holds.flush (h : file.Holds fs got) :
    (file.flush fs).1.Holds (file.flush fs).2 got ∧
      (file.flush fs).2.contents[file.content]?.map (·.bytes) = some got := by
  obtain ⟨hlays, hbytes⟩ := (holds_iff_lays.1 h).flush
  have hholds := holds_iff_lays.2 hlays
  obtain ⟨written, hwritten, -, rfl⟩ := hholds.written
  exact ⟨hholds, hwritten.trans (congrArg some ByteArray.append_empty.symm)⟩

/-- A write adds a piece to what the file was given. -/
theorem Holds.write (h : file.Holds fs got) (data : ByteArray) :
    (file.write fs data).1.Holds (file.write fs data).2 (got ++ data) ∧
      fs.Extends (file.write fs data).2 := by
  obtain ⟨hlays, hext⟩ := (holds_iff_lays.1 h).write data
  exact ⟨holds_iff_lays.2 hlays, hext⟩

end BufferedFile

end FileShare
