import FileShare.Proofs.FileChanges
import FileShare.Share.Branch

/-!
# What a call on a share can come to

Every call passes through `Share.attempt`: a fault may keep it from happening, and what came of it
is recorded. For what is on the share, faults and records do not matter (`Store.Records`), so a call
has two outcomes that count. Either nothing has happened, and it has failed. Or it has done what it
is for, perhaps with less to read or write than was asked for.

There is a lemma of this form for every call that the transfers make. None of them says anything
about which faults there are, so what follows from them holds whatever fails.
-/

namespace FileShare

theorem of_mapError_eq_ok {ε ε' α : Type} {report : ε → ε'} {action : Except ε α} {a : α}
    (h : action.mapError report = .ok a) : action = .ok a := by
  cases action with
  | error error => cases h
  | ok a' => exact congrArg Except.ok (Except.ok.inj h)

/-- Of two actions in a row, the first fails, or both are done. -/
theorem bind_cases {σ ε α β : Type} {s s' : σ} {action : ExceptT ε (StateM σ) α}
    {next : α → ExceptT ε (StateM σ) β} {result : Except ε β}
    (h : (action >>= next).run.run s = (result, s')) :
    (∃ error, action.run.run s = (.error error, s') ∧ result = .error error) ∨
      ∃ a mid, action.run.run s = (.ok a, mid) ∧ (next a).run.run mid = (result, s') := by
  rw [ExceptT.run_bind, StateT.run_bind] at h
  rcases hfirst : action.run.run s with ⟨_ | a, mid⟩
  · rw [hfirst] at h
    obtain ⟨rfl, rfl⟩ := Prod.mk.inj h
    exact .inl ⟨_, rfl, rfl⟩
  · rw [hfirst] at h
    exact .inr ⟨a, mid, rfl, h⟩

/-- An action that is done is followed by the next one. -/
theorem bind_run_of_ok {σ ε α β : Type} {s s' : σ} {action : ExceptT ε (StateM σ) α} {a : α}
    (next : α → ExceptT ε (StateM σ) β) (h : action.run.run s = (.ok a, s')) :
    (action >>= next).run.run s = (next a).run.run s' := by
  rw [ExceptT.run_bind, StateT.run_bind, h]
  rfl

/-- An action that fails is the last one. -/
theorem bind_run_of_error {σ ε α β : Type} {s s' : σ} {action : ExceptT ε (StateM σ) α} {error : ε}
    (next : α → ExceptT ε (StateM σ) β) (h : action.run.run s = (.error error, s')) :
    (action >>= next).run.run s = (.error error, s') := by
  rw [ExceptT.run_bind, StateT.run_bind, h]
  rfl

/-- Of two actions that cannot fail, the second one follows on the first. -/
theorem run_bind_of_run {σ α β : Type} {action : StateM σ α} {next : α → StateM σ β} {s s' : σ}
    {a : α} (h : action.run s = (a, s')) : (action >>= next).run s = (next a).run s' := by
  rw [StateT.run_bind, h]
  rfl

/-- An action that cannot fail is done, and the next one follows. -/
theorem bind_lift_run {σ ε α β : Type} (action : StateM σ α) (next : α → ExceptT ε (StateM σ) β)
    (s : σ) : ((liftM action : ExceptT ε (StateM σ) α) >>= next).run.run s =
      (next (action.run s).1).run.run (action.run s).2 := rfl

theorem bind_get_run {σ ε β : Type} (next : σ → ExceptT ε (StateM σ) β) (s : σ) :
    (get >>= next).run.run s = (next s).run.run s := rfl

theorem bind_modify_run {σ ε β : Type} (change : σ → σ) (next : Unit → ExceptT ε (StateM σ) β)
    (s : σ) : ((modify change : ExceptT ε (StateM σ) Unit) >>= next).run.run s =
      (next ()).run.run (change s) := rfl

/-- Nothing but the faults and the record of calls differs. -/
structure Store.Records (store store' : Store) : Prop where
  fs : store'.fs = store.fs
  root : store'.root = store.root
  files : store'.files = store.files
  tokens : store'.tokens = store.tokens

/-! ### Faults that do not hide the end of a file -/

/-- No fault makes a call come to nothing without an error. A read of nothing would look like the
end of the file. -/
def Fault.Fruitful (faults : List Fault) : Prop :=
  ∀ fault ∈ faults, fault.effect.limit ≠ some 0

/-- **What disturbs a call is a fault of its operation**, and those that are left have the same
effects. -/
theorem Fault.forall_disturb {faults : List Fault} {P : Operation → Disturbance → Prop}
    (h : ∀ fault ∈ faults, P fault.operation fault.effect) (call : Call) :
    (∀ disturbance, (disturb call faults).1 = some disturbance → P call.operation disturbance) ∧
      ∀ fault ∈ (disturb call faults).2, P fault.operation fault.effect := by
  -- the fault that disturbs a call is the first one that applies to it, and only that is used up
  induction faults with
  | nil => exact ⟨nofun, h⟩
  | cons fault rest ih =>
    obtain ⟨hfault, hrest⟩ := List.forall_mem_cons.1 h
    obtain ⟨hdisturbs, hleft⟩ := ih hrest
    unfold disturb
    split
    · rename_i hconcerns
      have hoperation : fault.operation = call.operation := by
        simp only [concerns, Bool.and_eq_true, beq_iff_eq] at hconcerns
        exact hconcerns.1
      split
      · exact ⟨hdisturbs, List.forall_mem_cons.2 ⟨hfault, hleft⟩⟩
      · split
        · exact ⟨fun _ hsome ↦ Option.some.inj hsome ▸ hoperation ▸ hfault, h⟩
        · exact ⟨fun _ hsome ↦ Option.some.inj hsome ▸ hoperation ▸ hfault,
            List.forall_mem_cons.2 ⟨hfault, hrest⟩⟩
        · exact ⟨hdisturbs, List.forall_mem_cons.2 ⟨hfault, hleft⟩⟩
    · exact ⟨hdisturbs, List.forall_mem_cons.2 ⟨hfault, hleft⟩⟩

/-- Those that are left are as fruitful. -/
theorem Fault.Fruitful.disturb {faults : List Fault} (h : Fruitful faults) (call : Call) :
    (∀ disturbance, (Fault.disturb call faults).1 = some disturbance →
        disturbance.limit ≠ some 0) ∧
      Fruitful (Fault.disturb call faults).2 :=
  forall_disturb (P := fun _ effect ↦ effect.limit ≠ some 0) h call

namespace Share

variable {α : Type} {store store' : Store}

/-! ### Calls in general -/

/-- **A call fails with nothing done, or its body is run.** -/
theorem attempt_cases {call : Call} {answer : α → Answer}
    {body : Option Nat → Store → Except ShareError α × Store} {result : Except ShareError α}
    (h : (attempt call answer body).run.run store = (result, store')) :
    ((∃ error, result = .error error) ∧ store.Records store') ∨
      ∃ limit faults mid, (Fault.Fruitful store.faults → limit ≠ some 0) ∧
        body limit { store with faults } = (result, mid) ∧ mid.Records store' := by
  unfold attempt at h
  simp only [ExceptT.run_mk, StateT.run] at h
  split at h
  · obtain ⟨rfl, rfl⟩ := Prod.mk.inj h
    exact .inl ⟨⟨_, rfl⟩, rfl, rfl, rfl, rfl⟩
  · refine .inr ⟨(Fault.disturb call store.faults).1.bind (·.limit),
      (Fault.disturb call store.faults).2, ?_⟩
    have hlimit : Fault.Fruitful store.faults →
        (Fault.disturb call store.faults).1.bind (·.limit) ≠ some 0 := fun hfruitful hzero ↦ by
      obtain ⟨disturbance, hsome, hzero⟩ := Option.bind_eq_some_iff.1 hzero
      exact (hfruitful.disturb call).1 disturbance hsome hzero
    split at h
    all_goals
      rename_i hbody
      obtain ⟨rfl, rfl⟩ := Prod.mk.inj h
      exact ⟨_, hlimit, hbody, rfl, rfl, rfl, rfl⟩

/-- **A call uses up what disturbs it**, if its body leaves the faults alone. -/
theorem faults_attempt {call : Call} {answer : α → Answer}
    {body : Option Nat → Store → Except ShareError α × Store} {result : Except ShareError α}
    (hbody : ∀ limit store, (body limit store).2.faults = store.faults)
    (h : (attempt call answer body).run.run store = (result, store')) :
    store'.faults = (Fault.disturb call store.faults).2 := by
  unfold attempt at h
  simp only [ExceptT.run_mk, StateT.run] at h
  split at h
  · obtain ⟨-, rfl⟩ := Prod.mk.inj h
    rfl
  · have hkeeps := hbody ((Fault.disturb call store.faults).1.bind (·.limit))
      { store with faults := (Fault.disturb call store.faults).2 }
    split at h
    all_goals
      rename_i hrun
      obtain ⟨-, rfl⟩ := Prod.mk.inj h
      rw [hrun] at hkeeps
      exact hkeeps

/-- It keeps them fruitful. -/
theorem fruitful_attempt {call : Call} {answer : α → Answer}
    {body : Option Nat → Store → Except ShareError α × Store} {result : Except ShareError α}
    (hbody : ∀ limit store, (body limit store).2.faults = store.faults)
    (h : (attempt call answer body).run.run store = (result, store'))
    (hfruitful : Fault.Fruitful store.faults) : Fault.Fruitful store'.faults := by
  rw [faults_attempt hbody h]
  exact (hfruitful.disturb call).2

/-- A call that looks changes nothing. -/
theorem records_inspect {call : Call} {answer : α → Answer} {look : Store → Except Errno α}
    {result : Except ShareError α}
    (h : (inspect call answer look).run.run store = (result, store')) : store.Records store' := by
  rcases attempt_cases h with ⟨-, hrecords⟩ | ⟨_, faults, mid, -, hbody, hrecords⟩
  · exact hrecords
  · obtain ⟨-, rfl⟩ := Prod.mk.inj hbody
    exact ⟨hrecords.fs, hrecords.root, hrecords.files, hrecords.tokens⟩

theorem records_connect {credentials : Credentials} {result : Except ShareError Unit}
    (h : (connect credentials).run.run store = (result, store')) : store.Records store' :=
  records_inspect h

/-- **A call that changes the file system** fails with nothing done, or changes only that. -/
theorem change_cases {call : Call} {act : Store → Except Errno FileSystem}
    {result : Except ShareError Unit}
    (h : (change call act).run.run store = (result, store')) :
    ((∃ error, result = .error error) ∧ store.Records store') ∨
      ∃ faults fs, act { store with faults } = .ok fs ∧ result = .ok () ∧
        { store with fs }.Records store' := by
  rcases attempt_cases h with hfailed | ⟨_, faults, mid, -, hbody, hrecords⟩
  · exact .inl hfailed
  · split at hbody
    · rename_i fs hact
      obtain ⟨rfl, rfl⟩ := Prod.mk.inj hbody
      exact .inr ⟨faults, fs, hact, rfl, hrecords.fs, hrecords.root, hrecords.files,
        hrecords.tokens⟩
    · obtain ⟨rfl, rfl⟩ := Prod.mk.inj hbody
      exact .inl ⟨⟨_, rfl⟩, hrecords.fs, hrecords.root, hrecords.files, hrecords.tokens⟩

/-! ### Changes of the file system -/

theorem makeDirectory_cases {url : String} {result : Except ShareError Unit}
    (h : (makeDirectory url).run.run store = (result, store')) :
    ((∃ error, result = .error error) ∧ store.Records store') ∨
      ∃ steps fs, store.steps? url = .ok steps ∧
        store.fs.makeDirectory store.root steps = .ok fs ∧ { store with fs }.Records store' := by
  rcases change_cases h with hfailed | ⟨faults, fs, hact, -, hrecords⟩
  · exact .inl hfailed
  · obtain ⟨steps, hsteps, hmake⟩ := FileSystem.bind_eq_ok.1 hact
    exact .inr ⟨steps, fs, hsteps, hmake, hrecords⟩

theorem unlink_cases {url : String} {result : Except ShareError Unit}
    (h : (unlink url).run.run store = (result, store')) :
    ((∃ error, result = .error error) ∧ store.Records store') ∨
      ∃ steps fs, store.steps? url = .ok steps ∧
        store.fs.unlink store.root steps = .ok fs ∧ { store with fs }.Records store' := by
  rcases change_cases h with hfailed | ⟨faults, fs, hact, -, hrecords⟩
  · exact .inl hfailed
  · obtain ⟨steps, hsteps, hunlink⟩ := FileSystem.bind_eq_ok.1 hact
    exact .inr ⟨steps, fs, hsteps, hunlink, hrecords⟩

theorem rename_cases {source target : String} {result : Except ShareError Unit}
    (h : (rename source target).run.run store = (result, store')) :
    ((∃ error, result = .error error) ∧ store.Records store') ∨
      ∃ fromSteps toSteps fs, store.steps? source = .ok fromSteps ∧
        store.steps? target = .ok toSteps ∧
        store.fs.rename store.root fromSteps toSteps = .ok fs ∧ result = .ok () ∧
        { store with fs }.Records store' := by
  unfold rename at h
  rcases attempt_cases h with hfailed | ⟨_, faults, mid, -, hbody, hrecords⟩
  · exact .inl hfailed
  · dsimp only at hbody
    split at hbody
    · rename_i fs hmoved
      obtain ⟨rfl, rfl⟩ := Prod.mk.inj hbody
      -- both URLs are looked at before anything is moved
      obtain ⟨_, -, hmoved⟩ := FileSystem.bind_eq_ok.1 hmoved
      obtain ⟨_, -, hmoved⟩ := FileSystem.bind_eq_ok.1 hmoved
      obtain ⟨fromSteps, hfrom, hmoved⟩ := FileSystem.bind_eq_ok.1 (of_mapError_eq_ok hmoved)
      obtain ⟨toSteps, hto, hmoved⟩ := FileSystem.bind_eq_ok.1 hmoved
      exact .inr ⟨fromSteps, toSteps, fs, hfrom, hto, hmoved, rfl, hrecords.fs, hrecords.root,
        hrecords.files, hrecords.tokens⟩
    · obtain ⟨rfl, rfl⟩ := Prod.mk.inj hbody
      exact .inl ⟨⟨_, rfl⟩, hrecords.fs, hrecords.root, hrecords.files, hrecords.tokens⟩

/-! ### Branches -/

/-- **What holds of every directory that is made holds of a branch**, if it can be put one behind
the other. -/
theorem makeBranch_rel {Rel : Store → Store → Prop}
    (htrans : ∀ {a b c : Store}, Rel a b → Rel b c → Rel a c)
    (hmake : ∀ {url : String} {store store' : Store} {result : Except ShareError Unit},
      (makeDirectory url).run.run store = (result, store') → Rel store store')
    {url : String} {result : Except ShareError Unit}
    (h : (makeBranch url).run.run store = (result, store')) : Rel store store' := by
  -- the climb goes to ever shorter URLs
  induction hlength : url.toList.length using Nat.strongRecOn
    generalizing url store store' result with
  | ind length ih =>
    subst hlength
    rw [makeBranch] at h
    rcases hfirst : (makeDirectory url).run.run store with ⟨made, mid⟩
    have hrel := hmake hfirst
    have hrun {next : Except ShareError Unit → ShareM Unit} (mid' : Store) :
        (outcome (makeDirectory url) >>= next).run.run mid' =
          (next ((makeDirectory url).run.run mid').1).run.run
            ((makeDirectory url).run.run mid').2 := rfl
    rw [hrun, hfirst] at h
    cases made with
    | ok _ =>
      obtain ⟨-, rfl⟩ := Prod.mk.inj h
      exact hrel
    | error error =>
      dsimp only at h
      split at h
      · obtain ⟨-, rfl⟩ := Prod.mk.inj h
        exact hrel
      split at h
      · split at h
        · obtain ⟨-, rfl⟩ := Prod.mk.inj h
          exact hrel
        rename_i parent hparent
        split at h
        · obtain ⟨-, rfl⟩ := Prod.mk.inj h
          exact hrel
        have hshort := Url.length_parent?_lt hparent
        rcases bind_cases h with ⟨error', habove, -⟩ | ⟨_, above, habove, hagain⟩
        · exact htrans hrel (ih _ hshort habove rfl)
        · refine htrans hrel (htrans (ih _ hshort habove rfl) ?_)
          rw [hrun] at hagain
          rcases hsecond : (makeDirectory url).run.run above with ⟨made', last⟩
          have hlast := hmake hsecond
          rw [hsecond] at hagain
          cases made' with
          | ok _ =>
            obtain ⟨-, rfl⟩ := Prod.mk.inj hagain
            exact hlast
          | error error' =>
            dsimp only at hagain
            split at hagain
            all_goals
              obtain ⟨-, rfl⟩ := Prod.mk.inj hagain
              exact hlast
      · obtain ⟨-, rfl⟩ := Prod.mk.inj h
        exact hrel

/-! ### Files -/

/-- **A file is opened for writing** under the next number. -/
theorem openFile_create_cases {url : String} {result : Except ShareError FileId}
    (h : (openFile url .create).run.run store = (result, store')) :
    ((∃ error, result = .error error) ∧ store.Records store') ∨
      ∃ steps fs content name, store.steps? url = .ok steps ∧
        store.fs.openToWrite store.root steps = .ok (fs, content) ∧
        result = .ok ⟨store.files.size⟩ ∧
        { store with
          fs
          files := store.files.push ⟨url, name, content, .create, 0, true⟩ }.Records store' := by
  unfold openFile at h
  rcases attempt_cases h with hfailed | ⟨_, faults, mid, -, hbody, hrecords⟩
  · exact .inl hfailed
  · dsimp only at hbody
    split at hbody
    · rename_i fs content name hopened
      obtain ⟨rfl, rfl⟩ := Prod.mk.inj hbody
      obtain ⟨steps, hsteps, hopened⟩ := FileSystem.bind_eq_ok.1 hopened
      obtain ⟨⟨fs', content'⟩, hwrite, hopened⟩ := FileSystem.bind_eq_ok.1 hopened
      obtain ⟨rfl, hrest⟩ := Prod.mk.inj (Except.ok.inj hopened)
      obtain ⟨rfl, rfl⟩ := Prod.mk.inj hrest
      exact .inr ⟨steps, _, _, _, hsteps, hwrite, rfl, hrecords.fs, hrecords.root,
        hrecords.files, hrecords.tokens⟩
    · obtain ⟨rfl, rfl⟩ := Prod.mk.inj hbody
      exact .inl ⟨⟨_, rfl⟩, hrecords.fs, hrecords.root, hrecords.files, hrecords.tokens⟩

/-- A call on a file is a call under the URL with which it was opened. -/
theorem onFile_run (operation : Operation) (argument : Argument) (id : FileId)
    (answer : α → Answer) (body : OpenFile → Option Nat → Store → Except Errno α × Store)
    (store : Store) :
    (onFile operation argument id answer body).run.run store =
      let file := fileOf store id
      let call : Call := ⟨operation, file.url, argument⟩
      (attempt call answer fun limit mid ↦
        if file.isOpen then
          ((body file limit mid).1.mapError (failure call), (body file limit mid).2)
        else (.error (failure call .badHandle), mid)).run.run store := rfl

/-- A call on a file. The file must be open for its body to be run. -/
theorem onFile_cases {operation : Operation} {argument : Argument} {id : FileId}
    {answer : α → Answer} {body : OpenFile → Option Nat → Store → Except Errno α × Store}
    {result : Except ShareError α}
    (h : (onFile operation argument id answer body).run.run store = (result, store')) :
    ((∃ error, result = .error error) ∧ store.Records store') ∨
      ∃ limit faults value mid, (Fault.Fruitful store.faults → limit ≠ some 0) ∧
        body (fileOf store id) limit { store with faults } = (value, mid) ∧
        (∃ report, result = value.mapError report) ∧ mid.Records store' := by
  rw [onFile_run] at h
  rcases attempt_cases h with hfailed | ⟨limit, faults, mid, hlimit, hbody, hrecords⟩
  · exact .inl hfailed
  · split at hbody
    · rename_i hopen
      obtain ⟨rfl, rfl⟩ := Prod.mk.inj hbody
      exact .inr ⟨limit, faults, _, _, hlimit, rfl, ⟨_, rfl⟩, hrecords⟩
    · obtain ⟨rfl, rfl⟩ := Prod.mk.inj hbody
      exact .inl ⟨⟨_, rfl⟩, hrecords.fs, hrecords.root, hrecords.files, hrecords.tokens⟩

/-- **A write into a file that was opened for writing** appends a piece of the bytes at its
position, and the position moves on. -/
theorem write_cases {id : FileId} {data : ByteArray} {result : Except ShareError Nat}
    (hmode : (fileOf store id).mode = .create)
    (h : (write id data).run.run store = (result, store')) :
    ((∃ error, result = .error error) ∧ store.Records store') ∨
      ∃ count, let file := fileOf store id
        let piece := data.extract 0 count
        result = .ok piece.size ∧
        { store with
          fs := store.fs.write file.content file.position piece
          files := store.files.set! id.index
            { file with position := file.position + piece.size } }.Records store' := by
  rcases onFile_cases h with hfailed |
    ⟨limit, faults, value, mid, -, hbody, ⟨report, rfl⟩, hrecords⟩
  · exact .inl hfailed
  · rw [if_pos (.inl hmode)] at hbody
    obtain ⟨rfl, rfl⟩ := Prod.mk.inj hbody
    exact .inr ⟨limit.getD data.size, rfl, hrecords.fs, hrecords.root, hrecords.files,
      hrecords.tokens⟩

/-- Giving a file up changes no file system. -/
theorem close_keeps {id : FileId} {result : Except ShareError Unit}
    (h : (close id).run.run store = (result, store')) :
    store'.fs = store.fs ∧ store'.root = store.root := by
  rcases onFile_cases h with ⟨-, hrecords⟩ | ⟨limit, faults, value, mid, -, hbody, -, hrecords⟩
  · exact ⟨hrecords.fs, hrecords.root⟩
  · obtain ⟨rfl, rfl⟩ := Prod.mk.inj hbody
    exact ⟨hrecords.fs, hrecords.root⟩

theorem fileOf_setFile_of_ne {id other : FileId} {file : OpenFile} (hne : other ≠ id) :
    fileOf (setFile store id file) other = fileOf store other := by
  have hindex : id.index ≠ other.index := fun h ↦ hne (congrArg FileId.mk h.symm)
  unfold fileOf setFile
  rw [Array.set!_eq_setIfInBounds, Array.getElem?_setIfInBounds_ne hindex]

/-- A record that has been replaced is the new one. -/
theorem fileOf_of_set {id : FileId} {file : OpenFile} (hindex : id.index < store.files.size)
    (hfiles : store'.files = store.files.set! id.index file) : fileOf store' id = file := by
  unfold fileOf
  rw [hfiles]
  simp [hindex]

/-- Giving a file up leaves all other handles as they are. -/
theorem close_files {id : FileId} {result : Except ShareError Unit}
    (h : (close id).run.run store = (result, store')) :
    store'.files.size = store.files.size ∧
      ∀ other, other ≠ id → fileOf store' other = fileOf store other := by
  have hcongr : ∀ {mid last : Store} other, last.files = mid.files →
      fileOf last other = fileOf mid other := fun other hfiles ↦ by
    unfold fileOf
    rw [hfiles]
  rcases onFile_cases h with ⟨-, hrecords⟩ | ⟨limit, faults, value, mid, -, hbody, -, hrecords⟩
  · exact ⟨by rw [hrecords.files], fun other _ ↦ hcongr other hrecords.files⟩
  · obtain ⟨-, rfl⟩ := Prod.mk.inj hbody
    refine ⟨?_, fun other hne ↦ ?_⟩
    · rw [hrecords.files, setFile, Array.set!_eq_setIfInBounds, Array.size_setIfInBounds]
    · rw [hcongr other hrecords.files, fileOf_setFile_of_ne hne]
      rfl

/-! ### Reading -/

/-- **A file is opened for reading** under the next number. -/
theorem openFile_read_cases {url : String} {result : Except ShareError FileId}
    (h : (openFile url .read).run.run store = (result, store')) :
    ((∃ error, result = .error error) ∧ store.Records store') ∨
      ∃ steps content, store.steps? url = .ok steps ∧
        store.fs.openToRead store.root steps = .ok (.file content) ∧
        result = .ok ⟨store.files.size⟩ ∧
        { store with
          files := store.files.push
            ⟨url, Store.lastName steps, content, .read, 0, true⟩ }.Records store' := by
  unfold openFile at h
  rcases attempt_cases h with hfailed | ⟨_, faults, mid, -, hbody, hrecords⟩
  · exact .inl hfailed
  · dsimp only at hbody
    split at hbody
    · rename_i fs content name hopened
      obtain ⟨rfl, rfl⟩ := Prod.mk.inj hbody
      obtain ⟨steps, hsteps, hopened⟩ := FileSystem.bind_eq_ok.1 hopened
      obtain ⟨opened, hread, hopened⟩ := FileSystem.bind_eq_ok.1 hopened
      cases opened with
      | directory => cases hopened
      | file id =>
        obtain ⟨rfl, hrest⟩ := Prod.mk.inj (Except.ok.inj hopened)
        obtain ⟨rfl, rfl⟩ := Prod.mk.inj hrest
        exact .inr ⟨steps, _, hsteps, hread, rfl, hrecords.fs, hrecords.root, hrecords.files,
          hrecords.tokens⟩
    · obtain ⟨rfl, rfl⟩ := Prod.mk.inj hbody
      exact .inl ⟨⟨_, rfl⟩, hrecords.fs, hrecords.root, hrecords.files, hrecords.tokens⟩

/-- What is told about an open file is what is known about its content. -/
theorem fileStat_cases {id : FileId} {result : Except ShareError Stat}
    (h : (fileStat id).run.run store = (result, store')) :
    store.Records store' ∧ ((∃ error, result = .error error) ∨
      result = .ok (Stat.ofNodeInfo (fileOf store id).name
        (store.fs.infoOf (.file (fileOf store id).content)))) := by
  rcases onFile_cases h with ⟨hfailed, hrecords⟩ |
    ⟨limit, faults, value, mid, -, hbody, ⟨report, rfl⟩, hrecords⟩
  · exact ⟨hrecords, .inl hfailed⟩
  · obtain ⟨rfl, rfl⟩ := Prod.mk.inj hbody
    exact ⟨⟨hrecords.fs, hrecords.root, hrecords.files, hrecords.tokens⟩, .inr rfl⟩

/-- To seek moves the position, or changes nothing. -/
theorem seek_cases {id : FileId} {position : UInt64} {result : Except ShareError Nat}
    (h : (seek id position).run.run store = (result, store')) :
    ((∃ error, result = .error error) ∧ store.Records store') ∨
      { store with
        files := store.files.set! id.index
          { fileOf store id with position := position.toNat } }.Records store' := by
  rcases onFile_cases h with hfailed |
    ⟨limit, faults, value, mid, -, hbody, ⟨report, rfl⟩, hrecords⟩
  · exact .inl hfailed
  · split at hbody
    · obtain ⟨rfl, rfl⟩ := Prod.mk.inj hbody
      exact .inl ⟨⟨_, rfl⟩, hrecords.fs, hrecords.root, hrecords.files, hrecords.tokens⟩
    · obtain ⟨rfl, rfl⟩ := Prod.mk.inj hbody
      exact .inr ⟨hrecords.fs, hrecords.root, hrecords.files, hrecords.tokens⟩

/-- **A read from a file that was opened for reading** gives bytes at its position, and the position
moves on. With fruitful faults, there are none only where no byte is left. -/
theorem read_cases {id : FileId} {size : Nat} {result : Except ShareError ByteArray}
    (hmode : (fileOf store id).mode = .read)
    (h : (read id size).run.run store = (result, store')) :
    ((∃ error, result = .error error) ∧ store.Records store') ∨
      ∃ count ≤ size, (Fault.Fruitful store.faults → size ≠ 0 → count ≠ 0) ∧
        let file := fileOf store id
        let data := store.fs.read file.content file.position count
        result = .ok data ∧
        { store with
          files := store.files.set! id.index
            { file with position := file.position + data.size } }.Records store' := by
  rcases onFile_cases h with hfailed |
    ⟨limit, faults, value, mid, hlimit, hbody, ⟨report, rfl⟩, hrecords⟩
  · exact .inl hfailed
  · rw [if_pos hmode] at hbody
    obtain ⟨rfl, rfl⟩ := Prod.mk.inj hbody
    refine .inr ⟨min size (limit.getD size), Nat.min_le_left _ _, fun hfruitful hsize ↦ ?_, rfl,
      hrecords.fs, hrecords.root, hrecords.files, hrecords.tokens⟩
    cases limit with
    | none => simpa using hsize
    | some limit =>
      have hne : limit ≠ 0 := fun hzero ↦ hlimit hfruitful (congrArg some hzero)
      rw [Option.getD_some]
      omega

/-- The next entry of a directory, if the call does not fail. -/
theorem nextEntry_cases {directory : Directory} {result : Except ShareError (Option Entry)}
    (h : (nextEntry directory).run.run store = (result, store')) :
    (∃ error, result = .error error) ∨ result = .ok directory.entries.head? := by
  unfold nextEntry inspect at h
  rcases attempt_cases h with ⟨hfailed, -⟩ | ⟨_, _, _, -, hlook, -⟩
  · exact .inl hfailed
  · exact .inr (Prod.mk.inj hlook).1.symm

/-- A read gives no more than it is asked for. -/
theorem size_of_read {id : FileId} {size : Nat} {data : ByteArray}
    (h : (read id size).run.run store = (.ok data, store')) : data.size ≤ size := by
  rcases onFile_cases h with ⟨⟨_, hfailed⟩, -⟩ | ⟨limit, faults, value, mid, -, hbody, hvalue, -⟩
  · cases hfailed
  · obtain ⟨report, hvalue⟩ := hvalue
    obtain rfl := of_mapError_eq_ok hvalue.symm
    split at hbody
    · obtain rfl := Except.ok.inj (Prod.mk.inj hbody).1
      rw [FileSystem.read_eq_extract, ByteArray.size_extract]
      omega
    · cases (Prod.mk.inj hbody).1

/-! ### Fruitful faults stay fruitful -/

/-- A call on a file uses up what disturbs it. -/
theorem faults_onFile {operation : Operation} {argument : Argument} {id : FileId}
    {answer : α → Answer} {body : OpenFile → Option Nat → Store → Except Errno α × Store}
    {result : Except ShareError α}
    (hbody : ∀ file limit store, (body file limit store).2.faults = store.faults)
    (h : (onFile operation argument id answer body).run.run store = (result, store')) :
    store'.faults =
      (Fault.disturb ⟨operation, (fileOf store id).url, argument⟩ store.faults).2 := by
  rw [onFile_run] at h
  refine faults_attempt (fun limit mid ↦ ?_) h
  split
  · exact hbody _ _ _
  · rfl

theorem fruitful_onFile {operation : Operation} {argument : Argument} {id : FileId}
    {answer : α → Answer} {body : OpenFile → Option Nat → Store → Except Errno α × Store}
    {result : Except ShareError α}
    (hbody : ∀ file limit store, (body file limit store).2.faults = store.faults)
    (h : (onFile operation argument id answer body).run.run store = (result, store'))
    (hfruitful : Fault.Fruitful store.faults) : Fault.Fruitful store'.faults := by
  rw [faults_onFile hbody h]
  exact (hfruitful.disturb _).2

theorem fruitful_connect {credentials : Credentials} {result : Except ShareError Unit}
    (h : (connect credentials).run.run store = (result, store')) :
    Fault.Fruitful store.faults → Fault.Fruitful store'.faults := by
  unfold connect inspect at h
  exact fruitful_attempt (fun _ _ ↦ rfl) h

theorem fruitful_openFile {url : String} {result : Except ShareError FileId}
    (h : (openFile url .read).run.run store = (result, store')) :
    Fault.Fruitful store.faults → Fault.Fruitful store'.faults := by
  unfold openFile at h
  refine fruitful_attempt (fun limit mid ↦ ?_) h
  dsimp only
  split <;> rfl

theorem fruitful_fileStat {id : FileId} {result : Except ShareError Stat}
    (h : (fileStat id).run.run store = (result, store')) :
    Fault.Fruitful store.faults → Fault.Fruitful store'.faults := by
  unfold fileStat at h
  exact fruitful_onFile (fun _ _ _ ↦ rfl) h

theorem fruitful_seek {id : FileId} {position : UInt64} {result : Except ShareError Nat}
    (h : (seek id position).run.run store = (result, store')) :
    Fault.Fruitful store.faults → Fault.Fruitful store'.faults := by
  unfold seek at h
  refine fruitful_onFile (fun file limit mid ↦ ?_) h
  split <;> rfl

theorem fruitful_read {id : FileId} {size : Nat} {result : Except ShareError ByteArray}
    (h : (read id size).run.run store = (result, store')) :
    Fault.Fruitful store.faults → Fault.Fruitful store'.faults := by
  unfold read at h
  refine fruitful_onFile (fun file limit mid ↦ ?_) h
  split <;> rfl

theorem fruitful_close {id : FileId} {result : Except ShareError Unit}
    (h : (close id).run.run store = (result, store')) :
    Fault.Fruitful store.faults → Fault.Fruitful store'.faults := by
  unfold close at h
  exact fruitful_onFile (fun _ _ _ ↦ rfl) h

end Share

end FileShare
