import FileShare.Proofs.Confinement

/-!
# No URL leads out of the root

What a URL is turned into can be read off its text. Take a scheme away and cut the rest at its
slashes (`Url.cut`). If there is nothing between the slashes, the URL is refused as invalid; if a
part is made of dots, it is refused for lack of access; otherwise its names are the parts that are
not empty, in order. None of them holds a slash or is made of dots (`Name.IsPlain`), so that a path
that is extended by them goes strictly down (`Path.IsBelow`).

Eight operations of a share take URLs (`UrlCall`). All that such an operation makes of the file
system goes through one request, which has one route for each of its URLs (`UrlCall.perform_eq`).
The other operations go by the number of a file that is open, or by a listing that has been made.
So **whatever a share is asked for, the file system is only asked for what lies below the root**
(`Share.urls_stay_below_root`).

This is about how paths are spelled. Where a path leads that is spelled so is another matter: the
file system follows links.
-/

namespace FileShare

/-! ### Plain names -/

/-- A name that goes one level down, wherever it stands in a path. -/
structure Name.IsPlain (name : Name) : Prop where
  proper : name.IsProper
  ne_here : name ≠ ".".toUTF8
  ne_above : name ≠ "..".toUTF8

/-- A path that is another one, extended by one or more plain names. -/
def Path.IsBelow (root path : Path) : Prop :=
  ∃ names : List Name, path = root ++ names ∧ names ≠ [] ∧ ∀ name ∈ names, name.IsPlain

namespace Url

/-! ### What a URL is turned into -/

/-- What stands between the slashes of a URL, after its scheme. -/
def cut (url : String) : List (List Char) :=
  (dropScheme url.toList).splitOn '/'

theorem split_eq_splitOn (url : List Char) : split url = url.splitOn '/' := by
  induction url with
  | nil => rfl
  | cons c rest ih =>
    rw [List.splitOn, List.splitOnP_cons_eq_if_modifyHead, ← List.splitOn, ← ih, split]
    by_cases hc : c = '/'
    · simp [hc]
    · obtain ⟨piece, pieces, hsplit⟩ := List.exists_cons_of_ne_nil (split_ne_nil rest)
      simp [hc, hsplit]

/-- **The segments of a URL are the parts that are not empty.** -/
theorem segments_eq_cut (url : String) : segments url.toList = (cut url).filter (· ≠ []) := by
  show pieces (trimSlashes (dropScheme url.toList)) = _
  rw [pieces_trimSlashes, pieces, split_eq_splitOn, cut]

theorem slash_notMem_of_mem_split {piece url : List Char} (h : piece ∈ split url) :
    '/' ∉ piece := by
  induction url generalizing piece with
  | nil => simp_all [split]
  | cons c rest ih =>
    obtain ⟨first, more, hsplit⟩ := List.exists_cons_of_ne_nil (split_ne_nil rest)
    by_cases hc : c = '/'
    · rw [split, if_pos hc] at h
      rcases List.mem_cons.1 h with rfl | h
      · exact List.not_mem_nil
      · exact ih h
    · simp only [split, if_neg hc, hsplit] at h ih
      rcases List.mem_cons.1 h with rfl | h
      · have := ih List.mem_cons_self
        simp [Ne.symm hc, this]
      · exact ih (List.mem_cons_of_mem _ h)

/-- A segment is a plain name, unless it is made of dots. -/
theorem isPlain_of_mem_segments {url segment : List Char} (h : segment ∈ segments url)
    (hdots : isDots segment = false) : Name.IsPlain (String.ofList segment).toUTF8 := by
  obtain ⟨hmem, hne⟩ := List.mem_filter.1 h
  have hname (text : List Char)
      (heq : (String.ofList segment).toUTF8 = (String.ofList text).toUTF8) : segment = text :=
    String.ofList_inj.1 (String.toByteArray_inj.1 heq)
  refine ⟨⟨fun hnil ↦ ?_, slash_notMem_toUTF8 (slash_notMem_of_mem_split hmem)⟩, fun heq ↦ ?_,
    fun heq ↦ ?_⟩
  · have hempty : (String.ofList segment).toUTF8 = (String.ofList []).toUTF8 :=
      ByteArray.ext (Array.toList_inj.1 hnil)
    simp [hname _ hempty] at hne
  · simp [hname ['.'] heq, isDots] at hdots
  · simp [hname ['.', '.'] heq, isDots] at hdots

/-- There is nothing between the slashes of a URL if there is nothing but slashes. -/
theorem segments_eq_nil_iff {url : String} :
    segments url.toList = [] ↔ ∀ c ∈ dropScheme url.toList, c = '/' := by
  have hpieces : segments url.toList = pieces (dropScheme url.toList) := pieces_trimSlashes _
  rw [hpieces]
  constructor
  · intro hnil c hmem
    by_contra hc
    exact pieces_ne_nil hc hmem hnil
  · intro hslashes
    obtain ⟨n, hreplicate⟩ : ∃ n, dropScheme url.toList = List.replicate n '/' :=
      ⟨_, List.eq_replicate_of_mem hslashes⟩
    rw [hreplicate]
    clear hpieces hslashes hreplicate
    induction n with
    | zero => rfl
    | succ n ih => exact (pieces_append [] (List.replicate n '/')).trans ih

theorem any_isDots_iff {url : String} : (segments url.toList).any isDots = true ↔
    ∃ part ∈ cut url, part = ['.'] ∨ part = ['.', '.'] := by
  rw [segments_eq_cut, List.any_eq_true]
  constructor
  · rintro ⟨part, hmem, hdots⟩
    exact ⟨part, (List.mem_filter.1 hmem).1, by simpa [isDots] using hdots⟩
  · rintro ⟨part, hmem, hdots⟩
    refine ⟨part, List.mem_filter.2 ⟨hmem, ?_⟩, by simpa [isDots] using hdots⟩
    rcases hdots with rfl | rfl <;> rfl

/-- **A URL is refused, or it stands for plain names.** -/
theorem names?_cases (url : String) :
    (names? url = .error .invalid ∧ ∀ c ∈ dropScheme url.toList, c = '/') ∨
    (names? url = .error .accessDenied ∧ (¬ ∀ c ∈ dropScheme url.toList, c = '/') ∧
      ∃ part ∈ cut url, part = ['.'] ∨ part = ['.', '.']) ∨
    ∃ names, names? url = .ok names ∧ (¬ ∀ c ∈ dropScheme url.toList, c = '/') ∧
      (¬ ∃ part ∈ cut url, part = ['.'] ∨ part = ['.', '.']) ∧
      names = ((cut url).filter (· ≠ [])).map (fun part ↦ (String.ofList part).toUTF8) ∧
      names ≠ [] ∧ ∀ name ∈ names, name.IsPlain := by
  rw [← segments_eq_nil_iff, ← any_isDots_iff, ← segments_eq_cut]
  by_cases hnil : segments url.toList = []
  · exact .inl ⟨names?_eq_invalid hnil, hnil⟩
  · cases hdots : (segments url.toList).any isDots with
    | true =>
      refine .inr (.inl ⟨?_, hnil, rfl⟩)
      rw [names?, if_neg (mt normal_eq_nil_iff.1 hnil), if_pos hdots]
    | false =>
      have hok := names?_eq_ok_iff.2 ⟨hnil, hdots, rfl⟩
      refine .inr (.inr ⟨_, hok, hnil, by simp, rfl, by simpa, fun name hmem ↦ ?_⟩)
      obtain ⟨segment, hsegment, rfl⟩ := List.mem_map.1 hmem
      have hplain := List.any_eq_false.1 hdots segment hsegment
      exact isPlain_of_mem_segments hsegment (by simpa using hplain)

theorem names?_eq_invalid_iff {url : String} :
    names? url = .error .invalid ↔ ∀ c ∈ dropScheme url.toList, c = '/' := by
  have hne : Errno.accessDenied ≠ .invalid := by decide
  rcases names?_cases url with ⟨h, hslashes⟩ | ⟨h, hslashes, -⟩ | ⟨names, h, hslashes, -⟩
  · exact iff_of_true h hslashes
  · exact iff_of_false (by simp [h, hne]) hslashes
  · exact iff_of_false (by simp [h]) hslashes

theorem names?_eq_accessDenied_iff {url : String} :
    names? url = .error .accessDenied ↔ (¬ ∀ c ∈ dropScheme url.toList, c = '/') ∧
      ∃ part ∈ cut url, part = ['.'] ∨ part = ['.', '.'] := by
  have hne : Errno.invalid ≠ .accessDenied := by decide
  rcases names?_cases url with ⟨h, hslashes⟩ | ⟨h, hslashes, hdots⟩ | ⟨names, h, -, hdots, -⟩
  · exact iff_of_false (by simp [h, hne]) fun hnot ↦ hnot.1 hslashes
  · exact iff_of_true h ⟨hslashes, hdots⟩
  · exact iff_of_false (by simp [h]) fun hnot ↦ hdots hnot.2

theorem names?_eq_error {url : String} {errno : Errno} (h : names? url = .error errno) :
    errno = .invalid ∨ errno = .accessDenied := by
  rcases names?_cases url with ⟨hinvalid, -⟩ | ⟨hdenied, -⟩ | ⟨names, hok, -⟩
  · exact .inl (Except.error.inj (h.symm.trans hinvalid))
  · exact .inr (Except.error.inj (h.symm.trans hdenied))
  · cases h.symm.trans hok

/-- **The names of a URL are its parts that are not empty,** and lead below any root. -/
theorem names?_eq_cut {url : String} {names : List Name} (h : names? url = .ok names) :
    names = ((cut url).filter (· ≠ [])).map (fun part ↦ (String.ofList part).toUTF8) ∧
      ∀ root : Path, Path.IsBelow root (root ++ names) := by
  rcases names?_cases url with ⟨hinvalid, -⟩ | ⟨hdenied, -⟩ | ⟨_, hok, -, -, heq, hne, hplain⟩
  · cases h.symm.trans hinvalid
  · cases h.symm.trans hdenied
  · obtain rfl := Except.ok.inj (hok.symm.trans h)
    exact ⟨heq, fun root ↦ ⟨_, rfl, hne, hplain⟩⟩

end Url

/-! ### What a file system is asked for -/

namespace FileSystem

/-- A **question** to a file system, or an order. -/
inductive Question where
  | list (steps : List Step)
  /-- What can be told about the end of a route; a link at the end is followed, or not. -/
  | info (follow : Bool) (steps : List Step)
  | openToRead (steps : List Step)
  | openToWrite (steps : List Step)
  | makeDirectory (steps : List Step)
  | removeDirectory (steps : List Step)
  | unlink (steps : List Step)
  | rename (source target : List Step)

/-- The routes of a question. -/
def Question.routes : Question → List (List Step)
  | .list steps | .info _ steps | .openToRead steps | .openToWrite steps | .makeDirectory steps
  | .removeDirectory steps | .unlink steps => [steps]
  | .rename source target => [source, target]

/-- What is told in answer to a question, beside what has become of the file system. -/
inductive Told where
  | entries (children : List (Name × NodeInfo))
  | info (info : NodeInfo)
  | opened (opened : Opened)
  /-- The number of a content that can be written. -/
  | content (id : Nat)
  | done

/-- What comes of a question. -/
def serve (fs : FileSystem) (start : Path) : Question → Except Errno (Told × FileSystem)
  | .list steps => (fs.list start steps).map fun children => (.entries children, fs)
  | .info follow steps => (fs.info follow start steps).map fun info => (.info info, fs)
  | .openToRead steps => (fs.openToRead start steps).map fun opened => (.opened opened, fs)
  | .openToWrite steps => (fs.openToWrite start steps).map fun (fs, id) => (.content id, fs)
  | .makeDirectory steps => (fs.makeDirectory start steps).map fun fs => (.done, fs)
  | .removeDirectory steps => (fs.removeDirectory start steps).map fun fs => (.done, fs)
  | .unlink steps => (fs.unlink start steps).map fun fs => (.done, fs)
  | .rename source target => (fs.rename start source target).map fun fs => (.done, fs)

end FileSystem

open FileSystem (Question Told)

/-! ### The operations on URLs -/

/-- An operation of a share that takes URLs. -/
inductive UrlCall where
  | openDirectory (url : String)
  | openFile (url : String) (mode : OpenMode)
  | stat (url : String)
  | linkStat (url : String)
  | makeDirectory (url : String)
  | removeDirectory (url : String)
  | unlink (url : String)
  | rename (source target : String)

namespace UrlCall

/-- What an operation gives. -/
abbrev Result : UrlCall → Type
  | openDirectory _ => Directory
  | openFile _ _ => FileId
  | stat _ | linkStat _ => Stat
  | makeDirectory _ | removeDirectory _ | unlink _ | rename _ _ => Unit

/-- The operation itself. -/
def perform : (asked : UrlCall) → ShareM asked.Result
  | openDirectory url => Share.openDirectory url
  | openFile url mode => Share.openFile url mode
  | stat url => Share.stat url
  | linkStat url => Share.linkStat url
  | makeDirectory url => Share.makeDirectory url
  | removeDirectory url => Share.removeDirectory url
  | unlink url => Share.unlink url
  | rename source target => Share.rename source target

/-- An operation, as faults and records see it. -/
def call : UrlCall → Call
  | openDirectory url => ⟨.openDirectory, url, .none⟩
  | openFile url mode => ⟨.openFile, url, .mode mode⟩
  | stat url => ⟨.stat, url, .none⟩
  | linkStat url => ⟨.linkStat, url, .none⟩
  | makeDirectory url => ⟨.makeDirectory, url, .none⟩
  | removeDirectory url => ⟨.removeDirectory, url, .none⟩
  | unlink url => ⟨.unlink, url, .none⟩
  | rename source target => ⟨.rename, source, .to target⟩

/-- The URLs of an operation. -/
def urls : UrlCall → List String
  | openDirectory url | openFile url _ | stat url | linkStat url | makeDirectory url
  | removeDirectory url | unlink url => [url]
  | rename source target => [source, target]

/-- What an operation asks, if its URLs stand for something that can be asked for. -/
def question? (store : Store) : UrlCall → Except Errno Question
  | openDirectory url => (store.steps? url).map .list
  | openFile url .read => (store.steps? url).map .openToRead
  | openFile url .create => (store.steps? url).map .openToWrite
  | stat url => (store.steps? url).map (.info true)
  | linkStat url => (store.steps? url).map (.info false)
  | makeDirectory url => (store.steps? url).map .makeDirectory
  | removeDirectory url => (store.steps? url).map .removeDirectory
  | unlink url => (store.steps? url).map .unlink
  | rename source target => do
    let _ ← Url.names? source
    let _ ← Url.names? target
    return .rename (← store.steps? source) (← store.steps? target)

/-- The failure of an operation. Where the second of two URLs is refused, that one is told. -/
def refusal (asked : UrlCall) (errno : Errno) : ShareError :=
  match asked with
  | rename source target =>
    match Url.names? source, Url.names? target with
    | .ok _, .error _ => Share.failure { asked.call with url := target } errno
    | _, _ => Share.failure asked.call errno
  | _ => Share.failure asked.call errno

/-- What an operation makes of the answer to its question and of the open files. The file system
cannot be seen from here, and gives no answers but those to the question. -/
def finish : (asked : UrlCall) → Question → Told → Array OpenFile →
    Except Errno asked.Result × Array OpenFile
  | openDirectory url, _, .entries children, files =>
    (.ok ⟨url, (children.mergeSort fun a b => a.1.le b.1).map fun (name, info) =>
      ⟨lossyText name, Stat.ofNodeInfo name info⟩⟩, files)
  | openFile _ .read, _, .opened .directory, files => (.error .isDirectory, files)
  | openFile url .read, .openToRead steps, .opened (.file content), files =>
    (.ok ⟨files.size⟩, files.push ⟨url, Store.lastName steps, content, .read, 0, true⟩)
  | openFile url .create, .openToWrite steps, .content content, files =>
    (.ok ⟨files.size⟩, files.push ⟨url, Store.lastName steps, content, .create, 0, true⟩)
  | stat _, .info _ steps, .info info, files =>
    (.ok (Stat.ofNodeInfo (Store.lastName steps) info), files)
  | linkStat _, .info _ steps, .info info, files =>
    (.ok (Stat.ofNodeInfo (Store.lastName steps) info), files)
  | makeDirectory _, _, .done, files | removeDirectory _, _, .done, files
  | unlink _, _, .done, files | rename _ _, _, .done, files => (.ok (), files)
  | _, _, _, files => (.error .invalid, files)

/-- Ask the question of an operation, and finish it. -/
def ask (asked : UrlCall) (store : Store) : Except ShareError asked.Result × Store :=
  match asked.question? store with
  | .error errno => (.error (asked.refusal errno), store)
  | .ok question =>
    match store.fs.serve store.root question with
    | .error errno => (.error (asked.refusal errno), store)
    | .ok (told, fs) =>
      let (result, files) := asked.finish question told store.files
      (result.mapError asked.refusal, { store with fs, files })

theorem attempt_congr {α : Type} {call : Call} {answer : α → Answer}
    {body body' : Option Nat → Store → Except ShareError α × Store}
    (h : ∀ limit store, body limit store = body' limit store) :
    Share.attempt call answer body = Share.attempt call answer body' :=
  congrArg _ (funext₂ h)

theorem perform_openFile (url : String) (mode : OpenMode) :
    (openFile url mode).perform =
      Share.attempt (openFile url mode).call (fun _ ↦ .ok) fun _ ↦ (openFile url mode).ask := by
  unfold perform Share.openFile
  refine attempt_congr fun _ store ↦ ?_
  cases mode with
  | read =>
    simp only [ask, question?, bind, Except.bind]
    cases store.steps? url with
    | error errno => rfl
    | ok steps =>
      simp only [Except.map, FileSystem.serve]
      cases store.fs.openToRead store.root steps with
      | error errno => rfl
      | ok opened => cases opened <;> rfl
  | create =>
    simp only [ask, question?, bind, Except.bind]
    cases store.steps? url with
    | error errno => rfl
    | ok steps =>
      simp only [Except.map, FileSystem.serve]
      cases store.fs.openToWrite store.root steps <;> rfl

theorem perform_rename (source target : String) :
    (rename source target).perform = Share.attempt (rename source target).call (fun _ ↦ .ok)
      fun _ ↦ (rename source target).ask := by
  unfold perform Share.rename
  refine attempt_congr fun _ store ↦ ?_
  simp only [ask, question?, bind, Except.bind]
  cases hsource : Url.names? source with
  | error errno => simp [Except.mapError, refusal, hsource, call]
  | ok froms =>
    cases htarget : Url.names? target with
    | error errno => simp [Except.mapError, refusal, hsource, htarget, call]
    | ok tos =>
      -- from here on, all failures are put down to the first URL
      have hrefusal :
          (rename source target).refusal = Share.failure (rename source target).call := by
        funext errno
        simp [refusal, hsource, htarget]
      simp only [hrefusal, Except.mapError]
      cases store.steps? source with
      | error errno => rfl
      | ok fromSteps =>
        cases store.steps? target with
        | error errno => rfl
        | ok toSteps =>
          simp only [pure, Except.pure, FileSystem.serve, Except.map]
          cases store.fs.rename store.root fromSteps toSteps <;> rfl

/-- **An operation is its question and what it makes of the answer.** -/
theorem perform_eq (asked : UrlCall) :
    asked.perform = Share.attempt asked.call (fun _ ↦ .ok) fun _ ↦ asked.ask := by
  cases asked with
  | openFile url mode => exact perform_openFile url mode
  | rename source target => exact perform_rename source target
  | openDirectory url | stat url | linkStat url =>
    simp only [perform, Share.openDirectory, Share.stat, Share.linkStat, Share.inspect]
    refine attempt_congr fun _ store ↦ ?_
    simp only [ask, question?, bind, Except.bind]
    cases store.steps? url with
    | error errno => rfl
    | ok steps =>
      simp only [Except.map, FileSystem.serve]
      split <;> rfl
  | makeDirectory url | removeDirectory url | unlink url =>
    simp only [perform, Share.makeDirectory, Share.removeDirectory, Share.unlink, Share.change]
    refine attempt_congr fun _ store ↦ ?_
    simp only [ask, question?, bind, Except.bind]
    cases store.steps? url with
    | error errno => rfl
    | ok steps =>
      simp only [Except.map, FileSystem.serve]
      split <;> rename_i heq <;> rw [heq] <;> rfl

/-- **The routes of a question are what the URLs stand for.** -/
theorem routes_of_question? {asked : UrlCall} {store : Store} {question : Question}
    (h : asked.question? store = .ok question) :
    List.Forall₂ (fun url steps ↦ ∃ names, Url.names? url = .ok names ∧ steps = names.map .name)
      asked.urls question.routes := by
  have hsingle {url : String} {make : List Step → Question}
      (h : (store.steps? url).map make = .ok question) :
      ∃ names, Url.names? url = .ok names ∧ question = make (names.map .name) := by
    cases hsteps : store.steps? url with
    | error errno => simp [hsteps, Except.map] at h
    | ok steps =>
      obtain ⟨names, hnames, rfl⟩ := Store.steps?_cases hsteps
      exact ⟨names, hnames, by simpa [hsteps, Except.map, eq_comm] using h⟩
  cases asked with
  | rename source target =>
    obtain ⟨_, -, h⟩ := FileSystem.bind_eq_ok.1 h
    obtain ⟨_, -, h⟩ := FileSystem.bind_eq_ok.1 h
    obtain ⟨fromSteps, hfrom, h⟩ := FileSystem.bind_eq_ok.1 h
    obtain ⟨toSteps, hto, h⟩ := FileSystem.bind_eq_ok.1 h
    obtain rfl := Except.ok.inj h
    exact .cons (Store.steps?_cases hfrom) (.cons (Store.steps?_cases hto) .nil)
  | openFile url mode =>
    cases mode <;>
    · obtain ⟨names, hnames, rfl⟩ := hsingle h
      exact .cons ⟨names, hnames, rfl⟩ .nil
  | _ url =>
    obtain ⟨names, hnames, rfl⟩ := hsingle h
    exact .cons ⟨names, hnames, rfl⟩ .nil

end UrlCall

/-! ### Below the root -/

/-- **No URL leads out of the root.** A URL is refused as invalid exactly if it has nothing but
slashes behind its scheme, and for lack of access exactly if, that not being so, one of its parts is
a dot or two dots. Otherwise it stands for its parts that are not empty, in order, all of them plain
names, so that the root extended by them is a path below the root. And all that an operation of a
share makes of the file system is one question, with a route for each URL that it takes, all of them
from the root to such a path: so it is for both ends of a rename. -/
theorem Share.urls_stay_below_root :
    (∀ url : String,
      (Url.names? url = .error .invalid ↔ ∀ c ∈ Url.dropScheme url.toList, c = '/') ∧
      (Url.names? url = .error .accessDenied ↔ (¬ ∀ c ∈ Url.dropScheme url.toList, c = '/') ∧
        ∃ part ∈ Url.cut url, part = ['.'] ∨ part = ['.', '.']) ∧
      (∀ errno, Url.names? url = .error errno → errno = .invalid ∨ errno = .accessDenied) ∧
      ∀ names, Url.names? url = .ok names →
        names = ((Url.cut url).filter (· ≠ [])).map (fun part ↦ (String.ofList part).toUTF8) ∧
          ∀ root : Path, Path.IsBelow root (root ++ names)) ∧
    ∀ asked : UrlCall,
      asked.perform = attempt asked.call (fun _ ↦ .ok) (fun _ ↦ asked.ask) ∧
      ∀ store question, asked.question? store = .ok question →
        List.Forall₂ (fun url steps ↦ ∃ names, Url.names? url = .ok names ∧
          steps = names.map .name ∧ Path.IsBelow store.root (store.root ++ names))
          asked.urls question.routes := by
  refine ⟨fun url ↦ ⟨Url.names?_eq_invalid_iff, Url.names?_eq_accessDenied_iff,
    fun errno ↦ Url.names?_eq_error, fun names ↦ Url.names?_eq_cut⟩,
    fun asked ↦ ⟨asked.perform_eq, fun store question h ↦ ?_⟩⟩
  refine (UrlCall.routes_of_question? h).imp fun url steps ⟨names, hnames, hsteps⟩ ↦ ?_
  exact ⟨names, hnames, hsteps, (Url.names?_eq_cut hnames).2 store.root⟩

end FileShare
