import FileShare.Proofs.Endings
import FileShare.Proofs.Refusals

/-!
# A listing in pages

The responder takes the entries of a directory one by one, leaves out those that do not belong into
the listing, and sends the others in pages. The initiator puts the pages together again. This module
says what is sent, entry by entry, for whatever the directory gives out.

* **What a directory gives out** (`Directory.yield`): so many of its entries, and then its end or a
  failure.
* **What is sent** (`Listing.output`): pages that are full, a last one that is not, and one message
  that ends the listing; or full pages, and one that tells the failure (`Listing.exists_pages`).
  `Listing.fill` cuts the pages. Nothing is lost, doubled or moved (`Listing.fill_flatten`), and a
  page is sent as soon as it is full (`Listing.length_of_mem_fill`, `Listing.length_fill`).
* **Both ends** (`Side.listing_complete`): the responder sends that and nothing else, all of it once
  its job has found room often enough (`Side.says_output`); the initiator that takes it reports the
  entries, in the order in which the directory gave them out.

The step lemma is a law of conservation (`Job.Lists.step`): what a step has queued, together with
what is still to be said after it, is what was to be said before.
-/

namespace FileShare

/-! ### The entries of a listing -/

/-- **An entry that belongs into a listing.** The names of the directory itself, of the one above it
and of unfinished uploads do not, and neither do hidden entries and files, if they are not asked
for. -/
structure Entry.Belongs (options : ListingOptions) (entry : Entry) : Prop where
  ne_self : entry.name ≠ "."
  ne_above : entry.name ≠ ".."
  /-- An unfinished upload has a dot, something, and the suffix. -/
  not_upload : ¬∃ middle : List Char, middle ≠ [] ∧
    entry.name.toList = '.' :: middle ++ temporarySuffix.toList
  shown : entry.stat.hidden = true → options.showHidden = true
  folder : options.onlyFolders = true → entry.stat.isDirectory = true

theorem isTemporaryName_iff {name : String} : isTemporaryName name = true ↔
    ∃ middle : List Char, middle ≠ [] ∧ name.toList = '.' :: middle ++ temporarySuffix.toList := by
  unfold isTemporaryName
  simp only [Bool.and_eq_true, decide_eq_true_eq, beq_iff_eq, List.isSuffixOf_iff_suffix]
  constructor
  · rintro ⟨⟨hlength, hhead⟩, front, hfront⟩
    cases front with
    | nil =>
      rw [← hfront] at hlength
      exact absurd hlength (by simp)
    | cons first middle =>
      rw [← hfront] at hhead hlength
      obtain rfl : first = '.' := by simpa using hhead
      refine ⟨middle, fun hnil ↦ ?_, hfront.symm⟩
      subst hnil
      exact absurd hlength (by simp)
  · rintro ⟨middle, hmiddle, hname⟩
    rw [hname]
    refine ⟨⟨?_, rfl⟩, ⟨'.' :: middle, rfl⟩⟩
    have := List.length_pos_iff.2 hmiddle
    simp only [List.length_append, List.length_cons]
    omega

/-- **The responder lists what belongs into the listing.** -/
theorem Producer.isListed_iff {options : ListingOptions} {entry : Entry} :
    isListed options entry = true ↔ entry.Belongs options := by
  have hupload := @isTemporaryName_iff entry.name
  unfold isListed
  constructor
  · intro h
    simp only [Bool.and_eq_true, Bool.or_eq_true, Bool.not_eq_true', Bool.or_eq_false_iff,
      decide_eq_false_iff_not] at h
    obtain ⟨⟨⟨⟨hself, habove⟩, htemporary⟩, hshown⟩, hfolder⟩ := h
    refine ⟨hself, habove, fun hmark ↦ ?_, fun hhidden ↦ ?_, fun honly ↦ ?_⟩
    · rw [hupload.2 hmark] at htemporary
      cases htemporary
    · simpa [hhidden] using hshown
    · simpa [honly] using hfolder
  · rintro ⟨hself, habove, hmark, hshown, hfolder⟩
    have htemporary : isTemporaryName entry.name = false := by
      rw [← Bool.not_eq_true, hupload]
      exact hmark
    cases hhidden : entry.stat.hidden <;> cases honly : options.onlyFolders <;>
      simp_all

instance (options : ListingOptions) : DecidablePred (Entry.Belongs options) :=
  fun _ ↦ decidable_of_iff _ Producer.isListed_iff

namespace Listing

/-- What is told about the entries that belong into a listing. -/
def infos (options : ListingOptions) (entries : List Entry) : List FileInfo :=
  (entries.filter (Entry.Belongs options)).map fun entry ↦ entry.stat.toFileInfo entry.name

/-! ### Cutting pages -/

/-- Entries are put into pages of a size. One page may have been begun; those that are full are
told, and what is left. -/
def fill (size : Nat) (page : List FileInfo) : List FileInfo → List (List FileInfo) × List FileInfo
  | [] => ([], page)
  | info :: rest =>
    if (page ++ [info]).length = size then
      ((page ++ [info]) :: (fill size [] rest).1, (fill size [] rest).2)
    else fill size (page ++ [info]) rest

variable {size : Nat} {page : List FileInfo}

/-- **No entry is lost, doubled or moved.** -/
theorem fill_flatten (size : Nat) (page infos : List FileInfo) :
    (fill size page infos).1.flatten ++ (fill size page infos).2 = page ++ infos := by
  induction infos generalizing page with
  | nil => simp [fill]
  | cons info rest ih =>
    unfold fill
    split
    · rw [List.flatten_cons, List.append_assoc, ih [], List.append_assoc]
      rfl
    · rw [ih, List.append_assoc]
      rfl

/-- **A page is full when it is told.** -/
theorem length_of_mem_fill {infos full : List FileInfo} (h : full ∈ (fill size page infos).1) :
    full.length = size := by
  induction infos generalizing page with
  | nil => cases h
  | cons info rest ih =>
    unfold fill at h
    split at h
    · rename_i hfull
      rcases List.mem_cons.1 h with rfl | h
      · exact hfull
      · exact ih h
    · exact ih h

/-- **What is left is no full page.** -/
theorem length_fill (hpage : page.length < size) (infos : List FileInfo) :
    (fill size page infos).2.length < size := by
  induction infos generalizing page with
  | nil => exact hpage
  | cons info rest ih =>
    unfold fill
    split
    · exact ih (Nat.lt_of_le_of_lt (Nat.zero_le _) hpage)
    · refine ih ?_
      rw [List.length_append, List.length_singleton] at *
      omega

end Listing

/-! ### What a directory gives out -/

/-- **What a directory gives out**, entry by entry: how far it comes, and the failure that keeps it
from its end. -/
def Directory.yield (url : String) : List Entry → Store → List Entry × Option ShareError
  | [], store =>
    match (Share.nextEntry ⟨url, []⟩).run.run store with
    | (.error error, _) => ([], some error)
    | (.ok _, _) => ([], none)
  | entry :: rest, store =>
    match (Share.nextEntry ⟨url, entry :: rest⟩).run.run store with
    | (.error error, _) => ([], some error)
    | (.ok _, store) => (entry :: (yield url rest store).1, (yield url rest store).2)

/-- A directory gives its entries out in their order, and all of them unless it fails. -/
theorem Directory.yield_prefix (url : String) (entries : List Entry) (store : Store) :
    (yield url entries store).1 <+: entries ∧
      ((yield url entries store).2 = none → (yield url entries store).1 = entries) := by
  induction entries generalizing store with
  | nil =>
    unfold yield
    split <;> exact ⟨List.nil_prefix, fun _ ↦ rfl⟩
  | cons entry rest ih =>
    unfold yield
    split
    · exact ⟨List.nil_prefix, nofun⟩
    · rename_i store' _
      obtain ⟨hfront, hall⟩ := ih store'
      exact ⟨List.cons_prefix_cons.2 ⟨rfl, hfront⟩, fun hnone ↦ congrArg _ (hall hnone)⟩

namespace Listing

/-! ### What is to be said -/

/-- What is still to be said of a directory, with a page that has been begun. -/
def remaining (requestId : String) (source : ListingSource) (store : Store) : List Message :=
  let (given, failure) := Directory.yield source.directory.url source.directory.entries store
  let (pages, last) :=
    fill source.options.pageSize.toNat source.page (infos source.options given)
  match failure with
  | some error => pages.map (Producer.pageMessage requestId) ++
      [Family.listing.failure requestId (.share error)]
  | none => (pages ++ if last = [] then [] else [last]).map (Producer.pageMessage requestId) ++
      [Family.listing.conclusion requestId]

/-- **What is to be said of a directory**, from its first entry on. -/
def output (requestId : String) (directory : Directory) (options : ListingOptions)
    (store : Store) : List Message :=
  remaining requestId ⟨directory, options, []⟩ store

/-- **What is to be said are pages** that are full, and a last one that is not; together they are
what the directory gave out. A directory that fails does not come to the last page. -/
theorem exists_pages (requestId : String) (directory : Directory) (options : ListingOptions)
    (store : Store) (hsize : options.pageSize ≠ 0) :
    let yielded := Directory.yield directory.url directory.entries store
    ∃ pages last,
      (yielded.2 = none → output requestId directory options store =
        (pages ++ if last = [] then [] else [last]).map (Producer.pageMessage requestId) ++
          [Family.listing.conclusion requestId]) ∧
      (∀ error, yielded.2 = some error → output requestId directory options store =
        pages.map (Producer.pageMessage requestId) ++
          [Family.listing.failure requestId (.share error)]) ∧
      pages.flatten ++ last = infos options yielded.1 ∧
      (∀ page ∈ pages, page.length = options.pageSize.toNat) ∧
      last.length < options.pageSize.toNat := by
  intro yielded
  have hpositive : 0 < options.pageSize.toNat :=
    Nat.pos_of_ne_zero fun hzero ↦ hsize (UInt32.toNat_inj.1 hzero)
  let filled := fill options.pageSize.toNat [] (infos options yielded.1)
  refine ⟨filled.1, filled.2, fun hnone ↦ ?_, fun error hsome ↦ ?_, fill_flatten _ [] _,
    fun page hmem ↦ length_of_mem_fill hmem, length_fill hpositive _⟩
  · simp only [output, remaining, yielded] at hnone ⊢
    rw [hnone]
  · simp only [output, remaining, yielded] at hsome ⊢
    rw [hsome]

/-- The last page counts, whether it is sent or is empty. -/
theorem flatten_pages (pages : List (List FileInfo)) (last : List FileInfo) :
    (pages ++ if last = [] then [] else [last]).flatten = pages.flatten ++ last := by
  split
  · rename_i hlast
    rw [hlast, List.append_nil, List.append_nil]
  · rw [List.flatten_append, List.flatten_singleton]

variable {requestId : String} {source : ListingSource} {store store' : Store}

/-- A directory that fails tells so, and nothing more. -/
theorem remaining_of_error {error : ShareError}
    (h : (Share.nextEntry source.directory).run.run store = (.error error, store')) :
    remaining requestId source store = [Family.listing.failure requestId (.share error)] := by
  obtain ⟨⟨url, entries⟩, options, page⟩ := source
  have hyield : Directory.yield url entries store = ([], some error) := by
    cases entries <;> simp only [Directory.yield, h]
  simp only [remaining, hyield]
  rfl

/-- At the end, the last page is sent, unless there is nothing in it. -/
theorem remaining_of_end {entry : Option Entry} (hentries : source.directory.entries = [])
    (h : (Share.nextEntry source.directory).run.run store = (.ok entry, store')) :
    remaining requestId source store =
      (if source.page = [] then [] else [Producer.pageMessage requestId source.page]) ++
        [Family.listing.conclusion requestId] := by
  obtain ⟨⟨url, entries⟩, options, page⟩ := source
  subst hentries
  have hyield : Directory.yield url [] store = ([], none) := by
    simp only [Directory.yield, h]
  simp only [remaining, hyield]
  change (([] ++ if page = [] then [] else [page]).map _) ++ _ = _
  split <;> rfl

/-- **An entry that is listed** goes into the page, which is sent if that makes it full; any other
one is left out. -/
theorem remaining_of_entry {entry : Entry} {rest : List Entry} {given : Option Entry}
    (hentries : source.directory.entries = entry :: rest)
    (h : (Share.nextEntry source.directory).run.run store = (.ok given, store')) :
    let directory := { source.directory with entries := rest }
    let page := source.page ++ [entry.stat.toFileInfo entry.name]
    remaining requestId source store =
      if Producer.isListed source.options entry then
        if page.length = source.options.pageSize.toNat then
          Producer.pageMessage requestId page ::
            remaining requestId { source with directory, page := [] } store'
        else remaining requestId { source with directory, page } store'
      else remaining requestId { source with directory } store' := by
  obtain ⟨⟨url, entries⟩, options, page⟩ := source
  obtain rfl : entries = entry :: rest := hentries
  have hyield : Directory.yield url (entry :: rest) store =
      (entry :: (Directory.yield url rest store').1, (Directory.yield url rest store').2) := by
    simp only [Directory.yield, h]
  simp only [remaining, hyield]
  by_cases hlisted : Producer.isListed options entry = true
  · have hinfos : infos options (entry :: (Directory.yield url rest store').1) =
        entry.stat.toFileInfo entry.name :: infos options (Directory.yield url rest store').1 := by
      simp [infos, Producer.isListed_iff.1 hlisted]
    rw [if_pos hlisted, hinfos, fill]
    by_cases hfull : (page ++ [entry.stat.toFileInfo entry.name]).length = options.pageSize.toNat
    · rw [if_pos hfull, if_pos hfull]
      cases (Directory.yield url rest store').2 <;> rfl
    · rw [if_neg hfull, if_neg hfull]
  · have hinfos : infos options (entry :: (Directory.yield url rest store').1) =
        infos options (Directory.yield url rest store').1 := by
      simp [infos, mt Producer.isListed_iff.2 hlisted]
    rw [if_neg hlisted, hinfos]

end Listing

/-! ### The job -/

namespace Job

/-- **What a job that lists a directory has still to say.** -/
inductive Lists (requestId : String) (store : Store) : Job → List Message → Prop where
  | working {source : ListingSource} {offer : Option Message} {sent : UInt64} :
      Lists requestId store
        ⟨.responder, .listing, requestId, .listing source, offer, sent, false⟩
        (offer.toList ++ Listing.remaining requestId source store)
  | listed {offer : Option Message} {sent : UInt64} :
      Lists requestId store ⟨.responder, .listing, requestId, .listed, offer, sent, false⟩
        (offer.toList ++ [Family.listing.conclusion requestId])
  | finished {offer : Option Message} {sent : UInt64} :
      Lists requestId store ⟨.responder, .listing, requestId, .finished, offer, sent, false⟩
        offer.toList
  | ended {job : Job} (hended : job.isEnded = true) : Lists requestId store job []

variable {requestId : String} {job job' : Job} {world world' : World Channel}
variable {status : JobStatus} {left : List Message}

/-- What has been queued and what is still to be said, after a step. -/
def Conserves (requestId : String) (left : List Message) (world : World Channel) (job' : Job)
    (world' : World Channel) : Prop :=
  ∃ messages left', left = messages ++ left' ∧
    world'.outlet.underway = world.outlet.underway ++ messages ∧
    job'.Lists requestId world'.store left'

/-- A step in which nothing is queued. -/
theorem Conserves.quiet (houtlet : world'.outlet = world.outlet)
    (hlists : job'.Lists requestId world'.store left) :
    Conserves requestId left world job' world' :=
  ⟨[], left, rfl, by rw [houtlet, List.append_nil], hlists⟩

/-- To offer a message makes no call. -/
theorem store_of_offerOnce {message : Message} (hrole : job.role = .responder)
    (hrun : (job.offerOnce message).run world = ((status, job'), world')) :
    world'.store = world.store := by
  rcases offerOnce_cases hrun with ⟨rfl, -⟩ | ⟨hchannel, -⟩ | ⟨cause, mid, hchannel, -, -, rfl⟩
  · rfl
  · exact hchannel.store
  · rw [hrole]
    exact hchannel.store

/-- **A message in hand is queued**, or there is no room for it. -/
theorem Conserves.offer {producer : Producer} {message : Message} {sent : UInt64}
    (hjob : job = ⟨.responder, .listing, requestId, producer, some message, sent, false⟩)
    (hlists : job.Lists requestId world.store (message :: left))
    (hnext : ∀ sent, Lists requestId world.store
      ⟨.responder, .listing, requestId, producer, none, sent, false⟩ left)
    (hfits : ∃ packet, Packet.ofMessage message = .ok packet) (hup : world.outlet.isUp = true)
    (hgoes : world.outlet.isCancelled = false)
    (hrun : job.step.run world = ((status, job'), world')) :
    Conserves requestId (message :: left) world job' world' := by
  subst hjob
  have hoffer : (offerOnce ⟨.responder, .listing, requestId, producer, some message, sent, false⟩
      message).run world = ((status, job'), world') := by
    rwa [step_run] at hrun
  have hstore := store_of_offerOnce rfl hoffer
  rcases offerOnce_up rfl hup hgoes hoffer with ⟨-, rfl, rfl⟩ | ⟨fault, hfault, -⟩ | ⟨rfl, hqueued⟩
  · exact .quiet rfl hlists
  · obtain ⟨packet, hpacket⟩ := hfits
    rw [hfault] at hpacket
    cases hpacket
  · exact ⟨[message], left, rfl, hqueued, hstore ▸ hnext _⟩

/-- **The next entry of a directory** is taken, or its end or its failure shows. -/
theorem Conserves.take {source : ListingSource} {sent : UInt64}
    (hjob : job = ⟨.responder, .listing, requestId, .listing source, none, sent, false⟩)
    (hfits : ∀ message ∈ Listing.remaining requestId source world.store,
      ∃ packet, Packet.ofMessage message = .ok packet) (hup : world.outlet.isUp = true)
    (hgoes : world.outlet.isCancelled = false)
    (hrun : job.step.run world = ((status, job'), world')) :
    Conserves requestId (Listing.remaining requestId source world.store) world job' world' := by
  subst hjob
  have hcancelled : Outlet.isCancelled world.outlet = false := hgoes
  rcases hcall : (Share.nextEntry source.directory).run.run world.store with ⟨given, store⟩
  have hadvance := Producer.advanceListing_run requestId false source world
  simp only [hcall, Bool.false_eq_true, if_false] at hadvance
  rw [step_of_advance rfl rfl (hcancelled ▸ hadvance)] at hrun
  cases given with
  | error error =>
    change (failWith ⟨.responder, .listing, requestId, .listing source, none, sent, false⟩
      (.share error)).run { world with store } = _ at hrun
    have hmid : ({ world with store } : World Channel).outlet.isUp = true := hup
    obtain ⟨rfl, ⟨fault, hfault, -⟩ | htold⟩ := failWith_up error rfl hmid hrun
    · obtain ⟨packet, hpacket⟩ := hfits _ (by
        rw [Listing.remaining_of_error hcall]
        exact List.mem_singleton_self _)
      rw [hpacket] at hfault
      cases hfault
    · exact ⟨_, [], (Listing.remaining_of_error hcall).trans (List.append_nil _).symm, htold,
        .ended rfl⟩
  | ok given =>
    have hgiven : given = source.directory.entries.head? := by
      rcases Share.nextEntry_cases hcall with ⟨error, herror⟩ | hok
      · cases herror
      · exact Except.ok.inj hok
    cases hentries : source.directory.entries with
    | nil =>
      rw [Listing.remaining_of_end hentries hcall]
      rw [hentries] at hgiven
      subst hgiven
      dsimp only [List.head?_nil] at hrun
      by_cases hpage : source.page = []
      · rw [if_pos hpage] at hrun
        rw [if_pos hpage]
        obtain ⟨-, rfl, rfl⟩ := run_inj hrun
        exact .quiet rfl .finished
      · rw [if_neg hpage] at hrun
        rw [if_neg hpage]
        obtain ⟨-, rfl, rfl⟩ := run_inj hrun
        exact .quiet rfl .listed
    | cons entry rest =>
      rw [Listing.remaining_of_entry hentries hcall]
      rw [hentries] at hgiven
      subst hgiven
      rw [hentries, List.tail_cons] at hrun
      dsimp only [List.head?_cons] at hrun ⊢
      by_cases hlisted : Producer.isListed source.options entry = true
      · rw [if_pos hlisted] at hrun
        rw [if_pos hlisted]
        by_cases hfull : (source.page ++ [entry.stat.toFileInfo entry.name]).length =
            source.options.pageSize.toNat
        · rw [if_pos hfull] at hrun
          rw [if_pos hfull]
          obtain ⟨-, rfl, rfl⟩ := run_inj hrun
          exact .quiet rfl .working
        · rw [if_neg hfull] at hrun
          rw [if_neg hfull]
          obtain ⟨-, rfl, rfl⟩ := run_inj hrun
          exact .quiet rfl .working
      · rw [if_neg hlisted] at hrun
        rw [if_neg hlisted]
        obtain ⟨-, rfl, rfl⟩ := run_inj hrun
        exact .quiet rfl .working

/-- **A step keeps what is said and what is to be said together**, while the connection is in order,
nobody has told the job to stop, and all that is to be said makes packets. -/
theorem Lists.step (h : job.Lists requestId world.store left)
    (hfits : ∀ message ∈ left, ∃ packet, Packet.ofMessage message = .ok packet)
    (hup : world.outlet.isUp = true) (hgoes : world.outlet.isCancelled = false)
    (hrun : job.step.run world = ((status, job'), world')) :
    Conserves requestId left world job' world' := by
  have hlists := h
  -- the cases are what the job takes its messages from, and whether it has one in hand
  cases h with
  | @working source offer sent =>
    cases offer with
    | none => exact .take rfl hfits hup hgoes hrun
    | some message =>
      exact .offer rfl hlists (fun _ ↦ .working) (hfits _ List.mem_cons_self) hup hgoes hrun
  | @listed offer sent =>
    cases offer with
    | none =>
      have hnext : (Producer.listed.advance requestId (Outlet.isCancelled world.outlet)).run world =
          (.message (Family.listing.conclusion requestId) .finished, world) := rfl
      rw [step_of_advance rfl rfl hnext] at hrun
      obtain ⟨-, rfl, rfl⟩ := run_inj hrun
      exact .quiet rfl .finished
    | some message =>
      exact .offer rfl hlists (fun _ ↦ .listed) (hfits _ List.mem_cons_self) hup hgoes hrun
  | @finished offer sent =>
    cases offer with
    | none =>
      have hstop : (Producer.finished.advance requestId (Outlet.isCancelled world.outlet)).run
          world = (.stop, world) := rfl
      rw [step_of_advance rfl rfl hstop] at hrun
      obtain ⟨-, rfl, rfl⟩ := run_inj hrun
      exact .quiet rfl (.ended rfl)
    | some message =>
      exact .offer rfl hlists (fun _ ↦ .finished) (hfits _ List.mem_cons_self) hup hgoes hrun
  | ended hended =>
    rw [step_run, if_pos hended] at hrun
    obtain ⟨-, rfl, rfl⟩ := run_inj hrun
    exact .quiet rfl (.ended hended)

/-- A job that has ended has nothing to say. -/
theorem Lists.eq_nil (h : job.Lists requestId world.store left) (hended : job.isEnded = true) :
    left = [] := by
  cases h with
  | ended => rfl
  | _ => cases hended

/-- A step of a job leaves the state of the connection to others, and so does it being told to
stop. -/
theorem step_keeps_channel (hrun : job.step.run world = ((status, job'), world')) :
    world'.outlet.isUp = world.outlet.isUp ∧
      world'.outlet.isCancelled = world.outlet.isCancelled := by
  obtain ⟨messages, hqueues, -⟩ := (job.step_matches (.refl world) rfl).queues
  rw [hrun, World.Queues] at hqueues
  rw [hqueues]
  exact ⟨rfl, rfl⟩

end Job

namespace Side

variable {requestId : String}

/-! ### The responder -/

/-- **While a job lists a directory** and messages go on their way, what is queued comes from what
is to be said, in order, and every step that finds room brings the end nearer. -/
theorem lists_liveAll {side : Side} {job : Job} {left said : List Message}
    (hexchange : side.exchange = ⟨requestId, .responder (.listing (some job))⟩)
    (hlists : job.Lists requestId side.world.store left)
    (hstands : job.Stands requestId .listing said)
    (hfits : ∀ message ∈ left, ∃ packet, Packet.ofMessage message = .ok packet)
    (hup : side.world.outlet.isUp = true) (hgoes : side.world.outlet.isCancelled = false)
    (moments : List Moment)
    (hmoments : ∀ moment ∈ moments, moment = .work ∨ moment = .meets .transmit) :
    ∃ job' messages left',
      (side.liveAll moments).exchange = ⟨requestId, .responder (.listing (some job'))⟩ ∧
      (side.liveAll moments).world.outlet.underway = side.world.outlet.underway ++ messages ∧
      left = messages ++ left' ∧
      job'.Lists requestId (side.liveAll moments).world.store left' ∧
      job'.stepsLeft ≤ job.stepsLeft - (side.rooms moments).count true := by
  induction moments generalizing side job left said with
  | nil => exact ⟨job, [], left, hexchange, (List.append_nil _).symm, rfl, hlists, Nat.le_refl _⟩
  | cons moment rest ih =>
    obtain ⟨hmoment, hrest⟩ := List.forall_mem_cons.1 hmoments
    rcases hmoment with rfl | rfl
    · rcases hrun : job.step.run side.world with ⟨⟨status, next⟩, world'⟩
      have hwork : side.work = ⟨side.settings, ⟨requestId, .responder (.listing (some next))⟩,
          world'⟩ := work_of_run hexchange rfl hrun
      obtain ⟨messages, left', rfl, hqueued, hlists'⟩ := hlists.step hfits hup hgoes hrun
      obtain ⟨⟨more, -, hstands'⟩, hleft⟩ := hstands.step hup hgoes hrun
      obtain ⟨hkeepsUp, hkeepsGoes⟩ := Job.step_keeps_channel hrun
      obtain ⟨job', messages', left'', hexchange', hqueued', rfl, hlists'', hcount⟩ :=
        @ih ⟨side.settings, ⟨requestId, .responder (.listing (some next))⟩, world'⟩ next left' _
          rfl hlists' hstands' (fun message hmem ↦ hfits message (List.mem_append_right _ hmem))
          (hkeepsUp.trans hup) (hkeepsGoes.trans hgoes) hrest
      have hafter : side.liveAll (.work :: rest) = Side.liveAll
          ⟨side.settings, ⟨requestId, .responder (.listing (some next))⟩, world'⟩ rest :=
        congrArg (·.liveAll rest) hwork
      refine ⟨job', messages ++ messages', left'', ?_, ?_, (List.append_assoc ..).symm, ?_, ?_⟩
      · rw [hafter, hexchange']
      · rw [hafter, hqueued', hqueued, List.append_assoc]
      · rw [hafter]
        exact hlists''
      · rw [rooms, hwork, List.count_cons]
        cases hspace : Outlet.hasSpace side.world.outlet
        all_goals
          rw [hspace] at hleft
          simp at hleft ⊢
          omega
    · have halike := side.alike_transmit
      obtain ⟨job', messages, left', hexchange', hqueued, hmessages, hlists', hcount⟩ :=
        @ih (side.onChannel Channel.transmit) job left said hexchange hlists hstands hfits
          (halike.world.isUp.trans hup) (halike.world.isCancelled.trans hgoes) hrest
      refine ⟨job', messages, left', hexchange', ?_, hmessages, hlists', hcount⟩
      exact hqueued.trans (congrArg (· ++ messages) (Channel.underway_transmit _))

/-- **A request that opens a directory starts the job that lists it**, from its first entry on. -/
theorem starts_listing {side : Side} {job : Option Job} {message : Message}
    {source : ListingSource} {mid : World Channel}
    (hexchange : side.exchange = ⟨requestId, .responder (.listing job)⟩)
    (hcheck : side.exchange.check message = .ok .listingInitReq)
    (hopen : (Listing.openListing requestId message).run.run side.world =
      (.ok (some source), mid)) :
    (side.process message).exchange = ⟨requestId, .responder (.listing
      (some (.start .responder .listing requestId (.listing source) 0)))⟩ := by
  have hanswer : ∃ world', (Listing.answer requestId message job).run side.world =
      ((.ok (), some (.start .responder .listing requestId (.listing source) 0)), world') :=
    ⟨_, (run_bind_of_run hopen).trans rfl⟩
  obtain ⟨world', hanswer⟩ := hanswer
  have hstate : (Responder.handle side.settings requestId .listingInitReq message
      (.listing job)).run side.world = ((.ok (), .listing
        (some (.start .responder .listing requestId (.listing source) 0))), world') :=
    (run_bind_of_run hanswer).trans rfl
  have hhandle : (side.exchange.handle side.settings .listingInitReq message).run side.world =
      ((.ok (), ⟨requestId, .responder (.listing
        (some (.start .responder .listing requestId (.listing source) 0)))⟩), world') := by
    rw [hexchange]
    exact (run_bind_of_run hstate).trans rfl
  rw [process_eq hcheck, hhandle]

/-! ### The initiator -/

/-- **An initiator puts the pages together.** -/
theorem foldl_process_pages {client : Side} {entries : List FileInfo}
    (hexchange : client.exchange = ⟨requestId, .initiator (.listing entries)⟩)
    (pages : List (List FileInfo)) :
    (pages.map (Producer.pageMessage requestId)).foldl process client =
      { client with
        exchange := ⟨requestId, .initiator (.listing (entries ++ pages.flatten))⟩ } := by
  induction pages generalizing client entries with
  | nil => simp [← hexchange]
  | cons page rest ih =>
    have hcheck : client.exchange.check (Producer.pageMessage requestId page) =
        .ok .listingInitResp := by
      rw [hexchange]
      exact Exchange.check_eq_ok rfl (Message.command?_of ..) rfl rfl
    have hprocess := process_initiator hexchange hcheck rfl
    rw [List.map_cons, List.foldl_cons, hprocess, ih rfl, List.flatten_cons, List.append_assoc]
    rfl

/-- **The end of a listing is reported**, with the entries of all pages. -/
theorem outcome_of_conclusion {client : Side} {entries : List FileInfo}
    (hexchange : client.exchange = ⟨requestId, .initiator (.listing entries)⟩)
    (hnone : client.world.outcome = none) :
    (client.process (Family.listing.conclusion requestId)).world.outcome =
      some (.completed entries 0) := by
  have hcheck : client.exchange.check (Family.listing.conclusion requestId) =
      .ok .listingEndResp := by
    rw [hexchange]
    exact Exchange.check_eq_ok rfl (Message.command?_of ..) rfl rfl
  rw [process_initiator hexchange hcheck rfl]
  exact congrArg (·.or (some (.completed entries 0))) hnone

/-- **A failure of the directory is reported** under its number. -/
theorem outcome_of_failure {client : Side} {entries : List FileInfo}
    (hexchange : client.exchange = ⟨requestId, .initiator (.listing entries)⟩)
    (hnone : client.world.outcome = none) (error : ShareError) :
    (client.process (Family.listing.failure requestId (.share error))).world.outcome =
      some (.failed error.errno.code error.errno.description) := by
  have hcheck : client.exchange.check (Family.listing.failure requestId (.share error)) =
      .ok .listingErrorResp := by
    rw [hexchange]
    exact Exchange.check_eq_ok rfl (Message.command?_of ..) rfl rfl
  have hrefused : (Initiator.handle client.settings requestId .listingErrorResp
      (Family.listing.failure requestId (.share error)) (.listing entries)).run client.world =
        ((.error (.ofPeer .listingErrorResp (Family.listing.failure requestId (.share error))),
          .listing entries), client.world) := rfl
  rw [process_initiator hexchange hcheck hrefused]
  dsimp only
  rw [hnone]
  rfl

/-! ### Both ends -/

/-- **The job queues what is to be said**, in order, and all of it once it has found room often
enough. -/
theorem says_output {side : Side} {url : String} {entries : List Entry} {options : ListingOptions}
    (hexchange : side.exchange = ⟨requestId, .responder (.listing (some
      (.start .responder .listing requestId (.listing ⟨⟨url, entries⟩, options, []⟩) 0)))⟩)
    (hup : side.world.outlet.isUp = true) (hgoes : side.world.outlet.isCancelled = false)
    (hfits : ∀ message ∈ Listing.output requestId ⟨url, entries⟩ options side.world.store,
      ∃ packet, Packet.ofMessage message = .ok packet) (moments : List Moment)
    (hmoments : ∀ moment ∈ moments, moment = .work ∨ moment = .meets .transmit) :
    let output := Listing.output requestId ⟨url, entries⟩ options side.world.store
    ∃ said, (side.liveAll moments).world.outlet.underway = side.world.outlet.underway ++ said ∧
      said <+: output ∧
      (2 * entries.length + 5 ≤ (side.rooms moments).count true → said = output) := by
  intro output
  have hstands : (Job.start .responder .listing requestId
      (.listing ⟨⟨url, entries⟩, options, []⟩) 0).Stands requestId .listing [] :=
    .working (.listing _) nofun nofun
  obtain ⟨job, said, left, -, hqueued, hsaid, hlists, hcount⟩ :=
    lists_liveAll hexchange .working hstands hfits hup hgoes moments hmoments
  refine ⟨said, hqueued, ⟨left, hsaid.symm⟩, fun henough ↦ ?_⟩
  -- a job that has used up all its steps has ended, and nothing is left to say
  have hended : job.isEnded = true := by
    by_contra hgoing
    have hpos := job.producer.stepsLeft_pos
    rw [Job.stepsLeft, if_neg hgoing] at hcount
    change _ ≤ 2 * entries.length + 5 + 0 - _ at hcount
    omega
  rw [hlists.eq_nil hended, List.append_nil] at hsaid
  exact hsaid.symm

/-- **A listing is complete and exact**, whatever the directory gives out. The job is the one that a
request which opens the directory starts. While it works and messages go on their way, it queues
nothing but what is to be said, in order, and all of it once it has found room often enough. What is
to be said are pages that are full, a last one if something is left, and the end; or full pages and
the failure of the directory. Put together, the pages are what the directory gave out and what
belongs into the listing. An initiator that is told so reports it. -/
theorem listing_complete {side : Side} {url : String} {entries : List Entry}
    {options : ListingOptions} (hexchange : side.exchange = ⟨requestId, .responder (.listing (some
      (.start .responder .listing requestId (.listing ⟨⟨url, entries⟩, options, []⟩) 0)))⟩)
    (hsize : options.pageSize ≠ 0)
    (hup : side.world.outlet.isUp = true) (hgoes : side.world.outlet.isCancelled = false)
    (hfits : ∀ message ∈ Listing.output requestId ⟨url, entries⟩ options side.world.store,
      ∃ packet, Packet.ofMessage message = .ok packet) :
    let output := Listing.output requestId ⟨url, entries⟩ options side.world.store
    let given := (Directory.yield url entries side.world.store).1
    let failure := (Directory.yield url entries side.world.store).2
    let infos := (given.filter (Entry.Belongs options)).map fun entry ↦
      entry.stat.toFileInfo entry.name
    (∀ (asked : Side) (job : Option Job) (message : Message) (mid : World Channel),
      asked.exchange = ⟨requestId, .responder (.listing job)⟩ →
      asked.exchange.check message = .ok .listingInitReq →
      (Listing.openListing requestId message).run.run asked.world =
          (.ok (some ⟨⟨url, entries⟩, options, []⟩), mid) →
        (asked.process message).exchange = side.exchange) ∧
    (∀ moments : List Moment,
      (∀ moment ∈ moments, moment = .work ∨ moment = .meets .transmit) →
        ∃ said, (side.liveAll moments).world.outlet.underway =
            side.world.outlet.underway ++ said ∧ said <+: output ∧
          (2 * entries.length + 5 ≤ (side.rooms moments).count true → said = output)) ∧
    (∃ pages last,
      (failure = none → output = (pages ++ if last = [] then [] else [last]).map
        (Producer.pageMessage requestId) ++ [.bare requestId .listingEndResp]) ∧
      (∀ error, failure = some error → output = pages.map (Producer.pageMessage requestId) ++
        [.of requestId .listingErrorResp
          (.status ⟨error.errno.code, error.errno.description⟩)]) ∧
      pages.flatten ++ last = infos ∧
      (∀ page ∈ pages, page.length = options.pageSize.toNat) ∧
      last.length < options.pageSize.toNat) ∧
    (given <+: entries ∧ (failure = none → given = entries)) ∧
    ∀ client : Side, client.exchange = ⟨requestId, .initiator (.listing [])⟩ →
      client.world.outcome = none →
        (failure = none →
          (output.foldl process client).world.outcome = some (.completed infos 0)) ∧
        ∀ error, failure = some error → (output.foldl process client).world.outcome =
          some (.failed error.errno.code error.errno.description) := by
  intro output given failure infos
  obtain ⟨pages, last, hwhole, hbroken, hpages⟩ :=
    Listing.exists_pages requestId ⟨url, entries⟩ options side.world.store hsize
  refine ⟨fun asked job message mid hasked hcheck hopen ↦ ?_,
    says_output hexchange hup hgoes hfits, ⟨pages, last, hwhole, hbroken, hpages⟩,
    Directory.yield_prefix url entries side.world.store,
    fun client hclient houtcome ↦ ⟨fun hnone ↦ ?_, fun error hsome ↦ ?_⟩⟩
  · rw [hexchange]
    exact starts_listing hasked hcheck hopen
  · have houtput : output = _ := hwhole hnone
    rw [houtput, List.foldl_append, foldl_process_pages hclient, Listing.flatten_pages, hpages.1]
    exact @outcome_of_conclusion requestId { client with exchange := _ } _ rfl houtcome
  · have houtput : output = _ := hbroken error hsome
    rw [houtput, List.foldl_append, foldl_process_pages hclient]
    exact @outcome_of_failure requestId { client with exchange := _ } _ rfl houtcome error

/-- A directory that gives out itself, a file, a hidden file, and two folders. -/
def smallFolder : List Entry :=
  [⟨".", .bareDirectory⟩, ⟨"a", ⟨false, false, false, 1, 0, 0⟩⟩,
    ⟨".b", ⟨false, false, true, 1, 0, 0⟩⟩, ⟨"c", .bareDirectory⟩, ⟨"d", .bareDirectory⟩]

/-- A responder that is about to list that directory, in pages of two entries. -/
def folderLister : Side :=
  { smallLister with exchange := ⟨"7", .responder (.listing (some
      (.start .responder .listing "7" (.listing ⟨⟨"srv/box", smallFolder⟩, ⟨2, false, false⟩, []⟩)
        0)))⟩ }

/-- Its job works, and whatever it has queued goes on its way. -/
def folderMoments : List Moment :=
  (List.replicate 15 [.work, .meets .transmit]).flatten

theorem listing_complete_folderLister :
    let output := Listing.output "7" ⟨"srv/box", smallFolder⟩ ⟨2, false, false⟩
      folderLister.world.store
    folderLister.world.outlet.isUp = true ∧ folderLister.world.outlet.isCancelled = false ∧
    (∀ message ∈ output, ∃ packet, Packet.ofMessage message = .ok packet) ∧
    (folderLister.liveAll folderMoments).world.outlet.underway = output ∧
    output.map (fun message ↦ (message.command?, (Listing.pageEntries message).map (·.name))) =
      [(some .listingInitResp, ["a", "c"]), (some .listingInitResp, ["d"]),
        (some .listingEndResp, [])] := by
  intro output
  have hall : (output.all fun message ↦ (Packet.ofMessage message).isOk) = true := by
    decide +kernel
  have hfits : ∀ message ∈ output, ∃ packet, Packet.ofMessage message = .ok packet := by
    intro message hmem
    have hok := List.all_eq_true.1 hall message hmem
    cases hpacket : Packet.ofMessage message with
    | ok packet => exact ⟨packet, rfl⟩
    | error fault =>
      rw [hpacket] at hok
      cases hok
  have hmoments : ∀ moment ∈ folderMoments, moment = .work ∨ moment = .meets .transmit := by
    decide +kernel
  obtain ⟨-, hruns, -⟩ := @listing_complete "7" folderLister "srv/box" smallFolder ⟨2, false, false⟩
    rfl (by decide) rfl rfl hfits
  obtain ⟨said, hqueued, -, hsaid⟩ := hruns folderMoments hmoments
  rw [hsaid (by decide +kernel)] at hqueued
  exact ⟨rfl, rfl, hfits, hqueued, by decide +kernel⟩

end Side

end FileShare
