import Mathlib.Algebra.Group.Nat.Defs
import Mathlib.Data.List.Nodup
import FileShare.Proofs.Happenings
import FileShare.Proofs.Ledger
import FileShare.Proofs.UploadRun

/-!
# What becomes of temporary files

A responder of an upload creates a temporary file for every upload that is opened. Each of them is
disposed of once: it is renamed to its target, or an unlink is attempted on it. That is kept as an
account (`Accounts`): the files that were created are those that were renamed, those on which an
unlink was attempted, and the one that is being written. Every way through a message keeps the
account in order (`Receiver.Takes.settles`), so it is in order along every run
(`Side.follow_settles`), and when the responder has quit there is nothing left to be written
(`Side.quit_settles`).

That nothing is left rests on the flags: quitting skips an upload that is finished, and nothing is
being written by a responder that has failed or finished (`Receiver.Sound`).

Temporary files are told apart by their names, and there are `16 ^ 32` of these. An account is one
of how often each name occurs, and says of every single file what became of it as long as no name
was given out twice.
-/

namespace FileShare

/-! ### Temporary names are told apart -/

/-- **So many digits tell all numbers apart that have no more of them.** -/
theorem Hex.digits_inj {count m n : Nat} (hm : m < 16 ^ count) (hn : n < 16 ^ count)
    (h : digits count m = digits count n) : m = n := by
  induction count generalizing m n with
  | zero => omega
  | succ count ih =>
    have hdigit : ∀ a < 16, ∀ b < 16, Nat.digitChar a = Nat.digitChar b → a = b := by decide
    rw [digits, digits] at h
    obtain ⟨hfront, hlast⟩ := List.append_inj' h rfl
    have hlow := hdigit _ (Nat.mod_lt m (by decide)) _ (Nat.mod_lt n (by decide))
      (List.singleton_inj.1 hlast)
    have hhigh := ih (by omega) (by omega) hfront
    omega

/-- **Temporary files have different URLs** as long as the digits of their names suffice. -/
theorem temporaryName_inj {m n : Nat} {url url' : String} (hm : m < 16 ^ 32) (hn : n < 16 ^ 32)
    (h : Url.join url (temporaryName m) = Url.join url' (temporaryName n)) : m = n := by
  have hchars := congrArg String.toList h
  simp only [Url.join, temporaryName, String.toList_append, String.toList_ofList] at hchars
  obtain ⟨-, hname⟩ := List.append_inj' hchars (by simp)
  obtain ⟨hfront, -⟩ := List.append_inj' hname rfl
  exact Hex.digits_inj hm hn (List.append_cancel_left hfront)

/-- URLs of temporary files, numbered in turn from a first number on, before a last one. -/
inductive Numbered : Nat → List String → Nat → Prop
  | nil {first last : Nat} (h : first ≤ last) : Numbered first [] last
  | cons {first last token : Nat} {parent : String} {urls : List String} (hfirst : first ≤ token)
      (h : Numbered (token + 1) urls last) :
      Numbered first (Url.join parent (temporaryName token) :: urls) last

namespace Numbered

variable {first middle last : Nat} {urls urls' : List String}

theorem mono (hle : middle ≤ first) (h : Numbered first urls last) : Numbered middle urls last := by
  cases h with
  | nil h => exact .nil (Nat.le_trans hle h)
  | cons hfirst h => exact .cons (Nat.le_trans hle hfirst) h

theorem append (h : Numbered first urls middle) (h' : Numbered middle urls' last) :
    Numbered first (urls ++ urls') last := by
  induction h with
  | nil hle => exact h'.mono hle
  | cons hfirst _ ih => exact .cons hfirst (ih h')

theorem le (h : Numbered first urls last) : first ≤ last := by
  induction h with
  | nil hle => exact hle
  | cons hfirst _ ih => omega

theorem exists_token (h : Numbered first urls last) {url : String} (hmem : url ∈ urls) :
    ∃ parent token, first ≤ token ∧ token < last ∧
      url = Url.join parent (temporaryName token) := by
  induction h with
  | nil => cases hmem
  | cons hfirst hrest ih =>
    have hlast := hrest.le
    rcases List.mem_cons.1 hmem with rfl | hmem
    · exact ⟨_, _, hfirst, hlast, rfl⟩
    · obtain ⟨parent, token, htoken, hlast, rfl⟩ := ih hmem
      exact ⟨parent, token, by omega, hlast, rfl⟩

/-- **No temporary file has the URL of another one**, as long as the names do not run out. -/
theorem nodup (h : Numbered first urls last) (hlast : last ≤ 16 ^ 32) : urls.Nodup := by
  induction h with
  | nil => exact .nil
  | cons hfirst hrest ih =>
    refine List.nodup_cons.2 ⟨fun hmem ↦ ?_, ih hlast⟩
    obtain ⟨parent, token, htoken, hbefore, heq⟩ := hrest.exists_token hmem
    have hsame := temporaryName_inj (by omega) (by omega) heq
    omega

end Numbered

/-! ### Accounts -/

/-- The URL of the target that a happening names. -/
def Happening.target : Happening → String
  | .message given => (given.credentials?.map (·.url)).getD ""
  | _ => ""

/-- What the calls between two moments tell. -/
def Store.ledger (store store' : Store) : Ledger :=
  .ofLog (store'.calls.toList.drop store.calls.size)

theorem Store.Tells.ledger_eq {store store' : Store} {ledger : Ledger}
    (h : store.Tells store' ledger) : store.ledger store' = ledger := by
  obtain ⟨log, hlog, rfl⟩ := h
  rw [Store.ledger, hlog.calls, List.drop_left' Array.length_toList]

theorem Store.Tells.tokens {store store' : Store} {ledger : Ledger}
    (h : store.Tells store' ledger) : store.tokens ≤ store'.tokens := by
  obtain ⟨log, hlog, -⟩ := h
  exact hlog.tokens

/-- **The temporary files that have been created** along a run, each with the target it was created
for. -/
def Side.openings (side : Side) : List Happening → List (String × String)
  | [] => []
  | happening :: rest =>
    (side.world.store.ledger (side.meet happening).world.store).created.map
      (·, happening.target) ++ (side.meet happening).openings rest

theorem Side.openings_append (side : Side) (before after : List Happening) :
    side.openings (before ++ after) =
      side.openings before ++ (side.follow before).openings after := by
  induction before generalizing side with
  | nil => rfl
  | cons happening before ih =>
    rw [List.cons_append, openings, openings, ih, follow_cons, List.append_assoc]

namespace Ledger

/-- **A file is disposed of once**: it has been renamed once, to its target, and no unlink has been
attempted on it, or one unlink has been attempted on it and it has not been renamed. -/
def Disposes (ledger : Ledger) (opening : String × String) : Prop :=
  opening ∈ ledger.renamed ∧ (ledger.renamed.map Prod.fst).count opening.1 = 1 ∧
      opening.1 ∉ ledger.unlinked ∨
    opening.1 ∉ ledger.renamed.map Prod.fst ∧ ledger.unlinked.count opening.1 = 1

/-- A file is pending as long as it has not been renamed and no unlink has been attempted on it. -/
def isPending (ledger : Ledger) (opening : String × String) : Bool :=
  opening.1 ∉ ledger.renamed.map Prod.fst ∧ opening.1 ∉ ledger.unlinked

/-- The files that are pending. -/
def pending (ledger : Ledger) (openings : List (String × String)) : List (String × String) :=
  openings.filter ledger.isPending

end Ledger

/-- **Accounts that are in order**: each file that was created has been renamed to its target, or
an unlink has been attempted on it, or it is live, and only one of these. -/
def Accounts (openings : List (String × String)) (ledger : Ledger)
    (live : List (String × String)) : Prop :=
  ∃ removed : List (String × String), removed.map Prod.fst = ledger.unlinked ∧
    openings.Perm (ledger.renamed ++ removed ++ live)

namespace Accounts

variable {openings more live live' : List (String × String)} {ledger ledger' : Ledger}

theorem same : Accounts live .empty live := ⟨[], rfl, .refl _⟩

theorem renamed {opening : String × String} : Accounts [opening] ⟨[], [opening], []⟩ [] :=
  ⟨[], rfl, .refl _⟩

theorem unlinked {opening : String × String} : Accounts [opening] ⟨[], [], [opening.1]⟩ [] :=
  ⟨[opening], rfl, .refl _⟩

/-- **Accounts are carried forward.** -/
theorem trans (h : Accounts openings ledger live) (h' : Accounts (live ++ more) ledger' live') :
    Accounts (openings ++ more) (ledger ++ ledger') live' := by
  obtain ⟨removed, hremoved, hperm⟩ := h
  obtain ⟨removed', hremoved', hperm'⟩ := h'
  refine ⟨removed ++ removed', ?_, ?_⟩
  · rw [List.map_append, hremoved, hremoved']
    rfl
  · show (openings ++ more).Perm ((ledger.renamed ++ ledger'.renamed) ++ _ ++ live')
    rw [List.perm_iff_count] at *
    intro opening
    have hfirst := hperm opening
    have hsecond := hperm' opening
    simp only [List.count_append] at *
    omega

/-- **New files are live**, next to accounts that are settled. -/
theorem opened (h : Accounts openings ledger []) : Accounts (openings ++ more) ledger more := by
  have hmore : Accounts (openings ++ more) (ledger ++ .empty) more := h.trans .same
  rwa [Ledger.append_empty] at hmore

/-- **What has become of each file**, once none is live. -/
theorem disposed (h : Accounts openings ledger []) (hnodup : (openings.map Prod.fst).Nodup)
    {opening : String × String} (hmem : opening ∈ openings) : ledger.Disposes opening := by
  obtain ⟨removed, hremoved, hperm⟩ := h
  rw [List.append_nil] at hperm
  have hurls := hperm.map Prod.fst
  rw [List.map_append, hremoved] at hurls
  obtain ⟨hrenamed, hunlinked, hdisjoint⟩ := List.nodup_append.1 (hurls.nodup_iff.1 hnodup)
  rcases List.mem_append.1 (hperm.mem_iff.1 hmem) with hthere | hthere
  · have hurl := List.mem_map_of_mem (f := Prod.fst) hthere
    exact .inl ⟨hthere, List.count_eq_one_of_mem hrenamed hurl, fun hgone ↦
      hdisjoint _ hurl _ hgone rfl⟩
  · have hgone : opening.1 ∈ ledger.unlinked := hremoved ▸ List.mem_map_of_mem hthere
    exact .inr ⟨fun hmoved ↦ hdisjoint _ hmoved _ hgone rfl,
      List.count_eq_one_of_mem hunlinked hgone⟩

/-- **What the ledger leaves pending is what is live.** -/
theorem pending_eq (h : Accounts openings ledger live) (hnodup : (openings.map Prod.fst).Nodup)
    (hlength : live.length ≤ 1) : ledger.pending openings = live := by
  obtain ⟨removed, hremoved, hperm⟩ := h
  have hurls := hperm.map Prod.fst
  rw [List.map_append, List.map_append, hremoved] at hurls
  obtain ⟨-, -, hdisjoint⟩ := List.nodup_append.1 (hurls.nodup_iff.1 hnodup)
  have hfilter : (ledger.pending openings).Perm live := by
    have hpending := hperm.filter ledger.isPending
    have hrenamed : ledger.renamed.filter ledger.isPending = [] := by
      refine List.filter_eq_nil_iff.2 fun opening hmem ↦ ?_
      simp [Ledger.isPending, List.mem_map_of_mem (f := Prod.fst) hmem]
    have hgone : removed.filter ledger.isPending = [] := by
      refine List.filter_eq_nil_iff.2 fun opening hmem ↦ ?_
      have hurl := List.mem_map_of_mem (f := Prod.fst) hmem
      rw [hremoved] at hurl
      simp [Ledger.isPending, hurl]
    have hlive : live.filter ledger.isPending = live := by
      refine List.filter_eq_self.2 fun opening hmem ↦ ?_
      have hurl := List.mem_map_of_mem (f := Prod.fst) hmem
      have hneither : opening.1 ∉ ledger.renamed.map Prod.fst ++ ledger.unlinked :=
        fun hthere ↦ hdisjoint _ hthere _ hurl rfl
      rw [List.mem_append, not_or] at hneither
      simp only [Ledger.isPending, decide_eq_true_eq]
      exact hneither
    rwa [List.filter_append, List.filter_append, hrenamed, hgone, hlive] at hpending
  match live, hlength with
  | [], _ => exact hfilter.eq_nil
  | [opening], _ => exact List.perm_singleton.1 hfilter

end Accounts

/-! ### What a responder does to its accounts -/

namespace Receiver

/-- The temporary file that is being written, with its target. -/
def live (receiver : Receiver) : List (String × String) :=
  (receiver.receiving.map fun receiving ↦ (receiving.temporary, receiving.target)).toList

theorem live_of_some {receiver : Receiver} {receiving : Receiving}
    (h : receiver.receiving = some receiving) :
    receiver.live = [(receiving.temporary, receiving.target)] := by
  rw [live, h]
  rfl

/-- **A responder that writes has its handle open**, and has neither failed nor finished. -/
def Sound (receiver : Receiver) (store : Store) : Prop :=
  ∀ receiving, receiver.receiving = some receiving →
    receiver.failed = false ∧ receiver.finished = false ∧
      ∃ id, receiving.file = some id ∧ (Share.fileOf store id).isOpen = true

variable {receiver receiver' : Receiver} {store store' : Store}

theorem Sound.of_none (h : receiver.receiving = none) : receiver.Sound store := by
  intro receiving hsome
  rw [h] at hsome
  cases hsome

theorem Sound.mono (h : receiver.Sound store) (hkeeps : Share.KeepsOpen store store') :
    receiver.Sound store' := by
  intro receiving hsome
  obtain ⟨hfailed, hfinished, id, hid, hopen⟩ := h receiving hsome
  exact ⟨hfailed, hfinished, id, hid, hkeeps id hopen⟩

/-- What is discarded is what was live. -/
theorem Discards.accounts (h : receiver.Discards store store') :
    ∃ ledger, store.Tells store' ledger ∧ ledger.created = [] ∧ ledger.renamed = [] ∧
      Accounts receiver.live ledger [] := by
  unfold Discards at h
  cases hreceiving : receiver.receiving with
  | none =>
    rw [hreceiving] at h
    obtain rfl : store' = store := h
    refine ⟨.empty, .refl _, rfl, rfl, ?_⟩
    rw [live, hreceiving]
    exact .same
  | some receiving =>
    rw [hreceiving] at h
    refine ⟨_, Receiving.discard_tells h, rfl, rfl, ?_⟩
    rw [live_of_some hreceiving]
    exact .unlinked

/-- **What a responder has done with its files** between two moments: those that it opened are the
ones that were created, their names are new, and its accounts are in order. If its stream has failed
and it opened nothing, the stream is still dropped. -/
structure Settles (receiver receiver' : Receiver) (store store' : Store)
    (openings : List (String × String)) (ledger : Ledger) : Prop where
  tells : store.Tells store' ledger
  created : openings.map Prod.fst = ledger.created
  numbered : Numbered store.tokens ledger.created store'.tokens
  accounts : Accounts (receiver.live ++ openings) ledger receiver'.live
  failed : receiver.failed = true → openings = [] → receiver'.failed = true

namespace Settles

variable {receiver'' : Receiver} {store'' : Store} {openings openings' : List (String × String)}
variable {ledger ledger' : Ledger}

/-- Nothing was opened, renamed or removed. -/
theorem same (htells : store.Tells store' .empty) (hlive : receiver'.live = receiver.live)
    (hfailed : receiver.failed = true → receiver'.failed = true) :
    Settles receiver receiver' store store' [] .empty where
  tells := htells
  created := rfl
  numbered := .nil htells.tokens
  accounts := by
    rw [hlive, List.append_nil]
    exact .same
  failed := fun h _ ↦ hfailed h

/-- Nothing was opened, and what was live is not any more. -/
theorem ended (htells : store.Tells store' ledger) (hcreated : ledger.created = [])
    (haccounts : Accounts receiver.live ledger []) (hlive : receiver'.live = [])
    (hfailed : receiver.failed = true → receiver'.failed = true) :
    Settles receiver receiver' store store' [] ledger where
  tells := htells
  created := hcreated.symm
  numbered := by
    rw [hcreated]
    exact .nil htells.tokens
  accounts := by
    rw [hlive, List.append_nil]
    exact haccounts
  failed := fun h _ ↦ hfailed h

theorem trans (h : Settles receiver receiver' store store' openings ledger)
    (h' : Settles receiver' receiver'' store' store'' openings' ledger') :
    Settles receiver receiver'' store store'' (openings ++ openings') (ledger ++ ledger') where
  tells := h.tells.trans h'.tells
  created := by
    rw [List.map_append, h.created, h'.created]
    rfl
  numbered := h.numbered.append h'.numbered
  accounts := by
    rw [← List.append_assoc]
    exact h.accounts.trans h'.accounts
  failed := by
    intro hfailed hnone
    obtain ⟨hfirst, hrest⟩ := List.append_eq_nil_iff.1 hnone
    exact h'.failed (h.failed hfailed hfirst) hrest

end Settles

variable {requestId : String} {message : Message} {command : Command}
variable {world mid : World Channel} {result : Except ExchangeError Unit}

/-- **Every way through a message keeps the accounts in order.** -/
theorem Takes.settles
    (h : receiver.Takes requestId message world command result receiver' mid) :
    ∃ openings ledger, openings = ledger.created.map (·, (Happening.message message).target) ∧
      Settles receiver receiver' world.store mid.store openings ledger := by
  cases h with
  | notOpened hopen =>
    rcases openTemporary_tells hopen with ⟨-, htells, -⟩ | ⟨_, _, _, _, -, hok, -⟩
    · exact ⟨[], .empty, rfl, .same htells rfl id⟩
    · cases hok
  | @opened _ first _ store _ hopen hdiscards hsend =>
    rcases openTemporary_tells hopen with ⟨⟨_, herror⟩, -⟩ |
      ⟨credentials, parent, name, content, hcredentials, hok, htells, -, htokens⟩
    · cases herror
    obtain rfl := Except.ok.inj hok
    obtain ⟨ledger, hremoved, hcreated, -, haccounts⟩ := hdiscards.accounts
    obtain ⟨hchannel, -⟩ := World.send_cases hsend
    rw [hchannel.store]
    let url := Url.join parent (temporaryName world.store.tokens)
    have hurls : ([url] ++ ledger.created) = [url] := by rw [hcreated, List.append_nil]
    refine ⟨[(url, credentials.url)], _, ?_, htells.trans hremoved, hurls.symm, ?_,
      haccounts.opened, nofun⟩
    · show _ = ([url] ++ ledger.created).map _
      rw [hurls, Happening.target, hcredentials]
      rfl
    · have htold : first.store.tokens ≤ store.tokens := hremoved.tokens
      rw [htokens] at htold
      show Numbered _ ([url] ++ ledger.created) store.tokens
      rw [hurls]
      exact .cons (Nat.le_refl _) (.nil htold)
  | dropped | malformed => exact ⟨[], .empty, rfl, .same (.refl _) rfl id⟩
  | unexpected => exact ⟨[], .empty, rfl, .same (.refl _) rfl fun _ ↦ rfl⟩
  | piece _ _ _ haction hwrite =>
    exact ⟨[], .empty, rfl, .same (Receiving.write_tells haction hwrite) rfl id⟩
  | torn _ _ hreceiving haction hwrite hdiscard =>
    exact ⟨[], _, rfl, .ended ((Receiving.write_tells haction hwrite).trans
      (Receiving.discard_tells hdiscard)) rfl (live_of_some hreceiving ▸ Accounts.unlinked) rfl
        fun _ ↦ rfl⟩
  | committed hfailed hreceiving hcommit hsend =>
    obtain ⟨hchannel, -⟩ := World.send_cases hsend
    rw [hchannel.store]
    rcases Receiving.commit_tells hcommit with ⟨-, htells⟩ | ⟨⟨_, herror⟩, -⟩
    · refine ⟨[], _, rfl, .ended htells rfl (live_of_some hreceiving ▸ Accounts.renamed) rfl ?_⟩
      intro h
      rw [hfailed] at h
      cases h
    · cases herror
  | uncommitted _ hreceiving hcommit hdiscard =>
    rcases Receiving.commit_tells hcommit with ⟨hok, -⟩ | ⟨-, htells⟩
    · cases hok
    · exact ⟨[], _, rfl, .ended (htells.trans (Receiving.discard_tells hdiscard)) rfl
        (live_of_some hreceiving ▸ Accounts.unlinked) rfl fun _ ↦ rfl⟩
  | abandoned hdiscards =>
    obtain ⟨ledger, htells, hcreated, -, haccounts⟩ := hdiscards.accounts
    exact ⟨[], ledger, by rw [hcreated]; rfl, .ended htells hcreated haccounts rfl fun _ ↦ rfl⟩

/-- **Every way through a message leaves the responder sound.** -/
theorem Takes.sound (hsound : receiver.Sound world.store)
    (h : receiver.Takes requestId message world command result receiver' mid) :
    receiver'.Sound mid.store := by
  cases h with
  | notOpened hopen =>
    rcases openTemporary_tells hopen with ⟨-, -, hfiles⟩ | ⟨_, _, _, _, -, hok, -⟩
    · exact hsound.mono (Share.keepsOpen_of_files hfiles)
    · cases hok
  | @opened _ first _ _ _ hopen hdiscards hsend =>
    rcases openTemporary_tells hopen with ⟨⟨_, herror⟩, -⟩ |
      ⟨credentials, parent, name, content, -, hok, -, hfiles, -⟩
    · cases herror
    obtain rfl := Except.ok.inj hok
    obtain ⟨hchannel, -⟩ := World.send_cases hsend
    rw [hchannel.store]
    intro receiving hreceiving
    obtain rfl := Option.some.inj hreceiving
    refine ⟨rfl, rfl, _, rfl, ?_⟩
    have hopened : (Share.fileOf first.store ⟨world.store.files.size⟩).isOpen = true := by
      unfold Share.fileOf
      rw [hfiles, Array.getElem?_push_size]
      rfl
    unfold Discards at hdiscards
    cases hprevious : receiver.receiving with
    | none =>
      rw [hprevious] at hdiscards
      obtain rfl := hdiscards
      exact hopened
    | some previous =>
      rw [hprevious] at hdiscards
      obtain ⟨-, -, id, hid, hisOpen⟩ := hsound previous hprevious
      have hlt := Share.index_lt_of_isOpen hisOpen
      refine Receiving.isOpen_discard (fun heq ↦ ?_) hopened hdiscards
      rw [hid] at heq
      obtain rfl := Option.some.inj heq
      exact Nat.lt_irrefl _ hlt
  | dropped | malformed => exact hsound
  | unexpected _ _ hnone => exact .of_none hnone
  | @piece _ receiving _ _ _ _ hreceiving haction hwrite =>
    refine hsound.mono ?_
    obtain ⟨-, -, id, hid, -⟩ := hsound _ hreceiving
    unfold Receiving.write at haction
    rw [hid] at haction
    obtain rfl := Except.ok.inj haction
    exact Receiving.keepsOpen_writeAll _ hwrite
  | torn | uncommitted | abandoned => exact .of_none rfl
  | committed => exact .of_none rfl

/-- A responder that is sound has a handle to write with. -/
theorem Sound.file_ne_none (h : receiver.Sound store) {receiving : Receiving}
    (hreceiving : receiver.receiving = some receiving) : receiving.file ≠ none := by
  obtain ⟨-, -, id, hid, -⟩ := h receiving hreceiving
  simp [hid]

theorem Discards.settles (h : receiver.Discards store store') :
    ∃ ledger, Settles receiver { receiver with receiving := none } store store' [] ledger := by
  obtain ⟨ledger, htells, hcreated, -, haccounts⟩ := h.accounts
  exact ⟨ledger, .ended htells hcreated haccounts rfl id⟩

end Receiver

/-! ### What a side does to the accounts of its responder -/

namespace Side

variable {side : Side} {requestId : String} {receiver : Receiver} {message : Message}

theorem openings_singleton {happening : Happening} {ledger : Ledger}
    (h : side.world.store.Tells (side.meet happening).world.store ledger) :
    side.openings [happening] = ledger.created.map (·, happening.target) := by
  rw [openings, h.ledger_eq]
  exact List.append_nil _

/-- **A responder that quits settles all its accounts.** -/
theorem quit_settles (hexchange : side.exchange = ⟨requestId, .responder (.upload receiver)⟩)
    (hsound : receiver.Sound side.world.store) :
    ∃ receiver' ledger, side.quit.exchange = ⟨requestId, .responder (.upload receiver')⟩ ∧
      receiver'.receiving = none ∧
      receiver.Settles receiver' side.world.store side.quit.world.store [] ledger := by
  rcases quit_receiver hexchange with ⟨hfinished, hquit⟩ | ⟨-, store, hdiscards, hquit⟩
  · -- what is finished has nothing that is being written
    have hnone : receiver.receiving = none := by
      cases hreceiving : receiver.receiving with
      | none => rfl
      | some receiving =>
        obtain ⟨-, hunfinished, -⟩ := hsound receiving hreceiving
        rw [hfinished] at hunfinished
        cases hunfinished
    rw [hquit]
    exact ⟨receiver, .empty, hexchange, hnone, .same (.refl _) rfl id⟩
  · obtain ⟨ledger, hsettles⟩ := hdiscards.settles
    rw [hquit]
    exact ⟨_, ledger, rfl, rfl, hsettles⟩

/-- **Whatever happens to a responder**, it stays sound and its accounts stay in order. -/
theorem meet_settles (hexchange : side.exchange = ⟨requestId, .responder (.upload receiver)⟩)
    (hsound : receiver.Sound side.world.store) (happening : Happening) :
    ∃ receiver' ledger, (side.meet happening).exchange =
        ⟨requestId, .responder (.upload receiver')⟩ ∧
      receiver'.Sound (side.meet happening).world.store ∧
      receiver.Settles receiver' side.world.store (side.meet happening).world.store
        (side.openings [happening]) ledger := by
  -- what does not concern the responder
  have hidle : (side.meet happening).exchange = side.exchange →
      (side.meet happening).world.store.files = side.world.store.files →
      side.world.store.Tells (side.meet happening).world.store .empty →
      ∃ receiver' ledger, (side.meet happening).exchange =
          ⟨requestId, .responder (.upload receiver')⟩ ∧
        receiver'.Sound (side.meet happening).world.store ∧
        receiver.Settles receiver' side.world.store (side.meet happening).world.store
          (side.openings [happening]) ledger := by
    intro hsame hfiles htells
    refine ⟨receiver, .empty, hsame.trans hexchange, hsound.mono (Share.keepsOpen_of_files hfiles),
      ?_⟩
    rw [openings_singleton htells]
    exact .same htells rfl id
  cases happening with
  | transmit | connection => exact hidle rfl rfl (.refl _)
  | faults faults => exact hidle rfl rfl ⟨[], ⟨(List.append_nil _).symm, Nat.le_refl _⟩, rfl⟩
  | quit =>
    obtain ⟨receiver', ledger, hexchange', hnone, hsettles⟩ := quit_settles hexchange hsound
    refine ⟨receiver', ledger, hexchange', .of_none hnone, ?_⟩
    rw [openings_singleton hsettles.tells, ← hsettles.created]
    exact hsettles
  | message message =>
    rcases process_takes hexchange (fun receiving ↦ hsound.file_ne_none) with
      ⟨error, -, -, hprocess⟩ | ⟨command, receiver', mid, -, -, htakes, hprocess⟩
    · obtain ⟨hchannel, -⟩ := told_cases message.requestId (.error error) side.world
      have hstore : (side.meet (.message message)).world.store = side.world.store :=
        (congrArg (·.world.store) hprocess).trans hchannel.store
      refine hidle (congrArg exchange hprocess :) (congrArg Store.files hstore) ?_
      rw [hstore]
      exact .refl _
    · obtain ⟨hchannel, -⟩ := told_cases requestId (side.answer message) mid
      obtain ⟨opened, ledger, hopened, hsettles⟩ := htakes.settles
      have hstore : (side.meet (.message message)).world.store = mid.store :=
        (congrArg (·.world.store) hprocess).trans hchannel.store
      refine ⟨receiver', ledger, (congrArg exchange hprocess :), ?_, ?_⟩
      · rw [hstore]
        exact htakes.sound hsound
      · rw [openings_singleton (hstore ▸ hsettles.tells), ← hopened, hstore]
        exact hsettles

/-- **Along any run**, a responder stays sound and its accounts stay in order. -/
theorem follow_settles (hexchange : side.exchange = ⟨requestId, .responder (.upload receiver)⟩)
    (hsound : receiver.Sound side.world.store) (happenings : List Happening) :
    ∃ receiver' ledger, (side.follow happenings).exchange =
        ⟨requestId, .responder (.upload receiver')⟩ ∧
      receiver'.Sound (side.follow happenings).world.store ∧
      receiver.Settles receiver' side.world.store (side.follow happenings).world.store
        (side.openings happenings) ledger := by
  induction happenings generalizing side receiver with
  | nil => exact ⟨receiver, .empty, hexchange, hsound, .same (.refl _) rfl id⟩
  | cons happening rest ih =>
    obtain ⟨mid, first, hmid, hsoundMid, hfirst⟩ := meet_settles hexchange hsound happening
    obtain ⟨last, second, hlast, hsoundLast, hsecond⟩ := ih hmid hsoundMid
    have hopenings : side.openings (happening :: rest) =
        side.openings [happening] ++ (side.meet happening).openings rest :=
      side.openings_append [happening] rest
    exact ⟨last, first ++ second, hlast, hsoundLast, hopenings ▸ hfirst.trans hsecond⟩

/-! ### A stream that has ended -/

/-- **What ends a stream.** A call on the share fails for a piece or the end of an upload, or there
is no upload to which they could belong; or the initiator gives the upload up. -/
def EndsStream (side : Side) (message : Message) : Prop :=
  message.requestId = side.exchange.requestId ∧
    (message.command? = some .uploadError ∨
      (message.command? = some .uploadDataReq ∨ message.command? = some .uploadEndReq) ∧
        ((∃ error, side.answer message = .error (.share error)) ∨
          ∃ code, side.answer message = .error (.unexpectedCommand code)))

/-- A command of its own is taken by a responder. -/
theorem process_takes_of {command : Command}
    (hexchange : side.exchange = ⟨requestId, .responder (.upload receiver)⟩)
    (hsound : receiver.Sound side.world.store) (hid : message.requestId = requestId)
    (hcommand : message.command? = some command) (hfamily : command.family = .upload)
    (hmay : Exchange.mayReceive .responder command = true) :
    ∃ receiver' mid,
      receiver.Takes requestId message side.world command (side.answer message) receiver' mid ∧
        side.process message = ⟨side.settings, ⟨requestId, .responder (.upload receiver')⟩,
          told requestId (side.answer message) mid⟩ := by
  rcases process_takes hexchange (fun receiving ↦ hsound.file_ne_none) with
    ⟨error, hcheck, -⟩ | ⟨found, receiver', mid, -, hfound, htakes, hprocess⟩
  · have hok : side.exchange.check message = .ok command := by
      rw [hexchange]
      exact Exchange.check_eq_ok hid hcommand hfamily hmay
    rw [hcheck] at hok
    cases hok
  · obtain rfl := Option.some.inj (hcommand.symm.trans hfound)
    exact ⟨receiver', mid, htakes, hprocess⟩

/-- **A responder notices that its stream has ended.** -/
theorem process_endsStream
    (hexchange : side.exchange = ⟨requestId, .responder (.upload receiver)⟩)
    (hsound : receiver.Sound side.world.store) (hends : side.EndsStream message) :
    ∃ receiver', (side.process message).exchange = ⟨requestId, .responder (.upload receiver')⟩ ∧
      receiver'.failed = true := by
  obtain ⟨hid, hends⟩ := hends
  have hid : message.requestId = requestId := by rw [hid, hexchange]
  rcases hends with hcommand | ⟨hcommand | hcommand, herror⟩
  all_goals
    obtain ⟨receiver', mid, htakes, hprocess⟩ :=
      process_takes_of hexchange hsound hid hcommand rfl rfl
    refine ⟨receiver', by rw [hprocess], ?_⟩
    generalize side.answer message = result at *
  · cases htakes with
    | abandoned => rfl
    | dropped hother | unexpected hother => simp at hother
  · cases htakes with
    | unexpected | torn => rfl
    | dropped | malformed | piece => simp at herror
  · cases htakes with
    | unexpected | uncommitted => rfl
    | dropped => simp at herror
    | committed _ _ _ hsend =>
      -- that the upload cannot be confirmed does not end a stream
      rcases herror with ⟨error, rfl⟩ | ⟨code, rfl⟩
      all_goals
        obtain ⟨cause, hcause⟩ := World.send_error hsend
        cases hcause

/-- **A responder whose stream has ended is silent**: it makes no call and gives no answer. -/
theorem process_of_failed
    (hexchange : side.exchange = ⟨requestId, .responder (.upload receiver)⟩)
    (hsound : receiver.Sound side.world.store) (hfailed : receiver.failed = true)
    (hid : message.requestId = requestId)
    (hcommand : message.command? = some .uploadDataReq ∨
      message.command? = some .uploadEndReq) : side.process message = side := by
  have hsame : ∀ {command receiver' mid result},
      receiver.Takes requestId message side.world command result receiver' mid →
      command = .uploadDataReq ∨ command = .uploadEndReq →
      result = .ok () ∧ receiver' = receiver ∧ mid = side.world := by
    intro command receiver' mid result htakes hcommand
    cases htakes with
    | dropped => exact ⟨rfl, rfl, rfl⟩
    | notOpened | opened | abandoned => simp at hcommand
    | malformed hnot | unexpected _ hnot | piece hnot | torn hnot | committed hnot
    | uncommitted hnot =>
      rw [hfailed] at hnot
      cases hnot
  rcases hcommand with hcommand | hcommand
  all_goals
    obtain ⟨receiver', mid, htakes, hprocess⟩ :=
      process_takes_of hexchange hsound hid hcommand rfl rfl
    obtain ⟨hok, rfl, rfl⟩ := hsame htakes (by simp)
    rw [hprocess, hok, ← hexchange]
    rfl

/-! ### No temporary file is forgotten -/

/-- **No temporary file is forgotten.** After anything that has happened to a responder of an
upload, in any order and whatever failed:

* each temporary file that was created has been renamed to its target, or an unlink has been
  attempted on it, or it is pending, and only one of these; the file that is pending is the one that
  is being written, if one is, and then its handle is open and the upload has neither failed nor
  finished;
* once the responder has quit, each of them has been disposed of once;
* once the stream has ended, pieces and ends of uploads cause nothing at all, until another
  temporary file has been opened. -/
theorem temporaries_disposed {side : Side} {requestId : String}
    (hstart : side.exchange = .ofFamily .responder .upload requestId)
    (happenings : List Happening) :
    let now := side.follow happenings
    let openings := side.openings happenings
    let ledger := side.world.store.ledger now.world.store
    let final := side.world.store.ledger now.quit.world.store
    (∃ receiver, now.exchange = ⟨requestId, .responder (.upload receiver)⟩ ∧
      receiver.Sound now.world.store ∧ openings.map Prod.fst = ledger.created ∧
      Accounts openings ledger receiver.live ∧
      (now.world.store.tokens ≤ 16 ^ 32 → ledger.pending openings = receiver.live)) ∧
    (openings.map Prod.fst = final.created ∧ Accounts openings final [] ∧
      (now.world.store.tokens ≤ 16 ^ 32 → ∀ opening ∈ openings, final.Disposes opening)) ∧
    ∀ ending, now.EndsStream ending → ∀ later, (now.process ending).openings later = [] →
      ∀ message, message.requestId = requestId →
        message.command? = some .uploadDataReq ∨ message.command? = some .uploadEndReq →
        ((now.process ending).follow later).process message =
          (now.process ending).follow later := by
  intro now openings ledger final
  obtain ⟨receiver, ledger', hexchange, hsound, hsettles⟩ :=
    follow_settles hstart (.of_none rfl) happenings
  have hledger : ledger = ledger' := hsettles.tells.ledger_eq
  rw [← hledger] at hsettles
  have haccounts : Accounts openings ledger receiver.live := hsettles.accounts
  have hnodup : now.world.store.tokens ≤ 16 ^ 32 → (openings.map Prod.fst).Nodup := by
    intro htokens
    rw [hsettles.created]
    exact hsettles.numbered.nodup htokens
  refine ⟨⟨receiver, hexchange, hsound, hsettles.created, haccounts, fun htokens ↦ ?_⟩, ?_, ?_⟩
  · refine haccounts.pending_eq (hnodup htokens) ?_
    unfold Receiver.live
    cases receiver.receiving <;> simp
  · obtain ⟨last, ledger'', -, hnone, hquit⟩ := quit_settles hexchange hsound
    have hall := hsettles.trans hquit
    have hfinal : final = ledger ++ ledger'' := hall.tells.ledger_eq
    have hlive : last.live = [] := by
      unfold Receiver.live
      rw [hnone]
      rfl
    rw [← hfinal, List.append_nil] at hall
    have hsettled : Accounts openings final [] := hlive ▸ hall.accounts
    exact ⟨hall.created, hsettled, fun htokens opening hmem ↦
      hsettled.disposed (hnodup htokens) hmem⟩
  · intro ending hends later hquiet message hid hcommand
    obtain ⟨ended, -, hended, hsoundEnded, -⟩ :=
      meet_settles hexchange hsound (.message ending)
    obtain ⟨ended', hended', hfailed⟩ := process_endsStream hexchange hsound hends
    obtain ⟨-, hparty⟩ := Exchange.mk.inj (hended.symm.trans hended')
    obtain rfl := Responder.upload.inj (Party.responder.inj hparty)
    obtain ⟨last, ledger'', hlast, hsoundLast, hrest⟩ := follow_settles hended hsoundEnded later
    exact process_of_failed hlast hsoundLast (hrest.failed hfailed hquiet) hid hcommand

/-- A piece of an upload. -/
def brokenPiece : Message :=
  Producer.uploadMessage "7" ⟨#[1, 2, 3]⟩

/-- An upload is opened on a share on which nothing can be written. -/
def brokenStart : List Happening :=
  [.message (uploadOpening Conversation.smallClient "7"),
    .faults [⟨.write, "", 0, none, ⟨some .ioFailure, none⟩⟩]]

/-- Two pieces come after that, and then the share recovers. Another upload is put into its place,
and a third one is opened. -/
def brokenRest : List Happening :=
  [.message brokenPiece, .message brokenPiece, .faults [],
    .message (uploadOpening Conversation.smallClient "7"), .message brokenPiece,
    .message (uploadEnd "7"), .message (uploadOpening Conversation.smallClient "7")]

theorem temporaries_disposed_broken :
    let side := Conversation.smallServer.side .responder .upload "7"
    side.exchange = .ofFamily .responder .upload "7" ∧
    (side.openings (brokenStart ++ brokenRest)).length = 3 ∧
    (∀ opening ∈ side.openings (brokenStart ++ brokenRest),
      (side.world.store.ledger
        (side.follow (brokenStart ++ brokenRest)).quit.world.store).Disposes opening) ∧
    (side.follow brokenStart).EndsStream brokenPiece ∧
    ((side.follow brokenStart).process brokenPiece).process brokenPiece =
      (side.follow brokenStart).process brokenPiece := by
  intro side
  have hstart : side.exchange = .ofFamily .responder .upload "7" := rfl
  have htokens : (side.follow (brokenStart ++ brokenRest)).world.store.tokens = 3 := by
    decide +kernel
  have hends : (side.follow brokenStart).EndsStream brokenPiece := by
    refine ⟨by decide +kernel, .inr ⟨.inl (by decide +kernel), .inl ⟨
      ⟨"write", Url.join "srv/box" (temporaryName 0), .ioFailure⟩, ?_⟩⟩⟩
    decide +kernel
  obtain ⟨-, ⟨-, -, hdisposed⟩, -⟩ :=
    temporaries_disposed hstart (brokenStart ++ brokenRest)
  obtain ⟨-, -, hsilent⟩ := temporaries_disposed hstart brokenStart
  exact ⟨rfl, by decide +kernel, hdisposed (by rw [htokens]; decide), hends,
    hsilent _ hends [] rfl _ rfl (.inl (by decide +kernel))⟩

end Side

end FileShare
