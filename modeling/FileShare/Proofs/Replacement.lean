import FileShare.Proofs.Disposal

/-!
# A target is replaced as a whole

Whatever is delivered to a responder of an upload, in any order and whatever fails: the file at a
target changes only when the end of an upload has been announced and the temporary file is renamed.
It then holds exactly the pieces that were taken since the upload was opened (`Announced`). At every
other moment all files are as they were, but for those that have a temporary name
(`World.Untouched`).

What carries this is that the temporary file holds what has been announced, and nothing else can be
reached through its handle or its name (`Receiver.Keeps`). The responder holds on to that through
every message; a second opening request is the delicate case, because for a moment there are two
temporary files, and the older one is removed.
-/

namespace FileShare

/-! ### What has been announced -/

/-- An upload as its messages tell it. -/
structure Announced where
  /-- The URL of its target. -/
  url : String
  /-- The pieces that have been taken since it was opened, one behind the other. -/
  bytes : ByteArray
  deriving DecidableEq

/-- Whether something has been done. That it cannot be confirmed does not matter. -/
def isDone : Except ExchangeError Unit → Bool
  | .ok () | .error (.session _) => true
  | .error _ => false

/-- **What is announced after a message**, from what came of it: a new upload, or another piece. -/
def Announced.take (announced : Option Announced) (message : Message)
    (result : Except ExchangeError Unit) : Option Announced :=
  match isDone result, message.command? with
  | true, some .uploadInitReq => message.credentials?.map (⟨·.url, ByteArray.empty⟩)
  | true, some .uploadDataReq => announced.map fun upload ↦
      ⟨upload.url, upload.bytes ++ message.uploadData?.getD ByteArray.empty⟩
  | _, _ => announced

/-- **What is announced at the end of a run.** -/
def Side.announced (side : Side) (announced : Option Announced) : List Happening → Option Announced
  | [] => announced
  | .message message :: rest =>
    (side.process message).announced (Announced.take announced message (side.answer message))
      rest
  | happening :: rest => (side.meet happening).announced announced rest

/-! ### What a step does to the files of a share -/

/-- A path that has a temporary name, one that was given out between two moments. -/
def Path.IsTemporary (first last : Nat) (path : Path) : Prop :=
  ∃ token, first ≤ token ∧ token < last ∧ path.getLast? = some (temporaryName token).toUTF8

theorem Path.IsTemporary.mono {first last last' : Nat} {path : Path} (hle : last ≤ last')
    (h : Path.IsTemporary first last path) : Path.IsTemporary first last' path := by
  obtain ⟨token, hfirst, hlast, hname⟩ := h
  exact ⟨token, hfirst, Nat.lt_of_lt_of_le hlast hle, hname⟩

/-- **No target is touched.** All files are as they were, but for temporary ones; nothing has been
renamed, and no upload is confirmed as complete. -/
structure World.Untouched (first : Nat) (world world' : World Channel) : Prop where
  files : ∀ path, ¬ Path.IsTemporary first world'.store.tokens path →
    world'.store.fs.fileAt path = world.store.fs.fileAt path
  renamed : (world.store.ledger world'.store).renamed = []
  replies : ∃ replies, world'.outlet.underway = world.outlet.underway ++ replies ∧
    ∀ reply ∈ replies, reply.command? ≠ some .uploadEndResp

/-- **A target is replaced as a whole.** One file has been renamed, to the target, which holds all
that was announced, and all other files are as they were, but for temporary ones. That may be
confirmed, and nothing else is said. -/
structure World.Replaced (first : Nat) (requestId : String) (upload : Announced)
    (world world' : World Channel) : Prop where
  renamed : ∃ temporary, (world.store.ledger world'.store).renamed = [(temporary, upload.url)]
  target : ∃ target, world.store.place? upload.url = some target ∧
    world'.store.fs.fileAt target = some upload.bytes ∧
    ∀ path, ¬ Path.IsTemporary first world'.store.tokens path → path ≠ target →
      world'.store.fs.fileAt path = world.store.fs.fileAt path
  replies : world'.outlet.underway = world.outlet.underway ∨
    world'.outlet.underway = world.outlet.underway ++
      [.of requestId .uploadEndResp (.status .success)]

namespace World

variable {first : Nat} {world world' world'' : World Channel} {requestId : String}
variable {upload : Announced}

/-- Where nothing happens to the files and nothing is said, no target is touched. -/
theorem Untouched.of_records (hrecords : world.store.Records world'.store)
    (htells : world.store.Tells world'.store .empty)
    (hunderway : world'.outlet.underway = world.outlet.underway) :
    world.Untouched first world' := by
  refine ⟨fun path _ ↦ by rw [hrecords.fs], ?_, [], by rw [hunderway, List.append_nil], nofun⟩
  rw [htells.ledger_eq]
  rfl

/-- What is told of a failure touches no target. -/
theorem Untouched.told (h : world.Untouched first world') (result : Except ExchangeError Unit) :
    world.Untouched first (Side.told requestId result world') := by
  obtain ⟨hchannel, htold⟩ := Side.told_cases requestId result world'
  obtain ⟨replies, hreplies, hnone⟩ := h.replies
  refine ⟨?_, ?_, ?_⟩
  · rw [hchannel.store]
    exact h.files
  · rw [hchannel.store]
    exact h.renamed
  · rcases htold with hsame | ⟨status, hsent⟩
    · exact ⟨replies, hsame.trans hreplies, hnone⟩
    · refine ⟨replies ++ [.of requestId .uploadError (.status status)], ?_, ?_⟩
      · rw [hsent, hreplies, List.append_assoc]
      · intro reply hmem
        rcases List.mem_append.1 hmem with hmem | hmem
        · exact hnone reply hmem
        · rw [List.mem_singleton.1 hmem, Message.command?_of]
          simp

end World

/-! ### What a responder holds on to -/

/-- **An upload is in hand**: its temporary file holds what has been announced, under a temporary
name that is not the name of the target. -/
structure Receiving.InHand (first : Nat) (upload : Announced) (receiving : Receiving)
    (store : Store) (path : Path) : Prop where
  target : receiving.target = upload.url
  staged : receiving.Staged store path upload.bytes
  temporary : Path.IsTemporary first store.tokens path
  apart : ∀ names, Url.names? upload.url = .ok names → names.getLast? ≠ path.getLast?

/-- **What a responder holds on to** through a run: what it writes is what has been announced. -/
structure Receiver.Keeps (first : Nat) (announced : Option Announced) (receiver : Receiver)
    (store : Store) : Prop where
  wellFormed : store.fs.WellFormed
  numbered : first ≤ store.tokens
  inHand : ∀ receiving, receiver.receiving = some receiving → receiver.failed = false ∧
    ∃ upload path, announced = some upload ∧ receiving.InHand first upload store path

/-! ### One message -/

/-- The failures of a call on the shares are the shares' own. -/
theorem World.share_error {ω α : Type} {action : ShareM α} {world world' : World ω}
    {error : ExchangeError}
    (h : (World.share action : StepM ω α).run.run world = (.error error, world')) :
    ∃ cause, error = .share cause := by
  obtain ⟨answer, -, hanswer, -⟩ := World.share_cases h
  cases answer with
  | ok _ => cases hanswer
  | error cause => exact ⟨cause, Except.error.inj hanswer⟩

/-- That credentials are not adopted has nothing to do with the session. -/
theorem World.isDone_connect {ω : Type} [Outlet ω] {world world' : World ω} {message : Message}
    {error : ExchangeError} (h : (connect message).run.run world = (.error error, world')) :
    isDone (.error error) = false := by
  -- a refusal is one of three errors, or one of the share
  have hrefused {cause : ExchangeError} (hcause : isDone (.error cause) = false)
      (h : ((.error cause, world) : Except ExchangeError String × World ω) =
        (.error error, world')) : isDone (.error error) = false := by
    obtain rfl := Except.error.inj (Prod.mk.inj h).1
    exact hcause
  unfold connect at h
  split at h
  · exact hrefused rfl h
  split at h
  · exact hrefused rfl h
  rw [bind_get_run] at h
  split at h
  · rcases bind_cases h with ⟨cause, hshare, hcause⟩ | ⟨_, mid, -, hrest⟩
    · obtain rfl := Except.error.inj hcause
      obtain ⟨cause, rfl⟩ := World.share_error hshare
      rfl
    · cases hrest
  · exact hrefused rfl h

/-- That an upload cannot be opened has nothing to do with the session. -/
theorem Receiver.isDone_openTemporary {ω : Type} [Outlet ω] {world world' : World ω}
    {message : Message} {error : ExchangeError}
    (h : (openTemporary message).run.run world = (.error error, world')) :
    isDone (.error error) = false := by
  unfold openTemporary at h
  rcases bind_cases h with ⟨cause, hconnect, hcause⟩ | ⟨url, first, -, h⟩
  · obtain rfl := Except.error.inj hcause
    exact World.isDone_connect hconnect
  split at h
  · obtain ⟨hcause, -⟩ := Prod.mk.inj h
    obtain rfl := Except.error.inj hcause
    rfl
  · rw [bind_lift_run, bind_get_run, bind_modify_run] at h
    rcases bind_cases h with ⟨cause, hshare, hcause⟩ | ⟨_, mid, -, hrest⟩
    · obtain rfl := Except.error.inj hcause
      obtain ⟨cause, rfl⟩ := World.share_error hshare
      rfl
    · cases hrest

namespace Receiver

variable {first : Nat} {announced : Option Announced} {receiver receiver' : Receiver}
variable {store store' : Store}

theorem Keeps.of_none (h : store.fs.WellFormed ∧ first ≤ store.tokens)
    (hnone : receiver.receiving = none) : receiver.Keeps first announced store := by
  refine ⟨h.1, h.2, fun receiving hsome ↦ ?_⟩
  rw [hnone] at hsome
  cases hsome

theorem Keeps.congr (h : receiver.Keeps first announced store) (hrecords : store.Records store') :
    receiver.Keeps first announced store' := by
  refine ⟨hrecords.fs ▸ h.wellFormed, hrecords.tokens ▸ h.numbered, fun receiving hsome ↦ ?_⟩
  obtain ⟨hfailed, upload, path, hupload, hhand⟩ := h.inHand receiving hsome
  exact ⟨hfailed, upload, path, hupload, hhand.target,
    hhand.staged.congr hrecords.fs hrecords.root hrecords.files,
    hrecords.tokens ▸ hhand.temporary, hhand.apart⟩

theorem Keeps.file_ne_none (h : receiver.Keeps first announced store) {receiving : Receiving}
    (hreceiving : receiver.receiving = some receiving) : receiving.file ≠ none := by
  obtain ⟨-, upload, path, -, hhand⟩ := h.inHand receiving hreceiving
  obtain ⟨id, hid, -⟩ := hhand.staged.handles
  simp [hid]

/-- **What is discarded is a temporary file**, and all others are as they were. -/
theorem Discards.spares (h : receiver.Discards store store') (hwell : store.fs.WellFormed)
    {P : Path → Prop} (hplace : ∀ receiving, receiver.receiving = some receiving →
      ∃ path, store.place? receiving.temporary = some path ∧ P path) :
    store'.fs.WellFormed ∧ ∀ path, ¬ P path → store'.fs.fileAt path = store.fs.fileAt path := by
  unfold Discards at h
  cases hreceiving : receiver.receiving with
  | none =>
    rw [hreceiving] at h
    obtain rfl : store' = store := h
    exact ⟨hwell, fun _ _ ↦ rfl⟩
  | some receiving =>
    rw [hreceiving] at h
    obtain ⟨place, hsome, hgone⟩ := hplace receiving hreceiving
    have hspares := Receiving.discard_spares hsome h
    exact ⟨Receiving.discard_wellFormed hwell h, fun path hnot ↦
      hspares.files path fun heq ↦ hnot (heq ▸ hgone)⟩

variable {requestId : String} {message : Message} {command : Command}
variable {world mid : World Channel} {result : Except ExchangeError Unit}

/-- **An upload that could not be opened** has made directories at most. -/
theorem Keeps.notOpened {error : ExchangeError} {world' : World Channel}
    (h : receiver.Keeps first announced world.store)
    (hfresh : ∀ credentials, message.credentials? = some credentials →
      world.store.Fresh credentials.url)
    (hopen : (openTemporary message).run.run world = (.error error, world')) :
    receiver.Keeps first announced world'.store ∧ world.Untouched first world' := by
  have hgrown : world.OnStore world' ∧ world'.store.root = world.store.root ∧
      world.store.fs.Grown world'.store.fs := by
    cases hcredentials : message.credentials? with
    | none =>
      unfold openTemporary at hopen
      rcases bind_cases hopen with ⟨cause, hconnect, -⟩ | ⟨url, last, hconnect, -⟩
      · obtain ⟨hstore, hrecords, -⟩ := World.connect_cases hconnect
        exact ⟨hstore, hrecords.root, hrecords.grown.fs⟩
      · obtain ⟨-, -, -, hurl⟩ := World.connect_cases hconnect
        obtain ⟨credentials, hsome, -⟩ := hurl _ rfl
        rw [hcredentials] at hsome
        cases hsome
    | some credentials =>
      obtain ⟨hstore, hroot, ⟨-, hgrown⟩ | ⟨_, _, _, hok, -⟩⟩ :=
        openTemporary_cases h.wellFormed (hfresh credentials hcredentials).unused hopen
      · exact ⟨hstore, hroot, hgrown⟩
      · cases hok
  obtain ⟨hstore, hroot, hgrown⟩ := hgrown
  obtain ⟨-, htells, hfiles⟩ | ⟨_, _, _, _, -, hok, -⟩ := openTemporary_tells hopen
  · refine ⟨⟨hgrown.wellFormed h.wellFormed, Nat.le_trans h.numbered htells.tokens,
      fun receiving hreceiving ↦ ?_⟩, ⟨fun path _ ↦ hgrown.files h.wellFormed path, ?_, ?_⟩⟩
    · obtain ⟨hfailed, upload, path, hupload, hhand⟩ := h.inHand receiving hreceiving
      exact ⟨hfailed, upload, path, hupload, hhand.target, hhand.staged.grown hgrown hroot hfiles,
        hhand.temporary.mono htells.tokens, hhand.apart⟩
    · rw [htells.ledger_eq]
      rfl
    · exact ⟨[], by rw [hstore.outlet, List.append_nil], nofun⟩
  · cases hok

/-- **An upload that has been opened is in hand**, and the one from before is not any more. -/
theorem Keeps.opened {receiving : Receiving} {opened : World Channel} {store : Store}
    (h : receiver.Keeps first announced world.store)
    (hfresh : ∀ credentials, message.credentials? = some credentials →
      world.store.Fresh credentials.url)
    (hopen : (openTemporary message).run.run world = (.ok receiving, opened))
    (hdiscards : receiver.Discards opened.store store)
    (hsend : (World.send (.of requestId .uploadInitResp (.status .success))).run.run
      { opened with store } = (result, mid)) :
    Keeps first (message.credentials?.map (⟨·.url, ByteArray.empty⟩)) ⟨some receiving, false, false⟩
      mid.store ∧ world.Untouched first mid := by
  rcases openTemporary_tells hopen with ⟨⟨_, herror⟩, -⟩ |
    ⟨credentials, parent, name, content, hcredentials, hok, htells, hfiles, htokens⟩
  · cases herror
  have hfresh := hfresh credentials hcredentials
  obtain ⟨hstore, hroot, ⟨⟨_, herror⟩, -⟩ |
    ⟨receiving', path, credentials', hok', hsome, htarget, hlast, hstaged, hext, hothers⟩⟩ :=
    openTemporary_cases h.wellFormed hfresh.unused hopen
  · cases herror
  obtain rfl := Except.ok.inj hok'
  obtain rfl : credentials = credentials' := Option.some.inj (hcredentials.symm.trans hsome)
  obtain ⟨ledger, hremoved, -, hrenamed, -⟩ := hdiscards.accounts
  obtain ⟨hchannel, hsent⟩ := World.send_cases hsend
  have hall := htells.trans hremoved
  have hnumber : world.store.tokens < store.tokens :=
    Nat.lt_of_lt_of_le (by omega) hremoved.tokens
  have htemporary : Path.IsTemporary first store.tokens path :=
    ⟨world.store.tokens, h.numbered, hnumber, hlast⟩
  -- the upload from before has its own path, which is temporary as well
  have hprevious : ∀ previous, receiver.receiving = some previous → ∃ place content,
      opened.store.place? previous.temporary = some place ∧
      opened.store.fs.kind? place = some (.file content) ∧ path ≠ place ∧
      Path.IsTemporary first store.tokens place ∧
      ∀ id, receiving.file = some id → previous.file ≠ some id := by
    intro previous hreceiving
    obtain ⟨-, upload, place, -, hhand⟩ := h.inHand previous hreceiving
    obtain ⟨id, hid, hhandles⟩ := hhand.staged.handles
    refine ⟨place, _, Store.place?_mono hroot hext.keepsRoutes hhand.staged.place,
      hext.kept _ _ hhandles.node, ?_, hhand.temporary.mono (Nat.le_of_lt hnumber), ?_⟩
    · rintro rfl
      obtain ⟨above, rfl⟩ := List.getLast?_eq_some_iff.1 hlast
      have hnone : world.store.fs.kind? (above ++ [(temporaryName world.store.tokens).toUTF8]) =
          none := hfresh.unused above
      have hnode := hhandles.node
      rw [hnone] at hnode
      cases hnode
    · intro new hnew heq
      rw [Except.ok.inj hok] at hnew
      obtain rfl := Option.some.inj hnew
      obtain rfl := Option.some.inj (hid.symm.trans heq)
      exact Nat.lt_irrefl _ hhandles.inRange
  have hlast' : receiving.Staged store path ByteArray.empty := by
    unfold Discards at hdiscards
    cases hreceiving : receiver.receiving with
    | none =>
      rw [hreceiving] at hdiscards
      obtain rfl : store = opened.store := hdiscards
      exact hstaged
    | some previous =>
      rw [hreceiving] at hdiscards
      obtain ⟨place, content, hplace, hfile, hne, -, hhandle⟩ := hprevious previous hreceiving
      exact hstaged.discard hplace hfile hne hhandle hdiscards
  obtain ⟨hwell, hspares⟩ := hdiscards.spares hstaged.wellFormed
    (P := Path.IsTemporary first store.tokens) fun previous hreceiving ↦ by
      obtain ⟨place, -, hplace, -, -, htemporary, -⟩ := hprevious previous hreceiving
      exact ⟨place, hplace, htemporary⟩
  rw [hchannel.store, hcredentials]
  refine ⟨⟨hwell, Nat.le_of_lt (Nat.lt_of_le_of_lt h.numbered hnumber), ?_⟩, ?_, ?_, ?_⟩
  · intro held hheld
    obtain rfl := Option.some.inj hheld
    refine ⟨rfl, _, path, rfl, htarget, hlast', htemporary, fun names hnames ↦ ?_⟩
    rw [hlast]
    exact hfresh.target names hnames
  · intro other hnot
    rw [hchannel.store] at hnot ⊢
    rw [hspares other hnot]
    exact hothers other fun heq ↦ hnot (heq ▸ htemporary)
  · rw [hchannel.store, hall.ledger_eq]
    exact hrenamed
  · rw [← hstore.outlet]
    rcases hsent with hsent | ⟨-, hsame⟩
    · refine ⟨_, hsent, fun reply hmem ↦ ?_⟩
      rw [List.mem_singleton.1 hmem, Message.command?_of]
      simp
    · exact ⟨[], hsame.trans (List.append_nil _).symm, nofun⟩

/-- **A piece that was written is in hand**, behind those before it. -/
theorem Keeps.piece {data : ByteArray} {receiving : Receiving} {action : ShareM Unit}
    {store : Store} (h : receiver.Keeps first announced world.store)
    (hreceiving : receiver.receiving = some receiving)
    (haction : receiving.write data = .ok action)
    (hwrite : action.run.run world.store = (.ok (), store)) :
    receiver.Keeps first (announced.map fun upload ↦ ⟨upload.url, upload.bytes ++ data⟩) store ∧
      world.Untouched first { world with store } := by
  obtain ⟨hfailed, upload, path, rfl, hhand⟩ := h.inHand receiving hreceiving
  obtain ⟨more, hstaged, hapart, hall⟩ := hhand.staged.write haction hwrite
  obtain rfl := hall rfl
  have htells := Receiving.write_tells haction hwrite
  have htemporary := hhand.temporary.mono htells.tokens
  refine ⟨⟨hstaged.wellFormed, Nat.le_trans h.numbered htells.tokens, fun held hheld ↦ ?_⟩,
    fun other hnot ↦ hapart.files other fun heq ↦ hnot (heq ▸ htemporary), ?_, [], ?_, nofun⟩
  · obtain rfl := Option.some.inj (hreceiving.symm.trans hheld)
    exact ⟨hfailed, _, path, rfl, hhand.target, hstaged, htemporary, hhand.apart⟩
  · show (world.store.ledger store).renamed = []
    rw [htells.ledger_eq]
    rfl
  · exact (List.append_nil _).symm

/-- **An upload that is removed was temporary**, whether it was written before or not. -/
theorem Keeps.removed {receiving : Receiving} {path : Path} {mid store : Store} {ledger : Ledger}
    (h : receiver.Keeps first announced world.store)
    (htemporary : Path.IsTemporary first world.store.tokens path)
    (hwell : mid.fs.WellFormed) (hspares : ∀ other, other ≠ path →
      mid.fs.fileAt other = world.store.fs.fileAt other)
    (hplace : mid.place? receiving.temporary = some path)
    (htells : world.store.Tells mid ledger) (hrenamed : ledger.renamed = [])
    (hdiscard : receiving.discard.run mid = ((), store)) :
    (store.fs.WellFormed ∧ first ≤ store.tokens) ∧ world.Untouched first { world with store } := by
  have hall := htells.trans (Receiving.discard_tells hdiscard)
  have hgone := Receiving.discard_spares hplace hdiscard
  refine ⟨⟨Receiving.discard_wellFormed hwell hdiscard, Nat.le_trans h.numbered hall.tokens⟩,
    fun other hnot ↦ ?_, ?_, [], ?_, nofun⟩
  · have hne : other ≠ path := fun heq ↦ hnot (heq ▸ htemporary.mono hall.tokens)
    exact (hgone.files other hne).trans (hspares other hne)
  · show (world.store.ledger store).renamed = []
    rw [hall.ledger_eq]
    show ledger.renamed ++ [] = []
    rw [hrenamed, List.append_nil]
  · exact (List.append_nil _).symm

/-- **A piece that could not be written whole** takes the upload with it. -/
theorem Keeps.torn {data : ByteArray} {receiving : Receiving} {action : ShareM Unit}
    {error : ShareError} {mid store : Store} (h : receiver.Keeps first announced world.store)
    (hreceiving : receiver.receiving = some receiving)
    (haction : receiving.write data = .ok action)
    (hwrite : action.run.run world.store = (.error error, mid))
    (hdiscard : receiving.discard.run mid = ((), store)) :
    (store.fs.WellFormed ∧ first ≤ store.tokens) ∧ world.Untouched first { world with store } := by
  obtain ⟨-, upload, path, rfl, hhand⟩ := h.inHand receiving hreceiving
  obtain ⟨more, hstaged, hapart, -⟩ := hhand.staged.write haction hwrite
  exact h.removed hhand.temporary hstaged.wellFormed hapart.files hstaged.place
    (Receiving.write_tells haction hwrite) rfl hdiscard

/-- **An upload that could not be put into its place** is gone, and its target is as it was. -/
theorem Keeps.uncommitted {receiving : Receiving} {error : ShareError} {mid store : Store}
    (h : receiver.Keeps first announced world.store)
    (hreceiving : receiver.receiving = some receiving)
    (hcommit : receiving.commit.run.run world.store = (.error error, mid))
    (hdiscard : ({ receiving with file := none } : Receiving).discard.run mid = ((), store))
    :
    (store.fs.WellFormed ∧ first ≤ store.tokens) ∧ world.Untouched first { world with store } := by
  obtain ⟨-, upload, path, rfl, hhand⟩ := h.inHand receiving hreceiving
  obtain ⟨hroot, hwell, ⟨-, hsame⟩ | ⟨hok, -⟩⟩ := hhand.staged.commit hcommit
  · rcases Receiving.commit_tells hcommit with ⟨hok, -⟩ | ⟨-, htells⟩
    · cases hok
    · refine h.removed hhand.temporary hwell (fun other _ ↦ by rw [hsame]) ?_ htells rfl hdiscard
      exact (Store.place?_congr hroot hsame).trans hhand.staged.place
  · cases hok

/-- **What is left behind is removed**, if there is anything. -/
theorem Keeps.discarded {store : Store} (h : receiver.Keeps first announced world.store)
    (hdiscards : receiver.Discards world.store store) :
    (store.fs.WellFormed ∧ first ≤ store.tokens) ∧ world.Untouched first { world with store } := by
  unfold Discards at hdiscards
  cases hreceiving : receiver.receiving with
  | none =>
    rw [hreceiving] at hdiscards
    obtain rfl : store = world.store := hdiscards
    exact ⟨⟨h.wellFormed, h.numbered⟩, .of_records ⟨rfl, rfl, rfl, rfl⟩ (.refl _) rfl⟩
  | some receiving =>
    rw [hreceiving] at hdiscards
    obtain ⟨-, upload, path, rfl, hhand⟩ := h.inHand receiving hreceiving
    exact h.removed hhand.temporary h.wellFormed (fun _ _ ↦ rfl) hhand.staged.place (.refl _) rfl
      hdiscards

/-- **An upload that is put into its place** is there as it was announced. -/
theorem Keeps.committed {receiving : Receiving} {store : Store}
    (h : receiver.Keeps first announced world.store)
    (hreceiving : receiver.receiving = some receiving)
    (hcommit : receiving.commit.run.run world.store = (.ok (), store))
    (hsend : (World.send (.of requestId .uploadEndResp (.status .success))).run.run
      { world with store } = (result, mid)) :
    (mid.store.fs.WellFormed ∧ first ≤ mid.store.tokens) ∧
      ∃ upload, announced = some upload ∧ world.Replaced first requestId upload mid := by
  obtain ⟨-, upload, path, rfl, hhand⟩ := h.inHand receiving hreceiving
  obtain ⟨hchannel, hsent⟩ := World.send_cases hsend
  obtain ⟨-, hwell, ⟨⟨_, herror⟩, -⟩ | ⟨-, target, htarget, hthere⟩⟩ :=
    hhand.staged.commit hcommit
  · cases herror
  rcases Receiving.commit_tells hcommit with ⟨-, htells⟩ | ⟨⟨_, herror⟩, -⟩
  · rw [hhand.target] at htarget htells
    have hne : target ≠ path := by
      rintro rfl
      obtain ⟨steps, hsteps, -⟩ := Store.place?_eq_some.1 htarget
      obtain ⟨names, hnames, -⟩ := Store.steps?_cases hsteps
      exact hhand.apart names hnames (Store.getLast?_place? htarget hnames).symm
    obtain ⟨hbytes, hothers⟩ := hthere hne
    rw [hchannel.store]
    refine ⟨⟨hwell, Nat.le_trans h.numbered htells.tokens⟩, upload, rfl, ?_, ?_, ?_⟩
    · rw [hchannel.store, htells.ledger_eq]
      exact ⟨_, rfl⟩
    · rw [hchannel.store]
      refine ⟨target, htarget, hbytes, fun other hnot hother ↦ hothers other (fun heq ↦ ?_) hother⟩
      exact hnot (heq ▸ hhand.temporary.mono htells.tokens)
    · rcases hsent with hsent | ⟨-, hsame⟩
      · exact .inr hsent
      · exact .inl hsame
  · cases herror

/-- **What a message does**: a responder holds on to what has been announced, and no target is
touched but by the end of an upload, which replaces its target as a whole. -/
theorem Takes.keeps (h : receiver.Keeps first announced world.store)
    (hcommand : message.command? = some command)
    (hfresh : command = .uploadInitReq → ∀ credentials, message.credentials? = some credentials →
      world.store.Fresh credentials.url)
    (htakes : receiver.Takes requestId message world command result receiver' mid) :
    receiver'.Keeps first (Announced.take announced message result) mid.store ∧
      (world.Untouched first mid ∨ command = .uploadEndReq ∧ isDone result = true ∧
        ∃ upload, announced = some upload ∧ world.Replaced first requestId upload mid) := by
  have hsame : world.Untouched first world := .of_records ⟨rfl, rfl, rfl, rfl⟩ (.refl _) rfl
  have hsent : ∀ {reply last}, (World.send reply).run.run last = (result, mid) →
      isDone result = true := by
    intro reply last hsend
    cases result with
    | ok _ => rfl
    | error error =>
      obtain ⟨cause, rfl⟩ := World.send_error hsend
      rfl
  cases htakes with
  | notOpened hopen =>
    obtain ⟨hkeeps, huntouched⟩ := h.notOpened (hfresh rfl) hopen
    refine ⟨?_, .inl huntouched⟩
    rw [Announced.take, isDone_openTemporary hopen]
    exact hkeeps
  | opened hopen hdiscards hsend =>
    obtain ⟨hkeeps, huntouched⟩ := h.opened (hfresh rfl) hopen hdiscards hsend
    refine ⟨?_, .inl huntouched⟩
    rw [Announced.take, hsent hsend, hcommand]
    exact hkeeps
  | dropped _ hfailed =>
    refine ⟨⟨h.wellFormed, h.numbered, fun receiving hreceiving ↦ ?_⟩, .inl hsame⟩
    obtain ⟨hnot, -⟩ := h.inHand receiving hreceiving
    rw [hfailed] at hnot
    cases hnot
  | malformed => exact ⟨h, .inl hsame⟩
  | unexpected _ _ hnone => exact ⟨.of_none ⟨h.wellFormed, h.numbered⟩ hnone, .inl hsame⟩
  | piece _ hdata hreceiving haction hwrite =>
    obtain ⟨hkeeps, huntouched⟩ := h.piece hreceiving haction hwrite
    refine ⟨?_, .inl huntouched⟩
    rw [Announced.take, hcommand, hdata]
    exact hkeeps
  | torn _ _ hreceiving haction hwrite hdiscard =>
    obtain ⟨hleft, huntouched⟩ := h.torn hreceiving haction hwrite hdiscard
    exact ⟨.of_none hleft rfl, .inl huntouched⟩
  | committed _ hreceiving hcommit hsend =>
    obtain ⟨hleft, upload, hupload, hreplaced⟩ := h.committed hreceiving hcommit hsend
    exact ⟨.of_none hleft rfl, .inr ⟨rfl, hsent hsend, upload, hupload, hreplaced⟩⟩
  | uncommitted _ hreceiving hcommit hdiscard =>
    obtain ⟨hleft, huntouched⟩ := h.uncommitted hreceiving hcommit hdiscard
    exact ⟨.of_none hleft rfl, .inl huntouched⟩
  | abandoned hdiscards =>
    obtain ⟨hleft, huntouched⟩ := h.discarded hdiscards
    exact ⟨.of_none hleft rfl, .inl huntouched⟩

end Receiver

/-! ### Runs -/

/-- What is wrong with a message that is refused has nothing to do with the session. -/
theorem Exchange.isDone_check {exchange : Exchange} {message : Message} {error : ExchangeError}
    (h : exchange.check message = .error error) : isDone (.error error) = false := by
  rcases of_check_eq_error h with rfl | rfl <;> rfl

namespace Side

variable {side : Side} {requestId : String} {receiver : Receiver} {first : Nat}
variable {announced : Option Announced}

/-- What has been done is not told as a failure. -/
theorem told_of_isDone {result : Except ExchangeError Unit} (h : isDone result = true)
    (world : World Channel) : told requestId result world = world := by
  cases result with
  | ok _ => rfl
  | error error =>
    cases error with
    | session cause => rfl
    | _ => cases h

/-- The temporary name that comes next is fresh when an upload is about to be opened. -/
def FreshFor (side : Side) (happening : Happening) : Prop :=
  ∀ message credentials, happening = .message message →
    message.requestId = side.exchange.requestId → message.command? = some .uploadInitReq →
    message.credentials? = some credentials → side.world.store.Fresh credentials.url

/-- **Temporary names are fresh along a run**: no entry has the name when it is given out, and the
target does not have it either. -/
def NamesFresh (side : Side) : List Happening → Prop
  | [] => True
  | happening :: rest => side.FreshFor happening ∧ (side.meet happening).NamesFresh rest

theorem NamesFresh.append {before after : List Happening} (h : side.NamesFresh (before ++ after)) :
    side.NamesFresh before ∧ (side.follow before).NamesFresh after := by
  induction before generalizing side with
  | nil => exact ⟨trivial, h⟩
  | cons happening before ih =>
    obtain ⟨hnext, hrest⟩ := h
    obtain ⟨hbefore, hafter⟩ := ih hrest
    exact ⟨⟨hnext, hbefore⟩, hafter⟩

/-- **An upload is completed** by the end that is announced: its target is replaced as a whole. -/
def Completes (side : Side) (requestId : String) (first : Nat) (announced : Option Announced)
    (happening : Happening) : Prop :=
  ∃ message upload, happening = .message message ∧ message.requestId = requestId ∧
    message.command? = some .uploadEndReq ∧ announced = some upload ∧
    side.world.Replaced first requestId upload (side.meet happening).world

/-- **Whatever happens to a responder**, it holds on to what has been announced, and no target is
touched but by the end of an upload. -/
theorem meet_keeps (hexchange : side.exchange = ⟨requestId, .responder (.upload receiver)⟩)
    (hkeeps : receiver.Keeps first announced side.world.store) {happening : Happening}
    (hfresh : side.FreshFor happening) :
    (∃ receiver', (side.meet happening).exchange = ⟨requestId, .responder (.upload receiver')⟩ ∧
      receiver'.Keeps first (side.announced announced [happening])
        (side.meet happening).world.store) ∧
      (side.world.Untouched first (side.meet happening).world ∨
        side.Completes requestId first announced happening) := by
  -- what does not concern the responder
  have hidle : (side.meet happening).exchange = side.exchange →
      side.announced announced [happening] = announced →
      side.world.store.Records (side.meet happening).world.store →
      side.world.Untouched first (side.meet happening).world →
      (∃ receiver', (side.meet happening).exchange = ⟨requestId, .responder (.upload receiver')⟩ ∧
        receiver'.Keeps first (side.announced announced [happening])
          (side.meet happening).world.store) ∧
        (side.world.Untouched first (side.meet happening).world ∨
          side.Completes requestId first announced happening) := by
    intro hsame hannounced hrecords huntouched
    rw [hannounced]
    exact ⟨⟨receiver, hsame.trans hexchange, hkeeps.congr hrecords⟩, .inl huntouched⟩
  have hrecords : side.world.store.Records side.world.store := ⟨rfl, rfl, rfl, rfl⟩
  cases happening with
  | transmit => exact hidle rfl rfl hrecords (.of_records hrecords (.refl _)
      (Channel.underway_transmit _))
  | connection isUp => exact hidle rfl rfl hrecords (.of_records hrecords (.refl _) rfl)
  | faults faults =>
    exact hidle rfl rfl ⟨rfl, rfl, rfl, rfl⟩ (.of_records ⟨rfl, rfl, rfl, rfl⟩
      ⟨[], ⟨(List.append_nil _).symm, Nat.le_refl _⟩, rfl⟩ rfl)
  | quit =>
    rcases quit_receiver hexchange with ⟨-, hquit⟩ | ⟨-, store, hdiscards, hquit⟩
    · have hsame : side.meet .quit = side := hquit
      refine hidle ?_ rfl ?_ ?_
      all_goals rw [hsame]
      · exact hrecords
      · exact .of_records hrecords (.refl _) rfl
    · obtain ⟨hleft, huntouched⟩ := hkeeps.discarded hdiscards
      have hmeet : side.meet .quit = _ := hquit
      rw [hmeet]
      exact ⟨⟨_, rfl, .of_none hleft rfl⟩, .inl huntouched⟩
  | message message =>
    rcases process_takes hexchange (fun receiving ↦ hkeeps.file_ne_none) with
      ⟨error, hcheck, hanswer, hprocess⟩ |
        ⟨command, receiver', mid, hid, hcommand, htakes, hprocess⟩
    all_goals
      have hmeet : side.meet (.message message) = _ := hprocess
    · have htold : side.world.Untouched first side.world := .of_records hrecords (.refl _) rfl
      obtain ⟨hchannel, -⟩ := told_cases message.requestId (.error error) side.world
      refine hidle (by rw [hmeet]) ?_ ?_ ?_
      · rw [Side.announced, Announced.take, hanswer, Exchange.isDone_check hcheck]
        rfl
      · rw [hmeet, hchannel.store]
        exact hrecords
      · rw [hmeet]
        exact htold.told (.error error)
    · have hfresh' : command = .uploadInitReq → ∀ credentials,
          message.credentials? = some credentials → side.world.store.Fresh credentials.url := by
        rintro rfl credentials hcredentials
        exact hfresh message credentials rfl (by rw [hid, hexchange]) hcommand hcredentials
      obtain ⟨hkeeps', hdone⟩ := htakes.keeps hkeeps hcommand hfresh'
      obtain ⟨hchannel, -⟩ := told_cases requestId (side.answer message) mid
      rw [hmeet]
      refine ⟨⟨receiver', rfl, ?_⟩, ?_⟩
      · rw [hchannel.store]
        exact hkeeps'
      · rcases hdone with huntouched | ⟨rfl, hdone, upload, hupload, hreplaced⟩
        · exact .inl (huntouched.told _)
        · refine .inr ⟨message, upload, rfl, hid, hcommand, hupload, ?_⟩
          rw [hmeet, told_of_isDone hdone]
          exact hreplaced

/-- **Along any run**, a responder holds on to what has been announced. -/
theorem follow_keeps (hexchange : side.exchange = ⟨requestId, .responder (.upload receiver)⟩)
    (hkeeps : receiver.Keeps first announced side.world.store) {happenings : List Happening}
    (hfresh : side.NamesFresh happenings) :
    ∃ receiver', (side.follow happenings).exchange = ⟨requestId, .responder (.upload receiver')⟩ ∧
      receiver'.Keeps first (side.announced announced happenings)
        (side.follow happenings).world.store := by
  induction happenings generalizing side receiver announced with
  | nil => exact ⟨receiver, hexchange, hkeeps⟩
  | cons happening rest ih =>
    obtain ⟨hnext, hrest⟩ := hfresh
    obtain ⟨⟨receiver', hexchange', hkeeps'⟩, -⟩ := meet_keeps hexchange hkeeps hnext
    have hannounced : side.announced announced (happening :: rest) =
        (side.meet happening).announced (side.announced announced [happening]) rest := by
      cases happening <;> rfl
    rw [hannounced]
    exact ih hexchange' hkeeps' hrest

/-- **A target is replaced only as a whole.** Whatever has happened to a responder of an upload, in
any order and whatever failed, as long as temporary names were fresh: what happens next leaves all
files as they are, but for temporary ones, and has no upload confirmed; or it is the end of the
upload that is announced, and by one renaming its target holds the pieces that were taken since the
upload was opened, one behind the other. -/
theorem target_replaced_whole {side : Side} {requestId : String}
    (hstart : side.exchange = .ofFamily .responder .upload requestId)
    (hwell : side.world.store.fs.WellFormed) (before : List Happening) (next : Happening)
    (hfresh : side.NamesFresh (before ++ [next])) :
    let now := side.follow before
    let first := side.world.store.tokens
    now.world.Untouched first (now.meet next).world ∨
      now.Completes requestId first (side.announced none before) next := by
  intro now first
  obtain ⟨hbefore, hnext, -⟩ := hfresh.append
  have hkeeps : Receiver.idle.Keeps first none side.world.store :=
    .of_none ⟨hwell, Nat.le_refl _⟩ rfl
  obtain ⟨receiver, hexchange, hkeeps⟩ := follow_keeps hstart hkeeps hbefore
  exact (meet_keeps hexchange hkeeps hnext).2

/-- An upload is opened in the place of an old file, and two pieces of it are taken. -/
def replacingRun : List Happening :=
  [.message (uploadOpening Conversation.smallClient "7"),
    .message (Producer.uploadMessage "7" ⟨#[1, 2]⟩), .transmit,
    .message (Producer.uploadMessage "7" ⟨#[3]⟩)]

theorem namesFresh_replacingRun :
    (Conversation.smallServer.side .responder .upload "7").NamesFresh
      (replacingRun ++ [.message (uploadEnd "7")]) := by
  refine ⟨?_, ?_, ?_, ?_, ?_, trivial⟩
  · intro message credentials hmessage _ _ hcredentials
    obtain rfl := Happening.message.inj hmessage
    obtain rfl := Option.some.inj hcredentials
    exact Conversation.fresh_smallServer
  all_goals
    intro message credentials hmessage _ hcommand _
    cases hmessage
  all_goals exact absurd hcommand (by decide +kernel)

theorem target_replaced_whole_replacingRun :
    let side := Conversation.smallServer.side .responder .upload "7"
    let now := side.follow replacingRun
    side.exchange = .ofFamily .responder .upload "7" ∧ side.world.store.fs.WellFormed ∧
      side.NamesFresh (replacingRun ++ [.message (uploadEnd "7")]) ∧
      now.world.Replaced side.world.store.tokens "7" ⟨"srv/box/old", ⟨#[1, 2, 3]⟩⟩
        (now.meet (.message (uploadEnd "7"))).world := by
  intro side now
  have hstart : side.exchange = .ofFamily .responder .upload "7" := rfl
  have hannounced : side.announced none replacingRun =
      some ⟨"srv/box/old", ⟨#[1, 2, 3]⟩⟩ := by decide +kernel
  have hrenamed : (now.world.store.ledger
      (now.meet (.message (uploadEnd "7"))).world.store).renamed ≠ [] := by decide +kernel
  have hmain : now.world.Untouched side.world.store.tokens
        (now.meet (.message (uploadEnd "7"))).world ∨
      now.Completes "7" side.world.store.tokens (side.announced none replacingRun)
        (.message (uploadEnd "7")) :=
    target_replaced_whole hstart Conversation.wellFormed_smallServer replacingRun
      (.message (uploadEnd "7")) namesFresh_replacingRun
  refine ⟨hstart, Conversation.wellFormed_smallServer, namesFresh_replacingRun, ?_⟩
  rcases hmain with ⟨-, hnone, -⟩ | ⟨message, upload, -, -, -, hupload, hreplaced⟩
  · exact absurd hnone hrenamed
  · rw [hannounced] at hupload
    rw [Option.some.inj hupload]
    exact hreplaced

end Side

end FileShare
