import FileShare.Proofs.Conversation
import FileShare.Proofs.Staging
import FileShare.Proofs.WorldCalls

/-!
# What the responder of an upload does with a message

A responder is told to open an upload, to take pieces of it, to complete it or to forget it. Each of
these is one theorem here, which says what becomes of the responder, of the files of the share and
of the answer, whatever fails.

Two states of a responder are enough to say it. It **writes** an upload (`Receiver.Writes`): the
upload is staged and has not failed. Or it has none (`receiving = none`), and then nothing that it
is told, but for a new opening request, touches a file or has it announce a completed upload.
-/

namespace FileShare

/-- No entry has a name. -/
def FileSystem.Unused (fs : FileSystem) (name : Name) : Prop :=
  ∀ above, fs.kind? (above ++ [name]) = none

/-- A name that no entry of the table ends in is unused. -/
theorem FileSystem.unused_of_nodes {fs : FileSystem} {name : Name}
    (h : ∀ path node, (path, node) ∈ fs.nodes → path.getLast? ≠ some name) : fs.Unused name := by
  intro above
  by_contra hsome
  obtain ⟨node, hnode⟩ := Option.ne_none_iff_exists'.1 (mt kind?_eq_none.2 hsome)
  exact h _ _ (mem_of_node?_eq_some (by simp) hnode) (by simp)

/-- Where only directories have been made, an unused name can only be that of a new one. -/
theorem FileSystem.Unused.kind_of_grown {fs fs' : FileSystem} {name : Name} (h : fs.Unused name)
    (hgrown : fs.Grown fs') (above : Path) (kind : Node)
    (hkind : fs'.kind? (above ++ [name]) = some kind) : kind = .directory 0 := by
  rcases hgrown.fresh _ kind hkind with hthere | hdir
  · rw [h above] at hthere
    cases hthere
  · exact hdir

namespace Receiver

variable {ω : Type} {world world' : World ω}

/-- **The temporary file is opened, or only directories are made.** It is a new file, and its name
is the temporary name that was next. -/
theorem openTemporary_cases [Outlet ω] {message : Message} {result : Except ExchangeError Receiving}
    (hwell : world.store.fs.WellFormed)
    (hunused : world.store.fs.Unused (temporaryName world.store.tokens).toUTF8)
    (h : (openTemporary message).run.run world = (result, world')) :
    world.OnStore world' ∧ world'.store.root = world.store.root ∧
      ((∃ error, result = .error error) ∧ world.store.fs.Grown world'.store.fs ∨
        ∃ receiving path credentials, result = .ok receiving ∧
          message.credentials? = some credentials ∧ receiving.target = credentials.url ∧
          path.getLast? = some (temporaryName world.store.tokens).toUTF8 ∧
          receiving.Staged world'.store path ByteArray.empty ∧
          world.store.fs.Extends world'.store.fs ∧
          ∀ other, other ≠ path → world'.store.fs.fileAt other = world.store.fs.fileAt other) := by
  unfold openTemporary at h
  rcases bind_cases h with ⟨error, hconnect, rfl⟩ | ⟨url, first, hconnect, h⟩
  · obtain ⟨hstore, hrecords, -⟩ := World.connect_cases hconnect
    exact ⟨hstore, hrecords.root, .inl ⟨⟨_, rfl⟩, hrecords.grown.fs⟩⟩
  obtain ⟨hstore, hrecords, -, hurl⟩ := World.connect_cases hconnect
  obtain ⟨credentials, hcredentials, rfl⟩ := hurl _ rfl
  split at h
  · obtain ⟨rfl, rfl⟩ := Prod.mk.inj h
    exact ⟨hstore, hrecords.root, .inl ⟨⟨_, rfl⟩, hrecords.grown.fs⟩⟩
  rename_i parent hparent
  rw [bind_lift_run, bind_get_run, bind_modify_run] at h
  rcases hbranch : (Share.makeBranch parent).run.run first.store with ⟨made, second⟩
  have hgrown : first.store.Grown second := Share.grown_makeBranch parent hbranch
  rw [World.tolerate_run hbranch] at h
  dsimp only at h
  -- what was opened is a new file, under the temporary name that was next
  have hall := hrecords.grown.trans hgrown
  have htokens : second.tokens = world.store.tokens := hall.tokens
  rw [htokens] at h
  obtain ⟨third, hthird⟩ : ∃ third : Store,
      third = { second with tokens := world.store.tokens + 1 } := ⟨_, rfl⟩
  have hfs : third.fs = second.fs := by rw [hthird]
  have hroot : third.root = world.store.root := by rw [hthird]; exact hall.root
  have hthirdGrown : world.store.fs.Grown third.fs := by rw [hfs]; exact hall.fs
  rw [← hthird] at h
  rcases hopened : (Share.openFile (Url.join parent (temporaryName world.store.tokens))
    .create).run.run third with ⟨answer, last⟩
  obtain ⟨hlastRoot, hopen⟩ := Receiving.staged_openFile credentials.url
    (hthirdGrown.wellFormed hwell) (hunused.kind_of_grown hthirdGrown)
    (fun _ hnames ↦ getLast?_names?_temporary hnames) hopened
  rcases bind_cases h with ⟨error, hrun, rfl⟩ | ⟨id, mid, hrun, h⟩
  all_goals
    rw [World.share_run, hopened] at hrun
    obtain ⟨hanswer, rfl⟩ := Prod.mk.inj hrun
  · refine ⟨⟨hstore.outlet, hstore.workDir, hstore.hasShares, hstore.outcome⟩,
      hlastRoot.trans hroot, .inl ⟨⟨_, rfl⟩, ?_⟩⟩
    rcases hopen with ⟨-, hfs⟩ | ⟨id, path, rfl, -⟩
    · show world.store.fs.Grown last.fs
      rw [hfs]
      exact hthirdGrown
    · cases hanswer
  · obtain ⟨rfl, rfl⟩ := Prod.mk.inj h
    refine ⟨⟨hstore.outlet, hstore.workDir, hstore.hasShares, hstore.outcome⟩,
      hlastRoot.trans hroot, .inr ?_⟩
    rcases hopen with ⟨⟨error, rfl⟩, -⟩ | ⟨id', path, rfl, hlast, hstaged, hext, hfiles⟩
    · cases hanswer
    · obtain rfl := Except.ok.inj hanswer
      exact ⟨_, path, credentials, rfl, hcredentials, rfl, hlast, hstaged,
        hthirdGrown.kept.trans hext,
        fun other hne ↦ (hfiles other hne).trans (hthirdGrown.files hwell other)⟩

/-! ### Writing an upload -/

/-- A responder **writes** an upload for a target: it is staged, and has neither failed nor been
finished. -/
structure Writes (receiver : Receiver) (url : String) (store : Store) (path : Path)
    (written : ByteArray) : Prop where
  staged : ∃ receiving, receiver.receiving = some receiving ∧ receiving.target = url ∧
    receiving.Staged store path written
  sound : receiver.failed = false
  unfinished : receiver.finished = false

variable {receiver receiver' : Receiver} {url : String} {path : Path} {written : ByteArray}
variable {message : Message} {result : Except ExchangeError Unit}

theorem Writes.congr {store store' : Store} (h : receiver.Writes url store path written)
    (hrecords : store.Records store') : receiver.Writes url store' path written := by
  obtain ⟨receiving, hreceiving, htarget, hstaged⟩ := h.staged
  exact ⟨⟨receiving, hreceiving, htarget,
    hstaged.congr hrecords.fs hrecords.root hrecords.files⟩, h.sound, h.unfinished⟩

/-- **To discard what is written leaves all other files alone**, and nothing is written any more. -/
theorem discard_spares
    (hplace : ∀ receiving, receiver.receiving = some receiving →
      world.store.place? receiving.temporary = some path)
    (h : receiver.discard.run world = (receiver', world')) :
    receiver' = { receiver with receiving := none } ∧ world.OnStore world' ∧
      world.store.Spares world'.store path := by
  unfold discard at h
  cases hreceiving : receiver.receiving with
  | none =>
    rw [hreceiving] at h
    obtain ⟨rfl, rfl⟩ := Prod.mk.inj h
    exact ⟨rfl, ⟨rfl, rfl, rfl, rfl⟩, .refl _ _⟩
  | some receiving =>
    rw [hreceiving] at h
    obtain ⟨rfl, rfl⟩ := Prod.mk.inj h
    exact ⟨rfl, ⟨rfl, rfl, rfl, rfl⟩,
      Receiving.discard_spares (hplace receiving hreceiving) rfl⟩

theorem abort_run (receiver : Receiver) (error : ExchangeError) (world : World ω) :
    (receiver.abort error).run world =
      ((.error error, { (receiver.discard.run world).1 with failed := true }),
        (receiver.discard.run world).2) := rfl

/-- **A piece is appended, or the upload is gone.** -/
theorem Writes.accept {data : ByteArray} (h : receiver.Writes url world.store path written)
    (hdata : message.uploadData? = some data)
    (hrun : (receiver.accept message).run world = ((result, receiver'), world')) :
    world.OnStore world' ∧ world.store.Spares world'.store path ∧
      (result = .ok () ∧ receiver'.Writes url world'.store path (written ++ data) ∧
          world.store.fs.Extends world'.store.fs ∨
        receiver'.receiving = none) := by
  obtain ⟨receiving, hreceiving, htarget, hstaged⟩ := h.staged
  obtain ⟨id, hid, -⟩ := hstaged.handles
  have haction : receiving.write data = .ok (receiving.writeAll id data.size data) := by
    unfold Receiving.write
    rw [hid]
  unfold Receiver.accept at hrun
  rw [h.sound, hdata, hreceiving] at hrun
  simp only [Bool.false_eq_true, if_false, haction] at hrun
  rcases hwrite : (receiving.writeAll id data.size data).run.run world.store with ⟨answer, mid⟩
  obtain ⟨more, hmore, hapart, hall⟩ := hstaged.write haction hwrite
  rw [StateT.run_bind, World.share_run, hwrite] at hrun
  cases answer with
  | ok _ =>
    obtain ⟨rfl, rfl, rfl⟩ := run_inj hrun
    rw [hall rfl] at hmore
    exact ⟨⟨rfl, rfl, rfl, rfl⟩, hapart.toSpares,
      .inl ⟨rfl, ⟨⟨receiving, hreceiving, htarget, hmore⟩, h.sound, h.unfinished⟩,
        hapart.extends_fs⟩⟩
  | error error =>
    change (receiver.abort (.share error)).run { world with store := mid } = _ at hrun
    rw [abort_run] at hrun
    rcases hdiscard : receiver.discard.run { world with store := mid } with ⟨receiver1, last⟩
    rw [hdiscard] at hrun
    obtain ⟨rfl, rfl, rfl⟩ := run_inj hrun
    obtain ⟨rfl, hstore, hspares⟩ := discard_spares (fun receiving' hsome ↦ by
      rw [hreceiving] at hsome
      obtain rfl := Option.some.inj hsome
      exact hmore.place) hdiscard
    exact ⟨⟨hstore.outlet, hstore.workDir, hstore.hasShares, hstore.outcome⟩,
      hapart.toSpares.trans hspares, .inr rfl⟩

/-- **What is abandoned is gone.** -/
theorem Writes.abandon (h : receiver.Writes url world.store path written)
    (hrun : receiver.abandon.run world = ((result, receiver'), world')) :
    world.OnStore world' ∧ world.store.Spares world'.store path ∧ receiver'.receiving = none := by
  obtain ⟨receiving, hreceiving, -, hstaged⟩ := h.staged
  rcases hdiscard : receiver.discard.run world with ⟨receiver1, last⟩
  obtain ⟨rfl, hstore, hspares⟩ := discard_spares (fun receiving' hsome ↦ by
    rw [hreceiving] at hsome
    obtain rfl := Option.some.inj hsome
    exact hstaged.place) hdiscard
  unfold Receiver.abandon at hrun
  rw [StateT.run_bind, hdiscard] at hrun
  obtain ⟨rfl, rfl, rfl⟩ := run_inj hrun
  exact ⟨hstore, hspares, rfl⟩

/-- **To quit leaves nothing behind**, and touches no other file. -/
theorem Writes.quit (h : receiver.Writes url world.store path written)
    (hrun : receiver.quit.run world = (receiver', world')) :
    world.OnStore world' ∧ world.store.Spares world'.store path ∧ receiver'.receiving = none := by
  obtain ⟨receiving, hreceiving, -, hstaged⟩ := h.staged
  unfold Receiver.quit at hrun
  rw [h.unfinished] at hrun
  obtain ⟨rfl, hstore, hspares⟩ := discard_spares (fun receiving' hsome ↦ by
    rw [hreceiving] at hsome
    obtain rfl := Option.some.inj hsome
    exact hstaged.place) hrun
  exact ⟨hstore, hspares, rfl⟩

/-- **To complete an upload puts all that was written into the place of the target**, and confirms
it; or the upload is gone, and all other files are as they were. -/
theorem Writes.complete {world world' : World Channel} {requestId : String}
    (h : receiver.Writes url world.store path written)
    (hrun : (receiver.complete requestId).run world = ((result, receiver'), world')) :
    receiver'.receiving = none ∧ world'.store.root = world.store.root ∧
      (world.OnStore world' ∧ world.store.Spares world'.store path ∨
        ∃ target, world.store.place? url = some target ∧
          (target ≠ path → world'.store.fs.fileAt target = some written ∧
            ∀ other, other ≠ path → other ≠ target →
              world'.store.fs.fileAt other = world.store.fs.fileAt other) ∧
          (world'.outlet.underway = world.outlet.underway ∨
            world'.outlet.underway = world.outlet.underway ++
              [.of requestId .uploadEndResp (.status .success)])) := by
  obtain ⟨receiving, hreceiving, rfl, hstaged⟩ := h.staged
  rcases hcommit : receiving.commit.run.run world.store with ⟨answer, mid⟩
  obtain ⟨hroot, -, hdone⟩ := hstaged.commit hcommit
  unfold Receiver.complete at hrun
  rw [h.sound, hreceiving] at hrun
  simp only [Bool.false_eq_true, if_false] at hrun
  rw [StateT.run_bind, World.share_run, hcommit] at hrun
  cases answer with
  | error error =>
    change (({ receiver with receiving := some { receiving with file := none } } :
      Receiver).abort (.share error)).run { world with store := mid } = _ at hrun
    rw [abort_run] at hrun
    rcases hdiscard : ({ receiver with receiving := some { receiving with file := none } } :
      Receiver).discard.run { world with store := mid } with ⟨receiver1, last⟩
    rw [hdiscard] at hrun
    obtain ⟨rfl, rfl, rfl⟩ := run_inj hrun
    rcases hdone with ⟨-, hfs⟩ | ⟨hok, -⟩
    · obtain ⟨rfl, hstore, hspares⟩ := discard_spares (fun receiving' hsome ↦ by
        obtain rfl := Option.some.inj hsome
        exact (Store.place?_congr hroot hfs).trans hstaged.place) hdiscard
      exact ⟨rfl, hspares.root.trans hroot,
        .inl ⟨⟨hstore.outlet, hstore.workDir, hstore.hasShares, hstore.outcome⟩,
          hspares.root.trans hroot,
          fun other hne ↦ (hspares.files other hne).trans (by rw [hfs])⟩⟩
    · cases hok
  | ok _ =>
    rcases hsend : (World.send (.of requestId .uploadEndResp (.status .success))).run.run
      { world with store := mid } with ⟨told, last⟩
    change ((World.send (.of requestId .uploadEndResp (.status .success))).run >>= fun told ↦
      pure (told, (⟨none, false, true⟩ : Receiver)) : WorldM Channel (Handled Receiver)).run
        { world with store := mid } = _ at hrun
    rw [StateT.run_bind, hsend] at hrun
    obtain ⟨rfl, rfl, rfl⟩ := run_inj hrun
    obtain ⟨hchannel, hsent⟩ := World.send_cases hsend
    rcases hdone with ⟨⟨error, herror⟩, -⟩ | ⟨-, target, htarget, hthere⟩
    · cases herror
    · refine ⟨rfl, by rw [hchannel.store]; exact hroot, .inr ⟨target, htarget, ?_, ?_⟩⟩
      · rw [hchannel.store]
        exact hthere
      · exact (hsent.imp id And.right).symm

/-- **An upload is begun**: it is written from then on, and confirmed. If it cannot be begun, only
directories are made. -/
theorem begin_cases {world world' : World Channel} {requestId : String}
    {credentials : Credentials} (hnone : receiver.receiving = none)
    (hcredentials : message.credentials? = some credentials) (hwell : world.store.fs.WellFormed)
    (hunused : world.store.fs.Unused (temporaryName world.store.tokens).toUTF8)
    (hrun : (receiver.begin requestId message).run world = ((result, receiver'), world')) :
    receiver' = receiver ∧ world.OnStore world' ∧ world'.store.root = world.store.root ∧
        world.store.fs.Grown world'.store.fs ∨
      ∃ path, receiver'.Writes credentials.url world'.store path ByteArray.empty ∧
        path.getLast? = some (temporaryName world.store.tokens).toUTF8 ∧
        world.store.fs.Extends world'.store.fs ∧ world.store.Spares world'.store path ∧
        (world'.outlet.underway = world.outlet.underway ∨
          world'.outlet.underway = world.outlet.underway ++
            [.of requestId .uploadInitResp (.status .success)]) := by
  rcases hopen : (openTemporary message).run.run world with ⟨opened, mid⟩
  obtain ⟨hstore, hroot, hcases⟩ := openTemporary_cases hwell hunused hopen
  unfold Receiver.begin at hrun
  rw [StateT.run_bind, hopen] at hrun
  rcases hcases with ⟨⟨error, rfl⟩, hgrown⟩ |
    ⟨receiving, path, credentials', rfl, hsome, htarget, hlast, hstaged, hext, hfiles⟩
  · obtain ⟨rfl, rfl, rfl⟩ := run_inj hrun
    exact .inl ⟨rfl, hstore, hroot, hgrown⟩
  · obtain rfl : credentials = credentials' := Option.some.inj (hcredentials.symm.trans hsome)
    have hdiscard : receiver.discard.run mid = (receiver, mid) := by
      unfold Receiver.discard
      cases receiver with
      | mk receivingBefore failed finished =>
        obtain rfl : receivingBefore = none := hnone
        rfl
    change (receiver.discard >>= fun _ ↦
      (World.send (.of requestId .uploadInitResp (.status .success))).run >>= fun told ↦
        pure (told, (⟨some receiving, false, false⟩ : Receiver)) :
          WorldM Channel (Handled Receiver)).run mid = _ at hrun
    rcases hsend : (World.send (.of requestId .uploadInitResp (.status .success))).run.run mid
      with ⟨told, last⟩
    rw [StateT.run_bind, hdiscard] at hrun
    change ((World.send (.of requestId .uploadInitResp (.status .success))).run >>= fun told ↦
        pure (told, (⟨some receiving, false, false⟩ : Receiver)) :
          WorldM Channel (Handled Receiver)).run mid = _ at hrun
    rw [StateT.run_bind, hsend] at hrun
    obtain ⟨rfl, rfl, rfl⟩ := run_inj hrun
    obtain ⟨hchannel, hsent⟩ := World.send_cases hsend
    refine .inr ⟨path, ?_⟩
    rw [hchannel.store]
    refine ⟨⟨⟨receiving, rfl, htarget, hstaged⟩, rfl, rfl⟩, hlast, hext, ⟨hroot, hfiles⟩, ?_⟩
    rw [← hstore.outlet]
    exact (hsent.imp id And.right).symm

/-! ### No upload -/

variable {ω : Type} {world : World ω}

/-- **Without an upload, there is nothing to discard.** -/
theorem discard_run_of_none (hnone : receiver.receiving = none) :
    receiver.discard.run world = (receiver, world) := by
  cases receiver with
  | mk receiving failed finished =>
    obtain rfl : receiving = none := hnone
    rfl

/-- Without an upload, a piece is dropped. -/
theorem accept_of_none (hnone : receiver.receiving = none) :
    ∃ result failed, (receiver.accept message).run world =
      ((result, { receiver with failed }), world) := by
  cases receiver with
  | mk receiving failed finished =>
    obtain rfl : receiving = none := hnone
    unfold Receiver.accept
    cases failed with
    | true => exact ⟨_, true, rfl⟩
    | false =>
      cases hdata : message.uploadData? with
      | none => exact ⟨_, false, rfl⟩
      | some data => exact ⟨_, true, rfl⟩

/-- Without an upload, none is completed. -/
theorem complete_of_none [Outlet ω] {requestId : String} (hnone : receiver.receiving = none) :
    ∃ result failed, (receiver.complete requestId).run world =
      ((result, { receiver with failed }), world) := by
  cases receiver with
  | mk receiving failed finished =>
    obtain rfl : receiving = none := hnone
    unfold Receiver.complete
    cases failed with
    | true => exact ⟨_, true, rfl⟩
    | false => exact ⟨_, true, rfl⟩

/-- Without an upload, none is abandoned. -/
theorem abandon_of_none (hnone : receiver.receiving = none) :
    receiver.abandon.run world =
      ((.ok (), { receiver with failed := true, finished := true }), world) := by
  unfold Receiver.abandon
  rw [StateT.run_bind, discard_run_of_none hnone]
  rfl

/-- Without an upload, there is nothing to leave behind. -/
theorem quit_of_none (hnone : receiver.receiving = none) :
    receiver.quit.run world = (receiver, world) := by
  unfold Receiver.quit
  split
  · rfl
  · exact discard_run_of_none hnone

end Receiver

end FileShare
