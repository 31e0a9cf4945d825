import FileShare.Proofs.Conversation

/-!
# What handlers are made of

Whatever a side does about a message, it does in three ways: it changes the shares and the files, it
sends messages, and it reports an outcome. In between it may look at the world, but never at what
waits in its outlet.

* **`World.Resembles`** relates two worlds in which there is the same to see: they differ at most in
  what waits in their outlets, and in how much may wait.
* **`Composed`** is a computation that is made of such parts, and in which no other messages are
  sent than those that may be said. All handlers are composed, of both sides
  (`Exchange.composed_process`), and so is stopping them (`Exchange.composed_quit`), as long as
  all that suits the other side may be said to it (`Permits`).

So whatever holds of the parts and is passed on from one to the next holds of every handler. The
proofs follow the definitions.

A responder has something to say about whatever it is told. An initiator says nothing, unless it is
told that its transfer may go on (`Exchange.Heeds`).

A background job is made of the same parts, except that it looks for room. Its producer does not
(`Producer.composed_advance`).

The last section is about the exchange itself. Whatever it is told and whatever its job does, its
id, its family and its side stay the same (`Exchange.Continues`).
-/

namespace FileShare

variable {ω : Type} [Outlet ω] {α β : Type} {may : Message → Prop}

/-- **Two worlds in which there is the same to see**, but for what waits in the outlet. -/
structure World.Resembles (world other : World ω) : Prop where
  store : other.store = world.store
  hasShares : other.hasShares = world.hasShares
  workDir : other.workDir = world.workDir
  outcome : other.outcome = world.outcome
  isCancelled : Outlet.isCancelled other.outlet = Outlet.isCancelled world.outlet

/-! ### What may be said -/

/-- **A message that suits a side of an exchange**, on its way to it: it carries the id, and a
command of the family that the side may receive. -/
structure Message.Suits (message : Message) (requestId : String) (family : Family) (role : Role) :
    Prop where
  requestId : message.requestId = requestId
  command : ∃ command, message.command? = some command ∧ command.family = family ∧
    Exchange.mayReceive role command = true

theorem Message.suits_of {requestId : String} {family : Family} {role : Role} {command : Command}
    {body : Body} (hfamily : command.family = family)
    (hmay : Exchange.mayReceive role command = true) :
    (Message.of requestId command body).Suits requestId family role :=
  ⟨rfl, command, command?_of .., hfamily, hmay⟩

/-- All that suits a side may be said to it. -/
def Permits (may : Message → Prop) (requestId : String) (family : Family) (role : Role) : Prop :=
  ∀ message : Message, message.Suits requestId family role → may message

namespace Permits

variable {requestId : String} {family : Family} {role : Role}

theorem any : Permits (fun _ ↦ True) requestId family role :=
  fun _ _ ↦ trivial

theorem self : Permits (·.Suits requestId family role) requestId family role :=
  fun _ h ↦ h

theorem of {command : Command} {body : Body} (h : Permits may requestId family role)
    (hfamily : command.family = family) (hmay : Exchange.mayReceive role command = true) :
    may (.of requestId command body) :=
  h _ (Message.suits_of hfamily hmay)

end Permits

theorem Family.mayReceive_errorCommand (family : Family) :
    Exchange.mayReceive .initiator family.errorCommand = true := by
  cases family <;> rfl

theorem Family.mayReceive_initRequest (family : Family) :
    Exchange.mayReceive .responder family.initRequest = true := by
  cases family <;> rfl

/-- Whether a command tells an initiator that its transfer may go on. -/
def Command.opensTransfer : Command → Bool
  | .uploadInitResp | .downloadInitResp => true
  | _ => false

theorem Command.isError_of_opensTransfer {command : Command} (h : command.opensTransfer = true) :
    command.isError = false := by
  cases command <;> first | rfl | cases h

/-- A failure of the job may be told, if it is told to the other side at all. -/
def Job.MayTell (may : Message → Prop) (job : Job) : Prop :=
  job.role = .responder → Permits may job.requestId job.family .initiator

theorem Job.MayTell.any {job : Job} : job.MayTell fun _ ↦ True :=
  fun _ ↦ .any

/-! ### Computations -/

/-- **A computation made of changes to the store, messages that may be said, and outcomes.** -/
inductive Composed (may : Message → Prop) : {α : Type} → WorldM ω α → Prop where
  | pure {α : Type} (a : α) : Composed may (Pure.pure a)
  | bind {α β : Type} {action : WorldM ω α} {next : α → WorldM ω β} (first : Composed may action)
    (second : ∀ a, Composed may (next a)) : Composed may (action >>= next)
  /-- The world is looked at, for what is the same in all worlds that resemble it. -/
  | asks {β : Type} {next : World ω → WorldM ω β}
    (same : ∀ {world other : World ω}, world.Resembles other → next other = next world)
    (second : ∀ world, Composed may (next world)) : Composed may (get >>= next)
  /-- Nothing but the store is changed. -/
  | acts {α : Type} (change : World ω → α × Store)
    (same : ∀ {world other : World ω}, world.Resembles other → change other = change world) :
    Composed may fun world ↦ ((change world).1, { world with store := (change world).2 })
  | send {message : Message} (allowed : may message) :
    Composed may (World.send message : StepM ω Unit).run
  | report (outcome : Outcome) : Composed may (World.report outcome)


namespace Composed

/-- Of two computations that may fail, the second one is done if the first one does not. -/
theorem step {action : StepM ω α} {next : α → StepM ω β} (h : Composed may action.run)
    (hnext : ∀ a, Composed may (next a).run) : Composed may (action >>= next).run := by
  rw [ExceptT.run_bind]
  refine h.bind fun result ↦ ?_
  cases result with
  | ok a => exact hnext a
  | error error => exact .pure _

/-- What cannot fail may be done in a computation that can. -/
theorem lift {action : WorldM ω α} {next : α → StepM ω β} (h : Composed may action)
    (hnext : ∀ a, Composed may (next a).run) :
    Composed may ((liftM action : StepM ω α) >>= next).run :=
  h.bind hnext

theorem stepAsks {next : World ω → StepM ω β}
    (hsame : ∀ {world other : World ω}, world.Resembles other → next other = next world)
    (hnext : ∀ world, Composed may (next world).run) : Composed may (get >>= next).run := by
  change Composed may (get >>= fun world ↦ (next world).run)
  exact .asks (fun halike ↦ congrArg ExceptT.run (hsame halike)) hnext

theorem onStore (action : StateM Store α) : Composed may (World.onStore action : WorldM ω α) :=
  .acts (fun world ↦ action.run world.store) fun halike ↦ by rw [halike.store]

theorem share (action : ShareM α) : Composed may (World.share action : StepM ω α).run := by
  change Composed may (World.onStore action.run >>= fun result ↦
    Pure.pure (result.mapError ExchangeError.share))
  exact (onStore action.run).bind fun _ ↦ .pure _

/-- A failure is told by a responder only, and with the error command of its family. -/
theorem fail {role : Role} {family : Family} {requestId : String}
    (h : role = .responder → Permits may requestId family .initiator) (error : ExchangeError) :
    Composed may (World.fail role family requestId error : WorldM ω Unit) := by
  cases role with
  | initiator => exact .report _
  | responder =>
    have hsend : ∀ status : Status, Composed may (World.send (.of requestId family.errorCommand
        (.status status)) : StepM ω Unit).run :=
      fun _ ↦ .send ((h rfl).of family.family_errorCommand family.mayReceive_errorCommand)
    cases error with
    | session cause => exact .pure ()
    | _ => exact (hsend _).bind fun _ ↦ .pure ()

theorem connect (message : Message) :
    Composed may (World.connect message : StepM ω String).run := by
  rw [World.connect]
  split
  · exact .pure _
  split
  · exact .pure _
  rename_i credentials _
  refine stepAsks (fun halike ↦ by rw [halike.hasShares]) fun world ↦ ?_
  split
  · exact (share _).step fun _ ↦ .pure _
  · exact .pure _

end Composed

/-! ### Producers -/

/-- **A producer never looks at the outlet**; that it has been told to stop is told to it. -/
theorem Producer.composed_advance (requestId : String) (cancelled : Bool) (producer : Producer) :
    Composed may (producer.advance requestId cancelled : WorldM ω Product) := by
  cases producer with
  | listing source =>
    change Composed may (Producer.advanceListing requestId cancelled source)
    refine (Composed.share _).bind fun result ↦ ?_
    rcases result with _ | _ | entry
    · exact .pure _
    · dsimp only
      split <;> exact .pure _
    · dsimp only
      split
      · exact .pure _
      split
      · split <;> exact .pure _
      · exact .pure _
  | listed => exact .pure _
  | range source =>
    change Composed may (Producer.advanceRange requestId cancelled source)
    rw [Producer.advanceRange]
    split
    · exact .pure _
    split
    · exact .pure _
    split
    · exact .pure _
    refine (Composed.share _).bind fun result ↦ ?_
    cases result with
    | error error => exact .pure _
    | ok data =>
      dsimp only
      split <;> exact .pure _
  | upload source =>
    change Composed may (Producer.advanceUpload requestId cancelled source)
    rw [Producer.advanceUpload]
    split
    · exact .pure _
    split
    · exact .pure _
    · refine .asks (fun halike ↦ by rw [halike.store]) fun world ↦ ?_
      dsimp only
      split <;> exact .pure _
  | finished => exact .pure _

namespace Job

variable (job : Job) (htell : job.MayTell may)
include htell

theorem composed_failWith (error : ExchangeError) :
    Composed may (job.failWith error : WorldM ω (JobStatus × Job)) :=
  (Composed.fail htell error).bind fun _ ↦ .pure _

theorem composed_produce : Composed may (job.produce : WorldM ω (JobStatus × Job)) := by
  refine .asks (fun halike ↦ by rw [halike.isCancelled]) fun world ↦ ?_
  refine (Producer.composed_advance _ _ _).bind fun product ↦ ?_
  cases product with
  | failure error => exact job.composed_failWith htell error
  | _ => exact .pure _

theorem composed_stop : Composed may (job.stop : WorldM ω Unit) := by
  rw [stop]
  split
  · refine (Producer.composed_advance _ _ _).bind fun product ↦ ?_
    cases product with
    | failure error => exact .fail htell error
    | _ => exact .pure _
  · exact .pure _

end Job

/-! ### Responders -/

section Handlers

variable (requestId : String) (message : Message)

namespace Single

theorem composed_testConnection (hsay : Permits may requestId .testConnection .initiator) :
    Composed may (testConnection requestId message : StepM ω Unit).run :=
  (Composed.connect message).step fun _ ↦ (Composed.share _).step fun _ ↦ .send (hsay.of rfl rfl)

theorem composed_addFolder (hsay : Permits may requestId .addFolder .initiator) :
    Composed may (addFolder requestId message : StepM ω Unit).run :=
  (Composed.connect message).step fun _ ↦ (Composed.share _).step fun _ ↦ .send (hsay.of rfl rfl)

theorem composed_delete (hsay : Permits may requestId .deletion .initiator) :
    Composed may (delete requestId message : StepM ω Unit).run :=
  (Composed.connect message).step fun _ ↦ (Composed.share _).step fun _ ↦ .send (hsay.of rfl rfl)

end Single

namespace Listing

theorem composed_stopJob {job : Option Job} (hjob : ∀ running ∈ job, running.MayTell may) :
    Composed may (stopJob job : WorldM ω Unit) := by
  cases job with
  | none => exact .pure _
  | some running => exact running.composed_stop (hjob running rfl)

theorem composed_sendItself (hsay : Permits may requestId .listing .initiator) (url : String) :
    Composed may (sendItself requestId url : StepM ω Unit).run :=
  (Composed.share _).step fun _ ↦ (Composed.share _).step fun _ ↦
    (Composed.onStore _).lift fun _ ↦ (Composed.send (hsay.of rfl rfl)).step fun _ ↦
      .send (hsay.of rfl rfl)

theorem composed_openListing (hsay : Permits may requestId .listing .initiator) :
    Composed may (openListing requestId message : StepM ω (Option ListingSource)).run := by
  rw [openListing]
  split
  · rename_i options _
    by_cases hpage : options.pageSize = 0
    · rw [if_pos hpage]
      exact .pure _
    rw [if_neg hpage]
    refine (Composed.connect message).step fun url ↦ (Composed.share _).step fun opened ↦ ?_
    cases opened with
    | ok directory => exact .pure _
    | error error =>
      dsimp only
      split
      · exact (composed_sendItself requestId hsay url).step fun _ ↦ .pure _
      · exact .pure _
  · exact .pure _

theorem composed_answer {job : Option Job} (hsay : Permits may requestId .listing .initiator)
    (hjob : ∀ running ∈ job, running.MayTell may) :
    Composed may (answer requestId message job : WorldM ω (Handled (Option Job))) := by
  refine (composed_openListing requestId message hsay).bind fun result ↦ ?_
  rcases result with _ | _ | source
  · exact .pure _
  · exact .pure _
  · exact (composed_stopJob hjob).bind fun _ ↦ .pure _

end Listing

namespace FileServer

variable (server : FileServer)

theorem composed_stopJob (hjob : ∀ job ∈ server.job, job.MayTell may) :
    Composed may (server.stopJob : WorldM ω FileServer) :=
  (Listing.composed_stopJob hjob).bind fun _ ↦ .pure _

theorem composed_closeFile : Composed may (server.closeFile : WorldM ω FileServer) := by
  rw [closeFile]
  split
  · exact (Composed.onStore _).bind fun _ ↦ .pure _
  · exact .pure _

theorem composed_openSource :
    Composed may (openSource message : StepM ω (String × FileId × Stat)).run :=
  (Composed.connect message).step fun _ ↦ (Composed.share _).step fun _ ↦
    (Composed.share _).step fun _ ↦ .pure _

theorem composed_begin (hsay : Permits may requestId .download .initiator)
    (hjob : ∀ job ∈ server.job, job.MayTell may) :
    Composed may (server.begin requestId message : WorldM ω (Handled FileServer)) := by
  refine (composed_openSource message).bind fun result ↦ ?_
  rcases result with _ | ⟨url, file, stat⟩
  · exact .pure _
  · exact (composed_stopJob server hjob).bind fun stopped ↦
      (composed_closeFile stopped).bind fun _ ↦
        (Composed.send (hsay.of rfl rfl)).bind fun _ ↦ .pure _

theorem composed_serve (settings : TransferSettings)
    (hsay : Permits may requestId .download .initiator)
    (hjob : ∀ job ∈ server.job, job.MayTell may) :
    Composed may (server.serve settings requestId message : WorldM ω (Handled FileServer)) := by
  rw [serve]
  split
  · exact .pure _
  · exact .pure _
  · refine (composed_stopJob server hjob).bind fun stopped ↦ ?_
    split
    · exact (Composed.send (hsay.of rfl rfl)).bind fun _ ↦ .pure _
    · refine (Composed.share _).bind fun sought ↦ ?_
      cases sought <;> exact .pure _

theorem composed_quit (hjob : ∀ job ∈ server.job, job.MayTell may) :
    Composed may (server.quit : WorldM ω FileServer) :=
  (composed_stopJob server hjob).bind fun stopped ↦ composed_closeFile stopped

end FileServer

namespace Receiver

variable (receiver : Receiver)

theorem composed_discard : Composed may (receiver.discard : WorldM ω Receiver) := by
  rw [discard]
  cases receiver.receiving with
  | none => exact .pure _
  | some receiving => exact (Composed.onStore _).bind fun _ ↦ .pure _

theorem composed_abort (error : ExchangeError) :
    Composed may (receiver.abort error : WorldM ω (Handled Receiver)) :=
  (composed_discard receiver).bind fun _ ↦ .pure _

theorem composed_openTemporary :
    Composed may (openTemporary message : StepM ω Receiving).run := by
  refine (Composed.connect message).step fun url ↦ ?_
  split
  · exact .pure _
  · rename_i parent _
    refine (Composed.onStore _).lift fun _ ↦ ?_
    -- the number of the temporary name is read, and the next one is noted
    refine .stepAsks (fun halike ↦ by rw [halike.store]) fun world ↦ ?_
    dsimp only
    have hnoted : Composed may (World.onStore
        (modify ({ · with tokens := world.store.tokens + 1 })) : WorldM ω Unit) :=
      Composed.onStore _
    exact hnoted.lift fun _ ↦ (Composed.share _).step fun _ ↦ .pure _

theorem composed_begin (hsay : Permits may requestId .upload .initiator) :
    Composed may (receiver.begin requestId message : WorldM ω (Handled Receiver)) := by
  refine (composed_openTemporary message).bind fun result ↦ ?_
  cases result with
  | error error => exact .pure _
  | ok receiving =>
    exact (composed_discard receiver).bind fun _ ↦
      (Composed.send (hsay.of rfl rfl)).bind fun _ ↦ .pure _

theorem composed_accept :
    Composed may (receiver.accept message : WorldM ω (Handled Receiver)) := by
  rw [accept]
  split
  · exact .pure _
  split
  · exact .pure _
  · exact composed_abort receiver _
  split
  · exact composed_abort receiver _
  · refine (Composed.share _).bind fun result ↦ ?_
    cases result with
    | ok _ => exact .pure _
    | error error => exact composed_abort receiver _

theorem composed_complete (hsay : Permits may requestId .upload .initiator) :
    Composed may (receiver.complete requestId : WorldM ω (Handled Receiver)) := by
  rw [complete]
  split
  · exact .pure _
  split
  · exact composed_abort receiver _
  · refine (Composed.share _).bind fun result ↦ ?_
    cases result with
    | ok _ => exact (Composed.send (hsay.of rfl rfl)).bind fun _ ↦ .pure _
    | error error => exact composed_abort _ _

theorem composed_abandon : Composed may (receiver.abandon : WorldM ω (Handled Receiver)) :=
  (composed_discard receiver).bind fun _ ↦ .pure _

theorem composed_quit : Composed may (receiver.quit : WorldM ω Receiver) := by
  rw [quit]
  split
  · exact .pure _
  · exact composed_discard receiver

end Receiver

/-- **What a responder does with a command is composed.** -/
theorem Responder.composed_handle (settings : TransferSettings) (command : Command)
    (state : Responder) (hsay : Permits may requestId state.family .initiator)
    (hjob : ∀ job ∈ state.job?, job.MayTell may) :
    Composed may (state.handle settings requestId command message :
      WorldM ω (Handled Responder)) := by
  unfold handle
  split
  · exact (Single.composed_testConnection _ _ hsay).bind fun _ ↦ .pure _
  · exact (Single.composed_addFolder _ _ hsay).bind fun _ ↦ .pure _
  · exact (Single.composed_delete _ _ hsay).bind fun _ ↦ .pure _
  · exact (Listing.composed_answer _ _ hsay hjob).bind fun _ ↦ .pure _
  · exact (FileServer.composed_begin _ _ _ hsay hjob).bind fun _ ↦ .pure _
  · exact (FileServer.composed_serve _ _ _ _ hsay hjob).bind fun _ ↦ .pure _
  · exact (Receiver.composed_begin _ _ _ hsay).bind fun _ ↦ .pure _
  · exact (Receiver.composed_accept _ _).bind fun _ ↦ .pure _
  · exact (Receiver.composed_complete _ _ hsay).bind fun _ ↦ .pure _
  · exact (Receiver.composed_abandon _).bind fun _ ↦ .pure _
  · exact .pure _

/-- **To stop a responder is composed.** -/
theorem Responder.composed_quit (state : Responder)
    (hjob : ∀ job ∈ state.job?, job.MayTell may) :
    Composed may (state.quit : WorldM ω Responder) := by
  unfold quit
  split
  · exact (Listing.composed_stopJob hjob).bind fun _ ↦ .pure _
  · exact (FileServer.composed_quit _ hjob).bind fun _ ↦ .pure _
  · exact (Receiver.composed_quit _).bind fun _ ↦ .pure _
  · exact .pure _

/-! ### Initiators -/

namespace Fetcher

variable (fetcher : Fetcher)

theorem composed_dropSink : Composed may (fetcher.dropSink : WorldM ω Fetcher) := by
  rw [dropSink]
  split
  · rename_i sink _
    exact (Composed.onStore (ω := ω) (modify fun store ↦
      { store with fs := (sink.flush store.fs).2 })).bind fun _ ↦ .pure _
  · exact .pure _

/-- The file that is to take a download, and the store with it. -/
def created (path : String) (world : World ω) : Except ExchangeError BufferedFile × Store :=
  match LocalFile.create world.store.fs world.workDir path with
  | .error error => (.error (.io error), world.store)
  | .ok (fs, content) => (.ok (.ofContent content), { world.store with fs })

omit [Outlet ω] in
theorem createSink_run (path : String) (world : World ω) :
    (createSink path : StepM ω BufferedFile).run world =
      ((created path world).1, { world with store := (created path world).2 }) := by
  have hget : ∀ next : World ω → StepM ω BufferedFile,
      (get >>= next).run world = (next world).run world := fun _ ↦ rfl
  rw [createSink, hget, created]
  rcases LocalFile.create world.store.fs world.workDir path with _ | ⟨fs, content⟩ <;> rfl

theorem composed_createSink (path : String) :
    Composed may (createSink path : StepM ω BufferedFile).run := by
  have hrun : (createSink path : StepM ω BufferedFile).run =
      fun world ↦ ((created path world).1, { world with store := (created path world).2 }) :=
    funext (createSink_run path)
  rw [hrun]
  exact .acts (created path) fun halike ↦ by rw [created, created, halike.store, halike.workDir]

theorem composed_begin (settings : TransferSettings)
    (hsay : Permits may requestId .download .responder) :
    Composed may (fetcher.begin settings requestId message : WorldM ω (Handled Fetcher)) := by
  rw [begin]
  split
  · split
    · exact .pure _
    refine (composed_createSink _).bind fun result ↦ ?_
    cases result with
    | error error => exact .pure _
    | ok sink =>
      exact (composed_dropSink fetcher).bind fun _ ↦
        (Composed.send (hsay.of rfl rfl)).bind fun _ ↦ .pure _
  · exact .pure _

theorem composed_accept : Composed may (fetcher.accept message : WorldM ω (Handled Fetcher)) := by
  rw [accept]
  split
  · exact .pure _
  · exact .pure _
  · rename_i sink data _ _
    let change (world : World ω) : Handled Fetcher × Store :=
      ((.ok (), { fetcher with
        sink := some (sink.write world.store.fs data).1
        received := fetcher.received + UInt64.ofNat data.size }),
        { world.store with fs := (sink.write world.store.fs data).2 })
    exact .acts change fun halike ↦ by
      dsimp only [change]
      rw [halike.store]

theorem composed_finish : Composed may (fetcher.finish : WorldM ω (Handled Fetcher)) :=
  (composed_dropSink fetcher).bind fun _ ↦ (Composed.report _).bind fun _ ↦ .pure _

end Fetcher

namespace Sender

variable (sender : Sender) (hjob : ∀ job ∈ sender.job, job.MayTell may)
include hjob

theorem composed_stopJob : Composed may (sender.stopJob : WorldM ω Sender) := by
  rw [stopJob]
  split
  · rename_i job hrunning
    exact (job.composed_stop (hjob job hrunning)).bind fun _ ↦ .pure _
  · exact .pure _

theorem composed_begin (settings : TransferSettings)
    (hsay : Permits may requestId .upload .responder) :
    Composed may (sender.begin settings requestId : WorldM ω (Handled Sender)) := by
  refine .asks (fun halike ↦ by rw [halike.store, halike.workDir]) fun world ↦ ?_
  split
  · exact (Composed.send (hsay.of rfl rfl)).bind fun _ ↦ .pure _
  · exact (composed_stopJob sender hjob).bind fun _ ↦ .pure _

theorem composed_answered (settings : TransferSettings)
    (hsay : Permits may requestId .upload .responder) :
    Composed may (sender.answered settings requestId message : WorldM ω (Handled Sender)) := by
  rw [answered]
  split
  · split
    · exact composed_begin requestId sender hjob settings hsay
    · exact .pure _
  · exact composed_begin requestId sender hjob settings hsay

theorem composed_finish : Composed may (sender.finish : WorldM ω (Handled Sender)) :=
  (composed_stopJob sender hjob).bind fun _ ↦ (Composed.report _).bind fun _ ↦ .pure _

theorem composed_refused : Composed may (sender.refused message : WorldM ω (Handled Sender)) :=
  (composed_stopJob sender hjob).bind fun _ ↦ .pure _

end Sender

/-- **What an initiator does with a command is composed.** -/
theorem Initiator.composed_handle (settings : TransferSettings) (command : Command)
    (state : Initiator)
    (hsay : command.opensTransfer = true → Permits may requestId state.family .responder)
    (hjob : ∀ job ∈ state.job?, job.MayTell may) :
    Composed may (state.handle settings requestId command message :
      WorldM ω (Handled Initiator)) := by
  have hconclude : ∀ state : Initiator,
      Composed may (state.conclude message : WorldM ω (Handled Initiator)) :=
    fun _ ↦ (Composed.report _).bind fun _ ↦ .pure _
  unfold handle
  split
  · exact hconclude _
  · exact hconclude _
  · exact hconclude _
  · exact .pure _
  · exact (Composed.report _).bind fun _ ↦ .pure _
  · exact (Fetcher.composed_begin _ _ _ _ (hsay rfl)).bind fun _ ↦ .pure _
  · exact (Fetcher.composed_accept _ _).bind fun _ ↦ .pure _
  · exact (Fetcher.composed_finish _).bind fun _ ↦ .pure _
  · exact (Fetcher.composed_dropSink _).bind fun _ ↦ .pure _
  · exact (Sender.composed_answered _ _ _ hjob _ (hsay rfl)).bind fun _ ↦ .pure _
  · exact (Sender.composed_finish _ hjob).bind fun _ ↦ .pure _
  · exact (Sender.composed_refused _ _ hjob).bind fun _ ↦ .pure _
  · split <;> exact .pure _

/-- **To stop an initiator is composed.** -/
theorem Initiator.composed_quit (state : Initiator)
    (hjob : ∀ job ∈ state.job?, job.MayTell may) :
    Composed may (state.quit : WorldM ω Initiator) := by
  unfold quit
  split
  · exact (Fetcher.composed_dropSink _).bind fun _ ↦ .pure _
  · exact (Sender.composed_stopJob _ hjob).bind fun _ ↦ .pure _
  · exact .pure _

/-! ### Exchanges -/

namespace Exchange

open Conversation (peer)

variable (exchange : Exchange)

/-- **Whether a side has something to say about a message.** A responder has about any, an initiator
about one that belongs to the exchange and tells it that its transfer may go on. -/
def Heeds (exchange : Exchange) (message : Message) : Prop :=
  exchange.party.role = .initiator →
    ∃ command, exchange.check message = .ok command ∧ command.opensTransfer = true

theorem composed_handle (settings : TransferSettings) (command : Command)
    (hsay : (exchange.party.role = .initiator → command.opensTransfer = true) →
      Permits may exchange.requestId exchange.family (peer exchange.party.role))
    (hjob : ∀ job ∈ exchange.party.job?, job.MayTell may) :
    Composed may (exchange.handle settings command message :
      WorldM ω (Handled Exchange)) := by
  obtain ⟨requestId, state | state⟩ := exchange
  · exact (Responder.composed_handle _ _ _ _ _ (hsay nofun) hjob).bind fun _ ↦ .pure _
  · exact (Initiator.composed_handle _ _ _ _ _ (fun hopens ↦ hsay fun _ ↦ hopens) hjob).bind
      fun _ ↦ .pure _

/-- **To take a message is composed**: so are handling it and telling a failure. -/
theorem composed_process (settings : TransferSettings)
    (hsay : exchange.Heeds message →
      Permits may message.requestId exchange.family (peer exchange.party.role))
    (hjob : ∀ job ∈ exchange.party.job?, job.MayTell may) :
    Composed may (exchange.process settings message : WorldM ω (Handled Exchange)) := by
  have hfail : ∀ error, Composed may (World.fail exchange.party.role exchange.family
      message.requestId error : WorldM ω Unit) := by
    refine fun error ↦ .fail (fun hrole ↦ ?_) error
    have hheeds : exchange.Heeds message := fun hinitiator ↦ by
      rw [hrole] at hinitiator
      cases hinitiator
    rw [hrole] at hsay
    exact hsay hheeds
  rw [process]
  cases hcheck : exchange.check message with
  | error error =>
    refine (Composed.pure (Except.error error, exchange)).bind ?_
    rintro ⟨error | _, next⟩
    · exact (hfail _).bind fun _ ↦ .pure _
    · exact .pure _
  | ok command =>
    obtain ⟨hid, -⟩ := of_check_eq_ok hcheck
    refine (composed_handle message exchange settings command (fun hopens ↦ ?_) hjob).bind ?_
    · rw [← hid]
      exact hsay fun hrole ↦ ⟨command, hcheck, hopens hrole⟩
    rintro ⟨error | _, next⟩
    · exact (hfail _).bind fun _ ↦ .pure _
    · exact .pure _

/-- **To stop is composed.** -/
theorem composed_quit (hjob : ∀ job ∈ exchange.party.job?, job.MayTell may) :
    Composed may (exchange.quit : WorldM ω Exchange) := by
  obtain ⟨requestId, state | state⟩ := exchange
  · exact (Responder.composed_quit _ hjob).bind fun _ ↦ .pure _
  · exact (Initiator.composed_quit _ hjob).bind fun _ ↦ .pure _

end Exchange

end Handlers

/-! ### What no handler changes -/

section Keeps

variable (settings : TransferSettings) (requestId : String) (command : Command) (message : Message)
variable (world : World ω)

namespace Responder

variable (state : Responder)

/-- A responder keeps its family, whatever it is told. -/
theorem family_handle :
    ((state.handle settings requestId command message).run world).1.2.family = state.family := by
  unfold handle
  split <;> rfl

theorem family_quit : (state.quit.run world).1.family = state.family := by
  unfold quit
  split <;> rfl

theorem family_withJob (job : Job) : (state.withJob job).family = state.family := by
  cases state <;> rfl

end Responder

namespace Initiator

variable (state : Initiator)

/-- An initiator keeps its family, whatever it is told. -/
theorem family_handle :
    ((state.handle settings requestId command message).run world).1.2.family = state.family := by
  unfold handle
  split
  case h_13 => split <;> rfl
  all_goals rfl

theorem family_quit : (state.quit.run world).1.family = state.family := by
  unfold quit
  split <;> rfl

theorem family_withJob (job : Job) : (state.withJob job).family = state.family := by
  cases state <;> rfl

end Initiator

namespace Exchange

/-- **An exchange goes on**: its id, its family and its side are the same. -/
structure Continues (exchange next : Exchange) : Prop where
  requestId : next.requestId = exchange.requestId
  family : next.family = exchange.family
  role : next.party.role = exchange.party.role

theorem Continues.refl (exchange : Exchange) : exchange.Continues exchange :=
  ⟨rfl, rfl, rfl⟩

theorem Continues.trans {exchange next last : Exchange} (h : exchange.Continues next)
    (h' : next.Continues last) : exchange.Continues last :=
  ⟨h'.requestId.trans h.requestId, h'.family.trans h.family, h'.role.trans h.role⟩

variable (exchange : Exchange)

theorem continues_handle :
    exchange.Continues ((exchange.handle settings command message).run world).1.2 := by
  rcases exchange with ⟨requestId, state | state⟩
  · exact ⟨rfl, state.family_handle settings requestId command message world, rfl⟩
  · exact ⟨rfl, state.family_handle settings requestId command message world, rfl⟩

/-- **An exchange goes on whatever message it takes.** -/
theorem continues_process :
    exchange.Continues ((exchange.process settings message).run world).1.2 := by
  rw [process]
  cases exchange.check message with
  | error error => exact .refl exchange
  | ok command =>
    have hhandle := exchange.continues_handle settings command message world
    rcases hrun : (exchange.handle settings command message).run world with
      ⟨⟨result, next⟩, mid⟩
    rw [hrun] at hhandle
    dsimp only
    rw [StateT.run_bind, hrun]
    cases result <;> exact hhandle

/-- **An exchange that has been stopped** is still the same. -/
theorem continues_quit : exchange.Continues (exchange.quit.run world).1 := by
  rcases exchange with ⟨requestId, state | state⟩
  · exact ⟨rfl, state.family_quit world, rfl⟩
  · exact ⟨rfl, state.family_quit world, rfl⟩

theorem continues_stepJob : exchange.Continues (exchange.stepJob.run world).1.2 := by
  rw [stepJob]
  split
  · rcases exchange with ⟨requestId, state | state⟩
    · exact ⟨rfl, state.family_withJob _, rfl⟩
    · exact ⟨rfl, state.family_withJob _, rfl⟩
  · exact .refl exchange

/-- **An exchange goes on while its background job does.** -/
theorem continues_runJob (bound : Nat) :
    exchange.Continues ((exchange.runJob bound).run world).1.2 := by
  induction bound generalizing exchange world with
  | zero => exact .refl exchange
  | succ bound ih =>
    have hstep := exchange.continues_stepJob world
    rw [runJob, StateT.run_bind]
    rcases hrun : exchange.stepJob.run world with ⟨⟨_ | _ | _, next⟩, mid⟩ <;> rw [hrun] at hstep
    · exact hstep.trans (ih mid next)
    · exact hstep
    · exact hstep

end Exchange

end Keeps

end FileShare
