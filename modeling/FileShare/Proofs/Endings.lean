import FileShare.Proofs.PayloadReading
import FileShare.Proofs.Serving
import FileShare.Proofs.UploadRun

/-!
# How the work for a request ends

A responder does two things in the background: it lists a directory, and it sends a range of a file.
Either way the job says parts of what was asked for and then one last word. That is the message that
ends the work when all has been said, or the error command of the family when a call on the share
has failed (`Job.Stands`).

The failure that is never told is the one of a message that makes no packet, because its payload is
too long. It reaches the job as a failure of the session, for which the connection is taken to be
going away, so the job ends and says nothing (`Job.step_of_fault`). A range that is read and sent in
pieces as long as a payload may be comes to that (`Job.range_ends_untold`). It is all that is left
out of `Job.accepted_ends`: a job that has ended has said its last word, or something that it was to
say makes no packet.

No assumption ties the worlds in which a job takes its steps to each other, except that the
connection is in order and nobody has told the job to stop. So what is on the share may change, and
calls on it may fail, between any two steps. That a job does end is a matter of counting
(`Job.stepsLeft`): each step uses some of what there is to say, unless there is no room for it.
-/

namespace FileShare

open MessagePack (Value)

/-! ### What is said -/

/-- A message that carries a part of what the initiator asked for. -/
inductive Message.IsPart (requestId : String) : Family → Message → Prop where
  | page (entries : List FileInfo) :
      IsPart requestId .listing (Producer.pageMessage requestId entries)
  | piece (data : ByteArray) :
      IsPart requestId .download (Producer.downloadMessage requestId data)

/-- The command that ends a listing or a download. -/
def Family.endCommand : Family → Command
  | .listing => .listingEndResp
  | _ => .downloadEndResp

/-- The message that ends the work when all has been said. -/
def Family.conclusion (family : Family) (requestId : String) : Message :=
  .bare requestId family.endCommand

/-- The message that tells a failure. -/
def Family.failure (family : Family) (requestId : String) (error : ExchangeError) : Message :=
  .of requestId family.errorCommand (.status error.status)

/-- **A piece of a download that is as long as a payload may be makes no packet.** -/
theorem Packet.ofMessage_downloadMessage {data : ByteArray} (requestId : String)
    (h : Header.maxPayload ≤ data.size) :
    ∃ fault, Packet.ofMessage (Producer.downloadMessage requestId data) = .error fault := by
  let message := Producer.downloadMessage requestId data
  have hsized : message.toValue.Sized (fun _ ↦ True) 3 := by
    refine .array trivial fun item hitem ↦ ?_
    rcases List.mem_pair.1 hitem with rfl | rfl
    · refine .array trivial fun item hitem ↦ ?_
      rcases List.mem_pair.1 hitem with rfl | rfl
      · exact .str trivial
      · exact .ofInt _
    · exact .ofCase (fun _ _ ↦ trivial) (by decide)
        (.ofCase (fun _ _ ↦ trivial) (by decide) (.bin trivial))
  -- the piece is shorter than the spelling of the message that it is in
  have hlong : data.size < message.payload.size := by
    obtain ⟨-, hbody⟩ := MessagePack.Value.sized_array_iff.1 (hsized.lt_length_write []).2
    cases (hbody message.body.toValue (by simp)).content_of_ofCase.content_of_ofCase with
    | bin hlt => simpa [Message.payload, Value.bytes] using hlt
  exact ⟨_, if_pos (Nat.lt_of_le_of_lt h hlong)⟩

/-! ### A message is sent -/

/-- **As long as the connection is in order, a message is sent unless it makes no packet.** -/
theorem World.send_up {world world' : World Channel} {message : Message}
    {result : Except ExchangeError Unit} (hup : world.outlet.isUp = true)
    (h : (send message).run.run world = (result, world')) :
    (∃ fault, Packet.ofMessage message = .error fault ∧
        result = .error (.session (.frame fault)) ∧ world' = world) ∨
      result = .ok () ∧ world'.outlet.underway = world.outlet.underway ++ [message] := by
  rw [send_run] at h
  unfold Outlet.send Channel.outlet at h
  dsimp only at h
  cases hpacket : Packet.ofMessage message with
  | error fault =>
    rw [hpacket] at h
    obtain ⟨rfl, rfl⟩ := Prod.mk.inj h
    exact .inl ⟨fault, rfl, rfl, rfl⟩
  | ok packet =>
    rw [hpacket, Channel.report, if_pos hup] at h
    obtain ⟨rfl, rfl⟩ := Prod.mk.inj h
    exact .inr ⟨rfl, (List.append_assoc ..).symm⟩

/-! ### What a producer comes to -/

namespace Producer

/-- What a responder takes its messages from while there is something to say. -/
inductive IsFor : Family → Producer → Prop where
  | listing (source : ListingSource) : IsFor .listing (.listing source)
  | listed : IsFor .listing .listed
  | range (source : RangeSource) (hchunk : source.chunkSize ≠ 0) : IsFor .download (.range source)

/-- How many steps there are left until a producer has said all and has noticed it, at most. An
entry of a directory may be a page of its own, which is two steps. Of a range, each byte that has
not been read may be read on its own and then sent on its own. -/
def stepsLeft : Producer → Nat
  | listing source => 2 * source.directory.entries.length + 5
  | listed => 3
  | range source => 2 * source.pending.size + 3 * (source.last + 1 - source.position) + 3
  | _ => 1

@[simp] theorem stepsLeft_listing (source : ListingSource) :
    (listing source).stepsLeft = 2 * source.directory.entries.length + 5 := rfl

@[simp] theorem stepsLeft_listed : listed.stepsLeft = 3 := rfl

@[simp] theorem stepsLeft_range (source : RangeSource) : (range source).stepsLeft =
    2 * source.pending.size + 3 * (source.last + 1 - source.position) + 3 := rfl

@[simp] theorem stepsLeft_finished : finished.stepsLeft = 1 := rfl

theorem stepsLeft_pos (producer : Producer) : 0 < producer.stepsLeft := by
  cases producer <;> simp [stepsLeft]

/-- What comes of a producer that has not been told to stop and has so many steps left. -/
inductive Comes (requestId : String) (family : Family) (left : Nat) : Product → Prop where
  | part {message : Message} {next : Producer} (hpart : message.IsPart requestId family)
      (hnext : next.IsFor family) (hleft : next.stepsLeft + 1 < left) :
      Comes requestId family left (.message message next)
  | conclusion (hleft : 2 < left) :
      Comes requestId family left (.message (family.conclusion requestId) .finished)
  | quiet {next : Producer} (hnext : next.IsFor family) (hleft : next.stepsLeft < left) :
      Comes requestId family left (.quiet next)
  | failure (error : ShareError) : Comes requestId family left (.failure (.share error))

variable {requestId : String} {world world' : World Channel} {product : Product}

/-- What the next entry of a directory comes to. -/
theorem advanceListing_run {ω : Type} (requestId : String) (cancelled : Bool)
    (source : ListingSource) (world : World ω) :
    (advanceListing requestId cancelled source).run world =
      let (result, store) := (Share.nextEntry source.directory).run.run world.store
      let directory := { source.directory with entries := source.directory.entries.tail }
      (match result with
        | .error error => .failure (.share error)
        | .ok none =>
          if source.page = [] then .message (.bare requestId .listingEndResp) .finished
          else .message (pageMessage requestId source.page) .listed
        | .ok (some entry) =>
          let page := source.page ++ [entry.stat.toFileInfo entry.name]
          if cancelled then .stop
          else if isListed source.options entry then
            if page.length = source.options.pageSize.toNat then
              .message (pageMessage requestId page) (.listing { source with directory, page := [] })
            else .quiet (.listing { source with directory, page })
          else .quiet (.listing { source with directory }), { world with store }) := by
  unfold advanceListing
  rw [StateT.run_bind, World.share_run]
  rcases (Share.nextEntry source.directory).run.run world.store with ⟨_ | _ | entry, store⟩
  · rfl
  · show StateT.run (if source.page = [] then _ else _) { world with store } = _
    split <;> rfl
  · show StateT.run (if cancelled = true then _ else _) { world with store } = _
    dsimp only
    split
    · rfl
    split
    · split <;> rfl
    · rfl

/-- The next entry of a directory goes into a page, and at the end the last page is sent. -/
theorem comes_advanceListing {source : ListingSource}
    (hrun : (advanceListing requestId false source).run world = (product, world')) :
    world'.outlet = world.outlet ∧
      Comes requestId .listing (2 * source.directory.entries.length + 5) product := by
  rw [advanceListing_run] at hrun
  rcases hcall : (Share.nextEntry source.directory).run.run world.store with ⟨result, store⟩
  rw [hcall] at hrun
  obtain ⟨rfl, rfl⟩ := Prod.mk.inj hrun
  refine ⟨rfl, ?_⟩
  rcases Share.nextEntry_cases hcall with ⟨error, rfl⟩ | rfl
  · exact .failure error
  · cases hentries : source.directory.entries with
    | nil =>
      dsimp only [List.head?_nil]
      split
      · exact .conclusion (by omega)
      · exact .part (.page _) .listed (by simp)
    | cons entry rest =>
      simp only [List.head?_cons, List.tail_cons, Bool.false_eq_true, if_false]
      split
      · split
        · exact .part (.page _) (.listing _) (by simp; omega)
        · exact .quiet (.listing _) (by simp)
      · exact .quiet (.listing _) (by simp)

/-- What has been read of a range is sent, then more is read, and at the end nothing is left. -/
theorem comes_advanceRange {source : RangeSource} (hchunk : source.chunkSize ≠ 0)
    (hrun : (advanceRange requestId false source).run world = (product, world')) :
    world'.outlet = world.outlet ∧ Comes requestId .download
      (2 * source.pending.size + 3 * (source.last + 1 - source.position) + 3) product := by
  rw [advanceRange_run] at hrun
  by_cases hpending : source.pending.size ≠ 0
  · rw [if_pos hpending] at hrun
    obtain ⟨rfl, rfl⟩ := Prod.mk.inj hrun
    refine ⟨rfl, .part (.piece _) (.range _ hchunk) ?_⟩
    simp only [stepsLeft_range, ByteArray.size_extract]
    omega
  rw [if_neg hpending] at hrun
  by_cases hlast : source.last < source.position
  · rw [if_pos hlast] at hrun
    obtain ⟨rfl, rfl⟩ := Prod.mk.inj hrun
    exact ⟨rfl, .conclusion (by omega)⟩
  rw [if_neg hlast] at hrun
  simp only [Bool.false_eq_true, if_false] at hrun
  rcases hcall : (Share.read source.file (min (source.last - source.position + 1)
    source.readSize)).run.run world.store with ⟨result, store⟩
  rw [hcall] at hrun
  obtain ⟨rfl, rfl⟩ := Prod.mk.inj hrun
  refine ⟨rfl, ?_⟩
  cases result with
  | error error => exact .failure error
  | ok data =>
    have hsize := Share.size_of_read hcall
    dsimp only
    split
    · exact .conclusion (by omega)
    · refine .quiet (.range _ hchunk) ?_
      -- a byte that has been read costs one step less
      simp only [stepsLeft_range]
      omega

/-- **What comes of a producer that is not told to stop.** -/
theorem IsFor.comes {family : Family} {producer : Producer} (h : producer.IsFor family)
    (hrun : (producer.advance requestId false).run world = (product, world')) :
    world'.outlet = world.outlet ∧ Comes requestId family producer.stepsLeft product := by
  cases h with
  | listing source => exact comes_advanceListing hrun
  | listed =>
    obtain ⟨rfl, rfl⟩ := Prod.mk.inj hrun
    exact ⟨rfl, .conclusion (Nat.lt_succ_self 2)⟩
  | range source hchunk => exact comes_advanceRange hchunk hrun

end Producer

/-! ### What a job has said -/

namespace Job

/-- How many steps there are left until a job has ended, at most. -/
def stepsLeft (job : Job) : Nat :=
  if job.isEnded then 0 else job.producer.stepsLeft + if job.offer.isSome then 1 else 0

/-- **What a job has said**, and what it has in hand. -/
inductive Stands (requestId : String) (family : Family) : Job → List Message → Prop where
  | working {producer : Producer} {offer : Option Message} {sent : UInt64} {parts : List Message}
      (hproducer : producer.IsFor family)
      (hoffer : ∀ message ∈ offer, message.IsPart requestId family)
      (hparts : ∀ message ∈ parts, message.IsPart requestId family) :
      Stands requestId family ⟨.responder, family, requestId, producer, offer, sent, false⟩ parts
  | concluding {sent : UInt64} {parts : List Message}
      (hparts : ∀ message ∈ parts, message.IsPart requestId family) :
      Stands requestId family ⟨.responder, family, requestId, .finished,
        some (family.conclusion requestId), sent, false⟩ parts
  | concluded {sent : UInt64} {isEnded : Bool} {parts : List Message}
      (hparts : ∀ message ∈ parts, message.IsPart requestId family) :
      Stands requestId family ⟨.responder, family, requestId, .finished, none, sent, isEnded⟩
        (parts ++ [family.conclusion requestId])
  | failed {producer : Producer} {sent : UInt64} {parts : List Message} (error : ShareError)
      (hproducer : producer.IsFor family)
      (hparts : ∀ message ∈ parts, message.IsPart requestId family) :
      Stands requestId family ⟨.responder, family, requestId, producer, none, sent, true⟩
        (parts ++ [family.failure requestId (.share error)])
  /-- What was to be said makes no packet, and nothing more is said. -/
  | silent {job : Job} {parts : List Message} {message : Message} {fault : FrameError}
      (hended : job.isEnded = true)
      (hmessage : job.offer = some message ∨
        ∃ error, message = family.failure requestId (.share error))
      (hfault : Packet.ofMessage message = .error fault)
      (hparts : ∀ message ∈ parts, message.IsPart requestId family) :
      Stands requestId family job parts

variable {requestId : String} {family : Family} {job job' : Job} {message : Message}
variable {world world' : World Channel} {status : JobStatus} {said : List Message}

/-! ### One step -/

/-- What a job makes of what its producer comes to. -/
def take (job : Job) (world : World Channel) : Product → (JobStatus × Job) × World Channel
  | .message message next =>
    ((.running, { job with producer := next, offer := some message }), world)
  | .quiet next => ((.running, { job with producer := next }), world)
  | .stop => ((.ended, job.ended), world)
  | .failure error => (job.failWith error).run world

/-- A job with nothing in hand takes what its producer comes to. -/
theorem step_of_advance {product : Product} (hgoing : job.isEnded = false)
    (hoffer : job.offer = none) (hadvance : (job.producer.advance job.requestId
      (Outlet.isCancelled world.outlet)).run world = (product, world')) :
    job.step.run world = job.take world' product := by
  rw [step_run, hgoing, hoffer]
  simp only [Bool.false_eq_true, if_false]
  rw [produce_run, hadvance]
  cases product <;> simp [take, hoffer, hgoing]

/-- **What comes of an offer while the connection is in order**: there is no room, or the message
makes no packet and the job ends, or the message is queued. -/
theorem offerOnce_up (hrole : job.role = .responder) (hup : world.outlet.isUp = true)
    (hgoes : world.outlet.isCancelled = false)
    (hrun : (job.offerOnce message).run world = ((status, job'), world')) :
    (Outlet.hasSpace world.outlet = false ∧ job' = job ∧ world' = world) ∨
      (∃ fault, Packet.ofMessage message = .error fault ∧ job' = job.ended ∧ world' = world) ∨
      job' = { job with offer := none, sent := job.sent + UInt64.ofNat (uploadedBytes message) } ∧
        world'.outlet.underway = world.outlet.underway ++ [message] := by
  have hcancelled : Outlet.isCancelled world.outlet = false := hgoes
  rw [offerOnce_run, hcancelled] at hrun
  simp only [Bool.false_eq_true, if_false] at hrun
  cases hspace : Outlet.hasSpace world.outlet with
  | false =>
    rw [hspace, World.flush_run, Channel.report, if_pos hup] at hrun
    obtain ⟨-, rfl, rfl⟩ := run_inj hrun
    exact .inl ⟨rfl, rfl, rfl⟩
  | true =>
    rw [hspace, if_pos rfl] at hrun
    rcases hsend : (World.send message).run.run world with ⟨result, mid⟩
    rw [hsend] at hrun
    rcases World.send_up hup hsend with ⟨fault, hfault, rfl, rfl⟩ | ⟨rfl, hsent⟩
    · change (job.failWith (.session (.frame fault))).run mid = _ at hrun
      -- the responder takes the connection to be going away
      rw [failWith_run, hrole] at hrun
      obtain ⟨-, rfl, rfl⟩ := run_inj hrun
      exact .inr (.inl ⟨fault, hfault, rfl, rfl⟩)
    · obtain ⟨-, rfl, rfl⟩ := run_inj hrun
      exact .inr (.inr ⟨rfl, hsent⟩)

/-- **What comes of a call that has failed while the connection is in order**: the job ends, and the
failure is told unless that makes no packet. -/
theorem failWith_up (error : ShareError) (hrole : job.role = .responder)
    (hup : world.outlet.isUp = true)
    (hrun : (job.failWith (.share error)).run world = ((status, job'), world')) :
    job' = job.ended ∧
      ((∃ fault, Packet.ofMessage (job.family.failure job.requestId (.share error)) =
          .error fault ∧ world' = world) ∨
        world'.outlet.underway = world.outlet.underway ++
          [job.family.failure job.requestId (.share error)]) := by
  rw [failWith_run, hrole] at hrun
  obtain ⟨-, rfl, hworld⟩ := run_inj hrun
  refine ⟨rfl, ?_⟩
  rcases hsend : (World.send (job.family.failure job.requestId (.share error))).run.run world with
    ⟨result, mid⟩
  have hmid : world' = mid := hworld.symm.trans (congrArg Prod.snd hsend)
  rcases World.send_up hup hsend with ⟨fault, hfault, -, rfl⟩ | ⟨-, hsent⟩
  · exact .inl ⟨fault, hfault, hmid⟩
  · exact .inr (hmid ▸ hsent)

/-- **What one step of a job comes to**: perhaps something more has been said, and some of what
there was to say is used up unless there was no room for it. -/
structure Goes (requestId : String) (family : Family) (job job' : Job)
    (world world' : World Channel) (said : List Message) : Prop where
  spoken : ∃ more, world'.outlet.underway = world.outlet.underway ++ more ∧
    job'.Stands requestId family (said ++ more)
  left : job'.stepsLeft ≤ job.stepsLeft - if Outlet.hasSpace world.outlet then 1 else 0

/-- A step in which nothing is said. -/
theorem Goes.quiet (houtlet : world'.outlet = world.outlet)
    (hstands : job'.Stands requestId family said)
    (hleft : job'.stepsLeft ≤ job.stepsLeft - if Outlet.hasSpace world.outlet then 1 else 0) :
    Goes requestId family job job' world world' said :=
  ⟨⟨[], by rw [houtlet, List.append_nil], by rwa [List.append_nil]⟩, hleft⟩

theorem stepsLeft_of_isEnded (h : job.isEnded = true) : job.stepsLeft = 0 := by
  rw [stepsLeft, if_pos h]

/-- A job that has ended stays as it is. -/
theorem Stands.step_of_isEnded (h : job.Stands requestId family said) (hended : job.isEnded = true)
    (hrun : job.step.run world = ((status, job'), world')) :
    Goes requestId family job job' world world' said := by
  rw [step_run, if_pos hended] at hrun
  obtain ⟨-, rfl, rfl⟩ := run_inj hrun
  exact .quiet rfl h (by rw [stepsLeft_of_isEnded hended]; exact Nat.zero_le _)

/-- What a job has in hand is said, or it makes no packet. -/
theorem Goes.offer {producer : Producer} {sent : UInt64}
    (hparts : ∀ message ∈ said, message.IsPart requestId family)
    (hjob : job = ⟨.responder, family, requestId, producer, some message, sent, false⟩)
    (hstands : job.Stands requestId family said)
    (hnext : ∀ sent, Stands requestId family
      ⟨.responder, family, requestId, producer, none, sent, false⟩ (said ++ [message]))
    (hup : world.outlet.isUp = true) (hgoes : world.outlet.isCancelled = false)
    (hrun : job.step.run world = ((status, job'), world')) :
    Goes requestId family job job' world world' said := by
  subst hjob
  have hoffer : (Job.offerOnce ⟨.responder, family, requestId, producer, some message, sent, false⟩
      message).run world = ((status, job'), world') := by
    rwa [step_run] at hrun
  rcases offerOnce_up rfl hup hgoes hoffer with ⟨hfull, rfl, rfl⟩ | ⟨fault, hfault, rfl, rfl⟩ |
    ⟨rfl, hsent⟩
  · exact .quiet rfl hstands (by simp [hfull])
  · exact .quiet rfl (.silent rfl (.inl rfl) hfault hparts)
      (by rw [stepsLeft_of_isEnded rfl]; exact Nat.zero_le _)
  · refine ⟨⟨[message], hsent, hnext _⟩, ?_⟩
    simp only [stepsLeft, Bool.false_eq_true, if_false, Option.isSome_some, Option.isSome_none,
      if_true]
    split <;> omega

/-- A producer that has not said all comes to a message, or takes something in, or fails. -/
theorem Goes.produce {producer : Producer} {sent : UInt64} (hproducer : producer.IsFor family)
    (hparts : ∀ message ∈ said, message.IsPart requestId family)
    (hjob : job = ⟨.responder, family, requestId, producer, none, sent, false⟩)
    (hup : world.outlet.isUp = true) (hgoes : world.outlet.isCancelled = false)
    (hrun : job.step.run world = ((status, job'), world')) :
    Goes requestId family job job' world world' said := by
  subst hjob
  have hcancelled : Outlet.isCancelled world.outlet = false := hgoes
  rcases hadvance : (producer.advance requestId false).run world with ⟨product, mid⟩
  obtain ⟨houtlet, hcomes⟩ := hproducer.comes hadvance
  rw [step_of_advance rfl rfl (hcancelled ▸ hadvance)] at hrun
  -- whatever there is room for, the producer has used up some of what it has
  have hleft : ∀ {job' : Job}, job'.stepsLeft < producer.stepsLeft → job'.stepsLeft ≤
      Job.stepsLeft ⟨.responder, family, requestId, producer, none, sent, false⟩ -
        if Outlet.hasSpace world.outlet then 1 else 0 := by
    intro job' hlt
    change _ ≤ producer.stepsLeft - _
    split <;> omega
  cases hcomes with
  | part hpart hnext hless =>
    obtain ⟨-, rfl, rfl⟩ := run_inj hrun
    exact .quiet houtlet (.working hnext (by simpa using hpart) hparts)
      (hleft (by simpa [stepsLeft]))
  | conclusion hless =>
    obtain ⟨-, rfl, rfl⟩ := run_inj hrun
    exact .quiet houtlet (.concluding hparts) (hleft (by simpa [stepsLeft]))
  | quiet hnext hless =>
    obtain ⟨-, rfl, rfl⟩ := run_inj hrun
    exact .quiet houtlet (.working hnext nofun hparts) (hleft (by simpa [stepsLeft]))
  | failure error =>
    obtain ⟨rfl, htold⟩ := failWith_up error rfl (by rw [houtlet]; exact hup) hrun
    rcases htold with ⟨fault, hfault, rfl⟩ | htold
    · exact .quiet houtlet (.silent rfl (.inr ⟨error, rfl⟩) hfault hparts)
        (hleft producer.stepsLeft_pos)
    · exact ⟨⟨_, htold.trans (by rw [houtlet]), .failed error hproducer hparts⟩,
        hleft producer.stepsLeft_pos⟩

/-- **One step of a job while the connection is in order and nobody has told it to stop.** -/
theorem Stands.step (h : job.Stands requestId family said) (hup : world.outlet.isUp = true)
    (hgoes : world.outlet.isCancelled = false)
    (hrun : job.step.run world = ((status, job'), world')) :
    Goes requestId family job job' world world' said := by
  cases hended : job.isEnded with
  | true => exact h.step_of_isEnded hended hrun
  | false =>
    have hstands := h
    -- the cases are what the job has in hand
    cases h with
    | @working producer offer sent _ hproducer hoffer hparts =>
      cases offer with
      | none => exact .produce hproducer hparts rfl hup hgoes hrun
      | some message =>
        refine .offer hparts rfl hstands (fun sent ↦ .working hproducer nofun ?_) hup hgoes hrun
        exact List.forall_mem_append.2 ⟨hparts, by simpa using hoffer message rfl⟩
    | concluding hparts =>
      exact .offer hparts rfl hstands (fun sent ↦ .concluded hparts) hup hgoes hrun
    | @concluded sent isEnded parts hparts =>
      obtain rfl : isEnded = false := hended
      -- the last word has been said, and nothing more comes
      have hstop : (Producer.finished.advance requestId (Outlet.isCancelled world.outlet)).run
          world = (.stop, world) := rfl
      rw [step_of_advance rfl rfl hstop] at hrun
      obtain ⟨-, rfl, rfl⟩ := run_inj hrun
      exact .quiet rfl (.concluded hparts) (by rw [stepsLeft_of_isEnded rfl]; exact Nat.zero_le _)
    | failed error hproducer hparts => cases hended
    | silent hend => exact absurd hend (by simp [hended])

/-! ### A whole run -/

/-- A step in the next world that the job meets. What is new in the outlet has been said. -/
def say (state : Job × List Message) (world : World Channel) : Job × List Message :=
  let ((_, job), world') := state.1.step.run world
  (job, state.2 ++ world'.outlet.underway.drop world.outlet.underway.length)

/-- **The job after so many steps**, each in a world of its own, and what it has said. -/
def sayAll (job : Job) (worlds : List (World Channel)) : Job × List Message :=
  worlds.foldl say (job, [])

/-- What a step has queued has been said. -/
theorem say_eq {more : List Message} (hrun : job.step.run world = ((status, job'), world'))
    (hmore : world'.outlet.underway = world.outlet.underway ++ more) :
    say (job, said) world = (job', said ++ more) := by
  unfold say
  dsimp only
  rw [hrun]
  dsimp only
  rw [hmore, List.drop_left]

/-- **A job as a responder starts it**, for a directory or for a range of a file. -/
def Accepted (job : Job) (requestId : String) (family : Family) : Prop :=
  ∃ producer : Producer, producer.IsFor family ∧
    job = .start .responder family requestId producer 0

/-- A job that has been started has said nothing. -/
theorem Accepted.stands (h : job.Accepted requestId family) :
    job.Stands requestId family [] := by
  obtain ⟨producer, hproducer, rfl⟩ := h
  exact .working hproducer nofun nofun

/-- **A job ends and says nothing when what it has in hand makes no packet**, whatever may be the
matter with the connection. -/
theorem step_of_fault {fault : FrameError} (hrole : job.role = .responder)
    (hgoing : job.isEnded = false) (hoffer : job.offer = some message)
    (hfault : Packet.ofMessage message = .error fault) (hgoes : world.outlet.isCancelled = false)
    (hspace : Outlet.hasSpace world.outlet = true) :
    job.step.run world = ((.ended, job.ended), world) := by
  have hcancelled : Outlet.isCancelled world.outlet = false := hgoes
  have hsend : (World.send message).run.run world =
      (.error (.session (.frame fault)), world) := by
    rw [World.send_run]
    simp only [Outlet.send, hfault]
    rfl
  rw [step_run, hgoing, hoffer]
  simp only [Bool.false_eq_true, if_false]
  rw [offerOnce_run, hcancelled, hspace, hsend]
  simp only [Bool.false_eq_true, if_false, if_true]
  rw [failWith_run, hrole]
  rfl

/-- A job with nothing left to cut reads on. -/
theorem step_of_read {source : RangeSource} {data : ByteArray} {store : Store}
    (hgoing : job.isEnded = false) (hoffer : job.offer = none)
    (hproducer : job.producer = .range source) (hpending : source.pending.size = 0)
    (hposition : source.position ≤ source.last) (hgoes : world.outlet.isCancelled = false)
    (hread : (Share.read source.file (min (source.last - source.position + 1)
      source.readSize)).run.run world.store = (.ok data, store)) (hsome : data.size ≠ 0) :
    job.step.run world = ((.running, { job with producer := .range { source with
      position := source.position + data.size, pending := data } }), { world with store }) := by
  have hcancelled : Outlet.isCancelled world.outlet = false := hgoes
  have hadvance : (job.producer.advance job.requestId
      (Outlet.isCancelled world.outlet)).run world = (.quiet (.range { source with
        position := source.position + data.size, pending := data }), { world with store }) := by
    rw [hproducer, hcancelled]
    change (Producer.advanceRange job.requestId false source).run world = _
    rw [Producer.advanceRange_run, if_neg (by omega), if_neg (by omega)]
    simp only [Bool.false_eq_true, if_false, hread, hsome]
  exact step_of_advance hgoing hoffer hadvance

/-- A job cuts the next piece off what has been read. -/
theorem step_of_cut {source : RangeSource} (hgoing : job.isEnded = false)
    (hoffer : job.offer = none) (hproducer : job.producer = .range source)
    (hpending : source.pending.size ≠ 0) :
    job.step.run world = ((.running, { job with
      producer := .range { source with
        pending := source.pending.extract source.chunkSize source.pending.size }
      offer := some (Producer.downloadMessage job.requestId
        (source.pending.extract 0 source.chunkSize)) }), world) := by
  have hadvance : (job.producer.advance job.requestId
      (Outlet.isCancelled world.outlet)).run world =
        (.message (Producer.downloadMessage job.requestId
          (source.pending.extract 0 source.chunkSize)) (.range { source with
            pending := source.pending.extract source.chunkSize source.pending.size }), world) := by
    rw [hproducer]
    change (Producer.advanceRange job.requestId _ source).run world = _
    rw [Producer.advanceRange_run, if_pos hpending]
  exact step_of_advance hgoing hoffer hadvance

/-- **What becomes of a piece that is as long as a payload may be:** the data are read, the piece is
cut, and when it is offered, the job ends. -/
theorem steps_of_large_piece {source : RangeSource} {first : World Channel} {data : ByteArray}
    {store : Store} (requestId : String) (hpending : source.pending.size = 0)
    (hposition : source.position ≤ source.last) (hchunk : Header.maxPayload ≤ source.chunkSize)
    (hgoes : first.outlet.isCancelled = false)
    (hread : (Share.read source.file (min (source.last - source.position + 1)
      source.readSize)).run.run first.store = (.ok data, store))
    (hlarge : Header.maxPayload ≤ data.size) :
    ∃ reading offering : Job,
      (start .responder .download requestId (.range source) 0).step.run first =
        ((.running, reading), { first with store }) ∧
      (∀ world : World Channel, reading.step.run world = ((.running, offering), world)) ∧
      ∀ world : World Channel, world.outlet.isCancelled = false →
        Outlet.hasSpace world.outlet = true →
          offering.step.run world = ((.ended, offering.ended), world) := by
  have hsome : data.size ≠ 0 := Nat.ne_of_gt (Nat.lt_of_lt_of_le (by decide) hlarge)
  obtain ⟨fault, hfault⟩ : ∃ fault, Packet.ofMessage (Producer.downloadMessage requestId
      (data.extract 0 source.chunkSize)) = .error fault :=
    Packet.ofMessage_downloadMessage requestId (by rw [ByteArray.size_extract]; omega)
  exact ⟨_, _, step_of_read rfl rfl rfl hpending hposition hgoes hread hsome,
    fun _ ↦ step_of_cut rfl rfl rfl hsome, fun _ ↦ step_of_fault rfl rfl rfl hfault⟩

/-- **A range of a file is never sent if a read gives as much at once as a payload may hold, and the
pieces may be as long as that**: the job ends, and the initiator is told nothing at all. -/
theorem range_ends_untold {source : RangeSource} {first second third : World Channel}
    {data : ByteArray} {store : Store} (requestId : String) (hpending : source.pending.size = 0)
    (hposition : source.position ≤ source.last) (hchunk : Header.maxPayload ≤ source.chunkSize)
    (hread : (Share.read source.file (min (source.last - source.position + 1)
      source.readSize)).run.run first.store = (.ok data, store))
    (hlarge : Header.maxPayload ≤ data.size)
    (hworlds : ∀ world ∈ [first, second, third], world.outlet.isCancelled = false)
    (hspace : Outlet.hasSpace third.outlet = true) :
    let (last, said) :=
      (start .responder .download requestId (.range source) 0).sayAll [first, second, third]
    last.isEnded = true ∧ said = [] := by
  obtain ⟨reading, offering, hreads, hcuts, hends⟩ := steps_of_large_piece requestId hpending
    hposition hchunk (hworlds first (by simp)) hread hlarge
  have hsilent : ∀ {job job' : Job} {world world' : World Channel} {status : JobStatus},
      job.step.run world = ((status, job'), world') → world'.outlet = world.outlet →
        say (job, []) world = (job', []) :=
    fun hrun houtlet ↦ say_eq hrun (by rw [houtlet, List.append_nil])
  unfold sayAll
  rw [List.foldl_cons, hsilent hreads rfl, List.foldl_cons, hsilent (hcuts second) rfl,
    List.foldl_cons, hsilent (hends third (hworlds third (by simp)) hspace) rfl]
  exact ⟨rfl, rfl⟩

end Job

/-! ### The jobs that a responder starts -/

section Starting

variable {ω : Type} [Outlet ω] {world world' : World ω} {requestId : String} {message : Message}
variable {result : Except ExchangeError Unit}

/-- What is there in the place of a job after a message: the job, or none, or an accepted one. -/
def Job.Follows (requestId : String) (family : Family) (job job' : Option Job) : Prop :=
  job' = job ∨ job' = none ∨ ∃ next : Job, job' = some next ∧ next.Accepted requestId family

/-- A request for a listing starts a job. -/
theorem Listing.follows_of_answer {job job' : Option Job}
    (hrun : (answer requestId message job).run world = ((result, job'), world')) :
    Job.Follows requestId .listing job job' := by
  unfold answer at hrun
  rw [StateT.run_bind] at hrun
  rcases hopen : (openListing requestId message).run.run world with ⟨_ | _ | source, mid⟩
  all_goals
    rw [hopen] at hrun
    obtain ⟨-, rfl, -⟩ := run_inj hrun
  · exact .inl rfl
  · exact .inl rfl
  · exact .inr (.inr ⟨_, rfl, _, .listing source, rfl⟩)

/-- To open a file stops what is being sent of another one. -/
theorem FileServer.job_of_begin {server server' : FileServer}
    (hrun : (server.begin requestId message).run world = ((result, server'), world')) :
    server'.job = server.job ∨ server'.job = none := by
  unfold begin at hrun
  rw [StateT.run_bind] at hrun
  rcases hopen : (openSource message).run.run world with ⟨_ | ⟨url, file, stat⟩, mid⟩
  all_goals
    rw [hopen] at hrun
    obtain ⟨-, rfl, -⟩ := run_inj hrun
  · exact .inl rfl
  · obtain ⟨served, size, job⟩ := server
    refine .inr ?_
    cases served <;> rfl

/-- **A request for a range starts a job** that cuts it into the pieces that the request asks for,
unless the range is empty or the file cannot be sought. -/
theorem FileServer.job_of_serve {settings : TransferSettings} {server server' : FileServer}
    (hrun : (server.serve settings requestId message).run world = ((result, server'), world')) :
    server'.job = server.job ∨ server'.job = none ∨
      ∃ range file first last, requestedRange? message = some range ∧
        server'.job = some (.start .responder .download requestId
          (.range ⟨file, first, last, chunkSize settings range, max 1 settings.readBuffer,
            ByteArray.empty⟩) 0) := by
  unfold serve at hrun
  split at hrun
  · obtain ⟨-, rfl, -⟩ := run_inj hrun
    exact .inl rfl
  · obtain ⟨-, rfl, -⟩ := run_inj hrun
    exact .inl rfl
  · rename_i range file hrange _
    rcases hstop : (server.stopJob : WorldM ω FileServer).run world with ⟨stopped, mid⟩
    rw [run_bind_of_run hstop] at hrun
    obtain rfl : stopped = { server with job := none } := (Prod.mk.inj hstop).1.symm
    dsimp only at hrun
    split at hrun
    · obtain ⟨-, rfl, -⟩ := run_inj hrun
      exact .inr (.inl rfl)
    · rename_i first last _
      rcases hseek : (World.share (Share.seek file (UInt64.ofNat first)) :
        StepM ω Nat).run.run mid with ⟨_ | _, sought⟩
      all_goals
        rw [run_bind_of_run hseek] at hrun
        obtain ⟨-, rfl, -⟩ := run_inj hrun
      · exact .inr (.inl rfl)
      · exact .inr (.inr ⟨range, file, first, last, hrange, rfl⟩)

theorem FileServer.follows_of_serve {settings : TransferSettings} {server server' : FileServer}
    (hrun : (server.serve settings requestId message).run world = ((result, server'), world')) :
    Job.Follows requestId .download server.job server'.job := by
  rcases job_of_serve hrun with hsame | hnone | ⟨range, file, first, last, -, hjob⟩
  · exact .inl hsame
  · exact .inr (.inl hnone)
  · -- a piece is never empty, however the settings or the request may be
    exact .inr (.inr ⟨_, hjob, _, .range _ (Nat.ne_of_gt (Nat.le_max_left 1 _)), rfl⟩)

/-- **Whatever a responder of a download is told, the job that it has afterwards** is the one that
it had, or one that cuts a range into the pieces that the request asks for, if it has a job at all.
-/
theorem FileServer.job_of_handle {settings : TransferSettings} {command : Command}
    {server : FileServer} {state' : Responder}
    (hrun : (Responder.handle settings requestId command message (.download server)).run world =
      ((result, state'), world')) :
    state'.job? = server.job ∨ state'.job? = none ∨
      ∃ range file first last, requestedRange? message = some range ∧
        state'.job? = some (.start .responder .download requestId
          (.range ⟨file, first, last, chunkSize settings range, max 1 settings.readBuffer,
            ByteArray.empty⟩) 0) := by
  cases command with
  | downloadInitReq =>
    rcases hbegin : (server.begin requestId message).run world with ⟨⟨answer, server'⟩, mid⟩
    unfold Responder.handle at hrun
    rw [run_bind_of_run hbegin] at hrun
    obtain ⟨-, rfl, -⟩ := run_inj hrun
    exact (job_of_begin hbegin).imp_right .inl
  | downloadDataReq =>
    rcases hserve : (server.serve settings requestId message).run world with
      ⟨⟨answer, server'⟩, mid⟩
    unfold Responder.handle at hrun
    rw [run_bind_of_run hserve] at hrun
    obtain ⟨-, rfl, -⟩ := run_inj hrun
    exact job_of_serve hserve
  | _ =>
    obtain ⟨-, rfl, -⟩ := run_inj hrun
    exact .inl rfl

/-- **Every job that a responder has after a message is one that it had before or an accepted one.**
-/
theorem Responder.follows_of_handle {settings : TransferSettings} {command : Command}
    {state state' : Responder}
    (hrun : (state.handle settings requestId command message).run world =
      ((result, state'), world')) :
    Job.Follows requestId state.family state.job? state'.job? := by
  unfold handle at hrun
  -- only a listing and a download have a job
  split at hrun
  case h_4 job =>
    rcases hanswer : (Listing.answer requestId message job).run world with ⟨⟨answer, job'⟩, mid⟩
    rw [run_bind_of_run hanswer] at hrun
    obtain ⟨-, rfl, -⟩ := run_inj hrun
    exact Listing.follows_of_answer hanswer
  case h_5 server =>
    rcases hbegin : (server.begin requestId message).run world with ⟨⟨answer, server'⟩, mid⟩
    rw [run_bind_of_run hbegin] at hrun
    obtain ⟨-, rfl, -⟩ := run_inj hrun
    exact (FileServer.job_of_begin hbegin).imp_right .inl
  case h_6 server =>
    rcases hserve : (server.serve settings requestId message).run world with
      ⟨⟨answer, server'⟩, mid⟩
    rw [run_bind_of_run hserve] at hrun
    obtain ⟨-, rfl, -⟩ := run_inj hrun
    exact FileServer.follows_of_serve hserve
  case h_11 =>
    obtain ⟨-, rfl, -⟩ := run_inj hrun
    exact .inl rfl
  all_goals
    rw [StateT.run_bind] at hrun
    obtain ⟨-, rfl, -⟩ := run_inj hrun
    exact .inl rfl

/-- **Whatever a responder is told, the job that it has afterwards** is the one that it had or an
accepted one, if it has a job at all. -/
theorem Side.follows_of_process {side : Side} {state : Responder}
    (hexchange : side.exchange = ⟨requestId, .responder state⟩) (message : Message) :
    Job.Follows requestId state.family side.exchange.party.job?
      (side.process message).exchange.party.job? := by
  cases hcheck : side.exchange.check message with
  | error error =>
    have hsame : (side.process message).exchange = side.exchange := by
      unfold process Exchange.process
      rw [hcheck]
      rfl
    rw [hsame]
    exact .inl rfl
  | ok command =>
    rcases hrun : (state.handle side.settings requestId command message).run side.world with
      ⟨⟨result, state'⟩, mid⟩
    have hhandle : (side.exchange.handle side.settings command message).run side.world =
        ((result, ⟨requestId, .responder state'⟩), mid) := by
      rw [hexchange]
      exact (run_bind_of_run hrun).trans rfl
    rw [process_eq hcheck, hhandle, hexchange]
    exact Responder.follows_of_handle hrun

end Starting

end FileShare
