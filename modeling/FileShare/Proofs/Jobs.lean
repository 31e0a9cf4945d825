import FileShare.Proofs.Conversation

/-!
# One step of a background job

A job offers the message in hand, or produces something. These are the equations of both, with the
failures in the places where they occur: nothing that a job does goes unnoticed in them. What the
jobs of the families do follows from what their producers do.
-/

namespace FileShare

namespace Job

variable {ω : Type} [Outlet ω] (job : Job) (world : World ω)

/-- A message in hand is offered if the exchange goes on and there is room. -/
theorem offerOnce_run (message : Message) :
    (job.offerOnce message).run world =
      if Outlet.isCancelled world.outlet then ((.ended, job.ended), world)
      else if Outlet.hasSpace world.outlet then
        match (World.send message).run.run world with
        | (.error error, mid) => (job.failWith error).run mid
        | (.ok _, mid) => ((.running, { job with
            offer := none
            sent := job.sent + UInt64.ofNat (uploadedBytes message) }), mid)
      else
        match (World.flush : StepM ω Unit).run.run world with
        | (.error error, mid) => (job.failWith error).run mid
        | (.ok _, mid) =>
          ((if Outlet.hasSpace mid.outlet then .running else .blocked, job), mid) := by
  unfold offerOnce
  rw [StateT.run_bind]
  change StateT.run (if Outlet.isCancelled world.outlet then _
    else if Outlet.hasSpace world.outlet then _ else _) world = _
  cases hcancelled : Outlet.isCancelled world.outlet with
  | true => rfl
  | false =>
    cases hspace : Outlet.hasSpace world.outlet with
    | true =>
      simp only [Bool.false_eq_true, if_true, if_false]
      rw [StateT.run_bind]
      rcases (World.send message).run.run world with ⟨_ | _, mid⟩ <;> rfl
    | false =>
      simp only [Bool.false_eq_true, if_false]
      rw [StateT.run_bind]
      rcases (World.flush : StepM ω Unit).run.run world with ⟨_ | _, mid⟩ <;> rfl

/-- What a producer comes to is taken in hand, or ends the job. -/
theorem produce_run :
    job.produce.run world =
      match (job.producer.advance job.requestId (Outlet.isCancelled world.outlet)).run world with
      | (.message message next, mid) =>
        ((.running, { job with producer := next, offer := some message }), mid)
      | (.quiet next, mid) => ((.running, { job with producer := next }), mid)
      | (.stop, mid) => ((.ended, job.ended), mid)
      | (.failure error, mid) => (job.failWith error).run mid := by
  unfold produce
  rw [StateT.run_bind]
  rcases hadvance : (job.producer.advance job.requestId
    (Outlet.isCancelled world.outlet)).run world with ⟨_ | _ | _ | _, mid⟩
  all_goals
    change StateT.run (job.producer.advance job.requestId (Outlet.isCancelled world.outlet) >>= _)
      world = _
    rw [StateT.run_bind, hadvance]
    rfl

/-- **A step of a job**: one that has ended does nothing. -/
theorem step_run :
    job.step.run world =
      if job.isEnded then ((.ended, job), world)
      else match job.offer with
        | some message => (job.offerOnce message).run world
        | none => job.produce.run world := by
  unfold step
  split
  · rfl
  · cases job.offer <;> rfl

/-- **To stop a job** lets it produce once more, and drops what comes of it. -/
theorem stop_run :
    job.stop.run world =
      if !job.isEnded && job.offer.isNone then
        match (job.producer.advance job.requestId true).run world with
        | (.failure error, mid) => (World.fail job.role job.family job.requestId error).run mid
        | (_, mid) => ((), mid)
      else ((), world) := by
  unfold stop
  split
  · rw [StateT.run_bind]
    rcases (job.producer.advance job.requestId true).run world with ⟨_ | _ | _ | _, mid⟩ <;> rfl
  · rfl

/-- **A failure ends a job**, and is told in the way of its side. -/
theorem failWith_run (error : ExchangeError) :
    (job.failWith error).run world =
      ((.ended, job.ended),
        ((World.fail job.role job.family job.requestId error).run world).2) := rfl

end Job

/-! ### Jobs on a channel -/

/-- A channel is not changed by being asked to move on. -/
theorem World.flush_run (world : World Channel) :
    (World.flush : StepM Channel Unit).run.run world =
      (world.outlet.report.mapError .session, world) := rfl

namespace Job

variable {job job' : Job} {world world' : World Channel} {message : Message} {status : JobStatus}

/-- **What comes of an offer**: nothing has happened and the job may have ended, or the message has
been queued and counted, or the session has failed. -/
theorem offerOnce_cases (h : (job.offerOnce message).run world = ((status, job'), world')) :
    (world' = world ∧ (job' = job ∨ job' = job.ended)) ∨
      (world.OnChannel world' ∧
        world'.outlet.underway = world.outlet.underway ++ [message] ∧
        job' = { job with
          offer := none
          sent := job.sent + UInt64.ofNat (uploadedBytes message) }) ∨
      ∃ cause mid, world.OnChannel mid ∧
        (mid.outlet.underway = world.outlet.underway ∨
          mid.outlet.underway = world.outlet.underway ++ [message]) ∧
        job' = job.ended ∧
        world' = ((World.fail job.role job.family job.requestId (.session cause)).run mid).2 := by
  rw [offerOnce_run] at h
  split at h
  · obtain ⟨-, rfl, rfl⟩ := run_inj h
    exact .inl ⟨rfl, .inr rfl⟩
  split at h
  · rcases hsend : (World.send message).run.run world with ⟨answer, mid⟩
    obtain ⟨hchannel, hsent⟩ := World.send_cases hsend
    rw [hsend] at h
    cases answer with
    | error error =>
      obtain ⟨-, rfl, rfl⟩ := run_inj h
      obtain ⟨cause, rfl⟩ := World.send_error hsend
      exact .inr (.inr ⟨cause, mid, hchannel, (hsent.imp id And.right).symm, rfl, rfl⟩)
    | ok _ =>
      obtain ⟨-, rfl, rfl⟩ := run_inj h
      rcases hsent with hsent | ⟨⟨error, herror⟩, -⟩
      · exact .inr (.inl ⟨hchannel, hsent, rfl⟩)
      · cases herror
  · rw [World.flush_run] at h
    cases hreport : world.outlet.report with
    | error cause =>
      rw [hreport] at h
      obtain ⟨-, rfl, rfl⟩ := run_inj h
      exact .inr (.inr ⟨cause, world, ⟨rfl, rfl, rfl, rfl⟩, .inl rfl, rfl, rfl⟩)
    | ok _ =>
      rw [hreport] at h
      obtain ⟨-, rfl, rfl⟩ := run_inj h
      exact .inl ⟨rfl, .inl rfl⟩

/-- To offer a message makes no difference to where the next one comes from. -/
theorem producer_of_offerOnce (h : (job.offerOnce message).run world = ((status, job'), world')) :
    job'.producer = job.producer := by
  rcases offerOnce_cases h with ⟨-, rfl | rfl⟩ | ⟨-, -, rfl⟩ | ⟨cause, mid, -, -, rfl, -⟩
  all_goals rfl

end Job

end FileShare
