import FileShare.Proofs.Endings
import FileShare.Proofs.Sending
import FileShare.Proofs.Serving
import FileShare.Service.Task

/-!
# Background jobs that are told to stop

A job may be told to stop at any time. What it says then is compared with what it would have said:
two runs of one job, on an outlet and on shares that may do anything meanwhile. All three kinds of
work are jobs, and they differ in their producers only.

A job looks at its flag at most once in a step, so a flag that is raised in the middle of a step is
as good as one that is raised before it or after it. What a producer comes to depends on the store
alone (`Producer.yields`); with the flag raised it stops, or it has not noticed and comes to what it
would have come to anyway (`Producer.yields_cancelled`). So the two runs go abreast until the one
that was told has ended (`Loop.Trails`), with a step lemma (`Loop.Trails.does`) and a run lemma
(`Loop.Trails.run`). From then on it says nothing, and the other one goes on alone. Hence
`Loop.cancellation_truncates`: **what a job says that is told to stop is the front of what it would
have said**, so it says no end, no failure and no short piece that it would not have said.

To know what a job says, its outlet is overheard (`Overheard`). The job does not notice: until it is
told to stop, a run that is listened to is the run of the same job on the bare outlet
(`Loop.unheard_run`). The flag stands with the listener, not with the outlet: it is that of the
job's own token (`Overheard.token`), a child of the token by which the exchange is told to stop. To
raise it may go along with any change of the outlet, such as the end of its session.
-/

namespace FileShare

/-! ### What a producer comes to -/

namespace Producer

/-- What a producer comes to with a store, which is all that it sees of its world. -/
def yields (requestId : String) (cancelled : Bool) (producer : Producer) (store : Store) :
    Product × Store :=
  let ran := (producer.advance requestId cancelled).run (⟨(), store, false, [], none⟩ : World Unit)
  (ran.1, ran.2.store)

theorem advance_run {ω : Type} (requestId : String) (cancelled : Bool) (producer : Producer)
    (world : World ω) :
    (producer.advance requestId cancelled).run world =
      ((producer.yields requestId cancelled world.store).1,
        { world with store := (producer.yields requestId cancelled world.store).2 }) := by
  unfold yields
  cases producer with
  | listing source =>
    simp only [advance, advanceListing_run]
    rcases (Share.nextEntry source.directory).run.run world.store with ⟨result, store⟩
    rfl
  | listed => rfl
  | range source =>
    simp only [advance, advanceRange_run]
    split
    · rfl
    split
    · rfl
    split <;> rfl
  | upload source => simp only [advance, advanceUpload_run]
  | finished => rfl

/-- **A producer that has been told to stop** stops, or has not noticed: then it comes to what it
would have come to anyway, which is something at once. -/
theorem yields_cancelled (requestId : String) (cancelled : Bool) (producer : Producer)
    (store : Store) :
    (producer.yields requestId true store).1 = .stop ∨
      producer.yields requestId true store = producer.yields requestId cancelled store ∧
        ∀ next, (producer.yields requestId true store).1 ≠ .quiet next := by
  unfold yields
  cases producer with
  | listing source =>
    simp only [advance, advanceListing_run]
    rcases (Share.nextEntry source.directory).run.run store with ⟨_ | _ | entry, after⟩
    · exact .inr ⟨rfl, nofun⟩
    · refine .inr ⟨rfl, fun next ↦ ?_⟩
      dsimp only
      split <;> simp
    · exact .inl rfl
  | listed => exact .inr ⟨rfl, nofun⟩
  | range source =>
    simp only [advance, advanceRange_run]
    split
    · exact .inr ⟨rfl, nofun⟩
    split
    · exact .inr ⟨rfl, nofun⟩
    · exact .inl rfl
  | upload source => exact .inl rfl
  | finished => exact .inl rfl

end Producer

/-! ### Listening to a job -/

/-- An outlet **with somebody who listens**, and with the flag by which the job that sends into it
is told to stop. -/
structure Overheard (ω : Type) where
  outlet : ω
  /-- Every message that was given to the outlet, the oldest first. -/
  said : List Message
  /-- The job has been told to stop. -/
  told : Bool

namespace Overheard

variable {ω : Type} [Outlet ω] {overheard : Overheard ω}

/-- The token of the job, a child of the one by which its exchange is told to stop. -/
def token (overheard : Overheard ω) : Token :=
  ⟨Outlet.isCancelled overheard.outlet, overheard.told⟩

instance : Outlet (Overheard ω) where
  send overheard message :=
    ((Outlet.send overheard.outlet message).1,
      { overheard with
        outlet := (Outlet.send overheard.outlet message).2
        said := overheard.said ++ [message] })
  hasSpace overheard := Outlet.hasSpace overheard.outlet
  flush overheard :=
    ((Outlet.flush overheard.outlet).1,
      { overheard with outlet := (Outlet.flush overheard.outlet).2 })
  isCancelled overheard := overheard.token.isCancelled

theorem isCancelled_of_told (h : overheard.told = true) : Outlet.isCancelled overheard = true := by
  show (Outlet.isCancelled overheard.outlet || overheard.told) = true
  rw [h, Bool.or_true]

theorem isCancelled_of_untold (h : overheard.told = false) :
    Outlet.isCancelled overheard = Outlet.isCancelled overheard.outlet := by
  show (Outlet.isCancelled overheard.outlet || overheard.told) = _
  rw [h, Bool.or_false]

end Overheard

/-- What a failure of a job is told with, if it is told to the peer. -/
def ExchangeError.tidings (role : Role) (family : Family) (requestId : String) :
    ExchangeError → List Message
  | .session _ => []
  | error => match role with
    | .initiator => []
    | .responder => [.of requestId family.errorCommand (.status error.status)]

theorem ExchangeError.tidings_cases (role : Role) (family : Family) (requestId : String)
    (error : ExchangeError) :
    error.tidings role family requestId = [] ∨
      error.tidings role family requestId =
        [.of requestId family.errorCommand (.status error.status)] := by
  cases role with
  | initiator => cases error <;> exact .inl rfl
  | responder =>
    cases error with
    | session cause => exact .inl rfl
    | _ => exact .inr rfl

/-- What is told of what a producer has come to: a failure, if it is one. -/
def Product.tidings (role : Role) (family : Family) (requestId : String) : Product → List Message
  | .failure error => error.tidings role family requestId
  | _ => []

namespace World

variable {ω : Type} {world world' world'' : World (Overheard ω)} {messages messages' : List Message}

/-- The world of a job that nobody listens to. -/
def unheard (world : World (Overheard ω)) : World ω :=
  ⟨world.outlet.outlet, world.store, world.hasShares, world.workDir, world.outcome⟩

/-- What is heard between two worlds. -/
structure Hears (world world' : World (Overheard ω)) (messages : List Message) : Prop where
  said : world'.outlet.said = world.outlet.said ++ messages
  told : world'.outlet.told = world.outlet.told

/-- Where the outlet stays as it is, nothing is heard. -/
theorem Hears.silence (h : world'.outlet = world.outlet) : world.Hears world' [] :=
  ⟨by rw [h, List.append_nil], by rw [h]⟩

theorem Hears.trans (h : world.Hears world' messages) (h' : world'.Hears world'' messages') :
    world.Hears world'' (messages ++ messages') :=
  ⟨by rw [h'.said, h.said, List.append_assoc], h'.told.trans h.told⟩

variable [Outlet ω]

theorem hears_send (message : Message) (world : World (Overheard ω)) :
    world.Hears ((send message).run.run world).2 [message] :=
  ⟨rfl, rfl⟩

theorem hears_flush (world : World (Overheard ω)) :
    world.Hears ((flush : StepM (Overheard ω) Unit).run.run world).2 [] :=
  ⟨(List.append_nil _).symm, rfl⟩

/-- **What is heard of a failure.** -/
theorem hears_fail (role : Role) (family : Family) (requestId : String) (error : ExchangeError)
    (world : World (Overheard ω)) :
    world.Hears ((fail role family requestId error).run world).2
      (error.tidings role family requestId) := by
  cases role with
  | initiator => cases error <;> exact .silence rfl
  | responder =>
    cases error with
    | session cause => exact .silence rfl
    | _ => exact hears_send _ _

theorem send_unheard (message : Message) (world : World (Overheard ω)) :
    (send message).run.run world.unheard =
      (((send message).run.run world).1, ((send message).run.run world).2.unheard) := rfl

theorem flush_unheard (world : World (Overheard ω)) :
    (flush : StepM ω Unit).run.run world.unheard =
      (((flush : StepM (Overheard ω) Unit).run.run world).1,
        ((flush : StepM (Overheard ω) Unit).run.run world).2.unheard) := rfl

theorem fail_unheard (role : Role) (family : Family) (requestId : String) (error : ExchangeError)
    (world : World (Overheard ω)) :
    (fail role family requestId error).run world.unheard =
      ((), ((fail role family requestId error).run world).2.unheard) := by
  cases role <;> cases error <;> rfl

end World

namespace Job

variable {ω : Type} [Outlet ω]

/-- Whatever a job says is heard. -/
theorem hears_step (job : Job) (world : World (Overheard ω)) :
    ∃ messages, world.Hears (job.step.run world).2 messages := by
  have hfail (mid : World (Overheard ω)) (error : ExchangeError) :=
    World.hears_fail job.role job.family job.requestId error mid
  rw [step_run]
  split
  · exact ⟨_, .silence rfl⟩
  split
  · rename_i message _
    rw [offerOnce_run]
    split
    · exact ⟨_, .silence rfl⟩
    split
    · have hsend := World.hears_send message world
      split
      · rename_i heq
        rw [heq] at hsend
        exact ⟨_, hsend.trans (hfail _ _)⟩
      · rename_i heq
        rw [heq] at hsend
        exact ⟨_, hsend⟩
    · have hflush := World.hears_flush world
      split
      · rename_i heq
        rw [heq] at hflush
        exact ⟨_, hflush.trans (hfail _ _)⟩
      · rename_i heq
        rw [heq] at hflush
        exact ⟨_, hflush⟩
  · rw [produce_run, Producer.advance_run]
    rcases job.producer.yields job.requestId (Outlet.isCancelled world.outlet) world.store with
      ⟨_ | _ | _ | error, store⟩
    · exact ⟨_, .silence rfl⟩
    · exact ⟨_, .silence rfl⟩
    · exact ⟨_, .silence rfl⟩
    · obtain ⟨hsaid, htold⟩ := hfail { world with store } error
      exact ⟨_, hsaid, htold⟩

/-- A job does not notice in a step that somebody listens. -/
theorem step_unheard (job : Job) {world : World (Overheard ω)} (h : world.outlet.told = false) :
    job.step.run world.unheard = ((job.step.run world).1, (job.step.run world).2.unheard) := by
  have hcancelled : Outlet.isCancelled world.unheard.outlet = Outlet.isCancelled world.outlet :=
    (Overheard.isCancelled_of_untold h).symm
  have hfail (mid : World (Overheard ω)) (error : ExchangeError) :
      (job.failWith error).run mid.unheard =
        (((job.failWith error).run mid).1, ((job.failWith error).run mid).2.unheard) := by
    rw [failWith_run, failWith_run, World.fail_unheard]
  rw [step_run, step_run]
  split
  · rfl
  split
  · rename_i message _
    rw [offerOnce_run, offerOnce_run, hcancelled, World.send_unheard, World.flush_unheard]
    split
    · rfl
    have hspace : Outlet.hasSpace world.unheard.outlet = Outlet.hasSpace world.outlet := rfl
    rw [hspace]
    split
    · rcases (World.send message).run.run world with ⟨_ | _, mid⟩
      · exact hfail mid _
      · rfl
    · rcases (World.flush : StepM (Overheard ω) Unit).run.run world with ⟨_ | _, mid⟩
      · exact hfail mid _
      · rfl
  · rw [produce_run, produce_run, hcancelled, Producer.advance_run, Producer.advance_run]
    have hstore : world.unheard.store = world.store := rfl
    rw [hstore]
    rcases job.producer.yields job.requestId (Outlet.isCancelled world.outlet) world.store with
      ⟨_ | _ | _ | error, store⟩
    · rfl
    · rfl
    · rfl
    · exact hfail { world with store } error

end Job

/-! ### Loops -/

/-- **A background job, and the world that it runs in**, where it is listened to. -/
structure Loop (ω : Type) where
  job : Job
  world : World (Overheard ω)

namespace Loop

/-- What happens to a loop. -/
inductive Event (ω : Type) where
  /-- The job takes a step. -/
  | step
  /-- Something happens to the outlet and to the shares. What happens to the outlet may depend on
  whether the job has been told to stop. -/
  | meanwhile (onOutlet : Bool → ω → ω) (onStore : Store → Store)

variable {ω : Type} {loop live cut : Loop ω}

/-- What has been said. -/
def said (loop : Loop ω) : List Message :=
  loop.world.outlet.said

/-- The job has been told to stop. -/
def isTold (loop : Loop ω) : Bool :=
  loop.world.outlet.told

/-- **The job is told to stop**, and something may be done to the outlet with it. -/
def cancel (loop : Loop ω) (onOutlet : ω → ω) : Loop ω :=
  { loop with world := { loop.world with
      outlet := ⟨onOutlet loop.world.outlet.outlet, loop.said, true⟩ } }

/-- **What has become of a loop that was told to stop**, beside one that was not. -/
inductive Trails (live cut : Loop ω) : Prop where
  /-- Nobody could tell them apart yet. -/
  | abreast (htold : cut.isTold = true) (hjob : cut.job = live.job)
      (hstore : cut.world.store = live.world.store) (hsaid : cut.said = live.said)
  | ended (hended : cut.job.isEnded = true) (hfront : cut.said <+: live.said)

theorem Trails.said_le (h : Trails live cut) : cut.said <+: live.said := by
  cases h with
  | abreast _ _ _ hsaid => exact hsaid ▸ List.prefix_refl _
  | ended _ hfront => exact hfront

/-- To be told to stop is not noticed at once. -/
theorem trails_cancel (loop : Loop ω) (onOutlet : ω → ω) : Trails loop (loop.cancel onOutlet) :=
  .abreast rfl rfl rfl rfl

section Running

variable [Outlet ω]

/-- What comes of an event. -/
def does (loop : Loop ω) : Event ω → Loop ω
  | .step =>
    let ran := loop.job.step.run loop.world
    ⟨ran.1.2, ran.2⟩
  | .meanwhile onOutlet onStore =>
    { loop with world := { loop.world with
        outlet := { loop.world.outlet with
          outlet := onOutlet loop.isTold loop.world.outlet.outlet }
        store := onStore loop.world.store } }

/-- What comes of events, one after the other. -/
def run (loop : Loop ω) (events : List (Event ω)) : Loop ω :=
  events.foldl does loop

/-- The job is stopped, and waited for. -/
def stop (loop : Loop ω) : Loop ω :=
  { loop with world := (loop.job.stop.run loop.world).2 }

theorem run_append (loop : Loop ω) (events later : List (Event ω)) :
    loop.run (events ++ later) = (loop.run events).run later :=
  List.foldl_append

/-! ### One event -/

theorem hears_does (loop : Loop ω) (event : Event ω) :
    ∃ messages, loop.world.Hears (loop.does event).world messages := by
  cases event with
  | step => exact loop.job.hears_step loop.world
  | meanwhile onOutlet onStore => exact ⟨[], (List.append_nil _).symm, rfl⟩

theorem said_grows (loop : Loop ω) (event : Event ω) :
    loop.said <+: (loop.does event).said := by
  obtain ⟨messages, hhears⟩ := loop.hears_does event
  exact ⟨messages, hhears.said.symm⟩

theorem said_grows_run (loop : Loop ω) (events : List (Event ω)) :
    loop.said <+: (loop.run events).said := by
  induction events generalizing loop with
  | nil => exact List.prefix_refl _
  | cons event events ih => exact (loop.said_grows event).trans (ih _)

theorem isTold_does (loop : Loop ω) (event : Event ω) : (loop.does event).isTold = loop.isTold := by
  obtain ⟨messages, hhears⟩ := loop.hears_does event
  exact hhears.told

/-! ### Nobody listens -/

/-- The job and its world, without the listener. -/
def unheard (loop : Loop ω) : Job × World ω :=
  (loop.job, loop.world.unheard)

/-- What comes of an event for a job that nobody listens to and that goes on. -/
def Event.befalls : Event ω → Job × World ω → Job × World ω
  | .step, (job, world) =>
    let ran := job.step.run world
    (ran.1.2, ran.2)
  | .meanwhile onOutlet onStore, (job, world) =>
    (job, { world with outlet := onOutlet false world.outlet, store := onStore world.store })

theorem unheard_does (h : loop.isTold = false) (event : Event ω) :
    (loop.does event).unheard = event.befalls loop.unheard := by
  cases event with
  | step =>
    have hstep := loop.job.step_unheard h
    simp only [unheard, Event.befalls, hstep]
    rfl
  | meanwhile onOutlet onStore =>
    simp only [unheard, does, h]
    rfl

/-- **A job does not notice that somebody listens.** Until it is told to stop, its loop runs as the
job does on the bare outlet. -/
theorem unheard_run (h : loop.isTold = false) (events : List (Event ω)) :
    (loop.run events).unheard =
      events.foldl (fun plain event ↦ event.befalls plain) loop.unheard := by
  induction events generalizing loop with
  | nil => rfl
  | cons event events ih =>
    rw [List.foldl_cons, ← unheard_does h]
    exact ih ((loop.isTold_does event).trans h)

/-! ### A step of a loop -/

/-- **A job that has ended says nothing more.** -/
theorem does_of_ended (h : loop.job.isEnded = true) (event : Event ω) :
    (loop.does event).job = loop.job ∧ (loop.does event).said = loop.said := by
  cases event with
  | step =>
    have hstep : loop.job.step.run loop.world = ((.ended, loop.job), loop.world) := by
      rw [Job.step_run, if_pos h]
    simp only [does, hstep, said, and_self]
  | meanwhile onOutlet onStore => exact ⟨rfl, rfl⟩

/-- What a job takes in hand of what its producer has come to. -/
def takes (loop : Loop ω) : Product × Store → Loop ω
  | (.message message next, store) =>
    ⟨{ loop.job with producer := next, offer := some message }, { loop.world with store }⟩
  | (.quiet next, store) => ⟨{ loop.job with producer := next }, { loop.world with store }⟩
  | (.stop, store) => ⟨loop.job.ended, { loop.world with store }⟩
  | (.failure error, store) =>
    ⟨loop.job.ended, ((World.fail loop.job.role loop.job.family loop.job.requestId error).run
      { loop.world with store }).2⟩

theorem hears_takes (loop : Loop ω) (product : Product) (store : Store) :
    loop.world.Hears (loop.takes (product, store)).world
      (product.tidings loop.job.role loop.job.family loop.job.requestId) := by
  cases product with
  | failure error =>
    obtain ⟨hsaid, htold⟩ := World.hears_fail loop.job.role loop.job.family loop.job.requestId
      error { loop.world with store }
    exact ⟨hsaid, htold⟩
  | _ => exact .silence rfl

theorem does_step_of_none (hended : loop.job.isEnded = false) (hoffer : loop.job.offer = none) :
    loop.does .step = loop.takes (loop.job.producer.yields loop.job.requestId
      (Outlet.isCancelled loop.world.outlet) loop.world.store) := by
  have hstep : loop.job.step.run loop.world = loop.job.produce.run loop.world := by
    rw [Job.step_run, hended, hoffer]
    rfl
  simp only [does, hstep, Job.produce_run, Producer.advance_run]
  rcases loop.job.producer.yields loop.job.requestId (Outlet.isCancelled loop.world.outlet)
    loop.world.store with ⟨_ | _ | _ | _, store⟩
  all_goals rfl

/-- **A job that has been told to stop does not offer what it has in hand.** -/
theorem does_step_of_told {message : Message} (htold : loop.isTold = true)
    (hended : loop.job.isEnded = false) (hoffer : loop.job.offer = some message) :
    loop.does .step = ⟨loop.job.ended, loop.world⟩ := by
  have hstep : loop.job.step.run loop.world = ((.ended, loop.job.ended), loop.world) := by
    rw [Job.step_run, hended, hoffer]
    exact (loop.job.offerOnce_run loop.world message).trans
      (if_pos (Overheard.isCancelled_of_told htold))
  simp only [does, hstep]

/-! ### Two runs -/

/-- To take the same in hand makes no difference. -/
theorem Trails.takes (htold : cut.isTold = true) (hjob : cut.job = live.job)
    (hsaid : cut.said = live.said) (product : Product) (store : Store) :
    Trails (live.takes (product, store)) (cut.takes (product, store)) := by
  have hsame : (cut.takes (product, store)).said = (live.takes (product, store)).said := by
    have hlive := (live.hears_takes product store).said
    have hcut := (cut.hears_takes product store).said
    rw [hjob] at hcut
    exact hcut.trans ((congrArg (· ++ _) hsaid).trans hlive.symm)
  cases product with
  | message message next => exact .abreast htold (by simp only [Loop.takes, hjob]) rfl hsame
  | quiet next => exact .abreast htold (by simp only [Loop.takes, hjob]) rfl hsame
  | stop | failure => exact .ended rfl (hsame ▸ List.prefix_refl _)

/-- **A step lemma for both runs.** -/
theorem Trails.does (h : Trails live cut) (event : Event ω) :
    Trails (live.does event) (cut.does event) := by
  have hmore := live.said_grows event
  cases h with
  | ended hended hfront =>
    obtain ⟨hjob, hsaid⟩ := does_of_ended hended event
    exact .ended (hjob ▸ hended) (hsaid ▸ hfront.trans hmore)
  | abreast htold hjob hstore hsaid =>
    cases event with
    | meanwhile onOutlet onStore => exact .abreast htold hjob (congrArg onStore hstore) hsaid
    | step =>
      cases hended : cut.job.isEnded with
      | true =>
        obtain ⟨hjob', hsaid'⟩ := does_of_ended hended .step
        exact .ended (hjob' ▸ hended) (hsaid' ▸ hsaid ▸ hmore)
      | false =>
        cases hoffer : cut.job.offer with
        | some message =>
          rw [does_step_of_told htold hended hoffer]
          exact .ended rfl (hsaid ▸ hmore)
        | none =>
          rw [does_step_of_none hended hoffer, Overheard.isCancelled_of_told htold]
          rcases cut.job.producer.yields_cancelled cut.job.requestId
            (Outlet.isCancelled live.world.outlet) cut.world.store with hstop | ⟨hsame, -⟩
          · rcases hyields : cut.job.producer.yields cut.job.requestId true cut.world.store with
              ⟨product, store⟩
            rw [hyields] at hstop
            obtain rfl : product = .stop := hstop
            exact .ended rfl (hsaid ▸ hmore)
          · rw [hsame, does_step_of_none (hjob ▸ hended) (hjob ▸ hoffer), ← hjob, ← hstore]
            exact .takes htold hjob hsaid _ _

theorem Trails.run (h : Trails live cut) (events : List (Event ω)) :
    Trails (live.run events) (cut.run events) := by
  induction events generalizing live cut with
  | nil => exact h
  | cons event events ih => exact ih (h.does event)

/-! ### Once a job has been told -/

/-- **What a job does that has been told to stop.** -/
inductive Obeys (loop loop' : Loop ω) : Prop where
  | ended (hended : loop.job.isEnded = true) (hjob : loop'.job = loop.job)
      (hsaid : loop'.said = loop.said)
  /-- It has noticed. -/
  | noticed (hjob : loop'.job = loop.job.ended) (hsaid : loop'.said = loop.said)
  /-- It has not noticed, since the next message was due without any reading, or nothing was left
  to read. -/
  | unnoticed {message : Message} {next : Producer} (hoffer : loop.job.offer = none)
      (hjob : loop'.job = { loop.job with producer := next, offer := some message })
      (hsaid : loop'.said = loop.said)
  /-- The read that it was in has failed. -/
  | failed {error : ExchangeError} (hjob : loop'.job = loop.job.ended)
      (hsaid : loop'.said =
        loop.said ++ error.tidings loop.job.role loop.job.family loop.job.requestId)

theorem obeys_of_told (htold : loop.isTold = true) : Obeys loop (loop.does .step) := by
  cases hended : loop.job.isEnded with
  | true => exact .ended hended (does_of_ended hended .step).1 (does_of_ended hended .step).2
  | false =>
    cases hoffer : loop.job.offer with
    | some message =>
      rw [does_step_of_told htold hended hoffer]
      exact .noticed rfl rfl
    | none =>
      rw [does_step_of_none hended hoffer, Overheard.isCancelled_of_told htold]
      have hcases := loop.job.producer.yields_cancelled loop.job.requestId true loop.world.store
      rcases hyields : loop.job.producer.yields loop.job.requestId true loop.world.store with
        ⟨_ | next | _ | error, store⟩
      all_goals rw [hyields] at hcases
      · exact .unnoticed hoffer rfl rfl
      · rcases hcases with hstop | ⟨-, hloud⟩
        · cases hstop
        · exact absurd rfl (hloud next)
      · exact .noticed rfl rfl
      · exact .failed rfl (loop.hears_takes (.failure error) store).said

/-- A bound on the steps that a job takes once it has been told to stop. -/
def stepsToEnd (job : Job) : Nat :=
  if job.isEnded then 0 else if job.offer.isSome then 1 else 2

theorem stepsToEnd_ended (job : Job) : stepsToEnd job.ended = 0 := rfl

theorem stepsToEnd_le (job : Job) : stepsToEnd job ≤ 2 := by
  unfold stepsToEnd
  split
  · exact Nat.zero_le 2
  · split <;> decide

theorem isEnded_of_stepsToEnd {job : Job} (h : stepsToEnd job = 0) : job.isEnded = true := by
  unfold stepsToEnd at h
  split at h
  · assumption
  · split at h <;> cases h

/-- The job takes a step. -/
def Event.isStep : Event ω → Bool
  | .step => true
  | .meanwhile _ _ => false

theorem stepsToEnd_does_step (htold : loop.isTold = true) :
    stepsToEnd (loop.does .step).job ≤ stepsToEnd loop.job - 1 := by
  cases obeys_of_told htold with
  | ended hended hjob =>
    rw [hjob, stepsToEnd, if_pos hended]
  | noticed hjob | failed hjob =>
    rw [hjob, stepsToEnd_ended]
    exact Nat.zero_le _
  | unnoticed hoffer hjob =>
    rw [hjob]
    unfold stepsToEnd
    rw [hoffer]
    split <;> simp

/-- **With every step the end is nearer.** -/
theorem stepsToEnd_run (htold : loop.isTold = true) (events : List (Event ω)) :
    stepsToEnd (loop.run events).job ≤ stepsToEnd loop.job - events.countP Event.isStep := by
  induction events generalizing loop with
  | nil => exact Nat.le_refl _
  | cons event events ih =>
    have htold' := (loop.isTold_does event).trans htold
    refine (ih htold').trans ?_
    cases event with
    | step =>
      have hstep := stepsToEnd_does_step htold
      rw [List.countP_cons_of_pos rfl]
      omega
    | meanwhile onOutlet onStore =>
      rw [List.countP_cons_of_neg (by simp [Event.isStep])]
      exact Nat.le_refl _

theorem run_of_ended (h : loop.job.isEnded = true) (events : List (Event ω)) :
    (loop.run events).said = loop.said := by
  induction events generalizing loop with
  | nil => rfl
  | cons event events ih =>
    obtain ⟨hjob, hsaid⟩ := does_of_ended h event
    exact (ih (hjob ▸ h)).trans hsaid

/-- **All that a job can say once it has been told to stop** is one failure. -/
theorem said_of_told (htold : loop.isTold = true) (events : List (Event ω)) :
    (loop.run events).said = loop.said ∨ ∃ error : ExchangeError,
      (loop.run events).said = loop.said ++
        [.of loop.job.requestId loop.job.family.errorCommand (.status error.status)] := by
  induction events generalizing loop with
  | nil => exact .inl rfl
  | cons event events ih =>
    have hrest := ih ((loop.isTold_does event).trans htold)
    cases event with
    | meanwhile onOutlet onStore => exact hrest
    | step =>
      change ((loop.does .step).run events).said = _ ∨
        ∃ error : ExchangeError, ((loop.does .step).run events).said = _
      cases obeys_of_told htold with
      | ended _ hjob hsaid | unnoticed _ hjob hsaid =>
        rw [hjob, hsaid] at hrest
        exact hrest
      | noticed hjob hsaid =>
        rw [run_of_ended (hjob ▸ rfl), hsaid]
        exact .inl rfl
      | @failed error hjob hsaid =>
        rw [run_of_ended (hjob ▸ rfl), hsaid]
        rcases error.tidings_cases loop.job.role loop.job.family loop.job.requestId with
          hnone | hsome
        · exact .inl (by rw [hnone, List.append_nil])
        · exact .inr ⟨error, by rw [hsome]⟩

/-- **To stop a job says what a job says that has been told to stop**, in the one step that it still
takes. -/
theorem said_stop (loop : Loop ω) : loop.stop.said = ((loop.cancel id).does .step).said := by
  have htold : (loop.cancel id).isTold = true := rfl
  have hstop : loop.stop.said = (loop.job.stop.run loop.world).2.outlet.said := rfl
  rw [hstop, Job.stop_run]
  cases hended : loop.job.isEnded with
  | true => exact (@does_of_ended _ (loop.cancel id) _ hended .step).2.symm
  | false =>
    cases hoffer : loop.job.offer with
    | some message =>
      rw [@does_step_of_told _ (loop.cancel id) _ _ htold hended hoffer]
      rfl
    | none =>
      rw [@does_step_of_none _ (loop.cancel id) _ hended hoffer,
        Overheard.isCancelled_of_told htold]
      have hheard := ((loop.cancel id).hears_takes
        (loop.job.producer.yields loop.job.requestId true loop.world.store).1
        (loop.job.producer.yields loop.job.requestId true loop.world.store).2).said
      refine Eq.trans ?_ hheard.symm
      simp only [Bool.not_false, Option.isNone_none, Bool.and_self, if_true, Producer.advance_run]
      rcases loop.job.producer.yields loop.job.requestId true loop.world.store with
        ⟨_ | _ | _ | error, store⟩
      case failure =>
        exact (World.hears_fail loop.job.role loop.job.family loop.job.requestId error
          { loop.world with store }).said
      all_goals exact (List.append_nil _).symm

end Running

/-- **A job that is told to stop is cut short.** Whatever it has been given to do, whatever its
outlet and its shares do meanwhile, and whenever it is told: what it says is the front of what it
would have said. From then on it says nothing but a failure of the read that it was in, if anything;
it ends within two steps; and once it has ended it says nothing more. To stop the job and to wait
for it comes to no more than the next step would have. -/
theorem cancellation_truncates [Outlet ω] (loop : Loop ω) (onOutlet : ω → ω)
    (before after : List (Event ω)) :
    let told := (loop.run before).cancel onOutlet
    let cut := told.run after
    cut.said <+: (loop.run (before ++ after)).said ∧
    (cut.said = told.said ∨ ∃ error : ExchangeError, cut.said = told.said ++
      [.of told.job.requestId told.job.family.errorCommand (.status error.status)]) ∧
    (2 ≤ after.countP Event.isStep → cut.job.isEnded = true) ∧
    (cut.job.isEnded = true → ∀ later, (cut.run later).said = cut.said) ∧
    ∀ later, (loop.run before).stop.said <+: (loop.run (before ++ .step :: later)).said := by
  intro told cut
  have htold : told.isTold = true := rfl
  refine ⟨?_, said_of_told htold after, fun hsteps ↦ ?_, run_of_ended, fun later ↦ ?_⟩
  · rw [run_append]
    exact ((trails_cancel _ onOutlet).run after).said_le
  · have hleft : stepsToEnd cut.job ≤ _ := stepsToEnd_run htold after
    have hbound := stepsToEnd_le told.job
    exact isEnded_of_stepsToEnd (by omega)
  · rw [run_append, said_stop]
    exact ((trails_cancel _ id).does .step).said_le.trans (said_grows_run _ later)

end Loop

end FileShare
