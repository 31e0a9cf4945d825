import FileShare.Proofs.Handlers
import FileShare.Proofs.Jobs
import FileShare.Proofs.WorldCalls

/-!
# Computations that look outward and not back

A responder speaks into its channel and never looks at what it has said: what waits there, and what
has gone on its way, makes no difference to what it does next. The one thing about the channel that
matters to it, besides the state of the connection and being told to stop, is whether its background
job finds room.

* **`World.Alike`** relates two worlds that differ at most in what waits in their channels, what is
  on its way, and how much may wait.
* **`Outward`** is a computation that comes to the same in any two worlds that are alike: it gives
  the same answer, leaves worlds that are alike, and queues the same messages.

Every handler is outward, and so is stopping it, since a computation made of outward ones is outward
(`Composed.outward`). A step of a job is, if the job finds room in both worlds or in neither
(`Job.step_matches`).
-/

namespace FileShare

/-! ### Worlds that are alike -/

namespace World

/-- **Two worlds that are alike**: nothing differs but what waits in the channel, what is on its
way, and how much may wait. -/
structure Alike (world other : World Channel) : Prop where
  store : other.store = world.store
  hasShares : other.hasShares = world.hasShares
  workDir : other.workDir = world.workDir
  outcome : other.outcome = world.outcome
  isUp : other.outlet.isUp = world.outlet.isUp
  isCancelled : other.outlet.isCancelled = world.outlet.isCancelled

/-- The messages are queued, and that is all that becomes of the channel. -/
def Queues (world world' : World Channel) (messages : List Message) : Prop :=
  world'.outlet = { world.outlet with queued := world.outlet.queued ++ messages }

theorem Alike.refl (world : World Channel) : world.Alike world :=
  ⟨rfl, rfl, rfl, rfl, rfl, rfl⟩

/-- There is the same to see in worlds that are alike. -/
theorem Alike.resembles {world other : World Channel} (h : world.Alike other) :
    world.Resembles other :=
  ⟨h.store, h.hasShares, h.workDir, h.outcome, h.isCancelled⟩

theorem Queues.refl (world : World Channel) : world.Queues world [] := by
  simp [Queues]

theorem Queues.trans {world mid last : World Channel} {messages more : List Message}
    (h : world.Queues mid messages) (h' : mid.Queues last more) :
    world.Queues last (messages ++ more) := by
  simp only [Queues] at h h' ⊢
  rw [h', h, List.append_assoc]

theorem Queues.underway {world world' : World Channel} {messages : List Message}
    (h : world.Queues world' messages) :
    world'.outlet.underway = world.outlet.underway ++ messages := by
  rw [Queues] at h
  simp [Channel.underway, h]

end World

/-! ### Computations -/

variable {α β : Type} {world other : World Channel}

/-- **What a computation comes to in two worlds is the same**: the answer, and what is queued. The
worlds after it are alike. -/
structure Matches (action : WorldM Channel α) (world other : World Channel) : Prop where
  answer : (action.run other).1 = (action.run world).1
  alike : (action.run world).2.Alike (action.run other).2
  queues : ∃ messages, world.Queues (action.run world).2 messages ∧
    other.Queues (action.run other).2 messages

/-- A computation that comes to the same in all worlds that are alike. -/
structure Outward (action : WorldM Channel α) : Prop where
  comes : ∀ {world other : World Channel}, world.Alike other → Matches action world other

/-- **Of two computations in a row**, the second one goes on in worlds that are alike. -/
theorem Matches.bind {action : WorldM Channel α} {next : α → WorldM Channel β}
    (h : Matches action world other)
    (hnext : Matches (next (action.run world).1) (action.run world).2 (action.run other).2) :
    Matches (action >>= next) world other := by
  obtain ⟨messages, hqueues, hqueues'⟩ := h.queues
  obtain ⟨more, hmore, hmore'⟩ := hnext.queues
  have hother : (action >>= next).run other =
      (next (action.run world).1).run (action.run other).2 := by
    rw [StateT.run_bind, ← h.answer]
    rfl
  have hworld : (action >>= next).run world =
      (next (action.run world).1).run (action.run world).2 := rfl
  refine ⟨?_, ?_, messages ++ more, ?_, ?_⟩
  · rw [hother, hworld, hnext.answer]
  · rw [hother, hworld]
    exact hnext.alike
  · rw [hworld]
    exact hqueues.trans hmore
  · rw [hother]
    exact hqueues'.trans hmore'

theorem Matches.pure (halike : world.Alike other) (a : α) :
    Matches (Pure.pure a) world other :=
  ⟨rfl, halike, [], .refl world, .refl other⟩

/-- The world may be looked at for what is the same in both. -/
theorem Matches.asks {next : World Channel → WorldM Channel β} (hsame : next other = next world)
    (h : Matches (next world) world other) : Matches (get >>= next) world other := by
  have hworld : (get >>= next).run world = (next world).run world := rfl
  have hother : (get >>= next).run other = (next world).run other := by
    rw [← hsame]
    rfl
  obtain ⟨hanswer, halike, hqueues⟩ := h
  exact ⟨by rw [hworld, hother, hanswer], by rwa [hworld, hother], by rwa [hworld, hother]⟩

namespace Outward

theorem pure (a : α) : Outward (Pure.pure a : WorldM Channel α) :=
  ⟨fun halike ↦ .pure halike a⟩

theorem bind {action : WorldM Channel α} {next : α → WorldM Channel β} (h : Outward action)
    (hnext : ∀ a, Outward (next a)) : Outward (action >>= next) :=
  ⟨fun halike ↦ (h.comes halike).bind ((hnext _).comes (h.comes halike).alike)⟩

/-- The world may be looked at for what is the same in all worlds that are alike. -/
theorem asks {next : World Channel → WorldM Channel β}
    (hsame : ∀ {world other : World Channel}, world.Alike other → next other = next world)
    (hnext : ∀ world, Outward (next world)) : Outward (get >>= next) :=
  ⟨fun halike ↦ .asks (hsame halike) ((hnext _).comes halike)⟩

/-- Nothing but the store is changed. -/
theorem acts (change : World Channel → α × Store)
    (hsame : ∀ {world other : World Channel}, world.Alike other → change other = change world) :
    Outward fun world ↦ ((change world).1, { world with store := (change world).2 }) := by
  refine ⟨fun {world other} halike ↦ ?_⟩
  have hchange : change other = change world := hsame halike
  refine ⟨?_, ?_, [], .refl world, .refl other⟩
  · show (change other).1 = (change world).1
    rw [hchange]
  · exact ⟨congrArg Prod.snd hchange, halike.hasShares, halike.workDir, halike.outcome,
      halike.isUp, halike.isCancelled⟩

/-- **To send a message queues it**, if it makes a packet, whatever is in the channel. -/
theorem send (message : Message) : Outward (World.send message : StepM Channel Unit).run := by
  refine ⟨fun {world other} halike ↦ ?_⟩
  cases hpacket : Packet.ofMessage message with
  | error fault =>
    have hrun : ∀ world : World Channel, (World.send message).run.run world =
        (.error (.session (.frame fault)), world) := by
      intro world
      rw [World.send_run]
      simp only [Outlet.send, hpacket]
      rfl
    rw [show (World.send message : StepM Channel Unit).run =
      Pure.pure (.error (.session (.frame fault))) from funext hrun]
    exact .pure halike _
  | ok packet =>
    have hrun : ∀ world : World Channel, (World.send message).run.run world =
        (world.outlet.report.mapError .session, { world with
          outlet := { world.outlet with queued := world.outlet.queued ++ [message] } }) := by
      intro world
      rw [World.send_run]
      simp only [Outlet.send, hpacket]
    refine ⟨?_, ?_, [message], ?_, ?_⟩
    · rw [hrun, hrun, Channel.report, Channel.report, halike.isUp]
    · rw [hrun, hrun]
      exact ⟨halike.store, halike.hasShares, halike.workDir, halike.outcome, halike.isUp,
        halike.isCancelled⟩
    · rw [hrun]
      rfl
    · rw [hrun]
      rfl

/-- An outcome is reported alike, since only the first one counts. -/
theorem report (outcome : Outcome) : Outward (World.report outcome : WorldM Channel Unit) :=
  ⟨fun {world other} halike ↦ ⟨rfl, ⟨halike.store, halike.hasShares, halike.workDir,
    congrArg (·.or (some outcome)) halike.outcome, halike.isUp, halike.isCancelled⟩, [],
    .refl world, .refl other⟩⟩

end Outward

/-- **What is made of outward parts is outward.** -/
theorem Composed.outward {may : Message → Prop} {action : WorldM Channel α}
    (h : Composed may action) : Outward action := by
  induction h with
  | pure a => exact .pure a
  | bind _ _ ih ih' => exact ih.bind ih'
  | asks same _ ih => exact .asks (fun halike ↦ same halike.resembles) ih
  | acts change same => exact .acts change fun halike ↦ same halike.resembles
  | send allowed => exact .send _
  | report outcome => exact .report outcome

/-! ### Background jobs -/

namespace Job

variable {job : Job} {message : Message}

/-- To ask the channel to move on leaves it as it is. -/
theorem flush_matches (halike : world.Alike other) :
    Matches (World.flush : StepM Channel Unit).run world other := by
  have hreport : other.outlet.report = world.outlet.report := by
    rw [Channel.report, Channel.report, halike.isUp]
  exact ⟨congrArg (·.mapError ExchangeError.session) hreport, halike, [], .refl world,
    .refl other⟩

/-- **A job offers its message alike** where it finds room, and where it finds none. -/
theorem offerOnce_matches (halike : world.Alike other)
    (hroom : Outlet.hasSpace other.outlet = Outlet.hasSpace world.outlet) :
    Matches (job.offerOnce message) world other := by
  have hcancelled : Outlet.isCancelled other.outlet = Outlet.isCancelled world.outlet :=
    halike.isCancelled
  refine .asks (by dsimp only; rw [hcancelled, hroom]) ?_
  dsimp only
  split
  · exact .pure halike _
  split
  · refine Outward.comes (Outward.bind (Outward.send message) fun result ↦ ?_) halike
    cases result with
    | error error => exact (job.composed_failWith .any error).outward
    | ok _ => exact .pure _
  · refine (flush_matches halike).bind ?_
    cases ((World.flush : StepM Channel Unit).run.run world).1 with
    | error error => exact (job.composed_failWith .any error).outward.comes halike
    | ok _ => exact .asks (by rw [World.flush_run, World.flush_run, hroom]) (.pure halike _)

/-- **A step of a job comes to the same** where it finds room, and where it finds none. -/
theorem step_matches (halike : world.Alike other)
    (hroom : Outlet.hasSpace other.outlet = Outlet.hasSpace world.outlet) :
    Matches job.step world other := by
  unfold step
  split
  · exact .pure halike _
  split
  · exact offerOnce_matches halike hroom
  · exact (job.composed_produce .any).outward.comes halike

end Job

end FileShare
