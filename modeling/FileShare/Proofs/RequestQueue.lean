import FileShare.Proofs.Handlers
import FileShare.Proofs.Jobs
import FileShare.Service.Worker

/-!
# Nothing but the reader and the worker touches the requests

The requests of a session wait in a queue that the reader fills and the worker empties. All that an
exchange does with its session is to send and to write, and neither of them has to do with requests:

* the writer, and so every handler and every background job, leaves the queue as it is, and the
  session goes on if it did (`Session.Spares`);
* a handler does the same whatever is in the queue (`Composed.run_withRequests`), so that it makes
  no difference whether a request arrives before, during or after the handling of another one.
-/

namespace FileShare

/-! ### Sessions -/

namespace Session

variable {τ : Type}

/-- **The requests are left alone**, and the session goes on if it did. -/
structure Spares (s s' : Session τ) : Prop where
  requests : s'.requests = s.requests
  cancelled : s'.cancelled = s.cancelled

theorem Spares.refl (s : Session τ) : s.Spares s :=
  ⟨rfl, rfl⟩

theorem Spares.trans {s s' s'' : Session τ} (h : s.Spares s') (h' : s'.Spares s'') :
    s.Spares s'' :=
  ⟨h'.requests.trans h.requests, h'.cancelled.trans h.cancelled⟩

variable [Transport τ]

theorem spares_writeStep (s : Session τ) : s.Spares s.writeStep.2 := by
  simp only [writeStep, sendPiece]
  repeat' split
  all_goals exact ⟨rfl, rfl⟩

/-- **To write leaves the requests alone.** -/
theorem spares_writeEvent (s : Session τ) : s.Spares s.writeEvent.2 := by
  induction hwork : s.writeWork using Nat.strongRecOn generalizing s with
  | _ work ih =>
    have hspares := s.spares_writeStep
    rcases hstep : s.writeStep with ⟨_ | result, session⟩
    · rw [hstep] at hspares
      rw [writeEvent_of_again hstep]
      exact hspares.trans (ih _ (hwork ▸ writeWork_writeStep_lt hstep) session rfl)
    · rw [hstep] at hspares
      rw [writeEvent_of_done hstep]
      exact hspares

theorem spares_send (s : Session τ) (message : Message) : s.Spares (s.send message).2 := by
  rw [send]
  split
  · exact .refl s
  · rename_i packet _
    have hpushed : s.Spares (s.pushResponse packet) := ⟨rfl, rfl⟩
    exact hpushed.trans (s.pushResponse packet).spares_writeEvent

variable (s : Session τ) (requests : List Packet) (workPending : Bool)

end Session

/-! ### Handlers and jobs -/

variable {τ : Type}

namespace World

/-- What a computation does leaves the requests alone. -/
def Spares {α : Type} (world : World (Session τ)) (action : WorldM (Session τ) α) : Prop :=
  world.outlet.Spares (action.run world).2.outlet

end World

variable [Transport τ]

namespace Composed

variable {α : Type} {action : WorldM (Session τ) α} {may : Message → Prop}

/-- **What a handler does leaves the requests alone.** -/
theorem spares (h : Composed may action) (world : World (Session τ)) : world.Spares action := by
  induction h generalizing world with
  | pure a => exact .refl _
  | bind first second ih ih' => exact (ih world).trans (ih' _ _)
  | asks same second ih => exact ih world world
  | acts change same => exact .refl _
  | send allowed => exact world.outlet.spares_send _
  | report outcome => exact .refl _

end Composed

namespace Job

variable (job : Job) (world : World (Session τ))

theorem spares_offerOnce (message : Message) : world.Spares (job.offerOnce message) := by
  rw [World.Spares, offerOnce_run]
  split
  · exact .refl _
  split
  · have hsent : world.outlet.Spares ((World.send message).run.run world).2.outlet :=
      world.outlet.spares_send message
    rcases hsend : (World.send message).run.run world with ⟨error | _, mid⟩ <;> rw [hsend] at hsent
    · exact hsent.trans ((job.composed_failWith .any error).spares mid)
    · exact hsent
  · have hwritten : world.outlet.Spares
        ((World.flush : StepM (Session τ) Unit).run.run world).2.outlet :=
      world.outlet.spares_writeEvent
    rcases hflush : (World.flush : StepM (Session τ) Unit).run.run world with ⟨error | _, mid⟩ <;>
      rw [hflush] at hwritten
    · exact hwritten.trans ((job.composed_failWith .any error).spares mid)
    · exact hwritten

/-- **A step of a background job leaves the requests alone.** -/
theorem spares_step : world.Spares job.step := by
  rw [step]
  split
  · exact .refl _
  split
  · exact job.spares_offerOnce world _
  · exact (job.composed_produce .any).spares world

end Job

namespace Exchange

theorem spares_stepJob (exchange : Exchange) (world : World (Session τ)) :
    world.Spares exchange.stepJob := by
  rw [stepJob]
  split
  · rename_i job _
    exact job.spares_step world
  · exact .refl _

theorem spares_runJob (exchange : Exchange) (bound : Nat) (world : World (Session τ)) :
    world.Spares (exchange.runJob bound) := by
  induction bound generalizing exchange world with
  | zero => exact .refl _
  | succ bound ih =>
    have hstep := exchange.spares_stepJob world
    rw [World.Spares] at hstep ⊢
    rw [runJob, StateT.run_bind]
    rcases hrun : exchange.stepJob.run world with ⟨⟨_ | _ | _, next⟩, mid⟩ <;> rw [hrun] at hstep
    · exact hstep.trans (ih next mid)
    · exact hstep
    · exact hstep

end Exchange

/-- **What the worker does for the background job leaves the requests alone.** -/
theorem Worker.spares_runJob (worker : Worker) (bound : Nat) (world : World (Session τ)) :
    world.Spares (worker.runJob bound) := by
  rw [runJob]
  split
  · exact .refl _
  · rename_i exchange _
    exact exchange.spares_runJob bound world

end FileShare
