import FileShare.Proofs.Hosting
import FileShare.Proofs.Refusals

/-!
# The threads of a download

A responder of a download has a thread that handles messages, and its background job runs in
another one. Both work on the same open file and on the same session. In `FileServer` a message is
handled in one go: to stop a job is one step, and no step of the job falls into the handling of a
message. Here the handling is taken apart (`Point`), so that a step of a worker may fall between any
two steps of it:

* an opening request finds the share, opens the file, and asks what is known about it; only then is
  the worker told to stop, waited for, and the old file given up;
* a request for a range is checked; then the worker is told to stop and waited for, and only then is
  the file moved to the first byte, and a new worker started.

A worker takes the steps of its job. It looks at the flag with which it is told to stop whenever a
job does, but it may not have seen yet that the flag has been raised (`JobThread.step`). Nothing in
the definitions says that there is one worker at a time: a new one may be started at any time, and
those that the responder has let go of go on.

Two fields only take note of what happens: the range that was accepted last, and what workers have
queued since.

That every run of a responder as a whole is a run of its threads is the subject of
`Proofs.Settling`.
-/

namespace FileShare

open Conversation (Machine)

/-- **A worker**: a thread with a background job. -/
structure JobThread where
  job : Job
  /-- It has been told to stop. -/
  told : Bool

/-- The flag with which a job is told to stop shows this. -/
def World.withStop (world : World Channel) (stops : Bool) : World Channel :=
  { world with outlet := { world.outlet with isCancelled := stops } }

/-- A step of a worker. It may not have noticed yet that it is to stop, and then it goes on. -/
def JobThread.step (worker : JobThread) (heeds : Bool) (world : World Channel) :
    JobThread × World Channel :=
  let stops := heeds && (worker.told || world.outlet.isCancelled)
  let ran := worker.job.step.run (world.withStop stops)
  ({ worker with job := ran.1.2 }, ran.2.withStop world.outlet.isCancelled)

/-- What a responder does once its worker has stopped. -/
inductive Plan where
  /-- Give the open file up, and take another one. -/
  | replace (url : String) (file : FileId) (stat : Stat)
  /-- Serve a range of the open file. -/
  | serve (range : ByteRange) (file : FileId)
  /-- Give the open file up. -/
  | leave

/-- **Where a responder is** between two steps of its own. -/
inductive Point where
  /-- It waits for a message. -/
  | ready
  /-- It is about to adopt the credentials of an opening request. -/
  | connecting (message : Message)
  /-- It is about to open a file. -/
  | opening (url : String)
  /-- It is about to ask what is known about the file. -/
  | looking (url : String) (file : FileId)
  /-- It is about to tell its worker to stop. -/
  | stopping (plan : Plan)
  /-- It waits until its worker has ended. -/
  | joining (plan : Plan)
  /-- It is about to give its file up, perhaps for another one. -/
  | closing (next : Option (String × FileId × Stat))
  /-- It is about to move its file to the first byte of a range. -/
  | seeking (range : ServedRange)
  /-- It is about to start a worker. -/
  | starting (range : ServedRange)
  /-- It is about to answer. -/
  | telling (message : Message)
  /-- It is about to tell a failure. -/
  | failing (requestId : String) (error : ExchangeError)

/-- Whether a responder has not come to stop its worker: it waits, or checks a request, or tells
that a request has failed. -/
def Point.precedesStop : Point → Bool
  | ready | connecting _ | opening _ | looking .. | failing .. => true
  | _ => false

/-- **The threads of a responder of a download.** -/
structure Threads where
  settings : TransferSettings
  requestId : String
  world : World Channel
  file : Option FileId
  /-- The size of the file when it was opened. -/
  size : UInt64
  /-- The worker that the responder holds. -/
  worker : Option JobThread
  /-- The workers that it has let go of. -/
  others : List JobThread
  point : Point
  /-- The range that was accepted last; there is none if nothing was left of it. -/
  accepted : Option ServedRange
  /-- What workers have queued since a range was accepted. -/
  said : List Message

namespace Threads

/-- Nothing has been opened, and no message has come. -/
def start (server : Machine) (requestId : String) : Threads :=
  let side := server.side .responder .download requestId
  ⟨side.settings, requestId, side.world, none, 0, none, [], .ready, none, []⟩

/-- The exchange as a whole. -/
def exchange (threads : Threads) : Exchange :=
  ⟨threads.requestId,
    .responder (.download ⟨threads.file, threads.size, threads.worker.map JobThread.job⟩)⟩

/-- The responder as a whole. -/
def side (threads : Threads) : Side :=
  ⟨threads.settings, threads.exchange, threads.world⟩

/-- How many workers are live. -/
def live (threads : Threads) : Nat :=
  (threads.worker.toList ++ threads.others).countP fun worker ↦ !worker.job.isEnded

/-! ### The steps of the responder -/

/-- Make a call. A failure of it is told next. -/
def attempt {α : Type} (threads : Threads) (action : StepM Channel α)
    (next : Threads → α → Threads) : Threads :=
  match action.run.run threads.world with
  | (.error error, world) => { threads with world, point := .failing threads.requestId error }
  | (.ok value, world) => next { threads with world } value

theorem attempt_ok {α : Type} {threads : Threads} {action : StepM Channel α}
    {next : Threads → α → Threads} {value : α} {world : World Channel}
    (h : action.run.run threads.world = (.ok value, world)) :
    threads.attempt action next = next { threads with world } value := by
  unfold attempt
  rw [h]

theorem attempt_error {α : Type} {threads : Threads} {action : StepM Channel α}
    {next : Threads → α → Threads} {error : ExchangeError} {world : World Channel}
    (h : action.run.run threads.world = (.error error, world)) :
    threads.attempt action next =
      { threads with world, point := .failing threads.requestId error } := by
  unfold attempt
  rw [h]

/-- **A call fails, and that is told next, or it is followed by what comes next.** -/
theorem attempt_cases {α : Type} (threads : Threads) (action : StepM Channel α)
    (next : Threads → α → Threads) :
    (∃ error world, action.run.run threads.world = (.error error, world) ∧
        threads.attempt action next =
          { threads with world, point := .failing threads.requestId error }) ∨
      ∃ value world, action.run.run threads.world = (.ok value, world) ∧
        threads.attempt action next = next { threads with world } value := by
  rcases hrun : action.run.run threads.world with ⟨error | value, world⟩
  · exact .inl ⟨error, world, rfl, attempt_error hrun⟩
  · exact .inr ⟨value, world, rfl, attempt_ok hrun⟩

/-- No worker is in the way any more. Of a range, the part that lies in the file is served; if there
is none, the request is accepted with that. -/
def carryOn (threads : Threads) : Plan → Threads
  | .replace url file stat => { threads with point := .closing (some (url, file, stat)) }
  | .leave => { threads with point := .closing none }
  | .serve range file =>
    match clampRange range.first range.last threads.size with
    | none => { threads with
        accepted := none
        said := []
        point := .telling (downloadEnd threads.requestId) }
    | some (first, last) => { threads with
        point := .seeking ⟨threads.requestId, file,
          (Share.fileOf threads.world.store file).content, first, last,
          FileServer.chunkSize threads.settings range, max 1 threads.settings.readBuffer⟩ }

theorem carryOn_withPoint (threads : Threads) (point : Point) (plan : Plan) :
    { threads with point }.carryOn plan = threads.carryOn plan := by
  cases plan <;> rfl

@[simp] theorem carryOn_world (threads : Threads) (plan : Plan) :
    (threads.carryOn plan).world = threads.world := by
  cases plan with
  | serve range file =>
    unfold carryOn
    dsimp only
    split <;> rfl
  | _ => rfl

/-- The worker is told to stop, if there is one. -/
def stopWorker (threads : Threads) (plan : Plan) : Threads :=
  match threads.worker with
  | some worker => { threads with
      worker := some { worker with told := true }
      point := .joining plan }
  | none => threads.carryOn plan

/-- The worker is let go of when it has ended. Until then, the responder waits. -/
def joinWorker (threads : Threads) (plan : Plan) : Threads :=
  match threads.worker with
  | some worker =>
    if worker.job.isEnded then
      { threads with worker := none, others := worker :: threads.others }.carryOn plan
    else threads
  | none => threads.carryOn plan

@[simp] theorem stopWorker_world (threads : Threads) (plan : Plan) :
    (threads.stopWorker plan).world = threads.world := by
  unfold stopWorker
  split <;> simp

@[simp] theorem joinWorker_world (threads : Threads) (plan : Plan) :
    (threads.joinWorker plan).world = threads.world := by
  unfold joinWorker
  split
  · split <;> simp
  · simp

/-- The file is given up, perhaps for another one. -/
def closeFile (threads : Threads) (next : Option (String × FileId × Stat)) : Threads :=
  let server : FileServer := ⟨threads.file, threads.size, none⟩
  let world := (server.closeFile.run threads.world).2
  match next with
  | some (url, file, stat) => { threads with
      world
      file := some file
      size := stat.size
      point := .telling (downloadReady threads.requestId
        (stat.toFileInfo (Url.lastSegment url))) }
  | none => { threads with world, file := none, point := .ready }

/-- A worker is started. -/
def startWorker (threads : Threads) (range : ServedRange) : Threads :=
  let job : Job := .start .responder .download threads.requestId
    (.range (range.source 0 ByteArray.empty)) 0
  { threads with
    worker := some ⟨job, false⟩
    others := threads.worker.toList ++ threads.others
    point := .ready }

/-- **The next step of the responder.** -/
def advance (threads : Threads) : Threads :=
  match threads.point with
  | .ready => threads
  | .connecting message => threads.attempt (World.connect message) fun threads url ↦
      { threads with point := .opening url }
  | .opening url => threads.attempt (World.share (Share.openFile url .read)) fun threads file ↦
      { threads with point := .looking url file }
  | .looking url file => threads.attempt (World.share (Share.fileStat file)) fun threads stat ↦
      { threads with point := .stopping (.replace url file stat) }
  | .stopping plan => threads.stopWorker plan
  | .joining plan => threads.joinWorker plan
  | .closing next => threads.closeFile next
  | .seeking range =>
    threads.attempt (World.share (Share.seek range.file (UInt64.ofNat range.first)))
      fun threads _ ↦ { threads with
        accepted := some range
        said := []
        point := .starting range }
  | .starting range => threads.startWorker range
  | .telling message => threads.attempt (World.send message) fun threads _ ↦
      { threads with point := .ready }
  | .failing requestId error => { threads with
      world := ((World.fail .responder .download requestId error).run threads.world).2
      point := .ready }

section Advance

variable {threads : Threads}

theorem advance_connecting {message : Message} (h : threads.point = .connecting message) :
    threads.advance = threads.attempt (World.connect message) fun threads url ↦
      { threads with point := .opening url } := by
  unfold advance
  rw [h]

theorem advance_opening {url : String} (h : threads.point = .opening url) :
    threads.advance = threads.attempt (World.share (Share.openFile url .read)) fun threads file ↦
      { threads with point := .looking url file } := by
  unfold advance
  rw [h]

theorem advance_looking {url : String} {file : FileId} (h : threads.point = .looking url file) :
    threads.advance = threads.attempt (World.share (Share.fileStat file)) fun threads stat ↦
      { threads with point := .stopping (.replace url file stat) } := by
  unfold advance
  rw [h]

theorem advance_stopping {plan : Plan} (h : threads.point = .stopping plan) :
    threads.advance = threads.stopWorker plan := by
  unfold advance
  rw [h]

theorem advance_joining {plan : Plan} (h : threads.point = .joining plan) :
    threads.advance = threads.joinWorker plan := by
  unfold advance
  rw [h]

theorem advance_closing {next : Option (String × FileId × Stat)}
    (h : threads.point = .closing next) : threads.advance = threads.closeFile next := by
  unfold advance
  rw [h]

theorem advance_seeking {range : ServedRange} (h : threads.point = .seeking range) :
    threads.advance =
      threads.attempt (World.share (Share.seek range.file (UInt64.ofNat range.first)))
        fun threads _ ↦ { threads with
          accepted := some range
          said := []
          point := .starting range } := by
  unfold advance
  rw [h]

theorem advance_starting {range : ServedRange} (h : threads.point = .starting range) :
    threads.advance = threads.startWorker range := by
  unfold advance
  rw [h]

theorem advance_telling {message : Message} (h : threads.point = .telling message) :
    threads.advance = threads.attempt (World.send message) fun threads _ ↦
      { threads with point := .ready } := by
  unfold advance
  rw [h]

theorem advance_failing {requestId : String} {error : ExchangeError}
    (h : threads.point = .failing requestId error) :
    threads.advance = { threads with
      world := ((World.fail .responder .download requestId error).run threads.world).2
      point := .ready } := by
  unfold advance
  rw [h]

end Advance

/-- Where a message leads. -/
def pointOf (threads : Threads) (message : Message) : Point :=
  match threads.exchange.check message with
  | .error error => .failing message.requestId error
  | .ok .downloadInitReq => .connecting message
  | .ok .downloadDataReq =>
    match FileServer.requestedRange? message, threads.file with
    | none, _ => .failing message.requestId (.missingBody .downloadDataReq)
    | some _, none =>
      .failing message.requestId (.unexpectedCommand Command.downloadDataReq.code)
    | some range, some file => .stopping (.serve range file)
  | .ok command => .failing message.requestId (.unexpectedCommand command.code)

/-- **A message is refused, or its checks begin, or a range of the open file is served.** -/
theorem pointOf_cases (threads : Threads) (message : Message) :
    (∃ requestId error, threads.pointOf message = .failing requestId error) ∨
      threads.pointOf message = .connecting message ∨
      ∃ range file, FileServer.requestedRange? message = some range ∧
        threads.file = some file ∧ threads.pointOf message = .stopping (.serve range file) := by
  unfold pointOf
  split
  · exact .inl ⟨_, _, rfl⟩
  · exact .inr (.inl rfl)
  · split
    · exact .inl ⟨_, _, rfl⟩
    · exact .inl ⟨_, _, rfl⟩
    · rename_i range file hrange hfile
      exact .inr (.inr ⟨range, file, hrange, hfile, rfl⟩)
  · exact .inl ⟨_, _, rfl⟩

/-! ### What may happen -/

/-- Take note of what a worker has queued. -/
def hear (threads : Threads) (world : World Channel) : Threads :=
  { threads with
    world
    said := threads.said ++ world.outlet.underway.drop threads.world.outlet.underway.length }

/-- The worker that the responder holds takes a step, or one of the others. -/
def work (threads : Threads) (other : Option Nat) (heeds : Bool) : Threads :=
  match other with
  | none =>
    match threads.worker with
    | some worker =>
      let ran := worker.step heeds threads.world
      { threads.hear ran.2 with worker := some ran.1 }
    | none => threads
  | some index =>
    match threads.others[index]? with
    | some worker =>
      let ran := worker.step heeds threads.world
      { threads.hear ran.2 with others := threads.others.set index ran.1 }
    | none => threads

/-- Do something with the channel. -/
def onChannel (threads : Threads) (change : Channel → Channel) : Threads :=
  { threads with world := { threads.world with outlet := change threads.world.outlet } }

/-- **What may happen next.** -/
inductive Move where
  /-- A message is delivered. It waits unless the responder does. -/
  | arrive (message : Message)
  /-- The responder is told to quit. -/
  | leave
  /-- The responder takes its next step. -/
  | advance
  /-- The worker takes a step, or another one that the responder has let go of. -/
  | work (other : Option Nat) (heeds : Bool)
  /-- The session is told to stop. -/
  | cancel
  /-- The oldest message that waits goes on its way. -/
  | transmit
  /-- From here on, the connection is found in order, or not. -/
  | connection (isUp : Bool)
  /-- From here on, other calls on the shares fail. -/
  | faults (faults : List Fault)

/-- Whether a move is one of the responder, and not of a worker or of the surroundings. -/
def Move.isResponder : Move → Bool
  | arrive _ | leave | advance => true
  | _ => false

/-- Other faults are fruitful. -/
def Move.IsFruitful : Move → Prop
  | faults others => Fault.Fruitful others
  | _ => True

/-- What one move does. -/
def step (threads : Threads) : Move → Threads
  | .arrive message =>
    match threads.point with
    | .ready => { threads with point := threads.pointOf message }
    | _ => threads
  | .leave =>
    match threads.point with
    | .ready => { threads with point := .stopping .leave }
    | _ => threads
  | .advance => threads.advance
  | .work other heeds => threads.work other heeds
  | .cancel => threads.onChannel ({ · with isCancelled := true })
  | .transmit => threads.onChannel Channel.transmit
  | .connection isUp => threads.onChannel ({ · with isUp })
  | .faults faults =>
    { threads with
      world := { threads.world with store := { threads.world.store with faults } } }

/-- **Moves in turn.** -/
def run (threads : Threads) (moves : List Move) : Threads :=
  moves.foldl step threads

theorem run_append (threads : Threads) (moves more : List Move) :
    threads.run (moves ++ more) = (threads.run moves).run more :=
  List.foldl_append

end Threads

end FileShare
