import FileShare.Proofs.RequestQueue

/-!
# Which messages reach the exchange

The worker of a session sleeps until it is woken, and then takes complete requests out of the queue
one by one. It goes back to sleep when none is left, and also when it drops one: a request that
holds no message, or one that comes before any exchange and opens none. What is behind it has to
wait until the worker is woken again.

A `Desk` is a worker and its session, taken apart: requests arrive at any time, the worker may be
woken at any time, and between any two of its steps the background job may go on and anything else
may happen that leaves the requests alone.

* **`Worker.hears`** says which messages are for the exchange: all that can be read, and if there is
  no exchange yet, only from the first one on that opens one.
* **`Worker.hands`** says what becomes of one request: it is dropped, or its message is given to the
  exchange.

## What the statements rest on

* A move lets a request in, or deals with one, or leaves what is waiting and what was given as they
  are (`Desk.does_step`). Everything else is derived from that.
* **`Desk.Sound`** is what holds at any time: every request is dealt with once, in the order of
  arrival, and what was given to the exchange is what the worker has heard from the requests that
  have been dealt with.

That nothing waits for ever, and that this is what the worker does, is in `Proofs.Wakings`.
-/

namespace FileShare

/-! ### Messages for the exchange -/

/-- Whether a message opens an exchange. -/
def Message.opens (message : Message) : Bool :=
  message.command?.any Command.isInitRequest

namespace Worker

/-- **The messages that are for the exchange**: all that can be read, and if there is no exchange
yet, only from the first one on that opens one. -/
def hears (worker : Worker) (packets : List Packet) : List Message :=
  let messages := packets.filterMap fun packet ↦ packet.message.toOption
  if worker.exchange.isSome then messages
  else messages.dropWhile fun message ↦ !message.opens

/-- The exchange that messages are for: the one at hand, or else the one that the first of them
opens. -/
def opening (worker : Worker) (messages : List Message) : Option Exchange :=
  worker.exchange.or (messages.head?.bind worker.adopt)

/-- **What a request gives to the exchange**: its message, if it can be read and there is an
exchange for it. -/
def hands (worker : Worker) (packet : Packet) : Option (Exchange × Message) :=
  packet.message.toOption.bind fun message ↦ (worker.adopt message).map (·, message)

variable {worker : Worker} {exchange : Exchange} {message : Message} {packet : Packet}

theorem adopt_of_some (h : worker.exchange = some exchange) (message : Message) :
    worker.adopt message = some exchange := by
  rw [adopt, h]

/-- **Without an exchange, the messages that open one are adopted**, and no others. -/
theorem isSome_adopt_of_none (h : worker.exchange = none) (message : Message) :
    (worker.adopt message).isSome = message.opens := by
  rw [adopt, h, Message.opens, Session.familyOf]
  rcases message.command? with - | command
  · rfl
  · dsimp only [Option.any_some]
    cases command.isInitRequest <;> rfl

theorem adopt_of_role {other : Worker} (hrole : worker.role = other.role)
    (h : worker.exchange = none) (h' : other.exchange = none) (message : Message) :
    worker.adopt message = other.adopt message := by
  rw [adopt, adopt, h, h', hrole]

/-- What a further request adds to the messages that are heard. -/
theorem hears_concat (worker : Worker) (packets : List Packet) (packet : Packet) :
    worker.hears (packets ++ [packet]) = worker.hears packets ++
      (packet.message.toOption.filter fun message ↦
        worker.exchange.isSome || !(worker.hears packets).isEmpty || message.opens).toList := by
  simp only [hears, List.filterMap_append, List.filterMap_cons, List.filterMap_nil]
  rcases packet.message with fault | message <;>
    simp only [Except.toOption, List.append_nil, Option.filter_none, Option.toList_none]
  by_cases hexchange : worker.exchange.isSome = true
  · simp only [hexchange, if_true, Bool.true_or, Option.filter_some, Option.toList_some]
  · simp only [hexchange, Bool.false_eq_true, if_false, Bool.false_or, List.dropWhile_append]
    generalize List.dropWhile _ (packets.filterMap _) = heard
    -- until something has been heard, it is up to the message itself
    rcases heard with - | ⟨first, rest⟩
    · cases hopens : message.opens <;> simp [hopens, Option.filter_some]
    · simp [Option.filter_some]

/-- A byte that is no message is passed over, and so is what comes before an exchange is opened. -/
example :
    let packets := ⟨1, ⟨#[0xff]⟩, 0, 0⟩ ::
      [Message.bare "1" .downloadDataReq, .bare "2" .listingInitReq, .bare "3" .listingInitReq].map
        fun message ↦ (⟨message.payload.size, message.payload, 0, 0⟩ : Packet)
    ((⟨.responder, default, none⟩ : Worker).hears packets).map Message.requestId = ["2", "3"] := by
  decide +kernel

/-- What has been heard without an exchange begins with a message that opens one. -/
theorem opens_of_head?_hears (h : worker.exchange = none) {packets : List Packet}
    (hfirst : (worker.hears packets).head? = some message) : message.opens = true := by
  have hhead := List.head?_dropWhile_not (fun message : Message ↦ !message.opens)
    (packets.filterMap fun packet ↦ packet.message.toOption)
  rw [hears, h, Option.isSome_none, if_neg Bool.false_ne_true] at hfirst
  rw [hfirst] at hhead
  simpa using hhead

/-- **Whoever has heard something has an exchange.** -/
theorem opening_eq_none_iff {packets : List Packet} :
    worker.opening (worker.hears packets) = none ↔
      worker.exchange = none ∧ worker.hears packets = [] := by
  rw [opening, Option.or_eq_none_iff]
  refine and_congr_right fun hexchange ↦ ?_
  rcases hheard : worker.hears packets with - | ⟨first, rest⟩
  · simp
  · have hopens : first.opens = true :=
      opens_of_head?_hears hexchange (by rw [hheard, List.head?_cons])
    rw [← isSome_adopt_of_none hexchange] at hopens
    simp [Option.isSome_iff_ne_none.1 hopens]

/-- What follows does not change which exchange messages are for. -/
theorem opening_append {messages : List Message} (h : worker.opening messages = some exchange)
    (more : List Message) : worker.opening (messages ++ more) = some exchange := by
  rw [opening, Option.or_eq_some_iff] at h ⊢
  refine h.imp_right fun ⟨hnone, hfirst⟩ ↦ ⟨hnone, ?_⟩
  obtain ⟨first, hhead, hadopt⟩ := Option.bind_eq_some_iff.1 hfirst
  rw [List.head?_append, hhead]
  exact hadopt

theorem hands_eq_some_iff : worker.hands packet = some (exchange, message) ↔
    packet.message = .ok message ∧ worker.adopt message = some exchange := by
  rw [hands]
  rcases packet.message with fault | read
  · simp [Except.toOption]
  · simp only [Except.toOption, Option.bind_some, Option.map_eq_some_iff, Prod.mk.injEq,
      Except.ok.injEq]
    constructor
    · rintro ⟨adopted, hadopt, rfl, rfl⟩
      exact ⟨rfl, hadopt⟩
    · rintro ⟨rfl, hadopt⟩
      exact ⟨exchange, hadopt, rfl, rfl⟩

theorem hears_nil (worker : Worker) : worker.hears [] = [] := by
  simp [hears]

/-- **A worker goes on**: at most, its exchange has. -/
structure Continues (worker next : Worker) : Prop where
  role : next.role = worker.role
  settings : next.settings = worker.settings
  exchange : Option.Rel Exchange.Continues worker.exchange next.exchange

theorem Continues.refl (worker : Worker) : worker.Continues worker := by
  refine ⟨rfl, rfl, ?_⟩
  rcases worker.exchange with - | exchange
  · exact .none
  · exact .some (.refl exchange)

theorem Continues.trans {next last : Worker} (h : worker.Continues next)
    (h' : next.Continues last) : worker.Continues last := by
  refine ⟨h'.role.trans h.role, h'.settings.trans h.settings, ?_⟩
  rcases worker with ⟨_, _, exchange⟩
  rcases next with ⟨_, _, exchange'⟩
  rcases last with ⟨_, _, exchange''⟩
  cases h.exchange with
  | none => exact h'.exchange
  | some hfirst =>
    cases h'.exchange with
    | some hsecond => exact .some (hfirst.trans hsecond)

theorem continues_runJob {τ : Type} [Transport τ] (worker : Worker) (bound : Nat)
    (world : World (Session τ)) : worker.Continues ((worker.runJob bound).run world).1.2 := by
  rw [runJob]
  split
  · exact .refl worker
  · rename_i exchange hexchange
    exact ⟨rfl, rfl, hexchange ▸ .some (exchange.continues_runJob world bound)⟩

end Worker

/-! ### The desk -/

/-- What the worker is doing. -/
inductive Mode where
  | asleep
  /-- It is about to look for a request. -/
  | looking
  /-- It has taken a request out of the queue. -/
  | holding (packet : Packet)

/-- The request that the worker has taken out of the queue. -/
def Mode.held : Mode → List Packet
  | .holding packet => [packet]
  | _ => []

/-- **A worker and its session.** -/
structure Desk (τ : Type) where
  worker : Worker
  world : World (Session τ)
  mode : Mode
  /-- All requests that ever arrived. -/
  arrived : List Packet
  /-- The requests that have been dealt with. -/
  dealt : List Packet
  /-- What was given to the exchange, oldest first: the exchange as it was, and the message. -/
  given : List (Exchange × Message)
  /-- How many times the worker has gone back to sleep, as it does after each waking. -/
  rests : Nat

section Deal

variable {τ : Type} [Transport τ]

/-- What the worker does about a request that it has taken out of the queue. Tells whether to go
on. -/
def Worker.deal (worker : Worker) (packet : Packet) : WorldM (Session τ) (Bool × Worker) := do
  if (← get).outlet.cancelled then
    pure (false, worker)
  else
    match worker.hands packet with
    | none => pure (false, worker)
    | some (exchange, message) =>
      let (_, exchange) ← exchange.process worker.settings message
      pure (true, { worker with exchange := some exchange })

/-- **To take a request is to take it out of the queue and to deal with it.** -/
theorem Worker.take_run (worker : Worker) (world : World (Session τ)) :
    worker.take.run world =
      match world.outlet.popRequest with
      | (none, session) => ((false, worker), { world with outlet := session })
      | (some packet, session) => (worker.deal packet).run { world with outlet := session } := by
  rcases hpop : world.outlet.popRequest with ⟨_ | packet, session⟩
  · simp only [take, hpop, StateT.run_bind, StateT.run_get, StateT.run_modify, pure_bind,
      StateT.run_pure]
    rfl
  · simp only [take, deal, hands, hpop, StateT.run_bind, StateT.run_get, StateT.run_modify,
      pure_bind]
    rcases packet.message with _ | message
    · rfl
    · dsimp only [Except.toOption, Option.bind_some]
      rcases worker.adopt message with _ | exchange <;> rfl

/-- **A request is dropped, and nothing else happens, or its message is given to the exchange.** -/
theorem Worker.deal_run (worker : Worker) (packet : Packet) {world : World (Session τ)}
    (hgoing : world.outlet.cancelled = false) :
    (worker.deal packet).run world =
      match worker.hands packet with
      | none => ((false, worker), world)
      | some (exchange, message) =>
        let ((_, next), last) := (exchange.process worker.settings message).run world
        ((true, { worker with exchange := some next }), last) := by
  simp only [deal, StateT.run_bind, StateT.run_get, pure_bind, hgoing, Bool.false_eq_true, if_false]
  rcases worker.hands packet with - | ⟨exchange, message⟩ <;> rfl

end Deal

namespace Desk

variable {τ : Type}

/-- Nothing has arrived, and the worker sleeps. -/
def start (worker : Worker) (world : World (Session τ)) (capacity readChunk : Nat) (t : τ) :
    Desk τ :=
  ⟨worker, { world with outlet := (Session.ofSettings capacity readChunk).bind t }, .asleep, [], [],
    [], 0⟩

/-- The requests that have not been dealt with. -/
def waiting (m : Desk τ) : List Packet :=
  m.mode.held ++ m.world.outlet.requests

/-- A request has been dealt with, and this is what came of it: whether to go on, and the worker and
the world as they are now. -/
def after (m : Desk τ) (packet : Packet) (result : (Bool × Worker) × World (Session τ)) :
    Desk τ :=
  { m with
    worker := result.1.2
    world := result.2
    mode := if result.1.1 then .looking else .asleep
    dealt := m.dealt ++ [packet]
    given := m.given ++ (m.worker.hands packet).toList
    rests := if result.1.1 then m.rests else m.rests + 1 }

/-- **What may happen next.** -/
inductive Move (τ : Type) where
  /-- A complete request arrives, and the worker is told. -/
  | arrive (packet : Packet) (complete : packet.isComplete = true)
  /-- The worker wakes up, whether it has been told or not. -/
  | wake
  /-- The worker looks for a request, and takes it out of the queue. -/
  | pop
  /-- The worker deals with the request that it has taken. -/
  | deal
  /-- The background job of the exchange goes on. -/
  | job (bound : Nat)
  /-- Something else happens that leaves the requests alone. -/
  | other (change : World (Session τ) → World (Session τ))
    (spares : ∀ world : World (Session τ), world.outlet.Spares (change world).outlet)

section Steps

variable [Transport τ]

/-- The worker deals with the request that it has taken. -/
def deal (m : Desk τ) (packet : Packet) : Desk τ :=
  m.after packet ((m.worker.deal packet).run m.world)

/-- What one move does. -/
def step (m : Desk τ) : Move τ → Desk τ
  | .arrive packet _ =>
    { m with
      world := { m.world with outlet := (m.world.outlet.pushRequest packet).signal }
      arrived := m.arrived ++ [packet] }
  | .wake =>
    match m.mode with
    | .asleep =>
      { m with
        world := { m.world with outlet := { m.world.outlet with workPending := false } }
        mode := .looking }
    | _ => m
  | .pop =>
    match m.mode with
    | .looking =>
      match m.world.outlet.popRequest with
      | (none, session) =>
        { m with
          world := { m.world with outlet := session }
          mode := .asleep
          rests := m.rests + 1 }
      | (some packet, session) =>
        { m with world := { m.world with outlet := session }, mode := .holding packet }
    | _ => m
  | .deal =>
    match m.mode with
    | .holding packet => m.deal packet
    | _ => m
  | .job bound =>
    let ((_, worker), world) := (m.worker.runJob bound).run m.world
    { m with worker, world }
  | .other change _ => { m with world := change m.world }

/-- **Moves in turn.** -/
def run (m : Desk τ) (moves : List (Move τ)) : Desk τ :=
  moves.foldl step m

end Steps

/-- **Nothing arrives and nothing is dealt with**. At most, the exchange goes on. -/
structure Keeps (m m' : Desk τ) : Prop where
  cancelled : m'.world.outlet.cancelled = m.world.outlet.cancelled
  waiting : m'.waiting = m.waiting
  arrived : m'.arrived = m.arrived
  dealt : m'.dealt = m.dealt
  given : m'.given = m.given
  worker : m.worker.Continues m'.worker

theorem Keeps.refl (m : Desk τ) : m.Keeps m :=
  ⟨rfl, rfl, rfl, rfl, rfl, .refl _⟩

theorem Keeps.of_waiting {m : Desk τ} {mode : Mode} {world : World (Session τ)} (rests : Nat)
    (hcancelled : world.outlet.cancelled = m.world.outlet.cancelled)
    (hwaiting : mode.held ++ world.outlet.requests = m.waiting) :
    m.Keeps { m with mode, world, rests } :=
  ⟨hcancelled, hwaiting, rfl, rfl, rfl, .refl _⟩

/-! ### What holds at any time -/

/-- **What holds at any time** of a desk that began with a worker. -/
structure Sound (worker : Worker) (m : Desk τ) : Prop where
  going : m.world.outlet.cancelled = false
  complete : ∀ packet ∈ m.waiting, packet.isComplete = true
  /-- What has been dealt with came before what has not. -/
  account : m.arrived = m.dealt ++ m.waiting
  /-- The exchange is the one that was there, or that was opened, as far as it has come. -/
  continues : { worker with exchange := worker.opening (worker.hears m.dealt) }.Continues m.worker
  /-- **What was given to the exchange is what the worker has heard.** -/
  heard : m.given.map Prod.snd = worker.hears m.dealt
  /-- It was given to that exchange. -/
  bound : ∀ entry ∈ m.given, ∃ opening,
    worker.opening (worker.hears m.dealt) = some opening ∧ opening.Continues entry.1
  /-- What opens an exchange is the first message that is given to it. -/
  first : worker.exchange = none → ∀ entry ∈ m.given.head?, worker.adopt entry.2 = some entry.1

variable {worker : Worker} {m : Desk τ}

theorem sound_start (worker : Worker) (world : World (Session τ)) (capacity readChunk : Nat)
    (t : τ) : Sound worker (start worker world capacity readChunk t) where
  going := rfl
  complete packet h := absurd h List.not_mem_nil
  account := rfl
  continues := by
    have hopening : worker.opening (worker.hears []) = worker.exchange := by
      rw [Worker.hears_nil, Worker.opening, List.head?_nil, Option.bind_none, Option.or_none]
    have hworker : { worker with exchange := worker.opening (worker.hears []) } = worker := by
      rw [hopening]
    exact hworker.symm ▸ .refl worker
  heard := worker.hears_nil.symm
  bound entry h := absurd h List.not_mem_nil
  first _ entry h := absurd h (Option.not_mem_none entry)

namespace Sound

/-- Where nothing arrives and nothing is dealt with, nothing is lost. -/
theorem kept (h : m.Sound worker) {m' : Desk τ} (hkeeps : m.Keeps m') : m'.Sound worker where
  going := hkeeps.cancelled.trans h.going
  complete := hkeeps.waiting ▸ h.complete
  account := by rw [hkeeps.arrived, hkeeps.dealt, hkeeps.waiting, h.account]
  continues := hkeeps.dealt ▸ h.continues.trans hkeeps.worker
  heard := by rw [hkeeps.given, hkeeps.dealt, h.heard]
  bound := by
    rw [hkeeps.given, hkeeps.dealt]
    exact h.bound
  first := hkeeps.given ▸ h.first

/-- What the worker holds is the oldest of what is waiting. -/
theorem of_holding (h : m.Sound worker) {packet : Packet} (hmode : m.mode = .holding packet) :
    (∀ other ∈ m.world.outlet.requests, other.isComplete = true) ∧
      m.arrived = (m.dealt ++ [packet]) ++ m.world.outlet.requests := by
  have hwaiting : m.waiting = packet :: m.world.outlet.requests := by
    rw [waiting, hmode]
    rfl
  refine ⟨fun other hother ↦ h.complete other (hwaiting ▸ List.mem_cons_of_mem packet hother), ?_⟩
  rw [h.account, hwaiting, List.append_assoc]
  rfl

/-- Without an exchange, nothing has been heard. -/
theorem of_exchange_none (h : m.Sound worker) (hexchange : m.worker.exchange = none) :
    worker.exchange = none ∧ worker.hears m.dealt = [] := by
  refine Worker.opening_eq_none_iff.1 ?_
  have hcontinues := h.continues.exchange
  rw [hexchange] at hcontinues
  generalize worker.opening _ = opening at hcontinues
  cases hcontinues
  rfl

/-- An exchange is the one that was there, or that was opened, as far as it has come. -/
theorem of_exchange_some (h : m.Sound worker) {exchange : Exchange}
    (hexchange : m.worker.exchange = some exchange) : ∃ opening,
      worker.opening (worker.hears m.dealt) = some opening ∧ opening.Continues exchange := by
  have hcontinues := h.continues.exchange
  rw [hexchange] at hcontinues
  generalize worker.opening _ = opening at hcontinues ⊢
  cases hcontinues with
  | some hgoes => exact ⟨_, rfl, hgoes⟩

/-- **What is adopted is what is heard**, now that all this has been heard already. -/
theorem isSome_adopt (h : m.Sound worker) (message : Message) :
    (m.worker.adopt message).isSome =
      (worker.exchange.isSome || !(worker.hears m.dealt).isEmpty || message.opens) := by
  rcases hexchange : m.worker.exchange with - | exchange
  · obtain ⟨hnone, hnil⟩ := h.of_exchange_none hexchange
    rw [Worker.isSome_adopt_of_none hexchange, hnone, hnil]
    rfl
  · obtain ⟨opening, hopening, -⟩ := h.of_exchange_some hexchange
    rw [Worker.adopt_of_some hexchange]
    rcases hbound : worker.exchange with - | bound
    · rcases hheard : worker.hears m.dealt with - | ⟨first, rest⟩
      · rw [Worker.opening_eq_none_iff.2 ⟨hbound, hheard⟩] at hopening
        cases hopening
      · rfl
    · rfl

/-- **What a request adds to what is heard is what it gives to the exchange.** -/
theorem hears_concat (h : m.Sound worker) (packet : Packet) :
    worker.hears (m.dealt ++ [packet]) =
      worker.hears m.dealt ++ ((m.worker.hands packet).map Prod.snd).toList := by
  rw [Worker.hears_concat, Worker.hands]
  rcases packet.message with fault | message
  · rfl
  simp only [Except.toOption, Option.bind_some, Option.filter_some, ← h.isSome_adopt message]
  rcases m.worker.adopt message with - | exchange <;> rfl

/-- **What is given to an exchange is given to the one that was opened.** -/
theorem opening_hands (h : m.Sound worker) {packet : Packet} {exchange : Exchange}
    {message : Message} (hhands : m.worker.hands packet = some (exchange, message)) :
    ∃ opening, worker.opening (worker.hears (m.dealt ++ [packet])) = some opening ∧
      opening.Continues exchange := by
  obtain ⟨-, hadopt⟩ := Worker.hands_eq_some_iff.1 hhands
  rw [h.hears_concat, hhands]
  rcases hexchange : m.worker.exchange with - | current
  · obtain ⟨hnone, hnil⟩ := h.of_exchange_none hexchange
    have hrole : m.worker.role = worker.role := h.continues.role
    have hopened : worker.adopt message = some exchange :=
      (Worker.adopt_of_role hrole.symm hnone hexchange message).trans hadopt
    refine ⟨exchange, ?_, .refl exchange⟩
    rw [hnil, Worker.opening, hnone]
    exact hopened
  · obtain ⟨opening, hopening, hgoes⟩ := h.of_exchange_some hexchange
    rw [Worker.adopt_of_some hexchange] at hadopt
    cases hadopt
    exact ⟨opening, Worker.opening_append hopening _, hgoes⟩

/-- **What opens an exchange is the first message that is heard.** -/
theorem adopt_hands (h : m.Sound worker) {packet : Packet} {exchange : Exchange}
    {message : Message} (hhands : m.worker.hands packet = some (exchange, message))
    (hnone : worker.exchange = none) (hnil : worker.hears m.dealt = []) :
    worker.adopt message = some exchange := by
  obtain ⟨-, hadopt⟩ := Worker.hands_eq_some_iff.1 hhands
  have hrole : m.worker.role = worker.role := h.continues.role
  rcases hexchange : m.worker.exchange with - | current
  · exact (Worker.adopt_of_role hrole.symm hnone hexchange message).trans hadopt
  · obtain ⟨opening, hopening, -⟩ := h.of_exchange_some hexchange
    rw [Worker.opening_eq_none_iff.2 ⟨hnone, hnil⟩] at hopening
    cases hopening

end Sound

/-! ### Step by step -/

variable [Transport τ]

/-- **To drop a request is to do nothing else**: nobody is told, and the worker rests. -/
theorem deal_of_none (hgoing : m.world.outlet.cancelled = false) {packet : Packet}
    (hhands : m.worker.hands packet = none) :
    m.deal packet =
      { m with mode := .asleep, dealt := m.dealt ++ [packet], rests := m.rests + 1 } := by
  rw [deal, Worker.deal_run m.worker packet hgoing, after, hhands, Option.toList_none,
    List.append_nil]
  rfl

/-- **To take a message is to process it.** -/
theorem deal_of_some (hgoing : m.world.outlet.cancelled = false) {packet : Packet}
    {exchange : Exchange} {message : Message}
    (hhands : m.worker.hands packet = some (exchange, message)) :
    m.deal packet =
      let ((_, next), world) := (exchange.process m.worker.settings message).run m.world
      { m with
        worker := { m.worker with exchange := some next }
        world
        mode := .looking
        dealt := m.dealt ++ [packet]
        given := m.given ++ [(exchange, message)] } := by
  rw [deal, Worker.deal_run m.worker packet hgoing, after, hhands]
  rfl

/-- A worker that finds no request goes to sleep. -/
theorem step_pop_of_nil (hmode : m.mode = .looking) (hrequests : m.world.outlet.requests = []) :
    m.step .pop = { m with mode := .asleep, rests := m.rests + 1 } := by
  simp only [step, hmode, Session.popRequest, hrequests]

/-- A worker that finds a complete request takes it out of the queue. -/
theorem step_pop_of_cons (hmode : m.mode = .looking) {packet : Packet} {rest : List Packet}
    (hrequests : m.world.outlet.requests = packet :: rest) (hcomplete : packet.isComplete = true) :
    m.step .pop =
      { m with
        world := { m.world with outlet := { m.world.outlet with requests := rest } }
        mode := .holding packet } := by
  simp only [step, hmode, Session.popRequest, hrequests, hcomplete, if_true]

/-- **What one move can do.** -/
inductive Does (m : Desk τ) : Desk τ → Prop where
  | arrives (packet : Packet) (complete : packet.isComplete = true) :
    Does m (m.step (.arrive packet complete))
  | deals (packet : Packet) (holding : m.mode = .holding packet) : Does m (m.deal packet)
  /-- The worker may have gone to sleep, but only if nothing is waiting. -/
  | keeps {m' : Desk τ} (same : m.Keeps m')
    (rests : m'.rests = m.rests ∨ m'.rests = m.rests + 1 ∧ m.waiting = []) : Does m m'

theorem does_pop (hcomplete : ∀ packet ∈ m.waiting, packet.isComplete = true) :
    m.Does (m.step .pop) := by
  rcases hmode : m.mode with - | - | packet
  case looking =>
    have hwaiting : m.waiting = m.world.outlet.requests := by
      rw [waiting, hmode]
      rfl
    rw [hwaiting] at hcomplete
    rcases hrequests : m.world.outlet.requests with - | ⟨packet, rest⟩
    · rw [step_pop_of_nil hmode hrequests]
      exact .keeps (.of_waiting _ rfl hwaiting.symm) (.inr ⟨rfl, hwaiting.trans hrequests⟩)
    · rw [step_pop_of_cons hmode hrequests (hcomplete packet (hrequests ▸ List.mem_cons_self))]
      exact .keeps (.of_waiting _ rfl (hwaiting.trans hrequests).symm) (.inl rfl)
  all_goals
    simp only [step, hmode]
    exact .keeps (.refl m) (.inl rfl)

/-- **There is nothing else that a move can do.** -/
theorem does_step (hcomplete : ∀ packet ∈ m.waiting, packet.isComplete = true) (move : Move τ) :
    m.Does (m.step move) := by
  cases move with
  | arrive packet hcomplete => exact .arrives packet hcomplete
  | wake =>
    rcases hmode : m.mode with - | - | packet <;> simp only [step, hmode]
    case asleep =>
      refine .keeps (.of_waiting _ rfl ?_) (.inl rfl)
      rw [waiting, hmode]
      rfl
    all_goals exact .keeps (.refl m) (.inl rfl)
  | pop => exact does_pop hcomplete
  | deal =>
    rcases hmode : m.mode with - | - | packet <;> simp only [step, hmode]
    case holding => exact .deals packet hmode
    all_goals exact .keeps (.refl m) (.inl rfl)
  | job bound =>
    have hspares := m.worker.spares_runJob bound m.world
    exact .keeps ⟨hspares.cancelled, congrArg (m.mode.held ++ ·) hspares.requests, rfl, rfl, rfl,
      m.worker.continues_runJob bound m.world⟩ (.inl rfl)
  | other change hspares =>
    have hchanged := hspares m.world
    exact .keeps (.of_waiting _ hchanged.cancelled (congrArg (m.mode.held ++ ·) hchanged.requests))
      (.inl rfl)

namespace Sound

/-- A request arrives, and waits behind the others. -/
theorem arrived (h : m.Sound worker) {packet : Packet} (hcomplete : packet.isComplete = true) :
    (m.step (.arrive packet hcomplete)).Sound worker where
  going := h.going
  complete := by
    intro other hother
    have hwaiting : other ∈ m.waiting ++ [packet] := by
      rwa [waiting, List.append_assoc]
    rcases List.mem_append.1 hwaiting with hbefore | hnew
    · exact h.complete other hbefore
    · rwa [List.mem_singleton.1 hnew]
  account := by
    show m.arrived ++ [packet] = m.dealt ++ (m.mode.held ++ (m.world.outlet.requests ++ [packet]))
    rw [h.account, waiting, List.append_assoc, List.append_assoc]
  continues := h.continues
  heard := h.heard
  bound := h.bound
  first := h.first

/-- The worker drops a request. -/
theorem dropped (h : m.Sound worker) {packet : Packet} (hmode : m.mode = .holding packet)
    (hhands : m.worker.hands packet = none) : (m.deal packet).Sound worker := by
  obtain ⟨hcomplete, haccount⟩ := h.of_holding hmode
  have hheard := h.hears_concat packet
  rw [hhands, Option.map_none, Option.toList_none, List.append_nil] at hheard
  rw [deal_of_none h.going hhands]
  constructor
  case going => exact h.going
  case complete => exact hcomplete
  case account => exact haccount
  case continues => exact hheard.symm ▸ h.continues
  case heard => exact h.heard.trans hheard.symm
  case bound => exact hheard.symm ▸ h.bound
  case first => exact h.first

/-- The worker gives a message to the exchange. -/
theorem taken (h : m.Sound worker) {packet : Packet} (hmode : m.mode = .holding packet)
    {exchange : Exchange} {message : Message}
    (hhands : m.worker.hands packet = some (exchange, message)) : (m.deal packet).Sound worker := by
  obtain ⟨hcomplete, haccount⟩ := h.of_holding hmode
  obtain ⟨opening, hopening, hgoes⟩ := h.opening_hands hhands
  have hheard := h.hears_concat packet
  have hspares := (exchange.composed_process message m.worker.settings (fun _ ↦ .any)
    fun _ _ ↦ .any).spares m.world
  have hnext := exchange.continues_process m.worker.settings message m.world
  rw [hhands, Option.map_some, Option.toList_some] at hheard
  rw [deal_of_some h.going hhands]
  rcases hrun : (exchange.process m.worker.settings message).run m.world with
    ⟨⟨result, next⟩, last⟩
  rw [World.Spares, hrun] at hspares
  rw [hrun] at hnext
  have hrequests : last.outlet.requests = m.world.outlet.requests := hspares.requests
  constructor
  case going => exact hspares.cancelled.trans h.going
  case complete => exact fun other hother ↦ hcomplete other (hrequests ▸ hother)
  case account => exact haccount.trans (congrArg _ hrequests.symm)
  case continues =>
    refine ⟨h.continues.role, h.continues.settings, ?_⟩
    dsimp only
    rw [hopening]
    exact .some (hgoes.trans hnext)
  case heard =>
    dsimp only
    rw [List.map_append, h.heard, hheard]
    rfl
  case bound =>
    intro entry hentry
    rcases List.mem_append.1 hentry with hbefore | hnew
    · obtain ⟨before, hopened, hgoes⟩ := h.bound entry hbefore
      exact ⟨before, hheard ▸ Worker.opening_append hopened _, hgoes⟩
    · rw [List.mem_singleton.1 hnew]
      exact ⟨opening, hopening, hgoes⟩
  case first =>
    intro hnone entry hentry
    rcases hgiven : m.given with - | ⟨first, more⟩
    · have hnil : worker.hears m.dealt = [] := by rw [← h.heard, hgiven, List.map_nil]
      have hnew : entry = (exchange, message) := by simpa [hgiven] using hentry.symm
      rw [hnew]
      exact h.adopt_hands hhands hnone hnil
    · exact h.first hnone entry (by simpa [hgiven] using hentry)

/-- **What one move preserves.** -/
theorem does (h : m.Sound worker) {m' : Desk τ} (hdoes : m.Does m') : m'.Sound worker := by
  cases hdoes with
  | arrives packet hcomplete => exact h.arrived hcomplete
  | deals packet hmode =>
    rcases hhands : m.worker.hands packet with - | ⟨exchange, message⟩
    · exact h.dropped hmode hhands
    · exact h.taken hmode hhands
  | keeps hkeeps => exact h.kept hkeeps

/-- **What a whole run preserves.** -/
theorem run (h : m.Sound worker) (moves : List (Move τ)) : (m.run moves).Sound worker := by
  induction moves generalizing m with
  | nil => exact h
  | cons move moves ih => exact ih (h.does (does_step h.complete move))

end Sound

end Desk

end FileShare
