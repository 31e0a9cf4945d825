import FileShare.Session.SessionError
import FileShare.Transport.Transport
import FileShare.Wire.Packet

/-!
# Sessions

A session turns the bytes of one connection into queued requests, and queued responses into bytes.
It never waits. `Session.readEvent` takes everything that a transport has to offer, and
`Session.writeEvent` sends until nothing is left or the transport is full; both are repetitions of
one step (`readStep`, `writeStep`), between which other things may happen to the session.

**Reading.** Only the newest request may be incomplete. A header is looked at before it is taken,
so one that cannot be trusted stays where it is.

**Writing.** The writer takes the oldest response out of the queue and holds it while it is sent;
if the transport stops in between, the response goes back to the head with its cursor, and the next
call picks it up there. Only one writer holds a response at a time.

The capacity of the queues is advice for those who fill them; the queues do not enforce it.

Each step that is followed by another one makes progress: reading shortens what is unread
(`length_unread_readStep_lt`), writing what is left to do (`writeWork_writeStep_lt`).
-/

namespace FileShare

/-- The **state of a session** over a transport of type `τ`. -/
structure Session (τ : Type) where
  /-- How many packets a queue should hold at most. -/
  capacity : Nat
  /-- The most bytes of a payload that one receive takes. -/
  readChunk : Nat
  transport : Option τ
  /-- The requests, oldest first. -/
  requests : List Packet
  /-- The responses, oldest first. -/
  responses : List Packet
  /-- The response that the writer holds. -/
  held : Option Packet
  /-- Whether a request has become complete since the processing worker last looked. -/
  workPending : Bool
  cancelled : Bool
  deriving Inhabited

/-- What a step comes to: another step is due, or the event is over. -/
inductive Turn where
  | again
  | done (result : Except SessionError Unit)
  deriving Inhabited

namespace Session

variable {τ : Type}

/-- A session without a transport. -/
def ofSettings (capacity readChunk : Nat) : Session τ :=
  ⟨capacity, readChunk, none, [], [], none, false, false⟩

/-- Bind a session to a transport. -/
def bind (s : Session τ) (t : τ) : Session τ :=
  { s with transport := some t }

/-! ### Queues -/

/-- Whether there is room for a response. -/
def hasResponseSpace (s : Session τ) : Bool :=
  s.responses.length < s.capacity

/-- Whether there is room for a request. -/
def hasRequestSpace (s : Session τ) : Bool :=
  s.requests.length < s.capacity

/-- Queue a response at the tail. -/
def pushResponse (s : Session τ) (packet : Packet) : Session τ :=
  { s with responses := s.responses ++ [packet] }

/-- Put a response back at the head. -/
def returnResponse (s : Session τ) (packet : Packet) : Session τ :=
  { s with responses := packet :: s.responses }

/-- Queue a request at the tail. -/
def pushRequest (s : Session τ) (packet : Packet) : Session τ :=
  { s with requests := s.requests ++ [packet] }

/-- Put a request back at the head. -/
def returnRequest (s : Session τ) (packet : Packet) : Session τ :=
  { s with requests := packet :: s.requests }

/-- Take the oldest request, if it is complete. -/
def popRequest (s : Session τ) : Option Packet × Session τ :=
  match s.requests with
  | packet :: rest =>
    if packet.isComplete then (some packet, { s with requests := rest }) else (none, s)
  | [] => (none, s)

/-- Note that there is work. -/
def signal (s : Session τ) : Session τ :=
  { s with workPending := true }

/-- Drop both queues. -/
def cleanUp (s : Session τ) : Session τ :=
  { s with requests := [], responses := [], workPending := false }

/-- Stop the session. -/
def cancel (s : Session τ) : Session τ :=
  { s with cancelled := true }

/-- Stop the session and drop what is queued. -/
def quit (s : Session τ) : Session τ :=
  s.cancel.cleanUp

section Events

variable [Transport τ]

/-- What has arrived and has not been received. -/
def unread (s : Session τ) : List UInt8 :=
  match s.transport with
  | some t => Transport.unread t
  | none => []

/-! ### Reading -/

/-- How a failure of the transport ends a read event: having to wait is no failure. -/
def readFailure (error : IoError) : Except SessionError Unit :=
  match SessionError.ofStream error with
  | .tryAgain => .ok ()
  | fatal => .error fatal

/-- Look at the next header, and take it if it is whole and can be trusted. -/
def readHeader (s : Session τ) (t : τ) : Turn × Session τ :=
  match Transport.peek t Header.size with
  | (.error error, t) => (.done (readFailure error), s.bind t)
  | (.ok shown, t) =>
    if shown.size = 0 then
      (.done (.error .closed), s.bind t)
    else if shown.size < Header.size then
      (.done (if Transport.isReadClosed t then .error .closed else .ok ()), s.bind t)
    else
      match Packet.ofHeader shown with
      | .error fault => (.done (.error (.frame fault)), s.bind t)
      | .ok packet =>
        match Transport.recv t Header.size with
        | (.error error, t) => (.done (readFailure error), s.bind t)
        | (.ok taken, t) =>
          if taken.size = 0 then
            (.done (.error .closed), s.bind t)
          else if taken.size < Header.size then
            (.done (.error (.io (.text .unexpectedEof
              s!"consumed {taken.size} of {Header.size} peeked header bytes"))), s.bind t)
          else
            let s := (s.bind t).pushRequest packet
            (.again, if packet.isComplete then s.signal else s)

/-- Take bytes for the newest request. -/
def readPayload (s : Session τ) (t : τ) (older : List Packet) (newest : Packet) :
    Turn × Session τ :=
  match Transport.recv t (min newest.remaining (max s.readChunk 1)) with
  | (.error error, t) => (.done (readFailure error), s.bind t)
  | (.ok data, t) =>
    if data.size = 0 then
      (.done (.error .closed), s.bind t)
    else
      let packet := newest.append data
      let s := { s.bind t with requests := older ++ [packet] }
      (.again, if packet.isComplete then s.signal else s)

/-- One step of a read event. -/
def readStep (s : Session τ) : Turn × Session τ :=
  match s.transport with
  | none => (.done (.error .notInitialised), s)
  | some t =>
    if s.cancelled then
      (.done (.ok ()), s)
    else
      match s.requests.getLast? with
      | some newest =>
        if newest.isComplete then s.readHeader t
        else s.readPayload t s.requests.dropLast newest
      | none => s.readHeader t

theorem unread_signal (s : Session τ) : s.signal.unread = s.unread := rfl

theorem unread_pushRequest (s : Session τ) (packet : Packet) :
    (s.pushRequest packet).unread = s.unread := rfl

theorem unread_bind (s : Session τ) (t : τ) : (s.bind t).unread = Transport.unread t := rfl

theorem length_unread_of_recv {t t' : τ} {n : Nat} {data : ByteArray}
    (h : Transport.recv t n = (.ok data, t')) (pos : data.size ≠ 0) :
    (Transport.unread t').length < (Transport.unread t).length := by
  have split := (Transport.unread_recv_ok h).2
  have length : data.data.toList.length = data.size := Array.length_toList
  rw [← split, List.length_append, length]
  omega

theorem length_unread_readHeader_lt {s s' : Session τ} {t : τ}
    (h : s.readHeader t = (.again, s')) : s'.unread.length < (Transport.unread t).length := by
  have peeked := Transport.unread_peek t Header.size
  unfold readHeader at h
  split at h
  · simp at h
  · rename_i shown t₁ eq
    rw [eq] at peeked
    split at h
    · simp at h
    · split at h
      · simp at h
      · split at h
        · simp at h
        · split at h
          · simp at h
          · rename_i taken t₂ eq'
            split at h
            · simp at h
            · rename_i pos
              split at h
              · simp at h
              · obtain ⟨-, rfl⟩ := Prod.mk.inj h
                have := length_unread_of_recv eq' pos
                rw [peeked] at this
                split <;> simpa [unread_signal, unread_pushRequest, unread_bind] using this

theorem length_unread_readPayload_lt {s s' : Session τ} {t : τ} {older : List Packet}
    {newest : Packet} (h : s.readPayload t older newest = (.again, s')) :
    s'.unread.length < (Transport.unread t).length := by
  unfold readPayload at h
  split at h
  · simp at h
  · rename_i data t₁ eq
    split at h
    · simp at h
    · rename_i pos
      obtain ⟨-, rfl⟩ := Prod.mk.inj h
      have := length_unread_of_recv eq pos
      split <;> exact this

/-- **A read step that is followed by another one has taken something.** -/
theorem length_unread_readStep_lt {s s' : Session τ} (h : s.readStep = (.again, s')) :
    s'.unread.length < s.unread.length := by
  unfold readStep at h
  split at h
  · simp at h
  · rename_i t eq
    have before : s.unread = Transport.unread t := by simp [unread, eq]
    rw [before]
    split at h
    · simp at h
    · split at h
      · split at h
        · exact length_unread_readHeader_lt h
        · exact length_unread_readPayload_lt h
      · exact length_unread_readHeader_lt h

/-- Take everything that the transport has to offer. -/
def readEvent (s : Session τ) : Except SessionError Unit × Session τ :=
  match _ : s.readStep with
  | (.done result, s) => (result, s)
  | (.again, s) => s.readEvent
termination_by s.unread.length
decreasing_by exact length_unread_readStep_lt ‹_›

/-! ### Writing -/

/-- The writer holds a response. -/
def hold (s : Session τ) (packet : Packet) : Session τ :=
  { s with held := some packet }

/-- The writer holds nothing. -/
def release (s : Session τ) : Session τ :=
  { s with held := none }

/-- Send the next piece of the response that the writer holds. -/
def sendPiece (s : Session τ) (t : τ) (packet : Packet) : Turn × Session τ :=
  match Transport.send t packet.unsent with
  | (.ok count, t) =>
    if count < packet.unsent.size then
      (.done (.ok ()), ((s.bind t).returnResponse (packet.advance count)).release)
    else
      (.again, (s.bind t).hold (packet.advance count))
  | (.error error, t) =>
    if error.kind? = some .wouldBlock then
      (.done (.ok ()), ((s.bind t).returnResponse packet).release)
    else
      (.done (.error (.ofStream error)), (s.bind (Transport.shutdown t)).release)

/-- One step of a write event. -/
def writeStep (s : Session τ) : Turn × Session τ :=
  match s.transport with
  | none => (.done (.error .notInitialised), s)
  | some t =>
    match s.held with
    | none =>
      if s.cancelled then
        (.done (.ok ()), s)
      else
        match s.responses with
        | [] => (.done (.ok ()), s)
        | packet :: rest => (.again, { s.hold packet with responses := rest })
    | some packet =>
      if packet.unsent.size = 0 then (.again, s.release) else s.sendPiece t packet

/-- What the writer still has to do, in steps. -/
def writeWork (s : Session τ) : Nat :=
  4 * s.responses.length + (match s.held with
    | none => 0
    | some packet => 1 + packet.piecesLeft)

/-- **A write step that is followed by another one leaves less to do.** -/
theorem writeWork_writeStep_lt {s s' : Session τ} (h : s.writeStep = (.again, s')) :
    s'.writeWork < s.writeWork := by
  unfold writeStep at h
  split at h
  · simp at h
  · split at h
    · rename_i held
      split at h
      · simp at h
      · split at h
        · simp at h
        · rename_i packet rest eq
          obtain ⟨-, rfl⟩ := Prod.mk.inj h
          have := packet.piecesLeft_le
          simp only [writeWork, eq, held, hold, List.length_cons]
          omega
    · rename_i packet held
      split at h
      · obtain ⟨-, rfl⟩ := Prod.mk.inj h
        simp only [writeWork, held, release]
        omega
      · rename_i pos
        unfold sendPiece at h
        split at h
        · split at h
          · simp at h
          · rename_i full
            obtain ⟨-, rfl⟩ := Prod.mk.inj h
            have := packet.piecesLeft_advance_lt pos (Nat.le_of_not_lt full)
            simp only [writeWork, held, bind, hold]
            omega
        · split at h <;> simp at h

/-- Send queued responses until none is left or the transport takes no more. -/
def writeEvent (s : Session τ) : Except SessionError Unit × Session τ :=
  match _ : s.writeStep with
  | (.done result, s) => (result, s)
  | (.again, s) => s.writeEvent
termination_by s.writeWork
decreasing_by exact writeWork_writeStep_lt ‹_›

/-- A write event ends with the first step that asks for no other one. -/
theorem writeEvent_of_done {s s' : Session τ} {result : Except SessionError Unit}
    (h : s.writeStep = (.done result, s')) : s.writeEvent = (result, s') := by
  rw [writeEvent]
  split
  · rename_i h'
    cases h.symm.trans h'
    rfl
  · rename_i h'
    cases h.symm.trans h'

/-- It goes on after a step that asks for another one. -/
theorem writeEvent_of_again {s s' : Session τ} (h : s.writeStep = (.again, s')) :
    s.writeEvent = s'.writeEvent := by
  rw [writeEvent]
  split
  · rename_i h'
    cases h.symm.trans h'
  · rename_i h'
    cases h.symm.trans h'
    rfl

/-- Queue a message, and send what the transport takes. -/
def send (s : Session τ) (message : Message) : Except SessionError Unit × Session τ :=
  match Packet.ofMessage message with
  | .error fault => (.error (.frame fault), s)
  | .ok packet => (s.pushResponse packet).writeEvent

end Events

/-! ### Opening an exchange -/

/-- The family of the exchange that a message opens. -/
def familyOf (first : Message) : Except SessionError Family :=
  match first.command? with
  | some command =>
    if command.isInitRequest then .ok command.family else .error (.noExchange first.code)
  | none => .error (.noExchange first.code)

end Session

end FileShare
