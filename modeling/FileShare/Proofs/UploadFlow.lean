import FileShare.Proofs.Initiating

/-!
# What is under way in an upload

What the responder has written and what is under way to it are, together, what the initiator has
queued (`Flow`): the pieces continue each other, and the end message comes after the whole of the
file (`Stream`). What is under way in the other direction is an answer to the opening request,
unless the initiator has begun already, and after it nothing but failures and the confirmation
(`Answers`).

Both are kept when the initiator begins or goes on, which queues messages behind all others, and
each has a lemma for the message that comes next (`Stream.uncons`, `Answers.uncons`).
-/

namespace FileShare

open Conversation (Machine)

/-! ### What is under way to the responder -/

variable {requestId : String} {opened : FileSystem.Opened} {bytes : ByteArray}
variable {client : Machine} {progress progress' : Progress}
variable {requests messages : List Message}

/-- The messages that an initiator sends after the opening request. -/
inductive Traffic (requestId : String) : Message → Prop where
  | piece (data : ByteArray) : Traffic requestId (Producer.uploadMessage requestId data)
  | ending : Traffic requestId (uploadEnd requestId)
  | failed (status : Status) : Traffic requestId (uploadFailed requestId status)

theorem Stream.traffic {count count' : Nat} {done : Bool}
    (h : Stream (uploadCarrier requestId) (opened ≠ .directory) bytes count count' done requests) :
    ∀ message ∈ requests, Traffic requestId message :=
  h.forall_mem (fun _ ↦ .piece _) .ending

/-- What one step of a job emits, on its own. -/
theorem Emits.traffic {count count' : Nat} {done done' : Bool}
    (h : Emits (uploadCarrier requestId) (opened ≠ .directory) bytes count done count' done'
      messages) :
    ∀ message ∈ messages, Traffic requestId message :=
  h.forall_mem (fun _ ↦ .piece _) .ending

theorem Begins.traffic (h : Begins client requestId progress messages) :
    ∀ message ∈ messages, Traffic requestId message := by
  cases h with
  | ready => simp
  | gone hmessages =>
    rcases hmessages with rfl | ⟨status, rfl⟩
    · simp
    · simpa using .failed status

theorem Goes.traffic (h : Goes client requestId progress progress' messages) :
    ∀ message ∈ messages, Traffic requestId message := by
  cases h with
  | stay => simp
  | emit _ hemits => exact hemits.traffic

/-- After the end message, nothing more is sent. -/
theorem Goes.of_done {count : Nat}
    (h : Goes client requestId (.sending count true) progress messages) :
    progress = .sending count true := by
  cases h with
  | stay => rfl
  | emit _ hemits =>
    cases hemits
    rfl

/-- **What has been written and what is under way** are what the initiator has queued. -/
inductive Flow (client : Machine) (requestId : String) :
    ByteArray → Progress → List Message → Prop where
  | waiting : Flow client requestId ByteArray.empty .waiting []
  | sending {opened : FileSystem.Opened} {written : ByteArray} {count : Nat} {done : Bool}
      {requests : List Message} (hsource : client.source = .ok opened)
      (hwritten : written = (client.store.fs.bytesOf opened).extract 0 written.size)
      (hstream : Stream (uploadCarrier requestId) (opened ≠ .directory)
        (client.store.fs.bytesOf opened) written.size count done requests) :
      Flow client requestId written (.sending count done) requests
  | abandoned {written : ByteArray} {requests : List Message}
      (hrequests : ∀ message ∈ requests, ∃ status, message = uploadFailed requestId status) :
      Flow client requestId written .abandoned requests

namespace Flow

variable {written : ByteArray}

theorem begins (h : Flow client requestId written .waiting requests)
    (hbegins : Begins client requestId progress messages) :
    Flow client requestId written progress (requests ++ messages) := by
  cases h with
  | waiting =>
    cases hbegins with
    | ready hsource => exact .sending hsource (by simp) (.nil 0)
    | gone hmessages =>
      refine .abandoned ?_
      rcases hmessages with rfl | ⟨status, rfl⟩
      · simp
      · exact fun message hmem ↦ ⟨status, List.mem_singleton.1 hmem⟩

theorem goes (h : Flow client requestId written progress requests)
    (hgoes : Goes client requestId progress progress' messages) :
    Flow client requestId written progress' (requests ++ messages) := by
  cases hgoes with
  | stay => rwa [List.append_nil]
  | emit hsource hemits =>
    cases h with
    | sending hsource' hwritten hstream =>
      obtain rfl := Except.ok.inj (hsource'.symm.trans hsource)
      exact .sending hsource hwritten (hstream.append hemits)

theorem traffic (h : Flow client requestId written progress requests) :
    ∀ message ∈ requests, Traffic requestId message := by
  cases h with
  | waiting => simp
  | sending _ _ hstream => exact hstream.traffic
  | abandoned hrequests =>
    intro message hmessage
    obtain ⟨status, rfl⟩ := hrequests message hmessage
    exact .failed status

end Flow

/-! ### What is under way to the initiator -/

/-- **Answers that are under way**: that the responder is ready comes first, if the initiator has
not begun; all others are failures, or confirm an upload that is in its place. -/
def Answers (requestId : String) (placed : Bool) (progress : Progress) (answers : List Message) :
    Prop :=
  ∃ front rest, answers = front ++ rest ∧
    (front = [] ∨ progress = .waiting ∧ front = [uploadReady requestId]) ∧
    ∀ message ∈ rest, (∃ status, message = uploadFailed requestId status) ∨
      placed = true ∧ message = uploadDone requestId

namespace Answers

variable {placed : Bool} {answers : List Message}

/-- A failure that is told comes last. -/
theorem fail (h : Answers requestId placed progress answers) (status : Status) :
    Answers requestId placed progress (answers ++ [uploadFailed requestId status]) := by
  obtain ⟨front, rest, rfl, hfront, hrest⟩ := h
  refine ⟨front, rest ++ [uploadFailed requestId status], by simp, hfront, ?_⟩
  intro message hmessage
  rcases List.mem_append.1 hmessage with hmessage | hmessage
  · exact hrest message hmessage
  · exact .inl ⟨status, List.mem_singleton.1 hmessage⟩

/-- A failure may have been told. -/
theorem told {answers' : List Message} (h : Answers requestId placed progress answers)
    (htold : answers' = answers ∨
      ∃ status, answers' = answers ++ [uploadFailed requestId status]) :
    Answers requestId placed progress answers' := by
  rcases htold with rfl | ⟨status, rfl⟩
  · exact h
  · exact h.fail status

/-- Once the upload is in its place, that may be confirmed. -/
theorem place (h : Answers requestId placed progress answers) :
    Answers requestId true progress answers := by
  obtain ⟨front, rest, rfl, hfront, hrest⟩ := h
  exact ⟨front, rest, rfl, hfront, fun message hmessage ↦
    (hrest message hmessage).imp_right fun h ↦ ⟨rfl, h.2⟩⟩

theorem confirm (h : Answers requestId placed progress answers) :
    Answers requestId true progress (answers ++ [uploadDone requestId]) := by
  obtain ⟨front, rest, rfl, hfront, hrest⟩ := h.place
  refine ⟨front, rest ++ [uploadDone requestId], by simp, hfront, ?_⟩
  intro message hmessage
  rcases List.mem_append.1 hmessage with hmessage | hmessage
  · exact hrest message hmessage
  · exact .inr ⟨rfl, List.mem_singleton.1 hmessage⟩

/-- An initiator that goes on does not begin. -/
theorem goes (h : Answers requestId placed progress answers)
    (hgoes : Goes client requestId progress progress' messages) :
    Answers requestId placed progress' answers := by
  cases hgoes with
  | stay => exact h
  | emit =>
    obtain ⟨front, rest, rfl, rfl | ⟨hwaiting, -⟩, hrest⟩ := h
    · exact ⟨[], rest, rfl, .inl rfl, hrest⟩
    · cases hwaiting

/-- **The next answer**: that the responder is ready, or one that follows on that. -/
theorem uncons {message : Message} {rest : List Message}
    (h : Answers requestId placed progress (message :: rest)) :
    (progress = .waiting ∧ message = uploadReady requestId ∧
        ∀ progress', Answers requestId placed progress' rest) ∨
      ((∃ status, message = uploadFailed requestId status) ∨
          placed = true ∧ message = uploadDone requestId) ∧
        Answers requestId placed progress rest := by
  obtain ⟨front, others, heq, rfl | ⟨hwaiting, rfl⟩, hothers⟩ := h
  · rw [List.nil_append] at heq
    subst heq
    exact .inr ⟨hothers message (by simp), [], rest, rfl, .inl rfl,
      fun other hother ↦ hothers other (by simp [hother])⟩
  · obtain ⟨rfl, rfl⟩ := List.cons.inj heq
    exact .inl ⟨hwaiting, rfl, fun _ ↦ ⟨[], rest, rfl, .inl rfl, hothers⟩⟩

end Answers

end FileShare
