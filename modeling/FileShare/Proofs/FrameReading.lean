import FileShare.Proofs.PayloadReading

/-!
# Reading frames out of a buffer that grows

Bytes arrive a few at a time, and whoever reads frames out of them asks again and again. Two
functions answer: `Frame.decode` calls a frame that is not whole yet a fault, `Frame.decode?` has no
answer for it. The first lemma says that this is the whole difference between them
(`Frame.decode?_eq`), on any bytes at all.

An answer, once there is one, is **settled**: no further byte changes it
(`Frame.decode_append_of_settled`), since a header is read from its own sixteen bytes and a payload
from as many as the header declares. All that is said about beginnings of a frame follows from this:
if a beginning had an answer, the whole frame would have the same one, and it would end too early.

So a buffer that holds some frames and the beginning of one more is read as exactly these frames
(`Frame.messages_append`), and the beginning waits for the rest of it.
-/

namespace FileShare

/-- A piece of some bytes is not changed by what follows them. -/
theorem extract_append_of_le {data : ByteArray} {start stop : Nat} (h : stop ≤ data.size)
    (more : ByteArray) : (data ++ more).extract start stop = data.extract start stop := by
  rw [ByteArray.extract_append, Nat.sub_eq_zero_of_le h,
    ByteArray.extract_eq_empty_iff.2 (Nat.le_trans (Nat.min_le_left _ _) (Nat.zero_le _)),
    ByteArray.append_empty]

/-- A header is read from the bytes that it has, and what follows them makes no difference. -/
theorem Header.ofBytes_append_of_le {data : ByteArray} (h : size ≤ data.size) (more : ByteArray) :
    ofBytes (data ++ more) = ofBytes data := by
  have hlong : ¬ (data ++ more).size < size := by
    rw [ByteArray.size_append]
    omega
  rw [ofBytes, if_neg hlong, extract_append_of_le h, ofBytes, if_neg (Nat.not_lt.2 h)]

/-- Where there are enough bytes for a header, none are missing for it. -/
theorem Header.ofBytes_ne_incomplete {data : ByteArray} (h : size ≤ data.size)
    (need available : Nat) : ofBytes data ≠ .error (.incomplete need available) := by
  have hlength : (data.extract 0 size).data.toList.length = size := by
    rw [Array.length_toList, ByteArray.size_data, ByteArray.size_extract]
    omega
  rw [ofBytes, if_neg (Nat.not_lt.2 h)]
  split
  · split
    · exact nofun
    · dsimp only
      split <;> exact nofun
  · rename_i hnil
    rw [hnil] at hlength
    exact absurd hlength (by decide)

namespace Frame

/-! ### What stands at the front of some bytes -/

/-- Where the payload of a frame is. -/
def payloadOf (data : ByteArray) (header : Header) : ByteArray :=
  data.extract Header.size (Header.size + header.length.toNat)

/-- **What stands at the front of some bytes.** -/
inductive Front (data : ByteArray) : Prop where
  /-- A piece of a header. -/
  | short (hshort : data.size < Header.size)
  /-- A header that is refused. -/
  | refused {fault : FrameError} (hlong : Header.size ≤ data.size)
    (hheader : Header.ofBytes data = .error fault)
  /-- A header, and a piece of its payload. -/
  | piece {header : Header} (hlong : Header.size ≤ data.size)
    (hheader : Header.ofBytes data = .ok header)
    (hpiece : data.size < Header.size + header.length.toNat)
  /-- A header, and a payload that is no message. -/
  | malformed {header : Header} (hheader : Header.ofBytes data = .ok header)
    (hwhole : Header.size + header.length.toNat ≤ data.size)
    (hread : Message.ofPayload? (payloadOf data header) = none)
  /-- A header, and a message. -/
  | whole {header : Header} {message : Message} (hheader : Header.ofBytes data = .ok header)
    (hwhole : Header.size + header.length.toNat ≤ data.size)
    (hread : Message.ofPayload? (payloadOf data header) = some message)

theorem front (data : ByteArray) : Front data := by
  rcases Nat.lt_or_ge data.size Header.size with hshort | hlong
  · exact .short hshort
  rcases hheader : Header.ofBytes data with fault | header
  · exact .refused hlong hheader
  rcases Nat.lt_or_ge data.size (Header.size + header.length.toNat) with hpiece | hwhole
  · exact .piece hlong hheader hpiece
  rcases hread : Message.ofPayload? (payloadOf data header) with - | message
  · exact .malformed hheader hwhole hread
  · exact .whole hheader hwhole hread

variable {data : ByteArray} {header : Header} {fault : FrameError} {message : Message} {size : Nat}

theorem decode_of_short (hshort : data.size < Header.size) :
    decode data = .error (.incomplete Header.size data.size) := by
  rw [decode, Header.ofBytes, if_pos hshort]
  rfl

theorem decode_of_refused (hheader : Header.ofBytes data = .error fault) :
    decode data = .error fault := by
  rw [decode, hheader]
  rfl

theorem decode_of_piece (hheader : Header.ofBytes data = .ok header)
    (hpiece : data.size < Header.size + header.length.toNat) :
    decode data = .error (.incomplete (Header.size + header.length.toNat) data.size) := by
  rw [decode, hheader]
  simp only [bind, Except.bind]
  rw [if_pos hpiece]
  rfl

theorem decode_of_malformed (hheader : Header.ofBytes data = .ok header)
    (hwhole : Header.size + header.length.toNat ≤ data.size)
    (hread : Message.ofPayload? (payloadOf data header) = none) :
    decode data = .error (.malformedPayload "not a message") := by
  rw [payloadOf] at hread
  rw [decode, hheader]
  simp only [bind, Except.bind]
  rw [if_neg (Nat.not_lt.2 hwhole), hread]
  rfl

/-- An answer, where a frame that is not whole yet has none. -/
def patient : Except FrameError (Message × Nat) → Except FrameError (Option (Message × Nat))
  | .ok found => .ok (some found)
  | .error (.incomplete _ _) => .ok none
  | .error fault => .error fault

theorem patient_error (h : ∀ need available, fault ≠ .incomplete need available) :
    patient (.error fault) = .error fault := by
  cases fault with
  | incomplete need available => exact absurd rfl (h need available)
  | _ => rfl

theorem decode?_of_whole (hheader : Header.ofBytes data = .ok header)
    (hwhole : Header.size + header.length.toNat ≤ data.size) :
    decode? data = some <$> decode data := by
  rw [decode?, if_neg (Nat.not_lt.2 (Nat.le_of_add_right_le hwhole)), hheader]
  simp only [bind, Except.bind]
  rw [if_neg (Nat.not_lt.2 hwhole)]

/-- **To wait instead of failing** is all that `decode?` does differently. -/
theorem decode?_eq (data : ByteArray) : decode? data = patient (decode data) := by
  cases front data with
  | short hshort =>
    rw [decode_of_short hshort, decode?, if_pos hshort]
    rfl
  | @refused fault hlong hheader =>
    have hfault : ∀ need available, fault ≠ .incomplete need available := fun need available heq ↦
      Header.ofBytes_ne_incomplete hlong need available (heq ▸ hheader)
    rw [decode_of_refused hheader, patient_error hfault, decode?, if_neg (Nat.not_lt.2 hlong),
      hheader]
    rfl
  | piece hlong hheader hpiece =>
    rw [decode_of_piece hheader hpiece, decode?, if_neg (Nat.not_lt.2 hlong), hheader]
    simp only [bind, Except.bind]
    rw [if_pos hpiece]
    rfl
  | malformed hheader hwhole hread =>
    rw [decode?_of_whole hheader hwhole, decode_of_malformed hheader hwhole hread]
    rfl
  | whole hheader hwhole hread =>
    rw [decode?_of_whole hheader hwhole, decode_eq_ok hheader hwhole hread]
    rfl

/-! ### Answers -/

theorem decode?_eq_some_iff :
    decode? data = .ok (some (message, size)) ↔ decode data = .ok (message, size) := by
  rw [decode?_eq]
  rcases decode data with fault | found
  · cases fault <;> simp [patient]
  · simp [patient]

theorem decode?_eq_none_iff :
    decode? data = .ok none ↔
      ∃ need available, decode data = .error (.incomplete need available) := by
  rw [decode?_eq]
  rcases decode data with fault | found
  · cases fault <;> simp [patient]
  · simp [patient]

theorem decode?_eq_error_iff :
    decode? data = .error fault ↔
      decode data = .error fault ∧ ∀ need available, fault ≠ .incomplete need available := by
  rw [decode?_eq]
  constructor
  · rcases decode data with other | found
    · cases other <;> intro h <;> cases h <;> exact ⟨rfl, nofun⟩
    · exact nofun
  · rintro ⟨hfault, hother⟩
    rw [hfault, patient_error hother]

/-- A frame has the bytes of its header at least, and no more bytes than are there. -/
theorem le_of_decode_eq_ok (h : decode data = .ok (message, size)) :
    Header.size ≤ size ∧ size ≤ data.size := by
  cases front data with
  | short hshort =>
    rw [decode_of_short hshort] at h
    cases h
  | refused _ hheader =>
    rw [decode_of_refused hheader] at h
    cases h
  | piece _ hheader hpiece =>
    rw [decode_of_piece hheader hpiece] at h
    cases h
  | malformed hheader hwhole hread =>
    rw [decode_of_malformed hheader hwhole hread] at h
    cases h
  | whole hheader hwhole hread =>
    rw [decode_eq_ok hheader hwhole hread] at h
    have hsize := (Prod.mk.inj (Except.ok.inj h)).2
    exact ⟨hsize ▸ Nat.le_add_right _ _, hsize ▸ hwhole⟩

/-- A header and its payload are read from their own bytes. -/
theorem read_append (hheader : Header.ofBytes data = .ok header)
    (hwhole : Header.size + header.length.toNat ≤ data.size) (more : ByteArray) :
    Header.ofBytes (data ++ more) = .ok header ∧
      Header.size + header.length.toNat ≤ (data ++ more).size ∧
      payloadOf (data ++ more) header = payloadOf data header := by
  refine ⟨?_, ?_, extract_append_of_le hwhole more⟩
  · rw [Header.ofBytes_append_of_le (Nat.le_of_add_right_le hwhole), hheader]
  · rw [ByteArray.size_append]
    exact Nat.le_add_right_of_le hwhole

/-- **An answer is settled**: no further byte changes it. -/
theorem decode_append_of_settled (h : decode? data ≠ .ok none) (more : ByteArray) :
    decode (data ++ more) = decode data := by
  have hwaits : ∀ {need available : Nat}, decode data ≠ .error (.incomplete need available) :=
    fun heq ↦ h (decode?_eq_none_iff.2 ⟨_, _, heq⟩)
  cases front data with
  | short hshort => exact absurd (decode_of_short hshort) hwaits
  | refused hlong hheader =>
    rw [decode_of_refused hheader]
    exact decode_of_refused ((Header.ofBytes_append_of_le hlong more).trans hheader)
  | piece _ hheader hpiece => exact absurd (decode_of_piece hheader hpiece) hwaits
  | malformed hheader hwhole hread =>
    obtain ⟨hheader', hwhole', hpayload⟩ := read_append hheader hwhole more
    rw [decode_of_malformed hheader hwhole hread,
      decode_of_malformed hheader' hwhole' (hpayload ▸ hread)]
  | whole hheader hwhole hread =>
    obtain ⟨hheader', hwhole', hpayload⟩ := read_append hheader hwhole more
    rw [decode_eq_ok hheader hwhole hread, decode_eq_ok hheader' hwhole' (hpayload ▸ hread)]

theorem decode?_append_of_settled (h : decode? data ≠ .ok none) (more : ByteArray) :
    decode? (data ++ more) = decode? data := by
  rw [decode?_eq, decode_append_of_settled h, decode?_eq]

/-- **A strict beginning of a frame** waits for the rest of it. -/
theorem decode?_of_lt {front more : ByteArray} (h : decode (front ++ more) = .ok (message, size))
    (hlt : front.size < size) : decode? front = .ok none := by
  -- an answer to the beginning would be the answer to the frame, and end before the frame does
  by_contra hsettled
  rw [decode_append_of_settled hsettled] at h
  exact absurd (le_of_decode_eq_ok h).2 (Nat.not_le.2 hlt)

/-! ### Several frames in a row -/

/-- The packets of some messages, one behind the other. -/
def encodeAll : List Message → Except FrameError ByteArray
  | [] => .ok ByteArray.empty
  | message :: rest => do
    let first ← encode message
    let others ← encodeAll rest
    pure (first ++ others)

theorem encodeAll_cons_eq_ok {rest : List Message}
    (h : encodeAll (message :: rest) = .ok data) :
    ∃ first others, encode message = .ok first ∧ encodeAll rest = .ok others ∧
      data = first ++ others := by
  rw [encodeAll] at h
  rcases hfirst : encode message with _ | first
  · rw [hfirst] at h
    cases h
  rcases hothers : encodeAll rest with _ | others
  · rw [hfirst, hothers] at h
    cases h
  · rw [hfirst, hothers] at h
    exact ⟨first, others, rfl, rfl, (Except.ok.inj h).symm⟩

/-- A packet that has been written is read back, whatever follows it. -/
theorem decode_encode_append (h : encode message = .ok data) (behind : ByteArray) :
    decode (data ++ behind) = .ok (message, data.size) := by
  rw [encode] at h
  rcases hpacket : Packet.ofMessage message with _ | packet
  · rw [hpacket] at h
    cases h
  · rw [hpacket] at h
    obtain rfl : packet.bytes = data := Except.ok.inj h
    exact decode_append hpacket behind

theorem size_le_of_encode (h : encode message = .ok data) : Header.size ≤ data.size := by
  have hread := decode_encode_append h ByteArray.empty
  exact (le_of_decode_eq_ok hread).1

/-- Every packet has a header, so there are no more packets than headers fit. -/
theorem length_le_of_encodeAll {messages : List Message} (h : encodeAll messages = .ok data) :
    Header.size * messages.length ≤ data.size := by
  induction messages generalizing data with
  | nil => exact Nat.zero_le _
  | cons message rest ih =>
    obtain ⟨first, others, hfirst, hothers, rfl⟩ := encodeAll_cons_eq_ok h
    have hhead := size_le_of_encode hfirst
    have htail := ih hothers
    rw [List.length_cons, Nat.mul_succ, ByteArray.size_append]
    omega

/-- **Frames in a row are read one by one** up to bytes that wait, whatever was read before. -/
theorem messagesFrom_append {messages : List Message} {behind : ByteArray}
    (h : encodeAll messages = .ok data) (hbehind : decode? behind = .ok none) (before : ByteArray)
    {bound : Nat} (hbound : messages.length < bound) (found : List Message) :
    messagesFrom (before ++ (data ++ behind)) bound before.size found =
      ⟨found.reverse ++ messages, none, before.size + data.size⟩ := by
  -- what has been read moves from the front of what follows to the end of what stands before
  induction messages generalizing data before bound found with
  | nil =>
    obtain ⟨bound, rfl⟩ := Nat.exists_eq_succ_of_ne_zero (Nat.ne_of_gt hbound)
    obtain rfl : ByteArray.empty = data := Except.ok.inj h
    rw [ByteArray.empty_append, messagesFrom, ByteArray.size_append,
      ByteArray.extract_append_eq_right rfl rfl, hbehind, List.append_nil]
    rfl
  | cons message rest ih =>
    obtain ⟨bound, rfl⟩ := Nat.exists_eq_succ_of_ne_zero (Nat.ne_of_gt (Nat.zero_lt_of_lt hbound))
    obtain ⟨first, others, hfirst, hothers, rfl⟩ := encodeAll_cons_eq_ok h
    have hread : decode? (first ++ others ++ behind) = .ok (some (message, first.size)) := by
      rw [decode?_eq_some_iff, ByteArray.append_assoc]
      exact decode_encode_append hfirst _
    have hnext : messagesFrom (before ++ first ++ (others ++ behind)) bound
        (before ++ first).size (message :: found) = _ :=
      ih hothers (before ++ first) (Nat.lt_of_succ_lt_succ hbound) (message :: found)
    rw [messagesFrom, ByteArray.size_append, ByteArray.extract_append_eq_right rfl rfl, hread]
    dsimp only
    rw [← ByteArray.size_append, ByteArray.append_assoc, ← ByteArray.append_assoc, hnext]
    simp only [List.reverse_cons, List.append_assoc, List.singleton_append, ByteArray.size_append,
      Nat.add_assoc]

/-- **A buffer of frames** and of bytes that wait is read as the messages of the frames. -/
theorem messages_append {messages : List Message} {behind : ByteArray}
    (h : encodeAll messages = .ok data) (hbehind : decode? behind = .ok none) :
    Frame.messages (data ++ behind) = ⟨messages, none, data.size⟩ := by
  have hbound : messages.length < (data ++ behind).size / Header.size + 1 := by
    have hlength := length_le_of_encodeAll h
    rw [ByteArray.size_append]
    rw [Header.size] at hlength ⊢
    omega
  have hread := messagesFrom_append h hbehind ByteArray.empty hbound []
  rw [ByteArray.empty_append] at hread
  rw [Frame.messages]
  simpa using hread

/-- **Streams of frames are read whole.** Frames in a row, and a strict beginning of one more behind
them, are read as exactly their messages and their bytes; the beginning waits, and nothing is a
fault. On any bytes at all:

* `decode?` finds what `decode` finds, and that lies within the bytes and has a header at least;
* `decode?` has no answer exactly where `decode` misses bytes, and else both have the same fault;
* an answer is the same on whatever goes on from the bytes;
* before the last byte of what is found, there is no answer. -/
theorem streams_are_read_whole :
    (∀ (messages : List Message) (data rest missing : ByteArray) (next : Message),
      encodeAll messages = .ok data → encode next = .ok (rest ++ missing) → missing.size ≠ 0 →
      Frame.messages (data ++ rest) = ⟨messages, none, data.size⟩ ∧ decode? rest = .ok none) ∧
    ∀ data : ByteArray,
      (∀ message size, decode? data = .ok (some (message, size)) ↔
        decode data = .ok (message, size)) ∧
      (∀ message size, decode data = .ok (message, size) →
        Header.size ≤ size ∧ size ≤ data.size) ∧
      (decode? data = .ok none ↔
        ∃ need available, decode data = .error (.incomplete need available)) ∧
      (∀ fault, decode? data = .error fault ↔
        decode data = .error fault ∧ ∀ need available, fault ≠ .incomplete need available) ∧
      (decode? data ≠ .ok none → ∀ more, decode? (data ++ more) = decode? data) ∧
      ∀ message size front more, decode? data = .ok (some (message, size)) →
        data = front ++ more → front.size < size → decode? front = .ok none := by
  refine ⟨fun messages data rest missing next hdata hnext hmissing ↦ ?_, fun data ↦
    ⟨fun _ _ ↦ decode?_eq_some_iff, fun _ _ ↦ le_of_decode_eq_ok, decode?_eq_none_iff,
      fun _ ↦ decode?_eq_error_iff, decode?_append_of_settled, ?_⟩⟩
  · have hwaits : decode? rest = .ok none := by
      have hwhole := decode_encode_append hnext ByteArray.empty
      rw [ByteArray.append_empty] at hwhole
      refine decode?_of_lt hwhole ?_
      rw [ByteArray.size_append]
      omega
    exact ⟨messages_append hdata hwaits, hwaits⟩
  · rintro message size front more hfound rfl hlt
    exact decode?_of_lt (decode?_eq_some_iff.1 hfound) hlt

/-- The packet of a page of a listing. -/
def notesFrame : ByteArray :=
  Packet.bytes ⟨Message.notesPage.payload.size, Message.notesPage.payload, 0, 0⟩

theorem streams_are_read_whole_notesFrame :
    encodeAll [Message.notesPage, Message.notesPage] = .ok (notesFrame ++ notesFrame) ∧
      encode Message.notesPage =
        .ok (notesFrame.extract 0 20 ++ notesFrame.extract 20 notesFrame.size) ∧
      Frame.messages (notesFrame ++ notesFrame ++ notesFrame.extract 0 20) =
        ⟨[Message.notesPage, Message.notesPage], none, 136⟩ ∧
      decode? notesFrame = .ok (some (Message.notesPage, 68)) ∧
      decode? (notesFrame ++ ⟨#[7]⟩) = .ok (some (Message.notesPage, 68)) ∧
      decode? (notesFrame.extract 0 20) = .ok none := by
  have hsize : Message.notesPage.payload.size ≤ Header.maxPayload := by decide +kernel
  have hcut : notesFrame = notesFrame.extract 0 20 ++ notesFrame.extract 20 notesFrame.size := by
    decide +kernel
  have hmissing : (notesFrame.extract 20 notesFrame.size).size ≠ 0 := by decide +kernel
  have hlength : notesFrame.size = 68 := by decide +kernel
  have hencode : encode Message.notesPage = .ok notesFrame := by
    rw [encode, Packet.ofMessage_of_le hsize]
    rfl
  have hall : encodeAll [Message.notesPage, Message.notesPage] =
      .ok (notesFrame ++ notesFrame) := by
    rw [encodeAll, encodeAll, encodeAll, hencode]
    simp only [bind, Except.bind, pure, Except.pure, ByteArray.append_empty]
  obtain ⟨hread, hwaits⟩ := streams_are_read_whole.1 _ _ _ _ _ hall (hcut ▸ hencode) hmissing
  have hfound : decode? notesFrame = .ok (some (Message.notesPage, 68)) := by
    have hwhole := decode_encode_append hencode ByteArray.empty
    rw [ByteArray.append_empty, hlength] at hwhole
    exact ((streams_are_read_whole.2 notesFrame).1 _ _).2 hwhole
  obtain ⟨-, -, -, -, hgrows, -⟩ := streams_are_read_whole.2 notesFrame
  refine ⟨hall, hcut ▸ hencode, ?_, hfound, ?_, hwaits⟩
  · rw [hread, ByteArray.size_append, hlength]
  · have hwhole : decode? notesFrame ≠ .ok none := by simp [hfound]
    rw [hgrows hwhole, hfound]

end Frame

end FileShare
