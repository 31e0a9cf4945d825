import Mathlib.Data.List.Basic
import FileShare.Wire.Packet

/-!
# Cutting a stream at its headers

What the frames of a stream of bytes *are*, said without a reader: sixteen bytes of header, then as
many bytes of payload as the header declares, and again. `cut` does this greedily and stops where no
header can be had, either because fewer than sixteen bytes are left or because the next sixteen are
no header that can be trusted. The last frame may still be short of its payload.

The laws are about streams that grow. A stream is **used up** by packets (`UsedUp`) when it is cut
into them with nothing left over; then

* a further header opens one more packet, once the last packet is complete (`UsedUp.header`);
* further bytes of a payload lengthen the last packet (`UsedUp.payload`);
* anything further is cut on its own, once the last packet is complete (`UsedUp.cut_append`).

No law looks at a reader, a queue or a transport.
-/

namespace FileShare

/-- What a stream of bytes is cut into. -/
structure Cut where
  /-- The frames, in order; only the last one may be short of its payload. -/
  packets : List Packet
  /-- The bytes in which no header could be had. -/
  rest : List UInt8
  /-- What is wrong with the header at the front of `rest`, if it is a whole one. -/
  fault : Option FrameError

/-- The packet that a header and the bytes behind it begin with. -/
def Header.packet (header : Header) (body : List UInt8) : Packet :=
  ⟨header.length.toNat, (body.take header.length.toNat).toByteArray, 0, 0⟩

/-- **Cut a stream greedily at its headers.** -/
def cut (bytes : List UInt8) : Cut :=
  if bytes.length < Header.size then
    ⟨[], bytes, none⟩
  else
    match Header.ofBytes (bytes.take Header.size).toByteArray with
    | .error fault => ⟨[], bytes, some fault⟩
    | .ok header =>
      let next := cut ((bytes.drop Header.size).drop header.length.toNat)
      { next with packets := header.packet (bytes.drop Header.size) :: next.packets }
termination_by bytes.length
decreasing_by
  simp only [Header.size, Nat.not_lt, List.length_drop] at *
  omega

/-! ### One frame at a time -/

theorem cut_of_length_lt {bytes : List UInt8} (h : bytes.length < Header.size) :
    cut bytes = ⟨[], bytes, none⟩ := by
  rw [cut, if_pos h]

theorem cut_of_error {bytes : List UInt8} {fault : FrameError} (hlen : Header.size ≤ bytes.length)
    (h : Header.ofBytes (bytes.take Header.size).toByteArray = .error fault) :
    cut bytes = ⟨[], bytes, some fault⟩ := by
  rw [cut, if_neg (Nat.not_lt.2 hlen), h]

theorem cut_of_ok {bytes : List UInt8} {header : Header} (hlen : Header.size ≤ bytes.length)
    (h : Header.ofBytes (bytes.take Header.size).toByteArray = .ok header) :
    cut bytes =
      { cut ((bytes.drop Header.size).drop header.length.toNat) with
        packets := header.packet (bytes.drop Header.size) ::
          (cut ((bytes.drop Header.size).drop header.length.toNat)).packets } := by
  rw [cut, if_neg (Nat.not_lt.2 hlen), h]

@[simp] theorem cut_nil : cut [] = ⟨[], [], none⟩ :=
  cut_of_length_lt (by simp [Header.size])

/-- The packet of a header whose payload is all there is complete. -/
theorem Header.isComplete_packet_iff {header : Header} {body : List UInt8} :
    (header.packet body).isComplete = true ↔ header.length.toNat ≤ body.length := by
  simp only [Packet.isComplete, Packet.received, packet, List.size_toByteArray, List.length_take,
    beq_iff_eq]
  omega

/-- **What is left over** is a piece of a header, or begins with a header that is refused. -/
theorem cut_rest (bytes : List UInt8) :
    match (cut bytes).fault with
    | none => (cut bytes).rest.length < Header.size
    | some fault => Header.size ≤ (cut bytes).rest.length ∧
        Header.ofBytes ((cut bytes).rest.take Header.size).toByteArray = .error fault := by
  induction bytes using cut.induct with
  | case1 bytes hlen => simpa [cut_of_length_lt hlen] using hlen
  | case2 bytes hlen fault h =>
    simpa [cut_of_error (Nat.not_lt.1 hlen) h] using ⟨Nat.not_lt.1 hlen, h⟩
  | case3 bytes hlen header h ih => rwa [cut_of_ok (Nat.not_lt.1 hlen) h]

/-- **Only the last frame may be short** of its payload. -/
theorem isComplete_of_mem_dropLast_cut {bytes : List UInt8} {packet : Packet}
    (h : packet ∈ (cut bytes).packets.dropLast) : packet.isComplete = true := by
  induction bytes using cut.induct with
  | case1 bytes hlen => simp [cut_of_length_lt hlen] at h
  | case2 bytes hlen fault hheader => simp [cut_of_error (Nat.not_lt.1 hlen) hheader] at h
  | case3 bytes hlen header hheader ih =>
    rw [cut_of_ok (Nat.not_lt.1 hlen) hheader] at h
    generalize bytes.drop Header.size = body at ih h
    rcases hnext : (cut (body.drop header.length.toNat)).packets with - | ⟨next, more⟩
    · rw [hnext] at h
      simp at h
    · rw [hnext, List.dropLast_cons_of_ne_nil (List.cons_ne_nil _ _), ← hnext] at h
      rcases List.mem_cons.1 h with rfl | hmore
      · -- something is cut behind the payload, so the payload is all there
        rw [Header.isComplete_packet_iff]
        by_contra hshort
        rw [List.drop_eq_nil_of_le (Nat.le_of_lt (Nat.not_le.1 hshort)), cut_nil] at hnext
        exact absurd hnext (by simp)
      · exact ih hmore

/-- No frame holds more than its header declares. -/
theorem received_le_of_mem_cut {bytes : List UInt8} {packet : Packet}
    (h : packet ∈ (cut bytes).packets) : packet.received ≤ packet.length := by
  induction bytes using cut.induct with
  | case1 bytes hlen => simp [cut_of_length_lt hlen] at h
  | case2 bytes hlen fault hheader => simp [cut_of_error (Nat.not_lt.1 hlen) hheader] at h
  | case3 bytes hlen header hheader ih =>
    rw [cut_of_ok (Nat.not_lt.1 hlen) hheader] at h
    rcases List.mem_cons.1 h with rfl | hmore
    · rw [Packet.received, Header.packet, List.size_toByteArray]
      exact List.length_take_le _ _
    · exact ih hmore

/-- **Each frame takes a header's worth of bytes** at least. -/
theorem size_mul_length_packets_le (bytes : List UInt8) :
    Header.size * (cut bytes).packets.length ≤ bytes.length := by
  induction bytes using cut.induct with
  | case1 bytes hlen =>
    rw [cut_of_length_lt hlen]
    exact Nat.zero_le _
  | case2 bytes hlen fault hheader =>
    rw [cut_of_error (Nat.not_lt.1 hlen) hheader]
    exact Nat.zero_le _
  | case3 bytes hlen header hheader ih =>
    rw [cut_of_ok (Nat.not_lt.1 hlen) hheader, List.length_cons]
    simp only [List.length_drop, Header.size] at ih hlen ⊢
    omega

/-! ### Streams that grow -/

/-- A stream is **used up** by packets: it is cut into them and nothing is left over. -/
def UsedUp (bytes : List UInt8) (packets : List Packet) : Prop :=
  cut bytes = ⟨packets, [], none⟩

/-- The last packet, if there is one, is complete. -/
def LastComplete (packets : List Packet) : Prop :=
  ∀ packet ∈ packets.getLast?, packet.isComplete = true

namespace UsedUp

theorem nil : UsedUp [] [] := cut_nil

/-- Too few bytes for a header are used up only if there are none. -/
theorem eq_nil_of_length_lt {bytes : List UInt8} {packets : List Packet} (h : UsedUp bytes packets)
    (hlen : bytes.length < Header.size) : bytes = [] ∧ packets = [] := by
  rw [UsedUp, cut_of_length_lt hlen] at h
  obtain ⟨rfl, rfl, -⟩ := Cut.mk.inj h
  exact ⟨rfl, rfl⟩

/-- A stream that begins with a header is used up by its packet, and what follows by the others. -/
theorem exists_of_ok {bytes : List UInt8} {packets : List Packet} {header : Header}
    (h : UsedUp bytes packets) (hlen : Header.size ≤ bytes.length)
    (hheader : Header.ofBytes (bytes.take Header.size).toByteArray = .ok header) :
    ∃ more, packets = header.packet (bytes.drop Header.size) :: more ∧
      UsedUp ((bytes.drop Header.size).drop header.length.toNat) more := by
  rw [UsedUp, cut_of_ok hlen hheader] at h
  obtain ⟨rfl, hrest, hfault⟩ := Cut.mk.inj h
  exact ⟨_, rfl, by rw [UsedUp, ← hrest, ← hfault]⟩

/-- A refused header is never used up. -/
theorem ne_error {bytes : List UInt8} {packets : List Packet} {fault : FrameError}
    (h : UsedUp bytes packets) (hlen : Header.size ≤ bytes.length) :
    Header.ofBytes (bytes.take Header.size).toByteArray ≠ .error fault := by
  intro hheader
  rw [UsedUp, cut_of_error hlen hheader] at h
  exact absurd (Cut.mk.inj h).2.2 (by simp)

/-- Without packets, nothing is used up. -/
theorem eq_nil {bytes : List UInt8} (h : UsedUp bytes []) : bytes = [] := by
  have hrest := cut_rest bytes
  rw [UsedUp] at h
  rcases Nat.lt_or_ge bytes.length Header.size with hlen | hlen
  · exact (eq_nil_of_length_lt h hlen).1
  · rcases hheader : Header.ofBytes (bytes.take Header.size).toByteArray with fault | header
    · exact absurd hheader (ne_error h hlen)
    · obtain ⟨_, hnil, -⟩ := exists_of_ok h hlen hheader
      exact absurd hnil (by simp)

/-- If something is used up behind a payload, the payload is all there. -/
theorem length_le_of_cons {header : Header} {body : List UInt8} {next : Packet}
    {more : List Packet} (h : UsedUp (body.drop header.length.toNat) (next :: more)) :
    header.length.toNat ≤ body.length := by
  by_contra hshort
  rw [List.drop_eq_nil_of_le (Nat.le_of_lt (Nat.not_le.1 hshort)), UsedUp, cut_nil] at h
  exact absurd (Cut.mk.inj h).1 (by simp)

/-- **Anything behind complete packets** is cut on its own. -/
theorem cut_append {bytes : List UInt8} {packets : List Packet} (h : UsedUp bytes packets)
    (hlast : LastComplete packets) (more : List UInt8) :
    cut (bytes ++ more) = { cut more with packets := packets ++ (cut more).packets } := by
  -- The induction is along the cut of the first bytes: its frames are cut off the longer stream
  -- one by one, and only the last of them could have reached into what follows.
  induction bytes using cut.induct generalizing packets with
  | case1 bytes hlen =>
    obtain ⟨rfl, rfl⟩ := h.eq_nil_of_length_lt hlen
    rfl
  | case2 bytes hlen fault hheader => exact absurd hheader (h.ne_error (Nat.not_lt.1 hlen))
  | case3 bytes hlen header hheader ih =>
    have hlen := Nat.not_lt.1 hlen
    obtain ⟨later, rfl, hlater⟩ := h.exists_of_ok hlen hheader
    generalize hbody : bytes.drop Header.size = body at ih hlater hlast ⊢
    have hfull : header.length.toNat ≤ body.length := by
      rcases later with - | ⟨next, later⟩
      · exact Header.isComplete_packet_iff.1 (hlast _ rfl)
      · exact hlater.length_le_of_cons
    have hlast' : LastComplete later := by
      intro packet hp
      rcases later with - | ⟨next, later⟩
      · simp at hp
      · exact hlast packet (by simpa using hp)
    have htake : (bytes ++ more).take Header.size = bytes.take Header.size :=
      List.take_append_of_le_length hlen
    have hdrop : (bytes ++ more).drop Header.size = body ++ more := by
      rw [List.drop_append_of_le_length hlen, hbody]
    have hpacket : header.packet (body ++ more) = header.packet body := by
      rw [Header.packet, List.take_append_of_le_length hfull, Header.packet]
    have hlen' : Header.size ≤ (bytes ++ more).length := by
      rw [List.length_append]
      omega
    rw [cut_of_ok hlen' (htake ▸ hheader), hdrop, List.drop_append_of_le_length hfull,
      ih hlater hlast', hpacket]
    rfl

/-- **A further header** opens one more packet. -/
theorem header {bytes shown : List UInt8} {packets : List Packet} {header : Header}
    (h : UsedUp bytes packets) (hlast : LastComplete packets) (hlen : shown.length = Header.size)
    (hheader : Header.ofBytes shown.toByteArray = .ok header) :
    UsedUp (bytes ++ shown) (packets ++ [⟨header.length.toNat, ByteArray.empty, 0, 0⟩]) := by
  have hcut : cut shown = ⟨[⟨header.length.toNat, ByteArray.empty, 0, 0⟩], [], none⟩ := by
    rw [cut_of_ok (Nat.le_of_eq hlen.symm) (by rwa [List.take_of_length_le (Nat.le_of_eq hlen)]),
      List.drop_eq_nil_of_le (Nat.le_of_eq hlen), List.drop_nil, cut_nil, Header.packet,
      List.take_nil, List.toByteArray_nil]
  rw [UsedUp, h.cut_append hlast, hcut]

/-- **Further bytes of a payload** lengthen the last packet. -/
theorem payload {bytes data : List UInt8} {packets : List Packet} {packet : Packet}
    (h : UsedUp bytes (packets ++ [packet])) (hdata : data.length ≤ packet.remaining) :
    UsedUp (bytes ++ data) (packets ++ [packet.append data.toByteArray]) := by
  -- Frames before the last one are not touched, so the induction goes down to the frame that grows.
  induction bytes using cut.induct generalizing packets with
  | case1 bytes hlen => exact absurd (h.eq_nil_of_length_lt hlen).2 (by simp)
  | case2 bytes hlen fault hheader => exact absurd hheader (h.ne_error (Nat.not_lt.1 hlen))
  | case3 bytes hlen header hheader ih =>
    have hlen := Nat.not_lt.1 hlen
    obtain ⟨later, hpackets, hlater⟩ := h.exists_of_ok hlen hheader
    generalize hbody : bytes.drop Header.size = body at ih hpackets hlater ⊢
    have htake : (bytes ++ data).take Header.size = bytes.take Header.size :=
      List.take_append_of_le_length hlen
    have hdrop : (bytes ++ data).drop Header.size = body ++ data := by
      rw [List.drop_append_of_le_length hlen, hbody]
    have hlen' : Header.size ≤ (bytes ++ data).length := by
      rw [List.length_append]
      omega
    have hcut := cut_of_ok hlen' (htake ▸ hheader)
    rw [hdrop] at hcut
    rcases packets with - | ⟨first, packets⟩
    · -- the packet that grows is the first one, and nothing stands behind it
      obtain ⟨rfl, rfl⟩ := List.cons.inj hpackets
      have hshort : body.length ≤ header.length.toNat := List.drop_eq_nil_iff.1 hlater.eq_nil
      have hroom : (body ++ data).length ≤ header.length.toNat := by
        simp only [Packet.remaining, Packet.received, Header.packet, List.size_toByteArray,
          List.length_take] at hdata
        rw [List.length_append]
        omega
      have hpacket : header.packet (body ++ data) =
          (header.packet body).append data.toByteArray := by
        have haccepts : (header.packet body).accepts data.toByteArray.size =
            data.toByteArray.size := by
          rw [Packet.accepts, List.size_toByteArray]
          exact Nat.min_eq_left hdata
        rw [Packet.append, haccepts, ByteArray.extract_zero_size, Header.packet, Header.packet,
          List.take_of_length_le hroom, List.take_of_length_le hshort, List.toByteArray_append]
      rw [UsedUp, hcut, List.drop_eq_nil_of_le hroom, hpacket, cut_nil]
      rfl
    · obtain ⟨rfl, rfl⟩ := List.cons.inj hpackets
      -- the first packet is complete, since something was cut behind it
      have hfull : header.length.toNat ≤ body.length := by
        rcases packets with - | ⟨next, packets⟩ <;> exact hlater.length_le_of_cons
      have hpacket : header.packet (body ++ data) = header.packet body := by
        rw [Header.packet, List.take_append_of_le_length hfull, Header.packet]
      have hmore : UsedUp (body.drop header.length.toNat ++ data) _ := ih hlater
      rw [UsedUp, hcut, List.drop_append_of_le_length hfull, hmore, hpacket]
      rfl

end UsedUp

end FileShare
