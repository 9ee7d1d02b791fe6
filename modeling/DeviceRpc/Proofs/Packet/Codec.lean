import DeviceRpc.Proofs.Packet.Framing

/-!
# Frames read and written

A frame is written by one function and read by another, and the two share nothing but the format.
Here they are shown to agree in both directions.

- **Exactness.** A header that is read and written again is the thirty-two bytes it was read from
  (`header_readHeader`), since every byte of it has a place in the packet. So a byte string that is
  accepted is the frame of the packet it is read as, and no two byte strings are read as the same.
- **Round trip.** A packet whose envelope holds its payload is read back from its frame, with an
  envelope of its own.

What is accepted is told by the length alone (`ofFrame_eq_ok_iff`).
-/

namespace DeviceRpc

namespace Bytes

theorem toNat_lt (bs : Bytes) : toNat bs < Nat.pow 256 bs.length := by
  induction bs with
  | nil => exact Nat.one_pos
  | cons b bs ih =>
    have low : b.toNat < 256 := b.toNat_lt
    have step : Nat.pow 256 (b :: bs).length = 256 * Nat.pow 256 bs.length := Nat.mul_comm _ _
    rw [toNat, step]
    omega

/-- Reading a number and writing it again gives the bytes it was read from. -/
theorem ofNat_toNat (bs : Bytes) : ofNat bs.length (toNat bs) = bs := by
  induction bs with
  | nil => rfl
  | cons b bs ih =>
    have low : b.toNat < 256 := b.toNat_lt
    have first : UInt8.ofNat (b.toNat + 256 * toNat bs) = b := by
      apply UInt8.toNat.inj
      rw [UInt8.toNat_ofNat', Nat.add_mul_mod_self_left]
      exact Nat.mod_eq_of_lt low
    have rest : (b.toNat + 256 * toNat bs) / 256 = toNat bs := by omega
    rw [List.length_cons, toNat, ofNat, first, rest, ih]

theorem length_window {off n : Nat} {bs : Bytes} (h : off + n ≤ bs.length) :
    (window off n bs).length = n := by
  rw [window, List.length_take, List.length_drop]
  omega

/-- Two windows side by side are one. -/
theorem window_append_window (off n m : Nat) (bs : Bytes) :
    window off n bs ++ window (off + n) m bs = window off (n + m) bs := by
  rw [window, window, window, List.take_add, List.drop_drop]

/-- A window is the number that it spells, written in as many bytes. -/
theorem ofNat_toNat_window {off n : Nat} {bs : Bytes} (h : off + n ≤ bs.length) :
    ofNat n (toNat (window off n bs)) = window off n bs := by
  have whole := ofNat_toNat (window off n bs)
  rwa [length_window h] at whole

theorem toNat_window_lt {off n : Nat} {bs : Bytes} (h : off + n ≤ bs.length) :
    toNat (window off n bs) < Nat.pow 256 n := by
  have bound := toNat_lt (window off n bs)
  rwa [length_window h] at bound

end Bytes

namespace Packet

open Bytes (window)

/-! ## Headers -/

theorem toNat_scalarAt {off : Nat} {bs : Bytes} (h : off + 2 ≤ bs.length) :
    (scalarAt off bs).toNat = Bytes.toNat (window off 2 bs) := by
  rw [scalarAt, UInt16.toNat_ofNat']
  exact Nat.mod_eq_of_lt (Bytes.toNat_window_lt h)

theorem toNat_announced {bs : Bytes} (h : headerSize ≤ bs.length) :
    (announced bs).toNat = Bytes.toNat (window 12 4 bs) := by
  have inside : 12 + 4 ≤ bs.length := Nat.le_trans (by decide) h
  rw [announced, UInt32.toNat_ofNat']
  exact Nat.mod_eq_of_lt (Bytes.toNat_window_lt inside)

/-- A header that is read into any packet is written as it was. -/
theorem header_readHeader {bs : Bytes} (h : headerSize ≤ bs.length) (p : Packet) :
    (p.readHeader bs).header = bs.take headerSize := by
  have long : 32 ≤ bs.length := h
  have scalar (off : Nat) (inside : off + 2 ≤ 32) :
      Bytes.ofNat 2 (scalarAt off bs).toNat = window off 2 bs := by
    have fits : off + 2 ≤ bs.length := Nat.le_trans inside long
    rw [toNat_scalarAt fits, Bytes.ofNat_toNat_window fits]
  have length : Bytes.ofNat 4 (announced bs).toNat = window 12 4 bs := by
    rw [toNat_announced h, Bytes.ofNat_toNat_window (Nat.le_trans (by decide) long)]
  have carrier : (Carrier.ofBytes (bs.drop carrierSize)).bytes = window 16 16 bs := by
    exact Bytes.grow_of_le (Nat.le_of_eq (Bytes.length_window long).symm)
  calc (p.readHeader bs).header
      = window 0 2 bs ++ window 2 2 bs ++ window 4 2 bs ++ window 6 2 bs ++ window 8 2 bs
          ++ window 10 2 bs ++ window 12 4 bs ++ window 16 16 bs := by
        rw [← scalar 0 (by decide), ← scalar 2 (by decide), ← scalar 4 (by decide),
          ← scalar 6 (by decide), ← scalar 8 (by decide), ← scalar 10 (by decide), ← length,
          ← carrier]
        rfl
    _ = window 0 32 bs := by
        rw [Bytes.window_append_window 0 2 2, Bytes.window_append_window 0 4 2,
          Bytes.window_append_window 0 6 2, Bytes.window_append_window 0 8 2,
          Bytes.window_append_window 0 10 2, Bytes.window_append_window 0 12 4,
          Bytes.window_append_window 0 16 16]
    _ = bs.take headerSize := rfl

/-- Reading a header leaves the envelope as it is. -/
theorem decodeHeader_eq_ok {bs : Bytes} (h : headerSize ≤ bs.length) (p : Packet) :
    p.decodeHeader bs = .ok (p.readHeader bs) := by
  unfold decodeHeader
  rw [if_neg (Nat.not_lt.mpr h)]

/-! ## Frames -/

/-- A byte string that is as long as its header says is a header and a payload. -/
theorem IsFramed.isFrame {raw : Bytes} (h : IsFramed raw) :
    IsFrame (raw.take headerSize) (raw.drop headerSize) := by
  have long : headerSize ≤ raw.length := by
    rw [h]
    exact Nat.le_add_right ..
  have len : (raw.take headerSize).length = headerSize := List.length_take_of_le long
  refine ⟨len, ?_⟩
  rw [← announced_append len (raw.drop headerSize), List.take_append_drop, List.length_drop, h,
    Nat.add_sub_cancel_left]

theorem ofFrame_of_framed {raw : Bytes} (h : IsFramed raw) :
    ofFrame raw = .ok (empty.receive (raw.take headerSize) (raw.drop headerSize)) := by
  have read := ofFrame_append h.isFrame
  rwa [List.take_append_drop] at read

/-- Every other byte string is refused, for what it is and not for want of memory. -/
theorem ofFrame_of_not_framed {raw : Bytes} (h : ¬ IsFramed raw) :
    ∃ reason, ofFrame raw = .error (.decode reason) := by
  by_cases short : raw.length < headerSize
  · unfold ofFrame decodeHeader
    rw [if_pos short]
    exact ⟨_, rfl⟩
  · have long : headerSize ≤ raw.length := Nat.not_lt.mp short
    have len : (raw.take headerSize).length = headerSize := List.length_take_of_le long
    have other : (raw.drop headerSize).length ≠ (announced (raw.take headerSize)).toNat := by
      rw [← announced_append len (raw.drop headerSize), List.take_append_drop, List.length_drop]
      intro same
      apply h
      rw [IsFramed, ← same]
      omega
    have refused := ofFrame_refused len other
    rwa [List.take_append_drop] at refused

theorem ofFrame_eq_ok_iff {raw : Bytes} : (∃ p, ofFrame raw = .ok p) ↔ IsFramed raw := by
  constructor
  · rintro ⟨p, read⟩
    apply Classical.byContradiction
    intro other
    obtain ⟨reason, refused⟩ := ofFrame_of_not_framed other
    rw [read] at refused
    cases refused
  · intro framed
    exact ⟨_, ofFrame_of_framed framed⟩

/-- The packet that a byte string is read as, is written as that byte string. -/
theorem frame_of_ofFrame {raw : Bytes} {p : Packet} (h : ofFrame raw = .ok p) : p.frame = raw := by
  have framed : IsFramed raw := ofFrame_eq_ok_iff.mp ⟨p, h⟩
  have isFrame := framed.isFrame
  rw [ofFrame_of_framed framed] at h
  cases h
  have header : (empty.receive (raw.take headerSize) (raw.drop headerSize)).header
      = raw.take headerSize := by
    have written := header_readHeader (Nat.le_of_eq isFrame.length_header.symm) empty
    rwa [List.take_of_length_le (Nat.le_of_eq isFrame.length_header)] at written
  rw [frame, payload_receive isFrame, header, List.take_append_drop]

/-- It has room for its payload, and never less than an empty packet has. -/
theorem capacity_of_ofFrame {raw : Bytes} {p : Packet} (h : ofFrame raw = .ok p) :
    p.capacity = max defaultCapacity p.length.toNat := by
  have framed : IsFramed raw := ofFrame_eq_ok_iff.mp ⟨p, h⟩
  have isFrame := framed.isFrame
  rw [ofFrame_of_framed framed] at h
  cases h
  have size : (raw.drop headerSize).length
      = (empty.receive (raw.take headerSize) (raw.drop headerSize)).length.toNat :=
    isFrame.length_payload
  have fits : 0 + (raw.drop headerSize).length
      ≤ (Bytes.grow (raw.drop headerSize).length empty.trailing).length := by
    rw [Bytes.length_grow]
    omega
  have room : empty.trailing.length = defaultCapacity := List.length_replicate
  rw [← size, capacity, receive, Bytes.length_splice fits, Bytes.length_grow, room]

/-- Reading what was written gives the packet, in an envelope of its own. -/
theorem ofFrame_frame {p : Packet} (h : p.Whole) : ∃ q, ofFrame p.frame = .ok q ∧ Same q p :=
  ⟨_, ofFrame_append h.isFrame, receive_same h empty⟩

/-! ## The codec -/

/-- Reading accepts just the byte strings that are as long as their header says, and refuses all
others as malformed. What is accepted is written as it was, from an envelope that fits; a packet
whose envelope holds its payload is read as it was written; and a header alone is written as it was
read, with the envelope left alone. -/
theorem frame_codec (raw : Bytes) (p : Packet) :
    ((∃ q, ofFrame raw = .ok q) ↔
      headerSize ≤ raw.length ∧ raw.length = headerSize + Bytes.toNat (window 12 4 raw)) ∧
    ((¬ ∃ q, ofFrame raw = .ok q) → ∃ reason, ofFrame raw = .error (.decode reason)) ∧
    (∀ q, ofFrame raw = .ok q →
      q.frame = raw ∧ q.capacity = max defaultCapacity q.length.toNat) ∧
    (p.length.toNat ≤ p.capacity → ∃ q, ofFrame p.frame = .ok q ∧ Same q p) ∧
    (headerSize ≤ raw.length → ∃ q, p.decodeHeader raw = .ok q ∧
      q.header = raw.take headerSize ∧ q.trailing = p.trailing ∧ q.capacity = p.capacity) := by
  refine ⟨?_, ?_, ?_, ?_, ?_⟩
  · rw [ofFrame_eq_ok_iff]
    constructor
    · intro framed
      have long : headerSize ≤ raw.length := by
        rw [framed]
        exact Nat.le_add_right ..
      exact ⟨long, toNat_announced long ▸ framed⟩
    · rintro ⟨long, length⟩
      rw [IsFramed, toNat_announced long]
      exact length
  · intro refused
    rw [ofFrame_eq_ok_iff] at refused
    exact ofFrame_of_not_framed refused
  · intro q read
    exact ⟨frame_of_ofFrame read, capacity_of_ofFrame read⟩
  · intro fits
    exact ofFrame_frame (whole_of_le fits)
  · intro long
    exact ⟨_, decodeHeader_eq_ok long p, header_readHeader long p, rfl, rfl⟩

/-- A request by name for the channel of an outlet, whose name is the payload. -/
def channelRequest : Bytes :=
  [6, 0, 1, 0, 24, 0, 0, 0, 0, 0, 0, 0, 5, 0, 0, 0] ++ List.replicate 16 0
    ++ [112, 117, 109, 112, 0]

/-- An envelope with five bytes of payload. -/
def fiveZeros : Packet := { empty with index := 1, length := 5 }

/-- The request is read and written as it is, with one byte more it is refused, an envelope with a
payload is read back, and the request's header can be read into that envelope. -/
theorem codec_channelRequest :
    (∃ q, ofFrame channelRequest = .ok q ∧ q.frame = channelRequest ∧
      q.capacity = max defaultCapacity q.length.toNat) ∧
    (∃ reason, ofFrame (channelRequest ++ [0]) = .error (.decode reason)) ∧
    (∃ q, ofFrame fiveZeros.frame = .ok q ∧ Same q fiveZeros) ∧
    ∃ q, fiveZeros.decodeHeader channelRequest = .ok q ∧
      q.header = channelRequest.take headerSize ∧ q.trailing = fiveZeros.trailing ∧
      q.capacity = fiveZeros.capacity := by
  have room : fiveZeros.length.toNat ≤ fiveZeros.capacity := by
    have size : fiveZeros.capacity = defaultCapacity := List.length_replicate
    rw [size]
    decide
  obtain ⟨accepted, -, exact, roundTrip, header⟩ := frame_codec channelRequest fiveZeros
  obtain ⟨tooLong, refused, -⟩ := frame_codec (channelRequest ++ [0]) fiveZeros
  refine ⟨?_, ?_, roundTrip room, header (by decide)⟩
  · obtain ⟨q, read⟩ := accepted.mpr (by decide)
    exact ⟨q, read, exact q read⟩
  · apply refused
    rw [tooLong]
    decide

end Packet

end DeviceRpc
