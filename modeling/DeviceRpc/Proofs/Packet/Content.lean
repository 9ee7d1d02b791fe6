import DeviceRpc.Packet.Frame
import DeviceRpc.Packet.Name

/-!
# The content of a packet

What travels of a packet is its header and its payload; the trailing bytes behind the payload stay
where they are. A packet is `Whole` if its envelope holds all of the payload. Two whole packets with
the same content (`Same`) have the same frame, carry the same name and the same numbers, and stay
the same under every change that commands make. What a change does
to an envelope depends on its capacity only where memory runs out, and no length of thirty-two bits
comes near that.
-/

namespace DeviceRpc

theorem Bytes.grow_of_le {n : Nat} {bs : Bytes} (h : n ≤ bs.length) : Bytes.grow n bs = bs := by
  rw [Bytes.grow, Nat.sub_eq_zero_of_le h, List.replicate_zero, List.append_nil]

namespace Packet

/-- The packet without its trailing bytes. -/
def bare (p : Packet) : Packet := { p with trailing := [] }

/-- As many payload bytes as the packet says. -/
def Whole (p : Packet) : Prop := p.payload.length = p.length.toNat

theorem whole_empty : Packet.empty.Whole := rfl

theorem whole_of_length {p : Packet} (h : p.length = 0) : p.Whole := by
  unfold Whole payload
  rw [h]
  rfl

theorem whole_of_le {p : Packet} (h : p.length.toNat ≤ p.capacity) : p.Whole :=
  List.length_take_of_le h

/-- Two whole packets that differ at most in the trailing bytes behind the payload. -/
structure Same (p q : Packet) : Prop where
  bare : p.bare = q.bare
  payload : p.payload = q.payload
  whole : p.Whole

namespace Same

variable {p q r : Packet}

theorem refl (h : p.Whole) : Same p p := ⟨rfl, rfl, h⟩

theorem symm (h : Same p q) : Same q p where
  bare := h.bare.symm
  payload := h.payload.symm
  whole := by
    have length : p.length = q.length :=
      show p.bare.length = q.bare.length from congrArg Packet.length h.bare
    unfold Whole
    rw [← h.payload, ← length]
    exact h.whole

theorem trans (h : Same p q) (h' : Same q r) : Same p r :=
  ⟨h.bare.trans h'.bare, h.payload.trans h'.payload, h.whole⟩

/-! ## What the content decides -/

theorem protocol (h : Same p q) : p.protocol = q.protocol :=
  show p.bare.protocol = q.bare.protocol from congrArg Packet.protocol h.bare

theorem index (h : Same p q) : p.index = q.index :=
  show p.bare.index = q.bare.index from congrArg Packet.index h.bare

theorem command (h : Same p q) : p.command = q.command :=
  show p.bare.command = q.bare.command from congrArg Packet.command h.bare

theorem option (h : Same p q) : p.option = q.option :=
  show p.bare.option = q.bare.option from congrArg Packet.option h.bare

theorem channel (h : Same p q) : p.channel = q.channel :=
  show p.bare.channel = q.bare.channel from congrArg Packet.channel h.bare

theorem errorCode (h : Same p q) : p.errorCode = q.errorCode :=
  show p.bare.errorCode = q.bare.errorCode from congrArg Packet.errorCode h.bare

theorem length (h : Same p q) : p.length = q.length :=
  show p.bare.length = q.bare.length from congrArg Packet.length h.bare

theorem carrier (h : Same p q) : p.carrier = q.carrier :=
  show p.bare.carrier = q.bare.carrier from congrArg Packet.carrier h.bare

theorem header (h : Same p q) : p.header = q.header :=
  show p.bare.header = q.bare.header from congrArg Packet.header h.bare

theorem frame (h : Same p q) : p.frame = q.frame := by
  rw [Packet.frame, Packet.frame, h.header, h.payload]

theorem length_frame (h : Same p q) : p.frame.length = headerSize + p.length.toNat := by
  unfold Packet.frame
  rw [List.length_append, length_header, h.whole]

theorem f64 (h : Same p q) (half : Half) : p.f64 half = q.f64 half := by
  unfold Packet.f64 readSlot
  rw [h.carrier]

theorem limit (h : Same p q) : p.limit = q.limit := by
  unfold Packet.limit readSlot
  rw [h.carrier]

theorem name (h : Same p q) : p.name = q.name := by
  unfold Packet.name text
  rw [h.length, h.payload, h.carrier]

/-! ## Changes that keep it -/

theorem withErrorCode (h : Same p q) (code : UInt16) :
    Same { p with errorCode := code } { q with errorCode := code } :=
  ⟨congrArg (fun b : Packet => { b with errorCode := code }) h.bare, h.payload, h.whole⟩

theorem withIndex (h : Same p q) (index : UInt16) :
    Same { p with index := index } { q with index := index } :=
  ⟨congrArg (fun b : Packet => { b with index := index }) h.bare, h.payload, h.whole⟩

theorem withChannel (h : Same p q) (channel : UInt16) :
    Same { p with channel := channel } { q with channel := channel } :=
  ⟨congrArg (fun b : Packet => { b with channel := channel }) h.bare, h.payload, h.whole⟩

theorem withCarrier (h : Same p q) (c : Carrier) :
    Same { p with carrier := c } { q with carrier := c } :=
  ⟨congrArg (fun b : Packet => { b with carrier := c }) h.bare, h.payload, h.whole⟩

theorem clearPayload (h : Same p q) : Same p.clearPayload q.clearPayload :=
  ⟨congrArg Packet.clearPayload h.bare, rfl, rfl⟩

theorem setF64 (h : Same p q) (half : Half) (x : Binary64) :
    Same (p.setF64 half x) (q.setF64 half x) :=
  ⟨congrArg (Packet.setF64 half x) h.bare, h.payload, h.whole⟩

end Same

/-! ## Growing -/

theorem length_lt_memoryLimit (n : UInt32) : n.toNat < memoryLimit :=
  Nat.lt_trans n.toNat_lt (by decide)

theorem grow_of_lt {size : Nat} (h : size < memoryLimit) (p : Packet) :
    p.grow size = .ok { p with trailing := Bytes.grow size p.trailing } := by
  unfold grow
  split
  next fits => rw [Bytes.grow_of_le fits]
  next =>
    rw [if_neg (Nat.not_le.mpr h)]

theorem take_splice_zero (new bs : Bytes) :
    (Bytes.splice 0 new bs).take new.length = new := by
  unfold Bytes.splice
  rw [List.take_zero, List.nil_append, List.take_left]

/-- The packet with a payload that thirty-two bits can count. -/
def withPayload (bs : Bytes) (p : Packet) : Packet :=
  { p with
    length := UInt32.ofNat bs.length
    trailing := Bytes.splice 0 bs (Bytes.grow bs.length p.trailing) }

theorem setPayload_of_lt {bs : Bytes} (h : bs.length < UInt32.size) (p : Packet) :
    p.setPayload bs = .ok (p.withPayload bs) := by
  have room : bs.length < memoryLimit := Nat.lt_trans h (by decide)
  rw [setPayload, if_neg (Nat.not_le.mpr h), grow_of_lt room]
  rfl

theorem setPayload_of_le {bs : Bytes} (h : UInt32.size ≤ bs.length) (p : Packet) :
    p.setPayload bs = .error (.invalidArgument
      ("payload of " ++ toString bs.length ++ " bytes exceeds u32")) := by
  unfold setPayload
  rw [if_pos h]

theorem length_withPayload {bs : Bytes} (h : bs.length < UInt32.size) (p : Packet) :
    (p.withPayload bs).length.toNat = bs.length := by
  unfold withPayload
  rw [UInt32.toNat_ofNat']
  exact Nat.mod_eq_of_lt h

theorem payload_withPayload {bs : Bytes} (h : bs.length < UInt32.size) (p : Packet) :
    (p.withPayload bs).payload = bs := by
  unfold payload
  rw [length_withPayload h, withPayload, take_splice_zero]

theorem whole_withPayload {bs : Bytes} (h : bs.length < UInt32.size) (p : Packet) :
    (p.withPayload bs).Whole := by
  rw [Whole, payload_withPayload h, length_withPayload h]

theorem Same.withPayload {p q : Packet} (h : Same p q) {bs : Bytes}
    (small : bs.length < UInt32.size) : Same (p.withPayload bs) (q.withPayload bs) where
  bare := congrArg (fun b : Packet => { b with length := UInt32.ofNat bs.length }) h.bare
  payload := by rw [payload_withPayload small, payload_withPayload small]
  whole := whole_withPayload small p

/-! ## Headers -/

/-- The length that a header announces. -/
def announced (bs : Bytes) : UInt32 := UInt32.ofNat (Bytes.toNat (Bytes.window 12 4 bs))

theorem window_append_of_le {off n : Nat} {a c : Bytes} (h : off + n ≤ a.length) :
    Bytes.window off n (a ++ c) = Bytes.window off n a := by
  have inside : n ≤ (a.drop off).length := by rw [List.length_drop]; omega
  rw [Bytes.window, Bytes.window, List.drop_append_of_le_length (by omega),
    List.take_append_of_le_length inside]

/-- What follows a header does not matter to it. -/
theorem readHeader_append {header : Bytes} (h : header.length = headerSize) (rest : Bytes)
    (p : Packet) : p.readHeader (header ++ rest) = p.readHeader header := by
  have long : header.length = 32 := h
  have carrier : Carrier.ofBytes ((header ++ rest).drop carrierSize)
      = Carrier.ofBytes (header.drop carrierSize) := by
    have inside : carrierSize ≤ (header.drop carrierSize).length := by
      rw [List.length_drop, long]; decide
    have taken : ((header ++ rest).drop carrierSize).take carrierSize
        = (header.drop carrierSize).take carrierSize := by
      rw [List.drop_append_of_le_length (by rw [long]; decide),
        List.take_append_of_le_length inside]
    simp only [Carrier.ofBytes, taken]
  simp only [readHeader, scalarAt, carrier, window_append_of_le, long, Nat.reduceAdd,
    Nat.reduceLeDiff]

theorem announced_append {header : Bytes} (h : header.length = headerSize) (rest : Bytes) :
    announced (header ++ rest) = announced header :=
  congrArg Packet.length (readHeader_append h rest empty)

theorem scalarAt_of_window {bs : Bytes} {off : Nat} {v : UInt16}
    (h : Bytes.window off 2 bs = Bytes.ofNat 2 v.toNat) : scalarAt off bs = v := by
  rw [scalarAt, h, Bytes.toNat_ofNat,
    Nat.mod_eq_of_lt (show v.toNat < Nat.pow 256 2 from v.toNat_lt), UInt16.ofNat_toNat]

theorem announced_header (p : Packet) : announced p.header = p.length := by
  have window : Bytes.window 12 4 p.header = Bytes.ofNat 4 p.length.toNat := rfl
  rw [announced, window, Bytes.toNat_ofNat,
    Nat.mod_eq_of_lt (show p.length.toNat < Nat.pow 256 4 from p.length.toNat_lt),
    UInt32.ofNat_toNat]

theorem ofBytes_bytes (c : Carrier) : Carrier.ofBytes c.bytes = c := by
  have all : c.bytes.take carrierSize = c.bytes :=
    List.take_of_length_le (Nat.le_of_eq c.length_bytes)
  have full : Bytes.grow carrierSize c.bytes = c.bytes :=
    Bytes.grow_of_le (Nat.le_of_eq c.length_bytes.symm)
  cases c with
  | mk bytes length_bytes => simp only [Carrier.ofBytes, all, full]

/-- A header reads back as the packet it was written for. -/
theorem readHeader_header (p q : Packet) :
    q.readHeader p.header = { p with trailing := q.trailing } := by
  have carrier : Carrier.ofBytes (p.header.drop carrierSize) = p.carrier :=
    ofBytes_bytes p.carrier
  have length := announced_header p
  unfold announced at length
  simp only [readHeader, carrier, length]
  congr 1 <;> exact scalarAt_of_window rfl

/-! ## Receiving -/

/-- The packet with a header read into it and the payload behind it. -/
def receive (header payload : Bytes) (p : Packet) : Packet :=
  { p.readHeader header with
    trailing := Bytes.splice 0 payload (Bytes.grow payload.length p.trailing) }

/-- The two parts are the frame's when the header announces as much as there is. -/
structure IsFrame (header payload : Bytes) : Prop where
  length_header : header.length = headerSize
  length_payload : payload.length = (announced header).toNat

theorem Whole.isFrame {p : Packet} (h : p.Whole) : IsFrame p.header p.payload where
  length_header := p.length_header
  length_payload := by rw [announced_header]; exact h

section

variable {header payload : Bytes} (h : IsFrame header payload) (p q : Packet)

include h

theorem payload_receive : (p.receive header payload).payload = payload := by
  have length : (p.receive header payload).length.toNat = payload.length :=
    h.length_payload.symm
  unfold Packet.payload
  rw [length, receive, take_splice_zero]

/-- What is received does not depend on the envelope. -/
theorem same_receive : Same (p.receive header payload) (q.receive header payload) where
  bare := rfl
  payload := by rw [payload_receive h, payload_receive h]
  whole := by rw [Whole, payload_receive h]; exact h.length_payload

theorem ofFrame_append : ofFrame (header ++ payload) = .ok (empty.receive header payload) := by
  have long : ¬ (header ++ payload).length < headerSize := by
    rw [List.length_append, h.length_header]; omega
  have rest : (header ++ payload).drop headerSize = payload := by
    rw [← h.length_header, List.drop_left]
  have size : payload.length < memoryLimit := by
    rw [h.length_payload]; exact length_lt_memoryLimit _
  have read : empty.decodeHeader (header ++ payload) = .ok (empty.readHeader header) := by
    unfold decodeHeader
    rw [if_neg long, readHeader_append h.length_header]
  have length : (empty.readHeader header).length.toNat = payload.length := h.length_payload.symm
  rw [ofFrame, read]
  show (if _ then _ else _) = _
  rw [rest, if_neg (by rw [length]; exact fun ne => ne rfl), grow_of_lt size]
  rfl

end

/-- Bytes behind a header that are not as many as it announces make no frame. -/
theorem ofFrame_refused {header bs : Bytes} (len : header.length = headerSize)
    (other : bs.length ≠ (announced header).toNat) :
    ∃ reason, ofFrame (header ++ bs) = .error (.decode reason) := by
  have long : ¬ (header ++ bs).length < headerSize := by
    rw [List.length_append, len]; omega
  have rest : (header ++ bs).drop headerSize = bs := by rw [← len, List.drop_left]
  have differs : bs.length ≠ (empty.readHeader header).length.toNat := other
  unfold ofFrame decodeHeader
  rw [if_neg long, readHeader_append len]
  show ∃ reason, (if ((header ++ bs).drop headerSize).length ≠ _ then _ else _)
    = Except.error (Failure.decode reason)
  rw [rest, if_pos differs]
  exact ⟨_, rfl⟩

/-- A packet arrives as it was sent. -/
theorem receive_same {p : Packet} (h : p.Whole) (q : Packet) :
    Same (q.receive p.header p.payload) p where
  bare := by
    unfold receive
    rw [readHeader_header p q]
    rfl
  payload := payload_receive h.isFrame q
  whole := (same_receive h.isFrame q q).whole

end Packet

end DeviceRpc
