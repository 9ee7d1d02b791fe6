import DeviceRpc.Proofs.Packet.Content
import DeviceRpc.Proofs.Text.Utf8

/-!
# Numbers and names in packets

What commands write into a packet they read back from it: a number from the slot it was written to,
and another slot keeps its own. A name without zero bytes is written into the carrier or, if it is
longer, into the payload with a zero behind it, and either way the packet then carries that name
(`setName_name`). Which name a packet carries is told by the bytes where it has it
(`name_eq_ok_iff`).
-/

namespace DeviceRpc

/-! ## Numbers -/

namespace Carrier

theorem read_write_same (s : Slot) (v : Nat) (c : Carrier) :
    (c.write s v).read s = v % Nat.pow 256 s.width := by
  have inside : s.offset ≤ c.bytes.length := by
    rw [c.length_bytes]
    exact Nat.le_trans (Nat.le_add_right ..) s.fits
  have written : Bytes.window s.offset (Bytes.ofNat s.width v).length
      (Bytes.splice s.offset (Bytes.ofNat s.width v) c.bytes) = Bytes.ofNat s.width v :=
    Bytes.window_splice inside
  rw [Bytes.length_ofNat] at written
  rw [read, write, written, Bytes.toNat_ofNat]

/-- Writing behind a slot leaves it alone. -/
theorem read_write_behind {s s' : Slot} (h : s.offset + s.width ≤ s'.offset) (v : Nat) (c : Carrier) :
    (c.write s' v).read s = c.read s := by
  have fits := s'.fits
  have before : (c.bytes.take s'.offset).length = s'.offset := by
    rw [List.length_take, c.length_bytes]
    omega
  have front : Bytes.window s.offset s.width (c.bytes.take s'.offset)
      = Bytes.window s.offset s.width c.bytes := by
    have all : Bytes.window s.offset s.width (c.bytes.take s'.offset ++ c.bytes.drop s'.offset) = _ :=
      Packet.window_append_of_le (by rw [before]; exact h)
    rw [List.take_append_drop] at all
    exact all.symm
  show Bytes.toNat (Bytes.window s.offset s.width (Bytes.splice s'.offset _ c.bytes)) = _
  rw [Bytes.splice, List.append_assoc, Packet.window_append_of_le (by rw [before]; exact h), front,
    read]

theorem bytes_ofBytes {bs : Bytes} (h : bs.length ≤ carrierSize) :
    (ofBytes bs).bytes = bs ++ List.replicate (carrierSize - bs.length) 0 := by
  show Bytes.grow carrierSize (bs.take carrierSize) = _
  rw [List.take_of_length_le h, Bytes.grow]

end Carrier

namespace Packet

theorem f64_setF64 (h : Half) (x : Binary64) (p : Packet) : (p.setF64 h x).f64 h = x := by
  have small : x.bits.toNat < Nat.pow 256 8 := x.bits.toNat_lt
  have width : h.slot.width = 8 := by cases h <;> rfl
  rw [f64, setF64, readSlot, writeSlot, Carrier.read_write_same, width, Nat.mod_eq_of_lt small,
    UInt64.ofNat_toNat]

theorem f64_first_setF64_second (x : Binary64) (p : Packet) :
    (p.setF64 .second x).f64 .first = p.f64 .first := by
  have apart : Half.first.slot.offset + Half.first.slot.width ≤ Half.second.slot.offset :=
    Nat.le_refl 8
  rw [f64, setF64, readSlot, writeSlot, Carrier.read_write_behind apart, f64, readSlot]

theorem limit_setLimit (n : UInt32) (p : Packet) : (p.setLimit n).limit = n := by
  have small : n.toNat < Nat.pow 256 4 := n.toNat_lt
  unfold limit setLimit readSlot writeSlot
  rw [Carrier.read_write_same]
  show UInt32.ofNat (n.toNat % Nat.pow 256 4) = n
  rw [Nat.mod_eq_of_lt small, UInt32.ofNat_toNat]

end Packet

/-! ## Names -/

/-- A text that is written without zero bytes. -/
def ZeroFree (s : String) : Prop := 0 ∉ Utf8.encode s

instance (s : String) : Decidable (ZeroFree s) := inferInstanceAs (Decidable (0 ∉ Utf8.encode s))

theorem untilZero_append_of_notMem {bs : Bytes} (h : 0 ∉ bs) (rest : Bytes) :
    Bytes.untilZero (bs ++ rest) = bs ++ Bytes.untilZero rest := by
  refine List.takeWhile_append_of_pos ?_
  intro b mem
  exact decide_eq_true fun zero => h (zero ▸ mem)

theorem untilZero_append {bs : Bytes} (h : 0 ∉ bs) (rest : Bytes) :
    Bytes.untilZero (bs ++ 0 :: rest) = bs := by
  rw [untilZero_append_of_notMem h, Bytes.untilZero, List.takeWhile_cons_of_neg (by decide),
    List.append_nil]

theorem zero_notMem_untilZero (bs : Bytes) : 0 ∉ Bytes.untilZero bs := by
  intro mem
  have kept : (Bytes.untilZero bs).all (· ≠ 0) = true := List.all_takeWhile
  rw [List.all_eq_true] at kept
  exact absurd (kept 0 mem) (by decide)

namespace Packet

/-- Where a packet has its name: the bytes before the first zero, of the payload if there is one and
of the carrier if not. -/
def nameBytes (p : Packet) : Bytes :=
  Bytes.untilZero (if p.length = 0 then p.carrier.bytes else p.payload)

theorem name_eq (p : Packet) : ∃ why : Utf8.Fault → String,
    p.name = (Utf8.decode p.nameBytes).mapError fun fault => .decode (why fault) := by
  unfold name text nameBytes
  split
  · exact ⟨_, rfl⟩
  · exact ⟨_, rfl⟩

/-- A packet carries just the name whose text stands there. -/
theorem name_eq_ok_iff {p : Packet} {s : String} : p.name = .ok s ↔ Utf8.encode s = p.nameBytes := by
  obtain ⟨why, read⟩ := p.name_eq
  rw [read, ← Utf8.decode_eq_ok_iff]
  cases Utf8.decode p.nameBytes with
  | error fault => exact ⟨nofun, nofun⟩
  | ok s' =>
    constructor
    · intro same
      cases same
      rfl
    · intro same
      cases same
      rfl

/-- A payload that ends with a zero is where the name stands. -/
theorem nameBytes_withPayload {bs : Bytes} (counted : (bs ++ [0]).length < UInt32.size)
    (p : Packet) : (p.withPayload (bs ++ [0])).nameBytes = Bytes.untilZero (bs ++ [0]) := by
  have some : (p.withPayload (bs ++ [0])).length ≠ 0 := by
    intro zero
    have length := length_withPayload counted p
    rw [zero, List.length_append, List.length_singleton] at length
    exact absurd length (Nat.succ_ne_zero _).symm
  rw [nameBytes, if_neg some, payload_withPayload counted]

/-- Where no text stands, the name is refused as malformed. -/
theorem name_of_no_text {p : Packet} (h : ∀ s, Utf8.encode s ≠ p.nameBytes) :
    ∃ reason, p.name = .error (.decode reason) := by
  obtain ⟨why, read⟩ := p.name_eq
  rw [read]
  cases text : Utf8.decode p.nameBytes with
  | error fault => exact ⟨why fault, rfl⟩
  | ok s => exact absurd (Utf8.decode_eq_ok_iff.mp text) (h s)

/-- A name that a packet carries was written without zero bytes. -/
theorem zeroFree_of_name {p : Packet} {s : String} (h : p.name = .ok s) : ZeroFree s := by
  unfold ZeroFree
  rw [name_eq_ok_iff.mp h]
  exact zero_notMem_untilZero _

/-- Two packets with the same header, up to what they carry. -/
structure Like (p q : Packet) : Prop where
  protocol : p.protocol = q.protocol
  index : p.index = q.index
  command : p.command = q.command
  option : p.option = q.option
  channel : p.channel = q.channel

theorem whole_clearPayload (p : Packet) : p.clearPayload.Whole := rfl

/-- How long a name may be to travel to a reader with this limit. -/
def Carries (maxPayload : Nat) (s : String) : Prop :=
  carrierSize ≤ (Utf8.encode s).length →
    (Utf8.encode s).length + 1 ≤ maxPayload ∧ (Utf8.encode s).length + 1 < UInt32.size

/-- A name that fits into the carrier can travel to every reader. -/
theorem carries_of_lt {s : String} (h : (Utf8.encode s).length < carrierSize) (maxPayload : Nat) :
    Carries maxPayload s := fun long => absurd h (Nat.not_lt.mpr long)

/-- A text that fits into the carrier ends where the zeros begin. -/
theorem text_of_carrier {s : String} (short : (Utf8.encode s).length < carrierSize)
    (zeroFree : ZeroFree s) {p : Packet} (h : p.carrier = .ofBytes (Utf8.encode s)) :
    p.text = .ok s := by
  have fill : carrierSize - (Utf8.encode s).length
      = carrierSize - (Utf8.encode s).length - 1 + 1 := by omega
  rw [text, h, Carrier.bytes_ofBytes (Nat.le_of_lt short), fill, List.replicate_succ,
    untilZero_append zeroFree, Utf8.decode_encode]
  rfl

/-- A name without zero bytes that is not too long is written, and the packet carries it. -/
theorem setName_name {maxPayload : Nat} {s : String} (zeroFree : ZeroFree s)
    (carries : Carries maxPayload s) (p : Packet) :
    ∃ q, p.setName s = .ok q ∧ q.name = .ok s ∧ q.Like p ∧ q.Whole ∧
      q.length.toNat ≤ maxPayload := by
  unfold setName
  by_cases short : (Utf8.encode s).length < carrierSize
  · have noZero : (Utf8.encode s).contains 0 = false := by
      rw [List.contains_eq_mem]
      exact decide_eq_false zeroFree
    refine ⟨{ p with carrier := .ofBytes (Utf8.encode s) }.clearPayload, ?_, ?_,
      ⟨rfl, rfl, rfl, rfl, rfl⟩, whole_clearPayload _, Nat.zero_le _⟩
    · rw [if_pos short, setText, if_neg (Nat.not_le.mpr short), noZero]
      rfl
    · rw [name, if_pos (show (clearPayload _).length = 0 from rfl)]
      exact text_of_carrier short zeroFree rfl
  · obtain ⟨fits, small⟩ := carries (Nat.not_lt.mp short)
    have size : (Utf8.encode s ++ [0]).length = (Utf8.encode s).length + 1 := by
      rw [List.length_append, List.length_singleton]
    have counted : (Utf8.encode s ++ [0]).length < UInt32.size := by rw [size]; exact small
    refine ⟨p.withPayload (Utf8.encode s ++ [0]), ?_, ?_, ⟨rfl, rfl, rfl, rfl, rfl⟩,
      whole_withPayload counted p, ?_⟩
    · rw [if_neg short, setPayload_of_lt counted]
    · rw [name_eq_ok_iff, nameBytes_withPayload counted, untilZero_append zeroFree]
    · rw [length_withPayload counted, size]
      exact fits

/-- Writing a payload changes what the packet carries, and nothing else. -/
theorem setPayload_like {bs : Bytes} {p q : Packet} (h : p.setPayload bs = .ok q) :
    q.Like p ∧ q.Whole := by
  by_cases counted : bs.length < UInt32.size
  · rw [setPayload_of_lt counted] at h
    cases h
    exact ⟨⟨rfl, rfl, rfl, rfl, rfl⟩, whole_withPayload counted p⟩
  · rw [setPayload_of_le (Nat.not_lt.mp counted)] at h
    cases h

/-- Writing a name changes what the packet carries, and nothing else. -/
theorem setName_like {s : String} {p q : Packet} (h : p.setName s = .ok q) : q.Like p ∧ q.Whole := by
  rw [setName] at h
  split at h
  · rw [setText] at h
    split at h
    · cases h
    · split at h
      · cases h
      · cases h
        exact ⟨⟨rfl, rfl, rfl, rfl, rfl⟩, whole_clearPayload _⟩
  · exact setPayload_like h

end Packet

end DeviceRpc
