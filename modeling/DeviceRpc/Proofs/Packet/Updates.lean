import DeviceRpc.Packet.Envelope
import DeviceRpc.Proofs.Packet.Carrying
import DeviceRpc.Proofs.Packet.Fields

/-!
# What updates come to

An update is written as steps on a packet; here it is said what all of its steps come to, from every
packet and with every memory. One lemma for each update tells both results (`Envelope.on_setPayload`
and its like), and one tells when it is carried out and what it makes of the packet then
(`Envelope.setPayload_ok_iff`). With memory for everything an update comes to what the function of
its name tells (`Update.perform_ample`).
-/

namespace DeviceRpc

/-! ## Steps -/

namespace Envelope

section

variable {α β : Type} (memory : Memory) (p : Packet)

@[simp] theorem on_pure (a : α) : (pure a : Envelope α).on memory p = (.ok a, p) := rfl

@[simp] theorem on_throw (e : Failure) : (throw e : Envelope α).on memory p = (.error e, p) := rfl

@[simp] theorem on_get : (get : Envelope Packet).on memory p = (.ok p, p) := rfl

@[simp] theorem on_read : (read : Envelope Memory).on memory p = (.ok memory, p) := rfl

@[simp] theorem on_modify (f : Packet → Packet) :
    (modify f : Envelope PUnit).on memory p = (.ok (), f p) := rfl

@[simp] theorem on_ite (c : Prop) [Decidable c] (x y : Envelope α) :
    (if c then x else y).on memory p = if c then x.on memory p else y.on memory p := by
  split <;> rfl

@[simp] theorem on_bind (x : Envelope α) (f : α → Envelope β) :
    (x >>= f).on memory p = match x.on memory p with
      | (.ok a, q) => (f a).on memory q
      | (.error e, q) => (.error e, q) := by
  simp only [on, ReaderT.run_bind, ExceptT.run_bind, StateT.run_bind]
  show (match (StateT.run (ReaderT.run x memory).run p : Except Failure α × Packet) with
    | (r, q) => _) = _
  cases (StateT.run (ReaderT.run x memory).run p : Except Failure α × Packet) with
  | mk r q => cases r <;> rfl

end

end Envelope

/-! ## Room -/

namespace Packet

/-- The envelope is too small for so many trailing bytes, and memory for them is not granted. -/
def Lacks (memory : Memory) (p : Packet) (size : Nat) : Prop :=
  p.capacity < size ∧ memory size = false

instance (memory : Memory) (p : Packet) (size : Nat) : Decidable (p.Lacks memory size) :=
  inferInstanceAs (Decidable (_ ∧ _))

/-- The packet once it has room for so many trailing bytes. -/
def grown (size : Nat) (p : Packet) : Packet := { p with trailing := Bytes.grow size p.trailing }

theorem grown_of_le {size : Nat} {p : Packet} (h : size ≤ p.capacity) : p.grown size = p := by
  rw [grown, Bytes.grow_of_le h]

theorem lacks_ample_iff {p : Packet} {size : Nat} :
    p.Lacks .ample size ↔ p.capacity < size ∧ memoryLimit ≤ size := by
  rw [Lacks, Memory.ample, decide_eq_false_iff_not, Nat.not_lt]

end Packet

/-! ## What each update comes to -/

namespace Envelope

variable (memory : Memory) (p : Packet)

theorem on_grow (size : Nat) : (grow size).on memory p =
    if p.Lacks memory size then (.error (.outOfMemory size), p) else (.ok (), p.grown size) := by
  simp only [grow, on_bind, on_get, on_ite, on_read, on_pure, on_modify, on_throw]
  by_cases fits : size ≤ p.capacity
  · -- room that is there is not asked for
    rw [if_pos fits, if_neg fun lacks => Nat.not_lt.mpr fits lacks.1, Packet.grown_of_le fits]
  · rw [if_neg fits]
    cases granted : memory size with
    | true =>
      rw [if_pos rfl, if_neg fun lacks => Bool.noConfusion (granted.symm.trans lacks.2)]
      rfl
    | false => rw [if_neg (by decide), if_pos ⟨Nat.not_le.mp fits, granted⟩]

theorem on_setLength (n : UInt32) : (setLength n).on memory p =
    if p.Lacks memory n.toNat then (.error (.outOfMemory n.toNat), p)
    else (.ok (), { p.grown n.toNat with length := n }) := by
  rw [setLength, on_bind, on_grow]
  by_cases lacks : p.Lacks memory n.toNat
  · rw [if_pos lacks, if_pos lacks]
  · rw [if_neg lacks, if_neg lacks]
    rfl

theorem on_setPayload (bs : Bytes) : (setPayload bs).on memory p =
    if UInt32.size ≤ bs.length then (.error (Packet.payloadTooLong bs.length), p)
    else if p.Lacks memory bs.length then (.error (.outOfMemory bs.length), p)
    else (.ok (), p.withPayload bs) := by
  simp only [setPayload, on_bind, on_ite, on_throw, on_grow, on_modify]
  split
  next => rfl
  next =>
    by_cases lacks : p.Lacks memory bs.length
    · rw [if_pos lacks, if_pos lacks]
    · rw [if_neg lacks, if_neg lacks]
      rfl

theorem contains_zero_iff {s : String} : (Utf8.encode s).contains 0 = true ↔ ¬ ZeroFree s := by
  rw [List.contains_iff_mem, ZeroFree, Classical.not_not]

theorem on_setText (s : String) : (setText s).on memory p =
    if carrierSize ≤ (Utf8.encode s).length then
      (.error (Packet.textTooLong (Utf8.encode s).length), p)
    else if ZeroFree s then (.ok (), { p with carrier := .ofBytes (Utf8.encode s) })
    else (.error Packet.textHasZero, p) := by
  simp only [setText, on_bind, on_ite, on_throw, on_modify, contains_zero_iff, ite_not]

/-- A name is a text without a payload or a payload that ends with a zero. -/
theorem on_setName (s : String) : (setName s).on memory p =
    if (Utf8.encode s).length < carrierSize then
      if ZeroFree s then (.ok (), { p with carrier := .ofBytes (Utf8.encode s), length := 0 })
      else (.error Packet.textHasZero, p)
    else (setPayload (Utf8.encode s ++ [0])).on memory p := by
  simp only [setName, on_bind, on_ite, on_setText, on_modify]
  split
  next short =>
    rw [if_neg (Nat.not_le.mpr short)]
    by_cases zeroFree : ZeroFree s
    · rw [if_pos zeroFree, if_pos zeroFree]
      rfl
    · rw [if_neg zeroFree, if_neg zeroFree]
  next => rfl

theorem on_poke (off : Nat) (bs : Bytes) : (poke off bs).on memory p =
    (.ok (), if off + bs.length ≤ p.capacity then p.poke off bs else p) := by
  simp only [poke, on_bind, on_get, on_ite, on_modify, on_pure]
  split <;> rfl

theorem on_decodeHeader (bs : Bytes) : (decodeHeader bs).on memory p =
    if bs.length < headerSize then (.error (Packet.headerTooShort bs.length), p)
    else (.ok (), p.readHeader bs) := by
  simp only [decodeHeader, on_bind, on_ite, on_throw, on_modify]

/-! ## What is carried out -/

variable {memory p} {q : Packet}

theorem refused_or_ok_iff {c : Prop} [Decidable c] {e : Failure}
    {x : Except Failure Unit × Packet} :
    (if c then (.error e, p) else x) = (.ok (), q) ↔ ¬ c ∧ x = (.ok (), q) := by
  split
  next h => exact ⟨fun refused => (by cases refused), fun ok => absurd h ok.1⟩
  next h => exact ⟨fun ok => ⟨h, ok⟩, fun ok => ok.2⟩

theorem ok_iff {q' : Packet} :
    ((.ok (), q') : Except Failure Unit × Packet) = (.ok (), q) ↔ q = q' := by
  rw [Prod.mk.injEq, eq_comm (a := q)]
  exact and_iff_right rfl

theorem grow_ok_iff {size : Nat} : (grow size).on memory p = (.ok (), q) ↔
    ¬ p.Lacks memory size ∧ q = p.grown size := by
  rw [on_grow, refused_or_ok_iff, ok_iff]

theorem setLength_ok_iff {n : UInt32} : (setLength n).on memory p = (.ok (), q) ↔
    ¬ p.Lacks memory n.toNat ∧ q = { p.grown n.toNat with length := n } := by
  rw [on_setLength, refused_or_ok_iff, ok_iff]

theorem setPayload_ok_iff {bs : Bytes} : (setPayload bs).on memory p = (.ok (), q) ↔
    bs.length < UInt32.size ∧ ¬ p.Lacks memory bs.length ∧ q = p.withPayload bs := by
  rw [on_setPayload, refused_or_ok_iff, refused_or_ok_iff, ok_iff, Nat.not_le]

theorem setText_ok_iff {s : String} : (setText s).on memory p = (.ok (), q) ↔
    (Utf8.encode s).length < carrierSize ∧ ZeroFree s ∧
      q = { p with carrier := .ofBytes (Utf8.encode s) } := by
  rw [on_setText, refused_or_ok_iff, ← ite_not, refused_or_ok_iff, ok_iff, Nat.not_le,
    Classical.not_not]

theorem setName_ok_iff {s : String} : (setName s).on memory p = (.ok (), q) ↔
    (Utf8.encode s).length < carrierSize ∧ ZeroFree s ∧
      q = { p with carrier := .ofBytes (Utf8.encode s), length := 0 } ∨
    carrierSize ≤ (Utf8.encode s).length ∧
      (setPayload (Utf8.encode s ++ [0])).on memory p = (.ok (), q) := by
  rw [on_setName]
  split
  next short =>
    rw [← ite_not, refused_or_ok_iff, ok_iff, Classical.not_not]
    constructor
    · exact fun ok => .inl ⟨short, ok⟩
    · rintro (⟨-, ok⟩ | ⟨long, -⟩)
      · exact ok
      · exact absurd short (Nat.not_lt.mpr long)
  next long =>
    constructor
    · exact fun ok => .inr ⟨Nat.not_lt.mp long, ok⟩
    · rintro (⟨short, -⟩ | ⟨-, ok⟩)
      · exact absurd short long
      · exact ok

end Envelope

/-! ## Writing a field -/

namespace Update

variable (memory : Memory) (p : Packet)

theorem perform_set_mismatch {field : Field} {value : Value} (h : value.kind ≠ field.kind) :
    (set field value).perform memory p
      = (.error (Packet.mismatch field field.kind value.kind), p) := by
  show (Envelope.set field value).on memory p = _
  unfold Envelope.set
  rw [Envelope.on_ite, if_pos h]
  rfl

theorem perform_set_scalar (s : Scalar) (v : UInt16) :
    (set s.field (.u16 v)).perform memory p = (.ok (), p.setScalar s v) := by
  cases s <;> rfl

theorem perform_set_number {field : Field} {value : Value} {s : Slot} (slot : field.slot? = some s)
    (kind : value.kind = field.kind) :
    (set field value).perform memory p = (.ok (), p.writeSlot s value.toNat) := by
  show (Envelope.set field value).on memory p = _
  unfold Envelope.set
  rw [Envelope.on_ite, if_neg fun differs => differs kind]
  cases field with
  | u16 i | u32 i | f32 i | f64 i | u64 i =>
    cases slot
    rfl
  | _ => cases slot

/-! ## With memory for everything -/

/-- What the function of an update's name makes of a packet. -/
def change : Update → Packet → Except Failure Packet
  | .set field value, p => p.set field value
  | .setScalar s v, p => .ok (p.setScalar s v)
  | .setF64 h x, p => .ok (p.setF64 h x)
  | .setLimit n, p => .ok (p.setLimit n)
  | .setText s, p => p.setText s
  | .setName s, p => p.setName s
  | .setLength n, p => p.setLength n
  | .setPayload bs, p => p.setPayload bs
  | .clearPayload, p => .ok p.clearPayload
  | .grow size, p => p.grow size
  | .poke off bs, p => .ok (if off + bs.length ≤ p.capacity then p.poke off bs else p)
  | .decodeHeader bs, p => p.decodeHeader bs

/-- A packet changed where it stands: it is left as it was by what is refused. -/
def settled (p : Packet) : Except Failure Packet → Except Failure Unit × Packet
  | .ok q => (.ok (), q)
  | .error e => (.error e, p)

theorem not_lacks_ample {size : Nat} (h : size < Packet.memoryLimit) (p : Packet) :
    ¬ p.Lacks .ample size :=
  fun lacks => Nat.not_le.mpr h (Packet.lacks_ample_iff.mp lacks).2

theorem grow_ample (p : Packet) (size : Nat) :
    (Envelope.grow size).on .ample p = settled p (p.grow size) := by
  rw [Envelope.on_grow, Packet.grow]
  by_cases fits : size ≤ p.capacity
  · rw [if_pos fits, if_neg fun lacks => Nat.not_lt.mpr fits lacks.1, Packet.grown_of_le fits]
    rfl
  · rw [if_neg fits]
    by_cases much : Packet.memoryLimit ≤ size
    · rw [if_pos much, if_pos (Packet.lacks_ample_iff.mpr ⟨Nat.not_le.mp fits, much⟩)]
      rfl
    · rw [if_neg much, if_neg (not_lacks_ample (Nat.not_le.mp much) p)]
      rfl

theorem setLength_ample (p : Packet) (n : UInt32) :
    (Envelope.setLength n).on .ample p = settled p (p.setLength n) := by
  have room := Packet.length_lt_memoryLimit n
  rw [Envelope.on_setLength, if_neg (not_lacks_ample room p), Packet.setLength,
    Packet.grow_of_lt room]
  rfl

theorem setPayload_ample (p : Packet) (bs : Bytes) :
    (Envelope.setPayload bs).on .ample p = settled p (p.setPayload bs) := by
  rw [Envelope.on_setPayload]
  by_cases long : UInt32.size ≤ bs.length
  · rw [if_pos long, Packet.setPayload_of_le long]
    rfl
  · have counted := Nat.not_le.mp long
    have room : bs.length < Packet.memoryLimit := Nat.lt_trans counted (by decide)
    rw [if_neg long, if_neg (not_lacks_ample room p), Packet.setPayload_of_lt counted]
    rfl

theorem setText_settled (memory : Memory) (p : Packet) (s : String) :
    (Envelope.setText s).on memory p = settled p (p.setText s) := by
  simp only [Envelope.on_setText, Packet.setText, Envelope.contains_zero_iff, ite_not]
  split
  next => rfl
  next => split <;> rfl

theorem setName_ample (p : Packet) (s : String) :
    (Envelope.setName s).on .ample p = settled p (p.setName s) := by
  unfold Packet.setName
  by_cases short : (Utf8.encode s).length < carrierSize
  · simp only [Envelope.setName, Envelope.on_bind, if_pos short, setText_settled]
    cases p.setText s <;> rfl
  · rw [Envelope.on_setName, if_neg short, if_neg short, setPayload_ample]

theorem set_ample (p : Packet) (field : Field) (value : Value) :
    (Update.set field value).perform .ample p = settled p (p.set field value) := by
  by_cases kind : value.kind = field.kind
  · cases Fitting.of_kind kind with
    | scalar s v => rw [perform_set_scalar, Packet.set_scalar, settled]
    | number slot kind =>
      rw [perform_set_number .ample p slot kind, Packet.set_number p slot kind, settled]
    | length n => exact setLength_ample p n
    | text s => exact setText_settled .ample p s
    | buffer bs => exact setPayload_ample p bs
    | size n => rfl
  · rw [perform_set_mismatch .ample p kind, Packet.set_mismatch p kind, settled]

/-- With memory for everything an update comes to what the function of its name tells. -/
theorem perform_ample (u : Update) (p : Packet) :
    u.perform .ample p = settled p (u.change p) := by
  cases u with
  | set field value => exact set_ample p field value
  | setText s => exact setText_settled .ample p s
  | setName s => exact setName_ample p s
  | setLength n => exact setLength_ample p n
  | setPayload bs => exact setPayload_ample p bs
  | grow size => exact grow_ample p size
  | decodeHeader bs =>
    show (Envelope.decodeHeader bs).on .ample p = settled p (p.decodeHeader bs)
    rw [Envelope.on_decodeHeader, Packet.decodeHeader]
    split <;> rfl
  | poke off bs => exact Envelope.on_poke .ample p off bs
  | setScalar | setF64 | setLimit | clearPayload => rfl

end Update

end DeviceRpc
