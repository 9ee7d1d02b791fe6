import DeviceRpc.Proofs.Packet.Updates

/-!
# Updates that are refused

An update looks at its arguments, asks for room and writes, in this order, and nothing is refused
once it writes. So an update that is refused leaves the packet as it was, and what is refused is
told by the arguments, the capacity and the memory alone (`Refuses`, `refused_unchanged`).
-/

namespace DeviceRpc

namespace Update

/-! ## Reasons -/

/-- Why the carrier does not take a text. -/
inductive Unfit (s : String) : Failure → Prop where
  | long (h : carrierSize ≤ (Utf8.encode s).length) :
    Unfit s (Packet.textTooLong (Utf8.encode s).length)
  | zero (short : (Utf8.encode s).length < carrierSize) (h : ¬ ZeroFree s) :
    Unfit s Packet.textHasZero

/-- Why an envelope does not take a payload. -/
inductive Overloads (memory : Memory) (p : Packet) (bs : Bytes) : Failure → Prop where
  | long (h : UInt32.size ≤ bs.length) : Overloads memory p bs (Packet.payloadTooLong bs.length)
  | lacks (counted : bs.length < UInt32.size) (h : p.Lacks memory bs.length) :
    Overloads memory p bs (.outOfMemory bs.length)

/-- What is refused, and why. -/
inductive Refuses (memory : Memory) (p : Packet) : Update → Failure → Prop where
  | kind {field : Field} {value : Value} (h : value.kind ≠ field.kind) :
    Refuses memory p (.set field value) (Packet.mismatch field field.kind value.kind)
  | size (n : Nat) : Refuses memory p (.set .size (.size n)) Packet.sizeIsReadOnly
  | text {s : String} {e : Failure} (h : Unfit s e) : Refuses memory p (.set .text (.text s)) e
  | length {n : UInt32} (h : p.Lacks memory n.toNat) :
    Refuses memory p (.set .length (.u32 n)) (.outOfMemory n.toNat)
  | buffer {bs : Bytes} {e : Failure} (h : Overloads memory p bs e) :
    Refuses memory p (.set .buffer (.bytes bs)) e
  | setText {s : String} {e : Failure} (h : Unfit s e) : Refuses memory p (.setText s) e
  | setLength {n : UInt32} (h : p.Lacks memory n.toNat) :
    Refuses memory p (.setLength n) (.outOfMemory n.toNat)
  | setPayload {bs : Bytes} {e : Failure} (h : Overloads memory p bs e) :
    Refuses memory p (.setPayload bs) e
  | shortName {s : String} (short : (Utf8.encode s).length < carrierSize) (h : ¬ ZeroFree s) :
    Refuses memory p (.setName s) Packet.textHasZero
  | longName {s : String} {e : Failure} (long : carrierSize ≤ (Utf8.encode s).length)
      (h : Overloads memory p (Utf8.encode s ++ [0]) e) : Refuses memory p (.setName s) e
  | grow {size : Nat} (h : p.Lacks memory size) : Refuses memory p (.grow size) (.outOfMemory size)
  | header {bs : Bytes} (h : bs.length < headerSize) :
    Refuses memory p (.decodeHeader bs) (Packet.headerTooShort bs.length)

variable {memory : Memory} {p : Packet}

/-! ## What is refused -/

theorem Unfit.on_setText {s : String} {e : Failure} (h : Unfit s e) :
    (Envelope.setText s).on memory p = (.error e, p) := by
  cases h with
  | long h => rw [Envelope.on_setText, if_pos h]
  | zero short h => rw [Envelope.on_setText, if_neg (Nat.not_le.mpr short), if_neg h]

theorem Overloads.on_setPayload {bs : Bytes} {e : Failure} (h : Overloads memory p bs e) :
    (Envelope.setPayload bs).on memory p = (.error e, p) := by
  cases h with
  | long h => rw [Envelope.on_setPayload, if_pos h]
  | lacks counted h => rw [Envelope.on_setPayload, if_neg (Nat.not_le.mpr counted), if_pos h]

theorem Refuses.perform_eq {u : Update} {e : Failure} (h : Refuses memory p u e) :
    u.perform memory p = (.error e, p) := by
  cases h with
  | kind h => exact perform_set_mismatch memory p h
  | size n => rfl
  | text h | setText h => exact h.on_setText
  | length h | setLength h => exact (Envelope.on_setLength memory p _).trans (if_pos h)
  | buffer h | setPayload h => exact h.on_setPayload
  | shortName short h =>
    exact (Envelope.on_setName memory p _).trans ((if_pos short).trans (if_neg h))
  | longName long h =>
    have named := (Envelope.on_setName memory p _).trans (if_neg (Nat.not_lt.mpr long))
    exact named.trans h.on_setPayload
  | grow h => exact (Envelope.on_grow memory p _).trans (if_pos h)
  | header h => exact (Envelope.on_decodeHeader memory p _).trans (if_pos h)

/-! ## What is not -/

theorem unfit_or_setText (memory : Memory) (p : Packet) (s : String) :
    (∃ e, Unfit s e) ∨ ∃ q, (Envelope.setText s).on memory p = (.ok (), q) := by
  by_cases short : (Utf8.encode s).length < carrierSize
  · by_cases zeroFree : ZeroFree s
    · exact .inr ⟨_, Envelope.setText_ok_iff.mpr ⟨short, zeroFree, rfl⟩⟩
    · exact .inl ⟨_, .zero short zeroFree⟩
  · exact .inl ⟨_, .long (Nat.not_lt.mp short)⟩

theorem overloads_or_setPayload (memory : Memory) (p : Packet) (bs : Bytes) :
    (∃ e, Overloads memory p bs e) ∨ ∃ q, (Envelope.setPayload bs).on memory p = (.ok (), q) := by
  by_cases counted : bs.length < UInt32.size
  · by_cases lacks : p.Lacks memory bs.length
    · exact .inl ⟨_, .lacks counted lacks⟩
    · exact .inr ⟨_, Envelope.setPayload_ok_iff.mpr ⟨counted, lacks, rfl⟩⟩
  · exact .inl ⟨_, .long (Nat.not_lt.mp counted)⟩

theorem lacks_or_setLength (memory : Memory) (p : Packet) (n : UInt32) :
    p.Lacks memory n.toNat ∨ ∃ q, (Envelope.setLength n).on memory p = (.ok (), q) := by
  by_cases lacks : p.Lacks memory n.toNat
  · exact .inl lacks
  · exact .inr ⟨_, Envelope.setLength_ok_iff.mpr ⟨lacks, rfl⟩⟩

theorem refuses_or_set (memory : Memory) (p : Packet) (field : Field) (value : Value) :
    (∃ e, Refuses memory p (.set field value) e) ∨
      ∃ q, (set field value).perform memory p = (.ok (), q) := by
  by_cases kind : value.kind = field.kind
  · cases Fitting.of_kind kind with
    | scalar s v => exact .inr ⟨_, perform_set_scalar memory p s v⟩
    | number slot kind => exact .inr ⟨_, perform_set_number memory p slot kind⟩
    | length n => exact (lacks_or_setLength memory p n).imp_left fun h => ⟨_, .length h⟩
    | text s => exact (unfit_or_setText memory p s).imp_left (Exists.imp fun _ => .text)
    | buffer bs =>
      exact (overloads_or_setPayload memory p bs).imp_left (Exists.imp fun _ => .buffer)
    | size n => exact .inl ⟨_, .size n⟩
  · exact .inl ⟨_, .kind kind⟩

theorem refuses_or_setName (memory : Memory) (p : Packet) (s : String) :
    (∃ e, Refuses memory p (.setName s) e) ∨
      ∃ q, (setName s).perform memory p = (.ok (), q) := by
  by_cases short : (Utf8.encode s).length < carrierSize
  · by_cases zeroFree : ZeroFree s
    · exact .inr ⟨_, Envelope.setName_ok_iff.mpr (.inl ⟨short, zeroFree, rfl⟩)⟩
    · exact .inl ⟨_, .shortName short zeroFree⟩
  · have long := Nat.not_lt.mp short
    exact (overloads_or_setPayload memory p _).imp (Exists.imp fun _ => .longName long)
      (Exists.imp fun _ ok => Envelope.setName_ok_iff.mpr (.inr ⟨long, ok⟩))

/-- What is not refused is carried out. -/
theorem refuses_or_perform (memory : Memory) (p : Packet) (u : Update) :
    (∃ e, Refuses memory p u e) ∨ ∃ q, u.perform memory p = (.ok (), q) := by
  cases u with
  | set field value => exact refuses_or_set memory p field value
  | setText s => exact (unfit_or_setText memory p s).imp_left (Exists.imp fun _ => .setText)
  | setName s => exact refuses_or_setName memory p s
  | setLength n => exact (lacks_or_setLength memory p n).imp_left fun h => ⟨_, .setLength h⟩
  | setPayload bs =>
    exact (overloads_or_setPayload memory p bs).imp_left (Exists.imp fun _ => .setPayload)
  | grow size =>
    by_cases lacks : p.Lacks memory size
    · exact .inl ⟨_, .grow lacks⟩
    · exact .inr ⟨_, Envelope.grow_ok_iff.mpr ⟨lacks, rfl⟩⟩
  | decodeHeader bs =>
    by_cases short : bs.length < headerSize
    · exact .inl ⟨_, .header short⟩
    · exact .inr ⟨_, (Envelope.on_decodeHeader memory p bs).trans (if_neg short)⟩
  | poke off bs => exact .inr ⟨_, Envelope.on_poke memory p off bs⟩
  | setScalar | setF64 | setLimit | clearPayload => exact .inr ⟨_, rfl⟩

/-- An update is refused exactly for these reasons, whatever the packet and the memory, and one
that is refused leaves the whole packet as it was, its trailing bytes included. -/
theorem refused_unchanged (memory : Memory) (p q : Packet) (u : Update) (e : Failure) :
    u.perform memory p = (.error e, q) ↔ Refuses memory p u e ∧ q = p := by
  constructor
  · intro performed
    -- the update comes to one thing only, so this is what it is refused with
    obtain ⟨e', refused⟩ | ⟨q', done⟩ := refuses_or_perform memory p u
    · have same := performed.symm.trans refused.perform_eq
      cases same
      exact ⟨refused, rfl⟩
    · cases performed.symm.trans done
  · rintro ⟨refused, rfl⟩
    exact refused.perform_eq

end Update

end DeviceRpc
