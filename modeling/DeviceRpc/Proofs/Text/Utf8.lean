import DeviceRpc.Text.Utf8
import Mathlib.Algebra.Group.Nat.Defs

/-!
# Writing and reading texts

A code point above 127 is written as a first byte and some more, each of which carries six bits with
128 added (`tails`). Between two of them the reader has the bits above, how many bytes are owed and
a range for the next one; the range keeps out just the code points that the first byte does not
begin (`lead_begins`).

A text reads back as it was written (`decode_encode`), and bytes that read as a text are those that
it is written as (`encode_of_decode`).
-/

namespace DeviceRpc.Utf8

/-- The last `n` bytes of a code point that has more than one. -/
def tails : (n v : Nat) → Bytes
  | 0, _ => []
  | n + 1, v => UInt8.ofNat (v / 64 ^ n % 64 + 128) :: tails n v

/-- Whether the byte that a code point has next is one that may come. -/
def Inside.Admits (inside : Inside) (v : Nat) : Prop :=
  inside.low.toNat ≤ v / 64 ^ inside.owed % 64 + 128 ∧
    v / 64 ^ inside.owed % 64 + 128 ≤ inside.high.toNat

/-- What the reader knows of a code point. -/
structure Inside.Leads (inside : Inside) (v : Nat) : Prop where
  bits : v / 64 ^ (inside.owed + 1) = inside.bits
  admits : inside.Admits v

theorem toNat_tail (v n : Nat) :
    (UInt8.ofNat (v / 64 ^ n % 64 + 128)).toNat = v / 64 ^ n % 64 + 128 := by
  have small : v / 64 ^ n % 64 < 64 := Nat.mod_lt _ (by decide)
  rw [UInt8.toNat_ofNat', Nat.mod_eq_of_lt (by omega)]

theorem toNat_ofNat_of_valid {v : Nat} (h : v.isValidChar) : (Char.ofNat v).toNat = v := by
  unfold Char.ofNat
  rw [dif_pos h]
  rfl

theorem admits_iff {inside : Inside} {v : Nat} :
    inside.Admits v ↔ inside.low ≤ UInt8.ofNat (v / 64 ^ inside.owed % 64 + 128) ∧
      UInt8.ofNat (v / 64 ^ inside.owed % 64 + 128) ≤ inside.high := by
  rw [UInt8.le_iff_toNat_le, UInt8.le_iff_toNat_le, toNat_tail]
  rfl

/-! ## Reading what was written -/

/-- The bits above a byte and the six of the byte. -/
theorem join_bits {v n bits : Nat} (h : v / 64 ^ (n + 1) = bits) :
    bits * 64 + (UInt8.ofNat (v / 64 ^ n % 64 + 128)).toNat % 64 = v / 64 ^ n := by
  have above : v / 64 ^ n / 64 = bits := by rw [Nat.div_div_eq_div_mul, ← Nat.pow_succ]; exact h
  rw [toNat_tail]
  omega

/-- The bytes that are owed complete the code point. -/
theorem scan_tails (rest : Bytes) (v : Nat) :
    ∀ (inside : Inside) (start : Nat), inside.Leads v →
      ∃ next, scan (some inside) start (tails (inside.owed + 1) v ++ rest)
        = (Char.ofNat v :: ·) <$> scan none next rest
  | ⟨0, low, high, bits, seen⟩, start, leads => by
    have joined : bits * 64 + (UInt8.ofNat (v / 64 ^ 0 % 64 + 128)).toNat % 64 = v / 64 ^ 0 :=
      join_bits leads.bits
    refine ⟨start + seen + 1, ?_⟩
    rw [tails, tails, List.cons_append, List.nil_append, scan, if_pos (admits_iff.mp leads.admits)]
    simp only [joined]
    rw [Nat.pow_zero, Nat.div_one]
  | ⟨owed + 1, low, high, bits, seen⟩, start, leads => by
    rw [tails, List.cons_append, scan, if_pos (admits_iff.mp leads.admits)]
    simp only [join_bits leads.bits]
    refine scan_tails rest v ⟨owed, 0x80, 0xBF, _, _⟩ start ⟨rfl, ?_⟩
    have small : v / 64 ^ owed % 64 < 64 := Nat.mod_lt _ (by decide)
    show 128 ≤ v / 64 ^ owed % 64 + 128 ∧ v / 64 ^ owed % 64 + 128 ≤ 191
    omega
termination_by inside => inside.owed

/-! ## First bytes -/

/-- The bytes of a code point above 127. -/
def long (v : Nat) : Bytes :=
  if v ≤ 0x7FF then UInt8.ofNat (v / 64 + 0xC0) :: tails 1 v
  else if v ≤ 0xFFFF then UInt8.ofNat (v / 4096 + 0xE0) :: tails 2 v
  else UInt8.ofNat (v / 262144 + 0xF0) :: tails 3 v

theorem encodeChar_short {c : Char} (h : c.toNat < 128) :
    String.utf8EncodeChar c = [UInt8.ofNat c.toNat] := by
  rw [String.utf8EncodeChar]
  exact if_pos (Nat.le_of_lt_succ h)

theorem encodeChar_long {c : Char} (h : 128 ≤ c.toNat) : String.utf8EncodeChar c = long c.toNat := by
  have valid : c.toNat < 0xD800 ∨ 0xDFFF < c.toNat ∧ c.toNat < 0x110000 := c.valid
  have value : c.val.toNat = c.toNat := rfl
  rw [String.utf8EncodeChar, long]
  simp only [value, tails, Nat.pow_zero, Nat.div_one, Nat.reducePow]
  rw [if_neg (by omega)]
  by_cases two : c.toNat ≤ 0x7FF
  · have top : c.toNat / 64 % 32 = c.toNat / 64 := Nat.mod_eq_of_lt (by omega)
    rw [if_pos two, if_pos two, top]
  · by_cases three : c.toNat ≤ 0xFFFF
    · have top : c.toNat / 4096 % 16 = c.toNat / 4096 := Nat.mod_eq_of_lt (by omega)
      rw [if_neg two, if_neg two, if_pos three, if_pos three, top]
    · have top : c.toNat / 262144 % 8 = c.toNat / 262144 := Nat.mod_eq_of_lt (by omega)
      rw [if_neg two, if_neg two, if_neg three, if_neg three, top]

/-- What a first byte promises, by its number. -/
def leadOf (n : Nat) : Option Inside :=
  if n < 0xC2 then none
  else if n < 0xE0 then some { owed := 0, bits := n - 0xC0 }
  else if n = 0xE0 then some { owed := 1, low := 0xA0, bits := 0 }
  else if n = 0xED then some { owed := 1, high := 0x9F, bits := 0xD }
  else if n < 0xF0 then some { owed := 1, bits := n - 0xE0 }
  else if n = 0xF0 then some { owed := 2, low := 0x90, bits := 0 }
  else if n < 0xF4 then some { owed := 2, bits := n - 0xF0 }
  else if n = 0xF4 then some { owed := 2, high := 0x8F, bits := 4 }
  else none

theorem lead?_eq (b : UInt8) : lead? b = leadOf b.toNat := by
  simp only [lead?, leadOf, UInt8.lt_iff_toNat_lt, ← UInt8.toNat_inj]
  rfl

theorem toNat_head {n : Nat} (h : n < 256) : (UInt8.ofNat n).toNat = n := by
  rw [UInt8.toNat_ofNat', Nat.mod_eq_of_lt h]

/-- A valid code point above 127 has a first byte, and as many more as that one promises. -/
theorem exists_lead {v : Nat} (h : 128 ≤ v) (valid : v.isValidChar) :
    ∃ b inside, lead? b = some inside ∧ long v = b :: tails (inside.owed + 1) v := by
  have range : v < 0xD800 ∨ 0xDFFF < v ∧ v < 0x110000 := valid
  unfold long
  by_cases two : v ≤ 0x7FF
  · have lead : lead? (UInt8.ofNat (v / 64 + 0xC0)) = some { owed := 0, bits := v / 64 } := by
      rw [lead?_eq, toNat_head (by omega), leadOf, if_neg (by omega), if_pos (by omega),
        Nat.add_sub_cancel]
    rw [if_pos two]
    exact ⟨_, _, lead, rfl⟩
  · by_cases three : v ≤ 0xFFFF
    · have lead : ∃ inside, lead? (UInt8.ofNat (v / 4096 + 0xE0)) = some inside ∧
          inside.owed = 1 := by
        rw [lead?_eq, toNat_head (by omega), leadOf, if_neg (by omega), if_neg (by omega)]
        split
        · exact ⟨_, rfl, rfl⟩
        · split
          · exact ⟨_, rfl, rfl⟩
          · rw [if_pos (by omega)]
            exact ⟨_, rfl, rfl⟩
      obtain ⟨inside, lead, owed⟩ := lead
      rw [if_neg two, if_pos three]
      exact ⟨_, inside, lead, by rw [owed]⟩
    · have lead : ∃ inside, lead? (UInt8.ofNat (v / 262144 + 0xF0)) = some inside ∧
          inside.owed = 2 := by
        rw [lead?_eq, toNat_head (by omega), leadOf, if_neg (by omega), if_neg (by omega),
          if_neg (by omega), if_neg (by omega), if_neg (by omega)]
        split
        · exact ⟨_, rfl, rfl⟩
        · split
          · exact ⟨_, rfl, rfl⟩
          · rw [if_pos (by omega)]
            exact ⟨_, rfl, rfl⟩
      obtain ⟨inside, lead, owed⟩ := lead
      rw [if_neg two, if_neg three]
      exact ⟨_, inside, lead, by rw [owed]⟩

theorem head_iff {n : Nat} {b : UInt8} (h : n < 256) : UInt8.ofNat n = b ↔ n = b.toNat := by
  rw [← UInt8.toNat_inj, toNat_head h]

theorem long_two {v : Nat} {b : UInt8} (limit : v < 0x110000) :
    long v = b :: tails 1 v ↔ v ≤ 0x7FF ∧ v / 64 + 0xC0 = b.toNat := by
  unfold long
  split
  · rw [List.cons.injEq, head_iff (by omega)]
    simp [*]
  · split <;> simp [tails, *]

theorem long_three {v : Nat} {b : UInt8} (limit : v < 0x110000) :
    long v = b :: tails 2 v ↔ 0x7FF < v ∧ v ≤ 0xFFFF ∧ v / 4096 + 0xE0 = b.toNat := by
  unfold long
  split
  · simp [tails]; omega
  · split
    · rw [List.cons.injEq, head_iff (by omega)]
      simp [*]; omega
    · simp [tails, *]

theorem long_four {v : Nat} {b : UInt8} (limit : v < 0x110000) :
    long v = b :: tails 3 v ↔ 0xFFFF < v ∧ v / 262144 + 0xF0 = b.toNat := by
  unfold long
  split
  · simp [tails]; omega
  · split
    · simp [tails]; omega
    · rw [List.cons.injEq, head_iff (by omega)]
      simp [*]; omega

/-- The code points that a first byte leads to are the valid ones that are written with it. -/
theorem leads_iff {b : UInt8} {inside : Inside} (h : lead? b = some inside) (v : Nat) :
    inside.Leads v ↔ v.isValidChar ∧ 128 ≤ v ∧ long v = b :: tails (inside.owed + 1) v := by
  have small : b.toNat < 256 := b.toNat_lt
  have range : v.isValidChar ↔ v < 0xD800 ∨ 0xDFFF < v ∧ v < 0x110000 := Iff.rfl
  have leads {owed : Nat} {low high : UInt8} {bits seen : Nat} :
      (Inside.mk owed low high bits seen).Leads v ↔ v / 64 ^ (owed + 1) = bits ∧
        low.toNat ≤ v / 64 ^ owed % 64 + 128 ∧ v / 64 ^ owed % 64 + 128 ≤ high.toNat :=
    ⟨fun l => ⟨l.bits, l.admits⟩, fun l => ⟨l.1, l.2⟩⟩
  rw [lead?_eq, leadOf] at h
  by_cases limit : v < 0x110000
  · -- one case for each row of the table
    repeat' split at h
    all_goals cases h
    all_goals
      simp only [leads, range, long_two limit, long_three limit, long_four limit, Nat.reduceAdd,
        Nat.reducePow, UInt8.reduceToNat]
      omega
  · have beyond : ¬ inside.Leads v := by
      repeat' split at h
      all_goals cases h
      all_goals
        simp only [leads, Nat.reduceAdd, Nat.reducePow, UInt8.reduceToNat]
        omega
    exact ⟨fun l => absurd l beyond, fun r => absurd (range.mp r.1) (by omega)⟩

/-! ## Whole texts -/

theorem isValidChar_toNat (c : Char) : c.toNat.isValidChar := c.valid

theorem scan_encodeChar (c : Char) (start : Nat) (rest : Bytes) :
    ∃ next, scan none start (String.utf8EncodeChar c ++ rest)
      = (c :: ·) <$> scan none next rest := by
  by_cases ascii : 128 ≤ c.toNat
  · obtain ⟨b, inside, lead, written⟩ := exists_lead ascii (isValidChar_toNat c)
    have leads := (leads_iff lead c.toNat).mpr ⟨isValidChar_toNat c, ascii, written⟩
    obtain ⟨next, read⟩ := scan_tails rest c.toNat inside start leads
    have large : ¬ b < 0x80 := by
      intro small
      rw [lead?_eq, leadOf, if_pos (Nat.lt_trans (UInt8.lt_iff_toNat_lt.mp small) (by decide))] at lead
      cases lead
    refine ⟨next, ?_⟩
    rw [encodeChar_long ascii, written, List.cons_append, scan, if_neg large, lead]
    simp only [read, Char.ofNat_toNat]
  · have small : c.toNat < 128 := Nat.not_le.mp ascii
    have head : (UInt8.ofNat c.toNat).toNat = c.toNat := toNat_head (by omega)
    refine ⟨start + 1, ?_⟩
    rw [encodeChar_short small, List.cons_append, List.nil_append, scan,
      if_pos (UInt8.lt_iff_toNat_lt.mpr (by rw [head]; exact small)), head, Char.ofNat_toNat]

theorem scan_encode : ∀ (cs : List Char) (start : Nat),
    scan none start (cs.flatMap String.utf8EncodeChar) = .ok cs
  | [], _ => rfl
  | c :: cs, start => by
    obtain ⟨next, read⟩ := scan_encodeChar c start (cs.flatMap String.utf8EncodeChar)
    rw [List.flatMap_cons, read, scan_encode cs next]
    rfl

/-- A text reads back as it was written. -/
theorem decode_encode (s : String) : decode (encode s) = .ok s := by
  unfold decode encode
  rw [scan_encode]
  exact congrArg Except.ok (String.ofList_toList ..)

/-- The ranges of continuing bytes. -/
def Inside.InRange (inside : Inside) : Prop := 128 ≤ inside.low.toNat ∧ inside.high.toNat ≤ 191

theorem inRange_of_lead {b : UInt8} {inside : Inside} (h : lead? b = some inside) :
    inside.InRange := by
  rw [lead?_eq, leadOf] at h
  repeat' split at h
  all_goals cases h
  all_goals simp [Inside.InRange]

/-- What completes a character is what it is written with. -/
theorem tails_of_scan : ∀ (inside : Inside) {start : Nat} {bs : Bytes} {cs : List Char},
    inside.InRange → scan (some inside) start bs = .ok cs →
      ∃ v rest cs' next, inside.Leads v ∧ bs = tails (inside.owed + 1) v ++ rest ∧
        cs = Char.ofNat v :: cs' ∧ scan none next rest = .ok cs'
  | _, _, [], _, _, h => by cases h
  | ⟨owed, low, high, bits, seen⟩, start, b :: rest, cs, range, h => by
    unfold scan at h
    split at h
    next inside =>
      have lower : 128 ≤ b.toNat := Nat.le_trans range.1 (UInt8.le_iff_toNat_le.mp inside.1)
      have upper : b.toNat ≤ 191 := Nat.le_trans (UInt8.le_iff_toNat_le.mp inside.2) range.2
      -- whatever comes behind, these six bits are the byte's
      have leads {v : Nat} (six : v / 64 ^ owed = bits * 64 + b.toNat % 64) :
          (Inside.mk owed low high bits seen).Leads v ∧
            UInt8.ofNat (v / 64 ^ owed % 64 + 128) = b := by
        have byte : v / 64 ^ owed % 64 + 128 = b.toNat := by omega
        refine ⟨⟨?_, ?_⟩, by rw [byte, UInt8.ofNat_toNat]⟩
        · rw [Nat.pow_succ, ← Nat.div_div_eq_div_mul, six]
          show _ = bits
          omega
        · rw [admits_iff]
          simp only [byte, UInt8.ofNat_toNat]
          exact inside
      cases owed with
      | zero =>
        simp only at h
        cases read : scan none (start + seen + 1) rest with
        | error fault => rw [read] at h; cases h
        | ok cs' =>
          rw [read] at h
          cases h
          obtain ⟨led, byte⟩ := leads (v := bits * 64 + b.toNat % 64)
            (by rw [Nat.pow_zero, Nat.div_one])
          exact ⟨_, rest, cs', _, led, by rw [tails, byte]; rfl, rfl, read⟩
      | succ owed =>
        obtain ⟨v, rest', cs', next, led, rfl, rfl, read⟩ :=
          tails_of_scan ⟨owed, 0x80, 0xBF, bits * 64 + b.toNat % 64, seen + 1⟩
            ⟨Nat.le_refl 128, Nat.le_refl 191⟩ h
        obtain ⟨led', byte⟩ := leads led.bits
        refine ⟨v, rest', cs', next, led', ?_, rfl, read⟩
        show _ = UInt8.ofNat (v / 64 ^ (owed + 1) % 64 + 128) :: tails (owed + 1) v ++ rest'
        rw [byte]
        rfl
    next => cases h

theorem encode_of_scan (bs : Bytes) : ∀ {start : Nat} {cs : List Char},
    scan none start bs = .ok cs → cs.flatMap String.utf8EncodeChar = bs := by
  induction size : bs.length using Nat.strongRecOn generalizing bs with
  | ind n ih =>
    intro start cs h
    cases bs with
    | nil =>
      cases h
      rfl
    | cons b rest =>
      unfold scan at h
      split at h
      next ascii =>
        have small : b.toNat < 128 := UInt8.lt_iff_toNat_lt.mp ascii
        cases read : scan none (start + 1) rest with
        | error fault => rw [read] at h; cases h
        | ok cs' =>
          rw [read] at h
          cases h
          have value : (Char.ofNat b.toNat).toNat = b.toNat :=
            toNat_ofNat_of_valid (.inl (by omega))
          have written : String.utf8EncodeChar (Char.ofNat b.toNat) = [b] := by
            rw [encodeChar_short (by rw [value]; exact small), value, UInt8.ofNat_toNat]
          rw [List.flatMap_cons, written, ih rest.length (by rw [← size]; exact Nat.lt_succ_self _)
            rest rfl read]
          rfl
      next =>
        cases lead : lead? b with
        | none => rw [lead] at h; cases h
        | some inside =>
          rw [lead] at h
          obtain ⟨v, rest', cs', next, leads, rfl, rfl, read⟩ :=
            tails_of_scan inside (inRange_of_lead lead) h
          obtain ⟨valid, large, written⟩ := (leads_iff lead v).mp leads
          have value := toNat_ofNat_of_valid valid
          have less : rest'.length < n := by
            rw [← size, List.length_cons, List.length_append]
            omega
          rw [List.flatMap_cons, encodeChar_long (by rw [value]; exact large), value, written,
            ih _ less rest' rfl read, List.cons_append]

/-- Bytes that read as a text are those that it is written as. -/
theorem encode_of_decode {bs : Bytes} {s : String} (h : decode bs = .ok s) : encode s = bs := by
  unfold decode at h
  cases read : scan none 0 bs with
  | error fault => rw [read] at h; cases h
  | ok cs =>
    rw [read] at h
    cases h
    unfold encode
    rw [String.toList_ofList]
    exact encode_of_scan bs read

theorem decode_eq_ok_iff {bs : Bytes} {s : String} : decode bs = .ok s ↔ encode s = bs := by
  constructor
  · exact encode_of_decode
  · rintro rfl
    exact decode_encode s

/-! ## Zeros -/

theorem zero_notMem_tails (n v : Nat) : 0 ∉ tails n v := by
  induction n with
  | zero => exact List.not_mem_nil
  | succ n ih =>
    rw [tails, List.mem_cons, not_or]
    refine ⟨fun zero => ?_, ih⟩
    have head := toNat_tail v n
    rw [← zero] at head
    exact absurd head.symm (Nat.succ_ne_zero _)

theorem zero_notMem_long {v : Nat} (limit : v < 0x110000) : 0 ∉ long v := by
  have head {n : Nat} (small : n < 256) (some : 0 < n) : (0 : UInt8) ≠ UInt8.ofNat n := by
    intro zero
    have none : n = 0 := (head_iff small).mp zero.symm
    omega
  unfold long
  split
  · rw [List.mem_cons, not_or]
    exact ⟨head (by omega) (by omega), zero_notMem_tails 1 v⟩
  · split
    · rw [List.mem_cons, not_or]
      exact ⟨head (by omega) (by omega), zero_notMem_tails 2 v⟩
    · rw [List.mem_cons, not_or]
      exact ⟨head (by omega) (by omega), zero_notMem_tails 3 v⟩

/-- Only the character zero is written with a zero byte. -/
theorem zero_mem_encodeChar_iff {c : Char} : 0 ∈ String.utf8EncodeChar c ↔ c = '\x00' := by
  by_cases ascii : c.toNat < 128
  · rw [encodeChar_short ascii, List.mem_singleton, eq_comm, head_iff (by omega)]
    constructor
    · intro zero
      exact Char.toNat_inj.mp zero
    · rintro rfl
      rfl
  · have valid : c.toNat < 0xD800 ∨ 0xDFFF < c.toNat ∧ c.toNat < 0x110000 := c.valid
    rw [encodeChar_long (Nat.not_lt.mp ascii)]
    refine iff_of_false (zero_notMem_long (by omega)) ?_
    rintro rfl
    exact ascii (by decide)

end DeviceRpc.Utf8
