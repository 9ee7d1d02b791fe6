import DeviceRpc.Proofs.Packet.Codec
import DeviceRpc.Proofs.Packet.Refusal

/-!
# The envelope through all updates

What an update does to an envelope is told by three things: how much room it asks for
(`Update.room`), what it then writes over the trailing bytes (`Update.lay`) and which length
it leaves. From these, an envelope that holds its payload goes on to hold it (`Kept.holds`): a
length is never written without the room for it. Only a header that is read into a packet says a
length without asking for room, and the room is asked for before the payload is read.
-/

namespace DeviceRpc

namespace Update

/-! ## What each update does to the envelope -/

/-- How many trailing bytes an update needs. -/
def room : Update → Nat
  | .set .length (.u32 n) => n.toNat
  | .set .buffer (.bytes bs) => bs.length
  | .setName s =>
    if (Utf8.encode s).length < carrierSize then 0 else (Utf8.encode s).length + 1
  | .setLength n => n.toNat
  | .setPayload bs => bs.length
  | .grow size => size
  | _ => 0

/-- What an update makes of the trailing bytes, once there is room. -/
def lay : Update → Bytes → Bytes
  | .set .buffer (.bytes bs), old => Bytes.splice 0 bs old
  | .setName s, old =>
    if (Utf8.encode s).length < carrierSize then old
    else Bytes.splice 0 (Utf8.encode s ++ [0]) old
  | .setPayload bs, old => Bytes.splice 0 bs old
  | .poke off bs, old => if off + bs.length ≤ old.length then Bytes.splice off bs old else old
  | _, old => old

variable {memory : Memory} {p q : Packet} {u : Update}

/-- What an update that is carried out makes of an envelope. -/
structure Lays (u : Update) (p q : Packet) : Prop where
  trailing : q.trailing = u.lay (Bytes.grow u.room p.trailing)
  length : q.length = p.length ∨ q.length.toNat ≤ u.room

/-- What asks for no room and writes no trailing byte. -/
theorem Lays.header (room : u.room = 0) (lay : ∀ bs, u.lay bs = bs)
    (trailing : q.trailing = p.trailing) (length : q.length = p.length ∨ q.length = 0) :
    Lays u p q where
  trailing := by rw [lay, room, Bytes.grow_of_le (Nat.zero_le _), trailing]
  length := length.imp_right fun zero => by rw [zero]; exact Nat.zero_le _

theorem lays_setLength {n : UInt32} (room : u.room = n.toNat) (lay : ∀ bs, u.lay bs = bs)
    (done : (Envelope.setLength n).on memory p = (.ok (), q)) : Lays u p q := by
  obtain ⟨-, rfl⟩ := Envelope.setLength_ok_iff.mp done
  exact ⟨by rw [lay, room]; rfl, .inr (Nat.le_of_eq room.symm)⟩

theorem lays_setPayload {bs : Bytes} (room : u.room = bs.length)
    (lay : ∀ old, u.lay old = Bytes.splice 0 bs old)
    (done : (Envelope.setPayload bs).on memory p = (.ok (), q)) : Lays u p q := by
  obtain ⟨counted, -, rfl⟩ := Envelope.setPayload_ok_iff.mp done
  refine ⟨by rw [lay, room]; rfl, .inr ?_⟩
  exact Nat.le_of_eq ((Packet.length_withPayload counted p).trans room.symm)

theorem lays_setText {s : String} (room : u.room = 0) (lay : ∀ bs, u.lay bs = bs)
    (done : (Envelope.setText s).on memory p = (.ok (), q)) : Lays u p q := by
  obtain ⟨-, -, rfl⟩ := Envelope.setText_ok_iff.mp done
  exact .header room lay rfl (.inl rfl)

theorem lays_setName {s : String} (done : (setName s).perform memory p = (.ok (), q)) :
    Lays (.setName s) p q := by
  rcases Envelope.setName_ok_iff.mp done with ⟨short, -, rfl⟩ | ⟨long, written⟩
  · exact .header (if_pos short) (fun _ => if_pos short) rfl (.inr rfl)
  · have notShort := Nat.not_lt.mpr long
    refine lays_setPayload ?_ (fun _ => if_neg notShort) written
    rw [List.length_append, List.length_singleton]
    exact if_neg notShort

theorem lays_set {field : Field} {value : Value}
    (done : (set field value).perform memory p = (.ok (), q)) : Lays (.set field value) p q := by
  by_cases kind : value.kind = field.kind
  · cases Fitting.of_kind kind with
    | scalar s v =>
      rw [perform_set_scalar] at done
      cases done
      cases s <;> exact .header rfl (fun _ => rfl) rfl (.inl rfl)
    | number slot kind =>
      rw [perform_set_number memory p slot kind] at done
      cases done
      cases field with
      | u16 | u32 | f32 | f64 | u64 => exact .header rfl (fun _ => rfl) rfl (.inl rfl)
      | _ => cases slot
    | length n => exact lays_setLength rfl (fun _ => rfl) done
    | text s => exact lays_setText rfl (fun _ => rfl) done
    | buffer bs => exact lays_setPayload rfl (fun _ => rfl) done
    | size n => cases done
  · rw [perform_set_mismatch memory p kind] at done
    cases done

theorem lays_poke {off : Nat} {bs : Bytes} (done : (poke off bs).perform memory p = (.ok (), q)) :
    Lays (.poke off bs) p q := by
  obtain rfl := Envelope.ok_iff.mp ((Envelope.on_poke memory p off bs).symm.trans done)
  have same : Bytes.grow (poke off bs).room p.trailing = p.trailing :=
    Bytes.grow_of_le (Nat.zero_le _)
  by_cases fits : off + bs.length ≤ p.capacity
  · rw [if_pos fits]
    exact ⟨by rw [same]; exact (if_pos fits).symm, .inl rfl⟩
  · rw [if_neg fits]
    exact ⟨by rw [same]; exact (if_neg fits).symm, .inl rfl⟩

/-- Only a header that is read says a length without the room for it. -/
theorem lays_of_perform (other : ∀ bs, u ≠ .decodeHeader bs)
    (done : u.perform memory p = (.ok (), q)) : Lays u p q := by
  cases u with
  | set field value => exact lays_set done
  | setText s => exact lays_setText rfl (fun _ => rfl) done
  | setName s => exact lays_setName done
  | setLength n => exact lays_setLength rfl (fun _ => rfl) done
  | setPayload bs => exact lays_setPayload rfl (fun _ => rfl) done
  | grow size =>
    obtain ⟨-, rfl⟩ := Envelope.grow_ok_iff.mp done
    exact ⟨rfl, .inl rfl⟩
  | poke off bs => exact lays_poke done
  | decodeHeader bs => exact absurd rfl (other bs)
  | setScalar s v =>
    cases done
    cases s <;> exact .header rfl (fun _ => rfl) rfl (.inl rfl)
  | clearPayload =>
    cases done
    exact .header rfl (fun _ => rfl) rfl (.inr rfl)
  | setF64 | setLimit =>
    cases done
    exact .header rfl (fun _ => rfl) rfl (.inl rfl)

/-! ## The capacity -/

theorem length_lay (u : Update) {old : Bytes} (h : u.room ≤ old.length) :
    (u.lay old).length = old.length := by
  have written {off : Nat} {bs : Bytes} (fits : off + bs.length ≤ old.length) :
      (Bytes.splice off bs old).length = old.length := Bytes.length_splice fits
  unfold lay
  split
  case h_1 bs => exact written (by rw [Nat.zero_add]; exact h)
  case h_2 s =>
    split
    next => rfl
    next long =>
      have room : (setName s).room = (Utf8.encode s).length + 1 := if_neg long
      rw [room] at h
      refine written ?_
      rwa [Nat.zero_add, List.length_append, List.length_singleton]
  case h_3 bs => exact written (by rw [Nat.zero_add]; exact h)
  case h_4 off bs =>
    split
    next fits => exact written fits
    next => rfl
  case h_5 => rfl

theorem Lays.capacity (h : Lays u p q) : q.capacity = max p.capacity u.room := by
  have enough : u.room ≤ (Bytes.grow u.room p.trailing).length := by
    rw [Bytes.length_grow]
    exact Nat.le_max_right _ _
  rw [Packet.capacity, h.trailing, length_lay u enough, Bytes.length_grow, Packet.capacity]

theorem Lays.holds (h : Lays u p q) (holds : p.length.toNat ≤ p.capacity) :
    q.length.toNat ≤ q.capacity := by
  rw [h.capacity]
  rcases h.length with same | asked
  · rw [same]
    exact Nat.le_trans holds (Nat.le_max_left _ _)
  · exact Nat.le_trans asked (Nat.le_max_right _ _)

/-- An update is refused and leaves the packet, or it is carried out. -/
theorem perform_cases (other : ∀ bs, u ≠ .decodeHeader bs) (memory : Memory) (p : Packet) :
    (u.perform memory p).2 = p ∨ Lays u p (u.perform memory p).2 := by
  rcases refuses_or_perform memory p u with ⟨e, refused⟩ | ⟨q, done⟩
  · exact .inl (congrArg Prod.snd refused.perform_eq)
  · rw [done]
    exact .inr (lays_of_perform other done)

end Update

/-! ## Through a sequence of updates -/

namespace Packet

/-- A packet as it was made, or read from a frame, after updates of it, each with what memory
there was. -/
inductive Kept : Packet → Prop where
  | made (size : Nat) : Kept (withCapacity size)
  | framed {raw : Bytes} {p : Packet} (read : ofFrame raw = .ok p) : Kept p
  | performed {p : Packet} (kept : Kept p) (memory : Memory) (u : Update)
      (other : ∀ bs, u ≠ .decodeHeader bs) : Kept (u.perform memory p).2

theorem capacity_withCapacity (size : Nat) :
    (withCapacity size).capacity = if size = 0 then defaultCapacity else size :=
  List.length_replicate

theorem Kept.capacity_pos {p : Packet} (kept : Kept p) : 1 ≤ p.capacity := by
  induction kept with
  | made size =>
    rw [capacity_withCapacity]
    split
    next => decide
    next some => exact Nat.pos_of_ne_zero some
  | framed read =>
    rw [capacity_of_ofFrame read]
    exact Nat.le_trans (by decide) (Nat.le_max_left defaultCapacity _)
  | performed kept memory u other ih =>
    rcases Update.perform_cases other memory _ with same | lays
    · rwa [same]
    · rw [lays.capacity]
      exact Nat.le_trans ih (Nat.le_max_left _ _)

theorem Kept.holds {p : Packet} (kept : Kept p) : p.length.toNat ≤ p.capacity := by
  induction kept with
  | made size => exact Nat.zero_le _
  | framed read =>
    rw [capacity_of_ofFrame read]
    exact Nat.le_max_right _ _
  | performed kept memory u other ih =>
    rcases Update.perform_cases other memory _ with same | lays
    · rwa [same]
    · exact lays.holds ih

/-- A payload is written over what was there, and the bytes behind it stay. -/
theorem withPayload_eq (bs : Bytes) (p : Packet) : p.withPayload bs =
    { p with
      length := UInt32.ofNat bs.length
      trailing := bs ++ p.trailing.drop bs.length } := by
  -- the new bytes are all written over
  have new : (List.replicate (bs.length - p.trailing.length) (0 : UInt8)).drop
      (bs.length - p.trailing.length) = [] :=
    List.drop_eq_nil_of_le (Nat.le_of_eq List.length_replicate)
  rw [withPayload, Bytes.splice, List.take_zero, List.nil_append, Nat.zero_add, Bytes.grow,
    List.drop_append, new, List.append_nil]

/-- Whatever was done with an envelope, it holds its payload and is not empty. It never gets
smaller, and an update that is carried out makes it just as large as it needs, if it is not already:
the trailing bytes stay, the new ones are zeros, and over these the update writes what it writes. -/
theorem envelope_kept {p : Packet} (kept : Kept p) :
    p.length.toNat ≤ p.capacity ∧ p.payload.length = p.length.toNat ∧
    p.frame.length = headerSize + p.length.toNat ∧ 1 ≤ p.capacity ∧
    (∀ (memory : Memory) (u : Update), (∀ bs, u ≠ .decodeHeader bs) →
      p.capacity ≤ (u.perform memory p).2.capacity) ∧
    (∀ (memory : Memory) (u : Update) (q : Packet), (∀ bs, u ≠ .decodeHeader bs) →
      u.perform memory p = (.ok (), q) →
      q.capacity = max p.capacity u.room ∧
      q.trailing = u.lay (p.trailing ++ List.replicate (u.room - p.capacity) 0)) ∧
    (∀ memory size q, (Update.grow size).perform memory p = (.ok (), q) ↔
      ¬ p.Lacks memory size ∧ q.capacity = max p.capacity size ∧
      q = { p with trailing := p.trailing ++ List.replicate (size - p.capacity) 0 }) ∧
    (∀ memory bs q, (Update.setPayload bs).perform memory p = (.ok (), q) ↔
      bs.length < UInt32.size ∧ ¬ p.Lacks memory bs.length ∧ q.payload = bs ∧
      q = { p with
        length := UInt32.ofNat bs.length
        trailing := bs ++ p.trailing.drop bs.length }) := by
  have whole := whole_of_le kept.holds
  refine ⟨kept.holds, whole, (Same.refl whole).length_frame, kept.capacity_pos, ?_, ?_, ?_, ?_⟩
  · intro memory u other
    rcases Update.perform_cases other memory p with same | lays
    · exact Nat.le_of_eq (congrArg Packet.capacity same).symm
    · rw [lays.capacity]
      exact Nat.le_max_left _ _
  · intro memory u q other done
    have lays := Update.lays_of_perform other done
    exact ⟨lays.capacity, lays.trailing⟩
  · intro memory size q
    constructor
    · intro done
      obtain ⟨granted, rfl⟩ := Envelope.grow_ok_iff.mp done
      exact ⟨granted, Bytes.length_grow size p.trailing, rfl⟩
    · rintro ⟨granted, -, rfl⟩
      exact Envelope.grow_ok_iff.mpr ⟨granted, rfl⟩
  · intro memory bs q
    have written := withPayload_eq bs p
    constructor
    · intro done
      obtain ⟨counted, granted, rfl⟩ := Envelope.setPayload_ok_iff.mp done
      exact ⟨counted, granted, payload_withPayload counted p, written⟩
    · rintro ⟨counted, granted, -, rfl⟩
      exact Envelope.setPayload_ok_iff.mpr ⟨counted, granted, written.symm⟩

/-- A small envelope after a length that it had no room for and a payload that is shorter. -/
def reused : Packet :=
  ((Update.setPayload [1, 2, 3]).perform .ample
    ((Update.setLength 6).perform .ample (withCapacity 4)).2).2

/-- It can be sent, it keeps its size when a name is refused, and it keeps what it has when it grows
again. -/
theorem envelope_kept_reused :
    Kept reused ∧ reused.frame.length = headerSize + 3 ∧
    6 ≤ ((Update.setName "a\x00").perform .ample reused).2.capacity ∧
    ∃ q, (Update.grow 8).perform .ample reused = (.ok (), q) ∧ q.capacity = 8 ∧
      q.trailing = [1, 2, 3, 0, 0, 0, 0, 0] := by
  have kept : Kept reused :=
    .performed (.performed (.made 4) .ample (.setLength 6) (by rintro _ ⟨⟩)) .ample
      (.setPayload [1, 2, 3]) (by rintro _ ⟨⟩)
  obtain ⟨-, -, frame, -, stays, carriedOut, grown, -⟩ := envelope_kept kept
  have done := (grown .ample 8 _).mpr ⟨by decide, rfl, rfl⟩
  refine ⟨kept, frame, stays .ample (.setName "a\x00") (by rintro _ ⟨⟩), _, done, ?_⟩
  exact carriedOut .ample (.grow 8) _ (by rintro _ ⟨⟩) done

end Packet

end DeviceRpc
