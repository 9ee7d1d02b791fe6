import DeviceRpc.Proofs.Link.Conduit
import DeviceRpc.Proofs.Packet.Refusal

/-!
# Names written and read

A name is written in one of two places, by its size, and read from one of the two, by the length in
the header. Whichever it is, what is read is the name up to its first zero (`name_after_setName`),
and that does not change on the way to another packet (`names_survive`). In the carrier there is no
more to it, since names with a zero are refused there; a payload takes them, and what is behind the
zero is lost (`lost_behind_zero`).
-/

namespace DeviceRpc

/-! ## Up to the first zero -/

/-- The text before its first zero. -/
def beforeZero (s : String) : String := String.ofList (s.toList.takeWhile (· ≠ '\x00'))

theorem encode_takeWhile (cs : List Char) :
    (cs.takeWhile (· ≠ '\x00')).flatMap String.utf8EncodeChar
      = Bytes.untilZero (cs.flatMap String.utf8EncodeChar) := by
  induction cs with
  | nil => rfl
  | cons c cs ih =>
    rw [List.flatMap_cons]
    by_cases zero : c = '\x00'
    · subst zero
      rfl
    · -- the other characters have no zero among their bytes, so bytes and characters end together
      have noZero : 0 ∉ String.utf8EncodeChar c := mt Utf8.zero_mem_encodeChar_iff.mp zero
      have kept : (c :: cs).takeWhile (· ≠ '\x00') = c :: cs.takeWhile (· ≠ '\x00') :=
        List.takeWhile_cons_of_pos (decide_eq_true zero)
      rw [kept, List.flatMap_cons, ih, untilZero_append_of_notMem noZero]

theorem encode_beforeZero (s : String) :
    Utf8.encode (beforeZero s) = Bytes.untilZero (Utf8.encode s) := by
  rw [Utf8.encode, beforeZero, String.toList_ofList, encode_takeWhile, Utf8.encode]

theorem beforeZero_eq_iff {s : String} : beforeZero s = s ↔ ZeroFree s := by
  constructor
  · intro same
    rw [ZeroFree, ← same, encode_beforeZero]
    exact zero_notMem_untilZero _
  · intro zeroFree
    have all : Bytes.untilZero (Utf8.encode s) = Utf8.encode s := by
      have kept := untilZero_append_of_notMem zeroFree []
      rwa [List.append_nil, show Bytes.untilZero [] = [] from rfl, List.append_nil] at kept
    have written := Utf8.decode_encode (beforeZero s)
    rw [encode_beforeZero, all, Utf8.decode_encode] at written
    exact (Except.ok.inj written).symm

/-- The zero that is put behind a name ends it at the latest. -/
theorem untilZero_append_zero (bs : Bytes) : Bytes.untilZero (bs ++ [0]) = Bytes.untilZero bs := by
  induction bs with
  | nil => rfl
  | cons b bs ih =>
    by_cases zero : b = 0
    · subst zero
      rfl
    · have alone : (0 : UInt8) ∉ [b] := fun mem => zero (List.mem_singleton.mp mem).symm
      have first := untilZero_append_of_notMem alone
      calc Bytes.untilZero (b :: bs ++ [0])
          = [b] ++ Bytes.untilZero (bs ++ [0]) := first (bs ++ [0])
        _ = [b] ++ Bytes.untilZero bs := by rw [ih]
        _ = Bytes.untilZero (b :: bs) := (first bs).symm

namespace Packet

variable {memory : Memory} {p q : Packet} {s : String}

/-- What is read of a name that was written is the name before its first zero. -/
theorem name_after_setName (done : (Update.setName s).perform memory p = (.ok (), q)) :
    q.Whole ∧ q.name = .ok (beforeZero s) := by
  rcases Envelope.setName_ok_iff.mp done with ⟨short, zeroFree, rfl⟩ | ⟨-, written⟩
  · refine ⟨whole_of_length rfl, ?_⟩
    rw [beforeZero_eq_iff.mpr zeroFree, name, if_pos rfl]
    exact text_of_carrier short zeroFree rfl
  · obtain ⟨counted, -, rfl⟩ := Envelope.setPayload_ok_iff.mp written
    refine ⟨whole_withPayload counted p, ?_⟩
    rw [name_eq_ok_iff, nameBytes_withPayload counted, encode_beforeZero, untilZero_append_zero]

/-- With memory for everything a long name is written if its bytes can be counted. -/
theorem setName_long (long : carrierSize ≤ (Utf8.encode s).length)
    (counted : (Utf8.encode s ++ [0]).length < UInt32.size) (p : Packet) :
    (Update.setName s).perform .ample p = (.ok (), p.withPayload (Utf8.encode s ++ [0])) := by
  have room := Update.not_lacks_ample (Nat.lt_trans counted (by decide)) p
  exact Envelope.setName_ok_iff.mpr
    (.inr ⟨long, Envelope.setPayload_ok_iff.mpr ⟨counted, room, rfl⟩⟩)

end Packet

/-- Sends a packet, which is then read into an envelope on the other side. -/
def Channel.pass (near far : Channel) (p envelope : Packet) :
    Task (Packet × Except LinkFailure Unit) := do
  match ← near.writePacket p with
  | .ok () => far.readPacket envelope
  | .error e => return (envelope, .error e)

namespace Conduit

/-- A packet that is whole and not too large arrives as it is. -/
theorem ends_pass {h : Handle} {options options' : LinkOptions} {p : Packet} (whole : p.Whole)
    (fits : p.length.toNat ≤ options.maxPayload) (envelope : Packet) :
    Ends (machine h) (fun r t => r.2 = .ok () ∧ Packet.Same r.1 p ∧ t = ⟨[], false⟩)
      (Channel.pass ⟨h.across, options'⟩ ⟨h, options⟩ p envelope) ⟨[], false⟩ := by
  refine .request (still _) trivial ⟨_, _, .sent⟩ fun r t hr => ?_
  cases hr with
  | sent =>
    have payload : p.payload.length ≤ options.maxPayload := Nat.le_trans (Nat.le_of_eq whole) fits
    have stream : (⟨p.frame, false⟩ : Conduit) = ⟨p.header ++ (p.payload ++ []), false⟩ := by
      rw [List.append_nil, Packet.frame]
    have request : Ends (machine h)
        (fun r t => r = (envelope.receive p.header p.payload, .ok ()) ∧ t = ⟨[], false⟩)
        (Channel.readRequest ⟨h, options⟩ envelope) ⟨p.frame, false⟩ :=
      (reads h false).readRequest whole.isFrame payload stream
    refine (ends_readPacket_iff.mpr request).mono (fun _ _ => trivial) ?_
    rintro _ _ ⟨rfl, rfl⟩
    exact ⟨rfl, Packet.receive_same whole envelope, rfl⟩

end Conduit

namespace Packet

/-- A name is refused and the packet stays, or it is written and read up to its first zero, so as a
whole if it has none, and read the same from every packet that is received as this one. -/
theorem names_survive (memory : Memory) (p : Packet) (s : String) :
    (∃ e, Update.Refuses memory p (.setName s) e ∧
      (Update.setName s).perform memory p = (.error e, p)) ∨
    ∃ q, (Update.setName s).perform memory p = (.ok (), q) ∧
      q.name = .ok (beforeZero s) ∧ (q.name = .ok s ↔ ZeroFree s) ∧
      (∃ r, ofFrame q.frame = .ok r ∧ r.name = q.name) ∧
      ∀ h options options' envelope, q.length.toNat ≤ options.maxPayload →
        Ends (Conduit.machine h) (fun r _ => r.2 = .ok () ∧ r.1.name = q.name)
          (Channel.pass ⟨h.across, options'⟩ ⟨h, options⟩ q envelope) ⟨[], false⟩ := by
  rcases Update.refuses_or_perform memory p (.setName s) with ⟨e, refused⟩ | ⟨q, done⟩
  · exact .inl ⟨e, refused, refused.perform_eq⟩
  · obtain ⟨whole, named⟩ := name_after_setName done
    refine .inr ⟨q, done, named, ?_, ?_, ?_⟩
    · rw [named, Except.ok.injEq]
      exact beforeZero_eq_iff
    · obtain ⟨r, read, same⟩ := ofFrame_frame whole
      exact ⟨r, read, same.name⟩
    · intro h options options' envelope fits
      refine (Conduit.ends_pass whole fits envelope).mono (fun _ _ => trivial) ?_
      rintro r _ ⟨ok, same, -⟩
      exact ⟨ok, same.name⟩

/-- A name that is too long for the carrier, written into an envelope and sent into another one. -/
theorem names_survive_pump :
    let h : Handle := ⟨0, .acceptor⟩
    ∃ q, (Update.setName "cooling-water-pump").perform .ample .empty = (.ok (), q) ∧
      q.name = .ok "cooling-water-pump" ∧
      (∃ r, ofFrame q.frame = .ok r ∧ r.name = q.name) ∧
      Ends (Conduit.machine h) (fun r _ => r.2 = .ok () ∧ r.1.name = q.name)
        (Channel.pass ⟨h.across, {}⟩ ⟨h, {}⟩ q fiveZeros) ⟨[], false⟩ := by
  intro h
  have counted : (Utf8.encode "cooling-water-pump" ++ [0]).length < UInt32.size := by decide
  have written : (Update.setName "cooling-water-pump").perform .ample .empty
      = (.ok (), Packet.empty.withPayload (Utf8.encode "cooling-water-pump" ++ [0])) :=
    setName_long (by decide) counted .empty
  rcases names_survive .ample .empty "cooling-water-pump" with
    ⟨e, -, refused⟩ | ⟨q, done, -, named, frame, passed⟩
  · cases written.symm.trans refused
  · have same := written.symm.trans done
    cases same
    refine ⟨_, done, named.mpr (by decide), frame, passed h {} {} fiveZeros ?_⟩
    rw [length_withPayload counted]
    decide

/-- A name with a zero is written all the same if it is too long for the carrier, and what is read
is not the name. -/
theorem lost_behind_zero :
    ∃ q, (Update.setName "dome-shutter\x00west").perform .ample .empty = (.ok (), q) ∧
      q.name = .ok "dome-shutter" ∧ q.name ≠ .ok "dome-shutter\x00west" := by
  have written : (Update.setName "dome-shutter\x00west").perform .ample .empty
      = (.ok (), Packet.empty.withPayload (Utf8.encode "dome-shutter\x00west" ++ [0])) :=
    setName_long (by decide) (by decide) .empty
  have named : _ = Except.ok "dome-shutter" := (name_after_setName written).2
  refine ⟨_, written, named, ?_⟩
  rw [named]
  decide

end Packet

end DeviceRpc
