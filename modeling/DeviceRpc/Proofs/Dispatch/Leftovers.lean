import DeviceRpc.Proofs.Dispatch.Envelope
import DeviceRpc.Proofs.Packet.Carrying
import DeviceRpc.Proofs.Relay.Inquiry

/-!
# What a command reads of the carrier

The sixteen bytes of the carrier are a limit to one command, a number of seconds to another and a
name to a third, and most commands do not look at them at all. So a request may have anything left
over there, as long as it is not where its command looks (`Pdu.AsksAlike`): the devices are asked the
same, and the replies say the same (`Pdu.handle_alike`). What a reply says is everything but its
carrier, and of the carrier the readings that the command wrote (`Pdu.told`).

A reply of zero says success, and zero is no failure's number. A device that fails a reading with it
all the same cannot be told from one that succeeded, and the client takes for the reading what was
left over in the carrier; the last theorem leaves out just that (`Pdu.ShowsFailure`).
-/

namespace DeviceRpc

open Prog (Alike)

namespace Packet

/-- The packet with nothing in its carrier. -/
def blank (p : Packet) : Packet := { p with carrier := .zero }

/-- Two packets that differ at most in their carriers and behind their payloads. -/
def Twin (p q : Packet) : Prop := Same p.blank q.blank

namespace Twin

variable {p q : Packet}

theorem symm (h : Twin p q) : Twin q p := Same.symm h

theorem protocol (h : Twin p q) : p.protocol = q.protocol :=
  show p.blank.protocol = q.blank.protocol from Same.protocol h

theorem index (h : Twin p q) : p.index = q.index :=
  show p.blank.index = q.blank.index from Same.index h

theorem command (h : Twin p q) : p.command = q.command :=
  show p.blank.command = q.blank.command from Same.command h

theorem option (h : Twin p q) : p.option = q.option :=
  show p.blank.option = q.blank.option from Same.option h

theorem channel (h : Twin p q) : p.channel = q.channel :=
  show p.blank.channel = q.blank.channel from Same.channel h

theorem length (h : Twin p q) : p.length = q.length :=
  show p.blank.length = q.blank.length from Same.length h

theorem payload (h : Twin p q) : p.payload = q.payload :=
  show p.blank.payload = q.blank.payload from Same.payload h

theorem whole (h : Twin p q) : p.Whole := show p.blank.Whole from Same.whole h

end Twin

/-- Packets with the same content are twins. -/
theorem Same.twin {p q : Packet} (h : Same p q) : Twin p q := h.withCarrier .zero

/-- The packet as it would be in an envelope of its own, with nothing in its carrier. -/
def plain (p : Packet) : Packet := { p with carrier := .zero, trailing := p.payload }

theorem payload_plain (p : Packet) : p.plain.payload = p.payload := by
  show (p.trailing.take p.length.toNat).take p.length.toNat = p.trailing.take p.length.toNat
  rw [List.take_take, Nat.min_self]

theorem Twin.plain {p q : Packet} (h : Twin p q) : p.plain = q.plain := by
  have bare : p.blank.bare = q.blank.bare := Same.bare h
  have split (p : Packet) : p.plain = { p.blank.bare with trailing := p.payload } := rfl
  rw [split, split, bare, h.payload]

/-- Two envelopes prepared for the same request. -/
theorem prepare_twin (p q : Packet) (protocol command index channel : UInt16) :
    Twin { p.prepare protocol command index with channel }
      { q.prepare protocol command index with channel } := ⟨rfl, rfl, rfl⟩

/-- Where there is a payload, the name is in it. -/
theorem Twin.name_of_payload {p q : Packet} (h : Twin p q) (some : p.length ≠ 0) :
    p.name = q.name := by
  unfold name
  rw [← h.length, if_neg some, if_neg some, h.payload]

theorem Twin.name_of_carrier {p q : Packet} (h : Twin p q) (same : p.carrier = q.carrier) :
    p.name = q.name := by
  unfold name text
  rw [h.length, h.payload, same]

/-- Two results of writing a name that carry the same name. -/
inductive Named : Except Failure Packet → Except Failure Packet → Prop where
  | ok {p q : Packet} (twin : Twin p q) (name : p.name = q.name) : Named (.ok p) (.ok q)
  | error (e : Failure) : Named (.error e) (.error e)

/-- Wherever a name is written, all of what will be read as the name is written. -/
theorem setName_twin {p q : Packet} (h : Twin p q) (s : String) :
    Named (p.setName s) (q.setName s) := by
  unfold setName
  by_cases short : (Utf8.encode s).length < carrierSize
  · have fits := Nat.not_le.mpr short
    rw [if_pos short, if_pos short, setText, setText, if_neg fits, if_neg fits]
    split
    · exact .error _
    · have twin : Twin ({ p with carrier := .ofBytes (Utf8.encode s) } : Packet).clearPayload
          ({ q with carrier := .ofBytes (Utf8.encode s) } : Packet).clearPayload :=
        Same.clearPayload h
      exact .ok twin (twin.name_of_carrier rfl)
  · rw [if_neg short, if_neg short]
    by_cases small : (Utf8.encode s ++ [0]).length < UInt32.size
    · rw [setPayload_of_lt small, setPayload_of_lt small]
      have twin : Twin (p.withPayload (Utf8.encode s ++ [0]))
          (q.withPayload (Utf8.encode s ++ [0])) := Same.withPayload h small
      have length := length_withPayload small p
      refine .ok twin (twin.name_of_payload fun empty => ?_)
      rw [empty, List.length_append] at length
      exact absurd length (Nat.succ_ne_zero _).symm
    · rw [setPayload_of_le (Nat.not_lt.mp small), setPayload_of_le (Nat.not_lt.mp small)]
      exact .error _

end Packet

open Packet (Twin)

namespace Pdu

/-- Two requests that are the same to a unit: they differ at most where their command does not
look. -/
structure AsksAlike (p q : Packet) : Prop where
  twin : Twin p q
  name : p.index = 0 ∨ p.command = getIndexByName ∨ p.command = getChannelByName → p.name = q.name
  limit : p.command = status → p.limit = q.limit
  seconds : p.command = Protocol.register → p.f64 .first = q.f64 .first

theorem AsksAlike.refl {p : Packet} (whole : p.Whole) : AsksAlike p p :=
  ⟨(Packet.Same.refl whole).twin, fun _ => rfl, fun _ => rfl, fun _ => rfl⟩

theorem AsksAlike.symm {p q : Packet} (h : AsksAlike p q) : AsksAlike q p where
  twin := h.twin.symm
  name named := (h.name (by rwa [h.twin.index, h.twin.command])).symm
  limit command := (h.limit (h.twin.command.trans command)).symm
  seconds command := (h.seconds (h.twin.command.trans command)).symm

/-- A command that takes no name, for a unit that is told by its index. -/
theorem unnamed {p : Packet} {n : UInt16} (found : p.index ≠ 0) (command : p.command = n)
    (plain : n ≠ getIndexByName ∧ n ≠ getChannelByName) :
    ¬ (p.index = 0 ∨ p.command = getIndexByName ∨ p.command = getChannelByName) := by
  subst command
  rintro (zero | lookup | channel)
  · exact found zero
  · exact plain.1 lookup
  · exact plain.2 channel

/-- A command that takes nothing from carrier or payload. -/
theorem AsksAlike.of_twin {p q : Packet} {n : UInt16} (twin : Twin p q) (found : p.index ≠ 0)
    (command : p.command = n)
    (plain : n ≠ getIndexByName ∧ n ≠ getChannelByName ∧ n ≠ Pdu.status ∧ n ≠ Protocol.register) :
    AsksAlike p q where
  twin := twin
  name named := absurd named (unnamed found command ⟨plain.1, plain.2.1⟩)
  limit status := absurd (command.symm.trans status) plain.2.2.1
  seconds register := absurd (command.symm.trans register) plain.2.2.2

/-- The readings that a command leaves in a carrier. -/
def readings (p : Packet) : List Binary64 :=
  if p.command = getVoltage ∨ p.command = getCurrent then [p.f64 .first]
  else if p.command = getVoltageCurrent then [p.f64 .first, p.f64 .second]
  else []

/-- What a reply says. -/
def told (p : Packet) : Packet × List Binary64 :=
  (p.plain, if p.errorCode = 0 then readings p else [])

/-- What a reply says does not depend on the envelope it is in. -/
theorem told_same {p q : Packet} (h : Packet.Same p q) : told p = told q := by
  have readings : readings p = readings q := by
    unfold Pdu.readings
    rw [h.command, h.f64, h.f64]
  unfold told
  rw [h.twin.plain, readings, h.errorCode]

/-! ## Handlers -/

/-- Two outcomes of a handler that say the same. -/
structure Agreed (a b : Packet × Except ErrorCode Unit) : Prop where
  twin : Twin a.1 b.1
  result : a.2 = b.2
  readings : a.2 = .ok () → Pdu.readings a.1 = Pdu.readings b.1

/-- Two results of writing an answer that say the same. -/
inductive Wrote : Except Failure Packet → Except Failure Packet → Prop where
  | ok {p q : Packet} (twin : Twin p q) (readings : Pdu.readings p = Pdu.readings q) :
      Wrote (.ok p) (.ok q)
  | error (e : Failure) : Wrote (.error e) (.error e)

/-- The handler of this command does not look at what is left over. -/
def Minds (n : UInt16) (handler : Handler Object) : Prop :=
  ∀ object p q, p.command = n → AsksAlike p q → Alike Agreed (handler object p) (handler object q)

theorem answering_minds {α : Type} {n : UInt16} {query : Object → Packet → Task (Except ErrorCode α)}
    {write : α → Packet → Except Failure Packet}
    (asks : ∀ object p q, p.command = n → AsksAlike p q → query object p = query object q)
    (writes : ∀ a p q, p.command = n → AsksAlike p q → Wrote (write a p) (write a q)) :
    Minds n (answering query write) := by
  intro object p q command alike
  rw [answering_eq, answering_eq, asks object p q command alike]
  refine .after _ fun r => .done ?_
  cases r with
  | error code =>
    refine ⟨alike.twin, rfl, ?_⟩
    rintro ⟨⟩
  | ok a =>
    have wrote := writes a p q command alike
    simp only [written]
    generalize write a p = x at wrote ⊢
    generalize write a q = y at wrote ⊢
    cases wrote with
    | ok twin readings => exact ⟨twin, rfl, fun _ => readings⟩
    | error e =>
      refine ⟨alike.twin, rfl, ?_⟩
      rintro ⟨⟩

/-! ## Readings -/

/-- The command leaves no readings. -/
def Silent (n : UInt16) : Prop := n ≠ getVoltage ∧ n ≠ getCurrent ∧ n ≠ getVoltageCurrent

instance (n : UInt16) : Decidable (Silent n) := inferInstanceAs (Decidable (_ ∧ _))

theorem readings_silent {p q : Packet} (h : Silent p.command) (same : p.command = q.command) :
    readings p = readings q := by
  unfold readings
  rw [← same, if_neg (not_or.mpr ⟨h.1, h.2.1⟩), if_neg h.2.2, if_neg (not_or.mpr ⟨h.1, h.2.1⟩),
    if_neg h.2.2]

theorem readings_one {p : Packet} (h : p.command = getVoltage ∨ p.command = getCurrent) :
    readings p = [p.f64 .first] := if_pos h

theorem readings_two {p : Packet} (h : p.command = getVoltageCurrent) :
    readings p = [p.f64 .first, p.f64 .second] := by
  unfold readings
  rw [h, if_neg (by decide), if_pos rfl]

namespace Wrote

variable {p q : Packet}

/-- Where nothing is written into the carrier, nothing is read from it. -/
theorem silent (twin : Twin p q) (h : Silent p.command) : Wrote (.ok p) (.ok q) :=
  .ok twin (readings_silent h twin.command)

theorem reading (twin : Twin p q) (h : p.command = getVoltage ∨ p.command = getCurrent)
    (x : Binary64) : Wrote (.ok (p.setF64 .first x)) (.ok (q.setF64 .first x)) := by
  have one {p : Packet} (h : p.command = getVoltage ∨ p.command = getCurrent) :
      readings (p.setF64 .first x) = [x] := by
    rw [readings_one (p := p.setF64 .first x) h, Packet.f64_setF64]
  refine .ok twin ?_
  rw [one h, one (twin.command ▸ h)]

theorem both (twin : Twin p q) (h : p.command = getVoltageCurrent) (v a : Binary64) :
    Wrote (.ok ((p.setF64 .first v).setF64 .second a))
      (.ok ((q.setF64 .first v).setF64 .second a)) := by
  have two {p : Packet} (h : p.command = getVoltageCurrent) :
      readings ((p.setF64 .first v).setF64 .second a) = [v, a] := by
    rw [readings_two (p := (p.setF64 .first v).setF64 .second a) h, Packet.f64_setF64,
      Packet.f64_first_setF64_second, Packet.f64_setF64]
  refine .ok twin ?_
  rw [two h, two (twin.command ▸ h)]

theorem payload (twin : Twin p q) (h : Silent p.command) (bs : Bytes) :
    Wrote (p.setPayload bs) (q.setPayload bs) := by
  by_cases small : bs.length < UInt32.size
  · rw [Packet.setPayload_of_lt small, Packet.setPayload_of_lt small]
    exact .silent (Packet.Same.withPayload twin small) h
  · rw [Packet.setPayload_of_le (Nat.not_lt.mp small), Packet.setPayload_of_le (Nat.not_lt.mp small)]
    exact .error _

end Wrote

/-! ## Commands -/

/-- No command of a unit looks at what is left over. -/
theorem table_minds {n : UInt16} {handler : Handler Object}
    (row : (n, .object handler) ∈ table) : Minds n handler := by
  have switches (on : Bool) (silent : Silent n) : Minds n (switch on) :=
    answering_minds (fun _ _ _ _ alike => by rw [alike.twin.channel])
      fun _ _ _ command alike => .silent alike.twin (command ▸ silent)
  cases handles_of_mem row with
  | turnOn => exact switches true (by decide)
  | turnOff => exact switches false (by decide)
  | voltage =>
    exact answering_minds (fun _ _ _ _ alike => by rw [alike.twin.channel])
      fun v _ _ command alike => .reading alike.twin (.inl command) v
  | current =>
    exact answering_minds (fun _ _ _ _ alike => by rw [alike.twin.channel])
      fun a _ _ command alike => .reading alike.twin (.inr command) a
  | voltageCurrent =>
    exact answering_minds (fun _ _ _ _ alike => by rw [alike.twin.channel])
      fun (v, a) _ _ command alike => .both alike.twin command v a
  | status =>
    refine answering_minds (fun _ _ _ _ _ => rfl) fun bs p q command alike => ?_
    rw [alike.limit command]
    exact .payload alike.twin (command ▸ by decide) _
  | channelOf =>
    refine answering_minds (fun _ p q command alike => ?_) fun channel p q command alike => ?_
    · rw [alike.name (.inr (.inr command))]
    · exact .silent (alike.twin.withChannel channel).clearPayload (command ▸ by decide)
  | inspect =>
    intro object p q command alike
    have silent : Silent p.command := command ▸ by decide
    refine .after _ fun r => .done ⟨alike.twin, rfl, fun _ => ?_⟩
    exact readings_silent silent alike.twin.command
  | register =>
    intro object p q command alike
    have silent : Silent p.command := command ▸ by decide
    have agreed (r : Except ErrorCode Unit) : Agreed (p, r) (q, r) :=
      ⟨alike.twin, rfl, fun _ => readings_silent silent alike.twin.command⟩
    refine .after _ fun r => ?_
    cases r with
    | ok => exact .done (agreed _)
    | error =>
      rw [alike.seconds command]
      exact .after _ fun r => .done (agreed r)

theorem lookup_row {n : UInt16} (row : (n, .lookup) ∈ table) : n = getIndexByName := by
  rw [table_rows] at row
  simpa only [List.mem_cons, List.not_mem_nil, or_false, Prod.mk.injEq, reduceCtorEq, and_false,
    and_true, false_or] using row

/-! ## Requests -/

variable {registry : Registry Object} {p q : Packet}

/-- A request that failed before anything was asked. -/
theorem agreed_error (twin : Twin p q) (code : ErrorCode) :
    Agreed (p, .error code) (q, .error code) := ⟨twin, rfl, nofun⟩

variable (registry) in
/-- A name leads to the same for both, and what they then ask is the same. -/
theorem addressed_alike (alike : AsksAlike p q) :
    (∃ code, Service.addressed registry p = .error code ∧
      Service.addressed registry q = .error code) ∨
    ∃ p' q', Service.addressed registry p = .ok p' ∧ Service.addressed registry q = .ok q' ∧
      p'.command = p.command ∧ AsksAlike p' q' := by
  unfold Service.addressed
  rw [← alike.twin.index]
  by_cases named : p.index = 0
  · rw [if_pos named, if_pos named, Service.namedIndex, Service.namedIndex,
      ← alike.name (.inl named)]
    cases name : p.name with
    | error e => exact .inl ⟨e.code, rfl, rfl⟩
    | ok name' =>
      cases found : registry.index? name' with
      | none => exact .inl ⟨.notFound, by simp only [found]; rfl, by simp only [found]; rfl⟩
      | some index =>
        refine .inr ⟨{ p with index }, { q with index }, by simp only [found]; rfl,
          by simp only [found]; rfl, rfl, ?_⟩
        exact ⟨alike.twin.withIndex index, fun _ => alike.name (.inl named), alike.limit,
          alike.seconds⟩
  · rw [if_neg named, if_neg named]
    exact .inr ⟨p, q, rfl, rfl, rfl, alike⟩

/-- Two requests that are the same to a unit ask its devices the same, and say the same. -/
theorem handle_alike (registry : Registry Object) (alike : AsksAlike p q) :
    Alike Agreed (service.handle registry p) (service.handle registry q) := by
  have twin := alike.twin
  rw [Service.handle, Service.handle, ← twin.protocol, ← twin.command, ← twin.index]
  split
  · exact .done (agreed_error twin _)
  · cases row : service.table.row? p.command with
    | none => exact .done (agreed_error twin _)
    | some command =>
      obtain ⟨before, after, rows, -⟩ := List.lookup_eq_some_iff.mp row
      have mem : (p.command, command) ∈ table := by
        show _ ∈ service.table
        rw [rows]
        exact List.mem_append_right _ (List.mem_cons_self ..)
      cases command with
      | lookup =>
        have command := lookup_row mem
        have silent : Silent p.command := command ▸ by decide
        simp only [Service.namedIndex, ← alike.name (.inr (.inl command))]
        cases p.name with
        | error e => exact .done (agreed_error twin _)
        | ok name =>
          simp only
          cases registry.index? name with
          | none => exact .done (agreed_error twin _)
          | some index =>
            have own : ({ q with protocol := p.protocol, command := p.command, index } : Packet)
                = { q with index } := by rw [twin.protocol, twin.command]
            have twin' : Twin ({ p with index } : Packet).clearPayload
                ({ q with index } : Packet).clearPayload := (twin.withIndex index).clearPayload
            rw [← own] at twin'
            exact .done ⟨twin', rfl, fun _ => readings_silent silent rfl⟩
      | object handler =>
        simp only
        split
        · exact .done (agreed_error twin _)
        · rcases addressed_alike registry alike with
            ⟨code, hp, hq⟩ | ⟨p', q', hp, hq, command, alike'⟩
          · rw [hp, hq]
            exact .done (agreed_error twin _)
          · rw [hp, hq]
            simp only [← alike'.twin.index]
            cases registry.object? p'.index with
            | none => exact .done (agreed_error alike'.twin _)
            | some object => exact table_minds mem object p' q' command alike'

/-! ## Replies -/

theorem reply_twin {a b : Packet × Except ErrorCode Unit} (h : Agreed a b) :
    Twin (Service.reply a) (Service.reply b) := by
  obtain ⟨p, result⟩ := a
  obtain ⟨q, result'⟩ := b
  obtain ⟨twin, same, -⟩ := h
  obtain rfl : result = result' := same
  cases result with
  | ok => exact twin.withErrorCode 0
  | error code => exact (twin.withErrorCode code.number).clearPayload

/-- Requests that ask alike get the same reply, up to what is in the carrier. -/
theorem dispatch_twin (registry : Registry Object) (alike : AsksAlike p q) :
    Alike Twin (service.dispatch registry p) (service.dispatch registry q) :=
  (handle_alike registry alike).bind fun _ _ agreed => .done (reply_twin agreed)

/-- A failure that its number does not pass off as a reading. -/
def Shows (r : Packet × Except ErrorCode Unit) : Prop :=
  ∀ code, r.2 = .error code → code.number = 0 → Silent r.1.command

theorem told_reply {a b : Packet × Except ErrorCode Unit} (h : Agreed a b) (shows : Shows a) :
    told (Service.reply a) = told (Service.reply b) := by
  refine Prod.ext (reply_twin h).plain ?_
  obtain ⟨p, result⟩ := a
  obtain ⟨q, result'⟩ := b
  obtain ⟨twin, same, readings⟩ := h
  obtain rfl : result = result' := same
  cases result with
  | ok => exact readings rfl
  | error code =>
    by_cases zero : code.number = 0
    · have alike := readings_silent (shows code rfl zero) twin.command
      exact (if_pos zero).trans (alike.trans (if_pos zero).symm)
    · exact (if_neg zero).trans (if_neg zero).symm

section

variable {τ : Type} {M : Machine τ} {t : τ}

/-- Whatever the devices answer, no failure is passed off as a reading. -/
def ShowsFailure (M : Machine τ) (registry : Registry Object) (p : Packet) (t : τ) : Prop :=
  ∀ r t', M.Yields (service.handle registry p) t r t' → Shows r

theorem ShowsFailure.alike (h : ShowsFailure M registry p t) (alike : AsksAlike p q) :
    ShowsFailure M registry q t := by
  intro r t' run code failed zero
  obtain ⟨r', run', agreed⟩ := run.alike (handle_alike registry alike.symm)
  exact agreed.twin.command ▸ h r' t' run' code (agreed.result ▸ failed) zero

/-- What dispatching a request says, dispatching one that asks alike says. -/
theorem dispatch_told (shows : ShowsFailure M registry p t) (alike : AsksAlike p q)
    {P : Packet × List Binary64 → τ → Prop}
    (ends : Ends M (fun d t' => P (told d) t') (service.dispatch registry p) t) :
    Ends M (fun d t' => P (told d) t') (service.dispatch registry q) t := by
  refine .bind ((ends.of_bind.yielding.alike (handle_alike registry alike)).mono
    (fun _ here => here) ?_)
  intro b t' post
  obtain ⟨a, agreed, ends, run⟩ := post
  have same := told_reply agreed (shows a t' run)
  cases ends with
  | done here => exact .done (same ▸ here)

theorem dispatch_told_iff (shows : ShowsFailure M registry p t) (alike : AsksAlike p q)
    {P : Packet × List Binary64 → τ → Prop} :
    Ends M (fun d t' => P (told d) t') (service.dispatch registry p) t ↔
      Ends M (fun d t' => P (told d) t') (service.dispatch registry q) t :=
  ⟨dispatch_told shows alike, dispatch_told (shows.alike alike) alike.symm⟩

end

end Pdu

end DeviceRpc
