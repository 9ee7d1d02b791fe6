import DeviceRpc.Proofs.Device.StripHost
import DeviceRpc.Proofs.Dispatch.Decision

/-!
# Addressing by name and by index

A unit is addressed by its index, or by its name with the index zero. To every service a request by
name is the request with the index that the name leads to (`Service.dispatch_named`), but for one
thing: the name is still in it. A short name stands in the carrier, where a command may keep an
argument.

**Where the name is in the way.** Of the commands that take a name only the status reads the
carrier, for its limit, and a short name is read as one: its first four bytes (`Pdu.nameLimit`). So
both ways are answered alike just where the command is another one, or the name is no limit that
the unit exceeds (`Pdu.addressing`).
-/

namespace DeviceRpc

open Packet (Whole)

/-- A request that names its object is the request with the object's index. -/
theorem Service.dispatch_named {ω : Type} {s : Service ω} {registry : Registry ω} {p : Packet}
    {handler : Handler ω} {index : UInt16} (accepts : s.Accepts p)
    (row : s.table.row? p.command = some (.object handler)) (unset : p.index = 0)
    (both : ¬ TakesIndexOnly p.command) (leads : Leads registry p (.ok index)) :
    s.dispatch registry p = s.dispatch registry { p with index } := by
  obtain ⟨_, there⟩ : ∃ name object, registry.At index name object := by
    cases leads with
    | known _ there => exact ⟨_, _, there⟩
  obtain ⟨object, there⟩ := there
  have named : Decides s registry p (.runs handler object index) :=
    .reaches accepts row (fun _ => both) (.named unset leads) there
  have indexed : Decides s registry { p with index } (.runs handler object index) :=
    .reaches accepts row (fun zero => absurd zero there.index_ne_zero)
      (.given there.index_ne_zero) there
  rw [dispatch_eq_answer, dispatch_eq_answer, verdict_of_decides named,
    verdict_of_decides indexed]
  rfl

/-- A name that was written is the one that the packet carries. -/
theorem Packet.name_of_setName {name : String} (zeroFree : ZeroFree name) {p named : Packet}
    (h : p.setName name = .ok named) : named.name = .ok name := by
  have carries : Packet.Carries ((Utf8.encode name).length + 1) name := by
    intro long
    refine ⟨Nat.le_refl _, Nat.not_le.mp fun large => ?_⟩
    rw [setName, if_neg (Nat.not_lt.mpr long), setPayload_of_le (by
      rw [List.length_append]
      exact large)] at h
    cases h
  obtain ⟨q, written, carried, -⟩ := setName_name zeroFree carries p
  cases h.symm.trans written
  exact carried

namespace Pdu

/-! ## Names as limits -/

/-- What a name in a request is read as where a limit is looked for. -/
def nameLimit (name : String) : UInt32 :=
  if (Utf8.encode name).length < carrierSize then
    UInt32.ofNat (Bytes.toNat ((Utf8.encode name).take 4))
  else 0

theorem toNat_zeros (n : Nat) : Bytes.toNat (List.replicate n 0) = 0 := by
  induction n with
  | zero => rfl
  | succ n ih => rw [List.replicate_succ, Bytes.toNat, ih]; rfl

theorem toNat_append_zeros (bs : Bytes) (n : Nat) :
    Bytes.toNat (bs ++ List.replicate n 0) = Bytes.toNat bs := by
  induction bs with
  | nil => exact toNat_zeros n
  | cons b bs ih => rw [List.cons_append, Bytes.toNat, Bytes.toNat, ih]

theorem limit_ofBytes {bs : Bytes} (short : bs.length < carrierSize) :
    (Carrier.ofBytes bs).read Slot.limit = Bytes.toNat (bs.take 4) := by
  have all : bs.take carrierSize = bs := List.take_of_length_le (Nat.le_of_lt short)
  show Bytes.toNat ((Bytes.grow carrierSize (bs.take carrierSize)).take 4) = _
  rw [all, Bytes.grow, List.take_append, List.take_replicate, toNat_append_zeros]

/-- Writing a name leaves this where a limit is looked for. -/
theorem limit_setName {name : String} {p named : Packet} (unlimited : p.limit = 0)
    (h : p.setName name = .ok named) : named.limit = nameLimit name := by
  unfold Packet.setName at h
  unfold nameLimit
  by_cases short : (Utf8.encode name).length < carrierSize
  · simp only [if_pos short] at h ⊢
    unfold Packet.setText at h
    simp only [if_neg (Nat.not_le.mpr short)] at h
    split at h
    · cases h
    · cases h
      exact congrArg UInt32.ofNat (limit_ofBytes short)
  · simp only [if_neg short] at h ⊢
    by_cases counted : (Utf8.encode name ++ [0]).length < UInt32.size
    · rw [Packet.setPayload_of_lt counted] at h
      cases h
      exact unlimited
    · rw [Packet.setPayload_of_le (Nat.not_lt.mp counted)] at h
      cases h

/-! ## Both ways -/

/-- The commands that take a name for an index. -/
def nameable : List UInt16 := [turnOn, turnOff, getVoltage, getCurrent, getVoltageCurrent, status]

/-- A request in a fresh packet. -/
def fresh (capacity : Nat) (command channel index : UInt16) : Packet :=
  { Packet.withCapacity capacity with protocol := Protocol.pdu, command, channel, index }

theorem not_takesIndexOnly {command : UInt16} (h : command ∈ nameable) :
    ¬ TakesIndexOnly command := by
  have all : nameable.all fun c => ¬ (c = Protocol.inspect ∨ c = Protocol.register) := by decide
  intro indexed
  exact of_decide_eq_true (List.all_eq_true.mp all command h) indexed

/-- Two replies that say the same to a command for the unit with this index. -/
structure AnsweredAlike (command index : UInt16) (a b : Packet) : Prop where
  errorCode : a.errorCode = b.errorCode
  index : a.index = index ∧ b.index = index
  first : a.errorCode = 0 → command ∈ [getVoltage, getCurrent, getVoltageCurrent] →
    a.f64 .first = b.f64 .first
  second : a.errorCode = 0 → command = getVoltageCurrent → a.f64 .second = b.f64 .second
  outlets : a.errorCode = 0 → command = status → a.payload = b.payload

end Pdu

namespace Inquiry

/-- The inquiry leaves room for a name. -/
def Nameable : Inquiry → Prop
  | channelOf _ | inspect => False
  | _ => True

/-- A request with such a command asks the same, whatever else is in the packet. -/
theorem asked_of_nameable {command : UInt16} (h : command ∈ Pdu.nameable) (channel : UInt16) :
    ∃ q : Inquiry, q.Nameable ∧ q.command = command ∧
      ∀ p : Packet, p.command = command → p.channel = channel → q.Asked p := by
  simp only [Pdu.nameable, List.mem_cons, List.not_mem_nil, or_false] at h
  rcases h with rfl | rfl | rfl | rfl | rfl | rfl
  · exact ⟨.switch true channel, trivial, rfl, fun _ command channel => ⟨command, channel⟩⟩
  · exact ⟨.switch false channel, trivial, rfl, fun _ command channel => ⟨command, channel⟩⟩
  · exact ⟨.voltage channel, trivial, rfl, fun _ command channel => ⟨command, channel⟩⟩
  · exact ⟨.current channel, trivial, rfl, fun _ command channel => ⟨command, channel⟩⟩
  · exact ⟨.voltageCurrent channel, trivial, rfl, fun _ command channel => ⟨command, channel⟩⟩
  · exact ⟨.status, trivial, rfl, fun _ command _ => command⟩

/-- A strip refuses such an inquiry for one reason only. -/
theorem Nameable.refused {q : Inquiry} (h : q.Nameable) {s : Strip} {code : ErrorCode}
    (failed : s.answer q = .error code) : code = .invalidArgument := by
  cases q with
  | inspect | channelOf => exact h.elim
  | switch on channel =>
    rw [Strip.answer, Strip.perform_switch] at failed
    exact Strip.map_place?_error failed
  | voltage | current => exact Strip.map_place?_error failed
  | voltageCurrent channel =>
    rw [Strip.answer_voltageCurrent] at failed
    exact Strip.map_place?_error failed
  | status => cases failed

open Pdu (AnsweredAlike) in
/-- What else stands in the request does not show in the reply, unless it is to a status. -/
theorem Nameable.reply_alike {q : Inquiry} (h : q.Nameable) (other : q.command ≠ Pdu.status)
    (p p' : Packet) (i : UInt16) {r : Except ErrorCode q.Answer}
    (reason : ∀ code, r = .error code → code = .invalidArgument) :
    AnsweredAlike q.command i (q.reply (p.withIndex i) r) (q.reply (p'.withIndex i) r) := by
  cases r with
  | error code =>
    obtain rfl := reason code rfl
    exact ⟨rfl, ⟨rfl, rfl⟩, nofun, nofun, nofun⟩
  | ok a =>
    have unread {P : Prop} (same : q.command = Pdu.status) : P := absurd same other
    have written (half : Half) (x : Binary64) (p p' : Packet) :
        (p.setF64 half x).f64 half = (p'.setF64 half x).f64 half := by
      rw [Packet.f64_setF64, Packet.f64_setF64]
    cases q with
    | inspect | channelOf => exact h.elim
    | status => exact absurd rfl other
    | switch on channel =>
      have noReading : (if on then Pdu.turnOn else Pdu.turnOff) ∉
          [Pdu.getVoltage, Pdu.getCurrent, Pdu.getVoltageCurrent] := by
        cases on <;> decide
      refine ⟨rfl, ⟨rfl, rfl⟩, fun _ reading => absurd reading noReading, fun _ same => ?_,
        fun _ => unread⟩
      have same' : (if on then Pdu.turnOn else Pdu.turnOff) = Pdu.getVoltageCurrent := same
      rw [same'] at noReading
      exact absurd (by decide) noReading
    | voltage | current =>
      exact ⟨rfl, ⟨rfl, rfl⟩, fun _ _ => written .first a _ _, nofun, fun _ => unread⟩
    | voltageCurrent =>
      obtain ⟨v, c⟩ := a
      refine ⟨rfl, ⟨rfl, rfl⟩, fun _ _ => ?_, fun _ _ => written .second c _ _, fun _ => unread⟩
      show ((Packet.setF64 .first v _).setF64 .second c).f64 .first
        = ((Packet.setF64 .first v _).setF64 .second c).f64 .first
      rw [Packet.f64_first_setF64_second, Packet.f64_first_setF64_second]
      exact written .first v _ _

theorem reply_index (q : Inquiry) (p : Packet) (i : UInt16) (r : Except ErrorCode q.Answer) :
    (q.reply (p.withIndex i) r).index = i := by
  rw [reply_withIndex]
  rfl

theorem eq_status {q : Inquiry} (h : q.command = Pdu.status) : q = .status := by
  cases q with
  | status => rfl
  | switch on =>
    change (if on then Pdu.turnOn else Pdu.turnOff) = _ at h
    cases on <;> exact absurd h (by decide)
  | _ => exact absurd h (of_decide_eq_false rfl)

/-- The reply to a status: the outlets up to the limit, if they can be counted. -/
theorem status_reply {p : Packet} {bs : Bytes} (small : (Pdu.cut p.limit bs).length < UInt32.size) :
    (status.reply p (.ok bs)).errorCode = 0 ∧
      (status.reply p (.ok bs)).payload = Pdu.cut p.limit bs := by
  have written : status.write bs p = .ok (p.withPayload (Pdu.cut p.limit bs)) :=
    Packet.setPayload_of_lt small p
  unfold reply Pdu.written
  simp only [written]
  exact ⟨rfl, Packet.payload_withPayload small p⟩

theorem status_reply_large {p : Packet} {bs : Bytes}
    (large : UInt32.size ≤ (Pdu.cut p.limit bs).length) :
    (status.reply p (.ok bs)).errorCode = ErrorCode.invalidArgument.number := by
  have written : status.write bs p = .error _ := Packet.setPayload_of_le large p
  unfold reply Pdu.written
  simp only [written]
  rfl

end Inquiry

namespace Pdu

theorem cut_of_le {limit : UInt32} {bs : Bytes} (h : limit = 0 ∨ bs.length ≤ limit.toNat) :
    cut limit bs = bs := by
  unfold cut
  split
  · rfl
  next some =>
    rcases h with none | all
    · exact absurd none some
    · exact List.take_of_length_le all

section

variable {p p' : Packet}

/-- Where no limit cuts anything off, two statuses are alike. -/
theorem status_alike {bs : Bytes} (uncut : cut p.limit bs = bs) (uncut' : cut p'.limit bs = bs)
    (index : UInt16) :
    AnsweredAlike status index (Inquiry.status.reply (p.withIndex index) (.ok bs))
      (Inquiry.status.reply (p'.withIndex index) (.ok bs)) := by
  have indexed := Inquiry.reply_index Inquiry.status p index (.ok bs)
  have indexed' := Inquiry.reply_index Inquiry.status p' index (.ok bs)
  by_cases small : bs.length < UInt32.size
  · have fits : (cut (p.withIndex index).limit bs).length < UInt32.size := uncut.symm ▸ small
    have fits' : (cut (p'.withIndex index).limit bs).length < UInt32.size := uncut'.symm ▸ small
    obtain ⟨succeeds, payload⟩ := Inquiry.status_reply fits
    obtain ⟨succeeds', payload'⟩ := Inquiry.status_reply fits'
    exact ⟨succeeds.trans succeeds'.symm, ⟨indexed, indexed'⟩,
      fun _ reading => absurd reading (by decide), fun _ reading => absurd reading (by decide),
      fun _ _ => (payload.trans uncut).trans (payload'.trans uncut').symm⟩
  · have large : UInt32.size ≤ (cut (p.withIndex index).limit bs).length :=
      uncut.symm ▸ Nat.not_lt.mp small
    have large' : UInt32.size ≤ (cut (p'.withIndex index).limit bs).length :=
      uncut'.symm ▸ Nat.not_lt.mp small
    have fails := Inquiry.status_reply_large large
    have failed {P : Prop}
        (ok : (Inquiry.status.reply (p.withIndex index) (.ok bs)).errorCode = 0) : P :=
      absurd (fails.symm.trans ok) (by decide)
    exact ⟨fails.trans (Inquiry.status_reply_large large').symm, ⟨indexed, indexed'⟩,
      fun ok _ => failed ok, fun ok _ => failed ok, fun ok _ => failed ok⟩

/-- Two statuses are alike just where the limit of the one cuts nothing off. -/
theorem status_alike_iff (unlimited : p'.limit = 0) (index : UInt16) (bs : Bytes) :
    AnsweredAlike status index (Inquiry.status.reply (p.withIndex index) (.ok bs))
        (Inquiry.status.reply (p'.withIndex index) (.ok bs)) ↔
      p.limit = 0 ∨ bs.length ≤ p.limit.toNat := by
  have uncut' : cut (p'.withIndex index).limit bs = bs := cut_of_le (.inl unlimited)
  refine ⟨fun alike => Classical.byContradiction fun cuts => ?_,
    fun uncut => status_alike (cut_of_le uncut) uncut' index⟩
  obtain ⟨limited, short⟩ := not_or.mp cuts
  -- the cut one is shorter, and can be counted
  have cutOff : cut (p.withIndex index).limit bs = bs.take p.limit.toNat := if_neg limited
  have length : (bs.take p.limit.toNat).length = p.limit.toNat :=
    List.length_take_of_le (Nat.le_of_not_le short)
  have fits : (cut (p.withIndex index).limit bs).length < UInt32.size := by
    rw [cutOff, length]
    exact p.limit.toNat_lt
  obtain ⟨succeeds, payload⟩ := Inquiry.status_reply fits
  by_cases small : bs.length < UInt32.size
  · have fits' : (cut (p'.withIndex index).limit bs).length < UInt32.size := uncut'.symm ▸ small
    obtain ⟨-, payload'⟩ := Inquiry.status_reply fits'
    have same := alike.outlets succeeds rfl
    rw [payload, payload', uncut', cutOff] at same
    rw [same] at length
    exact short (Nat.le_of_eq length)
  · have large' : UInt32.size ≤ (cut (p'.withIndex index).limit bs).length :=
      uncut'.symm ▸ Nat.not_lt.mp small
    have fails := Inquiry.status_reply_large large'
    rw [← alike.errorCode, succeeds] at fails
    exact absurd fails (by decide)

end

/-! ## Addressing -/

section

variable {registry : Registry Object} {name : String} {index : UInt16} {o : Object}
  {command channel : UInt16} {capacity : Nat} {named : Packet}

/-- By its name and by its index, a unit is asked the same. Only what else stands in the request may
show in the reply. -/
theorem dispatch_both (there : registry.At index name o) (zeroFree : ZeroFree name)
    (nameable : command ∈ nameable)
    (written : (fresh capacity command channel 0).setName name = .ok named) (capacity' : Nat) :
    ∃ q : Inquiry, q.Nameable ∧ q.command = command ∧
      service.dispatch registry named
        = (q.ask o >>= fun r => .done (q.reply (named.withIndex index) r)) ∧
      service.dispatch registry (fresh capacity' command channel index)
        = (q.ask o >>= fun r =>
            .done (q.reply ((fresh capacity' command channel 0).withIndex index) r)) := by
  obtain ⟨like, -⟩ := Packet.setName_like written
  have carried := Packet.name_of_setName zeroFree written
  obtain ⟨q, plain, command_eq, asks⟩ := Inquiry.asked_of_nameable nameable channel
  have asked : q.Asked named := asks named like.command like.channel
  have object : registry.object? index = some o := Registry.object?_eq_some_iff.mpr ⟨name, there⟩
  obtain ⟨handler, row, -⟩ := Inquiry.row_asked asked
  have both : ¬ TakesIndexOnly named.command := by
    rw [like.command]
    exact not_takesIndexOnly nameable
  have leads : Leads registry named (.ok index) :=
    .known (Packet.name_eq_ok_iff.mp carried) there
  refine ⟨q, plain, command_eq, ?_, ?_⟩
  · rw [Service.dispatch_named (.inl like.protocol) row like.index both leads]
    exact Inquiry.dispatch_asked (Inquiry.asked_withIndex asked index) (.inl like.protocol) object
  · exact Inquiry.dispatch_asked (asks _ rfl rfl) (.inl rfl) object

variable {plant : Plant} {d : DeviceId} {m : MonitorId} {s : Strip}

theorem run?_status (strip : plant.devices[d]? = some (.strip s)) :
    Plant.run? (Inquiry.status.ask ⟨.device d, m⟩) plant
      = some (.ok s.status, (plant.perform d .status).1) :=
  Plant.run?_command_strip strip .status

/-- **A name is as good as an index, but for a status.** A request to a unit by its name and the
same request by its index do the same to the plant, and are answered alike just where the request is
not for a status, or the name is no limit that the outlets exceed. -/
theorem addressing (there : registry.At index name ⟨.device d, m⟩)
    (strip : plant.devices[d]? = some (.strip s)) (zeroFree : ZeroFree name)
    (nameable : command ∈ nameable)
    (written : (fresh capacity command channel 0).setName name = .ok named) (capacity' : Nat) :
    ∃ a b plant', Plant.run? (service.dispatch registry named) plant = some (a, plant') ∧
      Plant.run? (service.dispatch registry (fresh capacity' command channel index)) plant
        = some (b, plant') ∧
      (AnsweredAlike command index a b ↔
        (command = status → nameLimit name = 0 ∨ s.outlets.length ≤ (nameLimit name).toNat)) := by
  obtain ⟨q, plain, rfl, byName, byIndex⟩ :=
    dispatch_both there zeroFree nameable written capacity'
  obtain ⟨plant', run, -⟩ := Plant.run?_ask_strip strip m q
  refine ⟨_, _, plant', by rw [byName, Plant.run?_bind, run]; rfl,
    by rw [byIndex, Plant.run?_bind, run]; rfl, ?_⟩
  by_cases isStatus : q.command = status
  · obtain rfl := Inquiry.eq_status isStatus
    have unlimited : (fresh capacity' status channel 0).limit = 0 := rfl
    refine (status_alike_iff unlimited index s.status).trans ?_
    rw [limit_setName rfl written, Strip.status, List.length_map]
    exact ⟨fun uncut _ => uncut, fun uncut => uncut rfl⟩
  · exact iff_of_true (plain.reply_alike isStatus _ _ index fun _ => plain.refused) fun same =>
      absurd same isStatus

end

open Plant (oneOutlet oneUnit) in
/-- The one unit is switched by its name as by its index. -/
theorem addressing_unit :
    ∃ named a b plant', (fresh 0 turnOn 1 0).setName "unit" = .ok named ∧
      Plant.run? (service.dispatch oneUnit named) oneOutlet = some (a, plant') ∧
      Plant.run? (service.dispatch oneUnit (fresh 0 turnOn 1 1)) oneOutlet = some (b, plant') ∧
      AnsweredAlike turnOn 1 a b := by
  have zeroFree : ZeroFree "unit" := by decide
  obtain ⟨named, written, -⟩ := Packet.setName_name zeroFree
    (Packet.carries_of_lt (by decide) 0) (fresh 0 turnOn 1 0)
  have there : oneUnit.At 1 "unit" ⟨.device 0, 0⟩ := ⟨0, rfl, rfl⟩
  have strip : oneOutlet.devices[0]? = some (.strip (.ofNames ["pump"])) := rfl
  obtain ⟨a, b, plant', byName, byIndex, alike⟩ :=
    addressing there strip zeroFree (by decide) written 0
  exact ⟨named, a, b, plant', written, byName, byIndex, alike.mpr fun same =>
    absurd same (by decide)⟩

/-- A strip with ninety-eight outlets, under a name of one letter. -/
def strip98 : Strip := .ofNames ((List.range 98).map toString)

def wide : Plant where
  devices := [.strip strip98]
  health := [false]

def lettered : Registry Object := .of [("a", ⟨.device 0, 0⟩)] (by decide) (by decide)

/-- The letter is read as the limit ninety-seven, so the status by name misses the last outlet. -/
theorem status_by_letter :
    ∃ named a b, (fresh 0 status 0 0).setName "a" = .ok named ∧
      Plant.run? (service.dispatch lettered named) wide = some (a, wide) ∧
      Plant.run? (service.dispatch lettered (fresh 0 status 0 1)) wide = some (b, wide) ∧
      a.errorCode = 0 ∧ b.errorCode = 0 ∧ a.payload.length = 97 ∧ b.payload.length = 98 := by
  have zeroFree : ZeroFree "a" := by decide
  have there : lettered.At 1 "a" ⟨.device 0, 0⟩ := ⟨0, rfl, rfl⟩
  have strip : wide.devices[0]? = some (.strip strip98) := rfl
  have outlets : strip98.status.length = 98 := rfl
  have letter : nameLimit "a" = 97 := by decide
  obtain ⟨named, written, -⟩ := Packet.setName_name zeroFree
    (Packet.carries_of_lt (by decide) 0) (fresh 0 status 0 0)
  obtain ⟨q, -, command, byName, byIndex⟩ :=
    dispatch_both there zeroFree (by decide) written 0
  obtain rfl := Inquiry.eq_status command
  have run := run?_status (m := 0) strip
  have limit : (named.withIndex 1).limit = 97 := (limit_setName rfl written).trans letter
  -- what each of the two requests leaves of the status
  have short : (cut (named.withIndex 1).limit strip98.status).length = 97 := by
    rw [limit, cut, if_neg (by decide), List.length_take, outlets]
    rfl
  have whole : (cut ((fresh 0 status 0 0).withIndex 1).limit strip98.status).length = 98 :=
    outlets
  obtain ⟨succeeds, payload⟩ :=
    Inquiry.status_reply (Nat.lt_of_le_of_lt (Nat.le_of_eq short) (by decide))
  obtain ⟨succeeds', payload'⟩ :=
    Inquiry.status_reply (Nat.lt_of_le_of_lt (Nat.le_of_eq whole) (by decide))
  refine ⟨named, _, _, written, by rw [byName, Plant.run?_bind, run]; rfl,
    by rw [byIndex, Plant.run?_bind, run]; rfl, succeeds, succeeds', ?_, ?_⟩
  · rw [payload, short]
  · rw [payload', whole]

end Pdu

end DeviceRpc
