import Mathlib.Logic.Function.Basic
import Mathlib.Logic.Relation
import DeviceRpc.Proofs.Device.Units
import DeviceRpc.Proofs.Pdu.Addressing

/-!
# Requests side by side

Any number of connections bring requests to the service for units, each of them one after the other.
The requests are under way at once: their acts are carried out in any order, and everything that is
not a command to a device is answered in any way (`Crowd.Step`).

**At one moment.** Nevertheless every request is as good as carried out at one moment, that of its
last act. Until then it leaves the units alone, and then it does to its unit what the inquiry in it
asks for, and is answered as the unit is at this moment (`Pdu.CarriedOut`, `Pdu.dispatch_lands`). A
request with a command of units comes to this moment within two commands to a device, however they
are answered (`Pdu.dispatch_within`).
-/

namespace DeviceRpc

/-! ## Connections -/

/-- A request that a connection waits for, and what is left of it to do. -/
structure Pending where
  request : Packet
  task : Task Packet

/-- A request with the reply to it. -/
structure Served where
  request : Packet
  reply : Packet

/-- A plant, and the requests to the service for it. -/
structure Crowd where
  plant : Plant
  /-- What each connection waits for, if it waits. -/
  waiting : Nat → Option Pending := fun _ => none
  /-- The requests that are through, in the order of their last acts. -/
  served : List Served := []

namespace Crowd

/-- The request of a connection goes on with what is left of it; where nothing is, it is through. -/
def goesOn (k : Nat) (p : Packet) (c : Crowd) : Task Packet → Crowd
  | .done q =>
    { c with waiting := Function.update c.waiting k none, served := c.served ++ [⟨p, q⟩] }
  | .ask a next => { c with waiting := Function.update c.waiting k (some ⟨p, .ask a next⟩) }

/-- What may happen next. -/
inductive Step (registry : Registry Object) (c : Crowd) : Crowd → Prop where
  | comes {k : Nat} (p : Packet) (idle : c.waiting k = none) :
      Step registry c (c.goesOn k p (Pdu.service.dispatch registry p))
  | acts {k : Nat} {w : Pending} {a : Act} {next : a.Reply → Task Packet} {r : a.Reply}
      {plant : Plant} (here : c.waiting k = some w) (asks : w.task = .ask a next)
      (acts : c.plant.Acts a r plant) :
      Step registry c (goesOn k w.request { c with plant } (next r))
  /-- A request is given up. -/
  | leaves (k : Nat) : Step registry c { c with waiting := Function.update c.waiting k none }
  /-- A strip gets another fault. -/
  | breaks (d : DeviceId) (fault : Option ErrorCode) :
      Step registry c { c with plant := c.plant.change d (Device.withFault fault) }

/-- What a crowd may come to. -/
abbrev Reached (registry : Registry Object) : Crowd → Crowd → Prop :=
  Relation.ReflTransGen (Step registry)

end Crowd

/-! ## Inquiries -/

namespace Inquiry

/-- The inquiry that a packet asks. -/
def of? (p : Packet) : Option Inquiry :=
  if p.command = Pdu.turnOn then some (.switch true p.channel)
  else if p.command = Pdu.turnOff then some (.switch false p.channel)
  else if p.command = Pdu.getVoltage then some (.voltage p.channel)
  else if p.command = Pdu.getCurrent then some (.current p.channel)
  else if p.command = Pdu.getVoltageCurrent then some (.voltageCurrent p.channel)
  else if p.command = Pdu.status then some .status
  else if p.command = Pdu.getChannelByName then p.name.toOption.map .channelOf
  else if p.command = Protocol.inspect then some .inspect
  else none

theorem of?_eq_some {q : Inquiry} {p : Packet} (h : q.Asked p) : of? p = some q := by
  unfold of?
  cases q with
  | switch on =>
    obtain ⟨command, rfl⟩ := h
    rw [command]
    cases on <;> rfl
  | channelOf =>
    obtain ⟨command, named⟩ := h
    rw [command, named]
    rfl
  | status | inspect =>
    have command : p.command = _ := h
    rw [command]
    rfl
  | _ =>
    obtain ⟨command, rfl⟩ := h
    rw [command]
    rfl

/-- No packet asks two inquiries. -/
theorem asked_unique {q q' : Inquiry} {p : Packet} (h : q.Asked p) (h' : q'.Asked p) : q = q' :=
  Option.some.inj ((of?_eq_some h).symm.trans (of?_eq_some h'))

end Inquiry

namespace Strip

/-- The voltage is a matter of the number of outlets. -/
theorem perform_voltage {s s' : Strip} (same : s.outlets.length = s'.outlets.length)
    (channel : UInt16) : (s.perform (.voltage channel)).2 = (s'.perform (.voltage channel)).2 := by
  unfold perform place?
  rw [same]

end Strip

namespace Pdu

/-! ## At one moment -/

/-- The commands of units. -/
def ofUnit : List UInt16 := getChannelByName :: nameable

/-- A request that the service accepts is for the unit with this index. -/
structure Reaches (registry : Registry Object) (p : Packet) (i : UInt16) : Prop where
  accepts : service.Accepts p
  aims : Aims registry p i
  there : ∃ name o, registry.At i name o

/-- A request asks nothing of a unit but to be inspected, if anything. -/
def AsksNoUnit (registry : Registry Object) (p : Packet) : Prop :=
  ∀ i (inquiry : Inquiry), Reaches registry p i → inquiry.Asked p → inquiry = .inspect

/-- What becomes of a request that is carried out at one moment, between these two plants. -/
inductive CarriedOut (registry : Registry Object) (p : Packet) (plant : Plant) (q : Packet)
    (plant' : Plant) : Prop where
  | unit {i : UInt16} {inquiry : Inquiry} {s : Strip} (reaches : Reaches registry p i)
      (asked : inquiry.Asked p) (plain : inquiry ≠ .inspect)
      (unit : plant.unit? registry i = some s)
      (reply : q = inquiry.reply (p.withIndex i) (s.answer inquiry))
      (after : ∀ j, plant'.unit? registry j
        = if j = i then some (s.after inquiry) else plant.unit? registry j)
  /-- Where it asks nothing of a unit, no unit changes. -/
  | other (nobody : AsksNoUnit registry p)
      (refused : p.command ∈ ofUnit → q.errorCode ≠ 0)
      (unmoved : ∀ j, plant'.unit? registry j = plant.unit? registry j)

/-- Every object of the registry is a strip with these outlets. -/
def Stocked (registry : Registry Object) (names : UInt16 → List String) (plant : Plant) : Prop :=
  ∀ i name o, registry.At i name o →
    ∃ s, plant.unit? registry i = some s ∧ s.outlets.map Prod.fst = names i

/-- However the plant changes in between, the task leaves the units alone up to its last act, and
this one leads from a plant with what the task comes to and the plant afterwards to `R`. -/
def Lands (registry : Registry Object) (names : UInt16 → List String)
    (R : Plant → Packet → Plant → Prop) : Task Packet → Prop
  | .done _ => False
  | .ask a next => ∀ plant (r : a.Reply) plant', Stocked registry names plant →
      plant.Acts a r plant' →
      (∃ q, next r = .done q ∧ R plant q plant') ∨
        (∀ j, plant'.unit? registry j = plant.unit? registry j) ∧ Lands registry names R (next r)

/-- The task is done within so many commands to devices, however they are answered. -/
def Within {α : Type} : Nat → Task α → Prop
  | _, .done _ => True
  | 0, .ask _ _ => False
  | n + 1, .ask a next => (∃ d c, a = .command d c) ∧ ∀ r, Within n (next r)

section

variable {registry : Registry Object} {names : UInt16 → List String} {plant plant' : Plant}
  {p q : Packet} {i : UInt16} {inquiry : Inquiry} {d : DeviceId} {m : MonitorId}

/-! ### Commands -/

theorem row_ofUnit {command : UInt16} (h : command ∈ ofUnit) :
    ∃ handler, table.row? command = some (.object handler) := by
  simp only [ofUnit, nameable, List.mem_cons, List.not_mem_nil, or_false] at h
  rcases h with rfl | rfl | rfl | rfl | rfl | rfl | rfl <;> exact ⟨_, rfl⟩

/-- A handler is for a command of units, or it inspects. -/
theorem row_object {command : UInt16} {handler : Handler Object}
    (row : table.row? command = some (.object handler)) :
    command ∈ ofUnit ∨ handler = CommandTable.inspect ∨ handler = CommandTable.register := by
  cases handles_of_row? row with
  | inspect => exact .inr (.inl rfl)
  | register => exact .inr (.inr rfl)
  | _ => exact .inl (by decide)

theorem not_takesIndexOnly_ofUnit {command : UInt16} (h : command ∈ ofUnit) :
    ¬ TakesIndexOnly command := by
  rcases List.mem_cons.mp h with rfl | h
  · unfold TakesIndexOnly
    decide
  · exact not_takesIndexOnly h

/-- Every inquiry but an inspection has a command of units. -/
theorem asked_ofUnit (asked : inquiry.Asked p) (plain : inquiry ≠ .inspect) :
    p.command ∈ ofUnit := by
  cases inquiry with
  | inspect => exact absurd rfl plain
  | status =>
    have command : p.command = status := asked
    rw [command]
    decide
  | switch on =>
    rw [asked.1]
    show (if on then turnOn else turnOff) ∈ ofUnit
    cases on <;> decide
  | _ =>
    rw [asked.1]
    decide

/-- A request that reaches a unit asks the inquiry of it. -/
theorem dispatch_reaches (reaches : Reaches registry p i) (asked : inquiry.Asked p)
    (plain : inquiry ≠ .inspect) {name : String} {o : Object} (there : registry.At i name o) :
    service.dispatch registry p
      = (inquiry.ask o >>= fun r => .done (inquiry.reply (p.withIndex i) r)) := by
  obtain ⟨accepts, aims, -⟩ := reaches
  have object : registry.object? i = some o := Registry.object?_eq_some_iff.mpr ⟨name, there⟩
  cases aims with
  | given => exact Inquiry.dispatch_asked asked accepts object
  | named unset leads =>
    have member := asked_ofUnit asked plain
    obtain ⟨handler, row⟩ := row_ofUnit member
    rw [Service.dispatch_named accepts row unset (not_takesIndexOnly_ofUnit member) leads]
    exact Inquiry.dispatch_asked (Inquiry.asked_withIndex asked i) accepts object

/-! ### What asks nothing of a unit -/

theorem inspect_still (monitor : MonitorId) :
    ∀ {probes : List Health.Probe}, (∀ probe ∈ probes, Asks Act.Still probe) →
      Asks Act.Still (Health.inspect monitor probes)
  | [], _ => .request (by rintro _ _ _ ⟨⟩) fun _ => .done _
  | probe :: probes, still => by
    refine .bind (still probe (List.mem_cons_self ..)) fun r => ?_
    cases r with
    | ok => exact inspect_still monitor fun probe mem => still probe (List.mem_cons_of_mem _ mem)
    | error => exact .request (by rintro _ _ _ ⟨⟩) fun _ => .done _

theorem object_inspect_still (d : DeviceId) (m : MonitorId) :
    Asks Act.Still (Object.inspect ⟨.device d, m⟩) := by
  refine .request (by rintro _ _ _ ⟨⟩) fun n => inspect_still m fun probe mem => ?_
  obtain ⟨part, -, rfl⟩ := List.mem_map.mp mem
  exact .request (by rintro _ _ _ ⟨⟩) fun _ => .done _

/-- To inspect, and to wait for health, switches nothing. -/
theorem system_still {handler : Handler Object}
    (system : handler = CommandTable.inspect ∨ handler = CommandTable.register) (d : DeviceId)
    (m : MonitorId) (p : Packet) : Asks Act.Still (handler ⟨.device d, m⟩ p) := by
  rcases system with rfl | rfl
  · exact .bind (object_inspect_still d m) fun _ => .done _
  · refine .bind (object_inspect_still d m) fun r => ?_
    cases r with
    | ok => exact .done _
    | error =>
      refine .bind ?_ fun _ => .done _
      unfold Health.waitSeconds Health.wait
      refine .bind ?_ fun limit => .request (by rintro _ _ _ ⟨⟩) fun _ => .done _
      unfold deadline
      split
      · exact .request (by rintro _ _ _ ⟨⟩) fun _ => .done _
      · exact .done _

theorem asks_or_not (owns : registry.Owns) (p : Packet) :
    (∃ i inquiry name d m, Reaches registry p i ∧ Inquiry.Asked p inquiry ∧ inquiry ≠ .inspect ∧
      registry.At i name ⟨.device d, m⟩) ∨ AsksNoUnit registry p := by
  by_cases nobody : AsksNoUnit registry p
  · exact .inr nobody
  · simp only [AsksNoUnit, not_forall] at nobody
    obtain ⟨i, inquiry, reaches, asked, plain⟩ := nobody
    obtain ⟨name, o, there⟩ := reaches.there
    obtain ⟨d, m, rfl⟩ := owns.eq_device there
    exact .inl ⟨i, inquiry, name, d, m, reaches, asked, plain, there⟩

/-- A request that asks nothing of a unit switches nothing, and is refused at once if it has a
command of units. -/
theorem dispatch_elsewhere (owns : registry.Owns) (nobody : AsksNoUnit registry p) :
    Asks Act.Still (service.dispatch registry p) ∧
      (p.command ∈ ofUnit → ∃ q, service.dispatch registry p = .done q ∧ q.errorCode ≠ 0) := by
  have decided := Service.decides_verdict service registry p
  rw [Service.dispatch_eq_answer]
  generalize service.verdict registry p = verdict at decided
  cases verdict with
  | refused index number =>
    exact ⟨.done _, fun _ => ⟨_, rfl, decided.number_ne_zero⟩⟩
  | found index =>
    refine ⟨.done _, fun member => ?_⟩
    cases decided with
    | lookupFinds _ row =>
      obtain ⟨handler, row'⟩ := row_ofUnit member
      cases row.symm.trans row'
  | runs handler o index =>
    cases decided with
    | @reaches _ _ name _ accepts row usable aims there =>
      have reached : Reaches registry p index := ⟨accepts, aims, name, o, there⟩
      by_cases member : p.command ∈ ofUnit
      · -- the name of an outlet cannot be read
        have listed : p.command ∈ Inquiry.commands := by
          rcases List.mem_cons.mp member with same | member
          · rw [same]
            decide
          · have all : nameable.all (· ∈ Inquiry.commands) := by decide
            exact of_decide_eq_true (List.all_eq_true.mp all _ member)
        rcases Inquiry.asked_of_mem listed with ⟨inquiry, asked⟩ | ⟨command, e, unreadable⟩
        · obtain rfl := nobody index inquiry reached asked
          have inspects : p.command = Protocol.inspect := asked
          rw [inspects] at member
          exact absurd member (by decide)
        · have refused : Verdict.answer p (.runs handler o index)
              = .done (Service.reply ({ p with index }, .error e.code)) := by
            rw [command] at row
            cases row
            have named : Packet.name { p with index } = .error e := unreadable
            rw [Verdict.answer, findChannel, answering_eq, named]
            rfl
          have nowhere : Service.namedIndex registry p = .error e.code := by
            rw [Service.namedIndex, unreadable]
          have number := (leads_error_iff.mpr ⟨_, nowhere, rfl⟩).number_ne_zero
          rw [refused]
          exact ⟨.done _, fun _ => ⟨_, rfl, number⟩⟩
      · have system := (row_object row).resolve_left member
        obtain ⟨d, m, rfl⟩ := owns.eq_device there
        refine ⟨.bind (system_still system d m _) ?_, fun is => absurd is member⟩
        rintro ⟨q, _ | _⟩ <;> exact .done _

/-! ### At one moment -/

/-- A task that switches nothing leaves the units alone to its end. -/
theorem lands_of_still {R : Plant → Packet → Plant → Prop}
    (unmoved : ∀ plant q plant', (∀ j, plant'.unit? registry j = plant.unit? registry j) →
      R plant q plant') {t : Task Packet} (still : Asks Act.Still t) :
    (∃ q, t = .done q) ∨ Lands registry names R t := by
  induction t with
  | done q => exact .inl ⟨q, rfl⟩
  | ask a next ih =>
    refine .inr fun plant r plant' _ acts => ?_
    have same (j : UInt16) : plant'.unit? registry j = plant.unit? registry j :=
      acts.unit?_eq still.1 j
    rcases ih r (still.next r) with ⟨q, left⟩ | lands
    · exact .inl ⟨q, left, unmoved plant q plant' same⟩
    · exact .inr ⟨same, lands⟩

/-- A single command to a unit is the last act. -/
theorem lands_command {R : Plant → Packet → Plant → Prop} {name : String}
    (owns : registry.Owns) (there : registry.At i name ⟨.device d, m⟩) {c : DeviceCommand}
    {f : Except ErrorCode c.Reply → Packet}
    (ends : ∀ plant plant' s, plant.unit? registry i = some s → s.outlets.map Prod.fst = names i →
      (∀ j, plant'.unit? registry j = if j = i then some (s.perform c).1
        else plant.unit? registry j) →
      R plant (f (s.perform c).2) plant') :
    Lands registry names R (ask (.command d c) >>= fun r => .done (f r)) := by
  intro plant r plant' stocked acts
  obtain ⟨rfl, rfl⟩ := acts.of_command
  obtain ⟨s, unit, outlets⟩ := stocked _ _ _ there
  have own : registry.device? i = some d := Registry.device?_at there
  have answers := Plant.perform_strip (Plant.strip_of_unit? own unit) c
  refine .inl ⟨_, rfl, ?_⟩
  rw [answers]
  exact ends plant _ s unit outlets (Plant.unit?_perform_own owns own unit c)

theorem voltageCurrent_lands {channel : UInt16} {name : String} (owns : registry.Owns)
    (reaches : Reaches registry p i) (asked : (Inquiry.voltageCurrent channel).Asked p)
    (there : registry.At i name ⟨.device d, m⟩) :
    Lands registry names (CarriedOut registry p)
      ((Inquiry.voltageCurrent channel).ask ⟨.device d, m⟩ >>= fun r =>
        .done ((Inquiry.voltageCurrent channel).reply (p.withIndex i) r)) := by
  have plain : Inquiry.voltageCurrent channel ≠ .inspect := by rintro ⟨⟩
  intro plant r plant' stocked acts
  have same (j : UInt16) : plant'.unit? registry j = plant.unit? registry j :=
    acts.unit?_eq (by rintro _ _ _ ⟨⟩) j
  obtain ⟨s, unit, outlets⟩ := stocked _ _ _ there
  obtain ⟨rfl, rfl⟩ := acts.of_command
  have own : registry.device? i = some d := Registry.device?_at there
  rw [Plant.perform_strip (Plant.strip_of_unit? own unit)]
  cases voltage : (s.perform (.voltage channel)).2 with
  | error code =>
    refine .inl ⟨_, rfl, .unit reaches asked plain unit ?_ fun j => ?_⟩
    · simp only [Strip.answer, voltage]
    · rw [same]
      split
      next is => rw [is, unit]; rfl
      next => rfl
  | ok v =>
    -- what the second command meets has as many outlets
    refine .inr ⟨same, lands_command owns there fun plant plant' s' unit' outlets' after => ?_⟩
    refine .unit reaches asked plain unit' ?_ after
    have count : s.outlets.length = s'.outlets.length := by
      rw [← List.length_map Prod.fst, outlets, ← outlets', List.length_map]
    have voltage' := (Strip.perform_voltage count channel).symm.trans voltage
    simp only [Strip.answer, voltage']

/-- An inquiry is answered as the unit is at the moment of the last act. -/
theorem inquiry_lands {name : String} (owns : registry.Owns) (reaches : Reaches registry p i)
    (asked : inquiry.Asked p) (plain : inquiry ≠ .inspect)
    (there : registry.At i name ⟨.device d, m⟩) :
    Lands registry names (CarriedOut registry p)
      (inquiry.ask ⟨.device d, m⟩ >>= fun r => .done (inquiry.reply (p.withIndex i) r)) := by
  cases inquiry with
  | inspect => exact absurd rfl plain
  | voltageCurrent => exact voltageCurrent_lands owns reaches asked there
  | switch | voltage | current | status | channelOf =>
    exact lands_command owns there fun _ _ _ unit _ after =>
      .unit reaches asked plain unit rfl after

/-- **Every request is as good as carried out at one moment**: at once, or with its last act. -/
theorem dispatch_lands (owns : registry.Owns) (p : Packet) :
    (∃ q, service.dispatch registry p = .done q ∧ ∀ plant, CarriedOut registry p plant q plant) ∨
      Lands registry names (CarriedOut registry p) (service.dispatch registry p) := by
  rcases asks_or_not owns p with ⟨i, inquiry, name, d, m, reaches, asked, plain, there⟩ | nobody
  · rw [dispatch_reaches reaches asked plain there]
    exact .inr (inquiry_lands owns reaches asked plain there)
  · obtain ⟨still, refused⟩ := dispatch_elsewhere owns nobody
    by_cases member : p.command ∈ ofUnit
    · obtain ⟨q, ends, failed⟩ := refused member
      exact .inl ⟨q, ends, fun plant => .other nobody (fun _ => failed) fun _ => rfl⟩
    · have outcome (plant q plant') (unmoved : ∀ j, Plant.unit? registry plant' j
          = Plant.unit? registry plant j) : CarriedOut registry p plant q plant' :=
        .other nobody (fun is => absurd is member) unmoved
      rcases lands_of_still outcome still with ⟨q, ends⟩ | lands
      · exact .inl ⟨q, ends, fun plant => outcome plant q plant fun _ => rfl⟩
      · exact .inr lands

/-! ### How soon -/

theorem within_succ {n : Nat} {t : Task Packet} (h : Within n t) : Within (n + 1) t := by
  induction t generalizing n with
  | done => trivial
  | ask a next ih =>
    cases n with
    | zero => exact h.elim
    | succ n => exact ⟨h.1, fun r => ih r (h.2 r)⟩

theorem ask_within (d : DeviceId) (c : DeviceCommand) {n : Nat}
    {f : Except ErrorCode c.Reply → Task Packet} (rest : ∀ r, Within n (f r)) :
    Within (n + 1) (ask (.command d c) >>= f) :=
  ⟨⟨d, c, rfl⟩, rest⟩

/-- A request with a command of units is through within two commands. -/
theorem dispatch_within (owns : registry.Owns) (h : p.command ∈ ofUnit) :
    Within 2 (service.dispatch registry p) := by
  rcases asks_or_not owns p with ⟨i, inquiry, name, d, m, reaches, asked, plain, there⟩ | nobody
  · rw [dispatch_reaches reaches asked plain there]
    cases inquiry with
    | inspect => exact absurd rfl plain
    | voltageCurrent channel =>
      refine ask_within d (.voltage channel) fun r => ?_
      cases r with
      | error => trivial
      | ok => exact ask_within d (.current channel) fun _ => trivial
    | switch | voltage | current | status | channelOf => exact ask_within d _ fun _ => trivial
  · obtain ⟨q, ends, -⟩ := (dispatch_elsewhere owns nobody).2 h
    rw [ends]
    trivial

end

end Pdu

end DeviceRpc
