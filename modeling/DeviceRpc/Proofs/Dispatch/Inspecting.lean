import DeviceRpc.Proofs.Call.Blocks
import DeviceRpc.Proofs.Device.Inspection
import DeviceRpc.Proofs.Dispatch.Decision

/-!
# What inspections conclude

An object is inspected by a request that is addressed to it, or when all objects of a node are
inspected one after the other. Either way its monitor is told of the outcome when the inspection is
over, and that is the only time that health is set: where a chore sets the health of a monitor, it
concludes an inspection (`Chore.concludes_of_goes`), and where it concludes one, it sets the health
of just the object that was inspected (`Chore.Concludes.last`). Whatever else a request asks for
leaves health alone.

A chore that is over has concluded an inspection of every object that it was for
(`Chore.concludes_of_runs`). When all objects are inspected, these are all of them, whatever came of
those before.
-/

namespace DeviceRpc

open Prog (Goes Runs)

/-- What a task may ask besides setting health: what a driver asks, and to wait for health. -/
def Act.LeavesHealth : Act → Prop
  | awaitHealthy _ _ => True
  | a => a.IsDriving fun _ => True

theorem Act.IsDriving.leavesHealth {a : Act} (h : a.IsDriving fun _ => True) :
    a.LeavesHealth := by
  cases a <;> first | exact h | trivial

/-- What somebody asks who inspects or carries out a request. -/
def Act.IsChore : Act → Prop
  | setHealth _ _ => True
  | a => a.LeavesHealth

theorem Act.LeavesHealth.isChore {a : Act} (h : a.LeavesHealth) : a.IsChore := by
  cases a <;> first | exact h | trivial

/-- Whoever drives leaves health alone. -/
theorem Drives.leavesHealth {α : Type} {P : α → Prop} {p : Task α}
    (h : Drives (fun _ => True) P p) : Gives Act.LeavesHealth P p :=
  h.keeps (fun _ a r _ _ => a.provides_any r) fun _ _ => Act.IsDriving.leavesHealth

/-! ## One inspection -/

namespace Object

variable {o : Object} {acts : Exchanges}

theorem inspect_asks (o : Object) : Asks Act.IsChore o.inspect :=
  o.inspect_keeps (fun _ a r _ _ => a.provides_any r) (fun _ _ h => h.leavesHealth.isChore)
    (fun _ _ => trivial) ()

theorem inspect_last {r : Except ErrorCode Unit} (h : Runs o.inspect acts r) :
    ∃ before, acts = before ++ [⟨.setHealth o.monitor r.isOk, ()⟩] := by
  obtain ⟨first, rest, probes, rfl, -, h⟩ := Runs.of_bind h
  obtain ⟨before, rfl⟩ := Health.inspect_last h
  exact ⟨first ++ before, (List.append_assoc ..).symm⟩

theorem inspect_concludes {m : MonitorId} {healthy : Bool}
    {next : Unit → Task (Except ErrorCode Unit)}
    (h : Goes o.inspect acts (.ask (.setHealth m healthy) next)) :
    ∃ r, Runs o.inspect (acts ++ [⟨.setHealth m healthy, ()⟩]) r := by
  have leaves := o.driver.probes_drives.leavesHealth
  rcases Goes.ask_of_bind h with ⟨next', first⟩ | ⟨before, after, probes, rfl, first, second⟩
  · exact (first.asks leaves.asks).1.elim
  · have each probe mem := (leaves.runs first probe mem).leavesHealth.asks
    obtain ⟨r, runs⟩ := Health.inspect_concludes each id second
    rw [List.append_assoc]
    exact ⟨r, first.bind runs⟩

end Object

/-! ## Inspecting every object -/

section

variable {name : String} {o : Object} {entries before after : List (String × Object)}
  {acts : Exchanges}

/-- Inspects some objects one after the other. -/
def inspectEach (entries : List (String × Object)) : Task Unit :=
  entries.forM fun (_, object) => discard object.inspect

theorem inspectEach_cons : inspectEach ((name, o) :: entries)
    = o.inspect >>= fun _ => inspectEach entries := by
  show (o.inspect >>= fun _ => .done ()) >>= (fun _ => inspectEach entries) = _
  rw [bind_assoc]
  rfl

theorem inspectEach_append : inspectEach (before ++ after)
    = inspectEach before >>= fun _ => inspectEach after := by
  induction before with
  | nil => rfl
  | cons entry before ih =>
    obtain ⟨name, o⟩ := entry
    rw [List.cons_append, inspectEach_cons, inspectEach_cons, ih, bind_assoc]

theorem inspectEach_asks (entries : List (String × Object)) :
    Asks Act.IsChore (inspectEach entries) := by
  induction entries with
  | nil => exact .done _
  | cons entry entries ih =>
    obtain ⟨name, o⟩ := entry
    rw [inspectEach_cons]
    exact o.inspect_asks.bind fun _ => ih

/-- However the inspections before it came out, every object is inspected. -/
theorem inspectEach_runs (runs : Runs (inspectEach (before ++ (name, o) :: after)) acts ()) :
    ∃ acts₁ acts₂ r, acts₁ ++ acts₂ <+: acts ∧ Runs (inspectEach before) acts₁ () ∧
      Runs o.inspect acts₂ r := by
  rw [inspectEach_append] at runs
  obtain ⟨acts₁, rest, _, rfl, first, runs⟩ := Runs.of_bind runs
  rw [inspectEach_cons] at runs
  obtain ⟨acts₂, rest, r, rfl, second, -⟩ := Runs.of_bind runs
  refine ⟨acts₁, acts₂, r, ?_, first, second⟩
  rw [← List.append_assoc]
  exact List.prefix_append ..

/-- Who sets health while objects are inspected one after the other concludes the inspection of one
of them. -/
theorem inspectEach_concludes {m : MonitorId} {healthy : Bool} {next : Unit → Task Unit} :
    ∀ {entries : List (String × Object)} {acts : Exchanges},
      Goes (inspectEach entries) acts (.ask (.setHealth m healthy) next) →
      ∃ before name o after acts₁ acts₂ r, entries = before ++ (name, o) :: after ∧
        acts ++ [⟨.setHealth m healthy, ()⟩] = acts₁ ++ acts₂ ∧
        Runs (inspectEach before) acts₁ () ∧ Runs o.inspect acts₂ r
  | [], _, h => by cases h
  | (name, o) :: entries, acts, h => by
    rw [inspectEach_cons] at h
    rcases Goes.ask_of_bind h with ⟨next', first⟩ | ⟨here, later, r, rfl, first, second⟩
    · obtain ⟨r, runs⟩ := Object.inspect_concludes first
      exact ⟨[], name, o, entries, [], _, r, rfl, rfl, .done (), runs⟩
    · obtain ⟨before, name', o', after, acts₁, acts₂, r', rfl, split, earlier, runs⟩ :=
        inspectEach_concludes second
      refine ⟨(name, o) :: before, name', o', after, here ++ acts₁, acts₂, r', rfl, ?_, ?_, runs⟩
      · rw [List.append_assoc, split, List.append_assoc]
      · rw [inspectEach_cons]
        exact Runs.bind first earlier

end

/-! ## Requests -/

/-- The request is for an inspection of the object with this index. -/
structure Inspects (registry : Registry Object) (p : Packet) (index : UInt16) (o : Object) :
    Prop where
  accepts : Pdu.service.Accepts p
  command : TakesIndexOnly p.command
  indexed : p.index = index
  there : ∃ name, registry.At index name o

namespace Pdu

/-- The handler inspects its object first, and leaves health alone afterwards. -/
def Inspecting (handler : Handler Object) : Prop :=
  ∀ o p, ∃ rest : Except ErrorCode Unit → Task (Packet × Except ErrorCode Unit),
    handler o p = o.inspect >>= rest ∧ ∀ r, Asks Act.LeavesHealth (rest r)

theorem waitSeconds_leaves (m : MonitorId) (seconds : Binary64) :
    Asks Act.LeavesHealth (Health.waitSeconds m seconds) :=
  (deadline_drives _).leavesHealth.asks.bind fun _ => .request trivial fun _ => .done _

theorem inspect_inspecting : Inspecting CommandTable.inspect :=
  fun _ _ => ⟨_, rfl, fun _ => .done _⟩

theorem register_inspecting : Inspecting CommandTable.register := by
  intro o p
  refine ⟨_, rfl, fun r => ?_⟩
  cases r with
  | ok => exact .done _
  | error code => exact (waitSeconds_leaves _ _).bind fun _ => .done _

theorem answering_leaves {α : Type} {query : Object → Packet → Task (Except ErrorCode α)}
    (write : α → Packet → Except Failure Packet)
    (drives : ∀ o p, Drives (fun _ => True) (fun _ => True) (query o p)) (o : Object) (p : Packet) :
    Asks Act.LeavesHealth (answering query write o p) := by
  rw [answering_eq]
  exact (drives o p).leavesHealth.asks.bind fun _ => .done _

theorem findChannel_leaves (o : Object) (p : Packet) :
    Asks Act.LeavesHealth (findChannel o p) := by
  refine answering_leaves _ (fun o p => ?_) o p
  cases p.name with
  | error e => exact .done trivial
  | ok name => exact o.driver.perform_drives (.channelOf name)

/-- The commands that take an index only inspect; no other command touches health. -/
theorem handler_health {command : UInt16} {handler : Handler Object}
    (row : table.row? command = some (.object handler)) :
    TakesIndexOnly command ∧ Inspecting handler ∨
      ¬ TakesIndexOnly command ∧ ∀ o p, Asks Act.LeavesHealth (handler o p) := by
  have performs (c : Packet → DeviceCommand) (o : Object) (p : Packet) :
      Drives (fun _ => True) (fun _ => True) (o.driver.perform (c p)) :=
    o.driver.perform_drives (c p)
  cases handles_of_row? row with
  | turnOn => exact .inr ⟨by decide, answering_leaves _ (performs fun p => .switch true p.channel)⟩
  | turnOff =>
    exact .inr ⟨by decide, answering_leaves _ (performs fun p => .switch false p.channel)⟩
  | voltage => exact .inr ⟨by decide, answering_leaves _ (performs fun p => .voltage p.channel)⟩
  | current => exact .inr ⟨by decide, answering_leaves _ (performs fun p => .current p.channel)⟩
  | voltageCurrent =>
    exact .inr ⟨by decide, answering_leaves _ fun o p => o.driver.voltageCurrent_drives p.channel⟩
  | status => exact .inr ⟨by decide, answering_leaves _ (performs fun _ => .status)⟩
  | channelOf => exact .inr ⟨by decide, findChannel_leaves⟩
  | inspect => exact .inl ⟨.inl rfl, inspect_inspecting⟩
  | register => exact .inl ⟨.inr rfl, register_inspecting⟩

/-- A request for an inspection begins with it. -/
theorem dispatch_inspects {registry : Registry Object} {p : Packet} {index : UInt16} {o : Object}
    (h : Inspects registry p index o) : ∃ rest : Except ErrorCode Unit → Task Packet,
      service.dispatch registry p = o.inspect >>= rest ∧ ∀ r, Asks Act.LeavesHealth (rest r) := by
  obtain ⟨name, there⟩ := h.there
  obtain ⟨handler, row⟩ : ∃ handler, table.row? p.command = some (.object handler) := by
    rcases h.command with command | command
    · exact ⟨_, congrArg _ command⟩
    · exact ⟨_, congrArg _ command⟩
  have given : p.index ≠ 0 := h.indexed ▸ there.index_ne_zero
  have decided : Decides service registry p (.runs handler o index) :=
    .reaches h.accepts row (fun unset => absurd unset given) (h.indexed ▸ .given given) there
  rcases handler_health row with ⟨-, inspecting⟩ | ⟨others, -⟩
  · obtain ⟨rest, begins, leaves⟩ := inspecting o { p with index }
    refine ⟨fun r => rest r >>= fun done => .done (Service.reply done), ?_, ?_⟩
    · rw [Service.dispatch_eq_answer, ← Service.decides_iff.mp decided, Verdict.answer_runs, begins,
        bind_assoc]
    · exact fun r => (leaves r).bind fun _ => .done _
  · exact absurd h.command others

/-- No other request touches health. -/
theorem dispatch_leaves {registry : Registry Object} {p : Packet}
    (others : ∀ index o, ¬ Inspects registry p index o) :
    Asks Act.LeavesHealth (service.dispatch registry p) := by
  have decided := Service.decides_verdict service registry p
  rw [Service.dispatch_eq_answer]
  generalize service.verdict registry p = v at decided
  cases v with
  | refused index number => exact .done _
  | found index => exact .done _
  | runs handler object index =>
    rw [Verdict.answer_runs]
    cases decided with
    | reaches accepts row usable aims there =>
      rcases handler_health row with ⟨command, -⟩ | ⟨-, leaves⟩
      · cases aims with
        | given => exact absurd ⟨accepts, command, rfl, _, there⟩ (others _ _)
        | named unset => exact absurd command (usable unset)
      · exact (leaves _ _).bind fun _ => .done _

end Pdu

/-! ## Chores -/

/-- What is to be done with the objects of a node: a request, or an inspection of all of them. -/
inductive Chore where
  | request (p : Packet)
  | inspectAll

namespace Chore

variable {registry : Registry Object} {chore : Chore} {index : UInt16} {acts : Exchanges}
  {r : Except ErrorCode Unit}

/-- What is done for the chore. -/
def run (registry : Registry Object) : Chore → Task Unit
  | request p => discard (Pdu.service.dispatch registry p)
  | inspectAll => Service.inspectAll registry

theorem run_asks (registry : Registry Object) (chore : Chore) :
    Asks Act.IsChore (chore.run registry) := by
  cases chore with
  | request p =>
    refine Asks.bind ?_ fun _ => .done _
    by_cases inspects : ∃ index o, Inspects registry p index o
    · obtain ⟨index, o, inspects⟩ := inspects
      obtain ⟨rest, begins, leaves⟩ := Pdu.dispatch_inspects inspects
      rw [begins]
      exact o.inspect_asks.bind fun r => (leaves r).mono fun _ => Act.LeavesHealth.isChore
    · have others index o (h : Inspects registry p index o) := inspects ⟨index, o, h⟩
      exact (Pdu.dispatch_leaves others).mono fun _ => Act.LeavesHealth.isChore
  | inspectAll => exact inspectEach_asks registry.entries

/-- The chore is to inspect the object with this index, alone or with all others. -/
def IsFor (registry : Registry Object) (index : UInt16) : Chore → Prop
  | request p => ∃ o, Inspects registry p index o
  | inspectAll => ∃ name o, registry.At index name o

/-- With the last of these exchanges, the chore concluded an inspection of the object with this
index, with this outcome. -/
inductive Concludes (registry : Registry Object) :
    Chore → Exchanges → UInt16 → Except ErrorCode Unit → Prop where
  | request {p : Packet} {index : UInt16} {o : Object} {acts : Exchanges}
      {r : Except ErrorCode Unit} (inspects : Inspects registry p index o)
      (inspected : Runs o.inspect acts r) : Concludes registry (.request p) acts index r
  | all {before after : List (String × Object)} {name : String} {o : Object} {index : UInt16}
      {acts acts' : Exchanges} {r : Except ErrorCode Unit}
      (place : registry.entries = before ++ (name, o) :: after)
      (count : index.toNat = before.length + 1) (others : Runs (inspectEach before) acts ())
      (inspected : Runs o.inspect acts' r) : Concludes registry inspectAll (acts ++ acts') index r

namespace Concludes

theorem isFor (h : chore.Concludes registry acts index r) : chore.IsFor registry index := by
  cases h with
  | request inspects => exact ⟨_, inspects⟩
  | all place count => exact ⟨_, _, Registry.at_iff_split.mpr ⟨_, _, place, count⟩⟩

/-- The end of an inspection is that the monitor of just its object is told of the outcome. -/
theorem last (h : chore.Concludes registry acts index r) :
    ∃ name o before, registry.At index name o ∧
      acts = before ++ [⟨.setHealth o.monitor r.isOk, ()⟩] := by
  cases h with
  | request inspects inspected =>
    obtain ⟨name, there⟩ := inspects.there
    obtain ⟨before, rfl⟩ := Object.inspect_last inspected
    exact ⟨name, _, before, there, rfl⟩
  | all place count others inspected =>
    obtain ⟨before, rfl⟩ := Object.inspect_last inspected
    exact ⟨_, _, _, Registry.at_iff_split.mpr ⟨_, _, place, count⟩, (List.append_assoc ..).symm⟩

/-- An inspection ends in one way. -/
theorem outcome_eq {r' : Except ErrorCode Unit} (h : chore.Concludes registry acts index r)
    (h' : chore.Concludes registry acts index r') : r = r' := by
  generalize same : acts = acts' at h'
  cases h with
  | request inspects inspected =>
    cases h' with
    | request inspects' inspected' =>
      subst same
      obtain ⟨_, there⟩ := inspects.there
      obtain ⟨_, there'⟩ := inspects'.there
      obtain ⟨-, rfl⟩ := there.unique there'
      exact inspected.unique inspected'
  | all place count others inspected =>
    cases h' with
    | all place' count' others' inspected' =>
      obtain ⟨rfl, here⟩ := List.append_inj (place.symm.trans place') (by omega)
      cases here
      obtain ⟨rfl, -⟩ := others.unique_of_append others' same
      obtain rfl := List.append_cancel_left same
      exact inspected.unique inspected'

end Concludes

/-- **Health is set at the end of an inspection only.** -/
theorem concludes_of_goes {m : MonitorId} {healthy : Bool} {next : Unit → Task Unit}
    (h : Goes (chore.run registry) acts (.ask (.setHealth m healthy) next)) :
    ∃ index r, chore.Concludes registry (acts ++ [⟨.setHealth m healthy, ()⟩]) index r := by
  cases chore with
  | request p =>
    rcases Goes.ask_of_bind (p := Pdu.service.dispatch registry p) h with
      ⟨next', dispatches⟩ | ⟨_, _, _, -, -, rest⟩
    · by_cases inspects : ∃ index o, Inspects registry p index o
      · obtain ⟨index, o, inspects⟩ := inspects
        obtain ⟨rest, begins, leaves⟩ := Pdu.dispatch_inspects inspects
        rw [begins] at dispatches
        rcases Goes.ask_of_bind dispatches with ⟨next'', first⟩ | ⟨_, _, r, rfl, -, later⟩
        · obtain ⟨r, inspected⟩ := Object.inspect_concludes first
          exact ⟨index, r, .request inspects inspected⟩
        · exact (later.asks (leaves r)).1.elim
      · have others index o (h : Inspects registry p index o) := inspects ⟨index, o, h⟩
        exact (dispatches.asks (Pdu.dispatch_leaves others)).1.elim
    · cases rest
  | inspectAll =>
    obtain ⟨before, name, o, after, acts₁, acts₂, r, place, split, others, inspected⟩ :=
      inspectEach_concludes h
    rw [split]
    refine ⟨UInt16.ofNat (before.length + 1), r, .all place ?_ others inspected⟩
    have few := registry.length_le
    rw [place, List.length_append, List.length_cons] at few
    rw [UInt16.toNat_ofNat']
    exact Nat.mod_eq_of_lt (by omega)

/-- **A chore that is over has inspected what it was for**, each object of all if it was to inspect
all, whatever came of the others. -/
theorem concludes_of_runs (runs : Runs (chore.run registry) acts ())
    (h : chore.IsFor registry index) :
    ∃ before r, before <+: acts ∧ chore.Concludes registry before index r := by
  cases chore with
  | request p =>
    obtain ⟨o, inspects⟩ := h
    obtain ⟨rest, begins, -⟩ := Pdu.dispatch_inspects inspects
    obtain ⟨dispatched, _, _, rfl, runs, -⟩ :=
      Runs.of_bind (p := Pdu.service.dispatch registry p) runs
    rw [begins] at runs
    obtain ⟨before, _, r, rfl, inspected, -⟩ := Runs.of_bind runs
    refine ⟨before, r, ?_, .request inspects inspected⟩
    rw [List.append_assoc]
    exact List.prefix_append ..
  | inspectAll =>
    obtain ⟨name, o, there⟩ := h
    obtain ⟨before, after, place, count⟩ := Registry.at_iff_split.mp there
    have each : Runs (inspectEach (before ++ (name, o) :: after)) acts () := place ▸ runs
    obtain ⟨acts₁, acts₂, r, within, others, inspected⟩ := inspectEach_runs each
    exact ⟨acts₁ ++ acts₂, r, within, .all place count others inspected⟩

end Chore

end DeviceRpc
