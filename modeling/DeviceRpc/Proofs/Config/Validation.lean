import Mathlib.Data.List.Forall2
import Mathlib.Tactic.MkIffOfInductiveProp
import DeviceRpc.Config.Settings

/-!
# Which settings are accepted

Validation stops at the first thing that is wrong. What it lets through is said here without an
order: which units are accepted (`PduSettings.Accepted`), that they are told apart by their names
(`PduSettings.validateAll_eq_ok_iff`), and what else settings have to say (`Settings.Accepted`). So
it does not matter in which order units are listed, or outlets of a unit
(`Settings.accepted_whatever_order`).
-/

namespace DeviceRpc

/-- What a unit may be: a strip of outlets that can be told apart, or a relay to a named unit at an
address. -/
inductive PduSettings.Accepted (unit : PduSettings) : Prop where
  | strip (named : unit.name ≠ "") (alone : unit.relay = none) (present : unit.outlets ≠ [])
      (given : "" ∉ unit.outlets) (distinct : unit.outlets.Nodup)
      (counted : unit.outlets.length ≤ maxOutlets)
  | relay {relay : RelaySettings} {endpoint : Endpoint} (named : unit.name ≠ "")
      (passed : unit.relay = some relay) (bare : unit.outlets = []) (far : relay.name ≠ "")
      (address : relay.endpoint = .ok endpoint)

theorem RelaySettings.validate_eq_ok_iff {relay : RelaySettings} {pdu : String} :
    relay.validate pdu = .ok () ↔ relay.name ≠ "" ∧ ∃ endpoint, relay.endpoint = .ok endpoint := by
  unfold validate
  by_cases named : relay.name = ""
  · simp [named]
  · cases relay.endpoint with
    | error e => simp [named]
    | ok endpoint => simp [named]

namespace PduSettings

theorem validateOutlets_eq_ok_iff {unit : PduSettings} :
    unit.validateOutlets = .ok () ↔
      "" ∉ unit.outlets ∧ unit.outlets.Nodup ∧ unit.outlets.length ≤ maxOutlets := by
  unfold validateOutlets
  split
  next wrong =>
    simp only [reduceCtorEq, false_iff]
    intro right
    rcases wrong with empty | twice
    · exact right.1 (by simpa using empty)
    · exact twice right.2.1
  next right =>
    have apart : "" ∉ unit.outlets ∧ unit.outlets.Nodup := by simpa using right
    split
    next many =>
      simp only [reduceCtorEq, false_iff]
      intro few
      omega
    next few => simp [apart, Nat.not_lt.mp few]

theorem validate_eq_ok_iff {unit : PduSettings} : unit.validate = .ok () ↔ unit.Accepted := by
  unfold validate
  constructor
  · intro h
    split at h
    next => cases h
    next named =>
      split at h
      next => cases h
      next => cases h
      next relay passed bare =>
        obtain ⟨far, endpoint, address⟩ := RelaySettings.validate_eq_ok_iff.mp h
        exact .relay named passed bare far address
      next outlet outlets alone all =>
        obtain ⟨given, distinct, counted⟩ := validateOutlets_eq_ok_iff.mp h
        refine .strip named alone ?_ given distinct counted
        rw [all]
        exact List.cons_ne_nil outlet outlets
  · intro accepted
    cases accepted with
    | strip named alone present given distinct counted =>
      obtain ⟨outlet, outlets, all⟩ := List.exists_cons_of_ne_nil present
      have accepts := validateOutlets_eq_ok_iff.mpr ⟨given, distinct, counted⟩
      simp only [named, alone, all, if_false]
      exact accepts
    | relay named passed bare far address =>
      simp only [named, passed, bare, if_false]
      exact RelaySettings.validate_eq_ok_iff.mpr ⟨far, _, address⟩

/-- Units are accepted together if each of them is and no two have a name in common, nor one with
the units before. -/
theorem validateAll_eq_ok_iff {units : List PduSettings} : ∀ {seen : List String},
    validateAll seen units = .ok () ↔
      (units.map PduSettings.name).Nodup ∧ ∀ unit ∈ units, unit.name ∉ seen ∧ unit.Accepted := by
  induction units with
  | nil =>
    intro seen
    simp [validateAll]
  | cons unit units ih =>
    intro seen
    have step : validateAll seen (unit :: units) = .ok () ↔
        unit.name ∉ seen ∧ unit.Accepted ∧ validateAll (unit.name :: seen) units = .ok () := by
      rw [← validate_eq_ok_iff, validateAll]
      by_cases old : unit.name ∈ seen
      · simp [old]
      · cases unit.validate with
        | error e => simp [old, bind, Except.bind]
        | ok => simp [old, bind, Except.bind]
    rw [step, ih]
    simp only [List.map_cons, List.nodup_cons, List.mem_cons, List.mem_map, forall_eq_or_imp,
      not_or, not_exists, not_and]
    constructor
    · intro h
      obtain ⟨new, accepted, nodup, rest⟩ := h
      exact ⟨⟨fun later mem same => (rest later mem).1.1 same, nodup⟩, ⟨new, accepted⟩,
        fun later mem => ⟨(rest later mem).1.2, (rest later mem).2⟩⟩
    · intro h
      obtain ⟨⟨apart, nodup⟩, ⟨new, accepted⟩, rest⟩ := h
      exact ⟨new, accepted, nodup, fun later mem =>
        ⟨⟨apart later mem, (rest later mem).1⟩, (rest later mem).2⟩⟩

end PduSettings

/-! ## The node -/

/-- What the settings of a node may be. -/
@[mk_iff accepted_iff]
structure Settings.Accepted (settings : Settings) : Prop where
  version : settings.version = 1
  present : settings.pdus ≠ []
  /-- From 1 KiB to 1 GiB. -/
  room : 1024 ≤ settings.server.maxPayload ∧ settings.server.maxPayload ≤ 1073741824
  address : ∃ endpoint, Endpoint.parse settings.server.listen Protocol.Port.pdu = .ok endpoint
  ops : ∀ listen ∈ settings.ops, SocketAddress.accepts listen = true
  distinct : (settings.pdus.map PduSettings.name).Nodup
  units : ∀ unit ∈ settings.pdus, unit.Accepted

/-- Two checks, one after the other. -/
theorem checks_eq_ok_iff {ε : Type} {first second : Except ε Unit} :
    (first >>= fun _ => second) = .ok () ↔ first = .ok () ∧ second = .ok () := by
  cases first with
  | error e => simp [bind, Except.bind]
  | ok => simp [bind, Except.bind]

theorem ServerSettings.validate_eq_ok_iff {server : ServerSettings} :
    server.validate = .ok () ↔ (1024 ≤ server.maxPayload ∧ server.maxPayload ≤ 1073741824) ∧
      ∃ endpoint, Endpoint.parse server.listen Protocol.Port.pdu = .ok endpoint := by
  unfold validate endpoint
  split
  next room =>
    have room : 1024 ≤ server.maxPayload ∧ server.maxPayload ≤ 1073741824 := room
    cases Endpoint.parse server.listen Protocol.Port.pdu with
    | error e => simp [Except.mapError, Functor.map, Except.map]
    | ok endpoint => simp [room, Except.mapError, Functor.map, Except.map]
  next outside => exact iff_of_false nofun fun valid => outside valid.1

theorem Settings.validateOps_eq_ok_iff {listen : String} :
    validateOps listen = .ok () ↔ SocketAddress.accepts listen = true := by
  unfold validateOps
  split <;> simp_all

/-- Validation accepts just these settings. -/
theorem Settings.validate_eq_ok_iff {settings : Settings} :
    settings.validate = .ok () ↔ settings.Accepted := by
  unfold validate
  split
  next other => exact iff_of_false nofun fun accepted => other accepted.version
  next version =>
    split
    next none => exact iff_of_false nofun fun accepted => accepted.present none
    next present =>
      have version : settings.version = 1 := by simpa using version
      have units := @PduSettings.validateAll_eq_ok_iff settings.pdus []
      rw [checks_eq_ok_iff, ServerSettings.validate_eq_ok_iff, accepted_iff]
      cases settings.ops with
      | none => simp [version, present, units, bind, Except.bind, and_assoc]
      | some listen =>
        simp [version, present, units, checks_eq_ok_iff, validateOps_eq_ok_iff, and_assoc]

/-- Settings that are accepted give the server room for the least payload at least. -/
theorem Settings.server_of_validate {settings : Settings} (valid : settings.validate = .ok ()) :
    ServerSettings.minMaxPayload ≤ settings.server.options.maxPayload :=
  (validate_eq_ok_iff.mp valid).room.1

/-- Settings that are accepted have units, each of them accepted, and no two under one name. -/
theorem Settings.units_of_validate {settings : Settings} (valid : settings.validate = .ok ()) :
    settings.pdus ≠ [] ∧ (settings.pdus.map PduSettings.name).Nodup ∧
      ∀ unit ∈ settings.pdus, unit.Accepted := by
  have accepted := validate_eq_ok_iff.mp valid
  exact ⟨accepted.present, accepted.distinct, accepted.units⟩

/-! ## Order -/

/-- The same unit, with its outlets in some order. -/
structure PduSettings.Reordered (unit unit' : PduSettings) : Prop where
  name : unit'.name = unit.name
  relay : unit'.relay = unit.relay
  outlets : unit'.outlets.Perm unit.outlets

/-- The same units in some order, each with its outlets in some order. -/
def PduSettings.Rearranged (units units' : List PduSettings) : Prop :=
  ∃ moved, units.Perm moved ∧ List.Forall₂ Reordered moved units'

namespace PduSettings

theorem Reordered.symm {unit unit' : PduSettings} (h : Reordered unit unit') :
    Reordered unit' unit :=
  ⟨h.name.symm, h.relay.symm, h.outlets.symm⟩

theorem Accepted.reordered {unit unit' : PduSettings} (accepted : unit.Accepted)
    (h : Reordered unit unit') : unit'.Accepted := by
  cases accepted with
  | strip named alone present given distinct counted =>
    refine .strip (h.name ▸ named) (h.relay ▸ alone) ?_ ?_ ?_ ?_
    · intro none
      exact present (List.perm_nil.mp (none ▸ h.outlets.symm))
    · rwa [h.outlets.mem_iff]
    · exact h.outlets.nodup_iff.mpr distinct
    · rwa [h.outlets.length_eq]
  | relay named passed bare far address =>
    refine .relay (h.name ▸ named) (h.relay.trans passed) ?_ far address
    exact List.perm_nil.mp (bare ▸ h.outlets)

theorem Reordered.accepted_iff {unit unit' : PduSettings} (h : Reordered unit unit') :
    unit.Accepted ↔ unit'.Accepted :=
  ⟨(·.reordered h), (·.reordered h.symm)⟩

theorem Rearranged.names {units units' : List PduSettings} (h : Rearranged units units') :
    (units.map PduSettings.name).Perm (units'.map PduSettings.name) := by
  obtain ⟨moved, perm, reordered⟩ := h
  have same : moved.map PduSettings.name = units'.map PduSettings.name := by
    clear perm
    induction reordered with
    | nil => rfl
    | cons first _ ih => simp [first.name, ih]
  exact same ▸ perm.map PduSettings.name

theorem Rearranged.eq_nil_iff {units units' : List PduSettings} (h : Rearranged units units') :
    units = [] ↔ units' = [] := by
  have length : units.length = units'.length := by simpa using h.names.length_eq
  rw [← List.length_eq_zero_iff, length, List.length_eq_zero_iff]

theorem Rearranged.accepted_iff {units units' : List PduSettings} (h : Rearranged units units') :
    (∀ unit ∈ units, unit.Accepted) ↔ ∀ unit ∈ units', unit.Accepted := by
  obtain ⟨moved, perm, reordered⟩ := h
  simp only [perm.mem_iff]
  clear perm
  induction reordered with
  | nil => rfl
  | cons first _ ih => simp [first.accepted_iff, ih]

end PduSettings

/-- **Validation accepts just the settings that describe a service**, in whatever order they list
their units, and the units their outlets. -/
theorem Settings.accepted_whatever_order (settings : Settings) :
    (settings.validate = .ok () ↔ settings.Accepted) ∧
      ∀ units, PduSettings.Rearranged settings.pdus units →
        ({ settings with pdus := units }.validate = .ok () ↔ settings.validate = .ok ()) := by
  refine ⟨validate_eq_ok_iff, fun units h => ?_⟩
  rw [validate_eq_ok_iff, validate_eq_ok_iff, accepted_iff, accepted_iff]
  simp only [ne_eq, h.eq_nil_iff, h.accepted_iff, h.names.nodup_iff]

/-- Two units, one of them a relay. -/
def Settings.stripAndRelay : Settings where
  ops := some "127.0.0.1:9102"
  pdus := [{ name := "east", outlets := ["mount", "dome"] },
    { name := "west", relay := some { address := "10.0.0.7:13002", name := "pdu" } }]

/-- They are accepted in either order, and the outlets of the first one too. -/
theorem Settings.accepted_stripAndRelay :
    let units : List PduSettings := [
      { name := "west", relay := some { address := "10.0.0.7:13002", name := "pdu" } },
      { name := "east", outlets := ["dome", "mount"] }]
    PduSettings.Rearranged stripAndRelay.pdus units ∧
      { stripAndRelay with pdus := units }.validate = .ok () := by
  intro units
  have rearranged : PduSettings.Rearranged stripAndRelay.pdus units := by
    refine ⟨_, .swap _ _ _, .cons ⟨rfl, rfl, .refl _⟩ (.cons ⟨rfl, rfl, .swap _ _ _⟩ .nil)⟩
  have valid : stripAndRelay.validate = .ok () := by rfl
  exact ⟨rearranged, ((stripAndRelay.accepted_whatever_order).2 units rearranged).mpr valid⟩

end DeviceRpc
