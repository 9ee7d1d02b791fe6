import DeviceRpc.Proofs.Device.PlantHost
import DeviceRpc.Proofs.Registry

/-!
# The units of a registry

Seen through a registry, a plant is its strips by index (`Plant.unit?`). Only a command to its own
device changes a unit, and of the commands only a switch does (`Plant.Acts.unit?_eq`).

Nothing here depends on who asks. What is not a command to a device may be answered in any way and
change the monitors in any way (`Plant.Acts`), which covers whatever a plant answers
(`Plant.Answers.acts`).
-/

namespace DeviceRpc

/-- The device that an object stands for. -/
def Object.device? (o : Object) : Option DeviceId :=
  match o.driver with
  | .device d => some d
  | .relay _ => none

namespace Registry

variable {registry : Registry Object} {i j : UInt16} {name : String} {o : Object} {d : DeviceId}

/-- The device of the object with an index. -/
def device? (registry : Registry Object) (i : UInt16) : Option DeviceId :=
  (registry.object? i).bind Object.device?

/-- Every object of the registry is a device of its own. -/
structure Owns (registry : Registry Object) : Prop where
  device : ∀ {i name o}, registry.At i name o → ∃ d, registry.device? i = some d
  apart : ∀ {i j d}, registry.device? i = some d → registry.device? j = some d → i = j

theorem device?_at (there : registry.At i name o) : registry.device? i = o.device? := by
  unfold device?
  rw [object?_eq_some_iff.mpr ⟨name, there⟩]
  rfl

theorem Owns.eq_device (owns : registry.Owns) (there : registry.At i name o) :
    ∃ d m, o = ⟨.device d, m⟩ := by
  obtain ⟨d, device⟩ := owns.device there
  rw [device?_at there] at device
  obtain ⟨driver, m⟩ := o
  cases driver with
  | relay => cases device
  | device d' => exact ⟨d', m, rfl⟩

/-- Where there is a device, there is an object that stands for it. -/
theorem at_of_device? (h : registry.device? i = some d) :
    ∃ name m, registry.At i name ⟨.device d, m⟩ := by
  obtain ⟨⟨driver, m⟩, object, device⟩ := Option.bind_eq_some_iff.mp h
  obtain ⟨name, there⟩ := object?_eq_some_iff.mp object
  cases driver with
  | relay => cases device
  | device d' =>
    cases device
    exact ⟨name, m, there⟩

end Registry

namespace Strip

theorem place?_of_inside {s : Strip} {channel : UInt16} (first : 1 ≤ channel.toNat)
    (last : channel.toNat ≤ s.outlets.length) : s.place? channel = .ok (channel.toNat - 1) := by
  refine if_neg (not_or.mpr ⟨?_, Nat.not_lt.mpr last⟩)
  rintro rfl
  cases first

theorem place?_of_outside {s : Strip} {channel : UInt16}
    (h : ¬ (1 ≤ channel.toNat ∧ channel.toNat ≤ s.outlets.length)) :
    s.place? channel = .error .invalidArgument := by
  refine if_pos (Classical.byContradiction fun inside => ?_)
  obtain ⟨positive, last⟩ := not_or.mp inside
  exact h ⟨Nat.pos_of_ne_zero fun zero => positive (UInt16.toNat.inj zero), Nat.not_lt.mp last⟩

theorem channelOf_error {s : Strip} {name : String} {code : ErrorCode}
    (h : s.channelOf name = .error code) : code = .notFound := by
  unfold channelOf at h
  split at h
  · split at h
    · cases h
    · cases h
      rfl
  · cases h
    rfl

theorem perform_switch_ok {s : Strip} {channel : UInt16} {place : Nat}
    (h : s.place? channel = .ok place) (on : Bool) :
    s.perform (.switch on channel) = (s.switch on place, .ok ()) := by
  rw [perform, h]

theorem perform_switch_error {s : Strip} {channel : UInt16} {code : ErrorCode}
    (h : s.place? channel = .error code) (on : Bool) :
    s.perform (.switch on channel) = (s, .error code) := by
  rw [perform, h]

/-- The place of a channel is one among the outlets. -/
theorem place?_lt {s : Strip} {channel : UInt16} {place : Nat} (h : s.place? channel = .ok place) :
    channel.toNat = place + 1 ∧ place < s.outlets.length := by
  by_cases inside : 1 ≤ channel.toNat ∧ channel.toNat ≤ s.outlets.length
  · obtain ⟨first, last⟩ := inside
    rw [place?_of_inside first last] at h
    cases h
    omega
  · rw [place?_of_outside inside] at h
    cases h

/-- Only a switch changes a strip. -/
theorem perform_still {c : DeviceCommand} (still : ∀ on channel, c ≠ .switch on channel)
    (s : Strip) : (s.perform c).1 = s := by
  cases c with
  | switch on channel => exact absurd rfl (still on channel)
  | probe part =>
    unfold perform
    cases s.fault <;> rfl
  | _ => rfl

end Strip

/-- The act is no switch. -/
def Act.Still (a : Act) : Prop := ∀ d on channel, a ≠ .command d (.switch on channel)

namespace Plant

variable {registry : Registry Object} {plant plant' : Plant} {i : UInt16} {d e : DeviceId}
  {s : Strip} {a : Act} {r : a.Reply}

/-- The strip with a number. -/
def strip? (plant : Plant) (d : DeviceId) : Option Strip :=
  match plant.devices[d]? with
  | some (.strip s) => some s
  | _ => none

/-- The strip that is the unit with an index. -/
def unit? (registry : Registry Object) (plant : Plant) (i : UInt16) : Option Strip :=
  (registry.device? i).bind plant.strip?

/-- The outlets of the unit with an index. -/
def outlets? (registry : Registry Object) (plant : Plant) (i : UInt16) :
    Option (List (String × Bool)) := (plant.unit? registry i).map Strip.outlets

/-- What an act may do to a plant. Everything but a command is answered somehow, and leaves the
devices alone. -/
inductive Acts (plant : Plant) : (a : Act) → a.Reply → Plant → Prop where
  | command (d : DeviceId) (c : DeviceCommand) :
      Acts plant (.command d c) (plant.perform d c).2 (plant.perform d c).1
  | other {a : Act} (other : ∀ d c, a ≠ .command d c) (r : a.Reply) (health : List Bool) :
      Acts plant a r { plant with health }

/-- Whatever a plant answers is among it. -/
theorem Answers.acts (h : plant.Answers a r plant') : plant.Acts a r plant' := by
  cases h with
  | clock time => exact .other (a := .now) (by rintro _ _ ⟨⟩) time plant.health
  | does h =>
    by_cases command : ∃ d c, a = .command d c
    · obtain ⟨d, c, rfl⟩ := command
      cases h
      exact .command d c
    · have kept : plant' = { plant with health := plant'.health } := by
        cases a with
        | command d c => exact absurd ⟨d, c, rfl⟩ command
        | awaitHealthy m limit =>
          by_cases healthy : plant.isHealthy m = true
          · simp only [answer?, if_pos healthy] at h
            cases h
            rfl
          · simp only [answer?, if_neg healthy] at h
            cases limit <;> cases h
            rfl
        | _ => cases h <;> rfl
      rw [kept]
      exact .other (fun d c same => command ⟨d, c, same⟩) r plant'.health

theorem Acts.of_command {c : DeviceCommand} {r : Except ErrorCode c.Reply}
    (h : plant.Acts (.command d c) r plant') :
    r = (plant.perform d c).2 ∧ plant' = (plant.perform d c).1 := by
  cases h with
  | command => exact ⟨rfl, rfl⟩
  | other other => exact absurd rfl (other d c)

theorem strip?_eq_some_iff : plant.strip? d = some s ↔ plant.devices[d]? = some (.strip s) := by
  unfold strip?
  split
  next here =>
    rw [here]
    exact ⟨fun same => by cases same; rfl, fun same => by cases same; rfl⟩
  next other => exact ⟨nofun, fun here => absurd here (other s)⟩

/-! ## What a command changes -/

theorem strip?_perform (plant : Plant) (d e : DeviceId) (c : DeviceCommand) :
    (plant.perform d c).1.strip? e
      = if e = d then (plant.strip? d).map fun s => (s.perform c).1 else plant.strip? e := by
  cases here : plant.devices[d]? with
  | none =>
    have same : (plant.perform d c).1 = plant := by
      unfold perform
      rw [here]
    rw [same]
    split
    next is =>
      subst is
      simp only [strip?, here, Option.map_none]
    next => rfl
  | some device =>
    have inside : d < plant.devices.length := (List.getElem?_eq_some_iff.mp here).1
    have set : (plant.perform d c).1.devices = plant.devices.set d (device.perform c).1 := by
      unfold perform
      rw [here]
    split
    next is =>
      subst is
      simp only [strip?, set, here, List.getElem?_set_self inside]
      cases device <;> rfl
    next other => simp only [strip?, set, List.getElem?_set_ne (Ne.symm other)]

theorem unit?_perform (plant : Plant) (d : DeviceId) (c : DeviceCommand) (i : UInt16) :
    (plant.perform d c).1.unit? registry i
      = if registry.device? i = some d then (plant.unit? registry i).map fun s => (s.perform c).1
        else plant.unit? registry i := by
  unfold unit?
  cases registry.device? i with
  | none => rfl
  | some e =>
    simp only [Option.bind_some, strip?_perform, Option.some.injEq]
    split
    next same => rw [same]
    next => rfl

/-- What is no switch changes no unit. -/
theorem Acts.unit?_eq (h : plant.Acts a r plant') (still : a.Still) (i : UInt16) :
    plant'.unit? registry i = plant.unit? registry i := by
  cases h with
  | other => rfl
  | command d c =>
    rw [unit?_perform]
    split
    · have same : (fun s : Strip => (s.perform c).1) = id :=
        funext <| Strip.perform_still fun on channel is => still d on channel (is ▸ rfl)
      rw [same, Option.map_id, id]
    · rfl

/-- A command to a unit that has its device for itself changes this unit only. -/
theorem unit?_perform_own (owns : registry.Owns) (own : registry.device? i = some d)
    (unit : plant.unit? registry i = some s) (c : DeviceCommand) (j : UInt16) :
    (plant.perform d c).1.unit? registry j
      = if j = i then some (s.perform c).1 else plant.unit? registry j := by
  rw [unit?_perform]
  by_cases same : j = i
  · subst same
    rw [if_pos own, if_pos rfl, unit]
    rfl
  · rw [if_neg same, if_neg fun shared => same (owns.apart shared own)]

theorem strip_of_unit? (own : registry.device? i = some d)
    (unit : plant.unit? registry i = some s) : plant.devices[d]? = some (.strip s) := by
  unfold unit? at unit
  rw [own] at unit
  exact strip?_eq_some_iff.mp unit

/-- A fault changes no outlet. -/
theorem outlets?_change (plant : Plant) (d : DeviceId) (fault : Option ErrorCode) (i : UInt16) :
    (plant.change d (Device.withFault fault)).outlets? registry i = plant.outlets? registry i := by
  have strips (e : DeviceId) :
      ((plant.change d (Device.withFault fault)).strip? e).map Strip.outlets
        = (plant.strip? e).map Strip.outlets := by
    unfold strip? change
    rw [List.getElem?_modify]
    cases plant.devices[e]? with
    | none => rfl
    | some device => by_cases same : d = e <;> cases device <;> simp [same, Device.withFault]
  unfold outlets? unit?
  cases registry.device? i with
  | none => rfl
  | some e => exact strips e

/-! ## One unit -/

theorem oneUnit_at {i : UInt16} {name : String} {o : Object} (there : oneUnit.At i name o) :
    i = 1 ∧ o = ⟨.device 0, 0⟩ := by
  obtain ⟨place, count, entry⟩ := there
  cases place with
  | succ => cases entry
  | zero =>
    cases entry
    exact ⟨UInt16.toNat.inj count, rfl⟩

theorem oneUnit_owns : oneUnit.Owns where
  device there := by
    obtain ⟨-, rfl⟩ := oneUnit_at there
    exact ⟨0, Registry.device?_at there⟩
  apart one other := by
    obtain ⟨_, _, there⟩ := Registry.at_of_device? one
    obtain ⟨_, _, there'⟩ := Registry.at_of_device? other
    exact (oneUnit_at there).1.trans (oneUnit_at there').1.symm

end Plant

end DeviceRpc
