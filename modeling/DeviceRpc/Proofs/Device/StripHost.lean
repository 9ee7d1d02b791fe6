import DeviceRpc.Proofs.Device.Units
import DeviceRpc.Proofs.Relay.Inquiry

/-!
# A strip in a plant

A strip stays a strip with as many outlets and the same fault, whatever it is told. So a plant that
has one answers every inquiry to it as the strip does (`Plant.run?_ask_strip`), and the answer can
travel: a code has a number on the wire, and a status is as long as the strip (`Plant.ask_strip`).
-/

namespace DeviceRpc

namespace Strip

variable {s : Strip} {channel : UInt16} {code : ErrorCode}

/-- The fault, if there is one, has a number on the wire. -/
def Sound (s : Strip) : Prop := ∀ code, s.fault = some code → code.Numbered

/-! ## One command -/

/-- A channel is refused for one reason only. -/
theorem place?_error (h : s.place? channel = .error code) : code = .invalidArgument := by
  unfold place? at h
  split at h
  · cases h
    rfl
  · cases h

theorem map_place?_error {α : Type} {f : Nat → α} (h : f <$> s.place? channel = .error code) :
    code = .invalidArgument := by
  cases placed : s.place? channel with
  | error code' =>
    rw [placed] at h
    cases h
    exact place?_error placed
  | ok => rw [placed] at h; cases h

theorem perform_switch (s : Strip) (on : Bool) (channel : UInt16) :
    (s.perform (.switch on channel)).2 = (fun _ => ()) <$> s.place? channel := by
  rw [perform]
  cases s.place? channel <;> rfl

theorem perform_outlets (s : Strip) (c : DeviceCommand) :
    (s.perform c).1.outlets.length = s.outlets.length := by
  cases c with
  | switch on channel =>
    rw [perform]
    cases s.place? channel with
    | error => rfl
    | ok place => exact List.length_modify ..
  | probe part =>
    unfold perform
    cases s.fault <;> rfl
  | _ => rfl

theorem perform_fault (s : Strip) (c : DeviceCommand) : (s.perform c).1.fault = s.fault := by
  cases c with
  | switch on channel =>
    rw [perform]
    cases s.place? channel <;> rfl
  | probe part =>
    unfold perform
    cases h : s.fault <;> exact h
  | _ => rfl

theorem perform_error (sound : s.Sound) {c : DeviceCommand} (h : (s.perform c).2 = .error code) :
    code.Numbered := by
  have refused (reason : code = .invalidArgument) : code.Numbered := by
    rw [reason]
    rfl
  cases c with
  | switch on channel =>
    rw [perform_switch] at h
    exact refused (map_place?_error h)
  | voltage channel => exact refused (map_place?_error h)
  | current channel => exact refused (map_place?_error h)
  | status => cases h
  | channelOf name =>
    obtain rfl := channelOf_error h
    rfl
  | probe part =>
    unfold perform at h
    cases fault : s.fault with
    | none => rw [fault] at h; cases h
    | some code' =>
      rw [fault] at h
      cases h
      exact sound code fault

/-! ## One inquiry -/

/-- What a strip answers to an inquiry. -/
def answer (s : Strip) : (q : Inquiry) → Except ErrorCode q.Answer
  | .switch on channel => (s.perform (.switch on channel)).2
  | .voltage channel => (s.perform (.voltage channel)).2
  | .current channel => (s.perform (.current channel)).2
  | .voltageCurrent channel =>
    match (s.perform (.voltage channel)).2 with
    | .error code => .error code
    | .ok v => (s.perform (.current channel)).2.map (v, ·)
  | .status => .ok s.status
  | .channelOf name => s.channelOf name
  | .inspect => (s.perform (.probe 0)).2

/-- The strip after an inquiry. -/
def after (s : Strip) : Inquiry → Strip
  | .switch on channel => (s.perform (.switch on channel)).1
  | _ => s

theorem after_outlets (s : Strip) (q : Inquiry) :
    (s.after q).outlets.length = s.outlets.length := by
  cases q with
  | switch on channel => exact perform_outlets s (.switch on channel)
  | _ => rfl

theorem after_fault (s : Strip) (q : Inquiry) : (s.after q).fault = s.fault := by
  cases q with
  | switch on channel => exact perform_fault s (.switch on channel)
  | _ => rfl

/-- Both readings are refused for the same channels. -/
theorem answer_voltageCurrent (s : Strip) (channel : UInt16) :
    s.answer (.voltageCurrent channel)
      = (fun place => (nominalVoltage, if s.isOn place then outletLoad else .zero))
          <$> s.place? channel := by
  simp only [answer, perform]
  cases s.place? channel <;> rfl

theorem answer_error (sound : s.Sound) {q : Inquiry} (h : s.answer q = .error code) :
    code.Numbered := by
  cases q with
  | switch on channel => exact perform_error (c := .switch on channel) sound h
  | voltage channel => exact perform_error (c := .voltage channel) sound h
  | current channel => exact perform_error (c := .current channel) sound h
  | voltageCurrent channel =>
    rw [answer_voltageCurrent] at h
    obtain rfl := map_place?_error h
    rfl
  | status => cases h
  | channelOf name => exact perform_error (c := .channelOf name) sound h
  | inspect => exact perform_error (c := .probe 0) sound h

/-- The answer can travel to a reader that admits a byte for each outlet. -/
theorem Sound.travels (sound : s.Sound) {q : Inquiry} {maxPayload : Nat}
    (fits : q = .status → s.outlets.length ≤ maxPayload ∧ s.outlets.length < UInt32.size) :
    q.Sound maxPayload (s.answer q) := by
  cases answered : s.answer q with
  | error code => exact answer_error sound answered
  | ok a =>
    cases q with
    | status =>
      cases answered
      show s.status.length ≤ maxPayload ∧ s.status.length < UInt32.size
      rw [status, List.length_map]
      exact fits rfl
    | _ => trivial

end Strip

namespace Plant

variable {n : Nat} {d : DeviceId} {p : Plant} {s : Strip}

/-- The device is a sound strip with this many outlets. -/
def HasStrip (n : Nat) (d : DeviceId) (p : Plant) : Prop :=
  ∃ s : Strip, p.devices[d]? = some (.strip s) ∧ s.outlets.length = n ∧ s.Sound

theorem oneOutlet_hasStrip : oneOutlet.HasStrip 1 0 := by
  refine ⟨_, rfl, rfl, ?_⟩
  intro code fault
  cases fault

theorem perform_strip (strip : p.devices[d]? = some (.strip s)) (c : DeviceCommand) :
    (p.perform d c).2 = (s.perform c).2 := by
  unfold perform
  rw [strip]
  rfl

theorem perform_strip_device (strip : p.devices[d]? = some (.strip s)) (c : DeviceCommand) :
    (p.perform d c).1.devices[d]? = some (.strip (s.perform c).1) := by
  have inside : d < p.devices.length := (List.getElem?_eq_some_iff.mp strip).1
  unfold perform
  rw [strip]
  exact List.getElem?_set_self inside

theorem run?_command (d : DeviceId) (c : DeviceCommand) (p : Plant) :
    run? (ask (.command d c)) p = some ((p.perform d c).2, (p.perform d c).1) := rfl

theorem run?_command_strip (strip : p.devices[d]? = some (.strip s)) (c : DeviceCommand) :
    run? (ask (.command d c)) p = some ((s.perform c).2, (p.perform d c).1) := by
  rw [run?_command, perform_strip strip]

theorem run?_voltageCurrent (strip : p.devices[d]? = some (.strip s)) (m : MonitorId)
    (channel : UInt16) :
    ∃ p', run? ((Inquiry.voltageCurrent channel).ask ⟨.device d, m⟩) p
        = some (s.answer (.voltageCurrent channel), p') ∧
      p'.devices[d]? = some (.strip s) := by
  have first := run?_command_strip strip (.voltage channel)
  have strip' := perform_strip_device strip (.voltage channel)
  have second := run?_command_strip strip' (.current channel)
  unfold Inquiry.ask Driver.voltageCurrent
  simp only [run?_bind, first, Option.bind_some]
  cases voltage : (s.perform (.voltage channel)).2 with
  | error code =>
    refine ⟨_, ?_, strip'⟩
    simp only [Strip.answer, voltage]
    rfl
  | ok v =>
    refine ⟨_, ?_, perform_strip_device strip' (.current channel)⟩
    simp only [Strip.answer, voltage, run?_bind, second]
    rfl

/-- A strip has one part, so the first finding decides. -/
theorem run?_inspect (strip : p.devices[d]? = some (.strip s)) (m : MonitorId) :
    ∃ p', run? (Inquiry.inspect.ask ⟨.device d, m⟩) p = some (s.answer .inspect, p') ∧
      p'.devices[d]? = some (.strip s) := by
  have one : run? (ask (.parts d)) p = some (1, p) := by
    show some (p.parts d, p) = some (1, p)
    unfold Plant.parts
    rw [strip]
    rfl
  have inspects : run? (Inquiry.inspect.ask ⟨.device d, m⟩) p
      = run? (Health.inspect m [ask (.command d (.probe 0))]) p := by
    show run? (ask (.parts d) >>= fun n =>
      Health.inspect m ((List.range n).map fun part => ask (.command d (.probe part)))) p = _
    rw [run?_bind, one]
    rfl
  have strip' : (p.perform d (.probe 0)).1.devices[d]? = some (.strip s) := by
    rw [perform_strip_device strip, Strip.perform_still fun _ _ same => by cases same]
  rw [inspects]
  unfold Health.inspect
  rw [run?_bind, run?_command_strip strip, Strip.answer]
  cases (s.perform (.probe 0)).2 with
  | error code => exact ⟨_, rfl, strip'⟩
  | ok => exact ⟨_, rfl, strip'⟩

/-- A plant answers an inquiry to a strip as the strip does. -/
theorem run?_ask_strip (strip : p.devices[d]? = some (.strip s)) (m : MonitorId) (q : Inquiry) :
    ∃ p', run? (q.ask ⟨.device d, m⟩) p = some (s.answer q, p') ∧
      p'.devices[d]? = some (.strip (s.after q)) := by
  cases q with
  | switch | voltage | current | status | channelOf =>
    exact ⟨_, run?_command_strip strip _, perform_strip_device strip _⟩
  | voltageCurrent channel => exact run?_voltageCurrent strip m channel
  | inspect => exact run?_inspect strip m

/-- A strip answers every inquiry and stays one. -/
theorem ask_strip (h : p.HasStrip n d) (m : MonitorId) (q : Inquiry) :
    ∃ a p', run? (q.ask ⟨.device d, m⟩) p = some (a, p') ∧ p'.HasStrip n d ∧
      ∀ maxPayload, (q = .status → n ≤ maxPayload ∧ n < UInt32.size) → q.Sound maxPayload a := by
  obtain ⟨s, strip, rfl, sound⟩ := h
  obtain ⟨p', runs, strip'⟩ := run?_ask_strip strip m q
  refine ⟨s.answer q, p', runs, ⟨s.after q, strip', s.after_outlets q, ?_⟩,
    fun maxPayload fits => sound.travels fits⟩
  intro code fault
  rw [Strip.after_fault] at fault
  exact sound code fault

end Plant

end DeviceRpc
