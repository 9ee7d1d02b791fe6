import Mathlib.Logic.Relation
import DeviceRpc.Proofs.Device.Inspection
import DeviceRpc.Proofs.Device.Waiting
import DeviceRpc.Proofs.World.Untouched

/-!
# What a monitor shows

Any number of tasks may inspect the object of a monitor, declare its health, or wait for it. They
take turns between any two acts, and anything else may happen in between that leaves the monitor
alone (`Monitoring.Step`). Each time one of them finishes that inspected or declared, its finding is
noted.

At any time the monitor shows the last finding (`Monitoring.Kept`): an inspection that is under way
has not touched it yet, and one that was given up never will. So a wait is over only when the last
that was found is a success of a whole inspection, or when health was declared
(`Monitoring.shows_last_finding`).
-/

namespace DeviceRpc

open Prog (Goes Runs)

/-- The act does not set this monitor. -/
def Act.Spares (m : MonitorId) (a : Act) : Prop := ∀ healthy, a ≠ .setHealth m healthy

theorem Act.IsDriving.spares {a : Act} (h : a.IsDriving fun _ => True) (m : MonitorId) :
    a.Spares m := by
  rintro healthy rfl
  exact h

namespace Health

/-! ## What is done with a monitor -/

/-- A use of a monitor. The probes of an inspection are listed at its start. -/
inductive Use where
  | inspect (probes : Task (List Probe))
  | declare (healthy : Bool)
  | wait (nanoseconds : Option Nat)

/-- What was found, by an inspection with what it exchanged, or by declaring it. -/
inductive Finding where
  | inspected (probes : Task (List Probe)) (acts : Exchanges) (r : Except ErrorCode Unit)
  | declared (healthy : Bool)

namespace Finding

/-- Whether an object is found healthy. -/
def healthy : Finding → Bool
  | inspected _ _ r => r.isOk
  | declared healthy => healthy

/-- The last finding, or what was shown when there was none. -/
def latest (initially : Bool) (findings : List Finding) : Bool :=
  (findings.getLast?.map healthy).getD initially

theorem latest_concat (initially : Bool) (findings : List Finding) (v : Finding) :
    latest initially (findings ++ [v]) = v.healthy := by
  simp [latest]

end Finding

/-- An object is shown healthy after these findings: an inspection that succeeded or a declaration
was the last. -/
inductive ShownHealthy (initially : Bool) : List Finding → Prop where
  | untouched (h : initially = true) : ShownHealthy initially []
  | inspected (before : List Finding) (probes : Task (List Probe)) (acts : Exchanges) :
      ShownHealthy initially (before ++ [.inspected probes acts (.ok ())])
  | declared (before : List Finding) : ShownHealthy initially (before ++ [.declared true])

theorem shownHealthy_of_latest {initially : Bool} {findings : List Finding}
    (h : Finding.latest initially findings = true) : ShownHealthy initially findings := by
  rcases List.eq_nil_or_concat' findings with rfl | ⟨before, v, rfl⟩
  · exact .untouched h
  · rw [Finding.latest_concat] at h
    cases v with
    | declared healthy =>
      cases h
      exact .declared before
    | inspected probes acts r =>
      cases r with
      | error code => cases h
      | ok => exact .inspected before probes acts

namespace Use

/-- What a task does that uses a monitor. -/
def run (m : MonitorId) : Use → Task (Except ErrorCode Unit)
  | inspect probes => probes >>= Health.inspect m
  | declare healthy => ask (.setHealth m healthy) >>= fun _ => .done (.ok ())
  | wait nanoseconds => Health.wait m nanoseconds

/-- Probes leave the monitor to the inspection. -/
def Spares (m : MonitorId) : Use → Prop
  | inspect probes =>
    Gives (Act.Spares m) (fun probes => ∀ probe ∈ probes, Asks (Act.Spares m) probe) probes
  | _ => True

/-- The finding of a use, given what it exchanged and what is left of it. -/
def findings (use : Use) (acts : Exchanges) (left : Task (Except ErrorCode Unit)) : List Finding :=
  match use, left with
  | inspect probes, .done r => [.inspected probes acts r]
  | declare healthy, .done _ => [.declared healthy]
  | _, _ => []

/-- Only an inspection that is over gives the finding of one. -/
theorem of_inspected_mem {use : Use} {acts acts' : Exchanges}
    {left : Task (Except ErrorCode Unit)} {probes : Task (List Probe)} {r : Except ErrorCode Unit}
    (h : .inspected probes acts' r ∈ use.findings acts left) :
    use = .inspect probes ∧ acts' = acts ∧ left = .done r := by
  cases use with
  | wait => cases h
  | declare => cases left <;> simp [findings] at h
  | inspect =>
    cases left with
    | ask => cases h
    | done =>
      obtain ⟨rfl, rfl, rfl⟩ := Finding.inspected.inj (List.mem_singleton.mp h)
      exact ⟨rfl, rfl, rfl⟩

/-- The inspection of an object is a use of its monitor, and its driver spares every monitor. -/
theorem object_run (o : Object) : (inspect o.driver.probes).run o.monitor = o.inspect := rfl

theorem object_spares (o : Object) (m : MonitorId) : (inspect o.driver.probes).Spares m := by
  have spares {α : Type} {P : α → Prop} {p : Task α} (h : Drives (fun _ => True) P p) :
      Gives (Act.Spares m) P p :=
    h.keeps (fun _ a r _ _ => a.provides_any r) fun _ _ driving => driving.spares m
  exact (spares o.driver.probes_drives).mono fun _ each probe mem => (spares (each probe mem)).asks

end Use

end Health

open Health (Probe Use Finding)

/-! ## Tasks that take turns -/

/-- Somebody who uses a monitor, and how far it is. -/
structure Monitoring.User where
  task : TaskId
  use : Use
  /-- How many findings there were when it began. -/
  since : Nat
  left : Task (Except ErrorCode Unit)
  acts : Exchanges := []

/-- A monitor with those who use it, and all findings in their order. -/
structure Monitoring where
  world : World
  users : List Monitoring.User := []
  findings : List Finding := []

namespace Monitoring

/-- What may happen to a monitor. -/
inductive Step (m : MonitorId) : Monitoring → Monitoring → Prop where
  | begins (s : Monitoring) (t : TaskId) (use : Use) (spares : use.Spares m) :
      Step m s { s with users := s.users ++ [⟨t, use, s.findings.length, use.run m, []⟩] }
  | answers {s : Monitoring} (k : Nat) {t : TaskId} {use : Use} {since : Nat} {acts : Exchanges}
      {a : Act} {next : a.Reply → Task (Except ErrorCode Unit)} {r : a.Reply} {w : World}
      (here : s.users[k]? = some ⟨t, use, since, .ask a next, acts⟩)
      (answered : s.world.answer t a = (w, some r)) :
      Step m s
        { world := w
          users := s.users.set k ⟨t, use, since, next r, acts ++ [⟨a, r⟩]⟩
          findings := s.findings ++ use.findings (acts ++ [⟨a, r⟩]) (next r) }
  | waits {s : Monitoring} (k : Nat) {u : User} {a : Act}
      {next : a.Reply → Task (Except ErrorCode Unit)} {w : World} (here : s.users[k]? = some u)
      (asks : u.left = .ask a next) (unanswered : s.world.answer u.task a = (w, none)) :
      Step m s { s with world := w }
  /-- Somebody goes, who has done or who is given up. -/
  | leaves {s : Monitoring} (k : Nat) {u : User} {w : World} (here : s.users[k]? = some u)
      (left : w = s.world ∨ w = s.world.abandon u.task) :
      Step m s { s with world := w, users := s.users.eraseIdx k }
  /-- Other tasks go on, devices change, or time passes. -/
  | outside (s : Monitoring) {w : World} (same : w.plant.health[m]? = s.world.plant.health[m]?) :
      Step m s { s with world := w }

/-- Any number of steps. -/
abbrev Reached (m : MonitorId) : Monitoring → Monitoring → Prop := Relation.ReflTransGen (Step m)

/-! ## One answer -/

variable {m : MonitorId} {use : Use} {acts : Exchanges} {a : Act}
  {next : a.Reply → Task (Except ErrorCode Unit)} {r : a.Reply} {w w' : World} {t : TaskId}

theorem wait_spares (m : MonitorId) (ns : Option Nat) :
    Asks (Act.Spares m) (Health.wait m ns) := by
  have looks (limit : Option Instant) : Asks (Act.Spares m) (Health.look m limit) :=
    .request (fun _ => nofun) fun _ => .done _
  cases ns with
  | none => exact looks none
  | some ns => exact .request (fun _ => nofun) fun _ => looks _

/-- An inspection ends with the act that sets the monitor. -/
theorem inspected_last {probes : Task (List Probe)} {r : Except ErrorCode Unit}
    (h : Runs (probes >>= Health.inspect m) acts r) :
    ∃ before, acts = before ++ [⟨.setHealth m r.isOk, ()⟩] := by
  obtain ⟨first, rest, list, rfl, -, h⟩ := Runs.of_bind h
  obtain ⟨before, rfl⟩ := Health.inspect_last h
  exact ⟨first ++ before, (List.append_assoc ..).symm⟩

/-- Who sets the monitor is about to finish, and there is a finding then; nobody else has one. -/
theorem findings_cases (spares : use.Spares m) (goes : Goes (use.run m) acts (.ask a next)) :
    (a.Spares m ∧ use.findings (acts ++ [⟨a, r⟩]) (next r) = []) ∨
      ∃ v, a = .setHealth m v.healthy ∧ use.findings (acts ++ [⟨a, r⟩]) (next r) = [v] := by
  cases use with
  | wait ns => exact .inl ⟨(goes.asks (wait_spares m ns)).1, rfl⟩
  | declare healthy =>
    cases goes with
    | refl => exact .inr ⟨.declared healthy, rfl, rfl⟩
    | ask _ goes => cases goes
  | inspect probes =>
    by_cases spared : a.Spares m
    · refine .inl ⟨spared, ?_⟩
      cases left : next r with
      | ask => rfl
      | done outcome =>
        have finished := goes.concat r
        rw [left] at finished
        obtain ⟨before, split⟩ := inspected_last finished.runs
        obtain ⟨-, same⟩ := List.append_inj' split rfl
        exact absurd (congrArg Sigma.fst (List.cons.inj same).1) (spared _)
    · refine .inr ?_
      rcases Goes.of_bind goes with ⟨_, _, same, listing⟩ | ⟨_, _, list, rfl, listed, rest⟩
      · cases same
        exact absurd (listing.asks spares.asks).1 spared
      · cases Health.inspect_stage (spares.runs listed) rest with
        | probing _ asks => exact absurd asks spared
        | @concluding runs outcome => exact ⟨.inspected probes _ outcome, rfl, rfl⟩

/-- A wait succeeds where the object is healthy. -/
theorem healthy_of_released {ns : Option Nat} (goes : Goes (Health.wait m ns) acts (.ask a next))
    (finished : next r = .done (.ok ())) (answered : w.answer t a = (w', some r)) :
    w.health m = true := by
  have looks {limit : Option Instant} {acts : Exchanges}
      (goes : Goes (Health.look m limit) acts (.ask a next)) : w.health m = true := by
    cases goes with
    | ask _ goes => cases goes
    | refl =>
      have told := congrArg Prod.snd answered
      simp only [World.answer] at told
      cases r with
      | false => cases finished
      | true =>
        split at told
        · assumption
        · split at told <;> cases told
  cases ns with
  | none => exact looks goes
  | some ns =>
    cases goes with
    | refl => cases finished
    | ask _ goes => exact looks goes

/-! ## What holds at any time -/

/-- What is true of somebody who uses a monitor, after all these findings. -/
structure Sound (m : MonitorId) (initially : Bool) (findings : List Finding) (u : User) :
    Prop where
  spares : u.use.Spares m
  goes : Goes (u.use.run m) u.acts u.left
  /-- Who has finished has given a finding. -/
  noted : ∀ v ∈ u.use.findings u.acts u.left, v ∈ findings
  begun : u.since ≤ findings.length
  /-- A wait was over when the object was shown healthy, at its start or later. -/
  released : ∀ ns, u.use = .wait ns → u.left = .done (.ok ()) → ∃ before, before <+: findings ∧
    u.since ≤ before.length ∧ Finding.latest initially before = true

/-- What is true of a monitor at any time. -/
structure Kept (m : MonitorId) (initially : Bool) (s : Monitoring) : Prop where
  health : s.world.plant.health[m]? = some (Finding.latest initially s.findings)
  users : ∀ u ∈ s.users, Sound m initially s.findings u
  /-- The finding of an inspection is that of a whole one. -/
  whole : ∀ probes acts r, .inspected probes acts r ∈ s.findings →
    (Use.inspect probes).Spares m ∧ Runs (probes >>= Health.inspect m) acts r

variable {initially : Bool} {s s' : Monitoring} {findings : List Finding}

/-- Later findings take nothing back. -/
theorem Sound.later {u : User} (h : Sound m initially findings u) (more : List Finding) :
    Sound m initially (findings ++ more) u where
  spares := h.spares
  goes := h.goes
  noted v mem := List.mem_append_left _ (h.noted v mem)
  begun := by
    rw [List.length_append]
    exact Nat.le_add_right_of_le h.begun
  released ns wait finished := by
    obtain ⟨before, within, since, healthy⟩ := h.released ns wait finished
    exact ⟨before, within.trans (List.prefix_append ..), since, healthy⟩

/-- Who begins. -/
theorem Sound.begins (t : TaskId) (spares : use.Spares m) (findings : List Finding) :
    Sound m initially findings ⟨t, use, findings.length, use.run m, []⟩ where
  spares := spares
  goes := .refl
  noted v mem := by
    cases use with
    | declare => cases mem
    | wait => cases mem
    | inspect probes =>
      cases left : (Use.inspect probes).run m with
      | ask =>
        rw [left] at mem
        cases mem
      | done r =>
        have runs : Runs (probes >>= Health.inspect m) [] r := by
          rw [show probes >>= Health.inspect m = _ from left]
          exact .done r
        obtain ⟨before, split⟩ := inspected_last runs
        exact absurd split.symm (List.append_ne_nil_of_right_ne_nil before (List.cons_ne_nil _ _))
  begun := Nat.le_refl _
  released ns wait finished := by
    subst wait
    cases ns <;> cases finished

theorem Kept.world (h : s.Kept m initially) (same : w.plant.health[m]? = s.world.plant.health[m]?) :
    Kept m initially { s with world := w } where
  health := same.trans h.health
  users := h.users
  whole := h.whole

section

variable {k since : Nat}

/-- What an answer does to the monitor. -/
theorem Kept.health_answered (h : s.Kept m initially)
    (goes : Goes (use.run m) acts (.ask a next)) (spares : use.Spares m) :
    (s.world.answer t a).1.plant.health[m]? = some (Finding.latest initially
      (s.findings ++ use.findings (acts ++ [⟨a, r⟩]) (next r))) := by
  rcases findings_cases (r := r) spares goes with ⟨spared, none⟩ | ⟨v, rfl, one⟩
  · rw [none, List.append_nil, World.answer_health spared]
    exact h.health
  · rw [one, Finding.latest_concat]
    exact List.getElem?_set_self (List.getElem?_eq_some_iff.mp h.health).1

/-- **One answer** to somebody who uses the monitor. -/
theorem Kept.answered (h : s.Kept m initially)
    (here : s.users[k]? = some ⟨t, use, since, .ask a next, acts⟩)
    (answered : s.world.answer t a = (w, some r)) :
    Kept m initially
      { world := w
        users := s.users.set k ⟨t, use, since, next r, acts ++ [⟨a, r⟩]⟩
        findings := s.findings ++ use.findings (acts ++ [⟨a, r⟩]) (next r) } := by
  obtain ⟨spares, goes, -, begun, -⟩ := h.users _ (List.mem_of_getElem? here)
  obtain rfl : (s.world.answer t a).1 = w := congrArg Prod.fst answered
  have finished : Goes (use.run m) (acts ++ [⟨a, r⟩]) (next r) := goes.concat r
  constructor
  · exact h.health_answered goes spares
  · intro u mem
    rcases List.mem_or_eq_of_mem_set mem with old | rfl
    · exact (h.users u old).later _
    · refine ⟨spares, finished, fun v mem => List.mem_append_right _ mem, ?_, ?_⟩
      · rw [List.length_append]
        exact Nat.le_add_right_of_le begun
      · rintro ns rfl released
        have healthy := healthy_of_released goes released answered
        refine ⟨s.findings, List.prefix_append .., begun, ?_⟩
        have shown : s.world.plant.health.getD m false = true := healthy
        rw [List.getD_eq_getElem?_getD, h.health] at shown
        exact shown
  · intro probes acts' outcome mem
    rcases List.mem_append.mp mem with old | new
    · exact h.whole probes acts' outcome old
    · obtain ⟨rfl, rfl, left⟩ := Use.of_inspected_mem new
      rw [left] at finished
      exact ⟨spares, finished.runs⟩

end

theorem Kept.step (h : s.Kept m initially) (step : Step m s s') : s'.Kept m initially := by
  cases step with
  | begins t use spares =>
    refine ⟨h.health, ?_, h.whole⟩
    intro u mem
    rcases List.mem_append.mp mem with old | new
    · exact h.users u old
    · obtain rfl := List.mem_singleton.mp new
      exact .begins t spares s.findings
  | answers k here answered => exact h.answered here answered
  | @waits k u a next w here asks unanswered =>
    -- whoever has to wait is not about to set the monitor
    have spared : a.Spares m := by
      rintro healthy rfl
      cases unanswered
    obtain rfl : (s.world.answer u.task a).1 = w := congrArg Prod.fst unanswered
    exact h.world (World.answer_health spared)
  | @leaves k u w here left =>
    have same : w.plant.health[m]? = s.world.plant.health[m]? := by
      rcases left with rfl | rfl
      · rfl
      · rw [World.abandon_plant]
    have h := h.world same
    exact ⟨h.health, fun u mem => h.users u (List.mem_of_mem_eraseIdx mem), h.whole⟩
  | outside same => exact h.world same

theorem Kept.reached (h : s.Kept m initially) (reached : Reached m s s') : s'.Kept m initially := by
  induction reached with
  | refl => exact h
  | tail _ step ih => exact ih.step step

/-! ## The last finding -/

/-- An inspection by itself. -/
structure Exact (m : MonitorId) : Prop where
  /-- Whatever comes of its probes, it comes to the first failure. -/
  returns : ∀ probes outcomes,
    List.Forall₂ (fun probe outcome => ∃ acts, Runs probe acts outcome) probes outcomes →
      ∃ acts, Runs (Health.inspect m probes) acts (Health.conclusion outcomes)
  /-- It runs the probes up to that one, and then sets health. -/
  runs : ∀ probes acts r, Runs (Health.inspect m probes) acts r ↔
    ∃ runs, Health.Probed probes runs r ∧ acts = runs.flatten ++ [⟨.setHealth m r.isOk, ()⟩]

theorem exact_of_any (m : MonitorId) : Exact m where
  returns probes outcomes each := by
    obtain ⟨runs, probed⟩ := Health.exists_probed each
    exact ⟨_, probed.inspect_runs⟩
  runs _ _ _ := Health.inspect_runs_iff

/-- Any number of users agree on what a monitor shows. -/
structure Consistent (m : MonitorId) (initially : Bool) (s : Monitoring) : Prop where
  health : s.world.plant.health[m]? = some (Finding.latest initially s.findings)
  /-- Only a finding changes health. -/
  changed : ∀ s', Step m s s' → s'.world.plant.health[m]? ≠ s.world.plant.health[m]? →
    ∃ v, s'.findings = s.findings ++ [v]
  /-- The finding of an inspection is that of its probes, and it was recorded at the end only. -/
  inspected : ∀ probes acts r, .inspected probes acts r ∈ s.findings → ∃ listed list runs,
    Runs probes listed list ∧ Health.Probed list runs r ∧
      acts = listed ++ (runs.flatten ++ [⟨.setHealth m r.isOk, ()⟩]) ∧
      ∀ x ∈ listed ++ runs.flatten, x.1.Spares m
  /-- An inspection has given its finding, or it has not touched the monitor yet. -/
  underway : ∀ u ∈ s.users, ∀ probes, u.use = .inspect probes →
    (∃ r, u.left = .done r ∧ .inspected probes u.acts r ∈ s.findings) ∨
      ((∀ r, u.left ≠ .done r) ∧ ∀ x ∈ u.acts, x.1.Spares m)
  /-- Who waited was released by an inspection that succeeded, or by a declaration. -/
  released : ∀ u ∈ s.users, ∀ ns, u.use = .wait ns → u.left = .done (.ok ()) →
    ∃ before, before <+: s.findings ∧ u.since ≤ before.length ∧
      Health.ShownHealthy initially before

/-- There is a finding more after a step, or none. -/
theorem Step.findings_cases (step : Step m s s') :
    s'.findings = s.findings ∨ ∃ v, s'.findings = s.findings ++ [v] := by
  cases step with
  | @answers k t use since acts a next r w =>
    cases use with
    | wait => exact .inl (List.append_nil _)
    | declare =>
      cases left : next r with
      | ask => exact .inl (List.append_nil _)
      | done => exact .inr ⟨_, rfl⟩
    | inspect =>
      cases left : next r with
      | ask => exact .inl (List.append_nil _)
      | done => exact .inr ⟨_, rfl⟩
  | _ => exact .inl rfl

/-- The probes of an inspection that is over spared the monitor. -/
theorem probes_spare {probes : Task (List Probe)} {listed : Exchanges} {list : List Probe}
    {runs : List Exchanges} {outcome : Except ErrorCode Unit}
    (spares : (Use.inspect probes).Spares m) (listing : Runs probes listed list)
    (probed : Health.Probed list runs outcome) : ∀ x ∈ listed ++ runs.flatten, x.1.Spares m := by
  refine List.forall_mem_append.mpr ⟨listing.goes.asked spares.asks, ?_⟩
  have each := spares.runs listing
  clear listing
  induction probed with
  | all => exact fun _ mem => nomatch mem
  | passed run _ ih =>
    obtain ⟨here, later⟩ := List.forall_mem_cons.mp each
    exact List.forall_mem_append.mpr ⟨run.goes.asked here, ih later⟩
  | failed run =>
    rw [List.flatten_singleton]
    exact run.goes.asked (each _ (List.mem_cons_self ..))

/-- An inspection that is not over has not touched the monitor. -/
theorem Sound.untouched {u : User} (h : Sound m initially findings u) {probes : Task (List Probe)}
    (use : u.use = .inspect probes) (going : ∀ r, u.left ≠ .done r) :
    ∀ x ∈ u.acts, x.1.Spares m := by
  obtain ⟨spares, goes, -, -, -⟩ := h
  rw [use] at spares goes
  rcases Goes.of_bind goes with ⟨_, _, -, listing⟩ | ⟨listed, acts, list, split, listing, rest⟩
  · exact listing.asked spares.asks
  · rw [split]
    refine List.forall_mem_append.mpr ⟨listing.goes.asked spares.asks, ?_⟩
    generalize u.left = left at rest going
    cases Health.inspect_stage (spares.runs listing) rest with
    | probing asked _ => exact asked
    | concluding _ asked => exact asked
    | concluded => exact absurd rfl (going _)

theorem Kept.consistent (h : s.Kept m initially) : s.Consistent m initially where
  health := h.health
  changed s' step differs := by
    rcases step.findings_cases with same | more
    · rw [(h.step step).health, h.health, same] at differs
      exact absurd rfl differs
    · exact more
  inspected probes acts r mem := by
    obtain ⟨spares, run⟩ := h.whole probes acts r mem
    obtain ⟨listed, rest, list, rfl, listing, run⟩ := Runs.of_bind run
    obtain ⟨runs, probed, rfl⟩ := Health.inspect_runs_iff.mp run
    exact ⟨listed, list, runs, listing, probed, rfl, probes_spare spares listing probed⟩
  underway u mem probes use := by
    have sound := h.users u mem
    by_cases finished : ∃ r, u.left = .done r
    · obtain ⟨r, left⟩ := finished
      refine .inl ⟨r, left, sound.noted _ ?_⟩
      rw [use, left]
      exact List.mem_singleton_self _
    · rw [not_exists] at finished
      exact .inr ⟨finished, sound.untouched use finished⟩
  released u mem ns wait finished := by
    obtain ⟨before, within, since, healthy⟩ := (h.users u mem).released ns wait finished
    exact ⟨before, within, since, Health.shownHealthy_of_latest healthy⟩

/-- **A monitor shows the last finding**, however many inspect, declare and wait at a time. -/
theorem shows_last_finding (there : w.plant.health[m]? = some initially)
    (reached : Reached m { world := w } s) : Exact m ∧ s.Consistent m initially := by
  have fresh : Kept m initially { world := w } :=
    ⟨there, fun _ mem => (nomatch mem), fun _ _ _ mem => nomatch mem⟩
  exact ⟨exact_of_any m, (fresh.reached reached).consistent⟩

/-- A strip with one outlet, that nobody has inspected yet. -/
def oneStrip : World where
  plant := { devices := [.strip { outlets := [("mount", false)] }], health := [false] }

/-- Two inspections of a strip overlap, and it breaks down between their probes. Who waits is
released by the first of them, before the second one fails. -/
theorem shows_last_finding_breakdown : oneStrip.plant.health[0]? = some false ∧
    ∃ s u first second, Reached 0 { world := oneStrip } s ∧ s.Consistent 0 false ∧
      s.users = [u, first, second] ∧ u.use = .wait none ∧ u.left = .done (.ok ()) ∧
      first.left = .done (.ok ()) ∧ second.left = .done (.error .timedOut) ∧
      s.world.health 0 = false := by
  let probes := (Driver.device 0).probes
  have spares : (Use.inspect probes).Spares 0 := Use.object_spares ⟨.device 0, 0⟩ 0
  have breaks (s : Monitoring) : Step 0 s { s with
      world.plant := s.world.plant.change 0 (.withFault (some .timedOut)) } := .outside s rfl
  have begun : Reached 0 { world := oneStrip } _ :=
    ((Relation.ReflTransGen.refl.tail (.begins _ 1 (.wait none) trivial)).tail
      (.begins _ 2 (.inspect probes) spares)).tail (.begins _ 3 (.inspect probes) spares)
  have probed := (begun.tail (.answers 1 (r := (1 : Nat)) rfl rfl)).tail
    (.answers 1 (r := Except.ok ()) rfl rfl)
  have failed := ((probed.tail (breaks _)).tail (.answers 2 (r := (1 : Nat)) rfl rfl)).tail
    (.answers 2 (r := Except.error .timedOut) rfl rfl)
  have released := ((failed.tail (.waits 0 rfl rfl rfl)).tail (.answers 1 (r := ()) rfl rfl)).tail
    (.answers 0 (r := true) rfl rfl)
  have reached := released.tail (.answers 2 (r := ()) rfl rfl)
  exact ⟨rfl, _, _, _, _, reached, (shows_last_finding rfl reached).2, rfl, rfl, rfl, rfl, rfl, rfl⟩

end Monitoring

end DeviceRpc
