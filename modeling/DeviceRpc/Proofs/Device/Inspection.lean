import DeviceRpc.Proofs.Call.Blocks
import DeviceRpc.Proofs.Device.Driving

/-!
# One inspection

An inspection runs its probes in their order, each once, up to and including the first that fails,
and then sets health to what they came to (`Health.inspect_runs_iff`). Of its own it asks for
nothing else, so whatever its probes leave alone stays alone until the end (`Health.inspect_stage`):
where drivers are probed, health is set by the last thing that an inspection does.
-/

namespace DeviceRpc

open Prog (Goes Runs)

namespace Health

variable {m : MonitorId} {probes : List Probe} {runs : List Exchanges} {acts : Exchanges}
  {r : Except ErrorCode Unit}

/-! ## The probes -/

/-- Probes were run in their order, each once, up to and including the first that failed. This is
what was exchanged with each of them, and what they came to. -/
inductive Probed : List Probe → List Exchanges → Except ErrorCode Unit → Prop where
  | all : Probed [] [] (.ok ())
  | passed {probe : Probe} {probes : List Probe} {acts : Exchanges} {runs : List Exchanges}
      {r : Except ErrorCode Unit} (run : Runs probe acts (.ok ())) (later : Probed probes runs r) :
      Probed (probe :: probes) (acts :: runs) r
  | failed {probe : Probe} {probes : List Probe} {acts : Exchanges} {code : ErrorCode}
      (run : Runs probe acts (.error code)) : Probed (probe :: probes) [acts] (.error code)

/-- What the outcomes of probes come to: the first failure, if there is one. -/
def conclusion (outcomes : List (Except ErrorCode Unit)) : Except ErrorCode Unit :=
  (outcomes.find? (!·.isOk)).getD (.ok ())

/-- Whatever the outcomes of probes are, this is what they come to. -/
theorem exists_probed {outcomes : List (Except ErrorCode Unit)}
    (each : List.Forall₂ (fun probe outcome => ∃ acts, Runs probe acts outcome) probes outcomes) :
    ∃ runs, Probed probes runs (conclusion outcomes) := by
  induction each with
  | nil => exact ⟨[], .all⟩
  | @cons probe outcome probes outcomes here _ ih =>
    obtain ⟨acts, run⟩ := here
    cases outcome with
    | error code => exact ⟨[acts], .failed run⟩
    | ok =>
      obtain ⟨runs, later⟩ := ih
      exact ⟨acts :: runs, .passed run later⟩

/-! ## The inspection -/

theorem recorded_runs (m : MonitorId) (r : Except ErrorCode Unit) :
    Runs (ask (.setHealth m r.isOk) >>= fun _ => .done r) [⟨.setHealth m r.isOk, ()⟩] r := by
  constructor
  exact .done r

theorem Probed.inspect_runs (h : Probed probes runs r) :
    Runs (inspect m probes) (runs.flatten ++ [⟨.setHealth m r.isOk, ()⟩]) r := by
  induction h with
  | all => exact recorded_runs m (.ok ())
  | passed run _ ih =>
    rw [List.flatten_cons, List.append_assoc]
    exact run.bind ih
  | @failed probe probes acts code run =>
    rw [List.flatten_singleton]
    exact run.bind (recorded_runs m (.error code))

/-- **An inspection** by itself: its probes up to the first that fails, and at the end their
outcome is recorded. -/
theorem inspect_runs_iff :
    Runs (inspect m probes) acts r ↔
      ∃ runs, Probed probes runs r ∧ acts = runs.flatten ++ [⟨.setHealth m r.isOk, ()⟩] := by
  constructor
  · intro h
    induction probes generalizing acts with
    | nil =>
      cases h with
      | ask _ h =>
        obtain ⟨rfl, rfl⟩ := h.of_done
        exact ⟨[], .all, rfl⟩
    | cons probe probes ih =>
      obtain ⟨first, rest, outcome, rfl, run, h⟩ := Runs.of_bind h
      cases outcome with
      | ok =>
        obtain ⟨runs, later, rfl⟩ := ih h
        exact ⟨first :: runs, .passed run later, by rw [List.flatten_cons, List.append_assoc]⟩
      | error code =>
        cases h with
        | ask _ h =>
          obtain ⟨rfl, rfl⟩ := h.of_done
          refine ⟨[first], .failed run, ?_⟩
          rw [List.flatten_singleton]
          rfl
  · rintro ⟨runs, probed, rfl⟩
    exact probed.inspect_runs

/-- The end of an inspection is that its outcome is recorded. -/
theorem inspect_last (h : Runs (inspect m probes) acts r) :
    ∃ before, acts = before ++ [⟨.setHealth m r.isOk, ()⟩] := by
  obtain ⟨runs, -, rfl⟩ := inspect_runs_iff.mp h
  exact ⟨runs.flatten, rfl⟩

/-- How far an inspection is whose probes ask only for what is in `P`. -/
inductive Stage (P : Act → Prop) (m : MonitorId) (probes : List Probe) :
    Exchanges → Task (Except ErrorCode Unit) → Prop where
  | probing {acts : Exchanges} {a : Act} {next : a.Reply → Task (Except ErrorCode Unit)}
      (asked : ∀ x ∈ acts, P x.1) (asks : P a) : Stage P m probes acts (.ask a next)
  | concluding {runs : List Exchanges} {r : Except ErrorCode Unit} (probed : Probed probes runs r)
      (asked : ∀ x ∈ runs.flatten, P x.1) :
      Stage P m probes runs.flatten (.ask (.setHealth m r.isOk) fun _ => .done r)
  | concluded {runs : List Exchanges} {r : Except ErrorCode Unit} (probed : Probed probes runs r) :
      Stage P m probes (runs.flatten ++ [⟨.setHealth m r.isOk, ()⟩]) (.done r)

variable {P : Act → Prop}

/-- The stages of the rest of an inspection, after a probe that passed. -/
theorem Stage.passed {probe : Probe} {first : Exchanges} {q : Task (Except ErrorCode Unit)}
    (run : Runs probe first (.ok ())) (asked : ∀ x ∈ first, P x.1) (h : Stage P m probes acts q) :
    Stage P m (probe :: probes) (first ++ acts) q := by
  have both {acts : Exchanges} (later : ∀ x ∈ acts, P x.1) : ∀ x ∈ first ++ acts, P x.1 :=
    List.forall_mem_append.mpr ⟨asked, later⟩
  cases h with
  | probing before asks => exact .probing (both before) asks
  | @concluding runs r probed before =>
    rw [← List.flatten_cons]
    refine .concluding (.passed run probed) ?_
    rw [List.flatten_cons]
    exact both before
  | @concluded runs r probed =>
    rw [← List.append_assoc, ← List.flatten_cons]
    exact .concluded (.passed run probed)

/-- What is left of an inspection that has an outcome. -/
theorem Probed.stage (probed : Probed probes runs r) (asked : ∀ x ∈ runs.flatten, P x.1)
    {q : Task (Except ErrorCode Unit)}
    (h : Goes (ask (.setHealth m r.isOk) >>= fun _ => .done r) acts q) :
    Stage P m probes (runs.flatten ++ acts) q := by
  cases h with
  | refl =>
    rw [List.append_nil]
    exact .concluding probed asked
  | ask _ h =>
    cases h
    exact .concluded probed

/-- An inspection asks for what its probes ask for, and then to set health. -/
theorem inspect_stage {q : Task (Except ErrorCode Unit)} (each : ∀ probe ∈ probes, Asks P probe)
    (h : Goes (inspect m probes) acts q) : Stage P m probes acts q := by
  induction probes generalizing acts with
  | nil => exact Probed.all.stage (fun _ mem => nomatch mem) h
  | cons probe probes ih =>
    obtain ⟨here, later⟩ := List.forall_mem_cons.mp each
    rcases Goes.of_bind h with ⟨a, next, rfl, first⟩ | ⟨before, after, outcome, rfl, run, rest⟩
    · exact .probing (first.asked here) (first.asks here).1
    · have asked := run.goes.asked here
      cases outcome with
      | ok => exact (ih later rest).passed run asked
      | error code =>
        have stage : Stage P m (probe :: probes) ([before].flatten ++ after) q :=
          (Probed.failed run).stage (by rwa [List.flatten_singleton]) rest
        rwa [List.flatten_singleton] at stage

/-- Who sets the health of a monitor in an inspection, concludes it. -/
theorem inspect_concludes {m' : MonitorId} {healthy : Bool}
    {next : Unit → Task (Except ErrorCode Unit)} (each : ∀ probe ∈ probes, Asks P probe)
    (others : ¬ P (.setHealth m' healthy))
    (h : Goes (inspect m probes) acts (.ask (.setHealth m' healthy) next)) :
    ∃ r, Runs (inspect m probes) (acts ++ [⟨.setHealth m' healthy, ()⟩]) r := by
  cases inspect_stage each h with
  | probing _ asks => exact (others asks).elim
  | @concluding runs r probed => exact ⟨r, probed.inspect_runs⟩

end Health

end DeviceRpc
