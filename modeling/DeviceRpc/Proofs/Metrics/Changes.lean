import DeviceRpc.Proofs.Metrics.Series
import DeviceRpc.Proofs.Metrics.Totals

/-!
# Changes of the metrics

What can be done to the metrics of a node, one change at a time. Every family goes its own way: a
change is one use of the family that it is about, under its own labels, and nothing to the others
(`NodeMetrics.Used`). So after any changes each family has the series of what was done to it
(`NodeMetrics.Used.tracks`).
-/

namespace DeviceRpc

namespace NodeMetrics

open Metrics

/-! ## Changes -/

/-- What can be done to the metrics of a node. The gauge goes up and down by any amount, one
included. -/
inductive Change where
  | inc (counter : Counter) (pairs : List (String × String))
  | add (counter : Counter) (pairs : List (String × String)) (v : UInt64)
  | observe (pairs : List (String × String)) (nanoseconds : Nat)
  | addActive (pairs : List (String × String)) (v : Int64)

namespace Change

/-- The metrics after a change. -/
def perform : Change → NodeMetrics → NodeMetrics
  | inc counter pairs, m => m.inc counter pairs
  | add counter pairs v, m => m.add counter pairs v
  | observe pairs nanoseconds, m => m.observe pairs nanoseconds
  | addActive pairs v, m => m.addActive pairs v

/-- The labels that a change is about. -/
def pairs : Change → List (String × String)
  | inc _ pairs | add _ pairs _ | observe pairs _ | addActive pairs _ => pairs

/-- What a change adds to a counter. -/
def counted? (c : Counter) : Change → Option (List (String × String) × UInt64)
  | inc c' pairs => if c' = c then some (pairs, 1) else none
  | add c' pairs v => if c' = c then some (pairs, v) else none
  | _ => none

/-- What a change adds to the gauge. -/
def gauged? : Change → Option (List (String × String) × Int64)
  | addActive pairs v => some (pairs, v)
  | _ => none

/-- The duration that a change observes. -/
def observed? : Change → Option (List (String × String) × Nat)
  | observe pairs nanoseconds => some (pairs, nanoseconds)
  | _ => none

end Change

/-- The metrics after some changes. -/
def changed (changes : List Change) (m : NodeMetrics) : NodeMetrics :=
  changes.foldl (fun m change => change.perform m) m

/-- A change does nothing to a family, or it is one use of it under the labels of the change. -/
structure Used {α β : Type} [Inhabited α] (family : NodeMetrics → Family α) (act : α → β → α)
    (use? : Change → Option (List (String × String) × β)) : Prop where
  start : family default = []
  step : ∀ change m, family (change.perform m) = match use? change with
    | some (pairs, amount) => Family.update (labels pairs) (act · amount) (family m)
    | none => family m

theorem counter_add (c c' : Counter) (pairs : List (String × String)) (v : UInt64)
    (m : NodeMetrics) : (m.add c pairs v).counter c'
      = if c = c' then Family.update (labels pairs) (· + v) (m.counter c') else m.counter c' := by
  cases c <;> cases c' <;> rfl

theorem used_counter (c : Counter) : Used (counter c) (· + ·) (Change.counted? c) where
  start := by cases c <;> rfl
  step change m := by
    cases change with
    | inc c' pairs =>
      simp only [Change.perform, Change.counted?, counter_inc]
      split <;> rfl
    | add c' pairs v =>
      simp only [Change.perform, Change.counted?, counter_add]
      split <;> rfl
    | observe pairs nanoseconds => exact counter_observe ..
    | addActive pairs v => exact counter_addActive ..

theorem used_gauge : Used activeConnections (· + ·) Change.gauged? where
  start := rfl
  step change m := by
    cases change with
    | inc c pairs | add c pairs v => cases c <;> rfl
    | observe pairs nanoseconds => rfl
    | addActive pairs v => rfl

theorem used_histogram :
    Used dispatchDuration (fun h duration => h.observe duration) Change.observed? where
  start := rfl
  step change m := by
    cases change with
    | inc c pairs | add c pairs v => cases c <;> rfl
    | observe pairs nanoseconds => rfl
    | addActive pairs v => rfl

namespace Used

variable {α β : Type} [Inhabited α] {family : NodeMetrics → Family α} {act : α → β → α}
  {use? : Change → Option (List (String × String) × β)} (used : Used family act use?)

include used

/-- Whatever is changed, a family goes on with the series of what it was used for. -/
theorem tracks_after (changes : List Change) {m : NodeMetrics}
    {uses : List (List (String × String) × β)} (tracks : Family.Tracks act uses (family m)) :
    Family.Tracks act (uses ++ changes.filterMap use?) (family (m.changed changes)) := by
  induction changes generalizing m uses with
  | nil =>
    rw [List.filterMap_nil, List.append_nil]
    exact tracks
  | cons change rest ih =>
    have here := used.step change m
    cases what : use? change with
    | none =>
      rw [what] at here
      rw [List.filterMap_cons_none what]
      exact ih (here.symm ▸ tracks)
    | some use =>
      rw [what] at here
      rw [List.filterMap_cons_some what, List.append_cons]
      exact ih (here.symm ▸ tracks.use use.1 use.2)

theorem tracks (changes : List Change) :
    Family.Tracks act (changes.filterMap use?) (family (changed changes default)) := by
  have unused : Family.Tracks act [] (family default) := by
    rw [used.start]
    exact .nil
  exact used.tracks_after changes unused

end Used

end NodeMetrics

end DeviceRpc
