import DeviceRpc.Metrics.Node

/-!
# What metrics add up to

A family has a value for each label set, and the values of a service stand under all the label sets
that name it. They are added up here (`Family.total`). What an event of a service does to a family
is one change under one label set of that service or nothing, so the total of a service is the sum
of what its events add (`Follows.total_after`), whatever other services record in between: as long
as there are too few events for a number to wrap around.
-/

namespace DeviceRpc

namespace Metrics

/-! ## Families -/

/-- The pair that names a service in a label set. -/
def ofService (service : String) : String × String := ("service", service)

theorem mem_labels {pair : String × String} {pairs : List (String × String)} :
    pair ∈ labels pairs ↔ pair ∈ pairs := List.mem_mergeSort

namespace Family

variable {α : Type}

/-- The sum of the values whose label set has this pair. -/
def total (pair : String × String) (f : α → Int) : Family α → Int
  | [] => 0
  | (key, v) :: rest => (if pair ∈ key then f v else 0) + total pair f rest

/-- No value is further than this from zero. -/
def Within (f : α → Int) (n : Nat) (family : Family α) : Prop :=
  ∀ entry ∈ family, -(n : Int) ≤ f entry.2 ∧ f entry.2 ≤ n

variable [Inhabited α] {f : α → Int} {n : Nat} {change : α → α} {d : Int} {key : Labels}

/-- Changing one value changes the total just if its label set counts. -/
theorem total_update (pair : String × String) (start : f default = 0)
    (moves : ∀ v, -(n : Int) ≤ f v → f v ≤ n → f (change v) = f v + d) :
    ∀ {family : Family α}, family.Within f n →
      (update key change family).total pair f = family.total pair f + if pair ∈ key then d else 0
  | [], _ => by
    have first := moves default (by omega) (by omega)
    simp only [update, total, first, start]
    split <;> omega
  | (k, v) :: rest, within => by
    have here : -(n : Int) ≤ f v ∧ f v ≤ n := within (k, v) (List.mem_cons_self ..)
    rw [update]
    split
    next same =>
      subst same
      simp only [total, moves v here.1 here.2]
      split <;> omega
    next =>
      have later : Within f n rest := fun entry mem => within entry (List.mem_cons_of_mem _ mem)
      simp only [total, total_update pair start moves later]
      omega

theorem within_update (start : f default = 0) (small : -1 ≤ d ∧ d ≤ 1)
    (moves : ∀ v, -(n : Int) ≤ f v → f v ≤ n → f (change v) = f v + d) :
    ∀ {family : Family α}, family.Within f n → (update key change family).Within f (n + 1)
  | [], _ => by
    have first := moves default (by omega) (by omega)
    intro entry mem
    obtain rfl := List.mem_singleton.mp mem
    simp only [first, start]
    omega
  | (k, v) :: rest, within => by
    have wider {entry : Labels × α} (mem : entry ∈ (k, v) :: rest) :
        -((n + 1 : Nat) : Int) ≤ f entry.2 ∧ f entry.2 ≤ (n + 1 : Nat) := by
      have here := within entry mem
      omega
    rw [update]
    split
    next same =>
      intro entry mem
      rcases List.mem_cons.mp mem with rfl | mem
      · have here : -(n : Int) ≤ f v ∧ f v ≤ n := within (k, v) (List.mem_cons_self ..)
        simp only [moves v here.1 here.2]
        omega
      · exact wider (List.mem_cons_of_mem _ mem)
    next =>
      have later : Within f n rest := fun entry mem => within entry (List.mem_cons_of_mem _ mem)
      intro entry mem
      rcases List.mem_cons.mp mem with rfl | mem
      · exact wider (List.mem_cons_self ..)
      · exact within_update start small moves later entry mem

end Family

end Metrics

namespace NodeMetrics

open Metrics

/-! ## Events -/

/-- So many events could make a number wrap around: two to the power of sixty-three. -/
def eventLimit : Nat := 0x8000000000000000

theorem eventLimit_eq : eventLimit = 9223372036854775808 := rfl

/-- What was recorded so far, each event with its service. -/
abbrev Log := List (String × Event)

/-- The metrics after these events. -/
def after (log : Log) (m : NodeMetrics) : NodeMetrics :=
  log.foldl (fun m recorded => m.record recorded.1 recorded.2) m

/-- The events of a service. -/
def eventsOf (service : String) (log : Log) : List Event :=
  log.filterMap fun recorded => if recorded.1 = service then some recorded.2 else none

/-- What events add up to. -/
def sum (adds : Event → Int) : List Event → Int
  | [] => 0
  | e :: rest => adds e + sum adds rest

theorem sum_append (adds : Event → Int) (events events' : List Event) :
    sum adds (events ++ events') = sum adds events + sum adds events' := by
  induction events with
  | nil => exact (Int.zero_add _).symm
  | cons e events ih =>
    simp only [List.cons_append, sum, ih]
    omega

theorem sum_eventsOf_cons (adds : Event → Int) (service s : String) (e : Event) (log : Log) :
    sum adds (eventsOf service ((s, e) :: log))
      = (if s = service then adds e else 0) + sum adds (eventsOf service log) := by
  unfold eventsOf
  by_cases same : s = service
  · simp only [List.filterMap_cons, same, if_true, sum]
  · simp only [List.filterMap_cons, same, if_false, Int.zero_add]

/-- The order in which events come does not matter. -/
theorem sum_perm (adds : Event → Int) {events events' : List Event} (h : events.Perm events') :
    sum adds events = sum adds events' := by
  induction h with
  | nil => rfl
  | cons e _ ih => simp only [sum, ih]
  | swap e e' events =>
    simp only [sum]
    omega
  | trans _ _ ih ih' => exact ih.trans ih'

theorem sum_map (adds : Event → Int) {f : Event → Event} (same : ∀ e, adds (f e) = adds e)
    (events : List Event) : sum adds (events.map f) = sum adds events := by
  induction events with
  | nil => rfl
  | cons e events ih => simp only [List.map_cons, sum, same, ih]

/-- A family follows the events: each adds so much under one label set of its service. -/
structure Follows {α : Type} [Inhabited α] (f : α → Int) (family : NodeMetrics → Family α)
    (adds : Event → Int) : Prop where
  start : f default = 0
  small : ∀ e, -1 ≤ adds e ∧ adds e ≤ 1
  step : ∀ service e m, adds e = 0 ∧ family (m.record service e) = family m ∨
    ∃ pairs change, (∀ s, ofService s ∈ pairs ↔ s = service) ∧
      family (m.record service e) = Family.update (labels pairs) change (family m) ∧
      ∀ v, -(eventLimit : Int) < f v → f v + 1 < eventLimit → f (change v) = f v + adds e

namespace Follows

variable {α : Type} [Inhabited α] {f : α → Int} {family : NodeMetrics → Family α}
  {adds : Event → Int} (follows : Follows f family adds)

include follows

/-- One event. -/
theorem record {n : Nat} (few : n + 1 < eventLimit) {m : NodeMetrics}
    (within : (family m).Within f n) (service s : String) (e : Event) :
    (family (m.record s e)).Within f (n + 1) ∧
      (family (m.record s e)).total (ofService service) f
        = (family m).total (ofService service) f + if s = service then adds e else 0 := by
  rcases follows.step s e m with ⟨none, same⟩ | ⟨pairs, change, names, changed, moves⟩
  · rw [same, none]
    refine ⟨fun entry mem => ?_, by split <;> omega⟩
    have here := within entry mem
    omega
  · have near (v : α) (low : -(n : Int) ≤ f v) (high : f v ≤ n) : f (change v) = f v + adds e :=
      moves v (by omega) (by omega)
    rw [changed]
    refine ⟨Family.within_update follows.start (follows.small e) near within, ?_⟩
    rw [Family.total_update (ofService service) follows.start near within]
    simp only [mem_labels, names, eq_comm]

/-- **Families add up**: a service's total is the sum of what its events add. -/
theorem total_after (service : String) : ∀ (log : Log) {n : Nat} {m : NodeMetrics},
    (family m).Within f n → n + log.length < eventLimit →
    (family (m.after log)).total (ofService service) f
      = (family m).total (ofService service) f + sum adds (eventsOf service log)
  | [], _, m, _, _ => (Int.add_zero _).symm
  | (s, e) :: log, n, m, within, few => by
    rw [List.length_cons] at few
    obtain ⟨within', total⟩ := follows.record (n := n) (by omega) within service s e
    have rest := total_after service log within' (by omega)
    rw [show m.after ((s, e) :: log) = (m.record s e).after log from rfl, rest, total,
      sum_eventsOf_cons]
    omega

end Follows

/-! ## The families of a node -/

/-- The family of a counter. -/
def counter : Counter → NodeMetrics → Family UInt64
  | .requests, m => m.requests
  | .protocolMismatches, m => m.protocolMismatches
  | .unknownCommands, m => m.unknownCommands
  | .linkErrors, m => m.linkErrors

/-- The code of a request for another protocol. -/
def mismatchNumber : UInt16 := ErrorCode.protocolWrong.number

/-- The code of a request for an unknown command. -/
def unknownNumber : UInt16 := ErrorCode.badCommand.number

/-- What else tells the label set under which an event of a service counts, if it does. -/
def Event.details : Counter → Event → Option (List (String × String))
  | .requests, .dispatched command code _ =>
    some [("command", toString command.toNat), ("result", resultName code)]
  | .protocolMismatches, .dispatched _ code _ => if code = mismatchNumber then some [] else none
  | .unknownCommands, .dispatched command code _ =>
    if code = unknownNumber then some [("command", toString command.toNat)] else none
  | .linkErrors, .linkFailed label => some [("kind", label)]
  | _, _ => none

/-- What an event adds to a counter. -/
def Event.adds (c : Counter) (e : Event) : Int := if (e.details c).isSome then 1 else 0

/-- What an event adds to the open connections. -/
def Event.opens : Event → Int
  | .connectionOpened => 1
  | .connectionClosed => -1
  | _ => 0

theorem counter_inc (c c' : Counter) (pairs : List (String × String)) (m : NodeMetrics) :
    (m.inc c pairs).counter c'
      = if c = c' then Family.update (labels pairs) (· + 1) (m.counter c') else m.counter c' := by
  cases c <;> cases c' <;> rfl

theorem counter_observe (c : Counter) (pairs : List (String × String)) (n : Nat) (m : NodeMetrics) :
    (m.observe pairs n).counter c = m.counter c := by
  cases c <;> rfl

theorem counter_addActive (c : Counter) (pairs : List (String × String)) (v : Int64)
    (m : NodeMetrics) : (m.addActive pairs v).counter c = m.counter c := by
  cases c <;> rfl

theorem ofNumber?_eq_protocolWrong {code : UInt16} :
    ErrorCode.ofNumber? code = some .protocolWrong ↔ code = mismatchNumber := by
  constructor
  · intro known
    exact (ErrorCode.number_of_ofNumber? known).symm
  · rintro rfl
    rfl

theorem ofNumber?_eq_badCommand {code : UInt16} :
    ErrorCode.ofNumber? code = some .badCommand ↔ code = unknownNumber := by
  constructor
  · intro known
    exact (ErrorCode.number_of_ofNumber? known).symm
  · rintro rfl
    rfl

/-- A label set that names a service before other things names no other service. -/
theorem names_only {service s : String} {rest : List (String × String)}
    (others : ∀ pair ∈ rest, pair.1 ≠ "service") :
    ofService s ∈ ("service", service) :: rest ↔ s = service := by
  rw [List.mem_cons]
  constructor
  · rintro (same | mem)
    · exact congrArg Prod.snd same
    · exact absurd rfl (others _ mem)
  · rintro rfl
    exact .inl rfl

theorem Event.details_other {c : Counter} {e : Event} {rest : List (String × String)}
    (h : e.details c = some rest) : ∀ pair ∈ rest, pair.1 ≠ "service" := by
  intro pair mem
  cases c with
  | requests =>
    cases e <;> cases h
    simp only [List.mem_cons, List.not_mem_nil, or_false] at mem
    rcases mem with rfl | rfl <;> simp
  | protocolMismatches =>
    cases e <;> simp only [details] at h <;> try cases h
    split at h <;> cases h
    cases mem
  | unknownCommands =>
    cases e <;> simp only [details] at h <;> try cases h
    split at h <;> cases h
    obtain rfl := List.mem_singleton.mp mem
    simp
  | linkErrors =>
    cases e <;> cases h
    obtain rfl := List.mem_singleton.mp mem
    simp

/-- What an event does to a counter. -/
theorem counter_record (c : Counter) (service : String) (e : Event) (m : NodeMetrics) :
    (m.record service e).counter c = match e.details c with
      | some rest => Family.update (labels (("service", service) :: rest)) (· + 1) (m.counter c)
      | none => m.counter c := by
  cases e with
  | connectionOpened | connectionClosed =>
    rw [record, counter_addActive]
    cases c <;> rfl
  | linkFailed label =>
    rw [record, counter_inc]
    cases c <;> rfl
  | dispatched command code took =>
    show counter c (observe _ _ _) = _
    rw [counter_observe]
    split
    next known =>
      have mismatch := ofNumber?_eq_protocolWrong.mp known
      have apart : mismatchNumber ≠ unknownNumber := by decide
      rw [counter_inc, counter_inc]
      cases c <;> simp [Event.details, mismatch, apart]
    next known =>
      have unknown := ofNumber?_eq_badCommand.mp known
      have apart : unknownNumber ≠ mismatchNumber := by decide
      rw [counter_inc, counter_inc]
      cases c <;> simp [Event.details, unknown, apart]
    next other other' =>
      have mismatch : code ≠ mismatchNumber :=
        fun same => other (ofNumber?_eq_protocolWrong.mpr same)
      have unknown : code ≠ unknownNumber := fun same => other' (ofNumber?_eq_badCommand.mpr same)
      rw [counter_inc]
      cases c <;> simp [Event.details, mismatch, unknown]

/-! ## Numbers -/

theorem toNat_succ {v : UInt64} (small : (v.toNat : Int) + 1 < eventLimit) :
    ((v + 1).toNat : Int) = (v.toNat : Int) + 1 := by
  have one : (1 : UInt64).toNat = 1 := rfl
  rw [eventLimit_eq] at small
  rw [UInt64.toNat_add, one, Nat.mod_eq_of_lt (by omega)]
  omega

theorem toInt_add {v d : Int64} (step : d.toInt = 1 ∨ d.toInt = -1)
    (low : -(eventLimit : Int) < v.toInt) (high : v.toInt + 1 < eventLimit) :
    (v + d).toInt = v.toInt + d.toInt := by
  rw [eventLimit_eq] at low high
  rw [Int64.toInt_add]
  apply Int.bmod_eq_of_le <;> omega

/-! ## Every family adds up -/

/-- Each counter has the number of the events that it counts. -/
theorem follows_counter (c : Counter) :
    Follows (fun v : UInt64 => (v.toNat : Int)) (counter c) (Event.adds c) where
  start := rfl
  small e := by
    unfold Event.adds
    split <;> omega
  step service e m := by
    have recorded := counter_record c service e m
    unfold Event.adds
    cases details : e.details c with
    | none =>
      rw [details] at recorded
      exact .inl ⟨rfl, recorded⟩
    | some rest =>
      rw [details] at recorded
      exact .inr ⟨_, _, fun s => names_only (Event.details_other details), recorded,
        fun v _ small => toNat_succ small⟩

/-- The histogram of a service counts its requests. -/
theorem follows_duration : Follows (fun h : Histogram => (h.count.toNat : Int))
    dispatchDuration (Event.adds .requests) where
  start := rfl
  small e := (follows_counter .requests).small e
  step service e m := by
    cases e with
    | dispatched command code took =>
      refine .inr ⟨[("service", service)], (·.observe took), fun s => names_only (by simp), ?_,
        fun h _ small => toNat_succ small⟩
      unfold record recordDispatch observe
      simp only
      split <;> rfl
    | _ => exact .inl ⟨rfl, rfl⟩

/-- The gauge of a service has the connections that are open. -/
theorem follows_active : Follows Int64.toInt activeConnections Event.opens where
  start := rfl
  small e := by cases e <;> simp [Event.opens]
  step service e m := by
    cases e with
    | connectionOpened =>
      exact .inr ⟨[("service", service)], (· + 1), fun s => names_only (by simp), rfl,
        fun v low high => toInt_add (.inl rfl) low high⟩
    | connectionClosed =>
      exact .inr ⟨[("service", service)], (· + -1), fun s => names_only (by simp), rfl,
        fun v low high => toInt_add (.inr rfl) low high⟩
    | linkFailed label => exact .inl ⟨rfl, rfl⟩
    | dispatched command code took =>
      refine .inl ⟨rfl, ?_⟩
      unfold record recordDispatch observe
      simp only
      split <;> rfl

end NodeMetrics

end DeviceRpc
