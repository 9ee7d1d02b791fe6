import DeviceRpc.Proofs.Program.Keeps
import DeviceRpc.Proofs.World.Moves

/-!
# Waiting for health

A task that waits for the health of an object asks for the time, if it is to wait for some time
only, and then for health until a limit. When its wait is over, and how, is a matter of the health
at its start and of the changes since then (`Health.due`).

Any number of tasks may wait for an object, inspect it or do something else, and its health may be
changed from outside; what is asked of a run is that whoever changes the health does so while the
others have nothing to do (`Schedule.Runs`). So no change passes unseen: an object is found healthy
by those who wait only in the instant in which it became so (`Unfinished`), and since time does not
pass while a task has something to do, each of them goes on in that instant, or at its limit
(`Runs.waited`).
-/

namespace DeviceRpc

/-! ## When a wait is over -/

namespace Health

/-- When an object became healthy for the first time, by the changes of its health. -/
def recovery (changes : List (Instant × Bool)) : Option Instant :=
  (changes.find? (·.2)).map Prod.fst

/-- When a wait is over and what it comes to, as far as the changes of health since its start tell:
at once if the object is healthy then, else when the object becomes healthy, if that is before the
limit, and else at the limit. -/
def due (start : Instant) (healthy : Bool) (limit : Option Instant)
    (changes : List (Instant × Bool)) : Option (Instant × Except ErrorCode Unit) :=
  if healthy then some (start, .ok ())
  else match recovery changes, limit with
    | some t, none => some (t, .ok ())
    | some t, some limit => some (if t < limit then (t, .ok ()) else (limit, .error .timedOut))
    | none, some limit => some (limit, .error .timedOut)
    | none, none => none

/-- Only changes for the better count. -/
theorem due_filter (start : Instant) (healthy : Bool) (limit : Option Instant)
    (changes : List (Instant × Bool)) :
    due start healthy limit (changes.filter (·.2)) = due start healthy limit changes := by
  have same : recovery (changes.filter (·.2)) = recovery changes := by
    unfold recovery
    rw [List.find?_filter]
    simp
  unfold due
  rw [same]

/-- Looks once, and then waits for the change until the limit. -/
def look (m : MonitorId) (limit : Option Instant) : Task (Except ErrorCode Unit) := do
  return if ← ask (.awaitHealthy m limit) then .ok () else .error .timedOut

/-- Waiting changes nothing for anybody else. -/
theorem wait_looks (m : MonitorId) (ns : Option Nat) :
    Asks (fun a => ∀ w t, (World.answer w t a).1 = w) (wait m ns) := by
  have looks (limit : Option Instant) :
      Asks (fun a => ∀ w t, (World.answer w t a).1 = w) (look m limit) :=
    .request (fun _ _ => rfl) fun _ => .done _
  cases ns with
  | none => exact looks none
  | some ns => exact .request (fun _ _ => rfl) fun now => looks (some (now + millisCeil ns))

end Health

namespace Schedule

/-! ## Runs with a history -/

/-- How the health of an object changed with a move. -/
def changes (m : MonitorId) (s s' : Schedule) : List (Instant × Bool) :=
  if s'.world.health m = s.world.health m then []
  else [(s'.world.now, s'.world.health m)]

/-- The runs in which nobody changes the health of an object while others still have something to
do, with the history of these changes. -/
inductive Runs (m : MonitorId) (s : Schedule) : List (Instant × Bool) → Schedule → Prop where
  | refl : Runs m s [] s
  | step {cs : List (Instant × Bool)} {s' s'' : Schedule} {who : Option TaskId}
      (before : Runs m s cs s') (move : Move s' who s'')
      (calm : s''.world.health m ≠ s'.world.health m → s'.AllRestBut who) :
      Runs m s (cs ++ changes m s' s'') s''

theorem Runs.trans {m : MonitorId} {s s' s'' : Schedule} {cs cs' : List (Instant × Bool)}
    (first : Runs m s cs s') (second : Runs m s' cs' s'') : Runs m s (cs ++ cs') s'' := by
  induction second with
  | refl => rwa [List.append_nil]
  | step _ move calm ih =>
    rw [← List.append_assoc]
    exact ih.step move calm

/-- A run leads through a schedule of which something is true. -/
inductive Via (m : MonitorId) (s : Schedule) (cs : List (Instant × Bool)) (s' : Schedule)
    (P : List (Instant × Bool) → Schedule → Prop) : Prop where
  | through {before after : List (Instant × Bool)} {mid : Schedule} (split : cs = before ++ after)
      (first : Runs m s before mid) (second : Runs m mid after s') (here : P before mid)

variable {m : MonitorId} {k : TaskId} {s s' s'' : Schedule} {cs : List (Instant × Bool)}
  {who : Option TaskId} {P : List (Instant × Bool) → Schedule → Prop}

theorem Via.step (h : Via m s cs s' P) (move : Move s' who s'')
    (calm : s''.world.health m ≠ s'.world.health m → s'.AllRestBut who) :
    Via m s (cs ++ changes m s' s'') s'' P := by
  obtain ⟨rfl, first, second, here⟩ := h
  exact ⟨List.append_assoc .., first, second.step move calm, here⟩

theorem Via.here (run : Runs m s cs s') (here : P cs s') : Via m s cs s' P :=
  ⟨(List.append_nil cs).symm, run, .refl, here⟩

/-! ## One wait -/

/-- Until when a wait that starts now is to last. -/
def until? (s : Schedule) (ns : Option Nat) : Option Instant :=
  ns.map fun ns => s.world.now + millisCeil ns

/-- A wait that a task started in schedule `s` is over at its time. -/
def Returns (m : MonitorId) (k : TaskId) (ns : Option Nat)
    (f : Except ErrorCode Unit → Task Ending) (s : Schedule) (before : List (Instant × Bool))
    (mid : Schedule) : Prop :=
  ∃ r, Health.due s.world.now (s.world.health m) (s.until? ns) before = some (mid.world.now, r) ∧
    mid.At k (f r)

/-- What has come of a wait that a task started in schedule `s`. -/
inductive Waited (m : MonitorId) (k : TaskId) (ns : Option Nat)
    (f : Except ErrorCode Unit → Task Ending) (s : Schedule) (cs : List (Instant × Bool))
    (s' : Schedule) : Prop where
  /-- It was over at its time. -/
  | returned (via : Via m s cs s' (Returns m k ns f s))
  /-- It goes on; and if the task has nothing to do, the time has not come. -/
  | waiting {p : Task (Except ErrorCode Unit)}
      (waits : p = Health.wait m ns ∨ p = Health.look m (s.until? ns)) (here : s'.At k (p >>= f))
      (early : s'.Rests k (.running (p >>= f)) → ∀ t r,
        Health.due s.world.now (s.world.health m) (s.until? ns) cs = some (t, r) →
          s'.world.now < t)
  | gone (left : Via m s cs s' fun _ mid => mid.tasks.lookup k = none)

/-- What is known while a task waits: an object that is healthy has just become so, and one that is
not has not been healthy since the start; and there is time left. -/
structure Unfinished (m : MonitorId) (ns : Option Nat) (s : Schedule) (cs : List (Instant × Bool))
    (s' : Schedule) : Prop where
  healthy : s'.world.health m = true →
    Health.due s.world.now (s.world.health m) (s.until? ns) cs = some (s'.world.now, .ok ())
  unhealthy : s'.world.health m = false → s.world.health m = false ∧ cs = []
  inTime : ∀ limit, s.until? ns = some limit → s'.world.now ≤ limit

/-- The object is not healthy, and the limit has not come. -/
def Early (m : MonitorId) (limit : Option Instant) (s : Schedule) : Prop :=
  s.world.health m = false ∧ ∀ l, limit = some l → s.world.now < l

variable {ns limit : Option Nat} {f : Except ErrorCode Unit → Task Ending}

theorem changes_of_same (same : s'.world.health m = s.world.health m) : changes m s s' = [] :=
  if_pos same

namespace Unfinished

theorem start (m : MonitorId) (ns : Option Nat) (s : Schedule) : Unfinished m ns s [] s where
  healthy healthy := if_pos healthy
  unhealthy unhealthy := ⟨unhealthy, rfl⟩
  inTime := by
    intro limit bounded
    obtain ⟨d, -, rfl⟩ := Option.map_eq_some_iff.mp bounded
    exact Nat.le_add_right ..

/-- Where the world stays as it is, nothing changes. -/
theorem stay (h : Unfinished m ns s cs s') (world : s''.world = s'.world) :
    Unfinished m ns s (cs ++ changes m s' s'') s'' := by
  rw [changes_of_same (by rw [world]), List.append_nil]
  obtain ⟨healthy, unhealthy, inTime⟩ := h
  rw [← world] at healthy unhealthy inTime
  exact ⟨healthy, unhealthy, inTime⟩

/-- Others go on, or time passes: the health changes only while the task waits. -/
theorem step (h : Unfinished m ns s cs s') (move : Move s' who s'')
    (calm : s''.world.health m ≠ s'.world.health m → s'.AllRestBut who)
    (early : s'.AllRestBut who → Early m (s.until? ns) s')
    (patient : s'.Ticks s'' → ∀ l, s.until? ns = some l → s''.world.now ≤ l) :
    Unfinished m ns s (cs ++ changes m s' s'') s'' := by
  by_cases same : s''.world.health m = s'.world.health m
  · rw [changes_of_same same, List.append_nil]
    rcases move.clock with now | tick
    · exact ⟨by rw [same, now]; exact h.healthy, by rw [same]; exact h.unhealthy,
        by rw [now]; exact h.inTime⟩
    · have sick := (early fun u p _ => tick.rest u p nofun).1
      refine ⟨fun healthy => ?_, by rw [same]; exact h.unhealthy, patient tick⟩
      rw [same, sick] at healthy
      cases healthy
  · obtain ⟨sick, before⟩ := early (calm same)
    have now : s''.world.now = s'.world.now := by
      rcases move.clock with now | tick
      · exact now
      · rw [tick.world] at same
        exact absurd rfl same
    have well : s''.world.health m = true := by
      rw [sick] at same
      exact eq_true_of_ne_false same
    obtain ⟨sickFirst, rfl⟩ := h.unhealthy sick
    refine ⟨fun _ => ?_, fun sick' => ?_, by rw [now]; exact h.inTime⟩
    · rw [changes, if_neg same, well, now, sickFirst, List.nil_append]
      cases limit : s.until? ns with
      | none => rfl
      | some l =>
        show some (if s'.world.now < l then _ else _) = _
        rw [if_pos (before l limit)]
    · rw [well] at sick'
      cases sick'

end Unfinished

/-- How far a wait is. -/
inductive Stage (m : MonitorId) (k : TaskId) (ns : Option Nat)
    (f : Except ErrorCode Unit → Task Ending) (s : Schedule) (s' : Schedule) : Prop where
  | starts {d : Nat} (bounded : ns = some d) (here : s'.At k (Health.wait m (some d) >>= f))
      (now : s'.world.now = s.world.now)
  | looks (here : s'.At k (Health.look m (s.until? ns) >>= f))

theorem wait_bind (m : MonitorId) (d : Nat) (f : Except ErrorCode Unit → Task Ending) :
    Health.wait m (some d) >>= f =
      .ask .now fun now => Health.look m (some (now + millisCeil d)) >>= f := rfl

theorem look_bind (m : MonitorId) (limit : Option Instant)
    (f : Except ErrorCode Unit → Task Ending) :
    Health.look m limit >>= f =
      .ask (.awaitHealthy m limit) fun b => f (if b then .ok () else .error .timedOut) := rfl

/-- What a task that looks is told. -/
theorem look_answer (m : MonitorId) (limit : Option Instant) (s : Schedule) (t : TaskId) :
    (s.world.health m = true ∧ (s.world.answer t (.awaitHealthy m limit)).2 = some true) ∨
      (s.world.health m = false ∧ (∃ l, limit = some l ∧ l ≤ s.world.now) ∧
        (s.world.answer t (.awaitHealthy m limit)).2 = some false) ∨
      (Early m limit s ∧ (s.world.answer t (.awaitHealthy m limit)).2 = none) := by
  simp only [World.answer, Early, World.isPast]
  cases s.world.health m with
  | true => exact .inl ⟨rfl, rfl⟩
  | false =>
    refine .inr ?_
    cases limit with
    | none =>
      refine .inr ⟨⟨rfl, ?_⟩, rfl⟩
      rintro _ ⟨⟩
    | some l =>
      by_cases past : l ≤ s.world.now
      · exact .inl ⟨rfl, ⟨l, rfl, past⟩, by simp [past]⟩
      · refine .inr ⟨⟨rfl, ?_⟩, by simp [past]⟩
        rintro _ ⟨⟩
        exact Nat.lt_of_not_le past

/-- A task that looks waits as long as the object is not healthy and there is time. -/
theorem early_of_rests (h : s.Rests k (.running (Health.look m limit >>= f))) :
    Early m limit s := by
  have unanswered : (s.world.answer k (.awaitHealthy m limit)).2 = none := h
  rcases look_answer m limit s k with ⟨-, told⟩ | ⟨-, -, told⟩ | ⟨early, -⟩
  · cases told.symm.trans unanswered
  · cases told.symm.trans unanswered
  · exact early

/-- What a look comes to is what is due. -/
theorem Unfinished.returned {b : Bool} {t : TaskId} (h : Unfinished m ns s cs s')
    (answered : (s'.world.answer t (.awaitHealthy m (s.until? ns))).2 = some b) :
    Health.due s.world.now (s.world.health m) (s.until? ns) cs =
      some (s'.world.now, if b then .ok () else .error .timedOut) := by
  rcases look_answer m (s.until? ns) s' t with
    ⟨healthy, told⟩ | ⟨sick, ⟨l, bounded, late⟩, told⟩ | ⟨-, told⟩
  · cases told.symm.trans answered
    exact h.healthy healthy
  · cases told.symm.trans answered
    obtain ⟨sickFirst, rfl⟩ := h.unhealthy sick
    have now : s'.world.now = l := Nat.le_antisymm (h.inTime l bounded) late
    rw [sickFirst, bounded, now]
    rfl
  · cases told.symm.trans answered

/-- Where a wait of a task is, as long as it is not over. -/
structure Going (m : MonitorId) (k : TaskId) (ns : Option Nat)
    (f : Except ErrorCode Unit → Task Ending) (s : Schedule) (cs : List (Instant × Bool))
    (s' : Schedule) : Prop where
  stage : Stage m k ns f s s'
  unfinished : Unfinished m ns s cs s'

/-- A wait goes on, or it was over at its time, or the task was given up. -/
inductive Fate (m : MonitorId) (k : TaskId) (ns : Option Nat)
    (f : Except ErrorCode Unit → Task Ending) (s : Schedule) (cs : List (Instant × Bool))
    (s' : Schedule) : Prop where
  | going (going : Going m k ns f s cs s')
  | returned (via : Via m s cs s' (Returns m k ns f s))
  | gone (left : Via m s cs s' fun _ mid => mid.tasks.lookup k = none)

/-- A task that is to ask for the time does so before anything changes. -/
theorem Unfinished.fate_of_starts {d : Nat} (unfinished : Unfinished m (some d) s cs s')
    (run : Runs m s cs s') (here : s'.At k (Health.wait m (some d) >>= f))
    (now : s'.world.now = s.world.now) (move : Move s' who s'')
    (calm : s''.world.health m ≠ s'.world.health m → s'.AllRestBut who) :
    Fate m k (some d) f s (cs ++ changes m s' s'') s'' := by
  rw [wait_bind] at here
  cases move.sees here with
  | rests after tried =>
    have other : who ≠ some k := by
      intro mine
      obtain ⟨_, _, same, unanswered⟩ := tried mine
      cases same
      have reply : some s'.world.now = none := congrArg Prod.snd unanswered
      cases reply
    have busy : ¬ s'.AllRestBut who := fun rest => by cases rest k _ (Ne.symm other) here
    have untimed : ¬ s'.Ticks s'' := fun tick => busy fun u p _ => tick.rest u p nofun
    have standing := move.clock.resolve_right untimed
    exact .going ⟨.starts rfl after (standing.trans now),
      unfinished.step move calm (absurd · busy) (absurd · untimed)⟩
  | goes asks answered after =>
    cases asks
    have world : s''.world = s'.world := (congrArg Prod.fst answered).symm
    obtain rfl := Option.some.inj (congrArg Prod.snd answered)
    refine .going ⟨.looks ?_, unfinished.stay world⟩
    rw [until?, Option.map_some, ← now]
    exact after
  | late waits => cases waits
  | ends done => cases done
  | gone nobody => exact .gone (.here (run.step move calm) nobody)

/-- A task that looks gets its answer when it is due, and waits until then. -/
theorem Unfinished.fate_of_looks (unfinished : Unfinished m ns s cs s') (run : Runs m s cs s')
    (here : s'.At k (Health.look m (s.until? ns) >>= f)) (move : Move s' who s'')
    (calm : s''.world.health m ≠ s'.world.health m → s'.AllRestBut who) :
    Fate m k ns f s (cs ++ changes m s' s'') s'' := by
  rw [look_bind] at here
  cases move.sees here with
  | rests after tried =>
    by_cases mine : who = some k
    · obtain ⟨_, _, same, unanswered⟩ := tried mine
      cases same
      exact .going ⟨.looks after, unfinished.stay (congrArg Prod.fst unanswered).symm⟩
    · have early : s'.AllRestBut who → Early m (s.until? ns) s' :=
        fun rest => early_of_rests (f := f) (rest k _ (Ne.symm mine) here)
      exact .going ⟨.looks after, unfinished.step move calm early
        fun tick l limit => tick.patient k _ l here limit⟩
  | goes asks answered after =>
    cases asks
    have world : s''.world = s'.world := (congrArg Prod.fst answered).symm
    refine .returned (.here (run.step move calm) ⟨_, ?_, after⟩)
    rw [changes_of_same (by rw [world]), List.append_nil, world]
    exact unfinished.returned (congrArg Prod.snd answered)
  | late waits => cases waits
  | ends done => cases done
  | gone nobody => exact .gone (.here (run.step move calm) nobody)

/-- One move more. -/
theorem Fate.step (h : Fate m k ns f s cs s') (run : Runs m s cs s') (move : Move s' who s'')
    (calm : s''.world.health m ≠ s'.world.health m → s'.AllRestBut who) :
    Fate m k ns f s (cs ++ changes m s' s'') s'' := by
  cases h with
  | returned via => exact .returned (via.step move calm)
  | gone left => exact .gone (left.step move calm)
  | going going =>
    obtain ⟨stage, unfinished⟩ := going
    cases stage with
    | starts bounded here now =>
      subst bounded
      exact unfinished.fate_of_starts run here now move calm
    | looks here => exact unfinished.fate_of_looks run here move calm

/-- A wait that goes on, seen from outside. -/
theorem Going.waited (h : Going m k ns f s cs s') : Waited m k ns f s cs s' := by
  obtain ⟨stage, unfinished⟩ := h
  cases stage with
  | @starts d bounded here now =>
    exact .waiting (.inl rfl) (bounded ▸ here) fun rest => by
      subst bounded
      cases rest
  | looks here =>
    refine .waiting (.inr rfl) here fun rest t r due => ?_
    obtain ⟨sick, before⟩ := early_of_rests rest
    obtain ⟨sickFirst, rfl⟩ := unfinished.unhealthy sick
    rw [sickFirst] at due
    cases limit : s.until? ns with
    | none =>
      rw [limit] at due
      cases due
    | some l =>
      rw [limit] at due
      cases due
      exact before _ limit

/-- A wait, from its start on. -/
theorem Runs.waited (run : Runs m s cs s') (here : s.At k (Health.wait m ns >>= f)) :
    Waited m k ns f s cs s' := by
  have first : Stage m k ns f s s := by
    cases ns with
    | none => exact .looks here
    | some d => exact .starts rfl here rfl
  have fate : Fate m k ns f s cs s' := by
    induction run with
    | refl => exact .going ⟨first, .start m ns s⟩
    | step before move calm ih => exact ih.step before move calm
  cases fate with
  | going going => exact going.waited
  | returned via => exact .returned via
  | gone left => exact .gone left

end Schedule

end DeviceRpc
