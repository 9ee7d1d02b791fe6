import Mathlib.Logic.Relation
import DeviceRpc.World.Schedule

/-!
# Moves of a schedule

What can happen to a schedule, one thing at a time: a task gets an answer or has to wait for one, it
comes to the end of a round, it is given up; something happens that no task does; or, while every
task waits, the clock moves on, and no further than the first of them is willing to wait. Tasks go
on in any order, and one of them may be overtaken between any two of its acts. What one of them
sees of a move is little (`Move.sees`).

So there are more runs here than the scheduler makes, and everything that it does is made of moves
(`Schedule.settle_moves`, `await_moves` and `giveUp_moves`).
-/

namespace DeviceRpc

namespace World

theorem settleCell_now (w : World) (c : CellId) (f : Cell → Cell) :
    (w.settleCell c f).now = w.now := by
  unfold settleCell
  cases w.cells[c]? with
  | none => rfl
  | some cell =>
    cases handle : (f cell).handle? with
    | none => simp only [handle]
    | some h =>
      simp only [handle]
      split <;> rfl

theorem release_now (w : World) (t : TaskId) (c : CellId) : (w.release t c).now = w.now := by
  unfold release
  split
  · exact settleCell_now ..
  · rfl

theorem abandon_now (w : World) (t : TaskId) : (w.abandon t).now = w.now := by
  suffices all : ∀ (cells : List CellId) (w : World),
      (cells.foldl (·.release t ·) w).now = w.now from all _ w
  intro cells
  induction cells with
  | nil => exact fun _ => rfl
  | cons c cells ih => exact fun w => (ih _).trans (release_now w t c)

/-- Time stands still while acts are answered. -/
theorem answer_now (w : World) (t : TaskId) (a : Act) : (w.answer t a).1.now = w.now := by
  cases a with
  | release c => exact release_now w t c
  | receive h n limit =>
    show (w.receive h n limit).1.now = _
    unfold receive
    cases w.network.connections[h.connection]? with
    | none => rfl
    | some c =>
      dsimp only
      split <;> rfl
  | send h bs =>
    show (w.send h bs).1.now = _
    unfold send
    cases w.network.connections[h.connection]? <;> rfl
  | acquire c =>
    simp only [answer]
    split <;> rfl
  | _ => rfl

end World

/-- What a task goes on with at the end of a round. -/
def Ending.progress : Ending → Progress
  | .over o => .finished o
  | .become job => .running job.round

namespace Schedule

/-- The task is not finished, and this is left of its round. -/
def At (s : Schedule) (t : TaskId) (p : Task Ending) : Prop := s.tasks.lookup t = some (.running p)

/-- A task that is this far has nothing to do. -/
def Rests (s : Schedule) (t : TaskId) : Progress → Prop
  | .running (.ask a _) => (s.world.answer t a).2 = none
  | .running (.done _) => False
  | .finished _ => True

/-- Every task has nothing to do, except perhaps one. -/
def AllRestBut (s : Schedule) (who : Option TaskId) : Prop :=
  ∀ u p, some u ≠ who → s.tasks.lookup u = some p → s.Rests u p

/-- Of all tasks, only this one is elsewhere now. -/
structure Only (s : Schedule) (t : TaskId) (p : Option Progress) (s' : Schedule) : Prop where
  self : s'.tasks.lookup t = p
  others : ∀ u, u ≠ t → s'.tasks.lookup u = s.tasks.lookup u

/-- The clock moves on, while every task waits and no further than one of them is willing to. -/
structure Ticks (s s' : Schedule) : Prop where
  rest : s.AllRestBut none
  later : s.world.now < s'.world.now
  patient : ∀ u p limit, s.tasks.lookup u = some p → patience p = some limit → s'.world.now ≤ limit
  world : s'.world = { s.world with now := s'.world.now }
  tasks : ∀ u p, s.tasks.lookup u = some p → s'.tasks.lookup u = some (expire s'.world.now p)

/-- One thing that can happen, and the task that does it. -/
inductive Move (s : Schedule) : Option TaskId → Schedule → Prop where
  | goes {t : TaskId} {a : Act} {next : a.Reply → Task Ending} {r : a.Reply} {s' : Schedule}
      (here : s.At t (.ask a next)) (answered : s.world.answer t a = (s'.world, some r))
      (only : s.Only t (some (.running (next r))) s') : Move s (some t) s'
  | waits {t : TaskId} {a : Act} {next : a.Reply → Task Ending} {s' : Schedule}
      (here : s.At t (.ask a next)) (unanswered : s.world.answer t a = (s'.world, none))
      (only : s.Only t (some (.running (.ask a next))) s') : Move s (some t) s'
  | ends {t : TaskId} {e : Ending} {s' : Schedule} (here : s.At t (.done e))
      (world : s'.world = s.world) (only : s.Only t (some e.progress) s') : Move s (some t) s'
  /-- A task is given up. -/
  | leaves {t : TaskId} {s' : Schedule} (now : s'.world.now = s.world.now)
      (only : s.Only t none s') : Move s none s'
  /-- Tasks are started, or the world is changed. -/
  | outside {s' : Schedule} (now : s'.world.now = s.world.now)
      (stay : ∀ u p, s.tasks.lookup u = some p → s'.tasks.lookup u = some p) : Move s none s'
  | ticks {s' : Schedule} (tick : s.Ticks s') : Move s none s'

/-- Any number of moves. -/
abbrev Moves : Schedule → Schedule → Prop := Relation.ReflTransGen fun s s' => ∃ who, Move s who s'

/-- What a task sees of a move. -/
inductive Sees (s : Schedule) (who : Option TaskId) (t : TaskId) (p : Task Ending) (s' : Schedule) :
    Prop where
  /-- Nothing; or it tried to go on and has to wait. -/
  | rests (here : s'.At t p)
      (tried : who = some t → ∃ a next, p = .ask a next ∧ s.world.answer t a = (s'.world, none))
  | goes {a : Act} {next : a.Reply → Task Ending} {r : a.Reply} (asks : p = .ask a next)
      (answered : s.world.answer t a = (s'.world, some r)) (here : s'.At t (next r))
  /-- What it waits for has not come in time. -/
  | late {h : Handle} {n : Nat} {limit : Instant} {next : Received → Task Ending}
      (waits : p = .ask (.receive h n (some limit)) next) (here : s'.At t (next .late))
  | ends {e : Ending} (done : p = .done e) (here : s'.tasks.lookup t = some e.progress)
  | gone (nobody : s'.tasks.lookup t = none)

variable {s s' : Schedule} {who : Option TaskId} {t : TaskId} {p : Task Ending}

theorem At.unique {q : Task Ending} (h : s.At t p) (h' : s.At t q) : p = q := by
  have same := h.symm.trans h'
  cases same
  rfl

theorem Sees.of_other {u : TaskId} {q : Option Progress} (only : s.Only u q s') (other : t ≠ u)
    (here : s.At t p) : s.Sees (some u) t p s' :=
  .rests ((only.others t other).trans here) fun mine => absurd (Option.some.inj mine).symm other

theorem Move.sees (move : Move s who s') (here : s.At t p) : s.Sees who t p s' := by
  cases move with
  | @goes u a next r _ here' answered only =>
    by_cases same : t = u
    · subst same
      exact .goes (here.unique here') answered only.self
    · exact .of_other only same here
  | @waits u a next _ here' unanswered only =>
    by_cases same : t = u
    · subst same
      obtain rfl := here.unique here'
      exact .rests only.self fun _ => ⟨a, next, rfl, unanswered⟩
    · exact .of_other only same here
  | @ends u e _ here' world only =>
    by_cases same : t = u
    · subst same
      exact .ends (here.unique here') only.self
    · exact .of_other only same here
  | @leaves u _ now only =>
    by_cases same : t = u
    · subst same
      exact .gone only.self
    · exact .rests ((only.others t same).trans here) nofun
  | outside now stay => exact .rests (stay t _ here) nofun
  | ticks tick =>
    have after := tick.tasks t _ here
    cases p with
    | done => exact .rests after nofun
    | ask a next =>
      cases a with
      | receive h n limit =>
        cases limit with
        | none => exact .rests after nofun
        | some limit =>
          by_cases past : limit ≤ s'.world.now
          · exact .late rfl (by rw [expire, if_pos past] at after; exact after)
          · exact .rests (by rw [expire, if_neg past] at after; exact after) nofun
      | _ => exact .rests after nofun

/-- Only the clock moves the clock. -/
theorem Move.clock (move : Move s who s') : s'.world.now = s.world.now ∨ s.Ticks s' := by
  cases move with
  | @goes t a _ _ _ here answered only =>
    have now := World.answer_now s.world t a
    rw [answered] at now
    exact .inl now
  | @waits t a _ _ here unanswered only =>
    have now := World.answer_now s.world t a
    rw [unanswered] at now
    exact .inl now
  | ends here world only => exact .inl (by rw [world])
  | leaves now only => exact .inl now
  | outside now stay => exact .inl now
  | ticks tick => exact .inr tick

/-! ## A task by itself -/

/-- A schedule of one task. -/
def single (w : World) (p : Task Ending) : Schedule := { world := w, tasks := [(0, .running p)] }

theorem single_goes {w w' : World} {a : Act} {next : a.Reply → Task Ending} {r : a.Reply}
    (answered : w.answer 0 a = (w', some r)) :
    Move (single w (.ask a next)) (some 0) (single w' (next r)) :=
  .goes rfl answered ⟨rfl, fun u other => by
    show List.lookup u [_] = List.lookup u [_]
    rw [List.lookup_cons, List.lookup_cons, beq_eq_false_iff_ne.mpr other]⟩

theorem single_rests {w : World} {a : Act} {next : a.Reply → Task Ending}
    (unanswered : (w.answer 0 a).2 = none) (who : Option TaskId) :
    (single w (.ask a next)).AllRestBut who := by
  intro u q _ here
  have mine : u = 0 := by
    refine Classical.byContradiction fun other => ?_
    have nobody : (single w (.ask a next)).tasks.lookup u = none := by
      show List.lookup u [_] = none
      rw [List.lookup_cons, beq_eq_false_iff_ne.mpr other]
      rfl
    rw [nobody] at here
    cases here
  subst mine
  cases here
  exact unanswered

end Schedule

end DeviceRpc
