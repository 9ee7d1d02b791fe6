import DeviceRpc.Proofs.World.Moves

/-!
# What the scheduler does

The scheduler makes runs out of moves. It gives turns to tasks until none gets any further
(`settle_moves`); then every task waits, because nothing that a task does while it waits lets
another one go on (`settle_rests`). So it may move the clock, and moves it no further than the first
time that a task waits for (`moveClock_ticks`). Letting time pass until a task is finished is that,
over and over (`await_moves`), and giving a task up is one more move (`giveUp_moves`).

All of it is said of what comes of a budget, for any budget. What comes of one comes of any larger
one (`settle_mono`, `await_mono`).
-/

namespace DeviceRpc

/-! ## Waiting -/

namespace Cell

variable {c : Cell} {t : TaskId}

/-- A task has to wait for the lock if another one stands first in the line. -/
theorem acquire_waits_iff :
    (c.acquire t).2 = false ↔ ∃ first rest, c.line = first :: rest ∧ first ≠ t := by
  cases line : c.line with
  | nil => simp [acquire, line]
  | cons first rest =>
    by_cases stands : t ∈ first :: rest
    · simp [acquire, line, stands]
    · simp [acquire, line, stands]

theorem line_prefix_acquire (c : Cell) (t : TaskId) : c.line <+: (c.acquire t).1.line := by
  by_cases stands : t ∈ c.line
  · simp [acquire, stands]
  · simp [acquire, stands]

end Cell

/-- Where nothing can be read, nothing is. -/
theorem Connection.receive_waits {c : Connection} {side : Side} {n : Nat}
    (waits : (c.receive side n).2 = none) : (c.receive side n).1 = c := by
  unfold receive at waits ⊢
  dsimp only at waits ⊢
  split
  next some =>
    rw [some] at waits
    cases waits
  next none =>
    rw [none] at waits
    dsimp only at waits
    split
    next reset =>
      rw [if_pos reset] at waits
      cases waits
    next => split <;> rfl

theorem Network.accept_waits {n : Network} {id : ListenerId} (waits : (n.accept id).2 = none) :
    (n.accept id).1 = n := by
  unfold accept at waits ⊢
  cases here : n.listeners[id]? with
  | none => rfl
  | some l =>
    rw [here] at waits
    dsimp only at waits ⊢
    split
    next => rfl
    next going =>
      rw [if_neg going] at waits
      cases backlog : l.backlog with
      | nil => rfl
      | cons =>
        rw [backlog] at waits
        cases waits

namespace World

variable {w w' w'' : World} {t : TaskId} {a : Act}

/-- The same world, except that lines where somebody stood may have become longer. -/
structure Lengthens (w w' : World) : Prop where
  rest : w' = { w with cells := w'.cells }
  cells : ∀ c : CellId, w'.cells[c]? = w.cells[c]? ∨ ∃ cell line, w.cells[c]? = some cell ∧
    cell.line ≠ [] ∧ cell.line <+: line ∧ w'.cells[c]? = some { cell with line }

theorem Lengthens.refl (w : World) : w.Lengthens w := ⟨rfl, fun _ => .inl rfl⟩

theorem Lengthens.trans (first : w.Lengthens w') (second : w'.Lengthens w'') : w.Lengthens w'' where
  rest := by
    have later := second.rest
    rw [first.rest] at later
    exact later
  cells c := by
    rcases first.cells c with same | ⟨cell, line, here, stood, longer, after⟩
    · rw [← same]
      exact second.cells c
    · rcases second.cells c with same | ⟨cell', line', here', -, longer', after'⟩
      · exact .inr ⟨cell, line, here, stood, longer, same.trans after⟩
      · obtain rfl := Option.some.inj (after.symm.trans here')
        exact .inr ⟨cell, line', here, stood, longer.trans longer', after'⟩

theorem acquire_waits_iff {c : CellId} :
    (w.answer t (.acquire c)).2 = none ↔ ∀ cell ∈ w.cells[c]?, (cell.acquire t).2 = false := by
  simp only [answer]
  cases w.cells[c]? with
  | none => simp
  | some cell => simp

theorem lengthens_acquire {c : CellId} (waits : (w.answer t (.acquire c)).2 = none) :
    w.Lengthens (w.answer t (.acquire c)).1 := by
  rw [acquire_waits_iff] at waits
  simp only [answer]
  cases here : w.cells[c]? with
  | none => exact .refl w
  | some cell =>
    obtain ⟨first, rest, line, -⟩ := Cell.acquire_waits_iff.mp (waits cell here)
    refine ⟨rfl, fun c' => ?_⟩
    by_cases same : c' = c
    · subst same
      obtain ⟨inside, -⟩ := List.getElem?_eq_some_iff.mp here
      have stood : cell.line ≠ [] := line ▸ List.cons_ne_nil first rest
      exact .inr ⟨cell, _, here, stood, cell.line_prefix_acquire t, List.getElem?_set_self inside⟩
    · exact .inl (List.getElem?_set_ne (Ne.symm same))

theorem receive_waits {h : Handle} {n : Nat} {limit : Option Instant}
    (waits : (w.receive h n limit).2 = none) :
    (w.receive h n limit).1 = w ∧ w.isPast limit = false := by
  unfold receive at waits ⊢
  cases here : w.network.connections[h.connection]? with
  | none =>
    rw [here] at waits
    cases waits
  | some c =>
    rw [here] at waits
    dsimp only at waits ⊢
    cases read : (c.receive h.side n).2 with
    | some r =>
      rw [read] at waits
      cases waits
    | none =>
      rw [read] at waits
      obtain ⟨inside, found⟩ := List.getElem?_eq_some_iff.mp here
      have kept : w.network.connections.set h.connection c = w.network.connections := by
        rw [← found, List.set_getElem_self]
      rw [Connection.receive_waits read, kept] at waits ⊢
      refine ⟨rfl, Bool.eq_false_iff.mpr fun past => ?_⟩
      replace waits : (if w.isPast limit then some Received.late else none) = none := waits
      rw [if_pos past] at waits
      cases waits

/-- **A task that waits** has at most joined a line in which others stood before it. -/
theorem lengthens_of_waits (waits : (w.answer t a).2 = none) : w.Lengthens (w.answer t a).1 := by
  cases a with
  | acquire c => exact lengthens_acquire waits
  | receive h n limit =>
    show w.Lengthens (w.receive h n limit).1
    rw [(receive_waits waits).1]
    exact .refl w
  | accept listener =>
    have network : (w.network.accept listener).1 = w.network := Network.accept_waits waits
    show w.Lengthens { w with network := (w.network.accept listener).1 }
    rw [network]
    exact .refl w
  | _ => first | exact .refl w | cases waits

theorem receive_cells (w : World) (cells : List Cell) (h : Handle) (n : Nat)
    (limit : Option Instant) :
    ({ w with cells }.receive h n limit).2 = (w.receive h n limit).2 := by
  unfold receive
  dsimp only
  cases w.network.connections[h.connection]? with
  | none => rfl
  | some c =>
    dsimp only
    split <;> rfl

/-- What has to wait has to wait still. -/
theorem Lengthens.waits (longer : w.Lengthens w') (waits : (w.answer t a).2 = none) :
    (w'.answer t a).2 = none := by
  -- all that a cell is asked for beside its lock is what it holds
  have content (c : CellId) : w'.cells[c]?.map Cell.content = w.cells[c]?.map Cell.content := by
    rcases longer.cells c with same | ⟨cell, line, here, -, -, after⟩
    · rw [same]
    · rw [here, after]
      rfl
  cases a with
  | acquire c =>
    rw [acquire_waits_iff] at waits ⊢
    rcases longer.cells c with same | ⟨cell, line, here, stood, ⟨more, rfl⟩, after⟩
    · rwa [same]
    · obtain ⟨first, rest, queue, other⟩ := Cell.acquire_waits_iff.mp (waits cell here)
      rw [after]
      rintro _ ⟨⟩
      exact Cell.acquire_waits_iff.mpr ⟨first, rest ++ more, by rw [queue]; rfl, other⟩
  | pduClient c =>
    show w'.pduClient? c = none
    rw [pduClient?, content]
    exact waits
  | rpcClient c =>
    show w'.rpcClient? c = none
    rw [rpcClient?, content]
    exact waits
  | rehearsal c =>
    show w'.rehearsal? c = none
    rw [rehearsal?, content]
    exact waits
  | receive h n limit =>
    show (w'.receive h n limit).2 = none
    rw [longer.rest, receive_cells]
    exact waits
  | _ =>
    rw [longer.rest]
    first | exact waits | cases waits

theorem Lengthens.spawned (longer : w.Lengthens w') : w'.spawned = w.spawned := by
  rw [longer.rest]

/-- It waits for a time that is yet to come. -/
theorem lt_of_waits {limit : Instant} (waits : (w.answer t a).2 = none)
    (patient : patience a = some limit) : w.now < limit := by
  cases a with
  | sleepUntil time =>
    cases patient
    refine Nat.lt_of_not_le fun past => ?_
    simp [answer, past] at waits
  | receive h n time =>
    obtain rfl : time = some limit := patient
    have early := (receive_waits waits).2
    simpa [isPast] using early
  | awaitHealthy m time =>
    obtain rfl : time = some limit := patient
    refine Nat.lt_of_not_le fun past => ?_
    cases healthy : w.health m <;> simp [answer, isPast, past, healthy] at waits
  | _ => cases patient

end World

namespace Schedule

variable {s s' : Schedule} {who : Option TaskId} {t : TaskId} {p : Task Ending}

/-! ## Turns -/

theorem lookup_map (g : TaskId → Progress → Progress) (u : TaskId) :
    ∀ tasks : List (TaskId × Progress),
      (tasks.map fun x => (x.1, g x.1 x.2)).lookup u = (tasks.lookup u).map (g u)
  | [] => rfl
  | (id, q) :: tasks => by
    rw [List.map_cons, List.lookup_cons, List.lookup_cons]
    by_cases same : u = id
    · subst same
      rw [beq_self_eq_true]
      rfl
    · rw [beq_eq_false_iff_ne.mpr same]
      exact lookup_map g u tasks

/-- The schedule with a task at another place. -/
def put (s : Schedule) (t : TaskId) (p : Progress) : Schedule :=
  { s with tasks := s.tasks.map fun (id, q) => if id = t then (id, p) else (id, q) }

theorem lookup_put (s : Schedule) (t : TaskId) (p : Progress) (u : TaskId) :
    (s.put t p).tasks.lookup u = (s.tasks.lookup u).map fun q => if u = t then p else q := by
  have tasks : (s.put t p).tasks = s.tasks.map fun x => (x.1, if x.1 = t then p else x.2) := by
    refine List.map_congr_left fun x _ => ?_
    show (if x.1 = t then (x.1, p) else (x.1, x.2)) = (x.1, if x.1 = t then p else x.2)
    split <;> rfl
  rw [tasks]
  exact lookup_map (fun id q => if id = t then p else q) u s.tasks

theorem ids_put (s : Schedule) (t : TaskId) (p : Progress) :
    (s.put t p).tasks.map Prod.fst = s.tasks.map Prod.fst := by
  show (s.tasks.map _).map Prod.fst = _
  rw [List.map_map]
  refine List.map_congr_left fun x _ => ?_
  show (if x.1 = t then (x.1, p) else (x.1, x.2)).1 = x.1
  split <;> rfl

theorem only_put {q : Progress} (here : s.tasks.lookup t = some q) (p : Progress) (w : World) :
    s.Only t (some p) ({ s with world := w }.put t p) where
  self := by
    rw [lookup_put]
    show (s.tasks.lookup t).map _ = _
    rw [here, Option.map_some, if_pos rfl]
  others u other := by
    rw [lookup_put]
    show (s.tasks.lookup u).map _ = _
    simp only [if_neg other, Option.map_id']

/-- By moves of its own, the task can come to this place and the world to this state. -/
def Turns (s : Schedule) (t : TaskId) (w : World) (p : Progress) : Prop :=
  ∃ s', Moves s s' ∧ s'.world = w ∧ s.Only t (some p) s'

theorem Turns.along {w : World} {q r : Progress} (moves : Moves s s') (only : s.Only t (some r) s')
    (rest : s'.Turns t w q) : s.Turns t w q := by
  obtain ⟨s'', moves', world, only'⟩ := rest
  exact ⟨s'', moves.trans moves', world, only'.self,
    fun u other => (only'.others u other).trans (only.others u other)⟩

theorem Turns.after {w : World} {q r : Progress} (move : Move s who s')
    (only : s.Only t (some r) s') (rest : s'.Turns t w q) : s.Turns t w q :=
  rest.along (.single ⟨who, move⟩) only

theorem advance_turns (moved : Bool) : ∀ (p : Task Ending) {s : Schedule}, s.At t p →
    s.Turns t (advance t s.world moved p).1 (.running (advance t s.world moved p).2.2)
  | .done _, s, here => ⟨s, .refl, rfl, here, fun _ _ => rfl⟩
  | .ask a next, s, here => by
    unfold advance
    cases answered : s.world.answer t a with
    | mk w reply =>
      cases reply with
      | none =>
        have only : s.Only t (some (.running (.ask a next))) { s with world := w } :=
          ⟨here, fun _ _ => rfl⟩
        exact ⟨_, .single ⟨_, .waits here answered only⟩, rfl, only⟩
      | some r =>
        have only := only_put here (.running (next r)) w
        exact .after (.goes here answered only) only
          (advance_turns true (next r) only.self)

/-- What a turn comes to, however many rounds it takes. -/
inductive Turned (t : TaskId) : World → Bool → Task Ending → World × Bool × Progress → Prop where
  | waits {w w' : World} {moved moved' : Bool} {p : Task Ending} {a : Act}
      {next : a.Reply → Task Ending} (advanced : advance t w moved p = (w', moved', .ask a next)) :
      Turned t w moved p (w', moved', .running (.ask a next))
  | finishes {w w' : World} {moved moved' : Bool} {p : Task Ending} {o : Outcome}
      (advanced : advance t w moved p = (w', moved', .done (.over o))) :
      Turned t w moved p (w', true, .finished o)
  | goesOn {w w' : World} {moved moved' : Bool} {p : Task Ending} {job : Job}
      {r : World × Bool × Progress}
      (advanced : advance t w moved p = (w', moved', .done (.become job)))
      (rest : Turned t w' true job.round r) : Turned t w moved p r

theorem turned_of_turn {budget : Nat} {w : World} {moved : Bool} {r : World × Bool × Progress}
    (turned : turn t budget w moved p = some r) : Turned t w moved p r := by
  induction budget generalizing w moved p with
  | zero => cases turned
  | succ budget ih =>
    unfold turn at turned
    cases advanced : advance t w moved p with
    | mk w' rest =>
      obtain ⟨moved', q⟩ := rest
      rw [advanced] at turned
      match q with
      | .ask a next =>
        cases turned
        exact .waits advanced
      | .done (.over o) =>
        cases turned
        exact .finishes advanced
      | .done (.become job) => exact .goesOn advanced (ih turned)

/-- The end of a round is one more move. -/
theorem Turns.end {w : World} {e : Ending} (turns : s.Turns t w (.running (.done e))) :
    s.Turns t w e.progress := by
  obtain ⟨s', moves, rfl, only⟩ := turns
  have here : s'.At t (.done e) := only.self
  have ended : s'.Only t (some e.progress) (s'.put t e.progress) := only_put here _ s'.world
  have move : Move s' (some t) (s'.put t e.progress) := .ends here rfl ended
  exact .along moves only ⟨_, .single ⟨_, move⟩, rfl, ended⟩

theorem Turned.turns {w : World} {moved : Bool} {r : World × Bool × Progress}
    (turned : Turned t w moved p r) {s : Schedule} (world : s.world = w) (here : s.At t p) :
    s.Turns t r.1 r.2.2 := by
  induction turned generalizing s with
  | @waits w w' moved moved' p a next advanced =>
    have turns := advance_turns moved p here
    rwa [world, advanced] at turns
  | @finishes w w' moved moved' p o advanced =>
    have turns := advance_turns moved p here
    rw [world, advanced] at turns
    exact turns.end
  | @goesOn w w' moved moved' p job r advanced _ ih =>
    have turns := advance_turns moved p here
    rw [world, advanced] at turns
    obtain ⟨s', moves, rfl, only⟩ := turns.end
    exact .along moves only (ih rfl only.self)

theorem start_stays (job : Job) (s : Schedule) {u : TaskId} {q : Progress}
    (here : s.tasks.lookup u = some q) : (s.start job).1.tasks.lookup u = some q := by
  show (s.tasks ++ [_]).lookup u = _
  rw [List.lookup_append, here]
  rfl

theorem starts_stay (jobs : List Job) : ∀ s : Schedule,
    (jobs.foldl (fun s job => (s.start job).1) s).world = s.world ∧
      ∀ u q, s.tasks.lookup u = some q →
        (jobs.foldl (fun s job => (s.start job).1) s).tasks.lookup u = some q := by
  induction jobs with
  | nil => exact fun s => ⟨rfl, fun _ _ here => here⟩
  | cons job jobs ih =>
    intro s
    obtain ⟨world, stay⟩ := ih (s.start job).1
    exact ⟨world, fun u q here => stay u q (start_stays job s here)⟩

theorem startSpawned_stays (s : Schedule) :
    s.startSpawned.world = { s.world with spawned := [] } ∧
    ∀ u q, s.tasks.lookup u = some q → s.startSpawned.tasks.lookup u = some q :=
  starts_stay s.world.spawned { s with world := { s.world with spawned := [] } }

variable {budget : Nat}

/-- What giving a turn to a task is: nothing, if it is finished or there is none. -/
theorem step_cases {r : Schedule × Bool} (stepped : step budget s t = some r) :
    (r = (s, false) ∧ ∀ p, ¬ s.At t p) ∨
    ∃ p w q, s.At t p ∧ Turned t s.world false p (w, r.2, q) ∧
      r.1 = ({ s with world := w }.put t q).startSpawned := by
  unfold step at stepped
  cases here : s.tasks.lookup t with
  | none =>
    rw [here] at stepped
    cases stepped
    exact .inl ⟨rfl, fun p there => by cases here.symm.trans there⟩
  | some p =>
    rw [here] at stepped
    cases p with
    | finished =>
      cases stepped
      exact .inl ⟨rfl, fun p there => by cases here.symm.trans there⟩
    | running p =>
      obtain ⟨⟨w, moved, q⟩, turned, ended⟩ := Option.bind_eq_some_iff.mp stepped
      cases ended
      exact .inr ⟨p, w, q, here, turned_of_turn turned, rfl⟩

/-- A turn of a task is made of moves. -/
theorem step_moves {r : Schedule × Bool} (stepped : step budget s t = some r) : Moves s r.1 := by
  rcases step_cases stepped with ⟨rfl, -⟩ | ⟨p, w, q, here, turned, after⟩
  · exact .refl
  obtain ⟨s', moves, rfl, only⟩ := turned.turns rfl here
  obtain ⟨world, stay⟩ := startSpawned_stays ({ s with world := s'.world }.put t q)
  have now : ({ s with world := s'.world }.put t q).startSpawned.world.now = s'.world.now := by
    rw [world]
    rfl
  rw [after]
  refine moves.tail ⟨none, .outside now fun u r there => stay u r ?_⟩
  rw [lookup_put]
  show (s.tasks.lookup u).map _ = _
  by_cases mine : u = t
  · subst mine
    rw [show s.tasks.lookup u = _ from here, ← there, only.self, Option.map_some, if_pos rfl]
  · simp only [if_neg mine, Option.map_id']
    rw [← there, only.others u mine]

theorem pass_moves : ∀ {ts : List TaskId} {s : Schedule} {r : Schedule × Bool},
    pass budget ts s = some r → Moves s r.1
  | [], s, r, passed => by
    cases passed
    exact .refl
  | t :: ts, s, r, passed => by
    obtain ⟨⟨s₁, moved⟩, stepped, passed⟩ := Option.bind_eq_some_iff.mp passed
    obtain ⟨⟨s₂, moved'⟩, later, passed⟩ := Option.bind_eq_some_iff.mp passed
    cases passed
    have here := step_moves stepped
    have rest := pass_moves later
    exact here.trans rest

/-- What happens until every task waits is made of moves. -/
theorem settle_moves : ∀ {budget : Nat} {s s' : Schedule}, s.settle budget = some s' → Moves s s'
  | 0, _, _, settled => nomatch settled
  | budget + 1, s, s', settled => by
    obtain ⟨⟨s₁, moved⟩, passed, settled⟩ := Option.bind_eq_some_iff.mp settled
    have here : Moves s s₁ := pass_moves passed
    cases moved with
    | true => exact here.trans (settle_moves settled)
    | false =>
      cases settled
      exact here

theorem only_remove (s : Schedule) (t : TaskId) (w : World) :
    s.Only t none ({ s with world := w }.remove t) := by
  have lookup (u : TaskId) : ∀ tasks : List (TaskId × Progress),
      (tasks.filter (·.1 ≠ t)).lookup u = if u = t then none else tasks.lookup u := by
    intro tasks
    induction tasks with
    | nil => rw [List.filter_nil, List.lookup_nil, ite_self]
    | cons x tasks ih =>
      obtain ⟨id, q⟩ := x
      by_cases mine : id = t
      · subst mine
        rw [List.filter_cons_of_neg (by simp), ih, List.lookup_cons]
        by_cases same : u = id
        · rw [if_pos same, if_pos same]
        · rw [beq_eq_false_iff_ne.mpr same]
      · rw [List.filter_cons_of_pos (by simpa using mine), List.lookup_cons, List.lookup_cons, ih]
        by_cases same : u = id
        · subst same
          simp only [beq_self_eq_true, if_neg mine]
        · rw [beq_eq_false_iff_ne.mpr same]
  constructor
  · exact (lookup t s.tasks).trans (if_pos rfl)
  · exact fun u other => (lookup u s.tasks).trans (if_neg other)

/-- A task that is given up leaves, and then there are moves until every task waits. -/
theorem giveUp_moves (gone : giveUp budget s t = some s') : Moves s s' := by
  have leaves : Move s none ({ s with world := s.world.abandon t }.remove t) :=
    .leaves (World.abandon_now s.world t) (only_remove s t _)
  exact .head ⟨none, leaves⟩ (settle_moves gone)

/-! ## Rest -/

theorem advance_moved : ∀ (p : Task Ending) (w : World), (advance t w true p).2.1 = true
  | .done _, _ => rfl
  | .ask a next, w => by
    unfold advance
    cases w.answer t a with
    | mk w reply =>
      cases reply with
      | none => rfl
      | some r => exact advance_moved (next r) w

theorem Turned.moved {w : World} {moved : Bool} {r : World × Bool × Progress}
    (turned : Turned t w moved p r) (before : moved = true) : r.2.1 = true := by
  induction turned with
  | @waits w w' moved moved' p _ _ advanced =>
    subst before
    have moved := advance_moved (t := t) p w
    rwa [advanced] at moved
  | finishes => rfl
  | goesOn _ _ ih => exact ih rfl

/-- A task that does not get any further has to wait. -/
theorem Turned.still {w w' : World} {q : Progress} (turned : Turned t w false p (w', false, q)) :
    q = .running p ∧ ∃ a next, p = .ask a next ∧ (w.answer t a).2 = none ∧
      w' = (w.answer t a).1 := by
  cases turned with
  | goesOn _ rest => cases rest.moved rfl
  | waits advanced =>
    match p with
    | .done _ => cases advanced
    | .ask a next =>
      unfold advance at advanced
      cases answered : w.answer t a with
      | mk w₁ reply =>
        rw [answered] at advanced
        cases reply with
        | none =>
          cases advanced
          exact ⟨rfl, _, _, rfl, by rw [answered], by rw [answered]⟩
        | some r =>
          have moved := advance_moved (t := t) (next r) w₁
          dsimp only at advanced
          rw [advanced] at moved
          cases moved

/-- A part of a round in which no task gets any further. -/
structure Idles (s s' : Schedule) : Prop where
  world : s.world.Lengthens s'.world
  tasks : ∀ u, s'.tasks.lookup u = s.tasks.lookup u

theorem Idles.rests (idles : s.Idles s') {q : Progress} (rests : s.Rests t q) : s'.Rests t q := by
  match q with
  | .running (.ask a next) => exact idles.world.waits rests
  | .running (.done _) => exact rests
  | .finished _ => exact trivial

theorem startSpawned_of_quiet (quiet : s.world.spawned = []) : s.startSpawned = s := by
  obtain ⟨w, tasks, next⟩ := s
  obtain ⟨now, network, plant, cells, nodes, peers, dialed, spawned, lastReply⟩ := w
  subst quiet
  rfl

theorem step_idles (quiet : s.world.spawned = []) (stepped : step budget s t = some (s', false)) :
    s.Idles s' ∧ ∀ q, s.tasks.lookup t = some q → s'.Rests t q := by
  rcases step_cases stepped with ⟨same, gone⟩ | ⟨p, w, q, here, turned, after⟩
  · cases same
    refine ⟨⟨.refl _, fun _ => rfl⟩, fun q there => ?_⟩
    cases q with
    | running p => exact absurd there (gone p)
    | finished => exact trivial
  · obtain ⟨rfl, a, next, rfl, waits, rfl⟩ := turned.still
    have longer := World.lengthens_of_waits waits
    have still := startSpawned_of_quiet
      (s := { s with world := (s.world.answer t a).1 }.put t (.running (.ask a next)))
      (longer.spawned.trans quiet)
    obtain rfl : s' = { s with world := (s.world.answer t a).1 }.put t (.running (.ask a next)) :=
      after.trans still
    have idles : s.Idles ({ s with world := (s.world.answer t a).1 }.put t
        (.running (.ask a next))) := by
      refine ⟨longer, fun u => ?_⟩
      by_cases mine : u = t
      · subst mine
        exact (only_put here _ _).self.trans here.symm
      · exact (only_put here _ _).others u mine
    refine ⟨idles, fun q there => idles.rests ?_⟩
    cases there.symm.trans here
    exact waits

theorem pass_idles : ∀ {ts : List TaskId} {s s' : Schedule}, s.world.spawned = [] →
    pass budget ts s = some (s', false) →
    s.Idles s' ∧ ∀ t ∈ ts, ∀ q, s.tasks.lookup t = some q → s'.Rests t q
  | [], s, s', _, passed => by
    cases passed
    exact ⟨⟨.refl _, fun _ => rfl⟩, fun _ mem => nomatch mem⟩
  | t :: ts, s, s', quiet, passed => by
    -- the first of them is found at rest, and the others leave it so
    obtain ⟨⟨s₁, moved⟩, stepped, passed⟩ := Option.bind_eq_some_iff.mp passed
    obtain ⟨⟨s₂, moved'⟩, later, passed⟩ := Option.bind_eq_some_iff.mp passed
    obtain ⟨rfl, still⟩ := Prod.mk.inj (Option.some.inj passed)
    obtain ⟨rfl, rfl⟩ := Bool.or_eq_false_iff.mp still
    obtain ⟨here, rests⟩ := step_idles quiet stepped
    obtain ⟨rest, all⟩ := pass_idles (here.world.spawned.trans quiet) later
    refine ⟨⟨here.world.trans rest.world, fun u => (rest.tasks u).trans (here.tasks u)⟩, ?_⟩
    intro u mem q there
    rcases List.mem_cons.mp mem with rfl | mem
    · exact rest.rests (rests q there)
    · exact all u mem q ((here.tasks u).trans there)

/-! ## Order -/

/-- Every task has a number of its own, and the jobs that tasks asked for are started. -/
structure Orderly (s : Schedule) : Prop where
  distinct : (s.tasks.map Prod.fst).Nodup
  fresh : ∀ id ∈ s.tasks.map Prod.fst, id < s.next
  quiet : s.world.spawned = []

theorem Orderly.start (orderly : s.Orderly) (job : Job) : (s.start job).1.Orderly where
  distinct := by
    show ((s.tasks ++ [_]).map Prod.fst).Nodup
    rw [List.map_append, List.nodup_append]
    refine ⟨orderly.distinct, List.pairwise_singleton _ _, fun id mem other same => ?_⟩
    rw [List.mem_singleton.mp same]
    exact Nat.ne_of_lt (orderly.fresh id mem)
  fresh id mem := by
    rcases List.mem_append.mp (List.map_append ▸ mem) with mem | mem
    · exact Nat.lt_succ_of_lt (orderly.fresh id mem)
    · rw [List.mem_singleton.mp mem]
      exact Nat.lt_succ_self _
  quiet := orderly.quiet

/-- Starting what tasks asked for puts a schedule in order. -/
theorem startSpawned_orderly (distinct : (s.tasks.map Prod.fst).Nodup)
    (fresh : ∀ id ∈ s.tasks.map Prod.fst, id < s.next) : s.startSpawned.Orderly := by
  have all (jobs : List Job) : ∀ {s : Schedule}, s.Orderly →
      (jobs.foldl (fun s job => (s.start job).1) s).Orderly := by
    induction jobs with
    | nil => exact id
    | cons job jobs ih => exact fun orderly => ih (orderly.start job)
  exact all s.world.spawned ⟨distinct, fresh, rfl⟩

theorem advance_now : ∀ (p : Task Ending) (w : World) (moved : Bool),
    (advance t w moved p).1.now = w.now
  | .done _, _, _ => rfl
  | .ask a next, w, _ => by
    have here := World.answer_now w t a
    unfold advance
    cases answered : w.answer t a with
    | mk w' reply =>
      rw [answered] at here
      cases reply with
      | none => exact here
      | some r => exact (advance_now (next r) w' true).trans here

theorem Turned.now {w : World} {moved : Bool} {r : World × Bool × Progress}
    (turned : Turned t w moved p r) : r.1.now = w.now := by
  induction turned with
  | @waits w w' moved _ p _ _ advanced | @finishes w w' moved _ p _ advanced =>
    have now := advance_now (t := t) p w moved
    rwa [advanced] at now
  | @goesOn w w' moved _ p _ _ advanced _ ih =>
    have now := advance_now (t := t) p w moved
    rw [advanced] at now
    exact ih.trans now

theorem step_orderly (orderly : s.Orderly) {r : Schedule × Bool}
    (stepped : step budget s t = some r) : r.1.Orderly ∧ r.1.world.now = s.world.now := by
  rcases step_cases stepped with ⟨rfl, -⟩ | ⟨p, w, q, -, turned, after⟩
  · exact ⟨orderly, rfl⟩
  · have ids := ids_put { s with world := w } t q
    rw [after]
    refine ⟨startSpawned_orderly (ids ▸ orderly.distinct) (ids ▸ orderly.fresh), ?_⟩
    rw [(startSpawned_stays _).1]
    exact turned.now

theorem pass_orderly : ∀ {ts : List TaskId} {s : Schedule} {r : Schedule × Bool}, s.Orderly →
    pass budget ts s = some r → r.1.Orderly ∧ r.1.world.now = s.world.now
  | [], _, _, orderly, passed => by
    cases passed
    exact ⟨orderly, rfl⟩
  | _ :: _, _, _, orderly, passed => by
    obtain ⟨_, stepped, passed⟩ := Option.bind_eq_some_iff.mp passed
    obtain ⟨⟨s₂, _⟩, later, passed⟩ := Option.bind_eq_some_iff.mp passed
    cases passed
    obtain ⟨orderly₁, now₁⟩ := step_orderly orderly stepped
    obtain ⟨orderly₂, now₂⟩ := pass_orderly orderly₁ later
    exact ⟨orderly₂, now₂.trans now₁⟩

/-- **Where the scheduler stops, every task waits**, and no time has passed. -/
theorem settle_rests (orderly : s.Orderly) (settled : s.settle budget = some s') :
    s'.AllRestBut none ∧ s'.Orderly ∧ s'.world.now = s.world.now := by
  induction budget generalizing s with
  | zero => cases settled
  | succ budget ih =>
    obtain ⟨⟨s₁, moved⟩, passed, settled⟩ := Option.bind_eq_some_iff.mp settled
    obtain ⟨orderly₁, now₁⟩ := pass_orderly orderly passed
    cases moved with
    | true =>
      obtain ⟨rest, orderly', now'⟩ := ih orderly₁ settled
      exact ⟨rest, orderly', now'.trans now₁⟩
    | false =>
      cases settled
      refine ⟨fun u q _ here => ?_, orderly₁, now₁⟩
      obtain ⟨idles, rests⟩ := pass_idles orderly.quiet passed
      have there := (idles.tasks u).symm.trans here
      obtain ⟨before, after, split, -⟩ := List.lookup_eq_some_iff.mp there
      have mem : u ∈ s.tasks.map Prod.fst := by
        rw [split]
        simp
      exact rests u mem q there

/-! ## The clock -/

/-- The first time that a task waits for is no later than the time that any of them waits for. -/
theorem nextTime_le {u : TaskId} {q : Progress} {limit : Instant}
    (here : s.tasks.lookup u = some q) (waits : patience q = some limit) {time : Instant}
    (earliest : ∀ first, s.nextTime = some first → time ≤ first) : time ≤ limit := by
  have mem : limit ∈ s.tasks.filterMap (patience ·.2) := by
    obtain ⟨before, after, split, -⟩ := List.lookup_eq_some_iff.mp here
    rw [split]
    exact List.mem_filterMap.mpr ⟨(u, q), List.mem_append_right _ (List.mem_cons_self ..), waits⟩
  cases found : s.nextTime with
  | none =>
    rw [nextTime, List.min?_eq_none_iff] at found
    rw [found] at mem
    cases mem
  | some first =>
    exact Nat.le_trans (earliest first found) ((List.min?_eq_some_iff.mp found).2 limit mem)

theorem lookup_moveClock (now : Instant) {u : TaskId} {q : Progress}
    (here : s.tasks.lookup u = some q) :
    (s.moveClock now).tasks.lookup u = some (expire now q) := by
  have moved := lookup_map (fun _ => expire now) u s.tasks
  rw [here] at moved
  exact moved

/-- The scheduler moves the clock no further than the first time that a task waits for. -/
theorem moveClock_ticks (now : Instant) (rest : s.AllRestBut none) (later : s.world.now < now)
    (first : ∀ time, s.nextTime = some time → now ≤ time) : s.Ticks (s.moveClock now) where
  rest
  later
  patient _ _ _ here waits := nextTime_le here waits first
  world := rfl
  tasks _ _ here := lookup_moveClock now here

theorem Rests.lt_patience {q : Progress} {limit : Instant} (rests : s.Rests t q)
    (waits : patience q = some limit) : s.world.now < limit := by
  match q with
  | .running (.ask a next) => exact World.lt_of_waits rests waits
  | .running (.done _) => cases waits
  | .finished _ => cases waits

/-- Nothing that a task waits for is due at a time before it. -/
theorem expire_eq_self {q : Progress} {now : Instant}
    (early : ∀ limit, patience q = some limit → now < limit) : expire now q = q := by
  unfold expire
  split
  next limit next => rw [if_neg (Nat.not_le.mpr (early limit rfl))]
  next => rfl

/-- The first time that a task waits for is yet to come. -/
theorem Orderly.lt_nextTime (orderly : s.Orderly) (rest : s.AllRestBut none) {time : Instant}
    (next : s.nextTime = some time) : s.world.now < time := by
  obtain ⟨⟨u, q⟩, mem, waits⟩ := List.mem_filterMap.mp (List.min?_eq_some_iff.mp next).1
  obtain ⟨before, after, split⟩ := List.append_of_mem mem
  have distinct := orderly.distinct
  rw [split, List.map_append, List.map_cons, List.nodup_append] at distinct
  have here : s.tasks.lookup u = some q := by
    refine List.lookup_eq_some_iff.mpr ⟨before, after, split, fun x earlier => ?_⟩
    have apart := distinct.2.2 x.1 (List.mem_map_of_mem earlier) u (List.mem_cons_self ..)
    exact bne_iff_ne.mpr (Ne.symm apart)
  exact (rest u q nofun here).lt_patience waits

theorem Orderly.moveClock (orderly : s.Orderly) (now : Instant) : (s.moveClock now).Orderly := by
  have ids : (s.moveClock now).tasks.map Prod.fst = s.tasks.map Prod.fst := by
    show (s.tasks.map _).map Prod.fst = _
    rw [List.map_map]
    rfl
  exact ⟨ids ▸ orderly.distinct, ids ▸ orderly.fresh, orderly.quiet⟩

/-- At the same time, moving the clock does nothing: what is due by now waits no more. -/
theorem moveClock_moves (now : Instant) (rest : s.AllRestBut none) (later : s.world.now ≤ now)
    (first : ∀ time, s.nextTime = some time → now ≤ time) : Moves s (s.moveClock now) := by
  rcases Nat.lt_or_eq_of_le later with later | same
  · exact .single ⟨none, .ticks (moveClock_ticks now rest later first)⟩
  · refine .single ⟨none, .outside same.symm fun u q here => ?_⟩
    rw [lookup_moveClock now here, expire_eq_self]
    subst same
    exact fun limit waits => (rest u q nofun here).lt_patience waits

theorem Orderly.remove (orderly : s.Orderly) (t : TaskId) : (s.remove t).Orderly where
  distinct := (List.filter_sublist.map _).nodup orderly.distinct
  fresh id mem := orderly.fresh id ((List.filter_sublist.map _).mem mem)
  quiet := orderly.quiet

/-- **Letting time pass** until a task is finished or the limit comes is made of moves. -/
theorem await_moves {limit : Instant} {r : Schedule × Option Outcome} (orderly : s.Orderly)
    (early : s.world.now ≤ limit) (awaited : await t limit budget s = some r) :
    Moves s r.1 ∧ r.1.Orderly := by
  induction budget generalizing s with
  | zero => cases awaited
  | succ budget ih =>
    obtain ⟨s₁, settled, awaited⟩ := Option.bind_eq_some_iff.mp awaited
    obtain ⟨rest, orderly₁, now₁⟩ := settle_rests orderly settled
    have moves := settle_moves settled
    have early₁ : s₁.world.now ≤ limit := now₁ ▸ early
    cases finished : s₁.outcome? t with
    | some o =>
      rw [finished] at awaited
      cases awaited
      have leaves : Move s₁ none (s₁.remove t) := .leaves rfl (only_remove s₁ t s₁.world)
      exact ⟨moves.tail ⟨none, leaves⟩, orderly₁.remove t⟩
    | none =>
      cases earliest : s₁.nextTime with
      | none =>
        rw [finished, earliest] at awaited
        cases awaited
        have ticks := moveClock_moves limit rest early₁ (by rw [earliest]; nofun)
        exact ⟨moves.trans ticks, orderly₁.moveClock limit⟩
      | some time =>
        rw [finished, earliest] at awaited
        dsimp only at awaited
        by_cases soon : time ≤ limit
        · rw [if_pos soon] at awaited
          have later := Nat.le_of_lt (orderly₁.lt_nextTime rest earliest)
          have first : ∀ next, s₁.nextTime = some next → time ≤ next := by
            rw [earliest]
            rintro _ ⟨⟩
            exact Nat.le.refl
          have ticks := moveClock_moves time rest later first
          obtain ⟨moves', orderly'⟩ := ih (orderly₁.moveClock time) soon awaited
          exact ⟨moves.trans (ticks.trans moves'), orderly'⟩
        · rw [if_neg soon] at awaited
          cases awaited
          have first : ∀ next, s₁.nextTime = some next → limit ≤ next := by
            rw [earliest]
            rintro _ ⟨⟩
            exact Nat.le_of_lt (Nat.lt_of_not_le soon)
          have ticks := moveClock_moves limit rest early₁ first
          exact ⟨moves.trans ticks, orderly₁.moveClock limit⟩

/-! ## Budgets

The induction is on the smaller budget. A run that comes to something has one left over for each of
its parts, and so has the larger one. -/

theorem turn_mono {budget budget' : Nat} (le : budget ≤ budget') {w : World} {moved : Bool}
    {p : Task Ending} {r : World × Bool × Progress} (turned : turn t budget w moved p = some r) :
    turn t budget' w moved p = some r := by
  induction budget generalizing budget' w moved p with
  | zero => cases turned
  | succ budget ih =>
    obtain ⟨more, rfl⟩ := Nat.exists_eq_add_of_le' le
    show turn t (more + budget + 1) w moved p = some r
    unfold turn at turned ⊢
    cases result : advance t w moved p with
    | mk w' rest =>
      obtain ⟨moved', q⟩ := rest
      rw [result] at turned
      match q with
      | .ask .. => exact turned
      | .done (.over o) => exact turned
      | .done (.become job) => exact ih (Nat.le_add_left budget more) turned

theorem step_mono {budget budget' : Nat} (le : budget ≤ budget') {r : Schedule × Bool}
    (stepped : step budget s t = some r) : step budget' s t = some r := by
  unfold step at stepped ⊢
  cases here : s.tasks.lookup t with
  | none =>
    rw [here] at stepped
    exact stepped
  | some p =>
    rw [here] at stepped
    cases p with
    | finished => exact stepped
    | running p =>
      obtain ⟨result, turned, ended⟩ := Option.bind_eq_some_iff.mp stepped
      exact Option.bind_eq_some_iff.mpr ⟨result, turn_mono le turned, ended⟩

theorem pass_mono {budget budget' : Nat} (le : budget ≤ budget') :
    ∀ {ts : List TaskId} {s : Schedule} {r : Schedule × Bool}, pass budget ts s = some r →
      pass budget' ts s = some r
  | [], _, _, passed => passed
  | t :: ts, s, r, passed => by
    obtain ⟨first, stepped, passed⟩ := Option.bind_eq_some_iff.mp passed
    obtain ⟨second, later, passed⟩ := Option.bind_eq_some_iff.mp passed
    exact Option.bind_eq_some_iff.mpr ⟨first, step_mono le stepped,
      Option.bind_eq_some_iff.mpr ⟨second, pass_mono le later, passed⟩⟩

/-- Where the tasks come to rest within a budget, they do so within any larger one. -/
theorem settle_mono {budget budget' : Nat} (le : budget ≤ budget')
    (settled : s.settle budget = some s') : s.settle budget' = some s' := by
  induction budget generalizing budget' s with
  | zero => cases settled
  | succ budget ih =>
    obtain ⟨more, rfl⟩ := Nat.exists_eq_add_of_le' le
    obtain ⟨⟨s₁, moved⟩, passed, settled⟩ := Option.bind_eq_some_iff.mp settled
    refine Option.bind_eq_some_iff.mpr
      ⟨(s₁, moved), pass_mono (Nat.le_add_left budget more) passed, ?_⟩
    cases moved with
    | false => exact settled
    | true => exact ih (Nat.le_add_left budget more) settled

/-- What a task comes to within a budget, it comes to within any larger one. -/
theorem await_mono {budget budget' : Nat} (le : budget ≤ budget') {limit : Instant}
    {r : Schedule × Option Outcome} (awaited : await t limit budget s = some r) :
    await t limit budget' s = some r := by
  induction budget generalizing budget' s with
  | zero => cases awaited
  | succ budget ih =>
    obtain ⟨more, rfl⟩ := Nat.exists_eq_add_of_le' le
    obtain ⟨s₁, settled, awaited⟩ := Option.bind_eq_some_iff.mp awaited
    refine Option.bind_eq_some_iff.mpr
      ⟨s₁, settle_mono (Nat.le_add_left budget more) settled, ?_⟩
    cases finished : s₁.outcome? t with
    | some o =>
      rw [finished] at awaited
      exact awaited
    | none =>
      cases earliest : s₁.nextTime with
      | none =>
        rw [finished, earliest] at awaited
        exact awaited
      | some time =>
        rw [finished, earliest] at awaited
        dsimp only at awaited ⊢
        by_cases soon : time ≤ limit
        · rw [if_pos soon] at awaited ⊢
          exact ih (Nat.le_add_left budget more) awaited
        · rw [if_neg soon] at awaited ⊢
          exact awaited

end Schedule

end DeviceRpc
