import DeviceRpc.Link.Transfer
import DeviceRpc.Proofs.Link.Inflow
import DeviceRpc.Proofs.World.Moves

/-!
# Reading while bytes arrive

A task reads on a connection, in a schedule in which anything else may happen that does not take its
bytes away: bytes arrive at any time, in any pieces, and perhaps the end (`Listening.Step`). What
arrives is recorded with its time, so at each moment the connection holds what is recorded and not
yet read (`Listening.Hears`).

A program of such a task is `Punctual` if it is over in the very instant in which it is due, where
what is due is a matter of the inflow alone; until then it goes on, and has nothing to do at the
moment only if the instant is still to come. Programs that follow each other are punctual if each
of them is (`Punctual.bind`), and a transfer is due when `Inflow.Over` says so
(`punctual_receiveExactly`).
-/

namespace DeviceRpc

open Schedule (Move)

/-! ## What a side reads from -/

namespace World

/-- What a side of a connection reads from. -/
def inbound (w : World) (h : Handle) : Option Pipe :=
  w.network.connections[h.connection]?.map (·.inbound h.side)

theorem inbound_set {w : World} {h : Handle} {c : Connection}
    (here : w.network.connections[h.connection]? = some c) (c' : Connection) :
    inbound { w with network.connections := w.network.connections.set h.connection c' } h
      = some (c'.inbound h.side) := by
  have inside := (List.getElem?_eq_some_iff.mp here).1
  show (w.network.connections.set h.connection c')[h.connection]?.map _ = _
  rw [List.getElem?_set_self inside]
  rfl

end World

theorem Side.other_other (s : Side) : s.other.other = s := by
  cases s <;> rfl

theorem Connection.inbound_changeInbound (c : Connection) (s : Side) (f : Pipe → Pipe) :
    (c.changeInbound s f).inbound s = f (c.inbound s) := by
  cases s <;> rfl

/-- Receiving takes a first piece of what is there; where nothing is there, it tells the end, or
that time is over, or waits. -/
theorem World.receive_cases {w : World} {h : Handle} {p : Pipe} (here : w.inbound h = some p)
    (calm : p.reset = false) (n : Nat) (limit : Option Instant) :
    (∃ first rest, p.bytes.take (max n 1) = first :: rest ∧
      (w.receive h n limit).2 = some (.bytes first rest) ∧
      (w.receive h n limit).1.inbound h = some { p with bytes := p.bytes.drop (max n 1) }) ∨
    (p.bytes = [] ∧ (w.receive h n limit).1.inbound h = some p ∧
      (w.receive h n limit).2
        = if p.sealed then some .ended else if w.isPast limit then some .late else none) := by
  obtain ⟨c, found, rfl⟩ := Option.map_eq_some_iff.mp here
  unfold receive
  simp only [found]
  unfold Connection.receive
  cases taken : (c.inbound h.side).bytes.take (max n 1) with
  | cons first rest =>
    refine .inl ⟨first, rest, rfl, ?_, ?_⟩
    · simp only [taken]
    · simp only [taken]
      rw [inbound_set found, Connection.inbound_changeInbound]
  | nil =>
    have empty : (c.inbound h.side).bytes = [] := by
      rcases List.take_eq_nil_iff.mp taken with zero | empty
      · omega
      · exact empty
    refine .inr ⟨empty, ?_, ?_⟩
    · simp only [taken, calm]
      cases closed : (c.inbound h.side).sealed with
      | true => simpa using inbound_set found c
      | false => simpa using inbound_set found c
    · simp only [taken, calm]
      cases closed : (c.inbound h.side).sealed with
      | true => rfl
      | false => rfl

/-! ## Listening -/

/-- A schedule, and what has arrived for one of its tasks. -/
structure Listening where
  schedule : Schedule
  inflow : Inflow

namespace Listening

/-- The time. -/
def now (x : Listening) : Instant := x.schedule.world.now

/-- A task begins to listen: what it finds has just arrived. -/
def start (s : Schedule) (p : Pipe) : Listening where
  schedule := s
  inflow :=
    { bytes := p.bytes.map (s.world.now, ·), ended := if p.sealed then some s.world.now else none }

/-- A move of a task that listens, or of anybody else. From others there come bytes, and the end,
and after the end nothing. -/
inductive Step (k : TaskId) (h : Handle) : Listening → Listening → Prop where
  | own {s s' : Schedule} {i : Inflow} (move : Move s (some k) s') : Step k h ⟨s, i⟩ ⟨s', i⟩
  | other {s s' : Schedule} {i : Inflow} {who : Option TaskId} {p : Pipe} (bs : Bytes)
      (closes : Bool) (move : Move s who s') (others : who ≠ some k)
      (before : s.world.inbound h = some p)
      (after : s'.world.inbound h
        = some { p with bytes := p.bytes ++ bs, sealed := p.sealed || closes })
      (quiet : i.ended ≠ none → bs = []) :
      Step k h ⟨s, i⟩ ⟨s', i.arrive s'.world.now bs closes⟩

/-- Any number of moves. -/
abbrev Runs (k : TaskId) (h : Handle) : Listening → Listening → Prop :=
  Relation.ReflTransGen (Step k h)

/-- Of what has arrived, `n` bytes are read, and the others are there to be read. -/
structure Hears (h : Handle) (n : Nat) (x : Listening) : Prop where
  pipe : ∃ p, x.schedule.world.inbound h = some p ∧ p.bytes = x.inflow.stream.drop n ∧
    p.sealed = x.inflow.ended.isSome ∧ p.reset = false
  read : n ≤ x.inflow.stream.length
  past : x.inflow.Past x.now

variable {k : TaskId} {h : Handle} {x x' x'' : Listening} {n : Nat}

theorem start_hears {s : Schedule} {p : Pipe} (there : s.world.inbound h = some p)
    (calm : p.reset = false) : Hears h 0 (start s p) where
  pipe := by
    refine ⟨p, there, ?_, ?_, calm⟩
    · simp [start, Inflow.stream, Function.comp_def]
    · cases closed : p.sealed <;> simp [start, closed]
  read := Nat.zero_le _
  past := by
    refine ⟨fun b mem => ?_, fun e ended => ?_⟩
    · obtain ⟨_, -, rfl⟩ := List.mem_map.mp mem
      exact Nat.le_refl _
    · cases closed : p.sealed <;> simp [start, closed] at ended
      exact Nat.le_of_eq ended.symm

/-- Time goes on, and more arrives. -/
theorem Step.later (step : Step k h x x') :
    x.now ≤ x'.now ∧ Inflow.Later x.now x.inflow x'.inflow := by
  cases step with
  | own move =>
    rcases move.clock with now | tick
    · exact ⟨Nat.le_of_eq now.symm, .refl ..⟩
    · exact ⟨Nat.le_of_lt tick.later, .refl ..⟩
  | @other s s' i who p bs closes move others before after quiet =>
    have le : s.world.now ≤ s'.world.now := by
      rcases move.clock with now | tick
      · exact Nat.le_of_eq now.symm
      · exact Nat.le_of_lt tick.later
    exact ⟨le, Inflow.later_arrive closes quiet le⟩

theorem Runs.later (run : Runs k h x x') :
    x.now ≤ x'.now ∧ Inflow.Later x.now x.inflow x'.inflow := by
  induction run with
  | refl => exact ⟨Nat.le_refl _, .refl ..⟩
  | tail _ step ih =>
    obtain ⟨le, more⟩ := ih
    obtain ⟨le', more'⟩ := step.later
    exact ⟨Nat.le_trans le le', more.trans more' le⟩

theorem Step.past (step : Step k h x x') (past : x.inflow.Past x.now) : x'.inflow.Past x'.now := by
  have le := step.later.1
  cases step with
  | own => exact past.mono le
  | other => exact (past.mono le).arrive ..

/-- Nothing arrives before its time. -/
theorem Runs.past (run : Runs k h x x') (past : x.inflow.Past x.now) : x'.inflow.Past x'.now := by
  induction run with
  | refl => exact past
  | tail _ step ih => exact step.past ih

/-! ## What others do -/

/-- What leaves the connection alone leaves it silent. -/
theorem Step.silent {s s' : Schedule} {i : Inflow} {who : Option TaskId} {p : Pipe}
    (move : Move s who s') (others : who ≠ some k) (before : s.world.inbound h = some p)
    (after : s'.world.inbound h = some p) : Step k h ⟨s, i⟩ ⟨s', i⟩ := by
  have step : Step k h ⟨s, i⟩ ⟨s', i.arrive s'.world.now [] false⟩ := by
    refine .other [] false move others before ?_ fun _ => rfl
    rw [List.append_nil, Bool.or_false]
    exact after
  rw [Inflow.arrive_nothing] at step
  exact step

/-- What the other side sends arrives. -/
theorem Hears.peer_sends {s s' : Schedule} {i : Inflow} {u : TaskId} {bs : Bytes}
    {next : Except LinkFailure Unit → Task Ending} (hears : Hears h n ⟨s, i⟩) (others : u ≠ k)
    (asks : s.At u (.ask (.send ⟨h.connection, h.side.other⟩ bs) next))
    (sent : s.world.answer u (.send ⟨h.connection, h.side.other⟩ bs) = (s'.world, some (.ok ())))
    (only : s.Only u (some (.running (next (.ok ())))) s') :
    Step k h ⟨s, i⟩ ⟨s', i.arrive s'.world.now bs false⟩ := by
  obtain ⟨p, there, -, closed, -⟩ := hears.pipe
  obtain ⟨c, found, rfl⟩ := Option.map_eq_some_iff.mp there
  have came := congrArg Prod.fst sent
  have told := congrArg Prod.snd sent
  unfold World.answer World.send at came told
  simp only [found, Connection.send, Connection.outbound, Connection.changeOutbound,
    Side.other_other] at came told
  by_cases shut : (c.inbound h.side).deaf ∨ (c.inbound h.side).sealed
  · rw [if_pos shut] at told
    cases told
  · rw [if_neg shut] at came
    obtain ⟨-, unsealed⟩ := not_or.mp shut
    refine .other bs false (.goes asks sent only) (fun same => others (Option.some.inj same)) there
      ?_ ?_
    · rw [← came, World.inbound_set found, Connection.inbound_changeInbound, Bool.or_false]
    · intro ended
      rw [closed, Option.isSome_iff_ne_none] at unsealed
      exact absurd ended unsealed

/-- And so does the end, when it sends no more. -/
theorem Hears.peer_finishes {s s' : Schedule} {i : Inflow} {u : TaskId}
    {next : Unit → Task Ending} (hears : Hears h n ⟨s, i⟩) (others : u ≠ k)
    (asks : s.At u (.ask (.finish ⟨h.connection, h.side.other⟩) next))
    (finished : s.world.answer u (.finish ⟨h.connection, h.side.other⟩) = (s'.world, some ()))
    (only : s.Only u (some (.running (next ()))) s') :
    Step k h ⟨s, i⟩ ⟨s', i.arrive s'.world.now [] true⟩ := by
  obtain ⟨p, there, -⟩ := hears.pipe
  obtain ⟨c, found, rfl⟩ := Option.map_eq_some_iff.mp there
  refine .other [] true (.goes asks finished only) (fun same => others (Option.some.inj same)) there
    ?_ fun _ => rfl
  have came := congrArg Prod.fst finished
  rw [show s'.world = _ from came.symm]
  show ((s.world.network.connections.modify h.connection _)[h.connection]?).map _ = _
  rw [List.getElem?_modify_eq, found]
  show some ((c.changeInbound h.side.other.other _).inbound h.side) = _
  rw [Side.other_other, Connection.inbound_changeInbound, List.append_nil, Bool.or_true]

/-! ## Punctual programs -/

/-- When a program is over, how many bytes are read then, and what it comes to. -/
abbrev Due (α : Type) := Inflow → Instant → Nat → α → Prop

variable {α β : Type}

/-- One program is due when it was due to begin, and then the other one. -/
def Due.andThen (D : Due β) (E : Instant → Nat → β → Due α) : Due α :=
  fun i t n a => ∃ t' n' b, D i t' n' b ∧ E t' n' b i t n a

/-- A program that changes what another one comes to is due with that one. -/
def Due.map (D : Due β) (g : β → α) : Due α := fun i t n a => ∃ b, D i t n b ∧ a = g b

/-- A program is due where it begins. -/
def Due.atOnce (t₀ : Instant) (n₀ : Nat) (a₀ : α) : Due α :=
  fun _ t n a => t = t₀ ∧ n = n₀ ∧ a = a₀

/-- What has come of a program that a task began in `x`. -/
inductive Fate (k : TaskId) (h : Handle) (D : Due α) (f : α → Task Ending) (x x' : Listening) :
    Prop where
  /-- It was over in the instant in which it was due. -/
  | returned {mid : Listening} {n : Nat} {a : α} (first : Runs k h x mid) (second : Runs k h mid x')
      (hears : Hears h n mid) (due : D mid.inflow mid.now n a) (here : mid.schedule.At k (f a))
  /-- It goes on, and the instant has not passed; nor has it come if there is nothing to do. -/
  | going {p : Task α} (here : x'.schedule.At k (p >>= f))
      (inTime : ∀ t n a, D x'.inflow t n a → x'.now ≤ t)
      (early : x'.schedule.Rests k (.running (p >>= f)) →
        ∀ t n a, D x'.inflow t n a → x'.now < t)
  /-- The task was given up. -/
  | gone {mid : Listening} (first : Runs k h x mid) (second : Runs k h mid x')
      (nobody : mid.schedule.tasks.lookup k = none)

/-- A program that begins at `t₀`, with `n₀` bytes read, is over when it is due; and it is due once,
whatever arrives later. -/
structure Punctual (k : TaskId) (h : Handle) (t₀ : Instant) (n₀ : Nat) (D : Due α) (p : Task α) :
    Prop where
  since {i : Inflow} {t : Instant} {n : Nat} {a : α} : D i t n a → t₀ ≤ t
  unique {i : Inflow} {t t' : Instant} {n n' : Nat} {a a' : α} :
    D i t n a → D i t' n' a' → t = t' ∧ n = n' ∧ a = a'
  later {i i' : Inflow} {t now : Instant} {n : Nat} {a : α} :
    D i t n a → t ≤ now → i.Later now i' → D i' t n a
  fate {f : α → Task Ending} {x x' : Listening} : x.now = t₀ → Hears h n₀ x →
    x.schedule.At k (p >>= f) → Runs k h x x' → Fate k h D f x x'

namespace Punctual

variable {t₀ : Instant} {n₀ : Nat} {D : Due α}

theorem congr {D' : Due α} {p : Task α} (same : ∀ i t n a, D i t n a ↔ D' i t n a)
    (punctual : Punctual k h t₀ n₀ D p) : Punctual k h t₀ n₀ D' p := by
  obtain rfl : D = D' := by
    funext i t n a
    exact propext (same i t n a)
  exact punctual

/-- A program that is done is over at once. -/
theorem done (k : TaskId) (h : Handle) (t₀ : Instant) (n₀ : Nat) (a : α) :
    Punctual k h t₀ n₀ (.atOnce t₀ n₀ a) (.done a) where
  since due := Nat.le_of_eq due.1.symm
  unique := by
    rintro _ _ _ _ _ _ _ ⟨rfl, rfl, rfl⟩ ⟨rfl, rfl, rfl⟩
    exact ⟨rfl, rfl, rfl⟩
  later due _ _ := due
  fate now hears here run := .returned .refl run hears ⟨now, rfl, rfl⟩ here

/-- One program after the other. -/
theorem bind {D : Due β} {E : Instant → Nat → β → Due α} {p : Task β} {g : β → Task α}
    (first : Punctual k h t₀ n₀ D p)
    (then_ : ∀ i t n b, D i t n b → Punctual k h t n (E t n b) (g b)) :
    Punctual k h t₀ n₀ (D.andThen E) (p >>= g) where
  since := by
    rintro i t n a ⟨t', n', b, due, due'⟩
    exact Nat.le_trans (first.since due) ((then_ i t' n' b due).since due')
  unique := by
    rintro i t t' n n' a a' ⟨_, _, b, due, ending⟩ ⟨_, _, b', due', ending'⟩
    obtain ⟨rfl, rfl, rfl⟩ := first.unique due due'
    exact (then_ i _ _ b due).unique ending ending'
  later := by
    rintro i i' t now n a ⟨t', n', b, due, ending⟩ le more
    have next := then_ i t' n' b due
    have le' : t' ≤ now := Nat.le_trans (next.since ending) le
    exact ⟨t', n', b, first.later due le' more, next.later ending le more⟩
  fate := by
    intro f x x' now hears here run
    rw [bind_assoc] at here
    cases first.fate now hears here run with
    | gone before after nobody => exact .gone before after nobody
    | @going q here inTime early =>
      refine .going (p := q >>= g) (by rwa [bind_assoc]) ?_ ?_
      · rintro t n a ⟨t', n', b, due, ending⟩
        exact Nat.le_trans (inTime t' n' b due) ((then_ _ t' n' b due).since ending)
      · rw [bind_assoc]
        rintro rest t n a ⟨t', n', b, due, ending⟩
        exact Nat.lt_of_lt_of_le (early rest t' n' b due) ((then_ _ t' n' b due).since ending)
    | @returned mid n b before after hears due here =>
      -- whatever arrives while the second program runs, the first one was over by then
      have fixed {y : Listening} (run : Runs k h mid y) : D y.inflow mid.now n b :=
        first.later due (Nat.le_refl _) run.later.2
      have only {t : Instant} {m : Nat} {a : α} (due' : D.andThen E x'.inflow t m a) :
          E mid.now n b x'.inflow t m a := by
        obtain ⟨t', n', b', due', ending⟩ := due'
        obtain ⟨rfl, rfl, rfl⟩ := first.unique (fixed after) due'
        exact ending
      cases (then_ _ mid.now n b due).fate rfl hears here after with
      | gone before' after' nobody => exact .gone (before.trans before') after' nobody
      | going here inTime early =>
        exact .going here (fun t m a due' => inTime t m a (only due'))
          fun rest t m a due' => early rest t m a (only due')
      | returned before' after' hears' ending here' =>
        exact .returned (before.trans before') after' hears' ⟨_, _, _, fixed before', ending⟩ here'

/-- What a program comes to may be changed. -/
theorem map {D : Due β} {p : Task β} (punctual : Punctual k h t₀ n₀ D p) (g : β → α) :
    Punctual k h t₀ n₀ (D.map g) (p >>= fun b => .done (g b)) := by
  refine (punctual.bind (E := fun t n b => .atOnce t n (g b))
    fun _ t n b _ => .done k h t n (g b)).congr ?_
  intro i t n a
  constructor
  · rintro ⟨_, _, b, due, rfl, rfl, rfl⟩
    exact ⟨b, due, rfl⟩
  · rintro ⟨b, due, rfl⟩
    exact ⟨t, n, b, due, rfl, rfl, rfl⟩

end Punctual

/-! ## Going on -/

/-- A program that is over when it is due, if each step of it leads on, to its end or to nobody. -/
theorem fate_of_steps {D : Due α} {f : α → Task Ending} {J : Listening → Prop} (begun : J x)
    (step : ∀ y y', J y → Step k h y y' → J y' ∨
      (∃ n a, Hears h n y' ∧ D y'.inflow y'.now n a ∧ y'.schedule.At k (f a)) ∨
      y'.schedule.tasks.lookup k = none)
    (going : ∀ y, J y → ∃ p : Task α, y.schedule.At k (p >>= f) ∧
      (∀ t n a, D y.inflow t n a → y.now ≤ t) ∧
      (y.schedule.Rests k (.running (p >>= f)) → ∀ t n a, D y.inflow t n a → y.now < t))
    (run : Runs k h x x') : Fate k h D f x x' := by
  suffices all : J x' ∨
      (∃ mid n a, Runs k h x mid ∧ Runs k h mid x' ∧ Hears h n mid ∧ D mid.inflow mid.now n a ∧
        mid.schedule.At k (f a)) ∨
      ∃ mid, Runs k h x mid ∧ Runs k h mid x' ∧ mid.schedule.tasks.lookup k = none by
    rcases all with
      still | ⟨mid, n, a, first, second, hears, due, here⟩ | ⟨mid, first, second, nobody⟩
    · obtain ⟨p, here, inTime, early⟩ := going x' still
      exact .going here inTime early
    · exact .returned first second hears due here
    · exact .gone first second nobody
  induction run with
  | refl => exact .inl begun
  | tail before move ih =>
    rcases ih with still | ⟨mid, n, a, first, second, rest⟩ | ⟨mid, first, second, nobody⟩
    · rcases step _ _ still move with still | ⟨n, a, rest⟩ | nobody
      · exact .inl still
      · exact .inr (.inl ⟨_, n, a, before.tail move, .refl, rest⟩)
      · exact .inr (.inr ⟨_, before.tail move, .refl, nobody⟩)
    · exact .inr (.inl ⟨mid, n, a, first, second.tail move, rest⟩)
    · exact .inr (.inr ⟨mid, first, second.tail move, nobody⟩)

/-- While others move, a task stays where it is or is given up, unless the clock moves. -/
theorem stays_or_ticks {s s' : Schedule} {who : Option TaskId} {q : Progress} (move : Move s who s')
    (others : who ≠ some k) (here : s.tasks.lookup k = some q) :
    s'.world.now = s.world.now ∧ (s'.tasks.lookup k = some q ∨ s'.tasks.lookup k = none) ∨
      s.Ticks s' := by
  rcases move.clock with now | tick
  · refine .inl ⟨now, ?_⟩
    have apart {u : TaskId} (other : some u ≠ some k) : k ≠ u := fun same => other (same ▸ rfl)
    cases move with
    | goes _ _ only => exact .inl ((only.others k (apart others)).trans here)
    | waits _ _ only => exact .inl ((only.others k (apart others)).trans here)
    | ends _ _ only => exact .inl ((only.others k (apart others)).trans here)
    | outside _ stay => exact .inl (stay k q here)
    | ticks tick =>
      exact absurd now (Nat.ne_of_gt tick.later)
    | @leaves u _ _ only =>
      by_cases mine : k = u
      · exact .inr (mine ▸ only.self)
      · exact .inl ((only.others k mine).trans here)
  · exact .inr tick

namespace Hears

variable {s s' : Schedule} {i : Inflow} {bs : Bytes} {closes : Bool} {p : Pipe}

/-- Where the world stays as it is, so does what there is to be read. -/
theorem still (hears : Hears h n ⟨s, i⟩) (world : s'.world = s.world) : Hears h n ⟨s', i⟩ := by
  obtain ⟨pipe, read, past⟩ := hears
  rw [← world] at pipe
  refine ⟨pipe, read, ?_⟩
  rw [now, world]
  exact past

/-- What arrives is there to be read. -/
theorem arrive (hears : Hears h n ⟨s, i⟩) (before : s.world.inbound h = some p)
    (after : s'.world.inbound h
      = some { p with bytes := p.bytes ++ bs, sealed := p.sealed || closes })
    (le : s.world.now ≤ s'.world.now) : Hears h n ⟨s', i.arrive s'.world.now bs closes⟩ where
  pipe := by
    obtain ⟨q, there, bytes, closed, calm⟩ := hears.pipe
    obtain rfl : q = p := Option.some.inj (there.symm.trans before)
    refine ⟨_, after, ?_, ?_, calm⟩
    · rw [Inflow.stream_arrive, List.drop_append_of_le_length hears.read, ← bytes]
    · rw [Inflow.isSome_ended_arrive, ← closed]
  read := by
    rw [Inflow.stream_arrive, List.length_append]
    exact Nat.le_add_right_of_le hears.read
  past := (hears.past.mono le).arrive bs closes

/-- When the clock moves, nothing arrives. -/
theorem tick (hears : Hears h n ⟨s, i⟩) (tick : s.Ticks s') (unended : i.ended = none)
    (before : s.world.inbound h = some p)
    (after : s'.world.inbound h
      = some { p with bytes := p.bytes ++ bs, sealed := p.sealed || closes }) :
    i.arrive s'.world.now bs closes = i := by
  obtain ⟨q, there, -, closed, -⟩ := hears.pipe
  obtain rfl : q = p := Option.some.inj (there.symm.trans before)
  have same : s'.world.inbound h = some q := by
    rw [tick.world]
    exact there
  have equal := Option.some.inj (same.symm.trans after)
  have nothing : bs = [] := List.append_right_eq_self.mp (congrArg Pipe.bytes equal).symm
  have still : closes = false := by
    have := congrArg Pipe.sealed equal
    rw [unended] at closed
    simpa [closed] using this
  rw [nothing, still, Inflow.arrive_nothing]

/-- Where everything is read and the end has not come, no transfer of more is finished. -/
theorem unfinished {m : Nat} {t : Instant} (hears : Hears h n x)
    (empty : x.inflow.stream.drop n = []) (unended : x.inflow.ended = none) (more : n < m)
    (late : x.now < t) : x.inflow.Unfinished m t where
  few := by
    rw [hears.past.before_eq late]
    exact Nat.lt_of_le_of_lt (List.drop_eq_nil_iff.mp empty) more
  unended := by
    rw [hears.past.endedBefore_iff late, unended]
    exact Bool.false_ne_true

end Hears

/-! ## Asking for the time -/

/-- The time is told at once. -/
theorem punctual_now (k : TaskId) (h : Handle) (t₀ : Instant) (n₀ : Nat) :
    Punctual k h t₀ n₀ (.atOnce t₀ n₀ t₀) (ask .now) where
  since due := Nat.le_of_eq due.1.symm
  unique := by
    rintro _ _ _ _ _ _ _ ⟨rfl, rfl, rfl⟩ ⟨rfl, rfl, rfl⟩
    exact ⟨rfl, rfl, rfl⟩
  later due _ _ := due
  fate := by
    intro f x x' now hears here run
    refine fate_of_steps
      (J := fun y => y.now = t₀ ∧ Hears h n₀ y ∧ y.schedule.At k (.ask .now f)) ⟨now, hears, here⟩
      ?_ ?_ run
    · rintro y y' ⟨now, hears, here⟩ step
      cases step with
      | @own s s' i move =>
        cases move with
        | @goes _ _ _ r _ asks answered only =>
          cases here.symm.trans asks
          have world : s'.world = s.world := (congrArg Prod.fst answered).symm
          have told : s.world.now = r := Option.some.inj (congrArg Prod.snd answered)
          have now' : s'.world.now = t₀ := (congrArg World.now world).trans now
          have hears' : Hears h n₀ ⟨s', i⟩ := hears.still world
          exact .inr (.inl ⟨n₀, r, hears', ⟨now', rfl, told.symm.trans now⟩, only.self⟩)
        | waits asks unanswered only =>
          cases here.symm.trans asks
          cases congrArg Prod.snd unanswered
        | ends finished => cases here.symm.trans finished
      | other _ _ move others before after quiet =>
        rcases stays_or_ticks move others here with ⟨same, stays | nobody⟩ | tick
        · exact .inl ⟨same.trans now, hears.arrive before after (Nat.le_of_eq same.symm), stays⟩
        · exact .inr (.inr nobody)
        · cases tick.rest k _ nofun here
    · rintro y ⟨now, hears, here⟩
      refine ⟨ask .now, here, ?_, fun rest => by cases rest⟩
      rintro t n a ⟨rfl, -, -⟩
      exact Nat.le_of_eq now

/-! ## Receiving -/

/-- A transfer that wants more asks for it, and is over when nothing more is to come. -/
theorem receiveExactly_bind (h : Handle) (limit : Option Instant) (want : Nat) (got : Bytes)
    (f : Bytes × Option LinkFailure → Task Ending) :
    receiveExactly h limit Channel.unnoted (want + 1) got >>= f
      = .ask (.receive h (want + 1) limit) fun
        | .bytes first rest =>
          receiveExactly h limit Channel.unnoted (want - rest.length) (got ++ first :: rest) >>= f
        | .ended => f (got, some .closed)
        | .reset => f (got, some .connectionReset)
        | .late => f (got, some .timedOut) := by
  rw [receiveExactly]
  show Prog.ask _ _ = Prog.ask _ _
  congr 1
  funext r
  cases r <;> rfl

/-- A transfer that began at `t₀` with `n₀` bytes read, and wants the first `m`, is due when it is
over. It adds what it has read to what it has got before. -/
def transferDue (t₀ : Instant) (n₀ m : Nat) (limit : Option Instant) (got : Bytes) :
    Due (Bytes × Option LinkFailure) :=
  fun i t n r => ∃ read, i.Over m t₀ limit t read r.2 ∧ n = read.length ∧ r.1 = got ++ read.drop n₀

theorem map_transferDue_iff {t₀ : Instant} {n₀ m : Nat} {limit : Option Instant} {got : Bytes}
    {g : Bytes × Option LinkFailure → α} {i : Inflow} {t : Instant} {a : α} :
    (transferDue t₀ n₀ m limit got).map g i t n a ↔
      ∃ read reason, i.Over m t₀ limit t read reason ∧ n = read.length ∧
        a = g (got ++ read.drop n₀, reason) := by
  constructor
  · rintro ⟨⟨bs, reason⟩, ⟨read, finished, count, rfl⟩, rfl⟩
    exact ⟨read, reason, finished, count, rfl⟩
  · rintro ⟨read, reason, finished, count, rfl⟩
    exact ⟨(_, reason), ⟨read, finished, count, rfl⟩, rfl⟩

/-- A transfer that goes on: it is not over, it has time left, and it has got all that was read. -/
structure Receiving (k : TaskId) (h : Handle) (t₀ : Instant) (n₀ m : Nat) (limit : Option Instant)
    (got : Bytes) (f : Bytes × Option LinkFailure → Task Ending) (y : Listening) : Prop where
  pending : y.inflow.Pending m t₀ limit y.now
  left : ∃ n want, n₀ ≤ n ∧ n + (want + 1) = m ∧ Hears h n y ∧
    y.schedule.At k (receiveExactly h limit Channel.unnoted (want + 1)
      (got ++ (y.inflow.stream.take n).drop n₀) >>= f)

/-- One piece more of a list. -/
theorem drop_take_append {l : Bytes} {n₀ n : Nat} (le : n₀ ≤ n) (inside : n ≤ l.length)
    (size : Nat) : (l.take n).drop n₀ ++ (l.drop n).take size = (l.take (n + size)).drop n₀ := by
  rw [List.take_add, List.drop_append_of_le_length]
  rwa [List.length_take_of_le inside]

/-- A piece of what is there is as long as it is, or all of it. -/
theorem piece_of_take {l piece : Bytes} {size : Nat} (taken : l.take size = piece) :
    l.take piece.length = piece ∧ l.drop piece.length = l.drop size ∧ piece.length ≤ size := by
  subst taken
  rw [List.length_take]
  rcases Nat.le_total size l.length with inside | beyond
  · rw [Nat.min_eq_left inside]
    exact ⟨rfl, rfl, Nat.le_refl _⟩
  · rw [Nat.min_eq_right beyond, List.take_length, List.drop_length, List.take_of_length_le beyond,
      List.drop_of_length_le beyond]
    exact ⟨rfl, rfl, beyond⟩

namespace Hears

variable {s s' : Schedule} {i : Inflow} {want : Nat} {limit : Option Instant}

/-- Where there are no bytes to be read, nothing is taken away. -/
theorem unread {r : Option Received} (hears : Hears h n ⟨s, i⟩)
    (answered : s.world.receive h want limit = (s'.world, r))
    (none_ : ∀ first rest, r ≠ some (.bytes first rest)) :
    i.stream.drop n = [] ∧ Hears h n ⟨s', i⟩ ∧
      r = if i.ended.isSome then some .ended
        else if s.world.isPast limit then some .late else none := by
  obtain ⟨⟨p, there, bytes, closed, calm⟩, read, past⟩ := hears
  have now : s'.world.now = s.world.now := by
    have same := World.answer_now s.world 0 (.receive h want limit)
    rwa [show s.world.answer 0 (.receive h want limit) = _ from answered] at same
  rcases World.receive_cases there calm want limit with
    ⟨first, rest, -, gives, -⟩ | ⟨empty, after, gives⟩
  · exact absurd ((congrArg Prod.snd answered).symm.trans gives) (none_ first rest)
  · rw [answered] at after gives
    refine ⟨bytes.symm.trans empty, ⟨⟨p, after, bytes, closed, calm⟩, read, ?_⟩, closed ▸ gives⟩
    rw [Listening.now, now]
    exact past

/-- While there is time left, whoever is told anything but bytes is told of the end. -/
theorem unread_inTime {r : Received} (hears : Hears h n ⟨s, i⟩)
    (answered : s.world.receive h want limit = (s'.world, some r))
    (none_ : ∀ first rest, r ≠ .bytes first rest)
    (inTime : ∀ l, limit = some l → s.world.now < l) :
    r = .ended ∧ i.ended.isSome ∧ i.stream.drop n = [] ∧ Hears h n ⟨s', i⟩ := by
  obtain ⟨empty, hears', told⟩ := hears.unread answered fun first rest same =>
    none_ first rest (Option.some.inj same)
  have timely : s.world.isPast limit = false := by
    cases limit with
    | none => rfl
    | some l => exact decide_eq_false (Nat.not_le.mpr (inTime l rfl))
  rw [timely] at told
  split at told
  next ended =>
    cases told
    exact ⟨rfl, ended, empty, hears'⟩
  next => cases told

/-- Who has to wait for bytes has read all of them, and the end has not come. -/
theorem of_waiting (hears : Hears h n ⟨s, i⟩)
    (waits : (s.world.receive h want limit).2 = none) :
    i.stream.drop n = [] ∧ i.ended = none := by
  let s' : Schedule := { s with world := (s.world.receive h want limit).1 }
  have answered : s.world.receive h want limit = (s'.world, none) := Prod.ext rfl waits
  obtain ⟨empty, -, told⟩ := hears.unread answered nofun
  refine ⟨empty, ?_⟩
  cases ended : i.ended with
  | none => rfl
  | some e =>
    rw [ended] at told
    cases told

/-- A piece that is read is the next one. -/
theorem received {first : UInt8} {rest : Bytes} (hears : Hears h n ⟨s, i⟩)
    (answered : s.world.receive h (want + 1) limit = (s'.world, some (.bytes first rest))) :
    (i.stream.drop n).take (rest.length + 1) = first :: rest ∧ rest.length ≤ want ∧
      Hears h (n + (rest.length + 1)) ⟨s', i⟩ := by
  obtain ⟨⟨p, there, bytes, closed, calm⟩, read, past⟩ := hears
  have bytes : p.bytes = i.stream.drop n := bytes
  have now : s'.world.now = s.world.now := by
    have same := World.answer_now s.world 0 (.receive h (want + 1) limit)
    rwa [show s.world.answer 0 (.receive h (want + 1) limit) = _ from answered] at same
  have told := congrArg Prod.snd answered
  rcases World.receive_cases there calm (want + 1) limit with
    ⟨first', rest', taken, gives, after⟩ | ⟨-, -, gives⟩
  · cases gives.symm.trans told
    rw [answered] at after
    rw [Nat.max_eq_left (Nat.le_add_left ..)] at taken after
    obtain ⟨piece, behind, short⟩ := piece_of_take taken
    rw [bytes] at piece behind
    refine ⟨piece, Nat.le_of_succ_le_succ short, ⟨⟨_, after, ?_, closed, calm⟩, ?_, ?_⟩⟩
    · show p.bytes.drop (want + 1) = i.stream.drop (n + (rest.length + 1))
      rw [bytes, ← behind, List.drop_drop, List.length_cons]
    · have size := congrArg List.length piece
      rw [List.length_take, List.length_cons, List.length_drop] at size
      have read : n ≤ i.stream.length := read
      show n + (rest.length + 1) ≤ i.stream.length
      omega
    · rw [Listening.now, now]
      exact past
  · have impossible := gives.symm.trans told
    split at impossible
    · cases impossible
    · split at impossible <;> cases impossible

end Hears

namespace Receiving

variable {t₀ : Instant} {n₀ m : Nat} {limit : Option Instant} {got : Bytes}
  {f : Bytes × Option LinkFailure → Task Ending} {s s' : Schedule} {i : Inflow}

/-- What a step leaves of a transfer: it goes on, or it is over now, or nobody goes on. -/
abbrev Leads (k : TaskId) (h : Handle) (t₀ : Instant) (n₀ m : Nat) (limit : Option Instant)
    (got : Bytes) (f : Bytes × Option LinkFailure → Task Ending) (y : Listening) : Prop :=
  Receiving k h t₀ n₀ m limit got f y ∨
    (∃ n r, Hears h n y ∧ transferDue t₀ n₀ m limit got y.inflow y.now n r ∧
      y.schedule.At k (f r)) ∨
    y.schedule.tasks.lookup k = none

/-- When the clock moves, the task has read everything, and its limit may have come. -/
theorem tick (receiving : Receiving k h t₀ n₀ m limit got f ⟨s, i⟩) (tick : s.Ticks s')
    {p : Pipe} {bs : Bytes} {closes : Bool} (before : s.world.inbound h = some p)
    (after : s'.world.inbound h
      = some { p with bytes := p.bytes ++ bs, sealed := p.sealed || closes }) :
    Leads k h t₀ n₀ m limit got f ⟨s', i.arrive s'.world.now bs closes⟩ := by
  obtain ⟨⟨since, inTime, -⟩, n, want, le, count, hears, here⟩ := receiving
  rw [receiveExactly_bind] at here
  have waits : (s.world.receive h (want + 1) limit).2 = none := tick.rest k _ nofun here
  obtain ⟨empty, unended⟩ := hears.of_waiting waits
  have nothing := hears.tick tick unended before after
  have hears' := hears.arrive before after (Nat.le_of_lt tick.later)
  rw [nothing] at hears' ⊢
  have since' : t₀ ≤ s'.world.now := Nat.le_trans since (Nat.le_of_lt tick.later)
  have unfinished : i.Unfinished m s'.world.now :=
    hears.unfinished empty unended (by omega) tick.later
  have moved := tick.tasks k _ here
  have goesOn (inTime' : ∀ l, limit = some l → s'.world.now < l)
      (stays : s'.tasks.lookup k = s.tasks.lookup k) :
      Receiving k h t₀ n₀ m limit got f ⟨s', i⟩ := by
    refine ⟨⟨since', inTime', fun _ => unfinished⟩, n, want, le, count, hears', ?_⟩
    rw [receiveExactly_bind]
    exact stays.trans here
  cases limit with
  | none => exact .inl (goesOn nofun (moved.trans here.symm))
  | some l =>
    by_cases past : l ≤ s'.world.now
    · have now : s'.world.now = l := Nat.le_antisymm (tick.patient k _ l here rfl) past
      rw [Schedule.expire, if_pos past] at moved
      have finished :=
        Inflow.Over.late (Nat.lt_of_le_of_lt since (inTime l rfl)) rfl (now ▸ unfinished)
      have all : i.before l = i.stream := hears.past.before_eq (inTime l rfl)
      have count' : n = i.stream.length :=
        Nat.le_antisymm hears.read (List.drop_eq_nil_iff.mp empty)
      refine .inr (.inl ⟨n, _, hears', ⟨i.before l, now ▸ finished, ?_, ?_⟩, moved⟩)
      · rw [all]
        exact count'
      · rw [all, count', List.take_length]
    · rw [Schedule.expire, if_neg past] at moved
      refine .inl (goesOn ?_ (moved.trans here.symm))
      rintro _ ⟨⟩
      exact Nat.lt_of_not_le past

/-- Others move. -/
theorem other {who : Option TaskId} {p : Pipe} {bs : Bytes} {closes : Bool}
    (receiving : Receiving k h t₀ n₀ m limit got f ⟨s, i⟩) (move : Move s who s')
    (others : who ≠ some k) (before : s.world.inbound h = some p)
    (after : s'.world.inbound h
      = some { p with bytes := p.bytes ++ bs, sealed := p.sealed || closes })
    (quiet : i.ended ≠ none → bs = []) :
    Leads k h t₀ n₀ m limit got f ⟨s', i.arrive s'.world.now bs closes⟩ := by
  obtain ⟨pending, n, want, le, count, hears, here⟩ := receiving
  rcases stays_or_ticks move others here with ⟨same, stays | nobody⟩ | tick
  · have more := Inflow.later_arrive closes quiet (Nat.le_of_eq same.symm)
    have pending' : (i.arrive s'.world.now bs closes).Pending m t₀ limit s.world.now :=
      pending.later (Nat.le_refl _) more
    rw [← same] at pending'
    refine .inl ⟨pending', n, want, le, count, ?_, ?_⟩
    · exact hears.arrive before after (Nat.le_of_eq same.symm)
    · rw [Inflow.stream_arrive, List.take_append_of_le_length hears.read]
      exact stays
  · exact .inr (.inr nobody)
  · exact Receiving.tick ⟨pending, n, want, le, count, hears, here⟩ tick before after

/-- A piece is read, and it may be the last one. -/
theorem piece {n want : Nat} {first : UInt8} {rest : Bytes}
    (pending : i.Pending m t₀ limit s'.world.now) (le : n₀ ≤ n) (count : n + (want + 1) = m)
    (inside : n ≤ i.stream.length)
    (taken : (i.stream.drop n).take (rest.length + 1) = first :: rest)
    (short : rest.length ≤ want) (hears : Hears h (n + (rest.length + 1)) ⟨s', i⟩)
    (here : s'.At k (receiveExactly h limit Channel.unnoted (want - rest.length)
      (got ++ (i.stream.take n).drop n₀ ++ first :: rest) >>= f)) :
    Leads k h t₀ n₀ m limit got f ⟨s', i⟩ := by
  rw [List.append_assoc, ← taken, drop_take_append le inside] at here
  cases more : want - rest.length with
  | zero =>
    have all : n + (rest.length + 1) = m := by omega
    rw [more, receiveExactly, all] at here
    rw [all] at hears
    have upTo : i.upTo s'.world.now = i.stream := hears.past.upTo_eq
    have finished : i.Over m t₀ limit s'.world.now (i.stream.take m) none :=
      upTo ▸ .complete pending (upTo ▸ hears.read)
    exact .inr (.inl ⟨m, (got ++ (i.stream.take m).drop n₀, none), hears,
      ⟨i.stream.take m, finished, (List.length_take_of_le hears.read).symm, rfl⟩, here⟩)
  | succ want' =>
    rw [more] at here
    exact .inl ⟨pending, _, want', Nat.le_add_right_of_le le, by omega, hears, here⟩

/-- The end is found, with everything before it read. -/
theorem closed {n want : Nat} (pending : i.Pending m t₀ limit s'.world.now)
    (count : n + (want + 1) = m) (empty : i.stream.drop n = []) (hears : Hears h n ⟨s', i⟩)
    (come : i.ended.isSome)
    (here : s'.At k (f (got ++ (i.stream.take n).drop n₀, some .closed))) :
    Leads k h t₀ n₀ m limit got f ⟨s', i⟩ := by
  have all : n = i.stream.length := Nat.le_antisymm hears.read (List.drop_eq_nil_iff.mp empty)
  have upTo : i.upTo s'.world.now = i.stream := hears.past.upTo_eq
  have ended : i.EndedBefore (s'.world.now + 1) :=
    (hears.past.endedBefore_iff (Nat.lt_succ_self _)).mpr come
  have finished : i.Over m t₀ limit s'.world.now i.stream (some .closed) :=
    upTo ▸ .ended pending (by rw [upTo]; omega) ended
  rw [all, List.take_length] at here
  exact .inr (.inl ⟨n, (_, some .closed), hears, ⟨i.stream, finished, all, rfl⟩, here⟩)

/-- The task itself moves: it reads, or it finds out that nothing more is to come. -/
theorem own (receiving : Receiving k h t₀ n₀ m limit got f ⟨s, i⟩) (move : Move s (some k) s') :
    Leads k h t₀ n₀ m limit got f ⟨s', i⟩ := by
  obtain ⟨pending, n, want, le, count, hears, here⟩ := receiving
  rw [receiveExactly_bind] at here
  cases move with
  | ends finished => cases here.unique finished
  | waits asks unanswered only =>
    cases here.unique asks
    have now : s'.world.now = s.world.now := by
      have same := World.answer_now s.world k (.receive h (want + 1) limit)
      rwa [unanswered] at same
    have pending' : i.Pending m t₀ limit s'.world.now := now ▸ pending
    obtain ⟨-, hears', -⟩ := hears.unread unanswered nofun
    refine .inl ⟨pending', n, want, le, count, hears', ?_⟩
    rw [receiveExactly_bind]
    exact only.self
  | @goes _ _ _ r _ asks answered only =>
    cases here.unique asks
    have now : s'.world.now = s.world.now := by
      have same := World.answer_now s.world k (.receive h (want + 1) limit)
      rwa [answered] at same
    have pending' : i.Pending m t₀ limit s'.world.now := now ▸ pending
    cases r with
    | bytes first rest =>
      obtain ⟨taken, short, hears'⟩ := hears.received answered
      exact piece pending' le count hears.read taken short hears' only.self
    | ended =>
      obtain ⟨-, come, empty, hears'⟩ := hears.unread_inTime answered nofun pending.inTime
      exact closed pending' count empty hears' come only.self
    | reset | late => obtain ⟨⟨⟩, -⟩ := hears.unread_inTime answered nofun pending.inTime

end Receiving

/-- **A transfer is punctual**, if there is something to be read and time for it. -/
theorem punctual_receiveExactly (k : TaskId) (h : Handle) {t₀ : Instant} (n₀ want₀ : Nat)
    {limit : Option Instant} (got : Bytes) (time : ∀ l, limit = some l → t₀ < l) :
    Punctual k h t₀ n₀ (transferDue t₀ n₀ (n₀ + (want₀ + 1)) limit got)
      (receiveExactly h limit Channel.unnoted (want₀ + 1) got) where
  since := by
    rintro i t n r ⟨read, finished, -, -⟩
    exact finished.since
  unique := by
    rintro i t t' n n' ⟨bs, reason⟩ ⟨bs', reason'⟩ ⟨read, finished, rfl, rfl⟩
      ⟨read', finished', rfl, rfl⟩
    obtain ⟨rfl, rfl, rfl⟩ := finished.unique finished'
    exact ⟨rfl, rfl, rfl⟩
  later := by
    rintro i i' t now n r ⟨read, finished, rest⟩ le more
    exact ⟨read, finished.later le more, rest⟩
  fate := by
    intro f x x' now hears here run
    have begun : Receiving k h t₀ n₀ (n₀ + (want₀ + 1)) limit got f x := by
      refine ⟨⟨Nat.le_of_eq now.symm, ?_, ?_⟩, n₀, want₀, Nat.le_refl _, rfl, hears, ?_⟩
      · rw [now]
        exact time
      · rw [now]
        exact fun later => absurd later (Nat.lt_irrefl _)
      · rw [List.drop_eq_nil_of_le (List.length_take_le ..), List.append_nil]
        exact here
    refine fate_of_steps begun ?_ ?_ run
    · intro y y' receiving step
      cases step with
      | own move => exact receiving.own move
      | other _ _ move others before after quiet =>
        exact receiving.other move others before after quiet
    · rintro y ⟨pending, n, want, le, count, hears, here⟩
      refine ⟨_, here, ?_, fun rests => ?_⟩
      · rintro t n r ⟨read, finished, -, -⟩
        exact finished.le_of_pending pending
      · rintro t n' r ⟨read, finished, -, -⟩
        rw [receiveExactly_bind] at rests
        obtain ⟨empty, unended⟩ := hears.of_waiting (s := y.schedule) (i := y.inflow) rests
        have more : n < n₀ + (want₀ + 1) := by omega
        have unfinished := hears.unfinished empty unended more (Nat.lt_succ_self y.now)
        exact finished.le_of_unfinished unfinished pending.inTime

end Listening

end DeviceRpc
