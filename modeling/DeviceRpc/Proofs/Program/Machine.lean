import DeviceRpc.Program.Act

/-!
# Machines that answer tasks

A task says nothing of who answers it. A `Machine` does: a relation from a state and an act to the
answers it may get, and the moves that the machine may make by itself between two acts. A relation
leaves every choice open, so one machine stands for every way to cut a stream into chunks and for
every order in which its own parts may move.

**The discipline** is total correctness. `EndsWithin M I Q` holds of a task and a state if every run
from there, however the machine answers and whenever it moves, ends in a result and a state of `Q`;
on the way no run is stuck, and the task asks only in states of `I`. Being inductive, the predicate
leaves no room for a run that goes on for good: a machine that would move for ever has no
derivation.

Programs are composed by `EndsWithin.bind`, and carried from a machine to a larger one of which it is
a part by `EndsWithin.simulate`.
-/

namespace DeviceRpc

/-- Who answers the acts of tasks. -/
structure Machine (τ : Type) where
  /-- What may happen without an act. -/
  silent : τ → τ → Prop
  /-- How an act may be answered, and the state afterwards. -/
  answers : τ → (a : Act) → a.Reply → τ → Prop

namespace Machine

variable {τ : Type}

/-- Nothing happens without an act. -/
def Still (M : Machine τ) (t : τ) : Prop := ∀ t', ¬ M.silent t t'

/-- Something can happen: a silent move, or an answer to the act. -/
def CanGoOn (M : Machine τ) (t : τ) (a : Act) : Prop :=
  (∃ t', M.silent t t') ∨ ∃ r t', M.answers t a r t'

/-- The act is answered in some state. -/
def Knows (M : Machine τ) (a : Act) : Prop := ∃ t r t', M.answers t a r t'

/-- Seen through a relation, another machine does what this one does: it can go on where this one
can, and its moves and its answers to the acts that this one knows are moves and answers here. -/
structure Simulates {σ : Type} (M : Machine τ) (N : Machine σ) (C : τ → σ → Prop) : Prop where
  canMove : ∀ {t t' s}, C t s → M.silent t t' → ∃ s', N.silent s s'
  canAnswer : ∀ {t a r t' s}, C t s → M.answers t a r t' → ∃ r s', N.answers s a r s'
  silent : ∀ {t s s'}, C t s → N.silent s s' → ∃ t', M.silent t t' ∧ C t' s'
  answers : ∀ {t s a r s'}, C t s → M.Knows a → N.answers s a r s' →
    ∃ t', M.answers t a r t' ∧ C t' s'

end Machine

variable {τ σ α β : Type} {M : Machine τ} {I J : τ → Prop} {Q R : α → τ → Prop}

/-- Every run of the task from the state ends in `Q`, and asks only in states of `I`. -/
inductive EndsWithin (M : Machine τ) (I : τ → Prop) (Q : α → τ → Prop) : Task α → τ → Prop where
  | done {a : α} {t : τ} (here : Q a t) : EndsWithin M I Q (.done a) t
  | ask {a : Act} {next : a.Reply → Task α} {t : τ} (within : I t) (live : M.CanGoOn t a)
      (later : ∀ t', M.silent t t' → EndsWithin M I Q (.ask a next) t')
      (go : ∀ r t', M.answers t a r t' → EndsWithin M I Q (next r) t') :
      EndsWithin M I Q (.ask a next) t

/-- Every run of the task from the state ends in `Q`. -/
abbrev Ends (M : Machine τ) (Q : α → τ → Prop) : Task α → τ → Prop :=
  EndsWithin M (fun _ => True) Q

namespace EndsWithin

theorem mono (hI : ∀ t, I t → J t) (hQ : ∀ a t, Q a t → R a t) {p : Task α} {t : τ}
    (h : EndsWithin M I Q p t) : EndsWithin M J R p t := by
  induction h with
  | done here => exact .done (hQ _ _ here)
  | ask within live _ _ later go => exact .ask (hI _ within) live later go

/-- Where the machine is at rest, an act is only a matter of its answers. -/
theorem atRest {a : Act} {next : a.Reply → Task α} {t : τ} (still : M.Still t) (within : I t)
    (live : ∃ r t', M.answers t a r t')
    (go : ∀ r t', M.answers t a r t' → EndsWithin M I Q (next r) t') :
    EndsWithin M I Q (.ask a next) t :=
  .ask within (.inr live) (fun t' h => (still t' h).elim) go

/-- Asking and then going on with the answer, where the machine is at rest. -/
theorem request {a : Act} {f : a.Reply → Task α} {t : τ} (still : M.Still t) (within : I t)
    (live : ∃ r t', M.answers t a r t')
    (go : ∀ r t', M.answers t a r t' → EndsWithin M I Q (f r) t') :
    EndsWithin M I Q (DeviceRpc.ask a >>= f) t :=
  .atRest still within live go

/-- Where the machine is at rest and the program is not stuck, it got some answer. -/
theorem of_request {a : Act} {f : a.Reply → Task α} {t : τ} (still : M.Still t)
    (h : EndsWithin M I Q (DeviceRpc.ask a >>= f) t) :
    ∃ r t', M.answers t a r t' ∧ EndsWithin M I Q (f r) t' := by
  cases h with
  | ask _ live _ go =>
    rcases live with ⟨t', moved⟩ | ⟨r, t', hr⟩
    · exact (still t' moved).elim
    · exact ⟨r, t', hr, go r t' hr⟩

/-- First one program, then the next with its result. -/
theorem bind {p : Task β} {f : β → Task α} {t : τ}
    (h : EndsWithin M I (fun b t => EndsWithin M I Q (f b) t) p t) :
    EndsWithin M I Q (p >>= f) t := by
  induction h with
  | done here => exact here
  | ask within live _ _ later go => exact .ask within live later go

/-- A run of two programs is a run of the first and then one of the second. -/
theorem of_bind {p : Task β} {f : β → Task α} {t : τ} (h : EndsWithin M I Q (p >>= f) t) :
    EndsWithin M I (fun b t => EndsWithin M I Q (f b) t) p t := by
  generalize hq : p >>= f = q at h
  induction h generalizing p with
  | @done a t here =>
    cases p with
    | done b =>
      rw [Prog.done_bind] at hq
      exact .done (hq ▸ .done here)
    | ask => cases hq
  | @ask a next t within live hlater hgo later go =>
    cases p with
    | done b =>
      rw [Prog.done_bind] at hq
      exact .done (hq ▸ .ask within live hlater hgo)
    | ask act rest =>
      cases hq
      exact .ask within live (fun t' ht => later t' ht rfl) fun r t' hr => go r t' hr rfl

/-- A program that ends has a result that it ends in. -/
theorem exists_result {p : Task α} {t : τ} (h : EndsWithin M I Q p t) : ∃ a t', Q a t' := by
  induction h with
  | done here => exact ⟨_, _, here⟩
  | ask _ live _ _ later go =>
    rcases live with ⟨t', ht⟩ | ⟨r, t', hr⟩
    · exact later t' ht
    · exact go r t' hr

/-- What is said twice of every run holds of it together. -/
theorem both {p : Task α} {t : τ} (h : EndsWithin M I Q p t) (h' : EndsWithin M J R p t) :
    EndsWithin M I (fun a t => Q a t ∧ R a t) p t := by
  induction h with
  | done here =>
    cases h' with
    | done here' => exact .done ⟨here, here'⟩
  | ask within live _ _ later go =>
    cases h' with
    | ask _ _ later' go' =>
      exact .ask within live (fun t' ht => later t' ht (later' t' ht))
        fun r t' hr => go r t' hr (go' r t' hr)

/-- Where every run ends in one way, this is what any statement on its end is about. -/
theorem iff_of_result {p : Task α} {a : α} {t u : τ}
    (h : EndsWithin M I (fun a' u' => a' = a ∧ u' = u) p t) : EndsWithin M I Q p t ↔ Q a u := by
  constructor
  · intro ends
    obtain ⟨_, _, ⟨rfl, rfl⟩, post⟩ := (h.both ends).exists_result
    exact post
  · intro post
    refine h.mono (fun _ here => here) ?_
    rintro _ _ ⟨rfl, rfl⟩
    exact post

theorem done_iff {a : α} {t : τ} : EndsWithin M I Q (.done a) t ↔ Q a t := by
  constructor
  · intro ends
    cases ends with
    | done here => exact here
  · exact .done

/-- What is only read off the result is said of the result. -/
theorem map_iff {p : Task β} {g : β → α} {t : τ} :
    EndsWithin M I Q (p >>= fun b => .done (g b)) t ↔ EndsWithin M I (fun b t => Q (g b) t) p t := by
  constructor
  · intro ends
    exact ends.of_bind.mono (fun _ within => within) fun _ _ => done_iff.mp
  · intro ends
    exact bind (ends.mono (fun _ within => within) fun _ _ => .done)

/-- Once a first part has come to one of its ends, what is shown of the whole run is left to show of
the rest. -/
theorem through {p : Task β} {f : β → Task α} {t : τ} {S : β → τ → Prop}
    (h : EndsWithin M I Q (p >>= f) t) (first : EndsWithin M I S p t) :
    ∃ b u, S b u ∧ EndsWithin M I Q (f b) u :=
  (first.both h.of_bind).exists_result

/-- Where going on is the same from every end, what is shown of the whole run is that. -/
theorem bind_iff_of {p : Task β} {f : β → Task α} {t : τ} {S : β → τ → Prop} {P : Prop}
    (h : EndsWithin M I S p t) (each : ∀ b u, S b u → (EndsWithin M I Q (f b) u ↔ P)) :
    EndsWithin M I Q (p >>= f) t ↔ P := by
  constructor
  · intro ends
    obtain ⟨b, u, here, post⟩ := ends.through h
    exact (each b u here).mp post
  · intro post
    exact bind (h.mono (fun _ within => within) fun b u here => (each b u here).mpr post)

theorem bind_iff {p : Task β} {f : β → Task α} {b : β} {t u : τ}
    (h : EndsWithin M I (fun b' u' => b' = b ∧ u' = u) p t) :
    EndsWithin M I Q (p >>= f) t ↔ EndsWithin M I Q (f b) u :=
  ⟨fun ends => h.iff_of_result.mp ends.of_bind, fun ends => bind (h.iff_of_result.mpr ends)⟩

/-- However an act is answered, the rest of a program that ends, ends. -/
theorem answered {a : Act} {next : a.Reply → Task α} {t t' : τ} {r : a.Reply}
    (h : EndsWithin M I Q (.ask a next) t) (hr : M.answers t a r t') :
    EndsWithin M I Q (next r) t' := by
  cases h with
  | ask _ _ _ go => exact go r t' hr

/-- Whatever happens before an act, a program that ends, ends. -/
theorem moved {a : Act} {next : a.Reply → Task α} {t t' : τ}
    (h : EndsWithin M I Q (.ask a next) t) (step : M.silent t t') :
    EndsWithin M I Q (.ask a next) t' := by
  cases h with
  | ask _ _ later _ => exact later t' step

/-- The act of a program that ends is answered in some state. -/
theorem exists_answer {a : Act} {next : a.Reply → Task α} {t : τ}
    (h : EndsWithin M I Q (.ask a next) t) : M.Knows a := by
  generalize hp : Prog.ask a next = p at h
  induction h with
  | done => cases hp
  | ask _ live _ _ later _ =>
    cases hp
    rcases live with ⟨t', ht⟩ | ⟨r, t', hr⟩
    · exact later t' ht rfl
    · exact ⟨_, r, t', hr⟩

/-- A run on one machine is a run on another that does nothing else as far as the first can tell. -/
theorem simulate {N : Machine σ} {K : σ → Prop} {S : β → σ → Prop} {C : τ → σ → Prop}
    (sim : M.Simulates N C) (within : ∀ t s, C t s → K s) {p : Task α} {t : τ}
    (h : EndsWithin M I Q p t) {s : σ} (related : C t s) {f : α → Task β}
    (after : ∀ a t s, Q a t → C t s → EndsWithin N K S (f a) s) :
    EndsWithin N K S (p >>= f) s := by
  induction h generalizing s with
  | done here => exact after _ _ s here related
  | @ask a next t hI live hlater hgo later go =>
    have known : M.Knows a := exists_answer (EndsWithin.ask hI live hlater hgo)
    refine .ask (within t s related) ?_ (fun s' moved => ?_) (fun r s' hr => ?_)
    · rcases live with ⟨t', moved⟩ | ⟨r, t', hr⟩
      · exact .inl (sim.canMove related moved)
      · exact .inr (sim.canAnswer related hr)
    · obtain ⟨t', ht, related'⟩ := sim.silent related moved
      exact later t' ht related'
    · obtain ⟨t', ht, related'⟩ := sim.answers related known hr
      exact go r t' ht related'

end EndsWithin

/-- In some run of the task on the machine this is the result, and the state afterwards. -/
inductive Machine.Yields (M : Machine τ) : Task α → τ → α → τ → Prop where
  | done {a : α} {t : τ} : M.Yields (.done a) t a t
  | silent {p : Task α} {t t' t'' : τ} {a : α} (moved : M.silent t t')
      (rest : M.Yields p t' a t'') : M.Yields p t a t''
  | ask {a : Act} {next : a.Reply → Task α} {t t' t'' : τ} {r : a.Reply} {b : α}
      (answered : M.answers t a r t') (rest : M.Yields (next r) t' b t'') :
      M.Yields (.ask a next) t b t''

/-- A program that ends has a run, and what the run comes to is one of its ends. -/
theorem EndsWithin.exists_yields {p : Task α} {t : τ} (h : EndsWithin M I Q p t) :
    ∃ a t', M.Yields p t a t' ∧ Q a t' := by
  induction h with
  | done here => exact ⟨_, _, .done, here⟩
  | ask _ live _ _ later go =>
    rcases live with ⟨t', moved⟩ | ⟨r, t', answered⟩
    · obtain ⟨a, t'', run, here⟩ := later t' moved
      exact ⟨a, t'', .silent moved run, here⟩
    · obtain ⟨a, t'', run, here⟩ := go r t' answered
      exact ⟨a, t'', .ask answered run, here⟩

/-- A program that ends comes to what it may come to. -/
theorem EndsWithin.yielding {p : Task α} {t : τ} (h : EndsWithin M I Q p t) :
    EndsWithin M I (fun a t' => Q a t' ∧ M.Yields p t a t') p t := by
  induction h with
  | done here => exact .done ⟨here, .done⟩
  | ask within live _ _ later go =>
    refine .ask within live (fun t' step => ?_) fun r t' hr => ?_
    · exact (later t' step).mono (fun _ here => here) fun _ _ post => ⟨post.1, .silent step post.2⟩
    · exact (go r t' hr).mono (fun _ here => here) fun _ _ post => ⟨post.1, .ask hr post.2⟩

/-- What a run comes to is one of the ends, where nothing happens after them. -/
theorem EndsWithin.of_yields {p : Task α} {t t' : τ} {a : α} (h : EndsWithin M I Q p t)
    (rests : ∀ a t, Q a t → M.Still t) (run : M.Yields p t a t') : Q a t' := by
  induction run with
  | done =>
    cases h with
    | done here => exact here
  | silent step _ ih =>
    cases h with
    | done here => exact absurd step (rests _ _ here _)
    | ask _ _ later _ => exact ih (later _ step)
  | ask hr _ ih => exact ih (h.answered hr)

end DeviceRpc
