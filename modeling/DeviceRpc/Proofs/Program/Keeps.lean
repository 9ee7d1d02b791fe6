import DeviceRpc.Program.Act

/-!
# What a task keeps up

A task may wait for good, be answered in any way and fail on the way; what it must not do is ask for
something that it should not. `Keeps step I Q` says that of every run, complete or not: as long as
acts are answered by `step`, the task asks in state `s` only for an act of `I s`, and if it comes to
an end, it is one of `Q`. Nothing is said about whether it does.

The predicate goes down the program, so a state of a larger system may carry it for a task that is
under way, and an answer takes it from a program to the next one. `Asks P` is the part of it that
knows of no state: nothing outside of `P` is ever asked for.

A run that is not over is kept as what was exchanged and the program that is left (`Prog.Goes`).
-/

namespace DeviceRpc

/-- How acts may be answered, and the state afterwards. -/
abbrev Answering (σ : Type) := σ → (a : Act) → a.Reply → σ → Prop

variable {σ α β : Type} {step : Answering σ} {I J : σ → Act → Prop} {Q R : α → σ → Prop}

/-- However acts are answered, the task asks only what `I` allows, and what it comes to is in `Q`. -/
def Keeps (step : Answering σ) (I : σ → Act → Prop) (Q : α → σ → Prop) : Task α → σ → Prop
  | .done a, s => Q a s
  | .ask a next, s => I s a ∧ ∀ r s', step s a r s' → Keeps step I Q (next r) s'

namespace Keeps

theorem mono (hI : ∀ s a, I s a → J s a) (hQ : ∀ a s, Q a s → R a s) :
    ∀ {p : Task α} {s : σ}, Keeps step I Q p s → Keeps step J R p s
  | .done _, _, h => hQ _ _ h
  | .ask _ _, _, ⟨here, go⟩ => ⟨hI _ _ here, fun r s' hr => (go r s' hr).mono hI hQ⟩

theorem bind {f : β → Task α} :
    ∀ {p : Task β} {s : σ}, Keeps step I (fun b s => Keeps step I Q (f b) s) p s →
      Keeps step I Q (p >>= f) s
  | .done _, _, h => h
  | .ask _ _, _, ⟨here, go⟩ => ⟨here, fun r s' hr => (go r s' hr).bind⟩

/-- Asking, and going on with the answer. -/
theorem request {a : Act} {f : a.Reply → Task α} {s : σ} (here : I s a)
    (go : ∀ r s', step s a r s' → Keeps step I Q (f r) s') :
    Keeps step I Q (DeviceRpc.ask a >>= f) s := ⟨here, go⟩

/-- What a task comes to when first one and then another program must be run through. -/
theorem andThen {f : β → Task α} {p : Task β} {s : σ} {P : β → σ → Prop} (h : Keeps step I P p s)
    (after : ∀ b s, P b s → Keeps step I Q (f b) s) : Keeps step I Q (p >>= f) s :=
  .bind (h.mono (fun _ _ here => here) after)

end Keeps

/-- In some run the acts are answered so that this is the result, and the state afterwards. -/
inductive Completes (step : Answering σ) : Task α → σ → α → σ → Prop where
  | done {a : α} {s : σ} : Completes step (.done a) s a s
  | ask {a : Act} {next : a.Reply → Task α} {s s' s'' : σ} {r : a.Reply} {b : α}
      (answered : step s a r s') (rest : Completes step (next r) s' b s'') :
      Completes step (.ask a next) s b s''

theorem Completes.bind {f : β → Task α} {p : Task β} {s s' s'' : σ} {b : β} {a : α}
    (first : Completes step p s b s') (second : Completes step (f b) s' a s'') :
    Completes step (p >>= f) s a s'' := by
  induction first with
  | done => exact second
  | ask answered _ ih => exact .ask answered (ih second)

/-- In some run the task comes through this state, whether or not it comes to an end. -/
inductive Passes (step : Answering σ) : Task α → σ → σ → Prop where
  | here {p : Task α} {s : σ} : Passes step p s s
  | ask {a : Act} {next : a.Reply → Task α} {s s' s'' : σ} {r : a.Reply}
      (answered : step s a r s') (rest : Passes step (next r) s' s'') :
      Passes step (.ask a next) s s''

theorem Keeps.completes {p : Task α} {s s' : σ} {a : α} (h : Keeps step I Q p s)
    (run : Completes step p s a s') : Q a s' := by
  induction run with
  | done => exact h
  | ask answered _ ih => exact ih (h.2 _ _ answered)

/-- What holds whenever the task asks, and when it is done, holds at every moment. -/
theorem Keeps.passes {J : σ → Prop} {p : Task α} {s s' : σ}
    (h : Keeps step (fun s _ => J s) (fun _ s => J s) p s) (passes : Passes step p s s') : J s' := by
  induction passes with
  | @here p _ =>
    cases p with
    | done => exact h
    | ask => exact h.1
  | ask answered _ ih => exact ih (h.2 _ _ answered)

namespace Prog.Runs

theorem of_done {a b : α} {acts : List (Exchange Act.Reply)} (h : Runs (.done a) acts b) :
    acts = [] ∧ b = a := by
  cases h
  exact ⟨rfl, rfl⟩

/-- A complete run of two programs is one of the first and then one of the second. -/
theorem of_bind {f : β → Task α} {a : α} :
    ∀ {p : Task β} {acts : List (Exchange Act.Reply)}, Runs (p >>= f) acts a →
      ∃ before after b, acts = before ++ after ∧ Runs p before b ∧ Runs (f b) after a
  | .done b, acts, h => ⟨[], acts, b, rfl, .done b, h⟩
  | .ask r next, _, .ask answer h => by
    obtain ⟨before, after, b, rfl, first, second⟩ := of_bind h
    exact ⟨⟨r, answer⟩ :: before, after, b, rfl, .ask answer first, second⟩

/-- A complete run of one program and one of the next make a run of the two. -/
theorem bind {f : β → Task α} {a : α} {b : β} {p : Task β}
    {before after : List (Exchange Act.Reply)} (first : Runs p before b)
    (second : Runs (f b) after a) : Runs (p >>= f) (before ++ after) a := by
  induction first with
  | done => exact second
  | ask answer _ ih => exact .ask answer (ih second)

/-- The answers decide where a run ends. -/
theorem unique_of_append {a b : α} {rest rest' : List (Exchange Act.Reply)} :
    ∀ {p : Task α} {acts acts' : List (Exchange Act.Reply)}, Runs p acts a → Runs p acts' b →
      acts ++ rest = acts' ++ rest' → acts = acts' ∧ a = b
  | _, _, _, .done _, h, _ => by
    obtain ⟨rfl, rfl⟩ := of_done h
    exact ⟨rfl, rfl⟩
  | _, _, _, .ask _ h, .ask _ h', same => by
    obtain ⟨first, later⟩ := List.cons.inj same
    cases first
    obtain ⟨rfl, rfl⟩ := unique_of_append h h' later
    exact ⟨rfl, rfl⟩

/-- The answers decide what a run comes to. -/
theorem unique {a b : α} {p : Task α} {acts : List (Exchange Act.Reply)} (h : Runs p acts a)
    (h' : Runs p acts b) : a = b :=
  (unique_of_append h h' (congrArg (· ++ []) rfl)).2

end Prog.Runs

/-! ## What a task asks at all -/

/-- However acts are answered, the task asks for nothing outside of `P`, and what it comes to is in
`Q`. -/
def Gives (P : Act → Prop) (Q : α → Prop) (p : Task α) : Prop :=
  Keeps (fun (_ : Unit) _ _ _ => True) (fun _ a => P a) (fun a _ => Q a) p ()

namespace Gives

variable {P : Act → Prop} {Q : α → Prop} {R : β → Prop}

theorem request {a : Act} {f : a.Reply → Task α} (here : P a) (go : ∀ r, Gives P Q (f r)) :
    Gives P Q (DeviceRpc.ask a >>= f) := ⟨here, fun r _ _ => go r⟩

theorem andThen {f : β → Task α} {p : Task β} (h : Gives P R p)
    (after : ∀ b, R b → Gives P Q (f b)) : Gives P Q (p >>= f) :=
  Keeps.andThen h fun b _ hb => after b hb

theorem mono {Q' : α → Prop} (hQ : ∀ a, Q a → Q' a) {p : Task α} (h : Gives P Q p) :
    Gives P Q' p :=
  Keeps.mono (fun _ _ here => here) (fun a _ ha => hQ a ha) h

/-- What the acts of `P` keep, the task keeps. -/
theorem keeps {J : σ → Prop} (may : ∀ s a, J s → P a → I s a)
    (same : ∀ s a r s', J s → P a → step s a r s' → J s') :
    ∀ {p : Task α} {s : σ}, Gives P Q p → J s → Keeps step I (fun a s' => J s' ∧ Q a) p s
  | .done _, _, h, hs => ⟨hs, h⟩
  | .ask _ _, s, h, hs =>
    ⟨may s _ hs h.1, fun r s' hr => keeps may same (h.2 r () trivial) (same s _ r s' hs h.1 hr)⟩

end Gives

/-- However acts are answered, the task asks for nothing outside of `P`. -/
def Asks (P : Act → Prop) (p : Task α) : Prop :=
  Keeps (fun (_ : Unit) _ _ _ => True) (fun _ a => P a) (fun _ _ => True) p ()

namespace Asks

variable {P P' : Act → Prop}

theorem done (a : α) : Asks P (.done a : Task α) := trivial

theorem request {a : Act} {f : a.Reply → Task α} (here : P a) (go : ∀ r, Asks P (f r)) :
    Asks P (DeviceRpc.ask a >>= f) := ⟨here, fun r _ _ => go r⟩

theorem next {a : Act} {next : a.Reply → Task α} (h : Asks P (.ask a next)) (r : a.Reply) :
    Asks P (next r) := h.2 r () trivial

theorem bind {f : β → Task α} {p : Task β} (h : Asks P p) (hf : ∀ b, Asks P (f b)) :
    Asks P (p >>= f) := Keeps.andThen h fun b _ _ => hf b

theorem mono (hP : ∀ a, P a → P' a) {p : Task α} (h : Asks P p) : Asks P' p :=
  Keeps.mono (fun _ a here => hP a here) (fun _ _ here => here) h

end Asks

theorem Gives.asks {P : Act → Prop} {Q : α → Prop} {p : Task α} (h : Gives P Q p) : Asks P p :=
  Keeps.mono (fun _ _ here => here) (fun _ _ _ => trivial) h

/-- What a run comes to is in `Q`. -/
theorem Gives.runs {P : Act → Prop} {Q : α → Prop} {p : Task α} {a : α}
    {acts : List (Prog.Exchange Act.Reply)} (h : Gives P Q p) (run : p.Runs acts a) : Q a := by
  induction run with
  | done => exact h
  | ask answer _ ih => exact ih (h.2 answer () trivial)

namespace Prog

/-- After these exchanges, this is what is left of a program. -/
inductive Goes : Task α → List (Exchange Act.Reply) → Task α → Prop where
  | refl {p : Task α} : Goes p [] p
  | ask {r : Act} {next : r.Reply → Task α} (answer : r.Reply) {acts : List (Exchange Act.Reply)}
      {q : Task α} (h : Goes (next answer) acts q) : Goes (.ask r next) (⟨r, answer⟩ :: acts) q

namespace Goes

variable {p q : Task α} {acts : List (Exchange Act.Reply)} {P : Act → Prop}

/-- One more exchange. -/
theorem concat {r : Act} {next : r.Reply → Task α} (h : Goes p acts (.ask r next))
    (answer : r.Reply) : Goes p (acts ++ [⟨r, answer⟩]) (next answer) := by
  generalize hq : Prog.ask r next = q at h
  induction h with
  | refl =>
    subst hq
    exact .ask answer .refl
  | ask _ _ ih => exact .ask _ (ih hq)

/-- Where nothing is left, it was a complete run. -/
theorem runs {a : α} (h : Goes p acts (.done a)) : Runs p acts a := by
  generalize hq : Prog.done a = q at h
  induction h with
  | refl =>
    subst hq
    exact .done a
  | ask _ _ ih => exact .ask _ (ih hq)

theorem asks (h : Goes p acts q) (asks : Asks P p) : Asks P q := by
  induction h with
  | refl => exact asks
  | ask answer _ ih => exact ih (asks.next answer)

/-- What was exchanged so far is what the program may ask. -/
theorem asked (h : Goes p acts q) (asks : Asks P p) : ∀ x ∈ acts, P x.1 := by
  induction h with
  | refl => exact fun _ mem => nomatch mem
  | ask answer _ ih =>
    intro x mem
    rcases List.mem_cons.mp mem with rfl | mem
    · exact asks.1
    · exact ih (asks.next answer) x mem

theorem bind {f : α → Task β} (h : Goes p acts q) : Goes (p >>= f) acts (q >>= f) := by
  induction h with
  | refl => exact .refl
  | ask answer _ ih => exact .ask answer ih

/-- Two programs are under way in the first of them, or in the second. -/
theorem of_bind {f : β → Task α} :
    ∀ {p : Task β} {acts : List (Exchange Act.Reply)} {q : Task α}, Goes (p >>= f) acts q →
      (∃ a next, q = .ask a (fun r => next r >>= f) ∧ Goes p acts (.ask a next)) ∨
        ∃ before after b, acts = before ++ after ∧ Runs p before b ∧ Goes (f b) after q
  | .done b, acts, _, h => .inr ⟨[], acts, b, rfl, .done b, h⟩
  | .ask r next, _, _, h => by
    cases h with
    | refl => exact .inl ⟨r, next, rfl, .refl⟩
    | ask answer h =>
      rcases of_bind h with ⟨a, next', rfl, first⟩ | ⟨before, after, b, rfl, first, second⟩
      · exact .inl ⟨a, next', rfl, .ask answer first⟩
      · exact .inr ⟨⟨r, answer⟩ :: before, after, b, rfl, .ask answer first, second⟩

/-- Who asks in two programs, asks in the first of them, or in the second. -/
theorem ask_of_bind {f : β → Task α} {a : Act} {next : a.Reply → Task α} {p : Task β}
    {acts : List (Exchange Act.Reply)} (h : Goes (p >>= f) acts (.ask a next)) :
    (∃ next', Goes p acts (.ask a next')) ∨
      ∃ before after b, acts = before ++ after ∧ Runs p before b ∧
        Goes (f b) after (.ask a next) := by
  rcases of_bind h with ⟨a, next', asks, first⟩ | second
  · cases asks
    exact .inl ⟨next', first⟩
  · exact .inr second

end Goes

/-- A complete run is one after which nothing is left. -/
theorem Runs.goes {p : Task α} {acts : List (Exchange Act.Reply)} {a : α} (h : Runs p acts a) :
    Goes p acts (.done a) := by
  induction h with
  | done => exact .refl
  | ask answer _ ih => exact .ask answer ih

end Prog

end DeviceRpc
