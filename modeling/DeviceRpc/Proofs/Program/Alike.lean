import DeviceRpc.Proofs.Program.Machine

/-!
# Programs that ask alike

Two programs are alike along a relation of results when they ask the same, whatever they are
answered, and come to related results. Nobody who only answers them can tell them apart, so what one
of them ends in the other one ends in too (`EndsWithin.alike`), and where one of them may lead the
other one may lead too (`Machine.Yields.alike`).
-/

namespace DeviceRpc

namespace Prog

variable {Request : Type} {Answer : Request → Type} {α β γ δ : Type}

/-- The same acts, answered the same way, and results that are related. -/
inductive Alike (R : α → β → Prop) : Prog Answer α → Prog Answer β → Prop where
  | done {a : α} {b : β} (here : R a b) : Alike R (.done a) (.done b)
  | ask {r : Request} {next : Answer r → Prog Answer α} {next' : Answer r → Prog Answer β}
      (go : ∀ answer, Alike R (next answer) (next' answer)) :
      Alike R (.ask r next) (.ask r next')

namespace Alike

variable {R : α → β → Prop} {S : γ → δ → Prop}

theorem refl {R : α → α → Prop} (here : ∀ a, R a a) : ∀ p : Prog Answer α, Alike R p p
  | .done a => .done (here a)
  | .ask _ next => .ask fun answer => refl here (next answer)

theorem mono {R' : α → β → Prop} (hR : ∀ a b, R a b → R' a b) {p : Prog Answer α}
    {q : Prog Answer β} (h : Alike R p q) : Alike R' p q := by
  induction h with
  | done here => exact .done (hR _ _ here)
  | ask _ go => exact .ask go

theorem bind {p : Prog Answer α} {q : Prog Answer β} (h : Alike R p q)
    {f : α → Prog Answer γ} {g : β → Prog Answer δ} (next : ∀ a b, R a b → Alike S (f a) (g b)) :
    Alike S (p >>= f) (q >>= g) := by
  induction h with
  | done here => exact next _ _ here
  | ask _ go => exact .ask go

/-- The same program, and then two that are alike. -/
theorem after (p : Prog Answer α) {f : α → Prog Answer γ} {g : α → Prog Answer δ}
    (next : ∀ a, Alike S (f a) (g a)) : Alike S (p >>= f) (p >>= g) :=
  (refl (R := Eq) (fun _ => rfl) p).bind fun a _ same => same ▸ next a

/-- What one of the two programs can come to, the other can too, with the same acts. -/
theorem runs {p : Prog Answer α} {q : Prog Answer β} (h : Alike R p q) {a : α}
    {acts : List (Exchange Answer)} (run : Runs p acts a) : ∃ b, Runs q acts b ∧ R a b := by
  induction h generalizing acts with
  | done here =>
    cases run
    exact ⟨_, .done _, here⟩
  | ask _ ih =>
    cases run with
    | ask answer run =>
      obtain ⟨b, run', here⟩ := ih answer run
      exact ⟨b, .ask answer run', here⟩

end Alike

end Prog

open Prog in
/-- What a program ends in, one that is alike ends in. -/
theorem EndsWithin.alike {τ α β : Type} {M : Machine τ} {I : τ → Prop} {Q : α → τ → Prop}
    {R : α → β → Prop} {p : Task α} {t : τ} (h : EndsWithin M I Q p t) {q : Task β}
    (same : Alike R p q) : EndsWithin M I (fun b t => ∃ a, R a b ∧ Q a t) q t := by
  induction h generalizing q with
  | done here =>
    cases same with
    | done related => exact .done ⟨_, related, here⟩
  | ask within live _ _ later go =>
    cases same with
    | ask alike =>
      exact .ask within live (fun t' ht => later t' ht (.ask alike))
        fun r t' hr => go r t' hr (alike r)

open Prog in
/-- A run of a program is a run of one that is alike, up to the result. -/
theorem Machine.Yields.alike {τ α β : Type} {M : Machine τ} {R : α → β → Prop} {p : Task α} {a : α}
    {t t' : τ} (run : M.Yields p t a t') {q : Task β} (same : Alike R p q) :
    ∃ b, M.Yields q t b t' ∧ R a b := by
  induction run generalizing q with
  | done =>
    cases same with
    | done here => exact ⟨_, .done, here⟩
  | silent moved _ ih =>
    obtain ⟨b, run', here⟩ := ih same
    exact ⟨b, .silent moved run', here⟩
  | ask answered _ ih =>
    cases same with
    | ask go =>
      obtain ⟨b, run', here⟩ := ih (go _)
      exact ⟨b, .ask answered run', here⟩

end DeviceRpc
