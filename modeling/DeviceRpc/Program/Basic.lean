/-!
# Programs as data

A program that may have to wait is a value: either it is done, or it asks for
something and goes on with the answer. Nothing in it says who answers, so the
same program runs in a world with a clock and other tasks, and against any
environment that a statement quantifies over.

**Running against an environment**, `Prog.Runs`: the exchanges of one complete
run, each a request with the answer it got, and the result.
-/

namespace DeviceRpc

/-- A program over some requests, each with the type of its answer. -/
inductive Prog {Request : Type} (Answer : Request → Type) (α : Type) where
  | done (a : α)
  | ask (r : Request) (next : Answer r → Prog Answer α)

namespace Prog

variable {Request : Type} {Answer : Request → Type} {α β γ : Type}

/-- First one program, then the next with its result. -/
def bind : Prog Answer α → (α → Prog Answer β) → Prog Answer β
  | done a, f => f a
  | ask r next, f => ask r fun answer => (next answer).bind f

instance : Monad (Prog Answer) where
  pure := done
  bind := bind

/-- The program that asks and gives the answer. -/
def request (r : Request) : Prog Answer (Answer r) := ask r done

@[simp] theorem pure_eq (a : α) : (pure a : Prog Answer α) = done a := rfl

@[simp] theorem done_bind (a : α) (f : α → Prog Answer β) : (done a >>= f) = f a := rfl

@[simp] theorem ask_bind (r : Request) (next : Answer r → Prog Answer α)
    (f : α → Prog Answer β) :
    (ask r next >>= f) = ask r fun answer => next answer >>= f := rfl

theorem bind_done (p : Prog Answer α) : p.bind done = p := by
  induction p with
  | done a => rfl
  | ask r next ih => simp only [bind, ih]

theorem bind_assoc (p : Prog Answer α) (f : α → Prog Answer β) (g : β → Prog Answer γ) :
    (p.bind f).bind g = p.bind fun a => (f a).bind g := by
  induction p with
  | done a => rfl
  | ask r next ih => simp only [bind, ih]

instance : LawfulMonad (Prog Answer) :=
  LawfulMonad.mk'
    (Prog Answer)
    (fun p => bind_done p)
    (fun _ _ => rfl)
    (fun p f g => bind_assoc p f g)

/-- An exchange: a request and its answer. -/
abbrev Exchange (Answer : Request → Type) := (r : Request) × Answer r

/-- The complete runs of a program: what was exchanged, and the result. -/
inductive Runs : Prog Answer α → List (Exchange Answer) → α → Prop where
  | done (a : α) : Runs (.done a) [] a
  | ask {r : Request} {next : Answer r → Prog Answer α} (answer : Answer r)
      {rest : List (Exchange Answer)} {a : α} (h : Runs (next answer) rest a) :
      Runs (.ask r next) (⟨r, answer⟩ :: rest) a

end Prog

end DeviceRpc
