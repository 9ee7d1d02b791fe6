import DeviceRpc.Proofs.Registry
import DeviceRpc.Proofs.Server.Feed
import DeviceRpc.World.Plant

/-!
# A plant as a host

The devices and monitors of a node answer what dispatching asks of them, and nobody else is needed
where no object is a relay. Their answers are a function (`Plant.answer?`), so a program that asks
nothing but that can be evaluated (`Plant.run?`), and what it evaluates to is what every run of it
ends in (`Plant.ends_of_run?`). Only the clock is open: it may show any time.
-/

namespace DeviceRpc.Plant

variable {α β : Type}

/-- What the devices and monitors answer, and how they are afterwards. Nobody but the program itself
brings health, so a wait that has a limit ends there. -/
def answer? (p : Plant) : (a : Act) → Option (a.Reply × Plant)
  | .parts d => some (p.parts d, p)
  | .command d c => let (p, r) := p.perform d c; some (r, p)
  | .isHealthy m => some (p.isHealthy m, p)
  | .setHealth m healthy => some ((), p.setHealth m healthy)
  | .awaitHealthy m limit =>
    if p.isHealthy m then some (true, p) else limit.map fun _ => (false, p)
  | _ => none

/-- How a plant answers: as its devices and monitors do, with any time on the clock. -/
inductive Answers (p : Plant) : (a : Act) → a.Reply → Plant → Prop where
  | clock (time : Instant) : Answers p .now time p
  | does {a : Act} {r : a.Reply} {p' : Plant} (h : p.answer? a = some (r, p')) : Answers p a r p'

/-- Nothing happens in a plant unless it is asked. -/
def machine : Machine Plant where
  silent _ _ := False
  answers := Answers

theorem machine_still (p : Plant) : machine.Still p := fun _ moved => moved

/-- A plant as the host of a node. -/
def host (registry : Registry Object) : Host Plant where
  machine
  registry
  clock_live p := ⟨0, p, .clock 0⟩
  clock_same h := by
    cases h with
    | clock => rfl
    | does h => cases h
  apart p a r p' h serving := by
    cases h with
    | clock => exact serving
    | does h => cases a <;> first | exact serving | cases h

/-- The result of a program and the plant afterwards, if it asks for nothing else. -/
def run? : Task α → Plant → Option (α × Plant)
  | .done a, p => some (a, p)
  | .ask a next, p =>
    match p.answer? a with
    | some (r, p) => run? (next r) p
    | none => none

theorem run?_bind (f : α → Task β) :
    ∀ (t : Task α) (p : Plant), run? (t >>= f) p = (run? t p).bind fun (a, p) => run? (f a) p
  | .done _, _ => rfl
  | .ask a next, p => by
    rw [Prog.ask_bind, run?, run?]
    cases p.answer? a with
    | none => rfl
    | some answered => exact run?_bind f (next answered.1) answered.2

theorem ends_of_run? {a : α} {p' : Plant} : ∀ {t : Task α} {p : Plant}, run? t p = some (a, p') →
    Ends machine (fun b q => b = a ∧ q = p') t p
  | .done _, _, h => by
    cases h
    exact .done ⟨rfl, rfl⟩
  | .ask act next, p, h => by
    rw [run?] at h
    cases answered : p.answer? act with
    | none => rw [answered] at h; cases h
    | some result =>
      rw [answered] at h
      refine .atRest (machine_still p) trivial ⟨_, _, .does answered⟩ fun r q hr => ?_
      cases hr with
      | clock => cases answered
      | does h' =>
        rw [answered] at h'
        cases h'
        exact ends_of_run? h

/-- Nothing else comes of it. -/
theorem yields_of_run? {t : Task α} {p p' q : Plant} {a b : α} (h : run? t p = some (a, p'))
    (run : machine.Yields t p b q) : b = a ∧ q = p' :=
  (ends_of_run? h).of_yields (fun _ t _ => machine_still t) run

/-! ## The smallest one -/

/-- A strip with one outlet. -/
def oneOutlet : Plant := { devices := [.strip (.ofNames ["pump"])], health := [false] }

/-- The strip under the name `unit`. -/
def oneUnit : Registry Object := .of [("unit", ⟨.device 0, 0⟩)] (by decide) (by decide)

/-- A request to switch the outlet of the strip. -/
def switchOn : Packet :=
  { Packet.empty with protocol := Protocol.pdu, index := 1, command := Pdu.turnOn, channel := 1 }

end DeviceRpc.Plant
