import DeviceRpc.Call.Shared
import DeviceRpc.Proofs.Call.Running
import DeviceRpc.Proofs.Program.Keeps

/-!
# Blocks

Under the lock a run takes its client up and puts it down at most three times: for the operation,
after a transient failure for a reconnect, and once there is a new connection for the operation
again. These are the events of the run, and together they are its block (`Transport.Block`).

Every complete run of the retry rule performs a block and comes to what the block comes to
(`Transport.attempt_performs`), whatever the operation is, however its acts are answered, and
however long that takes. A reconnect is counted when it begins, so the count in a block is the
number of reconnects in it, whether or not they succeed (`Transport.Performs.reconnects_eq`).

All of that needs operations that leave the lock of their own transport and its count alone
(`Transport.Plain`): they are handed the client, not the cell that it is kept in.
-/

namespace DeviceRpc

open Prog (Goes Runs)

/-- What was exchanged, in order. -/
abbrev Exchanges := List (Prog.Exchange Act.Reply)

/-- An act on the lock of a cell or on its count. -/
def Act.OnLock (cell : CellId) : Act → Prop
  | acquire c | release c | countReconnect c => c = cell
  | _ => False

/-- Whether a reconnect of the client in a cell was counted. -/
def Act.counts (cell : CellId) : Act → Bool
  | countReconnect c => c = cell
  | _ => false

theorem Act.onLock_of_counts {cell : CellId} {a : Act} (h : a.counts cell = true) :
    a.OnLock cell := by
  cases a <;> simp_all [counts, OnLock]

/-- How many reconnects of the client in a cell were counted. -/
def Exchanges.reconnects (cell : CellId) (acts : Exchanges) : Nat :=
  acts.countP (·.1.counts cell)

namespace Exchanges

variable {cell : CellId}

theorem reconnects_append (acts acts' : Exchanges) :
    Exchanges.reconnects cell (acts ++ acts') = acts.reconnects cell + acts'.reconnects cell :=
  List.countP_append

theorem reconnects_counted (acts : Exchanges) :
    Exchanges.reconnects cell (⟨.countReconnect cell, ()⟩ :: acts) = acts.reconnects cell + 1 :=
  List.countP_cons_of_pos (decide_eq_true rfl)

/-- Where the lock and the count are left alone, nothing is counted. -/
theorem reconnects_eq_zero {acts : Exchanges} (h : ∀ x ∈ acts, ¬ x.1.OnLock cell) :
    acts.reconnects cell = 0 :=
  List.countP_eq_zero.mpr fun x mem counted => h x mem (Act.onLock_of_counts counted)

end Exchanges

namespace Transport

variable {σ α : Type} {t : Transport σ} {op : Calling σ α}

/-- An operation that leaves the lock of a cell alone. -/
def PlainOp (cell : CellId) (op : Calling σ α) : Prop :=
  ∀ s, Asks (fun a => ¬ a.OnLock cell) (op.on s)

/-- A transport that leaves its own lock alone. -/
structure Plain (t : Transport σ) : Prop where
  load : Asks (fun a => ¬ a.OnLock t.cell) t.load
  keep : ∀ s, Asks (fun a => ¬ a.OnLock t.cell) (t.keep s)
  reconnect : PlainOp t.cell t.reconnect

theorem Plain.under (plain : t.Plain) (h : PlainOp t.cell op) :
    Asks (fun a => ¬ a.OnLock t.cell) (t.under op) :=
  plain.load.bind fun s => (h s).bind fun r => (plain.keep r.2).bind fun _ => .done r.1

/-! ## Events -/

/-- What a run does with its client, and what that comes to. -/
inductive Event (α : Type) where
  | op (r : Except CallFailure α)
  | reconnect (r : Except CallFailure Unit)

/-- Whether the event is a reconnect. -/
def Event.isReconnect : Event α → Bool
  | .op _ => false
  | .reconnect _ => true

/-- What is exchanged in an event. A reconnect is counted before it is tried. -/
inductive Event.Exchanged (t : Transport σ) (op : Calling σ α) : Event α → Exchanges → Prop where
  | op {r : Except CallFailure α} {acts : Exchanges} (run : Runs (t.under op) acts r) :
      Exchanged t op (.op r) acts
  | reconnect {r : Except CallFailure Unit} {acts : Exchanges}
      (run : Runs (t.under t.reconnect) acts r) :
      Exchanged t op (.reconnect r) (⟨.countReconnect t.cell, ()⟩ :: acts)

/-- Events one after the other, and all that is exchanged in them. -/
inductive Performs (t : Transport σ) (op : Calling σ α) : List (Event α) → Exchanges → Prop where
  | nil : Performs t op [] []
  | cons {e : Event α} {es : List (Event α)} {acts acts' : Exchanges}
      (first : e.Exchanged t op acts) (rest : Performs t op es acts') :
      Performs t op (e :: es) (acts ++ acts')

/-- The events of a run that comes to a result. -/
inductive Block : List (Event α) → Except CallFailure α → Prop where
  /-- It succeeded, or failed so that a new connection would not help. -/
  | once {r : Except CallFailure α} (final : ∀ e, r = .error e → e.isTransient = false) :
      Block [.op r] r
  /-- There is no new connection. -/
  | lost {e e' : CallFailure} (transient : e.isTransient = true) :
      Block [.op (.error e), .reconnect (.error e')] (.error e')
  /-- The second time decides, whatever it comes to. -/
  | again {e : CallFailure} {r : Except CallFailure α} (transient : e.isTransient = true) :
      Block [.op (.error e), .reconnect (.ok ()), .op r] r

/-- A complete run of the retry rule is a block. -/
theorem attempt_performs {acts : Exchanges} {r : Except CallFailure α}
    (h : Runs (t.attempt op) acts r) : ∃ events, Block events r ∧ t.Performs op events acts := by
  obtain ⟨acts, rest, first, rfl, run, h⟩ := h.of_bind
  cases first with
  | ok a =>
    obtain ⟨rfl, rfl⟩ := Runs.of_done h
    exact ⟨_, .once nofun, .cons (.op run) .nil⟩
  | error e =>
    by_cases transient : e.isTransient = true
    · simp only [transient, if_true] at h
      obtain _ | ⟨_, h⟩ := h
      obtain ⟨acts', rest, second, rfl, run', h⟩ := Runs.of_bind (p := t.under t.reconnect) h
      cases second with
      | error e' =>
        obtain ⟨rfl, rfl⟩ := Runs.of_done h
        exact ⟨_, .lost transient, .cons (.op run) (.cons (.reconnect run') .nil)⟩
      | ok =>
        refine ⟨_, .again transient, .cons (.op run) (.cons (.reconnect run') ?_)⟩
        rw [← List.append_nil rest]
        exact .cons (.op h) .nil
    · simp only [transient] at h
      obtain ⟨rfl, rfl⟩ := Runs.of_done h
      refine ⟨_, .once ?_, .cons (.op run) .nil⟩
      rintro _ ⟨rfl⟩
      exact Bool.not_eq_true _ ▸ transient

namespace Block

variable {events : List (Event α)} {r : Except CallFailure α}

/-- There is a reconnect just where the first operation failed so that one may help. -/
theorem reconnects_iff (h : Block events r) :
    events.any Event.isReconnect = true ↔
      ∃ e, events.head? = some (.op (.error e)) ∧ e.isTransient = true := by
  cases h with
  | once final =>
    constructor
    · intro reconnected
      cases reconnected
    · rintro ⟨e, ⟨rfl⟩, transient⟩
      cases transient.symm.trans (final e rfl)
  | lost transient => exact ⟨fun _ => ⟨_, rfl, transient⟩, fun _ => rfl⟩
  | again transient => exact ⟨fun _ => ⟨_, rfl, transient⟩, fun _ => rfl⟩

/-- The operation is run again just where there was a new connection. -/
theorem again_iff (h : Block events r) :
    events[2]? = some (.op r) ↔ .reconnect (.ok ()) ∈ events := by
  cases h with
  | once => simp
  | lost => simp
  | again => simp

/-- The result is that of the last event, as it is. -/
theorem result_eq (h : Block events r) :
    events.getLast? = some (.op r) ∨
      ∃ e, events.getLast? = some (.reconnect (.error e)) ∧ r = .error e := by
  cases h with
  | once => exact .inl rfl
  | lost => exact .inr ⟨_, rfl, rfl⟩
  | again => exact .inl rfl

/-- There is at most one reconnect. -/
theorem countP_eq (h : Block events r) :
    events.countP Event.isReconnect = if events.any Event.isReconnect then 1 else 0 := by
  cases h <;> rfl

end Block

/-! ## What is counted, and what is never asked -/

theorem attempt_asks (plain : t.Plain) (h : PlainOp t.cell op) :
    Asks (fun a => a ≠ .acquire t.cell ∧ a ≠ .release t.cell) (t.attempt op) := by
  have apart : ∀ a : Act, ¬ a.OnLock t.cell → a ≠ .acquire t.cell ∧ a ≠ .release t.cell := by
    rintro a foreign
    exact ⟨fun same => foreign (same ▸ rfl), fun same => foreign (same ▸ rfl)⟩
  have once {β : Type} {op : Calling σ β} (h : PlainOp t.cell op) := (plain.under h).mono apart
  refine (once h).bind fun first => ?_
  cases first with
  | ok a => exact .done _
  | error e =>
    simp only
    split
    · refine .request ⟨nofun, nofun⟩ fun _ => (once plain.reconnect).bind fun second => ?_
      cases second with
      | ok => exact once h
      | error => exact .done _
    · exact .done _

theorem under_reconnects (plain : t.Plain) (h : PlainOp t.cell op) {acts : Exchanges}
    {p : Task (Except CallFailure α)} (goes : Goes (t.under op) acts p) :
    acts.reconnects t.cell = 0 :=
  Exchanges.reconnects_eq_zero (goes.asked (plain.under h))

theorem Performs.reconnects_eq (plain : t.Plain) (h : PlainOp t.cell op) {events : List (Event α)}
    {acts : Exchanges} (performs : t.Performs op events acts) :
    acts.reconnects t.cell = events.countP Event.isReconnect := by
  induction performs with
  | nil => rfl
  | cons first rest ih =>
    rw [Exchanges.reconnects_append, ih]
    cases first with
    | op run =>
      rw [under_reconnects plain h run.goes, Nat.zero_add]
      rfl
    | reconnect run =>
      rw [Exchanges.reconnects_counted, under_reconnects plain plain.reconnect run.goes,
        List.countP_cons_of_pos rfl, Nat.add_comm]

/-- Also in a run that is not over, a reconnect is counted at most once. -/
theorem attempt_reconnects_le (plain : t.Plain) (h : PlainOp t.cell op) {acts : Exchanges}
    {p : Task (Except CallFailure α)} (goes : Goes (t.attempt op) acts p) :
    acts.reconnects t.cell ≤ 1 := by
  obtain ⟨_, _, -, goes⟩ | ⟨acts, rest, first, rfl, run, goes⟩ := goes.of_bind
  · exact under_reconnects plain h goes ▸ Nat.zero_le 1
  rw [Exchanges.reconnects_append, under_reconnects plain h run.goes, Nat.zero_add]
  cases first with
  | ok =>
    cases goes
    exact Nat.zero_le 1
  | error e =>
    simp only at goes
    split at goes
    · cases goes with
      | refl => exact Nat.zero_le 1
      | @ask _ _ _ acts _ goes =>
        -- from here on nothing is counted any more
        have none : Exchanges.reconnects t.cell acts = 0 := by
          obtain ⟨_, _, -, goes⟩ | ⟨acts, rest, second, rfl, run, goes⟩ :=
            Goes.of_bind (p := t.under t.reconnect) goes
          · exact under_reconnects plain plain.reconnect goes
          rw [Exchanges.reconnects_append, under_reconnects plain plain.reconnect run.goes,
            Nat.zero_add]
          cases second with
          | ok => exact under_reconnects plain h goes
          | error =>
            cases goes
            rfl
        exact Nat.le_of_eq ((Exchanges.reconnects_counted acts).trans (by rw [none]))
    · cases goes
      exact Nat.zero_le 1

end Transport

end DeviceRpc
