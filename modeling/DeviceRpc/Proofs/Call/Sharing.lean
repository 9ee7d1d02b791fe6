import Mathlib.Logic.Function.Basic
import DeviceRpc.Bench.Transport
import DeviceRpc.Proofs.Call.Blocks
import DeviceRpc.World.Cells

/-!
# A transport that is shared

Any number of tasks run operations on one transport. They start when they like, their acts are
answered in any way and after any time, and they go on in any order (`Sharing.Step`). Only the lock
is known: it is the one of a cell, which passes from its holder to those who wait in the order they
came.

**In turn.** What is exchanged on the transport is then one block after the other, one for each run
that is over, in the order in which they asked for the lock, and last what the holder of the lock
has done so far (`Sharing.InTurn`). Each run comes to what its own block comes to. The count of the
cell is the number of blocks with a reconnect in them, modulo two to the power of sixty-four. Every
step keeps this (`Sharing.InTurn.step`), so it is so whenever one looks (`Sharing.serialized`).
-/

namespace DeviceRpc

open Prog (Goes Runs)
open Transport (PlainOp Event Block)

variable {σ : Type} {t : Transport σ}

/-- How a run ends once the retry rule is through. -/
def Transport.finish {α : Type} (t : Transport σ) (r : Except CallFailure α) :
    Task (Except CallFailure α) := ask (.release t.cell) >>= fun _ => .done r

theorem Transport.run_eq {α : Type} (t : Transport σ) (op : Calling σ α) :
    t.run op = ask (.acquire t.cell) >>= fun _ => t.attempt op >>= t.finish := rfl

/-- A run: its operation, and what is left of it to do. -/
structure User (t : Transport σ) where
  {α : Type}
  op : Calling σ α
  plain : PlainOp t.cell op
  task : Task (Except CallFailure α)

/-- A cell, the runs on the transport in it, and what they exchanged under the lock. -/
structure Sharing (t : Transport σ) where
  cell : Cell
  user : Nat → Option (User t) := fun _ => none
  /-- Who has asked for the lock, in order. -/
  asked : List Nat := []
  log : List (Nat × Prog.Exchange Act.Reply) := []

namespace Sharing

/-- A run as it is now. -/
def withUser (k : Nat) (u : User t) (s : Sharing t) : Sharing t :=
  { s with user := Function.update s.user k (some u) }

/-- A run takes its place in the line, if it has none. -/
def queue (k : Nat) (s : Sharing t) : Sharing t :=
  { s with
    cell := (s.cell.acquire k).1
    asked := if k ∈ s.cell.line then s.asked else s.asked ++ [k] }

/-- One step of a run. -/
inductive Step (s : Sharing t) : Sharing t → Prop where
  | start {k : Nat} {α : Type} (op : Calling σ α) (plain : PlainOp t.cell op)
      (new : s.user k = none) : Step s (s.withUser k ⟨op, plain, t.run op⟩)
  /-- Somebody else has the lock. -/
  | wait {k : Nat} {u : User t} {next : Unit → Task (Except CallFailure u.α)}
      (here : s.user k = some u) (waits : u.task = .ask (.acquire t.cell) next)
      (taken : (s.cell.acquire k).2 = false) : Step s (s.queue k)
  | acquire {k : Nat} {u : User t} {next : Unit → Task (Except CallFailure u.α)}
      (here : s.user k = some u) (waits : u.task = .ask (.acquire t.cell) next)
      (free : (s.cell.acquire k).2 = true) :
      Step s ((s.queue k).withUser k { u with task := next () })
  | release {k : Nat} {u : User t} {next : Unit → Task (Except CallFailure u.α)}
      (here : s.user k = some u) (waits : u.task = .ask (.release t.cell) next) :
      Step s { s.withUser k { u with task := next () } with cell := s.cell.release k }
  | count {k : Nat} {u : User t} {next : Unit → Task (Except CallFailure u.α)}
      (here : s.user k = some u) (waits : u.task = .ask (.countReconnect t.cell) next) :
      Step s
        { s.withUser k { u with task := next () } with
          cell := { s.cell with reconnects := s.cell.reconnects + 1 }
          log := s.log ++ [(k, ⟨.countReconnect t.cell, ()⟩)] }
  /-- Everything else is answered somehow, and may change the client. -/
  | act {k : Nat} {u : User t} {a : Act} {next : a.Reply → Task (Except CallFailure u.α)}
      (here : s.user k = some u) (waits : u.task = .ask a next) (foreign : ¬ a.OnLock t.cell)
      (r : a.Reply) (content : Shared) :
      Step s
        { s.withUser k { u with task := next r } with
          cell := { s.cell with content }
          log := s.log ++ [(k, ⟨a, r⟩)] }

/-- What the runs on a transport may come to. -/
inductive Reached (s : Sharing t) : Sharing t → Prop where
  | refl : Reached s s
  | step {s' s'' : Sharing t} (before : Reached s s') (step : Step s' s'') : Reached s s''

end Sharing

/-! ## Blocks in turn -/

/-- What a run did on the transport while it had the lock. -/
structure Visit (t : Transport σ) where
  caller : Nat
  {α : Type}
  op : Calling σ α
  events : List (Event α)
  acts : Exchanges
  result : Except CallFailure α

namespace Visit

/-- What was exchanged, by whom. -/
def told (v : Visit t) : List (Nat × Prog.Exchange Act.Reply) := v.acts.map (v.caller, ·)

/-- Whether there was a reconnect. -/
def reconnected (v : Visit t) : Bool := v.events.any Event.isReconnect

/-- The visit is a block of a run that is over, and that came to what the block comes to. -/
structure Of (v : Visit t) (s : Sharing t) : Prop where
  ended : ∃ plain, s.user v.caller = some ⟨v.op, plain, .done v.result⟩
  block : Block v.events v.result
  performs : t.Performs v.op v.events v.acts

theorem Of.elsewhere {v : Visit t} {s s' : Sharing t} (h : v.Of s)
    (same : s'.user v.caller = s.user v.caller) : v.Of s' :=
  ⟨same ▸ h.ended, h.block, h.performs⟩

/-- Who is not through has no block. -/
theorem caller_ne {past : List (Visit t)} {k : Nat} (fresh : k ∉ past.map caller) {v : Visit t}
    (mem : v ∈ past) : v.caller ≠ k := by
  rintro rfl
  exact fresh (List.mem_map_of_mem mem)

end Visit

namespace Sharing

/-- What the first in the line exchanged. -/
def current (s : Sharing t) (now : Exchanges) : List (Nat × Prog.Exchange Act.Reply) :=
  match s.cell.line with
  | [] => []
  | k :: _ => now.map (k, ·)

/-- How far a run is. -/
inductive Stage (s : Sharing t) (past : List (Visit t)) (now : Exchanges) (k : Nat) (u : User t) :
    Prop where
  | waiting (fresh : k ∉ past.map Visit.caller) (task : u.task = t.run u.op)
      (idle : s.cell.line.head? = some k → now = [])
  /-- It has the lock, and exchanged this under it so far. -/
  | inside {p : Task (Except CallFailure u.α)} (first : s.cell.line.head? = some k)
      (goes : Goes (t.attempt u.op) now p) (task : u.task = p >>= t.finish)
  | through {r : Except CallFailure u.α} (task : u.task = .done r)
      (told : k ∈ past.map Visit.caller)

/-- One block after the other, and what the first in the line has done so far. -/
structure InTurn (s : Sharing t) (past : List (Visit t)) (now : Exchanges) : Prop where
  /-- The blocks come in the order in which the lock was asked for, and so do those who wait. -/
  order : s.asked = past.map Visit.caller ++ s.cell.line
  once : s.asked.Nodup
  known : ∀ k ∈ s.asked, ∃ u, s.user k = some u
  blocks : ∀ v ∈ past, v.Of s
  stage : ∀ k u, s.user k = some u → s.Stage past now k u
  /-- Nothing else is exchanged on the transport. -/
  log : s.log = past.flatMap Visit.told ++ s.current now
  rests : s.cell.line = [] → now = []
  counted : s.cell.reconnects = .ofNat (Exchanges.reconnects t.cell (s.log.map Prod.snd))

variable {s s' : Sharing t} {past past' : List (Visit t)} {now now' : Exchanges} {k j : Nat}
  {u u' : User t}

theorem withUser_user (h : (s.withUser k u).user j = some u') :
    j = k ∧ u' = u ∨ j ≠ k ∧ s.user j = some u' := by
  by_cases same : j = k
  · subst same
    simp only [withUser, Function.update_self] at h
    exact .inl ⟨rfl, (Option.some.inj h).symm⟩
  · simp only [withUser, Function.update_of_ne same] at h
    exact .inr ⟨same, h⟩

theorem withUser_other (h : j ≠ k) : (s.withUser k u).user j = s.user j :=
  Function.update_of_ne h ..

theorem withUser_known (h : ∃ u, s.user j = some u) : ∃ u', (s.withUser k u).user j = some u' := by
  by_cases same : j = k
  · subst same
    exact ⟨u, Function.update_self ..⟩
  · rw [withUser_other same]
    exact h

/-! ### The line -/

theorem queue_line (k : Nat) (s : Sharing t) :
    (s.queue k).cell.line = if k ∈ s.cell.line then s.cell.line else s.cell.line ++ [k] := rfl

/-- Where somebody is in the line, the first stays the first. -/
theorem queue_head? (h : s.cell.line ≠ []) :
    (s.queue k).cell.line.head? = s.cell.line.head? := by
  rw [queue_line]
  split
  · rfl
  · cases line : s.cell.line with
    | nil => exact absurd line h
    | cons => rfl

theorem mem_queue : k ∈ (s.queue k).cell.line := by
  rw [queue_line]
  split
  · assumption
  · exact List.mem_append_right _ (List.mem_singleton_self k)

theorem free_iff : (s.cell.acquire k).2 = true ↔ (s.queue k).cell.line.head? = some k :=
  decide_eq_true_iff

theorem current_of_head? (first : s.cell.line.head? = some k) : s.current now = now.map (k, ·) := by
  obtain ⟨rest, line⟩ := List.head?_eq_some_iff.mp first
  unfold current
  rw [line]

theorem current_nil : s.current [] = [] := by
  unfold current
  split <;> rfl

/-! ### Where a run is -/

namespace Stage

/-- A run that asks for the lock does not have it. -/
theorem of_acquire (plain : t.Plain) {next : Unit → Task (Except CallFailure u.α)}
    (h : s.Stage past now k u) (waits : u.task = .ask (.acquire t.cell) next) :
    k ∉ past.map Visit.caller ∧ (s.cell.line.head? = some k → now = []) ∧
      next () = t.attempt u.op >>= t.finish := by
  cases h with
  | waiting fresh task idle =>
    cases waits.symm.trans (task.trans (t.run_eq u.op))
    exact ⟨fresh, idle, rfl⟩
  | through task => cases waits.symm.trans task
  | @inside p _ goes task =>
    have asked := waits.symm.trans task
    have apart := goes.asks (Transport.attempt_asks plain u.plain)
    cases p with
    | done => cases asked
    | ask a next =>
      cases asked
      exact absurd rfl apart.1.1

/-- A run that gives the lock back is through with the retry rule. -/
theorem of_release (plain : t.Plain) {next : Unit → Task (Except CallFailure u.α)}
    (h : s.Stage past now k u) (waits : u.task = .ask (.release t.cell) next) :
    s.cell.line.head? = some k ∧ ∃ r, Runs (t.attempt u.op) now r ∧ next () = .done r := by
  cases h with
  | waiting _ task => cases waits.symm.trans task
  | through task => cases waits.symm.trans task
  | @inside p first goes task =>
    have asked := waits.symm.trans task
    have apart := goes.asks (Transport.attempt_asks plain u.plain)
    cases p with
    | done r =>
      cases asked
      exact ⟨first, r, goes.runs, rfl⟩
    | ask a next =>
      cases asked
      exact absurd rfl apart.1.2

/-- Whatever else a run asks, it asks under the lock. -/
theorem of_ask {a : Act} {next : a.Reply → Task (Except CallFailure u.α)}
    (h : s.Stage past now k u) (waits : u.task = .ask a next) (other : a ≠ .acquire t.cell)
    (other' : a ≠ .release t.cell) (r : a.Reply) :
    s.cell.line.head? = some k ∧
      ∃ p, Goes (t.attempt u.op) (now ++ [⟨a, r⟩]) p ∧ next r = p >>= t.finish := by
  cases h with
  | waiting _ task =>
    cases waits.symm.trans task
    exact absurd rfl other
  | through task => cases waits.symm.trans task
  | @inside p first goes task =>
    have asked := waits.symm.trans task
    cases p with
    | done =>
      cases asked
      exact absurd rfl other'
    | ask a' next' =>
      cases asked
      exact ⟨first, _, goes.concat r, rfl⟩

/-- What others do leaves a run where it is. -/
theorem elsewhere (h : s.Stage past now j u) (out : s.cell.line.head? ≠ some j)
    (fresh : j ∉ past.map Visit.caller → j ∉ past'.map Visit.caller)
    (told : j ∈ past.map Visit.caller → j ∈ past'.map Visit.caller)
    (idle : s'.cell.line.head? = some j → now' = []) : s'.Stage past' now' j u := by
  cases h with
  | waiting fresh' task => exact .waiting (fresh fresh') task idle
  | inside first => exact absurd first out
  | through task told' => exact .through task (told told')

end Stage

namespace InTurn

theorem line_nodup (h : s.InTurn past now) : s.cell.line.Nodup := by
  have once := h.once
  rw [h.order] at once
  exact (List.nodup_append.mp once).2.1

/-- Who is in the line is not through. -/
theorem not_told (h : s.InTurn past now) (mem : k ∈ s.cell.line) : k ∉ past.map Visit.caller := by
  have once := h.once
  rw [h.order] at once
  exact fun told => (List.nodup_append.mp once).2.2 k told k mem rfl

/-! ### Steps -/

theorem start (h : s.InTurn past now) {α : Type} (op : Calling σ α) (plain : PlainOp t.cell op)
    (new : s.user k = none) : (s.withUser k ⟨op, plain, t.run op⟩).InTurn past now := by
  have unasked : k ∉ s.asked := by
    intro mem
    obtain ⟨u, here⟩ := h.known k mem
    cases new.symm.trans here
  have parts := unasked
  rw [h.order, List.mem_append, not_or] at parts
  exact {
    h with
    known := fun j mem => withUser_known (h.known j mem)
    blocks := fun v mem => (h.blocks v mem).elsewhere (withUser_other (Visit.caller_ne parts.1 mem))
    stage := fun j u' here => by
      rcases withUser_user here with ⟨rfl, rfl⟩ | ⟨_, here⟩
      · exact .waiting parts.1 rfl fun first => absurd (List.mem_of_mem_head? first) parts.2
      · cases h.stage j u' here with
        | waiting fresh task idle => exact .waiting fresh task idle
        | inside first goes task => exact .inside first goes task
        | through task told => exact .through task told }

/-- Taking a place in the line. -/
theorem queued (h : s.InTurn past now) (here : s.user k = some u)
    (fresh : k ∉ past.map Visit.caller) :
    (s.queue k).asked = past.map Visit.caller ++ (s.queue k).cell.line ∧ (s.queue k).asked.Nodup ∧
      ∀ j ∈ (s.queue k).asked, ∃ u, s.user j = some u := by
  by_cases mem : k ∈ s.cell.line
  · simp only [Sharing.queue, Cell.acquire, if_pos mem]
    exact ⟨h.order, h.once, h.known⟩
  · have unasked : k ∉ s.asked := by
      rw [h.order, List.mem_append, not_or]
      exact ⟨fresh, mem⟩
    simp only [Sharing.queue, Cell.acquire, if_neg mem]
    refine ⟨by rw [h.order, List.append_assoc], ?_, ?_⟩
    · exact List.nodup_append.mpr ⟨h.once, List.pairwise_singleton _ k, by
        rintro a mem _ last rfl
        rw [List.mem_singleton.mp last] at mem
        exact unasked mem⟩
    · intro j asked
      rcases List.mem_append.mp asked with asked | last
      · exact h.known j asked
      · rw [List.mem_singleton.mp last]
        exact ⟨u, here⟩

theorem wait (plain : t.Plain) (h : s.InTurn past now) (here : s.user k = some u)
    {next : Unit → Task (Except CallFailure u.α)} (waits : u.task = .ask (.acquire t.cell) next)
    (taken : (s.cell.acquire k).2 = false) : (s.queue k).InTurn past now := by
  obtain ⟨fresh, -, -⟩ := (h.stage k u here).of_acquire plain waits
  obtain ⟨order, once, known⟩ := h.queued here fresh
  -- somebody else is the first, or the lock would have been free
  have line : s.cell.line ≠ [] := by
    intro empty
    have free : (s.cell.acquire k).2 = true := by
      rw [free_iff, queue_line, empty]
      rfl
    cases taken.symm.trans free
  have first := queue_head? (k := k) line
  refine ⟨order, once, known, fun v mem => (h.blocks v mem).elsewhere rfl, ?_, ?_, ?_, h.counted⟩
  · intro j u' here'
    cases h.stage j u' here' with
    | waiting fresh task idle => exact .waiting fresh task fun head => idle (first ▸ head)
    | inside head goes task => exact .inside (first ▸ head) goes task
    | through task told => exact .through task told
  · obtain ⟨k', rest, line'⟩ := List.exists_cons_of_ne_nil line
    have head : s.cell.line.head? = some k' := by rw [line']; rfl
    rw [current_of_head? (first.trans head), ← current_of_head? head]
    exact h.log
  · intro empty
    have mem := mem_queue (k := k) (s := s)
    rw [empty] at mem
    cases mem

theorem acquire (plain : t.Plain) (h : s.InTurn past now) (here : s.user k = some u)
    {next : Unit → Task (Except CallFailure u.α)} (waits : u.task = .ask (.acquire t.cell) next)
    (free : (s.cell.acquire k).2 = true) :
    ((s.queue k).withUser k { u with task := next () }).InTurn past [] := by
  obtain ⟨fresh, idle, task⟩ := (h.stage k u here).of_acquire plain waits
  obtain ⟨order, once, known⟩ := h.queued here fresh
  have first := free_iff.mp free
  -- the first in the line has done nothing yet: it is this run, or the line was empty
  have nothing : now = [] := by
    by_cases line : s.cell.line = []
    · exact h.rests line
    · exact idle ((queue_head? line).symm.trans first)
  subst nothing
  refine ⟨order, once, fun j mem => withUser_known (known j mem), ?_, ?_, ?_, fun _ => rfl,
    h.counted⟩
  · exact fun v mem => (h.blocks v mem).elsewhere (withUser_other (Visit.caller_ne fresh mem))
  · intro j u' here'
    rcases withUser_user here' with ⟨rfl, rfl⟩ | ⟨ne, here'⟩
    · exact .inside first .refl task
    · refine (h.stage j u' here').elsewhere ?_ id id fun _ => rfl
      intro head
      have line : s.cell.line ≠ [] := by
        rintro empty
        rw [empty] at head
        cases head
      rw [queue_head? line, head] at first
      exact ne (Option.some.inj first)
  · show s.log = _
    rw [h.log, current_nil, current_nil]

theorem release (plain : t.Plain) (h : s.InTurn past now) (here : s.user k = some u)
    {next : Unit → Task (Except CallFailure u.α)} (waits : u.task = .ask (.release t.cell) next) :
    ∃ v : Visit t, InTurn { s.withUser k { u with task := next () } with
      cell := s.cell.release k } (past ++ [v]) [] := by
  obtain ⟨first, r, run, done⟩ := (h.stage k u here).of_release plain waits
  obtain ⟨rest, line⟩ := List.head?_eq_some_iff.mp first
  obtain ⟨events, block, performs⟩ := Transport.attempt_performs run
  have fresh := h.not_told (List.mem_of_mem_head? first)
  have left : (s.cell.release k).line = rest := by
    have nodup := h.line_nodup
    rw [line, List.nodup_cons] at nodup
    show s.cell.line.filter (· ≠ k) = rest
    rw [line, List.filter_cons_of_neg (by simp), List.filter_eq_self]
    intro j mem
    refine decide_eq_true ?_
    rintro rfl
    exact nodup.1 mem
  have callers (v : Visit t) (caller : v.caller = k) :
      (past ++ [v]).map Visit.caller = past.map Visit.caller ++ [k] := by
    rw [List.map_append, List.map_singleton, caller]
  refine ⟨⟨k, u.op, events, now, r⟩, ?_, h.once, fun j mem => withUser_known (h.known j mem), ?_,
    ?_, ?_, fun _ => rfl, h.counted⟩
  · show s.asked = _ ++ (s.cell.release k).line
    rw [h.order, line, left, callers _ rfl, List.append_assoc]
    rfl
  · intro v mem
    rcases List.mem_append.mp mem with mem | last
    · exact (h.blocks v mem).elsewhere (withUser_other (Visit.caller_ne fresh mem))
    · rw [List.mem_singleton.mp last]
      refine ⟨⟨u.plain, ?_⟩, block, performs⟩
      show Function.update s.user k _ k = _
      rw [Function.update_self, done]
  · intro j u' here'
    rcases withUser_user here' with ⟨rfl, rfl⟩ | ⟨ne, here'⟩
    · refine .through done ?_
      rw [callers _ rfl]
      exact List.mem_append_right _ (List.mem_singleton_self _)
    · refine (h.stage j u' here').elsewhere ?_ ?_ ?_ fun _ => rfl
      · intro head
        exact ne (Option.some.inj (head.symm.trans first))
      · rw [callers _ rfl, List.mem_append, not_or, List.mem_singleton]
        exact fun fresh => ⟨fresh, ne⟩
      · rw [callers _ rfl]
        exact List.mem_append_left _
  · show s.log = _
    rw [h.log, current_of_head? first, List.flatMap_append, current_nil, List.append_nil]
    simp [Visit.told]

/-- Whatever is exchanged under the lock is told of its holder. -/
theorem exchange (h : s.InTurn past now) (here : s.user k = some u) {a : Act}
    {next : a.Reply → Task (Except CallFailure u.α)} (waits : u.task = .ask a next)
    (other : a ≠ .acquire t.cell) (other' : a ≠ .release t.cell) (r : a.Reply) {cell : Cell}
    (line : cell.line = s.cell.line)
    (counted : cell.reconnects = s.cell.reconnects + if a.counts t.cell then 1 else 0) :
    InTurn { s.withUser k { u with task := next r } with cell, log := s.log ++ [(k, ⟨a, r⟩)] }
      past (now ++ [⟨a, r⟩]) := by
  obtain ⟨first, p, goes, task⟩ := (h.stage k u here).of_ask waits other other' r
  have fresh := h.not_told (List.mem_of_mem_head? first)
  have first' : cell.line.head? = some k := line ▸ first
  refine ⟨?_, h.once, fun j mem => withUser_known (h.known j mem), ?_, ?_, ?_, ?_, ?_⟩
  · show s.asked = _ ++ cell.line
    rw [line]
    exact h.order
  · exact fun v mem => (h.blocks v mem).elsewhere (withUser_other (Visit.caller_ne fresh mem))
  · intro j u' here'
    rcases withUser_user here' with ⟨rfl, rfl⟩ | ⟨ne, here'⟩
    · exact .inside first' goes task
    · have out : s.cell.line.head? ≠ some j := by
        intro head
        exact ne (Option.some.inj (head.symm.trans first))
      exact (h.stage j u' here').elsewhere out id id fun head => absurd (line ▸ head) out
  · rw [current_of_head? first', List.map_append, ← List.append_assoc, ← current_of_head? first,
      ← h.log]
    rfl
  · show cell.line = [] → _
    intro empty
    rw [empty] at first'
    cases first'
  · show cell.reconnects = _
    rw [counted, h.counted]
    simp only [List.map_append, Exchanges.reconnects_append, UInt64.ofNat_add]
    congr 1
    simp only [Exchanges.reconnects, List.map_cons, List.map_nil, List.countP_singleton]
    split <;> rfl

/-- Whatever happens, blocks come in turn. -/
theorem step (plain : t.Plain) (h : s.InTurn past now) (step : s.Step s') :
    ∃ past now, s'.InTurn past now := by
  cases step with
  | start op plain new => exact ⟨past, now, h.start op plain new⟩
  | wait here waits taken => exact ⟨past, now, h.wait plain here waits taken⟩
  | acquire here waits free => exact ⟨past, [], h.acquire plain here waits free⟩
  | release here waits =>
    obtain ⟨v, inTurn⟩ := h.release plain here waits
    exact ⟨past ++ [v], [], inTurn⟩
  | count here waits =>
    refine ⟨past, _, h.exchange here waits nofun nofun () rfl ?_⟩
    simp [Act.counts]
  | act here waits foreign r content =>
    refine ⟨past, _, h.exchange here waits ?_ ?_ r rfl ?_⟩
    · rintro rfl
      exact foreign rfl
    · rintro rfl
      exact foreign rfl
    · rw [if_neg fun counts => foreign (Act.onLock_of_counts counts), UInt64.add_zero]

/-- What is told of the first in the line is just what it exchanged. -/
theorem current_exchanged (h : s.InTurn past now) : (s.current now).map Prod.snd = now := by
  cases line : s.cell.line with
  | nil =>
    rw [h.rests line, current_nil]
    rfl
  | cons k rest =>
    rw [current_of_head? (k := k) (by rw [line]; rfl), List.map_map]
    exact List.map_id now

theorem told_reconnects (plain : t.Plain) :
    ∀ {past : List (Visit t)}, (∀ v ∈ past, v.Of s) →
      Exchanges.reconnects t.cell ((past.flatMap Visit.told).map Prod.snd)
        = past.countP Visit.reconnected
  | [], _ => rfl
  | v :: past, blocks => by
    obtain ⟨⟨plainOp, -⟩, block, performs⟩ := blocks v (List.mem_cons_self ..)
    have exchanged : v.told.map Prod.snd = v.acts := by
      rw [Visit.told, List.map_map]
      exact List.map_id v.acts
    rw [List.flatMap_cons, List.map_append, Exchanges.reconnects_append, exchanged,
      performs.reconnects_eq plain plainOp, block.countP_eq, List.countP_cons,
      told_reconnects plain fun v mem => blocks v (List.mem_cons_of_mem _ mem), Nat.add_comm]
    rfl

/-- The count is that of the blocks with a reconnect, and of the one that is under way. -/
theorem reconnects_eq (plain : t.Plain) (h : s.InTurn past now) :
    s.cell.reconnects.toNat
      = (past.countP Visit.reconnected + now.reconnects t.cell) % UInt64.size := by
  rw [h.counted, h.log, List.map_append, Exchanges.reconnects_append, h.current_exchanged,
    told_reconnects plain h.blocks]
  exact UInt64.toNat_ofNat'

/-- What is under way is counted once at most. -/
theorem now_reconnects_le (plain : t.Plain) (h : s.InTurn past now) :
    now.reconnects t.cell ≤ 1 := by
  cases line : s.cell.line with
  | nil =>
    rw [h.rests line]
    exact Nat.zero_le 1
  | cons k rest =>
    have first : s.cell.line.head? = some k := by rw [line]; rfl
    have mem : k ∈ s.cell.line := List.mem_of_mem_head? first
    obtain ⟨u, here⟩ := h.known k (h.order ▸ List.mem_append_right _ mem)
    cases h.stage k u here with
    | waiting _ _ idle =>
      rw [idle first]
      exact Nat.zero_le 1
    | inside _ goes => exact Transport.attempt_reconnects_le plain u.plain goes
    | through _ told => exact absurd told (h.not_told mem)

/-- A run that is over has its block. -/
theorem block_of_over (h : s.InTurn past now) (here : s.user k = some u)
    {r : Except CallFailure u.α} (ended : u.task = .done r) : ∃ v ∈ past, v.caller = k := by
  cases h.stage k u here with
  | waiting _ task => cases ended.symm.trans task
  | through _ told => exact List.mem_map.mp told
  | @inside p _ _ task =>
    have left := ended.symm.trans task
    cases p <;> cases left

end InTurn

/-- A transport that nobody has used. -/
def start (t : Transport σ) (content : Shared) : Sharing t where
  cell := { content }

theorem start_inTurn (content : Shared) : (start t content).InTurn [] [] where
  order := rfl
  once := .nil
  known := nofun
  blocks := nofun
  stage := nofun
  log := rfl
  rests _ := rfl
  counted := rfl

theorem reached_inTurn (plain : t.Plain) {content : Shared} {s : Sharing t}
    (reached : (start t content).Reached s) : ∃ past now, s.InTurn past now := by
  induction reached with
  | refl => exact ⟨[], [], start_inTurn content⟩
  | step _ step ih =>
    obtain ⟨past, now, inTurn⟩ := ih
    exact inTurn.step plain step

/-- **Runs take turns.** Whatever the runs on a transport are, whenever they start, however long
they take and whatever they come to: what is exchanged on the transport is one block for each run
that is over, in the order in which they asked for the lock, and what the holder of the lock has
done so far. Every run that is over came to what its block comes to, and the count of reconnects is
the number of blocks with one, as far as sixty-four bits can hold it. -/
theorem serialized (plain : t.Plain) {content : Shared} {s : Sharing t}
    (reached : (start t content).Reached s) :
    ∃ past now, s.InTurn past now ∧
      (∀ k u r, s.user k = some u → u.task = .done r → ∃ v ∈ past, v.caller = k) ∧
      s.cell.reconnects.toNat
        = (past.countP Visit.reconnected + now.reconnects t.cell) % UInt64.size ∧
      now.reconnects t.cell ≤ 1 := by
  obtain ⟨past, now, inTurn⟩ := reached_inTurn plain reached
  exact ⟨past, now, inTurn, fun _ _ _ here ended => inTurn.block_of_over here ended,
    inTurn.reconnects_eq plain, inTurn.now_reconnects_le plain⟩

end Sharing

/-! ## A rehearsal -/

namespace Rehearsal

theorem transport_plain (cell : CellId) : (transport cell).Plain where
  load := .request id fun _ => .done _
  keep _ := .request id fun _ => .done ()
  reconnect := by
    rintro ⟨outcomes, _ | ⟨_ | _, reconnects⟩, log⟩ <;> exact .done _

theorem nextOutcome_plain (cell : CellId) : PlainOp cell nextOutcome := by
  rintro ⟨_ | ⟨_ | _, outcomes⟩, reconnects, log⟩ <;> exact .done _

/-- A transport on which the first operation fails, and the next one succeeds. -/
def flaky : Rehearsal := { outcomes := [.error (.link .brokenPipe), .ok 7] }

/-- The same after the failure, and after a reconnect. -/
def failed : Rehearsal := { outcomes := [.ok 7] }
def renewed : Rehearsal := { outcomes := [.ok 7], log := [.reconnecting] }

open Sharing in
/-- Two runs at once: the first is through after a reconnect, the second has waited for it. -/
theorem serialized_flaky :
    ∃ s : Sharing (transport 0), (start _ (.rehearsal flaky)).Reached s ∧
      (∃ plain, s.user 0 = some ⟨nextOutcome, plain, .done (.ok 7)⟩) ∧ s.cell.line = [1] ∧
      ∃ past now, s.InTurn past now ∧
        (∀ k u r, s.user k = some u → u.task = .done r → ∃ v ∈ past, v.caller = k) ∧
        1 = (past.countP Visit.reconnected + now.reconnects 0) % UInt64.size ∧
        now.reconnects 0 ≤ 1 := by
  have plain := nextOutcome_plain 0
  have started := (Reached.refl (s := start (transport 0) (.rehearsal flaky))).step
    (.start (k := 0) nextOutcome plain rfl)
  have both := started.step (.start (k := 1) nextOutcome plain rfl)
  have locked := both.step (.acquire (k := 0) rfl rfl rfl)
  have queued := locked.step (.wait (k := 1) rfl rfl rfl)
  have loaded := queued.step (.act (k := 0) rfl rfl id flaky (.rehearsal flaky))
  have kept := loaded.step (.act (k := 0) rfl rfl id () (.rehearsal failed))
  have counted := kept.step (.count (k := 0) rfl rfl)
  have loaded' := counted.step (.act (k := 0) rfl rfl id failed (.rehearsal failed))
  have kept' := loaded'.step (.act (k := 0) rfl rfl id () (.rehearsal renewed))
  have loaded'' := kept'.step (.act (k := 0) rfl rfl id renewed (.rehearsal renewed))
  have kept'' := loaded''.step (.act (k := 0) rfl rfl id () (.rehearsal { log := [.reconnecting] }))
  have through := kept''.step (.release (k := 0) rfl rfl)
  exact ⟨_, through, ⟨plain, rfl⟩, rfl, serialized (transport_plain 0) through⟩

end Rehearsal

end DeviceRpc
