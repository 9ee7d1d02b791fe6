import DeviceRpc.Proofs.Device.PlantHost
import DeviceRpc.Proofs.Relay.Site

/-!
# A network that carries everything

The surroundings of a relay in which nothing is lost (`Leg.machine`) are among those that a site
allows for: whatever they do, the site can do as well, with the relay's only connection under number
zero (`Site.Mirrors`). So what an operation ends in there, it may come to in a site
(`Site.reached_of_ends`).
-/

namespace DeviceRpc

variable {τ : Type} {H : Host τ}

/-- Whatever the host answers is allowed. -/
def Host.Lawful (H : Host τ) : Prop := ∀ t a r t', H.machine.answers t a r t' → a.Allows r

theorem Plant.host_lawful (registry : Registry Object) : (Plant.host registry).Lawful := by
  intro p a r p' h
  cases h with
  | clock => trivial
  | does => cases a <;> trivial

/-- What is not on the line puts nothing on it. -/
theorem Act.puts_nil {a : Act} (apart : ¬ a.OnLine) (r : a.Reply) : a.Puts r [] :=
  ⟨List.nil_prefix, fun _ => by rw [Journal.given_apart apart]; rfl⟩

/-- What a server takes and puts is what its feed loses and gets. -/
theorem Host.fed_line (lawful : H.Lawful) {up : Bytes} {t : τ} {a : Act} {r : a.Reply} {f : Feed τ}
    (h : H.fed.answers ⟨up, false, [], t⟩ a r f) :
    a.Allows r ∧ a.Puts r f.out.flatten ∧ Journal.taken a r ++ f.rem = up := by
  cases h with
  | chunk side split short =>
    refine ⟨short, ⟨List.nil_prefix, fun _ => rfl⟩, ?_⟩
    rw [Journal.taken, if_pos side]
    exact split.symm
  | ended side empty closed => cases closed
  | @sent h bs side =>
    have given : Journal.given (.send h bs) = [bs] := if_pos side
    have all : [bs].flatten = (Journal.given (.send h bs)).flatten := congrArg List.flatten given.symm
    exact ⟨trivial, ⟨⟨[], (List.append_nil _).trans all⟩, fun _ => all⟩, rfl⟩
  | hungUp | recorded => exact ⟨trivial, Act.puts_nil id _, rfl⟩
  | offered => exact ⟨rfl, Act.puts_nil id _, rfl⟩
  | @host _ _ t' h =>
    have apart := Act.not_onLine (H.apart _ _ _ _ h)
    refine ⟨lawful _ _ _ _ h, Act.puts_nil apart r, ?_⟩
    rw [Journal.taken_apart apart]
    rfl

namespace Site

variable {leg : Leg} {s : Site} {k : Nat} {t t' : Hop τ}

/-- Everything that was sent and not yet received is on the wire. -/
structure OnWire (s : Site) (w : Wire) : Prop where
  dialed : s.dialed = 1
  task : (s.far 0).task = w.server
  up : (s.far 0).journal.received ++ w.up = (s.line 0).wrote
  down : (s.line 0).got ++ w.down = (s.far 0).wrote

/-- The site is as the surroundings of the relay are, for the operation with this number. -/
structure Mirrors (s : Site) (k : Nat) (t : Hop τ) : Prop where
  kept : s.kept = t.kept
  holder : s.holder = if t.locked then some k else none
  apart : t.far.wire = none → s.dialed = 0
  linked : ∀ w, t.far.wire = some w → s.OnWire w

/-- What came to the operation was sent. -/
theorem Mirrors.came (h : s.Mirrors k t) {c : ConnectionId} (dialed : c < s.dialed) :
    (s.line c).got <+: (s.far c).wrote := by
  cases wire : t.far.wire with
  | none =>
    rw [h.apart wire] at dialed
    exact absurd dialed (Nat.not_lt_zero c)
  | some w =>
    have on := h.linked w wire
    rw [on.dialed] at dialed
    obtain rfl : c = 0 := Nat.lt_one_iff.mp dialed
    exact ⟨w.down, on.down⟩

/-- A server whose round is over goes on with the next one. -/
theorem reached_resumed {cell : CellId} (dialed : 0 < s.dialed) :
    Reached cell s { s with
      far := Function.update s.far 0 { s.far 0 with task := resumed (s.far 0).task } } := by
  unfold resumed
  split
  next job ended => exact .step .refl (.serve dialed (.become ended))
  next =>
    rw [Function.update_eq_self]
    exact .refl

/-- What happens without the operation may happen in the site. -/
theorem Mirrors.silent (lawful : H.Lawful) (h : s.Mirrors k t) (moved : (leg.machine H).silent t t') :
    ∃ s', Reached leg.cell s s' ∧ s'.Mirrors k t' ∧ s'.op = s.op := by
  obtain ⟨kept, locked, healthy, far⟩ := t
  obtain ⟨far', moved, rfl⟩ := moved
  cases moved with
  | host => exact ⟨s, .refl, ⟨h.kept, h.holder, h.apart, h.linked⟩, rfl⟩
  | @serve w u a next r f asks answered =>
    have wire := h.linked w rfl
    obtain ⟨allowed, puts, taken⟩ := Host.fed_line lawful answered
    have one : 0 < s.dialed := wire.dialed ▸ Nat.one_pos
    let g : Far := ⟨next r, (s.far 0).journal ++ [⟨a, r⟩], (s.far 0).wrote ++ f.out.flatten⟩
    let s' : Site := { s with far := Function.update s.far 0 g }
    have received : g.journal.received ++ f.rem = (s.line 0).wrote := by
      rw [Journal.received_concat, List.append_assoc, taken, wire.up]
    have step : Step leg.cell s s' :=
      .serve one (.act (wire.task.trans asks) allowed puts ⟨f.rem, received⟩)
    refine ⟨_, (Reached.refl.step step).trans (reached_resumed one), ?_, rfl⟩
    refine ⟨h.kept, h.holder, nofun, ?_⟩
    intro _ same
    cases same
    refine ⟨wire.dialed, ?_, ?_, ?_⟩
    · simp only [s', g, Function.update_self]
    · simp only [s', Function.update_self]
      exact received
    · simp only [s', g, Function.update_self]
      rw [← wire.down, List.append_assoc]

section

variable {kept : PduClient} {locked healthy : Bool} {u : τ} {w : Wire} {o : Operation}

/-- A connection that the operation dials is under number zero. -/
theorem Mirrors.dial (h : s.Mirrors k ⟨kept, locked, healthy, ⟨none, u⟩⟩) (log : Log) (f : Far)
    (fresh : f = { task := f.task }) :
    (s.leave k o (s.desk log).dial (Function.update s.far 0 f)).Mirrors k
      ⟨kept, locked, healthy, ⟨some { server := f.task }, u⟩⟩ := by
  have zero : s.dialed = 0 := h.apart rfl
  refine ⟨h.kept, h.holder, nofun, ?_⟩
  intro _ same
  cases same
  refine ⟨congrArg (· + 1) zero, ?_, ?_, ?_⟩
  all_goals simp only [leave, desk, Desk.dial, Desk.dialing, zero, Function.update_self]
  · rw [fresh]
    rfl
  · rw [fresh]
    rfl

/-- What the operation sends is on the wire. -/
theorem Mirrors.send (h : s.Mirrors k ⟨kept, locked, healthy, ⟨some w, u⟩⟩) (log : Log) (bs : Bytes) :
    (s.leave k o ((s.desk log).sending 0 bs bs) s.far).Mirrors k
      ⟨kept, locked, healthy, ⟨some { w with up := w.up ++ bs }, u⟩⟩ := by
  have wire := h.linked w rfl
  refine ⟨h.kept, h.holder, nofun, ?_⟩
  intro _ same
  cases same
  refine ⟨wire.dialed, wire.task, ?_, ?_⟩
  all_goals simp only [leave, desk, Desk.sending, Desk.onLine, Function.update_self]
  · rw [← wire.up, List.append_assoc]
  · exact wire.down

/-- What the operation receives was on the wire. -/
theorem Mirrors.receive (h : s.Mirrors k ⟨kept, locked, healthy, ⟨some w, u⟩⟩) (log : Log)
    {bs left : Bytes} (split : w.down = bs ++ left) :
    (s.leave k o ((s.desk log).heard 0 bs s.kept) s.far).Mirrors k
      ⟨kept, locked, healthy, ⟨some { w with down := left }, u⟩⟩ := by
  have wire := h.linked w rfl
  refine ⟨h.kept, h.holder, nofun, ?_⟩
  intro _ same
  cases same
  refine ⟨wire.dialed, wire.task, ?_, ?_⟩
  all_goals simp only [leave, desk, Desk.heard, Desk.onLine, Function.update_self]
  · exact wire.up
  · rw [List.append_assoc, ← split]
    exact wire.down

/-! ### What the operation is answered -/

variable {q : Inquiry} {log : Log}

/-- Connections that are not dialed yet are as fresh as they have to be. -/
theorem fresh_unused (s : Site) : ∀ c, s.dialed ≤ c → c < s.dialed → (s.far c).Fresh :=
  fun _ new old => absurd old (Nat.not_lt.mpr new)

/-- An act that leaves the connections alone. -/
theorem Mirrors.still {far : Remote τ} {a : Act} {next : a.Reply → Task (Except ErrorCode q.Answer)}
    {r : a.Reply} {d : Desk} (h : s.Mirrors k ⟨kept, locked, healthy, far⟩)
    (here : s.op k = some ⟨q, .ask a next, log⟩)
    (answers : Desk.Answers leg.cell (s.desk log) a r d) (dialed : d.dialed = s.dialed)
    (line : d.line = s.line) :
    ∃ s' log', Step leg.cell s s' ∧ s'.Mirrors k ⟨d.kept, locked, healthy, far⟩ ∧
      s'.op k = some ⟨q, next r, log'⟩ := by
  refine ⟨_, _, .act s.far here rfl answers (line ▸ fun c => h.came) (fun _ _ => rfl)
    (dialed ▸ s.fresh_unused), ?_, Function.update_self ..⟩
  refine ⟨rfl, h.holder, fun none => dialed.trans (h.apart none), fun w some => ?_⟩
  have wire := h.linked w some
  refine ⟨dialed.trans wire.dialed, wire.task, ?_, ?_⟩
  all_goals simp only [leave, line]
  · exact wire.up
  · exact wire.down

/-- The server that the operation dials starts with the connection. -/
theorem Mirrors.dials {endpoint : Endpoint}
    {next : (Act.dial endpoint).Reply → Task (Except ErrorCode q.Answer)}
    (h : s.Mirrors k ⟨kept, locked, healthy, ⟨none, u⟩⟩)
    (here : s.op k = some ⟨q, .ask (.dial endpoint) next, log⟩) :
    ∃ s' log', Step leg.cell s s' ∧
      s'.Mirrors k ⟨kept, locked, healthy,
        ⟨some { server := (Job.opening leg.node ⟨.server, leg.served⟩).round }, u⟩⟩ ∧
      s'.op k = some ⟨q, next (.ok ⟨0, .dialer⟩), log'⟩ := by
  have zero : s.dialed = 0 := h.apart rfl
  have answers : Desk.Answers leg.cell (s.desk log) (.dial endpoint) (.ok ⟨s.dialed, .dialer⟩)
      (s.desk log).dial := .dialed
  rw [zero] at answers
  let f : Far := { task := (Job.opening leg.node ⟨.server, leg.served⟩).round }
  refine ⟨_, _, .act (Function.update s.far 0 f) here rfl answers ?_ ?_ ?_, h.dial log f rfl,
    Function.update_self ..⟩
  · intro c old
    exact absurd old (by rw [zero]; exact Nat.not_lt_zero c)
  · intro c old
    exact absurd old (by rw [zero]; exact Nat.not_lt_zero c)
  · intro c _ new
    have first : c < s.dialed + 1 := new
    obtain rfl : c = 0 := by omega
    rw [Function.update_self]
    exact ⟨leg.node, _, rfl, rfl⟩

end

/-- What the operation is answered, it may be answered in the site. -/
theorem Mirrors.answer {q : Inquiry} {a : Act} {next : a.Reply → Task (Except ErrorCode q.Answer)}
    {r : a.Reply} {log : Log} (sound : s.Sound leg.cell) (h : s.Mirrors k t)
    (here : s.op k = some ⟨q, .ask a next, log⟩) (answered : (leg.machine H).answers t a r t') :
    ∃ s' log', Step leg.cell s s' ∧ s'.Mirrors k t' ∧ s'.op k = some ⟨q, next r, log'⟩ := by
  obtain ⟨kept, locked, healthy, far⟩ := t
  obtain rfl : s.kept = kept := h.kept
  have asks := (sound.stage k _ here).asks rfl
  cases answered with
  | acquired free =>
    obtain rfl : locked = false := free
    refine ⟨_, log, .acquire here rfl h.holder, ?_, Function.update_self ..⟩
    exact ⟨rfl, rfl, h.apart, fun w some => ⟨(h.linked w some).dialed, (h.linked w some).task,
      (h.linked w some).up, (h.linked w some).down⟩⟩
  | released =>
    refine ⟨_, log, .release here rfl, ?_, Function.update_self ..⟩
    refine ⟨rfl, ?_, h.apart, fun w some => ⟨(h.linked w some).dialed, (h.linked w some).task,
      (h.linked w some).up, (h.linked w some).down⟩⟩
    have holder := h.holder
    cases locked
    · exact (if_neg (by rw [holder]; exact nofun)).trans holder
    · exact if_pos holder
  | counted => exact h.still here .counted rfl rfl
  | taken => exact h.still here .taken rfl rfl
  | kept => exact h.still here .kept rfl rfl
  | noted =>
    rcases asks with ⟨⟨⟩⟩ | ⟨⟨⟩⟩ | known
    cases known
    exact h.still here .noted rfl rfl
  | shown => obtain ⟨⟨⟩⟩ | ⟨⟨⟩⟩ | ⟨⟨⟩⟩ := asks
  | marked => obtain ⟨⟨⟩⟩ | ⟨⟨⟩⟩ | ⟨⟨⟩⟩ := asks
  | far other answered =>
    cases answered with
    | clock time => exact h.still here (.clock time) rfl rfl
    | noted => exact (other trivial).elim
    | dialed => exact h.dials here
    | @sent w u bs =>
      have mirrors (o : Operation) := h.send (o := o) log bs
      exact ⟨_, _, .act s.far here rfl (.sent rfl) (fun c => (mirrors ⟨q, .ask _ next, log⟩).came)
        (fun _ _ => rfl) s.fresh_unused, mirrors _, Function.update_self ..⟩
    | @arrived w u n limit first rest left split short =>
      have mirrors (o : Operation) := h.receive (o := o) log split
      exact ⟨_, _, .act s.far here rfl (.arrived rfl short)
        (fun c => (mirrors ⟨q, .ask _ next, log⟩).came) (fun _ _ => rfl) s.fresh_unused, mirrors _,
        Function.update_self ..⟩

/-- What an operation ends in where nothing is lost, it may come to in a site. -/
theorem reached_of_ends (lawful : H.Lawful) {q : Inquiry}
    {Q : Except ErrorCode q.Answer → Hop τ → Prop} {p : Task (Except ErrorCode q.Answer)}
    (ends : Ends (leg.machine H) Q p t) {log : Log} (sound : s.Sound leg.cell)
    (mirrors : s.Mirrors k t) (here : s.op k = some ⟨q, p, log⟩) :
    ∃ s' log' r t', Reached leg.cell s s' ∧ s'.op k = some ⟨q, .done r, log'⟩ ∧ Q r t' := by
  induction ends generalizing s log with
  | @done r t last => exact ⟨s, log, r, t, .refl, here, last⟩
  | ask _ live _ _ later go =>
    rcases live with ⟨t', moved⟩ | ⟨r, t', answered⟩
    · obtain ⟨s₁, reached, mirrors₁, same⟩ := mirrors.silent lawful moved
      obtain ⟨s', log', r, t', more, rest⟩ :=
        later t' moved (sound.run reached) mirrors₁ (same ▸ here)
      exact ⟨s', log', r, t', reached.trans more, rest⟩
    · obtain ⟨s₁, log₁, step, mirrors₁, here₁⟩ := mirrors.answer sound here answered
      obtain ⟨s', log', r, t', more, rest⟩ := go r t' answered (sound.step step) mirrors₁ here₁
      exact ⟨s', log', r, t', (Reached.refl.step step).trans more, rest⟩

end Site

end DeviceRpc
