import DeviceRpc.Proofs.Server.Transcript

/-!
# The server's envelope

A connection is served in one envelope, which is never wiped: it keeps the header of the last reply,
and behind its payload whatever requests and replies before it left. None of that is ever seen. Two
servers that start a round with any two envelopes ask the same of the world, and so send the same
frames, until the request is read; from there their envelopes differ at most behind the payload
(`Server.cycle_alike`), and no command looks there.

**What the world can tell** is all that is said: of every run of one server there is a run of the
other one that is answered the same, leaves the feed the same, byte for byte, and ends in an
envelope with the same content (`Host.envelope_unseen`). That holds of whole requests and of those
that are refused or never come whole, round after round, and of every service, as long as memory is
granted (`Packet.memoryLimit`).
-/

namespace DeviceRpc

open Packet (Same IsFrame)
open Prog (Alike)

/-! ## Reading a request -/

/-- A transfer gives what it gave before, all that was wanted or the reason for less. -/
structure Transferred (n : Nat) (r r' : Bytes × Option LinkFailure) : Prop where
  eq : r = r'
  enough : r.2 = none → n ≤ r.1.length
  /-- What is read is not weighed, so it is never too large. -/
  cause : ∀ size, r.2 ≠ some (.tooLarge size)

theorem receiveExactly_alike (h : Handle) (limit : Option Instant) (note : Bytes → Task Unit) :
    ∀ (want : Nat) (got : Bytes),
      Alike (Transferred (got.length + want)) (receiveExactly h limit note want got)
        (receiveExactly h limit note want got)
  | 0, got => by
    unfold receiveExactly
    exact .done ⟨rfl, fun _ => Nat.le_refl _, nofun⟩
  | want + 1, got => by
    unfold receiveExactly
    refine .ask fun answer => ?_
    cases answer with
    | bytes first rest =>
      refine .after (note (got ++ first :: rest)) fun _ => ?_
      refine (receiveExactly_alike h limit note (want - rest.length) _).mono fun r r' given => ?_
      refine ⟨given.eq, fun whole => ?_, given.cause⟩
      have enough := given.enough whole
      rw [List.length_append, List.length_cons] at enough
      omega
    | ended => exact .done ⟨rfl, nofun, nofun⟩
    | reset => exact .done ⟨rfl, nofun, nofun⟩
    | late => exact .done ⟨rfl, nofun, nofun⟩
termination_by want => want

/-- What reading a request into two envelopes may come to. -/
inductive Opened :
    Packet × Except LinkFailure Unit → Packet × Except LinkFailure Unit → Prop where
  /-- The same request. -/
  | request {p q : Packet} (same : Same p q) : Opened (p, .ok ()) (q, .ok ())
  /-- The same header, which announces too much. -/
  | tooLarge {p q : Packet} (n : Nat) (bare : p.bare = q.bare) :
      Opened (p, .error (.tooLarge n)) (q, .error (.tooLarge n))
  /-- The same failure, after which no envelope is looked at. -/
  | failed (p q : Packet) {e : LinkFailure} (other : ∀ n, e ≠ .tooLarge n) :
      Opened (p, .error e) (q, .error e)

/-- A payload that came whole is all that is seen of what it was written over. -/
theorem Packet.same_poke {p q : Packet} (h : p.bare = q.bare) {bs : Bytes}
    (enough : p.length.toNat ≤ bs.length) : Same (p.poke 0 bs) (q.poke 0 bs) := by
  have seen (r : Packet) (fits : r.length.toNat ≤ bs.length) :
      (r.poke 0 bs).payload = bs.take r.length.toNat := by
    show (Bytes.splice 0 bs r.trailing).take r.length.toNat = _
    rw [Bytes.splice, List.take_zero, List.nil_append, List.take_append_of_le_length fits]
  have length : p.length = q.length :=
    show p.bare.length = q.bare.length from congrArg Packet.length h
  refine ⟨h, ?_, ?_⟩
  · rw [seen p enough, seen q (length ▸ enough), length]
  · rw [Whole, seen p enough]
    exact List.length_take_of_le enough

namespace Channel

theorem transfer_alike (ch : Channel) (n : Nat) (note : Bytes → Task Unit) :
    Alike (Transferred n) (ch.transfer n note) (ch.transfer n note) := by
  refine .after _ fun limit => ?_
  have alike := receiveExactly_alike ch.handle limit note n []
  rw [List.length_nil, Nat.zero_add] at alike
  exact alike

theorem readPayload_alike (ch : Channel) {p q : Packet} (h : p.bare = q.bare) :
    Alike Opened (ch.readPayload p) (ch.readPayload q) := by
  have length : p.length.toNat = q.length.toNat :=
    show p.bare.length.toNat = q.bare.length.toNat from congrArg (·.length.toNat) h
  obtain ⟨n, hp, hq⟩ : ∃ n, p.length.toNat = n ∧ q.length.toNat = n := ⟨_, length, rfl⟩
  have room : n < Packet.memoryLimit := hp ▸ Packet.length_lt_memoryLimit _
  unfold readPayload
  simp only [hp, hq, Packet.grow_of_lt room]
  by_cases none : n = 0
  · have same : Same p q := by
      refine ⟨h, ?_, Packet.whole_of_length (UInt32.toNat.inj (hp.trans none))⟩
      rw [Packet.payload, Packet.payload, hp, hq, none, List.take_zero, List.take_zero]
    simp only [if_pos none]
    exact .done (.request same)
  · simp only [if_neg none]
    by_cases large : ch.options.maxPayload < n
    · simp only [if_pos large]
      exact .done (.tooLarge _ h)
    · simp only [if_neg large]
      refine .after _ fun _ => ?_
      refine (ch.transfer_alike n unnoted).bind ?_
      rintro ⟨bs, failure⟩ _ ⟨rfl, enough, cause⟩
      cases failure with
      | none =>
        have bare : { p with trailing := Bytes.grow n p.trailing }.bare
            = { q with trailing := Bytes.grow n q.trailing }.bare := h
        exact .done (.request (Packet.same_poke bare (hp ▸ enough rfl)))
      | some e => exact .done (.failed _ _ fun n same => cause n (congrArg some same))

/-- A request is read into any two envelopes by the same acts, and looks the same in both. -/
theorem readRequest_alike (ch : Channel) (p q : Packet) :
    Alike Opened (ch.readRequest p) (ch.readRequest q) := by
  refine (receiveExactly_alike ch.handle none unnoted 1 []).bind ?_
  rintro ⟨first, failure⟩ _ ⟨rfl, -, cause⟩
  cases failure with
  | some e => exact .done (.failed _ _ fun n same => cause n (congrArg some same))
  | none =>
    refine (ch.transfer_alike (headerSize - 1) unnoted).bind ?_
    rintro ⟨rest, failure⟩ _ ⟨rfl, -, cause⟩
    cases failure with
    | some e => exact .done (.failed _ _ fun n same => cause n (congrArg some same))
    | none => exact ch.readPayload_alike rfl

end Channel

/-! ## Serving it -/

namespace Server

theorem refusal_same {p q : Packet} (h : p.bare = q.bare) : Same (refusal p) (refusal q) :=
  ⟨congrArg (fun b => refusal b) h, rfl, rfl⟩

/-- Whatever the node offers, it answers a request the same in every envelope. -/
theorem answer_alike (node : NodeId) {p q : Packet} (h : Same p q) :
    Alike Same (answer node p) (answer node q) := by
  refine .ask fun started => .ask fun offer => ?_
  have alike := Service.dispatch_alike offer.kind.service_blind offer.registry h
  refine alike.bind fun reply reply' same => .ask fun ended => ?_
  rw [h.command, same.same.errorCode]
  exact .ask fun _ => .done same.same

/-- A round that starts with any two envelopes goes on alike. -/
theorem cycle_alike (node : NodeId) (ch : Channel) (p q : Packet) :
    Alike (Option.Rel Same) (cycle node ch p) (cycle node ch q) := by
  refine (ch.readRequest_alike p q).bind fun r r' opened => ?_
  cases opened with
  | tooLarge n bare =>
    refine .after (recordFailure node (.tooLarge n)) fun _ => ?_
    unfold Channel.writePacket
    rw [(refusal_same bare).frame]
    exact .ask fun _ => .done .none
  | @failed p q e other =>
    cases e <;>
      first | exact .done .none | exact .ask fun _ => .done .none | exact (other _ rfl).elim
  | request same =>
    refine (answer_alike node same).bind fun reply reply' same => ?_
    unfold Channel.writePacket
    rw [same.frame]
    refine .ask fun sent => ?_
    cases sent with
    | ok => exact .done (.some same)
    | error e => exact .ask fun _ => .done .none

end Server

/-! ## Round after round -/

variable {τ : Type}

/-- The same end, or the next round of the same connection with the same content in an envelope. -/
inductive SameEnding : Ending → Ending → Prop where
  | over (o : Outcome) : SameEnding (.over o) (.over o)
  | become {p q : Packet} (node : NodeId) (ch : Channel) (same : Same p q) :
      SameEnding (.become (.connection node ch p)) (.become (.connection node ch q))

theorem Job.round_alike (node : NodeId) (ch : Channel) (p q : Packet) :
    Alike SameEnding (Job.connection node ch p).round (Job.connection node ch q).round := by
  refine (Server.cycle_alike node ch p q).bind fun next next' same => ?_
  cases same with
  | none => exact .ask fun _ => .ask fun _ => .done (.over .done)
  | some same => exact .done (.become node ch same)

/-- In some run of this many rounds of a job, the last one ends so, and this is the state then. -/
inductive Machine.Rounds (M : Machine τ) : Nat → Job → τ → Ending → τ → Prop where
  | last {job : Job} {t t' : τ} {e : Ending} (run : M.Yields job.round t e t') :
      M.Rounds 1 job t e t'
  | more {n : Nat} {job next : Job} {t t' t'' : τ} {e : Ending}
      (run : M.Yields job.round t (.become next) t') (rest : M.Rounds n next t' e t'') :
      M.Rounds (n + 1) job t e t''

theorem Machine.Rounds.alike {M : Machine τ} {n : Nat} {node : NodeId} {ch : Channel} {p : Packet}
    {t t' : τ} {e : Ending} (run : M.Rounds n (.connection node ch p) t e t') (q : Packet) :
    ∃ e', M.Rounds n (.connection node ch q) t e' t' ∧ SameEnding e e' := by
  generalize hjob : Job.connection node ch p = job at run
  induction run generalizing node ch p q with
  | last run =>
    cases hjob
    obtain ⟨e', run', same⟩ := run.alike (Job.round_alike node ch p q)
    exact ⟨e', .last run', same⟩
  | more run rest ih =>
    cases hjob
    obtain ⟨e', run', same⟩ := run.alike (Job.round_alike node ch p q)
    cases same with
    | become =>
      obtain ⟨e', rest', same'⟩ := ih _ rfl
      exact ⟨e', .more run' rest', same'⟩

theorem Finishes.alike {M : Machine τ} {Q : Outcome → τ → Prop} {a b : Task Ending} {t : τ}
    (h : Finishes M Q a t) (same : Alike SameEnding a b) : Finishes M Q b t := by
  induction h generalizing b with
  | finished here =>
    cases same with
    | done same =>
      cases same
      exact .finished here
  | become _ ih =>
    cases same with
    | done same =>
      cases same with
      | become => exact .become (ih (Job.round_alike ..))
  | ask live _ _ later go =>
    cases same with
    | ask alike =>
      exact .ask live (fun t' moved => later t' moved (.ask alike))
        fun r t' answered => go r t' answered (alike r)

/-- Nothing that happens on the machine tells the two jobs apart. -/
structure Machine.CannotTell (M : Machine τ) (job job' : Job) (t : τ) : Prop where
  /-- Whatever rounds of the one may come to, as many rounds of the other may, and do the same. -/
  rounds {n : Nat} {e : Ending} {t' : τ} (run : M.Rounds n job t e t') :
    ∃ e', M.Rounds n job' t e' t' ∧ SameEnding e e'
  /-- If a round of the one returns however it is answered, so does a round of the other. -/
  returns {I : τ → Prop} {Q : Ending → τ → Prop} (ends : EndsWithin M I Q job.round t) :
    EndsWithin M I (fun e' t' => ∃ e, SameEnding e e' ∧ Q e t') job'.round t
  /-- If the one is over some time, so is the other. -/
  finishes {Q : Outcome → τ → Prop} (ended : Finishes M Q job.round t) :
    Finishes M Q job'.round t

namespace Host

open Plant (oneOutlet oneUnit switchOn)

/-- **No leak through the envelope.** Whatever two envelopes a server starts with, whatever its node
is like and whatever the client sends, every run with the one is matched by a run with the other
that sends the same frames, byte for byte, and leaves the same service behind. -/
theorem envelope_unseen (H : Host τ) (s : Feed τ) (node : NodeId) (ch : Channel) (p q : Packet) :
    H.fed.CannotTell (.connection node ch p) (.connection node ch q) s where
  rounds run := run.alike q
  returns ends := ends.alike (Job.round_alike node ch p q)
  finishes ended := ended.alike (Job.round_alike node ch p q)

/-- An envelope in which another request was answered, with bytes of it behind the payload. -/
def stale : Packet :=
  { switchOn with command := Pdu.status, errorCode := 22, length := 3, trailing := [7, 7, 7, 7] }

/-- From a stale envelope too the outlet is switched, and the reply is the frame of the request. -/
theorem stale_unseen :
    ∃ e, (Plant.host oneUnit).fed.Rounds 1 (.connection 0 ⟨⟨0, .acceptor⟩, {}⟩ stale)
      ⟨switchOn.frame, true, [], oneOutlet⟩ e
      ⟨[], true, [switchOn.frame], (oneOutlet.perform 0 (.switch true 1)).1⟩ := by
  have frame : IsFrame switchOn.header [] := ⟨switchOn.length_header, rfl⟩
  have dispatched : Plant.run? (Pdu.service.dispatch oneUnit switchOn) oneOutlet
      = some (switchOn, (oneOutlet.perform 0 (.switch true 1)).1) := rfl
  have round : EndsWithin (Plant.host oneUnit).fed (Quiet []) _
      (Job.connection 0 ⟨⟨0, .acceptor⟩, {}⟩ .empty).round
      ⟨switchOn.header ++ ([] ++ []), true, [], oneOutlet⟩ :=
    round_answers frame (Nat.zero_le _) (Packet.receive_same (p := switchOn) rfl .empty)
      (Plant.machine_still oneOutlet) (Plant.ends_of_run? dispatched)
      fun _ t' _ => Plant.machine_still t'
  obtain ⟨e, s, run, p', d, t', -, -, ⟨rfl, rfl⟩, rfl⟩ := round.exists_yields
  obtain ⟨e', run', -⟩ :=
    (envelope_unseen (Plant.host oneUnit) _ 0 _ .empty stale).rounds (.last run)
  exact ⟨e', run'⟩

end Host

end DeviceRpc
