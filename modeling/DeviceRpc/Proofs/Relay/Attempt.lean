import DeviceRpc.Proofs.Relay.Desk

/-!
# What an operation of a relay does

An operation takes the client up, works on it and puts it down, once or, after a failure that a new
connection may cure, twice. Between two operations the client is in step (`PduClient.InStep`): its
connection is settled, if it has one. A connection on which anything went wrong is forgotten,
whatever it may still bring.

At every moment, also while it waits, the operation keeps to its budget (`Desk.May`). If it comes to
an answer, then the answer was read from the reply to the last frame that it sent
(`Inquiry.attempt_keeps`).
-/

namespace DeviceRpc

open Desk (Answers May)

variable {cell : CellId} {q : Inquiry} {s : Desk}

/-! ## What an operation spends -/

/-- The connections that the client needs. -/
def PduClient.need (c : PduClient) : Nat := if c.rpc.isSome then 0 else 1

/-- The operation may still send the inquiry so often, and connect where it must. -/
structure Room (q : Inquiry) (own : Nat) (c : PduClient) (s : Desk) : Prop where
  own : s.log.own q + own ≤ 2
  reconnects : s.log.reconnects ≤ 1
  dials : s.log.dials + c.need ≤ 2

theorem Room.modest {own : Nat} {c : PduClient} (h : Room q own c s) : s.log.Modest q :=
  ⟨Nat.le_trans (Nat.le_add_right ..) h.own, h.reconnects,
    Nat.le_trans (Nat.le_add_right ..) h.dials⟩

/-- The client is kept in this cell, and its connection is settled if it has one. -/
structure PduClient.InStep (cell : CellId) (c : PduClient) (s : Desk) : Prop where
  home : c.home = some cell
  connection : ∀ rpc, c.rpc = some rpc → rpc.Open cell s

/-- What a part of an operation came to: it sent the inquiry no more often than that, connected no
more often than it had to, and left the client in step unless the connection failed. -/
structure Went {α : Type} (cell : CellId) (q : Inquiry) (own : Nat) (c : PduClient) (s : Desk)
    (r : Except CallFailure α × PduClient) (s' : Desk) : Prop where
  own : s'.log.own q ≤ s.log.own q + own
  reconnects : s'.log.reconnects = s.log.reconnects
  dials : s'.log.dials ≤ s.log.dials + c.need
  home : r.2.home = some cell
  inStep : (∃ e, r.1 = .error (.link e)) ∨
    r.2.InStep cell s' ∧ s'.log.dials + r.2.need ≤ s.log.dials + c.need

theorem PduClient.InStep.kept {c : PduClient} (h : c.InStep cell s) (c' : PduClient) :
    c.InStep cell { s with kept := c' } :=
  ⟨h.home, fun rpc same =>
    have opened := h.connection rpc same
    ⟨opened.home, opened.side, opened.dialed, opened.settled⟩⟩

namespace Went

variable {α β : Type} {own own' : Nat} {c c' : PduClient} {s s' s'' : Desk}

theorem kept {r : Except CallFailure α} (h : Went cell q own c s (r, c') s') (c'' : PduClient) :
    Went cell q own c s (r, c') { s' with kept := c'' } :=
  ⟨h.own, h.reconnects, h.dials, h.home,
    h.inStep.imp_right fun ⟨inStep, dials⟩ => ⟨inStep.kept c'', dials⟩⟩

/-- Nothing was done. -/
theorem nothing (inStep : c.InStep cell s) (a : α) : Went cell q 0 c s (.ok a, c) s :=
  ⟨Nat.le_refl _, rfl, Nat.le_add_right .., inStep.home, .inr ⟨inStep, Nat.le_refl _⟩⟩

theorem inStep_of_ok {a : α} (h : Went cell q own c s (.ok a, c') s') :
    c'.InStep cell s' ∧ s'.log.dials + c'.need ≤ s.log.dials + c.need := by
  rcases h.inStep with ⟨e, failed⟩ | here
  · cases failed
  · exact here

/-- What is left for the rest. -/
theorem room {a : α} (h : Went cell q own c s (.ok a, c') s') (room : Room q (own + own') c s) :
    Room q own' c' s' where
  own := by
    have := h.own
    have := room.own
    omega
  reconnects := h.reconnects ▸ room.reconnects
  dials := Nat.le_trans h.inStep_of_ok.2 room.dials

theorem trans {a : α} {r : Except CallFailure β × PduClient}
    (h : Went cell q own c s (.ok a, c') s') (h' : Went cell q own' c' s' r s'') :
    Went cell q (own + own') c s r s'' where
  own := by
    have := h.own
    have := h'.own
    omega
  reconnects := h'.reconnects.trans h.reconnects
  dials := Nat.le_trans h'.dials h.inStep_of_ok.2
  home := h'.home
  inStep := h'.inStep.imp_right fun ⟨inStep, dials⟩ =>
    ⟨inStep, Nat.le_trans dials h.inStep_of_ok.2⟩

/-- A failure is passed on. -/
theorem failed {e : CallFailure} (h : Went (α := α) cell q own c s (.error e, c') s') (more : Nat) :
    Went (α := β) cell q (own + more) c s (.error e, c') s' where
  own := Nat.le_trans h.own (by omega)
  reconnects := h.reconnects
  dials := h.dials
  home := h.home
  inStep := h.inStep.imp_left fun ⟨e', same⟩ => ⟨e', by cases same; rfl⟩

end Went

/-! ## Connecting -/

namespace PduClient

variable {c : PduClient}

theorem keep_keeps (home : c.home = some cell) (modest : s.log.Modest q) :
    Keeps (Answers cell) (May cell q)
      (fun r s' => r = (.ok (), c) ∧ s' = { s with kept := c }) (keep.on c) s := by
  rw [on_keep home]
  refine .request (Desk.may_of_ne modest rfl nofun) fun _ s' hs => ?_
  cases hs
  exact ⟨rfl, rfl⟩

theorem connected_keeps (inStep : c.InStep cell s) {own : Nat} (room : Room q own c s) :
    Keeps (Answers cell) (May cell q)
      (fun r s' => Went cell q 0 c s r s' ∧ r.2.InStep cell s' ∧
        ∀ rpc, r.1 = .ok rpc → r.2.rpc = some rpc)
      (connected.on c) s := by
  cases rpc : c.rpc with
  | some conn =>
    rw [on_connected_some rpc]
    refine ⟨.nothing inStep conn, inStep, ?_⟩
    intro _ same
    cases same
    exact rpc
  | none =>
    have need : c.need = 1 := by rw [PduClient.need, rpc]; rfl
    have dials : s.log.dials + 1 ≤ 2 := need ▸ room.dials
    have modest : Log.Modest q { s.log with dials := s.log.dials + 1 } :=
      ⟨room.modest.own, room.reconnects, dials⟩
    rw [on_connected_none rpc, RpcClient.connect, Channel.connect]
    refine .bind (.bind (.bind (.request (Desk.may_of_ne room.modest trivial nofun) fun r s' hs => ?_)))
    cases hs with
    | refused e =>
      refine ⟨⟨Nat.le_refl _, rfl, ?_, inStep.home, .inl ⟨e, rfl⟩⟩, ⟨inStep.home, ?_⟩, ?_⟩
      · rw [need]
        exact Nat.le_refl _
      · intro conn some
        cases rpc.symm.trans some
      · rintro _ ⟨⟩
    | dialed =>
      let conn : RpcClient :=
        { endpoint := c.endpoint, options := c.options,
          channel := ⟨⟨s.dialed, .dialer⟩, c.options⟩, home := c.home }
      let c' : PduClient := { c with rpc := some conn }
      have inStep' : c'.InStep cell s.dial := by
        refine ⟨inStep.home, ?_⟩
        intro _ same
        cases same
        refine ⟨inStep.home, rfl, Nat.lt_succ_self _, ?_⟩
        simp only [conn, Desk.dial, Function.update_self]
        exact ⟨rfl, [], List.forall_mem_nil _, rfl, rfl⟩
      refine .andThen (keep_keeps (c := c') inStep.home modest) fun r s' hr => ?_
      obtain ⟨rfl, rfl⟩ := hr
      have dials' : s.dial.log.dials = s.log.dials + c.need := by
        rw [need]
        rfl
      refine ⟨⟨Nat.le_refl _, rfl, Nat.le_of_eq dials', inStep.home,
        .inr ⟨inStep'.kept c', Nat.le_of_eq dials'⟩⟩, inStep'.kept c', ?_⟩
      intro _ same
      cases same
      rfl

theorem onConnection_keeps {α : Type} {op : Calling RpcClient α} {n : Nat}
    {Q : Except CallFailure α × RpcClient → Desk → Prop} (inStep : c.InStep cell s)
    (room : Room q n c s)
    (spoken : ∀ rpc s, rpc.Open cell s → s.log.Modest q → s.log.own q + n ≤ 2 →
      Keeps (Answers cell) (May cell q) (fun r s' => Spoke cell q n s r s' ∧ Q r s') (op.on rpc) s) :
    Keeps (Answers cell) (May cell q)
      (fun r s' => Went cell q n c s r s' ∧
        ∀ a, r.1 = .ok a → ∃ rpc, r.2.rpc = some rpc ∧ Q (.ok a, rpc) s')
      ((onConnection op).on c) s := by
  rw [on_onConnection]
  refine .andThen (connected_keeps inStep room) ?_
  intro r s₁ post
  obtain ⟨result, c₁⟩ := r
  obtain ⟨went, -, conn⟩ := post
  cases result with
  | error e =>
    refine ⟨?_, nofun⟩
    have failed := went.failed (β := α) n
    rwa [Nat.zero_add] at failed
  | ok rpc =>
    have room₁ : Room q n c₁ s₁ := went.room (by rwa [Nat.zero_add])
    have opened : rpc.Open cell s₁ := went.inStep_of_ok.1.connection rpc (conn rpc rfl)
    have dials : s₁.log.dials ≤ s.log.dials + c.need := went.dials
    refine .andThen (spoken rpc s₁ opened room₁.modest room₁.own) ?_
    intro r s₂ post
    obtain ⟨result, rpc'⟩ := r
    obtain ⟨spoke, here⟩ := post
    refine ⟨⟨?_, ?_, ?_, went.home, ?_⟩, ?_⟩
    · exact Nat.le_trans spoke.own (Nat.add_le_add_right went.own n)
    · exact spoke.reconnects.trans went.reconnects
    · exact spoke.dials ▸ dials
    · refine spoke.opened.imp_right fun opened' => ⟨⟨went.home, ?_⟩, ?_⟩
      · intro _ same
        cases same
        exact opened'
      · exact spoke.dials ▸ dials
    · rintro a rfl
      exact ⟨rpc', rfl, here⟩

/-- Looking the name up is not the inquiry. -/
theorem lookup_keeps (name : String) {rpc : RpcClient} (opened : rpc.Open cell s)
    (modest : s.log.Modest q) :
    Keeps (Answers cell) (May cell q) (fun r s' => Spoke cell q 0 s r s')
      ((RpcClient.indexByName Protocol.pdu Pdu.getIndexByName name).on rpc) s := by
  let prepared := rpc.edit (·.prepare Protocol.pdu Pdu.getIndexByName 0)
  have opened' : prepared.Open cell s := ⟨opened.home, opened.side, opened.dialed, opened.settled⟩
  have call := RpcClient.fill_keeps (f := (·.setName name)) (n := 0) opened' modest modest.own
    fun p filled => by
      obtain ⟨like, whole⟩ := Packet.setName_like filled
      exact ⟨like.option, whole, fun same =>
        absurd (same.symm.trans like.command) (Inquiry.command_ne_lookup q)⟩
  rw [RpcClient.on_indexByName]
  refine .andThen call ?_
  intro r s' post
  obtain ⟨result, c'⟩ := r
  obtain ⟨spoke, -⟩ := post
  refine ⟨spoke.own, spoke.reconnects, spoke.dials, spoke.opened.imp_left fun ⟨e, failed⟩ => ⟨e, ?_⟩⟩
  cases failed
  rfl

/-- Sending the inquiry itself. -/
theorem ask_keeps (index : UInt16) {rpc : RpcClient} (opened : rpc.Open cell s)
    (modest : s.log.Modest q) (budget : s.log.own q + 1 ≤ 2) :
    Keeps (Answers cell) (May cell q)
      (fun r s' => Spoke cell q 1 s r s' ∧ (r.1 = .ok () → s'.Answered q r.2.packet))
      ((do
        RpcClient.prepare q.protocol q.command index
        RpcClient.modifyPacket ({ · with channel := q.channel })
        RpcClient.fill q.fill
        discard RpcClient.call : Calling RpcClient Unit).on rpc) s := by
  let prepared := (rpc.edit (·.prepare q.protocol q.command index)).edit
    ({ · with channel := q.channel })
  have opened' (p : Packet) : RpcClient.Open cell { prepared with packet := p } s :=
    ⟨opened.home, opened.side, opened.dialed, opened.settled⟩
  have written {p : Packet} (filled : q.fill prepared.packet = .ok p) : q.Written p :=
    ⟨prepared.packet, rfl, rfl, rfl, rfl, rfl, filled⟩
  have call := RpcClient.fill_keeps (n := 1) (opened' prepared.packet) modest budget
    fun p filled => by
      obtain ⟨-, -, option, whole⟩ := (written filled).like
      exact ⟨option, whole, fun _ => rfl⟩
  rw [Calling.on_bind, RpcClient.on_prepare, Prog.done_bind, Calling.andThen, Calling.on_bind,
    RpcClient.on_modifyPacket, Prog.done_bind, Calling.andThen]
  refine call.mono (fun _ _ here => here) ?_
  intro r s' post
  obtain ⟨spoke, heard⟩ := post
  refine ⟨spoke, fun ok => ?_⟩
  obtain ⟨p, filled, heard⟩ := heard ok
  exact heard.answered (opened' p) (written filled)

theorem resolve_keeps (inStep : c.InStep cell s) {own : Nat} (room : Room q own c s) :
    Keeps (Answers cell) (May cell q) (Went cell q 0 c s) (resolve.on c) s := by
  rw [resolve, Calling.on_bind, Calling.on_get, Prog.done_bind, Calling.andThen]
  by_cases known : c.index = 0
  · have found := onConnection_keeps (n := 0) inStep
      ⟨room.modest.own, room.reconnects, room.dials⟩ fun rpc s opened modest _ =>
        (lookup_keeps c.name opened modest).mono (fun _ _ here => here)
          fun r s' spoke => ⟨spoke, trivial⟩
    rw [if_pos known]
    refine Calling.keeps_bind found (fun index c₁ s₁ post => ?_)
      fun e c₁ s₁ post => post.1.failed 0
    obtain ⟨went, -⟩ := post
    let c₂ : PduClient := { c₁ with index }
    have went' : Went cell q 0 c s (Except.ok index, c₂) s₁ :=
      ⟨went.own, went.reconnects, went.dials, went.home,
        .inr ⟨⟨went.home, went.inStep_of_ok.1.connection⟩, went.inStep_of_ok.2⟩⟩
    have room' : Room q 0 c₂ s₁ := went'.room ⟨room.modest.own, room.reconnects, room.dials⟩
    rw [Calling.on_bind, Calling.on_modify, Prog.done_bind, Calling.andThen]
    refine Calling.keeps_bind (keep_keeps went'.home room'.modest) ?_ ?_
    · intro _ c₃ s₃ post
      obtain ⟨same, rfl⟩ := post
      cases same
      exact went'.kept c₂
    · intro e c₃ s₃ post
      obtain ⟨same, -⟩ := post
      cases same
  · rw [if_neg known]
    exact .nothing inStep c.index

theorem exchange_keeps (inStep : c.InStep cell s) (room : Room q 1 c s) :
    Keeps (Answers cell) (May cell q)
      (fun r s' => Went cell q 1 c s r s' ∧ ∀ p, r.1 = .ok p → s'.Answered q p)
      ((exchange q.protocol q.command q.channel q.fill).on c) s := by
  rw [exchange]
  refine Calling.keeps_bind (resolve_keeps inStep room) ?_ ?_
  · intro index c₁ s₁ went
    have room₁ : Room q 1 c₁ s₁ := went.room room
    have asked := onConnection_keeps went.inStep_of_ok.1 room₁ fun rpc s opened modest budget =>
      ask_keeps index opened modest budget
    refine Calling.keeps_bind asked ?_ ?_
    · rintro _ c₂ s₂ ⟨went₂, answer⟩
      obtain ⟨rpc, conn, answered⟩ := answer () rfl
      rw [Calling.on_bind, on_connected_some conn, Prog.done_bind, Calling.andThen]
      refine ⟨(went.trans went₂).trans (.nothing went₂.inStep_of_ok.1 _), ?_⟩
      rintro _ ⟨⟩
      exact answered rfl
    · rintro e c₂ s₂ ⟨went₂, -⟩
      refine ⟨(went.trans went₂).failed 0, ?_⟩
      rintro _ ⟨⟩
  · intro e c₁ s₁ went
    refine ⟨went.failed 1, ?_⟩
    rintro _ ⟨⟩

/-! ## Operations -/

theorem forget_inStep (home : c.home = some cell) (s : Desk) : c.forget.InStep cell s := by
  refine ⟨home, ?_⟩
  intro _ same
  cases same

theorem disconnect_keeps (modest : s.log.Modest q) :
    Keeps (Answers cell) (May cell q) (fun r s' => r.2 = c.forget ∧ s' = s) (disconnect.run c) s := by
  rw [run_disconnect]
  cases c.rpc with
  | none => exact ⟨rfl, rfl⟩
  | some rpc =>
    refine .request (Desk.may_of_ne modest trivial nofun) fun _ s' hs => ?_
    cases hs
    exact ⟨rfl, rfl⟩

/-- After a failure on the connection it is forgotten, so the client is in step in any case. -/
theorem request_keeps (inStep : c.InStep cell s) (room : Room q 1 c s) :
    Keeps (Answers cell) (May cell q)
      (fun r s' => Went cell q 1 c s r s' ∧ r.2.InStep cell s' ∧ ∀ p, r.1 = .ok p → s'.Answered q p)
      ((request q.protocol q.command q.channel q.fill).on c) s := by
  rw [on_request]
  refine .andThen (exchange_keeps inStep room) ?_
  intro r s₁ post
  obtain ⟨result, c₁⟩ := r
  obtain ⟨went, answered⟩ := post
  cases result with
  | ok p => exact ⟨went, went.inStep_of_ok.1, answered⟩
  | error e =>
    cases e with
    | remote code =>
      rcases went.inStep with ⟨e, failed⟩ | here
      · cases failed
      · exact ⟨went, here.1, nofun⟩
    | link e =>
      have modest : s₁.log.Modest q := ⟨Nat.le_trans went.own room.own,
        went.reconnects ▸ room.reconnects, Nat.le_trans went.dials room.dials⟩
      refine .andThen (disconnect_keeps modest) ?_
      rintro ⟨-, c₂⟩ s₂ ⟨rfl, rfl⟩
      exact ⟨⟨went.own, went.reconnects, went.dials, went.home, .inl ⟨e, rfl⟩⟩,
        forget_inStep went.home _, nofun⟩

/-- Reconnecting starts from a client without a connection. -/
theorem reconnect_keeps (home : c.home = some cell) {own : Nat} (room : Room q own c.forget s) :
    Keeps (Answers cell) (May cell q)
      (fun r s' => Went cell q 0 c.forget s r s' ∧ r.2.InStep cell s') (reconnect.on c) s := by
  rw [on_reconnect]
  refine .andThen (disconnect_keeps room.modest) ?_
  rintro ⟨-, c₁⟩ s₁ ⟨rfl, rfl⟩
  refine Calling.keeps_bind (keep_keeps (c := c.forget) home room.modest) ?_ ?_
  · intro _ c₂ s₂ post
    obtain ⟨same, rfl⟩ := post
    cases same
    have room₂ : Room q own c.forget { s₁ with kept := c.forget } :=
      ⟨room.own, room.reconnects, room.dials⟩
    rw [Calling.on_discard]
    refine .andThen (connected_keeps (forget_inStep home _) room₂) ?_
    intro r s₃ post
    obtain ⟨result, c₃⟩ := r
    obtain ⟨went, inStep, -⟩ := post
    refine ⟨⟨went.own, went.reconnects, went.dials, went.home, ?_⟩, inStep⟩
    refine went.inStep.imp_left fun ⟨e, failed⟩ => ⟨e, ?_⟩
    cases failed
    rfl
  · intro e c₂ s₂ post
    obtain ⟨same, -⟩ := post
    cases same

end PduClient

/-- The client is taken up before an operation, and put down as the operation leaves it. -/
theorem PduClient.under_keeps {α : Type} {op : Calling PduClient α}
    {P : Except CallFailure α × PduClient → Desk → Prop} (modest : s.log.Modest q)
    (h : Keeps (Answers cell) (May cell q) P (op.on s.kept) s)
    (after : ∀ r s', P r s' → s'.log.Modest q) :
    Keeps (Answers cell) (May cell q)
      (fun r s' => ∃ c s₁, P (r, c) s₁ ∧ s' = { s₁ with kept := c })
      ((PduClient.transport cell).under op) s := by
  refine .request (Desk.may_of_ne modest rfl nofun) fun c s' hs => ?_
  cases hs
  refine .andThen h ?_
  intro r s₁ here
  obtain ⟨r, c⟩ := r
  refine .request (Desk.may_of_ne (after _ _ here) rfl nofun) fun _ s₂ hs => ?_
  cases hs
  exact ⟨c, s₁, here, rfl⟩

/-- How an operation leaves the desk: within its budget, with the client in step, and with an answer
only if it was read from the reply to the last frame. -/
structure Desk.Done (cell : CellId) (q : Inquiry) (r : Except CallFailure q.Answer) (s : Desk) :
    Prop where
  modest : s.log.Modest q
  inStep : s.kept.InStep cell s
  answered : ∀ v, r = .ok v → ∃ reply, s.Answered q reply ∧ v = q.read reply

namespace Inquiry

theorem call_keeps {c : PduClient} (inStep : c.InStep cell s) (room : Room q 1 c s) :
    Keeps (Answers cell) (May cell q)
      (fun r s' => Went cell q 1 c s r s' ∧ r.2.InStep cell s' ∧
        ∀ v, r.1 = .ok v → ∃ reply, s'.Answered q reply ∧ v = q.read reply)
      (q.call.on c) s := by
  rw [on_call]
  refine .andThen (PduClient.request_keeps inStep room) ?_
  intro r s₁ post
  obtain ⟨result, c₁⟩ := r
  obtain ⟨went, inStep₁, answered⟩ := post
  refine ⟨⟨went.own, went.reconnects, went.dials, went.home, ?_⟩, inStep₁, ?_⟩
  · refine went.inStep.imp_left fun ⟨e, failed⟩ => ⟨e, ?_⟩
    cases failed
    rfl
  · intro v ok
    cases result with
    | error e => cases ok
    | ok p =>
      cases ok
      exact ⟨p, answered p rfl, rfl⟩

theorem under_keeps (inStep : s.kept.InStep cell s) (room : Room q 1 s.kept s) :
    Keeps (Answers cell) (May cell q)
      (fun r s' => s'.Done cell q r ∧ s'.log.own q ≤ s.log.own q + 1 ∧
        s'.log.reconnects = s.log.reconnects ∧ s'.log.dials ≤ s.log.dials + s.kept.need)
      ((PduClient.transport cell).under q.call) s := by
  have modest {α : Type} {r : Except CallFailure α × PduClient} {s' : Desk}
      (went : Went cell q 1 s.kept s r s') : s'.log.Modest q :=
    ⟨Nat.le_trans went.own room.own, went.reconnects ▸ room.reconnects,
      Nat.le_trans went.dials room.dials⟩
  refine (PduClient.under_keeps room.modest (call_keeps inStep room) fun r s' h => modest h.1).mono
    (fun _ _ here => here) ?_
  intro r _ post
  obtain ⟨c, s₁, ⟨went, inStep₁, answered⟩, rfl⟩ := post
  have modest₁ : s₁.log.Modest q := modest went
  exact ⟨⟨modest₁, inStep₁.kept c, answered⟩, went.own, went.reconnects, went.dials⟩

/-- An operation that starts with the lock, the client in step and nothing done. -/
theorem attempt_keeps (inStep : s.kept.InStep cell s) (fresh : s.log = {}) :
    Keeps (Answers cell) (May cell q) (fun r s' => s'.Done cell q r)
      ((PduClient.transport cell).attempt q.call) s := by
  have need (c : PduClient) : c.need ≤ 1 := by
    rw [PduClient.need]
    split <;> decide
  have own : s.log.own q = 0 := by rw [fresh]; rfl
  have reconnects : s.log.reconnects = 0 := by rw [fresh]
  have dials : s.log.dials = 0 := by rw [fresh]
  have room : Room q 1 s.kept s := by
    refine ⟨by omega, by omega, ?_⟩
    have := need s.kept
    omega
  refine .andThen (under_keeps inStep room) ?_
  intro r s₁ post
  obtain ⟨done, own₁, reconnects₁, dials₁⟩ := post
  cases r with
  | ok v => exact done
  | error e =>
    by_cases transient : e.isTransient = true
    · simp only [transient, if_true]
      refine .request (Desk.may_of_ne done.modest rfl nofun) fun _ s₂ hs => ?_
      cases hs
      have room₂ : Room q 1 s₁.kept.forget s₁.reconnecting := by
        have := need s.kept
        exact ⟨by show s₁.log.own q + 1 ≤ 2; omega, by show s₁.log.reconnects + 1 ≤ 1; omega,
          by show s₁.log.dials + 1 ≤ 2; omega⟩
      have home : s₁.kept.home = some cell := done.inStep.home
      refine .andThen (PduClient.under_keeps room₂.modest
        (PduClient.reconnect_keeps (s := s₁.reconnecting) home room₂) ?_) ?_
      · intro r s₃ post
        obtain ⟨went, -⟩ := post
        exact ⟨Nat.le_trans went.own (Nat.le_trans (Nat.le_add_right ..) room₂.own),
          went.reconnects ▸ room₂.reconnects, Nat.le_trans went.dials room₂.dials⟩
      · intro r _ post
        obtain ⟨c, s₃, ⟨went, inStep₃⟩, rfl⟩ := post
        cases r with
        | error e =>
          refine ⟨⟨?_, went.reconnects ▸ room₂.reconnects, Nat.le_trans went.dials room₂.dials⟩,
            inStep₃.kept c, nofun⟩
          exact Nat.le_trans went.own (Nat.le_trans (Nat.le_add_right ..) room₂.own)
        | ok =>
          have room₃ : Room q 1 c { s₃ with kept := c } := by
            have room : Room q 1 c s₃ := went.room room₂
            exact ⟨room.own, room.reconnects, room.dials⟩
          refine (under_keeps (s := { s₃ with kept := c }) (inStep₃.kept c) room₃).mono
            (fun _ _ here => here) ?_
          intro r s₄ post
          obtain ⟨done₄, -⟩ := post
          exact done₄
    · simp only [transient]
      exact ⟨done.modest, done.inStep, nofun⟩

end Inquiry

end DeviceRpc
