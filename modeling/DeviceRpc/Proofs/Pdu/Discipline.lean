import DeviceRpc.Pdu.Front
import DeviceRpc.Proofs.Pdu.Dialogue

/-!
# The connections of a client

A client of a unit opens a connection where it has none, looks the unit's index up there, and sends
its commands to that index; whatever goes wrong on the link, it forgets the two together. So an
index is never carried to another connection, and a connection on which the link failed is never
used again (`PduClient.discipline`).

The client `Stands` by its connections: either it has none, and no index, or it has the last one
that was opened, and the index that was found there last. Every use of the client keeps this up,
however it ends (`Use.speaks`).
-/

namespace DeviceRpc

/-- An index, if it is one: zero says that nothing is known. -/
def known (index : UInt16) : Option UInt16 := if index = 0 then none else some index

theorem known_of_ne {index : UInt16} (h : index ≠ 0) : known index = some index := if_neg h

namespace PduClient

/-- The client has the last connection that was opened. -/
structure On (c : PduClient) (old : List Dialogue) (d : Dialogue) (s : List Dialogue) : Prop where
  last : s = old ++ [d]
  connection : ∃ rpc, c.rpc = some rpc ∧ rpc.channel.handle = ⟨old.length, .dialer⟩

/-- The client has the last connection that was opened, and its index is what was found there. -/
structure Joined (c : PduClient) (old : List Dialogue) (d : Dialogue) (s : List Dialogue) : Prop
    extends c.On old d s where
  index : d.index? = known c.index

/-- Apart from the connections that are done with, the client has at most one. -/
inductive Stands (c : PduClient) (old s : List Dialogue) : Prop where
  | apart (connection : c.rpc = none) (index : c.index = 0) (nothing : s = old)
  | joined {d : Dialogue} (joined : c.Joined old d s)

/-- The client still has the connection and the index that it had. -/
structure Continues (c c' : PduClient) : Prop where
  channel : ∀ rpc, c.rpc = some rpc → ∃ rpc', c'.rpc = some rpc' ∧ rpc'.channel = rpc.channel
  index : c.index ≠ 0 → c'.index = c.index

theorem Continues.refl (c : PduClient) : c.Continues c := ⟨fun rpc h => ⟨rpc, h, rfl⟩, fun _ => rfl⟩

theorem Continues.trans {c c' c'' : PduClient} (h : c.Continues c') (h' : c'.Continues c'') :
    c.Continues c'' where
  channel := by
    intro rpc had
    obtain ⟨rpc', has, same⟩ := h.channel rpc had
    obtain ⟨rpc'', has', same'⟩ := h'.channel rpc' has
    exact ⟨rpc'', has', same'.trans same⟩
  index := by
    intro nonzero
    have first := h.index nonzero
    exact (h'.index (first ▸ nonzero)).trans first

/-- What work on the connection comes to: the link failed, or the client still has the connection
and the index, and `P` is true of what was said. -/
structure Worked {α : Type} (old : List Dialogue) (c : PduClient)
    (P : Except CallFailure α → Dialogue → Prop) (r : Except CallFailure α × PduClient)
    (s : List Dialogue) : Prop where
  orderly : Orderly old s
  worked : (∃ e, r.1 = .error (.link e)) ∨
    ∃ d, r.2.On old d s ∧ c.Continues r.2 ∧ r.2.index = c.index ∧ P r.1 d

/-- What a part of a request comes to: the link failed, or the client is on its connection. -/
structure Remains {α : Type} (old : List Dialogue) (c : PduClient)
    (r : Except CallFailure α × PduClient) (s : List Dialogue) : Prop where
  orderly : Orderly old s
  remains : (∃ e, r.1 = .error (.link e)) ∨ (∃ d, r.2.Joined old d s) ∧ c.Continues r.2

variable {old s : List Dialogue} {c : PduClient}

/-- Where the client remains is a matter of the failure only. -/
theorem Remains.of_failure {α β : Type} {r : Except CallFailure α} {r' : Except CallFailure β}
    {c' : PduClient} (h : c.Remains old (r, c') s) (same : ∀ e, r = .error e → r' = .error e) :
    c.Remains old (r', c') s where
  orderly := h.orderly
  remains := h.remains.imp_left fun failed => failed.imp fun e => same (.link e)

theorem keep_speaks (orderly : Orderly old s) :
    Keeps Speaks (Minds old) (fun r s' => r = (.ok (), c) ∧ s' = s) (keep.on c) s := by
  cases home : c.home with
  | none =>
    rw [on_keep_none home]
    exact ⟨rfl, rfl⟩
  | some cell =>
    rw [on_keep home]
    refine .request orderly fun _ s' hs => ?_
    cases hs
    exact ⟨rfl, rfl⟩

theorem connected_speaks (stands : c.Stands old s) (orderly : Orderly old s) :
    Keeps Speaks (Minds old)
      (fun r s' => Orderly old s' ∧ ((∃ e, r = (.error (.link e), c) ∧ s' = s) ∨
        ∃ rpc, r.1 = .ok rpc ∧ r.2.rpc = some rpc ∧ r.2.index = c.index ∧ c.Continues r.2 ∧
          ∃ d, r.2.Joined old d s'))
      (connected.on c) s := by
  cases stands with
  | joined joined =>
    obtain ⟨rpc, connection, -⟩ := joined.connection
    rw [on_connected_some connection]
    exact ⟨orderly, .inr ⟨rpc, rfl, connection, rfl, .refl c, _, joined⟩⟩
  | apart connection index nothing =>
    subst nothing
    rw [on_connected_none connection, RpcClient.connect, Channel.connect]
    refine .bind (.bind (.bind (.request orderly fun r s' hs => ?_)))
    cases hs with
    | refused e => exact ⟨orderly, .inl ⟨e, rfl, rfl⟩⟩
    | dialed =>
      let rpc : RpcClient :=
        { endpoint := c.endpoint, options := c.options,
          channel := ⟨⟨s.length, .dialer⟩, c.options⟩, home := c.home }
      let c' : PduClient := { c with rpc := some rpc }
      have joined : c'.Joined s [] (s ++ [[]]) := by
        refine ⟨⟨rfl, rpc, rfl, rfl⟩, ?_⟩
        show none = known c.index
        rw [index, known, if_pos rfl]
      have continues : c.Continues c' := by
        refine ⟨fun _ had => ?_, fun _ => rfl⟩
        cases connection.symm.trans had
      refine .andThen (keep_speaks (c := c') orderly.dialed) fun r s' hr => ?_
      obtain ⟨rfl, rfl⟩ := hr
      exact ⟨orderly.dialed, .inr ⟨rpc, rfl, rfl, rfl, continues, _, joined⟩⟩

/-- Working on the connection, where what is known of it decides what may be said. -/
theorem onConnection_speaks {α : Type} {op : Calling RpcClient α}
    {P : Except CallFailure α → Dialogue → Prop} (stands : c.Stands old s) (orderly : Orderly old s)
    (spoken : ∀ rpc : RpcClient, rpc.channel.handle = ⟨old.length, .dialer⟩ → ∀ d : Dialogue,
      d.index? = known c.index → Orderly old (old ++ [d]) →
      Keeps Speaks (Minds old) (rpc.Talked old fun r d' => P r.1 d') (op.on rpc) (old ++ [d])) :
    Keeps Speaks (Minds old) (c.Worked old P) ((onConnection op).on c) s := by
  rw [on_onConnection]
  refine .andThen (connected_speaks stands orderly) ?_
  rintro ⟨result, c₁⟩ s₁
    ⟨orderly₁, ⟨e, ⟨⟩, -⟩ | ⟨rpc, ok, connection, index, continues, d, joined⟩⟩
  · exact ⟨orderly₁, .inl ⟨e, rfl⟩⟩
  · obtain rfl : result = .ok rpc := ok
    obtain ⟨rpc', connection', handle⟩ := joined.connection
    obtain rfl : rpc = rpc' := Option.some.inj (connection.symm.trans connection')
    obtain rfl := joined.last
    have found : d.index? = known c.index := index ▸ joined.index
    refine .andThen (spoken rpc handle d found orderly₁) ?_
    rintro ⟨result, rpc'⟩ s₂ ⟨orderly₂, failed | ⟨channel, d', rfl, here⟩⟩
    · obtain ⟨e, rfl⟩ : ∃ e, result = .error (.link e) := failed
      exact ⟨orderly₂, .inl ⟨e, rfl⟩⟩
    · have same : Continues c₁ { c₁ with rpc := some rpc' } := by
        refine ⟨fun before had => ⟨rpc', rfl, ?_⟩, fun _ => rfl⟩
        obtain rfl : rpc = before := Option.some.inj (connection.symm.trans had)
        exact channel
      have handle' : rpc'.channel.handle = ⟨old.length, .dialer⟩ :=
        (congrArg Channel.handle channel).trans handle
      have on : On { c₁ with rpc := some rpc' } old d' (old ++ [d']) := ⟨rfl, rpc', rfl, handle'⟩
      exact ⟨orderly₂, .inr ⟨d', on, continues.trans same, index, here⟩⟩

/-- A client without an index looks it up, and gets to know what was found. -/
theorem lookup_speaks (stands : c.Stands old s) (orderly : Orderly old s) (unknown : c.index = 0) :
    Keeps Speaks (Minds old)
      (c.Worked old fun r d => d.index? = r.toOption ∧ ∀ index, r = .ok index → index ≠ 0)
      ((onConnection (RpcClient.indexByName Protocol.pdu Pdu.getIndexByName c.name)).on c) s := by
  refine onConnection_speaks stands orderly fun rpc handle d nothing orderly => ?_
  exact RpcClient.indexByName_speaks handle orderly (nothing.trans (if_pos unknown)) c.name

theorem resolve_speaks (stands : c.Stands old s) (orderly : Orderly old s) :
    Keeps Speaks (Minds old)
      (fun r s' => c.Remains old r s' ∧ ∀ index, r.1 = .ok index → r.2.index = index ∧ index ≠ 0)
      (resolve.on c) s := by
  rw [resolve, Calling.on_bind, Calling.on_get, Prog.done_bind, Calling.andThen]
  by_cases unknown : c.index = 0
  · rw [if_pos unknown]
    refine Calling.keeps_bind (lookup_speaks stands orderly unknown) ?_ ?_
    · rintro index c₁ s₁ ⟨orderly₁, ⟨e, ⟨⟩⟩ | ⟨d, on, continues, -, found, nonzero⟩⟩
      let c₂ : PduClient := { c₁ with index }
      have nonzero : index ≠ 0 := nonzero index rfl
      have joined : c₂.Joined old d s₁ :=
        ⟨⟨on.last, on.connection⟩, found.trans (known_of_ne nonzero).symm⟩
      have continues₂ : c.Continues c₂ := ⟨continues.channel, fun had => absurd unknown had⟩
      rw [Calling.on_bind, Calling.on_modify, Prog.done_bind, Calling.andThen]
      refine Calling.keeps_bind (keep_speaks orderly₁) ?_ ?_
      · rintro _ _ _ ⟨⟨⟩, rfl⟩
        refine ⟨⟨orderly₁, .inr ⟨⟨d, joined⟩, continues₂⟩⟩, ?_⟩
        rintro _ ⟨⟩
        exact ⟨rfl, nonzero⟩
      · rintro _ _ _ ⟨⟨⟩, -⟩
    · rintro e c₁ s₁ ⟨orderly₁, worked⟩
      refine ⟨⟨orderly₁, ?_⟩, by rintro _ ⟨⟩⟩
      obtain ⟨e', ⟨⟩⟩ | ⟨d, on, continues, same, found, -⟩ := worked
      · exact .inl ⟨e', rfl⟩
      · have nothing : known c₁.index = none := if_pos (same.trans unknown)
        exact .inr ⟨⟨d, on, found.trans nothing.symm⟩, continues⟩
  · rw [if_neg unknown]
    refine ⟨⟨orderly, .inr ⟨?_, .refl c⟩⟩, ?_⟩
    · cases stands with
      | apart _ index => exact absurd index unknown
      | joined joined => exact ⟨_, joined⟩
    · rintro _ ⟨⟩
      exact ⟨rfl, unknown⟩

/-- A command on the connection leaves the client there, and its index as it is. -/
theorem order_speaks {d : Dialogue} (joined : c.Joined old d s) (orderly : Orderly old s)
    (nonzero : c.index ≠ 0) (protocol channel : UInt16) {command : UInt16}
    (other : command ≠ Pdu.getIndexByName) {change : Packet → Except Failure Packet}
    (modest : ∀ p p', change p = .ok p' → p'.Like p) :
    Keeps Speaks (Minds old) (c.Remains old)
      ((onConnection do
        RpcClient.prepare protocol command c.index
        RpcClient.modifyPacket ({ · with channel })
        RpcClient.fill change
        discard RpcClient.call).on c) s := by
  have spoken (rpc : RpcClient) (handle : rpc.channel.handle = ⟨old.length, .dialer⟩)
      (d : Dialogue) (found : d.index? = known c.index) (orderly : Orderly old (old ++ [d])) :=
    RpcClient.command_speaks handle orderly (found.trans (known_of_ne nonzero)) nonzero protocol
      channel other modest
  have ordered := onConnection_speaks (P := fun _ d' => d'.index? = some c.index)
    (.joined joined) orderly spoken
  refine ordered.mono (fun _ _ here => here) ?_
  rintro r s' ⟨orderly', failed | ⟨d', on, continues, same, found⟩⟩
  · exact ⟨orderly', .inl failed⟩
  · have index : known r.2.index = some c.index := by rw [same, known_of_ne nonzero]
    exact ⟨orderly', .inr ⟨⟨d', on, found.trans index.symm⟩, continues⟩⟩

theorem exchange_speaks (stands : c.Stands old s) (orderly : Orderly old s)
    (protocol channel : UInt16) {command : UInt16} (other : command ≠ Pdu.getIndexByName)
    {change : Packet → Except Failure Packet} (modest : ∀ p p', change p = .ok p' → p'.Like p) :
    Keeps Speaks (Minds old) (c.Remains old)
      ((exchange protocol command channel change).on c) s := by
  rw [exchange]
  refine Calling.keeps_bind (resolve_speaks stands orderly) ?_ ?_
  · rintro index c₁ s₁ ⟨⟨orderly₁, ⟨e, ⟨⟩⟩ | ⟨⟨d, joined⟩, continues⟩⟩, resolved⟩
    obtain ⟨same, nonzero⟩ : c₁.index = index ∧ index ≠ 0 := resolved index rfl
    subst same
    refine Calling.keeps_bind
      (order_speaks joined orderly₁ nonzero protocol channel other modest) ?_ ?_
    · rintro _ c₂ s₂ ⟨orderly₂, ⟨e, ⟨⟩⟩ | ⟨⟨d, joined⟩, continues₂⟩⟩
      obtain ⟨rpc, connection, -⟩ := joined.connection
      rw [Calling.on_bind, on_connected_some connection, Prog.done_bind, Calling.andThen]
      exact ⟨orderly₂, .inr ⟨⟨d, joined⟩, continues.trans continues₂⟩⟩
    · rintro e c₂ s₂ ⟨orderly₂, ⟨e', ⟨⟩⟩ | ⟨joined, continues₂⟩⟩
      · exact ⟨orderly₂, .inl ⟨e', rfl⟩⟩
      · exact ⟨orderly₂, .inr ⟨joined, continues.trans continues₂⟩⟩
  · rintro e c₁ s₁ ⟨remains, -⟩
    refine remains.of_failure ?_
    rintro _ ⟨⟩
    rfl

theorem disconnect_speaks (orderly : Orderly old s) :
    Keeps Speaks (Minds old) (fun r s' => r.2 = c.forget ∧ s' = s) (disconnect.run c) s := by
  rw [run_disconnect]
  cases c.rpc with
  | none => exact ⟨rfl, rfl⟩
  | some rpc =>
    refine .request orderly fun _ s' hs => ?_
    cases hs
    exact ⟨rfl, rfl⟩

/-- How a use leaves the client: without a connection if the link failed, and on the connection that
it had if the server refused. -/
structure Leaves {α : Type} (old : List Dialogue) (c : PduClient)
    (r : Except CallFailure α × PduClient) (s : List Dialogue) : Prop where
  orderly : Orderly old s
  stands : ∃ old', old <+: old' ∧ r.2.Stands old' s
  link : ∀ e, r.1 = .error (.link e) → r.2.rpc = none ∧ r.2.index = 0
  remote : ∀ code, r.1 = .error (.remote code) → (∃ d, r.2.Joined old d s) ∧ c.Continues r.2

/-- Unless the link failed, the client is left where it remains. -/
theorem Remains.leaves {α : Type} {r : Except CallFailure α} {c' : PduClient}
    (h : c.Remains old (r, c') s) (linked : ∀ e, r ≠ .error (.link e)) :
    c.Leaves old (r, c') s := by
  obtain ⟨orderly, ⟨e, failed⟩ | ⟨⟨d, joined⟩, continues⟩⟩ := h
  · exact absurd failed (linked e)
  · refine ⟨orderly, ⟨old, List.prefix_rfl, .joined joined⟩, ?_, fun _ _ => ⟨⟨d, joined⟩, continues⟩⟩
    exact fun e failed => absurd failed (linked e)

/-- Where the link failed and the client forgot its connection, all that was said is done with. -/
theorem Leaves.forgotten {α : Type} {e : LinkFailure} {c' : PduClient} (orderly : Orderly old s) :
    c.Leaves old ((.error (.link e) : Except CallFailure α), c'.forget) s where
  orderly := orderly
  stands := ⟨s, orderly.grows, .apart rfl rfl rfl⟩
  link _ _ := ⟨rfl, rfl⟩
  remote := nofun

theorem request_speaks (stands : c.Stands old s) (orderly : Orderly old s)
    (protocol channel : UInt16) {command : UInt16} (other : command ≠ Pdu.getIndexByName)
    {change : Packet → Except Failure Packet} (modest : ∀ p p', change p = .ok p' → p'.Like p) :
    Keeps Speaks (Minds old) (c.Leaves old) ((request protocol command channel change).on c) s := by
  rw [on_request]
  refine .andThen (exchange_speaks stands orderly protocol channel other modest) ?_
  rintro ⟨result, c₁⟩ s₁ remains
  cases result with
  | ok p => exact remains.leaves nofun
  | error e =>
    cases e with
    | remote code => exact remains.leaves nofun
    | link e =>
      refine .andThen (disconnect_speaks remains.orderly) ?_
      rintro ⟨-, c₂⟩ s₂ ⟨rfl, rfl⟩
      exact .forgotten remains.orderly

/-- Reconnecting starts from a client without a connection, and whatever was said before is done
with. -/
theorem reconnect_speaks (orderly : Orderly old s) :
    Keeps Speaks (Minds old) (c.Leaves old) (reconnect.on c) s := by
  have start : Orderly s s := ⟨List.prefix_rfl, orderly.disciplined⟩
  have widen {s' : List Dialogue} (h : Orderly s s') : Orderly old s' :=
    ⟨orderly.grows.trans h.grows, h.disciplined⟩
  rw [on_reconnect]
  refine .andThen (disconnect_speaks orderly) ?_
  rintro ⟨-, c₁⟩ s₁ ⟨rfl, rfl⟩
  refine Calling.keeps_bind (keep_speaks orderly) ?_ ?_
  · rintro _ _ _ ⟨⟨⟩, rfl⟩
    rw [Calling.on_discard]
    refine .andThen ((connected_speaks (c := c.forget) (.apart rfl rfl rfl) start).mono
      (fun _ _ => widen) fun _ _ here => here) ?_
    rintro ⟨result, c₂⟩ s₂ ⟨orderly₂, ⟨e, ⟨⟩, rfl⟩ | ⟨rpc, ok, -, -, -, d, joined⟩⟩
    · exact .forgotten orderly
    · obtain rfl : result = .ok rpc := ok
      exact ⟨widen orderly₂, ⟨_, orderly.grows, .joined joined⟩, nofun, nofun⟩
  · rintro _ _ _ ⟨⟨⟩, -⟩

/-! ## Uses of a client -/

/-- How the client is left is a matter of the failure only. -/
theorem Leaves.of_failure {α β : Type} {r : Except CallFailure α} {r' : Except CallFailure β}
    {c' : PduClient} (h : c.Leaves old (r, c') s) (same : ∀ e, r' = .error e → r = .error e) :
    c.Leaves old (r', c') s where
  orderly := h.orderly
  stands := h.stands
  link e failed := h.link e (same _ failed)
  remote code failed := h.remote code (same _ failed)

theorem leaves_discard {α : Type} {t : Calling PduClient α}
    (h : Keeps Speaks (Minds old) (c.Leaves old) (t.on c) s) :
    Keeps Speaks (Minds old) (c.Leaves old) ((discard t : Calling PduClient Unit).on c) s := by
  rw [Calling.on_discard]
  refine .andThen h ?_
  rintro ⟨result, c'⟩ s' left
  refine left.of_failure fun e failed => ?_
  cases result with
  | ok => cases failed
  | error e' =>
    cases failed
    rfl

/-- What is made of an answer afterwards asks nothing. -/
theorem leaves_then {α β : Type} {t : Calling PduClient β} {f : β → Calling PduClient α}
    (h : Keeps Speaks (Minds old) (c.Leaves old) (t.on c) s)
    (after : ∀ b c, ∃ a, (f b).on c = .done (.ok a, c)) :
    Keeps Speaks (Minds old) (c.Leaves old) ((t >>= f).on c) s := by
  refine Calling.keeps_bind h ?_ ?_
  · intro b c' s' left
    obtain ⟨a, done⟩ := after b c'
    rw [done]
    exact left.of_failure nofun
  · intro e c' s' left
    refine left.of_failure fun e' failed => ?_
    cases failed
    rfl

/-- What a client is used for. -/
inductive Use where
  | call (command : Pdu.Command)
  | reconnect

/-- Using the client, and whether that failed. -/
def Use.program : Use → Calling PduClient Unit
  | call command => discard (Pdu.CommandLine.perform command)
  | reconnect => PduClient.reconnect

theorem perform_speaks (stands : c.Stands old s) (orderly : Orderly old s) (command : Pdu.Command) :
    Keeps Speaks (Minds old) (c.Leaves old) ((Pdu.CommandLine.perform command).on c) s := by
  have plain (p p' : Packet) (h : (Except.ok p : Except Failure Packet) = .ok p') : p'.Like p := by
    cases h
    exact ⟨rfl, rfl, rfl, rfl, rfl⟩
  have request (protocol channel : UInt16) {number : UInt16}
      (other : number ≠ Pdu.getIndexByName) :=
    request_speaks stands orderly protocol channel other plain
  cases command with
  | turnOn channel =>
    exact leaves_then (leaves_discard (request _ channel (by decide))) fun _ _ => ⟨_, rfl⟩
  | turnOff channel =>
    exact leaves_then (leaves_discard (request _ channel (by decide))) fun _ _ => ⟨_, rfl⟩
  | voltage channel =>
    exact leaves_then (leaves_then (request _ channel (by decide)) fun _ _ => ⟨_, rfl⟩)
      fun _ _ => ⟨_, rfl⟩
  | current channel =>
    exact leaves_then (leaves_then (request _ channel (by decide)) fun _ _ => ⟨_, rfl⟩)
      fun _ _ => ⟨_, rfl⟩
  | voltageCurrent channel =>
    exact leaves_then (leaves_then (request _ channel (by decide)) fun _ _ => ⟨_, rfl⟩)
      fun _ _ => ⟨_, rfl⟩
  | status limit =>
    refine leaves_then (leaves_then (request_speaks stands orderly _ _ ?_ ?_) fun _ _ => ⟨_, rfl⟩)
      fun _ _ => ⟨_, rfl⟩
    · decide
    · rintro p _ ⟨⟩
      exact ⟨rfl, rfl, rfl, rfl, rfl⟩
  | channel name =>
    refine leaves_then (leaves_then (request_speaks stands orderly _ _ ?_ ?_) fun _ _ => ⟨_, rfl⟩)
      fun _ _ => ⟨_, rfl⟩
    · decide
    · exact fun p p' filled => (Packet.setName_like filled).1
  | inspect => exact leaves_then (leaves_discard (request _ _ (by decide))) fun _ _ => ⟨_, rfl⟩
  | register seconds =>
    refine leaves_then (leaves_discard (request_speaks stands orderly _ _ ?_ ?_))
      fun _ _ => ⟨_, rfl⟩
    · decide
    · rintro p _ ⟨⟩
      exact ⟨rfl, rfl, rfl, rfl, rfl⟩

/-- However a use of the client ends, the client stands by its connections. -/
theorem Use.speaks (stands : c.Stands old s) (orderly : Orderly old s) (u : Use) :
    Keeps Speaks (Minds old) (c.Leaves old) (u.program.on c) s := by
  cases u with
  | call command => exact leaves_discard (perform_speaks stands orderly command)
  | reconnect => exact reconnect_speaks orderly

/-! ## Every use -/

theorem Stands.grows (h : c.Stands old s) : old <+: s := by
  cases h with
  | apart _ _ nothing => exact nothing ▸ List.prefix_rfl
  | joined joined => exact joined.last ▸ List.prefix_append ..

/-- From a client and what was said to what they are after some uses, however these ended. -/
inductive Used : PduClient → List Dialogue → PduClient → List Dialogue → Prop where
  | none {c : PduClient} {s : List Dialogue} : Used c s c s
  | more {c c' c'' : PduClient} {s s' s'' : List Dialogue} {r : Except CallFailure Unit}
      (before : Used c s c' s') (u : Use)
      (run : Completes Speaks (u.program.on c') s' (r, c'') s'') : Used c s c'' s''

/-- What was said at some moment later on: some uses came to an end, and one more maybe not. -/
def Later (c : PduClient) (s t : List Dialogue) : Prop :=
  ∃ (c' : PduClient) (s' : List Dialogue) (u : Use),
    Used c s c' s' ∧ Passes Speaks (u.program.on c') s' t

theorem Used.stands {c' : PduClient} {s' : List Dialogue} (used : Used c s c' s')
    (stands : c.Stands old s) (orderly : Orderly old s) :
    ∃ old', old <+: old' ∧ c'.Stands old' s' ∧ Orderly old' s' := by
  induction used with
  | none => exact ⟨old, List.prefix_rfl, stands, orderly⟩
  | more _ u run ih =>
    obtain ⟨old₁, grows₁, stands₁, orderly₁⟩ := ih stands orderly
    have left := (u.speaks stands₁ orderly₁).completes run
    obtain ⟨old₂, grows₂, stands₂⟩ := left.stands
    exact ⟨old₂, grows₁.trans grows₂, stands₂, stands₂.grows, left.orderly.disciplined⟩

theorem Later.orderly {t : List Dialogue} (later : Later c s t) (stands : c.Stands old s)
    (orderly : Orderly old s) : Orderly old t := by
  obtain ⟨c', s', u, used, passes⟩ := later
  obtain ⟨old', grows, stands', orderly'⟩ := used.stands stands orderly
  have here : Orderly old' t :=
    ((u.speaks stands' orderly').mono (fun _ _ here => here) fun _ _ left => left.orderly).passes
      passes
  exact ⟨grows.trans here.grows, here.disciplined⟩

/-- However a client was used, it has no index without a connection, and at every moment what it
said on its connections is disciplined. A use that fails on the link leaves it without either, so
whatever it says later is said on connections opened later, and begins with a lookup; a use that the
server refuses leaves the connection and the index as they are. -/
theorem discipline {new : PduClient} (unused : new.rpc = none ∧ new.index = 0)
    (used : Used new [] c s) :
    (c.rpc = none → c.index = 0) ∧
    (∀ t, Later c s t → ∀ d ∈ t, d.Disciplined) ∧
    ∀ (u : Use) (r : Except CallFailure Unit) (c' : PduClient) (s' : List Dialogue),
      Completes Speaks (u.program.on c) s (r, c') s' →
      (∀ e, r = .error (.link e) → c'.rpc = none ∧ c'.index = 0 ∧ ∀ t, Later c' s' t →
        ∃ opened, t = s' ++ opened ∧
          ∀ d ∈ opened, ∀ first, d.getLast? = some first → first.IsLookup) ∧
      ∀ code, r = .error (.remote code) → c.Continues c' ∧
        ∃ rpc d, c'.rpc = some rpc ∧ s'[rpc.channel.handle.connection]? = some d ∧
          d.index? = known c'.index := by
  obtain ⟨old, -, stands, orderly⟩ :=
    used.stands (.apart unused.1 unused.2 rfl) ⟨List.prefix_rfl, nofun⟩
  refine ⟨?_, fun t later => (later.orderly stands orderly).disciplined, ?_⟩
  · intro without
    cases stands with
    | apart _ index => exact index
    | joined joined =>
      obtain ⟨rpc, connection, -⟩ := joined.connection
      cases without.symm.trans connection
  · intro u r c' s' run
    have left := (u.speaks stands orderly).completes run
    refine ⟨fun e failed => ?_, fun code refused => ?_⟩
    · obtain ⟨connection, index⟩ := left.link e failed
      refine ⟨connection, index, fun t later => ?_⟩
      have after : Orderly s' t :=
        later.orderly (.apart connection index rfl) ⟨List.prefix_rfl, left.orderly.disciplined⟩
      obtain ⟨opened, rfl⟩ := after.grows
      exact ⟨opened, rfl, fun d mem _ first =>
        (after.disciplined d (List.mem_append_right _ mem)).begins first⟩
    · obtain ⟨⟨d, joined⟩, continues⟩ := left.remote code refused
      obtain ⟨rpc, connection, handle⟩ := joined.connection
      refine ⟨continues, rpc, d, connection, ?_, joined.index⟩
      rw [joined.last, handle]
      exact List.getElem?_concat_length

/-- A client that was not used yet. -/
def fresh : PduClient := { endpoint := .tcp "localhost" 13003, options := {}, name := "unit" }

/-- The connection breaks when the client sends its lookup, and a new one is refused: the client has
no index, and whatever it says next, it says elsewhere and begins with a lookup. -/
theorem discipline_fresh :
    ∃ (lookup : Turn) (s' : List Dialogue), Used fresh [] fresh [[lookup]] ∧
      Completes Speaks ((Use.call (.turnOn 1)).program.on fresh) [[lookup]]
        (.error (.link .connectionRefused), fresh) s' ∧
      lookup.IsLookup ∧ fresh.index = 0 ∧ ∀ t, Later fresh s' t → ∃ opened, t = s' ++ opened ∧
        ∀ d ∈ opened, ∀ first, d.getLast? = some first → first.IsLookup := by
  obtain ⟨frame, broken⟩ : ∃ frame, Completes Speaks ((Use.call (.turnOn 1)).program.on fresh) []
      (.error (.link .brokenPipe), fresh) [[⟨frame, []⟩]] :=
    ⟨_, .ask .dialed (.ask (.sent (.error .brokenPipe)) (.ask .hungUp .done))⟩
  have used : Used fresh [] fresh [[⟨frame, []⟩]] := .more .none _ broken
  have refused : Completes Speaks ((Use.call (.turnOn 1)).program.on fresh) [[⟨frame, []⟩]]
      (.error (.link .connectionRefused), fresh) [[⟨frame, []⟩]] := .ask (.refused _) .done
  obtain ⟨index, said, uses⟩ := discipline ⟨rfl, rfl⟩ used
  obtain ⟨-, -, later⟩ := (uses _ _ _ _ refused).1 _ rfl
  have disciplined : Dialogue.Disciplined [⟨frame, []⟩] :=
    said _ ⟨_, _, .reconnect, .none, .here⟩ _ (List.mem_singleton_self _)
  exact ⟨⟨frame, []⟩, _, used, refused, disciplined.begins rfl, index rfl, later⟩

end PduClient

end DeviceRpc
