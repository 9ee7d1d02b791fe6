import DeviceRpc.Pdu.Exchange

/-!
# Running calling programs

A calling program works on a client: run on one, it is a task that gives the result and the client
as it then is (`Calling.on`). The lemmas here say what each way to build a calling program comes to
as a task, so that what a call asks can be read off.
-/

namespace DeviceRpc

namespace Calling

variable {σ α β : Type}

/-- The task that a calling program is on a client. -/
def on (t : Calling σ α) (s : σ) : Task (Except CallFailure α × σ) := t.run.run s

/-- What follows a step: the next one if it succeeded, and nothing if not. -/
def andThen (f : α → Calling σ β) : Except CallFailure α × σ → Task (Except CallFailure β × σ)
  | (.ok a, s) => (f a).on s
  | (.error e, s) => return (.error e, s)

@[simp] theorem on_get (s : σ) : (get : Calling σ σ).on s = .done (.ok s, s) := rfl

@[simp] theorem on_set (s s' : σ) : (set s' : Calling σ Unit).on s = .done (.ok (), s') := rfl

@[simp] theorem on_modify (f : σ → σ) (s : σ) :
    (modify f : Calling σ Unit).on s = .done (.ok (), f s) := rfl

theorem on_bind (t : Calling σ α) (f : α → Calling σ β) (s : σ) :
    (t >>= f).on s = t.on s >>= andThen f := by
  show Prog.bind (t.run.run s) _ = Prog.bind _ _
  congr 1
  funext r
  obtain ⟨result, s'⟩ := r
  cases result <;> rfl

theorem on_lift (t : Task α) (s : σ) :
    (liftM t : Calling σ α).on s = t >>= fun a => return (.ok a, s) := by
  show Prog.bind (Prog.bind t _) _ = Prog.bind _ _
  rw [Prog.bind_assoc]
  rfl

theorem on_ofLink (t : Task (Except LinkFailure α)) (s : σ) :
    (ofLink t : Calling σ α).on s = t >>= fun r => return (r.mapError .link, s) := by
  show Prog.bind (Prog.bind t _) _ = Prog.bind _ _
  rw [Prog.bind_assoc]
  rfl

theorem on_discard (t : Calling σ α) (s : σ) :
    (discard t : Calling σ Unit).on s = t.on s >>= fun r => .done (r.1.map fun _ => (), r.2) := by
  show Prog.bind (t.run.run s) _ = Prog.bind _ _
  congr 1
  funext r
  obtain ⟨result, s'⟩ := r
  cases result <;> rfl

theorem on_map (f : α → β) (t : Calling σ α) (s : σ) :
    (f <$> t).on s = t.on s >>= fun r => .done (r.1.map f, r.2) := by
  show Prog.bind (t.run.run s) _ = Prog.bind _ _
  congr 1
  funext r
  obtain ⟨result, s'⟩ := r
  cases result <;> rfl

/-- A program with something to do on failure, and then that. -/
theorem on_onFailure (t : Calling σ α) (mend : CallFailure → StateT σ Task Unit) (s : σ) :
    (onFailure t mend).on s = t.on s >>= fun
      | (.ok a, s) => return (.ok a, s)
      | (.error e, s) => do
        let ((), s) ← (mend e).run s
        return (.error e, s) := by
  show Prog.bind (t.run.run s) _ = Prog.bind _ _
  congr 1
  funext r
  obtain ⟨result, s'⟩ := r
  cases result <;> rfl

end Calling

open Calling

/-- Where nothing is announced, there is nothing to clear. -/
theorem Packet.clearMore_of_last {p : Packet} (h : p.hasMore = false) : p.clearMore = p := by
  have clear : p.option &&& Protocol.morePackets = 0 := by
    simpa only [Packet.hasMore, ne_eq, decide_not, Bool.not_eq_false', decide_eq_true_eq] using h
  have split (x m : UInt16) : x = (x &&& m) ||| (x &&& ~~~m) := by
    rw [← UInt16.toBitVec_inj, UInt16.toBitVec_or, UInt16.toBitVec_and, UInt16.toBitVec_and,
      UInt16.toBitVec_not, ← BitVec.and_or_distrib_left, BitVec.or_not_self, BitVec.and_allOnes]
  have kept : p.option &&& ~~~Protocol.morePackets = p.option := by
    have parts := split p.option Protocol.morePackets
    rw [clear, UInt16.zero_or] at parts
    exact parts.symm
  unfold Packet.clearMore
  rw [kept]

theorem Packet.hasMore_of_option {p : Packet} (h : p.option = 0) : p.hasMore = false := by
  unfold Packet.hasMore
  rw [h]
  decide

theorem ErrorCode.zero_of_ofNumber? {number : UInt16} (h : ofNumber? number = none) : number = 0 := by
  unfold ofNumber? at h
  split at h
  · assumption
  · cases h

namespace RpcClient

/-- What reading a packet comes to. -/
def verdict (packet : Packet) : Except LinkFailure Unit → Except CallFailure ReplyPart
  | .error e => .error (.link e)
  | .ok () =>
    match ErrorCode.ofNumber? packet.errorCode with
    | some code => .error (.remote code)
    | none => .ok (if packet.hasMore then .more else .last)

theorem on_read (c : RpcClient) :
    read.on c = (do
      note c.home c.packet
      let (packet, result) ← c.channel.readPacket c.packet (note c.home)
      return (verdict packet result, { c with packet })) := by
  unfold read
  simp only [on_bind, on_get, Prog.done_bind, andThen, on_lift, bind_assoc, pure_bind]
  congr 1
  funext _
  congr 1
  funext r
  obtain ⟨packet, result⟩ := r
  cases result with
  | error e => rfl
  | ok =>
    simp only [on_set, Prog.done_bind, andThen, verdict]
    cases ErrorCode.ofNumber? packet.errorCode <;> rfl

/-- How a call leaves the client: no reply is under way after a failure. -/
def settled {α : Type} : Except CallFailure α × RpcClient → Except CallFailure α × RpcClient
  | (.ok a, c) => (.ok a, c)
  | (.error e, c) => (.error e, edit Packet.clearMore c)

/-- A call where no reply is under way. -/
theorem on_call {c : RpcClient} (h : c.packet.hasMore = false) :
    call.on c = (c.channel.writePacket c.packet >>= fun
      | .ok () => read.on c
      | .error e => return (.error (.link e), c)) >>= (return settled ·) := by
  unfold call
  rw [on_onFailure]
  simp only [on_bind, on_get, Prog.done_bind, andThen, h, write, Bool.not_false, if_true, on_ofLink,
    bind_assoc, pure_bind]
  congr 1
  funext sent
  cases sent with
  | error e => rfl
  | ok =>
    show read.on c >>= _ = read.on c >>= _
    congr 1
    funext outcome
    obtain ⟨result, c'⟩ := outcome
    cases result <;> rfl

/-- A call while a reply is under way. -/
theorem on_call_more {c : RpcClient} (h : c.packet.hasMore = true) :
    call.on c = read.on c >>= (return settled ·) := by
  unfold call
  rw [on_onFailure, on_bind, on_get, Prog.done_bind, andThen, h]
  show read.on c >>= _ = read.on c >>= _
  congr 1
  funext outcome
  obtain ⟨result, c'⟩ := outcome
  cases result <;> rfl

theorem on_write (c : RpcClient) :
    write.on c = c.channel.writePacket c.packet >>= fun r => .done (r.mapError .link, c) := by
  unfold write
  rw [on_bind, on_get, Prog.done_bind, andThen, on_ofLink]
  rfl

/-- The old connection is closed once there is a new one, and a reply that was under way is over. -/
theorem on_reconnect (c : RpcClient) :
    reconnect.on c = Channel.connect c.endpoint c.options >>= fun
      | .ok channel => c.channel.close >>= fun _ =>
          .done (.ok (), { c with channel, packet := c.packet.clearMore })
      | .error e => .done (.error (.link e), c) := by
  unfold reconnect
  rw [on_bind, on_get, Prog.done_bind, andThen, on_bind, on_ofLink, bind_assoc]
  congr 1
  funext result
  cases result with
  | error e => rfl
  | ok channel =>
    show Calling.on (_ >>= _) c = _
    rw [on_bind, on_lift, bind_assoc]
    rfl

theorem on_prepare (protocol command index : UInt16) (c : RpcClient) :
    (prepare protocol command index).on c
      = .done (.ok (), c.edit (·.prepare protocol command index)) := rfl

theorem on_modifyPacket (change : Packet → Packet) (c : RpcClient) :
    (modifyPacket change).on c = .done (.ok (), c.edit change) := rfl

theorem on_fill {change : Packet → Except Failure Packet} {c : RpcClient} {p : Packet}
    (h : change c.packet = .ok p) : (fill change).on c = .done (.ok (), { c with packet := p }) := by
  unfold fill
  rw [on_bind, on_get, Prog.done_bind, andThen, h]
  rfl

/-- What cannot be filled in is not sent. -/
theorem on_fill_error {change : Packet → Except Failure Packet} {c : RpcClient} {e : Failure}
    {t : Calling RpcClient Unit} (h : change c.packet = .error e) :
    (do fill change; t : Calling RpcClient Unit).on c
      = .done (.error (.link (.invalidArgument e.message)), c) := by
  rw [on_bind, fill, on_bind, on_get, Prog.done_bind, andThen, h]
  rfl

section

variable {protocol command index channel : UInt16} {change : Packet → Except Failure Packet}
  {c : RpcClient}

/-- A request that is prepared and filled is called. -/
theorem on_request {p : Packet}
    (written : change { c.packet.prepare protocol command index with channel } = .ok p) :
    Calling.on (do
        prepare protocol command index
        modifyPacket ({ · with channel })
        fill change
        discard call) c
      = call.on { c with packet := p } >>= fun r => .done (r.1.map fun _ => (), r.2) := by
  rw [on_bind, on_prepare, Prog.done_bind, andThen, on_bind, on_modifyPacket, Prog.done_bind, andThen,
    on_bind, on_fill written, Prog.done_bind, andThen, on_discard]
  rfl

theorem on_request_error {e : Failure}
    (refused : change { c.packet.prepare protocol command index with channel } = .error e) :
    Calling.on (do
        prepare protocol command index
        modifyPacket ({ · with channel })
        fill change
        discard call) c
      = .done (.error (.link (.invalidArgument e.message)),
          c.edit fun p => { p.prepare protocol command index with channel }) := by
  rw [on_bind, on_prepare, Prog.done_bind, andThen, on_bind, on_modifyPacket, Prog.done_bind, andThen,
    on_fill_error refused]
  rfl

end

/-- A lookup is a call of the name, and the index is read from the envelope. -/
theorem on_indexByName (protocol command : UInt16) (name : String) (c : RpcClient) :
    (indexByName protocol command name).on c
      = (do fill (·.setName name); discard call : Calling RpcClient Unit).on
          (c.edit (·.prepare protocol command 0)) >>= fun r =>
        .done (r.1.map fun _ => r.2.packet.index, r.2) := by
  have split : indexByName protocol command name = prepare protocol command 0 >>= fun _ =>
      (do fill (·.setName name); discard call : Calling RpcClient Unit) >>= fun _ => do
        return (← get).packet.index := by
    unfold indexByName
    simp only [bind_assoc]
  rw [split, on_bind, on_prepare, Prog.done_bind, andThen, on_bind]
  congr 1
  funext r
  obtain ⟨result, c'⟩ := r
  cases result <;> rfl

end RpcClient

namespace PduClient

variable {α : Type}

/-- A shared client is put down as it is. -/
theorem on_keep {c : PduClient} {cell : CellId} (h : c.home = some cell) :
    keep.on c = ask (.keepPduClient cell c) >>= fun _ => .done (.ok (), c) := by
  unfold keep
  rw [on_bind, on_get, Prog.done_bind, andThen, h]
  exact on_lift _ c

/-- A client of its own is put down nowhere. -/
theorem on_keep_none {c : PduClient} (h : c.home = none) : keep.on c = .done (.ok (), c) := by
  unfold keep
  rw [on_bind, on_get, Prog.done_bind, andThen, h]
  rfl

/-- A client with a connection uses it. -/
theorem on_connected_some {c : PduClient} {rpc : RpcClient} (h : c.rpc = some rpc) :
    connected.on c = .done (.ok rpc, c) := by
  unfold connected
  rw [on_bind, on_get, Prog.done_bind, andThen, h]
  rfl

/-- A client without one connects, and puts itself down before it goes on. -/
theorem on_connected_none {c : PduClient} (h : c.rpc = none) :
    connected.on c = RpcClient.connect c.endpoint c.options c.home >>= fun
      | .ok rpc => keep.on { c with rpc := some rpc } >>= fun
        | (.ok (), c) => .done (.ok rpc, c)
        | (.error e, c) => .done (.error e, c)
      | .error e => .done (.error e, c) := by
  unfold connected
  rw [on_bind, on_get, Prog.done_bind, andThen, h]
  simp only
  rw [on_bind, on_lift, bind_assoc]
  congr 1
  funext result
  cases result with
  | error e => rfl
  | ok rpc =>
    rw [pure_bind, andThen]
    simp only
    rw [on_bind, on_set, Prog.done_bind, andThen, on_bind]
    congr 1
    funext put
    obtain ⟨put, c'⟩ := put
    cases put <;> rfl

theorem on_onConnection (op : Calling RpcClient α) (c : PduClient) :
    (onConnection op).on c = connected.on c >>= fun
      | (.ok rpc, c) => op.on rpc >>= fun r => .done (r.1, { c with rpc := some r.2 })
      | (.error e, c) => .done (.error e, c) := by
  unfold onConnection
  rw [on_bind]
  congr 1
  funext r
  obtain ⟨result, c'⟩ := r
  cases result with
  | error e => rfl
  | ok rpc =>
    rw [andThen, on_bind, on_lift, bind_assoc]
    show op.on rpc >>= _ = op.on rpc >>= _
    congr 1
    funext r
    obtain ⟨result, rpc'⟩ := r
    cases result <;> rfl

/-- After a failure that the server reported, the connection stays. -/
theorem on_request (protocol command channel : UInt16) (change : Packet → Except Failure Packet)
    (c : PduClient) :
    (request protocol command channel change).on c
      = (exchange protocol command channel change).on c >>= fun
        | (.error (.link e), c) => disconnect.run c >>= fun s => .done (.error (.link e), s.2)
        | r => .done r := by
  unfold request
  rw [on_onFailure]
  congr 1
  funext r
  obtain ⟨result, c'⟩ := r
  cases result with
  | ok => rfl
  | error e => cases e <;> rfl

/-- Forgetting closes the connection first, if there is one. -/
theorem run_disconnect (c : PduClient) :
    disconnect.run c = match c.rpc with
      | some rpc => rpc.channel.close >>= fun _ => .done ((), c.forget)
      | none => .done ((), c.forget) := by
  obtain ⟨endpoint, options, name, rpc, index, home⟩ := c
  cases rpc <;> rfl

/-- Reconnecting forgets, puts the client down and connects again. -/
theorem on_reconnect (c : PduClient) :
    reconnect.on c = disconnect.run c >>= fun s =>
      (do keep; discard connected : Calling PduClient Unit).on s.2 := by
  unfold reconnect
  rw [on_bind]
  show Prog.bind (Prog.bind (disconnect.run c) _) _ = Prog.bind _ _
  rw [Prog.bind_assoc]
  rfl

end PduClient

end DeviceRpc
