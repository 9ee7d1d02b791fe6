import DeviceRpc.Proofs.Call.Running
import DeviceRpc.Pdu.Service
import DeviceRpc.Proofs.Packet.Carrying
import DeviceRpc.Proofs.Registry

/-!
# Inquiries

The requests that can be passed on from node to node, each with the answer it gets. An inquiry has
two sides. On the server a packet that asks it (`Asked`) is dispatched by asking the object and
writing the answer into the packet (`dispatch_asked`). On the client it is written into an empty
packet (`fill`) and its answer is read from the reply (`read`). The two sides fit: what the client
writes asks the inquiry (`fill_asked`), and what the server writes reads as the answer
(`read_reply`).
-/

namespace DeviceRpc

/-- A code that a number on the wire stands for. -/
def ErrorCode.Numbered (code : ErrorCode) : Prop := ErrorCode.ofNumber? code.number = some code

/-- What a handler that writes its answer into the packet leaves when this is the answer. -/
def Pdu.written {α : Type} (write : α → Packet → Except Failure Packet) (p : Packet) :
    Except ErrorCode α → Packet × Except ErrorCode Unit
  | .error code => (p, .error code)
  | .ok a =>
    match write a p with
    | .ok p => (p, .ok ())
    | .error e => (p, .error e.code)

theorem Pdu.answering_eq {α : Type} (query : Object → Packet → Task (Except ErrorCode α))
    (write : α → Packet → Except Failure Packet) (o : Object) (p : Packet) :
    answering query write o p = query o p >>= fun r => .done (written write p r) := by
  unfold answering
  congr 1
  funext r
  cases r with
  | error code => rfl
  | ok a =>
    simp only [written]
    cases write a p <;> rfl

/-- The packet for the object with this index. -/
def Packet.withIndex (i : UInt16) (p : Packet) : Packet := { p with index := i }

theorem Packet.setPayload_withIndex (p : Packet) (i : UInt16) (bs : Bytes) :
    (p.withIndex i).setPayload bs = withIndex i <$> p.setPayload bs := by
  by_cases small : bs.length < UInt32.size
  · rw [setPayload_of_lt small, setPayload_of_lt small]
    rfl
  · rw [setPayload_of_le (Nat.not_lt.mp small), setPayload_of_le (Nat.not_lt.mp small)]
    rfl

/-- What a request asks of an object. -/
inductive Inquiry where
  | switch (on : Bool) (channel : UInt16)
  | voltage (channel : UInt16)
  | current (channel : UInt16)
  | voltageCurrent (channel : UInt16)
  | status
  | channelOf (name : String)
  | inspect

namespace Inquiry

/-- What an inquiry is answered with. -/
abbrev Answer : Inquiry → Type
  | switch _ _ | inspect => Unit
  | voltage _ | current _ => Binary64
  | voltageCurrent _ => Binary64 × Binary64
  | status => Bytes
  | channelOf _ => UInt16

/-- How an object answers. -/
def ask (o : Object) : (q : Inquiry) → Task (Except ErrorCode q.Answer)
  | switch on channel => o.driver.perform (.switch on channel)
  | voltage channel => o.driver.perform (.voltage channel)
  | current channel => o.driver.perform (.current channel)
  | voltageCurrent channel => o.driver.voltageCurrent channel
  | status => o.driver.perform .status
  | channelOf name => o.driver.perform (.channelOf name)
  | inspect => o.inspect

/-- The answer written into the request. -/
def write : (q : Inquiry) → q.Answer → Packet → Except Failure Packet
  | switch _ _, _, p | inspect, _, p => .ok p
  | voltage _, x, p | current _, x, p => .ok (p.setF64 .first x)
  | voltageCurrent _, (v, a), p => .ok ((p.setF64 .first v).setF64 .second a)
  | status, bs, p => p.setPayload (Pdu.cut p.limit bs)
  | channelOf _, channel, p => .ok { p with channel }.clearPayload

/-! ## As packets -/

def protocol : Inquiry → UInt16
  | inspect => Protocol.system
  | _ => Protocol.pdu

def command : Inquiry → UInt16
  | switch on _ => if on then Pdu.turnOn else Pdu.turnOff
  | voltage _ => Pdu.getVoltage
  | current _ => Pdu.getCurrent
  | voltageCurrent _ => Pdu.getVoltageCurrent
  | status => Pdu.status
  | channelOf _ => Pdu.getChannelByName
  | inspect => Protocol.inspect

/-- The channel of the header, zero for an inquiry about the whole unit. -/
def channel : Inquiry → UInt16
  | switch _ channel | voltage channel | current channel | voltageCurrent channel => channel
  | _ => 0

/-- What else a request carries. -/
def fill : Inquiry → Packet → Except Failure Packet
  | status, p => .ok (p.setLimit 0)
  | channelOf name, p => p.setName name
  | _, p => .ok p

/-- The answer in a reply. -/
def read : (q : Inquiry) → Packet → q.Answer
  | switch _ _, _ | inspect, _ => ()
  | voltage _, p | current _, p => p.f64 .first
  | voltageCurrent _, p => (p.f64 .first, p.f64 .second)
  | status, p => p.payload
  | channelOf _, p => p.channel

/-- The packet asks the inquiry, whatever its protocol. -/
def Asked (p : Packet) : Inquiry → Prop
  | switch on channel => p.command = (switch on channel).command ∧ p.channel = channel
  | voltage channel => p.command = Pdu.getVoltage ∧ p.channel = channel
  | current channel => p.command = Pdu.getCurrent ∧ p.channel = channel
  | voltageCurrent channel => p.command = Pdu.getVoltageCurrent ∧ p.channel = channel
  | status => p.command = Pdu.status
  | channelOf name => p.command = Pdu.getChannelByName ∧ p.name = .ok name
  | inspect => p.command = Protocol.inspect

/-- The reply when this is the answer. -/
def reply (q : Inquiry) (p : Packet) (r : Except ErrorCode q.Answer) : Packet :=
  Service.reply (Pdu.written q.write p r)

/-! ## On the server -/

section

variable {p : Packet} {q : Inquiry}

/-- A packet that asks an inquiry leads to a handler that asks it of the object. -/
theorem row_asked (h : q.Asked p) :
    ∃ handler, Pdu.table.row? p.command = some (.object handler) ∧
      ∀ o, handler o p = q.ask o >>= fun r => .done (Pdu.written q.write p r) := by
  cases q with
  | switch on channel =>
    obtain ⟨command, rfl⟩ := h
    cases on with
    | true => exact ⟨Pdu.switch true, by rw [command]; rfl, fun o => Pdu.answering_eq _ _ o p⟩
    | false => exact ⟨Pdu.switch false, by rw [command]; rfl, fun o => Pdu.answering_eq _ _ o p⟩
  | voltage channel =>
    obtain ⟨command, rfl⟩ := h
    exact ⟨Pdu.readVoltage, by rw [command]; rfl, fun o => Pdu.answering_eq _ _ o p⟩
  | current channel =>
    obtain ⟨command, rfl⟩ := h
    exact ⟨Pdu.readCurrent, by rw [command]; rfl, fun o => Pdu.answering_eq _ _ o p⟩
  | voltageCurrent channel =>
    obtain ⟨command, rfl⟩ := h
    exact ⟨Pdu.readVoltageCurrent, by rw [command]; rfl, fun o => Pdu.answering_eq _ _ o p⟩
  | status =>
    have command : p.command = Pdu.status := h
    exact ⟨Pdu.readStatus, by rw [command]; rfl, fun o => Pdu.answering_eq _ _ o p⟩
  | channelOf name =>
    obtain ⟨command, named⟩ := h
    refine ⟨Pdu.findChannel, by rw [command]; rfl, fun o => ?_⟩
    unfold Pdu.findChannel
    rw [Pdu.answering_eq, named]
    rfl
  | inspect =>
    have command : p.command = Protocol.inspect := h
    refine ⟨CommandTable.inspect, by rw [command]; rfl, fun o => ?_⟩
    show o.inspect >>= _ = o.inspect >>= _
    congr 1
    funext r
    cases r <;> rfl

theorem dispatch_accepted {registry : Registry Object} {o : Object} {handler : Handler Object}
    (protocol : p.protocol = Pdu.service.protocol ∨ p.protocol = Protocol.system)
    (row : Pdu.table.row? p.command = some (.object handler))
    (object : registry.object? p.index = some o) :
    Pdu.service.dispatch registry p = handler o p >>= fun r => .done (Service.reply r) := by
  obtain ⟨_, there⟩ := Registry.object?_eq_some_iff.mp object
  have indexed : p.index ≠ 0 := there.index_ne_zero
  have accepted : ¬ (p.protocol ≠ Pdu.service.protocol ∧ p.protocol ≠ Protocol.system) := by
    intro refused
    obtain ⟨other, notSystem⟩ := refused
    exact protocol.elim other notSystem
  have found : Pdu.service.table.row? p.command = some (.object handler) := row
  unfold Service.dispatch Service.handle
  rw [if_neg accepted, found]
  simp only [indexed, false_and, if_false, Service.addressed, object]
  rfl

/-- A request that reaches an object is answered as the object answers. -/
theorem dispatch_asked {registry : Registry Object} {o : Object} (h : q.Asked p)
    (protocol : p.protocol = Pdu.service.protocol ∨ p.protocol = Protocol.system)
    (object : registry.object? p.index = some o) :
    Pdu.service.dispatch registry p = q.ask o >>= fun r => .done (q.reply p r) := by
  obtain ⟨handler, row, asks⟩ := row_asked h
  rw [dispatch_accepted protocol row object, asks, bind_assoc]
  rfl

end

/-! ## Every request -/

/-- The commands by which inquiries are asked. -/
def commands : List UInt16 :=
  [Pdu.turnOn, Pdu.turnOff, Pdu.getVoltage, Pdu.getCurrent, Pdu.getVoltageCurrent, Pdu.status,
    Pdu.getChannelByName, Protocol.inspect]

theorem command_mem (q : Inquiry) : q.command ∈ commands := by
  cases q with
  | switch on channel => cases on <;> simp only [command, commands, List.mem_cons] <;> simp
  | _ => simp [command, commands]

/-- No inquiry is a lookup. -/
theorem command_ne_lookup (q : Inquiry) : q.command ≠ Pdu.getIndexByName := by
  intro same
  have listed := command_mem q
  rw [same] at listed
  exact absurd listed (by decide)

/-- A packet with such a command asks an inquiry, unless the name in it cannot be read. -/
theorem asked_of_mem {p : Packet} (h : p.command ∈ commands) :
    (∃ q : Inquiry, q.Asked p) ∨
      p.command = Pdu.getChannelByName ∧ ∃ e, p.name = .error e := by
  simp only [commands, List.mem_cons, List.not_mem_nil, or_false] at h
  rcases h with h | h | h | h | h | h | h | h
  · exact .inl ⟨.switch true p.channel, h, rfl⟩
  · exact .inl ⟨.switch false p.channel, h, rfl⟩
  · exact .inl ⟨.voltage p.channel, h, rfl⟩
  · exact .inl ⟨.current p.channel, h, rfl⟩
  · exact .inl ⟨.voltageCurrent p.channel, h, rfl⟩
  · exact .inl ⟨.status, h⟩
  · cases named : p.name with
    | error e => exact .inr ⟨h, e, rfl⟩
    | ok name => exact .inl ⟨.channelOf name, h, named⟩
  · exact .inl ⟨.inspect, h⟩

/-- Where a request goes does not matter to what it asks. -/
theorem asked_withIndex {q : Inquiry} {p : Packet} (h : q.Asked p) (i : UInt16) :
    q.Asked (p.withIndex i) := by
  cases q <;> exact h

theorem reply_withIndex (q : Inquiry) (p : Packet) (i : UInt16) (r : Except ErrorCode q.Answer) :
    q.reply (p.withIndex i) r = (q.reply p r).withIndex i := by
  cases r with
  | error code => rfl
  | ok a =>
    cases q with
    | status =>
      have written : status.write a (p.withIndex i) = Packet.withIndex i <$> status.write a p :=
        Packet.setPayload_withIndex p i (Pdu.cut p.limit a)
      rw [reply, reply, Pdu.written, Pdu.written, written]
      cases status.write a p <;> rfl
    | _ => rfl

/-- A request for an object either asks the object an inquiry, or is refused without asking; which
of the two, and how, does not depend on the object or its index. -/
theorem dispatch_listed {p : Packet} (h : p.command ∈ commands) :
    (∃ q : Inquiry, q.Asked p ∧ ∀ (registry : Registry Object) (i : UInt16) (o : Object),
      registry.object? i = some o →
      Pdu.service.dispatch registry (p.withIndex i)
        = q.ask o >>= fun r => .done ((q.reply p r).withIndex i)) ∨
    ∃ code, ∀ (registry : Registry Object) (i : UInt16) (o : Object), registry.object? i = some o →
      Pdu.service.dispatch registry (p.withIndex i)
        = .done ((Service.reply (p, .error code)).withIndex i) := by
  by_cases protocol : p.protocol = Pdu.service.protocol ∨ p.protocol = Protocol.system
  · rcases asked_of_mem h with ⟨q, asked⟩ | ⟨command, e, unreadable⟩
    · refine .inl ⟨q, asked, fun registry i o object => ?_⟩
      have answered := dispatch_asked (asked_withIndex asked i) protocol object
      simp only [reply_withIndex] at answered
      exact answered
    · refine .inr ⟨e.code, fun registry i o object => ?_⟩
      have row : Pdu.table.row? (p.withIndex i).command = some (.object Pdu.findChannel) := by
        rw [Packet.withIndex, command]
        rfl
      have named : (p.withIndex i).name = .error e := unreadable
      have accepted := dispatch_accepted (p := p.withIndex i) protocol row object
      rw [accepted, Pdu.findChannel, Pdu.answering_eq, named]
      rfl
  · refine .inr ⟨.protocolWrong, fun registry i o object => ?_⟩
    have refused : (p.withIndex i).protocol ≠ Pdu.service.protocol ∧
        (p.withIndex i).protocol ≠ Protocol.system := not_or.mp protocol
    unfold Service.dispatch Service.handle
    rw [if_pos refused]
    rfl

/-! ## On the client -/

/-- The inquiry can be written for a reader with this limit. -/
def Admits (maxPayload : Nat) : Inquiry → Prop
  | channelOf name => ZeroFree name ∧ Packet.Carries maxPayload name
  | _ => True

/-- The operation of a client that makes the inquiry. -/
def call : (q : Inquiry) → Calling PduClient q.Answer
  | switch on channel => PduClient.switch on channel
  | voltage channel => PduClient.voltage channel
  | current channel => PduClient.current channel
  | voltageCurrent channel => PduClient.voltageCurrent channel
  | status => PduClient.status 0
  | channelOf name => PduClient.channelByName name
  | inspect => PduClient.inspect

theorem on_call (q : Inquiry) (c : PduClient) :
    q.call.on c = (PduClient.request q.protocol q.command q.channel q.fill).on c >>= fun r =>
      .done (r.1.map q.read, r.2) := by
  have reads {α : Type} (t : Calling PduClient Packet) (f : Packet → α) :
      (do return f (← t)).on c = t.on c >>= fun r => .done (r.1.map f, r.2) := by
    rw [← Calling.on_map, map_eq_pure_bind]
  cases q with
  | switch on channel => exact Calling.on_discard _ c
  | voltage channel => exact reads _ _
  | current channel => exact reads _ _
  | voltageCurrent channel => exact reads _ _
  | status => exact reads _ _
  | channelOf name => exact reads _ _
  | inspect => exact Calling.on_discard _ c

/-- A client without a request under way writes the inquiry so. -/
def Written (q : Inquiry) (request : Packet) : Prop :=
  ∃ p : Packet, p.protocol = q.protocol ∧ p.command = q.command ∧ p.channel = q.channel ∧
    p.option = 0 ∧ p.length = 0 ∧ q.fill p = .ok request

/-- Filling a packet leaves the scalars of its header alone. -/
theorem fill_like {q : Inquiry} {p p' : Packet} (whole : p.Whole) (h : q.fill p = .ok p') :
    p'.Like p ∧ p'.Whole := by
  cases q with
  | channelOf name => exact Packet.setName_like h
  | _ =>
    cases h
    exact ⟨⟨rfl, rfl, rfl, rfl, rfl⟩, whole⟩

theorem Written.like {q : Inquiry} {request : Packet} (h : q.Written request) :
    request.protocol = q.protocol ∧ request.command = q.command ∧ request.option = 0 ∧
      request.Whole := by
  obtain ⟨p, protocol, command, -, option, empty, filled⟩ := h
  obtain ⟨like, whole⟩ := fill_like (Packet.whole_of_length empty) filled
  exact ⟨like.protocol.trans protocol, like.command.trans command, like.option.trans option, whole⟩

/-- Nothing of the request stands in the way of the answer: no payload of its own where the answer
brings none, and no limit. -/
def Plain (p : Packet) : Inquiry → Prop
  | status => p.limit = 0
  | channelOf _ => True
  | _ => p.length = 0

/-- The answer can be written for a reader with this limit. -/
def Fits (maxPayload : Nat) : (q : Inquiry) → q.Answer → Prop
  | status, bs => bs.length ≤ maxPayload ∧ bs.length < UInt32.size
  | _, _ => True

/-- An answer that reaches a reader with this limit as it was given. -/
def Sound (maxPayload : Nat) (q : Inquiry) : Except ErrorCode q.Answer → Prop
  | .ok a => q.Fits maxPayload a
  | .error code => code.Numbered

theorem read_same (q : Inquiry) {p p' : Packet} (same : Packet.Same p p') : q.read p = q.read p' := by
  cases q with
  | switch on channel => rfl
  | voltage channel => exact same.f64 .first
  | current channel => exact same.f64 .first
  | voltageCurrent channel =>
    show (p.f64 .first, p.f64 .second) = (p'.f64 .first, p'.f64 .second)
    rw [same.f64, same.f64]
  | status => exact same.payload
  | channelOf name => exact same.channel
  | inspect => rfl

/-- What a client writes into an empty packet asks the inquiry. -/
theorem fill_asked {q : Inquiry} {maxPayload : Nat} (admits : q.Admits maxPayload) {p : Packet}
    (command : p.command = q.command) (channel : p.channel = q.channel) (empty : p.length = 0) :
    ∃ p', q.fill p = .ok p' ∧ q.Asked p' ∧ q.Plain p' ∧ p'.Like p ∧ p'.Whole ∧
      p'.length.toNat ≤ maxPayload := by
  have whole := Packet.whole_of_length empty
  have small : p.length.toNat ≤ maxPayload := by
    rw [empty]
    exact Nat.zero_le _
  have like : p.Like p := ⟨rfl, rfl, rfl, rfl, rfl⟩
  cases q with
  | switch on channel' => exact ⟨p, rfl, ⟨command, channel⟩, empty, like, whole, small⟩
  | voltage channel' => exact ⟨p, rfl, ⟨command, channel⟩, empty, like, whole, small⟩
  | current channel' => exact ⟨p, rfl, ⟨command, channel⟩, empty, like, whole, small⟩
  | voltageCurrent channel' => exact ⟨p, rfl, ⟨command, channel⟩, empty, like, whole, small⟩
  | status =>
    exact ⟨p.setLimit 0, rfl, command, Packet.limit_setLimit 0 p, ⟨rfl, rfl, rfl, rfl, rfl⟩, whole,
      small⟩
  | channelOf name =>
    obtain ⟨p', written, named, like', whole', fits⟩ := Packet.setName_name admits.1 admits.2 p
    exact ⟨p', written, ⟨like'.command.trans command, named⟩, trivial, like', whole', fits⟩
  | inspect => exact ⟨p, rfl, command, empty, like, whole, small⟩

/-- An answer that fits is read from the reply as it was given. -/
theorem read_reply {q : Inquiry} {maxPayload : Nat} {p : Packet} (plain : q.Plain p) {a : q.Answer}
    (fits : q.Fits maxPayload a) :
    (q.reply p (.ok a)).errorCode = 0 ∧ q.read (q.reply p (.ok a)) = a ∧
      (q.reply p (.ok a)).length.toNat ≤ maxPayload := by
  have small (empty : p.length = 0) : p.length.toNat ≤ maxPayload := by
    rw [empty]
    exact Nat.zero_le _
  cases q with
  | switch on channel => exact ⟨rfl, rfl, small plain⟩
  | voltage channel => exact ⟨rfl, Packet.f64_setF64 .first a p, small plain⟩
  | current channel => exact ⟨rfl, Packet.f64_setF64 .first a p, small plain⟩
  | voltageCurrent channel =>
    obtain ⟨v, i⟩ := a
    refine ⟨rfl, ?_, small plain⟩
    show (((p.setF64 .first v).setF64 .second i).f64 .first,
      ((p.setF64 .first v).setF64 .second i).f64 .second) = (v, i)
    rw [Packet.f64_first_setF64_second, Packet.f64_setF64, Packet.f64_setF64]
  | status =>
    have unlimited : p.limit = 0 := plain
    have written : p.setPayload (Pdu.cut p.limit a) = .ok (p.withPayload a) := by
      rw [unlimited, Pdu.cut, if_pos rfl, Packet.setPayload_of_lt fits.2]
    have reply : status.reply p (.ok a) = { p.withPayload a with errorCode := 0 } := by
      unfold Inquiry.reply Pdu.written
      simp only [write, written, Service.reply]
    rw [reply]
    refine ⟨rfl, Packet.payload_withPayload fits.2 p, ?_⟩
    show (p.withPayload a).length.toNat ≤ maxPayload
    rw [Packet.length_withPayload fits.2]
    exact fits.1
  | channelOf name => exact ⟨rfl, rfl, Nat.zero_le _⟩
  | inspect => exact ⟨rfl, rfl, small plain⟩

end Inquiry

end DeviceRpc
