import DeviceRpc.Bench.RigService
import DeviceRpc.Proofs.Packet.Content
import DeviceRpc.Proofs.Program.Alike

/-!
# Envelopes and commands

A packet is kept in an envelope that has seen other packets, and behind its payload there may stand
what they left. A handler is `Blind` if it does not look there: on two packets with the same content
it asks the same and leaves the same. It does not touch the option word either, where a packet says
that another one follows. Every command of a unit is blind, so a request is answered the same in
whatever envelope it arrives (`Service.dispatch_alike`). So is every command of a rig, and with them
every service that a node can offer (`ServiceKind.service_blind`).
-/

namespace DeviceRpc

open Packet (Same)
open Prog (Alike)

/-- Two replies to requests with this option word that a client cannot tell apart. -/
structure Replies (option : UInt16) (p q : Packet) : Prop where
  same : Same p q
  option : p.option = option

/-- Two outcomes of a handler that a reply cannot tell apart. -/
def Agreed (option : UInt16) (a b : Packet × Except ErrorCode Unit) : Prop :=
  Replies option a.1 b.1 ∧ a.2 = b.2

/-- Two results of writing into a packet that a reply cannot tell apart. -/
inductive Written (option : UInt16) : Except Failure Packet → Except Failure Packet → Prop where
  | ok {p q : Packet} (same : Same p q) (kept : p.option = option) : Written option (.ok p) (.ok q)
  | error (e : Failure) : Written option (.error e) (.error e)

namespace Written

variable {p q : Packet}

theorem setPayload (h : Same p q) (bs : Bytes) :
    Written p.option (p.setPayload bs) (q.setPayload bs) := by
  by_cases small : bs.length < UInt32.size
  · rw [Packet.setPayload_of_lt small, Packet.setPayload_of_lt small]
    exact .ok (h.withPayload small) rfl
  · rw [Packet.setPayload_of_le (Nat.not_lt.mp small), Packet.setPayload_of_le (Nat.not_lt.mp small)]
    exact .error _

theorem setText (h : Same p q) (s : String) : Written p.option (p.setText s) (q.setText s) := by
  unfold Packet.setText
  simp only
  split
  · exact .error _
  · split
    · exact .error _
    · exact .ok (h.withCarrier (.ofBytes (Utf8.encode s))) rfl

theorem clearPayload {option : UInt16} {r r' : Except Failure Packet} (h : Written option r r') :
    Written option (Packet.clearPayload <$> r) (Packet.clearPayload <$> r') := by
  cases h with
  | ok same kept => exact .ok same.clearPayload kept
  | error e => exact .error e

theorem setName (h : Same p q) (s : String) : Written p.option (p.setName s) (q.setName s) := by
  unfold Packet.setName
  by_cases short : (Utf8.encode s).length < carrierSize
  · simp only [if_pos short]
    exact (setText h s).clearPayload
  · simp only [if_neg short]
    exact setPayload h _

end Written

variable {ω : Type}

/-- The handler does not look behind the payload. -/
def Handler.Blind (h : Handler ω) : Prop :=
  ∀ object p q, Same p q → Alike (Agreed p.option) (h object p) (h object q)

namespace CommandTable

/-- Every handler of the table is in `P`. -/
def Each (P : Handler ω → Prop) (t : CommandTable ω) : Prop :=
  ∀ n h, (n, Command.object h) ∈ t → P h

theorem mem_set {number : UInt16} {command : Command ω} {row : UInt16 × Command ω} :
    ∀ {t : CommandTable ω}, row ∈ t.set number command → row = (number, command) ∨ row ∈ t
  | [], h => .inl (List.mem_singleton.mp h)
  | (n, c) :: rows, h => by
    unfold set at h
    split at h
    · exact List.mem_cons.mp h
    · split at h
      · rcases List.mem_cons.mp h with rfl | h
        · exact .inl rfl
        · exact .inr (List.mem_cons_of_mem _ h)
      · rcases List.mem_cons.mp h with rfl | h
        · exact .inr (List.mem_cons_self ..)
        · exact (mem_set h).imp_right (List.mem_cons_of_mem _)

theorem mem_of_row? {t : CommandTable ω} {number : UInt16} {command : Command ω}
    (row : t.row? number = some command) : (number, command) ∈ t := by
  obtain ⟨before, after, rfl, -⟩ := List.lookup_eq_some_iff.mp row
  exact List.mem_append_right _ (List.mem_cons_self ..)

namespace Each

variable {P : Handler ω → Prop} {t : CommandTable ω}

theorem empty : Each P ([] : CommandTable ω) := fun _ _ mem => nomatch mem

theorem on (h : Each P t) (number : UInt16) {handler : Handler ω} (here : P handler) :
    Each P (t.on number handler) := by
  intro n f mem
  rcases mem_set mem with row | mem
  · cases row
    exact here
  · exact h n f mem

theorem lookup (h : Each P t) (number : UInt16) : Each P (t.set number .lookup) := by
  intro n f mem
  rcases mem_set mem with row | mem
  · cases row
  · exact h n f mem

theorem row? (h : Each P t) {number : UInt16} {handler : Handler ω}
    (row : t.row? number = some (.object handler)) : P handler :=
  h number handler (mem_of_row? row)

end Each

theorem base_blind [Monitored ω] : Each Handler.Blind (base : CommandTable ω) := by
  refine (Each.empty.on Protocol.inspect ?_).on Protocol.register ?_
  · intro object p q same
    exact .after _ fun result => .done ⟨⟨same, rfl⟩, rfl⟩
  · intro object p q same
    refine .after _ fun result => ?_
    cases result with
    | ok => exact .done ⟨⟨same, rfl⟩, rfl⟩
    | error =>
      rw [same.f64]
      exact .after _ fun waited => .done ⟨⟨same, rfl⟩, rfl⟩

end CommandTable

/-! ## Services -/

namespace Service

theorem reply_replies {option : UInt16} {a b : Packet × Except ErrorCode Unit}
    (h : Agreed option a b) : Replies option (reply a) (reply b) := by
  obtain ⟨p, result⟩ := a
  obtain ⟨q, result'⟩ := b
  obtain ⟨⟨same, kept⟩, rfl⟩ : Replies option p q ∧ result = result' := h
  cases result with
  | ok => exact ⟨same.withErrorCode 0, kept⟩
  | error code => exact ⟨(same.withErrorCode code.number).clearPayload, kept⟩

theorem namedIndex_same (registry : Registry ω) {p q : Packet} (h : Same p q) :
    namedIndex registry p = namedIndex registry q := by
  rw [namedIndex, namedIndex, h.name]

/-- Whether a name leads anywhere is the same for both, and then both get the same index. -/
theorem addressed_same (registry : Registry ω) {p q : Packet} (h : Same p q) :
    (∃ code, addressed registry p = .error code ∧ addressed registry q = .error code) ∨
      ∃ p' q', Replies p.option p' q' ∧ addressed registry p = .ok p' ∧
        addressed registry q = .ok q' := by
  unfold addressed
  rw [h.index, namedIndex_same registry h]
  by_cases named : q.index = 0
  · rw [if_pos named, if_pos named]
    cases namedIndex registry q with
    | error code => exact .inl ⟨code, rfl, rfl⟩
    | ok index => exact .inr ⟨_, _, ⟨h.withIndex index, rfl⟩, rfl, rfl⟩
  · rw [if_neg named, if_neg named]
    exact .inr ⟨p, q, ⟨h, rfl⟩, rfl, rfl⟩

/-- A service whose commands are blind carries a request out the same in every envelope. -/
theorem handle_alike {s : Service ω} (blind : s.table.Each Handler.Blind) (registry : Registry ω)
    {p q : Packet} (h : Same p q) :
    Alike (Agreed p.option) (s.handle registry p) (s.handle registry q) := by
  have unchanged {result : Except ErrorCode Unit} : Agreed p.option (p, result) (q, result) :=
    ⟨⟨h, rfl⟩, rfl⟩
  rw [handle, handle, h.protocol, h.command, h.index]
  split
  · exact .done unchanged
  · cases row : s.table.row? q.command with
    | none => exact .done unchanged
    | some command =>
      cases command with
      | lookup =>
        simp only [namedIndex_same registry h]
        cases namedIndex registry q with
        | error code => exact .done unchanged
        | ok index =>
          have same := (h.withIndex index).clearPayload
          rw [h.protocol, h.command] at same
          exact .done ⟨⟨same, rfl⟩, rfl⟩
      | object handler =>
        simp only
        split
        · exact .done unchanged
        · rcases addressed_same registry h with ⟨code, hp, hq⟩ | ⟨p', q', same, hp, hq⟩
          · rw [hp, hq]
            exact .done unchanged
          · rw [hp, hq]
            simp only [same.same.index]
            cases registry.object? q'.index with
            | none => exact .done ⟨same, rfl⟩
            | some object =>
              have alike := blind.row? row object p' q' same.same
              rw [same.option] at alike
              exact alike

/-- A service whose commands are blind answers a request the same in every envelope. -/
theorem dispatch_alike {s : Service ω} (blind : s.table.Each Handler.Blind) (registry : Registry ω)
    {p q : Packet} (h : Same p q) :
    Alike (Replies p.option) (s.dispatch registry p) (s.dispatch registry q) :=
  (handle_alike blind registry h).bind fun _ _ agreed => .done (reply_replies agreed)

end Service

/-! ## The commands of units -/

namespace Pdu

theorem answering_blind {α : Type} {query : Object → Packet → Task (Except ErrorCode α)}
    {write : α → Packet → Except Failure Packet}
    (asks : ∀ object p q, Same p q → query object p = query object q)
    (writes : ∀ a p q, Same p q → Written p.option (write a p) (write a q)) :
    Handler.Blind (answering query write) := by
  intro object p q same
  unfold answering
  rw [asks object p q same]
  refine .after _ fun result => ?_
  cases result with
  | error code => exact .done ⟨⟨same, rfl⟩, rfl⟩
  | ok a =>
    have written := writes a p q same
    simp only
    generalize write a p = x at written ⊢
    generalize write a q = y at written ⊢
    cases written with
    | ok same' kept => exact .done ⟨⟨same', kept⟩, rfl⟩
    | error e => exact .done ⟨⟨same, rfl⟩, rfl⟩

/-- The commands of units, by number. -/
theorem table_rows : table = [(turnOn, .object (switch true)), (turnOff, .object (switch false)),
    (getVoltage, .object readVoltage), (getCurrent, .object readCurrent),
    (getVoltageCurrent, .object readVoltageCurrent), (status, .object readStatus),
    (getIndexByName, .lookup), (getChannelByName, .object findChannel),
    (Protocol.inspect, .object CommandTable.inspect),
    (Protocol.register, .object CommandTable.register)] := rfl

/-- The handler of each command of units. -/
inductive Handles : UInt16 → Handler Object → Prop where
  | turnOn : Handles turnOn (switch true)
  | turnOff : Handles turnOff (switch false)
  | voltage : Handles getVoltage readVoltage
  | current : Handles getCurrent readCurrent
  | voltageCurrent : Handles getVoltageCurrent readVoltageCurrent
  | status : Handles status readStatus
  | channelOf : Handles getChannelByName findChannel
  | inspect : Handles Protocol.inspect CommandTable.inspect
  | register : Handles Protocol.register CommandTable.register

theorem handles_of_mem {n : UInt16} {handler : Handler Object}
    (row : (n, .object handler) ∈ table) : Handles n handler := by
  rw [table_rows] at row
  simp only [List.mem_cons, List.not_mem_nil, or_false, Prod.mk.injEq, Command.object.injEq,
    reduceCtorEq, and_false, false_or] at row
  rcases row with ⟨rfl, rfl⟩ | ⟨rfl, rfl⟩ | ⟨rfl, rfl⟩ | ⟨rfl, rfl⟩ | ⟨rfl, rfl⟩ | ⟨rfl, rfl⟩ |
    ⟨rfl, rfl⟩ | ⟨rfl, rfl⟩ | ⟨rfl, rfl⟩
  · exact .turnOn
  · exact .turnOff
  · exact .voltage
  · exact .current
  · exact .voltageCurrent
  · exact .status
  · exact .channelOf
  · exact .inspect
  · exact .register

theorem handles_of_row? {n : UInt16} {handler : Handler Object}
    (row : table.row? n = some (.object handler)) : Handles n handler :=
  handles_of_mem (CommandTable.mem_of_row? row)

theorem table_blind : CommandTable.Each Handler.Blind table := by
  refine (((((((CommandTable.base_blind.on turnOn ?_).on turnOff ?_).on getVoltage ?_).on
    getCurrent ?_).on getVoltageCurrent ?_).on status ?_).on getChannelByName ?_).lookup
      getIndexByName
  · exact answering_blind (fun _ _ _ same => by rw [same.channel]) fun _ _ _ same => .ok same rfl
  · exact answering_blind (fun _ _ _ same => by rw [same.channel]) fun _ _ _ same => .ok same rfl
  · exact answering_blind (fun _ _ _ same => by rw [same.channel])
      fun v _ _ same => .ok (same.setF64 .first v) rfl
  · exact answering_blind (fun _ _ _ same => by rw [same.channel])
      fun a _ _ same => .ok (same.setF64 .first a) rfl
  · exact answering_blind (fun _ _ _ same => by rw [same.channel])
      fun (v, a) _ _ same => .ok ((same.setF64 .first v).setF64 .second a) rfl
  · exact answering_blind (fun _ _ _ _ => rfl) fun bs p q same => by
      rw [same.limit]
      exact .setPayload same _
  · exact answering_blind (fun _ _ _ same => by rw [same.name])
      fun channel _ _ same => .ok (same.withChannel channel).clearPayload rfl

end Pdu

/-! ## The commands of rigs -/

namespace RigHandler

theorem wrote_agreed {p q : Packet} (h : Same p q) {r r' : Except Failure Packet}
    (written : Written p.option r r') : Agreed p.option (wrote p r) (wrote q r') := by
  cases written with
  | ok same kept => exact ⟨⟨same, kept⟩, rfl⟩
  | error e => exact ⟨⟨h, rfl⟩, rfl⟩

theorem run_blind (h : RigHandler) : Handler.Blind h.run := by
  intro object p q same
  cases h with
  | nothing => exact .done ⟨⟨same, rfl⟩, rfl⟩
  | reading => exact .after _ fun x => .done ⟨⟨same.setF64 .first x, rfl⟩, rfl⟩
  | fail code => exact .done ⟨⟨same, rfl⟩, rfl⟩
  | payload bs => exact .done (wrote_agreed same (.setPayload same bs))
  | payloadThenFail bs code =>
    refine .after _ fun x => .done ⟨?_, rfl⟩
    exact (wrote_agreed same (.setPayload (same.setF64 .second x) bs)).1
  | readName =>
    unfold run
    rw [same.name]
    cases q.name with
    | error e => exact .done ⟨⟨same, rfl⟩, rfl⟩
    | ok name => exact .done (wrote_agreed same (.setPayload (same.setF64 .second _) _))
  | writeName name => exact .done (wrote_agreed same (.setName same name))

end RigHandler

theorem Rig.service_blind (r : Rig) : CommandTable.Each Handler.Blind r.service.table := by
  refine List.foldlRecOn _ _ CommandTable.base_blind fun t each row _ => ?_
  cases row with
  | lookup command => exact each.lookup command
  | on command handler => exact each.on command handler.run_blind

/-- The commands of every service that a node can offer are blind. -/
theorem ServiceKind.service_blind (kind : ServiceKind) :
    CommandTable.Each Handler.Blind kind.service.table := by
  cases kind with
  | pdu => exact Pdu.table_blind
  | rig r => exact r.service_blind

end DeviceRpc
