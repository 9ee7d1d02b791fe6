import DeviceRpc.Proofs.Call.Exact
import DeviceRpc.Proofs.Call.Lookup
import DeviceRpc.Proofs.Device.StripHost

/-!
# Failures that show

Zero is the number of a success, and no failure has it: neither those of a link or a dispatcher, nor
those that a relay takes from a reply. So a failed reading can be taken for a reading only if a
device itself answers with a failure of that number. Where no device does (`Host.Frank`), no request
passes a failure off as a reading, whatever it is and whoever it is sent to
(`Host.Frank.showsFailure`). Strips never do, whatever their fault (`Plant.Strips.frank`).
-/

namespace DeviceRpc

/-- A result that is no failure with the number of a success. -/
def Marked {α : Type} (r : Except ErrorCode α) : Prop := ∀ code, r = .error code → code.number ≠ 0

namespace Marked

variable {α β : Type}

theorem ok (a : α) : Marked (.ok a) := by
  intro code failed
  cases failed

theorem error {code : ErrorCode} (h : code.number ≠ 0) :
    Marked (.error code : Except ErrorCode α) := by
  intro code' failed
  cases failed
  exact h

theorem of_error {code : ErrorCode} (h : Marked (.error code : Except ErrorCode β)) :
    Marked (.error code : Except ErrorCode α) := error (h code rfl)

theorem map {r : Except ErrorCode β} (h : Marked r) (f : β → α) : Marked (r.map f) := by
  cases r with
  | error code => exact h.of_error
  | ok b => exact ok _

end Marked

theorem ErrorCode.Numbered.ne_zero {code : ErrorCode} (h : code.Numbered) : code.number ≠ 0 := by
  intro zero
  rw [Numbered, zero] at h
  cases h

theorem LinkFailure.number_ne_zero (e : LinkFailure) : e.code.number ≠ 0 := by
  have numbered : e.code.Numbered := by cases e <;> rfl
  exact numbered.ne_zero

/-! ## Frank devices -/

/-- How a device is to answer: it does not fail a reading with the number of a success. -/
def Act.Frank : (a : Act) → a.Reply → Prop
  | .command _ (.voltage _), r => Marked r
  | .command _ (.current _), r => Marked r
  | _, _ => True

/-- Where devices are frank, what the program comes to is in `Q`. -/
def Frankly {α : Type} (Q : α → Prop) (p : Task α) : Prop :=
  Keeps (fun (_ : Unit) a r _ => a.Frank r) (fun _ _ => True) (fun a _ => Q a) p ()

namespace Frankly

variable {α β : Type} {Q : α → Prop} {R : β → Prop}

theorem done {a : α} (h : Q a) : Frankly Q (.done a) := h

theorem bind {f : β → Task α} {p : Task β} (hp : Frankly R p) (hf : ∀ b, R b → Frankly Q (f b)) :
    Frankly Q (p >>= f) := Keeps.andThen hp fun b _ here => hf b here

theorem ask {a : Act} {P : a.Reply → Prop} (h : ∀ r, a.Frank r → P r) :
    Frankly P (DeviceRpc.ask a) := ⟨trivial, fun r _ hr => h r hr⟩

theorem all (h : ∀ a, Q a) : ∀ p : Task α, Frankly Q p
  | .done a => h a
  | .ask _ next => ⟨trivial, fun r _ _ => all h (next r)⟩

/-- Whatever the first program comes to. -/
theorem after (p : Task β) {f : β → Task α} (hf : ∀ b, Frankly Q (f b)) : Frankly Q (p >>= f) :=
  (all (fun _ => trivial) p).bind fun b _ => hf b

end Frankly

/-! ## Calls -/

/-- Where the calling program fails, the failure has a number. -/
def Calling.Marks {σ α : Type} (t : Calling σ α) : Prop :=
  ∀ s, Frankly (fun r => Marked (r.1.mapError CallFailure.code)) (t.on s)

namespace Calling.Marks

variable {σ α β : Type}

theorem bind {t : Calling σ β} {f : β → Calling σ α} (ht : Calling.Marks t)
    (hf : ∀ b, Calling.Marks (f b)) : Calling.Marks (t >>= f) := by
  intro s
  rw [on_bind]
  refine (ht s).bind fun r marked => ?_
  obtain ⟨result, s'⟩ := r
  cases result with
  | error e => exact .done marked.of_error
  | ok b => exact hf b s'

theorem of_pure (a : α) : Calling.Marks (pure a : Calling σ α) := fun _ => .done (.ok a)

theorem of_get {f : σ → Calling σ α} (hf : ∀ s, Calling.Marks (f s)) :
    Calling.Marks (get >>= f) := by
  intro s
  rw [on_bind]
  exact hf s s

theorem of_modify (f : σ → σ) : Calling.Marks (modify f : Calling σ Unit) :=
  fun _ => .done (.ok ())

theorem of_lift (t : Task α) : Calling.Marks (liftM t : Calling σ α) := by
  intro s
  rw [on_lift]
  exact .after t fun a => .done (.ok a)

theorem of_link (t : Task (Except LinkFailure α)) :
    Calling.Marks (Calling.ofLink t : Calling σ α) := by
  intro s
  rw [on_ofLink]
  refine .after t fun r => .done ?_
  cases r with
  | error e => exact .error e.number_ne_zero
  | ok a => exact .ok a

theorem of_throw (e : LinkFailure) : Calling.Marks (throw (.link e) : Calling σ α) :=
  fun _ => .done (.error e.number_ne_zero)

theorem of_discard {t : Calling σ α} (ht : Calling.Marks t) :
    Calling.Marks (discard t : Calling σ Unit) := by
  intro s
  rw [on_discard]
  refine (ht s).bind fun r marked => .done ?_
  obtain ⟨result, s'⟩ := r
  cases result with
  | error e => exact marked.of_error
  | ok a => exact .ok ()

/-- Whatever is done after a failure, the failure is the same. -/
theorem of_onFailure {t : Calling σ α} {mend : CallFailure → StateT σ Task Unit}
    (ht : Calling.Marks t) : Calling.Marks (Calling.onFailure t mend) := by
  intro s
  rw [on_onFailure]
  refine (ht s).bind fun r marked => ?_
  obtain ⟨result, s'⟩ := r
  cases result with
  | error e => exact .after _ fun s => .done marked
  | ok a => exact .done marked

end Calling.Marks

namespace RpcClient

open Calling (Marks)

theorem fill_marks (change : Packet → Except Failure Packet) : Marks (fill change) := by
  refine .of_get fun c => ?_
  cases change c.packet with
  | error e => exact .of_throw _
  | ok p => exact .of_modify _

/-- A code that is read from a reply is not zero, which would be a success. -/
theorem verdict_marked (packet : Packet) (r : Except LinkFailure Unit) :
    Marked ((verdict packet r).mapError CallFailure.code) := by
  cases r with
  | error e => exact .error e.number_ne_zero
  | ok =>
    unfold verdict
    cases found : ErrorCode.ofNumber? packet.errorCode with
    | none => exact .ok _
    | some code =>
      have numbered : code.Numbered := by
        rw [ErrorCode.Numbered, ErrorCode.number_of_ofNumber? found]
        exact found
      exact .error numbered.ne_zero

theorem read_marks : Marks read := by
  intro c
  rw [on_read]
  refine .after _ fun _ => .after _ fun r => .done ?_
  exact verdict_marked r.1 r.2

theorem call_marks : Marks call := by
  have write : Marks write := .of_get fun _ => .of_link _
  refine .of_onFailure (.of_get fun c => ?_)
  split
  · exact write.bind fun _ => read_marks
  · exact read_marks

theorem indexByName_marks (protocol command : UInt16) (name : String) :
    Marks (indexByName protocol command name) :=
  (Marks.of_modify _).bind fun _ => (fill_marks _).bind fun _ =>
    (Marks.of_discard call_marks).bind fun _ => .of_get fun _ => .of_pure _

end RpcClient

namespace PduClient

open Calling (Marks)

theorem keep_marks : Marks keep := by
  refine .of_get fun c => ?_
  cases c.home with
  | none => exact .of_pure ()
  | some cell => exact .of_lift _

theorem connected_marks : Marks connected := by
  refine .of_get fun c => ?_
  cases c.rpc with
  | some rpc => exact .of_pure rpc
  | none =>
    intro s
    rw [Calling.on_bind, Calling.on_lift, bind_assoc]
    refine Frankly.bind (R := fun r => Marked (r.mapError CallFailure.code)) ?_ fun r marked => ?_
    · refine .after (Channel.connect c.endpoint c.options) fun r => ?_
      cases r with
      | error e => exact .done (.error e.number_ne_zero)
      | ok channel => exact .done (.ok _)
    · rw [pure_bind, Calling.andThen]
      cases r with
      | error e => exact .done marked.of_error
      | ok rpc =>
        exact (Marks.of_modify _).bind (fun _ => keep_marks.bind fun _ => .of_pure rpc) s

theorem onConnection_marks {α : Type} {op : Calling RpcClient α} (h : Marks op) :
    Marks (onConnection op) := by
  intro c
  rw [on_onConnection]
  refine (connected_marks c).bind fun r marked => ?_
  obtain ⟨result, c'⟩ := r
  cases result with
  | error e => exact .done marked.of_error
  | ok rpc => exact (h rpc).bind fun r marked => .done marked

theorem resolve_marks : Marks resolve := by
  refine .of_get fun c => ?_
  split
  · refine (onConnection_marks (RpcClient.indexByName_marks _ _ _)).bind fun index => ?_
    exact (Marks.of_modify _).bind fun _ => keep_marks.bind fun _ => .of_pure index
  · exact .of_pure _

theorem request_marks (protocol command channel : UInt16)
    (change : Packet → Except Failure Packet) : Marks (request protocol command channel change) := by
  refine .of_onFailure (resolve_marks.bind fun index => ?_)
  refine (onConnection_marks ?_).bind fun _ => connected_marks.bind fun rpc => .of_pure _
  exact (Marks.of_modify _).bind fun _ => (Marks.of_modify _).bind fun _ =>
    (RpcClient.fill_marks change).bind fun _ => .of_discard RpcClient.call_marks

theorem reconnect_marks : Marks reconnect := by
  intro c
  rw [on_reconnect]
  exact .after _ fun s => (keep_marks.bind fun _ => .of_discard connected_marks) s.2

end PduClient

/-! ## Readings -/

namespace Driver

variable {α : Type}

/-- A relay fails with the failure of a call. -/
theorem forward_marked (cell : CellId) {op : Calling PduClient α} (h : Calling.Marks op) :
    Frankly Marked (forward cell op) := by
  have under {β : Type} {op : Calling PduClient β} (h : Calling.Marks op) :
      Frankly (fun r => Marked (r.mapError CallFailure.code))
        ((PduClient.transport cell).under op) :=
    .after _ fun c => (h c).bind fun r marked => .after _ fun _ => .done marked
  refine Frankly.bind (R := fun r => Marked (r.mapError CallFailure.code)) ?_
    fun r marked => .done marked
  refine .after _ fun _ => Frankly.bind
    (R := fun r => Marked (r.mapError CallFailure.code)) ?_ fun r marked =>
      .after _ fun _ => .done marked
  refine (under h).bind fun r marked => ?_
  cases r with
  | ok a => exact .done marked
  | error e =>
    simp only
    split
    · refine .after _ fun _ => (under PduClient.reconnect_marks).bind fun r marked => ?_
      cases r with
      | ok => exact under h
      | error e => exact .done marked.of_error
    · exact .done marked

theorem voltage_marked (d : Driver) (channel : UInt16) :
    Frankly Marked (d.perform (.voltage channel)) := by
  cases d with
  | device id => exact .ask fun _ frank => frank
  | relay cell =>
    exact forward_marked cell ((PduClient.request_marks _ _ _ _).bind fun p => .of_pure _)

theorem current_marked (d : Driver) (channel : UInt16) :
    Frankly Marked (d.perform (.current channel)) := by
  cases d with
  | device id => exact .ask fun _ frank => frank
  | relay cell =>
    exact forward_marked cell ((PduClient.request_marks _ _ _ _).bind fun p => .of_pure _)

theorem voltageCurrent_marked (d : Driver) (channel : UInt16) :
    Frankly Marked (d.voltageCurrent channel) := by
  cases d with
  | relay cell =>
    exact forward_marked cell ((PduClient.request_marks _ _ _ _).bind fun p => .of_pure _)
  | device id =>
    refine (voltage_marked (.device id) channel).bind fun r marked => ?_
    cases r with
    | error code => exact .done marked.of_error
    | ok v => exact (current_marked (.device id) channel).bind fun r marked => .done (marked.map _)

end Driver

namespace Pdu

theorem answering_marked {α : Type} {query : Object → Packet → Task (Except ErrorCode α)}
    {write : α → Packet → Packet} (asks : ∀ object p, Frankly Marked (query object p))
    (object : Object) (p : Packet) :
    Frankly (fun r => Marked r.2) (answering query (fun a p => .ok (write a p)) object p) := by
  rw [answering_eq]
  refine (asks object p).bind fun r marked => .done ?_
  cases r with
  | error code => exact marked.of_error
  | ok a => exact .ok ()

/-- A command that leaves readings is answered by a handler whose failures have numbers. -/
theorem reading_row {n : UInt16} (h : ¬ Silent n) :
    ∃ handler, service.table.row? n = some (.object handler) ∧
      ∀ object p, Frankly (fun r => Marked r.2) (handler object p) := by
  have which : n = getVoltage ∨ n = getCurrent ∨ n = getVoltageCurrent := by
    unfold Silent at h
    by_contra other
    exact h ⟨fun same => other (.inl same), fun same => other (.inr (.inl same)),
      fun same => other (.inr (.inr same))⟩
  rcases which with rfl | rfl | rfl
  · exact ⟨readVoltage, rfl, answering_marked fun object p => object.driver.voltage_marked _⟩
  · exact ⟨readCurrent, rfl, answering_marked fun object p => object.driver.current_marked _⟩
  · exact ⟨readVoltageCurrent, rfl,
      answering_marked fun object p => object.driver.voltageCurrent_marked _⟩

/-- A request for a reading fails with a number, wherever it fails. -/
theorem handle_marked (registry : Registry Object) {p : Packet} (h : ¬ Silent p.command) :
    Frankly (fun r => Marked r.2) (service.handle registry p) := by
  obtain ⟨handler, row, marked⟩ := reading_row h
  rw [Service.handle, row]
  split
  · exact .done (.error (by decide))
  · simp only
    split
    · exact .done (.error (by decide))
    · cases addressed : Service.addressed registry p with
      | error code =>
        refine .done (.error (ErrorCode.Numbered.ne_zero ?_))
        unfold Service.addressed at addressed
        split at addressed
        · cases named : Service.namedIndex registry p with
          | error code' =>
            rw [named] at addressed
            cases addressed
            exact Service.namedIndex_numbered named
          | ok index =>
            rw [named] at addressed
            cases addressed
        · cases addressed
      | ok p' =>
        simp only
        cases registry.object? p'.index with
        | none => exact .done (.error (by decide))
        | some object => exact marked object p'

end Pdu

/-! ## Frank nodes -/

/-- From one state of a machine to another, by itself and by what it is asked. -/
inductive Machine.Leads {τ : Type} (M : Machine τ) : τ → τ → Prop where
  | refl {t : τ} : M.Leads t t
  | silent {t t' t'' : τ} (moved : M.silent t t') (rest : M.Leads t' t'') : M.Leads t t''
  | answered {t t' t'' : τ} {a : Act} {r : a.Reply} (answered : M.answers t a r t')
      (rest : M.Leads t' t'') : M.Leads t t''

namespace Host

variable {τ α : Type} {H : Host τ} {t t' : τ}

/-- However the node goes on from here, its devices are frank. -/
def Frank (H : Host τ) (t : τ) : Prop :=
  ∀ t' a r t'', H.machine.Leads t t' → H.machine.answers t' a r t'' → a.Frank r

namespace Frank

/-- With frank devices, a program comes to what it comes to with frank answers. -/
theorem yields (frank : H.Frank t) {Q : α → Prop} {p : Task α} (h : Frankly Q p) {a : α}
    (run : H.machine.Yields p t a t') : Q a := by
  induction run with
  | done => exact h
  | silent moved _ ih => exact ih (fun _ a r _ leads => frank _ a r _ (.silent moved leads)) h
  | ask answered _ ih =>
    refine ih (fun _ a r _ leads => frank _ a r _ (.answered answered leads)) ?_
    exact h.2 _ () (frank _ _ _ _ .refl answered)

/-- No failure is passed off as a reading. -/
theorem showsFailure (frank : H.Frank t) (lawful : H.Lawful) (p : Packet) :
    Pdu.ShowsFailure H.machine H.registry p t := by
  intro r t' run code failed zero
  have kept := yields_outward lawful run (Pdu.handle_outward H.registry p)
  by_contra loud
  exact frank.yields (Pdu.handle_marked H.registry (kept ▸ loud)) run code failed zero

end Frank

end Host

/-! ## Strips -/

namespace Plant

variable {t t' : Plant}

/-- Every device is a strip. -/
def Strips (t : Plant) : Prop := ∀ device ∈ t.devices, ∃ s : Strip, device = .strip s

namespace Strips

/-- A strip fails a reading only where it has no such outlet. -/
theorem perform (h : t.Strips) (d : DeviceId) (c : DeviceCommand) :
    (t.perform d c).1.Strips ∧ (Act.command d c).Frank (t.perform d c).2 := by
  have place {s : Strip} {channel : UInt16} {f : Nat → Binary64} :
      Marked (f <$> s.place? channel) := by
    cases placed : s.place? channel with
    | error code =>
      obtain rfl := Strip.place?_error placed
      exact .error (by decide)
    | ok place => exact .ok _
  unfold Plant.perform
  cases there : t.devices[d]? with
  | none =>
    refine ⟨h, ?_⟩
    cases c with
    | voltage | current => exact .error (by decide)
    | _ => trivial
  | some device =>
    obtain ⟨s, rfl⟩ := h device (List.mem_of_getElem? there)
    constructor
    · intro device mem
      rcases List.mem_or_eq_of_mem_set mem with old | rfl
      · exact h device old
      · exact ⟨_, rfl⟩
    · cases c with
      | voltage | current => exact place
      | _ => trivial

theorem answers (h : t.Strips) {a : Act} {r : a.Reply} (answered : Answers t a r t') :
    t'.Strips ∧ a.Frank r := by
  cases answered with
  | clock => exact ⟨h, trivial⟩
  | does answered =>
    cases a with
    | command d c =>
      cases answered
      exact h.perform d c
    | parts | isHealthy | setHealth =>
      cases answered
      exact ⟨h, trivial⟩
    | awaitHealthy m limit =>
      unfold answer? at answered
      simp only at answered
      split at answered
      · cases answered
        exact ⟨h, trivial⟩
      · obtain ⟨_, -, same⟩ := Option.map_eq_some_iff.mp answered
        cases same
        exact ⟨h, trivial⟩
    | _ => cases answered

theorem leads (leads : machine.Leads t t') (h : t.Strips) : t'.Strips := by
  induction leads with
  | refl => exact h
  | silent moved => cases moved
  | answered answered _ ih => exact ih (h.answers answered).1

theorem frank (h : t.Strips) (registry : Registry Object) : (host registry).Frank t :=
  fun _ _ _ _ leads answered => ((Strips.leads leads h).answers answered).2

end Strips

theorem oneOutlet_strips : oneOutlet.Strips := by
  intro device mem
  exact ⟨_, List.mem_singleton.mp mem⟩

end Plant

end DeviceRpc
