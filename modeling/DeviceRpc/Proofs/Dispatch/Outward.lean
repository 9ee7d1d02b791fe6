import DeviceRpc.Proofs.Device.Driving
import DeviceRpc.Proofs.Server.Feed

/-!
# What dispatching asks

A node has two kinds of connections, those that it accepted and those that it dialed. Carrying out a
request never touches one that was accepted: a device is asked directly, and a relay works on a
client whose connection was dialed. So nothing that dispatching asks is what a server asks for
itself (`Pdu.dispatch_outward`), however the acts are answered; and the reply is always one to the
request's command.

A program is `Outward` if this holds of it. That drivers are is a case of what they ask with any
connections (`Drives.outward`).
-/

namespace DeviceRpc

/-- The client's connection, if it has one, is one that was dialed. -/
def PduClient.Dialed (c : PduClient) : Prop :=
  ∀ rpc, c.rpc = some rpc → rpc.channel.handle.side = .dialer

/-- How an act may be answered: with as many bytes as were asked for, with a connection that was
dialed, with a client that has none but such, with an offer of units. -/
def Act.Allows : (a : Act) → a.Reply → Prop
  | receive _ n _, .bytes _ rest => rest.length < max n 1
  | dial _, .ok h => h.side = .dialer
  | pduClient _, c => c.Dialed
  | offer _, o => o.kind = .pdu
  | _, _ => True

variable {σ α β : Type} {P : α → Prop} {R : β → Prop}

/-- The task asks nothing that a server asks for itself, and comes to a result of `P`. -/
def Outward (P : α → Prop) (p : Task α) : Prop :=
  Keeps (fun (_ : Unit) a r _ => a.Allows r) (fun _ a => ¬ a.IsServing) (fun a _ => P a) p ()

namespace Outward

theorem done {a : α} (h : P a) : Outward P (.done a) := h

theorem mono {Q : α → Prop} (h : ∀ a, P a → Q a) {p : Task α} (hp : Outward P p) : Outward Q p :=
  Keeps.mono (fun _ _ here => here) (fun a _ here => h a here) hp

theorem bind {f : β → Task α} {p : Task β} (hp : Outward R p) (hf : ∀ b, R b → Outward P (f b)) :
    Outward P (p >>= f) := Keeps.andThen hp fun b _ here => hf b here

/-- Asking, and going on with an answer that is allowed. -/
theorem request {a : Act} {f : a.Reply → Task α} (foreign : ¬ a.IsServing)
    (go : ∀ r, a.Allows r → Outward P (f r)) : Outward P (DeviceRpc.ask a >>= f) :=
  Keeps.request foreign fun r _ hr => go r hr

end Outward

/-! ## Drivers and inspections -/

theorem Act.Allows.provides {a : Act} {r : a.Reply} (h : a.Allows r) :
    a.Provides (·.side = .dialer) r := by
  cases a with
  | dial endpoint => cases r <;> exact h
  | pduClient cell => exact h
  | _ => trivial

theorem Act.IsDriving.foreign {a : Act} (h : a.IsDriving (·.side = .dialer)) : ¬ a.IsServing := by
  intro serving
  cases a with
  | receive | send | hangUp => cases h.symm.trans serving
  | _ => first | exact h | exact serving

/-- Who works on dialed connections only asks nothing that a server asks. -/
theorem Drives.outward {p : Task α} (h : Drives (·.side = .dialer) P p) : Outward P p :=
  h.keeps (fun _ _ _ _ => Act.Allows.provides) fun _ _ => Act.IsDriving.foreign

theorem Driver.perform_outward (d : Driver) (c : DeviceCommand) :
    Outward (fun _ => True) (d.perform c) := (d.perform_drives c).outward

theorem Health.waitSeconds_outward (monitor : MonitorId) (seconds : Binary64) :
    Outward (fun _ => True) (Health.waitSeconds monitor seconds) := by
  refine .bind (deadline_drives _).outward fun limit _ => ?_
  exact .request id fun _ _ => .done trivial

theorem Object.inspect_outward (o : Object) : Outward (fun _ => True) o.inspect :=
  o.inspect_keeps (fun _ _ _ _ => Act.Allows.provides) (fun _ _ => Act.IsDriving.foreign)
    (fun _ _ => id) ()

/-! ## Services -/

/-- Whatever object and packet it is given, the handler asks nothing that a server asks, and leaves
the command as it is. -/
def Handler.Outward {ω : Type} (h : Handler ω) : Prop :=
  ∀ object p, DeviceRpc.Outward (fun r => r.1.command = p.command) (h object p)

namespace Service

variable {ω : Type}

theorem reply_command (r : Packet × Except ErrorCode Unit) : (reply r).command = r.1.command := by
  obtain ⟨p, result⟩ := r
  cases result <;> rfl

theorem addressed_command {registry : Registry ω} {p p' : Packet}
    (h : addressed registry p = .ok p') : p'.command = p.command := by
  unfold addressed at h
  split at h
  · cases index : namedIndex registry p with
    | error code =>
      rw [index] at h
      cases h
    | ok index' =>
      rw [index] at h
      cases h
      rfl
  · cases h
    rfl

/-- A request is carried out with nothing asked that a server asks, and its command stays. -/
theorem handle_outward {s : Service ω} (outward : s.table.Each Handler.Outward)
    (registry : Registry ω) (p : Packet) :
    Outward (fun r => r.1.command = p.command) (s.handle registry p) := by
  rw [handle]
  split
  · exact .done rfl
  · cases row : s.table.row? p.command with
    | none => exact .done rfl
    | some command =>
      cases command with
      | lookup =>
        simp only
        cases namedIndex registry p <;> exact .done rfl
      | object handler =>
        simp only
        split
        · exact .done rfl
        · cases resolved : addressed registry p with
          | error code => exact .done rfl
          | ok p' =>
            have kept := addressed_command resolved
            simp only
            cases registry.object? p'.index with
            | none => exact .done kept
            | some object =>
              exact (outward.row? row object p').mono fun _ here => here.trans kept

/-- The reply to a request is one to its command. -/
theorem dispatch_outward {s : Service ω} (outward : s.table.Each Handler.Outward)
    (registry : Registry ω) (p : Packet) :
    Outward (fun d => d.command = p.command) (s.dispatch registry p) :=
  .bind (handle_outward outward registry p) fun r kept => .done ((reply_command r).trans kept)

end Service

namespace Pdu

theorem answering_outward {α : Type} {query : Object → Packet → Task (Except ErrorCode α)}
    {write : α → Packet → Except Failure Packet}
    (asks : ∀ object p, Outward (fun _ => True) (query object p))
    (writes : ∀ a p p', write a p = .ok p' → p'.command = p.command) :
    Handler.Outward (answering query write) := by
  intro object p
  rw [answering_eq]
  refine .bind (asks object p) fun r _ => .done ?_
  cases r with
  | error code => rfl
  | ok a =>
    simp only [written]
    cases result : write a p with
    | error e => rfl
    | ok p' => exact writes a p p' result

theorem table_outward : CommandTable.Each Handler.Outward table := by
  have base : CommandTable.Each Handler.Outward (CommandTable.base : CommandTable Object) := by
    refine (CommandTable.Each.empty.on Protocol.inspect ?_).on Protocol.register ?_
    · exact fun object p => .bind object.inspect_outward fun _ _ => .done rfl
    · intro object p
      refine .bind object.inspect_outward fun r _ => ?_
      cases r with
      | ok => exact .done rfl
      | error code => exact .bind (Health.waitSeconds_outward _ _) fun _ _ => .done rfl
  have performs (command : Packet → DeviceCommand) (object : Object) (p : Packet) :
      Outward (fun _ => True) (object.driver.perform (command p)) :=
    Driver.perform_outward _ _
  have readings {α : Type} {f : α → Packet → Packet} (kept : ∀ a p, (f a p).command = p.command)
      (a : α) (p p' : Packet) (written : .ok (f a p) = (.ok p' : Except Failure Packet)) :
      p'.command = p.command := by
    cases written
    exact kept a p
  refine (((((((base.on turnOn ?_).on turnOff ?_).on getVoltage ?_).on
    getCurrent ?_).on getVoltageCurrent ?_).on status ?_).on getChannelByName ?_).lookup
      getIndexByName
  · exact answering_outward (performs fun p => .switch true p.channel) (readings fun _ _ => rfl)
  · exact answering_outward (performs fun p => .switch false p.channel) (readings fun _ _ => rfl)
  · exact answering_outward (performs fun p => .voltage p.channel) (readings fun _ _ => rfl)
  · exact answering_outward (performs fun p => .current p.channel) (readings fun _ _ => rfl)
  · exact answering_outward (fun object p => (object.driver.voltageCurrent_drives _).outward)
      (readings fun _ _ => rfl)
  · exact answering_outward (performs fun _ => .status) fun _ _ _ written =>
      (Packet.setPayload_like written).1.command
  · refine answering_outward (fun object p => ?_) (readings fun _ _ => rfl)
    cases p.name with
    | error e => exact .done trivial
    | ok name => exact Driver.perform_outward object.driver (.channelOf name)

theorem handle_outward (registry : Registry Object) (p : Packet) :
    Outward (fun r => r.1.command = p.command) (service.handle registry p) :=
  Service.handle_outward table_outward registry p

/-- Dispatching a request to a unit asks nothing that the server asks for itself, and the reply is
one to its command. -/
theorem dispatch_outward (registry : Registry Object) (p : Packet) :
    Outward (fun d => d.command = p.command) (service.dispatch registry p) :=
  Service.dispatch_outward table_outward registry p

end Pdu

end DeviceRpc
