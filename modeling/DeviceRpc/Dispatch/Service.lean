import DeviceRpc.Device.Health
import DeviceRpc.Packet.Name

/-!
# Services

A service has a protocol and a table of commands. A command either looks a name
up and answers with the index, or acts on an object through its handler. Index 0
in a request means that the object is named; inspection and registration keep
something else where an inline name would be, so they take an index only.

A reply is the request's own packet with its error code set; a failed request
has no payload.
-/

namespace DeviceRpc

/-- What a command does to the object it reaches: the packet afterwards, and why
it failed if it did. -/
abbrev Handler (ω : Type) := ω → Packet → Task (Packet × Except ErrorCode Unit)

/-- A row of a command table. -/
inductive Command (ω : Type) where
  /-- Answer with the index of the name in the request. -/
  | lookup
  | object (handler : Handler ω)

/-- Commands by number, in ascending order. -/
abbrev CommandTable (ω : Type) := List (UInt16 × Command ω)

/-- What a service must know about its objects. -/
class Monitored (ω : Type) where
  inspect : ω → Task (Except ErrorCode Unit)
  monitor : ω → MonitorId

namespace CommandTable

variable {ω : Type}

/-- The table with a row set. -/
def set (number : UInt16) (command : Command ω) : CommandTable ω → CommandTable ω
  | [] => [(number, command)]
  | (n, c) :: rows =>
    if number < n then (number, command) :: (n, c) :: rows
    else if number = n then (number, command) :: rows
    else (n, c) :: set number command rows

/-- The table with a row for an object command. -/
def on (number : UInt16) (handler : Handler ω) (t : CommandTable ω) : CommandTable ω :=
  t.set number (.object handler)

/-- The row of a number. -/
def row? (t : CommandTable ω) (number : UInt16) : Option (Command ω) := t.lookup number

/-- Inspects the object. -/
def inspect [Monitored ω] : Handler ω := fun object p => do
  return (p, ← Monitored.inspect object)

/-- Inspects the object; if that fails, waits for its health as long as the request
says. -/
def register [Monitored ω] : Handler ω := fun object p => do
  match ← Monitored.inspect object with
  | .ok () => return (p, .ok ())
  | .error _ => return (p, ← Health.waitSeconds (Monitored.monitor object) (p.f64 .first))

/-- The commands that every service has. -/
def base [Monitored ω] : CommandTable ω :=
  on Protocol.register register (on Protocol.inspect inspect [])

end CommandTable

/-- A service for objects of a kind. -/
structure Service (ω : Type) where
  name : String
  protocol : UInt16
  table : CommandTable ω

namespace Service

variable {ω : Type}

/-- Whether a command takes an index only. -/
def isSystemCommand (command : UInt16) : Bool :=
  command = Protocol.inspect || command = Protocol.register

/-- The index of the name in a request. -/
def namedIndex (registry : Registry ω) (p : Packet) : Except ErrorCode UInt16 :=
  match p.name with
  | .error e => .error e.code
  | .ok name =>
    match registry.index? name with
    | some index => .ok index
    | none => .error .notFound

/-- The request with the index of the object that it names, if it has none. -/
def addressed (registry : Registry ω) (p : Packet) : Except ErrorCode Packet :=
  if p.index = 0 then (fun index => { p with index }) <$> namedIndex registry p else .ok p

/-- Carries a request out. -/
def handle (s : Service ω) (registry : Registry ω) (p : Packet) :
    Task (Packet × Except ErrorCode Unit) :=
  if p.protocol ≠ s.protocol ∧ p.protocol ≠ Protocol.system then
    return (p, .error .protocolWrong)
  else match s.table.row? p.command with
    | none => return (p, .error .badCommand)
    | some .lookup =>
      match namedIndex registry p with
      | .ok index => return ({ p with index }.clearPayload, .ok ())
      | .error code => return (p, .error code)
    | some (.object handler) =>
      if p.index = 0 ∧ isSystemCommand p.command then return (p, .error .notFound)
      else match addressed registry p with
        | .error code => return (p, .error code)
        | .ok p =>
          match registry.object? p.index with
          | some object => handler object p
          | none => return (p, .error .notFound)

/-- The reply that an outcome makes of a packet. -/
def reply : Packet × Except ErrorCode Unit → Packet
  | (p, .ok ()) => { p with errorCode := 0 }
  | (p, .error code) => { p with errorCode := code.number }.clearPayload

/-- Answers a request. -/
def dispatch (s : Service ω) (registry : Registry ω) (p : Packet) : Task Packet := do
  return reply (← s.handle registry p)

/-- Inspects every object in order, whether or not the others fail. -/
def inspectAll [Monitored ω] (registry : Registry ω) : Task Unit :=
  registry.entries.forM fun (_, object) => discard (Monitored.inspect object)

end Service

end DeviceRpc
