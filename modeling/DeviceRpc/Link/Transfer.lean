import DeviceRpc.Packet.Frame
import DeviceRpc.Program.Act

/-!
# Packets over a connection

A packet is read in two transfers, the header and then the payload that it
announces, and each transfer may take as long as the link's limit says. The
header decides how much is read, so nothing but the length frames the stream.
What arrived of a payload is in the envelope even if the rest never comes; a
header that is not complete leaves the envelope alone. A reader who is given up
leaves the envelope as it then is, so whoever keeps the envelope is told of every
change (`note`).

Reading a request differs in one point: the first byte may take any time, and the
limit of the header starts when it is there.
-/

namespace DeviceRpc

/-- Receives until `want` more bytes are there. Gives what arrived, with the
reason if that is less. -/
def receiveExactly (h : Handle) (limit : Option Instant) (note : Bytes → Task Unit) :
    (want : Nat) → (got : Bytes) → Task (Bytes × Option LinkFailure)
  | 0, got => return (got, none)
  | want + 1, got => do
    match ← ask (.receive h (want + 1) limit) with
    | .bytes first rest => do
      let got := got ++ first :: rest
      note got
      receiveExactly h limit note (want - rest.length) got
    | .ended => return (got, some .closed)
    | .reset => return (got, some .connectionReset)
    | .late => return (got, some .timedOut)
termination_by want => want

namespace Channel

/-- Nobody is told of what arrives. -/
def unnoted {α : Type} (_ : α) : Task Unit := return ()

/-- Receives `n` bytes within the link's limit of one transfer. -/
def transfer (ch : Channel) (n : Nat) (note : Bytes → Task Unit := unnoted) :
    Task (Bytes × Option LinkFailure) := do
  receiveExactly ch.handle (← deadline ch.options.ioTimeout) note n []

/-- Reads the payload that the packet's header announces, unless that is more than
the link accepts. -/
def readPayload (ch : Channel) (p : Packet) (note : Packet → Task Unit := unnoted) :
    Task (Packet × Except LinkFailure Unit) := do
  let n := p.length.toNat
  if n = 0 then return (p, .ok ())
  else if ch.options.maxPayload < n then return (p, .error (.tooLarge n))
  else match p.grow n with
    | .error _ => return (p, .error (.tooLarge n))
    | .ok p =>
      note p
      match ← ch.transfer n fun bs => note (p.poke 0 bs) with
      | (bs, none) => return (p.poke 0 bs, .ok ())
      | (bs, some e) => return (p.poke 0 bs, .error e)

/-- Reads one packet into an envelope. -/
def readPacket (ch : Channel) (p : Packet) (note : Packet → Task Unit := unnoted) :
    Task (Packet × Except LinkFailure Unit) := do
  match ← ch.transfer headerSize with
  | (header, none) => ch.readPayload (p.readHeader header) note
  | (_, some e) => return (p, .error e)

/-- Reads one request into an envelope. -/
def readRequest (ch : Channel) (p : Packet) : Task (Packet × Except LinkFailure Unit) := do
  match ← receiveExactly ch.handle none unnoted 1 [] with
  | (_, some e) => return (p, .error e)
  | (first, none) =>
    match ← ch.transfer (headerSize - 1) with
    | (rest, none) => ch.readPayload (p.readHeader (first ++ rest))
    | (_, some e) => return (p, .error e)

/-- Sends a packet. -/
def writePacket (ch : Channel) (p : Packet) : Task (Except LinkFailure Unit) :=
  ask (.send ch.handle p.frame)

/-- Connects to an endpoint. -/
def connect (endpoint : Endpoint) (options : LinkOptions) : Task (Except LinkFailure Channel) := do
  return (← ask (.dial endpoint)).map fun handle => { handle, options }

/-- Closes the connection. -/
def close (ch : Channel) : Task Unit := ask (.hangUp ch.handle)

end Channel

end DeviceRpc
