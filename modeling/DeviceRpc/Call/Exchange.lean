import DeviceRpc.Call.Client
import DeviceRpc.Link.Transfer

/-!
# Calls

A call sends the envelope and reads the reply into it; while a reply is under
way it only reads the next packet. Whatever goes wrong ends a reply that is under
way, so the next call sends again. The envelope of a shared client is put down
whenever it changes while a reply is awaited, which is where a task that is given
up leaves it.

**A calling task**, `Calling σ`: a program that works on a client and may fail,
and that keeps the client as it then is when it fails.
-/

namespace DeviceRpc

/-- A program that works on a client and may fail with a call failure. -/
abbrev Calling (σ α : Type) := ExceptT CallFailure (StateT σ Task) α

namespace Calling

variable {σ α : Type}

/-- A step that fails on the link if it fails. -/
def ofLink (t : Task (Except LinkFailure α)) : Calling σ α :=
  show StateT σ Task (Except CallFailure α) from do return (← t).mapError .link

/-- The program with what it does on failure done. -/
def onFailure (t : Calling σ α) (mend : CallFailure → StateT σ Task Unit) : Calling σ α :=
  show StateT σ Task (Except CallFailure α) from do
    match ← t.run with
    | .ok a => return .ok a
    | .error e =>
      mend e
      return .error e

end Calling

namespace RpcClient

/-- Connects a client with an empty envelope. -/
def connect (endpoint : Endpoint) (options : LinkOptions) (home : Option CellId := none) :
    Task (Except CallFailure RpcClient) := do
  match ← Channel.connect endpoint options with
  | .ok channel => return .ok { endpoint, options, channel, home }
  | .error e => return .error (.link e)

/-- Replaces the connection by a new one. A reply that was under way is over; if
there is no new connection, everything stays as it is. -/
def reconnect : Calling RpcClient Unit := do
  let c ← get
  let channel ← Calling.ofLink (Channel.connect c.endpoint c.options)
  c.channel.close
  set { c with channel, packet := c.packet.clearMore }

/-- Edits the envelope. -/
def modifyPacket (change : Packet → Packet) : Calling RpcClient Unit := modify (edit change)

/-- Prepares a request. -/
def prepare (protocol command index : UInt16) : Calling RpcClient Unit :=
  modifyPacket (·.prepare protocol command index)

/-- Sends the envelope. -/
def write : Calling RpcClient Unit := do
  let c ← get
  Calling.ofLink (c.channel.writePacket c.packet)

/-- Puts the envelope down where the client is kept. -/
def note (home : Option CellId) (p : Packet) : Task Unit :=
  match home with
  | some cell => ask (.keepEnvelope cell p)
  | none => return ()

/-- Reads a packet of a reply. -/
def read : Calling RpcClient ReplyPart := do
  let c ← get
  note c.home c.packet
  let (packet, result) ← c.channel.readPacket c.packet (note c.home)
  set { c with packet }
  match result with
  | .error e => throw (.link e)
  | .ok () =>
    match ErrorCode.ofNumber? packet.errorCode with
    | some code => throw (.remote code)
    | none => return if packet.hasMore then .more else .last

/-- Sends the envelope unless a reply is under way, and reads a packet. -/
def call : Calling RpcClient ReplyPart :=
  Calling.onFailure
    (do
      if !(← get).packet.hasMore then write
      read)
    fun _ => modify (edit Packet.clearMore)

/-- Asks the server to inspect an object. -/
def inspect (index : UInt16) : Calling RpcClient Unit := do
  prepare Protocol.system Protocol.inspect index
  discard call

/-- Waits on the server until an object is healthy, for so many seconds. -/
def register (index : UInt16) (seconds : Binary64) : Calling RpcClient Unit := do
  prepare Protocol.system Protocol.register index
  modifyPacket (·.setF64 .first seconds)
  discard call

/-- Writes a part of the envelope that may not fit; nothing is sent then. -/
def fill (change : Packet → Except Failure Packet) : Calling RpcClient Unit := do
  let c ← get
  match change c.packet with
  | .ok packet => set { c with packet }
  | .error e => throw (.link (.invalidArgument e.message))

/-- Looks a name up with a lookup command. -/
def indexByName (protocol command : UInt16) (name : String) : Calling RpcClient UInt16 := do
  prepare protocol command 0
  fill (·.setName name)
  discard call
  return (← get).packet.index

end RpcClient

end DeviceRpc
