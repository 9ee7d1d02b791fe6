import DeviceRpc.Bench.RigService
import DeviceRpc.Link.Transfer

/-!
# The server

A connection is served one request after the other, each read into the same
envelope and answered with it. Serving ends when the client hangs up, and after a
failure on the link. A request that announces more payload than the server accepts
is answered once, with the code for too little memory and no payload; its payload
is still in the stream, so no later byte can be taken for a request.
-/

namespace DeviceRpc.Server

/-- The answer to a request that announces too much payload. -/
def refusal (p : Packet) : Packet :=
  { p with errorCode := ErrorCode.outOfMemory.number }.clearPayload

/-- Counts a failure on the link. -/
def recordFailure (node : NodeId) (e : LinkFailure) : Task Unit :=
  ask (.record node (.linkFailed e.label))

/-- Dispatches a request that was read, and counts it. -/
def answer (node : NodeId) (p : Packet) : Task Packet := do
  let started ← ask .now
  let reply ← (← ask (.offer node)).dispatch p
  let took := (← ask .now) - started
  ask (.record node (.dispatched p.command reply.errorCode (took * nanosPerMilli)))
  return reply

/-- Serves one request on a connection. Gives the envelope for the next one,
nothing when there is no next one. -/
def cycle (node : NodeId) (ch : Channel) (p : Packet) : Task (Option Packet) := do
  match ← ch.readRequest p with
  | (_, .error .closed) => return none
  | (p, .error (.tooLarge n)) =>
    recordFailure node (.tooLarge n)
    discard (ch.writePacket (refusal p))
    return none
  | (_, .error e) =>
    recordFailure node e
    return none
  | (p, .ok ()) =>
    let reply ← answer node p
    match ← ch.writePacket reply with
    | .ok () => return some reply
    | .error e =>
      recordFailure node e
      return none

end DeviceRpc.Server
