import DeviceRpc.Bench.Outcome
import DeviceRpc.Link.Transfer

/-!
# Peers and bytes by hand

The two ends of a connection that know nothing of services: a peer that follows a
script, and a dialer that sends chunks of bytes and collects what comes back.
-/

namespace DeviceRpc

namespace PeerLine

/-- The limits of a peer's connection. -/
def channel (h : Handle) : Channel := { handle := h, options := {} }

/-- Acts out a script up to its end, or up to a frame that does not come. -/
def act (peer connection : Nat) (h : Handle) : List PeerLine → (last : Packet) → Task Unit
  | [], _ => return ()
  | .read :: rest, last => do
    match ← (channel h).readPacket last with
    | (p, .ok ()) =>
      ask (.noteFrame peer connection p.frame)
      act peer connection h rest p
    | (_, .error _) => return ()
  | .send bs :: rest, last => do
    discard (ask (.send h bs))
    act peer connection h rest last
  | .reply f :: rest, last => do
    discard ((channel h).writePacket (f.apply last.clearPayload).1)
    act peer connection h rest last
  | .sleep ms :: rest, last => do
    ask (.sleepUntil ((← ask .now) + ms))
    act peer connection h rest last
  | .hold :: _, _ => do
    let never ← ask .forever
    nomatch never

end PeerLine

namespace RawErrand

/-- Sends the chunks with a pause between two of them, up to the first that cannot be
sent; an empty one always can. -/
def sendAll (h : Handle) (gap : Nat) : List Bytes → Task Unit
  | [] => return ()
  | chunk :: rest => do
    let sent : Except LinkFailure Unit ←
      if chunk = [] then pure (.ok ()) else ask (.send h chunk)
    match sent with
    | .error _ => return ()
    | .ok () =>
      if rest ≠ [] ∧ gap ≠ 0 then ask (.sleepUntil ((← ask .now) + gap))
      sendAll h gap rest

/-- Connects, sends, and leaves the rest to collecting. -/
def run (what : RawErrand) : Task Ending := do
  match ← ask (.dial what.endpoint) with
  | .error _ => return .over (.received none)
  | .ok h =>
    sendAll h what.gap what.chunks
    if !what.keepOpen then ask (.finish h)
    return .become (.collecting h [])

/-- How much is read at a time. -/
def portion : Nat := 65536

/-- Reads on until the other side closes. -/
def collect (h : Handle) (got : Bytes) : Task Ending := do
  match ← ask (.receive h portion none) with
  | .bytes first rest => return .become (.collecting h (got ++ first :: rest))
  | .ended | .reset | .late =>
    ask (.hangUp h)
    return .over (.received (some got))

end RawErrand

end DeviceRpc
