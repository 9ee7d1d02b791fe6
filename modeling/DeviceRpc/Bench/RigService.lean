import DeviceRpc.Bench.Rig
import DeviceRpc.Device.Driver
import DeviceRpc.Pdu.Service

/-!
# The service of a rig

What the handlers of a rig do, and the services that a node can offer.
-/

namespace DeviceRpc

namespace RigHandler

/-- The reading of an object's gauge. -/
def readingOf (o : Object) : Task Binary64 := do
  return (← o.driver.perform (.voltage 0)).toOption.getD .zero

/-- Why a request fails with a code, if it is one. -/
def failing (code : UInt16) : Except ErrorCode Unit :=
  match ErrorCode.ofNumber? code with
  | some code => .error code
  | none => .ok ()

/-- A packet with something written into it, and whether that failed. -/
def wrote (p : Packet) (r : Except Failure Packet) : Packet × Except ErrorCode Unit :=
  match r with
  | .ok p => (p, .ok ())
  | .error e => (p, .error e.code)

/-- What the handler does. -/
def run (h : RigHandler) : Handler Object := fun o p => do
  match h with
  | nothing => return (p, .ok ())
  | reading => return (p.setF64 .first (← readingOf o), .ok ())
  | fail code => return (p, failing code)
  | payload bs => return wrote p (p.setPayload bs)
  | payloadThenFail bs code =>
    let (p, _) := wrote p ((p.setF64 .second (← readingOf o)).setPayload bs)
    return (p, failing code)
  | readName =>
    match p.name with
    | .error e => return (p, .error e.code)
    | .ok name =>
      let bs := Utf8.encode name
      return wrote p ((p.setF64 .second (Binary64.ofRatio bs.length 1)).setPayload bs)
  | writeName name => return wrote p (p.setName name)

end RigHandler

/-- The service of a rig. -/
def Rig.service (r : Rig) : Service Object where
  name := r.name
  protocol := r.protocol
  table := r.rows.foldl
    (fun t row => match row with
      | .lookup command => t.set command .lookup
      | .on command handler => t.on command handler.run)
    CommandTable.base

/-- The service that a node offers. -/
def ServiceKind.service : ServiceKind → Service Object
  | .pdu => Pdu.service
  | .rig r => r.service

namespace Offer

/-- Answers a request to an offered service. -/
def dispatch (o : Offer) (p : Packet) : Task Packet := o.kind.service.dispatch o.registry p

/-- The objects in the order of their indexes. -/
def objects (o : Offer) : Task (List ObjectView) :=
  o.registry.listing.mapM fun (index, name, object) => do
    return { name, index, healthy := ← ask (.isHealthy object.monitor) }

end Offer

end DeviceRpc
