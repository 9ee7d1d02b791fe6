import DeviceRpc.Bench.Errand
import DeviceRpc.Pdu.Front
import DeviceRpc.Program.Act

/-!
# Outcomes

What an errand comes back with, and how a round of a job ends: with an outcome, or
with the job that the task has next.
-/

namespace DeviceRpc

/-- What a client says. -/
inductive RpcAnswer where
  | done
  | part (p : ReplyPart)
  | index (i : UInt16)
  | failed (e : CallFailure)
  | refused (e : Failure)

/-- What the client of a unit says. -/
inductive PduAnswer where
  | done
  | reading (x : Binary64)
  | readings (x y : Binary64)
  | bytes (bs : Bytes)
  | channel (c : UInt16)
  | failed (e : CallFailure)

/-- What an errand comes back with. -/
inductive Outcome where
  | done
  | status (r : Except ErrorCode Unit)
  | reply (p : Packet)
  /-- The objects of a node after an inspection, and whether the node is ready. -/
  | inspected (objects : List ObjectView) (ready : Bool)
  /-- A client's answer, with its envelope where it has one. -/
  | rpc (a : RpcAnswer) (p : Option Packet)
  /-- There is no client of this name. -/
  | noClient (id : String)
  | pdu (a : PduAnswer) (index : UInt16) (name : String)
  /-- What a connection brought, nothing where there was no connection. -/
  | received (bs : Option Bytes)
  | printed (p : Pdu.Printed)
  | outlets (r : Except ErrorCode Bytes)
  | rehearsed (r : Rehearsed)

/-- How a round of a job ends. -/
inductive Ending where
  | over (o : Outcome)
  | become (job : Job)

end DeviceRpc
