import DeviceRpc.Bench.Outcome
import DeviceRpc.Device.Scripted
import DeviceRpc.Node.Operations
import DeviceRpc.World.Basic

/-!
# Steps

What a session is told to do, one step after the other, and what it reports. Nodes,
clients and tasks go by name here. An order may have to wait, so a task carries it
out; a deed is done at once.
-/

namespace DeviceRpc

/-- The request of a dispatch. -/
inductive Request where
  | frame (bs : Bytes)
  /-- A packet with room for some trailing bytes, filled. -/
  | filled (capacity : Nat) (f : Filling)
  /-- The last reply, filled again. -/
  | again (f : Filling)

/-- What a task is to be sent out for. -/
inductive Order where
  | dispatch (node : String) (request : Request)
  | inspectAll (node : String)
  | wait (ms : Option Nat)
  | waitSeconds (seconds : Binary64)
  | rpc (id : String) (what : RpcErrand)
  | pdu (id : String) (what : PduErrand)
  | raw (what : RawErrand)
  | commandLine (arguments : List String)
  | sleep (ms : Nat)

/-- What is done at once. -/
inductive Deed where
  -- the first object
  | health
  | setHealth (healthy : Bool)
  /-- Inspect it with these health checks. -/
  | inspect (parts : List UInt16)
  -- the objects of a node
  | objects (node : String)
  | lookup (node : String) (name : String)
  | late (node : String) (name : String) (device : Device)
  | setFault (node : String) (index : UInt16) (fault : Option ErrorCode)
  | setScript (node : String) (index : UInt16) (script : Script)
  | setParts (node : String) (index : UInt16) (parts : List UInt16)
  | outlets (node : String) (index : UInt16)
  -- a node
  | ready (node : String)
  | extra (node : String)
  | drain (node : String)
  | page (node : String) (method path : String)
  | serve (node : String)
  | stop (node : String)
  -- files
  | put (path : String) (kind : FileKind)
  | exists (path : String)
  -- clients and peers
  | connect (id : String) (endpoint : Endpoint) (options : LinkOptions)
  | drop (id : String)
  | newPdu (id : String) (client : PduClient)
  | peer (address : String)

/-- What can be given to a task of its own. -/
inductive Work where
  | order (o : Order)
  | deed (d : Deed)

/-- A step of a session. -/
inductive Step where
  | run (w : Work)
  /-- Start a task under a name. -/
  | spawn (id : String) (w : Work)
  /-- Look whether it is done. -/
  | poll (id : String)
  /-- Wait for it. -/
  | join (id : String)
  /-- Let time pass. -/
  | advance (ms : Nat)

/-- What a step is answered with. -/
inductive Report where
  | nothing
  | done
  /-- The step was given up. -/
  | pending
  | finished (yes : Bool)
  | outcome (o : Outcome)
  | failed (e : Failure)
  | yes (b : Bool)
  | health (healthy : Bool)
  | inspected (status : Except ErrorCode Unit) (checks : Nat) (healthy : Bool)
  /-- How many health checks ran so far. -/
  | checks (n : Nat)
  | objects (views : List ObjectView)
  | index (i : UInt16)
  | outlets (name : String) (reconnects : Nat) (status : Except ErrorCode Bytes)
  | numbers (ns : List (String × Nat))
  | response (r : Response)
  | listening (e : Endpoint)
  | stopped
  | traffic (connections : List PeerLog)

end DeviceRpc
