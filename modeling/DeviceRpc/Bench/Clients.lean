import DeviceRpc.Bench.Outcome
import DeviceRpc.Pdu.Exchange

/-!
# Errands to clients

What a task does with the client in a cell. Others that want the client wait until
it is put down.
-/

namespace DeviceRpc

namespace RpcErrand

/-- The answer that a result stands for. -/
def answered {α : Type} (f : α → RpcAnswer) : Except CallFailure α → RpcAnswer
  | .ok a => f a
  | .error e => .failed e

/-- Fills the envelope. -/
def filled (f : Filling) (c : RpcClient) : RpcAnswer × RpcClient :=
  match f.apply c.packet with
  | (packet, none) => (.done, { c with packet })
  | (packet, some e) => (.refused e, { c with packet })

/-- Uses a client. -/
def use (what : RpcErrand) (c : RpcClient) : Task (RpcAnswer × RpcClient) := do
  let call {α : Type} (op : Calling RpcClient α) (f : α → RpcAnswer) :
      Task (RpcAnswer × RpcClient) := do
    let (r, c) ← op.run.run c
    return (answered f r, c)
  match what with
  | prepare protocol command index f => return filled f (c.edit (·.prepare protocol command index))
  | fill f => return filled f c
  | .call => call RpcClient.call .part
  | read => call RpcClient.read .part
  | write => call RpcClient.write fun _ => .done
  | reconnect => call RpcClient.reconnect fun _ => .done
  | inspect index => call (RpcClient.inspect index) fun _ => .done
  | register index seconds => call (RpcClient.register index seconds) fun _ => .done
  | lookup protocol command name => call (RpcClient.indexByName protocol command name) .index

/-- Uses the client in a cell, which others have to wait for. -/
def run (cell : CellId) (what : RpcErrand) : Task Outcome := do
  ask (.acquire cell)
  let (a, c) ← what.use (← ask (.rpcClient cell))
  ask (.keepRpcClient cell c)
  ask (.release cell)
  return .rpc a (some c.packet)

end RpcErrand

namespace PduErrand

/-- What a command of the command line is answered with. -/
def perform : Pdu.Command → Calling PduClient PduAnswer
  | .turnOn channel => do PduClient.switch true channel; return .done
  | .turnOff channel => do PduClient.switch false channel; return .done
  | .voltage channel => .reading <$> PduClient.voltage channel
  | .current channel => .reading <$> PduClient.current channel
  | .voltageCurrent channel => do
    let (v, a) ← PduClient.voltageCurrent channel
    return .readings v a
  | .status limit => .bytes <$> PduClient.status limit
  | .channel name => .channel <$> PduClient.channelByName name
  | .inspect => do PduClient.inspect; return .done
  | .register seconds => do PduClient.register seconds; return .done

/-- Uses the client in a cell. -/
def run (cell : CellId) (what : PduErrand) : Task Outcome := do
  ask (.acquire cell)
  let op : Calling PduClient PduAnswer := match what with
    | command c => perform c
    | reconnect => do PduClient.reconnect; return .done
  let (r, c) ← op.run.run (← ask (.pduClient cell))
  ask (.keepPduClient cell c)
  ask (.release cell)
  let answer := match r with
    | .ok a => a
    | .error e => .failed e
  return .pdu answer c.index c.name

end PduErrand

end DeviceRpc
