import DeviceRpc.Bench.Clients
import DeviceRpc.Bench.Peers
import DeviceRpc.Bench.Transport
import DeviceRpc.Server

/-!
# Work

What each job does. A job that goes on for good, such as serving, does one round
and then becomes the job for the next, so every program here is finite.
-/

namespace DeviceRpc

/-- What an errand does. -/
def Errand.run : Errand → Task Ending
  | .dispatch node p => do
    let reply ← (← ask (.offer node)).dispatch p
    ask (.noteReply reply)
    return .over (.reply reply)
  | .inspect object => return .over (.status (← object.inspect))
  | .inspectAll node => do
    Service.inspectAll (← ask (.offer node)).registry
    let offer ← ask (.offer node)
    let objects ← offer.objects
    return .over (.inspected objects (offer.isReady objects))
  | .wait monitor ns => return .over (.status (← Health.wait monitor ns))
  | .waitSeconds monitor seconds => return .over (.status (← Health.waitSeconds monitor seconds))
  | .rpc cell what => .over <$> what.run cell
  | .pdu cell what => .over <$> what.run cell
  | .raw what => what.run
  | .commandLine arguments => return .over (.printed (← Pdu.CommandLine.run arguments))
  | .outlets object => return .over (.outlets (← object.driver.perform .status))
  | .sleep ms => do
    ask (.sleepUntil ((← ask .now) + ms))
    return .over .done
  | .rehearse cell run ms =>
    return .over (.rehearsed (← (Rehearsal.transport cell).run (Rehearsal.operation run ms)))

/-- A round of a job. -/
def Job.round : Job → Task Ending
  | .serving node listener options => do
    match ← ask (.accept listener) with
    | some h =>
      ask (.spawn (.opening node { handle := h, options }))
      return .become (.serving node listener options)
    | none =>
      ask (.drain node)
      ask (.unlisten listener true)
      return .over .done
  | .opening node channel => do
    ask (.record node .connectionOpened)
    return .become (.connection node channel .empty)
  | .connection node channel p => do
    match ← Server.cycle node channel p with
    | some p => return .become (.connection node channel p)
    | none =>
      ask (.record node .connectionClosed)
      channel.close
      return .over .done
  | .peer _ listener _ [] => do
    ask (.unlisten listener false)
    return .over .done
  | .peer who listener nth (script :: scripts) => do
    match ← ask (.accept listener) with
    | none => return .over .done
    | some h =>
      if scripts = [] then ask (.unlisten listener false)
      ask (.noteConnection who)
      ask (.spawn (.acting who nth h script .empty))
      if scripts = [] then return .over .done
      else return .become (.peer who listener (nth + 1) scripts)
  | .acting who nth h script last => do
    PeerLine.act who nth h script last
    ask (.noteEnd who nth)
    ask (.hangUp h)
    return .over .done
  | .collecting h got => RawErrand.collect h got
  | .errand e => e.run

end DeviceRpc
