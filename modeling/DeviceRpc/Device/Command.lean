import DeviceRpc.Bytes
import DeviceRpc.Binary64.Basic

/-!
# Device commands

What a power-distribution unit can be told and asked. Channels count from 1. Each
command has a type of reply; a device answers with a reply or an error code.
-/

namespace DeviceRpc

/-- A command to a device. -/
inductive DeviceCommand where
  /-- Power for the outlet of a channel. -/
  | switch (on : Bool) (channel : UInt16)
  | voltage (channel : UInt16)
  | current (channel : UInt16)
  /-- One byte for each outlet, not zero where it has power. -/
  | status
  /-- The channel of the outlet with a name. -/
  | channelOf (name : String)
  /-- The health check of one of the device's parts. -/
  | probe (part : Nat)
  deriving DecidableEq, Repr

/-- What a command is answered with. -/
abbrev DeviceCommand.Reply : DeviceCommand → Type
  | switch _ _ | probe _ => Unit
  | voltage _ | current _ => Binary64
  | status => Bytes
  | channelOf _ => UInt16

end DeviceRpc
