/-!
# Protocol numbers

The numbers that clients and servers agree on: the protocols of the services,
the commands that every service knows, the bit that announces another packet,
and the customary ports.
-/

namespace DeviceRpc.Protocol

def serial : UInt16 := 2
def telescope : UInt16 := 3
def log : UInt16 := 4
def aws : UInt16 := 5
def pdu : UInt16 := 6
def sms : UInt16 := 7
def detector : UInt16 := 8

/-- The protocol that every service accepts beside its own. -/
def system : UInt16 := 0xFFFF

/-- The name of a protocol. -/
def name (protocol : UInt16) : String :=
  if protocol = serial then "serial"
  else if protocol = telescope then "telescope"
  else if protocol = log then "log"
  else if protocol = aws then "aws"
  else if protocol = pdu then "pdu"
  else if protocol = sms then "sms"
  else if protocol = detector then "detector"
  else if protocol = system then "system"
  else "unknown"

/-- The command that runs an object's probes. -/
def inspect : UInt16 := 0xFFFE

/-- The command that answers once an object is healthy. -/
def register : UInt16 := 0xFFFF

/-- The option bit of a reply that another one follows. -/
def morePackets : UInt16 := 0x8000

namespace Port

def serial : UInt16 := 12000
def detector : UInt16 := 12001
def telescope : UInt16 := 13000
def aws : UInt16 := 13001
def pdu : UInt16 := 13002
def sms : UInt16 := 13003

end Port

end DeviceRpc.Protocol
