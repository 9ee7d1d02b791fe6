import DeviceRpc.Packet.Basic
import DeviceRpc.Text.Utf8

/-!
# Names in packets

A name of up to fifteen bytes travels in the carrier, filled up with zeros, and
the packet has no payload; a longer one is the payload, with a zero byte after
it. A reader takes the bytes before the first zero, from the payload if there is
one and else from the carrier.
-/

namespace DeviceRpc.Packet

/-- Why a text does not fit in the carrier. -/
def textTooLong (n : Nat) : Failure :=
  .invalidArgument ("inline string is " ++ toString n ++ " bytes, max "
    ++ toString (carrierSize - 1))

/-- A text in the carrier ends at a zero byte, so it can have none. -/
def textHasZero : Failure := .invalidArgument "inline string contains NUL"

/-- The text in the carrier. -/
def text (p : Packet) : Except Failure String :=
  (Utf8.decode (Bytes.untilZero p.carrier.bytes)).mapError fun fault =>
    .decode ("inline string is not utf-8: " ++ fault.message)

/-- The packet with a text in its carrier. -/
def setText (s : String) (p : Packet) : Except Failure Packet :=
  let bs := Utf8.encode s
  if carrierSize ≤ bs.length then .error (textTooLong bs.length)
  else if bs.contains 0 then .error textHasZero
  else .ok { p with carrier := .ofBytes bs }

/-- The name that the packet carries. -/
def name (p : Packet) : Except Failure String :=
  if p.length = 0 then p.text
  else
    (Utf8.decode (Bytes.untilZero p.payload)).mapError fun fault =>
      .decode ("name is not utf-8: " ++ fault.message)

/-- The packet with this name. -/
def setName (s : String) (p : Packet) : Except Failure Packet :=
  let bs := Utf8.encode s
  if bs.length < carrierSize then clearPayload <$> p.setText s
  else p.setPayload (bs ++ [0])

end DeviceRpc.Packet
