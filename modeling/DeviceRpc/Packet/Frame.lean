import DeviceRpc.Packet.Basic

/-!
# Frames

On the wire a packet is its header, thirty-two bytes with the carrier at the
end, and then its payload; every number has its least significant byte first.
Reading a header leaves the trailing bytes alone; reading a whole frame demands
that the payload is as long as the header says.
-/

namespace DeviceRpc.Packet

/-- The thirty-two bytes of the header. -/
def header (p : Packet) : Bytes :=
  Bytes.ofNat 2 p.protocol.toNat ++ Bytes.ofNat 2 p.index.toNat ++ Bytes.ofNat 2 p.command.toNat
    ++ Bytes.ofNat 2 p.option.toNat ++ Bytes.ofNat 2 p.channel.toNat
    ++ Bytes.ofNat 2 p.errorCode.toNat ++ Bytes.ofNat 4 p.length.toNat ++ p.carrier.bytes

@[simp] theorem length_header (p : Packet) : p.header.length = headerSize := by
  simp [header, p.carrier.length_bytes, carrierSize, headerSize]

/-- The packet as it travels. -/
def frame (p : Packet) : Bytes := p.header ++ p.payload

/-- A scalar of a header. -/
def scalarAt (off : Nat) (bs : Bytes) : UInt16 :=
  UInt16.ofNat (Bytes.toNat (Bytes.window off 2 bs))

/-- The packet with its header read from at least thirty-two bytes. -/
def readHeader (bs : Bytes) (p : Packet) : Packet :=
  { p with
    protocol := scalarAt 0 bs
    index := scalarAt 2 bs
    command := scalarAt 4 bs
    option := scalarAt 6 bs
    channel := scalarAt 8 bs
    errorCode := scalarAt 10 bs
    length := UInt32.ofNat (Bytes.toNat (Bytes.window 12 4 bs))
    carrier := .ofBytes (bs.drop carrierSize) }

/-- The packet with its header read from bytes that must be enough. -/
def decodeHeader (bs : Bytes) (p : Packet) : Except Failure Packet :=
  if bs.length < headerSize then
    .error (.decode ("header needs " ++ toString headerSize ++ " bytes, got "
      ++ toString bs.length))
  else .ok (p.readHeader bs)

/-- The packet of a whole frame. -/
def ofFrame (bs : Bytes) : Except Failure Packet := do
  let p ← empty.decodeHeader bs
  let rest := bs.drop headerSize
  if rest.length ≠ p.length.toNat then
    .error (.decode ("frame declares " ++ toString p.length.toNat ++ " payload bytes, carries "
      ++ toString rest.length))
  else return (← p.grow rest.length).poke 0 rest

end DeviceRpc.Packet
