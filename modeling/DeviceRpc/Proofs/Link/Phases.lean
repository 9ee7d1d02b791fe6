import DeviceRpc.Link.Transfer
import DeviceRpc.Proofs.Packet.Content
import DeviceRpc.Proofs.Program.Keeps

/-!
# Reading in phases

A request is read in two phases: its header, and what the header announces. Of a payload the header
decides everything but the bytes: nothing is received where none is announced or more than the link
accepts (`Channel.readPayload_bare`, `Channel.readPayload_oversize`), and otherwise there is one
more transfer, into an envelope that has room for it (`Channel.readPayload_eq`).
-/

namespace DeviceRpc

open Prog (Runs)

/-- The packet with room for this many trailing bytes. -/
def Packet.roomFor (n : Nat) (p : Packet) : Packet :=
  { p with trailing := Bytes.grow n p.trailing }

namespace Channel

/-- The header of a request. -/
def readHeader (ch : Channel) : Task (Except LinkFailure Bytes) := do
  match ← receiveExactly ch.handle none unnoted 1 [] with
  | (_, some e) => return .error e
  | (first, none) =>
    match ← ch.transfer (headerSize - 1) with
    | (rest, none) => return .ok (first ++ rest)
    | (_, some e) => return .error e

/-- What a transfer into an envelope came to. -/
def received (p : Packet) (r : Bytes × Option LinkFailure) : Packet × Except LinkFailure Unit :=
  (p.poke 0 r.1, r.2.elim (.ok ()) .error)

/-- A request is its header and what that announces. -/
theorem readRequest_eq (ch : Channel) (p : Packet) :
    ch.readRequest p = ch.readHeader >>= fun r =>
      match r with
      | .ok header => ch.readPayload (p.readHeader header)
      | .error e => .done (p, .error e) := by
  unfold readRequest readHeader
  rw [bind_assoc]
  congr 1
  funext r
  obtain ⟨first, failure⟩ := r
  cases failure with
  | some e => rfl
  | none =>
    simp only
    rw [bind_assoc]
    congr 1
    funext r
    obtain ⟨rest, failure⟩ := r
    cases failure <;> rfl

/-- Nothing is received where no payload is announced. -/
theorem readPayload_bare {ch : Channel} {p : Packet} (none : p.length = 0) :
    ch.readPayload p = .done (p, .ok ()) := by
  have zero : p.length.toNat = 0 := by
    rw [none]
    rfl
  unfold readPayload
  exact if_pos zero

/-- Nothing is received of a payload beyond the limit. -/
theorem readPayload_oversize {ch : Channel} {p : Packet}
    (many : ch.options.maxPayload < p.length.toNat) :
    ch.readPayload p = .done (p, .error (.tooLarge p.length.toNat)) := by
  unfold readPayload
  exact (if_neg (Nat.ne_of_gt (Nat.zero_lt_of_lt many))).trans (if_pos many)

/-- A payload within the limit is received where there was made room for it. -/
theorem readPayload_eq {ch : Channel} {p : Packet} (some : p.length ≠ 0)
    (few : p.length.toNat ≤ ch.options.maxPayload) :
    ch.readPayload p = ch.transfer p.length.toNat >>= fun r =>
      .done (received (p.roomFor p.length.toNat) r) := by
  have present : p.length.toNat ≠ 0 := fun zero => some (UInt32.toNat_inj.mp zero)
  unfold readPayload
  rw [if_neg present, if_neg (Nat.not_lt.mpr few),
    Packet.grow_of_lt (Packet.length_lt_memoryLimit _)]
  show Channel.transfer ch _ _ >>= _ = _
  congr 1
  funext r
  obtain ⟨bs, failure⟩ := r
  cases failure <;> rfl

/-! ## Headers that came -/

section

variable {ch : Channel} {p : Packet} {acts : List (Prog.Exchange Act.Reply)} {header : Bytes}

/-- A request without a payload is there once its header is. -/
theorem readRequest_bare (runs : Runs ch.readHeader acts (.ok header))
    (none : (p.readHeader header).length = 0) :
    Runs (ch.readRequest p) acts (p.readHeader header, .ok ()) := by
  rw [readRequest_eq, ← List.append_nil acts]
  refine runs.bind ?_
  show Runs (ch.readPayload (p.readHeader header)) _ _
  rw [readPayload_bare none]
  exact .done _

/-- A request that announces more payload than the link accepts is refused for its header alone. -/
theorem readRequest_oversize (runs : Runs ch.readHeader acts (.ok header))
    (many : ch.options.maxPayload < (p.readHeader header).length.toNat) :
    Runs (ch.readRequest p) acts
      (p.readHeader header, .error (.tooLarge (p.readHeader header).length.toNat)) := by
  rw [readRequest_eq, ← List.append_nil acts]
  refine runs.bind ?_
  show Runs (ch.readPayload (p.readHeader header)) _ _
  rw [readPayload_oversize many]
  exact .done _

end

/-- A piece may be all that is wanted. -/
theorem receiveExactly_piece (h : Handle) (limit : Option Instant) (first : UInt8) (rest : Bytes) :
    Runs (receiveExactly h limit unnoted (rest.length + 1) [])
      [⟨.receive h (rest.length + 1) limit, .bytes first rest⟩] (first :: rest, none) := by
  rw [receiveExactly]
  refine .ask _ ?_
  show Runs (receiveExactly h limit unnoted (rest.length - rest.length) (first :: rest)) _ _
  rw [Nat.sub_self, receiveExactly]
  exact .done _

/-- A header may come in two pieces. -/
theorem readHeader_pieces (h : Handle) (options : LinkOptions) (untimed : options.ioTimeout = none)
    (first second : UInt8) (rest : Bytes) (len : rest.length + 1 = headerSize - 1) :
    Runs (readHeader ⟨h, options⟩)
      [⟨.receive h 1 none, .bytes first []⟩, ⟨.receive h (headerSize - 1) none, .bytes second rest⟩]
      (.ok (first :: second :: rest)) := by
  have transferred : Runs (transfer ⟨h, options⟩ (headerSize - 1))
      [⟨.receive h (headerSize - 1) none, .bytes second rest⟩] (second :: rest, none) := by
    unfold transfer
    simp only [untimed]
    rw [← len]
    exact receiveExactly_piece h none second rest
  exact (receiveExactly_piece h none first []).bind (transferred.bind (.done _))

end Channel

end DeviceRpc
