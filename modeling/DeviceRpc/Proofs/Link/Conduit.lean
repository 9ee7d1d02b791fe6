import Mathlib.Data.List.Forall2
import DeviceRpc.Proofs.Link.Reading
import DeviceRpc.Proofs.Packet.Codec

/-!
# One way of a connection

A `Conduit` has what one side of a connection sent and the other side did not receive yet. Receiving
takes a piece off it, as long as the machine likes, so a conduit stands for every way in which a
network may cut the bytes, and nothing is ever late.

Packets that were written one after the other are read one after the other, into whatever envelope
the reader has, and a reader who is left with a part of a frame is told that the stream has ended
(`Channel.framing`). Reading requests and reading packets come to the same on every stream, because
either takes the header off the stream, whole, before it looks at it (`ends_readPacket_iff`).
-/

namespace DeviceRpc

open Packet (Same fiveZeros)

/-- The other side of the connection. -/
def Handle.across (h : Handle) : Handle := { h with side := h.side.other }

/-- What is on its way to one side of a connection. -/
structure Conduit where
  flow : Bytes
  /-- Whether nothing more is sent. -/
  closed : Bool

namespace Conduit

/-- How the conduit to a side of a connection answers the two sides. -/
inductive Answers (h : Handle) : Conduit → (a : Act) → a.Reply → Conduit → Prop where
  | clock {t : Conduit} (instant : Instant) : Answers h t .now instant t
  | sent {flow bs : Bytes} :
      Answers h ⟨flow, false⟩ (.send h.across bs) (.ok ()) ⟨flow ++ bs, false⟩
  | finished {t : Conduit} : Answers h t (.finish h.across) () { t with closed := true }
  | piece {t : Conduit} {n : Nat} {limit : Option Instant} {first : UInt8} {rest left : Bytes}
      (split : t.flow = first :: rest ++ left) (short : rest.length < max n 1) :
      Answers h t (.receive h n limit) (.bytes first rest) { t with flow := left }
  | ended {t : Conduit} {n : Nat} {limit : Option Instant} (empty : t.flow = [])
      (closed : t.closed = true) : Answers h t (.receive h n limit) .ended t

/-- The conduit to a side of a connection. -/
def machine (h : Handle) : Machine Conduit where
  silent _ _ := False
  answers := Answers h

variable {h : Handle} {options : LinkOptions} {R : Bytes × Option LinkFailure → Conduit → Prop}
  {Q : Packet × Except LinkFailure Unit → Conduit → Prop}

theorem still (t : Conduit) : (machine h).Still t := fun _ => id

theorem reads (h : Handle) (closed : Bool) :
    Reads (machine h) (fun _ => True) h (fun bs t => t = ⟨bs, closed⟩) where
  within _ := trivial
  still _ := still _
  live n limit := by
    rintro rfl
    exact ⟨_, _, .piece rfl (by rw [List.length_nil]; omega)⟩
  chunk := by
    rintro bs _ n limit r t' rfl hr
    cases hr with
    | piece split short => exact .inl ⟨_, _, _, rfl, split, short, rfl⟩
    | ended empty closed =>
      obtain rfl : bs = [] := empty
      exact .inr ⟨rfl, rfl, rfl⟩
  clock_live _ := ⟨0, _, .clock 0⟩
  clock := by
    rintro bs _ r t' rfl hr
    cases hr with
    | clock => rfl

theorem closes (h : Handle) : Closes (machine h) h (fun bs t => t = ⟨bs, true⟩) := by
  rintro _ n limit rfl
  exact ⟨_, _, .ended rfl rfl⟩

/-! ## Reading with nothing to come -/

/-- On a stream that stays open, a transfer does not end before it has what it wants. -/
theorem not_ends_receiveExactly {limit : Option Instant} (want : Nat) :
    ∀ (got flow : Bytes), flow.length < want →
      ¬ Ends (machine h) R (receiveExactly h limit Channel.unnoted want got) ⟨flow, false⟩ := by
  induction want using Nat.strongRecOn with
  | ind want ih =>
    intro got flow short ends
    cases want with
    | zero => exact absurd short (Nat.not_lt_zero _)
    | succ want =>
      unfold receiveExactly at ends
      obtain ⟨r, t, hr, later⟩ := ends.of_request (still _)
      cases hr with
      | @piece _ _ _ first rest left split =>
        obtain rfl : flow = first :: rest ++ left := split
        refine ih (want - rest.length) (by omega) _ left ?_ later
        rw [List.length_append, List.length_cons] at short
        omega
      | ended _ closed => cases closed

theorem not_ends_transfer {n : Nat} {flow : Bytes} (short : flow.length < n) :
    ¬ Ends (machine h) R (Channel.transfer ⟨h, options⟩ n) ⟨flow, false⟩ := by
  intro ends
  obtain ⟨limit, t, rfl, later⟩ :=
    (((reads h false).deadline options.ioTimeout rfl).both ends.of_bind).exists_result
  exact not_ends_receiveExactly n [] flow short later

/-! ## Packets and requests -/

/-- A header that is not there whole is missed by either reader. -/
theorem ends_readPacket_iff_of_short {p : Packet} {flow : Bytes} {closed : Bool}
    (short : flow.length < headerSize) :
    Ends (machine h) Q (Channel.readPacket ⟨h, options⟩ p) ⟨flow, closed⟩ ↔
      Ends (machine h) Q (Channel.readRequest ⟨h, options⟩ p) ⟨flow, closed⟩ := by
  cases closed with
  | true =>
    have packet : Ends (machine h) (fun r t => r = (p, .error .closed) ∧ t = ⟨[], true⟩)
        (Channel.readPacket ⟨h, options⟩ p) ⟨flow, true⟩ :=
      (reads h true).readPacket_noHeader (closes h) short rfl
    have request : Ends (machine h) (fun r t => r = (p, .error .closed) ∧ t = ⟨[], true⟩)
        (Channel.readRequest ⟨h, options⟩ p) ⟨flow, true⟩ :=
      (reads h true).readRequest_noHeader (closes h) short rfl
    exact packet.iff_of_result.trans request.iff_of_result.symm
  | false =>
    refine iff_of_false (fun ends => not_ends_transfer short ends.of_bind) fun ends => ?_
    cases flow with
    | nil => exact not_ends_receiveExactly 1 [] [] Nat.one_pos ends.of_bind
    | cons first rest =>
      have one := (reads h false).receiveExactly Reads.unnoted_harmless none rest 1 [] [first] _
        rfl rfl
      have shortRest : rest.length < headerSize - 1 := by
        rw [List.length_cons] at short
        omega
      exact not_ends_transfer shortRest (one.bind_iff.mp ends).of_bind

/-- Either reader takes a header that is there, and then reads the payload that it announces. -/
theorem ends_header_iff {p : Packet} {header bs : Bytes} {closed : Bool}
    (len : header.length = headerSize) :
    (Ends (machine h) Q (Channel.readPacket ⟨h, options⟩ p) ⟨header ++ bs, closed⟩ ↔
      Ends (machine h) Q (Channel.readPayload ⟨h, options⟩ (p.readHeader header)) ⟨bs, closed⟩) ∧
    (Ends (machine h) Q (Channel.readRequest ⟨h, options⟩ p) ⟨header ++ bs, closed⟩ ↔
      Ends (machine h) Q (Channel.readPayload ⟨h, options⟩ (p.readHeader header))
        ⟨bs, closed⟩) := by
  obtain ⟨first, rest, rfl⟩ : ∃ first rest, header = first :: rest :=
    List.exists_cons_of_length_eq_add_one len
  have restLen : rest.length = headerSize - 1 := by
    rw [← len, List.length_cons, Nat.add_sub_cancel]
  have reads := reads h closed
  have whole : Ends (machine h) (fun r t => r = (first :: rest, none) ∧ t = ⟨bs, closed⟩)
      (Channel.transfer ⟨h, options⟩ (first :: rest).length) ⟨first :: rest ++ bs, closed⟩ :=
    reads.transfer Reads.unnoted_harmless options rfl
  have one := reads.receiveExactly Reads.unnoted_harmless none (rest ++ bs) 1 [] [first] _ rfl rfl
  have others : Ends (machine h) (fun r t => r = (rest, none) ∧ t = ⟨bs, closed⟩)
      (Channel.transfer ⟨h, options⟩ rest.length) ⟨rest ++ bs, closed⟩ :=
    reads.transfer Reads.unnoted_harmless options rfl
  rw [len] at whole
  rw [restLen] at others
  exact ⟨whole.bind_iff, one.bind_iff.trans others.bind_iff⟩

/-- Whatever a reader of packets comes to, a reader of requests comes to, and the other way
round. -/
theorem ends_readPacket_iff {p : Packet} {t : Conduit} :
    Ends (machine h) Q (Channel.readPacket ⟨h, options⟩ p) t ↔
      Ends (machine h) Q (Channel.readRequest ⟨h, options⟩ p) t := by
  obtain ⟨flow, closed⟩ := t
  by_cases short : flow.length < headerSize
  · exact ends_readPacket_iff_of_short short
  · have len : (flow.take headerSize).length = headerSize := by
      rw [List.length_take]
      omega
    have taken := @ends_header_iff h options Q p _ (flow.drop headerSize) closed len
    rw [List.take_append_drop] at taken
    exact taken.1.trans taken.2.symm

end Conduit

/-! ## Many packets -/

/-- Reads so many packets into one envelope, each as the one before it has left it. -/
def readMany (read : Packet → Task (Packet × Except LinkFailure Unit)) :
    (n : Nat) → Packet → Task (List (Packet × Except LinkFailure Unit))
  | 0, _ => return []
  | n + 1, p => do
    let r ← read p
    return r :: (← readMany read n r.1)

/-- Writes packets one after the other, and then nothing more. -/
def Channel.writeAll (ch : Channel) : List Packet → Task (Except LinkFailure Unit)
  | [] => do
    ask (.finish ch.handle)
    return .ok ()
  | p :: ps => do
    match ← ch.writePacket p with
    | .ok () => writeAll ch ps
    | .error e => return .error e

/-- What is on the wire when packets were written one after the other. -/
def wire (packets : List Packet) : Bytes := (packets.map Packet.frame).flatten

theorem wire_cons (p : Packet) (packets : List Packet) :
    wire (p :: packets) = p.frame ++ wire packets := by
  unfold wire
  rw [List.map_cons, List.flatten_cons]

/-- These are the packets, from the first one on, whose frames are complete in the stream. -/
structure CompleteIn (stream : Bytes) (packets delivered : List Packet) : Prop where
  among : delivered <+: packets
  complete : wire delivered <+: stream
  /-- There are no more of them. -/
  all : ∀ more, more <+: packets → wire more <+: stream → more <+: delivered

namespace Conduit

variable {h : Handle} {options : LinkOptions}

theorem ends_readMany_iff {n : Nat} :
    ∀ {Q : List (Packet × Except LinkFailure Unit) → Conduit → Prop} {p : Packet} {t : Conduit},
      Ends (machine h) Q (readMany (Channel.readPacket ⟨h, options⟩ ·) n p) t ↔
        Ends (machine h) Q (readMany (Channel.readRequest ⟨h, options⟩) n p) t := by
  induction n with
  | zero => exact Iff.rfl
  | succ n ih =>
    intro Q p t
    constructor
    · intro ends
      have first := ends_readPacket_iff.mp ends.of_bind
      refine .bind (first.mono (fun _ _ => trivial) fun r u later => ?_)
      exact .bind (ih.mp later.of_bind)
    · intro ends
      have first := ends_readPacket_iff.mpr ends.of_bind
      refine .bind (first.mono (fun _ _ => trivial) fun r u later => ?_)
      exact .bind (ih.mpr later.of_bind)

theorem ends_writeAll (packets : List Packet) : ∀ flow : Bytes,
    Ends (machine h) (fun r t => r = .ok () ∧ t = ⟨flow ++ wire packets, true⟩)
      (Channel.writeAll ⟨h.across, options⟩ packets) ⟨flow, false⟩ := by
  induction packets with
  | nil =>
    intro flow
    refine .request (still _) trivial ⟨_, _, .finished⟩ fun r t hr => ?_
    cases hr with
    | finished =>
      refine .done ⟨rfl, ?_⟩
      rw [wire, List.map_nil, List.flatten_nil, List.append_nil]
  | cons p packets ih =>
    intro flow
    refine .request (still _) trivial ⟨_, _, .sent⟩ fun r t hr => ?_
    cases hr with
    | sent =>
      rw [wire_cons, ← List.append_assoc]
      exact ih (flow ++ p.frame)

/-! ## Frames on the wire -/

/-- A packet that can be written, and read where this is the limit. -/
def Fits (maxPayload : Nat) (p : Packet) : Prop :=
  p.length.toNat ≤ p.capacity ∧ p.length.toNat ≤ maxPayload

/-- What is left of a stream is less than a frame. -/
def Remnant (maxPayload : Nat) (left : Bytes) : Prop :=
  left = [] ∨ ∃ p, Fits maxPayload p ∧ left <+: p.frame ∧ left ≠ p.frame

/-- Some reads gave these packets, and so many after them found that the stream has ended. -/
def Delivers (packets : List Packet) (more : Nat)
    (results : List (Packet × Except LinkFailure Unit)) : Prop :=
  ∃ good bad, results = good ++ bad ∧ bad.length = more ∧
    List.Forall₂ (fun r p => r.2 = .ok () ∧ Same r.1 p) good packets ∧
    ∀ r ∈ bad, r.2 = .error .closed

theorem ends_readRequest_remnant {left : Bytes} (remnant : Remnant options.maxPayload left)
    (envelope : Packet) :
    Ends (machine h) (fun r t => r.2 = .error .closed ∧ t = ⟨[], true⟩)
      (Channel.readRequest ⟨h, options⟩ envelope) ⟨left, true⟩ := by
  have reads := reads h true
  have without (short : left.length < headerSize) :
      Ends (machine h) (fun r t => r.2 = .error .closed ∧ t = ⟨[], true⟩)
        (Channel.readRequest ⟨h, options⟩ envelope) ⟨left, true⟩ :=
    (reads.readRequest_noHeader (closes h) short rfl).mono (fun _ _ => trivial)
      fun _ _ post => ⟨congrArg Prod.snd post.1, post.2⟩
  rcases remnant with rfl | ⟨p, ⟨room, limit⟩, starts, part⟩
  · exact without (Nat.zero_lt_succ 31)
  · by_cases short : left.length < headerSize
    · exact without short
    · -- the header is there, so what is missing is payload
      have header : p.header <+: left := by
        apply List.prefix_of_prefix_length_le (List.prefix_append p.header p.payload) starts
        rw [p.length_header]
        exact Nat.not_lt.mp short
      obtain ⟨bs, rfl⟩ := header
      have payload : bs <+: p.payload := (List.prefix_append_right_inj p.header).mp starts
      have less : bs.length < p.payload.length := by
        refine Nat.lt_of_le_of_ne payload.length_le fun same => part ?_
        rw [Packet.frame, payload.eq_of_length same]
      rw [Packet.whole_of_le room, ← Packet.announced_header] at less
      rw [← Packet.announced_header] at limit
      exact reads.readRequest_noPayload (closes h) p.length_header limit less rfl

/-- Where nothing but a part of a frame is left, every read says that the stream has ended. -/
theorem ends_readMany_remnant (more : Nat) :
    ∀ {left : Bytes} (envelope : Packet), Remnant options.maxPayload left →
      Ends (machine h) (fun results _ => Delivers [] more results)
        (readMany (Channel.readRequest ⟨h, options⟩) more envelope) ⟨left, true⟩ := by
  induction more with
  | zero => exact fun _ _ => .done ⟨[], [], rfl, rfl, .nil, nofun⟩
  | succ more ih =>
    intro left envelope remnant
    refine .bind ((ends_readRequest_remnant remnant envelope).mono (fun _ _ => trivial) ?_)
    rintro r _ ⟨closed, rfl⟩
    refine .bind ((ih r.1 (.inl rfl)).mono (fun _ _ => trivial) ?_)
    rintro _ _ ⟨good, bad, rfl, count, given, failed⟩
    obtain rfl : good = [] := List.forall₂_nil_right_iff.mp given
    refine .done ⟨[], r :: bad, rfl, congrArg Nat.succ count, .nil, ?_⟩
    exact List.forall_mem_cons.mpr ⟨closed, failed⟩

/-- Frames are read one after the other, and then what is left. -/
theorem ends_readMany_wire (more : Nat) {left : Bytes} (remnant : Remnant options.maxPayload left)
    (packets : List Packet) (fit : ∀ p ∈ packets, Fits options.maxPayload p) :
    ∀ envelope, Ends (machine h) (fun results _ => Delivers packets more results)
      (readMany (Channel.readRequest ⟨h, options⟩) (packets.length + more) envelope)
      ⟨wire packets ++ left, true⟩ := by
  induction packets with
  | nil =>
    intro envelope
    rw [List.length_nil, Nat.zero_add]
    exact ends_readMany_remnant more envelope remnant
  | cons p packets ih =>
    intro envelope
    obtain ⟨⟨room, limit⟩, others⟩ := List.forall_mem_cons.mp fit
    have whole := Packet.whole_of_le room
    have first : Ends (machine h)
        (fun r t => r = (envelope.receive p.header p.payload, .ok ()) ∧
          t = ⟨wire packets ++ left, true⟩)
        (Channel.readRequest ⟨h, options⟩ envelope) ⟨wire (p :: packets) ++ left, true⟩ := by
      refine (reads h true).readRequest whole.isFrame (Nat.le_trans (Nat.le_of_eq whole) limit) ?_
      rw [wire_cons, Packet.frame, List.append_assoc, List.append_assoc]
    rw [List.length_cons, Nat.succ_add]
    refine .bind (first.mono (fun _ _ => trivial) ?_)
    rintro _ _ ⟨rfl, rfl⟩
    refine .bind ((ih others _).mono (fun _ _ => trivial) ?_)
    rintro _ _ ⟨good, bad, rfl, count, given, failed⟩
    exact .done ⟨_ :: good, bad, rfl, count, .cons ⟨rfl, Packet.receive_same whole envelope⟩ given,
      failed⟩

/-- A part of what is on the wire is some complete frames and less than one more. -/
theorem exists_completeIn {maxPayload : Nat} :
    ∀ (packets : List Packet), (∀ p ∈ packets, Fits maxPayload p) → ∀ {stream : Bytes},
      stream <+: wire packets → ∃ delivered left, CompleteIn stream packets delivered ∧
        stream = wire delivered ++ left ∧ Remnant maxPayload left := by
  intro packets
  induction packets with
  | nil =>
    intro _ stream part
    obtain rfl : stream = [] := List.prefix_nil.mp part
    refine ⟨[], [], ⟨List.prefix_rfl, List.prefix_rfl, fun more among _ => among⟩, rfl, .inl rfl⟩
  | cons p packets ih =>
    intro fit stream part
    obtain ⟨first, others⟩ := List.forall_mem_cons.mp fit
    rw [wire_cons] at part
    by_cases whole : p.frame <+: stream
    · obtain ⟨rest, rfl⟩ := whole
      obtain ⟨delivered, left, complete, rfl, remnant⟩ :=
        ih others ((List.prefix_append_right_inj _).mp part)
      refine ⟨p :: delivered, left, ⟨?_, ?_, ?_⟩, ?_, remnant⟩
      · exact (List.prefix_cons_inj p).mpr complete.among
      · rw [wire_cons]
        exact (List.prefix_append_right_inj _).mpr complete.complete
      · intro more among written
        cases more with
        | nil => exact List.nil_prefix
        | cons q more =>
          obtain ⟨rfl, tail⟩ := List.cons_prefix_cons.mp among
          rw [wire_cons] at written
          exact (List.prefix_cons_inj q).mpr
            (complete.all more tail ((List.prefix_append_right_inj _).mp written))
      · rw [wire_cons, List.append_assoc]
    · have inside : stream <+: p.frame :=
        (List.prefix_or_prefix_of_prefix part (List.prefix_append ..)).resolve_right whole
      refine ⟨[], stream, ⟨List.nil_prefix, List.nil_prefix, ?_⟩, rfl, ?_⟩
      · intro more among written
        cases more with
        | nil => exact List.nil_prefix
        | cons q more =>
          obtain ⟨rfl, -⟩ := List.cons_prefix_cons.mp among
          rw [wire_cons] at written
          exact absurd ((List.prefix_append ..).trans written) whole
      · refine .inr ⟨p, first, inside, ?_⟩
        rintro rfl
        exact whole List.prefix_rfl

end Conduit

/-- Packets that were written are read as they were, whatever the network makes of the stream and
whatever the envelope was; of a part of the stream, those whose frames are complete are read, and
every later read finds the stream closed. Reading requests ends as reading packets does. -/
theorem Channel.framing (h : Handle) (options : LinkOptions) (packets : List Packet)
    (fit : ∀ p ∈ packets, Conduit.Fits options.maxPayload p) :
    (∀ options', Ends (Conduit.machine h) (fun r t => r = .ok () ∧ t = ⟨wire packets, true⟩)
      (Channel.writeAll ⟨h.across, options'⟩ packets) ⟨[], false⟩) ∧
    (∀ envelope more, Ends (Conduit.machine h)
      (fun results _ => Conduit.Delivers packets more results)
      (readMany (Channel.readPacket ⟨h, options⟩ ·) (packets.length + more) envelope)
      ⟨wire packets, true⟩) ∧
    (∀ stream, stream <+: wire packets → ∃ delivered, CompleteIn stream packets delivered ∧
      ∀ envelope more, Ends (Conduit.machine h)
        (fun results _ => Conduit.Delivers delivered more results)
        (readMany (Channel.readPacket ⟨h, options⟩ ·) (delivered.length + more) envelope)
        ⟨stream, true⟩) ∧
    ∀ n envelope t Q,
      Ends (Conduit.machine h) Q (readMany (Channel.readPacket ⟨h, options⟩ ·) n envelope) t ↔
        Ends (Conduit.machine h) Q (readMany (Channel.readRequest ⟨h, options⟩) n envelope) t := by
  refine ⟨fun _ => Conduit.ends_writeAll packets [], ?_, ?_, ?_⟩
  · intro envelope more
    have all := Conduit.ends_readMany_wire (h := h) more (.inl rfl) packets fit envelope
    rw [List.append_nil] at all
    exact Conduit.ends_readMany_iff.mpr all
  · intro stream part
    obtain ⟨delivered, left, complete, rfl, remnant⟩ := Conduit.exists_completeIn packets fit part
    refine ⟨delivered, complete, fun envelope more => ?_⟩
    have fits : ∀ p ∈ delivered, Conduit.Fits options.maxPayload p :=
      fun p mem => fit p (complete.among.subset mem)
    exact Conduit.ends_readMany_iff.mpr
      (Conduit.ends_readMany_wire more remnant delivered fits envelope)
  · exact fun _ _ _ _ => Conduit.ends_readMany_iff

/-- Two packets are written and read; of the stream without its last byte the first one is. -/
theorem Conduit.framing_twoPackets :
    let h : Handle := ⟨0, .acceptor⟩
    let packets := [fiveZeros, Packet.empty]
    Ends (machine h) (fun r t => r = .ok () ∧ t = ⟨wire packets, true⟩)
      (Channel.writeAll ⟨h.across, {}⟩ packets) ⟨[], false⟩ ∧
    Ends (machine h) (fun results _ => Delivers packets 1 results)
      (readMany (Channel.readPacket ⟨h, {}⟩ ·) 3 Packet.empty) ⟨wire packets, true⟩ ∧
    Ends (machine h) (fun results _ => Delivers [fiveZeros] 1 results)
      (readMany (Channel.readPacket ⟨h, {}⟩ ·) 2 Packet.empty) ⟨(wire packets).take 68, true⟩ := by
  intro h packets
  have size : Packet.empty.capacity = 992 := List.length_replicate
  have fit : ∀ p ∈ packets, Fits 16777216 p := by
    intro p mem
    rcases List.mem_pair.mp mem with rfl | rfl
    · exact ⟨Nat.le_trans (by decide) (Nat.le_of_eq size.symm), by decide⟩
    · exact ⟨Nat.zero_le _, Nat.zero_le _⟩
  obtain ⟨written, whole, part, -⟩ := Channel.framing h {} packets fit
  obtain ⟨delivered, complete, reads⟩ := part _ (List.take_prefix 68 (wire packets))
  have first : [fiveZeros] <+: delivered :=
    complete.all [fiveZeros] (List.prefix_append [_] [_]) (by decide)
  obtain rfl : [fiveZeros] = delivered := by
    refine first.eq_of_length_le ?_
    by_contra more
    have two : delivered = packets := complete.among.eq_of_length_le (Nat.not_le.mp more)
    have long := (two ▸ complete.complete).length_le
    exact absurd long (by decide)
  exact ⟨written {}, whole Packet.empty 1, reads Packet.empty 1⟩

end DeviceRpc
