import DeviceRpc.Link.Transfer
import DeviceRpc.Proofs.Packet.Content
import DeviceRpc.Proofs.Program.Machine

/-!
# Reading from a stream

A handle `Reads` a stream on a machine if in certain states, told by the bytes that are still to
come, receiving gives a first piece of them, as long as the machine likes but not empty, and nothing
else can happen. Nothing more is known of the machine, so what is shown here holds for both ends of
a connection.

A transfer then gives the bytes it wants, however they were cut, or the reason for less once the
stream has ended. A packet is read from its frame, and what follows the frame is left in the stream.
-/

namespace DeviceRpc

open Packet (IsFrame announced)

/-- Reading a packet once the limit for its header is known. -/
def Channel.readPacketBy (ch : Channel) (p : Packet) (note : Packet → Task Unit)
    (limit : Option Instant) : Task (Packet × Except LinkFailure Unit) := do
  match ← DeviceRpc.receiveExactly ch.handle limit unnoted headerSize [] with
  | (header, none) => ch.readPayload (p.readHeader header) note
  | (_, some e) => return (p, .error e)

theorem Channel.readPacket_eq (ch : Channel) (p : Packet) (note : Packet → Task Unit) :
    ch.readPacket p note = DeviceRpc.deadline ch.options.ioTimeout >>= ch.readPacketBy p note := by
  unfold readPacket transfer
  rw [bind_assoc]
  rfl

variable {τ : Type}

/-- In the states of `S`, a handle has a stream of bytes to read. -/
structure Reads (M : Machine τ) (I : τ → Prop) (h : Handle) (S : Bytes → τ → Prop) : Prop where
  within {bs : Bytes} {t : τ} : S bs t → I t
  still {bs : Bytes} {t : τ} : S bs t → M.Still t
  /-- Where a byte is to come, receiving is answered. -/
  live {b : UInt8} {bs : Bytes} {t : τ} (n : Nat) (limit : Option Instant) :
    S (b :: bs) t → ∃ r t', M.answers t (.receive h n limit) r t'
  /-- It is answered with a first piece, or with the end where nothing is left. -/
  chunk {bs : Bytes} {t : τ} {n : Nat} {limit : Option Instant} {r : Received} {t' : τ} :
    S bs t → M.answers t (.receive h n limit) r t' →
      (∃ first rest left, r = .bytes first rest ∧ bs = first :: rest ++ left ∧
        rest.length < max n 1 ∧ S left t') ∨ (bs = [] ∧ r = .ended ∧ S [] t')
  /-- The clock can be read meanwhile. -/
  clock_live {bs : Bytes} {t : τ} : S bs t → ∃ r t', M.answers t .now r t'
  clock {bs : Bytes} {t : τ} {r : Instant} {t' : τ} :
    S bs t → M.answers t .now r t' → S bs t'

/-- The other side has closed: receiving is answered where nothing is left. -/
def Closes (M : Machine τ) (h : Handle) (S : Bytes → τ → Prop) : Prop :=
  ∀ t n limit, S [] t → ∃ r t', M.answers t (.receive h n limit) r t'

/-- Being told of something leaves the stream as it is. -/
def Harmless {α : Type} (M : Machine τ) (I : τ → Prop) (S : Bytes → τ → Prop)
    (note : α → Task Unit) : Prop :=
  ∀ a bs t, S bs t → EndsWithin M I (fun _ t' => S bs t') (note a) t

namespace Reads

variable {M : Machine τ} {I : τ → Prop} {h : Handle} {S : Bytes → τ → Prop}

theorem unnoted_harmless {α : Type} : Harmless M I S (Channel.unnoted (α := α)) :=
  fun _ _ _ hS => .done hS

variable (reads : Reads M I h S)

include reads

/-! ## Transfers -/

/-- Where enough is to come, a transfer gives just what it wants. -/
theorem receiveExactly {note : Bytes → Task Unit} (harmless : Harmless M I S note)
    (limit : Option Instant) (left : Bytes) :
    ∀ (want : Nat) (got new : Bytes) (t : τ), new.length = want → S (new ++ left) t →
      EndsWithin M I (fun r t' => r = (got ++ new, none) ∧ S left t')
        (DeviceRpc.receiveExactly h limit note want got) t
  | 0, got, new, t, len, hS => by
    obtain rfl := List.eq_nil_of_length_eq_zero len
    unfold DeviceRpc.receiveExactly
    rw [Prog.pure_eq]
    exact .done ⟨by rw [List.append_nil], hS⟩
  | want + 1, got, b :: new, t, len, hS => by
    unfold DeviceRpc.receiveExactly
    refine .request (reads.still hS) (reads.within hS) (reads.live _ _ hS) fun r t' hr => ?_
    rcases reads.chunk hS hr with ⟨first, rest, after, rfl, split, short, hS'⟩ | ⟨empty, -, -⟩
    · have size : rest.length ≤ new.length := by
        rw [List.length_cons] at len
        omega
      -- the piece is a part of what is wanted, never more
      have cut : new = rest ++ new.drop rest.length ∧ after = new.drop rest.length ++ left := by
        rw [List.cons_append, List.cons_append, List.cons.injEq] at split
        have taken : (new ++ left).take rest.length = rest := by rw [split.2, List.take_left]
        have dropped : (new ++ left).drop rest.length = after := by rw [split.2, List.drop_left]
        rw [List.take_append_of_le_length size] at taken
        rw [List.drop_append_of_le_length size] at dropped
        refine ⟨?_, dropped.symm⟩
        conv => lhs; rw [← List.take_append_drop rest.length new, taken]
      have head : b = first := by
        rw [List.cons_append, List.cons_append, List.cons.injEq] at split
        exact split.1
      subst head
      refine .bind ((harmless _ _ _ hS').mono (fun _ ht => ht) fun _ t'' hS'' => ?_)
      rw [cut.2] at hS''
      refine (receiveExactly harmless limit left (want - rest.length) _ _ t'' ?_ hS'').mono
        (fun _ ht => ht) fun r u hr => ⟨?_, hr.2⟩
      · rw [List.length_drop]
        rw [List.length_cons] at len
        omega
      · rw [hr.1, List.append_assoc, List.cons_append, ← cut.1]
    · cases empty
termination_by want => want

/-- Where the stream ends before that, a transfer says so, and gives all that came. -/
theorem receiveExactly_short {note : Bytes → Task Unit} (harmless : Harmless M I S note)
    (closes : Closes M h S) (limit : Option Instant) :
    ∀ (want : Nat) (got bs : Bytes) (t : τ), bs.length < want → S bs t →
      EndsWithin M I (fun r t' => r = (got ++ bs, some .closed) ∧ S [] t')
        (DeviceRpc.receiveExactly h limit note want got) t
  | 0, _, _, _, len, _ => absurd len (Nat.not_lt_zero _)
  | want + 1, got, bs, t, len, hS => by
    have live : ∃ r t', M.answers t (.receive h (want + 1) limit) r t' := by
      cases bs with
      | nil => exact closes _ _ _ hS
      | cons => exact reads.live _ _ hS
    unfold DeviceRpc.receiveExactly
    refine .request (reads.still hS) (reads.within hS) live fun r t' hr => ?_
    rcases reads.chunk hS hr with ⟨first, rest, after, rfl, rfl, -, hS'⟩ | ⟨rfl, rfl, hS'⟩
    · refine .bind ((harmless _ _ _ hS').mono (fun _ ht => ht) fun _ t'' hS'' => ?_)
      have fewer : after.length < want - rest.length := by
        rw [List.length_append, List.length_cons] at len
        omega
      rw [← List.append_assoc]
      exact receiveExactly_short harmless closes limit (want - rest.length) _ after t'' fewer hS''
    · refine .done ⟨?_, hS'⟩
      rw [List.append_nil]
termination_by want => want

/-- Reading the clock for the limit of a transfer changes nothing. -/
theorem deadline (timeout : Option Nat) {bs : Bytes} {t : τ} (hS : S bs t) :
    EndsWithin M I (fun _ t' => S bs t') (DeviceRpc.deadline timeout) t := by
  cases timeout with
  | none => exact .done hS
  | some ms =>
    refine .atRest (reads.still hS) (reads.within hS) (reads.clock_live hS) fun r t' hr => ?_
    exact .done (reads.clock hS hr)

theorem transfer {note : Bytes → Task Unit} (harmless : Harmless M I S note)
    (options : LinkOptions) {new left : Bytes} {t : τ} (hS : S (new ++ left) t) :
    EndsWithin M I (fun r t' => r = (new, none) ∧ S left t')
      (Channel.transfer ⟨h, options⟩ new.length note) t :=
  .bind ((reads.deadline _ hS).mono (fun _ ht => ht) fun limit _ hS' =>
    reads.receiveExactly harmless limit left new.length [] new _ rfl hS')

theorem transfer_short {note : Bytes → Task Unit} (harmless : Harmless M I S note)
    (closes : Closes M h S) (options : LinkOptions) {n : Nat} {bs : Bytes} {t : τ}
    (short : bs.length < n) (hS : S bs t) :
    EndsWithin M I (fun r t' => r = (bs, some .closed) ∧ S [] t')
      (Channel.transfer ⟨h, options⟩ n note) t :=
  .bind ((reads.deadline _ hS).mono (fun _ ht => ht) fun limit _ hS' =>
    reads.receiveExactly_short harmless closes limit n [] bs _ short hS')

/-! ## Payloads -/

/-- A payload that the link accepts is read into the envelope. -/
theorem readPayload {note : Packet → Task Unit} (harmless : Harmless M I S note)
    {options : LinkOptions} {p : Packet} {new left : Bytes} {t : τ}
    (size : new.length = p.length.toNat) (fits : new.length ≤ options.maxPayload)
    (hS : S (new ++ left) t) :
    EndsWithin M I
      (fun r t' => r = ({ p with
        trailing := Bytes.splice 0 new (Bytes.grow new.length p.trailing) }, .ok ()) ∧ S left t')
      (Channel.readPayload ⟨h, options⟩ p note) t := by
  unfold Channel.readPayload
  rw [← size]
  by_cases none : new.length = 0
  · obtain rfl := List.eq_nil_of_length_eq_zero none
    rw [if_pos none]
    refine .done ⟨?_, hS⟩
    rw [List.length_nil, Bytes.grow, Nat.zero_sub, List.replicate_zero, List.append_nil,
      Bytes.splice, List.take_zero, List.nil_append, List.nil_append]
    rfl
  · have room : new.length < Packet.memoryLimit := by
      rw [size]; exact Packet.length_lt_memoryLimit _
    rw [if_neg none, if_neg (Nat.not_lt.mpr fits), Packet.grow_of_lt room]
    refine .bind ((harmless _ _ _ hS).mono (fun _ ht => ht) fun _ t' hS' => ?_)
    refine .bind ((reads.transfer (fun _ => harmless _) options hS').mono
      (fun _ ht => ht) fun r t'' hr => ?_)
    obtain ⟨rfl, hS''⟩ := hr
    exact .done ⟨rfl, hS''⟩

omit reads in
/-- More payload than the link accepts is left in the stream. -/
theorem readPayload_tooLarge {note : Packet → Task Unit} {options : LinkOptions} {p : Packet}
    {bs : Bytes} {t : τ} (large : options.maxPayload < p.length.toNat) (hS : S bs t) :
    EndsWithin M I (fun r t' => r = (p, .error (.tooLarge p.length.toNat)) ∧ S bs t')
      (Channel.readPayload ⟨h, options⟩ p note) t := by
  unfold Channel.readPayload
  rw [if_neg (by omega), if_pos large]
  exact .done ⟨rfl, hS⟩

theorem readPayload_short {note : Packet → Task Unit} (harmless : Harmless M I S note)
    (closes : Closes M h S) {options : LinkOptions} {p : Packet} {bs : Bytes} {t : τ}
    (fits : p.length.toNat ≤ options.maxPayload) (short : bs.length < p.length.toNat)
    (hS : S bs t) :
    EndsWithin M I (fun r t' => r.2 = .error .closed ∧ S [] t')
      (Channel.readPayload ⟨h, options⟩ p note) t := by
  unfold Channel.readPayload
  rw [if_neg (by omega), if_neg (Nat.not_lt.mpr fits),
    Packet.grow_of_lt (Packet.length_lt_memoryLimit _)]
  refine .bind ((harmless _ _ _ hS).mono (fun _ ht => ht) fun _ t' hS' => ?_)
  refine .bind ((reads.transfer_short (fun _ => harmless _) closes options short hS').mono
    (fun _ ht => ht) fun r t'' hr => ?_)
  obtain ⟨rfl, hS''⟩ := hr
  exact .done ⟨rfl, hS''⟩

/-! ## Packets -/

/-- A packet is read from its frame, and the stream behind it is left. -/
theorem readPacketBy {note : Packet → Task Unit} (harmless : Harmless M I S note)
    {options : LinkOptions} {p : Packet} {header payload left : Bytes} {t : τ}
    (frame : IsFrame header payload) (fits : payload.length ≤ options.maxPayload)
    (limit : Option Instant) (hS : S (header ++ (payload ++ left)) t) :
    EndsWithin M I (fun r t' => r = (p.receive header payload, .ok ()) ∧ S left t')
      (Channel.readPacketBy ⟨h, options⟩ p note limit) t := by
  refine .bind ((reads.receiveExactly unnoted_harmless limit _ headerSize [] header t
    frame.length_header hS).mono (fun _ ht => ht) fun r t' hr => ?_)
  obtain ⟨rfl, hS'⟩ := hr
  exact reads.readPayload harmless frame.length_payload fits hS'

/-- Once a header is there, reading a request is reading its payload. -/
theorem readRequest_header {options : LinkOptions} {p : Packet} {header bs : Bytes} {t : τ}
    {Q : Packet × Except LinkFailure Unit → τ → Prop}
    (len : header.length = headerSize) (hS : S (header ++ bs) t)
    (payload : ∀ t', S bs t' →
      EndsWithin M I Q (Channel.readPayload ⟨h, options⟩ (p.readHeader header)) t') :
    EndsWithin M I Q (Channel.readRequest ⟨h, options⟩ p) t := by
  obtain ⟨first, rest, rfl⟩ : ∃ first rest, header = first :: rest :=
    List.exists_cons_of_length_eq_add_one len
  have restLen : headerSize - 1 = rest.length := by
    rw [← len, List.length_cons, Nat.add_sub_cancel]
  unfold Channel.readRequest
  refine .bind ((reads.receiveExactly unnoted_harmless none (rest ++ bs) 1 [] [first] t rfl
    hS).mono (fun _ ht => ht) fun r t' hr => ?_)
  obtain ⟨rfl, hS'⟩ := hr
  rw [restLen]
  refine .bind ((reads.transfer unnoted_harmless options hS').mono (fun _ ht => ht)
    fun r t'' hr => ?_)
  obtain ⟨rfl, hS''⟩ := hr
  exact payload t'' hS''

/-- A request is read from its frame, and the stream behind it is left. -/
theorem readRequest {options : LinkOptions} {p : Packet} {header payload left : Bytes} {t : τ}
    (frame : IsFrame header payload) (fits : payload.length ≤ options.maxPayload)
    (hS : S (header ++ (payload ++ left)) t) :
    EndsWithin M I (fun r t' => r = (p.receive header payload, .ok ()) ∧ S left t')
      (Channel.readRequest ⟨h, options⟩ p) t :=
  reads.readRequest_header frame.length_header hS fun _ hS' =>
    reads.readPayload unnoted_harmless frame.length_payload fits hS'

/-- A request that announces too much is known by its header alone. -/
theorem readRequest_tooLarge {options : LinkOptions} {p : Packet} {header bs : Bytes} {t : τ}
    (len : header.length = headerSize) (large : options.maxPayload < (announced header).toNat)
    (hS : S (header ++ bs) t) :
    EndsWithin M I
      (fun r t' => r = (p.readHeader header, .error (.tooLarge (announced header).toNat)) ∧ S bs t')
      (Channel.readRequest ⟨h, options⟩ p) t :=
  reads.readRequest_header len hS fun _ hS' => readPayload_tooLarge large hS'

/-- A header that does not come leaves the envelope alone. -/
theorem readPacket_noHeader {note : Packet → Task Unit} (closes : Closes M h S)
    {options : LinkOptions} {p : Packet} {bs : Bytes} {t : τ} (short : bs.length < headerSize)
    (hS : S bs t) :
    EndsWithin M I (fun r t' => r = (p, .error .closed) ∧ S [] t')
      (Channel.readPacket ⟨h, options⟩ p note) t := by
  refine .bind ((reads.transfer_short unnoted_harmless closes options short hS).mono
    (fun _ ht => ht) fun r t' hr => ?_)
  obtain ⟨rfl, hS'⟩ := hr
  exact .done ⟨rfl, hS'⟩

/-- A header that does not come is no request. -/
theorem readRequest_noHeader (closes : Closes M h S) {options : LinkOptions} {p : Packet}
    {bs : Bytes} {t : τ} (short : bs.length < headerSize) (hS : S bs t) :
    EndsWithin M I (fun r t' => r = (p, .error .closed) ∧ S [] t')
      (Channel.readRequest ⟨h, options⟩ p) t := by
  unfold Channel.readRequest
  cases bs with
  | nil =>
    refine .bind ((reads.receiveExactly_short unnoted_harmless closes none 1 [] [] t
      Nat.one_pos hS).mono (fun _ ht => ht) fun r t' hr => ?_)
    obtain ⟨rfl, hS'⟩ := hr
    exact .done ⟨rfl, hS'⟩
  | cons first rest =>
    refine .bind ((reads.receiveExactly unnoted_harmless none rest 1 [] [first] t rfl
      hS).mono (fun _ ht => ht) fun r t' hr => ?_)
    obtain ⟨rfl, hS'⟩ := hr
    have shortRest : rest.length < headerSize - 1 := by
      rw [List.length_cons] at short
      omega
    refine .bind ((reads.transfer_short unnoted_harmless closes options shortRest hS').mono
      (fun _ ht => ht) fun r t'' hr => ?_)
    obtain ⟨rfl, hS''⟩ := hr
    exact .done ⟨rfl, hS''⟩

/-- A payload that does not come whole is no request. -/
theorem readRequest_noPayload (closes : Closes M h S) {options : LinkOptions} {p : Packet}
    {header bs : Bytes} {t : τ} (len : header.length = headerSize)
    (fits : (announced header).toNat ≤ options.maxPayload)
    (short : bs.length < (announced header).toNat) (hS : S (header ++ bs) t) :
    EndsWithin M I (fun r t' => r.2 = .error .closed ∧ S [] t')
      (Channel.readRequest ⟨h, options⟩ p) t :=
  reads.readRequest_header len hS fun _ hS' =>
    reads.readPayload_short unnoted_harmless closes fits short hS'

end Reads

end DeviceRpc
