import DeviceRpc.Proofs.Link.Arrivals
import DeviceRpc.Proofs.Link.Phases
import DeviceRpc.Proofs.World.Scheduler

/-!
# Reading in time

A packet is read in two transfers, and each has the link's limit for itself: the one for the header
runs from the start, or for a request from its first byte, which may take any time; the one for the
payload runs from the instant in which the header is complete. So when reading is over, and with
what, follows from what arrives and when (`Channel.Reading.Due`), and reading is over in that
instant (`Listening.reads_in_time`), whatever else goes on. In particular it fails for want of time
just where a transfer has had all of it: its limit has come before its last byte and before the end
(`Channel.Reading.Due.timedOut_iff`).
-/

namespace DeviceRpc

namespace Channel

/-! ## Two ways of reading -/

/-- What follows the first byte of a request, or the end. -/
def restOfHeader (ch : Channel) : Bytes × Option LinkFailure → Task (Except LinkFailure Bytes)
  | (_, some e) => .done (.error e)
  | (first, none) =>
    ch.transfer (headerSize - 1) >>= fun r => .done (r.2.elim (.ok (first ++ r.1)) .error)

theorem readHeader_eq (ch : Channel) :
    ch.readHeader = receiveExactly ch.handle none unnoted 1 [] >>= ch.restOfHeader := by
  unfold readHeader
  congr 1
  funext r
  obtain ⟨first, failure⟩ := r
  cases failure with
  | some e => rfl
  | none =>
    show ch.transfer (headerSize - 1) >>= _ = ch.transfer (headerSize - 1) >>= _
    congr 1
    funext r
    obtain ⟨rest, failure⟩ := r
    cases failure <;> rfl

/-- Reading a packet, or a request. -/
inductive Reading where
  | packet
  | request

namespace Reading

/-- What a task does to read. -/
def run : Reading → Channel → Packet → Task (Packet × Except LinkFailure Unit)
  | packet, ch, p => ch.readPacket p
  | request, ch, p => ch.readRequest p

/-- The first phase. -/
def header : Reading → Channel → Task (Except LinkFailure Bytes)
  | packet, ch => ch.transfer headerSize >>= fun r => .done (r.2.elim (.ok r.1) .error)
  | request, ch => ch.readHeader

theorem run_eq (reading : Reading) (ch : Channel) (p : Packet) :
    reading.run ch p = reading.header ch >>= fun r =>
      match r with
      | .ok header => ch.readPayload (p.readHeader header)
      | .error e => .done (p, .error e) := by
  cases reading with
  | request => exact readRequest_eq ch p
  | packet =>
    show ch.transfer headerSize >>= _ = (ch.transfer headerSize >>= _) >>= _
    rw [bind_assoc]
    congr 1
    funext r
    obtain ⟨bs, failure⟩ := r
    cases failure <;> rfl

end Reading

/-! ## When reading is over -/

variable (ch : Channel) (T : Nat)

/-- When the time for a header begins: for a packet at the start, for a request when its first byte
is there. -/
inductive Reading.Starts (i : Inflow) (n₀ : Nat) (t₀ : Instant) : Reading → Instant → Prop where
  | packet : Starts i n₀ t₀ .packet t₀
  | request {t : Instant} {read : Bytes} (first : i.Over (n₀ + 1) t₀ none t read none) :
      Starts i n₀ t₀ .request t

/-- When the first phase is over, after how many bytes, and with what header. -/
inductive Reading.HeaderDue (n₀ : Nat) (t₀ : Instant) (i : Inflow) :
    Reading → Instant → Nat → Except LinkFailure Bytes → Prop where
  /-- The end comes before a request begins. -/
  | idle {t : Instant} {read : Bytes} {e : LinkFailure}
      (finished : i.Over (n₀ + 1) t₀ none t read (some e)) :
      HeaderDue n₀ t₀ i .request t read.length (.error e)
  | transferred {reading : Reading} {start t : Instant} {read : Bytes} {reason : Option LinkFailure}
      (starts : reading.Starts i n₀ t₀ start)
      (finished : i.Over (n₀ + headerSize) start (some (start + T)) t read reason) :
      HeaderDue n₀ t₀ i reading t read.length (reason.elim (.ok (read.drop n₀)) .error)

/-- When the second phase is over, for a packet with its header. -/
inductive PayloadDue (p : Packet) (t₀ : Instant) (n₀ : Nat) (i : Inflow) :
    Instant → Nat → Packet × Except LinkFailure Unit → Prop where
  | bare (none : p.length = 0) : PayloadDue p t₀ n₀ i t₀ n₀ (p, .ok ())
  | oversize (many : ch.options.maxPayload < p.length.toNat) :
      PayloadDue p t₀ n₀ i t₀ n₀ (p, .error (.tooLarge p.length.toNat))
  | transferred {t : Instant} {read : Bytes} {reason : Option LinkFailure} (some_ : p.length ≠ 0)
      (few : p.length.toNat ≤ ch.options.maxPayload)
      (finished : i.Over (n₀ + p.length.toNat) t₀ (some (t₀ + T)) t read reason) :
      PayloadDue p t₀ n₀ i t read.length
        (received (p.roomFor p.length.toNat) (read.drop n₀, reason))

/-- When reading is over, after how many bytes, and with what. -/
inductive Reading.Due (reading : Reading) (p : Packet) (t₀ : Instant) (n₀ : Nat) (i : Inflow) :
    Instant → Nat → Packet × Except LinkFailure Unit → Prop where
  | failed {t : Instant} {n : Nat} {e : LinkFailure}
      (header : HeaderDue T n₀ t₀ i reading t n (.error e)) :
      Due reading p t₀ n₀ i t n (p, .error e)
  | read {h t : Instant} {n n' : Nat} {header : Bytes} {r : Packet × Except LinkFailure Unit}
      (complete : HeaderDue T n₀ t₀ i reading h n (.ok header))
      (payload : PayloadDue ch T (p.readHeader header) h n i t n' r) :
      Due reading p t₀ n₀ i t n' r

/-- The time of a transfer runs out: there is no whole header in time, or not all of the payload
that the header announces. -/
inductive Reading.RunsOut (reading : Reading) (p : Packet) (t₀ : Instant) (n₀ : Nat) (i : Inflow) :
    Instant → Prop where
  | header {start : Instant} (starts : reading.Starts i n₀ t₀ start)
      (unfinished : i.Unfinished (n₀ + headerSize) (start + T)) :
      RunsOut reading p t₀ n₀ i (start + T)
  | payload {start h : Instant} {read : Bytes} {n : Nat} (starts : reading.Starts i n₀ t₀ start)
      (complete : i.Over (n₀ + headerSize) start (some (start + T)) h read none)
      (announced : (p.readHeader (read.drop n₀)).length.toNat = n) (some_ : n ≠ 0)
      (few : n ≤ ch.options.maxPayload)
      (unfinished : i.Unfinished (n₀ + headerSize + n) (h + T)) : RunsOut reading p t₀ n₀ i (h + T)

variable {ch T} {reading : Reading} {p q : Packet} {t₀ t : Instant} {n₀ n : Nat} {i : Inflow}

theorem PayloadDue.runsOut (h : PayloadDue ch T p t₀ n₀ i t n (q, .error .timedOut)) :
    p.length.toNat ≠ 0 ∧ p.length.toNat ≤ ch.options.maxPayload ∧ t = t₀ + T ∧
      i.Unfinished (n₀ + p.length.toNat) (t₀ + T) := by
  generalize result : (q, Except.error LinkFailure.timedOut) = r at h
  cases h with
  | bare => cases result
  | oversize => cases result
  | @transferred _ read reason some_ few finished =>
    cases reason with
    | none => cases result
    | some e =>
      cases result
      obtain ⟨rfl, -, unfinished⟩ := Inflow.Over.timedOut_iff.mp ⟨read, finished⟩
      exact ⟨fun zero => some_ (UInt32.toNat_inj.mp zero), few, rfl, unfinished⟩

/-- **Reading fails for want of time just when the time of one of its transfers runs out.** -/
theorem Reading.Due.timedOut_iff (positive : 0 < T) :
    (∃ n q, reading.Due ch T p t₀ n₀ i t n (q, .error .timedOut)) ↔
      reading.RunsOut ch T p t₀ n₀ i t := by
  constructor
  · rintro ⟨n, q, due⟩
    cases due with
    | failed header =>
      generalize result : Except.error LinkFailure.timedOut = r at header
      cases header with
      | idle finished =>
        cases result
        exact absurd rfl finished.ne_timedOut
      | @transferred _ start _ read reason starts finished =>
        cases reason with
        | none => cases result
        | some e =>
          cases result
          obtain ⟨rfl, -, unfinished⟩ := Inflow.Over.timedOut_iff.mp ⟨read, finished⟩
          exact .header starts unfinished
    | @read h _ _ _ header _ complete payload =>
      generalize result : Except.ok header = r at complete
      cases complete with
      | idle => cases result
      | @transferred _ start _ read reason starts finished =>
        cases reason with
        | some e => cases result
        | none =>
          cases result
          obtain ⟨some_, few, rfl, unfinished⟩ := payload.runsOut
          rw [finished.length] at unfinished
          exact .payload starts finished rfl some_ few unfinished
  · rintro (⟨starts, unfinished⟩ | ⟨starts, complete, rfl, some_, few, unfinished⟩)
    · have finished := Inflow.Over.late (Nat.lt_add_of_pos_right positive) rfl unfinished
      exact ⟨_, p, .failed (.transferred starts finished)⟩
    · have finished := Inflow.Over.late (Nat.lt_add_of_pos_right positive) rfl unfinished
      rw [← complete.length] at finished
      refine ⟨_, _, .read (.transferred starts complete) (.transferred ?_ few finished)⟩
      exact fun none => some_ (congrArg UInt32.toNat none)

/-- A request that nobody begins is never out of time. -/
theorem Reading.RunsOut.begun (h : Reading.request.RunsOut ch T p t₀ n₀ i t) :
    n₀ < i.stream.length := by
  have first : ∃ start, Reading.request.Starts i n₀ t₀ start := by
    cases h with
    | header starts => exact ⟨_, starts⟩
    | payload starts => exact ⟨_, starts⟩
  obtain ⟨start, _ | first⟩ := first
  cases first with
  | complete _ all =>
    exact Nat.lt_of_succ_le (Nat.le_trans all (i.upTo_isPrefix_stream start).length_le)

theorem Reading.Starts.since {start : Instant} (h : reading.Starts i n₀ t₀ start) : t₀ ≤ start := by
  cases h with
  | packet => exact Nat.le_refl _
  | request first => exact first.since

/-- No time runs out before all of it has passed. -/
theorem Reading.RunsOut.notBefore (h : reading.RunsOut ch T p t₀ n₀ i t) : t₀ + T ≤ t := by
  cases h with
  | header starts => exact Nat.add_le_add_right starts.since T
  | payload starts complete =>
    exact Nat.add_le_add_right (Nat.le_trans starts.since complete.since) T

/-- A header is there, or fails, at some time, if it is begun. -/
theorem Reading.exists_headerDue {now : Instant} (positive : 0 < T) (past : i.Past now)
    (begun : reading = .request → n₀ < i.stream.length ∨ i.ended.isSome) (t₀ : Instant) :
    ∃ t n r, HeaderDue T n₀ t₀ i reading t n r := by
  have rest {start : Instant} (starts : reading.Starts i n₀ t₀ start) :
      ∃ t n r, HeaderDue T n₀ t₀ i reading t n r := by
    obtain ⟨t, read, reason, finished⟩ :=
      Inflow.Over.exists_limited past (n₀ + headerSize) positive start
    exact ⟨t, _, _, .transferred starts finished⟩
  cases reading with
  | packet => exact rest .packet
  | request =>
    obtain ⟨t, read, reason, first⟩ : ∃ t read reason, i.Over (n₀ + 1) t₀ none t read reason :=
      Inflow.Over.exists_over past (n₀ + 1) nofun fun _ => begun rfl
    cases reason with
    | some e => exact ⟨t, _, _, .idle first⟩
    | none => exact rest (.request first)

theorem exists_payloadDue {now : Instant} (positive : 0 < T) (past : i.Past now) (ch : Channel)
    (p : Packet) (t₀ : Instant) (n₀ : Nat) : ∃ t n r, PayloadDue ch T p t₀ n₀ i t n r := by
  by_cases bare : p.length = 0
  · exact ⟨_, _, _, .bare bare⟩
  by_cases few : p.length.toNat ≤ ch.options.maxPayload
  · obtain ⟨t, read, reason, finished⟩ :=
      Inflow.Over.exists_limited past (n₀ + p.length.toNat) positive t₀
    exact ⟨t, _, _, .transferred bare few finished⟩
  · exact ⟨_, _, _, .oversize (Nat.lt_of_not_le few)⟩

/-- **Reading is over at some time**, unless it is a request that is not begun. -/
theorem Reading.exists_due {now : Instant} (positive : 0 < T) (past : i.Past now)
    (begun : reading = .request → n₀ < i.stream.length ∨ i.ended.isSome) (p : Packet)
    (t₀ : Instant) : ∃ t n r, reading.Due ch T p t₀ n₀ i t n r := by
  obtain ⟨h, n, r, header⟩ := exists_headerDue positive past begun t₀
  cases r with
  | error e => exact ⟨_, _, _, .failed header⟩
  | ok bs =>
    obtain ⟨t, n', r, payload⟩ := exists_payloadDue positive past ch (p.readHeader bs) h n
    exact ⟨t, n', r, .read header payload⟩

end Channel

namespace Listening

open Channel (Reading PayloadDue)
open Schedule (Move single single_goes single_rests moveClock_ticks)

variable {ch : Channel} {T : Nat} {k : TaskId}

/-! ## Each phase is punctual -/

/-- A transfer has its time from its start on. -/
theorem punctual_transfer (k : TaskId) (t₀ : Instant) (n₀ want : Nat)
    (limited : ch.options.ioTimeout = some T) (positive : 0 < T) :
    Punctual k ch.handle t₀ n₀
      (transferDue t₀ n₀ (n₀ + (want + 1)) (some (t₀ + T)) []) (ch.transfer (want + 1)) := by
  have eq : ch.transfer (want + 1) = ask .now >>= fun (now : Instant) =>
      receiveExactly ch.handle (some (now + T)) Channel.unnoted (want + 1) [] := by
    rw [Channel.transfer, limited]
    rfl
  rw [eq]
  refine ((punctual_now k ch.handle t₀ n₀).bind
    (E := fun t n now => transferDue t n (n + (want + 1)) (some (now + T)) []) ?_).congr ?_
  · rintro i t n now ⟨rfl, rfl, rfl⟩
    refine punctual_receiveExactly k ch.handle n want [] ?_
    rintro _ ⟨⟩
    exact Nat.lt_add_of_pos_right positive
  · intro i t n r
    constructor
    · rintro ⟨_, _, _, ⟨rfl, rfl, rfl⟩, due⟩
      exact due
    · intro due
      exact ⟨_, _, _, ⟨rfl, rfl, rfl⟩, due⟩

/-- The header of a request is its first byte and the others. -/
theorem header_split {i : Inflow} {n₀ : Nat} {t₀ t₁ t₂ : Instant} {limit limit' : Option Instant}
    {read read' : Bytes} (first : i.Over (n₀ + 1) t₀ limit t₁ read none)
    (second : i.Over (n₀ + headerSize) t₁ limit' t₂ read' none) :
    read.drop n₀ ++ read'.drop (n₀ + 1) = read'.drop n₀ := by
  have later := second.since
  cases first with
  | complete _ all =>
    cases second with
    | complete _ all' =>
      have same :
          (i.upTo t₁).take (n₀ + 1) = ((i.upTo t₂).take (n₀ + headerSize)).take (n₀ + 1) := by
        obtain ⟨rest, split⟩ := i.upTo_isPrefix later
        rw [List.take_take, Nat.min_eq_left (by simp [headerSize]), ← split,
          List.take_append_of_le_length all]
      rw [same]
      generalize (i.upTo t₂).take (n₀ + headerSize) = header
      rw [List.drop_take, Nat.add_sub_cancel_left, ← List.drop_drop, List.take_append_drop]

/-- After the first byte of a request, or the end, the rest of the header is due. -/
def restDue (T : Nat) (t : Instant) (n : Nat) :
    Bytes × Option LinkFailure → Due (Except LinkFailure Bytes)
  | (_, some e) => .atOnce t n (.error e)
  | (first, none) =>
    (transferDue t n (n + (headerSize - 1)) (some (t + T)) []).map fun r =>
      r.2.elim (.ok (first ++ r.1)) .error

theorem restDue_iff {i : Inflow} {t₀ t : Instant} {n₀ n : Nat} {r : Except LinkFailure Bytes} :
    ((transferDue t₀ n₀ (n₀ + 1) none []).andThen (restDue T)) i t n r ↔
      Reading.HeaderDue T n₀ t₀ i .request t n r := by
  constructor
  · rintro ⟨t₁, _, ⟨_, _ | e⟩, ⟨read, first, rfl, rfl⟩, due⟩
    · obtain ⟨read', reason, second, rfl, rfl⟩ := map_transferDue_iff.mp due
      rw [first.length] at second ⊢
      have header := Reading.HeaderDue.transferred (.request first) second
      cases reason with
      | some e => exact header
      | none =>
        rw [← header_split first second] at header
        exact header
    · obtain ⟨rfl, rfl, rfl⟩ := due
      exact .idle first
  · rintro (first | ⟨_ | first, second⟩)
    · exact ⟨_, _, (_, some _), ⟨_, first, rfl, rfl⟩, rfl, rfl, rfl⟩
    · next start read' reason read =>
      refine ⟨start, read.length, (_, none), ⟨read, first, rfl, rfl⟩, ?_⟩
      refine map_transferDue_iff.mpr ⟨read', reason, ?_, rfl, ?_⟩
      · rw [first.length]
        exact second
      · cases reason with
        | some e => rfl
        | none =>
          rw [first.length]
          exact congrArg _ (header_split first second).symm

/-- A header is read from its first byte on, or from the start. -/
theorem punctual_header (k : TaskId) (t₀ : Instant) (n₀ : Nat)
    (limited : ch.options.ioTimeout = some T) (positive : 0 < T) (reading : Reading) :
    Punctual k ch.handle t₀ n₀ (Reading.HeaderDue T n₀ t₀ · reading) (reading.header ch) := by
  cases reading with
  | packet =>
    refine ((punctual_transfer k t₀ n₀ 31 limited positive).map _).congr fun i t n r => ?_
    rw [map_transferDue_iff]
    constructor
    · rintro ⟨read, reason, finished, rfl, rfl⟩
      exact .transferred .packet finished
    · rintro (_ | ⟨⟨⟩, finished⟩)
      exact ⟨_, _, finished, rfl, rfl⟩
  | request =>
    have first : Punctual k ch.handle t₀ n₀ (transferDue t₀ n₀ (n₀ + 1) none [])
        (receiveExactly ch.handle none Channel.unnoted 1 []) :=
      punctual_receiveExactly k ch.handle n₀ 0 [] nofun
    rw [Reading.header, Channel.readHeader_eq]
    refine (first.bind (E := restDue T) ?_).congr fun _ _ _ _ => restDue_iff
    rintro i t n ⟨first, _ | e⟩ -
    · exact (punctual_transfer k t n 30 limited positive).map _
    · exact .done k ch.handle t n _

/-- A payload is read from where its header ends, within a time of its own. -/
theorem punctual_payload (k : TaskId) (t₀ : Instant) (n₀ : Nat)
    (limited : ch.options.ioTimeout = some T) (positive : 0 < T) (p : Packet) :
    Punctual k ch.handle t₀ n₀ (PayloadDue ch T p t₀ n₀) (ch.readPayload p) := by
  by_cases bare : p.length = 0
  · rw [Channel.readPayload_bare bare]
    refine (Punctual.done k ch.handle t₀ n₀ _).congr fun i t n r => ⟨?_, ?_⟩
    · rintro ⟨rfl, rfl, rfl⟩
      exact .bare bare
    · rintro (_ | many | ⟨some_, few, finished⟩)
      · exact ⟨rfl, rfl, rfl⟩
      · rw [bare] at many
        exact absurd many (Nat.not_lt_zero _)
      · exact absurd bare some_
  by_cases few : p.length.toNat ≤ ch.options.maxPayload
  · obtain ⟨want, count⟩ : ∃ want, p.length.toNat = want + 1 :=
      Nat.exists_eq_succ_of_ne_zero fun zero => bare (UInt32.toNat_inj.mp zero)
    rw [Channel.readPayload_eq bare few, count]
    refine ((punctual_transfer k t₀ n₀ want limited positive).map _).congr fun i t n r => ?_
    rw [map_transferDue_iff, ← count]
    constructor
    · rintro ⟨read, reason, finished, rfl, rfl⟩
      exact .transferred bare few finished
    · rintro (bare' | many | ⟨-, -, finished⟩)
      · exact absurd bare' bare
      · exact absurd many (Nat.not_lt.mpr few)
      · exact ⟨_, _, finished, rfl, rfl⟩
  · have many := Nat.lt_of_not_le few
    rw [Channel.readPayload_oversize many]
    refine (Punctual.done k ch.handle t₀ n₀ _).congr fun i t n r => ⟨?_, ?_⟩
    · rintro ⟨rfl, rfl, rfl⟩
      exact .oversize many
    · rintro (bare' | _ | ⟨-, few', -⟩)
      · exact absurd bare' bare
      · exact ⟨rfl, rfl, rfl⟩
      · exact absurd few' few

/-- After a header, or the reason why there is none, the payload is due. -/
def afterHeader (ch : Channel) (T : Nat) (p : Packet) (t : Instant) (n : Nat) :
    Except LinkFailure Bytes → Due (Packet × Except LinkFailure Unit)
  | .ok header => PayloadDue ch T (p.readHeader header) t n
  | .error e => .atOnce t n (p, .error e)

/-- Reading is its two phases. -/
theorem punctual_run (k : TaskId) (t₀ : Instant) (n₀ : Nat)
    (limited : ch.options.ioTimeout = some T) (positive : 0 < T) (reading : Reading) (p : Packet) :
    Punctual k ch.handle t₀ n₀ (reading.Due ch T p t₀ n₀) (reading.run ch p) := by
  rw [Reading.run_eq]
  refine ((punctual_header k t₀ n₀ limited positive reading).bind (E := afterHeader ch T p) ?_).congr
    fun i t n r => ⟨?_, ?_⟩
  · rintro i t n r -
    cases r with
    | ok header => exact punctual_payload k t n limited positive _
    | error e => exact .done k ch.handle t n _
  · rintro ⟨_, _, r, header, due⟩
    cases r with
    | ok bs => exact .read header due
    | error e =>
      obtain ⟨rfl, rfl, rfl⟩ := due
      exact .failed header
  · rintro (header | ⟨complete, payload⟩)
    · exact ⟨_, _, Except.error _, header, rfl, rfl, rfl⟩
    · exact ⟨_, _, Except.ok _, complete, payload⟩

/-! ## The time that reading takes -/

/-- What holds of every run of a task that reads, with a time of `T` for each transfer, and then
goes on with `f`. -/
structure Timely (k : TaskId) (ch : Channel) (T : Nat) (reading : Reading) (p : Packet)
    (f : Packet × Except LinkFailure Unit → Task Ending) (x x' : Listening) : Prop where
  /-- It is over in the instant in which it is due, and goes on until then. -/
  fate : Fate k ch.handle (reading.Due ch T p x.now 0) f x x'
  /-- It is due once, -/
  unique {t t' : Instant} {n n' : Nat} {r r' : Packet × Except LinkFailure Unit} :
    reading.Due ch T p x.now 0 x'.inflow t n r → reading.Due ch T p x.now 0 x'.inflow t' n' r' →
      t = t' ∧ n = n' ∧ r = r'
  /-- and no matter what arrives afterwards. -/
  lasting {mid : Listening} {n : Nat} {r : Packet × Except LinkFailure Unit} :
    Runs k ch.handle mid x' → reading.Due ch T p x.now 0 mid.inflow mid.now n r →
      reading.Due ch T p x.now 0 x'.inflow mid.now n r
  /-- It is due at some time, unless it is a request of which nothing has come. -/
  certain : (reading = .request → x'.inflow.stream ≠ [] ∨ x'.inflow.ended.isSome) →
    ∃ t n r, reading.Due ch T p x.now 0 x'.inflow t n r
  /-- It fails for want of time just when the time of a transfer runs out, -/
  timedOut (t : Instant) :
    (∃ n q, reading.Due ch T p x.now 0 x'.inflow t n (q, .error .timedOut)) ↔
      reading.RunsOut ch T p x.now 0 x'.inflow t
  /-- which is not before all of it has passed, -/
  notBefore {t : Instant} : reading.RunsOut ch T p x.now 0 x'.inflow t → x.now + T ≤ t
  /-- and never while a peer is idle. -/
  idle {t : Instant} : reading = .request → x'.inflow.stream = [] →
    ¬ reading.RunsOut ch T p x.now 0 x'.inflow t

/-- **A packet or a request is read in time.** Reading is over as soon as the frame is complete, or
the end has come, or the header announces too much; it fails for want of time just when a transfer
has had all of its own time, which for the header of a request begins with its first byte and for a
payload where its header ends. -/
theorem reads_in_time {k : TaskId} {s : Schedule} {x : Listening} {pipe : Pipe} (reading : Reading)
    (p : Packet) (f : Packet × Except LinkFailure Unit → Task Ending)
    (limited : ch.options.ioTimeout = some T) (positive : 0 < T)
    (there : s.world.inbound ch.handle = some pipe) (calm : pipe.reset = false)
    (here : s.At k (reading.run ch p >>= f)) (run : Runs k ch.handle (start s pipe) x) :
    Timely k ch T reading p f (start s pipe) x := by
  have hears := start_hears there calm
  have punctual := punctual_run k s.world.now 0 limited positive reading p
  have past : x.inflow.Past x.now := run.past hears.past
  exact
    { fate := punctual.fate rfl hears here run
      unique := punctual.unique
      lasting := fun rest due => punctual.later due (Nat.le_refl _) rest.later.2
      certain := by
        intro begun
        refine Reading.exists_due positive past (fun request => ?_) p _
        exact (begun request).imp_left List.length_pos_iff.mpr
      timedOut := fun t => Reading.Due.timedOut_iff positive
      notBefore := Reading.RunsOut.notBefore
      idle := by
        rintro t rfl idle out
        have begun := out.begun
        rw [idle] at begun
        exact absurd begun (Nat.lt_irrefl 0) }

namespace Begun

/-- A link on which each transfer may take 50 ms. -/
def channel : Channel where
  handle := ⟨0, .acceptor⟩
  options := { ioTimeout := some 50 }

/-- A connection at some time, and what is there to be read. -/
def world (now : Instant) (bytes : Bytes) : World where
  now
  network := { connections := [{ toAcceptor := { bytes } }] }

/-- What a task does with what it has read. -/
def after (r : Packet × Except LinkFailure Unit) : Task Ending := .done (.over (.reply r.1))

/-- A task that reads a request. -/
def task : Task Ending := Reading.request.run channel .empty >>= after

theorem task_asks : ∃ next, task = .ask (.receive channel.handle 1 none) next ∧
    ∃ next', next (.bytes 7 []) = .ask .now next' ∧
    ∃ next'', next' (200 : Instant) = .ask (.receive channel.handle 31 (some 250)) next'' ∧
      next'' .late = after (.empty, .error .timedOut) := by
  show ∃ next, (receiveExactly _ _ _ 1 [] >>= _) >>= after = _ ∧ _
  rw [bind_assoc, receiveExactly_bind]
  refine ⟨_, rfl, ?_⟩
  show ∃ next', receiveExactly _ _ _ 0 _ >>= _ = _ ∧ _
  rw [receiveExactly]
  refine ⟨_, rfl, ?_⟩
  show ∃ next'', (receiveExactly _ _ _ 31 [] >>= _) >>= _ = _ ∧ _
  rw [bind_assoc, receiveExactly_bind]
  exact ⟨_, rfl, rfl⟩

/-- The task waits for `n` bytes. -/
def waiting (now : Instant) (bytes : Bytes) (n : Nat) (limit : Option Instant)
    (next : Received → Task Ending) : Schedule :=
  single (world now bytes) (.ask (.receive channel.handle n limit) next)

/-- In the end the time has run out. -/
def late : Listening where
  schedule := single (world 250 []) (after (.empty, .error .timedOut))
  inflow := { bytes := [(200, 7)] }

/-- The peer is idle for 200 ms, and then begins a request, of which it sends no more. -/
theorem runs : Runs 0 channel.handle (start (single (world 0 []) task) {}) late := by
  obtain ⟨next, asks, next', first, next'', header, expired⟩ := task_asks
  have idle : Step 0 channel.handle ⟨waiting 0 [] 1 none next, {}⟩
      ⟨waiting 200 [] 1 none next, {}⟩ :=
    .silent (.ticks (moveClock_ticks 200 (single_rests rfl none) (Nat.zero_lt_succ _) nofun))
      nofun rfl rfl
  have arrives : Step 0 channel.handle ⟨waiting 200 [] 1 none next, {}⟩
      ⟨waiting 200 [7] 1 none next, { bytes := [(200, 7)] }⟩ :=
    .other [7] false (.outside rfl fun _ _ here => here) nofun rfl rfl nofun
  have reads : Step 0 channel.handle ⟨waiting 200 [7] 1 none next, { bytes := [(200, 7)] }⟩
      ⟨single (world 200 []) (.ask .now next'), { bytes := [(200, 7)] }⟩ :=
    first ▸ .own (single_goes rfl)
  have looks : Step 0 channel.handle
      ⟨single (world 200 []) (.ask .now next'), { bytes := [(200, 7)] }⟩
      ⟨waiting 200 [] 31 (some 250) next'', { bytes := [(200, 7)] }⟩ := by
    have told : Move (single (world 200 []) (.ask .now next')) (some 0)
        (single (world 200 []) (next' (200 : Instant))) := single_goes rfl
    rw [header] at told
    exact .own told
  have runsOut : Step 0 channel.handle
      ⟨waiting 200 [] 31 (some 250) next'', { bytes := [(200, 7)] }⟩ late := by
    have tick : (waiting 200 [] 31 (some 250) next'').Ticks
        ((waiting 200 [] 31 (some 250) next'').moveClock 250) :=
      moveClock_ticks 250 (single_rests rfl none) (by decide : 200 < 250) fun time first => by
        cases first
        exact Nat.le_refl _
    have passed : (waiting 200 [] 31 (some 250) next'').moveClock 250
        = single (world 250 []) (next'' .late) := rfl
    rw [passed, expired] at tick
    exact .silent (.ticks tick) nofun rfl rfl
  rw [asks]
  exact .tail (.tail (.tail (.tail (.single idle) arrives) reads) looks) runsOut

/-- The request was begun after 200 ms, and its time has run out 50 ms later. -/
theorem reads_in_time_begun :
    channel.options.ioTimeout = some 50 ∧ 0 < 50 ∧ (world 0 []).inbound channel.handle = some {} ∧
      Timely 0 channel 50 .request .empty after (start (single (world 0 []) task) {}) late :=
  ⟨rfl, by decide, rfl, reads_in_time .request .empty after rfl (by decide) rfl rfl rfl runs⟩

end Begun

end Listening

end DeviceRpc
