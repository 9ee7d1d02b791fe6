import DeviceRpc.Proofs.Dispatch.Envelope
import DeviceRpc.Proofs.Packet.Carrying
import DeviceRpc.Proofs.Program.Keeps
import DeviceRpc.Proofs.Registry

/-!
# What becomes of a request

A request is decided before anything is asked: it is refused with a number, or it is a lookup that
finds an index, or a handler is to run. The rules of decision stand in `Decides`, one for each
outcome, and say in which order the reasons to refuse count. They speak of what a request says, of
the rows of the table and of the places of the registry, and not of how dispatching looks there.

Every request is decided by one verdict and no other, and what dispatching does is to carry the
verdict out (`Service.dispatch_decided`): where a handler is to run, it runs once, and nothing is
asked beside what it asks.
-/

namespace DeviceRpc

open Prog (Runs)

variable {ω : Type}

/-! ## The rules -/

/-- The command takes an index only. -/
def TakesIndexOnly (command : UInt16) : Prop :=
  command = Protocol.inspect ∨ command = Protocol.register

instance (command : UInt16) : Decidable (TakesIndexOnly command) :=
  inferInstanceAs (Decidable (_ ∨ _))

/-- What the name in a request leads to: an index, or the number it is refused with. -/
inductive Leads (registry : Registry ω) (p : Packet) : Except UInt16 UInt16 → Prop where
  | noText (h : ∀ s, Utf8.encode s ≠ p.nameBytes) : Leads registry p (.error 4)
  | unknown {name : String} (carries : Utf8.encode name = p.nameBytes)
      (absent : name ∉ registry.names) : Leads registry p (.error 35)
  | known {name : String} {index : UInt16} {object : ω} (carries : Utf8.encode name = p.nameBytes)
      (there : registry.At index name object) : Leads registry p (.ok index)

/-- The index that a request is for: its own, or the one of the name if its own is zero. -/
inductive Aims (registry : Registry ω) (p : Packet) : UInt16 → Prop where
  | given (indexed : p.index ≠ 0) : Aims registry p p.index
  | named {index : UInt16} (unset : p.index = 0) (leads : Leads registry p (.ok index)) :
      Aims registry p index

/-- What is to be done with a request. -/
inductive Verdict (ω : Type) where
  /-- Refuse it with a number; the index that the reply has. -/
  | refused (index number : UInt16)
  | found (index : UInt16)
  /-- Run the handler on the object with this index. -/
  | runs (handler : Handler ω) (object : ω) (index : UInt16)

/-- The protocol of the request is the service's own, or the one that every service accepts. -/
def Service.Accepts (s : Service ω) (p : Packet) : Prop :=
  p.protocol = s.protocol ∨ p.protocol = 0xFFFF

/-- No handler of the service fails with a code that is numbered zero. -/
def Service.Sincere (s : Service ω) : Prop :=
  ∀ command handler, s.table.row? command = some (.object handler) → ∀ object p acts q code,
    Runs (handler object p) acts (q, .error code) → code.number ≠ 0

/-- The rules by which a request is decided. -/
inductive Decides (s : Service ω) (registry : Registry ω) (p : Packet) : Verdict ω → Prop where
  | wrongProtocol (foreign : ¬ s.Accepts p) : Decides s registry p (.refused p.index 23)
  | badCommand (accepts : s.Accepts p) (unlisted : s.table.row? p.command = none) :
      Decides s registry p (.refused p.index 27)
  | lookupFails {number : UInt16} (accepts : s.Accepts p)
      (row : s.table.row? p.command = some .lookup) (leads : Leads registry p (.error number)) :
      Decides s registry p (.refused p.index number)
  | lookupFinds {index : UInt16} (accepts : s.Accepts p)
      (row : s.table.row? p.command = some .lookup) (leads : Leads registry p (.ok index)) :
      Decides s registry p (.found index)
  | indexMissing {handler : Handler ω} (accepts : s.Accepts p)
      (row : s.table.row? p.command = some (.object handler)) (unset : p.index = 0)
      (only : TakesIndexOnly p.command) : Decides s registry p (.refused 0 35)
  | nameFails {handler : Handler ω} {number : UInt16} (accepts : s.Accepts p)
      (row : s.table.row? p.command = some (.object handler)) (unset : p.index = 0)
      (both : ¬ TakesIndexOnly p.command) (leads : Leads registry p (.error number)) :
      Decides s registry p (.refused 0 number)
  | noObject {handler : Handler ω} {index : UInt16} (accepts : s.Accepts p)
      (row : s.table.row? p.command = some (.object handler))
      (usable : p.index = 0 → ¬ TakesIndexOnly p.command) (aims : Aims registry p index)
      (nobody : ∀ name object, ¬ registry.At index name object) :
      Decides s registry p (.refused index 35)
  | reaches {handler : Handler ω} {index : UInt16} {name : String} {object : ω}
      (accepts : s.Accepts p) (row : s.table.row? p.command = some (.object handler))
      (usable : p.index = 0 → ¬ TakesIndexOnly p.command) (aims : Aims registry p index)
      (there : registry.At index name object) : Decides s registry p (.runs handler object index)

namespace Verdict

/-- What carries a verdict out. A handler finds the index in the packet, and whatever it leaves
there is the reply, with the payload dropped if it failed. -/
def answer (p : Packet) : Verdict ω → Task Packet
  | refused index number => return { p with index, errorCode := number, length := 0 }
  | found index => return { p with index, errorCode := 0, length := 0 }
  | runs handler object index => do
    match ← handler object { p with index } with
    | (q, .ok ()) => return { q with errorCode := 0 }
    | (q, .error code) => return { q with errorCode := code.number, length := 0 }

/-- The request is handled successfully in a run with these exchanges. -/
def Succeeds (p : Packet) (acts : List (Prog.Exchange Act.Reply)) : Verdict ω → Prop
  | refused _ _ => False
  | found _ => True
  | runs handler object index => ∃ q, Runs (handler object { p with index }) acts (q, .ok ())

end Verdict

/-! ## Dispatching by the rules -/

section

variable {registry : Registry ω} {p : Packet}

theorem leads_iff {result : Except UInt16 UInt16} :
    Leads registry p result ↔
      (Service.namedIndex registry p).mapError ErrorCode.number = result := by
  constructor
  · intro leads
    unfold Service.namedIndex
    cases leads with
    | noText none =>
      obtain ⟨reason, refused⟩ := Packet.name_of_no_text none
      rw [refused]
      rfl
    | unknown carries absent =>
      rw [Packet.name_eq_ok_iff.mpr carries]
      simp only [Registry.index?_eq_none_iff.mpr absent]
      rfl
    | known carries there =>
      rw [Packet.name_eq_ok_iff.mpr carries]
      simp only [Registry.index?_eq_some_iff.mpr ⟨_, there⟩]
      rfl
  · rintro rfl
    unfold Service.namedIndex
    by_cases text : ∃ name, Utf8.encode name = p.nameBytes
    · obtain ⟨name, carries⟩ := text
      rw [Packet.name_eq_ok_iff.mpr carries]
      cases found : registry.index? name with
      | none =>
        simp only [found]
        exact .unknown carries (Registry.index?_eq_none_iff.mp found)
      | some index =>
        simp only [found]
        obtain ⟨object, there⟩ := Registry.index?_eq_some_iff.mp found
        exact .known carries there
    · have none : ∀ name, Utf8.encode name ≠ p.nameBytes :=
        fun name carries => text ⟨name, carries⟩
      obtain ⟨reason, refused⟩ := Packet.name_of_no_text none
      rw [refused]
      exact .noText none

theorem leads_ok_iff {index : UInt16} :
    Leads registry p (.ok index) ↔ Service.namedIndex registry p = .ok index := by
  rw [leads_iff]
  cases Service.namedIndex registry p with
  | ok found => exact ⟨fun same => by cases same; rfl, fun same => by cases same; rfl⟩
  | error code => exact ⟨nofun, nofun⟩

theorem leads_error_iff {number : UInt16} :
    Leads registry p (.error number) ↔
      ∃ code, Service.namedIndex registry p = .error code ∧ code.number = number := by
  rw [leads_iff]
  cases Service.namedIndex registry p with
  | ok found => exact ⟨nofun, fun ⟨_, refused, _⟩ => nomatch refused⟩
  | error code =>
    constructor
    · intro same
      cases same
      exact ⟨code, rfl, rfl⟩
    · rintro ⟨code', same, rfl⟩
      cases same
      rfl

theorem takesIndexOnly_iff {command : UInt16} :
    TakesIndexOnly command ↔ Service.isSystemCommand command = true := by
  unfold TakesIndexOnly Service.isSystemCommand
  rw [Bool.or_eq_true, decide_eq_true_eq, decide_eq_true_eq]

theorem Service.accepts_iff {s : Service ω} :
    ¬ s.Accepts p ↔ p.protocol ≠ s.protocol ∧ p.protocol ≠ Protocol.system := not_or

end

namespace Service

/-- The index that a request is for, where it has one. -/
def aim (registry : Registry ω) (p : Packet) : Except ErrorCode UInt16 :=
  if p.index = 0 then namedIndex registry p else .ok p.index

/-- The verdict on a request, by the order in which a service looks at it. -/
def verdict (s : Service ω) (registry : Registry ω) (p : Packet) : Verdict ω :=
  if p.protocol ≠ s.protocol ∧ p.protocol ≠ Protocol.system then .refused p.index 23
  else match s.table.row? p.command with
    | none => .refused p.index 27
    | some .lookup =>
      match namedIndex registry p with
      | .ok index => .found index
      | .error code => .refused p.index code.number
    | some (.object handler) =>
      if p.index = 0 ∧ isSystemCommand p.command then .refused 0 35
      else match aim registry p with
        | .error code => .refused 0 code.number
        | .ok index =>
          match registry.object? index with
          | some object => .runs handler object index
          | none => .refused index 35

variable {s : Service ω} {registry : Registry ω} {p : Packet} {v : Verdict ω}

theorem aim_eq_ok_iff {index : UInt16} : aim registry p = .ok index ↔ Aims registry p index := by
  unfold aim
  by_cases unset : p.index = 0
  · rw [if_pos unset, ← leads_ok_iff]
    constructor
    · exact .named unset
    · rintro (indexed | ⟨-, leads⟩)
      · exact absurd unset indexed
      · exact leads
  · rw [if_neg unset]
    constructor
    · intro same
      cases same
      exact .given unset
    · rintro (- | ⟨zero, -⟩)
      · rfl
      · exact absurd zero unset

theorem aim_eq_error {code : ErrorCode} (h : aim registry p = .error code) :
    p.index = 0 ∧ Leads registry p (.error code.number) := by
  unfold aim at h
  by_cases unset : p.index = 0
  · rw [if_pos unset] at h
    exact ⟨unset, leads_error_iff.mpr ⟨code, h, rfl⟩⟩
  · rw [if_neg unset] at h
    cases h

/-- Whatever the rules say is the verdict. -/
theorem verdict_of_decides (h : Decides s registry p v) : s.verdict registry p = v := by
  have known (accepts : s.Accepts p) :
      ¬ (p.protocol ≠ s.protocol ∧ p.protocol ≠ Protocol.system) :=
    fun foreign => accepts_iff.mpr foreign accepts
  have reachable (usable : p.index = 0 → ¬ TakesIndexOnly p.command) :
      ¬ (p.index = 0 ∧ isSystemCommand p.command = true) :=
    fun ⟨unset, only⟩ => usable unset (takesIndexOnly_iff.mpr only)
  unfold verdict
  cases h with
  | wrongProtocol foreign => rw [if_pos (accepts_iff.mp foreign)]
  | badCommand accepts unlisted => rw [if_neg (known accepts), unlisted]
  | lookupFails accepts row leads =>
    obtain ⟨code, refused, rfl⟩ := leads_error_iff.mp leads
    simp only [if_neg (known accepts), row, refused]
  | lookupFinds accepts row leads =>
    simp only [if_neg (known accepts), row, leads_ok_iff.mp leads]
  | indexMissing accepts row unset only =>
    simp only [if_neg (known accepts), row]
    rw [if_pos ⟨unset, takesIndexOnly_iff.mp only⟩]
  | nameFails accepts row unset both leads =>
    obtain ⟨code, refused, rfl⟩ := leads_error_iff.mp leads
    have nowhere : aim registry p = .error code := by rw [aim, if_pos unset, refused]
    simp only [if_neg (known accepts), row, if_neg (reachable fun _ => both), nowhere]
  | noObject accepts row usable aims nobody =>
    simp only [if_neg (known accepts), row, if_neg (reachable usable), aim_eq_ok_iff.mpr aims,
      Registry.object?_eq_none_iff.mpr nobody]
  | reaches accepts row usable aims there =>
    simp only [if_neg (known accepts), row, if_neg (reachable usable), aim_eq_ok_iff.mpr aims,
      Registry.object?_eq_some_iff.mpr ⟨_, there⟩]

/-- The verdict is one that the rules give. -/
theorem decides_verdict (s : Service ω) (registry : Registry ω) (p : Packet) :
    Decides s registry p (s.verdict registry p) := by
  unfold verdict
  by_cases foreign : p.protocol ≠ s.protocol ∧ p.protocol ≠ Protocol.system
  · rw [if_pos foreign]
    exact .wrongProtocol (accepts_iff.mpr foreign)
  rw [if_neg foreign]
  have accepts : s.Accepts p :=
    Classical.byContradiction fun others => foreign (accepts_iff.mp others)
  cases row : s.table.row? p.command with
  | none => exact .badCommand accepts row
  | some command =>
    cases command with
    | lookup =>
      cases named : namedIndex registry p with
      | ok index => exact .lookupFinds accepts row (leads_ok_iff.mpr named)
      | error code => exact .lookupFails accepts row (leads_error_iff.mpr ⟨code, named, rfl⟩)
    | object handler =>
      by_cases missing : p.index = 0 ∧ isSystemCommand p.command = true
      · simp only [if_pos missing]
        exact .indexMissing accepts row missing.1 (takesIndexOnly_iff.mpr missing.2)
      simp only [if_neg missing]
      have usable (unset : p.index = 0) : ¬ TakesIndexOnly p.command :=
        fun only => missing ⟨unset, takesIndexOnly_iff.mp only⟩
      cases aimed : aim registry p with
      | error code =>
        obtain ⟨unset, leads⟩ := aim_eq_error aimed
        exact .nameFails accepts row unset (usable unset) leads
      | ok index =>
        cases found : registry.object? index with
        | none =>
          simp only [found]
          exact .noObject accepts row usable (aim_eq_ok_iff.mp aimed)
            (Registry.object?_eq_none_iff.mp found)
        | some object =>
          simp only [found]
          obtain ⟨name, there⟩ := Registry.object?_eq_some_iff.mp found
          exact .reaches accepts row usable (aim_eq_ok_iff.mp aimed) there

/-- The rules decide every request in one way. -/
theorem decides_iff : Decides s registry p v ↔ v = s.verdict registry p := by
  constructor
  · intro decided
    exact (verdict_of_decides decided).symm
  · rintro rfl
    exact decides_verdict s registry p

theorem addressed_eq (registry : Registry ω) (p : Packet) :
    addressed registry p = (aim registry p).map fun index => { p with index } := by
  unfold addressed aim
  by_cases unset : p.index = 0
  · rw [if_pos unset, if_pos unset]
    rfl
  · rw [if_neg unset, if_neg unset]
    rfl

/-- Dispatching carries the verdict out. -/
theorem dispatch_eq_answer (s : Service ω) (registry : Registry ω) (p : Packet) :
    s.dispatch registry p = (s.verdict registry p).answer p := by
  unfold dispatch handle verdict
  by_cases foreign : p.protocol ≠ s.protocol ∧ p.protocol ≠ Protocol.system
  · rw [if_pos foreign, if_pos foreign]
    rfl
  rw [if_neg foreign, if_neg foreign]
  cases s.table.row? p.command with
  | none => rfl
  | some command =>
    cases command with
    | lookup => cases namedIndex registry p <;> rfl
    | object handler =>
      by_cases missing : p.index = 0 ∧ isSystemCommand p.command = true
      · simp only [if_pos missing]
        rw [← missing.1]
        rfl
      simp only [if_neg missing, addressed_eq]
      cases aimed : aim registry p with
      | error code =>
        simp only [← (aim_eq_error aimed).1]
        rfl
      | ok index =>
        simp only [Except.map]
        cases registry.object? index with
        | none => rfl
        | some object =>
          simp only [Verdict.answer]
          congr 1
          funext handled
          obtain ⟨q, outcome⟩ := handled
          cases outcome <;> rfl

end Service

/-! ## What the reply says -/

section

variable {s : Service ω} {registry : Registry ω} {p d : Packet} {v : Verdict ω}
  {acts : List (Prog.Exchange Act.Reply)}

theorem Leads.number_ne_zero {number : UInt16} (h : Leads registry p (.error number)) :
    number ≠ 0 := by
  cases h with
  | noText => decide
  | unknown => decide

theorem Decides.number_ne_zero {index number : UInt16}
    (h : Decides s registry p (.refused index number)) : number ≠ 0 := by
  cases h with
  | wrongProtocol => decide
  | badCommand => decide
  | lookupFails _ _ leads => exact leads.number_ne_zero
  | indexMissing => decide
  | nameFails _ _ _ _ leads => exact leads.number_ne_zero
  | noObject => decide

theorem Decides.row {handler : Handler ω} {object : ω} {index : UInt16}
    (h : Decides s registry p (.runs handler object index)) :
    s.table.row? p.command = some (.object handler) := by
  cases h with
  | reaches _ row => exact row

namespace Verdict

/-- Where a handler is to run, its outcome makes the reply. -/
theorem answer_runs (handler : Handler ω) (object : ω) (index : UInt16) :
    (runs handler object index).answer p
      = handler object { p with index } >>= fun r => .done (Service.reply r) := by
  simp only [answer]
  congr 1
  funext handled
  obtain ⟨q, outcome⟩ := handled
  cases outcome <;> rfl

/-- Where a handler is to run, a run is one of the handler, and its outcome makes the reply. -/
theorem of_answer_runs {handler : Handler ω} {object : ω} {index : UInt16}
    (h : Runs ((runs handler object index).answer p) acts d) :
    ∃ q outcome, Runs (handler object { p with index }) acts (q, outcome) ∧
      d = Service.reply (q, outcome) := by
  rw [answer_runs] at h
  obtain ⟨before, after, ⟨q, outcome⟩, rfl, first, last⟩ := Runs.of_bind h
  obtain ⟨rfl, rfl⟩ := Runs.of_done last
  rw [List.append_nil]
  exact ⟨q, outcome, first, rfl⟩

/-- A reply that tells of a failure has no payload. -/
theorem length_of_failure (h : Runs (v.answer p) acts d) (failed : d.errorCode ≠ 0) :
    d.length = 0 := by
  cases v with
  | refused index number =>
    obtain ⟨-, rfl⟩ := Runs.of_done h
    rfl
  | found index =>
    obtain ⟨-, rfl⟩ := Runs.of_done h
    rfl
  | runs handler object index =>
    obtain ⟨q, outcome, -, rfl⟩ := of_answer_runs h
    cases outcome with
    | ok _ => exact absurd rfl failed
    | error code => rfl

/-- A reply tells of a success if the request is handled successfully, and only then. -/
theorem succeeds_iff (decided : Decides s registry p v) (sincere : s.Sincere)
    (h : Runs (v.answer p) acts d) : d.errorCode = 0 ↔ v.Succeeds p acts := by
  cases v with
  | refused index number =>
    obtain ⟨-, rfl⟩ := Runs.of_done h
    exact iff_of_false decided.number_ne_zero id
  | found index =>
    obtain ⟨-, rfl⟩ := Runs.of_done h
    exact iff_of_true rfl trivial
  | runs handler object index =>
    obtain ⟨q, outcome, run, rfl⟩ := of_answer_runs h
    cases outcome with
    | ok _ => exact iff_of_true rfl ⟨q, run⟩
    | error code =>
      refine iff_of_false (sincere _ _ decided.row _ _ _ _ _ run) ?_
      rintro ⟨q', other⟩
      cases Runs.unique run other

end Verdict

end

/-- One verdict stands for a request and dispatching carries it out. If the request is handled
successfully, and only then, the reply has the error code zero; else it has no payload. -/
theorem Service.dispatch_decided (s : Service ω) (registry : Registry ω) (p : Packet) :
    ∃ v, (∀ w, Decides s registry p w ↔ w = v) ∧ s.dispatch registry p = v.answer p ∧
      ∀ acts d, Runs (s.dispatch registry p) acts d →
        (d.errorCode ≠ 0 → d.length = 0) ∧ (s.Sincere → (d.errorCode = 0 ↔ v.Succeeds p acts)) := by
  refine ⟨s.verdict registry p, fun w => decides_iff, dispatch_eq_answer s registry p, ?_⟩
  intro acts d run
  rw [dispatch_eq_answer] at run
  exact ⟨Verdict.length_of_failure run, fun sincere =>
    Verdict.succeeds_iff (decides_verdict s registry p) sincere run⟩

/-! ## Two stations -/

namespace Stations

/-- The temperatures at two stations. -/
def registry : Registry Binary64 :=
  .of [("north", .zero), ("south", .infinity)] (by decide) (by decide)

/-- Answers with a temperature. -/
def temperature : Handler Binary64 := fun t p => return (p.setF64 .first t, .ok ())

/-- A service for temperatures. -/
def service : Service Binary64 where
  name := "weather"
  protocol := Protocol.aws
  table := CommandTable.on 1 temperature []

/-- A request for the temperature at the station in the south, by its name. -/
def southRequest : Packet :=
  { Packet.empty with
    protocol := Protocol.aws, command := 1, carrier := .ofBytes (Utf8.encode "south") }

/-- The request reaches the second station, and the reply tells of a success. -/
theorem dispatch_decided_south :
    let south := Verdict.runs temperature .infinity 2
    service.Sincere ∧ Decides service registry southRequest south ∧
      service.dispatch registry southRequest = south.answer southRequest ∧
      ∃ d, Runs (service.dispatch registry southRequest) [] d ∧ d.errorCode = 0 := by
  intro south
  have each : CommandTable.Each (· = temperature) service.table := CommandTable.Each.empty.on 1 rfl
  have sincere : service.Sincere := by
    intro command handler row object p acts q code run
    obtain rfl := each.row? row
    cases (Runs.of_done run).2
  have there : registry.At 2 "south" .infinity := ⟨1, rfl, rfl⟩
  have indexless : ¬ TakesIndexOnly southRequest.command := by
    unfold TakesIndexOnly
    decide
  have decided : Decides service registry southRequest south :=
    .reaches (.inl rfl) rfl (fun _ => indexless) (.named rfl (.known (by decide) there)) there
  obtain ⟨v, unique, carried, reply⟩ := Service.dispatch_decided service registry southRequest
  obtain rfl := (unique south).mp decided
  have run : Runs (service.dispatch registry southRequest) []
      (Service.reply ({ southRequest with index := 2 }.setF64 .first .infinity, .ok ())) := by
    rw [carried]
    exact .done _
  exact ⟨sincere, decided, carried, _, run, ((reply _ _ run).2 sincere).mpr ⟨_, .done _⟩⟩

end Stations

end DeviceRpc
