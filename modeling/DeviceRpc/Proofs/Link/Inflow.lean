import Mathlib.Data.List.Basic
import Mathlib.Data.List.TakeWhile
import Mathlib.Data.Nat.Find
import DeviceRpc.Link.Failure
import DeviceRpc.Link.Handle

/-!
# What arrives on a connection, and when

An inflow is what one side of a connection gets to read: bytes, each with the instant at which it
arrived, and perhaps the end. What a transfer comes to is a matter of the inflow alone
(`Inflow.Over`): it is over in the first instant in which all of its bytes are there or the end has
come, if that is before its limit, and otherwise at the limit. There is one such instant
(`Inflow.Over.unique`), and what arrives afterwards changes nothing about it
(`Inflow.Over.later`).
-/

namespace DeviceRpc

/-- What arrives on a connection. -/
structure Inflow where
  /-- The bytes in their order, each with the time of its arrival. -/
  bytes : List (Instant × UInt8) := []
  /-- When the end came. -/
  ended : Option Instant := none

namespace Inflow

/-- Everything that has arrived. -/
def stream (i : Inflow) : Bytes := i.bytes.map Prod.snd

/-- What has arrived before an instant. -/
def before (i : Inflow) (t : Instant) : Bytes := (i.bytes.takeWhile (·.1 < t)).map Prod.snd

/-- What has arrived when an instant is over. -/
def upTo (i : Inflow) (t : Instant) : Bytes := i.before (t + 1)

/-- The end has come before an instant. -/
def EndedBefore (i : Inflow) (t : Instant) : Prop := ∃ e, i.ended = some e ∧ e < t

/-- Before an instant there were fewer than `m` bytes, and not the end either. -/
structure Unfinished (i : Inflow) (m : Nat) (t : Instant) : Prop where
  few : (i.before t).length < m
  unended : ¬ i.EndedBefore t

/-- More arrives. -/
def arrive (i : Inflow) (now : Instant) (bs : Bytes) (closes : Bool) : Inflow where
  bytes := i.bytes ++ bs.map (now, ·)
  ended := i.ended.or (if closes then some now else none)

/-- Nothing has arrived later than this. -/
structure Past (i : Inflow) (now : Instant) : Prop where
  bytes : ∀ b ∈ i.bytes, b.1 ≤ now
  ended : ∀ e, i.ended = some e → e ≤ now

/-- Since an instant, more may have arrived, but nothing after the end. -/
structure Later (now : Instant) (i i' : Inflow) : Prop where
  bytes : ∃ more, i'.bytes = i.bytes ++ more ∧ ∀ b ∈ more, now ≤ b.1
  kept : ∀ e, i.ended = some e → i'.ended = some e ∧ i'.bytes = i.bytes
  ended : i.ended = none → ∀ e, i'.ended = some e → now ≤ e

variable {i i' i'' : Inflow} {m n : Nat} {t t' u now now' : Instant}

/-! ## What has arrived -/

theorem before_isPrefix (i : Inflow) (h : t ≤ u) : i.before t <+: i.before u := by
  have same : i.bytes.takeWhile (·.1 < t) = (i.bytes.takeWhile (·.1 < u)).takeWhile (·.1 < t) := by
    rw [List.takeWhile_takeWhile]
    congr 1
    funext b
    simp only [decide_eq_decide, decide_eq_true_eq]
    exact ⟨fun early => ⟨early, Nat.lt_of_lt_of_le early h⟩, And.left⟩
  rw [before, before, same]
  exact (List.takeWhile_prefix _).map _

theorem upTo_isPrefix (i : Inflow) (h : t ≤ u) : i.upTo t <+: i.upTo u :=
  i.before_isPrefix (Nat.add_le_add_right h 1)

theorem upTo_isPrefix_stream (i : Inflow) (t : Instant) : i.upTo t <+: i.stream :=
  (List.takeWhile_prefix _).map _

theorem EndedBefore.mono (h : i.EndedBefore t) (le : t ≤ u) : i.EndedBefore u := by
  obtain ⟨e, ended, early⟩ := h
  exact ⟨e, ended, Nat.lt_of_lt_of_le early le⟩

theorem Unfinished.mono (h : i.Unfinished m u) (le : t ≤ u) : i.Unfinished m t where
  few := Nat.lt_of_le_of_lt (i.before_isPrefix le).length_le h.few
  unended ended := h.unended (ended.mono le)

/-- All that has arrived so far has arrived. -/
theorem Past.before_eq (h : i.Past now) (late : now < t) : i.before t = i.stream := by
  have all : i.bytes.takeWhile (·.1 < t) = i.bytes := by
    refine List.takeWhile_eq_self_iff.mpr fun b mem => ?_
    exact decide_eq_true (Nat.lt_of_le_of_lt (h.bytes b mem) late)
  rw [before, all, stream]

theorem Past.upTo_eq (h : i.Past now) : i.upTo now = i.stream := h.before_eq (Nat.lt_succ_self now)

theorem Past.endedBefore_iff (h : i.Past now) (late : now < t) :
    i.EndedBefore t ↔ i.ended.isSome := by
  rw [Option.isSome_iff_exists]
  constructor
  · rintro ⟨e, ended, -⟩
    exact ⟨e, ended⟩
  · rintro ⟨e, ended⟩
    exact ⟨e, ended, Nat.lt_of_le_of_lt (h.ended e ended) late⟩

theorem Past.mono (h : i.Past now) (le : now ≤ now') : i.Past now' where
  bytes b mem := Nat.le_trans (h.bytes b mem) le
  ended e ended := Nat.le_trans (h.ended e ended) le

/-! ## More arrives -/

theorem stream_arrive (i : Inflow) (now : Instant) (bs : Bytes) (closes : Bool) :
    (i.arrive now bs closes).stream = i.stream ++ bs := by
  simp [stream, arrive, Function.comp_def]

theorem isSome_ended_arrive (i : Inflow) (now : Instant) (bs : Bytes) (closes : Bool) :
    (i.arrive now bs closes).ended.isSome = (i.ended.isSome || closes) := by
  cases ended : i.ended <;> cases closes <;> simp [arrive, ended]

theorem arrive_nothing (i : Inflow) (now : Instant) : i.arrive now [] false = i := by
  simp [arrive]

theorem Past.arrive (h : i.Past now) (bs : Bytes) (closes : Bool) :
    (i.arrive now bs closes).Past now where
  bytes b mem := by
    rcases List.mem_append.mp mem with old | new
    · exact h.bytes b old
    · obtain ⟨_, -, rfl⟩ := List.mem_map.mp new
      exact Nat.le_refl now
  ended e ended := by
    rcases Option.or_eq_some_iff.mp ended with old | ⟨-, new⟩
    · exact h.ended e old
    · cases closes <;> cases new
      exact Nat.le_refl now

theorem later_arrive {bs : Bytes} (closes : Bool) (quiet : i.ended ≠ none → bs = [])
    (le : now ≤ now') : Later now i (i.arrive now' bs closes) where
  bytes := by
    refine ⟨_, rfl, fun b mem => ?_⟩
    obtain ⟨_, -, rfl⟩ := List.mem_map.mp mem
    exact le
  kept e ended := by
    obtain rfl := quiet (ended ▸ Option.some_ne_none e)
    simp [arrive, ended]
  ended unended e ended := by
    cases closes <;> simp [arrive, unended] at ended
    exact ended ▸ le

namespace Later

theorem refl (now : Instant) (i : Inflow) : Later now i i where
  bytes := ⟨[], (List.append_nil _).symm, nofun⟩
  kept _ ended := ⟨ended, rfl⟩
  ended unended e ended := by
    rw [unended] at ended
    cases ended

theorem trans (h : Later now i i') (h' : Later now' i' i'') (le : now ≤ now') :
    Later now i i'' where
  bytes := by
    obtain ⟨more, same, late⟩ := h.bytes
    obtain ⟨more', same', late'⟩ := h'.bytes
    refine ⟨more ++ more', by rw [same', same, List.append_assoc], ?_⟩
    exact List.forall_mem_append.mpr ⟨late, fun b mem => Nat.le_trans le (late' b mem)⟩
  kept e ended := by
    obtain ⟨ended, same⟩ := h.kept e ended
    obtain ⟨ended', same'⟩ := h'.kept e ended
    exact ⟨ended', same'.trans same⟩
  ended unended e ended := by
    cases meanwhile : i'.ended with
    | none => exact Nat.le_trans le (h'.ended meanwhile e ended)
    | some e' =>
      obtain ⟨same, -⟩ := h'.kept e' meanwhile
      cases same.symm.trans ended
      exact h.ended unended e meanwhile

/-- What had arrived before remains what it was. -/
theorem before_eq (h : Later now i i') (le : t ≤ now) : i'.before t = i.before t := by
  obtain ⟨more, same, late⟩ := h.bytes
  have none : more.takeWhile (·.1 < t) = [] := by
    cases more with
    | nil => rfl
    | cons b more =>
      have behind : t ≤ b.1 := Nat.le_trans le (late b (List.mem_cons_self ..))
      exact List.takeWhile_cons_of_neg (by simpa using behind)
  rw [before, before, same, List.takeWhile_append, none, List.append_nil]
  split
  · next all => rw [(List.takeWhile_prefix _).eq_of_length all]
  · rfl

theorem upTo_isPrefix (h : Later now i i') (t : Instant) : i.upTo t <+: i'.upTo t := by
  obtain ⟨more, same, -⟩ := h.bytes
  rw [upTo, before, upTo, before, same, List.takeWhile_append]
  refine List.IsPrefix.map _ ?_
  split
  · exact (List.takeWhile_prefix _).trans (List.prefix_append ..)
  · exact List.prefix_refl _

theorem endedBefore_iff (h : Later now i i') (le : t ≤ now) :
    i'.EndedBefore t ↔ i.EndedBefore t := by
  constructor
  · rintro ⟨e, ended, early⟩
    cases before : i.ended with
    | none =>
      have late : now ≤ e := h.ended before e ended
      exact absurd early (Nat.not_lt.mpr (Nat.le_trans le late))
    | some e' =>
      obtain ⟨same, -⟩ := h.kept e' before
      cases same.symm.trans ended
      exact ⟨e, before, early⟩
  · rintro ⟨e, ended, early⟩
    exact ⟨e, (h.kept e ended).1, early⟩

theorem unfinished (h : Later now i i') (le : t ≤ now) (unfinished : i.Unfinished m t) :
    i'.Unfinished m t where
  few := (h.before_eq le).symm ▸ unfinished.few
  unended := (h.endedBefore_iff le).not.mpr unfinished.unended

end Later

/-! ## When a transfer is over -/

/-- A transfer that began at `start`, and wants the first `m` bytes of an inflow, has not been over
before an instant, and has time left. -/
structure Pending (i : Inflow) (m : Nat) (start : Instant) (limit : Option Instant) (t : Instant) :
    Prop where
  since : start ≤ t
  inTime : ∀ l, limit = some l → t < l
  first : start < t → i.Unfinished m t

/-- A transfer is over in an instant. This is what has been read of the inflow then, and the reason
if that is not everything. -/
inductive Over (i : Inflow) (m : Nat) (start : Instant) (limit : Option Instant) :
    Instant → Bytes → Option LinkFailure → Prop where
  | complete {t : Instant} (pending : i.Pending m start limit t) (all : m ≤ (i.upTo t).length) :
      Over i m start limit t ((i.upTo t).take m) none
  | ended {t : Instant} (pending : i.Pending m start limit t) (few : (i.upTo t).length < m)
      (ended : i.EndedBefore (t + 1)) : Over i m start limit t (i.upTo t) (some .closed)
  | late {l : Instant} (since : start < l) (limited : limit = some l)
      (unfinished : i.Unfinished m l) : Over i m start limit l (i.before l) (some .timedOut)

/-- In an instant there is a reason to stop: everything is there, or the end has come, or the limit
has. -/
def Stops (i : Inflow) (m : Nat) (start : Instant) (limit : Option Instant) (t : Instant) : Prop :=
  start ≤ t ∧ (m ≤ (i.upTo t).length ∨ i.EndedBefore (t + 1) ∨ limit = some t)

variable {start : Instant} {limit : Option Instant} {read read' : Bytes}
  {reason reason' : Option LinkFailure}

theorem Pending.later (h : i.Pending m start limit t) (le : t ≤ now) (more : Later now i i') :
    i'.Pending m start limit t where
  since := h.since
  inTime := h.inTime
  first later := more.unfinished le (h.first later)

namespace Over

theorem since (h : i.Over m start limit t read reason) : start ≤ t := by
  cases h with
  | complete pending => exact pending.since
  | ended pending => exact pending.since
  | late since => exact Nat.le_of_lt since

theorem length (h : i.Over m start limit t read none) : read.length = m := by
  cases h with
  | complete _ all => exact List.length_take_of_le all

/-- Until the instant in which it is over, it was unfinished. -/
theorem unfinished (h : i.Over m start limit t read reason) (later : start < t) :
    i.Unfinished m t := by
  cases h with
  | complete pending => exact pending.first later
  | ended pending => exact pending.first later
  | late _ _ unfinished => exact unfinished

theorem le_limit (h : i.Over m start limit t read reason) (l : Instant) (limited : limit = some l) :
    t ≤ l := by
  cases h with
  | complete pending => exact Nat.le_of_lt (pending.inTime l limited)
  | ended pending => exact Nat.le_of_lt (pending.inTime l limited)
  | late _ limited' =>
    cases limited'.symm.trans limited
    exact Nat.le_refl _

/-- As long as a transfer is unfinished and has time left, it is not over. -/
theorem le_of_unfinished (h : i.Over m start limit t read reason) (unfinished : i.Unfinished m u)
    (inTime : ∀ l, limit = some l → u ≤ l) : u ≤ t := by
  refine Nat.le_of_not_lt fun early => ?_
  have still : i.Unfinished m (t + 1) := unfinished.mono early
  cases h with
  | complete _ all => exact Nat.not_lt.mpr all still.few
  | ended _ _ ended => exact still.unended ended
  | late _ limited => exact Nat.not_lt.mpr (inTime t limited) early

theorem le_of_pending (h : i.Over m start limit t read reason)
    (pending : i.Pending m start limit u) : u ≤ t := by
  rcases Nat.eq_or_lt_of_le pending.since with rfl | later
  · exact h.since
  · exact h.le_of_unfinished (pending.first later) fun l limited =>
      Nat.le_of_lt (pending.inTime l limited)

theorem instant_le (h : i.Over m start limit t read reason)
    (h' : i.Over m start limit t' read' reason') : t' ≤ t := by
  rcases Nat.eq_or_lt_of_le h'.since with rfl | later
  · exact h.since
  · exact h.le_of_unfinished (h'.unfinished later) h'.le_limit

/-- **A transfer is over once.** -/
theorem unique (h : i.Over m start limit t read reason)
    (h' : i.Over m start limit t' read' reason') : t = t' ∧ read = read' ∧ reason = reason' := by
  obtain rfl := Nat.le_antisymm (h'.instant_le h) (h.instant_le h')
  refine ⟨rfl, ?_⟩
  have apart (pending : i.Pending m start limit t) (limited : limit = some t) : False :=
    Nat.lt_irrefl t (pending.inTime t limited)
  cases h with
  | complete pending all =>
    cases h' with
    | complete => exact ⟨rfl, rfl⟩
    | ended _ few => exact absurd few (Nat.not_lt.mpr all)
    | late _ limited => exact (apart pending limited).elim
  | ended pending few =>
    cases h' with
    | complete _ all => exact absurd few (Nat.not_lt.mpr all)
    | ended => exact ⟨rfl, rfl⟩
    | late _ limited => exact (apart pending limited).elim
  | late _ limited =>
    cases h' with
    | complete pending => exact (apart pending limited).elim
    | ended pending => exact (apart pending limited).elim
    | late => exact ⟨rfl, rfl⟩

/-- What arrives later does not matter to it. -/
theorem later (h : i.Over m start limit t read reason) (le : t ≤ now) (more : Later now i i') :
    i'.Over m start limit t read reason := by
  cases h with
  | complete pending all =>
    have longer := more.upTo_isPrefix t
    have same : (i.upTo t).take m = (i'.upTo t).take m := by
      obtain ⟨rest, split⟩ := longer
      rw [← split, List.take_append_of_le_length all]
    rw [same]
    exact .complete (pending.later le more) (Nat.le_trans all longer.length_le)
  | ended pending few ended =>
    obtain ⟨e, come, early⟩ := ended
    obtain ⟨come', same⟩ := more.kept e come
    have nothing : i.upTo t = i'.upTo t := by rw [upTo, before, upTo, before, same]
    rw [nothing] at few ⊢
    exact .ended (pending.later le more) few ⟨e, come', early⟩
  | late since limited unfinished =>
    rw [← more.before_eq le]
    exact .late since limited (more.unfinished le unfinished)

/-- A transfer is over for want of time just if it was unfinished for all of it. -/
theorem timedOut_iff {l : Instant} :
    (∃ read, i.Over m start (some l) t read (some .timedOut)) ↔
      t = l ∧ start < l ∧ i.Unfinished m l := by
  constructor
  · rintro ⟨_, _ | _ | ⟨since, ⟨⟩, unfinished⟩⟩
    exact ⟨rfl, since, unfinished⟩
  · rintro ⟨rfl, since, unfinished⟩
    exact ⟨_, .late since rfl unfinished⟩

/-- Without a limit there is always time. -/
theorem ne_timedOut (h : i.Over m start none t read reason) : reason ≠ some .timedOut := by
  rintro rfl
  cases h with
  | late _ limited => cases limited

/-- The first instant in which there is a reason to stop is that in which a transfer is over. -/
theorem of_stops (time : ∀ l, limit = some l → start < l) (stops : i.Stops m start limit t)
    (first : ∀ u, u < t → ¬ i.Stops m start limit u) :
    ∃ read reason, i.Over m start limit t read reason := by
  obtain ⟨since, stop⟩ := stops
  have unfinished (later : start < t) : i.Unfinished m t := by
    obtain ⟨u, rfl⟩ := Nat.exists_eq_add_of_lt later
    have before := first (start + u) (Nat.lt_succ_self _)
    simp only [Stops, Nat.le_add_right, true_and, not_or] at before
    exact ⟨Nat.lt_of_not_le before.1, before.2.1⟩
  by_cases late : limit = some t
  · exact ⟨_, _, .late (time t late) late (unfinished (time t late))⟩
  · have pending : i.Pending m start limit t := by
      refine ⟨since, fun l limited => Nat.lt_of_not_le fun passed => ?_, unfinished⟩
      rcases Nat.eq_or_lt_of_le passed with rfl | early
      · exact late limited
      · exact first l early ⟨Nat.le_of_lt (time l limited), .inr (.inr limited)⟩
    by_cases all : m ≤ (i.upTo t).length
    · exact ⟨_, _, .complete pending all⟩
    · have ended : i.EndedBefore (t + 1) := (stop.resolve_left all).resolve_right late
      exact ⟨_, _, .ended pending (Nat.lt_of_not_le all) ended⟩

/-- A transfer is over at some time, unless it may go on for ever. -/
theorem exists_over (past : i.Past now) (m : Nat) (time : ∀ l, limit = some l → start < l)
    (ends : limit = none → m ≤ i.stream.length ∨ i.ended.isSome) :
    ∃ t read reason, i.Over m start limit t read reason := by
  have stops : ∃ t, i.Stops m start limit t := by
    cases limit with
    | some l => exact ⟨l, Nat.le_of_lt (time l rfl), .inr (.inr rfl)⟩
    | none =>
      have past' := past.mono (Nat.le_max_right start now)
      refine ⟨max start now, Nat.le_max_left .., ?_⟩
      rw [past'.upTo_eq, past'.endedBefore_iff (Nat.lt_succ_self _)]
      exact (ends rfl).imp_right .inl
  classical
  exact ⟨Nat.find stops, of_stops time (Nat.find_spec stops) fun _ => Nat.find_min stops⟩

/-- A transfer that has a time of its own is over at some time. -/
theorem exists_limited {T : Nat} (past : i.Past now) (m : Nat) (positive : 0 < T)
    (start : Instant) : ∃ t read reason, i.Over m start (some (start + T)) t read reason := by
  refine exists_over past m ?_ nofun
  rintro _ ⟨⟩
  exact Nat.lt_add_of_pos_right positive

end Over

end Inflow

end DeviceRpc
