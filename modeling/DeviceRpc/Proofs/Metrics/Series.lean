import Mathlib.Algebra.Ring.Int.Defs
import Mathlib.Algebra.Ring.Nat
import DeviceRpc.Metrics.Family
import DeviceRpc.Proofs.Metrics.Label

/-!
# What a series adds up to

A family has one series for each label set that was ever used, and its value is what the uses under
that label set come to, whatever was used in between (`Family.Tracks`, kept by every use). So the
orders to go through a family are the lists of the label sets that were used
(`Family.Tracks.perm_iff`). Numbers wrap around: a counter has its sum modulo two to the power of
sixty-four, a gauge the same sum read with a sign, and a histogram the numbers of its observations.
-/

namespace DeviceRpc

namespace Metrics

namespace Family

variable {α β : Type} {key : Labels} {family : Family α} {v : α}

/-! ## A table of series -/

theorem lookup_cons (key' key : Labels) (v : α) (rest : Family α) :
    List.lookup key' ((key, v) :: rest) = if key' = key then some v else rest.lookup key' := by
  by_cases same : key' = key
  · simp [same]
  · simp [List.lookup_cons, same, beq_eq_false_iff_ne.mpr same]

theorem mem_iff_lookup (distinct : (family.map Prod.fst).Nodup) :
    (key, v) ∈ family ↔ family.lookup key = some v := by
  induction family with
  | nil => simp
  | cons series rest ih =>
    obtain ⟨k, w⟩ := series
    obtain ⟨fresh, distinct⟩ := List.nodup_cons.mp distinct
    by_cases same : key = k
    · subst same
      have absent : (key, v) ∉ rest := fun mem =>
        fresh (List.mem_map_of_mem mem : (key, v).1 ∈ rest.map Prod.fst)
      simp [absent, eq_comm]
    · simp [lookup_cons, same, ih distinct]

variable [Inhabited α]

theorem lookup_update (key key' : Labels) (change : α → α) (family : Family α) :
    (update key change family).lookup key'
      = if key' = key then some (change ((family.lookup key).getD default))
        else family.lookup key' := by
  induction family with
  | nil => simp [update, lookup_cons]
  | cons series rest ih =>
    obtain ⟨k, v⟩ := series
    by_cases here : k = key
    · by_cases same : key' = key
      · simp [update, here, same]
      · simp [update, lookup_cons, here, same]
    · by_cases there : key' = k
      · simp [update, here, there]
      · simp [update, lookup_cons, here, there, ih, Ne.symm here]

theorem keys_update (key : Labels) (change : α → α) (family : Family α) :
    (update key change family).map Prod.fst
      = if key ∈ family.map Prod.fst then family.map Prod.fst
        else family.map Prod.fst ++ [key] := by
  induction family with
  | nil => simp [update]
  | cons series rest ih =>
    obtain ⟨k, v⟩ := series
    by_cases here : k = key
    · simp [update, here]
    · by_cases mem : key ∈ rest.map Prod.fst
      · rw [if_pos mem] at ih
        have there : key ∈ ((k, v) :: rest).map Prod.fst := List.mem_cons_of_mem _ mem
        rw [if_pos there, update, if_neg here, List.map_cons, ih, List.map_cons]
      · rw [if_neg mem] at ih
        have absent : key ∉ ((k, v) :: rest).map Prod.fst := by
          simpa [Ne.symm here] using mem
        rw [if_neg absent, update, if_neg here, List.map_cons, ih, List.map_cons, List.cons_append]

/-! ## Uses -/

/-- What was used under some labels, in whatever order they were given. -/
def amounts (pairs : List (String × String)) (uses : List (List (String × String) × β)) : List β :=
  (uses.filter fun use => use.1.isPerm pairs).map Prod.snd

variable {pairs : List (String × String)} {uses uses' : List (List (String × String) × β)}
  {act : α → β → α}

theorem amounts_concat (pairs : List (String × String)) (use : List (String × String) × β)
    (uses : List (List (String × String) × β)) :
    amounts pairs (uses ++ [use])
      = if use.1.Perm pairs then amounts pairs uses ++ [use.2] else amounts pairs uses := by
  by_cases perm : use.1.Perm pairs
  · simp [amounts, List.isPerm_iff.mpr perm, perm]
  · have other : use.1.isPerm pairs = false :=
      Bool.eq_false_iff.mpr fun same => perm (List.isPerm_iff.mp same)
    simp [amounts, other, perm]

theorem amounts_ne_nil_iff : amounts pairs uses ≠ [] ↔ ∃ use ∈ uses, use.1.Perm pairs := by
  simp [amounts, List.isPerm_iff]

/-- Label sets in some order, all that were used: each once, with its pairs sorted. -/
structure Names (uses : List (List (String × String) × β)) (keys : List Labels) : Prop where
  distinct : keys.Nodup
  sorted : ∀ key ∈ keys, labels key = key
  used : ∀ pairs, labels pairs ∈ keys ↔ ∃ use ∈ uses, use.1.Perm pairs

namespace Names

variable {keys keys' : List Labels}

theorem mem_iff (names : Names uses keys) :
    key ∈ keys ↔ labels key = key ∧ ∃ use ∈ uses, use.1.Perm key := by
  constructor
  · intro mem
    have sorted := names.sorted key mem
    exact ⟨sorted, (names.used key).mp (sorted.symm ▸ mem)⟩
  · rintro ⟨sorted, used⟩
    exact sorted ▸ (names.used key).mpr used

/-- The used label sets differ in their order only. -/
theorem perm (names : Names uses keys) (names' : Names uses keys') : keys.Perm keys' := by
  rw [List.perm_ext_iff_of_nodup names.distinct names'.distinct]
  intro key
  rw [names.mem_iff, names'.mem_iff]

theorem of_perm (names : Names uses keys) (perm : keys.Perm keys') : Names uses keys' where
  distinct := perm.nodup names.distinct
  sorted key mem := names.sorted key (perm.mem_iff.mpr mem)
  used pairs := perm.mem_iff.symm.trans (names.used pairs)

/-- In which order things were used does not matter. -/
theorem of_uses_perm (names : Names uses keys) (perm : uses.Perm uses') : Names uses' keys where
  distinct := names.distinct
  sorted := names.sorted
  used pairs := by simp only [names.used, perm.mem_iff]

end Names

/-- What some amounts come to, if there are any. -/
def tally (act : α → β → α) (amounts : List β) : Option α :=
  if amounts = [] then none else some (amounts.foldl act default)

theorem tally_eq_some_iff {amounts : List β} :
    tally act amounts = some v ↔ amounts ≠ [] ∧ v = amounts.foldl act default := by
  by_cases none : amounts = []
  · simp [tally, none]
  · simp [tally, none, eq_comm]

theorem tally_concat (act : α → β → α) (before : List β) (amount : β) :
    tally act (before ++ [amount]) = some (act ((tally act before).getD default) amount) := by
  by_cases first : before = []
  · simp [tally, first]
  · simp [tally, first]

/-- A family has a series for each label set that was used, with what its uses come to. -/
structure Tracks (act : α → β → α) (uses : List (List (String × String) × β))
    (family : Family α) : Prop where
  distinct : (family.map Prod.fst).Nodup
  sorted : ∀ key ∈ family.map Prod.fst, labels key = key
  value : ∀ pairs, family.lookup (labels pairs) = tally act (amounts pairs uses)

namespace Tracks

theorem nil : Tracks act ([] : List (List (String × String) × β)) [] where
  distinct := List.nodup_nil
  sorted := nofun
  value _ := rfl

/-- One more use. -/
theorem use (tracks : Tracks act uses family) (pairs : List (String × String)) (amount : β) :
    Tracks act (uses ++ [(pairs, amount)]) (update (labels pairs) (act · amount) family) where
  distinct := by
    rw [keys_update]
    split
    next => exact tracks.distinct
    next absent =>
      rw [List.nodup_append]
      refine ⟨tracks.distinct, by simp, fun key mem other same => ?_⟩
      rw [List.mem_singleton.mp same]
      exact fun same => absent (same ▸ mem)
  sorted key mem := by
    rw [keys_update] at mem
    split at mem
    next => exact tracks.sorted key mem
    next =>
      rcases List.mem_append.mp mem with mem | mem
      · exact tracks.sorted key mem
      · rw [List.mem_singleton.mp mem]
        exact labels_eq_iff.mpr (labels_perm pairs)
  value other := by
    rw [lookup_update, amounts_concat]
    by_cases perm : pairs.Perm other
    · have same := labels_eq_iff.mpr perm
      rw [if_pos same.symm, if_pos perm, tally_concat, ← tracks.value other, same]
    · have apart : labels other ≠ labels pairs := fun same => perm (labels_eq_iff.mp same.symm)
      rw [if_neg apart, if_neg perm, tracks.value other]

theorem mem_iff (tracks : Tracks act uses family) :
    (key, v) ∈ family ↔ labels key = key ∧ tally act (amounts key uses) = some v := by
  rw [← tracks.value, mem_iff_lookup tracks.distinct]
  constructor
  · intro found
    have mem := (mem_iff_lookup tracks.distinct).mpr found
    have sorted := tracks.sorted key (List.mem_map_of_mem mem)
    exact ⟨sorted, sorted.symm ▸ found⟩
  · rintro ⟨sorted, found⟩
    exact sorted ▸ found

theorem names (tracks : Tracks act uses family) : Names uses (family.map Prod.fst) where
  distinct := tracks.distinct
  sorted := tracks.sorted
  used pairs := by
    have found : labels pairs ∈ family.map Prod.fst ↔ ∃ v, (labels pairs, v) ∈ family := by simp
    simp only [found, mem_iff_lookup tracks.distinct, tracks.value, tally_eq_some_iff,
      amounts_ne_nil_iff, exists_and_left, exists_eq, and_true]

/-- A family in any order is its label sets in that order, each with what its uses come to. -/
theorem perm_iff (tracks : Tracks act uses family) {series : Family α} :
    series.Perm family ↔ ∃ keys, Names uses keys ∧
      series = keys.map fun key => (key, (amounts key uses).foldl act default) := by
  have valued {series : Family α} (sub : ∀ entry ∈ series, entry ∈ family) :
      (series.map Prod.fst).map (fun key => (key, (amounts key uses).foldl act default))
        = series := by
    rw [List.map_map]
    refine (List.map_congr_left fun entry mem => ?_).trans (List.map_id series)
    obtain ⟨-, found⟩ := tracks.mem_iff.mp (sub entry mem)
    exact Prod.ext rfl (tally_eq_some_iff.mp found).2.symm
  constructor
  · intro perm
    exact ⟨series.map Prod.fst, tracks.names.of_perm (perm.symm.map _),
      (valued fun entry mem => perm.mem_iff.mp mem).symm⟩
  · rintro ⟨keys, names, rfl⟩
    have listed := (names.perm tracks.names).map
      fun key => (key, (amounts key uses).foldl act default)
    rwa [valued fun _ mem => mem] at listed

end Tracks

end Family

/-! ## Numbers -/

theorem toNat_foldl (amounts : List UInt64) (v : UInt64) :
    (amounts.foldl (· + ·) v).toNat
      = (v.toNat + (amounts.map UInt64.toNat).sum) % UInt64.size := by
  induction amounts generalizing v with
  | nil => simp [Nat.mod_eq_of_lt v.toNat_lt]
  | cons a rest ih =>
    rw [List.foldl_cons, ih, UInt64.toNat_add, List.map_cons, List.sum_cons]
    have size : UInt64.size = 2 ^ 64 := rfl
    rw [size, Nat.mod_add_mod, Nat.add_assoc]

theorem toInt_foldl (amounts : List Int64) (v : Int64) :
    (amounts.foldl (· + ·) v).toInt
      = (v.toInt + (amounts.map Int64.toInt).sum).bmod UInt64.size := by
  induction amounts generalizing v with
  | nil => simp
  | cons a rest ih =>
    rw [List.foldl_cons, ih, Int64.toInt_add, List.map_cons, List.sum_cons]
    have size : UInt64.size = 2 ^ 64 := rfl
    rw [size, Int.bmod_add_bmod, Int.add_assoc]

namespace Histogram

/-- The microseconds of a duration, as many as sixty-four bits can hold. -/
def micros (nanoseconds : Nat) : Nat := min (nanoseconds / 1000) (UInt64.size - 1)

/-- How many durations do not exceed a bound. -/
def countUpTo (bound : Nat) (durations : List Nat) : Nat :=
  durations.countP fun duration => micros duration ≤ bound

theorem countUpTo_cons (bound duration : Nat) (rest : List Nat) :
    countUpTo bound (duration :: rest)
      = countUpTo bound rest + if micros duration ≤ bound then 1 else 0 := by
  simp [countUpTo, List.countP_cons]

theorem countUpTo_le (bound : Nat) (durations : List Nat) :
    countUpTo bound durations ≤ durations.length :=
  List.countP_le_length

theorem countUpTo_mono {bound bound' : Nat} (le : bound ≤ bound') (durations : List Nat) :
    countUpTo bound durations ≤ countUpTo bound' durations := by
  apply List.countP_mono_left
  simp only [decide_eq_true_eq]
  exact fun duration _ within => Nat.le_trans within le

/-- What observing some durations makes of a histogram with these buckets. -/
theorem foldl_observe (durations : List Nat) {h : Histogram} {start : Nat → UInt64}
    (buckets : h.buckets = bounds.map start) :
    durations.foldl (fun h duration => h.observe duration) h =
      { count := h.count + UInt64.ofNat durations.length
        sum := h.sum + UInt64.ofNat (durations.map micros).sum
        buckets := bounds.map fun bound =>
          start bound + UInt64.ofNat (countUpTo bound durations) } := by
  induction durations generalizing h start with
  | nil =>
    obtain ⟨count, sum, _⟩ := h
    simp_all [countUpTo]
  | cons duration rest ih =>
    have observed : (h.observe duration).buckets
        = bounds.map fun bound => start bound + if micros duration ≤ bound then 1 else 0 := by
      simp only [observe, buckets, List.zipWith_map_right, List.zipWith_self]
      apply List.map_congr_left
      intro bound _
      unfold micros
      split <;> simp
    rw [List.foldl_cons, ih observed]
    congr 1
    · simp [observe, UInt64.ofNat_add, UInt64.add_comm, UInt64.add_assoc]
    · simp [observe, micros, UInt64.ofNat_add, UInt64.add_assoc]
    · apply List.map_congr_left
      intro bound _
      rw [countUpTo_cons, UInt64.ofNat_add, UInt64.add_assoc]
      split <;> simp [UInt64.add_comm]

/-- The histogram of some durations. -/
theorem foldl_observe_default (durations : List Nat) :
    durations.foldl (fun h duration => h.observe duration) (default : Histogram) =
      { count := UInt64.ofNat durations.length
        sum := UInt64.ofNat (durations.map micros).sum
        buckets := bounds.map fun bound => UInt64.ofNat (countUpTo bound durations) } := by
  have start : (default : Histogram).buckets = bounds.map fun _ => 0 := rfl
  have zero : (default : Histogram).count = 0 ∧ (default : Histogram).sum = 0 := ⟨rfl, rfl⟩
  simp only [foldl_observe durations start, zero, UInt64.zero_add]

end Histogram

end Metrics

end DeviceRpc
