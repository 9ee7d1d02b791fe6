import DeviceRpc.Registry
import Mathlib.Data.List.Nodup

/-!
# Names in a registry

Objects are counted from one in the order they were registered, the fixed ones first. An object `At`
an index is found by that index, and its name leads to that index and to no other, although the two
lists of a registry are searched in different ways: the fixed objects lie at the places that their
indexes say, and a late one is found by going through all of them. Both rest on `at_iff_mem`.
-/

namespace DeviceRpc.Registry

variable {α : Type} {entries fixed : List (Entry α)} {r : Registry α} {index : UInt16}
  {name : String} {object : α}

/-! ## Entries -/

namespace Numbered

variable {e f : Entry α}

theorem eq_of_name (h : Numbered entries) (mem : e ∈ entries) (mem' : f ∈ entries)
    (same : e.name = f.name) : e = f :=
  List.inj_on_of_nodup_map h.nodup mem mem' same

theorem eq_of_index (h : Numbered entries) (mem : e ∈ entries) (mem' : f ∈ entries)
    (same : e.index = f.index) : e = f := by
  obtain ⟨k, here⟩ := List.mem_iff_getElem?.mp mem
  obtain ⟨k', here'⟩ := List.mem_iff_getElem?.mp mem'
  have count := h.index here
  have count' := h.index here'
  rw [same, count'] at count
  obtain rfl : k' = k := Nat.succ.inj count
  exact Option.some.inj (here.symm.trans here')

theorem index_ne_zero (h : Numbered entries) (mem : e ∈ entries) : e.index ≠ 0 := by
  intro zero
  obtain ⟨k, here⟩ := List.mem_iff_getElem?.mp mem
  have count := h.index here
  rw [zero] at count
  cases count

/-- The place of an entry is its index less one. -/
theorem getElem?_index (h : Numbered entries) (mem : e ∈ entries) :
    entries[e.index.toNat - 1]? = some e := by
  obtain ⟨k, here⟩ := List.mem_iff_getElem?.mp mem
  rw [h.index here, Nat.add_sub_cancel, here]

theorem left (h : Numbered (fixed ++ entries)) : Numbered fixed where
  nodup := by
    have nodup := h.nodup
    rw [List.map_append, List.nodup_append] at nodup
    exact nodup.1
  index := by
    intro k e here
    have inside : k < fixed.length := (List.getElem?_eq_some_iff.mp here).1
    exact h.index (by rw [List.getElem?_append_left inside, here])

end Numbered

theorem numbered (r : Registry α) : Numbered r.all := r.late.numbered

theorem length_entries (r : Registry α) : r.entries.length = r.size := by
  rw [entries, List.length_map, all, List.length_append, size]

theorem length_le (r : Registry α) : r.entries.length ≤ 65535 := by
  rw [entries, List.length_map]
  exact r.numbered.length_le

theorem nodup (r : Registry α) : (r.entries.map Prod.fst).Nodup := by
  rw [entries, List.map_map]
  exact r.numbered.nodup

/-! ## Searching -/

theorem mem_of_indexIn (found : indexIn entries name = some index) :
    ∃ object, ⟨name, index, object⟩ ∈ entries := by
  obtain ⟨e, first, rfl⟩ := Option.map_eq_some_iff.mp found
  have named := List.find?_some first
  obtain rfl : e.name = name := of_decide_eq_true named
  exact ⟨e.object, List.mem_of_find?_eq_some first⟩

theorem mem_of_objectIn (found : objectIn entries index = some object) :
    ∃ name, ⟨name, index, object⟩ ∈ entries := by
  obtain ⟨e, first, rfl⟩ := Option.map_eq_some_iff.mp found
  have counted := List.find?_some first
  obtain rfl : e.index = index := of_decide_eq_true counted
  exact ⟨e.name, List.mem_of_find?_eq_some first⟩

theorem mem_of_objectAt (h : Numbered fixed) (counted : index ≠ 0)
    (found : objectAt fixed index = some object) : ∃ name, ⟨name, index, object⟩ ∈ fixed := by
  have positive : index.toNat ≠ 0 := fun zero => counted (UInt16.toNat.inj zero)
  obtain ⟨e, here, rfl⟩ := Option.map_eq_some_iff.mp found
  have place := h.index here
  obtain rfl : index = e.index := UInt16.toNat.inj (by omega)
  exact ⟨e.name, List.mem_of_getElem? here⟩

/-- The only entry with a property is the first one. -/
theorem find?_eq_some_of_unique {e : Entry α} {p : Entry α → Bool} (mem : e ∈ entries) (has : p e)
    (unique : ∀ f ∈ entries, p f → f = e) : entries.find? p = some e := by
  cases found : entries.find? p with
  | none => exact absurd has (List.find?_eq_none.mp found e mem)
  | some f => rw [unique f (List.mem_of_find?_eq_some found) (List.find?_some found)]

theorem indexIn_of_mem (h : Numbered (fixed ++ entries)) {part : List (Entry α)}
    (within : part ⊆ fixed ++ entries) (mem : ⟨name, index, object⟩ ∈ part) :
    indexIn part name = some index := by
  have first : part.find? (·.name = name) = some ⟨name, index, object⟩ :=
    find?_eq_some_of_unique mem (decide_eq_true rfl) fun f mem' same =>
      h.eq_of_name (within mem') (within mem) (of_decide_eq_true same)
  rw [indexIn, first]
  rfl

theorem indexIn_eq_none_iff : indexIn entries name = none ↔ name ∉ entries.map Entry.name := by
  rw [indexIn, Option.map_eq_none_iff, List.find?_eq_none, List.mem_map]
  constructor
  · rintro nobody ⟨e, mem, named⟩
    exact nobody e mem (decide_eq_true named)
  · intro absent e mem named
    exact absent ⟨e, mem, of_decide_eq_true named⟩

theorem objectAt_of_mem (h : Numbered fixed) (mem : ⟨name, index, object⟩ ∈ fixed) :
    objectAt fixed index = some object := by
  have here : fixed[index.toNat - 1]? = some ⟨name, index, object⟩ := h.getElem?_index mem
  rw [objectAt, here]
  rfl

/-- The index of a late object is beyond the places of the fixed ones. -/
theorem objectAt_of_late (h : Numbered (fixed ++ entries))
    (mem : ⟨name, index, object⟩ ∈ entries) : objectAt fixed index = none := by
  obtain ⟨k, here⟩ := List.mem_iff_getElem?.mp mem
  have there : (fixed ++ entries)[fixed.length + k]? = some ⟨name, index, object⟩ := by
    rw [List.getElem?_append_right (Nat.le_add_right _ _), Nat.add_sub_cancel_left, here]
  have count : index.toNat = fixed.length + k + 1 := h.index there
  rw [objectAt, List.getElem?_eq_none (by omega)]
  rfl

theorem objectIn_of_mem (h : Numbered (fixed ++ entries))
    (mem : ⟨name, index, object⟩ ∈ entries) : objectIn entries index = some object := by
  have first : entries.find? (·.index = index) = some ⟨name, index, object⟩ :=
    find?_eq_some_of_unique mem (decide_eq_true rfl) fun f mem' same =>
      h.eq_of_index (List.mem_append_right _ mem') (List.mem_append_right _ mem)
        (of_decide_eq_true same)
  rw [objectIn, first]
  rfl

/-! ## Places -/

/-- The `index`-th object that was registered has this name. -/
def At (r : Registry α) (index : UInt16) (name : String) (object : α) : Prop :=
  ∃ k, index.toNat = k + 1 ∧ r.entries[k]? = some (name, object)

theorem at_iff_mem : r.At index name object ↔ ⟨name, index, object⟩ ∈ r.all := by
  constructor
  · rintro ⟨k, count, here⟩
    rw [entries, List.getElem?_map, Option.map_eq_some_iff] at here
    obtain ⟨⟨_, index', _⟩, here, same⟩ := here
    cases same
    obtain rfl : index = index' := UInt16.toNat.inj (count.trans (r.numbered.index here).symm)
    exact List.mem_of_getElem? here
  · intro mem
    obtain ⟨k, here⟩ := List.mem_iff_getElem?.mp mem
    refine ⟨k, r.numbered.index here, ?_⟩
    rw [entries, List.getElem?_map, here]
    rfl

/-- An object has as many before it as its index says. -/
theorem at_iff_split : r.At index name object ↔ ∃ before after,
    r.entries = before ++ (name, object) :: after ∧ index.toNat = before.length + 1 := by
  constructor
  · rintro ⟨k, count, here⟩
    obtain ⟨inside, same⟩ := List.getElem?_eq_some_iff.mp here
    refine ⟨r.entries.take k, r.entries.drop (k + 1), ?_, ?_⟩
    · rw [← same, List.getElem_cons_drop, List.take_append_drop]
    · rw [List.length_take_of_le (Nat.le_of_lt inside), count]
  · rintro ⟨before, after, split, count⟩
    refine ⟨_, count, ?_⟩
    rw [split, List.getElem?_append_right (Nat.le_refl _), Nat.sub_self]
    rfl

theorem object?_eq_some_iff : r.object? index = some object ↔ ∃ name, r.At index name object := by
  simp only [at_iff_mem]
  constructor
  · intro found
    rw [object?] at found
    split at found
    next => cases found
    next counted =>
      rcases Option.or_eq_some_iff.mp found with early | ⟨-, late⟩
      · obtain ⟨name, mem⟩ := mem_of_objectAt r.numbered.left counted early
        exact ⟨name, List.mem_append_left _ mem⟩
      · obtain ⟨name, mem⟩ := mem_of_objectIn late
        exact ⟨name, List.mem_append_right _ mem⟩
  · rintro ⟨name, mem⟩
    rw [object?, if_neg (r.numbered.index_ne_zero mem)]
    rcases List.mem_append.mp mem with early | late
    · rw [objectAt_of_mem r.numbered.left early, Option.some_or]
    · rw [objectAt_of_late r.numbered late, Option.none_or, objectIn_of_mem r.numbered late]

theorem object?_eq_none_iff : r.object? index = none ↔ ∀ name object, ¬ r.At index name object := by
  constructor
  · intro missing name object there
    have found := object?_eq_some_iff.mpr ⟨name, there⟩
    rw [missing] at found
    cases found
  · intro nobody
    cases found : r.object? index with
    | none => rfl
    | some object =>
      obtain ⟨name, there⟩ := object?_eq_some_iff.mp found
      exact absurd there (nobody name object)

/-- An index belongs to one name and one object. -/
theorem At.unique {name' : String} {object' : α} (h : r.At index name object)
    (h' : r.At index name' object') : name = name' ∧ object = object' := by
  have same := r.numbered.eq_of_index (at_iff_mem.mp h) (at_iff_mem.mp h') rfl
  exact ⟨congrArg Entry.name same, congrArg Entry.object same⟩

/-- Nobody has the index zero. -/
theorem At.index_ne_zero (h : r.At index name object) : index ≠ 0 := by
  rintro rfl
  obtain ⟨k, count, -⟩ := h
  cases count

theorem At.mem (h : r.At index name object) : (name, object) ∈ r.entries :=
  List.mem_map.mpr ⟨_, at_iff_mem.mp h, rfl⟩

/-! ## Names -/

theorem index?_eq_some_iff : r.index? name = some index ↔ ∃ object, r.At index name object := by
  simp only [at_iff_mem]
  constructor
  · intro found
    rcases Option.or_eq_some_iff.mp found with early | ⟨-, late⟩
    · obtain ⟨object, mem⟩ := mem_of_indexIn early
      exact ⟨object, List.mem_append_left _ mem⟩
    · obtain ⟨object, mem⟩ := mem_of_indexIn late
      exact ⟨object, List.mem_append_right _ mem⟩
  · rintro ⟨object, mem⟩
    rw [index?]
    rcases List.mem_append.mp mem with early | late
    · rw [indexIn_of_mem r.numbered (List.subset_append_left _ _) early, Option.some_or]
    · have apart := r.numbered.nodup
      rw [all, List.map_append, List.nodup_append] at apart
      have unknown : indexIn r.fixed name = none := indexIn_eq_none_iff.mpr fun early =>
        apart.2.2 name early name (List.mem_map.mpr ⟨_, late, rfl⟩) rfl
      rw [unknown, Option.none_or,
        indexIn_of_mem r.numbered (List.subset_append_right _ _) late]

/-- A name that was registered leads to the place of its object. -/
theorem index?_at_of_mem (mem : (name, object) ∈ r.entries) :
    ∃ index, r.index? name = some index ∧ r.At index name object := by
  obtain ⟨⟨_, index, _⟩, here, same⟩ := List.mem_map.mp mem
  cases same
  have there := at_iff_mem.mpr here
  exact ⟨index, index?_eq_some_iff.mpr ⟨_, there⟩, there⟩

/-- A registered name has an index, and the object is there. -/
theorem index?_of_mem (mem : (name, object) ∈ r.entries) :
    ∃ index, r.index? name = some index ∧ r.object? index = some object := by
  obtain ⟨index, found, there⟩ := index?_at_of_mem mem
  exact ⟨index, found, object?_eq_some_iff.mpr ⟨name, there⟩⟩

theorem index?_eq_none_iff : r.index? name = none ↔ name ∉ r.names := by
  constructor
  · intro missing mem
    obtain ⟨⟨name', object⟩, entry, rfl⟩ := List.mem_map.mp mem
    obtain ⟨index, found, -⟩ := index?_at_of_mem entry
    rw [missing] at found
    cases found
  · intro absent
    cases found : r.index? name with
    | none => rfl
    | some index =>
      obtain ⟨object, there⟩ := index?_eq_some_iff.mp found
      exact absurd (List.mem_map.mpr ⟨_, there.mem, rfl⟩) absent

/-! ## Registries of a list -/

/-- Objects with the indexes of their places. -/
def number (objects : List (String × α)) : List (Entry α) :=
  objects.zipIdx.map fun ((name, object), k) => ⟨name, UInt16.ofNat (k + 1), object⟩

theorem map_number (objects : List (String × α)) :
    ((number objects).map fun e => (e.name, e.object)) = objects := by
  rw [number, List.map_map]
  exact List.zipIdx_map_fst _ _

theorem number_numbered {objects : List (String × α)} (nodup : (objects.map Prod.fst).Nodup)
    (few : objects.length ≤ 65535) : Numbered (number objects) where
  nodup := by
    have names : (number objects).map Entry.name = objects.map Prod.fst := by
      conv_rhs => rw [← map_number objects, List.map_map]
      rfl
    rwa [names]
  index := by
    intro k e here
    rw [number, List.getElem?_map, List.getElem?_zipIdx] at here
    obtain ⟨_, place, rfl⟩ := Option.map_eq_some_iff.mp here
    obtain ⟨_, given, rfl⟩ := Option.map_eq_some_iff.mp place
    have inside : k < objects.length := (List.getElem?_eq_some_iff.mp given).1
    have small : k + 1 < UInt16.size :=
      Nat.lt_of_lt_of_le (Nat.succ_lt_succ inside) (Nat.succ_le_succ few)
    show (UInt16.ofNat (0 + k + 1)).toNat = k + 1
    rw [UInt16.toNat_ofNat', Nat.zero_add, Nat.mod_eq_of_lt small]

/-- The registry of a configuration with these objects. -/
def of (objects : List (String × α)) (nodup : (objects.map Prod.fst).Nodup)
    (few : objects.length ≤ 65535) : Registry α :=
  ⟨number objects, .none (number_numbered nodup few)⟩

end DeviceRpc.Registry
