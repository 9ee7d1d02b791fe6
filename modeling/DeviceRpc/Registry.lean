import DeviceRpc.Failure

/-!
# Registries

The objects of a service. Those of the configuration are fixed, the first one
under index 1; those that are registered while the service runs are a list of
their own, and each of them gets the index that nobody had before. Names are
distinct across both lists, an index once given stays with its object, and there
is no index beyond sixteen bits.
-/

namespace DeviceRpc

namespace Registry

/-- An object with its name and its index. -/
structure Entry (α : Type) where
  name : String
  index : UInt16
  object : α

variable {α : Type} {entries fixed : List (Entry α)} {name : String}

/-- The names are distinct, and the entries are counted from one. -/
structure Numbered (entries : List (Entry α)) : Prop where
  nodup : (entries.map Entry.name).Nodup
  index : ∀ {k e}, entries[k]? = some e → e.index.toNat = k + 1

namespace Numbered

theorem nil : Numbered ([] : List (Entry α)) :=
  ⟨List.nodup_nil, fun {_ _} here => nomatch here⟩

/-- One more entry gets a new name and the next index. -/
theorem concat (h : Numbered entries) {e : Entry α} (new : e.name ∉ entries.map Entry.name)
    (next : e.index.toNat = entries.length + 1) : Numbered (entries ++ [e]) where
  nodup := by
    rw [List.map_append, List.nodup_append]
    refine ⟨h.nodup, List.pairwise_singleton _ _, ?_⟩
    rintro _ old _ here rfl
    rw [List.map_singleton, List.mem_singleton] at here
    exact new (here ▸ old)
  index := by
    intro k f here
    rw [List.getElem?_append] at here
    split at here
    next => exact h.index here
    next beyond =>
      obtain ⟨inside, rfl⟩ := List.getElem?_eq_some_iff.mp here
      rw [List.length_singleton] at inside
      simp only [List.getElem_singleton, next]
      omega

/-- There are no more entries than indexes. -/
theorem length_le (h : Numbered entries) : entries.length ≤ 65535 := by
  cases count : entries.length with
  | zero => exact Nat.zero_le _
  | succ k =>
    have inside : k < entries.length := by omega
    have last := h.index (List.getElem?_eq_getElem inside)
    have small := entries[k].index.toNat_lt
    omega

end Numbered

/-- What follows the fixed objects: those that were registered while the service
runs, in this order, and the next index, if there is any left. -/
structure Late (fixed : List (Entry α)) where
  entries : List (Entry α)
  nextIndex : Nat
  numbered : Numbered (fixed ++ entries)
  next : nextIndex = (fixed ++ entries).length + 1

namespace Late

/-- Nobody was registered after the fixed objects. -/
def none (numbered : Numbered fixed) : Late fixed where
  entries := []
  nextIndex := fixed.length + 1
  numbered := by rwa [List.append_nil]
  next := by rw [List.append_nil]

/-- Registers an object whose name is none of the fixed ones. A name that is taken is
reported first, and no index is used up by a failure. -/
def register (late : Late fixed) (name : String) (object : α)
    (new : name ∉ fixed.map Entry.name) : Except Failure (UInt16 × Late fixed) :=
  if taken : name ∈ late.entries.map Entry.name then .error (.alreadyExists name)
  else if room : late.nextIndex < UInt16.size then
    .ok (UInt16.ofNat late.nextIndex, {
      entries := late.entries ++ [⟨name, UInt16.ofNat late.nextIndex, object⟩]
      nextIndex := late.nextIndex + 1
      numbered := by
        rw [← List.append_assoc]
        refine late.numbered.concat ?_ ?_
        · rw [List.map_append, List.mem_append]
          exact fun old => old.elim new taken
        · rw [UInt16.toNat_ofNat', Nat.mod_eq_of_lt room, late.next]
      next := by
        rw [← List.append_assoc, List.length_append, List.length_singleton, late.next] })
  else .error (.invalidArgument "object index space exhausted")

end Late

/-- The index of a name among some entries. -/
def indexIn (entries : List (Entry α)) (name : String) : Option UInt16 :=
  (entries.find? (·.name = name)).map Entry.index

/-- The object with an index among some entries. -/
def objectIn (entries : List (Entry α)) (index : UInt16) : Option α :=
  (entries.find? (·.index = index)).map Entry.object

/-- The fixed object with an index: the place of each is its index less one. -/
def objectAt (fixed : List (Entry α)) (index : UInt16) : Option α :=
  fixed[index.toNat - 1]?.map Entry.object

/-- The objects of a configuration. -/
abbrev Fixed (α : Type) := { fixed : List (Entry α) // Numbered fixed }

/-- Adds an object to the configured ones. -/
def configure (fixed : Fixed α) (name : String) (object : α) : Except Failure (Fixed α) :=
  if taken : name ∈ fixed.val.map Entry.name then .error (.alreadyExists name)
  else if room : fixed.val.length + 1 < UInt16.size then
    .ok ⟨fixed.val ++ [⟨name, UInt16.ofNat (fixed.val.length + 1), object⟩],
      fixed.property.concat taken (by rw [UInt16.toNat_ofNat', Nat.mod_eq_of_lt room])⟩
  else .error (.invalidArgument "more than 65535 objects")

end Registry

/-- Objects by name and by index. -/
structure Registry (α : Type) where
  /-- The objects of the configuration. -/
  fixed : List (Registry.Entry α)
  late : Registry.Late fixed

namespace Registry

variable {α : Type}

/-- No objects. -/
def empty : Registry α := ⟨[], .none .nil⟩

instance : Inhabited (Registry α) := ⟨empty⟩

/-- The registry of the objects in order. -/
def build (objects : List (String × α)) : Except Failure (Registry α) :=
  (fun fixed => ⟨fixed.val, .none fixed.property⟩)
    <$> objects.foldlM (fun fixed (name, object) => configure fixed name object) ⟨[], .nil⟩

/-- Registers an object while the service runs: its index, and the registry with it. -/
def register (r : Registry α) (name : String) (object : α) :
    Except Failure (UInt16 × Registry α) :=
  if taken : name ∈ r.fixed.map Entry.name then .error (.alreadyExists name)
  else (fun (index, late) => (index, ⟨r.fixed, late⟩)) <$> r.late.register name object taken

/-- The registry with one more object. -/
def registerLate (r : Registry α) (name : String) (object : α) : Except Failure (Registry α) :=
  Prod.snd <$> r.register name object

/-- The entries in the order of their indexes. -/
def all (r : Registry α) : List (Entry α) := r.fixed ++ r.late.entries

/-- Names and objects, the first one under index 1. -/
def entries (r : Registry α) : List (String × α) := r.all.map fun e => (e.name, e.object)

/-- The number of objects. -/
def size (r : Registry α) : Nat := r.fixed.length + r.late.entries.length

/-- The names in order. -/
def names (r : Registry α) : List String := r.entries.map Prod.fst

/-- The index of a name, among the fixed objects first. -/
def index? (r : Registry α) (name : String) : Option UInt16 :=
  (indexIn r.fixed name).or (indexIn r.late.entries name)

/-- The index of a name, or why there is none. -/
def indexOf (r : Registry α) (name : String) : Except Failure UInt16 :=
  match r.index? name with
  | some index => .ok index
  | none => .error (.notFound name)

/-- The object at an index, among the fixed objects first. Nobody has index 0. -/
def object? (r : Registry α) (index : UInt16) : Option α :=
  if index = 0 then none
  else (objectAt r.fixed index).or (objectIn r.late.entries index)

/-- The entries with their indexes. -/
def listing (r : Registry α) : List (UInt16 × String × α) :=
  r.all.map fun e => (e.index, e.name, e.object)

end Registry

end DeviceRpc
