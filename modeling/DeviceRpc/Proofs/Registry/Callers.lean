import DeviceRpc.Program.Basic
import DeviceRpc.Proofs.Registry
import Mathlib.Logic.Function.Basic
import Mathlib.Logic.Relation

/-!
# Callers of one registry

Any number of callers share a registry. A query looks at the fixed objects without a lock, since
they never change, and only what these leave undecided goes on under the lock, so other callers may
register objects in between. Each query is still answered as if nobody else was there when it takes
effect (`Atomic`), so what callers are told is said of one list, `present`: the objects of the
configuration, and after them those that were registered, in the order of success (`Truthful`).
-/

namespace DeviceRpc.Registry

variable {α : Type} {fixed : List (Entry α)}

/-! ## Queries -/

/-- What a caller asks of a registry: to register an object, the index of a name, the object at an
index, the listing, or the number of objects. -/
inductive Query (α : Type) where
  | add (name : String) (object : α)
  | resolve (name : String)
  | fetch (index : UInt16)
  | list
  | count

namespace Query

/-- What a caller is told. -/
def Answer : Query α → Type
  | .add .. | .resolve _ => Except Failure UInt16
  | .fetch _ => Option α
  | .list => List (UInt16 × String × α)
  | .count => Nat

/-- What the fixed objects settle. -/
def early (fixed : List (Entry α)) : (q : Query α) → Option q.Answer
  | .add name _ =>
    if name ∈ fixed.map Entry.name then some (.error (.alreadyExists name)) else none
  | .resolve name => (indexIn fixed name).map .ok
  | .fetch index => if index = 0 then some none else (objectAt fixed index).map some
  | .list | .count => none

theorem new_of_early {name : String} {object : α}
    (undecided : (add name object).early fixed = none) :
    name ∉ fixed.map Entry.name := by
  intro taken
  simp only [early, if_pos taken] at undecided
  cases undecided

/-- What is left to answer under the lock. -/
def locked : (q : Query α) → q.early fixed = none → Late fixed → q.Answer × Late fixed
  | .add name object, undecided, late =>
    match late.register name object (new_of_early undecided) with
    | .ok (index, late) => (.ok index, late)
    | .error e => (.error e, late)
  | .resolve name, _, late =>
    (match indexIn late.entries name with
      | some index => .ok index
      | none => .error (.notFound name), late)
  | .fetch index, _, late => (objectIn late.entries index, late)
  | .list, _, late => (listing ⟨fixed, late⟩, late)
  | .count, _, late => (size ⟨fixed, late⟩, late)

end Query

/-- What a caller is told who has the registry alone, and the registry after it. -/
def answer (r : Registry α) : (q : Query α) → q.Answer × Registry α
  | .add name object =>
    match r.register name object with
    | .ok (index, r) => (.ok index, r)
    | .error e => (.error e, r)
  | .resolve name => (r.indexOf name, r)
  | .fetch index => (r.object? index, r)
  | .list => (r.listing, r)
  | .count => (r.size, r)

/-- Nothing depends on the late objects when the fixed ones settle a query. -/
theorem answer_of_early {r : Registry α} {q : Query α} {a : q.Answer}
    (settled : q.early r.fixed = some a) : r.answer q = (a, r) := by
  cases q with
  | add name object =>
    simp only [Query.early] at settled
    split at settled
    next taken =>
      cases settled
      simp only [answer, register, dif_pos taken]
    next => cases settled
  | resolve name =>
    cases found : indexIn r.fixed name with
    | none =>
      simp only [Query.early, found] at settled
      cases settled
    | some index =>
      simp only [Query.early, found] at settled
      cases settled
      simp only [answer, indexOf, index?, found, Option.some_or]
  | fetch index =>
    simp only [Query.early] at settled
    split at settled
    next zero =>
      cases settled
      simp only [answer, object?, if_pos zero]
    next counted =>
      obtain ⟨object, found, rfl⟩ := Option.map_eq_some_iff.mp settled
      simp only [answer, object?, if_neg counted, found, Option.some_or]
  | list => cases settled
  | count => cases settled

/-- The rest of a query is answered as all of it would be at that moment. -/
theorem answer_of_undecided {q : Query α} (undecided : q.early fixed = none) (late : Late fixed) :
    answer ⟨fixed, late⟩ q =
      ((q.locked undecided late).1, ⟨fixed, (q.locked undecided late).2⟩) := by
  cases q with
  | add name object =>
    simp only [answer, register, dif_neg (Query.new_of_early undecided), Query.locked]
    cases late.register name object (Query.new_of_early undecided) <;> rfl
  | resolve name =>
    cases found : indexIn fixed name with
    | none =>
      simp only [answer, indexOf, index?, found, Option.none_or, Query.locked]
      rfl
    | some index =>
      simp only [Query.early, found] at undecided
      cases undecided
  | fetch index =>
    simp only [Query.early] at undecided
    split at undecided
    next => cases undecided
    next counted =>
      have beyond : objectAt fixed index = none := Option.map_eq_none_iff.mp undecided
      simp only [answer, object?, if_neg counted, beyond, Option.none_or, Query.locked]
  | list => rfl
  | count => rfl

/-! ## What they are told -/

/-- A query with what its caller was told. -/
abbrev Told (α : Type) := Prog.Exchange (Query.Answer (α := α))

/-- The object that was registered, if the query did it. -/
def added : Told α → Option (String × α)
  | ⟨.add name object, .ok _⟩ => some (name, object)
  | _ => none

/-- The objects that the configuration gives and some queries added, in order. -/
def present (objects : List (String × α)) (log : List (Told α)) : List (String × α) :=
  objects ++ log.filterMap added

theorem present_prefix (objects : List (String × α)) (before after : List (Told α)) :
    present objects before <+: present objects (before ++ after) := by
  rw [present, present, List.filterMap_append, ← List.append_assoc]
  exact List.prefix_append _ _

theorem present_concat {objects : List (String × α)} {log : List (Told α)} {x : Told α} :
    present objects (log ++ [x]) = present objects log ++ (added x).toList := by
  rw [present, present, List.filterMap_append, List.append_assoc]
  cases add : added x <;> simp [add]

/-- The `index`-th object has this name. -/
def Has (present : List (String × α)) (index : UInt16) (name : String) (object : α) : Prop :=
  ∃ k, index.toNat = k + 1 ∧ present[k]? = some (name, object)

/-- What a caller is told of the objects that are present. -/
def Truthful (present : List (String × α)) : (q : Query α) → q.Answer → Prop
  | .add name _, a =>
    (a = .error (.alreadyExists name) ↔ name ∈ present.map Prod.fst) ∧
      (a = .error (.invalidArgument "object index space exhausted") ↔
        name ∉ present.map Prod.fst ∧ present.length = 65535) ∧
      ∀ index, a = .ok index ↔
        name ∉ present.map Prod.fst ∧ present.length < 65535 ∧ index.toNat = present.length + 1
  | .resolve name, a =>
    (∀ index, a = .ok index ↔ ∃ object, Has present index name object) ∧
      (a = .error (.notFound name) ↔ name ∉ present.map Prod.fst)
  | .fetch index, a => ∀ object, a = some object ↔ ∃ name, Has present index name object
  | .list, (a : List (UInt16 × String × α)) => ∀ k index name object,
      a[k]? = some (index, name, object) ↔ index.toNat = k + 1 ∧ present[k]? = some (name, object)
  | .count, (a : Nat) => a = present.length

/-! ## One query -/

variable {r r' : Registry α} {q : Query α} {name : String} {object : α} {index : UInt16}

theorem register_of_taken (taken : name ∈ r.names) :
    r.register name object = .error (.alreadyExists name) := by
  rw [names, entries, List.map_map, all, List.map_append, List.mem_append] at taken
  rw [register]
  split
  next => rfl
  next new =>
    have late : name ∈ r.late.entries.map Entry.name := taken.resolve_left new
    rw [Late.register, dif_pos late]
    rfl

theorem not_taken (new : name ∉ r.names) :
    name ∉ r.fixed.map Entry.name ∧ name ∉ r.late.entries.map Entry.name := by
  rwa [names, entries, List.map_map, all, List.map_append, List.mem_append, not_or] at new

theorem register_of_full (new : name ∉ r.names) (full : r.size = 65535) :
    r.register name object = .error (.invalidArgument "object index space exhausted") := by
  obtain ⟨early, late⟩ := not_taken new
  have next := r.late.next
  rw [List.length_append] at next
  rw [size] at full
  have none : ¬ r.late.nextIndex < UInt16.size := by
    rw [next, full]
    decide
  rw [register, dif_neg early, Late.register, dif_neg late, dif_neg none]
  rfl

theorem register_of_room (r : Registry α) {name : String} (object : α) (new : name ∉ r.names)
    (room : r.size < 65535) :
    ∃ index r', r.register name object = .ok (index, r') ∧ index.toNat = r.size + 1 ∧
      r'.fixed = r.fixed ∧ r'.entries = r.entries ++ [(name, object)] := by
  obtain ⟨early, late⟩ := not_taken new
  have next := r.late.next
  rw [List.length_append] at next
  rw [size] at room
  have small : r.late.nextIndex < UInt16.size := by
    rw [next]
    exact Nat.succ_lt_succ room
  rw [register, dif_neg early, Late.register, dif_neg late, dif_pos small]
  refine ⟨_, _, rfl, ?_, rfl, ?_⟩
  · rw [UInt16.toNat_ofNat', Nat.mod_eq_of_lt small, next, size]
  · rw [entries, all, ← List.append_assoc, List.map_append]
    rfl

/-- Registering fails for two reasons, and is told the next index otherwise. -/
theorem answer_add (r : Registry α) (name : String) (object : α) :
    (name ∈ r.names ∧ r.answer (.add name object) = (.error (.alreadyExists name), r)) ∨
    (name ∉ r.names ∧ r.size = 65535 ∧ r.answer (.add name object) =
      (.error (.invalidArgument "object index space exhausted"), r)) ∨
    (name ∉ r.names ∧ r.size < 65535 ∧ ∃ index r', r.answer (.add name object) = (.ok index, r') ∧
      index.toNat = r.size + 1 ∧ r'.fixed = r.fixed ∧
      r'.entries = r.entries ++ [(name, object)]) := by
  rw [answer]
  by_cases taken : name ∈ r.names
  · rw [register_of_taken taken]
    exact .inl ⟨taken, rfl⟩
  · have few : r.size ≤ 65535 := r.length_entries ▸ r.length_le
    rcases Nat.lt_or_eq_of_le few with room | full
    · obtain ⟨index, r', registered, next, same, more⟩ := r.register_of_room object taken room
      rw [registered]
      exact .inr (.inr ⟨taken, room, index, r', rfl, next, same, more⟩)
    · rw [register_of_full taken full]
      exact .inr (.inl ⟨taken, full, rfl⟩)

/-- Only a query that registers an object changes anything, and it adds the object at the end. -/
theorem entries_answer (r : Registry α) (q : Query α) :
    (r.answer q).2.entries = r.entries ++ (added ⟨q, (r.answer q).1⟩).toList := by
  cases q with
  | add name object =>
    rcases r.answer_add name object with ⟨-, told⟩ | ⟨-, -, told⟩ | ⟨-, -, _, _, told, -, -, more⟩
    · rw [told]
      exact (List.append_nil _).symm
    · rw [told]
      exact (List.append_nil _).symm
    · rw [told]
      exact more
  | _ => exact (List.append_nil _).symm

theorem indexOf_eq_ok_iff : r.indexOf name = .ok index ↔ r.index? name = some index := by
  rw [indexOf]
  cases r.index? name with
  | none => exact ⟨nofun, nofun⟩
  | some found =>
    rw [Except.ok.injEq, Option.some.injEq]

theorem indexOf_eq_notFound_iff :
    r.indexOf name = .error (.notFound name) ↔ r.index? name = none := by
  rw [indexOf]
  cases r.index? name with
  | none => exact ⟨fun _ => rfl, fun _ => rfl⟩
  | some found => exact ⟨nofun, nofun⟩

theorem getElem?_listing {k : Nat} : r.listing[k]? = some (index, name, object) ↔
    index.toNat = k + 1 ∧ r.entries[k]? = some (name, object) := by
  rw [listing, entries, List.getElem?_map, List.getElem?_map]
  simp only [Option.map_eq_some_iff]
  constructor
  · rintro ⟨⟨_, _, _⟩, here, same⟩
    cases same
    exact ⟨r.numbered.index here, _, here, rfl⟩
  · rintro ⟨count, ⟨_, index', _⟩, here, same⟩
    cases same
    obtain rfl : index = index' := UInt16.toNat.inj (count.trans (r.numbered.index here).symm)
    exact ⟨_, here, rfl⟩

/-- Who has the registry alone is told of its entries. -/
theorem answer_truthful (r : Registry α) (q : Query α) : Truthful r.entries q (r.answer q).1 := by
  cases q with
  | add name object =>
    have size := r.length_entries
    rcases r.answer_add name object with
      ⟨taken, told⟩ | ⟨new, full, told⟩ | ⟨new, room, index, _, told, next, -, -⟩
    · rw [told]
      refine ⟨⟨fun _ => taken, fun _ => rfl⟩, ⟨nofun, fun other => absurd taken other.1⟩,
        fun index => ⟨nofun, fun other => absurd taken other.1⟩⟩
    · rw [told]
      refine ⟨⟨nofun, fun taken => absurd taken new⟩,
        ⟨fun _ => ⟨new, size.trans full⟩, fun _ => rfl⟩,
        fun index => ⟨nofun, fun other => ?_⟩⟩
      omega
    · rw [told]
      refine ⟨⟨nofun, fun taken => absurd taken new⟩, ⟨nofun, fun other => ?_⟩,
        fun index' => ⟨fun same => ?_, fun other => ?_⟩⟩
      · omega
      · cases same
        exact ⟨new, by omega, by omega⟩
      · obtain rfl : index = index' := UInt16.toNat.inj (by omega)
        rfl
  | resolve name =>
    exact ⟨fun index => indexOf_eq_ok_iff.trans index?_eq_some_iff,
      indexOf_eq_notFound_iff.trans index?_eq_none_iff⟩
  | fetch index => exact fun object => object?_eq_some_iff
  | list => exact fun k index name object => getElem?_listing
  | count => exact r.length_entries.symm

/-! ## Callers -/

/-- A caller goes on with its program, or has looked at the fixed objects and needs the lock. -/
inductive Caller (fixed : List (Entry α)) where
  | running (p : Prog (Query.Answer (α := α)) Unit)
  | waiting (q : Query α) (undecided : q.early fixed = none)
      (next : q.Answer → Prog (Query.Answer (α := α)) Unit)

/-- The callers of a registry with these fixed objects. -/
structure Callers (fixed : List (Entry α)) where
  late : Late fixed
  callers : Nat → Caller fixed
  /-- What the callers were told so far, in the order in which the queries took effect. -/
  log : List (Told α)

namespace Callers

/-- The registry. -/
def registry (s : Callers fixed) : Registry α := ⟨fixed, s.late⟩

/-- The objects of a configuration with those that were registered since. -/
def present (objects : List (String × α)) (s : Callers fixed) : List (String × α) :=
  Registry.present objects s.log

/-- Nobody has begun. -/
def start (r : Registry α) (programs : Nat → Prog (Query.Answer (α := α)) Unit) :
    Callers r.fixed :=
  ⟨r.late, fun k => .running (programs k), []⟩

/-- One of the callers goes on. -/
inductive Step (s : Callers fixed) : Callers fixed → Prop where
  | settles {k : Nat} {q : Query α} {next : q.Answer → Prog (Query.Answer (α := α)) Unit}
      {a : q.Answer} (asks : s.callers k = .running (.ask q next))
      (early : q.early fixed = some a) :
      Step s { s with
        callers := Function.update s.callers k (.running (next a)), log := s.log ++ [⟨q, a⟩] }
  | waits {k : Nat} {q : Query α} {next : q.Answer → Prog (Query.Answer (α := α)) Unit}
      (asks : s.callers k = .running (.ask q next)) (undecided : q.early fixed = none) :
      Step s { s with callers := Function.update s.callers k (.waiting q undecided next) }
  | locks {k : Nat} {q : Query α} {undecided : q.early fixed = none}
      {next : q.Answer → Prog (Query.Answer (α := α)) Unit}
      (waits : s.callers k = .waiting q undecided next) :
      Step s {
        late := (q.locked undecided s.late).2
        callers := Function.update s.callers k (.running (next (q.locked undecided s.late).1))
        log := s.log ++ [⟨q, (q.locked undecided s.late).1⟩] }

/-- Every interleaving of the callers. -/
abbrev Reached : Callers fixed → Callers fixed → Prop := Relation.ReflTransGen Step

/-- What a step tells, if anything, is what a caller alone is told, and has the same effect. -/
theorem Step.effect {s s' : Callers fixed} (h : Step s s') :
    (s'.log = s.log ∧ s'.registry = s.registry) ∨
      ∃ q, s'.log = s.log ++ [⟨q, (s.registry.answer q).1⟩] ∧
        s'.registry = (s.registry.answer q).2 := by
  cases h with
  | @settles k q next a asks early =>
    have alone : s.registry.answer q = (a, s.registry) := answer_of_early early
    refine .inr ⟨q, ?_, ?_⟩
    · rw [alone]
    · rw [alone]
      rfl
  | waits => exact .inl ⟨rfl, rfl⟩
  | @locks k q undecided next waits =>
    have alone := answer_of_undecided undecided s.late
    refine .inr ⟨q, ?_, ?_⟩
    · rw [registry, alone]
    · rw [registry, registry, alone]

/-- The registry has the objects that are present, and everybody was told of those that were present
at that moment. -/
structure Atomic (objects : List (String × α)) (s : Callers fixed) : Prop where
  entries : s.registry.entries = s.present objects
  told : ∀ {before q a after}, s.log = before ++ ⟨q, a⟩ :: after →
    Truthful (Registry.present objects before) q a

theorem Atomic.step {objects : List (String × α)} {s s' : Callers fixed} (h : s.Atomic objects)
    (step : Step s s') : s'.Atomic objects := by
  rcases step.effect with ⟨log, same⟩ | ⟨q, log, effect⟩
  · constructor
    · rw [same, h.entries, present, present, log]
    · rw [log]
      exact h.told
  · have said := s.registry.answer_truthful q
    rw [h.entries] at said
    constructor
    · rw [effect, entries_answer, h.entries, present, present, log, present_concat]
    · intro before q' a' after cut
      rw [log] at cut
      -- the answer is the last one, or was given before
      rcases List.eq_nil_or_concat' after with rfl | ⟨after, x, rfl⟩
      · obtain ⟨rfl, same⟩ := List.append_inj' cut rfl
        cases same
        exact said
      · rw [← List.cons_append, ← List.append_assoc] at cut
        exact h.told (List.append_inj' cut rfl).1

theorem Reached.atomic {objects : List (String × α)} {s s' : Callers fixed} (reached : Reached s s')
    (h : s.Atomic objects) : s'.Atomic objects := by
  induction reached with
  | refl => exact h
  | tail _ step ih => exact ih.step step

/-- Objects are only ever added at the end. -/
theorem Reached.entries_prefix {s s' : Callers fixed} (reached : Reached s s') :
    s.registry.entries <+: s'.registry.entries := by
  induction reached with
  | refl => exact List.prefix_refl _
  | tail _ step ih =>
    rcases step.effect with ⟨-, same⟩ | ⟨q, -, effect⟩
    · rwa [same]
    · rw [effect, entries_answer]
      exact ih.trans (List.prefix_append _ _)

end Callers

theorem At.of_prefix (grown : r.entries <+: r'.entries) (there : r.At index name object) :
    r'.At index name object := by
  obtain ⟨k, count, here⟩ := there
  obtain ⟨more, grown⟩ := grown
  refine ⟨k, count, ?_⟩
  rw [← grown, List.getElem?_append_left (List.getElem?_eq_some_iff.mp here).1, here]

/-! ## Building -/

section

variable {objects before after : List (String × α)} {f : Fixed α}

theorem configure_new (object : α) (new : name ∉ f.val.map Entry.name)
    (room : f.val.length < 65535) : ∃ f', configure f name object = .ok f' ∧
      f'.val = f.val ++ [⟨name, UInt16.ofNat (f.val.length + 1), object⟩] := by
  have small : f.val.length + 1 < UInt16.size := Nat.succ_lt_succ room
  rw [configure, dif_neg new, dif_pos small]
  exact ⟨_, rfl, rfl⟩

/-- Objects whose names are new are added in order. -/
theorem configure_all : ∀ (objects : List (String × α)) (f : Fixed α),
    (f.val.map Entry.name ++ objects.map Prod.fst).Nodup → f.val.length + objects.length ≤ 65535 →
    ∃ f', objects.foldlM (fun f (name, object) => configure f name object) f = .ok f' ∧
      (f'.val.map fun e => (e.name, e.object)) =
        (f.val.map fun e => (e.name, e.object)) ++ objects
  | [], f, _, _ => ⟨f, rfl, (List.append_nil _).symm⟩
  | (name, object) :: objects, f, nodup, few => by
    rw [List.length_cons] at few
    have new : name ∉ f.val.map Entry.name := fun old =>
      (List.nodup_append.mp nodup).2.2 name old name List.mem_cons_self rfl
    obtain ⟨f', configured, grown⟩ := configure_new object new (by omega)
    have nodup' : (f'.val.map Entry.name ++ objects.map Prod.fst).Nodup := by
      rw [grown, List.map_append, List.append_assoc]
      exact nodup
    have few' : f'.val.length + objects.length ≤ 65535 := by
      rw [grown, List.length_append, List.length_singleton]
      omega
    obtain ⟨last, all, names⟩ := configure_all objects f' nodup' few'
    refine ⟨last, ?_, ?_⟩
    · rw [List.foldlM_cons]
      show (configure f name object >>= _) = _
      rw [configured]
      exact all
    · rw [names, grown, List.map_append, List.append_assoc]
      rfl

/-- Distinct names make a registry. -/
theorem build_of_nodup (nodup : (objects.map Prod.fst).Nodup) (few : objects.length ≤ 65535) :
    ∃ r, build objects = .ok r ∧ r.entries = objects := by
  obtain ⟨f, all, same⟩ :=
    configure_all objects ⟨[], .nil⟩ nodup (by rwa [List.length_nil, Nat.zero_add])
  refine ⟨⟨f.val, .none f.property⟩, ?_, ?_⟩
  · rw [build, all]
    rfl
  · rw [entries, Registry.all]
    exact (congrArg _ (List.append_nil _)).trans same

/-- An object that was added stands behind the others. -/
theorem configure_ok {object : α} {f' : Fixed α} (configured : configure f name object = .ok f') :
    (f'.val.map fun e => (e.name, e.object))
      = (f.val.map fun e => (e.name, e.object)) ++ [(name, object)] := by
  unfold configure at configured
  split at configured
  next => cases configured
  next =>
    split at configured
    next =>
      cases configured
      exact List.map_append
    next => cases configured

/-- Objects that were added stand behind the others in their order. -/
theorem configured_all : ∀ (objects : List (String × α)) {f f' : Fixed α},
    objects.foldlM (fun f (name, object) => configure f name object) f = .ok f' →
    (f'.val.map fun e => (e.name, e.object))
      = (f.val.map fun e => (e.name, e.object)) ++ objects
  | [], f, f', done => by
    cases done
    exact (List.append_nil _).symm
  | (name, object) :: objects, f, f', done => by
    rw [List.foldlM_cons] at done
    change (configure f name object >>= _) = _ at done
    cases configured : configure f name object with
    | error e =>
      rw [configured] at done
      cases done
    | ok next =>
      rw [configured] at done
      rw [configured_all objects done, configure_ok configured, List.append_assoc]
      rfl

/-- Whatever was built has the objects in their order. -/
theorem entries_of_build {r : Registry α} (built : build objects = .ok r) : r.entries = objects := by
  unfold build at built
  cases done : objects.foldlM (fun f (name, object) => configure f name object)
      (⟨[], .nil⟩ : Fixed α) with
  | error e =>
    rw [done] at built
    cases built
  | ok f =>
    rw [done] at built
    cases built
    rw [entries, Registry.all]
    exact (congrArg _ (List.append_nil _)).trans (configured_all objects done)

/-- The first name that is taken is reported. -/
theorem build_of_repeated (few : (before ++ (name, object) :: after).length ≤ 65535)
    (nodup : (before.map Prod.fst).Nodup) (taken : name ∈ before.map Prod.fst) :
    build (before ++ (name, object) :: after) = .error (.alreadyExists name) := by
  rw [List.length_append] at few
  obtain ⟨f, all, same⟩ :=
    configure_all before ⟨[], .nil⟩ nodup (by rw [List.length_nil, Nat.zero_add]; omega)
  have old : name ∈ f.val.map Entry.name := by
    rw [← List.nil_append before, ← List.map_nil, ← same, List.map_map] at taken
    exact taken
  rw [build, List.foldlM_append, all]
  show _ <$> (configure f name object >>= _) = _
  rw [configure, dif_pos old]
  rfl

/-- Where names repeat, there is a first one that does. -/
theorem exists_repeated : ∀ (before rest : List (String × α)), (before.map Prod.fst).Nodup →
    ¬ ((before ++ rest).map Prod.fst).Nodup →
    ∃ first name object after, before ++ rest = first ++ (name, object) :: after ∧
      (first.map Prod.fst).Nodup ∧ name ∈ first.map Prod.fst
  | before, [], nodup, twice => absurd (by rwa [List.append_nil]) twice
  | before, (name, object) :: rest, nodup, twice => by
    by_cases taken : name ∈ before.map Prod.fst
    · exact ⟨before, name, object, rest, rfl, nodup, taken⟩
    · have nodup' : ((before ++ [(name, object)]).map Prod.fst).Nodup := by
        rw [List.map_append, List.nodup_append]
        refine ⟨nodup, List.pairwise_singleton _ _, ?_⟩
        rintro _ old _ here rfl
        obtain rfl := List.mem_singleton.mp here
        exact taken old
      have split : before ++ (name, object) :: rest = before ++ [(name, object)] ++ rest := by
        rw [List.append_assoc]
        rfl
      rw [split] at twice ⊢
      exact exists_repeated _ rest nodup' twice

end

/-! ## Every run -/

/-- What holds whenever callers share the registry of a configuration. -/
structure Callers.Consistent (objects : List (String × α)) (s : Callers fixed) : Prop where
  nodup : ((s.present objects).map Prod.fst).Nodup
  few : (s.present objects).length ≤ 65535
  /-- Everybody was told of the objects that were present then, -/
  told : ∀ {before q a after}, s.log = before ++ ⟨q, a⟩ :: after →
    Truthful (Registry.present objects before) q a
  /-- and would be told now of those that are present. -/
  now : ∀ q, Truthful (s.present objects) q (s.registry.answer q).1
  outside : ∀ {index}, index = 0 ∨ (s.present objects).length < index.toNat →
    s.registry.object? index = none
  refused : ∀ {name object e}, (s.registry.answer (.add name object)).1 = .error e →
    (s.registry.answer (.add name object)).2 = s.registry

/-- What is true for ever. -/
structure Callers.Lasting (objects : List (String × α)) (s s' : Callers fixed) : Prop where
  present : s.present objects <+: s'.present objects
  index : ∀ {name index}, s.registry.index? name = some index →
    s'.registry.index? name = some index
  object : ∀ {index object}, s.registry.object? index = some object →
    s'.registry.object? index = some object
  /-- A name that a caller resolved still yields its object. -/
  resolved : ∀ {name index}, ⟨.resolve name, .ok index⟩ ∈ s.log →
    ∃ object, Has (s.present objects) index name object ∧ s'.registry.object? index = some object

theorem Callers.Atomic.consistent {objects : List (String × α)} {s : Callers fixed}
    (h : s.Atomic objects) : s.Consistent objects where
  nodup := by
    rw [← h.entries]
    exact s.registry.nodup
  few := by
    rw [← h.entries]
    exact s.registry.length_le
  told := h.told
  now := by
    rw [← h.entries]
    exact s.registry.answer_truthful
  outside := by
    intro index beyond
    refine object?_eq_none_iff.mpr fun name object ⟨k, count, here⟩ => ?_
    rw [h.entries] at here
    have inside := (List.getElem?_eq_some_iff.mp here).1
    rcases beyond with rfl | beyond
    · cases count
    · omega
  refused := by
    intro name object e failed
    rcases s.registry.answer_add name object with ⟨-, told⟩ | ⟨-, -, told⟩ | ⟨-, -, _, _, told, -⟩
    · rw [told]
    · rw [told]
    · rw [told] at failed
      cases failed

theorem Callers.Atomic.lasting {objects : List (String × α)} {s s' : Callers fixed}
    (h : s.Atomic objects) (reached : Reached s s') : s.Lasting objects s' := by
  have grown := reached.entries_prefix
  have object : ∀ {index object}, s.registry.object? index = some object →
      s'.registry.object? index = some object := by
    intro index object found
    obtain ⟨name, there⟩ := object?_eq_some_iff.mp found
    exact object?_eq_some_iff.mpr ⟨name, there.of_prefix grown⟩
  refine ⟨?_, ?_, object, ?_⟩
  · rw [← h.entries, ← (reached.atomic h).entries]
    exact grown
  · intro name index found
    obtain ⟨object, there⟩ := index?_eq_some_iff.mp found
    exact index?_eq_some_iff.mpr ⟨object, there.of_prefix grown⟩
  · intro name index mem
    obtain ⟨before, after, cut⟩ := List.append_of_mem mem
    obtain ⟨o, k, count, here⟩ := ((h.told cut).1 index).mp rfl
    have grown : Registry.present objects before <+: s.present objects := by
      rw [Callers.present, cut]
      exact present_prefix _ _ _
    have kept : (s.present objects)[k]? = some (name, o) := by
      obtain ⟨more, grown⟩ := grown
      rw [← grown, List.getElem?_append_left (List.getElem?_eq_some_iff.mp here).1, here]
    refine ⟨o, ⟨k, count, kept⟩, object (object?_eq_some_iff.mpr ⟨name, k, count, ?_⟩)⟩
    rw [h.entries]
    exact kept

/-- A configuration whose names repeat is refused, and any other makes a registry that stays
consistent however its callers are interleaved, and in which nothing is lost. -/
theorem callers_consistent {objects : List (String × α)} (few : objects.length ≤ 65535) :
    (¬ (objects.map Prod.fst).Nodup →
      ∃ before name object after, objects = before ++ (name, object) :: after ∧
        (before.map Prod.fst).Nodup ∧ name ∈ before.map Prod.fst ∧
        build objects = .error (.alreadyExists name)) ∧
    ((objects.map Prod.fst).Nodup → ∃ r, build objects = .ok r ∧
      ∀ programs s, Callers.Reached (.start r programs) s → s.Consistent objects ∧
        ∀ s', Callers.Reached s s' → s.Lasting objects s') := by
  constructor
  · intro twice
    obtain ⟨before, name, object, after, split, nodup, taken⟩ :=
      exists_repeated [] objects List.nodup_nil twice
    rw [List.nil_append] at split
    refine ⟨before, name, object, after, split, nodup, taken, ?_⟩
    rw [split] at few ⊢
    exact build_of_repeated few nodup taken
  · intro nodup
    obtain ⟨r, built, entries⟩ := build_of_nodup nodup few
    refine ⟨r, built, fun programs s reached => ?_⟩
    have fresh : (Callers.start r programs).Atomic objects := by
      refine ⟨entries.trans (List.append_nil _).symm, fun cut => ?_⟩
      cases List.append_eq_nil_iff.mp cut.symm with
      | intro _ none => cases none
    have atomic := reached.atomic fresh
    exact ⟨atomic.consistent, fun s' later => atomic.lasting later⟩

/-! ## Two callers -/

namespace Stations

/-- Two stations, with their numbers. -/
def stations : List (String × Nat) := [("north", 10), ("south", 20)]

/-- One caller looks a station up and then asks for it; another one registers a third station. -/
def programs : Nat → Prog (Query.Answer (α := Nat)) Unit
  | 0 => .ask (.resolve "south") fun
    | .ok index => .ask (.fetch index) fun _ => .done ()
    | .error _ => .done ()
  | 1 => .ask (.add "roof" 30) fun _ => .done ()
  | _ => .done ()

/-- The third station is registered between the two queries of the first caller, and gets its turn
at the lock only after the first of them. -/
theorem callers_consistent_roof : stations.length ≤ 65535 ∧
    ∃ (r : Registry Nat) (s : Callers r.fixed), build stations = .ok r ∧
      Callers.Reached (.start r programs) s ∧
      s.log = [⟨.resolve "south", .ok 2⟩, ⟨.add "roof" 30, .ok 3⟩, ⟨.fetch 2, some 20⟩] ∧
      s.registry.listing = [(1, "north", 10), (2, "south", 20), (3, "roof", 30)] ∧
      s.Consistent stations := by
  have few : stations.length ≤ 65535 := by decide
  obtain ⟨r, built, consistent⟩ := (callers_consistent few).2 (by decide)
  obtain rfl : Registry.of stations (by decide) few = r := Except.ok.inj built
  have looked := Relation.ReflTransGen.single <|
    Callers.Step.waits (s := .start (.of stations (by decide) few) programs) (k := 1) rfl rfl
  have resolved := looked.tail
    (.settles (k := 0) (q := .resolve "south") (a := Except.ok 2) rfl rfl)
  have registered := resolved.tail (.locks (k := 1) rfl)
  have fetched := registered.tail (.settles (k := 0) (q := .fetch 2) (a := some 20) rfl rfl)
  exact ⟨few, _, _, built, fetched, rfl, rfl, (consistent _ _ fetched).1⟩

end Stations

end DeviceRpc.Registry
