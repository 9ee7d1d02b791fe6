import Mathlib.Logic.Relation
import DeviceRpc.Proofs.Dispatch.Inspecting
import DeviceRpc.Proofs.Registry.Callers
import DeviceRpc.Proofs.World.Untouched
import DeviceRpc.World.Nodes

/-!
# What a node shows of itself

A node shows the health of its objects, whether it is ready, and a few numbers. All of that follows
from what has happened to the objects: how the last inspection of each came out, whether the node
was drained, and how often a relay has tried to reconnect (`Watch.shows_inspections`).

A node is watched while it is at work (`Watch`). Requests and inspections of all objects begin at
any time, go on act by act in any order, wait, and may be given up. In between the node may be
drained, faults of devices may come and go, and whatever does not concern the node may happen
(`World.Agrees`). An inspection counts when it is over and not before, so one that was given up
counts for nothing.
-/

namespace DeviceRpc

open Prog (Goes Runs)

/-! ## What does not concern a node -/

/-- What happened between two worlds does not show in a node with these objects. -/
structure World.Agrees (node : NodeId) (registry : Registry Object) (w w' : World) : Prop where
  offer : w'.nodes[node]?.map Node.offer = w.nodes[node]?.map Node.offer
  health : ∀ entry ∈ registry.entries,
    w'.plant.health[entry.2.monitor]? = w.plant.health[entry.2.monitor]?
  reconnects : ∀ entry ∈ registry.entries, ∀ cell, entry.2.driver = .relay cell →
    w'.cells[cell]?.map Cell.reconnects = w.cells[cell]?.map Cell.reconnects

/-- The act sets the health of an object of the node, counts a reconnect of one, or drains it. -/
def Act.Concerns (node : NodeId) (registry : Registry Object) : Act → Prop
  | setHealth m _ => ∃ entry ∈ registry.entries, entry.2.monitor = m
  | countReconnect cell => ∃ entry ∈ registry.entries, entry.2.driver = .relay cell
  | drain n => n = node
  | _ => False

namespace World.Agrees

variable {node : NodeId} {registry : Registry Object} {w w' w'' : World}

theorem trans (h : w.Agrees node registry w') (h' : w'.Agrees node registry w'') :
    w.Agrees node registry w'' where
  offer := h'.offer.trans h.offer
  health entry mem := (h'.health entry mem).trans (h.health entry mem)
  reconnects entry mem cell relay :=
    (h'.reconnects entry mem cell relay).trans (h.reconnects entry mem cell relay)

/-- Only plant, cells and nodes matter. -/
theorem of_eq (plant : w'.plant = w.plant) (cells : w'.cells = w.cells)
    (nodes : w'.nodes = w.nodes) : w.Agrees node registry w' where
  offer := by rw [nodes]
  health _ _ := by rw [plant]
  reconnects _ _ _ _ := by rw [cells]

/-- Most acts do not concern the node. -/
theorem answer (w : World) (t : TaskId) {a : Act} (h : ¬ a.Concerns node registry) :
    w.Agrees node registry (w.answer t a).1 where
  offer := by
    refine answer_offer ?_
    rintro rfl
    exact h rfl
  health entry mem := by
    refine answer_health ?_
    rintro healthy rfl
    exact h ⟨entry, mem, rfl⟩
  reconnects entry mem cell relay := by
    refine answer_reconnects ?_
    rintro rfl
    exact h ⟨entry, mem, relay⟩

/-- Whatever becomes of a device, nobody is told before the next inspection. -/
theorem change (w : World) (d : DeviceId) (f : Device → Device) :
    w.Agrees node registry { w with plant := w.plant.change d f } :=
  ⟨rfl, fun _ _ => rfl, fun _ _ _ _ => rfl⟩

/-- Nor does it concern the node that some task was given up. -/
theorem abandon (w : World) (t : TaskId) : w.Agrees node registry (w.abandon t) := by
  suffices all : ∀ (cells : List CellId) (w : World),
      w.Agrees node registry (cells.foldl (·.release t ·) w) from
    (all _ w).trans (of_eq rfl rfl rfl)
  intro cells
  induction cells with
  | nil => exact fun w => of_eq rfl rfl rfl
  | cons c cells ih => exact fun w => (answer w t (a := .release c) id).trans (ih _)

end World.Agrees

/-! ## Watching a node -/

/-- Somebody who does a chore, and how far it is. -/
structure Worker where
  task : TaskId
  chore : Chore
  left : Task Unit
  acts : Exchanges := []

/-- The inspections that were concluded, in their order: of which object, and how they came out. -/
abbrev Inspections := List (UInt16 × Except ErrorCode Unit)

namespace Inspections

/-- Whether the last inspection of an object succeeded. -/
def lastOutcome (index : UInt16) (inspections : Inspections) : Bool :=
  ((inspections.filter (·.1 = index)).getLast?.map (·.2.isOk)).getD false

theorem lastOutcome_concat (index : UInt16) (r : Except ErrorCode Unit)
    (inspections : Inspections) : lastOutcome index (inspections ++ [(index, r)]) = r.isOk := by
  simp [lastOutcome]

theorem lastOutcome_concat_ne {index other : UInt16} (apart : other ≠ index)
    (r : Except ErrorCode Unit) (inspections : Inspections) :
    lastOutcome index (inspections ++ [(other, r)]) = lastOutcome index inspections := by
  simp [lastOutcome, apart]

end Inspections

/-- With the last of these exchanges, this is what the chore has concluded. -/
inductive Chore.Finds (registry : Registry Object) (chore : Chore) (acts : Exchanges) :
    Inspections → Prop where
  | nothing (h : ∀ index r, ¬ chore.Concludes registry acts index r) : Finds registry chore acts []
  | one {index : UInt16} {r : Except ErrorCode Unit} (h : chore.Concludes registry acts index r) :
      Finds registry chore acts [(index, r)]

/-- A node that is watched. -/
structure Watch where
  world : World
  workers : List Worker := []
  inspections : Inspections := []
  /-- Everything that workers exchanged. -/
  acts : Exchanges := []
  drained : Bool := false

namespace Watch

/-- What may happen to a node and in the world around it. -/
inductive Step (node : NodeId) (registry : Registry Object) : Watch → Watch → Prop where
  | begins (s : Watch) (t : TaskId) (chore : Chore) :
      Step node registry s { s with workers := s.workers ++ [⟨t, chore, chore.run registry, []⟩] }
  | answers {s : Watch} {before after : List Worker} {t : TaskId} {chore : Chore}
      {acts : Exchanges} {a : Act} {next : a.Reply → Task Unit} {r : a.Reply} {w : World}
      {found : Inspections} (here : s.workers = before ++ ⟨t, chore, .ask a next, acts⟩ :: after)
      (answered : s.world.answer t a = (w, some r))
      (finds : chore.Finds registry (acts ++ [⟨a, r⟩]) found) :
      Step node registry s
        { s with
          world := w
          workers := before ++ ⟨t, chore, next r, acts ++ [⟨a, r⟩]⟩ :: after
          inspections := s.inspections ++ found
          acts := s.acts ++ [⟨a, r⟩] }
  | waits {s : Watch} {c : Worker} {a : Act} {next : a.Reply → Task Unit} {w : World}
      (here : c ∈ s.workers) (asks : c.left = .ask a next)
      (unanswered : s.world.answer c.task a = (w, none)) :
      Step node registry s { s with world := w }
  /-- Somebody goes, who has done or who is given up. -/
  | leaves {s : Watch} {before after : List Worker} {c : Worker} {w : World}
      (here : s.workers = before ++ c :: after) (left : w = s.world ∨ w = s.world.abandon c.task) :
      Step node registry s { s with world := w, workers := before ++ after }
  | drains (s : Watch) (t : TaskId) :
      Step node registry s { s with world := (s.world.answer t (.drain node)).1, drained := true }
  /-- A device gets a fault, or loses it. -/
  | changes (s : Watch) (d : DeviceId) (f : Device → Device) :
      Step node registry s { s with world := { s.world with plant := s.world.plant.change d f } }
  /-- Other tasks go on, or time passes. -/
  | outside (s : Watch) {w : World} (agrees : s.world.Agrees node registry w) :
      Step node registry s { s with world := w }

/-- Any number of steps. -/
abbrev Reached (node : NodeId) (registry : Registry Object) : Watch → Watch → Prop :=
  Relation.ReflTransGen (Step node registry)

/-- The node is as it was set up. -/
structure Fresh (node : NodeId) (registry : Registry Object) (w : World) : Prop where
  offer : w.nodes[node]?.map Node.offer = some { kind := .pdu, registry }
  distinct : (registry.entries.map (·.2.monitor)).Nodup
  unseen : ∀ entry ∈ registry.entries, w.plant.health[entry.2.monitor]? = some false
  uncounted : ∀ entry ∈ registry.entries, ∀ cell, entry.2.driver = .relay cell →
    w.cells[cell]?.map Cell.reconnects = some 0

/-- What is true of a node at any time. -/
structure Kept (node : NodeId) (registry : Registry Object) (s : Watch) : Prop where
  offer : s.world.nodes[node]?.map Node.offer
    = some { kind := .pdu, registry, draining := s.drained }
  health : ∀ index name o, registry.At index name o →
    s.world.plant.health[o.monitor]? = some (s.inspections.lastOutcome index)
  reconnects : ∀ entry ∈ registry.entries, ∀ cell, entry.2.driver = .relay cell →
    s.world.cells[cell]?.map Cell.reconnects = some (.ofNat (s.acts.reconnects cell))
  goes : ∀ c ∈ s.workers, Goes (c.chore.run registry) c.acts c.left
  /-- Whatever was concluded is among the inspections. -/
  recorded : ∀ c ∈ s.workers, ∀ acts index r, acts <+: c.acts →
    c.chore.Concludes registry acts index r → (index, r) ∈ s.inspections

variable {node : NodeId} {registry : Registry Object} {w : World} {s s' : Watch}

theorem Fresh.kept (fresh : Fresh node registry w) : Kept node registry { world := w } where
  offer := fresh.offer
  health _ _ _ there := fresh.unseen _ there.mem
  reconnects := fresh.uncounted
  goes _ mem := nomatch mem
  recorded _ mem := nomatch mem

theorem Kept.outside (h : s.Kept node registry) (agrees : s.world.Agrees node registry w) :
    Kept node registry { s with world := w } where
  offer := agrees.offer.trans h.offer
  health index name o there := (agrees.health _ there.mem).trans (h.health index name o there)
  reconnects entry mem cell relay :=
    (agrees.reconnects entry mem cell relay).trans (h.reconnects entry mem cell relay)
  goes := h.goes
  recorded := h.recorded

/-! ## One answer -/

/-- A monitor belongs to one object. -/
theorem distinct_objects (distinct : (registry.entries.map (·.2.monitor)).Nodup)
    {index index' : UInt16} {name name' : String} {o o' : Object}
    (there : registry.At index name o) (there' : registry.At index' name' o')
    (same : o.monitor = o'.monitor) : index = index' := by
  rw [Registry.entries, List.map_map] at distinct
  have equal := List.inj_on_of_nodup_map distinct (Registry.at_iff_mem.mp there)
    (Registry.at_iff_mem.mp there') same
  exact congrArg Registry.Entry.index equal

/-- The chore tells of an inspection just when it sets health, and sets the health of the object
that was inspected. -/
theorem finds_cases {chore : Chore} {acts : Exchanges} {a : Act} {next : a.Reply → Task Unit}
    {r : a.Reply} {found : Inspections} (goes : Goes (chore.run registry) acts (.ask a next))
    (finds : chore.Finds registry (acts ++ [⟨a, r⟩]) found) :
    (found = [] ∧ ∀ m healthy, a ≠ .setHealth m healthy) ∨
      ∃ index name o outcome, found = [(index, outcome)] ∧ registry.At index name o ∧
        a = .setHealth o.monitor outcome.isOk := by
  cases finds with
  | nothing none =>
    refine .inl ⟨rfl, ?_⟩
    rintro m healthy rfl
    obtain ⟨index, outcome, concludes⟩ := Chore.concludes_of_goes goes
    exact none index outcome concludes
  | one concludes =>
    obtain ⟨name, o, before, there, split⟩ := concludes.last
    obtain ⟨-, same⟩ := List.append_inj' split rfl
    cases same
    exact .inr ⟨_, name, o, _, rfl, there, rfl⟩

section

variable {chore : Chore} {acts : Exchanges} {a : Act} {next : a.Reply → Task Unit} {r : a.Reply}
  {found : Inspections} {t : TaskId}

theorem Kept.health_answered (h : s.Kept node registry)
    (distinct : (registry.entries.map (·.2.monitor)).Nodup)
    (goes : Goes (chore.run registry) acts (.ask a next))
    (finds : chore.Finds registry (acts ++ [⟨a, r⟩]) found) {index : UInt16} {name : String}
    {o : Object} (there : registry.At index name o) :
    (s.world.answer t a).1.plant.health[o.monitor]?
      = some (Inspections.lastOutcome index (s.inspections ++ found)) := by
  have before := h.health index name o there
  rcases finds_cases goes finds with ⟨rfl, others⟩ | ⟨index', name', o', outcome, rfl, there', rfl⟩
  · rw [List.append_nil, World.answer_health (others o.monitor)]
    exact before
  · show (s.world.plant.health.set o'.monitor outcome.isOk)[o.monitor]? = _
    by_cases same : o'.monitor = o.monitor
    · obtain rfl := distinct_objects distinct there' there same
      have inside := (List.getElem?_eq_some_iff.mp before).1
      rw [same, Inspections.lastOutcome_concat, List.getElem?_set_self inside]
    · have apart : index' ≠ index := by
        rintro rfl
        exact same (congrArg Object.monitor (there'.unique there).2)
      rw [Inspections.lastOutcome_concat_ne apart, List.getElem?_set_ne same, before]

theorem Kept.reconnects_answered (h : s.Kept node registry) {entry : String × Object}
    (mem : entry ∈ registry.entries) {cell : CellId} (relay : entry.2.driver = .relay cell) :
    (s.world.answer t a).1.cells[cell]?.map Cell.reconnects
      = some (.ofNat (Exchanges.reconnects cell (s.acts ++ [⟨a, r⟩]))) := by
  have before := h.reconnects entry mem cell relay
  rw [Exchanges.reconnects_append]
  by_cases counts : a = .countReconnect cell
  · subst counts
    show (s.world.cells.modify cell _)[cell]?.map Cell.reconnects = _
    obtain ⟨c, here, counted⟩ := Option.map_eq_some_iff.mp before
    rw [List.getElem?_modify_eq, here, Exchanges.reconnects_counted, UInt64.ofNat_add]
    exact congrArg (fun n => some (n + 1)) counted
  · have uncounted : a.counts cell = false := by
      cases a with
      | countReconnect c => exact decide_eq_false fun same => counts (same ▸ rfl)
      | _ => rfl
    have none : Exchanges.reconnects cell [⟨a, r⟩] = 0 := by
      rw [Exchanges.reconnects, List.countP_singleton]
      simp [uncounted]
    rw [World.answer_reconnects counts, before, none, Nat.add_zero]

theorem Kept.offer_answered (h : s.Kept node registry) (asks : a.IsChore) :
    (s.world.answer t a).1.nodes[node]?.map Node.offer
      = some { kind := .pdu, registry, draining := s.drained } := by
  rw [World.answer_offer, h.offer]
  rintro rfl
  exact asks

/-- There is one thing that a chore has concluded, if any. -/
theorem finds_of_concludes (distinct : (registry.entries.map (·.2.monitor)).Nodup)
    {index : UInt16} {outcome : Except ErrorCode Unit} (finds : chore.Finds registry acts found)
    (concludes : chore.Concludes registry acts index outcome) : (index, outcome) ∈ found := by
  cases finds with
  | nothing none => exact absurd concludes (none index outcome)
  | one concludes' =>
    obtain ⟨name, o, before, there, rfl⟩ := concludes.last
    obtain ⟨name', o', before', there', split⟩ := concludes'.last
    obtain ⟨-, same⟩ := List.append_inj' split rfl
    obtain ⟨told, -⟩ := Sigma.mk.inj (List.cons.inj same).1
    obtain rfl := distinct_objects distinct there there' (Act.setHealth.inj told).1
    obtain rfl := concludes.outcome_eq concludes'
    exact List.mem_singleton_self _

/-- **One answer** to somebody who does a chore. -/
theorem Kept.answered (h : s.Kept node registry)
    (distinct : (registry.entries.map (·.2.monitor)).Nodup) {before after : List Worker}
    (here : s.workers = before ++ ⟨t, chore, .ask a next, acts⟩ :: after)
    (answered : s.world.answer t a = (w, some r))
    (finds : chore.Finds registry (acts ++ [⟨a, r⟩]) found) :
    Kept node registry
      { s with
        world := w
        workers := before ++ ⟨t, chore, next r, acts ++ [⟨a, r⟩]⟩ :: after
        inspections := s.inspections ++ found
        acts := s.acts ++ [⟨a, r⟩] } := by
  have mem : (⟨t, chore, .ask a next, acts⟩ : Worker) ∈ s.workers := by
    rw [here]
    exact List.mem_append_right _ (List.mem_cons_self ..)
  have goes : Goes (chore.run registry) acts (.ask a next) := h.goes _ mem
  have asks : a.IsChore := (goes.asks (chore.run_asks registry)).1
  obtain rfl : (s.world.answer t a).1 = w := congrArg Prod.fst answered
  have others (c : Worker) (member : c ∈ before ++ ⟨t, chore, next r, acts ++ [⟨a, r⟩]⟩ :: after) :
      c = ⟨t, chore, next r, acts ++ [⟨a, r⟩]⟩ ∨ c ∈ s.workers := by
    rw [here]
    rcases List.mem_append.mp member with first | rest
    · exact .inr (List.mem_append_left _ first)
    · rcases List.mem_cons.mp rest with rfl | rest
      · exact .inl rfl
      · exact .inr (List.mem_append_right _ (List.mem_cons_of_mem _ rest))
  constructor
  · exact h.offer_answered asks
  · intro index name o there
    exact h.health_answered distinct goes finds there
  · intro entry member cell relay
    exact h.reconnects_answered member relay
  · intro c member
    rcases others c member with rfl | old
    · exact goes.concat r
    · exact h.goes c old
  · intro c member acts' index outcome within concludes
    rcases others c member with rfl | old
    · rcases List.prefix_concat_iff.mp within with rfl | earlier
      · exact List.mem_append_right _ (finds_of_concludes distinct finds concludes)
      · exact List.mem_append_left _ (h.recorded _ mem acts' index outcome earlier concludes)
    · exact List.mem_append_left _ (h.recorded c old acts' index outcome within concludes)

end

/-! ## Every run -/

/-- Nobody has concluded anything before the first exchange. -/
theorem not_concludes_nil {chore : Chore} {index : UInt16} {outcome : Except ErrorCode Unit} :
    ¬ chore.Concludes registry [] index outcome := by
  intro concludes
  obtain ⟨_, _, before, -, split⟩ := concludes.last
  exact List.append_ne_nil_of_right_ne_nil before (List.cons_ne_nil _ _) split.symm

theorem Kept.step (h : s.Kept node registry)
    (distinct : (registry.entries.map (·.2.monitor)).Nodup) (step : Step node registry s s') :
    s'.Kept node registry := by
  cases step with
  | begins t chore =>
    refine ⟨h.offer, h.health, h.reconnects, ?_, ?_⟩
    · intro c mem
      rcases List.mem_append.mp mem with mem | mem
      · exact h.goes c mem
      · obtain rfl := List.mem_singleton.mp mem
        exact .refl
    · intro c mem acts index outcome within concludes
      rcases List.mem_append.mp mem with mem | mem
      · exact h.recorded c mem acts index outcome within concludes
      · obtain rfl := List.mem_singleton.mp mem
        obtain rfl := List.prefix_nil.mp within
        exact absurd concludes not_concludes_nil
  | answers here answered finds => exact h.answered distinct here answered finds
  | @waits c a next w here asks unanswered =>
    -- whatever concerns the node is answered at once
    have unconcerned : ¬ a.Concerns node registry := by
      intro concerns
      have goes := h.goes c here
      rw [asks] at goes
      have chore := (goes.asks (c.chore.run_asks registry)).1
      cases a with
      | setHealth => cases unanswered
      | countReconnect => cases unanswered
      | drain => exact chore
      | _ => exact concerns
    obtain rfl : (s.world.answer c.task a).1 = w := congrArg Prod.fst unanswered
    exact h.outside (.answer s.world c.task unconcerned)
  | @leaves before after c w here left =>
    have still (c' : Worker) (mem : c' ∈ before ++ after) : c' ∈ s.workers := by
      rw [here]
      exact ((List.sublist_cons_self c after).append_left before).mem mem
    have agrees : s.world.Agrees node registry w := by
      rcases left with rfl | rfl
      · exact .of_eq rfl rfl rfl
      · exact .abandon s.world c.task
    have h := h.outside agrees
    exact ⟨h.offer, h.health, h.reconnects, fun c' mem => h.goes c' (still c' mem),
      fun c' mem => h.recorded c' (still c' mem)⟩
  | drains t =>
    refine ⟨?_, h.health, h.reconnects, h.goes, h.recorded⟩
    show (s.world.nodes.modify node _)[node]?.map Node.offer = _
    obtain ⟨n, here, offer⟩ := Option.map_eq_some_iff.mp h.offer
    rw [List.getElem?_modify_eq, here]
    exact congrArg (fun o : Offer => some { o with draining := true }) offer
  | changes d f => exact h.outside (.change s.world d f)
  | outside agrees => exact h.outside agrees

theorem Kept.reached (h : s.Kept node registry)
    (distinct : (registry.entries.map (·.2.monitor)).Nodup) (reached : Reached node registry s s') :
    s'.Kept node registry := by
  induction reached with
  | refl => exact h
  | tail _ step ih => exact ih.step distinct step

/-- Who was drained remains so. -/
theorem Reached.drained (reached : Reached node registry s s') (drained : s.drained = true) :
    s'.drained = true := by
  induction reached with
  | refl => exact drained
  | tail _ step ih => cases step <;> first | exact ih | rfl

/-! ## One chore after the other -/

/-- Whatever an act is answered with, it is known what the chore has concluded. -/
theorem exists_finds (registry : Registry Object) (chore : Chore) (acts : Exchanges) :
    ∃ found, chore.Finds registry acts found := by
  by_cases concludes : ∃ index outcome, chore.Concludes registry acts index outcome
  · obtain ⟨index, outcome, concludes⟩ := concludes
    exact ⟨_, .one concludes⟩
  · exact ⟨_, .nothing fun index outcome h => concludes ⟨index, outcome, h⟩⟩

/-- A chore that never has to wait is done at one go. -/
theorem exists_reached {t : TaskId} {chore : Chore} {left : Task Unit} {w' : World} {ended : Unit}
    (completes : Completes (fun w a r w' => w.answer t a = (w', some r)) left w ended w') :
    ∀ {s : Watch} {before after : List Worker} {acts : Exchanges}, s.world = w →
      s.workers = before ++ ⟨t, chore, left, acts⟩ :: after →
      ∃ s', Reached node registry s s' ∧ s'.world = w' ∧ s'.drained = s.drained ∧
        ∃ acts', s'.workers = before ++ ⟨t, chore, .done ended, acts'⟩ :: after := by
  induction completes with
  | done =>
    intro s before after acts world here
    exact ⟨s, .refl, world, rfl, acts, here⟩
  | @ask a next _ w _ r _ answered _ ih =>
    intro s before after acts world here
    subst world
    obtain ⟨found, finds⟩ := exists_finds registry chore (acts ++ [⟨a, r⟩])
    let s₁ : Watch :=
      { s with
        world := w
        workers := before ++ ⟨t, chore, next r, acts ++ [⟨a, r⟩]⟩ :: after
        inspections := s.inspections ++ found
        acts := s.acts ++ [⟨a, r⟩] }
    have step : Step node registry s s₁ := .answers here answered finds
    obtain ⟨s', reached, world, drained, acts', rest⟩ := ih (s := s₁) rfl rfl
    exact ⟨s', .head step reached, world, drained, acts', rest⟩

/-! ## What is shown -/

/-- How often a driver has tried to get a new connection. -/
def attempts (acts : Exchanges) : Driver → Nat
  | .device _ => 0
  | .relay cell => acts.reconnects cell

/-- What the node shows of itself is how the inspections came out. -/
structure Shown (registry : Registry Object) (s : Watch) (n : Node) : Prop where
  objects : n.objects s.world.health = registry.listing.map fun (index, name, _) =>
    { name, index, healthy := s.inspections.lastOutcome index }
  ready : n.isReady s.world.health = true ↔ s.drained = false ∧
    ∀ index name o, registry.At index name o → s.inspections.lastOutcome index = true
  /-- The number of attempts may wrap around, the others are too small for that. -/
  extra : (n.extra s.world.health s.world.reconnects).map (fun (name, v) => (name, v.toNat)) =
    [("obsrpc_upstream_reconnects_total",
        (registry.entries.map fun (_, o) => attempts s.acts o.driver).foldl Nat.add 0
          % UInt64.size),
      ("obsrpc_objects_healthy",
        registry.listing.countP fun (index, _) => s.inspections.lastOutcome index),
      ("obsrpc_objects_total", registry.size)]

theorem Kept.health_eq (h : s.Kept node registry) {index : UInt16} {name : String} {o : Object}
    (there : registry.At index name o) :
    s.world.health o.monitor = s.inspections.lastOutcome index := by
  show s.world.plant.health.getD o.monitor false = _
  rw [List.getD_eq_getElem?_getD, h.health index name o there]
  rfl

theorem Kept.objects_eq (h : s.Kept node registry) :
    (registry.listing.map fun (index, name, o) =>
      ({ name, index, healthy := s.world.health o.monitor } : ObjectView))
      = registry.listing.map fun (index, name, _) =>
        { name, index, healthy := s.inspections.lastOutcome index } := by
  refine List.map_congr_left fun (index, name, o) mem => ?_
  obtain ⟨e, here, same⟩ := List.mem_map.mp mem
  cases same
  exact congrArg (ObjectView.mk e.name e.index) (h.health_eq (Registry.at_iff_mem.mpr here))

theorem foldl_ofNat (counts : List Nat) (n : Nat) :
    (counts.map UInt64.ofNat).foldl (· + ·) (.ofNat n) = .ofNat (counts.foldl Nat.add n) := by
  induction counts generalizing n with
  | nil => rfl
  | cons count rest ih =>
    rw [List.map_cons, List.foldl_cons, List.foldl_cons, ← UInt64.ofNat_add]
    exact ih (n + count)

theorem Kept.reconnects_eq (h : s.Kept node registry) :
    (registry.entries.map fun (_, o) => o.driver).map s.world.reconnects
      = (registry.entries.map fun (_, o) => attempts s.acts o.driver).map UInt64.ofNat := by
  rw [List.map_map, List.map_map]
  refine List.map_congr_left fun (name, o) mem => ?_
  obtain ⟨driver, monitor⟩ := o
  cases driver with
  | device d => rfl
  | relay cell =>
    obtain ⟨c, here, counted⟩ := Option.map_eq_some_iff.mp (h.reconnects _ mem cell rfl)
    show s.world.cells[cell]?.elim 0 (·.reconnects) = _
    rw [here]
    exact counted

theorem Kept.extra_eq (h : s.Kept node registry) {n : Node} (own : n.registry = registry)
    (objects : n.objects s.world.health = registry.listing.map fun (index, name, _) =>
      { name, index, healthy := s.inspections.lastOutcome index }) :
    (n.extra s.world.health s.world.reconnects).map (fun (name, v) => (name, v.toNat)) =
      [("obsrpc_upstream_reconnects_total",
          (registry.entries.map fun (_, o) => attempts s.acts o.driver).foldl Nat.add 0
            % UInt64.size),
        ("obsrpc_objects_healthy",
          registry.listing.countP fun (index, _) => s.inspections.lastOutcome index),
        ("obsrpc_objects_total", registry.size)] := by
  have total : (UInt64.ofNat registry.size).toNat = registry.size :=
    UInt64.toNat_ofNat_of_lt (Nat.lt_of_le_of_lt (registry.length_entries ▸ registry.length_le)
      (by decide))
  have healthy : (UInt64.ofNat (registry.listing.countP fun (index, _) =>
      s.inspections.lastOutcome index)).toNat
        = registry.listing.countP fun (index, _) => s.inspections.lastOutcome index := by
    refine UInt64.toNat_ofNat_of_lt (Nat.lt_of_le_of_lt List.countP_le_length ?_)
    rw [Registry.listing, List.length_map]
    exact Nat.lt_of_le_of_lt registry.numbered.length_le (by decide)
  have sum : ((registry.entries.map fun (_, o) => o.driver).map s.world.reconnects).foldl (· + ·) 0
      = .ofNat ((registry.entries.map fun (_, o) => attempts s.acts o.driver).foldl Nat.add 0) := by
    rw [h.reconnects_eq]
    exact foldl_ofNat _ 0
  rw [Node.extra, objects, own, List.countP_map, sum]
  simp only [List.map_cons, List.map_nil, List.cons.injEq, Prod.mk.injEq, true_and, and_true]
  exact ⟨UInt64.toNat_ofNat', healthy, total⟩

theorem Kept.shown (h : s.Kept node registry) :
    ∃ n, s.world.nodes[node]? = some n ∧ s.Shown registry n := by
  obtain ⟨n, here, offer⟩ := Option.map_eq_some_iff.mp h.offer
  have own : n.registry = registry := congrArg Offer.registry offer
  have objects : n.objects s.world.health = registry.listing.map fun (index, name, _) =>
      { name, index, healthy := s.inspections.lastOutcome index } := by
    rw [Node.objects, own]
    exact h.objects_eq
  refine ⟨n, here, objects, ?_, ?_⟩
  · rw [Node.isReady, offer, objects]
    simp only [Offer.isReady, Bool.and_eq_true, Bool.not_eq_true', List.all_map, List.all_eq_true]
    refine and_congr_right fun _ => ?_
    constructor
    · intro all index name o there
      exact all (index, name, o) (List.mem_map.mpr ⟨_, Registry.at_iff_mem.mp there, rfl⟩)
    · rintro all ⟨index, name, o⟩ mem
      obtain ⟨e, here, same⟩ := List.mem_map.mp mem
      cases same
      exact all _ _ _ (Registry.at_iff_mem.mpr here)
  · exact h.extra_eq own objects

/-- What is true of a node that is watched. -/
structure Faithful (node : NodeId) (registry : Registry Object) (s : Watch) : Prop where
  shown : ∃ n, s.world.nodes[node]? = some n ∧ s.Shown registry n
  /-- A chore that is over has inspected what it was for, whatever came of it. -/
  finished : ∀ c ∈ s.workers, c.left = .done () → ∀ index, c.chore.IsFor registry index →
    ∃ acts outcome, acts <+: c.acts ∧ c.chore.Concludes registry acts index outcome ∧
      (index, outcome) ∈ s.inspections
  /-- Nothing but the end of an inspection of an object changes its health. -/
  changed : ∀ s', Step node registry s s' → ∀ index name o, registry.At index name o →
    s'.world.health o.monitor ≠ s.world.health o.monitor →
    ∃ c ∈ s.workers, ∃ outcome, c.chore.IsFor registry index ∧
      s'.inspections = s.inspections ++ [(index, outcome)]
  /-- Once drained, the node is never ready again. -/
  drained : s.drained = true → ∀ s', Reached node registry s s' →
    ∀ n, s'.world.nodes[node]? = some n → n.isReady s'.world.health = false

/-- Only who concludes an inspection adds to the inspections. -/
theorem Step.inspections_cases (step : Step node registry s s') :
    s'.inspections = s.inspections ∨ ∃ c ∈ s.workers, ∃ index outcome,
      c.chore.IsFor registry index ∧ s'.inspections = s.inspections ++ [(index, outcome)] := by
  cases step with
  | @answers before after t chore acts a next r w found here answered finds =>
    cases finds with
    | nothing => exact .inl (List.append_nil _)
    | one concludes =>
      refine .inr ⟨⟨t, chore, .ask a next, acts⟩, ?_, _, _, concludes.isFor, rfl⟩
      rw [here]
      exact List.mem_append_right _ (List.mem_cons_self ..)
  | _ => exact .inl rfl

/-- **Health and readiness follow the inspections**, however requests, inspections of all objects
and faults of devices come one after the other or overlap. -/
theorem shows_inspections (fresh : Fresh node registry w)
    (reached : Reached node registry { world := w } s) : s.Faithful node registry := by
  have kept := fresh.kept.reached fresh.distinct reached
  refine ⟨kept.shown, ?_, ?_, ?_⟩
  · intro c mem ended index isFor
    have runs : Runs (c.chore.run registry) c.acts () := by
      have goes := kept.goes c mem
      rw [ended] at goes
      exact goes.runs
    obtain ⟨acts, outcome, within, concludes⟩ := Chore.concludes_of_runs runs isFor
    have recorded := kept.recorded c mem acts index outcome within concludes
    exact ⟨acts, outcome, within, concludes, recorded⟩
  · intro s' step index name o there differs
    have kept' := kept.step fresh.distinct step
    rw [kept'.health_eq there, kept.health_eq there] at differs
    rcases step.inspections_cases with same | ⟨c, mem, index', outcome, isFor, more⟩
    · exact absurd (congrArg _ same) differs
    · by_cases same : index' = index
      · subst same
        exact ⟨c, mem, outcome, isFor, more⟩
      · rw [more, Inspections.lastOutcome_concat_ne same] at differs
        exact absurd rfl differs
  · intro drained s' later n here
    obtain ⟨n', here', shown⟩ := (kept.reached fresh.distinct later).shown
    obtain rfl : n' = n := Option.some.inj (here'.symm.trans here)
    rw [Bool.eq_false_iff]
    intro ready
    exact Bool.false_ne_true ((shown.ready.mp ready).1.symm.trans (later.drained drained))

/-- Two strips, one of them with a fault. -/
def strips : Registry Object :=
  .of [("east", ⟨.device 0, 0⟩), ("west", ⟨.device 1, 1⟩)] (by decide) (by decide)

/-- A node that offers them. -/
def withStrips : World where
  plant := {
    devices := [.strip { outlets := [("mount", false)], fault := some .timedOut },
      .strip { outlets := [("dome", false)] }]
    health := [false, false] }
  nodes := [{ registry := strips }]

/-- Both are inspected, although the first inspection fails. -/
theorem shows_inspections_strips : Fresh 0 strips withStrips ∧
    ∃ s n, Reached 0 strips { world := withStrips } s ∧ s.world.nodes[0]? = some n ∧
      n.objects s.world.health = [⟨"east", 1, false⟩, ⟨"west", 2, true⟩] ∧
      s.Faithful 0 strips := by
  have fresh : Fresh 0 strips withStrips := by
    refine ⟨rfl, by decide, by decide, ?_⟩
    rintro entry (_ | ⟨_, _ | ⟨_, ⟨⟩⟩⟩) cell ⟨⟩
  let inspected : World := { withStrips with
    plant := { withStrips.plant with health := [false, true] } }
  have completes : Completes (fun w a r w' => w.answer 7 a = (w', some r))
      (Chore.inspectAll.run strips) withStrips () inspected := by
    refine .ask (a := .parts 0) (r := (1 : Nat)) rfl ?_
    refine .ask (a := .command 0 (.probe 0)) (r := Except.error .timedOut) rfl ?_
    refine .ask (a := .setHealth 0 false) (r := ()) rfl ?_
    refine .ask (a := .parts 1) (r := (1 : Nat)) rfl ?_
    refine .ask (a := .command 1 (.probe 0)) (r := Except.ok ()) rfl ?_
    refine .ask (a := .setHealth 1 true) (r := ()) rfl ?_
    exact .done
  let asked : Watch :=
    { world := withStrips, workers := [⟨7, .inspectAll, Chore.inspectAll.run strips, []⟩] }
  have begins : Step 0 strips { world := withStrips } asked := .begins _ 7 .inspectAll
  have here : asked.workers = [] ++ ⟨7, .inspectAll, Chore.inspectAll.run strips, []⟩ :: [] := rfl
  obtain ⟨s, done, world, -⟩ : ∃ s, Reached 0 strips asked s ∧ s.world = inspected ∧ _ :=
    exists_reached completes rfl here
  have reached := Relation.ReflTransGen.head begins done
  refine ⟨fresh, s, { registry := strips }, reached, ?_, ?_, shows_inspections fresh reached⟩
  · rw [world]
    rfl
  · rw [world]
    decide

end Watch

/-! ## Setting up -/

namespace World

/-- Setting up made these objects: a new monitor for each, and nobody has counted anything. -/
structure Added (w w' : World) (objects : List (String × Object)) : Prop where
  health : w'.plant.health = w.plant.health ++ List.replicate objects.length false
  monitors : objects.map (·.2.monitor) = List.range' w.plant.health.length objects.length
  cells : w.cells <+: w'.cells
  uncounted : ∀ entry ∈ objects, ∀ cell, entry.2.driver = .relay cell →
    w'.cells[cell]?.map Cell.reconnects = some 0

variable {w w' : World} {objects : List (String × Object)}

theorem addUnit_added {unit : PduSettings} {o : Object} (made : w.addUnit unit = .ok (w', o)) :
    Added w w' [(unit.name, o)] := by
  unfold addUnit at made
  cases passed : unit.relay with
  | none =>
    rw [passed] at made
    cases made
    refine ⟨rfl, rfl, List.prefix_refl _, ?_⟩
    intro entry mem cell relay
    obtain rfl := List.mem_singleton.mp mem
    cases relay
  | some relay =>
    rw [passed] at made
    obtain ⟨endpoint, -, made⟩ : ∃ endpoint, relay.endpoint = .ok endpoint ∧
        w.addRelay { endpoint, options := relay.options, name := relay.name } = (w', o) := by
      cases address : relay.endpoint with
      | error e => simp only [address] at made; cases made
      | ok endpoint => simp only [address] at made; exact ⟨endpoint, rfl, Except.ok.inj made⟩
    cases made
    refine ⟨rfl, rfl, List.prefix_append .., ?_⟩
    intro entry mem cell same
    obtain rfl := List.mem_singleton.mp mem
    cases same
    show (w.cells ++ [_])[w.cells.length]?.map _ = _
    rw [List.getElem?_concat_length]
    rfl

theorem addUnits_added : ∀ (units : List PduSettings) {w w' : World}
    {objects : List (String × Object)}, w.addUnits units = .ok (w', objects) → Added w w' objects
  | [], w, w', objects, made => by
    cases made
    exact ⟨(List.append_nil _).symm, rfl, List.prefix_refl _, fun _ mem => nomatch mem⟩
  | unit :: units, w, w', objects, made => by
    rw [addUnits] at made
    change (w.addUnit unit >>= _) = _ at made
    cases first : w.addUnit unit with
    | error e => rw [first] at made; cases made
    | ok result =>
      obtain ⟨w₁, o⟩ := result
      rw [first] at made
      change (w₁.addUnits units >>= _) = _ at made
      cases rest : w₁.addUnits units with
      | error e => rw [rest] at made; cases made
      | ok result =>
        obtain ⟨w₂, others⟩ := result
        rw [rest] at made
        cases made
        have one := addUnit_added first
        have more := addUnits_added units rest
        have count : w₁.plant.health.length = w.plant.health.length + 1 := by
          rw [one.health, List.length_append]
          rfl
        refine ⟨?_, ?_, one.cells.trans more.cells, ?_⟩
        · rw [more.health, one.health, List.append_assoc]
          rfl
        · have monitor : o.monitor = w.plant.health.length := (List.cons.inj one.monitors).1
          rw [List.map_cons, more.monitors, count, monitor]
          rfl
        · intro entry mem cell relay
          rcases List.mem_cons.mp mem with rfl | mem
          · have here := one.uncounted _ (List.mem_singleton_self _) cell relay
            obtain ⟨c, found, counted⟩ := Option.map_eq_some_iff.mp here
            obtain ⟨inside, rfl⟩ := List.getElem?_eq_some_iff.mp found
            rw [List.prefix_iff_getElem?.mp more.cells cell inside]
            exact congrArg some counted
          · exact more.uncounted entry mem cell relay

end World

/-- A node that was just set up from its settings is fresh. -/
theorem Watch.Fresh.of_boot {settings : Settings} {w w' : World} {node : NodeId}
    (booted : w.boot settings = .ok (w', node)) : ∃ registry, Watch.Fresh node registry w' := by
  unfold World.boot at booted
  cases made : w.addUnits settings.pdus with
  | error e => rw [made] at booted; cases booted
  | ok result =>
    obtain ⟨w₁, objects⟩ := result
    rw [made] at booted
    change w₁.addNode settings .pdu objects = _ at booted
    unfold World.addNode at booted
    cases built : Registry.build objects with
    | error e => rw [built] at booted; cases booted
    | ok registry =>
      rw [built] at booted
      cases booted
      have entries := Registry.entries_of_build built
      have added := World.addUnits_added _ made
      refine ⟨registry, ?_, ?_, ?_, ?_⟩
      · show (w₁.nodes ++ [_])[w₁.nodes.length]?.map Node.offer = _
        rw [List.getElem?_concat_length]
        rfl
      · rw [entries, added.monitors]
        exact List.nodup_range'
      · rw [entries]
        intro entry mem
        have monitor : entry.2.monitor ∈ objects.map (·.2.monitor) :=
          List.mem_map.mpr ⟨entry, mem, rfl⟩
        rw [added.monitors, List.mem_range'_1] at monitor
        show w₁.plant.health[entry.2.monitor]? = _
        rw [added.health, List.getElem?_append_right monitor.1, List.getElem?_replicate]
        exact if_pos (by omega)
      · rw [entries]
        exact added.uncounted

end DeviceRpc
