import DeviceRpc.Proofs.Device.StripHost
import DeviceRpc.Proofs.Registry
import DeviceRpc.Proofs.Relay.Hop

/-!
# Chains of relays

A relay may stand for a unit that is a relay itself. A chain is given by its legs, from the first
relay on; the last leg leads to the node of a strip. Each leg's surroundings contain those of the
next, so the state of a chain is nested (`Chain.State`), and every server on the way may move
whenever it can.

A chain is transparent (`Chain.transparent`). Requests to its first object are answered, one after
the other, as the same requests to the strip's own object are: the replies differ in nothing but the
index that they were sent to, and the strip's plant ends the same. This is an induction on the legs,
and one step of it is `Leg.ask_ends`.
-/

namespace DeviceRpc

/-- The state of a chain: of every relay on the way, and of the plant at its end. -/
def Chain.State : List Leg → Type
  | [] => Plant
  | _ :: legs => Hop (State legs)

namespace Chain

/-- The node of the chain's first object; the plant's node has these objects. -/
def host (registry : Registry Object) : (legs : List Leg) → Host (State legs)
  | [] => Plant.host registry
  | leg :: legs => (host registry legs).behind leg

/-- The first object: a relay, or what the chain leads to. -/
def front (base : Object) : List Leg → Object
  | [] => base
  | leg :: _ => ⟨.relay leg.cell, leg.monitor⟩

/-- The plant at the end. -/
def plant : (legs : List Leg) → State legs → Plant
  | [], p => p
  | _ :: legs, s => plant legs s.far.host

/-- The chain before its first request: nobody has connected. -/
def start (p : Plant) : (legs : List Leg) → State legs
  | [] => p
  | leg :: legs => ⟨leg.client none 0, false, false, ⟨none, start p legs⟩⟩

/-- Every relay has the registered name of the next object, which can be sent there. -/
inductive Linked (registry : Registry Object) (base : Object) : List Leg → Prop where
  | nil : Linked registry base []
  | cons {leg : Leg} {legs : List Leg}
      (registered : (leg.name, front base legs) ∈ (host registry legs).registry.entries)
      (zeroFree : ZeroFree leg.name) (carries : Packet.Carries leg.served.maxPayload leg.name)
      (linked : Linked registry base legs) : Linked registry base (leg :: legs)

/-- Every client is in step with its connection, and the plant is known. -/
def AtRest (registry : Registry Object) (base : Object) (p : Plant) :
    (legs : List Leg) → State legs → Prop
  | [], s => s = p
  | leg :: legs, s => ∃ i healthy t, leg.Finds (host registry legs) i ∧
      (host registry legs).registry.object? i = some (front base legs) ∧
      leg.Rests i healthy t s ∧ AtRest registry base p legs t

variable {registry : Registry Object} {base : Object} {p : Plant} {n : Nat} {d : DeviceId}
  {m : MonitorId}

theorem atRest_start {legs : List Leg} (linked : Linked registry base legs) :
    AtRest registry base p legs (start p legs) := by
  induction linked with
  | nil => rfl
  | @cons leg legs registered zeroFree carries _ ih =>
    obtain ⟨i, index, object⟩ := Registry.index?_of_mem registered
    exact ⟨i, false, start p legs, ⟨index, zeroFree, carries⟩, object, ⟨none, 0, _, .apart, rfl⟩, ih⟩

theorem AtRest.plant_eq : ∀ {legs : List Leg} {s : State legs}, AtRest registry base p legs s →
    plant legs s = p
  | [], _, h => h
  | leg :: legs, s, ⟨_, _, t, _, _, ⟨_, _, far, inStep, eq⟩, rest⟩ => by
    have host : s.far.host = t := by
      rw [eq]
      cases inStep <;> rfl
    show plant legs s.far.host = p
    rw [host]
    exact rest.plant_eq

theorem AtRest.still : ∀ {legs : List Leg} {s : State legs}, AtRest registry base p legs s →
    (host registry legs).machine.Still s
  | [], s, _ => Plant.machine_still s
  | leg :: legs, s, ⟨_, _, t, _, _, ⟨_, _, far, inStep, eq⟩, rest⟩ => by
    rw [eq]
    exact Leg.inStep_still inStep rest.still

/-- An inquiry to the first object is answered as the strip answers it. -/
theorem ask_ends (q : Inquiry) : ∀ {legs : List Leg} {s : State legs} {p : Plant},
    p.HasStrip n d → (∀ leg ∈ legs, q.Admits leg.served.maxPayload) →
    (q = .status → ∀ leg ∈ legs, n ≤ leg.options.maxPayload ∧ n < UInt32.size) →
    AtRest registry ⟨.device d, m⟩ p legs s →
    Ends (host registry legs).machine
      (fun a s' => ∃ p', Plant.run? (q.ask ⟨.device d, m⟩) p = some (a, p') ∧
        AtRest registry ⟨.device d, m⟩ p' legs s')
      (q.ask (front ⟨.device d, m⟩ legs)) s
  | [], _, p, strip, _, _, rfl => by
    obtain ⟨a, p', runs, -, -⟩ := Plant.ask_strip strip m q
    refine (Plant.ends_of_run? runs).mono (fun _ ht => ht) ?_
    intro a s' post
    obtain ⟨rfl, rfl⟩ := post
    exact ⟨_, runs, rfl⟩
  | leg :: legs, s, p, strip, admits, fits, ⟨i, healthy, t, finds, object, rests, atRest⟩ => by
    have answers := ask_ends q strip (fun leg mem => admits leg (List.mem_cons_of_mem _ mem))
      (fun status leg mem => fits status leg (List.mem_cons_of_mem _ mem)) atRest
    have sound (a : Except ErrorCode q.Answer) (p' : Plant)
        (runs : Plant.run? (q.ask ⟨.device d, m⟩) p = some (a, p')) :
        q.Sound leg.options.maxPayload a := by
      obtain ⟨a', p'', runs', -, sound⟩ := Plant.ask_strip strip m q
      rw [runs] at runs'
      cases runs'
      exact sound _ fun status => fits status leg (List.mem_cons_self ..)
    have forwarded := Leg.ask_ends atRest.still object (admits leg (List.mem_cons_self ..)) answers
      (by rintro a t' ⟨p', -, atRest'⟩; exact atRest'.still)
      (by rintro a t' ⟨p', runs, -⟩; exact sound a p' runs) finds rests
    refine forwarded.mono (fun _ ht => ht) ?_
    intro a s' post
    obtain ⟨healthy', t', ⟨p', runs, atRest'⟩, rests'⟩ := post
    exact ⟨p', runs, i, healthy', t', finds, object, rests', atRest'⟩

/-! ## Requests -/

/-- A request to the first object, by one of the commands that are passed on. What it says, and what
it asks for, can be sent over every leg. -/
structure Asks (registry : Registry Object) (base : Object) (n : Nat) (legs : List Leg)
    (p : Packet) : Prop where
  object : (host registry legs).registry.object? p.index = some (front base legs)
  listed : p.command ∈ Inquiry.commands
  carried : p.command = Pdu.getChannelByName → ∀ name, p.name = .ok name →
    ∀ leg ∈ legs, Packet.Carries leg.served.maxPayload name
  fits : p.command = Pdu.status → ∀ leg ∈ legs, n ≤ leg.options.maxPayload ∧ n < UInt32.size

theorem Asks.admits {legs : List Leg} {p : Packet} (asks : Asks registry base n legs p) {q : Inquiry}
    (asked : q.Asked p) : ∀ leg ∈ legs, q.Admits leg.served.maxPayload := by
  intro leg mem
  cases q with
  | channelOf name =>
    obtain ⟨command, named⟩ := asked
    exact ⟨Packet.zeroFree_of_name named, asks.carried command name named leg mem⟩
  | _ => trivial

/-- One request is answered, but for the index, as the strip answers it, and the chain is at rest
again. -/
theorem dispatch_ends {legs : List Leg} {s : State legs} {p : Plant} {i : UInt16}
    (object : registry.object? i = some ⟨.device d, m⟩) (strip : p.HasStrip n d)
    (atRest : AtRest registry ⟨.device d, m⟩ p legs s) {request : Packet}
    (asks : Asks registry ⟨.device d, m⟩ n legs request) :
    Ends (host registry legs).machine
      (fun reply s' => ∃ p', Plant.run? (Pdu.service.dispatch registry (request.withIndex i)) p
          = some (reply.withIndex i, p') ∧
        p'.HasStrip n d ∧ AtRest registry ⟨.device d, m⟩ p' legs s')
      (Pdu.service.dispatch (host registry legs).registry request) s := by
  rcases Inquiry.dispatch_listed asks.listed with ⟨q, asked, dispatched⟩ | ⟨code, refused⟩
  · obtain ⟨a, p', runs, strip', -⟩ := Plant.ask_strip strip m q
    have status (h : q = .status) : request.command = Pdu.status := by
      subst h
      exact asked
    have answered := ask_ends q strip (asks.admits asked) (fun h => asks.fits (status h)) atRest
    have relayed : Pdu.service.dispatch (host registry legs).registry request = _ :=
      dispatched _ request.index _ asks.object
    rw [relayed, dispatched _ _ _ object, Plant.run?_bind, runs]
    refine .bind (answered.mono (fun _ _ => trivial) ?_)
    intro a' s' post
    obtain ⟨p'', runs', atRest'⟩ := post
    rw [runs] at runs'
    cases runs'
    exact .done ⟨p', rfl, strip', atRest'⟩
  · have relayed : Pdu.service.dispatch (host registry legs).registry request = _ :=
      refused _ request.index _ asks.object
    rw [relayed, refused _ _ _ object]
    exact .done ⟨p, rfl, strip, atRest⟩

end Chain

/-- Dispatches requests one after the other. -/
def Pdu.dispatchAll (registry : Registry Object) : List Packet → Task (List Packet)
  | [] => return []
  | p :: ps => do
    let reply ← Pdu.service.dispatch registry p
    return reply :: (← dispatchAll registry ps)

namespace Chain

variable {registry : Registry Object} {n : Nat} {d : DeviceId} {m : MonitorId}

theorem dispatchAll_ends {legs : List Leg} {i : UInt16}
    (object : registry.object? i = some ⟨.device d, m⟩) :
    ∀ (requests : List Packet) {s : State legs} {p : Plant}, p.HasStrip n d →
      AtRest registry ⟨.device d, m⟩ p legs s →
      (∀ request ∈ requests, Asks registry ⟨.device d, m⟩ n legs request) →
      Ends (host registry legs).machine
        (fun replies s' => Plant.run? (Pdu.dispatchAll registry (requests.map (·.withIndex i))) p
          = some (replies.map (·.withIndex i), plant legs s'))
        (Pdu.dispatchAll (host registry legs).registry requests) s
  | [], s, p, _, atRest, _ => by
    refine .done ?_
    rw [atRest.plant_eq]
    rfl
  | request :: requests, s, p, strip, atRest, asks => by
    refine .bind ((dispatch_ends object strip atRest (asks _ (List.mem_cons_self ..))).mono
      (fun _ _ => trivial) ?_)
    intro reply s' post
    obtain ⟨p', runs, strip', atRest'⟩ := post
    refine .bind ((dispatchAll_ends object requests strip' atRest' fun request mem =>
      asks request (List.mem_cons_of_mem _ mem)).mono (fun _ _ => trivial) ?_)
    intro replies s'' rest
    refine .done ?_
    rw [List.map_cons, Pdu.dispatchAll, Plant.run?_bind, runs, Option.bind_some]
    simp only
    rw [Plant.run?_bind, rest]
    rfl

/-- A chain of relays to a strip answers a sequence of requests as the strip does, and leaves it in
the same state. -/
theorem transparent (registry : Registry Object) (legs : List Leg) {i : UInt16}
    (object : registry.object? i = some ⟨.device d, m⟩)
    (linked : Linked registry ⟨.device d, m⟩ legs) {p : Plant} (strip : p.HasStrip n d)
    (requests : List Packet)
    (asks : ∀ request ∈ requests, Asks registry ⟨.device d, m⟩ n legs request) :
    Ends (host registry legs).machine
      (fun replies s => Plant.run? (Pdu.dispatchAll registry (requests.map (·.withIndex i))) p
        = some (replies.map (·.withIndex i), plant legs s))
      (Pdu.dispatchAll (host registry legs).registry requests) (start p legs) :=
  dispatchAll_ends object requests strip (atRest_start linked) asks

/-- A relay to the strip under the name `unit`. -/
def near : Leg where
  cell := 0
  monitor := 1
  endpoint := .tcp "localhost" 13002
  options := {}
  name := "unit"
  node := 0
  served := {}
  registry := .of [("relay", ⟨.relay 0, 1⟩)] (by decide) (by decide)

/-- A relay to that relay. -/
def remote : Leg where
  cell := 1
  monitor := 2
  endpoint := .tcp "localhost" 13003
  options := {}
  name := "relay"
  node := 1
  served := {}
  registry := .of [("front", ⟨.relay 1, 2⟩)] (by decide) (by decide)

open Plant (oneOutlet oneUnit switchOn)

theorem near_linked : Linked oneUnit ⟨.device 0, 0⟩ [near] :=
  .cons (List.mem_cons_self ..) (by decide) (Packet.carries_of_lt (by decide) _) .nil

/-- Two relays on the way: the outlet is switched, and the reply is the strip's. -/
theorem transparent_switch :
    Ends (host oneUnit [remote, near]).machine
      (fun replies s => Plant.run? (Pdu.dispatchAll oneUnit ([switchOn].map (·.withIndex 1))) oneOutlet
        = some (replies.map (·.withIndex 1), plant [remote, near] s))
      (Pdu.dispatchAll (host oneUnit [remote, near]).registry [switchOn])
      (start oneOutlet [remote, near]) := by
  have linked : Linked oneUnit ⟨.device 0, 0⟩ [remote, near] :=
    .cons (List.mem_cons_self ..) (by decide) (Packet.carries_of_lt (by decide) _) near_linked
  refine transparent oneUnit [remote, near] rfl linked Plant.oneOutlet_hasStrip [switchOn] ?_
  intro request mem
  obtain rfl := List.mem_singleton.mp mem
  exact ⟨rfl, by decide, fun command => absurd command (by decide),
    fun command => absurd command (by decide)⟩

end Chain

end DeviceRpc
