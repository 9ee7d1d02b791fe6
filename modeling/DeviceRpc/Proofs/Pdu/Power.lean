import DeviceRpc.Proofs.Pdu.History

/-!
# Power

However many connections bring requests, and however their acts come one after the other, the
outlets of every unit are as the history of the requests that are through says, and so is every
reply (`Crowd.power_history`). Every step keeps this (`Crowd.Kept.step`), since every request is as
good as carried out at one moment.
-/

namespace DeviceRpc

namespace Crowd

open Pdu

variable {registry : Registry Object} {names : UInt16 → List String} {c c' : Crowd} {k : Nat}
  {p q : Packet} {plant : Plant}

/-! ## Runs -/

/-- What every step keeps. -/
structure Kept (registry : Registry Object) (names : UInt16 → List String) (c : Crowd) : Prop where
  powered : Powered registry names c.served c.plant
  lands : ∀ {k w}, c.waiting k = some w →
    Lands registry names (CarriedOut registry w.request) w.task
  within : ∀ {k w}, c.waiting k = some w → w.request.command ∈ ofUnit → Within 2 w.task
  faithful : ∀ {n x}, c.served[n]? = some x → Faithful registry names (c.served.take n) x

theorem waiting_update {w : Option Pending} {j : Nat} {w' : Pending}
    (h : Function.update c.waiting k w j = some w') : w = some w' ∨ c.waiting j = some w' := by
  by_cases same : j = k
  · subst same
    rw [Function.update_self] at h
    exact .inl h
  · rw [Function.update_of_ne same] at h
    exact .inr h

namespace Kept

/-- A request comes to its moment. -/
theorem ends (h : c.Kept registry names) (k : Nat)
    (outcome : CarriedOut registry p c.plant q plant) :
    (goesOn k p { c with plant } (.done q)).Kept registry names where
  powered := outcome.powered h.powered
  lands here := h.lands ((waiting_update here).resolve_left nofun)
  within here := h.within ((waiting_update here).resolve_left nofun)
  faithful {n x} there := by
    change (c.served ++ [Served.mk p q])[n]? = some x at there
    show Faithful registry names ((c.served ++ [Served.mk p q]).take n) x
    by_cases old : n < c.served.length
    · rw [List.getElem?_append_left old] at there
      rw [List.take_append_of_le_length (Nat.le_of_lt old)]
      exact h.faithful there
    · obtain ⟨past, rfl⟩ := Nat.exists_eq_add_of_le (Nat.not_lt.mp old)
      rw [List.getElem?_append_right (Nat.le_add_right ..), Nat.add_sub_cancel_left] at there
      cases past with
      | succ => cases there
      | zero =>
        cases there
        rw [Nat.add_zero, List.take_left]
        exact outcome.faithful h.powered

/-- A request is still to come to it. -/
theorem waits (h : c.Kept registry names) (k : Nat)
    (unmoved : ∀ j, plant.unit? registry j = c.plant.unit? registry j) {t : Task Packet}
    (lands : Lands registry names (CarriedOut registry p) t)
    (within : p.command ∈ ofUnit → Within 2 t) :
    (goesOn k p { c with plant } t).Kept registry names := by
  cases t with
  | done => exact lands.elim
  | ask a next =>
    have here {j : Nat} {w : Pending}
        (here : (goesOn k p { c with plant } (.ask a next)).waiting j = some w) :
        w = ⟨p, .ask a next⟩ ∨ c.waiting j = some w :=
      (waiting_update here).imp_left fun same => (Option.some.inj same).symm
    refine ⟨h.powered.unmoved unmoved, fun there => ?_, fun there member => ?_, h.faithful⟩
    · rcases here there with rfl | old
      · exact lands
      · exact h.lands old
    · rcases here there with rfl | old
      · exact within member
      · exact h.within old member

/-- Whatever happens, it is kept. -/
theorem step (owns : registry.Owns) (h : c.Kept registry names) (step : c.Step registry c') :
    c'.Kept registry names := by
  cases step with
  | comes p idle =>
    obtain ⟨q, ends, outcome⟩ | (lands : Lands registry names _ _) := dispatch_lands owns p
    · rw [ends]
      exact h.ends _ (outcome c.plant)
    · exact h.waits _ (fun _ => rfl) lands (dispatch_within owns)
  | @acts k w a next r plant here asks acts =>
    have lands := h.lands here
    have within := h.within here
    rw [asks] at lands within
    rcases lands c.plant r plant h.powered.stocked acts with ⟨q, ends, outcome⟩ | ⟨unmoved, lands⟩
    · rw [ends]
      exact h.ends k outcome
    · exact h.waits k unmoved lands fun member => within_succ ((within member).2 r)
  | leaves k =>
    exact ⟨h.powered, fun there => h.lands ((waiting_update there).resolve_left nofun),
      fun there => h.within ((waiting_update there).resolve_left nofun), h.faithful⟩
  | breaks d fault =>
    refine ⟨fun i name o there => ?_, h.lands, h.within, h.faithful⟩
    exact (Plant.outlets?_change ..).trans (h.powered i name o there)

end Kept

/-- Every unit is as it was made, without power. -/
def Dark (registry : Registry Object) (names : UInt16 → List String) (plant : Plant) : Prop :=
  ∀ i name o, registry.At i name o →
    plant.outlets? registry i = some (Strip.ofNames (names i)).outlets

theorem start_kept (dark : Dark registry names plant) :
    Kept registry names { plant } where
  powered i name o there := by
    have unpowered : (Strip.ofNames (names i)).outlets = outletsAfter registry names i [] := by
      refine List.ext_getElem? fun place => ?_
      rw [getElem?_outletsAfter]
      exact List.getElem?_map
    rw [dark i name o there, unpowered]
  lands := nofun
  within := nofun
  faithful := nofun

theorem reached_kept (owns : registry.Owns) (dark : Dark registry names plant)
    (reached : Reached registry { plant } c) : c.Kept registry names := by
  induction reached with
  | refl => exact start_kept dark
  | tail _ step ih => exact ih.step owns step

theorem goesOn_served (k : Nat) (p : Packet) (c : Crowd) (t : Task Packet) :
    ∃ new, (goesOn k p c t).served = c.served ++ new := by
  cases t with
  | done q => exact ⟨[⟨p, q⟩], rfl⟩
  | ask => exact ⟨[], (List.append_nil _).symm⟩

/-- What is through stays so. -/
theorem Step.served (step : c.Step registry c') : ∃ new, c'.served = c.served ++ new := by
  cases step with
  | comes => exact goesOn_served ..
  | acts => exact goesOn_served ..
  | leaves => exact ⟨[], (List.append_nil _).symm⟩
  | breaks => exact ⟨[], (List.append_nil _).symm⟩

/-- What a crowd tells of its requests accounts for the power of its units. -/
structure Consistent (registry : Registry Object) (names : UInt16 → List String) (c : Crowd) :
    Prop where
  powered : Powered registry names c.served c.plant
  /-- Every reply says how the units were when the requests before it were through. -/
  faithful : ∀ n x, c.served[n]? = some x → Faithful registry names (c.served.take n) x
  /-- A channel that was found can be switched. -/
  switches : ∀ x ∈ c.served, ∀ y ∈ c.served, ∀ i, Reaches registry x.request i →
    x.request.command = getChannelByName → x.reply.errorCode = 0 → Reaches registry y.request i →
    (y.request.command = turnOn ∨ y.request.command = turnOff) →
    y.request.channel = x.reply.channel → y.reply.errorCode = 0
  /-- A step with which no request succeeds changes no outlet. -/
  unchanged : ∀ c', c.Step registry c' →
    (∀ x ∈ c'.served.drop c.served.length, x.reply.errorCode ≠ 0) →
    ∀ i, c'.plant.outlets? registry i = c.plant.outlets? registry i
  /-- Where a command looks for an outlet, there is one. -/
  inside : ∀ i s channel place, c.plant.unit? registry i = some s → s.place? channel = .ok place →
    ∃ name on, (names i)[place]? = some name ∧ s.outlets[place]? = some (name, on)
  /-- A request with a command of units waits for devices only, and not for long. -/
  soon : ∀ k w, c.waiting k = some w → w.request.command ∈ ofUnit →
    (∃ d command next, w.task = .ask (.command d command) next) ∧ Within 2 w.task

theorem outletsAfter_append_failed {i : UInt16} :
    ∀ {new : List Served} {before : List Served}, (∀ x ∈ new, x.reply.errorCode ≠ 0) →
      outletsAfter registry names i (before ++ new) = outletsAfter registry names i before
  | [], before, _ => by rw [List.append_nil]
  | x :: new, before, failed => by
    rw [List.append_cons,
      outletsAfter_append_failed fun x mem => failed x (List.mem_cons_of_mem _ mem)]
    exact outletsAfter_concat_none fun _ => turned_eq_none fun ok _ =>
      absurd ok (failed x (List.mem_cons_self ..))

theorem Kept.unchanged (h : c.Kept registry names) (h' : c'.Kept registry names)
    (step : c.Step registry c')
    (failed : ∀ x ∈ c'.served.drop c.served.length, x.reply.errorCode ≠ 0) (i : UInt16) :
    c'.plant.outlets? registry i = c.plant.outlets? registry i := by
  obtain ⟨new, served⟩ := step.served
  rw [served, List.drop_left] at failed
  by_cases there : ∃ name o, registry.At i name o
  · obtain ⟨name, o, there⟩ := there
    rw [h.powered i name o there, h'.powered i name o there, served,
      outletsAfter_append_failed failed]
  · have nobody : registry.device? i = none := by
      rw [Registry.device?, Registry.object?_eq_none_iff.mpr fun name o at' =>
        there ⟨name, o, at'⟩]
      rfl
    unfold Plant.outlets? Plant.unit?
    rw [nobody]
    rfl

theorem Kept.consistent (owns : registry.Owns) (h : c.Kept registry names) :
    c.Consistent registry names where
  powered := h.powered
  faithful _ _ := h.faithful
  switches x xMem y yMem i reaches command ok reaches' command' channel := by
    obtain ⟨n, hn⟩ := List.mem_iff_getElem?.mp xMem
    obtain ⟨n', hn'⟩ := List.mem_iff_getElem?.mp yMem
    obtain ⟨_, _, _, _, _, inside⟩ := (h.faithful hn).channel reaches command ok
    rw [(h.faithful hn').switch reaches' command', channel, if_pos inside]
  unchanged _ step := h.unchanged (h.step owns step) step
  inside i s channel place unit placed := by
    obtain ⟨d, device, -⟩ := Option.bind_eq_some_iff.mp unit
    obtain ⟨name, m, there⟩ := Registry.at_of_device? device
    obtain ⟨s', unit', outlets⟩ := h.powered.unit there
    cases unit.symm.trans unit'
    have inside := (Strip.place?_lt placed).2
    rw [outlets, length_outletsAfter] at inside
    rw [outlets, getElem?_outletsAfter, List.getElem?_eq_getElem inside]
    exact ⟨_, _, rfl, rfl⟩
  soon k w here member := by
    have within := h.within here member
    have lands := h.lands here
    cases left : w.task with
    | done =>
      rw [left] at lands
      exact lands.elim
    | ask a next =>
      rw [left] at within
      obtain ⟨⟨d, command, rfl⟩, rest⟩ := within
      exact ⟨⟨d, command, next, rfl⟩, ⟨d, command, rfl⟩, rest⟩

/-- **Power is the history of the successful switches.** Whatever requests come to the units, on
however many connections, however they are addressed and in whatever order their acts are carried
out: the outlets of every unit are as the last successful switches left them, every reply says so,
and nothing else changes an outlet. -/
theorem power_history (owns : registry.Owns) (dark : Dark registry names plant)
    (reached : Reached registry { plant } c) : c.Consistent registry names :=
  (reached_kept owns dark reached).consistent owns

/-! ## One outlet -/

open Plant (oneOutlet oneUnit switchOn)

/-- A request for the status of the unit. -/
def statusOne : Packet :=
  { Packet.empty with protocol := Protocol.pdu, index := 1, command := Pdu.status }

/-- Two requests at once: the status shows the outlet that was switched on before it. -/
theorem power_history_switched :
    ∃ c, Reached oneUnit { plant := oneOutlet } c ∧
      (∃ x y, c.served = [x, y] ∧ x.request = switchOn ∧ y.reply.payload = [1]) ∧
      c.Consistent oneUnit fun _ => ["pump"] := by
  have dark : Dark oneUnit (fun _ => ["pump"]) oneOutlet := by
    intro i name o there
    obtain ⟨rfl, rfl⟩ := Plant.oneUnit_at there
    rfl
  have asksSwitch : service.dispatch oneUnit switchOn
      = (ask (.command 0 (.switch true 1)) >>= fun r =>
          .done ((Inquiry.switch true 1).reply switchOn r)) :=
    Inquiry.dispatch_asked (show (Inquiry.switch true 1).Asked switchOn from ⟨rfl, rfl⟩) (.inl rfl)
      (show oneUnit.object? 1 = some ⟨.device 0, 0⟩ from rfl)
  have asksStatus : service.dispatch oneUnit statusOne
      = (ask (.command 0 .status) >>= fun r => .done (Inquiry.status.reply statusOne r)) :=
    Inquiry.dispatch_asked (show Inquiry.status.Asked statusOne from rfl) (.inl rfl)
      (show oneUnit.object? 1 = some ⟨.device 0, 0⟩ from rfl)
  have one : Reached oneUnit { plant := oneOutlet } _ := .single (.comes (k := 0) switchOn rfl)
  rw [asksSwitch] at one
  have both := one.tail (.comes (k := 1) statusOne rfl)
  rw [asksStatus] at both
  have switched := both.tail (.acts (k := 0) rfl rfl (Plant.Answers.does rfl).acts)
  have told := switched.tail (.acts (k := 1) rfl rfl (Plant.Answers.does rfl).acts)
  have small : (cut statusOne.limit [1]).length < UInt32.size := by decide
  have payload (r : Except ErrorCode Bytes) (answer : r = .ok [1]) :
      (Inquiry.status.reply statusOne r).payload = [1] := by
    rw [answer]
    exact (Inquiry.status_reply small).2
  refine ⟨_, told, ⟨_, _, rfl, rfl, ?_⟩, power_history Plant.oneUnit_owns dark told⟩
  dsimp only
  exact payload _ rfl

end Crowd

end DeviceRpc
