import DeviceRpc.Proofs.Pdu.Crowd

/-!
# The history of an outlet

Of the requests that are through, the successful switches alone decide which outlets have power: an
outlet has it if the last of them for its unit and its channel turned it on (`Pdu.powered`).

A request more, carried out at one moment, keeps the outlets of every unit as the history says
(`Pdu.CarriedOut.powered`), and what it is answered is what the history says then
(`Pdu.CarriedOut.faithful`).
-/

namespace DeviceRpc

namespace Pdu

/-! ## History -/

/-- What a request that is through switched the outlet with a channel of a unit to, if it did. -/
def turned (registry : Registry Object) (i : UInt16) (channel : Nat) (x : Served) : Option Bool :=
  if x.reply.errorCode = 0 ∧ (Service.aim registry x.request).toOption = some i ∧
      x.request.channel.toNat = channel then
    if x.request.command = turnOn then some true
    else if x.request.command = turnOff then some false
    else none
  else none

/-- Whether the last successful switch of an outlet turned it on. -/
def powered (registry : Registry Object) (i : UInt16) (channel : Nat) (served : List Served) :
    Bool :=
  (served.filterMap (turned registry i channel)).getLast?.getD false

/-- The outlets that a unit with these names has then. -/
def outletsAfter (registry : Registry Object) (names : UInt16 → List String) (i : UInt16)
    (served : List Served) : List (String × Bool) :=
  (names i).mapIdx fun place name => (name, powered registry i (place + 1) served)

/-- One byte for each outlet of the unit. -/
def statusAfter (registry : Registry Object) (names : UInt16 → List String) (i : UInt16)
    (served : List Served) : Bytes :=
  (List.range (names i).length).map fun place =>
    if powered registry i (place + 1) served then 1 else 0

/-- There is an outlet with this channel. -/
def HasOutlet (names : List String) (channel : UInt16) : Prop :=
  1 ≤ channel.toNat ∧ channel.toNat ≤ names.length

instance (names : List String) (channel : UInt16) : Decidable (HasOutlet names channel) :=
  inferInstanceAs (Decidable (_ ∧ _))

/-- What an outlet draws. -/
def load (on : Bool) : Binary64 := if on then Strip.outletLoad else .zero

/-- The outlets of every unit are as the history says. -/
def Powered (registry : Registry Object) (names : UInt16 → List String) (served : List Served)
    (plant : Plant) : Prop :=
  ∀ i name o, registry.At i name o →
    plant.outlets? registry i = some (outletsAfter registry names i served)

section

variable {registry : Registry Object} {names : UInt16 → List String} {before : List Served}
  {x : Served} {i : UInt16} {channel place : Nat} {plant plant' : Plant} {p q : Packet}
  {inquiry : Inquiry}

/-! ### One request more -/

theorem powered_concat (registry : Registry Object) (i : UInt16) (channel : Nat)
    (before : List Served) (x : Served) :
    powered registry i channel (before ++ [x])
      = (turned registry i channel x).getD (powered registry i channel before) := by
  unfold powered
  rw [List.filterMap_append]
  cases turn : turned registry i channel x with
  | none => simp only [List.filterMap_cons, turn, List.filterMap_nil, List.append_nil,
      Option.getD_none]
  | some on => simp only [List.filterMap_cons, turn, List.filterMap_nil, List.getLast?_concat,
      Option.getD_some]

/-- What is no successful switch for a unit turns nothing there. -/
theorem turned_eq_none
    (h : x.reply.errorCode = 0 → (Service.aim registry x.request).toOption = some i →
      x.request.command ≠ turnOn ∧ x.request.command ≠ turnOff) :
    turned registry i channel x = none := by
  unfold turned
  split
  next switched =>
    obtain ⟨notOn, notOff⟩ := h switched.1 switched.2.1
    rw [if_neg notOn, if_neg notOff]
  next => rfl

theorem turned_switch {on : Bool} (ok : x.reply.errorCode = 0)
    (aims : (Service.aim registry x.request).toOption = some i)
    (command : x.request.command = if on then turnOn else turnOff) :
    turned registry i channel x = if x.request.channel.toNat = channel then some on else none := by
  unfold turned
  by_cases here : x.request.channel.toNat = channel
  · rw [if_pos ⟨ok, aims, here⟩, if_pos here]
    cases on with
    | true => exact if_pos command
    | false =>
      have off : x.request.command = turnOff := command
      rw [off]
      rfl
  · rw [if_neg fun switched => here switched.2.2, if_neg here]

theorem length_outletsAfter : (outletsAfter registry names i before).length = (names i).length :=
  List.length_mapIdx

theorem getElem?_outletsAfter (registry : Registry Object) (names : UInt16 → List String)
    (i : UInt16) (before : List Served) (place : Nat) :
    (outletsAfter registry names i before)[place]?
      = (names i)[place]?.map fun name => (name, powered registry i (place + 1) before) :=
  List.getElem?_mapIdx

theorem names_outletsAfter : (outletsAfter registry names i before).map Prod.fst = names i := by
  refine List.ext_getElem? fun place => ?_
  rw [List.getElem?_map, getElem?_outletsAfter]
  cases (names i)[place]? <;> rfl

theorem Powered.unit (h : Powered registry names before plant) {name : String} {o : Object}
    (there : registry.At i name o) :
    ∃ s, plant.unit? registry i = some s ∧ s.outlets = outletsAfter registry names i before :=
  Option.map_eq_some_iff.mp (h i name o there)

theorem Powered.unmoved (h : Powered registry names before plant)
    (unmoved : ∀ j, plant'.unit? registry j = plant.unit? registry j) :
    Powered registry names before plant' := by
  intro i name o there
  rw [Plant.outlets?, unmoved]
  exact h i name o there

theorem Powered.stocked (h : Powered registry names before plant) :
    Stocked registry names plant := by
  intro i name o there
  obtain ⟨s, unit, outlets⟩ := h.unit there
  exact ⟨s, unit, outlets ▸ names_outletsAfter⟩

/-- A request that turns nothing in a unit leaves the outlets as they are. -/
theorem outletsAfter_concat_none (h : ∀ channel, turned registry i channel x = none) :
    outletsAfter registry names i (before ++ [x]) = outletsAfter registry names i before := by
  unfold outletsAfter
  simp only [powered_concat, h, Option.getD_none]

/-- A successful switch sets the outlet with its channel, and no other. -/
theorem outletsAfter_concat_switch {on : Bool} (ok : x.reply.errorCode = 0)
    (aims : (Service.aim registry x.request).toOption = some i)
    (command : x.request.command = if on then turnOn else turnOff)
    (channel : x.request.channel.toNat = place + 1) :
    outletsAfter registry names i (before ++ [x])
      = (outletsAfter registry names i before).modify place fun (name, _) => (name, on) := by
  refine List.ext_getElem? fun k => ?_
  rw [List.getElem?_modify, getElem?_outletsAfter, getElem?_outletsAfter, powered_concat,
    turned_switch ok aims command, channel]
  by_cases here : place = k
  · subst here
    simp only [if_true, Option.getD_some]
    cases (names i)[place]? <;> rfl
  · have other : ¬ place + 1 = k + 1 := fun same => here (Nat.succ.inj same)
    simp only [if_neg here, if_neg other, Option.getD_none]
    cases (names i)[k]? <;> rfl

theorem Reaches.aim (h : Reaches registry p i) : Service.aim registry p = .ok i :=
  Service.aim_eq_ok_iff.mpr h.aims

theorem Reaches.unique {j : UInt16} (h : Reaches registry p i) (h' : Reaches registry p j) :
    i = j := Except.ok.inj (h.aim.symm.trans h'.aim)

/-- A switch of a strip with the outlets of the history goes into the history. -/
theorem after_switch {s : Strip} {on : Bool} {channel : UInt16}
    (outlets : s.outlets = outletsAfter registry names i before) (reaches : Reaches registry p i)
    (asked : (Inquiry.switch on channel).Asked p)
    (reply : q = (Inquiry.switch on channel).reply (p.withIndex i)
      (s.answer (.switch on channel))) :
    (s.after (.switch on channel)).outlets
      = outletsAfter registry names i (before ++ [⟨p, q⟩]) := by
  obtain ⟨command, rfl⟩ := asked
  have aims : (Service.aim registry p).toOption = some i := by
    rw [reaches.aim]
    rfl
  cases placed : s.place? p.channel with
  | error code =>
    obtain rfl := Strip.place?_error placed
    have performed := Strip.perform_switch_error placed on
    have failed : q.errorCode ≠ 0 := by
      rw [reply, Strip.answer, performed]
      show ErrorCode.invalidArgument.number ≠ 0
      decide
    rw [Strip.after, performed, outlets]
    exact (outletsAfter_concat_none fun _ => turned_eq_none fun ok _ => absurd ok failed).symm
  | ok place =>
    have performed := Strip.perform_switch_ok placed on
    have ok : q.errorCode = 0 := by
      rw [reply, Strip.answer, performed]
      rfl
    have switched : outletsAfter registry names i (before ++ [⟨p, q⟩])
        = (outletsAfter registry names i before).modify place fun (name, _) => (name, on) :=
      outletsAfter_concat_switch ok aims command (Strip.place?_lt placed).1
    rw [Strip.after, performed, switched, ← outlets]
    rfl

/-- Whatever else a request asks, it does not have the command of a switch. -/
theorem command_ne_switch (asked : inquiry.Asked p)
    (other : ∀ on channel, inquiry ≠ .switch on channel) :
    p.command ≠ turnOn ∧ p.command ≠ turnOff := by
  cases inquiry with
  | switch on channel => exact absurd rfl (other on channel)
  | status | inspect =>
    have command : p.command = _ := asked
    rw [command]
    decide
  | _ =>
    rw [asked.1]
    decide

/-- **One request more**: the outlets of every unit are as the history says, with it in it. -/
theorem CarriedOut.powered (h : CarriedOut registry p plant q plant')
    (powered : Powered registry names before plant) :
    Powered registry names (before ++ [⟨p, q⟩]) plant' := by
  intro i name o there
  obtain ⟨s, unit, outlets⟩ := powered.unit there
  refine Option.map_eq_some_iff.mpr ?_
  cases h with
  | other _ refused unmoved =>
    refine ⟨s, (unmoved i).trans unit, outlets.trans (outletsAfter_concat_none ?_).symm⟩
    refine fun _ => turned_eq_none fun ok _ => ⟨fun on => ?_, fun off => ?_⟩
    · exact refused (by rw [show p.command = turnOn from on]; decide) ok
    · exact refused (by rw [show p.command = turnOff from off]; decide) ok
  | @unit j inquiry s' reaches asked plain unit' reply after =>
    by_cases here : i = j
    · subst here
      cases unit.symm.trans unit'
      refine ⟨s.after inquiry, (after i).trans (if_pos rfl), ?_⟩
      by_cases switches : ∃ on channel, inquiry = .switch on channel
      · obtain ⟨on, channel, rfl⟩ := switches
        exact after_switch outlets reaches asked reply
      · have other (on channel) (is : inquiry = .switch on channel) : False :=
          switches ⟨on, channel, is⟩
        have still : s.after inquiry = s := by
          cases inquiry with
          | switch on channel => exact (other on channel rfl).elim
          | _ => rfl
        rw [still, outlets]
        exact (outletsAfter_concat_none fun _ => turned_eq_none fun _ _ =>
          command_ne_switch asked other).symm
    · refine ⟨s, ((after i).trans (if_neg here)).trans unit, outlets.trans ?_⟩
      refine (outletsAfter_concat_none fun _ => turned_eq_none fun _ aims => ?_).symm
      have elsewhere : (Service.aim registry p).toOption = some j := by
        rw [reaches.aim]
        rfl
      exact absurd (Option.some.inj (aims.symm.trans elsewhere)) here

/-! ### What a reply says -/

/-- The reply to a request, by what was through before it. -/
structure Faithful (registry : Registry Object) (names : UInt16 → List String)
    (before : List Served) (x : Served) : Prop where
  /-- A status has the byte of each outlet up to the limit, if they can be counted. -/
  status : ∀ {i}, Reaches registry x.request i → x.request.command = status →
    let bytes := cut x.request.limit (statusAfter registry names i before)
    if bytes.length < UInt32.size then x.reply.errorCode = 0 ∧ x.reply.payload = bytes
    else x.reply.errorCode = ErrorCode.invalidArgument.number
  current : ∀ {i}, Reaches registry x.request i → x.request.command = getCurrent →
    if HasOutlet (names i) x.request.channel then
      x.reply.errorCode = 0 ∧
        x.reply.f64 .first = load (powered registry i x.request.channel.toNat before)
    else x.reply.errorCode = ErrorCode.invalidArgument.number
  voltageCurrent : ∀ {i}, Reaches registry x.request i → x.request.command = getVoltageCurrent →
    if HasOutlet (names i) x.request.channel then
      x.reply.errorCode = 0 ∧
        x.reply.f64 .second = load (powered registry i x.request.channel.toNat before)
    else x.reply.errorCode = ErrorCode.invalidArgument.number
  switch : ∀ {i}, Reaches registry x.request i →
    x.request.command = turnOn ∨ x.request.command = turnOff →
    x.reply.errorCode
      = if HasOutlet (names i) x.request.channel then 0 else ErrorCode.invalidArgument.number
  /-- A name is answered with the channel of the first outlet that has it. -/
  channel : ∀ {i}, Reaches registry x.request i → x.request.command = getChannelByName →
    x.reply.errorCode = 0 → ∃ name place, x.request.name = .ok name ∧
      (names i).findIdx? (· = name) = some place ∧ x.reply.channel.toNat = place + 1 ∧
        HasOutlet (names i) x.reply.channel
  found : ∀ {i name place}, Reaches registry x.request i → x.request.command = getChannelByName →
    x.request.name = .ok name → (names i).findIdx? (· = name) = some place →
    place + 1 < UInt16.size → x.reply.errorCode = 0

theorem status_eq {s : Strip} (outlets : s.outlets = outletsAfter registry names i before) :
    s.status = statusAfter registry names i before := by
  unfold Strip.status statusAfter
  rw [outlets]
  refine List.ext_getElem? fun place => ?_
  rw [List.getElem?_map, getElem?_outletsAfter, List.getElem?_map]
  by_cases inside : place < (names i).length
  · rw [List.getElem?_range inside, List.getElem?_eq_getElem inside]
    rfl
  · have outside := Nat.not_lt.mp inside
    rw [List.getElem?_eq_none outside, List.getElem?_eq_none (by rwa [List.length_range])]
    rfl

theorem isOn_eq {s : Strip} (outlets : s.outlets = outletsAfter registry names i before)
    (inside : place < (names i).length) :
    s.isOn place = powered registry i (place + 1) before := by
  unfold Strip.isOn
  rw [outlets, getElem?_outletsAfter, List.getElem?_eq_getElem inside]
  rfl

theorem findIdx?_eq {s : Strip} (outlets : s.outlets = outletsAfter registry names i before)
    (name : String) : s.outlets.findIdx? (·.1 = name) = (names i).findIdx? (· = name) := by
  have named : s.outlets.map Prod.fst = names i := by rw [outlets, names_outletsAfter]
  rw [← named, List.findIdx?_map]
  rfl

/-- The first outlet with a name is found, if its channel can be counted. -/
theorem channelOf_first {s : Strip} {name : String}
    (outlets : s.outlets = outletsAfter registry names i before)
    (first : (names i).findIdx? (· = name) = some place) (counted : place + 1 < UInt16.size) :
    s.channelOf name = .ok (UInt16.ofNat (place + 1)) := by
  unfold Strip.channelOf
  simp only [findIdx?_eq outlets, first]
  exact if_pos counted

theorem channelOf_eq_ok {s : Strip} {name : String} {found : UInt16}
    (outlets : s.outlets = outletsAfter registry names i before)
    (h : s.channelOf name = .ok found) :
    ∃ place, (names i).findIdx? (· = name) = some place ∧ found.toNat = place + 1 ∧
      HasOutlet (names i) found := by
  unfold Strip.channelOf at h
  rw [findIdx?_eq outlets] at h
  cases first : (names i).findIdx? (· = name) with
  | none =>
    rw [first] at h
    cases h
  | some place =>
    simp only [first] at h
    split at h
    next counted =>
      cases h
      have number : (UInt16.ofNat (place + 1)).toNat = place + 1 := by
        rw [UInt16.toNat_ofNat']
        exact Nat.mod_eq_of_lt counted
      obtain ⟨inside, -⟩ := List.findIdx?_eq_some_iff_getElem.mp first
      refine ⟨place, rfl, number, ?_⟩
      unfold HasOutlet
      rw [number]
      exact ⟨Nat.succ_pos place, inside⟩
    next => cases h

/-- A request that reaches a unit is answered by a strip with the outlets of the history. -/
theorem CarriedOut.answered (h : CarriedOut registry p plant q plant')
    (powered : Powered registry names before plant) (reaches : Reaches registry p i)
    (asked : inquiry.Asked p) (plain : inquiry ≠ .inspect) :
    ∃ s : Strip, s.outlets = outletsAfter registry names i before ∧
      q = inquiry.reply (p.withIndex i) (s.answer inquiry) := by
  obtain ⟨name, o, there⟩ := reaches.there
  obtain ⟨s, unit, outlets⟩ := powered.unit there
  cases h with
  | other nobody => exact absurd (nobody i inquiry reaches asked) plain
  | unit reaches' asked' _ unit' reply =>
    obtain rfl := reaches.unique reaches'
    obtain rfl := Inquiry.asked_unique asked asked'
    cases unit.symm.trans unit'
    exact ⟨s, outlets, reply⟩

section

variable {s : Strip}

theorem place?_inside (outlets : s.outlets = outletsAfter registry names i before)
    {channel : UInt16} (inside : HasOutlet (names i) channel) :
    s.place? channel = .ok (channel.toNat - 1) := by
  refine Strip.place?_of_inside inside.1 ?_
  rw [outlets, length_outletsAfter]
  exact inside.2

theorem place?_outside (outlets : s.outlets = outletsAfter registry names i before)
    {channel : UInt16} (outside : ¬ HasOutlet (names i) channel) :
    s.place? channel = .error .invalidArgument := by
  refine Strip.place?_of_outside ?_
  rw [outlets, length_outletsAfter]
  exact outside

theorem current_inside (outlets : s.outlets = outletsAfter registry names i before)
    {channel : UInt16} (inside : HasOutlet (names i) channel) :
    (s.perform (.current channel)).2 = .ok (load (powered registry i channel.toNat before)) := by
  have place : channel.toNat - 1 < (names i).length := by
    have := inside.1
    have := inside.2
    omega
  have counted : channel.toNat - 1 + 1 = channel.toNat := Nat.sub_add_cancel inside.1
  rw [Strip.perform, place?_inside outlets inside]
  show Except.ok (if s.isOn (channel.toNat - 1) then Strip.outletLoad else .zero) = _
  rw [isOn_eq outlets place, counted]
  rfl

end

/-- **Every reply is faithful** to what was through before it. -/
theorem CarriedOut.faithful (h : CarriedOut registry p plant q plant')
    (powered : Powered registry names before plant) : Faithful registry names before ⟨p, q⟩ where
  status reaches command := by
    obtain ⟨s, outlets, rfl⟩ := h.answered powered reaches
      (show Inquiry.status.Asked p from command) (by rintro ⟨⟩)
    have limit : (p.withIndex _).limit = p.limit := rfl
    rw [Strip.answer, status_eq outlets]
    intro bytes
    split
    next small => exact Inquiry.status_reply small
    next large => exact Inquiry.status_reply_large (Nat.not_lt.mp large)
  current reaches command := by
    obtain ⟨s, outlets, rfl⟩ := h.answered powered reaches
      (show (Inquiry.current p.channel).Asked p from ⟨command, rfl⟩) (by rintro ⟨⟩)
    split
    next inside =>
      rw [Strip.answer, current_inside outlets inside]
      exact ⟨rfl, Packet.f64_setF64 .first _ _⟩
    next outside =>
      rw [Strip.answer, Strip.perform, place?_outside outlets outside]
      rfl
  voltageCurrent reaches command := by
    obtain ⟨s, outlets, rfl⟩ := h.answered powered reaches
      (show (Inquiry.voltageCurrent p.channel).Asked p from ⟨command, rfl⟩) (by rintro ⟨⟩)
    split
    next inside =>
      rw [Strip.answer, current_inside outlets inside, Strip.perform,
        place?_inside outlets inside]
      exact ⟨rfl, Packet.f64_setF64 .second _ _⟩
    next outside =>
      rw [Strip.answer, Strip.perform, place?_outside outlets outside]
      rfl
  switch {i} reaches command := by
    obtain ⟨on, command⟩ : ∃ on : Bool, p.command = if on then turnOn else turnOff := by
      rcases command with command | command
      · exact ⟨true, command⟩
      · exact ⟨false, command⟩
    obtain ⟨s, outlets, rfl⟩ := h.answered powered reaches
      (show (Inquiry.switch on p.channel).Asked p from ⟨command, rfl⟩) (by rintro ⟨⟩)
    split
    next inside =>
      rw [Strip.answer, Strip.perform_switch_ok (place?_inside outlets inside)]
      rfl
    next outside =>
      rw [Strip.answer, Strip.perform_switch_error (place?_outside outlets outside)]
      rfl
  channel {i} reaches command ok := by
    have command : p.command = getChannelByName := command
    cases named : p.name with
    | ok name =>
      obtain ⟨s, outlets, rfl⟩ := h.answered powered reaches
        (show (Inquiry.channelOf name).Asked p from ⟨command, named⟩) (by rintro ⟨⟩)
      cases found : s.channelOf name with
      | error code =>
        obtain rfl := Strip.channelOf_error found
        rw [Strip.answer, found] at ok
        exact absurd ok (of_decide_eq_false rfl)
      | ok channel =>
        obtain ⟨place, first, number, inside⟩ := channelOf_eq_ok outlets found
        rw [Strip.answer, found]
        exact ⟨name, place, rfl, first, number, inside⟩
    | error e =>
      cases h with
      | other _ refused => exact absurd ok (refused (by rw [command]; decide))
      | unit _ asked =>
        have none := Inquiry.of?_eq_some asked
        rw [Inquiry.of?, command, named] at none
        cases none
  found reaches command named first counted := by
    obtain ⟨s, outlets, rfl⟩ := h.answered powered reaches
      (show (Inquiry.channelOf _).Asked p from ⟨command, named⟩) (by rintro ⟨⟩)
    rw [Strip.answer, channelOf_first outlets first counted]
    rfl

end

end Pdu

end DeviceRpc
