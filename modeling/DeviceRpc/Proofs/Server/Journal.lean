import DeviceRpc.Proofs.Dispatch.Outward
import DeviceRpc.Proofs.Link.Drawing
import DeviceRpc.Proofs.Packet.Framing

/-!
# What a server tells

A connection is served somewhere, its bytes may stop anywhere, sending may fail, and what dispatching
asks may be answered by anything. Still the server's journal, which is everything it exchanged so
far, tells one story (`Journal.Told`): the connection brought some frames whole, each of them was
dispatched in a complete run that is written down in the journal, and what was sent is the replies of
these runs in the same order, except that a refusal may have come last.

Between two requests the connection is in step (`Journal.Ready`): nothing else has been received, and
every reply was sent. A task that serves keeps this up from round to round (`Server.round_keeps`), so
the story is true at every moment, also while a request is still being carried out.
-/

namespace DeviceRpc

open Packet (IsFrame Same)

/-- Receiving and sending on a connection that was accepted. -/
def Act.OnLine : Act → Prop
  | receive h _ _ | send h _ => h.side = .acceptor
  | _ => False

theorem Act.not_onLine {a : Act} (h : ¬ a.IsServing) : ¬ a.OnLine := by
  intro line
  cases a <;> first | exact h line | exact line

/-- Everything that a task exchanged so far. -/
abbrev Journal := List (Prog.Exchange Act.Reply)

namespace Journal

/-- The bytes that an answer brought. -/
def taken : (a : Act) → a.Reply → Bytes
  | .receive h _ _, .bytes first rest => if h.side = .acceptor then first :: rest else []
  | _, _ => []

/-- The frame that was sent. -/
def given : Act → List Bytes
  | .send h frame => if h.side = .acceptor then [frame] else []
  | _ => []

/-- The bytes that the connection brought. -/
def received (j : Journal) : Bytes := j.flatMap fun x => taken x.1 x.2

/-- The frames that were sent on it. -/
def sent (j : Journal) : List Bytes := j.flatMap fun x => given x.1

/-- A frame was not sent, or only a part of it. -/
def Failed : (a : Act) → a.Reply → Prop
  | .send h _, .error _ => h.side = .acceptor
  | _, _ => False

/-- No sending failed. -/
def Clean (j : Journal) : Prop := ∀ x ∈ j, ¬ Failed x.1 x.2

/-- An answer that is allowed is written down. -/
def Grows : Answering Journal := fun j a r j' => a.Allows r ∧ j' = j ++ [⟨a, r⟩]

/-- The second journal goes on where the first one ends, with these bytes received and nothing
sent. -/
structure Took (j : Journal) (bs : Bytes) (j' : Journal) : Prop where
  grown : j <+: j'
  received : j'.received = j.received ++ bs
  sent : j'.sent = j.sent
  clean : j.Clean → j'.Clean

variable {j j' : Journal}

theorem taken_apart {a : Act} (h : ¬ a.OnLine) (r : a.Reply) : taken a r = [] := by
  unfold taken
  split
  · refine if_neg ?_
    exact h
  · rfl

theorem given_apart {a : Act} (h : ¬ a.OnLine) : given a = [] := by
  unfold given
  split
  · refine if_neg ?_
    exact h
  · rfl

theorem received_concat (j : Journal) (x : Prog.Exchange Act.Reply) :
    received (j ++ [x]) = j.received ++ taken x.1 x.2 := by
  rw [received, List.flatMap_append, List.flatMap_singleton]
  rfl

theorem sent_concat (j : Journal) (x : Prog.Exchange Act.Reply) :
    sent (j ++ [x]) = j.sent ++ given x.1 := by
  rw [sent, List.flatMap_append, List.flatMap_singleton]
  rfl

theorem failed_apart {a : Act} (h : ¬ a.OnLine) (r : a.Reply) : ¬ Failed a r := by
  unfold Failed
  split
  · exact h
  · exact id

theorem Clean.concat (h : j.Clean) {x : Prog.Exchange Act.Reply} (good : ¬ Failed x.1 x.2) :
    Clean (j ++ [x]) := by
  intro y mem
  rcases List.mem_append.mp mem with mem | mem
  · exact h y mem
  · obtain rfl := List.mem_singleton.mp mem
    exact good

namespace Took

theorem refl (j : Journal) : j.Took [] j :=
  ⟨List.prefix_rfl, (List.append_nil _).symm, rfl, id⟩

theorem trans {j'' : Journal} {bs bs' : Bytes} (h : j.Took bs j') (h' : j'.Took bs' j'') :
    j.Took (bs ++ bs') j'' where
  grown := h.grown.trans h'.grown
  received := by rw [h'.received, h.received, List.append_assoc]
  sent := h'.sent.trans h.sent
  clean clean := h'.clean (h.clean clean)

/-- What is not on the connection leaves it alone. -/
theorem apart {a : Act} (h : ¬ a.OnLine) (r : a.Reply) : j.Took [] (j ++ [⟨a, r⟩]) where
  grown := List.prefix_append ..
  received := by
    rw [received_concat]
    rw [taken_apart h]
  sent := by
    rw [sent_concat, given_apart h, List.append_nil]
  clean clean := clean.concat (failed_apart h r)

theorem piece {h : Handle} (side : h.side = .acceptor) (n : Nat) (limit : Option Instant)
    (first : UInt8) (rest : Bytes) :
    j.Took (first :: rest) (j ++ [⟨.receive h n limit, .bytes first rest⟩]) where
  grown := List.prefix_append ..
  received := by
    rw [received_concat]
    exact congrArg _ (if_pos side)
  sent := by rw [sent_concat]; exact List.append_nil _
  clean clean := clean.concat id

theorem without {h : Handle} (n : Nat) (limit : Option Instant) {r : Received}
    (none : ∀ first rest, r ≠ .bytes first rest) :
    j.Took [] (j ++ [⟨.receive h n limit, r⟩]) where
  grown := List.prefix_append ..
  received := by
    rw [received_concat]
    cases r with
    | bytes first rest => exact absurd rfl (none first rest)
    | ended | reset | late => rfl
  sent := by rw [sent_concat]; exact List.append_nil _
  clean clean := clean.concat id

end Took

/-! ## Requests and replies -/

/-- A request that was carried out. -/
structure Round where
  registry : Registry Object
  /-- The request as it came. -/
  bytes : Bytes
  request : Packet
  /-- What carrying it out exchanged. -/
  acts : Journal
  reply : Packet

/-- The frame that answers. -/
def Round.frame (d : Round) : Bytes := d.reply.frame

/-- The journal holds the whole run that made a reply of the request. -/
structure Round.Within (d : Round) (j : Journal) : Prop where
  read : d.request.ReadFrom d.bytes
  runs : (Pdu.service.dispatch d.registry d.request).Runs d.acts d.reply
  acts : d.acts <:+: j
  whole : d.reply.Whole

/-- The bytes that came began with these requests, and what was sent answers them in order. -/
structure Told (j : Journal) (rounds : List Round) : Prop where
  within : ∀ d ∈ rounds, d.Within j
  taken : (rounds.map Round.bytes).flatten <+: j.received
  sent : j.sent = rounds.map Round.frame ∨
    ∃ p, j.sent = rounds.map Round.frame ++ [(Server.refusal p).frame]

/-- Every request that came is answered, and the next one may come. -/
structure Ready (j : Journal) (rounds : List Round) : Prop where
  within : ∀ d ∈ rounds, d.Within j
  taken : j.received = (rounds.map Round.bytes).flatten
  sent : j.sent = rounds.map Round.frame
  clean : j.Clean

variable {rounds : List Round} {bs : Bytes}

theorem Round.Within.grown {d : Round} (h : d.Within j) (more : j <+: j') : d.Within j' :=
  { h with acts := h.acts.trans more.isInfix }

theorem Told.took (h : j.Told rounds) (took : j.Took bs j') : j'.Told rounds where
  within d mem := (h.within d mem).grown took.grown
  taken := by
    rw [took.received]
    exact h.taken.trans (List.prefix_append ..)
  sent := by rw [took.sent]; exact h.sent

theorem Ready.told (h : j.Ready rounds) : j.Told rounds :=
  ⟨h.within, h.taken ▸ List.prefix_rfl, .inl h.sent⟩

theorem Ready.took (h : j.Ready rounds) (took : j.Took [] j') : j'.Ready rounds where
  within d mem := (h.within d mem).grown took.grown
  taken := by rw [took.received, h.taken, List.append_nil]
  sent := by rw [took.sent, h.sent]
  clean := took.clean h.clean

/-- A server asks while its story is true, and sends only while no sending has failed. -/
def May (j : Journal) (a : Act) : Prop :=
  (∃ rounds, j.Told rounds) ∧ ∀ h frame, a = .send h frame → h.side = .acceptor → j.Clean

theorem Told.may {a : Act} (h : j.Told rounds) (other : ∀ h frame, a ≠ .send h frame) : j.May a :=
  ⟨⟨rounds, h⟩, fun handle frame same => absurd same (other handle frame)⟩

theorem May.clean {a : Act} (h : j.May a) (some : given a ≠ []) : j.Clean := by
  unfold given at some
  split at some
  · exact h.2 _ _ rfl (Decidable.byContradiction fun other => some (if_neg other))
  · exact absurd rfl some

/-- Asking something that is not on the connection. -/
theorem Told.request {α : Type} {Q : α → Journal → Prop} {a : Act} {f : a.Reply → Task α}
    (told : j.Told rounds) (other : ¬ a.OnLine)
    (go : ∀ r j', a.Allows r → j.Took [] j' → Keeps Grows May Q (f r) j') :
    Keeps Grows May Q (ask a >>= f) j := by
  refine .request ⟨⟨rounds, told⟩, ?_⟩ ?_
  · rintro h frame rfl side
    exact absurd side other
  · intro r _ hr
    obtain ⟨allowed, rfl⟩ := hr
    exact go r _ allowed (.apart other r)

/-- Dispatching leaves the connection alone, and is written down. -/
theorem Told.outward {α : Type} {P : α → Prop} :
    ∀ {p : Task α} {j : Journal}, Outward P p → j.Told rounds →
      Keeps Grows May (fun b j' => ∃ acts, j' = j ++ acts ∧ p.Runs acts b ∧ j.Took [] j') p j
  | .done b, j, _, _ => ⟨[], (List.append_nil j).symm, .done b, .refl j⟩
  | .ask a next, j, ⟨foreign, go⟩, told => by
    refine ⟨⟨⟨rounds, told⟩, ?_⟩, ?_⟩
    · rintro h frame rfl side
      exact absurd side foreign
    · intro r _ hr
      obtain ⟨allowed, rfl⟩ := hr
      have took : j.Took [] (j ++ [⟨a, r⟩]) := .apart (Act.not_onLine foreign) r
      refine ((told.took took).outward (go r () allowed)).mono (fun _ _ here => here) ?_
      intro b j' post
      obtain ⟨acts, rfl, runs, took'⟩ := post
      refine ⟨⟨a, r⟩ :: acts, ?_, .ask r runs, took.trans took'⟩
      rw [List.append_assoc, List.singleton_append]

end Journal

namespace Server

open Journal

variable {j : Journal} {rounds : List Round}

theorem refusal_whole (p : Packet) : (refusal p).Whole := rfl

theorem draws {h : Handle} (side : h.side = .acceptor) (told : j.Told rounds) :
    Draws Grows May h j.Took where
  may n limit took := (told.took took).may nofun
  may_now took := (told.took took).may nofun
  piece := by
    intro bs _ n limit first rest _ took hr
    obtain ⟨short, rfl⟩ := hr
    exact ⟨short, took.trans (.piece side n limit first rest)⟩
  without := by
    intro bs _ n limit r _ took hr none
    obtain ⟨-, rfl⟩ := hr
    exact List.append_nil bs ▸ took.trans (.without (h := h) n limit none)
  clock := by
    intro bs _ r _ took hr
    obtain ⟨-, rfl⟩ := hr
    exact List.append_nil bs ▸ took.trans (.apart (a := .now) id r)

/-- How a round of a connection ends: the next request may come, or the story is over. -/
def Rests (e : Ending) (j : Journal) : Prop :=
  (∃ node channel p rounds, e = .become (.connection node channel p) ∧
    channel.handle.side = .acceptor ∧ j.Ready rounds) ∨
  ∃ o rounds, e = .over o ∧ j.Told rounds

/-- A request that came whole is dispatched in a complete run. -/
theorem answer_keeps (node : NodeId) (request : Packet) (told : j.Told rounds) :
    Keeps Grows May
      (fun reply j' => ∃ registry acts, (Pdu.service.dispatch registry request).Runs acts reply ∧
        acts <:+: j' ∧ j.Took [] j')
      (answer node request) j := by
  rw [answer]
  refine told.request id fun started j₁ _ took₁ => ?_
  refine (told.took took₁).request id fun offer j₂ units took₂ => ?_
  have service : offer.dispatch request = Pdu.service.dispatch offer.registry request := by
    have kind : offer.kind = .pdu := units
    rw [Offer.dispatch, kind]
    rfl
  rw [service]
  have told₂ := (told.took took₁).took took₂
  refine .andThen (told₂.outward (Pdu.dispatch_outward offer.registry request)) fun reply j₃ h => ?_
  obtain ⟨acts, rfl, runs, took₃⟩ := h
  have told₃ := told₂.took took₃
  refine told₃.request id fun ended j₄ _ took₄ => ?_
  refine (told₃.took took₄).request id fun _ j₅ _ took₅ => ?_
  refine ⟨offer.registry, acts, runs, ?_, (((took₁.trans took₂).trans took₃).trans took₄).trans took₅⟩
  exact (List.infix_append' j₂ acts []).trans
    (by rw [List.append_nil]; exact (took₄.grown.trans took₅.grown).isInfix)

/-- A reply is as long as its header says. -/
theorem reply_whole {registry : Registry Object} {request reply : Packet} {acts : Journal}
    (whole : request.Whole) (runs : (Pdu.service.dispatch registry request).Runs acts reply) :
    reply.Whole := by
  have alike := Service.dispatch_alike (s := Pdu.service) Pdu.table_blind registry (Same.refl whole)
  obtain ⟨_, -, replies⟩ := alike.runs runs
  exact replies.same.whole

/-- How a connection ends leaves its story as it is. -/
theorem ends_keeps (node : NodeId) (channel : Channel) (told : j.Told rounds) :
    Keeps Grows May Rests
      (do
        ask (.record node .connectionClosed)
        channel.close
        return .over .done) j := by
  refine told.request id fun _ j₁ _ took₁ => ?_
  refine (told.took took₁).request id fun _ j₂ _ took₂ => ?_
  exact .inr ⟨_, rounds, rfl, (told.took took₁).took took₂⟩

/-- The request that a read gave, once it was answered with a frame that was sent. -/
theorem told_round {j' : Journal} {d : Round} {h : Handle} {r : Except LinkFailure Unit}
    (ready : j.Ready rounds) (took : j.Took d.bytes j') (within : d.Within j')
    (side : h.side = .acceptor) :
    Told (j' ++ [⟨.send h d.frame, r⟩]) (rounds ++ [d]) ∧
      (r = .ok () → Ready (j' ++ [⟨.send h d.frame, r⟩]) (rounds ++ [d])) := by
  have received : Journal.received (j' ++ [⟨.send h d.frame, r⟩])
      = ((rounds ++ [d]).map Round.bytes).flatten := by
    rw [received_concat, took.received, ready.taken, List.map_append, List.flatten_append,
      List.map_singleton, List.flatten_singleton]
    exact List.append_nil _
  have sent : Journal.sent (j' ++ [⟨.send h d.frame, r⟩]) = (rounds ++ [d]).map Round.frame := by
    rw [sent_concat, took.sent, ready.sent, List.map_append, List.map_singleton]
    exact congrArg _ (if_pos side)
  have all : ∀ e ∈ rounds ++ [d], e.Within (j' ++ [⟨.send h d.frame, r⟩]) := by
    intro e mem
    rcases List.mem_append.mp mem with mem | mem
    · exact ((ready.within e mem).grown took.grown).grown (List.prefix_append ..)
    · obtain rfl := List.mem_singleton.mp mem
      exact within.grown (List.prefix_append ..)
  refine ⟨⟨all, received ▸ List.prefix_rfl, .inl sent⟩, ?_⟩
  rintro rfl
  exact ⟨all, received, sent, (took.clean ready.clean).concat id⟩

/-- A refusal is the last that is sent. -/
theorem told_refusal {j' : Journal} {bs : Bytes} {h : Handle} {r : Except LinkFailure Unit}
    (ready : j.Ready rounds) (took : j.Took bs j') (p : Packet) (side : h.side = .acceptor) :
    Told (j' ++ [⟨.send h (refusal p).frame, r⟩]) rounds where
  within d mem := ((ready.within d mem).grown took.grown).grown (List.prefix_append ..)
  taken := by
    rw [received_concat, took.received, ready.taken, List.append_assoc]
    exact List.prefix_append ..
  sent := by
    refine .inr ⟨p, ?_⟩
    rw [sent_concat, took.sent, ready.sent]
    exact congrArg _ (if_pos side)

/-- One round of a connection. -/
theorem round_keeps (node : NodeId) {channel : Channel} (side : channel.handle.side = .acceptor)
    (p : Packet) (ready : j.Ready rounds) :
    Keeps Grows May Rests (Job.connection node channel p).round j := by
  obtain ⟨h, options⟩ := channel
  have ends {j' : Journal} {rounds : List Round} (told : j'.Told rounds) :=
    ends_keeps node ⟨h, options⟩ told
  refine .bind (.bind ?_)
  refine ((draws side ready.told).readRequest options p (.refl j)).mono (fun _ _ here => here) ?_
  intro r j₁ post
  rcases post with ⟨header, payload, frame, rfl, took₁⟩ | ⟨e, new, failed, took₁⟩
  · -- a request came whole
    rw [List.nil_append] at took₁
    have told₁ := ready.told.took took₁
    refine .andThen (answer_keeps node _ told₁) fun reply j₂ hd => ?_
    obtain ⟨registry, acts, runs, written, took₂⟩ := hd
    have took : j.Took (header ++ payload) j₂ := by
      have took := took₁.trans took₂
      rwa [List.append_nil] at took
    have whole := (Packet.same_receive frame p p).whole
    let d : Round := ⟨registry, header ++ payload, p.receive header payload, acts, reply⟩
    have within : d.Within j₂ :=
      ⟨Packet.readFrom_receive frame p, runs, written, reply_whole whole runs⟩
    refine .request ⟨⟨rounds, told₁.took took₂⟩, fun _ _ _ _ => took.clean ready.clean⟩ ?_
    intro sent _ hr
    obtain ⟨-, rfl⟩ := hr
    obtain ⟨told, again⟩ := told_round (r := sent) ready took within side
    cases sent with
    | ok => exact .inl ⟨node, ⟨h, options⟩, reply, _, rfl, side, again rfl⟩
    | error e => exact told.request id fun _ j₃ _ took₃ => ends (told.took took₃)
  · obtain ⟨q, result⟩ := r
    obtain rfl : result = .error e := failed
    have told₁ := ready.told.took took₁
    cases e with
    | closed => exact ends told₁
    | tooLarge n =>
      refine told₁.request id fun _ j₂ _ took₂ => ?_
      have took := took₁.trans took₂
      refine .bind (.request ⟨⟨rounds, told₁.took took₂⟩, fun _ _ _ _ => took.clean ready.clean⟩ ?_)
      intro sent _ hr
      obtain ⟨-, rfl⟩ := hr
      exact ends (told_refusal ready took q side)
    | _ => exact told₁.request id fun _ j₂ _ took₂ => ends (told₁.took took₂)

/-- A connection that was just accepted. -/
theorem opening_keeps (node : NodeId) {channel : Channel} (side : channel.handle.side = .acceptor) :
    Keeps Grows May Rests (Job.opening node channel).round [] := by
  have ready : Journal.Ready [] [] := by
    refine ⟨fun _ mem => ?_, rfl, rfl, fun _ mem => ?_⟩ <;> cases mem
  refine ready.told.request id fun _ j' _ took => ?_
  exact .inl ⟨node, channel, .empty, [], rfl, side, ready.took took⟩

end Server

end DeviceRpc
