import DeviceRpc.Pdu.Exchange
import DeviceRpc.Proofs.Call.Drawing
import DeviceRpc.Proofs.Packet.Carrying
import DeviceRpc.Proofs.Packet.Framing

/-!
# Dialogues

What a client says on a connection, turn by turn: the frame that it sends, and what comes back
before it sends the next one. A dialogue is `Disciplined` if it begins with lookups, until one of
them succeeds, and goes on with commands that carry the index which was found.

The network may do what it likes (`Speaks`), but for one thing: no lookup finds the index zero.
Where a client calls, one turn is added to the dialogue, and what the turn has found is what the
client is told, or the call fails on the link (`RpcClient.fill_speaks`).
-/

namespace DeviceRpc

open Packet (commandOf indexOf IsFrame)

/-- A frame that was sent, as far as the connection allowed, and what came before the next one. -/
structure Turn where
  frame : Bytes
  reply : Bytes := []

namespace Turn

/-- The frame asks for an index. -/
def IsLookup (t : Turn) : Prop := commandOf t.frame = Pdu.getIndexByName

instance (t : Turn) : Decidable t.IsLookup := inferInstanceAs (Decidable (_ = _))

/-- The index that was found, if this was a lookup and it succeeded. -/
def found? (t : Turn) : Option UInt16 :=
  if t.IsLookup then
    match Packet.ofFrame t.reply with
    | .ok p => if p.errorCode = 0 then some p.index else none
    | .error _ => none
  else none

variable {t : Turn}

theorem found?_of_not_lookup (h : ¬ t.IsLookup) : t.found? = none := by
  unfold found?
  rw [if_neg h]

/-- What a lookup has found can be read off the packet that was received. -/
theorem found?_of_isFrame {header payload : Bytes} (frame : IsFrame header payload)
    (asks : t.IsLookup) (reply : t.reply = header ++ payload) (p : Packet) :
    t.found? = if (p.receive header payload).errorCode = 0
      then some (p.receive header payload).index else none := by
  unfold found?
  rw [if_pos asks, reply, Packet.ofFrame_append frame]
  rfl

end Turn

/-- What was said on a connection, the last turn first. -/
abbrev Dialogue := List Turn

namespace Dialogue

/-- The index that the last successful lookup has found. -/
def index? (d : Dialogue) : Option UInt16 := d.findSome? Turn.found?

/-- A lookup is sent only where none has succeeded before, and a command carries the index, not
zero, that the last successful lookup has found. -/
inductive Disciplined : Dialogue → Prop where
  | nil : Disciplined []
  | lookup {t : Turn} {d : Dialogue} (asks : t.IsLookup) (unknown : index? d = none)
      (before : Disciplined d) : Disciplined (t :: d)
  | command {t : Turn} {d : Dialogue} {index : UInt16} (other : ¬ t.IsLookup)
      (known : index? d = some index) (nonzero : index ≠ 0) (carries : indexOf t.frame = index)
      (before : Disciplined d) : Disciplined (t :: d)

/-- The dialogue when these bytes came. -/
def heard (bs : Bytes) : Dialogue → Dialogue
  | [] => []
  | t :: d => { t with reply := t.reply ++ bs } :: d

variable {t : Turn} {d : Dialogue}

theorem index?_cons_of_found {index : UInt16} (h : t.found? = some index) :
    index? (t :: d) = some index := by
  rw [index?, List.findSome?_cons, h]

theorem index?_cons_of_not_found (h : t.found? = none) : index? (t :: d) = index? d := by
  rw [index?, List.findSome?_cons, h]
  rfl

/-- What is answered is not a matter of discipline. -/
theorem Disciplined.answered {reply : Bytes} (h : Disciplined (t :: d)) :
    Disciplined ({ t with reply } :: d) := by
  cases h with
  | lookup asks unknown before => exact .lookup asks unknown before
  | command other known nonzero carries before => exact .command other known nonzero carries before

/-- Where anything is said, a lookup comes first. -/
theorem Disciplined.begins (h : Disciplined d) (first : d.getLast? = some t) : t.IsLookup := by
  induction h with
  | nil => cases first
  | @lookup t' d asks _ _ ih =>
    cases d with
    | nil =>
      cases first
      exact asks
    | cons => exact ih first
  | @command t' d _ _ known _ _ _ ih =>
    cases d with
    | nil => cases known
    | cons => exact ih first

end Dialogue

/-- No lookup was answered with the index zero. -/
def Honest (s : List Dialogue) : Prop := ∀ d ∈ s, ∀ t ∈ d, Turn.found? t ≠ some 0

/-- How what a client asks may be answered. The connections that it opens are numbered from zero,
and what was said on each of them is the state. -/
inductive Speaks : Answering (List Dialogue) where
  | clock {s : List Dialogue} (time : Instant) : Speaks s .now time s
  | kept {s : List Dialogue} {cell : CellId} {c : PduClient} : Speaks s (.keepPduClient cell c) () s
  | noted {s : List Dialogue} {cell : CellId} {p : Packet} : Speaks s (.keepEnvelope cell p) () s
  | refused {s : List Dialogue} {endpoint : Endpoint} (e : LinkFailure) :
      Speaks s (.dial endpoint) (.error e) s
  | dialed {s : List Dialogue} {endpoint : Endpoint} :
      Speaks s (.dial endpoint) (.ok ⟨s.length, .dialer⟩) (s ++ [[]])
  | sent {s : List Dialogue} {h : Handle} {frame : Bytes} (result : Except LinkFailure Unit) :
      Speaks s (.send h frame) result (s.modify h.connection (⟨frame, []⟩ :: ·))
  | arrived {s : List Dialogue} {h : Handle} {n : Nat} {limit : Option Instant} {first : UInt8}
      {rest : Bytes} (short : rest.length < max n 1)
      (honest : Honest (s.modify h.connection (Dialogue.heard (first :: rest)))) :
      Speaks s (.receive h n limit) (.bytes first rest)
        (s.modify h.connection (Dialogue.heard (first :: rest)))
  | nothing {s : List Dialogue} {h : Handle} {n : Nat} {limit : Option Instant} {r : Received}
      (none : ∀ first rest, r ≠ .bytes first rest) : Speaks s (.receive h n limit) r s
  | hungUp {s : List Dialogue} {h : Handle} : Speaks s (.hangUp h) () s

/-- Nothing more was said on these connections, and whatever was said on any is disciplined. -/
structure Orderly (old s : List Dialogue) : Prop where
  grows : old <+: s
  disciplined : ∀ d ∈ s, d.Disciplined

variable {old : List Dialogue} {d : Dialogue} {t : Turn}

theorem modify_last (f : Dialogue → Dialogue) (old : List Dialogue) (d : Dialogue) :
    (old ++ [d]).modify old.length f = old ++ [f d] := by
  induction old with
  | nil => rfl
  | cons d' old ih => rw [List.cons_append, List.length_cons, List.modify_succ_cons, ih]; rfl

theorem Orderly.last (h : Orderly old (old ++ [d])) : d.Disciplined :=
  h.disciplined d (List.mem_append_right _ (List.mem_singleton_self _))

theorem Orderly.of_last (h : Orderly old (old ++ [d])) {d' : Dialogue} (next : d'.Disciplined) :
    Orderly old (old ++ [d']) where
  grows := List.prefix_append ..
  disciplined := by
    intro x mem
    rcases List.mem_append.mp mem with before | last
    · exact h.disciplined x (List.mem_append_left _ before)
    · obtain rfl := List.mem_singleton.mp last
      exact next

theorem Orderly.dialed {s : List Dialogue} (h : Orderly old s) : Orderly s (s ++ [[]]) where
  grows := List.prefix_append ..
  disciplined := by
    intro x mem
    rcases List.mem_append.mp mem with before | last
    · exact h.disciplined x before
    · obtain rfl := List.mem_singleton.mp last
      exact .nil

/-! ## Calls -/

/-- A client may ask anything, as long as it says nothing out of order. -/
abbrev Minds (old : List Dialogue) (s : List Dialogue) (_ : Act) : Prop := Orderly old s

/-- The last turn of the last connection has this frame, and these bytes came. -/
structure Expects (old : List Dialogue) (d : Dialogue) (frame bs : Bytes) (s : List Dialogue) :
    Prop where
  last : s = old ++ [⟨frame, bs⟩ :: d]
  orderly : Orderly old s
  honest : Turn.found? ⟨frame, bs⟩ ≠ some 0

theorem Expects.draws {h : Handle} (handle : h = ⟨old.length, .dialer⟩) {frame : Bytes} :
    Draws Speaks (Minds old) h (Expects old d frame) where
  may _ _ expects := expects.orderly
  may_now expects := expects.orderly
  piece := by
    subst handle
    intro bs s n limit first rest s' expects hs
    obtain ⟨rfl, orderly, -⟩ := expects
    cases hs with
    | arrived short honest =>
      simp only [modify_last, Dialogue.heard] at honest ⊢
      refine ⟨short, rfl, orderly.of_last orderly.last.answered, ?_⟩
      exact honest _ (List.mem_append_right _ (List.mem_singleton_self _)) _ (List.mem_cons_self ..)
    | nothing none => exact absurd rfl (none first rest)
  without := by
    intro bs s n limit r s' expects hs none
    cases hs with
    | arrived => exact absurd rfl (none _ _)
    | nothing => exact expects
  clock := by
    intro bs s r s' expects hs
    cases hs
    exact expects

theorem Expects.discreet {home : Option CellId} {frame : Bytes} :
    Discreet Speaks (Minds old) (Expects old d frame) (RpcClient.note home) := by
  intro p bs s expects
  cases home with
  | none => exact expects
  | some cell =>
    refine ⟨expects.orderly, fun r s' hs => ?_⟩
    cases hs
    exact expects

/-- The client worked on the last connection, and either the link failed or this came of it. -/
def RpcClient.Talked {α : Type} (old : List Dialogue) (c : RpcClient)
    (P : Except CallFailure α × RpcClient → Dialogue → Prop)
    (r : Except CallFailure α × RpcClient) (s : List Dialogue) : Prop :=
  Orderly old s ∧ ((∃ e, r.1 = .error (.link e)) ∨
    r.2.channel = c.channel ∧ ∃ d, s = old ++ [d] ∧ P r d)

/-- The index in the envelope, if nothing failed. -/
def told {α : Type} : Except CallFailure α × RpcClient → Option UInt16
  | (.ok _, c) => some c.packet.index
  | (.error _, _) => none

namespace RpcClient

/-- A call adds a turn, and if it is a lookup, it has found what the client is told. -/
theorem call_speaks {c : RpcClient} (handle : c.channel.handle = ⟨old.length, .dialer⟩)
    (last : c.packet.hasMore = false) (orderly : Orderly old (old ++ [d]))
    (next : Dialogue.Disciplined (⟨c.packet.frame, []⟩ :: d)) :
    Keeps Speaks (Minds old)
      (c.Talked old fun r d' => ∃ t : Turn, t.frame = c.packet.frame ∧ d' = t :: d ∧
        t.found? ≠ some 0 ∧ (t.IsLookup → t.found? = told r))
      (call.on c) (old ++ [d]) := by
  have sent (r : Except LinkFailure Unit) (s : List Dialogue)
      (hs : Speaks (old ++ [d]) (.send c.channel.handle c.packet.frame) r s) :
      Expects old d c.packet.frame [] s := by
    cases hs with
    | sent =>
      rw [handle, modify_last]
      refine ⟨rfl, orderly.of_last next, ?_⟩
      unfold Turn.found?
      split <;> exact nofun
  have ended := call_ended last orderly (fun s => sent (.ok ()) s)
    (fun e s hs => (sent (.error e) s hs).orderly) (Expects.draws handle) Expects.discreet
    fun _ _ expects => expects.orderly
  refine ended.mono (fun _ _ here => here) ?_
  intro r s post
  rcases post with ⟨header, payload, frame, rfl, expects⟩ | ⟨e, failed, orderly'⟩
  · let p := c.packet.receive header payload
    let t : Turn := ⟨c.packet.frame, header ++ payload⟩
    have found (asks : t.IsLookup) : t.found? = if p.errorCode = 0 then some p.index else none :=
      Turn.found?_of_isFrame frame asks rfl c.packet
    have turn (r : Except CallFailure ReplyPart × RpcClient) (h : t.IsLookup → t.found? = told r) :
        ∃ d', s = old ++ [d'] ∧ ∃ t : Turn, t.frame = c.packet.frame ∧ d' = t :: d ∧
          t.found? ≠ some 0 ∧ (t.IsLookup → t.found? = told r) :=
      ⟨t :: d, expects.last, t, rfl, rfl, expects.honest, h⟩
    refine ⟨expects.orderly, .inr ?_⟩
    cases code : ErrorCode.ofNumber? p.errorCode with
    | none =>
      have good := ErrorCode.zero_of_ofNumber? code
      simp only [verdict, p] at code ⊢
      rw [code]
      exact ⟨rfl, turn _ fun asks => by rw [found asks, if_pos good]; rfl⟩
    | some code' =>
      have bad : p.errorCode ≠ 0 := by
        intro zero
        rw [zero] at code
        cases code
      simp only [verdict, p] at code ⊢
      rw [code]
      exact ⟨rfl, turn _ fun asks => by rw [found asks, if_neg bad]; rfl⟩
  · exact ⟨orderly', .inl ⟨e, failed⟩⟩

/-- A call of a packet that a client has filled. -/
theorem fill_speaks {c : RpcClient} {f : Packet → Except Failure Packet}
    (handle : c.channel.handle = ⟨old.length, .dialer⟩) (orderly : Orderly old (old ++ [d]))
    (filled : ∀ p, f c.packet = .ok p →
      p.option = 0 ∧ Dialogue.Disciplined (⟨p.frame, []⟩ :: d)) :
    Keeps Speaks (Minds old)
      (c.Talked old fun r d' => ∃ p, f c.packet = .ok p ∧ ∃ t : Turn, t.frame = p.frame ∧
        d' = t :: d ∧ t.found? ≠ some 0 ∧ (t.IsLookup → t.found? = told r))
      ((do fill f; discard call : Calling RpcClient Unit).on c) (old ++ [d]) := by
  cases changed : f c.packet with
  | error e =>
    rw [on_fill_error changed]
    exact ⟨orderly, .inl ⟨_, rfl⟩⟩
  | ok p =>
    obtain ⟨option, next⟩ := filled p changed
    have last : p.hasMore = false := Packet.hasMore_of_option option
    rw [Calling.on_bind, on_fill changed, Prog.done_bind, Calling.andThen, Calling.on_discard]
    refine .andThen (call_speaks (c := { c with packet := p }) handle last orderly next) ?_
    rintro ⟨result, c'⟩ s ⟨orderly', failed | ⟨channel, d', rfl, t, frame, rfl, honest, found⟩⟩
    · obtain ⟨e, rfl⟩ : ∃ e, result = .error (.link e) := failed
      exact ⟨orderly', .inl ⟨e, rfl⟩⟩
    · refine ⟨orderly', .inr ⟨channel, _, rfl, p, rfl, t, frame, rfl, honest, fun asks => ?_⟩⟩
      rw [found asks]
      cases result <;> rfl

/-- A lookup where none has succeeded before. -/
theorem indexByName_speaks {c : RpcClient} (handle : c.channel.handle = ⟨old.length, .dialer⟩)
    (orderly : Orderly old (old ++ [d])) (unknown : d.index? = none) (name : String) :
    Keeps Speaks (Minds old)
      (c.Talked old fun r d' => d'.index? = r.1.toOption ∧ ∀ index, r.1 = .ok index → index ≠ 0)
      ((indexByName Protocol.pdu Pdu.getIndexByName name).on c) (old ++ [d]) := by
  let prepared := c.edit (·.prepare Protocol.pdu Pdu.getIndexByName 0)
  have asks {p : Packet} (filled : prepared.packet.setName name = .ok p) :
      p.option = 0 ∧ commandOf p.frame = Pdu.getIndexByName := by
    obtain ⟨like, -⟩ := Packet.setName_like filled
    exact ⟨like.option, (Packet.commandOf_frame p).trans like.command⟩
  have next (p : Packet) (filled : prepared.packet.setName name = .ok p) :
      p.option = 0 ∧ Dialogue.Disciplined (⟨p.frame, []⟩ :: d) :=
    ⟨(asks filled).1, .lookup (asks filled).2 unknown orderly.last⟩
  rw [on_indexByName]
  refine .andThen (fill_speaks (c := prepared) handle orderly next) ?_
  rintro ⟨result, c'⟩ s
    ⟨orderly', failed | ⟨channel, d', rfl, p, filled, t, frame, rfl, honest, found⟩⟩
  · obtain ⟨e, rfl⟩ : ∃ e, result = .error (.link e) := failed
    exact ⟨orderly', .inl ⟨e, rfl⟩⟩
  · have lookup : t.IsLookup := by
      unfold Turn.IsLookup
      rw [frame]
      exact (asks filled).2
    refine ⟨orderly', .inr ⟨channel, _, rfl, ?_⟩⟩
    have found' := found lookup
    cases result with
    | error e =>
      refine ⟨?_, nofun⟩
      rw [Dialogue.index?_cons_of_not_found found', unknown]
      rfl
    | ok =>
      refine ⟨Dialogue.index?_cons_of_found found', ?_⟩
      rintro _ ⟨⟩ zero
      exact honest (found'.trans (congrArg some zero))

/-- A command with the index that was found. -/
theorem command_speaks {c : RpcClient} (handle : c.channel.handle = ⟨old.length, .dialer⟩)
    (orderly : Orderly old (old ++ [d])) {index : UInt16} (known : d.index? = some index)
    (nonzero : index ≠ 0) (protocol channel : UInt16) {command : UInt16}
    (other : command ≠ Pdu.getIndexByName) {change : Packet → Except Failure Packet}
    (modest : ∀ p p', change p = .ok p' → p'.Like p) :
    Keeps Speaks (Minds old) (c.Talked old fun _ d' => d'.index? = some index)
      ((do
        prepare protocol command index
        modifyPacket ({ · with channel })
        fill change
        discard call : Calling RpcClient Unit).on c) (old ++ [d]) := by
  let prepared := (c.edit (·.prepare protocol command index)).edit ({ · with channel })
  have sends {p : Packet} (filled : change prepared.packet = .ok p) :
      p.option = 0 ∧ commandOf p.frame = command ∧ indexOf p.frame = index := by
    have like := modest _ _ filled
    exact ⟨like.option, (Packet.commandOf_frame p).trans like.command,
      (Packet.indexOf_frame p).trans like.index⟩
  have next (p : Packet) (filled : change prepared.packet = .ok p) :
      p.option = 0 ∧ Dialogue.Disciplined (⟨p.frame, []⟩ :: d) := by
    obtain ⟨option, asks, carries⟩ := sends filled
    refine ⟨option, .command ?_ known nonzero carries orderly.last⟩
    exact fun lookup => other (asks.symm.trans lookup)
  rw [Calling.on_bind, on_prepare, Prog.done_bind, Calling.andThen, Calling.on_bind,
    on_modifyPacket, Prog.done_bind, Calling.andThen]
  refine (fill_speaks (c := prepared) handle orderly next).mono (fun _ _ here => here) ?_
  rintro r s ⟨orderly', failed | ⟨channel', d', rfl, p, filled, t, frame, rfl, -, -⟩⟩
  · exact ⟨orderly', .inl failed⟩
  · refine ⟨orderly', .inr ⟨channel', _, rfl, ?_⟩⟩
    have command' : ¬ t.IsLookup := by
      unfold Turn.IsLookup
      rw [frame, (sends filled).2.1]
      exact other
    exact (Dialogue.index?_cons_of_not_found (Turn.found?_of_not_lookup command')).trans known

end RpcClient

end DeviceRpc
