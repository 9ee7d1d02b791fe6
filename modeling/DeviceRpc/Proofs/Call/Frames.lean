import DeviceRpc.Proofs.Call.Drawing
import DeviceRpc.Proofs.Packet.Carrying
import DeviceRpc.Proofs.Packet.Fields
import DeviceRpc.Proofs.Packet.Framing
import DeviceRpc.Proofs.Program.Keeps

/-!
# What a client sends

The frame of an envelope is as long as its header says exactly if the envelope is whole, that is, if
it has the capacity for the length in it (`isFramed_frame_iff`). Every way to write into an envelope
keeps it whole but one: a reply whose payload the client refuses as too large leaves the length that
the peer announced. So the client composes nothing but whole frames, whatever the peer answers, as
long as an envelope that was left by a refused reply is not sent as it is (`frames_framed`). Sending
it gives a frame that ends before the length in its header (`refused_frame`).

The frames are those that the client hands to the connection. Where writing one fails or takes too
long, less than all of it may have gone out; that a frame was cut off in this way is left out here.
-/

namespace DeviceRpc

namespace Packet

variable {p q : Packet}

theorem whole_iff : p.Whole ↔ p.length.toNat ≤ p.capacity := by
  rw [Whole, payload, List.length_take, capacity]
  omega

/-- The frame of an envelope is as long as it says if the envelope holds all of the payload. -/
theorem isFramed_frame_iff : IsFramed p.frame ↔ p.Whole := by
  rw [IsFramed, frame, announced_append p.length_header, announced_header, List.length_append,
    length_header, Whole]
  omega

theorem Whole.of_same_length (h : p.Whole) (length : q.length = p.length)
    (trailing : q.trailing = p.trailing) : q.Whole := by
  rw [whole_iff, capacity] at h ⊢
  rwa [length, trailing]

theorem Whole.clearMore (h : p.Whole) : p.clearMore.Whole := h.of_same_length rfl rfl

theorem setLength_whole {n : UInt32} (h : p.setLength n = .ok q) : q.Whole := by
  rw [setLength, grow_of_lt (length_lt_memoryLimit n)] at h
  cases h
  rw [whole_iff, capacity, Bytes.length_grow]
  exact Nat.le_max_right _ _

theorem setPayload_whole {bs : Bytes} (h : p.setPayload bs = .ok q) : q.Whole := by
  by_cases counted : bs.length < UInt32.size
  · rw [setPayload_of_lt counted] at h
    cases h
    exact whole_withPayload counted p
  · rw [setPayload_of_le (Nat.not_lt.mp counted)] at h
    cases h

theorem setText_keeps {s : String} (h : p.setText s = .ok q) :
    q.length = p.length ∧ q.trailing = p.trailing := by
  rw [setText] at h
  split at h
  · cases h
  · split at h
    · cases h
    · cases h
      exact ⟨rfl, rfl⟩

/-- Only the length and the payload are more than a scalar or a number in the carrier. -/
theorem set_eq_ok {field : Field} {v : Value} (h : p.set field v = .ok q) :
    (∃ n, p.setLength n = .ok q) ∨ (∃ bs, p.setPayload bs = .ok q) ∨
    (field ≠ .length ∧ field ≠ .buffer ∧ q.length = p.length ∧ q.trailing = p.trailing) := by
  by_cases kind : v.kind = field.kind
  · cases Fitting.of_kind kind with
    | scalar s x =>
      rw [set_scalar] at h
      cases h
      cases s <;> exact .inr (.inr ⟨nofun, nofun, rfl, rfl⟩)
    | number slot kind =>
      rw [set_number p slot kind] at h
      cases h
      refine .inr (.inr ⟨?_, ?_, rfl, rfl⟩)
      all_goals
        rintro rfl
        cases slot
    | length n => exact .inl ⟨n, h⟩
    | text s => exact .inr (.inr ⟨nofun, nofun, setText_keeps h⟩)
    | buffer bs => exact .inr (.inl ⟨bs, h⟩)
    | size n => cases h
  · rw [set_mismatch p kind] at h
    cases h

end Packet

/-! ## Reading -/

/-- Anything but a frame that is sent. -/
def Act.Quiet (a : Act) : Prop := ∀ h bs, a ≠ .send h bs

namespace Channel

open Packet (whole_iff)

theorem deadline_quiet (timeout : Option Nat) :
    Gives Act.Quiet (fun _ => True) (deadline timeout) := by
  cases timeout with
  | none => trivial
  | some ms => exact .request nofun fun _ => trivial

theorem receiveExactly_quiet {h : Handle} {limit : Option Instant} {note : Bytes → Task Unit}
    (quiet : ∀ bs, Gives Act.Quiet (fun _ => True) (note bs)) (want : Nat) :
    ∀ got, Gives Act.Quiet (fun _ => True) (receiveExactly h limit note want got) := by
  -- every piece is at least one byte, so less is wanted after it
  induction want using Nat.strongRecOn with
  | ind want ih =>
    intro got
    cases want with
    | zero =>
      unfold receiveExactly
      trivial
    | succ want =>
      unfold receiveExactly
      refine .request nofun fun r => ?_
      cases r with
      | bytes first rest =>
        exact (quiet _).andThen fun _ _ => ih _ (Nat.lt_succ_of_le (Nat.sub_le ..)) _
      | _ => trivial

theorem transfer_quiet (ch : Channel) (n : Nat) {note : Bytes → Task Unit}
    (quiet : ∀ bs, Gives Act.Quiet (fun _ => True) (note bs)) :
    Gives Act.Quiet (fun _ => True) (ch.transfer n note) :=
  (deadline_quiet _).andThen fun _ _ => receiveExactly_quiet quiet n []

theorem readPayload_left (ch : Channel) (p : Packet) {note : Packet → Task Unit}
    (quiet : ∀ p, Gives Act.Quiet (fun _ => True) (note p)) :
    Gives Act.Quiet (fun r => r.1.Whole ∨ ∃ n, r.2 = .error (.tooLarge n))
      (ch.readPayload p note) := by
  rw [readPayload]
  split
  next none => exact .inl (Packet.whole_of_length (UInt32.toNat.inj none))
  next =>
    split
    next => exact .inr ⟨_, rfl⟩
    next =>
      rw [Packet.grow_of_lt (Packet.length_lt_memoryLimit _)]
      refine (quiet _).andThen fun _ _ =>
        (ch.transfer_quiet _ fun _ => quiet _).andThen fun r _ => ?_
      -- writing what came does not take the room away again
      have room (bs : Bytes) : ({ p with
          trailing := Bytes.grow p.length.toNat p.trailing }.poke 0 bs).Whole := by
        rw [whole_iff, Packet.capacity]
        simp only [Packet.poke, Bytes.splice, List.length_append, List.length_take,
          List.length_drop, Bytes.length_grow]
        omega
      obtain ⟨bs, failure⟩ := r
      cases failure with
      | none => exact .inl (room bs)
      | some e => exact .inl (room bs)

theorem readPacket_left (ch : Channel) (p : Packet) {note : Packet → Task Unit}
    (quiet : ∀ p, Gives Act.Quiet (fun _ => True) (note p)) :
    Gives Act.Quiet (fun r => r.1.Whole ∨ (∃ n, r.2 = .error (.tooLarge n)) ∨
      (r.1 = p ∧ ∃ e, r.2 = .error e)) (ch.readPacket p note) := by
  have unnoted (bs : Bytes) : Gives Act.Quiet (fun _ => True) (unnoted bs) := trivial
  refine (ch.transfer_quiet _ unnoted).andThen fun r _ => ?_
  obtain ⟨header, failure⟩ := r
  cases failure with
  | none =>
    refine (ch.readPayload_left _ quiet).mono fun r left => ?_
    exact left.imp_right .inl
  | some e => exact .inr (.inr ⟨rfl, e, rfl⟩)

end Channel

namespace RpcClient

open Packet (IsFramed isFramed_frame_iff)

/-! ## Using a client -/

/-- Writing into the envelope. -/
inductive Setter where
  | field (f : Field) (v : Value)
  | length (n : UInt32)
  | payload (bs : Bytes)
  | name (s : String)
  | text (s : String)
  | clear

namespace Setter

/-- What is written, if it can be. -/
def change : Setter → Packet → Except Failure Packet
  | .field f v, p => p.set f v
  | .length n, p => p.setLength n
  | .payload bs, p => p.setPayload bs
  | .name s, p => p.setName s
  | .text s, p => p.setText s
  | .clear, p => .ok p.clearPayload

/-- Whether the length is written, and not only what lies beside it. -/
def fits : Setter → Bool
  | .field .length _ | .field .buffer _ | .length _ | .payload _ | .name _ | .clear => true
  | .field .. | .text _ => false

theorem whole {u : Setter} {p q : Packet} (h : u.change p = .ok q)
    (beside : u.fits = false → p.Whole) : q.Whole := by
  cases u with
  | field f v =>
    rcases Packet.set_eq_ok h with ⟨n, set⟩ | ⟨bs, set⟩ | ⟨length, payload, same, trailing⟩
    · exact Packet.setLength_whole set
    · exact Packet.setPayload_whole set
    · refine (beside ?_).of_same_length same trailing
      cases f with
      | length => exact absurd rfl length
      | buffer => exact absurd rfl payload
      | _ => rfl
  | length n => exact Packet.setLength_whole h
  | payload bs => exact Packet.setPayload_whole h
  | name s => exact (Packet.setName_like h).2
  | text s =>
    obtain ⟨same, trailing⟩ := Packet.setText_keeps h
    exact (beside rfl).of_same_length same trailing
  | clear =>
    cases h
    exact Packet.whole_clearPayload _

end Setter

/-- What a client is used for. -/
inductive Use where
  | prepare (protocol command index : UInt16)
  | edit (s : Setter)
  | call
  | write
  | read
  | indexByName (protocol command : UInt16) (name : String)
  | inspect (index : UInt16)
  | register (index : UInt16) (seconds : Binary64)
  | reconnect

namespace Use

/-- Using the client, and whether that failed. -/
def program : Use → Calling RpcClient Unit
  | .prepare protocol command index => RpcClient.prepare protocol command index
  | .edit s => fill s.change
  | .call => discard RpcClient.call
  | .write => RpcClient.write
  | .read => discard RpcClient.read
  | .indexByName protocol command name => discard (RpcClient.indexByName protocol command name)
  | .inspect index => RpcClient.inspect index
  | .register index seconds => RpcClient.register index seconds
  | .reconnect => RpcClient.reconnect

/-- Whether the envelope is sent as it is. -/
def SendsAsIs (c : RpcClient) (u : Use) : Prop :=
  u = .write ∨ u = .call ∧ c.packet.hasMore = false

end Use

/-- Whether the length is that of a refused payload after a read, if it was or was not before. -/
def refusedAfter {α : Type} (refused : Bool) : Except CallFailure α → Bool
  | .ok _ | .error (.remote _) => false
  | .error (.link (.tooLarge _)) => true
  | .error (.link _) => refused

/-- Whether the length is that of a refused payload after a use. -/
def Use.refusedAfter (refused : Bool) (result : Except CallFailure Unit) : Use → Bool
  | .prepare .. => false
  | .edit s => refused && !(s.fits && result.isOk)
  | .call | .read => RpcClient.refusedAfter refused result
  | .indexByName .. | .inspect _ | .register .. => RpcClient.refusedAfter false result
  | .write | .reconnect => refused

/-- A client, whether its envelope was left by a refused reply, and the frames that it gave to be
sent. -/
structure Usage where
  client : RpcClient
  refused : Bool := false
  frames : List Bytes := []

/-- Acts are answered in any way, and the frames that the client composed and gave to be sent are
added up, each as a whole, also where sending it fails. -/
inductive Wire : Answering (List Bytes) where
  | sent {frames : List Bytes} {h : Handle} {bs : Bytes} {r : Except LinkFailure Unit} :
      Wire frames (.send h bs) r (frames ++ [bs])
  | quiet {frames : List Bytes} {a : Act} {r : a.Reply} (quiet : a.Quiet) : Wire frames a r frames

/-- Some uses that `may` allows, one after the other, however they ended. -/
inductive Used (may : Usage → Use → Prop) : Usage → Usage → Prop where
  | none {s : Usage} : Used may s s
  | more {s s' : Usage} {c : RpcClient} {frames : List Bytes} {r : Except CallFailure Unit}
      (before : Used may s s') (u : Use) (allowed : may s' u)
      (run : Completes Wire (u.program.on s'.client) s'.frames (r, c) frames) :
      Used may s ⟨c, u.refusedAfter s'.refused r, frames⟩

/-- The frames at some moment later on: some uses came to an end, and one more maybe not. -/
def Later (may : Usage → Use → Prop) (s : Usage) (frames : List Bytes) : Prop :=
  ∃ s' u, Used may s s' ∧ may s' u ∧ Passes Wire (u.program.on s'.client) s'.frames frames

/-- The envelope that a refused reply leaves with too little room is not sent as it is. -/
def Careful (s : Usage) (u : Use) : Prop :=
  s.refused = true → u.SendsAsIs s.client → s.client.packet.Whole

/-! ## One use -/

variable {c : RpcClient} {refused : Bool} {frames : List Bytes} {α : Type}

/-- All frames are as long as they say. -/
def Framed (frames : List Bytes) : Prop := ∀ f ∈ frames, IsFramed f

/-- What a use leaves: whole frames, and a whole envelope unless a reply was refused. -/
def Leaves (after : Except CallFailure α → Bool) (r : Except CallFailure α × RpcClient)
    (frames : List Bytes) : Prop :=
  Framed frames ∧ (after r.1 = false → r.2.packet.Whole)

theorem Wire.framed {p : Packet} (framed : Framed frames) (whole : p.Whole) {h : Handle}
    {r : Except LinkFailure Unit} {frames' : List Bytes}
    (sent : Wire frames (.send h p.frame) r frames') : Framed frames' := by
  cases sent with
  | sent =>
    intro f mem
    rcases List.mem_append.mp mem with before | here
    · exact framed f before
    · rw [List.mem_singleton.mp here]
      exact isFramed_frame_iff.mpr whole
  | quiet quiet => exact absurd rfl (quiet h p.frame)

/-- What sends nothing leaves the frames. -/
theorem keeps_of_quiet {β : Type} {Q : β → Prop} {p : Task β} (h : Gives Act.Quiet Q p)
    (framed : Framed frames) :
    Keeps Wire (fun frames _ => Framed frames) (fun b frames => Framed frames ∧ Q b) p frames := by
  refine h.keeps (fun _ _ framed _ => framed) ?_ framed
  intro frames a r frames' framed quiet answered
  cases answered with
  | sent => exact absurd rfl (quiet _ _)
  | quiet => exact framed

theorem note_quiet (home : Option CellId) (p : Packet) :
    Gives Act.Quiet (fun _ => True) (note home p) := by
  cases home with
  | none => trivial
  | some cell => exact .request nofun fun _ => trivial

/-- A read leaves a whole envelope, unless it was not before or the payload is refused. -/
theorem read_gives (whole : refused = false → c.packet.Whole) :
    Gives Act.Quiet (fun r => refusedAfter refused r.1 = false → r.2.packet.Whole) (read.on c) := by
  rw [on_read]
  refine (note_quiet _ _).andThen fun _ _ => ?_
  refine (c.channel.readPacket_left c.packet (note_quiet _)).andThen fun r left => ?_
  obtain ⟨p, result⟩ := r
  intro after
  rcases left with whole' | ⟨n, rfl⟩ | ⟨rfl, e, rfl⟩
  · exact whole'
  · cases after
  · cases e with
    | tooLarge => cases after
    | _ => exact whole after

theorem refusedAfter_map {β : Type} (f : α → β) (r : Except CallFailure α) :
    refusedAfter refused (r.map f) = refusedAfter refused r := by
  cases r with
  | ok => rfl
  | error e =>
    cases e with
    | remote => rfl
    | link e => cases e <;> rfl

theorem settled_leaves {after : Except CallFailure α → Bool}
    {p : Task (Except CallFailure α × RpcClient)}
    (h : Keeps Wire (fun frames _ => Framed frames) (Leaves after) p frames) :
    Keeps Wire (fun frames _ => Framed frames) (Leaves after) (p >>= (return settled ·))
      frames := by
  refine .andThen h fun r frames' post => ?_
  obtain ⟨result, c'⟩ := r
  cases result with
  | ok => exact post
  | error e => exact ⟨post.1, fun last => (post.2 last).clearMore⟩

theorem discard_leaves {t : Calling RpcClient α}
    (h : Keeps Wire (fun frames _ => Framed frames) (Leaves (refusedAfter refused)) (t.on c)
      frames) :
    Keeps Wire (fun frames _ => Framed frames) (Leaves (refusedAfter refused))
      ((discard t : Calling RpcClient Unit).on c) frames := by
  rw [Calling.on_discard]
  refine .andThen h fun r frames' post => ⟨post.1, fun last => post.2 ?_⟩
  rwa [refusedAfter_map] at last

/-- A call sends a whole envelope, or nothing while a reply is under way. -/
theorem call_leaves (framed : Framed frames) (whole : refused = false → c.packet.Whole)
    (careful : refused = true → c.packet.hasMore = false → c.packet.Whole) :
    Keeps Wire (fun frames _ => Framed frames) (Leaves (refusedAfter refused)) (call.on c)
      frames := by
  have reads {frames : List Bytes} (framed : Framed frames) :=
    keeps_of_quiet (read_gives whole) framed
  cases more : c.packet.hasMore with
  | true =>
    rw [on_call_more more]
    exact settled_leaves (reads framed)
  | false =>
    have whole' : c.packet.Whole := by
      cases refused with
      | false => exact whole rfl
      | true => exact careful rfl more
    rw [on_call more]
    refine settled_leaves (.request framed fun r frames' sent => ?_)
    have framed' := Wire.framed framed whole' sent
    cases r with
    | ok => exact reads framed'
    | error e => exact ⟨framed', fun _ => whole'⟩

/-- A call of a prepared envelope. -/
theorem prepared_leaves (framed : Framed frames) (whole : c.packet.Whole) :
    Keeps Wire (fun frames _ => Framed frames) (Leaves (refusedAfter false))
      ((discard call : Calling RpcClient Unit).on c) frames :=
  discard_leaves (call_leaves framed (fun _ => whole) nofun)

theorem fill_leaves (framed : Framed frames) (whole : refused = false → c.packet.Whole)
    (s : Setter) :
    Keeps Wire (fun frames _ => Framed frames) (Leaves ((Use.edit s).refusedAfter refused))
      ((fill s.change).on c) frames := by
  cases written : s.change c.packet with
  | ok p =>
    rw [on_fill written]
    refine ⟨framed, fun last => Setter.whole written fun beside => whole ?_⟩
    simpa only [Use.refusedAfter, beside, Bool.false_and, Bool.not_false, Bool.and_true] using last
  | error e =>
    rw [fill, Calling.on_bind, Calling.on_get, Prog.done_bind, Calling.andThen, written]
    refine ⟨framed, fun last => whole ?_⟩
    simpa only [Use.refusedAfter, Except.isOk, Except.toBool, Bool.and_false, Bool.not_false,
      Bool.and_true] using last

theorem reconnect_leaves (framed : Framed frames) (whole : refused = false → c.packet.Whole) :
    Keeps Wire (fun frames _ => Framed frames) (Leaves fun _ => refused) (reconnect.on c)
      frames := by
  refine keeps_of_quiet ?_ framed
  rw [on_reconnect]
  have dials : Gives Act.Quiet (fun _ => True) (Channel.connect c.endpoint c.options) :=
    .request nofun fun _ => trivial
  refine dials.andThen fun r _ => ?_
  cases r with
  | ok channel => exact .request nofun fun _ last => (whole last).clearMore
  | error e => exact whole

theorem indexByName_leaves (framed : Framed frames) (protocol command : UInt16) (name : String) :
    Keeps Wire (fun frames _ => Framed frames) (Leaves (refusedAfter false))
      ((indexByName protocol command name).on c) frames := by
  rw [on_indexByName]
  have named : Keeps Wire (fun frames _ => Framed frames)
      (Leaves (refusedAfter false))
      ((do fill (·.setName name); discard call : Calling RpcClient Unit).on
        (c.edit (·.prepare protocol command 0))) frames := by
    have filled : Keeps Wire (fun frames _ => Framed frames)
        (Leaves ((Use.edit (.name name)).refusedAfter false))
        ((fill (·.setName name)).on (c.edit (·.prepare protocol command 0))) frames :=
      fill_leaves framed (fun _ => Packet.whole_of_length rfl) (.name name)
    refine Calling.keeps_bind filled ?_ ?_
    · exact fun _ c' frames' post => prepared_leaves post.1 (post.2 rfl)
    · exact fun e c' frames' post => ⟨post.1, fun _ => post.2 rfl⟩
  refine .andThen named fun r frames' post => ⟨post.1, fun last => post.2 ?_⟩
  rwa [refusedAfter_map] at last

/-- However a use ends, it sent whole frames, and left the envelope whole unless a reply was
refused. -/
theorem Use.leaves (framed : Framed frames) (whole : refused = false → c.packet.Whole) (u : Use)
    (careful : refused = true → u.SendsAsIs c → c.packet.Whole) :
    Keeps Wire (fun frames _ => Framed frames) (Leaves (u.refusedAfter refused)) (u.program.on c)
      frames := by
  cases u with
  | prepare protocol command index => exact ⟨framed, fun _ => Packet.whole_of_length rfl⟩
  | edit s => exact fill_leaves framed whole s
  | call =>
    exact discard_leaves (call_leaves framed whole fun left last => careful left (.inr ⟨rfl, last⟩))
  | write =>
    have whole' : c.packet.Whole := by
      cases refused with
      | false => exact whole rfl
      | true => exact careful rfl (.inl rfl)
    show Keeps _ _ _ (RpcClient.write.on c) _
    rw [on_write]
    exact .request framed fun r frames' sent => ⟨Wire.framed framed whole' sent, fun _ => whole'⟩
  | read => exact discard_leaves (keeps_of_quiet (read_gives whole) framed)
  | indexByName protocol command name => exact discard_leaves (indexByName_leaves framed _ _ _)
  | inspect index => exact prepared_leaves framed (Packet.whole_of_length rfl)
  | register index seconds => exact prepared_leaves framed (Packet.whole_of_length rfl)
  | reconnect => exact reconnect_leaves framed whole

/-! ## Every use -/

theorem Used.framed {s s' : Usage} (used : Used Careful s s') (framed : Framed s.frames)
    (whole : s.refused = false → s.client.packet.Whole) :
    Framed s'.frames ∧ (s'.refused = false → s'.client.packet.Whole) := by
  induction used with
  | none => exact ⟨framed, whole⟩
  | more _ u careful run ih =>
    obtain ⟨framed', whole'⟩ := ih
    exact (u.leaves framed' whole' careful).completes run

/-- A client that is new, or whose envelope is whole, gives only frames of the length in their header
to be sent, whatever it is answered and however its uses end, as long as it does not send an envelope
that a refused reply left with too little room. -/
theorem frames_framed {s : Usage} (whole : s.client.packet.Whole) (new : s.frames = [])
    {frames : List Bytes} (later : Later Careful s frames) : ∀ f ∈ frames, IsFramed f := by
  obtain ⟨s', u, used, careful, passes⟩ := later
  have none : Framed s.frames := by
    rw [new]
    exact fun f mem => nomatch mem
  obtain ⟨framed, whole'⟩ := used.framed none fun _ => whole
  exact ((u.leaves framed whole' careful).mono (fun _ _ here => here) fun _ _ post => post.1).passes
    passes

/-! ## A refused reply -/

theorem transfer_completes {ch : Channel} (untimed : ch.options.ioTimeout = none) (first : UInt8)
    (rest : Bytes) (frames : List Bytes) :
    Completes Wire (ch.transfer (rest.length + 1)) frames (first :: rest, none) frames := by
  rw [Channel.transfer, untimed]
  show Completes Wire (receiveExactly ch.handle none Channel.unnoted (rest.length + 1) []) _ _ _
  rw [receiveExactly]
  have silent : (Act.receive ch.handle (rest.length + 1) none).Quiet :=
    fun _ _ same => by cases same
  refine .ask (r := Received.bytes first rest) (.quiet silent) ?_
  show Completes Wire (receiveExactly _ _ _ (rest.length - rest.length) (first :: rest)) _ _ _
  rw [Nat.sub_self, receiveExactly]
  exact .done

/-- A call that is answered with the header of a payload beyond the limit: the envelope is left with
the length that was announced, and without the payload. -/
theorem call_refused (own : c.home = none) (untimed : c.channel.options.ioTimeout = none)
    (last : c.packet.hasMore = false) {header : Bytes} (complete : header.length = headerSize)
    (large : c.channel.options.maxPayload < (Packet.announced header).toNat) :
    Completes Wire (call.on c) frames
      (.error (.link (.tooLarge (Packet.announced header).toNat)),
        { c with packet := (c.packet.readHeader header).clearMore })
      (frames ++ [c.packet.frame]) := by
  obtain ⟨first, rest, rfl⟩ : ∃ first rest, header = first :: rest := by
    cases header with
    | nil => cases complete
    | cons first rest => exact ⟨first, rest, rfl⟩
  have size : (c.packet.readHeader (first :: rest)).length = Packet.announced (first :: rest) := rfl
  have read : Completes Wire (c.channel.readPacket c.packet (note c.home))
      (frames ++ [c.packet.frame])
      (c.packet.readHeader (first :: rest),
        .error (.tooLarge (Packet.announced (first :: rest)).toNat))
      (frames ++ [c.packet.frame]) := by
    have header := transfer_completes untimed first rest (frames ++ [c.packet.frame])
    rw [show rest.length + 1 = headerSize from complete] at header
    refine header.bind ?_
    show Completes Wire (Channel.readPayload _ _ _) _ _ _
    have some : (Packet.announced (first :: rest)).toNat ≠ 0 :=
      Nat.ne_of_gt (Nat.zero_lt_of_lt large)
    rw [Channel.readPayload, size, if_neg some, if_pos large]
    exact .done
  have refused : Completes Wire (RpcClient.read.on c) (frames ++ [c.packet.frame])
      (.error (.link (.tooLarge (Packet.announced (first :: rest)).toNat)),
        { c with packet := c.packet.readHeader (first :: rest) }) (frames ++ [c.packet.frame]) := by
    rw [on_read, own]
    rw [own] at read
    exact read.bind .done
  have sent : Completes Wire (c.channel.writePacket c.packet) frames (.ok ())
      (frames ++ [c.packet.frame]) := .ask .sent .done
  rw [on_call last]
  exact (sent.bind refused).bind .done

namespace Refusal

/-- A client that accepts payloads of a thousand bytes. -/
def modest : RpcClient where
  endpoint := .unix "./p.sock"
  options := { maxPayload := 1000 }
  channel := ⟨⟨0, .dialer⟩, { maxPayload := 1000 }⟩

/-- A header that announces two thousand. -/
def header : Bytes := ({ Packet.empty with length := 2000 } : Packet).header

theorem announced_large : Packet.announced header = 2000 := Packet.announced_header _

/-- The client after the reply. -/
def left : RpcClient := modest.edit fun p => (p.readHeader header).clearMore

theorem refusal : Completes Wire (Use.call.program.on modest) []
    (.error (.link (.tooLarge 2000)), left) [modest.packet.frame] := by
  have large : modest.channel.options.maxPayload < (Packet.announced header).toNat := by
    rw [announced_large]
    decide
  have complete : header.length = headerSize := Packet.length_header _
  have refused : Completes Wire (RpcClient.call.on modest) [] _ [modest.packet.frame] :=
    call_refused rfl rfl (by decide) complete large
  rw [announced_large] at refused
  show Completes Wire ((discard call : Calling RpcClient Unit).on modest) _ _ _
  rw [Calling.on_discard]
  exact refused.bind .done

/-- A call sends the envelope first. -/
theorem call_sends {c : RpcClient} (last : c.packet.hasMore = false) (frames : List Bytes) :
    Passes Wire (Use.call.program.on c) frames (frames ++ [c.packet.frame]) := by
  show Passes Wire ((discard call : Calling RpcClient Unit).on c) _ _
  rw [Calling.on_discard, on_call last]
  exact .ask (r := Except.ok ()) .sent .here

/-- Without care, a call that is made again after a refused reply sends the length that the peer
announced, with the bytes that happen to be there. -/
theorem refused_frame : ¬ ∀ (s : Usage) (frames : List Bytes), s.client.packet.Whole →
    s.frames = [] → Later (fun _ _ => True) s frames → ∀ f ∈ frames, IsFramed f := by
  intro all
  have last : left.packet.hasMore = false := by decide
  have again := call_sends last [modest.packet.frame]
  have used : Used (fun _ _ => True) ⟨modest, false, []⟩ _ := .more .none .call trivial refusal
  have framed := all _ _ Packet.whole_empty rfl ⟨_, .call, used, trivial, again⟩ left.packet.frame
    (List.mem_append_right _ (List.mem_singleton_self _))
  rw [isFramed_frame_iff, Packet.whole_iff] at framed
  have length : left.packet.length = 2000 := announced_large
  have capacity : left.packet.capacity = 992 := List.length_replicate
  rw [length, capacity] at framed
  exact absurd framed (by decide)

/-- Where the next request is prepared, it is sent as it says. -/
theorem frames_framed_prepared : ∃ frames, frames.length = 2 ∧
    Later Careful ⟨modest, false, []⟩ frames ∧ ∀ f ∈ frames, IsFramed f := by
  have used : Used Careful ⟨modest, false, []⟩ _ := .more .none .call nofun refusal
  have prepared := used.more (.prepare 1 2 3) (by rintro - (same | ⟨same, -⟩) <;> cases same) .done
  have sent := call_sends (c := left.edit (·.prepare 1 2 3)) (by decide) [modest.packet.frame]
  have later : Later Careful ⟨modest, false, []⟩ _ := ⟨_, .call, prepared, nofun, sent⟩
  exact ⟨_, rfl, later, frames_framed Packet.whole_empty rfl later⟩

end Refusal

end RpcClient

end DeviceRpc
