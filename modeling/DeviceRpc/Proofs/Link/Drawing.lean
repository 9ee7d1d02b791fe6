import DeviceRpc.Link.Transfer
import DeviceRpc.Proofs.Packet.Content
import DeviceRpc.Proofs.Program.Keeps

/-!
# Reading from a connection that may fail

A reader that may be left waiting, be told that time ran out or that the other side is gone, and be
given the bytes in any pieces. In the states of `S`, told by what the handle was given so far, it
`Draws`: every piece is added to what it was given, and nothing else of the state matters.

Whatever is read then, it is read from the bytes that came. A packet that a read gives was read from
the frame that came since it began (`Drawn`), and where it gives none, some bytes came all the same.
-/

namespace DeviceRpc

open Packet (IsFrame)

variable {σ : Type} {step : Answering σ} {I : σ → Act → Prop} {h : Handle} {S : Bytes → σ → Prop}

/-- In the states of `S`, the handle was given just these bytes, and may receive. -/
structure Draws (step : Answering σ) (I : σ → Act → Prop) (h : Handle) (S : Bytes → σ → Prop) :
    Prop where
  may {bs : Bytes} {s : σ} (n : Nat) (limit : Option Instant) : S bs s → I s (.receive h n limit)
  may_now {bs : Bytes} {s : σ} : S bs s → I s .now
  /-- It is given as many bytes as it wants at most, or none. -/
  piece {bs : Bytes} {s : σ} {n : Nat} {limit : Option Instant} {first : UInt8} {rest : Bytes}
    {s' : σ} : S bs s → step s (.receive h n limit) (.bytes first rest) s' →
      rest.length < max n 1 ∧ S (bs ++ first :: rest) s'
  without {bs : Bytes} {s : σ} {n : Nat} {limit : Option Instant} {r : Received} {s' : σ} :
    S bs s → step s (.receive h n limit) r s' → (∀ first rest, r ≠ .bytes first rest) → S bs s'
  clock {bs : Bytes} {s : σ} {r : Instant} {s' : σ} : S bs s → step s .now r s' → S bs s'

/-- Being told of something brings no bytes. -/
def Discreet {α : Type} (step : Answering σ) (I : σ → Act → Prop) (S : Bytes → σ → Prop)
    (note : α → Task Unit) : Prop :=
  ∀ a bs s, S bs s → Keeps step I (fun _ s' => S bs s') (note a) s

/-- What reading a packet into an envelope comes to. -/
def Drawn (S : Bytes → σ → Prop) (p : Packet) (bs : Bytes)
    (r : Packet × Except LinkFailure Unit) (s : σ) : Prop :=
  (∃ header payload, IsFrame header payload ∧ r = (p.receive header payload, .ok ()) ∧
    S (bs ++ (header ++ payload)) s) ∨
  ∃ e new, r.2 = .error e ∧ S (bs ++ new) s

namespace Draws

theorem unnoted_discreet {α : Type} : Discreet step I S (Channel.unnoted (α := α)) :=
  fun _ _ _ hS => hS

variable (draws : Draws step I h S)

include draws

/-! ## Transfers -/

theorem deadline (timeout : Option Nat) {bs : Bytes} {s : σ} (hS : S bs s) :
    Keeps step I (fun _ s' => S bs s') (DeviceRpc.deadline timeout) s := by
  cases timeout with
  | none => exact hS
  | some ms => exact .request (draws.may_now hS) fun r s' hr => draws.clock hS hr

theorem receiveExactly {note : Bytes → Task Unit} (discreet : Discreet step I S note)
    (limit : Option Instant) (want : Nat) :
    ∀ (got bs : Bytes) (s : σ), S bs s →
      Keeps step I
        (fun r s' => ∃ new, r.1 = got ++ new ∧ S (bs ++ new) s' ∧ (r.2 = none → new.length = want))
        (DeviceRpc.receiveExactly h limit note want got) s := by
  -- every piece is at least one byte, so less is wanted after it
  induction want using Nat.strongRecOn with
  | ind want ih =>
    intro got bs s hS
    cases want with
    | zero =>
      unfold DeviceRpc.receiveExactly
      exact ⟨[], (List.append_nil got).symm, by rwa [List.append_nil], fun _ => rfl⟩
    | succ want =>
      have nothing {s' : σ} (hS' : S bs s') (e : LinkFailure) :
          ∃ new, got = got ++ new ∧ S (bs ++ new) s' ∧ (some e = none → new.length = want + 1) :=
        ⟨[], (List.append_nil got).symm, by rwa [List.append_nil], nofun⟩
      unfold DeviceRpc.receiveExactly
      refine .request (draws.may _ _ hS) fun r s' hr => ?_
      cases r with
      | bytes first rest =>
        obtain ⟨short, hS'⟩ := draws.piece hS hr
        have fewer : rest.length ≤ want := by omega
        refine .andThen (discreet _ _ _ hS') fun _ s'' hS'' => ?_
        refine (ih _ (Nat.lt_succ_of_le (Nat.sub_le ..)) _ _ s'' hS'').mono (fun _ _ here => here) ?_
        intro r t post
        obtain ⟨new, got', hT, all⟩ := post
        refine ⟨first :: rest ++ new, ?_, ?_, fun none => ?_⟩
        · rw [got', List.append_assoc]
        · rwa [← List.append_assoc]
        · rw [List.length_append, List.length_cons, all none]
          omega
      | ended => exact nothing (draws.without hS hr nofun) .closed
      | reset => exact nothing (draws.without hS hr nofun) .connectionReset
      | late => exact nothing (draws.without hS hr nofun) .timedOut

theorem transfer {note : Bytes → Task Unit} (discreet : Discreet step I S note)
    (options : LinkOptions) (n : Nat) {bs : Bytes} {s : σ} (hS : S bs s) :
    Keeps step I (fun r s' => S (bs ++ r.1) s' ∧ (r.2 = none → r.1.length = n))
      (Channel.transfer ⟨h, options⟩ n note) s := by
  refine .andThen (draws.deadline _ hS) fun limit s' hS' => ?_
  refine (draws.receiveExactly discreet limit n [] bs s' hS').mono (fun _ _ here => here) ?_
  intro r t post
  obtain ⟨new, got, hT, all⟩ := post
  rw [List.nil_append] at got
  rw [got]
  exact ⟨hT, all⟩

/-! ## Packets -/

/-- Once the header is there, the payload that it announces makes it a frame. -/
theorem readPayload {note : Packet → Task Unit} (discreet : Discreet step I S note)
    (options : LinkOptions) (p : Packet) {header bs : Bytes} (len : header.length = headerSize)
    {s : σ} (hS : S (bs ++ header) s) :
    Keeps step I (Drawn S p bs) (Channel.readPayload ⟨h, options⟩ (p.readHeader header) note) s := by
  have size : (p.readHeader header).length = Packet.announced header := rfl
  rw [Channel.readPayload]
  split
  next none =>
    refine .inl ⟨header, [], ⟨len, ?_⟩, ?_, by rwa [List.append_nil]⟩
    · rw [← size, none, List.length_nil]
    · rw [Packet.receive, List.length_nil, Bytes.grow, Nat.zero_sub, List.replicate_zero,
        List.append_nil, Bytes.splice, List.take_zero, List.nil_append, List.nil_append]
      rfl
  next =>
    split
    next => exact .inr ⟨_, header, rfl, hS⟩
    next =>
      rw [Packet.grow_of_lt (Packet.length_lt_memoryLimit _)]
      refine .andThen (discreet _ _ _ hS) fun _ s' hS' => ?_
      refine .andThen (draws.transfer (fun _ => discreet _) options _ hS') fun r t hT => ?_
      obtain ⟨payload, failure⟩ := r
      rw [List.append_assoc] at hT
      cases failure with
      | none =>
        have whole : payload.length = (Packet.announced header).toNat := hT.2 rfl
        refine .inl ⟨header, payload, ⟨len, whole⟩, ?_, hT.1⟩
        unfold Packet.receive
        rw [whole]
        rfl
      | some e => exact .inr ⟨e, header ++ payload, rfl, hT.1⟩

theorem readPacket {note : Packet → Task Unit} (discreet : Discreet step I S note)
    (options : LinkOptions) (p : Packet) {bs : Bytes} {s : σ} (hS : S bs s) :
    Keeps step I (Drawn S p bs) (Channel.readPacket ⟨h, options⟩ p note) s := by
  refine .andThen (draws.transfer unnoted_discreet options headerSize hS) fun r s' hr => ?_
  obtain ⟨header, failure⟩ := r
  cases failure with
  | none => exact draws.readPayload discreet options p (hr.2 rfl) hr.1
  | some e => exact .inr ⟨e, header, rfl, hr.1⟩

theorem readRequest (options : LinkOptions) (p : Packet) {bs : Bytes} {s : σ} (hS : S bs s) :
    Keeps step I (Drawn S p bs) (Channel.readRequest ⟨h, options⟩ p) s := by
  refine .andThen (draws.receiveExactly unnoted_discreet none 1 [] bs s hS) fun r s' hr => ?_
  obtain ⟨first, failure⟩ := r
  obtain ⟨new, got, hS', one⟩ := hr
  obtain rfl : first = new := got
  cases failure with
  | some e => exact .inr ⟨e, first, rfl, hS'⟩
  | none =>
    refine .andThen (draws.transfer unnoted_discreet options (headerSize - 1) hS') fun r t hT => ?_
    obtain ⟨rest, failure⟩ := r
    rw [List.append_assoc] at hT
    cases failure with
    | some e => exact .inr ⟨e, first ++ rest, rfl, hT.1⟩
    | none =>
      refine draws.readPayload unnoted_discreet options p ?_ hT.1
      rw [List.length_append, one rfl, hT.2 rfl]
      rfl

end Draws

end DeviceRpc
