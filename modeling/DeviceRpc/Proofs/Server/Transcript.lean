import DeviceRpc.Proofs.Device.PlantHost
import DeviceRpc.Proofs.Packet.Framing

/-!
# What a server writes

A connection is followed from the moment it is accepted to its end, whatever the client sends before
it closes. The stream is cut greedily into frames (`Server.cut`), each as long as its header says;
`Server.replies` is what should be written for it, with the dispatches that are needed: a reply to
every whole frame that is accepted, a last one to a header that announces too much, and nothing for
what is not whole.

The server does just that and stops (`Host.serves_stream`): against every host that dispatches to an
end, and however the stream is cut into pieces on the way, it writes these frames and leaves the
host as these dispatches leave it. Memory for an accepted payload is taken to be granted
(`Packet.memoryLimit`).
-/

namespace DeviceRpc

open Packet (IsFrame Same announced)

variable {τ : Type}

/-! ## From round to round -/

/-- Every run of a task that goes on from job to job ends in `Q`. -/
inductive Finishes (M : Machine τ) (Q : Outcome → τ → Prop) : Task Ending → τ → Prop where
  | finished {o : Outcome} {t : τ} (here : Q o t) : Finishes M Q (.done (.over o)) t
  | become {job : Job} {t : τ} (next : Finishes M Q job.round t) :
      Finishes M Q (.done (.become job)) t
  | ask {a : Act} {next : a.Reply → Task Ending} {t : τ} (live : M.CanGoOn t a)
      (later : ∀ t', M.silent t t' → Finishes M Q (.ask a next) t')
      (go : ∀ r t', M.answers t a r t' → Finishes M Q (next r) t') : Finishes M Q (.ask a next) t

theorem Finishes.mono {M : Machine τ} {Q R : Outcome → τ → Prop} (hQ : ∀ o t, Q o t → R o t)
    {p : Task Ending} {t : τ} (h : Finishes M Q p t) : Finishes M R p t := by
  induction h with
  | finished here => exact .finished (hQ _ _ here)
  | become _ ih => exact .become ih
  | ask live _ _ later go => exact .ask live later go

/-- A round and then what its end leads to. -/
theorem Finishes.of_endsWithin {M : Machine τ} {I : τ → Prop} {Q : Outcome → τ → Prop}
    {p : Task Ending} {t : τ}
    (h : EndsWithin M I (fun e t' => Finishes M Q (.done e) t') p t) : Finishes M Q p t := by
  induction h with
  | done here => exact here
  | ask _ live _ _ later go => exact .ask live later go

namespace Server

/-! ## Cutting a stream -/

/-- What a stream begins with. -/
inductive Opening where
  /-- No whole request. -/
  | nothing
  /-- A header that announces more payload than is accepted. -/
  | tooLarge (p : Packet)
  | request (p : Packet) (rest : Bytes)

/-- Cuts the first frame off a stream. -/
def cut (maxPayload : Nat) (stream : Bytes) : Opening :=
  match Packet.empty.decodeHeader stream with
  | .error _ => .nothing
  | .ok p =>
    let size := headerSize + p.length.toNat
    if maxPayload < p.length.toNat then .tooLarge p
    else match Packet.ofFrame (stream.take size) with
      | .error _ => .nothing
      | .ok p => .request p (stream.drop size)

/-- The ways a stream may begin, with what it is cut into. -/
inductive Cuts (maxPayload : Nat) : Bytes → Opening → Prop where
  | noHeader {stream : Bytes} (short : stream.length < headerSize) :
      Cuts maxPayload stream .nothing
  | noPayload {header bs : Bytes} (len : header.length = headerSize)
      (fits : (announced header).toNat ≤ maxPayload) (short : bs.length < (announced header).toNat) :
      Cuts maxPayload (header ++ bs) .nothing
  | tooLarge {header bs : Bytes} (len : header.length = headerSize)
      (large : maxPayload < (announced header).toNat) :
      Cuts maxPayload (header ++ bs) (.tooLarge (Packet.empty.readHeader header))
  | request {header payload rest : Bytes} (frame : IsFrame header payload)
      (fits : payload.length ≤ maxPayload) :
      Cuts maxPayload (header ++ (payload ++ rest))
        (.request (Packet.empty.receive header payload) rest)

theorem exists_cuts (maxPayload : Nat) (stream : Bytes) : ∃ opening, Cuts maxPayload stream opening := by
  by_cases short : stream.length < headerSize
  · exact ⟨_, .noHeader short⟩
  · obtain ⟨header, bs, rfl, len⟩ : ∃ header bs, stream = header ++ bs ∧ header.length = headerSize :=
      ⟨stream.take headerSize, stream.drop headerSize, (List.take_append_drop ..).symm,
        List.length_take_of_le (Nat.not_lt.mp short)⟩
    by_cases large : maxPayload < (announced header).toNat
    · exact ⟨_, .tooLarge len large⟩
    · by_cases whole : (announced header).toNat ≤ bs.length
      · have frame : IsFrame header (bs.take (announced header).toNat) :=
          ⟨len, List.length_take_of_le whole⟩
        have fits : (bs.take (announced header).toNat).length ≤ maxPayload := by
          rw [frame.length_payload]
          exact Nat.not_lt.mp large
        rw [← List.take_append_drop (announced header).toNat bs]
        exact ⟨_, .request frame fits⟩
      · exact ⟨_, .noPayload len (Nat.not_lt.mp large) (Nat.not_le.mp whole)⟩

theorem Cuts.cut_eq {maxPayload : Nat} {stream : Bytes} {opening : Opening}
    (h : Cuts maxPayload stream opening) : cut maxPayload stream = opening := by
  have read {header : Bytes} (len : header.length = headerSize) (bs : Bytes) :
      Packet.empty.decodeHeader (header ++ bs) = .ok (Packet.empty.readHeader header) := by
    have long : ¬ (header ++ bs).length < headerSize := by rw [List.length_append, len]; omega
    unfold Packet.decodeHeader
    rw [if_neg long, Packet.readHeader_append len]
  have size (header : Bytes) : (Packet.empty.readHeader header).length = announced header := rfl
  cases h with
  | noHeader short => rw [cut, Packet.decodeHeader, if_pos short]
  | noPayload len fits short =>
    obtain ⟨reason, failed⟩ := Packet.ofFrame_refused len (Nat.ne_of_lt short)
    unfold cut
    rw [read len]
    simp only [size]
    rw [if_neg (Nat.not_lt.mpr fits), ← len, List.take_length_add_append,
      List.take_of_length_le (Nat.le_of_lt short), failed]
  | tooLarge len large =>
    unfold cut
    rw [read len]
    simp only [size]
    rw [if_pos large]
  | request frame fits =>
    have accepted := fits
    rw [frame.length_payload] at accepted
    unfold cut
    rw [read frame.length_header]
    simp only [size]
    rw [if_neg (Nat.not_lt.mpr accepted), ← frame.length_header, List.take_length_add_append,
      List.drop_length_add_append, ← frame.length_payload, List.take_left, List.drop_left,
      Packet.ofFrame_append frame]

theorem cut_cuts (maxPayload : Nat) (stream : Bytes) :
    Cuts maxPayload stream (cut maxPayload stream) := by
  obtain ⟨opening, cuts⟩ := exists_cuts maxPayload stream
  rw [cuts.cut_eq]
  exact cuts

theorem length_of_cut {maxPayload : Nat} {stream rest : Bytes} {p : Packet}
    (h : cut maxPayload stream = .request p rest) : rest.length < stream.length := by
  have cuts := cut_cuts maxPayload stream
  rw [h] at cuts
  cases cuts with
  | request frame =>
    have len := frame.length_header
    rw [List.length_append, List.length_append, len, headerSize]
    omega

/-- The frames that a stream is answered with, dispatching its requests one after the other. -/
def replies (maxPayload : Nat) (registry : Registry Object) (stream : Bytes) : Task (List Bytes) :=
  match _ : cut maxPayload stream with
  | .nothing => return []
  | .tooLarge p => return [{ p with errorCode := ErrorCode.outOfMemory.number, length := 0 }.frame]
  | .request p rest => do
    let reply ← Pdu.service.dispatch registry p
    return reply.frame :: (← replies maxPayload registry rest)
termination_by stream.length
decreasing_by exact length_of_cut ‹_›

theorem replies_eq (maxPayload : Nat) (registry : Registry Object) (stream : Bytes) :
    replies maxPayload registry stream =
      match cut maxPayload stream with
      | .nothing => return []
      | .tooLarge p =>
        return [{ p with errorCode := ErrorCode.outOfMemory.number, length := 0 }.frame]
      | .request p rest => do
        let reply ← Pdu.service.dispatch registry p
        return reply.frame :: (← replies maxPayload registry rest) := by
  rw [replies]
  split <;> rename_i h <;> rw [h]

end Server

/-! ## Serving it -/

namespace Host

open Plant (oneOutlet oneUnit switchOn)
open Server (Cuts cut cut_cuts replies replies_eq)
open Packet (IsFramed)

variable {H : Host τ} {node : NodeId} {connection : ConnectionId} {options : LinkOptions}

/-- Where no request comes whole, nothing more is written. -/
theorem serves_nothing {stream : Bytes} {Q : List Bytes → τ → Prop} {t : τ} {out : List Bytes}
    {p : Packet}
    (short : stream.length < headerSize ∨ ∃ header bs, stream = header ++ bs ∧
      header.length = headerSize ∧ (announced header).toNat ≤ options.maxPayload ∧
      bs.length < (announced header).toNat) (still : H.machine.Still t) (here : Q [] t) :
    Finishes H.fed
      (fun o s => o = .done ∧ ∃ frames, s.out = out ++ frames ∧ Q frames s.host ∧
        ∀ f ∈ frames, IsFramed f)
      (Job.connection node ⟨⟨connection, .acceptor⟩, options⟩ p).round ⟨stream, true, out, t⟩ := by
  refine .of_endsWithin ((round_stops short still).mono (fun _ ht => ht) ?_)
  intro e s post
  obtain ⟨rfl, rfl⟩ := post
  exact .finished ⟨rfl, [], (List.append_nil _).symm, here, nofun⟩

/-- What is left of a stream is served in whatever envelope the requests before it left. -/
theorem serves_rest (still : ∀ t, H.machine.Still t) (stream : Bytes) :
    ∀ {Q : List Bytes → τ → Prop} {t : τ} {out : List Bytes} {p : Packet},
      Ends H.machine Q (replies options.maxPayload H.registry stream) t →
      Finishes H.fed
        (fun o s => o = .done ∧ ∃ frames, s.out = out ++ frames ∧ Q frames s.host ∧
          ∀ f ∈ frames, IsFramed f)
        (Job.connection node ⟨⟨connection, .acceptor⟩, options⟩ p).round ⟨stream, true, out, t⟩ := by
  induction size : stream.length using Nat.strongRecOn generalizing stream with
  | ind n ih =>
    intro Q t out p returns
    have cuts := cut_cuts options.maxPayload stream
    rw [replies_eq] at returns
    generalize cut options.maxPayload stream = opening at cuts returns
    -- one case for each way the stream may begin
    cases cuts with
    | noHeader short =>
      cases returns with
      | done here => exact serves_nothing (.inl short) (still t) here
    | noPayload len fits short =>
      cases returns with
      | done here =>
        exact serves_nothing (.inr ⟨_, _, rfl, len, fits, short⟩) (still t) here
    | tooLarge len large =>
      cases returns with
      | done here =>
        refine .of_endsWithin ((round_refuses len large (still t)).mono (fun _ ht => ht) ?_)
        intro e s post
        obtain ⟨rfl, rfl⟩ := post
        refine .finished ⟨rfl, _, rfl, here, ?_⟩
        intro f mem
        rw [List.mem_singleton.mp mem]
        exact Packet.Whole.isFramed rfl
    | @request header payload rest frame fits =>
      have first := returns.of_bind
      refine .of_endsWithin ((round_answers frame fits (Packet.same_receive frame _ _) (still t)
        first fun _ t' _ => still t').mono (fun _ _ => trivial) ?_)
      intro e s post
      obtain ⟨p', d, t', rfl, replied, later, rfl⟩ := post
      refine .become ?_
      have less : rest.length < n := by
        have len := frame.length_header
        rw [← size, List.length_append, List.length_append, len, headerSize]
        omega
      have next := later.of_bind
      refine (ih _ less rest rfl next).mono ?_
      intro o s post
      obtain ⟨rfl, frames, sent, here, framed⟩ := post
      cases here with
      | done here =>
        refine ⟨rfl, d.frame :: frames, by rw [sent, List.append_assoc]; rfl, here, ?_⟩
        intro f mem
        rcases List.mem_cons.mp mem with rfl | mem
        · exact replied.same.whole.isFramed
        · exact framed f mem

/-- A connection whose client sends a stream and closes is served to its end: the server writes the
frames that answer the stream, each as long as its header says, leaves the host as their dispatches
leave it, and stops. -/
theorem serves_stream (H : Host τ) (still : ∀ t, H.machine.Still t) (node : NodeId)
    (connection : ConnectionId) (options : LinkOptions) (stream : Bytes)
    {Q : List Bytes → τ → Prop} {t : τ}
    (returns : Ends H.machine Q (replies options.maxPayload H.registry stream) t) :
    Finishes H.fed (fun o s => o = .done ∧ Q s.out s.host ∧ ∀ f ∈ s.out, IsFramed f)
      (Job.opening node ⟨⟨connection, .acceptor⟩, options⟩).round ⟨stream, true, [], t⟩ := by
  have opens : EndsWithin H.fed (Quiet []) _ _ ⟨stream, true, [], t⟩ :=
    round_opens node ⟨⟨connection, .acceptor⟩, options⟩ (still t)
  refine .of_endsWithin (opens.mono (fun _ ht => ht) ?_)
  intro e s post
  obtain ⟨rfl, rfl⟩ := post
  refine .become ((serves_rest still stream returns).mono ?_)
  intro o s post
  obtain ⟨rfl, frames, sent, here, framed⟩ := post
  rw [List.nil_append] at sent
  rw [sent]
  exact ⟨rfl, here, framed⟩

set_option maxRecDepth 8000 in
/-- One request and half a header: the outlet is switched, and one reply is written. -/
theorem serves_switch :
    Finishes (Plant.host oneUnit).fed
      (fun o s => o = .done ∧
        (s.out = [switchOn.frame] ∧ s.host = (oneOutlet.perform 0 (.switch true 1)).1) ∧
        ∀ f ∈ s.out, IsFramed f)
      (Job.opening 0 ⟨⟨0, .acceptor⟩, {}⟩).round
      ⟨switchOn.frame ++ List.replicate 16 0, true, [], oneOutlet⟩ := by
  have frame : IsFrame switchOn.header [] := ⟨switchOn.length_header, rfl⟩
  have opening : cut 16777216 (switchOn.frame ++ List.replicate 16 0)
      = .request (Packet.empty.receive switchOn.header []) (List.replicate 16 0) := by
    unfold Packet.frame
    rw [List.append_assoc]
    exact (Cuts.request frame (Nat.zero_le _)).cut_eq
  have last : cut 16777216 (List.replicate 16 0) = .nothing :=
    (Cuts.noHeader (by decide)).cut_eq
  refine serves_stream (Plant.host oneUnit) Plant.machine_still 0 0 {} _ (Plant.ends_of_run? ?_)
  rw [replies_eq, opening]
  simp only
  rw [replies_eq, last]
  rfl

end Host

end DeviceRpc
