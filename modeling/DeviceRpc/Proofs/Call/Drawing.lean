import DeviceRpc.Proofs.Call.Running
import DeviceRpc.Proofs.Link.Drawing

/-!
# A call on a connection that may fail

What a call comes to where a frame may be lost, be answered late or not at all, and where what is
read may be anything. It sends the envelope once. Then either a whole frame comes and is the reply,
or the call fails on the link.
-/

namespace DeviceRpc

open Packet (IsFrame)

variable {σ : Type} {step : Answering σ} {I : σ → Act → Prop} {S : Bytes → σ → Prop} {E : σ → Prop}

/-- One program after the other, where a failure of the first is passed on. -/
theorem Calling.keeps_bind {ρ α β : Type}
    {P : Except CallFailure β × ρ → σ → Prop} {Q : Except CallFailure α × ρ → σ → Prop}
    {t : Calling ρ β} {f : β → Calling ρ α} {c : ρ} {s : σ} (h : Keeps step I P (t.on c) s)
    (ok : ∀ b c' s', P (.ok b, c') s' → Keeps step I Q ((f b).on c') s')
    (error : ∀ e c' s', P (.error e, c') s' → Q (.error e, c') s') :
    Keeps step I Q ((t >>= f).on c) s := by
  rw [on_bind]
  refine .andThen h ?_
  intro r s' here
  obtain ⟨result, c'⟩ := r
  cases result with
  | ok b => exact ok b c' s' here
  | error e => exact error e c' s' here

namespace RpcClient

/-- The reply was read from the frame that came, which is all that came, or the link failed. -/
def Ended (S : Bytes → σ → Prop) (E : σ → Prop) (c : RpcClient)
    (r : Except CallFailure ReplyPart × RpcClient) (s : σ) : Prop :=
  (∃ header payload, IsFrame header payload ∧
    r = settled (verdict (c.packet.receive header payload) (.ok ()),
      { c with packet := c.packet.receive header payload }) ∧ S (header ++ payload) s) ∨
  ∃ e, r.1 = .error (.link e) ∧ E s

/-- A call where no reply is under way. Once the envelope is sent, all that comes is drawn. -/
theorem call_ended {c : RpcClient} {s : σ} (last : c.packet.hasMore = false)
    (may : I s (.send c.channel.handle c.packet.frame))
    (sent : ∀ s', step s (.send c.channel.handle c.packet.frame) (.ok ()) s' → S [] s')
    (broke : ∀ e s', step s (.send c.channel.handle c.packet.frame) (.error e) s' → E s')
    (draws : Draws step I c.channel.handle S) (discreet : Discreet step I S (note c.home))
    (lost : ∀ bs s', S bs s' → E s') :
    Keeps step I (c.Ended S E) (call.on c) s := by
  rw [on_call last]
  refine .andThen (P := fun r s' => (∃ header payload, IsFrame header payload ∧
      r = (verdict (c.packet.receive header payload) (.ok ()),
        { c with packet := c.packet.receive header payload }) ∧ S (header ++ payload) s') ∨
    ∃ e, r.1 = .error (.link e) ∧ E s') ?_ ?_
  · refine .request may fun result s₁ hs => ?_
    cases result with
    | error e => exact .inr ⟨e, rfl, broke e s₁ hs⟩
    | ok =>
      show Keeps _ _ _ (read.on c) s₁
      rw [on_read]
      refine .andThen (discreet c.packet [] s₁ (sent s₁ hs)) fun _ s₂ hs₂ => ?_
      refine .andThen (draws.readPacket discreet c.channel.options c.packet hs₂) fun r s₃ hr => ?_
      rcases hr with ⟨header, payload, frame, rfl, came⟩ | ⟨e, new, failed, came⟩
      · exact .inl ⟨header, payload, frame, rfl, came⟩
      · obtain ⟨p, result⟩ := r
        obtain rfl : result = .error e := failed
        exact .inr ⟨e, rfl, lost _ s₃ came⟩
  · intro r s' post
    rcases post with ⟨header, payload, frame, rfl, came⟩ | ⟨e, failed, ended⟩
    · exact .inl ⟨header, payload, frame, rfl, came⟩
    · obtain ⟨result, c'⟩ := r
      obtain rfl : result = .error (.link e) := failed
      exact .inr ⟨e, rfl, ended⟩

end RpcClient

end DeviceRpc
