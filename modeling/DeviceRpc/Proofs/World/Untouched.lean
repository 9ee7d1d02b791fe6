import Mathlib.Data.List.Basic
import DeviceRpc.World.Basic

/-!
# What acts leave untouched

An act changes little of its world. Only the act that sets a monitor changes what this monitor
shows, only the act that counts a reconnect changes how many were counted in its cell, and of what a
node offers only draining is ever changed by an act, of that node. Whoever else acts in the same
world need not be looked at where one of these is followed.
-/

namespace DeviceRpc

namespace Cell

/-- Where a change of a cell does not count, the counts of all cells stay. -/
theorem reconnects_modify {f : Cell → Cell} (keeps : ∀ c, (f c).reconnects = c.reconnects)
    (cells : List Cell) (c k : CellId) :
    (cells.modify c f)[k]?.map reconnects = cells[k]?.map reconnects := by
  rw [List.getElem?_modify]
  cases cells[k]? with
  | none => rfl
  | some cell =>
    by_cases same : c = k
    · simp [same, keeps]
    · simp [same]

theorem reconnects_withEnvelope (p : Packet) (c : Cell) :
    (c.withEnvelope p).reconnects = c.reconnects := by
  unfold withEnvelope
  cases c.content <;> rfl

end Cell

/-- Counting does not drain. -/
theorem NodeMetrics.record_draining (service : String) (event : Event) (m : NodeMetrics) :
    (m.record service event).draining = m.draining := by
  cases event with
  | dispatched command errorCode nanoseconds =>
    simp only [record, recordDispatch]
    split <;> rfl
  | _ => rfl

namespace World

theorem modify_eq_set {cells : List Cell} {c : CellId} {cell : Cell} (here : cells[c]? = some cell)
    (f : Cell → Cell) : cells.modify c f = cells.set c (f cell) := by
  rw [List.modify_eq_set_getElem?, here]
  rfl

theorem settleCell_eq (w : World) (c : CellId) (f : Cell → Cell) :
    ∃ network, w.settleCell c f = { w with cells := w.cells.modify c f, network } := by
  unfold settleCell
  cases here : w.cells[c]? with
  | none =>
    refine ⟨w.network, ?_⟩
    rw [List.modify_eq_set_getElem?, here]
    rfl
  | some cell =>
    rw [modify_eq_set here]
    cases handle : (f cell).handle? with
    | none => exact ⟨w.network, by simp only [handle]⟩
    | some h =>
      simp only [handle]
      split
      · exact ⟨_, rfl⟩
      · exact ⟨w.network, rfl⟩

theorem release_eq (w : World) (t : TaskId) (c : CellId) : ∃ f network,
    (∀ cell : Cell, (f cell).reconnects = cell.reconnects) ∧
      w.release t c = { w with cells := w.cells.modify c f, network } := by
  unfold release
  split
  · obtain ⟨network, settled⟩ := w.settleCell_eq c (·.release t)
    exact ⟨Cell.release t, network, fun _ => rfl, settled⟩
  · exact ⟨id, w.network, fun _ => rfl, by rw [List.modify_id]⟩

theorem receive_eq (w : World) (h : Handle) (n : Nat) (limit : Option Instant) :
    ∃ network, (w.receive h n limit).1 = { w with network } := by
  unfold receive
  cases w.network.connections[h.connection]? with
  | none => exact ⟨w.network, rfl⟩
  | some c =>
    dsimp only
    split
    · exact ⟨_, rfl⟩
    · exact ⟨_, rfl⟩

theorem send_eq (w : World) (h : Handle) (bs : Bytes) :
    ∃ network, (w.send h bs).1 = { w with network } := by
  unfold send
  cases w.network.connections[h.connection]? with
  | none => exact ⟨w.network, rfl⟩
  | some c => exact ⟨_, rfl⟩

theorem acquire_eq (w : World) (t : TaskId) (c : CellId) :
    (w.answer t (.acquire c)).1
      = { w with cells := w.cells.modify c fun cell => (cell.acquire t).1 } := by
  simp only [answer]
  cases here : w.cells[c]? with
  | none =>
    rw [List.modify_eq_set_getElem?, here]
    rfl
  | some cell =>
    rw [modify_eq_set here]

theorem perform_health (p : Plant) (d : DeviceId) (c : DeviceCommand) :
    (p.perform d c).1.health = p.health := by
  unfold Plant.perform
  cases p.devices[d]? <;> rfl

variable {w : World} {t : TaskId} {a : Act}

/-- What a monitor shows is changed by setting it only. -/
theorem answer_health {m : MonitorId} (others : ∀ healthy, a ≠ .setHealth m healthy) :
    (w.answer t a).1.plant.health[m]? = w.plant.health[m]? := by
  cases a with
  | setHealth m' healthy =>
    refine List.getElem?_set_ne ?_
    rintro rfl
    exact others healthy rfl
  | command d c => exact congrArg (·[m]?) (perform_health w.plant d c)
  | receive h n limit =>
    obtain ⟨network, received⟩ := w.receive_eq h n limit
    exact congrArg (·.plant.health[m]?) received
  | send h bs =>
    obtain ⟨network, sent⟩ := w.send_eq h bs
    exact congrArg (·.plant.health[m]?) sent
  | acquire c => exact congrArg (·.plant.health[m]?) (w.acquire_eq t c)
  | release c =>
    obtain ⟨_, _, -, released⟩ := w.release_eq t c
    exact congrArg (·.plant.health[m]?) released
  | _ => rfl

/-- Nobody's health is a matter of who was given up. -/
theorem abandon_plant (w : World) (t : TaskId) : (w.abandon t).plant = w.plant := by
  have all (cells : List CellId) (w : World) :
      (cells.foldl (fun w c => w.release t c) w).plant = w.plant := by
    induction cells generalizing w with
    | nil => rfl
    | cons c cells ih =>
      obtain ⟨_, _, -, released⟩ := w.release_eq t c
      have same : (w.release t c).plant = w.plant := by rw [released]
      exact (ih _).trans same
  exact all _ w

/-- Only counting changes how many reconnects were counted. -/
theorem answer_reconnects {cell : CellId} (others : a ≠ .countReconnect cell) :
    (w.answer t a).1.cells[cell]?.map Cell.reconnects = w.cells[cell]?.map Cell.reconnects := by
  have changed {w' : World} {c : CellId} {f : Cell → Cell}
      (cells : w'.cells = w.cells.modify c f) (keeps : ∀ c, (f c).reconnects = c.reconnects) :
      w'.cells[cell]?.map Cell.reconnects = w.cells[cell]?.map Cell.reconnects := by
    rw [cells]
    exact Cell.reconnects_modify keeps ..
  cases a with
  | countReconnect c =>
    have apart : c ≠ cell := by
      rintro rfl
      exact others rfl
    show (w.cells.modify c _)[cell]?.map Cell.reconnects = _
    rw [List.getElem?_modify_ne _ _ apart]
  | receive h n limit =>
    obtain ⟨network, received⟩ := w.receive_eq h n limit
    exact congrArg (·.cells[cell]?.map Cell.reconnects) received
  | send h bs =>
    obtain ⟨network, sent⟩ := w.send_eq h bs
    exact congrArg (·.cells[cell]?.map Cell.reconnects) sent
  | acquire c => exact changed (congrArg cells (w.acquire_eq t c)) fun _ => rfl
  | release c =>
    obtain ⟨f, network, keeps, released⟩ := w.release_eq t c
    exact changed (congrArg cells released) keeps
  | keepPduClient c client => exact changed (c := c) rfl fun _ => rfl
  | keepRpcClient c client => exact changed (c := c) rfl fun _ => rfl
  | keepEnvelope c p => exact changed (c := c) rfl (Cell.reconnects_withEnvelope p)
  | keepRehearsal c r => exact changed (c := c) rfl fun _ => rfl
  | _ => rfl

/-- What a node offers stays, unless it is drained. -/
theorem answer_offer {n : NodeId} (others : a ≠ .drain n) :
    (w.answer t a).1.nodes[n]?.map Node.offer = w.nodes[n]?.map Node.offer := by
  cases a with
  | drain n' =>
    have apart : n' ≠ n := by
      rintro rfl
      exact others rfl
    show (w.nodes.modify n' _)[n]?.map Node.offer = _
    rw [List.getElem?_modify_ne _ _ apart]
  | record n' event =>
    show (w.nodes.modify n' _)[n]?.map Node.offer = _
    rw [List.getElem?_modify]
    cases w.nodes[n]? with
    | none => rfl
    | some node =>
      refine congrArg some ?_
      split
      · unfold Node.offer
        rw [NodeMetrics.record_draining]
      · rfl
  | receive h n' limit =>
    obtain ⟨network, received⟩ := w.receive_eq h n' limit
    exact congrArg (·.nodes[n]?.map Node.offer) received
  | send h bs =>
    obtain ⟨network, sent⟩ := w.send_eq h bs
    exact congrArg (·.nodes[n]?.map Node.offer) sent
  | acquire c => exact congrArg (·.nodes[n]?.map Node.offer) (w.acquire_eq t c)
  | release c =>
    obtain ⟨_, _, -, released⟩ := w.release_eq t c
    exact congrArg (·.nodes[n]?.map Node.offer) released
  | _ => rfl

end World

end DeviceRpc
