import DeviceRpc.Proofs.Packet.Content

/-!
# Frames in a stream

A frame says how long it is, so it ends where it ends whatever follows. Frames written one after the
other can be told apart in only one way: two sequences of frames of which one is written as a prefix
of the other agree frame by frame (`framed_prefix`). What a packet is read from decides its content
(`ReadFrom`).
-/

namespace DeviceRpc.Packet

/-- The bytes are as long as their header says. -/
def IsFramed (frame : Bytes) : Prop := frame.length = headerSize + (announced frame).toNat

theorem Whole.isFramed {p : Packet} (h : p.Whole) : IsFramed p.frame := by
  rw [IsFramed, (Same.refl h).length_frame, frame, announced_append p.length_header,
    announced_header]

theorem IsFrame.isFramed {header payload : Bytes} (h : IsFrame header payload) :
    IsFramed (header ++ payload) := by
  rw [IsFramed, List.length_append, h.length_header, h.length_payload,
    announced_append h.length_header]

theorem IsFramed.announced_of_prefix {frame stream : Bytes} (h : IsFramed frame)
    (starts : frame <+: stream) : announced stream = announced frame := by
  obtain ⟨rest, rfl⟩ := starts
  have long : 12 + 4 ≤ frame.length := by
    rw [h]
    exact Nat.le_trans (by decide) (Nat.le_add_right headerSize _)
  unfold announced
  rw [window_append_of_le long]

/-- A stream begins with at most one frame. -/
theorem framed_unique {frame frame' stream : Bytes} (h : IsFramed frame) (h' : IsFramed frame')
    (starts : frame <+: stream) (starts' : frame' <+: stream) : frame = frame' := by
  have length : frame.length = frame'.length := by
    rw [h, h', ← h.announced_of_prefix starts, ← h'.announced_of_prefix starts']
  exact (List.prefix_of_prefix_length_le starts starts' (Nat.le_of_eq length)).eq_of_length length

/-- The packet was read from this frame: it has the content of every packet that is written so. -/
structure ReadFrom (p : Packet) (frame : Bytes) : Prop where
  framed : IsFramed frame
  same : ∀ q : Packet, q.Whole → q.frame = frame → Same p q

theorem readFrom_receive {header payload : Bytes} (h : IsFrame header payload) (p : Packet) :
    (p.receive header payload).ReadFrom (header ++ payload) where
  framed := h.isFramed
  same q whole written := by
    obtain ⟨rfl, rfl⟩ : q.header = header ∧ q.payload = payload :=
      List.append_inj written (q.length_header.trans h.length_header.symm)
    exact receive_same whole p

/-- The command in the header of a frame. -/
def commandOf (frame : Bytes) : UInt16 := scalarAt 4 frame

/-- The index in the header of a frame. -/
def indexOf (frame : Bytes) : UInt16 := scalarAt 2 frame

theorem readHeader_frame (p q : Packet) : q.readHeader p.frame = { p with trailing := q.trailing } := by
  rw [frame, readHeader_append p.length_header, readHeader_header]

theorem commandOf_frame (p : Packet) : commandOf p.frame = p.command :=
  congrArg command (readHeader_frame p empty)

theorem indexOf_frame (p : Packet) : indexOf p.frame = p.index :=
  congrArg index (readHeader_frame p empty)

theorem framed_prefix : ∀ {frames frames' : List Bytes}, (∀ f ∈ frames, IsFramed f) →
    (∀ f ∈ frames', IsFramed f) → frames.flatten <+: frames'.flatten → frames <+: frames'
  | [], _, _, _, _ => List.nil_prefix
  | frame :: frames, frames', framed, framed', starts => by
    have first : frame <+: frames'.flatten := by
      rw [List.flatten_cons] at starts
      exact (List.prefix_append ..).trans starts
    have isFramed := framed frame (List.mem_cons_self ..)
    cases frames' with
    | nil =>
      -- a frame has a header at least
      have empty : frame = [] := List.prefix_nil.mp first
      rw [empty, IsFramed] at isFramed
      exact absurd isFramed (by rw [headerSize, List.length_nil]; omega)
    | cons frame' frames' =>
      obtain rfl : frame = frame' := by
        refine framed_unique isFramed (framed' _ (List.mem_cons_self ..)) first ?_
        rw [List.flatten_cons]
        exact List.prefix_append ..
      rw [List.flatten_cons, List.flatten_cons, List.prefix_append_right_inj] at starts
      rw [List.cons_prefix_cons]
      exact ⟨rfl, framed_prefix (fun f mem => framed f (List.mem_cons_of_mem _ mem))
        (fun f mem => framed' f (List.mem_cons_of_mem _ mem)) starts⟩

end DeviceRpc.Packet
