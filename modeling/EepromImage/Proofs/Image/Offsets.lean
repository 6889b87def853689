/-
Where the sequences of the extended zone start.

The allocator keeps a running offset.  In closed form it is the end of the slot zone and,
behind it, the frames of all slots in front that have more than one:

* `slotFramesFrom_eq_ok` — the pass over the slots succeeds as long as the image ends inside
  the address space, and gives every slot its only frame, or a container for the closed form
  of its offset;
* `mem_relocationsFrom` — every sequence that the checks look for is at the closed form of its
  slot's offset.
-/
import Mathlib.Algebra.GroupWithZero.Nat
import EepromImage.Image.Allocation
import EepromImage.Proofs.Frame.RoundTrip
import EepromImage.Proofs.Table.Validity

namespace EepromImage

/-- The number of frames that slots have in the extended zone: all frames of the slots with
more than one. -/
def relocatedCount (slots : List Slot) : Nat :=
  ((slots.filter Slot.isRelocated).map fun s => s.frames.length).sum

/-- The frame in the slot zone for a slot whose sequence, if it has one, is at `offset`. -/
def Slot.head (self : UInt8) (layout : FrameLayout) (offset : Nat) (s : Slot) : Frame :=
  match s.frames with
  | [f] => f
  | frames => Frame.container self (UInt16.ofNat offset) (UInt8.ofNat frames.length) layout

/-! ### Slots -/

namespace Slot

variable {s : Slot}

theorem isRelocated_iff : s.isRelocated = true ↔ 1 < s.frames.length :=
  decide_eq_true_iff

theorem isRelocated_of_cons_cons {f g : Frame} {rest : List Frame}
    (h : s.frames = f :: g :: rest) :
    s.isRelocated = true := by
  rw [isRelocated_iff, h, List.length_cons, List.length_cons]
  omega

/-- A slot with a frame has a single one, or at least two and is relocated. -/
theorem single_or_relocated (h : s.frames ≠ []) :
    (∃ f, s.frames = [f]) ∨ ∃ f g rest, s.frames = f :: g :: rest := by
  rcases hs : s.frames with _ | ⟨f, _ | ⟨g, rest⟩⟩
  · exact absurd hs h
  · exact .inl ⟨f, rfl⟩
  · exact .inr ⟨f, g, rest, rfl⟩

theorem not_isRelocated_of_single {f : Frame} (h : s.frames = [f]) :
    s.isRelocated = false := by
  rw [isRelocated, h]
  rfl

theorem sequence_of_single {f : Frame} (h : s.frames = [f]) : s.sequence = [] := by
  rw [sequence, h]

theorem sequence_of_relocated (h : s.isRelocated = true) : s.sequence = s.frames := by
  have hlen := isRelocated_iff.mp h
  unfold sequence
  split
  · rename_i f hs
    rw [hs, List.length_singleton] at hlen
    omega
  · rfl

theorem head_of_single {f : Frame} (self : UInt8) (layout : FrameLayout) (offset : Nat)
    (h : s.frames = [f]) :
    s.head self layout offset = f := by
  rw [head, h]

theorem head_of_relocated (self : UInt8) (layout : FrameLayout) (offset : Nat)
    (h : s.isRelocated = true) :
    s.head self layout offset
      = Frame.container self (UInt16.ofNat offset) (UInt8.ofNat s.frames.length) layout := by
  have hlen := isRelocated_iff.mp h
  unfold head
  split
  · rename_i f hs
    rw [hs, List.length_singleton] at hlen
    omega
  · rfl

theorem mem_frames_of_mem_sequence {f : Frame} (h : f ∈ s.sequence) : f ∈ s.frames := by
  unfold sequence at h
  split at h
  · exact absurd h List.not_mem_nil
  · exact h

theorem length_sequence :
    s.sequence.length = if s.isRelocated then s.frames.length else 0 := by
  rcases hs : s.frames with _ | ⟨f, _ | ⟨g, rest⟩⟩
  · rw [sequence, isRelocated, hs]
    rfl
  · rw [sequence_of_single hs, not_isRelocated_of_single hs]
    rfl
  · have hrel := isRelocated_of_cons_cons hs
    rw [sequence_of_relocated hrel, if_pos hrel, hs]

end Slot

/-! ### Counts -/

theorem relocatedCount_nil : relocatedCount [] = 0 := rfl

theorem relocatedCount_cons (s : Slot) (rest : List Slot) :
    relocatedCount (s :: rest) = s.sequence.length + relocatedCount rest := by
  rw [Slot.length_sequence]
  by_cases hs : s.isRelocated = true
  · rw [relocatedCount, List.filter_cons_of_pos hs, List.map_cons, List.sum_cons, if_pos hs]
    rfl
  · rw [relocatedCount, List.filter_cons_of_neg hs, if_neg hs, Nat.zero_add]
    rfl

theorem relocatedCount_pos_iff {slots : List Slot} :
    0 < relocatedCount slots ↔ ∃ s ∈ slots, s.isRelocated = true := by
  induction slots with
  | nil => simp [relocatedCount_nil]
  | cons s rest ih =>
    rw [relocatedCount_cons, Slot.length_sequence]
    by_cases hs : s.isRelocated = true
    · have hlen := Slot.isRelocated_iff.mp hs
      rw [if_pos hs]
      exact ⟨fun _ => ⟨s, List.mem_cons_self, hs⟩, fun _ => by omega⟩
    · simp [hs, ih]

theorem length_flatMap_sequence (slots : List Slot) :
    (slots.flatMap Slot.sequence).length = relocatedCount slots := by
  induction slots with
  | nil => rfl
  | cons s rest ih => rw [List.flatMap_cons, List.length_append, relocatedCount_cons, ih]

/-- The sequence of a slot ends before the extended zone does. -/
theorem relocatedCount_take_add_le {slots : List Slot} {k : Nat} {s : Slot}
    (h : slots[k]? = some s) :
    relocatedCount (slots.take k) + s.sequence.length ≤ relocatedCount slots := by
  induction slots generalizing k with
  | nil => cases h
  | cons r rest ih =>
    cases k with
    | zero =>
      rw [List.getElem?_cons_zero, Option.some_inj] at h
      subst h
      rw [List.take_zero, relocatedCount_nil, relocatedCount_cons]
      omega
    | succ k =>
      have hrest := ih (List.getElem?_cons_succ ▸ h)
      rw [List.take_succ_cons, relocatedCount_cons, relocatedCount_cons]
      omega

namespace SlotTable

theorem relocatedFrames_eq (t : SlotTable) : t.relocatedFrames = relocatedCount t.slots := by
  rw [relocatedFrames, List.length_flatMap]
  rfl

/-- Byte address of the first frame of a slot's sequence, if it has one. -/
def sequenceStart (t : SlotTable) (k : Nat) : Nat :=
  (t.config.slotCount + relocatedCount (t.slots.take k)) * t.layout.size

end SlotTable

/-! ### The pass over the slots -/

section Pass

variable {self : UInt8} {layout : FrameLayout} {slot offset : Nat} {s : Slot}
  {rest : List Slot}

/-- One step of the pass: the slot's frame in the slot zone, and the offset moved behind its
sequence.  A container's offset has 16 bits because its sequence is not empty and still ends
inside the address space. -/
theorem slotFramesFrom_cons (hs : s.IsValid layout)
    (hsize : offset + s.sequence.length * layout.size ≤ addressSpace) :
    slotFramesFrom self layout slot offset (s :: rest)
      = (slotFramesFrom self layout (slot + 1) (offset + s.sequence.length * layout.size)
          rest).map (s.head self layout offset :: ·) := by
  rcases Slot.single_or_relocated hs.frames_ne_nil with ⟨f, hf⟩ | ⟨f, g, tail, hf⟩
  · rw [Slot.sequence_of_single hf, Slot.head_of_single self layout offset hf,
      slotFramesFrom, hf]
    rw [List.length_nil, Nat.zero_mul, Nat.add_zero]
    cases slotFramesFrom self layout (slot + 1) offset rest <;> rfl
  · have hrel := Slot.isRelocated_of_cons_cons hf
    have hle := hs.length_le
    have hpos : 0 < (f :: g :: tail).length * layout.size :=
      Nat.mul_pos (Nat.succ_pos _) layout.size_pos
    rw [Slot.sequence_of_relocated hrel] at hsize ⊢
    -- neither conversion fails: `hpos` keeps the offset below the end of the sequence, `hle`
    -- bounds the count
    rw [Slot.head_of_relocated self layout offset hrel, slotFramesFrom, hf]
    rw [hf] at hsize hle
    simp only
    rw [if_neg (by omega), if_neg (by omega)]
    cases slotFramesFrom self layout (slot + 1)
      (offset + (f :: g :: tail).length * layout.size) rest <;> rfl

/-- The pass succeeds, with the closed form of the running offset for every slot. -/
theorem slotFramesFrom_eq_ok {slots : List Slot} (hv : ∀ s ∈ slots, s.IsValid layout)
    (hsize : offset + relocatedCount slots * layout.size ≤ addressSpace) :
    slotFramesFrom self layout slot offset slots
      = .ok (slots.mapIdx fun k s =>
        s.head self layout (offset + relocatedCount (slots.take k) * layout.size)) := by
  induction slots generalizing slot offset with
  | nil => rfl
  | cons s rest ih =>
    have hs := hv s List.mem_cons_self
    have hrest : ∀ r ∈ rest, r.IsValid layout := fun r hr => hv r (List.mem_cons_of_mem s hr)
    -- the rest starts behind the sequence of `s`, which the counts of all later slots then
    -- include
    rw [relocatedCount_cons, Nat.add_mul, ← Nat.add_assoc] at hsize
    rw [slotFramesFrom_cons hs (by omega), ih hrest hsize, List.mapIdx_cons]
    simp only [List.take_zero, relocatedCount_nil, List.take_succ_cons, relocatedCount_cons,
      Nat.zero_mul, Nat.add_zero, Nat.add_mul, Nat.add_assoc]
    rfl

end Pass

/-! ### Sequences to look for -/

theorem relocationsFrom_cons {size slot offset : Nat} {s : Slot} {rest : List Slot}
    (h : s.frames ≠ []) :
    relocationsFrom size slot offset (s :: rest)
      = (if s.isRelocated then [⟨slot, offset, s.frames.length⟩] else [])
        ++ relocationsFrom size (slot + 1) (offset + s.sequence.length * size) rest := by
  rcases Slot.single_or_relocated h with ⟨f, hs⟩ | ⟨f, g, tail, hs⟩
  · rw [Slot.sequence_of_single hs, Slot.not_isRelocated_of_single hs, relocationsFrom, hs,
      List.length_nil, Nat.zero_mul, Nat.add_zero]
    rfl
  · have hrel := Slot.isRelocated_of_cons_cons hs
    rw [Slot.sequence_of_relocated hrel, if_pos hrel, relocationsFrom, hs]
    rfl

/-- Every sequence belongs to a relocated slot and is at the closed form of its offset. -/
theorem mem_relocationsFrom {size slot offset : Nat} {slots : List Slot} {r : Relocation}
    (hne : ∀ s ∈ slots, s.frames ≠ []) (hr : r ∈ relocationsFrom size slot offset slots) :
    ∃ k s, slots[k]? = some s ∧ s.isRelocated = true ∧
      r = ⟨slot + k, offset + relocatedCount (slots.take k) * size, s.frames.length⟩ := by
  induction slots generalizing slot offset with
  | nil => exact absurd hr List.not_mem_nil
  | cons s rest ih =>
    rw [relocationsFrom_cons (hne s List.mem_cons_self), List.mem_append] at hr
    rcases hr with hr | hr
    · split_ifs at hr with hrel
      · refine ⟨0, s, rfl, hrel, ?_⟩
        rw [List.mem_singleton.mp hr, List.take_zero, relocatedCount_nil, Nat.zero_mul,
          Nat.add_zero, Nat.add_zero]
      · exact absurd hr List.not_mem_nil
    · obtain ⟨k, s', hk, hrel, rfl⟩ := ih (fun r hr => hne r (List.mem_cons_of_mem s hr)) hr
      refine ⟨k + 1, s', by rw [List.getElem?_cons_succ, hk], hrel, ?_⟩
      have hslot : slot + 1 + k = slot + (k + 1) := by omega
      rw [List.take_succ_cons, relocatedCount_cons, Nat.add_mul, hslot, Nat.add_assoc offset]

end EepromImage
