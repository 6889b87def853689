/-
The records of a laid-out image.

`SlotTable.layOut` is the image of a table in closed form: for every slot its frame in the
slot zone, behind them the sequences in slot order, each record at its index times the frame
size.

* `recordsOf_eq_ok` — this is what the allocator writes when every frame has a record;
* `layOut_records_slot`, `layOut_records_sequence` — the records of a slot, by their index;
* `layOut_isTiled` — every record of the image is where, in the zone, and of the bytes that
  its index and its frame say.
-/
import EepromImage.Proofs.Blocks
import EepromImage.Proofs.Image.Offsets

namespace EepromImage

/-! ### Records at their place -/

/-- The record with an index: address and zone follow from the index, the bytes from the
frame. -/
structure Record.IsAt (image : Image) (index : Nat) (r : Record) : Prop where
  address_eq : r.address = index * image.layout.size
  zone_eq : r.zone = Zone.ofIndex image.slotCount index
  isEncodable : r.frame.IsEncodable image.layout
  bytes_eq : r.bytes = r.frame.recordBytes image.layout

/-- Every record of the image is at its place. -/
def Image.IsTiled (image : Image) : Prop :=
  ∀ (i : Nat) (r : Record), image.records[i]? = some r → r.IsAt image i

namespace Image

variable {image : Image} {r : Record}

theorem IsTiled.isAt_of_mem (h : image.IsTiled) (hr : r ∈ image.records) :
    ∃ i, r.IsAt image i := by
  obtain ⟨i, hi⟩ := List.mem_iff_getElem?.mp hr
  exact ⟨i, h i r hi⟩

theorem IsTiled.length_bytes_of_mem (h : image.IsTiled) (hr : r ∈ image.records) :
    r.bytes.length = image.layout.size := by
  obtain ⟨i, hi⟩ := h.isAt_of_mem hr
  rw [hi.bytes_eq]
  exact Frame.length_recordBytes hi.isEncodable

/-- The bytes of a record are read as its frame. -/
theorem IsTiled.decode_of_mem (h : image.IsTiled) (hr : r ∈ image.records) :
    Frame.decode image.layout r.bytes = .ok r.frame := by
  obtain ⟨i, hi⟩ := h.isAt_of_mem hr
  rw [hi.bytes_eq]
  exact Frame.decode_recordBytes hi.isEncodable

theorem IsTiled.length_bytes (h : image.IsTiled) : image.bytes.length = image.byteLength :=
  length_flatMap_of_length_eq fun _ hr => h.length_bytes_of_mem hr

end Image

/-! ### The image in closed form -/

/-- The record of a placement whose frame has one. -/
def Placement.laid (layout : FrameLayout) (index : Nat) (p : Placement) : Record :=
  ⟨index * layout.size, p.zone, p.slot, p.frame, p.frame.recordBytes layout⟩

/-- The placements of a slot's sequence. -/
def sequenceBlock (slot : Slot × Nat) : List Placement :=
  slot.1.sequence.zipIdx.map fun (f, j) => ⟨.extended, slot.2, j, f⟩

namespace SlotTable

/-- The frame in the slot zone for slot `k`. -/
def headAt (t : SlotTable) (k : Nat) (s : Slot) : Frame :=
  s.head t.config.selfAddr t.layout (t.sequenceStart k)

/-- The frames of the slot zone with their places. -/
def headPlacements (t : SlotTable) : List Placement :=
  t.slots.mapIdx fun k s => ⟨.slot, k, 0, t.headAt k s⟩

/-- All frames of the image with their places. -/
def placements (t : SlotTable) : List Placement :=
  t.headPlacements ++ t.sequencePlacements

/-- The image of a table whose frames have records. -/
def layOut (t : SlotTable) : Image :=
  ⟨t.config.name, t.config.slotCount, t.layout, t.slots.map Slot.name,
    t.placements.mapIdx (Placement.laid t.layout)⟩

end SlotTable

theorem recordsOf_eq_ok {layout : FrameLayout} {ps : List Placement}
    (h : ∀ p ∈ ps, p.frame.IsEncodable layout) :
    recordsOf layout ps = .ok (ps.mapIdx (Placement.laid layout)) := by
  rw [recordsOf, List.mapIdx_eq_zipIdx_map]
  refine mapM_eq_ok fun ⟨p, i⟩ hp => ?_
  have henc := h p (List.fst_mem_of_mem_zipIdx hp)
  show p.record layout i = .ok (p.laid layout i)
  rw [Placement.record, Frame.encode_of_isEncodable henc]
  rfl

namespace SlotTable

variable {t : SlotTable}

/-! ### Placements -/

theorem length_headPlacements : t.headPlacements.length = t.slots.length :=
  List.length_mapIdx

theorem getElem?_headPlacements {k : Nat} {s : Slot} (h : t.slots[k]? = some s) :
    t.headPlacements[k]? = some ⟨.slot, k, 0, t.headAt k s⟩ := by
  rw [headPlacements, List.getElem?_mapIdx, h]
  rfl

theorem sequencePlacements_eq :
    t.sequencePlacements = t.slots.zipIdx.flatMap sequenceBlock := rfl

theorem length_sequenceBlock (s : Slot) (k : Nat) :
    (sequenceBlock (s, k)).length = s.sequence.length := by
  rw [sequenceBlock, List.length_map, List.length_zipIdx]

theorem getElem?_map_sequenceBlock (slots : List Slot) (k : Nat) :
    (slots.zipIdx.map sequenceBlock)[k]? = slots[k]?.map fun s => sequenceBlock (s, k) := by
  rw [List.getElem?_map, List.getElem?_zipIdx, Nat.zero_add, Option.map_map]
  rfl

/-- The placements of sequences are as many as the frames of the slots. -/
theorem length_flatMap_sequenceBlock (slots : List (Slot × Nat)) :
    (slots.flatMap sequenceBlock).length = relocatedCount (slots.map Prod.fst) := by
  rw [← length_flatMap_sequence, List.length_flatMap, List.length_flatMap, List.map_map]
  exact congrArg List.sum (List.map_congr_left fun slot _ =>
    length_sequenceBlock slot.1 slot.2)

theorem length_sequencePlacements : t.sequencePlacements.length = relocatedCount t.slots := by
  rw [sequencePlacements_eq, length_flatMap_sequenceBlock, List.zipIdx_map_fst]

/-- The sequence of slot `k` stands behind the sequences of the slots in front of it. -/
theorem getElem?_sequencePlacements {k j : Nat} {s : Slot} {f : Frame}
    (hk : t.slots[k]? = some s) (hj : s.sequence[j]? = some f) :
    t.sequencePlacements[relocatedCount (t.slots.take k) + j]?
      = some ⟨.extended, k, j, f⟩ := by
  have hzip : t.slots.zipIdx[k]? = some (s, k) := by
    rw [List.getElem?_zipIdx, hk, Nat.zero_add]
    rfl
  have hfront : ((t.slots.zipIdx.take k).flatMap sequenceBlock).length
      = relocatedCount (t.slots.take k) := by
    rw [length_flatMap_sequenceBlock, List.map_take, List.zipIdx_map_fst]
  -- the block of slot `k` starts at `hfront`; entry `j` of the block is entry `hfront + j` of
  -- the whole
  have hblock := take_drop_flatMap sequenceBlock hzip
  have hentry : (sequenceBlock (s, k))[j]? = some ⟨.extended, k, j, f⟩ := by
    rw [sequenceBlock, List.getElem?_map, List.getElem?_zipIdx, hj, Nat.zero_add]
    rfl
  have hlt : j < (sequenceBlock (s, k)).length := (List.getElem?_eq_some_iff.mp hentry).choose
  rw [← hblock, List.getElem?_take_of_lt hlt, List.getElem?_drop, hfront] at hentry
  exact hentry

theorem mem_sequencePlacements {p : Placement} (h : p ∈ t.sequencePlacements) :
    p.zone = .extended ∧ ∃ s, s ∈ t.slots ∧ p.frame ∈ s.frames := by
  rw [sequencePlacements_eq, List.mem_flatMap] at h
  obtain ⟨⟨s, k⟩, hs, hp⟩ := h
  obtain ⟨⟨f, j⟩, hf, rfl⟩ := List.mem_map.mp hp
  exact ⟨rfl, s, List.fst_mem_of_mem_zipIdx hs,
    Slot.mem_frames_of_mem_sequence (List.fst_mem_of_mem_zipIdx hf)⟩

/-- A slot of a valid table with other than one frame is relocated. -/
theorem isRelocated_of_length_ne_one (hv : t.IsValid) {k : Nat} {s : Slot}
    (hk : t.slots[k]? = some s) (hlen : s.frames.length ≠ 1) : s.isRelocated = true := by
  have hpos :=
    List.length_pos_iff.mpr (hv.slots_valid s (List.mem_of_getElem? hk)).frames_ne_nil
  exact Slot.isRelocated_iff.mpr (by omega)

theorem headAt_isEncodable (hv : t.IsValid) {k : Nat} {s : Slot} (h : t.slots[k]? = some s) :
    (t.headAt k s).IsEncodable t.layout := by
  have hs := hv.slots_valid s (List.mem_of_getElem? h)
  rcases Slot.single_or_relocated hs.frames_ne_nil with ⟨f, hf⟩ | ⟨f, g, rest, hf⟩
  · rw [headAt, Slot.head_of_single _ _ _ hf]
    exact (hs.frames_valid f (by rw [hf]; exact List.mem_singleton_self f)).isEncodable
  · rw [headAt, Slot.head_of_relocated _ _ _ (Slot.isRelocated_of_cons_cons hf)]
    exact Frame.container_isEncodable _ _ _ _

theorem placements_isEncodable (hv : t.IsValid) {p : Placement} (h : p ∈ t.placements) :
    p.frame.IsEncodable t.layout := by
  rcases List.mem_append.mp h with h | h
  · obtain ⟨k, hk, rfl⟩ := List.mem_mapIdx.mp h
    exact headAt_isEncodable hv (List.getElem?_eq_getElem hk)
  · obtain ⟨-, s, hs, hp⟩ := mem_sequencePlacements h
    exact ((hv.slots_valid s hs).frames_valid p.frame hp).isEncodable

/-! ### Records -/

theorem length_layOut_records (hv : t.IsValid) :
    t.layOut.records.length = t.config.slotCount + relocatedCount t.slots := by
  rw [layOut, List.length_mapIdx, placements, List.length_append, length_headPlacements,
    length_sequencePlacements, hv.length_slots]

/-- The record with the number of a slot holds the slot's only frame, or its container. -/
theorem layOut_records_slot {k : Nat} {s : Slot} (h : t.slots[k]? = some s) :
    t.layOut.records[k]? = some (Placement.laid t.layout k ⟨.slot, k, 0, t.headAt k s⟩) := by
  have hk : k < t.headPlacements.length :=
    length_headPlacements ▸ (List.getElem?_eq_some_iff.mp h).choose
  rw [layOut, List.getElem?_mapIdx, placements, List.getElem?_append_left hk,
    getElem?_headPlacements h]
  rfl

/-- The frames of a relocated slot are the records from the slot's offset on. -/
theorem layOut_records_sequence (hv : t.IsValid) {k j : Nat} {s : Slot} {f : Frame}
    (hk : t.slots[k]? = some s) (hj : s.sequence[j]? = some f) :
    t.layOut.records[t.config.slotCount + relocatedCount (t.slots.take k) + j]?
      = some (Placement.laid t.layout
        (t.config.slotCount + relocatedCount (t.slots.take k) + j)
        ⟨.extended, k, j, f⟩) := by
  have hlen : t.headPlacements.length = t.config.slotCount :=
    length_headPlacements.trans hv.length_slots
  have hle : t.headPlacements.length
      ≤ t.config.slotCount + relocatedCount (t.slots.take k) + j := by omega
  have hsub : t.config.slotCount + relocatedCount (t.slots.take k) + j
      - t.headPlacements.length = relocatedCount (t.slots.take k) + j := by omega
  rw [layOut, List.getElem?_mapIdx, placements, List.getElem?_append_right hle, hsub,
    getElem?_sequencePlacements hk hj]
  rfl

theorem placements_zone (hv : t.IsValid) {i : Nat} {p : Placement}
    (h : t.placements[i]? = some p) :
    p.zone = Zone.ofIndex t.config.slotCount i := by
  have hlen : t.headPlacements.length = t.config.slotCount :=
    length_headPlacements.trans hv.length_slots
  rw [placements] at h
  by_cases hi : i < t.config.slotCount
  · rw [List.getElem?_append_left (hlen ▸ hi), headPlacements, List.getElem?_mapIdx] at h
    obtain ⟨s, -, rfl⟩ := Option.map_eq_some_iff.mp h
    rw [Zone.ofIndex, if_pos hi]
  · rw [List.getElem?_append_right (by omega)] at h
    rw [Zone.ofIndex, if_neg hi]
    exact (mem_sequencePlacements (List.mem_of_getElem? h)).1

/-- Every record of a laid-out image is at its place. -/
theorem layOut_isTiled (hv : t.IsValid) : t.layOut.IsTiled := by
  intro i r hr
  rw [layOut, List.getElem?_mapIdx] at hr
  obtain ⟨p, hp, rfl⟩ := Option.map_eq_some_iff.mp hr
  exact ⟨rfl, placements_zone hv hp, placements_isEncodable hv (List.mem_of_getElem? hp), rfl⟩

end SlotTable
end EepromImage
