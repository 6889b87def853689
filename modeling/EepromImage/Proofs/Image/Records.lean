/-
The records of a laid-out image, as a list and as the firmware reads them.

Records follow one another from address 0 on, those of the slots first, then the sequences:

* `frameAt_index` — at the index of a record times the frame size the firmware reads the
  record's frame;
* `readsBack_allocate` — in the slot zone it finds every single frame, or a container from
  which the offset and the count lead to the slot's sequence, frame by frame as declared;
* `IsTiled.extended_eq`, `IsTiled.recordAt?_eq_some_iff` — the records behind the slot zone
  are those of the extended zone, and the one at an address is the one that says so;
* `sequencePlacements_split` — a slot's sequence stands between those of the slots in front of
  it and those of the slots behind it;
* `laidOutAs_allocate` — what the checks, the artifacts and the reports take for granted of a
  compiled image.
-/
import EepromImage.Proofs.Image.Allocation

namespace EepromImage

/-! ### Reading back -/

/-- The frame that the content of the EEPROM holds at an address. -/
def frameAt (layout : FrameLayout) (bytes : List UInt8) (address : Nat) :
    Except FrameError Frame :=
  Frame.decode layout ((bytes.drop address).take layout.size)

/-- The frame at an address is a container, sent by the module to itself, for `count` frames
in EEPROM from `offset` on. -/
def HoldsContainer (layout : FrameLayout) (bytes : List UInt8) (address : Nat) (self : UInt8)
    (offset count : Nat) : Prop :=
  ∃ f relay, frameAt layout bytes address = .ok f ∧ f.dest = self ∧ f.orig = self ∧
    f.transaction = none ∧
    f.relay? = some relay ∧ relay.storage = Storage.eeprom ∧ relay.offset.toNat = offset ∧
    relay.count.toNat = count

/-- The content of the EEPROM is what the table declares. -/
structure SlotTable.ReadsBack (t : SlotTable) (bytes : List UInt8) : Prop where
  length_slots : t.slots.length = t.config.slotCount
  length_bytes : bytes.length = t.layout.size * (t.config.slotCount + relocatedCount t.slots)
  /-- A single frame stands in the slot zone. -/
  single : ∀ k s f, t.slots[k]? = some s → s.frames = [f] →
    frameAt t.layout bytes (k * t.layout.size) = .ok f
  /-- Otherwise a container stands there, behind the sequences of all slots in front. -/
  container : ∀ k s, t.slots[k]? = some s → s.frames.length ≠ 1 →
    HoldsContainer t.layout bytes (k * t.layout.size) t.config.selfAddr
      (t.layout.size * (t.config.slotCount + relocatedCount (t.slots.take k))) s.frames.length
  /-- Where the container relays to, the frames follow one another as declared. -/
  sequence : ∀ k s j f, t.slots[k]? = some s → s.frames.length ≠ 1 → s.frames[j]? = some f →
    frameAt t.layout bytes
      (t.layout.size * (t.config.slotCount + relocatedCount (t.slots.take k))
        + j * t.layout.size) = .ok f

theorem Image.IsTiled.frameAt_index {image : Image} (h : image.IsTiled) {i : Nat} {r : Record}
    (hr : image.records[i]? = some r) :
    frameAt image.layout image.bytes (i * image.layout.size) = .ok r.frame := by
  have hblock : (image.bytes.drop (i * image.layout.size)).take image.layout.size = r.bytes :=
    take_drop_flatMap_of_length_eq (fun _ hr' => h.length_bytes_of_mem hr') hr
  rw [frameAt, hblock]
  exact h.decode_of_mem (List.mem_of_getElem? hr)

namespace SlotTable

variable {t : SlotTable}

theorem frameAt_slot (hv : t.IsValid) {k : Nat} {s : Slot} (hk : t.slots[k]? = some s) :
    frameAt t.layout t.layOut.bytes (k * t.layout.size) = .ok (t.headAt k s) :=
  (layOut_isTiled hv).frameAt_index (layOut_records_slot hk)

theorem frameAt_sequence (hv : t.IsValid) {k j : Nat} {s : Slot} {f : Frame}
    (hk : t.slots[k]? = some s) (hj : s.sequence[j]? = some f) :
    frameAt t.layout t.layOut.bytes
      (t.layout.size * (t.config.slotCount + relocatedCount (t.slots.take k))
        + j * t.layout.size) = .ok f := by
  have hread := (layOut_isTiled hv).frameAt_index (layOut_records_sequence hv hk hj)
  rwa [Nat.add_mul, Nat.mul_comm (_ + _)] at hread

/-- What the firmware reads back is what was declared. -/
theorem readsBack_allocate {image : Image} (h : t.allocate = .ok image) :
    t.ReadsBack image.bytes := by
  obtain ⟨hv, hsize, rfl⟩ := allocate_eq_ok_iff.mp h
  have hspace : t.imageSize ≤ addressSpace := Nat.le_trans hsize t.sizeLimit_le
  constructor
  case length_slots => exact hv.length_slots
  case length_bytes =>
    rw [(layOut_isTiled hv).length_bytes, byteLength_layOut hv, imageSize_eq, Nat.mul_comm]
  case single =>
    intro k s f hk hf
    rw [frameAt_slot hv hk, headAt, Slot.head_of_single _ _ _ hf]
  case container =>
    intro k s hk hlen
    have hrel := isRelocated_of_length_ne_one hv hk hlen
    obtain ⟨relay, hrelay, hoffset, hcount, hstorage⟩ := headAt_relay hv hspace hk hrel
    rw [sequenceStart, Nat.mul_comm] at hoffset
    refine ⟨t.headAt k s, relay, frameAt_slot hv hk, ?_, ?_, ?_, hrelay, hstorage,
      hoffset, hcount⟩
    all_goals rw [headAt, Slot.head_of_relocated _ _ _ hrel]
    · exact Frame.container_dest _ _ _ _
    · exact Frame.container_orig _ _ _ _
    · exact Frame.container_transaction _ _ _ _
  case sequence =>
    intro k s j f hk hlen hj
    rw [← Slot.sequence_of_relocated (isRelocated_of_length_ne_one hv hk hlen)] at hj
    exact frameAt_sequence hv hk hj

/-- The container of the last slot stands at 16 and relays behind the three frames of the
first slot. -/
theorem readsBack_mixedTable :
    mixedTable.allocate = .ok mixedTable.layOut ∧
    HoldsContainer mixedTable.layout mixedTable.layOut.bytes 16 0x21 48 2 :=
  ⟨allocate_mixedTable, (readsBack_allocate allocate_mixedTable).container 2 _ rfl
    (by decide)⟩

end SlotTable

/-! ### The list of records -/

/-- The image holds the table's frames, each in a record at its place. -/
structure SlotTable.LaidOutAs (t : SlotTable) (image : Image) : Prop where
  layout_eq : image.layout = t.layout
  slotCount_eq : image.slotCount = t.config.slotCount
  record : ∀ i r, image.records[i]? = some r →
    r.address = i * image.layout.size ∧ r.bytes.length = image.layout.size ∧
      Frame.decode image.layout r.bytes = .ok r.frame ∧
      (i < image.slotCount → r.zone = .slot ∧ r.slot = i) ∧
        (image.slotCount ≤ i → r.zone = .extended)
  extended_eq : image.extended = image.records.filter fun r => r.zone = .extended
  slots_ascend : (image.extended.map Record.slot).Pairwise (· ≤ ·)
  /-- A slot with more than one frame has one run of records, frame by frame as declared. -/
  run : ∀ k s, t.slots[k]? = some s → 1 < s.frames.length →
    ∃ front run behind, image.extended = front ++ run ++ behind ∧
      run.map Record.frame = s.frames ∧
      (∀ r ∈ run, r.slot = k) ∧ ∀ r ∈ front ++ behind, r.slot ≠ k
  /-- No other slot has a record there. -/
  owner : ∀ r ∈ image.extended, ∃ s, t.slots[r.slot]? = some s ∧ 1 < s.frames.length
  byteLength_eq : image.byteLength = image.bytes.length
  recordAt?_eq_some_iff : ∀ address r, image.recordAt? address = some r ↔ r ∈ image.records ∧
    r.address = address

/-! ### Zones and addresses -/

namespace Image.IsTiled

variable {image : Image}

theorem extended_eq (h : image.IsTiled) :
    image.extended = image.records.filter fun r => r.zone = .extended := by
  have hslot : (image.records.take image.slotCount).filter (fun r => r.zone = .extended)
      = [] := by
    rw [List.filter_eq_nil_iff]
    intro r hr
    obtain ⟨i, hi⟩ := List.mem_iff_getElem?.mp hr
    rw [List.getElem?_take] at hi
    split_ifs at hi with hlt
    simp [(h i r hi).zone_eq, Zone.ofIndex, hlt]
  have hextended : (image.records.drop image.slotCount).filter (fun r => r.zone = .extended)
      = image.records.drop image.slotCount := by
    rw [List.filter_eq_self]
    intro r hr
    obtain ⟨i, hi⟩ := List.mem_iff_getElem?.mp hr
    rw [List.getElem?_drop] at hi
    simp [(h _ r hi).zone_eq, Zone.ofIndex]
  rw [extended]
  conv_rhs => rw [← List.take_append_drop image.slotCount image.records]
  rw [List.filter_append, hslot, hextended, List.nil_append]

/-- Addresses are distinct, so that an address leads to at most one record, and to the one
that has it. -/
theorem recordAt?_eq_some_iff (h : image.IsTiled) {address : Nat} {r : Record} :
    image.recordAt? address = some r ↔ r ∈ image.records ∧ r.address = address := by
  have hpos := image.layout.size_pos
  unfold recordAt?
  constructor
  · intro hr
    split_ifs at hr with haligned
    refine ⟨List.mem_of_getElem? hr, ?_⟩
    rw [(h _ r hr).address_eq]
    exact Nat.div_mul_cancel (Nat.dvd_of_mod_eq_zero (not_not.mp haligned))
  · rintro ⟨hr, rfl⟩
    obtain ⟨i, hi⟩ := List.mem_iff_getElem?.mp hr
    rw [(h i r hi).address_eq, Nat.mul_mod_left, Nat.mul_div_cancel i hpos,
      if_neg (not_not.mpr rfl)]
    exact hi

end Image.IsTiled

/-! ### Sequences -/

@[simp] theorem Placement.slot_laid (layout : FrameLayout) (index : Nat) (p : Placement) :
    (p.laid layout index).slot = p.slot := rfl

namespace SlotTable

variable {t : SlotTable}

theorem slot_of_mem_sequenceBlock {x : Slot × Nat} {p : Placement} (h : p ∈ sequenceBlock x) :
    p.slot = x.2 := by
  obtain ⟨_, -, rfl⟩ := List.mem_map.mp h
  rfl

theorem map_frame_sequenceBlock (s : Slot) (k : Nat) :
    (sequenceBlock (s, k)).map Placement.frame = s.sequence := by
  rw [sequenceBlock, List.map_map]
  exact List.zipIdx_map_fst 0 s.sequence

/-- The sequences in front of a slot's and behind it are those of the slots in front and
behind. -/
theorem sequencePlacements_split {k : Nat} {s : Slot} (hk : t.slots[k]? = some s) :
    t.sequencePlacements = (t.slots.take k).zipIdx.flatMap sequenceBlock
      ++ (sequenceBlock (s, k)
        ++ ((t.slots.drop (k + 1)).zipIdx (k + 1)).flatMap sequenceBlock) := by
  have hlt : k < t.slots.length := (List.getElem?_eq_some_iff.mp hk).choose
  rw [sequencePlacements_eq]
  conv_lhs => rw [eq_take_append_cons_drop hk]
  rw [List.zipIdx_append, List.flatMap_append, List.zipIdx_cons, List.flatMap_cons,
    Nat.zero_add, List.length_take_of_le (Nat.le_of_lt hlt)]

theorem extended_layOut (hv : t.IsValid) :
    t.layOut.extended = t.sequencePlacements.mapIdx
      fun i => Placement.laid t.layout (i + t.config.slotCount) := by
  have hlen : t.headPlacements.length = t.config.slotCount :=
    length_headPlacements.trans hv.length_slots
  show ((t.headPlacements ++ t.sequencePlacements).mapIdx (Placement.laid t.layout)).drop
      t.config.slotCount = _
  rw [List.mapIdx_append, hlen]
  exact List.drop_left' (by rw [List.length_mapIdx, hlen])

theorem map_slot_extended_layOut (hv : t.IsValid) :
    t.layOut.extended.map Record.slot = t.sequencePlacements.map Placement.slot := by
  rw [extended_layOut hv]
  refine map_mapIdx ?_ _
  intro i p
  rfl

theorem pairwise_slot_sequencePlacements :
    (t.sequencePlacements.map Placement.slot).Pairwise (· ≤ ·) := by
  rw [List.pairwise_map, sequencePlacements_eq, List.pairwise_flatMap]
  constructor
  · intro x _
    refine List.pairwise_of_forall_mem_list fun p hp q hq => Nat.le_of_eq ?_
    rw [slot_of_mem_sequenceBlock hp, slot_of_mem_sequenceBlock hq]
  · refine (pairwise_snd_zipIdx t.slots).imp fun hlt p hp q hq => ?_
    rw [slot_of_mem_sequenceBlock hp, slot_of_mem_sequenceBlock hq]
    exact Nat.le_of_lt hlt

theorem exists_of_mem_sequencePlacements {p : Placement} (h : p ∈ t.sequencePlacements) :
    ∃ s, t.slots[p.slot]? = some s ∧ s.isRelocated = true := by
  rw [sequencePlacements_eq, List.mem_flatMap] at h
  obtain ⟨⟨s, k⟩, hs, hp⟩ := h
  rw [slot_of_mem_sequenceBlock hp]
  refine ⟨s, List.mem_zipIdx_iff_getElem?.mp hs, ?_⟩
  by_contra hrel
  -- a slot that is not relocated has no sequence
  have hnil : s.sequence = [] := by
    rw [← List.length_eq_zero_iff, Slot.length_sequence, if_neg hrel]
  rw [sequenceBlock, hnil] at hp
  cases hp

/-- The records of a relocated slot are one run: those of other slots are in front of it or
behind it. -/
theorem exists_run_layOut (hv : t.IsValid) {k : Nat} {s : Slot} (hk : t.slots[k]? = some s)
    (hrel : s.isRelocated = true) :
    ∃ front run behind, t.layOut.extended = front ++ run ++ behind ∧
      run.map Record.frame = s.frames ∧
      (∀ r ∈ run, r.slot = k) ∧ (∀ r ∈ front, r.slot < k) ∧ ∀ r ∈ behind, k < r.slot := by
  rw [extended_layOut hv, sequencePlacements_split hk, List.mapIdx_append, List.mapIdx_append,
    ← List.append_assoc]
  refine ⟨_, _, _, rfl, ?_, ?_, ?_, ?_⟩
  · rw [← Slot.sequence_of_relocated hrel, ← map_frame_sequenceBlock s k]
    refine map_mapIdx ?_ _
    intro i p
    rfl
  · intro r hr
    obtain ⟨i, hi, rfl⟩ := List.mem_mapIdx.mp hr
    exact slot_of_mem_sequenceBlock (List.getElem_mem hi)
  · intro r hr
    obtain ⟨i, hi, rfl⟩ := List.mem_mapIdx.mp hr
    obtain ⟨x, hx, hp⟩ := List.mem_flatMap.mp (List.getElem_mem hi)
    have hlt := List.snd_lt_of_mem_zipIdx hx
    rw [List.length_take] at hlt
    rw [Placement.slot_laid, slot_of_mem_sequenceBlock hp]
    omega
  · intro r hr
    obtain ⟨i, hi, rfl⟩ := List.mem_mapIdx.mp hr
    obtain ⟨x, hx, hp⟩ := List.mem_flatMap.mp (List.getElem_mem hi)
    have hle := List.le_snd_of_mem_zipIdx hx
    rw [Placement.slot_laid, slot_of_mem_sequenceBlock hp]
    omega

/-- The list of records of a compiled image. -/
theorem laidOutAs_allocate {image : Image} (h : t.allocate = .ok image) :
    t.LaidOutAs image := by
  obtain ⟨hv, -, rfl⟩ := allocate_eq_ok_iff.mp h
  have htiled := layOut_isTiled hv
  constructor
  case layout_eq => rfl
  case slotCount_eq => rfl
  case record =>
    intro i r hr
    have hplace := htiled i r hr
    have hmem := List.mem_of_getElem? hr
    refine ⟨hplace.address_eq, htiled.length_bytes_of_mem hmem,
      htiled.decode_of_mem hmem, ?_, ?_⟩
    · intro hi
      have hi' : i < t.slots.length := hv.length_slots ▸ hi
      rw [layOut_records_slot (List.getElem?_eq_getElem hi'), Option.some_inj] at hr
      subst hr
      exact ⟨rfl, rfl⟩
    · intro hi
      rw [hplace.zone_eq, Zone.ofIndex, if_neg (Nat.not_lt.mpr hi)]
  case extended_eq => exact htiled.extended_eq
  case slots_ascend =>
    rw [map_slot_extended_layOut hv]
    exact pairwise_slot_sequencePlacements
  case run =>
    intro k s hk hlen
    obtain ⟨front, run, behind, hextended, hframes, hrun, hfront, hbehind⟩ :=
      exists_run_layOut hv hk (Slot.isRelocated_iff.mpr hlen)
    refine ⟨front, run, behind, hextended, hframes, hrun, ?_⟩
    intro r hr
    rcases List.mem_append.mp hr with hr | hr
    · exact Nat.ne_of_lt (hfront r hr)
    · exact Nat.ne_of_gt (hbehind r hr)
  case owner =>
    intro r hr
    have hslot := List.mem_map_of_mem hr (f := Record.slot)
    rw [map_slot_extended_layOut hv] at hslot
    obtain ⟨p, hp, heq⟩ := List.mem_map.mp hslot
    obtain ⟨s, hs, hrel⟩ := exists_of_mem_sequencePlacements hp
    exact ⟨s, heq ▸ hs, Slot.isRelocated_iff.mp hrel⟩
  case byteLength_eq => exact htiled.length_bytes.symm
  case recordAt?_eq_some_iff => exact fun address r => htiled.recordAt?_eq_some_iff

/-- The first and the last slot own all records of the extended zone. -/
theorem laidOutAs_mixedTable :
    mixedTable.allocate = .ok mixedTable.layOut ∧ mixedTable.LaidOutAs mixedTable.layOut ∧
      mixedTable.layOut.extended.map Record.slot = [0, 0, 0, 2, 2] :=
  ⟨allocate_mixedTable, laidOutAs_allocate allocate_mixedTable, by decide⟩

end SlotTable

end EepromImage
