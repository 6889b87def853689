/-
When a table has an image.

A valid table whose image fits has the image `SlotTable.layOut`, and no other table has one:

* `hexRecords_eq_ok` — every image inside the address space has an Intel HEX file: no address
  is past 16 bits;
* `verify_layOut` — the checks on the finished image pass;
* `allocate_eq_ok_iff` — the allocator gives the closed form, exactly for valid tables that
  fit;
* `allocate_outcome` — every outcome of the allocator: the fault of the table, the size of the
  image, or the image, of which every artifact can be made.
-/
import EepromImage.Image.Artifact
import EepromImage.Proofs.Image.Layout

namespace EepromImage

/-! ### Intel HEX records -/

/-- The data record of an image record whose address has 16 bits. -/
def Record.dataRecord (r : Record) : HexRecord :=
  HexRecord.ofData (UInt16.ofNat r.address) r.bytes

namespace Image

variable {image : Image}

/-- The end-of-file record, if the options ask for one. -/
def endRecords (options : HexOptions) : List HexRecord :=
  if options.eofRecord then [HexRecord.endOfFile] else []

/-- A record starts before the image ends. -/
theorem IsTiled.address_lt (h : image.IsTiled) {i : Nat} {r : Record}
    (hr : image.records[i]? = some r) :
    r.address < image.byteLength := by
  have hi : i < image.records.length := (List.getElem?_eq_some_iff.mp hr).choose
  rw [(h i r hr).address_eq, byteLength]
  exact Nat.mul_lt_mul_of_pos_right hi image.layout.size_pos

theorem hexRecords_eq_ok (h : image.IsTiled) (hspace : image.byteLength ≤ addressSpace)
    (options : HexOptions) :
    image.hexRecords options
      = .ok (HexRecord.extendedAddress options.extendedAddress
        :: image.records.map Record.dataRecord
          ++ endRecords options) := by
  have hall : image.records.mapM Record.hexRecord
      = .ok (image.records.map Record.dataRecord) := by
    refine mapM_eq_ok fun r hr => ?_
    obtain ⟨i, hi⟩ := List.mem_iff_getElem?.mp hr
    exact if_pos (Nat.lt_of_lt_of_le (h.address_lt hi) hspace)
  rw [hexRecords, hall]
  rfl

theorem toNat_dataRecord_address (h : image.IsTiled)
    (hspace : image.byteLength ≤ addressSpace) {i : Nat} {r : Record}
    (hr : image.records[i]? = some r) :
    r.dataRecord.address.toNat = i * image.layout.size := by
  have hlt := Nat.lt_of_lt_of_le (h.address_lt hr) hspace
  rw [← (h i r hr).address_eq]
  exact UInt16.toNat_ofNat_of_lt' hlt

end Image

namespace SlotTable

variable {t : SlotTable}

/-! ### Sizes -/

theorem imageSize_eq (t : SlotTable) :
    t.imageSize = (t.config.slotCount + relocatedCount t.slots) * t.layout.size := by
  rw [imageSize, relocatedFrames_eq]

theorem sizeLimit_eq (t : SlotTable) :
    t.sizeLimit = min (t.config.eepromSize.getD addressSpace) addressSpace := by
  unfold sizeLimit
  cases t.config.eepromSize with
  | none => exact (Nat.min_self addressSpace).symm
  | some size => rfl

theorem sizeLimit_le (t : SlotTable) : t.sizeLimit ≤ addressSpace := by
  rw [sizeLimit_eq]
  exact Nat.min_le_right _ _

/-- The sequence of a slot ends inside the image. -/
theorem sequenceStart_add_le {k : Nat} {s : Slot} (h : t.slots[k]? = some s) :
    t.sequenceStart k + s.sequence.length * t.layout.size ≤ t.imageSize := by
  have hcount := relocatedCount_take_add_le h
  rw [sequenceStart, imageSize_eq, ← Nat.add_mul]
  exact Nat.mul_le_mul_right _ (by omega)

/-- The offset of a relocated slot has 16 bits. -/
theorem sequenceStart_lt (hspace : t.imageSize ≤ addressSpace) {k : Nat} {s : Slot}
    (hk : t.slots[k]? = some s) (hrel : s.isRelocated = true) :
    t.sequenceStart k < addressSpace := by
  have hend := sequenceStart_add_le hk
  have hlen := Slot.isRelocated_iff.mp hrel
  rw [Slot.sequence_of_relocated hrel] at hend
  -- a relocated sequence is not empty, so even an image that ends at 65536 leaves its start
  -- below
  have hpos : 0 < s.frames.length * t.layout.size := Nat.mul_pos (by omega) t.layout.size_pos
  omega

/-- A container relays to the offset and the count of the slot's sequence: neither conversion
loses anything. -/
theorem headAt_relay (hv : t.IsValid) (hspace : t.imageSize ≤ addressSpace) {k : Nat}
    {s : Slot} (hk : t.slots[k]? = some s) (hrel : s.isRelocated = true) :
    ∃ relay, (t.headAt k s).relay? = some relay ∧ relay.offset.toNat = t.sequenceStart k ∧
      relay.count.toNat = s.frames.length ∧ relay.storage = Storage.eeprom := by
  have hoffset := sequenceStart_lt hspace hk hrel
  have hcount := (hv.slots_valid s (List.mem_of_getElem? hk)).length_le
  simp only [addressSpace, maxSlotFrames] at hoffset hcount
  refine ⟨⟨UInt16.ofNat (t.sequenceStart k), UInt8.ofNat s.frames.length, Storage.eeprom⟩, ?_,
    ?_, ?_, rfl⟩
  · rw [headAt, Slot.head_of_relocated _ _ _ hrel, Frame.relay?_container]
  · exact UInt16.toNat_ofNat_of_lt' hoffset
  · exact UInt8.toNat_ofNat_of_lt' (Nat.lt_succ_of_le hcount)

/-! ### The checks on the finished image -/

/-- The records of a relocated slot are a slice of the image, and nothing is missing in it. -/
theorem layOut_records_slice (hv : t.IsValid) {k : Nat} {s : Slot}
    (hk : t.slots[k]? = some s) :
    (t.layOut.records.drop (t.config.slotCount + relocatedCount (t.slots.take k))).take
      s.sequence.length
      = s.sequence.mapIdx fun j f =>
          Placement.laid t.layout (t.config.slotCount + relocatedCount (t.slots.take k) + j)
            ⟨.extended, k, j, f⟩ := by
  apply List.ext_getElem?
  intro j
  rw [List.getElem?_mapIdx]
  cases hj : s.sequence[j]? with
  | none =>
    have hlen : s.sequence.length ≤ j := List.getElem?_eq_none_iff.mp hj
    rw [List.getElem?_take_eq_none hlen]
    rfl
  | some f =>
    have hlt : j < s.sequence.length := (List.getElem?_eq_some_iff.mp hj).choose
    rw [List.getElem?_take_of_lt hlt, List.getElem?_drop, layOut_records_sequence hv hk hj]
    rfl

theorem layOut_relaysTo (hv : t.IsValid) (hspace : t.imageSize ≤ addressSpace) {k : Nat}
    {s : Slot} (hk : t.slots[k]? = some s) (hrel : s.isRelocated = true) :
    t.layOut.relaysTo ⟨k, t.sequenceStart k, s.frames.length⟩ = true := by
  obtain ⟨relay, hrelay, hoffset, hcount, hstorage⟩ := headAt_relay hv hspace hk hrel
  have hfound : (t.layOut.records[k]?.bind fun record => record.frame.relay?)
      = some relay := by
    rw [layOut_records_slot hk]
    exact hrelay
  unfold Image.relaysTo
  simp only [hfound, hoffset, hcount, Relay.fromEeprom, hstorage, decide_true, Bool.and_true]

theorem layOut_holdsSequence (hv : t.IsValid) {k : Nat} {s : Slot} (hk : t.slots[k]? = some s)
    (hrel : s.isRelocated = true) :
    t.layOut.holdsSequence ⟨k, t.sequenceStart k, s.frames.length⟩ = true := by
  have hslice := layOut_records_slice hv hk
  have hindex : t.sequenceStart k / t.layout.size
      = t.config.slotCount + relocatedCount (t.slots.take k) :=
    Nat.mul_div_cancel _ t.layout.size_pos
  rw [Slot.sequence_of_relocated hrel, ← hindex] at hslice
  -- the slice is the slot's sequence, and so has its length, its slot and zone, and its first
  -- address
  have hall :
      ∀ r ∈ (t.layOut.records.drop (t.sequenceStart k / t.layout.size)).take s.frames.length,
      r.slot = k ∧ r.zone = .extended := by
    intro r hr
    rw [hslice] at hr
    obtain ⟨j, -, rfl⟩ := List.mem_mapIdx.mp hr
    exact ⟨rfl, rfl⟩
  have hlen : ((t.layOut.records.drop (t.sequenceStart k / t.layout.size)).take
      s.frames.length).length
      = s.frames.length := by
    rw [hslice, List.length_mapIdx]
  have hhead : ((t.layOut.records.drop (t.sequenceStart k / t.layout.size)).take
      s.frames.length).head?.map
      Record.address = some (t.sequenceStart k) := by
    obtain ⟨f, rest, hf⟩ :=
      List.exists_cons_of_length_pos (Nat.lt_of_succ_lt (Slot.isRelocated_iff.mp hrel))
    rw [hslice, hf, List.mapIdx_cons, List.head?_cons, hindex]
    rfl
  unfold Image.holdsSequence
  simp only [Bool.and_eq_true, decide_eq_true_eq, List.all_eq_true]
  exact ⟨⟨hlen, hall⟩, hhead⟩

end SlotTable

theorem Image.verify_eq_ok {image : Image} {rs : List Relocation}
    (h : ∀ r ∈ rs, image.relaysTo r = true ∧ image.holdsSequence r = true) :
    image.verify rs = .ok () := by
  induction rs with
  | nil => rfl
  | cons r rest ih =>
    obtain ⟨hrelay, hsequence⟩ := h r List.mem_cons_self
    rw [verify, hrelay, hsequence]
    exact ih fun r' hr' => h r' (List.mem_cons_of_mem r hr')

namespace SlotTable

variable {t : SlotTable}

/-- The sequences of a valid table are those of its relocated slots. -/
theorem mem_relocations (hv : t.IsValid) {r : Relocation} (hr : r ∈ t.relocations) :
    ∃ k s, t.slots[k]? = some s ∧ s.isRelocated = true ∧
      r = ⟨k, t.sequenceStart k, s.frames.length⟩ := by
  have hne : ∀ s ∈ t.slots, s.frames ≠ [] := fun s hs => (hv.slots_valid s hs).frames_ne_nil
  obtain ⟨k, s, hk, hrel, rfl⟩ := mem_relocationsFrom hne hr
  refine ⟨k, s, hk, hrel, ?_⟩
  rw [← Nat.add_mul, Nat.zero_add]
  rfl

/-- Every container leads to its sequence, so the checks on the finished image pass. -/
theorem verify_layOut (hv : t.IsValid) (hspace : t.imageSize ≤ addressSpace) :
    t.layOut.verify t.relocations = .ok () := by
  refine Image.verify_eq_ok fun r hr => ?_
  obtain ⟨k, s, hk, hrel, rfl⟩ := mem_relocations hv hr
  exact ⟨layOut_relaysTo hv hspace hk hrel, layOut_holdsSequence hv hk hrel⟩

/-- No offset and no count of a container is cut. -/
theorem relocations_fit (hv : t.IsValid) (hspace : t.imageSize ≤ addressSpace)
    {r : Relocation} (hr : r ∈ t.relocations) : r.offset < 65536 ∧ r.count ≤ 255 := by
  obtain ⟨k, s, hk, hrel, rfl⟩ := mem_relocations hv hr
  exact ⟨sequenceStart_lt hspace hk hrel,
    (hv.slots_valid s (List.mem_of_getElem? hk)).length_le⟩

/-! ### The allocator -/

theorem slotFrames_eq_ok (hv : t.IsValid) (hspace : t.imageSize ≤ addressSpace) :
    t.slotFrames = .ok (t.slots.mapIdx t.headAt) := by
  rw [imageSize_eq, Nat.add_mul] at hspace
  rw [slotFrames, slotFramesFrom_eq_ok hv.slots_valid hspace]
  simp only [← Nat.add_mul]
  rfl

theorem headPlacements_eq (t : SlotTable) :
    (t.slots.mapIdx t.headAt).zipIdx.map (fun (f, i) => (⟨.slot, i, 0, f⟩ : Placement))
      = t.headPlacements := by
  rw [← List.mapIdx_eq_zipIdx_map (f := fun i f => (⟨.slot, i, 0, f⟩ : Placement)),
    List.mapIdx_mapIdx]
  rfl

theorem allocate_of_isValid (hv : t.IsValid) (hsize : t.imageSize ≤ t.sizeLimit) :
    t.allocate = .ok t.layOut := by
  have hspace : t.imageSize ≤ addressSpace := Nat.le_trans hsize t.sizeLimit_le
  have hrecords : recordsOf t.layout t.placements = .ok t.layOut.records :=
    recordsOf_eq_ok fun p hp => placements_isEncodable hv hp
  -- the steps of the allocator one after another, each of them known to succeed
  rw [allocate, validate_eq_ok_iff.mpr hv, ok_bind, if_neg (Nat.not_lt.mpr hsize)]
  show (t.slotFrames >>= _) = _
  rw [slotFrames_eq_ok hv hspace, ok_bind]
  simp only
  rw [headPlacements_eq]
  show (recordsOf t.layout t.placements >>= _) = _
  rw [hrecords, ok_bind]
  show (t.layOut.verify t.relocations >>= _) = _
  rw [verify_layOut hv hspace]
  rfl

theorem allocate_of_fault {e : ImageError} (h : t.validate = .error e) :
    t.allocate = .error e := by
  rw [allocate, h]
  rfl

theorem allocate_of_too_large (h : t.validate = .ok ()) (hsize : t.sizeLimit < t.imageSize) :
    t.allocate = .error (.capacity t.imageSize t.sizeLimit) := by
  rw [allocate, h, ok_bind, if_pos hsize]
  rfl

/-- The allocator gives the closed form of the image, exactly for the valid tables that
fit. -/
theorem allocate_eq_ok_iff {image : Image} :
    t.allocate = .ok image ↔ t.IsValid ∧ t.imageSize ≤ t.sizeLimit ∧ image = t.layOut := by
  constructor
  · intro h
    cases hcheck : t.validate with
    | error e =>
      rw [allocate_of_fault hcheck] at h
      cases h
    | ok _ =>
      have hv := validate_eq_ok_iff.mp hcheck
      by_cases hsize : t.imageSize ≤ t.sizeLimit
      · rw [allocate_of_isValid hv hsize, Except.ok.injEq] at h
        exact ⟨hv, hsize, h.symm⟩
      · rw [allocate_of_too_large hcheck (Nat.lt_of_not_le hsize)] at h
        cases h
  · rintro ⟨hv, hsize, rfl⟩
    exact allocate_of_isValid hv hsize

theorem byteLength_layOut (hv : t.IsValid) : t.layOut.byteLength = t.imageSize := by
  rw [Image.byteLength, length_layOut_records hv, imageSize_eq]
  rfl

/-- Every artifact of a laid-out image can be made: no address of a record is past 16 bits. -/
theorem render_layOut (hv : t.IsValid) (hspace : t.imageSize ≤ addressSpace)
    (kind : ArtifactKind) (listing : ListingOptions) (hex : HexOptions) :
    ∃ bytes, t.layOut.render kind listing hex = .ok bytes := by
  cases kind with
  | listing => exact ⟨_, rfl⟩
  | hex =>
    have hrecords :=
      Image.hexRecords_eq_ok (layOut_isTiled hv) (byteLength_layOut hv ▸ hspace) hex
    rw [Image.render, Image.hex, hrecords]
    exact ⟨_, rfl⟩
  | binary => exact ⟨_, rfl⟩

/-! ### Outcomes -/

/-- Every outcome of the allocator.  A table has an image exactly if it passes the checks and
the image fits; a fault of the table comes first, then the size, and nothing behind them
fails: the containers' offsets and counts, the second encoding, the checks on the finished
image, the artifacts, and the look-ups of single bytes for the listing. -/
theorem allocate_outcome (t : SlotTable) :
    t.imageSize = t.layout.size * (t.config.slotCount + relocatedCount t.slots) ∧
    t.sizeLimit = min (t.config.eepromSize.getD 65536) 65536 ∧
    ((∃ image, t.allocate = .ok image) ↔ t.validate = .ok () ∧ t.imageSize ≤ t.sizeLimit) ∧
    (∀ e, t.validate = .error e → t.allocate = .error e) ∧
    (t.validate = .ok () → t.sizeLimit < t.imageSize →
      t.allocate = .error (.capacity t.imageSize t.sizeLimit)) ∧
    (t.validate = .ok () → t.imageSize ≤ t.sizeLimit →
      (∀ r ∈ t.relocations, r.offset < 65536 ∧ r.count ≤ 255) ∧
      ∃ frames image,
        t.slotFrames = .ok frames ∧
        recordsOf t.layout
          (frames.zipIdx.map (fun (f, i) => ⟨.slot, i, 0, f⟩) ++ t.sequencePlacements)
          = .ok image.records ∧
        image.verify t.relocations = .ok () ∧
        t.allocate = .ok image ∧
        (∀ kind listing hex, ∃ bytes, image.render kind listing hex = .ok bytes) ∧
        ∀ r ∈ image.records, ∀ i < t.layout.size, ∃ b, r.frame.byteAt i = .ok b ∧
          r.bytes[i]? = some b) := by
  refine ⟨?_, t.sizeLimit_eq, ?_, fun _ => allocate_of_fault, allocate_of_too_large,
    fun hcheck hsize => ?_⟩
  · rw [imageSize_eq, Nat.mul_comm]
  · constructor
    · rintro ⟨image, h⟩
      obtain ⟨hv, hsize, -⟩ := allocate_eq_ok_iff.mp h
      exact ⟨validate_eq_ok_iff.mpr hv, hsize⟩
    · rintro ⟨hcheck, hsize⟩
      exact ⟨t.layOut, allocate_of_isValid (validate_eq_ok_iff.mp hcheck) hsize⟩
  · have hv := validate_eq_ok_iff.mp hcheck
    have hspace : t.imageSize ≤ addressSpace := Nat.le_trans hsize t.sizeLimit_le
    refine ⟨fun r hr => relocations_fit hv hspace hr, t.slots.mapIdx t.headAt, t.layOut,
      slotFrames_eq_ok hv hspace, ?_,
      verify_layOut hv hspace, allocate_of_isValid hv hsize, render_layOut hv hspace,
      fun r hr i hi => ?_⟩
    · rw [headPlacements_eq]
      exact recordsOf_eq_ok fun p hp => placements_isEncodable hv hp
    · obtain ⟨index, hindex⟩ := List.mem_iff_getElem?.mp hr
      have hplace := layOut_isTiled hv index r hindex
      rw [hplace.bytes_eq]
      exact Frame.getElem?_recordBytes hplace.isEncodable hi

/-- A table whose image fills the address space to the last byte, its last two frames a
sequence. -/
def fullTable : SlotTable :=
  let frame := Frame.withArgs 0 0 none 0 Args.empty
  ⟨{ slotCount := 8190, frameSize := 8 }, ⟨8, by decide, by decide⟩,
    List.replicate 8189 ⟨none, [frame]⟩ ++ [⟨none, [frame, frame]⟩], rfl⟩

theorem fullTable_isValid : fullTable.IsValid := by
  have hframe : (Frame.withArgs 0 0 none 0 Args.empty).IsValid fullTable.layout :=
    ⟨by decide, by decide, by decide, by decide, by decide⟩
  refine ⟨?_, fun s hs => ?_⟩
  · rw [fullTable, List.length_append, List.length_replicate]
    rfl
  · rcases List.mem_append.mp hs with hs | hs
    · rw [List.eq_of_mem_replicate hs]
      exact ⟨by decide, by decide, by simpa using hframe⟩
    · rw [List.mem_singleton.mp hs]
      exact ⟨by decide, by decide, by simpa using hframe⟩

/-- The largest image is laid out, and every artifact of it can be made. -/
theorem allocate_outcome_fullTable :
    fullTable.validate = .ok () ∧ fullTable.imageSize = 65536 ∧ fullTable.sizeLimit = 65536 ∧
    ∃ image, fullTable.allocate = .ok image ∧
      ∀ kind listing hex, ∃ bytes, image.render kind listing hex = .ok bytes := by
  obtain ⟨hsize, hlimit, -, -, -, hfits⟩ := allocate_outcome fullTable
  have hcount : relocatedCount fullTable.slots = 2 := by
    rw [relocatedCount, fullTable, List.filter_append,
      List.filter_replicate_of_neg (by decide)]
    rfl
  have hcheck := validate_eq_ok_iff.mpr fullTable_isValid
  rw [hcount] at hsize
  obtain ⟨-, frames, image, -, -, -, himage, hrender, -⟩ :=
    hfits hcheck (by rw [hsize, hlimit]; decide)
  exact ⟨hcheck, hsize, hlimit, image, himage, hrender⟩

/-! ### A table with containers -/

/-- Three slots, of which the first and the last hold more than one frame. -/
def mixedTable : SlotTable :=
  let state (n : UInt8) := Frame.withArgs 0x01 0x02 (some n) 0x02 ⟨[n], Nat.le_add_left 1 6⟩
  let led := Frame.withArgs 0x01 0x02 none 0x04 ⟨[0xa1, 0x00, 0x19], by decide⟩
  ⟨{ slotCount := 3, frameSize := 8, selfAddr := 0x21 }, ⟨8, by decide, by decide⟩,
    [⟨some "reset", [state 1, state 2, state 3]⟩, ⟨none, [led]⟩, ⟨none, [state 4, led]⟩], rfl⟩

theorem allocate_mixedTable : mixedTable.allocate = .ok mixedTable.layOut := by decide

end SlotTable

end EepromImage
