/-
What the frames of one slot decide about an image.

Where a frame goes follows from the numbers of frames alone, and every record has the same
size.  So a slot's frames decide the bytes of their own records and no others:

* `SameBut.getElem?_records` — two tables that differ in the frames of one slot have the same
  records but for those that hold these frames;
* `allocate_local` — the images of such tables agree byte for byte outside the region of the
  slot, all containers included.
-/
import EepromImage.Proofs.Image.Allocation

namespace EepromImage
namespace SlotTable

/-- The tables have one configuration and as many frames in every slot, and only in slot `k`
may the frames be others.  Nothing is said about the names of slots. -/
structure SameBut (k : Nat) (t t' : SlotTable) : Prop where
  config_eq : t'.config = t.config
  lengths_eq : (t'.slots.map fun s => s.frames.length) = t.slots.map fun s => s.frames.length
  frames_eq : ∀ i s s', i ≠ k → t.slots[i]? = some s → t'.slots[i]? = some s' →
    s'.frames = s.frames

/-- The byte belongs to a frame of slot `k`: to its place in the slot zone if it has one
frame, to its sequence otherwise. -/
def OwnsByte (t : SlotTable) (k p : Nat) : Prop :=
  ∃ s, t.slots[k]? = some s ∧
    if s.frames.length = 1 then k * t.layout.size ≤ p ∧ p < (k + 1) * t.layout.size
    else t.sequenceStart k ≤ p ∧ p < t.sequenceStart k + s.frames.length * t.layout.size

/-- The record with number `i` holds a frame of slot `k`. -/
def OwnsRecord (t : SlotTable) (k i : Nat) : Prop :=
  ∃ s, t.slots[k]? = some s ∧
    if s.frames.length = 1 then i = k
    else t.config.slotCount + relocatedCount (t.slots.take k) ≤ i ∧
      i < t.config.slotCount + relocatedCount (t.slots.take k) + s.frames.length

variable {k : Nat} {t t' : SlotTable}

theorem ownsByte_iff {p : Nat} : t.OwnsByte k p ↔ t.OwnsRecord k (p / t.layout.size) := by
  have hpos := t.layout.size_pos
  refine exists_congr fun s => and_congr_right fun _ => ?_
  split_ifs
  · rw [← Nat.le_div_iff_mul_le hpos, ← Nat.div_lt_iff_lt_mul hpos]
    omega
  · rw [sequenceStart, ← Nat.add_mul, ← Nat.le_div_iff_mul_le hpos,
      ← Nat.div_lt_iff_lt_mul hpos]

theorem relocatedCount_congr {slots slots' : List Slot}
    (h : (slots'.map fun s => s.frames.length) = slots.map fun s => s.frames.length) :
    relocatedCount slots' = relocatedCount slots := by
  have hsum : ∀ l : List Slot, relocatedCount l
      = ((l.map fun s => s.frames.length).filter (1 < ·)).sum := by
    intro l
    rw [List.filter_map]
    rfl
  rw [hsum, hsum, h]

namespace SameBut

/-! ### Places -/

theorem layout_eq (h : SameBut k t t') : t'.layout = t.layout := by
  have hsize : t'.layout.size = t.layout.size := by
    rw [t'.layout_size, t.layout_size, h.config_eq]
  cases hlayout : t.layout
  cases hlayout' : t'.layout
  rw [hlayout, hlayout'] at hsize
  simpa using hsize

theorem relocatedCount_take (h : SameBut k t t') (i : Nat) :
    relocatedCount (t'.slots.take i) = relocatedCount (t.slots.take i) := by
  apply relocatedCount_congr
  rw [List.map_take, List.map_take, h.lengths_eq]

theorem sequenceStart_eq (h : SameBut k t t') (i : Nat) :
    t'.sequenceStart i = t.sequenceStart i := by
  rw [sequenceStart, sequenceStart, h.config_eq, h.layout_eq, h.relocatedCount_take]

/-- The tables have the same slots, as far as numbers of frames go. -/
theorem none_or_some (h : SameBut k t t') (i : Nat) :
    (t.slots[i]? = none ∧ t'.slots[i]? = none) ∨
      ∃ s s', t.slots[i]? = some s ∧ t'.slots[i]? = some s' ∧
        s'.frames.length = s.frames.length ∧
        (i ≠ k → s'.frames = s.frames) := by
  have hlength : t'.slots[i]?.map (fun s => s.frames.length)
      = t.slots[i]?.map fun s => s.frames.length := by
    rw [← List.getElem?_map, ← List.getElem?_map, h.lengths_eq]
  cases hs : t.slots[i]? with
  | none =>
    rw [hs, Option.map_none, Option.map_eq_none_iff] at hlength
    exact .inl ⟨rfl, hlength⟩
  | some s =>
    rw [hs, Option.map_some, Option.map_eq_some_iff] at hlength
    obtain ⟨s', hs', heq⟩ := hlength
    exact .inr ⟨s, s', rfl, hs', heq, fun hi => h.frames_eq i s s' hi hs hs'⟩

/-! ### Placements -/

/-- The frame in the slot zone is the same, if the slot's frames are or if it is a
container. -/
theorem headAt_eq (h : SameBut k t t') {i : Nat} {s s' : Slot}
    (hlength : s'.frames.length = s.frames.length)
    (hs : s'.frames = s.frames ∨ s.isRelocated = true) : t'.headAt i s' = t.headAt i s := by
  rw [headAt, headAt, h.config_eq, h.layout_eq, h.sequenceStart_eq]
  rcases hs with hframes | hrel
  · rw [Slot.head, Slot.head, hframes]
  · have hrel' : s'.isRelocated = true :=
      Slot.isRelocated_iff.mpr (hlength ▸ Slot.isRelocated_iff.mp hrel)
    rw [Slot.head_of_relocated _ _ _ hrel, Slot.head_of_relocated _ _ _ hrel', hlength]

theorem getElem?_headPlacements (h : SameBut k t t') (hv : t.IsValid) {i : Nat}
    (hi : ¬ t.OwnsRecord k i) :
    t'.headPlacements[i]? = t.headPlacements[i]? := by
  rw [headPlacements, headPlacements, List.getElem?_mapIdx, List.getElem?_mapIdx]
  rcases h.none_or_some i with ⟨hs, hs'⟩ | ⟨s, s', hs, hs', hlength, hframes⟩
  · rw [hs, hs']
    rfl
  · have hsame : s'.frames = s.frames ∨ s.isRelocated = true := by
      by_cases hik : i = k
      · -- the place in the slot zone is not the slot's own, so a container stands there
        subst hik
        refine .inr (isRelocated_of_length_ne_one hv hs fun hsingle => hi ⟨s, hs, ?_⟩)
        rw [if_pos hsingle]
      · exact .inl (hframes hik)
    rw [hs, hs', Option.map_some, Option.map_some, h.headAt_eq hlength hsame]

theorem sequenceBlocks (h : SameBut k t t') (i : Nat) :
    (t'.slots.zipIdx.map sequenceBlock)[i]?.map List.length
      = (t.slots.zipIdx.map sequenceBlock)[i]?.map List.length ∧
      (i ≠ k → (t'.slots.zipIdx.map sequenceBlock)[i]?
        = (t.slots.zipIdx.map sequenceBlock)[i]?) := by
  rw [getElem?_map_sequenceBlock, getElem?_map_sequenceBlock]
  rcases h.none_or_some i with ⟨hs, hs'⟩ | ⟨s, s', hs, hs', hlength, hframes⟩
  · rw [hs, hs']
    exact ⟨rfl, fun _ => rfl⟩
  · have hsequence : s'.sequence.length = s.sequence.length := by
      rw [Slot.length_sequence, Slot.length_sequence, Slot.isRelocated,
        Slot.isRelocated, hlength]
    simp only [hs, hs', Option.map_some, length_sequenceBlock, hsequence, true_and]
    intro hi
    rw [sequenceBlock, sequenceBlock, Slot.sequence, Slot.sequence, hframes hi]

theorem getElem?_sequencePlacements (h : SameBut k t t') {i : Nat}
    (hi : ¬ t.OwnsRecord k (t.config.slotCount + i)) :
    t'.sequencePlacements[i]? = t.sequencePlacements[i]? := by
  rw [sequencePlacements_eq, sequencePlacements_eq, List.flatMap_def, List.flatMap_def]
  refine @getElem?_flatten_of_agree _ _ _ k i ?_ (fun j => (h.sequenceBlocks j).2) ?_
  · apply List.ext_getElem?
    intro j
    simpa only [List.getElem?_map] using (h.sequenceBlocks j).1
  · intro block hblock
    rw [getElem?_map_sequenceBlock, Option.map_eq_some_iff] at hblock
    obtain ⟨s, hs, rfl⟩ := hblock
    have hstart : ((t.slots.zipIdx.map sequenceBlock).take k).flatten.length
        = relocatedCount (t.slots.take k) := by
      rw [← List.map_take, ← List.flatMap_def, length_flatMap_sequenceBlock, List.map_take,
        List.zipIdx_map_fst]
    rw [hstart, length_sequenceBlock, Slot.length_sequence]
    split_ifs with hrel
    · have hlength := Slot.isRelocated_iff.mp hrel
      by_contra hinside
      refine hi ⟨s, hs, ?_⟩
      rw [if_neg (by omega)]
      omega
    · -- the block is empty
      omega

theorem getElem?_placements (h : SameBut k t t') (hv : t.IsValid) {i : Nat}
    (hi : ¬ t.OwnsRecord k i) :
    t'.placements[i]? = t.placements[i]? := by
  have hlen : t.headPlacements.length = t.config.slotCount :=
    length_headPlacements.trans hv.length_slots
  have hlen' : t'.headPlacements.length = t.config.slotCount := by
    have hslots := congrArg List.length h.lengths_eq
    rw [List.length_map, List.length_map] at hslots
    rw [length_headPlacements, hslots, hv.length_slots]
  rw [placements, placements]
  by_cases hlt : i < t.config.slotCount
  · rw [List.getElem?_append_left (hlen' ▸ hlt), List.getElem?_append_left (hlen ▸ hlt)]
    exact h.getElem?_headPlacements hv hi
  · rw [List.getElem?_append_right (by omega), List.getElem?_append_right (by omega),
      hlen, hlen']
    refine h.getElem?_sequencePlacements ?_
    rwa [Nat.add_sub_of_le (Nat.le_of_not_lt hlt)]

/-! ### Records -/

theorem getElem?_records (h : SameBut k t t') (hv : t.IsValid) {i : Nat}
    (hi : ¬ t.OwnsRecord k i) :
    t'.layOut.records[i]? = t.layOut.records[i]? := by
  rw [layOut, layOut, List.getElem?_mapIdx, List.getElem?_mapIdx, h.layout_eq,
    h.getElem?_placements hv hi]

theorem imageSize_eq (h : SameBut k t t') : t'.imageSize = t.imageSize := by
  rw [SlotTable.imageSize_eq, SlotTable.imageSize_eq, h.config_eq, h.layout_eq,
    relocatedCount_congr h.lengths_eq]

end SameBut

theorem getElem?_bytes (hv : t.IsValid) (p : Nat) :
    t.layOut.bytes[p]? = t.layOut.records[p / t.layout.size]?.bind
      fun r => r.bytes[p % t.layout.size]? :=
  getElem?_flatMap_of_length_eq t.layout.size_pos
    (fun _ hr => (layOut_isTiled hv).length_bytes_of_mem hr) p

/-- A record of the slot zone is a slot's own only if it is its only frame. -/
theorem not_ownsRecord_of_length_ne_one (hv : t.IsValid) {i : Nat} {s : Slot}
    (hi : t.slots[i]? = some s) (hlen : s.frames.length ≠ 1) : ¬ t.OwnsRecord k i := by
  have hlt : i < t.slots.length := (List.getElem?_eq_some_iff.mp hi).choose
  rw [hv.length_slots] at hlt
  rintro ⟨s', hs', howns⟩
  split_ifs at howns with hsingle
  · subst howns
    rw [hi, Option.some_inj] at hs'
    exact hlen (hs' ▸ hsingle)
  · omega

/-- Allocation is local: if two tables differ in the frames of slot `k` only, and not in their
number, their images are of one length and agree at every byte outside the region of that
slot.  All containers are the same, and relay to where the regions are. -/
theorem allocate_local {image image' : Image} (h : t.allocate = .ok image)
    (h' : t'.allocate = .ok image') (hsame : SameBut k t t') :
    image'.bytes.length = image.bytes.length ∧
    (∀ p, ¬ t.OwnsByte k p → image'.bytes[p]? = image.bytes[p]?) ∧
    ∀ i s, t.slots[i]? = some s → s.frames.length ≠ 1 →
      ∃ r relay, image.records[i]? = some r ∧ image'.records[i]? = some r ∧
        r.frame.relay? = some relay ∧
        relay.offset.toNat = t.sequenceStart i ∧ relay.count.toNat = s.frames.length := by
  obtain ⟨hv, hsize, rfl⟩ := allocate_eq_ok_iff.mp h
  obtain ⟨hv', -, rfl⟩ := allocate_eq_ok_iff.mp h'
  have hspace : t.imageSize ≤ addressSpace := Nat.le_trans hsize t.sizeLimit_le
  refine ⟨?_, ?_, ?_⟩
  · rw [(layOut_isTiled hv).length_bytes, (layOut_isTiled hv').length_bytes,
      byteLength_layOut hv, byteLength_layOut hv', hsame.imageSize_eq]
  · intro p hp
    rw [ownsByte_iff] at hp
    rw [getElem?_bytes hv, getElem?_bytes hv', hsame.layout_eq, hsame.getElem?_records hv hp]
  · intro i s hi hlen
    have hrel := isRelocated_of_length_ne_one hv hi hlen
    obtain ⟨relay, hrelay, hoffset, hcount, -⟩ := headAt_relay hv hspace hi hrel
    have hrecord := layOut_records_slot hi
    have hrecord' := hsame.getElem?_records hv (not_ownsRecord_of_length_ne_one hv hi hlen)
    exact ⟨_, relay, hrecord, hrecord'.trans hrecord, hrelay, hoffset, hcount⟩

/-- The table with other frames in the sequence of its first slot. -/
def alteredTable : SlotTable :=
  let led := Frame.withArgs 0x01 0x02 none 0x04 ⟨[0xa1, 0x00, 0x19], Nat.le_add_left 3 4⟩
  { mixedTable with slots := mixedTable.slots.set 0 ⟨none, [led, led, led]⟩ }

theorem sameBut_alteredTable : SameBut 0 mixedTable alteredTable := by
  refine ⟨rfl, rfl, ?_⟩
  intro i s s' hi hs hs'
  rw [alteredTable, List.getElem?_set_ne (Ne.symm hi), hs, Option.some_inj] at hs'
  rw [hs']

/-- Only the bytes from 24 to 47 can tell, and they do. -/
theorem allocate_local_mixedTable :
    mixedTable.allocate = .ok mixedTable.layOut ∧
      alteredTable.allocate = .ok alteredTable.layOut ∧
      alteredTable.layOut.bytes ≠ mixedTable.layOut.bytes ∧
      ∀ p, p < 24 ∨ 48 ≤ p → alteredTable.layOut.bytes[p]? = mixedTable.layOut.bytes[p]? := by
  have haltered : alteredTable.allocate = .ok alteredTable.layOut := by decide
  obtain ⟨-, hbytes, -⟩ := allocate_local allocate_mixedTable haltered sameBut_alteredTable
  refine ⟨allocate_mixedTable, haltered, by decide, ?_⟩
  intro p hp
  refine hbytes p ?_
  rintro ⟨s, hs, howns⟩
  obtain rfl := Option.some.inj hs
  rw [if_neg (by decide)] at howns
  have hstart : mixedTable.sequenceStart 0 = 24 := by decide
  rw [hstart] at howns
  have hend : p < 24 + 3 * 8 := howns.2
  omega

end SlotTable
end EepromImage
