/-
Where the slot zone ends, told by the containers.

A boundary is self-consistent if no container relays forward to a frame in front of it.  The
scan starts behind the last frame and is pulled down by the containers that it passes.

* `pullBoundary_le_target`, `pullBoundary_eq_or` — one frame pulls the boundary down to its
  target, and no further;
* `isSelfConsistent_inferSlots`, `IsSelfConsistent.le_inferSlots` — the scan ends at the
  greatest self-consistent boundary, although it stops at a bound that moves;
* `inferFrom_eq_foldl`, `isGreatest_inferSlots` — the early stop loses nothing: the scan ends
  where one over all frames does, and any boundary further behind has a forward relay inside
  the slot zone;
* `isSelfConsistent_layOut_iff` — the slot zone of a laid-out image is self-consistent unless
  a declared container relays forward into it;
* `inferred_allocate` — these are the only images whose slot zone is not found.
-/
import Mathlib.Order.Bounds.Defs
import EepromImage.Proofs.Image.Inspection

namespace EepromImage

/-- The frame with this index is a container that relays forward, to the frame with index
`target`. -/
def Frame.RelaysForward (size index target : Nat) (f : Frame) : Prop :=
  ∃ relay, f.relay? = some relay ∧ relay.offset.toNat / size = target ∧ index < target

/-- No frame relays forward to a frame in front of the boundary.  The frames behind the
boundary cannot: what they relay forward to is further behind. -/
def IsSelfConsistent (size : Nat) (frames : List Frame) (boundary : Nat) : Prop :=
  ∀ (i : Nat) (f : Frame) (target : Nat), frames[i]? = some f →
    f.RelaysForward size i target → boundary ≤ target

/-! ### One frame -/

/-- The boundary after a frame in front of it. -/
def pullBoundary (size index boundary : Nat) (f : Frame) : Nat :=
  match f.relay? with
  | none => boundary
  | some relay =>
    if index < relay.offset.toNat / size then min boundary (relay.offset.toNat / size)
    else boundary

section Step

variable {size index boundary target : Nat} {f : Frame} {rest frames : List Frame}

theorem inferFrom_cons :
    inferFrom size index boundary (f :: rest)
      = if boundary ≤ index then boundary
        else inferFrom size (index + 1) (pullBoundary size index boundary f) rest := by
  rw [inferFrom]
  split_ifs
  · rfl
  · unfold pullBoundary
    cases f.relay? <;> rfl

theorem pullBoundary_le : pullBoundary size index boundary f ≤ boundary := by
  unfold pullBoundary
  split
  · exact Nat.le_refl boundary
  · split_ifs
    · exact Nat.min_le_left _ _
    · exact Nat.le_refl boundary

theorem pullBoundary_le_target (h : f.RelaysForward size index target) :
    pullBoundary size index boundary f ≤ target := by
  obtain ⟨relay, hrelay, rfl, hlt⟩ := h
  simp only [pullBoundary, hrelay, if_pos hlt]
  exact Nat.min_le_right _ _

/-- A boundary that moves moves to the target of the frame. -/
theorem pullBoundary_eq_or (size index boundary : Nat) (f : Frame) :
    pullBoundary size index boundary f = boundary ∨
      f.RelaysForward size index (pullBoundary size index boundary f) := by
  unfold pullBoundary
  split
  · exact .inl rfl
  · rename_i relay hrelay
    split_ifs with hlt
    · rcases Nat.le_total boundary (relay.offset.toNat / size) with hle | hle
      · exact .inl (Nat.min_eq_left hle)
      · rw [Nat.min_eq_right hle]
        exact .inr ⟨relay, hrelay, rfl, hlt⟩
    · exact .inl rfl

/-! ### The scan -/

theorem inferFrom_le : inferFrom size index boundary frames ≤ boundary := by
  induction frames generalizing index boundary with
  | nil => exact Nat.le_refl boundary
  | cons f rest ih =>
    rw [inferFrom_cons]
    split_ifs
    · exact Nat.le_refl boundary
    · exact Nat.le_trans ih pullBoundary_le

/-- The scan ends in front of every frame that is relayed forward to. -/
theorem inferFrom_le_target {j : Nat} (hj : frames[j]? = some f)
    (hf : f.RelaysForward size (index + j) target) :
    inferFrom size index boundary frames ≤ target := by
  induction frames generalizing index boundary j with
  | nil => cases hj
  | cons g rest ih =>
    rw [inferFrom_cons]
    split_ifs with hstop
    · -- the scan ended in front of `f`, and the target is behind `f`
      have hforward : index + j < target := hf.choose_spec.2.2
      omega
    · cases j with
      | zero =>
        rw [List.getElem?_cons_zero, Option.some_inj] at hj
        subst hj
        exact Nat.le_trans inferFrom_le (pullBoundary_le_target hf)
      | succ j =>
        have hindex : index + (j + 1) = index + 1 + j := by omega
        rw [hindex] at hf
        exact ih (List.getElem?_cons_succ ▸ hj) hf

/-- Where the scan ends in front of its start, one of the frames relays. -/
theorem inferFrom_eq_or (size index boundary : Nat) (frames : List Frame) :
    inferFrom size index boundary frames = boundary ∨
      ∃ (j : Nat) (f : Frame), frames[j]? = some f ∧
        f.RelaysForward size (index + j) (inferFrom size index boundary frames) := by
  induction frames generalizing index boundary with
  | nil => exact .inl rfl
  | cons g rest ih =>
    rw [inferFrom_cons]
    split_ifs
    · exact .inl rfl
    · rcases ih (index + 1) (pullBoundary size index boundary g) with hrest | ⟨j, f, hj, hf⟩
      · rw [hrest]
        rcases pullBoundary_eq_or size index boundary g with hpull | hg
        · exact .inl hpull
        · exact .inr ⟨0, g, rfl, hg⟩
      · have hindex : index + 1 + j = index + (j + 1) := by omega
        rw [hindex] at hf
        exact .inr ⟨j + 1, f, hj, hf⟩

theorem inferSlots_le (size : Nat) (frames : List Frame) :
    inferSlots size frames ≤ frames.length :=
  inferFrom_le

/-- Frames alone are always inspected: the inferred end of the slot zone is not behind
them. -/
theorem inspect_none {layout : FrameLayout} {bytes : List UInt8}
    (h : decodeFrames layout bytes = .ok frames) :
    inspect layout none bytes = .ok
      (inspectFrames layout (inferSlots layout.size frames) frames) :=
  inspect_eq_ok_iff.mpr ⟨frames, h, inferSlots_le _ _, rfl⟩

theorem isSelfConsistent_inferSlots (size : Nat) (frames : List Frame) :
    IsSelfConsistent size frames (inferSlots size frames) := by
  intro i f target hf hrelay
  rw [← Nat.zero_add i] at hrelay
  exact inferFrom_le_target hf hrelay

/-- No self-consistent boundary is behind the one that the scan finds: the frame that pulled
it there would relay forward in front of the other one. -/
theorem IsSelfConsistent.le_inferSlots (h : IsSelfConsistent size frames boundary)
    (hle : boundary ≤ frames.length) :
    boundary ≤ inferSlots size frames := by
  rcases inferFrom_eq_or size 0 frames.length frames with hend | ⟨j, f, hj, hf⟩
  · rwa [inferSlots, hend]
  · rw [Nat.zero_add] at hf
    exact h j f _ hj hf

/-! ### The greatest boundary -/

/-- A container in front of the boundary relays forward to a frame that is in front of the
boundary as well. -/
def RelaysWithin (size : Nat) (frames : List Frame) (boundary : Nat) : Prop :=
  ∃ (i : Nat) (f : Frame) (relay : Relay), i < boundary ∧ frames[i]? = some f ∧
    f.relay? = some relay ∧
    i < relay.offset.toNat / size ∧ relay.offset.toNat / size < boundary

theorem isSelfConsistent_iff_not_relaysWithin :
    IsSelfConsistent size frames boundary ↔ ¬ RelaysWithin size frames boundary := by
  constructor
  · rintro hcons ⟨i, f, relay, -, hf, hrelay, hforward, hwithin⟩
    have hle := hcons i f _ hf ⟨relay, hrelay, rfl, hforward⟩
    omega
  · rintro hplain i f target hf ⟨relay, hrelay, rfl, hforward⟩
    by_contra hlt
    exact hplain ⟨i, f, relay, by omega, hf, hrelay, hforward, by omega⟩

/-- A frame behind the boundary does not move it: what it relays forward to is behind the
boundary too. -/
theorem pullBoundary_of_le (h : boundary ≤ index) :
    pullBoundary size index boundary f = boundary := by
  rcases pullBoundary_eq_or size index boundary f with heq | ⟨relay, -, -, hforward⟩
  · exact heq
  · have hle : pullBoundary size index boundary f ≤ boundary := pullBoundary_le
    omega

theorem foldl_pullBoundary_of_le (h : boundary ≤ index) :
    (frames.zipIdx index).foldl (fun b p => pullBoundary size p.2 b p.1) boundary
      = boundary := by
  induction frames generalizing index with
  | nil => rfl
  | cons f rest ih =>
    rw [List.zipIdx_cons, List.foldl_cons, pullBoundary_of_le h]
    exact ih (Nat.le_succ_of_le h)

/-- The scan that stops at the boundary ends where the scan over all frames does. -/
theorem inferFrom_eq_foldl (size index boundary : Nat) (frames : List Frame) :
    inferFrom size index boundary frames
      = (frames.zipIdx index).foldl (fun b p => pullBoundary size p.2 b p.1) boundary := by
  induction frames generalizing index boundary with
  | nil => rfl
  | cons f rest ih =>
    rw [inferFrom_cons]
    split_ifs with hstop
    · exact (foldl_pullBoundary_of_le hstop).symm
    · rw [List.zipIdx_cons, List.foldl_cons]
      exact ih (index + 1) (pullBoundary size index boundary f)

/-- The boundary that the scan finds is the greatest one, among those not behind the last
frame, in front of which no container relays forward to a frame in front of it.  Neither the
early stop nor the moving bound loses anything. -/
theorem isGreatest_inferSlots (size : Nat) (frames : List Frame) :
    IsGreatest {b | b ≤ frames.length ∧ ¬ RelaysWithin size frames b}
      (inferSlots size frames) ∧
    (∀ b, inferSlots size frames < b → b ≤ frames.length → RelaysWithin size frames b) ∧
    inferSlots size frames = frames.zipIdx.foldl
      (fun b p => pullBoundary size p.2 b p.1) frames.length := by
  have hgreatest : ∀ b, b ≤ frames.length → ¬ RelaysWithin size frames b →
      b ≤ inferSlots size frames := by
    intro b hle hplain
    exact (isSelfConsistent_iff_not_relaysWithin.mpr hplain).le_inferSlots hle
  refine ⟨⟨⟨inferSlots_le size frames, ?_⟩, ?_⟩, ?_,
    inferFrom_eq_foldl size 0 frames.length frames⟩
  · exact isSelfConsistent_iff_not_relaysWithin.mp (isSelfConsistent_inferSlots size frames)
  · rintro b ⟨hle, hplain⟩
    exact hgreatest b hle hplain
  · intro b hlt hle
    by_contra hplain
    have := hgreatest b hle hplain
    omega

/-- The second container pulls the boundary in front of the third, which is not looked at any
more. -/
example : inferSlots 11 ([33, 22, 33, 0].map fun offset =>
  Frame.container 0 offset 1 .standard) = 2 := by decide

end Step

/-! ### Compiled images -/

/-- The first slot with a sequence has no sequence in front of it. -/
theorem exists_first_relocated {slots : List Slot} (h : relocatedCount slots ≠ 0) :
    ∃ k s, slots[k]? = some s ∧ s.isRelocated = true ∧ relocatedCount (slots.take k) = 0 := by
  induction slots with
  | nil => exact absurd relocatedCount_nil h
  | cons s rest ih =>
    by_cases hs : s.isRelocated = true
    · exact ⟨0, s, rfl, hs, relocatedCount_nil⟩
    · have hcount : s.sequence.length = 0 := by rw [Slot.length_sequence, if_neg hs]
      rw [relocatedCount_cons, hcount, Nat.zero_add] at h
      obtain ⟨k, r, hk, hrel, hfront⟩ := ih h
      refine ⟨k + 1, r, by rw [List.getElem?_cons_succ, hk], hrel, ?_⟩
      rw [List.take_succ_cons, relocatedCount_cons, hcount, hfront]

namespace SlotTable

variable {t : SlotTable}

/-- A single frame of a slot is a container that relays forward to a frame of the slot
zone. -/
def IsMisleading (t : SlotTable) : Prop :=
  ∃ (k : Nat) (s : Slot) (f : Frame) (relay : Relay), t.slots[k]? = some s ∧ s.frames = [f] ∧
    f.relay? = some relay ∧ k < relay.offset.toNat / t.layout.size ∧
    relay.offset.toNat / t.layout.size < t.config.slotCount

theorem layOut_frames_slot {k : Nat} {s : Slot} (h : t.slots[k]? = some s) :
    (t.layOut.records.map Record.frame)[k]? = some (t.headAt k s) := by
  rw [List.getElem?_map, layOut_records_slot h]
  rfl

/-- The container of a relocated slot relays to its sequence, behind the slot zone. -/
theorem headAt_relaysForward (hv : t.IsValid) (hspace : t.imageSize ≤ addressSpace) {k : Nat}
    {s : Slot} (hk : t.slots[k]? = some s) (hrel : s.isRelocated = true) :
    (t.headAt k s).RelaysForward t.layout.size k
      (t.config.slotCount + relocatedCount (t.slots.take k)) := by
  obtain ⟨relay, hrelay, hoffset, -, -⟩ := headAt_relay hv hspace hk hrel
  have hlt : k < t.slots.length := (List.getElem?_eq_some_iff.mp hk).choose
  rw [hv.length_slots] at hlt
  refine ⟨relay, hrelay, ?_, by omega⟩
  rw [hoffset]
  exact Nat.mul_div_cancel _ t.layout.size_pos

theorem isSelfConsistent_layOut_iff (hv : t.IsValid) (hspace : t.imageSize ≤ addressSpace) :
    IsSelfConsistent t.layout.size (t.layOut.records.map Record.frame) t.config.slotCount ↔
      ¬ t.IsMisleading := by
  constructor
  · rintro hcons ⟨k, s, f, relay, hk, hf, hrelay, hforward, hzone⟩
    have hhead : t.headAt k s = f := Slot.head_of_single _ _ _ hf
    have := hcons k f _ (hhead ▸ layOut_frames_slot hk) ⟨relay, hrelay, rfl, hforward⟩
    omega
  · rintro hplain i f target hf ⟨relay, hsome, rfl, hforward⟩
    by_cases hi : i < t.slots.length
    · have hk := List.getElem?_eq_getElem hi
      rw [layOut_frames_slot hk, Option.some_inj] at hf
      subst hf
      have hne := (hv.slots_valid _ (List.getElem_mem hi)).frames_ne_nil
      rcases Slot.single_or_relocated hne with ⟨g, hg⟩ | ⟨g, g', rest, hg⟩
      · -- a declared frame: if it relayed in front of the end of the slot zone, the table
        -- would be misleading
        rw [headAt, Slot.head_of_single _ _ _ hg] at hsome
        by_contra hzone
        exact hplain ⟨i, _, g, relay, hk, hg, hsome, hforward, Nat.lt_of_not_le hzone⟩
      · obtain ⟨relay', hsome', htarget, -⟩ :=
          headAt_relaysForward hv hspace hk (Slot.isRelocated_of_cons_cons hg)
        rw [hsome, Option.some_inj] at hsome'
        subst hsome'
        omega
    · -- a frame of the extended zone relays forward to one further behind
      rw [← hv.length_slots]
      omega

/-- No self-consistent boundary is behind the slot zone, since the container of the first
sequence relays to its end. -/
theorem le_slotCount_of_isSelfConsistent (hv : t.IsValid)
    (hspace : t.imageSize ≤ addressSpace) {boundary : Nat}
    (h : IsSelfConsistent t.layout.size (t.layOut.records.map Record.frame) boundary)
    (hle : boundary ≤ t.layOut.records.length) : boundary ≤ t.config.slotCount := by
  rw [length_layOut_records hv] at hle
  by_cases hcount : relocatedCount t.slots = 0
  · rwa [hcount, Nat.add_zero] at hle
  · obtain ⟨k, s, hk, hrel, hfront⟩ := exists_first_relocated hcount
    have hforward := headAt_relaysForward hv hspace hk hrel
    rw [hfront, Nat.add_zero] at hforward
    exact h k _ _ (layOut_frames_slot hk) hforward

/-- Without a number of slots, inspecting a compiled image succeeds, and finds the slot zone
unless a declared container misleads it; the slot zone found is never too large. -/
theorem inferred_allocate {image : Image} (h : t.allocate = .ok image) :
    ∃ inspection, inspect t.layout none image.bytes = .ok inspection ∧
      inspection.slotCount ≤ t.config.slotCount ∧
      (inspection.slotCount = t.config.slotCount ↔ ¬ t.IsMisleading) := by
  obtain ⟨hv, hsize, rfl⟩ := allocate_eq_ok_iff.mp h
  have hspace : t.imageSize ≤ addressSpace := Nat.le_trans hsize t.sizeLimit_le
  have hframes := (layOut_isTiled hv).decodeFrames_bytes
  have hle := inferSlots_le t.layout.size (t.layOut.records.map Record.frame)
  have hcons := isSelfConsistent_inferSlots t.layout.size (t.layOut.records.map Record.frame)
  have hzone :=
    le_slotCount_of_isSelfConsistent hv hspace hcons (List.length_map Record.frame ▸ hle)
  refine ⟨_, inspect_none hframes, hzone, ?_⟩
  show inferSlots t.layout.size (t.layOut.records.map Record.frame) = t.config.slotCount ↔ _
  rw [← isSelfConsistent_layOut_iff hv hspace]
  constructor
  · intro heq
    exact heq ▸ hcons
  · intro hself
    have hlength : t.config.slotCount ≤ (t.layOut.records.map Record.frame).length := by
      rw [List.length_map, length_layOut_records hv]
      exact Nat.le_add_right _ _
    exact Nat.le_antisymm hzone (hself.le_inferSlots hlength)

/-- Three slots of which the first holds a declared container for the frames from `offset` on,
and the last a sequence. -/
def relayTable (offset : UInt16) (storage : UInt8) : SlotTable :=
  let arguments : Args :=
    ⟨[Word.high offset, Word.low offset, 1, storage], Nat.le_add_left 4 3⟩
  let relay := Frame.withArgs 0 0 none containerCode arguments
  let state := Frame.withArgs 0x01 0x02 none 0x02 ⟨[1], by decide⟩
  ⟨{ slotCount := 3, frameSize := 9 }, ⟨9, by decide, by decide⟩,
    [⟨none, [relay]⟩, ⟨none, [state]⟩, ⟨none, [state, state]⟩], rfl⟩

/-- A declared container for the sequence at 27 leaves the slot zone of three frames to be
found, one for the second slot does not. -/
theorem inferred_relayTable :
    (relayTable 27 Storage.eeprom).allocate = .ok (relayTable 27 Storage.eeprom).layOut ∧
    (∃ inspection, inspect ⟨9, by decide, by decide⟩ none
      (relayTable 27 Storage.eeprom).layOut.bytes = .ok inspection ∧
      inspection.slotCount = 3) ∧
    (relayTable 9 Storage.eeprom).allocate = .ok (relayTable 9 Storage.eeprom).layOut ∧
    ∃ inspection, inspect ⟨9, by decide, by decide⟩ none
      (relayTable 9 Storage.eeprom).layOut.bytes = .ok inspection ∧
      inspection.slotCount < 3 := by
  have hplain : (relayTable 27 Storage.eeprom).allocate
      = .ok (relayTable 27 Storage.eeprom).layOut := by decide
  have hmisled : (relayTable 9 Storage.eeprom).allocate
      = .ok (relayTable 9 Storage.eeprom).layOut := by decide
  have hbehind : ∀ s ∈ (relayTable 27 Storage.eeprom).slots, s.frames.length = 1 →
      ∀ f ∈ s.frames,
      ∀ relay ∈ f.relay?, 3 ≤ relay.offset.toNat / 9 := by decide
  obtain ⟨found, hfound, -, hexact⟩ := inferred_allocate hplain
  obtain ⟨small, hsmall, hle, hfalse⟩ := inferred_allocate hmisled
  refine ⟨hplain, ⟨found, hfound, hexact.mpr ?_⟩, hmisled, small, hsmall, ?_⟩
  · rintro ⟨k, s, f, relay, hk, hf, hrelay, -, hzone⟩
    have hsingle : s.frames.length = 1 := by rw [hf]; rfl
    have hmem : f ∈ s.frames := by rw [hf]; exact List.mem_singleton_self f
    exact Nat.not_le_of_lt hzone
      (hbehind s (List.mem_of_getElem? hk) hsingle f hmem relay hrelay)
  · have hmisleading : (relayTable 9 Storage.eeprom).IsMisleading :=
      ⟨0, _, _, _, rfl, rfl, rfl, by decide, by decide⟩
    exact Nat.lt_of_le_of_ne hle fun heq => hfalse.mp heq hmisleading

end SlotTable
end EepromImage
