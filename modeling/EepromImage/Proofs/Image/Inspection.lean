/-
Reading a compiled image back.

* `IsTiled.decodeFrames_bytes` — the bytes of an image fall apart into its frames again;
* `problem?_eq_none_iff`, `exists_problem_iff` — a container has a problem exactly if it does
  not resolve;
* `inspect_allocate` — inspecting a compiled image recovers its records and its containers,
  and reports problems at most for containers that were declared as such.
-/
import EepromImage.Proofs.Image.Allocation
import EepromImage.Proofs.Image.Chunks

namespace EepromImage

/-! ### Frames -/

/-- Every outcome but an inspection is a group that is no frame, or a number of slots past the
frames. -/
theorem inspect_eq_ok_iff {layout : FrameLayout} {slots? : Option Nat} {bytes : List UInt8}
    {i : Inspection} :
    inspect layout slots? bytes = .ok i ↔
      ∃ frames, decodeFrames layout bytes = .ok frames ∧
        slots?.getD (inferSlots layout.size frames) ≤ frames.length ∧
        i = inspectFrames layout (slots?.getD (inferSlots layout.size frames)) frames := by
  cases hdecode : decodeFrames layout bytes with
  | error e =>
    rw [inspect, hdecode]
    exact ⟨nofun, nofun⟩
  | ok frames =>
    rw [inspect, hdecode]
    simp only
    split_ifs with hslots
    · constructor
      · nofun
      · rintro ⟨_, hframes, hle, -⟩
        cases hframes
        omega
    · constructor
      · intro h
        exact ⟨frames, rfl, Nat.le_of_not_lt hslots, (Except.ok.inj h).symm⟩
      · rintro ⟨_, hframes, -, rfl⟩
        cases hframes
        rfl

namespace Image

variable {image : Image}

theorem IsTiled.decodeFrames_bytes (h : image.IsTiled) :
    decodeFrames image.layout image.bytes = .ok (image.records.map Record.frame) := by
  refine decodeFrames_eq_ok_iff.mpr ⟨fun f hf => ?_, ?_⟩
  · obtain ⟨r, hr, rfl⟩ := List.mem_map.mp hf
    obtain ⟨i, hi⟩ := h.isAt_of_mem hr
    exact hi.isEncodable
  · rw [bytes, List.flatMap_map]
    refine List.flatMap_congr fun r hr => ?_
    obtain ⟨i, hi⟩ := h.isAt_of_mem hr
    exact hi.bytes_eq

/-- An image with as many records as slots is inspected, with the slot zone's end given. -/
theorem IsTiled.inspect_bytes (h : image.IsTiled)
    (hslots : image.slotCount ≤ image.records.length) :
    inspect image.layout (some image.slotCount) image.bytes
      = .ok (inspectFrames image.layout image.slotCount (image.records.map Record.frame)) :=
  inspect_eq_ok_iff.mpr ⟨_, h.decodeFrames_bytes, List.length_map Record.frame ▸ hslots, rfl⟩

theorem getElem?_inspectFrames {layout : FrameLayout} {slots i : Nat} {frames : List Frame} :
    (inspectFrames layout slots frames).frames[i]?
      = frames[i]?.map (inspectFrame layout.size slots i) := by
  rw [inspectFrames, ← List.mapIdx_eq_zipIdx_map
    (f := fun i f => inspectFrame layout.size slots i f), List.getElem?_mapIdx]

/-- The frames of an inspection are those that it was made of, each with what the inspection
says about it. -/
theorem getElem?_inspectFrames_eq_some_iff {layout : FrameLayout} {slots i : Nat}
    {frames : List Frame} {g : InspectedFrame} :
    (inspectFrames layout slots frames).frames[i]? = some g ↔
      ∃ f, frames[i]? = some f ∧ inspectFrame layout.size slots i f = g := by
  rw [getElem?_inspectFrames, Option.map_eq_some_iff]

theorem getElem?_inspectFrames_of_eq {layout : FrameLayout} {slots i : Nat}
    {frames : List Frame} {f : Frame} (h : frames[i]? = some f) :
    (inspectFrames layout slots frames).frames[i]?
      = some (inspectFrame layout.size slots i f) :=
  getElem?_inspectFrames_eq_some_iff.mpr ⟨f, h, rfl⟩

theorem length_inspectFrames {layout : FrameLayout} {slots : Nat} {frames : List Frame} :
    (inspectFrames layout slots frames).frames.length = frames.length := by
  rw [inspectFrames, List.length_map, List.length_zipIdx]

/-- Address, zone and frame of every record are recovered. -/
theorem IsTiled.inspectFrames_frames (h : image.IsTiled) :
    (inspectFrames image.layout image.slotCount (image.records.map Record.frame)).frames.map
        (fun f => (f.address, f.zone, f.frame))
      = image.records.map fun r => (r.address, r.zone, r.frame) := by
  apply List.ext_getElem?
  intro i
  rw [List.getElem?_map, getElem?_inspectFrames, List.getElem?_map, List.getElem?_map]
  cases hr : image.records[i]? with
  | none => rfl
  | some r =>
    have hplace := h i r hr
    show some (i * image.layout.size, Zone.ofIndex image.slotCount i, r.frame)
        = some (r.address, r.zone, r.frame)
    rw [hplace.address_eq, hplace.zone_eq]

end Image

/-! ### Problems -/

theorem problem?_slot {size slots frames slot : Nat} {relay : Relay} {p : Problem}
    (h : problem? size slots frames slot relay = some p) : p.slot = slot := by
  unfold problem? at h
  simp only at h
  split_ifs at h <;> cases h <;> rfl

/-- A relay has no problem exactly if it starts at a frame, names at least one frame, and all
frames that it names lie in the extended zone. -/
theorem problem?_eq_none_iff {size slots frames slot : Nat} {relay : Relay}
    (hsize : 0 < size) :
    problem? size slots frames slot relay = none ↔ relay.Resolves size slots frames := by
  have hcount : relay.count = 0 ↔ relay.count.toNat = 0 := UInt8.toNat_inj.symm
  unfold problem? Relay.Resolves Relay.spanEnd
  simp only
  constructor
  · intro h
    split_ifs at h with haligned hzone hzero
    -- an aligned start is `size * q`, and the factor cancels from both bounds
    have hdvd : size ∣ relay.offset.toNat := Nat.dvd_of_mod_eq_zero (not_not.mp haligned)
    obtain ⟨q, hq⟩ := hdvd
    rw [not_or, Nat.not_lt, Nat.not_lt, hq, Nat.mul_comm size q, ← Nat.add_mul] at hzone
    have hstart : slots ≤ q := Nat.le_of_mul_le_mul_right hzone.1 hsize
    have hstop : q + relay.count.toNat ≤ frames := Nat.le_of_mul_le_mul_right hzone.2 hsize
    rw [hcount] at hzero
    refine ⟨⟨q, hq⟩, by omega, fun j hj => ?_⟩
    rw [hq, Nat.mul_div_cancel_left q hsize]
    omega
  · rintro ⟨⟨q, hq⟩, hpos, hspan⟩
    rw [hq, Nat.mul_div_cancel_left q hsize] at hspan
    -- the bounds of the whole span are those of its first and of its last frame
    have hfirst := hspan 0 (by omega)
    have hlast := hspan (relay.count.toNat - 1) (by omega)
    have hstart : slots * size ≤ q * size := Nat.mul_le_mul_right size (by omega)
    have hstop : (q + relay.count.toNat) * size ≤ frames * size :=
      Nat.mul_le_mul_right size (by omega)
    rw [hq, Nat.mul_comm size q, ← Nat.add_mul]
    rw [if_neg (by rw [Nat.mul_mod_left]; exact not_not.mpr rfl), if_neg (by omega),
      if_neg (by rw [hcount]; omega)]

theorem problemAt?_eq_some_iff {size slots frames index : Nat} {f : Frame} {p : Problem} :
    problemAt? size slots frames index f = some p ↔
      index < slots ∧ ∃ relay, f.relay? = some relay ∧
        problem? size slots frames index relay = some p := by
  unfold problemAt?
  split_ifs with hindex
  · rw [Option.bind_eq_some_iff]
    exact (and_iff_right hindex).symm
  · exact ⟨nofun, fun h => absurd h.1 hindex⟩

theorem problemAt?_slot {size slots frames index : Nat} {f : Frame} {p : Problem}
    (h : problemAt? size slots frames index f = some p) : p.slot = index := by
  obtain ⟨-, relay, -, hproblem⟩ := problemAt?_eq_some_iff.mp h
  exact problem?_slot hproblem

/-- The problems are those of the containers in the slot zone. -/
theorem mem_problems_iff {layout : FrameLayout} {slots : Nat} {frames : List Frame}
    {p : Problem} :
    p ∈ (inspectFrames layout slots frames).problems ↔
      ∃ f relay, p.slot < slots ∧ frames[p.slot]? = some f ∧ f.relay? = some relay ∧
        problem? layout.size slots frames.length p.slot relay = some p := by
  constructor
  · intro h
    obtain ⟨⟨f, i⟩, hmem, hp⟩ := List.mem_filterMap.mp h
    have hf := List.mem_zipIdx_iff_getElem?.mp hmem
    have hslot := problemAt?_slot hp
    obtain ⟨hi, relay, hrelay, hproblem⟩ := problemAt?_eq_some_iff.mp hp
    rw [hslot]
    exact ⟨f, relay, hi, hf, hrelay, hproblem⟩
  · rintro ⟨f, relay, hlt, hf, hrelay, hproblem⟩
    exact List.mem_filterMap.mpr ⟨(f, p.slot), List.mem_zipIdx_iff_getElem?.mpr hf,
      problemAt?_eq_some_iff.mpr ⟨hlt, relay, hrelay, hproblem⟩⟩

/-- A container of the slot zone has a problem exactly if it does not resolve. -/
theorem exists_problem_iff {layout : FrameLayout} {slots k : Nat} {frames : List Frame}
    {f : Frame} {relay : Relay} (hk : k < slots) (hf : frames[k]? = some f)
    (hrelay : f.relay? = some relay) :
    (∃ p ∈ (inspectFrames layout slots frames).problems, p.slot = k) ↔
      ¬ relay.Resolves layout.size slots frames.length := by
  have hproblem? : problem? layout.size slots frames.length k relay = none ↔ _ :=
    problem?_eq_none_iff layout.size_pos
  rw [← hproblem?]
  constructor
  · rintro ⟨p, hp, rfl⟩ hnone
    obtain ⟨g, relay', -, hg, hrelay', hproblem⟩ := mem_problems_iff.mp hp
    rw [hf, Option.some_inj] at hg
    subst hg
    rw [hrelay, Option.some_inj] at hrelay'
    subst hrelay'
    rw [hnone] at hproblem
    cases hproblem
  · intro hsome
    obtain ⟨p, hproblem⟩ := Option.ne_none_iff_exists'.mp hsome
    have hslot := problem?_slot hproblem
    subst hslot
    exact ⟨p, mem_problems_iff.mpr ⟨f, relay, hk, hf, hrelay, hproblem⟩, rfl⟩

namespace SlotTable

variable {t : SlotTable}

/-- The container of every relocated slot resolves. -/
theorem headAt_resolves (hv : t.IsValid) {k : Nat} {s : Slot} {relay : Relay}
    (hk : t.slots[k]? = some s) (hrel : s.isRelocated = true)
    (hoffset : relay.offset.toNat = t.sequenceStart k)
    (hcount : relay.count.toNat = s.frames.length) :
    relay.Resolves t.layout.size t.config.slotCount t.layOut.records.length := by
  have hfit := relocatedCount_take_add_le hk
  have hlen := Slot.isRelocated_iff.mp hrel
  rw [Slot.sequence_of_relocated hrel] at hfit
  have hindex : t.sequenceStart k / t.layout.size
      = t.config.slotCount + relocatedCount (t.slots.take k) :=
    Nat.mul_div_cancel _ t.layout.size_pos
  rw [Relay.Resolves, hoffset, hcount, hindex, length_layOut_records hv]
  exact ⟨Nat.dvd_mul_left _ _, by omega, fun j hj => by omega⟩

/-! ### Compiled images -/

/-- A problem of a compiled image is one of a container that was declared, not of one that the
allocator made. -/
theorem mem_problems_layOut (hv : t.IsValid) (hspace : t.imageSize ≤ addressSpace)
    {p : Problem}
    (hp : p ∈ (inspectFrames t.layout t.config.slotCount
      (t.layOut.records.map Record.frame)).problems) :
    ∃ s f, t.slots[p.slot]? = some s ∧ s.frames = [f] ∧ f.relay?.isSome := by
  obtain ⟨f, relay, hlt, hf, hrelay, hproblem⟩ := mem_problems_iff.mp hp
  rw [← hv.length_slots] at hlt
  have hk := List.getElem?_eq_getElem hlt
  rw [List.getElem?_map, layOut_records_slot hk] at hf
  have hhead : t.headAt p.slot t.slots[p.slot] = f := Option.some.inj hf
  rcases Slot.single_or_relocated (hv.slots_valid _ (List.getElem_mem hlt)).frames_ne_nil with
    ⟨g, hg⟩ | ⟨g, g', rest, hg⟩
  · rw [headAt, Slot.head_of_single _ _ _ hg] at hhead
    exact ⟨_, g, hk, hg, by rw [hhead, hrelay]; rfl⟩
  · have hrel := Slot.isRelocated_of_cons_cons hg
    obtain ⟨relay', hrelay', hoffset, hcount, -⟩ := headAt_relay hv hspace hk hrel
    rw [hhead, hrelay, Option.some_inj] at hrelay'
    subst hrelay'
    -- the container resolves, so the problem that was found is none
    have hresolves := headAt_resolves hv hk hrel hoffset hcount
    rw [List.length_map, (problem?_eq_none_iff t.layout.size_pos).mpr hresolves] at hproblem
    cases hproblem

/-- Inspecting a compiled image recovers its layout. -/
theorem inspect_allocate {image : Image} (h : t.allocate = .ok image) :
    ∃ inspection, inspect t.layout (some t.config.slotCount) image.bytes = .ok inspection ∧
      (inspection.frames.map fun f => (f.address, f.zone, f.frame))
        = (image.records.map fun r => (r.address, r.zone, r.frame)) ∧
      (∀ k s, t.slots[k]? = some s → 1 < s.frames.length →
        ∃ f relay, inspection.frames[k]? = some f ∧ f.relay = some relay ∧
          relay.offset.toNat = t.layout.size
            * (t.config.slotCount + relocatedCount (t.slots.take k)) ∧
          relay.count.toNat = s.frames.length) ∧
      (∀ p ∈ inspection.problems,
        ∃ s f, t.slots[p.slot]? = some s ∧ s.frames = [f] ∧ f.relay?.isSome) ∧
      ((∀ s ∈ t.slots, ∀ f, s.frames = [f] → f.relay? = none) →
        inspection.isConsistent = true) := by
  obtain ⟨hv, hsize, rfl⟩ := allocate_eq_ok_iff.mp h
  have hspace : t.imageSize ≤ addressSpace := Nat.le_trans hsize t.sizeLimit_le
  have htiled := layOut_isTiled hv
  have hslots : t.config.slotCount ≤ t.layOut.records.length := by
    rw [length_layOut_records hv]
    exact Nat.le_add_right _ _
  refine ⟨_, htiled.inspect_bytes hslots, htiled.inspectFrames_frames, ?_,
    fun p hp => mem_problems_layOut hv hspace hp, ?_⟩
  · intro k s hk hlen
    have hrel := Slot.isRelocated_iff.mpr hlen
    obtain ⟨relay, hrelay, hoffset, hcount, -⟩ := headAt_relay hv hspace hk hrel
    rw [sequenceStart, Nat.mul_comm] at hoffset
    refine ⟨inspectFrame t.layout.size t.config.slotCount k (t.headAt k s), relay, ?_, hrelay,
      hoffset, hcount⟩
    rw [Image.getElem?_inspectFrames, List.getElem?_map, layOut_records_slot hk]
    rfl
  · intro hplain
    refine List.isEmpty_iff.mpr (List.eq_nil_iff_forall_not_mem.mpr fun p hp => ?_)
    obtain ⟨s, f, hk, hf, hrelay⟩ := mem_problems_layOut hv hspace hp
    rw [hplain s (List.mem_of_getElem? hk) f hf] at hrelay
    cases hrelay

/-- Both relocated slots of the table are recovered, and the single frame between them is no
container. -/
theorem inspect_mixedTable :
    mixedTable.allocate = .ok mixedTable.layOut ∧
      ∃ inspection, inspect mixedTable.layout (some 3) mixedTable.layOut.bytes
        = .ok inspection ∧
        inspection.isConsistent = true := by
  have hplain : ∀ s ∈ mixedTable.slots, ∀ f ∈ s.frames, s.frames.length = 1 →
      f.relay? = none := by decide
  obtain ⟨inspection, hinspect, -, -, -, hconsistent⟩ := inspect_allocate allocate_mixedTable
  refine ⟨allocate_mixedTable, inspection, hinspect, hconsistent ?_⟩
  intro s hs f hf
  exact hplain s hs f (by rw [hf]; exact List.mem_singleton_self f) (by rw [hf]; rfl)

end SlotTable
end EepromImage
