/-
What the verdict on an inspected image means.

A container resolves if the frames that it names are frames of the extended zone.  The test
behind the verdict compares addresses of bytes instead: the start and the end of the span
against the ends of the zones.

* `resolves_inspectFrames_iff` — the two come to the same;
* `pairwise_slot_problems` — the problems are in the order of the slots, no two of one slot;
* `problems_verdict` — they are those of the containers that do not resolve, and there is none
  exactly if all do.
-/
import EepromImage.Proofs.Image.Inspection

namespace EepromImage

namespace Inspection

/-! ### Containers of an inspected image -/

/-- The relay starts at a frame and names at least one, and all frames that it names are
there, in the extended zone. -/
def Resolves (i : Inspection) (relay : Relay) : Prop :=
  i.layout.size ∣ relay.offset.toNat ∧ 1 ≤ relay.count.toNat ∧
    ∀ j < relay.count.toNat,
      ∃ g, i.frames[relay.offset.toNat / i.layout.size + j]? = some g ∧ g.zone = .extended

/-- The frame with this number is a container that does not resolve. -/
def IsUnresolved (i : Inspection) (k : Nat) : Prop :=
  ∃ f relay, i.frames[k]? = some f ∧ f.frame.relay? = some relay ∧ ¬ i.Resolves relay

theorem isConsistent_iff {i : Inspection} :
    i.isConsistent = true ↔ i.problems.map Problem.slot = [] := by
  rw [isConsistent, List.isEmpty_iff, List.map_eq_nil_iff]

end Inspection

section

variable {layout : FrameLayout} {slots k : Nat} {frames : List Frame} {relay : Relay}

/-- A frame of the extended zone is one behind the slots. -/
theorem exists_extended_iff {index : Nat} :
    (∃ g, (inspectFrames layout slots frames).frames[index]? = some g ∧ g.zone = .extended) ↔
      slots ≤ index ∧ index < frames.length := by
  simp only [Image.getElem?_inspectFrames_eq_some_iff]
  constructor
  · rintro ⟨_, ⟨f, hf, rfl⟩, hzone⟩
    refine ⟨?_, (List.getElem?_eq_some_iff.mp hf).choose⟩
    by_contra hlt
    have hslot : Zone.ofIndex slots index = .slot := if_pos (Nat.lt_of_not_le hlt)
    cases hslot.symm.trans hzone
  · rintro ⟨hle, hlt⟩
    exact ⟨_, ⟨_, List.getElem?_eq_getElem hlt, rfl⟩, if_neg (Nat.not_lt.mpr hle)⟩

theorem resolves_inspectFrames_iff :
    (inspectFrames layout slots frames).Resolves relay ↔
      relay.Resolves layout.size slots frames.length := by
  unfold Inspection.Resolves Relay.Resolves
  simp only [exists_extended_iff]
  rfl

theorem isUnresolved_inspectFrames_iff :
    (inspectFrames layout slots frames).IsUnresolved k ↔
      ∃ f relay, frames[k]? = some f ∧ f.relay? = some relay ∧
        ¬ relay.Resolves layout.size slots frames.length := by
  unfold Inspection.IsUnresolved
  simp only [resolves_inspectFrames_iff, Image.getElem?_inspectFrames_eq_some_iff]
  constructor
  · rintro ⟨_, relay, ⟨f, hf, rfl⟩, hrelay, hresolves⟩
    exact ⟨f, relay, hf, hrelay, hresolves⟩
  · rintro ⟨f, relay, hf, hrelay, hresolves⟩
    exact ⟨_, relay, ⟨f, hf, rfl⟩, hrelay, hresolves⟩

/-! ### The list of problems -/

/-- The problems are in the order of the slots, no two of one slot. -/
theorem pairwise_slot_problems :
    ((inspectFrames layout slots frames).problems.map Problem.slot).Pairwise (· < ·) := by
  rw [List.pairwise_map]
  refine (pairwise_snd_zipIdx frames).filterMap _ ?_
  intro x y hlt p hp q hq
  rw [problemAt?_slot hp, problemAt?_slot hq]
  exact hlt

theorem mem_slot_problems_iff :
    k ∈ (inspectFrames layout slots frames).problems.map Problem.slot ↔
      k < slots ∧ (inspectFrames layout slots frames).IsUnresolved k := by
  rw [List.mem_map, isUnresolved_inspectFrames_iff]
  constructor
  · rintro ⟨p, hp, rfl⟩
    obtain ⟨f, relay, hlt, hf, hrelay, -⟩ := mem_problems_iff.mp hp
    exact ⟨hlt, f, relay, hf, hrelay, (exists_problem_iff hlt hf hrelay).mp ⟨p, hp, rfl⟩⟩
  · rintro ⟨hlt, f, relay, hf, hrelay, hresolves⟩
    exact (exists_problem_iff hlt hf hrelay).mpr hresolves

end

/-- The verdict says which containers of the slot zone do not resolve: the problems are
theirs, one for each, in the order of the slots, and the image is consistent exactly if all of
them resolve. -/
theorem problems_verdict {layout : FrameLayout} {slots? : Option Nat} {bytes : List UInt8}
    {i : Inspection} (h : inspect layout slots? bytes = .ok i) :
    i.layout = layout ∧ (i.problems.map Problem.slot).Pairwise (· < ·) ∧
    (∀ k, k ∈ i.problems.map Problem.slot ↔ k < i.slotCount ∧ i.IsUnresolved k) ∧
    (i.isConsistent = true ↔
      ∀ k f relay, k < i.slotCount → i.frames[k]? = some f → f.frame.relay? = some relay →
        i.Resolves relay) := by
  obtain ⟨frames, -, -, rfl⟩ := inspect_eq_ok_iff.mp h
  refine ⟨rfl, pairwise_slot_problems, fun k => mem_slot_problems_iff, ?_⟩
  rw [Inspection.isConsistent_iff, List.eq_nil_iff_forall_not_mem]
  simp only [mem_slot_problems_iff]
  constructor
  · intro hnone k f relay hk hf hrelay
    by_contra hresolves
    exact hnone k ⟨hk, f, relay, hf, hrelay, hresolves⟩
  · rintro hall k ⟨hk, f, relay, hf, hrelay, hresolves⟩
    exact hresolves (hall k f relay hk hf hrelay)

/-- Three containers in front of two other frames: one for both of these, up to the end of the
image, one for no frame, there as well, and one that starts inside a frame. -/
def verdictFrames : List Frame :=
  let other := Frame.withArgs 0x01 0x02 none 0x00 .empty
  [Frame.container 0 33 2 .standard, Frame.container 0 55 0 .standard,
    Frame.container 0 34 1 .standard, other, other]

/-- The first container resolves, the other two are the problems. -/
theorem problems_verdict_verdictFrames :
    ∃ i, inspect .standard (some 3) (verdictFrames.flatMap (Frame.recordBytes .standard))
        = .ok i ∧
      0 ∉ i.problems.map Problem.slot ∧ 1 ∈ i.problems.map Problem.slot ∧
        2 ∈ i.problems.map Problem.slot ∧
      i.isConsistent = false := by
  have hfaults : ∀ f ∈ verdictFrames, f.encodingFault? .standard = none := by decide
  have hdecode := decodeFrames_eq_ok_iff.mpr
    ⟨fun f hf => Frame.encodingFault?_eq_none_iff.mp (hfaults f hf), rfl⟩
  have hinspect : inspect .standard (some 3)
      (verdictFrames.flatMap (Frame.recordBytes .standard))
      = .ok (inspectFrames .standard 3 verdictFrames) :=
        inspect_eq_ok_iff.mpr ⟨_, hdecode, by decide, rfl⟩
  obtain ⟨-, -, hmem, hconsistent⟩ := problems_verdict hinspect
  have hboth : Relay.Resolves 11 3 5 ⟨33, 2, Storage.eeprom⟩ :=
    ⟨by decide, by decide, by decide⟩
  have hnone : ¬ (inspectFrames .standard 3 verdictFrames).Resolves ⟨55, 0, Storage.eeprom⟩ :=
    fun h => absurd h.2.1 (by decide)
  have hinside :
      ¬ (inspectFrames .standard 3 verdictFrames).Resolves ⟨34, 1, Storage.eeprom⟩ :=
    fun h => absurd h.1 (by decide)
  refine ⟨_, hinspect, ?_, (hmem 1).mpr ⟨by decide, _, _, rfl, rfl, hnone⟩,
    (hmem 2).mpr ⟨by decide, _, _, rfl, rfl, hinside⟩, ?_⟩
  · intro hzero
    obtain ⟨f, relay, hf, hrelay, hresolves⟩ :=
      isUnresolved_inspectFrames_iff.mp ((hmem 0).mp hzero).2
    have hfirst : Frame.container 0 33 2 .standard = f := Option.some.inj hf
    rw [← hfirst, Frame.relay?_container, Option.some_inj] at hrelay
    exact hresolves (hrelay ▸ hboth)
  · refine Bool.eq_false_iff.mpr fun hall => ?_
    exact hnone (hconsistent.mp hall 1 _ _ (by decide) rfl rfl)

end EepromImage
