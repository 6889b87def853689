/-
Containers that relay to another storage than EEPROM.

The offset of such a container is no EEPROM address, but reading an image back holds every
container of the slot zone to the same rule, whatever its storage selector:

* `inferSlots_eq_eepromOnly_iff` — the containers for other storages move the inferred end of
  the slot zone exactly if one of them relays forward in front of it;
* `ram_container_misjudged` — so a container for RAM can be reported, and can cut the slot
  zone short;
* `inspect_blind_to_storage` — what an inspection says about containers of any storage.
-/
import EepromImage.Proofs.Image.Boundary

namespace EepromImage

/-! ### Containers for EEPROM only -/

/-- The frame without its command, if it is a container for another storage than EEPROM. -/
def Frame.eepromOnly (f : Frame) : Frame :=
  match f.relay? with
  | some relay => if relay.fromEeprom then f else { f with command := 0 }
  | none => f

theorem Frame.relay?_eepromOnly (f : Frame) :
    f.eepromOnly.relay? = f.relay?.filter Relay.fromEeprom := by
  unfold Frame.eepromOnly
  split
  · rename_i relay hrelay
    rw [hrelay, Option.filter_some]
    split_ifs
    · exact hrelay
    · rfl
  · rename_i hrelay
    rw [hrelay]
    rfl

section Inference

variable {size boundary : Nat} {frames : List Frame}

theorem isSelfConsistent_eepromOnly_iff :
    IsSelfConsistent size (frames.map Frame.eepromOnly) boundary ↔
      ∀ i f relay, frames[i]? = some f → f.relay? = some relay → relay.fromEeprom = true →
        i < relay.offset.toNat / size → boundary ≤ relay.offset.toNat / size := by
  constructor
  · intro h i f relay hf hrelay heeprom hforward
    have hget : (frames.map Frame.eepromOnly)[i]? = some f.eepromOnly := by
      rw [List.getElem?_map, hf]; rfl
    refine h i f.eepromOnly _ hget ⟨relay, ?_, rfl, hforward⟩
    rw [Frame.relay?_eepromOnly, hrelay, Option.filter_some, if_pos heeprom]
  · rintro h i g target hg ⟨relay, hrelay, rfl, hforward⟩
    rw [List.getElem?_map] at hg
    obtain ⟨f, hf, rfl⟩ := Option.map_eq_some_iff.mp hg
    rw [Frame.relay?_eepromOnly] at hrelay
    obtain ⟨hsome, heeprom⟩ := Option.filter_eq_some_iff.mp hrelay
    exact h i f relay hf hsome heeprom hforward

theorem IsSelfConsistent.eepromOnly (h : IsSelfConsistent size frames boundary) :
    IsSelfConsistent size (frames.map Frame.eepromOnly) boundary :=
  isSelfConsistent_eepromOnly_iff.mpr fun i f relay hf hrelay _ hforward =>
    h i f _ hf ⟨relay, hrelay, rfl, hforward⟩

/-- Containers for other storages can only move the end of the slot zone to the front. -/
theorem inferSlots_le_eepromOnly (size : Nat) (frames : List Frame) :
    inferSlots size frames ≤ inferSlots size (frames.map Frame.eepromOnly) := by
  refine (isSelfConsistent_inferSlots size frames).eepromOnly.le_inferSlots ?_
  rw [List.length_map]
  exact inferSlots_le size frames

/-- They do not move it exactly if none of them relays forward in front of it. -/
theorem inferSlots_eq_eepromOnly_iff (size : Nat) (frames : List Frame) :
    inferSlots size frames = inferSlots size (frames.map Frame.eepromOnly) ↔
      ∀ i f relay, frames[i]? = some f → f.relay? = some relay → relay.fromEeprom = false →
        i < relay.offset.toNat / size →
        inferSlots size (frames.map Frame.eepromOnly) ≤ relay.offset.toNat / size := by
  constructor
  · intro heq i f relay hf hrelay _ hforward
    rw [← heq]
    exact isSelfConsistent_inferSlots size frames i f _ hf ⟨relay, hrelay, rfl, hforward⟩
  · intro hforeign
    refine Nat.le_antisymm (inferSlots_le_eepromOnly size frames) ?_
    have heeprom :=
      isSelfConsistent_eepromOnly_iff.mp
        (isSelfConsistent_inferSlots size (frames.map Frame.eepromOnly))
    have hle := inferSlots_le size (frames.map Frame.eepromOnly)
    rw [List.length_map] at hle
    -- the boundary found without the other containers is self-consistent with them, so the
    -- scan does not fall behind it
    refine IsSelfConsistent.le_inferSlots ?_ hle
    rintro i f target hf ⟨relay, hrelay, rfl, hforward⟩
    cases hstorage : relay.fromEeprom with
    | true => exact heeprom i f relay hf hrelay hstorage hforward
    | false => exact hforeign i f relay hf hrelay hstorage hforward

end Inference

/-! ### A container for RAM -/

/-- The image of a table may hold a container for RAM in the slot zone that is reported, and
without which more of the slot zone would be found. -/
theorem ram_container_misjudged :
    ¬ (∀ layout slots? bytes inspection, inspect layout slots? bytes = .ok inspection →
        ∀ p ∈ inspection.problems, ∃ f relay, inspection.frames[p.slot]? = some f ∧
          f.relay = some relay ∧
          relay.fromEeprom = true) ∧
    ¬ (∀ layout bytes frames inspection, decodeFrames layout bytes = .ok frames →
        inspect layout none bytes = .ok inspection →
        inspection.slotCount = inferSlots layout.size (frames.map Frame.eepromOnly)) := by
  have hallocate : (SlotTable.relayTable 9 Storage.ram).allocate
      = .ok (SlotTable.relayTable 9 Storage.ram).layOut := by
    decide
  obtain ⟨hv, -, -⟩ := SlotTable.allocate_eq_ok_iff.mp hallocate
  have htiled := SlotTable.layOut_isTiled hv
  constructor
  · intro h
    have hram :
        ∀ f ∈ ((SlotTable.relayTable 9 Storage.ram).layOut.records.map Record.frame)[0]?,
        ∀ relay ∈ f.relay?, relay.fromEeprom = false := by decide
    obtain ⟨f, relay, hf, hrelay, heeprom⟩ :=
      h _ _ _ _ (htiled.inspect_bytes (by decide)) (.outside 0 9 18 27 45) (by decide)
    rw [Image.getElem?_inspectFrames] at hf
    obtain ⟨g, hg, rfl⟩ := Option.map_eq_some_iff.mp hf
    rw [hram g hg relay hrelay] at heeprom
    cases heeprom
  · intro h
    have hcount :=
      h _ _ _ _ htiled.decodeFrames_bytes (inspect_none htiled.decodeFrames_bytes)
    revert hcount
    decide

/-! ### Inspections -/

/-- What an inspection says about containers of any storage: a problem is one of a container
in the slot zone, such a container has one exactly if it does not resolve, and the inferred
slot zone is the one of the containers for EEPROM exactly if no other container relays forward
in front of its end. -/
theorem inspect_blind_to_storage {layout : FrameLayout} {slots? : Option Nat}
    {bytes : List UInt8} {inspection : Inspection}
    (h : inspect layout slots? bytes = .ok inspection) :
    (∀ p ∈ inspection.problems, ∃ f relay, p.slot < inspection.slotCount ∧
      inspection.frames[p.slot]? = some f ∧ f.relay = some relay) ∧
    (∀ k f relay, k < inspection.slotCount → inspection.frames[k]? = some f →
      f.relay = some relay →
      ((∃ p ∈ inspection.problems, p.slot = k) ↔
        ¬ relay.Resolves layout.size inspection.slotCount inspection.frames.length)) ∧
    (slots? = none → ∃ frames boundary, decodeFrames layout bytes = .ok frames ∧
      boundary = inferSlots layout.size (frames.map Frame.eepromOnly) ∧
        inspection.slotCount ≤ boundary ∧
      (inspection.slotCount = boundary ↔
        ∀ i f relay, frames[i]? = some f → f.relay? = some relay → relay.fromEeprom = false →
          ¬ (i < relay.offset.toNat / layout.size ∧
            relay.offset.toNat / layout.size < boundary))) := by
  obtain ⟨frames, hdecode, -, rfl⟩ := inspect_eq_ok_iff.mp h
  refine ⟨fun p hp => ?_, fun k f relay hk hf hrelay => ?_, ?_⟩
  · obtain ⟨f, relay, hlt, hf, hrelay, -⟩ := mem_problems_iff.mp hp
    exact ⟨_, relay, hlt, Image.getElem?_inspectFrames_of_eq hf, hrelay⟩
  · rw [Image.getElem?_inspectFrames] at hf
    obtain ⟨g, hg, rfl⟩ := Option.map_eq_some_iff.mp hf
    rw [Image.length_inspectFrames]
    exact exists_problem_iff hk hg hrelay
  · rintro rfl
    refine ⟨frames, _, hdecode, rfl, inferSlots_le_eepromOnly _ _, ?_⟩
    simp only [not_and, Nat.not_lt]
    exact inferSlots_eq_eepromOnly_iff _ _

/-- The container for RAM in the first slot has a problem once the number of slots is given,
and cuts the slot zone short otherwise. -/
theorem inspect_relayTable_ram :
    (SlotTable.relayTable 9 Storage.ram).allocate
      = .ok (SlotTable.relayTable 9 Storage.ram).layOut ∧
    (∃ inspection, inspect ⟨9, by decide, by decide⟩ (some 3)
      (SlotTable.relayTable 9 Storage.ram).layOut.bytes
        = .ok inspection ∧ ∃ p ∈ inspection.problems, p.slot = 0) ∧
    ∃ inspection, inspect ⟨9, by decide, by decide⟩ none
      (SlotTable.relayTable 9 Storage.ram).layOut.bytes
        = .ok inspection ∧ inspection.slotCount < 3 := by
  have hallocate : (SlotTable.relayTable 9 Storage.ram).allocate
      = .ok (SlotTable.relayTable 9 Storage.ram).layOut := by
    decide
  obtain ⟨hv, -, -⟩ := SlotTable.allocate_eq_ok_iff.mp hallocate
  have htiled := SlotTable.layOut_isTiled hv
  have hgiven := htiled.inspect_bytes (by decide)
  have hinferred := inspect_none htiled.decodeFrames_bytes
  obtain ⟨-, hproblem, -⟩ := inspect_blind_to_storage hgiven
  obtain ⟨-, -, hinfer⟩ := inspect_blind_to_storage hinferred
  have hfirst :=
    SlotTable.layOut_frames_slot (t := SlotTable.relayTable 9 Storage.ram) (k := 0) rfl
  refine ⟨hallocate, ⟨_, hgiven, ?_⟩, _, hinferred, ?_⟩
  · refine (hproblem 0 _ ⟨9, 1, Storage.ram⟩ (by decide)
      (Image.getElem?_inspectFrames_of_eq hfirst) rfl).mpr ?_
    rintro ⟨-, -, hspan⟩
    have hstart := (hspan 0 (by decide)).1
    revert hstart
    decide
  · obtain ⟨frames, boundary, hdecode, rfl, hle, hexact⟩ := hinfer rfl
    rw [htiled.decodeFrames_bytes] at hdecode
    cases hdecode
    exact Nat.lt_of_le_of_ne hle fun heq =>
      hexact.mp heq 0 _ ⟨9, 1, Storage.ram⟩ hfirst rfl rfl (by decide)

end EepromImage
