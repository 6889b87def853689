/-
What the checks of a slot table establish.

* `SlotTable.IsValid` — as many slots as declared; in every slot between one and 255 frames;
  every frame with a number of arguments that the catalog allows, if it knows the command, and
  with a record in the layout;
* `validate_eq_ok_iff` — exactly these tables pass.
-/
import EepromImage.Proofs.Frame.RoundTrip
import EepromImage.Table.Basic

namespace EepromImage

/-! ### Valid tables -/

/-- A frame that may be declared: its arguments suit its command, and it has a record. -/
structure Frame.IsValid (layout : FrameLayout) (f : Frame) : Prop where
  arity_accepts : ∀ c, Command.ofCode? f.command = some c → c.arity.accepts f.args.length
  isEncodable : f.IsEncodable layout

/-- A slot that a container could stand for. -/
structure Slot.IsValid (layout : FrameLayout) (s : Slot) : Prop where
  frames_ne_nil : s.frames ≠ []
  length_le : s.frames.length ≤ maxSlotFrames
  frames_valid : ∀ f ∈ s.frames, f.IsValid layout

/-- A table without faults. -/
structure SlotTable.IsValid (t : SlotTable) : Prop where
  length_slots : t.slots.length = t.config.slotCount
  slots_valid : ∀ s ∈ t.slots, s.IsValid t.layout

/-! ### Faults of the parts -/

/-- No part of a list has a fault exactly if the list of all findings has none. -/
theorem findSome?_zipIdx_flatMap_eq_none_iff {α β γ : Type*} {p : β → Option γ}
    {g : α × Nat → List β} {l : List α} :
    (l.zipIdx.flatMap g).findSome? p = none ↔ ∀ i a, l[i]? = some a →
      (g (a, i)).findSome? p = none := by
  simp only [List.findSome?_eq_none_iff, List.mem_flatMap, Prod.exists,
    List.mem_zipIdx_iff_getElem?]
  constructor
  · intro h i a ha b hb
    exact h b ⟨a, i, ha, hb⟩
  · rintro h b ⟨a, i, ha, hb⟩
    exact h i a ha b hb

theorem arityFindings_eq_some_iff {slot index : Nat} {f : Frame} {e : ImageError} :
    (arityFindings slot index f).findSome? Finding.fault? = some e ↔
      ∃ c, Command.ofCode? f.command = some c ∧ c.arity.accepts f.args.length = false ∧
        e = .invalidFrame slot index (.arity c f.args.length) := by
  rw [arityFindings, checkArity]
  cases Command.ofCode? f.command with
  | none =>
    constructor
    · intro h
      cases h
    · rintro ⟨c, hc, -⟩
      cases hc
  | some c =>
    cases hcount : c.arity.accepts f.args.length with
    | true =>
      simp only [hcount, if_true]
      constructor
      · intro h
        cases h
      · rintro ⟨c', hc', hcount', -⟩
        cases hc'
        cases hcount.symm.trans hcount'
    | false =>
      simp only [hcount, Bool.false_eq_true, if_false]
      constructor
      · intro h
        cases h
        exact ⟨c, rfl, hcount, rfl⟩
      · rintro ⟨c', hc', -, rfl⟩
        cases hc'
        rfl

theorem arityFindings_faultless_iff {slot index : Nat} {f : Frame} :
    (arityFindings slot index f).findSome? Finding.fault? = none ↔
      ∀ c, Command.ofCode? f.command = some c → c.arity.accepts f.args.length := by
  rw [Option.eq_none_iff_forall_ne_some]
  constructor
  · intro h c hc
    cases hcount : c.arity.accepts f.args.length with
    | true => rfl
    | false => exact absurd (arityFindings_eq_some_iff.mpr ⟨c, hc, hcount, rfl⟩) (h _)
  · intro h e he
    obtain ⟨c, hc, hcount, -⟩ := arityFindings_eq_some_iff.mp he
    rw [h c hc] at hcount
    cases hcount

theorem encodingFindings_eq_some_iff {layout : FrameLayout} {slot index : Nat} {f : Frame}
    {e : ImageError} :
    (encodingFindings layout slot index f).findSome? Finding.fault? = some e ↔
      ∃ cause, f.encode layout = .error cause ∧ e = .encoding slot index cause := by
  simp only [Frame.encode_eq_error_iff]
  rw [encodingFindings]
  cases f.encodingFault? layout with
  | none =>
    constructor
    · intro h
      cases h
    · rintro ⟨cause, hcause, -⟩
      cases hcause
  | some cause =>
    constructor
    · intro h
      cases h
      exact ⟨cause, rfl, rfl⟩
    · rintro ⟨cause', hcause', rfl⟩
      cases hcause'
      rfl

theorem encodingFindings_faultless_iff {layout : FrameLayout} {slot index : Nat} {f : Frame} :
    (encodingFindings layout slot index f).findSome? Finding.fault? = none ↔
      f.IsEncodable layout := by
  rw [← Frame.encodingFault?_eq_none_iff]
  cases hfault : f.encodingFault? layout with
  | none =>
    rw [encodingFindings, hfault]
    exact ⟨fun _ => rfl, fun _ => rfl⟩
  | some e =>
    rw [encodingFindings, hfault]
    exact ⟨nofun, nofun⟩

theorem frameFindings_faultless_iff {layout : FrameLayout} {slot index : Nat} {f : Frame} :
    (frameFindings layout slot index f).findSome? Finding.fault? = none ↔
      f.IsValid layout := by
  rw [frameFindings, List.findSome?_append, Option.or_eq_none_iff,
    arityFindings_faultless_iff, encodingFindings_faultless_iff]
  exact ⟨fun h => ⟨h.1, h.2⟩, fun h => ⟨h.arity_accepts, h.isEncodable⟩⟩

theorem slotFindings_faultless_iff {layout : FrameLayout} {index : Nat} {s : Slot} :
    (slotFindings layout index s).findSome? Finding.fault? = none ↔ s.IsValid layout := by
  unfold slotFindings
  split_ifs with hempty hlong
  · have hnil : s.frames = [] := List.isEmpty_iff.mp hempty
    exact ⟨nofun, fun h => absurd hnil h.frames_ne_nil⟩
  · exact ⟨nofun, fun h => absurd hlong (Nat.not_lt.mpr h.length_le)⟩
  · have hne : s.frames ≠ [] := fun hnil => hempty (List.isEmpty_iff.mpr hnil)
    -- neither empty nor too long: what remains to be found lies in the frames
    rw [findSome?_zipIdx_flatMap_eq_none_iff]
    constructor
    · intro h
      refine ⟨hne, Nat.le_of_not_lt hlong, fun f hf => ?_⟩
      obtain ⟨j, hj⟩ := List.mem_iff_getElem?.mp hf
      exact frameFindings_faultless_iff.mp (h j f hj)
    · intro h j f hj
      exact frameFindings_faultless_iff.mpr (h.frames_valid f (List.mem_of_getElem? hj))

/-! ### Tables -/

namespace SlotTable

variable {t : SlotTable}

theorem findings_faultless_iff : t.findings.findSome? Finding.fault? = none ↔ t.IsValid := by
  unfold findings
  split_ifs with hcount
  · exact ⟨nofun, fun h => absurd h.length_slots hcount⟩
  · rw [findSome?_zipIdx_flatMap_eq_none_iff]
    constructor
    · intro h
      refine ⟨not_not.mp hcount, fun s hs => ?_⟩
      obtain ⟨i, hi⟩ := List.mem_iff_getElem?.mp hs
      exact slotFindings_faultless_iff.mp (h i s hi)
    · intro h i s hi
      exact slotFindings_faultless_iff.mpr (h.slots_valid s (List.mem_of_getElem? hi))

/-- The checks pass exactly the valid tables. -/
theorem validate_eq_ok_iff : t.validate = .ok () ↔ t.IsValid := by
  rw [← findings_faultless_iff, validate, firstFault?]
  cases t.findings.findSome? Finding.fault? with
  | none => exact ⟨fun _ => rfl, fun _ => rfl⟩
  | some e => exact ⟨nofun, nofun⟩

end SlotTable
end EepromImage
