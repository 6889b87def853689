/-
The first fault of a slot table.

* `SlotTable.HasFault` — every fault of a table, whatever else is wrong with it;
* `ImageError.place` — where a fault stands: the table as a whole, then its slots in order; in
  a slot emptiness, the number of frames, then the frames in order; in a frame its arguments,
  then its record;
* `isFirst_of_findSome?` — the first finding in a list of parts is the first fault of the
  first part that has one;
* `validate_eq_error_iff` — a table is refused for the fault in front of all others;
* `validate_reports` — the same, and that a table without faults passes.
-/
import Mathlib.Data.List.Lex
import EepromImage.Proofs.Table.Validity

namespace EepromImage

/-! ### Faults -/

/-- What is wrong with frame `j` of slot `i`. -/
inductive Frame.HasFault (layout : FrameLayout) (i j : Nat) (f : Frame) : ImageError → Prop
  | arity {c : Command} (hc : Command.ofCode? f.command = some c)
    (h : c.arity.accepts f.args.length = false) :
      HasFault layout i j f (.invalidFrame i j (.arity c f.args.length))
  | encoding {cause : FrameError} (h : f.encode layout = .error cause) :
      HasFault layout i j f (.encoding i j cause)

/-- What is wrong with slot `i`. -/
inductive Slot.HasFault (layout : FrameLayout) (i : Nat) (s : Slot) : ImageError → Prop
  | empty (h : s.frames = []) : HasFault layout i s (.emptySlot i)
  | tooLong (h : 255 < s.frames.length) : HasFault layout i s (.slotTooLong i s.frames.length)
  | frame {j : Nat} {f : Frame} {e : ImageError} (hf : s.frames[j]? = some f)
      (h : f.HasFault layout i j e) :
      HasFault layout i s e

/-- What is wrong with the table. -/
inductive SlotTable.HasFault (t : SlotTable) : ImageError → Prop
  | slotCount (h : t.slots.length ≠ t.config.slotCount) :
      HasFault t (.slotCount t.config.slotCount t.slots.length)
  | slot {i : Nat} {s : Slot} {e : ImageError} (hs : t.slots[i]? = some s)
      (h : s.HasFault t.layout i e) : HasFault t e

/-! ### Places -/

/-- The place of a fault, to be compared entry by entry from the front.  Errors that are no
faults of tables have none. -/
def ImageError.place : ImageError → List Nat
  | .emptySlot i => [i, 0]
  | .slotTooLong i _ => [i, 1]
  | .invalidFrame i j _ => [i, 2, j, 0]
  | .encoding i j _ => [i, 2, j, 1]
  | _ => []

/-- Among the faults with a property, the one in front of all others. -/
def IsFirst (P : ImageError → Prop) (e : ImageError) : Prop :=
  P e ∧ ∀ e', P e' → e' = e ∨ e.place < e'.place

theorem IsFirst.unique {P : ImageError → Prop} {e e' : ImageError} (h : IsFirst P e)
    (h' : IsFirst P e') : e = e' := by
  rcases h.2 e' h'.1 with heq | hlt
  · exact heq.symm
  · rcases h'.2 e h.1 with heq | hlt'
    · exact heq
    · exact absurd hlt' (lt_asymm hlt)

theorem place_lt_of_lt (front : List Nat) {i j : Nat} {rest rest' : List Nat} (h : i < j) :
    front ++ i :: rest < front ++ j :: rest' :=
  List.append_left_lt (List.cons_lt_cons_iff.mpr (.inl h))

theorem Frame.HasFault.place_eq {layout : FrameLayout} {i j : Nat} {f : Frame}
    {e : ImageError} (h : f.HasFault layout i j e) :
    ∃ rest, e.place = [i, 2] ++ j :: rest := by
  cases h with
  | arity => exact ⟨[0], rfl⟩
  | encoding => exact ⟨[1], rfl⟩

theorem Slot.HasFault.place_eq {layout : FrameLayout} {i : Nat} {s : Slot} {e : ImageError}
    (h : s.HasFault layout i e) : ∃ rest, e.place = [] ++ i :: rest := by
  cases h with
  | empty => exact ⟨[0], rfl⟩
  | tooLong => exact ⟨[1], rfl⟩
  | frame _ hf =>
    obtain ⟨rest, hrest⟩ := hf.place_eq
    exact ⟨_, hrest⟩

/-! ### Parts in order -/

/-- What is found first in a list of parts is found in the first part that has something. -/
theorem exists_of_findSome?_zipIdx_flatMap {α β γ : Type*} {p : β → Option γ}
    {g : α × Nat → List β} {c : γ} {k : Nat} {l : List α}
    (h : ((l.zipIdx k).flatMap g).findSome? p = some c) :
    ∃ i a, l[i]? = some a ∧ (g (a, k + i)).findSome? p = some c ∧
      ∀ j b, l[j]? = some b → j < i → (g (b, k + j)).findSome? p = none := by
  induction l generalizing k with
  | nil => cases h
  | cons a rest ih =>
    rw [List.zipIdx_cons, List.flatMap_cons, List.findSome?_append,
      Option.or_eq_some_iff] at h
    rcases h with hfirst | ⟨hnone, hrest⟩
    · exact ⟨0, a, rfl, hfirst, fun j _ _ hj => absurd hj (Nat.not_lt_zero j)⟩
    · obtain ⟨i, b, hi, hb, hfront⟩ := ih hrest
      have hshift : ∀ j, k + (j + 1) = k + 1 + j := by omega
      refine ⟨i + 1, b, hi, hshift i ▸ hb, fun j d hd hj => ?_⟩
      cases j with
      | zero =>
        cases hd
        exact hnone
      | succ j => exact hshift j ▸ hfront j d hd (Nat.lt_of_succ_lt_succ hj)

/-- If the first finding in a part is its first fault, the first finding in all parts is the
first of all faults. -/
theorem isFirst_of_findSome? {α : Type*} (P : Nat → α → ImageError → Prop) (front : List Nat)
    {g : α × Nat → List Finding} {l : List α} {e : ImageError}
    (hfirst : ∀ i a e, (g (a, i)).findSome? Finding.fault? = some e → IsFirst (P i a) e)
    (hnone : ∀ i a e, (g (a, i)).findSome? Finding.fault? = none → ¬ P i a e)
    (hplace : ∀ i a e, P i a e → ∃ rest, e.place = front ++ i :: rest)
    (h : (l.zipIdx.flatMap g).findSome? Finding.fault? = some e) :
    IsFirst (fun e => ∃ i a, l[i]? = some a ∧ P i a e) e := by
  obtain ⟨i, a, hi, ha, hfront⟩ := exists_of_findSome?_zipIdx_flatMap h
  simp only [Nat.zero_add] at ha hfront
  obtain ⟨hfault, hleast⟩ := hfirst i a e ha
  refine ⟨⟨i, a, hi, hfault⟩, ?_⟩
  rintro e' ⟨j, b, hj, hfault'⟩
  rcases Nat.lt_trichotomy j i with hlt | heq | hgt
  · exact absurd hfault' (hnone j b e' (hfront j b hj hlt))
  · subst heq
    cases hi.symm.trans hj
    exact hleast e' hfault'
  · obtain ⟨rest, hrest⟩ := hplace i a e hfault
    obtain ⟨rest', hrest'⟩ := hplace j b e' hfault'
    rw [hrest, hrest']
    exact .inr (place_lt_of_lt front hgt)

/-! ### Frames -/

section Frames

variable {layout : FrameLayout} {i j : Nat} {f : Frame} {s : Slot} {e : ImageError}

theorem Frame.IsValid.not_hasFault (h : f.IsValid layout) : ¬ f.HasFault layout i j e := by
  rintro (⟨hc, hcount⟩ | hencode)
  · rw [h.arity_accepts _ hc] at hcount
    cases hcount
  · rw [Frame.encode_of_isEncodable h.isEncodable] at hencode
    cases hencode

/-- Arguments come in front of the record: both may be wrong, and the arguments are
reported. -/
theorem frameFindings_isFirst
    (h : (frameFindings layout i j f).findSome? Finding.fault? = some e) :
    IsFirst (f.HasFault layout i j) e := by
  rw [frameFindings, List.findSome?_append, Option.or_eq_some_iff] at h
  rcases h with harity | ⟨hnone, hencoding⟩
  · obtain ⟨c, hc, hcount, rfl⟩ := arityFindings_eq_some_iff.mp harity
    refine ⟨.arity hc hcount, ?_⟩
    rintro e' (⟨hc', -⟩ | hencode)
    · cases hc.symm.trans hc'
      exact .inl rfl
    · exact .inr (place_lt_of_lt [i, 2, j] Nat.zero_lt_one)
  · obtain ⟨cause, hencode, rfl⟩ := encodingFindings_eq_some_iff.mp hencoding
    refine ⟨.encoding hencode, ?_⟩
    rintro e' (⟨hc', hcount'⟩ | hencode')
    · rw [arityFindings_faultless_iff.mp hnone _ hc'] at hcount'
      cases hcount'
    · cases hencode.symm.trans hencode'
      exact .inl rfl

/-! ### Slots -/

theorem Slot.IsValid.not_hasFault (h : s.IsValid layout) : ¬ s.HasFault layout i e := by
  rintro (hempty | hlong | ⟨hf, hfault⟩)
  · exact h.frames_ne_nil hempty
  · exact absurd h.length_le (Nat.not_le.mpr hlong)
  · exact (h.frames_valid _ (List.mem_of_getElem? hf)).not_hasFault hfault

/-- Neither empty nor too long, a slot has the faults of its frames. -/
theorem slotFindings_isFirst
    (h : (slotFindings layout i s).findSome? Finding.fault? = some e) :
    IsFirst (s.HasFault layout i) e := by
  unfold slotFindings at h
  split_ifs at h with hempty hlong
  · have hnil : s.frames = [] := List.isEmpty_iff.mp hempty
    cases h
    refine ⟨.empty hnil, ?_⟩
    rintro e' (_ | hlong | ⟨hf, -⟩)
    · exact .inl rfl
    · rw [hnil] at hlong
      cases hlong
    · rw [hnil] at hf
      cases hf
  · cases h
    refine ⟨.tooLong hlong, ?_⟩
    rintro e' (hnil | _ | ⟨-, hfault⟩)
    · exact absurd (List.isEmpty_iff.mpr hnil) hempty
    · exact .inl rfl
    · obtain ⟨rest, hrest⟩ := hfault.place_eq
      rw [hrest]
      exact .inr (place_lt_of_lt [i] Nat.one_lt_two)
  · obtain ⟨⟨j, f, hf, hfault⟩, hleast⟩ :=
      isFirst_of_findSome? (fun j f => f.HasFault layout i j) [i, 2]
      (fun j f e => frameFindings_isFirst)
        (fun j f e hnone => (frameFindings_faultless_iff.mp hnone).not_hasFault)
      (fun j f e hfault => hfault.place_eq) h
    refine ⟨.frame hf hfault, ?_⟩
    rintro e' (hnil | hlong' | ⟨hf', hfault'⟩)
    · exact absurd (List.isEmpty_iff.mpr hnil) hempty
    · exact absurd hlong' hlong
    · exact hleast e' ⟨_, _, hf', hfault'⟩

end Frames

/-! ### Tables -/

namespace SlotTable

variable {t : SlotTable} {e : ImageError}

theorem IsValid.not_hasFault (h : t.IsValid) : ¬ t.HasFault e := by
  rintro (hcount | ⟨hs, hfault⟩)
  · exact hcount h.length_slots
  · exact (h.slots_valid _ (List.mem_of_getElem? hs)).not_hasFault hfault

theorem firstFault?_isFirst (h : t.firstFault? = some e) : IsFirst t.HasFault e := by
  rw [firstFault?] at h
  unfold findings at h
  split_ifs at h with hcount
  · cases h
    refine ⟨.slotCount hcount, ?_⟩
    rintro e' (_ | ⟨-, hfault⟩)
    · exact .inl rfl
    · obtain ⟨rest, hrest⟩ := hfault.place_eq
      rw [hrest]
      exact .inr (List.nil_lt_cons _ _)
  · obtain ⟨⟨i, s, hs, hfault⟩, hleast⟩ :=
      isFirst_of_findSome? (fun i s => s.HasFault t.layout i) []
      (fun i s e => slotFindings_isFirst)
        (fun i s e hnone => (slotFindings_faultless_iff.mp hnone).not_hasFault)
      (fun i s e hfault => hfault.place_eq) h
    refine ⟨.slot hs hfault, ?_⟩
    rintro e' (hcount' | ⟨hs', hfault'⟩)
    · exact absurd hcount' hcount
    · exact hleast e' ⟨_, _, hs', hfault'⟩

theorem isFirst_of_validate (h : t.validate = .error e) : IsFirst t.HasFault e := by
  rw [validate] at h
  cases hfault : t.firstFault? with
  | none =>
    rw [hfault] at h
    cases h
  | some e' =>
    rw [hfault] at h
    cases h
    exact firstFault?_isFirst hfault

theorem validate_eq_error_iff : t.validate = .error e ↔ IsFirst t.HasFault e := by
  refine ⟨isFirst_of_validate, fun h => ?_⟩
  cases hcheck : t.validate with
  | ok => exact absurd h.1 (validate_eq_ok_iff.mp hcheck).not_hasFault
  | error e' => rw [(isFirst_of_validate hcheck).unique h]

/-- A table is refused for the first of its faults, and for the number of its slots whatever
else is wrong.  It passes if nothing is wrong: each slot holds 1 to 255 frames, and each frame
has a record and, if the catalog has its code, a number of arguments that suits it.  Of a code
that the catalog has not, the number of arguments is never reported. -/
theorem validate_reports (t : SlotTable) :
    (∀ e, t.validate = .error e ↔ IsFirst t.HasFault e) ∧
    (t.slots.length ≠ t.config.slotCount →
      t.validate = .error (.slotCount t.config.slotCount t.slots.length)) ∧
    (t.validate = .ok () ↔ ∀ e, ¬ t.HasFault e) ∧
    (t.validate = .ok () ↔ t.slots.length = t.config.slotCount ∧
      ∀ s ∈ t.slots, 1 ≤ s.frames.length ∧ s.frames.length ≤ 255 ∧
        ∀ f ∈ s.frames, (∀ c, Command.ofCode? f.command = some c →
          c.arity.accepts f.args.length = true) ∧
          ∃ bytes, f.encode t.layout = .ok bytes) ∧
    (∀ i j cause, t.validate = .error (.invalidFrame i j cause) →
      ∃ s f c, t.slots[i]? = some s ∧ s.frames[j]? = some f ∧
        Command.ofCode? f.command = some c ∧
        c.arity.accepts f.args.length = false ∧ cause = .arity c f.args.length) := by
  refine ⟨fun e => validate_eq_error_iff, fun hcount => ?_, ?_, ?_, fun i j cause h => ?_⟩
  · rw [validate, firstFault?, findings, if_pos hcount]
    rfl
  · constructor
    · intro h e
      exact (validate_eq_ok_iff.mp h).not_hasFault
    · intro h
      cases hcheck : t.validate with
      | ok => rfl
      | error e => exact absurd (isFirst_of_validate hcheck).1 (h e)
  · rw [validate_eq_ok_iff]
    constructor
    · rintro ⟨hcount, hslots⟩
      refine ⟨hcount, fun s hs => ⟨?_, (hslots s hs).length_le, fun f hf => ?_⟩⟩
      · exact List.length_pos_iff.mpr (hslots s hs).frames_ne_nil
      · have hframe := (hslots s hs).frames_valid f hf
        exact ⟨hframe.arity_accepts, _, Frame.encode_of_isEncodable hframe.isEncodable⟩
    · rintro ⟨hcount, hslots⟩
      refine ⟨hcount, fun s hs => ?_⟩
      obtain ⟨hpos, hle, hframes⟩ := hslots s hs
      refine ⟨List.length_pos_iff.mp hpos, hle, fun f hf => ?_⟩
      obtain ⟨harity, bytes, hbytes⟩ := hframes f hf
      exact ⟨harity, (Frame.encode_eq_ok_iff.mp hbytes).1⟩
  · obtain ⟨hfault, -⟩ := isFirst_of_validate h
    cases hfault with
    | slot hs hfault =>
      cases hfault with
      | frame hf hfault =>
        cases hfault with
        | arity hc hcount => exact ⟨_, _, _, hs, hf, hc, hcount, rfl⟩

theorem size_standard : FrameLayout.standard.size = defaultFrameSize := rfl

/-- A slot with a frame of unknown code; one with a frame that has too many arguments for its
command and the transaction that stands for none; and one without a frame. -/
def faultyTable : SlotTable :=
  let unknown := Frame.withArgs 0x01 0x02 none 0x77 ⟨[0x0a, 0x0b], by decide⟩
  let surplus :=
    Frame.withArgs 0x01 0x02 (some 0xff) 0x04 ⟨[0x0a, 0x0b, 0x0c, 0x0d], by decide⟩
  ⟨{ slotCount := 3 }, .standard, [⟨none, [unknown]⟩, ⟨none, [unknown, surplus]⟩, ⟨none, []⟩],
    size_standard⟩

/-- The same slots, declared to be four. -/
def missingSlotTable : SlotTable :=
  ⟨{ slotCount := 4 }, .standard, faultyTable.slots, size_standard⟩

/-- Of the three faults, that of the arguments comes first; a missing slot comes in front of
all. -/
theorem validate_reports_faultyTable :
    IsFirst faultyTable.HasFault (.invalidFrame 1 1 (.arity .led 4)) ∧
    faultyTable.HasFault (.encoding 1 1 .reservedTransaction) ∧
      faultyTable.HasFault (.emptySlot 2) ∧
    missingSlotTable.slots.length ≠ missingSlotTable.config.slotCount ∧
    missingSlotTable.validate = .error (.slotCount 4 3) := by
  obtain ⟨hfirst, -⟩ := validate_reports faultyTable
  obtain ⟨-, hcount, -⟩ := validate_reports missingSlotTable
  have hne : missingSlotTable.slots.length ≠ missingSlotTable.config.slotCount := by decide
  exact ⟨(hfirst _).mp (by decide), .slot rfl (.frame rfl (.encoding rfl)),
    .slot rfl (.empty rfl), hne, hcount hne⟩

end SlotTable
end EepromImage
