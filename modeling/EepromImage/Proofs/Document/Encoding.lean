/-
The frames that documents are made into.

The status of such a frame counts its arguments and has no bits but those of the declared
flags:

* `Frame.IsDeclared` — this, and that the arguments are congruent to the declared ones;
* `FrameDecl.Means.isDeclared` — it holds of every frame that stands for a declaration;
* `Frame.IsDeclared.encode_eq_error` — of the reasons for which a frame has no record, two are
  left;
* `validate_table` — the same for a table that is made from a document.
-/
import Mathlib.Data.Int.ModEq
import EepromImage.Proofs.Document.Meaning
import EepromImage.Proofs.Frame.Status
import EepromImage.Proofs.Table.Faults

namespace EepromImage

/-! ### The status -/

namespace FrameDecl

variable (d : FrameDecl) {n : Nat}

theorem length_status (h : n ≤ maxArgs) : (d.status n).length.toNat = n := by
  rw [status, Status.setResponse, Status.setError, Status.length_write (by decide),
    Status.length_write (by decide), Status.toNat_length_ofLength h]

/-- Bits outside of the length and the two flags stay clear. -/
theorem status_and_of_disjoint {mask : UInt8} (hlength : Status.lengthMask &&& mask = 0)
    (herror : Status.errorMask &&& mask = 0) (hresponse : Status.responseMask &&& mask = 0) :
    (d.status n).bits &&& mask = 0 := by
  rw [status, Status.setResponse, Status.setError, Status.write_and_of_disjoint hresponse,
    Status.write_and_of_disjoint herror, Status.ofLength_and_of_disjoint hlength]

theorem reserved_status : (d.status n).reserved = 0 :=
  d.status_and_of_disjoint (by decide) (by decide) (by decide)

theorem readsEeprom_status : (d.status n).readsEeprom = false := by
  rw [Status.readsEeprom, Status.has,
    d.status_and_of_disjoint (by decide) (by decide) (by decide)]
  rfl

theorem isError_status : (d.status n).isError = d.isError := by
  rw [status, Status.isError, Status.setResponse, Status.has_write_of_disjoint (by decide)]
  exact Status.has_write_self (by decide)

theorem isResponse_status : (d.status n).isResponse = d.isResponse :=
  Status.has_write_self (by decide)

end FrameDecl

/-! ### Frames -/

/-- The frame counts its arguments, its status has no bits but the declared flags, and its
arguments are the declared ones modulo 256. -/
structure Frame.IsDeclared (d : FrameDecl) (f : Frame) : Prop where
  length_eq : f.status.length.toNat = f.args.length
  reserved_eq : f.status.reserved = 0
  readsEeprom_eq : f.status.readsEeprom = false
  isError_eq : f.status.isError = d.isError
  isResponse_eq : f.status.isResponse = d.isResponse
  args_congr : Corresponds (fun _ z b => (b.toNat : Int) ≡ z [ZMOD 256]) d.args f.args.bytes

theorem StandsFor.congr {z : Int} {b : UInt8} (h : StandsFor z b) :
    (b.toNat : Int) ≡ z [ZMOD 256] := by
  rw [h.2]
  exact Int.mod_modEq z 256

theorem FrameDecl.Means.isDeclared {selfAddr : UInt8} {d : FrameDecl} {f : Frame}
    (h : d.Means selfAddr f) :
    f.IsDeclared d where
  length_eq := by
    rw [h.status_eq]
    exact d.length_status f.args.length_le
  reserved_eq := by rw [h.status_eq, d.reserved_status]
  readsEeprom_eq := by rw [h.status_eq, d.readsEeprom_status]
  isError_eq := by rw [h.status_eq, d.isError_status]
  isResponse_eq := by rw [h.status_eq, d.isResponse_status]
  args_congr := h.args.mono fun _ _ _ => StandsFor.congr

namespace Frame

variable {layout : FrameLayout} {d : FrameDecl} {f : Frame} {cause : FrameError}

/-- Such a frame has too many arguments for the layout or the transaction that stands for
none. -/
theorem IsDeclared.encode_eq_error (h : f.IsDeclared d)
    (hencode : f.encode layout = .error cause) :
    (cause = .tooManyArgs f.args.length layout.argCapacity ∧
      layout.argCapacity < f.args.length) ∨
      (cause = .reservedTransaction ∧ f.transaction = some noTransaction) := by
  have hfault := encode_eq_error_iff.mp hencode
  unfold encodingFault? at hfault
  rw [if_neg (not_not.mpr h.length_eq), if_neg (not_not.mpr h.reserved_eq)] at hfault
  split_ifs at hfault with hargs htransaction
  · cases hfault
    exact .inl ⟨rfl, hargs⟩
  · cases hfault
    exact .inr ⟨rfl, htransaction⟩

end Frame

/-! ### Tables -/

/-- A record that is reported missing is that of the frame at the place of the report. -/
theorem SlotTable.exists_of_validate_encoding {t : SlotTable} {i j : Nat} {cause : FrameError}
    (h : t.validate = .error (.encoding i j cause)) :
    ∃ s f, t.slots[i]? = some s ∧ s.frames[j]? = some f ∧
      f.encode t.layout = .error cause := by
  obtain ⟨hfault, -⟩ := isFirst_of_validate h
  cases hfault with
  | slot hs hslot =>
    cases hslot with
    | frame hf hframe =>
      cases hframe with
      | encoding hencode => exact ⟨_, _, hs, hf, hencode⟩

namespace TableDocument

variable {d : TableDocument} {t : SlotTable}

theorem Means.isDeclared (h : d.Means t) :
    Corresponds (fun _ s slot =>
      Corresponds (fun _ d f => f.IsDeclared d) s.frames slot.frames) d.slots t.slots :=
  h.slots.mono fun _ _ _ hslot => hslot.frames.mono fun _ _ _ => FrameDecl.Means.isDeclared

/-- Every frame of a table that is made from a document counts its arguments, has its reserved
and its storage bits clear and the declared flags, and has arguments congruent to the declared
ones.  If the record of one is reported missing, it has more arguments than the layout has
room for, or the transaction that stands for none. -/
theorem validate_table (h : d.table = .ok t) :
    Corresponds (fun _ s slot =>
      Corresponds (fun _ d f => f.IsDeclared d) s.frames slot.frames) d.slots t.slots ∧
    ∀ i j cause, t.validate = .error (.encoding i j cause) →
      ∃ s f, t.slots[i]? = some s ∧ s.frames[j]? = some f ∧
        ((cause = .tooManyArgs f.args.length t.layout.argCapacity ∧
          t.layout.argCapacity < f.args.length) ∨
          (cause = .reservedTransaction ∧ f.transaction = some noTransaction)) := by
  have hdeclared := (table_eq_ok_iff.mp h).isDeclared
  refine ⟨hdeclared, fun i j cause hvalidate => ?_⟩
  obtain ⟨s, f, hs, hf, hencode⟩ := SlotTable.exists_of_validate_encoding hvalidate
  obtain ⟨_, -, hframes⟩ := hdeclared.exists_of_right hs
  obtain ⟨_, -, hframe⟩ := hframes.exists_of_right hf
  exact ⟨s, f, hs, hf, hframe.encode_eq_error hencode⟩

/-- A slot with four arguments, two of them negative, and one with the transaction that stands
for none. -/
def unwritableDocument (frameSize : Nat) : TableDocument :=
  ⟨{ frameSize, slotCount := 2 }, {}, {},
    [⟨none, none,
      [{ command := .code 0x77, args := [-128, -1, 0, 255], isResponse := true }]⟩,
      ⟨none, none, [{ transaction := some 0xff, command := .code 0x77 }]⟩]⟩

/-- In small frames the arguments do not fit; in larger ones the transaction is left to be
reported. -/
theorem validate_table_unwritableDocument :
    (∃ t, (unwritableDocument 8).table = .ok t ∧
      t.validate = .error (.encoding 0 0 (.tooManyArgs 4 3)) ∧
      ∃ s f, t.slots[0]? = some s ∧ s.frames[0]? = some f ∧
        t.layout.argCapacity < f.args.length) ∧
    ∃ t, (unwritableDocument 9).table = .ok t ∧
      t.validate = .error (.encoding 1 0 .reservedTransaction) ∧
      ∃ s f, t.slots[1]? = some s ∧ s.frames[0]? = some f ∧
        f.transaction = some noTransaction := by
  constructor
  · obtain ⟨t, htable⟩ : ∃ t, (unwritableDocument 8).table = .ok t := ⟨_, rfl⟩
    have hvalidate : t.validate = .error (.encoding 0 0 (.tooManyArgs 4 3)) := by
      cases htable
      rfl
    obtain ⟨-, hreasons⟩ := validate_table htable
    obtain ⟨s, f, hs, hf, ⟨-, hargs⟩ | ⟨hcause, -⟩⟩ := hreasons 0 0 _ hvalidate
    · exact ⟨t, htable, hvalidate, s, f, hs, hf, hargs⟩
    · cases hcause
  · obtain ⟨t, htable⟩ : ∃ t, (unwritableDocument 9).table = .ok t := ⟨_, rfl⟩
    have hvalidate : t.validate = .error (.encoding 1 0 .reservedTransaction) := by
      cases htable
      rfl
    obtain ⟨-, hreasons⟩ := validate_table htable
    obtain ⟨s, f, hs, hf, ⟨hcause, -⟩ | ⟨-, htransaction⟩⟩ := hreasons 1 0 _ hvalidate
    · cases hcause
    · exact ⟨t, htable, hvalidate, s, f, hs, hf, htransaction⟩

end TableDocument
end EepromImage
