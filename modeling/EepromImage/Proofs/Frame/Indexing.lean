/-
The bytes of a frame by position.

A frame does not know its layout, and still each position of the widest frame has a byte:

* `byteAt_position` — the five bytes of the header, then the arguments, then zeros;
* `byteAt_eq_error_iff` — behind the widest frame there is no byte;
* `mapM_byteAt` — as many of them as the layout says are the record;
* `recordBytes_wider` — the record in a wider layout is that in a narrower one, with zeros
  behind it;
* `encode_indexed` — the same for what is written, in every layout.
-/
import EepromImage.Proofs.Blocks
import EepromImage.Proofs.Frame.RoundTrip

namespace EepromImage
namespace Frame

variable {layout narrow wide : FrameLayout} {f : Frame}

/-! ### Positions -/

/-- The bytes of the header, each in its place, then those of the arguments, and zeros where
there is none. -/
theorem byteAt_position (f : Frame) :
    f.byteAt 0 = .ok f.dest ∧ f.byteAt 1 = .ok f.orig ∧ f.byteAt 2 = .ok f.transactionByte ∧
      f.byteAt 3 = .ok f.command ∧ f.byteAt 4 = .ok f.status.bits ∧
      ∀ k < maxArgs, f.byteAt (headerSize + k) = .ok (f.args.bytes[k]?.getD 0) := by
  refine ⟨rfl, rfl, rfl, rfl, rfl, fun k hk => ?_⟩
  have hmax : headerSize + k < maxFrameSize := Nat.add_lt_add_left hk headerSize
  have hskip : (f.header ++ f.args.bytes)[headerSize + k]? = f.args.bytes[k]? := by
    show (f.header ++ f.args.bytes)[f.header.length + k]? = f.args.bytes[k]?
    rw [List.getElem?_append_right (Nat.le_add_right _ _), Nat.add_sub_cancel_left]
  rw [byteAt, if_pos hmax, hskip]

theorem byteAt_eq_error_iff {i : Nat} {e : IndexError} :
    f.byteAt i = .error e ↔ maxFrameSize ≤ i ∧ e = ⟨i⟩ := by
  unfold byteAt
  split_ifs with hi
  · constructor
    · intro h
      cases h
    · rintro ⟨hmax, -⟩
      exact absurd hi (Nat.not_lt.mpr hmax)
  · constructor
    · intro h
      cases h
      exact ⟨Nat.le_of_not_lt hi, rfl⟩
    · rintro ⟨-, rfl⟩
      rfl

/-- Where a layout has room for the arguments, the positions behind it hold zeros. -/
theorem byteAt_behind (h : f.args.length ≤ layout.argCapacity) {i : Nat}
    (hi : layout.size ≤ i) (hmax : i < maxFrameSize) : f.byteAt i = .ok 0 := by
  have hnone : (f.header ++ f.args.bytes)[i]? = none := by
    rw [List.getElem?_eq_none_iff, List.length_append]
    have hsize := layout.size_eq
    show headerSize + f.args.length ≤ i
    omega
  rw [byteAt, if_pos hmax, hnone]
  rfl

/-! ### Records -/

/-- The bytes from the first position on, as many as the layout says, are the record. -/
theorem mapM_byteAt (h : f.IsEncodable layout) :
    (List.range layout.size).mapM f.byteAt = .ok (f.recordBytes layout) := by
  rw [mapM_eq_ok_iff]
  apply List.ext_getElem?
  intro i
  rw [List.getElem?_map, List.getElem?_map]
  by_cases hi : i < layout.size
  · obtain ⟨b, hbyte, hrecord⟩ := getElem?_recordBytes h hi
    rw [List.getElem?_range hi, hrecord, Option.map_some, Option.map_some, hbyte]
  · have hrange : (List.range layout.size)[i]? = none := by
      rw [List.getElem?_eq_none_iff, List.length_range]
      exact Nat.le_of_not_lt hi
    have hrecord : (f.recordBytes layout)[i]? = none := by
      rw [List.getElem?_eq_none_iff, length_recordBytes h]
      exact Nat.le_of_not_lt hi
    rw [hrange, hrecord]
    rfl

/-! ### Wider layouts -/

/-- Room for the arguments is all that a frame needs of its layout. -/
theorem IsEncodable.wider (h : f.IsEncodable narrow) (hle : narrow.size ≤ wide.size) :
    f.IsEncodable wide := by
  have hcapacity : narrow.argCapacity ≤ wide.argCapacity :=
    Nat.sub_le_sub_right hle headerSize
  exact ⟨Nat.le_trans h.args_le hcapacity, h.length_eq, h.reserved_eq, h.transaction_ne⟩

theorem recordBytes_wider (h : f.IsEncodable narrow) (hle : narrow.size ≤ wide.size) :
    f.recordBytes wide = f.recordBytes narrow
      ++ List.replicate (wide.size - narrow.size) 0 := by
  -- the padding of the wide record is that of the narrow one and what the layouts differ by
  have hpadding : wide.argCapacity - f.args.length
      = (narrow.argCapacity - f.args.length) + (wide.size - narrow.size) := by
    have hargs := h.args_le
    have hnarrow := narrow.size_eq
    have hwide := wide.size_eq
    omega
  rw [recordBytes, recordBytes, argField, argField, hpadding, List.replicate_add]
  simp only [List.append_assoc]

/-- Position by position, the bytes of a frame are the header, the arguments and zeros; behind
the widest frame there are none.  In every layout in which a frame is written, what is written
are its first bytes, the others being zero; and in a wider layout it is written as well, as
the same bytes with zeros behind them. -/
theorem encode_indexed (f : Frame) :
    (∀ layout bytes, f.encode layout = .ok bytes →
      (List.range layout.size).mapM f.byteAt = .ok bytes ∧
        ∀ i, layout.size ≤ i → i < 12 → f.byteAt i = .ok 0) ∧
    (∀ narrow wide bytes, narrow.size ≤ wide.size → f.encode narrow = .ok bytes →
      f.encode wide = .ok (bytes ++ List.replicate (wide.size - narrow.size) 0)) ∧
    (∀ i e, f.byteAt i = .error e ↔ 12 ≤ i ∧ e = ⟨i⟩) ∧
    (f.byteAt 0 = .ok f.dest ∧ f.byteAt 1 = .ok f.orig ∧
      f.byteAt 2 = .ok (f.transaction.getD 0xff) ∧
      f.byteAt 3 = .ok f.command ∧ f.byteAt 4 = .ok f.status.bits ∧
      ∀ k < 7, f.byteAt (5 + k) = .ok (f.args.bytes[k]?.getD 0)) := by
  refine ⟨fun layout bytes h => ?_, fun narrow wide bytes hle h => ?_,
    fun i e => byteAt_eq_error_iff, byteAt_position f⟩
  · obtain ⟨henc, rfl⟩ := encode_eq_ok_iff.mp h
    exact ⟨mapM_byteAt henc, fun i hi hmax => byteAt_behind henc.args_le hi hmax⟩
  · obtain ⟨henc, rfl⟩ := encode_eq_ok_iff.mp h
    rw [encode_of_isEncodable (henc.wider hle), recordBytes_wider henc hle]

/-- A response without a transaction, with two arguments, the last of them zero. -/
def shortFrame : Frame := ⟨0x10, 0x20, none, 0x02, ⟨0x42⟩, ⟨[0x07, 0x00], by decide⟩⟩

/-- The smallest layout. -/
def narrowestLayout : FrameLayout := ⟨minFrameSize, Nat.le_refl _, by decide⟩

/-- The record of eight bytes is that of eleven without the last three, and they can be read
by position too. -/
theorem encode_indexed_shortFrame :
    shortFrame.encode narrowestLayout = .ok [0x10, 0x20, 0xff, 0x02, 0x42, 0x07, 0x00, 0x00] ∧
    shortFrame.encode .standard = .ok [0x10, 0x20, 0xff, 0x02, 0x42, 0x07, 0x00, 0x00, 0x00,
      0x00, 0x00] ∧
    shortFrame.byteAt 10 = .ok 0 ∧ shortFrame.byteAt 12 = .error ⟨12⟩ := by
  obtain ⟨hbytes, hwider, herror, -⟩ := encode_indexed shortFrame
  have hnarrow : shortFrame.encode narrowestLayout
      = .ok [0x10, 0x20, 0xff, 0x02, 0x42, 0x07, 0x00, 0x00] := by decide
  refine ⟨hnarrow, hwider _ .standard _ (by decide) hnarrow, ?_,
    (herror 12 ⟨12⟩).mpr ⟨Nat.le_refl _, rfl⟩⟩
  obtain ⟨-, hzero⟩ := hbytes _ _ hnarrow
  exact hzero 10 (by decide) (by decide)

end Frame
end EepromImage
