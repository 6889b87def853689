/-
The fields of the status byte.

An update writes the bits of its mask, and the masks of two fields share no bit:

* `write_and_of_disjoint` — under a mask that shares no bit with the written one, all bits
  stay;
* `has_write_self`, `has_write_of_disjoint` — a flag is what was written last, and other flags
  stay;
* `length_write` — so does the declared length;
* `toNat_length_ofLength`, `ofLength_and_of_disjoint` — a status that is made of a length has
  this length and no other bits;
* `eq_of_fields` — the masks cover the byte, so that the fields are all there is in a status.
-/
import Mathlib.Data.Nat.Bitwise
import EepromImage.Proofs.Frame.Canonical

namespace EepromImage
namespace Status

/-- The fields of a single bit. -/
inductive Flag
  | error
  | response
  | eeprom

/-- The bit of a flag. -/
def Flag.mask : Flag → UInt8
  | error => errorMask
  | response => responseMask
  | eeprom => storageMask

variable {s : Status} {mask other : UInt8} {on : Bool}

/-! ### Masks -/

theorem or_and_distrib (a b c : UInt8) : (a ||| b) &&& c = a &&& c ||| b &&& c :=
  UInt8.toBitVec_inj.mp BitVec.and_or_distrib_right

/-- What is not in one of two disjoint masks is all that is in the other. -/
theorem not_and_of_disjoint (h : mask &&& other = 0) : ~~~mask &&& other = other :=
  calc ~~~mask &&& other
      = mask &&& other ||| ~~~mask &&& other := by rw [h, UInt8.zero_or]
    _ = (mask ||| ~~~mask) &&& other := (or_and_distrib mask (~~~mask) other).symm
    _ = other := by rw [UInt8.or_not_self, UInt8.neg_one_and]

theorem write_and_of_disjoint (h : mask &&& other = 0) :
    (s.write mask on).bits &&& other = s.bits &&& other := by
  cases on with
  | true =>
    show (s.bits ||| mask) &&& other = s.bits &&& other
    rw [or_and_distrib, h, UInt8.or_zero]
  | false =>
    show s.bits &&& ~~~mask &&& other = s.bits &&& other
    rw [UInt8.and_assoc, not_and_of_disjoint h]

/-! ### Fields -/

theorem has_write_of_disjoint (h : mask &&& other = 0) :
    (s.write mask on).has other = s.has other := by
  rw [has, has, write_and_of_disjoint h]

theorem has_write_self (h : mask ≠ 0) : (s.write mask on).has mask = on := by
  cases on with
  | true =>
    -- the bits of the mask are among those that are left under it, and there is one
    show ((s.bits ||| mask) &&& mask != 0) = true
    rw [or_and_distrib, UInt8.and_self, bne_iff_ne]
    intro hzero
    exact h (UInt8.or_eq_zero_iff.mp hzero).2
  | false =>
    show (s.bits &&& ~~~mask &&& mask != 0) = false
    rw [UInt8.and_assoc, UInt8.not_and_self, UInt8.and_zero]
    rfl

theorem length_write (h : mask &&& lengthMask = 0) : (s.write mask on).length = s.length :=
  write_and_of_disjoint h

/-! ### Lengths -/

theorem toNat_length_ofLength {n : Nat} (h : n ≤ maxArgs) :
    (ofLength (UInt8.ofNat n)).length.toNat = n := by
  have hmask : (ofLength (UInt8.ofNat n)).length = (Status.mk (UInt8.ofNat n)).length := by
    show UInt8.ofNat n &&& lengthMask &&& lengthMask = UInt8.ofNat n &&& lengthMask
    rw [UInt8.and_assoc, UInt8.and_self]
  have hlt : n < 8 := Nat.lt_succ_of_le h
  rw [hmask, toNat_length, UInt8.toNat_ofNat']
  omega

theorem ofLength_and_of_disjoint {n : UInt8} (h : lengthMask &&& other = 0) :
    (ofLength n).bits &&& other = 0 := by
  show n &&& lengthMask &&& other = 0
  rw [UInt8.and_assoc, h, UInt8.and_zero]

/-! ### All fields -/

/-- The bit of a flag is set or is not. -/
theorem and_mask_eq (s : Status) (flag : Flag) :
    s.bits &&& flag.mask = if s.has flag.mask then flag.mask else 0 := by
  obtain ⟨k, hk⟩ : ∃ k, flag.mask.toNat = 2 ^ k := by
    cases flag with
    | error => exact ⟨7, rfl⟩
    | response => exact ⟨6, rfl⟩
    | eeprom => exact ⟨5, rfl⟩
  have hbit : s.bits &&& flag.mask = 0 ∨ s.bits &&& flag.mask = flag.mask := by
    rw [← UInt8.toNat_inj, ← UInt8.toNat_inj, UInt8.toNat_and, hk, Nat.and_two_pow]
    cases s.bits.toNat.testBit k with
    | false => exact .inl (Nat.zero_mul _)
    | true => exact .inr (Nat.one_mul _)
  rw [has]
  split_ifs with hset
  · rcases hbit with hbit | hbit
    · exact absurd hbit (bne_iff_ne.mp hset)
    · exact hbit
  · exact not_not.mp (mt bne_iff_ne.mpr hset)

theorem and_or_distrib (a b c : UInt8) : a &&& (b ||| c) = a &&& b ||| a &&& c :=
  UInt8.toBitVec_inj.mp BitVec.and_or_distrib_left

/-- No bit is outside of the masks. -/
theorem bits_eq (s : Status) :
    s.bits = s.bits &&& errorMask ||| s.bits &&& responseMask ||| s.bits &&& storageMask
    ||| s.reserved ||| s.length := by
  have hcover : errorMask ||| responseMask ||| storageMask ||| reservedMask ||| lengthMask
      = -1 := by decide
  rw [reserved, length, ← and_or_distrib, ← and_or_distrib, ← and_or_distrib,
    ← and_or_distrib, hcover, UInt8.and_neg_one]

theorem eq_of_fields {s t : Status} (hflag : ∀ flag : Flag, s.has flag.mask = t.has flag.mask)
    (hlength : s.length = t.length) (hreserved : s.reserved = t.reserved) : s = t := by
  have hmask (flag : Flag) : s.bits &&& flag.mask = t.bits &&& flag.mask := by
    rw [and_mask_eq, and_mask_eq, hflag]
  have herror : s.bits &&& errorMask = t.bits &&& errorMask := hmask .error
  have hresponse : s.bits &&& responseMask = t.bits &&& responseMask := hmask .response
  have heeprom : s.bits &&& storageMask = t.bits &&& storageMask := hmask .eeprom
  have hbits : s.bits = t.bits := by
    rw [bits_eq s, bits_eq t, herror, hresponse, heeprom, hreserved, hlength]
  exact congrArg Status.mk hbits

end Status
end EepromImage
