/-
The data of an Intel HEX file tile its memory.

* `IsTiling` — each position from one address up to another is covered by one record, and by
  no other;
* `IsContiguous.isTiling` — data that follow one another are a tiling;
* `IsTiling.isContiguous` — records with data that are a tiling follow one another in the
  order of their addresses;
* `bytes_tiling` — the memory of a file has every byte of its data, each at its address, and
  nothing else; and every file whose data are a tiling from 0 on has a memory.
-/
import Mathlib.Algebra.GroupWithZero.Nat
import EepromImage.Proofs.IntelHex.Order

namespace EepromImage

/-- The data of the record have a byte at this position. -/
def HexRecord.Covers (r : HexRecord) (p : Nat) : Prop :=
  r.address.toNat ≤ p ∧ p < r.address.toNat + r.data.length

namespace HexFile

open HexRecord (Covers EndsBefore)

/-- The records cover the positions from `start` up to `stop`, no two of them the same one. -/
structure IsTiling (start stop : Nat) (records : List HexRecord) : Prop where
  covered_iff : ∀ p, (start ≤ p ∧ p < stop) ↔ ∃ r ∈ records, r.Covers p
  apart : records.Pairwise fun r s => ∀ p, r.Covers p → ¬ s.Covers p

variable {start stop : Nat} {r : HexRecord} {records records' rest : List HexRecord}

/-- The order of the records does not matter. -/
theorem IsTiling.of_perm (h : IsTiling start stop records) (hperm : records.Perm records') :
    IsTiling start stop records' := by
  refine ⟨fun p => ?_, (hperm.pairwise_iff fun {r s} hrs p hs hr => hrs p hr hs).mp h.apart⟩
  rw [h.covered_iff]
  simp only [hperm.mem_iff]

/-! ### Data that follow one another -/

theorem IsContiguous.isTiling (h : IsContiguous start records) :
    IsTiling start (start + (records.flatMap HexRecord.data).length) records := by
  induction records generalizing start with
  | nil =>
    refine ⟨fun p => ⟨fun hp => ?_, nofun⟩, List.Pairwise.nil⟩
    rw [List.flatMap_nil, List.length_nil] at hp
    omega
  | cons r rest ih =>
    obtain ⟨hfirst, hrest⟩ := isContiguous_cons.mp h
    have htiling := ih hrest
    rw [List.flatMap_cons, List.length_append, ← Nat.add_assoc]
    constructor
    · intro p
      rw [List.exists_mem_cons_iff, ← htiling.covered_iff, Covers, hfirst]
      omega
    · refine List.pairwise_cons.mpr ⟨fun s hs p hr hcovers => ?_, htiling.apart⟩
      have hbehind := (htiling.covered_iff p).mpr ⟨s, hs, hcovers⟩
      rw [Covers, hfirst] at hr
      omega

theorem IsContiguous.end_le (h : IsContiguous start records) (hr : r ∈ records) :
    r.address.toNat + r.data.length ≤ start + (records.flatMap HexRecord.data).length := by
  obtain ⟨i, hi⟩ := List.mem_iff_getElem?.mp hr
  have hsplit :=
    congrArg (fun l => (l.flatMap HexRecord.data).length) (eq_take_append_cons_drop hi)
  simp only [List.flatMap_append, List.flatMap_cons, List.length_append] at hsplit
  rw [h i r hi, hsplit]
  omega

/-! ### Tilings -/

/-- The first position is covered by the record that comes first. -/
theorem IsTiling.address_eq (h : IsTiling start stop (r :: rest)) (hne : r.data ≠ [])
    (hsorted : ∀ s ∈ rest, r.address ≤ s.address) : r.address.toNat = start := by
  have hlen := List.length_pos_iff.mpr hne
  obtain ⟨hstart, hstop⟩ := (h.covered_iff r.address.toNat).mpr
    ⟨r, List.mem_cons_self, Nat.le_refl _, Nat.lt_add_of_pos_right hlen⟩
  -- whichever record covers it does not start in front of the first one
  obtain ⟨s, hs, hcovers, -⟩ :=
    (h.covered_iff start).mp ⟨Nat.le_refl _, Nat.lt_of_le_of_lt hstart hstop⟩
  rcases List.mem_cons.mp hs with rfl | hs
  · exact Nat.le_antisymm hcovers hstart
  · have hle := UInt16.le_iff_toNat_le.mp (hsorted s hs)
    omega

/-- Without its first record, a tiling starts where that one ends. -/
theorem IsTiling.tail (h : IsTiling start stop (r :: rest))
    (hfirst : r.address.toNat = start) :
    IsTiling (start + r.data.length) stop rest := by
  obtain ⟨hapart, hrest⟩ := List.pairwise_cons.mp h.apart
  refine ⟨fun p => ?_, hrest⟩
  have hcovered := h.covered_iff p
  rw [List.exists_mem_cons_iff, Covers, hfirst] at hcovered
  constructor
  · rintro ⟨hstart, hstop⟩
    rcases hcovered.mp ⟨by omega, hstop⟩ with hr | hs
    · omega
    · exact hs
  · rintro ⟨s, hs, hcovers⟩
    have hnot : ¬ r.Covers p := fun hr => hapart s hs p hr hcovers
    rw [Covers, hfirst] at hnot
    have hrange := hcovered.mpr (.inr ⟨s, hs, hcovers⟩)
    omega

theorem IsTiling.isContiguous (h : IsTiling start stop records) (hle : start ≤ stop)
    (hne : ∀ r ∈ records, r.data ≠ [])
    (hsorted : records.Pairwise fun r s => r.address ≤ s.address) :
    IsContiguous start records ∧ start + (records.flatMap HexRecord.data).length = stop := by
  induction records generalizing start with
  | nil =>
    have hnone : ¬ start < stop := by
      intro hlt
      obtain ⟨r, hr, -⟩ := (h.covered_iff start).mp ⟨Nat.le_refl _, hlt⟩
      cases hr
    exact ⟨isContiguous_nil start, Nat.le_antisymm hle (Nat.le_of_not_lt hnone)⟩
  | cons r rest ih =>
    obtain ⟨hfirst, hrest⟩ := List.pairwise_cons.mp hsorted
    have hdata := hne r List.mem_cons_self
    have haddress := h.address_eq hdata hfirst
    have hpos := List.length_pos_iff.mpr hdata
    -- the last position of the first record is covered, so it lies in front of `stop`
    have hlast := (h.covered_iff (start + r.data.length - 1)).mpr
      ⟨r, List.mem_cons_self, by omega, by omega⟩
    obtain ⟨hcontiguous, hlength⟩ :=
      ih (h.tail haddress) (by omega) (fun s hs => hne s (List.mem_cons_of_mem r hs)) hrest
    refine ⟨isContiguous_cons.mpr ⟨haddress, hcontiguous⟩, ?_⟩
    rw [List.flatMap_cons, List.length_append, ← Nat.add_assoc]
    exact hlength

/-! ### Memories -/

/-- The memory of a file holds all its data, each record's at its address, the lengths adding
up and no position taken twice.  A file has a memory of `n` bytes if its data, none of them
empty, cover exactly the first `n` positions. -/
theorem bytes_tiling (file : HexFile) :
    (∀ bytes, file.bytes = .ok bytes →
      (∀ r ∈ file.dataRecords, r.address.toNat + r.data.length ≤ bytes.length ∧
        (bytes.drop r.address.toNat).take r.data.length = r.data) ∧
      (file.dataRecords.map fun r => r.data.length).sum = bytes.length ∧
      IsTiling 0 bytes.length file.dataRecords) ∧
    (∀ n, (∀ r ∈ file.dataRecords, r.data ≠ []) → IsTiling 0 n file.dataRecords →
      ∃ bytes, file.bytes = .ok bytes ∧ bytes.length = n) := by
  have hperm := perm_sortedData file
  constructor
  · intro bytes hbytes
    obtain ⟨hcontiguous, rfl⟩ := bytes_eq_ok_iff.mp hbytes
    have htiling := hcontiguous.isTiling
    rw [Nat.zero_add] at htiling
    refine ⟨fun r hr => ⟨?_, ?_⟩, ?_, htiling.of_perm hperm⟩
    · have hend := hcontiguous.end_le (hperm.mem_iff.mpr hr)
      rwa [Nat.zero_add] at hend
    · obtain ⟨hmem, hdata⟩ := List.mem_filter.mp hr
      exact take_drop_bytes hbytes hmem hdata
    · rw [← List.length_flatMap]
      exact (hperm.flatMap_right HexRecord.data).length_eq.symm
  · intro n hne htiling
    obtain ⟨hcontiguous, hlength⟩ := (htiling.of_perm hperm.symm).isContiguous (Nat.zero_le n)
      (fun r hr => hne r (hperm.mem_iff.mp hr)) (pairwise_address_sortedData file)
    rw [Nat.zero_add] at hlength
    exact ⟨_, bytes_eq_ok_iff.mpr ⟨hcontiguous, rfl⟩, hlength⟩

/-- The bytes in front of the last address of a bank. -/
def bankBytes : List UInt8 := List.replicate 65535 0

theorem length_bankBytes : bankBytes.length = 65535 := List.length_replicate

/-- Two bytes at the last address of a bank, in front of the data that fill the bank up to
there. -/
def pastBank : HexFile :=
  ⟨[HexRecord.ofData 65535 [1, 2], HexRecord.extendedAddress 0x81,
    HexRecord.ofData 0 bankBytes]⟩

theorem dataRecords_pastBank :
    pastBank.dataRecords = [HexRecord.ofData 65535 [1, 2], HexRecord.ofData 0 bankBytes] :=
  rfl

theorem isTiling_pastBank : IsTiling 0 65537 pastBank.dataRecords := by
  have hlast : ∀ p, (HexRecord.ofData 65535 [1, 2]).Covers p ↔ 65535 ≤ p ∧
      p < 65537 := fun p => Iff.rfl
  have hbank : ∀ p, (HexRecord.ofData 0 bankBytes).Covers p ↔ p < 65535 := by
    intro p
    simp only [Covers, HexRecord.ofData, length_bankBytes, UInt16.toNat_zero]
    omega
  rw [dataRecords_pastBank]
  constructor
  · intro p
    rw [List.exists_mem_cons_iff, List.exists_mem_cons_iff, hlast, hbank]
    simp only [List.not_mem_nil, false_and, exists_false, or_false]
    omega
  · refine List.pairwise_pair.mpr fun p hp => ?_
    rw [hlast] at hp
    rw [hbank]
    omega

/-- The memory of such a file is longer than a bank. -/
theorem bytes_tiling_pastBank :
    (∀ r ∈ pastBank.dataRecords, r.data ≠ []) ∧ IsTiling 0 65537 pastBank.dataRecords ∧
    ∃ bytes, pastBank.bytes = .ok bytes ∧ bytes.length = 65537 ∧
      (bytes.drop 65535).take 2 = [1, 2] := by
  have hne : ∀ r ∈ pastBank.dataRecords, r.data ≠ [] := by
    rw [dataRecords_pastBank]
    refine List.forall_mem_cons.mpr ⟨List.cons_ne_nil _ _, List.forall_mem_singleton.mpr ?_⟩
    exact List.ne_nil_of_length_pos (length_bankBytes ▸ Nat.succ_pos _)
  obtain ⟨hmemory, hexists⟩ := bytes_tiling pastBank
  obtain ⟨bytes, hbytes, hlength⟩ := hexists 65537 hne isTiling_pastBank
  obtain ⟨hplaces, -, -⟩ := hmemory bytes hbytes
  have hlast : HexRecord.ofData 65535 [1, 2] ∈ pastBank.dataRecords :=
    dataRecords_pastBank ▸ List.mem_cons_self
  exact ⟨hne, isTiling_pastBank, bytes, hbytes, hlength, (hplaces _ hlast).2⟩

end HexFile
end EepromImage
