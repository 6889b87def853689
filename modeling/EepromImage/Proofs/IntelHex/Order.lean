/-
The order of the records of an Intel HEX file.

Data are put in the order of their addresses, and records with one address stay in the order
of the file.  Reassembly therefore forgets the order of the file, except that of records with
one address: among these, one without data has to come first, since behind data it is taken
for one that does not follow them.

* `filter_address_sortedData` — sorting leaves the records of each address in their order;
* `IsContiguous.pairwise_endsBefore` — records that make a block of memory end in front of
  each other;
* `eq_of_perm_of_endsBefore` — there is at most one order in which they do;
* `bytes_reordered` — what files with the same records have in common: none of them makes
  another block than the others, and all of them make it if no record without data shares its
  address with data.
-/
import EepromImage.Proofs.IntelHex.Addresses

namespace EepromImage

namespace HexRecord

/-! ### Records in front of each other -/

/-- The data of `r` end at the address of `s` or in front of it. -/
def EndsBefore (r s : HexRecord) : Prop :=
  r.address.toNat + r.data.length ≤ s.address.toNat

/-- Two records that end in front of each other are at one address and have no data. -/
theorem eq_of_endsBefore {r s : HexRecord} (hr : r.isData = true) (hs : s.isData = true)
    (hrs : r.EndsBefore s) (hsr : s.EndsBefore r) : r = s := by
  obtain ⟨kind, address, data⟩ := r
  obtain ⟨kind', address', data'⟩ := s
  simp only [EndsBefore] at hrs hsr
  have hkind : kind = kind' := (of_decide_eq_true hr).trans (of_decide_eq_true hs).symm
  have haddress : address = address' := UInt16.toNat_inj.mp (by omega)
  have hdata : data = [] := List.length_eq_zero_iff.mp (by omega)
  have hdata' : data' = [] := List.length_eq_zero_iff.mp (by omega)
  rw [hkind, haddress, hdata, hdata']

end HexRecord

namespace HexFile

open HexRecord (EndsBefore)

theorem IsContiguous.start_le {start : Nat} {records : List HexRecord}
    (h : IsContiguous start records) {r : HexRecord} (hr : r ∈ records) :
    start ≤ r.address.toNat := by
  obtain ⟨i, hi⟩ := List.mem_iff_getElem?.mp hr
  rw [h i r hi]
  exact Nat.le_add_right _ _

theorem IsContiguous.pairwise_endsBefore {start : Nat} {records : List HexRecord}
    (h : IsContiguous start records) :
    records.Pairwise EndsBefore := by
  induction records generalizing start with
  | nil => exact List.Pairwise.nil
  | cons r rest ih =>
    obtain ⟨hfirst, hrest⟩ := isContiguous_cons.mp h
    refine List.pairwise_cons.mpr ⟨fun s hs => ?_, ih hrest⟩
    rw [EndsBefore, hfirst]
    exact hrest.start_le hs

/-- There is at most one order in which data records end in front of each other. -/
theorem eq_of_perm_of_endsBefore {records records' : List HexRecord}
    (hperm : records.Perm records') (hdata : ∀ r ∈ records, r.isData = true)
    (h : records.Pairwise EndsBefore) (h' : records'.Pairwise EndsBefore) :
    records = records' := by
  refine List.Perm.eq_of_pairwise (fun r s hr hs hrs hsr => ?_) h h' hperm
  exact HexRecord.eq_of_endsBefore (hdata r hr) (hdata s (hperm.mem_iff.mpr hs)) hrs hsr

/-! ### Sorting by address -/

variable {file other : HexFile} {bytes : List UInt8} {r s : HexRecord}

theorem address_le_trans (r s t : HexRecord) (hrs : decide (r.address ≤ s.address) = true)
    (hst : decide (s.address ≤ t.address) = true) : decide (r.address ≤ t.address) = true :=
  decide_eq_true (UInt16.le_trans (of_decide_eq_true hrs) (of_decide_eq_true hst))

theorem address_le_total (r s : HexRecord) :
    (decide (r.address ≤ s.address) || decide (s.address ≤ r.address)) = true := by
  rw [Bool.or_eq_true, decide_eq_true_iff, decide_eq_true_iff]
  exact UInt16.le_total r.address s.address

theorem perm_sortedData (file : HexFile) : file.sortedData.Perm file.dataRecords :=
  List.mergeSort_perm _ _

theorem pairwise_address_sortedData (file : HexFile) :
    file.sortedData.Pairwise fun r s => r.address ≤ s.address :=
  (List.pairwise_mergeSort address_le_trans address_le_total file.dataRecords).imp
    of_decide_eq_true

/-- Sorting leaves the records of each address in their order. -/
theorem filter_address_sortedData (file : HexFile) (address : UInt16) :
    file.sortedData.filter (fun r => r.address = address)
      = file.dataRecords.filter fun r => r.address = address := by
  have hsame : (file.dataRecords.filter fun r => r.address = address).Pairwise
      fun r s => decide (r.address ≤ s.address) = true := by
    refine List.pairwise_of_forall_mem_list fun r hr s hs => ?_
    have hr := of_decide_eq_true (List.mem_filter.mp hr).2
    have hs := of_decide_eq_true (List.mem_filter.mp hs).2
    exact decide_eq_true (hr ▸ hs ▸ UInt16.le_refl _)
  -- they are in order already, so they stand in the sorted list as they are, and no other
  -- record there has the address
  have hsorted :=
    List.sublist_mergeSort address_le_trans address_le_total hsame List.filter_sublist
  have hsublist := hsorted.filter fun r => decide (r.address = address)
  simp only [List.filter_filter, Bool.and_self] at hsublist
  refine (hsublist.eq_of_length ?_).symm
  exact ((perm_sortedData file).filter _).length_eq.symm

theorem pair_sublist_sortedData_iff (h : r.address = s.address) :
    [r, s].Sublist file.sortedData ↔ [r, s].Sublist file.dataRecords := by
  have hfilter : ∀ records : List HexRecord, [r, s].Sublist records
      ↔ [r, s].Sublist (records.filter fun t => t.address = s.address) := by
    intro records
    refine ⟨fun hsublist => ?_, fun hsublist => hsublist.trans List.filter_sublist⟩
    have hpair : [r, s].filter (fun t => t.address = s.address) = [r, s] := by simp [h]
    exact hpair ▸ hsublist.filter _
  rw [hfilter, filter_address_sortedData, ← hfilter]

/-! ### Records with one address -/

/-- Behind data there is no record without data at the same address. -/
def IsEmptyFirst (file : HexFile) : Prop :=
  file.dataRecords.Pairwise fun r s => r.address = s.address → s.data = [] → r.data = []

/-- No record without data shares its address with data. -/
def IsEmptyApart (file : HexFile) : Prop :=
  ∀ r ∈ file.dataRecords, ∀ s ∈ file.dataRecords, r.address = s.address → s.data = [] →
    r.data = []

theorem IsEmptyApart.isEmptyFirst (h : file.IsEmptyApart) : file.IsEmptyFirst :=
  List.pairwise_of_forall_mem_list h

theorem IsEmptyApart.of_perm (h : file.IsEmptyApart)
    (hperm : file.dataRecords.Perm other.dataRecords) :
    other.IsEmptyApart :=
  fun r hr s hs => h r (hperm.mem_iff.mpr hr) s (hperm.mem_iff.mpr hs)

theorem isEmptyFirst_iff : file.IsEmptyFirst ↔
    file.sortedData.Pairwise fun r s => r.address = s.address → s.data = [] →
      r.data = [] := by
  rw [IsEmptyFirst, List.pairwise_iff_forall_sublist, List.pairwise_iff_forall_sublist]
  constructor
  · intro h r s hsublist haddress
    exact h ((pair_sublist_sortedData_iff haddress).mp hsublist) haddress
  · intro h r s hsublist haddress
    exact h ((pair_sublist_sortedData_iff haddress).mpr hsublist) haddress

theorem isEmptyFirst_of_endsBefore (h : file.sortedData.Pairwise EndsBefore) :
    file.IsEmptyFirst := by
  rw [isEmptyFirst_iff]
  refine h.imp fun {r s} hends haddress _ => ?_
  rw [EndsBefore, haddress] at hends
  exact List.length_eq_zero_iff.mp (by omega)

/-! ### Files with the same records -/

theorem perm_sortedData_of_perm (hperm : file.dataRecords.Perm other.dataRecords) :
    other.sortedData.Perm file.sortedData :=
  (perm_sortedData other).trans (hperm.symm.trans (perm_sortedData file).symm)

/-- If the records of a file end in front of each other in some order, sorting finds it unless
data stand in front of a record without data at their address. -/
theorem IsEmptyFirst.pairwise_endsBefore {records : List HexRecord}
    (hfirst : other.IsEmptyFirst) (hperm : other.sortedData.Perm records)
    (h : records.Pairwise EndsBefore) :
    other.sortedData.Pairwise EndsBefore := by
  -- in any order, of two records one ends in front of the other
  have heither : other.sortedData.Pairwise fun r s => r.EndsBefore s ∨ s.EndsBefore r :=
    (hperm.pairwise_iff Or.symm).mpr (h.imp Or.inl)
  have hsorted := pairwise_address_sortedData other
  have hempty := isEmptyFirst_iff.mp hfirst
  refine (heither.and (hsorted.and hempty)).imp ?_
  rintro r s ⟨hrs | hsr, hle, hempty⟩
  · exact hrs
  · -- the later one ends in front, so both are at one address and the later one has no data
    rw [UInt16.le_iff_toNat_le] at hle
    unfold EndsBefore at hsr ⊢
    have haddress : r.address = s.address := UInt16.toNat_inj.mp (by omega)
    have hs : s.data = [] := List.length_eq_zero_iff.mp (by omega)
    rw [hempty haddress hs, List.length_nil]
    exact hle

theorem sortedData_eq_of_perm (hperm : file.dataRecords.Perm other.dataRecords)
    (h : file.sortedData.Pairwise EndsBefore) (h' : other.sortedData.Pairwise EndsBefore) :
    other.sortedData = file.sortedData :=
  eq_of_perm_of_endsBefore (perm_sortedData_of_perm hperm)
    (fun _ hr => (mem_sortedData.mp hr).2) h' h

/-- Files with the same data records that both make a block of memory put their records in the
same order. -/
theorem eq_of_bytes_eq_ok {bytes' : List UInt8}
    (hperm : file.dataRecords.Perm other.dataRecords) (hfile : file.bytes = .ok bytes)
    (hother : other.bytes = .ok bytes') : bytes' = bytes := by
  obtain ⟨hcontiguous, rfl⟩ := bytes_eq_ok_iff.mp hfile
  obtain ⟨hcontiguous', rfl⟩ := bytes_eq_ok_iff.mp hother
  rw [sortedData_eq_of_perm hperm hcontiguous.pairwise_endsBefore
    hcontiguous'.pairwise_endsBefore]

theorem bytes_eq_ok_iff_isEmptyFirst (hperm : file.dataRecords.Perm other.dataRecords)
    (hfile : file.bytes = .ok bytes) : other.bytes = .ok bytes ↔ other.IsEmptyFirst := by
  have hends := (bytes_eq_ok_iff.mp hfile).1.pairwise_endsBefore
  constructor
  · intro hother
    exact isEmptyFirst_of_endsBefore (bytes_eq_ok_iff.mp hother).1.pairwise_endsBefore
  · intro hfirst
    have hends' := hfirst.pairwise_endsBefore (perm_sortedData_of_perm hperm) hends
    rw [HexFile.bytes, sortedData_eq_of_perm hperm hends hends']
    exact hfile

/-- Of files with the same records, those that make a block of memory make the same one.  If
one of them does, the others do exactly if no record without data stands behind data at its
address; so the order of the records does not matter if no record without data shares its
address with data. -/
theorem bytes_reordered (h : file.records.Perm other.records) :
    (∀ bytes bytes', file.bytes = .ok bytes → other.bytes = .ok bytes' → bytes' = bytes) ∧
    (∀ bytes, file.bytes = .ok bytes → (other.bytes = .ok bytes ↔ other.IsEmptyFirst)) ∧
    (file.IsEmptyApart → ∀ bytes, other.bytes = .ok bytes ↔ file.bytes = .ok bytes) := by
  have hperm : file.dataRecords.Perm other.dataRecords := h.filter HexRecord.isData
  refine ⟨fun bytes bytes' => eq_of_bytes_eq_ok hperm,
    fun bytes => bytes_eq_ok_iff_isEmptyFirst hperm, ?_⟩
  intro hapart bytes
  constructor
  · intro hother
    exact (bytes_eq_ok_iff_isEmptyFirst hperm.symm hother).mpr hapart.isEmptyFirst
  · intro hfile
    exact (bytes_eq_ok_iff_isEmptyFirst hperm hfile).mpr (hapart.of_perm hperm).isEmptyFirst

/-- A record without data in front of data at its address. -/
def emptyInFront : HexFile :=
  ⟨[HexRecord.extendedAddress 0x81, HexRecord.ofData 0 [1, 2], HexRecord.ofData 2 [],
    HexRecord.ofData 2 [3]]⟩

/-- The same records, those with one address still in their order. -/
def emptyMoved : HexFile :=
  ⟨[HexRecord.extendedAddress 0x81, HexRecord.ofData 2 [], HexRecord.ofData 2 [3],
    HexRecord.ofData 0 [1, 2]]⟩

/-- The same records, that without data behind the data at its address. -/
def emptyBehind : HexFile :=
  ⟨[HexRecord.extendedAddress 0x81, HexRecord.ofData 0 [1, 2], HexRecord.ofData 2 [3],
    HexRecord.ofData 2 []]⟩

theorem bytes_emptyInFront : emptyInFront.bytes = .ok [1, 2, 3] := by
  rw [bytes, sortedData_eq (by decide)]
  rfl

/-- Only the order of the two records with one address matters. -/
theorem bytes_reordered_emptyInFront :
    emptyMoved.bytes = .ok [1, 2, 3] ∧ ∀ bytes, emptyBehind.bytes ≠ .ok bytes := by
  have hmoved : emptyInFront.records.Perm emptyMoved.records := by decide
  have hbehind : emptyInFront.records.Perm emptyBehind.records := by decide
  obtain ⟨-, hmakes, -⟩ := bytes_reordered hmoved
  obtain ⟨hsame, hfails, -⟩ := bytes_reordered hbehind
  constructor
  · refine (hmakes _ bytes_emptyInFront).mpr ?_
    unfold IsEmptyFirst
    decide
  · intro bytes hbytes
    have hequal := hsame _ _ bytes_emptyInFront hbytes
    have hfirst := (hfails _ bytes_emptyInFront).mp (hequal ▸ hbytes)
    revert hfirst
    unfold IsEmptyFirst
    decide

/-- The order of two records with one address decides whether a file makes a block of memory:
the one without data is refused behind the other, although nothing is missing and nothing
overlaps. -/
theorem emptyBehind_refused :
    emptyInFront.records.Perm emptyBehind.records ∧
    emptyInFront.bytes = .ok [1, 2, 3] ∧ emptyBehind.bytes = .error (.hex 0 (.gap 2 3)) := by
  refine ⟨by decide, bytes_emptyInFront, ?_⟩
  rw [bytes, sortedData_eq (by decide)]
  rfl

end HexFile
end EepromImage
