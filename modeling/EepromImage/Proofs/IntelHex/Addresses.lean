/-
Where the memory of an Intel HEX file has its data.

* `bytes_eq_ok_iff` — the data make a block of memory exactly if, in the order of their 16-bit
  addresses, each starts where those in front of it end; the block is then the data one behind
  the other;
* `mem_linearData_iff` — the full address of a data record takes its upper half from the last
  record in front that has one;
* `bytes_placed` — the block has each data record at its 16-bit address.  That is its full
  address, counted from the first upper half of the file, as long as no data have another
  upper half.
-/
import Mathlib.Data.List.Pairwise
import EepromImage.IntelHex.File
import EepromImage.Proofs.Blocks

namespace EepromImage

/-- Data carry no upper half. -/
theorem HexRecord.upper?_eq_none {r : HexRecord} (h : r.isData = true) : r.upper? = none := by
  have hkind : r.kind = dataKind := of_decide_eq_true h
  rw [upper?, hkind]
  rfl

namespace HexFile

/-! ### Joining data -/

/-- The first record is at `start`, each of the others at the end of those in front of it. -/
def IsContiguous (start : Nat) (records : List HexRecord) : Prop :=
  ∀ i r, records[i]? = some r →
    r.address.toNat = start + ((records.take i).flatMap HexRecord.data).length

theorem isContiguous_nil (start : Nat) : IsContiguous start [] := nofun

theorem isContiguous_cons {start : Nat} {r : HexRecord} {rest : List HexRecord} :
    IsContiguous start (r :: rest) ↔ r.address.toNat = start ∧
      IsContiguous (start + r.data.length) rest := by
  have hlater : ∀ i, start + (((r :: rest).take (i + 1)).flatMap HexRecord.data).length
      = start + r.data.length + ((rest.take i).flatMap HexRecord.data).length := by
    intro i
    rw [List.take_succ_cons, List.flatMap_cons, List.length_append, Nat.add_assoc]
  constructor
  · intro h
    refine ⟨h 0 r rfl, fun i s hs => ?_⟩
    rw [h (i + 1) s hs, hlater]
  · rintro ⟨hfirst, hrest⟩ i s hs
    cases i with
    | zero =>
      cases hs
      exact hfirst
    | succ i =>
      rw [hlater]
      exact hrest i s hs

theorem join_eq_ok_iff {start : Nat} {records : List HexRecord} {bytes : List UInt8} :
    join start records = .ok bytes ↔ IsContiguous start records ∧
      bytes = records.flatMap HexRecord.data := by
  induction records generalizing start bytes with
  | nil =>
    constructor
    · rintro ⟨⟩
      exact ⟨isContiguous_nil start, rfl⟩
    · rintro ⟨-, rfl⟩
      rfl
  | cons r rest ih =>
    rw [join, isContiguous_cons, List.flatMap_cons]
    by_cases hfirst : r.address.toNat = start
    · rw [if_neg (not_not.mpr hfirst)]
      cases hjoin : join (start + r.data.length) rest with
      | error e =>
        refine ⟨nofun, fun h => ?_⟩
        cases hjoin.symm.trans (ih.mpr ⟨h.1.2, rfl⟩)
      | ok rest' =>
        obtain ⟨hrest, rfl⟩ := ih.mp hjoin
        constructor
        · rintro ⟨⟩
          exact ⟨⟨hfirst, hrest⟩, rfl⟩
        · rintro ⟨-, rfl⟩
          rfl
    · rw [if_pos hfirst]
      exact ⟨nofun, fun h => absurd h.1.1 hfirst⟩

/-- Data of `n` bytes each, the first at `start` and each at the end of the one in front of
it. -/
theorem join_eq_ok {records : List HexRecord} (start n : Nat)
    (hdata : ∀ r ∈ records, r.data.length = n)
    (haddress : ∀ i r, records[i]? = some r → r.address.toNat = start + i * n) :
    join start records = .ok (records.flatMap HexRecord.data) := by
  refine join_eq_ok_iff.mpr ⟨fun i r hr => ?_, rfl⟩
  have hi : i < records.length := (List.getElem?_eq_some_iff.mp hr).choose
  rw [haddress i r hr, length_flatMap_of_length_eq fun s hs =>
    hdata s (List.mem_of_mem_take hs), List.length_take, Nat.min_eq_left (Nat.le_of_lt hi)]

/-- Data records in the order of their addresses stay in their order. -/
theorem sortedData_eq {file : HexFile}
    (h : file.dataRecords.Pairwise fun r s => r.address ≤ s.address) :
    file.sortedData = file.dataRecords :=
  List.mergeSort_of_pairwise (h.imp fun hle => decide_eq_true hle)

theorem mem_sortedData {file : HexFile} {r : HexRecord} :
    r ∈ file.sortedData ↔ r ∈ file.records ∧ r.isData = true := by
  rw [sortedData, List.mem_mergeSort, dataRecords, List.mem_filter]

theorem bytes_eq_ok_iff {file : HexFile} {bytes : List UInt8} :
    file.bytes = .ok bytes ↔
      IsContiguous 0 file.sortedData ∧ bytes = file.sortedData.flatMap HexRecord.data :=
  join_eq_ok_iff

/-- The block of memory has each data record at its 16-bit address. -/
theorem take_drop_bytes {file : HexFile} {bytes : List UInt8} (h : file.bytes = .ok bytes)
    {r : HexRecord} (hr : r ∈ file.records) (hdata : r.isData = true) :
    (bytes.drop r.address.toNat).take r.data.length = r.data := by
  obtain ⟨hcontiguous, rfl⟩ := bytes_eq_ok_iff.mp h
  obtain ⟨i, hi⟩ := List.mem_iff_getElem?.mp (mem_sortedData.mpr ⟨hr, hdata⟩)
  rw [hcontiguous i r hi, Nat.zero_add]
  exact take_drop_flatMap HexRecord.data hi

/-! ### Full addresses -/

/-- The upper half in force behind records: that of the last one that has one. -/
def lastUpper (upper : UInt16) (front : List HexRecord) : UInt16 :=
  (front.reverse.findSome? HexRecord.upper?).getD upper

theorem lastUpper_cons (upper : UInt16) (r : HexRecord) (front : List HexRecord) :
    lastUpper upper (r :: front) = lastUpper (r.upper?.getD upper) front := by
  rw [lastUpper, lastUpper, List.reverse_cons, List.findSome?_append,
    List.findSome?_singleton]
  cases front.reverse.findSome? HexRecord.upper? with
  | none => rfl
  | some u => rfl

/-- Data leave the upper half as it is, so a record of either kind moves it to `r.upper?.getD
upper`. -/
theorem linearDataFrom_cons (upper : UInt16) (r : HexRecord) (rest : List HexRecord) :
    linearDataFrom upper (r :: rest)
      = (if r.isData then [(upper.toNat * 65536 + r.address.toNat, r)] else [])
        ++ linearDataFrom (r.upper?.getD upper) rest := by
  rw [linearDataFrom]
  by_cases hdata : r.isData = true
  · rw [if_pos hdata, if_pos hdata, HexRecord.upper?_eq_none hdata]
    rfl
  · rw [if_neg hdata, if_neg hdata]
    rfl

/-- The data records are those of the list, each with the upper half in force behind those in
front of it. -/
theorem mem_linearDataFrom_iff {upper : UInt16} {records : List HexRecord} {address : Nat}
    {r : HexRecord} :
    (address, r) ∈ linearDataFrom upper records ↔
      ∃ i, records[i]? = some r ∧ r.isData = true ∧
        address = (lastUpper upper (records.take i)).toNat * 65536 + r.address.toNat := by
  induction records generalizing upper with
  | nil =>
    constructor
    · nofun
    · rintro ⟨i, hi, -⟩
      cases hi
  | cons s rest ih =>
    rw [linearDataFrom_cons, List.mem_append, ih]
    constructor
    · rintro (hfirst | ⟨i, hi, hdata, haddress⟩)
      · by_cases hs : s.isData = true
        · rw [if_pos hs] at hfirst
          cases List.mem_singleton.mp hfirst
          exact ⟨0, rfl, hs, rfl⟩
        · rw [if_neg hs] at hfirst
          cases hfirst
      · refine ⟨i + 1, hi, hdata, ?_⟩
        rw [List.take_succ_cons, lastUpper_cons]
        exact haddress
    · rintro ⟨i, hi, hdata, haddress⟩
      cases i with
      | zero =>
        cases hi
        rw [if_pos hdata, List.mem_singleton, haddress]
        exact .inl rfl
      | succ i =>
        rw [List.take_succ_cons, lastUpper_cons] at haddress
        exact .inr ⟨i, hi, hdata, haddress⟩

theorem mem_linearData_iff {file : HexFile} {address : Nat} {r : HexRecord} :
    (address, r) ∈ file.linearData ↔
      ∃ i, file.records[i]? = some r ∧ r.isData = true ∧
        address = (lastUpper 0 (file.records.take i)).toNat * 65536 + r.address.toNat :=
  mem_linearDataFrom_iff

/-- The lower half of a full address is the 16-bit address. -/
theorem mod_of_mem_linearData {file : HexFile} {address : Nat} {r : HexRecord}
    (h : (address, r) ∈ file.linearData) :
    address % 65536 = r.address.toNat := by
  obtain ⟨i, -, -, rfl⟩ := mem_linearData_iff.mp h
  have hlt := r.address.toNat_lt
  omega

/-! ### Places of data -/

/-- The upper half that full addresses are counted from. -/
def upper (file : HexFile) : UInt16 :=
  file.extendedAddress?.getD 0

/-- The block has each data record at its full address, counted from the first upper half of
the file. -/
def IsPlaced (file : HexFile) (bytes : List UInt8) : Prop :=
  ∀ address r, (address, r) ∈ file.linearData → r.data ≠ [] →
    file.upper.toNat * 65536 ≤ address ∧
    (bytes.drop (address - file.upper.toNat * 65536)).take r.data.length = r.data

/-- All data have the upper half that full addresses are counted from. -/
def IsOneBank (file : HexFile) : Prop :=
  ∀ address r, (address, r) ∈ file.linearData → r.data ≠ [] →
    address / 65536 = file.upper.toNat

/-- The block has each data record at its 16-bit address.  With one upper half for all data
that is the full address; in a block of one bank, data with another upper half are not at
their full address. -/
theorem bytes_placed {file : HexFile} {bytes : List UInt8} (h : file.bytes = .ok bytes) :
    (∀ address r, (address, r) ∈ file.linearData →
      (bytes.drop (address % 65536)).take r.data.length = r.data) ∧
    (file.IsOneBank → file.IsPlaced bytes) ∧
    (bytes.length ≤ 65536 → file.IsPlaced bytes → file.IsOneBank) := by
  have hplace : ∀ address r, (address, r) ∈ file.linearData →
      (bytes.drop (address % 65536)).take r.data.length = r.data := by
    intro address r hr
    obtain ⟨i, hi, hdata, -⟩ := mem_linearData_iff.mp hr
    rw [mod_of_mem_linearData hr]
    exact take_drop_bytes h (List.mem_of_getElem? hi) hdata
  refine ⟨hplace, fun hbank address r hr hne => ?_,
    fun hlength hplaced address r hr hne => ?_⟩
  · have hupper := hbank address r hr hne
    have hoffset : address - file.upper.toNat * 65536 = address % 65536 := by omega
    refine ⟨by omega, ?_⟩
    rw [hoffset]
    exact hplace address r hr
  · obtain ⟨hbase, hslice⟩ := hplaced address r hr hne
    -- data that are found somewhere start inside the block, which is no longer than a bank
    have hinside : address - file.upper.toNat * 65536 < bytes.length := by
      by_contra hout
      rw [List.drop_eq_nil_of_le (Nat.le_of_not_lt hout), List.take_nil] at hslice
      exact hne hslice.symm
    omega

/-- Data in descending order, with one upper half. -/
def oneBank : HexFile :=
  ⟨[HexRecord.extendedAddress 0x81, HexRecord.ofData 1 [2, 3], HexRecord.ofData 0 [1]]⟩

theorem sortedData_oneBank :
    oneBank.sortedData = [HexRecord.ofData 0 [1], HexRecord.ofData 1 [2, 3]] := by
  have hdata : oneBank.dataRecords = [HexRecord.ofData 1 [2, 3], HexRecord.ofData 0 [1]] := by
    decide
  rw [sortedData, hdata, List.mergeSort]
  -- the two halves have one record each
  show ([HexRecord.ofData 1 [2, 3]].mergeSort _).merge
      ([HexRecord.ofData 0 [1]].mergeSort _) _ = _
  rw [List.mergeSort_singleton, List.mergeSort_singleton, List.cons_merge_cons,
    if_neg (by decide), List.merge_right]

/-- Data in descending order are put in order, each at its full address counted from the upper
half. -/
theorem isPlaced_oneBank :
    oneBank.bytes = .ok [1, 2, 3] ∧ oneBank.IsOneBank ∧ oneBank.IsPlaced [1, 2, 3] := by
  have hbytes : oneBank.bytes = .ok [1, 2, 3] := by
    rw [bytes, sortedData_oneBank]
    rfl
  have hbank : oneBank.IsOneBank := by
    have hall : ∀ entry ∈ oneBank.linearData, entry.1 / 65536 = oneBank.upper.toNat := by
      decide
    exact fun address r hr _ => hall (address, r) hr
  exact ⟨hbytes, hbank, (bytes_placed hbytes).2.1 hbank⟩

/-- Data with two upper halves. -/
def twoBanks : HexFile :=
  ⟨[HexRecord.extendedAddress 0, HexRecord.ofData 0 [1], HexRecord.extendedAddress 1,
    HexRecord.ofData 1 [2]]⟩

/-- Data with two upper halves make one block, although the second record has no place in
it. -/
theorem not_isPlaced_twoBanks : twoBanks.bytes = .ok [1, 2] ∧ ¬ twoBanks.IsPlaced [1, 2] := by
  constructor
  · rw [bytes, sortedData_eq (by decide)]
    rfl
  · intro h
    have hslice := (h 65537 (HexRecord.ofData 1 [2]) (by decide) (by decide)).2
    revert hslice
    decide

end HexFile
end EepromImage
