/-
The Intel HEX file of an image spells the image.

The line of a record is read as the record.  The count of a record is one byte, so this holds
for data of at most 255 bytes.  The count of longer data wraps, and is then less than the
data, so that their line is refused.

* `isRecordBytes_bytes`, `fromBytes_bytes` — count, address, type, data and checksum are the
  bytes of the record;
* `ofLine_line` — the line spells them, so it is read as the record;
* `trim_line`, `newline_not_mem_line` — the line is one line of a text, without white space
  around it;
* `parse_recordLine` — what a file keeps of the line of any record: nothing but the record
  itself;
* `parse_hexText` — the text of records is read as those of them that a file keeps;
* `hex_allocate` — the text of a compiled image has one line for the upper half of the base
  address and one for each frame, and is read back as the bytes of the image.
-/
import Mathlib.Data.List.Pairwise
import EepromImage.Proofs.Image.Allocation
import EepromImage.Proofs.IntelHex.Addresses
import EepromImage.Proofs.IntelHex.Grammar

namespace EepromImage

namespace HexRecord

variable {r : HexRecord}

/-! ### Bytes -/

theorem bytes_eq_concat (r : HexRecord) :
    r.bytes = UInt8.ofNat r.data.length :: Word.high r.address :: Word.low r.address
      :: r.kind ::
      (r.data ++ [checksum r.body]) := rfl

theorem isRecordBytes_bytes (h : r.data.length ≤ 255) : IsRecordBytes r.bytes := by
  have hcount : (UInt8.ofNat r.data.length).toNat = r.data.length :=
    UInt8.toNat_ofNat_of_lt' (Nat.lt_succ_of_le h)
  rw [bytes_eq_concat, isRecordBytes_concat_iff]
  exact ⟨hcount.symm, rfl⟩

theorem fromBytes_bytes (r : HexRecord) : fromBytes r.bytes = r := by
  rw [bytes_eq_concat, fromBytes_concat, Word.ofBytes_high_low]

/-! ### Lines -/

theorem toList_line (r : HexRecord) :
    r.line.toList = ':' :: r.bytes.flatMap Numeral.byteDigits := by
  rw [line, Numeral.hexBytes, String.toList_append, String.toList_ofList,
    String.toList_ofList, List.singleton_append]

/-- No character of a line is white space. -/
theorem isBlank_of_mem_line {c : Char} (h : c ∈ r.line.toList) : Text.isBlank c = false := by
  rw [toList_line] at h
  rcases List.mem_cons.mp h with rfl | h
  · decide
  · exact isBlank_of_isHexDigit (isHexDigit_of_mem_byteDigits h)

theorem trim_line (r : HexRecord) : Text.trim r.line.toList = r.line.toList :=
  Text.trim_eq_self fun _ hc => isBlank_of_mem_line hc

theorem newline_not_mem_line (r : HexRecord) : '\n' ∉ r.line.toList :=
  Text.newline_not_mem fun _ hc => isBlank_of_mem_line hc

/-- A line keeps its number and its text. -/
theorem number_cons_line (r : HexRecord) (first : Nat) (pieces : List (List Char)) :
    Text.number first (r.line.toList :: pieces)
      = ⟨first, r.line.toList⟩ :: Text.number (first + 1) pieces := by
  have hne : Text.trim r.line.toList ≠ [] := by
    rw [trim_line, toList_line]
    exact List.cons_ne_nil _ _
  rw [Text.number_cons_of_ne_nil hne, trim_line]

theorem isSpelledLine_line (h : r.data.length ≤ 255) : IsSpelledLine r.line.toList r.bytes :=
  ⟨_, toList_line r, spells_byteDigits r.bytes, isRecordBytes_bytes h⟩

theorem ofLine_line (h : r.data.length ≤ 255) : ofLine r.line.toList = .ok r :=
  ofLine_eq_ok_iff.mpr ⟨r.bytes, isSpelledLine_line h, (fromBytes_bytes r).symm⟩

/-- The line of a record is one of the format: it is spelled without a plus sign. -/
theorem exists_isDigitLine_line (h : r.data.length ≤ 255) :
    ∃ digits, IsDigitLine r.line.toList digits := by
  have hplus : '+' ∉ r.line.toList := by
    rw [toList_line]
    intro hmem
    rcases List.mem_cons.mp hmem with heq | hmem
    · cases heq
    · exact not_isHexDigit_plus (isHexDigit_of_mem_byteDigits hmem)
  obtain ⟨digits, hdigits, -⟩ :=
    (isSpelledLine_iff_of_not_mem hplus).mp (isSpelledLine_line h)
  exact ⟨digits, hdigits⟩

/-! ### Data past the count -/

/-- A wrapped count is less than the data, whatever multiple of 256 has gone. -/
theorem ofBytes_bytes_of_lt (h : 255 < r.data.length) :
    ofBytes r.bytes = .error (.count (r.data.length % 256) r.data.length) := by
  have hcount : (UInt8.ofNat r.data.length).toNat = r.data.length % 256 := UInt8.toNat_ofNat'
  have hne : r.data.length ≠ r.data.length % 256 := by omega
  rw [bytes_eq_concat, ofBytes_concat, hcount, if_pos hne]

/-- The pairs of a line are the bytes of its record, be the count wrapped or not. -/
theorem ofLine_line_eq_ofBytes (r : HexRecord) : ofLine r.line.toList = ofBytes r.bytes := by
  have hspells := spells_byteDigits r.bytes
  have hfive : 5 ≤ r.bytes.length := by
    rw [bytes_eq_concat]
    simp only [List.length_cons, List.length_append, List.length_nil]
    omega
  rw [toList_line, ofLine, wellShaped_of_spells hspells hfive,
    readPairs?_eq_some_iff.mpr hspells]
  rfl

theorem numberedLines_line (r : HexRecord) :
    Text.numberedLines r.line.toList = [⟨1, r.line.toList⟩] := by
  rw [Text.numberedLines, Text.lines_eq_singleton r.newline_not_mem_line, number_cons_line]
  rfl

end HexRecord

/-- The line of a record is never read as another record: data and addresses are read as they
were written, records of other types leave nothing, and a record with more data than a count
can say is refused. -/
theorem HexFile.parse_recordLine (r : HexRecord) :
    HexFile.parse r.line.toList
      = if 255 < r.data.length then
        .error (.hex 1 (.count (r.data.length % 256) r.data.length))
        else .ok ⟨if r.kind = HexRecord.dataKind ∨ r.kind = HexRecord.extendedAddressKind then
          [r] else []⟩ := by
  rw [parse, r.numberedLines_line, ofLines, recordsOfLines_single]
  by_cases hlong : 255 < r.data.length
  · rw [r.ofLine_line_eq_ofBytes, HexRecord.ofBytes_bytes_of_lt hlong, if_pos hlong]
  · rw [HexRecord.ofLine_line (Nat.le_of_not_lt hlong), if_neg hlong]
    rfl

/-! ### Reading records back -/

namespace HexFile

/-- What a file keeps of records: those of the kept types, up to the first one that ends a
file. -/
def keep (records : List HexRecord) : List HexRecord :=
  (records.takeWhile fun r => !r.isEnd).filter HexRecord.isKept

theorem keep_cons (r : HexRecord) (rest : List HexRecord) :
    keep (r :: rest) = if r.isEnd then [] else keptOf r ++ keep rest := by
  rw [keep, List.takeWhile_cons]
  cases r.isEnd with
  | true => rfl
  | false =>
    show (r :: rest.takeWhile fun r => !r.isEnd).filter HexRecord.isKept
        = keptOf r ++ keep rest
    rw [List.filter_cons, keptOf]
    cases r.isKept <;> rfl

theorem recordsOfLines_number {records : List HexRecord}
    (h : ∀ r ∈ records, r.data.length ≤ 255) (first : Nat) :
    recordsOfLines (Text.number first ((records.map fun r => r.line.toList) ++ [[]]))
      = .ok (keep records) := by
  induction records generalizing first with
  -- the piece behind the last line feed is blank and has no number
  | nil => rfl
  | cons r rest ih =>
    have hr := HexRecord.ofLine_line (h r List.mem_cons_self)
    have hrest := ih (fun s hs => h s (List.mem_cons_of_mem r hs)) (first + 1)
    rw [List.map_cons, List.cons_append, HexRecord.number_cons_line, keep_cons]
    cases hend : r.isEnd with
    | true => exact recordsOfLines_end hr hend
    | false =>
      rw [recordsOfLines_next hr hend, hrest]
      rfl

end HexFile

namespace Image

/-- The lines of a text are those of its records, each with a line feed. -/
theorem lines_hexText (records : List HexRecord) :
    Text.lines (hexText records).toList = (records.map fun r => r.line.toList) ++ [[]] := by
  have htext : (hexText records).toList
      = (records.map fun r => r.line.toList).flatMap fun l => l ++ ['\n'] := by
    rw [hexText, String.toList_join, List.flatMap_map, List.flatMap_map]
    refine congrArg (records.flatMap ·) (funext fun r => ?_)
    rw [String.toList_append, String.toList_ofList]
  rw [htext]
  refine Text.lines_flatMap fun l hl => ?_
  obtain ⟨r, -, rfl⟩ := List.mem_map.mp hl
  exact r.newline_not_mem_line

end Image

namespace HexFile

theorem parse_hexText {records : List HexRecord} (h : ∀ r ∈ records, r.data.length ≤ 255) :
    parse (Image.hexText records).toList = .ok ⟨keep records⟩ := by
  rw [parse, Text.numberedLines, Image.lines_hexText, ofLines, recordsOfLines_number h]

end HexFile

/-! ### Files of images -/

/-- Only the upper half of the base address is written. -/
theorem HexOptions.toNat_extendedAddress (options : HexOptions) :
    options.extendedAddress.toNat = options.baseAddress.toNat >>> 16 := by
  have hlt := options.baseAddress.toNat_lt
  rw [Nat.shiftRight_eq_div_pow]
  exact UInt16.toNat_ofNat_of_lt' (Nat.div_lt_of_lt_mul hlt)

namespace Image

variable {image : Image}

/-- The records that a file of the image keeps. -/
def keptRecords (image : Image) (options : HexOptions) : List HexRecord :=
  HexRecord.extendedAddress options.extendedAddress :: image.records.map Record.dataRecord

/-- A file keeps all records but the one that ends it. -/
theorem keep_endRecords (image : Image) (options : HexOptions) :
    HexFile.keep (image.keptRecords options ++ endRecords options)
      = image.keptRecords options := by
  have hdata : HexFile.keep (image.records.map Record.dataRecord ++ endRecords options)
      = image.records.map Record.dataRecord := by
    induction image.records with
    | nil =>
      rw [List.map_nil, List.nil_append, endRecords]
      cases options.eofRecord <;> rfl
    | cons r rest ih =>
      rw [List.map_cons, List.cons_append, HexFile.keep_cons, ih]
      rfl
  rw [keptRecords, List.cons_append, HexFile.keep_cons, hdata]
  rfl

theorem dataRecords_keptRecords (image : Image) (options : HexOptions) :
    (HexFile.mk (image.keptRecords options)).dataRecords
      = image.records.map Record.dataRecord := by
  have hall : ∀ r ∈ image.records.map Record.dataRecord, r.isData = true := by
    intro d hd
    obtain ⟨r, -, rfl⟩ := List.mem_map.mp hd
    rfl
  show (HexRecord.extendedAddress options.extendedAddress
      :: image.records.map Record.dataRecord).filter _ = _
  rw [List.filter_cons_of_neg Bool.false_ne_true, List.filter_eq_self.mpr hall]

theorem extendedAddress?_keptRecords (image : Image) (options : HexOptions) :
    (HexFile.mk (image.keptRecords options)).extendedAddress?
      = some options.extendedAddress := by
  have hupper : (HexRecord.extendedAddress options.extendedAddress).upper?
      = some options.extendedAddress :=
    congrArg some (Word.ofBytes_high_low options.extendedAddress)
  rw [HexFile.extendedAddress?, keptRecords, List.findSome?_cons, hupper]

theorem IsTiled.getElem?_dataRecords (h : image.IsTiled)
    (hspace : image.byteLength ≤ addressSpace) {i : Nat} {d : HexRecord}
    (hd : (image.records.map Record.dataRecord)[i]? = some d) :
    d.address.toNat = i * image.layout.size ∧ d.data.length = image.layout.size := by
  rw [List.getElem?_map] at hd
  obtain ⟨r, hr, rfl⟩ := Option.map_eq_some_iff.mp hd
  exact ⟨toNat_dataRecord_address h hspace hr,
    h.length_bytes_of_mem (List.mem_of_getElem? hr)⟩

/-- The data records of an image spell its bytes. -/
theorem IsTiled.bytes_keptRecords (h : image.IsTiled)
    (hspace : image.byteLength ≤ addressSpace) (options : HexOptions) :
    (HexFile.mk (image.keptRecords options)).bytes = .ok image.bytes := by
  have hdata := dataRecords_keptRecords image options
  -- addresses ascend with the index, so sorting moves nothing
  have hsorted : (image.records.map Record.dataRecord).Pairwise
      fun r s => r.address ≤ s.address := by
    rw [List.pairwise_iff_getElem]
    intro i j hi hj hij
    rw [UInt16.le_iff_toNat_le,
      (h.getElem?_dataRecords hspace (List.getElem?_eq_getElem hi)).1,
      (h.getElem?_dataRecords hspace (List.getElem?_eq_getElem hj)).1]
    exact Nat.mul_le_mul_right _ (Nat.le_of_lt hij)
  have hjoin : HexFile.join 0 (image.records.map Record.dataRecord)
      = .ok ((image.records.map Record.dataRecord).flatMap HexRecord.data) := by
    refine HexFile.join_eq_ok 0 image.layout.size (fun d hd => ?_) fun i d hd => ?_
    · obtain ⟨i, hi⟩ := List.mem_iff_getElem?.mp hd
      exact (h.getElem?_dataRecords hspace hi).2
    · rw [(h.getElem?_dataRecords hspace hd).1, Nat.zero_add]
  rw [HexFile.bytes, HexFile.sortedData_eq (hdata ▸ hsorted), hdata, hjoin, List.flatMap_map]
  rfl

/-- No record of the file has more data than its count can say. -/
theorem IsTiled.data_le (h : image.IsTiled) (options : HexOptions) :
    ∀ d ∈ image.keptRecords options ++ endRecords options, d.data.length ≤ 255 := by
  intro d hd
  rcases List.mem_append.mp hd with hd | hd
  · rcases List.mem_cons.mp hd with rfl | hd
    · exact Nat.le_of_ble_eq_true rfl
    · obtain ⟨r, hr, rfl⟩ := List.mem_map.mp hd
      show r.bytes.length ≤ 255
      rw [h.length_bytes_of_mem hr]
      exact Nat.le_trans image.layout.size_le_max (by decide)
  · have hend : d = HexRecord.endOfFile := by
      rw [endRecords] at hd
      split_ifs at hd
      · exact List.mem_singleton.mp hd
      · cases hd
    rw [hend]
    decide

end Image

/-- The Intel HEX text of a compiled image reads back as the image: one record with the upper
half of the base address, and one for each frame. -/
theorem SlotTable.hex_allocate {t : SlotTable} {image : Image} (h : t.allocate = .ok image)
    (options : HexOptions) :
    ∃ (text : String) (file : HexFile) (upper : UInt16) (data : List HexRecord)
      (lines : List (List Char)),
      image.hex options = .ok text ∧
      HexFile.parse text.toList = .ok file ∧
      file.bytes = .ok image.bytes ∧
      file.extendedAddress? = some upper ∧ upper.toNat = options.baseAddress.toNat >>> 16 ∧
      file.records = HexRecord.extendedAddress upper :: data ∧ data.length = image.length ∧
      (∀ i r, image.records[i]? = some r →
        ∃ d, data[i]? = some d ∧ d.kind = HexRecord.dataKind ∧
          d.address.toNat = i * t.layout.size ∧
          d.data = r.bytes ∧ r.bytes.length = t.layout.size) ∧
      Text.lines text.toList = lines ++ [[]] ∧
      lines.length = 1 + image.length + (if options.eofRecord then 1 else 0) := by
  obtain ⟨hv, hsize, rfl⟩ := allocate_eq_ok_iff.mp h
  have htiled := layOut_isTiled hv
  have hspace : t.layOut.byteLength ≤ addressSpace :=
    byteLength_layOut hv ▸ Nat.le_trans hsize t.sizeLimit_le
  have hrecords := Image.hexRecords_eq_ok htiled hspace options
  have hparse := HexFile.parse_hexText (htiled.data_le options)
  rw [Image.keep_endRecords] at hparse
  refine ⟨_, _, options.extendedAddress, t.layOut.records.map Record.dataRecord, _, ?_,
    hparse, htiled.bytes_keptRecords hspace options,
    Image.extendedAddress?_keptRecords _ options, options.toNat_extendedAddress, rfl,
    List.length_map _, fun i r hr => ?_, Image.lines_hexText _, ?_⟩
  · rw [Image.hex, hrecords]
    rfl
  · refine ⟨r.dataRecord, ?_, rfl, Image.toNat_dataRecord_address htiled hspace hr, rfl,
      htiled.length_bytes_of_mem (List.mem_of_getElem? hr)⟩
    rw [List.getElem?_map, hr]
    rfl
  · rw [List.length_map, List.length_append, Image.keptRecords, List.length_cons,
      List.length_map, Image.endRecords, Image.length, Nat.add_comm _ 1]
    cases options.eofRecord <;> rfl

/-- Eight frames, the upper half of the base address and the end of the file make ten
lines. -/
theorem SlotTable.hex_mixedTable :
    mixedTable.allocate = .ok mixedTable.layOut ∧
    ∃ text file lines, mixedTable.layOut.hex { eofRecord := true } = .ok text ∧
      HexFile.parse text.toList = .ok file ∧ file.bytes = .ok mixedTable.layOut.bytes ∧
      Text.lines text.toList = lines ++ [[]] ∧ lines.length = 10 := by
  obtain ⟨text, file, -, -, lines, htext, hparse, hbytes, -, -, -, -, -, hlines, hlength⟩ :=
    hex_allocate allocate_mixedTable { eofRecord := true }
  exact ⟨allocate_mixedTable, text, file, lines, htext, hparse, hbytes, hlines, hlength⟩

end EepromImage
