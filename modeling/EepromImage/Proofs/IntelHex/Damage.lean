/-
Damaged Intel HEX text.

The bytes of a record sum to a multiple of 256, so none of them can be another one:

* `IsRecordBytes.eq_of_replaced` — two records that differ in one byte at most are the same;
* `exists_fault_of_isDamaged` — a line that is read as a record is refused with another byte
  in it, be it the count, the address, the type, the data or the checksum;
* `parse_withLine` — a text of records is refused at the first line that is refused, all lines
  in front being read;
* `hex_damaged` — the text of a compiled image with one byte damaged is refused at the line of
  that byte.
-/
import EepromImage.Proofs.IntelHex.RoundTrip

namespace EepromImage

/-- The line `damaged` is `line` but for the two digits of one byte, which are those of
another byte, in either case. -/
inductive HexRecord.IsDamaged : List Char → List Char → Prop
  | byte {front behind : List Char} {high low high' low' : Char}
    (heven : front.length % 2 = 0)
      (hhigh : IsHexDigit high') (hlow : IsHexDigit low')
      (hne : hexValue high' * 16 + hexValue low' ≠ hexValue high * 16 + hexValue low) :
      IsDamaged (':' :: (front ++ high :: low :: behind))
        (':' :: (front ++ high' :: low' :: behind))

/-! ### Pairs -/

namespace Spells

variable {front rest behind : List Char} {high low : Char} {bytes bytes' : List UInt8}

theorem unique {cs : List Char} (h : Spells cs bytes) (h' : Spells cs bytes') :
    bytes = bytes' := by
  have hread := readPairs?_eq_some_iff.mpr h
  rw [readPairs?_eq_some_iff.mpr h', Option.some_inj] at hread
  exact hread.symm

theorem exists_eq_append :
    ∀ {front : List Char} {bytes : List UInt8}, Spells (front ++ rest) bytes →
    front.length % 2 = 0 → ∃ ahead after, bytes = ahead ++ after ∧ Spells front ahead ∧
      Spells rest after
  | [], bytes, h, _ => ⟨[], bytes, rfl, .nil, h⟩
  | [_], _, _, heven => nomatch heven
  | _ :: _ :: front, _, h, heven => by
    have hfront : front.length % 2 = 0 := by
      rw [List.length_cons, List.length_cons] at heven
      omega
    cases h with
    | pair hb hrest =>
      obtain ⟨ahead, after, rfl, hahead, hafter⟩ := exists_eq_append hrest hfront
      exact ⟨_, after, rfl, .pair hb hahead, hafter⟩

theorem exists_eq_append_cons (h : Spells (front ++ high :: low :: behind) bytes)
    (heven : front.length % 2 = 0) (hhigh : IsHexDigit high) :
    ∃ ahead after, bytes = ahead ++ UInt8.ofNat (hexValue high * 16 + hexValue low) :: after ∧
      Spells front ahead ∧ Spells behind after := by
  obtain ⟨ahead, tail, rfl, hahead, htail⟩ := exists_eq_append h heven
  cases htail with
  | pair hb hafter =>
    cases hb with
    | digits => exact ⟨ahead, _, rfl, hahead, hafter⟩
    | plus => exact absurd hhigh not_isHexDigit_plus

end Spells

/-! ### Lines -/

/-- The sum of a record's bytes leaves no choice for any one of them. -/
theorem IsRecordBytes.eq_of_replaced {front behind : List UInt8} {b b' : UInt8}
    (h : IsRecordBytes (front ++ b :: behind)) (h' : IsRecordBytes (front ++ b' :: behind)) :
    b = b' := by
  have hsum := h.sum_eq
  have hsum' := h'.sum_eq
  have hlt := b.toNat_lt
  have hlt' := b'.toNat_lt
  simp only [List.map_append, List.map_cons, List.sum_append, List.sum_cons] at hsum hsum'
  rw [← UInt8.toNat_inj]
  omega

namespace HexRecord

variable {line damaged : List Char}

/-- A line of the format with another byte in it is no record. -/
theorem exists_fault_of_isDamaged {digits : List Char} (hline : IsDigitLine line digits)
    (hdamaged : IsDamaged line damaged) : ∃ fault, ofLine damaged = .error fault := by
  cases hread : ofLine damaged with
  | error fault => exact ⟨fault, rfl⟩
  | ok r =>
    exfalso
    obtain ⟨bytes', ⟨digits', hdigits', hspells', hrecord'⟩, -⟩ := ofLine_eq_ok_iff.mp hread
    have hspells := spells_pairBytes hline.even hline.isHexDigit
    have hrecord := hline.isRecordBytes
    cases hdamaged with
    | @byte front behind high low high' low' heven hhigh' hlow' hne =>
      obtain ⟨-, rfl⟩ := List.cons.inj hline.line_eq
      obtain ⟨-, rfl⟩ := List.cons.inj hdigits'
      have hhigh : IsHexDigit high := hline.isHexDigit high (by simp)
      have hlow : IsHexDigit low := hline.isHexDigit low (by simp)
      -- in front of the byte and behind it, both lines spell the same
      obtain ⟨ahead, after, hbytes, hahead, hafter⟩ :=
        hspells.exists_eq_append_cons heven hhigh
      obtain ⟨ahead', after', rfl, hahead', hafter'⟩ :=
        hspells'.exists_eq_append_cons heven hhigh'
      obtain rfl := hahead.unique hahead'
      obtain rfl := hafter.unique hafter'
      rw [hbytes] at hrecord
      have hhighLt := hexValue_lt hhigh
      have hlowLt := hexValue_lt hlow
      have hhighLt' := hexValue_lt hhigh'
      have hlowLt' := hexValue_lt hlow'
      have hbyte : hexValue high * 16 + hexValue low < 256 := by omega
      have hbyte' : hexValue high' * 16 + hexValue low' < 256 := by omega
      have heq := hrecord.eq_of_replaced hrecord'
      rw [← UInt8.toNat_inj, UInt8.toNat_ofNat_of_lt' hbyte,
        UInt8.toNat_ofNat_of_lt' hbyte'] at heq
      exact hne heq.symm

namespace IsDamaged

theorem ne_nil (h : IsDamaged line damaged) : line ≠ [] ∧ damaged ≠ [] := by
  cases h
  exact ⟨List.cons_ne_nil _ _, List.cons_ne_nil _ _⟩

/-- The digits of another byte bring no white space. -/
theorem isBlank_eq_false (h : IsDamaged line damaged)
    (hline : ∀ c ∈ line, Text.isBlank c = false) :
    ∀ c ∈ damaged, Text.isBlank c = false := by
  cases h with
  | byte heven hhigh hlow hne =>
    intro c hc
    simp only [List.mem_cons, List.mem_append] at hline hc
    rcases hc with rfl | hc | rfl | rfl | hc
    · decide
    · exact hline c (by simp [hc])
    · exact isBlank_of_isHexDigit hhigh
    · exact isBlank_of_isHexDigit hlow
    · exact hline c (by simp [hc])

end IsDamaged
end HexRecord

/-! ### Texts -/

/-- A line with something in it is that of a record. -/
theorem Image.exists_of_getElem?_lines {records : List HexRecord} {k : Nat} {line : List Char}
    (h : (Text.lines (hexText records).toList)[k]? = some line) (hne : line ≠ []) :
    ∃ r, records[k]? = some r ∧ line = r.line.toList := by
  rw [lines_hexText] at h
  by_cases hk : k < (records.map fun r => r.line.toList).length
  · rw [List.getElem?_append_left hk, List.getElem?_map] at h
    obtain ⟨r, hr, rfl⟩ := Option.map_eq_some_iff.mp h
    exact ⟨r, hr, rfl⟩
  · rw [List.getElem?_append_right (Nat.le_of_not_lt hk)] at h
    exact absurd (List.mem_singleton.mp (List.mem_of_getElem? h)) hne

theorem Image.exists_lines_withLine {records : List HexRecord} {k : Nat} {line : List Char}
    (hk : k < records.length) (h : '\n' ∉ line) :
    ∃ behind, Text.lines (Text.withLine (hexText records).toList k line)
      = ((records.take k).map fun r => r.line.toList) ++ line :: behind := by
  have hlt : k < ((records.map fun r : HexRecord => r.line.toList) ++ [[]]).length := by
    rw [List.length_append, List.length_map]
    omega
  have hle : k ≤ (records.map fun r : HexRecord => r.line.toList).length := by
    rw [List.length_map]
    omega
  rw [Text.lines_withLine k h, lines_hexText, List.set_eq_take_append_cons_drop, if_pos hlt,
    List.take_append_of_le_length hle, List.map_take]
  exact ⟨_, rfl⟩

namespace HexFile

/-- Behind lines that are read, none of which ends the file, a line that is refused is refused
with its number. -/
theorem recordsOfLines_refused {records : List HexRecord} {piece : List Char}
    {rest : List (List Char)} {fault : HexFault} (hdata : ∀ r ∈ records, r.data.length ≤ 255)
    (hend : ∀ r ∈ records, r.isEnd = false) (hblank : Text.trim piece ≠ [])
    (hfault : HexRecord.ofLine (Text.trim piece) = .error fault) (first : Nat) :
    recordsOfLines (Text.number first ((records.map fun r => r.line.toList) ++ piece :: rest))
      = .error (.hex (first + records.length) fault) := by
  induction records generalizing first with
  | nil =>
    rw [List.map_nil, List.nil_append, Text.number_cons_of_ne_nil hblank]
    exact recordsOfLines_fault hfault
  | cons r tail ih =>
    have hr := HexRecord.ofLine_line (hdata r List.mem_cons_self)
    have htail :=
      ih (fun s hs => hdata s (List.mem_cons_of_mem r hs))
        (fun s hs => hend s (List.mem_cons_of_mem r hs))
      (first + 1)
    rw [List.map_cons, List.cons_append, HexRecord.number_cons_line,
      recordsOfLines_next hr (hend r List.mem_cons_self), htail, List.length_cons,
      Nat.add_right_comm]
    rfl

/-- A text of records with one line damaged is refused at that line, if no record in front
ends the file. -/
theorem parse_withLine {records : List HexRecord} {k : Nat} {line damaged : List Char}
    (hdata : ∀ r ∈ records, r.data.length ≤ 255)
    (hend : ∀ r ∈ records.take k, r.isEnd = false)
    (hline : (Text.lines (Image.hexText records).toList)[k]? = some line)
    (hdamaged : HexRecord.IsDamaged line damaged) :
    ∃ fault, parse (Text.withLine (Image.hexText records).toList k damaged)
      = .error (.hex (k + 1) fault) := by
  obtain ⟨r, hr, rfl⟩ := Image.exists_of_getElem?_lines hline hdamaged.ne_nil.1
  have hk : k < records.length := (List.getElem?_eq_some_iff.mp hr).choose
  obtain ⟨digits, hdigits⟩ :=
    HexRecord.exists_isDigitLine_line (hdata r (List.mem_of_getElem? hr))
  obtain ⟨fault, hfault⟩ := HexRecord.exists_fault_of_isDamaged hdigits hdamaged
  have hblank := hdamaged.isBlank_eq_false fun c hc => HexRecord.isBlank_of_mem_line hc
  have hnewline : '\n' ∉ damaged := Text.newline_not_mem hblank
  have htrim : Text.trim damaged = damaged := Text.trim_eq_self hblank
  obtain ⟨behind, hlines⟩ := Image.exists_lines_withLine hk hnewline
  have hdata' : ∀ s ∈ records.take k, s.data.length ≤ 255 :=
    fun s hs => hdata s (List.mem_of_mem_take hs)
  refine ⟨fault, ?_⟩
  rw [parse, Text.numberedLines, hlines, ofLines,
    recordsOfLines_refused hdata' hend (htrim.symm ▸ hdamaged.ne_nil.2) (htrim.symm ▸ hfault),
    List.length_take_of_le (Nat.le_of_lt hk), Nat.add_comm]

end HexFile

/-- Only the last record of an image's file ends it. -/
theorem Image.isEnd_eq_false_of_mem_take {image : Image} {options : HexOptions} {k : Nat}
    {r : HexRecord} (hk : k < (image.keptRecords options ++ endRecords options).length)
    (hr : r ∈ (image.keptRecords options ++ endRecords options).take k) :
    r.isEnd = false := by
  have hlen : (endRecords options).length ≤ 1 := by
    rw [endRecords]
    split_ifs <;> simp
  rw [List.length_append] at hk
  rw [List.take_append_of_le_length (by omega)] at hr
  rcases List.mem_cons.mp (List.mem_of_mem_take hr) with rfl | hr
  · rfl
  · obtain ⟨record, -, rfl⟩ := List.mem_map.mp hr
    rfl

theorem SlotTable.hex_eq_ok {t : SlotTable} {image : Image} (h : t.allocate = .ok image)
    (options : HexOptions) :
    image.hex options
      = .ok (Image.hexText (image.keptRecords options ++ Image.endRecords options)) := by
  obtain ⟨hv, hsize, rfl⟩ := allocate_eq_ok_iff.mp h
  have hspace : t.layOut.byteLength ≤ addressSpace :=
    byteLength_layOut hv ▸ Nat.le_trans hsize t.sizeLimit_le
  rw [Image.hex, Image.hexRecords_eq_ok (layOut_isTiled hv) hspace]
  rfl

/-- The Intel HEX text of a compiled image with the two digits of one byte replaced by those
of another byte, on whatever line and wherever in it, is refused, and the error has the number
of the line. -/
theorem SlotTable.hex_damaged {t : SlotTable} {image : Image} (h : t.allocate = .ok image)
    (options : HexOptions) :
    ∃ text, image.hex options = .ok text ∧
      ∀ (k : Nat) (line damaged : List Char), (Text.lines text.toList)[k]? = some line →
        HexRecord.IsDamaged line damaged →
        ∃ fault, HexFile.parse (Text.withLine text.toList k damaged)
          = .error (.hex (k + 1) fault) := by
  refine ⟨_, hex_eq_ok h options, ?_⟩
  obtain ⟨hv, -, rfl⟩ := allocate_eq_ok_iff.mp h
  intro k line damaged hline hdamaged
  obtain ⟨r, hr, -⟩ := Image.exists_of_getElem?_lines hline hdamaged.ne_nil.1
  have hk := (List.getElem?_eq_some_iff.mp hr).choose
  exact HexFile.parse_withLine ((layOut_isTiled hv).data_le options)
    (fun s hs => Image.isEnd_eq_false_of_mem_take hk hs) hline hdamaged

/-- The record that ends the file, made data by its type, is refused at its line, the
tenth. -/
theorem SlotTable.hex_damaged_mixedTable :
    mixedTable.allocate = .ok mixedTable.layOut ∧
    ∃ text fault, mixedTable.layOut.hex { eofRecord := true } = .ok text ∧
      (Text.lines text.toList)[9]? = some ":00000001ff".toList ∧
      HexFile.parse (Text.withLine text.toList 9 ":00000000ff".toList)
        = .error (.hex 10 fault) := by
  obtain ⟨text, htext, hrefused⟩ := hex_damaged allocate_mixedTable { eofRecord := true }
  have hline : (Text.lines text.toList)[9]? = some ":00000001ff".toList := by
    rw [hex_eq_ok allocate_mixedTable] at htext
    cases htext
    rw [Image.lines_hexText]
    show some HexRecord.endOfFile.line.toList = _
    rw [HexRecord.toList_line]
    decide
  have hdamaged : HexRecord.IsDamaged ":00000001ff".toList ":00000000ff".toList :=
    @HexRecord.IsDamaged.byte ['0', '0', '0', '0', '0', '0'] ['f', 'f'] '0' '1' '0' '0' rfl
      (by decide) (by decide)
      (by decide)
  obtain ⟨fault, hfault⟩ := hrefused 9 _ _ hline hdamaged
  exact ⟨allocate_mixedTable, text, fault, htext, hline, hfault⟩

end EepromImage
