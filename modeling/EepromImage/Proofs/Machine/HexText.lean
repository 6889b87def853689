/-
Reading Intel HEX with the operations of a machine.

The guards are away from the uses: that digits are cut between characters rests on the test
for ASCII, that five bytes can be taken from a length on the test for ten digits.  Where a
function has the name of another one, it is equal to it.

* `readBytes_eq`, `readLine_eq` — a line traps nowhere;
* `parse_eq` — nor does a text, whatever it holds;
* `bytes_eq`, `extendedAddress?_eq` — nor do the data and the base address of a file;
* `dataLength_le_of_parse` — a file has no more data than its text has bytes.
-/
import EepromImage.IntelHex.File
import EepromImage.Proofs.IntelHex.Grammar
import EepromImage.Proofs.Machine.Checked
import EepromImage.Proofs.Text.Lines

namespace EepromImage.Machine

/-! ### Reading -/

/-- The bytes that the pairs of digits at the positions spell. -/
def readPairsAt (digits : List Char) : List Nat → Checked (Option (List UInt8))
  | [] => return some []
  | start :: rest => do
    let stop ← add start 2
    let pair ← sliceText digits start stop
    match (Numeral.readUnsigned? 16 pair).map UInt8.ofNat with
    | none => return none
    | some b => return (← readPairsAt digits rest).map (b :: ·)

/-- The record with these bytes. -/
def readBytes (bytes : List UInt8) : Checked (Except HexFault HexRecord) := do
  let count := (← item bytes 0).toNat
  if bytes.length ≠ (← add count 5) then
    return .error (.count count (← sub bytes.length 5))
  else
    let (body, sum) ← split bytes (← sub bytes.length 1)
    let found ← item sum 0
    let expected := checksum body
    if found ≠ expected then return .error (.checksum found expected)
    else
      let kind ← item body 3
      let high ← item body 1
      let low ← item body 2
      let data ← slice body 4 body.length
      return .ok ⟨kind, Word.ofBytes high low, data⟩

/-- The record of a trimmed line. -/
def readLine (line : List Char) : Checked (Except HexFault HexRecord) :=
  match line with
  | ':' :: digits =>
    let length := byteLength digits
    if !digits.all (fun c => c.toNat < 128) || length % 2 ≠ 0 || length < 10 then
      return .error (.malformed (String.ofList line))
    else do
      match ← readPairsAt digits (List.range' 0 ((length + 1) / 2) 2) with
      | none => return .error .invalidDigit
      | some bytes => readBytes bytes
  | _ => return .error .missingStartCode

/-- The kept records of lines, the first of which has the index. -/
def readLines : Nat → List (List Char) → Checked (Except ImageError (List HexRecord))
  | _, [] => return .ok []
  | index, raw :: rest => do
    let number ← add index 1
    let line := Text.trim raw
    if line.isEmpty then readLines number rest
    else
      match ← readLine line with
      | .error fault => return .error (.hex number fault)
      | .ok r =>
        if r.isEnd then return .ok []
        else if r.isKept then return (← readLines number rest).map (r :: ·)
        else readLines number rest

def parse (text : List Char) : Checked (Except ImageError HexFile) := do
  return (← readLines 0 (Text.lines text)).map HexFile.mk

/-- The data of records, behind a buffer with so many bytes. -/
def joinFrom (length : Nat) : List HexRecord → Checked (Except ImageError (List UInt8))
  | [] => return .ok []
  | r :: rest =>
    if r.address.toNat ≠ length then return .error (.hex 0 (.gap r.address.toNat length))
    else do
      let next ← grow length r.data.length
      return (← joinFrom next rest).map (r.data ++ ·)

def bytes (file : HexFile) : Checked (Except ImageError (List UInt8)) :=
  joinFrom 0 file.sortedData

def extendedAddress? (file : HexFile) : Checked (Option UInt16) := do
  match file.records.find? fun r => r.kind = HexRecord.extendedAddressKind
    && r.data.length = 2 with
  | none => return none
  | some r =>
    let high ← item r.data 0
    let low ← item r.data 1
    return some (Word.ofBytes high low)

/-! ### Lines -/

theorem readPairsAt_eq {digits : List Char} (hascii : IsAscii digits)
    (hword : digits.length < wordBound) (start n : Nat)
    (hlength : digits.length = start + 2 * n) :
    readPairsAt digits (List.range' start n 2) = .ok (readPairs? (digits.drop start)) := by
  -- a pair at a time, from the front
  induction n generalizing start with
  | zero =>
    rw [List.drop_of_length_le (by omega)]
    rfl
  | succ n ih =>
    have hadd : add start 2 = .ok (start + 2) := add_eq (by omega)
    have hslice :=
      sliceText_eq hascii (Nat.le_add_right start 2) (show start + 2 ≤ digits.length by omega)
    have hrest := ih (start + 2) (by omega)
    have htwo : start + 2 - start = 2 := by omega
    obtain ⟨high, low, rest, hdrop⟩ : ∃ high low rest, digits.drop start
        = high :: low :: rest := by
      have hlong : 2 ≤ (digits.drop start).length := by
        rw [List.length_drop]
        omega
      match hd : digits.drop start with
      | [] => simp [hd] at hlong
      | [_] => simp [hd] at hlong
      | high :: low :: rest => exact ⟨high, low, rest, rfl⟩
    have hbehind : digits.drop (start + 2) = rest := by
      rw [← List.drop_drop, hdrop]
      rfl
    rw [htwo, hdrop] at hslice
    rw [hbehind] at hrest
    rw [List.range'_succ, readPairsAt, hadd, ok_bind, hslice, ok_bind, hdrop,
      readPairs?_cons_cons, readPair?]
    show (match (Numeral.readUnsigned? 16 [high, low]).map UInt8.ofNat with
      | none => _
      | some b => _) = _
    cases (Numeral.readUnsigned? 16 [high, low]).map UInt8.ofNat with
    | none => rfl
    | some b =>
      simp only
      rw [hrest]
      rfl

theorem readBytes_eq {bytes : List UInt8} (hfive : 5 ≤ bytes.length) :
    readBytes bytes = .ok (HexRecord.ofBytes bytes) := by
  obtain ⟨count, high, low, kind, data, found, rfl⟩ := exists_of_five_le hfive
  have hlength : (count :: high :: low :: kind :: (data ++ [found])).length
      = data.length + 5 := by simp
  have hcount := count.toNat_lt
  have hadd : add count.toNat 5 = .ok (count.toNat + 5) :=
    add_eq (by simp only [wordBound]; omega)
  rw [HexRecord.ofBytes_concat, readBytes, hlength]
  show (add count.toNat 5 >>= _) = _
  rw [hadd, ok_bind]
  by_cases hdata : data.length = count.toNat
  · -- the body is everything but the last byte, and holds at least the four bytes in front of
    -- the data
    have hsub : sub (data.length + 5) 1 = .ok (data.length + 4) :=
      sub_eq (Nat.le_add_left 1 _)
    have hsplit : split (count :: high :: low :: kind :: (data ++ [found])) (data.length + 4)
        = .ok (count :: high :: low :: kind :: data, [found]) := by
      rw [split_eq (by rw [hlength]; omega)]
      simp
    have hslice : slice (count :: high :: low :: kind :: data) 4
        (count :: high :: low :: kind :: data).length = .ok data := slice_length_eq (by simp)
    rw [if_neg (by omega), if_neg (not_not.mpr hdata), hsub, ok_bind, hsplit, ok_bind]
    show (if found ≠ _ then _ else (slice _ 4 _ >>= _)) = _
    by_cases hfound : found = checksum (count :: high :: low :: kind :: data)
    · rw [if_neg (not_not.mpr hfound), if_neg (not_not.mpr hfound), hslice]
      rfl
    · rw [if_pos hfound, if_pos hfound]
      rfl
  · have hsub : sub (data.length + 5) 5 = .ok data.length := sub_eq (Nat.le_add_left 5 _)
    rw [if_pos (by omega), if_pos hdata, hsub]
    rfl

/-- The length in bytes is tested only where it is the number of digits. -/
theorem shape_test_eq (digits : List Char) :
    (!digits.all (fun c => c.toNat < 128) || byteLength digits % 2 ≠ 0
      || byteLength digits < 10)
      = !wellShaped digits := by
  unfold wellShaped
  by_cases hascii : digits.all (fun c => c.toNat < 128) = true
  · rw [byteLength_of_isAscii fun c hc => of_decide_eq_true (List.all_eq_true.mp hascii c hc),
      hascii]
    rw [Bool.eq_iff_iff]
    simp
  · rw [Bool.not_eq_true] at hascii
    rw [hascii]
    rfl

theorem isAscii_of_wellShaped {digits : List Char} (h : wellShaped digits = true) :
    IsAscii digits := by
  simp only [wellShaped, Bool.and_eq_true, List.all_eq_true, decide_eq_true_eq] at h
  exact h.1.1

theorem ofLine_of_ne {line : List Char} (h : ∀ digits, line ≠ ':' :: digits) :
    HexRecord.ofLine line = .error .missingStartCode := by
  unfold HexRecord.ofLine
  split
  · exact absurd rfl (h _)
  · rfl

theorem readLine_eq {line : List Char} (hword : byteLength line < wordBound) :
    readLine line = .ok (HexRecord.ofLine line) := by
  unfold readLine
  split
  · rename_i digits
    simp only [shape_test_eq]
    rw [HexRecord.ofLine]
    cases hshape : wellShaped digits with
    | false => rfl
    | true =>
      have hascii := isAscii_of_wellShaped hshape
      have hbytes := byteLength_of_isAscii hascii
      simp only [wellShaped, Bool.and_eq_true, decide_eq_true_eq] at hshape
      obtain ⟨⟨-, heven⟩, hten⟩ := hshape
      rw [byteLength_cons] at hword
      have hpairs := readPairsAt_eq hascii (by omega) 0 ((digits.length + 1) / 2) (by omega)
      rw [hbytes, hpairs, ok_bind, List.drop_zero]
      simp only [Bool.not_true, Bool.false_eq_true, if_false]
      cases hread : readPairs? digits with
      | none => rfl
      | some bytes =>
        have hlength := (readPairs?_eq_some_iff.mp hread).length_eq
        exact readBytes_eq (by omega)
  · rename_i hcolon
    rw [ofLine_of_ne hcolon]
    rfl

/-! ### Files -/

theorem byteLength_trim_le (text : List Char) :
    byteLength (Text.trim text) ≤ byteLength text := by
  have hleft : (Text.trimLeft text).Sublist text := (List.dropWhile_suffix _).sublist
  have hright : (Text.trimRight (Text.trimLeft text)).Sublist (Text.trimLeft text) := by
    rw [← List.reverse_sublist, Text.trimRight, List.reverse_reverse]
    exact (List.dropWhile_suffix _).sublist
  exact byteLength_le_of_sublist (hright.trans hleft)

theorem readLines_eq {pieces : List (List Char)} (index : Nat)
    (hindex : index + pieces.length < wordBound)
    (hword : ∀ piece ∈ pieces, byteLength piece < wordBound) :
    readLines index pieces = .ok
      (HexFile.recordsOfLines (Text.number (index + 1) pieces)) := by
  -- the number of a line is one more than its index, and a word because the index of the last
  -- line is one
  induction pieces generalizing index with
  | nil => rfl
  | cons piece rest ih =>
    rw [List.length_cons] at hindex
    have hadd : add index 1 = .ok (index + 1) := add_eq (by omega)
    have hline := readLine_eq
      (Nat.lt_of_le_of_lt (byteLength_trim_le piece) (hword piece List.mem_cons_self))
    have hrest :=
      ih (index + 1) (by omega) fun piece' h => hword piece' (List.mem_cons_of_mem piece h)
    rw [readLines, hadd, ok_bind, Text.number_cons]
    simp only
    cases (Text.trim piece).isEmpty with
    | true => exact hrest
    | false =>
      simp only [Bool.false_eq_true, if_false]
      rw [hline, ok_bind, HexFile.recordsOfLines]
      cases HexRecord.ofLine (Text.trim piece) with
      | error fault => rfl
      | ok r =>
        simp only
        cases r.isEnd with
        | true => rfl
        | false =>
          cases r.isKept with
          | false => exact hrest
          | true =>
            simp only [Bool.false_eq_true, if_false, if_true]
            rw [hrest]
            cases HexFile.recordsOfLines (Text.number (index + 1 + 1) rest) <;> rfl

/-- Neither the number of lines nor the length of one is past the length of the text. -/
theorem lines_le (text : List Char) :
    (Text.lines text).length ≤ byteLength text + 1 ∧
      ((Text.lines text).map byteLength).sum ≤ byteLength text := by
  have hpieces : ∀ pieces : List (List Char), pieces ≠ [] →
      pieces.length ≤ byteLength (['\n'].intercalate pieces) + 1 ∧
        (pieces.map byteLength).sum ≤ byteLength (['\n'].intercalate pieces) := by
    intro pieces hne
    induction pieces with
    | nil => exact absurd rfl hne
    | cons piece rest ih =>
      cases rest with
      | nil => simp
      | cons next rest =>
        obtain ⟨hcount, hsum⟩ := ih (List.cons_ne_nil _ _)
        have hnewline : byteLength ['\n'] = 1 := rfl
        rw [List.intercalate_cons_cons, byteLength_append, byteLength_append, hnewline]
        rw [List.length_cons, List.map_cons, List.sum_cons]
        omega
  have hne : Text.lines text ≠ [] := List.splitOn_ne_nil _ _
  have hjoin : ['\n'].intercalate (Text.lines text) = text := List.intercalate_splitOn '\n'
  have hall := hpieces (Text.lines text) hne
  rwa [hjoin] at hall

theorem byteLength_le_of_mem_lines {text piece : List Char} (h : piece ∈ Text.lines text) :
    byteLength piece ≤ byteLength text :=
  Nat.le_trans (List.single_le_sum (fun _ _ => Nat.zero_le _) _ (List.mem_map_of_mem h))
    (lines_le text).2

theorem parse_eq {text : List Char} (h : byteLength text ≤ maxObject) :
    parse text = .ok (HexFile.parse text) := by
  have hcount := (lines_le text).1
  have hread :=
    @readLines_eq (Text.lines text) 0 (by simp only [wordBound, maxObject] at *; omega) <| by
    intro piece hpiece
    have hpiece' := byteLength_le_of_mem_lines hpiece
    simp only [wordBound, maxObject] at *
    omega
  rw [parse, hread]
  unfold HexFile.parse HexFile.ofLines Text.numberedLines
  rw [Nat.zero_add]
  cases HexFile.recordsOfLines (Text.number 1 (Text.lines text)) <;> rfl

/-! ### Data -/

/-- The bytes of data in records. -/
def dataLength (records : List HexRecord) : Nat :=
  (records.map fun r => r.data.length).sum

theorem joinFrom_eq {records : List HexRecord} (length : Nat)
    (h : length + dataLength records ≤ maxObject) :
    joinFrom length records = .ok (HexFile.join length records) := by
  -- what the buffer holds and what is still to come are together all the data there are
  induction records generalizing length with
  | nil => rfl
  | cons r rest ih =>
    have hsum : dataLength (r :: rest) = r.data.length + dataLength rest := by
      rw [dataLength, List.map_cons, List.sum_cons]
      rfl
    rw [hsum] at h
    rw [joinFrom, HexFile.join]
    split
    · rfl
    · rw [grow_eq (by omega), ok_bind, ih (length + r.data.length) (by omega)]
      cases HexFile.join (length + r.data.length) rest <;> rfl

theorem dataLength_sortedData_le (file : HexFile) :
    dataLength file.sortedData ≤ dataLength file.records := by
  have hperm : dataLength file.sortedData = dataLength file.dataRecords :=
    ((List.mergeSort_perm file.dataRecords fun r s => r.address ≤ s.address).map
      fun r : HexRecord => r.data.length).sum_eq
  rw [hperm]
  exact (List.filter_sublist.map fun r : HexRecord => r.data.length).sum_le_sum fun _ _ =>
    Nat.zero_le _

theorem bytes_eq {file : HexFile} (h : dataLength file.records ≤ maxObject) :
    bytes file = .ok file.bytes :=
  joinFrom_eq 0 (by rw [Nat.zero_add]; exact Nat.le_trans (dataLength_sortedData_le file) h)

/-- A record carries an upper half exactly if it is of the type and has two bytes of data. -/
theorem upper?_eq (r : HexRecord) :
    (r.kind = HexRecord.extendedAddressKind ∧ ∃ high low, r.data = [high, low] ∧
      r.upper? = some (Word.ofBytes high low)) ∨
    (r.kind = HexRecord.extendedAddressKind && r.data.length = 2) = false ∧
      r.upper? = none := by
  unfold HexRecord.upper?
  by_cases hkind : r.kind = HexRecord.extendedAddressKind
  · rw [if_pos hkind]
    match hdata : r.data with
    | [] => exact .inr ⟨by simp, rfl⟩
    | [_] => exact .inr ⟨by simp, rfl⟩
    | [high, low] => exact .inl ⟨hkind, high, low, rfl, rfl⟩
    | _ :: _ :: _ :: _ => exact .inr ⟨by simp, rfl⟩
  · exact .inr ⟨by simp [hkind], if_neg hkind⟩

theorem extendedAddress?_eq (file : HexFile) :
    extendedAddress? file = .ok file.extendedAddress? := by
  unfold extendedAddress? HexFile.extendedAddress?
  -- the record is looked for by type and length, or by what it carries: both stop at the same
  -- one
  induction file.records with
  | nil => rfl
  | cons r rest ih =>
    rw [List.find?_cons, List.findSome?_cons]
    obtain ⟨hkind, high, low, hdata, hupper⟩ | ⟨hother, hupper⟩ := upper?_eq r
    · simp only [hkind, hdata, hupper, List.length_cons, List.length_nil, Nat.zero_add,
        decide_true, Bool.and_self]
      rfl
    · rw [hupper, hother]
      exact ih

/-! ### The data of a text -/

theorem length_data_le_of_ofLine {line : List Char} {r : HexRecord}
    (h : HexRecord.ofLine line = .ok r) :
    r.data.length ≤ byteLength line := by
  obtain ⟨bytes, ⟨digits, rfl, hspells, hrecord⟩, rfl⟩ := HexRecord.ofLine_eq_ok_iff.mp h
  have hlength := hspells.length_eq
  have hbytes := length_le_byteLength (':' :: digits)
  simp only [HexRecord.fromBytes, List.length_dropLast, List.length_drop,
    List.length_cons] at *
  omega

theorem dataLength_le_of_recordsOfLines {lines : List Text.Line} {records : List HexRecord}
    (h : HexFile.recordsOfLines lines = .ok records) :
    dataLength records ≤ (lines.map fun line => byteLength line.content).sum := by
  induction lines generalizing records with
  | nil =>
    cases h
    exact Nat.le_refl _
  | cons line rest ih =>
    rw [List.map_cons, List.sum_cons]
    cases hline : HexRecord.ofLine line.content with
    | error fault =>
      rw [HexFile.recordsOfLines_fault hline] at h
      cases h
    | ok r =>
      cases hend : r.isEnd with
      | true =>
        rw [HexFile.recordsOfLines_end hline hend] at h
        cases h
        exact Nat.zero_le _
      | false =>
        rw [HexFile.recordsOfLines_next hline hend, map_eq_ok_iff] at h
        obtain ⟨kept, hkept, rfl⟩ := h
        have hr := length_data_le_of_ofLine hline
        have hrest := ih hkept
        have hkeptOf : dataLength (HexFile.keptOf r) ≤ r.data.length := by
          rw [HexFile.keptOf]
          cases r.isKept with
          | true => exact Nat.le_refl _
          | false => exact Nat.zero_le _
        simp only [dataLength, List.map_append, List.sum_append] at hrest hkeptOf ⊢
        omega

theorem byteLength_number_le (first : Nat) (pieces : List (List Char)) :
    ((Text.number first pieces).map fun line => byteLength line.content).sum
      ≤ (pieces.map byteLength).sum := by
  induction pieces generalizing first with
  | nil => exact Nat.le_refl _
  | cons piece rest ih =>
    have hpiece := byteLength_trim_le piece
    have hrest := ih (first + 1)
    rw [Text.number_cons, List.map_cons, List.sum_cons]
    split
    · exact Nat.le_trans hrest (Nat.le_add_left _ _)
    · rw [List.map_cons, List.sum_cons]
      exact Nat.add_le_add hpiece hrest

theorem dataLength_le_of_parse {text : List Char} {file : HexFile}
    (h : HexFile.parse text = .ok file) :
    dataLength file.records ≤ byteLength text := by
  unfold HexFile.parse HexFile.ofLines at h
  cases hrecords : HexFile.recordsOfLines (Text.numberedLines text) with
  | error e =>
    rw [hrecords] at h
    cases h
  | ok records =>
    rw [hrecords] at h
    obtain rfl : HexFile.mk records = file := Except.ok.inj h
    calc dataLength records
      _ ≤ ((Text.numberedLines text).map fun line => byteLength line.content).sum :=
        dataLength_le_of_recordsOfLines hrecords
      _ ≤ ((Text.lines text).map byteLength).sum := byteLength_number_le 1 _
      _ ≤ byteLength text := (lines_le text).2

end EepromImage.Machine
