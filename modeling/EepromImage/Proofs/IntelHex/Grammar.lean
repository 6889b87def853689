/-
The lines that are read as Intel HEX records.

The format has a colon and pairs of hexadecimal digits.  The reader takes a plus sign and a
digit for a pair too:

* `ofBytes_eq_ok_iff` — the bytes of a record: the first one counts the data, and the sum is a
  multiple of 256;
* `ofLine_eq_ok_iff` — a line is read exactly if it spells the bytes of a record;
* `isSpelledLine_iff_of_not_mem` — without a plus sign, these are the lines of the format;
* `recordsOfLines_fault`, `recordsOfLines_end`, `recordsOfLines_next` — a line is refused,
  ends the file, or leaves the others to be read;
* `parse_line_iff` — the same for a text of one line, and what of it is kept.
-/
import Mathlib.Algebra.GroupWithZero.Nat
import Mathlib.Tactic.SplitIfs
import EepromImage.Proofs.Text.Lines
import EepromImage.Proofs.Text.Pairs

namespace EepromImage

/-! ### Bytes of a record -/

theorem toNat_foldl_add (bytes : List UInt8) (acc : UInt8) :
    (bytes.foldl (· + ·) acc).toNat = (acc.toNat + (bytes.map UInt8.toNat).sum) % 256 := by
  induction bytes generalizing acc with
  | nil =>
    rw [List.foldl_nil, List.map_nil, List.sum_nil, Nat.add_zero]
    exact (Nat.mod_eq_of_lt acc.toNat_lt).symm
  | cons b rest ih =>
    rw [List.foldl_cons, ih, UInt8.toNat_add, List.map_cons, List.sum_cons]
    omega

/-- The checksum is the one byte that makes the sum a multiple of 256. -/
theorem eq_checksum_iff {body : List UInt8} {found : UInt8} :
    found = checksum body ↔ ((body ++ [found]).map UInt8.toNat).sum % 256 = 0 := by
  have hfound := found.toNat_lt
  rw [checksum, ← UInt8.toNat_inj, UInt8.toNat_sub, toNat_foldl_add, List.map_append,
    List.sum_append, List.map_singleton, List.sum_singleton]
  show found.toNat = (2 ^ 8 - (0 + (body.map UInt8.toNat).sum) % 256 + 0) % 2 ^ 8 ↔ _
  omega

/-- The first byte counts the data, which all but five bytes are, and the sum is a multiple of
256. -/
structure IsRecordBytes (bytes : List UInt8) : Prop where
  five_le : 5 ≤ bytes.length
  count_eq : (bytes.getD 0 0).toNat = bytes.length - 5
  sum_eq : (bytes.map UInt8.toNat).sum % 256 = 0

/-- The record that bytes stand for: the type in the fourth of them, the address in the two in
front of it, and the data behind it up to the last byte. -/
def HexRecord.fromBytes (bytes : List UInt8) : HexRecord :=
  ⟨bytes.getD 3 0, Word.ofBytes (bytes.getD 1 0) (bytes.getD 2 0), (bytes.drop 4).dropLast⟩

theorem exists_of_five_le {bytes : List UInt8} (h : 5 ≤ bytes.length) :
    ∃ count high low kind data found,
      bytes = count :: high :: low :: kind :: (data ++ [found]) := by
  rcases bytes with _ | ⟨count, _ | ⟨high, _ | ⟨low, _ | ⟨kind, rest⟩⟩⟩⟩
  all_goals simp only [List.length_cons, List.length_nil] at h
  · omega
  · omega
  · omega
  · omega
  · have hne : rest ≠ [] := List.ne_nil_of_length_pos (by omega)
    exact ⟨count, high, low, kind, rest.dropLast,
      rest.getLast hne, by rw [List.dropLast_append_getLast]⟩

namespace HexRecord

section Parts

variable {count high low kind found : UInt8} {data : List UInt8}

theorem ofBytes_concat :
    ofBytes (count :: high :: low :: kind :: (data ++ [found]))
      = if data.length ≠ count.toNat then .error (.count count.toNat data.length)
        else if found ≠ checksum (count :: high :: low :: kind :: data) then
          .error (.checksum found (checksum (count :: high :: low :: kind :: data)))
        else .ok ⟨kind, Word.ofBytes high low, data⟩ := by
  rw [ofBytes]
  simp only [List.dropLast_concat, List.getLast?_concat, List.length_append,
    List.length_singleton, Nat.add_right_cancel_iff, Nat.add_sub_cancel, ne_eq]

theorem fromBytes_concat :
    fromBytes (count :: high :: low :: kind :: (data ++ [found]))
      = ⟨kind, Word.ofBytes high low, data⟩ := by
  rw [fromBytes]
  show HexRecord.mk kind (Word.ofBytes high low) (data ++ [found]).dropLast = _
  rw [List.dropLast_concat]

theorem isRecordBytes_concat_iff :
    IsRecordBytes (count :: high :: low :: kind :: (data ++ [found])) ↔
      data.length = count.toNat ∧
        found = checksum (count :: high :: low :: kind :: data) := by
  have hlength : (count :: high :: low :: kind :: (data ++ [found])).length
      = data.length + 5 := by
    simp only [List.length_cons, List.length_append, List.length_nil]
  have hcount : (count :: high :: low :: kind :: (data ++ [found])).getD 0 0 = count := rfl
  rw [eq_checksum_iff]
  constructor
  · rintro ⟨-, hdata, hsum⟩
    rw [hcount, hlength] at hdata
    exact ⟨by omega, hsum⟩
  · rintro ⟨hdata, hsum⟩
    refine ⟨by omega, ?_, hsum⟩
    rw [hcount, hlength]
    omega

end Parts

/-- What is read as a record has at least the five bytes around the data. -/
theorem five_le_of_ofBytes_eq_ok {bytes : List UInt8} {r : HexRecord}
    (h : ofBytes bytes = .ok r) :
    5 ≤ bytes.length := by
  unfold ofBytes at h
  split at h
  · rename_i count high low kind rest
    simp only at h
    split_ifs at h with hcount
    rw [not_not] at hcount
    simp only [List.length_cons]
    omega
  · cases h

theorem ofBytes_eq_ok_iff {bytes : List UInt8} {r : HexRecord} :
    ofBytes bytes = .ok r ↔ IsRecordBytes bytes ∧ r = fromBytes bytes := by
  constructor
  · intro h
    obtain ⟨count, high, low, kind, data, found, rfl⟩ :=
      exists_of_five_le (five_le_of_ofBytes_eq_ok h)
    rw [ofBytes_concat] at h
    split_ifs at h with hcount hsum
    rw [isRecordBytes_concat_iff, fromBytes_concat]
    exact ⟨⟨not_not.mp hcount, not_not.mp hsum⟩, (Except.ok.inj h).symm⟩
  · rintro ⟨hbytes, rfl⟩
    obtain ⟨count, high, low, kind, data, found, rfl⟩ := exists_of_five_le hbytes.five_le
    obtain ⟨hcount, hsum⟩ := isRecordBytes_concat_iff.mp hbytes
    rw [ofBytes_concat, if_neg (not_not.mpr hcount), if_neg (not_not.mpr hsum),
      fromBytes_concat]

/-! ### Lines -/

/-- The line is read as these bytes. -/
def IsSpelledLine (line : List Char) (bytes : List UInt8) : Prop :=
  ∃ digits, line = ':' :: digits ∧ Spells digits bytes ∧ IsRecordBytes bytes

/-- The line of the format with these digits: a colon, and behind it the bytes of a record as
pairs of digits. -/
structure IsDigitLine (line digits : List Char) : Prop where
  line_eq : line = ':' :: digits
  even : digits.length % 2 = 0
  ten_le : 10 ≤ digits.length
  isHexDigit : ∀ c ∈ digits, IsHexDigit c
  isRecordBytes : IsRecordBytes (pairBytes digits)

theorem wellShaped_of_spells {digits : List Char} {bytes : List UInt8}
    (h : Spells digits bytes) (hfive : 5 ≤ bytes.length) : wellShaped digits = true := by
  have hlength := h.length_eq
  have hascii : digits.all (fun c => c.toNat < 128) = true :=
    List.all_eq_true.mpr fun c hc => decide_eq_true (h.ascii c hc)
  have heven : digits.length % 2 = 0 := by omega
  have hten : 10 ≤ digits.length := by omega
  rw [wellShaped, hascii, decide_eq_true heven, decide_eq_true hten]
  rfl

/-- Exactly the spelled lines are read, each as the record of its bytes. -/
theorem ofLine_eq_ok_iff {line : List Char} {r : HexRecord} :
    ofLine line = .ok r ↔ ∃ bytes, IsSpelledLine line bytes ∧ r = fromBytes bytes := by
  constructor
  · intro h
    unfold ofLine at h
    split at h
    · rename_i digits
      split_ifs at h
      split at h
      · cases h
      · rename_i bytes hbytes
        obtain ⟨hrecord, rfl⟩ := ofBytes_eq_ok_iff.mp h
        exact ⟨bytes, ⟨digits, rfl, readPairs?_eq_some_iff.mp hbytes, hrecord⟩, rfl⟩
    · cases h
  · rintro ⟨bytes, ⟨digits, rfl, hspells, hrecord⟩, rfl⟩
    rw [ofLine, wellShaped_of_spells hspells hrecord.five_le,
      readPairs?_eq_some_iff.mpr hspells]
    exact ofBytes_eq_ok_iff.mpr ⟨hrecord, rfl⟩

/-- Without a plus sign, the spelled lines are the lines of the format. -/
theorem isSpelledLine_iff_of_not_mem {line : List Char} {bytes : List UInt8}
    (hplus : '+' ∉ line) :
    IsSpelledLine line bytes ↔ ∃ digits, IsDigitLine line digits ∧
      bytes = pairBytes digits := by
  constructor
  · rintro ⟨digits, rfl, hspells, hrecord⟩
    obtain ⟨hdigits, rfl⟩ :=
      hspells.eq_pairBytes fun hc => hplus (List.mem_cons_of_mem ':' hc)
    have hlength := hspells.length_eq
    have hfive := hrecord.five_le
    exact ⟨digits, ⟨rfl, by omega, by omega, hdigits, hrecord⟩, rfl⟩
  · rintro ⟨digits, h, rfl⟩
    exact ⟨digits, h.line_eq, spells_pairBytes h.even h.isHexDigit, h.isRecordBytes⟩

end HexRecord

namespace HexFile

/-! ### Line by line -/

section Steps

variable {number : Nat} {content : List Char} {rest : List Text.Line} {r : HexRecord}

/-- What a file keeps of a record that does not end it. -/
def keptOf (r : HexRecord) : List HexRecord :=
  if r.isKept then [r] else []

theorem recordsOfLines_fault {fault : HexFault}
    (h : HexRecord.ofLine content = .error fault) :
    recordsOfLines (⟨number, content⟩ :: rest) = .error (.hex number fault) := by
  rw [recordsOfLines, h]

theorem recordsOfLines_end (h : HexRecord.ofLine content = .ok r) (hend : r.isEnd = true) :
    recordsOfLines (⟨number, content⟩ :: rest) = .ok [] := by
  rw [recordsOfLines, h]
  exact if_pos hend

theorem recordsOfLines_next (h : HexRecord.ofLine content = .ok r) (hend : r.isEnd = false) :
    recordsOfLines (⟨number, content⟩ :: rest)
      = (recordsOfLines rest).map (keptOf r ++ ·) := by
  rw [recordsOfLines, h, keptOf]
  simp only [hend, Bool.false_eq_true, if_false]
  cases r.isKept <;> cases recordsOfLines rest <;> rfl

end Steps

/-! ### Texts of one line -/

/-- The file of a single record: records of other types than data and addresses are left
out. -/
def single (r : HexRecord) : HexFile :=
  ⟨if r.kind = HexRecord.dataKind ∨ r.kind = HexRecord.extendedAddressKind then [r] else []⟩

theorem single_records (r : HexRecord) :
    (single r).records = if r.isEnd then [] else keptOf r := by
  have hkept : r.isKept = true ↔ r.kind = HexRecord.dataKind ∨
      r.kind = HexRecord.extendedAddressKind := by
    rw [HexRecord.isKept, Bool.or_eq_true, decide_eq_true_iff, decide_eq_true_iff]
  rw [single, keptOf]
  by_cases hend : r.isEnd = true
  · have hkind : r.kind = HexRecord.endOfFileKind := of_decide_eq_true hend
    rw [if_pos hend, hkind]
    rfl
  · rw [if_neg hend]
    simp only [hkept]

/-- One line is kept, left out, or refused with its number. -/
theorem recordsOfLines_single {number : Nat} {content : List Char} :
    recordsOfLines [⟨number, content⟩]
      = match HexRecord.ofLine content with
        | .ok r => .ok (single r).records
        | .error fault => .error (.hex number fault) := by
  cases h : HexRecord.ofLine content with
  | error fault => exact recordsOfLines_fault h
  | ok r =>
    show _ = Except.ok (single r).records
    rw [single_records]
    cases hend : r.isEnd with
    | true => exact recordsOfLines_end h hend
    | false =>
      rw [recordsOfLines_next h hend]
      exact congrArg Except.ok (List.append_nil _)

theorem parse_line_eq_ok_iff {line : List Char} (hline : '\n' ∉ line)
    (hblank : Text.trim line ≠ []) {file : HexFile} :
    parse line = .ok file ↔ ∃ r, HexRecord.ofLine (Text.trim line) = .ok r ∧
      file = single r := by
  rw [parse, Text.numberedLines_single hline hblank, ofLines, recordsOfLines_single]
  cases HexRecord.ofLine (Text.trim line) with
  | error fault => exact ⟨nofun, nofun⟩
  | ok r =>
    constructor
    · intro h
      exact ⟨r, rfl, (Except.ok.inj h).symm⟩
    · rintro ⟨_, hr, rfl⟩
      cases hr
      rfl

/-- A text of one line is read exactly if the line, trimmed, is spelled as a record.  A line
without a plus sign is read exactly if it is one of the format.  If it is data or an address,
the record is kept. -/
theorem parse_line_iff {line : List Char} (hline : '\n' ∉ line) (hblank : Text.trim line ≠ [])
    (file : HexFile) :
    (parse line = .ok file ↔
      ∃ bytes, HexRecord.IsSpelledLine (Text.trim line) bytes ∧
        file = single (HexRecord.fromBytes bytes)) ∧
    ('+' ∉ Text.trim line → (parse line = .ok file ↔
      ∃ digits, HexRecord.IsDigitLine (Text.trim line) digits ∧
        file = single (HexRecord.fromBytes (pairBytes digits)))) := by
  have hspelled : parse line = .ok file ↔
      ∃ bytes, HexRecord.IsSpelledLine (Text.trim line) bytes ∧
        file = single (HexRecord.fromBytes bytes) := by
    rw [parse_line_eq_ok_iff hline hblank]
    constructor
    · rintro ⟨r, hr, rfl⟩
      obtain ⟨bytes, hbytes, rfl⟩ := HexRecord.ofLine_eq_ok_iff.mp hr
      exact ⟨bytes, hbytes, rfl⟩
    · rintro ⟨bytes, hbytes, rfl⟩
      exact ⟨_, HexRecord.ofLine_eq_ok_iff.mpr ⟨bytes, hbytes, rfl⟩, rfl⟩
  refine ⟨hspelled, fun hplus => ?_⟩
  rw [hspelled]
  constructor
  · rintro ⟨bytes, hbytes, rfl⟩
    obtain ⟨digits, hdigits, rfl⟩ := (HexRecord.isSpelledLine_iff_of_not_mem hplus).mp hbytes
    exact ⟨digits, hdigits, rfl⟩
  · rintro ⟨digits, hdigits, rfl⟩
    exact ⟨_, (HexRecord.isSpelledLine_iff_of_not_mem hplus).mpr ⟨digits, hdigits, rfl⟩, rfl⟩

/-- The upper half of an address, in digits of both cases and with blanks around them. -/
theorem parse_line_extendedAddress :
    '\n' ∉ " :0200000400aB4f\r".toList ∧ Text.trim " :0200000400aB4f\r".toList ≠ [] ∧
    '+' ∉ Text.trim " :0200000400aB4f\r".toList ∧
    parse " :0200000400aB4f\r".toList = .ok ⟨[HexRecord.extendedAddress 0xab]⟩ := by
  have hline : '\n' ∉ " :0200000400aB4f\r".toList := by decide
  have hblank : Text.trim " :0200000400aB4f\r".toList ≠ [] := by decide
  have hplus : '+' ∉ Text.trim " :0200000400aB4f\r".toList := by decide
  have hall : "0200000400aB4f".toList.all (fun c => decide (IsHexDigit c)) = true := by decide
  have hdigits : HexRecord.IsDigitLine (Text.trim " :0200000400aB4f\r".toList)
      "0200000400aB4f".toList :=
    ⟨by decide, by decide, by decide,
      fun c hc => of_decide_eq_true (List.all_eq_true.mp hall c hc),
      ⟨by decide, by decide, by decide⟩⟩
  have hrecord : HexRecord.fromBytes (pairBytes "0200000400aB4f".toList)
      = HexRecord.extendedAddress 0xab := by decide
  refine ⟨hline, hblank, hplus,
    ((parse_line_iff hline hblank _).2 hplus).mpr ⟨_, hdigits, ?_⟩⟩
  rw [hrecord]
  rfl

/-- A plus sign in front of the digit of an empty count is read, but is no digit of the
format. -/
theorem parse_plus_sign :
    parse ":+000000000".toList = .ok ⟨[HexRecord.ofData 0 []]⟩ ∧
    ¬ ∃ digits, HexRecord.IsDigitLine (Text.trim ":+000000000".toList) digits := by
  refine ⟨by decide, ?_⟩
  rintro ⟨digits, hdigits⟩
  have hline : Text.trim ":+000000000".toList = ':' :: "+000000000".toList := by decide
  have heq := hdigits.line_eq
  rw [hline, List.cons.injEq] at heq
  obtain ⟨-, rfl⟩ := heq
  exact absurd (hdigits.isHexDigit '+' (by decide)) (by decide)

end HexFile
end EepromImage
