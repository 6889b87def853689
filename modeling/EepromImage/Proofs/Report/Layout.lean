/-
The report on a layout, read back from its JSON form.

* `ofBytes?_unlines` — a JSON value that is printed on a line of its own is read back;
* `readSpaced?_spacedHex` — bytes in spaced hexadecimal are read back;
* `reportedBytes?_layoutJson` — the bytes of the records are those of the image;
* `ofBytes?_layout` — what is printed reads as the report.
-/
import EepromImage.Proofs.Report.Json
import EepromImage.Report.Content

namespace EepromImage.Report

/-! ### Printed values -/

namespace Json

/-- The value on a line of its own that bytes spell. -/
def ofBytes? (depth : Nat) (bytes : List UInt8) : Option Json :=
  (utf8Text? bytes).bind fun text =>
    match scan depth text.toList with
    | some (value, ['\n']) => some value
    | _ => none

theorem utf8Text?_utf8Bytes (text : String) : utf8Text? (utf8Bytes text) = some text :=
  dif_pos text.isValidUTF8

theorem ofBytes?_unlines {depth : Nat} {value : Json} (hdepth : value.levels ≤ depth) :
    ofBytes? depth (utf8Bytes (unlines [value.render])) = some value := by
  have htext : (unlines [value.render]).toList = value.render.toList ++ ['\n'] := by
    simp [unlines]
  rw [ofBytes?, utf8Text?_utf8Bytes, Option.bind_some, htext,
    scan_append depth value hdepth ['\n'] rfl]
  rfl

/-- The member of an object with this name. -/
def member? (name : String) : Json → Option Json
  | .object members => members.lookup name
  | _ => none

def items? : Json → Option (List Json)
  | .array items => some items
  | _ => none

def text? : Json → Option String
  | .text content => some content
  | _ => none

end Json

/-! ### Reading -/

/-- The bytes that pairs of digits with blanks between them spell. -/
def readSpaced? (text : String) : Option (List UInt8) :=
  readPairs? (text.toList.filter (· ≠ ' '))

/-- The bytes of a record in a report on a layout. -/
def recordBytes? (record : Json) : Option (List UInt8) := do
  readSpaced? (← (← record.member? "bytes").text?)

/-- The bytes of the records in a report on a layout, one record behind the other. -/
def reportedBytes? (report : Json) : Option (List UInt8) := do
  let records ← (← report.member? "records").items?
  let parts ← records.mapM recordBytes?
  return parts.flatten

/-- The size of the image in a report on a layout. -/
def reportedSize? (report : Json) : Option Nat := do
  match ← report.member? "image_bytes" with
  | .number n => some n
  | _ => none

/-! ### Reading back -/

theorem filter_spacedHex (bytes : List UInt8) :
    (Numeral.spacedHex bytes).toList.filter (· ≠ ' ') = bytes.flatMap Numeral.byteDigits := by
  have hdigits : ∀ b, (Numeral.byteDigits b).filter (· ≠ ' ') = Numeral.byteDigits b := by
    intro b
    refine List.filter_eq_self.mpr fun c hc => ?_
    have hmem : c ∈ [b].flatMap Numeral.byteDigits := by simpa using hc
    have hdigit := isHexDigit_of_mem_byteDigits hmem
    have hne : c ≠ ' ' := by
      rintro rfl
      exact absurd hdigit (by decide)
    simpa using hne
  rw [Numeral.spacedHex, String.toList_intercalate]
  induction bytes with
  | nil => rfl
  | cons b rest ih =>
    cases rest with
    | nil => simpa [Numeral.hexByte] using hdigits b
    | cons b' rest =>
      rw [List.map_cons, List.map_cons, List.map_cons, List.map_cons,
        List.intercalate_cons_cons, List.filter_append, List.filter_append, ← List.map_cons,
        ← List.map_cons, ih, Numeral.hexByte, String.toList_ofList, hdigits]
      rfl

theorem readSpaced?_spacedHex (bytes : List UInt8) :
    readSpaced? (Numeral.spacedHex bytes) = some bytes := by
  rw [readSpaced?, filter_spacedHex]
  exact readPairs?_eq_some_iff.mpr (spells_byteDigits bytes)

theorem recordBytes?_recordJson (r : Record) : recordBytes? (recordJson r) = some r.bytes :=
  readSpaced?_spacedHex r.bytes

theorem mapM_recordBytes? (records : List Record) :
    (records.map recordJson).mapM recordBytes? = some (records.map Record.bytes) := by
  induction records with
  | nil => rfl
  | cons r rest ih =>
    rw [List.map_cons, List.mapM_cons, recordBytes?_recordJson, ih]
    rfl

theorem reportedBytes?_layoutJson (image : Image) :
    reportedBytes? (layoutJson image) = some image.bytes := by
  show ((image.records.map recordJson).mapM recordBytes? >>= fun parts => pure parts.flatten)
      = _
  rw [mapM_recordBytes?]
  rfl

theorem reportedSize?_layoutJson (image : Image) :
    reportedSize? (layoutJson image) = some image.byteLength := rfl

theorem levels_layoutJson (image : Image) : (layoutJson image).levels ≤ 4 := by
  have hitems : ∀ records : List Record, Json.levelsOfItems (records.map recordJson) ≤ 2 := by
    intro records
    induction records with
    | nil => exact Nat.zero_le 2
    | cons r rest ih => exact Nat.max_le.mpr ⟨Nat.le_refl 2, ih⟩
  have hrecords := hitems image.records
  simp only [layoutJson, Json.levels, Json.levelsOfMembers]
  omega

theorem ofBytes?_layout (image : Image) :
    Json.ofBytes? 4 (utf8Bytes (layout image .json)) = some (layoutJson image) :=
  Json.ofBytes?_unlines (levels_layoutJson image)

end EepromImage.Report
