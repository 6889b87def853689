/-
Intel HEX: records, the reader of files, and the memory that a file describes.

A record is a line `:LLAAAATTDD..DDCC`: the number of data bytes, a 16-bit address with the
high byte first, the record type, the data, and a checksum that makes the sum of all bytes a
multiple of 256.

* **checksum** — the byte that brings a sum to zero;
* **HexRecord.line** — the line of a record; the count is one byte, so it wraps for data past
  255 bytes;
* **HexRecord.ofLine** — the record of a trimmed line, or the first thing that is wrong with
  it;
* **HexFile.ofLines** — the data and address records up to the end of the file, or the first
  faulty line; records of other types are left out;
* **HexFile.skippedIn** — the lines left out;
* **HexFile.extendedAddress?** — the upper half of the addresses, from the first record that
  has one;
* **HexFile.bytes** — the data in the order of their 16-bit addresses, which have to follow
  one another from 0 on; upper halves do not take part;
* **HexFile.linearData** — every data record with its full address.
-/
import EepromImage.Image.Error

namespace EepromImage

/-! ### Records -/

/-- The byte that makes the sum of the bytes a multiple of 256. -/
def checksum (bytes : List UInt8) : UInt8 :=
  0 - bytes.foldl (· + ·) 0

/-- An Intel HEX record. -/
structure HexRecord where
  /-- Record type. -/
  kind : UInt8
  address : UInt16
  data : List UInt8
deriving DecidableEq, Repr

namespace HexRecord

/-- Type of data records. -/
def dataKind : UInt8 := 0x00

/-- Type of the record that ends a file. -/
def endOfFileKind : UInt8 := 0x01

/-- Type of the record with the upper half of the addresses that follow. -/
def extendedAddressKind : UInt8 := 0x04

/-- Data at an address. -/
def ofData (address : UInt16) (data : List UInt8) : HexRecord :=
  ⟨dataKind, address, data⟩

/-- The upper half of the addresses that follow. -/
def extendedAddress (upper : UInt16) : HexRecord :=
  ⟨extendedAddressKind, 0, Word.bytes upper⟩

/-- The end of a file. -/
def endOfFile : HexRecord :=
  ⟨endOfFileKind, 0, []⟩

def isData (r : HexRecord) : Bool :=
  r.kind = dataKind

/-- The upper half of an address that the record carries, if it carries one. -/
def upper? (r : HexRecord) : Option UInt16 :=
  if r.kind = extendedAddressKind then
    match r.data with
    | [high, low] => some (Word.ofBytes high low)
    | _ => none
  else none

/-- The bytes that the checksum covers: count, address, type and data. -/
def body (r : HexRecord) : List UInt8 :=
  UInt8.ofNat r.data.length :: Word.bytes r.address ++ r.kind :: r.data

/-- All bytes of the record. -/
def bytes (r : HexRecord) : List UInt8 :=
  r.body ++ [checksum r.body]

/-- The line of the record, without a line feed. -/
def line (r : HexRecord) : String :=
  ":" ++ Numeral.hexBytes r.bytes

end HexRecord

/-! ### Lines -/

/-- The byte that two characters spell, read as a number: a plus sign may take the place of a
leading zero. -/
def readPair? (high low : Char) : Option UInt8 :=
  (Numeral.readUnsigned? 16 [high, low]).map UInt8.ofNat

/-- The bytes that pairs of characters spell. -/
def readPairs? : List Char → Option (List UInt8)
  | [] => some []
  | [_] => none
  | high :: low :: rest =>
    match readPair? high low, readPairs? rest with
    | some b, some bytes => some (b :: bytes)
    | _, _ => none

/-- Whether the text behind the colon has the shape of a record: ASCII, and pairs for at least
count, address, type and checksum. -/
def wellShaped (digits : List Char) : Bool :=
  digits.all (fun c => c.toNat < 128) && digits.length % 2 = 0 && 10 ≤ digits.length

namespace HexRecord

/-- The record with these bytes, checksum included. -/
def ofBytes (bytes : List UInt8) : Except HexFault HexRecord :=
  match bytes with
  | count :: high :: low :: kind :: rest =>
    let data := rest.dropLast
    if rest.length ≠ count.toNat + 1 then .error (.count count.toNat (rest.length - 1))
    else
      let expected := checksum (count :: high :: low :: kind :: data)
      match rest.getLast? with
      | some found =>
        if found ≠ expected then .error (.checksum found expected)
        else .ok ⟨kind, Word.ofBytes high low, data⟩
      | none => .error (.count count.toNat 0)
  | _ => .error (.count 0 0)

/-- The record of a trimmed line. -/
def ofLine (line : List Char) : Except HexFault HexRecord :=
  match line with
  | ':' :: digits =>
    if !wellShaped digits then .error (.malformed (String.ofList line))
    else
      match readPairs? digits with
      | none => .error .invalidDigit
      | some bytes => ofBytes bytes
  | _ => .error .missingStartCode

/-- Whether a file keeps records of this type. -/
def isKept (r : HexRecord) : Bool :=
  r.kind = dataKind || r.kind = extendedAddressKind

/-- Whether the record ends its file. -/
def isEnd (r : HexRecord) : Bool :=
  r.kind = endOfFileKind

end HexRecord

/-! ### Files -/

/-- The data and address records of an Intel HEX file, in order. -/
structure HexFile where
  records : List HexRecord
deriving DecidableEq, Repr

/-- A line whose record type means nothing to the reader. -/
structure SkippedLine where
  number : Nat
  kind : UInt8
deriving DecidableEq, Repr

namespace HexFile

/-- The kept records of lines, up to the one that ends the file. -/
def recordsOfLines : List Text.Line → Except ImageError (List HexRecord)
  | [] => .ok []
  | line :: rest =>
    match HexRecord.ofLine line.content with
    | .error fault => .error (.hex line.number fault)
    | .ok r =>
      if r.isEnd then .ok []
      else if r.isKept then
        match recordsOfLines rest with
        | .ok records => .ok (r :: records)
        | .error e => .error e
      else recordsOfLines rest

/-- The lines left out, up to the end of the file or the first fault. -/
def skippedLines : List Text.Line → List SkippedLine
  | [] => []
  | line :: rest =>
    match HexRecord.ofLine line.content with
    | .error _ => []
    | .ok r =>
      if r.isEnd then []
      else if r.isKept then skippedLines rest
      else ⟨line.number, r.kind⟩ :: skippedLines rest

/-- The file with these lines. -/
def ofLines (lines : List Text.Line) : Except ImageError HexFile :=
  match recordsOfLines lines with
  | .ok records => .ok ⟨records⟩
  | .error e => .error e

/-- The file that a text spells. -/
def parse (text : List Char) : Except ImageError HexFile :=
  ofLines (Text.numberedLines text)

/-- The lines of a text that `parse` leaves out. -/
def skippedIn (text : List Char) : List SkippedLine :=
  skippedLines (Text.numberedLines text)

/-! ### Memory -/

/-- The upper half that the first extended address record carries. -/
def extendedAddress? (file : HexFile) : Option UInt16 :=
  file.records.findSome? HexRecord.upper?

/-- The data records. -/
def dataRecords (file : HexFile) : List HexRecord :=
  file.records.filter HexRecord.isData

/-- The data records by address; those with one address keep their order. -/
def sortedData (file : HexFile) : List HexRecord :=
  file.dataRecords.mergeSort fun r s => r.address ≤ s.address

/-- The data of records that follow one another from address `start` on. -/
def join (start : Nat) : List HexRecord → Except ImageError (List UInt8)
  | [] => .ok []
  | r :: rest =>
    if r.address.toNat ≠ start then .error (.hex 0 (.gap r.address.toNat start))
    else
      match join (start + r.data.length) rest with
      | .ok bytes => .ok (r.data ++ bytes)
      | .error e => .error e

/-- The block of memory that the data fill. -/
def bytes (file : HexFile) : Except ImageError (List UInt8) :=
  join 0 file.sortedData

/-- The data records with their full addresses, `upper` being the upper half in force. -/
def linearDataFrom (upper : UInt16) : List HexRecord → List (Nat × HexRecord)
  | [] => []
  | r :: rest =>
    if r.isData then (upper.toNat * 65536 + r.address.toNat, r) :: linearDataFrom upper rest
    else linearDataFrom (r.upper?.getD upper) rest

/-- The data records with their full addresses. -/
def linearData (file : HexFile) : List (Nat × HexRecord) :=
  linearDataFrom 0 file.records

end HexFile

end EepromImage
