/-
The shapes in which an image is delivered: C source, Intel HEX, and the bytes themselves.

The source is an array of frame structs in the linker section for EEPROM content.  Every
record has a comment with its address, its bytes and its meaning, one with its fields, and an
initializer.  A marker stands in front of the first record of the extended zone.  The source
is a list of lines; a name that holds a line feed is copied into its line as it is.  The Intel
HEX file has the upper half of the base address, one data record per frame, and an end-of-file
record on request.

* **Image.listing** — the source text;
* **Record.initializerLines** — the only lines that the C compiler reads of a record;
* **Image.hex** — the Intel HEX text;
* **Image.render** — the bytes of the artifact of a kind.
-/
import EepromImage.Image.Allocation
import EepromImage.IntelHex.File

namespace EepromImage

/-! ### Records of a listing -/

namespace Record

/-- The comment with the slot, in front of a record of the slot zone. -/
def slotLines (image : Image) (r : Record) : List String :=
  match r.zone, image.slotName? r.slot with
  | .slot, some name => ["\t// slot " ++ Numeral.decimal r.slot ++ " (" ++ name ++ ")"]
  | .slot, none => ["\t// slot " ++ Numeral.decimal r.slot]
  | .extended, _ => []

/-- The bytes of a frame by position, padding included. -/
def indexedBytes (size : Nat) (f : Frame) : List UInt8 :=
  (List.range size).map fun i => (f.byteAt i).toOption.getD 0

/-- The comment with the address, the bytes and the meaning. -/
def addressLine (image : Image) (r : Record) : String :=
  "\t//" ++ Numeral.marked 2 r.address ++ " ("
    ++ Numeral.padLeft 3 (Numeral.decimal r.address) ++ "):"
    ++ String.join ((indexedBytes image.layout.size r.frame).map fun b =>
      " " ++ Numeral.markedByte b)
    ++ " : " ++ r.frame.describe

/-- A flag as a digit. -/
def flagDigit (on : Bool) : String :=
  if on then "1" else "0"

/-- A transaction, or that there is none. -/
def transactionText : Option UInt8 → String
  | some t => Numeral.markedByte t
  | none => "unset"

/-- The comment with the fields. -/
def fieldLine (r : Record) : String :=
  let f := r.frame
  "\t//  dest=" ++ Numeral.markedByte f.dest ++ " orig=" ++ Numeral.markedByte f.orig
    ++ " t_id=" ++ transactionText f.transaction ++ " cmde=" ++ Numeral.markedByte f.command
    ++ " status=" ++ Numeral.markedByte f.status.bits
    ++ " (err=" ++ flagDigit f.status.isError ++ " resp=" ++ flagDigit f.status.isResponse
    ++ " eeprom=" ++ flagDigit f.status.readsEeprom
    ++ " len=" ++ Numeral.decimal f.status.length.toNat
    ++ ") argv=[" ++ Numeral.spacedHex f.args.bytes ++ "]"

/-- The names of the struct members in front of the argument array. -/
def memberNames : List String :=
  ["dest", "orig", "t_id", "cmde", "status"]

/-- The initializer of a member. -/
def member (name : String) (b : UInt8) : String :=
  "." ++ name ++ " = " ++ Numeral.markedByte b ++ ", "

/-- The initializer of the struct: members, then the argument array with a comma behind each
byte. -/
def initializerLine (bytes : List UInt8) : String :=
  "\t\x7b " ++ String.join (List.zipWith member memberNames bytes) ++ ".argv = \x7b"
    ++ String.join ((bytes.drop headerSize).map fun b => Numeral.markedByte b ++ ", ")
    ++ "\x7d"

/-- What the compiler reads of a record. -/
def initializerLines (bytes : List UInt8) : List String :=
  [initializerLine bytes, "\t\x7d,"]

/-- What is printed for a record, its slot aside. -/
def bodyLines (image : Image) (r : Record) : List String :=
  [r.addressLine image, r.fieldLine] ++ initializerLines r.bytes

end Record

/-! ### Listings -/

namespace Image

/-- Include line and the head of the array. -/
def arrayHead (options : ListingOptions) : List String :=
  ["#include \"" ++ options.header ++ "\"",
    "",
    "const struct " ++ options.structName ++ " " ++ options.arrayName
      ++ "[] __attribute__ ((section (\"" ++ options.sectionName ++ "\")))= \x7b"]

/-- The comment with the name of the image. -/
def nameLine (image : Image) : String :=
  "//-> " ++ image.name ++ " :"

/-- The comment in front of the extended zone. -/
def zoneMarker : String :=
  "\t//-- start of extended zone --"

/-- What is printed in front of the record with this index, if the extended zone starts
there. -/
def zoneLines (image : Image) (index : Nat) : List String :=
  if index = image.slotCount then ["", zoneMarker] else []

/-- What is printed for the record with this index. -/
def entryLines (image : Image) (index : Nat) (r : Record) : List String :=
  image.zoneLines index ++ r.slotLines image ++ r.bodyLines image

/-- What is printed for the image, line by line. -/
def listingLines (image : Image) (options : ListingOptions) : List String :=
  arrayHead options ++ [image.nameLine] ++ (image.records.mapIdx image.entryLines).flatten
    ++ ["\x7d;"]

/-- The image as C source. -/
def listing (image : Image) (options : ListingOptions) : String :=
  String.join ((image.listingLines options).map fun line => line ++ "\n")

end Image

/-! ### Intel HEX -/

/-- The data record of an image record, whose address has to fit 16 bits. -/
def Record.hexRecord (r : Record) : Except ImageError HexRecord :=
  if r.address < 65536 then .ok (HexRecord.ofData (UInt16.ofNat r.address) r.bytes)
  else .error (.internal (.addressTooLarge r.address))

namespace Image

/-- The records of the image's Intel HEX file, in order. -/
def hexRecords (image : Image) (options : HexOptions) :
    Except ImageError (List HexRecord) := do
  let records ← image.records.mapM Record.hexRecord
  return HexRecord.extendedAddress options.extendedAddress :: records
    ++ (if options.eofRecord then [HexRecord.endOfFile] else [])

/-- Lines, each with a line feed. -/
def hexText (records : List HexRecord) : String :=
  String.join (records.map fun r => r.line ++ "\n")

/-- The image as an Intel HEX file. -/
def hex (image : Image) (options : HexOptions) : Except ImageError String := do
  return hexText (← image.hexRecords options)

end Image

/-! ### Artifacts -/

/-- The kinds of artifacts. -/
inductive ArtifactKind
  /-- C source that initializes the EEPROM section. -/
  | listing
  /-- Intel HEX for an EEPROM programmer. -/
  | hex
  /-- The bytes of the EEPROM. -/
  | binary
deriving DecidableEq, Repr

def ArtifactKind.name : ArtifactKind → String
  | .listing => "listing"
  | .hex => "hex"
  | .binary => "bin"

/-- The bytes of a text in UTF-8. -/
def utf8Bytes (text : String) : List UInt8 :=
  text.toByteArray.data.toList

/-- The text that bytes spell in UTF-8, if they do. -/
def utf8Text? (bytes : List UInt8) : Option String :=
  String.fromUTF8? ⟨bytes.toArray⟩

/-- The bytes of the artifact. -/
def Image.render (image : Image) (kind : ArtifactKind) (listing : ListingOptions)
    (hex : HexOptions) : Except ImageError (List UInt8) :=
  match kind with
  | .listing => .ok (utf8Bytes (image.listing listing))
  | .hex => (image.hex hex).map utf8Bytes
  | .binary => .ok image.bytes

end EepromImage
