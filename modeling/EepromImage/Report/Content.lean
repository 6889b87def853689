/-
What the reports say.

* **layout** — every record of an image with its address, zone, slot and bytes;
* **summary** — an artifact that has been written to a file;
* **inspection** — an image that has been read back: every frame, and the verdict on the
  containers;
* **catalog** — the command catalog;
* **version** — the version of the program, with what this build supports on request.
-/
import EepromImage.Image.Artifact
import EepromImage.Image.Inspection
import EepromImage.Report.Format

namespace EepromImage

/-! ### Layouts -/

namespace Report

/-- A record of the report. -/
def recordJson (r : Record) : Json :=
  .object [
    ("address", .number r.address),
    ("zone", .text r.zone.name),
    ("slot", .number r.slot),
    ("bytes", .text (Numeral.spacedHex r.bytes)),
    ("description", .text r.frame.describe)]

def layoutJson (image : Image) : Json :=
  .object [
    ("schema_id", .text "scalpgen/cli/v1/layout-report"),
    ("name", .text image.name),
    ("slots_nb", .number image.slotCount),
    ("frame_size", .number image.layout.size),
    ("image_bytes", .number image.byteLength),
    ("records", .array (image.records.map recordJson))]

def layoutGrid (image : Image) : Grid where
  header := ["ADDRESS", "ZONE", "SLOT", "BYTES", "FRAME"]
  rows := image.records.map fun r =>
    [Numeral.marked 4 r.address, r.zone.name, Numeral.decimal r.slot,
      Numeral.spacedHex r.bytes, r.frame.describe]

/-- The size of the image in words. -/
def layoutSummary (image : Image) : String :=
  image.name ++ ": " ++ Numeral.decimal image.slotCount ++ " slots, "
    ++ Numeral.decimal image.length ++ " frames of " ++ Numeral.decimal image.layout.size
    ++ " bytes, " ++ Numeral.decimal image.byteLength ++ " bytes total"

def layoutPretty (image : Image) : List String :=
  ("Layout of " ++ image.name ++ ":")
    :: image.records.map (fun r =>
      "  " ++ Numeral.marked 4 r.address ++ " " ++ Numeral.padRight 8 r.zone.name ++ " slot "
        ++ Numeral.padRight 3 (Numeral.decimal r.slot) ++ " " ++ r.frame.describe)
    ++ ["  " ++ Numeral.decimal image.byteLength ++ " bytes"]

/-- The report on the layout of an image. -/
def layout (image : Image) : Format → String
  | .json => unlines [(layoutJson image).render]
  | .table => unlines ((layoutGrid image).lines ++ [layoutSummary image])
  | .pretty => unlines (layoutPretty image)
  | .raw =>
    unlines (image.records.map fun r =>
      Numeral.hex 4 r.address ++ " " ++ Numeral.spacedHex r.bytes)

/-! ### Artifacts -/

/-- An artifact in a file. -/
structure Delivery where
  image : Image
  kind : ArtifactKind
  /-- The file. -/
  path : String
  /-- Size of the artifact in bytes. -/
  size : Nat

def summaryJson (d : Delivery) : Json :=
  .object [
    ("schema_id", .text "scalpgen/cli/v1/compile-summary"),
    ("name", .text d.image.name),
    ("emit", .text d.kind.name),
    ("output", .text d.path),
    ("slots_nb", .number d.image.slotCount),
    ("frame_size", .number d.image.layout.size),
    ("frames", .number d.image.length),
    ("extended_frames", .number d.image.extended.length),
    ("image_bytes", .number d.image.byteLength),
    ("artifact_bytes", .number d.size)]

/-- The number of frames in words. -/
def frameCounts (image : Image) : String :=
  Numeral.decimal image.length ++ " ("
    ++ Numeral.decimal image.extended.length ++ " extended)"

def summaryGrid (d : Delivery) : Grid where
  header := ["IMAGE", "EMIT", "SLOTS", "F", "FRAMES", "BYTES", "OUTPUT"]
  rows :=
    [[d.image.name, d.kind.name, Numeral.decimal d.image.slotCount,
      Numeral.decimal d.image.layout.size, frameCounts d.image,
      Numeral.decimal d.image.byteLength, d.path]]

def summaryPretty (d : Delivery) : List String :=
  ["Compiled " ++ d.image.name ++ ":",
    "  Emit:        " ++ d.kind.name,
    "  Slots:       " ++ Numeral.decimal d.image.slotCount,
    "  Frame size:  " ++ Numeral.decimal d.image.layout.size,
    "  Frames:      " ++ frameCounts d.image,
    "  Image bytes: " ++ Numeral.decimal d.image.byteLength,
    "  Output:      " ++ d.path ++ " (" ++ Numeral.decimal d.size ++ " bytes)"]

/-- The report on an artifact in a file. -/
def summary (d : Delivery) : Format → String
  | .json => unlines [(summaryJson d).render]
  | .table => unlines (summaryGrid d).lines
  | .pretty => unlines (summaryPretty d)
  | .raw => unlines [d.path]

/-! ### Images that were read back -/

/-- An image that has been read back, with what the report takes from its file. -/
structure Examined where
  inspection : Inspection
  /-- The bytes of the image. -/
  bytes : List UInt8
  /-- The upper half of the base address, if the file has one. -/
  upper : Option UInt16

/-- The frames with their bytes. -/
def Examined.frames (e : Examined) : List (InspectedFrame × List UInt8) :=
  e.inspection.frames.zip (chunks e.inspection.layout.size e.bytes)

def relayJson (r : Relay) : Json :=
  .object [
    ("offset", .number r.offset.toNat),
    ("count", .byte r.count),
    ("storage", .byte r.storage),
    ("from_eeprom", .boolean r.fromEeprom)]

def inspectionJson (e : Examined) : Json :=
  .object [
    ("schema_id", .text "scalpgen/cli/v1/inspect-report"),
    ("frame_size", .number e.inspection.layout.size),
    ("slots_nb", .number e.inspection.slotCount),
    ("extended_address", .orNull (fun w => .number w.toNat) e.upper),
    ("frames", .array (e.frames.map fun (f, bytes) => .object [
      ("address", .number f.address),
      ("zone", .text f.zone.name),
      ("bytes", .text (Numeral.spacedHex bytes)),
      ("description", .text f.description),
      ("relay", .orNull relayJson f.relay)])),
    ("problems", .array (e.inspection.problems.map fun p => .text p.message)),
    ("consistent", .boolean e.inspection.isConsistent)]

def inspectionGrid (e : Examined) : Grid where
  header := ["ADDRESS", "ZONE", "BYTES", "FRAME"]
  rows := e.frames.map fun (f, bytes) =>
    [Numeral.marked 4 f.address, f.zone.name, Numeral.spacedHex bytes, f.description]

/-- The verdict on the containers. -/
def verdict (i : Inspection) : List String :=
  if i.isConsistent then ["all containers resolve inside the extended zone"]
  else i.problems.map fun p => "problem: " ++ p.message

def inspectionPretty (e : Examined) : List String :=
  (match e.upper with
    | some w => ["Base address: " ++ Numeral.marked 4 w.toNat ++ "0000"]
    | none => [])
  ++ ["Slots: " ++ Numeral.decimal e.inspection.slotCount
    ++ "  Frames: " ++ Numeral.decimal e.inspection.frames.length
    ++ "  Frame size: " ++ Numeral.decimal e.inspection.layout.size]
  ++ e.inspection.frames.map (fun f =>
    "  " ++ Numeral.marked 4 f.address ++ " " ++ Numeral.padRight 8 f.zone.name ++ " "
      ++ f.description)
  ++ verdict e.inspection

/-- The report on an image that has been read back. -/
def inspection (e : Examined) : Format → String
  | .json => unlines [(inspectionJson e).render]
  | .table => unlines ((inspectionGrid e).lines ++ verdict e.inspection)
  | .pretty => unlines (inspectionPretty e)
  | .raw =>
    unlines (e.frames.map fun (f, bytes) =>
      Numeral.hex 4 f.address ++ " " ++ Numeral.spacedHex bytes)

/-! ### The catalog -/

/-- The name of an argument, with a remark on signed ones. -/
def fieldText (f : ArgField) : String :=
  if f.signed then f.name ++ " (signed)" else f.name

/-- The arguments of a command in words. -/
def fieldsText (c : Command) : String :=
  ", ".intercalate (c.fields.map fieldText)

def catalogJson : Json :=
  .object [
    ("schema_id", .text "scalpgen/cli/v1/command-catalog"),
    ("commands", .array (Command.all.map fun c => .object [
      ("code", .byte c.code),
      ("name", .text c.name),
      ("keyword", .text c.keyword),
      ("arity", .text c.arity.text),
      ("fields", .array (c.fields.map fun f => .text (fieldText f)))]))]

def catalogGrid : Grid where
  header := ["CODE", "NAME", "KEYWORD", "ARGS", "FIELDS"]
  rows := Command.all.map fun c =>
    [Numeral.markedByte c.code, c.name, c.keyword, c.arity.text, fieldsText c]

def catalogPretty : List String :=
  Command.all.map fun c =>
    Numeral.markedByte c.code ++ " " ++ Numeral.padRight 18 c.name
      ++ " " ++ Numeral.padRight 16 c.keyword ++ " args=" ++ Numeral.padRight 6 c.arity.text
      ++ " " ++ fieldsText c

/-- The report on the command catalog. -/
def catalog : Format → String
  | .json => unlines [catalogJson.render]
  | .table => unlines catalogGrid.lines
  | .pretty => unlines catalogPretty
  | .raw => unlines (Command.all.map fun c => Numeral.hexByte c.code ++ " " ++ c.keyword)

/-! ### Version -/

def programName : String := "scalpgen"

def programVersion : String := "0.1.0"

/-- Name and version on one line. -/
def versionLine : String :=
  programName ++ " " ++ programVersion

/-- Where a build comes from, as far as the build was told. -/
structure Provenance where
  /-- The machine it is for. -/
  target : Option String := none
  /-- With which settings it was compiled. -/
  profile : Option String := none
  /-- The revision of the source. -/
  revision : Option String := none
deriving DecidableEq, Repr

def Provenance.lines (p : Provenance) : List String :=
  ["build_target: " ++ p.target.getD "unknown",
    "build_profile: " ++ p.profile.getD "unknown",
    "git_hash: " ++ p.revision.getD "unknown"]

/-- What this build supports, and where it comes from unless that is withheld. -/
def versionDetails (build : Option Provenance) : List String :=
  ["name: " ++ programName, "version: " ++ programVersion]
    ++ build.elim [] Provenance.lines
    ++ ["frame_size: " ++ Numeral.decimal minFrameSize
        ++ "..=" ++ Numeral.decimal maxFrameSize
        ++ " (default " ++ Numeral.decimal defaultFrameSize ++ ")",
      "commands: " ++ Numeral.decimal Command.all.length]

/-- The version of the program. -/
def version (build : Option Provenance) (extended : Bool) : String :=
  unlines (if extended then versionDetails build else [versionLine])

end Report

end EepromImage
