/-
Log events: what is worth telling while a command runs, beside its results.

* **Level.shows** — which events pass at a level;
* **Event.line** — an event as a line of text or of JSON;
* **loaded**, **allocating**, **written**, **skipped**, **problem** — the events of each step:
  loading a table, laying it out, writing an artifact, reading an image back.
-/
import EepromImage.Image.Artifact
import EepromImage.Image.Inspection
import EepromImage.Report.Format

namespace EepromImage

/-! ### Events -/

namespace Log

/-- How grave an event is. -/
inductive Severity
  | warn
  | info
  | debug
deriving DecidableEq, Repr

/-- The events that are shown: everything down to a severity. -/
inductive Level
  | off
  | error
  | warn
  | info
  | debug
  | trace
deriving DecidableEq, Repr

def Level.all : List Level :=
  [.off, .error, .warn, .info, .debug, .trace]

def Level.name : Level → String
  | .off => "off"
  | .error => "error"
  | .warn => "warn"
  | .info => "info"
  | .debug => "debug"
  | .trace => "trace"

/-- Whether an event passes. -/
def Level.shows : Level → Severity → Bool
  | .off, _ => false
  | .error, _ => false
  | .warn, s => s = .warn
  | .info, s => s ≠ .debug
  | .debug, _ => true
  | .trace, _ => true

/-- The form of log lines. -/
inductive Format
  | text
  | json
deriving DecidableEq, Repr

def Format.all : List Format :=
  [.text, .json]

def Format.name : Format → String
  | .text => "text"
  | .json => "json"

/-- A detail of an event. -/
inductive Detail
  | number (n : Nat)
  | text (content : String)
  /-- A word that stands between quotation marks in text lines, too. -/
  | word (content : String)
deriving DecidableEq, Repr

/-- Something that happened. -/
structure Event where
  severity : Severity
  message : String
  details : List (String × Detail) := []
deriving DecidableEq, Repr

def Severity.name : Severity → String
  | .warn => "WARN"
  | .info => "INFO"
  | .debug => "DEBUG"

def Detail.line : Detail → String
  | .number n => Numeral.decimal n
  | .text s => s
  | .word s => "\"" ++ s ++ "\""

def Detail.json : Detail → Report.Json
  | .number n => .number n
  | .text s => .text s
  | .word s => .text s

/-- The event as a JSON value, under the time at which it was logged if there is a clock. -/
def Event.json (time : Option String) (e : Event) : Report.Json :=
  .object (time.toList.map (fun t => ("timestamp", .text t)) ++ [
    ("level", .text e.severity.name),
    ("fields", .object (("message", .text e.message) ::
      e.details.map fun (name, d) => (name, d.json)))])

/-- The event as a line; lines of text bear no time. -/
def Event.line (time : Option String) (e : Event) : Format → String
  | .text =>
    Numeral.padLeft 5 e.severity.name ++ " " ++ e.message
      ++ String.join (e.details.map fun (name, d) => " " ++ name ++ "=" ++ d.line) ++ "\n"
  | .json => (e.json time).render ++ "\n"

/-! ### Steps -/

def loaded (path : String) (size : Nat) : Event :=
  ⟨.debug, "loaded slot table", [("path", .text path), ("bytes", .number size)]⟩

def unknownCode (u : UnknownCode) : Event :=
  ⟨.warn, "command code not in catalog, argument count unchecked",
    [("slot", .number u.slot), ("frame", .number u.frame), ("cmde", .number u.code.toNat)]⟩

def relocating (r : Relocation) : Event :=
  ⟨.debug, "relocating slot to extended zone",
    [("slot", .number r.slot), ("offset", .number r.offset), ("count", .number r.count)]⟩

def laidOut (relocations : Nat) (image : Image) : Event :=
  ⟨.info, "image laid out",
    [("image", .text image.name), ("slots", .number image.slotCount),
      ("relocated_slots", .number relocations), ("records", .number image.length),
      ("bytes", .number image.byteLength)]⟩

def written (path : String) (kind : ArtifactKind) (size : Nat) : Event :=
  ⟨.info, "artifact written",
    [("path", .text path), ("emit", .word kind.name), ("bytes", .number size)]⟩

def skipped (line : SkippedLine) : Event :=
  ⟨.warn, "skipping unsupported hex record",
    [("line", .number line.number), ("kind", .number line.kind.toNat)]⟩

def problem (p : Problem) : Event :=
  ⟨.warn, p.message, []⟩

/-- The events of laying out a table: the unknown codes up to the first fault, and if there is
none and the image fits, its sequences and its size. -/
def allocating (t : SlotTable) : List Event :=
  t.notices.map unknownCode
    ++ match t.allocate with
      | .ok image => t.relocations.map relocating ++ [laidOut t.relocations.length image]
      | .error _ => []

end Log

end EepromImage
