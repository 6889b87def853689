/-
Table documents from TOML text.

A group of settings is a table, or an array with the settings in their declared order;
**Toml.Value.fields** turns both into entries.  Types are strict: a text is no number, and a
number has to fit its place.

* **TableDocument.ofValue** — the document that a TOML value holds;
* **TableDocument.parse** — the document that a text holds.
-/
import EepromImage.Document.Build
import EepromImage.Toml.Reader

namespace EepromImage

/-! ### Settings -/

namespace Toml

namespace Value

def asText : Value → Except Error String
  | .text s => .ok s
  | _ => .error (.wrongType "a text")

def asBoolean : Value → Except Error Bool
  | .boolean b => .ok b
  | _ => .error (.wrongType "a truth value")

/-- An integer from `low` on and below `bound`. -/
def asInteger (low bound : Int) : Value → Except Error Int
  | .integer (some z) => if low ≤ z ∧ z < bound then .ok z else .error (.outOfRange z)
  | .integer none => .error .noNumber
  | _ => .error (.wrongType "an integer")

/-- A natural number below `bound`. -/
def asNatural (bound : Nat) (v : Value) : Except Error Nat :=
  (v.asInteger 0 bound).map Int.toNat

def asByte (v : Value) : Except Error UInt8 :=
  (v.asNatural 256).map UInt8.ofNat

/-- The items of an array, or the tables under a heading in double brackets. -/
def asItems : Value → Except Error (List Value)
  | .array items => .ok items
  | .tables latestFirst => .ok latestFirst.reverse
  | _ => .error (.wrongType "an array")

/-- The settings with the given names: the entries of a table, which may have no others, or
the items of an array in the order of the names, where missing and surplus items are
allowed. -/
def fields (names : List String) (v : Value) : Except Error Entries :=
  match v with
  | .table _ entries =>
    match entries.find? fun e => !names.contains e.1 with
    | some (name, _) => .error (.unknownField name)
    | none => .ok entries
  | v => v.asItems.map names.zip

end Value

namespace Entries

/-- The setting with a name, if it is there. -/
def optional {α : Type} (entries : Entries) (name : String) (read : Value → Except Error α) :
    Except Error (Option α) :=
  match entries.get? name with
  | some v => (read v).map some
  | none => .ok none

/-- The setting with a name, or what stands for a missing one. -/
def withDefault {α : Type} (entries : Entries) (name : String) (default : α)
    (read : Value → Except Error α) : Except Error α :=
  (entries.optional name read).map fun found => found.getD default

/-- The setting with a name, which may not be missing. -/
def required {α : Type} (entries : Entries) (name : String) (read : Value → Except Error α) :
    Except Error α :=
  match entries.get? name with
  | some v => read v
  | none => .error (.missingField name)

end Entries

end Toml

/-! ### Documents -/

open Toml

/-- Sizes, counts and positions are numbers of 64 bits. -/
def sizeBound : Nat := UInt64.size

/-- Arguments are signed numbers of 64 bits. -/
def argBound : Int := 0x8000000000000000

def readConfig (v : Value) : Except Toml.Error ImageConfig := do
  let fields ← v.fields ["name", "slots_nb", "frame_size", "self_addr", "eeprom_size"]
  return {
    name := ← fields.withDefault "name" "eeprom" Value.asText
    slotCount := ← fields.required "slots_nb" (Value.asNatural sizeBound)
    frameSize := ← fields.withDefault "frame_size" defaultFrameSize
      (Value.asNatural sizeBound)
    selfAddr := ← fields.withDefault "self_addr" 0 Value.asByte
    eepromSize := ← fields.optional "eeprom_size" (Value.asNatural sizeBound) }

def readListing (v : Value) : Except Toml.Error ListingOptions := do
  let fields ← v.fields ["include", "struct_name", "array_name", "section"]
  let standard : ListingOptions := {}
  return {
    header := ← fields.withDefault "include" standard.header Value.asText
    structName := ← fields.withDefault "struct_name" standard.structName Value.asText
    arrayName := ← fields.withDefault "array_name" standard.arrayName Value.asText
    sectionName := ← fields.withDefault "section" standard.sectionName Value.asText }

def readHex (v : Value) : Except Toml.Error HexOptions := do
  let fields ← v.fields ["base_address", "eof_record"]
  let standard : HexOptions := {}
  return {
    baseAddress := ← fields.withDefault "base_address" standard.baseAddress fun v =>
      (v.asNatural UInt32.size).map UInt32.ofNat
    eofRecord := ← fields.withDefault "eof_record" standard.eofRecord Value.asBoolean }

/-- A command is a byte or a text. -/
def readCommand : Value → Except Toml.Error CommandRef
  | .text w => .ok (.word w)
  | v => v.asByte.map .code

def readFrame (v : Value) : Except Toml.Error FrameDecl := do
  let fields ← v.fields ["dest", "orig", "t_id", "cmde", "args", "error", "response", "len"]
  return {
    dest := ← fields.optional "dest" Value.asByte
    orig := ← fields.optional "orig" Value.asByte
    transaction := ← fields.optional "t_id" Value.asByte
    command := ← fields.required "cmde" readCommand
    args := ← fields.withDefault "args" [] fun v => do
      (← v.asItems).mapM (Value.asInteger (-argBound) argBound)
    isError := ← fields.withDefault "error" false Value.asBoolean
    isResponse := ← fields.withDefault "response" false Value.asBoolean
    length := ← fields.optional "len" Value.asByte }

def readSlot (v : Value) : Except Toml.Error SlotDecl := do
  let fields ← v.fields ["name", "index", "frames"]
  return {
    name := ← fields.optional "name" Value.asText
    index := ← fields.optional "index" (Value.asNatural sizeBound)
    frames := ← fields.withDefault "frames" [] fun v => do (← v.asItems).mapM readFrame }

namespace TableDocument

/-- The document that a TOML value holds. -/
def ofValue (v : Value) : Except Toml.Error TableDocument := do
  let fields ← v.fields ["image", "listing", "hex", "slots"]
  return {
    image := ← fields.required "image" readConfig
    listing := ← fields.withDefault "listing" {} readListing
    hex := ← fields.withDefault "hex" {} readHex
    slots := ← fields.withDefault "slots" [] fun v => do (← v.asItems).mapM readSlot }

/-- The document that a TOML text holds. -/
def parse (text : List Char) : Except ImageError TableDocument :=
  match (do ofValue (← Toml.parse text).value) with
  | .ok document => .ok document
  | .error e => .error (.parse e)

end TableDocument

end EepromImage
