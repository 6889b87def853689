/-
Why an image cannot be compiled or read.

Errors name their cause; `message` is the one place where they become text.

* **ImageError** — every failure between a slot table's text and an image, in either
  direction;
* **ErrorClass** — the coarse kinds of failure.
-/
import EepromImage.Command.Catalog
import EepromImage.File.System
import EepromImage.Toml.Value

namespace EepromImage

/-! ### Causes -/

/-- Why a frame declaration is refused. -/
inductive FrameFault
  | unknownCommand (word : String)
  | arity (command : Command) (count : Nat)
  | argument (value : Int)
deriving DecidableEq, Repr

def FrameFault.message : FrameFault → String
  | .unknownCommand word => "unknown command `" ++ word ++ "`"
  | .arity command count =>
    command.name ++ " takes " ++ command.arity.text ++ " argument(s), got "
      ++ Numeral.decimal count
  | .argument value =>
    "argument " ++ Numeral.signed value ++ " does not fit in a byte (-128..=255)"

/-- Why an Intel HEX line, or a file of them, is refused. -/
inductive HexFault
  | missingStartCode
  | malformed (line : String)
  | invalidDigit
  /-- The count byte and the number of data bytes. -/
  | count (declared actual : Nat)
  | checksum (found expected : UInt8)
  /-- The address of the record and the end of the data before it. -/
  | gap (address stop : Nat)
deriving DecidableEq, Repr

def HexFault.message : HexFault → String
  | .missingStartCode => "missing ':' start code"
  | .malformed line => "malformed record `" ++ line ++ "`"
  | .invalidDigit => "invalid hex digit: invalid digit found in string"
  | .count declared actual =>
    "byte count " ++ Numeral.decimal declared ++ " disagrees with record length "
      ++ Numeral.decimal actual
  | .checksum found expected =>
    "checksum " ++ Numeral.markedByte found ++ ", expected " ++ Numeral.markedByte expected
  | .gap address stop =>
    "data at " ++ Numeral.marked 4 address ++ " does not follow " ++ Numeral.marked 4 stop
      ++ ": gap or overlap"

/-- Why a configuration is refused as a whole. -/
inductive ConfigFault
  | frameSize (cause : FrameError)
  /-- The image has fewer frames than it should have slots. -/
  | fewerFrames (frames slots : Nat)
deriving DecidableEq, Repr

def ConfigFault.message : ConfigFault → String
  | .frameSize cause => cause.message
  | .fewerFrames frames slots =>
    "image holds " ++ Numeral.decimal frames ++ " frames, fewer than "
      ++ Numeral.decimal slots ++ " slots"

/-- A broken promise of the allocator. -/
inductive InternalFault
  | offsetTooLarge (offset : Nat)
  | relayMismatch (slot offset count : Nat)
  | sequenceMissing (slot offset : Nat)
  | addressTooLarge (address : Nat)
deriving DecidableEq, Repr

def InternalFault.message : InternalFault → String
  | .offsetTooLarge offset =>
    "offset " ++ Numeral.marked 1 offset ++ " past the address space"
  | .relayMismatch slot offset count =>
    "slot " ++ Numeral.decimal slot ++ ": container does not relay to "
      ++ Numeral.marked 4 offset ++ " x" ++ Numeral.decimal count
  | .sequenceMissing slot offset =>
    "slot " ++ Numeral.decimal slot ++ ": relayed sequence not found at "
      ++ Numeral.marked 4 offset
  | .addressTooLarge address =>
    "record address " ++ Numeral.marked 1 address ++ " exceeds 16 bits"

/-- Why a slot table file is refused before it is parsed. -/
inductive LoadFault
  | file (cause : FileError)
  | tooLarge (size limit : Nat)
  | grew (limit : Nat)
deriving DecidableEq, Repr

def LoadFault.message : LoadFault → String
  | .file cause => cause.message
  | .tooLarge size limit =>
    "file too large (" ++ Numeral.decimal size ++ " bytes, max "
      ++ Numeral.decimal limit ++ ")"
  | .grew limit => "file grew past " ++ Numeral.decimal limit ++ " bytes while reading"

/-! ### Errors -/

/-- Why an image cannot be compiled or read. -/
inductive ImageError
  /-- The declared number of slots is not the number of slots given. -/
  | slotCount (declared actual : Nat)
  /-- A slot holds no frame, so its event would lead nowhere. -/
  | emptySlot (slot : Nat)
  /-- A slot declares another position than it has. -/
  | slotIndex (slot declared : Nat)
  /-- A slot holds more frames than a container can count. -/
  | slotTooLong (slot count : Nat)
  /-- A frame declaration is refused. -/
  | invalidFrame (slot frame : Nat) (cause : FrameFault)
  /-- The configuration is refused as a whole. -/
  | config (cause : ConfigFault)
  /-- A frame has no record in the layout. -/
  | encoding (slot frame : Nat) (cause : FrameError)
  /-- The image does not fit the address space or the EEPROM. -/
  | capacity (size limit : Nat)
  /-- A broken promise of the allocator. -/
  | internal (cause : InternalFault)
  /-- The slot table file is refused before it is parsed. -/
  | load (path : String) (cause : LoadFault)
  /-- The slot table is not a table document. -/
  | parse (cause : Toml.Error)
  /-- A line of an Intel HEX file is refused; line 0 stands for the file as a whole. -/
  | hex (line : Nat) (cause : HexFault)
  /-- The bytes at an address are no frame. -/
  | decode (address : Nat) (cause : FrameError)
deriving DecidableEq, Repr

/-- The error in words. -/
def ImageError.message : ImageError → String
  | .slotCount declared actual =>
    "slots number inconsistent between declaration (" ++ Numeral.decimal declared
      ++ ") and instantiation (" ++ Numeral.decimal actual ++ ")"
  | .emptySlot slot => "slot " ++ Numeral.decimal slot ++ " holds no frame"
  | .slotIndex slot declared =>
    "slot " ++ Numeral.decimal slot ++ " declares index " ++ Numeral.decimal declared
  | .slotTooLong slot count =>
    "slot " ++ Numeral.decimal slot ++ " holds " ++ Numeral.decimal count
      ++ " frames (max 255)"
  | .invalidFrame slot frame cause =>
    "slot " ++ Numeral.decimal slot ++ ", frame " ++ Numeral.decimal frame ++ ": "
      ++ cause.message
  | .config cause => "configuration error: " ++ cause.message
  | .encoding slot frame cause =>
    "slot " ++ Numeral.decimal slot ++ ", frame " ++ Numeral.decimal frame ++ ": "
      ++ cause.message
  | .capacity size limit =>
    "image of " ++ Numeral.decimal size ++ " bytes exceeds the " ++ Numeral.decimal limit
      ++ "-byte limit"
  | .internal cause => "internal allocator error: " ++ cause.message
  | .load path cause => "failed to load slot table: " ++ path ++ ": " ++ cause.message
  | .parse cause => "invalid slot table: " ++ cause.message
  | .hex line cause => "hex line " ++ Numeral.decimal line ++ ": " ++ cause.message
  | .decode address cause => "frame at " ++ Numeral.marked 4 address ++ ": " ++ cause.message

/-! ### Classes -/

/-- The coarse kinds of failure. -/
inductive ErrorClass
  | configuration
  | encoding
  | layout
  | internal
  | input
deriving DecidableEq, Repr

def ImageError.errorClass : ImageError → ErrorClass
  | .slotCount .. | .emptySlot .. | .slotIndex .. | .slotTooLong ..
  | .invalidFrame .. | .config .. => .configuration
  | .encoding .. => .encoding
  | .capacity .. => .layout
  | .internal .. => .internal
  | .load .. | .parse .. | .hex .. | .decode .. => .input

end EepromImage
