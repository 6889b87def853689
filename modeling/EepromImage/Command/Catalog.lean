/-
The command catalog, and frames in words.

The catalog has the commands that modules know, with their names, argument counts and argument
fields.  It serves diagnostics and the check of argument counts; a frame's bytes do not depend
on it.  In words, a container shows where it relays to; a known command shows its arguments
under their field names; a code outside the catalog shows as a number with the bare argument
bytes.  Flags follow in brackets.

* **Command.ofCode?** — the command with a code;
* **Command.ofKeyword?** — the command with a keyword or a display name, letters compared
  without case;
* **checkArity** — whether a frame of some code may carry some number of arguments;
* **Frame.describe** — the description of a frame.
-/
import EepromImage.Frame.Codec

namespace EepromImage

/-! ### Arity -/

/-- The numbers of argument bytes that a command allows. -/
structure Arity where
  min : UInt8
  max : UInt8
deriving DecidableEq, Repr

namespace Arity

def exact (n : UInt8) : Arity := ⟨n, n⟩

def accepts (a : Arity) (count : Nat) : Bool :=
  a.min.toNat ≤ count && count ≤ a.max.toNat

/-- One number, or the first and the last of a range. -/
def text (a : Arity) : String :=
  if a.min = a.max then Numeral.decimal a.min.toNat
  else Numeral.decimal a.min.toNat ++ "..=" ++ Numeral.decimal a.max.toNat

end Arity

/-! ### Commands -/

/-- One argument of a command. -/
structure ArgField where
  name : String
  /-- Shown as a two's-complement number. -/
  signed : Bool
deriving DecidableEq, Repr

/-- The known commands. -/
inductive Command
  | null
  | container
  | state
  | log
  | led
  | servoCmd
  | servoInfo
  | minutTimeOut
  | takeOffThreshold
  | appliStart
deriving DecidableEq, Repr

namespace Command

/-- Every command, in the order of the codes. -/
def all : List Command :=
  [null, container, state, log, led, servoCmd, servoInfo, minutTimeOut, takeOffThreshold,
    appliStart]

/-- The command code in frames. -/
def code : Command → UInt8
  | null => 0x00
  | container => containerCode
  | state => 0x02
  | log => 0x03
  | led => 0x04
  | servoCmd => 0x05
  | servoInfo => 0x06
  | minutTimeOut => 0x07
  | takeOffThreshold => 0x08
  | appliStart => 0x09

/-- The name for people. -/
def name : Command → String
  | null => "Null"
  | container => "Container"
  | state => "State"
  | log => "Log"
  | led => "Led"
  | servoCmd => "ServoCmd"
  | servoInfo => "ServoInfo"
  | minutTimeOut => "MinutTimeOut"
  | takeOffThreshold => "TakeOffThreshold"
  | appliStart => "AppliStart"

/-- The name in slot tables. -/
def keyword : Command → String
  | null => "null"
  | container => "container"
  | state => "state"
  | log => "log"
  | led => "led"
  | servoCmd => "servo_cmd"
  | servoInfo => "servo_info"
  | minutTimeOut => "minut_time_out"
  | takeOffThreshold => "take_off_thres"
  | appliStart => "appli_start"

def arity : Command → Arity
  | null => .exact 0
  | container => ⟨3, 4⟩
  | state => ⟨1, 2⟩
  | log => ⟨1, 3⟩
  | led => .exact 3
  | servoCmd => .exact 2
  | servoInfo => .exact 4
  | minutTimeOut => .exact 2
  | takeOffThreshold => .exact 2
  | appliStart => .exact 0

/-- The arguments in order; a command with more arguments than fields repeats the last
field. -/
def fields : Command → List ArgField
  | null => []
  | container =>
    [⟨"offs_hi", false⟩, ⟨"offs_lo", false⟩, ⟨"count", false⟩, ⟨"storage", false⟩]
  | state => [⟨"state", false⟩, ⟨"arg", false⟩]
  | log => [⟨"filter", false⟩]
  | led => [⟨"mask", false⟩, ⟨"on", false⟩, ⟨"off", false⟩]
  | servoCmd => [⟨"servo", false⟩, ⟨"position", false⟩]
  | servoInfo => [⟨"servo", false⟩, ⟨"op", false⟩, ⟨"sel", false⟩, ⟨"angle", true⟩]
  | minutTimeOut => [⟨"op", false⟩, ⟨"tenths", false⟩]
  | takeOffThreshold => [⟨"duration", false⟩, ⟨"accel", false⟩]
  | appliStart => []

/-- The field that the argument at a position is shown under. -/
def fieldAt? (c : Command) (i : Nat) : Option ArgField :=
  c.fields[i]?.or c.fields.getLast?

theorem mem_fields_of_fieldAt? {c : Command} {i : Nat} {field : ArgField}
    (h : c.fieldAt? i = some field) :
    field ∈ c.fields := by
  rcases Option.or_eq_some_iff.mp h with h | ⟨-, h⟩
  · exact List.mem_of_getElem? h
  · exact List.mem_of_getLast? h

/-! ### Look-up -/

/-- The command with this code. -/
def ofCode? (code : UInt8) : Option Command :=
  all.find? fun c => c.code = code

/-- Whether two texts agree when ASCII capitals count as small letters. -/
def sameLetters (s t : String) : Bool :=
  s.toList.map Char.toLower = t.toList.map Char.toLower

/-- The command with this keyword or display name. -/
def ofKeyword? (word : String) : Option Command :=
  all.find? fun c => sameLetters c.keyword word || sameLetters c.name word

end Command

/-- The display name for a command code. -/
def commandName (code : UInt8) : String :=
  match Command.ofCode? code with
  | some c => c.name
  | none => "Unknown"

/-! ### Argument counts -/

/-- What the catalog says about a number of arguments. -/
inductive ArityCheck
  | accepted
  /-- The code is not in the catalog; nothing is known about its arguments. -/
  | unknown
  /-- The command allows other numbers of arguments. -/
  | mismatch (command : Command) (count : Nat)
deriving DecidableEq, Repr

/-- Checks the number of arguments of a frame with this code. -/
def checkArity (code : UInt8) (count : Nat) : ArityCheck :=
  match Command.ofCode? code with
  | none => .unknown
  | some c => if c.arity.accepts count then .accepted else .mismatch c count

/-! ### Descriptions -/

/-- Where a container relays to. -/
def Relay.describe (r : Relay) : String :=
  "Container(offset=" ++ Numeral.marked 4 r.offset.toNat ++ ", count="
    ++ Numeral.decimal r.count.toNat ++ ", "
    ++ (match Storage.name? r.storage with
        | some name => name
        | none => "storage=" ++ Numeral.markedByte r.storage)
    ++ ")"

/-- One argument, under its field if it has one. -/
def Command.describeArg (c : Command) (i : Nat) (arg : UInt8) : String :=
  match c.fieldAt? i with
  | some field =>
    field.name ++ "="
      ++ (if field.signed then Numeral.signed (Numeral.twosComplement arg)
        else Numeral.markedByte arg)
  | none => Numeral.markedByte arg

/-- A known command with its arguments.  Only a command without fields shows no brackets, and
only without arguments. -/
def Command.describe (c : Command) (args : List UInt8) : String :=
  if c.fields.isEmpty && args.isEmpty then c.name
  else c.name ++ "(" ++ ", ".intercalate (args.mapIdx c.describeArg) ++ ")"

/-- A code outside the catalog with its arguments. -/
def describeUnknown (code : UInt8) (args : List UInt8) : String :=
  "Unknown(" ++ Numeral.markedByte code ++ ")"
    ++ (if args.isEmpty then ""
      else "[" ++ ", ".intercalate (args.map Numeral.hexByte) ++ "]")

namespace Frame

/-- What the frame asks for, without its flags. -/
def describeContent (f : Frame) : String :=
  match f.relay?, Command.ofCode? f.command with
  | some relay, _ => relay.describe
  | none, some c => c.describe f.args.bytes
  | none, none => describeUnknown f.command f.args.bytes

/-- The flags that are set. -/
def describeFlags (f : Frame) : String :=
  (if f.status.isError then " [error]" else "")
    ++ (if f.status.isResponse then " [response]" else "")

/-- The frame in words. -/
def describe (f : Frame) : String :=
  f.describeContent ++ f.describeFlags

end Frame

end EepromImage
