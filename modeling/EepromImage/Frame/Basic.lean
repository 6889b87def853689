/-
Command frames, their status byte and their geometry.

A frame of size `F` is a header of five bytes (destination, origin, transaction, command,
status) and `F - 5` argument bytes.  All frames of an image share one size between 8 and 12,
so that an offset and a count fit behind the header and the three length bits of the status
can count every argument.  Of the status, bit 7 is the error flag, bit 6 tells a response from
a command, bit 5 marks a container whose sequence lies in EEPROM, bits 4 and 3 are reserved,
and bits 2 to 0 hold the number of argument bytes.

* **Status.apply**, **Status.run** — updates, of which every one writes its own field and
  leaves all other bits alone;
* **FrameLayout** — a size that is in range, by its type;
* **Args** — at most seven argument bytes, by its type;
* **FrameError** — why a frame cannot be built, written or read.
-/
import EepromImage.Text.Basic

namespace EepromImage

/-! ### Status bytes -/

/-- A status byte, reserved bits included. -/
structure Status where
  bits : UInt8
deriving DecidableEq, Repr

namespace Status

/-! ### Fields -/

def errorMask : UInt8 := 0x80
def responseMask : UInt8 := 0x40
def storageMask : UInt8 := 0x20
def reservedMask : UInt8 := 0x18
def lengthMask : UInt8 := 0x07

/-- The status of a command with `n` argument bytes; only the low three bits of `n` fit. -/
def ofLength (n : UInt8) : Status :=
  ⟨n &&& lengthMask⟩

/-- Whether any bit of the mask is set. -/
def has (s : Status) (mask : UInt8) : Bool :=
  s.bits &&& mask != 0

def isError (s : Status) : Bool := s.has errorMask

def isResponse (s : Status) : Bool := s.has responseMask

/-- Whether a container with this status relays to EEPROM in the form without a selector
argument. -/
def readsEeprom (s : Status) : Bool := s.has storageMask

/-- The declared number of argument bytes. -/
def length (s : Status) : UInt8 := s.bits &&& lengthMask

def reserved (s : Status) : UInt8 := s.bits &&& reservedMask

/-! ### Updates -/

/-- Sets or clears the bits of a mask. -/
def write (s : Status) (mask : UInt8) (on : Bool) : Status :=
  if on then ⟨s.bits ||| mask⟩ else ⟨s.bits &&& ~~~mask⟩

def setError (s : Status) (on : Bool) : Status := s.write errorMask on

def setResponse (s : Status) (on : Bool) : Status := s.write responseMask on

def setEeprom (s : Status) (on : Bool) : Status := s.write storageMask on

/-- Replaces the declared length by the low three bits of `n`. -/
def setLength (s : Status) (n : UInt8) : Status :=
  ⟨(s.bits &&& ~~~lengthMask) ||| (n &&& lengthMask)⟩

/-- One change to a status byte. -/
inductive Update
  | error (on : Bool)
  | response (on : Bool)
  | eeprom (on : Bool)
  | length (n : UInt8)
deriving DecidableEq, Repr

/-- The status after one change. -/
def apply (s : Status) : Update → Status
  | .error on => s.setError on
  | .response on => s.setResponse on
  | .eeprom on => s.setEeprom on
  | .length n => s.setLength n

/-- The status after all changes, the first one first. -/
def run (s : Status) (updates : List Update) : Status :=
  updates.foldl apply s

/-- Every status passed through, the first and the last included. -/
def trace (s : Status) : List Update → List Status
  | [] => [s]
  | u :: rest => s :: (s.apply u).trace rest

/-- The fields in words, for diagnostics. -/
def summary (s : Status) : String :=
  "Status \x7b error: " ++ toString s.isError ++ ", response: " ++ toString s.isResponse
    ++ ", eeprom: " ++ toString s.readsEeprom ++ ", len: "
      ++ toString s.length.toNat ++ " \x7d"

end Status

/-! ### Sizes -/

/-- Destination, origin, transaction, command and status. -/
def headerSize : Nat := 5

/-- The most argument bytes that three length bits can count. -/
def maxArgs : Nat := 7

/-- The smallest frame with room for a container's offset and count. -/
def minFrameSize : Nat := headerSize + 3

/-- The largest frame whose arguments the status can count. -/
def maxFrameSize : Nat := headerSize + maxArgs

def defaultFrameSize : Nat := 11

/-- The byte in place of the transaction of a frame that has none. -/
def noTransaction : UInt8 := 0xff

/-! ### Errors -/

/-- Why a frame cannot be built, written or read. -/
inductive FrameError
  /-- The frame size is not between the smallest and the largest. -/
  | invalidFrameSize (size : Nat)
  /-- More argument bytes than there is room for. -/
  | tooManyArgs (count capacity : Nat)
  /-- The status counts other than the arguments there are. -/
  | lengthMismatch (declared actual : Nat)
  /-- The transaction is the byte that stands for none. -/
  | reservedTransaction
  /-- Bits 4 and 3 of the status are not both clear. -/
  | reservedStatusBits (bits : UInt8)
  /-- The status counts more arguments than the frame size has room for. -/
  | lengthOverflow (declared capacity : Nat)
  /-- The bytes are not exactly one frame. -/
  | wrongLength (expected actual : Nat)
  /-- A byte behind the arguments is not zero. -/
  | nonZeroPadding (offset : Nat) (value : UInt8)
deriving DecidableEq, Repr

/-- The error in words. -/
def FrameError.message : FrameError → String
  | .invalidFrameSize size =>
    "frame size " ++ Numeral.decimal size ++ " out of range ("
      ++ Numeral.decimal minFrameSize ++ "..=" ++ Numeral.decimal maxFrameSize ++ ")"
  | .tooManyArgs count capacity =>
    "too many argument bytes (" ++ Numeral.decimal count ++ ", capacity "
      ++ Numeral.decimal capacity ++ ")"
  | .lengthMismatch declared actual =>
    "status declares " ++ Numeral.decimal declared ++ " argument bytes, frame carries "
      ++ Numeral.decimal actual
  | .reservedTransaction =>
    "transaction id " ++ Numeral.markedByte noTransaction ++ " is reserved for unset frames"
  | .reservedStatusBits bits =>
    "reserved status bits set (status " ++ Numeral.markedByte bits ++ ")"
  | .lengthOverflow declared capacity =>
    "status declares " ++ Numeral.decimal declared
      ++ " argument bytes, layout carries at most " ++ Numeral.decimal capacity
  | .wrongLength expected actual =>
    "frame must be " ++ Numeral.decimal expected ++ " bytes, got " ++ Numeral.decimal actual
  | .nonZeroPadding offset value =>
    "nonzero padding byte " ++ Numeral.markedByte value ++ " at offset "
      ++ Numeral.decimal offset

/-! ### Layouts -/

/-- The size shared by every frame of an image. -/
structure FrameLayout where
  size : Nat
  min_le_size : minFrameSize ≤ size
  size_le_max : size ≤ maxFrameSize
deriving DecidableEq, Repr

namespace FrameLayout

/-- The layout of a size in range. -/
def ofSize (size : Nat) : Except FrameError FrameLayout :=
  if h : minFrameSize ≤ size ∧ size ≤ maxFrameSize then .ok ⟨size, h.1, h.2⟩
  else .error (.invalidFrameSize size)

def standard : FrameLayout :=
  ⟨defaultFrameSize, by decide, by decide⟩

instance : Inhabited FrameLayout := ⟨standard⟩

/-- Argument bytes per frame. -/
def argCapacity (layout : FrameLayout) : Nat :=
  layout.size - headerSize

theorem size_eq (layout : FrameLayout) : layout.size = headerSize + layout.argCapacity := by
  have := layout.min_le_size
  simp only [argCapacity, minFrameSize] at *
  omega

theorem size_pos (layout : FrameLayout) : 0 < layout.size := by
  have := layout.min_le_size
  simp only [minFrameSize, headerSize] at this
  omega

theorem argCapacity_le (layout : FrameLayout) : layout.argCapacity ≤ maxArgs := by
  have := layout.size_le_max
  simp only [argCapacity, maxFrameSize] at *
  omega

theorem three_le_argCapacity (layout : FrameLayout) : 3 ≤ layout.argCapacity := by
  have := layout.min_le_size
  simp only [argCapacity, minFrameSize] at *
  omega

end FrameLayout

/-! ### Arguments -/

/-- The argument bytes of a frame, at most seven. -/
structure Args where
  bytes : List UInt8
  length_le : bytes.length ≤ maxArgs
deriving DecidableEq, Repr

namespace Args

def ofList (bytes : List UInt8) : Except FrameError Args :=
  if h : bytes.length ≤ maxArgs then .ok ⟨bytes, h⟩
  else .error (.tooManyArgs bytes.length maxArgs)

theorem eq_of_bytes_eq {args args' : Args} (h : args.bytes = args'.bytes) : args = args' := by
  cases args
  cases args'
  cases h
  rfl

def empty : Args := ⟨[], by decide⟩

instance : Inhabited Args := ⟨empty⟩

def length (args : Args) : Nat := args.bytes.length

/-- The status of a command with these arguments. -/
def status (args : Args) : Status :=
  Status.ofLength (UInt8.ofNat args.length)

/-- The bytes in decimal between brackets, for diagnostics. -/
def summary (args : Args) : String :=
  "[" ++ ", ".intercalate (args.bytes.map fun b => Numeral.decimal b.toNat) ++ "]"

end Args

/-! ### Frames -/

/-- A command frame. -/
structure Frame where
  /-- Address of the module the frame is for. -/
  dest : UInt8
  /-- Address of the module the frame is from. -/
  orig : UInt8
  /-- Transaction number, absent in frames that never expect a reply. -/
  transaction : Option UInt8
  /-- Command code. -/
  command : UInt8
  /-- Flags and declared number of arguments. -/
  status : Status
  args : Args
deriving DecidableEq, Repr

namespace Frame

/-- A frame with a status of its own, which may disagree with the arguments. -/
def ofParts (dest orig : UInt8) (transaction : Option UInt8) (command : UInt8)
    (status : Status) (bytes : List UInt8) : Except FrameError Frame :=
  match Args.ofList bytes with
  | .ok args => .ok ⟨dest, orig, transaction, command, status, args⟩
  | .error e => .error e

/-- A command frame whose status counts its arguments. -/
def withArgs (dest orig : UInt8) (transaction : Option UInt8) (command : UInt8)
    (args : Args) : Frame :=
  ⟨dest, orig, transaction, command, args.status, args⟩

/-- A command frame from its argument bytes. -/
def create (dest orig : UInt8) (transaction : Option UInt8) (command : UInt8)
    (bytes : List UInt8) : Except FrameError Frame :=
  match Args.ofList bytes with
  | .ok args => .ok (withArgs dest orig transaction command args)
  | .error e => .error e

/-- The byte written for the transaction. -/
def transactionByte (f : Frame) : UInt8 :=
  f.transaction.getD noTransaction

/-- The five bytes in front of the arguments. -/
def header (f : Frame) : List UInt8 :=
  [f.dest, f.orig, f.transactionByte, f.command, f.status.bits]

end Frame

end EepromImage
