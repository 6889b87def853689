/-
The record format of frames, and the frames that stand for others.

A record is header, arguments and zeros up to the frame size.  A container is the frame in a
slot that holds more than one frame.  Its arguments are the high and the low byte of the
offset at which the sequence starts, the number of frames in it, and a storage selector.  A
frame with room for three arguments has no selector; there the storage bit of the status marks
a sequence in EEPROM.

* **Frame.encode** — all refusals come before the first byte;
* **Frame.decode** — reads exactly one frame and refuses any byte that `encode` would not have
  written;
* **Frame.byteAt** — the byte at a position without writing the frame, padding included;
* **Frame.write**, **Frame.feed** — a frame written field by field behind what a growing
  buffer already holds; nothing undoes what was written in front of a refusal;
* **Frame.container** — the container for a sequence in EEPROM, in the form that fits the
  layout;
* **Frame.relay?** — what a frame relays to, from either form;
* **Relay.Resolves** — the relayed frames exist and lie in the extended zone.
-/
import EepromImage.Frame.Basic

namespace EepromImage

namespace Frame

/-! ### Writing -/

/-- Why the frame has no record in the layout: the first of its faults. -/
def encodingFault? (layout : FrameLayout) (f : Frame) : Option FrameError :=
  if layout.argCapacity < f.args.length then
    some (.tooManyArgs f.args.length layout.argCapacity)
  else if f.status.length.toNat ≠ f.args.length then
    some (.lengthMismatch f.status.length.toNat f.args.length)
  else if f.status.reserved ≠ 0 then some (.reservedStatusBits f.status.bits)
  else if f.transaction = some noTransaction then some .reservedTransaction
  else none

/-- The arguments filled up with zeros. -/
def argField (layout : FrameLayout) (f : Frame) : List UInt8 :=
  f.args.bytes ++ List.replicate (layout.argCapacity - f.args.length) 0

/-- The record of a frame, exactly as long as the layout says. -/
def encode (layout : FrameLayout) (f : Frame) : Except FrameError (List UInt8) :=
  match f.encodingFault? layout with
  | some e => .error e
  | none => .ok (f.header ++ f.argField layout)

/-! ### Growing buffers -/

/-- Steps on a buffer, which keeps what they wrote even if they end with a refusal. -/
abbrev BufferM := ExceptT FrameError (StateM (List UInt8))

/-- Puts bytes behind what the buffer holds. -/
def putBytes (bytes : List UInt8) : BufferM Unit :=
  modify (· ++ bytes)

/-- Writes the record of a frame field by field. -/
def write (layout : FrameLayout) (f : Frame) : BufferM Unit := do
  -- every check stands in front of the first byte
  if let some e := f.encodingFault? layout then throw e
  putBytes [f.dest]
  putBytes [f.orig]
  putBytes [f.transactionByte]
  putBytes [f.command]
  putBytes [f.status.bits]
  putBytes f.args.bytes
  putBytes (List.replicate (layout.argCapacity - f.args.length) 0)

/-- The buffer after a frame was offered to it, and the refusal if there was one. -/
def feed (layout : FrameLayout) (buffer : List UInt8) (f : Frame) :
    List UInt8 × Option FrameError :=
  match (f.write layout).run.run buffer with
  | (.ok _, after) => (after, none)
  | (.error e, after) => (after, some e)

/-- The buffer after frames were offered to it one after another. -/
def feedAll (layout : FrameLayout) (buffer : List UInt8) (frames : List Frame) : List UInt8 :=
  frames.foldl (fun bytes f => (f.feed layout bytes).1) buffer

/-! ### Reading -/

/-- The first byte that is not zero, with its position counted from `start`. -/
def firstNonZero? (start : Nat) : List UInt8 → Option (Nat × UInt8)
  | [] => none
  | b :: rest => if b ≠ 0 then some (start, b) else firstNonZero? (start + 1) rest

/-- The transaction that a byte stands for. -/
def transactionOfByte (b : UInt8) : Option UInt8 :=
  if b = noTransaction then none else some b

/-- The frame with these header bytes and this argument field. -/
def decodeFields (layout : FrameLayout) (dest orig transaction command bits : UInt8)
    (field : List UInt8) : Except FrameError Frame :=
  let status : Status := ⟨bits⟩
  let count := status.length.toNat
  if status.reserved ≠ 0 then .error (.reservedStatusBits bits)
  else if layout.argCapacity < count then .error (.lengthOverflow count layout.argCapacity)
  else
    match firstNonZero? (headerSize + count) (field.drop count) with
    | some (offset, value) => .error (.nonZeroPadding offset value)
    | none =>
      ofParts dest orig (transactionOfByte transaction) command status (field.take count)

/-- The frame whose record the bytes are. -/
def decode (layout : FrameLayout) (bytes : List UInt8) : Except FrameError Frame :=
  if bytes.length ≠ layout.size then .error (.wrongLength layout.size bytes.length)
  else
    match bytes with
    | dest :: orig :: transaction :: command :: bits :: field =>
      decodeFields layout dest orig transaction command bits field
    | _ => .error (.wrongLength layout.size bytes.length)

/-! ### Single bytes -/

/-- A position past the widest frame. -/
structure IndexError where
  index : Nat
deriving DecidableEq, Repr

def IndexError.message (e : IndexError) : String :=
  "frame byte index " ++ Numeral.decimal e.index ++ " out of range (must be < "
    ++ Numeral.decimal maxFrameSize ++ ")"

/-- The byte of the frame at a position.  A frame does not know its layout: every position of
the widest frame has a byte, and those behind the arguments are zero. -/
def byteAt (f : Frame) (index : Nat) : Except IndexError UInt8 :=
  if index < maxFrameSize then .ok ((f.header ++ f.args.bytes)[index]?.getD 0)
  else .error ⟨index⟩

end Frame

/-! ### Sixteen-bit words -/

namespace Word

/-- The byte with the upper eight bits. -/
def high (w : UInt16) : UInt8 := UInt8.ofNat (w.toNat / 256)

/-- The byte with the lower eight bits. -/
def low (w : UInt16) : UInt8 := UInt8.ofNat (w.toNat % 256)

/-- The word with these bytes. -/
def ofBytes (high low : UInt8) : UInt16 := UInt16.ofNat (high.toNat * 256 + low.toNat)

/-- The two bytes of a word, high byte first. -/
def bytes (w : UInt16) : List UInt8 := [high w, low w]

end Word

/-! ### Storage -/

namespace Storage

/-- The sequence is held in RAM. -/
def ram : UInt8 := 0x00

/-- The sequence is stored in EEPROM. -/
def eeprom : UInt8 := 0x01

/-- The sequence is predefined in the firmware. -/
def preDef : UInt8 := 0x02

/-- The name of a storage selector. -/
def name? (selector : UInt8) : Option String :=
  if selector = ram then some "ram"
  else if selector = eeprom then some "eeprom"
  else if selector = preDef then some "pre_def"
  else none

end Storage

/-! ### Relays -/

/-- What a container relays to. -/
structure Relay where
  /-- Byte address of the first relayed frame. -/
  offset : UInt16
  /-- Number of relayed frames. -/
  count : UInt8
  /-- Storage selector. -/
  storage : UInt8
deriving DecidableEq, Repr

namespace Relay

def fromEeprom (r : Relay) : Bool :=
  r.storage = Storage.eeprom

/-- The address behind the last relayed frame. -/
def spanEnd (size : Nat) (r : Relay) : Nat :=
  r.offset.toNat + r.count.toNat * size

/-- The relay names at least one frame, starts at a frame, and every frame it names lies
between the end of the slot zone and the end of the image. -/
def Resolves (size slots frames : Nat) (r : Relay) : Prop :=
  size ∣ r.offset.toNat ∧ 1 ≤ r.count.toNat ∧
    ∀ j < r.count.toNat, slots ≤ r.offset.toNat / size + j ∧
      r.offset.toNat / size + j < frames

end Relay

/-! ### Containers -/

/-- Code of the container command. -/
def containerCode : UInt8 := 0x01

namespace Frame

/-- The container, sent by a module to itself, for `count` frames in EEPROM from `offset`
on. -/
def container (self : UInt8) (offset : UInt16) (count : UInt8) (layout : FrameLayout) :
    Frame :=
  if 4 ≤ layout.argCapacity then
    withArgs self self none containerCode
      ⟨[Word.high offset, Word.low offset, count, Storage.eeprom], by simp [maxArgs]⟩
  else
    let f := withArgs self self none containerCode
      ⟨[Word.high offset, Word.low offset, count], by simp [maxArgs]⟩
    { f with status := f.status.setEeprom true }

/-- What the frame relays to, if it is a container with three or four arguments. -/
def relay? (f : Frame) : Option Relay :=
  if f.command ≠ containerCode then none
  else
    match f.args.bytes with
    | [hi, lo, count, selector] => some ⟨Word.ofBytes hi lo, count, selector⟩
    | [hi, lo, count] =>
      some ⟨Word.ofBytes hi lo, count,
        if f.status.readsEeprom then Storage.eeprom else Storage.ram⟩
    | _ => none

end Frame

end EepromImage
