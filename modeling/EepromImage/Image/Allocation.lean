/-
Laid-out EEPROM images, and how a slot table is laid out.

An image is records of one size, one behind the other.  The slot zone holds one record per
slot; the extended zone behind it holds the sequences of the slots with more than one frame.
Offsets are given in one pass over the slots, from the end of the slot zone on: a slot with
one frame keeps it in the slot zone, any other slot gets a container there and its sequence at
the running offset.

* **Image.bytes** — the content of the EEPROM;
* **Image.recordAt?** — the record that starts at an address;
* **SlotTable.relocations** — where each sequence goes;
* **SlotTable.allocate** — the image, or why there is none: the first fault of the table, then
  its size, then the checks on the finished image, which no table that got so far fails.
-/
import EepromImage.Table.Basic

namespace EepromImage

/-! ### Images -/

/-- The part of the image that a record lies in. -/
inductive Zone
  | slot
  | extended
deriving DecidableEq, Repr

def Zone.name : Zone → String
  | .slot => "slot"
  | .extended => "extended"

/-- The zone of the record with this index. -/
def Zone.ofIndex (slots index : Nat) : Zone :=
  if index < slots then .slot else .extended

/-- A frame at its final address. -/
structure Record where
  /-- Byte address in EEPROM. -/
  address : Nat
  zone : Zone
  /-- The slot that the frame was declared in, or that the container stands for. -/
  slot : Nat
  frame : Frame
  /-- The encoded frame. -/
  bytes : List UInt8
deriving DecidableEq, Repr

/-- A laid-out image. -/
structure Image where
  name : String
  slotCount : Nat
  layout : FrameLayout
  slotNames : List (Option String)
  records : List Record
deriving DecidableEq, Repr

namespace Image

/-- Number of records. -/
def length (image : Image) : Nat := image.records.length

/-- Size in bytes. -/
def byteLength (image : Image) : Nat := image.records.length * image.layout.size

/-- The label of a slot, if it has one. -/
def slotName? (image : Image) (slot : Nat) : Option String :=
  image.slotNames[slot]?.join

/-- The records behind the slot zone. -/
def extended (image : Image) : List Record :=
  image.records.drop image.slotCount

/-- The content of the EEPROM. -/
def bytes (image : Image) : List UInt8 :=
  image.records.flatMap Record.bytes

/-- The record that starts at an address. -/
def recordAt? (image : Image) (address : Nat) : Option Record :=
  if address % image.layout.size ≠ 0 then none
  else image.records[address / image.layout.size]?

end Image

/-! ### Places -/

/-- Container offsets have 16 bits. -/
def addressSpace : Nat := 65536

/-- A sequence in the extended zone. -/
structure Relocation where
  slot : Nat
  /-- Byte address of its first frame. -/
  offset : Nat
  /-- Number of its frames. -/
  count : Nat
deriving DecidableEq, Repr

/-- A frame on its way into the image. -/
structure Placement where
  zone : Zone
  slot : Nat
  /-- Position among the frames of the slot. -/
  index : Nat
  frame : Frame
deriving DecidableEq, Repr

/-! ### Sequences -/

/-- The sequences of the slots from number `slot` on, the first of them at `offset`. -/
def relocationsFrom (size : Nat) : Nat → Nat → List Slot → List Relocation
  | _, _, [] => []
  | slot, offset, s :: rest =>
    match s.frames with
    | [_] => relocationsFrom size (slot + 1) offset rest
    | frames =>
      ⟨slot, offset, frames.length⟩
        :: relocationsFrom size (slot + 1) (offset + frames.length * size) rest

/-- The frames that stand in the slot zone for the slots from number `slot` on. -/
def slotFramesFrom (self : UInt8) (layout : FrameLayout) :
    Nat → Nat → List Slot → Except ImageError (List Frame)
  | _, _, [] => .ok []
  | slot, offset, s :: rest =>
    match s.frames with
    | [f] => do
      let frames ← slotFramesFrom self layout (slot + 1) offset rest
      return f :: frames
    | sequence =>
      if addressSpace ≤ offset then .error (.internal (.offsetTooLarge offset))
      else if maxSlotFrames < sequence.length then .error (.slotTooLong slot sequence.length)
      else do
        let frames ← slotFramesFrom self layout (slot + 1)
          (offset + sequence.length * layout.size) rest
        return Frame.container self (UInt16.ofNat offset) (UInt8.ofNat sequence.length) layout
          :: frames

/-- The frames of a slot that go into the extended zone. -/
def Slot.sequence (s : Slot) : List Frame :=
  match s.frames with
  | [_] => []
  | frames => frames

namespace SlotTable

/-- The number of frames in the extended zone. -/
def relocatedFrames (t : SlotTable) : Nat :=
  ((t.slots.filter Slot.isRelocated).flatMap Slot.frames).length

/-- Size of the image in bytes. -/
def imageSize (t : SlotTable) : Nat :=
  (t.config.slotCount + t.relocatedFrames) * t.layout.size

/-- The most bytes that the image may have. -/
def sizeLimit (t : SlotTable) : Nat :=
  match t.config.eepromSize with
  | some size => min size addressSpace
  | none => addressSpace

/-- Every sequence in the extended zone, in slot order. -/
def relocations (t : SlotTable) : List Relocation :=
  relocationsFrom t.layout.size 0 (t.config.slotCount * t.layout.size) t.slots

/-- The frames of the slot zone, in slot order. -/
def slotFrames (t : SlotTable) : Except ImageError (List Frame) :=
  slotFramesFrom t.config.selfAddr t.layout 0 (t.config.slotCount * t.layout.size) t.slots

/-- The frames of the extended zone, in slot order. -/
def sequencePlacements (t : SlotTable) : List Placement :=
  t.slots.zipIdx.flatMap fun (s, i) =>
    s.sequence.zipIdx.map fun (f, j) => ⟨.extended, i, j, f⟩

end SlotTable

/-! ### Records -/

/-- The record of a frame at a position of the image. -/
def Placement.record (layout : FrameLayout) (index : Nat) (p : Placement) :
    Except ImageError Record :=
  match p.frame.encode layout with
  | .ok bytes => .ok ⟨index * layout.size, p.zone, p.slot, p.frame, bytes⟩
  | .error e => .error (.encoding p.slot p.index e)

/-- The records of frames one behind the other. -/
def recordsOf (layout : FrameLayout) (placements : List Placement) :
    Except ImageError (List Record) :=
  placements.zipIdx.mapM fun (p, i) => p.record layout i

/-! ### Checks on the finished image -/

namespace Image

/-- The container in the slot's place relays to the sequence. -/
def relaysTo (image : Image) (r : Relocation) : Bool :=
  match image.records[r.slot]?.bind fun record => record.frame.relay? with
  | some relay =>
    relay.offset.toNat = r.offset && relay.count.toNat = r.count && relay.fromEeprom
  | none => false

/-- The sequence lies where the container says. -/
def holdsSequence (image : Image) (r : Relocation) : Bool :=
  let sequence := (image.records.drop (r.offset / image.layout.size)).take r.count
  sequence.length = r.count
    && sequence.all (fun record => record.slot = r.slot && record.zone = .extended)
    && sequence.head?.map Record.address = some r.offset

/-- Refuses an image with a container that does not lead to its sequence. -/
def verify (image : Image) : List Relocation → Except ImageError Unit
  | [] => .ok ()
  | r :: rest =>
    if !image.relaysTo r then .error (.internal (.relayMismatch r.slot r.offset r.count))
    else if !image.holdsSequence r then .error (.internal (.sequenceMissing r.slot r.offset))
    else image.verify rest

end Image

/-! ### Allocation -/

/-- The image of a slot table. -/
def SlotTable.allocate (t : SlotTable) : Except ImageError Image := do
  t.validate
  if t.sizeLimit < t.imageSize then throw (.capacity t.imageSize t.sizeLimit)
  let frames ← t.slotFrames
  let heads : List Placement := frames.zipIdx.map fun (f, i) => ⟨.slot, i, 0, f⟩
  let records ← recordsOf t.layout (heads ++ t.sequencePlacements)
  let image : Image :=
    ⟨t.config.name, t.config.slotCount, t.layout, t.slots.map Slot.name, records⟩
  image.verify t.relocations
  return image

end EepromImage
