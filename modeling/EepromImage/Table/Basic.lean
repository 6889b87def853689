/-
Slot tables, and the checks on them before they are laid out.

A slot table has the event slots of a module in order, and says beside them what its image is
like: geometry, names in the listing, Intel HEX options.

* **SlotTable.findings** — everything noteworthy, in table order: slots in order; in a slot
  its frames in order; in a frame the number of arguments before the encoding;
* **SlotTable.validate** — the first fault among the findings, if there is one;
* **SlotTable.notices** — the frames with unknown codes in front of the first fault.
-/
import EepromImage.Image.Error

namespace EepromImage

/-! ### Settings -/

/-- Geometry and addressing of a module's EEPROM image. -/
structure ImageConfig where
  /-- Module name, printed in listings. -/
  name : String := "eeprom"
  /-- Declared number of slots. -/
  slotCount : Nat := 0
  frameSize : Nat := defaultFrameSize
  /-- Bus address of the module, for containers and for frames without addresses. -/
  selfAddr : UInt8 := 0
  /-- Size of the EEPROM in bytes, if it is known. -/
  eepromSize : Option Nat := none
deriving DecidableEq, Repr

/-- Names in the generated C listing. -/
structure ListingOptions where
  /-- Header that declares the frame struct. -/
  header : String := "dispatcher.h"
  structName : String := "scalp"
  arrayName : String := "eeprom_scalps"
  /-- Linker section for EEPROM content. -/
  sectionName : String := ".eeprom"
deriving DecidableEq, Repr

/-- Options of Intel HEX output. -/
structure HexOptions where
  /-- Address of the EEPROM in the programmer's address space; only its upper half is
  written. -/
  baseAddress : UInt32 := 0x00810000
  /-- Whether the file ends with an end-of-file record. -/
  eofRecord : Bool := false
deriving DecidableEq, Repr

/-- The upper half of the base address. -/
def HexOptions.extendedAddress (options : HexOptions) : UInt16 :=
  UInt16.ofNat (options.baseAddress.toNat / 65536)

/-! ### Slots -/

/-- An event slot: the frames dispatched when its event fires. -/
structure Slot where
  name : Option String
  frames : List Frame
deriving DecidableEq, Repr

/-- Whether the slot needs a container: only a single frame stands in the slot zone itself. -/
def Slot.isRelocated (s : Slot) : Bool :=
  1 < s.frames.length

/-- The slots of a module.  The frame size is in range, by the layout. -/
structure SlotTable where
  config : ImageConfig
  layout : FrameLayout
  slots : List Slot
  layout_size : layout.size = config.frameSize
deriving DecidableEq, Repr

namespace SlotTable

theorem size_of_ofSize {size : Nat} {layout : FrameLayout}
    (h : FrameLayout.ofSize size = .ok layout) :
    layout.size = size := by
  unfold FrameLayout.ofSize at h
  split at h
  · cases h; rfl
  · cases h

/-- The slots with their configuration; only the frame size is checked. -/
def create (config : ImageConfig) (slots : List Slot) : Except ImageError SlotTable :=
  match h : FrameLayout.ofSize config.frameSize with
  | .ok layout => .ok ⟨config, layout, slots, size_of_ofSize h⟩
  | .error e => .error (.config (.frameSize e))

end SlotTable

/-! ### Checks -/

/-- A frame whose code is not in the catalog, so that its number of arguments was not
checked. -/
structure UnknownCode where
  slot : Nat
  frame : Nat
  code : UInt8
deriving DecidableEq, Repr

/-- Something noteworthy about a table. -/
inductive Finding
  | notice (unknown : UnknownCode)
  | fault (error : ImageError)
deriving DecidableEq, Repr

def Finding.fault? : Finding → Option ImageError
  | .notice _ => none
  | .fault e => some e

def Finding.notice? : Finding → Option UnknownCode
  | .notice u => some u
  | .fault _ => none

/-- The most frames that a container can count. -/
def maxSlotFrames : Nat := 255

/-- What the catalog has against a frame. -/
def arityFindings (slot index : Nat) (f : Frame) : List Finding :=
  match checkArity f.command f.args.length with
  | .accepted => []
  | .unknown => [.notice ⟨slot, index, f.command⟩]
  | .mismatch command count => [.fault (.invalidFrame slot index (.arity command count))]

/-- What the layout has against a frame. -/
def encodingFindings (layout : FrameLayout) (slot index : Nat) (f : Frame) : List Finding :=
  match f.encodingFault? layout with
  | none => []
  | some e => [.fault (.encoding slot index e)]

def frameFindings (layout : FrameLayout) (slot index : Nat) (f : Frame) : List Finding :=
  arityFindings slot index f ++ encodingFindings layout slot index f

def slotFindings (layout : FrameLayout) (index : Nat) (s : Slot) : List Finding :=
  if s.frames.isEmpty then [.fault (.emptySlot index)]
  else if maxSlotFrames < s.frames.length then [.fault (.slotTooLong index s.frames.length)]
  else s.frames.zipIdx.flatMap fun (f, j) => frameFindings layout index j f

namespace SlotTable

/-- Everything noteworthy about the table, in order. -/
def findings (t : SlotTable) : List Finding :=
  if t.slots.length ≠ t.config.slotCount then
    [.fault (.slotCount t.config.slotCount t.slots.length)]
  else t.slots.zipIdx.flatMap fun (s, i) => slotFindings t.layout i s

/-- The first fault of the table. -/
def firstFault? (t : SlotTable) : Option ImageError :=
  t.findings.findSome? Finding.fault?

/-- Refuses a table with a fault, for its first one. -/
def validate (t : SlotTable) : Except ImageError Unit :=
  match t.firstFault? with
  | some e => .error e
  | none => .ok ()

/-- The frames with unknown codes that are met before the first fault. -/
def notices (t : SlotTable) : List UnknownCode :=
  (t.findings.takeWhile fun f => f.fault?.isNone).filterMap Finding.notice?

end SlotTable

end EepromImage
