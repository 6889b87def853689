/-
Table documents, and the slot tables that they mean.

A document is a slot table as its author writes it.  It may leave out what the module's own
address or a slot's position says, name commands by keyword, and write arguments as negative
numbers.

* **CommandRef.resolve**, **argBytes** — the code and the argument bytes that are meant;
* **FrameDecl.build** — the frame that a declaration means;
* **TableDocument.table** — the slot table that a document means, or its first fault: slots in
  order; the index of a slot before its frames; in a frame the command, the first argument out
  of range, the length, the number of arguments; the frame size last.
-/
import EepromImage.Table.Basic

namespace EepromImage

/-! ### Declarations -/

/-- A command, by its code or by a word of the catalog. -/
inductive CommandRef
  | code (code : UInt8)
  | word (word : String)
deriving DecidableEq, Repr

/-- The declaration of a frame. -/
structure FrameDecl where
  /-- The module's own address if missing. -/
  dest : Option UInt8 := none
  /-- The module's own address if missing. -/
  orig : Option UInt8 := none
  transaction : Option UInt8 := none
  command : CommandRef
  /-- Bytes, or numbers down to -128 that stand for bytes in two's complement. -/
  args : List Int := []
  isError : Bool := false
  isResponse : Bool := false
  /-- The number of arguments, to be checked. -/
  length : Option UInt8 := none
deriving DecidableEq, Repr

/-- The declaration of a slot. -/
structure SlotDecl where
  name : Option String := none
  /-- The position of the slot, to be checked. -/
  index : Option Nat := none
  frames : List FrameDecl := []
deriving DecidableEq, Repr

/-- A slot table as it is written, with the settings for its artifacts. -/
structure TableDocument where
  image : ImageConfig
  listing : ListingOptions := {}
  hex : HexOptions := {}
  slots : List SlotDecl := []
deriving DecidableEq, Repr

/-! ### What is meant -/

/-- The code that is meant. -/
def CommandRef.resolve : CommandRef → Except FrameFault UInt8
  | .code c => .ok c
  | .word w =>
    match Command.ofKeyword? w with
    | some command => .ok command.code
    | none => .error (.unknownCommand w)

/-- The byte that a declared argument stands for. -/
def argByte? (z : Int) : Option UInt8 :=
  if -128 ≤ z ∧ z ≤ 255 then some (UInt8.ofInt z) else none

/-- The bytes that declared arguments stand for, up to the first argument that stands for
none. -/
def argBytes : List Int → Except FrameFault (List UInt8)
  | [] => .ok []
  | z :: rest =>
    match argByte? z with
    | none => .error (.argument z)
    | some b => (argBytes rest).map (b :: ·)

namespace FrameDecl

/-- The status of a declared frame with so many arguments. -/
def status (d : FrameDecl) (count : Nat) : Status :=
  ((Status.ofLength (UInt8.ofNat count)).setError d.isError).setResponse d.isResponse

/-- The declared length, if it is not the number of arguments. -/
def wrongLength? (d : FrameDecl) : Option UInt8 :=
  d.length.filter fun n => n.toNat ≠ d.args.length

/-- The frame with this code and these arguments; missing addresses are the module's own. -/
def assemble (d : FrameDecl) (selfAddr code : UInt8) (bytes : List UInt8) :
    Except FrameError Frame :=
  match d.wrongLength? with
  | some n => .error (.lengthMismatch n.toNat d.args.length)
  | none =>
    Frame.ofParts (d.dest.getD selfAddr) (d.orig.getD selfAddr) d.transaction code
      (d.status bytes.length) bytes

/-- The frame that a declaration means, at its place in the table. -/
def build (selfAddr : UInt8) (slot index : Nat) (d : FrameDecl) :
    Except ImageError Frame := do
  let code ← d.command.resolve.mapError (.invalidFrame slot index)
  let bytes ← (argBytes d.args).mapError (.invalidFrame slot index)
  (d.assemble selfAddr code bytes).mapError (.encoding slot index)

end FrameDecl

namespace SlotDecl

/-- The declared index, if it is not the position of the slot. -/
def wrongIndex? (d : SlotDecl) (slot : Nat) : Option Nat :=
  d.index.filter (· ≠ slot)

/-- The slot that a declaration means, at its position. -/
def build (selfAddr : UInt8) (slot : Nat) (d : SlotDecl) : Except ImageError Slot :=
  match d.wrongIndex? slot with
  | some n => .error (.slotIndex slot n)
  | none => do
    let frames ← d.frames.zipIdx.mapM fun (f, i) => f.build selfAddr slot i
    return ⟨d.name, frames⟩

end SlotDecl

namespace TableDocument

/-- The slot table that a document means. -/
def table (d : TableDocument) : Except ImageError SlotTable := do
  let slots ← d.slots.zipIdx.mapM fun (s, i) => s.build d.image.selfAddr i
  SlotTable.create d.image slots

end TableDocument

end EepromImage
