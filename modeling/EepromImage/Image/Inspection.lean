/-
Reading an image back.

* **inferSlots** — where the slot zone ends, when nobody says: the least frame that a
  container in front of it relays to;
* **problem?** — what is wrong with a container of the slot zone;
* **inspect** — the frames of the image with their zones, and the problems of its containers.
-/
import EepromImage.Image.Allocation

namespace EepromImage

/-! ### Frames of an image -/

/-- Bytes in groups of `n`, the last one as long as what is left. -/
def chunks (n : Nat) (bytes : List UInt8) : List (List UInt8) :=
  if _h : n = 0 ∨ bytes = [] then []
  else bytes.take n :: chunks n (bytes.drop n)
termination_by bytes.length
decreasing_by
  have : bytes.length ≠ 0 := fun hl => _h (.inr (List.length_eq_zero_iff.mp hl))
  simp only [List.length_drop]
  omega

/-- The frame in a group of bytes. -/
def decodeAt (layout : FrameLayout) (index : Nat) (bytes : List UInt8) :
    Except ImageError Frame :=
  match Frame.decode layout bytes with
  | .ok f => .ok f
  | .error e => .error (.decode (index * layout.size) e)

/-- The frames of an image; the first group that is no frame is refused. -/
def decodeFrames (layout : FrameLayout) (bytes : List UInt8) :
    Except ImageError (List Frame) :=
  let trailing := bytes.length % layout.size
  if trailing ≠ 0 then
    .error (.decode (bytes.length - trailing) (.wrongLength layout.size trailing))
  else (chunks layout.size bytes).zipIdx.mapM fun (group, i) => decodeAt layout i group

/-! ### The end of the slot zone -/

/-- The boundary after the frames from `index` on: each container in front of the boundary
that relays forward pulls it down to its target. -/
def inferFrom (size : Nat) : Nat → Nat → List Frame → Nat
  | _, boundary, [] => boundary
  | index, boundary, f :: rest =>
    if boundary ≤ index then boundary
    else
      match f.relay? with
      | none => inferFrom size (index + 1) boundary rest
      | some relay =>
        let target := relay.offset.toNat / size
        inferFrom size (index + 1)
          (if index < target then min boundary target else boundary) rest

/-- The number of slots that the containers give away. -/
def inferSlots (size : Nat) (frames : List Frame) : Nat :=
  inferFrom size 0 frames.length frames

/-! ### Problems -/

/-- What is wrong with the container in a slot. -/
inductive Problem
  /-- The sequence starts inside a frame. -/
  | unaligned (slot offset : Nat)
  /-- The sequence is not inside the extended zone. -/
  | outside (slot start stop zoneStart zoneStop : Nat)
  /-- The sequence has no frame. -/
  | noFrame (slot : Nat)
deriving DecidableEq, Repr

namespace Problem

def message : Problem → String
  | .unaligned slot offset =>
    "slot " ++ Numeral.decimal slot ++ ": container offset " ++ Numeral.marked 4 offset
      ++ " is not frame-aligned"
  | .outside slot start stop zoneStart zoneStop =>
    "slot " ++ Numeral.decimal slot ++ ": container relays "
      ++ Numeral.marked 4 start ++ ".." ++ Numeral.marked 4 stop
      ++ ", outside extended zone "
      ++ Numeral.marked 4 zoneStart ++ ".." ++ Numeral.marked 4 zoneStop
  | .noFrame slot => "slot " ++ Numeral.decimal slot ++ ": container relays no frame"

/-- The slot whose container has the problem. -/
def slot : Problem → Nat
  | .unaligned slot _ => slot
  | .outside slot .. => slot
  | .noFrame slot => slot

end Problem

/-- What is wrong with a relay from a slot of an image with so many slots and frames. -/
def problem? (size slots frames slot : Nat) (relay : Relay) : Option Problem :=
  let start := relay.offset.toNat
  let stop := relay.spanEnd size
  if start % size ≠ 0 then some (.unaligned slot start)
  else if start < slots * size ∨ frames * size < stop then
    some (.outside slot start stop (slots * size) (frames * size))
  else if relay.count = 0 then some (.noFrame slot)
  else none

/-- What is wrong with the frame at an index; only containers in the slot zone are checked. -/
def problemAt? (size slots frames index : Nat) (f : Frame) : Option Problem :=
  if index < slots then f.relay?.bind (problem? size slots frames index) else none

/-! ### Inspections -/

/-- A frame of an inspected image. -/
structure InspectedFrame where
  address : Nat
  zone : Zone
  frame : Frame
  description : String
  relay : Option Relay
deriving DecidableEq, Repr

/-- What reading an image back gives. -/
structure Inspection where
  layout : FrameLayout
  slotCount : Nat
  frames : List InspectedFrame
  /-- The containers of the slot zone that lead nowhere. -/
  problems : List Problem
deriving DecidableEq, Repr

def Inspection.isConsistent (i : Inspection) : Bool :=
  i.problems.isEmpty

/-- A frame with what an inspection says about it. -/
def inspectFrame (size slots index : Nat) (f : Frame) : InspectedFrame :=
  ⟨index * size, Zone.ofIndex slots index, f, f.describe, f.relay?⟩

/-- The inspection of frames with the slot zone's end given. -/
def inspectFrames (layout : FrameLayout) (slots : Nat) (frames : List Frame) : Inspection :=
  let total := frames.length
  { layout
    slotCount := slots
    frames := frames.zipIdx.map fun (f, i) => inspectFrame layout.size slots i f
    problems := frames.zipIdx.filterMap fun (f, i) => problemAt? layout.size slots total i f }

/-- Reads an image back; without a number of slots, the containers tell it. -/
def inspect (layout : FrameLayout) (slots? : Option Nat) (bytes : List UInt8) :
    Except ImageError Inspection :=
  match decodeFrames layout bytes with
  | .error e => .error e
  | .ok frames =>
    let slots := slots?.getD (inferSlots layout.size frames)
    if frames.length < slots then .error (.config (.fewerFrames frames.length slots))
    else .ok (inspectFrames layout slots frames)

end EepromImage
