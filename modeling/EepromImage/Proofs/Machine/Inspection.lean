/-
Inspecting an image with the operations of a machine.

An image is a list of groups of one length, and every product of an index below the number of
groups with that length is an address inside the image; that a number of slots can be
multiplied rests on the test against the number of frames.

Where a function has the name of another one, it is equal to it.

* `decodeGroups_eq`, `inferFrom_eq`, `problem?_eq`, `inspectFrames_eq` — the parts of an
  inspection trap nowhere;
* `inspect_eq` — nor does an inspection, whatever the bytes and however many slots are asked
  for;
* `reportFrames_eq` — nor does the cutting of the bytes for the report;
* `reading_never_traps` — an image that nobody vouches for is read, or refused.
-/
import EepromImage.Proofs.Image.Inspection
import EepromImage.Proofs.Machine.Frame
import EepromImage.Proofs.Machine.HexText
import EepromImage.Report.Content

namespace EepromImage.Machine

/-! ### Frames -/

def groups (size : Nat) (bytes : List UInt8) : Checked (List (List UInt8)) :=
  if size = 0 then .error .zeroDivisor else .ok (chunks size bytes)

/-- The frames in groups, the first of which has the index. -/
def decodeGroups (layout : FrameLayout) :
    Nat → List (List UInt8) → Checked (Except ImageError (List Frame))
  | _, [] => return .ok []
  | index, group :: rest => do
    let next ← add index 1
    match ← decode layout group with
    | .error e => return .error (.decode (← mul index layout.size) e)
    | .ok f => return (← decodeGroups layout next rest).map (f :: ·)

def decodeFrames (layout : FrameLayout) (bytes : List UInt8) :
    Checked (Except ImageError (List Frame)) := do
  let trailing ← mod bytes.length layout.size
  if trailing ≠ 0 then
    return .error (.decode (← sub bytes.length trailing) (.wrongLength layout.size trailing))
  else decodeGroups layout 0 (← groups layout.size bytes)

/-! ### The slot zone -/

def inferFrom (size : Nat) : Nat → Nat → List Frame → Checked Nat
  | _, boundary, [] => return boundary
  | index, boundary, f :: rest => do
    let next ← add index 1
    if boundary ≤ index then return boundary
    else
      match ← relay? f with
      | none => inferFrom size next boundary rest
      | some relay =>
        let target ← div relay.offset.toNat size
        inferFrom size next (if index < target then min boundary target else boundary) rest

def slotCount (size : Nat) (slots? : Option Nat) (frames : List Frame) : Checked Nat :=
  match slots? with
  | some n => return n
  | none => inferFrom size 0 frames.length frames

/-- What is wrong with a relay from a slot, with the extended zone given by its ends. -/
def problem? (size zoneStart zoneStop slot : Nat) (relay : Relay) :
    Checked (Option Problem) := do
  let start := relay.offset.toNat
  let stop ← add start (← mul relay.count.toNat size)
  if (← mod start size) ≠ 0 then return some (.unaligned slot start)
  else if start < zoneStart ∨ zoneStop < stop then
    return some (.outside slot start stop zoneStart zoneStop)
  else if relay.count = 0 then return some (.noFrame slot)
  else return none

/-- A frame with what an inspection says about it, and what is wrong with it. -/
def inspectFrame (size slots zoneStart zoneStop index : Nat) (f : Frame) :
    Checked (InspectedFrame × Option Problem) := do
  let zone := Zone.ofIndex slots index
  let relay ← relay? f
  let problem ←
    match zone, relay with
    | .slot, some r => problem? size zoneStart zoneStop index r
    | _, _ => pure none
  return (⟨← mul index size, zone, f, ← describe f, relay⟩, problem)

def inspectFrames (layout : FrameLayout) (slots : Nat) (frames : List Frame) :
    Checked Inspection := do
  let zoneStart ← mul slots layout.size
  let zoneStop ← mul frames.length layout.size
  let inspected ← frames.zipIdx.mapM fun (f, i) =>
    inspectFrame layout.size slots zoneStart zoneStop i f
  return ⟨layout, slots, inspected.map Prod.fst, inspected.filterMap Prod.snd⟩

def inspect (layout : FrameLayout) (slots? : Option Nat) (bytes : List UInt8) :
    Checked (Except ImageError Inspection) := do
  match ← decodeFrames layout bytes with
  | .error e => return .error e
  | .ok frames =>
    let slots ← slotCount layout.size slots? frames
    if frames.length < slots then return .error (.config (.fewerFrames frames.length slots))
    else return .ok (← inspectFrames layout slots frames)

/-- The frames of an inspection with their bytes. -/
def reportFrames (i : Inspection) (bytes : List UInt8) :
    Checked (List (InspectedFrame × List UInt8)) :=
  i.frames.mapM fun f => do
    let stop ← add f.address i.layout.size
    return (f, ← slice bytes f.address stop)

/-! ### Frames of an image -/

section

variable {layout : FrameLayout} {bytes : List UInt8} {frames : List Frame}

/-- The products of the indices with the size are words if that of the number of groups is. -/
theorem decodeGroups_eq (groups : List (List UInt8)) (index : Nat)
    (hword : (index + groups.length) * layout.size < wordBound) :
    decodeGroups layout index groups
      = .ok ((groups.zipIdx index).mapM fun (group, i) => decodeAt layout i group) := by
  -- this group's address and the next one's index are not past the number of groups times the
  -- size
  induction groups generalizing index with
  | nil => rfl
  | cons group rest ih =>
    have hmono : index * layout.size ≤ (index + (group :: rest).length) * layout.size :=
      Nat.mul_le_mul_right _ (Nat.le_add_right _ _)
    have hindex : index + (group :: rest).length
        ≤ (index + (group :: rest).length) * layout.size :=
      Nat.le_mul_of_pos_right _ layout.size_pos
    have hnext : add index 1 = .ok (index + 1) :=
      add_eq (by rw [List.length_cons] at hindex hword; omega)
    have haddress : mul index layout.size = .ok (index * layout.size) := mul_eq (by omega)
    have hrest := ih (index + 1)
      (by rwa [List.length_cons, Nat.add_comm rest.length, ← Nat.add_assoc] at hword)
    rw [decodeGroups, hnext, ok_bind, decode_eq, ok_bind, List.zipIdx_cons, List.mapM_cons]
    cases hgroup : Frame.decode layout group with
    | error e =>
      have hat : decodeAt layout index group = .error (.decode (index * layout.size) e) := by
        rw [decodeAt, hgroup]
      simp only
      rw [haddress, hat]
      rfl
    | ok f =>
      have hat : decodeAt layout index group = .ok f := decodeAt_eq_ok_iff.mpr hgroup
      simp only
      rw [hrest, hat, ok_bind, ok_bind]
      cases (rest.zipIdx (index + 1)).mapM fun (group, i) => decodeAt layout i group <;> rfl

theorem decodeFrames_eq (h : bytes.length ≤ maxObject) :
    decodeFrames layout bytes = .ok (EepromImage.decodeFrames layout bytes) := by
  have hmod : mod bytes.length layout.size = .ok (bytes.length % layout.size) :=
    mod_eq layout.size_pos
  have hsub : sub bytes.length (bytes.length % layout.size)
      = .ok (bytes.length - bytes.length % layout.size) :=
    sub_eq (Nat.mod_le _ _)
  have hgroups : groups layout.size bytes = .ok (chunks layout.size bytes) :=
    if_neg (Nat.pos_iff_ne_zero.mp layout.size_pos)
  unfold decodeFrames EepromImage.decodeFrames
  rw [hmod, ok_bind]
  by_cases htrailing : bytes.length % layout.size = 0
  · have hlength : (chunks layout.size bytes).length * layout.size = bytes.length := by
      rw [length_chunks layout.size_pos (Nat.dvd_of_mod_eq_zero htrailing),
        Nat.div_mul_cancel (Nat.dvd_of_mod_eq_zero htrailing)]
    rw [if_neg (not_not.mpr htrailing), if_neg (not_not.mpr htrailing), hgroups, ok_bind]
    refine decodeGroups_eq _ 0 ?_
    rw [Nat.zero_add, hlength]
    simp only [wordBound, maxObject] at *
    omega
  · rw [if_pos htrailing, if_pos htrailing, hsub]
    rfl

theorem length_mul_size_of_decodeFrames
    (h : EepromImage.decodeFrames layout bytes = .ok frames) :
    frames.length * layout.size = bytes.length := by
  obtain ⟨henc, rfl⟩ := decodeFrames_eq_ok_iff.mp h
  exact (length_flatMap_of_length_eq fun f hf => Frame.length_recordBytes (henc f hf)).symm

/-! ### The slot zone of an image -/

theorem inferFrom_eq {size : Nat} (hsize : 0 < size) (index boundary : Nat)
    (hword : index + frames.length < wordBound) :
    inferFrom size index boundary frames
      = .ok (EepromImage.inferFrom size index boundary frames) := by
  induction frames generalizing index boundary with
  | nil => rfl
  | cons f rest ih =>
    rw [List.length_cons] at hword
    have hnext : add index 1 = .ok (index + 1) := add_eq (by omega)
    have hrest := fun b => ih (index + 1) b (by omega)
    rw [inferFrom, EepromImage.inferFrom, hnext, ok_bind]
    split
    · rfl
    · rw [relay?_eq, ok_bind]
      cases f.relay? with
      | none => exact hrest boundary
      | some relay =>
        simp only
        rw [div_eq hsize, ok_bind]
        exact hrest _

theorem slotCount_eq {size : Nat} (hsize : 0 < size) (slots? : Option Nat)
    (hword : frames.length < wordBound) :
    slotCount size slots? frames = .ok (slots?.getD (inferSlots size frames)) := by
  cases slots? with
  | some n => rfl
  | none => exact inferFrom_eq hsize 0 frames.length (by rwa [Nat.zero_add])

/-- An offset of two bytes and a count of one cannot reach past the words. -/
theorem problem?_eq {size : Nat} (hsize : 0 < size) (hmax : size ≤ maxFrameSize)
    (slots frames slot : Nat) (relay : Relay) :
    problem? size (slots * size) (frames * size) slot relay
      = .ok (EepromImage.problem? size slots frames slot relay) := by
  have hoffset := relay.offset.toNat_lt
  have hcount : relay.count.toNat * size ≤ 255 * maxFrameSize :=
    Nat.mul_le_mul (Nat.le_of_lt_succ relay.count.toNat_lt) hmax
  have hmul : mul relay.count.toNat size = .ok (relay.count.toNat * size) := by
    refine mul_eq ?_
    simp only [maxFrameSize, headerSize, maxArgs, wordBound] at *
    omega
  have hadd : add relay.offset.toNat (relay.count.toNat * size)
      = .ok (relay.spanEnd size) := by
    refine add_eq ?_
    simp only [maxFrameSize, headerSize, maxArgs, wordBound] at *
    omega
  unfold problem? EepromImage.problem?
  simp only
  rw [hmul, ok_bind, hadd, ok_bind, mod_eq hsize, ok_bind]
  split
  · rfl
  · split
    · rfl
    · split <;> rfl

theorem inspectFrame_eq {slots index : Nat} (hindex : index * layout.size < wordBound)
    (count : Nat) (f : Frame) :
    inspectFrame layout.size slots (slots * layout.size) (count * layout.size) index f
      = .ok (EepromImage.inspectFrame layout.size slots index f,
        problemAt? layout.size slots count index f) := by
  unfold inspectFrame EepromImage.inspectFrame problemAt? Zone.ofIndex
  rw [relay?_eq, ok_bind, mul_eq hindex, describe_eq]
  by_cases hslot : index < slots
  · rw [if_pos hslot, if_pos hslot]
    cases f.relay? with
    | none => rfl
    | some relay =>
      simp only
      rw [problem?_eq layout.size_pos layout.size_le_max]
      rfl
  · rw [if_neg hslot, if_neg hslot]
    rfl

theorem inspectFrames_eq {slots : Nat} (hslots : slots ≤ frames.length)
    (hword : frames.length * layout.size < wordBound) :
    inspectFrames layout slots frames
      = .ok (EepromImage.inspectFrames layout slots frames) := by
  have hstart : slots * layout.size ≤ frames.length * layout.size :=
    Nat.mul_le_mul_right _ hslots
  have hinspected : (frames.zipIdx.mapM fun (f, i) =>
        inspectFrame layout.size slots (slots * layout.size)
          (frames.length * layout.size) i f)
      = .ok (frames.zipIdx.map fun (f, i) => (EepromImage.inspectFrame layout.size slots i f,
          problemAt? layout.size slots frames.length i f)) := by
    -- an index below the number of frames has its address below the end of the image
    refine mapM_eq_ok fun x hx => ?_
    have hindex := List.snd_lt_of_mem_zipIdx hx
    have haddress : x.2 * layout.size ≤ frames.length * layout.size :=
      Nat.mul_le_mul_right _ (by omega)
    exact inspectFrame_eq (by omega) frames.length x.1
  unfold inspectFrames
  rw [mul_eq (by omega), ok_bind, mul_eq hword, ok_bind, hinspected, ok_bind]
  unfold EepromImage.inspectFrames
  simp only [List.map_map, List.filterMap_map]
  rfl

/-! ### Inspections -/

/-- However many slots are asked for, they are multiplied only if the image has as many
frames. -/
theorem inspect_eq (slots? : Option Nat) (h : bytes.length ≤ maxObject) :
    inspect layout slots? bytes = .ok (EepromImage.inspect layout slots? bytes) := by
  unfold inspect EepromImage.inspect
  rw [decodeFrames_eq h, ok_bind]
  cases hframes : EepromImage.decodeFrames layout bytes with
  | error e => rfl
  | ok frames =>
    have hbytes := length_mul_size_of_decodeFrames hframes
    have hlength : frames.length ≤ frames.length * layout.size :=
      Nat.le_mul_of_pos_right _ layout.size_pos
    have hword : frames.length * layout.size < wordBound := by
      simp only [wordBound, maxObject] at *
      omega
    simp only
    rw [slotCount_eq layout.size_pos slots? (by omega), ok_bind]
    split
    · rfl
    · rename_i hle
      rw [inspectFrames_eq (Nat.le_of_not_lt hle) hword]
      rfl

/-- The bytes from the address of a frame on are its group. -/
theorem slice_of_decodeFrames (h : bytes.length ≤ maxObject)
    (hframes : EepromImage.decodeFrames layout bytes = .ok frames) {k : Nat}
    (hk : k < frames.length) :
    ∃ group, (chunks layout.size bytes)[k]? = some group ∧
      add (k * layout.size) layout.size = .ok (k * layout.size + layout.size) ∧
      slice bytes (k * layout.size) (k * layout.size + layout.size) = .ok group := by
  have hbytes := length_mul_size_of_decodeFrames hframes
  have hend : (k + 1) * layout.size ≤ frames.length * layout.size := Nat.mul_le_mul_right _ hk
  rw [Nat.succ_mul, hbytes] at hend
  have hpos := layout.size_pos
  refine ⟨(bytes.drop (k * layout.size)).take layout.size, ?_, ?_, ?_⟩
  · rw [getElem?_chunks hpos, if_pos (by omega)]
  · exact add_eq (by simp only [wordBound, maxObject] at *; omega)
  · rw [slice_eq (Nat.le_add_right _ _) hend, Nat.add_sub_cancel_left]

theorem reportFrames_eq {slots? : Option Nat} {i : Inspection} (h : bytes.length ≤ maxObject)
    (hi : EepromImage.inspect layout slots? bytes = .ok i) (upper : Option UInt16) :
    reportFrames i bytes = .ok (Report.Examined.frames ⟨i, bytes, upper⟩) := by
  obtain ⟨frames, hframes, -, rfl⟩ := inspect_eq_ok_iff.mp hi
  generalize slots?.getD (inferSlots layout.size frames) = slots
  have hzip : Report.Examined.frames ⟨EepromImage.inspectFrames layout slots frames,
      bytes, upper⟩
      = (EepromImage.inspectFrames layout slots frames).frames.zip
        (chunks layout.size bytes) := rfl
  rw [reportFrames, mapM_eq_ok_iff, hzip]
  -- frames and groups go together by their numbers, whatever the rest of the inspection says
  apply List.ext_getElem?
  intro k
  rw [List.getElem?_map, List.getElem?_map, List.zip_eq_zipWith, List.getElem?_zipWith,
    Image.getElem?_inspectFrames]
  cases hf : frames[k]? with
  | none => rfl
  | some f =>
    obtain ⟨group, hgroup, hadd, hslice⟩ :=
      slice_of_decodeFrames h hframes (List.getElem?_eq_some_iff.mp hf).choose
    simp only [Option.map_some, hgroup]
    show some (add (k * layout.size) layout.size >>= _) = _
    rw [hadd, ok_bind]
    show some (slice bytes (k * layout.size) _ >>= _) = _
    rw [hslice]
    rfl

end

/-! ### Images that nobody vouches for -/

/-- Whatever the text, the bytes and the number of slots, every step of reading has the result
that it has without bounds on words, indices and cuts: an answer, or an error.  The lengths
are bounded as those of all objects are. -/
theorem reading_never_traps {text : List Char} {image : List UInt8}
    (htext : byteLength text ≤ maxObject) (himage : image.length ≤ maxObject)
    (layout : FrameLayout) (slots? : Option Nat) :
    parse text = .ok (HexFile.parse text) ∧
      (∀ file, HexFile.parse text = .ok file → bytes file = .ok file.bytes) ∧
      (∀ file, extendedAddress? file = .ok file.extendedAddress?) ∧
      inspect layout slots? image = .ok (EepromImage.inspect layout slots? image) ∧
      ∀ i upper, EepromImage.inspect layout slots? image = .ok i →
        reportFrames i image = .ok (Report.Examined.frames ⟨i, image, upper⟩) := by
  refine ⟨parse_eq htext, ?_, extendedAddress?_eq, inspect_eq slots? himage, ?_⟩
  · intro file hfile
    exact bytes_eq (Nat.le_trans (dataLength_le_of_parse hfile) htext)
  · intro i upper hi
    exact reportFrames_eq himage hi upper

def nullFrame : Frame :=
  .withArgs 0 0 none 0 .empty

/-- An image of one frame, as Intel HEX. -/
def nullText : List Char :=
  ":0b0000000000ff0000000000000000f6\n".toList

/-- The file has the one record, and the largest number of slots is refused before any
product. -/
theorem reading_never_traps_nullText :
    byteLength nullText ≤ maxObject ∧ (nullFrame.recordBytes .standard).length ≤ maxObject ∧
      HexFile.parse nullText = .ok ⟨[.ofData 0 (nullFrame.recordBytes .standard)]⟩ ∧
      bytes ⟨[.ofData 0 (nullFrame.recordBytes .standard)]⟩
        = .ok (HexFile.bytes ⟨[.ofData 0 (nullFrame.recordBytes .standard)]⟩) ∧
      inspect .standard (some (wordBound - 1)) (nullFrame.recordBytes .standard)
        = .ok (.error (.config (.fewerFrames 1 (wordBound - 1)))) ∧
      ∃ i, EepromImage.inspect .standard none (nullFrame.recordBytes .standard) = .ok i ∧
        reportFrames i (nullFrame.recordBytes .standard)
          = .ok (Report.Examined.frames ⟨i, nullFrame.recordBytes .standard, none⟩) := by
  have htext : byteLength nullText ≤ maxObject := by decide
  have himage : (nullFrame.recordBytes .standard).length ≤ maxObject := by decide
  have hparse : HexFile.parse nullText
      = .ok ⟨[.ofData 0 (nullFrame.recordBytes .standard)]⟩ := by rfl
  have hframes : EepromImage.decodeFrames .standard (nullFrame.recordBytes .standard)
      = .ok [nullFrame] := by
    refine decodeFrames_eq_ok_iff.mpr ⟨fun f hf => ?_, by rfl⟩
    rw [List.mem_singleton.mp hf]
    exact Frame.encodingFault?_eq_none_iff.mp (by decide)
  have hrefused : EepromImage.inspect .standard (some (wordBound - 1))
      (nullFrame.recordBytes .standard)
      = .error (.config (.fewerFrames 1 (wordBound - 1))) := by
    rw [EepromImage.inspect, hframes]
    rfl
  have hinspected : EepromImage.inspect .standard none (nullFrame.recordBytes .standard)
      = .ok (EepromImage.inspectFrames .standard 1 [nullFrame]) := by
    rw [EepromImage.inspect, hframes]
    rfl
  obtain ⟨-, hbytes, -, hhuge, -⟩ :=
    reading_never_traps htext himage .standard (some (wordBound - 1))
  obtain ⟨-, -, -, -, hreport⟩ := reading_never_traps htext himage .standard none
  rw [hrefused] at hhuge
  exact ⟨htext, himage, hparse, hbytes _ hparse, hhuge, _, hinspected,
    hreport _ none hinspected⟩

end EepromImage.Machine
