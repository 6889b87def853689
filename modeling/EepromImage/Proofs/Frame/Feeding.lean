/-
Frames fed one after another to a growing buffer.

Nothing takes back what a writer put into the buffer in front of a refusal, so what a refused
frame leaves behind depends on where the checks stand.

* `write_of_fault`, `write_of_isEncodable` — they stand in front of the first byte: a refused
  frame writes nothing, and any other writes its record;
* `feedAll_eq` — a run appends the records of the frames that were taken, in order;
* `feedAll_lossless` — what a run appended is read back, group by group, as these frames.
-/
import EepromImage.Proofs.Frame.RoundTrip
import EepromImage.Proofs.Image.Chunks

namespace EepromImage
namespace Frame

variable {layout : FrameLayout} {f : Frame} {buffer : List UInt8} {frames : List Frame}

/-! ### One frame -/

theorem write_of_fault {e : FrameError} (h : f.encodingFault? layout = some e) :
    (f.write layout).run.run buffer = (.error e, buffer) := by
  rw [write, h]
  rfl

theorem write_of_isEncodable (h : f.IsEncodable layout) :
    (f.write layout).run.run buffer = (.ok (), buffer ++ f.recordBytes layout) := by
  -- seven writes, each behind the ones in front of it
  have hsteps : (f.write layout).run.run buffer
      = (.ok (), buffer ++ [f.dest] ++ [f.orig] ++ [f.transactionByte] ++ [f.command]
        ++ [f.status.bits] ++ f.args.bytes
        ++ List.replicate (layout.argCapacity - f.args.length) 0) := by
    rw [write, encodingFault?_eq_none_iff.mpr h]
    rfl
  rw [hsteps, recordBytes, header, argField]
  simp

theorem feed_of_encode_error {e : FrameError} (h : f.encode layout = .error e) :
    f.feed layout buffer = (buffer, some e) := by
  rw [feed, write_of_fault (encode_eq_error_iff.mp h)]

theorem feed_of_isEncodable (h : f.IsEncodable layout) :
    f.feed layout buffer = (buffer ++ f.recordBytes layout, none) := by
  rw [feed, write_of_isEncodable h]

/-- A frame is refused or has a record. -/
theorem isEncodable_or (layout : FrameLayout) (f : Frame) :
    f.IsEncodable layout ∨ ∃ e, f.encode layout = .error e := by
  cases hencode : f.encode layout with
  | ok bytes => exact .inl (encode_eq_ok_iff.mp hencode).1
  | error e => exact .inr ⟨e, rfl⟩

/-! ### Runs -/

/-- The frames that the buffer takes, each offered to what those in front of it left. -/
def accepted (layout : FrameLayout) : List UInt8 → List Frame → List Frame
  | _, [] => []
  | buffer, f :: rest =>
    let step := f.feed layout buffer
    (if step.2.isNone then [f] else []) ++ accepted layout step.1 rest

theorem accepted_cons_of_error {e : FrameError} (h : f.encode layout = .error e) :
    accepted layout buffer (f :: frames) = accepted layout buffer frames := by
  simp [accepted, feed_of_encode_error h]

theorem accepted_cons_of_isEncodable (h : f.IsEncodable layout) :
    accepted layout buffer (f :: frames)
      = f :: accepted layout (buffer ++ f.recordBytes layout) frames := by
  simp [accepted, feed_of_isEncodable h]

theorem isEncodable_of_mem_accepted :
    ∀ f ∈ accepted layout buffer frames, f.IsEncodable layout := by
  induction frames generalizing buffer with
  | nil => simp [accepted]
  | cons g rest ih =>
    rcases isEncodable_or layout g with henc | ⟨e, he⟩
    · intro f hf
      rw [accepted_cons_of_isEncodable henc] at hf
      rcases List.mem_cons.mp hf with rfl | hf
      · exact henc
      · exact ih f hf
    · rw [accepted_cons_of_error he]
      exact ih

/-- A run leaves what was in the buffer and appends the records of the frames that were
taken. -/
theorem feedAll_eq : feedAll layout buffer frames
    = buffer ++ (accepted layout buffer frames).flatMap (recordBytes layout) := by
  induction frames generalizing buffer with
  | nil => simp [feedAll, accepted]
  | cons f rest ih =>
    have hstep : feedAll layout buffer (f :: rest)
        = feedAll layout (f.feed layout buffer).1 rest := rfl
    rcases isEncodable_or layout f with henc | ⟨e, he⟩
    · rw [hstep, feed_of_isEncodable henc, ih, accepted_cons_of_isEncodable henc,
        List.flatMap_cons, List.append_assoc]
    · rw [hstep, feed_of_encode_error he, ih, accepted_cons_of_error he]

/-- Feeding is atomic and loses nothing: a refused frame leaves every buffer as it was, any
other appends one record to it, and the records that a run appended are read back as the
frames that were taken. -/
theorem feedAll_lossless (layout : FrameLayout) (buffer : List UInt8) (frames : List Frame) :
    (∀ (b : List UInt8) (f : Frame),
      (∃ e, f.encode layout = .error e ∧ f.feed layout b = (b, some e)) ∨
      ∃ bytes, f.encode layout = .ok bytes ∧ f.feed layout b = (b ++ bytes, none) ∧
        bytes.length = layout.size) ∧
    ∃ blocks, (accepted layout buffer frames).mapM (encode layout) = .ok blocks ∧
      feedAll layout buffer frames = buffer ++ blocks.flatten ∧
      (chunks layout.size ((feedAll layout buffer frames).drop buffer.length)).mapM
        (decode layout)
        = .ok (accepted layout buffer frames) := by
  have hall : ∀ f ∈ accepted layout buffer frames, f.IsEncodable layout :=
    isEncodable_of_mem_accepted
  constructor
  · intro b f
    rcases isEncodable_or layout f with henc | ⟨e, he⟩
    · exact .inr ⟨f.recordBytes layout, encode_of_isEncodable henc, feed_of_isEncodable henc,
        length_recordBytes henc⟩
    · exact .inl ⟨e, he, feed_of_encode_error he⟩
  · refine ⟨(accepted layout buffer frames).map (recordBytes layout), ?_, ?_, ?_⟩
    · exact mapM_eq_ok fun f hf => encode_of_isEncodable (hall f hf)
    · rw [feedAll_eq, List.flatMap_def]
    · rw [feedAll_eq, List.drop_left,
        chunks_flatMap layout.size_pos fun f hf => length_recordBytes (hall f hf),
        mapM_eq_ok_iff, List.map_map]
      exact List.map_congr_left fun f hf => decode_recordBytes (hall f hf)

/-- Between two frames that are taken, one with the reserved transaction leaves no byte
behind. -/
example : feedAll ⟨8, by decide, by decide⟩ [0xaa]
    [withArgs 1 2 none 3 ⟨[4], by decide⟩, withArgs 1 2 (some 0xff) 3 .empty,
      withArgs 5 6 (some 7) 8 .empty]
      = [0xaa, 1, 2, 0xff, 3, 1, 4, 0, 0, 5, 6, 7, 8, 0, 0, 0, 0] := by decide

end Frame
end EepromImage
