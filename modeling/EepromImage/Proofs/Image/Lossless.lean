/-
What an inspection says about bytes that no compiler made.

* `exists_frameAt_iff` — the groups of the bytes are what stands at the multiples of the frame
  size;
* `restores_inspectFrames` — the frames of an inspection, written again, are the bytes;
* `inspect_lossless` — bytes are inspected exactly if they are frames and hold the slots that
  were asked for, and any others are refused for the first thing that is wrong with them.
-/
import EepromImage.Proofs.Image.Boundary
import EepromImage.Proofs.Image.Records

namespace EepromImage

variable {layout : FrameLayout} {bytes : List UInt8}

/-! ### Groups by their address -/

theorem getElem?_chunks_of_lt (h : layout.size ∣ bytes.length) {k : Nat}
    (hk : k < bytes.length / layout.size) :
    (chunks layout.size bytes)[k]?
      = some ((bytes.drop (k * layout.size)).take layout.size) := by
  rw [Nat.lt_div_iff_mul_lt_of_dvd (Nat.ne_of_gt layout.size_pos) h] at hk
  rw [getElem?_chunks layout.size_pos, if_pos hk]

theorem exists_frameAt_iff (h : layout.size ∣ bytes.length) :
    (∀ group ∈ chunks layout.size bytes, ∃ f, Frame.decode layout group = .ok f) ↔
      ∀ k < bytes.length / layout.size, ∃ f, frameAt layout bytes (k * layout.size)
        = .ok f := by
  constructor
  · intro hall k hk
    exact hall _ (List.mem_of_getElem? (getElem?_chunks_of_lt h hk))
  · intro hall group hgroup
    obtain ⟨k, hk⟩ := List.mem_iff_getElem?.mp hgroup
    have hlt : k < bytes.length / layout.size := by
      rw [← length_chunks layout.size_pos h]
      exact (List.getElem?_eq_some_iff.mp hk).choose
    rw [getElem?_chunks_of_lt h hlt, Option.some_inj] at hk
    exact hk ▸ hall k hlt

/-! ### What an inspection keeps -/

/-- The inspection has everything that the bytes have. -/
structure Inspection.Restores (i : Inspection) (layout : FrameLayout) (bytes : List UInt8) :
    Prop where
  /-- Its frames, written one behind the other, are the bytes. -/
  encode_frames : ∃ blocks, (i.frames.map InspectedFrame.frame).mapM (Frame.encode layout)
    = .ok blocks ∧
    blocks.flatten = bytes
  length_frames : i.frames.length = bytes.length / layout.size
  address_eq : ∀ k f, i.frames[k]? = some f → f.address = k * layout.size
  zone_eq_slot_iff : ∀ k f, i.frames[k]? = some f → (f.zone = .slot ↔ k < i.slotCount)

theorem map_frame_inspectFrames (slots : Nat) (frames : List Frame) :
    (inspectFrames layout slots frames).frames.map InspectedFrame.frame = frames := by
  apply List.ext_getElem?
  intro k
  rw [List.getElem?_map, Image.getElem?_inspectFrames]
  cases frames[k]? <;> rfl

theorem length_eq_of_decodeFrames {frames : List Frame}
    (h : decodeFrames layout bytes = .ok frames) :
    frames.length = bytes.length / layout.size := by
  obtain ⟨henc, rfl⟩ := decodeFrames_eq_ok_iff.mp h
  rw [length_flatMap_of_length_eq fun f hf => Frame.length_recordBytes (henc f hf),
    Nat.mul_div_cancel _ layout.size_pos]

theorem restores_inspectFrames {frames : List Frame} (slots : Nat)
    (h : decodeFrames layout bytes = .ok frames) :
    (inspectFrames layout slots frames).Restores layout bytes := by
  obtain ⟨henc, hbytes⟩ := decodeFrames_eq_ok_iff.mp h
  have hget : ∀ {k : Nat} {f : InspectedFrame},
      (inspectFrames layout slots frames).frames[k]? = some f →
      ∃ g, f = inspectFrame layout.size slots k g := by
    intro k f hf
    obtain ⟨g, -, hg⟩ := Image.getElem?_inspectFrames_eq_some_iff.mp hf
    exact ⟨g, hg.symm⟩
  constructor
  case encode_frames =>
    refine ⟨frames.map (Frame.recordBytes layout), ?_, ?_⟩
    · rw [map_frame_inspectFrames]
      exact mapM_eq_ok fun f hf => Frame.encode_of_isEncodable (henc f hf)
    · rw [hbytes, List.flatMap_def]
  case length_frames => rw [Image.length_inspectFrames, length_eq_of_decodeFrames h]
  case address_eq =>
    intro k f hf
    obtain ⟨g, rfl⟩ := hget hf
    rfl
  case zone_eq_slot_iff =>
    intro k f hf
    obtain ⟨g, rfl⟩ := hget hf
    show Zone.ofIndex slots k = .slot ↔ k < slots
    rw [Zone.ofIndex]
    split_ifs with hk <;> simp [hk]

/-! ### Outcomes -/

/-- Slots that somebody asked for may be too many; those that the containers tell are not. -/
theorem exists_inspect_eq_ok_iff {slots? : Option Nat} :
    (∃ i, inspect layout slots? bytes = .ok i) ↔
      (∃ frames, decodeFrames layout bytes = .ok frames) ∧ ∀ n, slots? = some n →
        n ≤ bytes.length / layout.size := by
  constructor
  · rintro ⟨i, hi⟩
    obtain ⟨frames, hframes, hle, -⟩ := inspect_eq_ok_iff.mp hi
    refine ⟨⟨frames, hframes⟩, ?_⟩
    rintro n rfl
    rwa [← length_eq_of_decodeFrames hframes]
  · rintro ⟨⟨frames, hframes⟩, hslots⟩
    refine ⟨_, inspect_eq_ok_iff.mpr ⟨frames, hframes, ?_, rfl⟩⟩
    cases slots? with
    | none => exact inferSlots_le _ _
    | some n =>
      rw [length_eq_of_decodeFrames hframes]
      exact hslots n rfl

theorem inspect_of_decodeFrames_error {slots? : Option Nat} {e : ImageError}
    (h : decodeFrames layout bytes = .error e) : inspect layout slots? bytes = .error e := by
  rw [inspect, h]

theorem inspect_of_length_lt {frames : List Frame} {n : Nat}
    (h : decodeFrames layout bytes = .ok frames) (hlt : frames.length < n) :
    inspect layout (some n) bytes = .error (.config (.fewerFrames frames.length n)) := by
  rw [inspect, h]
  exact if_pos hlt

/-- Bytes are inspected exactly if they are whole frames, at least as many as the slots that
were asked for, and then nothing of them is lost.  Otherwise the trailing group is refused
where it starts, or the first group that is no frame where it stands, or, of frames, the
number of slots. -/
theorem inspect_lossless (layout : FrameLayout) (slots? : Option Nat) (bytes : List UInt8) :
    ((∃ i, inspect layout slots? bytes = .ok i) ↔
      layout.size ∣ bytes.length ∧
      (∀ k < bytes.length / layout.size, ∃ f,
        frameAt layout bytes (k * layout.size) = .ok f) ∧
      ∀ n, slots? = some n → n ≤ bytes.length / layout.size) ∧
    (∀ i, inspect layout slots? bytes = .ok i →
      i.Restores layout bytes ∧ i.slotCount ≤ i.frames.length ∧ ∀ n, slots? = some n →
        i.slotCount = n) ∧
    (¬ layout.size ∣ bytes.length →
      inspect layout slots? bytes = .error (.decode (bytes.length / layout.size * layout.size)
        (.wrongLength layout.size (bytes.length % layout.size)))) ∧
    (layout.size ∣ bytes.length → ∀ k < bytes.length / layout.size, ∀ e,
      frameAt layout bytes (k * layout.size) = .error e →
      (∀ j < k, ∃ f, frameAt layout bytes (j * layout.size) = .ok f) →
      inspect layout slots? bytes = .error (.decode (k * layout.size) e)) ∧
    (layout.size ∣ bytes.length →
      (∀ k < bytes.length / layout.size, ∃ f,
        frameAt layout bytes (k * layout.size) = .ok f) →
      ∀ n, slots? = some n → bytes.length / layout.size < n →
      inspect layout slots? bytes
        = .error (.config (.fewerFrames (bytes.length / layout.size) n))) := by
  refine ⟨?_, ?_, ?_, ?_, ?_⟩
  · rw [exists_inspect_eq_ok_iff, exists_decodeFrames_eq_ok_iff, and_assoc]
    exact and_congr_right fun hdvd => and_congr_left fun _ => exists_frameAt_iff hdvd
  · intro i hi
    obtain ⟨frames, hframes, hle, rfl⟩ := inspect_eq_ok_iff.mp hi
    refine ⟨restores_inspectFrames _ hframes, ?_, ?_⟩
    · rwa [Image.length_inspectFrames]
    · rintro n rfl
      rfl
  · intro hdvd
    exact inspect_of_decodeFrames_error (decodeFrames_of_not_dvd hdvd)
  · intro hdvd k hk e he hfront
    refine inspect_of_decodeFrames_error
      (decodeFrames_of_chunk hdvd (getElem?_chunks_of_lt hdvd hk) he ?_)
    intro j hj group hgroup
    rw [getElem?_chunks_of_lt hdvd (Nat.lt_trans hj hk), Option.some_inj] at hgroup
    exact hgroup ▸ hfront j hj
  · rintro hdvd hall n rfl hlt
    obtain ⟨frames, hframes⟩ :=
      exists_decodeFrames_eq_ok_iff.mpr ⟨hdvd, (exists_frameAt_iff hdvd).mpr hall⟩
    rw [← length_eq_of_decodeFrames hframes] at hlt ⊢
    exact inspect_of_length_lt hframes hlt

/-- A state frame, a container and half a frame. -/
def partialImage : List UInt8 :=
  [1, 2, 0xff, 2, 1, 7, 0, 0, 0, 0, 0xff, 1, 0x23, 0, 8, 1, 1, 2, 0xff, 2]

/-- The half frame is refused where it starts, and without it the rest is restored; a byte
behind the argument of the first frame is refused there, whatever follows. -/
theorem inspect_partialImage :
    inspect SlotTable.mixedTable.layout none partialImage
      = .error (.decode 16 (.wrongLength 8 4)) ∧
    (∃ i, inspect SlotTable.mixedTable.layout (some 2) (partialImage.take 16) = .ok i ∧
      i.Restores SlotTable.mixedTable.layout (partialImage.take 16)) ∧
    inspect SlotTable.mixedTable.layout (some 2) ((partialImage.take 16).set 6 9)
      = .error (.decode 0 (.nonZeroPadding 6 9)) := by
  refine ⟨?_, ?_, ?_⟩
  · exact (inspect_lossless _ none partialImage).2.2.1 (by decide)
  · obtain ⟨hok, hrestores, -⟩ :=
      inspect_lossless SlotTable.mixedTable.layout (some 2) (partialImage.take 16)
    have hread : ∀ k < 2,
        (frameAt SlotTable.mixedTable.layout (partialImage.take 16)
        (k * 8)).toOption.isSome := by
      decide
    have hframes : ∀ k < 2, ∃ f,
        frameAt SlotTable.mixedTable.layout (partialImage.take 16) (k * 8) = .ok f := by
      intro k hk
      have hk := hread k hk
      cases hframe : frameAt SlotTable.mixedTable.layout (partialImage.take 16) (k * 8) with
      | ok f => exact ⟨f, rfl⟩
      | error e => simp [hframe, Except.toOption] at hk
    obtain ⟨i, hi⟩ :=
      hok.mpr ⟨by decide, hframes, by simp [partialImage, SlotTable.mixedTable]⟩
    exact ⟨i, hi, (hrestores i hi).1⟩
  · exact (inspect_lossless _ (some 2) ((partialImage.take 16).set 6 9)).2.2.2.1 (by decide) 0
      (by decide) _
      (by decide) (by simp)

end EepromImage
