/-
Bytes in groups of one length, and the frames that they are read as.

* `chunks_flatMap` — blocks of one length are the groups of what they make up;
* `flatten_chunks` — the groups one behind the other are the bytes;
* `getElem?_chunks`, `length_chunks` — the group with number `k` starts at `k` times the
  length;
* `decodeFrames_eq_ok_iff` — exactly the records of frames one behind the other are read, as
  these frames;
* `decodeFrames_of_not_dvd`, `decodeFrames_of_chunk` — anything else is refused for the
  trailing group, or for the first group that is no frame.
-/
import EepromImage.Image.Inspection
import EepromImage.Proofs.Blocks
import EepromImage.Proofs.Frame.RoundTrip

namespace EepromImage

/-! ### Groups -/

section Groups

variable {n : Nat} {bytes : List UInt8}

theorem chunks_nil (n : Nat) : chunks n [] = [] := by
  rw [chunks, dif_pos (.inr rfl)]

theorem chunks_of_ne_nil (hpos : 0 < n) (h : bytes ≠ []) :
    chunks n bytes = bytes.take n :: chunks n (bytes.drop n) := by
  rw [chunks, dif_neg (by simp only [h, or_false]; omega)]

theorem chunks_flatMap {α : Type*} {l : List α} {g : α → List UInt8} (hpos : 0 < n)
    (hn : ∀ a ∈ l, (g a).length = n) : chunks n (l.flatMap g) = l.map g := by
  induction l with
  | nil => exact chunks_nil n
  | cons a rest ih =>
    have ha := hn a List.mem_cons_self
    have hrest := ih fun b hb => hn b (List.mem_cons_of_mem a hb)
    have hne : g a ++ rest.flatMap g ≠ [] := by
      intro hnil
      rw [(List.append_eq_nil_iff.mp hnil).1, List.length_nil] at ha
      omega
    rw [List.flatMap_cons, chunks_of_ne_nil hpos hne, List.take_left' ha, List.drop_left' ha,
      hrest, List.map_cons]

theorem flatten_chunks (hpos : 0 < n) (bytes : List UInt8) :
    (chunks n bytes).flatten = bytes := by
  fun_induction chunks n bytes with
  | case1 bytes h =>
    rcases h with h | rfl
    · omega
    · rfl
  | case2 bytes h ih => rw [List.flatten_cons, ih, List.take_append_drop]

theorem getElem?_chunks (hpos : 0 < n) (bytes : List UInt8) (k : Nat) :
    (chunks n bytes)[k]? = if k * n < bytes.length then
      some ((bytes.drop (k * n)).take n) else none := by
  induction k generalizing bytes with
  | zero =>
    rcases eq_or_ne bytes [] with rfl | hne
    · simp [chunks_nil]
    · simp [chunks_of_ne_nil hpos hne, List.length_pos_iff.mpr hne]
  | succ k ih =>
    rcases eq_or_ne bytes [] with rfl | hne
    · simp [chunks_nil]
    · -- the group is number `k` of what is behind the first one
      have hlt : k * n < bytes.length - n ↔ (k + 1) * n < bytes.length := by
        rw [Nat.succ_mul]
        omega
      rw [chunks_of_ne_nil hpos hne, List.getElem?_cons_succ, ih, List.length_drop,
        List.drop_drop, Nat.add_comm n, ← Nat.succ_mul]
      simp only [hlt, Nat.succ_eq_add_one]

/-- Bytes that fill their groups have as many groups as their length says. -/
theorem length_chunks (hpos : 0 < n) (h : n ∣ bytes.length) :
    (chunks n bytes).length = bytes.length / n := by
  obtain ⟨m, hm⟩ := h
  rw [hm, Nat.mul_div_cancel_left m hpos]
  apply Nat.le_antisymm
  · rw [← List.getElem?_eq_none_iff, getElem?_chunks hpos,
      if_neg (by rw [hm, Nat.mul_comm]; omega)]
  · apply Nat.le_of_not_lt
    intro hlt
    have hnone : (chunks n bytes)[(chunks n bytes).length]? = none :=
      List.getElem?_eq_none_iff.mpr (Nat.le_refl _)
    rw [getElem?_chunks hpos,
      if_pos (by rw [hm, Nat.mul_comm]; exact Nat.mul_lt_mul_of_pos_left hlt hpos)] at hnone
    cases hnone

end Groups

/-! ### Frames -/

section Frames

variable {layout : FrameLayout} {bytes : List UInt8} {frames : List Frame}

theorem map_decode_eq_iff {groups : List (List UInt8)} :
    groups.map (Frame.decode layout) = frames.map .ok ↔
      (∀ f ∈ frames, f.IsEncodable layout) ∧
        groups = frames.map (Frame.recordBytes layout) := by
  induction groups generalizing frames with
  | nil => cases frames <;> simp
  | cons group rest ih =>
    cases frames with
    | nil => simp
    | cons f fs =>
      simp only [List.map_cons, List.cons.injEq, List.forall_mem_cons,
        Frame.decode_eq_ok_iff, ih]
      exact and_and_and_comm

theorem decodeAt_eq_ok_iff {index : Nat} {f : Frame} :
    decodeAt layout index bytes = .ok f ↔ Frame.decode layout bytes = .ok f := by
  rw [decodeAt]
  cases Frame.decode layout bytes <;> simp

/-- The address that an error would name does not matter to groups that are all read. -/
theorem mapM_decodeAt_eq_ok_iff {groups : List (List UInt8)} :
    groups.zipIdx.mapM (fun (group, i) => decodeAt layout i group) = .ok frames ↔
      groups.map (Frame.decode layout) = frames.map .ok := by
  rw [mapM_eq_ok_iff, List.ext_getElem?_iff, List.ext_getElem?_iff]
  refine forall_congr' fun k => ?_
  simp only [List.getElem?_map, List.getElem?_zipIdx]
  cases groups[k]? <;> cases frames[k]? <;> simp [decodeAt_eq_ok_iff]

/-- Exactly the records of frames one behind the other are read, as these frames. -/
theorem decodeFrames_eq_ok_iff :
    decodeFrames layout bytes = .ok frames ↔
      (∀ f ∈ frames, f.IsEncodable layout) ∧
        bytes = frames.flatMap (Frame.recordBytes layout) := by
  unfold decodeFrames
  simp only
  constructor
  · intro h
    split_ifs at h
    obtain ⟨henc, hgroups⟩ := map_decode_eq_iff.mp (mapM_decodeAt_eq_ok_iff.mp h)
    refine ⟨henc, ?_⟩
    rw [← flatten_chunks layout.size_pos bytes, hgroups, List.flatMap_def]
  · rintro ⟨henc, rfl⟩
    have hlength : ∀ f ∈ frames, (f.recordBytes layout).length = layout.size :=
      fun f hf => Frame.length_recordBytes (henc f hf)
    rw [if_neg (by rw [length_flatMap_of_length_eq hlength, Nat.mul_mod_left]; simp),
      chunks_flatMap layout.size_pos hlength]
    exact mapM_decodeAt_eq_ok_iff.mpr (map_decode_eq_iff.mpr ⟨henc, rfl⟩)

/-- Bytes behind the last whole group are refused where they start. -/
theorem decodeFrames_of_not_dvd (h : ¬ layout.size ∣ bytes.length) :
    decodeFrames layout bytes = .error (.decode (bytes.length / layout.size * layout.size)
      (.wrongLength layout.size (bytes.length % layout.size))) := by
  have hstart : bytes.length - bytes.length % layout.size
      = bytes.length / layout.size * layout.size := by
    have := Nat.div_add_mod' bytes.length layout.size
    omega
  rw [decodeFrames, if_pos (by rwa [Nat.dvd_iff_mod_eq_zero] at h), hstart]

theorem decodeFrames_of_dvd (h : layout.size ∣ bytes.length) :
    decodeFrames layout bytes
      = (chunks layout.size bytes).zipIdx.mapM fun (group, i) => decodeAt layout i group := by
  rw [decodeFrames, if_neg (by simpa using Nat.mod_eq_zero_of_dvd h)]

/-- Of whole groups, the first one that is no frame is refused. -/
theorem decodeFrames_of_chunk {k : Nat} {group : List UInt8} {e : FrameError}
    (h : layout.size ∣ bytes.length) (hk : (chunks layout.size bytes)[k]? = some group)
    (he : Frame.decode layout group = .error e)
    (hfront : ∀ j < k, ∀ g, (chunks layout.size bytes)[j]? = some g →
      ∃ f, Frame.decode layout g = .ok f) :
    decodeFrames layout bytes = .error (.decode (k * layout.size) e) := by
  have hkzip : (chunks layout.size bytes).zipIdx[k]? = some (group, k) := by
    simp [List.getElem?_zipIdx, hk]
  rw [decodeFrames_of_dvd h]
  refine mapM_eq_error hkzip (by simp only [decodeAt, he]) fun j hj x hx => ?_
  obtain ⟨g, hg, rfl⟩ := Option.map_eq_some_iff.mp (List.getElem?_zipIdx ▸ hx)
  obtain ⟨f, hf⟩ := hfront j hj g hg
  exact ⟨f, decodeAt_eq_ok_iff.mpr hf⟩

theorem exists_decodeFrames_eq_ok_iff :
    (∃ frames, decodeFrames layout bytes = .ok frames) ↔
      layout.size ∣ bytes.length ∧ ∀ group ∈ chunks layout.size bytes, ∃ f,
        Frame.decode layout group = .ok f := by
  rw [← exists_mapM_eq_ok_iff]
  constructor
  · rintro ⟨frames, hframes⟩
    have hdvd : layout.size ∣ bytes.length := by
      by_contra hdvd
      rw [decodeFrames_of_not_dvd hdvd] at hframes
      cases hframes
    rw [decodeFrames_of_dvd hdvd, mapM_decodeAt_eq_ok_iff, ← mapM_eq_ok_iff] at hframes
    exact ⟨hdvd, frames, hframes⟩
  · rintro ⟨hdvd, frames, hframes⟩
    rw [mapM_eq_ok_iff, ← mapM_decodeAt_eq_ok_iff, ← decodeFrames_of_dvd hdvd] at hframes
    exact ⟨frames, hframes⟩

end Frames
end EepromImage
