/-
Lists compared position by position.

* `Corresponds` — lists of one length, with a relation between their elements that may depend
  on the position;
* `Corresponds.set` — an element may be replaced by another one that is related to its
  partner;
* `Corresponds.mono` — the relation may be replaced by one that follows from it;
* `mapM_zipIdx_eq_ok_iff` — numbered steps succeed exactly with results that correspond to
  what they were made on;
* `exists_of_mapM_zipIdx_eq_error` — if they fail, it is with the first of them that does.
-/
import EepromImage.Proofs.Blocks

namespace EepromImage

/-! ### Corresponding lists -/

section Corresponds

variable {α β : Type*} {R S : Nat → α → β → Prop} {l : List α} {l' : List β} {k : Nat}
  {a : α} {b : β}

/-- The lists end at the same position, and up to there the relation of each position
holds. -/
def Corresponds (R : Nat → α → β → Prop) (l : List α) (l' : List β) : Prop :=
  ∀ k, Option.Rel (R k) l[k]? l'[k]?

theorem Corresponds.exists_of_left (h : Corresponds R l l') (ha : l[k]? = some a) :
    ∃ b, l'[k]? = some b ∧ R k a b := by
  have hk := h k
  rw [ha] at hk
  cases hb : l'[k]? with
  | none =>
    rw [hb] at hk
    cases hk
  | some b =>
    rw [hb, Option.rel_some_some] at hk
    exact ⟨b, rfl, hk⟩

theorem Corresponds.exists_of_right (h : Corresponds R l l') (hb : l'[k]? = some b) :
    ∃ a, l[k]? = some a ∧ R k a b := by
  have hk := h k
  rw [hb] at hk
  cases ha : l[k]? with
  | none =>
    rw [ha] at hk
    cases hk
  | some a =>
    rw [ha, Option.rel_some_some] at hk
    exact ⟨a, rfl, hk⟩

theorem Corresponds.length_eq (h : Corresponds R l l') : l.length = l'.length := by
  rcases Nat.lt_trichotomy l.length l'.length with hlt | heq | hgt
  · obtain ⟨a, ha, -⟩ := h.exists_of_right (List.getElem?_eq_getElem hlt)
    rw [List.getElem?_eq_none_iff.mpr (Nat.le_refl _)] at ha
    cases ha
  · exact heq
  · obtain ⟨b, hb, -⟩ := h.exists_of_left (List.getElem?_eq_getElem hgt)
    rw [List.getElem?_eq_none_iff.mpr (Nat.le_refl _)] at hb
    cases hb

theorem Corresponds.mono (h : Corresponds R l l') (hR : ∀ k a b, R k a b → S k a b) :
    Corresponds S l l' := by
  intro k
  cases ha : l[k]? with
  | none =>
    have hnone : l'[k]? = none := by
      rwa [List.getElem?_eq_none_iff, ← h.length_eq, ← List.getElem?_eq_none_iff]
    rw [hnone]
    exact .none
  | some a =>
    obtain ⟨b, hb, hab⟩ := h.exists_of_left ha
    rw [hb]
    exact .some (hR k a b hab)

theorem Corresponds.nil : Corresponds R [] [] :=
  fun _ => .none

theorem corresponds_cons_iff {rest : List α} {rest' : List β} :
    Corresponds R (a :: rest) (b :: rest') ↔ R 0 a b ∧
      Corresponds (fun k => R (k + 1)) rest rest' := by
  constructor
  · intro h
    exact ⟨Option.rel_some_some.mp (h 0), fun k => h (k + 1)⟩
  · rintro ⟨hhead, hrest⟩ (_ | k)
    · exact .some hhead
    · exact hrest k

theorem Corresponds.set (h : Corresponds R l l') (ha : ∀ b, l'[k]? = some b → R k a b) :
    Corresponds R (l.set k a) l' := by
  intro j
  rw [List.getElem?_set]
  split_ifs with hkj hk
  · subst hkj
    obtain ⟨b, hb, -⟩ := h.exists_of_left (List.getElem?_eq_getElem hk)
    rw [hb]
    exact .some (ha b hb)
  · subst hkj
    have hnone : l'[k]? = none :=
      List.getElem?_eq_none_iff.mpr (h.length_eq ▸ Nat.le_of_not_lt hk)
    rw [hnone]
    exact .none
  · exact h j

end Corresponds

/-- What holds at every position holds of every element. -/
theorem forall_getElem?_iff {α : Type*} {l : List α} {P : α → Prop} :
    (∀ (k : Nat) (a : α), l[k]? = some a → P a) ↔ ∀ a ∈ l, P a := by
  constructor
  · intro h a ha
    obtain ⟨k, hk⟩ := List.mem_iff_getElem?.mp ha
    exact h k a hk
  · intro h k a hk
    exact h a (List.mem_of_getElem? hk)

/-! ### Numbered steps -/

section Steps

universe u v

variable {ε : Type u} {α β : Type v}

/-- Numbered steps succeed exactly with results that correspond to what they were made on. -/
theorem mapM_zipIdx_eq_ok_iff {g : α × Nat → Except ε β} {l : List α} {l' : List β} :
    l.zipIdx.mapM g = .ok l' ↔ Corresponds (fun k a b => g (a, k) = .ok b) l l' := by
  rw [mapM_eq_ok_iff, List.ext_getElem?_iff]
  refine forall_congr' fun k => ?_
  rw [List.getElem?_map, List.getElem?_map, List.getElem?_zipIdx, Nat.zero_add]
  cases l[k]? <;> cases l'[k]? <;> simp

/-- If a list of steps fails, one of them does, and those in front of it succeed. -/
theorem exists_of_mapM_eq_error {f : α → Except ε β} {l : List α} {e : ε}
    (h : l.mapM f = .error e) :
    ∃ (k : Nat) (a : α), l[k]? = some a ∧ f a = .error e ∧ ∀ j < k, ∀ b, l[j]? = some b →
      ∃ c, f b = .ok c := by
  induction l with
  | nil => cases h
  | cons a rest ih =>
    rw [List.mapM_cons] at h
    cases ha : f a with
    | error e' =>
      rw [ha] at h
      cases h
      exact ⟨0, a, rfl, ha, fun j hj => absurd hj (Nat.not_lt_zero j)⟩
    | ok c =>
      rw [ha, ok_bind] at h
      cases hrest : rest.mapM f with
      | ok cs =>
        rw [hrest] at h
        cases h
      | error e' =>
        rw [hrest] at h
        cases h
        obtain ⟨k, b, hk, hb, hfront⟩ := ih hrest
        refine ⟨k + 1, b, hk, hb, fun j hj d hd => ?_⟩
        cases j with
        | zero =>
          cases hd
          exact ⟨c, ha⟩
        | succ j => exact hfront j (Nat.lt_of_succ_lt_succ hj) d hd

theorem exists_of_mapM_zipIdx_eq_error {g : α × Nat → Except ε β} {l : List α} {e : ε}
    (h : l.zipIdx.mapM g = .error e) :
    ∃ (k : Nat) (a : α), l[k]? = some a ∧ g (a, k) = .error e ∧
      ∀ j < k, ∀ b, l[j]? = some b → ∃ c, g (b, j) = .ok c := by
  obtain ⟨k, ⟨a, n⟩, hk, ha, hfront⟩ := exists_of_mapM_eq_error h
  simp only [List.getElem?_zipIdx, Nat.zero_add] at hk hfront
  obtain ⟨b, hb, heq⟩ := Option.map_eq_some_iff.mp hk
  cases heq
  refine ⟨k, a, hb, ha, fun j hj b hb => hfront j hj (b, j) ?_⟩
  rw [hb]
  rfl

end Steps

end EepromImage
