/-
Lists made of blocks.

An image is a list of records, and its bytes are the blocks of the records one behind the
other.  A block is found again by the total length of the blocks in front of it:

* `take_drop_flatMap` — for blocks of any lengths, as the sequences of slots are;
* `getElem?_flatten_of_agree` — lists of blocks that differ in one block only, and not in its
  length, agree outside it;
* `take_drop_flatMap_of_length_eq`, `getElem?_flatMap_of_length_eq` — for blocks of one
  length, as the records are;
* `mapIdx_injective`, `append_inj_of_forall` — lists that are told by their parts;
* `flatten_mapIdx_mark` — a mark in front of one of the blocks, as that of the extended zone
  in a listing;
* `mapM_eq_ok_iff`, `mapM_eq_error` — steps that may fail, made one after another: all of them
  succeed, or the first that does not gives the error.
-/
import Mathlib.Data.List.Basic

namespace EepromImage

variable {α β : Type*}

/-! ### Blocks of any lengths -/

/-- A list around one of its elements. -/
theorem eq_take_append_cons_drop {l : List α} {k : Nat} {a : α} (h : l[k]? = some a) :
    l = l.take k ++ a :: l.drop (k + 1) := by
  obtain ⟨hk, rfl⟩ := List.getElem?_eq_some_iff.mp h
  rw [← List.drop_eq_getElem_cons hk, List.take_append_drop]

/-- The block of the element with number `k` starts where the blocks in front of it end. -/
theorem take_drop_flatMap {l : List α} {k : Nat} {a : α} (g : α → List β)
    (h : l[k]? = some a) :
    ((l.flatMap g).drop ((l.take k).flatMap g).length).take (g a).length = g a := by
  have hsplit : l.flatMap g = (l.take k).flatMap g
      ++ (g a ++ (l.drop (k + 1)).flatMap g) := by
    conv_lhs => rw [eq_take_append_cons_drop h]
    rw [List.flatMap_append, List.flatMap_cons]
  rw [hsplit, List.drop_left, List.take_left]

/-- Elements taken in order are numbered in order. -/
theorem pairwise_snd_zipIdx (l : List α) : l.zipIdx.Pairwise fun x y => x.2 < y.2 := by
  rw [← List.pairwise_map, List.zipIdx_map_snd]
  exact List.pairwise_lt_range' 1

/-- What does not depend on the index is what it is without the index. -/
theorem map_mapIdx {γ : Type*} {f : Nat → α → β} {g : β → γ} {g' : α → γ}
    (h : ∀ i a, g (f i a) = g' a) (l : List α) :
    (l.mapIdx f).map g = l.map g' := by
  apply List.ext_getElem?
  intro i
  rw [List.getElem?_map, List.getElem?_mapIdx, List.getElem?_map, Option.map_map]
  exact congrArg (Option.map · l[i]?) (funext (h i))

/-- Lists are told by what is made of their elements, if at every index the elements are. -/
theorem mapIdx_injective {f : Nat → α → β} (h : ∀ i, Function.Injective (f i)) :
    Function.Injective (List.mapIdx f) := by
  intro l
  induction l generalizing f with
  | nil =>
    intro l' heq
    exact (List.mapIdx_eq_nil_iff.mp heq.symm).symm
  | cons a l ih =>
    intro l' heq
    cases l' with
    | nil => exact List.mapIdx_eq_nil_iff.mp heq
    | cons a' l' =>
      rw [List.mapIdx_cons, List.mapIdx_cons, List.cons.injEq] at heq
      rw [h 0 heq.1, ih (fun i => h (i + 1)) heq.2]

/-- Two lists one behind the other are told apart by a property of the elements of the
second. -/
theorem append_inj_of_forall {p : α → Prop} {l l' m m' : List α} (hl : ∀ a ∈ l, ¬ p a)
    (hl' : ∀ a ∈ l', ¬ p a) (hm : ∀ a ∈ m, p a) (hm' : ∀ a ∈ m', p a)
    (h : l ++ m = l' ++ m') : l = l' ∧ m = m' := by
  classical
  have hfilter {l m : List α} (hl : ∀ a ∈ l, ¬ p a) (hm : ∀ a ∈ m, p a) :
      (l ++ m).filter (p ·) = m := by
    rw [List.filter_append, List.filter_eq_nil_iff.mpr (by simpa using hl),
      List.filter_eq_self.mpr (by simpa using hm), List.nil_append]
  have hbehind : m = m' := by rw [← hfilter hl hm, h, hfilter hl' hm']
  subst hbehind
  exact ⟨List.append_cancel_right h, rfl⟩

/-- In front of the block with number `n`, if there is one, stands a mark. -/
theorem flatten_mapIdx_mark (mark : List β) (g : α → List β) (l : List α) (n : Nat) :
    (l.mapIdx fun i a => (if i = n then mark else []) ++ g a).flatten
      = (l.take n).flatMap g ++ (if n < l.length then mark else [])
        ++ (l.drop n).flatMap g := by
  induction l generalizing n with
  | nil => simp
  | cons a rest ih =>
    rw [List.mapIdx_cons, List.flatten_cons]
    cases n with
    | zero =>
      have hrest : (rest.mapIdx fun _ b => g b) = rest.map g :=
        List.mapIdx_eq_iff.mpr fun i => List.getElem?_map
      simp [List.flatMap_def, hrest]
    | succ n =>
      have hrest : (rest.mapIdx fun i b =>
            (if i + 1 = n + 1 then mark else []) ++ g b).flatten
          = (rest.take n).flatMap g ++ (if n < rest.length then mark else [])
            ++ (rest.drop n).flatMap g := by
        simpa only [Nat.add_right_cancel_iff] using ih n
      rw [hrest]
      simp

/-- Blocks that are the same but for one, which has the same length, hold the same in front of
it and behind it. -/
theorem getElem?_flatten_of_agree {bs bs' : List (List β)} {k p : Nat}
    (hlen : bs'.map List.length = bs.map List.length) (hagree : ∀ i, i ≠ k → bs'[i]? = bs[i]?)
    (hp : ∀ b, bs[k]? = some b → p < (bs.take k).flatten.length ∨
      (bs.take k).flatten.length + b.length ≤ p) :
    bs'.flatten[p]? = bs.flatten[p]? := by
  induction bs generalizing bs' k p with
  | nil =>
    have hnil : bs' = [] := List.map_eq_nil_iff.mp hlen
    rw [hnil]
  | cons b rest ih =>
    obtain ⟨b', rest', rfl⟩ : ∃ b' rest', bs' = b' :: rest' := by
      cases bs' with
      | nil => cases hlen
      | cons b' rest' => exact ⟨b', rest', rfl⟩
    rw [List.map_cons, List.map_cons, List.cons.injEq] at hlen
    obtain ⟨hb, hrest⟩ := hlen
    rw [List.flatten_cons, List.flatten_cons]
    cases k with
    | zero =>
      -- all blocks behind the first are the same, and the position is behind the first
      have hsame : rest' = rest :=
        List.ext_getElem? fun i => hagree (i + 1) (Nat.succ_ne_zero i)
      have hle := hp b rfl
      simp only [List.take_zero, List.flatten_nil, List.length_nil, Nat.not_lt_zero,
        Nat.zero_add, false_or] at hle
      rw [List.getElem?_append_right (hb ▸ hle), List.getElem?_append_right hle, hb, hsame]
    | succ k =>
      have hfirst : b' = b := Option.some.inj (hagree 0 (Nat.succ_ne_zero k).symm)
      subst hfirst
      by_cases hlt : p < b'.length
      · rw [List.getElem?_append_left hlt, List.getElem?_append_left hlt]
      · rw [List.getElem?_append_right (Nat.le_of_not_lt hlt),
          List.getElem?_append_right (Nat.le_of_not_lt hlt)]
        refine ih hrest (fun i hi => hagree (i + 1) fun heq => hi (Nat.succ.inj heq)) ?_
        intro c hc
        have hpos := hp c hc
        rw [List.take_succ_cons, List.flatten_cons, List.length_append] at hpos
        omega

/-! ### Blocks of one length -/

section OneLength

variable {l : List α} {g : α → List β} {n : Nat}

theorem length_flatMap_of_length_eq (hn : ∀ a ∈ l, (g a).length = n) :
    (l.flatMap g).length = l.length * n := by
  induction l with
  | nil => rw [List.flatMap_nil, List.length_nil, List.length_nil, Nat.zero_mul]
  | cons a rest ih =>
    have ha := hn a List.mem_cons_self
    have hrest := ih fun b hb => hn b (List.mem_cons_of_mem a hb)
    rw [List.flatMap_cons, List.length_append, ha, hrest, List.length_cons, Nat.succ_mul,
      Nat.add_comm]

/-- The block with number `k` starts at `k` times the length of a block. -/
theorem take_drop_flatMap_of_length_eq {k : Nat} {a : α} (hn : ∀ b ∈ l, (g b).length = n)
    (h : l[k]? = some a) :
    ((l.flatMap g).drop (k * n)).take n = g a := by
  have hk : k < l.length := (List.getElem?_eq_some_iff.mp h).choose
  have ha : (g a).length = n := hn a (List.mem_of_getElem? h)
  -- the blocks in front are all of length `n` too, so the general offset is a multiple
  have hfront : ((l.take k).flatMap g).length = k * n := by
    rw [length_flatMap_of_length_eq fun b hb => hn b (List.mem_of_mem_take hb),
      List.length_take, Nat.min_eq_left (Nat.le_of_lt hk)]
  have hblock := take_drop_flatMap g h
  rwa [hfront, ha] at hblock

/-- A position is in the block that the division by the length of a block gives, as far in as
the remainder says. -/
theorem getElem?_flatMap_of_length_eq (hpos : 0 < n) (hn : ∀ a ∈ l, (g a).length = n)
    (p : Nat) :
    (l.flatMap g)[p]? = l[p / n]?.bind fun a => (g a)[p % n]? := by
  cases ha : l[p / n]? with
  | none =>
    have hle : l.length ≤ p / n := List.getElem?_eq_none_iff.mp ha
    rw [Option.bind_none, List.getElem?_eq_none_iff, length_flatMap_of_length_eq hn]
    exact (Nat.le_div_iff_mul_le hpos).mp hle
  | some a =>
    rw [Option.bind_some, ← take_drop_flatMap_of_length_eq hn ha,
      List.getElem?_take_of_lt (Nat.mod_lt p hpos), List.getElem?_drop, Nat.mul_comm,
      Nat.div_add_mod]

end OneLength

/-! ### Steps that may fail -/

section Steps

universe u v

variable {ε : Type u} {α β : Type v}

theorem map_eq_ok_iff {f : α → β} {r : Except ε α} {b : β} :
    r.map f = .ok b ↔ ∃ a, r = .ok a ∧ f a = b := by
  cases r <;> simp [Except.map]

theorem mapError_eq_ok_iff {ε' : Type*} {f : ε → ε'} {r : Except ε α} {a : α} :
    r.mapError f = .ok a ↔ r = .ok a := by
  cases r <;> simp [Except.mapError]

theorem mapError_eq_error_iff {ε' : Type*} {f : ε → ε'} {r : Except ε α} {e' : ε'} :
    r.mapError f = .error e' ↔ ∃ e, r = .error e ∧ f e = e' := by
  cases r <;> simp [Except.mapError]

theorem ok_bind {a : α} {f : α → Except ε β} : (Except.ok a >>= f) = f a := rfl

theorem bind_eq_ok_iff {r : Except ε α} {f : α → Except ε β} {b : β} :
    (r >>= f) = .ok b ↔ ∃ a, r = .ok a ∧ f a = .ok b := by
  cases r <;> simp [bind, Except.bind]

theorem bind_eq_error_iff {r : Except ε α} {f : α → Except ε β} {e : ε} :
    (r >>= f) = .error e ↔ r = .error e ∨ ∃ a, r = .ok a ∧ f a = .error e := by
  cases r <;> simp [bind, Except.bind]

/-- A list of steps succeeds exactly if each of them does. -/
theorem mapM_eq_ok_iff {f : α → Except ε β} {l : List α} {l' : List β} :
    l.mapM f = .ok l' ↔ l.map f = l'.map .ok := by
  induction l generalizing l' with
  | nil => cases l' <;> simp [pure, Except.pure]
  | cons a rest ih =>
    rw [List.mapM_cons]
    cases ha : f a with
    | error e => cases l' <;> simp [bind, Except.bind, ha]
    | ok b =>
      rw [ok_bind]
      cases l' with
      | nil => cases hrest : rest.mapM f <;> simp [bind, Except.bind, pure, Except.pure]
      | cons b' rest' =>
        rw [List.map_cons, List.map_cons, ha, List.cons.injEq, ← ih]
        cases hrest : rest.mapM f with
        | error e => simp [bind, Except.bind]
        | ok bs => simp [bind, Except.bind, pure, Except.pure]

theorem mapM_eq_ok {f : α → Except ε β} {g : α → β} {l : List α}
    (h : ∀ a ∈ l, f a = .ok (g a)) :
    l.mapM f = .ok (l.map g) := by
  rw [mapM_eq_ok_iff, List.map_map]
  exact List.map_congr_left h

/-- A list of steps succeeds for some results exactly if each of them succeeds for one. -/
theorem exists_mapM_eq_ok_iff {f : α → Except ε β} {l : List α} :
    (∃ l', l.mapM f = .ok l') ↔ ∀ a ∈ l, ∃ b, f a = .ok b := by
  induction l with
  | nil => exact ⟨fun _ a ha => absurd ha List.not_mem_nil, fun _ => ⟨[], rfl⟩⟩
  | cons a rest ih =>
    rw [List.forall_mem_cons, ← ih]
    simp only [mapM_eq_ok_iff]
    constructor
    · rintro ⟨l', hl'⟩
      cases l' with
      | nil => cases hl'
      | cons b rest' =>
        rw [List.map_cons, List.map_cons, List.cons.injEq] at hl'
        exact ⟨⟨b, hl'.1⟩, rest', hl'.2⟩
    · rintro ⟨⟨b, hb⟩, rest', hrest⟩
      exact ⟨b :: rest', by rw [List.map_cons, List.map_cons, hb, hrest]⟩

/-- A list of steps fails with the first of them that does. -/
theorem mapM_eq_error {f : α → Except ε β} {l : List α} {k : Nat} {a : α} {e : ε}
    (hk : l[k]? = some a) (ha : f a = .error e)
    (hfront : ∀ j < k, ∀ b, l[j]? = some b → ∃ c, f b = .ok c) : l.mapM f = .error e := by
  induction l generalizing k with
  | nil => simp at hk
  | cons b rest ih =>
    rw [List.mapM_cons]
    cases k with
    | zero =>
      rw [List.getElem?_cons_zero, Option.some_inj] at hk
      rw [hk, ha]
      rfl
    | succ k =>
      -- the step in front succeeds, so the list fails as the steps behind it do
      obtain ⟨c, hc⟩ := hfront 0 (Nat.succ_pos k) b rfl
      have hrest := ih (List.getElem?_cons_succ ▸ hk) fun j hj d hd =>
        hfront (j + 1) (by omega) d (by simpa using hd)
      rw [hc, ok_bind, hrest]
      rfl

end Steps

end EepromImage
