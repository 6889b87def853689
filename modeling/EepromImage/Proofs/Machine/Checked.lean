/-
Operations as a machine carries them out.

Numbers are words there, and an operation without a result traps: an index or a slice out of
range, a cut inside a character, a difference below zero, a sum or a product that does not
fit.  A function written with these operations that gives what it gives without them traps
nowhere.

* **Checked** — a result, or a trap;
* `add_eq`, `sub_eq`, `slice_eq`, … — when an operation has its result;
* `sliceText_eq` — a text of ASCII characters is cut anywhere.
-/
import EepromImage.Proofs.Blocks
import Mathlib.Algebra.Order.BigOperators.Group.List
import Mathlib.Algebra.Order.Group.Nat

namespace EepromImage.Machine

/-! ### Traps -/

/-- Why an operation has no result. -/
inductive Trap
  | index (position length : Nat)
  | slice (start stop length : Nat)
  /-- The place is not between two characters of the text. -/
  | boundary (offset : Nat)
  | overflow
  | underflow
  | zeroDivisor
  /-- A buffer would become larger than any object can be. -/
  | capacity

abbrev Checked := Except Trap

/-- Words are below this number. -/
def wordBound : Nat := 2 ^ 64

/-- No object takes more bytes than this. -/
def maxObject : Nat := 2 ^ 63 - 1

/-! ### Numbers -/

def add (a b : Nat) : Checked Nat :=
  if a + b < wordBound then .ok (a + b) else .error .overflow

def mul (a b : Nat) : Checked Nat :=
  if a * b < wordBound then .ok (a * b) else .error .overflow

def sub (a b : Nat) : Checked Nat :=
  if b ≤ a then .ok (a - b) else .error .underflow

def div (a b : Nat) : Checked Nat :=
  if b = 0 then .error .zeroDivisor else .ok (a / b)

def mod (a b : Nat) : Checked Nat :=
  if b = 0 then .error .zeroDivisor else .ok (a % b)

/-- The length of a buffer with more bytes behind it. -/
def grow (length more : Nat) : Checked Nat :=
  if length + more ≤ maxObject then .ok (length + more) else .error .capacity

variable {a b n : Nat}

theorem add_eq (h : a + b < wordBound) : add a b = .ok (a + b) := if_pos h

theorem mul_eq (h : a * b < wordBound) : mul a b = .ok (a * b) := if_pos h

theorem sub_eq (h : b ≤ a) : sub a b = .ok (a - b) := if_pos h

theorem div_eq (h : 0 < b) : div a b = .ok (a / b) := if_neg (Nat.pos_iff_ne_zero.mp h)

theorem mod_eq (h : 0 < b) : mod a b = .ok (a % b) := if_neg (Nat.pos_iff_ne_zero.mp h)

theorem grow_eq (h : a + b ≤ maxObject) : grow a b = .ok (a + b) := if_pos h

/-! ### Lists -/

variable {α : Type}

def item (l : List α) (position : Nat) : Checked α :=
  match l[position]? with
  | some x => .ok x
  | none => .error (.index position l.length)

/-- The items from one position to another. -/
def slice (l : List α) (start stop : Nat) : Checked (List α) :=
  if start ≤ stop ∧ stop ≤ l.length then .ok ((l.drop start).take (stop - start))
  else .error (.slice start stop l.length)

def split (l : List α) (position : Nat) : Checked (List α × List α) :=
  if position ≤ l.length then .ok (l.take position, l.drop position)
  else .error (.slice 0 position l.length)

theorem slice_eq {l : List α} (hstart : a ≤ b) (hstop : b ≤ l.length) :
    slice l a b = .ok ((l.drop a).take (b - a)) := if_pos ⟨hstart, hstop⟩

theorem slice_length_eq {l : List α} (h : a ≤ l.length) :
    slice l a l.length = .ok (l.drop a) := by
  rw [slice_eq h (Nat.le_refl _), List.take_of_length_le (Nat.le_of_eq List.length_drop)]

theorem split_eq {l : List α} (h : n ≤ l.length) :
    split l n = .ok (l.take n, l.drop n) := if_pos h

/-! ### Texts -/

/-- The bytes that a text takes. -/
def byteLength : List Char → Nat
  | [] => 0
  | c :: rest => c.utf8Size + byteLength rest

theorem byteLength_cons (c : Char) (text : List Char) :
    byteLength (c :: text) = c.utf8Size + byteLength text := rfl

/-- The text behind so many bytes, if they end between two characters; `front?` is the text in
front. -/
def behind? : Nat → List Char → Option (List Char)
  | 0, text => some text
  | _ + 1, [] => none
  | n + 1, c :: rest => if c.utf8Size ≤ n + 1 then behind? (n + 1 - c.utf8Size) rest else none

def front? : Nat → List Char → Option (List Char)
  | 0, _ => some []
  | _ + 1, [] => none
  | n + 1, c :: rest =>
    if c.utf8Size ≤ n + 1 then (front? (n + 1 - c.utf8Size) rest).map (c :: ·) else none

/-- The text from one byte to another. -/
def sliceText (text : List Char) (start stop : Nat) : Checked (List Char) :=
  if stop < start then .error (.slice start stop (byteLength text))
  else
    match behind? start text with
    | none => .error (.boundary start)
    | some rest =>
      match front? (stop - start) rest with
      | none => .error (.boundary stop)
      | some cut => .ok cut

def IsAscii (text : List Char) : Prop :=
  ∀ c ∈ text, c.toNat < 128

theorem utf8Size_eq_one {c : Char} (h : c.toNat < 128) : c.utf8Size = 1 := by
  rw [Char.utf8Size_eq_one_iff]
  exact UInt32.le_iff_toNat_le.mpr (Nat.le_of_lt_succ h)

theorem byteLength_of_isAscii {text : List Char} (h : IsAscii text) :
    byteLength text = text.length := by
  induction text with
  | nil => rfl
  | cons c rest ih =>
    have hc := utf8Size_eq_one (h c List.mem_cons_self)
    have hrest := ih fun d hd => h d (List.mem_cons_of_mem c hd)
    rw [byteLength_cons, hc, hrest, List.length_cons, Nat.add_comm]

theorem behind?_of_isAscii {text : List Char} (h : IsAscii text) (hn : n ≤ text.length) :
    behind? n text = some (text.drop n) := by
  induction text generalizing n with
  | nil =>
    rw [Nat.le_zero.mp hn]
    rfl
  | cons c rest ih =>
    have hc := utf8Size_eq_one (h c List.mem_cons_self)
    cases n with
    | zero => rfl
    | succ n =>
      rw [behind?, hc, if_pos (Nat.le_add_left 1 n), Nat.add_sub_cancel,
        ih (fun d hd => h d (List.mem_cons_of_mem c hd)) (Nat.le_of_succ_le_succ hn),
        List.drop_succ_cons]

theorem front?_of_isAscii {text : List Char} (h : IsAscii text) (hn : n ≤ text.length) :
    front? n text = some (text.take n) := by
  induction text generalizing n with
  | nil =>
    rw [Nat.le_zero.mp hn]
    rfl
  | cons c rest ih =>
    have hc := utf8Size_eq_one (h c List.mem_cons_self)
    cases n with
    | zero => rfl
    | succ n =>
      rw [front?, hc, if_pos (Nat.le_add_left 1 n), Nat.add_sub_cancel,
        ih (fun d hd => h d (List.mem_cons_of_mem c hd)) (Nat.le_of_succ_le_succ hn),
        Option.map_some,
        List.take_succ_cons]

theorem sliceText_eq {text : List Char} (h : IsAscii text) (hstart : a ≤ b)
    (hstop : b ≤ text.length) :
    sliceText text a b = .ok ((text.drop a).take (b - a)) := by
  have hrest : IsAscii (text.drop a) := fun c hc => h c (List.mem_of_mem_drop hc)
  have hlength : b - a ≤ (text.drop a).length := by
    rw [List.length_drop]
    omega
  rw [sliceText, if_neg (Nat.not_lt.mpr hstart),
    behind?_of_isAscii h (Nat.le_trans hstart hstop)]
  simp only [front?_of_isAscii hrest hlength]

/-! ### Parts of texts -/

theorem byteLength_append (text text' : List Char) :
    byteLength (text ++ text') = byteLength text + byteLength text' := by
  induction text with
  | nil => exact (Nat.zero_add _).symm
  | cons c rest ih =>
    rw [List.cons_append, byteLength_cons, byteLength_cons, ih, Nat.add_assoc]

theorem byteLength_le_of_sublist {text text' : List Char} (h : text.Sublist text') :
    byteLength text ≤ byteLength text' := by
  induction h with
  | slnil => exact Nat.le_refl _
  | cons c _ ih => exact Nat.le_trans ih (Nat.le_add_left _ _)
  | cons_cons c _ ih => exact Nat.add_le_add_left ih _

theorem length_le_byteLength (text : List Char) : text.length ≤ byteLength text := by
  induction text with
  | nil => exact Nat.zero_le _
  | cons c rest ih =>
    have hc := c.utf8Size_pos
    rw [byteLength_cons, List.length_cons]
    omega

end EepromImage.Machine
