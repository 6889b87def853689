/-
Pairs of characters that are read as bytes.

A byte is written as two hexadecimal digits.  A pair is read as a number, though, and a number
may start with a plus sign, so that a plus sign and a digit pass for a pair too:

* `pushDigit?_eq_some_iff` — the digits that are read are the hexadecimal ones, in either
  case;
* `readPairs?_eq_some_iff` — `Spells` says what is read, pair by pair;
* `Spells.eq_pairBytes`, `spells_pairBytes` — without a plus sign these are the texts of an
  even number of digits;
* `spells_byteDigits` — what is written in hexadecimal is read back.
-/
import Mathlib.Data.List.Basic
import Mathlib.Tactic.SplitIfs
import EepromImage.IntelHex.File

namespace EepromImage

/-! ### Digits -/

/-- One of the characters 0 to 9, a to f and A to F. -/
def IsHexDigit (c : Char) : Prop :=
  ('0' ≤ c ∧ c ≤ '9') ∨ ('a' ≤ c ∧ c ≤ 'f') ∨ ('A' ≤ c ∧ c ≤ 'F')

instance : DecidablePred IsHexDigit := fun c =>
  inferInstanceAs (Decidable (('0' ≤ c ∧ c ≤ '9') ∨ ('a' ≤ c ∧ c ≤ 'f') ∨
    ('A' ≤ c ∧ c ≤ 'F')))

/-- The number that a hexadecimal digit stands for. -/
def hexValue (c : Char) : Nat :=
  if c ≤ '9' then c.toNat - 48 else if c ≤ 'F' then c.toNat - 55 else c.toNat - 87

theorem isHexDigit_iff {c : Char} :
    IsHexDigit c ↔ (48 ≤ c.toNat ∧ c.toNat ≤ 57) ∨ (97 ≤ c.toNat ∧ c.toNat ≤ 102) ∨
      (65 ≤ c.toNat ∧ c.toNat ≤ 70) :=
  Iff.rfl

theorem toNat_lt_of_isHexDigit {c : Char} (h : IsHexDigit c) : c.toNat < 128 := by
  rw [isHexDigit_iff] at h
  omega

/-- A digit is no white space, so a line made of digits is not trimmed. -/
theorem isBlank_of_isHexDigit {c : Char} (h : IsHexDigit c) : Text.isBlank c = false := by
  rw [isHexDigit_iff] at h
  simp only [Text.isBlank, Bool.or_eq_false_iff, Bool.and_eq_false_iff,
    decide_eq_false_iff_not]
  omega

theorem hexValue_eq (c : Char) :
    hexValue c = if c.toNat ≤ 57 then c.toNat - 48 else if c.toNat ≤ 70 then c.toNat - 55 else
      c.toNat - 87 := rfl

theorem digitValue?_eq (c : Char) :
    Numeral.digitValue? c
      = if 48 ≤ c.toNat ∧ c.toNat ≤ 57 then some (c.toNat - 48)
        else if 97 ≤ c.toNat ∧ c.toNat ≤ 122 then some (c.toNat - 97 + 10)
        else if 65 ≤ c.toNat ∧ c.toNat ≤ 90 then some (c.toNat - 65 + 10)
        else none := rfl

theorem hexValue_lt {c : Char} (h : IsHexDigit c) : hexValue c < 16 := by
  rw [isHexDigit_iff] at h
  rw [hexValue_eq]
  split_ifs <;> omega

/-- Exactly the digits that the base has are read, each as its number. -/
theorem pushDigit?_eq_some_iff_of_le {base : Nat} (hbase : base ≤ 16) {acc n : Nat}
    {c : Char} :
    Numeral.pushDigit? base acc c = some n ↔ (IsHexDigit c ∧ hexValue c < base) ∧
      n = acc * base + hexValue c := by
  rw [Numeral.pushDigit?, digitValue?_eq, isHexDigit_iff, hexValue_eq]
  -- the ranges of digits and of letters, of which those behind f have no number below 16
  split_ifs <;> grind

theorem pushDigit?_eq_some_iff {acc n : Nat} {c : Char} :
    Numeral.pushDigit? 16 acc c = some n ↔ IsHexDigit c ∧ n = acc * 16 + hexValue c := by
  rw [pushDigit?_eq_some_iff_of_le (Nat.le_refl 16), and_iff_left_of_imp hexValue_lt]

/-! ### Pairs -/

/-- In front of anything but a plus sign, the digits start at once. -/
theorem readUnsigned?_cons {base : Nat} {c : Char} {cs : List Char} (h : c ≠ '+') :
    Numeral.readUnsigned? base (c :: cs) = Numeral.readNatural? base (c :: cs) := by
  unfold Numeral.readUnsigned?
  split
  · rename_i heq
    exact absurd (List.cons.inj heq).1 h
  · rfl

/-- Two characters that are read as a byte: two digits, or a digit behind a plus sign. -/
inductive SpellsByte : Char → Char → UInt8 → Prop
  | digits {high low : Char} (hhigh : IsHexDigit high) (hlow : IsHexDigit low) :
      SpellsByte high low (UInt8.ofNat (hexValue high * 16 + hexValue low))
  | plus {low : Char} (hlow : IsHexDigit low) :
      SpellsByte '+' low (UInt8.ofNat (hexValue low))

/-- Characters that are read, pair by pair, as bytes. -/
inductive Spells : List Char → List UInt8 → Prop
  | nil : Spells [] []
  | pair {high low : Char} {b : UInt8} {rest : List Char} {bytes : List UInt8}
      (hb : SpellsByte high low b) (hrest : Spells rest bytes) :
      Spells (high :: low :: rest) (b :: bytes)

theorem not_isHexDigit_plus : ¬ IsHexDigit '+' := by decide

theorem readDigits?_cons {base acc : Nat} {c : Char} {cs : List Char} :
    Numeral.readDigits? base acc (c :: cs)
      = (Numeral.pushDigit? base acc c).bind fun next =>
        Numeral.readDigits? base next cs := by
  rw [Numeral.readDigits?]
  cases Numeral.pushDigit? base acc c <;> rfl

theorem readDigits?_single {acc n : Nat} {c : Char} :
    Numeral.readDigits? 16 acc [c] = some n ↔ IsHexDigit c ∧ n = acc * 16 + hexValue c := by
  rw [readDigits?_cons, ← pushDigit?_eq_some_iff]
  show (Numeral.pushDigit? 16 acc c).bind some = some n ↔ _
  rw [Option.bind_fun_some]

theorem readDigits?_pair {high low : Char} {n : Nat} :
    Numeral.readDigits? 16 0 [high, low] = some n ↔
      IsHexDigit high ∧ IsHexDigit low ∧ n = hexValue high * 16 + hexValue low := by
  rw [readDigits?_cons, Option.bind_eq_some_iff]
  constructor
  · rintro ⟨first, hfirst, hsecond⟩
    obtain ⟨hhigh, rfl⟩ := pushDigit?_eq_some_iff.mp hfirst
    obtain ⟨hlow, rfl⟩ := readDigits?_single.mp hsecond
    exact ⟨hhigh, hlow, by rw [Nat.zero_mul, Nat.zero_add]⟩
  · rintro ⟨hhigh, hlow, rfl⟩
    refine ⟨_, pushDigit?_eq_some_iff.mpr ⟨hhigh, rfl⟩, readDigits?_single.mpr ⟨hlow, ?_⟩⟩
    rw [Nat.zero_mul, Nat.zero_add]

theorem readPair?_eq_some_iff {high low : Char} {b : UInt8} :
    readPair? high low = some b ↔ SpellsByte high low b := by
  rw [readPair?, Option.map_eq_some_iff]
  by_cases hplus : high = '+'
  · subst hplus
    show (∃ n, Numeral.readDigits? 16 0 [low] = some n ∧ UInt8.ofNat n = b) ↔ _
    constructor
    · rintro ⟨n, hn, rfl⟩
      obtain ⟨hlow, rfl⟩ := readDigits?_single.mp hn
      rw [Nat.zero_mul, Nat.zero_add]
      exact .plus hlow
    · intro h
      cases h with
      | digits hhigh hlow => exact absurd hhigh not_isHexDigit_plus
      | plus hlow =>
        exact ⟨_, readDigits?_single.mpr ⟨hlow, rfl⟩, by rw [Nat.zero_mul, Nat.zero_add]⟩
  · rw [readUnsigned?_cons hplus]
    show (∃ n, Numeral.readDigits? 16 0 [high, low] = some n ∧ UInt8.ofNat n = b) ↔ _
    constructor
    · rintro ⟨n, hn, rfl⟩
      obtain ⟨hhigh, hlow, rfl⟩ := readDigits?_pair.mp hn
      exact .digits hhigh hlow
    · intro h
      cases h with
      | digits hhigh hlow => exact ⟨_, readDigits?_pair.mpr ⟨hhigh, hlow, rfl⟩, rfl⟩
      | plus => exact absurd rfl hplus

theorem readPairs?_cons_cons {high low : Char} {rest : List Char} :
    readPairs? (high :: low :: rest)
      = (readPair? high low).bind fun b => (readPairs? rest).map (b :: ·) := by
  rw [readPairs?]
  cases readPair? high low <;> cases readPairs? rest <;> rfl

theorem readPairs?_eq_some_iff :
    ∀ {cs : List Char} {bytes : List UInt8}, readPairs? cs = some bytes ↔ Spells cs bytes
  | [], bytes => by
    constructor
    · intro h
      cases h
      exact .nil
    · intro h
      cases h
      rfl
  | [_], bytes => by
    constructor
    · intro h
      cases h
    · intro h
      cases h
  | high :: low :: rest, bytes => by
    rw [readPairs?_cons_cons, Option.bind_eq_some_iff]
    constructor
    · rintro ⟨b, hb, h⟩
      obtain ⟨tail, htail, rfl⟩ := Option.map_eq_some_iff.mp h
      exact .pair (readPair?_eq_some_iff.mp hb) (readPairs?_eq_some_iff.mp htail)
    · intro h
      cases h with
      | pair hb hrest =>
        refine ⟨_, readPair?_eq_some_iff.mpr hb, ?_⟩
        rw [readPairs?_eq_some_iff.mpr hrest, Option.map_some]

/-! ### Texts of bytes -/

/-- The bytes that pairs of digits stand for. -/
def pairBytes : List Char → List UInt8
  | high :: low :: rest => UInt8.ofNat (hexValue high * 16 + hexValue low) :: pairBytes rest
  | _ => []

namespace Spells

variable {cs : List Char} {bytes : List UInt8}

theorem length_eq (h : Spells cs bytes) : cs.length = bytes.length * 2 := by
  induction h with
  | nil => rfl
  | pair _ _ ih =>
    rw [List.length_cons, List.length_cons, List.length_cons, ih]
    omega

theorem ascii (h : Spells cs bytes) : ∀ c ∈ cs, c.toNat < 128 := by
  induction h with
  | nil => exact fun c hc => absurd hc List.not_mem_nil
  | pair hb _ ih =>
    intro c hc
    rcases List.mem_cons.mp hc with rfl | hc
    · cases hb with
      | digits hhigh _ => exact toNat_lt_of_isHexDigit hhigh
      | plus _ => decide
    · rcases List.mem_cons.mp hc with rfl | hc
      · cases hb with
        | digits _ hlow => exact toNat_lt_of_isHexDigit hlow
        | plus hlow => exact toNat_lt_of_isHexDigit hlow
      · exact ih c hc

theorem eq_pairBytes (h : Spells cs bytes) (hplus : '+' ∉ cs) :
    (∀ c ∈ cs, IsHexDigit c) ∧ bytes = pairBytes cs := by
  induction h with
  | nil => exact ⟨fun c hc => absurd hc List.not_mem_nil, rfl⟩
  | pair hb _ ih =>
    cases hb with
    | plus _ => exact absurd List.mem_cons_self hplus
    | digits hhigh hlow =>
      obtain ⟨hrest, rfl⟩ :=
        ih fun hc => hplus (List.mem_cons_of_mem _ (List.mem_cons_of_mem _ hc))
      refine ⟨fun c hc => ?_, rfl⟩
      rcases List.mem_cons.mp hc with rfl | hc
      · exact hhigh
      · rcases List.mem_cons.mp hc with rfl | hc
        · exact hlow
        · exact hrest c hc

end Spells

/-- Digits in an even number spell the bytes of their pairs. -/
theorem spells_pairBytes :
    ∀ {cs : List Char}, cs.length % 2 = 0 → (∀ c ∈ cs, IsHexDigit c) →
      Spells cs (pairBytes cs)
  | [], _, _ => .nil
  | [_], heven, _ => nomatch heven
  | high :: low :: rest, heven, hdigits => by
    have hrest : rest.length % 2 = 0 := by
      rw [List.length_cons, List.length_cons] at heven
      omega
    have hhigh := hdigits high List.mem_cons_self
    have hlow := hdigits low (List.mem_cons_of_mem _ List.mem_cons_self)
    exact .pair (.digits hhigh hlow)
      (spells_pairBytes hrest fun c hc =>
        hdigits c (List.mem_cons_of_mem _ (List.mem_cons_of_mem _ hc)))

/-! ### Written bytes -/

theorem isHexDigit_digitChar {n : Nat} (h : n < 16) :
    IsHexDigit (Nat.digitChar n) ∧ hexValue (Nat.digitChar n) = n := by
  -- sixteen digits, each looked up
  have hall : ∀ m : Fin 16, IsHexDigit (Nat.digitChar m) ∧
      hexValue (Nat.digitChar m) = m.val := by decide
  exact hall ⟨n, h⟩

theorem spellsByte_byteDigits (b : UInt8) :
    SpellsByte (Nat.digitChar (b.toNat / 16)) (Nat.digitChar (b.toNat % 16)) b := by
  have hb := b.toNat_lt
  obtain ⟨hhigh, hhighValue⟩ := isHexDigit_digitChar (n := b.toNat / 16) (by omega)
  obtain ⟨hlow, hlowValue⟩ := isHexDigit_digitChar (n := b.toNat % 16) (by omega)
  have hvalue : UInt8.ofNat (hexValue (Nat.digitChar (b.toNat / 16)) * 16
      + hexValue (Nat.digitChar (b.toNat % 16))) = b := by
    rw [hhighValue, hlowValue, Nat.mul_comm, Nat.div_add_mod, UInt8.ofNat_toNat]
  have hspells := SpellsByte.digits hhigh hlow
  rwa [hvalue] at hspells

/-- The digits of bytes, two for each, spell the bytes. -/
theorem spells_byteDigits (bytes : List UInt8) :
    Spells (bytes.flatMap Numeral.byteDigits) bytes := by
  induction bytes with
  | nil => exact .nil
  | cons b rest ih => exact .pair (spellsByte_byteDigits b) ih

theorem isHexDigit_of_mem_byteDigits {bytes : List UInt8} {c : Char}
    (h : c ∈ bytes.flatMap Numeral.byteDigits) :
    IsHexDigit c := by
  obtain ⟨b, -, hc⟩ := List.mem_flatMap.mp h
  have hb := b.toNat_lt
  rcases List.mem_pair.mp hc with rfl | rfl
  · exact (isHexDigit_digitChar (by omega)).1
  · exact (isHexDigit_digitChar (by omega)).1

end EepromImage
