/-
Numbers in the digits of a base, up to the hexadecimal one.

A numeral is read as the number that its digits spell, and only digits are read:

* `readDigits?_eq_some_iff`, `readNatural?_eq_some_iff` — without a sign, and with at least
  one digit;
* `readUnsigned?_eq_some_iff` — where a plus sign may stand in front;
* `isNumerical_decimal`, `isNumerical_markedByte`, … — what is written is made of digits, with
  a marker or a minus sign;
* `numberOf_toDigits` — the digits of a number spell it, with zeros in front or without.

So no two numbers are written alike: `decimal_injective`, `marked_injective`,
`markedByte_injective`, `signed_injective`.
-/
import EepromImage.Proofs.Text.Pairs

namespace EepromImage.Numeral

/-! ### Digits -/

/-- One of the first hexadecimal digits, as many as the base says. -/
def IsDigitOf (base : Nat) (c : Char) : Prop :=
  IsHexDigit c ∧ hexValue c < base

/-- The number that digits spell, each worth the base times the one behind it. -/
def numberOf (base : Nat) (digits : List Char) : Nat :=
  digits.foldl (fun n c => n * base + hexValue c) 0

theorem isDigitOf_ten_iff {c : Char} : IsDigitOf 10 c ↔ '0' ≤ c ∧ c ≤ '9' := by
  show _ ↔ 48 ≤ c.toNat ∧ c.toNat ≤ 57
  rw [IsDigitOf, isHexDigit_iff, hexValue_eq]
  split_ifs <;> omega

theorem not_isDigitOf_plus (base : Nat) : ¬ IsDigitOf base '+' :=
  fun h => not_isHexDigit_plus h.1

/-! ### Reading -/

section Reading

variable {base acc n : Nat} {cs : List Char}

theorem readDigits?_eq_some_iff (hbase : base ≤ 16) : readDigits? base acc cs = some n ↔
    (∀ c ∈ cs, IsDigitOf base c) ∧ n = cs.foldl (fun n c => n * base + hexValue c) acc := by
  induction cs generalizing acc with
  | nil =>
    rw [readDigits?, Option.some_inj]
    constructor
    · rintro rfl
      exact ⟨fun c hc => absurd hc List.not_mem_nil, rfl⟩
    · rintro ⟨-, rfl⟩
      rfl
  | cons c cs ih =>
    rw [readDigits?_cons, Option.bind_eq_some_iff, List.forall_mem_cons, List.foldl_cons]
    constructor
    · rintro ⟨next, hnext, hrest⟩
      obtain ⟨hc, rfl⟩ := (pushDigit?_eq_some_iff_of_le hbase).mp hnext
      obtain ⟨hcs, rfl⟩ := ih.mp hrest
      exact ⟨⟨hc, hcs⟩, rfl⟩
    · rintro ⟨⟨hc, hcs⟩, rfl⟩
      exact ⟨_, (pushDigit?_eq_some_iff_of_le hbase).mpr ⟨hc, rfl⟩, ih.mpr ⟨hcs, rfl⟩⟩

theorem readNatural?_eq_some_iff (hbase : base ≤ 16) : readNatural? base cs = some n ↔
    cs ≠ [] ∧ (∀ c ∈ cs, IsDigitOf base c) ∧ n = numberOf base cs := by
  cases cs with
  | nil =>
    constructor
    · intro h
      cases h
    · rintro ⟨h, -⟩
      exact absurd rfl h
  | cons c cs =>
    rw [and_iff_right (List.cons_ne_nil c cs)]
    exact readDigits?_eq_some_iff hbase

theorem readUnsigned?_eq_some_iff (hbase : base ≤ 16) : readUnsigned? base cs = some n ↔
    ∃ digits, (cs = digits ∨ cs = '+' :: digits) ∧ digits ≠ [] ∧
      (∀ c ∈ digits, IsDigitOf base c) ∧
      n = numberOf base digits := by
  have hbare {digits : List Char} (hne : digits ≠ [])
      (hdigits : ∀ c ∈ digits, IsDigitOf base c) :
      readUnsigned? base digits = readNatural? base digits := by
    cases digits with
    | nil => exact absurd rfl hne
    | cons c digits =>
      refine readUnsigned?_cons fun hplus => not_isDigitOf_plus base ?_
      exact hplus ▸ hdigits c List.mem_cons_self
  constructor
  · intro h
    unfold readUnsigned? at h
    split at h
    · exact ⟨_, .inr rfl, (readNatural?_eq_some_iff hbase).mp h⟩
    · exact ⟨_, .inl rfl, (readNatural?_eq_some_iff hbase).mp h⟩
  · rintro ⟨digits, rfl | rfl, hne, hdigits, hn⟩
    · rw [hbare hne hdigits, readNatural?_eq_some_iff hbase]
      exact ⟨hne, hdigits, hn⟩
    · show readNatural? base digits = some n
      exact (readNatural?_eq_some_iff hbase).mpr ⟨hne, hdigits, hn⟩

end Reading

/-! ### Writing -/

theorem isHexDigit_of_mem_toDigits {base n : Nat} (hpos : 1 < base) (hbase : base ≤ 16)
    {c : Char} (h : c ∈ Nat.toDigits base n) : IsHexDigit c := by
  induction n using Nat.strongRecOn with
  | ind n ih =>
    have hmod : n % base < 16 := Nat.lt_of_lt_of_le (Nat.mod_lt n (by omega)) hbase
    rcases Nat.lt_or_ge n base with hlt | hge
    · rw [Nat.toDigits_of_lt_base hlt, List.mem_singleton] at h
      exact h ▸ (isHexDigit_digitChar (by omega)).1
    · rw [Nat.toDigits_of_base_le hpos hge] at h
      rcases List.mem_append.mp h with h | h
      · exact ih (n / base) (Nat.div_lt_self (by omega) hpos) h
      · rw [List.mem_singleton] at h
        exact h ▸ (isHexDigit_digitChar hmod).1

theorem isHexDigit_of_mem_hex {width n : Nat} {c : Char} (h : c ∈ (hex width n).toList) :
    IsHexDigit c := by
  rw [hex, String.toList_ofList, zeroFill] at h
  rcases List.mem_append.mp h with h | h
  · rw [List.eq_of_mem_replicate h]
    decide
  · exact isHexDigit_of_mem_toDigits (by decide) (by decide) h

theorem isHexDigit_of_mem_decimal {n : Nat} {c : Char} (h : c ∈ (decimal n).toList) :
    IsHexDigit c := by
  rw [decimal, String.toList_ofList] at h
  exact isHexDigit_of_mem_toDigits (by decide) (by decide) h

theorem isHexDigit_of_mem_hexByte {b : UInt8} {c : Char} (h : c ∈ (hexByte b).toList) :
    IsHexDigit c := by
  have hmem : c ∈ [b].flatMap byteDigits := by simpa [hexByte] using h
  exact isHexDigit_of_mem_byteDigits hmem

/-- What numerals are made of: digits, the letter of the marker, the minus sign. -/
def IsNumeralChar (c : Char) : Prop :=
  IsHexDigit c ∨ c = 'x' ∨ c = '-'

instance : DecidablePred IsNumeralChar := fun c =>
  inferInstanceAs (Decidable (IsHexDigit c ∨ c = 'x' ∨ c = '-'))

/-- The text has only what numerals are made of. -/
def IsNumerical (text : String) : Prop :=
  ∀ c ∈ text.toList, IsNumeralChar c

theorem IsNumerical.not_mem {text : String} (h : IsNumerical text) {c : Char}
    (hc : ¬ IsNumeralChar c) :
    c ∉ text.toList :=
  fun hmem => hc (h c hmem)

theorem IsNumerical.append {s t : String} (hs : IsNumerical s) (ht : IsNumerical t) :
    IsNumerical (s ++ t) := by
  rw [IsNumerical, String.toList_append, List.forall_mem_append]
  exact ⟨hs, ht⟩

theorem isNumerical_marker : IsNumerical "0x" := by
  intro c hc
  rcases List.mem_pair.mp hc with rfl | rfl
  · decide
  · decide

theorem isNumerical_minus : IsNumerical "-" := by
  intro c hc
  rw [List.mem_singleton.mp hc]
  decide

theorem isNumerical_decimal (n : Nat) : IsNumerical (decimal n) :=
  fun _ hc => .inl (isHexDigit_of_mem_decimal hc)

theorem isNumerical_hex (width n : Nat) : IsNumerical (hex width n) :=
  fun _ hc => .inl (isHexDigit_of_mem_hex hc)

theorem isNumerical_marked (width n : Nat) : IsNumerical (marked width n) :=
  isNumerical_marker.append (isNumerical_hex width n)

theorem isNumerical_hexByte (b : UInt8) : IsNumerical (hexByte b) :=
  fun _ hc => .inl (isHexDigit_of_mem_hexByte hc)

theorem isNumerical_markedByte (b : UInt8) : IsNumerical (markedByte b) :=
  isNumerical_marker.append (isNumerical_hexByte b)

theorem isNumerical_signed (z : Int) : IsNumerical (signed z) := by
  rw [signed]
  split_ifs
  · exact isNumerical_minus.append (isNumerical_decimal _)
  · exact isNumerical_decimal _

theorem numberOf_concat (base : Nat) (digits : List Char) (c : Char) :
    numberOf base (digits ++ [c]) = numberOf base digits * base + hexValue c := by
  rw [numberOf, List.foldl_append]
  rfl

theorem numberOf_zeros_append (base count : Nat) (digits : List Char) :
    numberOf base (List.replicate count '0' ++ digits) = numberOf base digits := by
  induction count with
  | zero => rfl
  | succ count ih =>
    rw [List.replicate_succ, List.cons_append, numberOf, List.foldl_cons]
    have hzero : 0 * base + hexValue '0' = 0 := by rw [Nat.zero_mul]; rfl
    rw [hzero]
    exact ih

theorem numberOf_toDigits {base : Nat} (hpos : 1 < base) (hbase : base ≤ 16) (n : Nat) :
    numberOf base (Nat.toDigits base n) = n := by
  -- the last digit is the remainder, and those in front of it are the digits of the quotient
  induction n using Nat.strongRecOn with
  | ind n ih =>
    rcases Nat.lt_or_ge n base with hlt | hge
    · obtain ⟨-, hvalue⟩ := isHexDigit_digitChar (n := n) (by omega)
      rw [Nat.toDigits_of_lt_base hlt]
      show 0 * base + hexValue (Nat.digitChar n) = n
      rw [hvalue, Nat.zero_mul, Nat.zero_add]
    · have hmod : n % base < 16 := Nat.lt_of_lt_of_le (Nat.mod_lt n (by omega)) hbase
      obtain ⟨-, hvalue⟩ := isHexDigit_digitChar hmod
      rw [Nat.toDigits_of_base_le hpos hge, numberOf_concat,
        ih (n / base) (Nat.div_lt_self (by omega) hpos), hvalue, Nat.mul_comm,
        Nat.div_add_mod]

theorem numberOf_byteDigits (b : UInt8) : numberOf 16 (byteDigits b) = b.toNat := by
  have hb := b.toNat_lt
  obtain ⟨-, hhigh⟩ := isHexDigit_digitChar (n := b.toNat / 16) (by omega)
  obtain ⟨-, hlow⟩ := isHexDigit_digitChar (n := b.toNat % 16) (by omega)
  show (0 * 16 + hexValue (Nat.digitChar (b.toNat / 16))) * 16
      + hexValue (Nat.digitChar (b.toNat % 16)) = b.toNat
  omega

/-! ### Numbers that are written alike -/

theorem decimal_injective : Function.Injective decimal := by
  intro n m h
  have hdigits : Nat.toDigits 10 n = Nat.toDigits 10 m := String.ofList_injective h
  have hnumber := congrArg (numberOf 10) hdigits
  rw [numberOf_toDigits (by decide) (by decide),
    numberOf_toDigits (by decide) (by decide)] at hnumber
  exact hnumber

theorem marked_injective (width : Nat) : Function.Injective (marked width) := by
  intro n m h
  have hdigits : zeroFill width (Nat.toDigits 16 n) = zeroFill width (Nat.toDigits 16 m) :=
    String.ofList_injective ((String.append_right_inj "0x").mp h)
  have hnumber := congrArg (numberOf 16) hdigits
  rw [zeroFill, zeroFill, numberOf_zeros_append, numberOf_zeros_append,
    numberOf_toDigits (by decide) (by decide),
    numberOf_toDigits (by decide) (by decide)] at hnumber
  exact hnumber

theorem hexByte_injective : Function.Injective hexByte := by
  intro b b' h
  have hnumber := congrArg (numberOf 16) (String.ofList_injective h)
  rw [numberOf_byteDigits, numberOf_byteDigits] at hnumber
  exact UInt8.toNat_inj.mp hnumber

theorem markedByte_injective : Function.Injective markedByte :=
  fun _ _ h => hexByte_injective ((String.append_right_inj "0x").mp h)

theorem twosComplement_injective : Function.Injective twosComplement := by
  intro b b' h
  have hb := b.toNat_lt
  have hb' := b'.toNat_lt
  rw [twosComplement, twosComplement] at h
  refine UInt8.toNat_inj.mp ?_
  split_ifs at h <;> omega

/-- A minus sign is no digit. -/
theorem decimal_ne_minus (n m : Nat) : decimal n ≠ "-" ++ decimal m := by
  intro h
  have hmem : '-' ∈ (decimal n).toList := by
    rw [h, String.toList_append]
    exact List.mem_cons_self
  rw [decimal, String.toList_ofList] at hmem
  exact absurd (isHexDigit_of_mem_toDigits (by decide) (by decide) hmem) (by decide)

theorem signed_injective : Function.Injective signed := by
  intro z z' h
  rw [signed, signed] at h
  split_ifs at h
  · have := decimal_injective ((String.append_right_inj "-").mp h)
    omega
  · exact absurd h.symm (decimal_ne_minus _ _)
  · exact absurd h (decimal_ne_minus _ _)
  · have := decimal_injective h
    omega

end EepromImage.Numeral
