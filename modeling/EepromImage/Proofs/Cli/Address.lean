/-
Written addresses.

An address is written in hexadecimal digits behind `0x`, or in decimal ones, with underscores
among them.  The number reader that is behind this takes a plus sign, though:

* `readUnsigned?_filter_eq_some_iff` — with the underscores left out, what is read is a
  numeral, or one behind a plus sign that has nothing but underscores in front of it;
* `readAddress?_eq_some_iff` — so are addresses, as long as they fit in 32 bits;
* `readAddress?_iff` — without a plus sign exactly the written addresses are read, and no
  other number than the one written;
* `readAddress?_plus` — a plus sign behind the marker of the base is read.
-/
import EepromImage.Cli.Arguments
import EepromImage.Proofs.Text.Numerals

namespace EepromImage.Cli

open Numeral

variable {base n : Nat} {cs : List Char}

/-! ### Numerals -/

/-- Digits of the base and underscores, at least one digit, that spell the number. -/
structure IsNumeral (base : Nat) (cs : List Char) (n : Nat) : Prop where
  isDigitOf : ∀ c ∈ cs, c = '_' ∨ IsDigitOf base c
  exists_isDigitOf : ∃ c ∈ cs, IsDigitOf base c
  value_eq : n = numberOf base (cs.filter (· ≠ '_'))

/-- A numeral, or a numeral behind a plus sign, in front of which there is nothing but
underscores. -/
inductive IsSignedNumeral (base : Nat) : List Char → Nat → Prop
  | bare {cs : List Char} {n : Nat} (h : IsNumeral base cs n) : IsSignedNumeral base cs n
  | plus {front cs : List Char} {n : Nat} (hfront : ∀ c ∈ front, c = '_')
      (h : IsNumeral base cs n) :
      IsSignedNumeral base (front ++ '+' :: cs) n

theorem not_isDigitOf_underscore : ¬ IsDigitOf base '_' :=
  fun h => absurd h.1 (by decide)

theorem isNumeral_iff : IsNumeral base cs n ↔ cs.filter (· ≠ '_') ≠ [] ∧
    (∀ c ∈ cs.filter (· ≠ '_'), IsDigitOf base c) ∧
      n = numberOf base (cs.filter (· ≠ '_')) := by
  constructor
  · rintro ⟨hdigits, ⟨c, hc, hdigit⟩, rfl⟩
    have hne : c ≠ '_' := fun h => not_isDigitOf_underscore (h ▸ hdigit)
    have hmem : c ∈ cs.filter (· ≠ '_') := List.mem_filter.mpr ⟨hc, decide_eq_true hne⟩
    refine ⟨List.ne_nil_of_mem hmem, fun d hd => ?_, rfl⟩
    obtain ⟨hd, hne⟩ := List.mem_filter.mp hd
    exact (hdigits d hd).resolve_left (of_decide_eq_true hne)
  · rintro ⟨hne, hdigits, rfl⟩
    obtain ⟨c, hc⟩ := List.exists_mem_of_ne_nil _ hne
    refine ⟨fun d hd => ?_, ⟨c, (List.mem_filter.mp hc).1, hdigits c hc⟩, rfl⟩
    by_cases hunderscore : d = '_'
    · exact .inl hunderscore
    · exact .inr (hdigits d (List.mem_filter.mpr ⟨hd, decide_eq_true hunderscore⟩))

/-- With the underscores left out, the reader takes signed numerals. -/
theorem readUnsigned?_filter_eq_some_iff (hbase : base ≤ 16) :
    readUnsigned? base (cs.filter (· ≠ '_')) = some n ↔ IsSignedNumeral base cs n := by
  rw [readUnsigned?_eq_some_iff hbase]
  constructor
  · rintro ⟨digits, hcs | hcs, hne, hdigits, hn⟩
    · rw [← hcs] at hne hdigits hn
      exact .bare (isNumeral_iff.mpr ⟨hne, hdigits, hn⟩)
    · obtain ⟨front, behind, rfl, hfront, -, rfl⟩ := List.filter_eq_cons_iff.mp hcs
      exact .plus (fun c hc => by simpa using hfront c hc)
        (isNumeral_iff.mpr ⟨hne, hdigits, hn⟩)
  · intro h
    cases h with
    | bare h => exact ⟨_, .inl rfl, isNumeral_iff.mp h⟩
    | plus hfront h =>
      rename_i front behind
      have hnone : front.filter (· ≠ '_') = [] := by
        rw [List.filter_eq_nil_iff]
        intro c hc
        simpa using hfront c hc
      refine ⟨_, .inr ?_, isNumeral_iff.mp h⟩
      rw [List.filter_append, hnone, List.nil_append, List.filter_cons_of_pos (by decide)]

/-- What stands in a signed numeral. -/
theorem IsSignedNumeral.mem (h : IsSignedNumeral base cs n) {c : Char} (hc : c ∈ cs) :
    c = '+' ∨ c = '_' ∨ IsDigitOf base c := by
  cases h with
  | bare h => exact .inr (h.isDigitOf c hc)
  | plus hfront h =>
    rcases List.mem_append.mp hc with hc | hc
    · exact .inr (.inl (hfront c hc))
    · rcases List.mem_cons.mp hc with rfl | hc
      · exact .inl rfl
      · exact .inr (h.isDigitOf c hc)

theorem IsNumeral.plus_not_mem (h : IsNumeral base cs n) : '+' ∉ cs :=
  fun hmem => (h.isDigitOf _ hmem).elim (by decide) (not_isDigitOf_plus base)

theorem isSignedNumeral_iff_of_not_mem (hplus : '+' ∉ cs) :
    IsSignedNumeral base cs n ↔ IsNumeral base cs n := by
  constructor
  · intro h
    cases h with
    | bare h => exact h
    | plus => exact absurd (List.mem_append_right _ List.mem_cons_self) hplus
  · exact .bare

/-! ### Addresses -/

/-- A numeral of some kind: in hexadecimal behind the marker of the base, or in decimal. -/
def IsAddressIn (numeral : Nat → List Char → Nat → Prop) (cs : List Char) (n : Nat) : Prop :=
  (∃ digits, (cs = '0' :: 'x' :: digits ∨ cs = '0' :: 'X' :: digits) ∧ numeral 16 digits n) ∨
    numeral 10 cs n

/-- A written address. -/
def IsAddress (cs : List Char) (n : Nat) : Prop :=
  IsAddressIn IsNumeral cs n

theorem IsAddress.plus_not_mem (h : IsAddress cs n) : '+' ∉ cs := by
  rcases h with ⟨digits, rfl | rfl, h⟩ | h
  · exact List.not_mem_cons_of_ne_of_not_mem (by decide)
      (List.not_mem_cons_of_ne_of_not_mem (by decide) h.plus_not_mem)
  · exact List.not_mem_cons_of_ne_of_not_mem (by decide)
      (List.not_mem_cons_of_ne_of_not_mem (by decide) h.plus_not_mem)
  · exact h.plus_not_mem

theorem isAddressIn_iff_of_not_mem (hplus : '+' ∉ cs) :
    IsAddressIn IsSignedNumeral cs n ↔ IsAddress cs n := by
  refine or_congr (exists_congr fun digits => and_congr_right fun hcs => ?_)
    (isSignedNumeral_iff_of_not_mem hplus)
  refine isSignedNumeral_iff_of_not_mem fun hmem => hplus ?_
  rcases hcs with rfl | rfl
  · exact List.mem_cons_of_mem _ (List.mem_cons_of_mem _ hmem)
  · exact List.mem_cons_of_mem _ (List.mem_cons_of_mem _ hmem)

/-- The marker of the base is taken off, or there is none. -/
theorem splitBase_cases (cs : List Char) :
    (∃ digits, (cs = '0' :: 'x' :: digits ∨ cs = '0' :: 'X' :: digits) ∧
      splitBase cs = (16, digits)) ∨
      (∀ digits, cs ≠ '0' :: 'x' :: digits ∧ cs ≠ '0' :: 'X' :: digits) ∧
        splitBase cs = (10, cs) := by
  unfold splitBase
  split
  · exact .inl ⟨_, .inl rfl, rfl⟩
  · exact .inl ⟨_, .inr rfl, rfl⟩
  · rename_i hlower hupper
    exact .inr ⟨fun digits => ⟨hlower digits, hupper digits⟩, rfl⟩

/-- A decimal numeral does not start with the marker of another base. -/
theorem IsSignedNumeral.ne_marked (h : IsSignedNumeral 10 cs n) (digits : List Char) :
    cs ≠ '0' :: 'x' :: digits ∧ cs ≠ '0' :: 'X' :: digits := by
  have hletter {x : Char} (hx : ¬ (x = '+' ∨ x = '_' ∨ ('0' ≤ x ∧ x ≤ '9'))) :
      cs ≠ '0' :: x :: digits := by
    rintro rfl
    have hmem := h.mem (List.mem_cons_of_mem _ List.mem_cons_self)
    rw [isDigitOf_ten_iff] at hmem
    exact hx hmem
  exact ⟨hletter (by decide), hletter (by decide)⟩

theorem isAddressIn_iff_splitBase :
    IsAddressIn IsSignedNumeral cs n ↔
      IsSignedNumeral (splitBase cs).1 (splitBase cs).2 n := by
  rcases splitBase_cases cs with ⟨digits, hcs, hsplit⟩ | ⟨hcs, hsplit⟩
  · rw [hsplit]
    constructor
    · rintro (⟨digits', hcs', h⟩ | h)
      · have hsame : digits' = digits := by
          rcases hcs with rfl | rfl <;> rcases hcs' with h' | h' <;> cases h' <;> rfl
        exact hsame ▸ h
      · obtain ⟨hlower, hupper⟩ := h.ne_marked digits
        exact absurd hcs (not_or.mpr ⟨hlower, hupper⟩)
    · intro h
      exact .inl ⟨digits, hcs, h⟩
  · rw [hsplit]
    constructor
    · rintro (⟨digits', hcs', -⟩ | h)
      · exact absurd hcs' (not_or.mpr (hcs digits'))
      · exact h
    · exact .inr

theorem readAddress?_eq (text : String) : readAddress? text =
    (readBelow? UInt32.size (splitBase (Text.trim text.toList)).1
      ((splitBase (Text.trim text.toList)).2.filter (· ≠ '_'))).map UInt32.ofNat := rfl

/-- Exactly the signed numerals are read, each as its number, if it fits in 32 bits. -/
theorem readAddress?_eq_some_iff {text : String} {v : UInt32} :
    readAddress? text = some v ↔
      IsAddressIn IsSignedNumeral (Text.trim text.toList) v.toNat := by
  have hbase : (splitBase (Text.trim text.toList)).1 ≤ 16 := by
    rcases splitBase_cases (Text.trim text.toList) with ⟨digits, -, hsplit⟩ | ⟨-, hsplit⟩
    · exact hsplit ▸ Nat.le_refl 16
    · exact hsplit ▸ (by decide : 10 ≤ 16)
  rw [isAddressIn_iff_splitBase, ← readUnsigned?_filter_eq_some_iff hbase, readAddress?_eq,
    readBelow?, Option.map_eq_some_iff]
  constructor
  · rintro ⟨n, hn, rfl⟩
    obtain ⟨hread, hfits⟩ := Option.filter_eq_some_iff.mp hn
    rw [UInt32.toNat_ofNat_of_lt' (of_decide_eq_true hfits)]
    exact hread
  · intro hread
    exact ⟨v.toNat, Option.filter_eq_some_iff.mpr ⟨hread, decide_eq_true v.toNat_lt⟩,
      UInt32.ofNat_toNat⟩

/-- What is read as an address is what is written, up to white space at the ends, but that a
plus sign may stand in front of the digits.  A text without a plus sign is read exactly if it
is a written address below 2^32, and as the number that is written; any other is refused. -/
theorem readAddress?_iff (text : String) :
    (∀ v, readAddress? text = some v ↔
      IsAddressIn IsSignedNumeral (Text.trim text.toList) v.toNat) ∧
    ('+' ∉ Text.trim text.toList →
      (∀ v, readAddress? text = some v ↔ IsAddress (Text.trim text.toList) v.toNat) ∧
      (readAddress? text = none ↔ ∀ n, IsAddress (Text.trim text.toList) n →
        UInt32.size ≤ n)) := by
  refine ⟨fun v => readAddress?_eq_some_iff, fun hplus => ?_⟩
  have hread (v : UInt32) : readAddress? text = some v ↔
      IsAddress (Text.trim text.toList) v.toNat := by
    rw [readAddress?_eq_some_iff, isAddressIn_iff_of_not_mem hplus]
  refine ⟨hread, ?_⟩
  rw [Option.eq_none_iff_forall_ne_some]
  constructor
  · intro hnone n hn
    by_contra hfits
    refine hnone (UInt32.ofNat n) ((hread _).mpr ?_)
    rwa [UInt32.toNat_ofNat_of_lt' (Nat.lt_of_not_le hfits)]
  · intro hlarge v hv
    exact Nat.not_le.mpr v.toNat_lt (hlarge _ ((hread v).mp hv))

/-- Underscores between the digits and blanks around them are fine, and the first number past
the 32 bits is refused. -/
theorem readAddress?_underscores :
    ('+' ∉ Text.trim " 0x0081_0000 ".toList ∧ readAddress? " 0x0081_0000 " = some 0x810000 ∧
      IsAddress (Text.trim " 0x0081_0000 ".toList) 0x810000) ∧
    ('+' ∉ Text.trim "4294967296".toList ∧ readAddress? "4294967296" = none ∧
      ∀ n, IsAddress (Text.trim "4294967296".toList) n → UInt32.size ≤ n) := by
  have hplus : '+' ∉ Text.trim " 0x0081_0000 ".toList := by decide
  have hread : readAddress? " 0x0081_0000 " = some 0x810000 := by decide
  have hplus' : '+' ∉ Text.trim "4294967296".toList := by decide
  have hread' : readAddress? "4294967296" = none := by decide
  exact ⟨⟨hplus, hread, (((readAddress?_iff _).2 hplus).1 _).mp hread⟩,
    hplus', hread', ((readAddress?_iff _).2 hplus').2.mp hread'⟩

/-- A plus sign behind the marker of the base is read, but no address is written with one. -/
theorem readAddress?_plus :
    readAddress? "0x+10000" = some 0x10000 ∧
      ¬ ∃ n, IsAddress (Text.trim "0x+10000".toList) n := by
  refine ⟨by decide, ?_⟩
  rintro ⟨n, hn⟩
  exact hn.plus_not_mem (by decide)

end EepromImage.Cli
