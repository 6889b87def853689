/-
Texts of a single line, and the words of a text.

* `isSingleLine_append`, `isSingleLine_join`, `isSingleLine_intercalate` — a text is a single
  line if its parts are; numerals are.

Round and square brackets, commas and blanks stand between the words of a description, and in
none of them:

* `words_append_separator` — the words on both sides of a separator are found one side after
  the other;
* `words_of_isWord`, `words_intercalate` — a word, and words in a row, are found as they are;
* `IsNumerical.isUnbroken` — numerals have no break.
-/
import EepromImage.Proofs.Text.Numerals

namespace EepromImage

/-! ### Single lines -/

/-- The text has no line feed. -/
def IsSingleLine (text : String) : Prop :=
  '\n' ∉ text.toList

instance : DecidablePred IsSingleLine := fun text =>
  inferInstanceAs (Decidable ('\n' ∉ text.toList))

/-! ### Parts -/

@[simp] theorem isSingleLine_append {s t : String} :
    IsSingleLine (s ++ t) ↔ IsSingleLine s ∧ IsSingleLine t := by
  simp [IsSingleLine, not_or]

theorem isSingleLine_ofList {cs : List Char} (h : '\n' ∉ cs) :
    IsSingleLine (String.ofList cs) := by
  simpa [IsSingleLine] using h

theorem isSingleLine_join {parts : List String} (h : ∀ s ∈ parts, IsSingleLine s) :
    IsSingleLine (String.join parts) := by
  simpa [IsSingleLine] using h

theorem isSingleLine_intercalate {sep : String} {parts : List String}
    (hsep : IsSingleLine sep) (h : ∀ s ∈ parts, IsSingleLine s) :
    IsSingleLine (sep.intercalate parts) := by
  induction parts with
  | nil => simp [IsSingleLine]
  | cons s rest ih =>
    cases rest with
    | nil => simpa [IsSingleLine, List.intercalate] using h s List.mem_cons_self
    | cons t rest =>
      have hs := h s List.mem_cons_self
      have hrest := ih fun u hu => h u (List.mem_cons_of_mem s hu)
      simp only [IsSingleLine, String.toList_intercalate, List.map_cons] at *
      rw [List.intercalate_cons_cons]
      simp_all

/-! ### Numbers on a single line -/

namespace Numeral

theorem IsNumerical.isSingleLine {text : String} (h : IsNumerical text) : IsSingleLine text :=
  h.not_mem (by decide)

@[simp] theorem isSingleLine_decimal (n : Nat) : IsSingleLine (decimal n) :=
  (isNumerical_decimal n).isSingleLine

@[simp] theorem isSingleLine_marked (width n : Nat) : IsSingleLine (marked width n) :=
  (isNumerical_marked width n).isSingleLine

@[simp] theorem isSingleLine_hexByte (b : UInt8) : IsSingleLine (hexByte b) :=
  (isNumerical_hexByte b).isSingleLine

@[simp] theorem isSingleLine_markedByte (b : UInt8) : IsSingleLine (markedByte b) :=
  (isNumerical_markedByte b).isSingleLine

@[simp] theorem isSingleLine_signed (z : Int) : IsSingleLine (signed z) :=
  (isNumerical_signed z).isSingleLine

@[simp] theorem isSingleLine_spacedHex (bytes : List UInt8) :
    IsSingleLine (spacedHex bytes) := by
  refine isSingleLine_intercalate (by decide) fun s hs => ?_
  obtain ⟨b, -, rfl⟩ := List.mem_map.mp hs
  exact isSingleLine_hexByte b

@[simp] theorem isSingleLine_padLeft {width : Nat} {text : String} :
    IsSingleLine (padLeft width text) ↔ IsSingleLine text := by
  rw [padLeft, isSingleLine_append, and_iff_right]
  exact isSingleLine_ofList fun h => absurd (List.eq_of_mem_replicate h) (by decide)

end Numeral

/-! ### Words -/

namespace Text

/-- A character that stands between words. -/
def isBreak (c : Char) : Bool :=
  ['(', ')', '[', ']', ',', ' '].contains c

/-- What stands between the breaks, from left to right. -/
def words (text : String) : List String :=
  ((text.toList.splitOnP isBreak).filter fun w => !w.isEmpty).map String.ofList

/-- The text has no break. -/
def IsUnbroken (text : String) : Prop :=
  ∀ c ∈ text.toList, isBreak c = false

instance : DecidablePred IsUnbroken := fun text =>
  List.decidableBAll (isBreak · = false) text.toList

/-- A text that is a single word. -/
structure IsWord (text : String) : Prop where
  ne_empty : text ≠ ""
  unbroken : IsUnbroken text

instance : DecidablePred IsWord := fun text =>
  decidable_of_iff (text ≠ "" ∧ IsUnbroken text)
    ⟨fun ⟨hne, h⟩ => ⟨hne, h⟩, fun ⟨hne, h⟩ => ⟨hne, h⟩⟩

/-- A text of nothing but breaks, at least one. -/
structure IsSeparator (text : String) : Prop where
  ne_empty : text ≠ ""
  breaks : text.toList.all isBreak = true

instance : DecidablePred IsSeparator := fun text =>
  decidable_of_iff (text ≠ "" ∧ text.toList.all isBreak = true)
    ⟨fun ⟨hne, h⟩ => ⟨hne, h⟩, fun ⟨hne, h⟩ => ⟨hne, h⟩⟩

variable {s t sep : String}

/-! ### Words and separators -/

@[simp] theorem isUnbroken_append : IsUnbroken (s ++ t) ↔ IsUnbroken s ∧ IsUnbroken t := by
  rw [IsUnbroken, String.toList_append, List.forall_mem_append]
  rfl

/-- A word with something unbroken behind it is still one word. -/
theorem IsWord.append (hs : IsWord s) (ht : IsUnbroken t) : IsWord (s ++ t) := by
  refine ⟨fun h => hs.ne_empty ?_, isUnbroken_append.mpr ⟨hs.unbroken, ht⟩⟩
  exact (String.append_eq_empty_iff.mp h).1

@[simp] theorem words_empty : words "" = [] := by
  rw [words, String.toList_empty, List.splitOnP_nil]
  rfl

theorem words_of_isWord (h : IsWord s) : words s = [s] := by
  have hne : s.toList ≠ [] := fun hnil => h.ne_empty (String.toList_eq_nil_iff.mp hnil)
  rw [words, List.splitOnP_eq_singleton h.unbroken,
    List.filter_eq_self.mpr (by simpa using hne), List.map_singleton, String.ofList_toList]

/-- Everything about the words of a text comes from this: those on both sides of a break are
found one side after the other. -/
theorem words_ofList_append_break {c : Char} (hc : isBreak c = true) (cs ds : List Char) :
    words (String.ofList (cs ++ c :: ds))
      = words (String.ofList cs) ++ words (String.ofList ds) := by
  simp only [words, String.toList_ofList]
  rw [List.splitOnP_append_cons cs ds hc, List.filter_append, List.map_append]

theorem words_ofList_breaks_append {cs : List Char} (h : ∀ c ∈ cs, isBreak c = true)
    (ds : List Char) :
    words (String.ofList (cs ++ ds)) = words (String.ofList ds) := by
  induction cs with
  | nil => rfl
  | cons c cs ih =>
    have hrest := ih fun d hd => h d (List.mem_cons_of_mem c hd)
    exact (words_ofList_append_break (h c List.mem_cons_self) [] (cs ++ ds)).trans hrest

theorem words_append_separator (h : IsSeparator sep) (s t : String) :
    words (s ++ sep ++ t) = words s ++ words t := by
  obtain ⟨c, cs, hsep⟩ :=
    List.exists_cons_of_ne_nil (mt String.toList_eq_nil_iff.mp h.ne_empty)
  have hbreaks := List.all_eq_true.mp h.breaks
  rw [hsep, List.forall_mem_cons] at hbreaks
  have htext : s ++ sep ++ t = String.ofList (s.toList ++ c :: (cs ++ t.toList)) := by
    apply String.toList_injective
    rw [String.toList_append, String.toList_append, hsep, String.toList_ofList,
      List.append_assoc, List.cons_append]
  rw [htext, words_ofList_append_break hbreaks.1, words_ofList_breaks_append hbreaks.2,
    String.ofList_toList, String.ofList_toList]

theorem words_intercalate (h : IsSeparator sep) {ws : List String}
    (hws : ∀ w ∈ ws, IsWord w) :
    words (sep.intercalate ws) = ws := by
  induction ws with
  | nil => exact words_empty
  | cons w ws ih =>
    have hw := hws w List.mem_cons_self
    cases ws with
    | nil =>
      rw [String.intercalate_singleton]
      exact words_of_isWord hw
    | cons w' ws =>
      rw [String.intercalate_cons_cons, words_append_separator h, words_of_isWord hw,
        ih fun v hv => hws v (List.mem_cons_of_mem _ hv)]
      rfl

/-- Words between brackets, behind whatever stands in front of them. -/
theorem words_bracketed {opening closing : String} (hopening : IsSeparator opening)
    (hclosing : IsSeparator closing) (s t : String) :
    words (s ++ opening ++ t ++ closing) = words s ++ words t := by
  have hend := words_append_separator hclosing (s ++ opening ++ t) ""
  rwa [String.append_empty, words_empty, List.append_nil,
    words_append_separator hopening] at hend

end Text

namespace Numeral

open Text

/-! ### Numerals as words -/

theorem IsNumerical.isUnbroken {text : String} (h : IsNumerical text) : IsUnbroken text := by
  have hbreaks : ['(', ')', '[', ']', ',', ' '].all (fun d => !decide (IsNumeralChar d))
      = true := by decide
  intro c hc
  rw [Bool.eq_false_iff]
  intro hbreak
  have hnot := List.all_eq_true.mp hbreaks c (List.contains_iff_mem.mp hbreak)
  rw [decide_eq_true (h c hc)] at hnot
  cases hnot

theorem isWord_hexByte (b : UInt8) : IsWord (hexByte b) :=
  ⟨fun h => List.cons_ne_nil _ _ (String.ofList_injective h),
    (isNumerical_hexByte b).isUnbroken⟩

theorem isWord_markedByte (b : UInt8) : IsWord (markedByte b) :=
  IsWord.append (by decide) (isNumerical_hexByte b).isUnbroken

end Numeral

end EepromImage
