/-
Lines of a text.

* `trim_eq_self` — text without white space is not trimmed;
* `lines_flatMap_newline` — pieces that each end with a line feed are split one by one, with
  nothing behind the last;
* `lines_flatMap` — pieces without a line feed of their own are the lines;
* `lines_withLine` — a line in the place of another one leaves all other lines alone;
* `number_cons` — the first line keeps its number, if it is not blank;
* `numberedLines_single` — a text without a line feed is one line.
-/
import EepromImage.Text.Basic
import Mathlib.Data.List.Basic

namespace EepromImage.Text

/-! ### White space -/

theorem trimLeft_eq_self {cs : List Char} (h : ∀ c ∈ cs, isBlank c = false) :
    trimLeft cs = cs := by
  cases cs with
  | nil => rfl
  | cons c rest =>
    have hc := h c List.mem_cons_self
    rw [trimLeft, List.dropWhile_cons, hc]
    rfl

theorem trim_eq_self {cs : List Char} (h : ∀ c ∈ cs, isBlank c = false) : trim cs = cs := by
  have hreverse : trimLeft cs.reverse = cs.reverse :=
    trimLeft_eq_self fun c hc => h c (List.mem_reverse.mp hc)
  rw [trim, trimLeft_eq_self h, trimRight]
  show (trimLeft cs.reverse).reverse = cs
  rw [hreverse, List.reverse_reverse]

/-! ### Line feeds -/

theorem newline_not_mem {cs : List Char} (h : ∀ c ∈ cs, isBlank c = false) : '\n' ∉ cs := by
  intro hmem
  have hblank : isBlank '\n' = true := by decide
  rw [h _ hmem] at hblank
  cases hblank

theorem lines_append_newline (text rest : List Char) :
    lines (text ++ '\n' :: rest) = lines text ++ lines rest :=
  List.splitOn_append_cons_self text rest

theorem lines_eq_singleton {line : List Char} (h : '\n' ∉ line) : lines line = [line] :=
  List.splitOn_eq_singleton h

/-- Pieces that each end with a line feed bring their own lines. -/
theorem lines_flatMap_newline (pieces : List (List Char)) :
    lines (pieces.flatMap fun l => l ++ ['\n']) = pieces.flatMap lines ++ [[]] := by
  induction pieces with
  | nil => rfl
  | cons piece rest ih =>
    rw [List.flatMap_cons, List.append_assoc, List.singleton_append, lines_append_newline, ih,
      List.flatMap_cons, List.append_assoc]

theorem lines_flatMap {ls : List (List Char)} (h : ∀ l ∈ ls, '\n' ∉ l) :
    lines (ls.flatMap fun l => l ++ ['\n']) = ls ++ [[]] := by
  rw [lines_flatMap_newline, List.flatMap_congr fun l hl => lines_eq_singleton (h l hl),
    List.flatMap_singleton']

theorem newline_not_mem_of_mem_lines {text line : List Char} (h : line ∈ lines text) :
    '\n' ∉ line := by
  induction text generalizing line with
  | nil =>
    rw [lines, List.splitOn_nil, List.mem_singleton] at h
    subst h
    exact List.not_mem_nil
  | cons c rest ih =>
    rw [lines, List.splitOn_cons_eq_if_modifyHead] at h
    split_ifs at h with hc
    · rcases List.mem_cons.mp h with rfl | h
      · exact List.not_mem_nil
      · exact ih h
    · -- the first line of the rest gets `c` in front, the others stay what they are
      cases hlines : List.splitOn '\n' rest with
      | nil => exact absurd hlines (List.splitOn_ne_nil '\n' rest)
      | cons first others =>
        have hall : ∀ l ∈ first :: others, '\n' ∉ l := by
          intro l hl
          exact ih (by rwa [lines, hlines])
        rw [hlines, List.modifyHead_cons] at h
        rcases List.mem_cons.mp h with rfl | h
        · have hne : '\n' ≠ c := by
            rintro rfl
            simp at hc
          exact List.not_mem_cons_of_ne_of_not_mem hne (hall first List.mem_cons_self)
        · exact hall line (List.mem_cons_of_mem first h)

/-- The text with another line in the place of line `k`, counted from 0. -/
def withLine (text : List Char) (k : Nat) (line : List Char) : List Char :=
  ['\n'].intercalate ((lines text).set k line)

theorem lines_withLine {text line : List Char} (k : Nat) (h : '\n' ∉ line) :
    lines (withLine text k line) = (lines text).set k line := by
  rw [lines, withLine, List.splitOn_intercalate]
  · intro l hl
    rcases List.mem_or_eq_of_mem_set hl with hl | rfl
    · exact newline_not_mem_of_mem_lines hl
    · exact h
  · rw [ne_eq, List.set_eq_nil_iff]
    exact List.splitOn_ne_nil '\n' text

/-! ### Numbers -/

theorem number_cons (first : Nat) (piece : List Char) (pieces : List (List Char)) :
    number first (piece :: pieces)
      = if (trim piece).isEmpty then number (first + 1) pieces
        else ⟨first, trim piece⟩ :: number (first + 1) pieces := by
  rw [number, List.zipIdx_cons, List.map_cons, List.filter_cons]
  cases (trim piece).isEmpty <;> rfl

theorem number_cons_of_ne_nil {piece : List Char} (h : trim piece ≠ []) (first : Nat)
    (pieces : List (List Char)) :
    number first (piece :: pieces) = ⟨first, trim piece⟩ :: number (first + 1) pieces := by
  have hne : (trim piece).isEmpty = false := List.isEmpty_eq_false_iff.mpr h
  rw [number_cons, hne, if_neg Bool.false_ne_true]

theorem numberedLines_single {line : List Char} (hline : '\n' ∉ line)
    (hblank : trim line ≠ []) :
    numberedLines line = [⟨1, trim line⟩] := by
  rw [numberedLines, lines_eq_singleton hline, number_cons_of_ne_nil hblank]
  rfl

end EepromImage.Text
