/-
White space around the lines of a text.

A text is read line by line, and a line without the white space around it:

* `numberedLines_append` — behind whole lines, the lines of a text are numbered on;
* `contents` — what is left of the lines, without the blank ones;
* `Respaced` — one change of the white space: a blank line more, padding around a line, a
  carriage return in front of a line feed;
* `contents_congr` — such changes, made or taken back, do not reach what is left.
-/
import Mathlib.Data.List.TakeWhile
import Mathlib.Logic.Relation
import EepromImage.Proofs.Text.Lines

namespace EepromImage.Text

/-! ### Whole lines -/

/-- The text is empty or ends with a line feed. -/
def IsLines (text : List Char) : Prop :=
  text = [] ∨ ∃ front, text = front ++ ['\n']

theorem length_lines (text : List Char) : (lines text).length = text.count '\n' + 1 := by
  induction text with
  | nil => rfl
  | cons c rest ih =>
    rw [lines] at ih
    rw [lines, List.splitOn_cons_eq_if_modifyHead]
    by_cases hc : c = '\n'
    · simp [hc, ih]
    · simp [hc, ih]

/-- Behind a line feed there is a line of its own, be it without a character. -/
theorem lines_concat_newline (front : List Char) :
    lines (front ++ ['\n']) = lines front ++ [[]] :=
  lines_append_newline front []

/-! ### Numbers -/

/-- The line under another number. -/
def Line.renumber (f : Nat → Nat) (line : Line) : Line :=
  ⟨f line.number, line.content⟩

theorem number_append (first : Nat) (pieces pieces' : List (List Char)) :
    number first (pieces ++ pieces')
      = number first pieces ++ number (first + pieces.length) pieces' := by
  rw [number, List.zipIdx_append, List.map_append, List.filter_append, Nat.add_comm first]
  rfl

theorem number_concat_nil (first : Nat) (pieces : List (List Char)) :
    number first (pieces ++ [[]]) = number first pieces := by
  rw [number_append]
  exact List.append_nil _

theorem number_add (first k : Nat) (pieces : List (List Char)) :
    number (first + k) pieces = (number first pieces).map (Line.renumber (· + k)) := by
  induction pieces generalizing first with
  | nil => rfl
  | cons piece rest ih =>
    have hrest := ih (first + 1)
    rw [Nat.add_right_comm] at hrest
    rw [number_cons, number_cons, hrest]
    cases (trim piece).isEmpty <;> rfl

/-- Behind whole lines, the lines of a text are numbered on. -/
theorem numberedLines_append {text : List Char} (h : IsLines text) (rest : List Char) :
    numberedLines (text ++ rest)
      = numberedLines text ++ (numberedLines rest).map
        (Line.renumber (· + text.count '\n')) := by
  rw [numberedLines, numberedLines, numberedLines, ← number_add]
  rcases h with rfl | ⟨front, rfl⟩
  · rfl
  · have hcount : (front ++ ['\n']).count '\n' = (lines front).length := by
      rw [length_lines, List.count_append, List.count_singleton_self]
    rw [hcount, lines_concat_newline, number_concat_nil, List.append_assoc,
      List.singleton_append, lines_append_newline, number_append]

/-! ### Contents -/

/-- The lines of a text without the white space around them, those without anything else left
out. -/
def contents (text : List Char) : List (List Char) :=
  ((lines text).map trim).filter fun line => !line.isEmpty

theorem map_content_number (first : Nat) (pieces : List (List Char)) :
    (number first pieces).map Line.content
      = (pieces.map trim).filter fun line => !line.isEmpty := by
  induction pieces generalizing first with
  | nil => rfl
  | cons piece rest ih =>
    rw [number_cons, List.map_cons, List.filter_cons, ← ih (first + 1)]
    cases (trim piece).isEmpty <;> rfl

theorem map_content_numberedLines (text : List Char) :
    (numberedLines text).map Line.content = contents text :=
  map_content_number 1 (lines text)

theorem contents_append_newline (text rest : List Char) :
    contents (text ++ '\n' :: rest) = contents text ++ contents rest := by
  rw [contents, lines_append_newline, List.map_append, List.filter_append]
  rfl

theorem contents_append_of_isLines {text : List Char} (h : IsLines text) (rest : List Char) :
    contents (text ++ rest) = contents text ++ contents rest := by
  rcases h with rfl | ⟨front, rfl⟩
  · rfl
  · rw [List.append_assoc, List.singleton_append, contents_append_newline,
      contents_append_newline, List.append_assoc]
    rfl

/-- The text is empty or starts with a line feed. -/
def IsBehindLine (text : List Char) : Prop :=
  text = [] ∨ ∃ rest, text = '\n' :: rest

theorem contents_append_of_isBehindLine {rest : List Char} (h : IsBehindLine rest)
    (text : List Char) :
    contents (text ++ rest) = contents text ++ contents rest := by
  rcases h with rfl | ⟨rest, rfl⟩
  · rw [List.append_nil]
    exact (List.append_nil _).symm
  · rw [contents_append_newline]
    exact congrArg (contents text ++ ·) (contents_append_newline [] rest).symm

theorem contents_of_not_mem {line : List Char} (h : '\n' ∉ line) :
    contents line = if (trim line).isEmpty then [] else [trim line] := by
  rw [contents, lines_eq_singleton h, List.map_singleton, List.filter_singleton]
  cases (trim line).isEmpty <;> rfl

/-! ### White space in a line -/

/-- White space, without a line feed. -/
def IsPadding (cs : List Char) : Prop :=
  ∀ c ∈ cs, isBlank c = true ∧ c ≠ '\n'

theorem IsPadding.newline_not_mem {cs : List Char} (h : IsPadding cs) : '\n' ∉ cs :=
  fun hmem => (h '\n' hmem).2 rfl

theorem IsPadding.reverse {cs : List Char} (h : IsPadding cs) : IsPadding cs.reverse :=
  fun c hc => h c (List.mem_reverse.mp hc)

theorem isPadding_nil : IsPadding [] := nofun

theorem isPadding_singleton {c : Char} (hblank : isBlank c = true) (hne : c ≠ '\n') :
    IsPadding [c] := by
  intro d hd
  rw [List.mem_singleton.mp hd]
  exact ⟨hblank, hne⟩

theorem trimLeft_append {left : List Char} (h : IsPadding left) (cs : List Char) :
    trimLeft (left ++ cs) = trimLeft cs :=
  List.dropWhile_append_of_pos fun c hc => (h c hc).1

theorem trimRight_append {right : List Char} (h : IsPadding right) (cs : List Char) :
    trimRight (cs ++ right) = trimRight cs := by
  have hleft : trimLeft (right.reverse ++ cs.reverse) = trimLeft cs.reverse :=
    trimLeft_append h.reverse _
  rw [trimRight, List.reverse_append]
  show (trimLeft (right.reverse ++ cs.reverse)).reverse = _
  rw [hleft]
  rfl

theorem trim_padded {left right : List Char} (hleft : IsPadding left)
    (hright : IsPadding right) (cs : List Char) :
    trim (left ++ cs ++ right) = trim cs := by
  rw [trim, List.append_assoc, trimLeft_append hleft, trimLeft, List.dropWhile_append]
  split_ifs with hcs
  · -- nothing but white space: what is left of it is nothing, with the padding or without
    have hnil : trimLeft cs = [] := List.isEmpty_iff.mp hcs
    have hright' : right.dropWhile isBlank = [] :=
      List.dropWhile_eq_nil_iff.mpr fun c hc => (hright c hc).1
    rw [trim, hnil, hright']
  · rw [trimRight_append hright]
    rfl

theorem contents_padded {left line right : List Char} (hleft : IsPadding left)
    (hline : '\n' ∉ line) (hright : IsPadding right) :
    contents (left ++ line ++ right) = contents line := by
  have hnot : '\n' ∉ left ++ line ++ right := by
    simp only [List.mem_append, not_or]
    exact ⟨⟨hleft.newline_not_mem, hline⟩, hright.newline_not_mem⟩
  rw [contents_of_not_mem hnot, contents_of_not_mem hline, trim_padded hleft hright]

theorem contents_eq_nil {blanks : List Char} (h : IsPadding blanks) :
    contents blanks = [] := by
  have hempty := contents_padded h List.not_mem_nil isPadding_nil
  rwa [List.append_nil, List.append_nil] at hempty

/-! ### Changes of white space -/

/-- One change of the white space between the lines of a text or around one of them. -/
inductive Respaced : List Char → List Char → Prop
  /-- A blank line in front of a line. -/
  | blankLine {front behind blanks : List Char} (hfront : IsLines front)
    (hblanks : IsPadding blanks) :
      Respaced (front ++ behind) (front ++ blanks ++ '\n' :: behind)
  /-- A blank line at the end. -/
  | blankEnd {text blanks : List Char} (hblanks : IsPadding blanks) :
      Respaced text (text ++ '\n' :: blanks)
  /-- White space around a line. -/
  | padding {front left line right behind : List Char} (hfront : IsLines front)
      (hline : '\n' ∉ line) (hbehind : IsBehindLine behind) (hleft : IsPadding left)
      (hright : IsPadding right) :
      Respaced (front ++ line ++ behind) (front ++ (left ++ line ++ right) ++ behind)
  /-- A carriage return at the end of a line. -/
  | carriageReturn {front line behind : List Char} (hfront : IsLines front)
      (hline : '\n' ∉ line) :
      Respaced (front ++ line ++ '\n' :: behind) (front ++ line ++ '\r' :: '\n' :: behind)

theorem Respaced.contents_eq {text text' : List Char} (h : Respaced text text') :
    contents text' = contents text := by
  cases h with
  | blankLine hfront hblanks =>
    rw [List.append_assoc, contents_append_of_isLines hfront, contents_append_newline,
      contents_eq_nil hblanks, contents_append_of_isLines hfront, List.nil_append]
  | blankEnd hblanks => rw [contents_append_newline, contents_eq_nil hblanks, List.append_nil]
  | padding hfront hline hbehind hleft hright =>
    rw [contents_append_of_isBehindLine hbehind, contents_append_of_isBehindLine hbehind,
      contents_append_of_isLines hfront, contents_append_of_isLines hfront,
      contents_padded hleft hline hright]
  | @carriageReturn front line behind hfront hline =>
    have hreturn : IsPadding ['\r'] := isPadding_singleton (by decide) (by decide)
    have hpadded := contents_padded isPadding_nil hline hreturn
    rw [List.nil_append] at hpadded
    rw [List.append_cons, contents_append_newline, contents_append_newline, List.append_assoc,
      contents_append_of_isLines hfront, contents_append_of_isLines hfront, hpadded]

/-- However the white space is changed, the lines keep their contents. -/
theorem contents_congr {text text' : List Char} (h : Relation.EqvGen Respaced text text') :
    contents text = contents text' := by
  induction h with
  | rel _ _ hstep => exact hstep.contents_eq.symm
  | refl _ => rfl
  | symm _ _ _ ih => exact ih.symm
  | trans _ _ _ _ _ hfirst hsecond => exact hfirst.trans hsecond

end EepromImage.Text
