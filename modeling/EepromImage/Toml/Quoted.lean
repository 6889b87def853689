/-
Blanks, line ends, comments and quoted texts of a TOML document.

* **skipBlanks** — blanks within a line;
* **skipTrivia** — blanks, line ends and comments in any number;
* **lineEnd** — what may follow a heading or an entry on its line;
* **collect** — the items of a list, by a reader of one item;
* **Quotation.step**, **Quotation.read** — the transition of the automaton that reads quoted
  texts, on one line or on several, with escapes or without, and its run.

A carriage return counts only in front of a line feed; alone it is refused everywhere.
-/
import EepromImage.Toml.Value

namespace EepromImage

/-! ### Blanks -/

namespace Toml

/-- A space or a tab. -/
def isBlank (c : Char) : Bool :=
  c = ' ' || c = '\t'

/-- A character that may stand in a comment or in a quoted text: a tab, or anything that is no
control character. -/
def isTextChar (c : Char) : Bool :=
  c = '\t' || (0x20 ≤ c.toNat && c.toNat ≠ 0x7f)

/-- The text does not go on as it should. -/
def unexpected (text : List Char) : Error :=
  .unexpected text.length

/-- Without blanks in front. -/
def skipBlanks (text : List Char) : List Char :=
  text.dropWhile isBlank

/-- Without the blanks, line ends and comments in front. -/
def skipTrivia (inComment : Bool) : List Char → Except Error (List Char)
  | [] => .ok []
  | '\n' :: rest => skipTrivia false rest
  | '\r' :: '\n' :: rest => skipTrivia false rest
  | c :: rest =>
    if inComment then
      if isTextChar c then skipTrivia true rest else .error (unexpected (c :: rest))
    else if c = '#' then skipTrivia true rest
    else if isBlank c then skipTrivia false rest
    else .ok (c :: rest)

/-- What follows the line, of which only blanks and a comment may be left. -/
def lineEnd (inComment : Bool) : List Char → Except Error (List Char)
  | [] => .ok []
  | '\n' :: rest => .ok rest
  | '\r' :: '\n' :: rest => .ok rest
  | c :: rest =>
    if inComment then
      if isTextChar c then lineEnd true rest else .error (unexpected (c :: rest))
    else if c = '#' then lineEnd true rest
    else if isBlank c then lineEnd false rest
    else .error (unexpected (c :: rest))

/-- The text behind an expected character. -/
def expect (c : Char) : List Char → Except Error (List Char)
  | [] => .error (unexpected [])
  | d :: rest => if d = c then .ok rest else .error (unexpected (d :: rest))

/-! ### Lists of things -/

/-- What a reader finds where a list may go on. -/
inductive Next (α : Type)
  /-- An item, with more of the list behind it. -/
  | more (item : α) (rest : List Char)
  /-- An item, with the end of the list behind it. -/
  | last (item : α) (rest : List Char)
  /-- The end of the list. -/
  | stop (rest : List Char)

/-- The items of a list in reverse, read one after another. -/
def collectReverse {α : Type} (next : List Char → Except Error (Next α)) :
    Nat → List α → List Char → Except Error (List α × List Char)
  | 0, _, text => .error (unexpected text)
  | bound + 1, items, text =>
    match next text with
    | .error e => .error e
    | .ok (.more item rest) => collectReverse next bound (item :: items) rest
    | .ok (.last item rest) => .ok (item :: items, rest)
    | .ok (.stop rest) => .ok (items, rest)

/-- The items of a list, fewer than `bound`, and what follows it.  Every item takes a
character or more, so that no list in a text of `n` characters has more than `n` items. -/
def collect {α : Type} (bound : Nat) (next : List Char → Except Error (Next α))
    (text : List Char) : Except Error (List α × List Char) :=
  (collectReverse next bound [] text).map fun (items, rest) => (items.reverse, rest)

/-! ### Quoted texts -/

/-- The four ways to quote differ in their mark, in whether lines may end, and in whether a
backslash escapes. -/
structure Quotation where
  mark : Char
  multiline : Bool
  escapes : Bool

/-- Where a reader stands in a quoted text. -/
inductive Place
  /-- Between characters. -/
  | plain
  /-- Behind so many marks of a text on several lines. -/
  | marks (count : Nat)
  /-- Behind a carriage return, with a line feed to come. -/
  | carriage (joining : Bool)
  /-- Behind a backslash. -/
  | escape
  /-- Within the digits of a code point. -/
  | code (left value : Nat)
  /-- Behind a backslash and blanks, with a line end to come. -/
  | joinBlank
  /-- Behind an escaped line end: white space is dropped. -/
  | join

/-- A place, and the characters read so far in reverse. -/
structure Progress where
  place : Place
  chars : List Char

/-- What a character does to a reader. -/
inductive Move
  | next (progress : Progress)
  /-- The character ends the text. -/
  | close (chars : List Char)
  /-- The text ended in front of the character. -/
  | closeBefore (chars : List Char)
  | refuse

/-- The character that a letter stands for behind a backslash. -/
def escaped? : Char → Option Char
  | 'b' => some '\x08'
  | 't' => some '\t'
  | 'n' => some '\n'
  | 'f' => some '\x0c'
  | 'r' => some '\r'
  | 'e' => some '\x1b'
  | '"' => some '"'
  | '\\' => some '\\'
  | _ => none

/-- How many digits of a code point follow a letter behind a backslash. -/
def codeDigits? : Char → Option Nat
  | 'x' => some 2
  | 'u' => some 4
  | 'U' => some 8
  | _ => none

/-- The character with a code point; surrogates and numbers past the last code point have
none. -/
def charOfCode? (code : Nat) : Option Char :=
  if h : code.isValidChar then some (Char.ofNatAux code h) else none

namespace Quotation

def basic : Quotation := ⟨'"', false, true⟩
def literal : Quotation := ⟨'\'', false, false⟩
def basicLines : Quotation := ⟨'"', true, true⟩
def literalLines : Quotation := ⟨'\'', true, false⟩

/-- A character between characters. -/
def stepPlain (q : Quotation) (chars : List Char) (c : Char) : Move :=
  if c = q.mark then
    if q.multiline then .next ⟨.marks 1, chars⟩ else .close chars
  else if c = '\\' && q.escapes then .next ⟨.escape, chars⟩
  else if isTextChar c then .next ⟨.plain, c :: chars⟩
  else if !q.multiline then .refuse
  else if c = '\n' then .next ⟨.plain, c :: chars⟩
  else if c = '\r' then .next ⟨.carriage false, c :: chars⟩
  else .refuse

/-- A character behind a backslash. -/
def stepEscape (q : Quotation) (chars : List Char) (c : Char) : Move :=
  match escaped? c, codeDigits? c with
  | some d, _ => .next ⟨.plain, d :: chars⟩
  | none, some n => .next ⟨.code n 0, chars⟩
  | none, none =>
    if !q.multiline then .refuse
    else if isBlank c then .next ⟨.joinBlank, chars⟩
    else if c = '\n' then .next ⟨.join, chars⟩
    else if c = '\r' then .next ⟨.carriage true, chars⟩
    else .refuse

/-- A digit of a code point; behind the last one stands the character. -/
def stepCode (left value : Nat) (chars : List Char) (c : Char) : Move :=
  match Numeral.pushDigit? 16 value c with
  | none => .refuse
  | some value' =>
    if 1 < left then .next ⟨.code (left - 1) value', chars⟩
    else
      match charOfCode? value' with
      | some d => .next ⟨.plain, d :: chars⟩
      | none => .refuse

/-- The effect of one character.  Of up to five marks in a row the last three close a text on
several lines. -/
def step (q : Quotation) (p : Progress) (c : Char) : Move :=
  match p.place with
  | .plain => q.stepPlain p.chars c
  | .marks n =>
    if c = q.mark then
      if n = 4 then .close (q.mark :: q.mark :: p.chars) else .next ⟨.marks (n + 1), p.chars⟩
    else if 3 ≤ n then .closeBefore (List.replicate (n - 3) q.mark ++ p.chars)
    else q.stepPlain (List.replicate n q.mark ++ p.chars) c
  | .carriage joining =>
    if c = '\n' then .next (if joining then ⟨.join, p.chars⟩ else ⟨.plain, c :: p.chars⟩)
    else .refuse
  | .escape => q.stepEscape p.chars c
  | .code left value => stepCode left value p.chars c
  | .joinBlank =>
    if isBlank c then .next p
    else if c = '\n' then .next ⟨.join, p.chars⟩
    else if c = '\r' then .next ⟨.carriage true, p.chars⟩
    else .refuse
  | .join =>
    if isBlank c || c = '\n' then .next p
    else if c = '\r' then .next ⟨.carriage true, p.chars⟩
    else q.stepPlain p.chars c

/-- The characters of a text that may end with the document, in reverse. -/
def closeAtEnd? (q : Quotation) (p : Progress) : Option (List Char) :=
  match p.place with
  | .marks n => if 3 ≤ n then some (List.replicate (n - 3) q.mark ++ p.chars) else none
  | _ => none

/-- The quoted text and what follows its closing mark. -/
def read (q : Quotation) (p : Progress) : List Char → Except Error (String × List Char)
  | [] =>
    match q.closeAtEnd? p with
    | some chars => .ok (String.ofList chars.reverse, [])
    | none => .error (unexpected [])
  | c :: rest =>
    match q.step p c with
    | .next p' => q.read p' rest
    | .close chars => .ok (String.ofList chars.reverse, rest)
    | .closeBefore chars => .ok (String.ofList chars.reverse, c :: rest)
    | .refuse => .error (unexpected (c :: rest))

end Quotation

/-- Without a line end in front. -/
def dropLineEnd : List Char → List Char
  | '\n' :: rest => rest
  | '\r' :: '\n' :: rest => rest
  | rest => rest

/-- A text quoted on one line, if one begins here. -/
def quotedLine? : List Char → Option (Except Error (String × List Char))
  | '"' :: rest => some (Quotation.basic.read ⟨.plain, []⟩ rest)
  | '\'' :: rest => some (Quotation.literal.read ⟨.plain, []⟩ rest)
  | _ => none

/-- A quoted text, if one begins here.  A line end right behind three opening marks does not
belong to the text. -/
def quoted? : List Char → Option (Except Error (String × List Char))
  | '"' :: '"' :: '"' :: rest =>
    some (Quotation.basicLines.read ⟨.plain, []⟩ (dropLineEnd rest))
  | '\'' :: '\'' :: '\'' :: rest =>
    some (Quotation.literalLines.read ⟨.plain, []⟩ (dropLineEnd rest))
  | text => quotedLine? text

end Toml

end EepromImage
