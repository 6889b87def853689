/-
The forms in which reports are printed.

A JSON value stands on one line, without blanks, the members of an object in the given order.
A table is drawn with box characters: a header, a double line under it, and dashed lines
between the rows.  A column is as wide as its widest line, with one blank on either side; a
cell may have several lines.

* **Json.render** — a JSON value as text;
* **Grid.lines** — the lines of a drawn table.
-/
import EepromImage.Text.Width
import EepromImage.Text.Basic

namespace EepromImage

/-! ### Forms -/

namespace Report

/-- The form of a report. -/
inductive Format
  /-- One JSON value. -/
  | json
  /-- A drawn table. -/
  | table
  /-- Lines for people. -/
  | pretty
  /-- Lines for other programs. -/
  | raw
deriving DecidableEq, Repr

def Format.all : List Format :=
  [.json, .table, .pretty, .raw]

def Format.name : Format → String
  | .json => "json"
  | .table => "table"
  | .pretty => "pretty"
  | .raw => "raw"

/-- Lines, each with its line feed. -/
def unlines (lines : List String) : String :=
  String.join (lines.map fun line => line ++ "\n")

/-! ### JSON -/

/-- A JSON value.  Reports have no numbers but natural ones. -/
inductive Json
  | null
  | boolean (truth : Bool)
  | number (n : Nat)
  | text (content : String)
  | array (items : List Json)
  | object (members : List (String × Json))

namespace Json

/-- A character of a quoted text.  Quotation mark, backslash and control characters are
escaped, with a letter of their own where they have one. -/
def escape (c : Char) : String :=
  match c with
  | '"' => "\\\""
  | '\\' => "\\\\"
  | '\x08' => "\\b"
  | '\x0c' => "\\f"
  | '\n' => "\\n"
  | '\r' => "\\r"
  | '\t' => "\\t"
  | c => if c.toNat < 0x20 then "\\u" ++ Numeral.hex 4 c.toNat else String.singleton c

/-- A text between quotation marks. -/
def quote (text : String) : String :=
  "\"" ++ String.join (text.toList.map escape) ++ "\""

mutual

/-- The value as text. -/
def render : Json → String
  | .null => "null"
  | .boolean b => if b then "true" else "false"
  | .number n => Numeral.decimal n
  | .text s => quote s
  | .array items => "[" ++ ",".intercalate (renderItems items) ++ "]"
  | .object members => "\x7b" ++ ",".intercalate (renderMembers members) ++ "\x7d"

/-- The items of an array as texts. -/
def renderItems : List Json → List String
  | [] => []
  | item :: rest => item.render :: renderItems rest

/-- The members of an object as texts. -/
def renderMembers : List (String × Json) → List String
  | [] => []
  | (name, value) :: rest => (quote name ++ ":" ++ value.render) :: renderMembers rest

end

/-- A byte. -/
def byte (b : UInt8) : Json :=
  .number b.toNat

/-- A value that may be missing. -/
def orNull {α : Type} (write : α → Json) : Option α → Json
  | some a => write a
  | none => .null

end Json

/-! ### Drawn tables -/

/-- A table of texts.  Every row has as many cells as the header. -/
structure Grid where
  header : List String
  rows : List (List String)

namespace Grid

/-- The lines of a cell. -/
def cellLines (cell : String) : List String :=
  (cell.toList.splitOn '\n').map String.ofList

/-- The width of the widest line of a cell. -/
def cellWidth (cell : String) : Nat :=
  ((cellLines cell).map Text.displayWidth).foldl max 0

/-- The greater width for each column. -/
def widen : List Nat → List String → List Nat
  | [], cells => cells.map cellWidth
  | widths, [] => widths
  | w :: widths, cell :: cells => max w (cellWidth cell) :: widen widths cells

/-- The width of each column. -/
def widths (g : Grid) : List Nat :=
  (g.header :: g.rows).foldl widen []

/-- A horizontal line: its left end, what it is made of, its crossings and its right end. -/
def rule (left fill cross right : String) (widths : List Nat) : String :=
  left ++ cross.intercalate (widths.map fun w => String.join (List.replicate (w + 2) fill))
    ++ right

/-- A line of a cell, filled up with blanks to the width of its column. -/
def pad (width : Nat) (line : String) : String :=
  line ++ String.ofList (List.replicate (width - Text.displayWidth line) ' ')

/-- The lines of a row. -/
def rowLines (widths : List Nat) (cells : List String) : List String :=
  let columns := widths.zip (cells.map cellLines)
  let height := (columns.map fun (_, lines) => lines.length).foldl max 0
  (List.range height).map fun i =>
    "│ " ++ " ┆ ".intercalate (columns.map fun (w, lines) => pad w (lines[i]?.getD ""))
      ++ " │"

/-- The lines of the table. -/
def lines (g : Grid) : List String :=
  let ws := g.widths
  let between := rule "├" "╌" "┼" "┤" ws
  let rows := (List.intersperse [between] (g.rows.map (rowLines ws))).flatten
  rule "┌" "─" "┬" "┐" ws :: rowLines ws g.header ++ rule "╞" "═" "╪" "╡" ws :: rows
    ++ [rule "└" "─" "┴" "┘" ws]

end Grid

end Report

end EepromImage
