/-
The grammar of TOML documents.

* **value** — a value, with so many levels of arrays and inline tables left;
* **sections** — the headings of a document, each with the entries under it;
* **parse** — the table that a document stands for.

Every reader of a list is told how many items the whole document can have at most.
-/
import EepromImage.Toml.Scalar

namespace EepromImage.Toml

/-- How deeply arrays and inline tables may be nested, and how many parts a key may have. -/
def maxDepth : Nat := 80

/-! ### Keys -/

/-- A character of a key without quotation marks. -/
def isBareKeyChar (c : Char) : Bool :=
  c.isAlphanum || c = '_' || c = '-'

/-- One part of a key. -/
def keyPart (text : List Char) : Except Error (String × List Char) :=
  match quotedLine? text with
  | some result => result
  | none =>
    match text.takeWhile isBareKeyChar with
    | [] => .error (unexpected text)
    | bare => .ok (String.ofList bare, text.dropWhile isBareKeyChar)

/-- A part of a dotted key, with the blanks around it. -/
def nextKeyPart (text : List Char) : Except Error (Next String) := do
  let (part, rest) ← keyPart (skipBlanks text)
  match skipBlanks rest with
  | '.' :: rest => return .more part rest
  | rest => return .last part rest

/-- A key and the blanks behind it. -/
def key (bound : Nat) (text : List Char) : Except Error (Table.Key × List Char) := do
  let (parts, rest) ← collect bound nextKeyPart text
  match parts.getLast? with
  | some name =>
    if maxDepth < parts.length then .error .tooDeep
    else return (⟨parts.dropLast, name⟩, rest)
  | none => .error (unexpected text)

/-! ### Values -/

/-- An item of an array: a value before a comma or before the end of the array. -/
def nextItem (value : List Char → Except Error (Value × List Char)) (text : List Char) :
    Except Error (Next Value) := do
  match ← skipTrivia false text with
  | ']' :: rest => return .stop rest
  | text =>
    let (item, rest) ← value text
    match ← skipTrivia false rest with
    | ',' :: rest => return .more item rest
    | ']' :: rest => return .last item rest
    | rest => .error (unexpected rest)

/-- A key with its value; `skip` takes what may stand on both sides of the equals sign. -/
def entry (bound : Nat) (skip : List Char → Except Error (List Char))
    (value : List Char → Except Error (Value × List Char)) (text : List Char) :
    Except Error ((Table.Key × Value) × List Char) := do
  let (k, rest) ← key bound text
  let rest ← expect '=' (← skip rest)
  let (v, rest) ← value (← skip rest)
  return ((k, v), rest)

/-- An entry of an inline table, which may go over several lines: one before a comma or before
the end of the table. -/
def nextEntry (bound : Nat) (value : List Char → Except Error (Value × List Char))
    (text : List Char) : Except Error (Next (Table.Key × Value)) := do
  match ← skipTrivia false text with
  | '\x7d' :: rest => return .stop rest
  | text =>
    let (item, rest) ← entry bound (skipTrivia false) value text
    match ← skipTrivia false rest with
    | ',' :: rest => return .more item rest
    | '\x7d' :: rest => return .last item rest
    | rest => .error (unexpected rest)

/-- A value without brackets or braces. -/
def scalar (text : List Char) : Except Error (Value × List Char) :=
  match quoted? text with
  | some result => result.map fun (s, rest) => (.text s, rest)
  | none =>
    let (w, rest) := word text
    match ofWord? w with
    | some v => .ok (v, rest)
    | none => .error (unexpected text)

/-- A value, in which arrays and inline tables may be nested so deeply. -/
def value (bound : Nat) : Nat → List Char → Except Error (Value × List Char)
  | 0, text =>
    match text with
    | '[' :: _ => .error .tooDeep
    | '\x7b' :: _ => .error .tooDeep
    | text => scalar text
  | depth + 1, text =>
    match text with
    | '[' :: rest => do
      let (items, rest) ← collect bound (nextItem (value bound depth)) rest
      return (.array items, rest)
    | '\x7b' :: rest => do
      let (entries, rest) ← collect bound (nextEntry bound (value bound depth)) rest
      return ((← Table.ofEntries entries).value, rest)
    | text => scalar text

/-! ### Documents -/

/-- An entry on a line of its own, up to the next heading. -/
def nextLine (bound : Nat) (text : List Char) : Except Error (Next (Table.Key × Value)) := do
  match ← skipTrivia false text with
  | [] => return .stop []
  | '[' :: rest => return .stop ('[' :: rest)
  | text =>
    let (item, rest) ←
      entry bound (fun text => .ok (skipBlanks text)) (value bound maxDepth) text
    return .more item (← lineEnd false rest)

/-- A heading on a line of its own. -/
def heading (bound : Nat) (text : List Char) : Except Error (Table.Heading × List Char) :=
  match text with
  | '[' :: '[' :: rest => do
    let (k, rest) ← key bound rest
    let rest ← expect ']' rest
    let rest ← expect ']' rest
    return (.double k, ← lineEnd false rest)
  | text => do
    let rest ← expect '[' text
    let (k, rest) ← key bound rest
    let rest ← expect ']' rest
    return (.single k, ← lineEnd false rest)

/-- A heading with the entries under it. -/
structure Section where
  heading : Table.Heading
  entries : List (Table.Key × Value)

/-- A section, up to the next heading. -/
def nextSection (bound : Nat) : List Char → Except Error (Next Section)
  | [] => .ok (.stop [])
  | text => do
    let (h, rest) ← heading bound text
    let (entries, rest) ← collect bound (nextLine bound) rest
    return .more ⟨h, entries⟩ rest

/-- A byte order mark in front does not belong to the document. -/
def dropMark : List Char → List Char
  | '\ufeff' :: rest => rest
  | text => text

/-- A table with one more section. -/
def Table.placeSection (t : Table) (s : Section) : Except Error Table :=
  t.place s.heading (Table.insertAll s.entries)

/-- The table that a document stands for. -/
def parse (text : List Char) : Except Error Table := do
  let bound := text.length + 1
  let (entries, rest) ← collect bound (nextLine bound) (dropMark text)
  let (parts, _) ← collect bound (nextSection bound) rest
  parts.foldlM Table.placeSection (← Table.insertAll entries ⟨.headed, []⟩)

end EepromImage.Toml
