/-
Values of a TOML document, and how headings and keys build tables.

* **Error** — why a text is no TOML document, or a document is not what was asked for;
* **Table.descend** — a change to the table that a path leads to; tables on the way are made
  where there are none;
* **Table.insert** — a new entry under a dotted key;
* **Table.place** — the entries under a heading: a table of its own, or the next table of an
  array.
-/
import EepromImage.Text.Basic

namespace EepromImage

/-! ### Errors -/

namespace Toml

/-- A fault of a document. -/
inductive Error
  /-- The text does not go on as the grammar says; so many characters were left. -/
  | unexpected (left : Nat)
  /-- Arrays and inline tables are nested too deeply, or a key has too many parts. -/
  | tooDeep
  /-- A key is defined twice, or a table is reopened that may not be. -/
  | duplicateKey (key : String)
  /-- A key path goes through a value that is no open table. -/
  | notExtensible (key : String)
  /-- A value has another type than its place asks for. -/
  | wrongType (expected : String)
  /-- The digits of an integer spell no number. -/
  | noNumber
  /-- An integer does not fit its place. -/
  | outOfRange (value : Int)
  | missingField (name : String)
  | unknownField (name : String)
deriving DecidableEq, Repr

def Error.message : Error → String
  | .unexpected left =>
    "unexpected text, " ++ Numeral.decimal left ++ " characters before the end"
  | .tooDeep => "nested too deeply"
  | .duplicateKey key => "duplicate key " ++ key
  | .notExtensible key => "cannot extend " ++ key
  | .wrongType expected => "expected " ++ expected
  | .noNumber => "expected digits"
  | .outOfRange value => "integer " ++ Numeral.signed value ++ " out of range"
  | .missingField name => "missing field " ++ name
  | .unknownField name => "unknown field " ++ name

/-! ### Values -/

/-- How a table came about, which decides what may still be added to it. -/
inductive Form
  /-- By a heading of its own. -/
  | headed
  /-- On the way to a longer heading; it may still get a heading of its own. -/
  | implied
  /-- On the way of a dotted key. -/
  | dotted
  /-- Between braces, complete at once. -/
  | closed
deriving DecidableEq, Repr

/-- A value of a document.  The entries of a table have different keys. -/
inductive Value
  | text (content : String)
  /-- An integer.  The number is missing where the digits spell none, which counts only where
  a number is read. -/
  | integer (number : Option Int)
  | boolean (truth : Bool)
  /-- A floating-point number; no setting has one, so it stays as it is written. -/
  | float (written : String)
  /-- A date, a time of day or both; it stays as it is written. -/
  | moment (written : String)
  | array (items : List Value)
  | table (form : Form) (entries : List (String × Value))
  /-- The tables under a heading in double brackets, the latest one first. -/
  | tables (latestFirst : List Value)
deriving Inhabited

/-- The entries of a table. -/
abbrev Entries := List (String × Value)

/-- The value of a key. -/
def Entries.get? (entries : Entries) (key : String) : Option Value :=
  entries.lookup key

/-- The entries with a new one, whose key is not among them. -/
def Entries.add (entries : Entries) (key : String) (value : Value) : Entries :=
  (key, value) :: entries

/-- The entries with another value for a key that is among them. -/
def Entries.put (entries : Entries) (key : String) (value : Value) : Entries :=
  Entries.add (entries.eraseP fun e => e.1 == key) key value

/-- A table with its form. -/
structure Table where
  form : Form
  entries : Entries

namespace Table

/-- The table as a value. -/
def value (t : Table) : Value :=
  .table t.form t.entries

/-- Changes the table that a path leads to.  Tables that are missing on the way get the form
`made`; of an array of tables the latest one is meant.  A table between braces is complete,
and a dotted key may not reach into a table with a heading. -/
def descend (made : Form) :
    List String → (Table → Except Error Table) → Table → Except Error Table
  | [], change, t => change t
  | key :: path, change, t =>
    match t.entries.get? key with
    | none =>
      match descend made path change ⟨made, []⟩ with
      | .ok below => .ok ⟨t.form, t.entries.add key below.value⟩
      | .error e => .error e
    | some (.table form entries) =>
      if form = .closed then .error (.notExtensible key)
      else if made = .dotted ∧ form = .headed then .error (.duplicateKey key)
      else
        match descend made path change ⟨form, entries⟩ with
        | .ok below => .ok ⟨t.form, t.entries.put key below.value⟩
        | .error e => .error e
    | some (.tables (.table form entries :: older)) =>
      match descend made path change ⟨form, entries⟩ with
      | .ok below => .ok ⟨t.form, t.entries.put key (.tables (below.value :: older))⟩
      | .error e => .error e
    | some _ => .error (.notExtensible key)

/-- A table with one more entry.  What a dotted key made takes entries by dotted keys only,
and nothing else does. -/
def add (nested : Bool) (key : String) (v : Value) (t : Table) : Except Error Table :=
  if nested ≠ (t.form = .dotted) then .error (.duplicateKey key)
  else
    match t.entries.get? key with
    | some _ => .error (.duplicateKey key)
    | none => .ok ⟨t.form, t.entries.add key v⟩

/-- A dotted key: the way to a table, and a key in it. -/
structure Key where
  path : List String
  name : String

/-- A table with one more entry under a dotted key. -/
def insert (key : Key) (v : Value) (t : Table) : Except Error Table :=
  t.descend .dotted key.path (add (!key.path.isEmpty) key.name v)

/-- A table with one entry after another. -/
def insertAll (entries : List (Key × Value)) (t : Table) : Except Error Table :=
  entries.foldlM (fun t (key, v) => t.insert key v) t

/-- A table between braces. -/
def ofEntries (entries : List (Key × Value)) : Except Error Table :=
  insertAll entries ⟨.closed, []⟩

/-! ### Headings -/

/-- A heading in single or double brackets. -/
inductive Heading
  | single (key : Key)
  | double (key : Key)

/-- Fills the table under a heading in single brackets, which may be there already on the way
to a longer one. -/
def openAt (name : String) (fill : Table → Except Error Table) (t : Table) :
    Except Error Table :=
  let filled (entries : Entries) :=
    (fill ⟨.headed, entries⟩).map fun below => ⟨t.form, t.entries.put name below.value⟩
  match t.entries.get? name with
  | none => filled []
  | some (.table .implied entries) => filled entries
  | some _ => .error (.duplicateKey name)

/-- Fills one more table under a heading in double brackets. -/
def appendAt (name : String) (fill : Table → Except Error Table) (t : Table) :
    Except Error Table :=
  let filled (older : List Value) :=
    (fill ⟨.headed, []⟩).map fun below =>
      ⟨t.form, t.entries.put name (.tables (below.value :: older))⟩
  match t.entries.get? name with
  | none => filled []
  | some (.tables older) => filled older
  | some _ => .error (.duplicateKey name)

/-- Fills the table under a heading. -/
def place (heading : Heading) (fill : Table → Except Error Table) (t : Table) :
    Except Error Table :=
  match heading with
  | .single key => t.descend .implied key.path (openAt key.name fill)
  | .double key => t.descend .implied key.path (appendAt key.name fill)

end Table

end Toml

end EepromImage
