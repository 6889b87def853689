/-
Reading a JSON value back from its text.

The reader takes compact JSON: no blanks, no numbers but natural ones, and no pairs of
surrogates, which reports have none of.  It goes down only so many levels, so that it ends.

* `reads_scanCharacter`, `reads_scanQuoted` — a quoted text is read back, its escapes
  included;
* `scanNumber_append` — a number is read back in front of anything that is no digit;
* `scanList_append` — so is a list, if each of its items is;
* `scan_append` — so is every value, by a reader that goes deep enough.
-/
import EepromImage.Proofs.Text.Scan
import EepromImage.Report.Format

namespace EepromImage.Report.Json

open Scan

variable {α : Type}

/-! ### Texts -/

/-- The character that an escaped letter stands for. -/
def unescaped? : Char → Option Char
  | '"' => some '"'
  | '\\' => some '\\'
  | '/' => some '/'
  | 'b' => some '\x08'
  | 'f' => some '\x0c'
  | 'n' => some '\n'
  | 'r' => some '\r'
  | 't' => some '\t'
  | _ => none

/-- A character by the four digits of its code. -/
def scanCode : Scan Char
  | a :: b :: c :: d :: rest =>
    (Numeral.readDigits? 16 0 [a, b, c, d]).bind fun n =>
      if n.isValidChar then some (Char.ofNat n, rest) else none
  | _ => none

/-- A character of a quoted text, written as it stands or escaped. -/
def scanCharacter : Scan Char
  | '\\' :: 'u' :: rest => scanCode rest
  | '\\' :: letter :: rest => (unescaped? letter).map fun c => (c, rest)
  | c :: rest => if c = '"' ∨ c = '\\' ∨ c.toNat < 0x20 then none else some (c, rest)
  | [] => none

def scanQuoted : Scan String := do
  word "\""
  let cs ← scanCharacter.manyTill "\""
  return String.ofList cs

theorem hex_control :
    ∀ n < 0x20, (Numeral.hex 4 n).toList = ['0', '0', Nat.digitChar (n / 16),
      Nat.digitChar (n % 16)] ∧
    Numeral.readDigits? 16 0 ['0', '0', Nat.digitChar (n / 16), Nat.digitChar (n % 16)]
      = some n := by
  decide

theorem reads_scanCode {n : Nat} (hn : n < 0x20) :
    scanCode.Reads (Numeral.hex 4 n).toList (Char.ofNat n) := by
  obtain ⟨htext, hread⟩ := hex_control n hn
  intro rest
  rw [htext]
  show (Numeral.readDigits? 16 0 ['0', '0', _, _]).bind _ = _
  rw [hread, Option.bind_some, if_pos (Or.inl (Nat.lt_trans hn (by decide)))]
  rfl

/-- A character that needs no escape stands for itself. -/
theorem scanCharacter_plain {c : Char} (hquote : c ≠ '"') (hbackslash : c ≠ '\\')
    (hcontrol : ¬ c.toNat < 0x20) (rest : List Char) :
    scanCharacter (c :: rest) = some (c, rest) := by
  unfold scanCharacter
  split
  · rename_i heq
    exact absurd (List.cons.inj heq).1 hbackslash
  · rename_i heq
    exact absurd (List.cons.inj heq).1 hbackslash
  · rename_i heq
    obtain ⟨rfl, rfl⟩ := List.cons.inj heq
    simp [hquote, hbackslash, hcontrol]
  · rename_i heq
    cases heq

theorem reads_scanCharacter (c : Char) : scanCharacter.Reads (escape c).toList c := by
  intro rest
  unfold escape
  -- the characters with a letter of their own, and then all others
  split
  · rfl
  · rfl
  · rfl
  · rfl
  · rfl
  · rfl
  · rfl
  · rename_i hquote hbackslash _ _ _ _ _
    split
    · rename_i hcontrol
      rw [String.toList_append]
      show scanCode ((Numeral.hex 4 c.toNat).toList ++ rest) = _
      rw [reads_scanCode hcontrol rest, Char.ofNat_toNat]
    · rename_i hcontrol
      rw [String.toList_singleton]
      exact scanCharacter_plain hquote hbackslash hcontrol rest

/-- No character is written as something that starts with a quotation mark. -/
theorem escape_starts (c : Char) : ∃ d tail, (escape c).toList = d :: tail ∧ d ≠ '"' := by
  unfold escape
  split
  · exact ⟨_, _, rfl, by decide⟩
  · exact ⟨_, _, rfl, by decide⟩
  · exact ⟨_, _, rfl, by decide⟩
  · exact ⟨_, _, rfl, by decide⟩
  · exact ⟨_, _, rfl, by decide⟩
  · exact ⟨_, _, rfl, by decide⟩
  · exact ⟨_, _, rfl, by decide⟩
  · rename_i hquote _ _ _ _ _ _
    split
    · exact ⟨'\\', _, String.toList_append, by decide⟩
    · exact ⟨c, [], String.toList_singleton c, hquote⟩

theorem reads_scanQuoted (text : String) : scanQuoted.Reads (quote text).toList text := by
  have hopen : ∀ c rest, ¬ "\"".toList <+: (escape c).toList ++ rest := by
    rintro c rest ⟨tail, htail⟩
    obtain ⟨d, _, htext, hd⟩ := escape_starts c
    rw [htext] at htail
    exact hd (List.cons.inj htail).1.symm
  have hne : ∀ c, (escape c).toList ≠ [] := by
    intro c
    obtain ⟨d, _, htext, -⟩ := escape_starts c
    rw [htext]
    exact List.cons_ne_nil _ _
  have hcharacters :=
    (Reads.manyTill reads_scanCharacter "\"" hopen hne text.toList).map String.ofList
  have htext : (quote text).toList
      = "\"".toList ++ (text.toList.flatMap (fun c => (escape c).toList) ++ "\"".toList) := by
    simp [quote, List.flatMap_def, Function.comp_def]
  rw [String.ofList_toList] at hcharacters
  rw [htext]
  exact (reads_word "\"").bind hcharacters

theorem quote_starts (text : String) : ∃ tail, (quote text).toList = '"' :: tail := by
  rw [quote, String.append_assoc, String.toList_append]
  exact ⟨_, rfl⟩

/-! ### Numbers -/

/-- A natural number: all the digits there are, without zeros in front. -/
def scanNumber : Scan Nat := fun line =>
  let digits := line.takeWhile Char.isDigit
  let n := Nat.ofDigitChars 10 digits 0
  if digits = Nat.toDigits 10 n then some (n, line.dropWhile Char.isDigit) else none

/-- What follows cannot belong to a number in front of it. -/
def EndsNumber (rest : List Char) : Prop :=
  rest.takeWhile Char.isDigit = []

theorem scanNumber_append (n : Nat) {rest : List Char} (hrest : EndsNumber rest) :
    scanNumber ((Numeral.decimal n).toList ++ rest) = some (n, rest) := by
  have hdigits : ∀ c ∈ Nat.toDigits 10 n, c.isDigit = true :=
    fun c hc => Nat.isDigit_of_mem_toDigits (by decide) (by decide) hc
  have hdrop : rest.dropWhile Char.isDigit = rest := by
    calc rest.dropWhile Char.isDigit
      _ = rest.takeWhile Char.isDigit ++ rest.dropWhile Char.isDigit := by
        rw [hrest, List.nil_append]
      _ = rest := List.takeWhile_append_dropWhile
  have hvalue : Nat.ofDigitChars 10 (Nat.toDigits 10 n) 0 = n :=
    Nat.ofDigitChars_toDigits (by decide) (by decide)
  unfold scanNumber Numeral.decimal
  simp only [String.toList_ofList, List.takeWhile_append_of_pos hdigits,
    List.dropWhile_append_of_pos hdigits]
  rw [hrest, List.append_nil, hvalue, hdrop, if_pos rfl]

/-! ### Lists -/

/-- Items with commas between them, at least one, up to the character that closes the list. -/
def scanItems (item : Scan α) (close : Char) (line : List Char) :
    Option (List α × List Char) :=
  match item line with
  | some (a, c :: rest) =>
    if c = close then some ([a], rest)
    -- an item that takes nothing off the line would come again and again
    else if c = ',' ∧ rest.length < line.length then
      (scanItems item close rest).map fun (as, rest) => (a :: as, rest)
    else none
  | _ => none
termination_by line.length

/-- A list up to the character that closes it. -/
def scanList (item : Scan α) (close : Char) : Scan (List α)
  | c :: rest => if c = close then some ([], rest) else scanItems item close (c :: rest)
  | [] => none

/-- The item is read in front of whatever ends a number. -/
def ReadsItem (item : Scan α) (text : List Char) (a : α) : Prop :=
  ∀ rest, EndsNumber rest → item (text ++ rest) = some (a, rest)

theorem scanItems_append {item : Scan α} {text : α → List Char} {close : Char}
    (hclose : close.isDigit = false) (hcomma : close ≠ ',') {values : List α}
    (hne : values ≠ []) (h : ∀ a ∈ values, ReadsItem item (text a) a) (rest : List Char) :
    scanItems item close ([','].intercalate (values.map text) ++ close :: rest)
      = some (values, rest) := by
  have hends : EndsNumber (close :: rest) := by simp [EndsNumber, hclose]
  -- one item at a time: what follows it is the closing character, or a comma and the other
  -- items
  induction values with
  | nil => exact absurd rfl hne
  | cons a values ih =>
    have ha := h a List.mem_cons_self
    cases values with
    | nil =>
      rw [List.map_singleton, List.intercalate_singleton, scanItems, ha _ hends]
      simp only [if_true]
    | cons b values =>
      have hrest := ih (List.cons_ne_nil _ _) fun a' ha' => h a' (List.mem_cons_of_mem a ha')
      rw [List.map_cons, List.map_cons, List.intercalate_cons_cons, ← List.map_cons,
        List.append_assoc, List.append_assoc, scanItems]
      generalize [','].intercalate ((b :: values).map text) ++ close :: rest
          = others at hrest ⊢
      have hshort : others.length < (text a ++ (',' :: others)).length := by simp; omega
      have hitem := ha (',' :: others) rfl
      rw [show [','] ++ others = ',' :: others from rfl, hitem]
      simp only [if_neg hcomma.symm, hshort, and_self, if_true, hrest]
      rfl

theorem scanList_append {item : Scan α} {text : α → List Char} {close : Char}
    (hclose : close.isDigit = false) (hcomma : close ≠ ',') {values : List α}
    (h : ∀ a ∈ values, ReadsItem item (text a) a)
    (hstart : ∀ a ∈ values, ∃ c tail, text a = c :: tail ∧ c ≠ close) (rest : List Char) :
    scanList item close ([','].intercalate (values.map text) ++ close :: rest)
      = some (values, rest) := by
  cases values with
  | nil => simp [scanList]
  | cons a values =>
    have hitems := scanItems_append hclose hcomma (List.cons_ne_nil a values) h rest
    obtain ⟨c, tail, htext, hc⟩ := hstart a List.mem_cons_self
    have hline : ∃ more, [','].intercalate ((a :: values).map text) ++ close :: rest
        = c :: more := by
      cases values with
      | nil => exact ⟨tail ++ close :: rest, by simp [htext]⟩
      | cons b values =>
        rw [List.map_cons, List.map_cons, List.intercalate_cons_cons, htext]
        exact ⟨_, rfl⟩
    obtain ⟨more, hmore⟩ := hline
    rw [hmore] at hitems ⊢
    rw [scanList, if_neg hc, hitems]

/-! ### Values -/

def scanMember (value : Scan Json) : Scan (String × Json) := do
  let name ← scanQuoted
  word ":"
  let v ← value
  return (name, v)

/-- A value of so many levels at most. -/
def scan : Nat → Scan Json
  | 0, _ => none
  | depth + 1, line =>
    match line with
    | 'n' :: _ => (word "null" line).map fun (_, rest) => (.null, rest)
    | 't' :: _ => (word "true" line).map fun (_, rest) => (.boolean true, rest)
    | 'f' :: _ => (word "false" line).map fun (_, rest) => (.boolean false, rest)
    | '"' :: _ => (scanQuoted line).map fun (s, rest) => (.text s, rest)
    | '[' :: rest =>
      (scanList (scan depth) ']' rest).map fun (items, rest) => (.array items, rest)
    | '\x7b' :: rest =>
      (scanList (scanMember (scan depth)) '\x7d' rest).map fun (members, rest) =>
        (.object members, rest)
    | _ => (scanNumber line).map fun (n, rest) => (.number n, rest)

mutual

/-- The number of levels. -/
def levels : Json → Nat
  | .array items => levelsOfItems items + 1
  | .object members => levelsOfMembers members + 1
  | _ => 1

def levelsOfItems : List Json → Nat
  | [] => 0
  | item :: rest => max item.levels (levelsOfItems rest)

def levelsOfMembers : List (String × Json) → Nat
  | [] => 0
  | (_, value) :: rest => max value.levels (levelsOfMembers rest)

end

theorem renderItems_eq (items : List Json) : renderItems items = items.map render := by
  induction items with
  | nil => rfl
  | cons item rest ih => rw [renderItems, ih, List.map_cons]

theorem renderMembers_eq (members : List (String × Json)) :
    renderMembers members
      = members.map fun member => quote member.1 ++ ":" ++ member.2.render := by
  induction members with
  | nil => rfl
  | cons member rest ih => rw [renderMembers, ih, List.map_cons]

theorem levels_le_of_mem {items : List Json} {item : Json} (h : item ∈ items) :
    item.levels ≤ levelsOfItems items := by
  induction items with
  | nil => cases h
  | cons first rest ih =>
    rw [levelsOfItems]
    rcases List.mem_cons.mp h with rfl | h
    · exact Nat.le_max_left _ _
    · exact Nat.le_trans (ih h) (Nat.le_max_right _ _)

theorem levels_le_of_mem_members {members : List (String × Json)} {member : String × Json}
    (h : member ∈ members) :
    member.2.levels ≤ levelsOfMembers members := by
  induction members with
  | nil => cases h
  | cons first rest ih =>
    rw [levelsOfMembers]
    rcases List.mem_cons.mp h with rfl | h
    · exact Nat.le_max_left _ _
    · exact Nat.le_trans (ih h) (Nat.le_max_right _ _)

/-- A value that starts with a digit is a number. -/
theorem scan_of_isDigit {depth : Nat} {c : Char} (hc : c.isDigit = true) (line : List Char) :
    scan (depth + 1) (c :: line)
      = (scanNumber (c :: line)).map fun (n, rest) => (.number n, rest) := by
  rw [scan]
  -- none of the characters that values of other kinds start with is a digit
  all_goals
    intro tail heq
    rw [(List.cons.inj heq).1] at hc
    exact absurd hc (by decide)

/-- No value starts like the end of a list. -/
theorem render_starts (value : Json) :
    ∃ c tail, value.render.toList = c :: tail ∧ c ≠ ']' := by
  cases value with
  | null => exact ⟨_, _, rfl, by decide⟩
  | boolean b => cases b <;> exact ⟨_, _, rfl, by decide⟩
  | number n =>
    rw [render, Numeral.decimal, String.toList_ofList]
    obtain ⟨c, tail, hdigits⟩ :=
      List.exists_cons_of_ne_nil (Nat.toDigits_ne_nil (n := n) (b := 10))
    refine ⟨c, tail, hdigits, ?_⟩
    rintro rfl
    have hdigit :=
      Nat.isDigit_of_mem_toDigits (by decide) (by decide) (hdigits ▸ List.mem_cons_self)
    exact absurd hdigit (by decide)
  | text s =>
    obtain ⟨tail, htail⟩ := quote_starts s
    exact ⟨'"', tail, by rw [render, htail], by decide⟩
  | array items =>
    exact ⟨'[', _, by rw [render, String.append_assoc, String.toList_append]; rfl, by decide⟩
  | object members =>
    exact ⟨'\x7b', _,
      by rw [render, String.append_assoc, String.toList_append]; rfl, by decide⟩

theorem readsItem_scanMember {value : Scan Json} {member : String × Json}
    (h : ReadsItem value member.2.render.toList member.2) :
    ReadsItem (scanMember value) (quote member.1 ++ ":" ++ member.2.render).toList
      member := by
  intro rest hrest
  have hname := reads_scanQuoted member.1 (":".toList ++ (member.2.render.toList ++ rest))
  have hcolon := reads_word ":" (member.2.render.toList ++ rest)
  rw [String.toList_append, String.toList_append, List.append_assoc, List.append_assoc]
  show (scanQuoted _).bind _ = _
  rw [hname]
  show (word ":" _).bind _ = _
  rw [hcolon]
  show (value _).bind _ = _
  rw [h rest hrest]
  rfl

section Values

variable {depth : Nat}

theorem readsItem_number (n : Nat) :
    ReadsItem (scan (depth + 1)) (render (.number n)).toList (.number n) := by
  intro rest hrest
  have hread := scanNumber_append n hrest
  rw [render]
  rw [Numeral.decimal, String.toList_ofList] at hread ⊢
  obtain ⟨c, tail, hdigits⟩ :=
    List.exists_cons_of_ne_nil (Nat.toDigits_ne_nil (n := n) (b := 10))
  have hdigit :=
    Nat.isDigit_of_mem_toDigits (by decide) (by decide) (hdigits ▸ List.mem_cons_self)
  rw [hdigits, List.cons_append] at hread ⊢
  rw [scan_of_isDigit hdigit, hread]
  rfl

theorem readsItem_text (s : String) :
    ReadsItem (scan (depth + 1)) (render (.text s)).toList (.text s) := by
  intro rest _
  have hread := reads_scanQuoted s rest
  obtain ⟨tail, htail⟩ := quote_starts s
  rw [render]
  rw [htail, List.cons_append] at hread ⊢
  show (scanQuoted _).map _ = _
  rw [hread]
  rfl

/-- The items are read by a reader that goes one level less deep. -/
theorem readsItem_array {items : List Json}
    (h : ∀ item ∈ items, ReadsItem (scan depth) item.render.toList item) :
    ReadsItem (scan (depth + 1)) (render (.array items)).toList (.array items) := by
  intro rest _
  have hlist :=
    scanList_append (by decide) (by decide) h (fun item _ => item.render_starts) rest
  have htext : (render (.array items)).toList ++ rest
      = '[' :: ([','].intercalate (items.map fun item => item.render.toList) ++ ']'
        :: rest) := by
    simp [render, renderItems_eq, String.toList_intercalate, Function.comp_def]
  rw [htext, scan, hlist]
  rfl

/-- The values of the members are read by a reader that goes one level less deep. -/
theorem readsItem_object {members : List (String × Json)}
    (h : ∀ member ∈ members, ReadsItem (scan depth) member.2.render.toList member.2) :
    ReadsItem (scan (depth + 1)) (render (.object members)).toList (.object members) := by
  intro rest _
  have hmembers : ∀ member ∈ members, ReadsItem (scanMember (scan depth))
      (quote member.1 ++ ":" ++ member.2.render).toList member :=
    fun member hmember => readsItem_scanMember (h member hmember)
  have hstart : ∀ member ∈ members, ∃ c tail,
      (quote member.1 ++ ":" ++ member.2.render).toList = c :: tail ∧ c ≠ '\x7d' := by
    intro member _
    obtain ⟨tail, htail⟩ := quote_starts member.1
    rw [String.append_assoc, String.toList_append, htail]
    exact ⟨'"', _, rfl, by decide⟩
  have hlist := scanList_append (by decide) (by decide) hmembers hstart rest
  have htext : (render (.object members)).toList ++ rest
      = '\x7b' :: ([','].intercalate
          (members.map fun member => (quote member.1 ++ ":" ++ member.2.render).toList)
        ++ '\x7d' :: rest) := by
    simp [render, renderMembers_eq, String.toList_intercalate, Function.comp_def]
  rw [htext, scan, hlist]
  rfl

end Values

/-- What is rendered is read back, by a reader that goes deep enough. -/
theorem scan_append (depth : Nat) (value : Json) (hdepth : value.levels ≤ depth) :
    ReadsItem (scan depth) value.render.toList value := by
  induction depth generalizing value with
  | zero =>
    have hpos : 0 < value.levels := by cases value <;> simp [levels]
    omega
  | succ depth ih =>
    cases value with
    | null =>
      intro rest _
      show (word "null" _).map _ = _
      rw [show (render .null).toList = "null".toList from rfl, reads_word "null" rest]
      rfl
    | boolean b =>
      intro rest _
      cases b with
      | false =>
        show (word "false" _).map _ = _
        rw [show (render (.boolean false)).toList = "false".toList from rfl,
          reads_word "false" rest]
        rfl
      | true =>
        show (word "true" _).map _ = _
        rw [show (render (.boolean true)).toList = "true".toList from rfl,
          reads_word "true" rest]
        rfl
    | number n => exact readsItem_number n
    | text s => exact readsItem_text s
    | array items =>
      rw [levels] at hdepth
      exact readsItem_array fun item hitem =>
        ih item (Nat.le_trans (levels_le_of_mem hitem) (by omega))
    | object members =>
      rw [levels] at hdepth
      exact readsItem_object fun member hmember =>
        ih member.2 (Nat.le_trans (levels_le_of_mem_members hmember) (by omega))

end EepromImage.Report.Json
