/-
The words that commands are called by, and the words of a description.

A command has two names, a keyword and a display name, and letters are compared without case:

* `IsCalled.unique` — no word is a name of two commands, so that the order of the catalog does
  not matter;
* `ofKeyword?_eq_some_iff`, `ofKeyword?_eq_none_iff` — a word finds the command that it is a
  name of.

A description is a row of words: those of what the frame asks for, and those of its flags.

* `words_describe` — the words of a description, flags last.
-/
import EepromImage.Command.Catalog
import EepromImage.Proofs.Text.Words

namespace EepromImage

/-! ### Names of commands -/

namespace Command

/-- The letters of a word, all of them small. -/
def smallLetters (word : String) : List Char :=
  word.toList.map Char.toLower

/-- The two names of a command in small letters. -/
def spellings (c : Command) : List (List Char) :=
  [smallLetters c.keyword, smallLetters c.name]

/-- The word is the keyword or the display name of the command, in letters of any case. -/
def IsCalled (c : Command) (word : String) : Prop :=
  sameLetters c.keyword word = true ∨ sameLetters c.name word = true

variable {c c' : Command} {word word' : String}

theorem sameLetters_iff {s t : String} :
    sameLetters s t = true ↔ smallLetters s = smallLetters t :=
  decide_eq_true_iff

theorem isCalled_iff : c.IsCalled word ↔ smallLetters word ∈ c.spellings := by
  rw [IsCalled, sameLetters_iff, sameLetters_iff, spellings, List.mem_cons,
    List.mem_singleton]
  exact or_congr eq_comm eq_comm

/-- The case of letters does not matter. -/
theorem IsCalled.congr (h : c.IsCalled word) (hword : sameLetters word word' = true) :
    c.IsCalled word' := by
  rw [isCalled_iff] at h ⊢
  rwa [← sameLetters_iff.mp hword]

theorem mem_all (c : Command) : c ∈ all := by
  cases c <;> decide

/-- No two entries of the catalog share a name. -/
theorem spellings_apart :
    ∀ c ∈ all, ∀ c' ∈ all, ∀ word ∈ c.spellings, word ∈ c'.spellings → c = c' := by
  decide

theorem IsCalled.unique (h : c.IsCalled word) (h' : c'.IsCalled word) : c = c' :=
  spellings_apart c c.mem_all c' c'.mem_all _ (isCalled_iff.mp h) (isCalled_iff.mp h')

/-! ### Looking up -/

theorem ofKeyword?_eq_none_iff :
    ofKeyword? word = none ↔ ∀ c : Command, ¬ c.IsCalled word := by
  simp only [ofKeyword?, List.find?_eq_none, Bool.or_eq_true]
  exact ⟨fun h c => h c c.mem_all, fun h c _ => h c⟩

/-- A word finds the command that it is a name of. -/
theorem ofKeyword?_eq_some_iff : ofKeyword? word = some c ↔ c.IsCalled word := by
  have hfound {c : Command} (h : ofKeyword? word = some c) : c.IsCalled word := by
    unfold ofKeyword? at h
    have hnames := List.find?_some h
    exact (Bool.or_eq_true _ _).mp hnames
  constructor
  · exact hfound
  · intro hc
    cases hfind : ofKeyword? word with
    | none => exact absurd hc (ofKeyword?_eq_none_iff.mp hfind c)
    | some c' => rw [(hfound hfind).unique hc]

end Command

open Text

/-! ### The words of a description -/

/-- A storage selector, by its name if it has one. -/
def Storage.word (selector : UInt8) : String :=
  (name? selector).elim ("storage=" ++ Numeral.markedByte selector) id

/-- Offset, number of frames and storage. -/
def Relay.fieldWords (r : Relay) : List String :=
  ["offset=" ++ Numeral.marked 4 r.offset.toNat, "count=" ++ Numeral.decimal r.count.toNat,
    Storage.word r.storage]

def Relay.words (r : Relay) : List String :=
  "Container" :: r.fieldWords

def Command.words (c : Command) (args : List UInt8) : List String :=
  c.name :: args.mapIdx c.describeArg

def unknownWords (code : UInt8) (args : List UInt8) : List String :=
  "Unknown" :: Numeral.markedByte code :: args.map Numeral.hexByte

/-- The words of a command by its code. -/
def commandWords (code : UInt8) (args : List UInt8) : List String :=
  (Command.ofCode? code).elim (unknownWords code args) fun c => c.words args

namespace Frame

/-- The words of what a frame asks for. -/
def contentWords (f : Frame) : List String :=
  f.relay?.elim (commandWords f.command f.args.bytes) Relay.words

/-- The words of the flags that are set. -/
def flagWords (f : Frame) : List String :=
  (if f.status.isError then ["error"] else [])
    ++ (if f.status.isResponse then ["response"] else [])

end Frame

namespace Storage

/-- The selectors that have a name. -/
def names : List (UInt8 × String) :=
  [(ram, "ram"), (eeprom, "eeprom"), (preDef, "pre_def")]

theorem mem_names_of_name? {selector : UInt8} {name : String}
    (h : name? selector = some name) :
    (selector, name) ∈ names := by
  unfold name? at h
  split_ifs at h with hram heeprom hpreDef
  all_goals
    cases h
    simp [names, *]

theorem isWord_word (selector : UInt8) : IsWord (word selector) := by
  have hnames : ∀ p ∈ names, IsWord p.2 := by decide
  unfold word
  cases hname : name? selector with
  | some name => exact hnames _ (mem_names_of_name? hname)
  | none => exact IsWord.append (by decide) (Numeral.isNumerical_markedByte _).isUnbroken

end Storage

theorem Relay.describe_eq (r : Relay) :
    r.describe = "Container" ++ "(" ++ ", ".intercalate r.fieldWords ++ ")" := by
  have hopening : "Container(offset=" = "Container" ++ "(" ++ "offset=" := by decide
  have hcomma : ", count=" = ", " ++ "count=" := by decide
  have hstorage : r.describe = "Container(offset=" ++ Numeral.marked 4 r.offset.toNat
      ++ ", count=" ++ Numeral.decimal r.count.toNat ++ ", " ++ Storage.word r.storage
      ++ ")" := by
    unfold describe Storage.word
    cases Storage.name? r.storage <;> rfl
  rewrite [hstorage, hopening, hcomma, fieldWords, String.intercalate_cons_cons,
    String.intercalate_cons_cons, String.intercalate_singleton]
  simp only [String.append_assoc]

theorem Relay.words_describe (r : Relay) : Text.words r.describe = r.words := by
  have hfields : ∀ w ∈ r.fieldWords, IsWord w := by
    rw [fieldWords, List.forall_mem_cons, List.forall_mem_cons, List.forall_mem_singleton]
    exact ⟨IsWord.append (by decide) (Numeral.isNumerical_marked _ _).isUnbroken,
      IsWord.append (by decide) (Numeral.isNumerical_decimal _).isUnbroken,
      Storage.isWord_word _⟩
  rw [describe_eq, words_bracketed (by decide) (by decide), words_of_isWord (by decide),
    words_intercalate (by decide) hfields]
  rfl

namespace Command

theorem isWord_name (c : Command) : IsWord c.name := by
  cases c <;> decide

theorem isWord_fieldName (c : Command) : ∀ field ∈ c.fields, IsWord field.name := by
  cases c <;> decide

theorem isWord_describeArg (c : Command) (i : Nat) (arg : UInt8) :
    IsWord (c.describeArg i arg) := by
  unfold describeArg
  split
  · rename_i field hfield
    have hname := c.isWord_fieldName field (mem_fields_of_fieldAt? hfield)
    refine (hname.append (by decide)).append ?_
    split
    · exact (Numeral.isNumerical_signed _).isUnbroken
    · exact (Numeral.isNumerical_markedByte _).isUnbroken
  · exact Numeral.isWord_markedByte arg

theorem words_describe (c : Command) (args : List UInt8) :
    Text.words (c.describe args) = c.words args := by
  have hargs : ∀ w ∈ args.mapIdx c.describeArg, IsWord w := by
    intro w hw
    obtain ⟨i, hi, rfl⟩ := List.mem_mapIdx.mp hw
    exact c.isWord_describeArg i args[i]
  unfold describe
  split
  · rename_i hbare
    rw [Bool.and_eq_true, List.isEmpty_iff, List.isEmpty_iff] at hbare
    rw [words, hbare.2, words_of_isWord c.isWord_name, List.mapIdx_nil]
  · rw [words_bracketed (by decide) (by decide), words_of_isWord c.isWord_name,
      words_intercalate (by decide) hargs]
    rfl

end Command

theorem words_describeUnknown (code : UInt8) (args : List UInt8) :
    words (describeUnknown code args) = unknownWords code args := by
  have hargs : ∀ w ∈ args.map Numeral.hexByte, IsWord w := by
    intro w hw
    obtain ⟨b, -, rfl⟩ := List.mem_map.mp hw
    exact Numeral.isWord_hexByte b
  have hopening : "Unknown(" = "Unknown" ++ "(" := by decide
  have hcode : words ("Unknown(" ++ Numeral.markedByte code ++ ")")
      = ["Unknown", Numeral.markedByte code] := by
    rw [hopening, words_bracketed (by decide) (by decide), words_of_isWord (by decide),
      words_of_isWord (Numeral.isWord_markedByte code)]
    rfl
  unfold describeUnknown
  split
  · rename_i hempty
    rw [List.isEmpty_iff] at hempty
    rw [String.append_empty, hcode, hempty]
    rfl
  · rw [← String.append_assoc, ← String.append_assoc, words_bracketed (by decide) (by decide),
      hcode, words_intercalate (by decide) hargs]
    rfl

namespace Frame

theorem words_describeContent (f : Frame) : words f.describeContent = f.contentWords := by
  unfold describeContent contentWords commandWords
  cases f.relay? with
  | some r => exact r.words_describe
  | none =>
    cases Command.ofCode? f.command with
    | some c => exact c.words_describe _
    | none => exact words_describeUnknown _ _

theorem words_append_flag {w : String} (h : IsWord w) (text : String) (on : Bool) :
    words (text ++ if on then " [" ++ w ++ "]" else "") = words text ++ if on then
      [w] else [] := by
  cases on with
  | false => exact (congrArg words (String.append_empty)).trans (List.append_nil _).symm
  | true =>
    show words (text ++ (" [" ++ w ++ "]")) = words text ++ [w]
    rw [← String.append_assoc, ← String.append_assoc, words_bracketed (by decide) (by decide),
      words_of_isWord h]

theorem words_describe (f : Frame) : words f.describe = f.contentWords ++ f.flagWords := by
  have herror :=
    words_append_flag (w := "error") (by decide) f.describeContent f.status.isError
  have hresponse := words_append_flag (w := "response") (by decide)
    (f.describeContent ++ if f.status.isError then " [" ++ "error" ++ "]" else "")
      f.status.isResponse
  have he : " [error]" = " [" ++ "error" ++ "]" := by decide
  have hr : " [response]" = " [" ++ "response" ++ "]" := by decide
  rw [describe, describeFlags, he, hr, ← String.append_assoc, hresponse, herror,
    words_describeContent, flagWords, List.append_assoc]

end Frame

end EepromImage
