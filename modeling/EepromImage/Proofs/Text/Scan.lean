/-
Reading a line from its front.

A step of a reading takes what it reads off the line and gives its value.  `Reads step text a`
says that the step gives `a` for the text whatever stands behind it, so that steps one after
another read their texts one behind the other:

* `Reads.bind`, `Reads.mapM`, `Reads.manyTill` — steps put together;
* `reads_word`, `reads_skipPast`, `reads_byte` — words as they stand, anything up to a
  character, bytes as two digits behind the marker `0x`;
* `word_eq_none_iff` — a word is not read exactly from the lines that do not start with it.
-/
import EepromImage.Proofs.Text.Pairs

namespace EepromImage

/-- A step that takes something off the front of a line. -/
abbrev Scan := StateT (List Char) Option

namespace Scan

variable {α β : Type}

/-! ### Steps -/

/-- The word as it stands. -/
def word (w : String) : Scan Unit := fun line =>
  (line.dropPrefix? w.toList).map fun rest => ((), rest)

/-- Everything up to the character, and the character. -/
def skipPast (c : Char) : Scan Unit := fun line =>
  match line.dropWhile (· ≠ c) with
  | _ :: rest => some ((), rest)
  | [] => none

/-- A byte as two digits. -/
def pair : Scan UInt8
  | high :: low :: rest =>
    (Numeral.readDigits? 16 0 [high, low]).map fun n => (UInt8.ofNat n, rest)
  | _ => none

def byte : Scan UInt8 := do
  word "0x"
  pair

/-- Items, as many as there are in front of the word. -/
def manyTill (item : Scan α) (stop : String) (line : List Char) :
    Option (List α × List Char) :=
  match word stop line with
  | some (_, rest) => some ([], rest)
  | none =>
    match item line with
    | some (a, rest) =>
      -- an item that takes nothing off the line would come again and again
      if rest.length < line.length then (manyTill item stop rest).map fun (as, rest) =>
        (a :: as, rest) else none
    | none => none
termination_by line.length

/-- What the lines with something to read give, from top to bottom. -/
def readings (scan : Scan α) (lines : List (List Char)) : List α :=
  lines.filterMap fun line => (scan line).map Prod.fst

theorem readings_cons_of_eq_none {scan : Scan α} {line : List Char} (h : scan line = none)
    (lines : List (List Char)) :
    scan.readings (line :: lines) = scan.readings lines :=
  List.filterMap_cons_none (by rw [h, Option.map_none])

theorem readings_cons_of_eq_some {scan : Scan α} {line rest : List Char} {a : α}
    (h : scan line = some (a, rest)) (lines : List (List Char)) :
    scan.readings (line :: lines) = a :: scan.readings lines :=
  List.filterMap_cons_some (by rw [h, Option.map_some])

theorem readings_eq_nil {scan : Scan α} {lines : List (List Char)}
    (h : ∀ line ∈ lines, scan line = none) :
    scan.readings lines = [] :=
  List.filterMap_eq_nil_iff.mpr fun line hline => by rw [h line hline, Option.map_none]

@[simp] theorem readings_append (scan : Scan α) (lines lines' : List (List Char)) :
    scan.readings (lines ++ lines') = scan.readings lines ++ scan.readings lines' :=
  List.filterMap_append

theorem readings_flatMap (scan : Scan α) (blocks : List β) (lines : β → List (List Char)) :
    scan.readings (blocks.flatMap lines)
      = blocks.flatMap fun b => scan.readings (lines b) := by
  simp only [readings, List.filterMap_flatMap]

/-! ### Steps on their texts -/

/-- The step gives the value for the text, in front of anything. -/
def Reads (scan : Scan α) (text : List Char) (a : α) : Prop :=
  ∀ rest, scan (text ++ rest) = some (a, rest)

theorem bind_apply (scan : Scan α) (next : α → Scan β) (line : List Char) :
    (scan >>= next) line = (scan line).bind fun (a, rest) => next a rest := rfl

theorem reads_pure (a : α) : Reads (pure a) [] a := fun _ => rfl

theorem Reads.bind {scan : Scan α} {next : α → Scan β} {text text' : List Char} {a : α}
    {b : β} (h : scan.Reads text a) (h' : (next a).Reads text' b) :
    (scan >>= next).Reads (text ++ text') b := by
  intro rest
  rw [bind_apply, List.append_assoc, h]
  exact h' rest

theorem Reads.map {scan : Scan α} {text : List Char} {a : α} (h : scan.Reads text a)
    (f : α → β) :
    Reads (scan >>= fun a => pure (f a)) text (f a) := by
  intro rest
  rw [bind_apply, h]
  rfl

theorem reads_word (w : String) : (word w).Reads w.toList () := by
  intro rest
  rw [word, List.dropPrefix?_append_of_beq rest BEq.rfl]
  rfl

theorem word_eq_none_iff {w : String} {line : List Char} :
    word w line = none ↔ ¬ w.toList <+: line := by
  rw [word, Option.map_eq_none_iff, Option.eq_none_iff_forall_ne_some]
  constructor
  · rintro h ⟨rest, rfl⟩
    exact h rest (List.dropPrefix?_append_of_beq rest BEq.rfl)
  · intro h rest hrest
    obtain ⟨w', rfl, hbeq⟩ := List.dropPrefix?_eq_some_iff.mp hrest
    exact h ⟨rest, by rw [eq_of_beq hbeq]⟩

/-- A reading that starts with a word gives nothing for the lines that do not start with
it. -/
theorem word_bind_eq_none {w : String} {next : Unit → Scan α} {line : List Char}
    (h : ¬ w.toList <+: line) :
    (word w >>= next) line = none := by
  rw [bind_apply, word_eq_none_iff.mpr h]
  rfl

theorem reads_skipPast {c : Char} {text : List Char} (h : c ∉ text) :
    (skipPast c).Reads (text ++ [c]) () := by
  intro rest
  have hdrop : (text ++ [c] ++ rest).dropWhile (· ≠ c) = c :: rest := by
    rw [List.append_assoc, List.dropWhile_append_of_pos
      fun d hd => by simpa using ne_of_mem_of_not_mem hd h]
    simp
  rw [skipPast, hdrop]

theorem reads_pair (b : UInt8) : pair.Reads (Numeral.byteDigits b) b := by
  intro rest
  have hb := b.toNat_lt
  obtain ⟨hhigh, hhighValue⟩ := isHexDigit_digitChar (n := b.toNat / 16) (by omega)
  obtain ⟨hlow, hlowValue⟩ := isHexDigit_digitChar (n := b.toNat % 16) (by omega)
  have hread : Numeral.readDigits? 16 0 (Numeral.byteDigits b) = some b.toNat := by
    refine readDigits?_pair.mpr ⟨hhigh, hlow, ?_⟩
    omega
  show (Numeral.readDigits? 16 0 (Numeral.byteDigits b)).map (fun n => (UInt8.ofNat n, rest))
      = _
  rw [hread, Option.map_some, UInt8.ofNat_toNat]

theorem reads_byte (b : UInt8) : byte.Reads (Numeral.markedByte b).toList b := by
  have htext : (Numeral.markedByte b).toList = "0x".toList ++ Numeral.byteDigits b := by
    simp [Numeral.markedByte, Numeral.hexByte]
  rw [htext]
  exact (reads_word "0x").bind (reads_pair b)

theorem Reads.mapM {ι : Type} {step : ι → Scan α} {text : ι → α → List Char}
    (h : ∀ i a, (step i).Reads (text i a) a) {names : List ι} {values : List α}
    (hlen : names.length = values.length) :
    (names.mapM step).Reads (List.zipWith text names values).flatten values := by
  -- a name and a value at a time: the text of the first pair stands in front of those of the
  -- others
  induction names generalizing values with
  | nil =>
    rw [List.length_eq_zero_iff.mp hlen.symm]
    exact reads_pure []
  | cons name names ih =>
    cases values with
    | nil => cases hlen
    | cons a values =>
      have hrest := ih (Nat.succ.inj hlen)
      rw [List.mapM_cons, List.zipWith_cons_cons, List.flatten_cons]
      exact (h name a).bind (hrest.map (a :: ·))

/-- Items are read up to the word, if none of them starts as the word does. -/
theorem Reads.manyTill {item : Scan α} {text : α → List Char} (h : ∀ a, item.Reads (text a) a)
    (stop : String) (hstop : ∀ a rest, ¬ stop.toList <+: text a ++ rest)
    (hne : ∀ a, text a ≠ []) (values : List α) :
    Reads (item.manyTill stop) (values.flatMap text ++ stop.toList) values := by
  intro rest
  induction values with
  | nil =>
    rw [List.flatMap_nil, List.nil_append, Scan.manyTill, reads_word stop rest]
  | cons a values ih =>
    -- the line starts with an item, so not with the word, and what is left behind the item is
    -- shorter
    have hshort : (values.flatMap text ++ stop.toList ++ rest).length
        < (text a ++ (values.flatMap text ++ stop.toList ++ rest)).length := by
      have hpos := List.length_pos_iff.mpr (hne a)
      simp only [List.length_append] at hpos ⊢
      omega
    have hline : (a :: values).flatMap text ++ stop.toList ++ rest
        = text a ++ (values.flatMap text ++ stop.toList ++ rest) := by
      simp only [List.flatMap_cons, List.append_assoc]
    rw [hline, Scan.manyTill, word_eq_none_iff.mpr (hstop a _), h]
    simp only
    rw [if_pos hshort, ih]
    rfl

end Scan
end EepromImage
