/-
How many columns a text takes in a fixed-width font.

* **Ligature.of?**, **Ligature.take** — the sign that a letter may end, and what a character
  in front of the end makes of it;
* **Behind** — what stands behind a character, as far as the width of the text depends on it;
* **step** — the columns that a character adds in front of a text;
* **displayWidth** — the columns of a text: those of its characters, but for line ends, emoji
  and ligatures, where several characters make one sign.

A text is read from its end, so that a character is met when it is known what it joins.
-/
import EepromImage.Text.CharWidth

namespace EepromImage

/-! ### Ligatures -/

namespace Text

/-- The joiner, which takes no column. -/
def joiner : Char := '\u200d'

/-- The end of a sign.  Where a joiner is needed in front of it, `joined` says that there is
one. -/
inductive Ligature
  /-- An Arabic alef, behind a lam. -/
  | alef
  /-- A Hebrew lamed, behind an alef. -/
  | lamed (joined : Bool)
  /-- A Buginese ya, behind an a with the vowel i. -/
  | ya (joined : Bool)
  /-- A Buginese ya with the vowel i in front of it. -/
  | vowelYa
  /-- A Tifinagh consonant, behind another one. -/
  | consonant (joined : Bool)
  /-- A Tifinagh consonant with the consonant joiner in front of it. -/
  | boundConsonant
  /-- The second part of a Lisu tone. -/
  | tone
  /-- An Old Turkic i, behind the letter for ec. -/
  | orkhonI (joined : Bool)
  /-- A Khmer letter that is set below the one in front of it. -/
  | subscript
deriving DecidableEq, Repr

/-! ### Letters -/

/-- The Arabic letters of the joining group Lam. -/
def lamGroup : CodePoints :=
  [(0x644, 0x644), (0x6b5, 0x6b8), (0x76a, 0x76a), (0x8a6, 0x8a6), (0x8c7, 0x8c7)]

/-- The Arabic letters of the joining group Alef. -/
def alefGroup : CodePoints :=
  [(0x622, 0x623), (0x625, 0x625), (0x627, 0x627), (0x671, 0x673), (0x675, 0x675),
   (0x773, 0x774), (0x870, 0x882)]

/-- The Khmer letters with a form below another letter that takes no column. -/
def subscriptLetters : CodePoints :=
  [(0x1780, 0x1782), (0x1784, 0x1787), (0x1789, 0x178c), (0x178e, 0x1793), (0x1795, 0x1798),
   (0x179b, 0x179d), (0x17a0, 0x17a0), (0x17a2, 0x17a2), (0x17a7, 0x17a7), (0x17ab, 0x17ac),
   (0x17af, 0x17af)]

/-- The consonants of Tifinagh. -/
def tifinaghConsonants : CodePoints :=
  [(0x2d31, 0x2d65), (0x2d6f, 0x2d6f)]

/-- The characters without a column that part the Arabic letters on both sides of them. -/
def parting : CodePoints :=
  [(0x605, 0x605), (0x890, 0x891), (0x8e2, 0x8e2), (0x9be, 0x9be), (0x9d7, 0x9d7),
   (0xb3e, 0xb3e), (0xb57, 0xb57), (0xbbe, 0xbbe), (0xbd7, 0xbd7), (0xcc0, 0xcc0),
   (0xcc2, 0xcc2), (0xcc7, 0xcc8), (0xcca, 0xccb), (0xcd5, 0xcd6), (0xd3e, 0xd3e),
   (0xd57, 0xd57), (0xdcf, 0xdcf), (0xddf, 0xddf), (0x1160, 0x11ff), (0x1715, 0x1715),
   (0x1734, 0x1734), (0x180e, 0x180e), (0x1b35, 0x1b35), (0x1b3b, 0x1b3b), (0x1b3d, 0x1b3d),
   (0x1b43, 0x1b44), (0x1baa, 0x1baa), (0x1bf2, 0x1bf3), (0x200c, 0x200d), (0x2065, 0x2069),
   (0x302e, 0x302f), (0x3164, 0x3164), (0xa8fa, 0xa8fa), (0xa953, 0xa953), (0xa9c0, 0xa9c0),
   (0xd7b0, 0xd7c6), (0xd7cb, 0xd7fb), (0xffa0, 0xffa0), (0xfff0, 0xfff8), (0x111c0, 0x111c0),
   (0x11235, 0x11235), (0x1133e, 0x1133e), (0x1134d, 0x1134d), (0x11357, 0x11357),
   (0x113b8, 0x113b8), (0x113c2, 0x113c2), (0x113c5, 0x113c5), (0x113c7, 0x113c9),
   (0x113cf, 0x113cf), (0x114b0, 0x114b0), (0x114bd, 0x114bd), (0x115af, 0x115af),
   (0x116b6, 0x116b6), (0x11930, 0x11930), (0x1193d, 0x1193d), (0x11f41, 0x11f41),
   (0x16ff0, 0x16ff1), (0x1d165, 0x1d166), (0x1d16d, 0x1d172), (0xe0000, 0xe0000),
   (0xe0002, 0xe001f), (0xe0080, 0xe00ff), (0xe01f0, 0xe0fff)]

/-- The invisible marks, which part no letters. -/
def invisibleMarks : CodePoints :=
  [(0x34f, 0x34f), (0x17b4, 0x17b5), (0x180b, 0x180d), (0x180f, 0x180f), (0xfe00, 0xfe0f),
    (0xe0100, 0xe01ef)]

/-! ### Signs -/

namespace Ligature

/-- The end of a sign that a letter may be. -/
def of? (c : Char) : Option Ligature :=
  if alefGroup.has c then some .alef
  else if c = '\u05dc' then some (.lamed false)
  else if c = '\u1a10' then some (.ya false)
  else if tifinaghConsonants.has c then some (.consonant false)
  else if c = '\ua4fc' || c = '\ua4fd' then some .tone
  else if c.toNat = 0x10c03 then some (.orkhonI false)
  else if subscriptLetters.has c then some .subscript
  else none

/-- The end of a sign with a joiner in front of it; in an Arabic sign none may stand. -/
def join? : Ligature → Option Ligature
  | .alef => none
  | .lamed _ => some (.lamed true)
  | .ya _ => some (.ya true)
  | .consonant _ => some (.consonant true)
  | .orkhonI _ => some (.orkhonI true)
  | l => some l

/-- Whether a character may stand within the sign and changes nothing. -/
def isWithin (c : Char) : Ligature → Bool
  | .alef => charWidth c = 0 && !parting.has c
  | _ => invisibleMarks.has c

/-- What a character in front of the end of a sign makes of it: the columns that the sign
grows by, and what still waits for letters in front of it. -/
def reach (c : Char) (l : Ligature) : Option (Int × Option Ligature) :=
  match l with
  | .alef => if lamGroup.has c then some (0, none) else none
  | .lamed true => if c = '\u05d0' then some (0, none) else none
  | .ya true => if c = '\u1a17' then some (0, some .vowelYa) else none
  | .vowelYa => if c = '\u1a15' then some (0, none) else none
  | .consonant joined =>
    if c = '\u2d7f' then some (1, some .boundConsonant)
    else if joined && tifinaghConsonants.has c then some (0, none)
    else none
  | .boundConsonant => if tifinaghConsonants.has c then some (-1, none) else none
  | .tone => if '\ua4f8' ≤ c ∧ c ≤ '\ua4fb' then some (0, none) else none
  | .orkhonI true => if c.toNat = 0x10c32 then some (0, none) else none
  | .subscript => if c = '\u17d2' then some (-1, none) else none
  | _ => none

/-- What a character in front of the end of a sign does: it joins the end, stands within the
sign, or reaches on. -/
def take (c : Char) (l : Ligature) : Option (Int × Option Ligature) :=
  if c = joiner && l.join?.isSome then some (0, l.join?)
  else if l.isWithin c then some (0, some l)
  else l.reach c

end Ligature

/-! ### Signs of several characters -/

/-- A character without a column that chooses between two styles of the character in front of
it. -/
inductive Selector
  /-- A picture, two columns wide. -/
  | emoji
  /-- Narrow text. -/
  | text
  /-- A quotation mark in two columns. -/
  | fullwidth
deriving DecidableEq, Repr

/-- The selector that a character is. -/
def Selector.of? (c : Char) : Option Selector :=
  if c = '\ufe0f' then some .emoji
  else if c = '\ufe0e' then some .text
  else if c = '\ufe01' then some .fullwidth
  else none

/-- Whether a quotation mark has a form in two columns. -/
def isQuotation (c : Char) : Bool :=
  c = '\u2018' || c = '\u2019' || c = '\u201c' || c = '\u201d'

/-- What a text begins with. -/
inductive Start
  /-- Nothing that joins what is in front of it. -/
  | plain
  | lineFeed
  | ligature (rest : Ligature)
  /-- The vowel sign of Kirat Rai for e, which may be the second part of another vowel. -/
  | vowelE
  /-- The vowel sign of Kirat Rai for ai, or the two signs that mean the same. -/
  | vowelAi
  /-- A regional indicator with another sign behind it. -/
  | indicator
  /-- Regional indicators, two or more. -/
  | indicators
  | emoji
  | skinTone
  /-- A joiner with an emoji behind it. -/
  | joined
  /-- A keycap in front of a joiner and an emoji. -/
  | joinedKeycap
  /-- Regional indicators in front of a joiner and an emoji. -/
  | joinedIndicators (count : Nat)
  /-- Tags in front of a joiner and an emoji: the digits in front, the letters behind them. -/
  | joinedTags (digits letters : Nat)
deriving DecidableEq, Repr

/-- What stands behind a character: a selector, if it is chosen by one, and what the text
begins with. -/
structure Behind where
  selector : Option Selector := none
  start : Start := .plain
deriving DecidableEq, Repr

namespace Start

/-- What a text begins with that begins with this character. -/
def of (c : Char) : Start :=
  if c = '\n' then .lineFeed
  else if c.toNat = 0x16d67 then .vowelE
  else if c.toNat = 0x16d68 then .vowelAi
  else if isIndicator c then .indicator
  else if isSkinTone c then .skinTone
  else if isEmoji c then .emoji
  else ((Ligature.of? c).map Start.ligature).getD .plain

/-- What stays of it behind a selector. -/
def behindSelector (s : Selector) : Start → Start
  | .ligature rest => .ligature rest
  | .joined => if s = .emoji then .joined else .plain
  | .joinedKeycap => if s = .emoji then .joinedKeycap else .plain
  | _ => .plain

/-- What stays of it when a selector has found no character to choose for. -/
def withoutSelector : Start → Start
  | .ligature rest => .ligature rest
  | _ => .plain

/-- What a vowel sign of Kirat Rai in front makes of a vowel sign. -/
def takeVowel (c : Char) : Start → Option (Int × Start)
  | .vowelE =>
    if c.toNat = 0x16d63 ∨ c.toNat = 0x16d69 then some (0, .plain)
    else if c.toNat = 0x16d67 then some (0, .vowelAi)
    else if c.toNat = 0x16d68 then some (1, .vowelE)
    else none
  | .vowelAi => if c.toNat = 0x16d63 then some (0, .plain) else none
  | _ => none

/-- Whether tags tell a flag apart: a region in letters with a part of it, or three digits. -/
def areTagsWhole (digits letters : Nat) : Bool :=
  digits = 3 || (digits = 0 && 3 ≤ letters)

/-- What a character in front of tags makes of them. -/
def takeTag (c : Char) (digits letters : Nat) : Option (Int × Start) :=
  if isTagLetter c ∧ digits = 0 ∧ letters < 6 then some (0, .joinedTags 0 (letters + 1))
  else if isTagDigit c ∧ (digits = 0 ∧ letters ≤ 4 ∨ digits = 1 ∨ digits = 2) then
    some (0, .joinedTags (digits + 1) letters)
  else if isTaggedFlag c ∧ areTagsWhole digits letters then some (0, .emoji)
  else none

/-- What a character in front of a joiner and an emoji makes of them. -/
def takeJoined (c : Char) : Option (Int × Start) :=
  if c = '\u20e3' then some (0, .joinedKeycap)
  else if isIndicator c then some (1, .joinedIndicators 1)
  else if isSkinTone c then some (0, .skinTone)
  else if isEndTag c then some (0, .joinedTags 0 0)
  else if isEmoji c then some (0, .emoji)
  else none

/-- What a character in front makes of the start of a text, if they join: the columns that the
text grows by, and what it begins with then.  Regional indicators make flags two by two, so
that one more in front of a joined one changes which of them is left over. -/
def take (c : Char) : Start → Option (Int × Start)
  | .lineFeed => if c = '\r' then some (0, .plain) else none
  | .ligature rest =>
    (rest.take c).map fun (w, rest?) => (w, (rest?.map Start.ligature).getD .plain)
  | .vowelE => takeVowel c .vowelE
  | .vowelAi => takeVowel c .vowelAi
  | .indicator => if isIndicator c then some (1, .indicators) else none
  | .indicators =>
    if isIndicator c then some (1, .indicators)
    else if c = joiner then some (0, .joined)
    else none
  | .emoji => if c = joiner then some (0, .joined) else none
  | .skinTone =>
    if takesSkinTone c then some (0, .emoji)
    else if c = joiner then some (0, .joined)
    else none
  | .joined => takeJoined c
  | .joinedIndicators n =>
    if isIndicator c then some (if n % 2 = 0 then 3 else -1, .joinedIndicators (n + 1))
    else if c = joiner ∧ 2 ≤ n then some (0, .joined)
    else none
  | .joinedTags digits letters => takeTag c digits letters
  | .plain | .joinedKeycap => none

end Start

/-! ### Texts -/

/-- The columns that a character adds in front of a text, and what the text is then for the
next one. -/
def step (c : Char) (behind : Behind) : Int × Behind :=
  if behind.selector = some .emoji ∧ hasEmojiStyle c then
    (if behind.start = .joined ∨ behind.start = .joinedKeycap then 0 else 2,
      { start := .emoji })
  else if behind.selector = some .text ∧ hasTextStyle c then (1, {})
  else if behind.selector = some .fullwidth ∧ isQuotation c then (2, {})
  else
    let start := if behind.selector.isSome then behind.start.withoutSelector else behind.start
    match Selector.of? c with
    | some s => (0, ⟨some s, start.behindSelector s⟩)
    | none =>
      match start.take c with
      | some (w, start) => (w, { start })
      | none => (charWidth c, { start := .of c })

/-- The columns that characters take, and what they begin with. -/
def widthOf (cs : List Char) : Int × Behind :=
  cs.foldr (fun c (w, behind) =>
    let (more, behind) := step c behind
    (w + more, behind)) (0, {})

/-- The columns that a text takes. -/
def displayWidth (text : String) : Nat :=
  (widthOf text.toList).1.toNat

end Text

end EepromImage
