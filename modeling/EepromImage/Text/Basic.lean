/-
Written numbers, white space and lines.

* **Numeral.hexByte**, **Numeral.hexBytes** — a byte is always two digits, so a byte string of
  length `n` has `2 * n` digits;
* **Numeral.hex** — a number in at least the given number of digits, never cut;
* **Numeral.readUnsigned?** — an optional plus sign and then digits of the base, at least one;
* **Text.isBlank** — the characters with the Unicode property White_Space;
* **Text.numberedLines** — the lines of a text that hold more than white space, trimmed, with
  their numbers from 1 on.
-/
namespace EepromImage

namespace Numeral

/-! ### Writing -/

/-- The two hexadecimal digits of a byte, high half first. -/
def byteDigits (b : UInt8) : List Char :=
  [Nat.digitChar (b.toNat / 16), Nat.digitChar (b.toNat % 16)]

/-- A byte in hexadecimal. -/
def hexByte (b : UInt8) : String :=
  String.ofList (byteDigits b)

/-- A byte string in hexadecimal, without separators. -/
def hexBytes (bytes : List UInt8) : String :=
  String.ofList (bytes.flatMap byteDigits)

/-- A byte string in hexadecimal with a blank between the bytes. -/
def spacedHex (bytes : List UInt8) : String :=
  " ".intercalate (bytes.map hexByte)

/-- A number in decimal. -/
def decimal (n : Nat) : String :=
  String.ofList (Nat.toDigits 10 n)

/-- An integer in decimal, a minus sign in front of negative ones. -/
def signed (z : Int) : String :=
  if z < 0 then "-" ++ decimal z.natAbs else decimal z.natAbs

/-- The number that a byte stands for in two's complement. -/
def twosComplement (b : UInt8) : Int :=
  if b.toNat < 128 then b.toNat else b.toNat - 256

/-- Digits filled up with zeros on the left. -/
def zeroFill (width : Nat) (digits : List Char) : List Char :=
  List.replicate (width - digits.length) '0' ++ digits

/-- A number in hexadecimal with at least `width` digits. -/
def hex (width n : Nat) : String :=
  String.ofList (zeroFill width (Nat.toDigits 16 n))

/-- A hexadecimal number behind the marker `0x`, with at least `width` digits. -/
def marked (width n : Nat) : String :=
  "0x" ++ hex width n

/-- A byte behind the marker `0x`. -/
def markedByte (b : UInt8) : String :=
  "0x" ++ hexByte b

/-! ### Columns -/

/-- Text filled up with blanks on the right to `width` characters. -/
def padRight (width : Nat) (text : String) : String :=
  text ++ String.ofList (List.replicate (width - text.length) ' ')

/-- Text filled up with blanks on the left to `width` characters. -/
def padLeft (width : Nat) (text : String) : String :=
  String.ofList (List.replicate (width - text.length) ' ') ++ text

/-! ### Reading -/

/-- The value of a digit, letters of either case counting from ten. -/
def digitValue? (c : Char) : Option Nat :=
  if '0' ≤ c ∧ c ≤ '9' then some (c.toNat - '0'.toNat)
  else if 'a' ≤ c ∧ c ≤ 'z' then some (c.toNat - 'a'.toNat + 10)
  else if 'A' ≤ c ∧ c ≤ 'Z' then some (c.toNat - 'A'.toNat + 10)
  else none

/-- One more digit after the number read so far. -/
def pushDigit? (base acc : Nat) (c : Char) : Option Nat :=
  match digitValue? c with
  | some d => if d < base then some (acc * base + d) else none
  | none => none

/-- The number that the digits spell after `acc`; a character that is no digit of the base
refuses all. -/
def readDigits? (base : Nat) : Nat → List Char → Option Nat
  | acc, [] => some acc
  | acc, c :: cs =>
    match pushDigit? base acc c with
    | some acc' => readDigits? base acc' cs
    | none => none

/-- At least one digit of the base. -/
def readNatural? (base : Nat) : List Char → Option Nat
  | [] => none
  | cs => readDigits? base 0 cs

/-- At least one digit of the base, behind at most one plus sign. -/
def readUnsigned? (base : Nat) : List Char → Option Nat
  | '+' :: cs => readNatural? base cs
  | cs => readNatural? base cs

/-- An unsigned number below `bound`. -/
def readBelow? (bound base : Nat) (cs : List Char) : Option Nat :=
  (readUnsigned? base cs).filter (· < bound)

end Numeral

/-! ### White space and lines -/

namespace Text

/-- Whether a character has the property White_Space. -/
def isBlank (c : Char) : Bool :=
  let n := c.toNat
  (0x09 ≤ n && n ≤ 0x0d) || n = 0x20 || n = 0x85 || n = 0xa0 || n = 0x1680
    || (0x2000 ≤ n && n ≤ 0x200a)
    || n = 0x2028 || n = 0x2029 || n = 0x202f || n = 0x205f || n = 0x3000

/-- Without white space in front. -/
def trimLeft (cs : List Char) : List Char :=
  cs.dropWhile isBlank

/-- Without white space at the end. -/
def trimRight (cs : List Char) : List Char :=
  (cs.reverse.dropWhile isBlank).reverse

/-- Without white space at either end. -/
def trim (cs : List Char) : List Char :=
  trimRight (trimLeft cs)

/-- The pieces of a text between line feeds. -/
def lines (text : List Char) : List (List Char) :=
  text.splitOn '\n'

/-- A line with its number. -/
structure Line where
  number : Nat
  content : List Char
deriving DecidableEq, Repr

/-- The lines from number `first` on, trimmed, without the blank ones. -/
def number (first : Nat) (pieces : List (List Char)) : List Line :=
  ((pieces.zipIdx first).map fun (piece, n) => ⟨n, trim piece⟩).filter fun line =>
    !line.content.isEmpty

/-- The lines of a text that are not blank. -/
def numberedLines (text : List Char) : List Line :=
  number 1 (lines text)

end Text

end EepromImage
