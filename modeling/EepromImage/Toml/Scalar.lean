/-
Unquoted values: truth values, integers, floating-point numbers, dates and times of day.

* **integer?** — decimal with a sign, or hexadecimal, octal or binary without one; the number
  is read only where it is asked for, so that a word may pass for an integer and spell no
  number;
* **isFloat** — a decimal number with a fraction or an exponent, an infinity, or not a number;
* **isMoment** — a date, a time of day, or both with an optional offset.
-/
import EepromImage.Toml.Quoted

namespace EepromImage.Toml

/-! ### Numbers -/

/-- Digits, where one underscore may stand between two of them; the digits without
underscores. -/
def grouped? (isDigit : Char → Bool) (cs : List Char) : Option (List Char) :=
  let groups := cs.splitOn '_'
  if groups.all (fun g => !g.isEmpty && g.all isDigit) then some groups.flatten else none

/-- Whether a character is a digit of a base. -/
def isDigitOf (base : Nat) (c : Char) : Bool :=
  (Numeral.pushDigit? base 0 c).isSome

/-- Whether groups may stand behind an underscore each: they start with a digit, and all but
the last one end with a digit. -/
def areGroups (isDigit : Char → Bool) : List (List Char) → Bool
  | [] => true
  | [last] => last.head?.any isDigit
  | group :: groups =>
    group.head?.any isDigit && group.getLast?.any isDigit && areGroups isDigit groups

/-- Whether a number has a fraction or an exponent. -/
def isFractional (cs : List Char) : Bool :=
  cs.any fun c => c = '.' || c = 'e' || c = 'E'

/-- A sign, and what follows it. -/
def splitSign : List Char → Bool × List Char
  | '-' :: rest => (true, rest)
  | '+' :: rest => (false, rest)
  | rest => (false, rest)

/-- The integer that digits of a base spell behind the marker of the base. -/
def radixed? (base : Nat) : List Char → Option (Option Int)
  | [] => some none
  | cs => (grouped? (isDigitOf base) cs).map fun digits =>
    (Numeral.readNatural? base digits).map Int.ofNat

/-- The integer that a sign and digits spell.  There is no needless zero in front, and an
underscore in front only behind a sign. -/
def decimal? (cs : List Char) : Option (Option Int) :=
  let (negative, digits) := splitSign cs
  match digits.splitOn '_' with
  | [] => none
  | first :: groups =>
    let starts := match first with
      | [] => digits ≠ cs && !groups.isEmpty
      | '0' :: _ => digits = ['0']
      | _ => true
    if starts && first.all Char.isDigit && areGroups (isDigitOf 16) groups
      && !isFractional digits then
      some ((Numeral.readNatural? 10 (first ++ groups.flatten)).map fun n =>
        if negative then -Int.ofNat n else Int.ofNat n)
    else none

/-- The integer that is written, with its number if there is one. -/
def integer? : List Char → Option (Option Int)
  | '0' :: 'x' :: cs => radixed? 16 cs
  | '0' :: 'o' :: cs => radixed? 8 cs
  | '0' :: 'b' :: cs => radixed? 2 cs
  | cs => decimal? cs

/-- Whether digits in front of a fraction or an exponent are written: without a needless zero
in front, and with an underscore in front only behind a sign. -/
def isWholePart (signed : Bool) : List Char → Bool
  | '_' :: cs => signed && (grouped? Char.isDigit cs).isSome
  | cs =>
    match grouped? Char.isDigit cs with
    | some ('0' :: _ :: _) => false
    | digits? => digits?.isSome

/-- Whether a floating-point number is written. -/
def isFloat (cs : List Char) : Bool :=
  let digits := (splitSign cs).2
  let mantissa := digits.takeWhile fun c => c ≠ 'e' && c ≠ 'E'
  let whole := mantissa.takeWhile (· ≠ '.')
  let isDigits (cs : List Char) := (grouped? Char.isDigit cs).isSome
  let fractionFits := match mantissa.dropWhile (· ≠ '.') with
    | [] => true
    | _ :: fraction => isDigits fraction
  let exponentFits := match digits.dropWhile fun c => c ≠ 'e' && c ≠ 'E' with
    | [] => true
    | _ :: exponent => isDigits (splitSign exponent).2
  digits = ['i', 'n', 'f'] || digits = ['n', 'a', 'n']
    || (isFractional digits && isWholePart (digits ≠ cs) whole && fractionFits
      && exponentFits)

/-! ### Dates and times -/

/-- The number that exactly `n` digits in front spell, and what follows them. -/
def fixedDigits? (n : Nat) (cs : List Char) : Option (Nat × List Char) :=
  let digits := cs.take n
  if digits.length = n && digits.all Char.isDigit then
    (Numeral.readNatural? 10 digits).map fun v => (v, cs.drop n)
  else none

/-- The days of a month. -/
def daysIn (year month : Nat) : Nat :=
  if month = 2 then
    if year % 4 = 0 && (year % 100 ≠ 0 || year % 400 = 0) then 29 else 28
  else if month = 4 || month = 6 || month = 9 || month = 11 then 30
  else 31

/-- What follows a date. -/
def date? (cs : List Char) : Option (List Char) :=
  match fixedDigits? 4 cs with
  | some (year, '-' :: cs) =>
    match fixedDigits? 2 cs with
    | some (month, '-' :: cs) =>
      match fixedDigits? 2 cs with
      | some (day, rest) =>
        if 1 ≤ month && month ≤ 12 && 1 ≤ day && day ≤ daysIn year month then some rest
        else none
      | none => none
    | _ => none
  | _ => none

/-- What follows hours and minutes. -/
def hoursMinutes? (cs : List Char) : Option (List Char) :=
  match fixedDigits? 2 cs with
  | some (hours, ':' :: cs) =>
    match fixedDigits? 2 cs with
    | some (minutes, rest) => if hours ≤ 23 && minutes ≤ 59 then some rest else none
    | none => none
  | _ => none

/-- What follows a fraction of a second, which may be missing. -/
def fraction? : List Char → Option (List Char)
  | '.' :: cs =>
    if (cs.takeWhile Char.isDigit).isEmpty then none else some (cs.dropWhile Char.isDigit)
  | cs => some cs

/-- What follows a time of day; its seconds may be missing. -/
def time? (cs : List Char) : Option (List Char) :=
  match hoursMinutes? cs with
  | some (':' :: cs) =>
    match fixedDigits? 2 cs with
    | some (seconds, rest) => if seconds ≤ 60 then fraction? rest else none
    | none => none
  | rest? => rest?

/-- Whether an offset, or nothing, is written. -/
def isOffset : List Char → Bool
  | [] => true
  | ['Z'] => true
  | ['z'] => true
  | '+' :: cs => hoursMinutes? cs = some []
  | '-' :: cs => hoursMinutes? cs = some []
  | _ => false

/-- Whether a character stands between a date and a time of day. -/
def joinsTime (c : Char) : Bool :=
  c = 'T' || c = 't' || c = ' '

/-- Whether a date, a time of day, or both are written. -/
def isMoment (cs : List Char) : Bool :=
  match date? cs with
  | some [] => true
  | some (c :: cs) => joinsTime c && (time? cs).any isOffset
  | none => time? cs = some []

/-! ### Words -/

/-- Whether a character cannot stand in an unquoted value. -/
def endsWord (c : Char) : Bool :=
  isBlank c || ['\n', '\r', '=', ',', '[', ']', '\x7b', '\x7d', '#'].contains c

/-- An unquoted value and what follows it.  A date takes in a time of day behind one space. -/
def word (text : List Char) : List Char × List Char :=
  let first := text.takeWhile fun c => !endsWord c
  let rest := text.dropWhile fun c => !endsWord c
  match rest with
  | ' ' :: next =>
    if date? first = some [] && next.head?.any Char.isDigit then
      (first ++ ' ' :: next.takeWhile (fun c => !endsWord c),
        next.dropWhile fun c => !endsWord c)
    else (first, rest)
  | _ => (first, rest)

/-- The value that an unquoted word stands for. -/
def ofWord? (w : List Char) : Option Value :=
  if w = ['t', 'r', 'u', 'e'] then some (.boolean true)
  else if w = ['f', 'a', 'l', 's', 'e'] then some (.boolean false)
  else
    match integer? w with
    | some z => some (.integer z)
    | none =>
      if isFloat w then some (.float (String.ofList w))
      else if isMoment w then some (.moment (String.ofList w))
      else none

end EepromImage.Toml
