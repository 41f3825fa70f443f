import Metasearch.Decimal.Read
import Metasearch.Document.Value
import Metasearch.Toml.Quoted

/-!
Reading numbers, dates and times of TOML.
-/

namespace Metasearch.Toml

open Document

def isDigit (c : Char) : Bool :=
  '0' ≤ c && c ≤ '9'

/-- Cut off a run of digits in which single underscores may stand between digits. The underscores are
dropped from the digits. `none` if there is no digit at the head or an underscore has none after it. -/
def takeDigits (digit : Char → Bool) : List Char → Option (List Char × List Char)
  | [] => none
  | [c] => if digit c then some ([c], []) else none
  | c :: '_' :: rest => if digit c then prepend c (takeDigits digit rest) else none
  | c :: d :: rest =>
    if !digit c then none
    else if digit d then prepend c (takeDigits digit (d :: rest))
    else some ([c], d :: rest)

/-- A sign, if there is one: whether it is a minus. -/
def takeSign : List Char → Bool × List Char
  | '-' :: rest => (true, rest)
  | '+' :: rest => (false, rest)
  | cs => (false, cs)

/-- Cut off the digits of a whole number, in which a leading zero stands alone. -/
def takeWhole : List Char → Option (List Char × List Char)
  | '0' :: rest => some (['0'], rest)
  | cs => takeDigits isDigit cs

/-- A whole number, if it fits into 64 bits with a sign. -/
def signedInt (n : Int) : Option Value :=
  if fitsSigned n then some (.int n) else none

/-- The value of digits in a base that is a power of two or ten. -/
def valueIn (base : Nat) (digits : List Char) : Nat :=
  digits.foldl (fun n c => base * n + Text.hexDigitValue c) 0

/-- Read a whole number in another base, after the mark of the base. -/
def readInBase (base : Nat) (digit : Char → Bool) (cs : List Char) : Option (Value × List Char) := do
  let (digits, rest) ← takeDigits digit cs
  let value ← signedInt (valueIn base digits)
  return (value, rest)

/-- Cut off the exponent of a number, if there is one. -/
def takeExponent : List Char → Option (Option Int × List Char)
  | [] => some (none, [])
  | e :: rest =>
    if e == 'e' || e == 'E' then do
      let (negative, rest) := takeSign rest
      let (digits, rest) ← takeDigits isDigit rest
      return (some (Decimal.exponentOf negative digits), rest)
    else some (none, e :: rest)

/-- Cut off the fraction of a number, if there is one. -/
def takeFraction : List Char → Option (Option (List Char) × List Char)
  | '.' :: rest => do
    let (digits, rest) ← takeDigits isDigit rest
    return (some digits, rest)
  | cs => some (none, cs)

/-- Read a decimal number. With a fraction or an exponent it is a double, which must not be too large
if it is positive. -/
def readDecimal (cs : List Char) : Option (Value × List Char) := do
  let (negative, rest) := takeSign cs
  let (whole, rest) ← takeWhole rest
  let (fraction, rest) ← takeFraction rest
  let (exponent, rest) ← takeExponent rest
  if fraction.isNone && exponent.isNone then
    let n : Int := Decimal.digitsValue whole
    let value ← signedInt (if negative then -n else n)
    return (value, rest)
  let x := Decimal.signedFloat negative (.ofParts whole (fraction.getD []) (exponent.getD 0))
  if x.isInf && !negative then none
  return (.float x, rest)

/-- Read infinity or not-a-number, with or without a sign. -/
def readSpecial (cs : List Char) : Option (Value × List Char) :=
  let (negative, rest) := takeSign cs
  match rest with
  | 'i' :: 'n' :: 'f' :: rest => some (.float (if negative then -1.0 / 0.0 else 1.0 / 0.0), rest)
  | 'n' :: 'a' :: 'n' :: rest => some (.float (0.0 / 0.0), rest)
  | _ => none

/-- Read a number in any form. -/
def readNumber (cs : List Char) : Option (Value × List Char) :=
  match cs with
  | '0' :: 'x' :: rest => readInBase 16 isHexDigit rest
  | '0' :: 'o' :: rest => readInBase 8 (fun c => '0' ≤ c && c ≤ '7') rest
  | '0' :: 'b' :: rest => readInBase 2 (fun c => c == '0' || c == '1') rest
  | _ => (readSpecial cs).or (readDecimal cs)

/-- A number of exactly `count` digits within limits. -/
def takeField (count lo hi : Nat) (cs : List Char) : Option (Nat × List Char) :=
  let digits := cs.take count
  let n := Decimal.digitsValue digits
  if digits.length = count ∧ digits.all isDigit ∧ lo ≤ n ∧ n ≤ hi then some (n, cs.drop count)
  else none

/-- The rest after a given character at the head. -/
def after (c : Char) : List Char → Option (List Char)
  | d :: rest => if d = c then some rest else none
  | [] => none

/-- The number of days in a month. -/
def daysIn (year month : Nat) : Nat :=
  if month = 2 then
    if year % 4 = 0 ∧ (year % 100 ≠ 0 ∨ year % 400 = 0) then 29 else 28
  else if month = 4 ∨ month = 6 ∨ month = 9 ∨ month = 11 then 30
  else 31

/-- The rest after a date. -/
def dropDate (cs : List Char) : Option (List Char) := do
  let (year, rest) ← takeField 4 0 9999 cs
  let rest ← after '-' rest
  let (month, rest) ← takeField 2 1 12 rest
  let rest ← after '-' rest
  let (_, rest) ← takeField 2 1 (daysIn year month) rest
  return rest

/-- The rest after a time of day. -/
def dropTime (cs : List Char) : Option (List Char) := do
  let (_, rest) ← takeField 2 0 23 cs
  let rest ← after ':' rest
  let (_, rest) ← takeField 2 0 59 rest
  let rest ← after ':' rest
  let (_, rest) ← takeField 2 0 60 rest
  match rest with
  | '.' :: more => if (more.takeWhile isDigit).isEmpty then none else some (more.dropWhile isDigit)
  | _ => some rest

/-- The rest after the offset of a time zone, if there is one. -/
def dropOffset : List Char → Option (List Char)
  | [] => some []
  | c :: rest =>
    if c == 'Z' || c == 'z' then some rest
    else if c == '+' || c == '-' then do
      let (_, rest) ← takeField 2 0 23 rest
      let rest ← after ':' rest
      let (_, rest) ← takeField 2 0 59 rest
      return rest
    else some (c :: rest)

/-- Whether a time of day begins here: two digits and a colon. -/
def startsTime (cs : List Char) : Bool :=
  match takeField 2 0 23 cs with
  | some (_, ':' :: _) => true
  | _ => false

/-- The rest after a date with its time, or a time alone. -/
def dropMoment (cs : List Char) : Option (List Char) :=
  match takeField 4 0 9999 cs with
  | some (_, '-' :: _) => do
    let rest ← dropDate cs
    match rest with
    | mark :: more =>
      if (mark == 'T' || mark == 't' || mark == ' ') && startsTime more then
        dropOffset (← dropTime more)
      else some rest
    | [] => some []
  | _ => dropTime cs

/-- Whether a date or a time begins here. -/
def startsMoment (cs : List Char) : Bool :=
  match takeField 4 0 9999 cs with
  | some (_, '-' :: _) => true
  | _ => startsTime cs

/-- Read a number, a date or a time. -/
def readScalar (cs : List Char) : Option (Value × List Char) :=
  if startsMoment cs then
    (dropMoment cs).map fun rest =>
      (.date (String.ofList (cs.take (cs.length - rest.length))), rest)
  else readNumber cs

end Metasearch.Toml
