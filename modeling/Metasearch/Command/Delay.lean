import Metasearch.Decimal.Layout
import Metasearch.Decimal.Read
import Metasearch.Duration

/-!
Delays as they are given on the command line: a decimal number of seconds.
-/

namespace Metasearch.Command

def isDigit (c : Char) : Bool :=
  '0' ≤ c && c ≤ '9'

/-- Read the exponent of a number, which is all that is left of it. -/
def readExponent (cs : List Char) : Option Int :=
  match cs with
  | [] => some 0
  | e :: rest =>
    if e == 'e' || e == 'E' then
      let (negative, digits) := match rest with
        | '-' :: rest => (true, rest)
        | '+' :: rest => (false, rest)
        | _ => (false, rest)
      if digits.isEmpty || !digits.all isDigit then none
      else some (Decimal.exponentOf negative digits)
    else none

/-- Read a number without its sign: whole digits, a fraction and an exponent, of which the fraction or the
whole digits may be missing. -/
def readUnsigned (cs : List Char) : Option Decimal.Unsigned :=
  let whole := cs.takeWhile isDigit
  let rest := cs.dropWhile isDigit
  let (fraction, rest) := match rest with
    | '.' :: more => (more.takeWhile isDigit, more.dropWhile isDigit)
    | _ => ([], rest)
  if whole.isEmpty && fraction.isEmpty then none
  else (readExponent rest).map fun exponent => .ofParts whole fraction exponent

/-- Read a double: a decimal number, or infinity or not-a-number by name in any case. -/
def readFloat (text : String) : Option Float :=
  let (negative, rest) := match text.toList with
    | '-' :: rest => (true, rest)
    | '+' :: rest => (false, rest)
    | cs => (false, cs)
  let infinity : Float := 1.0 / 0.0
  match String.ofList (rest.map Char.toLower) with
  | "inf" => some (if negative then -infinity else infinity)
  | "infinity" => some (if negative then -infinity else infinity)
  | "nan" => some (0.0 / 0.0)
  | _ => (readUnsigned rest).map (Decimal.signedFloat negative)

/-- Why a number of seconds is no duration. -/
inductive DelayFault where
  | negative
  | tooLarge
deriving DecidableEq, Repr

def DelayFault.message : DelayFault → String
  | negative => "cannot convert float seconds to Duration: value is negative"
  | tooLarge => "cannot convert float seconds to Duration: value is either too big or NaN"

/-- A finite number of seconds in nanoseconds, rounded to the nearest one and a half to the even one. The
sign is left out. -/
def nanosOf (seconds : Float) : Nat :=
  let size := Decimal.Magnitude.ofFloat seconds
  let (n, d) := Decimal.scaled size.significand 2 size.exponent
  Decimal.roundedQuotient (n * Duration.nanosPerSec) d

/-- The duration of a number of seconds. Minus zero is zero. -/
def delayOf (seconds : Float) : Except DelayFault Duration :=
  if seconds < 0.0 then .error .negative
  else if seconds.isNaN || seconds.isInf then .error .tooLarge
  else match Duration.ofNanos? (nanosOf seconds) with
    | some delay => .ok delay
    | none => .error .tooLarge

end Metasearch.Command
