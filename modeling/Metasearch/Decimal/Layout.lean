import Metasearch.Decimal.Shortest

/-!
How decimal numbers are written: all digits in place, in the compact form of JSON, or rounded to a
fixed number of places.
-/

namespace Metasearch.Decimal

/-- The digits of a natural number in base ten. -/
def digitsText (n : Nat) : String :=
  toString n

def zeros (n : Nat) : String :=
  String.ofList (List.replicate n '0')

/-- Write every digit in its place. The fraction has at least `places` digits; with none there is no
point. -/
def Unsigned.positional (d : Unsigned) (places : Nat) : String :=
  let digits := digitsText d.digits
  let (whole, fraction) :=
    match d.exponent with
    | .ofNat k => (digits ++ (if d.digits = 0 then "" else zeros k), "")
    | .negSucc k =>
      let padded := (zeros (k + 2 - digits.length) ++ digits).toList
      let cut := padded.length - (k + 1)
      (String.ofList (padded.take cut), String.ofList (padded.drop cut))
  let fraction := fraction ++ zeros (places - fraction.length)
  if fraction.isEmpty then whole else whole ++ "." ++ fraction

/-- Write in the compact form of JSON: in place while the point stands at most sixteen digits after
the first digit and at most five zeros before it, otherwise with an exponent. -/
def Unsigned.compact (d : Unsigned) : String :=
  let digits := digitsText d.digits
  let point := (digits.length : Int) + d.exponent
  if d.digits = 0 then "0.0"
  else if -5 < point ∧ point ≤ 16 then d.positional 1
  else
    let exponent := toString (point - 1)
    match digits.toList with
    | [] => digits
    | [_] => digits ++ "e" ++ exponent
    | first :: rest => String.ofList (first :: '.' :: rest) ++ "e" ++ exponent

/-- Divide and round to the nearest whole number, a half to the even neighbour. -/
def roundedQuotient (numerator denominator : Nat) : Nat :=
  let below := numerator / denominator
  let remainder := numerator % denominator
  if 2 * remainder < denominator then below
  else if 2 * remainder > denominator then below + 1
  else if below % 2 = 0 then below else below + 1

def signText (x : Float) : String :=
  if isNegative x then "-" else ""

/-- A double in full decimal digits, whole numbers without a point. -/
def plainText (x : Float) : String :=
  if x.isNaN then "NaN"
  else if x.isInf then signText x ++ "inf"
  else signText x ++ (shortest x).positional 0

/-- A double rounded to a fixed number of places. The sign stays on a value that rounds to zero. -/
def fixedText (x : Float) (places : Nat) : String :=
  if x.isNaN then "NaN"
  else if x.isInf then signText x ++ "inf"
  else
    let size := Magnitude.ofFloat x
    let (n, d) := scaled size.significand 2 size.exponent
    signText x ++ (Unsigned.mk (roundedQuotient (n * Nat.pow 10 places) d) (-(places : Int))).positional places

end Metasearch.Decimal
