import Metasearch.Decimal.Shortest

/-!
Reading a decimal number as the nearest double.
-/

namespace Metasearch.Decimal

/-- The value of a run of decimal digits. -/
def digitsValue (digits : List Char) : Nat :=
  digits.foldl (fun n c => 10 * n + (c.toNat - '0'.toNat)) 0

/-- The double nearest to a decimal, infinite when it is too large. Exponents far outside the range
of doubles are settled by the count of digits alone. -/
def Unsigned.toFloat (d : Unsigned) : Float :=
  if d.digits = 0 then 0.0
  else
    let leading := (Nat.log2 d.digits : Int) * 30103 / 100000 + d.exponent
    if leading > 400 then Float.ofBits 0x7FF0000000000000
    else if leading < -400 then 0.0
    else match d.exponent with
      | .ofNat k => Float.ofScientific d.digits false k
      | .negSucc k => Float.ofScientific d.digits true (k + 1)

/-- A decimal with a sign as the nearest double. Minus zero keeps its sign. -/
def signedFloat (negative : Bool) (d : Unsigned) : Float :=
  if negative then -d.toFloat else d.toFloat

/-- The parts of a decimal text: sign, whole digits, fraction digits and exponent. -/
def Unsigned.ofParts (whole fraction : List Char) (exponent : Int) : Unsigned :=
  ⟨digitsValue (whole ++ fraction), exponent - fraction.length⟩

/-- A signed run of digits as an exponent. -/
def exponentOf (negative : Bool) (digits : List Char) : Int :=
  if negative then -(digitsValue digits : Int) else digitsValue digits

end Metasearch.Decimal
