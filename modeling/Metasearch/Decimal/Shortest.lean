/-!
The fewest decimal digits that read back as a given double. The search is exact: a finite double is
`m * 2 ^ q`, and the reals that round to it form an interval around it, so a decimal reads back
exactly when it lies in that interval.
-/

namespace Metasearch.Decimal

/-- A decimal number without sign: `digits * 10 ^ exponent`. -/
structure Unsigned where
  digits : Nat
  exponent : Int
deriving Repr, DecidableEq

/-- The size of a finite nonzero double: `significand * 2 ^ exponent`. -/
structure Magnitude where
  significand : Nat
  exponent : Int
deriving Repr, DecidableEq

/-- The bit that a normal number has in front of its fraction of fifty-two bits. -/
def hiddenBit : Nat := 1 <<< 52

/-- Read the bits of a finite double, the sign left out. Subnormal numbers have the least exponent and
no hidden bit. -/
def Magnitude.ofFloat (x : Float) : Magnitude :=
  let bits := x.toBits.toNat
  let field : Nat := bits / hiddenBit % 2048
  let fraction : Nat := bits % hiddenBit
  if field = 0 then ⟨fraction, -1074⟩ else ⟨hiddenBit + fraction, Int.ofNat field - 1075⟩

/-- Whether the sign bit is set; negative zero counts, not-a-number does not. -/
def isNegative (x : Float) : Bool :=
  x.toBits.toNat ≥ UInt64.size / 2

/-- `n * b ^ e` as a fraction, for an exponent of either sign. -/
def scaled (n b : Nat) (e : Int) : Nat × Nat :=
  match e with
  | .ofNat k => (n * b.pow k, 1)
  | .negSucc k => (n, b.pow (k + 1))

/-- Compare `n * 2 ^ e` with `m * 10 ^ f`. -/
def compareScaled (n : Nat) (e : Int) (m : Nat) (f : Int) : Ordering :=
  let (a, b) := scaled n 2 e
  let (c, d) := scaled m 10 f
  compare (a * d) (c * b)

/-- The interval of reals that round to a magnitude, in quarters of its last place: it ends half a
place above and half a place below, or a quarter below at a power of two, where the doubles lie twice
as dense on the lower side. The ends belong to it when the significand is even. -/
def Magnitude.rounds (x : Magnitude) (d : Unsigned) : Bool :=
  let lower := if x.significand = hiddenBit ∧ x.exponent > -1074 then 1 else 2
  let even := x.significand % 2 = 0
  let atLow := compareScaled (4 * x.significand - lower) (x.exponent - 2) d.digits d.exponent
  let atHigh := compareScaled (4 * x.significand + 2) (x.exponent - 2) d.digits d.exponent
  (atLow = .lt ∨ (even ∧ atLow = .eq)) ∧ (atHigh = .gt ∨ (even ∧ atHigh = .eq))

/-- The exponent of the leading decimal digit of a nonzero magnitude. -/
def Magnitude.leading (x : Magnitude) : Int :=
  let guess := ((x.significand.log2 : Int) + x.exponent) * 30103 / 100000
  if compareScaled x.significand x.exponent 1 (guess + 1) != .lt then guess + 1
  else if compareScaled x.significand x.exponent 1 guess == .lt then guess - 1
  else guess

/-- The better of the two neighbours of a magnitude on the grid of multiples of `10 ^ exponent`, if
one of them rounds to it: the nearer one, and of two equally near ones the even one. -/
def Magnitude.onGrid (x : Magnitude) (exponent : Int) : Option Unsigned :=
  let (a, b) := scaled x.significand 2 x.exponent
  let (c, d) := scaled 1 10 exponent
  let below : Nat := a * d / (b * c)
  let remainder := a * d % (b * c)
  let nearer :=
    if 2 * remainder < b * c then below
    else if 2 * remainder > b * c then below + 1
    else if below % 2 = 0 then below else below + 1
  let other := if nearer = below then below + 1 else below
  if x.rounds ⟨nearer, exponent⟩ then some ⟨nearer, exponent⟩
  else if x.rounds ⟨other, exponent⟩ then some ⟨other, exponent⟩
  else none

/-- Try ever finer grids, `count` of them at most. -/
def Magnitude.firstGrid (x : Magnitude) (exponent : Int) : Nat → Unsigned
  | 0 => ⟨x.significand, 0⟩
  | count + 1 => (x.onGrid exponent).getD (x.firstGrid (exponent - 1) count)

/-- Move trailing zero digits into the exponent, `count` of them at most. The value stays. -/
def Unsigned.withoutZeros (d : Unsigned) : Nat → Unsigned
  | 0 => d
  | count + 1 =>
    if d.digits ≠ 0 ∧ d.digits % 10 = 0 then
      Unsigned.withoutZeros ⟨d.digits / 10, d.exponent + 1⟩ count
    else d

/-- The fewest digits that read back as the given nonzero magnitude. Seventeen always suffice. A
neighbour above may be the next power of ten, which is written with one digit. -/
def Magnitude.shortest (x : Magnitude) : Unsigned :=
  (x.firstGrid x.leading 18).withoutZeros 18

/-- The fewest digits that read back as the given finite double, its sign left out. -/
def shortest (x : Float) : Unsigned :=
  let size := Magnitude.ofFloat x
  if size.significand = 0 then ⟨0, 0⟩ else size.shortest

end Metasearch.Decimal
