import Metasearch.Random.Stream

/-!
Drawing from a range and drawing events of a given chance.
-/

namespace Metasearch.Random

/-- The number of 64-bit words. -/
def wordCount : Nat := UInt64.size

/-- The greatest lower half of a product that is accepted when one of `count` numbers is drawn: as many
lower halves belong to each number, so that all are equally likely. -/
def acceptedZone (count : Nat) : Nat :=
  (count <<< (63 - Nat.log2 count)) - 1

/-- Draw one of the numbers below `count` by multiplying a word by `count` and taking the upper half;
words whose product falls outside the accepted zone are passed over. At most half of all words are, so
`tries` of them fail together with a chance below `2 ^ -tries`. -/
def Stream.below (stream : Stream) (count : Nat) : Nat → Nat × Stream
  | 0 => (0, stream)
  | tries + 1 =>
    let (word, stream) := stream.draw
    let product := word.toNat * count
    if product % wordCount ≤ acceptedZone count then (product / wordCount, stream)
    else stream.below count tries

/-- How many words may be passed over in one draw. -/
def maxTries : Nat := 4096

/-- Draw a number from `lo` to `hi`, both included. -/
def Stream.between (stream : Stream) (lo hi : UInt64) : UInt64 × Stream :=
  let count := hi.toNat - lo.toNat + 1
  if count = wordCount then stream.draw
  else
    let (offset, stream) := stream.below count maxTries
    (lo + UInt64.ofNat offset, stream)

/-- The words below which a chance event happens: the chance in units of one word. -/
def chanceBound (chance : Float) : UInt64 :=
  (chance * 18446744073709551616.0).toUInt64

/-- Draw whether an event happens. A sure event needs no draw. -/
def Stream.chance (stream : Stream) (chance : Float) : Bool × Stream :=
  if chance == 1.0 then (true, stream)
  else
    let (word, stream) := stream.draw
    (decide (word < chanceBound chance), stream)

end Metasearch.Random
