/-!
Punycode: texts of any characters written with letters, digits and hyphens. The ASCII characters come
first, then the positions of all others as one sequence of variable-length numbers.
-/

namespace Metasearch.Url.Idna.Punycode

/-- The longest label, in characters, that is encoded. -/
def encodeLimit : Nat := 1000

/-- The longest label that is decoded. -/
def decodeLimit : Nat := 2000

/-- The weight threshold of the digit at position `k` (a multiple of 36) under the given bias. -/
def threshold (k bias : Nat) : Nat :=
  if k ≤ bias then 1 else if k ≥ bias + 26 then 26 else k - bias

/-- Halve a delta until it is small, counting in steps of 36. `fuel` bounds the number of halvings. -/
def settleDelta (delta k : Nat) : Nat → Nat
  | 0 => k
  | fuel + 1 => if delta > 455 then settleDelta (delta / 35) (k + 36) fuel else k + 36 * delta / (delta + 38)

/-- The bias for the next number after one that stood for `delta` places in a text of `count`
characters. -/
def adapt (delta count : Nat) (isFirst : Bool) : Nat :=
  let scaled := if isFirst then delta / 700 else delta / 2
  settleDelta (scaled + scaled / count) 0 64

/-- The digit of a value below 36. -/
def digit (n : Nat) : Char :=
  if n < 26 then Char.ofNat ('a'.toNat + n) else Char.ofNat ('0'.toNat + (n - 26))

/-- The value of a digit. -/
def digitValue? (c : Char) : Option Nat :=
  if 'a' ≤ c ∧ c ≤ 'z' then some (c.toNat - 'a'.toNat)
  else if 'A' ≤ c ∧ c ≤ 'Z' then some (c.toNat - 'A'.toNat)
  else if '0' ≤ c ∧ c ≤ '9' then some (c.toNat - '0'.toNat + 26)
  else none

/-- The digits of one number, least weight first. `fuel` bounds their count. -/
def writeNumber (bias q k : Nat) : Nat → List Char
  | 0 => []
  | fuel + 1 =>
    let t := threshold k bias
    if q < t then [digit q]
    else digit (t + (q - t) % (36 - t)) :: writeNumber bias ((q - t) / (36 - t)) (k + 36) fuel

/-- State of the encoder: the character reached, the places counted since the last number, the bias
and how many characters are written. -/
structure Progress where
  delta : Nat
  bias : Nat
  written : Nat
  basic : Nat

/-- Write the numbers for every occurrence of character `m` in the text. -/
def writeChar (m : Nat) : List Nat → Progress → List Char × Progress
  | [], p => ([], p)
  | n :: rest, p =>
    if n < m then writeChar m rest { p with delta := p.delta + 1 }
    else if n = m then
      let number := writeNumber p.bias p.delta 36 64
      let next : Progress :=
        { p with delta := 0, bias := adapt p.delta (p.written + 1) (p.written = p.basic), written := p.written + 1 }
      let (more, last) := writeChar m rest next
      (number ++ more, last)
    else writeChar m rest p

/-- Write the numbers for the characters of `codes`, taken in ascending order and each once. `n` is
the first character not treated yet. -/
def writeAll (text : List Nat) : List Nat → Nat → Progress → List Char
  | [], _, _ => []
  | m :: codes, n, p =>
    let advanced := { p with delta := p.delta + (m - n) * (p.written + 1) }
    let (digits, next) := writeChar m text advanced
    digits ++ writeAll text codes (m + 1) { next with delta := next.delta + 1 }

/-- Insert into an ascending list without repetition. -/
def insertCode (n : Nat) : List Nat → List Nat
  | [] => [n]
  | m :: rest => if n < m then n :: m :: rest else if n = m then m :: rest else m :: insertCode n rest

/-- Encode a text. Texts beyond the limit have no encoding. -/
def encode (cs : List Char) : Option (List Char) :=
  if cs.length > encodeLimit then none
  else
    let basic := cs.filter (·.toNat < 0x80)
    let codes := (cs.map Char.toNat).foldl (fun list n => if n < 0x80 then list else insertCode n list) []
    let start : Progress := ⟨0, 72, basic.length, basic.length⟩
    some (basic ++ (if basic.isEmpty then [] else ['-']) ++ writeAll (cs.map Char.toNat) codes 0x80 start)

/-- Read one number: its value added to `i`, and what follows. -/
def readNumber (bias : Nat) (i weight k : Nat) : List Char → Option (Nat × List Char)
  | [] => none
  | c :: rest =>
    match digitValue? c with
    | none => none
    | some d =>
      let i := i + d * weight
      if i ≥ UInt32.size then none
      else
        let t := threshold k bias
        if d < t then some (i, rest) else readNumber bias i (weight * (36 - t)) (k + 36) rest

/-- Put a character at a position. -/
def insertAt (c : Char) : Nat → List Char → List Char
  | 0, cs => c :: cs
  | n + 1, d :: cs => d :: insertAt c n cs
  | _ + 1, [] => [c]

/-- Read numbers and insert a character for each, `fuel` of them at most. -/
def readAll (output : List Char) (n i bias : Nat) (isFirst : Bool) (input : List Char) :
    Nat → Option (List Char)
  | 0 => if input.isEmpty then some output else none
  | fuel + 1 =>
    if input.isEmpty then some output
    else match readNumber bias i 1 36 input with
      | none => none
      | some (place, rest) =>
        let count := output.length + 1
        let code := n + place / count
        let position := place % count
        if code > 0x10FFFF ∨ (0xD800 ≤ code ∧ code ≤ 0xDFFF) then none
        else readAll (insertAt (Char.ofNat code) position output) code (position + 1)
          (adapt (place - i) count isFirst) false rest fuel

/-- Decode a text; the last hyphen ends the ASCII characters. A hyphen that ends nothing is no digit
either. -/
def decode? (cs : List Char) : Option (List Char) :=
  if cs.length > decodeLimit ∨ cs.any (·.toNat ≥ 0x80) then none
  else
    let tail := cs.reverse.takeWhile (· != '-')
    let head := cs.take (cs.length - tail.length)
    if head.length = 1 then none
    else readAll head.dropLast 0x80 0 72 true tail.reverse cs.length

end Metasearch.Url.Idna.Punycode
