import Metasearch.Url.Percent
import Metasearch.Url.Idna.Domain

/-!
Hosts of URLs: domain names, addresses of both internet protocols, and the uninterpreted names of
schemes that the web does not know.
-/

namespace Metasearch.Url

/-- A host. The empty one is what a file URL has, and what a scheme unknown to the web may have. -/
inductive Host where
  | empty
  | name (text : List Char)
  | ipv4 (address : Nat)
  | ipv6 (pieces : List Nat)
deriving DecidableEq, Repr

namespace Host

def isDecimal (c : Char) : Bool := '0' ≤ c && c ≤ '9'

def isOctal (c : Char) : Bool := '0' ≤ c && c ≤ '7'

def isHex (c : Char) : Bool :=
  isDecimal c || ('a' ≤ c && c ≤ 'f') || ('A' ≤ c && c ≤ 'F')

/-- The number that digits write in a base. -/
def valueIn (base : Nat) (digits : List Char) : Nat :=
  digits.foldl (fun n c => base * n + Text.hexDigitValue c) 0

/-- One part of an address in version four: decimal, octal after a zero, or hexadecimal after `0x`. -/
def ipv4Number? (part : List Char) : Option Nat :=
  match part with
  | [] => none
  | '0' :: x :: digits =>
    if x = 'x' ∨ x = 'X' then
      if digits.all isHex then some (valueIn 16 digits) else none
    else if (x :: digits).all isOctal then some (valueIn 8 (x :: digits)) else none
  | digits => if digits.all isDecimal then some (valueIn 10 digits) else none

/-- The parts of a name between full stops, an empty last one left out. -/
def numberParts (name : List Char) : List (List Char) :=
  let parts := Text.splitAtMarks (· == '.') name
  if parts.getLast? = some [] then parts.dropLast else parts

/-- Whether a name has to be an address: its last part is a number. -/
def endsInNumber (name : List Char) : Bool :=
  match (numberParts name).getLast? with
  | none => false
  | some last => (!last.isEmpty && last.all isDecimal) || (ipv4Number? last).isSome

/-- The address that a name of numbers stands for. All numbers but the last are single bytes; the
last one fills the bytes that are left. -/
def parseIpv4 (name : List Char) : Option Nat := do
  let parts := numberParts name
  if parts.length > 4 then none
  let numbers ← parts.mapM ipv4Number?
  let last ← numbers.getLast?
  let leading := numbers.dropLast
  if leading.any (· > 255) || last ≥ Nat.pow 256 (4 - leading.length) then none
  return last + ((List.range leading.length).zip leading).foldl
    (fun sum (i, n) => sum + n * Nat.pow 256 (3 - i)) 0

/-- Read four decimal bytes separated by full stops, as they may end an address in version six. -/
def embeddedIpv4 (text : List Char) : Option (List Nat) := do
  let parts := Text.splitAtMarks (· == '.') text
  if parts.length ≠ 4 then none
  let numbers ← parts.mapM fun part =>
    if part.isEmpty || !part.all isDecimal || part.length > 3 ||
        (part.length > 1 && part.head? = some '0') then none
    else
      let n := valueIn 10 part
      if n > 255 then none else some n
  match numbers with
  | [a, b, c, d] => return [a * 256 + b, c * 256 + d]
  | _ => none

/-- The pieces of one side of an address in version six. Only the last piece of the whole address may
be an embedded address of version four. -/
def ipv6Pieces (mayEmbed : Bool) : List (List Char) → Option (List Nat)
  | [] => some []
  | [last] =>
    if mayEmbed && last.contains '.' then embeddedIpv4 last
    else if last.isEmpty || last.length > 4 || !last.all isHex then none
    else some [valueIn 16 last]
  | piece :: rest =>
    if piece.isEmpty || piece.length > 4 || !piece.all isHex then none
    else (ipv6Pieces mayEmbed rest).map (valueIn 16 piece :: ·)

/-- Cut a text at the first double colon. -/
def cutAtDoubleColon : List Char → Option (List Char × List Char)
  | ':' :: ':' :: rest => some ([], rest)
  | c :: rest => (cutAtDoubleColon rest).map fun (before, after) => (c :: before, after)
  | [] => none

/-- The pieces between single colons; none for an empty text. -/
def colonPieces (text : List Char) : List (List Char) :=
  if text.isEmpty then [] else Text.splitAtMarks (· == ':') text

/-- The eight pieces of an address in version six. A double colon stands for one zero piece or
more. -/
def parseIpv6 (text : List Char) : Option (List Nat) := do
  match cutAtDoubleColon text with
  | none =>
    let pieces ← ipv6Pieces true (colonPieces text)
    if pieces.length = 8 then some pieces else none
  | some (before, after) =>
    let first ← ipv6Pieces false (colonPieces before)
    let second ← ipv6Pieces true (colonPieces after)
    let missing := 8 - (first.length + second.length)
    if missing = 0 then none else some (first ++ List.replicate missing 0 ++ second)

/-- The text between brackets. -/
def betweenBrackets (text : List Char) : Option (List Char) :=
  if text.getLast? = some ']' then some (text.drop 1).dropLast else none

/-- Read the host of a scheme that the web knows. Escapes are undone before the name is put into
ASCII form. -/
def parseSpecial (text : List Char) : Option Host :=
  if text.head? = some '[' then
    (betweenBrackets text).bind fun inner => (parseIpv6 inner).map .ipv6
  else do
    let decoded ← Text.Utf8.decode? (Percent.decode (Text.Utf8.encode text))
    let name ← Idna.toAscii decoded
    if name.isEmpty then none
    else if endsInNumber name then (parseIpv4 name).map .ipv4
    else return .name name

/-- The characters that an uninterpreted host may not hold. -/
def isForbiddenOpaque (c : Char) : Bool :=
  ['\x00', '\t', '\n', '\r', ' ', '#', '/', ':', '<', '>', '?', '@', '[', '\\', ']', '^', '|'].contains c

/-- Read the host of any other scheme. -/
def parseOpaque (text : List Char) : Option Host :=
  if text.head? = some '[' then
    (betweenBrackets text).bind fun inner => (parseIpv6 inner).map .ipv6
  else if text.any isForbiddenOpaque then none
  else if text.isEmpty then some .empty
  else some (.name (Percent.escape Percent.controlSet text))

/-- A number in base 16, lower case, without leading zeros. -/
def hexText (n : Nat) : List Char :=
  Nat.toDigits 16 n

/-- The first longest run of zeros of an address, as start and length. -/
def longestZeros : List Nat → Nat → Nat × Nat → Nat × Nat
  | [], _, best => best
  | piece :: rest, position, best =>
    let run := ((piece :: rest).takeWhile (· == 0)).length
    longestZeros rest (position + 1) (if run > best.2 then (position, run) else best)

/-- Write an address in version six, its first longest run of at least two zeros as a double colon. -/
def ipv6Text (pieces : List Nat) : List Char :=
  let (start, length) := longestZeros pieces 0 (0, 1)
  let join := fun ps : List Nat => Text.joinWith [':'] (ps.map hexText)
  if length < 2 then join pieces
  else join (pieces.take start) ++ [':', ':'] ++ join (pieces.drop (start + length))

def ipv4Text (address : Nat) : List Char :=
  Text.joinWith ['.'] ([3, 2, 1, 0].map fun i => (toString (address / Nat.pow 256 i % 256)).toList)

/-- Write a host. -/
def toText : Host → List Char
  | .empty => []
  | .name text => text
  | .ipv4 address => ipv4Text address
  | .ipv6 pieces => '[' :: ipv6Text pieces ++ [']']

end Host

end Metasearch.Url
