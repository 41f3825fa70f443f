import Metasearch.Text.Ranges
import Metasearch.Text.Utf8

/-!
Percent-encoding: a byte is written as a percent sign and two digits in base 16. Which characters are
escaped depends on the place in a URL; bytes outside ASCII always are.
-/

namespace Metasearch.Url.Percent

/-- A digit in base 16, capital. -/
def hexDigit (n : Nat) : Char :=
  if n < 10 then Char.ofNat ('0'.toNat + n) else Char.ofNat ('A'.toNat + (n - 10))

def escapeByte (b : UInt8) : List Char :=
  ['%', hexDigit (b.toNat / 16), hexDigit (b.toNat % 16)]

/-- Escape one character if it is outside ASCII or in the set. -/
def escapeChar (inSet : Char → Bool) (c : Char) : List Char :=
  if c.toNat ≥ 0x80 || inSet c then (String.utf8EncodeChar c).flatMap escapeByte else [c]

def escape (inSet : Char → Bool) (cs : List Char) : List Char :=
  cs.flatMap (escapeChar inSet)

/-- The value of a byte that stands for a digit in base 16. -/
def hexByteValue? (b : UInt8) : Option UInt8 :=
  if 0x30 ≤ b ∧ b ≤ 0x39 then some (b - 0x30)
  else if 0x41 ≤ b ∧ b ≤ 0x46 then some (b - 0x37)
  else if 0x61 ≤ b ∧ b ≤ 0x66 then some (b - 0x57)
  else none

/-- Undo every escape. A percent sign without two digits after it stands for itself. -/
def decode : List UInt8 → List UInt8
  | 0x25 :: high :: low :: rest =>
    match hexByteValue? high, hexByteValue? low with
    | some h, some l => (h * 16 + l) :: decode rest
    | _, _ => 0x25 :: decode (high :: low :: rest)
  | b :: rest => b :: decode rest
  | [] => []

/-- Control characters, the smallest set. -/
def controlSet (c : Char) : Bool :=
  c.toNat < 0x20 || c.toNat = 0x7F

/-- What is escaped in a path. -/
def pathSet (c : Char) : Bool :=
  controlSet c || [' ', '"', '<', '>', '`', '#', '?', '\x7b', '\x7d'].contains c

/-- What is escaped in a user name or password. -/
def userinfoSet (c : Char) : Bool :=
  pathSet c || ['/', ':', ';', '=', '@', '[', '\\', ']', '^', '|'].contains c

/-- What is escaped in a query. -/
def querySet (c : Char) : Bool :=
  controlSet c || [' ', '"', '#', '<', '>'].contains c

/-- What is escaped in a query of the schemes that the web treats specially. -/
def specialQuerySet (c : Char) : Bool :=
  querySet c || c == '\''

end Metasearch.Url.Percent
