import Metasearch.Text.Blank
import Metasearch.Url.Percent

/-!
Queries as lists of name and value pairs, in the encoding of web forms: pairs are joined by `&`, a
name and its value by `=`, a blank is a plus sign and everything but letters, digits and `*-._` is
percent-encoded.
-/

namespace Metasearch.Url.Form

/-- A name and its value, both decoded. -/
abbrev Pair := List Char × List Char

/-- The bytes that stand for themselves in an encoded name or value. -/
def isPlain (b : UInt8) : Bool :=
  (0x30 ≤ b && b ≤ 0x39) || (0x41 ≤ b && b ≤ 0x5A) || (0x61 ≤ b && b ≤ 0x7A) ||
    b == 0x2A || b == 0x2D || b == 0x2E || b == 0x5F

def encodeByte (b : UInt8) : List Char :=
  if isPlain b then [Char.ofNat b.toNat]
  else if b = 0x20 then ['+']
  else Percent.escapeByte b

def encodeText (cs : List Char) : List Char :=
  (Text.Utf8.encode cs).flatMap encodeByte

def encodePair (pair : Pair) : List Char :=
  encodeText pair.1 ++ '=' :: encodeText pair.2

def encode (pairs : List Pair) : List Char :=
  Text.joinWith ['&'] (pairs.map encodePair)

/-- Decode one name or value. Bytes that are not text become replacement characters. -/
def decodeText (cs : List Char) : List Char :=
  Text.Utf8.decodeLenient
    (Percent.decode ((Text.Utf8.encode cs).map fun b => if b = 0x2B then 0x20 else b))

/-- Decode one pair; without an equals sign the value is empty. -/
def decodePair (cs : List Char) : Pair :=
  (decodeText (cs.takeWhile (· != '=')), decodeText ((cs.dropWhile (· != '=')).drop 1))

/-- The pairs of a query. Empty pieces between ampersands are none. -/
def decode (query : List Char) : List Pair :=
  ((Text.splitAtMarks (· == '&') query).filter (!·.isEmpty)).map decodePair

end Metasearch.Url.Form
