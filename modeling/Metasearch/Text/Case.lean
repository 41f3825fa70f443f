import Metasearch.Text.LowercaseTable
import Metasearch.Text.CasingTable
import Metasearch.Text.AlphanumericTable

/-!
Lower case for any script. It is a map of single characters but for one rule of context: the Greek
capital sigma becomes the final form at the end of a word.
-/

namespace Metasearch.Text

/-- The lower-case form of one character out of context. -/
def lowerChar (c : Char) : List Char :=
  if c.toNat < 0x80 then
    if 'A' ≤ c ∧ c ≤ 'Z' then [Char.ofNat (c.toNat + 32)] else [c]
  else (lowercaseTable.get? c).getD [c]

/-- Whether a cased letter follows, characters that do not end a word passed over. -/
def leadsToCased (cs : List Char) : Bool :=
  match cs.dropWhile caseIgnorableTable.contains with
  | c :: _ => casedTable.contains c
  | [] => false

/-- Lower case of the rest of a text, given the characters before it in reverse. -/
def lowerAfter (before : List Char) : List Char → List Char
  | [] => []
  | c :: rest =>
    let image :=
      if c = 'Σ' then [if leadsToCased before && !leadsToCased rest then 'ς' else 'σ']
      else lowerChar c
    image ++ lowerAfter (c :: before) rest

/-- The lower-case form of a text. -/
def lowerChars (cs : List Char) : List Char :=
  lowerAfter [] cs

def lower (s : String) : String :=
  String.ofList (lowerChars s.toList)

/-- Lower case of the 26 Latin capitals; every other character is kept. -/
def lowerLatin (s : String) : String :=
  String.ofList (s.toList.map Char.toLower)

/-- Whether a character is a letter or a number of any script. -/
def isAlphanumeric (c : Char) : Bool :=
  if c.toNat < 0x80 then c.isAlphanum else alphanumericTable.contains c

end Metasearch.Text
