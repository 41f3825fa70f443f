import Metasearch.Text.Blank
import Metasearch.Url.Idna.Label
import Metasearch.Url.Idna.Punycode

/-!
Host names in ASCII form. Characters are mapped and composed, labels that carry Punycode are checked
against what they stand for, and labels outside ASCII are written in Punycode.
-/

namespace Metasearch.Url.Idna

/-- The ASCII characters that no host name may hold. -/
def isForbidden (c : Char) : Bool :=
  c.toNat ≤ 0x20 || c.toNat = 0x7F ||
    ['%', '#', '/', ':', '<', '>', '?', '@', '[', '\\', ']', '^', '|'].contains c

/-- The four characters before the Punycode of a label. -/
def marker : List Char := ['x', 'n', '-', '-']

/-- Replace one character by what it stands for in host names. -/
def mapChar (c : Char) : Option (List Char) :=
  if c.toNat < 0x80 then some [c.toLower]
  else if validTable.contains c then some [c]
  else if ignoredTable.contains c then some []
  else mappedTable.get? c

/-- Replace every character; `none` if one of them has no place in a host name. -/
def mapChars : List Char → Option (List Char)
  | [] => some []
  | c :: rest => do
    let image ← mapChar c
    let images ← mapChars rest
    return image ++ images

/-- What a label stands for, or `none` if it breaks a rule. Punycode has to stand for a text outside
ASCII in composed form. -/
def Label.meaning (label : List Char) : Option (List Char) :=
  if marker.isPrefixOf label then
    match Punycode.decode? (label.drop 4) with
    | some text =>
      if text.all (·.toNat < 0x80) || normalForm text != text || marker.isPrefixOf text then none
      else if labelAllowed text then some text
      else none
    | none => none
  else if label.all (·.toNat < 0x80) then some label
  else if labelAllowed label then some label
  else none

/-- The ASCII form of what a label stands for. -/
def Label.toAscii (text : List Char) : Option (List Char) :=
  if text.all (·.toNat < 0x80) then some text
  else (Punycode.encode text).map (marker ++ ·)

/-- The ASCII form of a host name by the general rules. -/
def generalToAscii (name : List Char) : Option (List Char) := do
  let mapped ← mapChars name
  let labels := Text.splitAtMarks (· == '.') (normalForm mapped)
  let texts ← labels.mapM Label.meaning
  if texts.any (·.any fun c => c.toNat < 0x80 && isForbidden c) then none
  else if texts.any (·.any fun c => (direction c).isRightward) && !texts.all directionAllowed then none
  else
    let written ← texts.mapM Label.toAscii
    return Text.joinWith ['.'] written

/-- Whether a name has no character outside ASCII and no label in Punycode. -/
def isSimple (name : List Char) : Bool :=
  name.all (·.toNat < 0x80) &&
    (Text.splitAtMarks (· == '.') (name.map Char.toLower)).all (!marker.isPrefixOf ·)

/-- The ASCII form of a host name. A name without anything international is only put into lower
case. -/
def toAscii (name : List Char) : Option (List Char) :=
  if isSimple name then
    if name.any isForbidden then none else some (name.map Char.toLower)
  else generalToAscii name

end Metasearch.Url.Idna
