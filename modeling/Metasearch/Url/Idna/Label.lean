import Metasearch.Url.Idna.Compose
import Metasearch.Url.Idna.DirectionTable
import Metasearch.Url.Idna.JoiningTable
import Metasearch.Url.Idna.MappingTable

/-!
The rules that one label of an internationalised host name has to keep, apart from its spelling:
invisible joiners stand only where a script needs them, and writing direction is consistent.
-/

namespace Metasearch.Url.Idna

/-- Characters of combining class nine, after which a joiner is meaningful. -/
def isVirama (c : Char) : Bool :=
  combiningClass c = 9

/-- Whether the nearest character that is not passed over satisfies one of two joining properties. -/
def nearestJoins (first second : Text.CharSet) (cs : List Char) : Bool :=
  match cs.dropWhile transparentTable.contains with
  | c :: _ => first.contains c || second.contains c
  | [] => false

/-- Whether every joiner of a label is allowed where it stands. `before` holds the characters before
the rest, in reverse. -/
def joinersAllowed (before : List Char) : List Char → Bool
  | [] => true
  | c :: rest =>
    let afterVirama := match before with
      | b :: _ => isVirama b
      | [] => false
    let here :=
      if c = '\u200C' then
        afterVirama || (nearestJoins joinsLeftTable joinsBothTable before &&
          nearestJoins joinsRightTable joinsBothTable rest)
      else if c = '\u200D' then afterVirama
      else true
    here && joinersAllowed (c :: before) rest

/-- The writing direction of a character as far as labels are concerned. -/
inductive Direction where
  | left | right | arabic | arabicNumber | europeanNumber | neutral | nonspacing | other
deriving DecidableEq, Repr

def direction (c : Char) : Direction :=
  if leftTable.contains c then .left
  else if rightTable.contains c then .right
  else if arabicTable.contains c then .arabic
  else if arabicNumberTable.contains c then .arabicNumber
  else if europeanNumberTable.contains c then .europeanNumber
  else if nonspacingTable.contains c then .nonspacing
  else if neutralTable.contains c then .neutral
  else .other

/-- Whether a character makes the whole host name subject to the rules on direction. -/
def Direction.isRightward : Direction → Bool
  | .right | .arabic | .arabicNumber => true
  | _ => false

/-- The rules on direction for one label of a host name that holds right-to-left characters. -/
def directionAllowed (cs : List Char) : Bool :=
  let classes := cs.map direction
  let visible := (classes.reverse.dropWhile (· == .nonspacing)).head?
  match classes.head? with
  | none => true
  | some .left =>
    classes.all (fun d => d == .left || d == .europeanNumber || d == .neutral || d == .nonspacing) &&
      (visible == some .left || visible == some .europeanNumber)
  | some first =>
    (first == .right || first == .arabic) &&
      classes.all (fun d => d != .left && d != .other) &&
      (visible == some .right || visible == some .arabic || visible == some .europeanNumber ||
        visible == some .arabicNumber) &&
      !(classes.contains .europeanNumber && classes.contains .arabicNumber)

/-- The rules that a label outside ASCII keeps whatever the rest of the name is. -/
def labelAllowed (cs : List Char) : Bool :=
  (match cs with
    | c :: _ => !markTable.contains c
    | [] => true) &&
  cs.all validTable.contains && joinersAllowed [] cs

end Metasearch.Url.Idna
