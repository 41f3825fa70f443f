/-!
Sets and maps of characters given by sorted ranges of code points, the form in which the properties
of a character standard are published. Both are read from a compact text: tokens in base 16,
separated by blanks or line ends.
-/

namespace Metasearch.Text

/-- The value of a base-16 digit; other characters count as zero. -/
def hexDigitValue (c : Char) : Nat :=
  if '0' ≤ c ∧ c ≤ '9' then c.toNat - '0'.toNat
  else if 'a' ≤ c ∧ c ≤ 'f' then c.toNat - 'a'.toNat + 10
  else if 'A' ≤ c ∧ c ≤ 'F' then c.toNat - 'A'.toNat + 10
  else 0

/-- The number written by a run of base-16 digits. -/
def hexValue (digits : List Char) : Nat :=
  digits.foldl (fun n c => 16 * n + hexDigitValue c) 0

/-- Cut a text at every character that satisfies `isMark`. The marks are dropped, empty pieces are
kept, so there is one piece more than there are marks. -/
def splitAtMarks (isMark : Char → Bool) : List Char → List (List Char)
  | [] => [[]]
  | c :: rest =>
    if isMark c then [] :: splitAtMarks isMark rest
    else match splitAtMarks isMark rest with
      | [] => [[c]]
      | piece :: pieces => (c :: piece) :: pieces

/-- The blank-separated tokens of a table's text. -/
def tableTokens (text : String) : List (List Char) :=
  (splitAtMarks (fun c => c == ' ' || c == '\n') text.toList).filter (!·.isEmpty)

/-- A character set: inclusive ranges of code points, sorted and disjoint. -/
structure CharSet where
  ranges : Array (Nat × Nat)

/-- Read a set from tokens such as `41-5a` or `aa`. -/
def CharSet.ofText (text : String) : CharSet :=
  ⟨(tableTokens text).toArray.map fun token =>
    match splitAtMarks (· == '-') token with
    | [lo, hi] => (hexValue lo, hexValue hi)
    | pieces => let n := hexValue pieces.flatten; (n, n)⟩

/-- Position of the last entry whose key is at most `n`, searched in the window `[lo, hi)` of a table
sorted by key. `best` is the answer when the window holds none. -/
def lastAtMost {α : Type} (key : α → Nat) (table : Array α) (n : Nat) (best : Option α)
    (lo hi : Nat) (hHi : hi ≤ table.size) : Option α :=
  if h : lo < hi then
    let mid := lo + (hi - lo) / 2
    have hMid : mid < table.size := by omega
    if key table[mid] ≤ n then lastAtMost key table n (some table[mid]) (mid + 1) hi hHi
    else lastAtMost key table n best lo mid (by omega)
  else best
termination_by hi - lo

/-- Whether a character lies in one of the ranges. -/
def CharSet.contains (set : CharSet) (c : Char) : Bool :=
  match lastAtMost (·.1) set.ranges c.toNat none 0 set.ranges.size (Nat.le_refl _) with
  | some range => decide (c.toNat ≤ range.2)
  | none => false

/-- One range of a character map. Every `step`-th character from `lo` to `hi` is mapped: to `target`
itself if that is longer than one character, else to the character as far after the target as the
mapped one is after `lo`. -/
structure CharMap.Entry where
  lo : Nat
  hi : Nat
  step : Nat
  target : List Nat

/-- A partial map from characters to texts, by sorted and disjoint ranges. -/
structure CharMap where
  entries : Array CharMap.Entry

/-- Read one entry: `41-5a>61`, `100-12e/2>101` or `df>73.73`. -/
def CharMap.Entry.ofToken (token : List Char) : CharMap.Entry :=
  match splitAtMarks (· == '>') token with
  | source :: targets =>
    let (range, step) := match splitAtMarks (· == '/') source with
      | [range, step] => (range, hexValue step)
      | _ => (source, 1)
    let (lo, hi) := match splitAtMarks (· == '-') range with
      | [lo, hi] => (hexValue lo, hexValue hi)
      | _ => (hexValue range, hexValue range)
    ⟨lo, hi, step, (splitAtMarks (· == '.') targets.flatten).map hexValue⟩
  | [] => ⟨0, 0, 1, []⟩

def CharMap.ofText (text : String) : CharMap :=
  ⟨(tableTokens text).toArray.map CharMap.Entry.ofToken⟩

/-- What a character is mapped to, as code points. -/
def CharMap.codes? (map : CharMap) (c : Char) : Option (List Nat) :=
  match lastAtMost (·.lo) map.entries c.toNat none 0 map.entries.size (Nat.le_refl _) with
  | some entry =>
    if c.toNat ≤ entry.hi ∧ (c.toNat - entry.lo) % entry.step = 0 then
      match entry.target with
      | [first] => some [first + (c.toNat - entry.lo)]
      | target => some target
    else none
  | none => none

/-- What a character is mapped to, if the map has it. -/
def CharMap.get? (map : CharMap) (c : Char) : Option (List Char) :=
  (map.codes? c).map (·.map Char.ofNat)

end Metasearch.Text
