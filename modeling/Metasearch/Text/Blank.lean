/-!
Blank characters and what is cut at them: trimming at both ends and splitting into words.
-/

namespace Metasearch.Text

/-- The white space of the character standard: 25 characters, among them the next-line and no-break
spaces and the ideographic space, but not the zero-width ones. -/
def isBlank (c : Char) : Bool :=
  let n := c.toNat
  (9 ≤ n && n ≤ 13) || n == 0x20 || n == 0x85 || n == 0xA0 || n == 0x1680 ||
    (0x2000 ≤ n && n ≤ 0x200A) || n == 0x2028 || n == 0x2029 || n == 0x202F || n == 0x205F ||
    n == 0x3000

/-- Drop the longest tail of characters that satisfy `p`. -/
def dropTailWhile (p : Char → Bool) (cs : List Char) : List Char :=
  (cs.reverse.dropWhile p).reverse

/-- Drop the blanks at both ends. -/
def trimChars (cs : List Char) : List Char :=
  dropTailWhile isBlank (cs.dropWhile isBlank)

/-- Drop the blanks at both ends. -/
def trim (s : String) : String :=
  String.ofList (trimChars s.toList)

/-- Whether a text has no character but blanks. -/
def isBlankText (s : String) : Bool :=
  s.toList.all isBlank

/-- The maximal runs of characters that do not satisfy `isMark`, in order. -/
def runsBetween (isMark : Char → Bool) : List Char → List (List Char)
  | [] => []
  | c :: rest =>
    if isMark c then runsBetween isMark rest
    else match rest with
      | [] => [[c]]
      | next :: _ =>
        if isMark next then [c] :: runsBetween isMark rest
        else match runsBetween isMark rest with
          | [] => [[c]]
          | run :: runs => (c :: run) :: runs

/-- The words of a text: what blanks separate. -/
def words (s : String) : List (List Char) :=
  runsBetween isBlank s.toList

/-- Join texts with one separator between neighbours. -/
def joinWith (separator : List Char) : List (List Char) → List Char
  | [] => []
  | [last] => last
  | first :: rest => first ++ separator ++ joinWith separator rest

end Metasearch.Text
