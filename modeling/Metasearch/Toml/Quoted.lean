import Metasearch.Text.Ranges

/-!
Reading quoted texts of TOML: basic ones with escapes and literal ones without, each on one line or
over several.
-/

namespace Metasearch.Toml

/-- The blanks within a line. -/
def isBlank (c : Char) : Bool :=
  c == ' ' || c == '\t'

/-- Whether a character may stand in a text or a comment: a tab, or anything that controls nothing. -/
def isPlain (c : Char) : Bool :=
  c == '\t' || (0x20 ≤ c.toNat && c.toNat != 0x7F)

def isHexDigit (c : Char) : Bool :=
  ('0' ≤ c && c ≤ '9') || ('a' ≤ c && c ≤ 'f') || ('A' ≤ c && c ≤ 'F')

/-- The character of a number, if it is one. -/
def charOf? (n : Nat) : Option Char :=
  if n.isValidChar then some (Char.ofNat n) else none

/-- The character given by a run of base-16 digits of a fixed length. -/
def hexEscape? (length : Nat) (cs : List Char) : Option Char :=
  let digits := cs.take length
  if digits.length = length ∧ digits.all isHexDigit then charOf? (Text.hexValue digits) else none

/-- What an escape stands for, and how many characters it has after the backslash. -/
def escape? : List Char → Option (Char × Nat)
  | 'b' :: _ => some ('\x08', 1)
  | 't' :: _ => some ('\t', 1)
  | 'n' :: _ => some ('\n', 1)
  | 'f' :: _ => some ('\x0c', 1)
  | 'r' :: _ => some ('\r', 1)
  | '"' :: _ => some ('"', 1)
  | '\\' :: _ => some ('\\', 1)
  | 'u' :: rest => (hexEscape? 4 rest).map (·, 5)
  | 'U' :: rest => (hexEscape? 8 rest).map (·, 9)
  | _ => none

/-- Put a character in front of a text that was read. -/
def prepend (c : Char) : Option (List Char × List Char) → Option (List Char × List Char)
  | none => none
  | some (text, rest) => some (c :: text, rest)

/-- Read a basic text after its opening quote; `skip` characters belong to the escape before. -/
def readBasic : Nat → List Char → Option (List Char × List Char)
  | _, [] => none
  | skip + 1, _ :: rest => readBasic skip rest
  | 0, '"' :: rest => some ([], rest)
  | 0, '\\' :: rest =>
    match escape? rest with
    | some (c, length) => prepend c (readBasic length rest)
    | none => none
  | 0, c :: rest => if isPlain c then prepend c (readBasic 0 rest) else none

/-- Read a literal text after its opening quote. -/
def readLiteral : List Char → Option (List Char × List Char)
  | [] => none
  | '\'' :: rest => some ([], rest)
  | c :: rest => if isPlain c then prepend c (readLiteral rest) else none

/-- Whether a line ends here, blanks passed over. -/
def endsLine (cs : List Char) : Bool :=
  match cs.dropWhile isBlank with
  | '\n' :: _ => true
  | '\r' :: '\n' :: _ => true
  | _ => false

/-- What is passed over in a basic text of several lines. -/
inductive Skip where
  | nothing
  /-- So many characters of the escape before. -/
  | characters (n : Nat)
  /-- Blanks and line ends, after a backslash at the end of a line. -/
  | blanks

/-- Read a basic text of several lines after its opening quotes. Up to two quotes may stand before the
three that close it. -/
def readBasicLines : Skip → List Char → Option (List Char × List Char)
  | _, [] => none
  | .characters (n + 1), _ :: rest => readBasicLines (.characters n) rest
  | .blanks, ' ' :: rest => readBasicLines .blanks rest
  | .blanks, '\t' :: rest => readBasicLines .blanks rest
  | .blanks, '\n' :: rest => readBasicLines .blanks rest
  | .blanks, '\r' :: '\n' :: rest => readBasicLines .blanks rest
  | _, '"' :: '"' :: '"' :: '"' :: '"' :: rest => some (['"', '"'], rest)
  | _, '"' :: '"' :: '"' :: '"' :: rest => some (['"'], rest)
  | _, '"' :: '"' :: '"' :: rest => some ([], rest)
  | _, '\\' :: rest =>
    if endsLine rest then readBasicLines .blanks rest
    else match escape? rest with
      | some (c, length) => prepend c (readBasicLines (.characters length) rest)
      | none => none
  | _, '\r' :: '\n' :: rest => prepend '\n' (readBasicLines .nothing rest)
  | _, '\n' :: rest => prepend '\n' (readBasicLines .nothing rest)
  | _, c :: rest => if isPlain c then prepend c (readBasicLines .nothing rest) else none

/-- Read a literal text of several lines after its opening quotes. -/
def readLiteralLines : List Char → Option (List Char × List Char)
  | [] => none
  | '\'' :: '\'' :: '\'' :: '\'' :: '\'' :: rest => some (['\'', '\''], rest)
  | '\'' :: '\'' :: '\'' :: '\'' :: rest => some (['\''], rest)
  | '\'' :: '\'' :: '\'' :: rest => some ([], rest)
  | '\r' :: '\n' :: rest => prepend '\n' (readLiteralLines rest)
  | '\n' :: rest => prepend '\n' (readLiteralLines rest)
  | c :: rest => if isPlain c then prepend c (readLiteralLines rest) else none

/-- Drop one line end at the head. -/
def dropLineEnd : List Char → List Char
  | '\n' :: rest => rest
  | '\r' :: '\n' :: rest => rest
  | cs => cs

/-- Read a text in any of the four forms. A line end right after three opening quotes does not belong to
it. -/
def readQuoted : List Char → Option (List Char × List Char)
  | '"' :: '"' :: '"' :: rest => readBasicLines .nothing (dropLineEnd rest)
  | '\'' :: '\'' :: '\'' :: rest => readLiteralLines (dropLineEnd rest)
  | '"' :: rest => readBasic 0 rest
  | '\'' :: rest => readLiteral rest
  | _ => none

end Metasearch.Toml
