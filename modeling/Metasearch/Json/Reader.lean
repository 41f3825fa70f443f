import Metasearch.Decimal.Read
import Metasearch.Document.Value
import Metasearch.Text.Ranges

/-!
Reading JSON texts. The syntax is strict: no comments, no trailing commas, no raw control characters
in strings. A string with half a surrogate pair and a number beyond all doubles are well formed but
unreadable, and so is a list or table nested too deep.
-/

namespace Metasearch.Json

open Document

/-- The greatest number of lists and tables that may be open at once. -/
def maxDepth : Nat := 127

def isSpace (c : Char) : Bool :=
  c == ' ' || c == '\n' || c == '\t' || c == '\r'

def skipSpace (cs : List Char) : List Char :=
  cs.dropWhile isSpace

def isDigit (c : Char) : Bool := '0' ≤ c && c ≤ '9'

def isHexDigit (c : Char) : Bool :=
  isDigit c || ('a' ≤ c && c ≤ 'f') || ('A' ≤ c && c ≤ 'F')

/-- One unit of a string: a character as it stands, or a sixteen-bit code given in base 16. -/
inductive Piece where
  | char (c : Char)
  | code (n : Nat)

/-- The character that a short escape stands for. -/
def shortEscape? (c : Char) : Option Char :=
  match c with
  | '"' => some '"'
  | '\\' => some '\\'
  | '/' => some '/'
  | 'b' => some '\x08'
  | 'f' => some '\x0c'
  | 'n' => some '\n'
  | 'r' => some '\r'
  | 't' => some '\t'
  | _ => none

/-- Read a string after its opening quote. -/
def readPieces : List Char → Option (List Piece × List Char)
  | [] => none
  | '"' :: rest => some ([], rest)
  | '\\' :: 'u' :: a :: b :: c :: d :: rest =>
    if [a, b, c, d].all isHexDigit then
      (readPieces rest).map fun (pieces, after) => (.code (Text.hexValue [a, b, c, d]) :: pieces, after)
    else none
  | '\\' :: e :: rest =>
    match shortEscape? e with
    | some c => (readPieces rest).map fun (pieces, after) => (.char c :: pieces, after)
    | none => none
  | c :: rest =>
    if c.toNat < 0x20 || c == '\\' then none
    else (readPieces rest).map fun (pieces, after) => (.char c :: pieces, after)

/-- The text that pieces write; `none` if a surrogate stands alone. -/
def joinPieces : List Piece → Option (List Char)
  | [] => some []
  | .char c :: rest => (joinPieces rest).map (c :: ·)
  | .code n :: rest =>
    if 0xD800 ≤ n ∧ n ≤ 0xDBFF then
      match rest with
      | .code m :: rest =>
        if 0xDC00 ≤ m ∧ m ≤ 0xDFFF then
          (joinPieces rest).map (Char.ofNat (0x10000 + (n - 0xD800) * 0x400 + (m - 0xDC00)) :: ·)
        else none
      | _ => none
    else if 0xDC00 ≤ n ∧ n ≤ 0xDFFF then none
    else (joinPieces rest).map (Char.ofNat n :: ·)

/-- Read a string after its opening quote. The inner `none` is a string that denotes no text. -/
def readString (cs : List Char) : Option (Option String × List Char) :=
  (readPieces cs).map fun (pieces, rest) => ((joinPieces pieces).map String.ofList, rest)

/-- Cut off the fraction of a number: a point with at least one digit. `none` if the digits are
missing. -/
def takeFraction (cs : List Char) : Option (Option (List Char) × List Char) :=
  match cs with
  | '.' :: rest =>
    let digits := rest.takeWhile isDigit
    if digits.isEmpty then none else some (some digits, rest.dropWhile isDigit)
  | _ => some (none, cs)

/-- Cut off the exponent of a number. -/
def takeExponent (cs : List Char) : Option (Option Int × List Char) :=
  match cs with
  | e :: rest =>
    if e == 'e' || e == 'E' then
      let (negative, rest) := match rest with
        | '-' :: rest => (true, rest)
        | '+' :: rest => (false, rest)
        | _ => (false, rest)
      let digits := rest.takeWhile isDigit
      if digits.isEmpty then none
      else some (some (Decimal.exponentOf negative digits), rest.dropWhile isDigit)
    else some (none, cs)
  | [] => some (none, [])

/-- The value of a number. Whole numbers within 64 bits are kept exactly, and minus zero is a double. -/
def numberValue (negative : Bool) (whole : List Char) (fraction : Option (List Char))
    (exponent : Option Int) : Value :=
  let float :=
    let x := Decimal.signedFloat negative
      (.ofParts whole (fraction.getD []) (exponent.getD 0))
    if x.isInf then Value.unreadable else .float x
  if fraction.isSome || exponent.isSome then float
  else
    let n := Decimal.digitsValue whole
    if negative then if 0 < n ∧ n ≤ UInt64.size / 2 then .int (-n) else float
    else if n < UInt64.size then .int n else float

/-- Read a number. A leading zero stands alone. -/
def readNumber (cs : List Char) : Option (Value × List Char) := do
  let (negative, rest) := match cs with
    | '-' :: rest => (true, rest)
    | _ => (false, cs)
  let whole := rest.takeWhile isDigit
  if whole.isEmpty || (whole.length > 1 && whole.head? == some '0') then none
  let (fraction, rest) ← takeFraction (rest.dropWhile isDigit)
  let (exponent, rest) ← takeExponent rest
  return (numberValue negative whole fraction exponent, rest)

/-- A list as it is read at a depth. -/
def listAt (depth : Nat) (items : List Value) : Value :=
  if depth > maxDepth then .unreadable else .list items

/-- A table as it is read at a depth. A name that denotes no text spoils the table. -/
def tableAt (depth : Nat) (fields : List (Option String × Value)) : Value :=
  if depth > maxDepth then .unreadable
  else match fields.mapM fun (name, value) => name.map (·, value) with
    | some fields => .table fields
    | none => .unreadable

mutual

/-- Read a value inside `depth` open lists and tables. `fuel` bounds the number of values and
separators; the length of the text always suffices. -/
def readValue (depth : Nat) : Nat → List Char → Option (Value × List Char)
  | 0, _ => none
  | fuel + 1, cs =>
    match skipSpace cs with
    | 'n' :: 'u' :: 'l' :: 'l' :: rest => some (.null, rest)
    | 't' :: 'r' :: 'u' :: 'e' :: rest => some (.bool true, rest)
    | 'f' :: 'a' :: 'l' :: 's' :: 'e' :: rest => some (.bool false, rest)
    | '"' :: rest =>
      (readString rest).map fun (s, rest) => (match s with | some s => .text s | none => .unreadable, rest)
    | '[' :: rest =>
      match skipSpace rest with
      | ']' :: rest => some (listAt (depth + 1) [], rest)
      | _ => (readItems (depth + 1) fuel rest).map fun (items, rest) => (listAt (depth + 1) items, rest)
    | '\x7b' :: rest =>
      match skipSpace rest with
      | '\x7d' :: rest => some (tableAt (depth + 1) [], rest)
      | _ => (readFields (depth + 1) fuel rest).map fun (fields, rest) => (tableAt (depth + 1) fields, rest)
    | rest => readNumber rest

/-- Read the items of a list up to its end, at least one. -/
def readItems (depth : Nat) : Nat → List Char → Option (List Value × List Char)
  | 0, _ => none
  | fuel + 1, cs =>
    match readValue depth fuel cs with
    | none => none
    | some (value, rest) =>
      match skipSpace rest with
      | ',' :: rest => (readItems depth fuel rest).map fun (items, rest) => (value :: items, rest)
      | ']' :: rest => some ([value], rest)
      | _ => none

/-- Read the fields of a table up to its end, at least one. -/
def readFields (depth : Nat) : Nat → List Char → Option (List (Option String × Value) × List Char)
  | 0, _ => none
  | fuel + 1, cs =>
    match skipSpace cs with
    | '"' :: rest =>
      match readString rest with
      | none => none
      | some (name, rest) =>
        match skipSpace rest with
        | ':' :: rest =>
          match readValue depth fuel rest with
          | none => none
          | some (value, rest) =>
            match skipSpace rest with
            | ',' :: rest =>
              (readFields depth fuel rest).map fun (fields, rest) => ((name, value) :: fields, rest)
            | '\x7d' :: rest => some ([(name, value)], rest)
            | _ => none
        | _ => none
    | _ => none

end

/-- The value of a JSON text; `none` if it is not well formed. -/
def read (text : String) : Option Value :=
  let cs := text.toList
  match readValue 0 (cs.length + 1) cs with
  | some (value, rest) => if (skipSpace rest).isEmpty then some value else none
  | none => none

end Metasearch.Json
