import Metasearch.Decimal.Layout
import Metasearch.Document.Value

/-!
Writing TOML texts. A table has its plain fields first and then its tables, each under a header of its
own after a blank line. Fields that are null are left out, and so are headers of tables that hold
nothing but tables.
-/

namespace Metasearch.Toml

open Document

/-! Texts -/

/-- What decides in which form a text can be written. -/
structure TextTraits where
  /-- Holds a control character that only an escape can give. -/
  control : Bool
  backslash : Bool
  newline : Bool
  /-- The longest run of quotes and of apostrophes. -/
  quotes : Nat
  apostrophes : Nat

/-- The longest run of one character, given the length of the run before the text. -/
def longestRun (c : Char) (current : Nat) : List Char → Nat
  | [] => current
  | d :: rest => if d = c then longestRun c (current + 1) rest else max current (longestRun c 0 rest)

/-- Whether only an escape can give a character. Tabs and new lines can stand for themselves. -/
def isControl (c : Char) : Bool :=
  (c.toNat < 0x20 && c != '\t' && c != '\n') || c.toNat == 0x7F

def TextTraits.of (cs : List Char) : TextTraits :=
  { control := cs.any isControl
    backslash := cs.contains '\\'
    newline := cs.contains '\n'
    quotes := longestRun '"' 0 cs
    apostrophes := longestRun '\'' 0 cs }

/-- The four forms of a text. -/
inductive TextForm where
  | basic
  | literal
  | basicLines
  | literalLines
deriving DecidableEq, Repr

/-- The form of a text: the first in order of simplicity that needs no escape, and if all do, a basic
one. -/
def TextTraits.form (traits : TextTraits) : TextForm :=
  if !traits.control && !traits.backslash && !traits.newline && traits.quotes = 0 then .basic
  else if !traits.control && !traits.newline && traits.apostrophes = 0 then .literal
  else if !traits.control && !traits.backslash && traits.quotes ≤ 2 then .basicLines
  else if !traits.control && traits.apostrophes ≤ 2 then .literalLines
  else if traits.newline then .basicLines
  else .basic

def upperHexDigit (n : Nat) : Char :=
  if n < 10 then Char.ofNat ('0'.toNat + n) else Char.ofNat ('A'.toNat + (n - 10))

/-- One character of a basic text other than a quote or a new line. -/
def escapeChar (c : Char) : List Char :=
  match c with
  | '\x08' => ['\\', 'b']
  | '\t' => ['\\', 't']
  | '\x0c' => ['\\', 'f']
  | '\r' => ['\\', 'r']
  | '\\' => ['\\', '\\']
  | c =>
    if isControl c then
      ['\\', 'u', '0', '0', upperHexDigit (c.toNat / 16), upperHexDigit (c.toNat % 16)]
    else [c]

/-- The inside of a basic text on one line. -/
def escapeLine (cs : List Char) : List Char :=
  cs.flatMap fun c =>
    if c = '"' then ['\\', '"'] else if c = '\n' then ['\\', 'n'] else escapeChar c

/-- The inside of a basic text over several lines: new lines stand for themselves, and of quotes in a row
every third one is escaped. -/
def escapeLines (quotes : Nat) : List Char → List Char
  | [] => []
  | '"' :: rest => if quotes = 2 then '\\' :: '"' :: escapeLines 0 rest else '"' :: escapeLines (quotes + 1) rest
  | '\n' :: rest => '\n' :: escapeLines 0 rest
  | c :: rest => escapeChar c ++ escapeLines 0 rest

/-- A text between its marks. One over several lines that does hold a new line begins on a line of its
own. -/
def writeText (s : String) : List Char :=
  let cs := s.toList
  let traits := TextTraits.of cs
  let opening := if traits.newline then ['\n'] else []
  match traits.form with
  | .basic => '"' :: escapeLine cs ++ ['"']
  | .literal => '\'' :: cs ++ ['\'']
  | .basicLines => ['"', '"', '"'] ++ opening ++ escapeLines 0 cs ++ ['"', '"', '"']
  | .literalLines => ['\'', '\'', '\''] ++ opening ++ cs ++ ['\'', '\'', '\'']

/-! Values -/

/-- A double in full decimal digits, with one digit after the point at least. -/
def writeFloat (x : Float) : List Char :=
  if x.isNaN then "nan".toList
  else if x.isInf then (Decimal.signText x ++ "inf").toList
  else (Decimal.signText x ++ (Decimal.shortest x).positional 1).toList

/-- Put the items of a list between brackets: two or more on a line each, with a comma after every
one. -/
def bracketed (items : List (List Char)) : List Char :=
  match items with
  | [] => ['[', ']']
  | [item] => '[' :: item ++ [']']
  | items => '[' :: '\n' :: items.flatMap (fun item => "    ".toList ++ item ++ [',', '\n']) ++ [']']

mutual

/-- Write a value that stands in a line of its table. -/
def writeValue : Value → List Char
  | .null => []
  | .bool true => "true".toList
  | .bool false => "false".toList
  | .int n => (toString n).toList
  | .float x => writeFloat x
  | .text s => writeText s
  | .date s => s.toList
  | .list items => bracketed (writeItems items)
  | .table fields => '\x7b' :: ' ' :: writeFields fields ++ [' ', '\x7d']
  | .unreadable => []

def writeItems : List Value → List (List Char)
  | [] => []
  | v :: rest => writeValue v :: writeItems rest

def writeFields : List (String × Value) → List Char
  | [] => []
  | [(name, v)] => name.toList ++ " = ".toList ++ writeValue v
  | (name, v) :: rest => name.toList ++ " = ".toList ++ writeValue v ++ ", ".toList ++ writeFields rest

end

/-! Tables -/

def isTable : Value → Bool
  | .table _ => true
  | _ => false

/-- Whether a field is written in a line of its table. -/
def isInline : Value → Bool
  | .null => false
  | .table _ => false
  | .list items => items.isEmpty || !items.all isTable
  | _ => true

/-- The lines of the plain fields of a table. -/
def fieldLines (fields : List (String × Value)) : List (List Char) :=
  (fields.filter (isInline ·.2)).map fun (name, v) => name.toList ++ " = ".toList ++ writeValue v

/-- The lines that stand together, between blank lines. -/
abbrev Section := List (List Char)

def pathText (path : List String) : List Char :=
  (".".intercalate path).toList

mutual

/-- The sections of a field that is not written in a line of its table. -/
def sectionsOf (path : List String) : Value → List Section
  | .table fields =>
    let lines := fieldLines fields
    let own := if lines.isEmpty && !fields.isEmpty then [] else [('[' :: pathText path ++ [']']) :: lines]
    own ++ fieldSections path fields
  | .list items => itemSections path items
  | _ => []

/-- The sections of a list of tables. -/
def itemSections (path : List String) : List Value → List Section
  | [] => []
  | .table fields :: rest =>
    (('[' :: '[' :: pathText path ++ [']', ']']) :: fieldLines fields) :: fieldSections path fields ++
      itemSections path rest
  | _ :: rest => itemSections path rest

/-- The sections of the tables among the fields of a table. -/
def fieldSections (path : List String) : List (String × Value) → List Section
  | [] => []
  | (name, v) :: rest => sectionsOf (path ++ [name]) v ++ fieldSections path rest

end

mutual

/-- Whether every whole number in a value fits into 64 bits with a sign. -/
def fits : Value → Bool
  | .int n => fitsSigned n
  | .list items => allFit items
  | .table fields => fieldsFit fields
  | _ => true

def allFit : List Value → Bool
  | [] => true
  | v :: rest => fits v && allFit rest

def fieldsFit : List (String × Value) → Bool
  | [] => true
  | (_, v) :: rest => fits v && fieldsFit rest

end

/-- Lines, each with its end. -/
def joinLines (lines : Section) : List Char :=
  lines.flatMap (· ++ ['\n'])

/-- The TOML text of a table; `none` if a whole number in it is too large. -/
def text? (fields : List (String × Value)) : Option String :=
  if fieldsFit fields then
    let plain := fieldLines fields
    let sections := (if plain.isEmpty then [] else [plain]) ++ fieldSections [] fields
    some (String.ofList (['\n'].intercalate (sections.map joinLines)))
  else none

end Metasearch.Toml
