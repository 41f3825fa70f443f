import Metasearch.Toml.Scalar
import Metasearch.Toml.Tree

/-!
Reading TOML texts.
-/

namespace Metasearch.Toml

open Document

/-- The depth that nesting and keys with dots have to stay below. -/
def depthLimit : Nat := 80

def skipBlanks (cs : List Char) : List Char :=
  cs.dropWhile isBlank

/-- Whether a character may stand in a key without quotes. -/
def isBareKey (c : Char) : Bool :=
  c.isAlphanum || c == '_' || c == '-'

/-- Read one part of a key. -/
def readKeyPart (cs : List Char) : Option (String × List Char) :=
  match cs with
  | '"' :: rest => (readBasic 0 rest).map fun (text, rest) => (String.ofList text, rest)
  | '\'' :: rest => (readLiteral rest).map fun (text, rest) => (String.ofList text, rest)
  | _ =>
    let name := cs.takeWhile isBareKey
    if name.isEmpty then none else some (String.ofList name, cs.dropWhile isBareKey)

/-- Read the parts of a key between dots, `fuel` of them at most, with the blanks around them. -/
def readKeyParts : Nat → List Char → Option (List String × List Char)
  | 0, _ => none
  | fuel + 1, cs => do
    let (part, rest) ← readKeyPart (skipBlanks cs)
    match skipBlanks rest with
    | '.' :: rest => do
      let (parts, rest) ← readKeyParts fuel rest
      return (part :: parts, rest)
    | rest => return ([part], rest)

/-- Read a key: the tables it leads through, and the field it names in the last of them. -/
def readKey (cs : List Char) : Option ((List String × String) × List Char) := do
  let (parts, rest) ← readKeyParts (cs.length + 1) cs
  if parts.length ≥ depthLimit then none
  let last ← parts.getLast?
  return ((parts.dropLast, last), rest)

/-- Drop a comment up to the end of its line; `none` if it holds a control character. -/
def dropComment (cs : List Char) : Option (List Char) :=
  match cs.dropWhile isPlain with
  | [] => some []
  | '\n' :: rest => some ('\n' :: rest)
  | '\r' :: '\n' :: rest => some ('\n' :: rest)
  | _ => none

/-- Drop blanks, line ends and comments, as they may stand between the items of a list. -/
def skipLines : Nat → List Char → Option (List Char)
  | 0, _ => none
  | fuel + 1, cs =>
    match skipBlanks cs with
    | '\n' :: rest => skipLines fuel rest
    | '\r' :: '\n' :: rest => skipLines fuel rest
    | '#' :: rest => (dropComment rest).bind (skipLines fuel)
    | rest => some rest

/-- Drop what may follow a value or a header on its line, and the end of the line. -/
def endLine (cs : List Char) : Option (List Char) :=
  match skipBlanks cs with
  | [] => some []
  | '\n' :: rest => some rest
  | '\r' :: '\n' :: rest => some rest
  | '#' :: rest => (dropComment rest).map dropLineEnd
  | _ => none

mutual

/-- Read a value inside `depth` open lists and tables. `fuel` bounds the number of values and
separators. -/
def readValue (depth : Nat) : Nat → List Char → Option (Value × List Char)
  | 0, _ => none
  | fuel + 1, cs =>
    match cs with
    | '"' :: _ => (readQuoted cs).map fun (text, rest) => (.text (String.ofList text), rest)
    | '\'' :: _ => (readQuoted cs).map fun (text, rest) => (.text (String.ofList text), rest)
    | '[' :: rest =>
      if depth + 1 ≥ depthLimit then none
      else (readItems (depth + 1) fuel rest).map fun (items, rest) => (.list items, rest)
    | '\x7b' :: rest =>
      if depth + 1 ≥ depthLimit then none
      else match skipBlanks rest with
        | '\x7d' :: rest => some (.table [], rest)
        | rest => (readFields (depth + 1) fuel .root rest).map fun (table, rest) => (table.toValue, rest)
    | 't' :: 'r' :: 'u' :: 'e' :: rest => some (.bool true, rest)
    | 'f' :: 'a' :: 'l' :: 's' :: 'e' :: rest => some (.bool false, rest)
    | _ => readScalar cs

/-- Read the rest of a list: the items up to its end. The last one may have a comma after it. -/
def readItems (depth : Nat) : Nat → List Char → Option (List Value × List Char)
  | 0, _ => none
  | fuel + 1, cs => do
    let cs ← skipLines (cs.length + 1) cs
    match cs with
    | ']' :: rest => return ([], rest)
    | cs =>
      let (value, rest) ← readValue depth fuel cs
      let rest ← skipLines (rest.length + 1) rest
      match rest with
      | ',' :: rest =>
        let (items, rest) ← readItems depth fuel rest
        return (value :: items, rest)
      | ']' :: rest => return ([value], rest)
      | _ => none

/-- Read the fields of a table within a line, up to its end, at least one. -/
def readFields (depth : Nat) : Nat → Node → List Char → Option (Node × List Char)
  | 0, _, _ => none
  | fuel + 1, table, cs => do
    let ((path, key), rest) ← readKey cs
    let rest ← after '=' rest
    let (value, rest) ← readValue depth fuel (skipBlanks rest)
    let table ← table.setField path key value
    match skipBlanks rest with
    | ',' :: rest => readFields depth fuel table rest
    | '\x7d' :: rest => return (table, rest)
    | _ => none

end

/-- Read the lines of a text one after the other into a table, given the header that stands above
them. -/
def readLines : Nat → List String → Node → List Char → Option Node
  | 0, _, _, _ => none
  | fuel + 1, header, table, cs =>
    match skipBlanks cs with
    | [] => some table
    | '\n' :: rest => readLines fuel header table rest
    | '\r' :: '\n' :: rest => readLines fuel header table rest
    | '#' :: rest => do
      let rest ← dropComment rest
      readLines fuel header table (dropLineEnd rest)
    | '[' :: '[' :: rest => do
      let ((path, key), rest) ← readKey rest
      let rest ← after ']' rest
      let rest ← after ']' rest
      let rest ← endLine rest
      let table ← table.openItem path key
      readLines fuel (path ++ [key]) table rest
    | '[' :: rest => do
      let ((path, key), rest) ← readKey rest
      let rest ← after ']' rest
      let rest ← endLine rest
      let table ← table.openTable path key
      readLines fuel (path ++ [key]) table rest
    | rest => do
      let ((path, key), rest) ← readKey rest
      let rest ← after '=' rest
      let rest := skipBlanks rest
      let (value, rest) ← readValue 0 (rest.length + 1) rest
      let rest ← endLine rest
      let table ← table.setFieldIn header path key value
      readLines fuel header table rest

/-- The table of a TOML text; `none` if it is not well formed. A byte order mark at its head is passed
over. -/
def read (text : String) : Option Value :=
  let cs := match text.toList with
    | '\uFEFF' :: rest => rest
    | cs => cs
  (readLines (cs.length + 1) [] .root cs).map Node.toValue

end Metasearch.Toml
