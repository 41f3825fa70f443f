import Metasearch.Decimal.Layout
import Metasearch.Document.Value

/-!
Writing JSON texts, without any space or spread over lines. Numbers that are not finite have no form
in JSON and are written as null.
-/

namespace Metasearch.Json

open Document

def lowerHexDigit (n : Nat) : Char :=
  if n < 10 then Char.ofNat ('0'.toNat + n) else Char.ofNat ('a'.toNat + (n - 10))

/-- One character inside a string. Quotes, backslashes and control characters are escaped. -/
def escapeChar (c : Char) : List Char :=
  match c with
  | '"' => ['\\', '"']
  | '\\' => ['\\', '\\']
  | '\x08' => ['\\', 'b']
  | '\x0c' => ['\\', 'f']
  | '\n' => ['\\', 'n']
  | '\r' => ['\\', 'r']
  | '\t' => ['\\', 't']
  | c =>
    if c.toNat < 0x20 then ['\\', 'u', '0', '0', lowerHexDigit (c.toNat / 16), lowerHexDigit (c.toNat % 16)]
    else [c]

def writeString (s : String) : List Char :=
  '"' :: s.toList.flatMap escapeChar ++ ['"']

def writeFloat (x : Float) : List Char :=
  if x.isNaN || x.isInf then "null".toList
  else (Decimal.signText x ++ (Decimal.shortest x).compact).toList

mutual

/-- Write a value without spaces. -/
def write : Value → List Char
  | .null => "null".toList
  | .bool true => "true".toList
  | .bool false => "false".toList
  | .int n => (toString n).toList
  | .float x => writeFloat x
  | .text s => writeString s
  | .date s => writeString s
  | .list items => '[' :: writeItems items ++ [']']
  | .table fields => '\x7b' :: writeFields fields ++ ['\x7d']
  | .unreadable => "null".toList

def writeItems : List Value → List Char
  | [] => []
  | [v] => write v
  | v :: rest => write v ++ ',' :: writeItems rest

def writeFields : List (String × Value) → List Char
  | [] => []
  | [(name, v)] => writeString name ++ ':' :: write v
  | (name, v) :: rest => writeString name ++ ':' :: write v ++ ',' :: writeFields rest

end

/-- The text of a value without spaces. -/
def text (v : Value) : String :=
  String.ofList (write v)

/-- A new line at an indentation of two blanks for each level. -/
def newLine (level : Nat) : List Char :=
  '\n' :: List.replicate (2 * level) ' '

mutual

/-- Write a value over several lines, one for each item and field. -/
def writePretty (level : Nat) : Value → List Char
  | .list [] => ['[', ']']
  | .list items => '[' :: prettyItems (level + 1) items ++ newLine level ++ [']']
  | .table [] => ['\x7b', '\x7d']
  | .table fields => '\x7b' :: prettyFields (level + 1) fields ++ newLine level ++ ['\x7d']
  | v => write v

def prettyItems (level : Nat) : List Value → List Char
  | [] => []
  | [v] => newLine level ++ writePretty level v
  | v :: rest => newLine level ++ writePretty level v ++ ',' :: prettyItems level rest

def prettyFields (level : Nat) : List (String × Value) → List Char
  | [] => []
  | [(name, v)] => newLine level ++ writeString name ++ ':' :: ' ' :: writePretty level v
  | (name, v) :: rest =>
    newLine level ++ writeString name ++ ':' :: ' ' :: writePretty level v ++ ',' :: prettyFields level rest

end

/-- The text of a value over several lines. -/
def prettyText (v : Value) : String :=
  String.ofList (writePretty 0 v)

end Metasearch.Json
