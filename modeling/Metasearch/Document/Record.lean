import Metasearch.Decimal.Read
import Metasearch.Document.Value

/-!
Reading typed data from documents. A record is a table with known field names, or a list of its fields
in order; fields of other names are ignored. Every reader gives `none` where the document does not fit.
-/

namespace Metasearch.Document

/-- The notations a document can come from. They differ in how strictly lists stand for records and in
how a choice without content is written as a table. -/
inductive Source where
  | json
  | toml
deriving DecidableEq, Repr

def asText : Value → Option String
  | .text s => some s
  | _ => none

def asBool : Value → Option Bool
  | .bool b => some b
  | _ => none

/-- A whole number of at least zero and below a limit. -/
def asNat (limit : Nat) : Value → Option Nat
  | .int (.ofNat n) => if n < limit then some n else none
  | _ => none

def asUInt64 (v : Value) : Option UInt64 :=
  (asNat UInt64.size v).map UInt64.ofNat

def asUInt32 (v : Value) : Option UInt32 :=
  (asNat UInt32.size v).map UInt32.ofNat

/-- A double; whole numbers are rounded to the nearest one. -/
def asFloat : Value → Option Float
  | .float x => some x
  | .int n => some (Decimal.signedFloat (n < 0) ⟨n.natAbs, 0⟩)
  | _ => none

/-- A list, each item read alike. -/
def asList {α : Type} (read : Value → Option α) : Value → Option (List α)
  | .list items => items.mapM read
  | _ => none

/-- A choice among named alternatives without content: its name, or a table whose only field has that
name and an empty value. -/
def asChoice {α : Type} (source : Source) (choices : List α) (name : α → String) :
    Value → Option α
  | .text s => choices.find? (name · == s)
  | .table [(s, content)] =>
    match source, content with
    | .json, .null => choices.find? (name · == s)
    | .toml, .list [] => choices.find? (name · == s)
    | .toml, .table [] => choices.find? (name · == s)
    | _, _ => none
  | _ => none

/-- The fields of a record that are present, by name. -/
abbrev Fields := List (String × Value)

/-- Whether no name occurs twice. -/
def namesDistinct : Fields → Bool
  | [] => true
  | (name, _) :: rest => !rest.any (·.1 == name) && namesDistinct rest

/-- The known fields of a record. A known field that is given twice spoils the record. A list gives the
first fields, and only in TOML may it be longer than the record. A date counts as a table in which no
name is known. -/
def asRecord (source : Source) (names : List String) : Value → Option Fields
  | .table fields =>
    let known := fields.filter (names.contains ·.1)
    if namesDistinct known then some known else none
  | .list items =>
    if items.length ≤ names.length || source == .toml then some (names.zip items) else none
  | .date _ => some []
  | _ => none

namespace Fields

/-- A field that has to be present. -/
def required {α : Type} (fields : Fields) (name : String) (read : Value → Option α) : Option α :=
  (fields.lookup name).bind read

/-- A field that may be absent, which means `default`. -/
def withDefault {α : Type} (fields : Fields) (name : String) (default : α)
    (read : Value → Option α) : Option α :=
  match fields.lookup name with
  | none => some default
  | some v => read v

/-- Reader of a value that may be null. -/
def orNull {α : Type} (read : Value → Option α) : Value → Option (Option α)
  | .null => some none
  | v => (read v).map some

/-- A field that may be absent or null, both of which mean nothing. -/
def optional {α : Type} (fields : Fields) (name : String) (read : Value → Option α) :
    Option (Option α) :=
  fields.withDefault name none (orNull read)

end Fields

/-- Write a choice that may be missing. -/
def ofOption {α : Type} (write : α → Value) : Option α → Value
  | none => .null
  | some a => write a

def ofUInt64 (n : UInt64) : Value := .int n.toNat

def ofUInt32 (n : UInt32) : Value := .int n.toNat

def ofNat (n : Nat) : Value := .int n

end Metasearch.Document
