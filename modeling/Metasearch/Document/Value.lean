/-!
What a document denotes, whatever notation it is written in: plain values, lists, and tables of named
fields.
-/

namespace Metasearch.Document

/-- A value of a document. The fields of a table keep their order and may repeat a name, as far as the
notation allows that. -/
inductive Value where
  | null
  | bool (b : Bool)
  | int (n : Int)
  | float (x : Float)
  | text (s : String)
  | date (text : String)
  | list (items : List Value)
  | table (fields : List (String × Value))
  /-- Something well formed that denotes no value, such as a number beyond all doubles. It does no
  harm where it is not looked at. -/
  | unreadable

instance : Inhabited Value := ⟨.null⟩

/-- Whether a whole number fits into 64 bits with a sign. -/
def fitsSigned (n : Int) : Bool :=
  -((UInt64.size / 2 : Nat) : Int) ≤ n && n < ((UInt64.size / 2 : Nat) : Int)

mutual

/-- Whether a value is readable through and through. -/
def Value.readable : Value → Bool
  | .list items => Value.allReadable items
  | .table fields => Value.fieldsReadable fields
  | .unreadable => false
  | _ => true

def Value.allReadable : List Value → Bool
  | [] => true
  | v :: rest => v.readable && Value.allReadable rest

def Value.fieldsReadable : List (String × Value) → Bool
  | [] => true
  | (_, v) :: rest => v.readable && Value.fieldsReadable rest

end

end Metasearch.Document
