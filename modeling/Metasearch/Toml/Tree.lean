import Metasearch.Document.Value

/-!
How the lines of a TOML text build a table. Tables can be opened by a header, come to be as parents of
others, or be built by keys with dots; which of these it was decides whether lines below may add to it.
-/

namespace Metasearch.Toml

open Document

/-- A part of the table under construction. -/
inductive Node where
  | value (v : Value)
  /-- A table. It is implicit if it is only known as a parent, and dotted if keys with dots built it. -/
  | table (implicit dotted : Bool) (fields : List (String × Node))
  /-- A list of tables, each opened by a header of its own. -/
  | tables (items : List Node)

namespace Node

/-- The table with which every text begins. -/
def root : Node := .table false false []

/-- Change one field, which is added at the end if it is not there. `none` if the change fails. -/
def changeField (key : String) (change : Option Node → Option Node) :
    List (String × Node) → Option (List (String × Node))
  | [] => (change none).map fun node => [(key, node)]
  | (name, node) :: rest =>
    if name = key then (change (some node)).map fun node => (name, node) :: rest
    else (changeField key change rest).map ((name, node) :: ·)

/-- Change the node at a path. Missing tables on the way are made; a list of tables is entered at its
last one. With keys with dots a table that was opened by a header cannot be entered. -/
def changeAt (dotted : Bool) (change : Node → Option Node) : List String → Node → Option Node
  | [], node => change node
  | key :: path, .table implicit made fields =>
    (changeField key (fun
      | none => changeAt dotted change path (.table true dotted [])
      | some (.value _) => none
      | some (.tables items) =>
        items.getLast?.bind fun last =>
          (changeAt dotted change path last).map fun last => .tables (items.dropLast ++ [last])
      | some (.table i d fields) =>
        if dotted && !i then none else changeAt dotted change path (.table i d fields)) fields).map
      (.table implicit made ·)
  | _, _ => none

/-- Add a field to the table at a path of dots. A table may not be built both with dots and without, and
no field is set twice. -/
def setField (path : List String) (key : String) (v : Value) : Node → Option Node :=
  changeAt true (fun
    | .table implicit dotted fields =>
      if dotted == path.isEmpty then none
      else (changeField key (fun
        | none => some (.value v)
        | some _ => none) fields).map (.table implicit dotted ·)
    | _ => none) path

/-- Open a table by its header. One that was only known as a parent is opened now; no other can be
opened again. -/
def openTable (path : List String) (key : String) : Node → Option Node :=
  changeAt false (fun
    | .table implicit dotted fields =>
      (changeField key (fun
        | none => some (.table false false [])
        | some (.table true false fields) => some (.table false false fields)
        | some _ => none) fields).map (.table implicit dotted ·)
    | _ => none) path

/-- Open a further table of a list of tables by its header. -/
def openItem (path : List String) (key : String) : Node → Option Node :=
  changeAt false (fun
    | .table implicit dotted fields =>
      (changeField key (fun
        | none => some (.tables [root])
        | some (.tables items) => some (.tables (items ++ [root]))
        | some _ => none) fields).map (.table implicit dotted ·)
    | _ => none) path

/-- Set a field in the table that the last header opened. -/
def setFieldIn (header path : List String) (key : String) (v : Value) : Node → Option Node :=
  changeAt false (setField path key v) header

mutual

/-- The value of a finished node. -/
def toValue : Node → Value
  | .value v => v
  | .table _ _ fields => .table (fieldValues fields)
  | .tables items => .list (itemValues items)

def itemValues : List Node → List Value
  | [] => []
  | node :: rest => node.toValue :: itemValues rest

def fieldValues : List (String × Node) → List (String × Value)
  | [] => []
  | (name, node) :: rest => (name, node.toValue) :: fieldValues rest

end

end Node

end Metasearch.Toml
