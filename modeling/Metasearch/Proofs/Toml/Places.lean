import Metasearch.Toml.Tree

/-! Places in a table under construction. Whatever is changed at a place, the rest of the table stays as it
is, and new fields stand behind the old ones. -/
namespace Metasearch.Toml.Node

open Document

section Fields

variable {key : String} {fields : List (String × Node)} (hNew : key ∉ fields.map Prod.fst)
  (change : Option Node → Option Node)
include hNew

theorem changeField_new :
    changeField key change fields = (change none).map fun node => fields ++ [(key, node)] := by
  induction fields with
  | nil => rfl
  | cons field fields ih =>
      have hOther : field.1 ≠ key := fun hSame => hNew (by simp [hSame])
      have hMore := ih fun hMem => hNew (by simp [hMem])
      simp [changeField, hOther, hMore, Function.comp_def]

theorem changeField_last (node : Node) :
    changeField key change (fields ++ [(key, node)]) =
      (change (some node)).map fun node => fields ++ [(key, node)] := by
  induction fields with
  | nil => simp [changeField]
  | cons field fields ih =>
      have hOther : field.1 ≠ key := fun hSame => hNew (by simp [hSame])
      have hMore := ih fun hMem => hNew (by simp [hMem])
      simp [changeField, hOther, hMore, Function.comp_def]

end Fields

/-- A change at the end of a path is a change at one of its nodes of what lies behind that node. -/
theorem changeAt_append (dotted : Bool) (change : Node → Option Node) (path path' : List String) (node : Node) :
    changeAt dotted change (path ++ path') node =
      changeAt dotted (changeAt dotted change path') path node := by
  induction path generalizing node with
  | nil => simp [changeAt]
  | cons key path ih =>
      cases node <;> simp [changeAt, ih]

/-- The table at the end of a path within a whole, and what the whole is with another table in its place.
The path may lead to a table that is not there yet, which is taken for an empty one. -/
structure Place (path : List String) (whole table : Node) (rebuild : Node → Node) : Prop where
  change_whole (change : Node → Option Node) :
    changeAt false change path whole = (change table).map rebuild
  change_rebuild (change : Node → Option Node) (implicit dotted : Bool) (fields : List (String × Node)) :
    changeAt false change path (rebuild (.table implicit dotted fields)) =
      (change (.table implicit dotted fields)).map rebuild

namespace Place

variable {path : List String} {whole table : Node} {rebuild : Node → Node}

theorem root (table : Node) : Place [] table table id :=
  ⟨fun _ => by simp [changeAt], fun _ _ _ _ => by simp [changeAt]⟩

theorem again (h : Place path whole table rebuild) (implicit dotted : Bool) (fields : List (String × Node)) :
    Place path (rebuild (.table implicit dotted fields)) (.table implicit dotted fields) rebuild :=
  ⟨fun change => h.change_rebuild change implicit dotted fields, h.change_rebuild⟩

section Open

variable {implicit : Bool} {fields : List (String × Node)} {key : String}
  (h : Place path whole (.table implicit false fields) rebuild) (hNew : key ∉ fields.map Prod.fst)
include h hNew

/-- The place of a table that is not there yet. -/
theorem missing : Place (path ++ [key]) whole (.table true false [])
    (fun node => rebuild (.table implicit false (fields ++ [(key, node)]))) where
  change_whole change := by
    simp [changeAt_append, h.change_whole, changeAt, changeField_new hNew, Function.comp_def]
  change_rebuild change implicit' dotted fields' := by
    simp [changeAt_append, h.change_rebuild, changeAt, changeField_last hNew, Function.comp_def]

theorem setFieldIn (v : Value) : whole.setFieldIn path [] key v =
    some (rebuild (.table implicit false (fields ++ [(key, .value v)]))) := by
  simp [Node.setFieldIn, h.change_whole, setField, changeAt, changeField_new hNew]

theorem openTable : whole.openTable path key =
    some (rebuild (.table implicit false (fields ++ [(key, Node.root)]))) := by
  simp [Node.openTable, h.change_whole, changeField_new hNew, Node.root]

/-- The place of a table that was just opened. -/
theorem opened : Place (path ++ [key]) (rebuild (.table implicit false (fields ++ [(key, Node.root)])))
    Node.root (fun node => rebuild (.table implicit false (fields ++ [(key, node)]))) :=
  (h.missing hNew).again false false []

theorem openItem_new : whole.openItem path key =
    some (rebuild (.table implicit false (fields ++ [(key, .tables [Node.root])]))) := by
  simp [Node.openItem, h.change_whole, changeField_new hNew]

/-- The place of the last table of a list of tables. -/
theorem lastItem (items : List Node) :
    Place (path ++ [key])
      (rebuild (.table implicit false (fields ++ [(key, .tables (items ++ [Node.root]))]))) Node.root
      (fun node => rebuild (.table implicit false (fields ++ [(key, .tables (items ++ [node]))]))) where
  change_whole change := by
    simp [changeAt_append, h.change_rebuild, changeAt, changeField_last hNew, Function.comp_def]
  change_rebuild change implicit' dotted fields' := by
    simp [changeAt_append, h.change_rebuild, changeAt, changeField_last hNew, Function.comp_def]

theorem openItem_last (items : List Node) :
    (rebuild (.table implicit false (fields ++ [(key, .tables items)]))).openItem path key =
      some (rebuild (.table implicit false (fields ++ [(key, .tables (items ++ [Node.root]))]))) := by
  simp [Node.openItem, h.change_rebuild, changeField_last hNew]

end Open

end Place

end Metasearch.Toml.Node
