import Mathlib.Data.List.Nodup
import Metasearch.Proofs.Toml.Lines
import Metasearch.Proofs.Toml.Places

/-! Tables written as TOML and read again. Reading gives the table back in the order of the text, plain fields
first, and without the fields that are null. -/
namespace Metasearch.Toml

open Document

/-- Whether a field is written below a header of its own. -/
def isHeaded : Value → Bool
  | .table _ => true
  | .list items => !items.isEmpty && items.all isTable
  | _ => false

mutual

/-- A value as its text gives it back. -/
def arrange : Value → Value
  | .table fields => .table (fields.filter (isInline ·.2) ++ arrangeHeaded fields)
  | .list items => .list (arrangeItems items)
  | v => v

def arrangeItems : List Value → List Value
  | [] => []
  | v :: rest => arrange v :: arrangeItems rest

def arrangeHeaded : List (String × Value) → List (String × Value)
  | [] => []
  | (name, v) :: rest =>
    if isHeaded v then (name, arrange v) :: arrangeHeaded rest else arrangeHeaded rest

end

/-- The tables that can be written: their names are distinct and need no quotes, their fields are plain, null,
tables or lists of tables, and no table in them holds nothing but nulls. Nesting is bounded by a height. -/
inductive Laid : Nat → List (String × Value) → Prop where
  | nil (height : Nat) : Laid height []
  | plain {height : Nat} {name : String} {v : Value} {rest : List (String × Value)} (hName : Bare name)
      (hNew : name ∉ rest.map Prod.fst) (hPlain : Plain v) (hRest : Laid height rest) :
      Laid height ((name, v) :: rest)
  | null {height : Nat} {name : String} {rest : List (String × Value)}
      (hNew : name ∉ rest.map Prod.fst) (hRest : Laid height rest) : Laid height ((name, .null) :: rest)
  | table {height : Nat} {name : String} {fields rest : List (String × Value)} (hName : Bare name)
      (hNew : name ∉ rest.map Prod.fst) (hFields : Laid height fields)
      (hHolds : fields = [] ∨ ∃ field ∈ fields, isInline field.2 || isHeaded field.2)
      (hRest : Laid (height + 1) rest) : Laid (height + 1) ((name, .table fields) :: rest)
  | tables {height : Nat} {name : String} {row : List (String × Value)} {rows : List (List (String × Value))}
      {rest : List (String × Value)} (hName : Bare name) (hNew : name ∉ rest.map Prod.fst)
      (hRow : Laid height row) (hRows : ∀ row ∈ rows, Laid height row) (hRest : Laid (height + 1) rest) :
      Laid (height + 1) ((name, .list ((row :: rows).map .table)) :: rest)

namespace Laid

variable {height : Nat} {fields : List (String × Value)}

theorem nodup (h : Laid height fields) : (fields.map Prod.fst).Nodup := by
  induction h with
  | nil => exact List.nodup_nil
  | plain _ hNew _ _ ih => exact List.nodup_cons.mpr ⟨hNew, ih⟩
  | null hNew _ ih => exact List.nodup_cons.mpr ⟨hNew, ih⟩
  | table _ hNew _ _ _ _ ih => exact List.nodup_cons.mpr ⟨hNew, ih⟩
  | tables _ hNew _ _ _ _ _ ih => exact List.nodup_cons.mpr ⟨hNew, ih⟩

end Laid

theorem isInline_of_plain {v : Value} (h : Plain v) : isInline v = true := by
  cases h with
  | scalar hScalar => cases hScalar <;> rfl
  | @list items hItems =>
      match items with
      | [] => rfl
      | v :: items =>
          have hHead := hItems v (List.mem_cons_self ..)
          cases hHead <;> simp [isInline, isTable]

/-- The nodes of the plain fields of a table. -/
def plainNodes (fields : List (String × Value)) : List (String × Node) :=
  (fields.filter (isInline ·.2)).map fun (name, v) => (name, .value v)

/-- Sections, each after a blank line. -/
def sectionsText (sections : List Section) : List Char :=
  sections.flatMap fun lines => '\n' :: joinLines lines

theorem sectionsText_append (sections sections' : List Section) :
    sectionsText (sections ++ sections') = sectionsText sections ++ sectionsText sections' :=
  List.flatMap_append

theorem isInline_tables (rows : List (List (String × Value))) (row : List (String × Value)) :
    isInline (.list ((row :: rows).map .table)) = false := by
  simp [isInline, isTable]

section Skipped

variable {name : String} {v : Value} (hInline : isInline v = false) (rest : List (String × Value))
include hInline

theorem fieldLines_cons_of_not_inline : fieldLines ((name, v) :: rest) = fieldLines rest := by
  simp [fieldLines, hInline]

theorem plainNodes_cons_of_not_inline : plainNodes ((name, v) :: rest) = plainNodes rest := by
  simp [plainNodes, hInline]

end Skipped

theorem Laid.plain_of_inline {height : Nat} {fields : List (String × Value)} (h : Laid height fields)
    {name : String} {v : Value} (hMem : (name, v) ∈ fields) (hInline : isInline v = true) :
    Bare name ∧ Plain v := by
  induction h with
  | nil => contradiction
  | plain hName _ hPlain _ ih =>
      rcases List.mem_cons.mp hMem with hSame | hRest
      · obtain ⟨rfl, rfl⟩ := Prod.mk.inj hSame
        exact ⟨hName, hPlain⟩
      · exact ih hRest
  | null _ _ ih => exact ih ((List.mem_cons.mp hMem).resolve_left fun hSame => by simp_all [isInline])
  | table _ _ _ _ _ _ ih =>
      exact ih ((List.mem_cons.mp hMem).resolve_left fun hSame => by simp_all [isInline])
  | tables _ _ _ _ _ _ _ ih =>
      refine ih ((List.mem_cons.mp hMem).resolve_left fun hSame => ?_)
      rw [(Prod.mk.inj hSame).2, isInline_tables] at hInline
      contradiction

/-- The lines of the plain fields of a table below its header set these fields. -/
theorem reads_fieldLines {fields : List (String × Value)}
    (hPlain : ∀ name v, (name, v) ∈ fields → isInline v = true → Bare name ∧ Plain v)
    (hNodup : (fields.map Prod.fst).Nodup) (hFits : fieldsFit fields = true) {path : List String}
    {implicit : Bool} {built : List (String × Node)} {rebuild : Node → Node}
    (hPlace : Node.Place path (rebuild (.table implicit false built)) (.table implicit false built) rebuild)
    (hNew : ∀ name ∈ fields.map Prod.fst, name ∉ built.map Prod.fst) :
    Reads path (rebuild (.table implicit false built)) (joinLines (fieldLines fields)) path
      (rebuild (.table implicit false (built ++ plainNodes fields))) := by
  induction fields generalizing built with
  | nil =>
      have hNone : built ++ plainNodes [] = built := List.append_nil built
      rw [hNone]
      exact Reads.refl path _
  | cons field rest ih =>
      obtain ⟨name, v⟩ := field
      obtain ⟨hFit, hRestFit⟩ := Bool.and_eq_true_iff.mp hFits
      obtain ⟨hFresh, hDistinct⟩ := List.nodup_cons.mp hNodup
      have hRestPlain := fun other w hMem => hPlain other w (List.mem_cons_of_mem _ hMem)
      have hAfter : ∀ other ∈ rest.map Prod.fst, other ∉ built.map Prod.fst := fun other hMem =>
        hNew other (List.mem_cons_of_mem _ hMem)
      by_cases hInline : isInline v = true
      · obtain ⟨hName, hThis⟩ := hPlain name v (List.mem_cons_self ..) hInline
        have hLine : Reads path _ _ path _ :=
          Reads.field hName hThis hFit (hPlace.setFieldIn (hNew name (List.mem_cons_self ..)) v)
        have hMore := ih hRestPlain hDistinct hRestFit
          (hPlace.again implicit false (built ++ [(name, .value v)])) (by
            intro other hMem
            have hOther : other ≠ name := fun hSame => hFresh (hSame ▸ hMem)
            simpa [hOther] using hAfter other hMem)
        simpa [fieldLines, joinLines, plainNodes, hInline] using hLine.trans hMore
      · rw [Bool.not_eq_true] at hInline
        rw [fieldLines_cons_of_not_inline hInline, plainNodes_cons_of_not_inline hInline]
        exact ih hRestPlain hDistinct hRestFit hPlace hAfter

theorem fieldValues_append (nodes nodes' : List (String × Node)) :
    Node.fieldValues (nodes ++ nodes') = Node.fieldValues nodes ++ Node.fieldValues nodes' := by
  induction nodes with
  | nil => rfl
  | cons node nodes ih => simp [Node.fieldValues, ih]

theorem fieldValues_plainNodes (fields : List (String × Value)) :
    Node.fieldValues (plainNodes fields) = fields.filter (isInline ·.2) := by
  unfold plainNodes
  induction fields.filter (isInline ·.2) with
  | nil => rfl
  | cons field fields ih => simp [Node.fieldValues, Node.toValue, ih]

/-- The table at a place after further nodes, if there are any. -/
def settled (whole : Node) (rebuild : Node → Node) (implicit : Bool) (built nodes : List (String × Node)) :
    Node :=
  if nodes = [] then whole else rebuild (.table implicit false (built ++ nodes))

theorem settled_rebuild (rebuild : Node → Node) (implicit : Bool) (built nodes : List (String × Node)) :
    settled (rebuild (.table implicit false built)) rebuild implicit built nodes =
      rebuild (.table implicit false (built ++ nodes)) := by
  unfold settled
  split <;> simp_all

/-- The sections of the tables among some fields are read, wherever the table stands that they belong to, and
give these tables as its further fields. -/
def SectionsRead (height : Nat) (fields : List (String × Value)) : Prop :=
  ∀ ⦃path header : List String⦄ ⦃whole : Node⦄ ⦃implicit : Bool⦄ ⦃built : List (String × Node)⦄
    ⦃rebuild : Node → Node⦄,
    Node.Place path whole (.table implicit false built) rebuild → (∀ name ∈ path, Bare name) →
    path.length + height < depthLimit → fieldsFit fields = true →
    (∀ field ∈ fields, isHeaded field.2 = true → field.1 ∉ built.map Prod.fst) →
    ∃ nodes header', Node.fieldValues nodes = arrangeHeaded fields ∧
      Reads header whole (sectionsText (fieldSections path fields)) header'
        (settled whole rebuild implicit built nodes)

/-- The sections of one field are read in the same sense. -/
def FieldRead (height : Nat) (name : String) (v : Value) : Prop :=
  ∀ ⦃path header : List String⦄ ⦃whole : Node⦄ ⦃implicit : Bool⦄ ⦃built : List (String × Node)⦄
    ⦃rebuild : Node → Node⦄,
    Node.Place path whole (.table implicit false built) rebuild → (∀ name ∈ path, Bare name) →
    path.length + height < depthLimit → fits v = true → name ∉ built.map Prod.fst →
    ∃ node header', node.toValue = arrange v ∧
      Reads header whole (sectionsText (sectionsOf (path ++ [name]) v)) header'
        (rebuild (.table implicit false (built ++ [(name, node)])))

theorem sectionsRead_cons {height : Nat} {name : String} {v : Value} {rest : List (String × Value)}
    (hHeaded : isHeaded v = true) (hNew : name ∉ rest.map Prod.fst) (hHere : FieldRead height name v)
    (hRest : SectionsRead height rest) : SectionsRead height ((name, v) :: rest) := by
  intro path header whole implicit built rebuild hPlace hPath hDepth hFits hFresh
  obtain ⟨hFit, hRestFit⟩ := Bool.and_eq_true_iff.mp hFits
  obtain ⟨node, header', hNode, hRead⟩ := @hHere path header whole implicit built rebuild hPlace hPath hDepth
    hFit (hFresh _ (List.mem_cons_self ..) hHeaded)
  obtain ⟨nodes, header'', hNodes, hReads⟩ := @hRest path header' _ implicit (built ++ [(name, node)]) rebuild
    (hPlace.again implicit false _) hPath hDepth hRestFit (by
      intro field hMem hThis
      have hOther : field.1 ≠ name := fun hSame => hNew (hSame ▸ List.mem_map_of_mem hMem)
      simpa [hOther] using hFresh field (List.mem_cons_of_mem _ hMem) hThis)
  refine ⟨(name, node) :: nodes, header'', ?_, ?_⟩
  · simp [Node.fieldValues, arrangeHeaded, hHeaded, hNode, hNodes]
  · have hWhole : settled whole rebuild implicit built ((name, node) :: nodes) =
        rebuild (.table implicit false (built ++ [(name, node)] ++ nodes)) := by
      rw [settled, if_neg (List.cons_ne_nil _ _), List.append_cons]
    rw [settled_rebuild] at hReads
    rw [fieldSections, sectionsText_append, hWhole]
    exact hRead.trans hReads

theorem sectionsRead_cons_of_not_headed {height : Nat} {name : String} {v : Value}
    {rest : List (String × Value)} (hHeaded : isHeaded v = false) (hNone : ∀ path, sectionsOf path v = [])
    (hRest : SectionsRead height rest) : SectionsRead height ((name, v) :: rest) := by
  intro path header whole implicit built rebuild hPlace hPath hDepth hFits hFresh
  obtain ⟨nodes, header', hNodes, hRead⟩ := @hRest path header whole implicit built rebuild hPlace hPath hDepth
    (Bool.and_eq_true_iff.mp hFits).2 fun field hMem => hFresh field (List.mem_cons_of_mem _ hMem)
  refine ⟨nodes, header', ?_, ?_⟩
  · simpa [arrangeHeaded, hHeaded] using hNodes
  · simpa [fieldSections, hNone] using hRead

theorem isInline_of_isHeaded {v : Value} (h : isHeaded v = true) : isInline v = false := by
  cases v <;> simp_all [isHeaded, isInline]

/-- No name of a table that stands below a header is the name of a plain field. -/
theorem not_inline_of_headed {fields : List (String × Value)} (hNodup : (fields.map Prod.fst).Nodup)
    {field other : String × Value} (hMem : field ∈ fields) (hHeaded : isHeaded field.2 = true)
    (hOther : other ∈ fields) (hSame : field.1 = other.1) : isInline other.2 = false := by
  have hEq := List.inj_on_of_nodup_map hNodup hMem hOther hSame
  exact isInline_of_isHeaded (hEq ▸ hHeaded)

/-- What stands below the header of a table gives all its fields. -/
theorem reads_body {height : Nat} {fields : List (String × Value)} (hLaid : Laid height fields)
    (hSections : SectionsRead height fields) (hFits : fieldsFit fields = true) {path : List String}
    (hPath : ∀ name ∈ path, Bare name) (hDepth : path.length + height < depthLimit) {whole : Node}
    {rebuild : Node → Node} (hPlace : Node.Place path whole .root rebuild) (hWhole : whole = rebuild .root) :
    ∃ nodes header', Node.fieldValues nodes = fields.filter (isInline ·.2) ++ arrangeHeaded fields ∧
      Reads path whole (joinLines (fieldLines fields) ++ sectionsText (fieldSections path fields)) header'
        (rebuild (.table false false nodes)) := by
  subst hWhole
  have hLines := reads_fieldLines (fun _ _ hMem hInline => hLaid.plain_of_inline hMem hInline) hLaid.nodup
    hFits hPlace (fun _ _ => List.not_mem_nil)
  obtain ⟨nodes, header', hNodes, hRead⟩ := @hSections path path _ false (plainNodes fields) rebuild
    (hPlace.again false false (plainNodes fields)) hPath hDepth hFits (by
      intro field hMem hHeaded hPlain
      obtain ⟨node, hNode, hSame⟩ := List.mem_map.mp hPlain
      obtain ⟨other, hKept, rfl⟩ := List.mem_map.mp hNode
      obtain ⟨hMem', hInline⟩ := List.mem_filter.mp hKept
      have hOther := not_inline_of_headed hLaid.nodup hMem hHeaded hMem' hSame.symm
      exact Bool.false_ne_true (hOther.symm.trans hInline))
  refine ⟨plainNodes fields ++ nodes, header', ?_, ?_⟩
  · rw [fieldValues_append, fieldValues_plainNodes, hNodes]
  · rw [settled_rebuild] at hRead
    exact hLines.trans hRead

theorem sectionsOf_plain {v : Value} (h : Plain v) (path : List String) : sectionsOf path v = [] := by
  cases h with
  | scalar hScalar => cases hScalar <;> simp [sectionsOf]
  | @list items hItems =>
      rw [sectionsOf]
      induction items with
      | nil => rfl
      | cons v items ih =>
          have hMore := ih fun w hMem => hItems w (List.mem_cons_of_mem _ hMem)
          cases hItems v (List.mem_cons_self ..) <;> simpa [itemSections] using hMore

theorem arrangeHeaded_eq_map (fields : List (String × Value)) :
    arrangeHeaded fields = (fields.filter (isHeaded ·.2)).map fun field => (field.1, arrange field.2) := by
  induction fields with
  | nil => rfl
  | cons field rest ih =>
      rw [arrangeHeaded, List.filter_cons]
      split
      case isTrue => rw [ih, List.map_cons]
      case isFalse => exact ih

theorem arrangeHeaded_ne_nil {fields : List (String × Value)} {field : String × Value} (hMem : field ∈ fields)
    (hHeaded : isHeaded field.2 = true) : arrangeHeaded fields ≠ [] := by
  rw [arrangeHeaded_eq_map]
  exact List.ne_nil_of_mem (List.mem_map_of_mem (List.mem_filter.mpr ⟨hMem, hHeaded⟩))

/-- The path of a table has the name of the table behind the path that leads to it. -/
theorem path_append {height : Nat} {path : List String} (hPath : ∀ part ∈ path, Bare part)
    (hDepth : path.length + (height + 1) < depthLimit) {name : String} (hName : Bare name) :
    (∀ part ∈ path ++ [name], Bare part) ∧ (path ++ [name]).length + height < depthLimit := by
  refine ⟨by simpa [or_imp, forall_and] using ⟨hPath, hName⟩, ?_⟩
  rw [List.length_append, List.length_singleton]
  omega

/-- A table below its own header, or, if it has none, as the parent of the tables in it. -/
theorem fieldRead_table {height : Nat} {name : String} {fields : List (String × Value)} (hName : Bare name)
    (hLaid : Laid height fields) (hSections : SectionsRead height fields)
    (hHolds : fields = [] ∨ ∃ field ∈ fields, isInline field.2 || isHeaded field.2) :
    FieldRead (height + 1) name (.table fields) := by
  intro path header whole implicit built rebuild hPlace hPath hDepth hFits hNew
  obtain ⟨hPath', hDepth'⟩ := path_append hPath hDepth hName
  by_cases hOwn : (fieldLines fields).isEmpty && !fields.isEmpty
  · rw [Bool.and_eq_true_iff, List.isEmpty_iff, Bool.not_eq_true', List.isEmpty_eq_false_iff] at hOwn
    obtain ⟨field, hMem, hKind⟩ := hHolds.resolve_left hOwn.2
    have hHeaded : isHeaded field.2 = true := by
      have hOther : isInline field.2 = false := by
        simpa using List.filter_eq_nil_iff.mp (List.map_eq_nil_iff.mp hOwn.1) field hMem
      simpa [hOther] using hKind
    obtain ⟨nodes, header', hNodes, hRead⟩ := @hSections _ header _ _ _ _ (hPlace.missing hNew) hPath' hDepth'
      hFits (fun _ _ _ => List.not_mem_nil)
    have hSome : nodes ≠ [] := by
      rintro rfl
      exact arrangeHeaded_ne_nil hMem hHeaded hNodes.symm
    have hPlain : fields.filter (isInline ·.2) = [] := List.map_eq_nil_iff.mp hOwn.1
    refine ⟨.table true false nodes, header', ?_, ?_⟩
    · rw [Node.toValue, hNodes, arrange, hPlain, List.nil_append]
    · simpa [sectionsOf, hOwn, settled, hSome] using hRead
  · have hOpened : Reads header _ _ _ _ := Reads.table hPath' (by omega) (hPlace.openTable hNew)
    obtain ⟨nodes, header', hNodes, hRead⟩ := reads_body hLaid hSections hFits hPath' hDepth'
      (hPlace.opened hNew) rfl
    refine ⟨.table false false nodes, header', by rw [Node.toValue, hNodes, arrange], ?_⟩
    have hText := ((Reads.blank header whole).trans hOpened).trans hRead
    simpa [sectionsOf, hOwn, sectionsText, joinLines] using hText

section Rows

variable {height : Nat} {name : String} (hName : Bare name) {path : List String}
  (hPath : ∀ part ∈ path, Bare part) (hDepth : path.length + (height + 1) < depthLimit) {whole : Node}
  {implicit : Bool} {built : List (String × Node)} {rebuild : Node → Node}
  (hPlace : Node.Place path whole (.table implicit false built) rebuild) (hNew : name ∉ built.map Prod.fst)
include hName hPath hDepth hPlace hNew

/-- One table of a list of tables, below the header that opens it. -/
theorem reads_row {row : List (String × Value)} (hLaid : Laid height row) (hSections : SectionsRead height row)
    (hFits : fieldsFit row = true) {before : Node} {items : List Node} (header : List String)
    (hOpen : before.openItem path name =
      some (rebuild (.table implicit false (built ++ [(name, .tables (items ++ [.root]))])))) :
    ∃ node header', node.toValue = arrange (.table row) ∧
      Reads header before (sectionsText ((('[' :: '[' :: pathText (path ++ [name]) ++ [']', ']']) ::
        fieldLines row) :: fieldSections (path ++ [name]) row)) header'
        (rebuild (.table implicit false (built ++ [(name, .tables (items ++ [node]))]))) := by
  obtain ⟨hPath', hDepth'⟩ := path_append hPath hDepth hName
  have hOpened : Reads header _ _ _ _ := Reads.item hPath' (by omega) hOpen
  obtain ⟨nodes, header', hNodes, hRead⟩ := reads_body hLaid hSections hFits hPath' hDepth'
    (hPlace.lastItem hNew items) rfl
  refine ⟨.table false false nodes, header', by rw [Node.toValue, hNodes, arrange], ?_⟩
  have hText := ((Reads.blank header before).trans hOpened).trans hRead
  simpa [sectionsText, joinLines] using hText

/-- Further tables of a list of tables. -/
theorem reads_rows {rows : List (List (String × Value))} (hLaid : ∀ row ∈ rows, Laid height row)
    (hSections : ∀ row ∈ rows, SectionsRead height row) (hFits : ∀ row ∈ rows, fieldsFit row = true)
    (items : List Node) (header : List String) :
    ∃ nodes header', Node.itemValues nodes = arrangeItems (rows.map .table) ∧
      Reads header (rebuild (.table implicit false (built ++ [(name, .tables items)])))
        (sectionsText (itemSections (path ++ [name]) (rows.map .table))) header'
        (rebuild (.table implicit false (built ++ [(name, .tables (items ++ nodes))]))) := by
  induction rows generalizing items header with
  | nil =>
      refine ⟨[], header, rfl, ?_⟩
      rw [List.append_nil]
      exact Reads.refl header _
  | cons row rows ih =>
      obtain ⟨hRow, hLaid⟩ := List.forall_mem_cons.mp hLaid
      obtain ⟨hRowSections, hSections⟩ := List.forall_mem_cons.mp hSections
      obtain ⟨hRowFits, hFits⟩ := List.forall_mem_cons.mp hFits
      obtain ⟨node, header', hNode, hRead⟩ := reads_row hName hPath hDepth hPlace hNew hRow hRowSections
        hRowFits header (hPlace.openItem_last hNew items)
      obtain ⟨nodes, header'', hNodes, hReads⟩ := ih hLaid hSections hFits (items ++ [node]) header'
      refine ⟨node :: nodes, header'', ?_, ?_⟩
      · rw [Node.itemValues, List.map_cons, arrangeItems, hNode, hNodes]
      · rw [List.map_cons, itemSections, sectionsText_append]
        simpa using hRead.trans hReads

end Rows

theorem allFit_tables (rows : List (List (String × Value))) :
    allFit (rows.map .table) = rows.all fieldsFit := by
  induction rows with
  | nil => rfl
  | cons row rows ih => simp [allFit, fits, ih]

theorem fieldRead_tables {height : Nat} {name : String} (hName : Bare name) {row : List (String × Value)}
    {rows : List (List (String × Value))} (hRow : Laid height row) (hRows : ∀ other ∈ rows, Laid height other)
    (hRowSections : SectionsRead height row) (hSections : ∀ other ∈ rows, SectionsRead height other) :
    FieldRead (height + 1) name (.list ((row :: rows).map .table)) := by
  intro path header whole implicit built rebuild hPlace hPath hDepth hFits hNew
  obtain ⟨hRowFits, hFits⟩ : fieldsFit row = true ∧ ∀ other ∈ rows, fieldsFit other = true := by
    rw [fits, allFit_tables] at hFits
    exact List.forall_mem_cons.mp (List.all_eq_true.mp hFits)
  have hFirst : whole.openItem path name =
      some (rebuild (.table implicit false (built ++ [(name, .tables ([] ++ [.root]))]))) :=
    hPlace.openItem_new hNew
  obtain ⟨node, header', hNode, hRead⟩ := reads_row hName hPath hDepth hPlace hNew hRow hRowSections
    hRowFits header hFirst
  obtain ⟨nodes, header'', hNodes, hReads⟩ := reads_rows hName hPath hDepth hPlace hNew hRows hSections
    hFits [node] header'
  refine ⟨.tables (node :: nodes), header'', ?_, ?_⟩
  · rw [Node.toValue, Node.itemValues, List.map_cons, arrange, arrangeItems, hNode, hNodes]
  · rw [sectionsOf, List.map_cons, itemSections, sectionsText_append]
    simpa using hRead.trans hReads

/-- The sections of every table that can be written are read. -/
theorem sectionsRead_of_laid {height : Nat} {fields : List (String × Value)} (hLaid : Laid height fields) :
    SectionsRead height fields := by
  induction hLaid with
  | nil height =>
      intro path header whole implicit built rebuild _ _ _ _ _
      exact ⟨[], header, rfl, Reads.refl header whole⟩
  | plain _ _ hPlain _ ih =>
      refine sectionsRead_cons_of_not_headed (Bool.eq_false_iff.mpr fun hHeaded => ?_)
        (sectionsOf_plain hPlain) ih
      exact Bool.false_ne_true ((isInline_of_isHeaded hHeaded).symm.trans (isInline_of_plain hPlain))
  | null _ _ ih => exact sectionsRead_cons_of_not_headed rfl (fun _ => rfl) ih
  | table hName hNew hFields hHolds hRest ihFields ihRest =>
      exact sectionsRead_cons rfl hNew (fieldRead_table hName hFields ihFields hHolds) ihRest
  | tables hName hNew hRow hRows hRest ihRow ihRows ihRest =>
      exact sectionsRead_cons (by simp [isHeaded, isTable]) hNew
        (fieldRead_tables hName hRow hRows ihRow ihRows) ihRest

theorem intercalate_joinLines (lines : Section) (sections : List Section) :
    ['\n'].intercalate ((lines :: sections).map joinLines) = joinLines lines ++ sectionsText sections := by
  induction sections generalizing lines with
  | nil => simp [List.intercalate, sectionsText]
  | cons next sections ih =>
      have hMore := ih next
      simp [List.intercalate, sectionsText] at hMore ⊢
      exact hMore

/-- No text that can be read begins with a byte order mark, once such a mark has been passed over. -/
theorem readLines_mark (fuel : Nat) (header : List String) (node : Node) (rest : List Char) :
    readLines fuel header node ('\uFEFF' :: rest) = none := by
  cases fuel with
  | zero => rfl
  | succ fuel =>
      have hKey : readKey ('\uFEFF' :: rest) = none := by
        simp [readKey, readKeyParts, readKeyPart, skipBlanks, isBlank, isBareKey]
      simp [readLines, skipBlanks, isBlank, hKey]

theorem read_ofList {cs : List Char} {node : Node} (h : readLines (cs.length + 1) [] .root cs = some node) :
    read (String.ofList cs) = some node.toValue := by
  unfold read
  rw [String.toList_ofList]
  split
  case h_1 rest =>
    rw [readLines_mark] at h
    contradiction
  case h_2 => simp [h]

/-- The text of a table reads back as the table, in the order of the text and without nulls. -/
theorem read_text? {height : Nat} {fields : List (String × Value)} (hLaid : Laid height fields)
    (hHeight : height < depthLimit) {text : String} (hText : text? fields = some text) :
    read text = some (arrange (.table fields)) := by
  unfold text? at hText
  split at hText
  case isFalse => contradiction
  case isTrue hFits =>
    obtain rfl := Option.some.inj hText
    have hRoot : Node.Place [] .root .root id := .root .root
    obtain ⟨nodes, header, hNodes, hRead⟩ := reads_body hLaid (sectionsRead_of_laid hLaid) hFits
      (by simp) (by simpa using hHeight) hRoot rfl
    have hValue : arrange (.table fields) = (Node.table false false nodes).toValue := by
      rw [arrange, Node.toValue, hNodes]
    rw [hValue]
    refine read_ofList ?_
    by_cases hPlain : (fieldLines fields).isEmpty = true
    · rw [List.isEmpty_iff.mp hPlain] at hRead ⊢
      cases hSections : fieldSections [] fields with
      | nil =>
          rw [hSections] at hRead
          exact hRead.readLines_eq (Nat.zero_lt_one)
      | cons lines sections =>
          rw [hSections] at hRead
          rw [List.isEmpty_nil, if_pos rfl, List.nil_append, intercalate_joinLines]
          -- The text begins with a section and not with the blank line before it.
          have hBlank := hRead.readLines_eq (Nat.lt_succ_self _)
          simpa [joinLines, sectionsText, readLines, skipBlanks, isBlank] using hBlank
    · rw [if_neg hPlain, List.singleton_append, intercalate_joinLines]
      exact hRead.readLines_eq (Nat.lt_succ_self _)

end Metasearch.Toml
