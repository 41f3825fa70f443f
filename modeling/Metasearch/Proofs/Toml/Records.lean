import Metasearch.Proofs.Document.Fields
import Metasearch.Proofs.Toml.RoundTrip

/-! Records in a table that was written and read again. Every field is found with what its text keeps of the
value, and a field that is null is found absent. -/
namespace Metasearch.Toml

open Document

/-- What a text keeps of the value of a field. -/
def kept (v : Value) : Option Value :=
  if isInline v then some v else if isHeaded v then some (arrange v) else none

theorem lookup_map (fields : List (String × Value)) (change : Value → Value) (name : String) :
    (fields.map fun field => (field.1, change field.2)).lookup name = (fields.lookup name).map change := by
  induction fields with
  | nil => rfl
  | cons field rest ih =>
      rw [List.map_cons, List.lookup_cons, List.lookup_cons, ih]
      split <;> rfl

section Table

variable {fields : List (String × Value)} (hNodup : (fields.map Prod.fst).Nodup)
include hNodup

theorem nodup_arranged : ((fields.filter (isInline ·.2) ++ arrangeHeaded fields).map Prod.fst).Nodup := by
  rw [List.map_append, arrangeHeaded_eq_map, List.map_map, List.nodup_append]
  refine ⟨hNodup.sublist (List.filter_sublist.map _), hNodup.sublist (List.filter_sublist.map _), ?_⟩
  rintro name hPlain other hHeaded rfl
  obtain ⟨plain, hMem, rfl⟩ := List.mem_map.mp hPlain
  obtain ⟨headed, hMem', hSame⟩ := List.mem_map.mp hHeaded
  obtain ⟨hMem, hInline⟩ := List.mem_filter.mp hMem
  obtain ⟨hMem', hIsHeaded⟩ := List.mem_filter.mp hMem'
  have hOther := not_inline_of_headed hNodup hMem' hIsHeaded hMem hSame
  exact Bool.false_ne_true (hOther.symm.trans hInline)

/-- All fields of a record are found among those that its text gives back. -/
theorem asRecord_arrange (source : Source) :
    asRecord source (fields.map Prod.fst) (arrange (.table fields)) =
      some (fields.filter (isInline ·.2) ++ arrangeHeaded fields) := by
  have hKnown : (fields.filter (isInline ·.2) ++ arrangeHeaded fields).filter
      ((fields.map Prod.fst).contains ·.1) = fields.filter (isInline ·.2) ++ arrangeHeaded fields := by
    rw [List.filter_eq_self, arrangeHeaded_eq_map]
    intro field hMem
    rw [List.contains_iff_mem]
    rcases List.mem_append.mp hMem with hPlain | hHeaded
    · exact List.mem_map_of_mem (List.mem_filter.mp hPlain).1
    · obtain ⟨other, hOther, rfl⟩ := List.mem_map.mp hHeaded
      exact List.mem_map.mpr ⟨other, (List.mem_filter.mp hOther).1, rfl⟩
  simp only [arrange, asRecord, hKnown, (namesDistinct_iff_nodup _).mpr (nodup_arranged hNodup), if_true]

theorem lookup_filter (p : Value → Bool) (name : String) :
    (fields.filter (p ·.2)).lookup name = (fields.lookup name).filter p := by
  induction fields with
  | nil => rfl
  | cons field rest ih =>
      obtain ⟨other, v⟩ := field
      obtain ⟨hNew, hRest⟩ := List.nodup_cons.mp hNodup
      rw [List.filter_cons, List.lookup_cons]
      by_cases hSame : name = other
      · subst hSame
        have hNone : rest.lookup name = none := by
          rw [List.lookup_eq_none_iff]
          intro field hMem
          have hName : field.1 ∈ rest.map Prod.fst := List.mem_map_of_mem hMem
          simpa using fun hThis : name = field.1 => hNew (hThis ▸ hName)
        rw [hNone] at ih
        cases hp : p v <;> simp [hp, ih hRest, Option.filter]
      · have hOther : (name == other) = false := by simpa using hSame
        cases hp : p v <;> simp [hOther, ih hRest, List.lookup_cons]

/-- A field is found with what the text keeps of its value. -/
theorem lookup_arranged (name : String) :
    (fields.filter (isInline ·.2) ++ arrangeHeaded fields).lookup name = (fields.lookup name).bind kept := by
  rw [List.lookup_append, arrangeHeaded_eq_map, lookup_map, lookup_filter hNodup, lookup_filter hNodup]
  cases fields.lookup name with
  | none => rfl
  | some v =>
      rw [Option.bind_some, kept]
      cases hInline : isInline v <;> cases hHeaded : isHeaded v <;> simp [Option.filter, hInline, hHeaded]

/-- A field that may be absent is read from what the text keeps of it. -/
theorem withDefault_arranged {α : Type} (name : String) (default : α) (read : Value → Option α) :
    Fields.withDefault (fields.filter (isInline ·.2) ++ arrangeHeaded fields) name default read =
      ((fields.lookup name).bind kept).elim (some default) read := by
  rw [Fields.withDefault, lookup_arranged hNodup]
  cases (fields.lookup name).bind kept <;> rfl

theorem required_arranged {α : Type} (name : String) (read : Value → Option α) :
    Fields.required (fields.filter (isInline ·.2) ++ arrangeHeaded fields) name read =
      ((fields.lookup name).bind kept).bind read := by
  rw [Fields.required, lookup_arranged hNodup]

end Table

/-! Values -/

@[simp]
theorem kept_text (s : String) : kept (.text s) = some (.text s) := rfl

@[simp]
theorem kept_float (x : Float) : kept (.float x) = some (.float x) := rfl

@[simp]
theorem kept_bool (b : Bool) : kept (.bool b) = some (.bool b) := rfl

@[simp]
theorem kept_ofUInt64 (n : UInt64) : kept (ofUInt64 n) = some (ofUInt64 n) := rfl

theorem kept_of_isTable {v : Value} (h : isTable v = true) : kept v = some (arrange v) := by
  cases v <;> first | rfl | contradiction

@[simp]
theorem kept_texts (texts : List String) : kept (.list (texts.map .text)) = some (.list (texts.map .text)) := by
  cases texts <;> rfl

/-- A number that may be missing is found with the number that stands for its absence. -/
@[simp]
theorem elim_kept_ofOption (n usual : Option UInt64) :
    (kept (ofOption ofUInt64 n)).elim (some usual) (Fields.orNull asUInt64) = some (n.or usual) := by
  cases n with
  | none => rfl
  | some n =>
      have hRead : Fields.orNull asUInt64 (ofUInt64 n) = (asUInt64 (ofUInt64 n)).map some := rfl
      rw [ofOption, kept_ofUInt64, Option.elim_some, hRead, asUInt64_ofUInt64]
      rfl

theorem arrangeItems_eq_map (items : List Value) : arrangeItems items = items.map arrange := by
  induction items with
  | nil => rfl
  | cons v items ih => rw [arrangeItems, ih, List.map_cons]

/-- Records in a list are found as each of them is found alone. -/
theorem elim_kept_records {α : Type} {read : Value → Option α} {write : α → Value}
    (hTable : ∀ a, isTable (write a) = true) (hRead : ∀ a, read (arrange (write a)) = some a)
    (usual : Option (List α)) (items : List α) :
    (kept (.list (items.map write))).elim usual (asList read) = some items := by
  cases items with
  | nil => rfl
  | cons a items =>
      have hKept : kept (.list ((a :: items).map write)) =
          some (.list ((a :: items).map fun a => arrange (write a))) := by
        simp [kept, isInline, isHeaded, hTable, arrange, arrangeItems_eq_map]
      rw [hKept, Option.elim_some]
      exact asList_map hRead (a :: items)

end Metasearch.Toml
