import Mathlib.Data.List.Nodup
import Metasearch.Document.Record

/-! Fields of records. A table of known fields is the record, numbers and lists are read from what is written of
them, and a choice that is missing is read from null. -/
namespace Metasearch.Document

theorem namesDistinct_iff_nodup (fields : Fields) :
    namesDistinct fields = true ↔ (fields.map Prod.fst).Nodup := by
  induction fields with
  | nil => simp [namesDistinct]
  | cons field rest ih =>
      rw [namesDistinct, Bool.and_eq_true_iff, ih, List.map_cons, List.nodup_cons]
      refine and_congr_left fun _ => ?_
      simp only [Bool.not_eq_true', List.any_eq_false, beq_iff_eq, List.mem_map, not_exists, not_and]

/-- A table that holds known fields only, none of them twice, is the record. -/
theorem asRecord_of_known (source : Source) {names : List String} {fields : Fields}
    (hKnown : ∀ field ∈ fields, field.1 ∈ names) (hNodup : (fields.map Prod.fst).Nodup) :
    asRecord source names (.table fields) = some fields := by
  have hAll : fields.filter (names.contains ·.1) = fields := by
    rw [List.filter_eq_self]
    exact fun field hMem => List.contains_iff_mem.mpr (hKnown field hMem)
  simp only [asRecord, hAll, (namesDistinct_iff_nodup fields).mpr hNodup, if_true]

/-! Values -/

@[simp]
theorem asUInt64_ofUInt64 (n : UInt64) : asUInt64 (ofUInt64 n) = some n := by
  have hSmall : n.toNat < UInt64.size := n.toNat_lt_size
  simp [asUInt64, asNat, ofUInt64, hSmall]

@[simp]
theorem readable_ofUInt64 (n : UInt64) : (ofUInt64 n).readable = true := by
  simp [ofUInt64, Value.readable]

@[simp]
theorem asUInt32_ofUInt32 (n : UInt32) : asUInt32 (ofUInt32 n) = some n := by
  have hSmall : n.toNat < UInt32.size := n.toNat_lt_size
  simp [asUInt32, asNat, ofUInt32, hSmall]

/-- What is undone for each item is undone for the list. -/
theorem mapM_map_eq_some {α β : Type} {undo : β → Option α} {change : α → β}
    (hUndo : ∀ a, undo (change a) = some a) (items : List α) : (items.map change).mapM undo = some items := by
  have hSame : undo ∘ change = fun a => pure a := funext hUndo
  rw [List.mapM_map, hSame, List.mapM_pure, List.map_id']
  rfl

theorem asList_map {α : Type} {read : Value → Option α} {write : α → Value}
    (hRead : ∀ a, read (write a) = some a) (items : List α) :
    asList read (.list (items.map write)) = some items :=
  mapM_map_eq_some hRead items

theorem asText_text (s : String) : asText (.text s) = some s := rfl

theorem asList_texts (texts : List String) : asList asText (.list (texts.map .text)) = some texts :=
  asList_map asText_text texts

/-- A choice that is missing is read from null, any other from itself. -/
theorem orNull_ofOption {α : Type} {read : Value → Option α} {write : α → Value}
    (hRead : ∀ a, read (write a) = some a) (hSome : ∀ a, write a ≠ .null) (choice : Option α) :
    Fields.orNull read (ofOption write choice) = some choice := by
  cases choice with
  | none => rfl
  | some a =>
      rw [ofOption, Fields.orNull]
      · rw [hRead, Option.map_some]
      · exact hSome a

end Metasearch.Document
