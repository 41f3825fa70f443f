import Metasearch.Proofs.Document.Fields
import Metasearch.Proofs.Json.Numbers
import Metasearch.Proofs.Json.Texts

/-! Values written as JSON and read again. Every value that JSON can hold is read back as it was, whatever
follows its text. -/
namespace Metasearch.Json

open Document

theorem skipSpace_cons {c : Char} (hSolid : isSpace c = false) (rest : List Char) :
    skipSpace (c :: rest) = c :: rest := by
  rw [skipSpace, List.dropWhile_cons, hSolid]
  rfl

/-! What a value begins with -/

/-- A character that begins a value. -/
structure StartsValue (c : Char) : Prop where
  solid : isSpace c = false
  opening : c ≠ ']'

theorem StartsNumber.startsValue {c : Char} (h : StartsNumber c) : StartsValue c := by
  rcases h with rfl | hDigit
  · exact ⟨rfl, by decide⟩
  · have hNe {d : Char} (hOther : isDigit d = false) : c ≠ d := Decimal.ne_of_isDigit hDigit hOther
    refine ⟨?_, hNe (by decide)⟩
    simp [isSpace, hNe (by decide : isDigit ' ' = false), hNe (by decide : isDigit '\n' = false),
      hNe (by decide : isDigit '\t' = false), hNe (by decide : isDigit '\r' = false)]

/-! The printer and the reader, one form of values at a time -/

theorem write_null : write .null = ['n', 'u', 'l', 'l'] := rfl

theorem write_true : write (.bool true) = ['t', 'r', 'u', 'e'] := rfl

theorem write_false : write (.bool false) = ['f', 'a', 'l', 's', 'e'] := rfl

theorem write_int (n : ℤ) : write (.int n) = (toString n).toList := rfl

theorem write_float (x : Float) : write (.float x) = writeFloat x := rfl

theorem write_text (s : String) : write (.text s) = writeString s := rfl

theorem write_list (items : List Value) : write (.list items) = '[' :: writeItems items ++ [']'] := rfl

theorem write_table (fields : List (String × Value)) :
    write (.table fields) = '\x7b' :: writeFields fields ++ ['\x7d'] := rfl

section Reader

variable (depth fuel : ℕ) (rest : List Char)

theorem readValue_null : readValue depth (fuel + 1) ('n' :: 'u' :: 'l' :: 'l' :: rest) = some (.null, rest) := rfl

theorem readValue_true : readValue depth (fuel + 1) ('t' :: 'r' :: 'u' :: 'e' :: rest) = some (.bool true, rest) :=
  rfl

theorem readValue_false :
    readValue depth (fuel + 1) ('f' :: 'a' :: 'l' :: 's' :: 'e' :: rest) = some (.bool false, rest) := rfl

theorem readValue_list_end :
    readValue depth (fuel + 1) ('[' :: ']' :: rest) = some (listAt (depth + 1) [], rest) := rfl

theorem readValue_table_end :
    readValue depth (fuel + 1) ('\x7b' :: '\x7d' :: rest) = some (tableAt (depth + 1) [], rest) := rfl

variable {depth fuel rest} {after : List Char}

theorem readValue_text {s : String} (hRead : readString rest = some (some s, after)) :
    readValue depth (fuel + 1) ('"' :: rest) = some (.text s, after) := by
  change (readString rest).map _ = _
  rw [hRead]
  rfl

theorem readValue_list {c : Char} (h : StartsValue c) {items : List Value}
    (hRead : readItems (depth + 1) fuel (c :: rest) = some (items, after)) :
    readValue depth (fuel + 1) ('[' :: c :: rest) = some (listAt (depth + 1) items, after) := by
  rw [readValue, skipSpace_cons (by decide)]
  simp only [skipSpace_cons h.solid, hRead]
  split
  case h_1 hClose => exact absurd (List.cons.inj hClose).1 h.opening
  case h_2 => rfl

theorem readValue_table {fields : List (Option String × Value)}
    (hRead : readFields (depth + 1) fuel ('"' :: rest) = some (fields, after)) :
    readValue depth (fuel + 1) ('\x7b' :: '"' :: rest) = some (tableAt (depth + 1) fields, after) := by
  change (readFields (depth + 1) fuel ('"' :: rest)).map _ = _
  rw [hRead]
  rfl

end Reader

theorem readValue_number {cs : List Char} (h : ∃ c more, cs = c :: more ∧ StartsNumber c) (depth fuel : ℕ) :
    readValue depth (fuel + 1) cs = readNumber cs := by
  obtain ⟨c, more, rfl, hHead⟩ := h
  have hNe {d : Char} (hOther : isDigit d = false) (hMark : d ≠ '-') : c ≠ d := by
    rcases hHead with rfl | hDigit
    · exact hMark.symm
    · exact Decimal.ne_of_isDigit hDigit hOther
  rw [readValue, skipSpace_cons hHead.startsValue.solid]
  split
  case h_7 => rfl
  all_goals
    rename_i hSame
    exact absurd (List.cons.inj hSame).1 (hNe (by decide) (by decide))

/-! What can be written -/

/-- The values that JSON can hold: whole numbers of one word, finite doubles, no dates. Nesting is bounded by a
height. -/
inductive Writable : ℕ → Value → Prop where
  | null (height : ℕ) : Writable height .null
  | bool (height : ℕ) (b : Bool) : Writable height (.bool b)
  | int (height : ℕ) {n : ℤ} (hFits : FitsWord n) : Writable height (.int n)
  | float (height : ℕ) {x : Float} (hFinite : x.isInf = false) (hNumber : x.isNaN = false) :
      Writable height (.float x)
  | text (height : ℕ) (s : String) : Writable height (.text s)
  | list {height : ℕ} {items : List Value} (hItems : ∀ v ∈ items, Writable height v) :
      Writable (height + 1) (.list items)
  | table {height : ℕ} {fields : List (String × Value)} (hFields : ∀ field ∈ fields, Writable height field.2) :
      Writable (height + 1) (.table fields)

theorem Writable.startsValue {height : ℕ} {v : Value} (h : Writable height v) (rest : List Char) :
    ∃ c more, write v ++ rest = c :: more ∧ StartsValue c := by
  cases h with
  | null => exact ⟨'n', _, by rw [write_null]; rfl, rfl, by decide⟩
  | bool height b => cases b with
    | true => exact ⟨'t', _, by rw [write_true]; rfl, rfl, by decide⟩
    | false => exact ⟨'f', _, by rw [write_false]; rfl, rfl, by decide⟩
  | @int _ n hFits =>
      obtain ⟨c, more, hText, hHead⟩ := startsNumber_toString n rest
      exact ⟨c, more, by rw [write_int, hText], hHead.startsValue⟩
  | float _ hFinite hNumber =>
      obtain ⟨c, more, hText, hHead⟩ := startsNumber_writeFloat hFinite hNumber rest
      exact ⟨c, more, by rw [write_float, hText], hHead.startsValue⟩
  | text height s => exact ⟨'"', _, by rw [write_text, writeString]; rfl, rfl, by decide⟩
  | list => exact ⟨'[', _, by rw [write_list]; rfl, rfl, by decide⟩
  | table => exact ⟨'\x7b', _, by rw [write_table]; rfl, rfl, by decide⟩

/-! Lists and tables -/

/-- A value is read back at a depth, with fuel for every character. -/
def ReadBack (depth : ℕ) (v : Value) : Prop :=
  ∀ fuel rest, (write v).length ≤ fuel → EndsValue rest → readValue depth fuel (write v ++ rest) = some (v, rest)

theorem writeItems_cons (v : Value) {items : List Value} (hMore : items ≠ []) :
    writeItems (v :: items) = write v ++ ',' :: writeItems items := by
  rw [writeItems]
  exact hMore

theorem writeFields_cons (field : String × Value) {fields : List (String × Value)} (hMore : fields ≠ []) :
    writeFields (field :: fields) =
      writeString field.1 ++ ':' :: write field.2 ++ ',' :: writeFields fields := by
  rw [writeFields]
  exact hMore

section Parts

variable {depth fuel : ℕ}

theorem readItems_writeItems {items : List Value} (hFull : items ≠ []) (hItems : ∀ v ∈ items, ReadBack depth v)
    (hFuel : (writeItems items).length < fuel) (rest : List Char) :
    readItems depth fuel (writeItems items ++ ']' :: rest) = some (items, rest) := by
  induction items generalizing fuel with
  | nil => contradiction
  | cons v items ih =>
      obtain ⟨fuel, rfl⟩ := Nat.exists_eq_add_one_of_ne_zero (Nat.ne_zero_of_lt hFuel)
      have hHead := hItems v (List.mem_cons_self ..)
      by_cases hMore : items = []
      · rw [hMore, writeItems] at hFuel ⊢
        rw [readItems, hHead fuel _ (Nat.le_of_lt_succ hFuel) (endsValue_bracket rest)]
        rfl
      · rw [writeItems_cons v hMore] at hFuel ⊢
        simp only [List.length_append, List.length_cons] at hFuel
        have hTail : readItems depth fuel (writeItems items ++ ']' :: rest) = some (items, rest) :=
          ih hMore (fun w hMem => hItems w (List.mem_cons_of_mem _ hMem)) (by omega)
        rw [List.append_assoc, List.cons_append, readItems, hHead fuel _ (by omega) (endsValue_comma _)]
        simp only [skipSpace_cons (by decide : isSpace ',' = false), hTail, Option.map_some]

section Field

variable {field : String × Value} (hField : ReadBack depth field.2) (hFuel : (write field.2).length ≤ fuel)
include hField hFuel

theorem readFields_last (rest : List Char) :
    readFields depth (fuel + 1) (writeString field.1 ++ ':' :: write field.2 ++ '\x7d' :: rest) =
      some ([(some field.1, field.2)], rest) := by
  rw [List.append_assoc, List.cons_append, writeString_append, readFields]
  simp only [skipSpace_cons (by decide : isSpace '"' = false), readString_escaped,
    skipSpace_cons (by decide : isSpace ':' = false), hField fuel _ hFuel (endsValue_brace rest),
    skipSpace_cons (by decide : isSpace '\x7d' = false)]

theorem readFields_next {rest after : List Char} {fields : List (Option String × Value)}
    (hNext : readFields depth fuel rest = some (fields, after)) :
    readFields depth (fuel + 1) (writeString field.1 ++ ':' :: write field.2 ++ ',' :: rest) =
      some ((some field.1, field.2) :: fields, after) := by
  rw [List.append_assoc, List.cons_append, writeString_append, readFields]
  simp only [skipSpace_cons (by decide : isSpace '"' = false), readString_escaped,
    skipSpace_cons (by decide : isSpace ':' = false), hField fuel _ hFuel (endsValue_comma rest),
    skipSpace_cons (by decide : isSpace ',' = false), hNext, Option.map_some]

end Field

theorem readFields_writeFields {fields : List (String × Value)} (hFull : fields ≠ [])
    (hFields : ∀ field ∈ fields, ReadBack depth field.2) (hFuel : (writeFields fields).length < fuel)
    (rest : List Char) : readFields depth fuel (writeFields fields ++ '\x7d' :: rest) =
      some (fields.map fun field => (some field.1, field.2), rest) := by
  induction fields generalizing fuel with
  | nil => contradiction
  | cons field fields ih =>
      obtain ⟨fuel, rfl⟩ := Nat.exists_eq_add_one_of_ne_zero (Nat.ne_zero_of_lt hFuel)
      have hHead := hFields field (List.mem_cons_self ..)
      by_cases hMore : fields = []
      · rw [hMore, writeFields] at hFuel ⊢
        simp only [List.length_append, List.length_cons] at hFuel
        exact readFields_last hHead (by omega) rest
      · rw [writeFields_cons field hMore] at hFuel ⊢
        simp only [List.length_append, List.length_cons] at hFuel
        have hTail : readFields depth fuel (writeFields fields ++ '\x7d' :: rest) = some (_, rest) :=
          ih hMore (fun other hMem => hFields other (List.mem_cons_of_mem _ hMem)) (by omega)
        rw [List.append_assoc, List.cons_append]
        exact readFields_next hHead (by omega) hTail

theorem startsValue_writeItems {items : List Value} (hFull : items ≠ [])
    (hStarts : ∀ v ∈ items, ∀ rest, ∃ c more, write v ++ rest = c :: more ∧ StartsValue c) (rest : List Char) :
    ∃ c more, writeItems items ++ rest = c :: more ∧ StartsValue c := by
  obtain ⟨v, items, rfl⟩ := List.exists_cons_of_ne_nil hFull
  have hHead := hStarts v (List.mem_cons_self ..)
  by_cases hMore : items = []
  · rw [hMore, writeItems]
    exact hHead rest
  · rw [writeItems_cons v hMore, List.append_assoc]
    exact hHead _

section Nested

variable (hDepth : depth < maxDepth)
include hDepth

theorem readBack_list {items : List Value}
    (hStarts : ∀ v ∈ items, ∀ rest, ∃ c more, write v ++ rest = c :: more ∧ StartsValue c)
    (hItems : ∀ v ∈ items, ReadBack (depth + 1) v) : ReadBack depth (.list items) := by
  intro fuel rest hFuel hRest
  have hText : write (.list items) ++ rest = '[' :: (writeItems items ++ ']' :: rest) := by simp [write_list]
  have hList (items : List Value) : listAt (depth + 1) items = .list items := if_neg (by omega)
  simp only [write_list, List.length_append, List.length_cons, List.length_nil] at hFuel
  obtain ⟨fuel, rfl⟩ := Nat.exists_eq_add_one_of_ne_zero (by omega : fuel ≠ 0)
  rw [hText]
  by_cases hNone : items = []
  · rw [hNone, writeItems, List.nil_append, readValue_list_end, hList]
  · obtain ⟨c, more, hHead, hStart⟩ := startsValue_writeItems hNone hStarts (']' :: rest)
    have hRead : readItems (depth + 1) fuel (writeItems items ++ ']' :: rest) = some (items, rest) :=
      readItems_writeItems hNone hItems (by omega) rest
    rw [hHead] at hRead ⊢
    rw [readValue_list hStart hRead, hList]

theorem readBack_table {fields : List (String × Value)}
    (hFields : ∀ field ∈ fields, ReadBack (depth + 1) field.2) : ReadBack depth (.table fields) := by
  intro fuel rest hFuel hRest
  have hText : write (.table fields) ++ rest = '\x7b' :: (writeFields fields ++ '\x7d' :: rest) := by
    simp [write_table]
  have hTable : tableAt (depth + 1) (fields.map fun field => (some field.1, field.2)) = .table fields := by
    rw [tableAt, if_neg (by omega), mapM_map_eq_some]
    exact fun _ => rfl
  simp only [write_table, List.length_append, List.length_cons, List.length_nil] at hFuel
  obtain ⟨fuel, rfl⟩ := Nat.exists_eq_add_one_of_ne_zero (by omega : fuel ≠ 0)
  rw [hText]
  by_cases hNone : fields = []
  · subst hNone
    rw [writeFields, List.nil_append, readValue_table_end]
    exact congrArg (fun v => some (v, rest)) hTable
  · obtain ⟨more, hHead⟩ : ∃ more, writeFields fields ++ '\x7d' :: rest = '"' :: more := by
      obtain ⟨field, fields, rfl⟩ := List.exists_cons_of_ne_nil hNone
      by_cases hMore : fields = []
      · exact ⟨_, by rw [hMore, writeFields, writeString]; rfl⟩
      · exact ⟨_, by rw [writeFields_cons field hMore, writeString]; rfl⟩
    have hRead : readFields (depth + 1) fuel (writeFields fields ++ '\x7d' :: rest) = some (_, rest) :=
      readFields_writeFields hNone hFields (by omega) rest
    rw [hHead] at hRead ⊢
    rw [readValue_table hRead, hTable]

end Nested

end Parts

/-! Values -/

theorem Writable.readBack_of_scalar {height depth : ℕ} {v : Value} (h : Writable height v)
    (hRead : ∀ fuel rest, EndsValue rest → readValue depth (fuel + 1) (write v ++ rest) = some (v, rest)) :
    ReadBack depth v := by
  intro fuel rest hFuel hRest
  obtain ⟨c, more, hText, -⟩ := h.startsValue []
  rw [List.append_nil] at hText
  rw [hText, List.length_cons] at hFuel
  obtain ⟨fuel, rfl⟩ := Nat.exists_eq_add_one_of_ne_zero (by omega : fuel ≠ 0)
  exact hRead fuel rest hRest

/-- Whatever JSON can hold is read back, where its nesting is not too deep. -/
theorem Writable.readBack {height : ℕ} {v : Value} (h : Writable height v) {depth : ℕ}
    (hDepth : depth + height ≤ maxDepth) : ReadBack depth v := by
  induction h generalizing depth with
  | list hItems ih =>
      exact readBack_list (by omega) (fun v hMem => (hItems v hMem).startsValue)
        fun v hMem => ih v hMem (by omega)
  | table hFields ih => exact readBack_table (by omega) fun field hMem => ih field hMem (by omega)
  | null height =>
      exact (Writable.null height).readBack_of_scalar fun fuel rest hRest => by
        rw [write_null]
        exact readValue_null depth fuel rest
  | bool height b =>
      exact (Writable.bool height b).readBack_of_scalar fun fuel rest hRest => by
        cases b with
        | true =>
            rw [write_true]
            exact readValue_true depth fuel rest
        | false =>
            rw [write_false]
            exact readValue_false depth fuel rest
  | int height hFits =>
      exact (Writable.int height hFits).readBack_of_scalar fun fuel rest hRest => by
        rw [write_int, readValue_number (startsNumber_toString _ rest), readNumber_toString hFits hRest]
  | float height hFinite hNumber =>
      exact (Writable.float height hFinite hNumber).readBack_of_scalar fun fuel rest hRest => by
        rw [write_float, readValue_number (startsNumber_writeFloat hFinite hNumber rest),
          readNumber_writeFloat hFinite hNumber hRest]
  | text height s =>
      exact (Writable.text height s).readBack_of_scalar fun fuel rest hRest => by
        rw [write_text, writeString_append]
        exact readValue_text (readString_escaped s rest)

theorem read_text {height : ℕ} {v : Value} (h : Writable height v) (hHeight : height ≤ maxDepth) :
    read (text v) = some v := by
  have hRead := h.readBack (Nat.zero_add height ▸ hHeight) ((write v).length + 1) [] (Nat.le_succ _) endsValue_nil
  rw [List.append_nil] at hRead
  rw [read, text, String.toList_ofList, hRead]
  rfl

end Metasearch.Json
