import Metasearch.Proofs.Toml.Floats
import Metasearch.Proofs.Toml.Texts
import Metasearch.Toml.Reader

/-! Values in a line of TOML. What stands in the line of its key, or in the lines of a list, reads back as it
was. -/
namespace Metasearch.Toml

open Document Decimal

/-! The printer and the reader, one form of values at a time -/

theorem writeValue_true : writeValue (.bool true) = ['t', 'r', 'u', 'e'] := rfl

theorem writeValue_false : writeValue (.bool false) = ['f', 'a', 'l', 's', 'e'] := rfl

theorem writeValue_int (n : Int) : writeValue (.int n) = (toString n).toList := rfl

theorem writeValue_float (x : Float) : writeValue (.float x) = writeFloat x := rfl

theorem writeItems_eq_map (items : List Value) : writeItems items = items.map writeValue := by
  induction items with
  | nil => rfl
  | cons v items ih => exact congrArg (writeValue v :: ·) ih

theorem writeValue_list (items : List Value) : writeValue (.list items) = bracketed (items.map writeValue) :=
  congrArg bracketed (writeItems_eq_map items)

section Reader

variable (depth fuel : Nat) (rest : List Char)

theorem readValue_true : readValue depth (fuel + 1) ('t' :: 'r' :: 'u' :: 'e' :: rest) = some (.bool true, rest) :=
  rfl

theorem readValue_false :
    readValue depth (fuel + 1) ('f' :: 'a' :: 'l' :: 's' :: 'e' :: rest) = some (.bool false, rest) := rfl

variable {depth fuel rest} {after : List Char}

theorem readValue_quote {c : Char} (hQuote : c = '"' ∨ c = '\'') {s : String}
    (hRead : readQuoted (c :: rest) = some (s.toList, after)) :
    readValue depth (fuel + 1) (c :: rest) = some (.text s, after) := by
  rcases hQuote with rfl | rfl
  all_goals
    change (readQuoted _).map _ = _
    rw [hRead, Option.map_some]
    simp only [String.ofList_toList]

theorem readValue_list (hDepth : depth + 1 < depthLimit) {items : List Value}
    (hRead : readItems (depth + 1) fuel rest = some (items, after)) :
    readValue depth (fuel + 1) ('[' :: rest) = some (.list items, after) := by
  refine (if_neg (Nat.not_le.mpr hDepth)).trans ?_
  rw [hRead]
  rfl

end Reader

theorem readValue_number {cs : List Char} (h : ∃ c more, cs = c :: more ∧ StartsNumber c)
    (depth fuel : Nat) : readValue depth (fuel + 1) cs = readScalar cs := by
  obtain ⟨c, more, rfl, hHead⟩ := h
  have hNe {d : Char} (hOther : isDigit d = false) (hMark : d ≠ '-' ∧ d ≠ 'i') : c ≠ d := by
    rcases hHead with rfl | rfl | hDigit
    · exact hMark.1.symm
    · exact hMark.2.symm
    · exact ne_of_isDigit hDigit hOther
  rw [readValue]
  all_goals exact fun _ hSame => hNe (by decide) (by decide) (List.cons.inj hSame).1

/-! Scalars -/

/-- The values without parts that can be written. -/
inductive Scalar : Value → Prop where
  | bool (b : Bool) : Scalar (.bool b)
  | int (n : Int) : Scalar (.int n)
  | float {x : Float} (hNumber : x.isNaN = false) : Scalar (.float x)
  | text (s : String) : Scalar (.text s)

/-- The values that stand in a line of their table: scalars and lists of them. -/
inductive Plain : Value → Prop where
  | scalar {v : Value} (hScalar : Scalar v) : Plain v
  | list {items : List Value} (hItems : ∀ v ∈ items, Scalar v) : Plain (.list items)

/-- What a scalar can begin with. -/
def StartsScalar (c : Char) : Prop :=
  c = '"' ∨ c = '\'' ∨ c = 't' ∨ c = 'f' ∨ StartsNumber c

theorem Scalar.eq_cons {v : Value} (h : Scalar v) :
    ∃ c more, writeValue v = c :: more ∧ StartsScalar c := by
  cases h with
  | bool b => cases b with
    | true => exact ⟨'t', _, writeValue_true, by simp [StartsScalar]⟩
    | false => exact ⟨'f', _, writeValue_false, by simp [StartsScalar]⟩
  | int n =>
      obtain ⟨c, more, hText, hHead⟩ := startsNumber_numeral (n < 0) (numeral_toDigits n.natAbs) []
      rw [writeValue_int, toList_toString_int]
      exact ⟨c, more, by simpa using hText, by simp [StartsScalar, hHead]⟩
  | float hNumber =>
      obtain ⟨c, more, hText, hHead⟩ := writeFloat_eq_cons hNumber
      exact ⟨c, more, hText, by simp [StartsScalar, hHead]⟩
  | text s =>
      obtain ⟨more, hText | hText⟩ := writeText_eq_cons s
      · exact ⟨'"', more, hText, .inl rfl⟩
      · exact ⟨'\'', more, hText, .inr (.inl rfl)⟩

theorem StartsScalar.not_gap {c : Char} (h : StartsScalar c) :
    isBlank c = false ∧ c ≠ '\n' ∧ c ≠ '\r' ∧ c ≠ '#' ∧ c ≠ ']' ∧ c ≠ '[' := by
  rcases h with rfl | rfl | rfl | rfl | rfl | rfl | hDigit
  case inr.inr.inr.inr.inr.inr =>
    have hNe {d : Char} (hOther : isDigit d = false) : c ≠ d := ne_of_isDigit hDigit hOther
    refine ⟨?_, hNe ?_, hNe ?_, hNe ?_, hNe ?_, hNe ?_⟩
    · simp [isBlank, @hNe ' ', @hNe '\t', isDigit]
    all_goals decide
  all_goals decide

theorem EndsValue.endsText {rest : List Char} (h : EndsValue rest) : EndsText rest := by
  obtain ⟨c, more, rfl, rfl | rfl | rfl⟩ := h <;> simp [EndsText]

theorem readValue_text (s : String) (depth fuel : Nat) {rest : List Char} (hRest : EndsText rest) :
    readValue depth (fuel + 1) (writeText s ++ rest) = some (.text s, rest) := by
  have hRead := readQuoted_writeText s hRest
  obtain ⟨more, hText | hText⟩ := writeText_eq_cons s
  all_goals
    rw [hText, List.cons_append] at hRead ⊢
    exact readValue_quote (by decide) hRead

theorem readValue_scalar {v : Value} (h : Scalar v) (hFits : fits v = true) (depth fuel : Nat)
    {rest : List Char} (hRest : EndsValue rest) :
    readValue depth (fuel + 1) (writeValue v ++ rest) = some (v, rest) := by
  cases h with
  | bool b => cases b with
    | true =>
        rw [writeValue_true]
        exact readValue_true depth fuel rest
    | false =>
        rw [writeValue_false]
        exact readValue_false depth fuel rest
  | int n =>
      rw [writeValue_int, readValue_number, readScalar_toString hFits hRest]
      rw [toList_toString_int, List.append_assoc]
      exact startsNumber_numeral (n < 0) (numeral_toDigits n.natAbs) rest
  | @float x hNumber =>
      obtain ⟨c, more, hText, hHead⟩ := writeFloat_eq_cons hNumber
      rw [writeValue_float, readValue_number, readScalar_writeFloat hNumber hRest]
      exact ⟨c, more ++ rest, by rw [hText, List.cons_append], hHead⟩
  | text s => exact readValue_text s depth fuel hRest.endsText

/-! Lists -/

theorem skipBlanks_cons {c : Char} (hBlank : isBlank c = false) (cs : List Char) :
    skipBlanks (c :: cs) = c :: cs := by
  simp [skipBlanks, hBlank]

theorem skipLines_of_head {c : Char} (hBlank : isBlank c = false) (hOther : c ≠ '\n' ∧ c ≠ '\r' ∧ c ≠ '#')
    (fuel : Nat) (cs : List Char) : skipLines (fuel + 1) (c :: cs) = some (c :: cs) := by
  rw [skipLines, skipBlanks_cons hBlank]
  simp [hOther]

theorem skipLines_newline (fuel : Nat) (cs : List Char) : skipLines (fuel + 1) ('\n' :: cs) = skipLines fuel cs := rfl

theorem skipLines_bracket (fuel : Nat) (cs : List Char) : skipLines (fuel + 1) (']' :: cs) = some (']' :: cs) :=
  skipLines_of_head (by decide) (by decide) fuel cs

/-- A scalar in a list is found behind the four blanks that its line begins with. -/
theorem skipLines_indent {c : Char} (h : StartsScalar c) (fuel : Nat) (cs : List Char) :
    skipLines (fuel + 2) ('\n' :: ' ' :: ' ' :: ' ' :: ' ' :: c :: cs) = some (c :: cs) := by
  obtain ⟨hBlank, hLine, hReturn, hComment, -⟩ := h.not_gap
  have hSkip : skipBlanks (' ' :: ' ' :: ' ' :: ' ' :: c :: cs) = c :: cs := by
    simp [skipBlanks, hBlank, isBlank.eq_def ' ']
  rw [skipLines_newline, skipLines, hSkip]
  simp [hLine, hReturn, hComment]

theorem readItems_end {cs rest : List Char} (hSkip : skipLines (cs.length + 1) cs = some (']' :: rest))
    (depth fuel : Nat) : readItems depth (fuel + 1) cs = some ([], rest) := by
  rw [readItems, hSkip]
  rfl

section Items

variable {v : Value} (hScalar : Scalar v) (hFits : fits v = true) {cs rest : List Char}
include hScalar hFits

theorem readItems_last (hSkip : skipLines (cs.length + 1) cs = some (writeValue v ++ ']' :: rest))
    (depth fuel : Nat) : readItems depth (fuel + 2) cs = some ([v], rest) := by
  obtain ⟨c, text, hText, hHead⟩ := hScalar.eq_cons
  have hRead := readValue_scalar hScalar hFits depth fuel (endsValue_bracket rest)
  rw [hText, List.cons_append] at hSkip hRead
  rw [readItems]
  simp [hSkip, hHead.not_gap, hRead, skipLines_bracket]

theorem readItems_comma (hSkip : skipLines (cs.length + 1) cs = some (writeValue v ++ ',' :: rest))
    (depth fuel : Nat) : readItems depth (fuel + 2) cs =
      (readItems depth (fuel + 1) rest).map fun (items, rest) => (v :: items, rest) := by
  obtain ⟨c, text, hText, hHead⟩ := hScalar.eq_cons
  have hRead := readValue_scalar hScalar hFits depth fuel (endsValue_comma rest)
  have hEnd : skipLines (rest.length + 1 + 1) (',' :: rest) = some (',' :: rest) :=
    skipLines_of_head (by decide) (by decide) _ rest
  rw [hText, List.cons_append] at hSkip hRead
  rw [readItems]
  simp [hSkip, hHead.not_gap, hRead, hEnd, Option.map_eq_bind]

end Items

theorem allFit_eq_all (items : List Value) : allFit items = items.all fits := by
  induction items with
  | nil => rfl
  | cons v items ih => simp [allFit, ih]

/-- The lines of the items of a list. -/
def itemLines (items : List Value) : List Char :=
  items.flatMap fun v => "    ".toList ++ writeValue v ++ [',', '\n']

/-- The lines of the items of a list are read up to the end of the list. -/
theorem readItems_itemLines {items : List Value} (hItems : ∀ v ∈ items, Scalar v)
    (hFits : ∀ v ∈ items, fits v = true) (depth spare : Nat) (rest : List Char) :
    readItems depth (spare + items.length + 2) ('\n' :: (itemLines items ++ ']' :: rest)) =
      some (items, rest) := by
  induction items with
  | nil =>
      refine readItems_end ?_ depth (spare + 1)
      rw [skipLines_newline]
      exact skipLines_bracket _ rest
  | cons v items ih =>
      have hHere := hItems v (List.mem_cons_self ..)
      obtain ⟨c, text, hText, hHead⟩ := hHere.eq_cons
      have hSkip : skipLines (('\n' :: (itemLines (v :: items) ++ ']' :: rest)).length + 1)
          ('\n' :: (itemLines (v :: items) ++ ']' :: rest)) =
            some (writeValue v ++ ',' :: '\n' :: (itemLines items ++ ']' :: rest)) := by
        have hLine : itemLines (v :: items) ++ ']' :: rest = ' ' :: ' ' :: ' ' :: ' ' :: c ::
            (text ++ ',' :: '\n' :: (itemLines items ++ ']' :: rest)) := by
          simp [itemLines, hText]
        rw [hLine, hText]
        exact skipLines_indent hHead _ _
      have hMore := ih (fun w hw => hItems w (List.mem_cons_of_mem _ hw))
        (fun w hw => hFits w (List.mem_cons_of_mem _ hw))
      have hStep := readItems_comma hHere (hFits v (List.mem_cons_self ..)) hSkip depth
        (spare + items.length + 1)
      rw [hMore] at hStep
      exact hStep

theorem length_le_length_itemLines (items : List Value) : items.length ≤ (itemLines items).length := by
  induction items with
  | nil => exact Nat.le_refl _
  | cons v items ih =>
      rw [itemLines, List.flatMap_cons, List.length_append]
      simp [itemLines] at ih ⊢
      omega

theorem writeValue_list_of_two (v w : Value) (items : List Value) :
    writeValue (.list (v :: w :: items)) = '[' :: '\n' :: itemLines (v :: w :: items) ++ [']'] := by
  simp [writeValue_list, bracketed, itemLines, List.flatMap_map]

/-- What is written for a list after its opening bracket reads back as the items. -/
theorem readItems_writeValue {items : List Value} (hItems : ∀ v ∈ items, Scalar v)
    (hFits : ∀ v ∈ items, fits v = true) (depth : Nat) {fuel : Nat}
    (hFuel : (writeValue (.list items)).length ≤ fuel) (rest : List Char) :
    ∃ text, writeValue (.list items) = '[' :: text ∧
      readItems depth fuel (text ++ rest) = some (items, rest) := by
  match items with
  | [] =>
      obtain ⟨spare, rfl⟩ := Nat.exists_eq_add_of_le' hFuel
      exact ⟨[']'], writeValue_list [], readItems_end (skipLines_bracket _ rest) depth _⟩
  | [v] =>
      have hHere := hItems v (List.mem_cons_self ..)
      obtain ⟨c, text, hText, hHead⟩ := hHere.eq_cons
      have hWritten : writeValue (.list [v]) = '[' :: (writeValue v ++ [']']) := by
        simp [writeValue_list, bracketed]
      obtain ⟨spare, rfl⟩ : ∃ spare, fuel = spare + 2 := ⟨fuel - 2, by simp [hWritten] at hFuel; omega⟩
      refine ⟨writeValue v ++ [']'], hWritten, ?_⟩
      rw [List.append_assoc]
      refine readItems_last hHere (hFits v (List.mem_cons_self ..)) ?_ depth spare
      rw [hText, List.cons_append]
      have hGap := hHead.not_gap
      exact skipLines_of_head hGap.1 ⟨hGap.2.1, hGap.2.2.1, hGap.2.2.2.1⟩ _ _
  | v :: w :: items =>
      have hWritten := writeValue_list_of_two v w items
      have hLong := length_le_length_itemLines (v :: w :: items)
      rw [hWritten, List.length_append, List.length_cons, List.length_cons, List.length_singleton] at hFuel
      obtain ⟨spare, rfl⟩ : ∃ spare, fuel = spare + (v :: w :: items).length + 2 :=
        ⟨fuel - ((v :: w :: items).length + 2), by omega⟩
      refine ⟨'\n' :: itemLines (v :: w :: items) ++ [']'], hWritten, ?_⟩
      simpa using readItems_itemLines hItems hFits depth spare rest

/-- What is written for a value in a line reads back as the value. -/
theorem readValue_plain {v : Value} (h : Plain v) (hFits : fits v = true) {depth fuel : Nat}
    (hDepth : depth + 1 < depthLimit) {rest : List Char} (hRest : EndsValue rest)
    (hFuel : (writeValue v).length < fuel) :
    readValue depth fuel (writeValue v ++ rest) = some (v, rest) := by
  obtain ⟨fuel, rfl⟩ : ∃ spare, fuel = spare + 1 := ⟨fuel - 1, by omega⟩
  cases h with
  | scalar hScalar => exact readValue_scalar hScalar hFits depth fuel hRest
  | @list items hItems =>
      have hFit : ∀ v ∈ items, fits v = true := by
        simpa [fits, allFit_eq_all] using hFits
      obtain ⟨text, hText, hRead⟩ := readItems_writeValue hItems hFit (depth + 1) (Nat.le_of_lt_succ hFuel) rest
      rw [hText, List.cons_append]
      exact readValue_list hDepth hRead

/-- No blank stands before what is written for a value. -/
theorem Plain.eq_cons {v : Value} (h : Plain v) :
    ∃ c more, writeValue v = c :: more ∧ isBlank c = false := by
  cases h with
  | scalar hScalar =>
      obtain ⟨c, more, hText, hHead⟩ := hScalar.eq_cons
      exact ⟨c, more, hText, hHead.not_gap.1⟩
  | @list items =>
      match items with
      | [] => exact ⟨'[', [']'], by simp [writeValue_list, bracketed], by decide⟩
      | [v] => exact ⟨'[', writeValue v ++ [']'], by simp [writeValue_list, bracketed], by decide⟩
      | v :: w :: items => exact ⟨'[', _, writeValue_list_of_two v w items, by decide⟩

end Metasearch.Toml
