import Metasearch.Proofs.Toml.Values

/-! The lines of a TOML text: headers, fields and blank lines. Each is read as one step that changes the table
under construction, and steps follow one another to the end of the text. -/
namespace Metasearch.Toml

open Document

/-! Keys -/

/-- A name that needs no quotes as a key. -/
def Bare (name : String) : Prop :=
  name.toList ≠ [] ∧ ∀ c ∈ name.toList, isBareKey c = true

instance (name : String) : Decidable (Bare name) :=
  decidable_of_iff (name.toList ≠ [] ∧ name.toList.all isBareKey = true) (by rw [Bare, List.all_eq_true])

theorem ne_of_isBareKey {c d : Char} (hBare : isBareKey c = true) (hOther : isBareKey d = false) : c ≠ d := by
  rintro rfl
  exact Bool.false_ne_true (hOther.symm.trans hBare)

theorem Bare.eq_cons {name : String} (h : Bare name) :
    ∃ c more, name.toList = c :: more ∧ isBareKey c = true := by
  obtain ⟨c, more, hName⟩ := List.exists_cons_of_ne_nil h.1
  exact ⟨c, more, hName, h.2 c (hName ▸ List.mem_cons_self ..)⟩

theorem isBlank_of_isBareKey {c : Char} (hBare : isBareKey c = true) : isBlank c = false := by
  have hSpace : c ≠ ' ' := ne_of_isBareKey hBare (by decide)
  have hTab : c ≠ '\t' := ne_of_isBareKey hBare (by decide)
  simp [isBlank, hSpace, hTab]

theorem readKeyPart_bare {name : String} (h : Bare name) {d : Char} (hStop : isBareKey d = false)
    (rest : List Char) : readKeyPart (skipBlanks (name.toList ++ d :: rest)) = some (name, d :: rest) := by
  obtain ⟨c, more, hName, hHead⟩ := h.eq_cons
  have hTake : (name.toList ++ d :: rest).takeWhile isBareKey = name.toList := by
    rw [List.takeWhile_append_of_pos h.2]
    simp [hStop]
  have hDrop : (name.toList ++ d :: rest).dropWhile isBareKey = d :: rest := by
    rw [List.dropWhile_append_of_pos h.2]
    simp [hStop]
  have hSkip : skipBlanks (name.toList ++ d :: rest) = name.toList ++ d :: rest := by
    rw [hName, List.cons_append, skipBlanks_cons (isBlank_of_isBareKey hHead)]
  rw [hSkip, readKeyPart]
  · have hFull : name.toList.isEmpty = false := by simp [hName]
    simp only [hTake, hDrop, hFull, String.ofList_toList]
    rfl
  all_goals
    rw [hName, List.cons_append]
    exact fun _ hSame => ne_of_isBareKey hHead (by decide) (List.cons.inj hSame).1

/-- What may follow a key: neither more of the key nor, behind blanks, a further part of it. -/
def EndsKey (rest : List Char) : Prop :=
  (∃ d more, rest = d :: more ∧ isBareKey d = false) ∧ (skipBlanks rest).head? ≠ some '.'

theorem endsKey_bracket (rest : List Char) : EndsKey (']' :: rest) :=
  ⟨⟨']', rest, rfl, by decide⟩, by simp [skipBlanks, isBlank]⟩

theorem endsKey_equals (rest : List Char) : EndsKey (' ' :: '=' :: rest) :=
  ⟨⟨' ', '=' :: rest, rfl, by decide⟩, by simp [skipBlanks, isBlank]⟩

theorem readKeyParts_pathText {path : List String} (hFull : path ≠ []) (hBare : ∀ name ∈ path, Bare name)
    {rest : List Char} (hRest : EndsKey rest) {fuel : Nat} (hFuel : path.length ≤ fuel) :
    readKeyParts fuel (pathText path ++ rest) = some (path, skipBlanks rest) := by
  induction path generalizing fuel with
  | nil => contradiction
  | cons name path ih =>
      have hHere := hBare name (List.mem_cons_self ..)
      obtain ⟨fuel, rfl⟩ := Nat.exists_eq_add_of_le' (Nat.le_trans (Nat.le_add_left 1 path.length) hFuel)
      match path with
      | [] =>
          obtain ⟨⟨d, more, rfl, hStop⟩, hDot⟩ := hRest
          have hText : pathText [name] = name.toList := by simp [pathText]
          simp only [readKeyParts, hText, readKeyPart_bare hHere hStop, Option.bind_eq_bind, Option.bind_some]
          split
          · simp_all
          · rfl
      | next :: path =>
          have hText : pathText (name :: next :: path) ++ rest =
              name.toList ++ '.' :: (pathText (next :: path) ++ rest) := by
            simp [pathText, String.intercalate_cons_cons]
          have hMore := ih (by simp) (fun part hPart => hBare part (List.mem_cons_of_mem _ hPart))
            (Nat.le_of_succ_le_succ hFuel)
          have hDot : skipBlanks ('.' :: (pathText (next :: path) ++ rest)) =
              '.' :: (pathText (next :: path) ++ rest) := skipBlanks_cons (by decide) _
          simp only [readKeyParts, hText, readKeyPart_bare hHere (d := '.') (by decide), hDot, hMore,
            Option.bind_eq_bind, Option.bind_some]
          rfl

theorem length_le_length_pathText {path : List String} (hBare : ∀ name ∈ path, Bare name) :
    path.length ≤ (pathText path).length := by
  induction path with
  | nil => exact Nat.zero_le _
  | cons name path ih =>
      have hHere := List.length_pos_iff.mpr (hBare name (List.mem_cons_self ..)).1
      have hMore := ih fun part hPart => hBare part (List.mem_cons_of_mem _ hPart)
      match path with
      | [] => simpa [pathText] using Nat.succ_le_of_lt hHere
      | next :: path =>
          simp [pathText, String.intercalate_cons_cons] at hHere hMore ⊢
          omega

theorem pathText_eq_cons {path : List String} (hFull : path ≠ []) (hBare : ∀ name ∈ path, Bare name) :
    ∃ c more, pathText path = c :: more ∧ isBareKey c = true := by
  match path with
  | [name] => simpa [pathText] using (hBare name (List.mem_cons_self ..)).eq_cons
  | name :: next :: path =>
      obtain ⟨c, more, hName, hHead⟩ := (hBare name (List.mem_cons_self ..)).eq_cons
      exact ⟨c, more ++ '.' :: pathText (next :: path), by
        simp [pathText, String.intercalate_cons_cons, hName], hHead⟩

/-- The path of a header is read as it is written, and so is the name of a field. -/
theorem readKey_pathText {path : List String} {key : String} (hBare : ∀ name ∈ path ++ [key], Bare name)
    (hDepth : path.length + 1 < depthLimit) {rest : List Char} (hRest : EndsKey rest) :
    readKey (pathText (path ++ [key]) ++ rest) = some ((path, key), skipBlanks rest) := by
  have hLong := length_le_length_pathText hBare
  have hParts := readKeyParts_pathText (by simp) hBare hRest (Nat.le_succ_of_le (Nat.le_trans hLong
    (Nat.le_add_right _ rest.length)))
  rw [readKey, List.length_append, hParts]
  simp [Nat.not_le.mpr hDepth]

theorem endLine_newline (rest : List Char) : endLine ('\n' :: rest) = some rest := by
  simp [endLine, skipBlanks, isBlank]

/-! Steps -/

/-- Reading a text below one header changes one table into another and leaves the lines that follow below a
second header. -/
def Reads (header : List String) (node : Node) (text : List Char) (header' : List String) (node' : Node) :
    Prop :=
  ∀ fuel rest, (text ++ rest).length < fuel → ∃ fuel', rest.length < fuel' ∧
    readLines fuel header node (text ++ rest) = readLines fuel' header' node' rest

namespace Reads

variable {header header' header'' : List String} {node node' node'' : Node} {text text' : List Char}

theorem refl (header : List String) (node : Node) : Reads header node [] header node :=
  fun fuel _ hFuel => ⟨fuel, hFuel, rfl⟩

theorem trans (h : Reads header node text header' node') (h' : Reads header' node' text' header'' node'') :
    Reads header node (text ++ text') header'' node'' := by
  intro fuel rest hFuel
  rw [List.append_assoc] at hFuel ⊢
  obtain ⟨fuel', hFuel', hFirst⟩ := h fuel (text' ++ rest) hFuel
  obtain ⟨fuel'', hFuel'', hSecond⟩ := h' fuel' rest hFuel'
  exact ⟨fuel'', hFuel'', hFirst.trans hSecond⟩

/-- At the end of a text nothing is left to be changed. -/
theorem readLines_eq (h : Reads header node text header' node') {fuel : Nat} (hFuel : text.length < fuel) :
    readLines fuel header node text = some node' := by
  obtain ⟨fuel', hFuel', hRead⟩ := h fuel [] (by simpa using hFuel)
  obtain ⟨fuel', rfl⟩ := Nat.exists_eq_add_of_lt hFuel'
  rw [List.append_nil] at hRead
  rw [hRead, readLines]
  rfl

/-- A line that is read at once. -/
theorem of_line (hFull : text ≠ [])
    (h : ∀ fuel rest, readLines (fuel + 1) header node (text ++ rest) = readLines fuel header' node' rest) :
    Reads header node text header' node' := by
  intro fuel rest hFuel
  have hText := List.length_pos_iff.mpr hFull
  rw [List.length_append] at hFuel
  obtain ⟨fuel, rfl⟩ := Nat.exists_eq_add_of_lt hFuel
  exact ⟨text.length + rest.length + fuel, by omega, h _ rest⟩

theorem blank (header : List String) (node : Node) : Reads header node ['\n'] header node :=
  of_line (by simp) fun fuel rest => by simp [readLines, skipBlanks, isBlank]

/-- The line of a plain field sets the field in the table of the header. -/
theorem field {name : String} (hBare : Bare name) {v : Value} (hPlain : Plain v) (hFits : fits v = true)
    (hSet : node.setFieldIn header [] name v = some node') :
    Reads header node (name.toList ++ " = ".toList ++ writeValue v ++ ['\n']) header node' := by
  refine of_line (by simp) fun fuel rest => ?_
  obtain ⟨c, more, hName, hHead⟩ := hBare.eq_cons
  obtain ⟨d, value, hValue, hGap⟩ := hPlain.eq_cons
  have hKey : readKey (name.toList ++ ' ' :: '=' :: ' ' :: (writeValue v ++ '\n' :: rest)) =
      some (([], name), '=' :: ' ' :: (writeValue v ++ '\n' :: rest)) := by
    have hRead : readKey (pathText ([] ++ [name]) ++ ' ' :: '=' :: ' ' :: (writeValue v ++ '\n' :: rest)) = _ :=
      readKey_pathText (by simpa using hBare) (by decide) (endsKey_equals _)
    simpa [pathText, skipBlanks, isBlank] using hRead
  have hRead : readValue 0 ((writeValue v).length + (rest.length + 1) + 1) (writeValue v ++ '\n' :: rest) =
      some (v, '\n' :: rest) :=
    readValue_plain hPlain hFits (by decide) (endsValue_newline rest) (by omega)
  have hLine : name.toList ++ " = ".toList ++ writeValue v ++ ['\n'] ++ rest =
      name.toList ++ ' ' :: '=' :: ' ' :: (writeValue v ++ '\n' :: rest) := by simp
  have hSkip : skipBlanks (' ' :: (writeValue v ++ '\n' :: rest)) = writeValue v ++ '\n' :: rest := by
    simp [skipBlanks, hValue, hGap, isBlank.eq_def ' ']
  have hNe {e : Char} (hOther : isBareKey e = false) : c ≠ e := ne_of_isBareKey hHead hOther
  have hStart : skipBlanks (name.toList ++ ' ' :: '=' :: ' ' :: (writeValue v ++ '\n' :: rest)) =
      name.toList ++ ' ' :: '=' :: ' ' :: (writeValue v ++ '\n' :: rest) := by
    rw [hName, List.cons_append, skipBlanks_cons (isBlank_of_isBareKey hHead)]
  rw [hLine, readLines, hStart]
  split
  case h_7 =>
    simp [hKey, after, hSkip, hRead, endLine_newline, hSet]
  all_goals
    rename_i hSame
    rw [hName] at hSame
    first
    | exact absurd (List.cons.inj hSame).1 (hNe (by decide))
    | exact absurd hSame (List.cons_ne_nil _ _)

/-- The header of a table opens it. -/
theorem table {path : List String} {key : String} (hBare : ∀ name ∈ path ++ [key], Bare name)
    (hDepth : path.length + 1 < depthLimit) (hOpen : node.openTable path key = some node') :
    Reads header node ('[' :: pathText (path ++ [key]) ++ [']', '\n']) (path ++ [key]) node' := by
  refine of_line (by simp) fun fuel rest => ?_
  have hKey := readKey_pathText hBare hDepth (endsKey_bracket ('\n' :: rest))
  have hEnd : skipBlanks (']' :: '\n' :: rest) = ']' :: '\n' :: rest := skipBlanks_cons (by decide) _
  obtain ⟨c, more, hPath, hHead⟩ := pathText_eq_cons (by simp) hBare
  have hOther : c ≠ '[' := ne_of_isBareKey hHead (by decide)
  have hStart : skipBlanks ('[' :: (pathText (path ++ [key]) ++ ']' :: '\n' :: rest)) =
      '[' :: (pathText (path ++ [key]) ++ ']' :: '\n' :: rest) := skipBlanks_cons (by decide) _
  have hLine : '[' :: pathText (path ++ [key]) ++ [']', '\n'] ++ rest =
      '[' :: (pathText (path ++ [key]) ++ ']' :: '\n' :: rest) := by simp
  rw [hLine, readLines, hStart]
  rw [hPath, List.cons_append] at hKey ⊢
  simp [hKey, hEnd, hOther, after, endLine_newline, hOpen]

/-- The header of a further table of a list opens that table. -/
theorem item {path : List String} {key : String} (hBare : ∀ name ∈ path ++ [key], Bare name)
    (hDepth : path.length + 1 < depthLimit) (hOpen : node.openItem path key = some node') :
    Reads header node ('[' :: '[' :: pathText (path ++ [key]) ++ [']', ']', '\n']) (path ++ [key]) node' := by
  refine of_line (by simp) fun fuel rest => ?_
  have hKey := readKey_pathText hBare hDepth (endsKey_bracket (']' :: '\n' :: rest))
  have hEnd : skipBlanks (']' :: ']' :: '\n' :: rest) = ']' :: ']' :: '\n' :: rest :=
    skipBlanks_cons (by decide) _
  have hStart : skipBlanks ('[' :: '[' :: (pathText (path ++ [key]) ++ ']' :: ']' :: '\n' :: rest)) =
      '[' :: '[' :: (pathText (path ++ [key]) ++ ']' :: ']' :: '\n' :: rest) :=
    skipBlanks_cons (by decide) _
  have hLine : '[' :: '[' :: pathText (path ++ [key]) ++ [']', ']', '\n'] ++ rest =
      '[' :: '[' :: (pathText (path ++ [key]) ++ ']' :: ']' :: '\n' :: rest) := by simp
  rw [hLine, readLines, hStart]
  simp [hKey, hEnd, after, endLine_newline, hOpen]

end Reads

end Metasearch.Toml
