import Metasearch.Toml.Printer
import Metasearch.Toml.Quoted

/-! Quoted texts of TOML. Whatever form a text is written in, reading gives it back. -/
namespace Metasearch.Toml

theorem isPlain_of_not_isControl {c : Char} (h : isControl c = false) (hLine : c ≠ '\n') :
    isPlain c = true := by
  simp [isControl, isPlain] at *
  grind

/-- A control character has a number of two hexadecimal digits, which lead back to it. -/
theorem escape?_control {c : Char} (h : isControl c = true) (rest : List Char) :
    escape? ('u' :: '0' :: '0' :: upperHexDigit (c.toNat / 16) :: upperHexDigit (c.toNat % 16) :: rest) =
      some (c, 5) := by
  have hDigits : ∀ n : Fin 128, hexEscape? 4 ['0', '0', upperHexDigit (n.val / 16),
      upperHexDigit (n.val % 16)] = some (Char.ofNat n.val) := by decide
  have hSmall : c.toNat < 128 := by
    simp [isControl] at h
    grind
  have hThis := hDigits ⟨c.toNat, hSmall⟩
  simp only [Char.ofNat_toNat] at hThis
  simpa [escape?, hexEscape?] using hThis

/-! The readers, one character at a time -/

theorem readBasic_skip (passed rest : List Char) :
    readBasic passed.length (passed ++ rest) = readBasic 0 rest := by
  induction passed with
  | nil => rfl
  | cons c passed ih => simpa [readBasic] using ih

theorem readBasicLines_newline (rest : List Char) :
    readBasicLines .nothing ('\n' :: rest) = prepend '\n' (readBasicLines .nothing rest) := rfl

theorem readBasicLines_backslash {rest : List Char} (hText : endsLine rest = false) {c : Char} {length : Nat}
    (hEscape : escape? rest = some (c, length)) :
    readBasicLines .nothing ('\\' :: rest) = prepend c (readBasicLines (.characters length) rest) := by
  refine (if_neg (Bool.eq_false_iff.mp hText)).trans ?_
  rw [hEscape]

theorem readBasicLines_skip (passed rest : List Char) :
    readBasicLines (.characters passed.length) (passed ++ rest) = readBasicLines .nothing rest := by
  induction passed with
  | nil =>
      rw [List.nil_append, List.length_nil]
      unfold readBasicLines
      split <;> simp_all
  | cons c passed ih => exact ih

/-- A character stands for itself if it is no backslash; a quote, if two others do not follow it. -/
theorem readBasicLines_itself {c : Char} (hPlain : isPlain c = true ∨ c = '\n') (hSlash : c ≠ '\\')
    {rest : List Char} (hQuote : c = '"' → ¬['"', '"'] <+: rest) :
    readBasicLines .nothing (c :: rest) = prepend c (readBasicLines .nothing rest) := by
  by_cases hLine : c = '\n'
  · rw [hLine, readBasicLines_newline]
  · have hReturn : c ≠ '\r' := by rintro rfl; simp [isPlain] at hPlain
    have hThis := hPlain.resolve_right hLine
    rw [readBasicLines]
    all_goals grind

theorem readLiteralLines_char {c : Char} (hPlain : isPlain c = true ∨ c = '\n') {rest : List Char}
    (hQuote : c = '\'' → ¬['\'', '\''] <+: rest) :
    readLiteralLines (c :: rest) = prepend c (readLiteralLines rest) := by
  by_cases hLine : c = '\n'
  · simp [hLine, readLiteralLines]
  · have hReturn : c ≠ '\r' := by rintro rfl; simp [isPlain] at hPlain
    have hThis := hPlain.resolve_right hLine
    rw [readLiteralLines]
    all_goals grind

theorem readQuoted_quotes (rest : List Char) :
    readQuoted ('"' :: '"' :: '"' :: rest) = readBasicLines .nothing (dropLineEnd rest) := rfl

theorem readQuoted_apostrophes (rest : List Char) :
    readQuoted ('\'' :: '\'' :: '\'' :: rest) = readLiteralLines (dropLineEnd rest) := rfl

/-! Escapes -/

/-- How a character can stand in a basic text: as itself, or as an escape. -/
inductive Written (c : Char) : List Char → Prop where
  | itself (hPlain : isPlain c = true) (hQuote : c ≠ '"') (hSlash : c ≠ '\\') : Written c [c]
  | escaped {mark : Char} {more : List Char} (hBlank : isBlank mark = false) (hLine : mark ≠ '\n')
    (hReturn : mark ≠ '\r')
    (hEscape : ∀ rest, escape? (mark :: more ++ rest) = some (c, more.length + 1)) :
    Written c ('\\' :: mark :: more)

theorem written_escapeChar {c : Char} (hQuote : c ≠ '"') (hLine : c ≠ '\n') :
    Written c (escapeChar c) := by
  unfold escapeChar
  split
  case h_6 hBack hTab hFeed hReturn hSlash =>
    split
    case isTrue hControl =>
      exact .escaped (by decide) (by decide) (by decide) (escape?_control hControl)
    case isFalse hControl =>
      exact .itself (isPlain_of_not_isControl (by simpa using hControl) hLine) hQuote hSlash
  all_goals exact .escaped (by decide) (by decide) (by decide) (fun _ => rfl)

theorem written_quote : Written '"' ['\\', '"'] :=
  .escaped (by decide) (by decide) (by decide) fun _ => rfl

theorem written_newline : Written '\n' ['\\', 'n'] :=
  .escaped (by decide) (by decide) (by decide) fun _ => rfl

/-- A character as it stands in a basic text begins with something that ends neither the text nor the
line. -/
theorem Written.eq_cons {c : Char} {piece : List Char} (h : Written c piece) :
    ∃ d more, piece = d :: more ∧ d ≠ '"' ∧ d ≠ '\n' ∧ d ≠ '\r' := by
  cases h with
  | itself hPlain hQuote hSlash =>
      refine ⟨c, [], rfl, hQuote, ?_, ?_⟩ <;> rintro rfl <;> simp [isPlain] at hPlain
  | escaped => exact ⟨'\\', _, rfl, by decide, by decide, by decide⟩

/-! One line -/

theorem Written.readBasic {c : Char} {piece : List Char} (h : Written c piece) (rest : List Char) :
    readBasic 0 (piece ++ rest) = prepend c (readBasic 0 rest) := by
  cases h with
  | itself hPlain hQuote hSlash =>
      rw [List.singleton_append, Toml.readBasic]
      · simp [hPlain]
      · exact hQuote
      · exact hSlash
  | @escaped mark more _ _ _ hEscape =>
      have hRead := hEscape rest
      rw [List.cons_append] at hRead
      simp [Toml.readBasic, hRead, readBasic_skip]

theorem escapeLine_cons (c : Char) (cs : List Char) :
    ∃ piece, Written c piece ∧ escapeLine (c :: cs) = piece ++ escapeLine cs := by
  simp only [escapeLine, List.flatMap_cons]
  refine ⟨_, ?_, rfl⟩
  split
  case isTrue hQuote => exact hQuote ▸ written_quote
  case isFalse hQuote =>
    split
    case isTrue hLine => exact hLine ▸ written_newline
    case isFalse hLine => exact written_escapeChar hQuote hLine

theorem readBasic_escapeLine (cs rest : List Char) :
    readBasic 0 (escapeLine cs ++ '"' :: rest) = some (cs, rest) := by
  induction cs with
  | nil => rfl
  | cons c cs ih =>
      obtain ⟨piece, hWritten, hPiece⟩ := escapeLine_cons c cs
      rw [hPiece, List.append_assoc, hWritten.readBasic, ih, prepend]

theorem readLiteral_append {cs : List Char} (hPlain : ∀ c ∈ cs, isPlain c = true)
    (hQuote : '\'' ∉ cs) (rest : List Char) : readLiteral (cs ++ '\'' :: rest) = some (cs, rest) := by
  induction cs with
  | nil => rfl
  | cons c cs ih =>
      have hTail := ih (fun d hd => hPlain d (List.mem_cons_of_mem _ hd))
        fun hMem => hQuote (List.mem_cons_of_mem _ hMem)
      rw [List.cons_append, readLiteral]
      · simp [hPlain c (List.mem_cons_self ..), hTail, prepend]
      · rintro rfl
        exact hQuote (List.mem_cons_self ..)

/-! Several lines -/

theorem Written.readBasicLines {c : Char} {piece : List Char} (h : Written c piece) (rest : List Char) :
    readBasicLines .nothing (piece ++ rest) = prepend c (readBasicLines .nothing rest) := by
  cases h with
  | itself hPlain hQuote hSlash =>
      exact readBasicLines_itself (.inl hPlain) hSlash fun hSame => absurd hSame hQuote
  | @escaped mark more hBlank hLine hReturn hEscape =>
      have hRead := hEscape rest
      rw [List.cons_append] at hRead
      have hEnd : endsLine (mark :: (more ++ rest)) = false := by
        simp [endsLine, hBlank, hLine, hReturn]
      rw [List.cons_append, List.cons_append, readBasicLines_backslash hEnd hRead]
      exact congrArg (prepend c) (readBasicLines_skip (mark :: more) rest)

theorem escapeLines_quote (quotes : Nat) (cs : List Char) : escapeLines quotes ('"' :: cs) =
    if quotes = 2 then '\\' :: '"' :: escapeLines 0 cs else '"' :: escapeLines (quotes + 1) cs := rfl

theorem escapeLines_cons (quotes : Nat) {c : Char} (hQuote : c ≠ '"') (cs : List Char) :
    ∃ piece, (Written c piece ∨ c = '\n' ∧ piece = ['\n']) ∧
      escapeLines quotes (c :: cs) = piece ++ escapeLines 0 cs := by
  by_cases hLine : c = '\n'
  · exact ⟨['\n'], .inr ⟨hLine, rfl⟩, by simp [hLine, escapeLines]⟩
  · refine ⟨escapeChar c, .inl (written_escapeChar hQuote hLine), ?_⟩
    rw [escapeLines] <;> simp_all

/-- A quote is written as itself only where a quote of the text stands and fewer than two quotes are
before it. -/
theorem escapeLines_eq_cons (quotes : Nat) (c : Char) (cs : List Char) (h : c ≠ '"' ∨ quotes = 2) :
    ∃ d more, escapeLines quotes (c :: cs) = d :: more ∧ d ≠ '"' := by
  by_cases hQuote : c = '"'
  · refine ⟨'\\', '"' :: escapeLines 0 cs, ?_, by decide⟩
    rw [hQuote, escapeLines_quote, if_pos (h.resolve_left (· hQuote))]
  · obtain ⟨piece, hPiece, hLines⟩ := escapeLines_cons quotes hQuote cs
    rcases hPiece with hWritten | ⟨-, rfl⟩
    · obtain ⟨d, more, rfl, hHead, -⟩ := hWritten.eq_cons
      exact ⟨d, more ++ escapeLines 0 cs, hLines, hHead⟩
    · exact ⟨'\n', escapeLines 0 cs, hLines, by decide⟩

/-- Two quotes follow a quote of a text only at its end. -/
theorem eq_of_quotes_prefix {cs rest : List Char} {quotes : Nat} (hQuotes : quotes < 2)
    (h : ['"', '"'] <+: escapeLines (quotes + 1) cs ++ rest) : cs = [] ∨ cs = ['"'] ∧ quotes = 0 := by
  match cs with
  | [] => exact .inl rfl
  | c :: cs =>
      by_cases hHead : c ≠ '"' ∨ quotes + 1 = 2
      · obtain ⟨d, more, hLines, hOther⟩ := escapeLines_eq_cons _ c cs hHead
        simp [hLines, hOther.symm] at h
      · obtain ⟨rfl, hNone⟩ : c = '"' ∧ quotes = 0 := by grind
        match cs with
        | [] => exact .inr ⟨rfl, hNone⟩
        | e :: cs =>
            obtain ⟨d, more, hLines, hOther⟩ := escapeLines_eq_cons 2 e cs (.inr rfl)
            simp [hNone, escapeLines_quote, hLines, hOther.symm] at h

section Closing

variable {rest : List Char} (hRest : rest.head? ≠ some '"')
include hRest

/-- Of the quotes at the end, the last three close the text. -/
theorem readBasicLines_closing :
    readBasicLines .nothing ('"' :: '"' :: '"' :: rest) = some ([], rest) ∧
    readBasicLines .nothing ('"' :: '"' :: '"' :: '"' :: rest) = some (['"'], rest) ∧
    readBasicLines .nothing ('"' :: '"' :: '"' :: '"' :: '"' :: rest) = some (['"', '"'], rest) := by
  refine ⟨?_, ?_, ?_⟩
  · rw [readBasicLines] <;> grind
  · rw [readBasicLines] <;> grind
  · rfl

/-- Up to two quotes in a row have been written before what is written now. -/
theorem readBasicLines_escapeLines (cs : List Char) (quotes : Nat) (hQuotes : quotes ≤ 2) :
    readBasicLines .nothing (escapeLines quotes cs ++ '"' :: '"' :: '"' :: rest) = some (cs, rest) := by
  induction cs generalizing quotes with
  | nil => exact (readBasicLines_closing hRest).1
  | cons c cs ih =>
      by_cases hQuote : c = '"'
      · subst hQuote
        by_cases hLast : quotes = 2
        · rw [escapeLines_quote, if_pos hLast]
          have hRead := written_quote.readBasicLines (escapeLines 0 cs ++ '"' :: '"' :: '"' :: rest)
          simpa [ih 0, prepend] using hRead
        · have hMore := ih (quotes + 1) (by omega)
          rw [escapeLines_quote, if_neg hLast, List.cons_append]
          by_cases hNext : ['"', '"'] <+: escapeLines (quotes + 1) cs ++ '"' :: '"' :: '"' :: rest
          · rcases eq_of_quotes_prefix (by omega) hNext with rfl | ⟨rfl, rfl⟩
            · exact (readBasicLines_closing hRest).2.1
            · exact (readBasicLines_closing hRest).2.2
          · rw [readBasicLines_itself (.inl rfl) (by decide) fun _ => hNext, hMore, prepend]
      · obtain ⟨piece, hPiece, hLines⟩ := escapeLines_cons quotes hQuote cs
        rw [hLines, List.append_assoc]
        rcases hPiece with hWritten | ⟨rfl, rfl⟩
        · rw [hWritten.readBasicLines, ih 0 (by omega), prepend]
        · rw [List.singleton_append, readBasicLines_itself (.inr rfl) (by decide) (by simp), ih 0 (by omega),
            prepend]

end Closing

/-! Texts without escapes -/

theorem le_longestRun (c : Char) (current : Nat) (cs : List Char) : current ≤ longestRun c current cs := by
  induction cs generalizing current with
  | nil => exact Nat.le_refl _
  | cons d cs ih =>
      rw [longestRun]
      split
      · exact Nat.le_of_succ_le (ih _)
      · exact Nat.le_max_left ..

theorem notMem_of_longestRun_eq_zero {c : Char} {cs : List Char} (h : longestRun c 0 cs = 0) : c ∉ cs := by
  induction cs with
  | nil => exact List.not_mem_nil
  | cons d cs ih =>
      rw [longestRun] at h
      split at h
      · have hPositive : 1 ≤ longestRun c (0 + 1) cs := le_longestRun ..
        omega
      · rename_i hOther
        have hTail := ih (by omega)
        simp [hTail, Ne.symm hOther]

/-- Up to two apostrophes in a row have been read before what is read now. -/
theorem readLiteralLines_append {cs : List Char} (hPlain : ∀ c ∈ cs, isPlain c = true ∨ c = '\n')
    {quotes : Nat} (hQuotes : longestRun '\'' quotes cs ≤ 2) {rest : List Char}
    (hRest : rest.head? ≠ some '\'') :
    readLiteralLines (cs ++ '\'' :: '\'' :: '\'' :: rest) = some (cs, rest) := by
  induction cs generalizing quotes with
  | nil =>
      rw [List.nil_append, readLiteralLines] <;> grind
  | cons c cs ih =>
      have hHead := hPlain c (List.mem_cons_self ..)
      have hTail : longestRun '\'' (if c = '\'' then quotes + 1 else 0) cs ≤ 2 := by
        rw [longestRun] at hQuotes
        by_cases hQuote : c = '\''
        · rwa [if_pos hQuote] at hQuotes ⊢
        · rw [if_neg hQuote] at hQuotes ⊢
          omega
      have hMore := ih (fun d hd => hPlain d (List.mem_cons_of_mem _ hd)) hTail
      by_cases hNext : c = '\'' ∧ ['\'', '\''] <+: cs ++ '\'' :: '\'' :: '\'' :: rest
      · obtain ⟨rfl, hPair⟩ := hNext
        match cs with
        | [] =>
            rw [List.singleton_append, readLiteralLines]
            grind
        | [d] =>
            obtain rfl : '\'' = d := by simpa using hPair
            simp [readLiteralLines]
        | d :: e :: cs =>
            obtain ⟨rfl, rfl⟩ : '\'' = d ∧ '\'' = e := by simpa using hPair
            have hLong := le_longestRun '\'' (quotes + 1 + 1 + 1) cs
            simp only [longestRun, if_true] at hQuotes
            omega
      · rw [List.cons_append, readLiteralLines_char hHead (by simpa using hNext), hMore, prepend]

/-! All forms -/

/-- What follows a text must not be taken for a part of its end. -/
def EndsText (rest : List Char) : Prop :=
  rest.head? ≠ some '"' ∧ rest.head? ≠ some '\''

theorem dropLineEnd_of_head {c : Char} (hLine : c ≠ '\n') (hReturn : c ≠ '\r') (rest : List Char) :
    dropLineEnd (c :: rest) = c :: rest := by
  unfold dropLineEnd
  split <;> simp_all

theorem readQuoted_basic (cs : List Char) {rest : List Char} (hRest : EndsText rest) :
    readQuoted ('"' :: (escapeLine cs ++ '"' :: rest)) = some (cs, rest) := by
  rw [readQuoted, readBasic_escapeLine]
  intro more hMore
  match cs with
  | [] =>
    simp [escapeLine] at hMore
    simp [EndsText, hMore] at hRest
  | c :: cs =>
    obtain ⟨piece, hWritten, hPiece⟩ := escapeLine_cons c cs
    obtain ⟨d, tail, rfl, hHead, -⟩ := hWritten.eq_cons
    simp [hPiece, hHead] at hMore

theorem readQuoted_literal {cs : List Char} (hPlain : ∀ c ∈ cs, isPlain c = true) (hQuote : '\'' ∉ cs)
    (hFull : cs ≠ []) (rest : List Char) :
    readQuoted ('\'' :: (cs ++ '\'' :: rest)) = some (cs, rest) := by
  rw [readQuoted, readLiteral_append hPlain hQuote]
  intro more hMore
  cases cs with
  | nil => exact hFull rfl
  | cons c cs =>
    obtain rfl : c = '\'' := (List.cons.inj hMore).1
    exact hQuote (List.mem_cons_self ..)

/-- A text that does not begin with a new line is not taken for one that does. -/
theorem dropLineEnd_escapeLines {cs : List Char} (hLine : '\n' ∉ cs) (rest : List Char) :
    dropLineEnd (escapeLines 0 cs ++ '"' :: rest) = escapeLines 0 cs ++ '"' :: rest := by
  match cs with
  | [] => exact dropLineEnd_of_head (by decide) (by decide) rest
  | c :: cs =>
    by_cases hQuote : c = '"'
    · rw [hQuote, escapeLines_quote, if_neg (by decide)]
      exact dropLineEnd_of_head (by decide) (by decide) _
    · obtain ⟨piece, hWritten | ⟨rfl, -⟩, hPiece⟩ := escapeLines_cons 0 hQuote cs
      · obtain ⟨d, more, rfl, -, hOther⟩ := hWritten.eq_cons
        rw [hPiece]
        exact dropLineEnd_of_head hOther.1 hOther.2 _
      · exact absurd (List.mem_cons_self ..) hLine

theorem readQuoted_basicLines {cs rest : List Char} (hRest : EndsText rest) :
    readQuoted (['"', '"', '"'] ++ (if cs.contains '\n' then ['\n'] else []) ++ escapeLines 0 cs ++
      '"' :: '"' :: '"' :: rest) = some (cs, rest) := by
  have hRead := readBasicLines_escapeLines hRest.1 cs 0 (by omega)
  simp only [List.cons_append, List.nil_append, List.append_assoc, readQuoted_quotes]
  split
  case isTrue => exact hRead
  case isFalse hLine =>
    rw [List.nil_append, dropLineEnd_escapeLines (by simpa using hLine), hRead]

theorem readQuoted_literalLines {cs : List Char} (hPlain : ∀ c ∈ cs, isPlain c = true ∨ c = '\n')
    (hRun : longestRun '\'' 0 cs ≤ 2) {rest : List Char} (hRest : EndsText rest) :
    readQuoted (['\'', '\'', '\''] ++ (if cs.contains '\n' then ['\n'] else []) ++ cs ++
      '\'' :: '\'' :: '\'' :: rest) = some (cs, rest) := by
  have hRead := readLiteralLines_append hPlain hRun hRest.2
  simp only [List.cons_append, List.nil_append, List.append_assoc, readQuoted_apostrophes]
  split
  case isTrue => exact hRead
  case isFalse hLine =>
    have hKept : dropLineEnd (cs ++ '\'' :: '\'' :: '\'' :: rest) =
        cs ++ '\'' :: '\'' :: '\'' :: rest := by
      match cs with
      | [] => exact dropLineEnd_of_head (by decide) (by decide) _
      | c :: cs =>
        refine dropLineEnd_of_head ?_ ?_ _
        · rintro rfl
          simp at hLine
        · rintro rfl
          simp [isPlain] at hPlain
    rw [List.nil_append, hKept, hRead]

theorem isPlain_or_newline {cs : List Char} (h : cs.any isControl = false) {c : Char} (hc : c ∈ cs) :
    isPlain c = true ∨ c = '\n' := by
  have hThis : isControl c = false := by simpa using List.any_eq_false.mp h c hc
  by_cases hLine : c = '\n'
  · exact .inr hLine
  · exact .inl (isPlain_of_not_isControl hThis hLine)

/-- A text stands between single apostrophes only if nothing in it has to be escaped there. The empty text
is written between quotes. -/
theorem of_form_literal {cs : List Char} (h : (TextTraits.of cs).form = .literal) :
    cs.any isControl = false ∧ '\n' ∉ cs ∧ '\'' ∉ cs ∧ cs ≠ [] := by
  have hEmpty : cs ≠ [] := by
    rintro rfl
    simp [TextTraits.form, TextTraits.of, longestRun] at h
  have hTraits : cs.any isControl = false ∧ cs.contains '\n' = false ∧ longestRun '\'' 0 cs = 0 := by
    simp only [TextTraits.form, TextTraits.of] at h
    grind
  exact ⟨hTraits.1, by simpa using hTraits.2.1, notMem_of_longestRun_eq_zero hTraits.2.2, hEmpty⟩

theorem of_form_literalLines {cs : List Char} (h : (TextTraits.of cs).form = .literalLines) :
    cs.any isControl = false ∧ longestRun '\'' 0 cs ≤ 2 := by
  simp only [TextTraits.form, TextTraits.of] at h
  grind

/-- A text reads back as it was, whatever stands after it but a quote. -/
theorem readQuoted_writeText (s : String) {rest : List Char} (hRest : EndsText rest) :
    readQuoted (writeText s ++ rest) = some (s.toList, rest) := by
  have hNewline : (TextTraits.of s.toList).newline = s.toList.contains '\n' := rfl
  simp only [writeText, hNewline]
  generalize s.toList = cs
  cases hForm : (TextTraits.of cs).form with
  | basic => simpa using readQuoted_basic cs hRest
  | literal =>
      obtain ⟨hControl, hLine, hQuote, hFull⟩ := of_form_literal hForm
      have hPlain : ∀ c ∈ cs, isPlain c = true := fun c hc =>
        (isPlain_or_newline hControl hc).resolve_right fun hThis => hLine (hThis ▸ hc)
      simpa using readQuoted_literal hPlain hQuote hFull rest
  | basicLines => simpa using readQuoted_basicLines hRest
  | literalLines =>
      obtain ⟨hControl, hRun⟩ := of_form_literalLines hForm
      simpa using readQuoted_literalLines (fun c hc => isPlain_or_newline hControl hc) hRun hRest

theorem writeText_eq_cons (s : String) :
    ∃ more, writeText s = '"' :: more ∨ writeText s = '\'' :: more := by
  rw [writeText]
  cases (TextTraits.of s.toList).form with
  | basic => exact ⟨_, .inl rfl⟩
  | literal => exact ⟨_, .inr rfl⟩
  | basicLines => exact ⟨_, .inl rfl⟩
  | literalLines => exact ⟨_, .inr rfl⟩

end Metasearch.Toml
