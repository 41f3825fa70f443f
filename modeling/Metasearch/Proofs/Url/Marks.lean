import Metasearch.Proofs.Url.Authority

/-! Each step in which an authority is read leaves the mark that ends the authority, and what is behind it, for
the next step. So the authority of a URL is the same whatever path and query it has. -/
namespace Metasearch.Url

open Text

variable {kind : SchemeKind} {mark : Char}

theorem endsAuthority_cases (h : endsAuthority kind mark = true) :
    mark = '/' ∨ mark = '?' ∨ mark = '#' ∨ mark = '\\' := by
  simp only [endsAuthority, Bool.or_eq_true, Bool.and_eq_true, beq_iff_eq] at h
  rcases h with ((hSlash | hQuestion) | hNumber) | ⟨-, hBackslash⟩
  · exact Or.inl hSlash
  · exact Or.inr (Or.inl hQuestion)
  · exact Or.inr (Or.inr (Or.inl hNumber))
  · exact Or.inr (Or.inr (Or.inr hBackslash))

theorem cutAtLastAt_subset {text credentials after : List Char}
    (h : cutAtLastAt text = some (credentials, after)) : after ⊆ text := by
  unfold cutAtLastAt at h
  split at h
  · cases h
    intro c hc
    exact List.mem_reverse.mp ((List.takeWhile_sublist _).subset (List.mem_reverse.mp hc))
  · cases h

section Mark

variable (hMark : endsAuthority kind mark = true) (text : List Char)
include hMark

theorem takeCredentials_mark : ∃ cut, (∀ entry ∈ cut, entry.2 ⊆ text) ∧ ∀ rest,
    takeCredentials kind (text ++ mark :: rest) =
      Option.map (fun (credentials, after) => (credentials, after ++ mark :: rest)) cut := by
  have hStop : (!endsAuthority kind mark) = false := by rw [hMark]; rfl
  have hRegion : ∀ rest, (text ++ mark :: rest).takeWhile (!endsAuthority kind ·) =
      text.takeWhile (!endsAuthority kind ·) := fun rest => takeWhile_append_stop hStop _ _
  have hFollowing : ∀ rest, (text ++ mark :: rest).dropWhile (!endsAuthority kind ·) =
      text.dropWhile (!endsAuthority kind ·) ++ mark :: rest := fun rest => dropWhile_append_stop hStop _ _
  simp only [takeCredentials, hRegion, hFollowing]
  cases hCut : cutAtLastAt (text.takeWhile (!endsAuthority kind ·)) with
  | none => exact ⟨some (_, text), by simp, fun rest => rfl⟩
  | some cut =>
      obtain ⟨credentials, after⟩ := cut
      have hSubset : after ++ text.dropWhile (!endsAuthority kind ·) ⊆ text :=
        List.append_subset.mpr ⟨List.Subset.trans (cutAtLastAt_subset hCut) (List.takeWhile_sublist _).subset,
          (List.dropWhile_sublist _).subset⟩
      by_cases hCredentials : credentials = []
      · by_cases hAfter : after = []
        · exact ⟨none, by simp, fun rest => by simp [hCredentials, hAfter]⟩
        · refine ⟨some (([], none), after ++ text.dropWhile (!endsAuthority kind ·)), by simpa using hSubset,
            fun rest => ?_⟩
          simp [hCredentials, hAfter]
      · simp only [List.isEmpty_iff, hCredentials, if_false, ← List.append_assoc]
        exact ⟨some (_, after ++ text.dropWhile (!endsAuthority kind ·)), by simpa using hSubset,
          fun rest => rfl⟩

theorem takeHost_mark (inBrackets : Bool) (rest : List Char) :
    takeHost kind inBrackets (text ++ mark :: rest) =
      ((takeHost kind inBrackets text).1, (takeHost kind inBrackets text).2 ++ mark :: rest) := by
  induction text generalizing inBrackets with
  | nil => simp [takeHost, hMark]
  | cons c more ih =>
      simp only [List.cons_append, takeHost, ih]
      split <;> rfl

theorem takePort_mark (rest : List Char) :
    takePort kind (text ++ mark :: rest) =
      (takePort kind text).map fun (port, after) => (port, after ++ mark :: rest) := by
  have hCases := endsAuthority_cases hMark
  have hStop : Host.isDecimal mark = false := by
    rcases hCases with rfl | rfl | rfl | rfl <;> decide
  cases text with
  | nil => rcases hCases with rfl | rfl | rfl | rfl <;> rfl
  | cons c digits =>
      by_cases hColon : c = ':'
      · subst hColon
        simp only [List.cons_append, takePort, takeWhile_append_stop hStop, dropWhile_append_stop hStop]
        split
        · rfl
        · cases digits.dropWhile Host.isDecimal with
          | nil =>
              have hEnds : (mark == '/' || mark == '\\' || mark == '?' || mark == '#') = true := by
                rcases hCases with rfl | rfl | rfl | rfl <;> rfl
              simp [hEnds]
          | cons c rest => split <;> simp_all
      · simp [takePort, hColon]

end Mark

/-- Where no mark ends a host nothing or a port follows it. -/
theorem takeHost_unmarked {text : List Char} (hText : ∀ c ∈ text, endsAuthority kind c = false)
    (inBrackets : Bool) :
    ((takeHost kind inBrackets text).2 = [] ∨ ∃ digits, (takeHost kind inBrackets text).2 = ':' :: digits) ∧
      (takeHost kind inBrackets text).2 ⊆ text := by
  induction text generalizing inBrackets with
  | nil => exact ⟨Or.inl rfl, List.Subset.refl _⟩
  | cons c rest ih =>
      obtain ⟨hFirst, hRest⟩ := List.forall_mem_cons.mp hText
      obtain ⟨hHead, hSubset⟩ := ih hRest (c == '[' || (inBrackets && c != ']'))
      rw [takeHost]
      split
      · rename_i hStop
        rw [hFirst, Bool.or_false, Bool.and_eq_true, beq_iff_eq] at hStop
        exact ⟨Or.inr ⟨rest, congrArg (· :: rest) hStop.1⟩, List.Subset.refl _⟩
      · exact ⟨hHead, List.Subset.trans hSubset (List.subset_cons_self _ _)⟩

/-- A port that no mark ends is the end of its text. -/
theorem takePort_unmarked {text rest : List Char} {port : Option Nat} (hText : ∀ c ∈ text, AuthorityChar c)
    (hHead : text = [] ∨ ∃ digits, text = ':' :: digits) (h : takePort kind text = some (port, rest)) :
    rest = [] := by
  rcases hHead with rfl | ⟨digits, rfl⟩
  · cases h
    rfl
  · simp only [takePort] at h
    split at h
    · cases h
    · split at h
      · cases h
        rfl
      · rename_i c more hAfter
        split at h
        · rename_i hEnds
          have hMem : c ∈ digits := by
            have hFirst : c ∈ digits.dropWhile Host.isDecimal := hAfter ▸ List.mem_cons_self ..
            exact (List.dropWhile_sublist _).subset hFirst
          have hInside := (hText c (List.mem_cons_of_mem _ hMem)).2
          simp only [endsAuthority, SchemeKind.isSpecial, Bool.or_eq_false_iff, beq_eq_false_iff_ne,
            Bool.true_and] at hInside
          simp [hInside] at hEnds
        · cases h

/-- With another path and another query an authority is read as before. -/
theorem readAuthority_slash {scheme text below : List Char} {port : Nat} {url : Url}
    (hText : ∀ c ∈ text, AuthorityChar c)
    (h : readAuthority scheme (.network port) (text ++ '/' :: below) = some url) (other : List Char) :
    readAuthority scheme (.network port) (text ++ '/' :: other) = some { url with
      path := readPath (.network port) (('/' :: other).takeWhile (!endsPath ·))
      query := takeQuery (.network port) (('/' :: other).dropWhile (!endsPath ·)) } := by
  have hMark : endsAuthority (.network port) '/' = true := by simp [endsAuthority]
  have hUnmarked : ∀ {part}, part ⊆ text → ∀ c ∈ part, endsAuthority (.network port) c = false :=
    fun hPart c hc => (hText c (hPart hc)).2
  obtain ⟨cut, hSubset, hCut⟩ := takeCredentials_mark hMark text
  simp only [readAuthority, hCut, Option.bind_eq_bind] at h ⊢
  cases cut with
  | none => cases h
  | some cut =>
      obtain ⟨⟨user, password⟩, rest⟩ := cut
      have hRest : rest ⊆ text := hSubset _ rfl
      obtain ⟨hHead, hAfter⟩ := takeHost_unmarked (hUnmarked hRest) false
      simp only [Option.map_some, Option.bind_some, takeHost_mark hMark, takePort_mark hMark,
        SchemeKind.isSpecial, Bool.true_or, Bool.and_true, if_true] at h ⊢
      split at h
      · cases h
      · rename_i hHost
        rw [if_neg hHost]
        obtain ⟨host, hParsed, h⟩ := Option.bind_eq_some_iff.mp h
        obtain ⟨⟨number, more⟩, hPort, h⟩ := Option.bind_eq_some_iff.mp h
        obtain ⟨⟨number', after⟩, hTaken, hSame⟩ := Option.map_eq_some_iff.mp hPort
        cases hSame
        obtain rfl := takePort_unmarked (fun c hc => hText c (hRest (hAfter hc))) hHead hTaken
        simp only [hParsed, hTaken, Option.bind_some, Option.map_some]
        split at h
        · cases h
        · rename_i hCredentials
          rw [if_neg hCredentials]
          cases h
          rfl

end Metasearch.Url
