import Metasearch.Proofs.Url.Marks
import Metasearch.Url.Normal

/-! What follows the first number sign is no part of a URL. Reading stops there, so each of its steps leaves
the sign and what is behind it for the next one. -/
namespace Metasearch.Url

open Text

variable {kind : SchemeKind} (text : List Char)

theorem cleaned_hash : ∃ kept, ∀ fragment, ∃ rest,
    cleaned (text ++ '#' :: fragment) = kept ++ '#' :: rest := by
  have hStop : (fun c : Char => decide (c.toNat ≤ 0x20)) '#' = false := by decide
  refine ⟨(text.dropWhile fun c => c.toNat ≤ 0x20).filter fun c => c != '\t' && c != '\n' && c != '\r',
    fun fragment => ⟨(dropTailWhile (fun c => c.toNat ≤ 0x20) fragment).filter
      fun c => c != '\t' && c != '\n' && c != '\r', ?_⟩⟩
  rw [cleaned, dropWhile_append_stop hStop, dropTailWhile_append_stop hStop, List.filter_append]
  rfl

theorem takeScheme_hash (fragment : List Char) :
    takeScheme (text ++ '#' :: fragment) =
      (takeScheme text).map fun (scheme, rest) => (scheme, rest ++ '#' :: fragment) := by
  have hStop : isSchemeChar '#' = false := by decide
  cases text with
  | nil => rfl
  | cons first more =>
      simp only [List.cons_append, takeScheme]
      rw [← List.cons_append, takeWhile_append_stop hStop, dropWhile_append_stop hStop]
      split
      · rfl
      · cases List.dropWhile isSchemeChar (first :: more) with
        | nil => rfl
        | cons c rest =>
            by_cases hColon : c = ':'
            · subst hColon
              rfl
            · simp [hColon]

theorem takeQuery_hash (fragment : List Char) :
    takeQuery kind (text ++ '#' :: fragment) = takeQuery kind text := by
  cases text with
  | nil => rfl
  | cons c rest =>
      by_cases hMark : c = '?'
      · subst hMark
        have hQuery : (rest ++ '#' :: fragment).takeWhile (· != '#') = rest.takeWhile (· != '#') :=
          takeWhile_append_stop (by decide) _ _
        simp only [List.cons_append, takeQuery, hQuery]
      · simp [takeQuery, hMark]

theorem pathPart_hash (fragment : List Char) :
    (text ++ '#' :: fragment).takeWhile (!endsPath ·) = text.takeWhile (!endsPath ·) :=
  takeWhile_append_stop (by decide) _ _

theorem takeQuery_afterPath_hash (fragment : List Char) :
    takeQuery kind ((text ++ '#' :: fragment).dropWhile (!endsPath ·)) =
      takeQuery kind (text.dropWhile (!endsPath ·)) := by
  have hAfter : (text ++ '#' :: fragment).dropWhile (!endsPath ·) =
      text.dropWhile (!endsPath ·) ++ '#' :: fragment := dropWhile_append_stop (by decide) _ _
  rw [hAfter, takeQuery_hash]

theorem readAuthority_hash (scheme fragment fragment' : List Char) :
    readAuthority scheme kind (text ++ '#' :: fragment) =
      readAuthority scheme kind (text ++ '#' :: fragment') := by
  have hHead : ∀ (rest fragment : List Char), ((rest ++ '#' :: fragment).head? == some ':') =
      (rest.head? == some ':') := fun rest fragment => by
    cases rest <;> rfl
  have hMark : endsAuthority kind '#' = true := by simp [endsAuthority]
  obtain ⟨cut, -, hCut⟩ := takeCredentials_mark hMark text
  simp only [readAuthority, hCut]
  cases cut with
  | none => rfl
  | some cut =>
      obtain ⟨⟨user, password⟩, rest⟩ := cut
      simp only [Option.map_some, Option.bind_eq_bind, Option.bind_some, takeHost_mark hMark, hHead,
        takePort_mark hMark, Option.bind_map, Function.comp_def, pathPart_hash, takeQuery_afterPath_hash]

theorem readWithoutAuthority_hash (scheme fragment : List Char) :
    readWithoutAuthority scheme (text ++ '#' :: fragment) = readWithoutAuthority scheme text := by
  simp only [readWithoutAuthority, pathPart_hash, takeQuery_afterPath_hash]

variable (kind) in
theorem takePath_hash (first : Char) (fragment : List Char) :
    (first :: (text ++ '#' :: fragment)).takeWhile (!endsPath ·) = (first :: text).takeWhile (!endsPath ·) ∧
      takeQuery kind ((first :: (text ++ '#' :: fragment)).dropWhile (!endsPath ·)) =
        takeQuery kind ((first :: text).dropWhile (!endsPath ·)) :=
  ⟨pathPart_hash (first :: text) fragment, takeQuery_afterPath_hash (first :: text) fragment⟩

theorem readFile_hash (fragment fragment' : List Char) :
    readFile (text ++ '#' :: fragment) = readFile (text ++ '#' :: fragment') := by
  have hHost : ∀ rest fragment : List Char,
      (rest ++ '#' :: fragment).takeWhile (fun c => !isSeparator .file c && !endsPath c) =
        rest.takeWhile fun c => !isSeparator .file c && !endsPath c := fun rest fragment =>
    takeWhile_append_stop (by decide) _ _
  have hAfter : ∀ rest fragment : List Char,
      (rest ++ '#' :: fragment).dropWhile (fun c => !isSeparator .file c && !endsPath c) =
        (rest.dropWhile fun c => !isSeparator .file c && !endsPath c) ++ '#' :: fragment :=
    fun rest fragment => dropWhile_append_stop (by decide) _ _
  have hSign : isSeparator .file '#' = false := by decide
  unfold readFile
  rcases text with _ | ⟨a, _ | ⟨b, more⟩⟩
  · cases fragment <;> cases fragment' <;> simp [hSign, endsPath, takeQuery]
  · have hPath := takePath_hash .file [] a
    simp only [List.nil_append] at hPath
    simp [hSign, hPath]
  · have hPath := takePath_hash .file (b :: more) a
    simp only [List.cons_append] at hPath
    simp only [List.cons_append, hHost, hAfter]
    by_cases hSlashes : (isSeparator .file a && isSeparator .file b) = true
    · by_cases hDrive : isDrive (more.takeWhile fun c => !isSeparator .file c && !endsPath c) = true
      · simp [hSlashes, hDrive, pathPart_hash, takeQuery_afterPath_hash]
      · simp [hSlashes, hDrive, pathPart_hash, takeQuery_afterPath_hash]
    · simp [hSlashes, hPath]

theorem dropSeparators_hash (fragment : List Char) :
    (text ++ '#' :: fragment).dropWhile (isSeparator .file) =
      text.dropWhile (isSeparator .file) ++ '#' :: fragment :=
  dropWhile_append_stop (by decide) _ _

/-- Reading gives the same URL whatever is behind the first number sign. -/
theorem parse_hash (fragment fragment' : List Char) :
    parse (text ++ '#' :: fragment) = parse (text ++ '#' :: fragment') := by
  obtain ⟨kept, hKept⟩ := cleaned_hash text
  obtain ⟨rest, hRest⟩ := hKept fragment
  obtain ⟨rest', hRest'⟩ := hKept fragment'
  simp only [parse, hRest, hRest', takeScheme_hash]
  cases takeScheme kept with
  | none => rfl
  | some cut =>
      obtain ⟨scheme, afterScheme⟩ := cut
      simp only [Option.map_some, Option.bind_eq_bind, Option.bind_some]
      cases schemeKind scheme with
      | network port => simp only [dropSeparators_hash, readAuthority_hash _ _ rest rest']
      | file => exact readFile_hash afterScheme rest rest'
      | other =>
          have hPath := readWithoutAuthority_hash afterScheme scheme
          rcases afterScheme with _ | ⟨a, _ | ⟨b, more⟩⟩
          · exact congrArg some ((hPath rest).trans (hPath rest').symm)
          · simp only [List.cons_append, List.nil_append] at hPath ⊢
            simp [hPath rest, hPath rest']
          · simp only [List.cons_append] at hPath ⊢
            by_cases hFirst : a = '/'
            · by_cases hSecond : b = '/'
              · subst hFirst hSecond
                exact readAuthority_hash more scheme rest rest'
              · simp [hSecond, hPath rest, hPath rest']
            · simp [hFirst, hPath rest, hPath rest']

end Metasearch.Url
