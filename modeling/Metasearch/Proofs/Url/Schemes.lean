import Metasearch.Proofs.Url.Authority
import Metasearch.Url.Normal

/-! The scheme of a URL is a word of its own: no colon is in it, so what follows it can be cut off. -/
namespace Metasearch.Url

/-- A letter followed by letters, digits, plus signs, hyphens and full stops. -/
def IsScheme : List Char → Prop
  | [] => False
  | first :: rest => first.isAlpha = true ∧ ∀ c ∈ rest, isSchemeChar c = true

theorem isSchemeChar_of_isAlpha {c : Char} (h : c.isAlpha = true) : isSchemeChar c = true := by
  simp [isSchemeChar, Char.isAlphanum, h]

theorem IsScheme.colon_notMem {scheme : List Char} (h : IsScheme scheme) : ':' ∉ scheme := by
  cases scheme with
  | nil => exact h.elim
  | cons first rest =>
      intro hc
      rcases List.mem_cons.mp hc with rfl | hc
      · exact absurd h.1 (by decide)
      · exact absurd (h.2 _ hc) (by decide)

theorem isAlpha_toLower {c : Char} (h : c.isAlpha = true) : c.toLower.isAlpha = true := by
  rcases toLower_eq_or c with hSame | hAlpha
  · rwa [hSame]
  · exact hAlpha

theorem isSchemeChar_toLower {c : Char} (h : isSchemeChar c = true) : isSchemeChar c.toLower = true := by
  rcases toLower_eq_or c with hSame | hAlpha
  · rwa [hSame]
  · exact isSchemeChar_of_isAlpha hAlpha

theorem isScheme_of_takeScheme {text scheme rest : List Char} (h : takeScheme text = some (scheme, rest)) :
    IsScheme scheme := by
  unfold takeScheme at h
  split at h
  · cases h
  · rename_i first more
    split at h
    · cases h
    · rename_i hAlpha
      have hAlpha : first.isAlpha = true := by simpa using hAlpha
      split at h
      · cases h
        rw [List.takeWhile_cons_of_pos (isSchemeChar_of_isAlpha hAlpha), List.map_cons]
        refine ⟨isAlpha_toLower hAlpha, fun c hc => ?_⟩
        obtain ⟨d, hd, rfl⟩ := List.mem_map.mp hc
        exact isSchemeChar_toLower (List.mem_takeWhile_imp hd)
      · cases h

theorem isScheme_of_parse {text : List Char} {url : Url} (h : parse text = some url) :
    IsScheme url.scheme := by
  simp only [parse, Option.bind_eq_bind, Option.bind_eq_some_iff] at h
  obtain ⟨⟨scheme, rest⟩, hTake, h⟩ := h
  have hScheme := isScheme_of_takeScheme hTake
  split at h
  · rw [(readAuthority_spec h).1]
    exact hScheme
  · rw [(readFile_spec h).1]
    exact ⟨by decide, List.all_eq_true.mp (by decide)⟩
  · split at h
    · rw [(readAuthority_spec h).1]
      exact hScheme
    · cases h
      exact hScheme

/-- The network schemes by name. -/
theorem mem_of_schemeKind {scheme : List Char} {port : Nat} (h : schemeKind scheme = .network port) :
    scheme ∈ ["http", "https", "ws", "wss", "ftp"].map String.toList := by
  have hName : String.ofList scheme ∈ ["http", "https", "ws", "wss", "ftp"] := by
    unfold schemeKind at h
    split at h <;> simp_all
  exact List.mem_map.mpr ⟨_, hName, String.toList_ofList⟩

/-- A network scheme is cut off as it is written. -/
theorem takeScheme_network {scheme : List Char} {port : Nat} (h : schemeKind scheme = .network port)
    (rest : List Char) : takeScheme (scheme ++ ':' :: rest) = some (scheme, rest) := by
  have hScheme := mem_of_schemeKind h
  simp only [List.map_cons, List.map_nil, List.mem_cons, List.not_mem_nil, or_false] at hScheme
  rcases hScheme with rfl | rfl | rfl | rfl | rfl <;> rfl

/-- What follows the first `://` is found behind a scheme. -/
theorem afterScheme?_of_isScheme {scheme : List Char} (h : IsScheme scheme) (rest : List Char) :
    afterScheme? (scheme ++ ':' :: '/' :: '/' :: rest) = some rest := by
  have hColon := h.colon_notMem
  clear h
  induction scheme with
  | nil => rfl
  | cons c scheme ih =>
      obtain ⟨hFirst, hRest⟩ := not_or.mp (List.mem_cons.not.mp hColon)
      rw [List.cons_append, afterScheme?, ih hRest]
      rintro rest' rfl
      exact absurd rfl hFirst

/-- The text without a scheme and `://` at its beginning. -/
def withoutScheme (text : List Char) : List Char :=
  match text.dropWhile isSchemeChar with
  | ':' :: '/' :: '/' :: rest => if text.head?.any Char.isAlpha then rest else text
  | _ => text

/-- No `://` stands in the text before the one behind its scheme. -/
def SchemeFirst (text : List Char) : Prop :=
  ∀ rest, afterScheme? text = some rest →
    ∃ scheme, IsScheme scheme ∧ text = scheme ++ ':' :: '/' :: '/' :: rest

theorem IsScheme.forall_isSchemeChar {scheme : List Char} (h : IsScheme scheme) :
    ∀ c ∈ scheme, isSchemeChar c = true := by
  cases scheme with
  | nil => exact h.elim
  | cons first rest => exact List.forall_mem_cons.mpr ⟨isSchemeChar_of_isAlpha h.1, h.2⟩

theorem withoutScheme_of_isScheme {scheme : List Char} (h : IsScheme scheme) (rest : List Char) :
    withoutScheme (scheme ++ ':' :: '/' :: '/' :: rest) = rest := by
  have hAfter : (scheme ++ ':' :: '/' :: '/' :: rest).dropWhile isSchemeChar = ':' :: '/' :: '/' :: rest := by
    rw [List.dropWhile_append_of_pos h.forall_isSchemeChar]
    rfl
  have hLetter : (scheme ++ ':' :: '/' :: '/' :: rest).head?.any Char.isAlpha = true := by
    cases scheme with
    | nil => exact h.elim
    | cons first more => exact h.1
  rw [withoutScheme, hAfter]
  exact if_pos hLetter

/-- A text from which something is taken away begins with a scheme. -/
theorem exists_isScheme_of_withoutScheme_ne {text : List Char} (h : withoutScheme text ≠ text) :
    ∃ scheme, IsScheme scheme ∧ text = scheme ++ ':' :: '/' :: '/' :: withoutScheme text := by
  unfold withoutScheme at h ⊢
  split at h
  · rename_i rest hAfter
    split at h
    · rename_i hLetter
      refine ⟨text.takeWhile isSchemeChar, ?_, ?_⟩
      · cases text with
        | nil => cases hLetter
        | cons first more =>
            have hFirst : first.isAlpha = true := hLetter
            rw [List.takeWhile_cons_of_pos (isSchemeChar_of_isAlpha hFirst)]
            exact ⟨hFirst, fun c hc => List.mem_takeWhile_imp hc⟩
      · rw [if_pos hLetter, ← hAfter, List.takeWhile_append_dropWhile]
    · exact absurd rfl h
  · exact absurd rfl h

theorem length_lt_of_afterScheme? {text rest : List Char} (h : afterScheme? text = some rest) :
    rest.length < text.length := by
  induction text with
  | nil => cases h
  | cons c text ih =>
      unfold afterScheme? at h
      split at h
      · rename_i hText
        cases h
        rw [hText]
        simp only [List.length_cons]
        omega
      · have hShorter := ih (by simp_all)
        simp
        omega
      · cases h

/-- The key is the normal form without its scheme exactly where no other `://` comes first. -/
theorem dedupKey_eq_withoutScheme_iff {raw : String} :
    dedupKey raw = String.ofList (withoutScheme (normalize raw).toList) ↔
      SchemeFirst (normalize raw).toList := by
  rw [dedupKey, String.ofList_inj]
  generalize (normalize raw).toList = text
  by_cases hScheme : withoutScheme text = text
  · rw [hScheme]
    cases hAfter : afterScheme? text with
    | none => simp [SchemeFirst, hAfter]
    | some rest =>
        have hLess := length_lt_of_afterScheme? hAfter
        refine iff_of_false (fun hSame => ?_) fun hFirst => ?_
        · have hSame : rest = text := hSame
          rw [hSame] at hLess
          exact lt_irrefl _ hLess
        · obtain ⟨scheme, hIs, hText⟩ := hFirst rest hAfter
          rw [hText, withoutScheme_of_isScheme hIs, ← hText] at hScheme
          rw [hScheme] at hLess
          exact lt_irrefl _ hLess
  · obtain ⟨scheme, hIs, hText⟩ := exists_isScheme_of_withoutScheme_ne hScheme
    have hAfter : afterScheme? text = some (withoutScheme text) := by
      rw [hText, afterScheme?_of_isScheme hIs, withoutScheme_of_isScheme hIs]
    refine iff_of_true (by rw [hAfter]; rfl) fun rest hRest => ?_
    obtain rfl : withoutScheme text = rest := by rwa [hAfter, Option.some.injEq] at hRest
    exact ⟨scheme, hIs, hText⟩

theorem scheme_authority_withoutTrailingBlanks (url : Url) :
    (withoutTrailingBlanks url).scheme = url.scheme ∧
      (withoutTrailingBlanks url).authority = url.authority := by
  unfold withoutTrailingBlanks
  split <;> exact ⟨rfl, rfl⟩

theorem scheme_authority_withPath (url : Url) (path : List Char) :
    (url.withPath path).scheme = url.scheme ∧ (url.withPath path).authority = url.authority := by
  unfold withPath
  split <;> exact ⟨rfl, rfl⟩

/-- Neither the scheme nor the authority is changed by the normal form. -/
theorem scheme_authority_normal (url : Url) :
    url.normal.scheme = url.scheme ∧ url.normal.authority = url.authority := by
  have hQuery : url.withPageQuery.scheme = url.scheme ∧ url.withPageQuery.authority = url.authority := by
    unfold withPageQuery
    dsimp only
    split
    · obtain ⟨hScheme, hAuthority⟩ := scheme_authority_withoutTrailingBlanks
        { withoutTrailingBlanks url with query := none }
      rw [hScheme, hAuthority]
      exact scheme_authority_withoutTrailingBlanks url
    · exact scheme_authority_withoutTrailingBlanks url
  obtain ⟨hScheme, hAuthority⟩ := hQuery
  unfold normal withoutTrailingSlashes
  split
  · dsimp only
    split
    · simp [scheme_authority_withPath, hScheme, hAuthority]
    · simp [scheme_authority_withPath, hScheme, hAuthority]
  · exact ⟨hScheme, hAuthority⟩

/-- In the normal form of a URL with an authority nothing comes before its scheme. -/
theorem schemeFirst_of_authority {raw : String} {url : Url}
    (h : parse (Text.trimChars raw.toList) = some url) (hAuthority : url.authority.isSome) :
    SchemeFirst (normalize raw).toList := by
  obtain ⟨authority, hAuthority⟩ := Option.isSome_iff_exists.mp hAuthority
  obtain ⟨hScheme, hSame⟩ := scheme_authority_normal url
  have hIs := isScheme_of_parse h
  obtain ⟨rest, hText⟩ : ∃ rest, (normalize raw).toList = url.scheme ++ ':' :: '/' :: '/' :: rest := by
    simp [normalize, h, toText, hScheme, hSame, hAuthority]
  intro rest' hRest
  rw [hText, afterScheme?_of_isScheme hIs] at hRest
  cases hRest
  exact ⟨url.scheme, hIs, hText⟩

end Metasearch.Url
