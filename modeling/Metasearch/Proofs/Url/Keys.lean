import Metasearch.Proofs.Url.Form
import Metasearch.Proofs.Url.Fragment
import Metasearch.Proofs.Url.Parameters
import Metasearch.Proofs.Url.Paths
import Metasearch.Proofs.Url.Schemes

/-! When the keys of two network URLs are the same. The key is the authority, the path and the query of the
normal form one after another, and each of them ends where a mark stands that it cannot hold. -/
namespace Metasearch.Url

open Text

/-- A URL of a network scheme, as reading gives it. -/
structure OfNetwork (url : Url) : Prop where
  kind : ∃ port, schemeKind url.scheme = .network port
  guarded : url.guarded = false
  written : ∃ authority, url.authority = some authority ∧ (∀ c ∈ authority.toText, AuthorityChar c) ∧
    authority.toText ≠ []
  path : SettledPath url.path
  query : ∀ query, url.query = some query → ∀ c ∈ query, Percent.Kept Percent.specialQuerySet c

theorem OfNetwork.authority {url : Url} (h : url.OfNetwork) :
    ∃ authority, url.authority = some authority ∧ '/' ∉ authority.toText := by
  obtain ⟨authority, hAuthority, hChars, -⟩ := h.written
  exact ⟨authority, hAuthority, fun hSlash => absurd (hChars _ hSlash) (by decide)⟩

/-- A network URL is read from its authority on. -/
theorem exists_readAuthority_of_parse {text : List Char} {url : Url} {port : Nat} (h : parse text = some url)
    (hKind : schemeKind url.scheme = .network port) :
    ∃ rest, readAuthority url.scheme (.network port) rest = some url := by
  simp only [parse, Option.bind_eq_bind, Option.bind_eq_some_iff] at h
  obtain ⟨⟨scheme, rest⟩, -, h⟩ := h
  have hRead : ∀ {kind rest}, readAuthority scheme kind rest = some url → schemeKind scheme = kind →
      ∃ rest, readAuthority url.scheme (.network port) rest = some url := fun {kind rest} h hSame => by
    have hScheme := (readAuthority_spec h).1
    obtain rfl : kind = .network port := by rw [← hSame, ← hScheme, hKind]
    exact ⟨rest, hScheme ▸ h⟩
  split at h
  · rename_i hScheme
    exact hRead h hScheme
  · rw [(readFile_spec h).1] at hKind
    cases hKind
  · rename_i hScheme
    split at h
    · exact hRead h hScheme
    · cases h
      rw [readWithoutAuthority, hScheme] at hKind
      cases hKind

theorem ofNetwork_of_parse {text : List Char} {url : Url} {port : Nat} (h : parse text = some url)
    (hKind : schemeKind url.scheme = .network port) : url.OfNetwork := by
  obtain ⟨rest, hRead⟩ := exists_readAuthority_of_parse h hKind
  obtain ⟨-, hGuarded, ⟨authority, hAuthority, hChars, hSome⟩, ⟨pathPart, hPath⟩, queryPart, hQuery⟩ :=
    readAuthority_spec hRead
  exact {
    kind := ⟨port, hKind⟩
    guarded := hGuarded
    written := ⟨authority, hAuthority, hChars, hSome rfl⟩
    path := hPath ▸ settledPath_readPath pathPart
    query := fun _ hSame => kept_of_takeQuery (hQuery.symm.trans hSame) }

/-- The query of the normal form. -/
def pageQuery (url : Url) : Option (List Char) :=
  match pageParameters url with
  | [] => none
  | pairs => some (Form.encode pairs)

theorem pageQuery_eq_iff {url other : Url} :
    pageQuery url = pageQuery other ↔ (pagePairs url).Perm (pagePairs other) := by
  rw [← pageParameters_eq_iff]
  unfold pageQuery
  constructor
  · intro h
    cases hUrl : pageParameters url <;> cases hOther : pageParameters other <;>
      simp only [hUrl, hOther, reduceCtorEq, Option.some.injEq] at h
    · rfl
    · exact Form.encode_injective h
  · intro h
    rw [h]

theorem OfNetwork.isOpaque {url : Url} (h : url.OfNetwork) : url.isOpaque = false := by
  obtain ⟨authority, hAuthority, -⟩ := h.authority
  simp [Url.isOpaque, hAuthority]

theorem OfNetwork.withPageQuery {url : Url} (h : url.OfNetwork) :
    url.withPageQuery = { url with query := pageQuery url } := by
  have hBlanks : ∀ query, withoutTrailingBlanks { url with query } = { url with query } := fun query => by
    have hOpaque := h.isOpaque
    simp only [Url.isOpaque] at hOpaque
    simp [withoutTrailingBlanks, Url.isOpaque, hOpaque]
  unfold Url.withPageQuery pageQuery
  rw [hBlanks url.query]
  split <;> simp_all

/-- The normal form differs in its query and in the end of its path. -/
theorem OfNetwork.normal_eq {url : Url} (h : url.OfNetwork) :
    url.normal = { url with path := trimmedPath url.path, query := pageQuery url } := by
  obtain ⟨port, hKind⟩ := h.kind
  have hPath : ∀ path query path', ({ url with path, query } : Url).withPath path' =
      { url with path := readPath (.network port) path', query } := fun path query path' => by
    obtain ⟨authority, hAuthority, -⟩ := h.authority
    simp [withPath, Url.isOpaque, hAuthority, hKind]
  have hSome : trimmedPath url.path ≠ [] := by
    unfold trimmedPath
    split <;> simp_all
  rw [normal, h.withPageQuery, withoutTrailingSlashes]
  split
  · have hRead : readPath (.network port) (dropTailWhile (· == '/') url.path) = trimmedPath url.path :=
      h.path.readPath_shortPath
    simp [hPath, hRead, hSome]
  · rename_i hKept
    rw [h.path.trimmedPath_eq_self hKept]

/-- The query as it is written after a path. -/
def queryText (query : Option (List Char)) : List Char :=
  match query with
  | some query => '?' :: query
  | none => []

theorem path_query_inj {path other : List Char} (hPath : '?' ∉ path) (hOther : '?' ∉ other)
    (query query' : Option (List Char)) :
    path ++ queryText query = other ++ queryText query' ↔ path = other ∧ query = query' := by
  cases query with
  | none =>
      cases query' with
      | none => simp [queryText]
      | some query' =>
          simp only [queryText, List.append_nil, reduceCtorEq, and_false, iff_false]
          rintro rfl
          simp at hPath
  | some query =>
      cases query' with
      | none =>
          simp only [queryText, List.append_nil, reduceCtorEq, and_false, iff_false]
          rintro rfl
          simp at hOther
      | some query' => simp [queryText, append_mark_inj hPath hOther]

theorem OfNetwork.toText_eq {url : Url} {authority : Authority} (h : url.OfNetwork)
    (hAuthority : url.authority = some authority) :
    url.toText = url.scheme ++ ':' :: '/' :: '/' :: (authority.toText ++ url.path ++ queryText url.query) := by
  simp only [toText, hAuthority, h.guarded, queryText]
  cases url.query <;> simp

/-- The normal form is a URL of the same network scheme. -/
theorem OfNetwork.normal {url : Url} (h : url.OfNetwork) : url.normal.OfNetwork := by
  rw [h.normal_eq]
  refine { h with path := h.path.trimmedPath, query := fun query hQuery => ?_ }
  unfold pageQuery at hQuery
  split at hQuery
  · cases hQuery
  · cases hQuery
    exact Form.kept_of_mem_encode _

/-- The key of a network URL: its authority, its path and its query in normal form. -/
theorem dedupKey_of_parse {raw : String} {url : Url} {authority : Authority}
    (h : parse (trimChars raw.toList) = some url) (hNetwork : url.OfNetwork)
    (hAuthority : url.authority = some authority) :
    dedupKey raw =
      String.ofList (authority.toText ++ trimmedPath url.path ++ queryText (pageQuery url)) := by
  have hText : url.normal.toText = url.scheme ++ ':' :: '/' :: '/' ::
      (authority.toText ++ trimmedPath url.path ++ queryText (pageQuery url)) := by
    have hSame : url.normal.authority = some authority := (scheme_authority_normal url).2.trans hAuthority
    rw [hNetwork.normal.toText_eq hSame, hNetwork.normal_eq]
  rw [dedupKey, normalize, h]
  simp only [String.toList_ofList, hText, afterScheme?_of_isScheme (isScheme_of_parse h), Option.getD_some]

theorem ofNetwork_of_web {text : List Char} {url : Url} (h : parse text = some url)
    (hScheme : url.scheme = "http".toList ∨ url.scheme = "https".toList) : url.OfNetwork := by
  rcases hScheme with hScheme | hScheme
  · have hKind : schemeKind url.scheme = .network 80 := by rw [hScheme]; rfl
    exact ofNetwork_of_parse h hKind
  · have hKind : schemeKind url.scheme = .network 443 := by rw [hScheme]; rfl
    exact ofNetwork_of_parse h hKind

/-- Another fragment makes no other key. -/
theorem dedupKey_hash {raw : String} {url : Url} {text fragment : List Char}
    (h : parse (trimChars raw.toList) = some url) (hRaw : raw.toList = text ++ '#' :: fragment)
    (fragment' : List Char) : dedupKey (String.ofList (text ++ '#' :: fragment')) = dedupKey raw := by
  have hTrim : ∀ fragment, trimChars (text ++ '#' :: fragment) =
      text.dropWhile isBlank ++ '#' :: dropTailWhile isBlank fragment := fun fragment => by
    rw [trimChars, dropWhile_append_stop (by decide), dropTailWhile_append_stop (by decide)]
  have hParse : parse (trimChars (text ++ '#' :: fragment')) = some url := by
    rw [← h, hRaw, hTrim, hTrim]
    exact parse_hash _ _ _
  simp only [dedupKey, normalize, String.toList_ofList, hParse, h]

/-- Two web URLs have the same key exactly if they have the same authority, the same path without the slashes
at its end, and the same parameters that choose the page, in any order. The fragment does not matter. -/
theorem dedupKey_eq_iff {raw raw' : String} {url url' : Url}
    (h : parse (trimChars raw.toList) = some url) (h' : parse (trimChars raw'.toList) = some url')
    (hScheme : url.scheme = "http".toList ∨ url.scheme = "https".toList)
    (hScheme' : url'.scheme = "http".toList ∨ url'.scheme = "https".toList) :
    (dedupKey raw = dedupKey raw' ↔
      url.authority.map Authority.toText = url'.authority.map Authority.toText ∧
      dropTailWhile (· == '/') url.path = dropTailWhile (· == '/') url'.path ∧
      (pagePairs url).Perm (pagePairs url')) ∧
    ∀ text fragment fragment', raw.toList = text ++ '#' :: fragment →
      dedupKey (String.ofList (text ++ '#' :: fragment')) = dedupKey raw := by
  refine ⟨?_, fun text fragment fragment' hRaw => dedupKey_hash h hRaw fragment'⟩
  have hNetwork := ofNetwork_of_web h hScheme
  have hNetwork' := ofNetwork_of_web h' hScheme'
  obtain ⟨authority, hAuthority, hSlash⟩ := hNetwork.authority
  obtain ⟨authority', hAuthority', hSlash'⟩ := hNetwork'.authority
  obtain ⟨below, hBelow⟩ := hNetwork.path.trimmedPath.exists_eq_cons
  obtain ⟨below', hBelow'⟩ := hNetwork'.path.trimmedPath.exists_eq_cons
  have hParts := path_query_inj hNetwork.path.trimmedPath.question_notMem
    hNetwork'.path.trimmedPath.question_notMem (pageQuery url) (pageQuery url')
  calc dedupKey raw = dedupKey raw'
      ↔ authority.toText ++ (trimmedPath url.path ++ queryText (pageQuery url)) =
          authority'.toText ++ (trimmedPath url'.path ++ queryText (pageQuery url')) := by
        rw [dedupKey_of_parse h hNetwork hAuthority, dedupKey_of_parse h' hNetwork' hAuthority',
          String.ofList_inj, List.append_assoc, List.append_assoc]
    _ ↔ authority.toText = authority'.toText ∧ trimmedPath url.path ++ queryText (pageQuery url) =
          trimmedPath url'.path ++ queryText (pageQuery url') := by
        rw [hBelow, hBelow', List.cons_append, List.cons_append, append_mark_inj hSlash hSlash']
        simp
    _ ↔ _ := by
        rw [hParts, pageQuery_eq_iff, trimmedPath_eq_iff, hAuthority, hAuthority']
        simp [shortPath]

/-- A page of one site. -/
def samplePage (scheme path query : String) : Url where
  scheme := scheme.toList
  authority := some ⟨['u'], none, .name "example.com".toList, none⟩
  guarded := false
  path := path.toList
  query := some query.toList

/-- A tracked copy in another order has the key of the page. A page with a parameter more has not. -/
theorem dedupKey_eq_of_tracked_copy :
    dedupKey "https://u@Example.com:443/a//?b=2&Gclid=x&a=1#top" = dedupKey "http://u@example.com/a?a=1&b=2" ∧
    dedupKey "https://u@Example.com:443/a//?b=2&Gclid=x&a=1#" =
      dedupKey "https://u@Example.com:443/a//?b=2&Gclid=x&a=1#top" ∧
    dedupKey "http://u@example.com/a?a=1&b=2" ≠ dedupKey "http://u@example.com/a?a=1&b=2&b=2" := by
  have hCopy : parse (trimChars "https://u@Example.com:443/a//?b=2&Gclid=x&a=1#top".toList) =
      some (samplePage "https" "/a//" "b=2&Gclid=x&a=1") := by decide +kernel
  have hPage : parse (trimChars "http://u@example.com/a?a=1&b=2".toList) =
      some (samplePage "http" "/a" "a=1&b=2") := by decide +kernel
  have hTwice : parse (trimChars "http://u@example.com/a?a=1&b=2&b=2".toList) =
      some (samplePage "http" "/a" "a=1&b=2&b=2") := by decide +kernel
  refine ⟨(dedupKey_eq_iff hCopy hPage (.inr rfl) (.inl rfl)).1.mpr ⟨rfl, by decide, by decide +kernel⟩, ?_, ?_⟩
  · exact (dedupKey_eq_iff hCopy hCopy (.inr rfl) (.inr rfl)).2
      "https://u@Example.com:443/a//?b=2&Gclid=x&a=1".toList "top".toList [] (by decide)
  · intro hSame
    obtain ⟨-, -, hPerm⟩ := (dedupKey_eq_iff hPage hTwice (.inl rfl) (.inl rfl)).1.mp hSame
    exact absurd hPerm.length_eq (by decide +kernel)

end Metasearch.Url
