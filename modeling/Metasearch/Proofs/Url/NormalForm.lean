import Metasearch.Proofs.Url.Keys
import Metasearch.Proofs.Url.Marks

/-! Normal forms are fixed. None of the steps that lead to one undoes another or gives another something to do:
sorted parameters are read back from their encoding, a path without slashes at its end is read as it is, and
the authority before them is read as it was. So a normal form is read as the URL it was written from, and its own
normal form is itself. -/
namespace Metasearch.Url

open Text

variable {url : Url}

theorem not_isBlank_of_visible {c : Char} (h : Visible c) : isBlank c = false := by
  obtain ⟨hPrinted, hAscii⟩ := h
  simp only [isBlank, Bool.or_eq_false_iff, Bool.and_eq_false_iff, decide_eq_false_iff_not, beq_eq_false_iff_ne]
  omega

theorem trimChars_of_visible {text : List Char} (h : ∀ c ∈ text, Visible c) : trimChars text = text :=
  trimmed_eq_self fun c hc => not_isBlank_of_visible (h c hc)

theorem cleaned_of_visible {text : List Char} (h : ∀ c ∈ text, Visible c) : cleaned text = text := by
  have hEnds : dropTailWhile (fun c => decide (c.toNat ≤ 0x20)) (text.dropWhile fun c => c.toNat ≤ 0x20) = text :=
    trimmed_eq_self fun c hc => by simpa using (h c hc).1
  rw [cleaned, hEnds, List.filter_eq_self]
  intro c hc
  have hMark : ∀ mark, ¬Visible mark → c ≠ mark := by
    rintro mark hMark rfl
    exact hMark (h c hc)
  simp [hMark '\t' (by decide), hMark '\n' (by decide), hMark '\r' (by decide)]

/-- What holds of the characters of every part holds of all that are written. -/
theorem OfNetwork.forall_mem_toText (h : url.OfNetwork) {p : Char → Prop} (hSlash : p '/')
    (hAuthority : ∀ c, AuthorityChar c → p c) (hPath : ∀ c, Percent.Kept Percent.pathSet c → p c)
    (hQuery : ∀ c ∈ queryText url.query, p c) : ∀ c ∈ url.toText, p c := by
  obtain ⟨port, hKind⟩ := h.kind
  obtain ⟨authority, hSome, hChars, -⟩ := h.written
  have hNames : ∀ scheme ∈ ["http", "https", "ws", "wss", "ftp"].map String.toList,
      (scheme.all fun c => AuthorityChar c) = true := by decide
  have hScheme := List.all_iff_forall_prop.mp (hNames _ (mem_of_schemeKind hKind))
  rw [h.toText_eq hSome]
  simp only [List.forall_mem_append, List.forall_mem_cons]
  refine ⟨fun c hc => hAuthority c (hScheme c hc), hAuthority _ (by decide), hSlash, hSlash,
    ⟨fun c hc => hAuthority c (hChars c hc), fun c hc => ?_⟩, hQuery⟩
  rcases h.path.forall_mem c hc with rfl | hKept
  · exact hSlash
  · exact hPath c hKept

theorem OfNetwork.kept_query (h : url.OfNetwork) :
    ∀ c ∈ queryText url.query, c = '?' ∨ Percent.Kept Percent.specialQuerySet c := by
  cases hQuery : url.query with
  | none => exact List.forall_mem_nil _
  | some query =>
      exact List.forall_mem_cons.mpr ⟨Or.inl rfl, fun c hc => Or.inr (h.query query hQuery c hc)⟩

theorem OfNetwork.visible (h : url.OfNetwork) : ∀ c ∈ url.toText, Visible c := by
  refine h.forall_mem_toText (by decide) (fun c hc => hc.1) (fun c hc => ?_) fun c hc => ?_
  · refine visible_of_kept hc (fun hOut => ?_) (by decide)
    exact (Bool.or_eq_false_iff.mp hOut).1
  · rcases h.kept_query c hc with rfl | hKept
    · decide
    · refine visible_of_kept hKept (fun hOut => ?_) (by decide)
      exact (Bool.or_eq_false_iff.mp (Bool.or_eq_false_iff.mp hOut).1).1

/-- A mark that no part holds is not written. -/
theorem OfNetwork.notMem_toText (h : url.OfNetwork) {mark : Char} (hSlash : '/' ≠ mark)
    (hAuthority : ¬AuthorityChar mark) (hPath : ¬Percent.Kept Percent.pathSet mark)
    (hQuery : mark ∉ queryText url.query) : mark ∉ url.toText := by
  have hOther : ∀ c ∈ url.toText, c ≠ mark :=
    h.forall_mem_toText hSlash (fun c hChar hSame => hAuthority (hSame ▸ hChar))
      (fun c hKept hSame => hPath (hSame ▸ hKept)) fun c hc hSame => hQuery (hSame ▸ hc)
  exact fun hMark => hOther mark hMark rfl

theorem OfNetwork.number_notMem (h : url.OfNetwork) : '#' ∉ url.toText := by
  refine h.notMem_toText (by decide) (by decide) (by decide) fun hMark => ?_
  rcases h.kept_query '#' hMark with hSame | hKept
  · exact absurd hSame (by decide)
  · exact absurd hKept (by decide)

theorem OfNetwork.question_notMem (h : url.OfNetwork) (hQuery : url.query = none) : '?' ∉ url.toText :=
  h.notMem_toText (by decide) (by decide) (by decide) (by simp [hQuery, queryText])

/-- The text of a network URL is read from its authority on. -/
theorem OfNetwork.parse_toText (h : url.OfNetwork) {port : Nat} (hKind : schemeKind url.scheme = .network port)
    {authority : Authority} (hAuthority : url.authority = some authority) :
    parse url.toText = readAuthority url.scheme (.network port)
      (authority.toText ++ (url.path ++ queryText url.query)) := by
  have hSeparators : ∀ rest, ('/' :: '/' :: (authority.toText ++ rest)).dropWhile (isSeparator .file) =
      authority.toText ++ rest := fun rest => by
    obtain ⟨authority', hSame, hChars, hSome⟩ := h.written
    obtain rfl : authority = authority' := Option.some.inj (hAuthority.symm.trans hSame)
    obtain ⟨c, more, hText⟩ := List.exists_cons_of_ne_nil hSome
    have hFirst : isSeparator .file c = false := by
      have hEnds := (hChars c (hText ▸ List.mem_cons_self ..)).2
      simp only [endsAuthority, Bool.or_eq_false_iff] at hEnds
      simp [isSeparator, hEnds]
    rw [hText, List.cons_append, List.dropWhile_cons_of_pos (by decide), List.dropWhile_cons_of_pos (by decide),
      List.dropWhile_cons_of_neg (by simp [hFirst])]
  rw [parse, cleaned_of_visible h.visible, h.toText_eq hAuthority, takeScheme_network hKind]
  simp only [Option.bind_eq_bind, Option.bind_some, hKind, List.append_assoc, hSeparators]

theorem SettledPath.takeWhile_path {path : List Char} (h : SettledPath path) (query : Option (List Char)) :
    (path ++ queryText query).takeWhile (!endsPath ·) = path ∧
      (path ++ queryText query).dropWhile (!endsPath ·) = queryText query := by
  have hInside : ∀ c ∈ path, (!endsPath c) = true := by
    intro c hc
    have hQuestion : c ≠ '?' := fun hSame => h.question_notMem (hSame ▸ hc)
    have hNumber : c ≠ '#' := fun hSame => h.notMem (by decide) (by decide) (hSame ▸ hc)
    simp [endsPath, hQuestion, hNumber]
  rw [List.takeWhile_append_of_pos hInside, List.dropWhile_append_of_pos hInside]
  cases query <;> simp [queryText, endsPath]

theorem OfNetwork.takeQuery_queryText (h : url.OfNetwork) (port : Nat) :
    takeQuery (.network port) (queryText url.query) = url.query := by
  cases hQuery : url.query with
  | none => rfl
  | some query =>
      have hKept := h.query query hQuery
      have hInside : ∀ c ∈ query, (c != '#') = true := by
        intro c hc
        rw [bne_iff_ne]
        rintro rfl
        exact absurd (hKept _ hc) (by decide)
      have hAll : query.takeWhile (· != '#') = query := List.takeWhile_eq_self_iff.mpr hInside
      simp only [queryText, takeQuery, SchemeKind.isSpecial, if_true, hAll]
      rw [Percent.escape_of_kept hKept]

/-- Where a URL is read back from its text, its normal form is. -/
theorem OfNetwork.parse_normal (h : url.OfNetwork) (hBack : parse url.toText = some url) :
    parse url.normal.toText = some url.normal := by
  obtain ⟨port, hKind⟩ := h.kind
  obtain ⟨authority, hAuthority, hChars, -⟩ := h.written
  obtain ⟨hScheme, hSame⟩ := scheme_authority_normal url
  obtain ⟨below, hBelow⟩ := h.path.exists_eq_cons
  obtain ⟨below', hBelow'⟩ := h.normal.path.exists_eq_cons
  obtain ⟨hPath, hRest⟩ := h.normal.path.takeWhile_path url.normal.query
  rw [h.parse_toText hKind hAuthority, hBelow, List.cons_append] at hBack
  have hSlash := readAuthority_slash hChars hBack (below' ++ queryText url.normal.query)
  rw [← List.cons_append, ← hBelow', hPath, hRest, readPath_settled h.normal.path,
    h.normal.takeQuery_queryText] at hSlash
  rw [h.normal.parse_toText (hScheme ▸ hKind) (hSame.trans hAuthority), hScheme, hSlash, h.normal_eq]

theorem decode_pageQuery (url : Url) : Form.decode ((pageQuery url).getD []) = pageParameters url := by
  unfold pageQuery
  split
  · rename_i hNone
    rw [hNone]
    rfl
  · exact Form.decode_encode _

theorem trimmedPath_trimmedPath (path : List Char) : trimmedPath (trimmedPath path) = trimmedPath path := by
  rw [trimmedPath_eq_iff]
  unfold trimmedPath
  split
  · rename_i hRoot
    rw [hRoot]
    rfl
  · exact List.rdropWhile_idempotent _ _

theorem not_isTracking_of_mem_pageParameters {pair : Form.Pair} (h : pair ∈ pageParameters url) :
    isTracking pair = false := by
  have hKept := (List.mem_filter.mp (List.mem_mergeSort.mp h)).2
  simpa using hKept

/-- The parameters that choose the page are those of the normal form. -/
theorem OfNetwork.pageQuery_normal (h : url.OfNetwork) : pageQuery url.normal = pageQuery url := by
  rw [pageQuery_eq_iff, h.normal_eq]
  have hKept : ∀ pair ∈ pageParameters url, (!isTracking pair) = true := fun pair hPair => by
    rw [not_isTracking_of_mem_pageParameters hPair]
    rfl
  simp only [pagePairs, decode_pageQuery, List.filter_eq_self.mpr hKept]
  exact List.mergeSort_perm _ _

/-- The normal form of a normal form is itself. -/
theorem OfNetwork.normal_normal (h : url.OfNetwork) : url.normal.normal = url.normal := by
  rw [h.normal.normal_eq, h.pageQuery_normal, h.normal_eq, trimmedPath_trimmedPath]

/-- What the normal form of a network URL looks like: it has no fragment, no parameter that tracks visitors, its
parameters in order, no slash at the end of its path but for the root, and no question mark without
parameters. -/
structure Canonical (page : Url) : Prop where
  number_notMem : '#' ∉ page.toText
  notMem_trackingNames : ∀ pair ∈ Form.decode (page.query.getD []),
    String.ofList (lowerChars pair.1) ∉ trackingNames
  sorted : (Form.decode (page.query.getD [])).Pairwise fun a b => pairLe a b = true
  getLast_path : page.path ≠ ['/'] → page.path.getLast? ≠ some '/'
  question_notMem : Form.decode (page.query.getD []) = [] → '?' ∉ page.toText

theorem getLast_trimmedPath {path : List Char} (h : trimmedPath path ≠ ['/']) :
    (trimmedPath path).getLast? ≠ some '/' := by
  unfold trimmedPath at h ⊢
  split at h
  · exact absurd rfl h
  · rename_i hSome
    rw [if_neg hSome]
    intro hLast
    rw [List.getLast?_eq_some_getLast hSome] at hLast
    have hStop := List.rdropWhile_last_not (· == '/') path hSome
    exact hStop (beq_iff_eq.mpr (Option.some.inj hLast))

theorem OfNetwork.canonical (h : url.OfNetwork) : url.normal.Canonical := by
  have hPath : url.normal.path = trimmedPath url.path := by rw [h.normal_eq]
  have hQuery : url.normal.query = pageQuery url := by rw [h.normal_eq]
  have hPairs : Form.decode (url.normal.query.getD []) = pageParameters url := by
    rw [hQuery, decode_pageQuery]
  refine ⟨h.normal.number_notMem, fun pair hPair => ?_, ?_, ?_, fun hNone => ?_⟩
  · have hOther := not_isTracking_of_mem_pageParameters (hPairs ▸ hPair)
    simpa [isTracking] using hOther
  · rw [hPairs]
    exact pairwise_pageParameters url
  · rw [hPath]
    exact getLast_trimmedPath
  · refine h.normal.question_notMem ?_
    rw [hQuery, pageQuery, ← hPairs, hNone]

/-- Putting a web URL into normal form a second time changes neither it nor its key, and what is written is a
canonical URL. Assumed is that the URL is read back from its own text. -/
theorem normalize_canonical {raw : String} (h : parse (trimChars raw.toList) = some url)
    (hScheme : url.scheme = "http".toList ∨ url.scheme = "https".toList)
    (hBack : parse url.toText = some url) :
    normalize (normalize raw) = normalize raw ∧ dedupKey (normalize raw) = dedupKey raw ∧
      ∃ page, parse (normalize raw).toList = some page ∧ page.toText = (normalize raw).toList ∧
        page.Canonical := by
  have hNetwork := ofNetwork_of_web h hScheme
  have hText : normalize raw = String.ofList url.normal.toText := by rw [normalize, h]
  have hRead := hNetwork.parse_normal hBack
  have hTwice : normalize (normalize raw) = normalize raw := by
    rw [hText, normalize, String.toList_ofList, trimChars_of_visible hNetwork.normal.visible, hRead]
    simp only [hNetwork.normal_normal]
  refine ⟨hTwice, by rw [dedupKey, hTwice, dedupKey], url.normal, ?_, ?_, hNetwork.canonical⟩
  · rw [hText, String.toList_ofList, hRead]
  · rw [hText, String.toList_ofList]

/-- A tracked copy of a page, with slashes at its end, the scheme's own port and parameters out of order. -/
theorem normalize_canonical_of_tracked_copy :
    let raw := "https://u@Example.com:443/a//?b=2&Gclid=x&a=1#top"
    normalize (normalize raw) = normalize raw ∧ dedupKey (normalize raw) = dedupKey raw ∧
      ∃ page, parse (normalize raw).toList = some page ∧ page.toText = (normalize raw).toList ∧
        page.Canonical := by
  have hCopy : parse (trimChars "https://u@Example.com:443/a//?b=2&Gclid=x&a=1#top".toList) =
      some (samplePage "https" "/a//" "b=2&Gclid=x&a=1") := by decide +kernel
  have hBack : parse (samplePage "https" "/a//" "b=2&Gclid=x&a=1").toText =
      some (samplePage "https" "/a//" "b=2&Gclid=x&a=1") := by decide +kernel
  exact normalize_canonical hCopy (.inr rfl) hBack

end Metasearch.Url
