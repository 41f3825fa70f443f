import Mathlib.Data.Bool.AllAny
import Metasearch.Proofs.Text.Pieces
import Metasearch.Proofs.Url.Escapes
import Metasearch.Url.Parser

/-! The end of an authority can be seen in the text of a URL: no mark that ends it is written in a user, a
host or a port, so the first slash after an authority belongs to the path. Nor is there a blank, which
cleaning could take away. -/
namespace Metasearch.Url

open Text

/-- A character that no cleaning takes away: ASCII beyond the control characters and the blank. -/
def Visible (c : Char) : Prop :=
  0x20 < c.toNat ∧ c.toNat < 0x80

/-- A character that may stand in an authority. -/
def AuthorityChar (c : Char) : Prop :=
  Visible c ∧ endsAuthority .file c = false

instance : DecidablePred Visible := fun c =>
  inferInstanceAs (Decidable (0x20 < c.toNat ∧ c.toNat < 0x80))

instance : DecidablePred AuthorityChar := fun c =>
  inferInstanceAs (Decidable (Visible c ∧ endsAuthority .file c = false))

theorem visible_of_kept {inSet : Char → Bool} {c : Char} (h : Percent.Kept inSet c)
    (hControl : inSet c = false → Percent.controlSet c = false) (hBlank : inSet ' ' = true) : Visible c := by
  obtain ⟨hAscii, hOut⟩ := h
  have hNotBlank : c.toNat ≠ 0x20 := by
    intro hCode
    obtain rfl : c = ' ' := Char.toNat_inj.mp hCode
    rw [hBlank] at hOut
    cases hOut
  have hPrinted : 0x20 ≤ c.toNat := by
    have hControl := hControl hOut
    simp only [Percent.controlSet, Bool.or_eq_false_iff, decide_eq_false_iff_not] at hControl
    omega
  exact ⟨by omega, hAscii⟩

theorem authorityChar_of_isAlphanum {c : Char} (h : c.isAlphanum = true) : AuthorityChar c := by
  have hCode : 0x20 < c.toNat ∧ c.toNat < 0x80 := by
    have hRanges : (decide ('A'.val ≤ c.val ∧ c.val ≤ 'Z'.val) || ('a'.val ≤ c.val && c.val ≤ 'z'.val) ||
        ('0'.val ≤ c.val && c.val ≤ '9'.val)) = true := h
    simp only [Bool.or_eq_true, Bool.and_eq_true, decide_eq_true_eq, UInt32.le_iff_toNat_le, Char.toNat_val,
      Char.reduceToNat] at hRanges
    omega
  have hMark : ∀ mark : Char, mark.isAlphanum = false → c ≠ mark := by
    rintro mark hMark rfl
    rw [hMark] at h
    cases h
  refine ⟨hCode, ?_⟩
  simp [endsAuthority, hMark]

/-- What is changed by putting a text into lower case is and stays a letter. -/
theorem toLower_eq_or (c : Char) : c.toLower = c ∨ c.toLower.isAlpha = true := by
  unfold Char.toLower
  split
  case isTrue hUpper =>
    have hLetter : 97 ≤ c.val + 32 ∧ c.val + 32 ≤ 122 := by
      simp only [ge_iff_le, UInt32.le_iff_toNat_le] at hUpper ⊢
      simp at hUpper ⊢
      omega
    refine .inr (Bool.or_eq_true_iff.mpr (.inr ?_))
    exact Bool.and_eq_true_iff.mpr ⟨decide_eq_true hLetter.1, decide_eq_true hLetter.2⟩
  case isFalse => exact .inl rfl

theorem exists_of_mem_mapM {α β : Type} {f : α → Option β} {xs : List α} {ys : List β}
    (h : xs.mapM f = some ys) {y : β} (hy : y ∈ ys) : ∃ x ∈ xs, f x = some y := by
  induction xs generalizing ys with
  | nil =>
      cases h
      cases hy
  | cons x xs ih =>
      simp only [List.mapM_cons, Option.bind_eq_bind, Option.bind_eq_some_iff] at h
      obtain ⟨first, hFirst, rest, hRest, hAll⟩ := h
      cases hAll
      rcases List.mem_cons.mp hy with rfl | hy
      · exact ⟨x, List.mem_cons_self .., hFirst⟩
      · obtain ⟨x', hx', hImage⟩ := ih hRest hy
        exact ⟨x', List.mem_cons_of_mem _ hx', hImage⟩

theorem isAlphanum_of_mem_toDigits {base : Nat} (hBase : 1 < base) (hDigits : base ≤ 16) {n : Nat} :
    ∀ c ∈ Nat.toDigits base n, c.isAlphanum = true := by
  induction n using Nat.strong_induction_on with
  | _ n ih =>
      have hDigit : ∀ d < base, d.digitChar.isAlphanum = true := fun d hd =>
        (by decide : ∀ d < 16, d.digitChar.isAlphanum = true) d (Nat.lt_of_lt_of_le hd hDigits)
      rw [Nat.toDigits_eq_if hBase]
      split
      · rename_i hLast
        simpa using hDigit n hLast
      · have hSmaller : n / base < n := Nat.div_lt_self (by omega) hBase
        rw [List.forall_mem_append]
        exact ⟨ih _ hSmaller, by simpa using hDigit _ (Nat.mod_lt _ (by omega))⟩

theorem authorityChar_of_mem_toString (n : Nat) : ∀ c ∈ (toString n).toList, AuthorityChar c := by
  rw [Nat.toString_eq_repr, Nat.toList_repr]
  exact fun c hc => authorityChar_of_isAlphanum (isAlphanum_of_mem_toDigits (by decide) (by decide) c hc)

namespace Idna

namespace Punycode

theorem isAlphanum_digit {n : Nat} (h : n < 36) : (digit n).isAlphanum = true := by
  have hAll : ∀ n < 36, (digit n).isAlphanum = true := by decide
  exact hAll n h

theorem threshold_spec (k bias : Nat) : 1 ≤ threshold k bias ∧ threshold k bias ≤ 26 := by
  unfold threshold
  split
  · omega
  · split <;> omega

theorem isAlphanum_of_mem_writeNumber {bias q k fuel : Nat} {c : Char}
    (h : c ∈ writeNumber bias q k fuel) : c.isAlphanum = true := by
  induction fuel generalizing q k with
  | zero => cases h
  | succ fuel ih =>
      obtain ⟨hLow, hHigh⟩ := threshold_spec k bias
      rw [writeNumber] at h
      split at h
      · rw [List.mem_singleton.mp h]
        exact isAlphanum_digit (by omega)
      · rcases List.mem_cons.mp h with rfl | h
        · have hRest := Nat.mod_lt (q - threshold k bias) (show 0 < 36 - threshold k bias by omega)
          exact isAlphanum_digit (by omega)
        · exact ih h

theorem isAlphanum_of_mem_writeChar {m : Nat} {codes : List Nat} {p : Progress} {c : Char}
    (h : c ∈ (writeChar m codes p).1) : c.isAlphanum = true := by
  induction codes generalizing p with
  | nil => cases h
  | cons n rest ih =>
      rw [writeChar] at h
      split at h
      · exact ih h
      · split at h
        · rcases List.mem_append.mp h with h | h
          · exact isAlphanum_of_mem_writeNumber h
          · exact ih h
        · exact ih h

theorem isAlphanum_of_mem_writeAll {text codes : List Nat} {n : Nat} {p : Progress} {c : Char}
    (h : c ∈ writeAll text codes n p) : c.isAlphanum = true := by
  induction codes generalizing n p with
  | nil => cases h
  | cons m codes ih =>
      rcases List.mem_append.mp h with h | h
      · exact isAlphanum_of_mem_writeChar h
      · exact ih h

/-- Punycode adds nothing but hyphens, letters and digits to the ASCII characters of a text. -/
theorem mem_encode {cs written : List Char} {c : Char} (h : encode cs = some written) (hc : c ∈ written) :
    (c ∈ cs ∧ c.toNat < 0x80) ∨ c = '-' ∨ c.isAlphanum = true := by
  rw [encode] at h
  split at h
  · cases h
  · cases h
    rcases List.mem_append.mp hc with hc | hc
    · rcases List.mem_append.mp hc with hc | hc
      · exact Or.inl (by simpa using List.mem_filter.mp hc)
      · split at hc
        · cases hc
        · exact Or.inr (Or.inl (List.mem_singleton.mp hc))
    · exact Or.inr (Or.inr (isAlphanum_of_mem_writeAll hc))

end Punycode

theorem authorityChar_of_not_isForbidden {c : Char} (hAscii : c.toNat < 0x80)
    (h : isForbidden c = false) : AuthorityChar c := by
  simp only [isForbidden, Bool.or_eq_false_iff, decide_eq_false_iff_not, List.contains_cons, beq_eq_false_iff_ne,
    Nat.not_le] at h
  obtain ⟨⟨hCode, -⟩, hMarks⟩ := h
  refine ⟨⟨hCode, hAscii⟩, ?_⟩
  simp [endsAuthority, hMarks]

theorem authorityChar_of_mem_labelToAscii {text written : List Char}
    (hText : ∀ c ∈ text, c.toNat < 0x80 → isForbidden c = false)
    (h : Label.toAscii text = some written) : ∀ c ∈ written, AuthorityChar c := by
  have hKept : ∀ c ∈ text, c.toNat < 0x80 → AuthorityChar c := fun c hc hLow =>
    authorityChar_of_not_isForbidden hLow (hText c hc hLow)
  rw [Label.toAscii] at h
  split at h
  · rename_i hAscii
    cases h
    exact fun c hc => hKept c hc (of_decide_eq_true (List.all_eq_true.mp hAscii c hc))
  · obtain ⟨encoded, hEncoded, rfl⟩ := Option.map_eq_some_iff.mp h
    rw [List.forall_mem_append]
    refine ⟨List.all_iff_forall_prop.mp (by decide), fun c hc => ?_⟩
    rcases Punycode.mem_encode hEncoded hc with ⟨hc, hLow⟩ | rfl | hAlphanum
    · exact hKept c hc hLow
    · decide
    · exact authorityChar_of_isAlphanum hAlphanum

theorem authorityChar_of_mem_generalToAscii {name written : List Char}
    (h : generalToAscii name = some written) : ∀ c ∈ written, AuthorityChar c := by
  simp only [generalToAscii, Option.bind_eq_bind, Option.bind_eq_some_iff] at h
  obtain ⟨mapped, -, texts, -, h⟩ := h
  split at h
  · cases h
  · rename_i hForbidden
    split at h
    · cases h
    · obtain ⟨labels, hLabels, hWritten⟩ := Option.bind_eq_some_iff.mp h
      cases hWritten
      refine forall_mem_joinWith (List.forall_mem_singleton.mpr (by decide)) fun label hLabel => ?_
      obtain ⟨text, hText, hAscii⟩ := exists_of_mem_mapM hLabels hLabel
      refine authorityChar_of_mem_labelToAscii (fun c hc hLow => ?_) hAscii
      simp at hForbidden
      exact hForbidden text hText c hc hLow

theorem authorityChar_of_mem_toAscii {name written : List Char} (h : toAscii name = some written) :
    ∀ c ∈ written, AuthorityChar c := by
  rw [toAscii] at h
  split at h
  · rename_i hSimple
    split at h
    · cases h
    · rename_i hForbidden
      cases h
      intro c hc
      obtain ⟨d, hd, rfl⟩ := List.mem_map.mp hc
      rcases toLower_eq_or d with hSame | hAlpha
      · rw [hSame]
        refine authorityChar_of_not_isForbidden ?_ (eq_false_of_ne_true fun hd' => hForbidden ?_)
        · exact of_decide_eq_true (List.all_eq_true.mp (Bool.and_eq_true_iff.mp hSimple).1 d hd)
        · exact List.any_eq_true.mpr ⟨d, hd, hd'⟩
      · exact authorityChar_of_isAlphanum (by simp [Char.isAlphanum, hAlpha])
  · exact authorityChar_of_mem_generalToAscii h

end Idna

namespace Host

theorem authorityChar_of_mem_ipv4Text (address : Nat) : ∀ c ∈ ipv4Text address, AuthorityChar c := by
  refine forall_mem_joinWith (List.forall_mem_singleton.mpr (by decide)) fun part hPart => ?_
  obtain ⟨i, -, rfl⟩ := List.mem_map.mp hPart
  exact authorityChar_of_mem_toString _

theorem authorityChar_of_mem_ipv6Text (pieces : List Nat) : ∀ c ∈ ipv6Text pieces, AuthorityChar c := by
  have hJoined : ∀ pieces : List Nat, ∀ c ∈ joinWith [':'] (pieces.map hexText), AuthorityChar c := by
    intro pieces
    refine forall_mem_joinWith (List.forall_mem_singleton.mpr (by decide)) fun piece hPiece => ?_
    obtain ⟨n, -, rfl⟩ := List.mem_map.mp hPiece
    exact fun c hc => authorityChar_of_isAlphanum (isAlphanum_of_mem_toDigits (by decide) (by decide) c hc)
  unfold ipv6Text
  split
  dsimp only
  split
  · exact hJoined _
  · rw [List.forall_mem_append, List.forall_mem_append]
    exact ⟨⟨hJoined _, List.all_iff_forall_prop.mp (by decide)⟩, hJoined _⟩

/-- The text of a host: something is written, and no mark that could end it. -/
structure Written (host : Host) : Prop where
  ne_nil : host.toText ≠ []
  forall_mem : ∀ c ∈ host.toText, AuthorityChar c

theorem written_ipv6 {inner : Option (List Char)} {host : Host}
    (h : (inner.bind fun inner => (parseIpv6 inner).map Host.ipv6) = some host) : host.Written := by
  obtain ⟨inner, -, h⟩ := Option.bind_eq_some_iff.mp h
  obtain ⟨pieces, -, rfl⟩ := Option.map_eq_some_iff.mp h
  refine ⟨by simp [toText], ?_⟩
  rw [toText, List.forall_mem_append, List.forall_mem_cons]
  exact ⟨⟨by decide, authorityChar_of_mem_ipv6Text pieces⟩, List.forall_mem_singleton.mpr (by decide)⟩

theorem written_parseSpecial {text : List Char} {host : Host} (h : parseSpecial text = some host) :
    host.Written := by
  rw [parseSpecial] at h
  split at h
  · exact written_ipv6 h
  · simp only [Option.bind_eq_bind, Option.bind_eq_some_iff] at h
    obtain ⟨decoded, -, name, hName, h⟩ := h
    split at h
    · cases h
    · rename_i hSome
      split at h
      · obtain ⟨address, -, rfl⟩ := Option.map_eq_some_iff.mp h
        refine ⟨?_, authorityChar_of_mem_ipv4Text address⟩
        simp [toText, ipv4Text, joinWith]
      · cases h
        exact ⟨by simpa [toText] using hSome, Idna.authorityChar_of_mem_toAscii hName⟩

theorem authorityChar_of_mem_parseOpaque {text : List Char} {host : Host} (h : parseOpaque text = some host) :
    ∀ c ∈ host.toText, AuthorityChar c := by
  rw [parseOpaque] at h
  split at h
  · exact (written_ipv6 h).forall_mem
  · split at h
    · cases h
    · rename_i hForbidden
      split at h
      · cases h
        exact List.forall_mem_nil _
      · cases h
        intro c hc
        have hFresh : ∀ mark, mark ≠ '%' → (∀ n < 16, mark ≠ Percent.hexDigit n) →
            isForbiddenOpaque mark = true → c ≠ mark := by
          rintro mark hPercent hDigits hMark rfl
          exact hForbidden (List.any_eq_true.mpr ⟨c, Percent.mem_of_mem_escape hPercent hDigits hc, hMark⟩)
        have hBlank : c ≠ ' ' := hFresh ' ' (by decide) (by decide) (by decide)
        have hKept := Percent.kept_of_mem_escape (by decide) (by decide) hc
        have hWider : Percent.Kept (fun c => Percent.controlSet c || c == ' ') c :=
          ⟨hKept.1, by simp [hKept.2, hBlank]⟩
        refine ⟨visible_of_kept hWider (fun hOut => (Bool.or_eq_false_iff.mp hOut).1) (by decide), ?_⟩
        have hSlash : c ≠ '/' := hFresh '/' (by decide) (by decide) (by decide)
        have hQuestion : c ≠ '?' := hFresh '?' (by decide) (by decide) (by decide)
        have hNumber : c ≠ '#' := hFresh '#' (by decide) (by decide) (by decide)
        have hBackslash : c ≠ '\\' := hFresh '\\' (by decide) (by decide) (by decide)
        simp [endsAuthority, hSlash, hQuestion, hNumber, hBackslash]

end Host

theorem authorityChar_of_mem_credentials {credentials : List Char}
    (h : ∀ c ∈ credentials, AuthorityChar c) :
    ∀ c ∈ if credentials.isEmpty then [] else credentials ++ ['@'], AuthorityChar c := by
  split
  · exact List.forall_mem_nil _
  · exact List.forall_mem_append.mpr ⟨h, List.forall_mem_singleton.mpr (by decide)⟩

theorem authorityChar_of_mem_toText {authority : Authority} (hUser : ∀ c ∈ authority.user, AuthorityChar c)
    (hPassword : ∀ password, authority.password = some password → ∀ c ∈ password, AuthorityChar c)
    (hHost : ∀ c ∈ authority.host.toText, AuthorityChar c) : ∀ c ∈ authority.toText, AuthorityChar c := by
  obtain ⟨user, password, host, port⟩ := authority
  simp only [Authority.toText, List.forall_mem_append]
  refine ⟨⟨authorityChar_of_mem_credentials (List.forall_mem_append.mpr ⟨hUser, ?_⟩), hHost⟩, ?_⟩
  · cases password with
    | none => exact List.forall_mem_nil _
    | some password => exact List.forall_mem_cons.mpr ⟨by decide, hPassword password rfl⟩
  · cases port with
    | none => exact List.forall_mem_nil _
    | some port => exact List.forall_mem_cons.mpr ⟨by decide, authorityChar_of_mem_toString port⟩

theorem authorityChar_of_mem_escape_userinfo (cs : List Char) :
    ∀ c ∈ Percent.escape Percent.userinfoSet cs, AuthorityChar c := by
  intro c hc
  have hKept := Percent.kept_of_mem_escape (by decide) (by decide) hc
  have hMark : ∀ mark, Percent.userinfoSet mark = true → c ≠ mark := by
    rintro mark hMark rfl
    rw [hKept.2] at hMark
    cases hMark
  refine ⟨visible_of_kept hKept (fun hOut => ?_) (by decide), ?_⟩
  · simp only [Percent.userinfoSet, Percent.pathSet, Bool.or_eq_false_iff] at hOut
    exact hOut.1.1
  · have hSlash := hMark '/' (by decide)
    have hQuestion := hMark '?' (by decide)
    have hNumber := hMark '#' (by decide)
    have hBackslash := hMark '\\' (by decide)
    simp [endsAuthority, hSlash, hQuestion, hNumber, hBackslash]

theorem authorityChar_of_mem_takeCredentials {kind : SchemeKind} {text user rest : List Char}
    {password : Option (List Char)}
    (h : takeCredentials kind text = some ((user, password), rest)) :
    (∀ c ∈ user, AuthorityChar c) ∧ ∀ word, password = some word → ∀ c ∈ word, AuthorityChar c := by
  unfold takeCredentials at h
  simp only at h
  split at h
  · cases h
    simp
  · split at h
    · split at h
      · cases h
      · cases h
        simp
    · cases h
      refine ⟨authorityChar_of_mem_escape_userinfo _, fun word hWord => ?_⟩
      split at hWord
      · cases hWord
      · cases hWord
        exact authorityChar_of_mem_escape_userinfo _

theorem kept_of_takeQuery {port : Nat} {text query : List Char}
    (h : takeQuery (.network port) text = some query) :
    ∀ c ∈ query, Percent.Kept Percent.specialQuerySet c := by
  unfold takeQuery at h
  split at h
  · cases h
    exact fun c hc => Percent.kept_of_mem_escape (by decide) (by decide) hc
  · cases h

/-- What an authority is read to: no mark that ends it is in its text, which is not empty for the schemes that
the web knows, and what follows it is a path and a query. -/
theorem readAuthority_spec {scheme text : List Char} {kind : SchemeKind} {url : Url}
    (h : readAuthority scheme kind text = some url) :
    url.scheme = scheme ∧ url.guarded = false ∧
      (∃ authority, url.authority = some authority ∧ (∀ c ∈ authority.toText, AuthorityChar c) ∧
        (kind.isSpecial = true → authority.toText ≠ [])) ∧
      (∃ pathPart, url.path = readPath kind pathPart) ∧
      ∃ queryPart, url.query = takeQuery kind queryPart := by
  simp only [readAuthority, Option.bind_eq_bind, Option.bind_eq_some_iff] at h
  obtain ⟨⟨⟨user, password⟩, afterUser⟩, hCredentials, h⟩ := h
  simp only at h
  split at h
  · cases h
  · obtain ⟨host, hHost, hSome, h⟩ : ∃ host : Host, (∀ c ∈ host.toText, AuthorityChar c) ∧
        (kind.isSpecial = true → host.toText ≠ []) ∧ _ := by
      split at h
      · obtain ⟨host, hParsed, h⟩ := Option.bind_eq_some_iff.mp h
        have hWritten := Host.written_parseSpecial hParsed
        exact ⟨host, hWritten.forall_mem, fun _ => hWritten.ne_nil, h⟩
      · rename_i hOther
        obtain ⟨host, hParsed, h⟩ := Option.bind_eq_some_iff.mp h
        exact ⟨host, Host.authorityChar_of_mem_parseOpaque hParsed, fun hSpecial => absurd hSpecial hOther, h⟩
    obtain ⟨⟨port, afterPort⟩, -, h⟩ := Option.bind_eq_some_iff.mp h
    split at h
    · cases h
    · cases h
      obtain ⟨hUser, hPassword⟩ := authorityChar_of_mem_takeCredentials hCredentials
      refine ⟨rfl, rfl, ⟨_, rfl, authorityChar_of_mem_toText hUser hPassword hHost, fun hSpecial => ?_⟩,
        ⟨_, rfl⟩, ⟨_, rfl⟩⟩
      simp [Authority.toText, hSome hSpecial]

theorem readFile_spec {text : List Char} {url : Url} (h : readFile text = some url) :
    url.scheme = "file".toList ∧ ∃ authority, url.authority = some authority := by
  simp only [readFile, Option.bind_eq_bind] at h
  split at h
  all_goals
    rcases ite_eq_iff.mp h with ⟨-, h⟩ | ⟨-, h⟩
    all_goals
      obtain ⟨host, -, h⟩ := Option.bind_eq_some_iff.mp h
      cases h
      exact ⟨rfl, _, rfl⟩

end Metasearch.Url
