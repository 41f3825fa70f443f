import Mathlib.Data.List.Basic
import Mathlib.Data.Option.Basic
import Metasearch.Cache
import Metasearch.Proofs.Engine.Order
import Metasearch.Proofs.Text.Bytes
import Metasearch.Proofs.Text.Pieces

/-! What the bytes in a cache key tell. No text holds the byte that ends a text, so the engines are read back
from the bytes that stand for them, and two keys agree on their engines only if these are the same set. -/
namespace Metasearch

namespace CacheKey

theorem endMark_notMem_utf8EncodeChar (c : Char) : endMark ∉ String.utf8EncodeChar c := by
  have hValid : c.val.toNat < 0x110000 := by
    have hRange : c.val.toNat < 0xD800 ∨ (0xDFFF < c.val.toNat ∧ c.val.toNat < 0x110000) := c.valid
    omega
  have hByte : ∀ n, n < 0xFF → endMark ≠ UInt8.ofNat n := by
    intro n hn hEnd
    have hNat := congrArg UInt8.toNat hEnd
    rw [UInt8.toNat_ofNat_of_lt' (Nat.lt_succ_of_lt hn)] at hNat
    exact Nat.ne_of_gt hn hNat
  unfold String.utf8EncodeChar
  dsimp only
  repeat' split
  all_goals
    simp only [List.mem_cons, List.not_mem_nil, or_false, not_or]
    repeat' apply And.intro
    all_goals exact hByte _ (by omega)

theorem endMark_notMem_encode (cs : List Char) : endMark ∉ Text.Utf8.encode cs := by
  intro hMem
  obtain ⟨c, -, hMem⟩ := List.mem_flatMap.mp hMem
  exact endMark_notMem_utf8EncodeChar c hMem

/-- A text ends where its bytes end, so the text and what follows it are told apart. -/
theorem closedBytes_append_inj {s t : String} {more others : List UInt8} :
    closedBytes s ++ more = closedBytes t ++ others ↔ s = t ∧ more = others := by
  constructor
  · intro hSame
    simp only [closedBytes, List.append_assoc, List.singleton_append] at hSame
    obtain ⟨hBytes, hMore⟩ := (Text.append_mark_inj (endMark_notMem_encode s.toList)
      (endMark_notMem_encode t.toList)).mp hSame
    have hChars := congrArg Text.Utf8.decode? hBytes
    rw [Text.Utf8.decode?_encode, Text.Utf8.decode?_encode] at hChars
    exact ⟨String.toList_inj.mp (Option.some.inj hChars), hMore⟩
  · rintro ⟨rfl, rfl⟩
    rfl

/-- The engines of a list and their order are read back from their bytes. -/
theorem flatMap_bytes_inj {ids others : List EngineId}
    (h : (ids.flatMap fun id => closedBytes id.name ++ closedBytes id.category) =
      others.flatMap fun id => closedBytes id.name ++ closedBytes id.category) : ids = others := by
  induction ids generalizing others with
  | nil =>
      cases others with
      | nil => rfl
      | cons other rest => simp [closedBytes] at h
  | cons id rest ih =>
      cases others with
      | nil => simp [closedBytes] at h
      | cons other more =>
          obtain ⟨name, category⟩ := id
          obtain ⟨name', category'⟩ := other
          simp only [List.flatMap_cons, List.append_assoc] at h
          obtain ⟨hName, hBytes⟩ := closedBytes_append_inj.mp h
          obtain ⟨hCategory, hRest⟩ := closedBytes_append_inj.mp hBytes
          rw [hName, hCategory, ih hRest]

/-- The bytes determine the set of engines and are determined by it. -/
theorem engineBytes_eq_iff {ids others : List EngineId} :
    engineBytes ids = engineBytes others ↔ ∀ id, id ∈ ids ↔ id ∈ others := by
  rw [← EngineId.sortedSet_eq_iff]
  constructor
  · intro hBytes
    exact flatMap_bytes_inj hBytes
  · intro hSets
    rw [engineBytes, hSets, engineBytes]

/-- Keys that agree on their engines stand for the same set of engines. -/
theorem mem_iff_of_engineBytes_eq {ids others : List EngineId} (h : engineBytes ids = engineBytes others)
    (id : EngineId) : id ∈ ids ↔ id ∈ others :=
  engineBytes_eq_iff.mp h id

/-- Optional texts have the same plain form exactly if both are absent or both have it in common. -/
theorem map_eq_map_iff_rel {α β : Type} (plain : α → β) {a b : Option α} :
    a.map plain = b.map plain ↔ Option.Rel (fun a b => plain a = plain b) a b := by
  cases a <;> cases b <;> simp

/-- Two requests share a key exactly if their queries have the same words in lower case, both are for no
language or for the same one, they agree in time range, filter and page, and they are answered from the same
set of engines. The order in which the engines are listed does not matter, nor how often one is. -/
theorem ofRequest_eq_iff {request other : QueryRequest} {engines others : List EngineId} :
    ofRequest request engines = ofRequest other others ↔
      Text.lower (String.ofList (Text.joinWith [' '] (Text.words request.query))) =
        Text.lower (String.ofList (Text.joinWith [' '] (Text.words other.query))) ∧
      Option.Rel (fun language language' =>
        Text.lower (Text.trim language) = Text.lower (Text.trim language'))
        request.language other.language ∧
      request.timeRange = other.timeRange ∧ request.safeSearch = other.safeSearch ∧
      request.page = other.page ∧ ∀ id, id ∈ engines ↔ id ∈ others := by
  have hQuery : ∀ query, Text.lower (String.ofList (Text.joinWith [' '] (Text.words query))) =
      plainQuery query := fun query => by
    rw [Text.lower, String.toList_ofList, plainQuery]
  rw [← engineBytes_eq_iff, ← map_eq_map_iff_rel fun language => Text.lower (Text.trim language),
    hQuery, hQuery]
  simp only [ofRequest, mk.injEq]

end CacheKey

end Metasearch
