import Metasearch.Proofs.Document.Records
import Metasearch.Proofs.Json.RoundTrip

/-! Records written as JSON and read again. Engines, hits, requests, suspension rules and policies come back from
their texts whatever they hold, and configurations if no weight is infinite or undefined. -/
namespace Metasearch

open Document Json Float.Model

/-! What can be written -/

namespace Json

variable {height : ℕ}

theorem writable_ofUInt64 (n : UInt64) : Writable height (ofUInt64 n) := by
  have hSmall : n.toNat < UInt64.size := n.toNat_lt_size
  exact .int height ⟨by omega, by exact_mod_cast hSmall⟩

theorem writable_ofUInt32 (n : UInt32) : Writable height (ofUInt32 n) := by
  have hSmall : n.toNat < UInt64.size := n.toNat_lt_size.trans (by decide)
  exact .int height ⟨by omega, by exact_mod_cast hSmall⟩

theorem writable_texts (texts : List String) : Writable (height + 1) (.list (texts.map .text)) := by
  refine .list fun v hMem => ?_
  obtain ⟨s, -, rfl⟩ := List.mem_map.mp hMem
  exact .text height s

theorem writable_ofOption {α : Type} {write : α → Value} (hWrite : ∀ a, Writable height (write a))
    (choice : Option α) : Writable height (ofOption write choice) := by
  cases choice with
  | none => exact .null height
  | some a => exact hWrite a

theorem writable_float {x : Float} (hFinite : x.isFinite = true) : Writable height (.float x) := by
  rw [Float.isFinite, Float.Model.isFinite] at hFinite
  refine .float height ?_ ?_
  · rw [Float.isInf, Float.Model.isInf]
    cases hUnpack : x.toModel.unpack <;> simp_all [UnpackedFloat.isFinite, UnpackedFloat.isInf]
  · rw [Float.isNaN, Float.Model.isNaN]
    cases hUnpack : x.toModel.unpack <;> simp_all [UnpackedFloat.isFinite, UnpackedFloat.isNaN]

/-- A record is read from its text as it is from its table. -/
theorem read_text_bind {α : Type} {read : Value → Option α} {v : Value} {a : α} (hWritable : Writable height v)
    (hHeight : height ≤ maxDepth) (hRead : read v = some a) : (Json.read (text v)).bind read = some a := by
  rw [read_text hWritable hHeight, Option.bind_some, hRead]

end Json

theorem EngineId.writable (id : EngineId) (height : ℕ) : Writable (height + 1) id.toValue :=
  .table (by simp [Writable.text])

theorem RawHit.writable (hit : RawHit) (height : ℕ) : Writable (height + 2) hit.toValue :=
  .table (by simp [Writable.text, EngineId.writable, writable_ofUInt32])

theorem Duration.writable (d : Duration) (height : ℕ) : Writable (height + 1) d.toValue := by
  have hNanos : d.nanos.val < UInt64.size := Nat.lt_trans d.nanos.isLt (by decide)
  have hNumber : Writable height (ofNat d.nanos) := .int height ⟨by omega, by exact_mod_cast hNanos⟩
  exact .table (by simp [writable_ofUInt64, hNumber])

theorem QueryRequest.writable (request : QueryRequest) (height : ℕ) : Writable (height + 2) request.toValue := by
  have hEngines : Writable (height + 1) (ofOption (fun names => .list (names.map .text)) request.engines) :=
    writable_ofOption writable_texts request.engines
  have hLanguage := writable_ofOption (Writable.text (height + 1)) request.language
  have hRange : Writable (height + 1) (ofOption TimeRange.toValue request.timeRange) :=
    writable_ofOption (fun range => .text _ range.name) request.timeRange
  refine .table (List.forall_mem_append.mpr ⟨?_, ?_⟩)
  · simp [Writable.text, writable_texts, hEngines, hLanguage, hRange, SafeSearch.toValue, writable_ofUInt32]
  · cases request.timeout with
    | none => simp
    | some timeout => simpa using timeout.writable height

theorem Backoff.writable (rule : Backoff) (height : ℕ) : Writable (height + 1) rule.toValue := by
  cases rule <;> exact .table (by simp [Writable.text, writable_ofUInt64])

theorem SuspensionPolicy.writable (policy : SuspensionPolicy) (height : ℕ) :
    Writable (height + 2) policy.toValue :=
  .table (by simp [Backoff.writable])

theorem EngineSettings.writable {engine : EngineSettings} (hFinite : engine.weight.isFinite = true)
    (height : ℕ) : Writable (height + 1) engine.toValue :=
  .table (by simp [Writable.text, Writable.bool, writable_float hFinite, writable_ofOption writable_ofUInt64])

theorem SearchConfig.writable {config : SearchConfig}
    (hFinite : ∀ engine ∈ config.engines, engine.weight.isFinite = true) (height : ℕ) :
    Writable (height + 3) config.toValue := by
  have hEngines : Writable (height + 2) (.list (config.engines.map EngineSettings.toValue)) := by
    refine .list fun v hMem => ?_
    obtain ⟨engine, hEngine, rfl⟩ := List.mem_map.mp hMem
    exact EngineSettings.writable (hFinite engine hEngine) height
  have hPolicy := config.suspension.writable height
  refine .table ?_
  simp [hEngines, hPolicy, writable_texts, writable_ofUInt64, writable_ofOption writable_ofUInt64]

/-! What is read -/

/-- Every record is read from its text as it was written, a configuration if its weights are finite. -/
theorem read_text_toValue :
    (∀ id : EngineId, (Json.read (text id.toValue)).bind (EngineId.read .json) = some id) ∧
    (∀ hit : RawHit, (Json.read (text hit.toValue)).bind (RawHit.read .json) = some hit) ∧
    (∀ request : QueryRequest,
      (Json.read (text request.toValue)).bind (QueryRequest.read .json) = some request) ∧
    (∀ rule : Backoff, (Json.read (text rule.toValue)).bind Backoff.read = some rule) ∧
    (∀ policy : SuspensionPolicy,
      (Json.read (text policy.toValue)).bind (SuspensionPolicy.read .json) = some policy) ∧
    ∀ config : SearchConfig, (∀ engine ∈ config.engines, engine.weight.isFinite = true) →
      (Json.read (text config.toValue)).bind (SearchConfig.read .json) = some config := by
  refine ⟨fun id => ?_, fun hit => ?_, fun request => ?_, fun rule => ?_, fun policy => ?_,
    fun config hFinite => ?_⟩
  · exact read_text_bind (id.writable 0) (by decide) (id.read_toValue .json)
  · exact read_text_bind (hit.writable 0) (by decide) (hit.read_toValue .json)
  · exact read_text_bind (request.writable 0) (by decide) (request.read_toValue .json)
  · exact read_text_bind (rule.writable 0) (by decide) rule.read_toValue
  · exact read_text_bind (policy.writable 0) (by decide) (policy.read_toValue .json)
  · exact read_text_bind (SearchConfig.writable hFinite 0) (by decide) (config.read_toValue .json)

/-- A configuration with an empty name, characters that are escaped, weights that are written with an exponent or
with the sign of zero, and no limit to the time of a request. -/
def oddConfig : SearchConfig where
  engines := [⟨"", "a \"b\" \\ \n é 𝄞", 1e-9, some 18446744073709551615, true⟩, ⟨"é", "web", -0.0, none, false⟩]
  defaultCategories := []
  requestTimeoutMs := none
  maxResults := some 0
  suspension := { timeout := .fixed 1, captcha := .exponential 0 18446744073709551615 }

theorem read_text_oddConfig : (∀ engine ∈ oddConfig.engines, engine.weight.isFinite = true) ∧
    (Json.read (text oddConfig.toValue)).bind (SearchConfig.read .json) = some oddConfig := by
  have hFinite : ∀ engine ∈ oddConfig.engines, engine.weight.isFinite = true := by decide +kernel
  exact ⟨hFinite, read_text_toValue.2.2.2.2.2 oddConfig hFinite⟩

end Metasearch
