import Metasearch.Config.Document
import Metasearch.Proofs.Document.Fields
import Metasearch.Query.Document
import Metasearch.Result.Document

/-! Records read from the table that is written of them. Every record is read as it was, with the choices that
are missing in it. -/
namespace Metasearch

open Document

variable (source : Source)

/-! Requests -/

theorem TimeRange.read_toValue (range : TimeRange) : read source range.toValue = some range := by
  cases range <;> rfl

theorem SafeSearch.read_toValue (filter : SafeSearch) : read source filter.toValue = some filter := by
  cases filter <;> rfl

namespace Duration

theorem ofNanos?_inNanos (d : Duration) : ofNanos? d.inNanos = some d := by
  have hNanos : d.nanos.val < nanosPerSec := d.nanos.isLt
  have hSecs : d.inNanos / nanosPerSec = d.secs.toNat := by
    rw [inNanos, Nat.add_comm, Nat.add_mul_div_right _ _ (by decide), Nat.div_eq_of_lt hNanos, Nat.zero_add]
  have hRest : d.inNanos % nanosPerSec = d.nanos := by
    rw [inNanos, Nat.add_comm, Nat.add_mul_mod_self_right, Nat.mod_eq_of_lt hNanos]
  simp only [ofNanos?, hSecs, hRest, if_pos d.secs.toNat_lt_size, UInt64.ofNat_toNat]

theorem read_parts (secs : UInt64) (nanos : UInt32) :
    read source (.table [("secs", ofUInt64 secs), ("nanos", ofUInt32 nanos)]) = ofParts? secs nanos := by
  have hFields : asRecord source ["secs", "nanos"]
      (.table [("secs", ofUInt64 secs), ("nanos", ofUInt32 nanos)]) = some _ :=
    asRecord_of_known source (by simp) (by simp)
  have hSecs : Fields.required [("secs", ofUInt64 secs), ("nanos", ofUInt32 nanos)] "secs" asUInt64 =
      some secs := by simp [Fields.required]
  have hNanos : Fields.required [("secs", ofUInt64 secs), ("nanos", ofUInt32 nanos)] "nanos" asUInt32 =
      some nanos := by simp [Fields.required, List.lookup_cons]
  -- stepwise, for the check must not compute with the number of nanoseconds in a second
  rw [read, hFields, Option.bind_eq_bind, Option.bind_some]
  dsimp only
  rw [if_neg (by simp), hSecs, Option.bind_eq_bind, Option.bind_some, hNanos, Option.bind_eq_bind,
    Option.bind_some]

theorem read_toValue (d : Duration) : read source d.toValue = some d := by
  have hNanos : (UInt32.ofNat d.nanos).toNat = d.nanos :=
    UInt32.toNat_ofNat_of_lt' (Nat.lt_trans d.nanos.isLt (by decide))
  have hText : ofNat d.nanos = ofUInt32 (UInt32.ofNat d.nanos) := by rw [ofUInt32, hNanos, ofNat]
  rw [toValue, hText, read_parts, ofParts?, hNanos]
  exact ofNanos?_inNanos d

end Duration

theorem QueryRequest.read_toValue (request : QueryRequest) : read source request.toValue = some request := by
  have hEngines := orNull_ofOption asList_texts (by simp) request.engines
  have hLanguage := orNull_ofOption asText_text (by simp) request.language
  have hRange := orNull_ofOption (TimeRange.read_toValue source) (by simp [TimeRange.toValue]) request.timeRange
  have hTimeout := orNull_ofOption (Duration.read_toValue source) (by simp [Duration.toValue]) request.timeout
  rw [read, toValue]
  cases hGiven : request.timeout with
  | none =>
      rw [List.append_nil, asRecord_of_known source (by simp [fieldNames]) (by simp)]
      simp [Fields.required, Fields.withDefault, Fields.optional, List.lookup_cons, asText_text, asList_texts, hEngines,
        hLanguage, hRange, SafeSearch.read_toValue, ← hGiven]
  | some timeout =>
      rw [hGiven, ofOption] at hTimeout
      rw [asRecord_of_known source (by simp [fieldNames]) (by simp)]
      simp [Fields.required, Fields.withDefault, Fields.optional, List.lookup_cons, asText_text, asList_texts, hEngines,
        hLanguage, hRange, SafeSearch.read_toValue, hTimeout, ← hGiven]

/-! Hits -/

theorem EngineId.read_toValue (id : EngineId) : read source id.toValue = some id := by
  have hFields : asRecord source ["name", "category"] id.toValue = some _ :=
    asRecord_of_known source (by simp) (by decide : ["name", "category"].Nodup)
  rw [read, hFields]
  simp [Fields.required, List.lookup_cons, asText_text]

theorem RawHit.read_toValue (hit : RawHit) : read source hit.toValue = some hit := by
  have hFields : asRecord source ["url", "title", "snippet", "engine", "rank"] hit.toValue = some _ :=
    asRecord_of_known source (by simp) (by decide : ["url", "title", "snippet", "engine", "rank"].Nodup)
  rw [read, hFields]
  simp [Fields.required, List.lookup_cons, asText_text, EngineId.read_toValue]

/-! Configurations -/

theorem Backoff.read_toValue (rule : Backoff) : read rule.toValue = some rule := by
  cases rule with
  | exponential baseSecs maxSecs =>
      have hFields : asRecord .json ["base_secs", "max_secs"]
          (.table [("base_secs", ofUInt64 baseSecs), ("max_secs", ofUInt64 maxSecs)]) = some _ :=
        asRecord_of_known .json (by simp) (by simp)
      simp [read, toValue, Value.readable, Value.fieldsReadable, readContent, Strategy.read, hFields,
        Fields.required, List.lookup_cons]
  | fixed secs =>
      have hFields : asRecord .json ["secs"] (.table [("secs", ofUInt64 secs)]) = some _ :=
        asRecord_of_known .json (by simp) (by simp)
      simp [read, toValue, Value.readable, Value.fieldsReadable, readContent, Strategy.read, hFields,
        Fields.required]

theorem SuspensionPolicy.read_toValue (policy : SuspensionPolicy) : read source policy.toValue = some policy := by
  have hFields : asRecord source fieldNames policy.toValue = some _ :=
    asRecord_of_known source (by simp [fieldNames]) (by decide : fieldNames.Nodup)
  rw [read, hFields]
  simp [Fields.withDefault, List.lookup_cons, Backoff.read_toValue]

theorem EngineSettings.read_toValue (engine : EngineSettings) : read source engine.toValue = some engine := by
  have hTimeout := orNull_ofOption asUInt64_ofUInt64 (by simp [ofUInt64]) engine.timeoutMs
  have hFields : asRecord source fieldNames engine.toValue = some _ :=
    asRecord_of_known source (by simp [fieldNames]) (by decide : fieldNames.Nodup)
  rw [read, hFields]
  simp [Fields.required, Fields.withDefault, Fields.optional, List.lookup_cons, asText_text, asFloat, asBool, hTimeout]

theorem SearchConfig.read_toValue (config : SearchConfig) : read source config.toValue = some config := by
  have hEngines := asList_map (EngineSettings.read_toValue source) config.engines
  have hTimeout := orNull_ofOption asUInt64_ofUInt64 (by simp [ofUInt64]) config.requestTimeoutMs
  have hResults := orNull_ofOption asUInt64_ofUInt64 (by simp [ofUInt64]) config.maxResults
  have hFields : asRecord source fieldNames config.toValue = some _ :=
    asRecord_of_known source (by simp [fieldNames]) (by decide : fieldNames.Nodup)
  rw [read, hFields]
  simp [Fields.withDefault, List.lookup_cons, hEngines, asList_texts, hTimeout, hResults,
    SuspensionPolicy.read_toValue]

end Metasearch
