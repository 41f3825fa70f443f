import Metasearch.Proofs.Text.Bytes
import Metasearch.Proofs.Toml.Records
import Metasearch.Settings.Document

/-! Settings saved as TOML and loaded again. All that is saved comes back, but for a request timeout that is
switched off: the text cannot hold its absence, and the default is read in its place. -/
namespace Metasearch

open Document Toml

/-- The fields of a table. -/
def tableFields : Value → List (String × Value)
  | .table fields => fields
  | _ => []

theorem table_tableFields {v : Value} (h : isTable v = true) : Value.table (tableFields v) = v := by
  cases v <;> first | rfl | contradiction

/-! What is read -/

namespace EngineSettings

theorem read_arrange (engine : EngineSettings) : read .toml (arrange engine.toValue) = some engine := by
  have hNodup : ((tableFields engine.toValue).map Prod.fst).Nodup := (by decide : fieldNames.Nodup)
  have hFields : asRecord .toml fieldNames (arrange engine.toValue) = some _ := asRecord_arrange hNodup .toml
  rw [read, hFields, Option.bind_eq_bind, Option.bind_some]
  simp only [required_arranged hNodup, withDefault_arranged hNodup, Fields.optional]
  simp [tableFields, toValue, List.lookup_cons, asText, asFloat, asBool]

end EngineSettings

namespace SimulatedEngineConfig

theorem read_arrange (config : SimulatedEngineConfig) :
    read .toml (arrange config.toValue) = some config := by
  have hKind : FailureKind.read .toml (.text config.failureKind.name) = some config.failureKind := by
    cases config.failureKind <;> decide
  have hNodup : ((tableFields config.toValue).map Prod.fst).Nodup := (by decide : fieldNames.Nodup)
  have hFields : asRecord .toml fieldNames (arrange config.toValue) = some _ := asRecord_arrange hNodup .toml
  rw [read, hFields, Option.bind_eq_bind, Option.bind_some]
  simp only [withDefault_arranged hNodup, Fields.optional]
  simp [tableFields, toValue, List.lookup_cons, asText, asFloat, FailureKind.toValue, hKind]

end SimulatedEngineConfig

namespace Backoff

theorem isTable_toValue (rule : Backoff) : isTable rule.toValue = true := by
  cases rule <;> rfl

theorem read_arrange (rule : Backoff) : read (arrange rule.toValue) = some rule := by
  have hNumber (n : UInt64) : asUInt64 (.int n.toNat) = some n := asUInt64_ofUInt64 n
  cases rule <;>
    simp [read, toValue, arrange, arrangeHeaded, isInline, isHeaded, ofUInt64, asRecord, readContent,
      Strategy.read, namesDistinct, Fields.required, List.lookup_cons, hNumber, Value.readable,
      Value.fieldsReadable]

end Backoff

namespace SuspensionPolicy

theorem read_arrange (policy : SuspensionPolicy) : read .toml (arrange policy.toValue) = some policy := by
  have hNodup : ((tableFields policy.toValue).map Prod.fst).Nodup := (by decide : fieldNames.Nodup)
  have hFields : asRecord .toml fieldNames (arrange policy.toValue) = some _ := asRecord_arrange hNodup .toml
  have hKept (rule : Backoff) : kept rule.toValue = some (arrange rule.toValue) :=
    kept_of_isTable rule.isTable_toValue
  rw [read, hFields, Option.bind_eq_bind, Option.bind_some]
  simp only [withDefault_arranged hNodup]
  simp [tableFields, toValue, List.lookup_cons, hKept, Backoff.read_arrange]

end SuspensionPolicy

namespace SearchConfig

/-- A configuration as its text gives it back. A request timeout that is switched off leaves no trace in the
text. -/
def reloaded (config : SearchConfig) : SearchConfig :=
  { config with requestTimeoutMs := config.requestTimeoutMs.or ({} : SearchConfig).requestTimeoutMs }

theorem read_arrange (config : SearchConfig) : read .toml (arrange config.toValue) = some config.reloaded := by
  have hNodup : ((tableFields config.toValue).map Prod.fst).Nodup := (by decide : fieldNames.Nodup)
  have hFields : asRecord .toml fieldNames (arrange config.toValue) = some _ := asRecord_arrange hNodup .toml
  have hEngines (usual : Option (List EngineSettings)) :=
    elim_kept_records (fun _ => rfl) EngineSettings.read_arrange usual config.engines
  have hCategories := asList_texts config.defaultCategories
  have hPolicy : kept config.suspension.toValue = some (arrange config.suspension.toValue) := rfl
  rw [read, hFields, Option.bind_eq_bind, Option.bind_some]
  simp only [withDefault_arranged hNodup]
  simp [tableFields, toValue, List.lookup_cons, hEngines, hCategories, hPolicy, SuspensionPolicy.read_arrange,
    reloaded]

end SearchConfig

namespace Settings

/-- Settings as their text gives them back. -/
def reloaded (settings : Settings) : Settings :=
  { settings with search := settings.search.reloaded }

theorem read_arrange (settings : Settings) :
    read .toml (arrange settings.toValue) = some settings.reloaded := by
  have hNodup : (settings.fields.map Prod.fst).Nodup := (by decide : ["search", "simulated"].Nodup)
  have hFields : asRecord .toml ["search", "simulated"] (arrange settings.toValue) = some _ :=
    asRecord_arrange hNodup .toml
  have hSearch : kept settings.search.toValue = some (arrange settings.search.toValue) := rfl
  have hSimulated (usual : Option (List SimulatedEngineConfig)) :=
    elim_kept_records (fun _ => rfl) SimulatedEngineConfig.read_arrange usual settings.simulated
  rw [read, hFields, Option.bind_eq_bind, Option.bind_some]
  simp only [withDefault_arranged hNodup]
  simp [fields, List.lookup_cons, hSearch, SearchConfig.read_arrange, hSimulated, reloaded]

end Settings

/-! What can be written -/

theorem laid_ofOption (n : Option UInt64) {height : Nat} {name : String} {rest : List (String × Value)}
    (hName : Bare name) (hNew : name ∉ rest.map Prod.fst) (hRest : Laid height rest) :
    Laid height ((name, ofOption ofUInt64 n) :: rest) := by
  cases n with
  | none => exact .null hNew hRest
  | some n => exact .plain hName hNew (.scalar (.int _)) hRest

theorem laid_records {α : Type} {write : α → Value} (hTable : ∀ a, isTable (write a) = true) {items : List α}
    {height : Nat} (hItems : ∀ a ∈ items, Laid height (tableFields (write a))) {name : String}
    {rest : List (String × Value)} (hName : Bare name) (hNew : name ∉ rest.map Prod.fst)
    (hRest : Laid (height + 1) rest) : Laid (height + 1) ((name, .list (items.map write)) :: rest) := by
  cases items with
  | nil => exact .plain hName hNew (.list (fun _ hMem => absurd hMem List.not_mem_nil)) hRest
  | cons a items =>
      have hRows : (a :: items).map write =
          (tableFields (write a) :: items.map (tableFields ∘ write)).map .table := by
        simp [table_tableFields, hTable, Function.comp_def]
      rw [hRows]
      refine .tables hName hNew (hItems a (List.mem_cons_self ..)) ?_ hRest
      intro row hRow
      obtain ⟨b, hMem, rfl⟩ := List.mem_map.mp hRow
      exact hItems b (List.mem_cons_of_mem _ hMem)

theorem EngineSettings.laid {engine : EngineSettings} (hNumber : engine.weight.isNaN = false) (height : Nat) :
    Laid height (tableFields engine.toValue) := by
  refine .plain (by decide) (by simp) (.scalar (.text _)) ?_
  refine .plain (by decide) (by simp) (.scalar (.text _)) ?_
  refine .plain (by decide) (by simp) (.scalar (.float hNumber)) ?_
  refine laid_ofOption _ (by decide) (by simp) ?_
  exact .plain (by decide) (by simp) (.scalar (.bool _)) (.nil height)

theorem SimulatedEngineConfig.laid {config : SimulatedEngineConfig} (hWeight : config.weight.isNaN = false)
    (hRate : config.failureRate.isNaN = false) (height : Nat) : Laid height (tableFields config.toValue) := by
  refine .plain (by decide) (by simp) (.scalar (.text _)) ?_
  refine .plain (by decide) (by simp) (.scalar (.text _)) ?_
  refine .plain (by decide) (by simp) (.scalar (.float hWeight)) ?_
  refine .plain (by decide) (by simp) (.scalar (.int _)) ?_
  refine .plain (by decide) (by simp) (.scalar (.int _)) ?_
  refine .plain (by decide) (by simp) (.scalar (.float hRate)) ?_
  refine .plain (by decide) (by simp) (.scalar (.text _)) ?_
  refine .plain (by decide) (by simp) (.scalar (.int _)) ?_
  exact laid_ofOption _ (by decide) (by simp) (.nil height)

theorem Backoff.laid (rule : Backoff) (height : Nat) : Laid height (tableFields rule.toValue) := by
  cases rule with
  | exponential =>
      refine .plain (by decide) (by simp) (.scalar (.text _)) ?_
      refine .plain (by decide) (by simp) (.scalar (.int _)) ?_
      exact .plain (by decide) (by simp) (.scalar (.int _)) (.nil height)
  | fixed =>
      refine .plain (by decide) (by simp) (.scalar (.text _)) ?_
      exact .plain (by decide) (by simp) (.scalar (.int _)) (.nil height)

theorem laid_rule (rule : Backoff) {height : Nat} {name : String} {rest : List (String × Value)}
    (hName : Bare name) (hNew : name ∉ rest.map Prod.fst) (hRest : Laid (height + 1) rest) :
    Laid (height + 1) ((name, rule.toValue) :: rest) := by
  rw [← table_tableFields rule.isTable_toValue]
  refine .table hName hNew (rule.laid height) (.inr ?_) hRest
  cases rule <;> exact ⟨_, List.mem_cons_self .., rfl⟩

theorem SuspensionPolicy.laid (policy : SuspensionPolicy) (height : Nat) :
    Laid (height + 1) (tableFields policy.toValue) := by
  refine laid_rule _ (by decide) (by simp) ?_
  refine laid_rule _ (by decide) (by simp) ?_
  refine laid_rule _ (by decide) (by simp) ?_
  refine laid_rule _ (by decide) (by simp) ?_
  refine laid_rule _ (by decide) (by simp) ?_
  exact laid_rule _ (by decide) (by simp) (.nil _)

theorem SearchConfig.laid {config : SearchConfig}
    (hNumbers : ∀ engine ∈ config.engines, engine.weight.isNaN = false) (height : Nat) :
    Laid (height + 2) (tableFields config.toValue) := by
  have hPolicy : ∃ field ∈ tableFields config.suspension.toValue, isInline field.2 || isHeaded field.2 := by
    refine ⟨_, List.mem_cons_self .., ?_⟩
    cases config.suspension.timeout <;> rfl
  have hCategories : ∀ v ∈ config.defaultCategories.map .text, Scalar v := by
    intro v hMem
    obtain ⟨s, -, rfl⟩ := List.mem_map.mp hMem
    exact .text s
  refine laid_records (fun _ => rfl) (fun engine hMem => engine.laid (hNumbers engine hMem) _) (by decide)
    (by simp) ?_
  refine .plain (by decide) (by simp) (.list hCategories) ?_
  refine .plain (by decide) (by simp) (.scalar (.int _)) ?_
  refine laid_ofOption _ (by decide) (by simp) ?_
  refine .plain (by decide) (by simp) (.scalar (.int _)) ?_
  refine laid_ofOption _ (by decide) (by simp) ?_
  refine .plain (by decide) (by simp) (.scalar (.int _)) ?_
  refine .table (by decide) (by simp) (config.suspension.laid height) (.inr hPolicy) ?_
  exact .plain (by decide) (by simp) (.scalar (.int _)) (.nil _)

namespace Settings

/-- No weight and no rate of failure is undefined. -/
def Numeric (settings : Settings) : Prop :=
  (∀ engine ∈ settings.search.engines, engine.weight.isNaN = false) ∧
    ∀ sim ∈ settings.simulated, sim.weight.isNaN = false ∧ sim.failureRate.isNaN = false

theorem laid {settings : Settings} (h : settings.Numeric) : Laid 3 settings.fields := by
  have hSearch : ∃ field ∈ tableFields settings.search.toValue, isInline field.2 || isHeaded field.2 := by
    refine ⟨("engine_timeout_ms", ofUInt64 settings.search.engineTimeoutMs), ?_, rfl⟩
    simp [SearchConfig.toValue, tableFields]
  refine .table (by decide) (by simp) (SearchConfig.laid h.1 0) (.inr hSearch) ?_
  refine laid_records (fun _ => rfl) (fun sim hMem => ?_) (by decide) (by simp) (.nil _)
  exact SimulatedEngineConfig.laid (h.2 sim hMem).1 (h.2 sim hMem).2 _

/-- Settings that were saved are loaded again with every field as it was, but for a request timeout that is
switched off. -/
theorem ofFile_toToml {settings : Settings} (hNumeric : settings.Numeric) {text : String}
    (hSaved : settings.toToml = .ok text) :
    ofFile (some (Text.Utf8.encode text.toList)) = .ok settings.reloaded := by
  unfold toToml at hSaved
  split at hSaved
  case h_2 => contradiction
  case h_1 written hText =>
    obtain rfl := Except.ok.inj hSaved
    have hValue : (Toml.read written).bind (read .toml) = some settings.reloaded := by
      rw [read_text? (laid hNumeric) (by decide) hText]
      exact read_arrange settings
    simp [ofFile, Text.Utf8.decode?_encode, ofToml, hValue]

theorem exists_toToml {settings : Settings} (hFits : fieldsFit settings.fields = true) :
    ∃ text, settings.toToml = .ok text := by
  rw [toToml, text?, if_pos hFits]
  exact ⟨_, rfl⟩

theorem reloaded_eq_iff (settings : Settings) :
    settings.reloaded = settings ↔ settings.search.requestTimeoutMs ≠ none := by
  obtain ⟨⟨_, _, _, requestTimeout, _, _, _, _, _⟩, _⟩ := settings
  cases requestTimeout <;> simp [reloaded, SearchConfig.reloaded]

/-- Saved settings are loaded with every field, and are the same exactly if they limit the time of a request. -/
theorem loads_saved {settings : Settings} (hNumeric : settings.Numeric) {text : String}
    (hSaved : settings.toToml = .ok text) :
    ofFile (some (Text.Utf8.encode text.toList)) = .ok settings.reloaded ∧
      (settings.reloaded = settings ↔ settings.search.requestTimeoutMs ≠ none) :=
  ⟨ofFile_toToml hNumeric hSaved, settings.reloaded_eq_iff⟩

/-- Settings with a weight, a timeout and a simulated engine of their own. -/
def tuned : Settings where
  search := { engines := [⟨"a", "web", 0.1, some 250, true⟩], maxResults := some 7 }
  simulated := [{ name := "a", weight := 2.5, failureRate := 1e-9, seed := some 3 }]

theorem numeric_tuned : tuned.Numeric := by
  refine ⟨fun engine hMem => ?_, fun sim hMem => ?_⟩
  · rw [List.mem_singleton.mp hMem]
    decide +kernel
  · rw [List.mem_singleton.mp hMem]
    decide +kernel

theorem loads_saved_tuned :
    ∃ text, tuned.toToml = .ok text ∧ ofFile (some (Text.Utf8.encode text.toList)) = .ok tuned := by
  obtain ⟨text, hSaved⟩ := exists_toToml (by decide : fieldsFit tuned.fields = true)
  obtain ⟨hLoaded, hSame⟩ := loads_saved numeric_tuned hSaved
  exact ⟨text, hSaved, hSame.mpr (by decide) ▸ hLoaded⟩

/-- Settings that leave the time of a request unlimited. -/
def unlimited : Settings where
  search := { requestTimeoutMs := none }

/-- Saved without a limit to the time of a request, settings are loaded with one. -/
theorem loading_unlimited_limits :
    unlimited.Numeric ∧ unlimited ≠ {} ∧
      ∃ text, unlimited.toToml = .ok text ∧ ofFile (some (Text.Utf8.encode text.toList)) = .ok {} := by
  have hNumeric : unlimited.Numeric := by simp [Numeric, unlimited]
  obtain ⟨text, hSaved⟩ := exists_toToml (by decide : fieldsFit unlimited.fields = true)
  refine ⟨hNumeric, fun hSame => ?_, text, hSaved, ofFile_toToml hNumeric hSaved⟩
  cases congrArg (·.search.requestTimeoutMs) hSame

end Settings

end Metasearch
