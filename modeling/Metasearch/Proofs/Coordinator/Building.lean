import Mathlib.Data.List.Induction
import Metasearch.Proofs.Coordinator.Built

/-! When a configuration can be built. It has to be valid, each of its engines that is switched on needs an
adapter, and the lifetime of kept results must be one that the cache can hold. The last is not part of
validity, and to build a configuration with a longer lifetime crashes. -/
namespace Metasearch

/-- There is an adapter for the name of each engine that is switched on. -/
def SearchConfig.Equipped (config : SearchConfig) (names : List String) : Prop :=
  ∀ engine ∈ config.engines, engine.disabled = false → engine.name ∈ names

namespace Coordinator

variable {names : List String}

/-- An adapter takes the place of those of the same name before it. -/
theorem adapterOf?_append_singleton (names : List String) (last name : String) :
    adapterOf? (names ++ [last]) name =
      if last = name then some names.length else adapterOf? names name := by
  simp only [adapterOf?, List.zipIdx_append, List.filter_append]
  by_cases hName : last = name <;> simp [hName]

/-- The adapter of a name is the last one that has it. -/
theorem adapterOf?_eq_some_iff {name : String} {adapter : Nat} :
    adapterOf? names name = some adapter ↔
      names[adapter]? = some name ∧ ∀ other, names[other]? = some name → other ≤ adapter := by
  induction names using List.reverseRecOn with
  | nil => simp [adapterOf?]
  | append_singleton names last ih =>
      have hLast : (names ++ [last])[names.length]? = some last := List.getElem?_concat_length
      have hBound : ∀ other : Nat, (names ++ [last])[other]? = some name → other ≤ names.length := by
        intro other hOther
        simpa [Nat.lt_succ_iff] using (List.getElem?_eq_some_iff.mp hOther).1
      rw [adapterOf?_append_singleton]
      split
      · rename_i hName
        subst hName
        rw [Option.some_inj]
        constructor
        · rintro rfl
          exact ⟨hLast, hBound⟩
        · rintro ⟨hThere, hLatest⟩
          exact Nat.le_antisymm (hLatest _ hLast) (hBound _ hThere)
      · rename_i hName
        have hSame : ∀ other : Nat, (names ++ [last])[other]? = some name ↔ names[other]? = some name := by
          intro other
          rcases Nat.lt_trichotomy other names.length with hLess | rfl | hMore
          · rw [List.getElem?_append_left hLess]
          · simp [hName]
          · rw [List.getElem?_eq_none (Nat.le_of_lt hMore), List.getElem?_eq_none]
            simpa using Nat.succ_le_of_lt hMore
        simp only [hSame, ih]

theorem exists_adapterOf?_iff {name : String} :
    (∃ adapter, adapterOf? names name = some adapter) ↔ name ∈ names := by
  induction names using List.reverseRecOn with
  | nil => simp [adapterOf?]
  | append_singleton names last ih =>
      rw [adapterOf?_append_singleton, List.mem_append, List.mem_singleton, ← ih]
      split
      · rename_i hName
        exact iff_of_true ⟨_, rfl⟩ (Or.inr hName.symm)
      · rename_i hName
        exact (or_iff_left (Ne.symm hName)).symm

/-- Registration succeeds exactly if every engine has an adapter. -/
theorem exists_registerAll_iff {engines : List EngineSettings} (tracker : Health.Tracker) :
    (∃ registered final, registerAll names engines tracker = (.ok registered, final)) ↔
      ∀ engine ∈ engines, engine.name ∈ names := by
  induction engines generalizing tracker with
  | nil => simp [registerAll]
  | cons engine rest ih =>
      rw [List.forall_mem_cons, ← ih (tracker.register engine.id), ← exists_adapterOf?_iff]
      constructor
      · rintro ⟨registered, final, h⟩
        obtain ⟨adapter, others, hAdapter, hRest, -⟩ := registerAll_cons_eq_ok h
        exact ⟨⟨adapter, hAdapter⟩, others, final, hRest⟩
      · rintro ⟨⟨adapter, hAdapter⟩, others, final, hRest⟩
        refine ⟨⟨engine.id, adapter, engine.timeout⟩ :: others, final, ?_⟩
        simp only [registerAll, hAdapter, hRest]
        rfl

/-- Each engine is registered with the adapter of its name. -/
theorem adapter_of_registerAll {engines : List EngineSettings} {tracker final : Health.Tracker}
    {registered : List Registration} (h : registerAll names engines tracker = (.ok registered, final)) :
    ∀ registration ∈ registered,
      adapterOf? names registration.id.name = some registration.adapter := by
  induction engines generalizing tracker registered with
  | nil =>
      cases h
      exact fun _ hMem => nomatch hMem
  | cons engine rest ih =>
      obtain ⟨adapter, others, hAdapter, hRest, rfl⟩ := registerAll_cons_eq_ok h
      exact List.forall_mem_cons.mpr ⟨hAdapter, ih hRest⟩

theorem equipped_iff {config : SearchConfig} (tracker : Health.Tracker) :
    config.Equipped names ↔ ∃ registered final,
      registerAll names (config.engines.filter (!·.disabled)) tracker = (.ok registered, final) := by
  rw [exists_registerAll_iff]
  simp [SearchConfig.Equipped]

/-- A valid configuration with an adapter for each engine is built as far as its cache. -/
theorem withTracker_of_equipped {config : SearchConfig} {tracker final : Health.Tracker}
    {registered : List Registration} (hValid : config.validate = .ok ())
    (hRegistered : registerAll names (config.engines.filter (!·.disabled)) tracker =
      (.ok registered, final)) :
    withTracker config names tracker =
      if config.cacheTtlSeconds.toNat > ResultCache.maxLifetime then .error .cacheLifetime
      else .ok (.ok ⟨config, registered, { lifetime := config.cacheTtlSeconds.toNat }⟩, final) := by
  by_cases hLong : config.cacheTtlSeconds.toNat > ResultCache.maxLifetime <;>
    simp [withTracker, hValid, hRegistered, ResultCache.ofLifetime, hLong]

/-- A coordinator comes out exactly if the configuration is valid, each engine has its adapter, and the
cache can hold results for as long as they are to be kept. -/
theorem exists_withTracker_iff (config : SearchConfig) (tracker : Health.Tracker) :
    (∃ coordinator final, withTracker config names tracker = .ok (.ok coordinator, final)) ↔
      config.validate = .ok () ∧ config.Equipped names ∧
      config.cacheTtlSeconds.toNat ≤ ResultCache.maxLifetime := by
  constructor
  · rintro ⟨coordinator, final, h⟩
    obtain ⟨hValid, hRegistered, -, -⟩ := withTracker_eq_ok h
    refine ⟨hValid, (equipped_iff tracker).mpr ⟨_, _, hRegistered⟩, Nat.le_of_not_gt fun hLong => ?_⟩
    rw [withTracker_of_equipped hValid hRegistered, if_pos hLong] at h
    cases h
  · rintro ⟨hValid, hEquipped, hShort⟩
    obtain ⟨registered, final, hRegistered⟩ := (equipped_iff tracker).mp hEquipped
    rw [withTracker_of_equipped hValid hRegistered, if_neg (Nat.not_lt.mpr hShort)]
    exact ⟨_, _, rfl⟩

/-- Only a lifetime that is too long for the cache makes it crash to build a configuration. -/
theorem withTracker_eq_error_iff (config : SearchConfig) (tracker : Health.Tracker) (crash : Crash) :
    withTracker config names tracker = .error crash ↔
      crash = .cacheLifetime ∧ config.validate = .ok () ∧ config.Equipped names ∧
      ResultCache.maxLifetime < config.cacheTtlSeconds.toNat := by
  constructor
  · intro h
    cases hValid : config.validate with
    | error fault =>
        rw [withTracker, hValid] at h
        cases h
    | ok =>
        cases hRegistered : registerAll names (config.engines.filter (!·.disabled)) tracker with
        | mk result final =>
            cases result with
            | error fault =>
                simp only [withTracker, hValid, hRegistered] at h
                cases h
            | ok registered =>
                rw [withTracker_of_equipped hValid hRegistered] at h
                split at h
                · rename_i hLong
                  cases h
                  exact ⟨rfl, rfl, (equipped_iff tracker).mpr ⟨_, _, hRegistered⟩, hLong⟩
                · cases h
  · rintro ⟨rfl, hValid, hEquipped, hLong⟩
    obtain ⟨registered, final, hRegistered⟩ := (equipped_iff tracker).mp hEquipped
    rw [withTracker_of_equipped hValid hRegistered, if_pos hLong]

/-- A valid configuration with an adapter for each engine that is switched on is built, unless results are
to be kept for longer than the cache can, which is the only crash. What is built keeps the configuration,
and has the engines that are switched on, in order, each with the last adapter of its name. -/
theorem build_succeeds_iff (config : SearchConfig) (names : List String) :
    ((∃ coordinator tracker, build config names = .ok (.ok coordinator, tracker)) ↔
      config.validate = .ok () ∧ config.Equipped names ∧
      config.cacheTtlSeconds.toNat ≤ ResultCache.maxLifetime) ∧
    (∀ crash, build config names = .error crash ↔
      crash = .cacheLifetime ∧ config.validate = .ok () ∧ config.Equipped names ∧
      ResultCache.maxLifetime < config.cacheTtlSeconds.toNat) ∧
    ∀ coordinator tracker, build config names = .ok (.ok coordinator, tracker) →
      coordinator.config = config ∧
      coordinator.engineIds = (config.engines.filter (!·.disabled)).map EngineSettings.id ∧
      ∀ registration ∈ coordinator.engines,
        names[registration.adapter]? = some registration.id.name ∧
        ∀ other : Nat, names[other]? = some registration.id.name → other ≤ registration.adapter := by
  refine ⟨exists_withTracker_iff config _, withTracker_eq_error_iff config _, ?_⟩
  intro coordinator tracker hBuilt
  obtain ⟨-, hRegistered, -, hConfig⟩ := withTracker_eq_ok hBuilt
  refine ⟨hConfig, map_id_of_registerAll hRegistered, ?_⟩
  intro registration hMem
  exact adapterOf?_eq_some_iff.mp (adapter_of_registerAll hRegistered registration hMem)

/-- One engine whose results are kept for a number of seconds. -/
def keepingConfig (secs : UInt64) : SearchConfig :=
  { engines := [{ name := "a" }], cacheTtlSeconds := secs }

theorem keepingConfig_equipped (secs : UInt64) : (keepingConfig secs).Equipped ["a"] := by
  simp [SearchConfig.Equipped, keepingConfig]

/-- A thousand years are not too long. -/
theorem build_succeeds_for_a_thousand_years :
    ∃ coordinator tracker, build (keepingConfig 31536000000) ["a"] = .ok (.ok coordinator, tracker) ∧
      coordinator.config = keepingConfig 31536000000 ∧
      coordinator.engineIds = [⟨"a", "general"⟩] := by
  obtain ⟨hIff, -, hWhat⟩ := build_succeeds_iff (keepingConfig 31536000000) ["a"]
  obtain ⟨coordinator, tracker, hBuilt⟩ := hIff.mpr ⟨rfl, keepingConfig_equipped _, by decide⟩
  obtain ⟨hConfig, hEngines, -⟩ := hWhat coordinator tracker hBuilt
  exact ⟨coordinator, tracker, hBuilt, hConfig, hEngines⟩

/-- A valid configuration with an adapter for each engine may crash when it is built. -/
theorem exists_valid_config_that_crashes :
    ∃ config names, SearchConfig.validate config = .ok () ∧ config.Equipped names ∧
      build config names = .error .cacheLifetime :=
  ⟨keepingConfig 31536000001, ["a"], rfl, keepingConfig_equipped _, rfl⟩

end Coordinator

end Metasearch
