import Metasearch.Proofs.Coordinator.Runs

/-! When an answer comes from the cache. The cache holds exactly the results of the complete answers since
the last reset, those in which every candidate was called and succeeded, and a request finds them only
while none of its candidates is suspended. -/
namespace Metasearch

namespace ResultCache

variable (cache : ResultCache)

theorem lookup_filter_of_ne {key other : CacheKey} (h : other ≠ key)
    (entries : List (CacheKey × List MergedResult)) :
    (entries.filter (·.1 != key)).lookup other = entries.lookup other := by
  induction entries with
  | nil => rfl
  | cons entry rest ih =>
      obtain ⟨first, results⟩ := entry
      by_cases hFirst : first = key
      · simp [hFirst, List.lookup_cons, beq_false_of_ne h, ih]
      · simp [hFirst, List.lookup_cons, ih]

/-- Only the results put in for a key are found under it. -/
theorem get?_insert (h : cache.lifetime ≠ 0) (key other : CacheKey) (results : List MergedResult) :
    (cache.insert key results).get? other = if other = key then some results else cache.get? other := by
  by_cases hSame : other = key
  · simp [insert, get?, h, hSame]
  · simp [insert, get?, h, hSame, List.lookup_cons, beq_false_of_ne hSame, lookup_filter_of_ne hSame]

@[simp] theorem lifetime_insert (key : CacheKey) (results : List MergedResult) :
    (cache.insert key results).lifetime = cache.lifetime := by
  unfold insert
  split <;> rfl

@[simp] theorem get?_clear (key : CacheKey) : cache.clear.get? key = none := by
  unfold get?
  split <;> rfl

end ResultCache

namespace Coordinator

open Dispatch

variable {α : Type} {coordinator : Coordinator} {request : QueryRequest} {start session final : Session α}
  {candidates : List EngineId}

/-- Answering from the cache changes of an engine at most that it is given its second chance. -/
theorem stateOf_snd_selectionOf (hOrdered : session.tracker.states.Ordered) (engine : EngineId) :
    ∃ status, (selectionOf session candidates).2.stateOf engine =
      { session.tracker.stateOf engine with status } := by
  rw [selectionOf, Health.Tracker.stateOf_select session.now hOrdered]
  split
  · exact Health.EngineState.exists_refreshed_eq _ _
  · exact ⟨_, rfl⟩

theorem Begins.cache_eq {policy : SuspensionPolicy} {past : List Health.Event}
    (hBegins : Begins coordinator policy past start) :
    start.cache = { lifetime := coordinator.config.cacheTtlSeconds.toNat } := by
  obtain ⟨config, names, tracker, last, hBuilt⟩ := hBegins.built
  obtain ⟨-, -, -, hConfig⟩ := withTracker_eq_ok hBuilt
  rw [hBegins.cache, emptyCache_of_withTracker hBuilt, hConfig]

theorem Begins.lifetime_ne_zero {policy : SuspensionPolicy} {past : List Health.Event}
    (hBegins : Begins coordinator policy past start) (hCaching : coordinator.config.cacheTtlSeconds ≠ 0) :
    start.cache.lifetime ≠ 0 ∧ start.cache.entries = [] := by
  rw [hBegins.cache_eq]
  exact ⟨fun hZero => hCaching (UInt64.toNat_inj.mp hZero), rfl⟩

variable [EngineAdapter α]

/-- The answer of a visit was made of calls to all candidates of the request, there was at least one, and
all of them succeeded. -/
structure Visit.Complete (coordinator : Coordinator) (visit : Visit α) (candidates : List EngineId)
    (response : Response) : Prop where
  answered : visit.answer = .ok response
  fresh : response.cached = false
  asked : coordinator.candidates visit.request = .ok candidates
  nonempty : candidates ≠ []
  invoked : ∀ id ∈ candidates, ∃ target ∈ coordinator.contacted visit.request visit.before,
    target.engine = id
  succeeded : ∀ id ∈ candidates, ∃ timing ∈ response.timings,
    timing.engine = id ∧ timing.succeeded = true

/-- The requests since the last reset with their answers, the latest first. -/
def sinceReset : List (Happening α) → List (Visit α)
  | .asked visit :: earlier => visit :: sinceReset earlier
  | _ => []

/-- A complete answer since the last reset has left results for a key. -/
def LeftFor (coordinator : Coordinator) (history : List (Happening α)) (key : CacheKey)
    (results : List MergedResult) : Prop :=
  ∃ visit ∈ sinceReset history, ∃ candidates response, visit.Complete coordinator candidates response ∧
    CacheKey.ofRequest visit.request candidates = key ∧ response.results = results

theorem leftFor_cons {visit : Visit α} {history : List (Happening α)} {key : CacheKey}
    {results : List MergedResult} :
    LeftFor coordinator (.asked visit :: history) key results ↔
      (∃ candidates response, visit.Complete coordinator candidates response ∧
        CacheKey.ofRequest visit.request candidates = key ∧ response.results = results) ∨
      LeftFor coordinator history key results := by
  simp [LeftFor, sinceReset]

theorem failed_calledResponse_eq_nil_iff :
    (coordinator.calledResponse request session candidates).failed = [] ↔
      ∀ timing ∈ (coordinator.calledResponse request session candidates).timings,
        timing.succeeded = true := by
  have hFailed := map_engine_failuresOf (coordinator.dispatchedOf request session candidates).report
  rw [← List.map_eq_nil_iff]
  refine (Eq.congr_left hFailed).trans ?_
  rw [List.map_eq_nil_iff, List.filter_eq_nil_iff]
  simp [calledResponse, responseOf]

/-- What is checked before an answer is kept. -/
theorem isComplete_iff_selection (hCandidates : coordinator.candidates request = .ok candidates) :
    isComplete (coordinator.pendingOf request session candidates)
        (coordinator.calledResponse request session candidates) = true ↔
      (selectionOf session candidates).1.skipped = [] ∧
      (∀ timing ∈ (coordinator.calledResponse request session candidates).timings,
        timing.succeeded = true) ∧
      (selectionOf session candidates).1.eligible.length = candidates.length ∧
      (selectionOf session candidates).1.eligible ≠ [] := by
  have hTargets : (coordinator.targetsOf (selectionOf session candidates).1.eligible).length =
      (selectionOf session candidates).1.eligible.length := by
    rw [← List.length_map (·.engine), map_engine_targetsOf_eligible hCandidates]
  rw [← hTargets, ← failed_calledResponse_eq_nil_iff, ← List.length_pos_iff, ← hTargets]
  simp [isComplete, pendingOf, calledResponse, responseOf, List.length_pos_iff, and_assoc]

/-- An answer is kept exactly if there are candidates and all of them succeeded. -/
theorem isComplete_iff (built : coordinator.Built)
    (hCandidates : coordinator.candidates request = .ok candidates) :
    isComplete (coordinator.pendingOf request session candidates)
        (coordinator.calledResponse request session candidates) = true ↔
      candidates ≠ [] ∧ ∀ id ∈ candidates,
        ∃ timing ∈ (coordinator.calledResponse request session candidates).timings,
          timing.engine = id ∧ timing.succeeded = true := by
  have hTimings : (coordinator.calledResponse request session candidates).timings.map (·.engine) =
      (selectionOf session candidates).1.eligible := map_engine_timings_calledResponse hCandidates
  have hEligible : ∀ timing ∈ (coordinator.calledResponse request session candidates).timings,
      timing.engine ∈ (selectionOf session candidates).1.eligible :=
    fun timing hMem => hTimings ▸ List.mem_map_of_mem hMem
  have hPerm : ((selectionOf session candidates).1.skipped.map (·.engine) ++
      (selectionOf session candidates).1.eligible).Perm candidates :=
    Health.Tracker.perm_select session.now session.tracker candidates
  rw [isComplete_iff_selection hCandidates]
  constructor
  · rintro ⟨hSkipped, hSucceeded, -, hNonempty⟩
    rw [hSkipped] at hPerm
    constructor
    · rintro rfl
      exact hNonempty hPerm.eq_nil
    · intro id hMem
      have hCalled := hPerm.mem_iff.mpr hMem
      rw [List.map_nil, List.nil_append, ← hTimings] at hCalled
      obtain ⟨timing, hTiming, hEngine⟩ := List.mem_map.mp hCalled
      exact ⟨timing, hTiming, hEngine, hSucceeded timing hTiming⟩
  · rintro ⟨hNonempty, hAll⟩
    have hCalled : candidates ⊆ (selectionOf session candidates).1.eligible := by
      intro id hMem
      obtain ⟨timing, hTiming, rfl, -⟩ := hAll id hMem
      exact hEligible timing hTiming
    have hSkipped : (selectionOf session candidates).1.skipped = [] :=
      Health.Tracker.skipped_eq_nil_of_subset_eligible session.now
        (built.nodup_engineIds.sublist (candidates_sublist hCandidates)) hCalled
    rw [hSkipped] at hPerm
    have hLength : (selectionOf session candidates).1.eligible.length = candidates.length :=
      hPerm.length_eq
    refine ⟨hSkipped, ?_, hLength, ?_⟩
    · intro timing hTiming
      obtain ⟨other, hOther, hEngine, hSucceeded⟩ :=
        hAll _ (hPerm.mem_iff.mp (hEligible timing hTiming))
      have hSame : other = timing := List.inj_on_of_nodup_map
        (nodup_engine_timings built hCandidates) hOther hTiming hEngine
      rwa [← hSame]
    · intro hNone
      rw [hNone] at hLength
      exact hNonempty (List.length_eq_zero_iff.mp hLength.symm)

/-- A request that is dispatched is complete exactly if its answer is kept. -/
theorem complete_iff_isComplete (built : coordinator.Built)
    (hCandidates : coordinator.candidates request = .ok candidates)
    (hHandle : coordinator.handle request session =
      .ok (.ok (coordinator.calledResponse request session candidates), final))
    {others : List EngineId} {response : Response} :
    Visit.Complete coordinator
        ⟨request, session, .ok (coordinator.calledResponse request session candidates), final⟩
        others response ↔
      isComplete (coordinator.pendingOf request session candidates)
        (coordinator.calledResponse request session candidates) = true ∧
      others = candidates ∧ response = coordinator.calledResponse request session candidates := by
  constructor
  · intro hComplete
    obtain rfl : others = candidates :=
      Except.ok.inj (hComplete.asked.symm.trans hCandidates)
    obtain rfl : _ = response := Except.ok.inj hComplete.answered
    exact ⟨(isComplete_iff built hCandidates).mpr ⟨hComplete.nonempty, hComplete.succeeded⟩, rfl, rfl⟩
  · rintro ⟨hComplete, rfl, rfl⟩
    obtain ⟨hNonempty, hSucceeded⟩ := (isComplete_iff built hCandidates).mp hComplete
    refine ⟨rfl, rfl, hCandidates, hNonempty, ?_, hSucceeded⟩
    intro id hMem
    obtain ⟨timing, hTiming, rfl, hTimely⟩ := hSucceeded id hMem
    exact exists_contacted_of_succeeded hHandle hTiming hTimely

/-- What a request that is dispatched leaves for a key. -/
theorem exists_complete_iff (built : coordinator.Built)
    (hCandidates : coordinator.candidates request = .ok candidates)
    (hHandle : coordinator.handle request session =
      .ok (.ok (coordinator.calledResponse request session candidates), final))
    {key : CacheKey} {results : List MergedResult} :
    (∃ others response, Visit.Complete coordinator
        ⟨request, session, .ok (coordinator.calledResponse request session candidates), final⟩
        others response ∧
      CacheKey.ofRequest request others = key ∧ response.results = results) ↔
      isComplete (coordinator.pendingOf request session candidates)
        (coordinator.calledResponse request session candidates) = true ∧
      CacheKey.ofRequest request candidates = key ∧
      (coordinator.calledResponse request session candidates).results = results := by
  simp only [complete_iff_isComplete built hCandidates hHandle, and_assoc, exists_and_left,
    exists_eq_left]

theorem lifetime_of_handle {answer : Except SearchError Response}
    (hHandle : coordinator.handle request session = .ok (answer, final)) :
    final.cache.lifetime = session.cache.lifetime := by
  cases answer with
  | error error => rw [eq_of_refused hHandle]
  | ok response =>
      cases answered_of_handle hHandle with
      | served hValid hCandidates hKept => rfl
      | called hValid hCandidates hKept hPermits =>
          simp only [calledSession, keep]
          split
          · exact ResultCache.lifetime_insert ..
          · rfl

variable {history : List (Happening α)} {answer : Except SearchError Response}

/-- One request adds to the cache what its answer leaves. A complete answer has found nothing under its
key, so nothing that was left before is replaced. -/
theorem get?_of_handle (built : coordinator.Built) (hOrdered : session.tracker.states.Ordered)
    (hLifetime : session.cache.lifetime ≠ 0)
    (hLeft : ∀ key results,
      session.cache.get? key = some results ↔ LeftFor coordinator history key results)
    (hHandle : coordinator.handle request session = .ok (answer, final)) (key : CacheKey)
    (results : List MergedResult) :
    final.cache.get? key = some results ↔
      LeftFor coordinator (.asked ⟨request, session, answer, final⟩ :: history) key results := by
  rw [leftFor_cons, ← hLeft]
  cases answer with
  | error error =>
      rw [eq_of_refused hHandle]
      refine (or_iff_right ?_).symm
      rintro ⟨_, _, hComplete, -⟩
      cases hComplete.answered
  | ok response =>
      cases answered_of_handle hHandle with
      | served hValid hCandidates hKept =>
          refine (or_iff_right ?_).symm
          rintro ⟨_, _, hComplete, -⟩
          cases hComplete.answered
          cases hComplete.fresh
      | @called candidates hValid hCandidates hKept hPermits =>
          rw [exists_complete_iff built hCandidates hHandle, calledSession, keep]
          cases hComplete : isComplete (coordinator.pendingOf request session candidates)
              (coordinator.calledResponse request session candidates) with
          | false => simp
          | true =>
              have hAll := (skipped_selectionOf_eq_nil_iff hOrdered).mp
                ((isComplete_iff_selection hCandidates).mp hComplete).1
              have hAbsent : session.cache.get? (CacheKey.ofRequest request candidates) ≠ some results :=
                fun hFound => by
                  rw [(keptFor_eq_some_iff hOrdered).mpr ⟨hAll, hFound⟩] at hKept
                  cases hKept
              rw [if_pos rfl, ResultCache.get?_insert _ hLifetime]
              by_cases hKey : key = CacheKey.ofRequest request candidates
              · simp [hKey, pendingOf, hAbsent]
              · simp [hKey, Ne.symm hKey, pendingOf]

theorem lifetime_of_run (hRun : RunsTo coordinator start history session) :
    session.cache.lifetime = start.cache.lifetime := by
  induction hRun with
  | start => rfl
  | pause length pool _ ih => exact ih
  | ask _ hHandle ih => exact (lifetime_of_handle hHandle).trans ih
  | reset _ ih => exact ih

/-- After any run the cache holds what complete answers since the last reset have left. -/
theorem get?_of_run {policy : SuspensionPolicy} {past : List Health.Event}
    (hBegins : Begins coordinator policy past start) (hCaching : coordinator.config.cacheTtlSeconds ≠ 0)
    (hRun : RunsTo coordinator start history session) (key : CacheKey) (results : List MergedResult) :
    session.cache.get? key = some results ↔ LeftFor coordinator history key results := by
  obtain ⟨hLifetime, hEmpty⟩ := hBegins.lifetime_ne_zero hCaching
  induction hRun generalizing key results with
  | start => simp [ResultCache.get?, hLifetime, hEmpty, LeftFor, sinceReset]
  | pause length pool _ ih => exact ih key results
  | ask hEarlier hHandle ih =>
      exact get?_of_handle hBegins.built (hEarlier.ordered hBegins.built hBegins.ordered)
        (lifetime_of_run hEarlier ▸ hLifetime) ih hHandle key results
  | reset hEarlier ih => simp [resetAll, LeftFor, sinceReset]

/-- In any run of requests and resets on a coordinator with caching on, a request is answered from the
cache exactly if none of its candidates is suspended at that moment and since the last reset a request with
the same key was answered, not from the cache, by calls to all of its candidates, of which it had some and
all succeeded. The results are then those of that answer, nobody is called, and of no engine the counters
or the streak change. -/
theorem cached_iff_answered_since_reset {policy : SuspensionPolicy} {past : List Health.Event}
    (hBegins : Begins coordinator policy past start) (hCaching : coordinator.config.cacheTtlSeconds ≠ 0)
    (hRun : RunsTo coordinator start history session) (hValid : request.validate = .ok ())
    (hCandidates : coordinator.candidates request = .ok candidates) :
    (∀ response final, coordinator.handle request session = .ok (.ok response, final) →
      (response.cached = true ↔
        (∀ id ∈ candidates, (session.tracker.stateOf id).mayRun session.now = true) ∧
        ∃ results, LeftFor coordinator history (CacheKey.ofRequest request candidates) results) ∧
      (response.cached = true →
        (∀ results, LeftFor coordinator history (CacheKey.ofRequest request candidates) results →
          response.results = results) ∧
        coordinator.contacted request session = [] ∧ final.pool = session.pool ∧
        ∀ engine, ∃ status, final.tracker.stateOf engine =
          { session.tracker.stateOf engine with status })) ∧
    ((∀ id ∈ candidates, (session.tracker.stateOf id).mayRun session.now = true) →
      (∃ results, LeftFor coordinator history (CacheKey.ofRequest request candidates) results) →
      ∃ response final, coordinator.handle request session = .ok (.ok response, final) ∧
        response.cached = true) := by
  have hOrdered := hRun.ordered hBegins.built hBegins.ordered
  have hLeft := get?_of_run hBegins hCaching hRun (CacheKey.ofRequest request candidates)
  have hKeptIff : ∀ results, keptFor request session candidates = some results ↔
      (∀ id ∈ candidates, (session.tracker.stateOf id).mayRun session.now = true) ∧
      LeftFor coordinator history (CacheKey.ofRequest request candidates) results := by
    intro results
    rw [keptFor_eq_some_iff hOrdered, hLeft]
  constructor
  · intro response final hHandle
    cases answered_of_handle hHandle with
    | @served others results _ hOthers hKept =>
        obtain rfl : others = candidates := Except.ok.inj (hOthers.symm.trans hCandidates)
        obtain ⟨hRuns, hFound⟩ := (hKeptIff results).mp hKept
        refine ⟨iff_of_true rfl ⟨hRuns, results, hFound⟩, fun _ => ⟨?_, ?_, rfl, ?_⟩⟩
        · intro again hAgain
          exact Option.some.inj (((hLeft results).mpr hFound).symm.trans ((hLeft again).mpr hAgain))
        · exact (contacted_of_kept hValid hCandidates hKept).2
        · exact stateOf_snd_selectionOf hOrdered
    | @called others _ hOthers hKept hPermits =>
        obtain rfl : others = candidates := Except.ok.inj (hOthers.symm.trans hCandidates)
        refine ⟨iff_of_false Bool.false_ne_true ?_, fun hCached => absurd hCached Bool.false_ne_true⟩
        rintro ⟨hRuns, results, hFound⟩
        cases hKept.symm.trans ((hKeptIff results).mpr ⟨hRuns, hFound⟩)
  · rintro hRuns ⟨results, hFound⟩
    have hKept := (hKeptIff results).mpr ⟨hRuns, hFound⟩
    exact ⟨_, _, handle_of_answered (.served hValid hCandidates hKept), rfl⟩

/-- Two engines whose results are kept for a minute. -/
def cachingConfig : SearchConfig :=
  { engines := [{ name := "alpha" }, { name := "beta" }], cacheTtlSeconds := 60 }

def cachingCoordinator : Coordinator :=
  { config := cachingConfig
    engines := [⟨⟨"alpha", "general"⟩, 0, none⟩, ⟨⟨"beta", "general"⟩, 1, none⟩]
    emptyCache := { lifetime := 60 } }

/-- The first engine always answers, the second breaks down from its second call on. -/
def cachingStart : Session Script :=
  { tracker := Health.Tracker.run {} [.register ⟨"alpha", "general"⟩, .register ⟨"beta", "general"⟩]
    cache := { lifetime := 60 }
    pool := [{ behaviours := [⟨10, .echo⟩] }, { behaviours := [⟨20, .echo⟩, ⟨0, .fixed .abort⟩] }]
    now := 5 }

theorem cachingStart_begins :
    Begins cachingCoordinator {} [.register ⟨"alpha", "general"⟩, .register ⟨"beta", "general"⟩]
      cachingStart := by
  have hBuilt : withTracker cachingConfig ["alpha", "beta"] (Health.Tracker.run {} []) =
      .ok (.ok cachingCoordinator, cachingStart.tracker) := rfl
  exact begins_of_withTracker hBuilt cachingStart.pool cachingStart.now

/-- A request that is spelled in another way is answered from the cache. -/
theorem cached_for_another_spelling :
    cachingCoordinator.config.cacheTtlSeconds ≠ 0 ∧
    ∃ first between response final,
      cachingCoordinator.handle { query := " Lean  Prover" } cachingStart = .ok (.ok first, between) ∧
      cachingCoordinator.handle { query := "lean prover " } { between with now := between.now + 1000 } =
        .ok (.ok response, final) ∧
      response.cached = true ∧ response.results = first.results ∧
      final.pool.map (·.calls) = [1, 1] := by
  have hCaching : cachingCoordinator.config.cacheTtlSeconds ≠ 0 := by decide
  obtain ⟨first, between, hFirst, hFresh, hTimings, hMayRun, hPool⟩ : ∃ first between,
      cachingCoordinator.handle { query := " Lean  Prover" } cachingStart = .ok (.ok first, between) ∧
      first.cached = false ∧
      first.timings = [⟨⟨"alpha", "general"⟩, 10, true⟩, ⟨⟨"beta", "general"⟩, 20, true⟩] ∧
      (∀ id ∈ cachingCoordinator.engineIds,
        (between.tracker.stateOf id).mayRun (between.now + 1000) = true) ∧
      between.pool.map (·.calls) = [1, 1] := ⟨_, _, rfl, rfl, rfl, by decide, rfl⟩
  have hContacted : (cachingCoordinator.contacted { query := " Lean  Prover" } cachingStart).map
      (·.engine) = cachingCoordinator.engineIds := rfl
  have hComplete : Visit.Complete cachingCoordinator
      ⟨{ query := " Lean  Prover" }, cachingStart, .ok first, between⟩
      cachingCoordinator.engineIds first := by
    refine ⟨rfl, hFresh, rfl, by decide, ?_, ?_⟩
    · intro id hMem
      exact List.mem_map.mp (hContacted ▸ hMem)
    · rw [hTimings]
      decide
  have hQuery : CacheKey.plainQuery " Lean  Prover" = CacheKey.plainQuery "lean prover " := by decide
  have hKey : CacheKey.ofRequest { query := " Lean  Prover" } cachingCoordinator.engineIds =
      CacheKey.ofRequest { query := "lean prover " } cachingCoordinator.engineIds := by
    simp only [CacheKey.ofRequest, hQuery]
  have hLeft : LeftFor cachingCoordinator
      [.asked ⟨{ query := " Lean  Prover" }, cachingStart, .ok first, between⟩]
      (CacheKey.ofRequest { query := "lean prover " } cachingCoordinator.engineIds) first.results :=
    ⟨_, List.mem_cons_self .., _, _, hComplete, hKey, rfl⟩
  have hValid : QueryRequest.validate { query := "lean prover " } = .ok () := rfl
  obtain ⟨hAnswer, hExists⟩ := cached_iff_answered_since_reset cachingStart_begins hCaching
    (.pause 1000 between.pool (.ask .start hFirst)) hValid rfl
  obtain ⟨response, final, hHandle, hCached⟩ := hExists hMayRun ⟨first.results, hLeft⟩
  obtain ⟨hResults, -, hSamePool, -⟩ := (hAnswer response final hHandle).2 hCached
  refine ⟨hCaching, first, between, response, final, hFirst, hHandle, hCached,
    hResults first.results hLeft, ?_⟩
  rw [hSamePool]
  exact hPool

end Coordinator

end Metasearch
