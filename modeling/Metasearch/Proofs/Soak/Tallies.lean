import Metasearch.Proofs.Coordinator.Listed
import Metasearch.Proofs.Entries
import Metasearch.Proofs.Health.Suspensions
import Metasearch.Proofs.Soak.Searches

/-! How often a report counts a name. A result counts for a name as often as engines of that name returned
it, and a search as often as engines of that name gave nothing. Engines of one name in different categories
are different engines, so a tally stays within its total only where no two of them can answer one search. -/
namespace Metasearch

namespace Coordinator

variable {coordinator : Coordinator} {query : String} {candidates : List EngineId}

/-- The engines that are switched on in the default categories. -/
def defaultEngines (coordinator : Coordinator) : List EngineId :=
  (coordinator.inCategories (coordinator.wantedCategories { query := "" })).map Registration.id

/-- How many engines of a name are switched on in the default categories. -/
def namesakes (coordinator : Coordinator) (name : String) : Nat :=
  (coordinator.defaultEngines.map EngineId.name).count name

/-- A query alone is for all engines of the default categories. -/
theorem candidates_query (h : coordinator.candidates { query } = .ok candidates) :
    candidates = coordinator.defaultEngines := by
  simp only [Coordinator.candidates] at h
  split at h
  · cases h
  · cases h
    exact List.filter_eq_self.mpr fun _ _ => rfl

theorem candidates_query_eq_ok (query : String) (hSome : coordinator.defaultEngines ≠ []) :
    coordinator.candidates { query } = .ok coordinator.defaultEngines := by
  cases hCandidates : coordinator.candidates { query } with
  | ok candidates => rw [candidates_query hCandidates]
  | error error =>
      simp only [Coordinator.candidates] at hCandidates
      split at hCandidates
      · rename_i hNone
        exact absurd (List.map_eq_nil_iff.mpr (List.isEmpty_iff.mp hNone)) hSome
      · cases hCandidates

/-- Engines that are distinct candidates of a query bear a name as often as engines of the default
categories at most. -/
theorem count_name_le_namesakes {ids : List EngineId} (h : coordinator.candidates { query } = .ok candidates)
    (hIds : ids.Subperm candidates) (name : String) :
    (ids.map EngineId.name).count name ≤ coordinator.namesakes name := by
  obtain ⟨part, hPerm, hPart⟩ := hIds
  rw [namesakes, ← candidates_query h, ← (hPerm.map EngineId.name).count_eq name]
  exact (hPart.map EngineId.name).count_le name

end Coordinator

namespace Soak

open Coordinator

theorem count_eq_change (tally : Tally Nat) (name : String) :
    tally.count name = Entries.change (fun n => n.getD 0 + 1) name tally := by
  induction tally with
  | nil => rfl
  | cons first rest ih =>
      obtain ⟨key, value⟩ := first
      unfold Tally.count at ih ⊢
      simp only [Tally.change, Entries.change_cons, ih]

theorem ordered_foldl_count {tally : Tally Nat} (h : Entries.Ordered tally) (names : List String) :
    Entries.Ordered (names.foldl Tally.count tally) := by
  induction names generalizing tally with
  | nil => exact h
  | cons first rest ih =>
      refine ih ?_
      rw [count_eq_change]
      exact Entries.Ordered.change _ h first

/-- Counting names adds to the count of each as often as it occurs. -/
theorem lookup_foldl_count {tally : Tally Nat} (h : Entries.Ordered tally) (names : List String)
    (name : String) :
    (names.foldl Tally.count tally).lookup name =
      if name ∈ names then some ((tally.lookup name).getD 0 + names.count name) else tally.lookup name := by
  induction names generalizing tally with
  | nil => simp
  | cons first rest ih =>
      rw [List.foldl_cons, count_eq_change, ih (Entries.Ordered.change _ h first)]
      by_cases hName : name = first
      · subst hName
        by_cases hRest : name ∈ rest <;>
          simp [Entries.lookup_change_self _ h, hRest, List.count_eq_zero_of_not_mem, Nat.add_right_comm,
            Nat.add_assoc]
      · simp [Entries.lookup_change_of_ne _ hName, hName, List.count_cons_of_ne (Ne.symm hName)]

/-- A name stands in a tally with its number, if it occurs at all. -/
theorem mem_foldl_count_iff {names : List String} {name : String} {n : Nat} :
    (name, n) ∈ names.foldl Tally.count [] ↔ name ∈ names ∧ n = names.count name := by
  have hEmpty : Entries.Ordered ([] : Tally Nat) := List.Pairwise.nil
  rw [← (ordered_foldl_count hEmpty names).lookup_eq_some_iff, lookup_foldl_count hEmpty]
  by_cases hName : name ∈ names <;> simp [hName, eq_comm]

theorem count_flatMap_le {α : Type} {f : α → List String} {xs : List α} {name : String} {most : Nat}
    (h : ∀ x ∈ xs, (f x).count name ≤ most) : (xs.flatMap f).count name ≤ most * xs.length := by
  induction xs with
  | nil => simp
  | cons x rest ih =>
      have hFirst := h x (List.mem_cons_self ..)
      have hRest := ih fun y hMem => h y (List.mem_cons_of_mem _ hMem)
      rw [List.flatMap_cons, List.count_append, List.length_cons, Nat.mul_succ]
      omega

/-- The results of all answers of a run. -/
def resultsOf (records : List SearchRecord) : List MergedResult :=
  (answersOf records).flatMap Response.results

/-- The names of the engines that results come from, once for each result and engine. -/
def creditedNames (records : List SearchRecord) : List String :=
  (resultsOf records).flatMap MergedResult.engineNames

/-- The names of the engines that gave nothing, once for each answer and engine. -/
def silentNames (records : List SearchRecord) : List String :=
  (answersOf records).flatMap fun response => response.unresponsive.map Prod.fst

/-- The tallies of a report and their totals. -/
theorem tallies_recordAll (records : List SearchRecord) :
    (({} : Report).recordAll records).engineResults = (creditedNames records).foldl Tally.count [] ∧
    (({} : Report).recordAll records).unresponsiveCounts = (silentNames records).foldl Tally.count [] ∧
    (({} : Report).recordAll records).totalResults = (resultsOf records).length ∧
    (({} : Report).recordAll records).successfulSearches = (answersOf records).length := by
  have hLength : (resultsOf records).length = ((answersOf records).map Response.numberOfResults).sum :=
    List.length_flatMap
  rw [Report.recordAll_eq, hLength]
  simp [creditedNames, silentNames, resultsOf, List.flatMap_assoc]

/-- Each tally of a report stays within its total, times what is granted for the name. -/
def Report.TalliesWithin (report : Report) (granted : String → Nat) : Prop :=
  (∀ name n, (name, n) ∈ report.engineResults → n ≤ granted name * report.totalResults) ∧
  ∀ name n, (name, n) ∈ report.unresponsiveCounts → n ≤ granted name * report.successfulSearches

variable {α : Type} [EngineAdapter α] {coordinator : Coordinator} {options : Options}
  {policy : SuspensionPolicy} {past : List Health.Event} {start session : Session α}
  {history : List (Happening α)} {record : SearchRecord} {response : Response}

theorem mem_answersOf {records : List SearchRecord} :
    response ∈ answersOf records ↔ ∃ record ∈ records, record.outcome = .ok response := by
  simp only [answersOf, List.mem_filterMap]
  refine exists_congr fun record => and_congr_right fun _ => ?_
  cases record.outcome <;> simp [Except.toOption]

/-- A result of a search that is made names an engine as often as it has namesakes at most. -/
theorem count_engineNames_le (hBegins : Begins coordinator policy past start)
    (hMade : Made coordinator start record) (hOutcome : record.outcome = .ok response)
    {result : MergedResult} (hResult : result ∈ response.results) (name : String) :
    result.engineNames.count name ≤ coordinator.namesakes name := by
  obtain ⟨history, before, after, hRun, hHandle⟩ := hMade
  rw [hOutcome] at hHandle
  obtain ⟨candidates, hCandidates⟩ := exists_candidates_of_handle hHandle
  exact count_name_le_namesakes hCandidates
    (engines_of_mem_results hBegins hRun hHandle hCandidates hResult) name

theorem map_fst_unresponsive (response : Response) :
    response.unresponsive.map Prod.fst =
      (response.failedIds ++ response.skippedIds).map EngineId.name := by
  simp [Response.unresponsive, Response.failedIds, Response.skippedIds, Function.comp_def]

theorem count_unresponsive_le (hMade : Made coordinator start record)
    (hOutcome : record.outcome = .ok response) (name : String) :
    (response.unresponsive.map Prod.fst).count name ≤ coordinator.namesakes name := by
  obtain ⟨history, before, after, -, hHandle⟩ := hMade
  rw [hOutcome] at hHandle
  obtain ⟨candidates, hCandidates⟩ := exists_candidates_of_handle hHandle
  rw [map_fst_unresponsive]
  exact count_name_le_namesakes hCandidates (unresponsive_of_handle hHandle hCandidates) name

variable {records : List SearchRecord}

theorem count_creditedNames_le (hBegins : Begins coordinator policy past start)
    (hMade : ∀ record ∈ records, Made coordinator start record) (name : String) :
    (creditedNames records).count name ≤ coordinator.namesakes name * (resultsOf records).length := by
  refine count_flatMap_le fun result hResult => ?_
  obtain ⟨response, hResponse, hResult⟩ := List.mem_flatMap.mp hResult
  obtain ⟨record, hRecord, hOutcome⟩ := mem_answersOf.mp hResponse
  exact count_engineNames_le hBegins (hMade record hRecord) hOutcome hResult name

theorem count_silentNames_le (hMade : ∀ record ∈ records, Made coordinator start record)
    (name : String) :
    (silentNames records).count name ≤ coordinator.namesakes name * (answersOf records).length := by
  refine count_flatMap_le fun response hResponse => ?_
  obtain ⟨record, hRecord, hOutcome⟩ := mem_answersOf.mp hResponse
  exact count_unresponsive_le (hMade record hRecord) hOutcome name

/-- The records and the report are those of a run of searches on a coordinator, whatever its engines are and
whatever has happened to it before. -/
inductive Reported (coordinator : Coordinator) : List SearchRecord → Report → Prop where
  | ran {α : Type} [EngineAdapter α] {policy : SuspensionPolicy} {past : List Health.Event}
      {start session : Session α} {history : List (Happening α)} {options : Options}
      {progress : Progress α} (hBegins : Begins coordinator policy past start)
      (hStart : RunsTo coordinator start history session)
      (hRun : run coordinator options session = .ok (.ok progress)) :
      Reported coordinator progress.records progress.report

/-- What the tallies of a run are, and how far they go. -/
theorem tallies_of_reported {report : Report} (h : Reported coordinator records report) :
    report.engineResults = (creditedNames records).foldl Tally.count [] ∧
    report.unresponsiveCounts = (silentNames records).foldl Tally.count [] ∧
    report.TalliesWithin coordinator.namesakes := by
  obtain ⟨hBegins, hStart, hRun⟩ := h
  obtain ⟨-, -, hReport, -, hMade⟩ := records_of_run hStart hRun
  obtain ⟨hCredited, hSilent, hResults, hAnswers⟩ := tallies_recordAll _
  rw [hReport]
  refine ⟨hCredited, hSilent, ?_, ?_⟩
  · intro name n hEntry
    rw [hCredited, mem_foldl_count_iff] at hEntry
    rw [hEntry.2, hResults]
    exact count_creditedNames_le hBegins hMade name
  · intro name n hEntry
    rw [hSilent, mem_foldl_count_iff] at hEntry
    rw [hEntry.2, hAnswers]
    exact count_silentNames_le hMade name

/-- A session in which every engine has just failed. -/
def exhausted (coordinator : Coordinator) : Session Script :=
  { tracker := Health.Tracker.run {}
      (coordinator.engineIds.map fun id => .report id (.failure .captcha) 0)
    cache := coordinator.emptyCache
    pool := []
    now := 0 }

theorem exhausted_begins (built : coordinator.Built) :
    Begins coordinator {} (coordinator.engineIds.map fun id => .report id (.failure .captcha) 0)
      (exhausted coordinator) where
  built := built
  tracker := rfl
  cache := rfl

theorem not_mayRun_exhausted (built : coordinator.Built) {id : EngineId} (hId : id ∈ coordinator.engineIds) :
    ((exhausted coordinator).tracker.stateOf id).mayRun 0 = false := by
  obtain ⟨before, after, hSplit⟩ := List.append_of_mem hId
  have hAfter : id ∉ after := by
    have hNodup := built.nodup_engineIds
    rw [hSplit, List.nodup_append, List.nodup_cons] at hNodup
    exact hNodup.2.1.1
  have hQuiet : ∀ event ∈ after.map fun other => Health.Event.report other (.failure .captcha) 0,
      event.concerns id = false := by
    intro event hEvent
    obtain ⟨other, hOther, rfl⟩ := List.mem_map.mp hEvent
    have hNe : other ≠ id := fun hSame => hAfter (hSame ▸ hOther)
    simp [Health.Event.concerns, Health.Event.resets, Health.Event.logged, hNe]
  have hTracker : (exhausted coordinator).tracker =
      Health.failedBefore {} (before.map fun other => .report other (.failure .captcha) 0) id .captcha 0
        (after.map fun other => .report other (.failure .captcha) 0) := by
    simp [exhausted, Health.failedBefore, hSplit]
  have hPolicy : SuspensionPolicy.validate {} = .ok () := rfl
  have hRest := SuspensionPolicy.seconds_pos hPolicy .captcha
  rw [hTracker, ← Bool.not_eq_true, Health.mayRun_failedBefore hQuiet]
  exact Nat.not_le_of_lt (Nat.lt_of_lt_of_le (Nat.mul_pos (by decide) (hRest _)) (Nat.le_add_left _ _))

/-- In such a session nobody may be called. -/
theorem eligible_exhausted (built : coordinator.Built) {ids : List EngineId}
    (hIds : ids ⊆ coordinator.engineIds) : (selectionOf (exhausted coordinator) ids).1.eligible = [] := by
  rw [selectionOf, Health.Tracker.eligible_select _ (exhausted_begins built).ordered,
    List.filter_eq_nil_iff]
  intro id hId
  exact Bool.eq_false_iff.mp (not_mayRun_exhausted built (hIds hId))

theorem skipped_exhausted (built : coordinator.Built) {ids : List EngineId}
    (hIds : ids ⊆ coordinator.engineIds) :
    ((selectionOf (exhausted coordinator) ids).1.skipped.map (·.engine)).Perm ids := by
  have hPerm := Health.Tracker.perm_select (exhausted coordinator).now (exhausted coordinator).tracker ids
  rwa [← selectionOf, eligible_exhausted built hIds, List.append_nil] at hPerm

/-- A search leaves out all engines of the default categories if they have just failed, and is answered. -/
theorem handle_exhausted (built : coordinator.Built) (hSome : coordinator.defaultEngines ≠ []) :
    ∃ response after,
      coordinator.handle { query := "x" } (exhausted coordinator) = .ok (.ok response, after) ∧
      (response.unresponsive.map Prod.fst).Perm (coordinator.defaultEngines.map EngineId.name) := by
  have hCandidates := candidates_query_eq_ok "x" hSome
  have hIds : coordinator.defaultEngines ⊆ coordinator.engineIds := (candidates_sublist hCandidates).subset
  have hEligible := eligible_exhausted built hIds
  have hSkipped := skipped_exhausted built hIds
  have hKept : keptFor { query := "x" } (exhausted coordinator) coordinator.defaultEngines = none := by
    have hNonempty : (selectionOf (exhausted coordinator) coordinator.defaultEngines).1.skipped ≠ [] := by
      intro hNone
      rw [hNone] at hSkipped
      exact hSome hSkipped.nil_eq.symm
    simp [keptFor, hNonempty]
  have hPermits : Dispatch.permitsCountable
      (coordinator.limitsOf { query := "x" } (exhausted coordinator).now)
      (coordinator.targetsOf (selectionOf (exhausted coordinator) coordinator.defaultEngines).1.eligible) =
        true := by
    simp [hEligible, targetsOf, Dispatch.permitsCountable]
  refine ⟨_, _, handle_of_answered (.called rfl hCandidates hKept hPermits), ?_⟩
  have hFailed : (coordinator.calledResponse { query := "x" } (exhausted coordinator)
      coordinator.defaultEngines).failedIds = [] :=
    List.sublist_nil.mp (hEligible ▸ failedIds_sublist_eligible hCandidates)
  rw [map_fst_unresponsive, hFailed, List.nil_append]
  exact hSkipped.map EngineId.name

/-- One search. -/
def oneSearch (query : String) : Options :=
  { searches := 1, queries := [query] }

/-- A run of one search is its search. -/
theorem run_oneSearch {query : String} {outcome : Except SearchError Response} {after : Session α}
    (h : coordinator.handle { query } session = .ok (outcome, after)) :
    ∃ progress, run coordinator (oneSearch query) session = .ok (.ok progress) ∧
      progress.report = ({} : Report).record (.ofMillis (after.now - session.now)) outcome := by
  obtain ⟨next, hNext, hReport⟩ : ∃ next,
      searchAt coordinator (oneSearch query) 0 ⟨{}, [], session⟩ = .ok next ∧
      next.report = ({} : Report).record (.ofMillis (after.now - session.now)) outcome :=
    ⟨_, searchAt_eq_ok_iff.mpr ⟨outcome, after, h, rfl⟩, rfl⟩
  have hFault : (oneSearch query).fault? = none := rfl
  have hDone : runFrom coordinator (oneSearch query) (oneSearch query).searches 0 ⟨{}, [], session⟩ =
      .ok next := by
    rw [oneSearch, runFrom, ← oneSearch, hNext]
    rfl
  exact ⟨next, by simp only [run, hFault, hDone, Except.map], hReport⟩

/-- Two engines of one name in the default categories are counted twice by some run of one search. -/
theorem exists_reported_of_namesakes (built : coordinator.Built) {name : String}
    (hTwice : 1 < coordinator.namesakes name) :
    ∃ records report, Reported coordinator records report ∧ report.successfulSearches = 1 ∧
      (name, coordinator.namesakes name) ∈ report.unresponsiveCounts := by
  have hListed : name ∈ coordinator.defaultEngines.map EngineId.name :=
    List.count_pos_iff.mp (Nat.lt_trans Nat.one_pos hTwice)
  have hSome : coordinator.defaultEngines ≠ [] := by
    intro hNone
    simp [hNone] at hListed
  obtain ⟨response, after, hHandle, hNames⟩ := handle_exhausted built hSome
  obtain ⟨progress, hRun, hReport⟩ := run_oneSearch hHandle
  refine ⟨progress.records, progress.report, .ran (exhausted_begins built) .start hRun,
    by rw [hReport]; rfl, ?_⟩
  rw [hReport]
  exact mem_foldl_count_iff.mpr ⟨hNames.mem_iff.mpr hListed, (hNames.count_eq name).symm⟩

/-- However often a coordinator was used, and whatever its engines do, the tallies of a run of searches count
each result for a name as often as engines of that name returned it, and each answer as often as engines of
that name gave nothing. They stay within their totals times the number of engines that bear the name in the
default categories. They stay within the totals themselves in all runs exactly if no two of these engines
share a name. -/
theorem tallies_within_totals_iff (built : coordinator.Built) :
    (∀ records report, Reported coordinator records report →
      (∀ name n, (name, n) ∈ report.engineResults ↔
        name ∈ creditedNames records ∧ n = (creditedNames records).count name) ∧
      (∀ name n, (name, n) ∈ report.unresponsiveCounts ↔
        name ∈ silentNames records ∧ n = (silentNames records).count name) ∧
      report.TalliesWithin coordinator.namesakes) ∧
    ((∀ records report, Reported coordinator records report → report.TalliesWithin fun _ => 1) ↔
      (coordinator.defaultEngines.map EngineId.name).Nodup) := by
  constructor
  · intro records report hReported
    obtain ⟨hCredited, hSilent, hWithin⟩ := tallies_of_reported hReported
    rw [hCredited, hSilent]
    exact ⟨fun _ _ => mem_foldl_count_iff, fun _ _ => mem_foldl_count_iff, hWithin⟩
  · rw [List.nodup_iff_count_le_one]
    constructor
    · intro hOne name
      by_contra hTwice
      obtain ⟨records, report, hReported, hSearches, hEntry⟩ :=
        exists_reported_of_namesakes built (Nat.lt_of_not_le hTwice)
      have hBound := (hOne records report hReported).2 name _ hEntry
      rw [hSearches] at hBound
      exact hTwice hBound
    · intro hOne records report hReported
      obtain ⟨-, -, hResults, hSearches⟩ := tallies_of_reported hReported
      refine ⟨fun name n hEntry => (hResults name n hEntry).trans ?_,
        fun name n hEntry => (hSearches name n hEntry).trans ?_⟩
      · exact Nat.mul_le_mul_right _ (hOne name)
      · exact Nat.mul_le_mul_right _ (hOne name)

/-- With engines of one name in two default categories the totals are exceeded, and with engines of different
names they never are. -/
theorem tallies_within_totals_of_distinct_names :
    mixedCoordinator.Built ∧
    (∃ records report, Reported mixedCoordinator records report ∧ ¬report.TalliesWithin fun _ => 1) ∧
    cachingCoordinator.Built ∧
    ∀ records report, Reported cachingCoordinator records report → report.TalliesWithin fun _ => 1 := by
  have hBuilt := cachingStart_begins.built
  have hShared : ¬(mixedCoordinator.defaultEngines.map EngineId.name).Nodup := by decide
  have hDistinct : (cachingCoordinator.defaultEngines.map EngineId.name).Nodup := by decide
  refine ⟨mixedCoordinator_built, ?_, hBuilt, (tallies_within_totals_iff hBuilt).2.mpr hDistinct⟩
  by_contra hNone
  simp only [not_exists, not_and, not_not] at hNone
  exact hShared ((tallies_within_totals_iff mixedCoordinator_built).2.mp hNone)

/-- Two names, each borne by an engine in either default category. -/
def namesakesConfig : SearchConfig :=
  { engines :=
      [{ name := "alpha" }, { name := "alpha", category := "news" }, { name := "beta" },
        { name := "beta", category := "news" }]
    defaultCategories := ["general", "news"] }

def namesakesCoordinator : Coordinator :=
  { config := namesakesConfig
    engines :=
      [⟨⟨"alpha", "general"⟩, 0, none⟩, ⟨⟨"alpha", "news"⟩, 0, none⟩, ⟨⟨"beta", "general"⟩, 1, none⟩,
        ⟨⟨"beta", "news"⟩, 1, none⟩]
    emptyCache := { lifetime := 0 } }

/-- The engines of one name give one result, those of the other fail. -/
def namesakesPool : List Script :=
  [{ behaviours := [⟨10, .fixed (.answer [⟨"x", "title", "", ⟨"unset", "none"⟩, 1⟩])⟩] },
    { behaviours := [⟨10, .fixed (.fail ⟨.captcha, "blocked"⟩)⟩] }]

/-- A valid configuration may have one search with one result counted twice for each name. -/
theorem exists_tallies_above_totals :
    ∃ tracker progress, namesakesConfig.validate = .ok () ∧
      build namesakesConfig ["alpha", "beta"] = .ok (.ok namesakesCoordinator, tracker) ∧
      run namesakesCoordinator (oneSearch "x")
        ⟨tracker, namesakesCoordinator.emptyCache, namesakesPool, 0⟩ = .ok (.ok progress) ∧
      progress.report.engineResults = [("alpha", 2)] ∧ progress.report.totalResults = 1 ∧
      progress.report.unresponsiveCounts = [("beta", 2)] ∧ progress.report.successfulSearches = 1 :=
  ⟨_, _, rfl, rfl, rfl, by decide +kernel, by decide +kernel, by decide +kernel, rfl⟩

end Soak

end Metasearch
