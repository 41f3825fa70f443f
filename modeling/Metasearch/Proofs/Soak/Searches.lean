import Mathlib.Algebra.GroupWithZero.Nat
import Metasearch.Proofs.Coordinator.Crashes
import Metasearch.Proofs.Coordinator.Refusals
import Metasearch.Proofs.Coordinator.Runs
import Metasearch.Soak.Run

/-! What a run of searches comes to. A search of a run asks for nothing but a query, so it is answered
unless the query is blank or no engine belongs to the default categories, and the report of a run counts
the searches by this alone. Whatever the engines do, they change neither of the two. -/
namespace Metasearch

/-- Some engine that is switched on belongs to a default category. Neither case nor blanks around a
category matter, and a blank one names nothing. -/
def SearchConfig.OffersByDefault (config : SearchConfig) : Prop :=
  ∃ engine ∈ config.engines, engine.disabled = false ∧ ∃ category ∈ config.defaultCategories,
    Text.lower (Text.trim category) ≠ "" ∧ Text.lower (Text.trim category) = Text.lower engine.category

theorem SearchConfig.offers_query_iff {config : SearchConfig} {query : String} :
    config.Offers { query } ↔ config.OffersByDefault := by
  simp only [Offers, OffersByDefault, askedCategories, if_true]

theorem QueryRequest.unusable_query_iff {query : String} :
    ({ query } : QueryRequest).Unusable ↔ Text.isBlankText query = true := by
  simp [Unusable]

namespace Soak

open Coordinator

/-- The answers that a run got, in order. -/
def answersOf (records : List SearchRecord) : List Response :=
  records.filterMap fun record => record.outcome.toOption

/-- The report after some more searches. -/
def Report.recordAll (report : Report) (records : List SearchRecord) : Report :=
  records.foldl (fun report record => report.record (.ofMillis record.elapsed) record.outcome) report

/-- Each field of a report is read off the records of the searches. -/
theorem Report.recordAll_eq (report : Report) (records : List SearchRecord) :
    report.recordAll records =
      { totalSearches := report.totalSearches + records.length
        successfulSearches := report.successfulSearches + (answersOf records).length
        failedSearches := report.failedSearches + (records.countP fun record => !record.outcome.isOk)
        totalResults := report.totalResults + ((answersOf records).map Response.numberOfResults).sum
        engineResults :=
          ((answersOf records).flatMap fun response =>
            response.results.flatMap MergedResult.engineNames).foldl Tally.count report.engineResults
        unresponsiveCounts :=
          ((answersOf records).flatMap fun response => response.unresponsive.map (·.1)).foldl Tally.count
            report.unresponsiveCounts
        unresponsiveReasons :=
          ((answersOf records).flatMap Response.unresponsive).foldl
            (fun tally (name, reason) => tally.set name reason) report.unresponsiveReasons
        responseTimes := report.responseTimes ++ records.map fun record => .ofMillis record.elapsed } := by
  induction records generalizing report with
  | nil => simp [recordAll, answersOf]
  | cons record rest ih =>
      have hStep : report.recordAll (record :: rest) =
          (report.record (.ofMillis record.elapsed) record.outcome).recordAll rest := rfl
      rw [hStep, ih]
      cases hOutcome : record.outcome with
      | error error =>
          simp [Report.record, answersOf, hOutcome, Except.toOption, Except.isOk, Except.toBool]
          omega
      | ok response =>
          simp [Report.record, answersOf, hOutcome, Except.toOption, Except.isOk, Except.toBool]
          omega

theorem length_answersOf (records : List SearchRecord) :
    (answersOf records).length = records.countP fun record => record.outcome.isOk := by
  rw [answersOf, List.length_filterMap_eq_countP]
  refine List.countP_congr fun record _ => ?_
  cases record.outcome <;> simp [Except.toOption, Except.isOk, Except.toBool]

/-- Every search is counted once, as answered or as failed. -/
theorem length_answersOf_add_failed (records : List SearchRecord) :
    (answersOf records).length + (records.countP fun record => !record.outcome.isOk) = records.length := by
  rw [length_answersOf]
  simpa using (List.length_eq_countP_add_countP (fun record : SearchRecord => record.outcome.isOk)
    (l := records)).symm

variable {α : Type} {coordinator : Coordinator} {options : Options} {start : Session α}
  {history : List (Happening α)} {record : SearchRecord}

@[simp] theorem records_rest (remaining : Nat) (progress : Progress α) :
    (rest options remaining progress).records = progress.records := by
  unfold rest
  split <;> rfl

@[simp] theorem report_rest (remaining : Nat) (progress : Progress α) :
    (rest options remaining progress).report = progress.report := by
  unfold rest
  split <;> rfl

variable [EngineAdapter α]

/-- The search of a record was made from a session that the coordinator has come to. -/
def Made (coordinator : Coordinator) (start : Session α) (record : SearchRecord) : Prop :=
  ∃ history before after, RunsTo coordinator start history before ∧
    coordinator.handle { query := record.query } before = .ok (record.outcome, after)

/-- A search is one request, and its record is added to the others. -/
theorem searchAt_eq_ok_iff {index : Nat} {progress next : Progress α} :
    searchAt coordinator options index progress = .ok next ↔
      ∃ outcome after,
        coordinator.handle { query := options.queryAt index } progress.session = .ok (outcome, after) ∧
        next =
          { report := progress.report.record (.ofMillis (after.now - progress.session.now)) outcome
            records := progress.records ++
              [⟨index + 1, options.queryAt index, after.now - progress.session.now, outcome⟩]
            session := after } := by
  unfold searchAt
  cases hHandle : coordinator.handle { query := options.queryAt index } progress.session with
  | error crash => simp [bind, Except.bind, hHandle]
  | ok answer =>
      obtain ⟨outcome, after⟩ := answer
      simp [bind, Except.bind, pure, Except.pure, hHandle, eq_comm]

theorem handle_of_searchAt_eq_error {index : Nat} {progress : Progress α} {crash : Crash}
    (h : searchAt coordinator options index progress = .error crash) :
    coordinator.handle { query := options.queryAt index } progress.session = .error crash := by
  unfold searchAt at h
  cases hHandle : coordinator.handle { query := options.queryAt index } progress.session with
  | error other => simpa [bind, Except.bind, hHandle] using h
  | ok answer => simp [bind, Except.bind, pure, Except.pure, hHandle] at h

/-- Resting is a pause, which is left out after the last search. -/
theorem runsTo_rest {remaining : Nat} {progress : Progress α}
    (h : RunsTo coordinator start history progress.session) :
    RunsTo coordinator start history (rest options remaining progress).session := by
  unfold Soak.rest
  split
  · exact h
  · exact .pause options.delay.ticks progress.session.pool h

/-- A run of searches leaves a record for each of them, in order and with the queries in turn, and its report
is made of the records. -/
theorem records_of_runFrom {remaining index : Nat} {progress done : Progress α}
    (hRun : RunsTo coordinator start history progress.session)
    (hDone : runFrom coordinator options remaining index progress = .ok done) :
    ∃ records, done.records = progress.records ++ records ∧
      done.report = progress.report.recordAll records ∧
      (records.map fun record => (record.index, record.query)) =
        (List.range' index remaining).map (fun place => (place + 1, options.queryAt place)) ∧
      ∀ record ∈ records, Made coordinator start record := by
  induction remaining generalizing index progress history with
  | zero =>
      cases hDone
      exact ⟨[], by simp [Report.recordAll]⟩
  | succ remaining ih =>
      unfold runFrom at hDone
      cases hSearch : searchAt coordinator options index progress with
      | error crash => simp [hSearch, bind, Except.bind] at hDone
      | ok next =>
          rw [hSearch] at hDone
          obtain ⟨outcome, after, hHandle, rfl⟩ := searchAt_eq_ok_iff.mp hSearch
          obtain ⟨records, hRecords, hReport, hPlaces, hMade⟩ := ih (runsTo_rest (.ask hRun hHandle)) hDone
          refine ⟨⟨index + 1, options.queryAt index, after.now - progress.session.now, outcome⟩ :: records,
            ?_, ?_, ?_, ?_⟩
          · rw [hRecords, records_rest]
            simp
          · rw [hReport, report_rest]
            rfl
          · simp [hPlaces, List.range'_succ]
          · intro record hMem
            rcases List.mem_cons.mp hMem with rfl | hMem
            · exact ⟨_, _, _, hRun, hHandle⟩
            · exact hMade record hMem

variable (options) in
/-- A run of searches does not break off. -/
theorem exists_runFrom_eq_ok
    (hPermits : coordinator.config.maxConcurrentEngines.toNat ≤ Dispatch.maxPermits)
    (remaining index : Nat) (progress : Progress α) :
    ∃ done, runFrom coordinator options remaining index progress = .ok done := by
  induction remaining generalizing index progress with
  | zero => exact ⟨progress, rfl⟩
  | succ remaining ih =>
      unfold runFrom
      cases hSearch : searchAt coordinator options index progress with
      | error crash =>
          have hHandle := handle_of_searchAt_eq_error hSearch
          exact absurd hPermits (Nat.not_le_of_lt (crash_of_handle hHandle).2)
      | ok next => exact ih (index + 1) (rest options remaining next)

/-- A search that is made is answered unless its query is blank or there is no engine for it. -/
theorem isOk_of_made_iff (built : coordinator.Built) (hMade : Made coordinator start record) :
    record.outcome.isOk = true ↔
      Text.isBlankText record.query = false ∧ coordinator.config.OffersByDefault := by
  obtain ⟨history, before, after, -, hHandle⟩ := hMade
  rw [isOk_of_handle_iff built hHandle, QueryRequest.unusable_query_iff, Bool.not_eq_true,
    SearchConfig.offers_query_iff]

/-- The failed searches are those with a blank query, if there are engines at all. -/
theorem countP_failed (built : coordinator.Built) {records : List SearchRecord}
    (hMade : ∀ record ∈ records, Made coordinator start record)
    (hOffers : coordinator.config.OffersByDefault) :
    (records.countP fun record => !record.outcome.isOk) =
      (records.map (·.query)).countP Text.isBlankText := by
  rw [List.countP_map]
  refine List.countP_congr fun record hMem => ?_
  have hAnswered := isOk_of_made_iff built (hMade record hMem)
  rw [and_iff_left hOffers] at hAnswered
  rw [Function.comp_apply, Bool.not_eq_true', ← Bool.not_eq_true, hAnswered, Bool.not_eq_false]

theorem countP_failed_of_not_offersByDefault (built : coordinator.Built) {records : List SearchRecord}
    (hMade : ∀ record ∈ records, Made coordinator start record)
    (hOffers : ¬coordinator.config.OffersByDefault) :
    (records.countP fun record => !record.outcome.isOk) = records.length := by
  rw [List.countP_eq_length]
  intro record hMem
  have hAnswered := isOk_of_made_iff built (hMade record hMem)
  simpa [hOffers] using hAnswered

theorem fault?_eq_none_iff : options.fault? = none ↔ 0 < options.searches ∧ options.queries ≠ [] := by
  unfold Options.fault?
  by_cases hSearches : options.searches = 0
  · simp [hSearches]
  · by_cases hQueries : options.queries = [] <;> simp [hSearches, hQueries, Nat.pos_of_ne_zero]

/-- The queries are taken in turn and from the beginning again. -/
theorem getElem?_queryAt (hQueries : options.queries ≠ []) (place : Nat) :
    options.queries[place % options.queries.length]? = some (options.queryAt place) := by
  have hPlace : place % options.queries.length < options.queries.length :=
    Nat.mod_lt _ (List.length_pos_of_ne_nil hQueries)
  simp [Options.queryAt, hPlace]

/-- A run that ends is told by the records of its searches. -/
theorem records_of_run {session : Session α} {progress : Progress α}
    (hStart : RunsTo coordinator start history session)
    (hRun : run coordinator options session = .ok (.ok progress)) :
    0 < options.searches ∧ options.queries ≠ [] ∧
    progress.report = ({} : Report).recordAll progress.records ∧
    (progress.records.map fun record => (record.index, record.query)) =
      (List.range options.searches).map (fun place => (place + 1, options.queryAt place)) ∧
    ∀ record ∈ progress.records, Made coordinator start record := by
  unfold run at hRun
  cases hFault : options.fault? with
  | some fault => simp [hFault] at hRun
  | none =>
      obtain ⟨hSearches, hQueries⟩ := fault?_eq_none_iff.mp hFault
      cases hDone : runFrom coordinator options options.searches 0 ⟨{}, [], session⟩ with
      | error crash => simp [hFault, hDone, Except.map] at hRun
      | ok done =>
          obtain rfl : done = progress := by simpa [hFault, hDone, Except.map] using hRun
          obtain ⟨records, hRecords, hReport, hPlaces, hMade⟩ := records_of_runFrom hStart hDone
          obtain rfl : done.records = records := hRecords
          refine ⟨hSearches, hQueries, hReport, ?_, hMade⟩
          rw [hPlaces, List.range_eq_range']

/-- A run of at least one search with at least one query does not break off. -/
theorem exists_run_eq_ok (hPermits : coordinator.config.maxConcurrentEngines.toNat ≤ Dispatch.maxPermits)
    (hSearches : 0 < options.searches) (hQueries : options.queries ≠ []) (start : Session α) :
    ∃ progress, run coordinator options start = .ok (.ok progress) := by
  obtain ⟨done, hDone⟩ := exists_runFrom_eq_ok options hPermits options.searches 0 ⟨{}, [], start⟩
  exact ⟨done, by simp only [run, fault?_eq_none_iff.mpr ⟨hSearches, hQueries⟩, hDone, Except.map]⟩

/-- How many searches of a run have a blank query. -/
def Options.blankSearches (options : Options) : Nat :=
  (List.range options.searches).countP fun place =>
    options.queries[place % options.queries.length]?.any Text.isBlankText

/-- What a run counts. The engines have no part in it. -/
theorem counts_of_run (built : coordinator.Built) {progress : Progress α}
    (hRun : run coordinator options start = .ok (.ok progress)) :
    progress.report.totalSearches = options.searches ∧
    progress.report.successfulSearches + progress.report.failedSearches = options.searches ∧
    progress.report.responseTimes.length = options.searches ∧
    (coordinator.config.OffersByDefault → progress.report.failedSearches = options.blankSearches) ∧
    (¬coordinator.config.OffersByDefault → progress.report.failedSearches = options.searches) ∧
    progress.report.totalResults = ((answersOf progress.records).map Response.numberOfResults).sum := by
  obtain ⟨-, hQueries, hReport, hPlaces, hMade⟩ := records_of_run .start hRun
  have hLength : progress.records.length = options.searches := by
    simpa using congrArg List.length hPlaces
  have hAsked : progress.records.map (·.query) = (List.range options.searches).map options.queryAt := by
    simpa [Function.comp_def] using congrArg (List.map Prod.snd) hPlaces
  rw [hReport, Report.recordAll_eq]
  refine ⟨by simp [hLength], ?_, by simp [hLength], ?_, ?_, by simp⟩
  · simpa [hLength] using length_answersOf_add_failed progress.records
  · intro hOffers
    simp only [Nat.zero_add]
    rw [countP_failed built hMade hOffers, hAsked, List.countP_map, Options.blankSearches]
    refine List.countP_congr fun place _ => ?_
    rw [getElem?_queryAt hQueries, Function.comp_apply, Option.any_some]
  · intro hOffers
    simp only [Nat.zero_add]
    rw [countP_failed_of_not_offersByDefault built hMade hOffers, hLength]

/-- Two runs with the same configuration are judged alike, whatever their engines do. -/
theorem successRate_of_run (built : coordinator.Built) {progress : Progress α}
    (hRun : run coordinator options start = .ok (.ok progress)) {β : Type} [EngineAdapter β]
    {other : Session β} {otherProgress : Progress β}
    (hOther : run coordinator options other = .ok (.ok otherProgress)) :
    progress.report.successRate = otherProgress.report.successRate := by
  obtain ⟨hTotal, hSum, -, hBlank, hAll, -⟩ := counts_of_run built hRun
  obtain ⟨hTotal', hSum', -, hBlank', hAll', -⟩ := counts_of_run built hOther
  have hFailed : progress.report.failedSearches = otherProgress.report.failedSearches := by
    by_cases hOffers : coordinator.config.OffersByDefault
    · rw [hBlank hOffers, hBlank' hOffers]
    · rw [hAll hOffers, hAll' hOffers]
  have hSuccessful : progress.report.successfulSearches = otherProgress.report.successfulSearches := by
    omega
  rw [Report.successRate, Report.successRate, hTotal, hTotal', hSuccessful]

/-- A run of at least one search with at least one query comes to its end, whatever the engines do. Every
search counts once, as answered or as failed, and has its time. The searches with a blank query fail, and no
others do, if some engine belongs to the default categories, and otherwise all of them fail. The results are
those of the answers. The searches are told of in order, with the queries in turn. Another run with the same
configuration is judged alike. -/
theorem run_fails_only_blank_queries (built : coordinator.Built)
    (hPermits : coordinator.config.maxConcurrentEngines.toNat ≤ Dispatch.maxPermits)
    (hSearches : 0 < options.searches) (hQueries : options.queries ≠ []) (start : Session α) :
    ∃ progress, run coordinator options start = .ok (.ok progress) ∧
      progress.report.totalSearches = options.searches ∧
      progress.report.successfulSearches + progress.report.failedSearches = options.searches ∧
      progress.report.responseTimes.length = options.searches ∧
      (coordinator.config.OffersByDefault → progress.report.failedSearches = options.blankSearches) ∧
      (¬coordinator.config.OffersByDefault → progress.report.failedSearches = options.searches) ∧
      progress.report.totalResults = ((answersOf progress.records).map Response.numberOfResults).sum ∧
      (progress.records.map fun record => (record.index, some record.query)) =
        (List.range options.searches).map
          (fun place => (place + 1, options.queries[place % options.queries.length]?)) ∧
      ∀ (β : Type) [EngineAdapter β] (other : Session β) (otherProgress : Progress β),
        run coordinator options other = .ok (.ok otherProgress) →
        otherProgress.report.verdict = progress.report.verdict ∧
        otherProgress.report.passed = progress.report.passed := by
  obtain ⟨progress, hRun⟩ := exists_run_eq_ok hPermits hSearches hQueries start
  obtain ⟨hTotal, hSum, hTimes, hBlank, hAll, hResults⟩ := counts_of_run built hRun
  obtain ⟨-, -, -, hPlaces, -⟩ := records_of_run .start hRun
  refine ⟨progress, hRun, hTotal, hSum, hTimes, hBlank, hAll, hResults, ?_, ?_⟩
  · simp only [getElem?_queryAt hQueries]
    simpa [Function.comp_def] using
      congrArg (List.map fun place : Nat × String => (place.1, some place.2)) hPlaces
  · intro β _ other otherProgress hOther
    rw [Report.verdict, Report.verdict, Report.passed, Report.passed,
      successRate_of_run built hOther hRun]
    exact ⟨rfl, rfl⟩

/-- Three searches with two queries in turn, of which one is blank. -/
def halfBlankOptions : Options :=
  { searches := 3, queries := ["x", " \t"] }

theorem mixedConfig_offersByDefault : mixedConfig.OffersByDefault := by
  refine ⟨{ name := "alpha" }, List.mem_cons_self .., rfl, "General", List.mem_cons_self .., ?_⟩
  decide

/-- Engines that are suspended, break down or never answer fail no search. The blank query does. -/
theorem run_fails_only_blank_queries_of_mixed :
    mixedCoordinator.Built ∧
    mixedCoordinator.config.maxConcurrentEngines.toNat ≤ Dispatch.maxPermits ∧
    ∃ progress, run mixedCoordinator halfBlankOptions mixedSession = .ok (.ok progress) ∧
      progress.report.totalSearches = 3 ∧ progress.report.successfulSearches = 2 ∧
      progress.report.failedSearches = 1 ∧
      (progress.records.map fun record => (record.index, some record.query)) =
        [(1, some "x"), (2, some " \t"), (3, some "x")] := by
  have hPermits : mixedCoordinator.config.maxConcurrentEngines.toNat ≤ Dispatch.maxPermits := by decide
  have hSome : 0 < halfBlankOptions.searches := by decide
  have hQueries : halfBlankOptions.queries ≠ [] := by decide
  have hBlanks : halfBlankOptions.blankSearches = 1 := by decide
  obtain ⟨progress, hRun, hTotal, hSum, -, hBlank, -, -, hPlaces, -⟩ :=
    run_fails_only_blank_queries mixedCoordinator_built hPermits hSome hQueries mixedSession
  have hFailed : progress.report.failedSearches = 1 := (hBlank mixedConfig_offersByDefault).trans hBlanks
  have hSearches : halfBlankOptions.searches = 3 := rfl
  refine ⟨mixedCoordinator_built, hPermits, progress, hRun, hTotal, by omega, hFailed, hPlaces⟩

end Soak

end Metasearch
