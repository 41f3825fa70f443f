import Mathlib.Data.List.Forall2
import Metasearch.Proofs.Coordinator.Accounting

/-! What the results of an answer are made of. Every engine that succeeded is credited with the first
hits that its adapter returned, in order of registration, so the results depend on which engines
succeeded and with which hits, and not on how long any of them took or in which order they ended. -/
namespace Metasearch

/-- The hits that a call is answered with when it is left alone. -/
def Call.hits? (call : Call) : Option (List RawHit) :=
  match call.ending with
  | .answer hits => some hits
  | _ => none

/-- The engines that answered and their answers. -/
def answered (entries : List (EngineId × Option (List RawHit))) : List (EngineId × List RawHit) :=
  entries.filterMap fun entry => entry.2.map (entry.1, ·)

/-- Each engine that was called with what its call was answered with, if it succeeded. -/
def replies (timings : List EngineTiming) (calls : List Call) :
    List (EngineId × Option (List RawHit)) :=
  List.zipWith (fun timing call => (timing.engine, if timing.succeeded then call.hits? else none))
    timings calls

/-- The first hits of each answer, all credited to the engine that was called. -/
def credited (limit : Nat) (answers : List (EngineId × List RawHit)) :
    List (EngineId × List RawHit) :=
  answers.map fun (engine, hits) => (engine, (hits.take limit).map ({ · with engine }))

theorem engine_of_mem_answered {entries : List (EngineId × Option (List RawHit))}
    {engine : EngineId} {hits : List RawHit} (h : (engine, hits) ∈ answered entries) :
    engine ∈ entries.map Prod.fst := by
  obtain ⟨⟨other, answer⟩, hMem, hAnswer⟩ := List.mem_filterMap.mp h
  obtain ⟨found, -, hEq⟩ := Option.map_eq_some_iff.mp hAnswer
  cases hEq
  exact List.mem_map.mpr ⟨_, hMem, rfl⟩

theorem mem_answered_cons {engine other : EngineId} {answer : Option (List RawHit)}
    {hits : List RawHit} {entries : List (EngineId × Option (List RawHit))} :
    (engine, hits) ∈ answered ((other, answer) :: entries) ↔
      (engine = other ∧ answer = some hits) ∨ (engine, hits) ∈ answered entries := by
  cases answer with
  | none => simp [answered]
  | some found => simp [answered, eq_comm]

/-- Answers of the same distinct engines are the same list if they are the same set. -/
theorem answered_eq_of_mem_iff {entries others : List (EngineId × Option (List RawHit))}
    (hEngines : entries.map Prod.fst = others.map Prod.fst) (hNodup : (entries.map Prod.fst).Nodup)
    (hSame : ∀ entry, entry ∈ answered entries ↔ entry ∈ answered others) :
    answered entries = answered others := by
  induction entries generalizing others with
  | nil =>
      cases others with
      | nil => rfl
      | cons other rest => simp at hEngines
  | cons entry rest ih =>
      cases others with
      | nil => simp at hEngines
      | cons other otherRest =>
          obtain ⟨engine, answer⟩ := entry
          obtain ⟨otherEngine, otherAnswer⟩ := other
          simp only [List.map_cons, List.cons.injEq] at hEngines
          obtain ⟨rfl, hEngines⟩ := hEngines
          rw [List.map_cons, List.nodup_cons] at hNodup
          have hNew : ∀ hits, (engine, hits) ∉ answered rest :=
            fun hits hMem => hNodup.1 (engine_of_mem_answered hMem)
          have hOtherNew : ∀ hits, (engine, hits) ∉ answered otherRest :=
            fun hits hMem => hNodup.1 (hEngines ▸ engine_of_mem_answered hMem)
          have hAnswer : answer = otherAnswer := by
            apply Option.ext
            intro hits
            have h := hSame (engine, hits)
            simpa [mem_answered_cons, hNew, hOtherNew] using h
          have hRest : answered rest = answered otherRest := by
            apply ih hEngines hNodup.2
            rintro ⟨found, hits⟩
            by_cases hFound : found = engine
            · subst hFound
              simp [hNew, hOtherNew]
            · simpa [mem_answered_cons, hFound] using hSame (found, hits)
          simp only [answered, List.filterMap_cons, hAnswer] at hRest ⊢
          rw [hRest]

namespace Dispatch

/-- A successful outcome has the hits that its call was answered with, cut and credited. -/
def TellsOf (limits : Limits) (outcome : EngineOutcome) (call : Call) : Prop :=
  ∀ hits, outcome.result = .ok hits →
    ∃ answer, call.hits? = some answer ∧ hits = stamp limits outcome.engine answer

theorem hits?_of_settle {call : Call} {timeout : Millis} {hits : List RawHit}
    (h : (settle call timeout).2 = .hits hits) : call.hits? = some hits := by
  unfold settle at h
  unfold Call.hits?
  cases hEnding : call.ending <;> rw [hEnding] at h <;> split at h <;> simp_all

theorem tellsOf_outcomeOf (limits : Limits) (cut : Bool) (total : Millis) (target : Target)
    (start : Instant) (call : Call) (timeout : Millis) :
    TellsOf limits
      (outcomeOf limits cut total target (heardInTime limits (some (Run.ofCall start call timeout))))
      call := by
  intro hits hResult
  rw [engine_outcomeOf]
  simp only [heardInTime] at hResult
  cases hSettled : (settle call timeout).2 with
  | hits answer =>
      refine ⟨answer, hits?_of_settle hSettled, ?_⟩
      split at hResult
      · simpa [outcomeOf, Run.heard, hSettled, Except.map, eq_comm] using hResult
      · simp [outcomeOf] at hResult
  | failure error =>
      split at hResult <;> simp [outcomeOf, Run.heard, hSettled, Except.map] at hResult
  | lost =>
      split at hResult <;> simp [outcomeOf, Run.heard, hSettled] at hResult

variable {α : Type} [EngineAdapter α] (limits : Limits) (request : QueryRequest) (opened : Instant)
  (targets : List Target) (pool : List α) (tracker : Health.Tracker)

/-- Whatever was held when the calls began, the outcomes tell of the calls of their own targets. -/
theorem forall₂_tellsOf_timetable (cut : Bool) (total : Millis) (held : List Instant) :
    List.Forall₂ (TellsOf limits)
      (List.zipWith (fun target run =>
        outcomeOf limits cut total target (heardInTime limits (some run))) targets
        (timetable opened limits.lanes held (timedCalls limits request targets pool)))
      (callsOf request targets pool) := by
  induction targets generalizing held pool with
  | nil => exact List.Forall₂.nil
  | cons target rest ih =>
      exact List.Forall₂.cons (tellsOf_outcomeOf limits cut total target _ _ _) (ih _ _)

theorem forall₂_tellsOf_run :
    List.Forall₂ (TellsOf limits) (run limits request opened targets tracker pool).report.outcomes
      (callsOf request targets pool) := by
  rw [outcomes_run]
  exact forall₂_tellsOf_timetable limits request opened targets pool _ _ []

end Dispatch

namespace Coordinator

open Dispatch

/-- The hits of a report are the answers of the calls that succeeded, cut and credited. -/
theorem hitsOf_eq_credited (limits : Limits) {limit : Nat} (hLimit : limits.resultsPerEngine = some limit)
    {report : Report} {calls : List Call}
    (h : List.Forall₂ (TellsOf limits) report.outcomes calls) :
    hitsOf report = credited limit (answered (replies (timingsOf report) calls)) := by
  obtain ⟨outcomes, deadlineElapsed⟩ := report
  simp only [hitsOf, timingsOf] at h ⊢
  induction h with
  | nil => rfl
  | @cons outcome call outcomes calls hTells _ ih =>
      simp only [List.filterMap_cons, List.map_cons, replies, List.zipWith_cons_cons, answered] at ih ⊢
      cases hResult : outcome.result with
      | error error => simp [ih, EngineOutcome.succeeded, hResult, Except.isOk, Except.toBool]
      | ok hits =>
          obtain ⟨answer, hAnswer, hHits⟩ := hTells hits hResult
          simp [ih, EngineOutcome.succeeded, hResult, Except.isOk, Except.toBool, hAnswer, hHits,
            credited, stamp, hLimit]

theorem map_fst_credited (limit : Nat) (answers : List (EngineId × List RawHit)) :
    (credited limit answers).map Prod.fst = answers.map Prod.fst := by
  simp [credited, Function.comp_def]

theorem map_fst_replies {timings : List EngineTiming} {calls : List Call}
    (h : timings.length = calls.length) :
    (replies timings calls).map Prod.fst = timings.map (·.engine) := by
  rw [replies, List.map_zipWith]
  exact zipWith_left_eq_map _ h.le

variable {α : Type} [EngineAdapter α]

/-- What the engines that succeeded were answered with: their calls are made one after the other, in the
order of the timings, and each adapter is as the calls before it left it. -/
def answersTo (coordinator : Coordinator) (request : QueryRequest) (pool : List α)
    (response : Response) : List (EngineId × List RawHit) :=
  answered (replies response.timings
    (callsOf request (coordinator.targetsOf (response.timings.map (·.engine))) pool))

variable {coordinator : Coordinator} {request : QueryRequest} {session : Session α}
  {candidates : List EngineId}

/-- The calls of an answer are those of its eligible candidates. -/
theorem answersTo_calledResponse (hCandidates : coordinator.candidates request = .ok candidates) :
    answersTo coordinator request session.pool
        (coordinator.calledResponse request session candidates) =
      answered (replies (timingsOf (coordinator.dispatchedOf request session candidates).report)
        (callsOf request (coordinator.targetsOf (selectionOf session candidates).1.eligible)
          session.pool)) := by
  rw [answersTo, map_engine_timings_calledResponse hCandidates]
  rfl

theorem hitsOf_dispatchedOf (hCandidates : coordinator.candidates request = .ok candidates) :
    hitsOf (coordinator.dispatchedOf request session candidates).report =
      credited coordinator.config.resultsPerEngine.toNat (answersTo coordinator request session.pool
        (coordinator.calledResponse request session candidates)) := by
  rw [answersTo_calledResponse hCandidates]
  exact hitsOf_eq_credited (coordinator.limitsOf request session.now) rfl
    (forall₂_tellsOf_run _ _ _ _ _ _)

/-- Exactly the engines that succeeded have an answer. -/
theorem map_fst_answersTo (hCandidates : coordinator.candidates request = .ok candidates) :
    (answersTo coordinator request session.pool
        (coordinator.calledResponse request session candidates)).map Prod.fst =
      ((coordinator.calledResponse request session candidates).timings.filter (·.succeeded)).map
        (·.engine) := by
  rw [← map_fst_credited coordinator.config.resultsPerEngine.toNat, ← hitsOf_dispatchedOf hCandidates]
  exact map_fst_hitsOf _

theorem map_fst_replies_calledResponse (hCandidates : coordinator.candidates request = .ok candidates) :
    (replies (coordinator.calledResponse request session candidates).timings
      (callsOf request (coordinator.targetsOf
        ((coordinator.calledResponse request session candidates).timings.map (·.engine)))
        session.pool)).map Prod.fst =
      (selectionOf session candidates).1.eligible := by
  have hTimings : (coordinator.calledResponse request session candidates).timings.map (·.engine) =
      (selectionOf session candidates).1.eligible := map_engine_timings_calledResponse hCandidates
  have hTargets : (coordinator.targetsOf (selectionOf session candidates).1.eligible).map (·.engine) =
      (selectionOf session candidates).1.eligible := map_engine_targetsOf_eligible hCandidates
  have hTimingsLength := congrArg List.length hTimings
  have hTargetsLength := congrArg List.length hTargets
  rw [List.length_map] at hTimingsLength hTargetsLength
  rw [map_fst_replies, hTimings]
  rw [hTimings, length_callsOf, hTimingsLength, hTargetsLength]

/-- Two answers to one request from the same selection are made of the same list of answers if they are
made of the same set, whatever the adapters and their delays. -/
theorem answersTo_eq_of_mem_iff {β : Type} [EngineAdapter β] {other : Session β}
    (built : coordinator.Built) (hCandidates : coordinator.candidates request = .ok candidates)
    (hSelection : selectionOf other candidates = selectionOf session candidates)
    (hSame : ∀ entry,
      entry ∈ answersTo coordinator request other.pool
        (coordinator.calledResponse request other candidates) ↔
      entry ∈ answersTo coordinator request session.pool
        (coordinator.calledResponse request session candidates)) :
    answersTo coordinator request other.pool (coordinator.calledResponse request other candidates) =
      answersTo coordinator request session.pool
        (coordinator.calledResponse request session candidates) := by
  apply answered_eq_of_mem_iff _ _ hSame
  · rw [map_fst_replies_calledResponse hCandidates, map_fst_replies_calledResponse hCandidates,
      hSelection]
  · rw [map_fst_replies_calledResponse hCandidates]
    exact built.nodup_engineIds.sublist (eligible_sublist_engineIds hCandidates)

/-- The results of an answer that was not kept are the merge of the answers of exactly the engines that
succeeded, in order of registration, each cut to the configured number of hits and credited to its
engine. So if adapters of any kind, with any delays, make the same engines succeed with the same hits
from the same health, cache and instant, the results are the same. -/
theorem results_eq_merge_credited (built : coordinator.Built) {response : Response}
    {final : Session α} (hHandle : coordinator.handle request session = .ok (.ok response, final))
    (hCached : response.cached = false) :
    (answersTo coordinator request session.pool response).map Prod.fst =
      (response.timings.filter (·.succeeded)).map (·.engine) ∧
    ((answersTo coordinator request session.pool response).map Prod.fst).Sublist
      coordinator.engineIds ∧
    response.results = coordinator.ranker.merge (credited coordinator.config.resultsPerEngine.toNat
      (answersTo coordinator request session.pool response)) ∧
    ∀ {β : Type} [EngineAdapter β] (other : Session β) (otherResponse : Response)
      (otherFinal : Session β),
      other.tracker = session.tracker → other.cache = session.cache → other.now = session.now →
      coordinator.handle request other = .ok (.ok otherResponse, otherFinal) →
      (∀ entry, entry ∈ answersTo coordinator request other.pool otherResponse ↔
        entry ∈ answersTo coordinator request session.pool response) →
      otherResponse.results = response.results := by
  cases answered_of_handle hHandle with
  | served hValid hCandidates hKept => cases hCached
  | @called candidates hValid hCandidates hKept hPermits =>
      have hEngines : (answersTo coordinator request session.pool
          (coordinator.calledResponse request session candidates)).map Prod.fst = _ :=
        map_fst_answersTo hCandidates
      have hTimings : (coordinator.calledResponse request session candidates).timings.map (·.engine) =
          (selectionOf session candidates).1.eligible := map_engine_timings_calledResponse hCandidates
      have hResults : ∀ {γ : Type} [EngineAdapter γ] (s : Session γ),
          (coordinator.calledResponse request s candidates).results =
            coordinator.ranker.merge (credited coordinator.config.resultsPerEngine.toNat
              (answersTo coordinator request s.pool (coordinator.calledResponse request s candidates))) :=
        fun s => congrArg coordinator.ranker.merge (hitsOf_dispatchedOf hCandidates)
      refine ⟨hEngines, ?_, hResults session, ?_⟩
      · rw [hEngines]
        refine (List.filter_sublist.map _).trans ?_
        rw [hTimings]
        exact eligible_sublist_engineIds hCandidates
      · intro β _ other otherResponse otherFinal hTracker hCache hNow hOther hSame
        have hSelection : selectionOf other candidates = selectionOf session candidates := by
          simp only [selectionOf, hTracker, hNow]
        cases answered_of_handle hOther with
        | served _ hOtherCandidates hOtherKept =>
            cases hCandidates.symm.trans hOtherCandidates
            rw [keptFor, hSelection, hCache] at hOtherKept
            cases hKept.symm.trans hOtherKept
        | called _ hOtherCandidates _ _ =>
            cases hCandidates.symm.trans hOtherCandidates
            rw [hResults other, hResults session,
              answersTo_eq_of_mem_iff built hCandidates hSelection hSame]

/-- The first engine ends before the second, and the third never answers. -/
def promptSession : Session Script :=
  { tracker := {}
    cache := { lifetime := 0 }
    pool :=
      [{ behaviours := [⟨10, .echo⟩, ⟨5, .echo⟩] }, { behaviours := [⟨40, .echo⟩] },
        { behaviours := [⟨0, .fixed .hang⟩] }]
    now := 5 }

/-- The second engine ends before the first, and the third takes its call down with it. -/
def tardySession : Session Script :=
  { promptSession with
    pool :=
      [{ behaviours := [⟨50, .echo⟩, ⟨7, .echo⟩] }, { behaviours := [⟨3, .echo⟩] },
        { behaviours := [⟨2, .fixed .abort⟩] }] }

/-- The same three engines succeed with the same hits in both sessions, but not in the same order. -/
theorem results_eq_for_other_delays :
    mixedCoordinator.Built ∧
    ∃ response final otherResponse otherFinal,
      mixedCoordinator.handle { query := "x" } promptSession = .ok (.ok response, final) ∧
      response.cached = false ∧
      mixedCoordinator.handle { query := "x" } tardySession = .ok (.ok otherResponse, otherFinal) ∧
      (answersTo mixedCoordinator { query := "x" } promptSession.pool response).map Prod.fst =
        [⟨"alpha", "general"⟩, ⟨"beta", "general"⟩, ⟨"alpha", "news"⟩] ∧
      otherResponse.results = response.results := by
  obtain ⟨response, final, hHandle, hCached, hAnswers⟩ : ∃ response final,
      mixedCoordinator.handle { query := "x" } promptSession = .ok (.ok response, final) ∧
      response.cached = false ∧
      answersTo mixedCoordinator { query := "x" } promptSession.pool response =
        [⟨"alpha", "general"⟩, ⟨"beta", "general"⟩, ⟨"alpha", "news"⟩].map
          (·, [Behaviour.echoHit { query := "x" }]) := ⟨_, _, rfl, rfl, rfl⟩
  obtain ⟨otherResponse, otherFinal, hOther, hOtherAnswers⟩ : ∃ otherResponse otherFinal,
      mixedCoordinator.handle { query := "x" } tardySession = .ok (.ok otherResponse, otherFinal) ∧
      answersTo mixedCoordinator { query := "x" } tardySession.pool otherResponse =
        [⟨"alpha", "general"⟩, ⟨"beta", "general"⟩, ⟨"alpha", "news"⟩].map
          (·, [Behaviour.echoHit { query := "x" }]) := ⟨_, _, rfl, rfl⟩
  obtain ⟨-, -, -, hSame⟩ := results_eq_merge_credited mixedCoordinator_built hHandle hCached
  refine ⟨mixedCoordinator_built, response, final, otherResponse, otherFinal, hHandle, hCached, hOther,
    by rw [hAnswers]; rfl, ?_⟩
  apply hSame tardySession otherResponse otherFinal rfl rfl rfl hOther
  simp [hAnswers, hOtherAnswers]

end Coordinator

end Metasearch
