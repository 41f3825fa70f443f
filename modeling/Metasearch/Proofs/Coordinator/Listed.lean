import Metasearch.Proofs.Cache.Keys
import Metasearch.Proofs.Coordinator.Caching
import Metasearch.Proofs.Ranking.Completeness

/-! Which engines an answer lists. They are candidates of its request, also where the results were kept from
an earlier answer, and each is listed once at most in a result, and once at most among the engines that gave
nothing. -/
namespace Metasearch.Coordinator

open Dispatch

variable {α : Type} {coordinator : Coordinator} {request : QueryRequest} {start session final : Session α}
  {candidates : List EngineId} {response : Response} {result : MergedResult}

theorem asked_mem_of_mem_sinceReset {history : List (Happening α)} {visit : Visit α}
    (h : visit ∈ sinceReset history) : .asked visit ∈ history := by
  induction history with
  | nil => cases h
  | cons latest earlier ih =>
      cases latest with
      | asked other =>
          rcases List.mem_cons.mp h with rfl | hEarlier
          · exact List.mem_cons_self ..
          · exact List.mem_cons_of_mem _ (ih hEarlier)
      | reset => cases h

variable [EngineAdapter α]

theorem engines_of_mem_results_calledResponse (hCandidates : coordinator.candidates request = .ok candidates)
    (hResult : result ∈ (coordinator.calledResponse request session candidates).results) :
    result.engines.Subperm candidates := by
  have hNodup : result.engines.Nodup := by
    rw [Ranking.engines_of_mem_merge hResult]
    exact Ranking.nodup_eraseDups _
  refine List.subperm_of_subset hNodup fun id hId => ?_
  obtain ⟨timing, hTiming, rfl, -⟩ := exists_timing_of_mem_results hResult hId
  have hEligible : timing.engine ∈ (selectionOf session candidates).1.eligible := by
    rw [← map_engine_timings_calledResponse hCandidates]
    exact List.mem_map_of_mem hTiming
  exact (Health.Tracker.eligible_sublist _ _ _).subset hEligible

/-- Results are kept under the engines that they come from. -/
theorem engines_of_leftFor (built : coordinator.Built) {history : List (Happening α)}
    {results : List MergedResult} (hRun : RunsTo coordinator start history session)
    (hCandidates : coordinator.candidates request = .ok candidates)
    (hLeft : LeftFor coordinator history (CacheKey.ofRequest request candidates) results)
    (hResult : result ∈ results) : result.engines.Subperm candidates := by
  obtain ⟨⟨earlierRequest, before, answer, after⟩, hVisit, asked, response, hComplete, hKey, rfl⟩ := hLeft
  obtain ⟨later, earlier, rfl⟩ := List.append_of_mem (asked_mem_of_mem_sinceReset hVisit)
  obtain rfl : answer = .ok response := hComplete.answered
  have hHandle : coordinator.handle earlierRequest before = .ok (.ok response, after) := hRun.split.2.1
  have hAsked : coordinator.candidates earlierRequest = .ok asked := hComplete.asked
  rcases served_or_called_of_handle hHandle hAsked with ⟨results, -, rfl⟩ | ⟨-, rfl⟩
  · cases hComplete.fresh
  · have hSame := CacheKey.mem_iff_of_engineBytes_eq (congrArg CacheKey.engines hKey)
    have hPerm : asked.Perm candidates :=
      (List.perm_ext_iff_of_nodup (built.nodup_engineIds.sublist (candidates_sublist hAsked))
        (built.nodup_engineIds.sublist (candidates_sublist hCandidates))).mpr hSame
    exact (engines_of_mem_results_calledResponse hAsked hResult).trans hPerm.subperm

/-- The engines that a result of an answer names are distinct candidates of the request, whether the results
were kept or not. -/
theorem engines_of_mem_results {policy : SuspensionPolicy} {past : List Health.Event}
    {history : List (Happening α)} (hBegins : Begins coordinator policy past start)
    (hRun : RunsTo coordinator start history session)
    (hHandle : coordinator.handle request session = .ok (.ok response, final))
    (hCandidates : coordinator.candidates request = .ok candidates) (hResult : result ∈ response.results) :
    result.engines.Subperm candidates := by
  rcases served_or_called_of_handle hHandle hCandidates with ⟨results, hKept, rfl⟩ | ⟨-, rfl⟩
  · obtain ⟨-, hFound⟩ := (keptFor_eq_some_iff (hRun.ordered hBegins.built hBegins.ordered)).mp hKept
    have hCaching : coordinator.config.cacheTtlSeconds ≠ 0 := by
      intro hOff
      have hLifetime : session.cache.lifetime = 0 := by
        rw [lifetime_of_run hRun, hBegins.cache_eq, hOff]
        rfl
      simp [ResultCache.get?, hLifetime] at hFound
    exact engines_of_leftFor hBegins.built hRun hCandidates
      ((get?_of_run hBegins hCaching hRun _ _).mp hFound) hResult
  · exact engines_of_mem_results_calledResponse hCandidates hResult

theorem failedIds_sublist_eligible (hCandidates : coordinator.candidates request = .ok candidates) :
    (coordinator.calledResponse request session candidates).failedIds.Sublist
      (selectionOf session candidates).1.eligible := by
  have hIds : (coordinator.calledResponse request session candidates).failedIds =
      ((coordinator.calledResponse request session candidates).timings.filter (!·.succeeded)).map
        (·.engine) := map_engine_failuresOf _
  rw [hIds, ← map_engine_timings_calledResponse hCandidates]
  exact List.filter_sublist.map _

/-- The engines that gave nothing for an answer are distinct candidates of the request. -/
theorem unresponsive_of_handle (hHandle : coordinator.handle request session = .ok (.ok response, final))
    (hCandidates : coordinator.candidates request = .ok candidates) :
    (response.failedIds ++ response.skippedIds).Subperm candidates := by
  rcases served_or_called_of_handle hHandle hCandidates with ⟨results, -, rfl⟩ | ⟨-, rfl⟩
  · exact List.nil_subperm
  · have hSplit : ((selectionOf session candidates).1.eligible ++
        (selectionOf session candidates).1.skipped.map (·.engine)).Perm candidates :=
      List.perm_append_comm.trans (Health.Tracker.perm_select _ _ _)
    exact ((failedIds_sublist_eligible hCandidates).append (List.Sublist.refl _)).subperm.trans
      hSplit.subperm

end Metasearch.Coordinator
