import Metasearch.Proofs.Health.Known
import Metasearch.Proofs.Health.Relapses

/-! What a selection does. It goes through the candidates one after the other and changes the tracker as it goes,
but both its answer and what it leaves behind are told by the tracker that it finds. -/
namespace Metasearch.Health

namespace EngineState

variable {state : EngineState} {now later : Instant}

theorem mayRun_iff_status :
    state.mayRun now = true ↔ state.status = .healthy ∨ ∃ ends ≤ now, state.status = .suspended ends := by
  unfold mayRun
  cases state.status with
  | healthy => simp
  | suspended ends => simp

theorem exists_of_not_mayRun (h : state.mayRun now = false) :
    ∃ ends, state.status = .suspended ends ∧ now < ends := by
  unfold mayRun at h
  cases hStatus : state.status with
  | healthy => simp [hStatus] at h
  | suspended ends => exact ⟨ends, rfl, by simpa [hStatus] using h⟩

theorem mayRun_mono (hLater : now ≤ later) (h : state.mayRun now = true) : state.mayRun later = true := by
  rw [mayRun_iff_status] at h ⊢
  refine h.imp_right ?_
  rintro ⟨ends, hEnds, hStatus⟩
  exact ⟨ends, hEnds.trans hLater, hStatus⟩

/-- A second chance at any instant takes no chance away. -/
theorem mayRun_refreshed_of_mayRun (given : Instant) (h : state.mayRun now = true) :
    (state.refreshed given).mayRun now = true := by
  unfold refreshed
  split
  · rfl
  · exact h

end EngineState

namespace Tracker

variable {tracker : Tracker} (now : Instant)

theorem state?_select (h : tracker.states.Ordered) (candidates : List EngineId) (engine : EngineId) :
    (tracker.select now candidates).2.state? engine =
      if engine ∈ candidates then some ((tracker.stateOf engine).refreshed now)
      else tracker.state? engine := by
  have hState := stateOf_select now h candidates engine
  split
  · rename_i hMem
    rw [state?_of_known ((mem_known_select now candidates).mpr (.inl hMem)), hState, if_pos hMem]
  · rename_i hOther
    refine state?_congr ((mem_known_select now candidates).trans (or_iff_right hOther)) ?_
    rw [hState, if_neg hOther]

/-- Nothing is left to do where all candidates are known and have had their second chance. -/
theorem snd_select_eq_self (h : tracker.states.Ordered) {candidates : List EngineId}
    (hDone : ∀ id ∈ candidates, ∃ state, tracker.state? id = some state ∧ state.refreshed now = state) :
    (tracker.select now candidates).2 = tracker := by
  rw [snd_select]
  induction candidates with
  | nil => rfl
  | cons id rest ih =>
      obtain ⟨hFirst, hRest⟩ := List.forall_mem_cons.mp hDone
      obtain ⟨state, hState, hSame⟩ := hFirst
      have hUpdate : tracker.update id (·.refreshed now) = tracker :=
        congrArg (Tracker.mk tracker.policy) (States.update_eq_self h hState hSame)
      rw [List.foldl_cons, hUpdate]
      exact ih hRest

theorem select_select (h : tracker.states.Ordered) (candidates : List EngineId) :
    (tracker.select now candidates).2.select now candidates = tracker.select now candidates := by
  have hOrdered := ordered_select now h candidates
  have hState := stateOf_select now h candidates
  have hRuns : ∀ id ∈ candidates, ((tracker.select now candidates).2.stateOf id).mayRun now =
      (tracker.stateOf id).mayRun now := by
    intro id hMem
    rw [hState, if_pos hMem, EngineState.mayRun_refreshed]
  have hEligible : ((tracker.select now candidates).2.select now candidates).1.eligible =
      (tracker.select now candidates).1.eligible := by
    rw [eligible_select now hOrdered, eligible_select now h]
    exact List.filter_congr hRuns
  have hSkipped : ((tracker.select now candidates).2.select now candidates).1.skipped =
      (tracker.select now candidates).1.skipped := by
    rw [skipped_select now hOrdered, skipped_select now h,
      List.filter_congr fun id hMem => congrArg not (hRuns id hMem)]
    refine List.map_congr_left fun id hMem => ?_
    obtain ⟨hMem, hWaits⟩ := List.mem_filter.mp hMem
    have hKept : (tracker.select now candidates).2.stateOf id = tracker.stateOf id := by
      rw [hState, if_pos hMem, EngineState.refreshed_of_not_mayRun (by simpa using hWaits)]
    rw [skippedOf, hKept, skippedOf]
  have hFinal : ((tracker.select now candidates).2.select now candidates).2 =
      (tracker.select now candidates).2 := by
    refine snd_select_eq_self now hOrdered fun id hMem => ?_
    refine ⟨_, (state?_select now h candidates id).trans (if_pos hMem), ?_⟩
    exact EngineState.refreshed_refreshed _ now
  exact Prod.ext (congrArg₂ Selection.mk hEligible hSkipped) hFinal

variable {now}

/-- An engine that may run goes on to be one as long as it does not fail. -/
theorem mayRun_run (h : tracker.states.Ordered) {engine : EngineId} {events : List Event}
    (hQuiet : ∀ event ∈ events, ∀ kind failedAt, event ≠ .report engine (.failure kind) failedAt)
    (hRuns : (tracker.stateOf engine).mayRun now = true) :
    ((tracker.run events).stateOf engine).mayRun now = true := by
  induction events generalizing tracker with
  | nil => exact hRuns
  | cons event rest ih =>
      obtain ⟨hFirst, hRest⟩ := List.forall_mem_cons.mp hQuiet
      refine ih (ordered_step h event) hRest ?_
      cases event with
      | register id => rwa [step, register, stateOf_update h, ite_self]
      | report id outcome reportedAt =>
          rw [step, report, stateOf_update h]
          split
          · rename_i hId
            subst hId
            cases outcome with
            | success => rfl
            | failure kind => exact absurd rfl (hFirst kind reportedAt)
          · exact hRuns
      | select candidates given =>
          rw [step, stateOf_select given h]
          split
          · exact EngineState.mayRun_refreshed_of_mayRun given hRuns
          · exact hRuns
      | reset id =>
          rw [step, reset, stateOf_update h]
          split
          · rfl
          · exact hRuns
      | resetAll =>
          rw [step, stateOf_resetAll]
          rfl

/-- What a selection does to a tracker: candidates that are new to it become known and healthy, those whose
suspension is over become healthy and keep all else, and nothing else changes. -/
structure RefreshedAt (tracker final : Tracker) (now : Instant) (candidates : List EngineId) : Prop where
  policy : final.policy = tracker.policy
  others : ∀ engine, engine ∉ candidates → final.state? engine = tracker.state? engine
  registered : ∀ engine ∈ candidates, tracker.state? engine = none → final.state? engine = some {}
  recovered : ∀ engine ∈ candidates, ∀ state, tracker.state? engine = some state →
    (∀ ends, state.status = .suspended ends → ends ≤ now) →
    final.state? engine = some { state with status := .healthy }
  waiting : ∀ engine ∈ candidates, ∀ state ends, tracker.state? engine = some state →
    state.status = .suspended ends → now < ends → final.state? engine = some state

theorem refreshedAt_select (h : tracker.states.Ordered) (now : Instant) (candidates : List EngineId) :
    tracker.RefreshedAt (tracker.select now candidates).2 now candidates where
  policy := policy_select now tracker candidates
  others engine hOther := (state?_select now h candidates engine).trans (if_neg hOther)
  registered engine hMem hNew := by
    rw [state?_select now h, if_pos hMem, stateOf, hNew]
    rfl
  recovered engine hMem state hState hOver := by
    have hRuns : state.mayRun now = true := by
      by_contra hWaits
      obtain ⟨ends, hStatus, hEnds⟩ := EngineState.exists_of_not_mayRun (Bool.eq_false_iff.mpr hWaits)
      exact Nat.not_le_of_lt hEnds (hOver ends hStatus)
    rw [state?_select now h, if_pos hMem, stateOf, hState, Option.getD_some, EngineState.refreshed, if_pos hRuns]
  waiting engine hMem state ends hState hStatus hEnds := by
    have hWaits : state.mayRun now = false := by simpa [EngineState.mayRun, hStatus] using hEnds
    rw [state?_select now h, if_pos hMem, stateOf, hState, Option.getD_some,
      EngineState.refreshed_of_not_mayRun hWaits]

end Tracker

theorem Event.eq_report_of_logged {engine : EngineId} {event : Event} {outcome : Outcome} {now : Instant}
    (h : event.logged engine = some (.reported outcome now)) : event = .report engine outcome now := by
  cases event with
  | report id reported reportedAt =>
      by_cases hId : id = engine
      · simp_all [logged]
      · simp [logged, hId] at h
  | select candidates given => by_cases hMem : engine ∈ candidates <;> simp [logged, hMem] at h
  | register id => cases h
  | reset id => cases h
  | resetAll => cases h

/-- A failure among some events suspended an engine until the given instant, and nothing has been reported of
the engine or forgotten about it since. -/
def SuspendedBy (policy : SuspensionPolicy) (events : List Event) (engine : EngineId) (kind : FailureKind)
    (ends : Instant) : Prop :=
  ∃ before failedAt after, events = before ++ .report engine (.failure kind) failedAt :: after ∧
    (Tracker.run { policy } (before ++ [.report engine (.failure kind) failedAt])).status engine =
      .suspended ends ∧
    ∀ event ∈ after, event.resets engine = false ∧
      ∀ outcome reportedAt, event ≠ .report engine outcome reportedAt

variable {policy : SuspensionPolicy} {events : List Event} {engine : EngineId} {kind : FailureKind}
  {ends : Instant}

/-- Later events leave a suspension with its failure if they do not reset or report. -/
theorem SuspendedBy.append_singleton (h : SuspendedBy policy events engine kind ends) {event : Event}
    (hKept : event.resets engine = false)
    (hQuiet : ∀ outcome reportedAt, event ≠ .report engine outcome reportedAt) :
    SuspendedBy policy (events ++ [event]) engine kind ends := by
  obtain ⟨before, failedAt, after, rfl, hStatus, hAfter⟩ := h
  refine ⟨before, failedAt, after ++ [event], by simp, hStatus, ?_⟩
  intro other hMem
  rcases List.mem_append.mp hMem with hMem | hMem
  · exact hAfter other hMem
  · rw [List.mem_singleton.mp hMem]
    exact ⟨hKept, hQuiet⟩

/-- Each suspension comes from a failure, and that is the latest one known of the engine. -/
theorem exists_suspendedBy (h : ((Tracker.run { policy } events).stateOf engine).status = .suspended ends) :
    ∃ kind, ((Tracker.run { policy } events).stateOf engine).lastFailure = some kind ∧
      SuspendedBy policy events engine kind ends := by
  induction events using List.reverseRecOn with
  | nil => cases h
  | append_singleton events event ih =>
      have hOrdered := Tracker.ordered_run (states_nil_ordered policy) events
      have hRun : Tracker.run { policy } (events ++ [event]) =
          (Tracker.run { policy } events).step event := List.foldl_append
      rw [hRun, stateOf_step hOrdered] at h ⊢
      cases hResets : event.resets engine with
      | true =>
          rw [if_pos hResets] at h
          cases h
      | false =>
          rw [if_neg (by simp [hResets])] at h ⊢
          cases hLogged : event.logged engine with
          | none =>
              rw [hLogged] at h
              obtain ⟨kind, hKind, hBy⟩ := ih h
              refine ⟨kind, hKind, hBy.append_singleton hResets ?_⟩
              rintro outcome reportedAt rfl
              simp [Event.logged] at hLogged
          | some entry =>
              rw [hLogged] at h
              cases entry with
              | selected given =>
                  obtain ⟨hOld, -⟩ := EngineState.status_refreshed_eq_suspended_iff.mp h
                  obtain ⟨kind, hKind, hBy⟩ := ih hOld
                  refine ⟨kind, ?_, hBy.append_singleton hResets ?_⟩
                  · obtain ⟨status, hStatus⟩ := EngineState.exists_refreshed_eq
                      ((Tracker.run { policy } events).stateOf engine) given
                    exact (congrArg EngineState.lastFailure hStatus).trans hKind
                  · rintro outcome reportedAt rfl
                    simp [Event.logged] at hLogged
              | reported outcome reportedAt =>
                  obtain rfl := Event.eq_report_of_logged hLogged
                  cases outcome with
                  | success => cases h
                  | failure kind =>
                      refine ⟨kind, rfl, events, reportedAt, [], rfl, ?_, by simp⟩
                      rw [Tracker.policy_run] at h
                      rw [Tracker.status_eq_status_stateOf, stateOf_run_report]
                      exact h

namespace Tracker

variable {tracker final : Tracker} {now : Instant} {candidates : List EngineId} {selection : Selection}

theorem mayRun_stateOf_iff (tracker : Tracker) (now : Instant) (engine : EngineId) :
    (tracker.stateOf engine).mayRun now = true ↔
      tracker.state? engine = none ∨ tracker.status engine = .healthy ∨
        ∃ ends ≤ now, tracker.status engine = .suspended ends := by
  rw [EngineState.mayRun_iff_status, status_eq_status_stateOf]
  refine (or_iff_right_of_imp fun hNew => .inl ?_).symm
  rw [stateOf, hNew]
  rfl

theorem map_engine_skipped_select (h : tracker.states.Ordered) (now : Instant) (candidates : List EngineId) :
    (tracker.select now candidates).1.skipped.map (·.engine) =
      candidates.filter fun id => !(tracker.stateOf id).mayRun now := by
  rw [skipped_select now h, List.map_map]
  exact List.map_id' _

/-- A candidate is left out while a failure suspends it, and is listed with that failure and with what is left of
its suspension. -/
theorem suspendedBy_of_mem_skipped (hRun : Tracker.run { policy } events = tracker) {skipped : SkippedEngine}
    (hMem : skipped ∈ (tracker.select now candidates).1.skipped) :
    ∃ ends kind, tracker.status skipped.engine = .suspended ends ∧ now < ends ∧
      skipped.remaining = ends - now ∧ 0 < skipped.remaining ∧ skipped.lastFailure = some kind ∧
      SuspendedBy policy events skipped.engine kind ends := by
  have hOrdered : tracker.states.Ordered := hRun ▸ ordered_run (states_nil_ordered policy) events
  rw [skipped_select now hOrdered] at hMem
  obtain ⟨id, hId, rfl⟩ := List.mem_map.mp hMem
  have hWaits : (tracker.stateOf id).mayRun now = false := by simpa using (List.mem_filter.mp hId).2
  obtain ⟨ends, hStatus, hEnds⟩ := EngineState.exists_of_not_mayRun hWaits
  have hRemaining : (tracker.skippedOf now id).remaining = ends - now := by
    simp [skippedOf, EngineState.suspendedUntil, hStatus]
  obtain ⟨kind, hKind, hBy⟩ := exists_suspendedBy (hRun ▸ hStatus)
  refine ⟨ends, kind, (status_eq_status_stateOf tracker id).trans hStatus, hEnds, hRemaining, ?_,
    hRun ▸ hKind, hBy⟩
  rw [hRemaining]
  exact Nat.sub_pos_of_lt hEnds

/-- After any events a selection splits its candidates in two, each with the order and the repetitions that the
candidates have: an engine may run if it is new, if it is healthy or if its suspension ends by then, and the
others are listed with the rest of their suspension and with the failure that it comes from. The selection only
makes the former healthy and known. To select once more at the same instant gives the same answer and changes
nothing, and who may run goes on to be chosen at any later instant, whatever happens in between, for as long as
it does not fail. -/
theorem select_splits_candidates (hRun : Tracker.run { policy } events = tracker)
    (hSelect : tracker.select now candidates = (selection, final)) :
    selection.eligible = candidates.filter (fun id => (tracker.stateOf id).mayRun now) ∧
    selection.skipped.map (·.engine) = candidates.filter (fun id => !(tracker.stateOf id).mayRun now) ∧
    (∀ engine, (tracker.stateOf engine).mayRun now = true ↔
      tracker.state? engine = none ∨ tracker.status engine = .healthy ∨
        ∃ ends ≤ now, tracker.status engine = .suspended ends) ∧
    (∀ skipped ∈ selection.skipped, ∃ ends kind, tracker.status skipped.engine = .suspended ends ∧
      now < ends ∧ skipped.remaining = ends - now ∧ 0 < skipped.remaining ∧
      skipped.lastFailure = some kind ∧ SuspendedBy policy events skipped.engine kind ends) ∧
    tracker.RefreshedAt final now candidates ∧
    final.select now candidates = (selection, final) ∧
    ∀ engine ∈ selection.eligible, ∀ between,
      (∀ event ∈ between, ∀ kind failedAt, event ≠ .report engine (.failure kind) failedAt) →
      ∀ later, now ≤ later → ∀ others, engine ∈ others →
        engine ∈ ((tracker.run between).select later others).1.eligible := by
  have hOrdered : tracker.states.Ordered := hRun ▸ ordered_run (states_nil_ordered policy) events
  obtain ⟨rfl, rfl⟩ := Prod.mk.inj hSelect
  refine ⟨eligible_select now hOrdered candidates, map_engine_skipped_select hOrdered now candidates,
    tracker.mayRun_stateOf_iff now, fun skipped => suspendedBy_of_mem_skipped hRun,
    refreshedAt_select hOrdered now candidates, select_select now hOrdered candidates, ?_⟩
  intro engine hEligible between hQuiet later hLater others hOther
  rw [eligible_select now hOrdered, List.mem_filter] at hEligible
  rw [eligible_select later (ordered_run hOrdered between), List.mem_filter]
  exact ⟨hOther, mayRun_run hOrdered hQuiet (EngineState.mayRun_mono hLater hEligible.2)⟩

/-- One engine was asked to prove that it is human, and another one timed out. -/
def suspendingEvents : List Event :=
  [.report ⟨"a", "web"⟩ (.failure .captcha) 0, .report ⟨"b", "web"⟩ (.failure .timeout) 1000]

/-- Two candidates that come twice, and one that is new. The rest of one is over at the instant of the selection. -/
def repeatedCandidates : List EngineId :=
  [⟨"b", "web"⟩, ⟨"a", "web"⟩, ⟨"d", "web"⟩, ⟨"b", "web"⟩, ⟨"a", "web"⟩]

theorem select_splits_repeated_candidates :
    ∃ selection final, (Tracker.run {} suspendingEvents).select 6000 repeatedCandidates = (selection, final) ∧
      selection.eligible = [⟨"b", "web"⟩, ⟨"d", "web"⟩, ⟨"b", "web"⟩] ∧
      selection.skipped.map (·.engine) = [⟨"a", "web"⟩, ⟨"a", "web"⟩] ∧
      (∀ skipped ∈ selection.skipped, ∃ kind, skipped.remaining = 86394000 ∧
        skipped.lastFailure = some kind ∧ SuspendedBy {} suspendingEvents skipped.engine kind 86400000) ∧
      final.select 6000 repeatedCandidates = (selection, final) ∧
      (⟨"b", "web"⟩ : EngineId) ∈ (((Tracker.run {} suspendingEvents).run
        [.select [⟨"b", "web"⟩] 5999, .report ⟨"a", "web"⟩ (.failure .timeout) 6500]).select 7000
          [⟨"a", "web"⟩, ⟨"b", "web"⟩]).1.eligible := by
  obtain ⟨hEligible, hSkipped, -, hCauses, -, hAgain, hLater⟩ :=
    select_splits_candidates (rfl : Tracker.run {} suspendingEvents = _)
      (rfl : (Tracker.run {} suspendingEvents).select 6000 repeatedCandidates = _)
  refine ⟨_, _, rfl, hEligible.trans (by decide), hSkipped.trans (by decide), ?_, hAgain,
    hLater _ (by decide) _ (by simp) 7000 (by decide) _ (by decide)⟩
  intro skipped hMem
  obtain ⟨ends, kind, hStatus, -, hRemaining, -, hKind, hBy⟩ := hCauses skipped hMem
  have hEngine : skipped.engine = ⟨"a", "web"⟩ := by
    have hListed := List.mem_map_of_mem (f := (·.engine)) hMem
    rw [hSkipped] at hListed
    exact (by decide : ∀ id ∈ repeatedCandidates.filter fun id =>
      !((Tracker.run {} suspendingEvents).stateOf id).mayRun 6000, id = ⟨"a", "web"⟩) _ hListed
  have hEnds : (Tracker.run {} suspendingEvents).status ⟨"a", "web"⟩ = .suspended 86400000 := by decide
  rw [hEngine, hEnds] at hStatus
  cases hStatus
  exact ⟨kind, hRemaining, hKind, hBy⟩

end Tracker

end Metasearch.Health
