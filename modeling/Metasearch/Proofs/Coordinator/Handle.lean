import Mathlib.Logic.Basic
import Metasearch.Coordinator.Handle
import Metasearch.Proofs.Dispatch.Outcomes

/-! The ways in which a request is answered. A request with candidates is served from the cache or its
engines are called; everything an answer holds is then read off the candidates, the selection made from
them, and the dispatch of those that are eligible. -/
namespace Metasearch.Coordinator

open Dispatch

variable {α : Type} (coordinator : Coordinator) (request : QueryRequest) (session : Session α)

/-- The candidates split by health, and the tracker after that. -/
def selectionOf (candidates : List EngineId) : Health.Selection × Health.Tracker :=
  session.tracker.select session.now candidates

/-- The results that answer a request for candidates without a call. -/
def keptFor (candidates : List EngineId) : Option (List MergedResult) :=
  if (selectionOf session candidates).1.skipped.isEmpty then
    session.cache.get? (CacheKey.ofRequest request candidates)
  else none

/-- The request as it is dispatched to its eligible candidates. -/
def pendingOf (candidates : List EngineId) : Pending :=
  { request, candidates
    selection := (selectionOf session candidates).1
    key := CacheKey.ofRequest request candidates
    targets := coordinator.targetsOf (selectionOf session candidates).1.eligible
    limits := coordinator.limitsOf request session.now
    opened := session.now }

/-- How a valid request with candidates begins. -/
theorem openRequest_eq {candidates : List EngineId} (hValid : request.validate = .ok ())
    (hCandidates : coordinator.candidates request = .ok candidates) :
    coordinator.openRequest request session =
      ((match keptFor request session candidates with
        | some results => .served (servedResponse request results)
        | none => .pending (coordinator.pendingOf request session candidates)),
      { session with tracker := (selectionOf session candidates).2 }) := by
  have hOpen : coordinator.openRequest request session =
      (match keptFor request session candidates with
      | some results =>
        (.served (servedResponse request results),
          { session with tracker := (selectionOf session candidates).2 })
      | none =>
        (.pending (coordinator.pendingOf request session candidates),
          { session with tracker := (selectionOf session candidates).2 })) := by
    simp only [openRequest, hValid, hCandidates]
    rfl
  rw [hOpen]
  cases keptFor request session candidates <;> rfl

/-- A request is refused, which changes nothing, or it is valid and has candidates. -/
theorem refused_or_candidates :
    (∃ error, coordinator.openRequest request session = (.refused error, session)) ∨
    ∃ candidates, request.validate = .ok () ∧ coordinator.candidates request = .ok candidates := by
  cases hValid : request.validate with
  | error fault => exact Or.inl ⟨.invalidQuery fault, by simp only [openRequest, hValid]⟩
  | ok =>
      cases hCandidates : coordinator.candidates request with
      | error error => exact Or.inl ⟨error, by simp only [openRequest, hValid, hCandidates]⟩
      | ok candidates => exact Or.inr ⟨candidates, rfl, rfl⟩

/-- A request is refused, or it is served what is kept for it, or its eligible candidates are to be called. -/
theorem openRequest_cases :
    (∃ error, coordinator.openRequest request session = (.refused error, session)) ∨
    ∃ candidates, request.validate = .ok () ∧ coordinator.candidates request = .ok candidates ∧
      ((∃ results, keptFor request session candidates = some results ∧
        coordinator.openRequest request session = (.served (servedResponse request results),
          { session with tracker := (selectionOf session candidates).2 })) ∨
      (keptFor request session candidates = none ∧
        coordinator.openRequest request session = (.pending (coordinator.pendingOf request session candidates),
          { session with tracker := (selectionOf session candidates).2 }))) := by
  rcases refused_or_candidates coordinator request session with
    hRefused | ⟨candidates, hValid, hCandidates⟩
  · exact Or.inl hRefused
  · have hOpen := openRequest_eq coordinator request session hValid hCandidates
    refine Or.inr ⟨candidates, hValid, hCandidates, ?_⟩
    cases hKept : keptFor request session candidates with
    | some results =>
        rw [hKept] at hOpen
        exact Or.inl ⟨results, rfl, hOpen⟩
    | none =>
        rw [hKept] at hOpen
        exact Or.inr ⟨rfl, hOpen⟩

variable [EngineAdapter α]

/-- What the dispatch of a request to its eligible candidates leaves behind. -/
def dispatchedOf (candidates : List EngineId) : Dispatched α :=
  Dispatch.run (coordinator.limitsOf request session.now) request session.now
    (coordinator.targetsOf (selectionOf session candidates).1.eligible)
    (selectionOf session candidates).2 session.pool

/-- The answer made of the dispatch of a request. -/
def calledResponse (candidates : List EngineId) : Response :=
  coordinator.responseOf (coordinator.pendingOf request session candidates)
    (coordinator.dispatchedOf request session candidates).report
    (coordinator.dispatchedOf request session candidates).finish

/-- The session after the dispatch of a request. -/
def calledSession (candidates : List EngineId) : Session α :=
  { tracker := (coordinator.dispatchedOf request session candidates).tracker
    cache := keep (coordinator.pendingOf request session candidates)
      (coordinator.calledResponse request session candidates) session.cache
    pool := (coordinator.dispatchedOf request session candidates).pool
    now := (coordinator.dispatchedOf request session candidates).finish }

/-- The answers to a request, with the session each leaves behind. -/
inductive Answered : Response → Session α → Prop where
  | served {candidates : List EngineId} {results : List MergedResult}
      (hValid : request.validate = .ok ())
      (hCandidates : coordinator.candidates request = .ok candidates)
      (hKept : keptFor request session candidates = some results) :
      Answered (servedResponse request results)
        { session with tracker := (selectionOf session candidates).2 }
  | called {candidates : List EngineId}
      (hValid : request.validate = .ok ())
      (hCandidates : coordinator.candidates request = .ok candidates)
      (hKept : keptFor request session candidates = none)
      (hPermits : permitsCountable (coordinator.limitsOf request session.now)
        (coordinator.targetsOf (selectionOf session candidates).1.eligible) = true) :
      Answered (coordinator.calledResponse request session candidates)
        (coordinator.calledSession request session candidates)

variable {coordinator request session}

/-- A request that is answered is answered in one of these ways. -/
theorem answered_of_handle {response : Response} {final : Session α}
    (h : coordinator.handle request session = .ok (.ok response, final)) :
    coordinator.Answered request session response final := by
  rcases openRequest_cases coordinator request session with ⟨error, hOpen⟩ |
    ⟨candidates, hValid, hCandidates, ⟨results, hKept, hOpen⟩ | ⟨hKept, hOpen⟩⟩
  · rw [handle, hOpen] at h
    cases h
  · rw [handle, hOpen] at h
    cases h
    exact Answered.served hValid hCandidates hKept
  · rw [handle, hOpen] at h
    simp only [pendingOf] at h
    cases hPermits : permitsCountable (coordinator.limitsOf request session.now)
        (coordinator.targetsOf (selectionOf session candidates).1.eligible) with
    | false =>
        rw [dispatch_eq_error _ _ _ _ _ _ hPermits] at h
        cases h
    | true =>
        rw [dispatch_eq_ok _ _ _ _ _ _ hPermits] at h
        cases h
        exact Answered.called hValid hCandidates hKept hPermits

/-- The two ways of being answered, for known candidates. -/
theorem served_or_called_of_handle {candidates : List EngineId} {response : Response} {final : Session α}
    (hHandle : coordinator.handle request session = .ok (.ok response, final))
    (hCandidates : coordinator.candidates request = .ok candidates) :
    (∃ results, keptFor request session candidates = some results ∧
      response = servedResponse request results) ∨
    (keptFor request session candidates = none ∧
      response = coordinator.calledResponse request session candidates) := by
  cases answered_of_handle hHandle with
  | @served others results hValid hOthers hKept =>
      obtain rfl : others = candidates := Except.ok.inj (hOthers.symm.trans hCandidates)
      exact Or.inl ⟨results, hKept, rfl⟩
  | @called others hValid hOthers hKept hPermits =>
      obtain rfl : others = candidates := Except.ok.inj (hOthers.symm.trans hCandidates)
      exact Or.inr ⟨hKept, rfl⟩

/-- A request that is answered has candidates. -/
theorem exists_candidates_of_handle {response : Response} {final : Session α}
    (h : coordinator.handle request session = .ok (.ok response, final)) :
    ∃ candidates, coordinator.candidates request = .ok candidates := by
  cases answered_of_handle h with
  | served hValid hCandidates hKept => exact ⟨_, hCandidates⟩
  | called hValid hCandidates hKept hPermits => exact ⟨_, hCandidates⟩

/-- A request that is refused changes nothing. -/
theorem eq_of_refused {error : SearchError} {final : Session α}
    (h : coordinator.handle request session = .ok (.error error, final)) : final = session := by
  rcases openRequest_cases coordinator request session with ⟨_, hOpen⟩ |
    ⟨candidates, -, -, ⟨results, -, hOpen⟩ | ⟨-, hOpen⟩⟩
  · rw [handle, hOpen] at h
    cases h
    rfl
  · rw [handle, hOpen] at h
    cases h
  · rw [handle, hOpen] at h
    dsimp only at h
    split at h <;> cases h

/-- In each of these ways a request is answered. -/
theorem handle_of_answered {response : Response} {final : Session α}
    (h : coordinator.Answered request session response final) :
    coordinator.handle request session = .ok (.ok response, final) := by
  cases h with
  | served hValid hCandidates hKept =>
      rw [handle, openRequest_eq coordinator request session hValid hCandidates, hKept]
  | called hValid hCandidates hKept hPermits =>
      rw [handle, openRequest_eq coordinator request session hValid hCandidates, hKept]
      simp only [pendingOf]
      rw [dispatch_eq_ok _ _ _ _ _ _ hPermits]
      rfl

end Metasearch.Coordinator
