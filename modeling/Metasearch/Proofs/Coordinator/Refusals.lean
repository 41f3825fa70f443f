import Metasearch.Proofs.Coordinator.Contacts

/-! Which requests are refused. A request is refused if it is unusable by itself, or if no engine that is
switched on belongs to a category it asks for. Both are seen before anything is changed, and whatever
happens to engines afterwards is part of an answer. -/
namespace Metasearch

/-- The request has no text, no page or no time. -/
def QueryRequest.Unusable (request : QueryRequest) : Prop :=
  Text.isBlankText request.query = true ∨ request.page = 0 ∨
    ∃ asked, request.timeout = some asked ∧ asked.inNanos = 0

theorem QueryRequest.validate_eq_ok_iff {request : QueryRequest} :
    request.validate = .ok () ↔ ¬request.Unusable := by
  have hTimeout : request.timeout.any Duration.isZero = true ↔
      ∃ asked, request.timeout = some asked ∧ asked.inNanos = 0 := by
    rw [Option.any_eq_true]
    exact exists_congr fun asked => and_congr_right fun _ => Duration.isZero_iff
  unfold validate Unusable
  rw [← hTimeout]
  by_cases hQuery : Text.isBlankText request.query = true
  · simp [hQuery]
  · by_cases hPage : request.page = 0
    · simp [hQuery, hPage]
    · cases hZero : request.timeout.any Duration.isZero <;> simp [hQuery, hPage]

namespace SearchConfig

/-- The categories that a request asks for. -/
def askedCategories (config : SearchConfig) (request : QueryRequest) : List String :=
  if request.categories = [] then config.defaultCategories else request.categories

/-- Some engine that is switched on belongs to a category that a request asks for. Neither case nor blanks
around a category matter, and a blank one names nothing. -/
def Offers (config : SearchConfig) (request : QueryRequest) : Prop :=
  ∃ engine ∈ config.engines, engine.disabled = false ∧
    ∃ asked ∈ config.askedCategories request,
      Text.lower (Text.trim asked) ≠ "" ∧ Text.lower (Text.trim asked) = Text.lower engine.category

end SearchConfig

namespace Coordinator

variable {coordinator : Coordinator} {request : QueryRequest}

/-- The engines of a coordinator are those of its configuration that are switched on. -/
theorem Built.engineIds_eq (h : coordinator.Built) :
    coordinator.engineIds =
      (coordinator.config.engines.filter (!·.disabled)).map EngineSettings.id := by
  obtain ⟨config, names, tracker, final, h⟩ := h
  obtain ⟨-, hRegistered, -, hConfig⟩ := withTracker_eq_ok h
  rw [engineIds, map_id_of_registerAll hRegistered, hConfig]

theorem mem_wantedCategories {category : String} :
    category ∈ coordinator.wantedCategories request ↔
      ∃ asked ∈ coordinator.config.askedCategories request,
        Text.lower (Text.trim asked) ≠ "" ∧ Text.lower (Text.trim asked) = category := by
  simp only [wantedCategories, SearchConfig.askedCategories, List.mem_filter, List.mem_map,
    List.isEmpty_iff, Bool.not_eq_true', String.isEmpty_eq_false_iff]
  constructor
  · rintro ⟨⟨asked, hAsked, rfl⟩, hNamed⟩
    exact ⟨asked, hAsked, hNamed, rfl⟩
  · rintro ⟨asked, hAsked, hNamed, rfl⟩
    exact ⟨⟨asked, hAsked, rfl⟩, hNamed⟩

theorem inCategories_eq_nil_iff (built : coordinator.Built) :
    coordinator.inCategories (coordinator.wantedCategories request) = [] ↔
      ¬coordinator.config.Offers request := by
  have hNone : coordinator.inCategories (coordinator.wantedCategories request) = [] ↔
      ∀ id ∈ coordinator.engineIds, Text.lower id.category ∉ coordinator.wantedCategories request := by
    simp [inCategories, engineIds, List.filter_eq_nil_iff]
  rw [hNone, built.engineIds_eq]
  constructor
  · rintro hNone ⟨engine, hEngine, hOn, hAsked⟩
    refine hNone engine.id ?_ (mem_wantedCategories.mpr hAsked)
    exact List.mem_map_of_mem (List.mem_filter.mpr ⟨hEngine, by simp [hOn]⟩)
  · intro hOffers id hId hWanted
    obtain ⟨engine, hEngine, rfl⟩ := List.mem_map.mp hId
    obtain ⟨hEngine, hOn⟩ := List.mem_filter.mp hEngine
    exact hOffers ⟨engine, hEngine, by simpa using hOn, mem_wantedCategories.mp hWanted⟩

/-- A request has candidates, if possibly none that it admits, unless no engine belongs to its
categories. -/
theorem exists_candidates_iff (built : coordinator.Built) :
    (∃ candidates, coordinator.candidates request = .ok candidates) ↔
      coordinator.config.Offers request := by
  rw [← not_iff_not, ← inCategories_eq_nil_iff built, ← List.isEmpty_iff]
  cases hFound : (coordinator.inCategories (coordinator.wantedCategories request)).isEmpty <;>
    simp [candidates, hFound]

theorem candidates_of_not_offers (built : coordinator.Built)
    (hOffers : ¬coordinator.config.Offers request) :
    coordinator.candidates request =
      .error (.noEnginesRegistered (sortedTexts (coordinator.wantedCategories request))) := by
  simp [candidates, (inCategories_eq_nil_iff built).mpr hOffers]

variable {α : Type} {session : Session α}

variable (coordinator session) in
/-- An unusable request is refused as soon as it is opened, with what is wrong with it. -/
theorem openRequest_of_unusable (hUnusable : request.Unusable) :
    ∃ fault, coordinator.openRequest request session = (.refused (.invalidQuery fault), session) := by
  cases hValid : request.validate with
  | ok => exact absurd hUnusable (QueryRequest.validate_eq_ok_iff.mp hValid)
  | error fault => exact ⟨fault, by simp only [openRequest, hValid]⟩

variable (session) in
theorem openRequest_of_not_offers (built : coordinator.Built) (hUsable : ¬request.Unusable)
    (hOffers : ¬coordinator.config.Offers request) :
    coordinator.openRequest request session =
      (.refused (.noEnginesRegistered (sortedTexts (coordinator.wantedCategories request))),
        session) := by
  simp only [openRequest, QueryRequest.validate_eq_ok_iff.mpr hUsable,
    candidates_of_not_offers built hOffers]

variable [EngineAdapter α]

theorem handle_of_refused {error : SearchError}
    (hOpen : coordinator.openRequest request session = (.refused error, session)) :
    coordinator.handle request session = .ok (.error error, session) ∧
      coordinator.contacted request session = [] := by
  simp [handle, contacted, hOpen]

variable (session) in
/-- A request with candidates is answered, whatever their state and however their calls end, unless its
permits cannot be counted. -/
theorem exists_answered_of_candidates {candidates : List EngineId}
    (hValid : request.validate = .ok ()) (hCandidates : coordinator.candidates request = .ok candidates)
    (hPermits : coordinator.config.maxConcurrentEngines.toNat ≤ Dispatch.maxPermits) :
    ∃ response final, coordinator.Answered request session response final := by
  cases hKept : keptFor request session candidates with
  | some results => exact ⟨_, _, .served hValid hCandidates hKept⟩
  | none =>
      refine ⟨_, _, .called hValid hCandidates hKept ?_⟩
      have hLanes : (coordinator.limitsOf request session.now).lanes ≤ Dispatch.maxPermits :=
        Nat.max_le.mpr ⟨hPermits, by decide⟩
      simp [Dispatch.permitsCountable, hLanes]

/-- Nothing that happens to a request with candidates refuses it. -/
theorem handle_ne_error_of_candidates {candidates : List EngineId} {error : SearchError}
    {final : Session α} (hValid : request.validate = .ok ())
    (hCandidates : coordinator.candidates request = .ok candidates) :
    coordinator.handle request session ≠ .ok (.error error, final) := by
  intro hHandle
  rw [handle, openRequest_eq coordinator request session hValid hCandidates] at hHandle
  cases hKept : keptFor request session candidates with
  | some results => simp [hKept] at hHandle
  | none =>
      simp only [hKept] at hHandle
      split at hHandle <;> cases hHandle

/-- Whether a request is answered can be told from the request and the configuration. -/
theorem isOk_of_handle_iff (built : coordinator.Built) {outcome : Except SearchError Response}
    {final : Session α} (hHandle : coordinator.handle request session = .ok (outcome, final)) :
    outcome.isOk = true ↔ ¬request.Unusable ∧ coordinator.config.Offers request := by
  rw [← QueryRequest.validate_eq_ok_iff, ← exists_candidates_iff built]
  cases outcome with
  | ok response =>
      refine iff_of_true rfl ?_
      cases answered_of_handle hHandle with
      | served hValid hCandidates hKept => exact ⟨hValid, _, hCandidates⟩
      | called hValid hCandidates hKept hPermits => exact ⟨hValid, _, hCandidates⟩
  | error error =>
      refine iff_of_false Bool.false_ne_true ?_
      rintro ⟨hValid, candidates, hCandidates⟩
      exact handle_ne_error_of_candidates hValid hCandidates hHandle

/-- A request is refused exactly if it is unusable or no engine that is switched on belongs to a category
it asks for. No state of the engines, no way in which their calls end and no list of admitted names refuses
one. A refusal changes nothing: neither the tracker nor the cache, no adapter is called, and no time
passes. -/
theorem handle_refuses_iff (built : coordinator.Built) :
    ((∃ error final, coordinator.handle request session = .ok (.error error, final)) ↔
      request.Unusable ∨ ¬coordinator.config.Offers request) ∧
    (∀ error final, coordinator.handle request session = .ok (.error error, final) →
      (error.kind = .invalidQuery ↔ request.Unusable) ∧
      (error.kind = .noEnginesRegistered ↔ ¬request.Unusable) ∧
      final = session ∧ coordinator.contacted request session = []) ∧
    (¬request.Unusable → coordinator.config.Offers request →
      coordinator.config.maxConcurrentEngines.toNat ≤ Dispatch.maxPermits →
      ∃ response final, coordinator.handle request session = .ok (.ok response, final)) := by
  by_cases hUnusable : request.Unusable
  · obtain ⟨fault, hOpen⟩ := openRequest_of_unusable coordinator session hUnusable
    obtain ⟨hHandle, hContacted⟩ := handle_of_refused hOpen
    refine ⟨⟨fun _ => .inl hUnusable, fun _ => ⟨_, _, hHandle⟩⟩, ?_, fun hUsable => absurd hUnusable hUsable⟩
    intro error final hError
    cases hHandle.symm.trans hError
    simp [SearchError.kind, hUnusable, hContacted]
  · by_cases hOffers : coordinator.config.Offers request
    · have hValid := QueryRequest.validate_eq_ok_iff.mpr hUnusable
      obtain ⟨candidates, hCandidates⟩ := (exists_candidates_iff built).mpr hOffers
      have hNever : ∀ error final, coordinator.handle request session ≠ .ok (.error error, final) :=
        fun _ _ => handle_ne_error_of_candidates hValid hCandidates
      refine ⟨⟨?_, ?_⟩, fun error final hError => absurd hError (hNever error final), ?_⟩
      · rintro ⟨error, final, hError⟩
        exact absurd hError (hNever error final)
      · rintro (hUnusable' | hNot)
        · exact absurd hUnusable' hUnusable
        · exact absurd hOffers hNot
      · intro _ _ hPermits
        obtain ⟨response, final, hAnswered⟩ :=
          exists_answered_of_candidates session hValid hCandidates hPermits
        exact ⟨response, final, handle_of_answered hAnswered⟩
    · obtain ⟨hHandle, hContacted⟩ :=
        handle_of_refused (openRequest_of_not_offers session built hUnusable hOffers)
      refine ⟨⟨fun _ => .inr hOffers, fun _ => ⟨_, _, hHandle⟩⟩, ?_, fun _ hOffers' => absurd hOffers' hOffers⟩
      intro error final hError
      cases hHandle.symm.trans hError
      simp [SearchError.kind, hUnusable, hContacted]

/-- A category in another spelling is found, and admitting none of its engines is no error. Categories
without engines are one. -/
theorem handle_refuses_only_strange_categories :
    mixedCoordinator.Built ∧
    (∃ response final, mixedCoordinator.handle
      { query := "x", categories := [" NEWS "], engines := some ["nobody"] } mixedSession =
        .ok (.ok response, final)) ∧
    ∃ error, mixedCoordinator.handle { query := "x", categories := ["images", " "] } mixedSession =
        .ok (.error error, mixedSession) ∧
      error.kind = .noEnginesRegistered := by
  have hUsable : ∀ categories engines,
      ¬({ query := "x", categories, engines } : QueryRequest).Unusable := by
    have hText : Text.isBlankText "x" = false := by decide
    simp [QueryRequest.Unusable, hText]
  refine ⟨mixedCoordinator_built, ?_, ?_⟩
  · have hNews : Text.lower (Text.trim " NEWS ") = Text.lower "news" := by decide
    refine (handle_refuses_iff mixedCoordinator_built).2.2 (hUsable _ _) ?_ (by decide)
    refine ⟨{ name := "alpha", category := "news" }, ?_, rfl, " NEWS ", List.mem_singleton_self _, ?_, hNews⟩
    · simp [mixedCoordinator, mixedConfig]
    · rw [hNews]
      decide
  · have hOffers : ¬mixedConfig.Offers { query := "x", categories := ["images", " "] } := by
      rintro ⟨engine, hEngine, -, asked, hAsked, hNamed, hSame⟩
      have hCategory : Text.lower engine.category = "general" ∨ Text.lower engine.category = "news" := by
        simp only [mixedConfig, List.mem_cons, List.not_mem_nil, or_false] at hEngine
        rcases hEngine with rfl | rfl | rfl | rfl | rfl <;> decide
      have hWanted : Text.lower (Text.trim asked) = "images" ∨ Text.lower (Text.trim asked) = "" := by
        rcases List.mem_pair.mp hAsked with rfl | rfl <;> decide
      rw [← hSame] at hCategory
      rcases hWanted with hWanted | hWanted
      · simp [hWanted] at hCategory
      · exact hNamed hWanted
    obtain ⟨error, final, hError⟩ : ∃ error final, mixedCoordinator.handle
        { query := "x", categories := ["images", " "] } mixedSession = .ok (.error error, final) :=
      (handle_refuses_iff mixedCoordinator_built).1.mpr (.inr hOffers)
    obtain ⟨-, hKind, rfl, -⟩ := (handle_refuses_iff mixedCoordinator_built).2.1 error final hError
    exact ⟨error, hError, hKind.mpr (hUsable _ _)⟩

end Coordinator

end Metasearch
