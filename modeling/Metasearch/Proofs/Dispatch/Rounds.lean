import Mathlib.Algebra.Order.Floor.Div
import Metasearch.Proofs.Dispatch.Concurrency

/-! How long a dispatch takes without a deadline. Its calls begin in rounds of as many as there are permits:
the calls of one round have all begun when the longest timeout has passed since the round before. So it
ends, even if every adapter hangs. -/
namespace Metasearch.Dispatch

variable {opened t : Instant} {lanes : Nat} {longest : Millis} {runs : List Run}

theorem fst_settle_le (call : Call) (timeout : Millis) : (settle call timeout).1 ≤ timeout := by
  rw [fst_settle]
  split
  · rename_i hInTime
    exact hInTime.2
  · exact le_refl timeout

/-- Calls that begin in the order of their list, wait only while all permits are in use and end when the
longest timeout has passed since their start. -/
structure Eager (opened : Instant) (lanes : Nat) (longest : Millis) (runs : List Run) : Prop where
  opened_le : ∀ run ∈ runs, opened ≤ run.start
  ordered : runs.Pairwise fun a b => a.start ≤ b.start
  busy : ∀ run ∈ runs, ∀ t, opened ≤ t → t < run.start → lanes ≤ runs.countP (·.inProgressAt t)
  short : ∀ run ∈ runs, run.finish ≤ run.start + longest

namespace Eager

theorem start_le_start (h : Eager opened lanes longest runs) {place place' : Nat} (hPlaces : place ≤ place')
    {run run' : Run} (hRun : runs[place]? = some run) (hRun' : runs[place']? = some run') :
    run.start ≤ run'.start := by
  obtain ⟨hInside, rfl⟩ := List.getElem?_eq_some_iff.mp hRun
  obtain ⟨hInside', rfl⟩ := List.getElem?_eq_some_iff.mp hRun'
  rcases hPlaces.eq_or_lt with rfl | hBefore
  · exact le_refl _
  · exact List.pairwise_iff_getElem.mp h.ordered _ _ hInside hInside' hBefore

/-- While a call waits, the calls listed before it use all permits. -/
theorem lanes_le_countP_take (h : Eager opened lanes longest runs) {place : Nat} {waiting : Run}
    (hWaiting : runs[place]? = some waiting) (hOpened : opened ≤ t) (hWaits : t < waiting.start) :
    lanes ≤ (runs.take place).countP (·.inProgressAt t) := by
  have hLater : (runs.drop place).countP (·.inProgressAt t) = 0 := by
    rw [List.countP_eq_zero]
    intro run hMem
    obtain ⟨more, hRun⟩ := List.mem_iff_getElem?.mp hMem
    rw [List.getElem?_drop] at hRun
    have hStart := h.start_le_start (Nat.le_add_right place more) hWaiting hRun
    simp [Run.inProgressAt, Nat.not_le.mpr (Nat.lt_of_lt_of_le hWaits hStart)]
  calc
    lanes ≤ runs.countP (·.inProgressAt t) := h.busy _ (List.mem_of_getElem? hWaiting) t hOpened hWaits
    _ = (runs.take place).countP (·.inProgressAt t) + (runs.drop place).countP (·.inProgressAt t) := by
        rw [← List.countP_append, List.take_append_drop]
    _ = (runs.take place).countP (·.inProgressAt t) := by rw [hLater, Nat.add_zero]

/-- The calls of the first round begin at once. -/
theorem start_le_opened (h : Eager opened lanes longest runs) {place : Nat} {run : Run}
    (hRun : runs[place]? = some run) (hFirst : place < lanes) : run.start ≤ opened := by
  by_contra hLate
  have hAll := h.lanes_le_countP_take hRun (le_refl opened) (Nat.lt_of_not_le hLate)
  have hFew : ((runs.take place).countP fun run => run.inProgressAt opened) ≤ place :=
    List.countP_le_length.trans (List.length_take_le place runs)
  omega

/-- A call is over when the longest timeout has passed since it or a later call began. -/
theorem countP_take_succ_eq_zero (h : Eager opened lanes longest runs) {place : Nat} {run : Run}
    (hRun : runs[place]? = some run) :
    (runs.take (place + 1)).countP (·.inProgressAt (run.start + longest)) = 0 := by
  rw [List.countP_eq_zero]
  intro earlier hMem
  obtain ⟨before, hTaken⟩ := List.mem_iff_getElem?.mp hMem
  obtain ⟨hBefore, hEarlier⟩ : before < place + 1 ∧ runs[before]? = some earlier := by
    simpa [List.getElem?_take] using hTaken
  have hStart := h.start_le_start (Nat.le_of_lt_succ hBefore) hEarlier hRun
  have hOver : earlier.finish ≤ run.start + longest :=
    (h.short earlier (List.mem_of_mem_take hMem)).trans (Nat.add_le_add_right hStart longest)
  simp [Run.inProgressAt, Nat.not_lt.mpr hOver]

/-- A call waits no longer than the longest timeout for the one that is as many places before it as there are
permits: of the calls between the two there are too few to use all permits. -/
theorem start_le_add (h : Eager opened lanes longest runs) (hLanes : 0 < lanes) {place : Nat}
    {earlier later : Run} (hEarlier : runs[place]? = some earlier)
    (hLater : runs[place + lanes]? = some later) : later.start ≤ earlier.start + longest := by
  by_contra hLate
  have hOpened : opened ≤ earlier.start + longest :=
    (h.opened_le earlier (List.mem_of_getElem? hEarlier)).trans (Nat.le_add_right _ _)
  have hAll := h.lanes_le_countP_take hLater hOpened (Nat.lt_of_not_le hLate)
  have hPlaces : place + lanes = place + 1 + (lanes - 1) := by omega
  have hFew : (((runs.drop (place + 1)).take (lanes - 1)).countP
      (·.inProgressAt (earlier.start + longest))) ≤ lanes - 1 :=
    List.countP_le_length.trans (List.length_take_le _ _)
  rw [hPlaces, List.take_add, List.countP_append, h.countP_take_succ_eq_zero hEarlier] at hAll
  omega

/-- The calls of each round begin when the longest timeout has passed once for every round before. -/
theorem start_le (h : Eager opened lanes longest runs) (hLanes : 0 < lanes) {place : Nat} {run : Run}
    (hRun : runs[place]? = some run) : run.start ≤ opened + place / lanes * longest := by
  induction place using Nat.strong_induction_on generalizing run with
  | _ place ih =>
      rcases Nat.lt_or_ge place lanes with hFirst | hNext
      · exact (h.start_le_opened hRun hFirst).trans (Nat.le_add_right _ _)
      · obtain ⟨before, rfl⟩ := Nat.exists_eq_add_of_le' hNext
        have hBefore : before < runs.length :=
          Nat.lt_of_le_of_lt (Nat.le_add_right _ _) (List.getElem?_eq_some_iff.mp hRun).1
        have hEarlier := List.getElem?_eq_getElem hBefore
        calc
          run.start ≤ runs[before].start + longest := h.start_le_add hLanes hEarlier hRun
          _ ≤ opened + before / lanes * longest + longest :=
              Nat.add_le_add_right (ih before (Nat.lt_add_of_pos_right hLanes) hEarlier) longest
          _ = opened + (before + lanes) / lanes * longest := by
              rw [Nat.add_div_right before hLanes, Nat.succ_mul, Nat.add_assoc]

/-- All calls are over when the longest timeout has passed once for every round. -/
theorem finish_le (h : Eager opened lanes longest runs) (hLanes : 0 < lanes) {run : Run} (hRun : run ∈ runs) :
    run.finish ≤ opened + runs.length ⌈/⌉ lanes * longest := by
  obtain ⟨place, hPlace⟩ := List.mem_iff_getElem?.mp hRun
  have hInside : place < runs.length := (List.getElem?_eq_some_iff.mp hPlace).1
  have hRound : place / lanes + 1 ≤ runs.length ⌈/⌉ lanes := by
    rw [Nat.ceilDiv_eq_add_pred_div, ← Nat.add_div_right place hLanes]
    exact Nat.div_le_div_right (by omega)
  calc
    run.finish ≤ run.start + longest := h.short run hRun
    _ ≤ opened + place / lanes * longest + longest :=
        Nat.add_le_add_right (h.start_le hLanes hPlace) longest
    _ = opened + (place / lanes + 1) * longest := by rw [Nat.succ_mul, Nat.add_assoc]
    _ ≤ opened + runs.length ⌈/⌉ lanes * longest :=
        Nat.add_le_add_left (Nat.mul_le_mul_right longest hRound) opened

end Eager

variable {α : Type} [EngineAdapter α] (limits : Limits) (request : QueryRequest) (opened : Instant)
  (targets : List Target) (pool : List α) (tracker : Health.Tracker)

/-- The calls of a dispatch begin as early as its permits let them. -/
theorem eager_freeRuns (hTimeouts : ∀ target ∈ targets, limits.timeoutOf target ≤ longest) :
    Eager opened limits.lanes longest (freeRuns limits request opened targets pool) where
  opened_le run hRun :=
    (opened_le_nextStart limits.lanes (permitsHeld_nil limits opened).opened_le).trans
      (nextStart_le_start (permitsHeld_nil limits opened).opened_le _ run hRun)
  ordered := pairwise_start_freeRuns limits request opened targets pool
  busy waiting hWaiting t hOpened hWaits :=
    lanes_le_load_timetable (permitsHeld_nil limits opened) limits.lanes_pos hOpened hWaiting hWaits
  short run hRun := by
    obtain ⟨place, hPlace⟩ := List.mem_iff_getElem?.mp hRun
    obtain ⟨target, hTarget⟩ : ∃ target, targets[place]? = some target := by
      apply Option.isSome_iff_exists.mp
      rw [isSome_getElem?, ← length_freeRuns limits request opened targets pool]
      exact (List.getElem?_eq_some_iff.mp hPlace).1
    obtain ⟨call, again, -, hAgain, hMade⟩ :=
      exists_freeRun_of_target limits request opened targets pool hTarget
    obtain rfl : run = again := Option.some.inj (hPlace.symm.trans hAgain)
    rw [hMade, Run.finish_ofCall, Run.start_ofCall]
    exact Nat.add_le_add_left ((fst_settle_le call _).trans
      (hTimeouts target (List.mem_of_getElem? hTarget))) _

/-- Without a deadline a dispatch ends with the last of its calls. -/
theorem finish_run_le_of_eager {lanes : Nat} (hLanes : 0 < lanes)
    (hEager : Eager opened lanes longest (freeRuns limits request opened targets pool)) :
    (run (limits.withDeadline none) request opened targets tracker pool).finish ≤
      opened + targets.length ⌈/⌉ lanes * longest := by
  have hWhole : (run (limits.withDeadline none) request opened targets tracker pool).report.deadlineElapsed =
      false := by
    rw [deadlineElapsed_run]
    simp [outstanding]
  rcases (finish_run_of_complete (limits.withDeadline none) request opened targets pool tracker hWhole).2 with
    hOpened | ⟨last, hLast, hFinish⟩
  · rw [hOpened]
    exact Nat.le_add_right _ _
  · rw [runs_run_withDeadline_none] at hLast
    obtain ⟨made, hMade, hSame⟩ := List.mem_map.mp hLast
    cases hSame
    rw [hFinish, ← length_freeRuns limits request opened targets pool]
    exact hEager.finish_le hLanes hMade

/-- A dispatch without a deadline ends, whatever its adapters do, also if all of them hang. With `n` targets
and `c` permits, where no call may take longer than a certain time, the call of each target is made, at place
`k` no later than `k / c` times that time after the opening, and the dispatch ends no later than `n / c`
times that time after it, the last quotient rounded up. The only exception are targets with more permits
than can be counted. -/
theorem dispatch_ends_within_rounds (longest : Millis)
    (hTimeouts : ∀ target ∈ targets, limits.timeoutOf target ≤ longest) :
    (∃ done, dispatch (limits.withDeadline none) request opened targets tracker pool = .ok done ∧
      (∀ place < targets.length, ∃ call : Run, done.runs[place]? = some (some call) ∧
        call.start ≤ opened + place / max limits.concurrency 1 * longest) ∧
      done.finish ≤ opened + targets.length ⌈/⌉ max limits.concurrency 1 * longest) ↔
      targets = [] ∨ limits.concurrency ≤ maxPermits := by
  have hEager := eager_freeRuns limits request opened targets pool hTimeouts
  have hPermits : permitsCountable (limits.withDeadline none) targets = true ↔
      targets = [] ∨ limits.concurrency ≤ maxPermits := permitsCountable_eq_true_iff _ _
  constructor
  · rintro ⟨done, hDone, -⟩
    by_contra hNot
    rw [← hPermits, Bool.not_eq_true] at hNot
    rw [dispatch_eq_error _ _ _ _ _ _ hNot] at hDone
    cases hDone
  · intro hCountable
    refine ⟨_, dispatch_eq_ok _ _ _ _ _ _ (hPermits.mpr hCountable), ?_, ?_⟩
    · intro place hPlace
      rw [← length_freeRuns limits request opened targets pool] at hPlace
      refine ⟨_, ?_, hEager.start_le limits.lanes_pos (List.getElem?_eq_getElem hPlace)⟩
      rw [runs_run_withDeadline_none, List.getElem?_map, List.getElem?_eq_getElem hPlace, Option.map_some]
    · exact finish_run_le_of_eager limits request opened targets pool tracker limits.lanes_pos hEager

/-- Five targets that share two permits in three rounds. -/
def crowdedTargets : List Target :=
  queuedTargets ++ [⟨⟨"e", "web"⟩, 2, none⟩]

/-- Adapters that never answer. -/
def silentPool : List Script :=
  List.replicate 4 { behaviours := [⟨0, .fixed .hang⟩] }

/-- Every adapter hangs, and so the last target has to wait for two rounds, of which the second is cut short
by a timeout of its own. -/
theorem dispatch_ends_within_three_rounds :
    (∀ target ∈ crowdedTargets, pairedLimits.timeoutOf target ≤ 1000) ∧
    ∃ done, dispatch (pairedLimits.withDeadline none) { query := "x" } 7 crowdedTargets {} silentPool =
        .ok done ∧
      done.runs.map (Option.map (·.start)) = [some 7, some 7, some 1007, some 1007, some 1012] ∧
      done.finish = 2012 ∧ done.finish ≤ 7 + 3 * 1000 := by
  have hTimeouts : ∀ target ∈ crowdedTargets, pairedLimits.timeoutOf target ≤ 1000 := by decide
  obtain ⟨done, hDone, -, hFinish⟩ := (dispatch_ends_within_rounds pairedLimits { query := "x" } 7
    crowdedTargets silentPool {} 1000 hTimeouts).mpr (by decide)
  obtain ⟨_, hSame, hStarts, hEnd⟩ : ∃ done,
      dispatch (pairedLimits.withDeadline none) { query := "x" } 7 crowdedTargets {} silentPool = .ok done ∧
      done.runs.map (Option.map (·.start)) = [some 7, some 7, some 1007, some 1007, some 1012] ∧
      done.finish = 2012 := ⟨_, rfl, by decide, by decide⟩
  cases hSame.symm.trans hDone
  exact ⟨hTimeouts, done, hDone, hStarts, hEnd, hFinish⟩

/-- With one permit more than can be counted not even the first call is made. -/
theorem exists_hanging_dispatch_that_crashes :
    ∃ (limits : Limits) (targets : List Target), limits.deadline = none ∧ 1 ≤ limits.concurrency ∧
      (∀ target ∈ targets, limits.timeoutOf target ≤ 1000) ∧
      dispatch limits { query := "x" } 7 targets {} silentPool = .error .permitLimit ∧
      ¬ ∃ done, dispatch limits { query := "x" } 7 targets {} silentPool = .ok done ∧
        done.finish ≤ 7 + targets.length ⌈/⌉ limits.concurrency * 1000 := by
  refine ⟨{ pairedLimits with concurrency := 2305843009213693952 }, [⟨⟨"a", "web"⟩, 0, none⟩], rfl,
    by decide, by decide, rfl, ?_⟩
  rintro ⟨done, hDone, -⟩
  cases hDone

end Metasearch.Dispatch
