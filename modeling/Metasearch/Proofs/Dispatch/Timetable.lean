import Mathlib.Data.List.Basic
import Mathlib.Order.Basic
import Mathlib.Order.MinMax
import Metasearch.Dispatch.Schedule

/-! The calls of a dispatch laid out as if there were no deadline. Which calls are made does not depend
on time, and a call depends on those before it only through the permits it waits for. A deadline takes
away the calls that would begin at or after it and leaves the others as they are. -/
namespace Metasearch.Dispatch

theorem zipWith_left_eq_map {α β γ : Type} (f : α → γ) {as : List α} {bs : List β}
    (h : as.length ≤ bs.length) : List.zipWith (fun a _ => f a) as bs = as.map f := by
  calc
    _ = (as.zip bs).map (fun entry => f entry.1) := List.map_zip_eq_zipWith.symm
    _ = ((as.zip bs).map Prod.fst).map f := List.map_map.symm
    _ = as.map f := by rw [List.map_fst_zip h]

variable {α : Type} [EngineAdapter α]

/-- The calls that a list of targets makes one after the other, whether or not a deadline cuts
them short. -/
def callsOf (request : QueryRequest) : List Target → List α → List Call
  | [], _ => []
  | target :: rest, pool =>
    (callAt request pool target.adapter).1 ::
      callsOf request rest (callAt request pool target.adapter).2

/-- The runs of calls with their timeouts. `held` are the ends of the calls that last took each permit,
as in a schedule. -/
def timetable (opened : Instant) (lanes : Nat) : List Instant → List (Call × Millis) → List Run
  | _, [] => []
  | held, (call, timeout) :: rest =>
    let start := (nextStart opened lanes held).1
    let run := Run.ofCall start call timeout
    run :: timetable opened lanes (run.finish :: (nextStart opened lanes held).2) rest

/-- The calls of a list of targets, each with the time it may take. -/
def timedCalls (limits : Limits) (request : QueryRequest) (targets : List Target) (pool : List α) :
    List (Call × Millis) :=
  (callsOf request targets pool).zip (targets.map limits.timeoutOf)

@[simp] theorem length_callsOf (request : QueryRequest) (targets : List Target) (pool : List α) :
    (callsOf request targets pool).length = targets.length := by
  induction targets generalizing pool with
  | nil => rfl
  | cons target rest ih => simp [callsOf, ih]

@[simp] theorem length_timedCalls (limits : Limits) (request : QueryRequest) (targets : List Target)
    (pool : List α) : (timedCalls limits request targets pool).length = targets.length := by
  simp [timedCalls]

@[simp] theorem length_timetable (opened : Instant) (lanes : Nat) (held : List Instant)
    (calls : List (Call × Millis)) : (timetable opened lanes held calls).length = calls.length := by
  induction calls generalizing held with
  | nil => rfl
  | cons entry rest ih => simp [timetable, ih]

theorem Limits.before_eq_true_iff {limits : Limits} {t : Instant} :
    limits.before t = true ↔ ∀ deadline, limits.deadline = some deadline → t < deadline := by
  unfold Limits.before
  cases limits.deadline with
  | none => simp
  | some deadline => simp

/-- What is before the deadline at an instant is before it at every earlier one. -/
theorem Limits.before_of_le {limits : Limits} {s t : Instant} (h : s ≤ t)
    (hBefore : limits.before t = true) : limits.before s = true := by
  rw [Limits.before_eq_true_iff] at *
  intro deadline hDeadline
  exact lt_of_le_of_lt h (hBefore deadline hDeadline)

@[simp] theorem Run.start_ofCall (start : Instant) (call : Call) (timeout : Millis) :
    (Run.ofCall start call timeout).start = start := rfl

@[simp] theorem Run.finish_ofCall (start : Instant) (call : Call) (timeout : Millis) :
    (Run.ofCall start call timeout).finish = start + (settle call timeout).1 := rfl

@[simp] theorem Run.result_ofCall (start : Instant) (call : Call) (timeout : Millis) :
    (Run.ofCall start call timeout).result = (settle call timeout).2 := rfl

theorem earliest_mem (default : Instant) {held : List Instant} (h : held ≠ []) :
    earliest default held ∈ held := by
  cases held with
  | nil => exact absurd rfl h
  | cons t rest =>
      clear h
      induction rest generalizing t with
      | nil => simp [earliest]
      | cons u rest ih =>
          have hMem := ih (min t u)
          simp only [earliest, List.foldl_cons, List.mem_cons] at hMem ⊢
          rcases hMem with hMin | hRest
          · rcases min_choice t u with h | h
            · exact Or.inl (hMin.trans h)
            · exact Or.inr (Or.inl (hMin.trans h))
          · exact Or.inr (Or.inr hRest)

theorem foldl_min_le (u : Instant) (rest : List Instant) : rest.foldl min u ≤ u := by
  induction rest generalizing u with
  | nil => exact le_refl u
  | cons v rest ih => exact (ih (min u v)).trans (min_le_left u v)

theorem foldl_min_le_of_mem {t : Instant} {rest : List Instant} (h : t ∈ rest) (u : Instant) :
    rest.foldl min u ≤ t := by
  induction rest generalizing u with
  | nil => simp at h
  | cons v rest ih =>
      rcases List.mem_cons.mp h with rfl | h
      · exact (foldl_min_le (min u t) rest).trans (min_le_right u t)
      · exact ih h (min u v)

theorem earliest_le {default t : Instant} {held : List Instant} (h : t ∈ held) :
    earliest default held ≤ t := by
  cases held with
  | nil => simp at h
  | cons u rest =>
      rcases List.mem_cons.mp h with rfl | h
      · exact foldl_min_le t rest
      · exact foldl_min_le_of_mem h u

theorem nextStart_idle {opened : Instant} {lanes : Nat} {held : List Instant}
    (h : held.length < lanes) : nextStart opened lanes held = (opened, held) := by
  simp [nextStart, h]

theorem nextStart_busy {opened : Instant} {lanes : Nat} {held : List Instant}
    (h : lanes ≤ held.length) :
    nextStart opened lanes held =
      (earliest opened held, held.erase (earliest opened held)) := by
  simp [nextStart, Nat.not_lt.mpr h]

/-- The permits that are held while a call begins were held before it. -/
theorem nextStart_subset (opened : Instant) (lanes : Nat) (held : List Instant) :
    (nextStart opened lanes held).2 ⊆ held := by
  unfold nextStart
  split
  · exact List.Subset.refl _
  · exact List.erase_subset

theorem opened_le_nextStart {opened : Instant} (lanes : Nat) {held : List Instant}
    (hHeld : ∀ t ∈ held, opened ≤ t) : opened ≤ (nextStart opened lanes held).1 := by
  unfold nextStart
  split
  · exact le_refl opened
  · cases held with
    | nil => exact le_refl opened
    | cons t rest => exact hHeld _ (earliest_mem opened (List.cons_ne_nil t rest))

/-- Every end that is held stays at or after the opening. This is what carries the lemmas about start
instants through a timetable. -/
theorem held_step {opened : Instant} (lanes : Nat) {held : List Instant}
    (hHeld : ∀ t ∈ held, opened ≤ t) (call : Call) (timeout : Millis) :
    ∀ t ∈ (Run.ofCall (nextStart opened lanes held).1 call timeout).finish ::
      (nextStart opened lanes held).2, opened ≤ t := by
  intro t hMem
  rcases List.mem_cons.mp hMem with rfl | hMem
  · exact (opened_le_nextStart lanes hHeld).trans (Nat.le_add_right _ _)
  · exact hHeld t (nextStart_subset opened lanes held hMem)

/-- The next call does not begin before the present one. -/
theorem nextStart_le_nextStart {opened : Instant} {lanes : Nat} {held : List Instant}
    (hHeld : ∀ t ∈ held, opened ≤ t) (call : Call) (timeout : Millis) :
    (nextStart opened lanes held).1 ≤
      (nextStart opened lanes ((Run.ofCall (nextStart opened lanes held).1 call timeout).finish ::
        (nextStart opened lanes held).2)).1 := by
  have hNext := opened_le_nextStart lanes (held_step lanes hHeld call timeout)
  by_cases hIdle : held.length < lanes
  · simpa only [nextStart_idle hIdle] using hNext
  · cases held with
    | nil =>
        have hStart : (nextStart opened lanes []).1 = opened := by
          unfold nextStart
          split <;> rfl
        rw [hStart] at hNext ⊢
        exact hNext
    | cons u rest =>
        have hBusy : lanes ≤ (u :: rest).length := Nat.le_of_not_lt hIdle
        rw [nextStart_busy hBusy]
        generalize hMin : earliest opened (u :: rest) = start
        have hStart : start ∈ u :: rest := hMin ▸ earliest_mem opened (List.cons_ne_nil u rest)
        have hLength : lanes ≤
            ((Run.ofCall start call timeout).finish :: (u :: rest).erase start).length := by
          rw [List.length_cons, List.length_erase_of_mem hStart]
          simp only [List.length_cons] at hBusy ⊢
          omega
        rw [nextStart_busy hLength]
        have hEarliest := earliest_mem opened
          (List.cons_ne_nil (Run.ofCall start call timeout).finish ((u :: rest).erase start))
        rcases List.mem_cons.mp hEarliest with hEq | hMem
        · rw [hEq, Run.finish_ofCall]
          exact Nat.le_add_right _ _
        · exact (le_of_eq hMin.symm).trans (earliest_le (List.mem_of_mem_erase hMem))

/-- No call of a timetable begins before the first one. -/
theorem nextStart_le_start {opened : Instant} {lanes : Nat} {held : List Instant}
    (hHeld : ∀ t ∈ held, opened ≤ t) (calls : List (Call × Millis)) :
    ∀ run ∈ timetable opened lanes held calls, (nextStart opened lanes held).1 ≤ run.start := by
  induction calls generalizing held with
  | nil => simp [timetable]
  | cons entry rest ih =>
      obtain ⟨call, timeout⟩ := entry
      intro run hMem
      rcases List.mem_cons.mp hMem with rfl | hMem
      · exact Nat.le_refl _
      · exact (nextStart_le_nextStart hHeld call timeout).trans
          (ih (held_step lanes hHeld call timeout) run hMem)

/-- A call is made as the timetable has it if it begins before the deadline, and not at all otherwise. -/
def Run.beforeDeadline (limits : Limits) (run : Run) : Option Run :=
  if limits.before run.start then some run else none

/-- A schedule is the timetable without the calls that begin at or after the deadline. -/
theorem schedule_eq_timetable (limits : Limits) (request : QueryRequest) {opened : Instant}
    {held : List Instant} (hHeld : ∀ t ∈ held, opened ≤ t) (targets : List Target) (pool : List α) :
    (schedule limits request opened held targets pool).1 =
      (timetable opened limits.lanes held (timedCalls limits request targets pool)).map
        (Run.beforeDeadline limits) := by
  induction targets generalizing held pool with
  | nil => rfl
  | cons target rest ih =>
      have hCalls : timedCalls limits request (target :: rest) pool =
          ((callAt request pool target.adapter).1, limits.timeoutOf target) ::
            timedCalls limits request rest (callAt request pool target.adapter).2 := rfl
      rw [hCalls]
      by_cases hBefore : limits.before (nextStart opened limits.lanes held).1 = true
      · have hRest := ih (held_step limits.lanes hHeld (callAt request pool target.adapter).1
          (limits.timeoutOf target)) (callAt request pool target.adapter).2
        simp only [schedule, timetable, List.map_cons, hBefore, if_true, Run.beforeDeadline,
          Run.start_ofCall]
        exact congrArg _ hRest
      · -- All later calls begin no earlier than this one, so none of them is made either.
        have hLate : ∀ run ∈ timetable opened limits.lanes held
            (((callAt request pool target.adapter).1, limits.timeoutOf target) ::
              timedCalls limits request rest (callAt request pool target.adapter).2),
            Run.beforeDeadline limits run = none := by
          intro run hMem
          have hStart := nextStart_le_start hHeld _ run hMem
          have hNot : ¬ limits.before run.start = true :=
            fun h => hBefore (Limits.before_of_le hStart h)
          simp [Run.beforeDeadline, hNot]
        rw [List.map_congr_left hLate]
        simp [schedule, hBefore, List.map_const', List.replicate_succ]

/-- Each run of a timetable is its call, begun at some instant. -/
theorem eq_ofCall_of_getElem?_timetable {opened : Instant} {lanes : Nat} {held : List Instant}
    {calls : List (Call × Millis)} {place : Nat} {run : Run}
    (h : (timetable opened lanes held calls)[place]? = some run) :
    ∃ call timeout, calls[place]? = some (call, timeout) ∧ run = Run.ofCall run.start call timeout := by
  induction calls generalizing held place with
  | nil => simp [timetable] at h
  | cons entry rest ih =>
      cases place with
      | zero =>
          refine ⟨entry.1, entry.2, rfl, ?_⟩
          simp only [timetable, List.getElem?_cons_zero, Option.some.injEq] at h
          rw [← h, Run.start_ofCall]
      | succ place => exact ih (by simpa only [timetable, List.getElem?_cons_succ] using h)

/-- A call of a timetable does not end before it begins. -/
theorem start_le_finish {opened : Instant} {lanes : Nat} {held : List Instant}
    {calls : List (Call × Millis)} {run : Run} (h : run ∈ timetable opened lanes held calls) :
    run.start ≤ run.finish := by
  obtain ⟨place, hPlace⟩ := List.mem_iff_getElem?.mp h
  obtain ⟨call, timeout, -, hRun⟩ := eq_ofCall_of_getElem?_timetable hPlace
  rw [hRun, Run.finish_ofCall, Run.start_ofCall]
  exact Nat.le_add_right _ _

end Metasearch.Dispatch
