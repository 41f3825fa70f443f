import Mathlib.Data.List.Count
import Metasearch.Proofs.Dispatch.Deadline

/-! The permits of a dispatch. At no instant are more calls in progress than there are permits, and a
target waits only while all of them are in use. A permit is given back when its call ends, in whatever
way that is. -/
namespace Metasearch.Dispatch

/-- Whether a call is in progress at an instant: it has begun and has not come to its end. -/
def Run.inProgressAt (t : Instant) (run : Run) : Bool :=
  decide (run.start ≤ t) && decide (t < run.finish)

/-- The number of calls in progress at an instant. From the deadline on there are none, since it breaks
all of them off. -/
def inProgress (limits : Limits) (runs : List (Option Run)) (t : Instant) : Nat :=
  runs.countP fun made => limits.before t && made.any (·.inProgressAt t)

/-- Whether a target still waits for its permit at an instant. One that gets none waits until the
deadline. -/
def waitsAt (limits : Limits) (t : Instant) : Option Run → Bool
  | none => limits.before t
  | some run => decide (t < run.start)

/-- The permits in use at an instant: by calls that are held from before and by the calls of a list. -/
def load (t : Instant) (held : List Instant) (runs : List Run) : Nat :=
  runs.countP (·.inProgressAt t) + held.countP fun finish => decide (t < finish)

variable {opened t : Instant} {lanes : Nat} {held : List Instant}

/-- What is held while a timetable is laid out: at most all permits, none of them given back before the
opening. -/
structure PermitsHeld (opened : Instant) (lanes : Nat) (held : List Instant) : Prop where
  length_le : held.length ≤ lanes
  opened_le : ∀ finish ∈ held, opened ≤ finish

theorem PermitsHeld.length_nextStart_lt (h : PermitsHeld opened lanes held) (hLanes : 0 < lanes) :
    (nextStart opened lanes held).2.length < lanes := by
  by_cases hIdle : held.length < lanes
  · rwa [nextStart_idle hIdle]
  · have hBusy := Nat.le_of_not_lt hIdle
    have hNonempty : held ≠ [] := by
      rintro rfl
      exact hIdle hLanes
    rw [nextStart_busy hBusy, List.length_erase_of_mem (earliest_mem opened hNonempty)]
    exact Nat.lt_of_lt_of_le (Nat.sub_one_lt_of_lt (Nat.lt_of_lt_of_le hLanes hBusy)) h.length_le

theorem PermitsHeld.step (h : PermitsHeld opened lanes held) (hLanes : 0 < lanes) (call : Call)
    (timeout : Millis) :
    PermitsHeld opened lanes ((Run.ofCall (nextStart opened lanes held).1 call timeout).finish ::
      (nextStart opened lanes held).2) where
  length_le := h.length_nextStart_lt hLanes
  opened_le := held_step lanes h.opened_le call timeout

theorem load_of_lt_start {runs : List Run} (h : ∀ run ∈ runs, t < run.start) :
    load t held runs = held.countP fun finish => decide (t < finish) := by
  have hNone : runs.countP (·.inProgressAt t) = 0 := by
    rw [List.countP_eq_zero]
    intro run hMem
    simp [Run.inProgressAt, h run hMem]
  rw [load, hNone, Nat.zero_add]

theorem countP_nextStart (h : (nextStart opened lanes held).1 ≤ t) :
    (nextStart opened lanes held).2.countP (fun finish => decide (t < finish)) =
      held.countP fun finish => decide (t < finish) := by
  by_cases hIdle : held.length < lanes
  · rw [nextStart_idle hIdle]
  · rw [nextStart_busy (Nat.le_of_not_lt hIdle)] at h ⊢
    -- The permit that is taken over is free by then, so it is not among those that are counted.
    rw [List.countP_erase]
    simp [Nat.not_lt.mpr h]

theorem lanes_le_countP_of_lt_nextStart (hOpened : opened ≤ t)
    (h : t < (nextStart opened lanes held).1) :
    lanes ≤ held.countP fun finish => decide (t < finish) := by
  by_cases hIdle : held.length < lanes
  · rw [nextStart_idle hIdle] at h
    exact absurd hOpened (Nat.not_le.mpr h)
  · have hBusy := Nat.le_of_not_lt hIdle
    rw [nextStart_busy hBusy] at h
    have hAll : ∀ finish ∈ held, decide (t < finish) = true := fun finish hMem =>
      decide_eq_true (Nat.lt_of_lt_of_le h (earliest_le hMem))
    rwa [List.countP_eq_length.mpr hAll]

/-- The permits in use at an instant, counted before and after a call that has begun by then. -/
theorem load_cons (h : (nextStart opened lanes held).1 ≤ t) (call : Call) (timeout : Millis)
    (runs : List Run) :
    load t held (Run.ofCall (nextStart opened lanes held).1 call timeout :: runs) =
      load t ((Run.ofCall (nextStart opened lanes held).1 call timeout).finish ::
        (nextStart opened lanes held).2) runs := by
  have hNew : (Run.ofCall (nextStart opened lanes held).1 call timeout).inProgressAt t =
      decide (t < (Run.ofCall (nextStart opened lanes held).1 call timeout).finish) := by
    simp [Run.inProgressAt, h]
  rw [load, load, List.countP_cons, List.countP_cons, countP_nextStart h, hNew]
  omega

/-- No more permits are in use than there are. -/
theorem load_timetable_le (h : PermitsHeld opened lanes held) (hLanes : 0 < lanes)
    (calls : List (Call × Millis)) : load t held (timetable opened lanes held calls) ≤ lanes := by
  induction calls generalizing held with
  | nil =>
      rw [timetable, load_of_lt_start (by simp)]
      exact List.countP_le_length.trans h.length_le
  | cons entry rest ih =>
      obtain ⟨call, timeout⟩ := entry
      rcases Nat.lt_or_ge t (nextStart opened lanes held).1 with hLater | hBegun
      · rw [load_of_lt_start fun run hMem =>
          Nat.lt_of_lt_of_le hLater (nextStart_le_start h.opened_le _ run hMem)]
        exact List.countP_le_length.trans h.length_le
      · -- From here on the call counts as held from before, and the rest is laid out after it.
        rw [timetable, load_cons hBegun]
        exact ih (h.step hLanes call timeout)

/-- While a call of a timetable is kept waiting all permits are in use. -/
theorem lanes_le_load_timetable (h : PermitsHeld opened lanes held) (hLanes : 0 < lanes)
    {calls : List (Call × Millis)} (hOpened : opened ≤ t) {waiting : Run}
    (hMem : waiting ∈ timetable opened lanes held calls) (hWaits : t < waiting.start) :
    lanes ≤ load t held (timetable opened lanes held calls) := by
  induction calls generalizing held with
  | nil => simp [timetable] at hMem
  | cons entry rest ih =>
      obtain ⟨call, timeout⟩ := entry
      rcases Nat.lt_or_ge t (nextStart opened lanes held).1 with hLater | hBegun
      · rw [load_of_lt_start fun run hMem =>
          Nat.lt_of_lt_of_le hLater (nextStart_le_start h.opened_le _ run hMem)]
        exact lanes_le_countP_of_lt_nextStart hOpened hLater
      · rw [timetable, load_cons hBegun]
        rcases List.mem_cons.mp hMem with rfl | hMem
        · exact absurd hWaits (Nat.not_lt.mpr hBegun)
        · exact ih (h.step hLanes call timeout) hMem

/-- At the start of a call a permit is left for it, even if the call takes no time. -/
theorem countP_take_timetable_lt (h : PermitsHeld opened lanes held) (hLanes : 0 < lanes)
    {calls : List (Call × Millis)} {place : Nat} {run : Run}
    (hRun : (timetable opened lanes held calls)[place]? = some run) :
    ((timetable opened lanes held calls).take place).countP
        (fun earlier => decide (run.start < earlier.finish)) +
      held.countP (fun finish => decide (run.start < finish)) < lanes := by
  induction calls generalizing held place with
  | nil => simp [timetable] at hRun
  | cons entry rest ih =>
      obtain ⟨call, timeout⟩ := entry
      have hBegun := nextStart_le_start h.opened_le _ run (List.mem_of_getElem? hRun)
      rw [← countP_nextStart hBegun]
      cases place with
      | zero =>
          simp only [List.take_zero, List.countP_nil, Nat.zero_add]
          exact Nat.lt_of_le_of_lt List.countP_le_length (h.length_nextStart_lt hLanes)
      | succ place =>
          have hRest := ih (h.step hLanes call timeout)
            (by simpa only [timetable, List.getElem?_cons_succ] using hRun)
          rw [List.countP_cons] at hRest
          rw [timetable, List.take_succ_cons, List.countP_cons]
          omega

theorem pairwise_start_timetable (hHeld : ∀ finish ∈ held, opened ≤ finish)
    (calls : List (Call × Millis)) :
    (timetable opened lanes held calls).Pairwise fun a b => a.start ≤ b.start := by
  induction calls generalizing held with
  | nil => exact List.Pairwise.nil
  | cons entry rest ih =>
      obtain ⟨call, timeout⟩ := entry
      have hNext := held_step lanes hHeld call timeout
      refine List.Pairwise.cons (fun later hMem => ?_) (ih hNext)
      exact (nextStart_le_nextStart hHeld call timeout).trans (nextStart_le_start hNext rest later hMem)

/-- Of calls that begin in order the deadline leaves the first ones. -/
theorem exists_filterMap_beforeDeadline_eq_take (limits : Limits) {runs : List Run}
    (h : runs.Pairwise fun a b => a.start ≤ b.start) :
    ∃ made, runs.filterMap (Run.beforeDeadline limits) = runs.take made := by
  induction runs with
  | nil => exact ⟨0, rfl⟩
  | cons first rest ih =>
      obtain ⟨hFirst, hRest⟩ := List.pairwise_cons.mp h
      cases hBefore : limits.before first.start with
      | true =>
          obtain ⟨made, hMade⟩ := ih hRest
          refine ⟨made + 1, ?_⟩
          rw [List.filterMap_cons, List.take_succ_cons, ← hMade]
          simp [Run.beforeDeadline, hBefore]
      | false =>
          refine ⟨0, ?_⟩
          rw [List.take_zero, List.filterMap_eq_nil_iff]
          intro run hMem
          have hLate : ¬ limits.before run.start = true := by
            intro hRun
            rcases List.mem_cons.mp hMem with rfl | hMem
            · simp [hBefore] at hRun
            · simp [Limits.before_of_le (hFirst run hMem) hRun] at hBefore
          simp [Run.beforeDeadline, hLate]

theorem peak_le {runs : List Run} {most : Nat}
    (h : ∀ place run, runs[place]? = some run →
      (runs.take place).countP (fun earlier => decide (run.start < earlier.finish)) < most) :
    peak runs ≤ most := by
  cases runs with
  | nil => exact Nat.zero_le most
  | cons first rest =>
      apply List.foldlRecOn (motive := fun sofar => sofar ≤ most)
      · exact Nat.zero_le most
      · intro sofar hSofar place _
        split
        · exact hSofar
        · rename_i run hRun
          have hPlace := h place run hRun
          rw [List.countP_eq_length_filter] at hPlace
          exact max_le hSofar (by omega)

theorem Run.beforeDeadline_eq_some_iff {limits : Limits} {run made : Run} :
    run.beforeDeadline limits = some made ↔ limits.before run.start = true ∧ run = made := by
  simp [Run.beforeDeadline]

/-- A call is over after its delay, in whatever way it ends, and at its timeout if it does not end by
then. -/
theorem fst_settle (call : Call) (timeout : Millis) :
    (settle call timeout).1 =
      if call.ending ≠ .hang ∧ call.delay ≤ timeout then call.delay else timeout := by
  unfold settle
  by_cases hInTime : call.delay ≤ timeout
  · cases call.ending <;> simp [hInTime]
  · simp [hInTime]

/-- What is in progress before the deadline begins before it, so the calls that it takes away are not
missed. -/
theorem inProgress_map_beforeDeadline (limits : Limits) (runs : List Run) (hTimely : limits.before t = true) :
    inProgress limits (runs.map (Run.beforeDeadline limits)) t = runs.countP (·.inProgressAt t) := by
  rw [inProgress, List.countP_map]
  apply List.countP_congr
  intro run _
  unfold Run.beforeDeadline
  cases hStart : limits.before run.start with
  | true => simp [hTimely, hStart]
  | false =>
      have hLate : ¬ run.start ≤ t := by
        intro hBegun
        simp [Limits.before_of_le hBegun hTimely] at hStart
      simp [Run.inProgressAt, hStart, hLate]

theorem inProgress_of_late (limits : Limits) (runs : List (Option Run)) (h : limits.before t = false) :
    inProgress limits runs t = 0 := by
  simp [inProgress, h]

theorem lt_start_of_waitsAt {limits : Limits} {run : Run}
    (h : waitsAt limits t (run.beforeDeadline limits) = true) :
    limits.before t = true ∧ t < run.start := by
  unfold Run.beforeDeadline at h
  cases hStart : limits.before run.start with
  | true =>
      have hWaits : t < run.start := by simpa [waitsAt, hStart] using h
      exact ⟨Limits.before_of_le hWaits.le hStart, hWaits⟩
  | false =>
      have hTimely : limits.before t = true := by simpa [waitsAt, hStart] using h
      refine ⟨hTimely, Nat.lt_of_not_le fun hBegun => ?_⟩
      simp [Limits.before_of_le hBegun hTimely] at hStart

variable {α : Type} [EngineAdapter α] (limits : Limits) (request : QueryRequest) (opened : Instant)
  (targets : List Target) (pool : List α) (tracker : Health.Tracker)

theorem Limits.lanes_pos : 0 < limits.lanes :=
  Nat.lt_of_lt_of_le Nat.zero_lt_one (le_max_right _ _)

theorem permitsHeld_nil : PermitsHeld opened limits.lanes [] :=
  ⟨Nat.zero_le _, by simp⟩

/-- Before the deadline the calls of a dispatch use as many permits as those of the timetable. -/
theorem inProgress_run_eq_load {t : Instant} (hTimely : limits.before t = true) :
    inProgress limits (run limits request opened targets tracker pool).runs t =
      load t [] (freeRuns limits request opened targets pool) :=
  calc
    _ = inProgress limits ((freeRuns limits request opened targets pool).map
          (Run.beforeDeadline limits)) t :=
          congrArg (inProgress limits · t) (schedule_eq_freeRuns limits request opened targets pool)
    _ = (freeRuns limits request opened targets pool).countP (·.inProgressAt t) :=
          inProgress_map_beforeDeadline limits _ hTimely

theorem inProgress_run_le (t : Instant) :
    inProgress limits (run limits request opened targets tracker pool).runs t ≤ limits.lanes := by
  cases hTimely : limits.before t with
  | false =>
      rw [inProgress_of_late limits _ hTimely]
      exact Nat.zero_le _
  | true =>
      rw [inProgress_run_eq_load limits request opened targets pool tracker hTimely]
      exact load_timetable_le (permitsHeld_nil limits opened) limits.lanes_pos _

theorem pairwise_start_freeRuns :
    (freeRuns limits request opened targets pool).Pairwise fun a b => a.start ≤ b.start :=
  pairwise_start_timetable (permitsHeld_nil limits opened).opened_le _

theorem peak_run_le :
    peak ((run limits request opened targets tracker pool).runs.filterMap id) ≤ limits.lanes := by
  have hRuns := schedule_eq_freeRuns limits request opened targets pool
  obtain ⟨made, hMade⟩ := exists_filterMap_beforeDeadline_eq_take limits
    (pairwise_start_freeRuns limits request opened targets pool)
  have hTake : (run limits request opened targets tracker pool).runs.filterMap id =
      (freeRuns limits request opened targets pool).take made := by
    refine (congrArg (List.filterMap id) hRuns).trans ?_
    rw [List.filterMap_map]
    exact hMade
  rw [hTake]
  apply peak_le
  intro place call hCall
  obtain ⟨hPlace, hFree⟩ : place < made ∧
      (freeRuns limits request opened targets pool)[place]? = some call := by
    rw [List.getElem?_take] at hCall
    split at hCall
    · exact ⟨by assumption, hCall⟩
    · cases hCall
  rw [List.take_take, Nat.min_eq_left hPlace.le]
  have hRoom := countP_take_timetable_lt (permitsHeld_nil limits opened) limits.lanes_pos hFree
  rwa [List.countP_nil, Nat.add_zero] at hRoom

/-- Each target has its call in the timetable, which the deadline may take away. -/
theorem exists_freeRun_of_getElem?_runs {place : Nat} {made : Option Run}
    (h : (run limits request opened targets tracker pool).runs[place]? = some made) :
    ∃ free, (freeRuns limits request opened targets pool)[place]? = some free ∧
      free.beforeDeadline limits = made := by
  have hRuns := schedule_eq_freeRuns limits request opened targets pool
  have hPlace := (congrArg (·[place]?) hRuns).symm.trans h
  rw [List.getElem?_map] at hPlace
  exact Option.map_eq_some_iff.mp hPlace

theorem inProgress_run_of_waitsAt {place : Nat} {made : Option Run} {t : Instant}
    (hMade : (run limits request opened targets tracker pool).runs[place]? = some made)
    (hOpened : opened ≤ t) (hWaits : waitsAt limits t made = true) :
    inProgress limits (run limits request opened targets tracker pool).runs t = limits.lanes := by
  obtain ⟨free, hFree, rfl⟩ := exists_freeRun_of_getElem?_runs limits request opened targets pool
    tracker hMade
  obtain ⟨hTimely, hLater⟩ := lt_start_of_waitsAt hWaits
  apply (inProgress_run_le limits request opened targets pool tracker t).antisymm
  rw [inProgress_run_eq_load limits request opened targets pool tracker hTimely]
  exact lanes_le_load_timetable (permitsHeld_nil limits opened) limits.lanes_pos hOpened
    (List.mem_of_getElem? hFree) hLater

/-- Where a call is made all targets listed before have a call that does not begin later. -/
theorem exists_earlier_start_le {earlier later : Nat} {call : Run} (hBefore : earlier < later)
    (h : (run limits request opened targets tracker pool).runs[later]? = some (some call)) :
    ∃ first, (run limits request opened targets tracker pool).runs[earlier]? = some (some first) ∧
      first.start ≤ call.start := by
  obtain ⟨free, hFree, hMade⟩ := exists_freeRun_of_getElem?_runs limits request opened targets pool
    tracker h
  obtain ⟨hTimely, rfl⟩ := Run.beforeDeadline_eq_some_iff.mp hMade
  obtain ⟨hLater, rfl⟩ := List.getElem?_eq_some_iff.mp hFree
  have hEarlier := hBefore.trans hLater
  have hStart := List.pairwise_iff_getElem.mp
    (pairwise_start_freeRuns limits request opened targets pool) earlier later hEarlier hLater hBefore
  refine ⟨_, ?_, hStart⟩
  calc
    _ = ((freeRuns limits request opened targets pool).map (Run.beforeDeadline limits))[earlier]? :=
          congrArg (·[earlier]?) (schedule_eq_freeRuns limits request opened targets pool)
    _ = _ := by
          rw [List.getElem?_map, List.getElem?_eq_getElem hEarlier, Option.map_some,
            Run.beforeDeadline_eq_some_iff.mpr ⟨Limits.before_of_le hStart hTimely, rfl⟩]

/-- A call that is made lasts as long as its adapter has it, but no longer than it may. -/
theorem exists_finish_of_getElem?_runs {place : Nat} {target : Target} {made : Run}
    (hTarget : targets[place]? = some target)
    (h : (run limits request opened targets tracker pool).runs[place]? = some (some made)) :
    ∃ call, (callsOf request targets pool)[place]? = some call ∧
      made.finish = made.start + if call.ending ≠ .hang ∧ call.delay ≤ limits.timeoutOf target
        then call.delay else limits.timeoutOf target := by
  obtain ⟨free, hFree, hMade⟩ := exists_freeRun_of_getElem?_runs limits request opened targets pool
    tracker h
  obtain ⟨call, again, hCall, hAgain, hRun⟩ :=
    exists_freeRun_of_target limits request opened targets pool hTarget
  obtain rfl : free = again := Option.some.inj (hFree.symm.trans hAgain)
  obtain ⟨-, rfl⟩ := Run.beforeDeadline_eq_some_iff.mp hMade
  refine ⟨call, hCall, ?_⟩
  rw [← fst_settle]
  exact congrArg Run.finish hRun

/-- In a dispatch whose permits can be counted never more calls are in progress than there are permits,
neither at an instant nor at the start of a call that takes no time. The calls begin in the order of the
targets. A target waits only while as many other calls are in progress as there are permits, and each of
these is over, and has given its permit back, after its delay, whether it ends with an answer, a failure
or a panic or takes its task down, and otherwise at its timeout. -/
theorem dispatch_shares_permits :
    (permitsCountable limits targets = true → ∃ done,
      dispatch limits request opened targets tracker pool = .ok done ∧
      (∀ t, inProgress limits done.runs t ≤ max limits.concurrency 1) ∧
      peak (done.runs.filterMap id) ≤ max limits.concurrency 1 ∧
      (∀ (earlier later : Nat) (call : Run), earlier < later → done.runs[later]? = some (some call) →
        ∃ first : Run, done.runs[earlier]? = some (some first) ∧ first.start ≤ call.start) ∧
      (∀ (place : Nat) (made : Option Run) (t : Instant), done.runs[place]? = some made →
        opened ≤ t → waitsAt limits t made = true →
        inProgress limits done.runs t = max limits.concurrency 1) ∧
      ∀ (place : Nat) (target : Target) (made : Run), targets[place]? = some target →
        done.runs[place]? = some (some made) →
        ∃ call, (callsOf request targets pool)[place]? = some call ∧
          made.finish = made.start + if call.ending ≠ .hang ∧ call.delay ≤ limits.timeoutOf target
            then call.delay else limits.timeoutOf target) ∧
    (permitsCountable limits targets = false →
      dispatch limits request opened targets tracker pool = .error .permitLimit) := by
  constructor
  · intro hPermits
    refine ⟨_, dispatch_eq_ok _ _ _ _ _ _ hPermits, ?_, ?_, ?_, ?_, ?_⟩
    · exact inProgress_run_le limits request opened targets pool tracker
    · exact peak_run_le limits request opened targets pool tracker
    · intro earlier later call hBefore hCall
      exact exists_earlier_start_le limits request opened targets pool tracker hBefore hCall
    · intro place made t hMade hOpened hWaits
      exact inProgress_run_of_waitsAt limits request opened targets pool tracker hMade hOpened hWaits
    · intro place target made hTarget hMade
      exact exists_finish_of_getElem?_runs limits request opened targets pool tracker hTarget hMade
  · intro hPermits
    exact dispatch_eq_error _ _ _ _ _ _ hPermits

/-- The first call takes its task down, the second hangs, the third fails and the fourth panics. -/
def troubledPool : List Script :=
  [{ behaviours := [⟨5, .fixed .abort⟩] }, { behaviours := [⟨0, .fixed .hang⟩] },
    { behaviours := [⟨20, .fixed (.fail (.timeout "busy"))⟩] }, { behaviours := [⟨3, .fixed .panic⟩] }]

/-- With two permits the third target takes over the permit of the lost task, and the fourth waits until
the third one has failed. -/
theorem dispatch_shares_two_permits :
    permitsCountable pairedLimits queuedTargets = true ∧
    ∃ done, dispatch pairedLimits { query := "x" } 7 queuedTargets {} troubledPool = .ok done ∧
      (∀ t, inProgress pairedLimits done.runs t ≤ 2) ∧ peak (done.runs.filterMap id) ≤ 2 ∧
      done.runs.map (Option.map fun made => (made.start, made.finish)) =
        [some (7, 12), some (7, 1007), some (12, 32), some (32, 35)] ∧
      inProgress pairedLimits done.runs 31 = 2 := by
  have hPermits : permitsCountable pairedLimits queuedTargets = true := by decide
  obtain ⟨done, hDone, hBound, hPeak, -, hWaits, -⟩ := (dispatch_shares_permits pairedLimits
    { query := "x" } 7 queuedTargets troubledPool {}).1 hPermits
  cases (dispatch_eq_ok _ _ _ _ _ _ hPermits).symm.trans hDone
  refine ⟨hPermits, _, hDone, hBound, hPeak, by decide, ?_⟩
  exact hWaits 3 (some ⟨32, 35, .failure (.malformed "adapter panicked")⟩) 31 (by decide) (by decide)
    (by decide)

end Metasearch.Dispatch
