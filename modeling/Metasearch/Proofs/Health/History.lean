import Mathlib.Data.List.Induction
import Metasearch.Proofs.Health.States

/-! The health of an engine as its history tells it. The state that is kept step by step is read off the
events that named the engine since it was last reset, and no event of another engine has a part in it. -/
namespace Metasearch.Health

/-- What an event is to one engine that it names. -/
inductive Entry where
  | reported (outcome : Outcome) (now : Instant)
  /-- The engine was a candidate. -/
  | selected (now : Instant)
deriving DecidableEq, Repr

namespace Event

/-- Whether an event makes all that is known of an engine forgotten. -/
def resets (engine : EngineId) : Event → Bool
  | .reset id => id == engine
  | .resetAll => true
  | _ => false

/-- What an event is to an engine. To be registered changes nothing. -/
def logged (engine : EngineId) : Event → Option Entry
  | .report id outcome now => if id = engine then some (.reported outcome now) else none
  | .select candidates now => if engine ∈ candidates then some (.selected now) else none
  | _ => none

/-- Whether an event can change what is known of an engine. -/
def concerns (engine : EngineId) (event : Event) : Bool :=
  event.resets engine || (event.logged engine).isSome

end Event

/-- What happened to an engine since its last reset, the latest first. -/
def log (engine : EngineId) (events : List Event) : List Entry :=
  (events.reverse.takeWhile (!·.resets engine)).filterMap (·.logged engine)

namespace Entry

def isReport : Entry → Bool
  | .reported _ _ => true
  | .selected _ => false

/-- The kind and the instant of a failure. -/
def failure? : Entry → Option (FailureKind × Instant)
  | .reported (.failure kind) now => some (kind, now)
  | _ => none

/-- The instant of a success. -/
def success? : Entry → Option Instant
  | .reported .success now => some now
  | _ => none

end Entry

/-- The failures after the last success, held at the greatest streak that is counted. -/
def streakOf (entries : List Entry) : Nat :=
  min ((entries.takeWhile (·.success?.isNone)).countP (·.failure?.isSome)) maxStreak

/-- The latest report of a log is a failure that suspends the engine until the given instant, and each
selection after it came too early. -/
def SuspendedUntil (policy : SuspensionPolicy) (entries : List Entry) (ends : Instant) : Prop :=
  ∃ (selections : List Entry) (kind : FailureKind) (failedAt : Instant) (earlier : List Entry),
    entries = selections ++ .reported (.failure kind) failedAt :: earlier ∧
    ends = failedAt + 1000 * policy.seconds kind
      (streakOf (.reported (.failure kind) failedAt :: earlier)) ∧
    ∀ entry ∈ selections, ∃ now, entry = .selected now ∧ now < ends

/-- The state after what an entry tells. -/
def Entry.change (policy : SuspensionPolicy) : Entry → EngineState → EngineState
  | .reported outcome now, state => state.after policy outcome now
  | .selected now, state => state.refreshed now

/-- The state after all that a log tells, from the first entry, which comes last, on. -/
def replay (policy : SuspensionPolicy) (entries : List Entry) : EngineState :=
  entries.foldr (Entry.change policy) {}

theorem log_append_singleton (engine : EngineId) (events : List Event) (event : Event) :
    log engine (events ++ [event]) =
      if event.resets engine then [] else (event.logged engine).toList ++ log engine events := by
  simp only [log, List.reverse_append, List.reverse_cons, List.reverse_nil, List.nil_append,
    List.cons_append, List.takeWhile_cons]
  cases event.resets engine with
  | true => rfl
  | false => cases hEntry : event.logged engine <;> simp [hEntry]

theorem log_append {engine : EngineId} (events later : List Event)
    (h : ∀ event ∈ later, event.resets engine = false) :
    log engine (events ++ later) =
      (later.filterMap (·.logged engine)).reverse ++ log engine events := by
  induction later using List.reverseRecOn with
  | nil => simp
  | append_singleton later event ih =>
      rw [← List.append_assoc, log_append_singleton, h event (by simp),
        ih fun other hMem => h other (by simp [hMem])]
      cases hLogged : event.logged engine <;> simp [hLogged]

/-- One event changes the state of an engine as the entry that it makes in the log of the engine. -/
theorem stateOf_step {tracker : Tracker} (h : tracker.states.Ordered) (engine : EngineId) (event : Event) :
    (tracker.step event).stateOf engine =
      if event.resets engine then {}
      else (event.logged engine).toList.foldr (Entry.change tracker.policy) (tracker.stateOf engine) := by
  cases event with
  | register id =>
      refine (Tracker.stateOf_update h id engine _).trans ?_
      simp [Event.resets, Event.logged]
  | report id outcome now =>
      refine (Tracker.stateOf_update h id engine _).trans ?_
      by_cases hId : id = engine <;> simp [Event.resets, Event.logged, Entry.change, hId]
  | select candidates now =>
      refine (Tracker.stateOf_select now h candidates engine).trans ?_
      by_cases hMem : engine ∈ candidates <;> simp [Event.resets, Event.logged, Entry.change, hMem]
  | reset id =>
      refine (Tracker.stateOf_update h id engine _).trans ?_
      by_cases hId : id = engine <;> simp [Event.resets, Event.logged, hId]
  | resetAll => exact Tracker.stateOf_resetAll tracker engine

/-- Events that do not reset an engine change its state entry by entry. -/
theorem stateOf_run_of_kept {tracker : Tracker} (h : tracker.states.Ordered) {engine : EngineId}
    {events : List Event} (hKept : ∀ event ∈ events, event.resets engine = false) :
    (tracker.run events).stateOf engine =
      (events.filterMap (·.logged engine)).foldl (fun state entry => entry.change tracker.policy state)
        (tracker.stateOf engine) := by
  induction events generalizing tracker with
  | nil => rfl
  | cons event rest ih =>
      have hRest := ih (Tracker.ordered_step h event) fun other hMem =>
        hKept other (List.mem_cons_of_mem _ hMem)
      refine hRest.trans ?_
      rw [stateOf_step h, hKept event (List.mem_cons_self ..), Tracker.policy_step, List.filterMap_cons]
      cases event.logged engine <;> rfl

/-- Events that do not concern an engine leave its state as it was. -/
theorem stateOf_run_of_not_concerns {tracker : Tracker} (h : tracker.states.Ordered) {engine : EngineId}
    {events : List Event} (hOthers : ∀ event ∈ events, event.concerns engine = false) :
    (tracker.run events).stateOf engine = tracker.stateOf engine := by
  have hSplit := fun event hMem => Bool.or_eq_false_iff.mp (hOthers event hMem)
  have hNoEntry : events.filterMap (·.logged engine) = [] :=
    List.filterMap_eq_nil_iff.mpr fun event hMem => by simpa using (hSplit event hMem).2
  rw [stateOf_run_of_kept h fun event hMem => (hSplit event hMem).1, hNoEntry]
  rfl

theorem states_nil_ordered (policy : SuspensionPolicy) :
    States.Ordered (Tracker.states { policy }) :=
  List.Pairwise.nil

/-- After any run of events an engine has the state that its own log tells. -/
theorem stateOf_run (policy : SuspensionPolicy) (events : List Event) (engine : EngineId) :
    (Tracker.run { policy } events).stateOf engine = replay policy (log engine events) := by
  induction events using List.reverseRecOn with
  | nil => rfl
  | append_singleton events event ih =>
      have hOrdered := Tracker.ordered_run (states_nil_ordered policy) events
      have hRun : Tracker.run { policy } (events ++ [event]) =
          (Tracker.run { policy } events).step event := List.foldl_append
      rw [hRun, stateOf_step hOrdered, ih, Tracker.policy_run, log_append_singleton]
      split
      · rfl
      · exact List.foldr_append.symm

/-- A property of states that a fresh one has, and that neither a report nor a second chance takes away, is
one of every engine after any run of events. -/
theorem stateOf_run_induction {policy : SuspensionPolicy} {P : EngineState → Prop} (hFresh : P {})
    (hAfter : ∀ state outcome now, P state → P (state.after policy outcome now))
    (hRefreshed : ∀ state now, P state → P (state.refreshed now)) (events : List Event) (engine : EngineId) :
    P ((Tracker.run { policy } events).stateOf engine) := by
  rw [stateOf_run]
  induction log engine events with
  | nil => exact hFresh
  | cons entry earlier ih =>
      cases entry with
      | reported outcome now => exact hAfter _ outcome now ih
      | selected now => exact hRefreshed _ now ih

theorem log_filter_concerns (engine : EngineId) (events : List Event) :
    log engine (events.filter (·.concerns engine)) = log engine events := by
  induction events using List.reverseRecOn with
  | nil => rfl
  | append_singleton events event ih =>
      rw [List.filter_append, log_append_singleton, ← ih]
      cases hConcerns : event.concerns engine with
      | true => simp [hConcerns, log_append_singleton]
      | false =>
          obtain ⟨hKept, hNoEntry⟩ := Bool.or_eq_false_iff.mp hConcerns
          have hNone : event.logged engine = none := by simpa using hNoEntry
          simp [hConcerns, hKept, hNone]

theorem streakOf_cons_selected (now : Instant) (entries : List Entry) :
    streakOf (.selected now :: entries) = streakOf entries := by
  simp [streakOf, Entry.success?, Entry.failure?]

theorem streakOf_cons_success (now : Instant) (entries : List Entry) :
    streakOf (.reported .success now :: entries) = 0 := by
  simp [streakOf, Entry.success?]

theorem streakOf_cons_failure (kind : FailureKind) (now : Instant) (entries : List Entry) :
    streakOf (.reported (.failure kind) now :: entries) = min (streakOf entries + 1) maxStreak := by
  simp [streakOf, Entry.success?, Entry.failure?]
  -- To count on from a streak that was held at the greatest one is to hold the whole count there.
  omega

theorem EngineState.exists_refreshed_eq (state : EngineState) (now : Instant) :
    ∃ status, state.refreshed now = { state with status } := by
  unfold refreshed
  split
  · exact ⟨_, rfl⟩
  · exact ⟨state.status, rfl⟩

/-- A second chance makes no difference to what a call leaves behind. -/
theorem EngineState.after_refreshed (state : EngineState) (given : Instant) (policy : SuspensionPolicy)
    (outcome : Outcome) (now : Instant) :
    (state.refreshed given).after policy outcome now = state.after policy outcome now := by
  obtain ⟨status, hStatus⟩ := state.exists_refreshed_eq given
  rw [hStatus]
  cases outcome <;> rfl

/-- A state with the given status and all else read off a log. -/
def told (status : Status) (entries : List Entry) : EngineState where
  status
  streak := streakOf entries
  lastFailure := (entries.findSome? Entry.failure?).map Prod.fst
  lastFailureAt := (entries.findSome? Entry.failure?).map Prod.snd
  lastSuccessAt := entries.findSome? Entry.success?
  totalRequests := entries.countP Entry.isReport
  totalFailures := entries.countP (·.failure?.isSome)

/-- An entry brings what a log tells up to date, whatever it does to the status. -/
theorem exists_change_told (policy : SuspensionPolicy) (status : Status) (entries : List Entry)
    (entry : Entry) : ∃ next, entry.change policy (told status entries) = told next (entry :: entries) := by
  cases entry with
  | selected now =>
      obtain ⟨next, hNext⟩ := EngineState.exists_refreshed_eq (told status entries) now
      refine ⟨next, hNext.trans ?_⟩
      simp only [told, streakOf_cons_selected, List.findSome?_cons, List.countP_cons]
      rfl
  | reported outcome now =>
      cases outcome with
      | success =>
          refine ⟨.healthy, ?_⟩
          simp only [told, Entry.change, EngineState.after, streakOf_cons_success, List.findSome?_cons,
            List.countP_cons]
          rfl
      | failure kind =>
          refine ⟨.suspended (now + 1000 * policy.seconds kind
            (streakOf (.reported (.failure kind) now :: entries))), ?_⟩
          simp only [told, Entry.change, EngineState.after, streakOf_cons_failure, List.findSome?_cons,
            List.countP_cons]
          rfl

/-- All of a replayed state but its status is read off the log. -/
theorem exists_replay_eq_told (policy : SuspensionPolicy) (entries : List Entry) :
    ∃ status, replay policy entries = told status entries := by
  induction entries with
  | nil => exact ⟨.healthy, rfl⟩
  | cons entry earlier ih =>
      obtain ⟨status, hStatus⟩ := ih
      obtain ⟨next, hNext⟩ := exists_change_told policy status earlier entry
      exact ⟨next, (congrArg (entry.change policy) hStatus).trans hNext⟩

variable {policy : SuspensionPolicy} {entries : List Entry} {now ends : Instant}

theorem not_suspendedUntil_nil : ¬ SuspendedUntil policy [] ends := by
  rintro ⟨selections, kind, failedAt, earlier, hLog, -⟩
  simp at hLog

theorem suspendedUntil_cons_selected :
    SuspendedUntil policy (.selected now :: entries) ends ↔
      SuspendedUntil policy entries ends ∧ now < ends := by
  constructor
  · rintro ⟨selections, kind, failedAt, earlier, hLog, hEnds, hEarly⟩
    cases selections with
    | nil => simp at hLog
    | cons first rest =>
        obtain ⟨rfl, hRest⟩ := List.cons.inj hLog
        obtain ⟨again, hAgain, hFirst⟩ := hEarly _ (List.mem_cons_self ..)
        cases hAgain
        exact ⟨⟨rest, kind, failedAt, earlier, hRest, hEnds,
          fun entry hMem => hEarly entry (List.mem_cons_of_mem _ hMem)⟩, hFirst⟩
  · rintro ⟨⟨selections, kind, failedAt, earlier, hLog, hEnds, hEarly⟩, hNow⟩
    refine ⟨.selected now :: selections, kind, failedAt, earlier, congrArg _ hLog, hEnds, ?_⟩
    intro entry hMem
    rcases List.mem_cons.mp hMem with rfl | hMem
    · exact ⟨now, rfl, hNow⟩
    · exact hEarly entry hMem

theorem suspendedUntil_cons_reported {outcome : Outcome} :
    SuspendedUntil policy (.reported outcome now :: entries) ends ↔
      ∃ kind, outcome = .failure kind ∧
        ends = now + 1000 * policy.seconds kind (streakOf (.reported (.failure kind) now :: entries)) := by
  constructor
  · rintro ⟨selections, kind, failedAt, earlier, hLog, hEnds, hEarly⟩
    cases selections with
    | nil =>
        cases hLog
        exact ⟨kind, rfl, hEnds⟩
    | cons first rest =>
        obtain ⟨rfl, -⟩ := List.cons.inj hLog
        obtain ⟨_, hSelected, -⟩ := hEarly _ (List.mem_cons_self ..)
        cases hSelected
  · rintro ⟨kind, rfl, hEnds⟩
    exact ⟨[], kind, now, entries, rfl, hEnds, by simp⟩

theorem EngineState.status_refreshed_eq_suspended_iff {state : EngineState} :
    (state.refreshed now).status = .suspended ends ↔ state.status = .suspended ends ∧ now < ends := by
  unfold refreshed mayRun
  cases hStatus : state.status with
  | healthy => simp
  | suspended last =>
      by_cases hOver : last ≤ now
      · have hGone : last = ends → ends ≤ now := fun hEq => hEq ▸ hOver
        simpa [hOver] using hGone
      · have hLeft : last = ends → now < ends := fun hEq => hEq ▸ Nat.lt_of_not_le hOver
        simpa [hOver, hStatus] using hLeft

/-- A replayed log leaves an engine suspended exactly as the log tells. -/
theorem status_replay_eq_suspended_iff :
    (replay policy entries).status = .suspended ends ↔ SuspendedUntil policy entries ends := by
  induction entries with
  | nil => exact iff_of_false (fun h => by cases h) not_suspendedUntil_nil
  | cons entry earlier ih =>
      have hReplay : replay policy (entry :: earlier) = entry.change policy (replay policy earlier) := rfl
      -- How long a failure suspends depends on the streak, which the rest of the log tells.
      obtain ⟨status, hTold⟩ := exists_replay_eq_told policy earlier
      have hStreak : (replay policy earlier).streak = streakOf earlier := congrArg _ hTold
      rw [hReplay]
      cases entry with
      | selected now =>
          rw [suspendedUntil_cons_selected, ← ih]
          exact EngineState.status_refreshed_eq_suspended_iff
      | reported outcome now =>
          rw [suspendedUntil_cons_reported]
          cases outcome with
          | success => simp [Entry.change, EngineState.after]
          | failure kind =>
              simp [Entry.change, EngineState.after, hStreak, streakOf_cons_failure, eq_comm]

/-- After any run of events, in any order of their instants, the state of an engine is what its own log
since its last reset tells: how many reports and failures there were, how many failures since the last
success, the latest failure and the latest success. It is suspended exactly if its latest report is a
failure and every selection since then came before the end that this failure set. Events that do not
concern the engine may be left out, and runs that leave the same log leave the same state. To ask only
which candidates may run is a selection too. -/
theorem stateOf_run_eq_history (policy : SuspensionPolicy) (events : List Event) (engine : EngineId) :
    ((Tracker.run { policy } events).stateOf engine).totalRequests =
      (log engine events).countP Entry.isReport ∧
    ((Tracker.run { policy } events).stateOf engine).totalFailures =
      (log engine events).countP (·.failure?.isSome) ∧
    ((Tracker.run { policy } events).stateOf engine).streak =
      min (((log engine events).takeWhile (·.success?.isNone)).countP (·.failure?.isSome))
        maxStreak ∧
    ((Tracker.run { policy } events).stateOf engine).lastFailure =
      ((log engine events).findSome? Entry.failure?).map Prod.fst ∧
    ((Tracker.run { policy } events).stateOf engine).lastFailureAt =
      ((log engine events).findSome? Entry.failure?).map Prod.snd ∧
    ((Tracker.run { policy } events).stateOf engine).lastSuccessAt =
      (log engine events).findSome? Entry.success? ∧
    (∀ ends, ((Tracker.run { policy } events).stateOf engine).status = .suspended ends ↔
      SuspendedUntil policy (log engine events) ends) ∧
    (Tracker.run { policy } (events.filter (·.concerns engine))).stateOf engine =
      (Tracker.run { policy } events).stateOf engine ∧
    ∀ others, log engine others = log engine events →
      (Tracker.run { policy } others).stateOf engine = (Tracker.run { policy } events).stateOf engine := by
  have hState := stateOf_run policy events engine
  obtain ⟨status, hTold⟩ := exists_replay_eq_told policy (log engine events)
  have hFields := hState.trans hTold
  refine ⟨congrArg (·.totalRequests) hFields, congrArg (·.totalFailures) hFields,
    congrArg (·.streak) hFields, congrArg (·.lastFailure) hFields, congrArg (·.lastFailureAt) hFields,
    congrArg (·.lastSuccessAt) hFields, ?_, ?_, ?_⟩
  · intro ends
    rw [hState]
    exact status_replay_eq_suspended_iff
  · rw [stateOf_run, log_filter_concerns, hState]
  · intro others hLog
    rw [stateOf_run, hLog, hState]

/-- An engine fails twice, the second time at an earlier instant, and is then selected just before the end
that the second failure set. Another engine is reset, fails and is selected in between. -/
def tangledEvents : List Event :=
  [.report ⟨"a", "web"⟩ .success 3, .register ⟨"b", "web"⟩, .report ⟨"a", "web"⟩ (.failure .timeout) 10000,
    .select [⟨"b", "web"⟩, ⟨"a", "web"⟩] 14999, .report ⟨"b", "web"⟩ (.failure .captcha) 7,
    .report ⟨"a", "web"⟩ (.failure .timeout) 2000, .reset ⟨"b", "web"⟩,
    .select [⟨"a", "web"⟩, ⟨"b", "web"⟩, ⟨"a", "web"⟩] 11999]

/-- The same run without the other engine. -/
def plainEvents : List Event :=
  [.report ⟨"a", "web"⟩ .success 3, .report ⟨"a", "web"⟩ (.failure .timeout) 10000,
    .select [⟨"a", "web"⟩] 14999, .report ⟨"a", "web"⟩ (.failure .timeout) 2000,
    .select [⟨"a", "web"⟩] 11999]

/-- The second failure in a row doubles the rest, counted from its own instant, in both runs. -/
theorem stateOf_tangledEvents_eq_history :
    log ⟨"a", "web"⟩ plainEvents = log ⟨"a", "web"⟩ tangledEvents ∧
    ((Tracker.run {} tangledEvents).stateOf ⟨"a", "web"⟩).status = .suspended 12000 ∧
    ((Tracker.run {} tangledEvents).stateOf ⟨"a", "web"⟩).streak = 2 ∧
    (Tracker.run {} plainEvents).stateOf ⟨"a", "web"⟩ =
      (Tracker.run {} tangledEvents).stateOf ⟨"a", "web"⟩ := by
  have hLog : log ⟨"a", "web"⟩ plainEvents = log ⟨"a", "web"⟩ tangledEvents := by decide
  obtain ⟨-, -, hStreak, -, -, -, hStatus, -, hOthers⟩ :=
    stateOf_run_eq_history {} tangledEvents ⟨"a", "web"⟩
  refine ⟨hLog, (hStatus 12000).mpr ?_, hStreak.trans (by decide), hOthers plainEvents hLog⟩
  refine ⟨[.selected 11999], .timeout, 2000,
    [.selected 14999, .reported (.failure .timeout) 10000, .reported .success 3], by decide, by decide, ?_⟩
  simp

end Metasearch.Health
