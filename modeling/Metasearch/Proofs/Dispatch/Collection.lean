import Mathlib.Data.List.Sort
import Metasearch.Dispatch.Collection
import Metasearch.Proofs.Dispatch.Timetable

/-! What is collected in a dispatch does not depend on the order in which calls that end together are
noted. Each place holds what was heard of its own target before the deadline, and the clock stands at
the deadline if a target was outstanding then, and at the end of the last call otherwise. -/
namespace Metasearch.Dispatch

/-- Whether a target is still waiting or running when the deadline comes. -/
def outstanding (limits : Limits) : Option Run → Bool
  | none => true
  | some run => !limits.before run.finish

/-- What is heard of a target before the deadline. -/
def heardInTime (limits : Limits) : Option Run → Option Heard
  | none => none
  | some run => if limits.before run.finish then run.heard else none

/-- Until when a target is waited for: until its call ends, or until the deadline. -/
def waitedUntil (limits : Limits) : Option Run → Option Instant
  | none => limits.deadline
  | some run => if limits.before run.finish then some run.finish else limits.deadline

theorem heardInTime_of_outstanding {limits : Limits} {run : Option Run}
    (h : outstanding limits run = true) : heardInTime limits run = none := by
  cases run with
  | none => rfl
  | some run =>
      simp only [outstanding, Bool.not_eq_true'] at h
      simp [heardInTime, h]

theorem waitedUntil_of_outstanding {limits : Limits} {run : Option Run}
    (h : outstanding limits run = true) : waitedUntil limits run = limits.deadline := by
  cases run with
  | none => rfl
  | some run =>
      simp only [outstanding, Bool.not_eq_true'] at h
      simp [waitedUntil, h]

/-- Nothing is waited for beyond the deadline. -/
theorem le_of_mem_waitedUntil {limits : Limits} {run : Option Run} {t deadline : Instant}
    (h : t ∈ waitedUntil limits run) (hDeadline : limits.deadline = some deadline) : t ≤ deadline := by
  cases hOut : outstanding limits run with
  | true =>
      rw [waitedUntil_of_outstanding hOut, hDeadline] at h
      cases h
      exact le_refl _
  | false =>
      cases run with
      | none => simp [outstanding] at hOut
      | some run =>
          have hBefore : limits.before run.finish = true := by simpa [outstanding] using hOut
          simp only [waitedUntil, hBefore, if_true] at h
          cases h
          exact (Limits.before_eq_true_iff.mp hBefore deadline hDeadline).le

/-- A target that does not end before an outstanding one is outstanding too. -/
theorem outstanding_of_endsBy {limits : Limits} {a b : Option Run} (hEnds : endsBy a b = true)
    (h : outstanding limits a = true) : outstanding limits b = true := by
  cases b with
  | none => rfl
  | some b =>
      cases a with
      | none => simp [endsBy] at hEnds
      | some a =>
          simp only [endsBy, decide_eq_true_eq] at hEnds
          simp only [outstanding, Bool.not_eq_true', Bool.eq_false_iff] at h ⊢
          exact fun hBefore => h (Limits.before_of_le hEnds hBefore)

theorem endsBy_trans (a b c : Option Run) (hab : endsBy a b = true) (hbc : endsBy b c = true) :
    endsBy a c = true := by
  cases a <;> cases b <;> cases c <;> simp_all only [endsBy, decide_eq_true_eq, Bool.false_eq_true]
  exact hab.trans hbc

theorem endsBy_total (a b : Option Run) : (endsBy a b || endsBy b a) = true := by
  cases a <;> cases b <;> simp [endsBy, le_total]

/-- One entry does not end after another one. -/
def EndsBy (a b : Option Run × Nat) : Prop := endsBy a.1 b.1 = true

instance : DecidableRel EndsBy := fun a b => inferInstanceAs (Decidable (endsBy a.1 b.1 = true))

instance : IsTrans (Option Run × Nat) EndsBy := ⟨fun a b c => endsBy_trans a.1 b.1 c.1⟩

instance : Std.Total EndsBy := ⟨fun a b => by simpa [EndsBy] using endsBy_total a.1 b.1⟩

theorem insertByEnd_eq (entry : Option Run × Nat) (order : List (Option Run × Nat)) :
    insertByEnd entry order = order.orderedInsert EndsBy entry := by
  induction order with
  | nil => rfl
  | cons other rest ih =>
      simp only [insertByEnd, List.orderedInsert, ih]
      rfl

theorem inOrderOfEnd_eq (runs : List (Option Run)) :
    inOrderOfEnd runs = runs.zipIdx.insertionSort EndsBy := by
  simp only [inOrderOfEnd, List.insertionSort, funext₂ insertByEnd_eq]

/-- An order in which targets may end. Those that end together may come in any order. -/
structure EndOrder (runs : List (Option Run)) (order : List (Option Run × Nat)) : Prop where
  perm : order.Perm runs.zipIdx
  sorted : order.Pairwise EndsBy

theorem endOrder_inOrderOfEnd (runs : List (Option Run)) : EndOrder runs (inOrderOfEnd runs) := by
  rw [inOrderOfEnd_eq]
  exact ⟨List.perm_insertionSort EndsBy _, List.pairwise_insertionSort EndsBy _⟩

namespace EndOrder

variable {runs : List (Option Run)} {order : List (Option Run × Nat)}

theorem nodup_places (h : EndOrder runs order) : (order.map Prod.snd).Nodup := by
  rw [(h.perm.map Prod.snd).nodup_iff, List.zipIdx_map_snd]
  exact List.nodup_range'

theorem mem_iff (h : EndOrder runs order) {run : Option Run} {place : Nat} :
    (run, place) ∈ order ↔ runs[place]? = some run := by
  rw [h.perm.mem_iff, List.mk_mem_zipIdx_iff_getElem?]

theorem any_outstanding (h : EndOrder runs order) (limits : Limits) :
    order.any (fun entry => outstanding limits entry.1) = runs.any (outstanding limits) := by
  calc
    _ = runs.zipIdx.any (outstanding limits ∘ Prod.fst) := h.perm.any_eq
    _ = (runs.zipIdx.map Prod.fst).any (outstanding limits) := List.any_map.symm
    _ = _ := by rw [List.zipIdx_map_fst]

end EndOrder

namespace Collection

@[simp] theorem cut_note (collection : Collection) (place : Nat) (run : Run) :
    (collection.note place run).cut = collection.cut := rfl

@[simp] theorem clock_note (collection : Collection) (place : Nat) (run : Run) :
    (collection.note place run).clock = max collection.clock run.finish := rfl

theorem clock_breakOff_le_iff (limits : Limits) (collection : Collection) (t : Instant) :
    (collection.breakOff limits).clock ≤ t ↔
      collection.clock ≤ t ∧ ∀ deadline ∈ limits.deadline, deadline ≤ t := by
  unfold breakOff
  cases limits.deadline <;> simp

@[simp] theorem length_places_note (collection : Collection) (place : Nat) (run : Run) :
    (collection.note place run).places.length = collection.places.length := by
  unfold note
  cases run.heard <;> simp

theorem getElem?_note_of_ne (collection : Collection) {place other : Nat} (run : Run)
    (h : other ≠ place) : (collection.note other run).places[place]? = collection.places[place]? := by
  unfold note
  cases run.heard with
  | none => rfl
  | some heard => exact List.getElem?_set_ne h

/-- Noting a call puts what it tells into an empty place. -/
theorem getElem?_note_self (collection : Collection) {place : Nat} (run : Run)
    (h : collection.places[place]? = some none) :
    (collection.note place run).places[place]? = some run.heard := by
  unfold note
  cases run.heard with
  | none => exact h
  | some heard =>
      have hPlace : place < collection.places.length := (List.getElem?_eq_some_iff.mp h).1
      simp [hPlace]

end Collection

variable {limits : Limits}

/-- The waiting is broken off exactly if some target is outstanding at the deadline. -/
theorem cut_collect (order : List (Option Run × Nat)) (collection : Collection) :
    (collect limits order collection).cut =
      (collection.cut || order.any fun entry => outstanding limits entry.1) := by
  induction order generalizing collection with
  | nil => simp [collect]
  | cons entry rest ih =>
      obtain ⟨run, place⟩ := entry
      cases run with
      | none => simp [collect, Collection.breakOff, outstanding]
      | some run =>
          cases hBefore : limits.before run.finish with
          | true => simp [collect, outstanding, hBefore, ih]
          | false => simp [collect, Collection.breakOff, outstanding, hBefore]

/-- A place that is not waited for stays as it is. -/
theorem getElem?_collect_of_notMem (order : List (Option Run × Nat)) (collection : Collection)
    {place : Nat} (h : place ∉ order.map Prod.snd) :
    (collect limits order collection).places[place]? = collection.places[place]? := by
  induction order generalizing collection with
  | nil => rfl
  | cons entry rest ih =>
      obtain ⟨run, other⟩ := entry
      simp only [List.map_cons, List.mem_cons, not_or] at h
      cases run with
      | none => rfl
      | some run =>
          simp only [collect]
          split
          · rw [ih _ h.2, Collection.getElem?_note_of_ne _ _ (Ne.symm h.1)]
          · rfl

/-- After the waiting, an empty place holds what was heard of its target in time. The sortedness of the
order enters where the waiting is broken off: all that would have come later is late as well. -/
theorem getElem?_collect_of_mem {order : List (Option Run × Nat)}
    (hSorted : order.Pairwise EndsBy)
    (hNodup : (order.map Prod.snd).Nodup) {collection : Collection} {run : Option Run} {place : Nat}
    (hMem : (run, place) ∈ order) (hEmpty : collection.places[place]? = some none) :
    (collect limits order collection).places[place]? = some (heardInTime limits run) := by
  induction order generalizing collection with
  | nil => simp at hMem
  | cons entry rest ih =>
      obtain ⟨first, other⟩ := entry
      obtain ⟨hFirst, hRestSorted⟩ := List.pairwise_cons.mp hSorted
      rw [List.map_cons, List.nodup_cons] at hNodup
      have hLate : outstanding limits first = true → heardInTime limits run = none := by
        intro hOut
        rcases List.mem_cons.mp hMem with hEq | hRest
        · cases hEq
          exact heardInTime_of_outstanding hOut
        · exact heardInTime_of_outstanding (outstanding_of_endsBy (hFirst _ hRest) hOut)
      cases first with
      | none =>
          rw [hLate rfl]
          exact hEmpty
      | some firstRun =>
          simp only [collect]
          split
          · rename_i hBefore
            rcases List.mem_cons.mp hMem with hEq | hRest
            · cases hEq
              rw [getElem?_collect_of_notMem rest _ hNodup.1,
                Collection.getElem?_note_self _ _ hEmpty]
              simp [heardInTime, hBefore]
            · have hNe : other ≠ place := by
                rintro rfl
                exact hNodup.1 (List.mem_map.mpr ⟨_, hRest, rfl⟩)
              apply ih hRestSorted hNodup.2 hRest
              rw [Collection.getElem?_note_of_ne _ _ hNe, hEmpty]
          · rename_i hNot
            rw [hLate (by simpa [outstanding] using hNot)]
            exact hEmpty

theorem length_places_collect (order : List (Option Run × Nat)) (collection : Collection) :
    (collect limits order collection).places.length = collection.places.length := by
  induction order generalizing collection with
  | nil => rfl
  | cons entry rest ih =>
      obtain ⟨run, place⟩ := entry
      cases run with
      | none => rfl
      | some run =>
          simp only [collect]
          split
          · rw [ih, Collection.length_places_note]
          · rfl

/-- After the waiting the clock stands at the latest instant until which a target was waited for. Once the
waiting is broken off all that is left is outstanding, since the order is sorted. -/
theorem clock_collect_le_iff {order : List (Option Run × Nat)} (hSorted : order.Pairwise EndsBy)
    (collection : Collection) (t : Instant) :
    (collect limits order collection).clock ≤ t ↔
      collection.clock ≤ t ∧ ∀ entry ∈ order, ∀ u ∈ waitedUntil limits entry.1, u ≤ t := by
  induction order generalizing collection with
  | nil => simp [collect]
  | cons entry rest ih =>
      obtain ⟨first, place⟩ := entry
      obtain ⟨hFirst, hRestSorted⟩ := List.pairwise_cons.mp hSorted
      have hLate : outstanding limits first = true →
          ((collection.breakOff limits).clock ≤ t ↔ collection.clock ≤ t ∧
            ∀ entry ∈ (first, place) :: rest, ∀ u ∈ waitedUntil limits entry.1, u ≤ t) := by
        intro hOut
        rw [Collection.clock_breakOff_le_iff]
        refine and_congr_right fun _ => ⟨?_, ?_⟩
        · intro hDeadline entry hMem
          rw [waitedUntil_of_outstanding]
          · exact hDeadline
          · rcases List.mem_cons.mp hMem with rfl | hRest
            · exact hOut
            · exact outstanding_of_endsBy (hFirst entry hRest) hOut
        · intro hAll
          rw [← waitedUntil_of_outstanding hOut]
          exact hAll _ (List.mem_cons_self ..)
      cases first with
      | none => exact hLate rfl
      | some run =>
          simp only [collect]
          split
          · rename_i hBefore
            rw [ih hRestSorted, Collection.clock_note, max_le_iff, List.forall_mem_cons, and_assoc]
            simp [waitedUntil, hBefore]
          · rename_i hNot
            exact hLate (by simpa [outstanding] using hNot)

variable {runs : List (Option Run)} {order : List (Option Run × Nat)}

theorem places_collect (h : EndOrder runs order) (opened : Instant) :
    (collect limits order (.start opened runs.length)).places = runs.map (heardInTime limits) := by
  apply List.ext_getElem?
  intro place
  rw [List.getElem?_map]
  cases hRun : runs[place]? with
  | none =>
      have hLength := List.getElem?_eq_none_iff.mp hRun
      simpa [length_places_collect, Collection.start] using hLength
  | some run =>
      have hPlace : place < runs.length := (List.getElem?_eq_some_iff.mp hRun).1
      exact getElem?_collect_of_mem h.sorted h.nodup_places (h.mem_iff.mpr hRun)
        (by simp [Collection.start, hPlace])

theorem cut_collect_start (h : EndOrder runs order) (opened : Instant) :
    (collect limits order (.start opened runs.length)).cut = runs.any (outstanding limits) := by
  rw [cut_collect, h.any_outstanding]
  rfl

theorem clock_collect_start_le_iff (h : EndOrder runs order) (opened t : Instant) :
    (collect limits order (.start opened runs.length)).clock ≤ t ↔
      opened ≤ t ∧ ∀ run ∈ runs, ∀ u ∈ waitedUntil limits run, u ≤ t := by
  rw [clock_collect_le_iff h.sorted]
  refine and_congr_right fun _ => ⟨?_, ?_⟩
  · intro hAll run hMem
    obtain ⟨place, hPlace⟩ := List.mem_iff_getElem?.mp hMem
    exact hAll (run, place) (h.mem_iff.mpr hPlace)
  · intro hAll entry hMem
    exact hAll entry.1 (List.mem_of_getElem? (h.mem_iff.mp hMem))

theorem places_collected (limits : Limits) (opened : Instant) (runs : List (Option Run)) :
    (collected limits opened runs).places = runs.map (heardInTime limits) :=
  places_collect (endOrder_inOrderOfEnd runs) opened

theorem cut_collected (limits : Limits) (opened : Instant) (runs : List (Option Run)) :
    (collected limits opened runs).cut = runs.any (outstanding limits) :=
  cut_collect_start (endOrder_inOrderOfEnd runs) opened

theorem clock_collected_le_iff (limits : Limits) (opened : Instant) (runs : List (Option Run))
    (t : Instant) :
    (collected limits opened runs).clock ≤ t ↔
      opened ≤ t ∧ ∀ run ∈ runs, ∀ u ∈ waitedUntil limits run, u ≤ t :=
  clock_collect_start_le_iff (endOrder_inOrderOfEnd runs) opened t

/-- Calls that end together may be noted in any order. -/
theorem collect_eq_collected (h : EndOrder runs order) (opened : Instant) :
    collect limits order (.start opened runs.length) = collected limits opened runs := by
  have hPlaces := (places_collect h opened).trans (places_collected limits opened runs).symm
  have hCut := (cut_collect_start h opened).trans (cut_collected limits opened runs).symm
  have hClock := eq_of_forall_ge_iff fun t =>
    (clock_collect_start_le_iff h opened t).trans (clock_collected_le_iff limits opened runs t).symm
  cases hA : collect limits order (.start opened runs.length)
  cases hB : collected limits opened runs
  simp only [hA, hB] at hPlaces hClock hCut
  rw [hPlaces, hClock, hCut]

/-- A waiting that is broken off ends at the deadline, whatever was noted until then. -/
theorem clock_collected_of_cut {opened deadline : Instant} (hDeadline : limits.deadline = some deadline)
    (hCut : (collected limits opened runs).cut = true) :
    (collected limits opened runs).clock = max opened deadline := by
  rw [cut_collected, List.any_eq_true] at hCut
  obtain ⟨late, hMem, hLate⟩ := hCut
  apply eq_of_forall_ge_iff
  intro t
  rw [clock_collected_le_iff, max_le_iff]
  refine and_congr_right fun _ => ⟨?_, ?_⟩
  · intro hAll
    exact hAll late hMem deadline (by rw [waitedUntil_of_outstanding hLate, hDeadline]; rfl)
  · intro hAfter run _ u hWaited
    exact (le_of_mem_waitedUntil hWaited hDeadline).trans hAfter

/-- The clock stands at the opening or at an instant until which some target was waited for. -/
theorem clock_collected_mem (limits : Limits) (opened : Instant) (runs : List (Option Run)) :
    (collected limits opened runs).clock = opened ∨
      ∃ run ∈ runs, (collected limits opened runs).clock ∈ waitedUntil limits run := by
  by_contra hNever
  obtain ⟨hOpened, hRuns⟩ := not_or.mp hNever
  obtain ⟨hAfter, hAll⟩ := (clock_collected_le_iff limits opened runs _).mp (le_refl _)
  -- Otherwise the clock could stand one tick earlier.
  have hEarlier : (collected limits opened runs).clock ≤ (collected limits opened runs).clock - 1 := by
    rw [clock_collected_le_iff]
    refine ⟨Nat.le_sub_one_of_lt (lt_of_le_of_ne hAfter (Ne.symm hOpened)), ?_⟩
    intro run hMem u hWaited
    refine Nat.le_sub_one_of_lt (lt_of_le_of_ne (hAll run hMem u hWaited) ?_)
    rintro rfl
    exact hRuns ⟨run, hMem, hWaited⟩
  have hPositive : 0 < (collected limits opened runs).clock :=
    Nat.lt_of_le_of_lt (Nat.zero_le opened) (lt_of_le_of_ne hAfter (Ne.symm hOpened))
  exact absurd hEarlier (Nat.not_le.mpr (Nat.sub_one_lt_of_lt hPositive))

/-- A waiting that is not broken off ends with the last call. -/
theorem clock_collected_of_complete {opened : Instant}
    (hCut : (collected limits opened runs).cut = false) :
    (∀ run, some run ∈ runs → run.finish ≤ (collected limits opened runs).clock) ∧
    ((collected limits opened runs).clock = opened ∨
      ∃ run, some run ∈ runs ∧ (collected limits opened runs).clock = run.finish) := by
  rw [cut_collected, List.any_eq_false] at hCut
  have hWaited : ∀ run, some run ∈ runs → waitedUntil limits (some run) = some run.finish := by
    intro run hMem
    have hBefore : limits.before run.finish = true := by simpa [outstanding] using hCut _ hMem
    simp [waitedUntil, hBefore]
  constructor
  · intro run hMem
    have hAll := ((clock_collected_le_iff limits opened runs _).mp (le_refl _)).2 _ hMem
    exact hAll run.finish (by rw [hWaited run hMem]; rfl)
  · rcases clock_collected_mem limits opened runs with hOpened | ⟨run, hMem, hLast⟩
    · exact Or.inl hOpened
    · cases run with
      | none => exact absurd rfl (hCut none hMem)
      | some run =>
          rw [hWaited run hMem] at hLast
          exact Or.inr ⟨run, hMem, (Option.some.inj hLast).symm⟩

end Metasearch.Dispatch
