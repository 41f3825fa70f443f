import Mathlib.Data.List.Perm.Basic
import Metasearch.Health.Tracker

/-! A selection splits its candidates. None is lost or doubled, and both parts keep the order of the
candidates, whatever the state of the tracker. -/
namespace Metasearch.Health.Tracker

variable (now : Instant)

theorem perm_select (tracker : Tracker) (candidates : List EngineId) :
    ((tracker.select now candidates).1.skipped.map (·.engine) ++
      (tracker.select now candidates).1.eligible).Perm candidates := by
  induction candidates generalizing tracker with
  | nil => exact List.Perm.nil
  | cons id rest ih =>
      simp only [select]
      split
      · exact List.perm_middle.trans (List.Perm.cons id (ih _))
      · exact List.Perm.cons id (ih _)

/-- Of distinct candidates that are all eligible none is left out. -/
theorem skipped_eq_nil_of_subset_eligible {tracker : Tracker} {candidates : List EngineId}
    (hNodup : candidates.Nodup) (hAll : candidates ⊆ (tracker.select now candidates).1.eligible) :
    (tracker.select now candidates).1.skipped = [] := by
  have hPerm := perm_select now tracker candidates
  have hDisjoint := (List.nodup_append.mp (hPerm.nodup_iff.mpr hNodup)).2.2
  apply List.eq_nil_iff_forall_not_mem.mpr
  intro skipped hMem
  have hLeftOut : skipped.engine ∈ (tracker.select now candidates).1.skipped.map (·.engine) :=
    List.mem_map_of_mem hMem
  exact hDisjoint _ hLeftOut _ (hAll (hPerm.mem_iff.mp (List.mem_append_left _ hLeftOut))) rfl

theorem eligible_sublist (tracker : Tracker) (candidates : List EngineId) :
    (tracker.select now candidates).1.eligible.Sublist candidates := by
  induction candidates generalizing tracker with
  | nil => exact List.Sublist.refl []
  | cons id rest ih =>
      simp only [select]
      split
      · exact List.Sublist.cons_cons id (ih _)
      · exact List.Sublist.cons id (ih _)

theorem skipped_sublist (tracker : Tracker) (candidates : List EngineId) :
    ((tracker.select now candidates).1.skipped.map (·.engine)).Sublist candidates := by
  induction candidates generalizing tracker with
  | nil => exact List.Sublist.refl []
  | cons id rest ih =>
      simp only [select]
      split
      · exact List.Sublist.cons id (ih _)
      · exact List.Sublist.cons_cons id (ih _)

end Metasearch.Health.Tracker
