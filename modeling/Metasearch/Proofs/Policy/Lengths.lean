import Mathlib.Order.MinMax
import Metasearch.Policy.Suspension

/-! How long an engine rests under a rule. A longer streak of failures never makes a rest shorter, although
doublings stop and products are held once they no longer fit into a word. Under a rule that passes its check
a rest takes at least a second, and under no rule does it take more than thirty days. What is held in words
is never seen, since no ceiling is above the greatest word. -/
namespace Metasearch

namespace Backoff

/-- The doublings stop at a factor that is greater than all before it. -/
theorem factor_le_factor {fewer more : Nat} (h : fewer ≤ more) : factor fewer ≤ factor more := by
  unfold factor
  split
  · rename_i hFits
    split
    · exact Nat.pow_le_pow_right (by decide) h
    · calc
        Nat.pow 2 fewer ≤ Nat.pow 2 63 := Nat.pow_le_pow_right (by decide) (Nat.le_of_lt_succ hFits)
        _ ≤ wordMax := by decide
  · rename_i hFull
    rw [if_neg fun hFits => hFull (Nat.lt_of_le_of_lt h hFits)]

/-- A rule gives no shorter rest after more failures in a row. -/
theorem seconds_le_seconds (rule : Backoff) {shorter longer : Nat} (h : shorter ≤ longer) :
    rule.seconds shorter ≤ rule.seconds longer := by
  cases rule with
  | fixed secs => exact le_refl _
  | exponential baseSecs maxSecs =>
      have hFactor : factor (max shorter 1 - 1) ≤ factor (max longer 1 - 1) :=
        factor_le_factor (Nat.sub_le_sub_right (max_le_max_right 1 h) 1)
      have hProduct := Nat.mul_le_mul_left baseSecs.toNat hFactor
      exact min_le_min_right _ (min_le_min_right _ (min_le_min_right _ hProduct))

theorem seconds_le_maxSuspension (rule : Backoff) (streak : Nat) : rule.seconds streak ≤ maxSuspension :=
  Nat.min_le_right _ _

/-- Below a ceiling that fits into a word nothing is seen of a number that is held at the greatest word. -/
theorem min_min_wordMax {n ceiling : Nat} (h : ceiling ≤ wordMax) : min (min n wordMax) ceiling = min n ceiling := by
  rw [min_assoc, min_eq_right h]

/-- Where the doublings stop, the factor and the power of two both take every base but zero to the ceiling. -/
theorem min_mul_factor (base doublings : Nat) {ceiling : Nat} (h : ceiling ≤ wordMax) :
    min (base * factor doublings) ceiling = min (base * Nat.pow 2 doublings) ceiling := by
  unfold factor
  split
  · rfl
  · rename_i hFull
    rcases Nat.eq_zero_or_pos base with rfl | hBase
    · rw [Nat.zero_mul, Nat.zero_mul]
    · have hPower : wordMax ≤ Nat.pow 2 doublings :=
        calc
          wordMax ≤ Nat.pow 2 64 := by decide
          _ ≤ Nat.pow 2 doublings := Nat.pow_le_pow_right (by decide) (Nat.le_of_not_lt hFull)
      have hReached : ∀ {factor}, wordMax ≤ factor → ceiling ≤ base * factor := fun hFactor =>
        h.trans (hFactor.trans (Nat.le_mul_of_pos_left _ hBase))
      rw [min_eq_right (hReached (le_refl _)), min_eq_right (hReached hPower)]

/-- The length of a rest is exact, for every rule and every streak. It is the base doubled with each failure
after the first, or the fixed length, and only the ceiling of the rule and thirty days cut it off. -/
theorem seconds_eq_exact (streak : Nat) :
    (∀ baseSecs maxSecs : UInt64, (exponential baseSecs maxSecs).seconds streak =
      min (min (baseSecs.toNat * Nat.pow 2 (max streak 1 - 1)) maxSecs.toNat) 2592000) ∧
    ∀ secs : UInt64, (fixed secs).seconds streak = min secs.toNat 2592000 := by
  constructor
  · intro baseSecs maxSecs
    have hCeiling : maxSecs.toNat ≤ wordMax := Nat.le_pred_of_lt maxSecs.toNat_lt_size
    calc
      (exponential baseSecs maxSecs).seconds streak
        = min (min (min (baseSecs.toNat * factor (max streak 1 - 1)) wordMax) maxSecs.toNat)
            maxSuspension := rfl
      _ = min (min (baseSecs.toNat * factor (max streak 1 - 1)) maxSecs.toNat) maxSuspension := by
          rw [min_min_wordMax hCeiling]
      _ = _ := by
          rw [min_mul_factor _ _ hCeiling]
          rfl
  · intro secs
    rfl

/-- From a base of zero no number of doublings leads anywhere. The greatest base is cut off at its ceiling,
also where its product with the factor is far above every word. -/
example : (exponential 0 600).seconds 100 = 0 ∧
    (exponential 18446744073709551615 7).seconds 4294967295 = 7 := by decide

/-- What a rule has to satisfy to be usable. -/
theorem validate_fixed_iff {secs : UInt64} :
    (fixed secs).validate = .ok () ↔ 0 < secs.toNat ∧ secs.toNat ≤ maxSuspension := by
  have hZero : secs = 0 ↔ secs.toNat = 0 := UInt64.toNat_inj.symm
  simp only [validate, hZero]
  grind

theorem validate_exponential_iff {baseSecs maxSecs : UInt64} :
    (exponential baseSecs maxSecs).validate = .ok () ↔
      0 < baseSecs.toNat ∧ baseSecs.toNat ≤ maxSecs.toNat ∧ maxSecs.toNat ≤ maxSuspension := by
  have hZero : baseSecs = 0 ↔ baseSecs.toNat = 0 := UInt64.toNat_inj.symm
  simp only [validate, hZero, UInt64.lt_iff_toNat_lt]
  grind

/-- A usable rule always gives a rest. -/
theorem seconds_pos {rule : Backoff} (h : rule.validate = .ok ()) (streak : Nat) :
    0 < rule.seconds streak := by
  cases rule with
  | fixed secs => exact Nat.lt_min.mpr ⟨(validate_fixed_iff.mp h).1, by decide⟩
  | exponential baseSecs maxSecs =>
      obtain ⟨hBase, hRange, -⟩ := validate_exponential_iff.mp h
      have hFactor : 1 ≤ factor (max streak 1 - 1) := factor_le_factor (Nat.zero_le _)
      have hProduct : 0 < baseSecs.toNat * factor (max streak 1 - 1) := Nat.mul_pos hBase hFactor
      refine Nat.lt_min.mpr ⟨Nat.lt_min.mpr ⟨Nat.lt_min.mpr ⟨hProduct, ?_⟩, ?_⟩, ?_⟩
      · decide
      · exact Nat.lt_of_lt_of_le hBase hRange
      · decide

end Backoff

theorem FailureKind.mem_all (kind : FailureKind) : kind ∈ FailureKind.all := by
  cases kind <;> decide

/-- Checks made one after the other all pass exactly if each of them passes. -/
theorem forM_eq_ok_iff {α ε : Type} {check : α → Except ε PUnit} {items : List α} :
    items.forM check = .ok ⟨⟩ ↔ ∀ item ∈ items, check item = .ok ⟨⟩ := by
  induction items with
  | nil => simp [List.forM, pure, Except.pure]
  | cons first rest ih =>
      rw [List.forall_mem_cons, ← ih]
      cases hFirst : check first <;> simp [List.forM, hFirst, bind, Except.bind]

namespace SuspensionPolicy

theorem validate_eq_ok_iff {policy : SuspensionPolicy} :
    policy.validate = .ok () ↔ ∀ kind, (policy.rule kind).validate = .ok () := by
  unfold validate
  rw [forM_eq_ok_iff]
  constructor
  · intro h kind
    have hChecked := h kind kind.mem_all
    cases hRule : (policy.rule kind).validate with
    | ok => rfl
    | error fault => simp [hRule] at hChecked
  · intro h kind _
    simp [h kind]

theorem seconds_pos {policy : SuspensionPolicy} (h : policy.validate = .ok ()) (kind : FailureKind)
    (streak : Nat) : 0 < policy.seconds kind streak :=
  Backoff.seconds_pos (validate_eq_ok_iff.mp h kind) streak

end SuspensionPolicy

end Metasearch
