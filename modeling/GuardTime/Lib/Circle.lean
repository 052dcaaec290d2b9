import Mathlib.Tactic

/-! # Arcs of a circle

Points of a circle of `p` equal parts are the integers from `0` up to `p`. The arc from `s` to `e`
has `s` and runs forward to `e`, which it does not have; it is empty when the two are equal. On
coordinates it is an interval, or the complement of one when it passes through `0`
(`mem_arc_iff`). -/

namespace GuardTime.Lib.Circle

variable {p a b s e n : ℤ}

/-- The half-open arc from `s` forward to `e`. -/
def Arc (p s e : ℤ) : Set ℤ := {n | (n - s) % p < (e - s) % p}

instance (p s e n : ℤ) : Decidable (n ∈ Arc p s e) :=
  inferInstanceAs (Decidable ((n - s) % p < (e - s) % p))

/-- The way forward from `b` to `a`. -/
theorem sub_emod (ha : 0 ≤ a ∧ a < p) (hb : 0 ≤ b ∧ b < p) :
    (a - b) % p = if b ≤ a then a - b else a - b + p := by
  split_ifs with h
  · exact Int.emod_eq_of_lt (by omega) (by omega)
  · rw [← Int.add_emod_right]
    exact Int.emod_eq_of_lt (by omega) (by omega)

/-- Arcs in coordinates. -/
theorem mem_arc_iff (hs : 0 ≤ s ∧ s < p) (he : 0 ≤ e ∧ e < p) (hn : 0 ≤ n ∧ n < p) :
    n ∈ Arc p s e ↔ if s ≤ e then s ≤ n ∧ n < e else s ≤ n ∨ n < e := by
  change (n - s) % p < (e - s) % p ↔ _
  rw [sub_emod hn hs, sub_emod he hs]
  split_ifs <;> omega

end GuardTime.Lib.Circle
