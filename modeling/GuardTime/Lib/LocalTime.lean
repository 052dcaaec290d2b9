import Mathlib.Tactic

/-! # Local clocks

A local clock shows a time at every instant. Where it is set back it shows times twice, where it is
set forward it jumps over times. Every local time stands for an instant all the same: the earliest
that shows it, or, if none does, the one that the clock before the jump would reach it at.

* `utc_localTime_utc`: the instant of a local time is that of the time it shows;
* `utc_add_iff`: when two local times stand for one instant. -/

namespace GuardTime.Lib.LocalTime

/-- The clock jumps over the local time `l` at the instant `t₀`: it shows less before and more from
then on. The instant `u` that stands for `l` follows the clock as it was before the jump, and until
then the clock after the jump runs evenly. -/
structure JumpsOver (localTime : ℤ → ℤ) (l u t₀ : ℤ) : Prop where
  before_lt : localTime (t₀ - 1) < l
  le_before : ∀ t, t < t₀ → localTime t ≤ localTime (t₀ - 1)
  lt_after : ∀ t, t₀ ≤ t → l < localTime t
  utc_eq : u = l - (localTime (t₀ - 1) - (t₀ - 1))
  steady : ∀ t, t₀ ≤ t → t ≤ u → localTime t - t = localTime t₀ - t₀

/-- What a clock shows at an instant, and which instant stands for a local time. -/
structure Clock where
  localTime : ℤ → ℤ
  utc : ℤ → ℤ
  utc_shown : ∀ t, localTime (utc (localTime t)) = localTime t ∧ utc (localTime t) ≤ t
  utc_skipped : ∀ l, (∀ t, localTime t ≠ l) → ∃ t₀, JumpsOver localTime l (utc l) t₀

/-! ### Jumps -/

/-- The instant for a skipped local time is after the jump. -/
theorem JumpsOver.le_utc {localTime : ℤ → ℤ} {l u t₀ : ℤ} (h : JumpsOver localTime l u t₀) :
    t₀ ≤ u := by
  have hbefore := h.before_lt
  rw [h.utc_eq]
  omega

theorem JumpsOver.lt_utc {localTime : ℤ → ℤ} {l u t₀ : ℤ} (h : JumpsOver localTime l u t₀) :
    l < localTime u := h.lt_after _ h.le_utc

namespace Clock
variable (clock : Clock) {l l' : ℤ}

/-- How far the clock jumps over a local time: not at all if it shows it. -/
def jump (l : ℤ) : ℤ := clock.localTime (clock.utc l) - l

theorem shown_or_skipped (l : ℤ) : clock.localTime (clock.utc l) = l ∨
    ∃ t₀, JumpsOver clock.localTime l (clock.utc l) t₀ := by
  by_cases h : ∃ t, clock.localTime t = l
  · obtain ⟨t, rfl⟩ := h
    exact .inl (clock.utc_shown t).1
  · exact .inr (clock.utc_skipped l (not_exists.mp h))

theorem jump_nonneg (l : ℤ) : 0 ≤ clock.jump l := by
  unfold jump
  rcases clock.shown_or_skipped l with h | ⟨t₀, h⟩
  · omega
  · have hlt := h.lt_utc
    omega

/-- **The instant of a local time is that of the time it shows.** -/
theorem utc_localTime_utc (l : ℤ) :
    clock.utc (clock.localTime (clock.utc l)) = clock.utc l := by
  rcases clock.shown_or_skipped l with h | ⟨t₀, h⟩
  · rw [h]
  · obtain ⟨hsame, hle⟩ := clock.utc_shown (clock.utc l)
    have hafter : t₀ ≤ clock.utc (clock.localTime (clock.utc l)) := by
      by_contra hlt
      have hbefore := h.le_before _ (not_le.mp hlt)
      have hover := h.lt_utc
      have hfirst := h.before_lt
      omega
    -- both instants are on the even stretch after the jump, and show the same
    have h1 := h.steady _ hafter hle
    have h2 := h.steady _ h.le_utc le_rfl
    omega

/-- Of two local times with one instant, the instant shows the later. -/
theorem localTime_utc_of_eq (hlt : l < l') (h : clock.utc l' = clock.utc l) :
    clock.localTime (clock.utc l) = l' := by
  rcases clock.shown_or_skipped l' with hshown | ⟨t₁, hskip'⟩
  · rw [← h, hshown]
  have hover := hskip'.lt_utc
  rcases clock.shown_or_skipped l with hshown | ⟨t₀, hskip⟩
  · rw [h, hshown] at hover
    omega
  · have hfirst : t₀ ≤ t₁ := by
      by_contra hlater
      have hbetween := hskip'.lt_after (t₀ - 1) (by omega)
      have hbefore := hskip.before_lt
      omega
    have hutc := hskip.utc_eq
    have hutc' := hskip'.utc_eq
    have hle' := hskip'.le_utc
    by_cases hsame : t₀ = t₁
    · subst hsame
      omega
    · -- the clock runs evenly from the first jump on, over the second
      have h1 := hskip.steady (t₁ - 1) (by omega) (by omega)
      have h2 := hskip.steady _ hskip.le_utc le_rfl
      omega

/-- **Two local times with one instant.** A local time and one further on stand for the same instant
exactly when the clock jumps from the one to the other. -/
theorem utc_add_iff {g : ℤ} (hg : 0 ≤ g) :
    clock.utc l = clock.utc (l + g) ↔ g = 0 ∨ clock.jump l = g := by
  unfold jump
  constructor
  · intro h
    rcases hg.eq_or_lt with hzero | hpos
    · exact .inl hzero.symm
    · have hshows := clock.localTime_utc_of_eq (lt_add_of_pos_right l hpos) h.symm
      exact .inr (by omega)
  · rintro (rfl | rfl)
    · rw [add_zero]
    · rw [add_sub_cancel, utc_localTime_utc]

/-! ### One change -/

/-- The clock that is set forward by `δ` at the instant `c`, or back when `δ` is negative. -/
def changeAt (c δ : ℤ) : Clock where
  localTime t := if t < c then t else t + δ
  utc l := if l < c + max δ 0 then l else l - δ
  utc_shown t := by
    split_ifs <;> omega
  utc_skipped l h := by
    have hskipped : c ≤ l ∧ l < c + δ := by
      have hbefore := h l
      have hafter := h (l - δ)
      split_ifs at hbefore hafter <;> omega
    refine ⟨c, ?_, ?_, ?_, ?_, ?_⟩
    · rw [if_pos (by omega)]
      omega
    · intro t ht
      rw [if_pos ht, if_pos (by omega)]
      omega
    · intro t ht
      rw [if_neg (by omega)]
      omega
    · rw [if_pos (by omega), if_pos (by omega)]
      omega
    · intro t ht _
      rw [if_neg (by omega), if_neg (by omega)]
      omega

end Clock

end GuardTime.Lib.LocalTime
