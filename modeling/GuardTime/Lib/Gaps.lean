import Mathlib.Tactic

/-! # Entries with gaps

A log of timed entries, some of which have a key. It is spaced when entries of the same key are more
than `d` apart. An entry that is only made when none of its key has been made for `d` keeps a log
spaced (`Spaced.add`), and then at most one of a key is in any window of length `d`
(`Spaced.countP_le_one`). -/

namespace GuardTime.Lib.Gaps

variable {α κ : Type} {time : α → ℤ} {key : α → Option κ} {d : ℤ} {l : List α}

/-- Entries of the same key are more than `d` apart. -/
def Spaced (time : α → ℤ) (key : α → Option κ) (d : ℤ) (l : List α) : Prop :=
  l.Pairwise fun a b => ∀ k, key a = some k → key b = some k → d < |time b - time a|

theorem Spaced.sublist {l' : List α} (h : Spaced time key d l) (hsub : l'.Sublist l) :
    Spaced time key d l' := List.Pairwise.sublist hsub h

/-- A change of entries that keeps keys and times. -/
theorem Spaced.map {f : α → α} (h : Spaced time key d l) (htime : ∀ a, time (f a) = time a)
    (hkey : ∀ a, key (f a) = key a) : Spaced time key d (l.map f) := by
  refine List.pairwise_map.mpr (h.imp fun {a b} hab k ha hb => ?_)
  rw [hkey] at ha hb
  rw [htime, htime]
  exact hab k ha hb

/-- A new entry after a gap. -/
theorem Spaced.add {b : α} (h : Spaced time key d l)
    (hgap : ∀ k, key b = some k → ∀ a ∈ l, key a = some k → time a < time b - d) :
    Spaced time key d (l ++ [b]) := by
  refine List.pairwise_append.mpr ⟨h, List.pairwise_singleton _ b, fun a ha b' hb' k hka hkb => ?_⟩
  obtain rfl := List.mem_singleton.mp hb'
  have hlt := hgap k hkb a ha hka
  exact lt_of_lt_of_le (by omega) (le_abs_self _)

/-- **At most one in a window.** -/
theorem Spaced.countP_le_one [DecidableEq κ] (h : Spaced time key d l) (k : κ) (t : ℤ) :
    l.countP (fun a => key a = some k ∧ t ≤ time a ∧ time a ≤ t + d) ≤ 1 := by
  induction l with
  | nil => simp
  | cons a l ih =>
    obtain ⟨ha, hl⟩ := List.pairwise_cons.mp h
    rw [List.countP_cons]
    split_ifs with hin
    · have hnone : l.countP (fun a => key a = some k ∧ t ≤ time a ∧ time a ≤ t + d) = 0 := by
        refine List.countP_eq_zero.mpr fun b hb hin' => ?_
        simp only [decide_eq_true_eq] at hin hin'
        have hfar := ha b hb k hin.1 hin'.1
        have hnear : |time b - time a| ≤ d := abs_le.mpr ⟨by omega, by omega⟩
        exact absurd hfar (not_lt.mpr hnear)
      rw [hnone]
    · exact ih hl

end GuardTime.Lib.Gaps
