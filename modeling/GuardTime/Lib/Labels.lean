import Mathlib.Tactic

/-! # Names made of labels

A name is a list of labels put together with a separator `c`, such as the dots of a host name.
`Below` says that a name has another one as its end, after a separator; `mem_ends_iff` says what the
ends of a name with at least two labels are. -/

namespace GuardTime.Lib.Labels

variable {α : Type} {c : α} {d q : List α}

/-- The name `q` has more labels than `d` and ends with those of `d`. -/
def Below (c : α) (q d : List α) : Prop := ∃ p, q = p ++ c :: d

theorem Below.length_lt (h : Below c q d) : d.length < q.length := by
  obtain ⟨p, rfl⟩ := h
  simp only [List.length_append, List.length_cons]
  omega

theorem below_iff_suffix : Below c q d ↔ c :: d <:+ q :=
  ⟨fun ⟨p, h⟩ => ⟨p, h.symm⟩, fun ⟨p, h⟩ => ⟨p, h.symm⟩⟩

/-! ### Splitting and putting together -/

theorem intercalate_append {ls ms : List (List α)} (hl : ls ≠ []) (hm : ms ≠ []) :
    [c].intercalate (ls ++ ms) = [c].intercalate ls ++ c :: [c].intercalate ms := by
  induction ls with
  | nil => exact absurd rfl hl
  | cons l ls ih =>
    rcases ls with _ | ⟨l', ls⟩
    · rw [List.singleton_append, List.intercalate_cons_of_ne_nil hm, List.intercalate_singleton]
      simp
    · have h := ih (by simp)
      have hne : l' :: ls ++ ms ≠ [] := by simp
      have hne' : l' :: ls ≠ [] := by simp
      rw [List.cons_append, List.intercalate_cons_of_ne_nil hne, h,
        List.intercalate_cons_of_ne_nil hne']
      simp only [List.append_assoc]

variable [DecidableEq α]

theorem length_splitOn_pos (q : List α) : 0 < (q.splitOn c).length :=
  List.length_pos_of_ne_nil (List.splitOn_ne_nil c q)

/-- A name has at least two labels when it has a separator. -/
theorem two_le_length_splitOn : 2 ≤ (q.splitOn c).length ↔ c ∈ q := by
  constructor
  · intro h
    by_contra hc
    rw [List.splitOn_eq_singleton hc] at h
    simp at h
  · intro h
    obtain ⟨p, r, rfl⟩ := List.append_of_mem h
    rw [List.splitOn_append_cons_self, List.length_append]
    have hp := length_splitOn_pos (c := c) p
    have hr := length_splitOn_pos (c := c) r
    omega

/-- **The ends of a name** with at least two labels: the name itself and what it is below. -/
theorem mem_ends_iff :
    (∃ i < (q.splitOn c).length - 1, d = [c].intercalate ((q.splitOn c).drop i)) ↔
    c ∈ d ∧ (d = q ∨ Below c q d) := by
  constructor
  · rintro ⟨i, hi, rfl⟩
    have hdrop : (q.splitOn c).drop i ≠ [] := by
      intro h
      have := congrArg List.length h
      simp only [List.length_drop, List.length_nil] at this
      omega
    rcases Nat.eq_zero_or_pos i with rfl | hpos
    · rw [List.drop_zero, List.intercalate_splitOn]
      exact ⟨two_le_length_splitOn.mp (by omega), .inl rfl⟩
    · have hcut : q = [c].intercalate ((q.splitOn c).take i) ++
          c :: [c].intercalate ((q.splitOn c).drop i) := by
        rw [← intercalate_append (by simp; omega) hdrop, List.take_append_drop,
          List.intercalate_splitOn]
      refine ⟨?_, .inr ⟨_, hcut⟩⟩
      -- the labels that are left are two at least
      obtain ⟨l, l', ls, hls⟩ : ∃ l l' ls, (q.splitOn c).drop i = l :: l' :: ls := by
        rcases hd : (q.splitOn c).drop i with _ | ⟨l, _ | ⟨l', ls⟩⟩
        · exact absurd hd hdrop
        · have := congrArg List.length hd
          simp only [List.length_drop, List.length_singleton] at this
          omega
        · exact ⟨l, l', ls, rfl⟩
      rw [hls, List.intercalate_cons_of_ne_nil (by simp)]
      simp
  · rintro ⟨hc, rfl | ⟨p, rfl⟩⟩
    · have htwo := two_le_length_splitOn.mpr hc
      exact ⟨0, by omega, by simp⟩
    · have htwo := two_le_length_splitOn.mpr hc
      refine ⟨(p.splitOn c).length, ?_, ?_⟩
      · rw [List.splitOn_append_cons_self, List.length_append]
        omega
      · rw [List.splitOn_append_cons_self, List.drop_left, List.intercalate_splitOn]

/-! ### Labels with separators in them -/

end GuardTime.Lib.Labels
