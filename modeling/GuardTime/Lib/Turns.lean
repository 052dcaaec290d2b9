import Mathlib.Tactic
import GuardTime.Lib.Interleave

/-! # The calls of one thread

When the threads of a run make their calls, and what their local states are there.

* `Makes`, `Called`, `First`, `Next`: the moves at which a thread makes its calls;
* `Traces.entered`: a local state that a thread does not start in was entered by one of its calls;
* `Traces.entered_by_last`: the local state a thread calls from is where its last call has led. -/

namespace GuardTime.Lib.Interleave

open GuardTime.Lib.Program

variable {τ σ ε α Q : Type}

section Moves
variable (pool : ℕ → Pool τ σ ε α) (moves : ℕ → Move τ σ)

/-- Thread `i` makes the call `u` at move `n`. -/
def Makes (i n : ℕ) (u : σ → σ) : Prop := moves n = .call i ∧ ∃ k, (pool n).prog i = some (.act u k)

/-- Thread `i` makes a call at move `n`. -/
def Called (i n : ℕ) : Prop := ∃ u, Makes pool moves i n u

/-- Thread `i` makes its first call at move `n`. -/
def First (i n : ℕ) : Prop := Called pool moves i n ∧ ∀ m < n, ¬ Called pool moves i m

/-- Thread `i` makes its next call after move `m` at move `n`. -/
def Next (i m n : ℕ) : Prop :=
  Called pool moves i n ∧ m < n ∧ ∀ m', m < m' → m' < n → ¬ Called pool moves i m'

end Moves

namespace Protocol

variable {A : Protocol τ σ ε α Q} {pool : ℕ → Pool τ σ ε α} {moves : ℕ → Move τ σ}
  {g : ℕ → Locals τ Q} {i m n : ℕ} {t : τ} {q q' : Q} {u : σ → σ} (h : A.Traces pool moves g)
include h

namespace Traces

/-- A call of a thread is a step of its protocol. -/
theorem of_makes (hc : Makes pool moves i n u) : ∃ t q q', g n i = some (t, q) ∧
    A.step t u q (pool n).state q' ∧ (pool (n + 1)).state = u (pool n).state ∧
      g (n + 1) i = some (t, q') := by
  obtain ⟨hm, k, hk⟩ := hc
  rcases (h.moved n).at i with ⟨-, hidle⟩ | ⟨t, -, hstart, -⟩ | ⟨t, q, q', u', k', -, hg, hp, hstep,
    hs, hg'⟩
  · exact absurd hk (hidle hm u k)
  · rw [hm] at hstart
    cases hstart
  · obtain ⟨rfl, -⟩ := Prog.act.inj (Option.some.inj (hk.symm.trans hp))
    exact ⟨t, q, q', hg, hstep, hs, hg'⟩

theorem start_state (hm : moves n = .start t) : (pool (n + 1)).state = (pool n).state := by
  have hmoved := h.moved n
  rw [hm] at hmoved
  generalize g (n + 1) = g' at hmoved
  cases hmoved with
  | start hi hs => exact hs

theorem other_state {f : σ → σ} (hm : moves n = .other f) :
    (pool (n + 1)).state = f (pool n).state := by
  have hmoved := h.moved n
  rw [hm] at hmoved
  generalize g (n + 1) = g' at hmoved
  cases hmoved with
  | other hs => exact hs

theorem idle_state (hm : moves n = .call i) (hn : ¬ Called pool moves i n) :
    (pool (n + 1)).state = (pool n).state := by
  have hmoved := h.moved n
  rw [hm] at hmoved
  generalize pool (n + 1) = P' at hmoved ⊢
  generalize g (n + 1) = g' at hmoved
  cases hmoved with
  | @call _ t q q' u k _ hi hp hstep hs => exact absurd ⟨u, hm, k, hp⟩ hn
  | idle hp => rfl

/-- Without a call of its own a thread stays where it is. -/
theorem stays (hg : g n i = some (t, q)) (hn : ¬ Called pool moves i n) :
    g (n + 1) i = some (t, q) := by
  rcases (h.moved n).at i with ⟨heq, -⟩ | ⟨t', hnone, -⟩ | ⟨t', q', q'', u, k, hm, -, hp, -⟩
  · rw [heq, hg]
  · rw [hnone] at hg
    cases hg
  · exact absurd ⟨u, hm, k, hp⟩ hn

/-- A thread is asked one thing for all time. -/
theorem tag_le (hg : g m i = some (t, q)) (hmn : m ≤ n) : ∃ q', g n i = some (t, q') := by
  induction n, hmn using Nat.le_induction with
  | base => exact ⟨q, hg⟩
  | succ n hmn ih =>
    obtain ⟨q', hq'⟩ := ih
    by_cases hn : Called pool moves i n
    · obtain ⟨u, hu⟩ := hn
      obtain ⟨t', q₀, q₁, hg₀, -, -, hg₁⟩ := h.of_makes hu
      rw [hq'] at hg₀
      cases hg₀
      exact ⟨q₁, hg₁⟩
    · exact ⟨q', h.stays hq' hn⟩

theorem tag_eq {t' : τ} (hg : g m i = some (t, q)) (hg' : g n i = some (t', q')) : t' = t := by
  rcases le_total m n with hmn | hnm
  · obtain ⟨q₁, hq₁⟩ := h.tag_le hg hmn
    rw [hq₁] at hg'
    cases hg'
    rfl
  · obtain ⟨q₁, hq₁⟩ := h.tag_le hg' hnm
    rw [hq₁] at hg
    cases hg
    rfl

/-- A thread that was not there has made no call. -/
theorem not_called_of_none (hg : g n i = none) (hmn : m ≤ n) : ¬ Called pool moves i m := by
  rintro ⟨u, hu⟩
  obtain ⟨t, q, q', hq, -⟩ := h.of_makes hu
  obtain ⟨q'', hq''⟩ := h.tag_le hq hmn
  rw [hq''] at hg
  cases hg

/-- Before its first call a thread is where it started. -/
theorem init_of_not_called (hne : ∀ m < n, ¬ Called pool moves i m) (hg : g n i = some (t, q)) :
    q = A.init t := by
  induction n generalizing q with
  | zero =>
    rw [h.zero] at hg
    cases hg
  | succ n ih =>
    have hne' : ∀ m < n, ¬ Called pool moves i m := fun m hm => hne m (by omega)
    rcases (h.moved n).at i with ⟨heq, -⟩ | ⟨t', -, -, hg'⟩ | ⟨t', q₀, q₁, u, k, hm, -, hp, -⟩
    · rw [heq] at hg
      exact ih hne' hg
    · rw [hg'] at hg
      cases hg
      rfl
    · exact absurd ⟨u, hm, k, hp⟩ (hne n (by omega))

/-- **Entering a local state.** A thread that is in a state it does not start in came there by one
of its calls and has not left it since. -/
theorem entered {P : Q → Prop} (hg : g n i = some (t, q)) (hq : P q) (hinit : ¬ P (A.init t)) :
    ∃ m < n, ∃ u q₀ q₁, Makes pool moves i m u ∧ g m i = some (t, q₀) ∧ ¬ P q₀ ∧
      A.step t u q₀ (pool m).state q₁ ∧ (pool (m + 1)).state = u (pool m).state ∧
        g (m + 1) i = some (t, q₁) ∧
        ∀ m', m < m' → m' ≤ n → ∃ q', g m' i = some (t, q') ∧ P q' := by
  induction n generalizing q with
  | zero =>
    rw [h.zero] at hg
    cases hg
  | succ n ih =>
    have hlast : ∀ {k : ℕ} {q₀ : Q},
        (∀ m', k < m' → m' ≤ n → ∃ q', g m' i = some (t, q') ∧ P q') → g (n + 1) i = some (t, q₀) →
        P q₀ → ∀ m', k < m' → m' ≤ n + 1 → ∃ q', g m' i = some (t, q') ∧ P q' := by
      intro k q₀ hk hg₀ hq₀ m' hm' hle
      rcases Nat.lt_or_eq_of_le hle with hlt | rfl
      · exact hk m' hm' (by omega)
      · exact ⟨q₀, hg₀, hq₀⟩
    rcases (h.moved n).at i with ⟨heq, -⟩ | ⟨t', -, -, hg'⟩ | ⟨t', q₀, q₁, u, k, hm, hg₀, hp, hstep,
      hs, hg₁⟩
    · rw [heq] at hg
      obtain ⟨m, hmn, u, q₀, q₁, hu, hg₀, hq₀, hstep, hs, hg₁, hall⟩ := ih hg hq
      exact ⟨m, by omega, u, q₀, q₁, hu, hg₀, hq₀, hstep, hs, hg₁, hlast hall (heq.trans hg) hq⟩
    · rw [hg'] at hg
      cases hg
      exact absurd hq hinit
    · rw [hg₁] at hg
      cases hg
      by_cases hq₀ : P q₀
      · obtain ⟨m, hmn, u', q₀', q₁', hu, hg₀', hq₀', hstep', hs', hg₁', hall⟩ := ih hg₀ hq₀
        exact ⟨m, by omega, u', q₀', q₁', hu, hg₀', hq₀', hstep', hs', hg₁', hlast hall hg₁ hq⟩
      · refine ⟨n, by omega, u, q₀, q, ⟨hm, k, hp⟩, hg₀, hq₀, hstep, hs, hg₁, fun m' hm' hle => ?_⟩
        obtain rfl : m' = n + 1 := by omega
        exact ⟨q, hg₁, hq⟩

/-- Where no call leads back to the initial local state, a thread in it has made no call. -/
theorem not_called_of_init (hinit : ∀ u q s, ¬ A.step t u q s (A.init t))
    (hg : g n i = some (t, A.init t)) (hmn : m < n) : ¬ Called pool moves i m := by
  rintro ⟨u, hu⟩
  obtain ⟨t', q, q', hq, hstep, -, hq'⟩ := h.of_makes hu
  obtain rfl := h.tag_eq hg hq'
  have hne : q' ≠ A.init t' := by
    rintro rfl
    exact hinit _ _ _ hstep
  have hall : ∀ n, m + 1 ≤ n → ∃ q₁, g n i = some (t', q₁) ∧ q₁ ≠ A.init t' := by
    intro n hle
    induction n, hle using Nat.le_induction with
    | base => exact ⟨q', hq', hne⟩
    | succ n hle ih =>
      obtain ⟨q₁, hq₁, hne₁⟩ := ih
      by_cases hn : Called pool moves i n
      · obtain ⟨u', hu'⟩ := hn
        obtain ⟨t₂, q₂, q₃, hq₂, hstep₂, -, hq₃⟩ := h.of_makes hu'
        obtain rfl := h.tag_eq hq₁ hq₂
        refine ⟨q₃, hq₃, ?_⟩
        rintro rfl
        exact hinit _ _ _ hstep₂
      · exact ⟨q₁, h.stays hq₁ hn, hne₁⟩
  obtain ⟨q₁, hq₁, hne₁⟩ := hall n hmn
  rw [hg] at hq₁
  cases hq₁
  exact hne₁ rfl

/-- A thread that calls from a local state which no call keeps entered it with its last call. -/
theorem entered_by_last (hg : g n i = some (t, q)) (hinit : q ≠ A.init t)
    (hmoves : ∀ u s, ¬ A.step t u q s q) (hn : Called pool moves i n) :
    ∃ m u q₀, Makes pool moves i m u ∧ g m i = some (t, q₀) ∧ A.step t u q₀ (pool m).state q ∧
      (pool (m + 1)).state = u (pool m).state ∧ Next pool moves i m n := by
  obtain ⟨m, hmn, u, q₀, q₁, hu, hg₀, -, hstep, hs, hg₁, hall⟩ :=
    h.entered (P := (· = q)) hg rfl (Ne.symm hinit)
  obtain ⟨q₂, hq₂, rfl⟩ := hall (m + 1) (by omega) (by omega)
  rw [hg₁] at hq₂
  cases hq₂
  refine ⟨m, u, q₀, hu, hg₀, hstep, hs, hn, hmn, fun m' hm' hlt => ?_⟩
  rintro ⟨u', hu'⟩
  obtain ⟨q₃, hq₃, rfl⟩ := hall m' hm' (by omega)
  obtain ⟨q₄, hq₄, rfl⟩ := hall (m' + 1) (by omega) (by omega)
  obtain ⟨t', q₅, q₆, hq₅, hstep', -, hq₆⟩ := h.of_makes hu'
  rw [hq₃] at hq₅
  cases hq₅
  rw [hq₄] at hq₆
  cases hq₆
  exact hmoves _ _ hstep'

end Traces

end Protocol

section Unique
variable {pool : ℕ → Pool τ σ ε α} {moves : ℕ → Move τ σ} {i m n n' : ℕ}

theorem First.unique (h : First pool moves i n) (h' : First pool moves i n') : n = n' := by
  have hle : ¬ n < n' := fun hlt => h'.2 n hlt h.1
  have hge : ¬ n' < n := fun hlt => h.2 n' hlt h'.1
  omega

end Unique

/-! ### Finite schedules -/

/-- The move is a call of thread `i`. -/
def Move.isCall (i : ℕ) : Move τ σ → Bool
  | .call j => j = i
  | _ => false

theorem not_called_of_isCall {pool : ℕ → Pool τ σ ε α} {moves : ℕ → Move τ σ} {i n : ℕ}
    (h : (moves n).isCall i = false) : ¬ Called pool moves i n := by
  rintro ⟨u, hm, -⟩
  simp [hm, Move.isCall] at h

/-- After the list nothing changes. -/
theorem state_of_le {ms : List (Move τ σ)} {n : ℕ} {body : ℕ → τ → Prog σ ε α} {s : σ}
    (hn : ms.length ≤ n) : ((Pool.idle s).after body (schedule ms) n).state =
      ((Pool.idle s).after body (schedule ms) ms.length).state := by
  induction n, hn using Nat.le_induction with
  | base => rfl
  | succ n hn ih =>
    have hnone := @prog_of_le τ σ ε α ms n body s hn
    have hmove := Pool.exec_moves body ((Pool.idle s).after body (schedule ms) n) (schedule ms n)
    rw [← ih, Pool.after]
    rw [schedule_of_le hn] at hmove ⊢
    generalize ((Pool.idle s).after body (schedule ms) n).exec body (.call ms.length) = P' at hmove
    cases hmove with
    | call hi hs hp =>
      rw [hnone] at hi
      cases hi
    | idle hi => rfl

end GuardTime.Lib.Interleave
