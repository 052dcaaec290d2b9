import Mathlib.Tactic

/-! # Runs of a step function

A run folds a step function over the events that happen one after the other. A property that holds
at the start holds in every state of the run if every step meets a condition that keeps it
(`foldl_of_steps`); where a step keeps the property only under the condition, this is an equivalence
(`foldl_iff_steps`). -/

namespace GuardTime.Lib.Runs

variable {σ η : Type} {step : σ → η → σ} {I : σ → Prop} {C : σ → η → Prop}

/-- Every event of the run meets the condition in the state it finds. -/
def Steps (step : σ → η → σ) (C : σ → η → Prop) (s : σ) (es : List η) : Prop :=
  ∀ es₁ e es₂, es = es₁ ++ e :: es₂ → C (es₁.foldl step s) e

theorem steps_nil (s : σ) : Steps step C s [] := by
  intro es₁ e es₂ h
  simp at h

theorem steps_cons {s : σ} {e : η} {es : List η} :
    Steps step C s (e :: es) ↔ C s e ∧ Steps step C (step s e) es := by
  constructor
  · intro h
    refine ⟨h [] e es rfl, fun es₁ e' es₂ he => ?_⟩
    exact h (e :: es₁) e' es₂ (by rw [he]; rfl)
  · rintro ⟨hC, h⟩ es₁ e' es₂ he
    rcases es₁ with _ | ⟨e₁, es₁⟩
    · obtain ⟨rfl, rfl⟩ := List.cons.inj he
      exact hC
    · obtain ⟨rfl, rfl⟩ := List.cons.inj he
      exact h es₁ e' es₂ rfl

theorem Steps.of_append {s : σ} {es es' : List η} (h : Steps step C s (es ++ es')) :
    Steps step C s es := by
  intro es₁ e es₂ he
  exact h es₁ e (es₂ ++ es') (by rw [he, List.append_assoc]; rfl)

/-- What every step under the condition keeps holds at the end. -/
theorem foldl_of_steps (hstep : ∀ s e, I s → C s e → I (step s e)) : ∀ {es : List η} {s : σ},
    I s → Steps step C s es → I (es.foldl step s)
  | [], _, hs, _ => hs
  | e :: es, s, hs, h => by
    obtain ⟨hC, h⟩ := steps_cons.mp h
    exact foldl_of_steps (s := step s e) hstep (hstep s e hs hC) h

/-- **Exact conditions.** Where a step keeps the property exactly under the condition, the property
holds in every state of the run exactly when every event meets the condition. -/
theorem foldl_iff_steps (hstep : ∀ s e, I s → (I (step s e) ↔ C s e)) : ∀ {es : List η} {s : σ},
    I s → ((∀ es₁, es₁ <+: es → I (es₁.foldl step s)) ↔ Steps step C s es)
  | [], s, hs => by
    refine ⟨fun _ => steps_nil s, fun _ es₁ h => ?_⟩
    rw [List.prefix_nil.mp h]
    exact hs
  | e :: es, s, hs => by
    rw [steps_cons, ← hstep s e hs]
    constructor
    · intro h
      have hI : I (step s e) := h [e] (by simp)
      refine ⟨hI, (foldl_iff_steps hstep hI).mp fun es₁ hes => ?_⟩
      exact h (e :: es₁) (by simpa using hes)
    · rintro ⟨hI, h⟩ es₁ hes
      rcases es₁ with _ | ⟨e₁, es₁⟩
      · exact hs
      · obtain ⟨rfl, hes'⟩ := List.cons_prefix_cons.mp hes
        exact (foldl_iff_steps hstep hI).mpr h es₁ hes'

end GuardTime.Lib.Runs
