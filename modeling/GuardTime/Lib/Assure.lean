import Mathlib.Tactic
import GuardTime.Lib.Interleave

/-! # What a program assures among others

A program that runs beside others finds, at each of its calls, whatever state they have left. If all
of them keep an invariant, every call may rely on it. `Assures I P p` says so of one program: each
of its calls keeps `I` where it finds `I`, and a value it returns has `P`.

* the rules follow the constructs of `Prog`, a read passing on what `I` says about its result;
* `Pool.assured`: a pool of such programs keeps the invariant at all times. -/

namespace GuardTime.Lib.Interleave

open GuardTime.Lib.Program

variable {τ σ ε α β : Type}

/-- Each call keeps `I` where it finds it, and what is returned has `P`. -/
def Assures (I : σ → Prop) (P : α → Prop) : Prog σ ε α → Prop
  | .ret r => ∀ a, r = .ok a → P a
  | .act u k => ∀ s, I s → I (u s) ∧ Assures I P (k s)

section Rules
variable {I : σ → Prop} {P : α → Prop} {Q : β → Prop}

theorem Assures.pure {a : α} (h : P a) : Assures I P (pure a : Prog σ ε α) := by
  rintro _ ⟨⟩
  exact h

theorem Assures.throw (e : ε) : Assures I P (Prog.throw e : Prog σ ε α) := by
  rintro _ ⟨⟩

theorem Assures.call {f : σ → Except ε α × σ} (h : ∀ s, I s → I (f s).2)
    (hP : ∀ s, I s → ∀ a, (f s).1 = .ok a → P a) : Assures I P (Prog.call f) :=
  fun s hs => ⟨h s hs, hP s hs⟩

theorem Assures.bind {p : Prog σ ε α} {f : α → Prog σ ε β} (hp : Assures I P p)
    (hf : ∀ a, P a → Assures I Q (f a)) : Assures I Q (p >>= f) := by
  induction p with
  | ret r =>
    cases r with
    | ok a => exact hf a (hp a rfl)
    | error e => rintro _ ⟨⟩
  | act u k ih => exact fun s hs => ⟨(hp s hs).1, ih s (hp s hs).2⟩

theorem Assures.mono {P' : α → Prop} {p : Prog σ ε α} (hp : Assures I P p)
    (h : ∀ a, P a → P' a) : Assures I P' p := by
  induction p with
  | ret r => exact fun a ha => h a (hp a ha)
  | act u k ih => exact fun s hs => ⟨(hp s hs).1, ih s (hp s hs).2⟩

theorem Assures.weaken {p : Prog σ ε α} (hp : Assures I P p) : Assures I (fun _ => True) p :=
  hp.mono fun _ _ => trivial

theorem Assures.catchErr {p : Prog σ ε α} {h : ε → Prog σ ε α} (hp : Assures I P p)
    (hh : ∀ e, Assures I P (h e)) : Assures I P (p.catchErr h) := by
  induction p with
  | ret r =>
    cases r with
    | ok a => exact hp
    | error e => exact hh e
  | act u k ih => exact fun s hs => ⟨(hp s hs).1, ih s (hp s hs).2⟩

theorem Assures.require (c : Prop) [Decidable c] (e : ε) :
    Assures I (fun _ => c) (Prog.require c e : Prog σ ε Unit) := by
  unfold Prog.require
  split_ifs with h
  · exact .pure h
  · exact .throw e

theorem Assures.orThrow (o : Option α) (e : ε) :
    Assures I (fun a => o = some a) (Prog.orThrow o e : Prog σ ε α) := by
  cases o with
  | none => exact .throw e
  | some a => exact .pure rfl

theorem Assures.ite {c : Prop} [Decidable c] {p q : Prog σ ε α} (hp : c → Assures I P p)
    (hq : ¬ c → Assures I P q) : Assures I P (if c then p else q) := by
  split_ifs with h
  · exact hp h
  · exact hq h

theorem Assures.when {c : Prop} [Decidable c] {p : Prog σ ε Unit}
    (hp : c → Assures I (fun _ => True) p) : Assures I (fun _ => True) (Prog.when c p) :=
  .ite hp fun _ => .pure trivial

theorem Assures.forEach {f : β → Prog σ ε Unit} : ∀ (bs : List β),
    (∀ b ∈ bs, Assures I (fun _ => True) (f b)) → Assures I (fun _ => True) (Prog.forEach bs f)
  | [], _ => .pure trivial
  | b :: bs, h => .bind (h b (by simp)) fun _ _ => .forEach bs fun b' hb' => h b' (by simp [hb'])

/-- Run alone, the program keeps the invariant. -/
theorem Assures.keeps {p : Prog σ ε α} (hp : Assures I P p) : Prog.Keeps I p := by
  induction p with
  | ret r => exact fun _ hs => hs
  | act u k ih => exact fun s hs => ih s (hp s hs).2 (u s) (hp s hs).1

/-- A program whose single calls are in a relation that keeps the invariant. -/
theorem Calls.assures {R : σ → σ → Prop} {p : Prog σ ε α} (hp : Calls R p)
    (h : ∀ s s', R s s' → I s → I s') : Assures I (fun _ => True) p := by
  induction p with
  | ret r => exact fun _ _ => trivial
  | act u k ih => exact fun s hs => ⟨h s _ (hp s).1 hs, ih s (hp s).2⟩

end Rules

theorem Calls.foldEach {R : σ → σ → Prop} {γ : Type} {f : γ → β → Prog σ ε γ} :
    ∀ (bs : List β) (c : γ), (∀ c, ∀ b ∈ bs, Calls R (f c b)) → Calls R (Prog.foldEach bs c f)
  | [], c, _ => .pure c
  | b :: bs, c, h =>
    .bind (h c b (by simp)) fun c' => .foldEach bs c' fun c b' hb' => h c b' (by simp [hb'])

/-- **What programs assure side by side.** The invariant holds at all times of a run whose requests
are of the kind `C`. -/
theorem Pool.assured {body : ℕ → τ → Prog σ ε α} {I : σ → Prop} {C : τ → Prop} {P : τ → α → Prop}
    {s : σ} {moves : ℕ → Move τ σ} (hbody : ∀ i t, C t → Assures I (P t) (body i t))
    (hstart : ∀ n t, moves n = .start t → C t)
    (hother : ∀ n f, moves n = .other f → ∀ s, I s → I (f s)) (hs : I s) (n : ℕ) :
    I ((Pool.idle s).after body moves n).state := by
  suffices h : ∀ n, I ((Pool.idle s).after body moves n).state ∧
      ∀ i p, ((Pool.idle s).after body moves n).prog i = some p → ∃ P, Assures I P p from (h n).1
  intro n
  induction n with
  | zero =>
    refine ⟨hs, fun i p hp => ?_⟩
    simp [Pool.after, Pool.idle, Pool.prog] at hp
  | succ n ih =>
    obtain ⟨hI, hprogs⟩ := ih
    have hmove := Pool.exec_moves body ((Pool.idle s).after body moves n) (moves n)
    rw [Pool.after]
    generalize hm : moves n = m at hmove
    generalize ((Pool.idle s).after body moves n).exec body m = P' at hmove
    cases hmove with
    | @start t j _ hj hstate hp =>
      rw [hstate, hp]
      refine ⟨hI, fun i p hi => ?_⟩
      by_cases hij : i = j
      · rw [hij, Function.update_self] at hi
        obtain rfl := Option.some.inj hi
        exact ⟨_, hbody j t (hstart n t hm)⟩
      · rw [Function.update_of_ne hij] at hi
        exact hprogs i p hi
    | @call j u k _ hj hstate hp =>
      obtain ⟨Q, hQ⟩ := hprogs j _ hj
      have hcall := hQ ((Pool.idle s).after body moves n).state hI
      rw [hstate, hp]
      refine ⟨hcall.1, fun i p hi => ?_⟩
      by_cases hij : i = j
      · rw [hij, Function.update_self] at hi
        obtain rfl := Option.some.inj hi
        exact ⟨Q, hcall.2⟩
      · rw [Function.update_of_ne hij] at hi
        exact hprogs i p hi
    | idle hi => exact ⟨hI, hprogs⟩
    | @other f _ hstate hp =>
      rw [hstate, hp]
      exact ⟨hother n f hm _ hI, hprogs⟩

/-- The pool depends on the moves so far only. -/
theorem Pool.after_congr {body : ℕ → τ → Prog σ ε α} {P : Pool τ σ ε α}
    {moves moves' : ℕ → Move τ σ} :
    ∀ {n : ℕ}, (∀ m < n, moves m = moves' m) → P.after body moves n = P.after body moves' n
  | 0, _ => rfl
  | n + 1, h => by
    rw [Pool.after, Pool.after, Pool.after_congr fun m hm => h m (by omega), h n (by omega)]

/-- The invariant holds at a time if the requests until then are of the kind `C`. -/
theorem Pool.assured_until {body : ℕ → τ → Prog σ ε α} {I : σ → Prop} {C : τ → Prop}
    {P : τ → α → Prop} {s : σ} {moves : ℕ → Move τ σ} {n : ℕ}
    (hbody : ∀ i t, C t → Assures I (P t) (body i t))
    (hstart : ∀ m < n, ∀ t, moves m = .start t → C t)
    (hother : ∀ m < n, ∀ f, moves m = .other f → ∀ s, I s → I (f s)) (hs : I s) :
    I ((Pool.idle s).after body moves n).state := by
  have hsame : ∀ m < n, moves m = if m < n then moves m else .call 0 := fun m hm => (if_pos hm).symm
  rw [Pool.after_congr hsame]
  refine Pool.assured hbody (fun m t ht => ?_) (fun m f hf => ?_) hs n
  · split_ifs at ht with hm
    exact hstart m hm t ht
  · split_ifs at hf with hm
    exact hother m hm f hf

end GuardTime.Lib.Interleave
