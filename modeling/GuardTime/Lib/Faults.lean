import Mathlib.Tactic
import GuardTime.Lib.Interleave

/-! # Programs with failing calls

`Prog` says what a program does when its calls answer. Here a program keeps its handlers visible, so
that any of its calls may also fail: a `step` is a part without handlers, all of whose calls are of
one kind `κ`, and a `read` cannot fail.

* `Code.prog`: the program when nothing but its own calls fails;
* `Code.Runs`: its executions, with the kinds of the calls that fail in them;
* `Code.Meets`: what every execution ends with, one rule for each construct;
* `Code.Each`, `Runs.rel`: what every call does, the executions do;
* `Code.Loud`, `Runs.error_iff`: which failures reach the caller. -/

namespace GuardTime.Lib.Faults

open GuardTime.Lib.Program GuardTime.Lib.Interleave

/-- A program with its handlers. -/
inductive Code (σ ε κ : Type) : Type → Type 1 where
  | ret {α : Type} (r : Except ε α) : Code σ ε κ α
  | read {α : Type} (f : σ → α) : Code σ ε κ α
  | step {α : Type} (kind : κ) (p : Prog σ ε α) : Code σ ε κ α
  | bind {α β : Type} (c : Code σ ε κ α) (f : α → Code σ ε κ β) : Code σ ε κ β
  | handle {α : Type} (c : Code σ ε κ α) (h : ε → Code σ ε κ α) : Code σ ε κ α

variable {σ ε κ α β : Type}

/-- In the run from `s`, a call fails in the state `s'`. -/
def Fails : Prog σ ε α → σ → σ → Prop
  | .ret _, _, _ => False
  | .act u k, s, s' => s' = s ∨ Fails (k s) (u s) s'

namespace Code

/-- The program. -/
def prog {α : Type} : Code σ ε κ α → Prog σ ε α
  | ret r => .ret r
  | read f => Prog.read f
  | step _ p => p
  | bind c f => c.prog >>= fun a => (f a).prog
  | handle c h => c.prog.catchErr fun e => (h e).prog

theorem prog_ite {c : Prop} [Decidable c] {a b : Code σ ε κ α} {p q : Prog σ ε α}
    (ha : a.prog = p) (hb : b.prog = q) :
    (if c then a else b : Code σ ε κ α).prog = if c then p else q := by
  split_ifs
  · exact ha
  · exact hb

/-- The body for each element in turn. -/
def forEach : List β → (β → Code σ ε κ Unit) → Code σ ε κ Unit
  | [], _ => ret (.ok ())
  | b :: bs, f => bind (f b) fun _ => forEach bs f

/-- **Executions**: from `s` the program may end in `r` and `s'` while calls of the kinds `l` fail.
A call of a step fails by itself, or it is not made and the step ends in an error. -/
def Runs {α : Type} : Code σ ε κ α → σ → List κ → Except ε α → σ → Prop
  | ret r, s, l, r', s' => l = [] ∧ r' = r ∧ s' = s
  | read f, s, l, r', s' => l = [] ∧ r' = .ok (f s) ∧ s' = s
  | step kind p, s, l, r, s' =>
    (∃ a, p.run s = (.ok a, s') ∧ r = .ok a ∧ l = []) ∨
    ∃ e, (p.run s = (.error e, s') ∨ Fails p s s') ∧ r = .error e ∧ l = [kind]
  | bind c f, s, l, r, s' =>
    (∃ l₁ l₂ a s₁, c.Runs s l₁ (.ok a) s₁ ∧ (f a).Runs s₁ l₂ r s' ∧ l = l₁ ++ l₂) ∨
    ∃ e, c.Runs s l (.error e) s' ∧ r = .error e
  | handle c h, s, l, r, s' =>
    (∃ a, c.Runs s l (.ok a) s' ∧ r = .ok a) ∨
    ∃ l₁ l₂ e s₁, c.Runs s l₁ (.error e) s₁ ∧ (h e).Runs s₁ l₂ r s' ∧ l = l₁ ++ l₂

/-- What the program does by itself is one of its executions. -/
theorem runs_run {α : Type} : ∀ (c : Code σ ε κ α) (s : σ),
    ∃ l, c.Runs s l (c.prog.run s).1 (c.prog.run s).2
  | ret _, _ => ⟨[], rfl, rfl, rfl⟩
  | read _, _ => ⟨[], rfl, rfl, rfl⟩
  | step kind p, s => by
    rcases hr : p.run s with ⟨e | a, s'⟩
    · exact ⟨[kind], .inr ⟨e, .inl (by simp [prog, hr]), by simp [prog, hr]⟩⟩
    · exact ⟨[], .inl ⟨a, by simp [prog, hr], by simp [prog, hr]⟩⟩
  | bind c f, s => by
    obtain ⟨l₁, h₁⟩ := runs_run c s
    rw [prog, Prog.run_bind]
    rcases hr : c.prog.run s with ⟨e | a, s₁⟩ <;> rw [hr] at h₁
    · exact ⟨l₁, .inr ⟨e, h₁, rfl⟩⟩
    · obtain ⟨l₂, h₂⟩ := runs_run (f a) s₁
      exact ⟨l₁ ++ l₂, .inl ⟨l₁, l₂, a, s₁, h₁, h₂, rfl⟩⟩
  | handle c h, s => by
    obtain ⟨l₁, h₁⟩ := runs_run c s
    rw [prog, Prog.run_catchErr]
    rcases hr : c.prog.run s with ⟨e | a, s₁⟩ <;> rw [hr] at h₁
    · obtain ⟨l₂, h₂⟩ := runs_run (h e) s₁
      exact ⟨l₁ ++ l₂, .inr ⟨l₁, l₂, e, s₁, h₁, h₂, rfl⟩⟩
    · exact ⟨l₁, .inl ⟨a, h₁, rfl⟩⟩

/-! ### Rules -/

/-- Every execution from `s` ends with `Q`. -/
def Meets (Q : List κ → Except ε α → σ → Prop) (c : Code σ ε κ α) (s : σ) : Prop :=
  ∀ l r s', c.Runs s l r s' → Q l r s'

section Meets
variable {Q : List κ → Except ε α → σ → Prop} {s : σ}

theorem Meets.mono {P : List κ → Except ε α → σ → Prop} {c : Code σ ε κ α} (h : c.Meets P s)
    (hQ : ∀ l r s', P l r s' → Q l r s') : c.Meets Q s := fun l r s' hr => hQ l r s' (h l r s' hr)

theorem Meets.ret {r : Except ε α} (h : Q [] r s) : (ret r : Code σ ε κ α).Meets Q s := by
  rintro l r' s' ⟨rfl, rfl, rfl⟩
  exact h

theorem Meets.bind {P : List κ → Except ε β → σ → Prop} {c : Code σ ε κ β}
    {f : β → Code σ ε κ α} (hc : c.Meets P s)
    (hok : ∀ l b s', P l (.ok b) s' → (f b).Meets (fun l' => Q (l ++ l')) s')
    (herr : ∀ l e s', P l (.error e) s' → Q l (.error e) s') : (bind c f).Meets Q s := by
  rintro l r s' (⟨l₁, l₂, b, s₁, h₁, h₂, rfl⟩ | ⟨e, h₁, rfl⟩)
  · exact hok l₁ b s₁ (hc _ _ _ h₁) l₂ r s' h₂
  · exact herr l e s' (hc _ _ _ h₁)

theorem Meets.read_bind {g : σ → β} {f : β → Code σ ε κ α} (h : (f (g s)).Meets Q s) :
    (Code.bind (Code.read g) f).Meets Q s := by
  rintro l r s' (⟨l₁, l₂, b, s₁, ⟨rfl, hb, rfl⟩, h₂, rfl⟩ | ⟨e, ⟨-, he, -⟩, -⟩)
  · cases hb
    exact h _ r s' h₂
  · cases he

/-- A single call is made, or it fails. -/
theorem Meets.call {kind : κ} {f : σ → Except ε α × σ}
    (hok : ∀ a s', f s = (.ok a, s') → Q [] (.ok a) s')
    (herr : ∀ e s', f s = (.error e, s') ∨ s' = s → Q [kind] (.error e) s') :
    (step kind (Prog.call f)).Meets Q s := by
  rintro l r s' (⟨a, hrun, rfl, rfl⟩ | ⟨e, hrun, rfl, rfl⟩)
  · exact hok a s' hrun
  · refine herr e s' (hrun.imp_right ?_)
    rintro (rfl | h)
    · rfl
    · exact h.elim

end Meets

/-- Every call of the program is in the relation. -/
def Each {α : Type} (R : σ → σ → Prop) : Code σ ε κ α → Prop
  | ret _ => True
  | read _ => True
  | step _ p => Calls R p
  | bind c f => c.Each R ∧ ∀ a, (f a).Each R
  | handle c h => c.Each R ∧ ∀ e, (h e).Each R

theorem Each.ite {R : σ → σ → Prop} {p : Prop} [Decidable p] {a b : Code σ ε κ α} (ha : a.Each R)
    (hb : b.Each R) : (if p then a else b : Code σ ε κ α).Each R := by
  split_ifs
  · exact ha
  · exact hb

section Rel
variable {R : σ → σ → Prop} (hrefl : ∀ s, R s s) (htrans : ∀ {s s' s''}, R s s' → R s' s'' →
  R s s'')
include hrefl htrans

theorem rel_run {p : Prog σ ε α} (h : Calls R p) (s : σ) : R s (p.run s).2 := by
  induction p generalizing s with
  | ret r => exact hrefl s
  | act u k ih => exact htrans (h s).1 (ih s (h s).2 (u s))

theorem rel_fails {p : Prog σ ε α} (h : Calls R p) {s s' : σ} (hf : Fails p s s') : R s s' := by
  induction p generalizing s with
  | ret r => exact hf.elim
  | act u k ih =>
    rcases hf with rfl | hf
    · exact hrefl s'
    · exact htrans (h s).1 (ih s (h s).2 hf)

/-- What every call does, every execution does. -/
theorem Runs.rel {α : Type} : ∀ {c : Code σ ε κ α} {s s' : σ} {l : List κ} {r : Except ε α},
    c.Each R → c.Runs s l r s' → R s s'
  | ret _, s, s', l, r, _, h => h.2.2 ▸ hrefl s
  | read _, s, s', l, r, _, h => h.2.2 ▸ hrefl s
  | step _ p, s, s', l, r, hp, h => by
    rcases h with ⟨a, hrun, -, -⟩ | ⟨e, hrun | hfails, -, -⟩
    · have := rel_run hrefl htrans hp s
      rwa [hrun] at this
    · have := rel_run hrefl htrans hp s
      rwa [hrun] at this
    · exact rel_fails hrefl htrans hp hfails
  | bind c f, s, s', l, r, hc, h => by
    rcases h with ⟨l₁, l₂, a, s₁, h₁, h₂, -⟩ | ⟨e, h₁, -⟩
    · exact htrans (Runs.rel hc.1 h₁) (Runs.rel (hc.2 a) h₂)
    · exact Runs.rel hc.1 h₁
  | handle c f, s, s', l, r, hc, h => by
    rcases h with ⟨a, h₁, -⟩ | ⟨l₁, l₂, e, s₁, h₁, h₂, -⟩
    · exact Runs.rel hc.1 h₁
    · exact htrans (Runs.rel hc.1 h₁) (Runs.rel (hc.2 e) h₂)

end Rel

/-! ### Which calls fail -/

/-- Every kind of call satisfies `K`. -/
def Kinds {α : Type} (K : κ → Prop) : Code σ ε κ α → Prop
  | ret _ => True
  | read _ => True
  | step kind _ => K kind
  | bind c f => c.Kinds K ∧ ∀ a, (f a).Kinds K
  | handle c h => c.Kinds K ∧ ∀ e, (h e).Kinds K

theorem Kinds.mono {α : Type} {K K' : κ → Prop} (hK : ∀ kind, K kind → K' kind) :
    ∀ {c : Code σ ε κ α}, c.Kinds K → c.Kinds K'
  | ret _, _ => trivial
  | read _, _ => trivial
  | step kind _, h => hK kind h
  | bind _ _, h => ⟨h.1.mono hK, fun a => (h.2 a).mono hK⟩
  | handle _ _, h => ⟨h.1.mono hK, fun e => (h.2 e).mono hK⟩

theorem Kinds.ite {K : κ → Prop} {p : Prop} [Decidable p] {a b : Code σ ε κ α} (ha : a.Kinds K)
    (hb : b.Kinds K) : (if p then a else b : Code σ ε κ α).Kinds K := by
  split_ifs
  · exact ha
  · exact hb

theorem Runs.kind {α : Type} {K : κ → Prop} : ∀ {c : Code σ ε κ α} {s s' : σ} {l : List κ}
    {r : Except ε α}, c.Kinds K → c.Runs s l r s' → ∀ kind ∈ l, K kind
  | ret _, s, s', l, r, _, h => by
    obtain ⟨rfl, -⟩ := h
    simp
  | read _, s, s', l, r, _, h => by
    obtain ⟨rfl, -⟩ := h
    simp
  | step k p, s, s', l, r, hk, h => by
    rcases h with ⟨a, -, -, rfl⟩ | ⟨e, -, -, rfl⟩
    · simp
    · intro kind hmem
      rw [List.mem_singleton.mp hmem]
      exact hk
  | bind c f, s, s', l, r, hc, h => by
    rcases h with ⟨l₁, l₂, a, s₁, h₁, h₂, rfl⟩ | ⟨e, h₁, -⟩
    · intro kind hmem
      rcases List.mem_append.mp hmem with hmem | hmem
      · exact Runs.kind hc.1 h₁ kind hmem
      · exact Runs.kind (hc.2 a) h₂ kind hmem
    · exact Runs.kind hc.1 h₁
  | handle c f, s, s', l, r, hc, h => by
    rcases h with ⟨a, h₁, -⟩ | ⟨l₁, l₂, e, s₁, h₁, h₂, rfl⟩
    · exact Runs.kind hc.1 h₁
    · intro kind hmem
      rcases List.mem_append.mp hmem with hmem | hmem
      · exact Runs.kind hc.1 h₁ kind hmem
      · exact Runs.kind (hc.2 e) h₂ kind hmem

/-- The program throws nothing of its own, and of its calls exactly those with `K` are outside
handlers. -/
def Loud {α : Type} (K : κ → Prop) : Code σ ε κ α → Prop
  | ret r => ∃ a, r = .ok a
  | read _ => True
  | step kind _ => K kind
  | bind c f => c.Loud K ∧ ∀ a, (f a).Loud K
  | handle c h => c.Kinds (fun kind => ¬ K kind) ∧ ∀ e, ∃ a, h e = ret (.ok a)

theorem Loud.ite {K : κ → Prop} {p : Prop} [Decidable p] {a b : Code σ ε κ α} (ha : a.Loud K)
    (hb : b.Loud K) : (if p then a else b : Code σ ε κ α).Loud K := by
  split_ifs
  · exact ha
  · exact hb

/-- **The errors of a program** are those of its calls outside handlers. -/
theorem Runs.error_iff {α : Type} {K : κ → Prop} : ∀ {c : Code σ ε κ α} {s s' : σ} {l : List κ}
    {r : Except ε α}, c.Loud K → c.Runs s l r s' → ((∃ e, r = .error e) ↔ ∃ kind ∈ l, K kind)
  | ret _, s, s', l, r, hc, h => by
    obtain ⟨a, rfl⟩ := hc
    obtain ⟨rfl, rfl, -⟩ := h
    simp
  | read f, s, s', l, r, _, h => by
    obtain ⟨rfl, rfl, -⟩ := h
    simp
  | step k p, s, s', l, r, hk, h => by
    rcases h with ⟨a, -, rfl, rfl⟩ | ⟨e, -, rfl, rfl⟩
    · simp
    · exact ⟨fun _ => ⟨k, List.mem_singleton_self k, hk⟩, fun _ => ⟨e, rfl⟩⟩
  | bind c f, s, s', l, r, hc, h => by
    rcases h with ⟨l₁, l₂, a, s₁, h₁, h₂, rfl⟩ | ⟨e, h₁, rfl⟩
    · have hfirst : ¬ ∃ kind ∈ l₁, K kind := by
        rw [← Runs.error_iff hc.1 h₁]
        rintro ⟨e, he⟩
        cases he
      rw [Runs.error_iff (hc.2 a) h₂]
      constructor
      · rintro ⟨kind, hmem, hK⟩
        exact ⟨kind, List.mem_append_right _ hmem, hK⟩
      · rintro ⟨kind, hmem, hK⟩
        rcases List.mem_append.mp hmem with hmem | hmem
        · exact absurd ⟨kind, hmem, hK⟩ hfirst
        · exact ⟨kind, hmem, hK⟩
    · rw [← Runs.error_iff hc.1 h₁]
      exact ⟨fun _ => ⟨e, rfl⟩, fun _ => ⟨e, rfl⟩⟩
  | handle c f, s, s', l, r, hc, h => by
    rcases h with ⟨a, h₁, rfl⟩ | ⟨l₁, l₂, e, s₁, h₁, h₂, rfl⟩
    · have hquiet := Runs.kind hc.1 h₁
      constructor
      · rintro ⟨e, he⟩
        cases he
      · rintro ⟨kind, hmem, hK⟩
        exact absurd hK (hquiet kind hmem)
    · have hquiet := Runs.kind hc.1 h₁
      obtain ⟨a, ha⟩ := hc.2 e
      rw [ha] at h₂
      obtain ⟨rfl, rfl, -⟩ := h₂
      constructor
      · rintro ⟨e, he⟩
        cases he
      · rintro ⟨kind, hmem, hK⟩
        rw [List.append_nil] at hmem
        exact absurd hK (hquiet kind hmem)

/-! ### Chosen failures -/

/-- The run of `p` with the error `e` in place of its call number `n`. -/
def cut (e : ε) : ℕ → Prog σ ε α → σ → Except ε α × σ
  | _, .ret r, s => (r, s)
  | 0, .act _ _, s => (.error e, s)
  | n + 1, .act u k, s => cut e n (k s) (u s)

theorem cut_cases (e : ε) : ∀ (n : ℕ) (p : Prog σ ε α) (s : σ),
    cut e n p s = p.run s ∨ (cut e n p s).1 = .error e ∧ Fails p s (cut e n p s).2
  | n, .ret r, s => .inl (by cases n <;> rfl)
  | 0, .act u k, s => .inr ⟨rfl, .inl rfl⟩
  | n + 1, .act u k, s => by
    rcases cut_cases e n (k s) (u s) with h | ⟨hr, hf⟩
    · exact .inl h
    · exact .inr ⟨hr, .inr hf⟩

/-- The kind, if the result is an error. -/
def failing (kind : κ) : Except ε α → List κ
  | .ok _ => []
  | .error _ => [kind]

/-- The execution in which, for the kinds chosen by `faults`, a call is replaced by an error. -/
def exec {α : Type} (faults : κ → Option (ℕ × ε)) : Code σ ε κ α → σ → List κ × Except ε α × σ
  | ret r, s => ([], r, s)
  | read f, s => ([], .ok (f s), s)
  | step kind p, s =>
    match faults kind with
    | none => (failing kind (p.run s).1, p.run s)
    | some (n, e) => (failing kind (cut e n p s).1, cut e n p s)
  | bind c f, s =>
    match c.exec faults s with
    | (l, .ok a, s') => (l ++ ((f a).exec faults s').1, ((f a).exec faults s').2)
    | (l, .error e, s') => (l, .error e, s')
  | handle c h, s =>
    match c.exec faults s with
    | (l, .ok a, s') => (l, .ok a, s')
    | (l, .error e, s') => (l ++ ((h e).exec faults s').1, ((h e).exec faults s').2)

theorem runs_step {kind : κ} {p : Prog σ ε α} {s s' : σ} {r : Except ε α}
    (h : p.run s = (r, s') ∨ (∃ e, r = .error e) ∧ Fails p s s') :
    (step kind p).Runs s (failing kind r) r s' := by
  rcases r with e | a
  · refine .inr ⟨e, ?_, rfl, rfl⟩
    rcases h with h | ⟨-, hf⟩
    · exact .inl h
    · exact .inr hf
  · rcases h with h | ⟨⟨e, he⟩, -⟩
    · exact .inl ⟨a, h, rfl, rfl⟩
    · cases he

theorem runs_exec {α : Type} (faults : κ → Option (ℕ × ε)) : ∀ (c : Code σ ε κ α) (s : σ),
    c.Runs s (c.exec faults s).1 (c.exec faults s).2.1 (c.exec faults s).2.2
  | ret _, _ => ⟨rfl, rfl, rfl⟩
  | read _, _ => ⟨rfl, rfl, rfl⟩
  | step kind p, s => by
    rw [exec]
    rcases faults kind with _ | ⟨n, e⟩
    · exact runs_step (.inl rfl)
    · refine runs_step ?_
      rcases cut_cases e n p s with h | ⟨hr, hf⟩
      · exact .inl h.symm
      · exact .inr ⟨⟨e, hr⟩, hf⟩
  | bind c f, s => by
    have h₁ := runs_exec faults c s
    rw [exec]
    rcases hr : c.exec faults s with ⟨l, e | a, s₁⟩ <;> rw [hr] at h₁
    · exact .inr ⟨e, h₁, rfl⟩
    · exact .inl ⟨l, _, a, s₁, h₁, runs_exec faults (f a) s₁, rfl⟩
  | handle c h, s => by
    have h₁ := runs_exec faults c s
    rw [exec]
    rcases hr : c.exec faults s with ⟨l, e | a, s₁⟩ <;> rw [hr] at h₁
    · exact .inr ⟨l, _, e, s₁, h₁, runs_exec faults (h e) s₁, rfl⟩
    · exact .inl ⟨a, h₁, rfl⟩

end Code

end GuardTime.Lib.Faults
