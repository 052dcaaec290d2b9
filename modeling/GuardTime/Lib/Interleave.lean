import Mathlib.Tactic
import GuardTime.Lib.Program

/-! # Interleavings

Any number of programs over one shared state, run side by side one call at a time. A schedule is a
sequence of moves: start a request, let a running thread make its next call, or let the surroundings
change the state. Threads are numbered in the order they are started and never removed, so a thread
that has returned still shows its result.

* `Pool.after`: the pool after the first `n` moves of a schedule;
* `Calls`, `Follows`: what every single call of a program does, in terms of local states of a
  thread;
* `Rest`, `Tracks`: the same, with an eye on what is left of the program;
* `Protocol.exists_locals`: when the programs follow a protocol, every run of the pool has local
  states that move by it, so that invariants need only look at these. -/

namespace GuardTime.Lib.Interleave

open GuardTime.Lib.Program

/-! ### Pools and schedules -/

/-- A thread: what was asked and what is left of its program. -/
structure Thread (τ σ ε α : Type) where
  tag : τ
  prog : Prog σ ε α

/-- The shared state and the threads, in the order they were started. -/
structure Pool (τ σ ε α : Type) where
  state : σ
  threads : List (Thread τ σ ε α)

/-- What may happen next. -/
inductive Move (τ σ : Type) where
  | start (t : τ)
  | call (i : ℕ)
  | other (f : σ → σ)

variable {τ σ ε α β Q : Type}

namespace Pool

/-- Nothing runs yet. -/
def idle (s : σ) : Pool τ σ ε α := ⟨s, []⟩

/-- What thread `i` was asked. -/
def tag (P : Pool τ σ ε α) (i : ℕ) : Option τ := P.threads[i]?.map Thread.tag

/-- What is left of thread `i`. -/
def prog (P : Pool τ σ ε α) (i : ℕ) : Option (Prog σ ε α) := P.threads[i]?.map Thread.prog

/-- What thread `i` has returned, once it has. -/
def result (P : Pool τ σ ε α) (i : ℕ) : Option (Except ε α) :=
  match P.threads[i]? with
  | some ⟨_, .ret r⟩ => some r
  | _ => none

theorem prog_of_result {P : Pool τ σ ε α} {i : ℕ} {r : Except ε α} (h : P.result i = some r) :
    P.prog i = some (.ret r) := by
  unfold result at h
  unfold prog
  rcases hθ : P.threads[i]? with _ | ⟨t, r' | ⟨u, k⟩⟩ <;> simp only [hθ] at h
  · cases h
  · cases h
    rfl
  · cases h

theorem result_of_prog {P : Pool τ σ ε α} {i : ℕ} {r : Except ε α} (h : P.prog i = some (.ret r)) :
    P.result i = some r := by
  unfold prog at h
  unfold result
  rcases hθ : P.threads[i]? with _ | θ <;> rw [hθ] at h
  · cases h
  · obtain ⟨t, p⟩ := θ
    cases h
    rfl

variable (body : ℕ → τ → Prog σ ε α)

/-- One move; a call of a thread that has returned, or was never started, does nothing. -/
def exec (P : Pool τ σ ε α) : Move τ σ → Pool τ σ ε α
  | .start t => { P with threads := P.threads ++ [⟨t, body P.threads.length t⟩] }
  | .call i =>
    match P.threads[i]? with
    | some ⟨t, .act u k⟩ => ⟨u P.state, P.threads.set i ⟨t, k P.state⟩⟩
    | _ => P
  | .other f => { P with state := f P.state }

/-- The pool after the first `n` moves. -/
def after (P : Pool τ σ ε α) (moves : ℕ → Move τ σ) : ℕ → Pool τ σ ε α
  | 0 => P
  | n + 1 => (P.after moves n).exec body (moves n)

/-- **What a move does** to the programs: a new one, one call of one of them, or nothing. -/
inductive Moves (P : Pool τ σ ε α) : Move τ σ → Pool τ σ ε α → Prop
  | start {t : τ} {i : ℕ} {P' : Pool τ σ ε α} (hi : P.prog i = none) (hs : P'.state = P.state)
    (hp : P'.prog = Function.update P.prog i (some (body i t))) : Moves P (.start t) P'
  | call {i : ℕ} {u : σ → σ} {k : σ → Prog σ ε α} {P' : Pool τ σ ε α}
    (hi : P.prog i = some (.act u k)) (hs : P'.state = u P.state)
    (hp : P'.prog = Function.update P.prog i (some (k P.state))) : Moves P (.call i) P'
  | idle {i : ℕ} (hi : ∀ u k, P.prog i ≠ some (.act u k)) : Moves P (.call i) P
  | other {f : σ → σ} {P' : Pool τ σ ε α} (hs : P'.state = f P.state) (hp : P'.prog = P.prog) :
    Moves P (.other f) P'

theorem exec_moves (P : Pool τ σ ε α) (m : Move τ σ) : Moves body P m (P.exec body m) := by
  cases m with
  | start t =>
    refine .start (i := P.threads.length) (by simp [prog]) rfl (funext fun j => ?_)
    by_cases hj : j = P.threads.length
    · subst hj
      rw [Function.update_self]
      simp [prog, exec]
    · rw [Function.update_of_ne hj]
      unfold prog exec
      rcases Nat.lt_or_gt_of_ne hj with hlt | hgt
      · simp only [List.getElem?_append_left hlt]
      · rw [List.getElem?_eq_none (by simp; omega), List.getElem?_eq_none (by omega)]
  | call i =>
    rcases hθ : P.threads[i]? with _ | ⟨t, r | ⟨u, k⟩⟩
    · have hexec : P.exec body (.call i) = P := by simp [exec, hθ]
      rw [hexec]
      exact .idle (by simp [prog, hθ])
    · have hexec : P.exec body (.call i) = P := by simp [exec, hθ]
      rw [hexec]
      exact .idle (by simp [prog, hθ])
    · have hexec : P.exec body (.call i) = ⟨u P.state, P.threads.set i ⟨t, k P.state⟩⟩ := by
        simp [exec, hθ]
      have hlt : i < P.threads.length := (List.getElem?_eq_some_iff.mp hθ).1
      rw [hexec]
      have hi : P.prog i = some (.act u k) := by simp [prog, hθ]
      refine .call hi rfl (funext fun j => ?_)
      by_cases hj : j = i
      · subst hj
        rw [Function.update_self]
        simp [prog, hlt]
      · rw [Function.update_of_ne hj]
        simp [prog, List.getElem?_set_ne (Ne.symm hj)]
  | other f => exact .other rfl rfl

variable {body}

/-- A thread that is not called stays where it is. -/
theorem Moves.prog_of_ne {P P' : Pool τ σ ε α} {m : Move τ σ} {i : ℕ} {p : Prog σ ε α}
    (h : Moves body P m P') (hne : m ≠ .call i) (hp : P.prog i = some p) : P'.prog i = some p := by
  cases h with
  | @start t j _ hj hs hp' =>
    have hij : i ≠ j := by
      rintro rfl
      rw [hj] at hp
      cases hp
    rw [hp', Function.update_of_ne hij, hp]
  | @call j u k _ hj hs hp' =>
    have hij : i ≠ j := by
      rintro rfl
      exact hne rfl
    rw [hp', Function.update_of_ne hij, hp]
  | idle => exact hp
  | other hs hp' => rw [hp', hp]

/-- A thread that is called goes on. -/
theorem Moves.prog_of_call {P P' : Pool τ σ ε α} {i : ℕ} {u : σ → σ} {k : σ → Prog σ ε α}
    (h : Moves body P (.call i) P') (hp : P.prog i = some (.act u k)) :
    P'.prog i = some (k P.state) := by
  cases h with
  | @call _ u' k' _ hi hs hp' =>
    obtain ⟨rfl, rfl⟩ := Prog.act.inj (Option.some.inj (hi.symm.trans hp))
    rw [hp', Function.update_self]
  | idle hi => exact absurd hp (hi u k)

/-- Between two of its calls, a thread stays where it is. -/
theorem prog_between {s : σ} {moves : ℕ → Move τ σ} {i a b : ℕ} {p : Prog σ ε α} (hab : a ≤ b)
    (hp : ((idle s).after body moves a).prog i = some p)
    (hne : ∀ m, a ≤ m → m < b → moves m ≠ .call i) :
    ((idle s).after body moves b).prog i = some p := by
  induction b, hab using Nat.le_induction with
  | base => exact hp
  | succ b hab ih =>
    have hb := ih fun m hm hlt => hne m hm (by omega)
    exact (exec_moves body _ _).prog_of_ne (hne b hab (by omega)) hb

end Pool

/-! ### Finite schedules -/

/-- The moves of a list, and then nothing: no list starts as many threads as it is long and calls
them too. -/
def schedule (ms : List (Move τ σ)) (n : ℕ) : Move τ σ := ms.getD n (.call ms.length)

section Schedule
variable {ms : List (Move τ σ)} {n : ℕ} {body : ℕ → τ → Prog σ ε α} {s : σ}

theorem schedule_of_le (h : ms.length ≤ n) : schedule ms n = .call ms.length := by
  rw [schedule, List.getD_eq_getElem?_getD, List.getElem?_eq_none h]
  rfl

theorem mem_of_schedule_other {f : σ → σ} (h : schedule ms n = .other f) : .other f ∈ ms := by
  rcases Nat.lt_or_ge n ms.length with hn | hn
  · rw [schedule, List.getD_eq_getElem?_getD, List.getElem?_eq_getElem hn, Option.getD_some] at h
    exact h ▸ List.getElem_mem hn
  · rw [schedule_of_le hn] at h
    cases h

theorem mem_of_schedule_start {t : τ} (h : schedule ms n = .start t) : .start t ∈ ms := by
  rcases Nat.lt_or_ge n ms.length with hn | hn
  · rw [schedule, List.getD_eq_getElem?_getD, List.getElem?_eq_getElem hn, Option.getD_some] at h
    exact h ▸ List.getElem_mem hn
  · rw [schedule_of_le hn] at h
    cases h

/-- In a schedule of requests and calls the surroundings never move. -/
theorem schedule_ne_other (h : ∀ f, .other f ∉ ms) (n : ℕ) (f : σ → σ) : schedule ms n ≠ .other f :=
  fun hf => h f (mem_of_schedule_other hf)

/-- So what is asked of their moves holds. -/
theorem forall_other_schedule {C : (σ → σ) → Prop} (h : ∀ f, .other f ∉ ms) (n : ℕ) (f : σ → σ)
    (hf : schedule ms n = .other f) : C f := absurd hf (schedule_ne_other h n f)

theorem length_after_le (n : ℕ) :
    ((Pool.idle s).after body (schedule ms) n).threads.length ≤ min n ms.length := by
  induction n with
  | zero => simp [Pool.after, Pool.idle]
  | succ n ih =>
    have hstep : ∀ (P : Pool τ σ ε α) m,
        (P.exec body m).threads.length ≤ P.threads.length + 1 := by
      intro P m
      cases m with
      | start t => simp [Pool.exec]
      | call i => simp only [Pool.exec]; split <;> simp
      | other f => simp [Pool.exec]
    have hcall : ∀ (P : Pool τ σ ε α) i, (P.exec body (.call i)).threads.length =
        P.threads.length := by
      intro P i
      simp only [Pool.exec]
      split <;> simp
    rw [Pool.after]
    rcases Nat.lt_or_ge n ms.length with hn | hn
    · have := hstep ((Pool.idle s).after body (schedule ms) n) (schedule ms n)
      omega
    · rw [schedule_of_le hn, hcall]
      omega

/-- After the list, only a thread that does not exist is called. -/
theorem prog_of_le (h : ms.length ≤ n) :
    ((Pool.idle s).after body (schedule ms) n).prog ms.length = none := by
  have hlen := @length_after_le τ σ ε α ms body s n
  rw [Pool.prog, List.getElem?_eq_none (by omega)]
  rfl

/-- What holds of the moves of the list, and of calls of threads that do not exist, holds of every
move. -/
theorem forall_schedule {C : Pool τ σ ε α → Move τ σ → Prop}
    (hidle : ∀ P i, P.prog i = none → C P (.call i))
    (h : ∀ n < ms.length, C ((Pool.idle s).after body (schedule ms) n) (schedule ms n)) (n : ℕ) :
    C ((Pool.idle s).after body (schedule ms) n) (schedule ms n) := by
  rcases Nat.lt_or_ge n ms.length with hn | hn
  · exact h n hn
  · rw [schedule_of_le hn]
    exact hidle _ _ (prog_of_le hn)

end Schedule

/-! ### Single calls -/

/-- Every call of the program is in the relation. -/
def Calls (R : σ → σ → Prop) : Prog σ ε α → Prop
  | .ret _ => True
  | .act u k => ∀ s, R s (u s) ∧ Calls R (k s)

section Calls
variable {R : σ → σ → Prop}

theorem Calls.pure (a : α) : Calls R (pure a : Prog σ ε α) := trivial

theorem Calls.call {f : σ → Except ε α × σ} (h : ∀ s, R s (f s).2) : Calls R (Prog.call f) :=
  fun s => ⟨h s, trivial⟩

theorem Calls.require (c : Prop) [Decidable c] (e : ε) :
    Calls R (Prog.require c e : Prog σ ε Unit) := by
  unfold Prog.require
  split_ifs <;> trivial

theorem Calls.orThrow (o : Option α) (e : ε) : Calls R (Prog.orThrow o e : Prog σ ε α) := by
  cases o <;> trivial

theorem Calls.bind {p : Prog σ ε β} {f : β → Prog σ ε α} (hp : Calls R p)
    (hf : ∀ b, Calls R (f b)) : Calls R (p >>= f) := by
  induction p with
  | ret r =>
    cases r with
    | ok b => exact hf b
    | error e => trivial
  | act u k ih => exact fun s => ⟨(hp s).1, ih s (hp s).2⟩

theorem Calls.catchErr {p : Prog σ ε α} {h : ε → Prog σ ε α} (hp : Calls R p)
    (hh : ∀ e, Calls R (h e)) : Calls R (p.catchErr h) := by
  induction p with
  | ret r =>
    cases r with
    | ok a => trivial
    | error e => exact hh e
  | act u k ih => exact fun s => ⟨(hp s).1, ih s (hp s).2⟩

theorem Calls.read (hR : ∀ s, R s s) (f : σ → α) : Calls R (Prog.read f : Prog σ ε α) :=
  .call hR

theorem Calls.forEach {f : β → Prog σ ε Unit} :
    ∀ (bs : List β), (∀ b ∈ bs, Calls R (f b)) → Calls R (Prog.forEach bs f)
  | [], _ => .pure ()
  | b :: bs, h => .bind (h b (by simp)) fun _ => .forEach bs fun b' hb' => h b' (by simp [hb'])

theorem Calls.mono {R' : σ → σ → Prop} {p : Prog σ ε α} (hp : Calls R p)
    (h : ∀ s s', R s s' → R' s s') : Calls R' p := by
  induction p with
  | ret r => trivial
  | act u k ih => exact fun s => ⟨h _ _ (hp s).1, ih s (hp s).2⟩

theorem Calls.ite {c : Prop} [Decidable c] {p p' : Prog σ ε α} (hp : Calls R p)
    (hp' : Calls R p') : Calls R (if c then p else p') := by
  split_ifs
  · exact hp
  · exact hp'

end Calls

/-! ### Local states -/

/-- From the local state `q`, every call `u` of the program takes a step of `S`, and the program
ends in a local state with `E`. -/
def Follows (S : (σ → σ) → Q → σ → Q → Prop) (E : Q → Except ε α → Prop) : Prog σ ε α → Q → Prop
  | .ret r, q => E q r
  | .act u k, q => ∀ s, ∃ q', S u q s q' ∧ Follows S E (k s) q'

section Follows
variable {S : (σ → σ) → Q → σ → Q → Prop} {E : Q → Except ε α → Prop} {q : Q}

theorem Follows.pure {a : α} (h : E q (.ok a)) : Follows S E (pure a) q := h

theorem Follows.call {f : σ → Except ε α × σ}
    (h : ∀ s, ∃ q', S (fun s => (f s).2) q s q' ∧ E q' (f s).1) : Follows S E (Prog.call f) q := h

theorem Follows.bind {p : Prog σ ε β} {f : β → Prog σ ε α} {F : Q → Except ε β → Prop}
    (hp : Follows S F p q) (hf : ∀ q' b, F q' (.ok b) → Follows S E (f b) q')
    (he : ∀ q' e, F q' (.error e) → E q' (.error e)) : Follows S E (p >>= f) q := by
  induction p generalizing q with
  | ret r =>
    cases r with
    | ok b => exact hf q b hp
    | error e => exact he q e hp
  | act u k ih =>
    intro s
    obtain ⟨q', hS, hk⟩ := hp s
    exact ⟨q', hS, ih s hk⟩

theorem Follows.catchErr {p : Prog σ ε α} {h : ε → Prog σ ε α} {F : Q → Except ε α → Prop}
    (hp : Follows S F p q) (hf : ∀ q' a, F q' (.ok a) → E q' (.ok a))
    (he : ∀ q' e, F q' (.error e) → Follows S E (h e) q') : Follows S E (p.catchErr h) q := by
  induction p generalizing q with
  | ret r =>
    cases r with
    | ok a => exact hf q a hp
    | error e => exact he q e hp
  | act u k ih =>
    intro s
    obtain ⟨q', hS, hk⟩ := hp s
    exact ⟨q', hS, ih s hk⟩

theorem Follows.ite {c : Prop} [Decidable c] {p p' : Prog σ ε α} (hp : c → Follows S E p q)
    (hp' : ¬ c → Follows S E p' q) : Follows S E (if c then p else p') q := by
  split_ifs with hc
  · exact hp hc
  · exact hp' hc

theorem Follows.require_bind {c : Prop} [Decidable c] {e : ε} {f : Unit → Prog σ ε α}
    (hf : c → Follows S E (f ()) q) (he : ¬ c → E q (.error e)) :
    Follows S E (Prog.require c e >>= f) q := by
  unfold Prog.require
  split_ifs with hc
  · exact hf hc
  · exact he hc

theorem Follows.orThrow_bind {o : Option β} {e : ε} {f : β → Prog σ ε α}
    (hf : ∀ b, o = some b → Follows S E (f b) q) (he : o = none → E q (.error e)) :
    Follows S E (Prog.orThrow o e >>= f) q := by
  cases o with
  | none => exact he rfl
  | some b => exact hf b rfl

theorem Follows.mono {p : Prog σ ε α} {F : Q → Except ε α → Prop} (hp : Follows S F p q)
    (h : ∀ q' r, F q' r → E q' r) : Follows S E p q := by
  induction p generalizing q with
  | ret r => exact h q r hp
  | act u k ih =>
    intro s
    obtain ⟨q', hS, hk⟩ := hp s
    exact ⟨q', hS, ih s hk⟩

/-- A program whose calls are all steps that keep a property of the local state. -/
theorem Follows.of_calls {p : Prog σ ε α} {R : σ → σ → Prop} {I : Q → Prop} (hp : Calls R p)
    (hq : I q) (hS : ∀ u q s, I q → (∀ s, R s (u s)) → ∃ q', S u q s q' ∧ I q') :
    Follows S (fun q' _ => I q') p q := by
  induction p generalizing q with
  | ret r => exact hq
  | act u k ih =>
    intro s
    obtain ⟨q', hstep, hq'⟩ := hS u q s hq fun s => (hp s).1
    exact ⟨q', hstep, ih s (hp s).2 hq'⟩

end Follows

/-! ### What is left of a program -/

/-- What is left of a program after some of its calls. -/
inductive Rest (p : Prog σ ε α) : Prog σ ε α → Prop
  | refl : Rest p p
  | call {u : σ → σ} {k : σ → Prog σ ε α} (s : σ) (h : Rest p (.act u k)) : Rest p (k s)

theorem Rest.head {u : σ → σ} {k : σ → Prog σ ε α} {s : σ} {p : Prog σ ε α} (h : Rest (k s) p) :
    Rest (.act u k) p := by
  induction h with
  | refl => exact .call s .refl
  | call s' _ ih => exact .call s' ih

/-- `Follows`, with a property of the local state and what is left of the program. -/
def Tracks (S : (σ → σ) → Q → σ → Q → Prop) (E : Q → Except ε α → Prop)
    (R : Q → Prog σ ε α → Prop) : Prog σ ε α → Q → Prop
  | .ret r, q => R q (.ret r) ∧ E q r
  | .act u k, q => R q (.act u k) ∧ ∀ s, ∃ q', S u q s q' ∧ Tracks S E R (k s) q'

section Tracks
variable {S : (σ → σ) → Q → σ → Q → Prop} {E : Q → Except ε α → Prop}
  {R : Q → Prog σ ε α → Prop} {q : Q}

theorem Tracks.here {p : Prog σ ε α} (h : Tracks S E R p q) : R q p := by
  cases p with
  | ret r => exact h.1
  | act u k => exact h.1

theorem Follows.tracks {I : Q → Prop} {p : Prog σ ε α} (hp : Follows S E p q) (hq : I q)
    (hS : ∀ u q s q', I q → S u q s q' → I q') (hR : ∀ q p', I q → Rest p p' → R q p') :
    Tracks S E R p q := by
  induction p generalizing q with
  | ret r => exact ⟨hR q _ hq .refl, hp⟩
  | act u k ih =>
    refine ⟨hR q _ hq .refl, fun s => ?_⟩
    obtain ⟨q', hstep, hk⟩ := hp s
    exact ⟨q', hstep, ih s hk (hS u q s q' hq hstep) fun q p' hq hp' => hR q p' hq hp'.head⟩

/-- A first part that stays in its local state. -/
theorem Calls.tracks_bind {T : σ → σ → Prop} {p : Prog σ ε β} {f : β → Prog σ ε α}
    (hp : Calls T p) (hR : ∀ p', R q p') (hS : ∀ (u : σ → σ) s, T s (u s) → S u q s q)
    (he : ∀ e, E q (.error e)) (hf : ∀ b, Tracks S E R (f b) q) : Tracks S E R (p >>= f) q := by
  induction p with
  | ret r =>
    cases r with
    | ok b => exact hf b
    | error e => exact ⟨hR _, he e⟩
  | act u k ih => exact ⟨hR _, fun s => ⟨q, hS u s (hp s).1, ih s (hp s).2⟩⟩

end Tracks

/-! ### Local states along a run -/

/-- Where each thread stands: what it was asked and its local state, if it was started. -/
abbrev Locals (τ Q : Type) : Type := ℕ → Option (τ × Q)

/-- How threads with a tag start and step, and which outcomes fit a local state. -/
structure Protocol (τ σ ε α Q : Type) where
  init : τ → Q
  step : τ → (σ → σ) → Q → σ → Q → Prop
  ends : τ → Q → Except ε α → Prop

namespace Protocol

variable (A : Protocol τ σ ε α Q)

/-- The local states before and after a move. -/
inductive Moved (P : Pool τ σ ε α) (g : Locals τ Q) : Move τ σ → Pool τ σ ε α → Locals τ Q → Prop
  | start {t : τ} {i : ℕ} {P' : Pool τ σ ε α} (hi : g i = none) (hs : P'.state = P.state) :
    Moved P g (.start t) P' (Function.update g i (some (t, A.init t)))
  | call {i : ℕ} {t : τ} {q q' : Q} {u : σ → σ} {k : σ → Prog σ ε α} {P' : Pool τ σ ε α}
    (hi : g i = some (t, q)) (hp : P.prog i = some (.act u k)) (hstep : A.step t u q P.state q')
    (hs : P'.state = u P.state) :
    Moved P g (.call i) P' (Function.update g i (some (t, q')))
  | idle {i : ℕ} (hp : ∀ u k, P.prog i ≠ some (.act u k)) : Moved P g (.call i) P g
  | other {f : σ → σ} {P' : Pool τ σ ε α} (hs : P'.state = f P.state) : Moved P g (.other f) P' g

/-- The local states fit the programs of the pool. -/
structure Fits (P : Pool τ σ ε α) (g : Locals τ Q) : Prop where
  some : ∀ i θ, P.threads[i]? = some θ →
    ∃ q, g i = some (θ.tag, q) ∧ Follows (A.step θ.tag) (A.ends θ.tag) θ.prog q
  none : ∀ i, P.threads[i]? = none → g i = none

variable {A} {body : ℕ → τ → Prog σ ε α} {P : Pool τ σ ε α} {g : Locals τ Q}

theorem fits_idle (s : σ) : A.Fits (.idle s) fun _ => none :=
  ⟨fun _ _ h => by simp [Pool.idle] at h, fun _ _ => rfl⟩

/-- A thread that has returned is in a local state of its outcome. -/
theorem Fits.of_result (h : A.Fits P g) {i : ℕ} {r : Except ε α} (hr : P.result i = Option.some r) :
    ∃ t q, P.tag i = Option.some t ∧ g i = Option.some (t, q) ∧ A.ends t q r := by
  unfold Pool.result at hr
  rcases hθ : P.threads[i]? with _ | ⟨t, p⟩
  · simp [hθ] at hr
  · obtain ⟨q, hq, hin⟩ := h.some i _ hθ
    rcases p with r' | ⟨u, k⟩
    · simp only [hθ, Option.some.injEq] at hr
      exact ⟨t, q, by rw [Pool.tag, hθ]; rfl, hq, hr ▸ hin⟩
    · simp [hθ] at hr

theorem Fits.of_prog (h : A.Fits P g) {i : ℕ} {p : Prog σ ε α} (hp : P.prog i = Option.some p) :
    ∃ t q, P.tag i = Option.some t ∧ g i = Option.some (t, q) ∧
      Follows (A.step t) (A.ends t) p q := by
  unfold Pool.prog at hp
  rcases hθ : P.threads[i]? with _ | θ
  · simp [hθ] at hp
  · obtain ⟨q, hq, hin⟩ := h.some i _ hθ
    rw [hθ] at hp
    obtain rfl := Option.some.inj hp
    exact ⟨θ.tag, q, by rw [Pool.tag, hθ]; rfl, hq, hin⟩

theorem Fits.tag (h : A.Fits P g) {i : ℕ} {t : τ} {q : Q} (hi : g i = Option.some (t, q)) :
    P.tag i = Option.some t := by
  rcases hθ : P.threads[i]? with _ | θ
  · rw [h.none i hθ] at hi
    cases hi
  · obtain ⟨q', hq', -⟩ := h.some i θ hθ
    rw [hi] at hq'
    cases hq'
    rw [Pool.tag, hθ]
    rfl

/-- What a move does to one thread: nothing, it starts it, or it is a call of it. -/
theorem Moved.at {P' : Pool τ σ ε α} {g' : Locals τ Q} {m : Move τ σ} (h : A.Moved P g m P' g')
    (i : ℕ) :
    (g' i = g i ∧ (m = .call i → ∀ u k, P.prog i ≠ Option.some (.act u k))) ∨
    (∃ t, g i = Option.none ∧ m = .start t ∧ g' i = Option.some (t, A.init t)) ∨
    ∃ t q q' u k, m = .call i ∧ g i = Option.some (t, q) ∧ P.prog i = Option.some (.act u k) ∧
      A.step t u q P.state q' ∧ P'.state = u P.state ∧ g' i = Option.some (t, q') := by
  cases h with
  | @start t j _ hj hs =>
    by_cases hij : i = j
    · subst hij
      exact .inr (.inl ⟨t, hj, rfl, Function.update_self ..⟩)
    · exact .inl ⟨Function.update_of_ne hij .., fun h => by cases h⟩
  | @call j t q q' u k _ hj hp hstep hs =>
    by_cases hij : i = j
    · subst hij
      exact .inr (.inr ⟨t, q, q', u, k, rfl, hj, hp, hstep, hs, Function.update_self ..⟩)
    · refine .inl ⟨Function.update_of_ne hij .., fun h => ?_⟩
      cases h
      exact absurd rfl hij
  | @idle j hp =>
    refine .inl ⟨rfl, fun h => ?_⟩
    cases h
    exact hp
  | other hs => exact .inl ⟨rfl, fun h => by cases h⟩

variable (hbody : ∀ i t, Follows (A.step t) (A.ends t) (body i t) (A.init t))
include hbody

/-- One move keeps the fit, and the local states move by the protocol. -/
theorem Fits.exec (h : A.Fits P g) (m : Move τ σ) :
    ∃ g', A.Moved P g m (P.exec body m) g' ∧ A.Fits (P.exec body m) g' := by
  cases m with
  | start t =>
    have hnone := h.none P.threads.length (by simp)
    refine ⟨_, .start hnone rfl, fun i θ hθ => ?_, fun i hi => ?_⟩
    · by_cases hi : i = P.threads.length
      · subst hi
        obtain rfl : θ = ⟨t, body P.threads.length t⟩ := by
          simpa [Pool.exec, eq_comm] using hθ
        exact ⟨_, Function.update_self .., hbody _ _⟩
      · rw [Function.update_of_ne hi]
        refine h.some i θ ?_
        have hlt : i < (P.exec body (.start t)).threads.length :=
          (List.getElem?_eq_some_iff.mp hθ).1
        have hlt' : i < P.threads.length := by
          simp only [Pool.exec, List.length_append, List.length_singleton] at hlt
          omega
        rwa [Pool.exec, List.getElem?_append_left hlt'] at hθ
    · have hle : P.threads.length + 1 ≤ i := by simpa [Pool.exec] using hi
      rw [Function.update_of_ne (by omega)]
      exact h.none i (by simp; omega)
  | call i =>
    rcases hθ : P.threads[i]? with _ | ⟨t, r | ⟨u, k⟩⟩
    · have hexec : P.exec body (.call i) = P := by simp [Pool.exec, hθ]
      rw [hexec]
      exact ⟨g, .idle (by simp [Pool.prog, hθ]), h⟩
    · have hexec : P.exec body (.call i) = P := by simp [Pool.exec, hθ]
      rw [hexec]
      exact ⟨g, .idle (by simp [Pool.prog, hθ]), h⟩
    · have hexec : P.exec body (.call i) = ⟨u P.state, P.threads.set i ⟨t, k P.state⟩⟩ := by
        simp [Pool.exec, hθ]
      have hprog : P.prog i = Option.some (.act u k) := by simp [Pool.prog, hθ]
      obtain ⟨q, hq, hin⟩ := h.some i _ hθ
      obtain ⟨q', hstep, hin'⟩ := hin P.state
      have hlt : i < P.threads.length := (List.getElem?_eq_some_iff.mp hθ).1
      rw [hexec]
      refine ⟨_, .call hq hprog hstep rfl, fun j θ hj => ?_, fun j hj => ?_⟩
      · by_cases hji : j = i
        · subst hji
          simp only [List.getElem?_set_self hlt, Option.some.injEq] at hj
          subst hj
          exact ⟨q', Function.update_self .., hin'⟩
        · rw [List.getElem?_set_ne (Ne.symm hji)] at hj
          rw [Function.update_of_ne hji]
          exact h.some j θ hj
      · have hji : j ≠ i := by
          rintro rfl
          simp [hlt] at hj
        rw [List.getElem?_set_ne (Ne.symm hji)] at hj
        rw [Function.update_of_ne hji]
        exact h.none j hj
  | other f => exact ⟨g, .other rfl, h.some, h.none⟩

omit hbody in
/-- Local states along a run. -/
structure Traces (A : Protocol τ σ ε α Q) (pool : ℕ → Pool τ σ ε α) (moves : ℕ → Move τ σ)
    (g : ℕ → Locals τ Q) : Prop where
  zero : g 0 = fun _ => Option.none
  fits : ∀ n, A.Fits (pool n) (g n)
  moved : ∀ n, A.Moved (pool n) (g n) (moves n) (pool (n + 1)) (g (n + 1))

/-- **Every run has local states.** -/
theorem exists_locals (s : σ) (moves : ℕ → Move τ σ) :
    ∃ g, A.Traces ((Pool.idle s).after body moves) moves g := by
  classical
  let pool := (Pool.idle s : Pool τ σ ε α).after body moves
  choose next hmoved hfits using
    fun (n : ℕ) (g : { g // A.Fits (pool n) g }) => g.2.exec hbody (moves n)
  let run : (n : ℕ) → { g // A.Fits (pool n) g } := fun n =>
    Nat.rec ⟨_, fits_idle s⟩ (fun n g => ⟨next n g, hfits n g⟩) n
  exact ⟨fun n => (run n).1, rfl, fun n => (run n).2, fun n => hmoved n (run n)⟩

end Protocol

end GuardTime.Lib.Interleave
