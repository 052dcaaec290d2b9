import Mathlib.Tactic
import GuardTime.Lib.Interleave
import GuardTime.Prisma

/-! # Transactions side by side

Any number of programs, each with a transaction of its own, run one call at a time over one
committed state, as under `READ COMMITTED`. A call through a transaction's client sees the committed
rows and the transaction's own writes, which are applied when the transaction ends well.

A row a transaction has written stays locked until the transaction ends, and a call that would write
a row another transaction has locked waits. Of the locks only those of pairing sessions are kept:
others would only rule out schedules.

* `exec_moves`: what a move does;
* `exclusive_after`: no two transactions ever have a lock in common. -/

namespace GuardTime.Transactions

open GuardTime.Lib.Program GuardTime.Lib.Js GuardTime.Schema GuardTime.Server GuardTime.Prisma
open GuardTime.Lib.Interleave (Rest Tracks)

/-- A program with its transaction: the writes still to be applied, the sessions it has locked, what
is left of the program, and whether the transaction has ended. -/
structure Tx (α : Type) where
  log : List (Database → Database)
  locks : List String
  prog : Prog TxWorld Err α
  ended : Bool

/-- The committed state and the programs, in the order they were started. -/
structure Pool (α : Type) where
  world : World
  txs : List (Tx α)

/-- What may happen next. -/
inductive Move (τ : Type) where
  | start (t : τ)
  | call (i : ℕ)
  | finish (i : ℕ)
  | tick (now : Time)

/-- The database after the writes. -/
def replay (log : List (Database → Database)) (db : Database) : Database :=
  log.foldl (fun db f => f db) db

/-- The sessions whose rows are no longer the same. -/
def changed (db db' : Database) : List String :=
  (db.pairingSessions.rows.filter fun s => db'.pairingSessions.find s.id ≠ some s).map
    PairingSession.id

/-- A program all of whose calls go past the transaction. -/
def outside {α : Type} : Prog World Err α → Prog TxWorld Err α
  | .ret r => .ret r
  | .act u k => .act (fun s => { s with base := u s.base }) fun s => outside (k s.base)

section Outside
variable {α Q : Type} {p p' : Prog World Err α}

theorem rest_outside (h : Rest p p') : Rest (outside p) (outside p') := by
  induction h with
  | refl => exact .refl
  | call w _ ih => exact .call ⟨w, []⟩ ih

theorem tracks_outside {S₀ : (World → World) → Q → World → Q → Prop}
    {S : (TxWorld → TxWorld) → Q → TxWorld → Q → Prop} {E : Q → Except Err α → Prop}
    {R₀ : Q → Prog World Err α → Prop} {R : Q → Prog TxWorld Err α → Prop} {q : Q}
    (hS : ∀ u q w q' log, S₀ u q w q' → S (fun s => { s with base := u s.base }) q ⟨w, log⟩ q')
    (hR : ∀ q p, R₀ q p → R q (outside p)) (h : Tracks S₀ E R₀ p q) :
    Tracks S E R (outside p) q := by
  induction p generalizing q with
  | ret r => exact ⟨hR q _ h.1, h.2⟩
  | act u k ih =>
    refine ⟨hR q _ h.1, fun s => ?_⟩
    obtain ⟨q', hstep, hk⟩ := h.2 s.base
    exact ⟨q', hS u q s.base q' s.log hstep, ih s.base hk⟩

end Outside

variable {τ α : Type}

namespace Pool

/-- Nothing runs yet. -/
def idle (w : World) : Pool α := ⟨w, []⟩

/-- Program `i`, once it was started. -/
def tx (P : Pool α) (i : ℕ) : Option (Tx α) := P.txs[i]?

/-- Another transaction has locked one of the sessions. -/
def waits (P : Pool α) (i : ℕ) (sessions : List String) : Bool :=
  P.txs.zipIdx.any fun p => p.2 ≠ i && sessions.any (· ∈ p.1.locks)

variable (body : τ → Prog TxWorld Err α)

/-- One move. A call outside of the transaction commits at once and keeps no lock. -/
def exec (P : Pool α) : Move τ → Pool α
  | .start t => { P with txs := P.txs ++ [⟨[], [], body t, false⟩] }
  | .call i =>
    match P.txs[i]? with
    | some ⟨log, locks, .act u k, ended⟩ =>
      let s : TxWorld := ⟨P.world, log⟩
      let written := changed s.view (u s).view
      if P.waits i written then P
      else ⟨(u s).base, P.txs.set i ⟨(u s).log, locks ++
        written.filter (· ∉ changed s.base.db (u s).base.db), k s, ended⟩⟩
    | _ => P
  | .finish i =>
    match P.txs[i]? with
    | some ⟨log, _, .ret (.ok a), false⟩ =>
      ⟨{ P.world with db := replay log P.world.db }, P.txs.set i ⟨[], [], .ret (.ok a), true⟩⟩
    | some ⟨_, _, .ret (.error e), false⟩ =>
      { P with txs := P.txs.set i ⟨[], [], .ret (.error e), true⟩ }
    | _ => P
  | .tick now => { P with world := { P.world with now := now } }

/-- The pool after the first `n` moves. -/
def after (P : Pool α) (moves : ℕ → Move τ) : ℕ → Pool α
  | 0 => P
  | n + 1 => (P.after moves n).exec body (moves n)

/-- **What a move does.** -/
inductive Moves (P : Pool α) : Move τ → Pool α → Prop
  | start {t : τ} {i : ℕ} {P' : Pool α} (hi : P.tx i = none) (hw : P'.world = P.world)
    (htx : P'.tx = Function.update P.tx i (some ⟨[], [], body t, false⟩)) : Moves P (.start t) P'
  | call {i : ℕ} {log : List (Database → Database)} {locks : List String} {u : TxWorld → TxWorld}
    {k : TxWorld → Prog TxWorld Err α} {ended : Bool} {P' : Pool α}
    (hi : P.tx i = some ⟨log, locks, .act u k, ended⟩)
    (hfree : ∀ j θ, j ≠ i → P.tx j = some θ →
      ∀ id ∈ changed (replay log P.world.db) (u ⟨P.world, log⟩).view, id ∉ θ.locks)
    (hw : P'.world = (u ⟨P.world, log⟩).base)
    (htx : P'.tx = Function.update P.tx i (some ⟨(u ⟨P.world, log⟩).log, locks ++
      (changed (replay log P.world.db) (u ⟨P.world, log⟩).view).filter
        (· ∉ changed P.world.db (u ⟨P.world, log⟩).base.db), k ⟨P.world, log⟩, ended⟩)) :
    Moves P (.call i) P'
  | commit {i : ℕ} {log : List (Database → Database)} {locks : List String} {a : α} {P' : Pool α}
    (hi : P.tx i = some ⟨log, locks, .ret (.ok a), false⟩)
    (hw : P'.world = { P.world with db := replay log P.world.db })
    (htx : P'.tx = Function.update P.tx i (some ⟨[], [], .ret (.ok a), true⟩)) :
    Moves P (.finish i) P'
  | rollback {i : ℕ} {log : List (Database → Database)} {locks : List String} {e : Err}
    {P' : Pool α} (hi : P.tx i = some ⟨log, locks, .ret (.error e), false⟩)
    (hw : P'.world = P.world)
    (htx : P'.tx = Function.update P.tx i (some ⟨[], [], .ret (.error e), true⟩)) :
    Moves P (.finish i) P'
  | tick {now : Time} {P' : Pool α} (hw : P'.world = { P.world with now := now })
    (htx : P'.tx = P.tx) : Moves P (.tick now) P'
  | idle {m : Move τ} : Moves P m P

theorem tx_set {P : Pool α} {i : ℕ} {θ θ' : Tx α} {w : World} (hi : P.tx i = some θ) :
    (⟨w, P.txs.set i θ'⟩ : Pool α).tx = Function.update P.tx i (some θ') := by
  have hlt : i < P.txs.length := (List.getElem?_eq_some_iff.mp hi).1
  funext j
  by_cases hj : j = i
  · subst hj
    rw [Function.update_self]
    exact List.getElem?_set_self hlt
  · rw [Function.update_of_ne hj]
    exact List.getElem?_set_ne (Ne.symm hj)

theorem tx_start (P : Pool α) (θ : Tx α) (w : World) :
    (⟨w, P.txs ++ [θ]⟩ : Pool α).tx = Function.update P.tx P.txs.length (some θ) := by
  funext j
  unfold tx
  by_cases hj : j = P.txs.length
  · subst hj
    rw [Function.update_self]
    exact List.getElem?_concat_length
  · rw [Function.update_of_ne hj]
    rcases Nat.lt_or_gt_of_ne hj with hlt | hgt
    · exact List.getElem?_append_left hlt
    · rw [List.getElem?_eq_none (by simp; omega), List.getElem?_eq_none (by omega)]

/-- Whoever does not wait finds none of the sessions locked by another. -/
theorem notMem_of_not_waits {P : Pool α} {i : ℕ} {sessions : List String}
    (h : ¬ P.waits i sessions = true) {j : ℕ} {θ : Tx α} (hj : j ≠ i) (hθ : P.tx j = some θ) :
    ∀ id ∈ sessions, id ∉ θ.locks := by
  intro id hid hlock
  refine h (List.any_eq_true.mpr ⟨(θ, j), ?_, ?_⟩)
  · exact List.mk_mem_zipIdx_iff_getElem?.mpr hθ
  · simp only [Bool.and_eq_true, decide_eq_true_eq, List.any_eq_true]
    exact ⟨hj, id, hid, hlock⟩

theorem exec_moves (P : Pool α) (m : Move τ) : Moves body P m (P.exec body m) := by
  cases m with
  | start t =>
    exact .start (List.getElem?_eq_none le_rfl) rfl (tx_start P _ _)
  | tick now => exact .tick rfl rfl
  | call i =>
    rw [exec]
    rcases hi : P.txs[i]? with _ | ⟨log, locks, r | ⟨u, k⟩, ended⟩
    · exact .idle
    · exact .idle
    · dsimp only
      split_ifs with hwaits
      · exact .idle
      · exact .call hi (fun j θ hj hθ => notMem_of_not_waits hwaits hj hθ) rfl (tx_set hi)
  | finish i =>
    rw [exec]
    rcases hi : P.txs[i]? with _ | ⟨log, locks, (e | a) | ⟨u, k⟩, _ | _⟩
    · exact .idle
    · exact .rollback hi rfl (tx_set hi)
    · exact .idle
    · exact .commit hi rfl (tx_set hi)
    · exact .idle
    · exact .idle
    · exact .idle

/-! ### Locks -/

/-- No two transactions have a lock in common. -/
def Exclusive (P : Pool α) : Prop :=
  ∀ i j θ θ' id, P.tx i = some θ → P.tx j = some θ' → id ∈ θ.locks → id ∈ θ'.locks → i = j

variable {body}

theorem Exclusive.update {P P' : Pool α} {i : ℕ} {θ : Tx α} (h : Exclusive P)
    (htx : P'.tx = Function.update P.tx i (some θ))
    (hθ : ∀ id ∈ θ.locks, ∀ j θ', j ≠ i → P.tx j = some θ' → id ∉ θ'.locks) : Exclusive P' := by
  intro j j' θ₁ θ₂ id h₁ h₂ hid₁ hid₂
  rw [htx] at h₁ h₂
  by_cases hj : j = i
  · by_cases hj' : j' = i
    · rw [hj, hj']
    · rw [hj, Function.update_self] at h₁
      rw [Function.update_of_ne hj'] at h₂
      cases h₁
      exact absurd hid₂ (hθ id hid₁ j' θ₂ hj' h₂)
  · rw [Function.update_of_ne hj] at h₁
    by_cases hj' : j' = i
    · rw [hj', Function.update_self] at h₂
      cases h₂
      exact absurd hid₁ (hθ id hid₂ j θ₁ hj h₁)
    · rw [Function.update_of_ne hj'] at h₂
      exact h j j' θ₁ θ₂ id h₁ h₂ hid₁ hid₂

theorem Exclusive.step {P P' : Pool α} {m : Move τ} (h : Exclusive P) (hm : Moves body P m P') :
    Exclusive P' := by
  cases hm with
  | start hi hw htx => exact h.update htx fun id hid => absurd hid List.not_mem_nil
  | @call i log locks u k ended _ hi hfree hw htx =>
    refine h.update htx fun id hid j θ' hj hθ' hlock => ?_
    rcases List.mem_append.mp hid with hid | hid
    · exact hj (h j i θ' _ id hθ' hi hlock hid)
    · exact hfree j θ' hj hθ' id (List.mem_filter.mp hid).1 hlock
  | commit hi hw htx => exact h.update htx fun id hid => absurd hid List.not_mem_nil
  | rollback hi hw htx => exact h.update htx fun id hid => absurd hid List.not_mem_nil
  | tick hw htx =>
    intro i j θ θ' id hi hj
    rw [htx] at hi hj
    exact h i j θ θ' id hi hj
  | idle => exact h

/-- **Locks are exclusive at all times.** -/
theorem exclusive_after (body : τ → Prog TxWorld Err α) (w : World) (moves : ℕ → Move τ) (n : ℕ) :
    Exclusive ((idle w).after body moves n) := by
  induction n with
  | zero => exact fun i j θ θ' id hi => absurd hi (by simp [after, idle, tx])
  | succ n ih => exact ih.step (exec_moves body _ _)

end Pool

end GuardTime.Transactions
