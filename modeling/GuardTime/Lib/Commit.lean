import Mathlib.Tactic
import GuardTime.Lib.Turns

/-! # Requests that write once

Requests over a shared state, each of which changes one part of it, the cell, by at most one of its
calls. What it writes may be chosen by what it has seen before, but is applied to the cell as it
then is. So in every interleaving the cell is at all times the result of the writes so far, one
whole request after the other.

* `Cell`: the part of the state, what calls see, and what a request makes of the part;
* `Acts`: what a single call of a request does to the cell;
* `Log`: the writes of a run in their order, which agrees with real time (`Log.before`);
* `Log.lasts`: what all writes from some time on keep, stays from then on;
* `exists_log`: every run of such requests has a log. -/

namespace GuardTime.Lib.Commit

open GuardTime.Lib.Program GuardTime.Lib.Interleave

/-! ### Requests on a cell -/

/-- A part of the state. `sees` is what a call finds of the state, `chooses` the data a request may
write after what its calls have seen and what the write itself sees, and `change` the part after the
write. All calls keep `sound`, and may rely on it. -/
structure Cell (τ σ κ O D : Type) where
  get : σ → κ
  sees : σ → O
  sound : σ → Prop := fun _ => True
  chooses : τ → List O → O → D → Prop
  change : τ → D → κ → κ

/-- Where a request stands: it has not written yet, with what its calls have seen, or it has. -/
inductive Local (O : Type) where
  | waiting (os : List O)
  | wrote

variable {τ σ ε α β κ O D : Type} (C : Cell τ σ κ O D)

/-- A call leaves the state sound, with `c` in the cell. -/
def Cell.Leaves (s s' : σ) (c : κ) : Prop := C.sound s → C.sound s' ∧ C.get s' = c

/-- A call leaves the cell as it is. -/
def Cell.Same (s s' : σ) : Prop := C.Leaves s s' (C.get s)

/-- What a call of a request does to the cell. -/
inductive Acts (t : τ) (u : σ → σ) : Local O → σ → Local O → Prop
  | wait {s : σ} {os : List O} (hu : C.Same s (u s)) :
    Acts t u (.waiting os) s (.waiting (C.sees s :: os))
  | write {s : σ} {os : List O} {d : D} (hd : C.chooses t os (C.sees s) d)
    (hu : C.Leaves s (u s) (C.change t d (C.get s))) : Acts t u (.waiting os) s .wrote
  | rest {s : σ} (hu : C.Same s (u s)) : Acts t u .wrote s .wrote

/-- How the requests start and step; `E` says which outcomes fit. -/
def protocol (E : τ → Local O → Except ε α → Prop) : Protocol τ σ ε α (Local O) where
  init _ := .waiting []
  step := Acts C
  ends := E

section Follows
variable {C} {t : τ} {p : Prog σ ε β} {os : List O}

/-- A request that does not write in `p` has seen more at its end. -/
theorem follows_wait (h : Calls C.Same p) :
    Follows (Acts C t) (fun q _ => ∃ os', q = .waiting os' ∧ os ⊆ os') p (.waiting os) := by
  refine .of_calls h ⟨os, rfl, fun _ => id⟩ ?_
  rintro u q s ⟨os', rfl, hos⟩ hu
  exact ⟨_, .wait (hu s), _, rfl, fun o ho => List.mem_cons_of_mem _ (hos ho)⟩

/-- A request that has written writes no more. -/
theorem follows_rest (h : Calls C.Same p) :
    Follows (Acts C t) (fun q _ => q = .wrote) p .wrote := by
  refine .of_calls h rfl ?_
  rintro u q s rfl hu
  exact ⟨_, .rest (hu s), rfl⟩

/-- In `p` it does not change whether the request has written. -/
theorem follows_same (h : Calls C.Same p) (q : Local O) :
    Follows (Acts C t) (fun q' _ => q' = .wrote ↔ q = .wrote) p q := by
  cases q with
  | waiting os =>
    refine (follows_wait h).mono ?_
    rintro q - ⟨os', rfl, -⟩
    simp
  | wrote => exact (follows_rest h).mono fun q _ hq => by simp [hq]

/-- Besides, `p` ends in one of its outcomes. -/
theorem follows_ends {S : (σ → σ) → Local O → σ → Local O → Prop} {F : Local O → Except ε β → Prop}
    {Q : Except ε β → Prop} {q : Local O} (hp : Follows S F p q) (hQ : p.Ends Q) :
    Follows S (fun q r => F q r ∧ Q r) p q := by
  induction p generalizing q with
  | ret r => exact ⟨hp, hQ⟩
  | act u k ih =>
    intro s
    obtain ⟨q', hstep, hk⟩ := hp s
    exact ⟨q', hstep, ih s hk (hQ s)⟩

end Follows

/-! ### Logs -/

/-- A write: the thread and what it was asked, the move at which it writes, and what. -/
structure Entry (τ D : Type) where
  thread : ℕ
  request : τ
  move : ℕ
  data : D

/-- The cell after the writes, one after the other. -/
def Cell.replay (es : List (Entry τ D)) (c : κ) : κ :=
  es.foldl (fun c e => C.change e.request e.data c) c

variable (pool : ℕ → Pool τ σ ε α) (moves : ℕ → Move τ σ)

/-- The calls of thread `i` before the move `n` have seen these. -/
def Seen (i n : ℕ) (os : List O) : Prop :=
  ∀ o ∈ os, ∃ m < n, Called pool moves i m ∧ C.sees (pool m).state = o

/-- **The log of a run.** At all times the state is sound and the cell is what the writes so far
make of it, each by a call of its own thread, with data the request may choose after its own earlier
calls. -/
structure Log (n : ℕ) (es : List (Entry τ D)) : Prop where
  sound : ∀ m ≤ n, C.sound (pool m).state
  cell : ∀ m ≤ n, C.get (pool m).state =
    C.replay (es.filter fun e => e.move < m) (C.get (pool 0).state)
  sorted : es.Pairwise fun e e' => e.move < e'.move
  once : (es.map Entry.thread).Nodup
  written : ∀ e ∈ es, e.move < n ∧ Called pool moves e.thread e.move ∧
    (pool n).tag e.thread = some e.request ∧ ∃ os, Seen C pool moves e.thread e.move os ∧
      C.chooses e.request os (C.sees (pool e.move).state) e.data

/-- The log fits the local states. -/
structure Carried (n : ℕ) (g : Locals τ (Local O)) (es : List (Entry τ D)) : Prop
    extends Log C pool moves n es where
  threads : ∀ i, i ∈ es.map Entry.thread ↔ ∃ t, g i = some (t, .wrote)
  entries : ∀ e ∈ es, g e.thread = some (e.request, .wrote)
  seen : ∀ i t os, g i = some (t, .waiting os) → Seen C pool moves i n os

section Steps
variable {C pool moves} {n i : ℕ} {g : Locals τ (Local O)} {es : List (Entry τ D)}

theorem Seen.succ {os : List O} (h : Seen C pool moves i n os) :
    Seen C pool moves i (n + 1) os := by
  intro o ho
  obtain ⟨m, hm, hcall, hsees⟩ := h o ho
  exact ⟨m, by omega, hcall, hsees⟩

theorem Carried.seen_of_eq {g' : Locals τ (Local O)} (h : Carried C pool moves n g es)
    (heq : g' i = g i) {t : τ} {os : List O} (hi : g' i = some (t, .waiting os)) :
    Seen C pool moves i (n + 1) os := (h.seen i t os (heq ▸ hi)).succ

/-- All writes of a log lie before its end. -/
theorem Log.filter_of_le (h : Log C pool moves n es) {m : ℕ} (hm : n ≤ m) :
    (es.filter fun e => e.move < m) = es := by
  refine List.filter_eq_self.mpr fun e he => ?_
  have hlt := (h.written e he).1
  simpa using lt_of_lt_of_le hlt hm

/-- The cell at the end of the log. -/
theorem Log.now (h : Log C pool moves n es) :
    C.get (pool n).state = C.replay es (C.get (pool 0).state) := by
  have hcell := h.cell n le_rfl
  rwa [h.filter_of_le le_rfl] at hcell

/-- Writes in their order are those before a move and those from it on. -/
theorem filter_append_filter (m : ℕ) (hsorted : es.Pairwise fun e e' => e.move < e'.move) :
    (es.filter fun e => e.move < m) ++ (es.filter fun e => m ≤ e.move) = es := by
  induction es with
  | nil => rfl
  | cons e es ih =>
    obtain ⟨hhead, htail⟩ := List.pairwise_cons.mp hsorted
    rcases Nat.lt_or_ge e.move m with hlt | hle
    · have hnot : ¬ m ≤ e.move := by omega
      rw [List.filter_cons_of_pos (by simpa using hlt),
        List.filter_cons_of_neg (by simpa using hnot), List.cons_append, ih htail]
    · have hlate : ∀ e' ∈ es, m ≤ e'.move := by
        intro e' he'
        have hlt := hhead e' he'
        omega
      have hnone : (es.filter fun e => e.move < m) = [] :=
        List.filter_eq_nil_iff.mpr fun e' he' => by simpa using hlate e' he'
      have hall : (es.filter fun e => m ≤ e.move) = es :=
        List.filter_eq_self.mpr fun e' he' => by simpa using hlate e' he'
      have hnot : ¬ e.move < m := by omega
      rw [List.filter_cons_of_neg (by simpa using hnot),
        List.filter_cons_of_pos (by simpa using hle), hnone, hall, List.nil_append]

/-- From any time on, the cell is what the writes since make of it. -/
theorem Log.since (h : Log C pool moves n es) {m : ℕ} (hm : m ≤ n) : C.get (pool n).state =
    C.replay (es.filter fun e => m ≤ e.move) (C.get (pool m).state) := by
  have hsplit := filter_append_filter m h.sorted
  calc C.get (pool n).state = C.replay es (C.get (pool 0).state) := h.now
    _ = C.replay (es.filter fun e => m ≤ e.move)
          (C.replay (es.filter fun e => e.move < m) (C.get (pool 0).state)) := by
        rw [Cell.replay, Cell.replay, Cell.replay, ← List.foldl_append, hsplit]
    _ = _ := by rw [← h.cell m hm]

theorem Cell.replay_keeps {P : κ → Prop} {c : κ} (hc : P c)
    (hkeep : ∀ e ∈ es, ∀ c, P c → P (C.change e.request e.data c)) : P (C.replay es c) := by
  induction es generalizing c with
  | nil => exact hc
  | cons e es ih =>
    have hstep : P (C.change e.request e.data c) := hkeep e List.mem_cons_self c hc
    exact ih hstep fun e' he' => hkeep e' (List.mem_cons_of_mem _ he')

/-- **What all writes keep, stays.** What is true of the cell at some time, and is kept by every
write from then on, is true later. -/
theorem Log.lasts (h : Log C pool moves n es) {m : ℕ} (hm : m ≤ n) {P : κ → Prop}
    (hP : P (C.get (pool m).state))
    (hkeep : ∀ e ∈ es, m ≤ e.move → ∀ c, P c → P (C.change e.request e.data c)) :
    P (C.get (pool n).state) := by
  rw [h.since hm]
  refine Cell.replay_keeps hP fun e he => ?_
  obtain ⟨hmem, hmove⟩ := List.mem_filter.mp he
  exact hkeep e hmem (by simpa using hmove)

/-- A move that does not write. -/
theorem Log.keep (h : Log C pool moves n es)
    (hget : C.sound (pool (n + 1)).state ∧ C.get (pool (n + 1)).state = C.get (pool n).state)
    (htag : ∀ e ∈ es, (pool (n + 1)).tag e.thread = some e.request) :
    Log C pool moves (n + 1) es where
  sound m hm := by
    rcases Nat.lt_or_ge n m with hlt | hle
    · obtain rfl : m = n + 1 := by omega
      exact hget.1
    · exact h.sound m hle
  cell m hm := by
    rcases Nat.lt_or_ge n m with hlt | hle
    · obtain rfl : m = n + 1 := by omega
      rw [h.filter_of_le (Nat.le_succ n), hget.2, h.now]
    · exact h.cell m hle
  sorted := h.sorted
  once := h.once
  written e he := by
    obtain ⟨hlt, hcall, -, hseen⟩ := h.written e he
    exact ⟨Nat.lt_succ_of_lt hlt, hcall, htag e he, hseen⟩

/-- A move that writes. -/
theorem Log.write (h : Log C pool moves n es) {e : Entry τ D} {os : List O} (hmove : e.move = n)
    (hget : C.sound (pool (n + 1)).state ∧
      C.get (pool (n + 1)).state = C.change e.request e.data (C.get (pool n).state))
    (hnew : e.thread ∉ es.map Entry.thread) (hcall : Called pool moves e.thread n)
    (hseen : Seen C pool moves e.thread n os)
    (hchooses : C.chooses e.request os (C.sees (pool n).state) e.data)
    (htag : ∀ e' ∈ es ++ [e], (pool (n + 1)).tag e'.thread = some e'.request) :
    Log C pool moves (n + 1) (es ++ [e]) where
  sound m hm := by
    rcases Nat.lt_or_ge n m with hlt | hle
    · obtain rfl : m = n + 1 := by omega
      exact hget.1
    · exact h.sound m hle
  cell m hm := by
    rcases Nat.lt_or_ge n m with hlt | hle
    · obtain rfl : m = n + 1 := by omega
      have hlast : ([e].filter fun e => e.move < n + 1) = [e] := by simp [hmove]
      rw [List.filter_append, h.filter_of_le (Nat.le_succ n), hlast, hget.2, h.now, Cell.replay,
        Cell.replay, List.foldl_append]
      rfl
    · have hlast : ([e].filter fun e => e.move < m) = [] := by simp [hmove, hle]
      rw [List.filter_append, hlast, List.append_nil]
      exact h.cell m hle
  sorted := by
    refine List.pairwise_append.mpr ⟨h.sorted, List.pairwise_singleton _ _, fun e' he' e₁ he₁ => ?_⟩
    rw [List.mem_singleton.mp he₁, hmove]
    exact (h.written e' he').1
  once := by
    rw [List.map_append, List.nodup_append]
    refine ⟨h.once, List.nodup_singleton _, fun a ha b hb hab => hnew ?_⟩
    rw [List.map_singleton, List.mem_singleton] at hb
    rwa [hab, hb] at ha
  written e' he' := by
    rcases List.mem_append.mp he' with hmem | hmem
    · obtain ⟨hlt, hc, -, hs⟩ := h.written e' hmem
      exact ⟨Nat.lt_succ_of_lt hlt, hc, htag e' he', hs⟩
    · obtain rfl := List.mem_singleton.mp hmem
      rw [hmove]
      exact ⟨Nat.lt_succ_self n, hcall, htag _ he', os, hseen, hchooses⟩

end Steps

/-! ### Every run has a log -/

section Run
variable {C} {E : τ → Local O → Except ε α → Prop} {pool : ℕ → Pool τ σ ε α} {moves : ℕ → Move τ σ}
  {g : ℕ → Locals τ (Local O)} (hg : (protocol C E).Traces pool moves g) {n : ℕ}
  {es : List (Entry τ D)}
include hg

/-- A move after which the same threads have written. -/
theorem Carried.keep (h : Carried C pool moves n (g n) es)
    (hget : C.sound (pool (n + 1)).state ∧ C.get (pool (n + 1)).state = C.get (pool n).state)
    (hwrote : ∀ i t, g (n + 1) i = some (t, .wrote) ↔ g n i = some (t, .wrote))
    (hseen : ∀ i t os, g (n + 1) i = some (t, .waiting os) → Seen C pool moves i (n + 1) os) :
    Carried C pool moves (n + 1) (g (n + 1)) es where
  toLog := h.toLog.keep hget fun e he => (hg.fits (n + 1)).tag ((hwrote _ _).mpr (h.entries e he))
  threads i := by simp only [hwrote]; exact h.threads i
  entries e he := (hwrote _ _).mpr (h.entries e he)
  seen := hseen

/-- A thread that has not written starts, or calls and sees more. -/
theorem Carried.waiting (h : Carried C pool moves n (g n) es) {t : τ} {i : ℕ} {os : List O}
    (hi : ∀ t', g n i ≠ some (t', .wrote))
    (hget : C.sound (pool (n + 1)).state ∧ C.get (pool (n + 1)).state = C.get (pool n).state)
    (hseen : Seen C pool moves i (n + 1) os)
    (hg' : g (n + 1) = Function.update (g n) i (some (t, .waiting os))) :
    Carried C pool moves (n + 1) (g (n + 1)) es := by
  have hothers : ∀ {j}, j ≠ i → g (n + 1) j = g n j := fun hji => by
    rw [hg', Function.update_of_ne hji]
  have hself : g (n + 1) i = some (t, .waiting os) := by rw [hg', Function.update_self]
  refine h.keep hg hget (fun j t' => ?_) fun j t' os' hj => ?_
  · by_cases hji : j = i
    · subst hji
      simp [hself, hi t']
    · rw [hothers hji]
  · by_cases hji : j = i
    · subst hji
      rw [hself] at hj
      cases hj
      exact hseen
    · exact h.seen_of_eq (hothers hji) hj

/-- A thread writes. -/
theorem Carried.write (h : Carried C pool moves n (g n) es) {t : τ} {i : ℕ} {os : List O} {d : D}
    (hi : g n i = some (t, .waiting os)) (hcall : Called pool moves i n)
    (hd : C.chooses t os (C.sees (pool n).state) d)
    (hget : C.sound (pool (n + 1)).state ∧
      C.get (pool (n + 1)).state = C.change t d (C.get (pool n).state))
    (hg' : g (n + 1) = Function.update (g n) i (some (t, .wrote))) :
    Carried C pool moves (n + 1) (g (n + 1)) (es ++ [⟨i, t, n, d⟩]) := by
  have hothers : ∀ {j}, j ≠ i → g (n + 1) j = g n j := fun hji => by
    rw [hg', Function.update_of_ne hji]
  have hself : g (n + 1) i = some (t, .wrote) := by rw [hg', Function.update_self]
  have hwrote : ∀ j, (∃ t', g (n + 1) j = some (t', .wrote)) ↔
      j = i ∨ ∃ t', g n j = some (t', .wrote) := by
    intro j
    by_cases hji : j = i
    · subst hji
      simp [hself]
    · simp [hothers hji, hji]
  have hnew : i ∉ es.map Entry.thread := by
    rw [h.threads i, hi]
    rintro ⟨t', ht'⟩
    cases ht'
  have hentries : ∀ e ∈ es ++ [⟨i, t, n, d⟩], g (n + 1) e.thread = some (e.request, .wrote) := by
    intro e he
    rcases List.mem_append.mp he with hmem | hmem
    · have hne : e.thread ≠ i := fun heq => hnew (heq ▸ List.mem_map_of_mem hmem)
      rw [hothers hne]
      exact h.entries e hmem
    · obtain rfl := List.mem_singleton.mp hmem
      exact hself
  refine ⟨?_, fun j => ?_, hentries, fun j t' os' hj => ?_⟩
  · refine h.toLog.write rfl hget hnew hcall (h.seen i t os hi) hd fun e he => ?_
    exact (hg.fits (n + 1)).tag (hentries e he)
  · rw [hwrote, ← h.threads j, List.map_append, List.mem_append, List.map_singleton,
      List.mem_singleton, or_comm]
  · by_cases hji : j = i
    · subst hji
      rw [hself] at hj
      cases hj
    · exact h.seen_of_eq (hothers hji) hj

/-- No thread gets any further with its write. -/
theorem Carried.same (h : Carried C pool moves n (g n) es)
    (hget : C.sound (pool (n + 1)).state ∧ C.get (pool (n + 1)).state = C.get (pool n).state)
    (hg' : g (n + 1) = g n) : Carried C pool moves (n + 1) (g (n + 1)) es :=
  h.keep hg hget (fun j t => by rw [hg']) fun j t os hj => h.seen_of_eq (by rw [hg']) hj

/-- One move is at most one write. -/
theorem carried_step (h : Carried C pool moves n (g n) es)
    (hother : ∀ f, moves n = .other f → ∀ s, C.Same s (f s)) :
    ∃ es', Carried C pool moves (n + 1) (g (n + 1)) es' := by
  have hsound := h.sound n le_rfl
  have hmoved := hg.moved n
  obtain ⟨m, hm⟩ : ∃ m, moves n = m := ⟨_, rfl⟩
  obtain ⟨g', hg'⟩ : ∃ g', g (n + 1) = g' := ⟨_, rfl⟩
  obtain ⟨P', hP⟩ : ∃ P', pool (n + 1) = P' := ⟨_, rfl⟩
  rw [hm, hg', hP] at hmoved
  cases hmoved with
  | @start t i _ hi hs =>
    have hseen : Seen C pool moves i (n + 1) [] := fun o ho => absurd ho List.not_mem_nil
    exact ⟨es, h.waiting hg (by simp [hi]) (by rw [hP, hs]; exact ⟨hsound, rfl⟩) hseen hg'⟩
  | @call i t q q' u k _ hi hp hstep hs =>
    have hcall : Called pool moves i n := ⟨u, hm, k, hp⟩
    cases hstep with
    | @wait _ os hu =>
      have hseen : Seen C pool moves i (n + 1) (C.sees (pool n).state :: os) := by
        intro o ho
        rcases List.mem_cons.mp ho with rfl | ho
        · exact ⟨n, n.lt_succ_self, hcall, rfl⟩
        · exact (h.seen i t os hi).succ o ho
      exact ⟨es, h.waiting hg (by simp [hi]) (by rw [hP, hs]; exact hu hsound) hseen hg'⟩
    | write hd hu => exact ⟨_, h.write hg hi hcall hd (by rw [hP, hs]; exact hu hsound) hg'⟩
    | rest hu =>
      have heq : g (n + 1) = g n := by rw [hg', ← hi, Function.update_eq_self]
      exact ⟨es, h.same hg (by rw [hP, hs]; exact hu hsound) heq⟩
  | idle hp => exact ⟨es, h.same hg (by rw [hP]; exact ⟨hsound, rfl⟩) hg'⟩
  | other hs => exact ⟨es, h.same hg (by rw [hP, hs]; exact hother _ hm _ hsound) hg'⟩

end Run

variable {C}

/-- **Every run has a log.** Whatever requests are started, by whomever, and however their calls
interleave: the cell is what the writes make of it, and a thread that has returned has written or
not as its outcome says. -/
theorem exists_log {E : τ → Local O → Except ε α → Prop} {body : ℕ → τ → Prog σ ε α}
    (hbody : ∀ i t, Follows (Acts C t) (E t) (body i t) (.waiting [])) {s : σ}
    {moves : ℕ → Move τ σ} (hsound : C.sound s)
    (hother : ∀ n f, moves n = .other f → ∀ s, C.Same s (f s)) (n : ℕ) :
    ∃ es, Log C ((Pool.idle s).after body moves) moves n es ∧
      ∀ i r, ((Pool.idle s).after body moves n).result i = some r →
        ∃ t q, ((Pool.idle s).after body moves n).tag i = some t ∧ E t q r ∧
          (i ∈ es.map Entry.thread ↔ q = .wrote) := by
  obtain ⟨g, hg⟩ := (protocol C E).exists_locals hbody s moves
  have hcarried : ∀ n, ∃ es, Carried C ((Pool.idle s).after body moves) moves n (g n) es := by
    intro n
    induction n with
    | zero =>
      refine ⟨[], ⟨fun m hm => ?_, fun m hm => ?_, .nil, List.nodup_nil,
        fun e he => absurd he List.not_mem_nil⟩, fun i => ?_,
          fun e he => absurd he List.not_mem_nil, fun i t os hi => ?_⟩
      · obtain rfl := Nat.le_zero.mp hm
        exact hsound
      · obtain rfl := Nat.le_zero.mp hm
        rfl
      · simp [hg.zero]
      · rw [hg.zero] at hi
        cases hi
    | succ n ih =>
      obtain ⟨es, h⟩ := ih
      exact carried_step hg h (hother n)
  obtain ⟨es, h⟩ := hcarried n
  refine ⟨es, h.toLog, fun i r hr => ?_⟩
  obtain ⟨t, q, ht, hq, hends⟩ := (hg.fits n).of_result hr
  refine ⟨t, q, ht, hends, ?_⟩
  rw [h.threads i, hq]
  constructor
  · rintro ⟨t', ht'⟩
    cases ht'
    rfl
  · rintro rfl
    exact ⟨t, rfl⟩

/-! ### Cells that are sets -/

/-- **The history of a member.** Where every write puts some elements and takes others away, an
element is there at the end if some write has put it and none has taken it away since, or if it was
there from the start and none has taken it away. -/
theorem mem_replay {C : Cell τ σ (Set β) O D} (Puts Takes : Entry τ D → β → Prop)
    (hchange : ∀ e c x, x ∈ C.change e.request e.data c ↔ Puts e x ∨ x ∈ c ∧ ¬ Takes e x)
    {es : List (Entry τ D)} {c : Set β} {x : β} : x ∈ C.replay es c ↔
      (∃ es₁ e es₂, es = es₁ ++ e :: es₂ ∧ Puts e x ∧ ∀ e' ∈ es₂, ¬ Takes e' x) ∨
        x ∈ c ∧ ∀ e ∈ es, ¬ Takes e x := by
  induction es using List.reverseRecOn with
  | nil => simp [Cell.replay]
  | append_singleton es e ih =>
    have hlast : C.replay (es ++ [e]) c = C.change e.request e.data (C.replay es c) := by
      rw [Cell.replay, List.foldl_append]
      rfl
    rw [hlast, hchange, ih]
    constructor
    · rintro (hputs | ⟨⟨es₁, e₀, es₂, rfl, hputs, htakes⟩ | ⟨hx, htakes⟩, hnot⟩)
      · exact .inl ⟨es, e, [], rfl, hputs, fun e' he' => absurd he' List.not_mem_nil⟩
      · refine .inl ⟨es₁, e₀, es₂ ++ [e], by simp, hputs, fun e' he' => ?_⟩
        rcases List.mem_append.mp he' with he' | he'
        · exact htakes e' he'
        · rwa [List.mem_singleton.mp he']
      · refine .inr ⟨hx, fun e' he' => ?_⟩
        rcases List.mem_append.mp he' with he' | he'
        · exact htakes e' he'
        · rwa [List.mem_singleton.mp he']
    · rintro (⟨es₁, e₀, es₂, heq, hputs, htakes⟩ | ⟨hx, htakes⟩)
      · rcases List.eq_nil_or_concat es₂ with rfl | ⟨es₃, e', rfl⟩
        · obtain ⟨-, he⟩ := List.append_inj' heq rfl
          obtain rfl := List.singleton_inj.mp he
          exact .inl hputs
        · rw [List.concat_eq_append, ← List.cons_append, ← List.append_assoc] at heq
          obtain ⟨rfl, he⟩ := List.append_inj' heq rfl
          obtain rfl := List.singleton_inj.mp he
          refine .inr ⟨.inl ⟨es₁, e₀, es₃, rfl, hputs, fun e₁ he₁ => ?_⟩, htakes e (by simp)⟩
          exact htakes e₁ (by simp [he₁])
      · exact .inr ⟨.inr ⟨hx, fun e' he' => htakes e' (by simp [he'])⟩, htakes e (by simp)⟩

/-! ### Real time -/

section RealTime
variable {body : ℕ → τ → Prog σ ε α} {s : σ} {moves : ℕ → Move τ σ} {i a b : ℕ}

/-- A thread that has returned stays so. -/
theorem returned_of_le {r : Except ε α} (hab : a ≤ b)
    (h : ((Pool.idle s).after body moves a).prog i = some (.ret r)) :
    ((Pool.idle s).after body moves b).prog i = some (.ret r) := by
  induction b, hab using Nat.le_induction with
  | base => exact h
  | succ b hab ih =>
    have hmove := Pool.exec_moves body ((Pool.idle s).after body moves b) (moves b)
    rw [Pool.after]
    by_cases hb : moves b = .call i
    · rw [hb] at hmove ⊢
      generalize ((Pool.idle s).after body moves b).exec body (.call i) = P' at hmove
      cases hmove with
      | call hi => rw [ih] at hi; cases hi
      | idle hi => exact ih
    · exact hmove.prog_of_ne hb ih

/-- A thread that was started stays so. -/
theorem started_of_le {p : Prog σ ε α} (hab : a ≤ b)
    (h : ((Pool.idle s).after body moves a).prog i = some p) :
    ∃ p', ((Pool.idle s).after body moves b).prog i = some p' := by
  induction b, hab using Nat.le_induction with
  | base => exact ⟨p, h⟩
  | succ b hab ih =>
    obtain ⟨p', hp'⟩ := ih
    have hmove := Pool.exec_moves body ((Pool.idle s).after body moves b) (moves b)
    rw [Pool.after]
    by_cases hb : moves b = .call i
    · rw [hb] at hmove ⊢
      generalize ((Pool.idle s).after body moves b).exec body (.call i) = P' at hmove
      cases hmove with
      | @call _ u k _ hi hs hp => exact ⟨_, by rw [hp, Function.update_self]⟩
      | idle hi => exact ⟨p', hp'⟩
    · exact ⟨p', hmove.prog_of_ne hb hp'⟩

/-- A thread that writes from a move on has not returned by then. -/
theorem Log.unfinished {n m : ℕ} {es : List (Entry τ D)}
    (h : Log C ((Pool.idle s).after body moves) moves n es) {e : Entry τ D} (he : e ∈ es)
    (hm : m ≤ e.move) : ((Pool.idle s).after body moves m).result e.thread = none := by
  rcases hres : ((Pool.idle s).after body moves m).result e.thread with _ | r
  · rfl
  · obtain ⟨u, -, k, hk⟩ := (h.written e he).2.1
    rw [returned_of_le hm (Pool.prog_of_result hres)] at hk
    cases hk

/-- **The log agrees with real time.** The write of a request that has returned by a move comes
before that of a request that is not started by then. -/
theorem Log.before {n m : ℕ} {es : List (Entry τ D)}
    (h : Log C ((Pool.idle s).after body moves) moves n es) {e e' : Entry τ D} (he : e ∈ es)
    (he' : e' ∈ es) {r : Except ε α}
    (hdone : ((Pool.idle s).after body moves m).result e.thread = some r)
    (hnone : ((Pool.idle s).after body moves m).prog e'.thread = none) : e.move < e'.move := by
  have hearly : e.move < m := by
    by_contra hle
    rw [h.unfinished he (Nat.le_of_not_lt hle)] at hdone
    cases hdone
  have hlate : m ≤ e'.move := by
    by_contra hlt
    obtain ⟨u, -, k, hk⟩ := (h.written e' he').2.1
    obtain ⟨p', hp'⟩ := started_of_le (by omega : e'.move ≤ m) hk
    rw [hnone] at hp'
    cases hp'
  omega

end RealTime

end GuardTime.Lib.Commit
