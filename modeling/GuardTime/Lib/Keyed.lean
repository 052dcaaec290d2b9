import Mathlib.Tactic
import Mathlib.Data.List.Sort
import Mathlib.Data.List.Perm.Basic

/-! # Tables with a primary key

A table is the list of its rows together with the proof that no two of them share their primary
key; a table that breaks the constraint cannot be built.

A relational store answers an unordered query with the matching rows in *some* order. `arrange n`
is the order the choice `n` selects: it always is a rearrangement (`arrange_perm`), and every
rearrangement is selected by some `n` (`exists_arrange`). -/

namespace GuardTime.Lib.Keyed

/-! ### Unordered answers -/

section Arrange
variable {α β : Type}

/-- The rearrangement of `l` that the number `n` codes. -/
def arrange : ℕ → List α → List α
  | _, [] => []
  | n, a :: l => (arrange (n / (l.length + 1)) l).insertIdx (n % (l.length + 1)) a

theorem arrange_perm : ∀ (n : ℕ) (l : List α), (arrange n l).Perm l
  | _, [] => .nil
  | n, a :: l => by
    have ih := arrange_perm (n / (l.length + 1)) l
    refine (List.perm_insertIdx a _ ?_).trans (ih.cons a)
    rw [ih.length_eq]
    exact Nat.lt_succ_iff.mp (Nat.mod_lt n l.length.succ_pos)

@[simp] theorem mem_arrange {n : ℕ} {l : List α} {a : α} : a ∈ arrange n l ↔ a ∈ l :=
  (arrange_perm n l).mem_iff

@[simp] theorem arrange_eq_nil {n : ℕ} {l : List α} : arrange n l = [] ↔ l = [] := by
  constructor
  · intro h
    exact (List.perm_nil.mp (h ▸ (arrange_perm n l).symm))
  · rintro rfl; rfl

theorem insertIdx_append_length (a : α) (t : List α) : ∀ s : List α,
    (s ++ t).insertIdx s.length a = s ++ a :: t
  | [] => rfl
  | b :: s => by simp [insertIdx_append_length a t s]

@[simp] theorem arrange_singleton (n : ℕ) (a : α) : arrange n [a] = [a] :=
  List.perm_singleton.mp (arrange_perm n [a])

theorem exists_arrange : ∀ {l l' : List α}, l'.Perm l → ∃ n, arrange n l = l'
  | [], l', h => ⟨0, by rw [List.perm_nil.mp h]; rfl⟩
  | a :: l, l', h => by
    obtain ⟨s, t, rfl⟩ := List.append_of_mem (h.mem_iff.mpr (List.mem_cons_self ..))
    have hst : (s ++ t).Perm l := List.Perm.cons_inv (List.perm_middle.symm.trans h)
    obtain ⟨n, hn⟩ := exists_arrange hst
    have hlen : s.length < l.length + 1 := by
      have := hst.length_eq
      rw [List.length_append] at this
      omega
    refine ⟨n * (l.length + 1) + s.length, ?_⟩
    have hdiv : (n * (l.length + 1) + s.length) / (l.length + 1) = n := by
      rw [Nat.mul_comm, Nat.mul_add_div (Nat.succ_pos _), Nat.div_eq_of_lt hlen, Nat.add_zero]
    have hmod : (n * (l.length + 1) + s.length) % (l.length + 1) = s.length := by
      rw [Nat.mul_comm, Nat.mul_add_mod, Nat.mod_eq_of_lt hlen]
    rw [arrange, hdiv, hmod, hn, insertIdx_append_length]

/-- Any member may come first. -/
theorem exists_arrange_head {l : List α} {a : α} (h : a ∈ l) :
    ∃ n, (arrange n l).head? = some a := by
  obtain ⟨s, t, rfl⟩ := List.append_of_mem h
  obtain ⟨n, hn⟩ := exists_arrange (@List.perm_middle _ a s t).symm
  exact ⟨n, by rw [hn]; rfl⟩

theorem map_arrange (f : α → β) : ∀ (n : ℕ) (l : List α),
    (arrange n l).map f = arrange n (l.map f)
  | _, [] => rfl
  | n, a :: l => by
    simp only [arrange, List.map_cons, List.length_map, ← map_arrange f _ l]
    rw [List.map_insertIdx]

/-- Lists without repetition and with the same members have the same rearrangements. -/
theorem exists_arrange_eq {l l' : List α} (hl : l.Nodup) (hl' : l'.Nodup) (h : ∀ a, a ∈ l ↔ a ∈ l')
    (n : ℕ) : ∃ n', arrange n' l' = arrange n l :=
  exists_arrange ((arrange_perm n l).trans ((List.perm_ext_iff_of_nodup hl hl').mpr h))

/-- An element that nothing else may precede comes first. -/
theorem head_insertionSort {r : α → α → Prop} [DecidableRel r] [Std.Total r] [IsTrans α r]
    {l : List α} {a : α} (ha : a ∈ l) (h : ∀ b ∈ l, b ≠ a → ¬ r b a) :
    (l.insertionSort r).head? = some a := by
  have hsorted := List.pairwise_insertionSort r l
  have hmem : a ∈ l.insertionSort r := (List.mem_insertionSort r).mpr ha
  have hsub : ∀ b ∈ l.insertionSort r, b ∈ l := fun b hb => (List.mem_insertionSort r).mp hb
  rcases hl : l.insertionSort r with _ | ⟨b, bs⟩ <;> rw [hl] at hsorted hmem hsub
  · simp at hmem
  · rcases List.mem_cons.mp hmem with rfl | hbs
    · rfl
    · by_contra hne
      have hba : b ≠ a := fun hba => hne (by rw [hba]; rfl)
      exact h b (hsub b (by simp)) hba ((List.pairwise_cons.mp hsorted).1 a hbs)

end Arrange

/-- A list of rows with pairwise different keys. -/
structure Table {κ ρ : Type} (key : ρ → κ) where
  rows : List ρ
  nodup : (rows.map key).Nodup

namespace Table

variable {κ ρ : Type} {key : ρ → κ}

/-- The table without rows. -/
def empty : Table key := ⟨[], by simp⟩

@[simp] theorem empty_rows : (empty : Table key).rows = [] := rfl

@[ext] theorem ext {t t' : Table key} (h : t.rows = t'.rows) : t = t' := by
  cases t; cases t'; cases h; rfl

/-- Two rows of a table with the same key are the same row. -/
theorem eq_of_key {t : Table key} {r r' : ρ} (hr : r ∈ t.rows) (hr' : r' ∈ t.rows)
    (h : key r = key r') : r = r' := List.inj_on_of_nodup_map t.nodup hr hr' h

theorem nodup_rows (t : Table key) : t.rows.Nodup := t.nodup.of_map

/-! ### Lookup by key -/

section Find
variable [DecidableEq κ]

/-- The row with key `k`, if any. -/
def find (t : Table key) (k : κ) : Option ρ := t.rows.find? fun r => key r = k

theorem find_eq_some {t : Table key} {k : κ} {r : ρ} :
    t.find k = some r ↔ r ∈ t.rows ∧ key r = k := by
  have sound : ∀ {k r}, t.find k = some r → r ∈ t.rows ∧ key r = k := fun {k r} h =>
    ⟨List.mem_of_find?_eq_some h, by simpa using List.find?_some h⟩
  refine ⟨sound, ?_⟩
  rintro ⟨hr, rfl⟩
  rcases h : t.find (key r) with _ | r'
  · have := List.find?_eq_none.mp h r hr
    simp at this
  · rw [eq_of_key (sound h).1 hr (sound h).2]

theorem find_eq_none {t : Table key} {k : κ} : t.find k = none ↔ ∀ r ∈ t.rows, key r ≠ k := by
  simp [find, List.find?_eq_none]

theorem mem_of_find {t : Table key} {k : κ} {r : ρ} (h : t.find k = some r) : r ∈ t.rows :=
  (find_eq_some.mp h).1

theorem key_of_find {t : Table key} {k : κ} {r : ρ} (h : t.find k = some r) : key r = k :=
  (find_eq_some.mp h).2

theorem find_key {t : Table key} {r : ρ} (h : r ∈ t.rows) : t.find (key r) = some r :=
  find_eq_some.mpr ⟨h, rfl⟩

end Find

/-! ### Writes -/

/-- Replace every row matching `p` by its image under `f`, which keeps the key. -/
def modify (t : Table key) (p : ρ → Bool) (f : ρ → ρ) (hf : ∀ r, key (f r) = key r) :
    Table key where
  rows := t.rows.map fun r => if p r then f r else r
  nodup := by
    have : (t.rows.map fun r => if p r then f r else r).map key = t.rows.map key := by
      rw [List.map_map]
      refine List.map_congr_left fun r _ => ?_
      by_cases h : p r <;> simp [h, hf]
    rw [this]; exact t.nodup

/-- Drop every row matching `p`. -/
def erase (t : Table key) (p : ρ → Bool) : Table key where
  rows := t.rows.filter fun r => !p r
  nodup := (List.Sublist.map key List.filter_sublist).nodup t.nodup

theorem mem_modify {t : Table key} {p : ρ → Bool} {f : ρ → ρ} {hf : ∀ r, key (f r) = key r}
    {r : ρ} : r ∈ (t.modify p f hf).rows ↔ ∃ r₀ ∈ t.rows, r = if p r₀ then f r₀ else r₀ := by
  simp only [modify, List.mem_map, eq_comm]

/-- The first row that a query selects, where the change does not matter to the query. -/
theorem find?_modify {t : Table key} {p q : ρ → Bool} {f : ρ → ρ} {hf : ∀ r, key (f r) = key r}
    (hq : ∀ r, q (f r) = q r) : (t.modify p f hf).rows.find? q =
      (t.rows.find? q).map fun r => if p r then f r else r := by
  rw [modify, List.find?_map]
  have hsame : (q ∘ fun r => if p r then f r else r) = q := by
    funext r
    simp only [Function.comp_apply]
    split_ifs
    · exact hq r
    · rfl
  rw [hsame]

/-- The rows a query selects, where the change does not matter to the query. -/
theorem filter_modify {t : Table key} {p q : ρ → Bool} {f : ρ → ρ} {hf : ∀ r, key (f r) = key r}
    (hq : ∀ r, q (f r) = q r) : (t.modify p f hf).rows.filter q =
      (t.rows.filter q).map fun r => if p r then f r else r := by
  rw [modify, List.filter_map]
  congr 1
  refine List.filter_congr fun r _ => ?_
  simp only [Function.comp]
  split_ifs
  · exact hq r
  · rfl

theorem mem_erase {t : Table key} {p : ρ → Bool} {r : ρ} :
    r ∈ (t.erase p).rows ↔ r ∈ t.rows ∧ p r = false := by
  simp [erase]

section Keyed
variable [DecidableEq κ]

/-- Append a row, unless its key is taken. -/
def insert (t : Table key) (r : ρ) : Option (Table key) :=
  if h : key r ∈ t.rows.map key then none
  else some ⟨t.rows ++ [r], by
    rw [List.map_append, List.nodup_append]
    refine ⟨t.nodup, by simp, fun a ha b hb => ?_⟩
    simp only [List.map_cons, List.map_nil, List.mem_singleton] at hb
    rintro rfl
    exact h (hb ▸ ha)⟩

theorem insert_eq_some {t t' : Table key} {r : ρ} (h : t.insert r = some t') :
    (∀ r' ∈ t.rows, key r' ≠ key r) ∧ t'.rows = t.rows ++ [r] := by
  unfold insert at h
  split_ifs at h with hk
  · cases h
    exact ⟨fun r' hr' he => hk (he ▸ List.mem_map_of_mem hr'), rfl⟩

theorem insert_eq_none {t : Table key} {r : ρ} :
    t.insert r = none ↔ ∃ r' ∈ t.rows, key r' = key r := by
  unfold insert
  split_ifs with hk
  · simpa using hk
  · simpa using hk

theorem find_insert {t t' : Table key} {r : ρ} (h : t.insert r = some t') :
    t'.find (key r) = some r := by
  obtain ⟨-, hrows⟩ := insert_eq_some h
  exact find_eq_some.mpr ⟨by simp [hrows], rfl⟩

/-- The other rows are as before. -/
theorem find_insert_of_ne {t t' : Table key} {r : ρ} (h : t.insert r = some t') {k : κ}
    (hk : key r ≠ k) : t'.find k = t.find k := by
  obtain ⟨-, hrows⟩ := insert_eq_some h
  rw [find, find, hrows, List.find?_append]
  simp [hk]

theorem find_modify {t : Table key} {p : ρ → Bool} {f : ρ → ρ} {hf : ∀ r, key (f r) = key r}
    {k : κ} : (t.modify p f hf).find k = (t.find k).map fun r => if p r then f r else r := by
  rcases h : t.find k with _ | r
  · rw [Option.map_none, find_eq_none]
    intro r hr
    obtain ⟨r₀, hr₀, rfl⟩ := mem_modify.mp hr
    have := find_eq_none.mp h r₀ hr₀
    split_ifs <;> simpa [hf] using this
  · obtain ⟨hr, rfl⟩ := find_eq_some.mp h
    rw [Option.map_some, find_eq_some]
    refine ⟨mem_modify.mpr ⟨r, hr, rfl⟩, ?_⟩
    split_ifs <;> simp [hf]

end Keyed

end Table

end GuardTime.Lib.Keyed
