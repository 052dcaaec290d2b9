import Mathlib.Tactic
import GuardTime.Lib.Keyed

/-! # Tables split by an owner

A predicate splits a table into the rows of one owner and those of the others. Two tables with the
same owned rows (`Shares`) answer alike to queries that select owned rows only, and take alike the
writes on such rows, which leave the other rows as they are. -/

namespace GuardTime.Lib.Owners

open GuardTime.Lib.Keyed

variable {ρ κ : Type} {key : ρ → κ} (mine : ρ → Bool)

/-- The rows of the owner. -/
def ownRows (t : Table key) : List ρ := t.rows.filter mine

/-- The rows of the others. -/
def otherRows (t : Table key) : List ρ := t.rows.filter fun r => !mine r

/-- The tables have the same owned rows, and the first the other rows `others`. -/
structure Shares (others : List ρ) (t t' : Table key) : Prop where
  own : ownRows mine t = ownRows mine t'
  others : otherRows mine t = others

variable {mine} {others : List ρ} {t t' : Table key} {p : ρ → Bool}

/-! ### Queries -/

theorem filter_ownRows (hp : ∀ r, p r = true → mine r = true) (t : Table key) :
    (ownRows mine t).filter p = t.rows.filter p := by
  rw [ownRows, List.filter_filter]
  refine List.filter_congr fun r _ => ?_
  rcases hr : p r with _ | _
  · rfl
  · rw [hp r hr]
    rfl

theorem find?_ownRows (hp : ∀ r, p r = true → mine r = true) (t : Table key) :
    (ownRows mine t).find? p = t.rows.find? p := by
  rw [ownRows, List.find?_filter]
  refine congrArg (fun q => t.rows.find? q) (funext fun r => ?_)
  rcases hr : p r with _ | _
  · simp
  · simp [hp r hr]

theorem mem_ownRows {r : ρ} (hr : mine r = true) (t : Table key) :
    r ∈ ownRows mine t ↔ r ∈ t.rows := by
  simp [ownRows, hr]

namespace Shares

variable (h : Shares mine others t t')
include h

theorem filter (hp : ∀ r, p r = true → mine r = true) : t.rows.filter p = t'.rows.filter p := by
  rw [← filter_ownRows hp t, h.own, filter_ownRows hp]

theorem find? (hp : ∀ r, p r = true → mine r = true) : t.rows.find? p = t'.rows.find? p := by
  rw [← find?_ownRows hp t, h.own, find?_ownRows hp]

/-- As many rows match, where the rows that match are owned. -/
theorem countP (hp : ∀ r ∈ t.rows, p r = true → mine r = true)
    (hp' : ∀ r ∈ t'.rows, p r = true → mine r = true) : t.rows.countP p = t'.rows.countP p := by
  have hown : ∀ l : List ρ, (∀ r ∈ l, p r = true → mine r = true) →
      l.countP p = l.countP fun r => p r && mine r := fun l hl =>
    List.countP_congr fun r hr => by
      rw [Bool.and_eq_true]
      exact ⟨fun hpr => ⟨hpr, hl r hr hpr⟩, fun hpr => hpr.1⟩
  rw [hown _ hp, hown _ hp', List.countP_eq_length_filter, List.countP_eq_length_filter,
    h.filter fun r hr => (Bool.and_eq_true_iff.mp hr).2]

/-- An owned row is found in both. -/
theorem find [DecidableEq κ] {k : κ} {r : ρ} (hfind : t.find k = some r) (hr : mine r = true) :
    t'.find k = some r := by
  obtain ⟨hmem, hkey⟩ := Table.find_eq_some.mp hfind
  refine Table.find_eq_some.mpr ⟨?_, hkey⟩
  rwa [← mem_ownRows hr, ← h.own, mem_ownRows hr]

end Shares

/-! ### Writes -/

theorem filter_modify {q : ρ → Bool} {f : ρ → ρ} {hf : ∀ r, key (f r) = key r}
    (hq : ∀ r, q (f r) = q r) (t : Table key) : (t.modify p f hf).rows.filter q =
      (t.rows.filter q).map fun r => if p r = true then f r else r := by
  change (t.rows.map _).filter q = _
  rw [List.filter_map]
  refine congrArg (List.map _) (List.filter_congr fun r _ => ?_)
  rw [Function.comp]
  split_ifs
  · exact hq r
  · rfl

namespace Shares

variable (h : Shares mine others t t')
include h

/-- A write on owned rows. -/
theorem modify {f : ρ → ρ} (hf : ∀ r, key (f r) = key r) (hmine : ∀ r, mine (f r) = mine r)
    (hp : ∀ r ∈ t.rows, p r = true → mine r = true) :
    Shares mine others (t.modify p f hf) (t'.modify p f hf) := by
  constructor
  · have hown := h.own
    unfold ownRows at hown ⊢
    rw [filter_modify hmine, filter_modify hmine, hown]
  · have hothers := h.others
    unfold otherRows at hothers ⊢
    have hnot : ∀ r, (!mine (f r)) = !mine r := fun r => by rw [hmine]
    rw [filter_modify hnot, ← hothers]
    refine (List.map_congr_left fun r hr => ?_).trans (List.map_id _)
    obtain ⟨hmem, hnot⟩ := List.mem_filter.mp hr
    refine if_neg fun hpr => ?_
    rw [hp r hmem hpr] at hnot
    cases hnot

/-- A new row of the owner. -/
theorem insert [DecidableEq κ] {r : ρ} {t₁ t₁' : Table key} (hins : t.insert r = some t₁)
    (hins' : t'.insert r = some t₁') (hr : mine r = true) : Shares mine others t₁ t₁' := by
  obtain ⟨-, hrows⟩ := Table.insert_eq_some hins
  obtain ⟨-, hrows'⟩ := Table.insert_eq_some hins'
  have hown := h.own
  have hothers := h.others
  unfold ownRows at hown
  unfold otherRows at hothers
  constructor
  · rw [ownRows, ownRows, hrows, hrows', List.filter_append, List.filter_append, hown]
  · rw [otherRows, hrows, List.filter_append, hothers]
    simp [hr]

/-- A row of the owner is refused in both or in neither, where no other row has its key. -/
theorem insert_cases [DecidableEq κ] {r : ρ} (hr : mine r = true)
    (hfree : ∀ r' ∈ t.rows, mine r' = false → key r' ≠ key r)
    (hfree' : ∀ r' ∈ t'.rows, mine r' = false → key r' ≠ key r) :
    (t.insert r = none ∧ t'.insert r = none) ∨
      ∃ t₁ t₁', t.insert r = some t₁ ∧ t'.insert r = some t₁' ∧ Shares mine others t₁ t₁' := by
  have hmem : ∀ {r' : ρ}, mine r' = true → (r' ∈ t.rows ↔ r' ∈ t'.rows) := by
    intro r' hr'
    rw [← mem_ownRows hr' t, h.own, mem_ownRows hr']
  -- the row that stands in the way is the owner's
  have howner : ∀ {r' : ρ}, (mine r' = false → key r' ≠ key r) → key r' = key r →
      mine r' = true := by
    intro r' hne hkey
    by_contra hfalse
    exact hne (Bool.eq_false_of_not_eq_true hfalse) hkey
  rcases hins : t.insert r with _ | t₁ <;> rcases hins' : t'.insert r with _ | t₁'
  · exact .inl ⟨rfl, rfl⟩
  · obtain ⟨r', hr', hkey⟩ := Table.insert_eq_none.mp hins
    have hmine := howner (hfree r' hr') hkey
    exact absurd hkey ((Table.insert_eq_some hins').1 r' ((hmem hmine).mp hr'))
  · obtain ⟨r', hr', hkey⟩ := Table.insert_eq_none.mp hins'
    have hmine := howner (hfree' r' hr') hkey
    exact absurd hkey ((Table.insert_eq_some hins).1 r' ((hmem hmine).mpr hr'))
  · exact .inr ⟨t₁, t₁', rfl, rfl, h.insert hins hins' hr⟩

end Shares

/-! ### The other rows are arbitrary -/

section Arbitrary

/-- Without the rows of the others. -/
def onlyOwn (mine : ρ → Bool) (t : Table key) : Table key := t.erase fun r => !mine r

theorem rows_onlyOwn (t : Table key) : (onlyOwn mine t).rows = ownRows mine t := by
  change t.rows.filter (fun r => !!mine r) = _
  simp [ownRows]

theorem ownRows_onlyOwn (t : Table key) : ownRows mine (onlyOwn mine t) = ownRows mine t := by
  rw [ownRows, rows_onlyOwn, ownRows, List.filter_filter]
  simp

variable [DecidableEq κ] {k : κ}

/-- A key of no owned row may be missing. -/
theorem exists_without (t : Table key) (hk : ∀ r ∈ t.rows, mine r = true → key r ≠ k) :
    ∃ t' : Table key, ownRows mine t' = ownRows mine t ∧ t'.find k = none := by
  refine ⟨onlyOwn mine t, ownRows_onlyOwn t, Table.find_eq_none.mpr fun r hr => ?_⟩
  rw [rows_onlyOwn] at hr
  obtain ⟨hmem, hmine⟩ := List.mem_filter.mp hr
  exact hk r hmem hmine

/-- A row of another owner may be there. -/
theorem exists_with (t : Table key) {r : ρ} (hr : mine r = false)
    (hk : ∀ r' ∈ t.rows, mine r' = true → key r' ≠ key r) :
    ∃ t' : Table key, ownRows mine t' = ownRows mine t ∧ t'.find (key r) = some r := by
  rcases hins : (onlyOwn mine t).insert r with _ | t'
  · obtain ⟨r', hr', hkey⟩ := Table.insert_eq_none.mp hins
    rw [rows_onlyOwn] at hr'
    obtain ⟨hmem, hmine⟩ := List.mem_filter.mp hr'
    exact absurd hkey (hk r' hmem hmine)
  · refine ⟨t', ?_, Table.find_eq_some.mpr ⟨?_, rfl⟩⟩
    · have hown := (ownRows_onlyOwn t : ownRows mine (onlyOwn mine t) = _)
      rw [ownRows, (Table.insert_eq_some hins).2, List.filter_append]
      rw [ownRows] at hown
      rw [hown]
      simp [hr]
    · rw [(Table.insert_eq_some hins).2]
      simp

end Arbitrary

end GuardTime.Lib.Owners
