import Mathlib.Tactic

/-! # Sums by class

The elements of a list carry values and fall into classes `0, 1, …` by an index. A bucket is the sum
of the values of one class.

* `getElem?_fill`: adding every value to the bucket of its index, one element at a time, gives the
  buckets;
* `sum_bucket`: the buckets add up to the values of the elements whose class has one;
* `lt_of_sum_bucket`: only then have they all values, when these are positive;
* `eq_of_buckets`: two indices that at every cut differ in one direction only, and give the same
  buckets of positive values, are the same. -/

namespace GuardTime.Lib.Buckets

variable {α M : Type}

section Sums
variable [AddCommMonoid M]

/-- The sum over a class. -/
def bucket (index : α → ℤ) (val : α → M) (l : List α) (i : ℤ) : M :=
  (l.map fun a => if index a = i then val a else 0).sum

/-- The sum over the classes before a cut. -/
def before (index : α → ℤ) (val : α → M) (l : List α) (i : ℤ) : M :=
  (l.map fun a => if index a < i then val a else 0).sum

variable {index : α → ℤ} {val : α → M} {l : List α}

@[simp] theorem bucket_nil (i : ℤ) : bucket index val [] i = 0 := rfl

@[simp] theorem bucket_cons (a : α) (i : ℤ) :
    bucket index val (a :: l) i = (if index a = i then val a else 0) + bucket index val l i := by
  unfold bucket
  rw [List.map_cons, List.sum_cons]

/-- A cut further on takes one more class. -/
theorem before_succ (i : ℤ) :
    before index val l (i + 1) = before index val l i + bucket index val l i := by
  unfold before bucket
  rw [← List.sum_map_add]
  congr 1
  refine List.map_congr_left fun a _ => ?_
  rcases lt_trichotomy (index a) i with h | h | h
  · rw [if_pos (by omega), if_pos h, if_neg (by omega), add_zero]
  · rw [if_pos (by omega), if_neg (by omega), if_pos h, zero_add]
  · rw [if_neg (by omega), if_neg (by omega), if_neg (by omega), add_zero]

theorem before_zero (h : ∀ a ∈ l, 0 ≤ index a) : before index val l 0 = 0 := by
  refine List.sum_eq_zero fun x hx => ?_
  obtain ⟨a, ha, rfl⟩ := List.mem_map.mp hx
  exact if_neg (not_lt.mpr (h a ha))

theorem before_of_lt {n : ℤ} (h : ∀ a ∈ l, index a < n) :
    before index val l n = (l.map val).sum := by
  unfold before
  congr 1
  exact List.map_congr_left fun a ha => if_pos (h a ha)

/-- **The buckets add up.** -/
theorem sum_bucket (h : ∀ a ∈ l, 0 ≤ index a) (n : ℕ) :
    ((List.range n).map fun i : ℕ => bucket index val l i).sum = before index val l n := by
  induction n with
  | zero => exact (before_zero h).symm
  | succ n ih =>
    rw [List.range_succ, List.map_append, List.sum_append, ih]
    push_cast
    rw [before_succ, List.map_singleton, List.sum_singleton]

/-- Equal buckets have equal sums before every cut. -/
theorem before_congr {index' : α → ℤ} {n : ℕ} (h₀ : ∀ a ∈ l, 0 ≤ index a)
    (h₀' : ∀ a ∈ l, 0 ≤ index' a)
    (h : ∀ i : ℕ, i < n → bucket index val l i = bucket index' val l i) {i : ℕ} (hi : i ≤ n) :
    before index val l i = before index' val l i := by
  induction i with
  | zero =>
    have hzero : before index val l 0 = 0 := before_zero h₀
    have hzero' : before index' val l 0 = 0 := before_zero h₀'
    exact hzero.trans hzero'.symm
  | succ i ih =>
    push_cast
    rw [before_succ, before_succ, ih (by omega), h i (by omega)]

theorem map_bucket {N : Type} [AddCommMonoid N] (f : M →+ N) (index : α → ℤ) (val : α → M)
    (l : List α) (i : ℤ) :
    f (bucket index val l i) = bucket index (fun a => f (val a)) l i := by
  unfold bucket
  rw [map_list_sum, List.map_map]
  congr 1
  refine List.map_congr_left fun a _ => ?_
  by_cases h : index a = i
  · simp [h]
  · simp [h]

/-! ### Filling -/

/-- One element is added to the bucket of its index, if there is one. -/
def pour (n : ℕ) (index : α → ℤ) (val : α → M) (buckets : List M) (a : α) : List M :=
  if 0 ≤ index a ∧ index a < n then buckets.modify (index a).toNat (· + val a) else buckets

@[simp] theorem length_pour (n : ℕ) (buckets : List M) (a : α) :
    (pour n index val buckets a).length = buckets.length := by
  unfold pour
  split
  · exact List.length_modify ..
  · rfl

theorem length_foldl_pour (n : ℕ) (l : List α) (buckets : List M) :
    (l.foldl (pour n index val) buckets).length = buckets.length := by
  induction l generalizing buckets with
  | nil => rfl
  | cons a l ih => rw [List.foldl_cons, ih, length_pour]

theorem getElem?_pour {n i : ℕ} (hi : i < n) {buckets : List M} {x : M} (h : buckets[i]? = some x)
    (a : α) : (pour n index val buckets a)[i]? =
      some (x + if index a = i then val a else 0) := by
  unfold pour
  by_cases hr : 0 ≤ index a ∧ index a < n
  · rw [if_pos hr, List.getElem?_modify, h]
    by_cases he : index a = i
    · simp [he]
    · have hother : (index a).toNat ≠ i := by omega
      simp [he, hother]
  · rw [if_neg hr, h, if_neg (by omega), add_zero]

/-- **The buckets that are filled.** -/
theorem getElem?_foldl_pour {n i : ℕ} (hi : i < n) (l : List α) {buckets : List M} {x : M}
    (h : buckets[i]? = some x) :
    (l.foldl (pour n index val) buckets)[i]? = some (x + bucket index val l i) := by
  induction l generalizing buckets x with
  | nil => rw [List.foldl_nil, h, bucket_nil, add_zero]
  | cons a l ih => rw [List.foldl_cons, ih (getElem?_pour hi h a), bucket_cons, add_assoc]

/-- Empty buckets, filled. -/
theorem foldl_pour_replicate (index : α → ℤ) (val : α → M) (n : ℕ) (l : List α) :
    l.foldl (pour n index val) (List.replicate n 0) =
      (List.range n).map fun i : ℕ => bucket index val l i := by
  refine List.ext_getElem? fun i => ?_
  by_cases hi : i < n
  · have hzero : (List.replicate n (0 : M))[i]? = some 0 := by simp [hi]
    rw [getElem?_foldl_pour hi l hzero, zero_add]
    simp [hi]
  · rw [List.getElem?_eq_none (by rw [length_foldl_pour]; simpa using hi),
      List.getElem?_eq_none (by simpa using hi)]

end Sums

/-! ### Two indices -/

section Two
variable [AddCommMonoid M] [PartialOrder M] [IsOrderedCancelAddMonoid M]

/-- Lists of summands that only grow, but add up to the same, are the same. -/
theorem eq_of_sum_eq {f g : α → M} : ∀ {l : List α}, (∀ a ∈ l, f a ≤ g a) →
    (l.map f).sum = (l.map g).sum → ∀ a ∈ l, f a = g a
  | [], _, _ => fun a ha => absurd ha List.not_mem_nil
  | b :: l, hle, hsum => by
    have hb : f b ≤ g b := hle b List.mem_cons_self
    have hl : (l.map f).sum ≤ (l.map g).sum :=
      List.sum_le_sum fun a ha => hle a (List.mem_cons_of_mem _ ha)
    rw [List.map_cons, List.map_cons, List.sum_cons, List.sum_cons] at hsum
    obtain ⟨hhead, htail⟩ := (add_eq_add_iff_eq_and_eq hb hl).mp hsum
    intro a ha
    rcases List.mem_cons.mp ha with rfl | ha
    · exact hhead
    · exact eq_of_sum_eq (fun a ha => hle a (List.mem_cons_of_mem _ ha)) htail a ha

variable {index index' : α → ℤ} {val : α → M} {l : List α} {n : ℕ}

/-- Where one index is below a cut only if the other is, equal sums of positive values below the cut
make them agree on it. -/
theorem lt_iff_of_before (hpos : ∀ a ∈ l, 0 < val a) {i : ℤ}
    (himp : ∀ a ∈ l, index a < i → index' a < i)
    (h : before index val l i = before index' val l i) : ∀ a ∈ l, index a < i ↔ index' a < i := by
  have hle : ∀ a ∈ l, (if index a < i then val a else 0) ≤ if index' a < i then val a else 0 := by
    intro a ha
    by_cases hlt : index a < i
    · rw [if_pos hlt, if_pos (himp a ha hlt)]
    · rw [if_neg hlt]
      split
      · exact (hpos a ha).le
      · exact le_rfl
  intro a ha
  have heq := eq_of_sum_eq hle h a ha
  refine ⟨himp a ha, fun hlt' => ?_⟩
  by_contra hlt
  rw [if_neg hlt, if_pos hlt'] at heq
  exact (hpos a ha).ne heq

/-- Buckets with all of a positive sum leave no element out. -/
theorem lt_of_sum_bucket (hpos : ∀ a ∈ l, 0 < val a) (h₀ : ∀ a ∈ l, 0 ≤ index a)
    (h : ((List.range n).map fun i : ℕ => bucket index val l i).sum = (l.map val).sum) :
    ∀ a ∈ l, index a < n := by
  rw [sum_bucket h₀] at h
  have hle : ∀ a ∈ l, (if index a < n then val a else 0) ≤ val a := by
    intro a ha
    split
    · exact le_rfl
    · exact (hpos a ha).le
  intro a ha
  have heq := eq_of_sum_eq hle h a ha
  by_contra hlt
  rw [if_neg hlt] at heq
  exact (hpos a ha).ne heq

/-- **Indices that nowhere cross both ways are determined by the buckets.** -/
theorem eq_of_buckets (hpos : ∀ a ∈ l, 0 < val a) (h₀ : ∀ a ∈ l, 0 ≤ index a)
    (hn : ∀ a ∈ l, index a < n) (h₀' : ∀ a ∈ l, 0 ≤ index' a)
    (hcut : ∀ i : ℤ, (∀ a ∈ l, index a < i → index' a < i) ∨ ∀ a ∈ l, index' a < i → index a < i)
    (h : ∀ i : ℕ, i < n → bucket index val l i = bucket index' val l i) :
    ∀ a ∈ l, index' a = index a := by
  have hiff : ∀ i : ℕ, i ≤ n → ∀ a ∈ l, index a < i ↔ index' a < i := by
    intro i hi
    have hbefore := before_congr h₀ h₀' h hi
    rcases hcut i with himp | himp
    · exact lt_iff_of_before hpos himp hbefore
    · exact fun a ha => (lt_iff_of_before hpos himp hbefore.symm a ha).symm
  intro a ha
  obtain ⟨i, hi⟩ := Int.eq_ofNat_of_zero_le (h₀ a ha)
  have hlt := hn a ha
  -- The other index is below the cut after this class, and not below the one before it.
  have hsucc := hiff (i + 1) (by omega) a ha
  have hself := hiff i (by omega) a ha
  push_cast at hsucc
  omega

end Two

end GuardTime.Lib.Buckets
