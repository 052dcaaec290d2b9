import Mathlib.Tactic

/-! # Caches whose entries expire

A cache maps keys to entries; an entry written at `setAt` with time to live `ttl` answers at every
time before `setAt + ttl` and is gone from then on. -/

namespace GuardTime.Lib.TtlCache

/-- A cached value, the time of its write and its time to live. -/
structure Entry (β : Type) where
  value : β
  setAt : ℤ
  ttl : ℤ

/-- The entry still answers at time `t`. -/
def Entry.Live {β : Type} (e : Entry β) (t : ℤ) : Prop := t < e.setAt + e.ttl

instance {β : Type} (e : Entry β) (t : ℤ) : Decidable (e.Live t) := Int.decLt ..

/-- The last entry written under each key. -/
abbrev Cache (κ β : Type) : Type := κ → Option (Entry β)

namespace Cache

variable {κ β : Type}

/-- The cache nothing was written to. -/
def empty : Cache κ β := fun _ => none

/-- The value under `k` at time `t`, unless it has expired. -/
def get (c : Cache κ β) (t : ℤ) (k : κ) : Option β :=
  (c k).bind fun e => if e.Live t then some e.value else none

theorem get_eq_some {c : Cache κ β} {t : ℤ} {k : κ} {v : β} :
    c.get t k = some v ↔ ∃ e, c k = some e ∧ e.Live t ∧ e.value = v := by
  unfold get
  rcases c k with _ | e
  · simp
  · by_cases h : e.Live t <;> simp [h]

theorem get_eq_none {c : Cache κ β} {t : ℤ} {k : κ} :
    c.get t k = none ↔ ∀ e, c k = some e → ¬ e.Live t := by
  unfold get
  rcases c k with _ | e
  · simp
  · by_cases h : e.Live t <;> simp [h]

section Set
variable [DecidableEq κ]

/-- Write `v` under `k` at time `t`, to live for `ttl`. -/
def set (c : Cache κ β) (t : ℤ) (k : κ) (v : β) (ttl : ℤ) : Cache κ β :=
  fun k' => if k' = k then some ⟨v, t, ttl⟩ else c k'

@[simp] theorem set_self (c : Cache κ β) (t : ℤ) (k : κ) (v : β) (ttl : ℤ) :
    c.set t k v ttl k = some ⟨v, t, ttl⟩ := if_pos rfl

@[simp] theorem set_of_ne (c : Cache κ β) (t : ℤ) {k k' : κ} (v : β) (ttl : ℤ) (h : k' ≠ k) :
    c.set t k v ttl k' = c k' := if_neg h

end Set

end Cache

end GuardTime.Lib.TtlCache
