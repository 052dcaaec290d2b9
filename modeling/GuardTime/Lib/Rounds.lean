import Mathlib.Data.List.Perm.Basic
import Mathlib.Data.List.Nodup
import Mathlib.Tactic

/-! # Working off a list in rounds

A list of items is worked off in rounds. A round gives each pending item a verdict or leaves it for
the next round; the last round leaves nothing.

* `WorkedOff.perm`: the items with a verdict, over all rounds, are the items of the list.
* `WorkedOff.pairwise`: when the items are distinct, an item with a verdict is in no later round.
* `perm_three`: verdicts of three kinds split the items into three lists. -/

namespace GuardTime.Lib.Rounds

variable {τ κ : Type}

/-- One round: each pending item with its verdict, or with none when it stays pending. -/
abbrev Round (τ κ : Type) : Type := List (τ × Option κ)

namespace Round

/-- The items the round takes up. -/
def items (r : Round τ κ) : List τ := r.map Prod.fst

/-- The items it leaves for the next round. -/
def again : Round τ κ → List τ
  | [] => []
  | (t, none) :: r => t :: again r
  | (_, some _) :: r => again r

/-- The items it settles, with their verdicts. -/
def settled : Round τ κ → List (τ × κ)
  | [] => []
  | (_, none) :: r => settled r
  | (t, some k) :: r => (t, k) :: settled r

@[simp] theorem items_nil : items ([] : Round τ κ) = [] := rfl

@[simp] theorem items_cons (a : τ × Option κ) (r : Round τ κ) :
    items (a :: r) = a.1 :: items r := rfl

theorem mem_again {t : τ} : ∀ {r : Round τ κ}, t ∈ again r ↔ (t, none) ∈ r
  | [] => by simp [again]
  | (t', none) :: r => by
    rw [again, List.mem_cons, mem_again (r := r), List.mem_cons]
    simp
  | (t', some k) :: r => by
    rw [again, mem_again (r := r), List.mem_cons]
    simp

theorem mem_settled {t : τ} {k : κ} : ∀ {r : Round τ κ}, (t, k) ∈ settled r ↔ (t, some k) ∈ r
  | [] => by simp [settled]
  | (t', none) :: r => by
    rw [settled, mem_settled (r := r), List.mem_cons]
    simp
  | (t', some k') :: r => by
    rw [settled, List.mem_cons, mem_settled (r := r), List.mem_cons]
    simp

theorem mem_items {t : τ} {o : Option κ} {r : Round τ κ} (h : (t, o) ∈ r) : t ∈ r.items :=
  List.mem_map_of_mem h

theorem again_sublist : ∀ r : Round τ κ, (again r).Sublist (items r)
  | [] => .slnil
  | (t, none) :: r => (again_sublist r).cons_cons t
  | (t, some _) :: r => (again_sublist r).cons t

/-- **A round settles an item or leaves it, and never both.** -/
theorem perm_items : ∀ r : Round τ κ, ((settled r).map Prod.fst ++ again r).Perm (items r)
  | [] => .nil
  | (t, none) :: r => List.perm_middle.trans ((perm_items r).cons t)
  | (t, some _) :: r => (perm_items r).cons t

/-- Among distinct items, an item has one entry. -/
theorem not_again {r : Round τ κ} (hr : r.items.Nodup) {t : τ} {k : κ} (h : (t, some k) ∈ r) :
    t ∉ again r := by
  intro ht
  have heq := List.inj_on_of_nodup_map hr h (mem_again.mp ht) rfl
  simp at heq

end Round

/-- The rounds work off a list: each takes up what the one before has left. -/
inductive WorkedOff : List τ → List (Round τ κ) → Prop
  | done : WorkedOff [] []
  | next {r : Round τ κ} {rs : List (Round τ κ)} (h : WorkedOff r.again rs) :
      WorkedOff r.items (r :: rs)

/-- Every item the rounds settle, with its verdict, in the order of the rounds. -/
def ledger (rs : List (Round τ κ)) : List (τ × κ) := rs.flatMap Round.settled

@[simp] theorem ledger_nil : ledger ([] : List (Round τ κ)) = [] := rfl

@[simp] theorem ledger_cons (r : Round τ κ) (rs : List (Round τ κ)) :
    ledger (r :: rs) = r.settled ++ ledger rs := rfl

theorem mem_ledger {t : τ} {k : κ} {rs : List (Round τ κ)} :
    (t, k) ∈ ledger rs ↔ ∃ r ∈ rs, (t, some k) ∈ r := by
  simp [ledger, Round.mem_settled]

namespace WorkedOff

variable {pending : List τ} {rs : List (Round τ κ)}

/-- **Every item is settled exactly once.** -/
theorem perm (h : WorkedOff pending rs) : ((ledger rs).map Prod.fst).Perm pending := by
  induction h with
  | done => exact .nil
  | @next r rs _ ih =>
    rw [ledger_cons, List.map_append]
    exact (ih.append_left _).trans r.perm_items

/-- No round takes up an item that was not pending at the start. -/
theorem subset (h : WorkedOff pending rs) : ∀ r ∈ rs, r.items ⊆ pending := by
  induction h with
  | done => exact fun r hr => absurd hr (List.not_mem_nil)
  | @next r rs _ ih =>
    intro r' hr'
    rcases List.mem_cons.mp hr' with rfl | hr'
    · exact List.Subset.refl _
    · exact fun t ht => r.again_sublist.subset (ih r' hr' ht)

/-- **An item with a verdict is in no later round.** -/
theorem pairwise (h : WorkedOff pending rs) (hnodup : pending.Nodup) :
    rs.Pairwise fun r r' => ∀ t k, (t, some k) ∈ r → t ∉ r'.items := by
  induction h with
  | done => exact .nil
  | @next r rs h ih =>
    refine .cons ?_ (ih (hnodup.sublist r.again_sublist))
    intro r' hr' t k ht hmem
    exact r.not_again hnodup ht (h.subset r' hr' hmem)

end WorkedOff

/-- Three kinds of verdict split a list into three. -/
theorem perm_three [DecidableEq κ] {a b c : κ} (hab : a ≠ b) (hac : a ≠ c) (hbc : b ≠ c)
    (hall : ∀ k : κ, k = a ∨ k = b ∨ k = c) : ∀ l : List (τ × κ),
    (l.filter (·.2 = a) ++ l.filter (·.2 = b) ++ l.filter (·.2 = c)).Perm l
  | [] => .nil
  | (t, k) :: l => by
    have ih := perm_three hab hac hbc hall l
    rcases hall k with rfl | rfl | rfl
    · simpa [hab, hac] using ih.cons (t, k)
    · simp only [List.filter_cons, hab.symm, hbc, decide_true, decide_false, if_true,
        Bool.false_eq_true, if_false, List.append_assoc, List.cons_append]
      refine List.perm_middle.trans (List.Perm.cons _ ?_)
      rw [← List.append_assoc]
      exact ih
    · simp only [List.filter_cons, hac.symm, hbc.symm, decide_true, decide_false, if_true,
        Bool.false_eq_true, if_false]
      exact List.perm_middle.trans (ih.cons _)

end GuardTime.Lib.Rounds
