import Mathlib.Tactic

/-! # Last write wins

A list of writes is collected in a map that keeps one value for each key: a write takes the place of
an earlier one with the same key. What is left of each key is its last write (`mem_collect`).

Writes of a second layer come after those of the first (`layered`), whatever the order inside the
layers. The values left do not depend on this order exactly when the writes that can come last for
their key, the `Effective` ones, say the same (`order_free_iff`). -/

namespace GuardTime.Lib.LastWins

variable {α κ β : Type} [DecidableEq κ] (key : α → κ)

/-- The map after a write. -/
def put (a : α) : List α → List α
  | [] => [a]
  | b :: l => if key b = key a then a :: l else b :: put a l

/-- The map after the writes. -/
def collect (l : List α) : List α := l.foldl (fun acc a => put key a acc) []

/-- The write is the last one for its key. -/
def Last (a : α) (l : List α) : Prop := ∃ l₁ l₂, l = l₁ ++ a :: l₂ ∧ ∀ b ∈ l₂, key b ≠ key a

variable {key}

/-! ### Collecting -/

theorem mem_put {a b : α} : ∀ {l : List α}, (l.map key).Nodup →
    (b ∈ put key a l ↔ b = a ∨ b ∈ l ∧ key b ≠ key a)
  | [], _ => by simp [put]
  | c :: l, hnodup => by
    obtain ⟨hc, hl⟩ := List.nodup_cons.mp hnodup
    have hother : ∀ b ∈ l, key b ≠ key c := fun b hb he => hc (he ▸ List.mem_map_of_mem hb)
    rw [put]
    split_ifs with h
    · constructor
      · intro hb
        rcases List.mem_cons.mp hb with rfl | hb
        · exact .inl rfl
        · exact .inr ⟨by simp [hb], h ▸ hother b hb⟩
      · rintro (rfl | ⟨hb, hne⟩)
        · simp
        · rcases List.mem_cons.mp hb with rfl | hb
          · exact absurd h hne
          · simp [hb]
    · rw [List.mem_cons, mem_put hl]
      constructor
      · rintro (rfl | rfl | ⟨hb, hne⟩)
        · exact .inr ⟨by simp, h⟩
        · exact .inl rfl
        · exact .inr ⟨by simp [hb], hne⟩
      · rintro (rfl | ⟨hb, hne⟩)
        · exact .inr (.inl rfl)
        · rcases List.mem_cons.mp hb with rfl | hb
          · exact .inl rfl
          · exact .inr (.inr ⟨hb, hne⟩)

theorem nodup_put {a : α} : ∀ {l : List α}, (l.map key).Nodup → ((put key a l).map key).Nodup
  | [], _ => by simp [put]
  | c :: l, hnodup => by
    obtain ⟨hc, hl⟩ := List.nodup_cons.mp hnodup
    rw [put]
    split_ifs with h
    · exact List.nodup_cons.mpr ⟨h ▸ hc, hl⟩
    · refine List.nodup_cons.mpr ⟨fun hmem => ?_, nodup_put hl⟩
      obtain ⟨b, hb, hbc⟩ := List.mem_map.mp hmem
      rcases (mem_put hl).mp hb with rfl | ⟨hb, -⟩
      · exact h hbc.symm
      · exact hc (hbc ▸ List.mem_map_of_mem hb)

theorem collect_concat (l : List α) (a : α) :
    collect key (l ++ [a]) = put key a (collect key l) := by
  rw [collect, List.foldl_append]
  rfl

theorem nodup_collect (l : List α) : ((collect key l).map key).Nodup := by
  induction l using List.reverseRecOn with
  | nil => simp [collect]
  | append_singleton l a ih =>
    rw [collect_concat]
    exact nodup_put ih

omit [DecidableEq κ] in
theorem last_concat {l : List α} {a b : α} :
    Last key b (l ++ [a]) ↔ b = a ∨ Last key b l ∧ key b ≠ key a := by
  constructor
  · rintro ⟨l₁, l₂, hl, hlast⟩
    rcases List.eq_nil_or_concat l₂ with rfl | ⟨l₂', c, rfl⟩
    · obtain ⟨-, hab⟩ := List.append_inj' hl rfl
      exact .inl (List.cons.inj hab).1.symm
    · have hl' : l ++ [a] = (l₁ ++ b :: l₂') ++ [c] := by simpa using hl
      obtain ⟨rfl, hc⟩ := List.append_inj' hl' rfl
      obtain rfl : a = c := by simpa using hc
      exact .inr ⟨⟨l₁, l₂', rfl, fun d hd => hlast d (by simp [hd])⟩,
        fun he => hlast a (by simp) he.symm⟩
  · rintro (rfl | ⟨⟨l₁, l₂, rfl, hlast⟩, hne⟩)
    · exact ⟨l, [], rfl, by simp⟩
    · refine ⟨l₁, l₂ ++ [a], by simp, fun d hd => ?_⟩
      rcases List.mem_append.mp hd with hd | hd
      · exact hlast d hd
      · rw [List.mem_singleton.mp hd]
        exact fun he => hne he.symm

/-- **The last write of each key is left.** -/
theorem mem_collect {l : List α} {a : α} : a ∈ collect key l ↔ Last key a l := by
  induction l using List.reverseRecOn with
  | nil => simp [collect, Last]
  | append_singleton l b ih => rw [collect_concat, mem_put (nodup_collect l), last_concat, ih]

omit [DecidableEq κ] in
theorem Last.mem {l : List α} {a : α} (h : Last key a l) : a ∈ l := by
  obtain ⟨l₁, l₂, rfl, -⟩ := h
  simp

/-- There is one last write of a key. -/
theorem Last.unique {l : List α} {a b : α} (ha : Last key a l) (hb : Last key b l)
    (h : key a = key b) : a = b :=
  List.inj_on_of_nodup_map (nodup_collect l) (mem_collect.mpr ha) (mem_collect.mpr hb) h

theorem exists_last {l : List α} {b : α} (h : b ∈ l) : ∃ a, Last key a l ∧ key a = key b := by
  induction l using List.reverseRecOn with
  | nil => simp at h
  | append_singleton l c ih =>
    by_cases hkey : key c = key b
    · exact ⟨c, last_concat.mpr (.inl rfl), hkey⟩
    · have hb : b ∈ l := by
        rcases List.mem_append.mp h with hb | hb
        · exact hb
        · exact absurd (by rw [List.mem_singleton.mp hb]) hkey
      obtain ⟨a, ha, hab⟩ := ih hb
      exact ⟨a, last_concat.mpr (.inr ⟨ha, fun he => hkey (he ▸ hab)⟩), hab⟩

/-! ### Layers -/

section Layers
variable (p q : α → Bool)

/-- The writes of the first layer, then those of the second. -/
def layered (l : List α) : List α := l.filter p ++ l.filter q

variable (key)

/-- The write can come last for its key: it is of the second layer, or of the first one and the
second has none for its key. -/
def Effective (l : List α) (a : α) : Prop :=
  a ∈ l ∧ (q a = true ∨ p a = true ∧ ∀ b ∈ l, q b = true → key b ≠ key a)

variable {key p q}

omit [DecidableEq κ] in
theorem effective_of_last {l : List α} {a : α} (h : Last key a (layered p q l)) :
    Effective key p q l a := by
  obtain ⟨l₁, l₂, hl, hlast⟩ := h
  by_cases hq : a ∈ l.filter q
  · exact ⟨(List.mem_filter.mp hq).1, .inl (List.mem_filter.mp hq).2⟩
  have hmem : a ∈ l.filter p ++ l.filter q := by
    change a ∈ layered p q l
    rw [hl]
    simp
  have hp := List.mem_filter.mp ((List.mem_append.mp hmem).resolve_right hq)
  refine ⟨hp.1, .inr ⟨hp.2, fun b hb hqb he => ?_⟩⟩
  -- the writes of the second layer all come after `a`
  rcases List.append_eq_append_iff.mp hl with ⟨s, hs, hs'⟩ | ⟨s, hs, hs'⟩
  · exact hq (by rw [hs']; simp)
  · rcases s with _ | ⟨c, s⟩
    · rw [List.nil_append] at hs'
      exact hq (by rw [← hs']; simp)
    · obtain ⟨rfl, rfl⟩ := List.cons.inj hs'
      exact hlast b (by simp [hb, hqb]) he

omit [DecidableEq κ] in
theorem Effective.perm {l l' : List α} (h : l'.Perm l) {a : α} (ha : Effective key p q l' a) :
    Effective key p q l a :=
  ⟨h.mem_iff.mp ha.1, ha.2.imp id fun hp => ⟨hp.1, fun b hb => hp.2 b (h.mem_iff.mpr hb)⟩⟩

omit [DecidableEq κ] in
/-- An effective write comes last in some order. -/
theorem exists_perm_last [DecidableEq α] {l : List α} {a : α} (h : Effective key p q l a) :
    ∃ l', l'.Perm l ∧ Last key a (layered p q l') := by
  obtain ⟨ha, h⟩ := h
  refine ⟨l.erase a ++ [a],
    (List.perm_append_singleton a _).trans (List.perm_cons_erase ha).symm, ?_⟩
  rw [layered, List.filter_append, List.filter_append]
  rcases h with hq | ⟨hp, hnone⟩
  · rw [List.filter_singleton (p := q), hq, cond_true, ← List.append_assoc]
    exact last_concat.mpr (.inl rfl)
  · rw [List.filter_singleton (p := p), hp, cond_true]
    refine ⟨(l.erase a).filter p, (l.erase a).filter q ++ [a].filter q, by simp, fun b hb => ?_⟩
    have hb' : b ∈ l ∧ q b = true := by
      rcases List.mem_append.mp hb with hb | hb
      · exact ⟨List.mem_of_mem_erase (List.mem_filter.mp hb).1, (List.mem_filter.mp hb).2⟩
      · obtain ⟨hb, hqb⟩ := List.mem_filter.mp hb
        exact ⟨List.mem_singleton.mp hb ▸ ha, hqb⟩
    exact hnone b hb'.1 hb'.2

variable (key p q) in
/-- **Order matters only where effective writes differ.** -/
theorem order_free_iff [DecidableEq α] {val : α → β} (hval : ∀ a b, val a = val b → key a = key b)
    {l : List α} :
    (∀ l' l'', l'.Perm l → l''.Perm l → ∀ v, v ∈ (collect key (layered p q l')).map val ↔
      v ∈ (collect key (layered p q l'')).map val) ↔
    ∀ a b, Effective key p q l a → Effective key p q l b → key a = key b → val a = val b := by
  constructor
  · intro h a b ha hb hkey
    obtain ⟨la, hla, hlasta⟩ := exists_perm_last ha
    obtain ⟨lb, hlb, hlastb⟩ := exists_perm_last hb
    have hmem := (h la lb hla hlb (val a)).mp (List.mem_map_of_mem (mem_collect.mpr hlasta))
    obtain ⟨c, hc, hca⟩ := List.mem_map.mp hmem
    have hcb := (mem_collect.mp hc).unique hlastb ((hval c a hca).trans hkey)
    rw [← hca, hcb]
  · have hone : (∀ a b, Effective key p q l a → Effective key p q l b → key a = key b →
        val a = val b) → ∀ l' l'', l'.Perm l → l''.Perm l → ∀ v,
        v ∈ (collect key (layered p q l')).map val →
          v ∈ (collect key (layered p q l'')).map val := by
      intro hsame l' l'' hl' hl'' v hv
      obtain ⟨a, ha, rfl⟩ := List.mem_map.mp hv
      have hlast := mem_collect.mp ha
      have hmem : a ∈ layered p q l'' := by
        have hperm : (layered p q l').Perm (layered p q l'') :=
          ((hl'.trans hl''.symm).filter p).append ((hl'.trans hl''.symm).filter q)
        exact hperm.mem_iff.mp hlast.mem
      obtain ⟨b, hb, hkey⟩ : ∃ b, Last key b (layered p q l'') ∧ key b = key a := exists_last hmem
      rw [hsame a b ((effective_of_last hlast).perm hl')
        ((effective_of_last hb).perm hl'') hkey.symm]
      exact List.mem_map_of_mem (mem_collect.mpr hb)
    intro hsame l' l'' hl' hl'' v
    exact ⟨hone hsame l' l'' hl' hl'' v, hone hsame l'' l' hl'' hl' v⟩

end Layers

end GuardTime.Lib.LastWins
