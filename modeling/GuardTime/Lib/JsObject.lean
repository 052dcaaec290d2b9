import Mathlib.Tactic

/-! # Plain objects as dictionaries

`const o = {}` is often used as a dictionary from strings to numbers. It inherits from
`Object.prototype`: reading a key that was never written may find an inherited member, and writing a
number or a text to `__proto__` creates no key.

`tally` is the loop `o[k] = (o[k] || 0) + n` over a list of entries, and `counts` the dictionary it
is meant to build.

* `tally_eq_counts`: as long as no key of the entries is inherited, the loop builds `counts`;
* `spoilt_tally`: an inherited key holds no number after the loop. -/

namespace GuardTime.Lib.JsObject

/-! ### Objects -/

/-- A number or a text. -/
inductive Prim where
  | number (n : ℤ)
  | text (s : String)
deriving DecidableEq

/-- What reading a key finds: an own value, or a member of `Object.prototype`. -/
inductive Found where
  | own (p : Prim)
  | member (name : String)
deriving DecidableEq

/-- The members of `Object.prototype`. -/
def inherited : List String :=
  ["constructor", "__defineGetter__", "__defineSetter__", "hasOwnProperty", "__lookupGetter__",
   "__lookupSetter__", "isPrototypeOf", "propertyIsEnumerable", "toString", "valueOf", "__proto__",
   "toLocaleString"]

/-- `String(member)`: the methods are built-in functions, `__proto__` is the prototype itself. -/
def memberText (name : String) : String :=
  if name = "__proto__" then "[object Object]"
  else if name = "constructor" then "function Object() \x7b [native code] \x7d"
  else "function " ++ name ++ "() \x7b [native code] \x7d"

/-- The own keys of an object with their values, in the order of their creation. -/
abbrev Obj : Type := List (String × Prim)

/-- The own value of a key. -/
def own? : Obj → String → Option Prim
  | [], _ => none
  | (k', p) :: o, k => if k' = k then some p else own? o k

/-- `o[k]`. -/
def get (o : Obj) (k : String) : Option Found :=
  match own? o k with
  | some p => some (.own p)
  | none => if k ∈ inherited then some (.member k) else none

/-- An own key gets a value, in its place if it exists. -/
def put (k : String) (p : Prim) : Obj → Obj
  | [] => [(k, p)]
  | (k', p') :: o => if k' = k then (k, p) :: o else (k', p') :: put k p o

/-- `o[k] = p`: the setter of `__proto__` ignores numbers and texts. -/
def set (o : Obj) (k : String) (p : Prim) : Obj := if k = "__proto__" then o else put k p o

/-- `v || 0`. -/
def orZero : Option Found → Found
  | none => .own (.number 0)
  | some (.own (.text s)) => if s = "" then .own (.number 0) else .own (.text s)
  | some v => v

/-- `v + n`: a sum of numbers, or else a concatenation of texts. -/
def plus : Found → ℤ → Prim
  | .own (.number m), n => .number (m + n)
  | .own (.text s), n => .text (s ++ toString n)
  | .member name, n => .text (memberText name ++ toString n)

/-- `o[k] = (o[k] || 0) + n`. -/
def addTo (o : Obj) (e : String × ℤ) : Obj := set o e.1 (plus (orZero (get o e.1)) e.2)

/-- The loop over all entries, from an empty object. -/
def tally (entries : List (String × ℤ)) : Obj := entries.foldl addTo []

theorem own?_put (k : String) (p : Prim) (k' : String) :
    ∀ o : Obj, own? (put k p o) k' = if k = k' then some p else own? o k'
  | [] => rfl
  | (k₀, p₀) :: o => by
    by_cases h₀ : k₀ = k
    · subst h₀
      simp only [put, own?, if_true]
      split_ifs <;> rfl
    · simp only [put, own?, if_neg h₀, own?_put k p k' o]
      by_cases h : k = k'
      · subst h
        simp [h₀]
      · simp [h]

theorem mem_of_own? {o : Obj} {k : String} {p : Prim} (h : own? o k = some p) : (k, p) ∈ o := by
  induction o with
  | nil => cases h
  | cons e o ih =>
    obtain ⟨k', p'⟩ := e
    simp only [own?] at h
    split_ifs at h with hk
    · cases h
      rw [hk]
      exact List.mem_cons_self
    · exact List.mem_cons_of_mem _ (ih h)

theorem own?_of_mem {o : Obj} {k : String} {p : Prim} (h : (k, p) ∈ o) :
    ∃ p', own? o k = some p' := by
  induction o with
  | nil => cases h
  | cons e o ih =>
    obtain ⟨k', p'⟩ := e
    by_cases hk : k' = k
    · exact ⟨p', if_pos hk⟩
    · rcases List.mem_cons.mp h with heq | hmem
      · exact absurd (congrArg Prod.fst heq).symm hk
      · obtain ⟨p₁, hp₁⟩ := ih hmem
        exact ⟨p₁, by rw [own?, if_neg hk, hp₁]⟩

/-! ### The dictionary it is meant to be -/

/-- The number of a key goes up by `n`. -/
def add (k : String) (n : ℤ) : List (String × ℤ) → List (String × ℤ)
  | [] => [(k, n)]
  | (k', m) :: c => if k' = k then (k, m + n) :: c else (k', m) :: add k n c

/-- The sums of the entries by key. -/
def counts (entries : List (String × ℤ)) : List (String × ℤ) :=
  entries.foldl (fun c e => add e.1 e.2 c) []

/-- The sum of the entries with a key. -/
def total (entries : List (String × ℤ)) (k : String) : ℤ :=
  ((entries.filter (·.1 = k)).map Prod.snd).sum

theorem total_append (entries entries' : List (String × ℤ)) (k : String) :
    total (entries ++ entries') k = total entries k + total entries' k := by
  unfold total
  rw [List.filter_append, List.map_append, List.sum_append]

/-- The numbers of a dictionary are the totals of its entries so far. -/
structure Books (entries : List (String × ℤ)) (c : List (String × ℤ)) : Prop where
  nodup : (c.map Prod.fst).Nodup
  keys : ∀ k, k ∈ c.map Prod.fst ↔ k ∈ entries.map Prod.fst
  number : ∀ k n, (k, n) ∈ c → n = total entries k
  sum : (c.map Prod.snd).sum = (entries.map Prod.snd).sum

theorem keys_add (k : String) (n : ℤ) : ∀ c : List (String × ℤ),
    (add k n c).map Prod.fst = if k ∈ c.map Prod.fst then c.map Prod.fst
      else c.map Prod.fst ++ [k]
  | [] => rfl
  | (k', m) :: c => by
    by_cases hk : k' = k
    · subst hk
      simp [add]
    · have hne : ¬ k = k' := fun h => hk h.symm
      simp only [add, if_neg hk, List.map_cons, keys_add k n c, List.mem_cons, hne, false_or]
      split_ifs <;> rfl

theorem sum_add (k : String) (n : ℤ) : ∀ c : List (String × ℤ),
    ((add k n c).map Prod.snd).sum = (c.map Prod.snd).sum + n
  | [] => by simp [add]
  | (k', m) :: c => by
    by_cases hk : k' = k
    · simp only [add, if_pos hk, List.map_cons, List.sum_cons]
      ring
    · simp only [add, if_neg hk, List.map_cons, List.sum_cons, sum_add k n c]
      ring

/-- The keys are distinct, so an entry of a key that is there is not a new one. -/
theorem mem_add {k : String} {n : ℤ} {k' : String} {m : ℤ} : ∀ {c : List (String × ℤ)},
    (c.map Prod.fst).Nodup → (k', m) ∈ add k n c →
    k' ≠ k ∧ (k', m) ∈ c ∨
      k' = k ∧ ((∃ m₀, (k, m₀) ∈ c ∧ m = m₀ + n) ∨ k ∉ c.map Prod.fst ∧ m = n)
  | [], _, h => by
    obtain ⟨rfl, rfl⟩ : k' = k ∧ m = n := by simpa [add] using h
    exact .inr ⟨rfl, .inr ⟨List.not_mem_nil, rfl⟩⟩
  | (k₀, m₀) :: c, hnodup, h => by
    rw [List.map_cons, List.nodup_cons] at hnodup
    obtain ⟨hfresh, hnodup⟩ := hnodup
    by_cases hk : k₀ = k
    · subst hk
      rw [add, if_pos rfl] at h
      rcases List.mem_cons.mp h with h | h
      · cases h
        exact .inr ⟨rfl, .inl ⟨m₀, List.mem_cons_self, rfl⟩⟩
      · have hkey := List.mem_map_of_mem (f := Prod.fst) h
        exact .inl ⟨fun heq => hfresh (heq ▸ hkey), List.mem_cons_of_mem _ h⟩
    · rw [add, if_neg hk] at h
      rcases List.mem_cons.mp h with h | h
      · cases h
        exact .inl ⟨hk, List.mem_cons_self⟩
      · rcases mem_add hnodup h with ⟨hne, hmem⟩ | ⟨heq, ⟨m₁, hmem, hm⟩ | ⟨habs, hm⟩⟩
        · exact .inl ⟨hne, List.mem_cons_of_mem _ hmem⟩
        · exact .inr ⟨heq, .inl ⟨m₁, List.mem_cons_of_mem _ hmem, hm⟩⟩
        · refine .inr ⟨heq, .inr ⟨?_, hm⟩⟩
          rw [List.map_cons, List.mem_cons, not_or]
          exact ⟨fun h' => hk h'.symm, habs⟩

theorem total_eq_zero {entries : List (String × ℤ)} {k : String}
    (h : k ∉ entries.map Prod.fst) : total entries k = 0 := by
  have hnone : entries.filter (·.1 = k) = [] := by
    rw [List.filter_eq_nil_iff]
    intro e he
    rw [decide_eq_true_iff]
    rintro rfl
    exact h (List.mem_map_of_mem he)
  unfold total
  rw [hnone]
  rfl

theorem total_single (k : String) (n : ℤ) (k' : String) :
    total [(k, n)] k' = if k = k' then n else 0 := by
  unfold total
  split_ifs with h <;> simp [h]

/-- One more entry. -/
theorem Books.add {entries c : List (String × ℤ)} (h : Books entries c) (k : String) (n : ℤ) :
    Books (entries ++ [(k, n)]) (add k n c) where
  nodup := by
    rw [keys_add]
    split_ifs with hk
    · exact h.nodup
    · rw [List.nodup_append]
      refine ⟨h.nodup, List.nodup_singleton k, ?_⟩
      rintro a ha b hb rfl
      exact hk (List.mem_singleton.mp hb ▸ ha)
  keys k' := by
    rw [keys_add, List.map_append, List.mem_append, ← h.keys k']
    split_ifs with hk
    · constructor
      · exact .inl
      · rintro (h' | h')
        · exact h'
        · exact List.mem_singleton.mp h' ▸ hk
    · exact List.mem_append
  number k' m hm := by
    rw [total_append, total_single]
    rcases mem_add h.nodup hm with ⟨hne, hmem⟩ | ⟨rfl, ⟨m₀, hmem, rfl⟩ | ⟨habs, rfl⟩⟩
    · rw [if_neg (Ne.symm hne), h.number k' m hmem, add_zero]
    · rw [if_pos rfl, h.number k' m₀ hmem]
    · rw [if_pos rfl, total_eq_zero fun hk => habs ((h.keys k').mpr hk), zero_add]
  sum := by
    rw [sum_add, h.sum, List.map_append, List.sum_append]
    simp

/-- **The dictionary sums the entries by key.** -/
theorem books_counts (entries : List (String × ℤ)) : Books entries (counts entries) := by
  induction entries using List.reverseRecOn with
  | nil => exact ⟨List.nodup_nil, fun k => Iff.rfl, fun k n h => absurd h List.not_mem_nil, rfl⟩
  | append_singleton entries e ih =>
    have hfold : counts (entries ++ [e]) = JsObject.add e.1 e.2 (counts entries) := by
      unfold counts
      rw [List.foldl_append]
      rfl
    rw [hfold]
    exact ih.add e.1 e.2

/-- The order of the entries does not matter to the books. -/
theorem Books.perm {entries entries' c : List (String × ℤ)} (hperm : entries.Perm entries')
    (h : Books entries c) : Books entries' c where
  nodup := h.nodup
  keys k := by
    rw [h.keys k]
    exact (hperm.map Prod.fst).mem_iff
  number k n hn := by
    have htotal : total entries k = total entries' k :=
      ((hperm.filter _).map Prod.snd).sum_eq
    rw [h.number k n hn, htotal]
  sum := by rw [h.sum, (hperm.map Prod.snd).sum_eq]

/-! ### When the object is that dictionary -/

/-- An object that holds numbers only. -/
def numbers (c : List (String × ℤ)) : Obj := c.map fun e => (e.1, .number e.2)

theorem get_cons_of_ne {k k' : String} (h : k' ≠ k) (p : Prim) (o : Obj) :
    get ((k', p) :: o) k = get o k := by
  unfold get
  rw [own?, if_neg h]

/-- One turn of the loop, on a key that is not inherited. -/
theorem addTo_numbers {k : String} (hk : k ∉ inherited) (n : ℤ) (c : List (String × ℤ)) :
    addTo (numbers c) (k, n) = numbers (add k n c) := by
  have hproto : k ≠ "__proto__" := by
    rintro rfl
    exact hk (by decide)
  unfold addTo set
  rw [if_neg hproto]
  induction c with
  | nil => simp [numbers, put, add, get, own?, hk, orZero, plus]
  | cons e c ih =>
    obtain ⟨k', m⟩ := e
    by_cases h : k' = k
    · subst h
      simp [numbers, put, add, get, own?, orZero, plus]
    · simp only [numbers, List.map_cons, add, if_neg h] at ih ⊢
      rw [get_cons_of_ne h, put, if_neg h, ih]

theorem foldl_addTo_numbers : ∀ (entries : List (String × ℤ)) (c : List (String × ℤ)),
    (∀ e ∈ entries, e.1 ∉ inherited) →
    entries.foldl addTo (numbers c) = numbers (entries.foldl (fun c e => add e.1 e.2 c) c)
  | [], _, _ => rfl
  | e :: entries, c, h => by
    rw [List.foldl_cons, List.foldl_cons, addTo_numbers (h e List.mem_cons_self)]
    exact foldl_addTo_numbers entries _ fun e' he' => h e' (List.mem_cons_of_mem _ he')

/-- **Without inherited keys the loop builds the dictionary.** -/
theorem tally_eq_counts {entries : List (String × ℤ)} (h : ∀ e ∈ entries, e.1 ∉ inherited) :
    tally entries = numbers (counts entries) := foldl_addTo_numbers entries [] h

/-- A key without an own value, or with a text that is not empty. -/
def Spoilt (o : Obj) (k : String) : Prop :=
  own? o k = none ∨ ∃ s, s ≠ "" ∧ own? o k = some (.text s)

theorem append_ne_empty {s : String} (hs : s ≠ "") (t : String) : s ++ t ≠ "" := by
  intro h
  have hlists := congrArg String.toList h
  rw [String.toList_append] at hlists
  have hnil : s.toList = "".toList := (List.append_eq_nil_iff.mp hlists).1
  exact hs (String.toList_inj.mp hnil)

theorem memberText_ne_empty : ∀ k ∈ inherited, memberText k ≠ "" := by decide

theorem spoilt_addTo {o : Obj} {k : String} (hk : k ∈ inherited) (h : Spoilt o k)
    (e : String × ℤ) : Spoilt (addTo o e) k := by
  unfold addTo set
  split_ifs with hproto
  · exact h
  · by_cases he : e.1 = k
    · subst he
      refine .inr ?_
      simp only [own?_put, if_true, get]
      rcases h with hnone | ⟨s, hs, hsome⟩
      · rw [hnone]
        simp only [if_pos hk, orZero, plus]
        exact ⟨_, append_ne_empty (memberText_ne_empty _ hk) _, rfl⟩
      · rw [hsome]
        simp only [orZero, if_neg hs, plus]
        exact ⟨_, append_ne_empty hs _, rfl⟩
    · unfold Spoilt
      rw [own?_put, if_neg he]
      exact h

/-- **An inherited key never holds a number.** -/
theorem spoilt_tally {k : String} (hk : k ∈ inherited) (entries : List (String × ℤ)) :
    Spoilt (tally entries) k := by
  induction entries using List.reverseRecOn with
  | nil => exact .inl rfl
  | append_singleton entries e ih =>
    unfold tally
    rw [List.foldl_append]
    exact spoilt_addTo hk ih e

end GuardTime.Lib.JsObject
