import Mathlib.Tactic

/-! # Regular expressions without choice

Patterns of characters, sets, counted repetitions, groups and anchors. There is no choice in them,
so from a given place such a pattern matches in one way at most. `parse` reads the text of a pattern
one character at a time and refuses what is not of this kind; `exec` looks for the first place where
the pattern matches and gives the captured groups. Characters are compared up to `canon`.

* `step_plain`: without anchors and groups, the pattern passes over exactly the words it reads;
* `exec_anchored`: a pattern that starts with an anchor is tried in one place;
* `feedAll_append`: reading a text in parts. -/

namespace GuardTime.Lib.Regex

/-! ### Patterns -/

inductive Pattern where
  | empty
  | start
  | finish
  | set (ranges : List (Char × Char))
  | seq (p q : Pattern)
  | times (n : ℕ) (p : Pattern)
  | group (i : ℕ) (p : Pattern)
deriving DecidableEq

/-- One character. -/
def Pattern.literal (c : Char) : Pattern := .set [(c, c)]

/-- A place in a text, with the groups captured so far. What was passed over stands last character
first, and the groups captured last stand first. -/
@[ext]
structure Cursor where
  before : List Char
  rest : List Char
  groups : List (ℕ × List Char)
deriving DecidableEq

section Matching
variable (canon : Char → Char)

/-- The character is in one of the ranges. -/
def hit (ranges : List (Char × Char)) (x : Char) : Bool := ranges.any fun r =>
  (List.range (r.2.toNat + 1 - r.1.toNat)).any fun k =>
    (r.1.toNat + k).isValidChar ∧ canon (Char.ofNat (r.1.toNat + k)) = canon x

/-- A step `n` times. -/
def repeatStep (f : Cursor → Option Cursor) : ℕ → Cursor → Option Cursor
  | 0, c => some c
  | n + 1, c => (f c).bind (repeatStep f n)

/-- Where the pattern leads from a place, if it matches there. -/
def step : Pattern → Cursor → Option Cursor
  | .empty, c => some c
  | .start, c => if c.before = [] then some c else none
  | .finish, c => if c.rest = [] then some c else none
  | .set ranges, c =>
    match c.rest with
    | [] => none
    | x :: rest => if hit canon ranges x then some ⟨x :: c.before, rest, c.groups⟩ else none
  | .seq p q, c => (step p c).bind (step q)
  | .times n p, c => repeatStep (step p) n c
  | .group i p, c => (step p c).map fun c' =>
    { c' with groups := (i, c.rest.take (c.rest.length - c'.rest.length)) :: c'.groups }

/-- The groups captured at the first place where the pattern matches. -/
def exec (p : Pattern) (s : List Char) : Option (List (ℕ × List Char)) :=
  (List.range (s.length + 1)).findSome? fun i =>
    (step canon p ⟨(s.take i).reverse, s.drop i, []⟩).map Cursor.groups

/-! ### Words -/

/-- The pattern has no anchors and no groups. -/
def Pattern.Plain : Pattern → Prop
  | .empty => True
  | .start | .finish | .group _ _ => False
  | .set _ => True
  | .seq p q => p.Plain ∧ q.Plain
  | .times _ p => p.Plain

/-- The pattern without anchors reads the word. -/
def Reads : Pattern → List Char → Prop
  | .empty, w => w = []
  | .start, _ | .finish, _ => False
  | .set ranges, w => ∃ x, w = [x] ∧ hit canon ranges x = true
  | .seq p q, w => ∃ u v, w = u ++ v ∧ Reads p u ∧ Reads q v
  | .times n p, w => ∃ us : List (List Char), us.length = n ∧ w = us.flatten ∧ ∀ u ∈ us, Reads p u
  | .group _ p, w => Reads p w

variable {canon} {p q : Pattern} {c c' : Cursor}

/-- The second place is where the first one gets by passing over the word. -/
structure Passes (w : List Char) (c c' : Cursor) : Prop where
  rest : c.rest = w ++ c'.rest
  before : c'.before = w.reverse ++ c.before
  groups : c'.groups = c.groups

theorem passes_nil : Passes [] c c' ↔ c' = c := by
  constructor
  · rintro ⟨hrest, hbefore, hgroups⟩
    exact Cursor.ext hbefore hrest.symm hgroups
  · rintro rfl
    exact ⟨rfl, rfl, rfl⟩

theorem passes_append {u v : List Char} :
    Passes (u ++ v) c c' ↔ ∃ d, Passes u c d ∧ Passes v d c' := by
  constructor
  · rintro ⟨hrest, hbefore, hgroups⟩
    exact ⟨⟨u.reverse ++ c.before, v ++ c'.rest, c.groups⟩,
      ⟨by rw [hrest, List.append_assoc], rfl, rfl⟩,
      ⟨rfl, by rw [hbefore, List.reverse_append, List.append_assoc], hgroups⟩⟩
  · rintro ⟨d, hu, hv⟩
    exact ⟨by rw [hu.rest, hv.rest, List.append_assoc],
      by rw [hv.before, hu.before, List.reverse_append, List.append_assoc],
      hv.groups.trans hu.groups⟩

theorem repeatStep_plain {f : Cursor → Option Cursor} {P : List Char → Prop}
    (hf : ∀ c c', f c = some c' ↔ ∃ w, P w ∧ Passes w c c') : ∀ {n : ℕ} {c c' : Cursor},
    repeatStep f n c = some c' ↔
      ∃ us : List (List Char), us.length = n ∧ (∀ u ∈ us, P u) ∧ Passes us.flatten c c'
  | 0, c, c' => by
    simp only [repeatStep, List.length_eq_zero_iff]
    constructor
    · intro h
      obtain rfl := Option.some.inj h
      exact ⟨[], rfl, by simp, passes_nil.mpr rfl⟩
    · rintro ⟨us, rfl, -, hpass⟩
      rw [passes_nil.mp hpass]
  | n + 1, c, c' => by
    simp only [repeatStep, Option.bind_eq_some_iff, hf]
    constructor
    · rintro ⟨d, ⟨w, hw, hpass⟩, hrest⟩
      obtain ⟨us, hlen, hus, hpass'⟩ := (repeatStep_plain hf).mp hrest
      refine ⟨w :: us, by simp [hlen], ?_, passes_append.mpr ⟨d, hpass, hpass'⟩⟩
      intro u hu
      rcases List.mem_cons.mp hu with rfl | hu
      · exact hw
      · exact hus u hu
    · rintro ⟨us, hlen, hus, hpass⟩
      obtain ⟨w, us, rfl⟩ := List.exists_cons_of_length_eq_add_one hlen
      obtain ⟨d, hd, hd'⟩ := passes_append.mp hpass
      refine ⟨d, ⟨w, hus w
        (by simp), hd⟩, (repeatStep_plain hf).mpr ⟨us, by simpa using hlen, ?_, hd'⟩⟩
      exact fun u hu => hus u (by simp [hu])

/-- **A plain pattern passes over the words it reads.** -/
theorem step_plain : ∀ {p : Pattern}, p.Plain → ∀ c c' : Cursor,
    (step canon p c = some c' ↔ ∃ w, Reads canon p w ∧ Passes w c c')
  | .empty, _, c, c' => by
    constructor
    · intro h
      exact ⟨[], rfl, passes_nil.mpr (Option.some.inj h).symm⟩
    · rintro ⟨w, rfl, hpass⟩
      rw [passes_nil.mp hpass]
      rfl
  | .set ranges, _, ⟨before, rest, groups⟩, c' => by
    constructor
    · intro h
      rcases rest with _ | ⟨x, rest⟩
      · cases h
      · simp only [step] at h
        split_ifs at h with hx
        obtain rfl := Option.some.inj h
        exact ⟨[x], ⟨x, rfl, hx⟩, ⟨rfl, rfl, rfl⟩⟩
    · rintro ⟨w, ⟨x, rfl, hx⟩, ⟨hrest, hbefore, hgroups⟩⟩
      obtain rfl : rest = x :: c'.rest := hrest
      simp only [step, hx, if_true]
      exact congrArg some (Cursor.ext hbefore.symm rfl hgroups.symm)
  | .seq p q, hplain, c, c' => by
    simp only [step, Option.bind_eq_some_iff, step_plain hplain.1, step_plain hplain.2]
    constructor
    · rintro ⟨d, ⟨u, hu, hpass⟩, v, hv, hpass'⟩
      exact ⟨u ++ v, ⟨u, v, rfl, hu, hv⟩, passes_append.mpr ⟨d, hpass, hpass'⟩⟩
    · rintro ⟨w, ⟨u, v, rfl, hu, hv⟩, hpass⟩
      obtain ⟨d, hd, hd'⟩ := passes_append.mp hpass
      exact ⟨d, ⟨u, hu, hd⟩, v, hv, hd'⟩
  | .times n p, hplain, c, c' => by
    rw [step, repeatStep_plain (@step_plain p hplain)]
    constructor
    · rintro ⟨us, hlen, hus, hpass⟩
      exact ⟨us.flatten, ⟨us, hlen, rfl, hus⟩, hpass⟩
    · rintro ⟨w, ⟨us, hlen, rfl, hus⟩, hpass⟩
      exact ⟨us, hlen, hus, hpass⟩

/-- A group keeps the word its pattern passes over. -/
theorem step_group (hp : p.Plain) {i : ℕ} : step canon (.group i p) c = some c' ↔
    ∃ w, Reads canon p w ∧ c.rest = w ++ c'.rest ∧ c'.before = w.reverse ++ c.before ∧
      c'.groups = (i, w) :: c.groups := by
  have htake : ∀ {w rest : List Char}, (w ++ rest).take ((w ++ rest).length - rest.length) = w := by
    intro w rest
    rw [List.length_append, Nat.add_sub_cancel, List.take_left]
  rw [step, Option.map_eq_some_iff]
  constructor
  · rintro ⟨d, hd, rfl⟩
    obtain ⟨w, hw, hpass⟩ := (step_plain hp c d).mp hd
    refine ⟨w, hw, hpass.rest, hpass.before, ?_⟩
    rw [hpass.groups, hpass.rest, htake]
  · rintro ⟨w, hw, hrest, hbefore, hgroups⟩
    refine ⟨⟨c'.before, c'.rest, c.groups⟩,
      (step_plain hp c _).mpr ⟨w, hw, hrest, hbefore, rfl⟩, ?_⟩
    rw [hrest, htake]
    exact Cursor.ext rfl rfl hgroups.symm

/-! ### Literal text -/

/-- The pattern, then the characters of a text. -/
def Pattern.followedBy (p : Pattern) (s : List Char) : Pattern :=
  s.foldl (fun p a => .seq p (.literal a)) p

theorem hit_iff {ranges : List (Char × Char)} {x : Char} : hit canon ranges x = true ↔
    ∃ r ∈ ranges, ∃ a, r.1 ≤ a ∧ a ≤ r.2 ∧ canon a = canon x := by
  simp only [hit, List.any_eq_true, List.mem_range, decide_eq_true_eq, Char.le_def,
    UInt32.le_iff_toNat_le, Char.toNat_val]
  refine exists_congr fun r => and_congr_right fun _ => ⟨?_, ?_⟩
  · rintro ⟨k, hk, hvalid, hcanon⟩
    have hnat : (Char.ofNat (r.1.toNat + k)).toNat = r.1.toNat + k := by
      rw [Char.ofNat, dif_pos hvalid]
      rfl
    exact ⟨_, by omega, by omega, hcanon⟩
  · rintro ⟨a, hlo, hhi, hcanon⟩
    have hnat : r.1.toNat + (a.toNat - r.1.toNat) = a.toNat := by omega
    refine ⟨a.toNat - r.1.toNat, by omega, ?_, ?_⟩
    · rw [hnat]
      exact a.valid
    · rw [hnat, Char.ofNat_toNat]
      exact hcanon

theorem hit_literal {a x : Char} : hit canon [(a, a)] x = true ↔ canon a = canon x := by
  rw [hit_iff]
  constructor
  · rintro ⟨r, hr, b, hlo, hhi, hcanon⟩
    obtain rfl := List.mem_singleton.mp hr
    obtain rfl : a = b := Char.le_antisymm hlo hhi
    exact hcanon
  · intro h
    exact ⟨(a, a), by simp, a, Char.le_refl a, Char.le_refl a, h⟩

theorem reads_literal {a : Char} {w : List Char} :
    Reads canon (.literal a) w ↔ ∃ x, w = [x] ∧ canon a = canon x := by
  simp only [Pattern.literal, Reads, hit_literal]

/-- Repeating a set reads the words of that length over it. -/
theorem reads_times_set {n : ℕ} {ranges : List (Char × Char)} {w : List Char} :
    Reads canon (.times n (.set ranges)) w ↔ w.length = n ∧ ∀ x ∈ w, hit canon ranges x = true := by
  constructor
  · rintro ⟨us, rfl, rfl, hus⟩
    induction us with
    | nil => simp
    | cons u us ih =>
      obtain ⟨x, rfl, hx⟩ := hus u (by simp)
      obtain ⟨hlen, hall⟩ := ih fun u hu => hus u (by simp [hu])
      refine ⟨by simp [hlen], fun y hy => ?_⟩
      rcases List.mem_cons.mp hy with rfl | hy
      · exact hx
      · exact hall y hy
  · rintro ⟨rfl, hall⟩
    have hflat : w = (w.map fun x => [x]).flatten := by
      rw [← List.flatMap_def, List.flatMap_singleton']
    refine ⟨w.map fun x => [x], List.length_map _, hflat, fun u hu => ?_⟩
    obtain ⟨x, hx, rfl⟩ := List.mem_map.mp hu
    exact ⟨x, rfl, hall x hx⟩

/-- A text is passed over where the characters are those of the text up to `canon`. -/
theorem step_followedBy {s : List Char} : step canon (p.followedBy s) c = some c' ↔
    ∃ d w, step canon p c = some d ∧ List.Forall₂ (fun a x => canon a = canon x) s w ∧
      Passes w d c' := by
  induction s generalizing p with
  | nil =>
    constructor
    · intro h
      exact ⟨c', [], h, .nil, passes_nil.mpr rfl⟩
    · rintro ⟨d, w, hd, hw, hpass⟩
      obtain rfl := List.forall₂_nil_left_iff.mp hw
      rwa [passes_nil.mp hpass]
  | cons a s ih =>
    have hfirst : p.followedBy (a :: s) = (Pattern.seq p (.literal a)).followedBy s := rfl
    rw [hfirst, ih]
    simp only [step, Option.bind_eq_some_iff,
      step_plain (show (Pattern.literal a).Plain from trivial),
      reads_literal]
    constructor
    · rintro ⟨e, w, ⟨d, hd, u, ⟨x, rfl, hx⟩, hpass⟩, hw, hpass'⟩
      exact ⟨d, x :: w, hd, .cons hx hw, passes_append.mpr ⟨e, hpass, hpass'⟩⟩
    · rintro ⟨d, w, hd, hw, hpass⟩
      obtain ⟨x, v, hx, hv, rfl⟩ := List.forall₂_cons_left_iff.mp hw
      obtain ⟨e, he, he'⟩ := passes_append.mp (show Passes ([x] ++ v) d c' from hpass)
      exact ⟨e, v, ⟨d, hd, [x], ⟨x, rfl, hx⟩, he⟩, hv, he'⟩

/-! ### Anchors -/

variable (canon) in
/-- The pattern only matches at the start of a text. -/
def Anchored (p : Pattern) : Prop := ∀ c, c.before ≠ [] → step canon p c = none

theorem anchored_start : Anchored canon .start := fun _ hc => if_neg hc

theorem Anchored.seq (h : Anchored canon p) : Anchored canon (.seq p q) := fun c hc => by
  rw [step, h c hc]
  rfl

theorem Anchored.followedBy (h : Anchored canon p) (s : List Char) :
    Anchored canon (p.followedBy s) := by
  induction s generalizing p with
  | nil => exact h
  | cons a s ih => exact ih h.seq

theorem exec_anchored (h : Anchored canon p) (s : List Char) :
    exec canon p s = (step canon p ⟨[], s, []⟩).map Cursor.groups := by
  have hlater : ((List.range s.length).map Nat.succ).findSome? (fun i =>
      (step canon p ⟨(s.take i).reverse, s.drop i, []⟩).map Cursor.groups) = none := by
    rw [List.findSome?_eq_none_iff]
    intro i hi
    obtain ⟨j, hj, rfl⟩ := List.mem_map.mp hi
    have hne : (s.take (j + 1)).reverse ≠ [] := by
      have hpos : s ≠ [] := List.ne_nil_of_length_pos (by have := List.mem_range.mp hj; omega)
      simp [hpos]
    rw [h _ hne, Option.map_none]
  rw [exec, List.range_succ_eq_map, List.findSome?_cons, hlater, List.take_zero, List.reverse_nil,
    List.drop_zero]
  cases (step canon p ⟨[], s, []⟩).map Cursor.groups <;> rfl

end Matching

/-! ### Reading patterns -/

inductive Mode where
  | plain
  | escape
  | set (ranges : List (Char × Char)) (pending : Option Char) (dash : Bool)
  | count (n : Option ℕ)
deriving DecidableEq

/-- A text read in part: the groups that are open, each with what stands before it, and the current
group, with its last element apart. -/
structure Reader where
  mode : Mode
  outer : List (ℕ × Pattern)
  done : Pattern
  last : Option Pattern
  opened : ℕ
deriving DecidableEq

namespace Reader

def init : Reader := ⟨.plain, [], .empty, none, 0⟩

/-- What was read of the current group. -/
def whole (r : Reader) : Pattern := match r.last with
  | none => r.done
  | some p => .seq r.done p

/-- One more element, which may be repeated. -/
def add (r : Reader) (p : Pattern) : Reader :=
  { r with mode := .plain, done := r.whole, last := some p }

/-- One more element, which may not. -/
def addFixed (r : Reader) (p : Pattern) : Reader :=
  { r with mode := .plain, done := .seq r.whole p, last := none }

def feedPlain (r : Reader) (x : Char) : Option Reader :=
  match x with
  | '^' => some (r.addFixed .start)
  | '$' => some (r.addFixed .finish)
  | '(' => some
    { r with
      outer := (r.opened + 1, r.whole) :: r.outer, done := .empty, last := none,
        opened := r.opened + 1 }
  | ')' => match r.outer with
    | [] => none
    | (i, p) :: outer => some { r with outer, done := p, last := some (.group i r.whole) }
  | '[' => some { r with mode := .set [] none false }
  | '{' => some { r with mode := .count none }
  | '\\' => some { r with mode := .escape }
  | '*' | '+' | '?' | '|' | '.' | ']' | '}' => none
  | x => some (r.add (.literal x))

def feedEscape (r : Reader) (x : Char) : Option Reader :=
  if x ∈ "^$\\.*+?()[]\x7b\x7d|/".toList then some (r.add (.literal x)) else none

def feedSet (r : Reader) (ranges : List (Char × Char)) (pending : Option Char) (dash : Bool)
    (x : Char) : Option Reader :=
  let single := ranges ++ (pending.map fun a => (a, a)).toList
  match x with
  | '^' | '\\' => none
  | ']' => some (r.add (.set (if dash then single ++ [('-', '-')] else single)))
  | x => match pending, dash with
    | some a, true =>
      if a ≤ x then some { r with mode := .set (ranges ++ [(a, x)]) none false } else none
    | some _, false =>
      if x = '-' then some { r with mode := .set ranges pending true }
      else some { r with mode := .set single (some x) false }
    | none, _ => some { r with mode := .set ranges (some x) false }

def feedCount (r : Reader) (n : Option ℕ) (x : Char) : Option Reader :=
  if x.isDigit then some { r with mode := .count (some (n.getD 0 * 10 + (x.toNat - '0'.toNat))) }
  else match x, n, r.last with
    | '}', some n, some p =>
      some { r with mode := .plain, done := .seq r.done (.times n p), last := none }
    | _, _, _ => none

/-- The reader after one more character, if the text is still one of these patterns. -/
def feed (r : Reader) (x : Char) : Option Reader :=
  match r.mode with
  | .plain => r.feedPlain x
  | .escape => r.feedEscape x
  | .set ranges pending dash => r.feedSet ranges pending dash x
  | .count n => r.feedCount n x

def feedAll (r : Reader) (s : List Char) : Option Reader := s.foldlM feed r

theorem feedAll_append (r : Reader) (s t : List Char) :
    r.feedAll (s ++ t) = (r.feedAll s).bind fun r => r.feedAll t := List.foldlM_append

end Reader

/-- The pattern of a text. -/
def parse (s : String) : Option Pattern := (Reader.init.feedAll s.toList).bind fun r =>
  if r.mode = .plain ∧ r.outer = [] then some r.whole else none

end GuardTime.Lib.Regex
