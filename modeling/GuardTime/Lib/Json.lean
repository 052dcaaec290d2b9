import Mathlib
import GuardTime.Lib.Js

/-! # Reading JSON

`parse` is `JSON.parse` on texts whose numbers are integers and whose escapes are no surrogates. The
fuel is the length of the text, which is enough for what was written: a value is read back, whatever
follows it (`reads`, `parse_stringify`). -/

namespace GuardTime.Lib.Json

open GuardTime.Lib.Js

/-! ### Reading -/

/-- White space between tokens. -/
def isBlank (c : Char) : Bool := c ∈ [' ', '\n', '\r', '\t']

/-- The text after its white space. -/
def skip (cs : List Char) : List Char := cs.dropWhile isBlank

/-- The value of a hexadecimal digit. -/
def hexValue (c : Char) : Option ℕ :=
  if 48 ≤ c.toNat ∧ c.toNat ≤ 57 then some (c.toNat - 48)
  else if 97 ≤ c.toNat ∧ c.toNat ≤ 102 then some (c.toNat - 87)
  else if 65 ≤ c.toNat ∧ c.toNat ≤ 70 then some (c.toNat - 55)
  else none

/-- The character of four hexadecimal digits. -/
def codeUnit (a b c d : Char) : Option Char := do
  let n := 4096 * (← hexValue a) + 256 * (← hexValue b) + 16 * (← hexValue c) + (← hexValue d)
  if 0xD800 ≤ n ∧ n ≤ 0xDFFF then none else some (Char.ofNat n)

/-- The character a short escape stands for. -/
def unescape : Char → Option Char
  | '"' => some '"'
  | '\\' => some '\\'
  | '/' => some '/'
  | 'b' => some (Char.ofNat 8)
  | 'f' => some (Char.ofNat 12)
  | 'n' => some '\n'
  | 'r' => some '\r'
  | 't' => some '\t'
  | _ => none

/-- The characters of a string literal up to its closing quote, and the text after it. -/
def literal : List Char → Option (List Char × List Char)
  | [] => none
  | '"' :: cs => some ([], cs)
  | '\\' :: 'u' :: a :: b :: c :: d :: cs => do
    let x ← codeUnit a b c d
    (literal cs).map fun (s, r) => (x :: s, r)
  | '\\' :: c :: cs => do
    let x ← unescape c
    (literal cs).map fun (s, r) => (x :: s, r)
  | c :: cs => if c.toNat < 32 then none else (literal cs).map fun (s, r) => (c :: s, r)

/-- A natural number without leading zeros. -/
def natural (cs : List Char) : Option (ℕ × List Char) :=
  let ds := cs.takeWhile Char.isDigit
  if ds = [] ∨ (ds.head? = some '0' ∧ ds ≠ ['0']) then none
  else some (Nat.ofDigitChars 10 ds 0, cs.dropWhile Char.isDigit)

/-- An integer. -/
def integer : List Char → Option (ℤ × List Char)
  | '-' :: cs => (natural cs).map fun (n, r) => (-n, r)
  | cs => (natural cs).map fun (n, r) => (n, r)

mutual

/-- A value at the start of the text, and the text after it. -/
def value : ℕ → List Char → Option (Json × List Char)
  | 0, _ => none
  | fuel + 1, cs =>
    match skip cs with
    | 'n' :: 'u' :: 'l' :: 'l' :: cs => some (.null, cs)
    | 't' :: 'r' :: 'u' :: 'e' :: cs => some (.bool true, cs)
    | 'f' :: 'a' :: 'l' :: 's' :: 'e' :: cs => some (.bool false, cs)
    | '"' :: cs => (literal cs).map fun (s, r) => (.str (String.ofList s), r)
    | '[' :: cs =>
      match skip cs with
      | ']' :: cs => some (.arr [], cs)
      | _ => (elements fuel cs).map fun (l, r) => (.arr l, r)
    | '\x7b' :: cs =>
      match skip cs with
      | '\x7d' :: cs => some (.obj [], cs)
      | _ => (members fuel cs).map fun (ms, r) => (.obj ms, r)
    | cs => (integer cs).map fun (n, r) => (.num n, r)

/-- The elements of an array up to its closing bracket. -/
def elements : ℕ → List Char → Option (List Json × List Char)
  | 0, _ => none
  | fuel + 1, cs => do
    let (v, cs) ← value fuel cs
    match skip cs with
    | ']' :: cs => some ([v], cs)
    | ',' :: cs => (elements fuel cs).map fun (l, r) => (v :: l, r)
    | _ => none

/-- The members of an object up to its closing brace. -/
def members : ℕ → List Char → Option (List (String × Json) × List Char)
  | 0, _ => none
  | fuel + 1, cs =>
    match skip cs with
    | '"' :: cs => do
      let (k, cs) ← literal cs
      match skip cs with
      | ':' :: cs => do
        let (v, cs) ← value fuel cs
        match skip cs with
        | '\x7d' :: cs => some ([(String.ofList k, v)], cs)
        | ',' :: cs => (members fuel cs).map fun (ms, r) => ((String.ofList k, v) :: ms, r)
        | _ => none
      | _ => none
    | _ => none

end

/-- `JSON.parse(s)`. -/
def parse (s : String) : Option Json :=
  match value (s.toList.length + 1) s.toList with
  | some (v, r) => if skip r = [] then some v else none
  | none => none

/-! ### Strings -/

theorem hexValue_hexDigit : ∀ n < 16, hexValue (hexDigit n) = some n := by decide

theorem literal_cons {c : Char} {cs : List Char} (hquote : c ≠ '"') (hslash : c ≠ '\\')
    (hc : ¬ c.toNat < 32) :
    literal (c :: cs) = (literal cs).map fun (s, r) => (c :: s, r) := by
  rw [literal.eq_def]
  split <;> simp_all

/-- An escaped character is read back. -/
theorem literal_escape (c : Char) (cs : List Char) :
    literal (escape c ++ cs) = (literal cs).map fun (s, r) => (c :: s, r) := by
  unfold escape
  split_ifs with h1 h2 h3 h4 h5 h6 h7 h8
  · subst h1; rfl
  · subst h2; rfl
  · subst h3; rfl
  · subst h4; rfl
  · subst h5; rfl
  · have hc : c = Char.ofNat 8 := by rw [← h6, Char.ofNat_toNat]
    subst hc; rfl
  · have hc : c = Char.ofNat 12 := by rw [← h7, Char.ofNat_toNat]
    subst hc; rfl
  · have hcode : codeUnit '0' '0' (hexDigit (c.toNat / 16)) (hexDigit (c.toNat % 16)) = some c := by
      have hzero : hexValue '0' = some 0 := rfl
      have hsum : 16 * (c.toNat / 16) + c.toNat % 16 = c.toNat := Nat.div_add_mod _ _
      simp only [codeUnit, hzero, hexValue_hexDigit (c.toNat / 16) (by omega),
        hexValue_hexDigit (c.toNat % 16) (by omega), Option.bind_eq_bind, Option.bind_some,
        Nat.mul_zero, Nat.zero_add, hsum]
      rw [if_neg (by omega), Char.ofNat_toNat]
    change ((codeUnit '0' '0' _ _).bind fun x => (literal cs).map fun (s, r) => (x :: s, r)) = _
    rw [hcode]
    rfl
  · exact literal_cons h1 h2 h8

theorem literal_quote (s r : List Char) : literal (s.flatMap escape ++ '"' :: r) = some (s, r) := by
  induction s with
  | nil => rfl
  | cons c s ih =>
    rw [List.flatMap_cons, List.append_assoc, literal_escape, ih]
    rfl

theorem toList_quote (s : String) :
    (quote s).toList = '"' :: (s.toList.flatMap escape ++ ['"']) := by
  simp [quote]

/-! ### Numbers -/

/-- No digit follows. -/
def Ends (r : List Char) : Prop := ∀ c ∈ r.head?, c.isDigit = false

theorem toDigits_head (n : ℕ) :
    (Nat.toDigits 10 n).head? = some '0' → Nat.toDigits 10 n = ['0'] := by
  induction n using Nat.base_induction 10 (by decide) with
  | single m hm =>
    intro h
    rw [Nat.toDigits_of_lt_base hm] at h ⊢
    rw [List.head?_cons, Option.some.injEq] at h
    rw [h]
  | digit m k hk hm ih =>
    intro h
    rw [← Nat.toDigits_append_toDigits (by decide) hm hk,
      List.head?_append_of_ne_nil _ Nat.toDigits_ne_nil] at h
    have hzero := congrArg (fun l => Nat.ofDigitChars 10 l 0) (ih h)
    rw [Nat.ofDigitChars_ten_toDigits] at hzero
    exact absurd hzero hm.ne'

theorem natural_toString (n : ℕ) {r : List Char} (hr : Ends r) :
    natural ((toString n).toList ++ r) = some (n, r) := by
  have hall : ∀ c ∈ Nat.toDigits 10 n, c.isDigit = true := fun c hc =>
    Nat.isDigit_of_mem_toDigits (by decide) (by decide) hc
  have hrest : r.takeWhile Char.isDigit = [] ∧ r.dropWhile Char.isDigit = r := by
    rcases r with _ | ⟨c, r⟩
    · exact ⟨rfl, rfl⟩
    · have hc := hr c rfl
      rw [List.takeWhile_cons, List.dropWhile_cons, hc]
      exact ⟨rfl, rfl⟩
  have htake : (Nat.toDigits 10 n ++ r).takeWhile Char.isDigit = Nat.toDigits 10 n := by
    rw [List.takeWhile_append_of_pos hall, hrest.1, List.append_nil]
  have hdrop : (Nat.toDigits 10 n ++ r).dropWhile Char.isDigit = r := by
    rw [List.dropWhile_append_of_pos hall, hrest.2]
  have htext : (toString n).toList = Nat.toDigits 10 n := by
    rw [Nat.toString_eq_repr, Nat.toList_repr]
  unfold natural
  rw [htext, htake, hdrop, if_neg, Nat.ofDigitChars_ten_toDigits]
  rintro (hnil | ⟨hhead, hlead⟩)
  · exact Nat.toDigits_ne_nil hnil
  · exact hlead (toDigits_head n hhead)

theorem integer_digit {c : Char} {cs : List Char} (hc : c.isDigit = true) :
    integer (c :: cs) = (natural (c :: cs)).map fun (n, r) => ((n : ℤ), r) := by
  rw [integer.eq_def]
  split
  · rename_i h
    obtain ⟨rfl, -⟩ := List.cons.inj h
    cases hc
  · rfl

/-- A number starts with a digit or a sign. -/
theorem toString_int (n : ℤ) : ∃ c cs, (toString n).toList = c :: cs ∧
    (c.isDigit = true ∨ c = '-') := by
  have hnat : ∀ m : ℕ, ∃ c cs, (toString m).toList = c :: cs ∧ c.isDigit = true := by
    intro m
    rcases hm : Nat.toDigits 10 m with _ | ⟨c, cs⟩
    · exact absurd hm Nat.toDigits_ne_nil
    · refine ⟨c, cs, by rw [Nat.toString_eq_repr, Nat.toList_repr, hm], ?_⟩
      exact Nat.isDigit_of_mem_toDigits (b := 10) (n := m) (by decide) (by decide) (by simp [hm])
  rcases n with m | m
  · obtain ⟨c, cs, h, hc⟩ := hnat m
    exact ⟨c, cs, h, .inl hc⟩
  · exact ⟨'-', (toString (m + 1)).toList, by
      change ("-" ++ Nat.repr (m + 1)).toList = _
      simp, .inr rfl⟩

theorem integer_toString (n : ℤ) {r : List Char} (hr : Ends r) :
    integer ((toString n).toList ++ r) = some (n, r) := by
  rcases n with m | m
  · obtain ⟨c, cs, h, hc⟩ := toString_int (Int.ofNat m)
    have htext : (toString (Int.ofNat m)).toList = (toString m).toList := rfl
    rcases hc with hc | rfl
    · have hnat := natural_toString m hr
      rw [← htext, h] at hnat
      rw [h, List.cons_append, integer_digit hc, ← List.cons_append, hnat]
      rfl
    · have hdigit : ('-' : Char).isDigit = true := by
        refine Nat.isDigit_of_mem_toDigits (b := 10) (n := m) (by decide) (by decide) ?_
        rw [← Nat.toList_repr, ← Nat.toString_eq_repr, ← htext, h]
        exact List.mem_cons_self
      cases hdigit
  · have htext : (toString (Int.negSucc m)).toList = '-' :: (toString (m + 1)).toList := by
      change ("-" ++ Nat.repr (m + 1)).toList = _
      simp
    rw [htext, List.cons_append]
    change (natural _).map _ = _
    rw [natural_toString (m + 1) hr]
    rfl

/-! ### Values -/

theorem skip_of_not {c : Char} {cs : List Char} (h : isBlank c = false) :
    skip (c :: cs) = c :: cs := by
  rw [skip, List.dropWhile_cons_of_neg (by simp [h])]

/-- How a written value starts. -/
def Starts (c : Char) : Prop := isBlank c = false ∧ c ≠ ']' ∧ c ≠ '\x7d'

instance : DecidablePred Starts := fun _ => inferInstanceAs (Decidable (_ ∧ _ ∧ _))

theorem stringify_starts (v : Json) : ∃ c cs, (stringify v).toList = c :: cs ∧ Starts c := by
  cases v with
  | null => exact ⟨'n', "ull".toList, rfl, by decide⟩
  | bool b =>
    cases b
    · exact ⟨'f', "alse".toList, rfl, by decide⟩
    · exact ⟨'t', "rue".toList, rfl, by decide⟩
  | num n =>
    obtain ⟨c, cs, h, hc⟩ := toString_int n
    refine ⟨c, cs, h, ?_⟩
    rcases hc with hc | rfl
    · refine ⟨?_, ?_, ?_⟩
      · rw [isBlank, decide_eq_false_iff_not]
        intro hmem
        simp only [List.mem_cons, List.not_mem_nil, or_false] at hmem
        rcases hmem with rfl | rfl | rfl | rfl <;> cases hc
      · rintro rfl
        cases hc
      · rintro rfl
        cases hc
    · decide
  | str s => exact ⟨'"', _, toList_quote s, by decide⟩
  | arr l => exact ⟨'[', (join (stringifyAll l) "," ++ "]").toList, by simp [stringify], by decide⟩
  | obj ms =>
    exact ⟨'\x7b', (join (stringifyMembers ms) "," ++
      "\x7d").toList, by simp [stringify], by decide⟩

theorem value_number {c : Char} {cs : List Char} (n : ℕ) (hblank : isBlank c = false)
    (hc : c.isDigit = true ∨ c = '-') : value (n + 1) (c :: cs) =
      (integer (c :: cs)).map fun (n, r) => (.num n, r) := by
  rw [value, skip_of_not hblank]
  split <;> first
    | rfl
    | (rename_i h
       obtain ⟨rfl, -⟩ := List.cons.inj h
       exact absurd hc (by decide))

theorem ends_cons {c : Char} {r : List Char} (h : c.isDigit = false) : Ends (c :: r) := by
  rintro _ ⟨⟩
  exact h

/-- With this fuel written values are read back, whatever follows. -/
def ReadsValue (n : ℕ) : Prop := ∀ v r, Ends r → (stringify v).toList.length ≤ n →
  value n ((stringify v).toList ++ r) = some (v, r)

/-- So are the elements of arrays. -/
def ReadsElements (n : ℕ) : Prop := ∀ v l r,
  (join (stringifyAll (v :: l)) ",").toList.length + 1 ≤ n →
    elements n ((join (stringifyAll (v :: l)) ",").toList ++ ']' :: r) = some (v :: l, r)

/-- So are the members of objects. -/
def ReadsMembers (n : ℕ) : Prop := ∀ k v ms r,
  (join (stringifyMembers ((k, v) :: ms)) ",").toList.length + 1 ≤ n →
    members n ((join (stringifyMembers ((k, v) :: ms)) ",").toList ++ '\x7d' :: r) =
      some ((k, v) :: ms, r)

theorem value_num (n : ℕ) (k : ℤ) {r : List Char} (hr : Ends r) :
    value (n + 1) ((stringify (.num k)).toList ++ r) = some (.num k, r) := by
  obtain ⟨c, cs, h, hc⟩ := toString_int k
  obtain ⟨c', cs', h', hblank, -⟩ := stringify_starts (.num k)
  have htext : (stringify (.num k)).toList = (toString k).toList := rfl
  obtain ⟨rfl, rfl⟩ := List.cons.inj (h.symm.trans (htext.symm.trans h'))
  have hread := integer_toString k hr
  rw [h, List.cons_append] at hread
  rw [htext, h, List.cons_append, value_number n hblank hc, hread]
  rfl

theorem value_str (n : ℕ) (s : String) (r : List Char) :
    value (n + 1) ((stringify (.str s)).toList ++ r) = some (.str s, r) := by
  have htext : (stringify (.str s)).toList = (quote s).toList := rfl
  rw [htext, toList_quote, List.cons_append, List.append_assoc, List.cons_append, List.nil_append,
    value, skip_of_not (by decide)]
  simp only [literal_quote, Option.map_some, String.ofList_toList]

theorem value_arr {n : ℕ} (hn : ReadsElements n) (v : Json) (l : List Json) (r : List Char)
    (hlen : (stringify (.arr (v :: l))).toList.length ≤ n + 1) :
    value (n + 1) ((stringify (.arr (v :: l))).toList ++ r) = some (.arr (v :: l), r) := by
  have htext : (stringify (.arr (v :: l))).toList =
      '[' :: ((join (stringifyAll (v :: l)) ",").toList ++ [']']) := by simp [stringify]
  rw [htext, List.length_cons, List.length_append, List.length_singleton] at hlen
  have hread := hn v l r (by omega)
  obtain ⟨c, cs, h, hc⟩ : ∃ c cs,
      (join (stringifyAll (v :: l)) ",").toList ++ ']' :: r = c :: cs ∧ Starts c := by
    obtain ⟨c, cs, h, hc⟩ := stringify_starts v
    cases l <;> simp [stringifyAll, join, h, hc]
  rw [htext, List.cons_append, List.append_assoc, List.cons_append, List.nil_append, value,
    skip_of_not (by decide)]
  simp only [h, skip_of_not hc.1] at hread ⊢
  split
  · rename_i heq
    exact absurd (List.cons.inj heq).1 hc.2.1
  · rw [hread]
    rfl

theorem value_obj {n : ℕ} (hn : ReadsMembers n) (k : String) (v : Json) (ms : List (String × Json))
    (r : List Char) (hlen : (stringify (.obj ((k, v) :: ms))).toList.length ≤ n + 1) :
    value (n + 1) ((stringify (.obj ((k, v) :: ms))).toList ++ r) =
      some (.obj ((k, v) :: ms), r) := by
  have htext : (stringify (.obj ((k, v) :: ms))).toList =
      '\x7b' :: ((join (stringifyMembers ((k, v) :: ms)) ",").toList ++ ['\x7d']) := by
    simp [stringify]
  rw [htext, List.length_cons, List.length_append, List.length_singleton] at hlen
  have hread := hn k v ms r (by omega)
  obtain ⟨cs, h⟩ : ∃ cs, (join (stringifyMembers ((k, v) :: ms)) ",").toList ++ '\x7d' :: r =
      '"' :: cs := by
    cases ms <;> simp [stringifyMembers, join, toList_quote]
  rw [htext, List.cons_append, List.append_assoc, List.cons_append, List.nil_append, value,
    skip_of_not (by decide)]
  simp only [h, skip_of_not (c := '"') (by decide)] at hread ⊢
  rw [hread]
  rfl

theorem readsValue_succ {n : ℕ} (helements : ReadsElements n) (hmembers : ReadsMembers n) :
    ReadsValue (n + 1) := by
  intro v r hr hlen
  cases v with
  | null => rfl
  | bool b => cases b <;> rfl
  | num k => exact value_num n k hr
  | str s => exact value_str n s r
  | arr l =>
    rcases l with _ | ⟨v, l⟩
    · rfl
    · exact value_arr helements v l r hlen
  | obj ms =>
    rcases ms with _ | ⟨⟨k, v⟩, ms⟩
    · rfl
    · exact value_obj hmembers k v ms r hlen

theorem readsElements_succ {n : ℕ} (hvalue : ReadsValue n) (helements : ReadsElements n) :
    ReadsElements (n + 1) := by
  intro v l r hlen
  rcases l with _ | ⟨v', l⟩
  · have htext : (join (stringifyAll [v]) ",").toList = (stringify v).toList := by
      simp [stringifyAll, join]
    rw [htext] at hlen ⊢
    rw [elements, hvalue v (']' :: r) (ends_cons (by decide)) (by omega)]
    rfl
  · have htext : (join (stringifyAll (v :: v' :: l)) ",").toList =
        (stringify v).toList ++ ',' :: (join (stringifyAll (v' :: l)) ",").toList := by
      simp [stringifyAll, join]
    rw [htext] at hlen ⊢
    rw [List.length_append, List.length_cons] at hlen
    rw [elements, List.append_assoc, List.cons_append,
      hvalue v _ (ends_cons (by decide)) (by omega)]
    change (elements n _).map _ = _
    rw [helements v' l r (by omega)]
    rfl

theorem readsMembers_succ {n : ℕ} (hvalue : ReadsValue n) (hmembers : ReadsMembers n) :
    ReadsMembers (n + 1) := by
  intro k v ms r hlen
  have hstart : ∀ cs, members (n + 1) ('"' :: (k.toList.flatMap escape ++ '"' :: ':' :: cs)) =
      (value n cs).bind fun p => match skip p.2 with
        | '\x7d' :: cs => some ([(k, p.1)], cs)
        | ',' :: cs => (members n cs).map fun (ms, r) => ((k, p.1) :: ms, r)
        | _ => none := by
    intro cs
    rw [members, skip_of_not (by decide)]
    simp only [literal_quote, Option.bind_eq_bind, Option.bind_some,
      skip_of_not (c := ':') (by decide), String.ofList_toList]
  rcases ms with _ | ⟨⟨k', v'⟩, ms⟩
  · have htext : (join (stringifyMembers [(k, v)]) ",").toList ++ '\x7d' :: r =
        '"' :: (k.toList.flatMap escape ++ '"' :: ':' ::
          ((stringify v).toList ++ '\x7d' :: r)) := by
      simp [stringifyMembers, join, toList_quote]
    have hlen' : (stringify v).toList.length ≤ n := by
      simp only [stringifyMembers, join, String.toList_append, List.length_append] at hlen
      omega
    rw [htext, hstart, hvalue v _ (ends_cons (by decide)) hlen']
    rfl
  · have htext : (join (stringifyMembers ((k, v) :: (k', v') :: ms)) ",").toList ++ '\x7d' :: r =
        '"' :: (k.toList.flatMap escape ++ '"' :: ':' :: ((stringify v).toList ++
          ',' :: ((join (stringifyMembers ((k', v') :: ms)) ",").toList ++ '\x7d' :: r))) := by
      simp [stringifyMembers, join, toList_quote]
    have hlen' : (stringify v).toList.length ≤ n ∧
        (join (stringifyMembers ((k', v') :: ms)) ",").toList.length + 1 ≤ n := by
      have hone : (",".toList.length) = 1 := rfl
      have htwo : ((":" : String).toList.length) = 1 := rfl
      rw [stringifyMembers, stringifyMembers, join, ← stringifyMembers] at hlen
      simp only [String.toList_append, List.length_append, hone, htwo] at hlen
      constructor <;> omega
    rw [htext, hstart, hvalue v _ (ends_cons (by decide)) hlen'.1]
    change (members n _).map _ = _
    rw [hmembers k' v' ms r hlen'.2]
    rfl

/-- **What was written is read back.** -/
theorem reads (n : ℕ) : ReadsValue n ∧ ReadsElements n ∧ ReadsMembers n := by
  induction n with
  | zero =>
    refine ⟨fun v r _ hlen => ?_, fun v l r hlen => ?_, fun k v ms r hlen => ?_⟩
    · obtain ⟨c, cs, h, -⟩ := stringify_starts v
      rw [h] at hlen
      simp at hlen
    · omega
    · omega
  | succ n ih =>
    obtain ⟨hvalue, helements, hmembers⟩ := ih
    exact ⟨readsValue_succ helements hmembers, readsElements_succ hvalue helements,
      readsMembers_succ hvalue hmembers⟩

/-- **Round trip.** -/
theorem parse_stringify (v : Json) : parse (stringify v) = some v := by
  have hread := (reads ((stringify v).toList.length + 1)).1 v [] (by rintro _ ⟨⟩) (by omega)
  rw [List.append_nil] at hread
  unfold parse
  rw [hread]
  rfl

end GuardTime.Lib.Json
