import Mathlib.Tactic

/-! # Built-in operations of the source language

Strings are handled through their characters, numbers are integers with `none` for `NaN`, and a
date is the number of milliseconds since 1970 in UTC. -/

namespace GuardTime.Lib.Js

/-- Milliseconds since 1970-01-01T00:00:00Z. -/
abbrev Time : Type := ℤ

/-- A number that may be `NaN`. -/
abbrev JsNum : Type := Option ℤ

/-! ### Strings -/

/-- `s.split(c)` for a one-character separator. -/
def split (s : String) (c : Char) : List String := (s.toList.splitOn c).map String.ofList

/-- `parts.join(sep)`. -/
def join : List String → String → String
  | [], _ => ""
  | [p], _ => p
  | p :: q :: ps, sep => p ++ sep ++ join (q :: ps) sep

theorem toList_join (sep : String) : ∀ ps : List String,
    (join ps sep).toList = sep.toList.intercalate (ps.map String.toList)
  | [] => rfl
  | [p] => by simp [join]
  | p :: q :: ps => by
    rw [List.map_cons, List.intercalate_cons_of_ne_nil (by simp), ← toList_join sep (q :: ps)]
    simp [join]

/-- `s.startsWith(p)`. -/
def startsWith (s p : String) : Bool := p.toList.isPrefixOf s.toList

/-- `s.endsWith(p)`. -/
def endsWith (s p : String) : Bool := p.toList.isSuffixOf s.toList

/-- `s.replace(/\.$/, '')`: one trailing dot removed. -/
def dropTrailingDot (s : String) : String :=
  if s.toList.getLast? = some '.' then String.ofList s.toList.dropLast else s

/-- White space and line terminators, as `\s`, `trim`, `parseInt` and `Number` skip them. -/
def isSpace (c : Char) : Bool :=
  c.toNat ∈ [9, 10, 11, 12, 13, 32, 0xA0, 0x1680, 0x2028, 0x2029, 0x202F, 0x205F, 0x3000, 0xFEFF] ||
    (0x2000 ≤ c.toNat && c.toNat ≤ 0x200A)

/-- `s.trim()`. -/
def trim (s : String) : String :=
  String.ofList ((s.toList.dropWhile isSpace).reverse.dropWhile isSpace).reverse

/-- The value of a string of decimal digits. -/
def digitsValue (ds : List Char) : ℤ :=
  ds.foldl (fun n d => 10 * n + (d.toNat - '0'.toNat : ℕ)) 0

/-- An optional sign and the digits that follow it, as far as they go. -/
def signed : List Char → ℤ × List Char
  | '-' :: cs => (-1, cs)
  | '+' :: cs => (1, cs)
  | cs => (1, cs)

/-- `parseInt(s, 10)`. -/
def parseInt (s : String) : JsNum :=
  let (sign, cs) := signed (s.toList.dropWhile isSpace)
  match cs.takeWhile Char.isDigit with
  | [] => none
  | ds => some (sign * digitsValue ds)

/-- `Number(s)` on integer texts: the whole string counts, and an empty one is `0`. -/
def number (s : String) : JsNum :=
  let (sign, cs) := signed (trim s).toList
  if (trim s).toList = [] then some 0
  else if cs ≠ [] ∧ cs.all Char.isDigit then some (sign * digitsValue cs) else none

/-- The value of digits in a base, if there are any and all are digits of it. -/
def inBase (base : ℕ) (cs : List Char) : Option ℚ :=
  let value (c : Char) : ℕ :=
    if c.isDigit then c.toNat - '0'.toNat
    else if 'a'.toNat ≤ c.toLower.toNat ∧ c.toLower.toNat ≤ 'f'.toNat then c.toLower.toNat - 87
    else 36
  if cs ≠ [] ∧ cs.all fun c => value c < base then
    some ((cs.foldl (fun n c => base * n + value c) 0 : ℕ) : ℚ)
  else none

/-- An unsigned decimal literal: digits, a fraction and an exponent. -/
def decimal (cs : List Char) : Option ℚ :=
  let whole := cs.takeWhile Char.isDigit
  let rest := cs.dropWhile Char.isDigit
  let (frac, rest) := match rest with
    | '.' :: r => (r.takeWhile Char.isDigit, r.dropWhile Char.isDigit)
    | r => ([], r)
  let mantissa : ℚ := (digitsValue (whole ++ frac) : ℚ) / 10 ^ frac.length
  if whole = [] ∧ frac = [] then none
  else match rest with
    | [] => some mantissa
    | e :: r =>
      let (sign, ds) := signed r
      if (e = 'e' ∨ e = 'E') ∧ ds ≠ [] ∧ ds.all Char.isDigit then
        some (mantissa * (10 : ℚ) ^ (sign * digitsValue ds))
      else none

/-- `Number(s)`, in exact arithmetic; none where the result is not finite. -/
def toNumber (s : String) : Option ℚ :=
  match (trim s).toList with
  | [] => some 0
  | '0' :: c :: cs =>
    if c.toLower = 'x' then inBase 16 cs
    else if c.toLower = 'o' then inBase 8 cs
    else if c.toLower = 'b' then inBase 2 cs
    else decimal ('0' :: c :: cs)
  | cs =>
    let (sign, ds) := signed cs
    (decimal ds).map ((sign : ℚ) * ·)

/-- `Buffer.from(s, 'hex')`: pairs of hexadecimal digits up to the first that is none. -/
def hexBytes : List Char → List ℚ
  | a :: b :: cs =>
    match inBase 16 [a, b] with
    | some n => n :: hexBytes cs
    | none => []
  | _ => []

/-- `n.toString().padStart(w, '0')`. -/
def padStart (n w : ℕ) : String :=
  String.ofList (List.replicate (w - (toString n).toList.length) '0') ++ toString n

/-! ### Dates -/

/-- Days of the proleptic Gregorian calendar since 1970-01-01, as year, month and day. -/
def civil (days : ℤ) : ℤ × ℤ × ℤ :=
  let z := days + 719468
  let era := z / 146097
  let doe := z % 146097
  let yoe := (doe - doe / 1460 + doe / 36524 - doe / 146096) / 365
  let doy := doe - (365 * yoe + yoe / 4 - yoe / 100)
  let mp := (5 * doy + 2) / 153
  let m := if mp < 10 then mp + 3 else mp - 9
  (yoe + era * 400 + (if m ≤ 2 then 1 else 0), m, doy - (153 * mp + 2) / 5 + 1)

/-- `new Date(t).toISOString()`, for the years 0 to 9999. -/
def toISOString (t : Time) : String :=
  let (y, m, d) := civil (t / 86400000)
  let ms := t % 86400000
  padStart y.toNat 4 ++ "-" ++ padStart m.toNat 2 ++ "-" ++ padStart d.toNat 2 ++ "T" ++
    padStart (ms / 3600000).toNat 2 ++ ":" ++ padStart (ms / 60000 % 60).toNat 2 ++ ":" ++
    padStart (ms / 1000 % 60).toNat 2 ++ "." ++ padStart (ms % 1000).toNat 3 ++ "Z"

/-! ### JSON -/

/-- A JSON value; an object keeps its members in order. -/
inductive Json where
  | null
  | bool (b : Bool)
  | num (n : ℤ)
  | str (s : String)
  | arr (l : List Json)
  | obj (members : List (String × Json))

/-- The lower-case hexadecimal digit of `n`. -/
def hexDigit (n : ℕ) : Char := "0123456789abcdef".toList.getD n '0'

/-- One character of a JSON string literal. -/
def escape (c : Char) : List Char :=
  if c = '"' then ['\\', '"']
  else if c = '\\' then ['\\', '\\']
  else if c = '\n' then ['\\', 'n']
  else if c = '\r' then ['\\', 'r']
  else if c = '\t' then ['\\', 't']
  else if c.toNat = 8 then ['\\', 'b']
  else if c.toNat = 12 then ['\\', 'f']
  else if c.toNat < 32 then
    ['\\', 'u', '0', '0', hexDigit (c.toNat / 16), hexDigit (c.toNat % 16)]
  else [c]

/-- A JSON string literal. -/
def quote (s : String) : String := "\"" ++ String.ofList (s.toList.flatMap escape) ++ "\""

mutual

/-- `JSON.stringify(v)`. -/
def stringify : Json → String
  | .null => "null"
  | .bool b => if b then "true" else "false"
  | .num n => toString n
  | .str s => quote s
  | .arr l => "[" ++ join (stringifyAll l) "," ++ "]"
  | .obj ms => "\x7b" ++ join (stringifyMembers ms) "," ++ "\x7d"

/-- The elements of an array. -/
def stringifyAll : List Json → List String
  | [] => []
  | v :: l => stringify v :: stringifyAll l

/-- The members of an object. -/
def stringifyMembers : List (String × Json) → List String
  | [] => []
  | (k, v) :: ms => (quote k ++ ":" ++ stringify v) :: stringifyMembers ms

end

/-- An object literal whose members with `undefined` values are left out. -/
def object (members : List (String × Option Json)) : Json :=
  .obj (members.filterMap fun (k, v) => v.map fun j => (k, j))

/-- A nullable string. -/
def strOrNull : Option String → Json
  | some s => .str s
  | none => .null

/-! ### Numbers in keys -/

/-- Lists are cut at the last occurrence of a separator in one way. -/
theorem eq_of_cut {α : Type} {c : α} {a a' b b' : List α} (hb : c ∉ b) (hb' : c ∉ b')
    (h : a ++ c :: b = a' ++ c :: b') : a = a' ∧ b = b' := by
  rcases List.append_eq_append_iff.mp h with ⟨s, rfl, hs⟩ | ⟨s, rfl, hs⟩
  · rcases s with _ | ⟨x, s⟩
    · simpa using hs
    · exact absurd (by simp [(List.cons.inj hs).2]) hb
  · rcases s with _ | ⟨x, s⟩
    · simpa [eq_comm] using hs
    · exact absurd (by simp [(List.cons.inj hs).2]) hb'

/-- Lists are cut at the first occurrence of a separator in one way. -/
theorem eq_of_first_cut {α : Type} {c : α} {a a' b b' : List α} (ha : c ∉ a) (ha' : c ∉ a')
    (h : a ++ c :: b = a' ++ c :: b') : a = a' ∧ b = b' := by
  have hrev := congrArg List.reverse h
  simp only [List.reverse_append, List.reverse_cons, List.append_assoc,
    List.singleton_append] at hrev
  obtain ⟨hb, ha⟩ := eq_of_cut (fun hc => ha (List.mem_reverse.mp hc))
    (fun hc => ha' (List.mem_reverse.mp hc)) hrev
  exact ⟨List.reverse_injective ha, List.reverse_injective hb⟩

theorem notMem_toString {c : Char} (hc : c.isDigit = false) (n : ℕ) : c ∉ (toString n).toList := by
  rw [Nat.toString_eq_ofList_toDigits, String.toList_ofList]
  intro h
  have hdigit := Nat.isDigit_of_mem_toDigits (by decide) (by decide) h
  rw [hc] at hdigit
  cases hdigit

theorem toString_nat_injective {n n' : ℕ} (h : toString n = toString n') : n = n' := by
  have h' := congrArg String.toList h
  simp only [Nat.toString_eq_ofList_toDigits, String.toList_ofList] at h'
  rw [← @Nat.ofDigitChars_ten_toDigits n, h', Nat.ofDigitChars_ten_toDigits]

end GuardTime.Lib.Js
