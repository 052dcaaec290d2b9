import Mathlib
import GuardTime.Services.Pairing

/-! # Host names of pairing tokens

`extractPairToken` runs a regular expression put together from the configured suffix. For every
suffix of letters, digits, hyphens and dots, and every ASCII query, it accepts exactly the tokens of
the right shape before the suffix (`pair_hostname`); so it finds the token of every host name made
by `pairHostnameFor`, and no two tokens share a host name. -/

namespace GuardTime.Pairing.Hostname

open GuardTime.Lib.Js GuardTime.Lib.Regex GuardTime.Server GuardTime.Services.Pairing

/-! ### Text -/

/-- All characters are ASCII. -/
def Ascii (s : List Char) : Prop := ∀ c ∈ s, c.toNat < 128

/-- How the library treats the case of ASCII text: `toLowerCase` lowers each character, and the `i`
flag compares upper cases. -/
structure AsciiCase (env : Env) (canon : Char → Char) : Prop where
  lower : ∀ s : String, Ascii s.toList →
    env.toLowerCase s = String.ofList (s.toList.map Char.toLower)
  canon : ∀ c : Char, c.toNat < 128 → canon c = c.toUpper

/-- A letter, a digit or a hyphen. -/
def isLabelChar (c : Char) : Bool := c.isAlpha || c.isDigit || c = '-'

/-- The suffix has only letters, digits, hyphens and dots, and no dot at its end. -/
structure PlainSuffix (s : String) : Prop where
  chars : ∀ c ∈ s.toList, isLabelChar c = true ∨ c = '.'
  last : s.toList.getLast? ≠ some '.'

/-- A lower-case hexadecimal digit. -/
def isHexLower (c : Char) : Bool := c.isDigit || 'a' ≤ c && c ≤ 'f'

/-- A hexadecimal digit. -/
def isHex (c : Char) : Bool := isHexLower c || 'A' ≤ c && c ≤ 'F'

/-- A number of digits. -/
def Run (digit : Char → Bool) (n : ℕ) (s : List Char) : Prop :=
  s.length = n ∧ ∀ x ∈ s, digit x = true

/-- Groups of 8, 4, 4, 4 and 12 digits with hyphens between them. -/
def Shape (digit : Char → Bool) (t : List Char) : Prop := ∃ a b c d e : List Char,
  t = a ++ '-' :: b ++ '-' :: c ++ '-' :: d ++ '-' :: e ∧
  Run digit 8 a ∧ Run digit 4 b ∧ Run digit 4 c ∧ Run digit 4 d ∧ Run digit 12 e

theorem ascii_of_all {s : List Char} (h : s.all (fun c => c.toNat < 128) = true) : Ascii s :=
  fun c hc => of_decide_eq_true (List.all_eq_true.mp h c hc)

theorem run_of_all {digit : Char → Bool} {n : ℕ} {s : List Char} (hlength : s.length = n)
    (h : s.all digit = true) : Run digit n s := ⟨hlength, List.all_eq_true.mp h⟩

theorem plainSuffix_of_all {s : String}
    (h : s.toList.all (fun c => isLabelChar c || c = '.') = true)
    (hlast : s.toList.getLast? ≠ some '.') : PlainSuffix s :=
  ⟨fun c hc => by simpa using List.all_eq_true.mp h c hc, hlast⟩

/-- What is true of the first 128 characters is true of every ASCII character. -/
theorem ascii_forall {P : Char → Prop} (h : ∀ n < 128, P (Char.ofNat n)) (c : Char)
    (hc : c.toNat < 128) : P c := by
  have hchar := h c.toNat hc
  rwa [Char.ofNat_toNat] at hchar

theorem toLower_toUpper : ∀ c : Char, c.toNat < 128 → c.toUpper.toLower = c.toLower :=
  ascii_forall (by decide +kernel)

theorem toUpper_toLower : ∀ c : Char, c.toNat < 128 → c.toLower.toUpper = c.toUpper :=
  ascii_forall (by decide +kernel)

theorem toLower_lt : ∀ c : Char, c.toNat < 128 → c.toLower.toNat < 128 :=
  ascii_forall (by decide +kernel)

theorem toLower_toLower : ∀ c : Char, c.toNat < 128 → c.toLower.toLower = c.toLower :=
  ascii_forall (by decide +kernel)

theorem label_lt {c : Char} (h : isLabelChar c = true ∨ c = '.') : c.toNat < 128 := by
  have hbounds : 'Z'.toNat = 90 ∧ 'z'.toNat = 122 ∧ '9'.toNat = 57 := by decide
  rcases h with h | rfl
  · simp only [isLabelChar, Char.isAlpha, Char.isUpper, Char.isLower, Char.isDigit, Bool.or_eq_true,
      Bool.and_eq_true, decide_eq_true_eq, ge_iff_le, UInt32.le_iff_toNat_le, Char.toNat_val] at h
    rcases h with ((h | h) | h) | rfl
    · omega
    · omega
    · omega
    · decide
  · decide

theorem isHexLower_toLower :
    ∀ c : Char, c.toNat < 128 → isHex c = true → isHexLower c.toLower = true :=
  ascii_forall (by decide +kernel)

/-- ASCII text in lower case. -/
def Lowered (s : List Char) : Prop := ∀ c ∈ s, c.toNat < 128 ∧ c.toLower = c

theorem lowered_map {s : List Char} (h : Ascii s) : Lowered (s.map Char.toLower) := by
  intro c hc
  obtain ⟨a, ha, rfl⟩ := List.mem_map.mp hc
  exact ⟨toLower_lt a (h a ha), toLower_toLower a (h a ha)⟩

theorem lowered_dropTrailingDot {s : String} (h : Lowered s.toList) :
    Lowered (dropTrailingDot s).toList := by
  unfold dropTrailingDot
  split_ifs
  · intro c hc
    rw [String.toList_ofList] at hc
    exact h c (List.mem_of_mem_dropLast hc)
  · exact h

theorem dropTrailingDot_of_last {s : String} (h : s.toList.getLast? ≠ some '.') :
    dropTrailingDot s = s := if_neg h

/-! ### The pattern -/

/-- The set of the hexadecimal digits. -/
def hexDigits : List (Char × Char) := [('0', '9'), ('a', 'f')]

/-- A number of hexadecimal digits. -/
def hexRun (n : ℕ) : Pattern := .times n (.set hexDigits)

/-- The pattern of a token. -/
def token : Pattern :=
  .seq (.seq (.seq (.seq
    (.seq (.seq (.seq (.seq (.seq .empty (hexRun 8)) (.literal '-')) (hexRun 4))
    (.literal '-')) (hexRun 4)) (.literal '-')) (hexRun 4)) (.literal '-')) (hexRun 12)

/-- The pattern of a host name, for the text after the token. -/
def hostname (rest : List Char) : Pattern :=
  .seq ((Pattern.seq (.seq .empty .start) (.group 1 token)).followedBy rest) .finish

/-- What the reader has after the part of the pattern before the suffix. -/
def beforeSuffix : Reader :=
  ⟨.plain, [], .seq (.seq .empty .start) (.group 1 token), some (.literal '.'), 1⟩

theorem feedAll_start : Reader.init.feedAll pairHostnameStart.toList = some beforeSuffix := by
  decide +kernel

theorem feed_label {r : Reader} {c : Char} (hmode : r.mode = .plain) (hc : isLabelChar c = true) :
    r.feed c = some (r.add (.literal c)) := by
  rw [Reader.feed, hmode]
  simp only [Reader.feedPlain]
  split <;> first | rfl | exact absurd hc (by decide)

theorem feedAll_dot {r : Reader} (hmode : r.mode = .plain) (s : List Char) :
    r.feedAll ('\\' :: '.' :: s) = (r.add (.literal '.')).feedAll s := by
  rw [Reader.feedAll, List.foldlM_cons, Reader.feed, hmode]
  rfl

/-- Reading the escaped suffix adds its characters. -/
theorem feedAll_escapeDots {s : List Char} (hs : ∀ c ∈ s, isLabelChar c = true ∨ c = '.') :
    ∀ {r : Reader}, r.mode = .plain → ∃ r', r.feedAll (escapeDots s) = some r' ∧ r'.mode = .plain ∧
      r'.outer = r.outer ∧ r'.whole = r.whole.followedBy s := by
  induction s with
  | nil =>
    intro r hmode
    exact ⟨r, rfl, hmode, rfl, rfl⟩
  | cons c s ih =>
    intro r hmode
    obtain ⟨r', hread, hmode', houter, hwhole⟩ :=
      ih (fun c hc => hs c (by simp [hc])) (r := r.add (.literal c)) rfl
    refine ⟨r', ?_, hmode', houter, hwhole⟩
    rw [← hread]
    by_cases hdot : c = '.'
    · subst hdot
      exact feedAll_dot hmode (escapeDots s)
    · have hlabel : isLabelChar c = true := (hs c (by simp)).resolve_right hdot
      have hesc : escapeDots (c :: s) = c :: escapeDots s := by simp [escapeDots, hdot]
      rw [hesc, Reader.feedAll, List.foldlM_cons, feed_label hmode hlabel]
      rfl

theorem pairHostnamePattern_eq {env : Env}
    (hs : ∀ c ∈ env.pairDomainSuffix.toList, isLabelChar c = true ∨ c = '.') :
    pairHostnamePattern env = some (hostname ('.' :: env.pairDomainSuffix.toList)) := by
  obtain ⟨r, hread, hmode, houter, hwhole⟩ := feedAll_escapeDots hs (r := beforeSuffix) rfl
  have htext : (pairHostnameText env).toList =
      pairHostnameStart.toList ++ (escapeDots env.pairDomainSuffix.toList ++ ['$']) := by
    rw [pairHostnameText, String.toList_append, String.toList_append, String.toList_ofList,
      List.append_assoc, show "$".toList = ['$'] from rfl]
  have hfinish : r.feedAll ['$'] = some (r.addFixed .finish) := by
    rw [Reader.feedAll, List.foldlM_cons, Reader.feed, hmode]
    rfl
  rw [pairHostnamePattern, parse, htext, Reader.feedAll_append, feedAll_start]
  rw [Option.bind_some, Reader.feedAll_append, hread, Option.bind_some, hfinish, Option.bind_some,
    if_pos ⟨rfl, houter⟩]
  exact congrArg (fun p => some (Pattern.seq p .finish)) hwhole

/-! ### Matching -/

section Matching
variable {env : Env} {canon : Char → Char}

/-- What the pattern finds in a text. -/
theorem exec_hostname {rest s : List Char} {g : List (ℕ × List Char)} :
    exec canon (hostname rest) s = some g ↔ ∃ t u, s = t ++ u ∧ Reads canon token t ∧
      List.Forall₂ (fun a x => canon a = canon x) rest u ∧ g = [(1, t)] := by
  have hstart : Anchored canon (.seq .empty .start) := fun c hc =>
    @anchored_start canon c hc
  have hanchored : Anchored canon (hostname rest) := (hstart.seq.followedBy rest).seq
  have hplain : token.Plain := by simp [token, hexRun, Pattern.Plain, Pattern.literal]
  rw [exec_anchored hanchored, Option.map_eq_some_iff]
  constructor
  · rintro ⟨c, hc, rfl⟩
    obtain ⟨d, hd, hfinish⟩ := Option.bind_eq_some_iff.mp hc
    obtain ⟨e, u, he, hu, hpass⟩ := step_followedBy.mp hd
    obtain ⟨t, ht, hs, -, hgroups⟩ := (step_group hplain).mp he
    rw [step] at hfinish
    split_ifs at hfinish with hend
    obtain rfl := Option.some.inj hfinish
    have hrest : e.rest = u := by rw [hpass.rest, hend, List.append_nil]
    exact ⟨t, u, hrest ▸ hs, ht, hu, hpass.groups.trans hgroups⟩
  · rintro ⟨t, u, rfl, ht, hu, rfl⟩
    refine ⟨⟨(t ++ u).reverse, [], [(1, t)]⟩,
      Option.bind_eq_some_iff.mpr ⟨⟨(t ++ u).reverse, [], [(1, t)]⟩, ?_, if_pos rfl⟩, rfl⟩
    refine step_followedBy.mpr ⟨⟨t.reverse, u, [(1, t)]⟩, u, ?_, hu, ⟨by simp, by simp, rfl⟩⟩
    exact (step_group hplain).mpr ⟨t, ht, rfl, by simp, rfl⟩

/-- Characters that are the same up to case. -/
theorem same_iff (hcase : AsciiCase env canon) {a x : Char} (ha : a.toNat < 128)
    (hx : x.toNat < 128 ∧ x.toLower = x) : canon a = canon x ↔ x = a.toLower := by
  rw [hcase.canon a ha, hcase.canon x hx.1]
  constructor
  · intro h
    rw [← toLower_toUpper a ha, h, toLower_toUpper x hx.1, hx.2]
  · rintro rfl
    exact (toUpper_toLower a ha).symm

theorem isHexLower_lt {c : Char} (h : isHexLower c = true) : c.toNat < 128 := by
  have hbounds : 'f'.toNat = 102 ∧ '9'.toNat = 57 := by decide
  simp only [isHexLower, Char.isDigit, Bool.or_eq_true, Bool.and_eq_true, decide_eq_true_eq,
    ge_iff_le, Char.le_def, UInt32.le_iff_toNat_le, Char.toNat_val] at h
  omega

theorem toLower_of_isHexLower : ∀ c : Char, c.toNat < 128 → isHexLower c = true → c.toLower = c :=
  ascii_forall (by decide +kernel)

theorem hit_hexDigits (hcase : AsciiCase env canon) {x : Char}
    (hx : x.toNat < 128 ∧ x.toLower = x) : hit canon hexDigits x = true ↔ isHexLower x = true := by
  have hrange : ∀ a, (∃ r ∈ hexDigits, r.1 ≤ a ∧ a ≤ r.2) ↔ isHexLower a = true := by
    intro a
    simp [hexDigits, isHexLower, Char.isDigit, Char.le_def]
  rw [hit_iff]
  constructor
  · rintro ⟨r, hr, a, hlo, hhi, hcanon⟩
    have ha := (hrange a).mp ⟨r, hr, hlo, hhi⟩
    rw [(same_iff hcase (isHexLower_lt ha) hx).mp hcanon,
      toLower_of_isHexLower a (isHexLower_lt ha) ha]
    exact ha
  · intro h
    obtain ⟨r, hr, hlo, hhi⟩ := (hrange x).mpr h
    exact ⟨r, hr, x, hlo, hhi, rfl⟩

theorem reads_hexRun (hcase : AsciiCase env canon) {n : ℕ} {w : List Char} (hw : Lowered w) :
    Reads canon (hexRun n) w ↔ Run isHexLower n w := by
  rw [hexRun, reads_times_set, Run]
  exact and_congr_right fun _ => forall₂_congr fun x hx => hit_hexDigits hcase (hw x hx)

/-- One more group of digits after a hyphen. -/
theorem reads_more (hcase : AsciiCase env canon) {p : Pattern} {n : ℕ} {w : List Char}
    (hw : Lowered w) : Reads canon (.seq (.seq p (.literal '-')) (hexRun n)) w ↔
      ∃ u v, w = u ++ '-' :: v ∧ Reads canon p u ∧ Run isHexLower n v := by
  constructor
  · rintro ⟨_, v, rfl, ⟨u, _, rfl, hu, hhyphen⟩, hv⟩
    obtain ⟨x, rfl, hx⟩ := reads_literal.mp hhyphen
    obtain rfl : x = '-' := (same_iff hcase (by decide) (hw x (by simp))).mp hx
    refine ⟨u, v, by simp, hu, (reads_hexRun hcase fun c hc => hw c ?_).mp hv⟩
    simp [hc]
  · rintro ⟨u, v, rfl, hu, hv⟩
    refine ⟨u ++ ['-'], v, by simp, ⟨u, ['-'], rfl, hu, reads_literal.mpr ⟨'-', rfl, rfl⟩⟩, ?_⟩
    exact (reads_hexRun hcase fun c hc => hw c (by simp [hc])).mpr hv

theorem reads_token (hcase : AsciiCase env canon) {w : List Char} (hw : Lowered w) :
    Reads canon token w ↔ Shape isHexLower w := by
  have hfirst : ∀ {u : List Char}, Lowered u →
      (Reads canon (.seq .empty (hexRun 8)) u ↔ Run isHexLower 8 u) := by
    intro u hu
    rw [← reads_hexRun hcase hu]
    constructor
    · rintro ⟨_, v, rfl, rfl, hv⟩
      exact hv
    · intro h
      exact ⟨[], u, rfl, rfl, h⟩
  constructor
  · intro h
    obtain ⟨w₄, e, rfl, h, he⟩ := (reads_more hcase hw).mp h
    have hw₄ : Lowered w₄ := fun c hc => hw c (by simp [hc])
    obtain ⟨w₃, d, rfl, h, hd⟩ := (reads_more hcase hw₄).mp h
    have hw₃ : Lowered w₃ := fun c hc => hw₄ c (by simp [hc])
    obtain ⟨w₂, c, rfl, h, hc⟩ := (reads_more hcase hw₃).mp h
    have hw₂ : Lowered w₂ := fun c hc => hw₃ c (by simp [hc])
    obtain ⟨a, b, rfl, h, hb⟩ := (reads_more hcase hw₂).mp h
    have ha : Lowered a := fun c hc => hw₂ c (by simp [hc])
    exact ⟨a, b, c, d, e, by simp, (hfirst ha).mp h, hb, hc, hd, he⟩
  · rintro ⟨a, b, c, d, e, rfl, ha, hb, hc, hd, he⟩
    have hw₄ : Lowered (a ++ '-' :: b ++ '-' :: c ++ '-' :: d) := fun x hx =>
      hw x (List.mem_append_left _ hx)
    have hw₃ : Lowered (a ++ '-' :: b ++ '-' :: c) := fun x hx => hw₄ x (List.mem_append_left _ hx)
    have hw₂ : Lowered (a ++ '-' :: b) := fun x hx => hw₃ x (List.mem_append_left _ hx)
    have hw₁ : Lowered a := fun x hx => hw₂ x (List.mem_append_left _ hx)
    refine (reads_more hcase hw).mpr ⟨_, e, rfl, ?_, he⟩
    refine (reads_more hcase hw₄).mpr ⟨_, d, rfl, ?_, hd⟩
    refine (reads_more hcase hw₃).mpr ⟨_, c, rfl, ?_, hc⟩
    exact (reads_more hcase hw₂).mpr ⟨a, b, rfl, (hfirst hw₁).mpr ha, hb⟩

/-- In lower case, the characters that are the same as those of an ASCII text are its lower case. -/
theorem forall₂_same_iff (hcase : AsciiCase env canon) : ∀ {s u : List Char}, Ascii s → Lowered u →
    (List.Forall₂ (fun a x => canon a = canon x) s u ↔ u = s.map Char.toLower)
  | [], u, _, _ => by simp
  | a :: s, [], _, _ => by simp
  | a :: s, x :: u, hs, hu => by
    have hrest := forall₂_same_iff hcase (fun c hc => hs c (by simp [hc]) : Ascii s)
      (fun c hc => hu c (by simp [hc]) : Lowered u)
    rw [List.forall₂_cons, same_iff hcase (hs a (by simp)) (hu x (by simp)), hrest, List.map_cons,
      List.cons.injEq]

/-- **What a host name in lower case says.** -/
theorem extract_iff (hcase : AsciiCase env canon) {domain t : String}
    (hs : ∀ c ∈ env.pairDomainSuffix.toList, isLabelChar c = true ∨ c = '.')
    (hlow : Lowered (dropTrailingDot (env.toLowerCase domain)).toList) :
    extractPairToken canon env domain = some t ↔
      (dropTrailingDot (env.toLowerCase domain)).toList =
        t.toList ++ '.' :: env.pairDomainSuffix.toList.map Char.toLower ∧
          Shape isHexLower t.toList := by
  have hascii : Ascii ('.' :: env.pairDomainSuffix.toList) := by
    intro c hc
    rcases List.mem_cons.mp hc with rfl | hc
    · decide
    · exact label_lt (hs c hc)
  have hextract : extractPairToken canon env domain = some t ↔ ∃ g,
      exec canon (hostname ('.' :: env.pairDomainSuffix.toList))
        (dropTrailingDot (env.toLowerCase domain)).toList = some g ∧
      (g.lookup 1).map String.ofList = some t := by
    rw [extractPairToken, pairHostnamePattern_eq hs]
    exact Option.bind_eq_some_iff
  rw [hextract]
  constructor
  · rintro ⟨g, hg, ht⟩
    obtain ⟨w, u, hwu, hw, hu, rfl⟩ := exec_hostname.mp hg
    obtain rfl : String.ofList w = t := Option.some.inj ht
    rw [hwu] at hlow
    have hlow' : Lowered u := fun c hc => hlow c (List.mem_append_right _ hc)
    have hlow'' : Lowered w := fun c hc => hlow c (List.mem_append_left _ hc)
    rw [hwu, (forall₂_same_iff hcase hascii hlow').mp hu, String.toList_ofList]
    exact ⟨rfl, (reads_token hcase hlow'').mp hw⟩
  · rintro ⟨hname, hshape⟩
    rw [hname] at hlow ⊢
    refine ⟨[(1, t.toList)], exec_hostname.mpr ⟨_, _, rfl, ?_, ?_, rfl⟩, ?_⟩
    · exact (reads_token hcase fun c hc => hlow c (List.mem_append_left _ hc)).mpr hshape
    · exact (forall₂_same_iff hcase hascii fun c hc => hlow c (List.mem_append_right _ hc)).mpr rfl
    · exact congrArg some String.ofList_toList

end Matching

/-! ### Host names -/

/-- A token as the database makes it. -/
def TokenShape (t : String) : Prop := Shape isHexLower t.toList

/-- A UUID in any letter case. -/
def Uuid (u : String) : Prop := Shape isHex u.toList

theorem toLower_ne_dot : ∀ c : Char, c.toNat < 128 → c ≠ '.' → c.toLower ≠ '.' :=
  ascii_forall (by decide +kernel)

section Hosts
variable {env : Env} {canon : Char → Char} {configured : Option String}

/-- An empty value counts as none. -/
theorem plain_suffix (henv : env.pairDomainSuffix = pairDomainSuffix configured)
    (hplain : ∀ s ∈ configured, PlainSuffix s) :
    PlainSuffix env.pairDomainSuffix ∧ env.pairDomainSuffix.toList ≠ [] := by
  have hdefault : PlainSuffix "pair.guardtime.local" := plainSuffix_of_all (by decide) (by decide)
  rw [henv, pairDomainSuffix]
  rcases h : configured.filter (· ≠ "") with _ | s
  · exact ⟨hdefault, by decide⟩
  · obtain ⟨hs, hne⟩ := Option.filter_eq_some_iff.mp h
    exact ⟨hplain s hs, by simpa using hne⟩

theorem PlainSuffix.ascii {s : String} (h : PlainSuffix s) : Ascii s.toList := fun c hc =>
  label_lt (h.chars c hc)

theorem toList_lower (hcase : AsciiCase env canon) {s : String} (h : Ascii s.toList) :
    (env.toLowerCase s).toList = s.toList.map Char.toLower := by
  rw [hcase.lower s h, String.toList_ofList]

theorem toList_pairHostnameFor (token : String) : (pairHostnameFor env token).toList =
    token.toList ++ '.' :: env.pairDomainSuffix.toList := by
  simp [pairHostnameFor]

theorem ascii_pairHostnameFor (hsuffix : PlainSuffix env.pairDomainSuffix) {u : String}
    (hu : Ascii u.toList) : Ascii (pairHostnameFor env u).toList := by
  intro c hc
  rw [toList_pairHostnameFor, List.mem_append, List.mem_cons] at hc
  rcases hc with hc | rfl | hc
  · exact hu c hc
  · decide
  · exact hsuffix.ascii c hc

/-- The host name of a token in lower case, which has no dot at its end. -/
theorem lower_pairHostnameFor (hcase : AsciiCase env canon)
    (hsuffix : PlainSuffix env.pairDomainSuffix) (hne : env.pairDomainSuffix.toList ≠ [])
    {u : String}
    (hu : Ascii u.toList) :
    dropTrailingDot (env.toLowerCase (pairHostnameFor env u)) =
      env.toLowerCase u ++ "." ++ env.toLowerCase env.pairDomainSuffix := by
  have hlist : (env.toLowerCase (pairHostnameFor env u)).toList =
      u.toList.map Char.toLower ++ '.' :: env.pairDomainSuffix.toList.map Char.toLower := by
    rw [toList_lower hcase (ascii_pairHostnameFor hsuffix hu), toList_pairHostnameFor,
      List.map_append]
    rfl
  obtain ⟨init, c, hc⟩ := List.eq_nil_or_concat env.pairDomainSuffix.toList |>.resolve_left hne
  rw [List.concat_eq_append] at hc
  have hdot : c ≠ '.' := by
    rintro rfl
    exact hsuffix.last (by rw [hc, List.getLast?_concat])
  have hlast : (env.toLowerCase (pairHostnameFor env u)).toList.getLast? ≠ some '.' := by
    have hlower := toLower_ne_dot c (hsuffix.ascii c (by simp [hc])) hdot
    rw [hlist, hc, List.map_append, ← List.cons_append, ← List.append_assoc, List.map_singleton,
      List.getLast?_concat]
    simpa using hlower
  rw [dropTrailingDot_of_last hlast, ← String.toList_inj, hlist]
  simp [toList_lower hcase hu, toList_lower hcase hsuffix.ascii]

theorem isHex_lt {c : Char} (h : isHex c = true) : c.toNat < 128 := by
  have hbound : 'F'.toNat = 70 := by decide
  rcases Bool.or_eq_true _ _ |>.mp h with h | h
  · exact isHexLower_lt h
  · simp only [Bool.and_eq_true, decide_eq_true_eq, Char.le_def, UInt32.le_iff_toNat_le,
      Char.toNat_val] at h
    omega

theorem Run.lower {n : ℕ} {s : List Char} (h : Run isHex n s) :
    Run isHexLower n (s.map Char.toLower) := by
  refine ⟨by rw [List.length_map, h.1], fun x hx => ?_⟩
  obtain ⟨c, hc, rfl⟩ := List.mem_map.mp hx
  exact isHexLower_toLower c (isHex_lt (h.2 c hc)) (h.2 c hc)

theorem Shape.lower {s : List Char} (h : Shape isHex s) :
    Shape isHexLower (s.map Char.toLower) := by
  obtain ⟨a, b, c, d, e, rfl, ha, hb, hc, hd, he⟩ := h
  refine ⟨_, _, _, _, _, ?_, ha.lower, hb.lower, hc.lower, hd.lower, he.lower⟩
  simp only [List.map_append, List.map_cons]
  rfl

theorem Uuid.ascii {u : String} (h : Uuid u) : Ascii u.toList := by
  obtain ⟨a, b, c, d, e, hu, ha, hb, hc, hd, he⟩ := h
  intro x hx
  simp only [hu, List.mem_append, List.mem_cons] at hx
  have hmem : x = '-' ∨ isHex x = true := by
    rcases hx with (((hx | rfl | hx) | rfl | hx) | rfl | hx) | rfl | hx
    · exact .inr (ha.2 x hx)
    · exact .inl rfl
    · exact .inr (hb.2 x hx)
    · exact .inl rfl
    · exact .inr (hc.2 x hx)
    · exact .inl rfl
    · exact .inr (hd.2 x hx)
    · exact .inl rfl
    · exact .inr (he.2 x hx)
  rcases hmem with rfl | h
  · decide
  · exact isHex_lt h

/-- **The grammar of pairing host names.** For every configured suffix of letters, digits, hyphens
and dots without a dot at its end, and every ASCII query, the token is what stands before a dot and
the suffix in the query, in lower case and without a dot at its end, if it has the shape of a token.
So the token of the host name of a UUID is the UUID in lower case, and tokens that differ, also up
to case, have host names that differ likewise. -/
theorem pair_hostname (hcase : AsciiCase env canon)
    (henv : env.pairDomainSuffix = pairDomainSuffix configured)
    (hplain : ∀ s ∈ configured, PlainSuffix s) :
    (∀ q, Ascii q.toList → ∀ t, extractPairToken canon env q = some t ↔
      dropTrailingDot (env.toLowerCase q) = t ++ "." ++ env.toLowerCase env.pairDomainSuffix ∧
        TokenShape t) ∧
    (∀ u, Uuid u → extractPairToken canon env (pairHostnameFor env u) = some (env.toLowerCase u)) ∧
    (∀ t t', pairHostnameFor env t = pairHostnameFor env t' → t = t') ∧
    ∀ u v, Ascii u.toList → Ascii v.toList →
      env.toLowerCase (pairHostnameFor env u) = env.toLowerCase (pairHostnameFor env v) →
      env.toLowerCase u = env.toLowerCase v := by
  obtain ⟨hsuffix, hne⟩ := plain_suffix henv hplain
  have hgrammar : ∀ q, Ascii q.toList → ∀ t, extractPairToken canon env q = some t ↔
      dropTrailingDot (env.toLowerCase q) = t ++ "." ++ env.toLowerCase env.pairDomainSuffix ∧
        TokenShape t := by
    intro q hq t
    have hlow : Lowered (env.toLowerCase q).toList := by
      rw [toList_lower hcase hq]
      exact lowered_map hq
    rw [extract_iff hcase hsuffix.chars (lowered_dropTrailingDot hlow), ← String.toList_inj]
    simp [toList_lower hcase hsuffix.ascii, TokenShape]
  refine ⟨hgrammar, fun u hu => ?_, fun t t' h => ?_, fun u v hu hv h => ?_⟩
  · refine (hgrammar _ (ascii_pairHostnameFor hsuffix hu.ascii) _).mpr
      ⟨lower_pairHostnameFor hcase hsuffix hne hu.ascii, ?_⟩
    rw [TokenShape, toList_lower hcase hu.ascii]
    exact hu.lower
  · have hlists := congrArg String.toList h
    rw [toList_pairHostnameFor, toList_pairHostnameFor] at hlists
    exact String.toList_inj.mp (List.append_cancel_right hlists)
  · have hnames := congrArg dropTrailingDot h
    rw [lower_pairHostnameFor hcase hsuffix hne hu,
      lower_pairHostnameFor hcase hsuffix hne hv] at hnames
    have hlists := congrArg String.toList hnames
    simp only [String.toList_append, List.append_assoc] at hlists
    exact String.toList_inj.mp (List.append_cancel_right hlists)

end Hosts

/-- A server with a suffix in capitals. -/
def shouting : Env := { Env.plain with pairDomainSuffix := "Pair-1.Example" }

theorem pair_hostname_shouting :
    extractPairToken Char.toUpper shouting "A1B2C3D4-e5f6-4789-a012-b3c4d5e6f789.PAIR-1.example." =
      some "a1b2c3d4-e5f6-4789-a012-b3c4d5e6f789" ∧
    extractPairToken Char.toUpper shouting
        (pairHostnameFor shouting "A1B2C3D4-E5F6-4789-A012-B3C4D5E6F789") =
      some (shouting.toLowerCase "A1B2C3D4-E5F6-4789-A012-B3C4D5E6F789") := by
  have hcase : AsciiCase shouting Char.toUpper := ⟨fun _ _ => rfl, fun _ _ => rfl⟩
  have henv : shouting.pairDomainSuffix = pairDomainSuffix (some "Pair-1.Example") := by decide
  have hplain : ∀ s ∈ some "Pair-1.Example", PlainSuffix s := by
    rintro s ⟨⟩
    exact plainSuffix_of_all (by decide) (by decide)
  have htoken : TokenShape "a1b2c3d4-e5f6-4789-a012-b3c4d5e6f789" :=
    ⟨"a1b2c3d4".toList, "e5f6".toList, "4789".toList, "a012".toList, "b3c4d5e6f789".toList,
      by decide, run_of_all rfl rfl, run_of_all rfl rfl, run_of_all rfl rfl, run_of_all rfl rfl,
      run_of_all rfl rfl⟩
  have huuid : Uuid "A1B2C3D4-E5F6-4789-A012-B3C4D5E6F789" :=
    ⟨"A1B2C3D4".toList, "E5F6".toList, "4789".toList, "A012".toList, "B3C4D5E6F789".toList,
      by decide, run_of_all rfl rfl, run_of_all rfl rfl, run_of_all rfl rfl, run_of_all rfl rfl,
      run_of_all rfl rfl⟩
  obtain ⟨hgrammar, hround, -⟩ := pair_hostname hcase henv hplain
  have hascii : Ascii "A1B2C3D4-e5f6-4789-a012-b3c4d5e6f789.PAIR-1.example.".toList :=
    ascii_of_all (by decide +kernel)
  exact ⟨(hgrammar _ hascii _).mpr ⟨by decide +kernel, htoken⟩, hround _ huuid⟩

end GuardTime.Pairing.Hostname
