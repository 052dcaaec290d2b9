import Mathlib.Tactic
import GuardTime.Lib.Buckets
import GuardTime.Household
import GuardTime.Services.Reports

/-! # What a report conserves

The window of a report is cut by the local clock, its buckets at multiples of 24 hours from there.
After a clock change the two drift apart, and a local time that the clock jumps over moves the ends
of the windows: `conserved_iff` says that a report conserves minutes and joins its neighbour exactly
when each of its sessions starts where both cuts agree, and its end is not moved more than that of
its neighbour. -/

namespace GuardTime.Reports

open GuardTime.Lib.Program GuardTime.Lib.Keyed GuardTime.Lib.Js GuardTime.Lib.Buckets
open GuardTime.Lib.LocalTime
open GuardTime.Schema GuardTime.Server GuardTime.Prisma GuardTime.Services
open GuardTime.Services.Reports

/-! ### Calendars -/

section Calendar
variable (cal : Calendar)

theorem start_lt_succ (d : ℤ) : cal.start d < cal.start (d + 1) := by
  have h := cal.hours d
  simp only [List.mem_cons, List.not_mem_nil, or_false] at h
  have hpos : (0 : ℤ) < cal.start (d + 1) - cal.start d := by
    rcases h with h | h | h
    · exact h ▸ (by decide : (0 : ℤ) < 82800000)
    · exact h ▸ (by decide : (0 : ℤ) < 86400000)
    · exact h ▸ (by decide : (0 : ℤ) < 90000000)
  exact sub_pos.mp hpos

theorem strictMono_start : StrictMono cal.start := strictMono_int_of_lt_succ (start_lt_succ cal)

theorem start_le_iff {t : Time} {d : ℤ} : cal.start d ≤ t ↔ d ≤ cal.day t := by
  obtain ⟨hle, hlt⟩ := (cal.day_iff t (cal.day t)).mp rfl
  constructor
  · intro h
    by_contra hday
    have hmono := (strictMono_start cal).monotone (Int.add_one_le_iff.mpr (not_le.mp hday))
    exact absurd (hlt.trans_le (hmono.trans h)) (lt_irrefl _)
  · intro h
    exact ((strictMono_start cal).monotone h).trans hle

/-- An instant is before the start of a day if its own day is. -/
theorem lt_start_iff {t : Time} {d : ℤ} : t < cal.start d ↔ cal.day t < d := by
  rw [← not_le, start_le_iff, not_le]

theorem day_mono {t t' : Time} (h : t ≤ t') : cal.day t ≤ cal.day t' :=
  (start_le_iff cal).mp (((start_le_iff cal).mpr le_rfl).trans h)

end Calendar

/-! ### Ranges -/

section Range
variable (cal : Calendar) (now : Time) (days offset : ℚ)

/-- The local time at which the window ends, if the clock shows it. -/
def lastLocal : Time :=
  cal.localTime (cal.startOfDay now) + (1 - max 1 ⌊days⌋ * max 0 ⌊offset⌋) * msPerDay

/-- The clock does not jump over the local time at which the window ends, or it jumps as far over
the one at which the window before ends. -/
def Joined : Prop :=
  cal.jump (lastLocal cal now days offset) = 0 ∨
    cal.jump (lastLocal cal now days offset - max 1 ⌊days⌋ * msPerDay) =
      cal.jump (lastLocal cal now days offset)

theorem finish_resolveRange :
    (resolveRange cal now days offset).finish = cal.utc (lastLocal cal now days offset) := rfl

theorem start_resolveRange : (resolveRange cal now days offset).start =
    cal.utc (lastLocal cal now days offset - max 1 ⌊days⌋ * msPerDay +
      cal.jump (lastLocal cal now days offset)) := by
  have hstart : (resolveRange cal now days offset).start = cal.utc
      (cal.localTime (cal.utc (lastLocal cal now days offset)) + -max 1 ⌊days⌋ * msPerDay) := rfl
  rw [hstart]
  unfold Clock.jump
  congr 1
  ring

/-- The window before ends as many days earlier. -/
theorem lastLocal_add_one (hoffset : 0 ≤ offset) : lastLocal cal now days (offset + 1) =
    lastLocal cal now days offset - max 1 ⌊days⌋ * msPerDay := by
  have hfloor : 0 ≤ ⌊offset⌋ := Int.floor_nonneg.mpr hoffset
  have hnext : max 0 ⌊offset + 1⌋ = ⌊offset⌋ + 1 := by
    rw [Int.floor_add_one]
    exact max_eq_right (by omega)
  unfold lastLocal
  rw [hnext, max_eq_right hfloor]
  ring

/-- **When windows are adjacent.** The window one further back ends where this one starts exactly
when the clock joins them. -/
theorem adjacent_iff (hoffset : 0 ≤ offset) :
    (resolveRange cal now days (offset + 1)).finish = (resolveRange cal now days offset).start ↔
      Joined cal now days offset := by
  rw [finish_resolveRange, start_resolveRange, lastLocal_add_one cal now days offset hoffset]
  exact cal.utc_add_iff (cal.jump_nonneg _)

end Range

/-! ### Days of sessions -/

/-- The session starts in the window. -/
def Within (range : ReportRange) (s : Session) : Prop :=
  range.start ≤ s.startedAt ∧ s.startedAt < range.finish

/-- The local day of a session, counted from the first of the window. -/
def localDay (cal : Calendar) (range : ReportRange) (s : Session) : ℤ :=
  cal.day s.startedAt - cal.day range.start

/-- Its day when all days have 24 hours. -/
def fixedDay (range : ReportRange) (s : Session) : ℤ := (s.startedAt - range.start) / msPerDay

/-- The session starts on one of the window's days, in the 24 hours that stand for its local day. -/
def Aligned (cal : Calendar) (range : ReportRange) (s : Session) : Prop :=
  localDay cal range s < range.days ∧
    range.start + msPerDay * localDay cal range s ≤ s.startedAt ∧
    s.startedAt < range.start + msPerDay * (localDay cal range s + 1)

theorem aligned_iff {cal : Calendar} {range : ReportRange} {s : Session} : Aligned cal range s ↔
    localDay cal range s < range.days ∧ fixedDay range s = localDay cal range s := by
  have hday : (0 : ℤ) < msPerDay := by decide
  unfold Aligned fixedDay
  rw [Int.ediv_eq_iff_of_pos hday]
  refine and_congr_right fun _ => ?_
  constructor
  · rintro ⟨h, h'⟩
    exact ⟨by linarith, by linarith⟩
  · rintro ⟨h, h'⟩
    exact ⟨by linarith, by linarith⟩

/-- **Minutes are conserved**: the bucket of each day has the minutes of the sessions of that day,
and all sums agree. -/
structure Conserved (cal : Calendar) (range : ReportRange) (sessions : List Session)
    (daily : List ℤ) (children : List ReportChildBreakdown) (total : ℤ) : Prop where
  day : daily = (List.range range.days).map fun i : ℕ =>
    ((sessions.filter fun s => localDay cal range s = i).map Session.durationMinutes).sum
  sum_daily : daily.sum = total
  sum_children : (children.map ReportChildBreakdown.screenMinutes).sum = total
  total_eq : total = (sessions.map Session.durationMinutes).sum

/-! ### Sums -/

/-- **The daily minutes are the buckets of the fixed days.** -/
theorem dailyMinutes_eq (sessions : List Session) (range : ReportRange) :
    dailyMinutes sessions range = (List.range range.days).map fun i : ℕ =>
      bucket (fixedDay range) Session.durationMinutes sessions i := by
  unfold dailyMinutes bucketDaily
  rw [List.foldl_map]
  have hfill := foldl_pour_replicate (fixedDay range)
    (fun s : Session => (s.durationMinutes : ℚ)) range.days sessions
  change ((sessions.foldl (pour range.days (fixedDay range)
    fun s : Session => (s.durationMinutes : ℚ)) _).map Services.Reports.round) = _
  rw [hfill, List.map_map]
  refine List.map_congr_left fun i _ => ?_
  have hcast := map_bucket (Int.castAddHom ℚ) (fixedDay range) Session.durationMinutes sessions i
  exact (congrArg Services.Reports.round hcast.symm).trans (round_cast _)

theorem screenMinutes_eq (sessions : List Session) :
    screenMinutes sessions = (sessions.map Session.durationMinutes).sum := by
  unfold screenMinutes
  rw [List.sum_eq_foldl, List.foldl_map]

/-- A session adds its minutes to one entry. -/
theorem sum_addSession (childNames : String → Option String) (s : Session) :
    ∀ entries : List ReportChildBreakdown,
      ((addSession childNames s entries).map ReportChildBreakdown.screenMinutes).sum =
        (entries.map ReportChildBreakdown.screenMinutes).sum + s.durationMinutes
  | [] => by simp [addSession]
  | entry :: entries => by
    unfold addSession
    split
    · rw [List.map_cons, List.map_cons, List.sum_cons, List.sum_cons]
      ring
    · rw [List.map_cons, List.map_cons, List.sum_cons, List.sum_cons,
        sum_addSession childNames s entries, add_assoc]

/-- **The children have all minutes.** -/
theorem sum_byChild (childNames : String → Option String) (sessions : List Session) :
    ((byChild childNames sessions).map ReportChildBreakdown.screenMinutes).sum =
      screenMinutes sessions := by
  have hfold : ∀ (l : List Session) (entries : List ReportChildBreakdown),
      ((l.foldl (fun entries s => addSession childNames s entries) entries).map
        ReportChildBreakdown.screenMinutes).sum =
        l.foldl (fun sum s => sum + s.durationMinutes)
          (entries.map ReportChildBreakdown.screenMinutes).sum := by
    intro l
    induction l with
    | nil => exact fun _ => rfl
    | cons s l ih =>
      intro entries
      rw [List.foldl_cons, List.foldl_cons, ih, sum_addSession]
  unfold byChild screenMinutes
  rw [((List.mergeSort_perm _ _).map _).sum_eq, hfold]
  rfl

/-! ### Both cuts -/

section Cuts
variable {cal : Calendar} {s : Session}

/-- Before the start of the `i`-th local day of the window. -/
theorem localDay_lt_iff {range : ReportRange} {i : ℤ} :
    localDay cal range s < i ↔ s.startedAt < cal.start (cal.day range.start + i) := by
  unfold localDay
  rw [lt_start_iff, sub_lt_iff_lt_add']

theorem fixedDay_lt_iff {range : ReportRange} {i : ℤ} :
    fixedDay range s < i ↔ s.startedAt < range.start + i * msPerDay := by
  unfold fixedDay
  rw [Int.ediv_lt_iff_lt_mul (by decide : (0 : ℤ) < msPerDay), sub_lt_iff_lt_add']

theorem localDay_nonneg {range : ReportRange} (h : Within range s) : 0 ≤ localDay cal range s :=
  sub_nonneg.mpr (day_mono cal h.1)

theorem fixedDay_nonneg {range : ReportRange} (h : Within range s) : 0 ≤ fixedDay range s :=
  Int.ediv_nonneg (sub_nonneg.mpr h.1) (by decide)

/-- **The cuts cross one way.** Of the local days before a cut and the fixed days before it, one has
all instants of the other. -/
theorem cuts (range : ReportRange) (sessions : List Session) (i : ℤ) :
    (∀ s ∈ sessions, localDay cal range s < i → fixedDay range s < i) ∨
      ∀ s ∈ sessions, fixedDay range s < i → localDay cal range s < i := by
  rcases le_total (cal.start (cal.day range.start + i)) (range.start + i * msPerDay) with h | h
  · refine .inl fun s _ hs => ?_
    exact fixedDay_lt_iff.mpr (lt_of_lt_of_le (localDay_lt_iff.mp hs) h)
  · refine .inr fun s _ hs => ?_
    exact localDay_lt_iff.mpr (lt_of_lt_of_le (fixedDay_lt_iff.mp hs) h)

end Cuts

/-- The minutes of a local day. -/
theorem bucket_localDay (cal : Calendar) (range : ReportRange) (sessions : List Session) (i : ℤ) :
    bucket (localDay cal range) Session.durationMinutes sessions i =
      ((sessions.filter fun s => localDay cal range s = i).map Session.durationMinutes).sum := by
  induction sessions with
  | nil => rfl
  | cons s sessions ih =>
    rw [bucket_cons, ih]
    by_cases h : localDay cal range s = i
    · rw [if_pos h, List.filter_cons_of_pos (by simpa using h), List.map_cons, List.sum_cons]
    · rw [if_neg h, List.filter_cons_of_neg (by simpa using h), zero_add]

/-- What `build` says about the sessions of a window. -/
def Reported (cal : Calendar) (range : ReportRange) (childNames : String → Option String)
    (sessions : List Session) : Prop :=
  Conserved cal range sessions (dailyMinutes sessions range) (byChild childNames sessions)
    (screenMinutes sessions)

/-- A report of sessions in its window conserves their minutes exactly when each of them starts in
the 24 hours that stand for its local day. -/
theorem reported_iff (cal : Calendar) (range : ReportRange) (childNames : String → Option String)
    {sessions : List Session} (hwithin : ∀ s ∈ sessions, Within range s)
    (hpos : ∀ s ∈ sessions, 1 ≤ s.durationMinutes) :
    Reported cal range childNames sessions ↔ ∀ s ∈ sessions, Aligned cal range s := by
  have hlocal : ∀ s ∈ sessions, 0 ≤ localDay cal range s := fun s hs =>
    localDay_nonneg (hwithin s hs)
  constructor
  · intro hreported s hs
    have hday := hreported.day
    have hall : ∀ s ∈ sessions, localDay cal range s < range.days := by
      have hsum := hreported.sum_daily.trans hreported.total_eq
      rw [hday] at hsum
      have hall : ((List.range range.days).map fun i : ℕ =>
          bucket (localDay cal range) Session.durationMinutes sessions i).sum =
          (sessions.map Session.durationMinutes).sum := by
        simpa only [bucket_localDay] using hsum
      exact lt_of_sum_bucket (fun s hs => hpos s hs) hlocal hall
    have hbuckets : ∀ i : ℕ, i < range.days →
        bucket (localDay cal range) Session.durationMinutes sessions i =
          bucket (fixedDay range) Session.durationMinutes sessions i := by
      intro i hi
      rw [dailyMinutes_eq] at hday
      have hi' := List.map_inj_left.mp hday i (List.mem_range.mpr hi)
      rw [bucket_localDay, hi']
    have hsame := eq_of_buckets (fun s hs => hpos s hs) hlocal hall
      (fun s hs => fixedDay_nonneg (hwithin s hs)) (cuts range sessions) hbuckets s hs
    exact aligned_iff.mpr ⟨hall s hs, hsame⟩
  · intro haligned
    have hday : dailyMinutes sessions range = (List.range range.days).map fun i : ℕ =>
        bucket (localDay cal range) Session.durationMinutes sessions i := by
      rw [dailyMinutes_eq]
      refine List.map_congr_left fun i _ => ?_
      unfold bucket
      congr 1
      exact List.map_congr_left fun s hs => by rw [(aligned_iff.mp (haligned s hs)).2]
    refine ⟨?_, ?_, sum_byChild childNames sessions, screenMinutes_eq sessions⟩
    · rw [hday]
      exact List.map_congr_left fun i _ => bucket_localDay cal range sessions i
    · rw [hday, sum_bucket hlocal, before_of_lt fun s hs => (haligned s hs).1, screenMinutes_eq]

/-- **When reports conserve minutes.** A report of sessions in its window conserves their minutes,
and its window and the one before are adjacent and disjoint, exactly when each session starts in the
24 hours that stand for its local day and the clock joins the two windows. -/
theorem conserved_iff (cal : Calendar) (now : Time) (days : ℚ) {offset : ℚ} (hoffset : 0 ≤ offset)
    (childNames : String → Option String) {sessions : List Session}
    (hwithin : ∀ s ∈ sessions, Within (resolveRange cal now days offset) s)
    (hpos : ∀ s ∈ sessions, 1 ≤ s.durationMinutes) :
    (Reported cal (resolveRange cal now days offset) childNames sessions ∧
      (resolveRange cal now days (offset + 1)).finish = (resolveRange cal now days offset).start ∧
      ∀ s, ¬ (Within (resolveRange cal now days (offset + 1)) s ∧
        Within (resolveRange cal now days offset) s)) ↔
    (∀ s ∈ sessions, Aligned cal (resolveRange cal now days offset) s) ∧
      Joined cal now days offset := by
  have hadjacent := adjacent_iff cal now days offset hoffset
  have hiff := reported_iff cal (resolveRange cal now days offset) childNames hwithin hpos
  constructor
  · rintro ⟨hreported, hnext, -⟩
    exact ⟨hiff.mp hreported, hadjacent.mp hnext⟩
  · rintro ⟨haligned, hjoined⟩
    refine ⟨hiff.mpr haligned, hadjacent.mpr hjoined, ?_⟩
    rintro s ⟨hprevious, hthis⟩
    have hlt := hprevious.2
    rw [hadjacent.mpr hjoined] at hlt
    exact absurd (lt_of_lt_of_le hlt hthis.1) (lt_irrefl _)

/-! ### Reports of the service -/

section Build
variable {env : Env} {cal : Calendar} {usageLogs : Table UsageLogs.UsageLog.id} {period : Period}
  {days offset : ℚ} {parentId : String} {childId : Option String} {w w' : World} {r : PeriodReport}

/-- The sessions a report is about. -/
def sessionsOf (db : Database) (parentId : String) (childId : Option String)
    (range : ReportRange) : List Session :=
  db.sessions.rows.filter fun s =>
    s.parentId = parentId && range.start ≤ s.startedAt && s.startedAt < range.finish &&
      (truthy childId).all (s.childId = ·)

/-- A report is made of the sessions of its window, in some order. -/
theorem run_build
    (h : (build env cal usageLogs period days offset parentId childId).run w = (.ok r, w')) :
    ∃ sessions childNames, sessions.Perm (sessionsOf w.db parentId childId
        (resolveRange cal w.now days offset)) ∧
      r.dailyMinutes = dailyMinutes sessions (resolveRange cal w.now days offset) ∧
      r.byChild = byChild childNames sessions ∧ r.screenMinutes = screenMinutes sessions := by
  unfold build at h
  obtain ⟨now, w₁, hnow, h₁⟩ := Prog.run_bind_ok.mp h
  cases hnow
  obtain ⟨children, w₂, hchildren, h₂⟩ := Prog.run_bind_ok.mp h₁
  obtain ⟨-, rfl⟩ := run_query_ok.mp hchildren
  obtain ⟨_, w₃, hrequire, h₃⟩ := Prog.run_bind_ok.mp h₂
  obtain ⟨-, rfl⟩ := Prog.run_require_ok.mp hrequire
  obtain ⟨sessions, w₄, hsessions, h₄⟩ := Prog.run_bind_ok.mp h₃
  obtain ⟨topApps, w₅, -, h₅⟩ := Prog.run_bind_ok.mp h₄
  obtain ⟨devices, w₆, -, h₆⟩ := Prog.run_bind_ok.mp h₅
  obtain ⟨now', w₇, -, h₇⟩ := Prog.run_bind_ok.mp h₆
  cases h₇
  refine ⟨sessions, fun id => (children.find? (·.id = id)).map Child.name, ?_, rfl, rfl, rfl⟩
  rw [(run_query_ok.mp hsessions).1]
  exact arrange_perm _ _

/-- The order of the sessions does not matter. -/
theorem conserved_of_perm {range : ReportRange} {sessions sessions' : List Session}
    {daily : List ℤ} {children : List ReportChildBreakdown} {total : ℤ}
    (hperm : sessions.Perm sessions') (h : Conserved cal range sessions daily children total) :
    Conserved cal range sessions' daily children total where
  day := by
    rw [h.day]
    exact List.map_congr_left fun i _ => ((hperm.filter _).map _).sum_eq
  sum_daily := h.sum_daily
  sum_children := h.sum_children
  total_eq := by rw [h.total_eq, (hperm.map _).sum_eq]

/-- **When the service's reports conserve minutes.** -/
theorem build_conserves_iff
    (hpos : ∀ s ∈ w.db.sessions.rows, 1 ≤ s.durationMinutes)
    (h : (build env cal usageLogs period days offset parentId childId).run w = (.ok r, w')) :
    Conserved cal (resolveRange cal w.now days offset)
        (sessionsOf w.db parentId childId (resolveRange cal w.now days offset))
        r.dailyMinutes r.byChild r.screenMinutes ↔
      ∀ s ∈ sessionsOf w.db parentId childId (resolveRange cal w.now days offset),
        Aligned cal (resolveRange cal w.now days offset) s := by
  obtain ⟨sessions, childNames, hperm, hdaily, hchildren, htotal⟩ := run_build h
  rw [hdaily, hchildren, htotal]
  have hmem : ∀ s ∈ sessions, s ∈ w.db.sessions.rows ∧ Within (resolveRange cal w.now days offset) s
      := by
    intro s hs
    obtain ⟨hrow, hwhere⟩ := List.mem_filter.mp (hperm.mem_iff.mp hs)
    simp only [Bool.and_eq_true, decide_eq_true_eq] at hwhere
    exact ⟨hrow, hwhere.1.1.2, hwhere.1.2⟩
  have hiff := reported_iff cal (resolveRange cal w.now days offset) childNames
    (fun s hs => (hmem s hs).2) fun s hs => hpos s (hmem s hs).1
  constructor
  · intro hconserved s hs
    exact hiff.mp (conserved_of_perm hperm.symm hconserved) s (hperm.mem_iff.mpr hs)
  · intro haligned
    exact conserved_of_perm hperm (hiff.mpr fun s hs => haligned s (hperm.mem_iff.mp hs))

/-- The endpoint of a period. -/
def endpoint (env : Env) (cal : Calendar) (usageLogs : Table UsageLogs.UsageLog.id)
    (parentId : String) (childId : Option String) (offset : ℚ) : Period → Api PeriodReport
  | .week => weekly env cal usageLogs parentId childId offset
  | .month => monthly env cal usageLogs parentId childId offset

/-- The days of a period. -/
def daysOf : Period → ℚ
  | .week => 7
  | .month => 30

/-- **When the answers conserve minutes.** -/
theorem endpoint_conserves_iff
    (hpos : ∀ s ∈ w.db.sessions.rows, 1 ≤ s.durationMinutes)
    (h : (endpoint env cal usageLogs parentId childId offset period).run w = (.ok r, w')) :
    Conserved cal (resolveRange cal w.now (daysOf period) offset)
        (sessionsOf w.db parentId childId (resolveRange cal w.now (daysOf period) offset))
        r.dailyMinutes r.byChild r.screenMinutes ↔
      ∀ s ∈ sessionsOf w.db parentId childId (resolveRange cal w.now (daysOf period) offset),
        Aligned cal (resolveRange cal w.now (daysOf period) offset) s := by
  cases period with
  | week => exact build_conserves_iff hpos h
  | month => exact build_conserves_iff hpos h

end Build

/-! ### A day of 25 hours -/

/-- The starts of the days when the clock is set forward by `δ` on the day `0`. -/
def changedStart (δ d : ℤ) : ℤ := 86400000 * d - if 1 ≤ d then δ else 0

theorem changedStart_hours {δ : ℤ} (hδ : δ = 3600000 ∨ δ = -3600000) (d : ℤ) :
    changedStart δ (d + 1) - changedStart δ d ∈ ([82800000, 86400000, 90000000] : List ℤ) := by
  unfold changedStart
  simp only [List.mem_cons, List.not_mem_nil, or_false]
  rcases hδ with rfl | rfl <;> split_ifs <;> omega

theorem changedStart_day {c δ : ℤ} (hδ : δ = 3600000 ∨ δ = -3600000)
    (hc : (0 ≤ c ∧ c ≤ 86400000) ∧ 0 ≤ c + δ ∧ c + δ ≤ 86400000) (t d : ℤ) :
    (if t < c then t else t + δ) / 86400000 = d ↔
      changedStart δ d ≤ t ∧ t < changedStart δ (d + 1) := by
  unfold changedStart
  rcases hδ with rfl | rfl <;> split_ifs <;> omega

/-- The calendar of a zone whose clock changes by an hour on the day `0`. -/
def clockChange (c δ : ℤ) (hδ : δ = 3600000 ∨ δ = -3600000)
    (hc : (0 ≤ c ∧ c ≤ 86400000) ∧ 0 ≤ c + δ ∧ c + δ ≤ 86400000) : Calendar where
  toClock := .changeAt c δ
  start := changedStart δ
  fmt := toISOString
  hours := changedStart_hours hδ
  day_iff := changedStart_day hδ hc

/-- A zone whose clock is set back from two to one on the day `0`. -/
def autumn : Calendar := clockChange 7200000 (-3600000) (by decide) (by decide)

/-- A session of half an hour. -/
def sessionAt (t : Time) : Session :=
  { id := "s", deviceId := "phone", childId := "adam", parentId := "amal", status := .stopped,
    startedAt := t, pausedAt := none, resumedAt := none, stoppedAt := none, expiredAt := none,
    durationMinutes := 30, remainingMinutes := 0, extendedMinutes := 0, violated := false,
    activeApp := none, createdAt := t, updatedAt := t }

/-- Sessions of three days of the week that ends with the long day. -/
def weekSessions : List Session :=
  [sessionAt (-432000000), sessionAt (-3600000), sessionAt 3600000, sessionAt 82800000]

theorem conserved_autumn :
    Reported autumn (resolveRange autumn 36000000 7 0) (fun _ => none) weekSessions ∧
      (resolveRange autumn 36000000 7 (0 + 1)).finish = (resolveRange autumn 36000000 7 0).start ∧
      ∀ s, ¬ (Within (resolveRange autumn 36000000 7 (0 + 1)) s ∧
        Within (resolveRange autumn 36000000 7 0) s) := by
  have hrows : ∀ s ∈ weekSessions, Within (resolveRange autumn 36000000 7 0) s ∧
      1 ≤ s.durationMinutes ∧ Aligned autumn (resolveRange autumn 36000000 7 0) s := by
    unfold Within Aligned
    decide +kernel
  refine (conserved_iff autumn 36000000 7 le_rfl (fun _ => none) (fun s hs => (hrows s hs).1)
    fun s hs => (hrows s hs).2.1).mpr ⟨fun s hs => (hrows s hs).2.2, .inl ?_⟩
  decide +kernel

/-- A session in the last hour of the long day is in no bucket. -/
theorem dropped_autumn :
    ¬ ∀ (cal : Calendar) (now : Time) (days offset : ℚ), 1 ≤ days → 0 ≤ offset →
    ∀ (childNames : String → Option String) (sessions : List Session),
    (∀ s ∈ sessions, Within (resolveRange cal now days offset) s) →
    (∀ s ∈ sessions, 1 ≤ s.durationMinutes) →
    Reported cal (resolveRange cal now days offset) childNames sessions := by
  intro h
  have hreported := h autumn 36000000 7 0 (by norm_num) le_rfl (fun _ => none) [sessionAt 88200000]
    (by
      intro s hs
      rw [List.mem_singleton.mp hs]
      exact ⟨by decide +kernel, by decide +kernel⟩)
    (by
      intro s hs
      rw [List.mem_singleton.mp hs]
      decide)
  exact absurd hreported.sum_daily (by decide +kernel)

/-! ### A day without midnight -/

/-- A zone whose clock is set forward from midnight to one on the day `0`. -/
def spring : Calendar := clockChange 0 3600000 (by decide) (by decide)

/-- On the day before the jump the week ends at one o'clock, the jump's other side, and so it starts
an hour after the end of the week before. -/
theorem apart_spring : (resolveRange spring (-43200000) 7 0).start =
    (resolveRange spring (-43200000) 7 1).finish + 3600000 := by
  decide +kernel

end GuardTime.Reports
