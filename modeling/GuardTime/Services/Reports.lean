import Mathlib.Tactic
import GuardTime.Lib.LocalTime
import GuardTime.Services.Health
import GuardTime.Services.UsageLogs

/-! # Reports

`resolveRange` and `bucketDaily` of `reports.util.ts`, and `ReportsService.build` as it runs when
the cache has no report. The table of the usage logs is an argument. -/

namespace GuardTime.Services.Reports

open GuardTime.Lib.Program GuardTime.Lib.Keyed GuardTime.Lib.Js GuardTime.Lib.LocalTime
open GuardTime.Schema GuardTime.Server GuardTime.Prisma GuardTime.Services.UsageLogs

/-! ### Ranges -/

/-- `MS_PER_DAY`. -/
def msPerDay : Time := 86400000

/-- The local calendar: the clock of the zone, when each day starts, and how the locale writes a
date. -/
structure Calendar extends Clock where
  start : ℤ → Time
  fmt : Time → String
  hours : ∀ d, start (d + 1) - start d ∈ ([82800000, 86400000, 90000000] : List Time)
  day_iff : ∀ t d, localTime t / msPerDay = d ↔ start d ≤ t ∧ t < start (d + 1)

/-- `ReportRange`. -/
structure ReportRange where
  start : Time
  finish : Time
  days : ℕ
  label : String

/-- The day of an instant. -/
def Calendar.day (cal : Calendar) (t : Time) : ℤ := cal.localTime t / msPerDay

/-- `startOfDay`: `setHours(0, 0, 0, 0)`. -/
def Calendar.startOfDay (cal : Calendar) (d : Time) : Time := cal.utc (cal.day d * msPerDay)

/-- `d.setDate(d.getDate() + days)`, which keeps the local time of day. -/
def Calendar.addDays (cal : Calendar) (d : Time) (days : ℤ) : Time :=
  cal.utc (cal.localTime d + days * msPerDay)

/-- `resolveRange`. -/
def resolveRange (cal : Calendar) (now : Time) (days offset : ℚ) : ReportRange :=
  let safeDays := max 1 ⌊days⌋
  let safeOffset := max 0 ⌊offset⌋
  let finish := cal.addDays (cal.startOfDay now) (1 - safeDays * safeOffset)
  let start := cal.addDays finish (-safeDays)
  { start, finish, days := safeDays.toNat
    label := cal.fmt start ++ " – " ++ cal.fmt (finish - msPerDay) }

/-- `Math.round`. -/
def round (x : ℚ) : ℤ := ⌊x + 1 / 2⌋

theorem round_cast (z : ℤ) : round (z : ℚ) = z := by
  unfold round
  rw [Int.floor_intCast_add]
  norm_num

theorem round_mono {x y : ℚ} (h : x ≤ y) : round x ≤ round y :=
  Int.floor_le_floor (add_le_add_left h _)

theorem le_round {z : ℤ} {x : ℚ} (h : (z : ℚ) ≤ x) : z ≤ round x := by
  rw [← round_cast z]
  exact round_mono h

theorem round_le {z : ℤ} {x : ℚ} (h : x ≤ (z : ℚ)) : round x ≤ z := by
  rw [← round_cast z]
  exact round_mono h

/-- An item of `bucketDaily`. -/
structure Item where
  date : Time
  minutes : ℚ

/-- `bucketDaily`. -/
def bucketDaily (items : List Item) (range : ReportRange) : List ℤ :=
  let buckets := items.foldl (fun buckets item =>
    let idx := (item.date - range.start) / msPerDay
    if 0 ≤ idx ∧ idx < range.days then buckets.modify idx.toNat (· + item.minutes) else buckets)
    (List.replicate range.days 0)
  buckets.map round

/-! ### The report -/

/-- `ReportChildBreakdown`. -/
structure ReportChildBreakdown where
  childId : String
  name : String
  screenMinutes : ℤ
  sessions : ℕ
deriving DecidableEq

/-- `ReportTopApp`. -/
structure ReportTopApp where
  name : String
  minutes : ℤ

inductive Period where
  | week | month

/-- `PeriodReport`. -/
structure PeriodReport where
  period : Period
  start : String
  finish : String
  label : String
  scope : Option String
  sessionsCount : ℕ
  screenMinutes : ℤ
  trackedMinutes : ℤ
  gamingMinutes : ℤ
  dailyMinutes : List ℤ
  topApps : List ReportTopApp
  byChild : List ReportChildBreakdown
  devices : List ReportDeviceActivity
  protectedDevices : ℕ
  totalDevices : ℕ
  generatedAt : String

/-- `sessions.reduce((sum, s) => sum + s.durationMinutes, 0)`. -/
def screenMinutes (sessions : List Session) : ℤ :=
  sessions.foldl (fun sum s => sum + s.durationMinutes) 0

/-- The minutes of the sessions by day. -/
def dailyMinutes (sessions : List Session) (range : ReportRange) : List ℤ :=
  bucketDaily (sessions.map fun s => ⟨s.startedAt, s.durationMinutes⟩) range

/-- One turn of the loop over the sessions: the entry of the child, in the order in which the map
got its entries. -/
def addSession (childNames : String → Option String) (s : Session) :
    List ReportChildBreakdown → List ReportChildBreakdown
  | [] => [⟨s.childId, (childNames s.childId).getD "Child", 0 + s.durationMinutes, 0 + 1⟩]
  | entry :: entries =>
    if entry.childId = s.childId then
      { entry with
        screenMinutes := entry.screenMinutes + s.durationMinutes
        sessions := entry.sessions + 1 } :: entries
    else entry :: addSession childNames s entries

/-- The minutes of the sessions by child, the largest first. -/
def byChild (childNames : String → Option String) (sessions : List Session) :
    List ReportChildBreakdown :=
  (sessions.foldl (fun entries s => addSession childNames s entries) []).mergeSort
    fun a b => b.screenMinutes ≤ a.screenMinutes

/-- `sum(durationSec)` in minutes. -/
def loggedMinutes (logs : List UsageLog) : ℤ := round ((logs.map UsageLog.durationSec).sum / 60)

/-- The five apps with most use; ties come in any order. -/
def topApps (n : ℕ) (logs : List UsageLog) : List ReportTopApp :=
  let groups := (logs.map UsageLog.appName).dedup.map fun app =>
    (app, ((logs.filter fun log => log.appName = app).map UsageLog.durationSec).sum)
  let rows := ((arrange n groups).insertionSort fun g g' => g'.2 ≤ g.2).take 5
  rows.map fun g => ⟨g.1.getD "Unknown", round (g.2 / 60)⟩

/-- The logs of the children in the range. -/
def logsOf (usageLogs : Table UsageLog.id) (childIds : List String) (range : ReportRange) :
    List UsageLog :=
  usageLogs.rows.filter fun log =>
    log.childId ∈ childIds && range.start ≤ log.loggedAt && log.loggedAt < range.finish

/-- `build` without a cached report. Without children nothing is asked about the logs, which gives
the same sums. -/
def build (env : Env) (cal : Calendar) (usageLogs : Table UsageLog.id) (period : Period)
    (days offset : ℚ) (parentId : String) (childId : Option String) : Api PeriodReport := do
  let range := resolveRange cal (← newDate) days offset
  let children ← Prisma.findMany .child fun c =>
    c.parentId = parentId && (truthy childId).all (c.id = ·)
  Prog.require ((truthy childId).isNone ∨ children ≠ []) (.forbidden "Not your child")
  let logs := logsOf usageLogs (children.map Child.id) range
  let gaming := logs.filter fun log => log.category.any fun c => env.toLowerCase c = "gaming"
  let sessions ← Prisma.findMany .session fun s =>
    s.parentId = parentId && range.start ≤ s.startedAt && s.startedAt < range.finish &&
      (truthy childId).all (s.childId = ·)
  let topApps ← Prisma.query fun _ n => topApps n logs
  let devices ← deviceActivities parentId
  let now ← newDate
  pure
    { period, start := toISOString range.start, finish := toISOString range.finish
      label := range.label, scope := childId, sessionsCount := sessions.length
      screenMinutes := screenMinutes sessions
      trackedMinutes := loggedMinutes logs, gamingMinutes := loggedMinutes gaming
      dailyMinutes := dailyMinutes sessions range
      topApps
      byChild := byChild (fun id => (children.find? (·.id = id)).map Child.name) sessions
      devices
      protectedDevices := (devices.filter ReportDeviceActivity.isProtected).length
      totalDevices := devices.length
      generatedAt := toISOString now }

/-- `weekly`. -/
def weekly (env : Env) (cal : Calendar) (usageLogs : Table UsageLog.id) (parentId : String)
    (childId : Option String) (offset : ℚ) : Api PeriodReport :=
  build env cal usageLogs .week 7 offset parentId childId

/-- `monthly`. -/
def monthly (env : Env) (cal : Calendar) (usageLogs : Table UsageLog.id) (parentId : String)
    (childId : Option String) (offset : ℚ) : Api PeriodReport :=
  build env cal usageLogs .month 30 offset parentId childId

end GuardTime.Services.Reports
