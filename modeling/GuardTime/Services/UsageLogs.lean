import Mathlib.Tactic
import GuardTime.Lib.JsObject
import GuardTime.Services.Sessions

/-! # Usage logs

What the agents on the children's computers log, and `UsageLogsService.getDailyUsage`. The table of
the logs is an argument: no other modelled operation reads or writes it. -/

namespace GuardTime.Services.UsageLogs

open GuardTime.Lib.Program GuardTime.Lib.Keyed GuardTime.Lib.Js GuardTime.Schema GuardTime.Server
open GuardTime.Prisma GuardTime.Services.Sessions

/-- A row of the table. -/
structure UsageLog where
  id : String
  deviceId : String
  childId : String
  appName : Option String
  category : Option String
  durationSec : ℤ
  loggedAt : Time

/-- What `getDailyUsage` answers. -/
structure DailyUsage where
  childId : String
  date : String
  totalMinutes : ℤ
  totalSeconds : ℤ
  byApp : Lib.JsObject.Obj
  logCount : ℕ

/-- `assertChildOwnership`. -/
def assertChildOwnership (parentId childId : String) : Api Unit := do
  Prog.require (childId ≠ "") (.badRequest "childId query parameter is required")
  let child ← Prog.orThrow (← Prisma.findUnique .child childId) (.notFound "Child not found")
  Prog.require (child.parentId = parentId) (.forbidden "Not your child")

/-- `log.appName || 'unknown'`. -/
def appKey (log : UsageLog) : String := (truthy log.appName).getD "unknown"

/-- The summary of the logs that were found. -/
def summary (childId : String) (startOfDay : Time) (logs : List UsageLog) : DailyUsage :=
  let totalSeconds := logs.foldl (fun sum log => sum + log.durationSec) 0
  { childId, date := (split (toISOString startOfDay) 'T').headD ""
    totalMinutes := totalSeconds / 60, totalSeconds
    byApp := Lib.JsObject.tally (logs.map fun log => (appKey log, log.durationSec))
    logCount := logs.length }

/-- `getDailyUsage`; `endOfDay` is `setHours(23, 59, 59, 999)`. -/
def getDailyUsage (env : Env) (endOfDay : Time → Time) (usageLogs : Table UsageLog.id)
    (parentId childId : String) (date : Option Time) : Api DailyUsage := do
  assertChildOwnership parentId childId
  let now ← newDate
  let targetDate := date.getD now
  let startOfDay := env.zone.startOfDay targetDate
  let logs ← Prisma.query fun _ n => arrange n (usageLogs.rows.filter fun log =>
    log.childId = childId && startOfDay ≤ log.loggedAt && log.loggedAt ≤ endOfDay targetDate)
  pure (summary childId startOfDay logs)

end GuardTime.Services.UsageLogs
