import Mathlib.Tactic
import GuardTime.Services.Pairing
import GuardTime.Services.UsageLogs

/-! # More of what the parent app reads

The reads of `RulesService`, `BandwidthService`, `PairingService` and `UsageLogsService` that are
not with their writes. -/

namespace GuardTime.Services

open GuardTime.Lib.Program GuardTime.Lib.Keyed GuardTime.Lib.Js GuardTime.Schema GuardTime.Server
open GuardTime.Prisma

/-! ### Rules and limits -/

namespace Rules

/-- A rule with the columns of its child that `findAll` selects. -/
structure Listed where
  rule : Rule
  childId : String
  childName : String
deriving DecidableEq

/-- `findAll`. -/
def findAll (parentId : String) : Api (List Listed) :=
  Prisma.query fun db n => (arrange n (db.rules.rows.filterMap fun r =>
    ((db.children.find r.childId).filter fun c => c.parentId = parentId).map fun c =>
      (⟨r, c.id, c.name⟩ : Listed)))

end Rules

namespace Bandwidth

/-- `findAll`. -/
def findAll (parentId : String) : Api (List BandwidthLimit) :=
  Prisma.findManyBy .bandwidthLimit (fun l => l.parentId = parentId)
    fun l l' => l'.createdAt ≤ l.createdAt

end Bandwidth

/-! ### Pairing -/

namespace Pairing

inductive ConnectionQuality where
  | excellent | good | poor | offline
deriving DecidableEq

/-- `computeConnectionQuality`, with `CONNECTION_QUALITY_THRESHOLDS_MS`. -/
def computeConnectionQuality (lastDnsSeenAt : Option Time) (now : Time) : ConnectionQuality :=
  match lastDnsSeenAt with
  | none => .offline
  | some t =>
    let ageMs := now - t
    if ageMs < 0 then .excellent
    else if ageMs ≤ 2 * 60000 then .excellent
    else if ageMs ≤ 15 * 60000 then .good
    else if ageMs ≤ 60 * 60000 then .poor
    else .offline

/-- `PairingStatusResponseDto`. -/
structure PairingStatusResponse where
  pairStatus : PairStatus
  paired : Bool
  pairedAt : Option String
  dnsSourceIp : Option String
  publicIp : Option String
  resolverRegion : Option String
  lastDnsSeenAt : Option String
  connectionQuality : ConnectionQuality
  beaconToken : Option String
deriving DecidableEq

/-- `getStatus`. -/
def getStatus (deviceId parentId : String) : Api PairingStatusResponse := do
  let device ← findOwned deviceId parentId
  let now ← newDate
  pure
    { pairStatus := device.pairStatus, paired := device.paired
      pairedAt := device.pairedAt.map toISOString, dnsSourceIp := device.dnsSourceIp,
      publicIp := device.publicIp, resolverRegion := device.resolverRegion,
      lastDnsSeenAt := device.lastDnsSeenAt.map toISOString,
      connectionQuality := computeConnectionQuality device.lastDnsSeenAt now
      beaconToken := if device.paired then device.dnsBeaconToken else none }

end Pairing

/-! ### Usage logs -/

namespace UsageLogs

/-- `assertDeviceOwnership`. -/
def assertDeviceOwnership (parentId deviceId : String) : Api Unit := do
  Prog.require (deviceId ≠ "") (.badRequest "deviceId is required")
  let device ← Prog.orThrow (← Prisma.findUnique .device deviceId) (.notFound "Device not found")
  Prog.require (device.parentId = parentId) (.forbidden "Not your device")

/-- `toISOString().split('T')[0]`. -/
def dayOf (t : Time) : String := (split (toISOString t) 'T').headD ""

/-- What `getWeeklyUsage` answers. -/
structure WeeklyUsage where
  childId : String
  weekStart : String
  totalMinutes : ℤ
  totalSeconds : ℤ
  byDay : Lib.JsObject.Obj
  logCount : ℕ

/-- The summary of the logs of a week. -/
def weekSummary (childId : String) (startOfWeek : Time) (logs : List UsageLog) : WeeklyUsage :=
  let totalSeconds := logs.foldl (fun sum log => sum + log.durationSec) 0
  { childId, weekStart := dayOf startOfWeek, totalMinutes := totalSeconds / 60, totalSeconds
    byDay := Lib.JsObject.tally (logs.map fun log => (dayOf log.loggedAt, log.durationSec))
    logCount := logs.length }

/-- `getWeeklyUsage`; `startOfWeek` is the last Sunday's midnight. -/
def getWeeklyUsage (startOfWeek : Time → Time) (usageLogs : Table UsageLog.id)
    (parentId childId : String) : Api WeeklyUsage := do
  assertChildOwnership parentId childId
  let start := startOfWeek (← newDate)
  let logs ← Prisma.query fun _ n => (arrange n (usageLogs.rows.filter fun log =>
    log.childId = childId && start ≤ log.loggedAt)).insertionSort fun l l' => l.loggedAt ≤
      l'.loggedAt
  pure (weekSummary childId start logs)

/-- What `getDeviceUsage` answers. -/
structure DeviceUsage where
  deviceId : String
  totalMinutes : ℤ
  totalSeconds : ℤ
  recentLogs : List UsageLog

/-- `getDeviceUsage`. -/
def getDeviceUsage (usageLogs : Table UsageLog.id) (parentId deviceId : String) :
    Api DeviceUsage := do
  assertDeviceOwnership parentId deviceId
  let logs ← Prisma.query fun _ n => ((arrange n (usageLogs.rows.filter fun log =>
    log.deviceId = deviceId)).insertionSort fun l l' => l'.loggedAt ≤ l.loggedAt).take 100
  let totalSeconds := logs.foldl (fun sum log => sum + log.durationSec) 0
  pure ⟨deviceId, totalSeconds / 60, totalSeconds, logs⟩

end UsageLogs

end GuardTime.Services
