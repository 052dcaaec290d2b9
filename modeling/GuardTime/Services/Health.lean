import Mathlib.Tactic
import GuardTime.Services.Scheduler

/-! # Health of devices

The verdict of `device-health.types.ts`, `DeviceHealthService.getForDevice`, and what
`ReportsService` says about devices. -/

namespace GuardTime.Services

open GuardTime.Lib.Program GuardTime.Lib.Js GuardTime.Schema GuardTime.Server GuardTime.Prisma

namespace DeviceHealth

/-- `DeviceHealthState`. -/
inductive DeviceHealthState where
  | verified | idle | needsAttention | neverVerified | notConfigured
deriving DecidableEq

/-- `HealthSeverity`. -/
inductive HealthSeverity where
  | ok | info | warning
deriving DecidableEq

/-- `DeviceHealthInput`. -/
structure DeviceHealthInput where
  dnsConfigured : Bool
  lastDnsSeenAt : Option Time
  internetLocked : Bool
  hasActiveSession : Bool

/-- `DeviceHealthVerdict`. -/
structure DeviceHealthVerdict where
  state : DeviceHealthState
  severity : HealthSeverity
  filteringActive : Bool
  title : String
  message : String
  recommendedAction : Option String
  lastDnsSeenAt : Option Time
  ageMinutes : Option ℤ
deriving DecidableEq

/-- `FRESH_THRESHOLD_MINUTES`. -/
def freshThresholdMinutes : ℤ := 15

/-- `ageMinutes`: whole minutes, and none when the device was never seen. -/
def ageMinutes (now : Time) (lastDnsSeenAt : Option Time) : Option ℤ :=
  lastDnsSeenAt.map fun t => max 0 ((now - t) / 60000)

/-- `evaluateDeviceHealth`. -/
def evaluateDeviceHealth (input : DeviceHealthInput) (now : Time) : DeviceHealthVerdict :=
  let age := ageMinutes now input.lastDnsSeenAt
  match age with
  | none =>
    if !input.dnsConfigured then
      { state := .notConfigured, severity := .info, filteringActive := false
        title := "Not set up yet"
        message := "DNS filtering has not been configured for this device."
        recommendedAction := some "Run the DNS setup guide"
        lastDnsSeenAt := input.lastDnsSeenAt, ageMinutes := age }
    else
      { state := .neverVerified, severity := .warning, filteringActive := false
        title := "Never verified"
        message := "This device is marked as configured, but we have never seen DNS traffic " ++
          "from it. The DNS may be set incorrectly."
        recommendedAction := some "Re-check the DNS setup and run a verification"
        lastDnsSeenAt := input.lastDnsSeenAt, ageMinutes := age }
  | some minutes =>
    if minutes ≤ freshThresholdMinutes then
      { state := .verified, severity := .ok, filteringActive := true
        title := "Protected"
        message := "DNS filtering is active — we saw traffic from this device just now."
        recommendedAction := none
        lastDnsSeenAt := input.lastDnsSeenAt, ageMinutes := age }
    else if input.internetLocked || input.hasActiveSession then
      { state := .needsAttention, severity := .warning, filteringActive := false
        title := "Needs attention"
        message := if input.internetLocked then
            "This device is locked but no DNS traffic is reaching us. The child may have " ++
              "changed DNS, started a VPN, or switched to a hotspot."
          else "A session is active but no DNS traffic is reaching us — filtering may be bypassed."
        recommendedAction := some "Check router DNS, private DNS, and for a VPN or hotspot"
        lastDnsSeenAt := input.lastDnsSeenAt, ageMinutes := age }
    else
      { state := .idle, severity := .info, filteringActive := false
        title := "Idle"
        message := "No recent DNS traffic. The device is likely powered off or not currently " ++
          "online. Filtering resumes automatically when it reconnects."
        recommendedAction := none
        lastDnsSeenAt := input.lastDnsSeenAt, ageMinutes := age }

/-- What the services hand to the verdict for a row. -/
def inputOf (activeDeviceIds : List String) (d : Device) : DeviceHealthInput :=
  ⟨d.dnsConfigured, d.lastDnsSeenAt, d.internetLocked, d.id ∈ activeDeviceIds⟩

/-- `activeSessionDeviceIds`. -/
def activeSessionDeviceIds (parentId : String) : Api (List String) := do
  let sessions ← Prisma.findMany .session fun s =>
    s.parentId = parentId && (s.status = .active || s.status = .paused)
  pure (sessions.map Session.deviceId)

/-- `DeviceHealthItem`. -/
structure DeviceHealthItem where
  verdict : DeviceHealthVerdict
  deviceId : String
  name : String
  type : DeviceType
  childId : Option String

/-- `getForDevice`. -/
def getForDevice (parentId deviceId : String) : Api DeviceHealthItem := do
  let d ← Devices.findOne parentId deviceId
  let activeDeviceIds ← activeSessionDeviceIds parentId
  let now ← newDate
  pure ⟨evaluateDeviceHealth (inputOf activeDeviceIds d) now, d.id, d.name, d.type, d.childId⟩

end DeviceHealth

namespace Reports

/-- `FRESH_MINUTES`. -/
def freshMinutes : ℤ := 15

/-- `ReportDeviceActivity`. -/
structure ReportDeviceActivity where
  deviceId : String
  name : String
  type : DeviceType
  isProtected : Bool
deriving DecidableEq

/-- A device in the answer of `build`. -/
def deviceActivity (now : Time) (d : Device) : ReportDeviceActivity :=
  { deviceId := d.id, name := d.name, type := d.type
    isProtected := d.lastDnsSeenAt.any fun t => now - t ≤ freshMinutes * 60000 }

/-- The devices of `build`. -/
def deviceActivities (parentId : String) : Api (List ReportDeviceActivity) := do
  let devices ← Prisma.findMany .device fun d => d.parentId = parentId
  let now ← newDate
  pure (devices.map (deviceActivity now))

end Reports

end GuardTime.Services
