import Mathlib.Tactic
import GuardTime.Services.Sessions
import GuardTime.Services.DnsPolicy

/-! # Children, devices, bandwidth limits, schedules and the child agent

`ChildrenService`, `DevicesService`, `BandwidthService`, `ProtectionService.upsertSchedule` and
`ChildAgentService`. -/

namespace GuardTime.Services

open GuardTime.Lib.Program GuardTime.Lib.Js GuardTime.Schema GuardTime.Server GuardTime.Prisma

/-! ### Children -/

namespace Children

/-- `CreateChildDto`. -/
structure CreateChildDto where
  name : String
  avatar : Option String := none
  age : Option ℤ := none
  defaultLimitMinutes : Option ℤ := none

/-- `UpdateChildDto`. -/
structure UpdateChildDto where
  name : Patch String := none
  avatar : Patch String := none
  age : Patch ℤ := none
  defaultLimitMinutes : Patch ℤ := none

/-- `create`. -/
def create (parentId : String) (dto : CreateChildDto) : Api Child :=
  Prisma.create .child fun id now =>
    { id, parentId, name := dto.name, avatar := dto.avatar, age := dto.age,
      defaultLimit := dto.defaultLimitMinutes, createdAt := now, updatedAt := now }

/-- The ownership check of `findOne`. -/
def findOne (parentId id : String) : Api Child := do
  let child ← Prog.orThrow (← Prisma.findUnique .child id) (.notFound "Child not found")
  Prog.require (child.parentId = parentId) (.forbidden "Not your child")
  pure child

/-- `update` hands the whole dto to the client, which knows no column `defaultLimitMinutes`. -/
def update (parentId id : String) (dto : UpdateChildDto) : Api Child := do
  let _ ← findOne parentId id
  Prisma.validate (dto.name ≠ some none ∧ dto.defaultLimitMinutes = none)
  Prisma.update .child id fun c =>
    { c with
      name := dto.name.overReq c.name
      avatar := dto.avatar.over c.avatar
      age := dto.age.over c.age }

/-- `remove`. -/
def remove (parentId id : String) : Api Unit := do
  let _ ← findOne parentId id
  Prisma.delete .child id

end Children

/-! ### Devices -/

namespace Devices

/-- `CreateDeviceDto`. -/
structure CreateDeviceDto where
  childId : String
  name : String
  type : DeviceType
  platform : Option String := none
  macAddress : Option String := none
  ipAddress : Option String := none
  controlMethod : Option ControlMethod := none
  gatewayId : Option String := none

/-- `UpdateDeviceDto`. -/
structure UpdateDeviceDto where
  name : Patch String := none
  childId : Patch String := none
  macAddress : Patch String := none
  ipAddress : Patch String := none
  controlMethod : Patch ControlMethod := none
  gatewayId : Patch String := none
  vpnBlockEnabled : Patch Bool := none
  quicBlockEnabled : Patch Bool := none

/-- A device row with the defaults of the schema. -/
def newDevice (id parentId : String) (childId : Option String) (name : String) (type : DeviceType)
    (now : Time) : Device where
  id := id
  childId := childId
  parentId := parentId
  name := name
  type := type
  platform := none
  macAddress := none
  ipAddress := none
  ipv6Address := none
  status := .online
  controlMethod := .mock
  lastSeen := none
  dnsSourceIp := none
  dnsConfigured := false
  lastDnsSeenAt := none
  blockingMode := .gamingOnly
  internetLocked := false
  internetLockedReason := none
  internetLockedAt := none
  protectionStatus := .normal
  protectionScore := 100
  lastBypassDetectedAt := none
  bypassAttempts := 0
  dailyLimitMinutes := none
  bedtimeStart := none
  bedtimeEnd := none
  autoBlockEnabled := false
  offlineControlEnabled := false
  offlineControlMethod := none
  offlineSetupCompletedAt := none
  offlineSetupVerified := false
  offlineControlNotes := none
  gatewayId := none
  hostname := none
  dhcpClientId := none
  vendorOui := none
  osHint := none
  fingerprintHash := none
  fingerprintUpdatedAt := none
  vpnBlockEnabled := true
  quicBlockEnabled := false
  paired := false
  pairStatus := .waiting
  pairedAt := none
  resolverRegion := none
  publicIp := none
  dnsBeaconToken := none
  createdAt := now
  updatedAt := now

/-- The part of `PlatformSupport` that device payloads carry. -/
structure PlatformSupport where
  offlineControlSupported : Bool
  offlineControlMethod : String
  recommendedControlMethod : String
  notes : String
deriving DecidableEq

/-- `getPlatformSupport`: the `PLATFORM_SUPPORT_MATRIX`. -/
def getPlatformSupport : DeviceType → PlatformSupport
  | .androidPhone =>
    ⟨true, "ANDROID_AGENT", "ANDROID_AGENT",
      "Child agent (Device Admin) is the reliable control — blocks apps, locks device, " ++
        "enforces bedtime, and works on cellular. Device DNS is weak: Android Private DNS is " ++
        "device-wide and child-changeable, and some apps use their own DoH."⟩
  | .androidTablet =>
    ⟨true, "ANDROID_AGENT", "ANDROID_AGENT",
      "Same as Android Phone — agent is primary; Private DNS / app DoH can bypass " ++
        "device-level DNS."⟩
  | .iphone =>
    ⟨true, "IOS_SCREEN_TIME", "IOS_SCREEN_TIME",
      "Screen Time (Family Sharing) is the real control. DNS filtering only applies if a DNS " ++
        "profile is installed AND iCloud Private Relay is off; per-Wi-Fi DNS never covers " ++
        "cellular. App-level DoH can still bypass DNS."⟩
  | .ipad =>
    ⟨true, "IOS_SCREEN_TIME", "IOS_SCREEN_TIME",
      "Same as iPhone — Screen Time is primary; iCloud Private Relay and app DoH bypass " ++
        "device DNS."⟩
  | .xbox =>
    ⟨true, "XBOX_ACCOUNT", "XBOX_ACCOUNT",
      "Use Microsoft Family / Xbox Family Settings via OAuth. Online + offline limits " ++
        "enforced by Microsoft. Falls back to DNS_FILTERING for online block."⟩
  | .playstation =>
    ⟨false, "NOT_SUPPORTED", "DNS_FILTERING + OFFICIAL_PARENTAL_GUIDE",
      "Blocks online PSN traffic via DNS (PS5/PS5 Slim/PS4; Portal streams from a PS5). Set " ++
        "console IPv6 to Off so it does not bypass IPv4 DNS. Offline single-player games " ++
        "cannot be stopped — use Sony Family / PS5 Family Manager."⟩
  | .nintendo =>
    ⟨false, "NOT_SUPPORTED", "DNS_FILTERING + OFFICIAL_PARENTAL_GUIDE",
      "Online play / eShop / cloud saves blocked via DNS (Switch 2, Switch, OLED, Lite — same " ++
        "flow). Offline games and Switch 2 GameChat need the Nintendo Switch Parental " ++
        "Controls app — backend cannot stop them."⟩
  | .steamDeck =>
    ⟨false, "NOT_SUPPORTED", "DNS_FILTERING + OFFICIAL_PARENTAL_GUIDE",
      "Steam online + downloads blocked via DNS. Offline Steam games cannot be killed by " ++
        "backend — use Steam Family View on the device."⟩
  | .pc =>
    ⟨false, "NOT_SUPPORTED", "DNS_FILTERING + OFFICIAL_PARENTAL_GUIDE",
      "Windows: DNS filtering works only if the child uses a Standard (non-admin) account and " ++
        "browser DoH is disabled. Pair with Microsoft Family Safety for app/time limits. IPv6 " ++
        "and browser DoH+ECH can bypass DNS."⟩
  | .mac =>
    ⟨false, "NOT_SUPPORTED", "DNS_FILTERING + OFFICIAL_PARENTAL_GUIDE",
      "macOS: Screen Time (Family Sharing) is the stronger control. Device DNS filters only " ++
        "with iCloud Private Relay off and the child on a Standard account; browser DoH still " ++
        "bypasses it."⟩
  | .smartTv =>
    ⟨false, "NOT_SUPPORTED", "DNS_FILTERING + ROUTER_GATEWAY",
      "Streaming + smart-TV apps blocked via DNS. No agent available — for hard control use " ++
        "the router/gateway to disable internet."⟩
  | .streamingBox =>
    ⟨false, "NOT_SUPPORTED", "DNS_FILTERING + ROUTER_GATEWAY",
      "Same as Smart TV — DNS blocking for streaming services + router gateway as fallback."⟩
  | .other =>
    ⟨false, "NOT_SUPPORTED", "DNS_FILTERING",
      "Generic device — DNS-only filtering is supported. No offline guarantees."⟩

/-- `redact`: the row without its beacon token. -/
def redact (d : Device) : Device := { d with dnsBeaconToken := none }

/-- `withSupport`: the payload of a device, with what its platform supports. -/
def withSupport (d : Device) : Device × PlatformSupport := (redact d, getPlatformSupport d.type)

/-- `create`. -/
def create (parentId : String) (dto : CreateDeviceDto) : Api Device := do
  let device ← Prisma.create .device fun id now =>
    { newDevice id parentId (some dto.childId) dto.name dto.type now with
      platform := dto.platform
      macAddress := dto.macAddress
      ipAddress := dto.ipAddress
      controlMethod := dto.controlMethod.getD .mock
      gatewayId := dto.gatewayId }
  pure (redact device)

/-- The device, if `parentId` owns it: the checks `findOne` and the lock operations share. -/
def findOne (parentId id : String) : Api Device := do
  let device ← Prog.orThrow (← Prisma.findUnique .device id) (.notFound "Device not found")
  Prog.require (device.parentId = parentId) (.forbidden "Not your device")
  pure device

/-- `update`. -/
def update (parentId id : String) (dto : UpdateDeviceDto) : Api Device := do
  let _ ← findOne parentId id
  Prisma.validate (dto.name ≠ some none ∧ dto.controlMethod ≠ some none ∧
    dto.vpnBlockEnabled ≠ some none ∧ dto.quicBlockEnabled ≠ some none)
  let device ← Prisma.update .device id fun d =>
    { d with
      name := dto.name.overReq d.name
      childId := dto.childId.over d.childId
      macAddress := dto.macAddress.over d.macAddress
      ipAddress := dto.ipAddress.over d.ipAddress
      controlMethod := dto.controlMethod.overReq d.controlMethod
      gatewayId := dto.gatewayId.over d.gatewayId
      vpnBlockEnabled := dto.vpnBlockEnabled.overReq d.vpnBlockEnabled
      quicBlockEnabled := dto.quicBlockEnabled.overReq d.quicBlockEnabled }
  pure (redact device)

/-- `remove`. -/
def remove (parentId id : String) : Api Unit := do
  let _ ← findOne parentId id
  Prisma.delete .device id

/-- `invalidateDnsCacheForDevice`. -/
def invalidateDnsCacheForDevice (device : Device) : Api Unit :=
  DnsPolicy.invalidateSourceIps [device.ipAddress, device.dnsSourceIp, device.ipv6Address]

/-- `lockInternet`. -/
def lockInternet (parentId id : String) (reason : Option String) :
    Api (Device × PlatformSupport) := do
  let _ ← findOne parentId id
  let now ← newDate
  let updated ← Prisma.update .device id fun d =>
    { d with
      blockingMode := .fullInternetLock
      internetLocked := true
      internetLockedReason := some (reason.getD "Locked by parent")
      internetLockedAt := some now }
  invalidateDnsCacheForDevice updated
  pure (withSupport updated)

theorem unlocked_id (d : Device) :
    ({ d with
        blockingMode := .gamingOnly
        internetLocked := false
        internetLockedReason := none
        internetLockedAt := none } : Device).id = d.id := rfl

/-- `unlockInternet`. -/
def unlockInternet (parentId id : String) : Api (Device × PlatformSupport) := do
  let _ ← findOne parentId id
  let updated ← Prisma.update .device id fun d =>
    { d with
      blockingMode := .gamingOnly
      internetLocked := false
      internetLockedReason := none
      internetLockedAt := none }
  invalidateDnsCacheForDevice updated
  pure (withSupport updated)

end Devices

/-! ### Schedules -/

namespace Protection

/-- `UpsertScheduleDto`. -/
structure UpsertScheduleDto where
  dailyLimitMinutes : Patch ℤ := none
  bedtimeStart : Patch String := none
  bedtimeEnd : Patch String := none
  autoBlockEnabled : Patch Bool := none

/-- `upsertSchedule`. -/
def upsertSchedule (parentId deviceId : String) (dto : UpsertScheduleDto) : Api Device := do
  let _ ← Devices.findOne parentId deviceId
  Prisma.validate (dto.autoBlockEnabled ≠ some none)
  Prisma.update .device deviceId fun d =>
    { d with
      dailyLimitMinutes := dto.dailyLimitMinutes.over d.dailyLimitMinutes
      bedtimeStart := dto.bedtimeStart.over d.bedtimeStart
      bedtimeEnd := dto.bedtimeEnd.over d.bedtimeEnd
      autoBlockEnabled := dto.autoBlockEnabled.overReq d.autoBlockEnabled }

end Protection

/-! ### Bandwidth limits -/

namespace Bandwidth

/-- `CreateBandwidthLimitDto`. -/
structure CreateBandwidthLimitDto where
  childId : Option String := none
  deviceId : Option String := none
  category : Option BlockCategory := none
  downloadKbps : Patch ℤ := none
  uploadKbps : Patch ℤ := none

/-- `UpdateBandwidthLimitDto`. -/
structure UpdateBandwidthLimitDto where
  category : Patch BlockCategory := none
  downloadKbps : Patch ℤ := none
  uploadKbps : Patch ℤ := none
  enabled : Patch Bool := none

/-- The device check of `create`. -/
def checkDevice (parentId : String) : Option String → Api Unit
  | none => pure ()
  | some deviceId => do
    let device ← Prog.orThrow (← Prisma.findUnique .device deviceId) (.notFound "Device not found")
    Prog.require (device.parentId = parentId) (.forbidden "Not your device")

/-- The child check of `create`. -/
def checkChild (parentId : String) : Option String → Api Unit
  | none => pure ()
  | some childId => do
    let child ← Prog.orThrow (← Prisma.findUnique .child childId) (.notFound "Child not found")
    Prog.require (child.parentId = parentId) (.forbidden "Not your child")

/-- `create`. -/
def create (parentId : String) (dto : CreateBandwidthLimitDto) : Api BandwidthLimit := do
  Prog.require ((truthy dto.childId).isSome ∨ (truthy dto.deviceId).isSome)
    (.badRequest "One of childId or deviceId is required")
  Prog.require (¬((truthy dto.childId).isSome ∧ (truthy dto.deviceId).isSome))
    (.badRequest "Provide only one of childId or deviceId, not both")
  Prog.require (¬(dto.downloadKbps = none ∧ dto.uploadKbps = none))
    (.badRequest "At least one of downloadKbps or uploadKbps is required")
  checkDevice parentId (truthy dto.deviceId)
  checkChild parentId (truthy dto.childId)
  Prisma.create .bandwidthLimit fun id now =>
    { id, parentId, childId := dto.childId, deviceId := dto.deviceId, category := dto.category,
      downloadKbps := dto.downloadKbps.over none, uploadKbps := dto.uploadKbps.over none,
      enabled := true, createdAt := now, updatedAt := now }

/-- `findOne`. -/
def findOne (parentId id : String) : Api BandwidthLimit := do
  let limit ← Prog.orThrow (← Prisma.findUnique .bandwidthLimit id)
    (.notFound "Bandwidth limit not found")
  Prog.require (limit.parentId = parentId) (.forbidden "Not yours")
  pure limit

/-- `update`. -/
def update (parentId id : String) (dto : UpdateBandwidthLimitDto) : Api BandwidthLimit := do
  let _ ← findOne parentId id
  Prisma.validate (dto.enabled ≠ some none)
  Prisma.update .bandwidthLimit id fun l =>
    { l with
      category := dto.category.over l.category
      downloadKbps := dto.downloadKbps.over l.downloadKbps
      uploadKbps := dto.uploadKbps.over l.uploadKbps
      enabled := dto.enabled.overReq l.enabled }

/-- `remove`. -/
def remove (parentId id : String) : Api Unit := do
  let _ ← findOne parentId id
  Prisma.delete .bandwidthLimit id

end Bandwidth

/-! ### Child agent -/

namespace ChildAgent

/-- `RegisterDeviceDto`. -/
structure RegisterDeviceDto where
  childId : String
  deviceName : String
  deviceType : DeviceType
  platform : Option String := none
  macAddress : Option String := none

/-- `inferControlMethod`. -/
def inferControlMethod : DeviceType → ControlMethod
  | .androidPhone | .androidTablet => .androidAgent
  | .iphone | .ipad => .iosScreenTime
  | .xbox => .xboxAdapter
  | .playstation | .smartTv | .streamingBox => .networkGateway
  | _ => .mock

/-- `registerDevice`. -/
def registerDevice (parentId : String) (dto : RegisterDeviceDto) : Api Device := do
  let seen ← newDate
  Prisma.create .device fun id now =>
    { Devices.newDevice id parentId (some dto.childId) dto.deviceName dto.deviceType now with
      platform := dto.platform
      macAddress := dto.macAddress
      controlMethod := inferControlMethod dto.deviceType
      status := .online
      lastSeen := some seen }

theorem delivered_id (now : Time) (c : Command) :
    ({ c with status := .delivered, deliveredAt := some now } : Command).id = c.id := rfl

/-- `getCommands`. -/
def getCommands (deviceId : String) : Api (List Command) := do
  let pending ← Prisma.findManyBy .command
    (fun c => c.deviceId = deviceId && c.status = .pending) fun c c' => c.createdAt ≤ c'.createdAt
  if pending = [] then pure pending
  else do
    let now ← newDate
    let _ ← Prisma.updateMany .command (fun c => c.id ∈ pending.map Command.id)
      fun c => { c with status := .delivered, deliveredAt := some now }
    pure pending

/-- `CommandAckDto`. -/
structure CommandAckDto where
  commandId : String
  success : Bool
  resultData : Option String := none

theorem acknowledged_id (dto : CommandAckDto) (now : Time) (c : Command) :
    ({ c with status := if dto.success then .acknowledged else .failed, ackedAt := some now } :
      Command).id = c.id := rfl

/-- `acknowledgeCommand`. -/
def acknowledgeCommand (dto : CommandAckDto) : Api CommandAck := do
  let _ ← Prog.orThrow (← Prisma.findUnique .command dto.commandId) (.notFound "Command not found")
  let now ← newDate
  let _ ← Prisma.update .command dto.commandId fun c =>
    { c with status := if dto.success then .acknowledged else .failed, ackedAt := some now }
  Prisma.create .commandAck fun id now =>
    { id, commandId := dto.commandId, success := dto.success, resultData := dto.resultData,
      ackedAt := now }

/-- `requestMoreTime` and `reportUsage` only notify or touch `lastSeen`; `reportStatus` may also
note the active app on a session. -/
def reportStatus (deviceId : String) (activeApp : Option String) : Api Unit := do
  let now ← newDate
  let _ ← Prisma.update .device deviceId fun d => { d with lastSeen := some now }
  match truthy activeApp with
  | none => pure ()
  | some app => do
    let device ← Prisma.findUnique .device deviceId
    match device.bind fun d => truthy d.childId with
    | none => pure ()
    | some _ => do
      let activeSession ← Prisma.findFirst .session fun s =>
        s.deviceId = deviceId && s.status = .active
      match activeSession with
      | none => pure ()
      | some s => do
        let _ ← Prisma.update .session s.id fun s => { s with activeApp := some app }
        pure ()

end ChildAgent

end GuardTime.Services
