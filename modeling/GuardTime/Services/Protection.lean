import Mathlib.Tactic
import GuardTime.Services.Listings
import GuardTime.Services.Reports

/-! # Protection score and offline setup

The rest of `ProtectionService` and `OfflineControlService`. The checklists of the offline setup are
a table of their own that no other service reads: operations get it as an argument, and the one that
writes it answers with the new table. -/

namespace GuardTime.Services

open GuardTime.Lib.Program GuardTime.Lib.Keyed GuardTime.Lib.Js GuardTime.Schema GuardTime.Server
open GuardTime.Prisma

/-! ### Checklists -/

namespace OfflineControl

/-- The items a parent ticks off. -/
structure Items where
  pinEnabled : Bool := false
  childAccountLinked : Bool := false
  playTimeLimitEnabled : Bool := false
  ageRatingEnabled : Bool := false
  purchasesBlocked : Bool := false
  networkSettingsLocked : Bool := false
deriving DecidableEq

/-- The model `OfflineControlChecklist`. -/
structure OfflineControlChecklist extends Items where
  id : String
  deviceId : String
  notes : Option String
  updatedAt : Time
  createdAt : Time
deriving DecidableEq

/-- The items in the order of the columns. -/
def Items.values (i : Items) : List Bool :=
  [i.pinEnabled, i.childAccountLinked, i.playTimeLimitEnabled, i.ageRatingEnabled,
    i.purchasesBlocked, i.networkSettingsLocked]

/-- `.filter(Boolean).length`. -/
def Items.done (i : Items) : ℕ := i.values.count true

/-- The table of checklists. -/
abbrev Checklists : Type := Table OfflineControlChecklist.id

/-- `findUnique({ where: { deviceId } })`. -/
def checklistOf (checklists : Checklists) (deviceId : String) : Option OfflineControlChecklist :=
  checklists.rows.find? fun c => c.deviceId = deviceId

/-- The items done of a checklist that may be missing. -/
def completedCount (checklist : Option OfflineControlChecklist) : ℕ :=
  (checklist.map fun c => c.toItems.done).getD 0

end OfflineControl

/-! ### Protection score -/

namespace Protection

open OfflineControl

inductive ProtectionLevel where
  | high | medium | low
deriving DecidableEq

/-- The parts of a score. -/
structure Breakdown where
  dnsVisibility : ℤ
  lockState : ℤ
  offlineSetup : ℤ
  bypassHistory : ℤ
deriving DecidableEq

/-- `ProtectionScoreResult`. -/
structure ProtectionScoreResult where
  score : ℤ
  level : ProtectionLevel
  breakdown : Breakdown
deriving DecidableEq

/-- DNS visibility: are we seeing queries from this device? -/
def dnsVisibility (now : Time) (d : Device) : ℤ :=
  (if d.dnsConfigured then 10 else 0) +
    match d.lastDnsSeenAt with
    | none => 0
    | some t =>
      let age := now - t
      if age ≤ 10 * 60000 then 20 else if age ≤ 60 * 60000 then 10
      else if age ≤ 24 * 60 * 60000 then 5 else 0

/-- Lock state. -/
def lockState (d : Device) : ℤ :=
  if d.internetLocked then 15 else if d.blockingMode = .gamingOnly then 10 else 0

/-- Offline setup: vendor controls completed. -/
def offlineSetup (d : Device) (checklistDone : ℕ) : ℤ :=
  (if d.offlineSetupVerified then 15 else if d.offlineControlEnabled then 8 else 0) +
    Reports.round ((checklistDone : ℚ) / 6 * 15)

/-- Bypass history: subtracted from a baseline of 25. -/
def bypassHistory (d : Device) : ℤ :=
  let base : ℤ := match d.protectionStatus with
    | .normal => 25
    | .possibleDnsBypass => 25 - 10
    | .compromised => 0
  max 0 (base - min 20 (d.bypassAttempts * 3))

/-- The parts for a device. -/
def breakdown (now : Time) (d : Device) (checklistDone : ℕ) : Breakdown :=
  ⟨dnsVisibility now d, lockState d, offlineSetup d checklistDone, bypassHistory d⟩

/-- The sum of the parts, clamped. -/
def Breakdown.score (b : Breakdown) : ℤ :=
  max 0 (min 100 (b.dnsVisibility + b.lockState + b.offlineSetup + b.bypassHistory))

/-- The level of a score. -/
def levelOf (score : ℤ) : ProtectionLevel :=
  if score ≥ 80 then .high else if score ≥ 50 then .medium else .low

/-- `calculateProtectionScore`; the score is stored, best effort. -/
def calculateProtectionScore (checklists : Checklists) (deviceId : String) :
    Api ProtectionScoreResult := do
  let device ← Prog.orThrow (← Prisma.findUnique .device deviceId) (.notFound "Device not found")
  let now ← newDate
  let parts := breakdown now device (completedCount (checklistOf checklists deviceId))
  ignoreErrors do
    let _ ← Prisma.update .device deviceId fun d => { d with protectionScore := parts.score }
    pure ()
  pure ⟨parts.score, levelOf parts.score, parts⟩

/-- `getProtectionScore`. -/
def getProtectionScore (checklists : Checklists) (parentId deviceId : String) :
    Api ProtectionScoreResult := do
  let _ ← Devices.findOne parentId deviceId
  calculateProtectionScore checklists deviceId

/-- A domain and how often it was asked for. -/
structure DomainCount where
  domain : String
  count : ℕ
deriving DecidableEq

/-- `groupBy({ by: ['domain'], orderBy: { _count: 'desc' }, take: 10 })` over the queries of the
addresses since a time; ties come in any order. -/
def topDomains (ips : List String) (since : Time) (db : Database) (n : ℕ) : List DomainCount :=
  let rows := db.dnsQueryLogs.rows.filter fun q => q.sourceIp ∈ ips && since ≤ q.createdAt
  let groups := (rows.map DnsQueryLog.domain).dedup.map fun domain =>
    (⟨domain, rows.countP fun q => q.domain = domain⟩ : DomainCount)
  ((arrange n groups).insertionSort fun a b => b.count ≤ a.count).take 10

/-- The recommendations of `getInsights`. -/
def recommendations (d : Device) (checklistCompletedCount : ℕ) (level : ProtectionLevel) :
    List String :=
  let found :=
    (if d.dnsConfigured then []
      else ["Configure DNS at the router so this device cannot bypass filtering."]) ++
    (if d.offlineControlEnabled then []
      else ["Open the offline-control setup guide and complete vendor steps."]) ++
    (if checklistCompletedCount < 4 then
      ["Continue the offline-control checklist (PIN, child account, play-time, age rating)."]
      else []) ++
    (if d.protectionStatus = .possibleDnsBypass then
      ["Possible DNS bypass: re-check the device DNS settings."] else []) ++
    (if d.protectionStatus = .compromised then
      ["Device flagged COMPROMISED: lock the network settings and verify the router DNS."]
      else []) ++
    (if d.internetLocked = false ∧ level = .low then
      ["Consider FULL INTERNET LOCK while the score is low."] else [])
  if found = [] then ["All signals look healthy. Keep monitoring."] else found

/-- The answer of `getInsights`. -/
structure Insights where
  deviceId : String
  protectionScore : ℤ
  protectionLevel : ProtectionLevel
  breakdown : Breakdown
  protectionStatus : ProtectionStatus
  lastDnsSeenAt : Option Time
  bypassAttempts : ℤ
  lastBypassDetectedAt : Option Time
  checklistCompletedCount : ℕ
  topDomains : List DomainCount
  recommendations : List String
deriving DecidableEq

/-- `getInsights`. -/
def getInsights (checklists : Checklists) (parentId deviceId : String) : Api Insights := do
  let device ← Devices.findOne parentId deviceId
  let result ← calculateProtectionScore checklists deviceId
  let checklistCompletedCount := completedCount (checklistOf checklists deviceId)
  let ips := [device.ipAddress, device.dnsSourceIp].filterMap truthy
  let now ← newDate
  let domains ← if ips = [] then pure [] else
    Prisma.query (topDomains ips (now - 7 * 24 * 60 * 60000))
  pure
    { deviceId := device.id, protectionScore := result.score, protectionLevel := result.level,
      breakdown := result.breakdown, protectionStatus := device.protectionStatus,
      lastDnsSeenAt := device.lastDnsSeenAt, bypassAttempts := device.bypassAttempts,
      lastBypassDetectedAt := device.lastBypassDetectedAt, checklistCompletedCount,
      topDomains := domains
      recommendations := recommendations device checklistCompletedCount result.level }

/-- The answer of `getSchedule`. -/
structure Schedule where
  deviceId : String
  dailyLimitMinutes : Option ℤ
  bedtimeStart : Option String
  bedtimeEnd : Option String
  autoBlockEnabled : Bool
deriving DecidableEq

/-- `getSchedule`. -/
def getSchedule (parentId deviceId : String) : Api Schedule := do
  let d ← Devices.findOne parentId deviceId
  pure ⟨d.id, d.dailyLimitMinutes, d.bedtimeStart, d.bedtimeEnd, d.autoBlockEnabled⟩

end Protection

/-! ### Offline setup -/

namespace OfflineControl

/-- `ChecklistDto`; an item is absent, null or a value. -/
structure ChecklistDto where
  pinEnabled : Patch Bool := none
  childAccountLinked : Patch Bool := none
  playTimeLimitEnabled : Patch Bool := none
  ageRatingEnabled : Patch Bool := none
  purchasesBlocked : Patch Bool := none
  networkSettingsLocked : Patch Bool := none
  notes : Patch String := none

/-- The items after an update. -/
def ChecklistDto.over (dto : ChecklistDto) (i : Items) : Items where
  pinEnabled := dto.pinEnabled.overReq i.pinEnabled
  childAccountLinked := dto.childAccountLinked.overReq i.childAccountLinked
  playTimeLimitEnabled := dto.playTimeLimitEnabled.overReq i.playTimeLimitEnabled
  ageRatingEnabled := dto.ageRatingEnabled.overReq i.ageRatingEnabled
  purchasesBlocked := dto.purchasesBlocked.overReq i.purchasesBlocked
  networkSettingsLocked := dto.networkSettingsLocked.overReq i.networkSettingsLocked

/-- No item is null. -/
def ChecklistDto.valid (dto : ChecklistDto) : Bool :=
  some none ∉ [dto.pinEnabled, dto.childAccountLinked, dto.playTimeLimitEnabled,
    dto.ageRatingEnabled, dto.purchasesBlocked, dto.networkSettingsLocked]

theorem updateChecklist_id (dto : ChecklistDto) (now : Time) (c : OfflineControlChecklist) :
    ({ c with
        toItems := dto.over c.toItems, notes := dto.notes.over c.notes, updatedAt := now } :
      OfflineControlChecklist).id = c.id := rfl

/-- `upsertChecklist`: the table it leaves. -/
def upsertChecklist (checklists : Checklists) (parentId deviceId : String) (dto : ChecklistDto) :
    Api Checklists := do
  let _ ← Devices.findOne parentId deviceId
  Prisma.validate dto.valid
  let id ← randomUUID
  let now ← newDate
  match checklistOf checklists deviceId with
  | some c => pure (checklists.modify (fun r => r.id = c.id)
      (fun c => { c with
        toItems := dto.over c.toItems, notes := dto.notes.over c.notes, updatedAt := now })
      (updateChecklist_id dto now))
  | none => Prog.orThrow (checklists.insert
      { toItems := dto.over {}, id, deviceId, notes := dto.notes.over none, updatedAt := now,
        createdAt := now }) (.prisma "P2002")

/-- The enumeration value as texts show it. -/
def typeName : DeviceType → String
  | .androidPhone => "ANDROID_PHONE"
  | .androidTablet => "ANDROID_TABLET"
  | .iphone => "IPHONE"
  | .ipad => "IPAD"
  | .xbox => "XBOX"
  | .playstation => "PLAYSTATION"
  | .nintendo => "NINTENDO"
  | .steamDeck => "STEAM_DECK"
  | .pc => "PC"
  | .mac => "MAC"
  | .smartTv => "SMART_TV"
  | .streamingBox => "STREAMING_BOX"
  | .other => "OTHER"

/-- `recommendNextStep`. -/
def recommendNextStep (d : Device) (checklist : Option OfflineControlChecklist)
    (setupRequired : Bool) : String :=
  let items : Items := (checklist.map OfflineControlChecklist.toItems).getD {}
  if d.offlineControlEnabled = false then
    "Open the " ++ typeName d.type ++ " setup guide and follow the official vendor steps."
  else if items.pinEnabled = false then
    "Enable a PIN on the device to prevent settings changes."
  else if items.childAccountLinked = false then "Link the child account to the family."
  else if items.playTimeLimitEnabled = false then
    "Configure daily play-time limit in the vendor app."
  else if items.ageRatingEnabled = false then "Set age-rating restrictions for games."
  else if items.purchasesBlocked = false then "Block in-store purchases (ask-to-buy)."
  else if items.networkSettingsLocked = false then
    "Lock network settings so the child cannot change DNS."
  else if d.offlineSetupVerified = false then
    "Mark setup as verified once you tested it works."
  else if setupRequired then "Continue checklist items."
  else "All offline-control items complete. Online traffic is filtered by our DNS."

/-- The limitations of the guides in `OFFLINE_GUIDES`. -/
def guideLimitations : DeviceType → Option (List String)
  | .xbox => some
    ["GuardTime cannot directly stop a running offline game on the Xbox.",
     "Offline screen-time and content limits are enforced by Microsoft, not by us."]
  | .playstation => some
    ["The backend cannot stop an offline single-player PlayStation game while it runs.",
     "Offline play-time limits are enforced by Sony, not by us."]
  | .nintendo => some
    ["The backend cannot stop an offline Switch cartridge/downloaded game.",
     "Parental controls are system-wide (per console), not per user — Nintendo enforces them, " ++
       "not us."]
  | .steamDeck => some
    ["The backend cannot stop an offline Steam game once installed.",
     "A child can still launch any game not gated in Family View."]
  | .pc => some
    ["Without a PC agent the backend cannot stop a running offline game.",
     "A child with a local admin account, or using a browser with its own DoH, can bypass limits."]
  | .mac => some
    ["The backend cannot stop a running offline app; Screen Time enforces limits.",
     "An admin account can undo Screen Time and DNS changes."]
  | .iphone => some
    ["The backend cannot force-close a running app; Screen Time enforces limits.",
     "Cellular traffic is only governed by Screen Time, not by home/router DNS."]
  | .ipad => some
    ["The backend cannot force-close a running app; Screen Time enforces limits.",
     "Cellular iPads bypass home/router DNS — rely on Screen Time."]
  | .androidPhone => some
    ["Without the agent, DNS-only filtering does not cover mobile data.",
     "A child can change Private DNS or use an app with its own DoH unless the agent locks it " ++
       "down."]
  | .androidTablet => some
    ["DNS-only filtering does not cover mobile data — the agent does.",
     "Private DNS / app DoH can bypass device DNS unless locked by the agent."]
  | .smartTv => some
    ["The backend cannot stop content already playing from USB or an HDMI input.",
     "No agent runs inside a Smart TV — DNS (ideally at the router) is the only enforcement."]
  | .streamingBox | .other => none

/-- The answer of `getStatus`; every row of the support matrix says `onlineControl: true`. -/
structure Status where
  deviceId : String
  deviceType : DeviceType
  onlineControlSupported : Bool
  offlineControlSupported : Bool
  offlineControlMethod : String
  offlineControlEnabled : Bool
  offlineSetupCompletedAt : Option Time
  offlineSetupVerified : Bool
  protectionStatus : ProtectionStatus
  checklist : Option OfflineControlChecklist
  checklistCompletedCount : ℕ
  setupRequired : Bool
  limitations : List String
  recommendedNextStep : String
deriving DecidableEq

/-- The status of a device with its checklist. -/
def status (d : Device) (checklist : Option OfflineControlChecklist) : Status :=
  let support := Devices.getPlatformSupport d.type
  let done := completedCount checklist
  let setupRequired : Bool := !d.offlineControlEnabled || done < 4
  { deviceId := d.id, deviceType := d.type, onlineControlSupported := true,
    offlineControlSupported := support.offlineControlSupported
    offlineControlMethod := d.offlineControlMethod.getD support.offlineControlMethod
    offlineControlEnabled := d.offlineControlEnabled,
    offlineSetupCompletedAt := d.offlineSetupCompletedAt,
    offlineSetupVerified := d.offlineSetupVerified, protectionStatus := d.protectionStatus,
    checklist, checklistCompletedCount := done, setupRequired
    limitations := (guideLimitations d.type).getD
      ["Backend cannot directly kill offline games on this device."]
    recommendedNextStep := recommendNextStep d checklist setupRequired }

/-- `getStatus`. -/
def getStatus (checklists : Checklists) (parentId deviceId : String) : Api Status := do
  let device ← Devices.findOne parentId deviceId
  pure (status device (checklistOf checklists deviceId))

end OfflineControl

end GuardTime.Services
