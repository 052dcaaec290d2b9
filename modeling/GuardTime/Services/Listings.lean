import Mathlib.Tactic
import GuardTime.Services.Devices

/-! # What the parent app lists

The reads of `ChildrenService`, `DevicesService` and `SessionsService` with the rows they include,
and `OfflineControlService.setSetupStatus`. -/

namespace GuardTime.Services

open GuardTime.Lib.Program GuardTime.Lib.Js GuardTime.Schema GuardTime.Server GuardTime.Prisma

/-! ### Children -/

namespace Children

/-- `findAll`: the children with their devices. -/
def findAll (parentId : String) : Api (List (Child × List Device)) :=
  Prisma.query fun db n => (matching .child db n fun c => c.parentId = parentId).map fun c =>
    (c, matching .device db n fun d => d.childId = some c.id)

/-- A child with its devices and rules. -/
structure ChildDetails where
  child : Child
  devices : List Device
  rules : List Rule

/-- The answer of `findOne`. -/
def findDetails (parentId id : String) : Api ChildDetails := do
  let found ← Prisma.query fun db n => (db.children.find id).map fun c =>
    ({ child := c
       devices := matching .device db n fun d => d.childId = some c.id
       rules := matching .rule db n fun r => r.childId = c.id } : ChildDetails)
  let details ← Prog.orThrow found (.notFound "Child not found")
  Prog.require (details.child.parentId = parentId) (.forbidden "Not your child")
  pure details

end Children

/-! ### Devices -/

namespace Devices

/-- The payload of a device with its child. -/
structure Payload where
  device : Device
  support : PlatformSupport
  child : Option Child

/-- `withSupport` of a device that was read with its child. -/
def payload (x : Device × Option Child) : Payload :=
  ⟨(withSupport x.1).1, (withSupport x.1).2, x.2⟩

/-- `findAll`. -/
def findAll (parentId : String) : Api (List Payload) := do
  let devices ← Prisma.query fun db n => (matching .device db n fun d => d.parentId = parentId).map
    fun d => (d, d.childId.bind db.children.find)
  pure (devices.map payload)

/-- The answer of `findOne`. -/
def findPayload (parentId id : String) : Api Payload := do
  let found ← Prisma.query fun db _ => (db.devices.find id).map fun d =>
    (d, d.childId.bind db.children.find)
  let x ← Prog.orThrow found (.notFound "Device not found")
  Prog.require (x.1.parentId = parentId) (.forbidden "Not your device")
  pure (payload x)

/-- The answer of `getNetworkStatus`. -/
structure NetworkStatus where
  deviceId : String
  name : String
  type : DeviceType
  blockingMode : BlockingMode
  internetLocked : Bool
  internetLockedReason : Option String
  internetLockedAt : Option Time
  ipAddress : Option String
  dnsSourceIp : Option String
  lastDnsSeenAt : Option Time
  offlineControlSupported : Bool
  offlineControlMethod : String
  note : String
deriving DecidableEq

/-- `getNetworkStatus`. -/
def getNetworkStatus (parentId id : String) : Api NetworkStatus := do
  let d ← findOne parentId id
  let support := getPlatformSupport d.type
  pure
    { deviceId := d.id, name := d.name, type := d.type, blockingMode := d.blockingMode,
      internetLocked := d.internetLocked, internetLockedReason := d.internetLockedReason,
      internetLockedAt := d.internetLockedAt, ipAddress := d.ipAddress,
        dnsSourceIp := d.dnsSourceIp,
      lastDnsSeenAt := d.lastDnsSeenAt, offlineControlSupported := support.offlineControlSupported,
      offlineControlMethod := support.offlineControlMethod
      note := if d.internetLocked then
          "All ONLINE traffic is blocked for this device. Offline single-player games cannot " ++
            "be killed by us."
        else "Standard policy in effect (gaming/category rules apply)." }

end Devices

/-! ### Sessions -/

namespace Sessions

/-- A session with its device and child. -/
structure SessionDetails where
  session : Session
  device : Option Device
  child : Option Child

/-- The rows a session includes. -/
def details (db : Database) (s : Session) : SessionDetails :=
  ⟨s, db.devices.find s.deviceId, db.children.find s.childId⟩

/-- `getActiveSessions`. -/
def getActiveSessions (parentId : String) : Api (List SessionDetails) :=
  Prisma.query fun db n => (matching .session db n fun s =>
    s.parentId = parentId && s.status = .active).map (details db)

/-- `getHistory`. -/
def getHistory (parentId : String) : Api (List SessionDetails) :=
  Prisma.query fun db n => (((matching .session db n fun s => s.parentId = parentId &&
      (s.status = .stopped || s.status = .expired || s.status = .violated)).insertionSort
    fun s s' => s'.startedAt ≤ s.startedAt).take 50).map (details db)

end Sessions

/-! ### Offline control -/

namespace OfflineControl

/-- `SetSetupStatusDto`. -/
structure SetSetupStatusDto where
  completed : Bool
  verified : Option Bool := none
  method : Option String := none
  notes : Option String := none

/-- `setSetupStatus`. -/
def setSetupStatus (parentId deviceId : String) (dto : SetSetupStatusDto) : Api Device := do
  let device ← Devices.findOne parentId deviceId
  let now ← newDate
  Prisma.update .device deviceId fun d =>
    { d with
      offlineControlEnabled := dto.completed
      offlineSetupCompletedAt := if dto.completed then some now else none
      offlineSetupVerified := dto.verified.getD device.offlineSetupVerified
      offlineControlMethod := dto.method.or device.offlineControlMethod
      offlineControlNotes := dto.notes.or device.offlineControlNotes }

end OfflineControl

end GuardTime.Services
