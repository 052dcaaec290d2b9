import Mathlib.Tactic
import GuardTime.Services.Enforcement
import GuardTime.Services.Parents

/-! # The rest of the parent app

What a parent may do besides managing children, devices and gateways: the push tokens of the phones,
the notification center, the blocked categories of a child, the profile, and
`EnforcementService.syncRules` with the adapters' `startSession`. -/

namespace GuardTime.Services

open GuardTime.Lib.Program GuardTime.Lib.Js GuardTime.Schema GuardTime.Server GuardTime.Prisma

/-! ### Push tokens -/

namespace Push

/-- `PUSH_PLATFORMS`. -/
inductive PushPlatform where
  | ios | android | web
deriving DecidableEq

/-- The platform as the column holds it. -/
def platformName : PushPlatform → String
  | .ios => "ios"
  | .android => "android"
  | .web => "web"

/-- The update of a token that is known. -/
def repoint (userId : String) (platform : PushPlatform) (now : Time) (t : PushToken) : PushToken :=
  { t with userId, platform := platformName platform, lastUsedAt := now }

/-- `registerToken`. -/
def registerToken (userId token : String) (platform : PushPlatform) : Api PushToken := do
  let now ← newDate
  Prisma.upsert .pushToken (fun t => t.token = token) (repoint userId platform now)
    fun id now =>
      { id, userId, token, platform := platformName platform, createdAt := now, lastUsedAt := now }

/-- `removeToken`. -/
def removeToken (userId token : String) : Api Unit :=
  Prisma.deleteMany .pushToken fun t => t.userId = userId && t.token = token

end Push

/-! ### Notification center -/

namespace Notifications

/-- `findByUser`. -/
def findByUser (userId : String) : Api (List NotificationEvent) := do
  let rows ← Prisma.findManyBy .notificationEvent (fun n => n.userId = userId)
    fun n n' => n'.createdAt ≤ n.createdAt
  pure (rows.take 50)

/-- `markRead`. -/
def markRead (notificationId : String) : Api NotificationEvent :=
  Prisma.update .notificationEvent notificationId fun n => { n with read := true }

/-- `markReadForUser`. -/
def markReadForUser (userId notificationId : String) : Api NotificationEvent := do
  let found ← Prisma.findFirst .notificationEvent fun n =>
    n.id = notificationId && n.userId = userId
  let _ ← Prog.orThrow found (.notFound "Notification not found")
  markRead notificationId

end Notifications

/-- `ChildAgentService.requestMoreTime`. -/
def ChildAgent.requestMoreTime (env : Env) (sessionId : String) (requestedMinutes : ℤ) :
    Api String := do
  let session ← Prog.orThrow (← Prisma.findUnique .session sessionId)
    (.notFound "Session not found")
  let _ ← Notifications.create env
    { userId := session.parentId
      type := .childRequestMoreTime
      title := "Time Extension Request"
      message := "Child requests " ++ toString requestedMinutes ++ " more minutes"
      sessionId := some session.id
      childId := some session.childId
      deviceId := some session.deviceId }
  pure "Request sent to parent"

/-! ### Blocked categories -/

namespace Categories

/-- `assertChildOwnership`. -/
def assertChildOwnership (parentId childId : String) : Api Unit := do
  let child ← Prog.orThrow (← Prisma.findUnique .child childId) (.notFound "Child not found")
  Prog.require (child.parentId = parentId) (.forbidden "Not your child")

/-- The update of a block that is there. -/
def toggle (active : Bool) (reason : Patch String) (b : CategoryBlock) : CategoryBlock :=
  { b with active, reason := reason.over b.reason }

/-- `setCategoryBlock`. -/
def setCategoryBlock (parentId childId : String) (category : BlockCategory) (active : Bool)
    (reason : Patch String) : Api CategoryBlock := do
  assertChildOwnership parentId childId
  Prisma.upsert .categoryBlock (fun b => b.childId = childId && b.category = category)
    (toggle active reason) fun id now =>
      { id, childId, category, reason := reason.over none, active, createdAt := now,
        updatedAt := now }

/-- `listCategoryBlocks`. -/
def listCategoryBlocks (parentId childId : String) : Api (List CategoryBlock) := do
  assertChildOwnership parentId childId
  Prisma.findMany .categoryBlock fun b => b.childId = childId

end Categories

/-! ### Profile -/

namespace Parents

/-- `UpdateProfileDto`. -/
structure UpdateProfileDto where
  firstName : Patch String := none
  lastName : Patch String := none

/-- What `updateProfile` selects. -/
structure Profile where
  id : String
  email : String
  firstName : Option String
  lastName : Option String
  role : Role
deriving DecidableEq

/-- The selected columns. -/
def profile (u : User) : Profile := ⟨u.id, u.email, u.firstName, u.lastName, u.role⟩

/-- `updateProfile`. -/
def updateProfile (userId : String) (dto : UpdateProfileDto) : Api Profile := do
  let user ← Prisma.update .user userId fun u =>
    { u with firstName := dto.firstName.over u.firstName, lastName := dto.lastName.over u.lastName }
  pure (profile user)

/-- `getProfile`, with the subscription it includes. -/
def getProfile (userId : String) : Api (Profile × Time × Option Subscription) := do
  let found ← Prisma.query fun db _ => (db.users.find userId).map fun u =>
    (profile u, u.createdAt, db.subscriptions.rows.find? fun s => s.userId = u.id)
  Prog.orThrow found (.notFound "User not found")

/-- `getSubscription`. -/
def getSubscription (userId : String) : Api Subscription := do
  let found ← Prisma.findUniqueBy .subscription fun s => s.userId = userId
  Prog.orThrow found (.notFound "Subscription not found")

end Parents

/-! ### Rules on the device -/

namespace Rules

/-- `getActiveRulesForChild`, and what `syncRules` reads. -/
def getActiveRulesForChild (childId : String) : Api (List Rule) :=
  Prisma.findMany .rule fun r => r.childId = childId && r.active

/-- The enumeration value as JSON shows it. -/
def typeName : RuleType → String
  | .dailyLimit => "DAILY_LIMIT"
  | .bedtime => "BEDTIME"
  | .schoolTime => "SCHOOL_TIME"
  | .weekendMode => "WEEKEND_MODE"
  | .rewardExtraTime => "REWARD_EXTRA_TIME"
  | .blockedApps => "BLOCKED_APPS"
  | .blockedCategories => "BLOCKED_CATEGORIES"

/-- A nullable number. -/
def numOrNull : Option ℤ → Json
  | some n => .num n
  | none => .null

/-- A row as `JSON.stringify` sees it. -/
def json (r : Rule) : Json :=
  .obj [("id", .str r.id), ("childId", .str r.childId), ("type", .str (typeName r.type)),
    ("value", .str r.value), ("startTime", strOrNull r.startTime), ("endTime", strOrNull r.endTime),
    ("daysOfWeek", strOrNull r.daysOfWeek), ("blockedApps", .arr (r.blockedApps.map .str)),
    ("blockedCategories", .arr (r.blockedCategories.map .str)),
    ("extraMinutes", numOrNull r.extraMinutes), ("active", .bool r.active),
    ("createdAt", .str (toISOString r.createdAt)), ("updatedAt", .str (toISOString r.updatedAt))]

end Rules

namespace Adapters

/-- The network gateway adapter's `startSession`. -/
def startViaGateway (device : Device) : Api ControlResult :=
  match truthy device.gatewayId with
  | none => pure ⟨false, "No gateway assigned to device", []⟩
  | some gatewayId => do
    let gateway ← Prisma.findUnique .gateway gatewayId
    match gateway.filter Gateway.paired with
    | none => pure ⟨false, "Gateway not found or not paired", []⟩
    | some g => pure ⟨true, "Session started via network gateway. Online access allowed.",
        [("gatewayId", .str g.id), ("method", .str "NETWORK_GATEWAY")]⟩

/-- The Xbox adapter's `startSession`. -/
def startViaXbox (device : Device) : Api ControlResult := do
  let oauth ← Prisma.findFirst .oAuthAccount fun a =>
    a.userId = device.parentId && a.provider = "microsoft"
  match oauth with
  | none => pure (fallbackToGateway device "startSession")
  | some _ => pure ⟨true, "Xbox session rules stored. Microsoft Family Safety integration " ++
    "required for direct enforcement.",
      [("hasOAuth", .bool true), ("fallback", .bool false)]⟩

/-- The adapter's `startSession`. -/
def startSession (device : Device) (rules : List Rule) : Api ControlResult :=
  let payload := stringify (.arr (rules.map Rules.json))
  match device.controlMethod with
  | .androidAgent => do
    let _ ← createCommand device .syncRules payload
    let _ ← createCommand device .blockApps (stringify (.obj [("action", .str "start_session")]))
    pure ⟨true, "Session started: commands queued for Android agent", []⟩
  | .iosScreenTime => do
    let _ ← createIosCommand device.id .syncRules payload
    pure ⟨false, unsupportedMessage, []⟩
  | .xboxAdapter => startViaXbox device
  | .networkGateway => startViaGateway device
  | _ => pure ⟨true, "[MOCK] Session started for device " ++ device.id, []⟩

end Adapters

namespace Enforcement

/-- `syncRules`. -/
def syncRules (deviceId : String) (parentId : Option String) : Api Adapters.ControlResult := do
  let device ← findDevice deviceId parentId
  match truthy device.childId with
  | none => pure ⟨false, "Device not assigned to child", []⟩
  | some childId => do
    let rules ← Rules.getActiveRulesForChild childId
    Adapters.startSession device rules

end Enforcement

end GuardTime.Services
