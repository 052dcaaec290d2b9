import Mathlib.Tactic
import GuardTime.Prisma

/-! # The models of the schema

Each model with its unique columns, foreign keys, `@updatedAt` column and `onDelete` actions. -/

namespace GuardTime.Prisma.Model

open GuardTime.Lib.Keyed GuardTime.Schema

/-! ### Referential actions -/

/-- What goes with deleted children: their devices are kept without a child. -/
def cascadeChildren (ids : List String) (db : Database) : Database :=
  { db with
    devices := db.devices.modify (fun d => d.childId.any (· ∈ ids))
      (fun d => { d with childId := none }) (by intros; rfl)
    rules := db.rules.erase fun r => r.childId ∈ ids
    sessions := db.sessions.erase fun s => s.childId ∈ ids
    categoryBlocks := db.categoryBlocks.erase fun b => b.childId ∈ ids }

/-- What goes with deleted devices. -/
def cascadeDevices (ids : List String) (db : Database) : Database :=
  { db with
    sessions := db.sessions.erase fun s => s.deviceId ∈ ids
    commands := db.commands.erase fun c => c.deviceId ∈ ids
    commandAcks := db.commandAcks.erase fun a =>
      a.commandId ∈ (db.commands.rows.filter fun c => c.deviceId ∈ ids).map Command.id
    pairingSessions := db.pairingSessions.erase fun s => s.deviceId ∈ ids
    deviceIpHistory := db.deviceIpHistory.erase fun h => h.deviceId ∈ ids
    deviceConnectionEvents := db.deviceConnectionEvents.erase fun e => e.deviceId ∈ ids }

theorem ungated_id (d : Device) : ({ d with gatewayId := none } : Device).id = d.id := rfl

theorem status_id (status : DeviceStatus) (d : Device) :
    ({ d with status := status } : Device).id = d.id := rfl

theorem seen_id (now : Lib.Js.Time) (d : Device) :
    ({ d with lastDnsSeenAt := some now } : Device).id = d.id := rfl

/-- Devices of deleted gateways are kept without a gateway. -/
def cascadeGateways (ids : List String) (db : Database) : Database :=
  { db with
    devices := db.devices.modify (fun d => d.gatewayId.any (· ∈ ids))
      (fun d => { d with gatewayId := none }) (by intros; rfl) }

/-- What goes with a deleted user; audit entries are kept without their user. -/
def cascadeUser (id : String) (db : Database) : Database :=
  let childIds := (db.children.rows.filter fun c => c.parentId = id).map Child.id
  let deviceIds := (db.devices.rows.filter fun d => d.parentId = id).map Device.id
  let gatewayIds := (db.gateways.rows.filter fun g => g.parentId = id).map Gateway.id
  let db := { db with
    subscriptions := db.subscriptions.erase fun s => s.userId = id
    pushTokens := db.pushTokens.erase fun t => t.userId = id
    oAuthAccounts := db.oAuthAccounts.erase fun a => a.userId = id
    notificationEvents := db.notificationEvents.erase fun e => e.userId = id
    auditLogs := db.auditLogs.modify (fun a => a.userId = some id)
      (fun a => { a with userId := none }) (by intros; rfl)
    children := db.children.erase fun c => c.parentId = id
    devices := db.devices.erase fun d => d.parentId = id
    gateways := db.gateways.erase fun g => g.parentId = id
    sessions := db.sessions.erase fun s => s.parentId = id }
  cascadeGateways gatewayIds (cascadeDevices deviceIds (cascadeChildren childIds db))

/-! ### Models -/

def user : Model User.id where
  get := Database.users
  set db t := { db with users := t }
  uniques r := [["email", r.email]]
  touch t r := { r with updatedAt := t }
  onDelete := cascadeUser

def subscription : Model Subscription.id where
  get := Database.subscriptions
  set db t := { db with subscriptions := t }
  uniques r := [["userId", r.userId]]
  links r := [.user r.userId]

def pushToken : Model PushToken.id where
  get := Database.pushTokens
  set db t := { db with pushTokens := t }
  uniques r := [["token", r.token]]
  links r := [.user r.userId]

def child : Model Child.id where
  get := Database.children
  set db t := { db with children := t }
  links r := [.user r.parentId]
  touch t r := { r with updatedAt := t }
  onDelete id := cascadeChildren [id]

def device : Model Device.id where
  get := Database.devices
  set db t := { db with devices := t }
  uniques r := (r.dnsBeaconToken.map fun b => ["dnsBeaconToken", b]).toList
  links r := [.user r.parentId] ++ (r.childId.map .child).toList ++
    (r.gatewayId.map .gateway).toList
  touch t r := { r with updatedAt := t }
  onDelete id := cascadeDevices [id]

def pairingSession : Model PairingSession.id where
  get := Database.pairingSessions
  set db t := { db with pairingSessions := t }
  uniques r := [["token", r.token]]
  links r := [.device r.deviceId]

def deviceIpHistory : Model DeviceIpHistory.id where
  get := Database.deviceIpHistory
  set db t := { db with deviceIpHistory := t }
  uniques r := [["deviceId_ipAddress", r.deviceId, r.ipAddress]]
  links r := [.device r.deviceId]

def deviceConnectionEvent : Model DeviceConnectionEvent.id where
  get := Database.deviceConnectionEvents
  set db t := { db with deviceConnectionEvents := t }
  links r := [.device r.deviceId]

def unknownDomainLog : Model UnknownDomainLog.id where
  get := Database.unknownDomainLogs
  set db t := { db with unknownDomainLogs := t }
  uniques r := (r.deviceId.map fun d => ["domain_device_unique", r.domain, d]).toList

def bandwidthLimit : Model BandwidthLimit.id where
  get := Database.bandwidthLimits
  set db t := { db with bandwidthLimits := t }
  touch t r := { r with updatedAt := t }

def vpnDetectionLog : Model VpnDetectionLog.id where
  get := Database.vpnDetectionLogs
  set db t := { db with vpnDetectionLogs := t }

def rule : Model Rule.id where
  get := Database.rules
  set db t := { db with rules := t }
  links r := [.child r.childId]
  touch t r := { r with updatedAt := t }

def session : Model Session.id where
  get := Database.sessions
  set db t := { db with sessions := t }
  links r := [.device r.deviceId, .child r.childId, .user r.parentId]
  touch t r := { r with updatedAt := t }

def command : Model Command.id where
  get := Database.commands
  set db t := { db with commands := t }
  links r := [.device r.deviceId]

def commandAck : Model CommandAck.id where
  get := Database.commandAcks
  set db t := { db with commandAcks := t }
  links r := [.command r.commandId]

def gateway : Model Gateway.id where
  get := Database.gateways
  set db t := { db with gateways := t }
  uniques r := ["token", r.token] :: (r.previousToken.map fun t => ["previousToken", t]).toList
  links r := [.user r.parentId]
  touch t r := { r with updatedAt := t }
  onDelete id := cascadeGateways [id]

def detectedRouter : Model DetectedRouter.id where
  get := Database.detectedRouters
  set db t := { db with detectedRouters := t }
  uniques r := [["gatewayId", r.gatewayId]]
  touch t r := { r with updatedAt := t }

def routerCommand : Model RouterCommand.id where
  get := Database.routerCommands
  set db t := { db with routerCommands := t }

def oAuthAccount : Model OAuthAccount.id where
  get := Database.oAuthAccounts
  set db t := { db with oAuthAccounts := t }
  uniques r := [["provider_providerUserId", r.provider, r.providerUserId]]
  links r := [.user r.userId]
  touch t r := { r with updatedAt := t }

def notificationEvent : Model NotificationEvent.id where
  get := Database.notificationEvents
  set db t := { db with notificationEvents := t }
  links r := [.user r.userId]

def auditLog : Model AuditLog.id where
  get := Database.auditLogs
  set db t := { db with auditLogs := t }
  links r := (r.userId.map .user).toList

def blockedDomain : Model BlockedDomain.id where
  get := Database.blockedDomains
  set db t := { db with blockedDomains := t }
  uniques r := [["domain", r.domain]]

def categoryBlock : Model CategoryBlock.id where
  get := Database.categoryBlocks
  set db t := { db with categoryBlocks := t }
  uniques r := [["childId_category", r.childId,
    match r.category with
    | .gaming => "GAMING" | .streaming => "STREAMING" | .social => "SOCIAL" | .adult => "ADULT"
    | .custom => "CUSTOM"]]
  links r := [.child r.childId]
  touch t r := { r with updatedAt := t }

def dnsQueryLog : Model DnsQueryLog.id where
  get := Database.dnsQueryLogs
  set db t := { db with dnsQueryLogs := t }

end GuardTime.Prisma.Model
