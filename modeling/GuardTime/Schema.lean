import Mathlib.Tactic
import GuardTime.Lib.Keyed
import GuardTime.Lib.Js

/-! # The database schema

The enumerations and models of `prisma/schema.prisma`, one structure per model with the columns the
services read or write, and the database as one table per model. -/

namespace GuardTime.Schema

open GuardTime.Lib.Keyed GuardTime.Lib.Js

/-! ### Enumerations -/

inductive Role where
  | parent | childDevice | gateway | admin
deriving DecidableEq

inductive DeviceType where
  | androidPhone | androidTablet | iphone | ipad | xbox | playstation | nintendo | steamDeck | pc
  | mac | smartTv | streamingBox | other
deriving DecidableEq

inductive ControlMethod where
  | androidAgent | iosScreenTime | xboxAdapter | networkGateway | dnsFiltering | routerGateway
  | xboxAccount | officialParentalGuide | mock
deriving DecidableEq

inductive DeviceStatus where
  | online | offline | blocked | paused
deriving DecidableEq

inductive SessionStatus where
  | active | paused | stopped | expired | violated
deriving DecidableEq

inductive RuleType where
  | dailyLimit | bedtime | schoolTime | weekendMode | rewardExtraTime | blockedApps
  | blockedCategories
deriving DecidableEq

inductive CommandType where
  | blockApps | unblockApps | lockDevice | startVpnDns | stopVpnDns | reportUsage | syncRules
deriving DecidableEq

inductive CommandStatus where
  | pending | delivered | acknowledged | failed
deriving DecidableEq

inductive NotificationType where
  | time10MinLeft | timeEnded | deviceBlocked | childRequestMoreTime | parentApproved
  | parentDenied | possibleDnsBypass | offlineSetupIncomplete | protectionLow | repeatedBypass
  | deviceDisconnected
deriving DecidableEq

inductive SubscriptionPlan where
  | free | premium | family
deriving DecidableEq

inductive BlockCategory where
  | gaming | streaming | social | adult | custom
deriving DecidableEq

inductive BlockingMode where
  | gamingOnly | fullInternetLock
deriving DecidableEq

inductive ProtectionStatus where
  | normal | possibleDnsBypass | compromised
deriving DecidableEq

inductive PairStatus where
  | waiting | paired | expired | failed
deriving DecidableEq

inductive ConnectionEventType where
  | paired | unpaired | ipChanged | reconnected | connectionLost
deriving DecidableEq

inductive GatewayType where
  | softwareAgent | routerPlugin
deriving DecidableEq

inductive RouterIntegrationStatus where
  | officialApi | guideOnly | undetected
deriving DecidableEq

inductive RouterDetectionMethod where
  | upnp | ssdp | mdns | dhcpFingerprint | httpHeader | ouiLookup | manual
deriving DecidableEq

inductive RouterCommandType where
  | detect | testConnection | changeDns | pauseDevice | resumeDevice | disconnectClient
  | applyFirewallRule | removeFirewallRule | blockMac | unblockMac | endGamingSession
  | blockDevice | unblockDevice
deriving DecidableEq

/-! ### Models -/

structure User where
  id : String
  email : String
  passwordHash : String
  role : Role
  firstName : Option String
  lastName : Option String
  refreshToken : Option String
  failedLoginAttempts : ℤ
  lockedUntil : Option Time
  createdAt : Time
  updatedAt : Time
deriving DecidableEq

structure Subscription where
  id : String
  userId : String
  plan : SubscriptionPlan
  createdAt : Time
deriving DecidableEq

structure PushToken where
  id : String
  userId : String
  token : String
  platform : String
  createdAt : Time
  lastUsedAt : Time
deriving DecidableEq

structure Child where
  id : String
  parentId : String
  name : String
  avatar : Option String
  age : Option ℤ
  defaultLimit : Option ℤ
  createdAt : Time
  updatedAt : Time
deriving DecidableEq

structure Device where
  id : String
  childId : Option String
  parentId : String
  name : String
  type : DeviceType
  platform : Option String
  macAddress : Option String
  ipAddress : Option String
  ipv6Address : Option String
  status : DeviceStatus
  controlMethod : ControlMethod
  lastSeen : Option Time
  dnsSourceIp : Option String
  dnsConfigured : Bool
  lastDnsSeenAt : Option Time
  blockingMode : BlockingMode
  internetLocked : Bool
  internetLockedReason : Option String
  internetLockedAt : Option Time
  protectionStatus : ProtectionStatus
  protectionScore : ℤ
  lastBypassDetectedAt : Option Time
  bypassAttempts : ℤ
  dailyLimitMinutes : Option ℤ
  bedtimeStart : Option String
  bedtimeEnd : Option String
  autoBlockEnabled : Bool
  offlineControlEnabled : Bool
  offlineControlMethod : Option String
  offlineSetupCompletedAt : Option Time
  offlineSetupVerified : Bool
  offlineControlNotes : Option String
  gatewayId : Option String
  hostname : Option String
  dhcpClientId : Option String
  vendorOui : Option String
  osHint : Option String
  fingerprintHash : Option String
  fingerprintUpdatedAt : Option Time
  vpnBlockEnabled : Bool
  quicBlockEnabled : Bool
  paired : Bool
  pairStatus : PairStatus
  pairedAt : Option Time
  resolverRegion : Option String
  publicIp : Option String
  dnsBeaconToken : Option String
  createdAt : Time
  updatedAt : Time

structure PairingSession where
  id : String
  deviceId : String
  parentId : String
  token : String
  status : PairStatus
  expiresAt : Time
  attempts : ℤ
  createdAt : Time
deriving DecidableEq

structure DeviceIpHistory where
  id : String
  deviceId : String
  ipAddress : String
  firstSeenAt : Time
  lastSeenAt : Time
deriving DecidableEq

structure DeviceConnectionEvent where
  id : String
  deviceId : String
  type : ConnectionEventType
  ipAddress : Option String
  metadata : List (String × Option String)
  createdAt : Time
deriving DecidableEq

structure UnknownDomainLog where
  id : String
  domain : String
  sourceIp : String
  deviceId : Option String
  count : ℤ
  firstSeenAt : Time
  lastSeenAt : Time
  suggestedCategory : Option BlockCategory
  classified : Bool
deriving DecidableEq

structure BandwidthLimit where
  id : String
  parentId : String
  childId : Option String
  deviceId : Option String
  category : Option BlockCategory
  downloadKbps : Option ℤ
  uploadKbps : Option ℤ
  enabled : Bool
  createdAt : Time
  updatedAt : Time
deriving DecidableEq

structure VpnDetectionLog where
  id : String
  gatewayId : String
  deviceId : String
  provider : String
  method : String
  detail : Option String
  confidence : Option ℤ
  overallConfidence : Option ℤ
  detectedAt : Time
deriving DecidableEq

structure Rule where
  id : String
  childId : String
  type : RuleType
  value : String
  startTime : Option String
  endTime : Option String
  daysOfWeek : Option String
  blockedApps : List String
  blockedCategories : List String
  extraMinutes : Option ℤ
  active : Bool
  createdAt : Time
  updatedAt : Time
deriving DecidableEq

structure Session where
  id : String
  deviceId : String
  childId : String
  parentId : String
  status : SessionStatus
  startedAt : Time
  pausedAt : Option Time
  resumedAt : Option Time
  stoppedAt : Option Time
  expiredAt : Option Time
  durationMinutes : ℤ
  remainingMinutes : ℤ
  extendedMinutes : ℤ
  violated : Bool
  activeApp : Option String
  createdAt : Time
  updatedAt : Time
deriving DecidableEq

structure Command where
  id : String
  deviceId : String
  type : CommandType
  payload : Option String
  status : CommandStatus
  deliveredAt : Option Time
  ackedAt : Option Time
  createdAt : Time
deriving DecidableEq

structure CommandAck where
  id : String
  commandId : String
  success : Bool
  resultData : Option String
  ackedAt : Time
deriving DecidableEq

structure Gateway where
  id : String
  parentId : String
  name : String
  description : Option String
  gatewayType : GatewayType
  token : String
  endpoint : Option String
  paired : Bool
  pairedAt : Option Time
  lastSeen : Option Time
  agentVersion : Option String
  createdAt : Time
  updatedAt : Time
  previousToken : Option String
  previousTokenExpiresAt : Option Time
deriving DecidableEq

structure DetectedRouter where
  id : String
  gatewayId : String
  vendor : Option String
  model : Option String
  firmwareVersion : Option String
  pluginId : Option String
  integrationStatus : RouterIntegrationStatus
  detectionMethod : Option RouterDetectionMethod
  confidence : Option ℤ
  macOui : Option String
  ipAddress : Option String
  hostname : Option String
  adminCredentialsEncrypted : Option String
  lastDetectedAt : Option Time
  lastTestedAt : Option Time
  lastTestResult : Option Bool
  createdAt : Time
  updatedAt : Time
deriving DecidableEq

structure RouterCommand where
  id : String
  gatewayId : String
  deviceId : Option String
  type : RouterCommandType
  payload : Option String
  status : CommandStatus
  resultData : Option String
  createdAt : Time
  deliveredAt : Option Time
  ackedAt : Option Time
deriving DecidableEq

structure OAuthAccount where
  id : String
  userId : String
  provider : String
  providerUserId : String
  accessToken : String
  refreshToken : String
  tokenExpiresAt : Time
  scope : Option String
  createdAt : Time
  updatedAt : Time
deriving DecidableEq

structure NotificationEvent where
  id : String
  userId : String
  type : NotificationType
  title : String
  message : String
  deviceId : Option String
  childId : Option String
  sessionId : Option String
  read : Bool
  sentViaFcm : Bool
  createdAt : Time
deriving DecidableEq

structure AuditLog where
  id : String
  userId : Option String
  action : String
  entity : String
  entityId : Option String
  details : Option String
  ipAddress : Option String
  createdAt : Time
deriving DecidableEq

structure BlockedDomain where
  id : String
  domain : String
  category : Option BlockCategory
  wildcard : Bool
  createdAt : Time
deriving DecidableEq

structure CategoryBlock where
  id : String
  childId : String
  category : BlockCategory
  reason : Option String
  active : Bool
  createdAt : Time
  updatedAt : Time
deriving DecidableEq

structure DnsQueryLog where
  id : String
  domain : String
  sourceIp : String
  action : String
  createdAt : Time
deriving DecidableEq

/-! ### The database -/

/-- One table per model, each keyed by its `@id` column. -/
structure Database where
  users : Table User.id
  subscriptions : Table Subscription.id
  pushTokens : Table PushToken.id
  children : Table Child.id
  devices : Table Device.id
  pairingSessions : Table PairingSession.id
  deviceIpHistory : Table DeviceIpHistory.id
  deviceConnectionEvents : Table DeviceConnectionEvent.id
  unknownDomainLogs : Table UnknownDomainLog.id
  bandwidthLimits : Table BandwidthLimit.id
  vpnDetectionLogs : Table VpnDetectionLog.id
  rules : Table Rule.id
  sessions : Table Session.id
  commands : Table Command.id
  commandAcks : Table CommandAck.id
  gateways : Table Gateway.id
  detectedRouters : Table DetectedRouter.id
  routerCommands : Table RouterCommand.id
  oAuthAccounts : Table OAuthAccount.id
  notificationEvents : Table NotificationEvent.id
  auditLogs : Table AuditLog.id
  blockedDomains : Table BlockedDomain.id
  categoryBlocks : Table CategoryBlock.id
  dnsQueryLogs : Table DnsQueryLog.id

/-- The database without rows. -/
def Database.empty : Database where
  users := .empty
  subscriptions := .empty
  pushTokens := .empty
  children := .empty
  devices := .empty
  pairingSessions := .empty
  deviceIpHistory := .empty
  deviceConnectionEvents := .empty
  unknownDomainLogs := .empty
  bandwidthLimits := .empty
  vpnDetectionLogs := .empty
  rules := .empty
  sessions := .empty
  commands := .empty
  commandAcks := .empty
  gateways := .empty
  detectedRouters := .empty
  routerCommands := .empty
  oAuthAccounts := .empty
  notificationEvents := .empty
  auditLogs := .empty
  blockedDomains := .empty
  categoryBlocks := .empty
  dnsQueryLogs := .empty

end GuardTime.Schema
