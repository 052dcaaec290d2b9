import Mathlib.Tactic
import GuardTime.Lib.Regex
import GuardTime.Services.Notifications

/-! # DNS pairing

`PairingService` over the calls of `PairingRepository`. Confirmation runs in a transaction; the
calls it makes past the transaction's client are marked. -/

namespace GuardTime.Services.Pairing

open GuardTime.Lib.Program GuardTime.Lib.Js GuardTime.Schema GuardTime.Server GuardTime.Prisma

/-- `PAIR_TOKEN_TTL_MS`. -/
def pairTokenTtlMs : ℤ := 600000

/-- `PAIR_DOMAIN_SUFFIX` for what the environment has. -/
def pairDomainSuffix (configured : Option String) : String :=
  (configured.filter (· ≠ "")).getD "pair.guardtime.local"

/-- `pairHostnameFor`. -/
def pairHostnameFor (env : Env) (token : String) : String := token ++ "." ++ env.pairDomainSuffix

/-- `PAIR_DOMAIN_SUFFIX.replace(/\./g, '\\.')`. -/
def escapeDots (s : List Char) : List Char :=
  s.flatMap fun c => if c = '.' then ['\\', '.'] else [c]

/-- The text of `PAIR_HOSTNAME_PATTERN` before the suffix. -/
def pairHostnameStart : String :=
  "^([0-9a-f]{8}-[0-9a-f]{4}-[0-9a-f]{4}-[0-9a-f]{4}-[0-9a-f]{12})\\."

/-- The text of `PAIR_HOSTNAME_PATTERN`. -/
def pairHostnameText (env : Env) : String :=
  pairHostnameStart ++ String.ofList (escapeDots env.pairDomainSuffix.toList) ++ "$"

/-- `PAIR_HOSTNAME_PATTERN`. -/
def pairHostnamePattern (env : Env) : Option Lib.Regex.Pattern :=
  Lib.Regex.parse (pairHostnameText env)

/-- `extractPairToken`; `canon` is how the `i` flag compares characters. -/
def extractPairToken (canon : Char → Char) (env : Env) (domain : String) : Option String :=
  let lower := dropTrailingDot (env.toLowerCase domain)
  let found := (pairHostnamePattern env).bind fun p => Lib.Regex.exec canon p lower.toList
  found.bind fun groups => (groups.lookup 1).map String.ofList

/-- `StartPairingResponseDto`. -/
structure StartPairingResponse where
  sessionId : String
  dnsServer : String
  token : String
  expiresAt : String
  qrPayload : String
deriving DecidableEq

/-- `ConfirmPairingDto`. -/
structure ConfirmPairingDto where
  token : String
  sourceIp : String
  resolverRegion : Option String := none

/-- The device, if `parentId` owns it. -/
def findOwned (deviceId parentId : String) : Api Device := do
  let device ← Prog.orThrow (← Prisma.findUnique .device deviceId) (.notFound "Device not found")
  Prog.require (device.parentId = parentId) (.forbidden "You do not own this device")
  pure device

/-! ### Repository calls -/

/-- `deleteWaitingSessionsForDevice`. -/
def deleteWaitingSessionsForDevice (deviceId : String) : Api Unit :=
  Prisma.deleteMany .pairingSession fun s => s.deviceId = deviceId && s.status = .waiting

/-- `setDevicePairStatus`. -/
def setDevicePairStatus (deviceId : String) (status : PairStatus) : Api Device :=
  Prisma.update .device deviceId fun d => { d with pairStatus := status }

/-- `markSessionStatus`. -/
def markSessionStatus (id : String) (status : PairStatus) : Api PairingSession :=
  Prisma.update .pairingSession id fun s => { s with status := status }

/-- `incrementSessionAttempts`. -/
def incrementSessionAttempts (id : String) : Api PairingSession :=
  Prisma.update .pairingSession id fun s => { s with attempts := s.attempts + 1 }

/-- `markDevicePaired`. -/
def markDevicePaired (deviceId sourceIp : String) (resolverRegion : Option String)
    (pairedAt : Time) (beaconToken : String) : Api Device :=
  Prisma.update .device deviceId fun d =>
    { d with
      paired := true
      pairStatus := .paired
      pairedAt := some pairedAt
      dnsSourceIp := some sourceIp
      publicIp := some sourceIp
      dnsConfigured := true
      lastDnsSeenAt := some pairedAt
      resolverRegion := resolverRegion
      dnsBeaconToken := some beaconToken }

/-- `touchLastSeen`. -/
def touchLastSeen (deviceId : String) (seenAt : Time) : Api Device :=
  Prisma.update .device deviceId (fun d => { d with lastDnsSeenAt := some seenAt })
    (Model.seen_id seenAt)

/-- `applyIpChange`. -/
def applyIpChange (deviceId ipAddress : String) (seenAt : Time) : Api Device :=
  Prisma.update .device deviceId fun d =>
    { d with dnsSourceIp := some ipAddress, publicIp := some ipAddress,
             lastDnsSeenAt := some seenAt }

/-- `upsertIpHistory`. -/
def upsertIpHistory (deviceId ipAddress : String) (seenAt : Time) : Api DeviceIpHistory :=
  Prisma.upsert .deviceIpHistory (fun h => h.deviceId = deviceId && h.ipAddress = ipAddress)
    (fun h => { h with lastSeenAt := seenAt })
    fun id _ => { id, deviceId, ipAddress, firstSeenAt := seenAt, lastSeenAt := seenAt }

/-- `recordConnectionEvent`. -/
def recordConnectionEvent (deviceId : String) (type : ConnectionEventType)
    (ipAddress : Option String) (metadata : List (String × Option String)) :
    Api DeviceConnectionEvent :=
  Prisma.create .deviceConnectionEvent fun id now =>
    { id, deviceId, type, ipAddress, metadata, createdAt := now }

/-! ### Service -/

/-- `startPairing`. -/
def startPairing (env : Env) (deviceId parentId : String) : Api StartPairingResponse := do
  let _ ← findOwned deviceId parentId
  deleteWaitingSessionsForDevice deviceId
  let token ← randomUUID
  let now ← newDate
  let expiresAt := now + pairTokenTtlMs
  let session ← Prisma.create .pairingSession fun id now =>
    { id, deviceId, parentId, token, status := .waiting, expiresAt, attempts := 0,
      createdAt := now }
  let _ ← setDevicePairStatus deviceId .waiting
  Audit.log { userId := some parentId, action := "pairing.start", entity := "device",
              entityId := some deviceId }
  pure
    { sessionId := session.id
      dnsServer := env.dnsServerHost
      token
      expiresAt := toISOString expiresAt
      qrPayload := stringify (.obj
        [("v", .num 1), ("deviceId", .str deviceId), ("token", .str token),
         ("dnsServer", .str env.dnsServerHost),
         ("probeHost", .str (pairHostnameFor env token))]) }

/-- `cancelPairing`. -/
def cancelPairing (deviceId parentId : String) : Api Unit := do
  let _ ← findOwned deviceId parentId
  deleteWaitingSessionsForDevice deviceId
  Audit.log { userId := some parentId, action := "pairing.cancel", entity := "device",
              entityId := some deviceId }

/-- `status.toLowerCase()`. -/
def statusName : PairStatus → String
  | .waiting => "waiting"
  | .paired => "paired"
  | .expired => "expired"
  | .failed => "failed"

/-- The confirmation of a waiting session that is neither expired nor out of attempts. -/
def completePairing (dto : ConfirmPairingDto) (session : PairingSession) :
    Prog TxWorld Err String := do
  let pairedAt ← viaPlain newDate
  let beaconToken ← viaPlain randomUUID
  let _ ← viaTx (markDevicePaired session.deviceId dto.sourceIp dto.resolverRegion pairedAt
    beaconToken)
  let _ ← viaTx (upsertIpHistory session.deviceId dto.sourceIp pairedAt)
  let _ ← viaTx (recordConnectionEvent session.deviceId .paired (some dto.sourceIp)
    [("via", some "probe")])
  viaTx (Prisma.delete .pairingSession session.id)
  viaPlain (Audit.log { action := "pairing.confirmed", entity := "device",
                        entityId := some session.deviceId, ipAddress := some dto.sourceIp })
  pure session.deviceId

/-- Mark the session and the device, then reject; the device is marked past the transaction. -/
def rejectSession (session : PairingSession) (status : PairStatus) (message : String) :
    Prog TxWorld Err (Option String) := do
  let _ ← viaTx (markSessionStatus session.id status)
  let _ ← viaPlain (setDevicePairStatus session.deviceId status)
  Prog.throw (.badRequest message)

/-- The confirmation of a waiting session. -/
def confirmWaiting (dto : ConfirmPairingDto) (session : PairingSession) :
    Prog TxWorld Err (Option String) := do
  let now ← viaPlain newDate
  if session.expiresAt < now then
    rejectSession session .expired "Pairing token expired — start pairing again"
  else do
    let attempts ← viaTx (incrementSessionAttempts session.id)
    if attempts.attempts > 5 then
      rejectSession session .failed "Too many pairing attempts — start pairing again"
    else do
      let deviceId ← completePairing dto session
      pure (some deviceId)

/-- The callback of `tryConfirmPairingSession`. -/
def confirmSession (dto : ConfirmPairingDto) : Prog TxWorld Err (Option String) := do
  match ← viaTx (Prisma.findUniqueBy .pairingSession fun s => s.token = dto.token) with
  | none => pure none
  | some session => do
    Prog.require (session.status = .waiting)
      (.badRequest ("Pairing session already " ++ statusName session.status))
    confirmWaiting dto session

/-- `tryConfirmPairingSession`: the device paired, or none when the token is no session's. -/
def tryConfirmPairingSession (dto : ConfirmPairingDto) : Api (Option String) :=
  Prisma.transaction (confirmSession dto)

/-- `recordHeartbeat`. -/
def recordHeartbeat (deviceId sourceIp : String) : Api Unit := do
  match (← Prisma.findUnique .device deviceId).filter Device.paired with
  | none => pure ()
  | some device => do
    let now ← newDate
    if device.dnsSourceIp = some sourceIp then do
      let _ ← upsertIpHistory deviceId sourceIp now
      let _ ← touchLastSeen deviceId now
      pure ()
    else Prisma.transaction do
      let _ ← viaTx (applyIpChange deviceId sourceIp now)
      let _ ← viaTx (upsertIpHistory deviceId sourceIp now)
      let _ ← viaTx (recordConnectionEvent deviceId .ipChanged (some sourceIp)
        [("previous", device.dnsSourceIp)])
      pure ()

/-- `confirmProbe` when the token is no session's: the heartbeat of the device with the beacon. -/
def confirmBeacon (dto : ConfirmPairingDto) : Api String := do
  let found ← Prisma.findUniqueBy .device fun d => d.dnsBeaconToken = some dto.token
  let device ← Prog.orThrow found (.notFound "Unknown or expired pairing/beacon token")
  recordHeartbeat device.id dto.sourceIp
  pure device.id

/-- `confirmProbe`: the device the probe was about. -/
def confirmProbe (dto : ConfirmPairingDto) : Api String := do
  match ← tryConfirmPairingSession dto with
  | some deviceId => pure deviceId
  | none => confirmBeacon dto

end GuardTime.Services.Pairing
