import Mathlib.Tactic
import GuardTime.Services.Router
import GuardTime.Services.Devices

/-! # Gateways

`GatewayService`, `GatewayTokenGuard` and the endpoints behind the guard, as
`GatewayController`, `RouterCommandController` and `RouterDetectionController` dispatch them. -/

namespace GuardTime.Services.Gateways

open GuardTime.Lib.Program GuardTime.Lib.Js GuardTime.Schema GuardTime.Server GuardTime.Prisma
open GuardTime.Services (truthy)

/-! ### Owner operations -/

/-- The gateway, if it exists. -/
def findGateway (gatewayId : String) : Api Gateway := do
  Prog.orThrow (← Prisma.findUnique .gateway gatewayId) (.notFound "Gateway not found")

/-- The gateway, if `parentId` owns it. -/
def findOwned (parentId gatewayId : String) : Api Gateway := do
  let gateway ← findGateway gatewayId
  Prog.require (gateway.parentId = parentId) (.forbidden "Not your gateway")
  pure gateway

theorem run_findOwned_ok {p k : String} {w w' : World} {g : Gateway}
    (h : (findOwned p k).run w = (.ok g, w')) :
    w.db.gateways.find k = some g ∧ g.parentId = p ∧ w'.db = w.db := by
  obtain ⟨_, _, h1, h⟩ := Prog.run_bind_ok.mp h
  obtain ⟨_, _, h2, h1⟩ := Prog.run_bind_ok.mp h1
  obtain ⟨rfl, rfl⟩ := run_findUnique_ok.mp h2
  obtain ⟨hg, rfl⟩ := Prog.run_orThrow_ok.mp h1
  obtain ⟨_, _, h3, h⟩ := Prog.run_bind_ok.mp h
  obtain ⟨hp, rfl⟩ := Prog.run_require_ok.mp h3
  cases h
  exact ⟨hg, hp, rfl⟩

/-- `register`. -/
def register (parentId name : String) (endpoint : Option String) (gatewayType : GatewayType)
    (description : Option String) : Api Gateway := do
  let token ← randomUUID
  let pairedAt ← newDate
  Prisma.create .gateway fun id now =>
    { id, parentId, name, description, gatewayType, token, endpoint, paired := true,
      pairedAt := some pairedAt, lastSeen := none, agentVersion := none, createdAt := now,
      updatedAt := now, previousToken := none, previousTokenExpiresAt := none }

/-- `renameGateway`. -/
def renameGateway (parentId gatewayId : String) (name description : Patch String) :
    Api Gateway := do
  let _ ← findOwned parentId gatewayId
  Prisma.validate (name ≠ some none)
  Prisma.update .gateway gatewayId fun g =>
    { g with name := name.overReq g.name, description := description.over g.description }

/-- `pair`. -/
def pair (gatewayId parentId : String) : Api Gateway := do
  let _ ← findOwned parentId gatewayId
  let now ← newDate
  Prisma.update .gateway gatewayId fun g => { g with paired := true, pairedAt := some now }

/-- `rotateToken`: the id, the new token and the end of the old one's grace period. -/
def rotateToken (parentId gatewayId : String) (gracePeriodMs : ℤ) :
    Api (String × String × Option Time) := do
  let gateway ← findOwned parentId gatewayId
  let newToken ← randomUUID
  let now ← newDate
  let expires := now + gracePeriodMs
  let updated ← Prisma.update .gateway gatewayId fun g =>
    { g with
      token := newToken
      previousToken := some gateway.token
      previousTokenExpiresAt := some expires }
  Audit.log
    { userId := some parentId
      action := "gateway.token_rotated"
      entity := "gateway"
      entityId := some gatewayId
      details := some (stringify (.obj [("previousTokenExpiresAt", .str (toISOString expires))])) }
  pure (updated.id, updated.token, updated.previousTokenExpiresAt)

/-- `deleteGateway`. -/
def deleteGateway (parentId gatewayId : String) : Api Unit := do
  let _ ← findOwned parentId gatewayId
  Prisma.transaction do
    let _ ← viaTx (Prisma.updateMany .device (fun d => d.gatewayId = some gatewayId)
      (fun d => { d with gatewayId := none }) Model.ungated_id)
    viaTx (Prisma.deleteMany .detectedRouter fun r => r.gatewayId = gatewayId)
    viaTx (Prisma.deleteMany .routerCommand fun c => c.gatewayId = gatewayId)
    viaTx (Prisma.deleteMany .vpnDetectionLog fun l => l.gatewayId = gatewayId)
    viaTx (Prisma.delete .gateway gatewayId)

/-! ### Agent operations -/

/-- The gateway with its devices: `findUnique({ where: { id }, include: { devices: true } })`. -/
def findWithDevices (gatewayId : String) : Api (Gateway × List Device) := do
  let found ← Prisma.query fun db n => (db.gateways.find gatewayId).map fun g =>
    (g, matching .device db n fun d => d.gatewayId = some g.id)
  Prog.orThrow found (.notFound "Gateway not found")

theorem run_findWithDevices {k : String} {w : World} {g : Gateway}
    (h : w.db.gateways.find k = some g) : (findWithDevices k).run w =
      (.ok (g, matching .device w.db (w.tape w.calls) fun d => d.gatewayId = some g.id),
        World.afterCall w w.db) := by
  simp [findWithDevices, h]

/-- `getDiscoveredDevices`. -/
def getDiscoveredDevices (gatewayId : String) : Api (List Device) := do
  let (_, devices) ← findWithDevices gatewayId
  pure devices

/-- `blockDevice` and `unblockDevice` differ in the status they write. -/
def setStatus (gatewayId deviceMac : String) (status : DeviceStatus) : Api Unit := do
  let _ ← findGateway gatewayId
  let found ← Prisma.findFirst .device fun d =>
    d.macAddress = some deviceMac && d.gatewayId = some gatewayId
  let device ← Prog.orThrow found (.notFound "Device not found on this gateway")
  let _ ← Prisma.update .device device.id (fun d => { d with status := status })
    (Model.status_id status)
  pure ()

/-- `blockDevice`: the message of the answer. -/
def blockDevice (gatewayId deviceMac : String) : Api String := do
  setStatus gatewayId deviceMac .blocked
  pure ("Device " ++ deviceMac ++ " blocked via gateway")

/-- `unblockDevice`. -/
def unblockDevice (gatewayId deviceMac : String) : Api String := do
  setStatus gatewayId deviceMac .online
  pure ("Device " ++ deviceMac ++ " unblocked via gateway")

/-- A device in the answer of `getStatus`. -/
structure StatusDevice where
  id : String
  name : String
  macAddress : Option String
  status : DeviceStatus
deriving DecidableEq

/-- The answer of `getStatus`. -/
structure Status where
  id : String
  name : String
  paired : Bool
  lastSeen : Option Time
  deviceCount : ℕ
  devices : List StatusDevice
deriving DecidableEq

/-- `getStatus`. -/
def getStatus (gatewayId : String) : Api Status := do
  let (g, devices) ← findWithDevices gatewayId
  pure
    { id := g.id, name := g.name, paired := g.paired, lastSeen := g.lastSeen,
      deviceCount := devices.length
      devices := devices.map fun d => ⟨d.id, d.name, d.macAddress, d.status⟩ }

/-- `updateLastSeen`. -/
def updateLastSeen (gatewayId : String) (agentVersion : Option String) : Api Unit := do
  let now ← newDate
  let _ ← Prisma.update .gateway gatewayId fun g =>
    { g with
      lastSeen := some now
      agentVersion := match truthy agentVersion with
        | some v => some v
        | none => g.agentVersion }
  pure ()

/-- `limit.category ?? null` with the two rates. -/
structure BandwidthEntry where
  category : Option BlockCategory
  downloadKbps : Option ℤ
  uploadKbps : Option ℤ
deriving DecidableEq

/-- `byCategory.set(category, limit)` on a map that keeps the order of insertion. -/
def setCategory (limit : BandwidthLimit) : List BandwidthLimit → List BandwidthLimit
  | [] => [limit]
  | l :: ls => if l.category = limit.category then limit :: ls else l :: setCategory limit ls

/-- `resolveBandwidthLimits`. -/
def resolveBandwidthLimits (device : Device) (allLimits : List BandwidthLimit) :
    List BandwidthEntry :=
  let ofChild := allLimits.filter fun l =>
    (truthy l.childId).isSome && (truthy l.deviceId).isNone && l.childId = device.childId
  let ofDevice := allLimits.filter fun l => l.deviceId = some device.id
  let byCategory := (ofChild ++ ofDevice).foldl (fun acc l => setCategory l acc) []
  byCategory.map fun l => ⟨l.category, l.downloadKbps, l.uploadKbps⟩

/-- `loadBandwidthLimits`. -/
def loadBandwidthLimits (devices : List Device) : Api (List BandwidthLimit) :=
  if devices = [] then pure []
  else Prisma.findMany .bandwidthLimit fun l => l.enabled &&
    (l.deviceId.any (fun i => i ∈ devices.map Device.id) ||
      l.childId.any fun i => i ∈ devices.filterMap fun d => truthy d.childId)

inductive PolicyAction where
  | block | throttle | allow
deriving DecidableEq

/-- A device in the answer of `getPolicies`. -/
structure DevicePolicy where
  deviceId : String
  name : String
  macAddress : Option String
  ipAddress : Option String
  ipv6Address : Option String
  dnsSourceIp : Option String
  action : PolicyAction
  reason : Option String
  internetLocked : Bool
  internetLockedAt : Option Time
  blockingMode : BlockingMode
  vpnBlock : Bool
  quicBlock : Bool
  bandwidthLimits : List BandwidthEntry
  updatedAt : Time
deriving DecidableEq

/-- The policy of one device. -/
def devicePolicy (limits : List BandwidthLimit) (d : Device) : DevicePolicy :=
  let shouldBlock : Bool := d.internetLocked || d.status = .blocked
  let shouldThrottle : Bool := !shouldBlock && d.status = .paused
  { deviceId := d.id, name := d.name, macAddress := d.macAddress, ipAddress := d.ipAddress,
    ipv6Address := d.ipv6Address, dnsSourceIp := d.dnsSourceIp
    action := if shouldBlock then .block else if shouldThrottle then .throttle else .allow
    reason :=
      if shouldBlock then
        some (d.internetLockedReason.getD
          (if d.status = .blocked then "MANUAL_BLOCK" else "FULL_INTERNET_LOCK"))
      else if shouldThrottle then some "SOFT_PAUSE" else none
    internetLocked := d.internetLocked, internetLockedAt := d.internetLockedAt,
    blockingMode := d.blockingMode, vpnBlock := d.vpnBlockEnabled, quicBlock := d.quicBlockEnabled,
    bandwidthLimits := resolveBandwidthLimits d limits, updatedAt := d.updatedAt }

/-- The answer of `getPolicies`. -/
structure Policies where
  gatewayId : String
  generatedAt : Time
  rotatedToken : Option String
  resolverIp : Option String
  resolverIpv6 : Option String
  devices : List DevicePolicy
deriving DecidableEq

/-- `getPolicies`. -/
def getPolicies (env : Env) (gatewayId : String) (usedPreviousToken : Bool)
    (agentVersion : Option String) : Api Policies := do
  let (g, devices) ← findWithDevices gatewayId
  ignoreErrors (updateLastSeen gatewayId agentVersion)
  let limits ← loadBandwidthLimits devices
  let now ← newDate
  pure
    { gatewayId := g.id
      generatedAt := now
      rotatedToken := if usedPreviousToken then some g.token else none
      resolverIp := (truthy env.controlledDnsIp).or (truthy env.dnsServiceIp)
      resolverIpv6 := truthy env.controlledDnsIpv6
      devices := devices.map (devicePolicy limits) }

/-- `DiscoveredDevice`. -/
structure DiscoveredDevice where
  ipAddress : String
  macAddress : String
  hostname : Option String := none
  dhcpClientId : Option String := none
  vendorOui : Option String := none
  osHint : Option String := none

/-- `normalize` of the fingerprint. -/
def normalizeField (env : Env) (value : Option String) : String :=
  match truthy value with
  | some v => env.toLowerCase (trim v)
  | none => ""

/-- `computeFingerprintHash`. -/
def computeFingerprintHash (env : Env)
    (macAddress hostname dhcpClientId vendorOui : Option String) : String :=
  env.sha256 (join
    ([macAddress, hostname, dhcpClientId, vendorOui].map (normalizeField env)) "|")

/-- The fallback match by hostname and DHCP client id. -/
def findByHostname (gatewayId : String) (discovered : DiscoveredDevice) : Api (Option Device) :=
  match truthy discovered.hostname, truthy discovered.dhcpClientId with
  | some hostname, some dhcpClientId => Prisma.findFirst .device fun d =>
      d.gatewayId = some gatewayId && d.hostname = some hostname &&
        d.dhcpClientId = some dhcpClientId
  | _, _ => pure none

/-- The device a report is about. -/
def findDiscovered (gatewayId macAddress : String) (discovered : DiscoveredDevice) :
    Api (Option Device) := do
  match ← Prisma.findFirst .device fun d =>
      d.gatewayId = some gatewayId && d.macAddress = some macAddress with
  | some device => pure (some device)
  | none => findByHostname gatewayId discovered

/-- One turn of the loop of `updateDiscoveredDevices`: the number of devices updated so far. -/
def updateDiscovered (env : Env) (gatewayId : String) (updated : ℕ)
    (discovered : DiscoveredDevice) : Api ℕ := do
  let macAddress := env.toLowerCase discovered.macAddress
  match ← findDiscovered gatewayId macAddress discovered with
  | none => pure updated
  | some device => do
    let hostname := discovered.hostname.or device.hostname
    let dhcpClientId := discovered.dhcpClientId.or device.dhcpClientId
    let vendorOui := discovered.vendorOui.or device.vendorOui
    let fingerprintHash :=
      computeFingerprintHash env (some macAddress) hostname dhcpClientId vendorOui
    let now ← newDate
    let _ ← Prisma.update .device device.id fun d =>
      { d with
        macAddress := some macAddress
        ipAddress := some discovered.ipAddress
        dnsSourceIp := some discovered.ipAddress
        lastSeen := some now
        hostname := hostname
        dhcpClientId := dhcpClientId
        vendorOui := vendorOui
        osHint := discovered.osHint.or device.osHint
        fingerprintHash := some fingerprintHash
        fingerprintUpdatedAt := some now }
    pure (updated + 1)

/-- `updateDiscoveredDevices`: the number of devices updated. -/
def updateDiscoveredDevices (env : Env) (gatewayId : String) (devices : List DiscoveredDevice) :
    Api ℕ := do
  let _ ← findGateway gatewayId
  let updated ← Prog.foldEach devices 0 (updateDiscovered env gatewayId)
  ignoreErrors (updateLastSeen gatewayId none)
  pure updated

/-- `DeviceFingerprintService.onModuleInit`: the hash of devices that have a MAC address and none
yet. Errors are logged. -/
def DeviceFingerprint.onModuleInit (env : Env) : Api Unit := ignoreErrors do
  let pending ← Prisma.findMany .device fun d => d.fingerprintHash = none && d.macAddress ≠ none
  if pending.length = 0 then pure ()
  else do
    let now ← newDate
    Prog.forEach pending fun device => do
      let fingerprintHash := computeFingerprintHash env device.macAddress device.hostname
        device.dhcpClientId device.vendorOui
      let _ ← Prisma.update .device device.id fun d =>
        { d with fingerprintHash := some fingerprintHash, fingerprintUpdatedAt := some now }
      pure ()

/-- A reported detection; DoH reports carry no `overallConfidence`. -/
structure Detection where
  deviceId : String
  provider : String
  method : String
  detail : Option String := none
  confidence : Option ℤ := none
  overallConfidence : Option ℤ := none

/-- The detections about devices of the gateway. -/
def validDetections (gatewayId : String) (detections : List Detection) : Api (List Detection) := do
  let known ← Prisma.findMany .device fun d =>
    d.gatewayId = some gatewayId && d.id ∈ detections.map Detection.deviceId
  pure (detections.filter fun d => d.deviceId ∈ known.map Device.id)

/-- `recordVpnDetections`: the number of detections recorded. -/
def recordVpnDetections (gatewayId : String) (detections : List Detection) : Api ℕ :=
  if detections.length = 0 then pure 0
  else do
    let _ ← findGateway gatewayId
    let valid ← validDetections gatewayId detections
    Prog.when (valid.length > 0)
      (Prisma.createMany .vpnDetectionLog (valid.map fun d => fun id now =>
        { id, gatewayId, deviceId := d.deviceId, provider := d.provider, method := d.method,
          detail := d.detail, confidence := d.confidence, overallConfidence := d.overallConfidence,
          detectedAt := now }))
    pure valid.length

/-- `recordDohDetections`. -/
def recordDohDetections (gatewayId : String) (detections : List Detection) : Api ℕ :=
  if detections.length = 0 then pure 0
  else do
    let _ ← findGateway gatewayId
    let valid ← validDetections gatewayId detections
    Prog.forEach valid fun d => Audit.log
      { action := "doh_dot_detected"
        entity := "device"
        entityId := some d.deviceId
        details := some (stringify (object
          [("provider", some (.str d.provider)), ("method", some (.str d.method)),
           ("detail", d.detail.map .str), ("confidence", d.confidence.map .num)])) }
    pure valid.length

/-! ### The guard -/

/-- What the guard reads of a request. -/
structure GuardRequest where
  token : Option String
  signature : Option String
  timestamp : Option String
  method : String
  originalUrl : String
  /-- The JSON text of the body, or the empty string when it has no members. -/
  bodyText : String

/-- `SIGNATURE_WINDOW_MS`. -/
def signatureWindowMs : ℤ := 300000

/-- `verifySignature`, with at least one of the two headers present. -/
def verifySignature (env : Env) (request : GuardRequest) (gatewayToken : String) : Api Unit := do
  match truthy request.signature, truthy request.timestamp with
  | some signature, some timestamp => do
    let now ← newDate
    Prog.require ((toNumber timestamp).any fun t => |(now : ℚ) - t| ≤ signatureWindowMs)
      (.unauthorized
        "Request signature timestamp is missing, malformed, or outside the allowed window")
    let bodyHash := env.sha256 request.bodyText
    let expected := env.hmacSha256 gatewayToken
      (request.method ++ "\n" ++ request.originalUrl ++ "\n" ++ timestamp ++ "\n" ++ bodyHash)
    Prog.require (hexBytes expected.toList = hexBytes signature.toList)
      (.unauthorized "Invalid request signature")
  | _, _ => Prog.throw (.unauthorized
      ("Partial request signature (both x-gateway-signature and x-gateway-timestamp are " ++
         "required together)"))

/-- The gateway a token belongs to, and whether as its previous token. -/
def findByToken (token : String) : Api (Option (Gateway × Bool)) := do
  match ← Prisma.findUniqueBy .gateway fun g => g.token = token with
  | some g => pure (some (g, false))
  | none => do
    let now ← newDate
    let previous ← Prisma.findFirst .gateway fun g =>
      g.previousToken = some token && g.previousTokenExpiresAt.any fun t => now < t
    pure (previous.map fun g => (g, true))

/-- `canActivate`: the gateway the request acts as. -/
def canActivate (env : Env) (request : GuardRequest) : Api (Gateway × Bool) := do
  let token ← Prog.orThrow (truthy request.token) (.unauthorized "Missing gateway token")
  let found ← findByToken token
  let (g, usedPreviousToken) ← Prog.orThrow (found.filter fun p => p.1.paired)
    (.unauthorized "Invalid or unpaired gateway token")
  let signingToken := if usedPreviousToken then g.previousToken.getD "" else g.token
  Prog.when ((truthy request.signature).isSome ∨ (truthy request.timestamp).isSome)
    (verifySignature env request signingToken)
  pure (g, usedPreviousToken)

/-! ### Endpoints -/

/-- A request to an endpoint behind the guard, with its query, path and body. The `gatewayId` of a
query is absent when the client sends none, or no string. -/
inductive Endpoint where
  | devices (gatewayId : Option String)
  | block (gatewayId : Option String) (deviceMac : String)
  | unblock (gatewayId : Option String) (deviceMac : String)
  | status (gatewayId : Option String)
  | policies (agentVersion : Option String)
  | discovery (devices : List DiscoveredDevice)
  | vpnDetections (detections : List Detection)
  | dohDetections (detections : List Detection)
  | routerDetection (report : RouterDetection.RouterDetectionReport)
  | pollRouterCommands
  | ackRouterCommand (commandId : String) (success : Bool) (resultData : Option Json)

/-- The answer of an endpoint. -/
inductive Response where
  | devices (ds : List Device)
  | message (success : Bool) (text : String)
  | status (s : Status)
  | policies (p : Policies)
  | updated (n : ℕ)
  | recorded (n : ℕ)
  | router (r : DetectedRouter)
  | commands (cs : List RouterCommand) (connection : Option RouterCommands.RouterConnection)
  | command (c : RouterCommand)

/-- A query parameter that the client library needs. -/
def requireId (gatewayId : Option String) : Api String :=
  Prog.orThrow gatewayId (.error "PrismaClientValidationError")

/-- What the controllers do once the guard has put gateway `g` on the request. -/
def dispatch (env : Env) (g : Gateway) (usedPreviousToken : Bool) : Endpoint → Api Response
  | .devices gatewayId => do
    let ds ← getDiscoveredDevices (← requireId gatewayId)
    pure (.devices ds)
  | .block gatewayId mac => do
    let m ← blockDevice (← requireId gatewayId) mac
    pure (.message true m)
  | .unblock gatewayId mac => do
    let m ← unblockDevice (← requireId gatewayId) mac
    pure (.message true m)
  | .status gatewayId => do
    let s ← getStatus (← requireId gatewayId)
    pure (.status s)
  | .policies agentVersion => do
    let p ← getPolicies env g.id usedPreviousToken agentVersion
    pure (.policies p)
  | .discovery devices => do
    let n ← updateDiscoveredDevices env g.id devices
    pure (.updated n)
  | .vpnDetections detections => do
    let n ← recordVpnDetections g.id detections
    pure (.recorded n)
  | .dohDetections detections => do
    let n ← recordDohDetections g.id detections
    pure (.recorded n)
  | .routerDetection report => do
    let r ← RouterDetection.recordDetection g.id report
    pure (.router r)
  | .pollRouterCommands => do
    let cs ← RouterCommands.getPendingCommands g.id
    let c ← RouterCommands.getRouterConnectionInfo env g.id
    pure (.commands cs c)
  | .ackRouterCommand commandId success resultData => do
    let c ← RouterCommands.acknowledgeCommand g.id commandId success resultData
    pure (.command c)

/-- A guarded request: the guard, then the controller. -/
def guarded (env : Env) (request : GuardRequest) (e : Endpoint) : Api Response := do
  let (g, usedPreviousToken) ← canActivate env request
  dispatch env g usedPreviousToken e

end GuardTime.Services.Gateways
