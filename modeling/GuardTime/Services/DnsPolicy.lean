import Mathlib.Tactic
import GuardTime.Models

/-! # The DNS policy engine

`DnsPolicyService`: the decision for a query, its versioned cache and the heartbeat. Writes the
source does not await (query log, heartbeat, unknown domains) are made in place; their failures are
ignored. -/

namespace GuardTime.Services.DnsPolicy

open GuardTime.Lib.Program GuardTime.Lib.Js GuardTime.Schema GuardTime.Server GuardTime.Prisma

/-! ### Keys and responses -/

/-- `STRICT_MODE_DOH_DOMAINS`. -/
def strictModeDohDomains : List String :=
  ["dns.google", "dns.google.com", "cloudflare-dns.com", "one.one.one.one", "doh.opendns.com",
   "dns.quad9.net", "doh.cleanbrowsing.org", "nextdns.io", "dns.nextdns.io", "doh.dns.sb",
   "dns.adguard.com", "dns.adguard-dns.com", "mozilla.cloudflare-dns.com",
   "chrome.cloudflare-dns.com"]

/-- `domain.toLowerCase().replace(/\.$/, '')`. -/
def normalize (env : Env) (domain : String) : String := dropTrailingDot (env.toLowerCase domain)

/-- `isStrictDohDomain`. -/
def isStrictDohDomain (env : Env) (domain : String) : Bool :=
  let lower := normalize env domain
  strictModeDohDomains.any fun d => lower = d || endsWith lower ("." ++ d)

/-- `versionKey`. -/
def versionKey (ip : String) : String := "dnsver:" ++ ip

/-- `deviceIdKey`. -/
def deviceIdKey (ip : String) : String := "dnsdev:" ++ ip

/-- `heartbeatKey`. -/
def heartbeatKey (deviceId : String) : String := "dnshb:" ++ deviceId

/-- The key of a decision. -/
def decisionKey (sourceIp : String) (version : ℕ) (domain : String) : String :=
  "dns:" ++ sourceIp ++ ":" ++ toString version ++ ":" ++ domain

/-- `allowResponse`. -/
def allowResponse : DnsPolicyResponse := ⟨.allow, "0.0.0.0", none, none⟩

/-- `blockResponse`; the branches that also set a category give it. -/
def blockResponse (reason : DnsReason) (category : Option (Option BlockCategory) := none) :
    DnsPolicyResponse := ⟨.block, "0.0.0.0", some reason, category⟩

/-! ### Cache versions -/

/-- The version a cached value stands for. -/
def versionOf : Option CacheValue → ℕ
  | some (.version n) => n
  | _ => 0

/-- `getVersion`. -/
def getVersion (ip : String) : Api ℕ := do
  let v ← cacheGet (versionKey ip)
  pure (versionOf v)

/-- `24 * 60 * 60 * 1000`. -/
def versionTtl : ℤ := 86400000

/-- The time to live of decisions and of the address-to-device entries. -/
def decisionTtl : ℤ := 30000

/-- One turn of the loop of `invalidateSourceIps`. -/
def invalidateSourceIp (ip : Option String) : Api Unit :=
  match ip with
  | none => pure ()
  | some ip =>
    if ip = "" then pure ()
    else do
      let current ← getVersion ip
      cacheSet (versionKey ip) (.version (current + 1)) versionTtl

/-- `invalidateSourceIps`. -/
def invalidateSourceIps (ips : List (Option String)) : Api Unit :=
  Prog.forEach ips invalidateSourceIp

theorem keeps_invalidateSourceIps {I : World → Prop} {ips : List (Option String)}
    (hI : ∀ w c, I w → I { w with cache := c }) : Prog.Keeps I (invalidateSourceIps ips) := by
  refine .forEach ips fun ip _ => ?_
  unfold invalidateSourceIp
  split
  · exact .pure _
  · exact .ite (fun _ => .pure _) fun _ =>
      .bind (.bind (.read _) fun _ => .pure _) fun _ => .write fun w hw => hI w _ hw

/-! ### Unawaited writes -/

/-- `logQuery`. -/
def logQuery (domain sourceIp action : String) : Api Unit :=
  ignoreErrors do
    let _ ← Prisma.create .dnsQueryLog fun id now => ⟨id, domain, sourceIp, action, now⟩
    pure ()

/-- `updateDnsSeen`. -/
def updateDnsSeen (deviceId : String) : Api Unit :=
  ignoreErrors do
    let now ← newDate
    let _ ← Prisma.update .device deviceId fun d => { d with lastDnsSeenAt := some now }
    pure ()

/-- `touchHeartbeat`. -/
def touchHeartbeat (deviceId : String) : Api Unit := do
  match ← cacheGet (heartbeatKey deviceId) with
  | some _ => pure ()
  | none => do
    updateDnsSeen deviceId
    cacheSet (heartbeatKey deviceId) .throttled 10000

/-- `s.length`: the number of UTF-16 units. -/
def utf16Length (s : String) : ℕ :=
  (s.toList.map fun c => if c.toNat < 0x10000 then 1 else 2).sum

/-- `recordUnknownDomain`. -/
def recordUnknownDomain (env : Env) (domain sourceIp deviceId : String) : Api Unit :=
  let lower := normalize env domain
  if lower = "" ∨ utf16Length lower > 253 then pure ()
  else ignoreErrors do
    let now ← newDate
    let _ ← Prisma.upsert .unknownDomainLog
      (fun r => r.domain = lower && r.deviceId = some deviceId)
      (fun r => { r with count := r.count + 1, lastSeenAt := now, sourceIp := sourceIp })
      fun id created =>
        { id, domain := lower, sourceIp, deviceId := some deviceId, count := 1,
          firstSeenAt := created, lastSeenAt := created, suggestedCategory := none,
          classified := false }
    pure ()

/-! ### The decision -/

/-- The device holds the address in one of its three columns. -/
def holds (sourceIp : String) (d : Device) : Bool :=
  d.ipAddress = some sourceIp || d.dnsSourceIp = some sourceIp || d.ipv6Address = some sourceIp

/-- The candidates of `findBlockedDomain`: the name and every parent with a dot in it. -/
def candidates (lower : String) : List String :=
  let parts := split lower '.'
  (List.range (parts.length - 1)).map fun i => join (parts.drop i) "."

/-- `findBlockedDomain`. -/
def findBlockedDomain (env : Env) (domain : String) : Api (Option BlockedDomain) :=
  Prisma.findFirst .blockedDomain fun b => b.domain ∈ candidates (normalize env domain)

/-- The session has no time left: `remainingMinutes - (elapsedMin - (durationMinutes -
remainingMinutes)) <= 0`, in milliseconds. -/
def exhausted (now : Time) (s : Session) : Bool :=
  let elapsedMs := now - s.resumedAt.getD s.startedAt
  s.remainingMinutes * 60000 -
    (elapsedMs - (s.durationMinutes - s.remainingMinutes) * 60000) ≤ 0

/-- The child of the device has the category of the domain blocked. -/
def categoryBlocked (device : Device) (b : BlockedDomain) : Api Bool :=
  match b.category, device.childId.filter (· ≠ "") with
  | some category, some childId => do
    let block ← Prisma.findUniqueBy .categoryBlock fun r =>
      r.childId = childId && r.category = category
    pure (block.any CategoryBlock.active)
  | _, _ => pure false

/-- Cache the decision, log the query, touch the heartbeat and answer. -/
def answer (key domain sourceIp deviceId : String) (result : DnsPolicyResponse) :
    Api DnsPolicyResponse := do
  cacheSet key (.decision result) decisionTtl
  logQuery domain sourceIp (if result.action = .block then "BLOCK" else "ALLOW")
  touchHeartbeat deviceId
  pure result

/-- The steps of `checkPolicy` for a known device, from the session check on. -/
def checkSessionAndDomains (env : Env) (key sourceIp domain : String) (device : Device) :
    Api DnsPolicyResponse := do
  let activeSession ← Prisma.findFirstBy .session
    (fun s => s.deviceId = device.id && s.status ∈ [.active, .paused])
    fun s s' => s'.startedAt ≤ s.startedAt
  let now ← newDate
  if activeSession.any (exhausted now) then
    answer key domain sourceIp device.id (blockResponse .timeLimitExceeded)
  else do
    match ← findBlockedDomain env domain with
    | some b => do
      if ← categoryBlocked device b then
        answer key domain sourceIp device.id (blockResponse .categoryBlocked (some b.category))
      else answer key domain sourceIp device.id (blockResponse .domainBlocked)
    | none => do
      let result ← answer key domain sourceIp device.id allowResponse
      recordUnknownDomain env domain sourceIp device.id
      pure result

/-- `checkPolicy` after a cache miss. -/
def checkPolicyMiss (env : Env) (key sourceIp domain : String) : Api DnsPolicyResponse := do
  match ← Prisma.findFirst .device (holds sourceIp) with
  | none => do
    cacheSet key (.decision allowResponse) decisionTtl
    logQuery domain sourceIp "ALLOW"
    pure allowResponse
  | some device => do
    cacheSet (deviceIdKey sourceIp) (.deviceId device.id) decisionTtl
    if env.strictMode && isStrictDohDomain env domain then
      answer key domain sourceIp device.id (blockResponse .strictModeDoh (some none))
    else if device.internetLocked then
      answer key domain sourceIp device.id (blockResponse .fullInternetLock (some none))
    else if device.status = .blocked then
      answer key domain sourceIp device.id (blockResponse .manualBlock)
    else checkSessionAndDomains env key sourceIp domain device

/-- The device a cached address entry names. -/
def knownDeviceId : Option CacheValue → Option String
  | some (.deviceId id) => if id = "" then none else some id
  | _ => none

/-- The heartbeat of a cache hit. -/
def touchKnownDevice (sourceIp : String) : Api Unit := do
  let v ← cacheGet (deviceIdKey sourceIp)
  match knownDeviceId v with
  | some id => touchHeartbeat id
  | none => pure ()

/-- The decision a cached value is. -/
def cachedDecision : Option CacheValue → Option DnsPolicyResponse
  | some (.decision r) => some r
  | _ => none

/-- `checkPolicy`. -/
def checkPolicy (env : Env) (sourceIp domain : String) : Api DnsPolicyResponse := do
  let version ← getVersion sourceIp
  let cached ← cacheGet (decisionKey sourceIp version domain)
  match cachedDecision cached with
  | some r => do
    touchKnownDevice sourceIp
    pure r
  | none => checkPolicyMiss env (decisionKey sourceIp version domain) sourceIp domain

end GuardTime.Services.DnsPolicy
