import Mathlib.Tactic
import GuardTime.Services.Reports
import GuardTime.Services.RouterIntegration

/-! # Health of the household

`DeviceHealthService.getSummary` as it runs when the cache has no summary, `computeNetworkHealth` of
`network-health.types.ts` and `NetworkHealthService.getSummary`. -/

namespace GuardTime.Services

open GuardTime.Lib.Program GuardTime.Lib.Js GuardTime.Schema GuardTime.Server GuardTime.Prisma

/-! ### The devices -/

namespace DeviceHealth

/-- `DeviceHealthSummary`. -/
structure DeviceHealthSummary where
  generatedAt : String
  total : ℕ
  protectedCount : ℕ
  needsAttentionCount : ℕ
  notConfiguredCount : ℕ
  counts : DeviceHealthState → ℕ
  devices : List DeviceHealthItem

/-- The loop over `counts[item.state] += 1`. -/
def countStates (items : List DeviceHealthItem) : DeviceHealthState → ℕ :=
  items.foldl (fun counts item => Function.update counts item.verdict.state
    (counts item.verdict.state + 1)) fun _ => 0

/-- `getSummary` without a cached summary. -/
def getSummary (parentId : String) : Api DeviceHealthSummary := do
  let devices ← Prisma.findManyBy .device (fun d => d.parentId = parentId) fun d d' =>
    d.name ≤ d'.name
  let activeDeviceIds ← activeSessionDeviceIds parentId
  let now ← newDate
  let items : List DeviceHealthItem := devices.map fun d =>
    ⟨evaluateDeviceHealth (inputOf activeDeviceIds d) now, d.id, d.name, d.type, d.childId⟩
  let counts := countStates items
  pure
    { generatedAt := toISOString now, total := items.length
      protectedCount := counts .verified
      needsAttentionCount := counts .needsAttention + counts .neverVerified
      notConfiguredCount := counts .notConfigured
      counts, devices := items }

end DeviceHealth

/-! ### The score -/

namespace NetworkHealth

/-- `HealthColor`. -/
inductive HealthColor where
  | green | yellow | red | grey
deriving DecidableEq

/-- `HealthSection`. -/
structure HealthSection where
  label : String
  state : String
  color : HealthColor
  percent : Option ℤ
  detail : String
deriving DecidableEq

/-- `NetworkHealthInput['dns']`. -/
structure DnsInput where
  total : ℕ
  protectedCount : ℕ

/-- `NetworkHealthInput['router']`. -/
structure RouterInput where
  tested : ℕ
  healthy : ℕ
  anyGateway : Bool

/-- `NetworkHealthInput['plugin']`. -/
structure PluginInput where
  considered : ℕ
  succeeded : ℕ

/-- `NetworkHealthInput`. -/
structure NetworkHealthInput where
  dns : DnsInput
  router : RouterInput
  plugin : PluginInput
  vpnDetections24h : ℕ
  bypassSuspectedDeviceCount : ℕ
  dohDetections24h : ℕ
  devicesOnline : ℕ
  devicesTotal : ℕ
  lastSynchronization : Option Time

/-- `NetworkHealthSummary`. -/
structure NetworkHealthSummary where
  generatedAt : String
  overallProtection : ℤ
  overallColor : HealthColor
  router : HealthSection
  dns : HealthSection
  plugin : HealthSection
  security : HealthSection
  vpn : HealthSection
  privateDns : HealthSection
  doh : HealthSection
  networkStability : HealthSection
  lastSynchronization : Option String

/-- `colorForPercent`. -/
def colorForPercent (percent : ℤ) : HealthColor :=
  if percent ≥ 80 then .green else if percent ≥ 50 then .yellow else .red

/-- The state of a section by its percent. -/
def stateForPercent (good fair poor : String) (percent : ℤ) : String :=
  if percent ≥ 80 then good else if percent ≥ 50 then fair else poor

/-- `total > 0 ? Math.round((part / total) * 100) : null`. -/
def percentOf (part total : ℕ) : Option ℤ :=
  if total > 0 then some (Reports.round ((part : ℚ) / total * 100)) else none

/-- `dnsPercent`. -/
def dnsPercent (input : NetworkHealthInput) : Option ℤ :=
  percentOf input.dns.protectedCount input.dns.total

/-- `dns`. -/
def dns (input : NetworkHealthInput) : HealthSection :=
  match dnsPercent input with
  | none => ⟨"DNS", "Not Configured", .grey, none, "No devices set up for DNS filtering yet."⟩
  | some percent =>
    { label := "DNS"
      state := stateForPercent "Healthy" "Degraded" "Needs Attention" percent
      color := colorForPercent percent
      percent := some percent
      detail := s!"{input.dns.protectedCount}/{input.dns.total} devices confirmed filtering." }

/-- `routerPercent`. -/
def routerPercent (input : NetworkHealthInput) : Option ℤ :=
  percentOf input.router.healthy input.router.tested

/-- `router`. -/
def router (input : NetworkHealthInput) : HealthSection :=
  if !input.router.anyGateway then
    ⟨"Router", "Not Configured", .grey, none, "No gateway added yet."⟩
  else match routerPercent input with
  | none => ⟨"Router", "Not Tested", .grey, none, "Router connection has not been tested yet."⟩
  | some percent =>
    { label := "Router"
      state := stateForPercent "Healthy" "Degraded" "Needs Attention" percent
      color := colorForPercent percent
      percent := some percent
      detail := s!"{input.router.healthy}/{input.router.tested} router(s) passing their last " ++
        "connection test." }

/-- `pluginPercent`. -/
def pluginPercent (input : NetworkHealthInput) : Option ℤ :=
  percentOf input.plugin.succeeded input.plugin.considered

/-- `plugin`. -/
def plugin (input : NetworkHealthInput) : HealthSection :=
  match pluginPercent input with
  | none =>
    ⟨"Plugin", "No Recent Activity", .grey, none, "No enforcement commands sent recently."⟩
  | some percent =>
    { label := "Plugin"
      state := stateForPercent "Healthy" "Degraded" "Needs Attention" percent
      color := colorForPercent percent
      percent := some percent
      detail := s!"{input.plugin.succeeded}/{input.plugin.considered} recent enforcement " ++
        "commands acknowledged successfully." }

/-- `vpn`. -/
def vpn (input : NetworkHealthInput) : HealthSection :=
  if input.vpnDetections24h > 0 then
    ⟨"VPN", "Detected", .yellow, some 60,
      s!"{input.vpnDetections24h} VPN detection(s) in the last 24h."⟩
  else ⟨"VPN", "Not Detected", .green, some 100, "No VPN use detected in the last 24h."⟩

/-- `privateDns`. -/
def privateDns (input : NetworkHealthInput) : HealthSection :=
  if input.bypassSuspectedDeviceCount > 0 then
    ⟨"Private DNS", "Bypass Suspected", .red, some 30,
      s!"{input.bypassSuspectedDeviceCount} device(s) flagged for a possible DNS bypass."⟩
  else ⟨"Private DNS", "Disabled", .green, some 100,
    "No devices are bypassing the assigned DNS resolver."⟩

/-- `doh`. -/
def doh (input : NetworkHealthInput) : HealthSection :=
  if input.dohDetections24h > 0 then
    ⟨"DoH", "Detected", .yellow, some 60,
      s!"{input.dohDetections24h} DoH/DoT detection(s) in the last 24h."⟩
  else ⟨"DoH", "Clean", .green, some 100,
    "No encrypted-DNS bypass attempts detected in the last 24h."⟩

/-- `securityPercent`. -/
def securityPercent (input : NetworkHealthInput) : ℤ :=
  let sum : ℤ := (vpn input).percent.getD 0 + (privateDns input).percent.getD 0 +
    (doh input).percent.getD 0
  Reports.round (sum / 3)

/-- `security`. -/
def security (input : NetworkHealthInput) : HealthSection where
  label := "Security"
  state := stateForPercent "Healthy" "Monitor" "At Risk" (securityPercent input)
  color := colorForPercent (securityPercent input)
  percent := some (securityPercent input)
  detail := "VPN, Private DNS, and DoH bypass signals combined."

/-- `stabilityPercent`. -/
def stabilityPercent (input : NetworkHealthInput) : Option ℤ :=
  percentOf input.devicesOnline input.devicesTotal

/-- `networkStability`. -/
def networkStability (input : NetworkHealthInput) : HealthSection :=
  match stabilityPercent input with
  | none => ⟨"Network Stability", "Not Configured", .grey, none, "No devices registered yet."⟩
  | some percent =>
    { label := "Network Stability"
      state := stateForPercent "Stable" "Unstable" "Unreachable" percent
      color := colorForPercent percent
      percent := some percent
      detail := s!"{input.devicesOnline}/{input.devicesTotal} devices currently online." }

/-- An entry of `sections`. -/
structure Weighted where
  entry : HealthSection
  weight : ℕ

/-- `sections`: what was pushed for the weighted score. -/
def sections (input : NetworkHealthInput) : List Weighted :=
  (if (dnsPercent input).isSome then [⟨dns input, 30⟩] else []) ++
  (if (routerPercent input).isSome then [⟨router input, 20⟩] else []) ++
  (if (pluginPercent input).isSome then [⟨plugin input, 15⟩] else []) ++
  [⟨security input, 20⟩] ++
  (if (stabilityPercent input).isSome then [⟨networkStability input, 15⟩] else [])

/-- `overallProtection`. -/
def overallProtection (input : NetworkHealthInput) : ℤ :=
  let totalWeight : ℕ := (sections input).foldl (fun sum s => sum + s.weight) 0
  let weightedSum : ℤ :=
    (sections input).foldl (fun sum s => sum + s.entry.percent.getD 0 * s.weight) 0
  if totalWeight > 0 then Reports.round (weightedSum / totalWeight) else 0

/-- `computeNetworkHealth`. -/
def computeNetworkHealth (input : NetworkHealthInput) (now : Time) : NetworkHealthSummary where
  generatedAt := toISOString now
  overallProtection := overallProtection input
  overallColor := colorForPercent (overallProtection input)
  router := router input
  dns := dns input
  plugin := plugin input
  security := security input
  vpn := vpn input
  privateDns := privateDns input
  doh := doh input
  networkStability := networkStability input
  lastSynchronization := input.lastSynchronization.map toISOString

/-! ### The signals -/

/-- The routers found behind the gateways. -/
def detectedRoutersOf (gatewayIds : List String) : Api (List DetectedRouter) :=
  if gatewayIds = [] then pure []
  else Prisma.findMany .detectedRouter fun r => r.gatewayId ∈ gatewayIds

/-- The last twenty finished commands of the gateways. -/
def recentCommandsOf (gatewayIds : List String) : Api (List RouterCommand) :=
  if gatewayIds = [] then pure []
  else do
    let commands ← Prisma.findManyBy .routerCommand
      (fun c => c.gatewayId ∈ gatewayIds && (c.status = .acknowledged || c.status = .failed))
      fun c c' => c'.createdAt ≤ c.createdAt
    pure (commands.take 20)

/-- The VPN detections of the gateways since a time. -/
def countVpn (since24h : Time) (gatewayIds : List String) : Api ℕ :=
  if gatewayIds = [] then pure 0
  else Prisma.query fun db _ => db.vpnDetectionLogs.rows.countP fun l =>
    l.gatewayId ∈ gatewayIds && since24h ≤ l.detectedAt

/-- The last contact of any of the gateways. -/
def lastSynchronization (gateways : List Gateway) : Option Time :=
  gateways.foldl (fun latest g => match g.lastSeen, latest with
    | none, latest => latest
    | some t, none => some t
    | some t, some latest => if t > latest then some t else some latest) none

/-- What `getSummary` hands to `computeNetworkHealth`. -/
def signals (parentId : String) : Api NetworkHealthInput := do
  let since24h := (← newDate) - 24 * 60 * 60 * 1000
  let dnsSummary ← DeviceHealth.getSummary parentId
  let gateways ← Prisma.findMany .gateway fun g => g.parentId = parentId
  let devices ← Prisma.findMany .device fun d => d.parentId = parentId
  let gatewayIds := gateways.map Gateway.id
  let deviceIds := devices.map Device.id
  let detectedRouters ← detectedRoutersOf gatewayIds
  let recentCommands ← recentCommandsOf gatewayIds
  let vpnDetections24h ← countVpn since24h gatewayIds
  let dohDetections24h ← Gateways.countDoh since24h deviceIds
  let testedRouters := detectedRouters.filter fun r => r.lastTestResult.isSome
  let healthyRouters := testedRouters.filter fun r => r.lastTestResult = some true
  pure
    { dns := ⟨dnsSummary.total, dnsSummary.protectedCount⟩
      router := ⟨testedRouters.length, healthyRouters.length, gateways.length > 0⟩
      plugin := ⟨recentCommands.length,
        (recentCommands.filter fun c => c.status = .acknowledged).length⟩
      vpnDetections24h
      bypassSuspectedDeviceCount := (devices.filter fun d => d.protectionStatus ≠ .normal).length
      dohDetections24h
      devicesOnline := (devices.filter fun d => d.status = .online).length
      devicesTotal := devices.length
      lastSynchronization := lastSynchronization gateways }

/-- `getSummary`. -/
def getSummary (parentId : String) : Api NetworkHealthSummary := do
  let input ← signals parentId
  pure (computeNetworkHealth input (← newDate))

end NetworkHealth

end GuardTime.Services
