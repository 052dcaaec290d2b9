import Mathlib.Tactic
import GuardTime.Services.Gateway
import GuardTime.Services.OAuth

/-! # Router integration for the parent

The rest of the capability matrix, `RouterCapabilityScoreService`, `RouterIntegrationService` and
`RouterDetectionService.getDetectedRouter`. -/

namespace GuardTime.Services

open GuardTime.Lib.Program GuardTime.Lib.Js GuardTime.Schema GuardTime.Server GuardTime.Prisma

/-! ### The capability matrix -/

namespace RouterDatabase

/-- The columns of `RouterCapabilities` that are only shown. -/
structure VendorDetails where
  pluginId : String
  vendorDisplayName : String
  modelFamily : Option String
  pluginImplemented : Bool
  protocol : Option String
  officialDocUrl : Option String
  scopeNote : Option String
  supportsQoS : Bool
  supportsStatistics : Bool
  supportsParentalControl : Bool
  supportsACL : Bool
  supportsAPI : Bool
  supportsSSH : Bool
  supportsTR064 : Bool
  supportsRouterOS : Bool
  supportedAuthentication : List String
deriving DecidableEq

/-- `guideOnly`. -/
def guideOnlyDetails (pluginId vendorDisplayName : String) (scopeNote modelFamily : Option String) :
    VendorDetails where
  pluginId := pluginId
  vendorDisplayName := vendorDisplayName
  modelFamily := modelFamily
  pluginImplemented := false
  protocol := none
  officialDocUrl := none
  scopeNote := scopeNote
  supportsQoS := false
  supportsStatistics := false
  supportsParentalControl := false
  supportsACL := false
  supportsAPI := false
  supportsSSH := false
  supportsTR064 := false
  supportsRouterOS := false
  supportedAuthentication := []

/-- These columns of `ROUTER_CAPABILITY_MATRIX`. -/
def vendorDetails : List VendorDetails :=
  [
   { pluginId := "fritzbox", vendorDisplayName := "AVM FRITZ!Box",
     modelFamily := some "FRITZ!Box (all TR-064-capable models)",
     pluginImplemented := true, protocol := some "TR-064",
     officialDocUrl := some "https://fritz.com/en/pages/interfaces",
     scopeNote := none,
     supportsQoS := false, supportsStatistics := true, supportsParentalControl := true,
     supportsACL := true, supportsAPI := true, supportsSSH := false,
     supportsTR064 := true, supportsRouterOS := false,
     supportedAuthentication := ["tr064-digest-auth"] },
   { pluginId := "mikrotik", vendorDisplayName := "MikroTik",
     modelFamily := some "RouterOS v7+ (REST API support)",
     pluginImplemented := true, protocol := some "RouterOS-REST",
     officialDocUrl := some "https://help.mikrotik.com/docs/spaces/ROS/pages/47579162/REST+API",
     scopeNote := none,
     supportsQoS := true, supportsStatistics := true, supportsParentalControl := false,
     supportsACL := true, supportsAPI := true, supportsSSH := true,
     supportsTR064 := false, supportsRouterOS := true,
     supportedAuthentication := ["http-basic-auth"] },
   { pluginId := "openwrt", vendorDisplayName := "OpenWrt",
     modelFamily := some "Any device running stock OpenWrt with rpcd/ubus-rpc-uci enabled",
     pluginImplemented := true, protocol := some "ubus-JSONRPC",
     officialDocUrl := some "https://github.com/openwrt/rpcd",
     scopeNote := none,
     supportsQoS := true, supportsStatistics := true, supportsParentalControl := false,
     supportsACL := true, supportsAPI := true, supportsSSH := true,
     supportsTR064 := false, supportsRouterOS := false,
     supportedAuthentication := ["ubus-session-login", "ssh-key", "ssh-password"] },
   { pluginId := "unifi", vendorDisplayName := "Ubiquiti UniFi",
     modelFamily := some
       "UniFi OS consoles (UDM/UDM-Pro/Cloud Gateway) + legacy self-hosted Network Application",
     pluginImplemented := true, protocol := some "UniFi-Network-API",
     officialDocUrl := some "https://help.ui.com/hc/en-us/articles/30076656117655-Getting-Started-with-the-Official-UniFi-API",
     scopeNote := some ("Requires a UniFi Network Application (self-hosted controller or " ++
        "UniFi OS console). Implemented against the widely-referenced legacy controller API " ++
        "shape (see gateway-agent/src/router-integrations/unifi/index.js); not yet " ++
        "smoke-tested against real hardware."),
     supportsQoS := true, supportsStatistics := true, supportsParentalControl := false,
     supportsACL := true, supportsAPI := true, supportsSSH := false,
     supportsTR064 := false, supportsRouterOS := false,
     supportedAuthentication := ["api-key", "oauth"] },
   { pluginId := "edgerouter", vendorDisplayName := "Ubiquiti EdgeRouter",
     modelFamily := some "EdgeOS (EdgeRouter X/ER/ERPoe/ERLite series)",
     pluginImplemented := true, protocol := some "EdgeOS-SSH-CLI",
     officialDocUrl := some "https://help.ui.com",
     scopeNote := some ("EdgeOS management is officially documented via SSH CLI " ++
        "(Vyatta-derived config commands). The EdgeOS HTTP API is NOT officially published, " ++
        "so this integration is CLI-only, shelling out to ssh/sshpass — see " ++
        "gateway-agent/src/router-integrations/edgerouter/index.js. Not yet smoke-tested " ++
        "against real hardware."),
     supportsQoS := true, supportsStatistics := true, supportsParentalControl := false,
     supportsACL := true, supportsAPI := false, supportsSSH := true,
     supportsTR064 := false, supportsRouterOS := false,
     supportedAuthentication := ["ssh-key", "ssh-password"] },
   { pluginId := "glinet", vendorDisplayName := "GL.iNet",
     modelFamily := some "GL.iNet OpenWrt-based firmware (travel routers, mesh, VPN gateways)",
     pluginImplemented := true, protocol := some "ubus-session-login",
     officialDocUrl := some "https://dev.gl-inet.com/router-4.x-api/",
     scopeNote := some ("GL.iNet firmware is OpenWrt-based with ubus/rpcd enabled by default, " ++
        "so this reuses the existing OpenWrt plugin unmodified rather than duplicating it — " ++
        "see gateway-agent/src/router-integrations/glinet/index.js. Not yet smoke-tested " ++
        "against real hardware."),
     supportsQoS := true, supportsStatistics := true, supportsParentalControl := true,
     supportsACL := true, supportsAPI := true, supportsSSH := true,
     supportsTR064 := false, supportsRouterOS := false,
     supportedAuthentication := ["ubus-session-login"] },
   { pluginId := "tplink_omada", vendorDisplayName := "TP-Link (Omada)",
     modelFamily := some "Omada SDN Controller-managed APs/gateways/switches",
     pluginImplemented := true, protocol := some "Omada-OpenAPI",
     officialDocUrl := some "https://use1-omada-northbound.tplinkcloud.com/doc.html",
     scopeNote := some ("Omada SDN Controller-managed access points/routers ONLY — TP-Link's " ++
        "consumer Deco and Archer lines have no official API (see tplink_consumer). " ++
        "Implemented against the documented OAuth2 client-credentials + sites/devices/clients " ++
        "resource shape (see gateway-agent/src/router-integrations/tplink_omada/index.js). " ++
        "The Open API's published scope has no WAN-DNS-change or IP-firewall-ACL endpoint — " ++
        "changeDNS reports that honestly; enforcement uses the documented per-client " ++
        "block/unblock/reconnect actions instead. Not yet smoke-tested against real hardware."),
     supportsQoS := false, supportsStatistics := true, supportsParentalControl := false,
     supportsACL := false, supportsAPI := true, supportsSSH := false,
     supportsTR064 := false, supportsRouterOS := false,
     supportedAuthentication := ["oauth2", "api-key"] },
   { pluginId := "zyxel_nebula", vendorDisplayName := "Zyxel (Nebula)",
     modelFamily := some "Nebula cloud-managed gateways/APs/switches",
     pluginImplemented := true, protocol := some "Nebula-OpenAPI",
     officialDocUrl := some "https://zyxelnetworks.github.io/NebulaOpenAPI/",
     scopeNote := some ("Nebula cloud-managed devices ONLY — standalone consumer Zyxel " ++
        "routers have no official API (see zyxel_consumer). The Nebula Open API's published " ++
        "scope (as of the cited docs) is organization/site/device/client MONITORING only — it " ++
        "does not document a client-block, DNS-change, or firewall-write endpoint the way " ++
        "Omada's Open API documents client block/unblock/reconnect. " ++
        "detect/login/testConnection/health are real, working calls against the documented " ++
        "read API (see gateway-agent/src/router-integrations/zyxel_nebula/index.js); every " ++
        "enforcement method honestly reports it has no API surface to act on rather than " ++
        "inventing one."),
     supportsQoS := false, supportsStatistics := true, supportsParentalControl := false,
     supportsACL := false, supportsAPI := true, supportsSSH := false,
     supportsTR064 := false, supportsRouterOS := false,
     supportedAuthentication := ["api-key"] },
   { pluginId := "draytek", vendorDisplayName := "DrayTek",
     modelFamily := some "Vigor series (DrayOS)",
     pluginImplemented := true, protocol := some "SNMP+SSH-CLI",
     officialDocUrl := some "https://www.draytek.com/support/knowledge-base/5517",
     scopeNote := some ("No REST/JSON API — SNMP (standard MIB-2) for reads, SSH CLI (Vigor " ++
        "command tree) for changes, both officially documented in Vigor router manuals (see " ++
        "gateway-agent/src/router-integrations/draytek/index.js). Every mutating method " ++
        "verifies its change by reading the config back, since the exact CLI command syntax " ++
        "is the least-certain part of this plugin. Not yet smoke-tested against real " ++
        "hardware."),
     supportsQoS := true, supportsStatistics := true, supportsParentalControl := true,
     supportsACL := true, supportsAPI := false, supportsSSH := true,
     supportsTR064 := false, supportsRouterOS := false,
     supportedAuthentication := ["ssh-password", "snmp-community"] },
   { pluginId := "linksys", vendorDisplayName := "Linksys",
     modelFamily := some "Linksys Smart Wi-Fi (JNAP-capable models)",
     pluginImplemented := true, protocol := some "JNAP",
     officialDocUrl := some "https://s3-us-west-1.amazonaws.com/linksyssmartwifi.uploads/ldc/Developer+SDK+Documentation/Linksys+Smart+WiFi+Developer+SDK+API+Documentation.pdf",
     scopeNote := some ("Requires registering as an approved developer in the Linksys " ++
        "Developer Community for production JNAP credentials. Implemented against the " ++
        "documented X-JNAP-Action transport + parental-control/MAC-filter resource shape (see " ++
        "gateway-agent/src/router-integrations/linksys/index.js). Not yet smoke-tested " ++
        "against real hardware."),
     supportsQoS := true, supportsStatistics := true, supportsParentalControl := true,
     supportsACL := true, supportsAPI := true, supportsSSH := false,
     supportsTR064 := false, supportsRouterOS := false,
     supportedAuthentication := ["jnap-post-json"] },
   { pluginId := "keenetic", vendorDisplayName := "Keenetic",
     modelFamily := some "Keenetic OS (KeeneticOS, RCI-capable models)",
     pluginImplemented := true, protocol := some "RCI-HTTP",
     officialDocUrl := some "https://help.keenetic.com",
     scopeNote := some ("RCI (\"Remote Control Interface\") is documented in Keenetic's own " ++
        "command-reference manuals (HTTP API / REST Core Interface section) — a " ++
        "vendor-published manual, not a third-party reverse-engineering writeup, which is why " ++
        "this is OFFICIAL_API rather than GUIDE_ONLY. Digest-authed GET/POST against " ++
        "/rci/<command-tree-path>, mirroring the CLI 1:1 (see " ++
        "gateway-agent/src/router-integrations/keenetic/index.js). Not yet smoke-tested " ++
        "against real hardware."),
     supportsQoS := true, supportsStatistics := true, supportsParentalControl := true,
     supportsACL := true, supportsAPI := true, supportsSSH := false,
     supportsTR064 := false, supportsRouterOS := false,
     supportedAuthentication := ["rci-digest-auth"] },
   guideOnlyDetails "asus" "ASUS" none (some "AsusWRT / ASUS Router app-managed models"),
   guideOnlyDetails "tplink_consumer" "TP-Link"
     (some "Deco and Archer consumer lines — see tplink_omada for Omada-managed devices.")
     (some "Deco / Archer"),
   guideOnlyDetails "netgear" "Netgear" none (some "Nighthawk / Orbi"),
   guideOnlyDetails "dlink" "D-Link" none none,
   guideOnlyDetails "belkin" "Belkin" none none,
   guideOnlyDetails "synology" "Synology Router" (some ("SRM (Synology Router Manager) has no " ++
      "published third-party developer API — only community-reverse-engineered clients (e.g. " ++
      "aerialls/synology-srm) exist against its private web API.")) (some "SRM (RT/MR series)"),
   guideOnlyDetails "google_nest_wifi" "Google Nest Wifi" none none,
   guideOnlyDetails "eero" "eero" none none,
   guideOnlyDetails "huawei" "Huawei" none (some "Huawei Home Routers"),
   guideOnlyDetails "zyxel_consumer" "Zyxel"
     (some "Consumer line — see zyxel_nebula for Nebula-managed devices.") none,
   guideOnlyDetails "cisco_small_business" "Cisco Small Business" none (some "RV series"),
   guideOnlyDetails "buffalo" "Buffalo" none none,
   guideOnlyDetails "mercusys" "Mercusys" none none,
   guideOnlyDetails "tenda" "Tenda" none none,
   guideOnlyDetails "xiaomi" "Xiaomi" (some ("Xiaomi/Redmi routers expose an unofficial local " ++
      "miWiFi API used by Xiaomi's own app, but Xiaomi has not published it as a third-party " ++
      "developer API.")) (some "Mi Router / Redmi Router"),
   guideOnlyDetails "totolink" "TOTOLINK"
     (some "No public developer API or SDK found on TOTOLINK's own site/support channels.") none,
   guideOnlyDetails "sercomm" "Sercomm" (some ("Common ISP white-label ODM device — no public " ++
      "developer API; any management API is embedded in the ISP's own provisioning " ++
      "(TR-069/ACS), not reachable by GuardTime.")) none,
   guideOnlyDetails "arcadyan" "Arcadyan" (some ("Common ISP white-label ODM device — TR-069 " ++
      "exists but is managed by the ISP's own ACS, not reachable by GuardTime.")) none,
   guideOnlyDetails "actiontec" "Actiontec" (some ("Common ISP white-label device — no public " ++
      "developer API; management is via the ISP's own provisioning (TR-069/ACS).")) none,
   guideOnlyDetails "hitron" "Hitron" (some
     "Cable modem/gateway ODM, typically ISP-provisioned — no public developer API found.") none,
   guideOnlyDetails "comtrend" "Comtrend"
     (some "ONT/gateway ODM, typically ISP-provisioned — no public developer API found.") none,
   guideOnlyDetails "nokia_home_gateway" "Nokia Home Gateway" (some
     ("Nokia ONT/home-gateway hardware is provisioned by the fiber ISP's own TR-069 ACS — " ++
      "Nokia's public developer resources (network.developer.nokia.com) do not cover this " ++
      "class of device.")) (some "ONT / G-240W-E family"),
   guideOnlyDetails "sagemcom" "Sagemcom" (some ("Common ISP white-label device — TR-069 " ++
      "exists but is managed by the ISP's own ACS, not reachable by GuardTime.")) none,
   guideOnlyDetails "technicolor" "Technicolor" (some ("Common ISP white-label device — " ++
      "TR-069 exists but is managed by the ISP's own ACS, not reachable by GuardTime.")) none,
   guideOnlyDetails "arris" "Arris" (some ("Common ISP white-label device — TR-069 exists but " ++
      "is managed by the ISP's own ACS, not reachable by GuardTime.")) none
  ]

/-- A whole row of the matrix. -/
structure Capabilities where
  flags : RouterCapabilities
  details : VendorDetails
deriving DecidableEq

/-- `CapabilityEngineService.getCapabilities`. Both parts of the matrix have the same rows; a member
of `Object.prototype` has no details. -/
def capabilitiesOf (pluginId : Option String) : Option Capabilities := do
  let pluginId ← truthy pluginId
  let flags ← getCapabilities pluginId
  let details := vendorDetails.find? fun d => d.pluginId = pluginId
  pure ⟨flags, details.getD (guideOnlyDetails pluginId "" none none)⟩

end RouterDatabase

/-! ### The score -/

namespace RouterCapabilityScore

open RouterDatabase

inductive SupportLevel where
  | fullSupport | excellent | good | limited | basic | unsupported
deriving DecidableEq

/-- `CapabilityScoreCategory`. -/
structure Category where
  key : String
  label : String
  weight : ℕ
  earned : ℕ
  supported : Bool
  reasoning : String
deriving DecidableEq

/-- `RouterCapabilityScore`. -/
structure Score where
  score : ℕ
  maxScore : ℕ
  level : SupportLevel
  stars : ℕ
  badge : String
  supportedFeatures : List String
  unsupportedFeatures : List String
  breakdown : List Category
  recommendations : List String
deriving DecidableEq

/-- `LEVEL_LABELS`. -/
def levelLabel : SupportLevel → String
  | .fullSupport => "Full Support"
  | .excellent => "Excellent"
  | .good => "Good"
  | .limited => "Limited"
  | .basic => "Basic"
  | .unsupported => "Unsupported"

/-- `LEVEL_STARS`. -/
def levelStars : SupportLevel → ℕ
  | .fullSupport => 5
  | .excellent => 4
  | .good => 3
  | .limited => 2
  | .basic => 1
  | .unsupported => 0

/-- `levelForScore`. -/
def levelForScore (score : ℕ) : SupportLevel :=
  if score ≥ 85 then .fullSupport
  else if score ≥ 65 then .excellent
  else if score ≥ 45 then .good
  else if score ≥ 20 then .limited
  else if score ≥ 1 then .basic
  else .unsupported

/-- `starBadge`. -/
def starBadge (stars : ℕ) (label : String) : String :=
  String.ofList (List.replicate stars '★' ++ List.replicate (5 - stars) '☆') ++ " " ++ label

/-- A category with the points it earns. -/
def category (key label : String) (weight : ℕ) (supported : Bool) (yes no : String) : Category :=
  { key, label, weight, earned := if supported then weight else 0, supported
    reasoning := if supported then yes else no }

/-- The categories of a router. -/
def categories (c : Option Capabilities) (firmwareVersion : Option String) : List Category :=
  let flag (f : RouterCapabilities → Bool) : Bool := c.any fun c => f c.flags
  let detail (f : VendorDetails → Bool) : Bool := c.any fun c => f c.details
  [category "pauseDevice" "Pause Device" 25 (flag (·.supportsPauseDevice))
      "Router plugin supports pausing a device's internet access directly (supportsPauseDevice)."
      "This router's plugin has no documented pause-device action.",
   category "accessSchedule" "Access Schedule" 20
      (flag fun f => f.supportsPauseDevice || f.supportsFirewallRules || f.supportsMACFiltering)
      ("GuardTime's own scheduler can drive this router's pause/firewall/MAC-filter action on " ++
         "a timer for bedtime and daily-limit schedules.")
      "No pause, firewall-rule, or MAC-filter action for the scheduler to drive on a timer.",
   category "blockDevice" "Block Device" 15
      (flag fun f => f.supportsFirewallRules || f.supportsMACFiltering)
      "Router plugin can persistently block a device via a firewall rule or MAC filter entry."
      "No documented persistent per-device block action (firewall rule or MAC filter).",
   category "dnsFiltering" "DNS Filtering" 15 (flag (·.supportsDNSChange))
      "Router plugin can change the router's DNS server (supportsDNSChange)."
      ("This router's plugin has no documented DNS-change action — GuardTime's device-level " ++
         "DNS filtering still applies independently."),
   category "statistics" "Statistics" 10 (detail (·.supportsStatistics))
      "Router exposes usage/connection statistics (supportsStatistics)."
      "No documented statistics/monitoring endpoint for this router.",
   category "parentalControls" "Parental Controls" 10 (detail (·.supportsParentalControl))
      ("Router has its own native parental-control feature GuardTime can drive " ++
         "(supportsParentalControl).")
      "No native parental-control feature documented for this router.",
   category "deviceDiscovery" "Device Discovery" 5 c.isSome
      ("Device discovery (ARP/mDNS/DHCP) runs on the gateway agent itself, independent of " ++
         "router vendor — available whenever a router is recognized.")
      "No router recognized on this gateway yet, so there is nothing to discover devices behind.",
   category "firmwareDetection" "Firmware Detection" 5 (truthy firmwareVersion).isSome
      ("Firmware version reported by this specific router: " ++ firmwareVersion.getD "" ++ ".")
      ("This router has not reported a firmware/model string yet (or its plugin does not " ++
         "surface one).")]

/-- The recommendations for a router whose `unsupported` features are missing. -/
def recommendations (c : Option Capabilities) (unsupported : List String) : List String :=
  match c with
  | none =>
    ["Run router detection (Scan) so GuardTime can identify this router and its capabilities."]
  | some c =>
    (if c.flags.integrationStatus = .guideOnly then
      [(truthy c.details.scopeNote).getD (c.details.vendorDisplayName ++
        " has no official management API — see Supported Features for manual setup instructions.")]
     else []) ++
    (if !c.flags.supportsPauseDevice && !c.flags.supportsFirewallRules &&
        !c.flags.supportsMACFiltering then
      ["Consider a Software Gateway (Advanced) for full pause/block enforcement independent " ++
        "of this router."]
     else []) ++
    (if unsupported ≠ [] ∧ c.flags.integrationStatus = .officialApi then
      [c.details.vendorDisplayName ++ "'s official API does not cover: " ++
        join unsupported ", " ++ "."]
     else [])

/-- `computeScore`. -/
def computeScore (capabilities : Option Capabilities) (firmwareVersion : Option String) : Score :=
  let breakdown := categories capabilities firmwareVersion
  let score := min (breakdown.map Category.earned).sum 100
  let level := levelForScore score
  let unsupported := (breakdown.filter fun c => !c.supported).map Category.label
  { score, maxScore := 100, level, stars := levelStars level
    badge := starBadge (levelStars level) (levelLabel level)
    supportedFeatures := (breakdown.filter Category.supported).map Category.label
    unsupportedFeatures := unsupported, breakdown
    recommendations := recommendations capabilities unsupported }

end RouterCapabilityScore

/-! ### The service -/

namespace RouterIntegration

open RouterDatabase RouterCapabilityScore

/-- `RouterSetupDto`; a credential is absent, null or a string. -/
structure RouterSetupDto where
  vendorPluginId : Option String := none
  username : Patch String := none
  password : Patch String := none
  apiKey : Patch String := none

/-- The answer of `getFeatures`. -/
structure Features where
  detected : Bool
  capabilities : Option Capabilities
  score : Score
deriving DecidableEq

/-- The columns of `DetectedRouter` that `getDiagnostics` selects. -/
structure RouterSummary where
  id : String
  gatewayId : String
  vendor : Option String
  model : Option String
  firmwareVersion : Option String
  pluginId : Option String
  integrationStatus : RouterIntegrationStatus
  detectionMethod : Option RouterDetectionMethod
  confidence : Option ℤ
  macOui : Option String
  ipAddress : Option String
  hostname : Option String
  lastDetectedAt : Option Time
  lastTestedAt : Option Time
  lastTestResult : Option Bool
  createdAt : Time
  updatedAt : Time
deriving DecidableEq

/-- The selected columns of a row. -/
def summary (r : DetectedRouter) : RouterSummary :=
  { id := r.id, gatewayId := r.gatewayId, vendor := r.vendor, model := r.model,
    firmwareVersion := r.firmwareVersion, pluginId := r.pluginId,
    integrationStatus := r.integrationStatus, detectionMethod := r.detectionMethod,
    confidence := r.confidence, macOui := r.macOui, ipAddress := r.ipAddress,
      hostname := r.hostname,
    lastDetectedAt := r.lastDetectedAt, lastTestedAt := r.lastTestedAt,
    lastTestResult := r.lastTestResult, createdAt := r.createdAt, updatedAt := r.updatedAt }

/-- The answer of `getDiagnostics`. -/
structure Diagnostics where
  router : Option RouterSummary
  recentCommands : List RouterCommand
  score : Score
deriving DecidableEq

/-- The row of the gateway. -/
def findRouter (gatewayId : String) : Api (Option DetectedRouter) :=
  Prisma.findUniqueBy .detectedRouter fun r => r.gatewayId = gatewayId

/-- `getFeatures`. -/
def getFeatures (parentId gatewayId : String) : Api Features := do
  let _ ← Gateways.findOwned parentId gatewayId
  let router ← findRouter gatewayId
  match router.filter fun r => (truthy r.pluginId).isSome with
  | none => pure ⟨false, none, computeScore none none⟩
  | some r =>
    let capabilities := capabilitiesOf r.pluginId
    pure ⟨true, capabilities, computeScore capabilities r.firmwareVersion⟩

/-- The changes of `setup` to a row. -/
def saveCredentials (vendorPluginId : Option String) (status : RouterIntegrationStatus)
    (encrypted : String) (r : DetectedRouter) : DetectedRouter :=
  { r with
    pluginId := if (truthy vendorPluginId).isSome then vendorPluginId else r.pluginId
    integrationStatus := if (truthy vendorPluginId).isSome then status else r.integrationStatus
    adminCredentialsEncrypted := some encrypted }

/-- The row `setup` makes. -/
def newRouter (gatewayId : String) (vendorPluginId : Option String)
    (status : RouterIntegrationStatus) (encrypted id : String) (now : Time) : DetectedRouter :=
  { id, gatewayId, vendor := none, model := none, firmwareVersion := none,
    pluginId := vendorPluginId,
    integrationStatus := status, detectionMethod := none, confidence := none, macOui := none,
    ipAddress := none, hostname := none, adminCredentialsEncrypted := some encrypted,
    lastDetectedAt := none, lastTestedAt := none, lastTestResult := none, createdAt := now,
    updatedAt := now }

/-- `setup`: the id of the command that tests the connection. -/
def setup (encryption : OAuth.EncryptionService) (parentId gatewayId : String)
    (dto : RouterSetupDto) : Api String := do
  let _ ← Gateways.findOwned parentId gatewayId
  let encrypted ← OAuth.encrypt encryption (some (stringify (object
    [("username", dto.username.map strOrNull), ("password", dto.password.map strOrNull),
     ("apiKey", dto.apiKey.map strOrNull)])))
  let status := ((capabilitiesOf dto.vendorPluginId).map (·.flags.integrationStatus)).getD
    .undetected
  let _ ← Prisma.upsert .detectedRouter (fun r => r.gatewayId = gatewayId)
    (saveCredentials dto.vendorPluginId status encrypted)
    (newRouter gatewayId dto.vendorPluginId status encrypted)
  let command ← RouterCommands.enqueueCommand gatewayId .testConnection (some (.obj [])) none
  pure command.id

/-- An owner's command for the router: the id of the command. -/
def request (parentId gatewayId : String) (type : RouterCommandType) (payload : Json) :
    Api String := do
  let _ ← Gateways.findOwned parentId gatewayId
  let command ← RouterCommands.enqueueCommand gatewayId type (some payload) none
  pure command.id

/-- `testConnection`. -/
def testConnection (parentId gatewayId : String) : Api String :=
  request parentId gatewayId .testConnection (.obj [])

/-- `triggerDetection`. -/
def triggerDetection (parentId gatewayId : String) : Api String :=
  request parentId gatewayId .detect (.obj [])

/-- `listRecentCommands`. -/
def listRecentCommands (gatewayId : String) : Api (List RouterCommand) := do
  let commands ← Prisma.findManyBy .routerCommand (fun c => c.gatewayId = gatewayId)
    fun c c' => c'.createdAt ≤ c.createdAt
  pure (commands.take 20)

/-- `getDiagnostics`. -/
def getDiagnostics (parentId gatewayId : String) : Api Diagnostics := do
  let _ ← Gateways.findOwned parentId gatewayId
  let found ← findRouter gatewayId
  let router := found.map summary
  let recentCommands ← listRecentCommands gatewayId
  let capabilities := capabilitiesOf (router.bind RouterSummary.pluginId)
  pure ⟨router, recentCommands,
    computeScore capabilities (router.bind RouterSummary.firmwareVersion)⟩

/-- `changeDns`. -/
def changeDns (parentId gatewayId dnsServer : String) : Api String :=
  request parentId gatewayId .changeDns (.obj [("dnsServer", .str dnsServer)])

/-- `blockMac`. -/
def blockMac (parentId gatewayId macAddress : String) : Api String :=
  request parentId gatewayId .blockMac (.obj [("macAddress", .str macAddress)])

/-- `unblockMac`. -/
def unblockMac (parentId gatewayId macAddress : String) : Api String :=
  request parentId gatewayId .unblockMac (.obj [("macAddress", .str macAddress)])

/-- `RouterDetectionService.getDetectedRouter`. -/
def getDetectedRouter (parentId gatewayId : String) : Api (Option DetectedRouter) := do
  let _ ← Gateways.findOwned parentId gatewayId
  findRouter gatewayId

end RouterIntegration

/-! ### The gateways of a parent -/

namespace Gateways

/-- The columns of `DetectedRouter` that `listGateways` selects. -/
structure RouterCard where
  vendor : Option String
  model : Option String
  integrationStatus : RouterIntegrationStatus
  pluginId : Option String
deriving DecidableEq

/-- A gateway in the answer of `listGateways`. -/
structure GatewayCard where
  id : String
  name : String
  description : Option String
  gatewayType : GatewayType
  endpoint : Option String
  paired : Bool
  pairedAt : Option Time
  lastSeen : Option Time
  agentVersion : Option String
  createdAt : Time
  online : Bool
  deviceCount : ℕ
  detectedRouter : Option RouterCard
  vpnDetectionCount24h : ℕ
  dohDetectionCount24h : ℕ
deriving DecidableEq

/-- `ONLINE_THRESHOLD_MS`. -/
def onlineThresholdMs : ℤ := 60000

/-- The DoH and DoT detections of the devices since a time. -/
def countDoh (since24h : Time) (deviceIds : List String) : Api ℕ :=
  if deviceIds = [] then pure 0
  else Prisma.query fun db _ => db.auditLogs.rows.countP fun a =>
    a.action = "doh_dot_detected" && a.entityId.any (· ∈ deviceIds) && since24h ≤ a.createdAt

/-- The card of one gateway. -/
def gatewayCard (since24h now : Time) (g : Gateway) : Api GatewayCard := do
  let deviceRows ← Prisma.findMany .device fun d => d.gatewayId = some g.id
  let deviceIds := deviceRows.map Device.id
  let router ← Prisma.findUniqueBy .detectedRouter fun r => r.gatewayId = g.id
  let vpn ← Prisma.query fun db _ => db.vpnDetectionLogs.rows.countP fun l =>
    l.gatewayId = g.id && since24h ≤ l.detectedAt
  let doh ← countDoh since24h deviceIds
  pure
    { id := g.id, name := g.name, description := g.description, gatewayType := g.gatewayType,
      endpoint := g.endpoint, paired := g.paired, pairedAt := g.pairedAt, lastSeen := g.lastSeen,
      agentVersion := g.agentVersion, createdAt := g.createdAt
      online := g.lastSeen.any fun t => now - t ≤ onlineThresholdMs
      deviceCount := deviceIds.length
      detectedRouter := router.map fun r => ⟨r.vendor, r.model, r.integrationStatus, r.pluginId⟩
      vpnDetectionCount24h := vpn, dohDetectionCount24h := doh }

/-- `listGateways`. -/
def listGateways (parentId : String) : Api (List GatewayCard) := do
  let gateways ← Prisma.findManyBy .gateway (fun g => g.parentId = parentId)
    fun g g' => g.createdAt ≤ g'.createdAt
  let today ← newDate
  let now ← newDate
  Prog.foldEach gateways [] fun cards g => do
    let card ← gatewayCard (today - 86400000) now g
    pure (cards ++ [card])

end Gateways

end GuardTime.Services
