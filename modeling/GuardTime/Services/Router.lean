import Mathlib.Tactic
import GuardTime.Lib.JsObject
import GuardTime.Services.Notifications

/-! # Router integration

The capability matrix and vendor recognition, `RouterCommandService`,
`RouterDetectionService.recordDetection` and `SmartBlockEngineService`. -/

namespace GuardTime.Services

open GuardTime.Lib.Program GuardTime.Lib.Js GuardTime.Schema GuardTime.Server GuardTime.Prisma

/-! ### Vendors and capabilities -/

namespace RouterDatabase

/-- The part of `RouterCapabilities` the backend decides by. -/
structure RouterCapabilities where
  pluginId : String
  integrationStatus : RouterIntegrationStatus
  supportsDNSChange : Bool
  supportsFirewallRules : Bool
  supportsPauseDevice : Bool
  supportsClientDisconnect : Bool
  supportsMACFiltering : Bool
deriving DecidableEq

/-- `guideOnly`. -/
def guideOnly (pluginId : String) : RouterCapabilities where
  pluginId := pluginId
  integrationStatus := .guideOnly
  supportsDNSChange := false
  supportsFirewallRules := false
  supportsPauseDevice := false
  supportsClientDisconnect := false
  supportsMACFiltering := false

/-- `ROUTER_CAPABILITY_MATRIX`. -/
def routerCapabilityMatrix : List RouterCapabilities :=
  [
   { pluginId := "fritzbox", integrationStatus := .officialApi, supportsDNSChange := true,
     supportsFirewallRules := true, supportsPauseDevice := true, supportsClientDisconnect := false,
     supportsMACFiltering := true },
   { pluginId := "mikrotik", integrationStatus := .officialApi, supportsDNSChange := true,
     supportsFirewallRules := true, supportsPauseDevice := true, supportsClientDisconnect := true,
     supportsMACFiltering := true },
   { pluginId := "openwrt", integrationStatus := .officialApi, supportsDNSChange := true,
     supportsFirewallRules := true, supportsPauseDevice := true, supportsClientDisconnect := true,
     supportsMACFiltering := true },
   { pluginId := "unifi", integrationStatus := .officialApi, supportsDNSChange := true,
     supportsFirewallRules := true, supportsPauseDevice := true, supportsClientDisconnect := true,
     supportsMACFiltering := true },
   { pluginId := "edgerouter", integrationStatus := .officialApi, supportsDNSChange := true,
     supportsFirewallRules := true, supportsPauseDevice := true, supportsClientDisconnect := false,
     supportsMACFiltering := true },
   { pluginId := "glinet", integrationStatus := .officialApi, supportsDNSChange := true,
     supportsFirewallRules := true, supportsPauseDevice := true, supportsClientDisconnect := true,
     supportsMACFiltering := true },
   { pluginId := "tplink_omada", integrationStatus := .officialApi, supportsDNSChange := false,
     supportsFirewallRules := false, supportsPauseDevice := true, supportsClientDisconnect := true,
     supportsMACFiltering := true },
   { pluginId := "zyxel_nebula", integrationStatus := .officialApi, supportsDNSChange := false,
     supportsFirewallRules := false, supportsPauseDevice := false,
       supportsClientDisconnect := false,
     supportsMACFiltering := false },
   { pluginId := "draytek", integrationStatus := .officialApi, supportsDNSChange := true,
     supportsFirewallRules := true, supportsPauseDevice := true, supportsClientDisconnect := false,
     supportsMACFiltering := true },
   { pluginId := "linksys", integrationStatus := .officialApi, supportsDNSChange := true,
     supportsFirewallRules := false, supportsPauseDevice := true, supportsClientDisconnect := false,
     supportsMACFiltering := true },
   { pluginId := "keenetic", integrationStatus := .officialApi, supportsDNSChange := true,
     supportsFirewallRules := false, supportsPauseDevice := true, supportsClientDisconnect := false,
     supportsMACFiltering := true },
   guideOnly "asus",
   guideOnly "tplink_consumer",
   guideOnly "netgear",
   guideOnly "dlink",
   guideOnly "belkin",
   guideOnly "synology",
   guideOnly "google_nest_wifi",
   guideOnly "eero",
   guideOnly "huawei",
   guideOnly "zyxel_consumer",
   guideOnly "cisco_small_business",
   guideOnly "buffalo",
   guideOnly "mercusys",
   guideOnly "tenda",
   guideOnly "xiaomi",
   guideOnly "totolink",
   guideOnly "sercomm",
   guideOnly "arcadyan",
   guideOnly "actiontec",
   guideOnly "hitron",
   guideOnly "comtrend",
   guideOnly "nokia_home_gateway",
   guideOnly "sagemcom",
   guideOnly "technicolor",
   guideOnly "arris"
  ]

/-- What the backend reads off a member of `Object.prototype`: no flag is set, and the missing
status counts as `UNDETECTED`. -/
def memberCapabilities (name : String) : RouterCapabilities :=
  { guideOnly name with integrationStatus := .undetected }

/-- `getCapabilities`. The matrix is a plain object, so the name of a member of `Object.prototype`
finds that member. -/
def getCapabilities (pluginId : String) : Option RouterCapabilities :=
  match routerCapabilityMatrix.find? fun c => c.pluginId = pluginId with
  | some c => some c
  | none =>
    if pluginId ∈ Lib.JsObject.inherited then some (memberCapabilities pluginId) else none

/-- An item of a vendor pattern. In every pattern the item after a repeated or optional one matches
none of its characters, so taking as much as possible loses no match. -/
inductive Item where
  /-- The letters of a word, in either case. -/
  | word (w : String)
  /-- `\s*`. -/
  | spaces
  /-- `[...]?`; white space counts when `space` is set. -/
  | optional (space : Bool) (cs : List Char)

/-- The text after the item, if the text starts with it. -/
def Item.eat : Item → List Char → Option (List Char)
  | .word w, cs =>
    if (cs.take w.toList.length).map Char.toLower = w.toList then some (cs.drop w.toList.length)
    else none
  | .spaces, cs => some (cs.dropWhile isSpace)
  | .optional space set, cs =>
    match cs with
    | c :: cs' => if c ∈ set ∨ (space ∧ isSpace c) then some cs' else some cs
    | [] => some []

/-- The items match one after the other from the start of the text. -/
def matchHere (items : List Item) (cs : List Char) : Bool :=
  (items.foldl (fun rest item => rest.bind item.eat) (some cs)).isSome

/-- `pattern.test(s)`: one of the alternatives matches somewhere. -/
def test (alternatives : List (List Item)) (s : String) : Bool :=
  alternatives.any fun items => s.toList.tails.any (matchHere items)

/-- `VENDOR_NAME_PATTERNS`. -/
def vendorNamePatterns : List (List (List Item) × String) :=
  [([[.word "avm"], [.word "fritz", .spaces, .optional false ['!'], .spaces, .word "box"],
     [.word "fritzbox"]], "fritzbox"),
   ([[.word "mikrotik"], [.word "routeros"]], "mikrotik"),
   ([[.word "openwrt"], [.word "lede"]], "openwrt"),
   ([[.word "unifi"]], "unifi"),
   ([[.word "edgerouter"], [.word "edgemax"], [.word "edgeos"]], "edgerouter"),
   ([[.word "gl", .optional true ['.', '-'], .word "inet"]], "glinet"),
   ([[.word "omada"]], "tplink_omada"),
   ([[.word "deco"], [.word "archer"], [.word "tp", .optional true ['-'], .word "link"]],
    "tplink_consumer"),
   ([[.word "nebula"]], "zyxel_nebula"),
   ([[.word "zyxel"]], "zyxel_consumer"),
   ([[.word "draytek"], [.word "vigor"]], "draytek"),
   ([[.word "linksys"]], "linksys"),
   ([[.word "keenetic"]], "keenetic"),
   ([[.word "asus"]], "asus"),
   ([[.word "netgear"]], "netgear"),
   ([[.word "d", .optional true ['-'], .word "link"]], "dlink"),
   ([[.word "belkin"]], "belkin"),
   ([[.word "synology"]], "synology"),
   ([[.word "nest", .spaces, .word "wifi"], [.word "google", .spaces, .word "wifi"],
     [.word "onhub"]], "google_nest_wifi"),
   ([[.word "eero"]], "eero"),
   ([[.word "huawei"]], "huawei"),
   ([[.word "cisco"]], "cisco_small_business"),
   ([[.word "buffalo"]], "buffalo"),
   ([[.word "mercusys"]], "mercusys"),
   ([[.word "tenda"]], "tenda"),
   ([[.word "xiaomi"], [.word "mi", .spaces, .word "router"], [.word "redmi"]], "xiaomi"),
   ([[.word "totolink"]], "totolink"),
   ([[.word "sercomm"]], "sercomm"),
   ([[.word "actiontec"]], "actiontec"),
   ([[.word "hitron"]], "hitron"),
   ([[.word "comtrend"]], "comtrend"),
   ([[.word "nokia"]], "nokia_home_gateway"),
   ([[.word "sagemcom"]], "sagemcom"),
   ([[.word "technicolor"]], "technicolor"),
   ([[.word "arris"]], "arris"),
   ([[.word "arcadyan"]], "arcadyan")]

/-- `resolveVendorNameToPluginId`: the first pattern that matches. -/
def resolveVendorNameToPluginId (rawVendorString : Option String) : Option String :=
  match rawVendorString with
  | none => none
  | some s =>
    if s = "" then none
    else (vendorNamePatterns.find? fun p => test p.1 s).map Prod.snd

end RouterDatabase

/-! ### Router commands -/

namespace RouterCommands

/-- `enqueueCommand`. -/
def enqueueCommand (gatewayId : String) (type : RouterCommandType) (payload : Option Json)
    (deviceId : Option String) : Api RouterCommand :=
  Prisma.create .routerCommand fun id now =>
    { id, gatewayId, deviceId, type, payload := payload.map stringify, status := .pending,
      resultData := none, createdAt := now, deliveredAt := none, ackedAt := none }

theorem delivered_id (now : Time) (c : RouterCommand) :
    ({ c with status := .delivered, deliveredAt := some now } : RouterCommand).id = c.id := rfl

/-- `getPendingCommands`. -/
def getPendingCommands (gatewayId : String) : Api (List RouterCommand) := do
  let pending ← Prisma.findManyBy .routerCommand
    (fun c => c.gatewayId = gatewayId && c.status = .pending) fun c c' => c.createdAt ≤ c'.createdAt
  if pending = [] then pure []
  else do
    let now ← newDate
    let _ ← Prisma.updateMany .routerCommand (fun c => c.id ∈ pending.map RouterCommand.id)
      fun c => { c with status := .delivered, deliveredAt := some now }
    pure (pending.map fun c => { c with status := .delivered, deliveredAt := some now })

theorem acknowledged_id (success : Bool) (resultData : Option Json) (now : Time)
    (c : RouterCommand) :
    ({ c with
        status := if success then .acknowledged else .failed
        ackedAt := some now
        resultData := resultData.map stringify } : RouterCommand).id = c.id := rfl

/-- `acknowledgeCommand`. -/
def acknowledgeCommand (gatewayId commandId : String) (success : Bool) (resultData : Option Json) :
    Api RouterCommand := do
  let command ← Prog.orThrow (← Prisma.findUnique .routerCommand commandId)
    (.notFound "Router command not found")
  Prog.require (command.gatewayId = gatewayId) (.forbidden "Not your command")
  let now ← newDate
  Prisma.update .routerCommand commandId fun c =>
    { c with
      status := if success then .acknowledged else .failed
      ackedAt := some now
      resultData := resultData.map stringify }

/-- The answer of `getRouterConnectionInfo`. -/
structure RouterConnection where
  pluginId : Option String
  ipAddress : Option String
  hostname : Option String
  credentials : Option Json

/-- `getRouterConnectionInfo`. -/
def getRouterConnectionInfo (env : Env) (gatewayId : String) : Api (Option RouterConnection) := do
  let router ← Prisma.findUniqueBy .detectedRouter fun r => r.gatewayId = gatewayId
  pure (router.map fun r =>
    { pluginId := r.pluginId, ipAddress := r.ipAddress, hostname := r.hostname,
      credentials := (r.adminCredentialsEncrypted.filter (· ≠ "")).bind env.decryptJson })

end RouterCommands

/-! ### Detection -/

namespace RouterDetection

/-- `RouterDetectionReport`. -/
structure RouterDetectionReport where
  vendor : Option String := none
  model : Option String := none
  firmwareVersion : Option String := none
  detectionMethod : Option RouterDetectionMethod := none
  macOui : Option String := none
  ipAddress : Option String := none
  hostname : Option String := none
  confidence : Option ℤ := none

/-- `recordDetection`. -/
def recordDetection (gatewayId : String) (report : RouterDetectionReport) : Api DetectedRouter := do
  let _ ← Prog.orThrow (← Prisma.findUnique .gateway gatewayId) (.notFound "Gateway not found")
  let pluginId := RouterDatabase.resolveVendorNameToPluginId report.vendor
  let capabilities := pluginId.bind RouterDatabase.getCapabilities
  let integrationStatus := (capabilities.map (·.integrationStatus)).getD .undetected
  let now ← newDate
  Prisma.upsert .detectedRouter (fun r => r.gatewayId = gatewayId)
    (fun r =>
      { r with
        vendor := report.vendor, model := report.model, firmwareVersion := report.firmwareVersion,
        pluginId, integrationStatus, detectionMethod := report.detectionMethod,
        confidence := report.confidence, macOui := report.macOui, ipAddress := report.ipAddress,
        hostname := report.hostname, lastDetectedAt := some now })
    fun id created =>
      { id, gatewayId, vendor := report.vendor, model := report.model,
        firmwareVersion := report.firmwareVersion, pluginId, integrationStatus,
        detectionMethod := report.detectionMethod, confidence := report.confidence,
        macOui := report.macOui, ipAddress := report.ipAddress, hostname := report.hostname,
        adminCredentialsEncrypted := none, lastDetectedAt := some now, lastTestedAt := none,
        lastTestResult := none, createdAt := created, updatedAt := created }

end RouterDetection

/-! ### Smart block engine -/

namespace SmartBlock

open RouterDatabase

/-- The enumeration value as the payloads spell it. -/
def typeName : RouterCommandType → String
  | .detect => "DETECT"
  | .testConnection => "TEST_CONNECTION"
  | .changeDns => "CHANGE_DNS"
  | .pauseDevice => "PAUSE_DEVICE"
  | .resumeDevice => "RESUME_DEVICE"
  | .disconnectClient => "DISCONNECT_CLIENT"
  | .applyFirewallRule => "APPLY_FIREWALL_RULE"
  | .removeFirewallRule => "REMOVE_FIREWALL_RULE"
  | .blockMac => "BLOCK_MAC"
  | .unblockMac => "UNBLOCK_MAC"
  | .endGamingSession => "END_GAMING_SESSION"
  | .blockDevice => "BLOCK_DEVICE"
  | .unblockDevice => "UNBLOCK_DEVICE"

/-- A strategy and the capability flag it needs. -/
abbrev Strategy : Type := RouterCommandType × (RouterCapabilities → Bool)

/-- `STRATEGY_PRIORITY`. -/
def strategyPriority : List Strategy :=
  [(.disconnectClient, (·.supportsClientDisconnect)), (.pauseDevice, (·.supportsPauseDevice)),
   (.applyFirewallRule, (·.supportsFirewallRules)), (.blockMac, (·.supportsMACFiltering)),
   (.changeDns, (·.supportsDNSChange))]

/-- `BLOCK_STRATEGY_PRIORITY`. -/
def blockStrategyPriority : List Strategy :=
  [(.pauseDevice, (·.supportsPauseDevice)), (.applyFirewallRule, (·.supportsFirewallRules)),
   (.blockMac, (·.supportsMACFiltering))]

/-- `CapabilityEngineService.isSupported`. -/
def isSupported (pluginId : Option String) (flag : RouterCapabilities → Bool) : Bool :=
  match pluginId.filter (· ≠ "") with
  | none => false
  | some p => (getCapabilities p).any flag

/-- What `enqueueStrategyCommand` reports. -/
structure Outcome where
  enqueued : Bool
  commandId : Option String
  strategies : List RouterCommandType
  reason : Option String
deriving DecidableEq

/-- `logFallbackAudit`. -/
def logFallbackAudit (gatewayId deviceId : String) (requestedAction : RouterCommandType)
    (attempts : List (RouterCommandType × Bool)) (chosen : Option RouterCommandType)
    (outcome : String) (reason : Option String) : Api Unit :=
  Audit.log
    { action := "enforcement_engine.capability_fallback"
      entity := "device"
      entityId := some deviceId
      details := some (stringify (.obj
        [("gatewayId", .str gatewayId), ("requestedAction", .str (typeName requestedAction)),
         ("attempts", .arr (attempts.map fun a =>
            .str (typeName a.1 ++ ":" ++ (if a.2 then "supported" else "unavailable")))),
         ("chosen", strOrNull (chosen.map typeName)), ("outcome", .str outcome),
         ("reason", strOrNull reason)])) }

/-- `enqueueStrategyCommand`. -/
def enqueueStrategyCommand (gatewayId deviceId : String) (commandType : RouterCommandType)
    (priority : List Strategy) : Api Outcome := do
  let router ← Prisma.findUniqueBy .detectedRouter fun r => r.gatewayId = gatewayId
  let pluginId := router.bind DetectedRouter.pluginId
  let attempts := priority.map fun s => (s.1, isSupported pluginId s.2)
  let strategies := (attempts.filter Prod.snd).map Prod.fst
  if strategies = [] then do
    let reason :=
      if (pluginId.filter (· ≠ "")).isSome then
        "This router has no supported control strategy (Guide Only) — see Supported Features " ++
          "for manual instructions."
      else "No router has been detected on this gateway yet."
    logFallbackAudit gatewayId deviceId commandType attempts none "UNSUPPORTED" (some reason)
    pure ⟨false, none, [], some reason⟩
  else do
    let command ← RouterCommands.enqueueCommand gatewayId commandType
      (some (.obj [("deviceId", .str deviceId),
        ("strategies", .arr (strategies.map fun t => .str (typeName t)))])) (some deviceId)
    logFallbackAudit gatewayId deviceId commandType attempts strategies.head? "EXECUTED" none
    pure ⟨true, some command.id, strategies, none⟩

/-- `syncBlockToRouter`. -/
def syncBlockToRouter (gatewayId deviceId : String) : Api Outcome :=
  enqueueStrategyCommand gatewayId deviceId .blockDevice blockStrategyPriority

/-- `syncUnblockToRouter`. -/
def syncUnblockToRouter (gatewayId deviceId : String) : Api Outcome :=
  enqueueStrategyCommand gatewayId deviceId .unblockDevice blockStrategyPriority

/-- `endGamingSession`. -/
def endGamingSession (parentId gatewayId deviceId : String) : Api Outcome := do
  let gateway ← Prog.orThrow (← Prisma.findUnique .gateway gatewayId)
    (.notFound "Gateway not found")
  Prog.require (gateway.parentId = parentId) (.forbidden "Not your gateway")
  enqueueStrategyCommand gatewayId deviceId .endGamingSession strategyPriority

end SmartBlock

end GuardTime.Services
