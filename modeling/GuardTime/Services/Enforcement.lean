import Mathlib.Tactic
import GuardTime.Services.Router
import GuardTime.Services.Devices

/-! # Enforcement

The control adapters, the delivery queue and `EnforcementService`. -/

namespace GuardTime.Services

open GuardTime.Lib.Program GuardTime.Lib.Js GuardTime.Schema GuardTime.Server GuardTime.Prisma

/-! ### Delivery queue -/

namespace CommandQueue

/-- `CommandQueueService.enqueueCommand`. -/
def enqueueCommand (data : CommandJobData) : Api Unit :=
  Prog.write fun w => { w with commandQueue := w.commandQueue ++ [data] }

/-- `CommandQueueProcessor.process`: one attempt at one job. -/
def process (data : CommandJobData) : Api Unit := do
  match ← Prisma.findUnique .device data.deviceId with
  | none => pure ()
  | some device => do
    Prog.require (device.status ≠ .offline)
      (.error ("Device " ++ data.deviceId ++ " is offline"))
    let now ← newDate
    let _ ← Prisma.update .command data.commandId
      (fun c => { c with status := .delivered, deliveredAt := some now })
      (ChildAgent.delivered_id now)
    pure ()

end CommandQueue

/-! ### Adapters -/

namespace Adapters

/-- `ControlResult`; absent `data` is empty. -/
structure ControlResult where
  success : Bool
  message : String
  data : List (String × Json) := []

/-- `result.data?.offlineLimitation` is truthy. -/
def ControlResult.offlineLimitation (r : ControlResult) : Bool :=
  match r.data.lookup "offlineLimitation" with
  | some (.bool b) => b
  | _ => false

/-- `AndroidAgentAdapter.createCommand`. -/
def createCommand (device : Device) (type : CommandType) (payload : String) : Api Command := do
  let command ← Prisma.create .command fun id now =>
    { id, deviceId := device.id, type, payload := some payload, status := .pending,
      deliveredAt := none, ackedAt := none, createdAt := now }
  CommandQueue.enqueueCommand
    ⟨command.id, device.id, type, payload, device.controlMethod⟩
  pure command

/-- `IosScreenTimeAdapter.createCommand`. -/
def createIosCommand (deviceId : String) (type : CommandType) (payload : String) : Api Command :=
  Prisma.create .command fun id now =>
    { id, deviceId, type, payload := some payload, status := .pending, deliveredAt := none,
      ackedAt := none, createdAt := now }

/-- `UNSUPPORTED_MESSAGE` of the iOS adapter. -/
def unsupportedMessage : String :=
  "iOS enforcement is not available yet — it requires an Apple Family Controls entitlement " ++
    "and a native iOS agent that do not exist in this deployment. The action was not applied " ++
    "to the device."

/-- `XboxAdapter.fallbackToGateway`. -/
def fallbackToGateway (device : Device) (action : String) : ControlResult :=
  match truthy device.gatewayId with
  | some g =>
    ⟨true, "No Microsoft OAuth linked. Falling back to network gateway for " ++ action ++ ".",
      [("fallback", .bool true), ("method", .str "NETWORK_GATEWAY"), ("gatewayId", .str g)]⟩
  | none =>
    ⟨false, "No Microsoft OAuth linked and no gateway configured. Cannot enforce " ++ action ++
      " on Xbox.", [("fallback", .bool true), ("method", .null)]⟩

/-- An Xbox action: stored when a Microsoft account is linked, else left to the gateway. -/
def viaXbox (device : Device) (action stored : String) : Api ControlResult := do
  let oauth ← Prisma.findFirst .oAuthAccount fun a =>
    a.userId = device.parentId && a.provider = "microsoft"
  match oauth with
  | none => pure (fallbackToGateway device action)
  | some _ => pure ⟨true, stored, []⟩

/-- A gateway action, which needs a gateway. -/
def viaGateway (device : Device) (message : String) (data : List (String × Json)) :
    ControlResult :=
  match truthy device.gatewayId with
  | some _ => ⟨true, message, data⟩
  | none => ⟨false, "No gateway assigned to device", []⟩

/-- The adapter's `blockDevice`; methods without an adapter use the mock. -/
def blockDevice (device : Device) (reason : String) : Api ControlResult :=
  match device.controlMethod with
  | .androidAgent => do
    let _ ← createCommand device .lockDevice (stringify (.obj [("reason", .str reason)]))
    pure ⟨true, "Block command queued for Android agent", []⟩
  | .iosScreenTime => do
    let _ ← createIosCommand device.id .blockApps (stringify (.obj [("reason", .str reason)]))
    pure ⟨false, unsupportedMessage, []⟩
  | .xboxAdapter => viaXbox device "blockDevice"
      "Xbox block stored. Direct enforcement depends on Microsoft Family Safety API."
  | .networkGateway => pure (viaGateway device
      ("Device blocked via network gateway. Online access blocked. Offline games cannot be " ++
         "killed directly.")
      [("offlineLimitation", .bool true), ("reason", .str reason)])
  | _ => pure ⟨true, "[MOCK] Device " ++ device.id ++ " blocked: " ++ reason, []⟩

/-- The adapter's `unblockDevice`. -/
def unblockDevice (device : Device) : Api ControlResult :=
  match device.controlMethod with
  | .androidAgent => do
    let _ ← createCommand device .unblockApps (stringify (.obj [("action", .str "unblock")]))
    pure ⟨true, "Unblock command queued for Android agent", []⟩
  | .iosScreenTime => do
    let _ ← createIosCommand device.id .unblockApps (stringify (.obj [("action", .str "unblock")]))
    pure ⟨false, unsupportedMessage, []⟩
  | .xboxAdapter => viaXbox device "unblockDevice"
      "Xbox unblock stored. Direct enforcement depends on Microsoft Family Safety API."
  | .networkGateway => pure (viaGateway device
      "Device unblocked via network gateway. Online access restored." [])
  | _ => pure ⟨true, "[MOCK] Device " ++ device.id ++ " unblocked", []⟩

/-- The adapter's `stopSession`. -/
def stopSession (device : Device) : Api ControlResult :=
  match device.controlMethod with
  | .androidAgent => do
    let _ ← createCommand device .unblockApps (stringify (.obj [("action", .str "stop_session")]))
    pure ⟨true, "Session stopped: commands queued for Android agent", []⟩
  | .iosScreenTime => do
    let _ ← createIosCommand device.id .syncRules
      (stringify (.obj [("action", .str "stop_session")]))
    pure ⟨false, unsupportedMessage, []⟩
  | .xboxAdapter => viaXbox device "stopSession"
      "Xbox stop session stored. Direct control depends on Microsoft API availability."
  | .networkGateway => pure (viaGateway device
      ("Session stopped via network gateway. Internet blocked. NOTE: Cannot kill offline " ++
         "games directly.")
      [("offlineLimitation", .bool true)])
  | _ => pure ⟨true, "[MOCK] Session stopped for device " ++ device.id, []⟩

/-- `isOfflineGameUnsupported`. -/
def isOfflineGameUnsupported (device : Device) : Bool :=
  device.type ∈ [.playstation, .smartTv, .streamingBox, .other]

end Adapters

/-! ### Enforcement -/

namespace Enforcement

open Adapters

/-- The answer of `syncToRouter` as the caller reports it. -/
def routerSyncJson (attempted : Bool) (o : SmartBlock.Outcome) : Json :=
  .obj [("attempted", .bool attempted), ("enqueued", .bool o.enqueued),
    ("commandId", strOrNull o.commandId),
    ("strategies", .arr (o.strategies.map fun t => .str (SmartBlock.typeName t))),
    ("reason", strOrNull o.reason)]

/-- `syncToRouter`; `sync` is the engine's block or unblock. -/
def syncToRouter (device : Device) (sync : String → String → Api SmartBlock.Outcome) : Api Json :=
  match truthy device.gatewayId with
  | none => pure (routerSyncJson false ⟨false, none, [], some "device has no gateway"⟩)
  | some gatewayId =>
    (do
      let outcome ← sync gatewayId device.id
      pure (routerSyncJson true outcome)).catchErr
      fun err => pure (routerSyncJson true ⟨false, none, [], some err.message⟩)

/-- What `blockDevice` and `unblockDevice` do once the adapter has succeeded. -/
def settle (device : Device) (parentId : Option String) (status : DeviceStatus)
    (action : String) (details : Option String)
    (sync : String → String → Api SmartBlock.Outcome) (result : ControlResult) :
    Api ControlResult := do
  let _ ← Prisma.update .device device.id fun d => { d with status := status }
  DnsPolicy.invalidateSourceIps [device.ipAddress, device.dnsSourceIp, device.ipv6Address]
  Audit.log { userId := parentId, action, entity := "device", entityId := some device.id, details }
  let routerSync ← syncToRouter device sync
  pure { result with data := result.data ++ [("routerSync", routerSync)] }

/-- The device, if it exists and the caller, when there is one, owns it. -/
def findDevice (deviceId : String) (parentId : Option String) : Api Device := do
  let device ← Prog.orThrow (← Prisma.findUnique .device deviceId) (.notFound "Device not found")
  Prog.require (∀ p ∈ truthy parentId, device.parentId = p) (.forbidden "Not your device")
  pure device

theorem findDevice_ok {id : String} {parentId : Option String} {w : World} {d : Device}
    (h : ((findDevice id parentId).run w).1 = .ok d) :
    w.db.devices.find id = some d := by
  have hr : (findDevice id parentId).run w = (.ok d, ((findDevice id parentId).run w).2) :=
    Prod.ext h rfl
  exact (run_checked_ok hr).1

/-- `blockDevice`. -/
def blockDevice (deviceId reason : String) (parentId : Option String) : Api ControlResult := do
  let device ← findDevice deviceId parentId
  let result ← Adapters.blockDevice device reason
  if result.success then
    settle device parentId .blocked "device.block" (some reason) SmartBlock.syncBlockToRouter result
  else pure result

/-- `unblockDevice`. -/
def unblockDevice (deviceId : String) (parentId : Option String) : Api ControlResult := do
  let device ← findDevice deviceId parentId
  let result ← Adapters.unblockDevice device
  if result.success then
    settle device parentId .online "device.unblock" none SmartBlock.syncUnblockToRouter result
  else pure result

/-- `handleOfflineViolation`. -/
def handleOfflineViolation (device : Device) : Api ControlResult := do
  let _ ← stopSession device
  if isOfflineGameUnsupported device then do
    Prog.when (truthy device.gatewayId).isSome do
      let _ ← blockDevice device.id "Session expired - offline game violation" none
      pure ()
    pure
      { success := true
        message := "Session expired, internet blocked via gateway. Cannot kill offline game " ++
          "directly. Parent notified."
        data := [("offlineLimitation", .bool true), ("actions", .arr
          [.str "expire_session", .str "block_internet_via_gateway",
           .str "prevent_future_online_access", .str "apply_cooldown", .str "notify_parent",
           .str "mark_session_violated"])] }
  else blockDevice device.id "Session expired" none

end Enforcement

/-! ### What it leaves alone -/

/-- The property survives notices and queued commands. -/
structure CommandSafe (I : World → Prop) : Prop extends NoticeSafe I where
  command : Free .command I
  queue : ∀ w q, I w → I { w with commandQueue := q }

namespace CommandSafe

open Adapters

variable {I : World → Prop} (h : CommandSafe I)
include h

theorem createCommand (device : Device) (type : CommandType) (payload : String) :
    Prog.Keeps I (Adapters.createCommand device type payload) :=
  (h.command.create h.steady _).bind fun _ =>
    .bind (.write fun w hw => h.queue w _ hw) fun _ => .pure _

theorem viaXbox (device : Device) (action stored : String) :
    Prog.Keeps I (Adapters.viaXbox device action stored) := by
  refine .bind (keeps_query h.steady _) fun oauth => ?_
  cases oauth <;> exact .pure _

/-- The three adapter operations have one shape: a command, or nothing. -/
theorem adapterBlock (device : Device) (reason : String) :
    Prog.Keeps I (Adapters.blockDevice device reason) := by
  unfold Adapters.blockDevice
  split
  · exact (h.createCommand _ _ _).bind fun _ => .pure _
  · exact (h.command.create h.steady _).bind fun _ => .pure _
  · exact h.viaXbox _ _ _
  · exact .pure _
  · exact .pure _

theorem adapterUnblock (device : Device) : Prog.Keeps I (Adapters.unblockDevice device) := by
  unfold Adapters.unblockDevice
  split
  · exact (h.createCommand _ _ _).bind fun _ => .pure _
  · exact (h.command.create h.steady _).bind fun _ => .pure _
  · exact h.viaXbox _ _ _
  · exact .pure _
  · exact .pure _

theorem adapterStop (device : Device) : Prog.Keeps I (Adapters.stopSession device) := by
  unfold Adapters.stopSession
  split
  · exact (h.createCommand _ _ _).bind fun _ => .pure _
  · exact (h.command.create h.steady _).bind fun _ => .pure _
  · exact h.viaXbox _ _ _
  · exact .pure _
  · exact .pure _

theorem findDevice (deviceId : String) (parentId : Option String) :
    Prog.Keeps I (Enforcement.findDevice deviceId parentId) :=
  .bind (keeps_query h.steady _) fun _ => .bind (.orThrow _ _) fun _ =>
    .bind (.require _ _) fun _ => .pure _

end CommandSafe

/-- The property survives what the adapters write: notices, queued commands and router commands. -/
structure AdapterSafe (I : World → Prop) : Prop extends CommandSafe I where
  routerCommand : Free .routerCommand I

namespace AdapterSafe

variable {I : World → Prop} (h : AdapterSafe I)
include h

theorem enqueueStrategyCommand (gatewayId deviceId : String) (type : RouterCommandType)
    (priority : List SmartBlock.Strategy) :
    Prog.Keeps I (SmartBlock.enqueueStrategyCommand gatewayId deviceId type priority) :=
  .bind (keeps_query h.steady _) fun _ =>
    .ite (fun _ => (h.log _).bind fun _ => .pure _) fun _ =>
      (h.routerCommand.create h.steady _).bind fun _ => (h.log _).bind fun _ => .pure _

end AdapterSafe

/-- The property survives enforcement, where router commands are for the devices of `K`, among them
all that can be found. -/
structure Relays (I : World → Prop) (K : Device → Prop) : Prop extends CommandSafe I where
  status : ∀ id status, Prog.Keeps I (Prisma.update .device id fun d => { d with status := status })
  invalidate : ∀ ips, Prog.Keeps I (DnsPolicy.invalidateSourceIps ips)
  found : ∀ w, I w → ∀ d ∈ w.db.devices.rows, K d
  relay : ∀ d, K d → ∀ g, truthy d.gatewayId = some g → ∀ type priority,
    Prog.Keeps I (SmartBlock.enqueueStrategyCommand g d.id type priority)

namespace Relays

open Adapters Enforcement

variable {I : World → Prop} {K : Device → Prop} (h : Relays I K)

theorem syncToRouter {device : Device} {sync : String → String → Api SmartBlock.Outcome}
    (hs : ∀ g, truthy device.gatewayId = some g → Prog.Keeps I (sync g device.id)) :
    Prog.Keeps I (Enforcement.syncToRouter device sync) := by
  unfold Enforcement.syncToRouter
  split
  · exact .pure _
  · rename_i g hg
    exact .catchErr ((hs g hg).bind fun _ => .pure _) fun _ => .pure _

include h

theorem settle {device : Device} (parentId : Option String) (status : DeviceStatus)
    (action : String) (details : Option String) (result : ControlResult)
    {sync : String → String → Api SmartBlock.Outcome}
    (hs : ∀ g, truthy device.gatewayId = some g → Prog.Keeps I (sync g device.id)) :
    Prog.Keeps I (Enforcement.settle device parentId status action details sync result) :=
  (h.status _ _).bind fun _ => (h.invalidate _).bind fun _ => (h.log _).bind fun _ =>
    (syncToRouter hs).bind fun _ => .pure _

/-- What follows a lookup is for a device that has been found. -/
theorem findBind {α : Type} {f : Device → Api α} (hf : ∀ d, K d → Prog.Keeps I (f d))
    (deviceId : String) (parentId : Option String) :
    Prog.Keeps I (Enforcement.findDevice deviceId parentId >>= f) := by
  refine .bindOf (P := K) (h.findDevice deviceId parentId) (fun w hw d hd => ?_) hf
  exact h.found w hw d (Lib.Keyed.Table.mem_of_find (Enforcement.findDevice_ok hd))

theorem blockDevice (deviceId reason : String) (parentId : Option String) :
    Prog.Keeps I (Enforcement.blockDevice deviceId reason parentId) :=
  h.findBind (fun device hdevice => (h.adapterBlock device reason).bind fun result =>
    .ite (fun _ => h.settle parentId _ _ _ result fun g hg => h.relay device hdevice g hg _ _)
      fun _ => .pure _) _ _

theorem unblockDevice (deviceId : String) (parentId : Option String) :
    Prog.Keeps I (Enforcement.unblockDevice deviceId parentId) :=
  h.findBind (fun device hdevice => (h.adapterUnblock device).bind fun result =>
    .ite (fun _ => h.settle parentId _ _ _ result fun g hg => h.relay device hdevice g hg _ _)
      fun _ => .pure _) _ _

theorem handleOfflineViolation (device : Device) :
    Prog.Keeps I (Enforcement.handleOfflineViolation device) :=
  (h.adapterStop device).bind fun _ =>
    .ite (fun _ => .bind (.when fun _ => (h.blockDevice _ _ _).bind fun _ => .pure _)
      fun _ => .pure _) fun _ => h.blockDevice _ _ _

end Relays

/-- The property also survives changes of the status of devices and of cache versions. -/
structure EnforcementSafe (I : World → Prop) : Prop extends AdapterSafe I where
  status : ∀ id status, Prog.Keeps I (Prisma.update .device id fun d => { d with status := status })
  invalidate : ∀ ips, Prog.Keeps I (DnsPolicy.invalidateSourceIps ips)

theorem EnforcementSafe.relays {I : World → Prop} (h : EnforcementSafe I) :
    Relays I fun _ => True where
  toCommandSafe := h.toCommandSafe
  status := h.status
  invalidate := h.invalidate
  found _ _ _ _ := trivial
  relay d _ g _ := h.enqueueStrategyCommand g d.id

end GuardTime.Services
