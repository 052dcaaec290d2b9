import Mathlib.Tactic
import GuardTime.Columns
import GuardTime.Services.Listings
import GuardTime.Services.Gateway
import GuardTime.Household

/-! # Beacon tokens

`Device.dnsBeaconToken` in two runs: databases that differ in this column only, and the operations
on devices outside pairing. `DevicesService` redacts its answers, and the other operations that show
single columns do not show this one; the operations that return whole rows of devices do
(`beacon_hidden_iff`). -/

namespace GuardTime.Secrets.Beacon

open GuardTime.Lib.Program GuardTime.Lib.Js GuardTime.Lib.Keyed GuardTime.Schema GuardTime.Server
open GuardTime.Prisma GuardTime.Columns GuardTime.Columns.Column GuardTime.Services

/-! ### The column and the operations -/

theorem holds_devices (l : Link) (db : Database) (t t' : Table Device.id)
    (h : t.rows.map Devices.redact = t'.rows.map Devices.redact) :
    l.holds (Model.device.set db t) = l.holds (Model.device.set db t') := by
  cases l with
  | device id =>
    change (t.find id).isSome = (t'.find id).isSome
    have hfind : ∀ l : List Device, (l.find? fun d => d.id = id).isSome =
        ((l.map Devices.redact).find? fun d => d.id = id).isSome := fun l => by
      rw [List.find?_map, Option.isSome_map]
      rfl
    rw [Table.find, Table.find, hfind, hfind t'.rows, h]
  | _ => rfl

/-- The column. -/
def beacon : Column .device where
  hide := Devices.redact
  holds := holds_devices

/-- What a parent, a gateway or a child agent asks for outside pairing. -/
inductive Operation where
  | createDevice (parentId : String) (dto : Devices.CreateDeviceDto)
  | findAllDevices (parentId : String)
  | findOneDevice (parentId id : String)
  | updateDevice (parentId id : String) (dto : Devices.UpdateDeviceDto)
  | removeDevice (parentId id : String)
  | lockInternet (parentId id : String) (reason : Option String)
  | unlockInternet (parentId id : String)
  | getNetworkStatus (parentId id : String)
  | findAllChildren (parentId : String)
  | findOneChild (parentId id : String)
  | getActiveSessions (parentId : String)
  | getHistory (parentId : String)
  | upsertSchedule (parentId deviceId : String) (dto : Protection.UpsertScheduleDto)
  | setSetupStatus (parentId deviceId : String) (dto : OfflineControl.SetSetupStatusDto)
  | getDiscoveredDevices (gatewayId : String)
  | getStatus (gatewayId : String)
  | getPolicies (gatewayId : String) (usedPreviousToken : Bool) (agentVersion : Option String)
  | updateDiscoveredDevices (gatewayId : String) (devices : List Gateways.DiscoveredDevice)
  | registerDevice (parentId : String) (dto : ChildAgent.RegisterDeviceDto)

/-- The answers. -/
inductive Answer where
  | device (d : Device)
  | payload (p : Devices.Payload)
  | payloads (ps : List Devices.Payload)
  | done
  | supported (x : Device × Devices.PlatformSupport)
  | networkStatus (s : Devices.NetworkStatus)
  | children (cs : List (Child × List Device))
  | child (c : Children.ChildDetails)
  | sessions (ss : List Sessions.SessionDetails)
  | devices (ds : List Device)
  | status (s : Gateways.Status)
  | policies (p : Gateways.Policies)
  | updated (n : ℕ)

/-- What the services do. -/
def prog (env : Env) : Operation → Api Answer
  | .createDevice p dto => do
    let d ← Devices.create p dto
    pure (.device d)
  | .findAllDevices p => do
    let ps ← Devices.findAll p
    pure (.payloads ps)
  | .findOneDevice p id => do
    let x ← Devices.findPayload p id
    pure (.payload x)
  | .updateDevice p id dto => do
    let d ← Devices.update p id dto
    pure (.device d)
  | .removeDevice p id => do
    Devices.remove p id
    pure .done
  | .lockInternet p id reason => do
    let x ← Devices.lockInternet p id reason
    pure (.supported x)
  | .unlockInternet p id => do
    let x ← Devices.unlockInternet p id
    pure (.supported x)
  | .getNetworkStatus p id => do
    let s ← Devices.getNetworkStatus p id
    pure (.networkStatus s)
  | .findAllChildren p => do
    let cs ← Children.findAll p
    pure (.children cs)
  | .findOneChild p id => do
    let c ← Children.findDetails p id
    pure (.child c)
  | .getActiveSessions p => do
    let ss ← Sessions.getActiveSessions p
    pure (.sessions ss)
  | .getHistory p => do
    let ss ← Sessions.getHistory p
    pure (.sessions ss)
  | .upsertSchedule p d dto => do
    let d ← Protection.upsertSchedule p d dto
    pure (.device d)
  | .setSetupStatus p d dto => do
    let d ← OfflineControl.setSetupStatus p d dto
    pure (.device d)
  | .getDiscoveredDevices g => do
    let ds ← Gateways.getDiscoveredDevices g
    pure (.devices ds)
  | .getStatus g => do
    let s ← Gateways.getStatus g
    pure (.status s)
  | .getPolicies g used version => do
    let p ← Gateways.getPolicies env g used version
    pure (.policies p)
  | .updateDiscoveredDevices g devices => do
    let n ← Gateways.updateDiscoveredDevices env g devices
    pure (.updated n)
  | .registerDevice p dto => do
    let d ← ChildAgent.registerDevice p dto
    pure (.device d)

/-- Worlds that differ in the column only give the same answer. -/
def Hidden (env : Env) (op : Operation) : Prop :=
  ∀ w w', beacon.Differ w w' → ((prog env op).run w).1 = ((prog env op).run w').1

/-- The operations that return rows of devices; a schedule that the client refuses is not one of
them. -/
def Discloses : Operation → Prop
  | .findAllChildren _ => True
  | .findOneChild _ _ => True
  | .getActiveSessions _ => True
  | .getHistory _ => True
  | .upsertSchedule _ _ dto => dto.autoBlockEnabled ≠ some none
  | .setSetupStatus _ _ _ => True
  | .getDiscoveredDevices _ => True
  | _ => False

/-! ### Operations that do not show the column -/

section Respects
variable {α : Type}

theorem apart_gateway : Apart .device .gateway where

theorem apart_bandwidthLimit : Apart .device .bandwidthLimit where

/-- The device is looked up, and what follows does not look at its token. -/
theorem respects_findOne (p id : String) {f : Device → Api α}
    (hf : ∀ d, f (Devices.redact d) = f d) (hr : ∀ d, Prog.Respects beacon.Differ (f d)) :
    Prog.Respects beacon.Differ (Devices.findOne p id >>= f) := by
  have hfind : Devices.findOne p id >>= f = (Prisma.findUnique .device id >>= fun o =>
      Prog.orThrow o (.notFound "Device not found") >>= fun d =>
        Prog.require (d.parentId = p) (.forbidden "Not your device") >>= fun _ => f d) := by
    rw [Devices.findOne]
    simp only [Prog.bind_assoc]
    rfl
  rw [hfind]
  refine Prog.RespectsTo.bind (respectsTo_findUnique id) (fun o o' ho => ?_) fun o =>
    .bind (.orThrow _ _) fun d => .bind (.require _ _) fun _ => hr d
  have hshow : ∀ o : Option Device,
      (Prog.orThrow (o.map Devices.redact) (.notFound "Device not found") >>= fun d =>
        Prog.require (d.parentId = p) (.forbidden "Not your device") >>= fun _ => f d : Api α) =
      (Prog.orThrow o (.notFound "Device not found") >>= fun d =>
        Prog.require (d.parentId = p) (.forbidden "Not your device") >>= fun _ => f d) := by
    intro o
    rcases o with _ | d
    · rfl
    · change Prog.require (d.parentId = p) _ >>= (fun _ => f (Devices.redact d)) = _
      rw [hf]
      rfl
  have hmap : o.map Devices.redact = o'.map Devices.redact := ho
  rw [← hshow o, hmap, hshow]

theorem respects_updateDevice {f : Device → Device} {hf : ∀ d, (f d).id = d.id}
    (hhide : ∀ now d, Devices.redact (Model.device.touch now (f (Devices.redact d))) =
      Devices.redact (Model.device.touch now (f d)))
    (hu : ∀ d, (f d).dnsBeaconToken = d.dnsBeaconToken)
    (hl : ∀ d, Model.device.links (f (Devices.redact d)) = Model.device.links (f d)) (k : String)
    {g : Device → Api α} (hg : ∀ d, g (Devices.redact d) = g d)
    (hr : ∀ d, Prog.Respects beacon.Differ (g d)) :
    Prog.Respects beacon.Differ (Prisma.update .device k f hf >>= g) := by
  have hupdate : Prog.RespectsTo Devices.redact beacon.Differ (Prisma.update .device k f hf) :=
    respectsTo_update (c := beacon) hhide
      (fun d => by simp only [Model.device, hu]) (fun _ => rfl) hl k
  refine hupdate.bind (fun d d' hd => ?_) hr
  rw [← hg d, hd, hg]

theorem respects_invalidate (ips : List (Option String)) :
    Prog.Respects beacon.Differ (DnsPolicy.invalidateSourceIps ips) := by
  refine .forEach ips fun ip _ => ?_
  unfold DnsPolicy.invalidateSourceIp
  split
  · exact .pure _
  · split_ifs
    · exact .pure _
    · refine .bind (.bind (respects_read fun _ _ => rfl) fun _ => .pure _) fun _ =>
        respects_cacheSet _ _ _

/-- Devices are made without a token. -/
theorem respects_createDevice {mk : String → Time → Device}
    (h : ∀ id now, (mk id now).dnsBeaconToken = none) :
    Prog.Respects beacon.Differ (Prisma.create .device mk) := by
  refine respects_createSelf fun id now u hu => ?_
  simp [Model.device, h] at hu

theorem respects_update (p id : String) (dto : Devices.UpdateDeviceDto) :
    Prog.Respects beacon.Differ (Devices.update p id dto) := by
  refine respects_findOne p id (fun _ => rfl) fun _ => .bind (.require _ _) fun _ => ?_
  refine respects_updateDevice ?_ ?_ ?_ id ?_ fun _ => .pure _
  · intro now d
    rfl
  · intro d
    rfl
  · intro d
    rfl
  · intro d
    rfl

theorem respects_remove (p id : String) : Prog.Respects beacon.Differ (Devices.remove p id) :=
  respects_findOne p id (fun _ => rfl) fun _ => respects_deleteSelf (fun _ _ _ => rfl) id

theorem respects_lockInternet (p id : String) (reason : Option String) :
    Prog.Respects beacon.Differ (Devices.lockInternet p id reason) := by
  refine respects_findOne p id (fun _ => rfl) fun _ => .bind respects_newDate fun now => ?_
  refine respects_updateDevice ?_ ?_ ?_ id ?_ fun _ =>
    .bind (respects_invalidate _) fun _ => .pure _
  · intro now d
    rfl
  · intro d
    rfl
  · intro d
    rfl
  · intro d
    rfl

theorem respects_unlockInternet (p id : String) :
    Prog.Respects beacon.Differ (Devices.unlockInternet p id) := by
  refine respects_findOne p id (fun _ => rfl) fun _ => ?_
  refine respects_updateDevice ?_ ?_ ?_ id ?_ fun _ =>
    .bind (respects_invalidate _) fun _ => .pure _
  · intro now d
    rfl
  · intro d
    rfl
  · intro d
    rfl
  · intro d
    rfl

theorem respects_getNetworkStatus (p id : String) :
    Prog.Respects beacon.Differ (Devices.getNetworkStatus p id) :=
  respects_findOne p id (fun _ => rfl) fun _ => .pure _

theorem respects_findAll (p : String) : Prog.Respects beacon.Differ (Devices.findAll p) := by
  have hquery : Prog.RespectsTo (List.map Devices.payload) beacon.Differ
      (Prisma.query fun db n => (matching .device db n fun d => d.parentId = p).map
        fun d => (d, d.childId.bind db.children.find)) := by
    refine respectsTo_query fun db t t' n hs => ?_
    have hrows := hs.matching (p := fun d => d.parentId = p) (fun _ => rfl) db n
    have hmap : ∀ l : List Device,
        (l.map fun d => (d, d.childId.bind db.children.find)).map Devices.payload =
          (l.map Devices.redact).map
            fun d => Devices.payload (d, d.childId.bind db.children.find) := by
      intro l
      rw [List.map_map, List.map_map]
      rfl
    have hrows' : (matching .device (Model.device.set db t) n fun d => d.parentId = p).map
        Devices.redact = (matching .device (Model.device.set db t') n fun d => d.parentId = p).map
        Devices.redact := hrows
    exact (hmap _).trans ((congrArg _ hrows').trans (hmap _).symm)
  refine hquery.bind (fun ds ds' hds => ?_) fun _ => .pure _
  rw [hds]

theorem respects_findPayload (p id : String) :
    Prog.Respects beacon.Differ (Devices.findPayload p id) := by
  have hquery : Prog.RespectsTo (Option.map Devices.payload) beacon.Differ
      (Prisma.query fun db _ => (db.devices.find id).map fun d =>
        (d, d.childId.bind db.children.find)) := by
    refine respectsTo_query fun db t t' n hs => ?_
    have hrow : (t.find id).map Devices.redact = (t'.find id).map Devices.redact := hs.find id
    have hmap : ∀ o : Option Device,
        (o.map fun d => (d, d.childId.bind db.children.find)).map Devices.payload =
          (o.map Devices.redact).map
            fun d => Devices.payload (d, d.childId.bind db.children.find) := by
      intro o
      rcases o with _ | d <;> rfl
    exact (hmap _).trans ((congrArg _ hrow).trans (hmap _).symm)
  refine hquery.bind (fun o o' ho => ?_) fun o => .bind (.orThrow _ _) fun x =>
    .bind (.require _ _) fun _ => .pure _
  have hshow : ∀ o : Option (Device × Option Child),
      (Prog.orThrow o (.notFound "Device not found") >>= fun x =>
        Prog.require (x.1.parentId = p) (.forbidden "Not your device") >>= fun _ =>
          pure (Devices.payload x) : Api Devices.Payload) =
      (Prog.orThrow (o.map Devices.payload) (.notFound "Device not found") >>= fun x =>
        Prog.require (x.device.parentId = p) (.forbidden "Not your device") >>= fun _ =>
          pure x) := by
    intro o
    rcases o with _ | x <;> rfl
  rw [hshow o, ho, hshow]

/-! ### Gateways -/

/-- The gateway and its devices, as rows without tokens. -/
def redactAll (x : Gateway × List Device) : Gateway × List Device :=
  (x.1, x.2.map Devices.redact)

theorem respectsTo_findWithDevices (g : String) :
    Prog.RespectsTo redactAll beacon.Differ (Gateways.findWithDevices g) := by
  have hquery : Prog.RespectsTo (Option.map redactAll) beacon.Differ
      (Prisma.query fun db n => (db.gateways.find g).map fun x =>
        (x, matching .device db n fun d => d.gatewayId = some x.id)) := by
    refine respectsTo_query fun db t t' n hs => ?_
    change ((db.gateways.find g).map _).map _ = ((db.gateways.find g).map _).map _
    rcases db.gateways.find g with _ | x
    · rfl
    · have hrows := hs.matching (p := fun d => d.gatewayId = some x.id) (fun _ => rfl) db n
      exact congrArg (fun ds => some (x, ds)) hrows
  refine hquery.bindTo fun o o' ho w w' hw => ?_
  rcases o with _ | x <;> rcases o' with _ | x' <;>
    simp only [Option.map_some, Option.map_none, reduceCtorEq, Option.some.injEq] at ho
  · exact ⟨rfl, hw⟩
  · exact ⟨congrArg Except.ok ho, hw⟩

/-- What is shown of the devices of a gateway does not depend on their tokens. -/
theorem respects_findWithDevices (g : String) {f : Gateway × List Device → Api α}
    (hf : ∀ x, f (redactAll x) = f x) (hr : ∀ x, Prog.Respects beacon.Differ (f x)) :
    Prog.Respects beacon.Differ (Gateways.findWithDevices g >>= f) := by
  refine (respectsTo_findWithDevices g).bind (fun x x' hx => ?_) hr
  rw [← hf x, hx, hf]

theorem respects_updateLastSeen (g : String) (version : Option String) :
    Prog.Respects beacon.Differ (Gateways.updateLastSeen g version) :=
  .bind respects_newDate fun _ =>
    .bind (Column.respects_update apart_gateway _ _ _) fun _ => .pure _

theorem respects_ignoreUpdateLastSeen (g : String) (version : Option String) :
    Prog.Respects beacon.Differ (ignoreErrors (Gateways.updateLastSeen g version)) :=
  .catchErr (respects_updateLastSeen g version) fun _ => .pure _

theorem respects_getStatus (g : String) : Prog.Respects beacon.Differ (Gateways.getStatus g) := by
  refine respects_findWithDevices g (fun x => ?_) fun _ => .pure _
  simp only [redactAll, List.map_map, List.length_map]
  rfl

theorem loadBandwidthLimits_redact (ds : List Device) :
    Gateways.loadBandwidthLimits (ds.map Devices.redact) = Gateways.loadBandwidthLimits ds := by
  simp only [Gateways.loadBandwidthLimits, List.map_eq_nil_iff, List.map_map, List.filterMap_map]
  rfl

theorem respects_loadBandwidthLimits (ds : List Device) :
    Prog.Respects beacon.Differ (Gateways.loadBandwidthLimits ds) := by
  unfold Gateways.loadBandwidthLimits
  split_ifs
  · exact .pure _
  · exact respects_findMany apart_bandwidthLimit _

theorem respects_getPolicies (env : Env) (g : String) (used : Bool) (version : Option String) :
    Prog.Respects beacon.Differ (Gateways.getPolicies env g used version) := by
  refine respects_findWithDevices g (fun x => ?_) fun _ =>
    .bind (respects_ignoreUpdateLastSeen g version) fun _ =>
      .bind (respects_loadBandwidthLimits _) fun _ => .bind respects_newDate fun _ => .pure _
  simp only [redactAll, loadBandwidthLimits_redact, List.map_map]
  rfl

theorem respectsTo_findByHostname (g : String) (x : Gateways.DiscoveredDevice) :
    Prog.RespectsTo (Option.map Devices.redact) beacon.Differ (Gateways.findByHostname g x) := by
  unfold Gateways.findByHostname
  split
  · exact respectsTo_findFirst (c := beacon) fun _ => rfl
  · exact fun w w' hw => ⟨rfl, hw⟩

theorem respectsTo_findDiscovered (g mac : String) (x : Gateways.DiscoveredDevice) :
    Prog.RespectsTo (Option.map Devices.redact) beacon.Differ
      (Gateways.findDiscovered g mac x) := by
  refine (respectsTo_findFirst (c := beacon) fun _ => rfl).bindTo fun o o' ho w w' hw => ?_
  have ho' : o.map Devices.redact = o'.map Devices.redact := ho
  rcases o with _ | d <;> rcases o' with _ | d' <;>
    simp only [Option.map_some, Option.map_none, reduceCtorEq] at ho'
  · exact respectsTo_findByHostname g x w w' hw
  · exact ⟨congrArg Except.ok ho', hw⟩

theorem respects_updateDiscovered (env : Env) (g : String) (n : ℕ) (x : Gateways.DiscoveredDevice) :
    Prog.Respects beacon.Differ (Gateways.updateDiscovered env g n x) := by
  refine (respectsTo_findDiscovered g _ x).bind (fun o o' ho => ?_) fun o => ?_
  · rcases o with _ | d <;> rcases o' with _ | d' <;>
      simp only [Option.map_some, Option.map_none, reduceCtorEq, Option.some.injEq] at ho
    · rfl
    · have hid : d.id = d'.id :=
        apply_eq (c := beacon) (f := Device.id) (fun _ => rfl) ho
      have hhostname : d.hostname = d'.hostname :=
        apply_eq (c := beacon) (f := Device.hostname) (fun _ => rfl) ho
      have hdhcp : d.dhcpClientId = d'.dhcpClientId :=
        apply_eq (c := beacon) (f := Device.dhcpClientId) (fun _ => rfl) ho
      have houi : d.vendorOui = d'.vendorOui :=
        apply_eq (c := beacon) (f := Device.vendorOui) (fun _ => rfl) ho
      have hos : d.osHint = d'.osHint :=
        apply_eq (c := beacon) (f := Device.osHint) (fun _ => rfl) ho
      simp only [hid, hhostname, hdhcp, houi, hos]
  · rcases o with _ | d
    · exact .pure _
    · refine .bind respects_newDate fun now => ?_
      refine respects_updateDevice ?_ ?_ ?_ d.id ?_ fun _ => .pure _
      · intro now d
        rfl
      · intro d
        rfl
      · intro d
        rfl
      · intro d
        rfl

theorem respects_updateDiscoveredDevices (env : Env) (g : String)
    (xs : List Gateways.DiscoveredDevice) :
    Prog.Respects beacon.Differ (Gateways.updateDiscoveredDevices env g xs) := by
  refine .bind (.bind (respects_findUnique apart_gateway g) fun _ => .orThrow _ _) fun _ => ?_
  refine .bind (.foldEach xs 0 fun n x _ => respects_updateDiscovered env g n x) fun _ => ?_
  exact .bind (respects_ignoreUpdateLastSeen g none) fun _ => .pure _

/-! ### A schedule that the client refuses -/

theorem respects_upsertSchedule (p id : String) {dto : Protection.UpsertScheduleDto}
    (h : dto.autoBlockEnabled = some none) :
    Prog.Respects beacon.Differ (Protection.upsertSchedule p id dto) := by
  refine respects_findOne p id (fun _ => rfl) fun d => ?_
  have hrefused : Prisma.validate (dto.autoBlockEnabled ≠ some none) =
      Prog.throw (.error "PrismaClientValidationError") := by
    simp only [h, ne_eq, not_true_eq_false, decide_false]
    rfl
  rw [hrefused]
  exact .throw _

/-- The operations that do not show the column. -/
theorem respects_prog (env : Env) {op : Operation} (h : ¬ Discloses op) :
    Prog.Respects beacon.Differ (prog env op) := by
  cases op with
  | createDevice p dto =>
    exact .bind (.bind (respects_createDevice fun _ _ => rfl) fun _ => .pure _) fun _ => .pure _
  | findAllDevices p => exact .bind (respects_findAll p) fun _ => .pure _
  | findOneDevice p id => exact .bind (respects_findPayload p id) fun _ => .pure _
  | updateDevice p id dto => exact .bind (respects_update p id dto) fun _ => .pure _
  | removeDevice p id => exact .bind (respects_remove p id) fun _ => .pure _
  | lockInternet p id reason => exact .bind (respects_lockInternet p id reason) fun _ => .pure _
  | unlockInternet p id => exact .bind (respects_unlockInternet p id) fun _ => .pure _
  | getNetworkStatus p id => exact .bind (respects_getNetworkStatus p id) fun _ => .pure _
  | findAllChildren p => exact absurd trivial h
  | findOneChild p id => exact absurd trivial h
  | getActiveSessions p => exact absurd trivial h
  | getHistory p => exact absurd trivial h
  | upsertSchedule p id dto =>
    exact .bind (respects_upsertSchedule p id (not_not.mp h)) fun _ => .pure _
  | setSetupStatus p id dto => exact absurd trivial h
  | getDiscoveredDevices g => exact absurd trivial h
  | getStatus g => exact .bind (respects_getStatus g) fun _ => .pure _
  | getPolicies g used version =>
    exact .bind (respects_getPolicies env g used version) fun _ => .pure _
  | updateDiscoveredDevices g xs =>
    exact .bind (respects_updateDiscoveredDevices env g xs) fun _ => .pure _
  | registerDevice p dto =>
    refine .bind (.bind respects_newDate fun _ => ?_) fun _ => .pure _
    exact respects_createDevice fun _ _ => rfl

end Respects

/-! ### Operations that return rows of devices -/

/-- A device of the parent, of the child and behind the gateway `k`, with this token. -/
def paired (p k : String) (token : Option String) : Device :=
  { Household.device k p k with gatewayId := some k, dnsBeaconToken := token }

/-- A session of the device. -/
def session (p k id : String) (status : SessionStatus) : Session :=
  ⟨id, k, k, p, status, 0, none, none, none, none, 60, 60, 0, false, none, 0, 0⟩

/-- The parent with a child, a gateway, a device and two sessions of it. -/
def world (p k : String) (token : Option String) : World :=
  .fresh { Database.empty with
    users := ⟨[Household.parent p], by simp⟩
    children := ⟨[Household.child k p], by simp⟩
    gateways := ⟨[Household.gateway k p], by simp⟩
    devices := ⟨[paired p k token], by simp⟩
    sessions := ⟨[session p k "now" .active, session p k "before" .stopped], by simp [session]⟩ } 0

theorem differ_world (p k : String) (token token' : Option String) :
    beacon.Differ (world p k token) (world p k token') :=
  ⟨(world p k token).db,
    ⟨[paired p k token], by simp⟩, ⟨[paired p k token'], by simp⟩, rfl, rfl, rfl⟩

/-- The tokens in an answer. -/
def tokens : Answer → List (Option String)
  | .device d => [d.dnsBeaconToken]
  | .children cs => cs.flatMap fun c => c.2.map Device.dnsBeaconToken
  | .child c => c.devices.map Device.dnsBeaconToken
  | .sessions ss => ss.map fun s => s.device.bind Device.dnsBeaconToken
  | .devices ds => ds.map Device.dnsBeaconToken
  | _ => []

section Shown
variable (p k : String) (token : Option String)

theorem find_device : (Model.device.get (world p k token).db).find k = some (paired p k token) := by
  change Table.find ⟨[paired p k token], _⟩ k = _
  simp [Table.find, paired, Household.device, Devices.newDevice]

theorem matching_devices {q : Device → Bool} (h : q (paired p k token) = true) (n : ℕ) :
    matching .device (world p k token).db n q = [paired p k token] := by
  change arrange n (List.filter q [paired p k token]) = _
  rw [List.filter_cons_of_pos h, List.filter_nil, arrange_singleton]

theorem run_findAllChildren : ((Children.findAll p).run (world p k token)).1 =
    .ok [(Household.child k p, [paired p k token])] := by
  have hchildren : ∀ n, matching .child (world p k token).db n (fun c => c.parentId = p) =
      [Household.child k p] := by
    intro n
    change arrange n (List.filter _ [Household.child k p]) = _
    rw [List.filter_cons_of_pos (by simp [Household.child]), List.filter_nil, arrange_singleton]
  rw [Children.findAll, run_query, hchildren, List.map_singleton, matching_devices]
  simp [paired, Household.device, Devices.newDevice, Household.child]

theorem run_findOneChild : ((Children.findDetails p k).run (world p k token)).1 =
    .ok ⟨Household.child k p, [paired p k token], []⟩ := by
  have hfind : (world p k token).db.children.find k = some (Household.child k p) := by
    change Table.find ⟨[Household.child k p], _⟩ k = _
    simp [Table.find, Household.child]
  have hrules : ∀ n q, matching .rule (world p k token).db n q = [] := fun _ _ => rfl
  simp only [Children.findDetails, Prog.run_bind, run_query, hfind, Option.map_some,
    Prog.run_orThrow_some, Prog.run_require, Prog.run_pure, hrules]
  rw [matching_devices _ _ _
    (by simp [paired, Household.device, Devices.newDevice, Household.child])]
  simp [Household.child]

theorem find_sessionDevice {s : Session} (h : s.deviceId = k) :
    (Sessions.details (world p k token).db s).device = some (paired p k token) := by
  change (Model.device.get (world p k token).db).find s.deviceId = _
  rw [h, find_device]

theorem matching_sessions {q : Session → Bool} {s : Session}
    (h : [session p k "now" .active, session p k "before" .stopped].filter q = [s]) (n : ℕ) :
    matching .session (world p k token).db n q = [s] := by
  change arrange n (List.filter q [session p k "now" .active, session p k "before" .stopped]) = _
  rw [h, arrange_singleton]

theorem run_getActiveSessions : ((Sessions.getActiveSessions p).run (world p k token)).1 =
    .ok [Sessions.details (world p k token).db (session p k "now" .active)] := by
  rw [Sessions.getActiveSessions, run_query, matching_sessions p k token (by simp [session]; rfl)]
  rfl

theorem run_getHistory : ((Sessions.getHistory p).run (world p k token)).1 =
    .ok [Sessions.details (world p k token).db (session p k "before" .stopped)] := by
  rw [Sessions.getHistory, run_query, matching_sessions p k token (by simp [session]; rfl)]
  rfl

theorem run_getDiscoveredDevices : ((Gateways.getDiscoveredDevices k).run (world p k token)).1 =
    .ok [paired p k token] := by
  have hfind : (world p k token).db.gateways.find k = some (Household.gateway k p) := by
    change Table.find ⟨[Household.gateway k p], _⟩ k = _
    simp [Table.find, Household.gateway]
  simp only [Gateways.getDiscoveredDevices, Gateways.findWithDevices, Prog.run_bind,
    run_query, hfind,
    Option.map_some, Prog.run_orThrow_some, Prog.run_pure]
  rw [matching_devices _ _ _ (by simp [paired, Household.gateway])]

theorem run_findOne : (Devices.findOne p k).run (world p k token) =
    (.ok (paired p k token), World.afterCall (world p k token) (world p k token).db) := by
  simp only [Devices.findOne, Prog.run_bind, run_findUnique, find_device, Prog.run_orThrow_some,
    Prog.run_require, Prog.run_pure]
  simp [paired, Household.device, Devices.newDevice]

/-- The row is returned as it was written. -/
theorem run_updateDevice {f : Device → Device} {hf : ∀ d, (f d).id = d.id} {w : World}
    (hw : (Model.device.get w.db).find k = some (paired p k token))
    (hu : ∀ d, (f d).dnsBeaconToken = d.dnsBeaconToken)
    (hl : ∀ d, Model.device.links (f d) = Model.device.links d) :
    ((Prisma.update .device k f hf).run w).1 =
      .ok (Model.device.touch w.now (f (paired p k token))) := by
  rw [run_update hw (by simp only [Model.device, hu]) (hl _)]

theorem run_upsertSchedule {dto : Protection.UpsertScheduleDto}
    (h : dto.autoBlockEnabled ≠ some none) :
    ∃ d, ((Protection.upsertSchedule p k dto).run (world p k token)).1 = .ok d ∧
      d.dnsBeaconToken = token := by
  simp only [Protection.upsertSchedule, Prog.run_bind, run_findOne, Prisma.validate,
    Prog.run_require, h, ne_eq, not_false_eq_true, decide_true, if_true]
  refine ⟨_, run_updateDevice p k token (find_device p k token) ?_ ?_, rfl⟩
  · intro d
    rfl
  · intro d
    rfl

theorem run_setSetupStatus (dto : OfflineControl.SetSetupStatusDto) :
    ∃ d, ((OfflineControl.setSetupStatus p k dto).run (world p k token)).1 = .ok d ∧
      d.dnsBeaconToken = token := by
  simp only [OfflineControl.setSetupStatus, Prog.run_bind, run_findOne, run_newDate]
  refine ⟨_, run_updateDevice p k token (find_device p k token) ?_ ?_, rfl⟩
  · intro d
    rfl
  · intro d
    rfl

end Shown

/-- The tokens of the device are in the answer. -/
theorem exists_tokens (env : Env) {op : Operation} (h : Discloses op) :
    ∃ p k, ∀ token, ∃ a, ((prog env op).run (world p k token)).1 = .ok a ∧ tokens a = [token] := by
  cases op with
  | findAllChildren p =>
    exact ⟨p, "", fun token => ⟨_, Prog.run_answer (run_findAllChildren p "" token), rfl⟩⟩
  | findOneChild p id =>
    exact ⟨p, id, fun token => ⟨_, Prog.run_answer (run_findOneChild p id token), rfl⟩⟩
  | getActiveSessions p =>
    refine ⟨p, "", fun token => ⟨_, Prog.run_answer (run_getActiveSessions p "" token), ?_⟩⟩
    have hdevice := find_sessionDevice p "" token (s := session p "" "now" .active) rfl
    simp only [tokens, List.map_singleton, hdevice]
    rfl
  | getHistory p =>
    refine ⟨p, "", fun token => ⟨_, Prog.run_answer (run_getHistory p "" token), ?_⟩⟩
    have hdevice := find_sessionDevice p "" token (s := session p "" "before" .stopped) rfl
    simp only [tokens, List.map_singleton, hdevice]
    rfl
  | upsertSchedule p id dto =>
    refine ⟨p, id, fun token => ?_⟩
    obtain ⟨d, hrun, htoken⟩ := run_upsertSchedule p id token h
    exact ⟨_, Prog.run_answer hrun, congrArg (fun t => [t]) htoken⟩
  | setSetupStatus p id dto =>
    refine ⟨p, id, fun token => ?_⟩
    obtain ⟨d, hrun, htoken⟩ := run_setSetupStatus p id token dto
    exact ⟨_, Prog.run_answer hrun, congrArg (fun t => [t]) htoken⟩
  | getDiscoveredDevices g =>
    exact ⟨"", g, fun token => ⟨_, Prog.run_answer (run_getDiscoveredDevices "" g token), rfl⟩⟩
  | _ => exact h.elim

theorem not_hidden_of_shown (env : Env) {op : Operation} (h : Discloses op) : ¬ Hidden env op := by
  intro hidden
  obtain ⟨p, k, hshown⟩ := exists_tokens env h
  obtain ⟨a, ha, htokens⟩ := hshown none
  obtain ⟨a', ha', htokens'⟩ := hshown (some "")
  have hsame := hidden _ _ (differ_world p k none (some ""))
  rw [ha, ha'] at hsame
  cases hsame
  rw [htokens] at htokens'
  cases htokens'

/-- **What shows beacon tokens.** The answer of an operation outside pairing is the same in worlds
that differ only in the tokens of devices exactly when the operation returns no row of a device with
the token in it. -/
theorem beacon_hidden_iff (env : Env) (op : Operation) : Hidden env op ↔ ¬ Discloses op :=
  ⟨fun hidden h => not_hidden_of_shown env h hidden,
    fun h w w' hdiffer => (respects_prog env h w w' hdiffer).1⟩

/-- A gateway that lists its devices gets their tokens. -/
theorem beacon_listed : ¬ ∀ op w w', beacon.Differ w w' →
    ((prog Env.plain op).run w).1 = ((prog Env.plain op).run w').1 := by
  intro h
  exact @not_hidden_of_shown Env.plain (.getDiscoveredDevices "ga") trivial
    (h (.getDiscoveredDevices "ga"))

end GuardTime.Secrets.Beacon
