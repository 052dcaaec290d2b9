import Mathlib.Tactic
import GuardTime.Lib.Owners
import GuardTime.Household

/-! # Gateways as tenants

What the endpoints behind the gateway token read and write, in two runs: two worlds with the same
rows of one gateway, where the rows of the other gateways are arbitrary.

* `Twin`: two worlds in the middle of such runs;
* `respects_dispatch`: the endpoints, while they stay with the gateway of the token;
* `isolated_iff`: a request is isolated exactly if the gateway it names is the gateway of the token,
  and the command it acknowledges is that gateway's. -/

namespace GuardTime.Tenants.Gateway

open GuardTime.Lib.Program GuardTime.Lib.Keyed GuardTime.Lib.Js GuardTime.Lib.Owners
open GuardTime.Schema
open GuardTime.Server GuardTime.Prisma GuardTime.Services GuardTime.Services.Gateways

/-! ### The rows of a gateway -/

section Rows
variable (g : String)

/-- The gateway itself. -/
def ofGateway (r : Schema.Gateway) : Bool := r.id = g

/-- Its devices. -/
def ofDevice (d : Device) : Bool := d.gatewayId = some g

/-- Its router. -/
def ofRouter (r : DetectedRouter) : Bool := r.gatewayId = g

/-- The commands for its router. -/
def ofCommand (c : RouterCommand) : Bool := c.gatewayId = g

/-- The VPN detections it has reported. -/
def ofDetection (l : VpnDetectionLog) : Bool := l.gatewayId = g

end Rows

/-- The database without the rows of gateways and without the audit log. -/
def untouched (db : Database) : Database :=
  { db with
    gateways := .empty
    devices := .empty
    detectedRouters := .empty
    routerCommands := .empty
    vpnDetectionLogs := .empty
    auditLogs := .empty }

/-- The second world has the same rows of the gateway; those of the other gateways are arbitrary. -/
structure SameOwn (g : String) (w w' : World) : Prop where
  gateways : ownRows (ofGateway g) w'.db.gateways = ownRows (ofGateway g) w.db.gateways
  devices : ownRows (ofDevice g) w'.db.devices = ownRows (ofDevice g) w.db.devices
  routers : ownRows (ofRouter g) w'.db.detectedRouters = ownRows (ofRouter g) w.db.detectedRouters
  commands : ownRows (ofCommand g) w'.db.routerCommands = ownRows (ofCommand g) w.db.routerCommands
  detections :
    ownRows (ofDetection g) w'.db.vpnDetectionLogs = ownRows (ofDetection g) w.db.vpnDetectionLogs
  audit : w'.db.auditLogs = w.db.auditLogs
  rest : untouched w'.db = untouched w.db
  world : { w' with db := w.db } = w

/-- From `w` to `w₁` nothing was written but rows of the gateway and audit entries. -/
structure Confined (g : String) (w w₁ : World) : Prop where
  gateways : otherRows (ofGateway g) w₁.db.gateways = otherRows (ofGateway g) w.db.gateways
  devices : otherRows (ofDevice g) w₁.db.devices = otherRows (ofDevice g) w.db.devices
  routers : otherRows (ofRouter g) w₁.db.detectedRouters =
    otherRows (ofRouter g) w.db.detectedRouters
  commands :
    otherRows (ofCommand g) w₁.db.routerCommands = otherRows (ofCommand g) w.db.routerCommands
  detections : otherRows (ofDetection g) w₁.db.vpnDetectionLogs =
    otherRows (ofDetection g) w.db.vpnDetectionLogs
  audit : w.db.auditLogs.rows <+: w₁.db.auditLogs.rows
  rest : untouched w₁.db = untouched w.db

/-- The identifiers to come are no identifiers of routers and detections. -/
def Unclaimed (w : World) : Prop := ∀ n i, w.calls ≤ n →
  (∀ r ∈ w.db.detectedRouters.rows, r.id ≠ w.uuids n i) ∧
  ∀ l ∈ w.db.vpnDetectionLogs.rows, l.id ≠ w.uuids n i

/-- Two worlds in the middle of two runs, the first of which began in `w`. -/
structure Twin (g : String) (w s t : World) : Prop where
  gateways : Shares (ofGateway g) (otherRows (ofGateway g) w.db.gateways) s.db.gateways
    t.db.gateways
  devices : Shares (ofDevice g) (otherRows (ofDevice g) w.db.devices) s.db.devices t.db.devices
  routers : Shares (ofRouter g) (otherRows (ofRouter g) w.db.detectedRouters) s.db.detectedRouters
    t.db.detectedRouters
  commands : Shares (ofCommand g) (otherRows (ofCommand g) w.db.routerCommands) s.db.routerCommands
    t.db.routerCommands
  detections : Shares (ofDetection g) (otherRows (ofDetection g) w.db.vpnDetectionLogs)
    s.db.vpnDetectionLogs t.db.vpnDetectionLogs
  audit : t.db.auditLogs = s.db.auditLogs
  audited : w.db.auditLogs.rows <+: s.db.auditLogs.rows
  rest : untouched s.db = untouched w.db
  same : untouched t.db = untouched s.db
  now : t.now = s.now
  tape : t.tape = s.tape
  uuids : t.uuids = s.uuids
  calls : t.calls = s.calls

theorem SameOwn.twin {g : String} {w w' : World} (h : SameOwn g w w') : Twin g w w w' where
  gateways := ⟨h.gateways.symm, rfl⟩
  devices := ⟨h.devices.symm, rfl⟩
  routers := ⟨h.routers.symm, rfl⟩
  commands := ⟨h.commands.symm, rfl⟩
  detections := ⟨h.detections.symm, rfl⟩
  audit := h.audit
  audited := List.prefix_rfl
  rest := rfl
  same := h.rest
  now := by
    have hworld := congrArg World.now h.world
    exact hworld
  tape := by
    have hworld := congrArg World.tape h.world
    exact hworld
  uuids := by
    have hworld := congrArg World.uuids h.world
    exact hworld
  calls := by
    have hworld := congrArg World.calls h.world
    exact hworld

theorem Twin.confined {g : String} {w s t : World} (h : Twin g w s t) : Confined g w s where
  gateways := h.gateways.others
  devices := h.devices.others
  routers := h.routers.others
  commands := h.commands.others
  detections := h.detections.others
  audit := h.audited
  rest := h.rest

/-! ### Calls in two runs -/

/-- A write on an owned row. -/
theorem shares_patch {ρ : Type} {key : ρ → String} {m : Model key} {mine : ρ → Bool}
    {others : List ρ}
    {t t' : Table key} {now : Time} {k : String} {f : ρ → ρ} (h : Shares mine others t t')
    (hf : ∀ r, key (f r) = key r) (hmine : ∀ r, mine (m.touch now (f r)) = mine r) {r : ρ}
    (hfind : t.find k = some r) (hr : mine r = true) :
    Shares mine others (m.patch t now k f hf) (m.patch t' now k f hf) := by
  refine h.modify (fun r => by rw [m.touch_key, hf]) hmine fun r' hr' hkey => ?_
  obtain ⟨hmem, hid⟩ := Table.find_eq_some.mp hfind
  rw [Table.eq_of_key hr' hmem ((of_decide_eq_true hkey).trans hid.symm)]
  exact hr

section Calls
variable {g : String} {w s t : World}

theorem Twin.steady (h : Twin g w s t) :
    Twin g w (World.afterCall s s.db) (World.afterCall t t.db) :=
  { h with calls := congrArg (· + 1) h.calls }

/-- A query that answers alike. -/
theorem respects_query {α : Type} {f : Database → ℕ → α}
    (hf : ∀ s t n, Twin g w s t → f s.db n = f t.db n) :
    Prog.Respects (Twin g w) (Prisma.query f) := by
  intro s t h
  rw [run_query, run_query, h.tape, h.calls]
  exact ⟨congrArg Except.ok (hf s t _ h), h.steady⟩

theorem respects_newDate : Prog.Respects (Twin g w) newDate :=
  .read fun _ _ h => h.now.symm

/-- Queries for rows of the gateway. -/
theorem respects_findGateway : Prog.Respects (Twin g w) (findGateway g) := by
  refine .bind (respects_query fun s t _ h => ?_) fun _ => .orThrow _ _
  exact h.gateways.find? fun r hr => hr

theorem matching_devices (h : Twin g w s t) {p : Device → Bool}
    (hp : ∀ d, p d = true → ofDevice g d = true) (n : ℕ) :
    matching .device s.db n p = matching .device t.db n p :=
  congrArg (arrange n) (h.devices.filter hp)

theorem respects_findWithDevices : Prog.Respects (Twin g w) (findWithDevices g) := by
  refine .bind (respects_query fun s t n h => ?_) fun _ => .orThrow _ _
  have hgateway : s.db.gateways.find g = t.db.gateways.find g := h.gateways.find? fun r hr => hr
  rw [hgateway]
  rcases hg : t.db.gateways.find g with _ | r
  · rfl
  · have hid : r.id = g := Table.key_of_find hg
    have hdevices : matching .device s.db n (fun d => d.gatewayId = some g) =
        matching .device t.db n (fun d => d.gatewayId = some g) :=
      matching_devices h (fun d hd => hd) n
    rw [Option.map_some, Option.map_some, hid, hdevices]

/-- A device of the gateway in both runs. -/
def Found (g : String) (d : Device) (s : World) : Prop :=
  s.db.devices.find d.id = some d ∧ ofDevice g d = true

theorem respects_findFirstDevice {p : Device → Bool} (hp : ∀ d, p d = true → ofDevice g d = true) :
    Prog.Respects (Twin g w) (Prisma.findFirst .device p) :=
  respects_query fun _ _ n h => congrArg List.head? (matching_devices h hp n)

theorem found_of_findFirst {p : Device → Bool} (hp : ∀ d, p d = true → ofDevice g d = true)
    {d : Device} (h : ((Prisma.findFirst .device p).run s).1 = .ok (some d)) :
    Found g d ((Prisma.findFirst .device p).run s).2 := by
  have hhead : (matching .device s.db (s.tape s.calls) p).head? = some d := Except.ok.inj h
  obtain ⟨hmem, hd⟩ := mem_matching.mp (List.mem_of_mem_head? hhead)
  exact ⟨Table.find_key hmem, hp d hd⟩

/-- A write on a device of the gateway that changes neither its gateway nor what the database
checks. -/
theorem respects_updateDevice (f : Device → Device) (hf : ∀ d, (f d).id = d.id)
    (hgateway : ∀ d, (f d).gatewayId = d.gatewayId) {d : Device}
    (huniques : Model.device.uniques (f d) = Model.device.uniques d)
    (hlinks : Model.device.links (f d) = Model.device.links d) (h : Twin g w s t)
    (hd : Found g d s) :
    ((Prisma.update .device d.id f hf).run s).1 = ((Prisma.update .device d.id f hf).run t).1 ∧
      Twin g w ((Prisma.update .device d.id f hf).run s).2
        ((Prisma.update .device d.id f hf).run t).2 := by
  obtain ⟨hfind, hmine⟩ := hd
  have hs : (Model.device.get s.db).find d.id = some d := hfind
  have ht : (Model.device.get t.db).find d.id = some d := h.devices.find hfind hmine
  rw [run_update hs huniques hlinks, run_update ht huniques hlinks, h.now]
  refine ⟨rfl, { h with devices := ?_, calls := congrArg (· + 1) h.calls }⟩
  refine shares_patch h.devices hf (fun r => ?_) hfind hmine
  exact congrArg (fun o => decide (o = some g)) (hgateway r)

/-- A write on the gateway itself that changes nothing the database checks. -/
theorem respects_updateGateway {f : Schema.Gateway → Schema.Gateway} (hf : ∀ r, (f r).id = r.id)
    (huniques : ∀ r, Model.gateway.uniques (f r) = Model.gateway.uniques r)
    (hlinks : ∀ r, Model.gateway.links (f r) = Model.gateway.links r) :
    Prog.Respects (Twin g w) (Prisma.update .gateway g f hf) := by
  intro s t h
  have hfind : s.db.gateways.find g = t.db.gateways.find g := h.gateways.find? fun r hr => hr
  rcases hg : s.db.gateways.find g with _ | r
  · have hs : (Model.gateway.get s.db).find g = none := hg
    have ht : (Model.gateway.get t.db).find g = none := hfind.symm.trans hg
    rw [run_update_none hs, run_update_none ht]
    exact ⟨rfl, h.steady⟩
  · have hs : (Model.gateway.get s.db).find g = some r := hg
    have ht : (Model.gateway.get t.db).find g = some r := hfind.symm.trans hg
    rw [run_update hs (huniques r) (hlinks r), run_update ht (huniques r) (hlinks r), h.now]
    refine ⟨rfl, { h with gateways := ?_, calls := congrArg (· + 1) h.calls }⟩
    refine shares_patch h.gateways hf (fun r => ?_) hg (decide_eq_true (Table.key_of_find hg))
    exact congrArg (fun k => decide (k = g)) (hf r)

theorem respects_updateLastSeen (version : Option String) :
    Prog.Respects (Twin g w) (updateLastSeen g version) := by
  refine respects_newDate.bind fun _ =>
    .bind (respects_updateGateway ?_ ?_ ?_) fun _ => .pure _
  all_goals
    intro r
    rfl

/-- An audit entry without a user. -/
theorem respects_log {data : Audit.Entry} (hdata : data.userId = none) :
    Prog.Respects (Twin g w) (Audit.log data) := by
  intro s t h
  rw [Audit.run_log_anonymous hdata, Audit.run_log_anonymous hdata, h.audit, h.uuids,
    h.calls, h.now]
  rcases hins : s.db.auditLogs.insert ⟨s.uuids s.calls 0, none, data.action, data.entity,
    data.entityId, data.details, data.ipAddress, s.now⟩ with _ | logs
  · exact ⟨rfl, h.steady⟩
  · refine ⟨rfl, { h with audit := rfl, audited := ?_, calls := congrArg (· + 1) h.calls }⟩
    obtain ⟨-, hrows⟩ := Table.insert_eq_some hins
    change _ <+: logs.rows
    rw [hrows]
    exact h.audited.trans (List.prefix_append _ _)

end Calls

/-! ### The endpoints -/

section Endpoints
variable {g : String} {w : World} {env : Env}

theorem respects_getDiscoveredDevices : Prog.Respects (Twin g w) (getDiscoveredDevices g) :=
  respects_findWithDevices.bind fun _ => .pure _

theorem respects_getStatus : Prog.Respects (Twin g w) (getStatus g) :=
  respects_findWithDevices.bind fun _ => .pure _

theorem respects_setStatus (mac : String) (status : DeviceStatus) :
    Prog.Respects (Twin g w) (setStatus g mac status) := by
  have hmine : ∀ d : Device,
    (decide (d.macAddress = some mac) && decide (d.gatewayId = some g)) = true →
      ofDevice g d = true := fun d hd => (Bool.and_eq_true_iff.mp hd).2
  refine respects_findGateway.bind fun _ => ?_
  refine .bindOf (P := fun o s _ => ∀ d, o = some d → Found g d s) (respects_findFirstDevice hmine)
    (fun s t _ o ho d hd => found_of_findFirst hmine (hd ▸ ho)) fun o s t h hfound => ?_
  rcases o with _ | d
  · exact ⟨rfl, h⟩
  · have hwrite := respects_updateDevice (fun d => { d with status := status }) (fun _ => rfl)
      (fun _ => rfl) rfl rfl h (hfound d rfl)
    have hrest := Prog.Respects.after (f := fun _ => pure ()) hwrite (fun _ _ h => h) fun _ =>
      Prog.Respects.pure ()
    exact hrest

theorem respects_blockDevice (mac : String) :
    Prog.Respects (Twin g w) (Gateways.blockDevice g mac) :=
  (respects_setStatus mac _).bind fun _ => .pure _

theorem respects_unblockDevice (mac : String) :
    Prog.Respects (Twin g w) (Gateways.unblockDevice g mac) :=
  (respects_setStatus mac _).bind fun _ => .pure _

theorem respects_loadBandwidthLimits (ds : List Device) :
    Prog.Respects (Twin g w) (loadBandwidthLimits ds) := by
  unfold loadBandwidthLimits
  split_ifs
  · exact .pure _
  · refine respects_query fun s t n h => ?_
    have hlimits : (untouched t.db).bandwidthLimits = (untouched s.db).bandwidthLimits := by
      rw [h.same]
    rw [matching, matching]
    exact congrArg (fun l => arrange n (List.filter _ (Table.rows l))) hlimits.symm

theorem respects_getPolicies (used : Bool) (version : Option String) :
    Prog.Respects (Twin g w) (getPolicies env g used version) := by
  refine respects_findWithDevices.bind fun p => ?_
  refine .bind (.catchErr (respects_updateLastSeen version) fun _ => .pure _) fun _ => ?_
  exact (respects_loadBandwidthLimits p.2).bind fun _ => respects_newDate.bind fun _ => .pure _

/-! ### Discovery -/

theorem respects_findByHostname (x : DiscoveredDevice) :
    Prog.Respects (Twin g w) (findByHostname g x) := by
  unfold findByHostname
  split
  · refine respects_findFirstDevice fun d hd => ?_
    simp only [Bool.and_eq_true, decide_eq_true_eq] at hd
    exact decide_eq_true hd.1.1
  · exact .pure _

theorem respects_findDiscovered (mac : String) (x : DiscoveredDevice) :
    Prog.Respects (Twin g w) (findDiscovered g mac x) := by
  refine .bind (respects_findFirstDevice fun d hd => ?_) fun o => ?_
  · exact (Bool.and_eq_true_iff.mp hd).1
  · rcases o with _ | d
    · exact respects_findByHostname x
    · exact .pure _

theorem found_of_findDiscovered {mac : String} {x : DiscoveredDevice} {s : World} {d : Device}
    (h : ((findDiscovered g mac x).run s).1 = .ok (some d)) :
    Found g d ((findDiscovered g mac x).run s).2 := by
  rw [findDiscovered, Prog.run_bind, run_findFirst] at h ⊢
  dsimp only at h ⊢
  rcases hhead : (matching .device s.db (s.tape s.calls) fun d =>
      d.gatewayId = some g && d.macAddress = some mac).head? with _ | d'
  · rw [hhead] at h
    dsimp only at h ⊢
    unfold findByHostname at h ⊢
    split at h
    · exact found_of_findFirst (fun d hd => by simp_all [ofDevice]) h
    · cases h
  · rw [hhead] at h
    cases h
    obtain ⟨hmem, hd⟩ := mem_matching.mp (List.mem_of_mem_head? hhead)
    exact ⟨Table.find_key hmem, (Bool.and_eq_true_iff.mp hd).1⟩

theorem respects_updateDiscovered (n : ℕ) (x : DiscoveredDevice) :
    Prog.Respects (Twin g w) (updateDiscovered env g n x) := by
  refine .bindOf (P := fun o s _ => ∀ d, o = some d → Found g d s) (respects_findDiscovered _ x)
    (fun s t _ o ho d hd => found_of_findDiscovered (hd ▸ ho)) fun o s t h hfound => ?_
  rcases o with _ | d
  · exact ⟨rfl, h⟩
  · dsimp only
    rw [Prog.run_bind, Prog.run_bind newDate, run_newDate, run_newDate, h.now]
    dsimp only
    refine Prog.Respects.after ?_ (fun _ _ h => h) fun _ => Prog.Respects.pure _
    refine respects_updateDevice _ _ (fun r => ?_) ?_ ?_ h (hfound d rfl) <;> rfl

theorem respects_updateDiscoveredDevices (xs : List DiscoveredDevice) :
    Prog.Respects (Twin g w) (updateDiscoveredDevices env g xs) := by
  refine respects_findGateway.bind fun _ => ?_
  refine .bind (.foldEach xs 0 fun n x _ => respects_updateDiscovered n x) fun _ => ?_
  exact .bind (.catchErr (respects_updateLastSeen none) fun _ => .pure _) fun _ => .pure _

/-! ### Detections -/

theorem respects_validDetections (ds : List Detection) :
    Prog.Respects (Twin g w) (validDetections g ds) := by
  refine .bind (respects_query fun s t n h => ?_) fun _ => .pure _
  exact matching_devices h (fun d hd => (Bool.and_eq_true_iff.mp hd).1) n

theorem respects_recordDohDetections (ds : List Detection) :
    Prog.Respects (Twin g w) (recordDohDetections g ds) := by
  unfold recordDohDetections
  split_ifs
  · exact .pure _
  · refine respects_findGateway.bind fun _ => (respects_validDetections ds).bind fun valid => ?_
    exact .bind (.forEach valid fun d _ => respects_log rfl) fun _ => .pure _

/-! ### Router commands -/

/-- A command of the gateway. -/
def Owned (g : String) (c : RouterCommand) (s : World) : Prop :=
  c ∈ s.db.routerCommands.rows ∧ ofCommand g c = true

theorem Owned.twin {s t : World} {c : RouterCommand} (hc : Owned g c s) (h : Twin g w s t) :
    Owned g c t := by
  obtain ⟨hmem, hmine⟩ := hc
  refine ⟨?_, hmine⟩
  rwa [← mem_ownRows hmine, ← h.commands.own, mem_ownRows hmine]

/-- A row with the identifier of an owned command is that command. -/
theorem Owned.of_id {s : World} {c c' : RouterCommand} (hc : Owned g c s)
    (hc' : c' ∈ s.db.routerCommands.rows) (hid : c'.id = c.id) : ofCommand g c' = true := by
  obtain ⟨hmem, hmine⟩ := hc
  rwa [Table.eq_of_key hc' hmem hid]

/-- A write on owned commands, given by their identifiers. -/
theorem respects_updateCommands {s t : World} {cs : List RouterCommand}
    {f : RouterCommand → RouterCommand} (hf : ∀ c, (f c).id = c.id)
    (hgateway : ∀ c, (f c).gatewayId = c.gatewayId) (h : Twin g w s t)
    (hcs : ∀ c ∈ cs, Owned g c s) :
    let write := Prisma.updateMany .routerCommand (fun c => c.id ∈ cs.map RouterCommand.id) f hf
    (write.run s).1 = (write.run t).1 ∧ Twin g w (write.run s).2 (write.run t).2 := by
  intro write
  have hrow : ∀ s, (∀ c ∈ cs, Owned g c s) → ∀ c ∈ s.db.routerCommands.rows,
      decide (c.id ∈ cs.map RouterCommand.id) = true → ofCommand g c = true := by
    intro s hcs c hc hid
    obtain ⟨c', hc', heq⟩ := List.mem_map.mp (of_decide_eq_true hid)
    exact (hcs c' hc').of_id hc heq.symm
  have hs := hrow s hcs
  have ht := hrow t fun c hc => (hcs c hc).twin h
  refine ⟨congrArg Except.ok (h.commands.countP hs ht), ?_⟩
  refine { h with commands := ?_, calls := congrArg (· + 1) h.calls }
  refine h.commands.modify hf (fun c => ?_) hs
  exact congrArg (fun k => decide (k = g)) (hgateway c)

theorem respects_getPendingCommands :
    Prog.Respects (Twin g w) (RouterCommands.getPendingCommands g) := by
  refine .bindOf (P := fun cs s _ => ∀ c ∈ cs, Owned g c s) (respects_query fun s t n h => ?_)
    (fun s t h cs hcs c hc => ?_) fun cs s t h howned => ?_
  · have hfilter := h.commands.filter
      (p := fun c : RouterCommand => decide (c.gatewayId = g) && decide (c.status = .pending))
      fun c hc => (Bool.and_eq_true_iff.mp hc).1
    exact congrArg (fun l => (arrange n l).insertionSort fun c c' =>
      decide (c.createdAt ≤ c'.createdAt))
      hfilter
  · rw [← Except.ok.inj hcs, List.mem_insertionSort] at hc
    obtain ⟨hmem, hp⟩ := mem_matching.mp hc
    exact ⟨hmem, (Bool.and_eq_true_iff.mp hp).1⟩
  · split_ifs
    · exact ⟨rfl, h⟩
    · rw [Prog.run_bind, Prog.run_bind newDate, run_newDate, run_newDate, h.now]
      refine Prog.Respects.after (respects_updateCommands ?_ ?_ h howned) (fun _ _ h => h)
        fun _ => Prog.Respects.pure _ <;>
        · intro c
          rfl

/-- A write on one owned command. -/
theorem respects_updateCommand {s t : World} {c : RouterCommand} (f : RouterCommand → RouterCommand)
    (hf : ∀ c, (f c).id = c.id) (hgateway : ∀ c, (f c).gatewayId = c.gatewayId) (h : Twin g w s t)
    (hc : Owned g c s) :
    let write := Prisma.update .routerCommand c.id f hf
    (write.run s).1 = (write.run t).1 ∧ Twin g w (write.run s).2 (write.run t).2 := by
  intro write
  have hs : (Model.routerCommand.get s.db).find c.id = some c := Table.find_key hc.1
  have ht : (Model.routerCommand.get t.db).find c.id = some c := Table.find_key (hc.twin h).1
  simp only [write]
  rw [run_update hs rfl rfl, run_update ht rfl rfl, h.now]
  refine ⟨rfl, { h with commands := ?_, calls := congrArg (· + 1) h.calls }⟩
  refine shares_patch h.commands hf (fun c => ?_) hs hc.2
  exact congrArg (fun k => decide (k = g)) (hgateway c)

/-- The acknowledgement of an owned command. -/
theorem respects_acknowledgeCommand {s t : World} {c : RouterCommand} (success : Bool)
    (data : Option Json) (h : Twin g w s t) (hc : Owned g c s) :
    let ack := RouterCommands.acknowledgeCommand g c.id success data
    (ack.run s).1 = (ack.run t).1 ∧ Twin g w (ack.run s).2 (ack.run t).2 := by
  intro ack
  have hrun : ∀ s, Owned g c s → ack.run s = (Prisma.update .routerCommand c.id fun c =>
      { c with
        status := if success then .acknowledged else .failed
        ackedAt := some s.now
        resultData := data.map stringify }).run (World.afterCall s s.db) := by
    rintro s ⟨hmem, hmine⟩
    have hfind : (Model.routerCommand.get s.db).find c.id = some c := Table.find_key hmem
    have hgateway : c.gatewayId = g := of_decide_eq_true hmine
    simp only [ack, RouterCommands.acknowledgeCommand]
    rw [Prog.run_bind, run_findUnique, hfind]
    dsimp only
    rw [Prog.run_bind, Prog.run_orThrow_some]
    dsimp only
    rw [Prog.run_bind, Prog.run_require, if_pos hgateway]
    rfl
  rw [hrun s hc, hrun t (hc.twin h), h.now]
  refine respects_updateCommand _ _ (fun c => ?_) h.steady hc
  rfl

theorem respects_getRouterConnectionInfo :
    Prog.Respects (Twin g w) (RouterCommands.getRouterConnectionInfo env g) :=
  .bind (respects_query fun _ _ _ h => h.routers.find? fun _ hr => hr) fun _ => .pure _

/-! ### New rows -/

/-- The identifiers of one call are no identifiers of rows. -/
theorem Unclaimed.afterCall {s : World} (h : Unclaimed s) : Unclaimed (World.afterCall s s.db) :=
  fun n i hn => h n i (Nat.le_of_succ_le hn)

theorem insertRow_detection (db : Database) (l : VpnDetectionLog) :
    Model.vpnDetectionLog.insertRow db l =
      match db.vpnDetectionLogs.insert l with
      | some t => .ok (Model.vpnDetectionLog.set db t)
      | none => .error (.prisma "P2002") := by
  rcases hins : db.vpnDetectionLogs.insert l with _ | t <;>
    simp [Model.insertRow, Model.vpnDetectionLog, hins]

/-- Detections are inserted alike. -/
theorem insertDetections {others : List VpnDetectionLog} : ∀ (ls : List VpnDetectionLog)
    {db db' : Database}, Shares (ofDetection g) others db.vpnDetectionLogs db'.vpnDetectionLogs →
    (∀ l ∈ ls, ofDetection g l = true) →
    (∀ l ∈ ls, ∀ l' ∈ db.vpnDetectionLogs.rows, ofDetection g l' = false → l'.id ≠ l.id) →
    (∀ l ∈ ls, ∀ l' ∈ db'.vpnDetectionLogs.rows, ofDetection g l' = false → l'.id ≠ l.id) →
    (∃ e, Model.vpnDetectionLog.insertRows db ls = .error e ∧
      Model.vpnDetectionLog.insertRows db' ls = .error e) ∨
    ∃ t t', Shares (ofDetection g) others t t' ∧
      Model.vpnDetectionLog.insertRows db ls = .ok (Model.vpnDetectionLog.set db t) ∧
      Model.vpnDetectionLog.insertRows db' ls = .ok (Model.vpnDetectionLog.set db' t')
  | [], db, db', h, _, _, _ => .inr ⟨_, _, h, rfl, rfl⟩
  | l :: ls, db, db', h, hmine, hfree, hfree' => by
    rcases h.insert_cases (hmine l (by simp)) (hfree l (by simp)) (hfree' l (by simp)) with
      ⟨hins, hins'⟩ | ⟨t, t', hins, hins', ht⟩
    · refine .inl ⟨.prisma "P2002", ?_, ?_⟩
      · simp only [Model.insertRows, insertRow_detection, hins]
        rfl
      · simp only [Model.insertRows, insertRow_detection, hins']
        rfl
    · -- the rows of the others are still the same
      have hothers : ∀ {t t₁ : Table VpnDetectionLog.id}, t.insert l = some t₁ →
          ∀ l' ∈ t₁.rows, ofDetection g l' = false → l' ∈ t.rows := by
        intro t t₁ hins l' hl' hother
        rw [(Table.insert_eq_some hins).2] at hl'
        rcases List.mem_append.mp hl' with hold | hnew
        · exact hold
        · rw [List.mem_singleton.mp hnew, hmine l (by simp)] at hother
          cases hother
      have hstep : ∀ {db : Database} {t : Table VpnDetectionLog.id},
          db.vpnDetectionLogs.insert l = some t → Model.vpnDetectionLog.insertRows db (l :: ls) =
            Model.vpnDetectionLog.insertRows (Model.vpnDetectionLog.set db t) ls := by
        intro db t hins
        simp only [Model.insertRows, insertRow_detection, hins]
        rfl
      rw [hstep hins, hstep hins']
      exact insertDetections ls ht (fun l' hl' => hmine l' (by simp [hl']))
        (fun l' hl' r hr hother => hfree l' (by simp [hl']) r (hothers hins r hr hother) hother)
        fun l' hl' r hr hother => hfree' l' (by simp [hl']) r (hothers hins' r hr hother) hother

theorem run_createMany {mks : List (String → Time → VpnDetectionLog)} (s : World) :
    (Prisma.createMany .vpnDetectionLog mks).run s =
      match Model.vpnDetectionLog.insertRows s.db
        (mks.zipIdx.map fun p => p.1 (s.uuids s.calls p.2) s.now) with
      | .ok db' => (.ok (), World.afterCall s db')
      | .error e => (.error e, World.afterCall s s.db) := by
  rcases hins : Model.vpnDetectionLog.insertRows s.db
    (mks.zipIdx.map fun p => p.1 (s.uuids s.calls p.2) s.now) with e | db' <;>
    simp [Prisma.createMany, run_dbCall, World.ctx, hins]

theorem respects_createDetections {s t : World} {mks : List (String → Time → VpnDetectionLog)}
    (hmine : ∀ mk ∈ mks, ∀ id now, ofDetection g (mk id now) = true ∧ (mk id now).id = id)
    (h : Twin g w s t) (hs : Unclaimed s) (ht : Unclaimed t) :
    let new := Prisma.createMany .vpnDetectionLog mks
    (new.run s).1 = (new.run t).1 ∧ Twin g w (new.run s).2 (new.run t).2 := by
  intro new
  have hrow : ∀ l ∈ mks.zipIdx.map (fun p => p.1 (s.uuids s.calls p.2) s.now),
      ofDetection g l = true ∧ ∃ i, l.id = s.uuids s.calls i := by
    intro l hl
    obtain ⟨p, hp, rfl⟩ := List.mem_map.mp hl
    obtain ⟨hown, hid⟩ := hmine p.1 (List.fst_mem_of_mem_zipIdx hp) (s.uuids s.calls p.2) s.now
    exact ⟨hown, p.2, hid⟩
  have hcases := insertDetections (mks.zipIdx.map fun p => p.1 (s.uuids s.calls p.2) s.now)
    h.detections (fun l hl => (hrow l hl).1)
    (fun l hl l' hl' _ hid => by
      obtain ⟨i, hi⟩ := (hrow l hl).2
      exact (hs s.calls i le_rfl).2 l' hl' (hid.trans hi))
    (fun l hl l' hl' _ hid => by
      obtain ⟨i, hi⟩ := (hrow l hl).2
      refine (ht t.calls i le_rfl).2 l' hl' ?_
      rw [hid, hi, h.uuids, h.calls])
  simp only [new]
  rw [run_createMany, run_createMany, h.uuids, h.calls, h.now]
  rcases hcases with ⟨e, hins, hins'⟩ | ⟨d, d', hd, hins, hins'⟩
  · rw [hins, hins']
    exact ⟨rfl, h.steady⟩
  · rw [hins, hins']
    exact ⟨rfl, { h with detections := hd, calls := congrArg (· + 1) h.calls }⟩

/-- What the queries before a creation keep. -/
def Ahead (g : String) (w s t : World) : Prop := Twin g w s t ∧ Unclaimed s ∧ Unclaimed t

theorem respects_ahead {α : Type} {p : Api α} (hp : Prog.Respects (Twin g w) p)
    (hkeeps : Prog.Keeps Unclaimed p) : Prog.Respects (Ahead g w) p := by
  rintro s t ⟨h, hs, ht⟩
  obtain ⟨hres, hafter⟩ := hp s t h
  exact ⟨hres, hafter, hkeeps s hs, hkeeps t ht⟩

theorem keeps_findGateway {I : World → Prop} (hI : Steady I) (k : String) :
    Prog.Keeps I (findGateway k) :=
  .bind (keeps_query hI _) fun _ => .orThrow _ _

theorem respects_recordVpnDetections {s t : World} (ds : List Detection) (h : Ahead g w s t) :
    let record := recordVpnDetections g ds
    (record.run s).1 = (record.run t).1 ∧ Twin g w (record.run s).2 (record.run t).2 := by
  intro record
  have hsteady : Steady Unclaimed := fun _ hw => hw.afterCall
  simp only [record, recordVpnDetections]
  split_ifs
  · exact ⟨rfl, h.1⟩
  · have hgateway := respects_ahead (w := w) respects_findGateway (keeps_findGateway hsteady g)
    have hvalid := respects_ahead (respects_validDetections (g := g) (w := w) ds)
      (.bind (keeps_query hsteady _) fun _ => .pure _)
    refine Prog.Respects.after (hgateway s t h) (fun _ _ h => h.1) fun _ s t h => ?_
    refine Prog.Respects.after (hvalid s t h) (fun _ _ h => h.1) fun valid s t h => ?_
    unfold Prog.when
    split_ifs
    · refine Prog.Respects.after
        (respects_createDetections (fun mk hmk id now => ?_) h.1 h.2.1 h.2.2)
        (fun _ _ h => h) fun _ => Prog.Respects.pure _
      obtain ⟨d, -, rfl⟩ := List.mem_map.mp hmk
      exact ⟨decide_eq_true rfl, rfl⟩
    · exact ⟨rfl, h.1⟩

/-- The first report of a gateway makes its router. -/
theorem run_upsertRouter_new {s : World} (f : DetectedRouter → DetectedRouter)
    {mk : String → Time → DetectedRouter} (hf : ∀ r, (f r).id = r.id)
    (hmk : ∀ id now, (mk id now).gatewayId = g ∧ (mk id now).id = id) (hs : Unclaimed s)
    (hnone : s.db.detectedRouters.rows.find? (fun r => r.gatewayId = g) = none) :
    ∃ t, s.db.detectedRouters.insert (mk (s.uuids s.calls 0) s.now) = some t ∧
      (Prisma.upsert .detectedRouter (fun r => r.gatewayId = g) f mk hf).run s =
        (.ok (mk (s.uuids s.calls 0) s.now),
          World.afterCall s (Model.detectedRouter.set s.db t)) := by
  have hget : (Model.detectedRouter.get s.db).rows.find? (fun r => r.gatewayId = g) = none := hnone
  rcases run_upsert_cases .detectedRouter (fun r => r.gatewayId = g) f mk hf s with
    ⟨e, hrun⟩ | ⟨r, hr, -⟩ | ⟨t, -, hins, hrun⟩
  · rcases run_upsert_error hrun with ⟨r, hr, -⟩ | ⟨-, hu | ⟨l, hl, -⟩ | ⟨r, hr, hid⟩⟩
    · cases hget.symm.trans hr
    · obtain ⟨u, hu, r, hr, hr'⟩ := hu
      have hown : r.gatewayId = g := by
        rw [List.mem_singleton.mp hu, (hmk _ _).1] at hr'
        exact (List.cons.inj (List.cons.inj (List.mem_singleton.mp hr')).2).1.symm
      exact absurd (decide_eq_true hown) (List.find?_eq_none.mp hnone r hr)
    · cases hl
    · rw [(hmk _ _).2] at hid
      exact absurd hid ((hs s.calls 0 le_rfl).1 r hr)
  · cases hget.symm.trans hr
  · exact ⟨t, hins, hrun⟩

/-- The router of the gateway, updated or made. -/
theorem respects_upsertRouter {s t : World} (f : DetectedRouter → DetectedRouter)
    (mk : String → Time → DetectedRouter) (hf : ∀ r, (f r).id = r.id)
    (hgateway : ∀ r, (f r).gatewayId = r.gatewayId)
    (hmk : ∀ id now, (mk id now).gatewayId = g ∧ (mk id now).id = id) (h : Ahead g w s t) :
    let record := Prisma.upsert .detectedRouter (fun r => r.gatewayId = g) f mk hf
    (record.run s).1 = (record.run t).1 ∧ Twin g w (record.run s).2 (record.run t).2 := by
  intro record
  obtain ⟨h, hs, ht⟩ := h
  have hsame : s.db.detectedRouters.rows.find? (fun r => r.gatewayId = g) =
      t.db.detectedRouters.rows.find? (fun r => r.gatewayId = g) := h.routers.find? fun r hr => hr
  rcases hfind : s.db.detectedRouters.rows.find? (fun r => r.gatewayId = g) with _ | r
  · obtain ⟨t₁, hins, hrun⟩ := run_upsertRouter_new f hf hmk hs hfind
    obtain ⟨t₂, hins', hrun'⟩ := run_upsertRouter_new f hf hmk ht (hsame ▸ hfind)
    rw [h.uuids, h.calls, h.now] at hins' hrun'
    simp only [record]
    rw [hrun, hrun']
    refine ⟨rfl, { h with routers := ?_, calls := congrArg (· + 1) h.calls }⟩
    exact h.routers.insert hins hins' (decide_eq_true (hmk _ _).1)
  · have hs' : (Model.detectedRouter.get s.db).rows.find? (fun r => r.gatewayId = g) =
      some r := hfind
    have ht' : (Model.detectedRouter.get t.db).rows.find? (fun r => r.gatewayId = g) = some r :=
      hsame.symm.trans hfind
    have huniques : Model.detectedRouter.uniques (f r) = Model.detectedRouter.uniques r :=
      congrArg (fun k => [["gatewayId", k]]) (hgateway r)
    simp only [record]
    rw [run_upsert_found hs' huniques rfl, run_upsert_found ht' huniques rfl, h.now]
    refine ⟨rfl, { h with routers := ?_, calls := congrArg (· + 1) h.calls }⟩
    refine shares_patch h.routers hf (fun r => ?_)
      (Table.find_key (List.mem_of_find?_eq_some hfind))
      (List.find?_some hfind)
    exact congrArg (fun k => decide (k = g)) (hgateway r)

theorem respects_recordDetection {s t : World} (report : RouterDetection.RouterDetectionReport)
    (h : Ahead g w s t) :
    let record := RouterDetection.recordDetection g report
    (record.run s).1 = (record.run t).1 ∧ Twin g w (record.run s).2 (record.run t).2 := by
  intro record
  have hsteady : Steady Unclaimed := fun _ hw => hw.afterCall
  have hfind := respects_ahead (p := Prisma.findUnique .gateway g)
    (respects_query (g := g) (w := w) fun s t _ h => h.gateways.find? fun r hr => hr)
    (keeps_query hsteady _)
  refine Prog.Respects.after (hfind s t h) (fun _ _ h => h.1) fun o s t h => ?_
  refine Prog.Respects.after (Prog.Respects.orThrow o _ s t h) (fun _ _ h => h.1) fun _ s t h => ?_
  rw [Prog.run_bind, Prog.run_bind newDate, run_newDate, run_newDate, h.1.now]
  refine respects_upsertRouter _ _ ?_ (fun r => ?_) (fun id now => ?_) h
  · rfl
  · exact ⟨rfl, rfl⟩

end Endpoints

/-! ### Isolation -/

/-- The request names the gateway in its query. -/
inductive Names (k : String) : Endpoint → Prop where
  | devices : Names k (.devices (some k))
  | block (mac : String) : Names k (.block (some k) mac)
  | unblock (mac : String) : Names k (.unblock (some k) mac)
  | status : Names k (.status (some k))

/-- The request names no other gateway and acknowledges no command but the gateway's own. -/
structure StaysOwn (g : String) (db : Database) (e : Endpoint) : Prop where
  names : ∀ k, Names k e → k = g
  acks : ∀ id success data, e = .ackRouterCommand id success data →
    ∃ c ∈ db.routerCommands.rows, c.id = id ∧ c.gatewayId = g

/-- What the handler of a request does, with `g` as the gateway of its token: it leaves the rows of
the other gateways alone, and answers the same whatever they are. -/
def Isolated (env : Env) (g : Schema.Gateway) (used : Bool) (e : Endpoint) (w : World) : Prop :=
  Confined g.id w ((dispatch env g used e).run w).2 ∧
  ∀ w', SameOwn g.id w w' → Unclaimed w' →
    ((dispatch env g used e).run w').1 = ((dispatch env g used e).run w).1

section Isolated
variable {env : Env} {g : Schema.Gateway} {used : Bool} {e : Endpoint} {w : World}

theorem respects_dispatch {s t : World} (h : Ahead g.id w s t) (hown : StaysOwn g.id s.db e) :
    ((dispatch env g used e).run s).1 = ((dispatch env g used e).run t).1 ∧
      Twin g.id w ((dispatch env g used e).run s).2 ((dispatch env g used e).run t).2 := by
  have named : ∀ {α : Type} {f : String → Api α} {i : Option String},
      (∀ k ∈ i, k = g.id) → Prog.Respects (Twin g.id w) (f g.id) →
      Prog.Respects (Twin g.id w) (requireId i >>= f) := by
    intro α f i hi hf
    rcases i with _ | k
    · exact .throw _
    · obtain rfl := hi k rfl
      exact hf
  have answer : ∀ {α : Type} {p : Api α} {f : α → Response},
      (p.run s).1 = (p.run t).1 ∧ Twin g.id w (p.run s).2 (p.run t).2 →
      ((p >>= fun a => pure (f a)).run s).1 = ((p >>= fun a => pure (f a)).run t).1 ∧
        Twin g.id w ((p >>= fun a => pure (f a)).run s).2 ((p >>= fun a => pure (f a)).run t).2 :=
    fun hp => Prog.Respects.after hp (fun _ _ h => h) fun _ => Prog.Respects.pure _
  cases e with
  | devices i =>
    refine named (fun k hk => ?_) (.bind respects_getDiscoveredDevices fun _ => .pure _) s t h.1
    obtain rfl := Option.mem_def.mp hk
    exact hown.names k .devices
  | block i mac =>
    refine named (fun k hk => ?_) (.bind (respects_blockDevice mac) fun _ => .pure _) s t h.1
    obtain rfl := Option.mem_def.mp hk
    exact hown.names k (.block mac)
  | unblock i mac =>
    refine named (fun k hk => ?_) (.bind (respects_unblockDevice mac) fun _ => .pure _) s t h.1
    obtain rfl := Option.mem_def.mp hk
    exact hown.names k (.unblock mac)
  | status i =>
    refine named (fun k hk => ?_) (.bind respects_getStatus fun _ => .pure _) s t h.1
    obtain rfl := Option.mem_def.mp hk
    exact hown.names k .status
  | policies version => exact answer (respects_getPolicies used version s t h.1)
  | discovery xs => exact answer (respects_updateDiscoveredDevices xs s t h.1)
  | vpnDetections ds => exact answer (respects_recordVpnDetections ds h)
  | dohDetections ds => exact answer (respects_recordDohDetections ds s t h.1)
  | routerDetection report => exact answer (respects_recordDetection report h)
  | pollRouterCommands =>
    have hpoll : Prog.Respects (Twin g.id w) (dispatch env g used .pollRouterCommands) :=
      respects_getPendingCommands.bind fun _ =>
        respects_getRouterConnectionInfo.bind fun _ => .pure _
    exact hpoll s t h.1
  | ackRouterCommand id success data =>
    obtain ⟨c, hc, rfl, hmine⟩ := hown.acks id success data rfl
    exact answer (respects_acknowledgeCommand success data h.1 ⟨hc, decide_eq_true hmine⟩)

/-! ### Requests that are not isolated -/

/-- An answer made of a result fails as the result does. -/
theorem run_answer_error {α β : Type} {p : Api α} {f : α → β} {x : Err} :
    ((p >>= fun a => pure (f a)).run w).1 = .error x ↔ (p.run w).1 = .error x := by
  rw [Prog.run_bind]
  rcases p.run w with ⟨e | a, w'⟩
  · simp
  · simp

/-- Reading the named gateway fails exactly if it is missing. -/
theorem run_findWithDevices_error {k : String} : ((findWithDevices k).run w).1 =
    .error (.notFound "Gateway not found") ↔ w.db.gateways.find k = none := by
  rcases hk : w.db.gateways.find k with _ | r
  · simp [findWithDevices, hk]
  · rw [run_findWithDevices hk]
    simp

/-- Writing a status fails with this message exactly if the gateway is missing: a device that is
missing has a message of its own. -/
theorem run_setStatus_error {k mac : String} {status : DeviceStatus} :
    ((setStatus k mac status).run w).1 = .error (.notFound "Gateway not found") ↔
      w.db.gateways.find k = none := by
  rcases hk : w.db.gateways.find k with _ | r
  · have hget : (Model.gateway.get w.db).find k = none := hk
    rw [setStatus, findGateway, Prog.run_bind, Prog.run_bind, run_findUnique, hget]
    simp
  · have hget : (Model.gateway.get w.db).find k = some r := hk
    have hfound : (findGateway k).run w = (.ok r, World.afterCall w w.db) := by
      rw [findGateway, Prog.run_bind, run_findUnique, hget]
      rfl
    rw [setStatus, Prog.run_bind, hfound]
    dsimp only
    rw [Prog.run_bind, run_findFirst]
    rcases hhead : (matching .device (World.afterCall w w.db).db
      ((World.afterCall w w.db).tape (World.afterCall w w.db).calls) fun d =>
        d.macAddress = some mac && d.gatewayId = some k).head? with _ | d
    · simp
    · have hmem := (mem_matching.mp (List.mem_of_mem_head? hhead)).1
      have hfind : (Model.device.get (World.afterCall (World.afterCall w w.db)
          (World.afterCall w w.db).db).db).find d.id = some d := Table.find_key hmem
      dsimp only
      rw [Prog.run_bind, Prog.run_orThrow_some]
      dsimp only
      rw [Prog.run_bind, run_update hfind rfl rfl]
      simp

/-- A request that names a gateway answers that it is missing exactly if it is. -/
theorem dispatch_names {k : String} (he : Names k e) :
    ((dispatch env g used e).run w).1 = .error (.notFound "Gateway not found") ↔
      w.db.gateways.find k = none := by
  cases he with
  | devices => exact run_answer_error.trans (run_answer_error.trans run_findWithDevices_error)
  | block mac => exact run_answer_error.trans (run_answer_error.trans run_setStatus_error)
  | unblock mac => exact run_answer_error.trans (run_answer_error.trans run_setStatus_error)
  | status => exact run_answer_error.trans (run_answer_error.trans run_findWithDevices_error)

/-- Where a foreign gateway exists decides nothing for isolated requests. -/
theorem sameOwn_gateways {k : String} {t : Table Schema.Gateway.id}
    (ht : ownRows (ofGateway k) t = ownRows (ofGateway k) w.db.gateways) :
    SameOwn k w { w with db := { w.db with gateways := t } } :=
  ⟨ht, rfl, rfl, rfl, rfl, rfl, rfl, rfl⟩

theorem sameOwn_commands {k : String} {t : Table RouterCommand.id}
    (ht : ownRows (ofCommand k) t = ownRows (ofCommand k) w.db.routerCommands) :
    SameOwn k w { w with db := { w.db with routerCommands := t } } :=
  ⟨rfl, rfl, rfl, ht, rfl, rfl, rfl, rfl⟩

/-- An isolated request names no other gateway: with that gateway and without it the answers
differ. -/
theorem eq_of_names {k : String} (h : Isolated env g used e w) (hfree : Unclaimed w)
    (he : Names k e) : k = g.id := by
  by_contra hne
  have hkey : ∀ r ∈ w.db.gateways.rows, ofGateway g.id r = true → r.id ≠ k := by
    intro r _ hr hid
    exact hne (hid.symm.trans (of_decide_eq_true hr))
  obtain ⟨t, ht, hnone⟩ := exists_without w.db.gateways hkey
  obtain ⟨t', ht', hsome⟩ := exists_with (r := { g with id := k }) w.db.gateways
    (decide_eq_false hne) hkey
  have hmissing := h.2 _ (sameOwn_gateways ht) hfree
  have hfound := h.2 _ (sameOwn_gateways ht') hfree
  have herror : ((dispatch env g used e).run { w with db := { w.db with gateways := t } }).1 =
      .error (.notFound "Gateway not found") := (dispatch_names he).mpr hnone
  have herror' : ((dispatch env g used e).run { w with db := { w.db with gateways := t' } }).1 =
      .error (.notFound "Gateway not found") := hfound.trans (hmissing.symm.trans herror)
  cases hsome.symm.trans ((dispatch_names he).mp herror')

theorem run_ack_missing {id : String} (success : Bool) (data : Option Json)
    (h : w.db.routerCommands.find id = none) :
    ((dispatch env g used (.ackRouterCommand id success data)).run w).1 =
      .error (.notFound "Router command not found") := by
  have hget : (Model.routerCommand.get w.db).find id = none := h
  refine run_answer_error.mpr ?_
  rw [RouterCommands.acknowledgeCommand, Prog.run_bind, run_findUnique, hget]
  rfl

theorem run_ack_foreign {id : String} {c : RouterCommand} (success : Bool) (data : Option Json)
    (h : w.db.routerCommands.find id = some c) (hc : c.gatewayId ≠ g.id) :
    ((dispatch env g used (.ackRouterCommand id success data)).run w).1 =
      .error (.forbidden "Not your command") := by
  have hget : (Model.routerCommand.get w.db).find id = some c := h
  refine run_answer_error.mpr ?_
  rw [RouterCommands.acknowledgeCommand, Prog.run_bind, run_findUnique, hget]
  dsimp only
  rw [Prog.run_bind, Prog.run_orThrow_some]
  dsimp only
  rw [Prog.run_bind, Prog.run_require, if_neg hc]

/-- An isolated acknowledgement is of an owned command: another gateway's command of this identifier
is answered otherwise than none. -/
theorem owned_of_ack {id : String} {success : Bool} {data : Option Json}
    (h : Isolated env g used (.ackRouterCommand id success data) w) (hfree : Unclaimed w) :
    ∃ c ∈ w.db.routerCommands.rows, c.id = id ∧ c.gatewayId = g.id := by
  by_contra hnone
  have hkey : ∀ c ∈ w.db.routerCommands.rows, ofCommand g.id c = true → c.id ≠ id := by
    intro c hc hmine hid
    exact hnone ⟨c, hc, hid, of_decide_eq_true hmine⟩
  have hother : g.id ++ "'" ≠ g.id := by
    intro heq
    have hlength := congrArg (fun s : String => s.toList.length) heq
    simp at hlength
  obtain ⟨t, ht, hmissing⟩ := exists_without w.db.routerCommands hkey
  obtain ⟨t', ht', hforeign⟩ := exists_with (r := ⟨id, g.id ++ "'", none, .detect, none, .pending,
    none, w.now, none, none⟩) w.db.routerCommands (decide_eq_false hother) hkey
  have hwithout := h.2 _ (sameOwn_commands ht) hfree
  have hwith := h.2 _ (sameOwn_commands ht') hfree
  rw [run_ack_missing success data hmissing] at hwithout
  rw [run_ack_foreign success data hforeign hother, ← hwithout] at hwith
  cases hwith

/-- **Isolation of gateways.** Whatever gateway the guard has put on the request: its handler leaves
the rows of the other gateways alone and answers the same whatever they are, exactly when the
request names no other gateway in its query and acknowledges no command but one of the gateway. -/
theorem isolated_iff (env : Env) (g : Schema.Gateway) (used : Bool) (e : Endpoint) {w : World}
    (hfree : Unclaimed w) : Isolated env g used e w ↔ StaysOwn g.id w.db e := by
  constructor
  · intro h
    refine ⟨fun k he => eq_of_names h hfree he, fun id success data he => ?_⟩
    subst he
    exact owned_of_ack h hfree
  · intro hown
    constructor
    · have hself : SameOwn g.id w w := ⟨rfl, rfl, rfl, rfl, rfl, rfl, rfl, rfl⟩
      exact (respects_dispatch ⟨hself.twin, hfree, hfree⟩ hown).2.confined
    · intro w' hsame hfree'
      exact (respects_dispatch ⟨hsame.twin, hfree, hfree'⟩ hown).1.symm

end Isolated

/-- The two households; the console of the second is behind its gateway. -/
def homes : World :=
  .fresh (Household.withDevices [{ Household.device "console" "basma" "badr" with
    macAddress := some "aa:bb:cc:00:11:22", gatewayId := some "gb" }] (by simp)) 0

theorem unclaimed_homes : Unclaimed homes := by
  intro n i _
  exact ⟨by simp [homes, World.fresh, Household.withDevices, Household.families, Database.empty],
    by simp [homes, World.fresh, Household.withDevices, Household.families, Database.empty]⟩

/-- The gateway of the second household blocks its console. -/
theorem isolated_iff_own :
    Isolated .plain (Household.gateway "gb" "basma") false (.block (some "gb") "aa:bb:cc:00:11:22")
      homes := by
  refine (isolated_iff .plain (Household.gateway "gb" "basma") false
    (.block (some "gb") "aa:bb:cc:00:11:22") unclaimed_homes).mpr ⟨fun k he => ?_,
      fun _ _ _ he => ?_⟩
  · cases he
    rfl
  · cases he

/-- A request with the token of the first household's gateway. -/
def ofFirst : GuardRequest :=
  ⟨some "ga-token", none, none, "POST", "/gateway/block?gatewayId=gb", ""⟩

/-- The gateway of the first household blocks the console of the second. -/
theorem neighbours_console_blocked : ¬ ∀ (env : Env) (request : GuardRequest) (w w₁ : World)
    (g : Schema.Gateway) (used : Bool) (e : Endpoint),
    (canActivate env request).run w = (.ok (g, used), w₁) → Unclaimed w₁ →
      Isolated env g used e w₁ := by
  intro h
  have hguard : (canActivate .plain ofFirst).run homes =
      (.ok (Household.gateway "ga" "amal", false), World.afterCall homes homes.db) := rfl
  have hconfined := (h .plain ofFirst homes _ _ false
    (.block (some "gb") "aa:bb:cc:00:11:22") hguard
    unclaimed_homes.afterCall).1.devices
  have hstatus := congrArg (List.map Device.status) hconfined
  revert hstatus
  decide +kernel

end GuardTime.Tenants.Gateway
