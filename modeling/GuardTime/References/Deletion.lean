import Mathlib.Tactic
import GuardTime.References.Requests
import GuardTime.Services.Listings
import GuardTime.Lib.Runs
import GuardTime.Secrets.Credentials
import GuardTime.System.Calls

/-! # Deletions and references

`ParentsService.deleteAccount`, `ChildrenService.remove`, `DevicesService.remove` and
`GatewayService.deleteGateway` in runs of the system. Only the last one cleans the tables without
foreign keys; the other three leave what referred to the deleted rows. Runs whose deletions spare
referred rows (`Spares`) keep every reference good (`references_good`). -/

namespace GuardTime.References

open GuardTime.Lib.Program GuardTime.Lib.Keyed GuardTime.Lib.Js GuardTime.Lib.Runs GuardTime.Schema
open GuardTime.Server
open GuardTime.Prisma GuardTime.Services GuardTime.System.Links GuardTime.System.Quiet
open GuardTime.System.Changes
  (keeps_discard map_erase map_modify_eq ofDevice_unchild ofDevice_ungateway
  findDevice_ok)
open GuardTime.System.Run (Request handle)
open GuardTime.System.Calls (Call handleCall perform)
open GuardTime.Secrets.Credentials (readable)

/-! ### What deletions do to the graph -/

/-- The device without the children that go. -/
def unchild (ids : List String) (d : DeviceLink) : DeviceLink :=
  { d with childId := if d.childId.any (· ∈ ids) then none else d.childId }

/-- The device without the gateways that go. -/
def ungateway (ids : List String) (d : DeviceLink) : DeviceLink :=
  { d with gatewayId := if d.gatewayId.any (· ∈ ids) then none else d.gatewayId }

theorem ofDevice_unchildren (ids : List String) (d : Device) :
    ofDevice (if d.childId.any (· ∈ ids) then { d with childId := none } else d) =
      unchild ids (ofDevice d) := by
  by_cases h : d.childId.any (· ∈ ids) <;> simp [unchild, ofDevice, h]

theorem ofDevice_ungateways (ids : List String) (d : Device) :
    ofDevice (if d.gatewayId.any (· ∈ ids) then { d with gatewayId := none } else d) =
      ungateway ids (ofDevice d) := by
  by_cases h : d.gatewayId.any (· ∈ ids) <;> simp [ungateway, ofDevice, h]

theorem devices_cascadeChildren (ids : List String) (db : Database) :
    (Model.cascadeChildren ids db).devices.rows.map ofDevice =
      (db.devices.rows.map ofDevice).map (unchild ids) :=
  map_modify_eq (fun _ => by rfl) (ofDevice_unchildren ids)

theorem devices_cascadeGateways (ids : List String) (db : Database) :
    (Model.cascadeGateways ids db).devices.rows.map ofDevice =
      (db.devices.rows.map ofDevice).map (ungateway ids) :=
  map_modify_eq (fun _ => by rfl) (ofDevice_ungateways ids)

section Drop
variable (db : Database) (id : String)

theorem graph_deleteChild : graphOf (Model.child.onDelete id (Model.child.set db
    ((Model.child.get db).erase fun r => r.id = id))) = (graphOf db).dropChild id :=
  Graph.ext rfl (map_erase fun c => by by_cases h : c.id = id <;> simp [ofChild, h]) rfl
    (map_modify_eq (fun _ => by rfl) (ofDevice_unchild id)) rfl

theorem graph_deleteDevice : graphOf (Model.device.onDelete id (Model.device.set db
    ((Model.device.get db).erase fun r => r.id = id))) = (graphOf db).dropDevice id :=
  Graph.ext rfl rfl rfl (map_erase fun d => by by_cases h : d.id = id <;> simp [ofDevice, h]) rfl

theorem graph_deleteGateway : graphOf (Model.gateway.onDelete id (Model.gateway.set db
    ((Model.gateway.get db).erase fun r => r.id = id))) = (graphOf db).dropGateway id :=
  Graph.ext rfl rfl (map_erase fun k => by by_cases h : k.id = id <;> simp [ofGateway, h])
    (map_modify_eq (fun _ => by rfl) (ofDevice_ungateway id)) rfl

theorem graph_deleteUser : graphOf (Model.user.onDelete id (Model.user.set db
    ((Model.user.get db).erase fun r => r.id = id))) = (graphOf db).dropUser id := by
  refine Graph.ext ?_ ?_ ?_ ?_ rfl
  · exact map_erase fun u => by by_cases h : u.id = id <;> simp [h]
  · exact map_erase fun c => by by_cases h : c.parentId = id <;> simp [ofChild, h]
  · exact map_erase fun k => by by_cases h : k.parentId = id <;> simp [ofGateway, h]
  · have hchildren : ((graphOf db).children.filter fun c => c.parentId = id).map Owned.id =
        (db.children.rows.filter fun c => c.parentId = id).map Child.id := by
      simp only [graphOf, List.filter_map, List.map_map]
      rfl
    have hgateways : ((graphOf db).gateways.filter fun k => k.parentId = id).map Owned.id =
        (db.gateways.rows.filter fun k => k.parentId = id).map Gateway.id := by
      simp only [graphOf, List.filter_map, List.map_map]
      rfl
    have hdevices := devices_cascadeGateways
      ((db.gateways.rows.filter fun k => k.parentId = id).map Gateway.id)
      (Model.cascadeChildren ((db.children.rows.filter fun c => c.parentId = id).map Child.id)
        { db with devices := db.devices.erase fun d => d.parentId = id })
    refine Eq.trans hdevices ?_
    rw [devices_cascadeChildren, map_erase (q := fun d => d.parentId ≠ id) fun d => by
      by_cases h : d.parentId = id <;> simp [ofDevice, h], List.map_map, ← hchildren, ← hgateways]
    rfl

end Drop

/-! ### Deletions -/

section Deletions
variable {w : World} {p id u : String}

theorem findChild_ok {c : Child} (h : ((Children.findOne p id).run w).1 = .ok c) :
    w.db.children.find id = some c ∧ c.parentId = p := by
  have hr : (Children.findOne p id).run w = (.ok c, ((Children.findOne p id).run w).2) :=
    Prod.ext h rfl
  obtain ⟨hfind, hparent, -⟩ := run_checked_ok hr
  exact ⟨hfind, hparent⟩

/-- A row is looked up, and then the same database is worked on. -/
theorem sound_lookup {α β : Type} {look : Api α} {f : α → Api β} (h : SoundDb w.db)
    (hlook : ∀ db, Prog.Keeps (OnDb fun db' => db' = db) look)
    (hf : ∀ a v, (look.run w).1 = .ok a → v.db = w.db → SoundDb ((f a).run v).2.db) :
    SoundDb ((look >>= f).run w).2.db := by
  have hdb : (look.run w).2.db = w.db := hlook w.db w rfl
  rw [Prog.run_bind]
  rcases hr : look.run w with ⟨e | a, v⟩ <;> rw [hr] at hdb
  · exact hdb ▸ h
  · exact hf a v (by rw [hr]) hdb

theorem sound_delete {ρ : Type} {key : ρ → String} {m : Model key} {k : String} {v : World}
    (h : SoundDb v.db)
    (hd : SoundDb (m.onDelete k (m.set v.db ((m.get v.db).erase fun r => key r = k)))) :
    SoundDb ((Prisma.delete m k).run v).2.db := by
  rcases run_delete_cases m k v with ⟨e, hrun⟩ | ⟨r, -, hrun⟩ <;> rw [hrun]
  · exact h
  · exact hd

theorem sound_removeChild (h : SoundDb w.db) (hspares : ∀ c, w.db.children.find id = some c →
    c.parentId = p → .child id ∉ refsOf w.db) : SoundDb ((Children.remove p id).run w).2.db := by
  refine sound_lookup h (fun db => .bind (keeps_query (steady_onDb _) _) fun _ =>
    .bind (.orThrow _ _) fun _ => .bind (.require _ _) fun _ => .pure _) fun c v hc hv => ?_
  obtain ⟨hfind, hp⟩ := findChild_ok hc
  refine sound_delete (by rw [hv]; exact h) ?_
  unfold SoundDb
  rw [graph_deleteChild, hv]
  exact h.dropChild (hspares c hfind hp)

theorem sound_removeDevice (h : SoundDb w.db) (hspares : ∀ d, w.db.devices.find id = some d →
    d.parentId = p → .device id ∉ refsOf w.db) : SoundDb ((Devices.remove p id).run w).2.db := by
  refine sound_lookup h (fun db => .bind (keeps_query (steady_onDb _) _) fun _ =>
    .bind (.orThrow _ _) fun _ => .bind (.require _ _) fun _ => .pure _) fun d v hd hv => ?_
  obtain ⟨hfind, hp⟩ := findDevice_ok hd
  refine sound_delete (by rw [hv]; exact h) ?_
  unfold SoundDb
  rw [graph_deleteDevice, hv]
  exact h.dropDevice (hspares d hfind hp)

/-! ### `deleteGateway` cleans up -/

/-- What is left to clean before the gateway can go. -/
structure Cleaned (k : String) (routers commands logs : Bool) (db : Database) : Prop where
  sound : SoundDb db
  routers : routers = true → ∀ r ∈ db.detectedRouters.rows, r.gatewayId ≠ k
  commands : commands = true → ∀ c ∈ db.routerCommands.rows, c.gatewayId ≠ k
  logs : logs = true → ∀ l ∈ db.vpnDetectionLogs.rows, l.gatewayId ≠ k

theorem Cleaned.notMem {k : String} {db : Database} (h : Cleaned k true true true db) :
    .gateway k ∉ refsOf db := by
  rw [mem_refsOf]
  rintro (⟨r, hr, heq⟩ | ⟨c, hc, hmem⟩ | ⟨l, hl, hmem⟩ | ⟨b, hb, hmem⟩)
  · exact h.routers rfl r hr (Link.gateway.inj heq).symm
  · simp only [commandRefs, ofRouterCommand, List.mem_cons, Link.gateway.injEq, List.mem_map,
      reduceCtorEq, and_false, exists_false, or_false] at hmem
    exact h.commands rfl c hc hmem.symm
  · simp only [detectionRefs, List.mem_cons, Link.gateway.injEq, reduceCtorEq, List.not_mem_nil,
      or_false] at hmem
    exact h.logs rfl l hl hmem.symm
  · simp [limitRefs, ofLimit] at hmem

/-- Devices may be taken off their gateways. -/
theorem sound_unlinkDevices {q : Device → Bool} {f : Device → Device} {hf : ∀ d, (f d).id = d.id}
    (howner : ∀ d, (f d).parentId = d.parentId) (hgateway : ∀ d, (f d).gatewayId = none) :
    Prog.Keeps (OnDb SoundDb) (Prisma.updateMany .device q f hf) := by
  refine keeps_updateMany fun v hv => ?_
  have htouch : ∀ r, (Model.device.touch v.now (f r)).id = r.id := fun r => by
    rw [Model.device.touch_key, hf]
  refine Sound.setDevices hv (fun d hd => ?_) fun d' hd' => ?_
  · obtain ⟨r, hr, rfl⟩ := List.mem_map.mp hd
    refine ⟨ofDevice (if q r then Model.device.touch v.now (f r) else r),
      List.mem_map_of_mem ?_, ?_⟩
    · exact (@Table.mem_modify _ _ _ _ q _ htouch _).mpr ⟨r, hr, rfl⟩
    · split_ifs
      · exact hf r
      · rfl
  · obtain ⟨r₁, hr₁, rfl⟩ := List.mem_map.mp hd'
    obtain ⟨r, hr, rfl⟩ := (@Table.mem_modify _ _ _ _ q _ htouch _).mp hr₁
    refine ⟨ofDevice r, List.mem_map_of_mem hr, ?_, fun k hk => .inl ?_⟩
    · split_ifs
      · exact howner r
      · rfl
    · split_ifs at hk with hq
      · have hnone : (f r).gatewayId = some k := hk
        rw [hgateway] at hnone
        cases hnone
      · exact hk

theorem sound_deleteGateway {k : String} (h : SoundDb w.db) :
    SoundDb ((Gateways.deleteGateway p k).run w).2.db := by
  refine sound_lookup h (fun db => .bind (.bind (keeps_query (steady_onDb _) _) fun _ =>
    .orThrow _ _) fun _ => .bind (.require _ _) fun _ => .pure _) fun g v hg hv => ?_
  rw [← hv] at h
  have hend := onDb_transaction_of_triple (J := SoundDb) (w := v) (P := SoundDb) h
    (q := do
      let _ ← viaTx (Prisma.updateMany .device (fun d => d.gatewayId = some k)
        fun d => { d with gatewayId := none })
      viaTx (Prisma.deleteMany .detectedRouter fun r => r.gatewayId = k)
      viaTx (Prisma.deleteMany .routerCommand fun c => c.gatewayId = k)
      viaTx (Prisma.deleteMany .vpnDetectionLog fun l => l.gatewayId = k)
      viaTx (Prisma.delete .gateway k)) ?_
  · rcases hend with hend | hend
    · exact hend
    · exact (congrArg SoundDb hend).mpr h
  refine .bind (triple_viaTx (K := Cleaned k false false false) fun v hv => ?_) fun _ =>
    .bind (triple_viaTx (K := Cleaned k true false false) fun v hv => ?_) fun _ =>
    .bind (triple_viaTx (K := Cleaned k true true false) fun v hv => ?_) fun _ =>
    .bind (triple_viaTx (K := Cleaned k true true true) fun v hv => ?_) fun _ =>
    triple_viaTx fun v hv => ?_
  · refine ⟨sound_unlinkDevices ?_ ?_ v hv, by simp, by simp, by simp⟩
    · intro d
      rfl
    · intro d
      rfl
  · refine ⟨keeps_of_pinned (fun _ => detectedRouter.deleteMany _) v hv.sound, fun _ r hr => ?_,
      by simp, by simp⟩
    simpa using (Table.mem_erase.mp hr).2
  · refine ⟨keeps_of_pinned (fun _ => routerCommand.deleteMany _) v hv.sound, hv.routers,
      fun _ c hc => ?_, by simp⟩
    simpa using (Table.mem_erase.mp hc).2
  · refine ⟨keeps_of_pinned (fun _ => vpnDetectionLog.deleteMany _) v hv.sound, hv.routers,
      hv.commands, fun _ l hl => ?_⟩
    simpa using (Table.mem_erase.mp hl).2
  · refine sound_delete hv.sound ?_
    unfold SoundDb
    rw [graph_deleteGateway]
    exact hv.sound.dropGateway hv.notMem

/-- An account is deleted with what the foreign keys reach, or the graph stays. -/
theorem graph_deleteAccount : graphOf ((Parents.deleteAccount u).run w).2.db = graphOf w.db ∨
    (w.db.users.find u).isSome ∧
      graphOf ((Parents.deleteAccount u).run w).2.db = (graphOf w.db).dropUser u := by
  rw [Parents.deleteAccount, Prog.run_bind, run_findUnique]
  have hget : (Model.user.get w.db).find u = w.db.users.find u := rfl
  rw [hget]
  rcases hu : w.db.users.find u with _ | user
  · exact .inl rfl
  obtain rfl : user.id = u := Table.key_of_find hu
  change graphOf ((Prisma.transaction _).run (World.afterCall w w.db)).2.db = _ ∨
    _ ∧ graphOf ((Prisma.transaction _).run (World.afterCall w w.db)).2.db = _
  have hlogs : Free .auditLog (OnDb fun db => graphOf db = graphOf w.db) := fun _ _ hw => hw
  have hlog := hlogs.create (steady_onDb _) (Parents.deletionEntry user)
  have hend := onDb_transaction_of_triple (w := World.afterCall w w.db)
    (J := fun db => graphOf db = graphOf w.db ∨ graphOf db = (graphOf w.db).dropUser user.id)
    (P := fun db => graphOf db = graphOf w.db) rfl
    (q := do
      let _ ← viaTx (Prisma.create .auditLog (Parents.deletionEntry user))
      viaTx (Prisma.delete .user user.id)) ?_
  · rcases hend with (hend | hend) | hend
    · exact .inl hend
    · exact .inr ⟨rfl, hend⟩
    · exact .inl (congrArg graphOf hend)
  · refine .bind (triple_viaTx (J := fun db => graphOf db = graphOf w.db)
      (K := fun db => graphOf db = graphOf w.db) fun v hv => hlog v hv)
      fun _ => triple_viaTx (J := fun db => graphOf db = graphOf w.db) (K := fun db =>
        graphOf db = graphOf w.db ∨ graphOf db = (graphOf w.db).dropUser user.id) fun v hv => ?_
    rcases run_delete_cases .user user.id v with ⟨e, hrun⟩ | ⟨r, -, hrun⟩ <;> rw [hrun]
    · exact .inl hv
    · refine .inr ((graph_deleteUser v.db user.id).trans ?_)
      rw [hv]

end Deletions

/-! ### Runs -/

/-- The calls that may write a row with a reference, or delete a row that is referred to. -/
inductive Operation where
  | request (r : Request)
  | setup (parentId gatewayId : String) (dto : RouterIntegration.RouterSetupDto)
  | testConnection (parentId gatewayId : String)
  | triggerDetection (parentId gatewayId : String)
  | changeDns (parentId gatewayId dnsServer : String)
  | blockMac (parentId gatewayId macAddress : String)
  | unblockMac (parentId gatewayId macAddress : String)
  | endGamingSession (parentId gatewayId deviceId : String)
  | setSetupStatus (parentId deviceId : String) (dto : OfflineControl.SetSetupStatusDto)
  | deleteAccount (userId : String)

/-- As one of all calls. -/
def Operation.call : Operation → Call
  | .request r => .request r
  | .setup p k dto => .setupRouter p k dto
  | .testConnection p k => .testConnection p k
  | .triggerDetection p k => .triggerDetection p k
  | .changeDns p k dns => .changeDns p k dns
  | .blockMac p k mac => .blockMac p k mac
  | .unblockMac p k mac => .unblockMac p k mac
  | .endGamingSession p k d => .endGamingSession p k d
  | .setSetupStatus p d dto => .setSetupStatus p d dto
  | .deleteAccount u => .deleteAccount u

/-- An operation with its time. -/
structure Event where
  time : Time
  operation : Operation

section Runs
variable (env : Env) (encryption : OAuth.EncryptionService)

/-- What the services do. -/
def prog : Operation → Api Unit
  | .request r => handle env r
  | .setup p k dto => System.Run.discard (RouterIntegration.setup encryption p k dto)
  | .testConnection p k => System.Run.discard (RouterIntegration.testConnection p k)
  | .triggerDetection p k => System.Run.discard (RouterIntegration.triggerDetection p k)
  | .changeDns p k dns => System.Run.discard (RouterIntegration.changeDns p k dns)
  | .blockMac p k mac => System.Run.discard (RouterIntegration.blockMac p k mac)
  | .unblockMac p k mac => System.Run.discard (RouterIntegration.unblockMac p k mac)
  | .endGamingSession p k d => System.Run.discard (SmartBlock.endGamingSession p k d)
  | .setSetupStatus p d dto => System.Run.discard (OfflineControl.setSetupStatus p d dto)
  | .deleteAccount u => Parents.deleteAccount u

/-- The world after the event. -/
def exec (w : World) (e : Event) : World :=
  ((prog env encryption e.operation).run { w with now := e.time }).2

/-- Events are occasions of calls. -/
theorem exec_eq_perform (microsoft : OAuth.Microsoft) (w : World) (e : Event) :
    exec env encryption w e = perform env encryption microsoft w ⟨e.time, e.operation.call⟩ := by
  have hprog : ∀ o : Operation,
      prog env encryption o = handleCall env encryption microsoft o.call := by
    intro o
    cases o <;> rfl
  unfold exec perform
  rw [hprog]

end Runs

/-- The router of the gateway has a way to end gaming sessions. -/
def CanEndGaming (db : Database) (k : String) : Prop :=
  ∃ r, db.detectedRouters.rows.find? (fun r => r.gatewayId = k) = some r ∧
    ∃ s ∈ SmartBlock.strategyPriority, SmartBlock.isSupported r.pluginId s.2 = true

/-- A deletion spares the rows that are referred to, and new references are to rows that are there:
a child, a device or an account is deleted only when nothing refers to its rows, a limit is not for
the empty id, and gaming sessions are ended on devices that exist. -/
def Spares (db : Database) : Operation → Prop
  | .request (.removeChild p id) =>
    ∀ c, db.children.find id = some c → c.parentId = p → .child id ∉ refsOf db
  | .request (.removeDevice p id) =>
    ∀ d, db.devices.find id = some d → d.parentId = p → .device id ∉ refsOf db
  | .request (.createLimit _ dto) => dto.childId ≠ some "" ∧ dto.deviceId ≠ some ""
  | .endGamingSession p k d => ∀ g, db.gateways.find k = some g → g.parentId = p →
    CanEndGaming db k → (db.devices.find d).isSome
  | .deleteAccount u => (db.users.find u).isSome → ∀ l ∈ refsOf db, ¬ (graphOf db).Of u l
  | _ => True

section Steps
variable {w : World}

theorem sound_endGamingSession {p k d : String} (h : SoundDb w.db)
    (hspares : Spares w.db (.endGamingSession p k d)) :
    SoundDb ((SmartBlock.endGamingSession p k d).run w).2.db := by
  refine sound_lookup h (fun db => keeps_query (steady_onDb _) _) fun found v hfound hv => ?_
  obtain rfl : w.db.gateways.find k = found := Except.ok.inj hfound
  rcases hg : w.db.gateways.find k with _ | g
  · rw [← hv] at h
    exact h
  rw [← hv] at h hg hspares
  refine sound_lookup h (fun db => .orThrow _ _) fun g' v₁ hg' hv₁ => ?_
  obtain rfl : g = g' := Except.ok.inj hg'
  rw [← hv₁] at h hg hspares
  refine sound_lookup h (fun db => .require _ _) fun _ v₂ hp hv₂ => ?_
  have hp : g.parentId = p := (Prog.run_require_ok.mp (Prod.ext hp rfl)).1
  rw [← hv₂] at h hg hspares
  by_cases hcan : CanEndGaming v₂.db k
  · obtain ⟨row, hrow⟩ := Option.isSome_iff_exists.mp (hspares g hg hp hcan)
    have hid : row.id = d := Table.key_of_find hrow
    have hpinned : Pinned (graphOf v₂.db) v₂.db := ⟨h, rfl⟩
    refine (pinned_enqueueStrategyCommand _ _ ?_ ?_ v₂ hpinned).1
    · exact hpinned.foundGateway hg
    · exact ⟨ofDevice row, List.mem_map_of_mem (Table.mem_of_find hrow), hid⟩
  · refine sound_lookup h (fun db => keeps_query (steady_onDb _) _) fun router v₃ hrouter hv₃ => ?_
    obtain rfl : v₂.db.detectedRouters.rows.find? (fun r => r.gatewayId = k) = router :=
      Except.ok.inj hrouter
    rw [← hv₃] at h
    rw [if_pos]
    · exact (Prog.Keeps.bind (quiet_log _ frame_sound) fun _ => .pure _) v₃ h
    rw [List.map_eq_nil_iff, List.filter_eq_nil_iff]
    intro a ha hsupported
    obtain ⟨s, hs, rfl⟩ := List.mem_map.mp ha
    rcases hr : v₂.db.detectedRouters.rows.find? (fun r => r.gatewayId = k) with _ | r
    · simp [hr, SmartBlock.isSupported] at hsupported
    · exact hcan ⟨r, hr, s, hs, by simpa [hr] using hsupported⟩

theorem sound_setSetupStatus (p d : String) (dto : OfflineControl.SetSetupStatusDto) :
    Prog.Keeps (OnDb SoundDb) (OfflineControl.setSetupStatus p d dto) :=
  .bind (quiet_findDevice p d frame_sound) fun _ => .bind keeps_newDate fun _ =>
    quiet_device (fun _ => by rfl) frame_sound

theorem sound_deleteAccount {u : String} (h : SoundDb w.db)
    (hspares : Spares w.db (.deleteAccount u)) :
    SoundDb ((Parents.deleteAccount u).run w).2.db := by
  unfold SoundDb
  rcases @graph_deleteAccount w u with heq | ⟨hu, heq⟩
  · rw [heq]
    exact h
  · rw [heq]
    exact h.dropUser (hspares hu)

/-- A step that spares what is referred to keeps the references. -/
theorem sound_exec (env : Env) (encryption : OAuth.EncryptionService) {e : Event}
    (h : SoundDb w.db) (hspares : Spares w.db e.operation) :
    SoundDb (exec env encryption w e).db := by
  obtain ⟨t, op⟩ := e
  cases op with
  | request r =>
    by_cases hd : Deletes r
    · cases r with
      | removeChild p id => exact sound_removeChild (w := { w with now := t }) h hspares
      | removeDevice p id => exact sound_removeDevice (w := { w with now := t }) h hspares
      | deleteGateway p id => exact sound_deleteGateway (w := { w with now := t }) h
      | _ => exact hd.elim
    · refine sound_handle env hd ?_ { w with now := t } h
      cases r with
      | createLimit p dto => exact hspares
      | _ => trivial
  | setup p k dto =>
    exact keeps_discard (keeps_of_pinned fun _ => pinned_setup encryption p k dto) _ h
  | testConnection p k => exact keeps_discard (keeps_of_pinned fun _ => pinned_request _ _ _ _) _ h
  | triggerDetection p k =>
    exact keeps_discard (keeps_of_pinned fun _ => pinned_request _ _ _ _) _ h
  | changeDns p k dns => exact keeps_discard (keeps_of_pinned fun _ => pinned_request _ _ _ _) _ h
  | blockMac p k mac => exact keeps_discard (keeps_of_pinned fun _ => pinned_request _ _ _ _) _ h
  | unblockMac p k mac => exact keeps_discard (keeps_of_pinned fun _ => pinned_request _ _ _ _) _ h
  | endGamingSession p k d =>
    rw [exec, prog, System.Run.run_discard_snd]
    exact sound_endGamingSession (w := { w with now := t }) h hspares
  | setSetupStatus p d dto => exact keeps_discard (sound_setSetupStatus p d dto) _ h
  | deleteAccount u => exact sound_deleteAccount (w := { w with now := t }) h hspares

end Steps

/-- What the rows of the tables without foreign keys refer to exists. -/
structure NoDangling (db : Database) : Prop where
  routers : ∀ r ∈ db.detectedRouters.rows, (db.gateways.find r.gatewayId).isSome
  commands : ∀ c ∈ db.routerCommands.rows, (db.gateways.find c.gatewayId).isSome ∧
    ∀ d ∈ c.deviceId, (db.devices.find d).isSome
  detections : ∀ l ∈ db.vpnDetectionLogs.rows, (db.gateways.find l.gatewayId).isSome ∧
    (db.devices.find l.deviceId).isSome
  limits : ∀ b ∈ db.bandwidthLimits.rows, (db.users.find b.parentId).isSome ∧
    (∀ c ∈ b.childId, (db.children.find c).isSome) ∧ ∀ d ∈ b.deviceId, (db.devices.find d).isSome

/-- No reference is to a row that the user had before. -/
def NothingOf (u : String) (before after : Database) : Prop :=
  ∀ l ∈ refsOf after, ¬ (graphOf before).Of u l

theorem holds_refs {db : Database} (h : SoundDb db) {l : Link} (hl : l ∈ refsOf db) :
    l.holds db = true := by
  have hold := h.refs l hl
  cases l with
  | user id =>
    obtain ⟨u, hu, rfl⟩ := List.mem_map.mp hold
    exact Option.isSome_iff_exists.mpr ⟨u, Table.find_key hu⟩
  | child id =>
    obtain ⟨c, hc, rfl⟩ := hold
    obtain ⟨row, hrow, rfl⟩ := List.mem_map.mp hc
    exact Option.isSome_iff_exists.mpr ⟨row, Table.find_key hrow⟩
  | device id =>
    obtain ⟨d, hd, rfl⟩ := hold
    obtain ⟨row, hrow, rfl⟩ := List.mem_map.mp hd
    exact Option.isSome_iff_exists.mpr ⟨row, Table.find_key hrow⟩
  | gateway id =>
    obtain ⟨k, hk, rfl⟩ := hold
    obtain ⟨row, hrow, rfl⟩ := List.mem_map.mp hk
    exact Option.isSome_iff_exists.mpr ⟨row, Table.find_key hrow⟩
  | command id => exact hold.elim

theorem noDangling_of_sound {db : Database} (h : SoundDb db) : NoDangling db := by
  refine ⟨fun r hr => ?_, fun c hc => ⟨?_, fun d hd => ?_⟩, fun l hl => ⟨?_, ?_⟩,
    fun b hb => ⟨?_, fun c hc => ?_, fun d hd => ?_⟩⟩
  · exact holds_refs h (detectedRouter.of_row db r hr (.gateway r.gatewayId) (by simp))
  · exact holds_refs h (routerCommand.of_row db c hc (.gateway c.gatewayId)
      (by simp [commandRefs, ofRouterCommand]))
  · have hd : c.deviceId = some d := hd
    exact holds_refs h (routerCommand.of_row db c hc (.device d)
      (by simp [commandRefs, ofRouterCommand, hd]))
  · exact holds_refs h (vpnDetectionLog.of_row db l hl (.gateway l.gatewayId)
      (by simp [detectionRefs]))
  · exact holds_refs h (vpnDetectionLog.of_row db l hl (.device l.deviceId)
      (by simp [detectionRefs]))
  · exact holds_refs h (bandwidthLimit.of_row db b hb (.user b.parentId)
      (by simp [limitRefs, ofLimit]))
  · have hc : b.childId = some c := hc
    exact holds_refs h (bandwidthLimit.of_row db b hb (.child c) (by simp [limitRefs, ofLimit, hc]))
  · have hd : b.deviceId = some d := hd
    exact holds_refs h
      (bandwidthLimit.of_row db b hb (.device d) (by simp [limitRefs, ofLimit, hd]))

theorem nothingOf_deleteAccount {w : World} {u : String} (hu : (w.db.users.find u).isSome)
    (hspares : Spares w.db (.deleteAccount u)) :
    NothingOf u w.db ((Parents.deleteAccount u).run w).2.db := by
  have hrefs : refsOf ((Parents.deleteAccount u).run w).2.db = refsOf w.db := by
    rcases @graph_deleteAccount w u with heq | ⟨-, heq⟩
    · exact congrArg Graph.refs heq
    · exact congrArg Graph.refs heq
  intro l hl
  rw [hrefs] at hl
  exact hspares hu l hl

section Runs
variable {env : Env} {encryption : OAuth.EncryptionService}

/-- **References stay good.** From an empty database, in every state of a run whose deletions spare
what is referred to, the rows without foreign keys refer to existing rows, and after the deletion of
an account they refer to nothing of the account. -/
theorem references_good {w : World} (hw : w.db = .empty) {es : List Event}
    (h : Steps (exec env encryption) (fun w e => Spares w.db e.operation) w es) :
    (∀ es₁, es₁ <+: es → NoDangling (es₁.foldl (exec env encryption) w).db) ∧
    ∀ es₁ t u es₂, es = es₁ ++ ⟨t, .deleteAccount u⟩ :: es₂ →
      ((es₁.foldl (exec env encryption) w).db.users.find u).isSome →
      NothingOf u (es₁.foldl (exec env encryption) w).db
        ((es₁ ++ [⟨t, .deleteAccount u⟩]).foldl (exec env encryption) w).db := by
  have hempty : SoundDb w.db := by
    rw [hw]
    refine ⟨?_, ?_, ?_, ?_⟩ <;> simp [graphOf, refsOf, Database.empty]
  refine ⟨fun es₁ hes => ?_, fun es₁ t u es₂ hes hu => ?_⟩
  · obtain ⟨es₂, rfl⟩ := hes
    exact noDangling_of_sound (foldl_of_steps (I := fun w => SoundDb w.db)
      (fun _ _ hs => sound_exec env encryption hs) hempty h.of_append)
  · rw [List.foldl_append]
    exact nothingOf_deleteAccount (w := { es₁.foldl (exec env encryption) w with now := t }) hu
      (h es₁ _ es₂ hes)

end Runs

/-- A parent with a gateway saves the credentials of the router. -/
def routerSaved : List Event :=
  [⟨1, .request (.register ⟨"amal@example.com", "secret", none, none⟩)⟩,
   ⟨2, .request (.registerGateway "uuid-2-0" "home" none .softwareAgent none)⟩,
   ⟨3, .setup "uuid-2-0" "uuid-8-0"
     { vendorPluginId := some "mikrotik", username := some "admin" }⟩]

/-- The parent deletes the gateway and then the account. -/
def leaves : List Event :=
  [⟨4, .request (.deleteGateway "uuid-2-0" "uuid-8-0")⟩, ⟨5, .deleteAccount "uuid-2-0"⟩]

theorem references_good_leaves :
    NoDangling ((routerSaved ++ leaves).foldl (exec .plain readable) (.fresh .empty 0)).db := by
  have hspares : Steps (exec .plain readable) (fun w e => Spares w.db e.operation) (.fresh .empty 0)
      (routerSaved ++ leaves) := by
    refine steps_cons.mpr ⟨trivial, steps_cons.mpr ⟨trivial, steps_cons.mpr ⟨trivial, steps_cons.mpr
      ⟨trivial, steps_cons.mpr ⟨fun _ l hl => ?_, steps_nil _⟩⟩⟩⟩⟩
    have hnone : refsOf (((routerSaved ++ leaves).take 4).foldl (exec .plain readable)
        (.fresh .empty 0)).db = [] := by
      decide +kernel
    exact absurd (hnone ▸ hl : l ∈ []) List.not_mem_nil
  exact (references_good rfl hspares).1 _ List.prefix_rfl

/-- An account is deleted without its gateways: the credentials of the router stay. -/
theorem router_left : ¬ ∀ (env : Env) (encryption : OAuth.EncryptionService) (w : World)
    (es : List Event), w.db = .empty → NoDangling (es.foldl (exec env encryption) w).db := by
  intro h
  have hgood := h .plain readable (.fresh .empty 0)
    (routerSaved ++ [⟨4, .deleteAccount "uuid-2-0"⟩]) rfl
  exact absurd hgood.routers (by decide +kernel)

end GuardTime.References
