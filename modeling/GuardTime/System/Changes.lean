import Mathlib.Tactic
import Mathlib.Logic.Relation
import GuardTime.System.Quiet
import GuardTime.System.Run
import GuardTime.Dns.Cache

/-! # How requests change links

`Change r` says once what a request `r` can do to the links of the database, one write at a time.
`Kept r I` is a property that survives these changes; `keeps_handle` says that the whole request
keeps it. Every invariant of links, and every property of the cache alone, follows from there. -/

namespace GuardTime.System.Changes

open GuardTime.Lib.Program GuardTime.Lib.Keyed GuardTime.Lib.Js GuardTime.Schema GuardTime.Server
open GuardTime.Prisma GuardTime.Services GuardTime.System.Links GuardTime.System.Quiet
open GuardTime.System.Run

/-! ### Changes of a graph -/

/-- Delete a child; its devices are kept. -/
def dropChild (id : String) (g : LinkGraph) : LinkGraph where
  children := g.children.filter fun c => c.id ≠ id
  gateways := g.gateways
  devices := g.devices.map fun d => if d.childId = some id then { d with childId := none } else d
  sessions := g.sessions.filter fun s => s.childId ≠ id
  categoryBlocks := g.categoryBlocks.filter fun b => b.childId ≠ id

/-- Delete a device with its sessions. -/
def dropDevice (id : String) (g : LinkGraph) : LinkGraph :=
  { g with
    devices := g.devices.filter fun d => d.id ≠ id
    sessions := g.sessions.filter fun s => s.deviceId ≠ id }

/-- Take the devices of a gateway off it. -/
def unlinkGateway (id : String) (g : LinkGraph) : LinkGraph :=
  { g with
    devices := g.devices.map fun d =>
      if d.gatewayId = some id then { d with gatewayId := none } else d }

/-- Delete a gateway; its devices are kept. -/
def dropGateway (id : String) (g : LinkGraph) : LinkGraph :=
  { unlinkGateway id g with gateways := g.gateways.filter fun o => o.id ≠ id }

/-- The links of a device after an update. -/
def relink (dto : Devices.UpdateDeviceDto) (d : DeviceLink) : DeviceLink :=
  { d with childId := dto.childId.over d.childId, gatewayId := dto.gatewayId.over d.gatewayId }

/-- The child of some session or device. -/
def Concerned (g : LinkGraph) (c : String) : Prop :=
  (∃ s ∈ g.sessions, s.childId = c) ∨ ∃ d ∈ g.devices, d.childId = some c

/-- The child exists. -/
def HasChild (g : LinkGraph) (id : String) : Prop := ∃ o ∈ g.children, o.id = id

/-- The gateway exists. -/
def HasGateway (g : LinkGraph) (id : String) : Prop := ∃ o ∈ g.gateways, o.id = id

/-- The writes of a request that change links. -/
inductive Change : Request → LinkGraph → LinkGraph → Prop
  | createChild {p dto g} (id : String) :
    Change (.createChild p dto) g { g with children := g.children ++ [⟨id, p⟩] }
  | removeChild {p id g} : Change (.removeChild p id) g (dropChild id g)
  | registerGateway {p name endpoint type description g} (id : String) :
    Change (.registerGateway p name endpoint type description) g
      { g with gateways := g.gateways ++ [⟨id, p⟩] }
  | unlinkGateway {p id g} : Change (.deleteGateway p id) g (unlinkGateway id g)
  | deleteGateway {p id g} : Change (.deleteGateway p id) g (dropGateway id g)
  | createDevice {p dto g} (id : String) (hc : HasChild g dto.childId)
      (hg : ∀ k, dto.gatewayId = some k → HasGateway g k) :
    Change (.createDevice p dto) g
      { g with devices := g.devices ++ [⟨id, p, some dto.childId, dto.gatewayId⟩] }
  | registerDevice {p dto g} (id : String) (hc : HasChild g dto.childId) :
    Change (.registerDevice p dto) g
      { g with devices := g.devices ++ [⟨id, p, some dto.childId, none⟩] }
  | updateDevice {p id dto g} (howner : ∀ d ∈ g.devices, d.id = id → d.parentId = p)
      (hc : ∀ d ∈ g.devices, d.id = id → ∀ c, (relink dto d).childId = some c →
        d.childId = some c ∨ HasChild g c)
      (hg : ∀ d ∈ g.devices, d.id = id → ∀ k, (relink dto d).gatewayId = some k →
        d.gatewayId = some k ∨ HasGateway g k) :
    Change (.updateDevice p id dto) g
      { g with devices := g.devices.map fun d => if d.id = id then relink dto d else d }
  | removeDevice {p id g} : Change (.removeDevice p id) g (dropDevice id g)
  | startSession {p dto g} (id : String) {d : DeviceLink} (hd : d ∈ g.devices)
      (hid : d.id = dto.deviceId) (hp : d.parentId = p) {c : String} (hc : d.childId = some c) :
    Change (.startSession p dto) g
      { g with sessions := g.sessions ++ [⟨id, dto.deviceId, c, p⟩] }
  | block {pass g} {blocks : List CategoryBlock} (c : String) (hc : Concerned g c)
      (h : ∀ b ∈ blocks, b ∈ g.categoryBlocks ∨ b.childId = c) :
    Change (.scheduler pass) g { g with categoryBlocks := blocks }

/-- The property survives the changes a request makes. -/
def Kept (r : Request) (I : World → Prop) : Prop := ∀ w w',
  Relation.ReflTransGen (Change r) (linksOf w.db) (linksOf w'.db) → w'.cache = w.cache →
  w'.now = w.now → I w → I w'

section Kept
variable {I : World → Prop} {r : Request}

theorem Kept.frame (h : Kept r I) : Frame linkView I := by
  intro w w' hl hc hn hw
  have hlinks : linksOf w'.db = linksOf w.db := hl
  exact h w w' (hlinks ▸ .refl) hc hn hw

theorem Kept.call (h : Kept r I) {w : World} (hw : I w) {db : Database}
    (hl : Change r (linksOf w.db) (linksOf db)) : I (World.afterCall w db) :=
  h w _ (.single hl) rfl rfl hw

/-- The links have come from `g` by changes of `r`. -/
def Since (r : Request) (g : LinkGraph) (db : Database) : Prop :=
  Relation.ReflTransGen (Change r) g (linksOf db)

theorem frame_since (r : Request) (g : LinkGraph) : Frame linkView (OnDb (Since r g)) :=
  fun w w' hl _ _ hw => by
    have hlinks : linksOf w'.db = linksOf w.db := hl
    unfold OnDb Since
    rw [hlinks]
    exact hw

theorem Kept.transaction (h : Kept r I) {α : Type} {q : Prog TxWorld Err α}
    (hdb : ∀ g, Prog.Keeps (TxOnDb (Since r g)) q) (hoff : ∀ Q, Prog.Keeps (TxOffDb Q) q) :
    Prog.Keeps I (Prisma.transaction q) := by
  intro w hw
  have hl := keeps_transaction (hdb (linksOf w.db)) w .refl
  have hc := keeps_transaction_offDb (hoff fun c t => c = w.cache ∧ t = w.now) w ⟨rfl, rfl⟩
  exact h w _ hl hc.1 hc.2 hw

theorem kept_offDb (r : Request) (Q : Lib.TtlCache.Cache String CacheValue → Time → Prop) :
    Kept r (OffDb Q) := fun _ _ _ hc hn hw => by
  unfold OffDb; rw [hc, hn]; exact hw

end Kept

/-! ### Deletions -/

section
variable {ρ τ : Type} {key : ρ → String} {t : Table key} {p : ρ → Bool} {g : ρ → τ}

theorem map_erase {q : τ → Bool} (h : ∀ r, q (g r) = !p r) :
    (t.erase p).rows.map g = (t.rows.map g).filter q := by
  rw [List.filter_map]
  exact congrArg _ (List.filter_congr fun r _ => (h r).symm)

theorem map_modify_eq {f : ρ → ρ} {f' : τ → τ} (hf : ∀ r, key (f r) = key r)
    (h : ∀ r, g (if p r then f r else r) = f' (g r)) :
    (t.modify p f hf).rows.map g = (t.rows.map g).map f' := by
  rw [Table.modify, List.map_map, List.map_map]
  exact List.map_congr_left fun r _ => h r

end

theorem ofDevice_unchild (id : String) (d : Device) :
    ofDevice (if d.childId.any (· ∈ [id]) then { d with childId := none } else d) =
      if (ofDevice d).childId = some id then { ofDevice d with childId := none }
        else ofDevice d := by
  rcases hc : d.childId with _ | c
  · simp [ofDevice, hc]
  · by_cases h : c = id <;> simp [ofDevice, hc, h]

theorem ofDevice_ungateway (id : String) (d : Device) :
    ofDevice (if d.gatewayId.any (· ∈ [id]) then { d with gatewayId := none } else d) =
      if (ofDevice d).gatewayId = some id then { ofDevice d with gatewayId := none }
        else ofDevice d := by
  rcases hc : d.gatewayId with _ | c
  · simp [ofDevice, hc]
  · by_cases h : c = id <;> simp [ofDevice, hc, h]

theorem links_removeChild (db : Database) (id : String) :
    linksOf (Model.child.onDelete id (Model.child.set db
      ((Model.child.get db).erase fun r => r.id = id))) = dropChild id (linksOf db) := by
  have hchildren : ∀ c, decide ((ofChild c).id ≠ id) = !decide (c.id = id) := by
    intro c
    by_cases h : c.id = id <;> simp [ofChild, h]
  have hsessions : ∀ s, decide ((ofSession s).childId ≠ id) = !decide (s.childId ∈ [id]) := by
    intro s
    by_cases h : s.childId = id <;> simp [ofSession, h]
  refine LinkGraph.ext (map_erase hchildren) rfl ?_ (map_erase hsessions) ?_
  · exact map_modify_eq (fun _ => by rfl) (ofDevice_unchild id)
  · exact List.filter_congr fun b _ => by simp

theorem links_removeDevice (db : Database) (id : String) :
    linksOf (Model.device.onDelete id (Model.device.set db
      ((Model.device.get db).erase fun r => r.id = id))) = dropDevice id (linksOf db) := by
  have hdevices : ∀ d, decide ((ofDevice d).id ≠ id) = !decide (d.id = id) := by
    intro d
    by_cases h : d.id = id <;> simp [ofDevice, h]
  have hsessions : ∀ s, decide ((ofSession s).deviceId ≠ id) = !decide (s.deviceId ∈ [id]) := by
    intro s
    by_cases h : s.deviceId = id <;> simp [ofSession, h]
  exact LinkGraph.ext rfl rfl (map_erase hdevices) (map_erase hsessions) rfl

theorem links_unlinkGateway (db : Database) (t : Time) (id : String)
    (hf : ∀ d : Device, (Model.device.touch t { d with gatewayId := none }).id = d.id) :
    linksOf (Model.device.set db ((Model.device.get db).modify (fun d => d.gatewayId = some id)
      (fun d => Model.device.touch t { d with gatewayId := none }) hf)) =
        unlinkGateway id (linksOf db) := by
  refine LinkGraph.ext rfl rfl (map_modify_eq hf fun d => ?_) rfl rfl
  by_cases h : d.gatewayId = some id
  · simp [ofDevice, h, Model.device]
  · simp [ofDevice, h]

theorem links_removeGateway (db : Database) (id : String) :
    linksOf (Model.gateway.onDelete id (Model.gateway.set db
      ((Model.gateway.get db).erase fun r => r.id = id))) = dropGateway id (linksOf db) := by
  have hgateways : ∀ g, decide ((ofGateway g).id ≠ id) = !decide (g.id = id) := by
    intro g
    by_cases h : g.id = id <;> simp [ofGateway, h]
  refine LinkGraph.ext rfl (map_erase hgateways) ?_ rfl rfl
  exact map_modify_eq (fun _ => by rfl) (ofDevice_ungateway id)

theorem links_patchDevice {f : Device → Device} (f' : DeviceLink → DeviceLink)
    (hf : ∀ d, (f d).id = d.id) (db : Database) (now : Time) (id : String)
    (h : ∀ d, ofDevice (f d) = f' (ofDevice d)) :
    linksOf (Model.device.set db (Model.device.patch (Model.device.get db) now id f hf)) =
      { linksOf db with
        devices := (linksOf db).devices.map fun d => if d.id = id then f' d else d } := by
  have hkey : ∀ d, (Model.device.touch now (f d)).id = d.id := by
    intro d
    rw [Model.device.touch_key, hf]
  refine LinkGraph.ext rfl rfl (map_modify_eq hkey fun d => ?_) rfl rfl
  by_cases hd : d.id = id
  · have hid : (ofDevice d).id = id := hd
    simp only [hd, decide_true, if_true, hid]
    exact h d
  · have hid : ¬ (ofDevice d).id = id := hd
    simp [hd, hid]

/-! ### Requests on links -/

section Links
variable {I : World → Prop}

theorem keeps_createChild {p : String} {dto : Children.CreateChildDto}
    (h : Kept (.createChild p dto) I) : Prog.Keeps I (Children.create p dto) :=
  keeps_create h.frame.steady fun w t hw _ ht => by
    have change : Change (.createChild p dto) (linksOf w.db) _ := .createChild (w.uuids w.calls 0)
    exact h.call hw
      (by simpa [linksOf, Model.child, ofChild, (Table.insert_eq_some ht).2] using change)

theorem keeps_registerGateway {p name : String} {endpoint : Option String} {type : GatewayType}
    {description : Option String} (h : Kept (.registerGateway p name endpoint type description) I) :
    Prog.Keeps I (Gateways.register p name endpoint type description) :=
  .bind (quiet_randomUUID h.frame) fun token => .bind keeps_newDate fun pairedAt =>
    keeps_create h.frame.steady fun w t hw _ ht => by
      have change : Change (.registerGateway p name endpoint type description) (linksOf w.db) _ :=
        .registerGateway (w.uuids w.calls 0)
      exact h.call hw
        (by simpa [linksOf, Model.gateway, ofGateway, (Table.insert_eq_some ht).2] using change)

theorem hasGateway_of_holds {db : Database} {k : String} (h : (Link.gateway k).holds db = true) :
    HasGateway (linksOf db) k := by
  obtain ⟨g, hg⟩ := Option.isSome_iff_exists.mp h
  obtain ⟨hmem, rfl⟩ := Table.find_eq_some.mp hg
  exact ⟨_, List.mem_map_of_mem hmem, rfl⟩

theorem hasChild_of_holds {db : Database} {c : String} (h : (Link.child c).holds db = true) :
    HasChild (linksOf db) c := by
  obtain ⟨r, hr⟩ := Option.isSome_iff_exists.mp h
  obtain ⟨hmem, rfl⟩ := Table.find_eq_some.mp hr
  exact ⟨_, List.mem_map_of_mem hmem, rfl⟩

theorem keeps_createDevice {p : String} {dto : Devices.CreateDeviceDto}
    (h : Kept (.createDevice p dto) I) : Prog.Keeps I (Devices.create p dto) :=
  .bind (keeps_create h.frame.steady fun w t hw hl ht => by
    have hg : ∀ k, dto.gatewayId = some k → HasGateway (linksOf w.db) k := fun k hk =>
      hasGateway_of_holds (hl _ (by simp [Model.device, hk]))
    have change : Change (.createDevice p dto) (linksOf w.db) _ :=
      .createDevice (w.uuids w.calls 0)
        (hasChild_of_holds (hl _ (by simp [Model.device, Devices.newDevice]))) hg
    exact h.call hw (by
      simpa [linksOf, Model.device, ofDevice, Devices.newDevice, (Table.insert_eq_some ht).2]
        using change)) fun _ => .pure _

theorem keeps_registerDevice {p : String} {dto : ChildAgent.RegisterDeviceDto}
    (h : Kept (.registerDevice p dto) I) : Prog.Keeps I (ChildAgent.registerDevice p dto) :=
  .bind keeps_newDate fun _ => keeps_create h.frame.steady fun w t hw hl ht => by
    have change : Change (.registerDevice p dto) (linksOf w.db) _ :=
      .registerDevice (w.uuids w.calls 0)
        (hasChild_of_holds (hl _ (by simp [Model.device, Devices.newDevice])))
    exact h.call hw (by
      simpa [linksOf, Model.device, ofDevice, Devices.newDevice, (Table.insert_eq_some ht).2]
        using change)

theorem keeps_removeChild {p id : String} (h : Kept (.removeChild p id) I) :
    Prog.Keeps I (Children.remove p id) :=
  .bind (quiet_findChild _ _ h.frame) fun _ => keeps_delete h.frame.steady fun w _ hw _ =>
    h.call hw (by rw [links_removeChild]; exact .removeChild)

theorem keeps_removeDevice {p id : String} (h : Kept (.removeDevice p id) I) :
    Prog.Keeps I (Devices.remove p id) :=
  .bind (quiet_findDevice _ _ h.frame) fun _ => keeps_delete h.frame.steady fun w _ hw _ =>
    h.call hw (by rw [links_removeDevice]; exact .removeDevice)

theorem keeps_deleteGateway {p id : String} (h : Kept (.deleteGateway p id) I) :
    Prog.Keeps I (Gateways.deleteGateway p id) := by
  refine .bind (quiet_findOwned _ _ h.frame) fun _ => h.transaction (fun g => ?_) fun Q => ?_
  · refine .bind (keeps_viaTx (keeps_updateMany fun w hw => ?_)) fun _ =>
      .bind (keeps_viaTx (detectedRouter.deleteMany _ (frame_since _ g))) fun _ =>
      .bind (keeps_viaTx (routerCommand.deleteMany _ (frame_since _ g))) fun _ =>
      .bind (keeps_viaTx (vpnDetectionLog.deleteMany _ (frame_since _ g))) fun _ =>
      keeps_viaTx (keeps_delete (steady_onDb _) fun w _ hw _ => ?_)
    · exact hw.tail (by rw [afterCall_db, links_unlinkGateway]; exact .unlinkGateway)
    · exact hw.tail (by rw [afterCall_db, links_removeGateway]; exact .deleteGateway)
  · exact .bind (keeps_viaTx_offDb ((free_offDb _ Q).updateMany (steady_offDb Q) _ _ _)) fun _ =>
      .bind (keeps_viaTx_offDb (detectedRouter.deleteMany _ (frame_offDb Q))) fun _ =>
      .bind (keeps_viaTx_offDb (routerCommand.deleteMany _ (frame_offDb Q))) fun _ =>
      .bind (keeps_viaTx_offDb (vpnDetectionLog.deleteMany _ (frame_offDb Q))) fun _ =>
      keeps_viaTx_offDb (keeps_delete (steady_offDb Q) fun _ _ hw _ => hw)

/-- Who owns which device. -/
def owners (g : LinkGraph) : List (String × String) := g.devices.map fun d => (d.id, d.parentId)

theorem findDevice_ok {p id : String} {w : World} {d : Device}
    (h : ((Devices.findOne p id).run w).1 = .ok d) :
    w.db.devices.find id = some d ∧ d.parentId = p := by
  have hr : (Devices.findOne p id).run w = (.ok d, ((Devices.findOne p id).run w).2) :=
    Prod.ext h rfl
  obtain ⟨hfind, hparent, -⟩ := run_checked_ok hr
  exact ⟨hfind, hparent⟩

theorem frame_pinned {τ : Type} {I : World → Prop} (h : Frame linkView I) (f : LinkGraph → τ)
    (x : τ) :
    Frame linkView fun w => I w ∧ f (linksOf w.db) = x := by
  intro w w' hl hc hn hw
  have hlinks : linksOf w'.db = linksOf w.db := hl
  exact ⟨h w w' hl hc hn hw.1, by rw [hlinks]; exact hw.2⟩

theorem keeps_updateDevice {p id : String} {dto : Devices.UpdateDeviceDto}
    (h : Kept (.updateDevice p id dto) I) : Prog.Keeps I (Devices.update p id dto) := by
  intro w hw
  -- the owner found by the check is still the owner when the row is written
  suffices Prog.Keeps (fun v => I v ∧ owners (linksOf v.db) = owners (linksOf w.db))
    (Devices.update p id dto) from (this w ⟨hw, rfl⟩).1
  have frame := frame_pinned h.frame owners (owners (linksOf w.db))
  refine .bindOf (P := fun _ => ∀ o ∈ owners (linksOf w.db), o.1 = id → o.2 = p)
    (quiet_findDevice _ _ frame) (fun v hv d hd o ho hid => ?_) fun _ howner =>
    .bind (.require _ _) fun _ => .bind (keeps_update frame.steady fun v r hv hfind hl => ?_)
      fun _ => .pure _
  · obtain ⟨hfind, rfl⟩ := findDevice_ok hd
    rw [← hv.2] at ho
    simp only [owners, linksOf, List.map_map, List.mem_map, Function.comp_apply] at ho
    obtain ⟨d', hd', rfl⟩ := ho
    rw [Table.eq_of_key hd' (Table.mem_of_find hfind) (hid.trans (Table.key_of_find hfind).symm)]
    rfl
  · refine ⟨h.call hv.1 ?_, ?_⟩
    · rw [links_patchDevice (relink dto) _ _ _ _ fun _ => rfl]
      have hfound : ∀ d ∈ (linksOf v.db).devices, d.id = id → d = ofDevice r := by
        intro d hd hid
        obtain ⟨d', hd', rfl⟩ := List.mem_map.mp hd
        rw [Table.eq_of_key hd' (Table.mem_of_find hfind)
          (Eq.trans hid (Table.key_of_find hfind).symm)]
      refine .updateDevice (fun d hd hid => ?_) (fun d hd hid c hc => ?_) fun d hd hid k hk => ?_
      · have hmem : (d.id, d.parentId) ∈ owners (linksOf v.db) := List.mem_map_of_mem hd
        rw [hv.2] at hmem
        exact howner _ hmem hid
      · rw [hfound d hd hid] at hc ⊢
        exact (hl (.child c) (by simpa [Model.device, relink, ofDevice] using hc)).imp
          (fun hmem => by simpa [Model.device, ofDevice] using hmem) hasChild_of_holds
      · rw [hfound d hd hid] at hk ⊢
        exact (hl (.gateway k) (by simpa [Model.device, relink, ofDevice] using hk)).imp
          (fun hmem => by simpa [Model.device, ofDevice] using hmem) hasGateway_of_holds
    · rw [afterCall_db, links_patchDevice (relink dto) _ _ _ _ fun _ => rfl, ← hv.2]
      simp only [owners, List.map_map]
      refine List.map_congr_left fun d _ => ?_
      by_cases hd : d.id = id <;> simp [relink, hd]

theorem keeps_startSession {env : Env} {p : String} {dto : Sessions.StartSessionDto}
    (h : Kept (.startSession p dto) I) : Prog.Keeps I (Sessions.start env p dto) := by
  intro w hw
  suffices Prog.Keeps (fun v => I v ∧ (linksOf v.db).devices = (linksOf w.db).devices)
    (Sessions.start env p dto) from (this w ⟨hw, rfl⟩).1
  have frame := frame_pinned h.frame LinkGraph.devices (linksOf w.db).devices
  refine .bindOf (P := fun o => ∀ d, o = some d →
    ofDevice d ∈ (linksOf w.db).devices ∧ d.id = dto.deviceId) (keeps_query frame.steady _) ?_
    fun o ho => .bindOf (P := fun d => o = some d) (.orThrow _ _) ?_
    fun d hd => .bindOf (P := fun _ => d.parentId = p) (.require _ _) ?_
    fun _ hp => .bindOf (P := fun c => truthy d.childId = some c) (.orThrow _ _) ?_
    fun c hc => .bind (keeps_query frame.steady _) fun _ => .bind (.require _ _) fun _ =>
    .bind (Sessions.keeps_checkDailyLimit frame.steady env c _) fun _ =>
    keeps_create frame.steady fun v t hv hl ht => ?_
  · rintro v hv _ ⟨⟩ d hd
    rw [← hv.2]
    exact ⟨List.mem_map_of_mem (Table.mem_of_find hd), Table.key_of_find hd⟩
  · intro v _ d hd
    rcases o with _ | d'
    · cases hd
    · cases hd; rfl
  · intro v _ _ hr
    rw [Prog.run_require] at hr
    by_contra hne
    simp [hne] at hr
  · intro v _ c hc
    rcases ht : truthy d.childId with _ | c'
    · rw [ht] at hc; cases hc
    · rw [ht] at hc; cases hc; rfl
  · obtain ⟨hmem, hid⟩ := ho d hd
    have hchild : (ofDevice d).childId = some c := by
      rcases hx : d.childId with _ | c' <;> simp_all [truthy, Option.filter, ofDevice]
    rw [← hv.2] at hmem
    have change : Change (.startSession p dto) (linksOf v.db) _ :=
      .startSession (v.uuids v.calls 0) hmem hid hp hchild
    exact ⟨h.call hv.1 (by
      simpa [linksOf, Model.session, ofSession, (Table.insert_eq_some ht).2] using change), hv.2⟩

end Links

/-! ### The other requests -/

theorem keeps_discard {I : World → Prop} {α : Type} {p : Api α} (h : Prog.Keeps I p) :
    Prog.Keeps I (Run.discard p) := h.bind fun _ => .pure _

/-- The property survives quiet writes and invalidations of the cache. -/
structure Safe (V : View) (I : World → Prop) : Prop where
  frame : Frame V I
  invalidate : ∀ ips, Prog.Keeps I (DnsPolicy.invalidateSourceIps ips)

namespace Safe

theorem enforcement {I : World → Prop} (h : Safe linkView I) : Relays I fun _ => True :=
  (enforcementSafe h.frame h.invalidate).relays

variable {V : View} {I : World → Prop} (h : Safe V I)
include h

theorem lockInternet (p id : String) (reason : Option String) :
    Prog.Keeps I (Devices.lockInternet p id reason) := by
  have lock (now : Time) : Quiet V (Prisma.update .device id fun d =>
      { d with
        blockingMode := .fullInternetLock
        internetLocked := true
        internetLockedReason := some (reason.getD "Locked by parent")
        internetLockedAt := some now }) := quiet_device fun _ => rfl
  exact .bind (quiet_findDevice _ _ h.frame) fun _ => .bind keeps_newDate fun now =>
    .bind (lock now h.frame) fun _ => (h.invalidate _).bind fun _ => .pure _

theorem unlockInternet (p id : String) : Prog.Keeps I (Devices.unlockInternet p id) := by
  have unlock : Quiet V (Prisma.update .device id fun d =>
      { d with
        blockingMode := .gamingOnly
        internetLocked := false
        internetLockedReason := none
        internetLockedAt := none }) := quiet_device fun _ => rfl
  exact .bind (quiet_findDevice _ _ h.frame) fun _ => .bind (unlock h.frame) fun _ =>
    (h.invalidate _).bind fun _ => .pure _

end Safe

/-- The property also survives the category blocks of the children in `C`, among them those of all
sessions and devices. -/
structure PassSafe (V : View) (I : World → Prop) (C : String → Prop) : Prop where
  frame : Frame V I
  blockGaming : ∀ c, C c → ∀ reason, Prog.Keeps I (Scheduler.blockGaming c reason)
  sessions : ∀ w, I w → ∀ s ∈ w.db.sessions.rows, C s.childId
  devices : ∀ w, I w → ∀ d ∈ w.db.devices.rows, ∀ c, d.childId = some c → C c

namespace PassSafe

variable {V : View} {I : World → Prop} {C : String → Prop} {K : Device → Prop} (h : PassSafe V I C)
include h

theorem checkActiveSessions (relays : Relays I K) (env : Env) :
    Prog.Keeps I (Scheduler.checkActiveSessions env) := by
  refine .bindOf (P := fun l => ∀ p ∈ l, C p.1.childId) (keeps_query h.frame.steady _) ?_
    fun l hl => Scheduler.keeps_forEachSafely fun p hp =>
      Scheduler.keeps_checkSession relays env p.2 (quiet_expire p.1.id h.frame)
        (h.blockGaming p.1.childId (hl p hp))
  rintro w hw _ ⟨⟩ p hp
  simp only [Scheduler.activeSessions, List.mem_filterMap, Option.map_eq_some_iff] at hp
  obtain ⟨s, hs, d, -, rfl⟩ := hp
  have hmem : s ∈ w.db.sessions.rows := by
    have := (mem_arrange.mp hs)
    exact (List.mem_filter.mp this).1
  exact h.sessions w hw s hmem

theorem enforceDailyLimit (env : Env) (now : Time) {d : Device}
    (hd : ∀ c, d.childId = some c → C c) :
    Prog.Keeps I (Scheduler.enforceDailyLimit env now d) := by
  unfold Scheduler.enforceDailyLimit
  split
  · rename_i childId hlimit hchild
    have hc : d.childId = some childId := by
      rcases hx : d.childId with _ | c <;> simp_all [truthy, Option.filter]
    exact .bind (keeps_query h.frame.steady _) fun _ => .ite
      (fun _ => (h.blockGaming _ (hd _ hc) _).bind fun _ => quiet_log _ h.frame) fun _ => .pure _
  · exact .pure _

theorem enforceDeviceSchedules (env : Env) :
    Prog.Keeps I (Scheduler.enforceDeviceSchedules env) := by
  refine .bindOf (P := fun l => ∀ d ∈ l, ∀ c, d.childId = some c → C c)
    (keeps_query h.frame.steady _) ?_ fun l hl => .bind keeps_newDate fun now =>
    Scheduler.keeps_forEachSafely fun d hd =>
      .ite (fun _ => quiet_bedtimeLock _ _ d h.frame) fun _ =>
      .bind (.when fun _ => quiet_bedtimeUnlock _ d h.frame) fun _ =>
        h.enforceDailyLimit env now (hl d hd)
  rintro w hw _ ⟨⟩ d hd
  exact h.devices w hw d (List.mem_filter.mp (mem_arrange.mp hd)).1

theorem pass (relays : Relays I K) (env : Env) (p : Pass) : Prog.Keeps I (p.prog env) := by
  cases p with
  | checkActiveSessions => exact h.checkActiveSessions relays env
  | checkRulesAndSchedules => exact Scheduler.keeps_checkRulesAndSchedules relays env
  | detectDnsBypass => exact quiet_detectDnsBypass env h.frame
  | monitorDeviceHealth => exact quiet_monitorDeviceHealth env h.frame
  | notifyLowProtection => exact quiet_notifyLowProtection env h.frame
  | enforceDeviceSchedules => exact h.enforceDeviceSchedules env

end PassSafe

/-- The rows whose children a pass blocks. -/
def concerned (g : LinkGraph) : List SessionLink × List DeviceLink := (g.sessions, g.devices)

theorem Concerned.congr {g g' : LinkGraph} {c : String} (h : Concerned g c)
    (hg : concerned g' = concerned g) : Concerned g' c := by
  obtain ⟨hs, hd⟩ := Prod.mk.inj hg
  unfold Concerned
  rw [hs, hd]
  exact h

section Handle
variable {I : World → Prop}

theorem Kept.block {p : Pass} (h : Kept (.scheduler p) I) {w : World} (hw : I w) {c : String}
    (hc : Concerned (linksOf w.db) c) {t : Table CategoryBlock.id}
    (ht : ∀ b ∈ t.rows, b ∈ w.db.categoryBlocks.rows ∨ b.childId = c) :
    I (World.afterCall w (Model.categoryBlock.set w.db t)) := by
  have change : Change (.scheduler p) (linksOf w.db) _ := .block c hc ht
  exact h.call hw change

theorem keeps_pass (env : Env) {p : Pass} (h : Kept (.scheduler p) I)
    (hinv : ∀ ips, Prog.Keeps I (DnsPolicy.invalidateSourceIps ips)) :
    Prog.Keeps I (p.prog env) := by
  intro w hw
  suffices Prog.Keeps (fun v => I v ∧ concerned (linksOf v.db) = concerned (linksOf w.db))
    (p.prog env) from (this w ⟨hw, rfl⟩).1
  have frame := frame_pinned h.frame concerned (concerned (linksOf w.db))
  have safe : Safe linkView (fun v => I v ∧ concerned (linksOf v.db) = concerned (linksOf w.db)) :=
    ⟨frame, fun ips => (hinv ips).and (DnsPolicy.keeps_invalidateSourceIps fun _ _ hv => hv)⟩
  refine PassSafe.pass (C := Concerned (linksOf w.db)) ⟨frame, ?_, ?_, ?_⟩ safe.enforcement env p
  · refine fun c hc reason => .bind (keeps_upsert frame.steady (fun v r hv hr hp => ?_)
      fun v t hv _ ht => ?_) fun _ => .pure _
    · refine ⟨h.block hv.1 (hc.congr hv.2) fun b hb => ?_, hv.2⟩
      obtain ⟨r', hr', rfl⟩ := Model.mem_patch.mp hb
      split_ifs with hk
      · obtain rfl := Table.eq_of_key hr' hr hk
        simp only [Bool.and_eq_true, decide_eq_true_eq] at hp
        exact .inr hp.1
      · exact .inl hr'
    · refine ⟨h.block hv.1 (hc.congr hv.2) fun b hb => ?_, hv.2⟩
      rw [(Table.insert_eq_some ht).2] at hb
      rcases List.mem_append.mp hb with hb | hb
      · exact .inl hb
      · rw [List.mem_singleton.mp hb]
        exact .inr rfl
  · intro v hv s hs
    have hmem : ofSession s ∈ (linksOf v.db).sessions := List.mem_map_of_mem hs
    exact Concerned.congr (.inl ⟨_, hmem, rfl⟩) hv.2.symm
  · intro v hv d hd c hc
    have hmem : ofDevice d ∈ (linksOf v.db).devices := List.mem_map_of_mem hd
    exact Concerned.congr (.inr ⟨_, hmem, hc⟩) hv.2.symm

/-- **What requests keep.** A property that survives the changes of links of a request, the
invalidations of the cache and the checks survives the request. -/
theorem keeps_handle (env : Env) {r : Request} (h : Kept r I)
    (hinv : ∀ ips, Prog.Keeps I (DnsPolicy.invalidateSourceIps ips))
    (hcheck : ∀ ip domain, r = .checkPolicy ip domain →
      Prog.Keeps I (DnsPolicy.checkPolicy env ip domain)) : Prog.Keeps I (handle env r) := by
  have frame := h.frame
  have safe : Safe linkView I := ⟨frame, hinv⟩
  cases r with
  | register dto => exact keeps_discard (quiet_register env dto frame)
  | login dto => exact keeps_discard (quiet_login env dto frame)
  | refresh token => exact keeps_discard (quiet_refresh env token frame)
  | logout userId => exact quiet_logout userId frame
  | createChild p dto => exact keeps_discard (keeps_createChild h)
  | updateChild p id dto => exact keeps_discard (quiet_updateChild p id dto frame)
  | removeChild p id => exact keeps_removeChild h
  | createDevice p dto => exact keeps_discard (keeps_createDevice h)
  | updateDevice p id dto => exact keeps_discard (keeps_updateDevice h)
  | removeDevice p id => exact keeps_removeDevice h
  | lockInternet p id reason => exact keeps_discard (safe.lockInternet p id reason)
  | unlockInternet p id => exact keeps_discard (safe.unlockInternet p id)
  | upsertSchedule p id dto => exact keeps_discard (quiet_upsertSchedule p id dto frame)
  | createLimit p dto => exact keeps_discard (quiet_createLimit p dto frame)
  | updateLimit p id dto => exact keeps_discard (quiet_updateLimit p id dto frame)
  | removeLimit p id => exact quiet_removeLimit p id frame
  | registerDevice p dto => exact keeps_discard (keeps_registerDevice h)
  | getCommands id => exact keeps_discard (quiet_getCommands id frame)
  | reportStatus id app => exact quiet_reportStatus id app frame
  | createRule p dto => exact keeps_discard (quiet_createRule p dto frame)
  | updateRule p id dto => exact keeps_discard (quiet_updateRule p id dto frame)
  | removeRule p id => exact quiet_removeRule p id frame
  | startSession p dto => exact keeps_discard (keeps_startSession h)
  | pauseSession id p => exact keeps_discard (quiet_pause id p frame)
  | resumeSession id p => exact keeps_discard (quiet_resume id p frame)
  | extendSession id p dto => exact keeps_discard (quiet_extend id p dto frame)
  | stopSession id p => exact keeps_discard (quiet_stop id p frame)
  | blockDevice id reason p => exact keeps_discard (safe.enforcement.blockDevice id reason p)
  | unblockDevice id p => exact keeps_discard (safe.enforcement.unblockDevice id p)
  | registerGateway p n e t d => exact keeps_discard (keeps_registerGateway h)
  | renameGateway p id n d => exact keeps_discard (quiet_renameGateway p id n d frame)
  | pairGateway id p => exact keeps_discard (quiet_pair id p frame)
  | rotateToken p id grace => exact keeps_discard (quiet_rotateToken p id grace frame)
  | deleteGateway p id => exact keeps_deleteGateway h
  | gateway request e => exact keeps_discard (quiet_guarded env request e frame)
  | startPairing id p => exact keeps_discard (quiet_startPairing env id p frame)
  | cancelPairing id p => exact quiet_cancelPairing id p frame
  | confirmProbe dto => exact keeps_discard (quiet_confirmProbe dto frame)
  | checkPolicy ip domain => exact keeps_discard (hcheck ip domain rfl)
  | processCommand data => exact quiet_process data frame
  | scheduler p => exact keeps_pass env h hinv

/-- Checks of the DNS engine keep what looks at the view only. -/
theorem keeps_checkPolicy {V : View} {J : Database → Prop} (h : Frame V (OnDb J)) (env : Env)
    (ip domain : String) : Prog.Keeps (OnDb J) (DnsPolicy.checkPolicy env ip domain) := fun v hv =>
  Dns.Cache.keeps_checkPolicy
    { steady := h.steady
      dnsQueryLog := V.dnsQueryLog.free h
      unknownDomainLog := V.unknownDomainLog.free h
      seen := fun id t => by
        have quiet : Quiet V (Prisma.update .device id fun d =>
          { d with lastDnsSeenAt := some t }) := quiet_device fun _ => rfl
        exact quiet h
      aux := fun _ _ _ _ => .write fun _ hw => hw
      decision := fun _ => .write fun _ hw => hw } hv

/-- A request changes the links only by its changes. -/
theorem exec_since (env : Env) (w : World) (s : Step) :
    Since s.request (linksOf w.db) (exec env w s).db := by
  have hI : Kept s.request (OnDb (Since s.request (linksOf w.db))) :=
    fun _ _ hl _ _ hw => hw.trans hl
  exact keeps_handle env hI (fun ips => DnsPolicy.keeps_invalidateSourceIps fun _ _ hw => hw)
    (fun ip domain _ => keeps_checkPolicy hI.frame env ip domain) { w with now := s.time } .refl

end Handle

end GuardTime.System.Changes
