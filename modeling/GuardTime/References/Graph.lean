import Mathlib.Tactic
import GuardTime.System.Links

/-! # References without foreign keys

`DetectedRouter`, `RouterCommand`, `VpnDetectionLog` and `BandwidthLimit` refer to users, children,
devices and gateways by plain columns. The `Graph` of a database has the rows that may be referred
to and all references; it is `Sound` when every reference, and every foreign key that matters for
new references, leads to a row.

* `Sound.grow`: a graph that only gains rows and good references stays sound;
* `Sound.dropChild`, `dropDevice`, `dropGateway`, `dropUser`: rows that nothing refers to can go. -/

namespace GuardTime.References

open GuardTime.Lib.Program GuardTime.Lib.Keyed GuardTime.Lib.Js GuardTime.Schema GuardTime.Server
open GuardTime.Prisma GuardTime.System.Links

/-! ### Graphs -/

/-- The rows that can be referred to, and the references. -/
@[ext]
structure Graph where
  users : List String
  children : List Owned
  gateways : List Owned
  devices : List DeviceLink
  refs : List Link

namespace Graph

/-- The row is there. -/
def Holds (g : Graph) : Link → Prop
  | .user id => id ∈ g.users
  | .child id => ∃ c ∈ g.children, c.id = id
  | .device id => ∃ d ∈ g.devices, d.id = id
  | .gateway id => ∃ k ∈ g.gateways, k.id = id
  | .command _ => False

/-- The row belongs to the user. -/
def Of (g : Graph) (u : String) : Link → Prop
  | .user id => id = u
  | .child id => ∃ c ∈ g.children, c.id = id ∧ c.parentId = u
  | .device id => ∃ d ∈ g.devices, d.id = id ∧ d.parentId = u
  | .gateway id => ∃ k ∈ g.gateways, k.id = id ∧ k.parentId = u
  | .command _ => False

/-- Without the child; its devices are kept. -/
def dropChild (id : String) (g : Graph) : Graph :=
  { g with
    children := g.children.filter fun c => c.id ≠ id
    devices := g.devices.map fun d => if d.childId = some id then { d with childId := none }
      else d }

/-- Without the device. -/
def dropDevice (id : String) (g : Graph) : Graph :=
  { g with devices := g.devices.filter fun d => d.id ≠ id }

/-- Without the gateway; its devices are kept. -/
def dropGateway (id : String) (g : Graph) : Graph :=
  { g with
    gateways := g.gateways.filter fun k => k.id ≠ id
    devices := g.devices.map fun d =>
      if d.gatewayId = some id then { d with gatewayId := none } else d }

/-- The device without the children and gateways that go. -/
def unlink (childIds gatewayIds : List String) (d : DeviceLink) : DeviceLink :=
  { d with
    childId := if d.childId.any (· ∈ childIds) then none else d.childId
    gatewayId := if d.gatewayId.any (· ∈ gatewayIds) then none else d.gatewayId }

/-- Without the user and the rows of the user; foreign keys of other rows to these are emptied. -/
def dropUser (u : String) (g : Graph) : Graph :=
  { g with
    users := g.users.filter fun id => id ≠ u
    children := g.children.filter fun c => c.parentId ≠ u
    gateways := g.gateways.filter fun k => k.parentId ≠ u
    devices := (g.devices.filter fun d => d.parentId ≠ u).map
      (unlink ((g.children.filter fun c => c.parentId = u).map Owned.id)
        ((g.gateways.filter fun k => k.parentId = u).map Owned.id)) }

end Graph

/-- Every reference leads to a row, and so do the foreign keys of children and devices. -/
structure Sound (g : Graph) : Prop where
  refs : ∀ l ∈ g.refs, g.Holds l
  children : ∀ c ∈ g.children, g.Holds (.user c.parentId)
  devices : ∀ d ∈ g.devices, g.Holds (.user d.parentId)
  gateways : ∀ d ∈ g.devices, ∀ k, d.gatewayId = some k → g.Holds (.gateway k)

/-! ### Changes -/

section Changes
variable {g g' : Graph}

theorem Sound.grow (h : Sound g) (hle : ∀ l, g.Holds l → g'.Holds l)
    (hrefs : ∀ l ∈ g'.refs, l ∈ g.refs ∨ g'.Holds l)
    (hchildren : ∀ c ∈ g'.children, c ∈ g.children ∨ g'.Holds (.user c.parentId))
    (hdevices : ∀ d ∈ g'.devices, d ∈ g.devices ∨
      g'.Holds (.user d.parentId) ∧ ∀ k, d.gatewayId = some k → g'.Holds (.gateway k)) :
    Sound g' where
  refs l hl := (hrefs l hl).elim (fun hold => hle l (h.refs l hold)) id
  children c hc := (hchildren c hc).elim (fun hold => hle _ (h.children c hold)) id
  devices d hd := (hdevices d hd).elim (fun hold => hle _ (h.devices d hold)) And.left
  gateways d hd k hk := (hdevices d hd).elim (fun hold => hle _ (h.gateways d hold k hk))
    fun hnew => hnew.2 k hk

/-- Good references may come, and any may go. -/
theorem Sound.setRefs (h : Sound g) {ls : List Link} (hls : ∀ l ∈ ls, l ∈ g.refs ∨ g.Holds l) :
    Sound { g with refs := ls } :=
  h.grow (fun l hl => by cases l <;> exact hl)
    (fun l hl => (hls l hl).imp id fun hold => by cases l <;> exact hold)
    (fun c hc => .inl hc) fun d hd => .inl hd

theorem Sound.addUser (h : Sound g) (id : String) :
    Sound { g with users := g.users ++ [id] } := by
  refine h.grow (fun l hl => ?_) (fun l hl => .inl hl) (fun c hc => .inl hc) fun d hd => .inl hd
  cases l with
  | user id => exact List.mem_append_left _ hl
  | _ => exact hl

theorem Sound.addChild (h : Sound g) {c : Owned} (hc : g.Holds (.user c.parentId)) :
    Sound { g with children := g.children ++ [c] } := by
  refine h.grow (fun l hl => ?_) (fun l hl => .inl hl) (fun c' hc' => ?_) fun d hd => .inl hd
  · cases l with
    | child id =>
      obtain ⟨c', hc', hid⟩ := hl
      exact ⟨c', List.mem_append_left _ hc', hid⟩
    | _ => exact hl
  · rcases List.mem_append.mp hc' with hold | hnew
    · exact .inl hold
    · rw [List.mem_singleton.mp hnew]
      exact .inr hc

theorem Sound.addGateway (h : Sound g) (k : Owned) :
    Sound { g with gateways := g.gateways ++ [k] } := by
  refine h.grow (fun l hl => ?_) (fun l hl => .inl hl) (fun c hc => .inl hc) fun d hd => .inl hd
  cases l with
  | gateway id =>
    obtain ⟨k', hk', hid⟩ := hl
    exact ⟨k', List.mem_append_left _ hk', hid⟩
  | _ => exact hl

theorem Sound.addDevice (h : Sound g) {d : DeviceLink} (hu : g.Holds (.user d.parentId))
    (hk : ∀ k, d.gatewayId = some k → g.Holds (.gateway k)) :
    Sound { g with devices := g.devices ++ [d] } := by
  refine h.grow (fun l hl => ?_) (fun l hl => .inl hl) (fun c hc => .inl hc) fun d' hd' => ?_
  · cases l with
    | device id =>
      obtain ⟨d', hd', hid⟩ := hl
      exact ⟨d', List.mem_append_left _ hd', hid⟩
    | _ => exact hl
  · rcases List.mem_append.mp hd' with hold | hnew
    · exact .inl hold
    · rw [List.mem_singleton.mp hnew]
      exact .inr ⟨hu, hk⟩

/-- Devices change their links but neither their ids nor their owners. -/
theorem Sound.setDevices (h : Sound g) {ds : List DeviceLink}
    (hids : ∀ d ∈ g.devices, ∃ d' ∈ ds, d'.id = d.id)
    (hds : ∀ d' ∈ ds, ∃ d ∈ g.devices, d'.parentId = d.parentId ∧
      ∀ k, d'.gatewayId = some k → d.gatewayId = some k ∨ g.Holds (.gateway k)) :
    Sound { g with devices := ds } := by
  refine h.grow (fun l hl => ?_) (fun l hl => .inl hl) (fun c hc => .inl hc) fun d' hd' => ?_
  · cases l with
    | device id =>
      obtain ⟨d, hd, rfl⟩ := hl
      exact hids d hd
    | _ => exact hl
  · obtain ⟨d, hd, howner, hk⟩ := hds d' hd'
    refine .inr ⟨?_, fun k hd'k => ?_⟩
    · rw [howner]
      exact h.devices d hd
    · rcases hk k hd'k with hold | hnew
      · exact h.gateways d hd k hold
      · exact hnew

/-- Links of devices may be emptied. -/
theorem Sound.mapDevices (h : Sound g) {f : DeviceLink → DeviceLink} (hid : ∀ d, (f d).id = d.id)
    (howner : ∀ d, (f d).parentId = d.parentId)
    (hk : ∀ d k, (f d).gatewayId = some k → d.gatewayId = some k) :
    Sound { g with devices := g.devices.map f } := by
  refine h.setDevices (fun d hd => ⟨f d, List.mem_map_of_mem hd, hid d⟩) fun d' hd' => ?_
  obtain ⟨d, hd, rfl⟩ := List.mem_map.mp hd'
  exact ⟨d, hd, howner d, fun k hfk => .inl (hk d k hfk)⟩

theorem Sound.dropChild (h : Sound g) {id : String} (hid : .child id ∉ g.refs) :
    Sound (g.dropChild id) := by
  have hdevices : Sound { g with devices := (g.dropChild id).devices } := by
    refine h.mapDevices (fun d => ?_) (fun d => ?_) fun d k hk => ?_
    · split_ifs <;> rfl
    · split_ifs <;> rfl
    · split_ifs at hk <;> exact hk
  refine ⟨fun l hl => ?_, fun c hc => ?_, hdevices.devices, hdevices.gateways⟩
  · have hold := hdevices.refs l hl
    cases l with
    | child id' =>
      obtain ⟨c, hc, rfl⟩ := hold
      have hne : c.id ≠ id := by
        rintro rfl
        exact hid hl
      exact ⟨c, List.mem_filter.mpr ⟨hc, by simpa using hne⟩, rfl⟩
    | _ => exact hold
  · exact h.children c (List.mem_filter.mp hc).1

theorem Sound.dropDevice (h : Sound g) {id : String} (hid : .device id ∉ g.refs) :
    Sound (g.dropDevice id) := by
  refine ⟨fun l hl => ?_, h.children, fun d hd => h.devices d (List.mem_filter.mp hd).1,
    fun d hd => h.gateways d (List.mem_filter.mp hd).1⟩
  have hold := h.refs l hl
  cases l with
  | device id' =>
    obtain ⟨d, hd, rfl⟩ := hold
    have hne : d.id ≠ id := by
      rintro rfl
      exact hid hl
    exact ⟨d, List.mem_filter.mpr ⟨hd, by simpa using hne⟩, rfl⟩
  | _ => exact hold

theorem Sound.dropGateway (h : Sound g) {id : String} (hid : .gateway id ∉ g.refs) :
    Sound (g.dropGateway id) := by
  have hdevices : Sound { g with devices := (g.dropGateway id).devices } := by
    refine h.mapDevices (fun d => ?_) (fun d => ?_) fun d k hk => ?_
    · split_ifs <;> rfl
    · split_ifs <;> rfl
    · split_ifs at hk
      exact hk
  have hkeep : ∀ k, k ≠ id → g.Holds (.gateway k) → (g.dropGateway id).Holds (.gateway k) := by
    rintro k hne ⟨o, ho, rfl⟩
    exact ⟨o, List.mem_filter.mpr ⟨ho, by simpa using hne⟩, rfl⟩
  refine ⟨fun l hl => ?_, h.children, hdevices.devices, fun d hd k hk => ?_⟩
  · have hold := hdevices.refs l hl
    cases l with
    | gateway k =>
      refine hkeep k ?_ hold
      rintro rfl
      exact hid hl
    | _ => exact hold
  · refine hkeep k ?_ (hdevices.gateways d hd k hk)
    rintro rfl
    obtain ⟨d', -, rfl⟩ := List.mem_map.mp hd
    split_ifs at hk with hcond
    exact hcond hk

theorem Sound.dropUser (h : Sound g) {u : String} (hu : ∀ l ∈ g.refs, ¬ g.Of u l) :
    Sound (g.dropUser u) := by
  have huser : ∀ p, p ≠ u → g.Holds (.user p) → (g.dropUser u).Holds (.user p) := fun p hne hp =>
    List.mem_filter.mpr ⟨hp, by simpa using hne⟩
  refine ⟨fun l hl => ?_, fun c hc => ?_, fun d hd => ?_, fun d hd k hk => ?_⟩
  · have hold := h.refs l hl
    have hnot := hu l hl
    cases l with
    | user id => exact huser id hnot hold
    | child id =>
      obtain ⟨c, hc, rfl⟩ := hold
      have hne : c.parentId ≠ u := fun hp => hnot ⟨c, hc, rfl, hp⟩
      exact ⟨c, List.mem_filter.mpr ⟨hc, by simpa using hne⟩, rfl⟩
    | device id =>
      obtain ⟨d, hd, rfl⟩ := hold
      have hne : d.parentId ≠ u := fun hp => hnot ⟨d, hd, rfl, hp⟩
      exact ⟨_, List.mem_map_of_mem (List.mem_filter.mpr ⟨hd, by simpa using hne⟩), rfl⟩
    | gateway id =>
      obtain ⟨k, hk, rfl⟩ := hold
      have hne : k.parentId ≠ u := fun hp => hnot ⟨k, hk, rfl, hp⟩
      exact ⟨k, List.mem_filter.mpr ⟨hk, by simpa using hne⟩, rfl⟩
    | command id => exact hold
  · obtain ⟨hc, hne⟩ := List.mem_filter.mp hc
    exact huser _ (by simpa using hne) (h.children c hc)
  · obtain ⟨d', hd', rfl⟩ := List.mem_map.mp hd
    obtain ⟨hd', hne⟩ := List.mem_filter.mp hd'
    exact huser d'.parentId (by simpa using hne) (h.devices d' hd')
  · obtain ⟨d', hd', rfl⟩ := List.mem_map.mp hd
    simp only [Graph.unlink] at hk
    split_ifs at hk with hgone
    obtain ⟨o, ho, rfl⟩ := h.gateways d' (List.mem_filter.mp hd').1 k hk
    refine ⟨o, List.mem_filter.mpr ⟨ho, ?_⟩, rfl⟩
    rw [decide_eq_true_eq]
    intro hp
    apply hgone
    rw [hk, Option.any_some, decide_eq_true_eq]
    exact List.mem_map_of_mem (List.mem_filter.mpr ⟨ho, by simpa using hp⟩)

end Changes

/-! ### The graph of a database -/

/-- What a router command refers to. -/
def commandRefs (c : String × Option String) : List Link :=
  .gateway c.1 :: c.2.toList.map .device

/-- What a detection refers to. -/
def detectionRefs (l : VpnDetectionLog) : List Link := [.gateway l.gatewayId, .device l.deviceId]

/-- What a limit refers to. -/
def limitRefs (l : String × Option String × Option String) : List Link :=
  .user l.1 :: (l.2.1.toList.map .child ++ l.2.2.toList.map .device)

/-- All references. -/
def refsOf (db : Database) : List Link :=
  (db.detectedRouters.rows.map fun r => .gateway r.gatewayId) ++
    (db.routerCommands.rows.map ofRouterCommand).flatMap commandRefs ++
    db.vpnDetectionLogs.rows.flatMap detectionRefs ++
    (db.bandwidthLimits.rows.map ofLimit).flatMap limitRefs

/-- The graph of the rows. -/
def graphOf (db : Database) : Graph where
  users := db.users.rows.map User.id
  children := db.children.rows.map ofChild
  gateways := db.gateways.rows.map ofGateway
  devices := db.devices.rows.map ofDevice
  refs := refsOf db

/-- The view that shows the graph. -/
def refView : View where
  Shown := Graph
  of := graphOf
  pushToken _ _ := rfl
  pairingSession _ _ := rfl
  deviceIpHistory _ _ := rfl
  deviceConnectionEvent _ _ := rfl
  unknownDomainLog _ _ := rfl
  rule _ _ := rfl
  command _ _ := rfl
  notificationEvent _ _ := rfl
  auditLog _ _ := rfl
  dnsQueryLog _ _ := rfl
  user db _ h := congrArg (fun l => { graphOf db with users := l }) h
  child db _ h := congrArg (fun l => { graphOf db with children := l }) h
  gateway db _ h := congrArg (fun l => { graphOf db with gateways := l }) h
  device db _ h := congrArg (fun l => { graphOf db with devices := l }) h
  session _ _ _ := rfl
  bandwidthLimit db t h := by
    have hrefs : refsOf (Model.bandwidthLimit.set db t) = refsOf db :=
      congrArg (fun l => _ ++ l.flatMap limitRefs) h
    exact congrArg (fun l => { graphOf db with refs := l }) hrefs
  routerCommand db t h := by
    have hrefs : refsOf (Model.routerCommand.set db t) = refsOf db :=
      congrArg (fun l => _ ++ l.flatMap commandRefs ++ _ ++ _) h
    exact congrArg (fun l => { graphOf db with refs := l }) hrefs

theorem holds_graphOf {db : Database} {l : Link} (h : l.holds db = true)
    (hl : ∀ id, l ≠ .command id) : (graphOf db).Holds l := by
  cases l with
  | user id =>
    obtain ⟨u, hu⟩ := Option.isSome_iff_exists.mp h
    exact List.mem_map.mpr ⟨u, Table.mem_of_find hu, Table.key_of_find hu⟩
  | child id =>
    obtain ⟨c, hc⟩ := Option.isSome_iff_exists.mp h
    have hid : c.id = id := Table.key_of_find hc
    exact ⟨ofChild c, List.mem_map_of_mem (Table.mem_of_find hc), hid⟩
  | device id =>
    obtain ⟨d, hd⟩ := Option.isSome_iff_exists.mp h
    have hid : d.id = id := Table.key_of_find hd
    exact ⟨ofDevice d, List.mem_map_of_mem (Table.mem_of_find hd), hid⟩
  | gateway id =>
    obtain ⟨k, hk⟩ := Option.isSome_iff_exists.mp h
    have hid : k.id = id := Table.key_of_find hk
    exact ⟨ofGateway k, List.mem_map_of_mem (Table.mem_of_find hk), hid⟩
  | command id => exact absurd rfl (hl id)

/-! ### Databases with sound graphs -/

/-- The graph is sound. -/
def SoundDb (db : Database) : Prop := Sound (graphOf db)

/-- The graph is sound, and but for the references it is the one given. -/
def Pinned (g₀ : Graph) (db : Database) : Prop :=
  SoundDb db ∧ graphOf db = { g₀ with refs := refsOf db }

theorem frame_sound : Frame refView (OnDb SoundDb) := by
  intro w w' hg _ _ hw
  have hgraph : graphOf w'.db = graphOf w.db := hg
  unfold OnDb SoundDb
  rw [hgraph]
  exact hw

theorem frame_pinned (g₀ : Graph) : Frame refView (OnDb (Pinned g₀)) := by
  intro w w' hg _ _ hw
  have hgraph : graphOf w'.db = graphOf w.db := hg
  have hrefs : refsOf w'.db = refsOf w.db := congrArg Graph.refs hgraph
  unfold OnDb Pinned SoundDb
  rw [hgraph, hrefs]
  exact hw

/-- What keeps every pinned graph sound keeps soundness. -/
theorem keeps_of_pinned {α : Type} {p : Api α}
    (h : ∀ g₀, Prog.Keeps (OnDb (Pinned g₀)) p) : Prog.Keeps (OnDb SoundDb) p :=
  fun w hw => (h (graphOf w.db) w ⟨hw, rfl⟩).1

section Pinned
variable {g₀ : Graph} {db : Database}

theorem Pinned.holds (h : Pinned g₀ db) {l : Link} : (graphOf db).Holds l ↔ g₀.Holds l := by
  rw [h.2]
  cases l <;> exact Iff.rfl

end Pinned

/-! ### Calls on the tables that refer -/

/-- The rows of the table refer to `rs`, and to nothing else. -/
structure Refers {ρ : Type} {key : ρ → String} (m : Model key) (rs : ρ → List Link) : Prop where
  get_set : ∀ db t, m.get (m.set db t) = t := by intros; rfl
  graph : ∀ db t, graphOf (m.set db t) = { graphOf db with refs := refsOf (m.set db t) } := by
    intros; rfl
  of_set : ∀ db t, ∀ l ∈ refsOf (m.set db t), l ∈ refsOf db ∨ ∃ r ∈ t.rows, l ∈ rs r
  of_row : ∀ db, ∀ r ∈ (m.get db).rows, ∀ l ∈ rs r, l ∈ refsOf db

theorem mem_refsOf {db : Database} {l : Link} : l ∈ refsOf db ↔
    (∃ r ∈ db.detectedRouters.rows, l = .gateway r.gatewayId) ∨
    (∃ c ∈ db.routerCommands.rows, l ∈ commandRefs (ofRouterCommand c)) ∨
    (∃ d ∈ db.vpnDetectionLogs.rows, l ∈ detectionRefs d) ∨
    ∃ b ∈ db.bandwidthLimits.rows, l ∈ limitRefs (ofLimit b) := by
  simp only [refsOf, List.mem_append, List.mem_map, List.mem_flatMap, exists_exists_and_eq_and,
    or_assoc]
  simp only [eq_comm]

theorem detectedRouter : Refers .detectedRouter fun r => [.gateway r.gatewayId] where
  of_set db t l hl := by
    rw [mem_refsOf] at hl ⊢
    rcases hl with ⟨r, hr, rfl⟩ | hl
    · exact .inr ⟨r, hr, by simp⟩
    · exact .inl (.inr hl)
  of_row db r hr l hl := mem_refsOf.mpr (.inl ⟨r, hr, by simpa using hl⟩)

theorem routerCommand : Refers .routerCommand fun c => commandRefs (ofRouterCommand c) where
  of_set db t l hl := by
    rw [mem_refsOf] at hl ⊢
    rcases hl with hl | hl | hl
    · exact .inl (.inl hl)
    · exact .inr hl
    · exact .inl (.inr (.inr hl))
  of_row db r hr l hl := mem_refsOf.mpr (.inr (.inl ⟨r, hr, hl⟩))

theorem vpnDetectionLog : Refers .vpnDetectionLog detectionRefs where
  of_set db t l hl := by
    rw [mem_refsOf] at hl ⊢
    rcases hl with hl | hl | hl | hl
    · exact .inl (.inl hl)
    · exact .inl (.inr (.inl hl))
    · exact .inr hl
    · exact .inl (.inr (.inr (.inr hl)))
  of_row db r hr l hl := mem_refsOf.mpr (.inr (.inr (.inl ⟨r, hr, hl⟩)))

theorem bandwidthLimit : Refers .bandwidthLimit fun b => limitRefs (ofLimit b) where
  of_set db t l hl := by
    rw [mem_refsOf] at hl ⊢
    rcases hl with hl | hl | hl | hl
    · exact .inl (.inl hl)
    · exact .inl (.inr (.inl hl))
    · exact .inl (.inr (.inr (.inl hl)))
    · exact .inr hl
  of_row db r hr l hl := mem_refsOf.mpr (.inr (.inr (.inr ⟨r, hr, hl⟩)))

namespace Refers

variable {ρ : Type} {key : ρ → String} {m : Model key} {rs : ρ → List Link} (hm : Refers m rs)
variable {g₀ : Graph}
include hm

/-- Rows with good references, or that were there before. -/
theorem set {db : Database} {t : Table key} (h : Pinned g₀ db)
    (ht : ∀ r ∈ t.rows, ∀ l ∈ rs r, l ∈ refsOf db ∨ g₀.Holds l) : Pinned g₀ (m.set db t) := by
  refine ⟨?_, ?_⟩
  · unfold SoundDb
    rw [hm.graph]
    refine h.1.setRefs fun l hl => ?_
    rcases hm.of_set db t l hl with hold | ⟨r, hr, hlr⟩
    · exact .inl hold
    · exact (ht r hr l hlr).imp id h.holds.mpr
  · rw [hm.graph, h.2]

/-- Rows may go. -/
theorem erase {db : Database} (h : Pinned g₀ db) (p : ρ → Bool) :
    Pinned g₀ (m.set db ((m.get db).erase p)) :=
  hm.set h fun r hr l hl => .inl (hm.of_row db r (Table.mem_erase.mp hr).1 l hl)

theorem create {mk : String → Time → ρ} (hmk : ∀ id now, ∀ l ∈ rs (mk id now), g₀.Holds l) :
    Prog.Keeps (OnDb (Pinned g₀)) (Prisma.create m mk) := by
  refine keeps_create (steady_onDb _) fun w t hw _ ht => hm.set hw fun r hr l hl => ?_
  rw [(Table.insert_eq_some ht).2] at hr
  rcases List.mem_append.mp hr with hold | hnew
  · exact .inl (hm.of_row w.db r hold l hl)
  · rw [List.mem_singleton.mp hnew] at hl
    exact .inr (hmk _ _ l hl)

theorem createMany {mks : List (String → Time → ρ)}
    (hmks : ∀ mk ∈ mks, ∀ id now, ∀ l ∈ rs (mk id now), g₀.Holds l) :
    Prog.Keeps (OnDb (Pinned g₀)) (Prisma.createMany m mks) := by
  have hrows : ∀ (xs : List ρ) (db db' : Database), (∀ r ∈ xs, ∀ l ∈ rs r, g₀.Holds l) →
      m.insertRows db xs = .ok db' → Pinned g₀ db → Pinned g₀ db' := by
    intro xs
    induction xs with
    | nil =>
      rintro db db' - ⟨⟩ h
      exact h
    | cons r xs ih =>
      intro db db' hgood hins h
      rcases hr : m.insertRow db r with e | db₁ <;> simp only [Model.insertRows, hr] at hins
      · cases hins
      · obtain ⟨-, t, ht, rfl⟩ := Model.insertRow_ok hr
        refine ih _ db' (fun r' hr' =>
          hgood r' (by simp [hr'])) hins (hm.set h fun r' hr' l hl => ?_)
        rw [(Table.insert_eq_some ht).2] at hr'
        rcases List.mem_append.mp hr' with hold | hnew
        · exact .inl (hm.of_row db r' hold l hl)
        · rw [List.mem_singleton.mp hnew] at hl
          exact .inr (hgood r (by simp) l hl)
  refine keeps_dbCall fun w hw => ?_
  dsimp only
  split
  · refine hrows _ w.db _ (fun r hr => ?_) ‹_› hw
    obtain ⟨⟨mk, i⟩, hmem, rfl⟩ := List.mem_map.mp hr
    exact hmks mk (List.fst_mem_of_mem_zipIdx hmem) _ _
  · exact hw

theorem upsert {p : ρ → Bool} {f : ρ → ρ} {mk : String → Time → ρ} {hf : ∀ r, key (f r) = key r}
    (hrs : ∀ now r, rs (m.touch now (f r)) = rs r)
    (hmk : ∀ id now, ∀ l ∈ rs (mk id now), g₀.Holds l) :
    Prog.Keeps (OnDb (Pinned g₀)) (Prisma.upsert m p f mk hf) := by
  refine keeps_upsert (steady_onDb _) (fun w r hw _ _ => hm.set hw fun r' hr' l hl => ?_)
    fun w t hw _ ht => hm.set hw fun r' hr' l hl => ?_
  · obtain ⟨r'', hr'', rfl⟩ := Model.mem_patch.mp hr'
    refine .inl (hm.of_row w.db r'' hr'' l ?_)
    split_ifs at hl with hk
    · rw [hrs] at hl
      exact hl
    · exact hl
  · rw [(Table.insert_eq_some ht).2] at hr'
    rcases List.mem_append.mp hr' with hold | hnew
    · exact .inl (hm.of_row w.db r' hold l hl)
    · rw [List.mem_singleton.mp hnew] at hl
      exact .inr (hmk _ _ l hl)

theorem delete (hd : ∀ k db, m.onDelete k db = db) (k : String) :
    Prog.Keeps (OnDb (Pinned g₀)) (Prisma.delete m k) :=
  keeps_delete (steady_onDb _) fun w _ hw _ => by
    rw [hd]
    exact hm.erase hw _

theorem deleteMany (p : ρ → Bool) : Prog.Keeps (OnDb (Pinned g₀)) (Prisma.deleteMany m p) :=
  keeps_deleteMany fun _ hw => hm.erase hw p

end Refers

end GuardTime.References
