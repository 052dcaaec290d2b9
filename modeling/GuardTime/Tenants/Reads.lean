import Mathlib.Tactic
import GuardTime.Services.NetworkHealth
import GuardTime.Services.Reads
import GuardTime.Tenants.Confinement

/-! # What a parent reads

The reading endpoints of the parent app answer from the rows of the caller's family only: two
databases in which these are the same give the same answers (`respects_answer`). Since other
parents' calls leave these rows alone, a read answers after any interleaving of such calls as if
none of them had been made (`reads_undisturbed`). -/

namespace GuardTime.Tenants.Reads

open GuardTime.Lib.Program GuardTime.Lib.Interleave GuardTime.Lib.Keyed GuardTime.Lib.Js
open GuardTime.Lib.Owners GuardTime.Schema GuardTime.Server GuardTime.Prisma GuardTime.Services
open GuardTime.System.Run GuardTime.System.Calls GuardTime.System.Ownership GuardTime.Tenants.Writes
open GuardTime.Tenants.Confinement

/-! ### The endpoints -/

/-- A read of the parent app. -/
inductive Read where
  | children
  | child (id : String)
  | rules
  | limits
  | limit (id : String)
  | devices
  | device (id : String)
  | networkStatus (id : String)
  | schedule (id : String)
  | pairingStatus (id : String)
  | activeSessions
  | history
  | features (id : String)
  | diagnostics (id : String)
  | detectedRouter (id : String)
  | gateways
  | profile
  | subscription
  | categoryBlocks (id : String)
  | notifications
  | deviceHealth (id : String)
  | healthSummary
  | networkHealth

namespace Read

/-- What the endpoint answers. -/
def Answer : Read → Type
  | children => List (Child × List Device)
  | child _ => Children.ChildDetails
  | rules => List Rules.Listed
  | limits => List BandwidthLimit
  | limit _ => BandwidthLimit
  | devices => List Devices.Payload
  | device _ => Devices.Payload
  | networkStatus _ => Devices.NetworkStatus
  | schedule _ => Protection.Schedule
  | pairingStatus _ => Pairing.PairingStatusResponse
  | activeSessions => List Sessions.SessionDetails
  | history => List Sessions.SessionDetails
  | features _ => RouterIntegration.Features
  | diagnostics _ => RouterIntegration.Diagnostics
  | detectedRouter _ => Option DetectedRouter
  | gateways => List Gateways.GatewayCard
  | profile => Parents.Profile × Time × Option Subscription
  | subscription => Subscription
  | categoryBlocks _ => List CategoryBlock
  | notifications => List NotificationEvent
  | deviceHealth _ => DeviceHealth.DeviceHealthItem
  | healthSummary => DeviceHealth.DeviceHealthSummary
  | networkHealth => NetworkHealth.NetworkHealthSummary

/-- What the server does. -/
def answer (p : String) : (r : Read) → Api r.Answer
  | children => Children.findAll p
  | child id => Children.findDetails p id
  | rules => Rules.findAll p
  | limits => Bandwidth.findAll p
  | limit id => Bandwidth.findOne p id
  | devices => Devices.findAll p
  | device id => Devices.findPayload p id
  | networkStatus id => Devices.getNetworkStatus p id
  | schedule id => Protection.getSchedule p id
  | pairingStatus id => Pairing.getStatus id p
  | activeSessions => Sessions.getActiveSessions p
  | history => Sessions.getHistory p
  | features id => RouterIntegration.getFeatures p id
  | diagnostics id => RouterIntegration.getDiagnostics p id
  | detectedRouter id => RouterIntegration.getDetectedRouter p id
  | gateways => Gateways.listGateways p
  | profile => Parents.getProfile p
  | subscription => Parents.getSubscription p
  | categoryBlocks id => Categories.listCategoryBlocks p id
  | notifications => Notifications.findByUser p
  | deviceHealth id => DeviceHealth.getForDevice p id
  | healthSummary => DeviceHealth.getSummary p
  | networkHealth => NetworkHealth.getSummary p

/-- The row the endpoint is asked for is the family's. -/
def Own (p : String) (db : Database) : Read → Prop
  | child id | categoryBlocks id => id ∈ (familyOf p db).children
  | device id | networkStatus id | schedule id | pairingStatus id | deviceHealth id =>
    id ∈ (familyOf p db).devices
  | features id | diagnostics id | detectedRouter id => id ∈ (familyOf p db).gateways
  | limit id => ∃ l ∈ db.bandwidthLimits.rows, l.id = id ∧ l.parentId = p
  | _ => True

end Read

/-! ### Two databases -/

/-- The second world has the other database. -/
def Twin (db₀ db₁ : Database) (s t : World) : Prop := s.db = db₁ ∧ t = { s with db := db₀ }

section Calls
variable {db₀ db₁ : Database} {α β : Type}

theorem run_query_twin {F : Database → ℕ → α} (hF : ∀ n, F db₁ n = F db₀ n) {s t : World}
    (h : Twin db₀ db₁ s t) : ∃ s' t' n, Twin db₀ db₁ s' t' ∧
      (Prisma.query F).run s = (.ok (F db₀ n), s') ∧
        (Prisma.query F).run t = (.ok (F db₀ n), t') := by
  obtain ⟨rfl, rfl⟩ := h
  refine ⟨World.afterCall s s.db, { World.afterCall s s.db with db := db₀ }, s.tape s.calls,
    ⟨rfl, rfl⟩,
    ?_, rfl⟩
  rw [run_query, hF]

/-- A query that answers alike. -/
theorem respects_query {F : Database → ℕ → α} (hF : ∀ n, F db₁ n = F db₀ n) :
    Prog.Respects (Twin db₀ db₁) (Prisma.query F) := by
  intro s t h
  obtain ⟨s', t', n, h', hs, ht⟩ := run_query_twin hF h
  rw [hs, ht]
  exact ⟨rfl, h'⟩

/-- What follows a query sees an answer from the second database. -/
theorem respects_queryBind {F : Database → ℕ → α} {k : α → Api β} (hF : ∀ n, F db₁ n = F db₀ n)
    (hk : ∀ n, Prog.Respects (Twin db₀ db₁) (k (F db₀ n))) :
    Prog.Respects (Twin db₀ db₁) (Prisma.query F >>= k) := by
  intro s t h
  obtain ⟨s', t', n, h', hs, ht⟩ := run_query_twin hF h
  rw [Prog.run_bind, Prog.run_bind, hs, ht]
  exact hk n s' t' h'

theorem respects_newDate : Prog.Respects (Twin db₀ db₁) newDate :=
  .read fun _ _ h => by rw [h.2]

end Calls

/-! ### The same rows -/

section Rows
variable {ρ : Type} {key : ρ → String} {mine q : ρ → Bool} {t t' : Table key}

theorem filter_same (h : ownRows mine t = ownRows mine t') (hq : ∀ r, q r = true → mine r = true) :
    t.rows.filter q = t'.rows.filter q := by
  have hshares : Shares mine (otherRows mine t) t t' := ⟨h, rfl⟩
  exact hshares.filter hq

theorem find?_same (h : ownRows mine t = ownRows mine t') (hq : ∀ r, q r = true → mine r = true) :
    t.rows.find? q = t'.rows.find? q := by
  have hshares : Shares mine (otherRows mine t) t t' := ⟨h, rfl⟩
  exact hshares.find? hq

theorem countP_same (h : ownRows mine t = ownRows mine t') (hq : ∀ r, q r = true → mine r = true) :
    t.rows.countP q = t'.rows.countP q := by
  rw [List.countP_eq_length_filter, List.countP_eq_length_filter, filter_same h hq]

theorem find_same (h : ownRows mine t = ownRows mine t') {r : ρ} (hr : r ∈ t'.rows)
    (hmine : mine r = true) : t.find (key r) = t'.find (key r) := by
  have hmem : r ∈ t.rows := by rwa [← mem_ownRows hmine, h, mem_ownRows hmine]
  rw [Table.find_eq_some.mpr ⟨hmem, rfl⟩, Table.find_eq_some.mpr ⟨hr, rfl⟩]

theorem matching_same (m : Model key) (mine : ρ → Bool) {db₀ db₁ : Database}
    (h : ownRows mine (m.get db₁) = ownRows mine (m.get db₀)) (hq : ∀ r, q r = true → mine r = true)
    (n : ℕ) : matching m db₁ n q = matching m db₀ n q :=
  congrArg (arrange n) (filter_same h hq)

theorem respects_findMany (m : Model key) (mine : ρ → Bool) {db₀ db₁ : Database}
    (h : ownRows mine (m.get db₁) = ownRows mine (m.get db₀))
    (hq : ∀ r, q r = true → mine r = true) : Prog.Respects (Twin db₀ db₁) (Prisma.findMany m q) :=
  respects_query fun n => matching_same m mine h hq n

theorem respects_findUniqueBy (m : Model key) (mine : ρ → Bool) {db₀ db₁ : Database}
    (h : ownRows mine (m.get db₁) = ownRows mine (m.get db₀))
    (hq : ∀ r, q r = true → mine r = true) :
    Prog.Respects (Twin db₀ db₁) (Prisma.findUniqueBy m q) :=
  respects_query fun _ => find?_same h hq

theorem respects_findManyBy (m : Model key) (mine : ρ → Bool) {db₀ db₁ : Database}
    (h : ownRows mine (m.get db₁) = ownRows mine (m.get db₀)) (hq : ∀ r, q r = true → mine r = true)
    (le : ρ → ρ → Bool) : Prog.Respects (Twin db₀ db₁) (Prisma.findManyBy m q le) :=
  respects_query fun n => congrArg _ (matching_same m mine h hq n)

end Rows

/-! ### Rows of the family -/

section Family
variable {p : String} {db : Database} {d : Device}

theorem ofDevice_of_parent (hd : d.parentId = p) : (familyOf p db).ofDevice d = true := by
  rw [Family.ofDevice, Bool.or_eq_true]
  exact .inl (decide_eq_true hd)

theorem ofDevice_of_child {c : String} (hd : d.childId = some c)
    (hc : c ∈ (familyOf p db).children) : (familyOf p db).ofDevice d = true := by
  rw [Family.ofDevice, Bool.or_eq_true, Bool.or_eq_true, hd]
  exact .inr (.inl (decide_eq_true hc))

theorem ofDevice_of_gateway {k : String} (hd : d.gatewayId = some k)
    (hk : k ∈ (familyOf p db).gateways) : (familyOf p db).ofDevice d = true := by
  rw [Family.ofDevice, Bool.or_eq_true, Bool.or_eq_true, hd]
  exact .inr (.inr (decide_eq_true hk))

theorem child_mem {c : Child} (hc : c ∈ db.children.rows) (hp : c.parentId = p) :
    c.id ∈ (familyOf p db).children :=
  List.mem_map_of_mem (List.mem_filter.mpr ⟨hc, decide_eq_true hp⟩)

theorem device_mem (hd : d ∈ db.devices.rows) (hp : d.parentId = p) :
    d.id ∈ (familyOf p db).devices :=
  List.mem_map_of_mem (List.mem_filter.mpr ⟨hd, decide_eq_true hp⟩)

theorem gateway_mem {g : Gateway} (hg : g ∈ db.gateways.rows) (hp : g.parentId = p) :
    g.id ∈ (familyOf p db).gateways :=
  List.mem_map_of_mem (List.mem_filter.mpr ⟨hg, decide_eq_true hp⟩)

end Family

section Finds
variable {p : String} {db₀ db₁ : Database}
  (h : holding (familyOf p db₀) db₁ = holding (familyOf p db₀) db₀)
include h

theorem find_child {id : String} (hid : id ∈ (familyOf p db₀).children) :
    db₁.children.find id = db₀.children.find id := by
  obtain ⟨c, hc, rfl⟩ := List.mem_map.mp hid
  obtain ⟨hmem, hp⟩ := List.mem_filter.mp hc
  exact find_same (congrArg Holding.children h) hmem hp

theorem find_device {id : String} (hid : id ∈ (familyOf p db₀).devices) :
    db₁.devices.find id = db₀.devices.find id := by
  obtain ⟨d, hd, rfl⟩ := List.mem_map.mp hid
  obtain ⟨hmem, hp⟩ := List.mem_filter.mp hd
  exact find_same (congrArg Holding.devices h) hmem (ofDevice_of_parent (of_decide_eq_true hp))

theorem find_gateway {id : String} (hid : id ∈ (familyOf p db₀).gateways) :
    db₁.gateways.find id = db₀.gateways.find id := by
  obtain ⟨g, hg, rfl⟩ := List.mem_map.mp hid
  obtain ⟨hmem, hp⟩ := List.mem_filter.mp hg
  exact find_same (congrArg Holding.gateways h) hmem hp

theorem respects_findOne {id : String} (hid : id ∈ (familyOf p db₀).devices) :
    Prog.Respects (Twin db₀ db₁) (Devices.findOne p id) := by
  have hfind : Prog.Respects (Twin db₀ db₁) (Prisma.findUnique .device id) :=
    respects_query fun _ => find_device h hid
  unfold Devices.findOne
  refine .bind hfind fun found => ?_
  refine .bind (.orThrow _ _) fun device => ?_
  exact .bind (.require _ _) fun _ => .pure _

theorem respects_findOwned {id : String} (hid : id ∈ (familyOf p db₀).gateways) :
    Prog.Respects (Twin db₀ db₁) (Gateways.findOwned p id) := by
  have hfind : Prog.Respects (Twin db₀ db₁) (Gateways.findGateway id) := by
    unfold Gateways.findGateway
    exact .bind (respects_query fun _ => find_gateway h hid) fun _ => .orThrow _ _
  unfold Gateways.findOwned
  refine .bind hfind fun gateway => ?_
  exact .bind (.require _ _) fun _ => .pure _

end Finds

/-! ### Endpoint by endpoint -/

section Endpoints
variable {p : String} {db₀ db₁ : Database}
  (h : holding (familyOf p db₀) db₁ = holding (familyOf p db₀) db₀)
include h

theorem devices_same (n : ℕ) : matching .device db₁ n (fun d => d.parentId = p) =
    matching .device db₀ n fun d => d.parentId = p :=
  matching_same .device (familyOf p db₀).ofDevice (congrArg Holding.devices h)
    (fun _ hd => ofDevice_of_parent (of_decide_eq_true hd)) n

theorem devicesOfChild_same {c : String} (hc : c ∈ (familyOf p db₀).children) (n : ℕ) :
    matching .device db₁ n (fun d => d.childId = some c) =
      matching .device db₀ n fun d => d.childId = some c :=
  matching_same .device (familyOf p db₀).ofDevice (congrArg Holding.devices h)
    (fun _ hd => ofDevice_of_child (of_decide_eq_true hd) hc) n

theorem children_same (n : ℕ) : matching .child db₁ n (fun c => c.parentId = p) =
    matching .child db₀ n fun c => c.parentId = p :=
  matching_same .child (familyOf p db₀).ofChild (congrArg Holding.children h) (fun _ hc => hc) n

theorem respects_children : Prog.Respects (Twin db₀ db₁) (Children.findAll p) := by
  refine respects_query fun n => ?_
  rw [children_same h]
  refine List.map_congr_left fun c hc => ?_
  obtain ⟨hmem, hp⟩ := mem_matching.mp hc
  rw [devicesOfChild_same h (child_mem hmem (of_decide_eq_true hp))]

theorem respects_child {id : String} (hid : id ∈ (familyOf p db₀).children) :
    Prog.Respects (Twin db₀ db₁) (Children.findDetails p id) := by
  unfold Children.findDetails
  refine .bind (respects_query fun n => ?_) fun found => ?_
  rotate_left
  · refine .bind (.orThrow _ _) fun child => ?_
    exact .bind (.require _ _) fun _ => .pure _
  rw [find_child h hid]
  rcases hc : db₀.children.find id with _ | c
  · rfl
  · obtain rfl := Table.key_of_find hc
    have hrules : matching .rule db₁ n (fun r => r.childId = c.id) =
        matching .rule db₀ n fun r => r.childId = c.id :=
      matching_same .rule (familyOf p db₀).ofRule (congrArg Holding.rules h) (fun r hr => by
        rw [Family.ofRule, of_decide_eq_true hr]
        exact decide_eq_true hid) n
    simp only [Option.map_some, devicesOfChild_same h hid, hrules]

/-- A child that is found is the family's in both databases or in none. -/
theorem ownChild_same (id : String) : (db₁.children.find id).filter (fun c => c.parentId = p) =
    (db₀.children.find id).filter fun c => c.parentId = p := by
  by_cases hid : id ∈ (familyOf p db₀).children
  · rw [find_child h hid]
  · have hrows : ownRows (familyOf p db₀).ofChild db₁.children =
        ownRows (familyOf p db₀).ofChild db₀.children := congrArg Holding.children h
    have hnone : ∀ db : Database, ownRows (familyOf p db₀).ofChild db.children =
        ownRows (familyOf p db₀).ofChild db₀.children →
        (db.children.find id).filter (fun c => c.parentId = p) = none := by
      intro db hdb
      refine Option.filter_eq_none_iff.mpr fun c hc hp => hid ?_
      obtain ⟨hmem, rfl⟩ := Table.find_eq_some.mp hc
      have hown : (familyOf p db₀).ofChild c = true := hp
      rw [← mem_ownRows hown, hdb, mem_ownRows hown] at hmem
      exact child_mem hmem (of_decide_eq_true hp)
    rw [hnone db₁ hrows, hnone db₀ rfl]

theorem respects_rules : Prog.Respects (Twin db₀ db₁) (Rules.findAll p) := by
  refine respects_query fun n => congrArg (arrange n) ?_
  simp only [ownChild_same h]
  have hown : ∀ t : Table Rule.id, t.rows.filterMap (fun r =>
      ((db₀.children.find r.childId).filter fun c => c.parentId = p).map fun c =>
        (⟨r, c.id, c.name⟩ : Rules.Listed)) =
      (ownRows (familyOf p db₀).ofRule t).filterMap fun r =>
      ((db₀.children.find r.childId).filter fun c => c.parentId = p).map fun c =>
        (⟨r, c.id, c.name⟩ : Rules.Listed) := by
    intro t
    unfold ownRows
    induction t.rows with
    | nil => rfl
    | cons r rs ih =>
      rcases hr : (familyOf p db₀).ofRule r with _ | _
      · rw [List.filter_cons_of_neg (by simp [hr]), List.filterMap_cons_none _, ih]
        refine Option.map_eq_none_iff.mpr (Option.filter_eq_none_iff.mpr fun c hc hp => ?_)
        obtain ⟨hmem, hid⟩ := Table.find_eq_some.mp hc
        have hchild := child_mem hmem (of_decide_eq_true hp)
        rw [hid] at hchild
        exact absurd hchild (of_decide_eq_false hr)
      · rw [List.filter_cons_of_pos hr, List.filterMap_cons, List.filterMap_cons, ih]
  have hrules : ownRows (familyOf p db₀).ofRule db₁.rules =
      ownRows (familyOf p db₀).ofRule db₀.rules := congrArg Holding.rules h
  rw [hown, hown, hrules]

theorem respects_limits : Prog.Respects (Twin db₀ db₁) (Bandwidth.findAll p) :=
  respects_findManyBy .bandwidthLimit (familyOf p db₀).ofLimit (congrArg Holding.bandwidthLimits h)
    (fun _ hl => hl) _

theorem respects_limit {id : String}
    (hid : ∃ l ∈ db₀.bandwidthLimits.rows, l.id = id ∧ l.parentId = p) :
    Prog.Respects (Twin db₀ db₁) (Bandwidth.findOne p id) := by
  obtain ⟨l, hl, rfl, hp⟩ := hid
  have hlimits : ownRows (familyOf p db₀).ofLimit db₁.bandwidthLimits =
      ownRows (familyOf p db₀).ofLimit db₀.bandwidthLimits := congrArg Holding.bandwidthLimits h
  have hfind : Prog.Respects (Twin db₀ db₁) (Prisma.findUnique .bandwidthLimit l.id) :=
    respects_query fun _ => find_same hlimits hl (decide_eq_true hp)
  unfold Bandwidth.findOne
  refine .bind hfind fun found => ?_
  refine .bind (.orThrow _ _) fun limit => ?_
  exact .bind (.require _ _) fun _ => .pure _

theorem respects_profile : Prog.Respects (Twin db₀ db₁) (Parents.getProfile p) := by
  refine .bind (respects_query fun _ => ?_) fun _ => .orThrow _ _
  have husers : ownRows (familyOf p db₀).ofUser db₁.users =
      ownRows (familyOf p db₀).ofUser db₀.users := congrArg Holding.users h
  have hfind : db₁.users.find p = db₀.users.find p := find?_same husers fun _ hu => hu
  rw [hfind]
  rcases hu : db₀.users.find p with _ | u
  · rfl
  · obtain rfl := Table.key_of_find hu
    have hsubs : ownRows (familyOf u.id db₀).ofSubscription db₁.subscriptions =
        ownRows (familyOf u.id db₀).ofSubscription db₀.subscriptions :=
          congrArg Holding.subscriptions h
    have hsame := find?_same (q := fun s : Subscription => s.userId = u.id) hsubs
      fun _ hs => hs
    simp only [Option.map_some, hsame]

theorem respects_subscription : Prog.Respects (Twin db₀ db₁) (Parents.getSubscription p) := by
  unfold Parents.getSubscription
  refine .bind ?_ fun found => .orThrow _ _
  exact respects_findUniqueBy .subscription (familyOf p db₀).ofSubscription
    (congrArg Holding.subscriptions h) fun _ hs => hs

theorem respects_notifications : Prog.Respects (Twin db₀ db₁) (Notifications.findByUser p) := by
  unfold Notifications.findByUser
  refine .bind ?_ fun notifications => .pure _
  exact respects_findManyBy .notificationEvent (familyOf p db₀).ofNotification
    (congrArg Holding.notificationEvents h) (fun _ hn => hn) _

theorem respects_categoryBlocks {id : String} (hid : id ∈ (familyOf p db₀).children) :
    Prog.Respects (Twin db₀ db₁) (Categories.listCategoryBlocks p id) := by
  have howner : Prog.Respects (Twin db₀ db₁) (Categories.assertChildOwnership p id) := by
    unfold Categories.assertChildOwnership
    refine .bind (respects_query fun _ => find_child h hid) fun found => ?_
    exact .bind (.orThrow _ _) fun child => .require _ _
  unfold Categories.listCategoryBlocks
  refine .bind howner fun _ => ?_
  refine respects_findMany .categoryBlock (familyOf p db₀).ofCategoryBlock
    (congrArg Holding.categoryBlocks h) fun b hb => ?_
  rw [Family.ofCategoryBlock, of_decide_eq_true hb]
  exact decide_eq_true hid

theorem respects_activeSessions :
    Prog.Respects (Twin db₀ db₁) (DeviceHealth.activeSessionDeviceIds p) := by
  unfold DeviceHealth.activeSessionDeviceIds
  refine .bind ?_ fun sessions => .pure _
  refine respects_findMany .session (familyOf p db₀).ofSession (congrArg Holding.sessions h)
    fun s hs => ?_
  exact (Bool.and_eq_true_iff.mp hs).1

theorem respects_pairingStatus {id : String} (hid : id ∈ (familyOf p db₀).devices) :
    Prog.Respects (Twin db₀ db₁) (Pairing.getStatus id p) := by
  have howned : Prog.Respects (Twin db₀ db₁) (Pairing.findOwned id p) := by
    unfold Pairing.findOwned
    refine .bind (respects_query fun _ => find_device h hid) fun found => ?_
    refine .bind (.orThrow _ _) fun device => ?_
    exact .bind (.require _ _) fun _ => .pure _
  unfold Pairing.getStatus
  refine .bind howned fun device => ?_
  exact .bind respects_newDate fun now => .pure _

theorem respects_deviceHealth {id : String} (hid : id ∈ (familyOf p db₀).devices) :
    Prog.Respects (Twin db₀ db₁) (DeviceHealth.getForDevice p id) := by
  unfold DeviceHealth.getForDevice
  refine .bind (respects_findOne h hid) fun device => ?_
  refine .bind (respects_activeSessions h) fun active => ?_
  exact .bind respects_newDate fun now => .pure _

theorem respects_healthSummary : Prog.Respects (Twin db₀ db₁) (DeviceHealth.getSummary p) := by
  unfold DeviceHealth.getSummary
  refine .bind ?_ fun devices => ?_
  · exact respects_findManyBy .device (familyOf p db₀).ofDevice (congrArg Holding.devices h)
      (fun d hd => ofDevice_of_parent (of_decide_eq_true hd)) _
  · refine .bind (respects_activeSessions h) fun active => ?_
    exact .bind respects_newDate fun now => .pure _

/-! ### Routers and gateways -/

theorem respects_findRouter {id : String} (hid : id ∈ (familyOf p db₀).gateways) :
    Prog.Respects (Twin db₀ db₁) (RouterIntegration.findRouter id) := by
  refine respects_findUniqueBy .detectedRouter (familyOf p db₀).ofRouter
    (congrArg Holding.detectedRouters h) fun r hr => ?_
  rw [Family.ofRouter, of_decide_eq_true hr]
  exact decide_eq_true hid

theorem respects_features {id : String} (hid : id ∈ (familyOf p db₀).gateways) :
    Prog.Respects (Twin db₀ db₁) (RouterIntegration.getFeatures p id) := by
  unfold RouterIntegration.getFeatures
  refine .bind (respects_findOwned h hid) fun gateway => ?_
  refine .bind (respects_findRouter h hid) fun router => ?_
  split
  · exact .pure _
  · exact .pure _

theorem respects_diagnostics {id : String} (hid : id ∈ (familyOf p db₀).gateways) :
    Prog.Respects (Twin db₀ db₁) (RouterIntegration.getDiagnostics p id) := by
  have hcommands : Prog.Respects (Twin db₀ db₁) (RouterIntegration.listRecentCommands id) := by
    unfold RouterIntegration.listRecentCommands
    refine .bind ?_ fun commands => .pure _
    refine respects_findManyBy .routerCommand (familyOf p db₀).ofRouterCommand
      (congrArg Holding.routerCommands h) (fun c hc => ?_) _
    rw [Family.ofRouterCommand, of_decide_eq_true hc]
    exact decide_eq_true hid
  unfold RouterIntegration.getDiagnostics
  refine .bind (respects_findOwned h hid) fun gateway => ?_
  refine .bind (respects_findRouter h hid) fun found => ?_
  exact .bind hcommands fun recentCommands => .pure _

/-- The reports about some of the family's devices. -/
theorem respects_countDoh (since : Time) {ids : List String}
    (hids : ∀ id ∈ ids, id ∈ (familyOf p db₀).devices) :
    Prog.Respects (Twin db₀ db₁) (Gateways.countDoh since ids) := by
  unfold Gateways.countDoh
  split_ifs
  · exact .pure _
  refine respects_query fun _ => ?_
  have hcount : ∀ t : Table AuditLog.id, t.rows.countP (fun a => a.action = "doh_dot_detected" &&
      a.entityId.any (· ∈ ids) && since ≤ a.createdAt) =
      ((ownRows (familyOf p db₀).ofReport t).map anonymous).countP fun a =>
        a.action = "doh_dot_detected" && a.entityId.any (· ∈ ids) && since ≤ a.createdAt := by
    intro t
    rw [List.countP_map, ownRows, List.countP_filter]
    refine List.countP_congr fun a _ => ?_
    constructor
    · intro ha
      refine Bool.and_eq_true_iff.mpr ⟨ha, ?_⟩
      simp only [Bool.and_eq_true] at ha
      rw [Family.ofReport, Bool.and_eq_true]
      refine ⟨ha.1.1, ?_⟩
      obtain ⟨⟨-, hany⟩, -⟩ := ha
      rcases hx : a.entityId with _ | x <;> rw [hx] at hany
      · cases hany
      · exact decide_eq_true (hids x (of_decide_eq_true hany))
    · exact fun ha => (Bool.and_eq_true_iff.mp ha).1
  have hreports : (ownRows (familyOf p db₀).ofReport db₁.auditLogs).map anonymous =
      (ownRows (familyOf p db₀).ofReport db₀.auditLogs).map anonymous := congrArg Holding.reports h
  rw [hcount, hcount, hreports]

/-- The routers behind some of the family's gateways. -/
theorem respects_detectedRoutersOf {ids : List String}
    (hids : ∀ k ∈ ids, k ∈ (familyOf p db₀).gateways) :
    Prog.Respects (Twin db₀ db₁) (NetworkHealth.detectedRoutersOf ids) := by
  unfold NetworkHealth.detectedRoutersOf
  split_ifs
  · exact .pure _
  · refine respects_findMany .detectedRouter (familyOf p db₀).ofRouter
      (congrArg Holding.detectedRouters h) fun r hr => ?_
    exact decide_eq_true (hids _ (of_decide_eq_true hr))

/-- The commands for some of the family's gateways. -/
theorem respects_recentCommandsOf {ids : List String}
    (hids : ∀ k ∈ ids, k ∈ (familyOf p db₀).gateways) :
    Prog.Respects (Twin db₀ db₁) (NetworkHealth.recentCommandsOf ids) := by
  unfold NetworkHealth.recentCommandsOf
  split_ifs
  · exact .pure _
  · refine .bind ?_ fun commands => .pure _
    refine respects_findManyBy .routerCommand (familyOf p db₀).ofRouterCommand
      (congrArg Holding.routerCommands h) (fun c hc => ?_) _
    exact decide_eq_true (hids _ (of_decide_eq_true (Bool.and_eq_true_iff.mp hc).1))

/-- The VPN detections of some of the family's gateways. -/
theorem respects_countVpn (since : Time) {ids : List String}
    (hids : ∀ k ∈ ids, k ∈ (familyOf p db₀).gateways) :
    Prog.Respects (Twin db₀ db₁) (NetworkHealth.countVpn since ids) := by
  have hlogs : ownRows (familyOf p db₀).ofVpnDetection db₁.vpnDetectionLogs =
      ownRows (familyOf p db₀).ofVpnDetection db₀.vpnDetectionLogs :=
    congrArg Holding.vpnDetectionLogs h
  unfold NetworkHealth.countVpn
  split_ifs
  · exact .pure _
  · refine respects_query fun _ => countP_same hlogs fun l hl => ?_
    exact decide_eq_true (hids _ (of_decide_eq_true (Bool.and_eq_true_iff.mp hl).1))

theorem respects_signals : Prog.Respects (Twin db₀ db₁) (NetworkHealth.signals p) := by
  have hgateways : ∀ n, ∀ k ∈ (matching .gateway db₀ n fun g => g.parentId = p).map Gateway.id,
      k ∈ (familyOf p db₀).gateways := by
    intro n k hk
    obtain ⟨g, hg, rfl⟩ := List.mem_map.mp hk
    obtain ⟨hmem, hp⟩ := mem_matching.mp hg
    exact gateway_mem hmem (of_decide_eq_true hp)
  have hdevices : ∀ n, ∀ x ∈ (matching .device db₀ n fun d => d.parentId = p).map Device.id,
      x ∈ (familyOf p db₀).devices := by
    intro n x hx
    obtain ⟨d, hd, rfl⟩ := List.mem_map.mp hx
    obtain ⟨hmem, hp⟩ := mem_matching.mp hd
    exact device_mem hmem (of_decide_eq_true hp)
  unfold NetworkHealth.signals
  refine .bind respects_newDate fun now => ?_
  refine .bind (respects_healthSummary h) fun summary => ?_
  refine respects_queryBind (matching_same .gateway (familyOf p db₀).ofGateway
    (congrArg Holding.gateways h) fun _ hg => hg) fun n => ?_
  refine respects_queryBind (devices_same h) fun n' => ?_
  refine .bind (respects_detectedRoutersOf h (hgateways n)) fun routers => ?_
  refine .bind (respects_recentCommandsOf h (hgateways n)) fun commands => ?_
  refine .bind (respects_countVpn h _ (hgateways n)) fun vpn => ?_
  exact .bind (respects_countDoh h _ (hdevices n')) fun doh => .pure _

/-! ### Rows that refer to others -/

variable (he : Enclosed p db₀)
include he

theorem childOf_same {d : Device} (hd : d ∈ db₀.devices.rows) (hp : d.parentId = p) :
    d.childId.bind db₁.children.find = d.childId.bind db₀.children.find := by
  rcases hc : d.childId with _ | c
  · rfl
  · exact find_child h ((he.deviceChild d hd c hc).mp hp)

theorem respects_devices : Prog.Respects (Twin db₀ db₁) (Devices.findAll p) := by
  unfold Devices.findAll
  refine .bind (respects_query fun n => ?_) fun found => .pure _
  rw [devices_same h]
  refine List.map_congr_left fun d hd => ?_
  obtain ⟨hmem, hp⟩ := mem_matching.mp hd
  rw [childOf_same h he hmem (of_decide_eq_true hp)]

theorem respects_device {id : String} (hid : id ∈ (familyOf p db₀).devices) :
    Prog.Respects (Twin db₀ db₁) (Devices.findPayload p id) := by
  unfold Devices.findPayload
  refine .bind (respects_query fun n => ?_) fun found => ?_
  · rw [find_device h hid]
    obtain ⟨d, hd, rfl⟩ := List.mem_map.mp hid
    obtain ⟨hmem, hp⟩ := List.mem_filter.mp hd
    rw [Table.find_key hmem, Option.map_some, Option.map_some,
      childOf_same h he hmem (of_decide_eq_true hp)]
  · refine .bind (.orThrow _ _) fun device => ?_
    exact .bind (.require _ _) fun _ => .pure _

/-- The sessions of the parent come with the same devices and children. -/
theorem details_same {q : Session → Bool} (hq : ∀ s, q s = true → s.parentId = p) (n : ℕ) :
    ∀ s ∈ matching .session db₀ n q, Sessions.details db₁ s = Sessions.details db₀ s := by
  intro s hs
  obtain ⟨hmem, hqs⟩ := mem_matching.mp hs
  have hp := hq s hqs
  unfold Sessions.details
  rw [find_device h (he.sessionDevice s hmem hp), find_child h (he.sessionChild s hmem hp)]

theorem respects_getActiveSessions :
    Prog.Respects (Twin db₀ db₁) (Sessions.getActiveSessions p) := by
  refine respects_query fun n => ?_
  have hq : ∀ s : Session, (decide (s.parentId = p) && decide (s.status = .active)) = true →
      s.parentId = p := fun s hs => of_decide_eq_true (Bool.and_eq_true_iff.mp hs).1
  rw [matching_same .session (familyOf p db₀).ofSession (congrArg Holding.sessions h)
    fun s hs => decide_eq_true (hq s hs)]
  exact List.map_congr_left (details_same h he hq n)

theorem respects_getHistory : Prog.Respects (Twin db₀ db₁) (Sessions.getHistory p) := by
  refine respects_query fun n => ?_
  have hq : ∀ s : Session, (decide (s.parentId = p) && (decide (s.status = .stopped) ||
      decide (s.status = .expired) || decide (s.status = .violated))) = true → s.parentId = p :=
    fun s hs => of_decide_eq_true (Bool.and_eq_true_iff.mp hs).1
  rw [matching_same .session (familyOf p db₀).ofSession (congrArg Holding.sessions h)
    fun s hs => decide_eq_true (hq s hs)]
  refine List.map_congr_left fun s hs => details_same h he hq n s ?_
  exact (List.mem_insertionSort _).mp (List.mem_of_mem_take hs)

theorem respects_gatewayCard (since now : Time) {g : Gateway}
    (hg : g.id ∈ (familyOf p db₀).gateways) :
    Prog.Respects (Twin db₀ db₁) (Gateways.gatewayCard since now g) := by
  have hdevices : ∀ n, ∀ x ∈ (matching .device db₀ n fun d => d.gatewayId = some g.id).map
      Device.id, x ∈ (familyOf p db₀).devices := by
    intro n x hx
    obtain ⟨d, hd, rfl⟩ := List.mem_map.mp hx
    obtain ⟨hmem, hk⟩ := mem_matching.mp hd
    exact device_mem hmem ((he.deviceGateway d hmem g.id (of_decide_eq_true hk)).mpr hg)
  have hlogs : ownRows (familyOf p db₀).ofVpnDetection db₁.vpnDetectionLogs =
      ownRows (familyOf p db₀).ofVpnDetection db₀.vpnDetectionLogs :=
    congrArg Holding.vpnDetectionLogs h
  unfold Gateways.gatewayCard
  refine respects_queryBind (matching_same .device (familyOf p db₀).ofDevice
    (congrArg Holding.devices h) fun d hd =>
      ofDevice_of_gateway (of_decide_eq_true hd) hg) fun n => ?_
  refine .bind (respects_findRouter h hg) fun router => ?_
  refine .bind (respects_query fun _ => countP_same hlogs fun l hl => ?_) fun vpn => ?_
  · rw [Family.ofVpnDetection, of_decide_eq_true (Bool.and_eq_true_iff.mp hl).1]
    exact decide_eq_true hg
  · exact .bind (respects_countDoh h _ (hdevices n)) fun doh => .pure _

theorem respects_gateways : Prog.Respects (Twin db₀ db₁) (Gateways.listGateways p) := by
  have hgateways : ownRows (familyOf p db₀).ofGateway db₁.gateways =
      ownRows (familyOf p db₀).ofGateway db₀.gateways := congrArg Holding.gateways h
  unfold Gateways.listGateways
  refine respects_queryBind (fun n => congrArg _ (matching_same .gateway _ hgateways
    (fun _ hg => hg) n)) fun n => ?_
  refine .bind respects_newDate fun since => ?_
  refine .bind respects_newDate fun now => ?_
  refine .foldEach _ _ fun cards g hg => ?_
  obtain ⟨hmem, hp⟩ := mem_matching.mp ((List.mem_insertionSort _).mp hg)
  have hown := gateway_mem hmem (of_decide_eq_true hp)
  exact .bind (respects_gatewayCard h he _ _ hown) fun card => .pure _

/-! ### All endpoints -/

/-- **The rows of the family decide the answers.** -/
theorem respects_answer {r : Read} (hr : r.Own p db₀) :
    Prog.Respects (Twin db₀ db₁) (r.answer p) := by
  cases r with
  | children => exact respects_children h
  | child id => exact respects_child h hr
  | rules => exact respects_rules h
  | limits => exact respects_limits h
  | limit id => exact respects_limit h hr
  | devices => exact respects_devices h he
  | device id => exact respects_device h he hr
  | networkStatus id => exact .bind (respects_findOne h hr) fun device => .pure _
  | schedule id => exact .bind (respects_findOne h hr) fun device => .pure _
  | pairingStatus id => exact respects_pairingStatus h hr
  | activeSessions => exact respects_getActiveSessions h he
  | history => exact respects_getHistory h he
  | features id => exact respects_features h hr
  | diagnostics id => exact respects_diagnostics h hr
  | detectedRouter id =>
    exact .bind (respects_findOwned h hr) fun gateway => respects_findRouter h hr
  | gateways => exact respects_gateways h he
  | profile => exact respects_profile h
  | subscription => exact respects_subscription h
  | categoryBlocks id => exact respects_categoryBlocks h hr
  | notifications => exact respects_notifications h
  | deviceHealth id => exact respects_deviceHealth h hr
  | healthSummary => exact respects_healthSummary h
  | networkHealth =>
    refine .bind (respects_signals h) fun input => ?_
    exact .bind respects_newDate fun now => .pure _

end Endpoints

/-! ### Undisturbed reads -/

/-- **Undisturbed reads.** Where a family keeps to itself, a parent's read answers after any
interleaving of other parents' calls as if none of these had been made, and writes nothing. -/
theorem reads_undisturbed {env : Env} {encryption : OAuth.EncryptionService}
    {microsoft : OAuth.Microsoft} {w : World} {p : String} (he : Enclosed p w.db)
    {moves : ℕ → Move Call World} (hstart : ∀ n t, moves n = .start t → Foreign p w.db t)
    (hother : ∀ n f, moves n = .other f → ∀ v, (f v).db = v.db) (n : ℕ) {r : Read}
    (hr : r.Own p w.db) {v : World}
    (hv : v = ((Pool.idle w).after (fun _ => handleCall env encryption microsoft)
      moves n).state) :
    ((r.answer p).run v).1 = ((r.answer p).run { v with db := w.db }).1 ∧
      ((r.answer p).run v).2.db = v.db := by
  have hsame : holding (familyOf p w.db) v.db = holding (familyOf p w.db) w.db := by
    rw [hv]
    exact untouched_after he hstart hother n
  have hrespects := respects_answer hsame he hr
  obtain ⟨hanswer, hdb, -⟩ := hrespects v { v with db := w.db } ⟨rfl, rfl⟩
  exact ⟨hanswer, hdb⟩

/-- The world the other parent's attempts leave. -/
def disturbed : World :=
  ((Pool.idle homesWorld).after
    (fun _ => handleCall .plain Auth.Microsoft.sealing Auth.Microsoft.configured)
    (schedule attempts) 20).state

theorem reads_undisturbed_homes :
    ((Devices.findPayload "uuid-2-0" "uuid-16-0").run disturbed).1 =
        ((Devices.findPayload "uuid-2-0" "uuid-16-0").run
          { disturbed with db := homesWorld.db }).1 ∧
      ((Devices.findPayload "uuid-2-0" "uuid-16-0").run disturbed).2.db = disturbed.db :=
  reads_undisturbed enclosed_homesWorld (fun _ _ => foreign_attempts)
    (forall_other_schedule (by simp [attempts])) 20 (r := .device "uuid-16-0")
    (by change _ ∈ _; decide +kernel) rfl

end GuardTime.Tenants.Reads
