import Mathlib.Tactic
import GuardTime.Lib.Assure
import GuardTime.Lib.Owners
import GuardTime.Services.Account
import GuardTime.Services.Protection
import GuardTime.Services.RouterIntegration

/-! # What other parents' requests write

What a program may write without touching the rows of a family.

* `Holding`: the rows of a family, table by table;
* `Guard`: a table may be written wherever no row of the family is touched;
* `Enclosed`: the family's links stay in the family, so that what goes with the deletion of other
  rows leaves it alone. -/

namespace GuardTime.Tenants.Writes

open GuardTime.Lib.Program GuardTime.Lib.Interleave GuardTime.Lib.Keyed GuardTime.Lib.Js
open GuardTime.Lib.Owners GuardTime.Schema GuardTime.Server GuardTime.Prisma GuardTime.Services

/-! ### The rows of a family -/

/-- A family by the ids of its parent, children, gateways, devices and commands. -/
structure Family where
  parentId : String
  children : List String
  gateways : List String
  devices : List String
  commands : List String

/-- The family of a parent. -/
def familyOf (p : String) (db : Database) : Family :=
  let devices := (db.devices.rows.filter fun d => d.parentId = p).map Device.id
  { parentId := p
    children := (db.children.rows.filter fun c => c.parentId = p).map Child.id
    gateways := (db.gateways.rows.filter fun g => g.parentId = p).map Gateway.id
    devices
    commands := (db.commands.rows.filter fun c => c.deviceId ∈ devices).map Command.id }

namespace Family
variable (f : Family)

def ofUser (u : User) : Bool := u.id = f.parentId
def ofSubscription (s : Subscription) : Bool := s.userId = f.parentId
def ofPushToken (t : PushToken) : Bool := t.userId = f.parentId
def ofChild (c : Child) : Bool := c.parentId = f.parentId

/-- The devices of the parent, and any device of one of its children or behind one of its
gateways. -/
def ofDevice (d : Device) : Bool :=
  d.parentId = f.parentId || (d.childId.any (· ∈ f.children) || d.gatewayId.any (· ∈ f.gateways))

def ofPairingSession (s : PairingSession) : Bool := s.deviceId ∈ f.devices
def ofIpHistory (h : DeviceIpHistory) : Bool := h.deviceId ∈ f.devices
def ofConnectionEvent (e : DeviceConnectionEvent) : Bool := e.deviceId ∈ f.devices
def ofUnknownDomain (l : UnknownDomainLog) : Bool := l.deviceId.any (· ∈ f.devices)
def ofLimit (l : BandwidthLimit) : Bool := l.parentId = f.parentId
def ofVpnDetection (l : VpnDetectionLog) : Bool := l.gatewayId ∈ f.gateways
def ofRule (r : Rule) : Bool := r.childId ∈ f.children
def ofSession (s : Session) : Bool := s.parentId = f.parentId
def ofCommand (c : Command) : Bool := c.deviceId ∈ f.devices
def ofCommandAck (a : CommandAck) : Bool := a.commandId ∈ f.commands
def ofGateway (g : Gateway) : Bool := g.parentId = f.parentId
def ofRouter (r : DetectedRouter) : Bool := r.gatewayId ∈ f.gateways
def ofRouterCommand (c : RouterCommand) : Bool := c.gatewayId ∈ f.gateways
def ofOAuthAccount (a : OAuthAccount) : Bool := a.userId = f.parentId
def ofNotification (e : NotificationEvent) : Bool := e.userId = f.parentId
def ofAuditLog (a : AuditLog) : Bool := a.userId = some f.parentId

/-- A report that one of its devices has asked another resolver. -/
def ofReport (a : AuditLog) : Bool :=
  a.action = "doh_dot_detected" && a.entityId.any (· ∈ f.devices)

def ofCategoryBlock (b : CategoryBlock) : Bool := b.childId ∈ f.children

end Family

/-- The rows of a family. -/
@[ext]
structure Holding where
  users : List User
  subscriptions : List Subscription
  pushTokens : List PushToken
  children : List Child
  devices : List Device
  pairingSessions : List PairingSession
  deviceIpHistory : List DeviceIpHistory
  deviceConnectionEvents : List DeviceConnectionEvent
  unknownDomainLogs : List UnknownDomainLog
  bandwidthLimits : List BandwidthLimit
  vpnDetectionLogs : List VpnDetectionLog
  rules : List Rule
  sessions : List Session
  commands : List Command
  commandAcks : List CommandAck
  gateways : List Gateway
  detectedRouters : List DetectedRouter
  routerCommands : List RouterCommand
  oAuthAccounts : List OAuthAccount
  notificationEvents : List NotificationEvent
  auditLogs : List AuditLog
  reports : List AuditLog
  categoryBlocks : List CategoryBlock

/-- The entry without the user it refers to. -/
def anonymous (a : AuditLog) : AuditLog := { a with userId := none }

/-- What the family has. -/
def holding (f : Family) (db : Database) : Holding where
  users := ownRows f.ofUser db.users
  subscriptions := ownRows f.ofSubscription db.subscriptions
  pushTokens := ownRows f.ofPushToken db.pushTokens
  children := ownRows f.ofChild db.children
  devices := ownRows f.ofDevice db.devices
  pairingSessions := ownRows f.ofPairingSession db.pairingSessions
  deviceIpHistory := ownRows f.ofIpHistory db.deviceIpHistory
  deviceConnectionEvents := ownRows f.ofConnectionEvent db.deviceConnectionEvents
  unknownDomainLogs := ownRows f.ofUnknownDomain db.unknownDomainLogs
  bandwidthLimits := ownRows f.ofLimit db.bandwidthLimits
  vpnDetectionLogs := ownRows f.ofVpnDetection db.vpnDetectionLogs
  rules := ownRows f.ofRule db.rules
  sessions := ownRows f.ofSession db.sessions
  commands := ownRows f.ofCommand db.commands
  commandAcks := ownRows f.ofCommandAck db.commandAcks
  gateways := ownRows f.ofGateway db.gateways
  detectedRouters := ownRows f.ofRouter db.detectedRouters
  routerCommands := ownRows f.ofRouterCommand db.routerCommands
  oAuthAccounts := ownRows f.ofOAuthAccount db.oAuthAccounts
  notificationEvents := ownRows f.ofNotification db.notificationEvents
  auditLogs := ownRows f.ofAuditLog db.auditLogs
  reports := (ownRows f.ofReport db.auditLogs).map anonymous
  categoryBlocks := ownRows f.ofCategoryBlock db.categoryBlocks

/-! ### Writes past the rows of an owner -/

section Table
variable {ρ : Type} {key : ρ → String} {mine : ρ → Bool} {t : Table key}

theorem ownRows_modify {p : ρ → Bool} {f : ρ → ρ} (hf : ∀ r, key (f r) = key r)
    (hp : ∀ r ∈ ownRows mine t, p r = false) (hmine : ∀ r, mine r = false → mine (f r) = false) :
    ownRows mine (t.modify p f hf) = ownRows mine t := by
  change (t.rows.map fun r => if p r = true then f r else r).filter mine = t.rows.filter mine
  have hrow : ∀ r ∈ t.rows, (mine (if p r = true then f r else r) = mine r) ∧
      (mine r = true → (if p r = true then f r else r) = r) := by
    intro r hr
    rcases hm : mine r with _ | _
    · refine ⟨?_, nofun⟩
      split_ifs
      · exact hmine r hm
      · exact hm
    · have hnot : p r = false := hp r (List.mem_filter.mpr ⟨hr, hm⟩)
      simp [hnot, hm]
  clear hp
  generalize t.rows = l at hrow
  induction l with
  | nil => rfl
  | cons r rs ih =>
    obtain ⟨hsame, hkept⟩ := hrow r (by simp)
    have hrest := ih fun r' hr' => hrow r' (by simp [hr'])
    rw [List.map_cons, List.filter_cons, List.filter_cons, hsame, hrest]
    rcases hm : mine r with _ | _
    · rfl
    · rw [hkept hm]

theorem ownRows_erase {p : ρ → Bool} (hp : ∀ r ∈ ownRows mine t, p r = false) :
    ownRows mine (t.erase p) = ownRows mine t := by
  change (t.rows.filter fun r => !p r).filter mine = t.rows.filter mine
  rw [List.filter_filter]
  refine List.filter_congr fun r hr => ?_
  rcases hm : mine r with _ | _
  · rfl
  · rw [hp r (List.mem_filter.mpr ⟨hr, hm⟩)]
    rfl

theorem ownRows_insert {r : ρ} {t' : Table key} (h : t.insert r = some t') (hr : mine r = false) :
    ownRows mine t' = ownRows mine t := by
  rw [ownRows, (Table.insert_eq_some h).2, List.filter_append]
  simp [hr, ownRows]

/-- A change that leaves all of an entry but its user leaves the reports. -/
theorem reports_modify {fam : Family} {p : AuditLog → Bool} {f : AuditLog → AuditLog}
    {t : Table AuditLog.id} (hf : ∀ a, (f a).id = a.id)
    (hsame : ∀ a, anonymous (f a) = anonymous a) :
    (ownRows fam.ofReport (t.modify p f hf)).map anonymous =
      (ownRows fam.ofReport t).map anonymous := by
  have hreport : ∀ a, fam.ofReport (f a) = fam.ofReport a := by
    intro a
    have h := congrArg fam.ofReport (hsame a)
    exact h
  unfold ownRows
  rw [Lib.Owners.filter_modify hreport, List.map_map]
  refine List.map_congr_left fun a _ => ?_
  rw [Function.comp_apply]
  split_ifs
  · exact hsame a
  · rfl

end Table

/-- The property pins the owned rows of a table, and survives writes past them. -/
structure Guard (I : World → Prop) {ρ : Type} {key : ρ → String} (m : Model key) (mine : ρ → Bool)
    (own : List ρ) : Prop where
  steady : Steady I
  rows : ∀ w, I w → ownRows mine (m.get w.db) = own
  write : ∀ w t, I w → ownRows mine t = own → I (World.afterCall w (m.set w.db t))

namespace Guard

variable {I : World → Prop} {ρ : Type} {key : ρ → String} {m : Model key} {mine : ρ → Bool}
  {own : List ρ} (h : Guard I m mine own)
include h

/-- A row that is not the owner's has a key of none of the owner's. -/
theorem key_notMem {w : World} (hw : I w) {r : ρ} (hr : r ∈ (m.get w.db).rows)
    (hmine : mine r = false) : key r ∉ own.map key := by
  intro hmem
  obtain ⟨r', hr', hkey⟩ := List.mem_map.mp hmem
  rw [← h.rows w hw] at hr'
  obtain ⟨hr', hmine'⟩ := List.mem_filter.mp hr'
  rw [Table.eq_of_key hr' hr hkey, hmine] at hmine'
  cases hmine'

theorem query {α : Type} (f : Database → ℕ → α) :
    Assures I (fun a => ∃ w n, I w ∧ a = f w.db n) (Prisma.query f) :=
  .call (fun w hw => h.steady w hw) fun w hw a ha => ⟨w, w.tape w.calls, hw, by cases ha; rfl⟩

theorem create {mk : String → Time → ρ} (hmk : ∀ id now, mine (mk id now) = false) :
    Assures I (fun r => ∃ id now, r = mk id now) (Prisma.create m mk) := by
  refine .call (fun w hw => ?_) fun w hw r hr => ?_
  · rcases run_create_cases m mk w with ⟨e, hrun⟩ | ⟨t, ht, hrun⟩ <;>
      change I ((Prisma.create m mk).run w).2 <;> rw [hrun]
    · exact h.steady w hw
    · exact h.write w t hw ((ownRows_insert ht (hmk _ _)).trans (h.rows w hw))
  · rcases run_create_cases m mk w with ⟨e, hrun⟩ | ⟨t, ht, hrun⟩ <;>
      change ((Prisma.create m mk).run w).1 = .ok r at hr <;> rw [hrun] at hr <;> cases hr
    exact ⟨_, _, rfl⟩

theorem update {k : String} {f : ρ → ρ} {hf : ∀ r, key (f r) = key r} (hk : k ∉ own.map key)
    (hmine : ∀ now r, mine r = false → mine (m.touch now (f r)) = false) :
    Assures I (fun r => ∃ now r₀, r = m.touch now (f r₀) ∧ mine r₀ = false ∧
      ∃ w, I w ∧ (m.get w.db).find k = some r₀) (Prisma.update m k f hf) := by
  have hpast : ∀ w, I w → ∀ r ∈ ownRows mine (m.get w.db), decide (key r = k) = false := by
    intro w hw r hr
    rw [h.rows w hw] at hr
    simp only [decide_eq_false_iff_not]
    rintro rfl
    exact hk (List.mem_map_of_mem hr)
  refine .call (fun w hw => ?_) fun w hw r hr => ?_
  · rcases run_update_cases m k f hf w with ⟨e, hrun⟩ | ⟨r₀, -, hrun⟩ <;>
      change I ((Prisma.update m k f hf).run w).2 <;> rw [hrun]
    · exact h.steady w hw
    · exact h.write w _ hw ((ownRows_modify _ (hpast w hw) (hmine w.now)).trans (h.rows w hw))
  · rcases run_update_cases m k f hf w with ⟨e, hrun⟩ | ⟨r₀, hr₀, hrun⟩ <;>
      change ((Prisma.update m k f hf).run w).1 = .ok r at hr <;> rw [hrun] at hr <;> cases hr
    refine ⟨w.now, r₀, rfl, ?_, w, hw, hr₀⟩
    by_contra hown
    have hmem : r₀ ∈ own := by
      rw [← h.rows w hw]
      exact List.mem_filter.mpr ⟨Table.mem_of_find hr₀, by simpa using hown⟩
    exact hk (Table.key_of_find hr₀ ▸ List.mem_map_of_mem hmem)

theorem updateMany {p : ρ → Bool} {f : ρ → ρ} {hf : ∀ r, key (f r) = key r}
    (hp : ∀ r ∈ own, p r = false)
    (hmine : ∀ now r, mine r = false → mine (m.touch now (f r)) = false) :
    Assures I (fun _ => True) (Prisma.updateMany m p f hf) :=
  .call (fun w hw => h.write w _ hw ((ownRows_modify _ (by rwa [h.rows w hw]) (hmine w.now)).trans
    (h.rows w hw))) fun _ _ _ _ => trivial

theorem deleteMany {p : ρ → Bool} (hp : ∀ r ∈ own, p r = false) :
    Assures I (fun _ => True) (Prisma.deleteMany m p) :=
  .call (fun w hw => h.write w _ hw ((ownRows_erase (by rwa [h.rows w hw])).trans (h.rows w hw)))
    fun _ _ _ _ => trivial

theorem upsert {p : ρ → Bool} {f : ρ → ρ} {mk : String → Time → ρ} {hf : ∀ r, key (f r) = key r}
    (hp : ∀ r ∈ own, p r = false)
    (hmine : ∀ now r, mine r = false → mine (m.touch now (f r)) = false)
    (hmk : ∀ id now, mine (mk id now) = false) :
    Assures I (fun _ => True) (Prisma.upsert m p f mk hf) := by
  refine .call (fun w hw => ?_) fun _ _ _ _ => trivial
  rcases run_upsert_cases m p f mk hf w with ⟨e, hrun⟩ | ⟨r, hr, hrun⟩ | ⟨t, -, ht, hrun⟩ <;>
    change I ((Prisma.upsert m p f mk hf).run w).2 <;> rw [hrun]
  · exact h.steady w hw
  · have hnot : ∀ r' ∈ ownRows mine (m.get w.db), decide (key r' = key r) = false := by
      intro r' hr'
      simp only [decide_eq_false_iff_not]
      intro hkey
      obtain ⟨hmem, -⟩ := List.mem_filter.mp hr'
      have heq := Table.eq_of_key hmem (List.mem_of_find?_eq_some hr) hkey
      rw [h.rows w hw] at hr'
      have hfalse := hp r' hr'
      rw [heq, List.find?_some hr] at hfalse
      cases hfalse
    exact h.write w _ hw ((ownRows_modify _ hnot (hmine w.now)).trans (h.rows w hw))
  · exact h.write w t hw ((ownRows_insert ht (hmk _ _)).trans (h.rows w hw))

/-- A deletion with what goes with it. -/
theorem delete {k : String} (hk : k ∉ own.map key)
    (hcascade : ∀ w t, I (World.afterCall w (m.set w.db t)) →
      I (World.afterCall w (m.onDelete k (m.set w.db t)))) :
    Assures I (fun _ => True) (Prisma.delete m k) := by
  refine .call (fun w hw => ?_) fun _ _ _ _ => trivial
  rcases run_delete_cases m k w with ⟨e, hrun⟩ | ⟨r₀, -, hrun⟩ <;>
    change I ((Prisma.delete m k).run w).2 <;> rw [hrun]
  · exact h.steady w hw
  · have hpast : ∀ r ∈ ownRows mine (m.get w.db), decide (key r = k) = false := by
      intro r hr
      rw [h.rows w hw] at hr
      simp only [decide_eq_false_iff_not]
      rintro rfl
      exact hk (List.mem_map_of_mem hr)
    exact hcascade _ _ (h.write w _ hw ((ownRows_erase hpast).trans (h.rows w hw)))

/-- A row that is looked up and passes a check that rows of the owner fail. -/
theorem checked {k : String} {c : ρ → Prop} [DecidablePred c] {e e' : Err}
    (hc : ∀ w, I w → ∀ r ∈ (m.get w.db).rows, c r → mine r = false) :
    Assures I (fun r => key r = k ∧ c r ∧ mine r = false ∧ k ∉ own.map key) (do
      let r ← Prog.orThrow (← Prisma.findUnique m k) e
      Prog.require (c r) e'
      pure r) := by
  refine .bind (h.query _) fun o ho => .bind (.orThrow _ _) fun r hr => .bind (.require _ _)
    fun _ hcr => .pure ?_
  obtain ⟨w, n, hw, rfl⟩ := ho
  obtain ⟨hmem, rfl⟩ := Table.find_eq_some.mp hr
  have hmine := hc w hw r hmem hcr
  exact ⟨rfl, hcr, hmine, h.key_notMem hw hmem hmine⟩

end Guard

/-! ### The invariant -/

/-- The family's rows are as they were. -/
def Untouched (f : Family) (db₀ : Database) : World → Prop :=
  OnDb fun db => holding f db = holding f db₀

section Guards
variable {f : Family} {db₀ : Database}

theorem Guard.pinned {ρ : Type} {key : ρ → String} {m : Model key} {mine : ρ → Bool}
    (get : Holding → List ρ) (put : List ρ → Holding → Holding)
    (hget : ∀ db, get (holding f db) = ownRows mine (m.get db))
    (hset : ∀ db t, holding f (m.set db t) = put (ownRows mine t) (holding f db))
    (hput : ∀ h, put (get h) h = h) :
    Guard (Untouched f db₀) m mine (get (holding f db₀)) where
  steady _ h := h
  rows w hw := by
    have h : holding f w.db = holding f db₀ := hw
    rw [← hget, h]
  write w t hw ht := by
    have h : holding f w.db = holding f db₀ := hw
    change holding f (m.set w.db t) = holding f db₀
    rw [hset, ht, h, hput]

theorem guardUser : Guard (Untouched f db₀) .user f.ofUser (holding f db₀).users :=
  .pinned Holding.users (fun l h => { h with users := l }) (fun _ => rfl)
    (fun _ _ => rfl) fun _ => rfl

theorem guardPushToken :
    Guard (Untouched f db₀) .pushToken f.ofPushToken (holding f db₀).pushTokens :=
  .pinned Holding.pushTokens (fun l h => { h with pushTokens := l }) (fun _ => rfl) (fun _ _ => rfl)
    fun _ => rfl

theorem guardChild : Guard (Untouched f db₀) .child f.ofChild (holding f db₀).children :=
  .pinned Holding.children (fun l h => { h with children := l }) (fun _ => rfl) (fun _ _ => rfl)
    fun _ => rfl

theorem guardDevice : Guard (Untouched f db₀) .device f.ofDevice (holding f db₀).devices :=
  .pinned Holding.devices (fun l h => { h with devices := l }) (fun _ => rfl) (fun _ _ => rfl)
    fun _ => rfl

theorem guardPairingSession :
    Guard (Untouched f db₀) .pairingSession f.ofPairingSession (holding f db₀).pairingSessions :=
  .pinned Holding.pairingSessions (fun l h => { h with pairingSessions := l }) (fun _ => rfl)
    (fun _ _ => rfl) fun _ => rfl

theorem guardLimit :
    Guard (Untouched f db₀) .bandwidthLimit f.ofLimit (holding f db₀).bandwidthLimits :=
  .pinned Holding.bandwidthLimits (fun l h => { h with bandwidthLimits := l }) (fun _ => rfl)
    (fun _ _ => rfl) fun _ => rfl

theorem guardVpnDetection :
    Guard (Untouched f db₀) .vpnDetectionLog f.ofVpnDetection (holding f db₀).vpnDetectionLogs :=
  .pinned Holding.vpnDetectionLogs (fun l h => { h with vpnDetectionLogs := l }) (fun _ => rfl)
    (fun _ _ => rfl) fun _ => rfl

theorem guardRule : Guard (Untouched f db₀) .rule f.ofRule (holding f db₀).rules :=
  .pinned Holding.rules (fun l h => { h with rules := l }) (fun _ => rfl)
    (fun _ _ => rfl) fun _ => rfl

theorem guardSession : Guard (Untouched f db₀) .session f.ofSession (holding f db₀).sessions :=
  .pinned Holding.sessions (fun l h => { h with sessions := l }) (fun _ => rfl) (fun _ _ => rfl)
    fun _ => rfl

theorem guardCommand : Guard (Untouched f db₀) .command f.ofCommand (holding f db₀).commands :=
  .pinned Holding.commands (fun l h => { h with commands := l }) (fun _ => rfl) (fun _ _ => rfl)
    fun _ => rfl

theorem guardGateway : Guard (Untouched f db₀) .gateway f.ofGateway (holding f db₀).gateways :=
  .pinned Holding.gateways (fun l h => { h with gateways := l }) (fun _ => rfl) (fun _ _ => rfl)
    fun _ => rfl

theorem guardRouter :
    Guard (Untouched f db₀) .detectedRouter f.ofRouter (holding f db₀).detectedRouters :=
  .pinned Holding.detectedRouters (fun l h => { h with detectedRouters := l }) (fun _ => rfl)
    (fun _ _ => rfl) fun _ => rfl

theorem guardRouterCommand :
    Guard (Untouched f db₀) .routerCommand f.ofRouterCommand (holding f db₀).routerCommands :=
  .pinned Holding.routerCommands (fun l h => { h with routerCommands := l }) (fun _ => rfl)
    (fun _ _ => rfl) fun _ => rfl

theorem guardOAuthAccount :
    Guard (Untouched f db₀) .oAuthAccount f.ofOAuthAccount (holding f db₀).oAuthAccounts :=
  .pinned Holding.oAuthAccounts (fun l h => { h with oAuthAccounts := l }) (fun _ => rfl)
    (fun _ _ => rfl) fun _ => rfl

theorem guardNotification : Guard (Untouched f db₀) .notificationEvent f.ofNotification
    (holding f db₀).notificationEvents :=
  .pinned Holding.notificationEvents (fun l h => { h with notificationEvents := l }) (fun _ => rfl)
    (fun _ _ => rfl) fun _ => rfl

/-- An audit entry about another user that is no report. -/
theorem assures_createAuditLog {mk : String → Time → AuditLog}
    (huser : ∀ id now, f.ofAuditLog (mk id now) = false)
    (haction : ∀ id now, f.ofReport (mk id now) = false) :
    Assures (Untouched f db₀) (fun _ => True) (Prisma.create .auditLog mk) := by
  refine .call (fun w hw => ?_) fun _ _ _ _ => trivial
  rcases run_create_cases .auditLog mk w with ⟨e, hrun⟩ | ⟨t, ht, hrun⟩ <;>
    change Untouched f db₀ ((Prisma.create .auditLog mk).run w).2 <;> rw [hrun]
  · exact hw
  · have hsame : holding f w.db = holding f db₀ := hw
    change holding f (Model.auditLog.set w.db t) = holding f db₀
    rw [← hsame]
    exact Holding.ext rfl rfl rfl rfl rfl rfl rfl rfl rfl rfl rfl rfl rfl rfl rfl rfl rfl
      rfl rfl rfl
      (ownRows_insert ht (huser _ _))
        (congrArg (List.map anonymous) (ownRows_insert ht (haction _ _)))
      rfl

theorem guardCategoryBlock :
    Guard (Untouched f db₀) .categoryBlock f.ofCategoryBlock (holding f db₀).categoryBlocks :=
  .pinned Holding.categoryBlocks (fun l h => { h with categoryBlocks := l }) (fun _ => rfl)
    (fun _ _ => rfl) fun _ => rfl

end Guards

/-! ### Families that keep to themselves -/

/-- The links of the family's rows stay in the family, and no other device is one of its children's
or behind its gateways. -/
structure Enclosed (p : String) (db : Database) : Prop where
  deviceChild : ∀ d ∈ db.devices.rows, ∀ c, d.childId = some c →
    (d.parentId = p ↔ c ∈ (familyOf p db).children)
  deviceGateway : ∀ d ∈ db.devices.rows, ∀ k, d.gatewayId = some k →
    (d.parentId = p ↔ k ∈ (familyOf p db).gateways)
  sessionChild : ∀ s ∈ db.sessions.rows, s.parentId = p → s.childId ∈ (familyOf p db).children
  sessionDevice : ∀ s ∈ db.sessions.rows, s.parentId = p → s.deviceId ∈ (familyOf p db).devices

section Enclosed
variable {p : String} {db₀ : Database} (he : Enclosed p db₀)
include he

theorem Enclosed.parentId {d : Device} (hd : d ∈ (holding (familyOf p db₀) db₀).devices) :
    d ∈ db₀.devices.rows ∧ d.parentId = p := by
  obtain ⟨hmem, hown⟩ := List.mem_filter.mp hd
  refine ⟨hmem, ?_⟩
  rw [Family.ofDevice, Bool.or_eq_true, Bool.or_eq_true] at hown
  rcases hown with hp | hc | hk
  · exact of_decide_eq_true hp
  · rcases hd : d.childId with _ | c
    · rw [hd] at hc
      cases hc
    · rw [hd] at hc
      exact (he.deviceChild d hmem c hd).mpr (by simpa using hc)
  · rcases hg : d.gatewayId with _ | k
    · rw [hg] at hk
      cases hk
    · rw [hg] at hk
      exact (he.deviceGateway d hmem k hg).mpr (by simpa using hk)

theorem Enclosed.mem_devices {x : String} : x ∈ (familyOf p db₀).devices ↔
    x ∈ (holding (familyOf p db₀) db₀).devices.map Device.id := by
  constructor
  · intro hx
    obtain ⟨d, hd, rfl⟩ := List.mem_map.mp hx
    obtain ⟨hmem, hp⟩ := List.mem_filter.mp hd
    refine List.mem_map_of_mem (List.mem_filter.mpr ⟨hmem, ?_⟩)
    rw [Family.ofDevice, Bool.or_eq_true]
    exact .inl hp
  · intro hx
    obtain ⟨d, hd, rfl⟩ := List.mem_map.mp hx
    obtain ⟨hmem, hp⟩ := he.parentId hd
    exact List.mem_map_of_mem (List.mem_filter.mpr ⟨hmem, by simpa using hp⟩)

/-! ### What goes with a deletion -/

variable {db : Database}

theorem untouched_cascadeChildren {ids : List String}
    (hids : ∀ c ∈ (familyOf p db₀).children, c ∉ ids)
    (h : holding (familyOf p db₀) db = holding (familyOf p db₀) db₀) :
    holding (familyOf p db₀) (Model.cascadeChildren ids db) = holding (familyOf p db₀) db₀ := by
  rw [← h]
  refine Holding.ext rfl rfl rfl rfl ?_ rfl rfl rfl rfl rfl rfl ?_ ?_ rfl rfl rfl rfl rfl rfl
    rfl rfl rfl
    ?_
  · refine ownRows_modify (by intro; rfl) (fun d hd => ?_) fun d hd => ?_
    · have hd₀ : d ∈ (holding (familyOf p db₀) db₀).devices := h ▸ hd
      obtain ⟨hmem, hp⟩ := he.parentId hd₀
      rcases hc : d.childId with _ | c
      · rfl
      · simpa using hids c ((he.deviceChild d hmem c hc).mp hp)
    · rw [Family.ofDevice, Bool.or_eq_false_iff, Bool.or_eq_false_iff] at hd ⊢
      exact ⟨hd.1, rfl, hd.2.2⟩
  · refine ownRows_erase fun r hr => ?_
    have hown := (List.mem_filter.mp hr).2
    rw [Family.ofRule, decide_eq_true_eq] at hown
    simpa using hids r.childId hown
  · refine ownRows_erase fun s hs => ?_
    have hs₀ : s ∈ (holding (familyOf p db₀) db₀).sessions := h ▸ hs
    obtain ⟨hmem, hown⟩ := List.mem_filter.mp hs₀
    rw [Family.ofSession, decide_eq_true_eq] at hown
    simpa using hids s.childId (he.sessionChild s hmem hown)
  · refine ownRows_erase fun b hb => ?_
    have hown := (List.mem_filter.mp hb).2
    rw [Family.ofCategoryBlock, decide_eq_true_eq] at hown
    simpa using hids b.childId hown

theorem untouched_cascadeDevices {ids : List String}
    (hids : ∀ d ∈ (familyOf p db₀).devices, d ∉ ids)
    (h : holding (familyOf p db₀) db = holding (familyOf p db₀) db₀) :
    holding (familyOf p db₀) (Model.cascadeDevices ids db) = holding (familyOf p db₀) db₀ := by
  rw [← h]
  refine Holding.ext rfl rfl rfl rfl rfl ?_ ?_ ?_ rfl rfl rfl rfl ?_ ?_ ?_ rfl rfl rfl rfl
    rfl rfl rfl
    rfl
  · refine ownRows_erase fun s hs => ?_
    have hown := (List.mem_filter.mp hs).2
    rw [Family.ofPairingSession, decide_eq_true_eq] at hown
    simpa using hids s.deviceId hown
  · refine ownRows_erase fun s hs => ?_
    have hown := (List.mem_filter.mp hs).2
    rw [Family.ofIpHistory, decide_eq_true_eq] at hown
    simpa using hids s.deviceId hown
  · refine ownRows_erase fun s hs => ?_
    have hown := (List.mem_filter.mp hs).2
    rw [Family.ofConnectionEvent, decide_eq_true_eq] at hown
    simpa using hids s.deviceId hown
  · refine ownRows_erase fun s hs => ?_
    have hs₀ : s ∈ (holding (familyOf p db₀) db₀).sessions := h ▸ hs
    obtain ⟨hmem, hown⟩ := List.mem_filter.mp hs₀
    rw [Family.ofSession, decide_eq_true_eq] at hown
    simpa using hids s.deviceId (he.sessionDevice s hmem hown)
  · refine ownRows_erase fun c hc => ?_
    have hown := (List.mem_filter.mp hc).2
    rw [Family.ofCommand, decide_eq_true_eq] at hown
    simpa using hids c.deviceId hown
  · -- an acknowledged command of the family is no command of a deleted device
    refine ownRows_erase fun a ha => ?_
    have hown := (List.mem_filter.mp ha).2
    rw [Family.ofCommandAck, decide_eq_true_eq] at hown
    obtain ⟨c, hc, hid⟩ := List.mem_map.mp hown
    have hc' : c ∈ (holding (familyOf p db₀) db).commands := h ▸ hc
    obtain ⟨hmem, hdev⟩ := List.mem_filter.mp hc'
    rw [Family.ofCommand, decide_eq_true_eq] at hdev
    simp only [decide_eq_false_iff_not, List.mem_map, List.mem_filter, decide_eq_true_eq,
      not_exists]
    rintro c' ⟨⟨hmem', hdev'⟩, hid'⟩
    rw [Table.eq_of_key hmem' hmem (hid'.trans hid.symm)] at hdev'
    exact hids c.deviceId hdev hdev'

theorem untouched_cascadeGateways {ids : List String}
    (hids : ∀ k ∈ (familyOf p db₀).gateways, k ∉ ids)
    (h : holding (familyOf p db₀) db = holding (familyOf p db₀) db₀) :
    holding (familyOf p db₀) (Model.cascadeGateways ids db) = holding (familyOf p db₀) db₀ := by
  rw [← h]
  refine Holding.ext rfl rfl rfl rfl ?_ rfl rfl rfl rfl rfl rfl rfl rfl rfl rfl rfl rfl rfl
    rfl rfl rfl
    rfl rfl
  refine ownRows_modify (by intro; rfl) (fun d hd => ?_) fun d hd => ?_
  · have hd₀ : d ∈ (holding (familyOf p db₀) db₀).devices := h ▸ hd
    obtain ⟨hmem, hp⟩ := he.parentId hd₀
    rcases hk : d.gatewayId with _ | k
    · rfl
    · simpa using hids k ((he.deviceGateway d hmem k hk).mp hp)
  · rw [Family.ofDevice, Bool.or_eq_false_iff, Bool.or_eq_false_iff] at hd ⊢
    exact ⟨hd.1, hd.2.1, rfl⟩

/-- Another account goes with all it has. -/
theorem untouched_cascadeUser {q : String} (hq : q ≠ p)
    (h : holding (familyOf p db₀) db = holding (familyOf p db₀) db₀) :
    holding (familyOf p db₀) (Model.cascadeUser q db) = holding (familyOf p db₀) db₀ := by
  have hne : ∀ {x : String}, decide (x = p) = true → decide (x = q) = false := by
    intro x hx
    rw [of_decide_eq_true hx]
    exact decide_eq_false hq.symm
  have hchildren : ∀ c ∈ (familyOf p db₀).children,
      c ∉ (db.children.rows.filter fun r => r.parentId = q).map Child.id := by
    intro c hc hc'
    obtain ⟨r, hr, rfl⟩ := List.mem_map.mp hc
    obtain ⟨r', hr', hid⟩ := List.mem_map.mp hc'
    have hown : r ∈ (holding (familyOf p db₀) db).children := h ▸ hr
    obtain ⟨hmem, hp⟩ := List.mem_filter.mp hown
    obtain ⟨hmem', hq'⟩ := List.mem_filter.mp hr'
    rw [Table.eq_of_key hmem' hmem hid, hne hp] at hq'
    cases hq'
  have hgateways : ∀ k ∈ (familyOf p db₀).gateways,
      k ∉ (db.gateways.rows.filter fun r => r.parentId = q).map Gateway.id := by
    intro k hk hk'
    obtain ⟨r, hr, rfl⟩ := List.mem_map.mp hk
    obtain ⟨r', hr', hid⟩ := List.mem_map.mp hk'
    have hown : r ∈ (holding (familyOf p db₀) db).gateways := h ▸ hr
    obtain ⟨hmem, hp⟩ := List.mem_filter.mp hown
    obtain ⟨hmem', hq'⟩ := List.mem_filter.mp hr'
    rw [Table.eq_of_key hmem' hmem hid, hne hp] at hq'
    cases hq'
  have hdevices : ∀ d ∈ (familyOf p db₀).devices,
      d ∉ (db.devices.rows.filter fun r => r.parentId = q).map Device.id := by
    intro d hd hd'
    obtain ⟨r, hr, rfl⟩ := List.mem_map.mp (he.mem_devices.mp hd)
    obtain ⟨r', hr', hid⟩ := List.mem_map.mp hd'
    have hown : r ∈ (holding (familyOf p db₀) db).devices := h ▸ hr
    obtain ⟨hmem, -⟩ := List.mem_filter.mp hown
    obtain ⟨hmem', hq'⟩ := List.mem_filter.mp hr'
    rw [Table.eq_of_key hmem' hmem hid, (he.parentId hr).2] at hq'
    rw [hne (decide_eq_true rfl)] at hq'
    cases hq'
  refine untouched_cascadeGateways he hgateways (untouched_cascadeDevices he hdevices
    (untouched_cascadeChildren he hchildren ?_))
  rw [← h]
  refine Holding.ext rfl ?_ ?_ ?_ ?_ rfl rfl rfl rfl rfl rfl rfl ?_ rfl rfl ?_ rfl rfl ?_ ?_
    ?_ ?_ rfl
  · exact ownRows_erase fun r hr => hne (List.mem_filter.mp hr).2
  · exact ownRows_erase fun r hr => hne (List.mem_filter.mp hr).2
  · exact ownRows_erase fun r hr => hne (List.mem_filter.mp hr).2
  · refine ownRows_erase fun d hd => ?_
    have hd₀ : d ∈ (holding (familyOf p db₀) db₀).devices := h ▸ hd
    exact hne (decide_eq_true (he.parentId hd₀).2)
  · exact ownRows_erase fun r hr => hne (List.mem_filter.mp hr).2
  · exact ownRows_erase fun r hr => hne (List.mem_filter.mp hr).2
  · exact ownRows_erase fun r hr => hne (List.mem_filter.mp hr).2
  · exact ownRows_erase fun r hr => hne (List.mem_filter.mp hr).2
  · refine ownRows_modify (by intro; rfl) (fun a ha => ?_) fun a ha => ?_
    · have hown := (List.mem_filter.mp ha).2
      rw [Family.ofAuditLog, decide_eq_true_eq] at hown
      rw [hown, decide_eq_false_iff_not]
      exact fun hpq => hq (Option.some.inj hpq).symm
    · rfl
  · exact reports_modify (by intro; rfl) fun _ => rfl

end Enclosed

end GuardTime.Tenants.Writes
