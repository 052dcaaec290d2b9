import Mathlib.Tactic
import GuardTime.Household
import GuardTime.Dns.Engine

/-! # Families and the DNS engine

The engine finds the device of an address among the devices of all parents. What it answers for an
address of parent `p` is a function of `p`'s rows exactly when every holder of the address is `p`'s
(`isolation_iff`); else another family's rows decide.

* `SameOwn`: two databases with the same rows of one parent;
* `Answers`: what a cache-miss `checkPolicy` may answer, by the device it finds. -/

namespace GuardTime.Dns.Isolation

open GuardTime.Lib.Program GuardTime.Lib.Keyed GuardTime.Lib.Js GuardTime.Schema GuardTime.Server
open GuardTime.Prisma GuardTime.Services GuardTime.Services.DnsPolicy GuardTime.Dns.Engine

/-! ### The rows of a parent -/

section Own
variable (p : String) (db : Database)

/-- The child is the parent's. -/
def OwnChild (id : String) : Prop := ∃ c ∈ db.children.rows, c.id = id ∧ c.parentId = p

/-- The device is the parent's. -/
def OwnDevice (id : String) : Prop := ∃ d ∈ db.devices.rows, d.id = id ∧ d.parentId = p

/-- The gateway is the parent's. -/
def OwnGateway (id : String) : Prop := ∃ g ∈ db.gateways.rows, g.id = id ∧ g.parentId = p

end Own

/-- The tables have the same owned rows. -/
def Agree {ρ : Type} {key : ρ → String} (get : Database → Table key) (own : Database → ρ → Prop)
    (db db' : Database) : Prop :=
  ∀ r, (r ∈ (get db).rows ∧ own db r) ↔ (r ∈ (get db').rows ∧ own db' r)

/-- The two databases have the same rows of the parent: its own, and those of its children, devices
and gateways. -/
structure SameOwn (p : String) (db db' : Database) : Prop where
  users : Agree Database.users (fun _ r => r.id = p) db db'
  subscriptions : Agree Database.subscriptions (fun _ r => r.userId = p) db db'
  pushTokens : Agree Database.pushTokens (fun _ r => r.userId = p) db db'
  oAuthAccounts : Agree Database.oAuthAccounts (fun _ r => r.userId = p) db db'
  notificationEvents : Agree Database.notificationEvents (fun _ r => r.userId = p) db db'
  auditLogs : Agree Database.auditLogs (fun _ r => r.userId = some p) db db'
  children : Agree Database.children (fun _ r => r.parentId = p) db db'
  devices : Agree Database.devices (fun _ r => r.parentId = p) db db'
  gateways : Agree Database.gateways (fun _ r => r.parentId = p) db db'
  bandwidthLimits : Agree Database.bandwidthLimits (fun _ r => r.parentId = p) db db'
  rules : Agree Database.rules (fun db r => OwnChild p db r.childId) db db'
  categoryBlocks : Agree Database.categoryBlocks (fun db r => OwnChild p db r.childId) db db'
  sessions : Agree Database.sessions
    (fun db r => r.parentId = p ∨ OwnDevice p db r.deviceId ∨ OwnChild p db r.childId) db db'
  pairingSessions : Agree Database.pairingSessions
    (fun db r => r.parentId = p ∨ OwnDevice p db r.deviceId) db db'
  deviceIpHistory : Agree Database.deviceIpHistory (fun db r => OwnDevice p db r.deviceId) db db'
  deviceConnectionEvents : Agree Database.deviceConnectionEvents
    (fun db r => OwnDevice p db r.deviceId) db db'
  unknownDomainLogs : Agree Database.unknownDomainLogs
    (fun db r => ∃ d ∈ r.deviceId, OwnDevice p db d) db db'
  commands : Agree Database.commands (fun db r => OwnDevice p db r.deviceId) db db'
  vpnDetectionLogs : Agree Database.vpnDetectionLogs
    (fun db r => OwnGateway p db r.gatewayId) db db'
  detectedRouters : Agree Database.detectedRouters (fun db r => OwnGateway p db r.gatewayId) db db'
  routerCommands : Agree Database.routerCommands (fun db r => OwnGateway p db r.gatewayId) db db'

/-- The same devices hold the address. -/
def SameHolders (ip : String) (db db' : Database) : Prop :=
  ∀ id, (∃ d ∈ db.devices.rows, d.id = id ∧ holds ip d = true) ↔
    (∃ d ∈ db'.devices.rows, d.id = id ∧ holds ip d = true)

/-- `@@unique([childId, category])`. -/
def CategoryUnique (db : Database) : Prop :=
  ∀ b ∈ db.categoryBlocks.rows, ∀ b' ∈ db.categoryBlocks.rows, b.childId = b'.childId →
    b.category = b'.category → b = b'

/-! ### What the engine may answer -/

/-- A cache-miss `checkPolicy` in the database may find the device `found` and answer `r`. -/
def Answers (env : Env) (db : Database) (now : Time) (ip domain : String) (found : Option String)
    (r : DnsPolicyResponse) : Prop :=
  ∃ w : World, w.db = db ∧ w.now = now ∧ cachedFor w ip domain = none ∧
    (lookup w.db (upcoming w 0) ip).map Device.id = found ∧
    ((checkPolicy env ip domain).run w).1 = .ok r

/-- A world in which the three queries of the engine are ordered by `n₀`, `n₁`, `n₂`. -/
def worldWith (db : Database) (now : Time) (n₀ n₁ n₂ : ℕ) : World :=
  { World.fresh db now with tape := fun i => if i = 0 then n₀ else if i = 1 then n₁ else n₂ }

theorem answers_iff {env : Env} {db : Database} {now : Time} {ip domain : String}
    {found : Option String} {r : DnsPolicyResponse} :
    Answers env db now ip domain found r ↔ ∃ n₀ n₁ n₂, (lookup db n₀ ip).map Device.id = found ∧
      r = match lookup db n₀ ip with
        | none => allowResponse
        | some d => deviceVerdict env db now n₁ n₂ domain d := by
  constructor
  · rintro ⟨w, rfl, rfl, hmiss, hfound, hr⟩
    rw [checkPolicy_of_miss hmiss] at hr
    exact ⟨_, _, _, hfound, (Except.ok.inj hr).symm⟩
  · rintro ⟨n₀, n₁, n₂, hfound, rfl⟩
    exact ⟨worldWith db now n₀ n₁ n₂, rfl, rfl, rfl, hfound, checkPolicy_of_miss rfl env⟩

/-! ### The same rows, the same answers -/

theorem currentSession_congr {db db' : Database} {id : String}
    (h : ∀ s, isCurrent id s = true → (s ∈ db.sessions.rows ↔ s ∈ db'.sessions.rows)) (n : ℕ) :
    ∃ n', currentSession db' n' id = currentSession db n id := by
  have hmem : ∀ s, s ∈ db.sessions.rows.filter (isCurrent id) ↔
      s ∈ db'.sessions.rows.filter (isCurrent id) := fun s => by
    simp only [List.mem_filter]
    exact and_congr_left fun hs => h s hs
  obtain ⟨n', hn'⟩ := exists_arrange_eq (db.sessions.nodup_rows.filter _)
    (db'.sessions.nodup_rows.filter _) hmem n
  refine ⟨n', ?_⟩
  simp only [currentSession, matching, Model.session, hn']

theorem any_active_iff {db : Database} (hu : CategoryUnique db) (c : String) (k : BlockCategory) :
    (db.categoryBlocks.rows.find? fun r => r.childId = c && r.category = k).any
      CategoryBlock.active = true ↔
    ∃ b ∈ db.categoryBlocks.rows, b.childId = c ∧ b.category = k ∧ b.active = true := by
  rcases hf : db.categoryBlocks.rows.find? fun r => r.childId = c && r.category = k with _ | b
  · have hnone := List.find?_eq_none.mp hf
    rw [hf]
    simp only [Option.any_none, Bool.false_eq_true, false_iff]
    rintro ⟨b, hb, rfl, rfl, -⟩
    exact hnone b hb (by simp)
  · have hb := List.mem_of_find?_eq_some hf
    have hq : b.childId = c ∧ b.category = k := by simpa using List.find?_some hf
    rw [hf, Option.any_some]
    constructor
    · exact fun ha => ⟨b, hb, hq.1, hq.2, ha⟩
    · rintro ⟨b', hb', hc', hk', ha⟩
      rwa [hu b hb b' hb' (hq.1.trans hc'.symm) (hq.2.trans hk'.symm)]

theorem childBlocks_congr {db db' : Database} (hu : CategoryUnique db) (hu' : CategoryUnique db')
    {d : Device} (h : ∀ c ∈ truthy d.childId, ∀ b : CategoryBlock, b.childId = c →
      (b ∈ db.categoryBlocks.rows ↔ b ∈ db'.categoryBlocks.rows)) (b : BlockedDomain) :
    childBlocks db d b = childBlocks db' d b := by
  unfold childBlocks
  rcases b.category with _ | k <;> rcases hc : d.childId.filter (· ≠ "") with _ | c
  · rfl
  · rfl
  · rfl
  · rw [Bool.eq_iff_iff, any_active_iff hu, any_active_iff hu']
    constructor
    · rintro ⟨b, hb, hbc, hbk, ha⟩
      exact ⟨b, (h c hc b hbc).mp hb, hbc, hbk, ha⟩
    · rintro ⟨b, hb, hbc, hbk, ha⟩
      exact ⟨b, (h c hc b hbc).mpr hb, hbc, hbk, ha⟩

/-- A device's sessions, its child's blocks and the blocked domains determine its verdict. -/
theorem deviceVerdict_congr {db db' : Database} {d : Device}
    (hs : ∀ s, isCurrent d.id s = true → (s ∈ db.sessions.rows ↔ s ∈ db'.sessions.rows))
    (hb : db.blockedDomains = db'.blockedDomains)
    (hc : d.internetLocked = false → d.status ≠ .blocked →
      ∀ b, childBlocks db d b = childBlocks db' d b)
    (env : Env) (now : Time) (n₁ n₂ : ℕ) (domain : String) :
    ∃ n, deviceVerdict env db' now n n₂ domain d = deviceVerdict env db now n₁ n₂ domain d := by
  obtain ⟨n, hn⟩ := currentSession_congr hs n₁
  refine ⟨n, ?_⟩
  have hdom : blockedDomain env db' n₂ domain = blockedDomain env db n₂ domain := by
    simp only [blockedDomain, matching, Model.blockedDomain, hb]
  unfold deviceVerdict domainVerdict
  rw [hn, hdom]
  by_cases hl : d.internetLocked = true
  · simp only [hl, if_true]
  by_cases hst : d.status = .blocked
  · simp only [hst, if_true]
  simp only [hc (by simpa using hl) hst]

/-- Every holder of the address is the parent's, and so is its child where the child matters. -/
def OwnHolders (p ip : String) (db : Database) : Prop :=
  ∀ d ∈ db.devices.rows, holds ip d = true → d.parentId = p ∧
    (d.internetLocked = false → d.status ≠ .blocked → ∀ c ∈ truthy d.childId, OwnChild p db c)

/-- `db'` has the same rows of the parent as `db`, and the same devices hold the address. -/
structure Variant (p ip : String) (db db' : Database) : Prop where
  own : SameOwn p db db'
  holders : SameHolders ip db db'
  unique : CategoryUnique db'

section Variant
variable {p ip : String} {db db₁ db₂ : Database}

/-- A holder in a variant is a holder in the original. -/
theorem Variant.holder_mem (h : OwnHolders p ip db) (h₁ : Variant p ip db db₁) {d : Device}
    (hd : d ∈ db₁.devices.rows) (hip : holds ip d = true) : d ∈ db.devices.rows := by
  obtain ⟨d₀, hd₀, hid, hip₀⟩ := (h₁.holders d.id).mpr ⟨d, hd, rfl, hip⟩
  have hd₁ := ((h₁.own.devices d₀).mp ⟨hd₀, (h d₀ hd₀ hip₀).1⟩).1
  rwa [Table.eq_of_key hd hd₁ hid.symm]

theorem Variant.sessions (h₁ : Variant p ip db db₁) {d : Device} (hd : d ∈ db.devices.rows)
    (hp : d.parentId = p) {s : Session} (hs : isCurrent d.id s = true) :
    s ∈ db.sessions.rows ↔ s ∈ db₁.sessions.rows := by
  have hdev : s.deviceId = d.id := by
    have := hs
    simp only [isCurrent, Bool.and_eq_true, decide_eq_true_eq] at this
    exact this.1
  have hd₁ := ((h₁.own.devices d).mp ⟨hd, hp⟩).1
  have own : OwnDevice p db s.deviceId := ⟨d, hd, hdev.symm, hp⟩
  have own₁ : OwnDevice p db₁ s.deviceId := ⟨d, hd₁, hdev.symm, hp⟩
  have := h₁.own.sessions s
  simp only [own, own₁, true_or, or_true, and_true] at this
  exact this

theorem Variant.blocks (h₁ : Variant p ip db db₁) {c : String} (hc : OwnChild p db c)
    {b : CategoryBlock} (hb : b.childId = c) :
    b ∈ db.categoryBlocks.rows ↔ b ∈ db₁.categoryBlocks.rows := by
  obtain ⟨ch, hch, hid, hp⟩ := hc
  have hch₁ := ((h₁.own.children ch).mp ⟨hch, hp⟩).1
  have own : OwnChild p db b.childId := ⟨ch, hch, hid.trans hb.symm, hp⟩
  have own₁ : OwnChild p db₁ b.childId := ⟨ch, hch₁, hid.trans hb.symm, hp⟩
  have := h₁.own.categoryBlocks b
  simp only [own, own₁, and_true] at this
  exact this

theorem Variant.answers (h : OwnHolders p ip db) (h₁ : Variant p ip db db₁)
    (h₂ : Variant p ip db db₂) (hdom : db₁.blockedDomains = db₂.blockedDomains) {env : Env}
    {now : Time} {domain : String} {found : Option String} {r : DnsPolicyResponse}
    (hr : Answers env db₁ now ip domain found r) : Answers env db₂ now ip domain found r := by
  obtain ⟨n₀, n₁, n₂, hfound, rfl⟩ := answers_iff.mp hr
  rw [answers_iff]
  rcases hl : lookup db₁ n₀ ip with _ | d
  · -- nobody holds the address, in either database
    have hnone : lookup db₂ 0 ip = none := by
      refine lookup_eq_none.mpr fun d hd => ?_
      by_contra hip
      obtain ⟨d₁, hd₁, -, hip₁⟩ := (h₁.holders d.id).mp
        ((h₂.holders d.id).mpr ⟨d, hd, rfl, by simpa using hip⟩)
      simp [lookup_eq_none.mp hl d₁ hd₁] at hip₁
    rw [hl] at hfound
    exact ⟨0, n₁, n₂, by rw [hnone]; exact hfound, by rw [hnone]⟩
  · obtain ⟨hd₁, hip⟩ := lookup_eq_some hl
    have hd := h₁.holder_mem h hd₁ hip
    obtain ⟨hp, hchild⟩ := h d hd hip
    have hd₂ := ((h₂.own.devices d).mp ⟨hd, hp⟩).1
    obtain ⟨m₀, hm₀⟩ := exists_lookup hd₂ hip
    obtain ⟨m₁, hm₁⟩ := deviceVerdict_congr
      (fun s hs => (h₁.sessions hd hp hs).symm.trans (h₂.sessions hd hp hs)) hdom
      (fun hlock hst => childBlocks_congr h₁.unique h₂.unique fun c hc b hb =>
        (h₁.blocks (hchild hlock hst c hc) hb).symm.trans (h₂.blocks (hchild hlock hst c hc) hb))
      env now n₁ n₂ domain
    rw [hl] at hfound
    exact ⟨m₀, m₁, n₂, by rw [hm₀]; exact hfound, by rw [hm₀]; exact hm₁.symm⟩

end Variant

/-! ### Rows of others that decide -/

section Others
variable {p ip : String} {db : Database}

theorem sameOwn_of {devs : Table Device.id} {blocks : Table CategoryBlock.id}
    {domains : Table BlockedDomain.id}
    (hd : ∀ d, (d ∈ db.devices.rows ∧ d.parentId = p) ↔ (d ∈ devs.rows ∧ d.parentId = p))
    (hb : ∀ b, OwnChild p db b.childId →
      (b ∈ db.categoryBlocks.rows ↔ b ∈ blocks.rows)) :
    SameOwn p db
      { db with devices := devs, categoryBlocks := blocks, blockedDomains := domains } := by
  have own : ∀ id, OwnDevice p db id ↔ OwnDevice p
      { db with devices := devs, categoryBlocks := blocks, blockedDomains := domains } id := by
    intro id
    constructor
    · rintro ⟨d, hd', hid, hp⟩
      exact ⟨d, ((hd d).mp ⟨hd', hp⟩).1, hid, hp⟩
    · rintro ⟨d, hd', hid, hp⟩
      exact ⟨d, ((hd d).mpr ⟨hd', hp⟩).1, hid, hp⟩
  refine ⟨fun _ => .rfl, fun _ => .rfl, fun _ => .rfl, fun _ => .rfl, fun _ => .rfl, fun _ => .rfl,
    fun _ => .rfl, hd, fun _ => .rfl, fun _ => .rfl, fun _ => .rfl, ?_, ?_, ?_, ?_, ?_, ?_, ?_,
    fun _ => .rfl, fun _ => .rfl, fun _ => .rfl⟩
  · exact fun b => and_congr_left fun ho => hb b ho
  · exact fun s => and_congr_right fun _ => or_congr_right (or_congr_left (own _))
  · exact fun s => and_congr_right fun _ => or_congr_right (own _)
  · exact fun s => and_congr_right fun _ => own _
  · exact fun s => and_congr_right fun _ => own _
  · exact fun s => and_congr_right fun _ => exists_congr fun d => and_congr_right fun _ => own d
  · exact fun s => and_congr_right fun _ => own _

/-- The device with its lock set. -/
def setLock (locked : Bool) (d : Device) : Device := { d with internetLocked := locked }

theorem setLock_id (locked : Bool) (d : Device) : (setLock locked d).id = d.id := rfl

/-- The database with one device locked or unlocked. -/
def withLock (db : Database) (id : String) (locked : Bool) : Database :=
  { db with devices := db.devices.modify (fun d => d.id = id) (setLock locked) (setLock_id locked) }

theorem mem_withLock {id : String} {locked : Bool} {d : Device} :
    d ∈ (withLock db id locked).devices.rows ↔
      ∃ d₀ ∈ db.devices.rows, d = if d₀.id = id then setLock locked d₀ else d₀ := by
  simp [withLock, Table.mem_modify]

theorem variant_withLock (hu : CategoryUnique db) {d : Device} (hd : d ∈ db.devices.rows)
    (hp : d.parentId ≠ p) (locked : Bool) : Variant p ip db (withLock db d.id locked) := by
  refine ⟨sameOwn_of (fun x => ?_) fun _ _ => .rfl, fun id => ?_, hu⟩
  · constructor
    · rintro ⟨hx, hxp⟩
      refine ⟨mem_withLock.mpr ⟨x, hx, ?_⟩, hxp⟩
      rw [if_neg fun h => hp (Table.eq_of_key hx hd h ▸ hxp)]
    · rintro ⟨hx, hxp⟩
      obtain ⟨x₀, hx₀, rfl⟩ := mem_withLock.mp hx
      split_ifs at hxp ⊢ with h
      · exact absurd (Table.eq_of_key hx₀ hd h ▸ hxp) hp
      · exact ⟨hx₀, hxp⟩
  · constructor
    · rintro ⟨x, hx, hid, hip⟩
      refine ⟨_, mem_withLock.mpr ⟨x, hx, rfl⟩, ?_, ?_⟩ <;> split_ifs <;> assumption
    · rintro ⟨x, hx, hid, hip⟩
      obtain ⟨x₀, hx₀, rfl⟩ := mem_withLock.mp hx
      refine ⟨x₀, hx₀, ?_, ?_⟩ <;> split_ifs at hid hip <;> assumption

theorem reason_of_unlocked {env : Env} {now : Time} {n₁ n₂ : ℕ} {domain : String} {d : Device}
    (h : d.internetLocked = false) :
    (deviceVerdict env db now n₁ n₂ domain d).reason ≠ some .fullInternetLock := by
  unfold deviceVerdict domainVerdict
  simp only [h, Bool.false_eq_true, if_false]
  split_ifs <;> try split
  all_goals (try split_ifs) <;> simp [blockResponse, allowResponse]

/-- The database in which the only blocked domain is a game, and the child has exactly the blocks
in `blocks`. -/
def withGame (db : Database) (blocks : Table CategoryBlock.id) : Database :=
  { db with
    categoryBlocks := blocks
    blockedDomains := ⟨[⟨"game", "games.example", some .gaming, false, 0⟩], by decide⟩ }

/-- The category blocks of everyone but the child. -/
def without (db : Database) (c : String) : Table CategoryBlock.id :=
  db.categoryBlocks.erase fun b => b.childId = c

theorem variant_withGame {c : String} (hc : ¬ OwnChild p db c) {blocks : Table CategoryBlock.id}
    (hu : ∀ b ∈ blocks.rows, ∀ b' ∈ blocks.rows, b.childId = b'.childId →
      b.category = b'.category → b = b')
    (hb : ∀ b, b.childId ≠ c → (b ∈ db.categoryBlocks.rows ↔ b ∈ blocks.rows)) :
    Variant p ip db (withGame db blocks) :=
  ⟨sameOwn_of (fun _ => .rfl) fun b hown => hb b fun h => hc (h ▸ hown), fun _ => .rfl, hu⟩

theorem exists_unexpired (s : Option Session) : ∃ now, s.any (exhausted now) = false := by
  rcases s with _ | s
  · exact ⟨0, rfl⟩
  · refine ⟨s.resumedAt.getD s.startedAt + s.durationMinutes * 60000 - 1, ?_⟩
    simp only [Option.any_some, exhausted, decide_eq_false_iff_not, not_le]
    ring_nf
    norm_num

theorem blockedDomain_withGame (blocks : Table CategoryBlock.id) (n : ℕ) :
    blockedDomain .plain (withGame db blocks) n "games.example" =
      some ⟨"game", "games.example", some .gaming, false, 0⟩ := by
  have hin : "games.example" ∈ candidates (normalize .plain "games.example") := by decide
  simp [blockedDomain, matching, Model.blockedDomain, withGame, hin]

/-- Whether the game is blocked for its category depends on the child's blocks alone. -/
theorem categoryReason_iff {d : Device} {c : String} (hc : c ∈ truthy d.childId)
    (hlock : d.internetLocked = false) (hst : d.status ≠ .blocked) {blocks : Table CategoryBlock.id}
    {now : Time} {n₁ n₂ : ℕ} :
    (deviceVerdict .plain (withGame db blocks) now n₁ n₂ "games.example" d).reason =
        some .categoryBlocked ↔
      (currentSession db n₁ d.id).any (exhausted now) = false ∧
        (blocks.rows.find? fun r => r.childId = c && r.category = .gaming).any
          CategoryBlock.active = true := by
  have hfilter : d.childId.filter (· ≠ "") = some c := hc
  unfold deviceVerdict domainVerdict
  rw [blockedDomain_withGame]
  simp only [Env.plain, Bool.false_and, Bool.false_eq_true, if_false, hlock, hst, childBlocks,
    hfilter]
  change (if (currentSession db n₁ d.id).any (exhausted now) = true then _ else if
    (blocks.rows.find? fun r => r.childId = c && r.category = .gaming).any
      CategoryBlock.active = true then _ else _ : DnsPolicyResponse).reason = _ ↔ _
  by_cases h1 : (currentSession db n₁ d.id).any (exhausted now) = true
  · simp [h1, blockResponse]
  · rw [if_neg h1]
    split_ifs with h2 <;> simp [h1, h2, blockResponse]

/-- The possible answers for a device that holds the address, by their reason. -/
theorem answers_of_holder {env : Env} {now : Time} {domain : String} {d : Device}
    (hd : d ∈ db.devices.rows) (hip : holds ip d = true) (n₁ n₂ : ℕ) :
    Answers env db now ip domain (some d.id) (deviceVerdict env db now n₁ n₂ domain d) := by
  obtain ⟨n₀, hn₀⟩ := exists_lookup hd hip
  exact answers_iff.mpr ⟨n₀, n₁, n₂, by rw [hn₀]; rfl, by rw [hn₀]⟩

theorem verdict_of_answers {env : Env} {now : Time} {domain : String} {d : Device}
    (hd : d ∈ db.devices.rows) {r : DnsPolicyResponse}
    (h : Answers env db now ip domain (some d.id) r) :
    ∃ n₁ n₂, r = deviceVerdict env db now n₁ n₂ domain d := by
  obtain ⟨n₀, n₁, n₂, hfound, rfl⟩ := answers_iff.mp h
  rcases hl : lookup db n₀ ip with _ | d'
  · simp [hl] at hfound
  · rw [hl] at hfound
    obtain rfl : d' = d := Table.eq_of_key (lookup_eq_some hl).1 hd (Option.some.inj hfound)
    exact ⟨n₁, n₂, rfl⟩

end Others

/-- The answers for the address are the same in any two databases that have `db`'s rows of the
parent, `db`'s holders of the address, and the same blocked domains. -/
def Isolated (p ip : String) (db : Database) : Prop :=
  ∀ db₁ db₂, Variant p ip db db₁ → Variant p ip db db₂ → db₁.blockedDomains = db₂.blockedDomains →
    ∀ env now domain found r,
      Answers env db₁ now ip domain found r ↔ Answers env db₂ now ip domain found r

/-- A foreign holder decides by its lock. -/
theorem parent_of_isolated {p ip : String} {db : Database} (hu : CategoryUnique db)
    (h : Isolated p ip db) {d : Device} (hd : d ∈ db.devices.rows) (hip : holds ip d = true) :
    d.parentId = p := by
  by_contra hp
  have hmem : ∀ locked, setLock locked d ∈ (withLock db d.id locked).devices.rows := fun locked =>
    mem_withLock.mpr ⟨d, hd, by rw [if_pos rfl]⟩
  have hlocked : Answers .plain (withLock db d.id true) 0 ip "" (some d.id)
      (blockResponse .fullInternetLock (some none)) := answers_of_holder (hmem true) hip 0 0
  have hopen := (h _ _ (variant_withLock hu hd hp true) (variant_withLock hu hd hp false) rfl
    .plain 0 "" (some d.id) _).mp hlocked
  obtain ⟨n₁, n₂, hr⟩ := verdict_of_answers (hmem false) hopen
  exact reason_of_unlocked (d := setLock false d) rfl (congrArg DnsPolicyResponse.reason hr.symm)

/-- A foreign child decides by its category blocks. -/
theorem child_of_isolated {p ip : String} {db : Database} (hu : CategoryUnique db)
    (h : Isolated p ip db) {d : Device} (hd : d ∈ db.devices.rows) (hip : holds ip d = true)
    (hlock : d.internetLocked = false) (hst : d.status ≠ .blocked) {c : String}
    (hc : c ∈ truthy d.childId) : OwnChild p db c := by
  by_contra hown
  have hrest : ∀ b, b ∈ (without db c).rows ↔ b ∈ db.categoryBlocks.rows ∧ b.childId ≠ c :=
      fun b => by
    simp [without, Table.mem_erase]
  obtain ⟨fresh, hfresh⟩ := Infinite.exists_notMem_finset
    ((without db c).rows.map CategoryBlock.id).toFinset
  let game : CategoryBlock := ⟨fresh, c, .gaming, none, true, 0, 0⟩
  obtain ⟨blocks, hblocks⟩ : ∃ t, (without db c).insert game = some t := by
    rw [← Option.ne_none_iff_exists']
    intro hnone
    obtain ⟨b, hb, hid⟩ := Table.insert_eq_none.mp hnone
    exact hfresh (List.mem_toFinset.mpr (List.mem_map.mpr ⟨b, hb, hid⟩))
  have hrows := (Table.insert_eq_some hblocks).2
  have hunique : ∀ b ∈ (without db c).rows, ∀ b' ∈ (without db c).rows, b.childId = b'.childId →
      b.category = b'.category → b = b' := fun b hb b' hb' =>
    hu b ((hrest b).mp hb).1 b' ((hrest b').mp hb').1
  have h₁ : Variant p ip db (withGame db blocks) := by
    refine variant_withGame hown (fun b hb b' hb' hcc hkk => ?_) fun b hb => ?_
    · rw [hrows, List.mem_append, List.mem_singleton] at hb hb'
      rcases hb with hb | rfl <;> rcases hb' with hb' | rfl
      · exact hunique b hb b' hb' hcc hkk
      · exact absurd hcc ((hrest b).mp hb).2
      · exact absurd hcc.symm ((hrest b').mp hb').2
      · rfl
    · rw [hrows, List.mem_append, List.mem_singleton, hrest]
      exact ⟨fun h => .inl ⟨h, hb⟩, fun h => h.elim And.left fun h => absurd (h ▸ rfl) hb⟩
  have h₂ : Variant p ip db (withGame db (without db c)) :=
    variant_withGame hown hunique fun b hb => by rw [hrest]; exact ⟨fun h => ⟨h, hb⟩, And.left⟩
  obtain ⟨now, hnow⟩ := exists_unexpired (currentSession db 0 d.id)
  have hfind : (blocks.rows.find? fun r => r.childId = c && r.category = .gaming).any
      CategoryBlock.active = true := by
    have hnone : (without db c).rows.find?
      (fun r => r.childId = c && r.category = .gaming) = none :=
      List.find?_eq_none.mpr fun b hb => by simp [((hrest b).mp hb).2]
    rw [hrows, List.find?_append, hnone]
    simp [game]
  have hans : Answers .plain (withGame db blocks) now ip "games.example" (some d.id) _ :=
    @answers_of_holder ip (withGame db blocks) .plain now "games.example" d hd hip 0 0
  have hans' := (h _ _ h₁ h₂ rfl .plain now "games.example" (some d.id) _).mp hans
  obtain ⟨n₁, n₂, hr⟩ :=
    @verdict_of_answers ip (withGame db (without db c)) .plain now "games.example" d hd _ hans'
  have hcat : (deviceVerdict .plain (withGame db blocks) now 0 0 "games.example" d).reason =
      some .categoryBlocked := (categoryReason_iff hc hlock hst).mpr ⟨hnow, hfind⟩
  rw [hr] at hcat
  have habs := ((categoryReason_iff hc hlock hst).mp hcat).2
  rw [List.find?_eq_none.mpr fun b hb => by simp [((hrest b).mp hb).2]] at habs
  simp at habs

theorem SameOwn.refl (p : String) (db : Database) : SameOwn p db db where
  users _ := .rfl
  subscriptions _ := .rfl
  pushTokens _ := .rfl
  oAuthAccounts _ := .rfl
  notificationEvents _ := .rfl
  auditLogs _ := .rfl
  children _ := .rfl
  devices _ := .rfl
  gateways _ := .rfl
  bandwidthLimits _ := .rfl
  rules _ := .rfl
  categoryBlocks _ := .rfl
  sessions _ := .rfl
  pairingSessions _ := .rfl
  deviceIpHistory _ := .rfl
  deviceConnectionEvents _ := .rfl
  unknownDomainLogs _ := .rfl
  commands _ := .rfl
  vpnDetectionLogs _ := .rfl
  detectedRouters _ := .rfl
  routerCommands _ := .rfl

/-- **Two states side by side.** Databases with the same rows of the parent, the same holders of the
address and the same blocked domains give the same answers for it, when in one of them every holder
is the parent's, and so is the child of each holder that is neither locked nor blocked. -/
theorem answers_same {p ip : String} {db₁ db₂ : Database} (hown : SameOwn p db₁ db₂)
    (hholders : SameHolders ip db₁ db₂) (hu₁ : CategoryUnique db₁) (hu₂ : CategoryUnique db₂)
    (hdom : db₁.blockedDomains = db₂.blockedDomains) (h : OwnHolders p ip db₁) (env : Env)
    (now : Time) (domain : String) (found : Option String) (r : DnsPolicyResponse) :
    Answers env db₁ now ip domain found r ↔ Answers env db₂ now ip domain found r := by
  have h₁ : Variant p ip db₁ db₁ := ⟨.refl p db₁, fun _ => .rfl, hu₁⟩
  have h₂ : Variant p ip db₁ db₂ := ⟨hown, hholders, hu₂⟩
  exact ⟨h₁.answers h h₂ hdom, h₂.answers h h₁ hdom.symm⟩

/-- **Isolation of a family's DNS decisions.** What the engine answers for an address is determined
by the parent's rows exactly when every holder of the address is the parent's, and so is the child
of each holder that is neither locked nor blocked. -/
theorem isolation_iff {p ip : String} {db : Database} (hu : CategoryUnique db) :
    Isolated p ip db ↔ OwnHolders p ip db := by
  constructor
  · intro h d hd hip
    exact ⟨parent_of_isolated hu h hd hip,
      fun hlock hst c hc => child_of_isolated hu h hd hip hlock hst hc⟩
  · intro h db₁ db₂ h₁ h₂ hdom env now domain found r
    exact ⟨h₁.answers h h₂ hdom, h₂.answers h h₁ hdom.symm⟩

/-- A tablet on a home network. -/
def lanTablet : Device :=
  { Household.device "tablet" "amal" "adam" with ipAddress := some "192.168.1.20" }

/-- A locked console of another family, with the same private address. -/
def lanConsole : Device :=
  { Household.device "console" "basma" "badr" with
    ipAddress := some "192.168.1.20"
    internetLocked := true }

/-- The tablet with a phone of the family at the same address in another network, the console at
another address, and what is blocked for the children. -/
def lanHome : Database :=
  { Household.withDevices [lanTablet, { lanTablet with id := "phone", childId := none },
      { lanConsole with ipAddress := some "192.168.1.21" }] (by decide) with
    categoryBlocks := ⟨[⟨"gaming", "adam", .gaming, none, true, 0, 0⟩,
      ⟨"social", "adam", .social, some "homework", false, 0, 0⟩,
      ⟨"theirs", "badr", .gaming, none, true, 0, 0⟩], by decide⟩ }

theorem isolation_iff_lanHome : Isolated "amal" "192.168.1.20" lanHome ↔
    OwnHolders "amal" "192.168.1.20" lanHome :=
  isolation_iff (by unfold CategoryUnique; decide)

/-- The lock of another family's console blocks the tablet. -/
theorem console_blocks_tablet : ¬ ∀ (p : String) (db₁ db₂ : Database), SameOwn p db₁ db₂ →
    CategoryUnique db₁ → CategoryUnique db₂ → db₁.blockedDomains = db₂.blockedDomains →
    ∀ ip, (∃ d ∈ db₁.devices.rows, d.parentId = p ∧ holds ip d = true) → ∀ env now domain r,
    (∃ found, Answers env db₁ now ip domain found r) ↔
      ∃ found, Answers env db₂ now ip domain found r := by
  intro h
  have hsame : SameOwn "amal" (Household.withDevices [lanTablet] (by decide))
      (Household.withDevices [lanTablet, lanConsole] (by decide)) := by
    refine sameOwn_of (fun d => ?_) fun _ _ => .rfl
    have hconsole : lanConsole.parentId ≠ "amal" := by decide
    simp only [Household.withDevices, List.mem_cons, List.not_mem_nil, or_false]
    constructor
    · exact fun hd => ⟨.inl hd.1, hd.2⟩
    · rintro ⟨rfl | rfl, hp⟩
      · exact ⟨rfl, hp⟩
      · exact absurd hp hconsole
  have hiff := h "amal" _ _ hsame (by intro b hb; cases hb) (by intro b hb; cases hb) rfl
    "192.168.1.20"
      ⟨lanTablet, by simp [Household.withDevices], rfl, by decide⟩ .plain 0 "example.org"
    (blockResponse .fullInternetLock (some none))
  obtain ⟨found, hfound⟩ := hiff.mpr
    ⟨_, @answers_of_holder "192.168.1.20" _ .plain 0 "example.org" lanConsole
      (by simp [Household.withDevices]) (by decide) 0 0⟩
  obtain ⟨n₀, n₁, n₂, -, hr⟩ := answers_iff.mp hfound
  rcases hl : lookup (Household.withDevices [lanTablet] (by decide)) n₀ "192.168.1.20" with _ | d
  · rw [hl] at hr
    simp [blockResponse, allowResponse] at hr
  · obtain rfl : d = lanTablet := by
      simpa [Household.withDevices] using (lookup_eq_some hl).1
    rw [hl] at hr
    exact reason_of_unlocked rfl (congrArg DnsPolicyResponse.reason hr.symm)

end GuardTime.Dns.Isolation
