import Mathlib.Tactic
import GuardTime.Household
import GuardTime.System.Changes

/-! # Where a lock is effective

A locked or blocked device is blocked by its gateway, which goes by row: the foreign key of every
reachable state leads to the gateway, and its policies list the device. The DNS engine goes by
address: it blocks the device exactly when every holder of the address is blocked. -/

namespace GuardTime.Dns.Locks

open GuardTime.Lib.Program GuardTime.Lib.Keyed GuardTime.Lib.Js GuardTime.Schema GuardTime.Server
open GuardTime.Prisma GuardTime.Services GuardTime.Services.DnsPolicy GuardTime.Dns.Engine
open GuardTime.System.Links GuardTime.System.Run GuardTime.System.Changes GuardTime.Household

/-! ### Every device's gateway exists -/

/-- Devices refer to existing gateways. -/
def Wired (g : LinkGraph) : Prop := ∀ d ∈ g.devices, ∀ k, d.gatewayId = some k → HasGateway g k

theorem Wired.addDevice {g : LinkGraph} (h : Wired g) {d : DeviceLink}
    (hd : ∀ k, d.gatewayId = some k → HasGateway g k) :
    Wired { g with devices := g.devices ++ [d] } := by
  intro d' hd' k hk
  rcases List.mem_append.mp hd' with hd' | hd'
  · exact h d' hd' k hk
  · rw [List.mem_singleton.mp hd'] at hk
    exact hd k hk

theorem Wired.unlinkGateway {g : LinkGraph} (h : Wired g) (id : String) :
    Wired (unlinkGateway id g) := by
  intro d hd k hk
  obtain ⟨d', hd', rfl⟩ := List.mem_map.mp hd
  split_ifs at hk
  exact h d' hd' k hk

theorem Wired.dropGateway {g : LinkGraph} (h : Wired g) (id : String) :
    Wired (dropGateway id g) := by
  intro d hd k hk
  obtain ⟨o, ho, rfl⟩ := h.unlinkGateway id d hd k hk
  obtain ⟨d', -, rfl⟩ := List.mem_map.mp hd
  split_ifs at hk with hid
  refine ⟨o, List.mem_filter.mpr ⟨ho, ?_⟩, rfl⟩
  simp only [decide_eq_true_eq]
  rintro rfl
  exact hid hk

theorem wired_change {r : Request} {g g' : LinkGraph} (hchange : Change r g g') (h : Wired g) :
    Wired g' := by
  cases hchange with
  | createChild id => exact h
  | removeChild =>
    intro d hd k hk
    obtain ⟨d', hd', rfl⟩ := List.mem_map.mp hd
    split_ifs at hk <;> exact h d' hd' k hk
  | registerGateway id =>
    intro d hd k hk
    obtain ⟨o, ho, rfl⟩ := h d hd k hk
    exact ⟨o, List.mem_append_left _ ho, rfl⟩
  | unlinkGateway => exact h.unlinkGateway _
  | deleteGateway => exact h.dropGateway _
  | createDevice id hc hg => exact h.addDevice hg
  | registerDevice id hc => exact h.addDevice fun k hk => by cases hk
  | updateDevice howner hc hg =>
    intro d hd k hk
    obtain ⟨d', hd', rfl⟩ := List.mem_map.mp hd
    split_ifs at hk with hid
    · exact (hg d' hd' hid k hk).elim (h d' hd' k) id
    · exact h d' hd' k hk
  | removeDevice => exact fun d hd => h d (List.mem_filter.mp hd).1
  | startSession => exact h
  | block => exact h

theorem wired_run {env : Env} : ∀ (steps : List Step) {w : World}, Wired (linksOf w.db) →
    Wired (linksOf (run env w steps).db)
  | [], _, h => h
  | s :: steps, w, h => wired_run steps (w := exec env w s) <| by
    have hsince := exec_since env w s
    unfold Since at hsince
    generalize linksOf (exec env w s).db = g' at hsince
    induction hsince with
    | refl => exact h
    | tail _ hchange ih => exact wired_change hchange ih

/-! ### The two paths -/

/-- The device is locked or blocked. -/
def Locked (d : Device) : Prop := d.internetLocked = true ∨ d.status = .blocked

instance (d : Device) : Decidable (Locked d) := inferInstanceAs (Decidable (_ ∨ _))

/-- The engine blocks the device whatever it asks for: it is locked or blocked, or whichever of its
latest sessions is found has no time left. -/
def Blocking (db : Database) (now : Time) (d : Device) : Prop :=
  Locked d ∨ ∀ n, (currentSession db n d.id).any (exhausted now) = true

/-- The policies of the device's gateway block it. -/
def GatewayBlocks (env : Env) (db : Database) (now : Time) (d : Device) : Prop :=
  ∀ k, d.gatewayId = some k → ∀ w : World, w.db = db → w.now = now → ∀ used version,
    ∃ policies w', (Gateways.getPolicies env k used version).run w = (.ok policies, w') ∧
      ∃ p ∈ policies.devices, p.deviceId = d.id ∧ p.action = .block

/-- Every query from an address of the device that misses the cache is blocked. -/
def DnsBlocks (env : Env) (db : Database) (now : Time) (d : Device) : Prop :=
  ∀ ip, holds ip d = true → ∀ domain (w : World), w.db = db → w.now = now →
    cachedFor w ip domain = none →
    ∃ r w', (checkPolicy env ip domain).run w = (.ok r, w') ∧ r.action = .block

theorem devicePolicy_of_locked {d : Device} (h : Locked d) (limits : List BandwidthLimit) :
    (Gateways.devicePolicy limits d).action = .block := by
  rcases h with h | h <;> simp [Gateways.devicePolicy, h]

theorem run_loadBandwidthLimits (ds : List Device) (w : World) :
    ∃ limits w', (Gateways.loadBandwidthLimits ds).run w = (.ok limits, w') := by
  unfold Gateways.loadBandwidthLimits
  split_ifs
  · exact ⟨_, _, rfl⟩
  · exact ⟨_, _, rfl⟩

theorem gatewayBlocks_of_locked {env : Env} {db : Database} {now : Time} {d : Device}
    (hwired : Wired (linksOf db)) (hd : d ∈ db.devices.rows) (h : Locked d) :
    GatewayBlocks env db now d := by
  rintro k hk w rfl rfl used version
  obtain ⟨o, ho, hid⟩ := hwired _ (List.mem_map_of_mem hd) k hk
  obtain ⟨g, hg, rfl⟩ := List.mem_map.mp ho
  have hfind : w.db.gateways.find k = some g := Table.find_eq_some.mpr ⟨hg, hid⟩
  have hmem : d ∈ matching .device w.db (w.tape w.calls) fun d' => d'.gatewayId = some g.id := by
    have : g.id = k := hid
    simpa [matching, Model.device, this] using ⟨hd, hk⟩
  obtain ⟨limits, w', hlimits⟩ := run_loadBandwidthLimits
    (matching .device w.db (w.tape w.calls) fun d' => d'.gatewayId = some g.id)
    ((ignoreErrors (Gateways.updateLastSeen k version)).run (World.afterCall w w.db)).2
  have hrun : ∃ now rotated, (Gateways.getPolicies env k used version).run w =
      (.ok ⟨g.id, now, rotated, (truthy env.controlledDnsIp).or (truthy env.dnsServiceIp),
        truthy env.controlledDnsIpv6, (matching .device w.db (w.tape w.calls)
          fun d' => d'.gatewayId = some g.id).map (Gateways.devicePolicy limits)⟩, w') := by
    rw [Gateways.getPolicies, Prog.run_bind, Gateways.run_findWithDevices hfind]
    simp only []
    rw [(yields_ignoreErrors _).run_bind, Prog.run_bind, hlimits]
    exact ⟨_, _, rfl⟩
  obtain ⟨now, rotated, hrun⟩ := hrun
  exact ⟨_, _, hrun, _, List.mem_map_of_mem hmem, rfl, devicePolicy_of_locked h limits⟩

theorem dnsBlocks_of_blocking {env : Env} {db : Database} {now : Time} {d : Device}
    (h : ∀ ip, holds ip d = true → ∀ d' ∈ db.devices.rows, holds ip d' = true →
      Blocking db now d') (hd : d ∈ db.devices.rows) : DnsBlocks env db now d := by
  rintro ip hip domain w rfl rfl hmiss
  refine ⟨_, _, Prod.ext (checkPolicy_of_miss hmiss env) rfl, ?_⟩
  unfold verdict
  rcases hlook : lookup w.db (upcoming w 0) ip with _ | d'
  · exact absurd hip (by simp [lookup_eq_none.mp hlook d hd])
  · obtain ⟨hd', hip'⟩ := lookup_eq_some hlook
    simp only [deviceVerdict]
    split_ifs with h1 h2 h3 h4
    · rfl
    · rfl
    · rfl
    · rfl
    · rcases h ip hip d' hd' hip' with (hl | hb) | hs
      · exact absurd hl h2
      · exact absurd hb h3
      · exact absurd (hs _) h4

/-! ### A name under no domain -/

section Localhost
variable {env : Env} (hlower : env.toLowerCase "localhost" = "localhost")
include hlower

theorem normalize_localhost : normalize env "localhost" = "localhost" := by
  rw [DnsPolicy.normalize, hlower]
  decide

theorem not_isStrictDohDomain_localhost : isStrictDohDomain env "localhost" = false := by
  rw [isStrictDohDomain, normalize_localhost hlower]
  decide

theorem domainVerdict_localhost (db : Database) (n : ℕ) (d : Device) :
    domainVerdict env db n "localhost" d = allowResponse := by
  have hcand : candidates "localhost" = [] := by decide
  have hnone : blockedDomain env db n "localhost" = none := by
    simp [blockedDomain, matching, normalize_localhost hlower, hcand]
  rw [domainVerdict, hnone]

/-- A holder of the address that is not blocked gets an answer. -/
theorem blocking_of_dnsBlocks {db : Database} {now : Time} {d d' : Device} {ip : String}
    (h : DnsBlocks env db now d) (hip : holds ip d = true) (hd' : d' ∈ db.devices.rows)
    (hip' : holds ip d' = true) : Blocking db now d' := by
  by_contra hnot
  unfold Blocking Locked at hnot
  push Not at hnot
  obtain ⟨⟨hlock, hstatus⟩, n, hsession⟩ := hnot
  obtain ⟨n₀, hlook⟩ := exists_lookup hd' hip'
  let w : World := { World.fresh db now with tape := fun i => if i = 0 then n₀ else n }
  obtain ⟨r, w', hrun, hr⟩ := h ip hip "localhost" w rfl rfl rfl
  have hfst : ((checkPolicy env ip "localhost").run w).1 =
      .ok (verdict env db now (upcoming w) ip "localhost") := checkPolicy_of_miss rfl env
  have hverdict : verdict env db now (upcoming w) ip "localhost" = allowResponse := by
    have h0 : upcoming w 0 = n₀ := rfl
    have h1 : upcoming w 1 = n := rfl
    rw [verdict, h0, hlook]
    simp only [deviceVerdict, not_isStrictDohDomain_localhost hlower, Bool.and_false, h1]
    rw [if_neg (by simp), if_neg hlock, if_neg hstatus, if_neg hsession]
    exact domainVerdict_localhost hlower db _ d'
  rw [hrun, hverdict] at hfst
  obtain rfl := Except.ok.inj hfst
  cases hr

end Localhost

/-- **Where a lock is effective.** In every reachable state, at every time: every locked device is
blocked on both paths exactly when every holder of one of its addresses is blocked. -/
theorem lock_effective_iff {env : Env} (hlower : env.toLowerCase "localhost" = "localhost")
    {w : World} (hw : w.db = .empty) (steps : List Step) (now : Time) :
    (∀ d ∈ (run env w steps).db.devices.rows, Locked d →
      GatewayBlocks env (run env w steps).db now d ∧ DnsBlocks env (run env w steps).db now d) ↔
    ∀ d ∈ (run env w steps).db.devices.rows, Locked d → ∀ ip, holds ip d = true →
      ∀ d' ∈ (run env w steps).db.devices.rows, holds ip d' = true →
        Blocking (run env w steps).db now d' := by
  have hwired : Wired (linksOf (run env w steps).db) := by
    refine wired_run steps ?_
    rw [hw]
    simp [Wired, linksOf, Database.empty]
  constructor
  · intro h d hd hl ip hip d' hd' hip'
    exact blocking_of_dnsBlocks hlower (h d hd hl).2 hip hd' hip'
  · intro h d hd hl
    exact ⟨gatewayBlocks_of_locked hwired hd hl, dnsBlocks_of_blocking (h d hd hl) hd⟩

/-- A tablet is locked, with `others` made before. -/
def lockedTablet (others : List Step) : List Step :=
  family 1 "amal@example.com" "uuid-2-0" "adam" ++
    addDevice 2 "uuid-2-0" "uuid-7-0" "tablet" (some "203.0.113.9") :: others ++
    [⟨4, .lockInternet "uuid-2-0" "uuid-8-0" none⟩]

/-- The state after it. -/
def afterLock (others : List Step) : World := run .plain (.fresh .empty 0) (lockedTablet others)

theorem lone_tablet_effective : Env.plain.toLowerCase "localhost" = "localhost" ∧
    ∀ d ∈ (afterLock []).db.devices.rows, Locked d →
      GatewayBlocks .plain (afterLock []).db 5 d ∧ DnsBlocks .plain (afterLock []).db 5 d := by
  have hlower : Env.plain.toLowerCase "localhost" = "localhost" := by decide
  refine ⟨hlower, (lock_effective_iff hlower rfl (lockedTablet []) 5).mpr ?_⟩
  intro d hd hl ip hip d' hd' hip'
  have hall : ∀ d ∈ (afterLock []).db.devices.rows, Locked d := by decide +kernel
  exact .inl (hall d' hd')

/-- A console paired from the same public address. -/
def console : List Step := [addDevice 3 "uuid-2-0" "uuid-7-0" "console" (some "203.0.113.9")]

/-- The console may be answered in the tablet's place. -/
theorem shared_address_unlocked : ¬ ∀ (env : Env) (w : World), w.db = .empty →
    ∀ (steps : List Step) (now : Time), ∀ d ∈ (run env w steps).db.devices.rows, Locked d →
      GatewayBlocks env (run env w steps).db now d ∧ DnsBlocks env (run env w steps).db now d := by
  intro h
  have heff : ∀ d ∈ (afterLock console).db.devices.rows, Locked d → _ :=
    h .plain (.fresh .empty 0) rfl (lockedTablet console) 5
  obtain ⟨d, hd, hl, hip, d', hd', hip', hfree⟩ : ∃ d ∈ (afterLock console).db.devices.rows,
      Locked d ∧ holds "203.0.113.9" d = true ∧ ∃ d' ∈ (afterLock console).db.devices.rows,
        holds "203.0.113.9" d' = true ∧ ¬ Locked d' := by decide +kernel
  have hnone : (afterLock console).db.sessions.rows = [] := by decide +kernel
  have hblocks : DnsBlocks .plain (afterLock console).db 5 d := (heff d hd hl).2
  rcases blocking_of_dnsBlocks (by decide) hblocks hip hd' hip' with hl' | hs
  · exact hfree hl'
  · have := hs 0
    simp [currentSession, matching, Model.session, hnone, arrange] at this

end GuardTime.Dns.Locks
