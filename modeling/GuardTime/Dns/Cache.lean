import Mathlib.Tactic
import GuardTime.Services.Sessions
import GuardTime.Dns.Engine

/-! # What the DNS engine does to the cache

The cache holds versions, decisions and two kinds of heartbeat bookkeeping under keys that never
collide between kinds. A `checkPolicy` writes at most one decision, under the key of its address's
current version (`checkPolicy_cache`); an invalidation raises one version
(`run_invalidateSourceIp`). -/

namespace GuardTime.Dns.Cache

open GuardTime.Lib.Program GuardTime.Lib.TtlCache GuardTime.Lib.Js GuardTime.Schema
open GuardTime.Server GuardTime.Prisma GuardTime.Services GuardTime.Services.DnsPolicy
open GuardTime.Dns.Engine

/-! ### Keys -/

/-- The key of an address-to-device entry or of a heartbeat. -/
def IsAux (key : String) : Prop := ∃ s, key = deviceIdKey s ∨ key = heartbeatKey s

theorem versionKey_injective {ip ip' : String} (h : versionKey ip = versionKey ip') : ip = ip' := by
  have := congrArg String.toList h
  exact String.toList_inj.mp (by simpa [versionKey] using this)

theorem decisionKey_ne_versionKey (ip : String) (n : ℕ) (domain ip' : String) :
    decisionKey ip n domain ≠ versionKey ip' := by
  intro h
  have := congrArg (fun s => s.toList[3]?) h
  simp [decisionKey, versionKey] at this

theorem not_isAux_versionKey (ip : String) : ¬ IsAux (versionKey ip) := by
  rintro ⟨s, h | h⟩
  · have := congrArg (fun s => s.toList[3]?) h
    simp [deviceIdKey, versionKey] at this
  · have := congrArg (fun s => s.toList[3]?) h
    simp [heartbeatKey, versionKey] at this

theorem not_isAux_decisionKey (ip : String) (n : ℕ) (domain : String) :
    ¬ IsAux (decisionKey ip n domain) := by
  rintro ⟨s, h | h⟩
  · have := congrArg (fun s => s.toList[3]?) h
    simp [deviceIdKey, decisionKey] at this
  · have := congrArg (fun s => s.toList[3]?) h
    simp [heartbeatKey, decisionKey] at this

theorem decisionKey_injective {ip ip' domain domain' : String} {n n' : ℕ} (hd : ':' ∉ domain.toList)
    (hd' : ':' ∉ domain'.toList) (h : decisionKey ip n domain = decisionKey ip' n' domain') :
    ip = ip' ∧ n = n' ∧ domain = domain' := by
  have hcut : ∀ ip n domain, (decisionKey ip n domain).toList =
      (("dns:" ++ ip).toList ++ ':' :: (toString n).toList) ++ ':' :: domain.toList := by
    intro ip n domain
    simp [decisionKey]
  have h' := congrArg String.toList h
  rw [hcut, hcut] at h'
  obtain ⟨h1, h2⟩ := eq_of_cut hd hd' h'
  obtain ⟨h3, h4⟩ := eq_of_cut (notMem_toString (by decide) n) (notMem_toString (by decide) n') h1
  refine ⟨?_, toString_nat_injective (String.toList_inj.mp h4), String.toList_inj.mp h2⟩
  rw [String.toList_append, String.toList_append] at h3
  exact String.toList_inj.mp (List.append_cancel_left h3)

/-! ### A check -/

/-- Since `w` the cache has changed at most in heartbeat bookkeeping and by a decision made now
under `key`. -/
structure OnlyDecision (w : World) (key : String) (c : Cache String CacheValue) (now : Time) :
    Prop where
  now_eq : now = w.now
  entry : ∀ k, c k = w.cache k ∨ IsAux k ∨
    (k = key ∧ ∃ r, c k = some ⟨.decision r, w.now, decisionTtl⟩)

section
variable {w : World} {key : String}

theorem OnlyDecision.refl (w : World) (key : String) : OnlyDecision w key w.cache w.now :=
  ⟨rfl, fun _ => .inl rfl⟩

theorem keeps_aux {k : String} (hk : IsAux k) (v : CacheValue) (ttl : ℤ) :
    Prog.Keeps (OffDb (OnlyDecision w key)) (cacheSet k v ttl) := by
  refine .write fun w' hw' => ⟨hw'.now_eq, fun k' => ?_⟩
  by_cases h : k' = k
  · exact .inr (.inl (h ▸ hk))
  · simp only [Cache.set_of_ne _ _ _ _ h]
    exact hw'.entry k'

theorem keeps_decision (r : DnsPolicyResponse) :
    Prog.Keeps (OffDb (OnlyDecision w key)) (cacheSet key (.decision r) decisionTtl) := by
  refine .write fun w' hw' => ⟨hw'.now_eq, fun k => ?_⟩
  by_cases h : k = key
  · subst h
    simp only [Cache.set_self]
    exact .inr (.inr ⟨trivial, r, by rw [hw'.now_eq]⟩)
  · simp only [Cache.set_of_ne _ _ _ _ h]
    exact hw'.entry k

end

/-- The property survives what a check writes besides its decision: heartbeats and logs. -/
structure TouchSafe (I : World → Prop) : Prop where
  steady : Steady I
  dnsQueryLog : Free .dnsQueryLog I
  unknownDomainLog : Free .unknownDomainLog I
  seen : ∀ id t,
    Prog.Keeps I (Prisma.update .device id fun d => { d with lastDnsSeenAt := some t })
  aux : ∀ k, IsAux k → ∀ v ttl, Prog.Keeps I (cacheSet k v ttl)

namespace TouchSafe

variable {I : World → Prop} (h : TouchSafe I)
include h

theorem logQuery (domain sourceIp action : String) :
    Prog.Keeps I (DnsPolicy.logQuery domain sourceIp action) :=
  keeps_ignoreErrors ((h.dnsQueryLog.create h.steady _).bind fun _ => .pure _)

theorem touchHeartbeat (deviceId : String) : Prog.Keeps I (DnsPolicy.touchHeartbeat deviceId) := by
  refine .bind (.read _) fun v => ?_
  rcases v with _ | v
  · exact .bind (keeps_ignoreErrors
      (.bind keeps_newDate fun _ => (h.seen _ _).bind fun _ => .pure _))
      fun _ => h.aux _ ⟨deviceId, .inr rfl⟩ _ _
  · exact .pure _

theorem recordUnknownDomain (env : Env) (domain sourceIp deviceId : String) :
    Prog.Keeps I (DnsPolicy.recordUnknownDomain env domain sourceIp deviceId) :=
  .ite (fun _ => .pure _) fun _ => keeps_ignoreErrors (.bind keeps_newDate fun _ =>
    (h.unknownDomainLog.upsert h.steady _ _ _ _).bind fun _ => .pure _)

theorem touchKnownDevice (sourceIp : String) :
    Prog.Keeps I (DnsPolicy.touchKnownDevice sourceIp) := by
  refine .bind (.read _) fun v => ?_
  rcases knownDeviceId v with _ | id
  · exact .pure _
  · exact h.touchHeartbeat id

end TouchSafe

/-- The property also survives a decision under `key`. -/
structure CheckSafe (I : World → Prop) (key : String) : Prop extends TouchSafe I where
  decision : ∀ r, Prog.Keeps I (cacheSet key (.decision r) decisionTtl)

namespace CheckSafe

variable {I : World → Prop} {key : String} (h : CheckSafe I key)
include h

theorem answer (domain sourceIp deviceId : String) (r : DnsPolicyResponse) :
    Prog.Keeps I (DnsPolicy.answer key domain sourceIp deviceId r) :=
  (h.decision r).bind fun _ => (h.logQuery _ _ _).bind fun _ =>
    (h.touchHeartbeat deviceId).bind fun _ => .pure _

theorem categoryBlocked (d : Device) (b : BlockedDomain) :
    Prog.Keeps I (DnsPolicy.categoryBlocked d b) := by
  unfold DnsPolicy.categoryBlocked findUniqueBy
  split
  · exact (keeps_query h.steady _).bind fun _ => .pure _
  · exact .pure _

theorem checkSessionAndDomains (env : Env) (sourceIp domain : String) (d : Device) :
    Prog.Keeps I (DnsPolicy.checkSessionAndDomains env key sourceIp domain d) := by
  have hfind : Prog.Keeps I (findBlockedDomain env domain) := by
    unfold findBlockedDomain findFirst
    exact keeps_query h.steady _
  refine .bind (keeps_query h.steady _) fun s => .bind keeps_newDate fun now =>
    .ite (fun _ => h.answer _ _ _ _) fun _ => hfind.bind fun b => ?_
  rcases b with _ | b
  · exact (h.answer _ _ _ _).bind fun _ =>
      (h.recordUnknownDomain env domain sourceIp d.id).bind fun _ => .pure _
  · exact (h.categoryBlocked d b).bind fun _ =>
      .ite (fun _ => h.answer _ _ _ _) fun _ => h.answer _ _ _ _

theorem checkPolicyMiss (env : Env) (sourceIp domain : String) :
    Prog.Keeps I (DnsPolicy.checkPolicyMiss env key sourceIp domain) := by
  refine .bind (keeps_query h.steady _) fun d => ?_
  rcases d with _ | d
  · exact (h.decision _).bind fun _ => (h.logQuery _ _ _).bind fun _ => .pure _
  · exact (h.aux _ ⟨sourceIp, .inl rfl⟩ _ _).bind fun _ =>
      .ite (fun _ => h.answer _ _ _ _) fun _ => .ite (fun _ => h.answer _ _ _ _) fun _ =>
        .ite (fun _ => h.answer _ _ _ _) fun _ => h.checkSessionAndDomains env _ _ d

end CheckSafe

/-- A check keeps what its writes keep under the key of the current version. -/
theorem keeps_checkPolicy {I : World → Prop} {env : Env} {sourceIp domain : String} {w : World}
    (h : CheckSafe I (decisionKey sourceIp (versionAt w sourceIp) domain)) (hw : I w) :
    I ((checkPolicy env sourceIp domain).run w).2 := by
  rcases hc : cachedFor w sourceIp domain with _ | r
  · rw [run_checkPolicy_of_miss hc]
    exact h.checkPolicyMiss env sourceIp domain w hw
  · rw [run_checkPolicy_of_hit hc]
    exact ((h.touchKnownDevice sourceIp).bind fun _ => .pure _) w hw

/-- **The cache after a check.** -/
theorem checkPolicy_cache (env : Env) (sourceIp domain : String) (w : World) :
    OffDb (OnlyDecision w (decisionKey sourceIp (versionAt w sourceIp) domain))
      ((checkPolicy env sourceIp domain).run w).2 :=
  keeps_checkPolicy (I := OffDb (OnlyDecision w _))
    { steady := steady_offDb _
      dnsQueryLog := free_offDb _ _
      unknownDomainLog := free_offDb _ _
      seen := fun id _ => (free_offDb _ _).update (steady_offDb _) id _ _
      aux := fun _ hk => keeps_aux hk
      decision := keeps_decision } (.refl w _)

/-! ### An invalidation -/

/-- The world after the version of `ip` is raised. -/
def bump (ip : String) (w : World) : World :=
  { w with
    cache := w.cache.set w.now (versionKey ip) (.version (versionAt w ip + 1)) versionTtl }

theorem bump_self (ip : String) (w : World) : (bump ip w).cache (versionKey ip) =
    some ⟨.version (versionAt w ip + 1), w.now, versionTtl⟩ := Cache.set_self ..

theorem bump_of_ne {ip k : String} (hk : k ≠ versionKey ip) (w : World) :
    (bump ip w).cache k = w.cache k := Cache.set_of_ne _ _ _ _ hk

theorem bump_decision (ip : String) (w : World) (ip' : String) (n : ℕ) (domain : String) :
    (bump ip w).cache (decisionKey ip' n domain) = w.cache (decisionKey ip' n domain) :=
  bump_of_ne (decisionKey_ne_versionKey _ _ _ _) w

theorem run_invalidateSourceIp (ip : Option String) (w : World) :
    (invalidateSourceIp ip).run w = (.ok (), match truthy ip with
      | some ip => bump ip w
      | none => w) := by
  rcases ip with _ | ip
  · rfl
  · by_cases h : ip = ""
    · simp [invalidateSourceIp, h, truthy, Option.filter]
    · simp [invalidateSourceIp, h, truthy, getVersion, bump, versionAt, Option.filter]

end GuardTime.Dns.Cache
