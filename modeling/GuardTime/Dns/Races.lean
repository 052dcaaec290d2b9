import Mathlib.Tactic
import GuardTime.Calls
import GuardTime.Lib.Turns
import GuardTime.Dns.Versions

/-! # Overlapping invalidations

Policy changes for one address and checks of it, one cache or database call at a time, while nothing
expires. An invalidation reads the version and writes its successor in two calls, so a slow one may
take the version back to a number under which old decisions are still cached.

* `Origin`: the database calls that the answer of a check rests on;
* `Orderly`: no change is overtaken by two others between its two calls;
* `version_mono`: then the version never goes back;
* `after_change`: then a check that starts after a change rests on no database call before it. -/

namespace GuardTime.Dns.Races

open GuardTime.Lib.Program GuardTime.Lib.Interleave GuardTime.Lib.TtlCache GuardTime.Lib.Js
open GuardTime.Schema GuardTime.Server GuardTime.Prisma GuardTime.Services.DnsPolicy
open GuardTime.Dns.Engine
open GuardTime.Dns.Cache

/-! ### Requests -/

/-- A change of the policy of the address, or a check of it. -/
inductive Request where
  | change (f : Database → Database)
  | check (domain : String)

/-- The database update of a change. -/
def updateDb (f : Database → Database) : Api Unit := dbCall fun _ db => (.ok (), f db)

/-- What the services do; a check answers with its decision. -/
def Request.prog (env : Env) (ip : String) : Request → Api (Option DnsPolicyResponse)
  | change f => do
    updateDb f
    invalidateSourceIps [some ip]
    pure none
  | check domain => do
    let r ← checkPolicy env ip domain
    pure (some r)

/-- The requests side by side. -/
def body (env : Env) (ip : String) (_ : ℕ) (r : Request) : Api (Option DnsPolicyResponse) :=
  r.prog env ip

/-- The requests and what is left of them. -/
abbrev Requests : Type := Pool Request World Err (Option DnsPolicyResponse)

/-! ### What an answer rests on -/

section Runs
variable (ip : String) (pool : ℕ → Requests) (moves : ℕ → Move Request World)

/-- At move `n` request `i` calls the database. -/
def Queries (i n : ℕ) : Prop :=
  moves n = .call i ∧ (pool (n + 1)).state.calls ≠ (pool n).state.calls

/-- The write of a decision. -/
def store (key : String) (r : DnsPolicyResponse) (w : World) : World :=
  { w with cache := w.cache.set w.now key (.decision r) decisionTtl }

/-- At move `n` request `i` caches a decision. -/
def Stores (key : String) (i n : ℕ) : Prop := ∃ r, Makes pool moves i n (store key r)

/-- The decision that is cached at move `h` was cached by request `i` at move `n`. -/
def Author (key : String) (h i n : ℕ) : Prop :=
  n < h ∧ Stores pool moves key i n ∧ ∀ m, n < m → m < h → ∀ j, ¬ Stores pool moves key j m

/-- The check `j` reads the version with its first call and looks for a decision at move `h`, under
`key`. -/
def LooksFor (j : ℕ) (domain : String) (h : ℕ) (key : String) : Prop :=
  ∃ b, First pool moves j b ∧ Next pool moves j b h ∧
    key = decisionKey ip (versionAt (pool b).state ip) domain

/-- The database is called at move `l` by the check `j` itself, or by the author of the decision it
finds, before it cached it. -/
def Origin (j : ℕ) (domain : String) (l : ℕ) : Prop :=
  Queries pool moves j l ∨ ∃ h key i n, LooksFor ip pool moves j domain h key ∧
    Author pool moves key h i n ∧ l < n ∧ Queries pool moves i l

/-- **No old decision.** The answer of a check that started after the change `i` had returned rests
on database calls, and on none before the update of the change, its first call. -/
def NeverStale : Prop :=
  ∀ i f u a, (pool a).tag i = some (.change f) → First pool moves i u → (pool a).result i ≠ none →
  ∀ j domain c, (pool a).prog j = none → (pool c).tag j = some (.check domain) →
    (pool c).result j ≠ none → (∃ l, Origin ip pool moves j domain l) ∧
      ∀ l, Origin ip pool moves j domain l → u < l

/-- Nothing expires, and only the requests write the cache. -/
structure Undisturbed : Prop where
  live : ∀ n k e, (pool n).state.cache k = some e → e.Live (pool n).state.now
  other : ∀ n f, moves n = .other f → ∀ w, (f w).cache = w.cache

/-- The address is one, and between its reading of the version and its writing no change is
overtaken by more than one other. -/
structure Orderly : Prop where
  named : ip ≠ ""
  abreast : ∀ i f u r n, (pool n).tag i = some (.change f) → First pool moves i u →
    Next pool moves i u r → Next pool moves i r n →
    versionAt (pool n).state ip ≤ versionAt (pool r).state ip + 1

end Runs

/-! ### Single calls -/

/-- The relation holds of what a check does besides caching its decision. -/
structure TouchCalls (R : World → World → Prop) : Prop where
  refl : ∀ w, R w w
  idle : Idle R
  dnsQueryLog : Ignores .dnsQueryLog R
  unknownDomainLog : Ignores .unknownDomainLog R
  device : Ignores .device R
  deviceId : ∀ ip id, Calls R (cacheSet (deviceIdKey ip) (.deviceId id) decisionTtl)
  heartbeat : ∀ id, Calls R (cacheSet (heartbeatKey id) .throttled 10000)

namespace TouchCalls

variable {R : World → World → Prop} (h : TouchCalls R)
include h

theorem logQuery (domain sourceIp action : String) :
    Calls R (Services.DnsPolicy.logQuery domain sourceIp action) :=
  .catchErr (.bind (h.dnsQueryLog.create h.idle _) fun _ => .pure _) fun _ => .pure _

theorem touchHeartbeat (deviceId : String) :
    Calls R (Services.DnsPolicy.touchHeartbeat deviceId) := by
  refine .bind (.read h.refl _) fun v => ?_
  rcases v with _ | v
  · exact .bind (.catchErr (.bind (calls_newDate h.refl) fun _ =>
      .bind (h.device.update h.idle _ _ _) fun _ => .pure _) fun _ => .pure _) fun _ =>
        h.heartbeat _
  · exact .pure _

theorem recordUnknownDomain (env : Env) (domain sourceIp deviceId : String) :
    Calls R (Services.DnsPolicy.recordUnknownDomain env domain sourceIp deviceId) :=
  .ite (.pure _) (.catchErr (.bind (calls_newDate h.refl) fun _ =>
    .bind (h.unknownDomainLog.upsert h.idle _ _ _ _) fun _ => .pure _) fun _ => .pure _)

theorem touchKnownDevice (sourceIp : String) :
    Calls R (Services.DnsPolicy.touchKnownDevice sourceIp) := by
  refine .bind (.read h.refl _) fun v => ?_
  rcases knownDeviceId v with _ | id
  · exact .pure _
  · exact h.touchHeartbeat id

theorem categoryBlocked (d : Device) (b : BlockedDomain) :
    Calls R (Services.DnsPolicy.categoryBlocked d b) := by
  unfold Services.DnsPolicy.categoryBlocked findUniqueBy
  split
  · exact .bind (calls_query h.idle _) fun _ => .pure _
  · exact .pure _

end TouchCalls

/-- The version of the address and its decisions stay, and what is new in the cache was written
now. -/
structure Quiet (ip : String) (w w' : World) : Prop where
  version : w'.cache (versionKey ip) = w.cache (versionKey ip)
  decision : ∀ v domain, w'.cache (decisionKey ip v domain) = w.cache (decisionKey ip v domain)
  now : w'.now = w.now
  entry : ∀ k e, w'.cache k = some e → w.cache k = some e ∨ e.setAt = w.now ∧ 0 < e.ttl

theorem quiet_of_cache {ip : String} {w w' : World} (h : w'.cache = w.cache)
    (hnow : w'.now = w.now) : Quiet ip w w' where
  version := by rw [h]
  decision _ _ := by rw [h]
  now := hnow
  entry k e he := .inl (by rw [← h, he])

theorem entry_set {w : World} {k k' : String} {v : CacheValue} {ttl : ℤ} {e : Entry CacheValue}
    (hpos : 0 < ttl) (he : w.cache.set w.now k v ttl k' = some e) :
    w.cache k' = some e ∨ e.setAt = w.now ∧ 0 < e.ttl := by
  by_cases hk : k' = k
  · subst hk
    rw [Cache.set_self] at he
    cases he
    exact .inr ⟨rfl, hpos⟩
  · rw [Cache.set_of_ne _ _ _ _ hk] at he
    exact .inl he

theorem quiet_aux {ip k : String} (hk : IsAux k) (v : CacheValue) {ttl : ℤ} (hpos : 0 < ttl) :
    Calls (Quiet ip) (cacheSet k v ttl) := by
  have hne : ∀ k', ¬ IsAux k' → k' ≠ k := by
    rintro k' hk' rfl
    exact hk' hk
  exact .call fun w =>
    { version := Cache.set_of_ne _ _ _ _ (hne _ (not_isAux_versionKey ip))
      decision := fun v domain => Cache.set_of_ne _ _ _ _
        (hne _ (not_isAux_decisionKey ip v domain))
      now := rfl
      entry := fun k' e he => entry_set hpos he }

theorem touchCalls_quiet (ip : String) : TouchCalls (Quiet ip) where
  refl _ := quiet_of_cache rfl rfl
  idle _ := quiet_of_cache rfl rfl
  dnsQueryLog _ _ := quiet_of_cache rfl rfl
  unknownDomainLog _ _ := quiet_of_cache rfl rfl
  device _ _ := quiet_of_cache rfl rfl
  deviceId ip' _ := quiet_aux ⟨ip', .inl rfl⟩ _ (by decide)
  heartbeat id := quiet_aux ⟨id, .inr rfl⟩ _ (by decide)

/-! ### Local states -/

/-- Where a request stands. A change has updated the database, has read a version, has written its
successor; a check has read a version, has found a decision or none under it, has looked the device
up. -/
inductive Local where
  | begun
  | updated
  | held (v : ℕ)
  | raised
  | asked
  | versioned (v : ℕ)
  | served
  | missed (v : ℕ)
  | looked (v : ℕ)

/-- The write of the version after `v`. -/
def raise (ip : String) (v : ℕ) (w : World) : World :=
  { w with cache := w.cache.set w.now (versionKey ip) (.version (v + 1)) versionTtl }

/-- What a call of a request does. -/
inductive Acts (ip : String) : Request → (World → World) → Local → World → Local → Prop
  | update {f : Database → Database} {u : World → World} {w : World}
    (hu : ∀ w, Quiet ip w (u w)) : Acts ip (.change f) u .begun w .updated
  | read {f : Database → Database} {w : World} :
    Acts ip (.change f) id .updated w (.held (versionAt w ip))
  | write {f : Database → Database} {v : ℕ} {w : World} :
    Acts ip (.change f) (raise ip v) (.held v) w .raised
  | version {domain : String} {w : World} :
    Acts ip (.check domain) id .asked w (.versioned (versionAt w ip))
  | hit {domain : String} {v : ℕ} {w : World} {r : DnsPolicyResponse}
    (hr : cachedDecision (w.cache.get w.now (decisionKey ip v domain)) = some r) :
    Acts ip (.check domain) id (.versioned v) w .served
  | miss {domain : String} {v : ℕ} {w : World} :
    Acts ip (.check domain) id (.versioned v) w (.missed v)
  | look {domain : String} {u : World → World} {v : ℕ} {w : World} (hu : ∀ w, Quiet ip w (u w))
    (hc : ∀ w, (u w).calls ≠ w.calls) : Acts ip (.check domain) u (.missed v) w (.looked v)
  | store {domain : String} {v : ℕ} {w : World} {r : DnsPolicyResponse} :
    Acts ip (.check domain) (store (decisionKey ip v domain) r) (.looked v) w (.looked v)
  | rest {domain : String} {u : World → World} {v : ℕ} {w : World} (hu : ∀ w, Quiet ip w (u w)) :
    Acts ip (.check domain) u (.looked v) w (.looked v)
  | serve {domain : String} {u : World → World} {w : World} (hu : ∀ w, Quiet ip w (u w)) :
    Acts ip (.check domain) u .served w .served

section Follows
variable {ip domain : String} {v : ℕ} {α : Type}

/-- The check has looked the device up under the version `v`. -/
def Looked (v : ℕ) (q : Local) (_ : Except Err α) : Prop := q = .looked v

theorem follows_rest {p : Api α} (h : Calls (Quiet ip) p) :
    Follows (Acts ip (.check domain)) (Looked v) p (.looked v) := by
  refine .of_calls h rfl ?_
  rintro u q w rfl hu
  exact ⟨_, .rest hu, rfl⟩

/-- After the lookup nothing leads to another local state. -/
theorem Looked.bind {β : Type} {p : Api β} {f : β → Api α} {q : Local}
    (hp : Follows (Acts ip (.check domain)) (Looked v) p q)
    (hf : ∀ b, Follows (Acts ip (.check domain)) (Looked v) (f b) (.looked v)) :
    Follows (Acts ip (.check domain)) (Looked v) (p >>= f) q := by
  refine .bind hp ?_ fun q e hq => hq
  rintro q b rfl
  exact hf b

theorem follows_store (r : DnsPolicyResponse) : Follows (Acts ip (.check domain)) (Looked v)
    (cacheSet (decisionKey ip v domain) (.decision r) decisionTtl) (.looked v) :=
  .call fun _ => ⟨_, .store, rfl⟩

theorem follows_answer (deviceId : String) (r : DnsPolicyResponse) :
    Follows (Acts ip (.check domain)) (Looked v)
      (answer (decisionKey ip v domain) domain ip deviceId r) (.looked v) :=
  Looked.bind (follows_store r) fun _ =>
    Looked.bind (follows_rest ((touchCalls_quiet ip).logQuery _ _ _)) fun _ =>
      Looked.bind (follows_rest ((touchCalls_quiet ip).touchHeartbeat _)) fun _ => .pure rfl

theorem follows_query (f : Database → ℕ → α) :
    Follows (Acts ip (.check domain)) (Looked v) (query f) (.looked v) :=
  follows_rest (calls_query (touchCalls_quiet ip).idle f)

theorem follows_checkSessionAndDomains (env : Env) (d : Device) :
    Follows (Acts ip (.check domain)) (Looked v)
      (checkSessionAndDomains env (decisionKey ip v domain) ip domain d) (.looked v) := by
  have quiet := touchCalls_quiet ip
  unfold checkSessionAndDomains findBlockedDomain findFirst findFirstBy
  refine Looked.bind (follows_query _) fun s =>
    Looked.bind (follows_rest (calls_newDate quiet.refl)) fun now =>
      .ite (fun _ => follows_answer _ _) fun _ => Looked.bind (follows_query _) fun b => ?_
  rcases b with _ | b
  · exact Looked.bind (follows_answer _ _) fun _ =>
      Looked.bind (follows_rest (quiet.recordUnknownDomain _ _ _ _)) fun _ => .pure rfl
  · exact Looked.bind (follows_rest (quiet.categoryBlocked _ _)) fun _ =>
      .ite (fun _ => follows_answer _ _) fun _ => follows_answer _ _

theorem follows_checkPolicyMiss (env : Env) : Follows (Acts ip (.check domain)) (Looked v)
    (checkPolicyMiss env (decisionKey ip v domain) ip domain) (.missed v) := by
  refine Looked.bind
    (.call fun w => ⟨_, .look (fun w => quiet_of_cache rfl rfl) (fun w => ?_), rfl⟩)
    fun d => ?_
  · exact Nat.succ_ne_self w.calls
  rcases d with _ | d
  · exact Looked.bind (follows_store _) fun _ =>
      Looked.bind (follows_rest ((touchCalls_quiet ip).logQuery _ _ _)) fun _ => .pure rfl
  · exact Looked.bind (follows_rest ((touchCalls_quiet ip).deviceId _ _)) fun _ =>
      .ite (fun _ => follows_answer _ _) fun _ => .ite (fun _ => follows_answer _ _) fun _ =>
        .ite (fun _ => follows_answer _ _) fun _ => follows_checkSessionAndDomains env d

end Follows

/-- How requests move. -/
def protocol (ip : String) : Protocol Request World Err (Option DnsPolicyResponse) Local where
  init
    | .change _ => .begun
    | .check _ => .asked
  step := Acts ip
  ends
    | .change _, q, _ => q = .raised
    | .check _, q, _ => q = .served ∨ ∃ v, q = .looked v

theorem follows_change {ip : String} (hip : ip ≠ "") (env : Env) (f : Database → Database) :
    Follows ((protocol ip).step (.change f)) ((protocol ip).ends (.change f))
      ((Request.change f).prog env ip) .begun := by
  have hraise : (invalidateSourceIps [some ip] : Api Unit) = (do
      let current ← getVersion ip
      cacheSet (versionKey ip) (.version (current + 1)) versionTtl
      pure ()) := by
    simp [invalidateSourceIps, Prog.forEach, invalidateSourceIp, hip, Prog.bind_assoc]
  rw [Request.prog, hraise]
  exact fun w => ⟨_, .update fun _ => quiet_of_cache rfl rfl,
    fun w => ⟨_, .read, fun w => ⟨_, .write, rfl⟩⟩⟩

theorem follows_check (ip domain : String) (env : Env) :
    Follows ((protocol ip).step (.check domain)) ((protocol ip).ends (.check domain))
      ((Request.check domain).prog env ip) .asked := by
  have ends : ∀ {α : Type} {v : ℕ} {p : Api α},
      Follows (Acts ip (.check domain)) (Looked v) p (.missed v) →
      Follows (Acts ip (.check domain)) (fun q _ => q = .served ∨ ∃ v, q = .looked v) p
        (.missed v) :=
    fun h => h.mono fun q _ hq => .inr ⟨_, hq⟩
  have hserve : ∀ {α : Type} {p : Api α}, Calls (Quiet ip) p →
      Follows (Acts ip (.check domain)) (fun q (_ : Except Err α) => q = .served) p .served := by
    intro α p hp
    refine .of_calls hp rfl ?_
    rintro u q w rfl hu
    exact ⟨_, .serve hu, rfl⟩
  refine .bind (F := fun q _ => q = .served ∨ ∃ v, q = .looked v) ?_ (fun q r hq => .pure hq)
    fun q e hq => hq
  intro w
  have hversion : versionOf (w.cache.get w.now (versionKey ip)) = versionAt w ip := rfl
  refine ⟨_, .version, fun w' => ?_⟩
  rcases hc : cachedDecision
    (w'.cache.get w'.now (decisionKey ip (versionAt w ip) domain)) with _ | r
  · refine ⟨_, .miss, ?_⟩
    dsimp only [Prog.bind]
    rw [hversion, hc]
    exact ends (follows_checkPolicyMiss env)
  · refine ⟨_, .hit hc, ?_⟩
    dsimp only [Prog.bind]
    rw [hversion, hc]
    refine .bind (hserve ((touchCalls_quiet ip).touchKnownDevice ip)) ?_ fun q e hq => .inl hq
    rintro q b rfl
    exact .pure (.inl rfl)

theorem follows_prog {ip : String} (hip : ip ≠ "") (env : Env) (i : ℕ) (r : Request) :
    Follows ((protocol ip).step r) ((protocol ip).ends r) (body env ip i r)
      ((protocol ip).init r) := by
  cases r with
  | change f => exact follows_change hip env f
  | check domain => exact follows_check ip domain env

/-! ### Versions and decisions in the cache -/

/-- The cache without expired entries. -/
def Live (w : World) : Prop := ∀ k e, w.cache k = some e → e.Live w.now

section Cache
variable {ip domain : String} {v : ℕ} {w w' : World} {r : DnsPolicyResponse}

theorem Live.get (h : Live w) (k : String) :
    w.cache.get w.now k = (w.cache k).map Entry.value := by
  unfold Cache.get
  rcases he : w.cache k with _ | e
  · rfl
  · simp [h k e he]

theorem Live.versionAt_eq (h : Live w) :
    versionAt w ip = versionOf ((w.cache (versionKey ip)).map Entry.value) := by
  rw [versionAt, h.get]

theorem versionAt_congr (h : Live w) (h' : Live w')
    (hc : w'.cache (versionKey ip) = w.cache (versionKey ip)) :
    versionAt w' ip = versionAt w ip := by
  rw [h'.versionAt_eq, hc, h.versionAt_eq]

theorem raise_self (ip : String) (v : ℕ) (w : World) : (raise ip v w).cache (versionKey ip) =
    some ⟨.version (v + 1), w.now, versionTtl⟩ := Cache.set_self ..

theorem raise_decision (ip : String) (v : ℕ) (w : World) (v' : ℕ) (domain : String) :
    (raise ip v w).cache (decisionKey ip v' domain) = w.cache (decisionKey ip v' domain) :=
  Cache.set_of_ne w.cache w.now (.version (v + 1)) versionTtl
    (decisionKey_ne_versionKey ip v' domain ip)

theorem versionAt_raise (h : Live (raise ip v w)) : versionAt (raise ip v w) ip = v + 1 := by
  rw [h.versionAt_eq, raise_self]
  rfl

theorem store_self (key : String) (r : DnsPolicyResponse) (w : World) :
    (store key r w).cache key = some ⟨.decision r, w.now, decisionTtl⟩ := Cache.set_self ..

theorem store_of_ne {key k : String} (h : k ≠ key) (r : DnsPolicyResponse) (w : World) :
    (store key r w).cache k = w.cache k := Cache.set_of_ne _ _ _ _ h

/-- A call that leaves an empty cache empty under the key is not the write of a decision. -/
theorem ne_store {key : String} {u : World → World}
    (h : ∀ w, w.cache = .empty → (u w).cache key = none) (r : DnsPolicyResponse) :
    u ≠ store key r := by
  rintro rfl
  have hnone := h (.fresh Database.empty 0) rfl
  rw [store_self] at hnone
  cases hnone

theorem id_ne_store (key : String) (r : DnsPolicyResponse) : id ≠ store key r := by
  refine ne_store (fun w hw => ?_) r
  rw [id, hw]
  rfl

theorem quiet_ne_store {u : World → World} (hu : ∀ w, Quiet ip w (u w)) (v : ℕ) (domain : String)
    (r : DnsPolicyResponse) : u ≠ store (decisionKey ip v domain) r := by
  refine ne_store (fun w hw => ?_) r
  rw [(hu w).decision, hw]
  rfl

/-- For one address the version ends at the first colon. -/
theorem decisionKey_inj {v' : ℕ} {domain' : String}
    (h : decisionKey ip v domain = decisionKey ip v' domain') : v = v' ∧ domain = domain' := by
  have hcut : ∀ v domain, (decisionKey ip v domain).toList =
      ("dns:" ++ ip ++ ":").toList ++ ((toString v).toList ++ ':' :: domain.toList) := by
    intro v domain
    simp [decisionKey]
  have hlists := congrArg String.toList h
  rw [hcut, hcut] at hlists
  have hrev := congrArg List.reverse (List.append_cancel_left hlists)
  simp only [List.reverse_append, List.reverse_cons, List.append_assoc,
    List.singleton_append] at hrev
  have hdigits : ∀ v : ℕ, ':' ∉ (toString v).toList.reverse := by
    intro v hv
    exact notMem_toString (by decide) v (List.mem_reverse.mp hv)
  obtain ⟨hd, hv⟩ := eq_of_cut (hdigits v) (hdigits v') hrev
  exact ⟨toString_nat_injective (String.toList_inj.mp (List.reverse_injective hv)),
    String.toList_inj.mp (List.reverse_injective hd)⟩

/-- Only a check that has looked the device up caches a decision, its own. -/
theorem acts_store {req : Request} {u : World → World} {q q' : Local}
    (ha : Acts ip req u q w q') (hu : u = store (decisionKey ip v domain) r) :
    req = .check domain ∧ q = .looked v ∧ q' = .looked v := by
  cases ha with
  | update hu' => exact absurd hu (quiet_ne_store hu' v domain r)
  | read => exact absurd hu (id_ne_store _ r)
  | write =>
    refine absurd hu (ne_store (fun w hw => ?_) r)
    rw [raise_decision, hw]
    rfl
  | version => exact absurd hu (id_ne_store _ r)
  | hit hr => exact absurd hu (id_ne_store _ r)
  | miss => exact absurd hu (id_ne_store _ r)
  | look hu' => exact absurd hu (quiet_ne_store hu' v domain r)
  | @store domain' v' _ r' =>
    have hkey : decisionKey ip v' domain' = decisionKey ip v domain := by
      by_contra hne
      refine absurd hu (ne_store (fun w hw => ?_) r)
      rw [store_of_ne (Ne.symm hne), hw]
      rfl
    obtain ⟨rfl, rfl⟩ := decisionKey_inj hkey
    exact ⟨rfl, rfl, rfl⟩
  | rest hu' => exact absurd hu (quiet_ne_store hu' v domain r)
  | serve hu' => exact absurd hu (quiet_ne_store hu' v domain r)

/-- What a call does to the version: nothing, or it is the write of a change. -/
theorem acts_version {req : Request} {u : World → World} {q q' : Local}
    (ha : Acts ip req u q w q') : (u w).cache (versionKey ip) = w.cache (versionKey ip) ∨
      ∃ f v, req = .change f ∧ q = .held v ∧ u = raise ip v := by
  cases ha with
  | update hu => exact .inl (hu w).version
  | read => exact .inl rfl
  | @write f v => exact .inr ⟨f, v, rfl, rfl, rfl⟩
  | version => exact .inl rfl
  | hit hr => exact .inl rfl
  | miss => exact .inl rfl
  | look hu hc => exact .inl (hu w).version
  | store => exact .inl (store_of_ne (decisionKey_ne_versionKey ip _ _ ip).symm _ w)
  | rest hu => exact .inl (hu w).version
  | serve hu => exact .inl (hu w).version

end Cache

/-- What a call does to a decision: nothing, or it is the write of it. -/
theorem acts_decision {ip : String} {req : Request} {u : World → World} {q q' : Local} {w : World}
    (ha : Acts ip req u q w q') (v : ℕ) (domain : String) :
    (u w).cache (decisionKey ip v domain) = w.cache (decisionKey ip v domain) ∨
      ∃ r, u = store (decisionKey ip v domain) r := by
  cases ha with
  | update hu => exact .inl ((hu w).decision v domain)
  | read => exact .inl rfl
  | write => exact .inl (raise_decision ..)
  | version => exact .inl rfl
  | hit hr => exact .inl rfl
  | miss => exact .inl rfl
  | look hu hc => exact .inl ((hu w).decision v domain)
  | @store domain' v' _ r =>
    by_cases hkey : decisionKey ip v domain = decisionKey ip v' domain'
    · exact .inr ⟨r, by rw [hkey]⟩
    · exact .inl (store_of_ne hkey r w)
  | rest hu => exact .inl ((hu w).decision v domain)
  | serve hu => exact .inl ((hu w).decision v domain)

/-- Every call leaves the clock alone, and what is new in the cache was written now. -/
theorem acts_entry {ip : String} {req : Request} {u : World → World} {q q' : Local} {w : World}
    (ha : Acts ip req u q w q') : (u w).now = w.now ∧
      ∀ k e, (u w).cache k = some e → w.cache k = some e ∨ e.setAt = w.now ∧ 0 < e.ttl := by
  have hquiet : Quiet ip w (u w) → _ := fun h => And.intro h.now h.entry
  cases ha with
  | update hu => exact hquiet (hu w)
  | read => exact ⟨rfl, fun _ _ => .inl⟩
  | write => exact ⟨rfl, fun k e he => entry_set (by decide) he⟩
  | version => exact ⟨rfl, fun _ _ => .inl⟩
  | hit => exact ⟨rfl, fun _ _ => .inl⟩
  | miss => exact ⟨rfl, fun _ _ => .inl⟩
  | look hu hc => exact hquiet (hu w)
  | store => exact ⟨rfl, fun k e he => entry_set (by decide) he⟩
  | rest hu => exact hquiet (hu w)
  | serve hu => exact hquiet (hu w)

/-- A check that has read the version `v`. -/
def Under (v : ℕ) : Local → Prop
  | .versioned v' | .missed v' | .looked v' => v' = v
  | _ => False

/-- A check comes under a version by reading it. -/
theorem acts_under {ip : String} {v : ℕ} {req : Request} {u : World → World} {q q' : Local}
    {w : World} (ha : Acts ip req u q w q') (hq : ¬ Under v q) (hq' : Under v q') :
    q = .asked ∧ u = id ∧ versionAt w ip = v := by
  cases ha with
  | version => exact ⟨rfl, rfl, hq'⟩
  | miss => exact absurd hq' hq
  | look => exact absurd hq' hq
  | store => exact absurd hq' hq
  | rest => exact absurd hq' hq
  | _ => exact hq'.elim

/-! ### Along a run -/

section Run
variable {ip : String} {pool : ℕ → Requests} {moves : ℕ → Move Request World}
  {g : ℕ → Locals Request Local} (h : (protocol ip).Traces pool moves g)
include h

theorem acts_of_makes {i n : ℕ} {u : World → World} (hm : Makes pool moves i n u) :
    ∃ req q q', g n i = some (req, q) ∧ Acts ip req u q (pool n).state q' ∧
      (pool (n + 1)).state = u (pool n).state ∧ g (n + 1) i = some (req, q') := h.of_makes hm

/-- A change that is about to write has read the version with the call before and updated the
database with its first. -/
theorem held_at {i n : ℕ} {f : Database → Database} {v : ℕ} (hg : g n i = some (.change f, .held v))
    (hn : Called pool moves i n) : ∃ u r, First pool moves i u ∧ Next pool moves i u r ∧
      Next pool moves i r n ∧ v = versionAt (pool r).state ip := by
  obtain ⟨r, u, q, hr, hgr, hstep, -, hnext⟩ := h.entered_by_last hg (by rintro ⟨⟩)
    (by rintro u s ⟨⟩) hn
  cases hstep
  obtain ⟨b, u', q', hb, hgb, hstep', -, hnext'⟩ := h.entered_by_last hgr (by rintro ⟨⟩)
    (by rintro u s ⟨⟩) ⟨_, hr⟩
  cases hstep'
  refine ⟨b, r, ⟨⟨_, hb⟩, fun m hm => ?_⟩, hnext', hnext, rfl⟩
  exact h.not_called_of_init (by rintro u q s ⟨⟩) hgb hm

variable (hu : Undisturbed pool moves)
include hu

omit h in
theorem live (n : ℕ) : Live (pool n).state := hu.live n

/-- **A version never goes back.** -/
theorem version_step (ho : Orderly ip pool moves) (n : ℕ) :
    versionAt (pool n).state ip ≤ versionAt (pool (n + 1)).state ip := by
  have hcongr := fun hc => (@versionAt_congr ip _ _ (live hu n) (live hu (n + 1)) hc).ge
  rcases hm : moves n with t | i | f
  · exact hcongr (by rw [h.start_state hm])
  · by_cases hc : Called pool moves i n
    · obtain ⟨u, hu'⟩ := hc
      obtain ⟨req, q, q', hg, hact, hs, -⟩ := acts_of_makes h hu'
      rcases acts_version hact with hsame | ⟨f, v, rfl, rfl, rfl⟩
      · exact hcongr (by rw [hs, hsame])
      · obtain ⟨b, r, hb, hr, hn, rfl⟩ := held_at h hg ⟨_, hu'⟩
        have hle := ho.abreast i f b r n ((h.fits n).tag hg) hb hr hn
        have hlive := live hu (n + 1)
        rw [hs] at hlive ⊢
        rw [versionAt_raise hlive]
        exact hle
    · exact hcongr (by rw [h.idle_state hm hc])
  · exact hcongr (by rw [h.other_state hm, hu.other n f hm])

theorem version_mono (ho : Orderly ip pool moves) {m n : ℕ} (hmn : m ≤ n) :
    versionAt (pool m).state ip ≤ versionAt (pool n).state ip := by
  induction n, hmn using Nat.le_induction with
  | base => exact le_rfl
  | succ n hmn ih => exact ih.trans (version_step h hu ho n)

omit hu in
theorem called_of_queries {i n : ℕ} (hq : Queries pool moves i n) : Called pool moves i n := by
  by_contra hn
  exact hq.2 (by rw [h.idle_state hq.1 hn])

omit hu in
/-- A check that has looked the device up under `v` has read that version with its first call and
called the database only later. -/
theorem looked_at {i n : ℕ} {domain : String} {v : ℕ}
    (hg : g n i = some (.check domain, .looked v)) :
    ∃ b, versionAt (pool b).state ip = v ∧ ∀ l, Queries pool moves i l → b < l := by
  obtain ⟨b, hbn, u, q, q', hb, hgb, hq, hstep, hs, hgb', hall⟩ :=
    h.entered (P := Under v) hg rfl (by rintro ⟨⟩)
  obtain ⟨q'', hq'', hunder⟩ := hall (b + 1) (by omega) (by omega)
  rw [hgb'] at hq''
  cases hq''
  obtain ⟨rfl, rfl, rfl⟩ := acts_under hstep hq hunder
  refine ⟨b, rfl, fun l hl => ?_⟩
  have hne : l ≠ b := by
    rintro rfl
    exact hl.2 (by rw [hs, id])
  have hge : ¬ l < b := fun hlt =>
    h.not_called_of_init (by rintro u q s ⟨⟩) hgb hlt (called_of_queries h hl)
  omega

omit hu in
/-- A request that has cached a decision under `v` has read that version before it called the
database. -/
theorem stores_at {i n : ℕ} {domain : String} {v : ℕ}
    (hst : Stores pool moves (decisionKey ip v domain) i n) :
    ∃ b, versionAt (pool b).state ip = v ∧ ∀ l, Queries pool moves i l → b < l := by
  obtain ⟨r, hr⟩ := hst
  obtain ⟨req, q, q', hg, hact, -, -⟩ := acts_of_makes h hr
  obtain ⟨rfl, rfl, rfl⟩ := acts_store hact rfl
  exact looked_at h hg

/-- A change that has returned read the version after its update, and the version is greater
since. -/
theorem returned_at {i u a : ℕ} {f : Database → Database} (ho : Orderly ip pool moves)
    (htag : (pool a).tag i = some (.change f)) (hf : First pool moves i u)
    (hr : (pool a).result i ≠ none) : ∃ r, u < r ∧ r < a ∧ ∀ n, a ≤ n →
      versionAt (pool r).state ip < versionAt (pool n).state ip := by
  obtain ⟨res, hres⟩ := Option.ne_none_iff_exists'.mp hr
  obtain ⟨req, q, htag', hg, hends⟩ := (h.fits a).of_result hres
  rw [htag] at htag'
  cases htag'
  obtain rfl : q = .raised := hends
  obtain ⟨n, hna, u', q, q', hn, hgn, hq, hstep, hs, hgn', hall⟩ :=
    h.entered (P := (· = .raised)) hg rfl (by rintro ⟨⟩)
  obtain ⟨q'', hq'', rfl⟩ := hall (n + 1) (by omega) (by omega)
  rw [hgn'] at hq''
  cases hq''
  cases hstep with
  | @write _ v =>
    obtain ⟨u₁, r, hu₁, hur, hrn, rfl⟩ := held_at h hgn ⟨_, hn⟩
    obtain rfl := hf.unique hu₁
    refine ⟨r, hur.2.1, by have := hrn.2.1; omega, fun n' hn' => ?_⟩
    have hlive := live hu (n + 1)
    have hmono := version_mono h hu ho (show n + 1 ≤ n' by omega)
    rw [hs] at hlive hmono
    rw [versionAt_raise hlive] at hmono
    omega

omit hu in
/-- A check that has looked the device up has called the database to do so. -/
theorem queries_of_looked {i n : ℕ} {domain : String} {v : ℕ}
    (hg : g n i = some (.check domain, .looked v)) : ∃ l < n, Queries pool moves i l := by
  obtain ⟨l, hln, u, q, q', hl, hgl, hq, hstep, hs, hgl', hall⟩ :=
    h.entered (P := (· = .looked v)) hg rfl (by rintro ⟨⟩)
  obtain ⟨q'', hq'', rfl⟩ := hall (l + 1) (by omega) (by omega)
  rw [hgl'] at hq''
  cases hq''
  refine ⟨l, hln, hl.1, ?_⟩
  cases hstep with
  | look hu hc =>
    rw [hs]
    exact hc _
  | store => exact absurd rfl hq
  | rest => exact absurd rfl hq

/-- Every cached decision has an author. -/
theorem exists_author (hcache : (pool 0).state.cache = .empty) {v : ℕ} {domain : String} {n : ℕ}
    (hn : (pool n).state.cache (decisionKey ip v domain) ≠ none) :
    ∃ i m, Author pool moves (decisionKey ip v domain) n i m := by
  induction n with
  | zero =>
    rw [hcache] at hn
    exact absurd rfl hn
  | succ n ih =>
    by_cases hst : ∃ i, Stores pool moves (decisionKey ip v domain) i n
    · obtain ⟨i, hi⟩ := hst
      exact ⟨i, n, by omega, hi, fun m hm hlt => by omega⟩
    have hsame : (pool (n + 1)).state.cache (decisionKey ip v domain) =
        (pool n).state.cache (decisionKey ip v domain) := by
      rcases hm : moves n with t | i | f
      · rw [h.start_state hm]
      · by_cases hc : Called pool moves i n
        · obtain ⟨u, hu'⟩ := hc
          obtain ⟨req, q, q', hg, hact, hs, -⟩ := acts_of_makes h hu'
          rw [hs]
          rcases acts_decision hact v domain with hsame | ⟨r, rfl⟩
          · exact hsame
          · exact absurd ⟨i, r, hu'⟩ hst
        · rw [h.idle_state hm hc]
      · rw [h.other_state hm, hu.other n f hm]
    rw [hsame] at hn
    obtain ⟨i, m, hmn, hi, hlast⟩ := ih hn
    refine ⟨i, m, by omega, hi, fun m' hm' hlt j hj => ?_⟩
    by_cases hmn' : m' = n
    · subst hmn'
      exact hst ⟨j, hj⟩
    · exact hlast m' hm' (by omega) j hj

/-- The answer of a check rests on some database call. -/
theorem exists_origin (hcache : (pool 0).state.cache = .empty) {j c : ℕ} {domain : String}
    (htag : (pool c).tag j = some (.check domain)) (hr : (pool c).result j ≠ none) :
    ∃ l, Origin ip pool moves j domain l := by
  obtain ⟨res, hres⟩ := Option.ne_none_iff_exists'.mp hr
  obtain ⟨req, q, htag', hg, hends⟩ := (h.fits c).of_result hres
  rw [htag] at htag'
  cases htag'
  rcases hends with rfl | ⟨v, rfl⟩
  · obtain ⟨n, hnc, u, q, q', hn, hgn, hq, hstep, hs, hgn', hall⟩ :=
      h.entered (P := (· = .served)) hg rfl (by rintro ⟨⟩)
    obtain ⟨q'', hq'', rfl⟩ := hall (n + 1) (by omega) (by omega)
    rw [hgn'] at hq''
    cases hq''
    cases hstep with
    | @hit _ v _ r hr =>
      obtain ⟨b, u, q, hb, hgb, hstep, -, hnext⟩ := h.entered_by_last hgn (by rintro ⟨⟩)
        (by rintro u s ⟨⟩) ⟨_, hn⟩
      cases hstep
      have hfirst : First pool moves j b :=
        ⟨⟨_, hb⟩, fun m hm => h.not_called_of_init (by rintro u q s ⟨⟩) hgb hm⟩
      have hentry : (pool n).state.cache
          (decisionKey ip (versionAt (pool b).state ip) domain) ≠ none := by
        intro hnone
        rw [(live hu n).get, hnone] at hr
        cases hr
      obtain ⟨i, m, hauthor⟩ := exists_author h hu hcache hentry
      obtain ⟨r', hr'⟩ := hauthor.2.1
      obtain ⟨req, q, q', hgm, hact, -, -⟩ := acts_of_makes h hr'
      obtain ⟨rfl, rfl, rfl⟩ := acts_store hact rfl
      obtain ⟨l, hl, hq⟩ := queries_of_looked h hgm
      exact ⟨l, .inr ⟨n, _, i, m, ⟨b, hfirst, hnext, rfl⟩, hauthor, hl, hq⟩⟩
    | serve => exact absurd rfl hq
  · obtain ⟨l, -, hl⟩ := queries_of_looked h hg
    exact ⟨l, .inl hl⟩

/-- **No old decision** in an orderly run. -/
theorem neverStale_of_orderly (hcache : (pool 0).state.cache = .empty)
    (ho : Orderly ip pool moves) : NeverStale ip pool moves := by
  intro i f u a htag hf hr j domain c hj htagj hrj
  refine ⟨exists_origin h hu hcache htagj hrj, fun l hl => ?_⟩
  obtain ⟨r, hur, hra, hgt⟩ := returned_at h hu ho htag hf hr
  have hnone : g a j = none := (h.fits a).none j (by simpa [Pool.prog] using hj)
  have hstart : ∀ n, Called pool moves j n → a < n := by
    intro n hn
    by_contra hle
    exact h.not_called_of_none hnone (by omega) hn
  rcases hl with hl | ⟨n, key, i', m, ⟨b, hb, hbn, rfl⟩, ⟨hm, hst, -⟩, -, hq⟩
  · have hal := hstart l (called_of_queries h hl)
    omega
  · obtain ⟨b', hb', hafter⟩ := stores_at h hst
    have hab := hstart b hb.1
    have hlow : ¬ b' ≤ r := by
      intro hle
      have hmono := version_mono h hu ho hle
      have hlt := hgt b hab.le
      omega
    have hlate := hafter l hq
    omega

end Run

/-- **Overlapping invalidations.** While no change is overtaken by more than one other between its
two cache calls, no check that starts after a change returns a decision from before it. -/
theorem after_change (env : Env) (ip : String) (w : World) (moves : ℕ → Move Request World)
    (hcache : w.cache = .empty)
    (hu : Undisturbed ((Pool.idle w).after (body env ip) moves) moves)
    (ho : Orderly ip ((Pool.idle w).after (body env ip) moves) moves) :
    NeverStale ip ((Pool.idle w).after (body env ip) moves) moves := by
  obtain ⟨g, hg⟩ := Protocol.exists_locals (follows_prog ho.named env) w moves
  exact neverStale_of_orderly hg hu hcache ho

/-! ### Finite runs -/

/-- While the clock stands still nothing expires. -/
theorem undisturbed_of_still {env : Env} {ip : String} {w : World} {moves : ℕ → Move Request World}
    (hip : ip ≠ "") (hcache : w.cache = .empty) (hother : ∀ n f, moves n ≠ .other f) :
    Undisturbed ((Pool.idle w).after (body env ip) moves) moves := by
  obtain ⟨g, hg⟩ := Protocol.exists_locals (follows_prog hip env) w moves
  have hinv : ∀ n, ((Pool.idle w).after (body env ip) moves n).state.now = w.now ∧
      ∀ k e, ((Pool.idle w).after (body env ip) moves n).state.cache k = some e →
        e.setAt = w.now ∧ 0 < e.ttl := by
    intro n
    induction n with
    | zero =>
      refine ⟨rfl, fun k e he => ?_⟩
      change w.cache k = some e at he
      rw [hcache] at he
      cases he
    | succ n ih =>
      rcases hm : moves n with t | i | f
      · rw [hg.start_state hm]
        exact ih
      · by_cases hc : Called ((Pool.idle w).after (body env ip) moves) moves i n
        · obtain ⟨u, hu⟩ := hc
          obtain ⟨req, q, q', -, hact, hs, -⟩ := acts_of_makes hg hu
          obtain ⟨hnow, hentry⟩ := acts_entry hact
          rw [hs, hnow]
          refine ⟨ih.1, fun k e he => ?_⟩
          rcases hentry k e he with hold | ⟨hset, hpos⟩
          · exact ih.2 k e hold
          · exact ⟨hset.trans ih.1, hpos⟩
        · rw [hg.idle_state hm hc]
          exact ih
      · exact absurd hm (hother n f)
  refine ⟨fun n k e he => ?_, fun n f hf => absurd hf (hother n f)⟩
  obtain ⟨hset, hpos⟩ := (hinv n).2 k e he
  rw [Entry.Live, hset, (hinv n).1]
  exact lt_add_of_pos_right _ hpos

/-- The tablet is locked or unlocked. -/
def lock (locked : Bool) : Request := .change fun _ => Versions.tablet locked

/-- The requests of a schedule for the tablet, which is unlocked at first. -/
def run (ms : List (Move Request World)) : ℕ → Requests :=
  (Pool.idle (.fresh (Versions.tablet false) 0)).after (body .plain "10.0.0.5") (schedule ms)

/-- The tablet is locked and then checked. -/
def inTurn : List (Move Request World) :=
  ([.start (lock true), .call 0, .call 0, .call 0, .start (.check "example.org")] :
    List (Move Request World)) ++ (List.replicate 10 (.call 1) : List (Move Request World))

/-- Two unlocks read the version together. A check caches its answer under the version of the first,
the lock raises the version, and the second unlock takes it back. -/
def overtaken : List (Move Request World) :=
  ([.start (lock false), .start (lock false), .call 0, .call 0, .call 1, .call 1, .call 0,
    .start (.check "example.org")] : List (Move Request World)) ++
  (List.replicate 8 (.call 2) : List (Move Request World)) ++
  ([.start (lock true), .call 3, .call 3, .call 3, .call 1, .start (.check "example.org")] :
    List (Move Request World)) ++
  (List.replicate 7 (.call 4) : List (Move Request World))

theorem after_change_in_turn :
    (∃ l, Origin "10.0.0.5" (run inTurn) (schedule inTurn) 1 "example.org" l) ∧
      ∀ l, Origin "10.0.0.5" (run inTurn) (schedule inTurn) 1 "example.org" l → 1 < l := by
  have hversion : ∀ n, versionAt (run inTurn n).state "10.0.0.5" ≤ 1 := by
    have hshort : ∀ n ≤ inTurn.length, versionAt (run inTurn n).state "10.0.0.5" ≤ 1 := by
      decide +kernel
    intro n
    rcases Nat.le_total n inTurn.length with hn | hn
    · exact hshort n hn
    · rw [run, state_of_le hn]
      exact hshort _ le_rfl
  have horderly : Orderly "10.0.0.5" (run inTurn) (schedule inTurn) :=
    ⟨by decide, fun i f u r n _ _ _ _ => (hversion n).trans (Nat.le_add_left _ _)⟩
  have hfirst : First (run inTurn) (schedule inTurn) 0 1 := by
    refine ⟨⟨_, rfl, _, rfl⟩, fun m hm => not_called_of_isCall ?_⟩
    obtain rfl : m = 0 := by omega
    rfl
  have hstill := @schedule_ne_other _ _ inTurn (by simp [inTurn])
  exact after_change .plain "10.0.0.5" (.fresh (Versions.tablet false) 0) (schedule inTurn) rfl
    (undisturbed_of_still (by decide) rfl hstill) horderly 0 _ 1 4 rfl hfirst (by decide +kernel) 1
    "example.org" 15 rfl rfl (by decide +kernel)

/-- After the lock the check finds the decision that was made before it. -/
theorem overtaken_origin :
    Origin "10.0.0.5" (run overtaken) (schedule overtaken) 4 "example.org" 10 := by
  have hfirst : First (run overtaken) (schedule overtaken) 4 22 := by
    refine ⟨⟨_, rfl, _, rfl⟩, fun m hm => not_called_of_isCall ?_⟩
    have hall : ∀ m < 22, (schedule overtaken m).isCall 4 = false := by decide +kernel
    exact hall m hm
  have hlooks : LooksFor "10.0.0.5" (run overtaken) (schedule overtaken) 4 "example.org" 23
      (decisionKey "10.0.0.5" 1 "example.org") := by
    refine ⟨22, hfirst, ⟨⟨_, rfl, _, rfl⟩, by omega, fun m hm hlt => by omega⟩, ?_⟩
    have hversion : versionAt (run overtaken 22).state "10.0.0.5" = 1 := by decide +kernel
    rw [hversion]
  have hip : "10.0.0.5" ≠ "" := by decide
  obtain ⟨g, hg⟩ := Protocol.exists_locals (follows_prog hip .plain)
    (.fresh (Versions.tablet false) 0) (schedule overtaken)
  -- in between only changes make calls, and the check that reads the version
  have hothers : ∀ m, 15 < m → m < 23 → ∀ j,
      ¬ Stores (run overtaken) (schedule overtaken)
        (decisionKey "10.0.0.5" 1 "example.org") j m := by
    rintro m hm hlt j ⟨r, hj⟩
    obtain ⟨req, q, q', hgj, hact, -, -⟩ := acts_of_makes hg hj
    obtain ⟨rfl, rfl, rfl⟩ := acts_store hact rfl
    have htag := (hg.fits m).tag hgj
    have hcall := hj.1
    interval_cases m
    · cases hcall
    · cases hcall
      cases htag
    · cases hcall
      cases htag
    · cases hcall
      cases htag
    · cases hcall
      cases htag
    · cases hcall
    · cases hcall
      have hasked := hg.init_of_not_called hfirst.2 hgj
      cases hasked
  exact .inr ⟨23, _, 2, 15, hlooks, ⟨by omega, ⟨_, rfl, _, rfl⟩, hothers⟩, by omega, rfl,
    by decide +kernel⟩

theorem overtaken_stale : ¬ ∀ (env : Env) (ip : String) (w : World)
    (moves : ℕ → Move Request World), ip ≠ "" → w.cache = .empty →
    Undisturbed ((Pool.idle w).after (body env ip) moves) moves →
    NeverStale ip ((Pool.idle w).after (body env ip) moves) moves := by
  intro h
  have hstill := @schedule_ne_other _ _ overtaken (by simp [overtaken])
  have hstale := h .plain "10.0.0.5" (.fresh (Versions.tablet false) 0) (schedule overtaken)
    (by decide) rfl (undisturbed_of_still (by decide) rfl hstill)
  have hfirst : First (run overtaken) (schedule overtaken) 3 17 := by
    refine ⟨⟨_, rfl, _, rfl⟩, fun m hm => not_called_of_isCall ?_⟩
    have hall : ∀ m < 17, (schedule overtaken m).isCall 3 = false := by decide +kernel
    exact hall m hm
  obtain ⟨-, hlate⟩ := hstale 3 _ 17 20 rfl hfirst (by decide +kernel) 4 "example.org" 29 rfl rfl
    (by decide +kernel)
  have hlt := hlate 10 overtaken_origin
  omega

end GuardTime.Dns.Races
