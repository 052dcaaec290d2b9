import Mathlib.Tactic
import GuardTime.Services.DnsPolicy

/-! # What the DNS engine decides

`verdict` is the decision as a function of the database, the time and the answers of the unordered
queries. `checkPolicyMiss_fst` says that a `checkPolicy` that misses the cache returns it: the
writes on the way (cache, query log, heartbeat, unknown domains) never change the answer. -/

namespace GuardTime.Dns.Engine

open GuardTime.Lib.Program GuardTime.Lib.Keyed GuardTime.Lib.Js GuardTime.Schema GuardTime.Server
open GuardTime.Prisma GuardTime.Services.DnsPolicy

/-! ### The decision as a function -/

/-- The device the address is looked up as. -/
def lookup (db : Database) (n : ℕ) (sourceIp : String) : Option Device :=
  (matching .device db n (holds sourceIp)).head?

/-- The sessions the engine looks at. -/
def isCurrent (deviceId : String) (s : Session) : Bool :=
  s.deviceId = deviceId && s.status ∈ [.active, .paused]

/-- The latest running session of the device. -/
def currentSession (db : Database) (n : ℕ) (deviceId : String) : Option Session :=
  ((matching .session db n (isCurrent deviceId)).insertionSort
    fun s s' => decide (s'.startedAt ≤ s.startedAt)).head?

/-- The blocked domain the name falls under. -/
def blockedDomain (env : Env) (db : Database) (n : ℕ) (domain : String) : Option BlockedDomain :=
  (matching .blockedDomain db n fun b => b.domain ∈ candidates (normalize env domain)).head?

/-- The child of the device has the domain's category blocked. -/
def childBlocks (db : Database) (device : Device) (b : BlockedDomain) : Bool :=
  match b.category, device.childId.filter (· ≠ "") with
  | some category, some childId =>
    (db.categoryBlocks.rows.find? fun r => r.childId = childId && r.category = category).any
      CategoryBlock.active
  | _, _ => false

/-- The decision by the domain alone. -/
def domainVerdict (env : Env) (db : Database) (n : ℕ) (domain : String) (device : Device) :
    DnsPolicyResponse :=
  match blockedDomain env db n domain with
  | none => allowResponse
  | some b =>
    if childBlocks db device b then blockResponse .categoryBlocked (some b.category)
    else blockResponse .domainBlocked

/-- The decision for a device; `n` and `n'` order the sessions and the blocked domains. -/
def deviceVerdict (env : Env) (db : Database) (now : Time) (n n' : ℕ) (domain : String)
    (device : Device) : DnsPolicyResponse :=
  if env.strictMode && isStrictDohDomain env domain then blockResponse .strictModeDoh (some none)
  else if device.internetLocked then blockResponse .fullInternetLock (some none)
  else if device.status = .blocked then blockResponse .manualBlock
  else if (currentSession db n device.id).any (exhausted now) then
    blockResponse .timeLimitExceeded
  else domainVerdict env db n' domain device

/-- The decision; `tape` gives the order of each unordered answer. -/
def verdict (env : Env) (db : Database) (now : Time) (tape : ℕ → ℕ) (sourceIp domain : String) :
    DnsPolicyResponse :=
  match lookup db (tape 0) sourceIp with
  | none => allowResponse
  | some device => deviceVerdict env db now (tape 1) (tape 2) domain device

/-- The part of the world's tape the next queries read. -/
def upcoming (w : World) (i : ℕ) : ℕ := w.tape (w.calls + i)

/-! ### The writes on the way -/

theorem yields_touchHeartbeat (deviceId : String) : Prog.Yields () (touchHeartbeat deviceId) := by
  refine .read_bind fun v => ?_
  rcases v with _ | v
  · exact .bind (yields_ignoreErrors _) fun _ => rfl
  · exact .pure

theorem yields_touchKnownDevice (sourceIp : String) :
    Prog.Yields () (touchKnownDevice sourceIp) := by
  refine .read_bind fun v => ?_
  rcases knownDeviceId v with _ | id
  · exact .pure
  · exact yields_touchHeartbeat id

theorem yields_answer (key domain sourceIp deviceId : String) (r : DnsPolicyResponse) :
    Prog.Yields r (answer key domain sourceIp deviceId r) :=
  .bind (fun _ => rfl) (.bind (yields_ignoreErrors _)
    (.bind (yields_touchHeartbeat deviceId) .pure))

theorem yields_recordUnknownDomain (env : Env) (domain sourceIp deviceId : String) :
    Prog.Yields () (recordUnknownDomain env domain sourceIp deviceId) :=
  .ite .pure (yields_ignoreErrors _)

/-! ### The engine returns the verdict -/

theorem run_categoryBlocked (d : Device) (b : BlockedDomain) (w : World) :
    ∃ w', (categoryBlocked d b).run w = (.ok (childBlocks w.db d b), w') := by
  unfold categoryBlocked childBlocks
  rcases b.category with _ | category <;> rcases d.childId.filter (· ≠ "") with _ | childId <;>
    exact ⟨_, rfl⟩

theorem checkSessionAndDomains_fst (env : Env) (key sourceIp domain : String) (d : Device)
    (w : World) : ((checkSessionAndDomains env key sourceIp domain d).run w).1 =
      .ok (if (currentSession w.db (w.tape w.calls) d.id).any (exhausted w.now) then
        blockResponse .timeLimitExceeded
        else domainVerdict env w.db (w.tape (w.calls + 1)) domain d) := by
  unfold checkSessionAndDomains findBlockedDomain findFirst findFirstBy
  simp only [Prog.run_bind, run_query, run_newDate]
  change ((if (currentSession w.db (w.tape w.calls) d.id).any (exhausted w.now) = true then _
    else _ : Api DnsPolicyResponse).run _).1 = _
  split_ifs with hs
  · exact yields_answer _ _ _ _ _ _
  · simp only [Prog.run_bind, run_query, domainVerdict]
    have hread : (matching .blockedDomain (World.afterCall w w.db).db
        ((World.afterCall w w.db).tape (World.afterCall w w.db).calls)
        fun b => b.domain ∈ candidates (normalize env domain)).head? =
        blockedDomain env w.db (w.tape (w.calls + 1)) domain := rfl
    rw [hread]
    rcases blockedDomain env w.db (w.tape (w.calls + 1)) domain with _ | b
    · exact (yields_answer _ _ _ _ _).bind
        ((yields_recordUnknownDomain env domain sourceIp d.id).bind
          (Prog.Yields.pure (a := allowResponse))) _
    · obtain ⟨w', hw'⟩ := run_categoryBlocked d b
        (World.afterCall (World.afterCall w w.db) (World.afterCall w w.db).db)
      simp only [Prog.run_bind, hw']
      change Prod.fst (Prog.run (if childBlocks w.db d b = true then _ else _) w') = _
      split_ifs with hb
      · exact yields_answer _ _ _ _ _ _
      · exact yields_answer _ _ _ _ _ _

theorem checkPolicyMiss_fst (env : Env) (key sourceIp domain : String) (w : World) :
    ((checkPolicyMiss env key sourceIp domain).run w).1 =
      .ok (verdict env w.db w.now (upcoming w) sourceIp domain) := by
  unfold checkPolicyMiss findFirst verdict
  simp only [Prog.run_bind, run_query]
  change Prod.fst (Prog.run (match lookup w.db (upcoming w 0) sourceIp with
    | none => _ | some device => _) _) = _
  rcases lookup w.db (upcoming w 0) sourceIp with _ | d
  · have yields : Prog.Yields allowResponse
      (do logQuery domain sourceIp "ALLOW"; pure allowResponse) :=
      (yields_ignoreErrors _).bind .pure
    exact yields _
  · simp only [Prog.run_bind, run_cacheSet, deviceVerdict]
    split_ifs
    · exact yields_answer _ _ _ _ _ _
    · exact yields_answer _ _ _ _ _ _
    · exact yields_answer _ _ _ _ _ _
    · rw [checkSessionAndDomains_fst]
      simp_all [upcoming]
    · rw [checkSessionAndDomains_fst]
      simp_all [upcoming]

/-- The current version of the address. -/
def versionAt (w : World) (sourceIp : String) : ℕ :=
  versionOf (w.cache.get w.now (versionKey sourceIp))

/-- The decision cached for the query, if any is live. -/
def cachedFor (w : World) (sourceIp domain : String) : Option DnsPolicyResponse :=
  cachedDecision (w.cache.get w.now (decisionKey sourceIp (versionAt w sourceIp) domain))

theorem run_checkPolicy_of_miss {env : Env} {w : World} {sourceIp domain : String}
    (h : cachedFor w sourceIp domain = none) : (checkPolicy env sourceIp domain).run w =
      (checkPolicyMiss env (decisionKey sourceIp (versionAt w sourceIp) domain) sourceIp
        domain).run w := by
  unfold cachedFor versionAt at h
  simp [checkPolicy, getVersion, h, versionAt]

theorem run_checkPolicy_of_hit {env : Env} {w : World} {sourceIp domain : String}
    {r : DnsPolicyResponse} (h : cachedFor w sourceIp domain = some r) :
    (checkPolicy env sourceIp domain).run w = (do touchKnownDevice sourceIp; pure r).run w := by
  unfold cachedFor versionAt at h
  simp [checkPolicy, getVersion, h]

/-- **A cache miss computes the verdict.** -/
theorem checkPolicy_of_miss {w : World} {sourceIp domain : String}
    (h : cachedFor w sourceIp domain = none) (env : Env) :
    ((checkPolicy env sourceIp domain).run w).1 =
      .ok (verdict env w.db w.now (upcoming w) sourceIp domain) := by
  rw [run_checkPolicy_of_miss h, checkPolicyMiss_fst]

/-! ### What the lookups find -/

theorem lookup_eq_some {db : Database} {n : ℕ} {sourceIp : String} {d : Device}
    (h : lookup db n sourceIp = some d) : d ∈ db.devices.rows ∧ holds sourceIp d = true := by
  have := List.mem_of_head? h
  simpa [matching, Model.device] using this

/-- Any holder of the address may be found. -/
theorem exists_lookup {db : Database} {sourceIp : String} {d : Device} (hd : d ∈ db.devices.rows)
    (h : holds sourceIp d = true) : ∃ n, lookup db n sourceIp = some d := by
  have hmem : d ∈ db.devices.rows.filter (holds sourceIp) := List.mem_filter.mpr ⟨hd, h⟩
  obtain ⟨n, hn⟩ := exists_arrange_head hmem
  exact ⟨n, hn⟩

theorem lookup_eq_none {db : Database} {n : ℕ} {sourceIp : String} :
    lookup db n sourceIp = none ↔ ∀ d ∈ db.devices.rows, holds sourceIp d = false := by
  simp [lookup, matching, Model.device, List.filter_eq_nil_iff]

/-- The only latest session is found, whatever the order of the answer. -/
theorem currentSession_eq {db : Database} {s : Session} (hs : s ∈ db.sessions.rows)
    (hcur : isCurrent s.deviceId s = true)
    (hlatest : ∀ s' ∈ db.sessions.rows, isCurrent s.deviceId s' = true → s' ≠ s →
      s'.startedAt < s.startedAt) (n : ℕ) : currentSession db n s.deviceId = some s := by
  have total : Std.Total fun s s' : Session => decide (s'.startedAt ≤ s.startedAt) = true :=
    ⟨fun a b => by simpa using le_total b.startedAt a.startedAt⟩
  have trans : IsTrans Session fun s s' : Session => decide (s'.startedAt ≤ s.startedAt) = true :=
    ⟨fun a b c => by simpa using fun h h' => le_trans h' h⟩
  refine head_insertionSort (by simpa [matching, Model.session] using ⟨hs, hcur⟩) ?_
  intro s' hs' hne
  have hmem : s' ∈ db.sessions.rows ∧ isCurrent s.deviceId s' = true := by
    simpa [matching, Model.session] using hs'
  simpa using hlatest s' hmem.1 hmem.2 hne

end GuardTime.Dns.Engine
