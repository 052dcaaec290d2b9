import Mathlib.Tactic
import GuardTime.Dns.Versions

/-! # Bounded staleness

Every decision in the cache is the answer the engine gave, without its cache, to the query its key
spells out, at the instant the entry was written (`Founded`). Entries live for thirty seconds, so a
check returns what the engine could decide on some database of the last thirty seconds.

* `checkPolicyMiss_caches`: a miss caches exactly the decision it returns;
* `founded_step`, `founded_run`: every event keeps the cache founded;
* `decided_within_ttl`: the answers of a run are at most `decisionTtl` old. -/

namespace GuardTime.Dns.Staleness

open GuardTime.Lib.Program GuardTime.Lib.TtlCache GuardTime.Lib.Js GuardTime.Schema
open GuardTime.Server GuardTime.Prisma GuardTime.Services GuardTime.Services.DnsPolicy
open GuardTime.Dns.Engine GuardTime.Dns.Cache GuardTime.Dns.Versions

/-! ### A miss caches its answer -/

/-- The clock shows `t`. -/
def At (t : Time) : World → Prop := OffDb fun _ now => now = t

/-- The decision stands under `key`, written at the present time `t`. -/
def Written (key : String) (t : Time) (r : DnsPolicyResponse) : World → Prop :=
  OffDb fun c now => now = t ∧ c key = some ⟨.decision r, t, decisionTtl⟩

/-- Run at time `t`, the program answers with a decision and leaves it under `key`. -/
def Caches (key : String) (t : Time) (p : Api DnsPolicyResponse) : Prop :=
  ∀ w, At t w → ∃ r, (p.run w).1 = .ok r ∧ Written key t r (p.run w).2

section Caches
variable {key : String} {t : Time}

/-- A first part that cannot fail and leaves the clock alone. -/
theorem Caches.bind {α : Type} {p : Api α} {f : α → Api DnsPolicyResponse}
    (hok : ∀ w, ∃ a, (p.run w).1 = .ok a) (hp : Prog.Keeps (At t) p)
    (hf : ∀ a, Caches key t (f a)) : Caches key t (p >>= f) := by
  intro w hw
  obtain ⟨a, ha⟩ := hok w
  have hnow := hp w hw
  rcases hrun : p.run w with ⟨r, w'⟩
  rw [hrun] at ha hnow
  cases ha
  have hbind : (p >>= f).run w = (f a).run w' := by rw [Prog.run_bind, hrun]
  rw [hbind]
  exact hf a w' hnow

theorem Caches.ite {c : Prop} [Decidable c] {p q : Api DnsPolicyResponse} (hp : Caches key t p)
    (hq : Caches key t q) : Caches key t (if c then p else q) := by
  split_ifs
  · exact hp
  · exact hq

/-- Writes after the answer that leave the entry alone. -/
theorem Caches.andThen {p : Api DnsPolicyResponse} {f : DnsPolicyResponse → Api DnsPolicyResponse}
    (hp : Caches key t p) (hok : ∀ r, Prog.Yields r (f r))
    (hf : ∀ r, Prog.Keeps (Written key t r) (f r)) : Caches key t (p >>= f) := by
  intro w hw
  obtain ⟨r, hr, hwritten⟩ := hp w hw
  rcases hrun : p.run w with ⟨res, w'⟩
  rw [hrun] at hr hwritten
  cases hr
  have hbind : (p >>= f).run w = (f r).run w' := by rw [Prog.run_bind, hrun]
  rw [hbind]
  exact ⟨r, hok r w', hf r w' hwritten⟩

/-- The decision is written first; the rest answers it and leaves the entry alone. -/
theorem Caches.of_decision {r : DnsPolicyResponse} {rest : Api DnsPolicyResponse}
    (hok : Prog.Yields r rest) (hrest : Prog.Keeps (Written key t r) rest) :
    Caches key t (cacheSet key (.decision r) decisionTtl >>= fun _ => rest) := by
  intro w hw
  have hnow : w.now = t := hw
  have hset : Written key t r
      { w with cache := w.cache.set w.now key (.decision r) decisionTtl } := by
    refine ⟨hw, ?_⟩
    simp [hnow]
  exact ⟨r, hok _, hrest _ hset⟩

variable (hkey : ¬ IsAux key)
include hkey

theorem touchSafe_written (r : DnsPolicyResponse) : TouchSafe (Written key t r) where
  steady := steady_offDb _
  dnsQueryLog := free_offDb _ _
  unknownDomainLog := free_offDb _ _
  seen id _ := (free_offDb _ _).update (steady_offDb _) id _ _
  aux k hk v ttl := by
    refine .write fun w hw => ⟨hw.1, ?_⟩
    have hne : key ≠ k := fun h => hkey (h ▸ hk)
    exact (Cache.set_of_ne w.cache w.now v ttl hne).trans hw.2

theorem caches_answer (domain sourceIp deviceId : String) (r : DnsPolicyResponse) :
    Caches key t (answer key domain sourceIp deviceId r) := by
  have h := @touchSafe_written key t hkey r
  exact .of_decision ((yields_ignoreErrors _).bind ((yields_touchHeartbeat _).bind .pure))
    ((h.logQuery _ _ _).bind fun _ => (h.touchHeartbeat _).bind fun _ => .pure _)

theorem caches_session (env : Env) (sourceIp domain : String) (d : Device) :
    Caches key t (checkSessionAndDomains env key sourceIp domain d) := by
  have hquery : ∀ {α : Type} (f : Database → ℕ → α), Prog.Keeps (At t) (Prisma.query f) :=
    fun f => keeps_query (steady_offDb _) f
  have hfind : Prog.Keeps (At t) (findBlockedDomain env domain) := by
    unfold findBlockedDomain findFirst
    exact hquery _
  refine .bind (fun _ => ⟨_, rfl⟩) (hquery _) fun s => .bind (fun _ => ⟨_, rfl⟩) keeps_newDate
    fun now => .ite (caches_answer hkey _ _ _ _) (.bind (fun _ => ⟨_, rfl⟩) hfind fun b => ?_)
  rcases b with _ | b
  · have hrest : ∀ r, Prog.Keeps (Written key t r) (do
        recordUnknownDomain env domain sourceIp d.id
        pure r) := fun r =>
      ((touchSafe_written hkey r).recordUnknownDomain _ _ _ _).bind fun _ => .pure _
    exact (caches_answer hkey _ _ _ _).andThen
      (fun r => (yields_recordUnknownDomain _ _ _ _).bind .pure) hrest
  · have hcategory : Prog.Keeps (At t) (categoryBlocked d b) := by
      unfold categoryBlocked findUniqueBy
      split
      · exact (hquery _).bind fun _ => .pure _
      · exact .pure _
    have hok : ∀ w, ∃ a, ((categoryBlocked d b).run w).1 = .ok a := fun w => by
      obtain ⟨w', hw'⟩ := run_categoryBlocked d b w
      exact ⟨_, by rw [hw']⟩
    exact .bind hok hcategory fun _ => .ite (caches_answer hkey _ _ _ _)
      (caches_answer hkey _ _ _ _)

/-- **A miss caches the decision it returns.** -/
theorem checkPolicyMiss_caches (env : Env) (sourceIp domain : String) :
    Caches key t (checkPolicyMiss env key sourceIp domain) := by
  refine .bind (fun _ => ⟨_, rfl⟩) (keeps_query (steady_offDb _) _) fun d => ?_
  rcases d with _ | d
  · have h := @touchSafe_written key t hkey allowResponse
    exact .of_decision ((yields_ignoreErrors _).bind .pure)
      ((h.logQuery _ _ _).bind fun _ => .pure _)
  · refine .bind (fun _ => ⟨_, rfl⟩) (.write fun w hw => hw) fun _ => ?_
    exact .ite (caches_answer hkey _ _ _ _) (.ite (caches_answer hkey _ _ _ _)
      (.ite (caches_answer hkey _ _ _ _) (caches_session hkey env sourceIp domain d)))

end Caches

/-! ### The invariant -/

/-- Without its cache the engine could decide `r` for the query, on this database at this time. -/
def CouldDecide (env : Env) (db : Database) (t : Time) (sourceIp domain : String)
    (r : DnsPolicyResponse) : Prop :=
  ∃ w : World, w.cache = .empty ∧ w.db = db ∧ w.now = t ∧
    ((checkPolicy env sourceIp domain).run w).1 = .ok r

theorem couldDecide_verdict (env : Env) (w : World) (sourceIp domain : String) :
    CouldDecide env w.db w.now sourceIp domain
      (verdict env w.db w.now (upcoming w) sourceIp domain) := by
  refine ⟨{ w with cache := .empty }, rfl, rfl, rfl, ?_⟩
  have hmiss : cachedFor { w with cache := .empty } sourceIp domain = none := rfl
  exact checkPolicy_of_miss hmiss env

/-- Every decision in the cache was made for the query its key spells out, at one of the events. -/
def Founded (env : Env) (es : List Event) (c : Cache String CacheValue) : Prop :=
  ∀ ip n domain entry, ':' ∉ domain.toList → c (decisionKey ip n domain) = some entry →
    entry.ttl = decisionTtl ∧ ∃ e ∈ es, e.time = entry.setAt ∧
      ∀ r, entry.value = .decision r → CouldDecide env e.db e.time ip domain r

theorem Founded.more {env : Env} {es : List Event} {c c' : Cache String CacheValue}
    (h : Founded env es c) (e : Event)
    (hc : ∀ ip n domain, c' (decisionKey ip n domain) = c (decisionKey ip n domain)) :
    Founded env (es ++ [e]) c' := by
  intro ip n domain entry hd hentry
  rw [hc] at hentry
  obtain ⟨httl, e', he', hfound⟩ := h ip n domain entry hd hentry
  exact ⟨httl, e', by simp [he'], hfound⟩

/-- The decisions are those of `c`. -/
def SameDecisions (c : Cache String CacheValue) : World → Prop :=
  OffDb fun c' _ => ∀ ip n domain, c' (decisionKey ip n domain) = c (decisionKey ip n domain)

theorem touchSafe_sameDecisions (c : Cache String CacheValue) : TouchSafe (SameDecisions c) where
  steady := steady_offDb _
  dnsQueryLog := free_offDb _ _
  unknownDomainLog := free_offDb _ _
  seen id _ := (free_offDb _ _).update (steady_offDb _) id _ _
  aux k hk v ttl := by
    refine .write fun w hw ip n domain => ?_
    have hne : decisionKey ip n domain ≠ k := fun h => not_isAux_decisionKey ip n domain (h ▸ hk)
    exact (Cache.set_of_ne w.cache w.now v ttl hne).trans (hw ip n domain)

theorem sameDecisions_invalidate (ips : List (Option String)) (w : World) :
    SameDecisions w.cache ((invalidateSourceIps ips).run w).2 := by
  refine Prog.Keeps.forEach ips (fun o _ w' hw' => ?_) w fun _ _ _ => rfl
  rw [run_invalidateSourceIp]
  rcases truthy o with _ | ip
  · exact hw'
  · intro ip' n domain
    exact (bump_decision ip w' ip' n domain).trans (hw' ip' n domain)

/-- The names of the run's queries have no colon. -/
def Named (e : Event) : Prop := ∀ ip domain, e.call = .check ip domain → ':' ∉ domain.toList

section Run
variable {env : Env} {es : List Event}

theorem founded_check {w : World} {e : Event} {ip domain : String} (h : Founded env es w.cache)
    (hd : ':' ∉ domain.toList) : Founded env (es ++ [e])
      ((checkPolicy env ip domain).run (e.before w)).2.cache := by
  rcases hc : cachedFor (e.before w) ip domain with _ | r
  · rw [run_checkPolicy_of_miss hc]
    set key := decisionKey ip (versionAt (e.before w) ip) domain with hkey
    have hcache := checkPolicy_cache env ip domain (e.before w)
    rw [run_checkPolicy_of_miss hc, ← hkey] at hcache
    have haux : ¬ IsAux key := not_isAux_decisionKey ip _ domain
    obtain ⟨r, hr, -, hwritten⟩ := checkPolicyMiss_caches haux env ip domain (e.before w) rfl
    rw [checkPolicyMiss_fst] at hr
    cases hr
    intro ip' n domain' entry hd' hentry
    rcases hcache.entry (decisionKey ip' n domain') with hold | hold | ⟨hself, -⟩
    · exact h.more e (fun _ _ _ => rfl) ip' n domain' entry hd' (hold ▸ hentry)
    · exact absurd hold (not_isAux_decisionKey ip' n domain')
    · -- the new entry: its key names this query and no other
      rw [hself, hwritten] at hentry
      obtain rfl := Option.some.inj hentry
      obtain ⟨rfl, -, rfl⟩ := decisionKey_injective hd' hd hself
      refine ⟨rfl, e, by simp, rfl, fun r hr => ?_⟩
      obtain rfl := CacheValue.decision.inj hr
      exact couldDecide_verdict env (e.before w) ip' domain'
  · rw [run_checkPolicy_of_hit hc]
    have hsame : SameDecisions w.cache ((do touchKnownDevice ip; pure r).run (e.before w)).2 :=
      ((touchSafe_sameDecisions w.cache).touchKnownDevice ip).bind (fun _ => .pure _) (e.before w)
        fun _ _ _ => rfl
    exact h.more e hsame

theorem founded_step {w : World} {e : Event} (h : Founded env es w.cache) (he : Named e) :
    Founded env (es ++ [e]) (step env w e).cache := by
  rcases hcall : e.call with ⟨ip, domain⟩ | ips
  · simp only [step, hcall]
    exact founded_check h (he ip domain hcall)
  · simp only [step, hcall]
    exact h.more e (sameDecisions_invalidate ips (e.before w))

theorem founded_run {w : World} (hw : w.cache = .empty) (hes : ∀ e ∈ es, Named e) :
    Founded env es (reach env w es).cache := by
  induction es using List.reverseRecOn with
  | nil =>
    intro ip n domain entry _ hentry
    rw [reach, List.foldl_nil, hw] at hentry
    simp [Cache.empty] at hentry
  | append_singleton es e ih =>
    rw [reach, List.foldl_append]
    exact founded_step (ih fun e' he' => hes e' (by simp [he'])) (hes e (by simp))

/-- **Bounded staleness.** Started with an empty cache, a check answers what the engine, without its
cache, could decide for the same address and name on a database of the last thirty seconds. -/
theorem decided_within_ttl {w : World} (hw : w.cache = .empty) {e : Event}
    (htime : (es ++ [e]).Pairwise fun e e' => e.time ≤ e'.time)
    (hnamed : ∀ e' ∈ es ++ [e], Named e')
    {ip domain : String} (hcheck : e.call = .check ip domain) :
    ∃ r, ((checkPolicy env ip domain).run (e.before (reach env w es))).1 = .ok r ∧
      ∃ e' ∈ es ++ [e], e.time - 30000 ≤ e'.time ∧ e'.time ≤ e.time ∧
        CouldDecide env e'.db e'.time ip domain r := by
  have hfounded := @founded_run env es w hw fun e' he' => hnamed e' (by simp [he'])
  have hd : ':' ∉ domain.toList := hnamed e (by simp) ip domain hcheck
  rcases hc : cachedFor (e.before (reach env w es)) ip domain with _ | r
  · refine ⟨_, checkPolicy_of_miss hc env, e, by simp, ?_, le_rfl, ?_⟩
    · linarith
    · exact couldDecide_verdict env (e.before (reach env w es)) ip domain
  · have hanswer : ((checkPolicy env ip domain).run (e.before (reach env w es))).1 = .ok r := by
      have hyields : Prog.Yields r (do touchKnownDevice ip; pure r) :=
        (yields_touchKnownDevice ip).bind .pure
      rw [run_checkPolicy_of_hit hc]
      exact hyields _
    unfold cachedFor at hc
    rcases hget : (e.before (reach env w es)).cache.get (e.before (reach env w es)).now
        (decisionKey ip (versionAt (e.before (reach env w es)) ip) domain) with _ | v
    · simp [hget, cachedDecision] at hc
    · obtain ⟨entry, hentry, hlive, rfl⟩ := Cache.get_eq_some.mp hget
      have hvalue : entry.value = .decision r := by
        rw [hget] at hc
        rcases hv : entry.value with _ | r' | _ | _ <;> simp [hv, cachedDecision] at hc ⊢
        exact hc
      obtain ⟨httl, e', he', hset, hcould⟩ := hfounded ip _ domain entry hd hentry
      refine ⟨r, hanswer, e', by simp [he'], ?_, ?_, hcould r hvalue⟩
      · have hlt : e.time < entry.setAt + entry.ttl := hlive
        rw [httl, decisionTtl] at hlt
        linarith
      · exact (List.pairwise_append.mp htime).2.2 e' he' e (by simp)

end Run

/-- A tablet locked after a query keeps the old answer, for thirty seconds at most. -/
theorem decided_within_ttl_after_lock :
    cachedFor ((query 20000 (tablet true)).before (reach .plain (.fresh (tablet false) 0)
      [query 0 (tablet false)])) "10.0.0.5" "example.org" = some allowResponse ∧
    ∃ r, ((checkPolicy .plain "10.0.0.5" "example.org").run ((query 20000 (tablet true)).before
      (reach .plain (.fresh (tablet false) 0) [query 0 (tablet false)]))).1 = .ok r ∧
      ∃ e' ∈ [query 0 (tablet false)] ++ [query 20000 (tablet true)],
        (query 20000 (tablet true)).time - 30000 ≤ e'.time ∧
        e'.time ≤ (query 20000 (tablet true)).time ∧
        CouldDecide .plain e'.db e'.time "10.0.0.5" "example.org" r := by
  refine ⟨by decide +kernel, decided_within_ttl rfl ?_ ?_ rfl⟩
  · simp [Versions.query]
  · intro e he ip domain hcheck
    have hdomain : domain = "example.org" := by
      simp only [List.cons_append, List.nil_append, List.mem_cons, List.not_mem_nil, or_false] at he
      rcases he with rfl | rfl
      · exact (Call.check.inj hcheck).2.symm
      · exact (Call.check.inj hcheck).2.symm
    rw [hdomain]
    decide

end GuardTime.Dns.Staleness
