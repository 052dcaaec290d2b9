import Mathlib.Tactic
import GuardTime.Household
import GuardTime.Dns.Cache

/-! # Version resets

Runs of checks and invalidations at increasing times, with any database in between. The version of
an address lives for 24 hours and then starts again from zero, so a version number can come back
while a decision cached under it is still alive. `decided_after_invalidation`: when no invalidation
meets such a leftover (`Clean`), no check returns a decision computed before an invalidation of its
address. The empty address is skipped by invalidations: it stays at version zero.

* `Inv`: what holds between the cache and the past invalidations, at every later time;
* `inv_step`, `inv_run`: every event of a clean run keeps it. -/

namespace GuardTime.Dns.Versions

open GuardTime.Lib.Program GuardTime.Lib.TtlCache GuardTime.Lib.Js GuardTime.Schema
open GuardTime.Server GuardTime.Services GuardTime.Services.DnsPolicy GuardTime.Dns.Engine
open GuardTime.Dns.Cache

/-! ### Runs -/

/-- A call of the service. -/
inductive Call where
  | check (sourceIp domain : String)
  | invalidate (ips : List (Option String))

/-- A call with its time and the database it finds. -/
structure Event where
  time : Time
  db : Database
  call : Call

/-- The world in which the call is made. -/
def Event.before (e : Event) (w : World) : World := { w with now := e.time, db := e.db }

/-- The world after the call. -/
def step (env : Env) (w : World) (e : Event) : World :=
  match e.call with
  | .check sourceIp domain => ((checkPolicy env sourceIp domain).run (e.before w)).2
  | .invalidate ips => ((invalidateSourceIps ips).run (e.before w)).2

/-- The world after the calls. -/
def reach (env : Env) (w : World) (es : List Event) : World := es.foldl (step env) w

/-- The times increase. -/
def Increasing (es : List Event) : Prop := es.Pairwise fun e e' => e.time < e'.time

/-- The events invalidate the address at time `t`. -/
def Invalidated (es : List Event) (ip : String) (t : Time) : Prop :=
  ∃ e ∈ es, e.time = t ∧ ∃ ips, e.call = .invalidate ips ∧ some ip ∈ ips

/-- When the decision a check returns was computed: at the check, or when it was cached. -/
def computedAt (w : World) (sourceIp domain : String) : Time :=
  match cachedFor w sourceIp domain with
  | none => w.now
  | some _ => ((w.cache (decisionKey sourceIp (versionAt w sourceIp) domain)).map
      Entry.setAt).getD w.now

/-! ### Clean runs -/

/-- The version an invalidation leaves the address: the empty one is skipped. -/
def nextVersion (w : World) (ip : String) : ℕ :=
  if ip = "" then versionAt w ip else versionAt w ip + 1

/-- Each address has no live decision under its next version when the invalidation comes to it. -/
def NoLeftover (w : World) : List (Option String) → Prop
  | [] => True
  | o :: ips => (∀ ip, o = some ip → ∀ domain,
        cachedDecision (w.cache.get w.now (decisionKey ip (nextVersion w ip) domain)) = none) ∧
      NoLeftover ((invalidateSourceIp o).run w).2 ips

/-- Every invalidation of the run is free of leftovers. -/
def Clean (env : Env) (w : World) : List Event → Prop
  | [] => True
  | e :: es => (∀ ips, e.call = .invalidate ips → NoLeftover (e.before w) ips) ∧
      Clean env (step env w e) es

/-! ### The invariant -/

/-- The version of the address at time `t`, if nothing is written meanwhile. -/
def versionLater (c : Cache String CacheValue) (t : Time) (ip : String) : ℕ :=
  versionOf (c.get t (versionKey ip))

/-- Between the cache and the past invalidations `past`, from time `now` on. -/
structure Inv (past : String → Time → Prop) (c : Cache String CacheValue) (now : Time) : Prop where
  /-- The version of the empty address is never written. -/
  skipped : c (versionKey "") = none
  /-- Decisions live for thirty seconds. -/
  ttl : ∀ ip n domain e, c (decisionKey ip n domain) = some e → e.ttl = decisionTtl
  /-- What a later check finds is younger than every invalidation. -/
  young : ∀ t, now ≤ t → ∀ ip domain e, c (decisionKey ip (versionLater c t ip) domain) = some e →
    e.Live t → (∃ r, e.value = .decision r) → ∀ t', past ip t' → t' < e.setAt

section Inv
variable {past : String → Time → Prop} {c : Cache String CacheValue} {now : Time}

theorem Inv.mono (h : Inv past c now) {now' : Time} (hle : now ≤ now') : Inv past c now' :=
  ⟨h.skipped, h.ttl, fun t ht => h.young t (hle.trans ht)⟩

theorem versionLater_congr {c' : Cache String CacheValue} {ip : String}
    (h : c' (versionKey ip) = c (versionKey ip)) (t : Time) :
    versionLater c' t ip = versionLater c t ip := by
  rw [versionLater, Cache.get, h, versionLater, Cache.get]

/-- A check adds at most a decision made now. -/
theorem Inv.check {w : World} {key : String} (h : Inv past w.cache w.now)
    (hpast : ∀ ip t, past ip t → t < w.now) (hc : OnlyDecision w key c now)
    (hkey : ∃ ip n domain, key = decisionKey ip n domain) : Inv past c now := by
  obtain ⟨rfl, hentry⟩ := hc
  have hver : ∀ ip, c (versionKey ip) = w.cache (versionKey ip) := fun ip => by
    obtain ⟨ip', n, domain, rfl⟩ := hkey
    rcases hentry (versionKey ip) with h | h | ⟨h, -⟩
    · exact h
    · exact absurd h (not_isAux_versionKey ip)
    · exact absurd h.symm (decisionKey_ne_versionKey _ _ _ _)
  have hdec : ∀ ip n domain, c (decisionKey ip n domain) = w.cache (decisionKey ip n domain) ∨
      ∃ r, c (decisionKey ip n domain) = some ⟨.decision r, w.now, decisionTtl⟩ :=
    fun ip n domain => by
      rcases hentry (decisionKey ip n domain) with h | h | ⟨-, h⟩
      · exact .inl h
      · exact absurd h (not_isAux_decisionKey ip n domain)
      · exact .inr h
  refine ⟨(hver "").trans h.skipped, fun ip n domain e he => ?_,
    fun t ht ip domain e he hl hr t' hp => ?_⟩
  · rcases hdec ip n domain with h' | ⟨r, h'⟩ <;> rw [h'] at he
    · exact h.ttl ip n domain e he
    · obtain rfl := Option.some.inj he; rfl
  · rw [versionLater_congr (hver ip)] at he
    rcases hdec ip (versionLater w.cache t ip) domain with h' | ⟨r, h'⟩ <;> rw [h'] at he
    · exact h.young t ht ip domain e he hl hr t' hp
    · obtain rfl := Option.some.inj he
      exact hpast ip t' hp

/-- A decision that is live later is live now. -/
theorem not_leftover {w : World} {key : String} {e : Entry CacheValue} {t : Time} (ht : w.now ≤ t)
    (he : w.cache key = some e) (hl : e.Live t) (hr : ∃ r, e.value = .decision r) :
    cachedDecision (w.cache.get w.now key) ≠ none := by
  obtain ⟨r, hr⟩ := hr
  have hget : w.cache.get w.now key = some (.decision r) :=
    Cache.get_eq_some.mpr ⟨e, he, lt_of_le_of_lt ht hl, hr⟩
  rw [hget]
  simp [cachedDecision]

/-- An invalidation without leftovers starts a version that no live decision has. -/
theorem Inv.bump {w : World} {ip : String} (hne : ip ≠ "") (h : Inv past w.cache w.now)
    (hpast : ∀ ip t, past ip t → t ≤ w.now)
    (hleft : ∀ domain, cachedDecision
      (w.cache.get w.now (decisionKey ip (versionAt w ip + 1) domain)) = none) :
    Inv (fun i t => past i t ∨ (i = ip ∧ t = w.now)) (bump ip w).cache w.now := by
  refine ⟨?_, fun i n domain e he => ?_, fun t ht i domain e he hl hr t' hp => ?_⟩
  · rw [bump_of_ne fun hk => hne (versionKey_injective hk).symm]
    exact h.skipped
  · rw [bump_decision] at he
    exact h.ttl i n domain e he
  · rw [bump_decision] at he
    by_cases hi : i = ip
    · subst hi
      have hlive := hl
      by_cases hexp : t < w.now + versionTtl
      · -- the new version: a live decision under it would be a leftover
        have hv : versionLater (Cache.bump i w).cache t i = versionAt w i + 1 := by
          simp [versionLater, Cache.get, bump_self, Entry.Live, hexp, versionOf]
        rw [hv] at he
        exact absurd (hleft domain) (not_leftover ht he hl hr)
      · -- the version has expired: only decisions of the last thirty seconds live
        have httl := h.ttl _ _ _ e he
        have hbound : t' ≤ w.now := by
          rcases hp with hp | ⟨-, rfl⟩
          · exact hpast i t' hp
          · exact le_rfl
        rw [Entry.Live, httl] at hlive
        simp only [versionTtl, decisionTtl, not_lt] at hexp hlive
        linarith
    · rw [versionLater_congr (bump_of_ne (fun hk => hi (versionKey_injective hk)) w)] at he
      exact h.young t ht i domain e he hl hr t' (hp.resolve_right fun hp' => hi hp'.1)

/-- An invalidation skips the empty address, which then has no live decision at all. -/
theorem Inv.skip {w : World} (h : Inv past w.cache w.now)
    (hleft : ∀ domain, cachedDecision
      (w.cache.get w.now (decisionKey "" (versionAt w "") domain)) = none) :
    Inv (fun i t => past i t ∨ (i = "" ∧ t = w.now)) w.cache w.now := by
  refine ⟨h.skipped, h.ttl, fun t ht i domain e he hl hr t' hp => ?_⟩
  by_cases hi : i = ""
  · subst hi
    have hzero : ∀ t, versionLater w.cache t "" = 0 := fun t => by
      simp [versionLater, Cache.get, h.skipped, versionOf]
    have hnow : versionAt w "" = 0 := hzero w.now
    rw [hzero] at he
    have hnone := hleft domain
    rw [hnow] at hnone
    exact absurd hnone (not_leftover ht he hl hr)
  · exact h.young t ht i domain e he hl hr t' (hp.resolve_right fun hp' => hi hp'.1)

/-- One turn of an invalidation. -/
theorem Inv.turn {w : World} {ip : String} (h : Inv past w.cache w.now)
    (hpast : ∀ ip t, past ip t → t ≤ w.now)
    (hleft : ∀ domain, cachedDecision
      (w.cache.get w.now (decisionKey ip (nextVersion w ip) domain)) = none) :
    Inv (fun i t => past i t ∨ (i = ip ∧ t = w.now))
      ((invalidateSourceIp (some ip)).run w).2.cache w.now := by
  rw [run_invalidateSourceIp]
  unfold nextVersion at hleft
  by_cases hne : ip = ""
  · subst hne
    exact h.skip hleft
  · rw [if_neg hne] at hleft
    have htruthy : truthy (some ip) = some ip := by simp [truthy, hne]
    rw [htruthy]
    exact h.bump hne hpast hleft

end Inv

theorem now_invalidateSourceIp (o : Option String) (w : World) :
    ((invalidateSourceIp o).run w).2.now = w.now := by
  rw [run_invalidateSourceIp]
  rcases truthy o with _ | ip <;> rfl

/-- All addresses of one invalidation. -/
theorem inv_invalidate : ∀ (ips : List (Option String)) {w : World} {past : String → Time → Prop},
    Inv past w.cache w.now → (∀ ip t, past ip t → t ≤ w.now) → NoLeftover w ips →
    Inv (fun ip t => past ip t ∨ (t = w.now ∧ some ip ∈ ips))
      ((invalidateSourceIps ips).run w).2.cache w.now
  | [], w, past, h, _, _ => by
    have : (fun ip t => past ip t ∨ (t = w.now ∧ some ip ∈ ([] : List (Option String)))) =
        past := by
      funext ip t; simp
    rw [this]
    exact h
  | o :: ips, w, past, h, hpast, ⟨hfirst, hrest⟩ => by
    have hrun : (invalidateSourceIps (o :: ips)).run w =
        (invalidateSourceIps ips).run ((invalidateSourceIp o).run w).2 := by
      rw [invalidateSourceIps, Prog.forEach, Prog.run_bind, run_invalidateSourceIp]
      rfl
    have hnow := now_invalidateSourceIp o w
    rw [hrun]
    rcases o with _ | ip
    · have : (fun i t => past i t ∨ (t = w.now ∧ some i ∈ none :: ips)) =
          fun i t => past i t ∨ (t = w.now ∧ some i ∈ ips) := by
        funext i t; simp
      rw [this]
      exact inv_invalidate ips h hpast hrest
    · have hturn := h.turn hpast (hfirst ip rfl)
      have hle : ∀ i t, past i t ∨ (i = ip ∧ t = w.now) → t ≤ w.now := by
        rintro i t (hp | ⟨-, rfl⟩)
        · exact hpast i t hp
        · exact le_rfl
      rw [← hnow] at hturn hle
      have hall := inv_invalidate ips hturn hle hrest
      rw [hnow] at hall
      have : (fun i t => past i t ∨ (t = w.now ∧ some i ∈ some ip :: ips)) =
          fun i t => (past i t ∨ (i = ip ∧ t = w.now)) ∨ (t = w.now ∧ some i ∈ ips) := by
        funext i t
        simp only [List.mem_cons, Option.some.injEq]
        grind
      rw [this]
      exact hall

/-- The invalidations one event makes. -/
def Event.invalidates (e : Event) (ip : String) (t : Time) : Prop :=
  e.time = t ∧ ∃ ips, e.call = .invalidate ips ∧ some ip ∈ ips

theorem inv_step {env : Env} {w : World} {past : String → Time → Prop} {t₀ : Time} {e : Event}
    (h : Inv past w.cache t₀) (hpast : ∀ ip t, past ip t → t ≤ t₀) (ht : t₀ < e.time)
    (hclean : ∀ ips, e.call = .invalidate ips → NoLeftover (e.before w) ips) :
    Inv (fun ip t => past ip t ∨ e.invalidates ip t) (step env w e).cache e.time := by
  have h' : Inv past (e.before w).cache (e.before w).now := h.mono ht.le
  rcases hcall : e.call with ⟨ip, domain⟩ | ips
  · have hsame : (fun ip t => past ip t ∨ e.invalidates ip t) = past := by
      funext ip t; simp [Event.invalidates, hcall]
    have hc := checkPolicy_cache env ip domain (e.before w)
    rw [hsame]
    simp only [step, hcall]
    have hcheck := h'.check (fun ip t hp => (hpast ip t hp).trans_lt ht) hc ⟨_, _, _, rfl⟩
    rw [hc.now_eq] at hcheck
    exact hcheck
  · have hsame : (fun ip t => past ip t ∨ e.invalidates ip t) =
        fun ip t => past ip t ∨ (t = (e.before w).now ∧ some ip ∈ ips) := by
      funext ip t
      simp only [Event.invalidates, hcall, Call.invalidate.injEq, exists_eq_left', Event.before,
        eq_comm]
    rw [hsame]
    simp only [step, hcall]
    exact inv_invalidate ips h' (fun ip t hp => (hpast ip t hp).trans ht.le) (hclean ips hcall)

theorem inv_run {env : Env} : ∀ (es : List Event) {w : World} {past : String → Time → Prop}
    {t₀ : Time}, Inv past w.cache t₀ → (∀ ip t, past ip t → t ≤ t₀) → (∀ e ∈ es, t₀ < e.time) →
    Increasing es → Clean env w es → ∀ t₁, (∀ e ∈ es, e.time ≤ t₁) → t₀ ≤ t₁ →
    Inv (fun ip t => past ip t ∨ Invalidated es ip t) (reach env w es).cache t₁
  | [], w, past, t₀, h, _, _, _, _, t₁, _, hle => by
    have : (fun ip t => past ip t ∨ Invalidated [] ip t) = past := by
      funext ip t; simp [Invalidated]
    rw [this]
    exact h.mono hle
  | e :: es, w, past, t₀, h, hpast, ht, hinc, hclean, t₁, ht₁, _ => by
    have hstep := @inv_step env _ _ _ _ h hpast (ht e (by simp)) hclean.1
    have hpast' : ∀ ip t, past ip t ∨ e.invalidates ip t → t ≤ e.time := by
      rintro ip t (hp | ⟨rfl, -⟩)
      · exact (hpast ip t hp).trans (ht e (by simp)).le
      · exact le_rfl
    have hrest := inv_run es hstep hpast' (List.pairwise_cons.mp hinc).1
      (List.pairwise_cons.mp hinc).2 hclean.2 t₁ (fun e' he' => ht₁ e' (by simp [he']))
      (ht₁ e (by simp))
    have : (fun ip t => past ip t ∨ Invalidated (e :: es) ip t) =
        fun ip t => (past ip t ∨ e.invalidates ip t) ∨ Invalidated es ip t := by
      funext ip t
      simp [Invalidated, Event.invalidates, or_assoc]
    rw [this]
    exact hrest

/-- **No resurrection in a clean run.** Started with an empty cache, a check after any number of
clean events returns a decision computed after every earlier invalidation of its address. -/
theorem decided_after_invalidation {env : Env} {w : World} (hw : w.cache = .empty)
    {es : List Event} {e : Event} (hinc : Increasing (es ++ [e])) (hclean : Clean env w es)
    (ip domain : String) {t : Time} (ht : Invalidated es ip t) :
    t < computedAt (e.before (reach env w es)) ip domain := by
  obtain ⟨hes, -, hlast⟩ := List.pairwise_append.mp hinc
  have hbefore : ∀ e' ∈ es, e'.time < e.time := fun e' he' => hlast e' he' e (by simp)
  have hnow : t < e.time := by
    obtain ⟨e', he', rfl, -⟩ := ht
    exact hbefore e' he'
  have hinv : Inv (fun ip t => False ∨ Invalidated es ip t) (reach env w es).cache e.time := by
    rcases es with _ | ⟨e₀, es⟩
    · simp [Invalidated] at ht
    · have hempty : Inv (fun _ _ => False) w.cache (e₀.time - 1) := by
        rw [hw]
        exact ⟨rfl, fun _ _ _ _ h => by simp [Cache.empty] at h,
          fun _ _ _ _ _ h => by simp [Cache.empty] at h⟩
      have hfirst : ∀ e' ∈ e₀ :: es, e₀.time - 1 < e'.time := by
        intro e' he'
        rcases List.mem_cons.mp he' with rfl | he'
        · exact sub_one_lt _
        · exact (sub_one_lt _).trans ((List.pairwise_cons.mp hes).1 e' he')
      exact inv_run _ hempty (fun _ _ h => h.elim) hfirst hes hclean e.time
        (fun e' he' => (hbefore e' he').le) ((sub_one_lt _).trans (hbefore e₀ (by simp))).le
  unfold computedAt
  rcases hcached : cachedFor (e.before (reach env w es)) ip domain with _ | r
  · exact hnow
  · unfold cachedFor at hcached
    rcases hget : (e.before (reach env w es)).cache.get (e.before (reach env w es)).now
        (decisionKey ip (versionAt (e.before (reach env w es)) ip) domain) with _ | v
    · simp [hget, cachedDecision] at hcached
    · obtain ⟨entry, hentry, hlive, rfl⟩ := Cache.get_eq_some.mp hget
      rw [hget] at hcached
      have hr : ∃ r, entry.value = .decision r := by
        rcases hv : entry.value with _ | r' | _ | _ <;> simp [hv, cachedDecision] at hcached ⊢
      simp only [hentry, Option.map_some, Option.getD_some]
      exact hinv.young e.time le_rfl ip domain entry hentry hlive hr t (.inr ht)

/-- A household whose tablet has an address. -/
def tablet (locked : Bool) : Database := Household.withDevices
  [{ Household.device "tablet" "amal" "adam" with
      ipAddress := some "10.0.0.5"
      internetLocked := locked }] (by simp)

/-- The address is invalidated at time `t`. -/
def invalidation (t : Time) (db : Database) : Event := ⟨t, db, .invalidate [some "10.0.0.5"]⟩

/-- A query of the tablet at time `t`. -/
def query (t : Time) (db : Database) : Event := ⟨t, db, .check "10.0.0.5" "example.org"⟩

theorem invalidated_of_mem {es : List Event} {t : Time} {db : Database}
    (h : invalidation t db ∈ es) : Invalidated es "10.0.0.5" t :=
  ⟨_, h, rfl, _, rfl, by simp⟩

/-- The tablet is allowed a name, and then locked. -/
def lockedAfterQuery : List Event := [query 1 (tablet false), invalidation 2 (tablet true)]

theorem increasing_lockedAfterQuery : Increasing (lockedAfterQuery ++ [query 3 (tablet true)]) := by
  simp [Increasing, lockedAfterQuery, invalidation, query]

/-- The decision of the query is cached under another version than the next. -/
theorem clean_lockedAfterQuery : Clean .plain (.fresh (tablet false) 0) lockedAfterQuery := by
  have hdecision := checkPolicy_cache .plain "10.0.0.5" "example.org"
    ((query 1 (tablet false)).before (.fresh (tablet false) 0))
  refine ⟨by rintro _ ⟨⟩, ?_, trivial⟩
  rintro _ ⟨⟩
  refine ⟨?_, trivial⟩
  rintro _ ⟨⟩ domain
  have hversion : nextVersion ((invalidation 2 (tablet true)).before
      (step .plain (.fresh (tablet false) 0) (query 1 (tablet false)))) "10.0.0.5" = 1 := by
    decide +kernel
  rw [hversion]
  have hnone : (step .plain (.fresh (tablet false) 0) (query 1 (tablet false))).cache
      (decisionKey "10.0.0.5" 1 domain) = none := by
    rcases hdecision.entry (decisionKey "10.0.0.5" 1 domain) with h | h | ⟨h, -⟩
    · exact h
    · exact absurd h (not_isAux_decisionKey _ _ _)
    · have hfirst : versionAt ((query 1 (tablet false)).before (.fresh (tablet false) 0))
          "10.0.0.5" = 0 := by decide +kernel
      rw [hfirst] at h
      have hdigits : Nat.toDigits 10 1 = ['1'] := by decide
      have hchar := congrArg (fun s => s.toList[13]?) h
      simp [decisionKey, hdigits] at hchar
  have hget : Cache.get (step .plain (.fresh (tablet false) 0) (query 1 (tablet false))).cache 2
      (decisionKey "10.0.0.5" 1 domain) = none := by
    simp [Cache.get, hnone]
  exact congrArg cachedDecision hget

theorem decided_after_lock :
    (2 : ℤ) < computedAt ((query 3 (tablet true)).before (reach .plain (.fresh (tablet false) 0)
      lockedAfterQuery)) "10.0.0.5" "example.org" :=
  decided_after_invalidation rfl increasing_lockedAfterQuery clean_lockedAfterQuery
    "10.0.0.5" "example.org"
    (@invalidated_of_mem _ _ (tablet true) (by simp [lockedAfterQuery]))

/-- The version set by an invalidation expires after a day; within the next thirty seconds a new
invalidation sets the same version and brings back a decision made for the unlocked tablet. -/
theorem resurrected_after_reset : ¬ ∀ (env : Env) (w : World), w.cache = .empty →
    ∀ (es : List Event) (e : Event), Increasing (es ++ [e]) → ∀ ip domain,
    e.call = .check ip domain → ∀ t, Invalidated es ip t →
    t < computedAt (e.before (reach env w es)) ip domain := by
  intro h
  have hlt := h .plain (.fresh (tablet false) 0) rfl
    [invalidation 1 (tablet false), query 86390001 (tablet false),
      invalidation 86405001 (tablet true)]
    (query 86406001 (tablet true)) (by simp [Increasing, invalidation, query])
    "10.0.0.5" "example.org" rfl 86405001 (@invalidated_of_mem _ _ (tablet true) (by simp))
  exact absurd hlt (by decide)

end GuardTime.Dns.Versions
