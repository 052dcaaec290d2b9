import Mathlib.Tactic
import GuardTime.Lib.Labels
import GuardTime.Dns.Versions

/-! # The meaning of a cold decision

What a check that misses the cache answers, as one predicate on the database: `Answer` lists the
conditions and the reason each of them gives.

* `mem_candidates`: the engine's candidates for a name are its ends with a dot in them;
* `answer_deviceVerdict`: the answer for a device;
* `verdict_block_mono`: more locks, blocks and listed domains never turn `BLOCK` into `ALLOW`. -/

namespace GuardTime.Dns.Decision

open GuardTime.Lib.Program GuardTime.Lib.Keyed GuardTime.Lib.Js GuardTime.Lib.Labels
open GuardTime.Schema GuardTime.Server GuardTime.Prisma GuardTime.Services.DnsPolicy
open GuardTime.Dns.Engine

/-! ### Names -/

/-- `q` is a proper subdomain of `d`. -/
def Subdomain (q d : String) : Prop := Below '.' q.toList d.toList

theorem endsWith_dot {q d : String} : endsWith q ("." ++ d) = true ↔ Subdomain q d := by
  rw [endsWith, List.isSuffixOf_iff_suffix, Subdomain, below_iff_suffix]
  simp

instance (q d : String) : Decidable (Subdomain q d) := decidable_of_iff _ endsWith_dot

/-- The candidates for a name: its ends with a dot in them. -/
theorem mem_candidates {r q : String} :
    r ∈ candidates q ↔ '.' ∈ r.toList ∧ (r = q ∨ Subdomain q r) := by
  have hlists : r ∈ candidates q ↔ ∃ i < (q.toList.splitOn '.').length - 1,
      r.toList = ['.'].intercalate ((q.toList.splitOn '.').drop i) := by
    have hjoin : ∀ ls : List (List Char),
        (join (ls.map String.ofList) ".").toList = ['.'].intercalate ls := by
      intro ls
      rw [toList_join, List.map_map]
      simp
    simp only [candidates, split, List.length_map, List.mem_map, List.mem_range, ← List.map_drop]
    constructor
    · rintro ⟨i, hi, rfl⟩
      exact ⟨i, hi, hjoin _⟩
    · rintro ⟨i, hi, hr⟩
      exact ⟨i, hi, String.toList_inj.mp ((hjoin _).trans hr.symm)⟩
  rw [hlists, mem_ends_iff, String.toList_inj, Subdomain]

/-! ### Two tests for a name and its parents -/

/-- The test `isStrictDohDomain` makes for one domain. -/
def hits (env : Env) (domain d : String) : Bool :=
  normalize env domain = d || endsWith (normalize env domain) ("." ++ d)

theorem hits_iff {env : Env} {domain d : String} : hits env domain d = true ↔
    normalize env domain = d ∨ Subdomain (normalize env domain) d := by
  rw [hits, Bool.or_eq_true, decide_eq_true_eq, endsWith_dot]

/-- **The candidates and the suffix test agree.** A domain with a dot is among the candidates for a
query exactly when the query, in lower case and without a dot at its end, is the domain or ends with
a dot and the domain; and this is the test that strict mode makes for each of its domains. -/
theorem candidates_agree (env : Env) (domain : String) :
    (∀ d, '.' ∈ d.toList → (d ∈ candidates (normalize env domain) ↔
      normalize env domain = d ∨ endsWith (normalize env domain) ("." ++ d) = true)) ∧
    (∀ d, '.' ∈ d.toList → (d ∈ candidates (normalize env domain) ↔ hits env domain d = true)) ∧
    isStrictDohDomain env domain = strictModeDohDomains.any (hits env domain) := by
  have hmatch : ∀ d, '.' ∈ d.toList → (d ∈ candidates (normalize env domain) ↔
      normalize env domain = d ∨ Subdomain (normalize env domain) d) := by
    intro d hd
    rw [mem_candidates, and_iff_right hd, eq_comm]
  refine ⟨fun d hd => ?_, fun d hd => ?_, rfl⟩
  · rw [hmatch d hd, endsWith_dot]
  · rw [hmatch d hd, hits_iff]

/-- An empty label in the middle and a dot at the end. -/
theorem candidates_agree_doubled :
    ".youtube.com" ∈ candidates (normalize .plain "WWW..youtube.com.") ∧
      endsWith (normalize .plain "WWW..youtube.com.") "..youtube.com" = true := by
  have hagree := (candidates_agree .plain "WWW..youtube.com.").1 ".youtube.com" (by decide)
  have hends : endsWith (normalize .plain "WWW..youtube.com.") "..youtube.com" = true := by
    decide +kernel
  exact ⟨hagree.mpr (.inr hends), hends⟩

/-! ### Conditions -/

section Conditions
variable (env : Env) (db : Database) (now : Time) (domain : String)

/-- In strict mode, the name is one of the public resolvers or below one. -/
def Strict : Prop := env.strictMode = true ∧
  ∃ d ∈ strictModeDohDomains, normalize env domain = d ∨ Subdomain (normalize env domain) d

/-- The session has run for its duration. -/
def OutOfTime (s : Session) : Prop :=
  s.durationMinutes * 60000 ≤ now - s.resumedAt.getD s.startedAt

/-- The entry has a dot and is the name or a parent of it. -/
def Covers (b : BlockedDomain) (q : String) : Prop :=
  '.' ∈ b.domain.toList ∧ (b.domain = q ∨ Subdomain q b.domain)

/-- The list of blocked domains covers the name. -/
def Listed : Prop := ∃ b ∈ db.blockedDomains.rows, Covers b (normalize env domain)

/-- A latest of the running sessions of the device, if there is any. -/
def Latest (deviceId : String) : Option Session → Prop
  | none => ∀ s ∈ db.sessions.rows, isCurrent deviceId s = false
  | some s => s ∈ db.sessions.rows ∧ isCurrent deviceId s = true ∧
    ∀ s' ∈ db.sessions.rows, isCurrent deviceId s' = true → s'.startedAt ≤ s.startedAt

/-- Any of the conditions under which the device `d` with the session `o` is blocked. -/
def Blocked (d : Device) (o : Option Session) : Prop :=
  Strict env domain ∨ d.internetLocked = true ∨ d.status = .blocked ∨
    (∃ s, o = some s ∧ OutOfTime now s) ∨ Listed env db domain

/-- The answer for the device: blocked under any of the conditions, for the reason of the first. -/
structure Answer (d : Device) (o : Option Session) (r : DnsPolicyResponse) : Prop where
  block : r.action = .block ↔ Blocked env db now domain d o
  strict : Strict env domain → r.reason = some .strictModeDoh
  locked : ¬ Strict env domain → d.internetLocked = true → r.reason = some .fullInternetLock
  manual : ¬ Strict env domain → d.internetLocked = false → d.status = .blocked →
    r.reason = some .manualBlock
  time : ¬ Strict env domain → d.internetLocked = false → d.status ≠ .blocked →
    (∃ s, o = some s ∧ OutOfTime now s) → r.reason = some .timeLimitExceeded
  listed : ¬ Strict env domain → d.internetLocked = false → d.status ≠ .blocked →
    (¬ ∃ s, o = some s ∧ OutOfTime now s) → Listed env db domain →
    r.reason = some .categoryBlocked ∨ r.reason = some .domainBlocked
  allowed : ¬ Blocked env db now domain d o → r = allowResponse

end Conditions

section Verdict
variable {env : Env} {db : Database} {now : Time} {domain : String}

theorem isStrictDohDomain_iff : isStrictDohDomain env domain = true ↔
    ∃ d ∈ strictModeDohDomains, normalize env domain = d ∨ Subdomain (normalize env domain) d := by
  simp only [isStrictDohDomain, List.any_eq_true, Bool.or_eq_true, decide_eq_true_eq, endsWith_dot]

theorem strict_iff : (env.strictMode && isStrictDohDomain env domain) = true ↔
    Strict env domain := by
  rw [Bool.and_eq_true, isStrictDohDomain_iff, Strict]

/-- The formula of the engine does not depend on the remaining minutes. -/
theorem exhausted_iff {s : Session} : exhausted now s = true ↔ OutOfTime now s := by
  unfold exhausted OutOfTime
  simp only [decide_eq_true_eq]
  constructor
  · intro h
    linarith
  · intro h
    linarith

theorem blockedDomain_eq_none {n : ℕ} :
    Engine.blockedDomain env db n domain = none ↔ ¬ Listed env db domain := by
  rw [Engine.blockedDomain, List.head?_eq_none_iff, Listed]
  constructor
  · rintro h ⟨b, hb, hc⟩
    have hmem := (mem_matching (m := .blockedDomain) (n := n)
      (p := fun b : BlockedDomain => decide (b.domain ∈ candidates (normalize env domain)))).mpr
        ⟨hb, decide_eq_true (mem_candidates.mpr hc)⟩
    rw [h] at hmem
    simp at hmem
  · intro h
    rw [List.eq_nil_iff_forall_not_mem]
    intro b hb
    obtain ⟨hmem, hc⟩ := mem_matching.mp hb
    exact h ⟨b, hmem, mem_candidates.mp (of_decide_eq_true hc)⟩

theorem latest_currentSession (db : Database) (n : ℕ) (deviceId : String) :
    Latest db deviceId (currentSession db n deviceId) := by
  have total : Std.Total fun s s' : Session => decide (s'.startedAt ≤ s.startedAt) = true :=
    ⟨fun a b => by simpa using le_total b.startedAt a.startedAt⟩
  have trans : IsTrans Session fun s s' : Session => decide (s'.startedAt ≤ s.startedAt) = true :=
    ⟨fun a b c => by simpa using fun h h' => le_trans h' h⟩
  have hsorted := List.pairwise_insertionSort
    (fun s s' : Session => decide (s'.startedAt ≤ s.startedAt) = true)
    (matching .session db n (isCurrent deviceId))
  have hmem : ∀ s, s ∈ (matching .session db n (isCurrent deviceId)).insertionSort
      (fun s s' : Session => decide (s'.startedAt ≤ s.startedAt) = true) ↔
      s ∈ db.sessions.rows ∧ isCurrent deviceId s = true := fun s => by
    rw [List.mem_insertionSort, mem_matching]
    rfl
  unfold currentSession
  rcases hl : (matching .session db n (isCurrent deviceId)).insertionSort
    (fun s s' : Session => decide (s'.startedAt ≤ s.startedAt) = true) with _ | ⟨s, ss⟩ <;>
    rw [hl] at hsorted hmem
  · intro s hs
    have hnot := fun hcur => List.not_mem_nil ((hmem s).mpr ⟨hs, hcur⟩)
    simpa using hnot
  · refine ⟨((hmem s).mp (by simp)).1, ((hmem s).mp (by simp)).2, fun s' hs' hcur => ?_⟩
    rcases List.mem_cons.mp ((hmem s').mpr ⟨hs', hcur⟩) with rfl | hrest
    · exact le_rfl
    · simpa using (List.pairwise_cons.mp hsorted).1 s' hrest

/-- **The answer for a device.** -/
theorem answer_deviceVerdict (n n' : ℕ) (d : Device) :
    Answer env db now domain d (currentSession db n d.id)
      (deviceVerdict env db now n n' domain d) := by
  have htime : (currentSession db n d.id).any (exhausted now) = true ↔
      ∃ s, currentSession db n d.id = some s ∧ OutOfTime now s := by
    rw [Option.any_eq_true]
    exact exists_congr fun s => and_congr Iff.rfl exhausted_iff
  unfold deviceVerdict
  by_cases hstrict : Strict env domain
  · rw [if_pos (strict_iff.mpr hstrict)]
    exact
      { block := iff_of_true rfl (.inl hstrict)
        strict := fun _ => rfl
        locked := fun h => absurd hstrict h
        manual := fun h => absurd hstrict h
        time := fun h => absurd hstrict h
        listed := fun h => absurd hstrict h
        allowed := fun h => absurd (.inl hstrict) h }
  rw [if_neg fun h => hstrict (strict_iff.mp h)]
  by_cases hlocked : d.internetLocked = true
  · rw [if_pos hlocked]
    exact
      { block := iff_of_true rfl (.inr (.inl hlocked))
        strict := fun h => absurd h hstrict
        locked := fun _ _ => rfl
        manual := fun _ h => by simp [hlocked] at h
        time := fun _ h => by simp [hlocked] at h
        listed := fun _ h => by simp [hlocked] at h
        allowed := fun h => absurd (.inr (.inl hlocked)) h }
  rw [if_neg hlocked]
  by_cases hmanual : d.status = .blocked
  · rw [if_pos hmanual]
    exact
      { block := iff_of_true rfl (.inr (.inr (.inl hmanual)))
        strict := fun h => absurd h hstrict
        locked := fun _ h => absurd h hlocked
        manual := fun _ _ _ => rfl
        time := fun _ _ h => absurd hmanual h
        listed := fun _ _ h => absurd hmanual h
        allowed := fun h => absurd (.inr (.inr (.inl hmanual))) h }
  rw [if_neg hmanual]
  by_cases hout : ∃ s, currentSession db n d.id = some s ∧ OutOfTime now s
  · rw [if_pos (htime.mpr hout)]
    exact
      { block := iff_of_true rfl (.inr (.inr (.inr (.inl hout))))
        strict := fun h => absurd h hstrict
        locked := fun _ h => absurd h hlocked
        manual := fun _ _ h => absurd h hmanual
        time := fun _ _ _ _ => rfl
        listed := fun _ _ _ h => absurd hout h
        allowed := fun h => absurd (.inr (.inr (.inr (.inl hout)))) h }
  rw [if_neg fun h => hout (htime.mp h)]
  unfold domainVerdict
  rcases hb : Engine.blockedDomain env db n' domain with _ | b
  · have hnot : ¬ Listed env db domain := blockedDomain_eq_none.mp hb
    have hnone : ¬ Blocked env db now domain d (currentSession db n d.id) := by
      rintro (h | h | h | h | h)
      · exact hstrict h
      · exact hlocked h
      · exact hmanual h
      · exact hout h
      · exact hnot h
    exact
      { block := iff_of_false (by simp [allowResponse]) hnone
        strict := fun h => absurd h hstrict
        locked := fun _ h => absurd h hlocked
        manual := fun _ _ h => absurd h hmanual
        time := fun _ _ _ h => absurd h hout
        listed := fun _ _ _ _ h => absurd h hnot
        allowed := fun _ => rfl }
  · have hlisted : Listed env db domain := by
      by_contra hnot
      rw [blockedDomain_eq_none.mpr hnot] at hb
      cases hb
    have hblocked : Blocked env db now domain d (currentSession db n d.id) :=
      .inr (.inr (.inr (.inr hlisted)))
    simp only
    split_ifs
    · exact
        { block := iff_of_true rfl hblocked
          strict := fun h => absurd h hstrict
          locked := fun _ h => absurd h hlocked
          manual := fun _ _ h => absurd h hmanual
          time := fun _ _ _ h => absurd h hout
          listed := fun _ _ _ _ _ => .inl rfl
          allowed := fun h => absurd hblocked h }
    · exact
        { block := iff_of_true rfl hblocked
          strict := fun h => absurd h hstrict
          locked := fun _ h => absurd h hlocked
          manual := fun _ _ h => absurd h hmanual
          time := fun _ _ _ h => absurd h hout
          listed := fun _ _ _ _ _ => .inr rfl
          allowed := fun h => absurd hblocked h }

end Verdict

/-! ### Cold checks -/

section Cold
variable {env env' : Env} {w w' : World} {ip domain : String}

/-- At most one device has the address. -/
def Single (db : Database) (ip : String) : Prop :=
  ∀ d ∈ db.devices.rows, ∀ d' ∈ db.devices.rows, holds ip d = true → holds ip d' = true → d = d'

/-- The device may have been locked or blocked. -/
structure Tightened (d d' : Device) : Prop where
  same : d' = { d with internetLocked := d'.internetLocked, status := d'.status }
  locked : d.internetLocked = true → d'.internetLocked = true
  blocked : d.status = .blocked → d'.status = .blocked

/-- Strict mode may have been switched on, devices locked or blocked and domains listed. -/
structure Stricter (env : Env) (w : World) (env' : Env) (w' : World) : Prop where
  strict : env.strictMode = true → env'.strictMode = true
  toLowerCase : env'.toLowerCase = env.toLowerCase
  now : w'.now = w.now
  tape : w'.tape = w.tape
  calls : w'.calls = w.calls
  sessions : w'.db.sessions = w.db.sessions
  devices : ∃ f, (∀ d, Tightened d (f d)) ∧ w'.db.devices.rows = w.db.devices.rows.map f
  listed : ∀ b ∈ w.db.blockedDomains.rows, b ∈ w'.db.blockedDomains.rows

theorem Tightened.holds_eq {d d' : Device} (h : Tightened d d') (ip : String) :
    holds ip d' = holds ip d := by
  rw [h.same, holds, holds]

/-- The device that has the address is found. -/
theorem lookup_of_single {db : Database} (hone : Single db ip) {d : Device}
    (hd : d ∈ db.devices.rows) (hip : holds ip d = true) (n : ℕ) : lookup db n ip = some d :=
  head_matching .device db (holds ip) hd hip (fun d' hd' hip' => hone d' hd' d hd hip' hip) n

/-- No condition that held for the device is lost. -/
theorem Stricter.blocked (h : Stricter env w env' w') {d d' : Device} {o : Option Session}
    (hd : Tightened d d') (hb : Blocked env w.db w.now domain d o) :
    Blocked env' w'.db w'.now domain d' o := by
  have hname : normalize env' domain = normalize env domain := by
    simp only [Services.DnsPolicy.normalize, h.toLowerCase]
  rcases hb with ⟨hs, hdoh⟩ | hl | hm | hout | ⟨b, hb, hc⟩
  · exact .inl ⟨h.strict hs, by rw [hname]; exact hdoh⟩
  · exact .inr (.inl (hd.locked hl))
  · exact .inr (.inr (.inl (hd.blocked hm)))
  · exact .inr (.inr (.inr (.inl (by rw [h.now]; exact hout))))
  · exact .inr (.inr (.inr (.inr ⟨b, h.listed b hb, by rw [hname]; exact hc⟩)))

/-- **Locks never allow.** -/
theorem verdict_block_mono (h : Stricter env w env' w') (hone : Single w.db ip)
    (hblock : (verdict env w.db w.now (upcoming w) ip domain).action = .block) :
    (verdict env' w'.db w'.now (upcoming w') ip domain).action = .block := by
  obtain ⟨f, hf, hrows⟩ := h.devices
  have htape : upcoming w' = upcoming w := by
    funext i
    rw [upcoming, h.tape, h.calls, upcoming]
  rcases hl : lookup w.db (upcoming w 0) ip with _ | d
  · rw [verdict, hl] at hblock
    cases hblock
  · obtain ⟨hd, hip⟩ := lookup_eq_some hl
    have hone' : Single w'.db ip := by
      intro d₁ hd₁ d₂ hd₂ hip₁ hip₂
      rw [hrows] at hd₁ hd₂
      obtain ⟨e₁, he₁, rfl⟩ := List.mem_map.mp hd₁
      obtain ⟨e₂, he₂, rfl⟩ := List.mem_map.mp hd₂
      rw [(hf e₁).holds_eq] at hip₁
      rw [(hf e₂).holds_eq] at hip₂
      rw [hone e₁ he₁ e₂ he₂ hip₁ hip₂]
    have hd' : f d ∈ w'.db.devices.rows := by
      rw [hrows]
      exact List.mem_map_of_mem hd
    have hip' : holds ip (f d) = true := by rw [(hf d).holds_eq, hip]
    have hsession : currentSession w'.db (upcoming w' 1) (f d).id =
        currentSession w.db (upcoming w 1) d.id := by
      have hid : (f d).id = d.id := by rw [(hf d).same]
      rw [hid, htape, currentSession, matching, currentSession, matching]
      change List.head? (List.insertionSort _ (arrange _ (w'.db.sessions.rows.filter _))) = _
      rw [h.sessions]
      rfl
    rw [verdict, hl] at hblock
    rw [verdict, lookup_of_single hone' hd' hip']
    have hb := (answer_deviceVerdict (upcoming w 1) (upcoming w 2) d).block.mp hblock
    refine (answer_deviceVerdict (upcoming w' 1) (upcoming w' 2) (f d)).block.mpr ?_
    rw [hsession]
    exact h.blocked (hf d) hb

/-- **The exact meaning of a cold decision.** Without a device the answer is `ALLOW`; for a device
it is decided by the conditions and a latest running session, and more locks never allow. -/
theorem cold_decision (env : Env) (w : World) (ip domain : String) (hone : Single w.db ip)
    (hmiss : cachedFor w ip domain = none) :
    ((∀ d ∈ w.db.devices.rows, holds ip d = false) →
      ((checkPolicy env ip domain).run w).1 = .ok allowResponse) ∧
    (∀ d ∈ w.db.devices.rows, holds ip d = true → ∃ o r, Latest w.db d.id o ∧
      ((checkPolicy env ip domain).run w).1 = .ok r ∧ Answer env w.db w.now domain d o r) ∧
    ∀ env' w', Stricter env w env' w' → cachedFor w' ip domain = none →
      ∀ r r', ((checkPolicy env ip domain).run w).1 = .ok r →
        ((checkPolicy env' ip domain).run w').1 = .ok r' → r.action = .block →
          r'.action = .block := by
  refine ⟨fun hnone => ?_, fun d hd hip => ?_, fun env' w' h hmiss' r r' hr hr' hblock => ?_⟩
  · rw [checkPolicy_of_miss hmiss, verdict, lookup_eq_none.mpr hnone]
  · refine ⟨_, _, latest_currentSession w.db (upcoming w 1) d.id, checkPolicy_of_miss hmiss env, ?_⟩
    rw [verdict, lookup_of_single hone hd hip]
    exact answer_deviceVerdict _ _ d
  · rw [checkPolicy_of_miss hmiss] at hr
    rw [checkPolicy_of_miss hmiss'] at hr'
    cases hr
    cases hr'
    exact verdict_block_mono h hone hblock

theorem cold_decision_tablet : ∃ o r, Latest (Versions.tablet true) "tablet" o ∧
    ((checkPolicy .plain "10.0.0.5" "example.org").run (.fresh (Versions.tablet true) 0)).1 =
      .ok r ∧
      r.reason = some .fullInternetLock := by
  have hone : Single (Versions.tablet true) "10.0.0.5" := by
    intro d hd d' hd' _ _
    rw [List.mem_singleton.mp hd, List.mem_singleton.mp hd']
  obtain ⟨-, hdevice, -⟩ := cold_decision .plain (.fresh (Versions.tablet true) 0) "10.0.0.5"
    "example.org" hone rfl
  obtain ⟨o, r, hlatest, hr, hanswer⟩ := hdevice _ (List.mem_singleton_self _) (by decide)
  have hstrict : ¬ Strict .plain "example.org" := by
    rintro ⟨h, -⟩
    cases h
  exact ⟨o, r, hlatest, hr, hanswer.locked hstrict rfl⟩

end Cold

end GuardTime.Dns.Decision
