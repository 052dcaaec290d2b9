import Mathlib.Tactic
import GuardTime.Session.Expiry
import GuardTime.Session.Runs

/-! # Paused sessions

`pause` stores the minutes that are left, and extensions add to them. The readers do not use the
stored value: `calculateRemainingMinutes` and the DNS engine subtract the time since the session
last started to run, also while it is PAUSED. `frozen_iff`: their answers stand still, at what was
stored, exactly within the minute of the pause and only if the session had not overrun by then. -/

namespace GuardTime.Session.Paused

open GuardTime.Lib.Program GuardTime.Lib.Keyed GuardTime.Lib.Js GuardTime.Lib.Runs GuardTime.Schema
open GuardTime.Server GuardTime.Services GuardTime.Services.Sessions GuardTime.Services.DnsPolicy
open GuardTime.Dns.Engine GuardTime.Session.Runs GuardTime.Session.Expiry GuardTime.Session.Budget
open GuardTime.Session.Lifecycle (Op.next)

/-! ### While the session stays paused -/

/-- Since the pause left the row `p`, only extensions have come to it. -/
structure Extended (p s : Session) : Prop where
  status : s.status = .paused
  duration : s.durationMinutes = p.durationMinutes
  started : s.startedAt = p.startedAt
  resumed : s.resumedAt = p.resumedAt
  remaining : s.remainingMinutes = p.remainingMinutes + (s.extendedMinutes - p.extendedMinutes)

/-- A request that leaves the session PAUSED has at most extended it. -/
theorem Extended.change {p s : Session} (h : Extended p s) (now : Time) (req : Request)
    (hst : (req.change now s).status = .paused) : Extended p (req.change now s) := by
  unfold Request.change at hst ⊢
  split_ifs at hst ⊢
  · cases req with
    | start parentId dto => exact h
    | pause sid caller => simpa [Request.next, Op.next, h.status] using h
    | resume sid caller =>
      simp only [Request.next, Op.next, h.status, if_true] at hst ⊢
      split_ifs at hst ⊢
      exact h
    | extend sid caller dto =>
      simp only [Request.next, Op.next, h.status, reduceCtorEq, false_or, if_true]
      split_ifs
      · exact h
      · refine ⟨rfl, h.duration, h.started, h.resumed, ?_⟩
        have := h.remaining
        simp only
        omega
    | stop sid caller =>
      simp only [Request.next] at hst ⊢
      split_ifs at hst ⊢
      exact h
    | expire sid => simp [Request.next] at hst
    | markViolated sid => simp [Request.next] at hst
  · exact h

/-- The session is PAUSED. -/
def IsPaused (sid : String) (w : World) : Prop :=
  ∃ s, w.db.sessions.find sid = some s ∧ s.status = .paused

theorem extended_run {env : Env} {sid : String} {p : Session} : ∀ {es : List Event} {w : World}
    {s₀ s : Session}, w.db.sessions.find sid = some s₀ → Extended p s₀ →
    (∀ es₁, es₁ <+: es → IsPaused sid (run env w es₁)) →
    (run env w es).db.sessions.find sid = some s → Extended p s
  | [], w, s₀, s, h₀, hext, _, hs => by
    obtain rfl : s₀ = s := Option.some.inj (h₀.symm.trans hs)
    exact hext
  | e :: es, w, s₀, s, h₀, hext, hpaused, hs => by
    have hstep := @find_step env w e sid s₀ h₀
    have hst : (e.request.change e.time s₀).status = .paused := by
      obtain ⟨s', hs', hst'⟩ := hpaused [e] (by simp)
      obtain rfl := Option.some.inj (hstep.symm.trans hs')
      exact hst'
    refine extended_run hstep (hext.change e.time e.request hst) (fun es₁ hes => ?_) hs
    exact hpaused (e :: es₁) (by simpa using hes)

/-! ### The two readers -/

/-- The query misses the cache and comes to the session check of the device, which finds `s`; the
name is not blocked. -/
structure Asks (env : Env) (v : World) (sourceIp domain : String) (s : Session) : Prop where
  miss : cachedFor v sourceIp domain = none
  lax : (env.strictMode && isStrictDohDomain env domain) = false
  device : ∃ d, lookup v.db (upcoming v 0) sourceIp = some d ∧ d.id = s.deviceId ∧
    d.internetLocked = false ∧ d.status ≠ .blocked
  current : currentSession v.db (upcoming v 1) s.deviceId = some s
  allowed : blockedDomain env v.db (upcoming v 2) domain = none

theorem answer_of_asks {env : Env} {v : World} {sourceIp domain : String} {s : Session}
    (h : Asks env v sourceIp domain s) : ((checkPolicy env sourceIp domain).run v).1 =
      .ok (if exhausted v.now s = true then blockResponse .timeLimitExceeded
        else allowResponse) := by
  obtain ⟨d, hd, hid, hlock, hblock⟩ := h.device
  rw [checkPolicy_of_miss h.miss env]
  simp only [verdict, hd, deviceVerdict, h.lax, Bool.false_eq_true, if_false, hlock, hblock, hid,
    h.current, Option.any_some, domainVerdict, h.allowed]

theorem exhausted_iff_elapsed (t : Time) (s : Session) :
    exhausted t s = true ↔ s.durationMinutes ≤ elapsed t s := by
  rw [exhausted_iff, elapsed, calculateElapsedMinutes, runningFor,
    Int.le_ediv_iff_mul_le (by norm_num)]

/-- At `t₁` and `t₂` both readers answer alike, the service with `stored`. -/
structure Frozen (env : Env) (s : Session) (stored : ℤ) (t₁ t₂ : Time) : Prop where
  first : calculateRemainingMinutes t₁ s = stored
  second : calculateRemainingMinutes t₂ s = stored
  policy : ∀ (v : World) (sourceIp domain : String), Asks env (v.atTime t₁) sourceIp domain s →
    Asks env (v.atTime t₂) sourceIp domain s →
    ((checkPolicy env sourceIp domain).run (v.atTime t₁)).1 =
      ((checkPolicy env sourceIp domain).run (v.atTime t₂)).1

theorem remaining_of_paused {s : Session} (h : s.status = .paused) (t : Time) :
    calculateRemainingMinutes t s = granted s - elapsed t s := by
  simp [calculateRemainingMinutes, h, granted, elapsed]

/-- The row that a pause at time `t` leaves. -/
def pausedRow (t : Time) (s : Session) : Session :=
  { s with
    status := .paused
    pausedAt := some t
    remainingMinutes := max 0 (granted s - elapsed t s)
    updatedAt := t }

theorem step_pause {env : Env} {w : World} {sid caller : String} {s₀ : Session} {t : Time}
    (h₀ : w.db.sessions.find sid = some s₀) (hact : s₀.status = .active)
    (hcaller : s₀.parentId = caller) :
    (step env w ⟨t, .pause sid caller⟩).db.sessions.find sid = some (pausedRow t s₀) := by
  have hid : s₀.id = sid := Table.key_of_find h₀
  rw [find_step h₀]
  simp [Request.change, Request.target, Request.next, Op.next, hid, hcaller, hact, pausedRow,
    granted,
    elapsed]

/-- **Frozen sessions.** After a successful pause at time `t` and any requests during which the
session stays PAUSED, its readers are frozen at the minutes stored by the pause plus the later
extensions, from `t₁` to `t₂`, exactly when the session had not overrun its minutes at the pause and
`t₂` is in the same minute of the session as the pause. -/
theorem frozen_iff {env : Env} {w : World} {sid caller : String} {s₀ s : Session} {t t₁ t₂ : Time}
    {es : List Event} (h₀ : w.db.sessions.find sid = some s₀) (hact : s₀.status = .active)
    (hcaller : s₀.parentId = caller)
    (hpaused : ∀ es₁, es₁ <+: es → IsPaused sid (run env (step env w ⟨t, .pause sid caller⟩) es₁))
    (hs : (run env (step env w ⟨t, .pause sid caller⟩) es).db.sessions.find sid = some s)
    (ht : t ≤ t₁) (ht₁ : t₁ ≤ t₂) :
    Frozen env s ((pausedRow t s₀).remainingMinutes +
      (s.extendedMinutes - s₀.extendedMinutes)) t₁ t₂ ↔
      elapsed t s₀ ≤ granted s₀ ∧ elapsed t₂ s₀ = elapsed t s₀ := by
  have hext : Extended (pausedRow t s₀) s :=
    extended_run (step_pause h₀ hact hcaller) ⟨rfl, rfl, rfl, rfl, by simp⟩ hpaused hs
  have hel : ∀ t', elapsed t' s = elapsed t' s₀ := fun t' => by
    rw [elapsed, hext.started, hext.resumed]
    rfl
  have hgr : granted s = granted s₀ + (s.extendedMinutes - s₀.extendedMinutes) := by
    have hdur : s.durationMinutes = s₀.durationMinutes := hext.duration
    rw [granted, granted, hdur]
    omega
  have hstored : (pausedRow t s₀).remainingMinutes = max 0 (granted s₀ - elapsed t s₀) := rfl
  have h1 := elapsed_mono s₀ ht
  have h2 := elapsed_mono s₀ ht₁
  constructor
  · intro hfrozen
    have hsecond := hfrozen.second
    rw [remaining_of_paused hext.status, hel, hgr, hstored] at hsecond
    omega
  · rintro ⟨hover, hsame⟩
    have hsame₁ : elapsed t₁ s₀ = elapsed t s₀ := by omega
    refine ⟨?_, ?_, fun v sourceIp domain hv₁ hv₂ => ?_⟩
    · rw [remaining_of_paused hext.status, hel, hgr, hstored, hsame₁, max_eq_right (by omega)]
      ring
    · rw [remaining_of_paused hext.status, hel, hgr, hstored, hsame, max_eq_right (by omega)]
      ring
    · have hexh : exhausted t₁ s = true ↔ exhausted t₂ s = true := by
        rw [exhausted_iff_elapsed, exhausted_iff_elapsed, hel, hel, hsame₁, hsame]
      rw [answer_of_asks hv₁, answer_of_asks hv₂, atTime_now, atTime_now, Bool.eq_iff_iff.mpr hexh]

/-- An hour is paused after ten minutes and looked at twenty seconds later. -/
theorem frozen_iff_ten_minutes :
    Frozen .plain (pausedRow 600000 hour)
        ((pausedRow 600000 hour).remainingMinutes +
          ((pausedRow 600000 hour).extendedMinutes - hour.extendedMinutes)) 600000 620000 ↔
      elapsed 600000 hour ≤ granted hour ∧ elapsed 620000 hour = elapsed 600000 hour := by
  refine @frozen_iff .plain hourStarted hour.id "amal" hour (pausedRow 600000 hour) 600000 600000
    620000 [] rfl rfl rfl ?_ rfl le_rfl (by decide)
  intro es₁ hes
  rw [List.prefix_nil.mp hes]
  exact ⟨_, rfl, rfl⟩

/-- Paused after ten minutes, the hour has only forty minutes left ten minutes later. -/
theorem thawed_after_ten_minutes : ¬ ∀ (env : Env) (w : World) (sid caller : String)
    (s₀ s : Session) (t t₁ t₂ : Time) (es : List Event), w.db.sessions.find sid = some s₀ →
    s₀.status = .active → s₀.parentId = caller →
    (∀ es₁, es₁ <+: es → IsPaused sid (run env (step env w ⟨t, .pause sid caller⟩) es₁)) →
    (run env (step env w ⟨t, .pause sid caller⟩) es).db.sessions.find sid = some s →
    t ≤ t₁ → t₁ ≤ t₂ →
    Frozen env s ((pausedRow t s₀).remainingMinutes + (s.extendedMinutes - s₀.extendedMinutes)) t₁
      t₂ := by
  intro h
  have hfrozen := h .plain hourStarted hour.id "amal" hour (pausedRow 600000 hour) 600000 600000
    1200000 [] rfl rfl rfl (fun es₁ hes => by rw [List.prefix_nil.mp hes]; exact ⟨_, rfl, rfl⟩) rfl
    le_rfl (by decide)
  exact absurd hfrozen.second (by decide)

end GuardTime.Session.Paused
