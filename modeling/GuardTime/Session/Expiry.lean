import Mathlib.Tactic
import GuardTime.Household
import GuardTime.Dns.Engine
import GuardTime.Session.Budget

/-! # The two expiry clocks

The session service counts the minutes granted, extensions included; the DNS engine subtracts the
elapsed time from `durationMinutes` alone, because `remainingMinutes` cancels out of its formula
(`exhausted_iff`). The two agree exactly outside the time the extensions add: `clocks_agree_iff`. -/

namespace GuardTime.Session.Expiry

open GuardTime.Lib.Program GuardTime.Lib.Keyed GuardTime.Lib.Js GuardTime.Schema GuardTime.Server
open GuardTime.Prisma GuardTime.Services GuardTime.Services.Sessions GuardTime.Services.DnsPolicy
open GuardTime.Dns.Engine GuardTime.Session.Lifecycle GuardTime.Session.Budget

/-- The milliseconds since the session last started to run. -/
def runningFor (t : Time) (s : Session) : ℤ := t - s.resumedAt.getD s.startedAt

theorem exhausted_iff (t : Time) (s : Session) :
    exhausted t s = true ↔ s.durationMinutes * 60000 ≤ runningFor t s := by
  simp only [exhausted, runningFor, decide_eq_true_eq]
  constructor <;> intro h <;> linarith

theorem remaining_eq_zero_iff {s : Session} (h : s.status = .active) (t : Time) :
    calculateRemainingMinutes t s = 0 ↔ granted s * 60000 ≤ runningFor t s := by
  simp only [calculateRemainingMinutes, calculateElapsedMinutes, h, runningFor, granted]
  simp only [reduceCtorEq, if_false, ne_eq, not_true_eq_false]
  generalize t - s.resumedAt.getD s.startedAt = x
  omega

/-- The query reaches the session check of the device of `s`, and `s` is its latest session. -/
structure ReachesSession (env : Env) (w : World) (sourceIp domain : String)
    (s : Session) : Prop where
  miss : cachedFor w sourceIp domain = none
  lax : env.strictMode = false
  device : ∃ d, lookup w.db (upcoming w 0) sourceIp = some d ∧ d.id = s.deviceId ∧
    d.internetLocked = false ∧ d.status ≠ .blocked
  row : w.db.sessions.find s.id = some s
  latest : ∀ s' ∈ w.db.sessions.rows, isCurrent s.deviceId s' = true → s' ≠ s →
    s'.startedAt < s.startedAt

theorem domainVerdict_reason (env : Env) (db : Database) (n : ℕ) (domain : String) (d : Device) :
    (domainVerdict env db n domain d).reason ≠ some .timeLimitExceeded := by
  unfold domainVerdict
  split
  · simp [allowResponse]
  · split_ifs <;> simp [blockResponse]

/-- The answer to such a query. -/
theorem reason_iff {env : Env} {w : World} {sourceIp domain : String} {s : Session}
    (h : ReachesSession env w sourceIp domain s) (hact : s.status = .active) :
    ∃ r, ((checkPolicy env sourceIp domain).run w).1 = .ok r ∧
      (r.reason = some .timeLimitExceeded ↔ exhausted w.now s = true) := by
  refine ⟨_, checkPolicy_of_miss h.miss env, ?_⟩
  obtain ⟨d, hd, hid, hlock, hblock⟩ := h.device
  have hcur : currentSession w.db (upcoming w 1) d.id = some s := by
    rw [hid]
    exact currentSession_eq (Table.mem_of_find h.row) (by simp [isCurrent, hact]) h.latest _
  simp only [verdict, hd, deviceVerdict, h.lax, Bool.false_and, Bool.false_eq_true, if_false, hlock,
    hblock, hcur, Option.any_some]
  split_ifs with he
  · simp [blockResponse, he]
  · simp [domainVerdict_reason, he]

/-- **The two clocks.** For every reachable active session, a query that reaches the session check
answers `TIME_LIMIT_EXCEEDED` exactly when the service sees no minutes left, if and only if the time
is not inside the minutes added by extensions. -/
theorem clocks_agree_iff {env : Env} {parentId : String} {dto : StartSessionDto} {w₀ w : World}
    {s₀ : Session} (h : (Sessions.start env parentId dto).run w₀ = (.ok s₀, w)) {es : List Event}
    (ho : Ordered w.now es) {s : Session}
    (hs : (trackFrom s₀.id w es).1.db.sessions.find s₀.id = some s) (hact : s.status = .active)
    {v : World} {sourceIp domain : String} (hv : ReachesSession env v sourceIp domain s) :
    (∃ r, ((checkPolicy env sourceIp domain).run v).1 = .ok r ∧
      (r.reason = some .timeLimitExceeded ↔ calculateRemainingMinutes v.now s = 0)) ↔
      ¬ (s.durationMinutes * 60000 ≤ runningFor v.now s ∧
        runningFor v.now s < (s.durationMinutes + s.extendedMinutes) * 60000) := by
  obtain ⟨s', hs', ha, -⟩ := (tracks_run es (tracks_start h) ho).row
  obtain rfl : s' = s := Option.some.inj (hs'.symm.trans hs)
  have hext := ha.extended
  obtain ⟨r, hr, hreason⟩ := reason_iff hv hact
  have hagree : (r.reason = some .timeLimitExceeded ↔ calculateRemainingMinutes v.now s' = 0) ↔
      ¬ (s'.durationMinutes * 60000 ≤ runningFor v.now s' ∧
        runningFor v.now s' < (s'.durationMinutes + s'.extendedMinutes) * 60000) := by
    rw [hreason, exhausted_iff, remaining_eq_zero_iff hact, granted]
    omega
  rw [← hagree]
  constructor
  · rintro ⟨r', hr', h'⟩
    obtain rfl : r' = r := Except.ok.inj (hr'.symm.trans hr)
    exact h'
  · exact fun h' => ⟨r, hr, h'⟩

/-- A household whose device has an address. -/
def wired : World := .fresh (Household.withDevices
  [{ Household.device "tablet" "amal" "adam" with ipAddress := some "10.0.0.5" }] (by decide)) 0

/-- The world after the start of an hour. -/
def hourStarted : World := ((Sessions.start .plain "amal" oneHour).run wired).2

theorem start_wired :
    (Sessions.start .plain "amal" oneHour).run wired = (.ok hour, hourStarted) := rfl

/-- The world ten minutes after a break. -/
def hourResumed : World := { (trackFrom hour.id hourStarted withBreak).1 with now := 2400000 }

theorem reaches_resumedHour :
    ReachesSession .plain hourResumed "10.0.0.5" "example.org" resumedHour where
  miss := rfl
  lax := rfl
  device := ⟨_, rfl, rfl, rfl, by decide⟩
  row := rfl
  latest := by decide

theorem clocks_agree_after_break :
    (∃ r, ((checkPolicy .plain "10.0.0.5" "example.org").run hourResumed).1 = .ok r ∧
      (r.reason = some .timeLimitExceeded ↔
        calculateRemainingMinutes hourResumed.now resumedHour = 0)) ↔
      ¬ (resumedHour.durationMinutes * 60000 ≤ runningFor hourResumed.now resumedHour ∧
        runningFor hourResumed.now resumedHour <
          (resumedHour.durationMinutes + resumedHour.extendedMinutes) * 60000) :=
  have ordered : Ordered hourStarted.now withBreak := ⟨by decide, by decide, by decide, trivial⟩
  clocks_agree_iff start_wired ordered rfl rfl reaches_resumedHour

/-- An hour extended by half an hour: after one hour the engine blocks, with thirty minutes left. -/
theorem clocks_disagree_extended : ¬ ∀ (env : Env) (parentId : String) (dto : StartSessionDto)
    (w₀ w : World) (s₀ : Session), (Sessions.start env parentId dto).run w₀ = (.ok s₀, w) →
    ∀ es : List Event, Ordered w.now es → ∀ s : Session,
    (trackFrom s₀.id w es).1.db.sessions.find s₀.id = some s → s.status = .active →
    ∀ (v : World) (sourceIp domain : String), ReachesSession env v sourceIp domain s →
    ∃ r, ((checkPolicy env sourceIp domain).run v).1 = .ok r ∧
      (r.reason = some .timeLimitExceeded ↔ calculateRemainingMinutes v.now s = 0) := by
  intro h
  let es : List Event := [⟨0, "amal", .extend ⟨30, by decide⟩⟩]
  let s : Session := { hour with remainingMinutes := 90, extendedMinutes := 30 }
  let v : World := { (trackFrom hour.id hourStarted es).1 with now := 3600000 }
  have ordered : Ordered hourStarted.now es := ⟨by decide, trivial⟩
  have reaches : ReachesSession .plain v "10.0.0.5" "example.org" s :=
    ⟨rfl, rfl, ⟨_, rfl, rfl, rfl, by decide⟩, rfl, by decide⟩
  obtain ⟨r, hr, hiff⟩ :=
    h .plain "amal" oneHour wired hourStarted hour start_wired es ordered s rfl
    rfl v "10.0.0.5" "example.org" reaches
  obtain rfl : blockResponse .timeLimitExceeded = r := Except.ok.inj hr
  exact absurd (hiff.mp rfl) (by decide)

end GuardTime.Session.Expiry
