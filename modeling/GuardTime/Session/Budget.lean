import Mathlib.Tactic
import GuardTime.Household
import GuardTime.Services.Scheduler
import GuardTime.Session.Lifecycle

/-! # The time budget of a session

A stopwatch observes the status of a session along a run and adds up the time it has been active,
over all its active intervals. `calculateRemainingMinutes` counts only from the last resume, so it
agrees with the stopwatch exactly while no earlier active interval is lost: `budget_iff`.

* `Tracks`: what ties the session row to the stopwatch, kept by every step (`tracks_run`);
* `expired_of_pass`: a scheduler pass expires every session without remaining minutes. -/

namespace GuardTime.Session.Budget

open GuardTime.Lib.Program GuardTime.Lib.Keyed GuardTime.Lib.Js GuardTime.Schema GuardTime.Server
open GuardTime.Prisma GuardTime.Services GuardTime.Services.Sessions GuardTime.Session.Lifecycle

/-! ### The stopwatch -/

/-- The milliseconds of the closed active intervals, and when the current one began. -/
structure Stopwatch where
  closed : ℤ
  openSince : Option Time
deriving DecidableEq

namespace Stopwatch

/-- Nothing observed yet. -/
def fresh : Stopwatch := ⟨0, none⟩

/-- At time `t` the session is seen active or not. -/
def observe (sw : Stopwatch) (t : Time) (active : Bool) : Stopwatch :=
  match sw.openSince, active with
  | some since, false => ⟨sw.closed + (t - since), none⟩
  | none, true => ⟨sw.closed, some t⟩
  | _, _ => sw

/-- The length of the current active interval up to `t`. -/
def current (sw : Stopwatch) (t : Time) : ℤ := (sw.openSince.map (t - ·)).getD 0

/-- All active time up to `t`. -/
def total (sw : Stopwatch) (t : Time) : ℤ := sw.closed + sw.current t

end Stopwatch

/-- The session is active. -/
def isActive (sid : String) (w : World) : Bool :=
  (w.db.sessions.find sid).any fun s => s.status = .active

/-- A run under observation. -/
def track (sid : String) (w : World) (sw : Stopwatch) : List Event → World × Stopwatch
  | [] => (w, sw)
  | e :: es => track sid (step sid w e) (sw.observe e.time (isActive sid (step sid w e))) es

/-- `start`, observed at its own time, then the requests. -/
def trackFrom (sid : String) (w : World) (es : List Event) : World × Stopwatch :=
  track sid w (Stopwatch.fresh.observe w.now (isActive sid w)) es

/-! ### The row follows the stopwatch -/

/-- The session row `s` and the stopwatch agree on the current interval. -/
structure Agrees (s : Session) (sw : Stopwatch) (now : Time) : Prop where
  running : s.status = .active ∨ s.status = .paused
  duration : 1 ≤ s.durationMinutes
  extended : 0 ≤ s.extendedMinutes
  closed : 0 ≤ sw.closed
  paused : s.status = .paused → sw.openSince = none
  active : s.status = .active → sw.openSince = some (s.resumedAt.getD s.startedAt)
  past : s.resumedAt.getD s.startedAt ≤ now

/-- The world holds the session, its device, and `Agrees`. -/
structure Tracks (sid : String) (w : World) (sw : Stopwatch) : Prop where
  row : ∃ s, w.db.sessions.find sid = some s ∧ Agrees s sw w.now ∧
    ∃ d, w.db.devices.find s.deviceId = some d

theorem observe_active {sw : Stopwatch} {t since : Time} (h : sw.openSince = some since) :
    sw.observe t true = sw := by
  simp [Stopwatch.observe, h]

theorem observe_paused {sw : Stopwatch} {t : Time} (h : sw.openSince = none) :
    sw.observe t false = sw := by
  simp [Stopwatch.observe, h]

/-- One request keeps row and stopwatch together. -/
theorem agrees_next {s : Session} {sw : Stopwatch} {now : Time} (h : Agrees s sw now)
    {e : Event} (he : now ≤ e.time) :
    Agrees (e.op.next e.caller e.time s)
      (sw.observe e.time ((e.op.next e.caller e.time s).status = .active)) e.time := by
  have stay : Agrees s (sw.observe e.time (s.status = .active)) e.time := by
    rcases h.running with hs | hs
    · simpa [hs, observe_active (h.active hs)] using { h with past := h.past.trans he }
    · simpa [hs, observe_paused (h.paused hs)] using { h with past := h.past.trans he }
  obtain ⟨time, caller, op⟩ := e
  by_cases hp : s.parentId = caller
  swap
  · simpa [Op.next, hp] using stay
  cases op with
  | pause =>
    by_cases hs : s.status = .active
    · -- the current interval is closed
      simp only [Op.next, hp, hs, ne_eq, not_true_eq_false, if_true, if_false]
      refine ⟨.inr rfl, h.duration, h.extended, ?_, fun _ => ?_, fun hc => (by simp at hc),
        h.past.trans he⟩
      · simp only [Stopwatch.observe, h.active hs, reduceCtorEq, decide_false]
        exact add_nonneg h.closed (sub_nonneg.mpr (h.past.trans he))
      · simp [Stopwatch.observe, h.active hs]
    · simpa [Op.next, hp, hs] using stay
  | resume =>
    by_cases hs : s.status = .paused
    · -- a new interval begins now
      simp only [Op.next, hp, hs, ne_eq, not_true_eq_false, if_true, if_false]
      refine ⟨.inl rfl, h.duration, h.extended, ?_, fun hc => (by simp at hc), fun _ => ?_, le_rfl⟩
      · simpa [Stopwatch.observe, h.paused hs] using h.closed
      · simp [Stopwatch.observe, h.paused hs]
    · simpa [Op.next, hp, hs] using stay
  | extend dto =>
    simp only [Op.next, hp, ne_eq, not_true_eq_false, h.running, if_true, if_false]
    have := dto.pos
    have := h.extended
    exact { stay with extended := by simp only; omega }

theorem tracks_step {sid : String} {w : World} {sw : Stopwatch} (h : Tracks sid w sw) {e : Event}
    (he : w.now ≤ e.time) :
    Tracks sid (step sid w e) (sw.observe e.time (isActive sid (step sid w e))) := by
  obtain ⟨s, hs, ha, d, hd⟩ := h.row
  obtain ⟨⟨t, hdb⟩, hnow, hrow⟩ := step_eq hs e
  have hdev : (e.op.next e.caller e.time s).deviceId = s.deviceId := by
    unfold Op.next; split_ifs <;> (try split) <;> rfl
  refine ⟨_, hrow, ?_, d, ?_⟩
  · rw [hnow, isActive, hrow]
    exact agrees_next ha he
  · rw [hdb, hdev]; exact hd

theorem tracks_run {sid : String} : ∀ (es : List Event) {w : World} {sw : Stopwatch},
    Tracks sid w sw → Ordered w.now es → Tracks sid (track sid w sw es).1 (track sid w sw es).2
  | [], _, _, h, _ => h
  | e :: es, w, _, h, ho => by
    refine tracks_run es (tracks_step h ho.1) ?_
    obtain ⟨s, hs, -⟩ := h.row
    rw [(step_eq hs e).2.1]
    exact ho.2

/-- A started session is tracked. -/
theorem tracks_start {env : Env} {parentId : String} {dto : StartSessionDto} {w w' : World}
    {s : Session} (h : (Sessions.start env parentId dto).run w = (.ok s, w')) :
    Tracks s.id w' (Stopwatch.fresh.observe w'.now (isActive s.id w')) := by
  obtain ⟨d, t, hd, -, -, -, -, hins, hdb, hnow, hs⟩ := start_ok h
  have hdev : s.deviceId = dto.deviceId := congrArg Session.deviceId hs
  have hst : s.status = .active := congrArg Session.status hs
  have hstart : s.startedAt = w.now := congrArg Session.startedAt hs
  have hres : s.resumedAt = none := congrArg Session.resumedAt hs
  have hdur : s.durationMinutes = dto.durationMinutes := congrArg Session.durationMinutes hs
  have hext : s.extendedMinutes = 0 := congrArg Session.extendedMinutes hs
  have hrow : w'.db.sessions.find s.id = some s := by
    rw [hdb]; exact Table.find_insert hins
  have hact : isActive s.id w' = true := by simp [isActive, hrow, hst]
  refine ⟨s, hrow, ?_, d, by rw [hdb, hdev]; exact hd⟩
  rw [hact]
  refine ⟨.inl hst, hdur ▸ dto.pos, hext.ge, le_rfl,
    fun hc => (by simp [hst] at hc), fun _ => ?_, ?_⟩
  · simp [Stopwatch.observe, Stopwatch.fresh, hres, hstart, hnow]
  · simp [hres, hstart, hnow]

/-! ### The scheduler's pass -/

/-- The session's row says expired. -/
def Expired (sid : String) (w : World) : Prop :=
  ∃ s, w.db.sessions.find sid = some s ∧ s.status = .expired

/-- The session still has a row, and the clock shows `t`. -/
def Present (sid : String) (t : Time) (w : World) : Prop :=
  (w.db.sessions.find sid).isSome ∧ w.now = t

/-- Enforcement leaves every property of the session table and the clock alone. -/
theorem enforcementSafe {I : World → Prop}
    (hI : ∀ w w' : World, w'.db.sessions = w.db.sessions → w'.now = w.now → I w → I w') :
    Relays I fun _ => True :=
  have steady : Steady I := fun w => hI w _ rfl rfl
  have device : Free .device I := fun w _ => hI w _ rfl rfl
  EnforcementSafe.relays
  { steady
    auditLog := fun w _ => hI w _ rfl rfl
    notificationEvent := fun w _ => hI w _ rfl rfl
    pushToken := fun w _ => hI w _ rfl rfl
    command := fun w _ => hI w _ rfl rfl
    routerCommand := fun w _ => hI w _ rfl rfl
    queue := fun w _ => hI w _ rfl rfl
    status := fun _ _ => device.update steady _ _ _
    invalidate := fun _ => DnsPolicy.keeps_invalidateSourceIps fun w _ => hI w _ rfl rfl }

theorem keeps_blockGaming {I : World → Prop}
    (hI : ∀ w w' : World, w'.db.sessions = w.db.sessions → w'.now = w.now → I w → I w')
    (childId reason : String) : Prog.Keeps I (Scheduler.blockGaming childId reason) :=
  have block : Free .categoryBlock I := fun w _ => hI w _ rfl rfl
  (block.upsert (fun w => hI w _ rfl rfl) _ _ _ _).bind fun _ => .pure _

/-- `expire` on any session keeps what every update that expires sessions keeps. -/
theorem keeps_expire {I : World → Prop} (hI : Steady I)
    (h : ∀ w k t, I w → I (World.afterCall w { w.db with
      sessions := Model.session.patch w.db.sessions w.now k
        (fun s => { s with status := .expired, expiredAt := some t, remainingMinutes := 0 })
        fun _ => rfl })) (k : String) : Prog.Keeps I (Sessions.expire k) :=
  .bind (keeps_query hI _) fun _ => .bind (.orThrow _ _) fun _ => .bind keeps_newDate fun t =>
    keeps_update hI fun w _ hw _ _ => h w k t hw

theorem keeps_checkSession_present {sid : String} {t : Time} (env : Env) (s : Session)
    (d : Device) : Prog.Keeps (Present sid t) (Scheduler.checkSession env s d) := by
  have hI : ∀ w w' : World, w'.db.sessions = w.db.sessions → w'.now = w.now →
      Present sid t w → Present sid t w' :=
        fun w w' hs hn h => ⟨by rw [hs]; exact h.1, hn.trans h.2⟩
  refine Scheduler.keeps_checkSession (enforcementSafe hI) env d
    (keeps_expire (fun w => hI w _ rfl rfl) (fun w k t' h => ⟨?_, h.2⟩) _) (keeps_blockGaming hI _)
  obtain ⟨r, hr⟩ := Option.isSome_iff_exists.mp h.1
  exact Option.isSome_iff_exists.mpr
    ⟨_, Model.find_patch_some (m := Model.session) hr fun _ => by rfl⟩

theorem keeps_expired {sid : String} : ∀ w w' : World, w'.db.sessions = w.db.sessions →
    w'.now = w.now → Expired sid w → Expired sid w' := fun w w' hs _ h => by
  unfold Expired; rw [hs]; exact h

theorem keeps_expire_expired {sid : String} (k : String) :
    Prog.Keeps (Expired sid) (Sessions.expire k) := by
  refine keeps_expire (fun w => keeps_expired w _ rfl rfl) (fun w k t ⟨s, hs, he⟩ => ?_) k
  refine ⟨_, Model.find_patch_some (m := Model.session) hs fun _ => by rfl, ?_⟩
  split_ifs
  · rfl
  · exact he

theorem keeps_checkSession_expired {sid : String} (env : Env) (s : Session) (d : Device) :
    Prog.Keeps (Expired sid) (Scheduler.checkSession env s d) :=
  Scheduler.keeps_checkSession (enforcementSafe keeps_expired) env d (keeps_expire_expired _)
    (keeps_blockGaming keeps_expired _)

theorem expire_expired {sid : String} {w : World} {s : Session}
    (h : w.db.sessions.find sid = some s) : Expired sid ((Sessions.expire sid).run w).2 := by
  have h' : (World.afterCall w w.db).db.sessions.find sid = some s := h
  have hrun : (Sessions.expire sid).run w = (Prisma.update .session sid (fun s =>
      { s with status := .expired, expiredAt := some w.now, remainingMinutes := 0 })).run
        (World.afterCall w w.db) := by
    simp [Sessions.expire, Model.session, h]
  rw [hrun]
  exact ⟨_, (run_update_session h' rfl).2, rfl⟩

theorem expireSession_expired {w : World} {s r : Session} (h : w.db.sessions.find s.id = some r)
    (env : Env) (d : Device) : Expired s.id ((Scheduler.expireSession env s d).run w).2 := by
  have safe := enforcementSafe (@keeps_expired s.id)
  exact Prog.Keeps.after (expire_expired h) fun _ => (safe.handleOfflineViolation d).bind fun _ =>
    (keeps_ignoreErrors (keeps_blockGaming keeps_expired _ _)).bind fun _ =>
      (safe.notify env _).bind fun _ => safe.log _

theorem checkSession_expired {w : World} {s : Session} {t : Time} (hw : Present s.id t w)
    (hrem : calculateRemainingMinutes t s ≤ 0) (env : Env) (d : Device) :
    Expired s.id ((ignoreErrors (Scheduler.checkSession env s d)).run w).2 := by
  obtain ⟨r, hr⟩ := Option.isSome_iff_exists.mp hw.1
  have hexp := expireSession_expired hr env d
  have hrun : (Scheduler.checkSession env s d).run w = (Scheduler.expireSession env s d).run w := by
    rw [Scheduler.checkSession, Prog.run_bind, run_newDate, hw.2]
    simp only [if_pos hrem]
  rw [ignoreErrors, Prog.run_catchErr, hrun]
  rcases hr' : (Scheduler.expireSession env s d).run w with ⟨e | a, w'⟩ <;>
    rw [hr'] at hexp <;> exact hexp

/-- **A pass expires what has run out.** -/
theorem expired_of_pass {w : World} {sid : String} {s : Session} {d : Device}
    (hs : w.db.sessions.find sid = some s) (hact : s.status = .active)
    (hd : w.db.devices.find s.deviceId = some d)
    (hrem : calculateRemainingMinutes w.now s ≤ 0) (env : Env) :
    Expired sid ((Scheduler.checkActiveSessions env).run w).2 := by
  obtain rfl : s.id = sid := Table.key_of_find hs
  have hmem : (s, d) ∈ Scheduler.activeSessions w.db (w.tape w.calls) := by
    refine List.mem_filterMap.mpr ⟨s, ?_, by simp [hd]⟩
    simpa [matching, hact, Model.session] using Table.mem_of_find hs
  have body : ∀ w', Present s.id w.now w' → Expired s.id
      ((ignoreErrors (Scheduler.checkSession env (s, d).1 (s, d).2)).run w').2 :=
    fun w' hw => checkSession_expired hw hrem env d
  have loop := Prog.forEach_reaches
    (f := fun p : Session × Device => ignoreErrors (Scheduler.checkSession env p.1 p.2))
    (fun p => yields_ignoreErrors _) body hmem
    (fun p _ => keeps_ignoreErrors (keeps_checkSession_present env p.1 p.2))
    fun p _ => keeps_ignoreErrors (keeps_checkSession_expired env p.1 p.2)
  rw [Scheduler.checkActiveSessions, Prog.run_bind, run_query]
  exact loop (World.afterCall w w.db) ⟨by simp [hs], rfl⟩

/-! ### The budget -/

/-- The minutes granted so far. -/
def granted (s : Session) : ℤ := s.durationMinutes + s.extendedMinutes

/-- At time `t` the remaining minutes are what all active time has left of the grant, and a pass
expires the session once the grant is used up. -/
structure WithinBudget (env : Env) (s : Session) (w : World) (sw : Stopwatch)
    (t : Time) : Prop where
  remaining : calculateRemainingMinutes t s = max 0 (granted s - sw.total t / 60000)
  expires : granted s * 60000 ≤ sw.total t →
    Expired s.id ((Scheduler.checkActiveSessions env).run { w with now := t }).2

/-- Of an active session: the remaining minutes, by the current interval alone. -/
theorem remaining_of_agrees {s : Session} {sw : Stopwatch} {now t : Time} (h : Agrees s sw now)
    (hact : s.status = .active) :
    calculateRemainingMinutes t s = max 0 (granted s - sw.current t / 60000) := by
  simp [calculateRemainingMinutes, calculateElapsedMinutes, hact, granted, Stopwatch.current,
    h.active hact]

theorem current_sub {s : Session} {sw : Stopwatch} {now : Time} (h : Agrees s sw now)
    (hact : s.status = .active) (t t' : Time) : sw.current t' = sw.current t + (t' - t) := by
  simp only [Stopwatch.current, h.active hact, Option.map_some, Option.getD_some]
  ring

/-- **The budget of a session.** In every state an active session can reach, the remaining minutes
respect the budget from then on exactly when no active time was lost at a resume, or when the
current interval alone has already used up the grant. -/
theorem budget_iff {env : Env} {parentId : String} {dto : StartSessionDto} {w₀ w : World}
    {s₀ : Session} (h : (Sessions.start env parentId dto).run w₀ = (.ok s₀, w)) {es : List Event}
    (ho : Ordered w.now es) {w' : World} {sw : Stopwatch} (hrun : trackFrom s₀.id w es = (w', sw))
    {s : Session} (hs : w'.db.sessions.find s₀.id = some s) (hact : s.status = .active) :
    (∀ t, w'.now ≤ t → WithinBudget env s w' sw t) ↔
      sw.closed = 0 ∨ granted s * 60000 ≤ sw.current w'.now := by
  have htr : Tracks s₀.id w' sw := by
    have := tracks_run es (tracks_start h) ho
    rw [trackFrom] at hrun
    rwa [hrun] at this
  obtain ⟨s', hs', ha, d, hd⟩ := htr.row
  obtain rfl : s' = s := Option.some.inj (hs'.symm.trans hs)
  have hid : s'.id = s₀.id := Table.key_of_find hs
  have hclosed := ha.closed
  constructor
  · intro hall
    by_contra hne
    rw [not_or, not_le] at hne
    -- one millisecond before the current interval uses up the grant
    let t : Time := w'.now + (granted s' * 60000 - 1 - sw.current w'.now)
    have hcur : sw.current t = granted s' * 60000 - 1 := by
      rw [current_sub ha hact w'.now t]; simp only [t]; ring
    have hle : w'.now ≤ t := by
      have := Int.le_sub_one_of_lt hne.2
      exact le_add_of_nonneg_right (sub_nonneg.mpr this)
    have hrem := (hall t hle).remaining
    rw [remaining_of_agrees ha hact, Stopwatch.total, hcur] at hrem
    have h1 : (granted s' * 60000 - 1) / 60000 = granted s' - 1 := by omega
    have h2 : granted s' ≤ (sw.closed + (granted s' * 60000 - 1)) / 60000 := by omega
    rw [h1] at hrem
    omega
  · intro hcase t ht
    have hmono : sw.current w'.now ≤ sw.current t := by
      rw [current_sub ha hact w'.now t]
      exact le_add_of_nonneg_right (sub_nonneg.mpr ht)
    have hrem : calculateRemainingMinutes t s' = max 0 (granted s' - sw.total t / 60000) := by
      rw [remaining_of_agrees ha hact, Stopwatch.total]
      rcases hcase with h0 | hused
      · rw [h0, zero_add]
      · omega
    refine ⟨hrem, fun hfull => ?_⟩
    have hzero : calculateRemainingMinutes t s' ≤ 0 := by omega
    rw [hid]
    exact @expired_of_pass { w' with now := t } s₀.id s' d hs hact hd hzero env

/-- A household with one device, at time 0. -/
def home : World :=
  .fresh (Household.withDevices [Household.device "tablet" "amal" "adam"]
    (Household.nodup_device "tablet" "amal" "adam")) 0

/-- One hour for the device. -/
def oneHour : StartSessionDto := ⟨"tablet", 60, by decide⟩

/-- The world after the start. -/
def started : World := ((Sessions.start .plain "amal" oneHour).run home).2

/-- The session that starts. -/
def hour : Session :=
  { id := "uuid-3-0", deviceId := "tablet", childId := "adam", parentId := "amal",
    status := .active,
    startedAt := 0, pausedAt := none, resumedAt := none, stoppedAt := none, expiredAt := none,
    durationMinutes := 60, remainingMinutes := 60, extendedMinutes := 0, violated := false,
    activeApp := none, createdAt := 0, updatedAt := 0 }

theorem start_home : (Sessions.start .plain "amal" oneHour).run home = (.ok hour, started) := rfl

/-- A quarter of an hour more, and a break of ten minutes. -/
def withBreak : List Event :=
  [⟨600000, "amal", .extend ⟨15, by decide⟩⟩, ⟨1200000, "amal", .pause⟩, ⟨1800000, "amal", .resume⟩]

/-- The world after the break. -/
def resumed : World := (trackFrom hour.id started withBreak).1

/-- The session after the break. -/
def resumedHour : Session :=
  { hour with
    pausedAt := some 1200000, resumedAt := some 1800000, remainingMinutes := 55,
    extendedMinutes := 15, updatedAt := 1800000 }

theorem budget_iff_resumed :
    (∀ t, resumed.now ≤ t → WithinBudget .plain resumedHour resumed ⟨1200000, some 1800000⟩ t) ↔
      (1200000 : ℤ) = 0 ∨
        granted resumedHour * 60000 ≤ Stopwatch.current ⟨1200000, some 1800000⟩ resumed.now :=
  have ordered : Ordered started.now withBreak := ⟨by decide, by decide, by decide, trivial⟩
  budget_iff start_home ordered (Prod.ext rfl (by decide)) rfl rfl

/-- A session of one hour, paused and resumed after fifty minutes, has an hour left again. -/
theorem budget_lost_at_resume : ¬ ∀ (env : Env) (parentId : String) (dto : StartSessionDto)
    (w₀ w : World) (s₀ : Session), (Sessions.start env parentId dto).run w₀ = (.ok s₀, w) →
    ∀ es : List Event, Ordered w.now es → ∀ (w' : World) (sw : Stopwatch),
    trackFrom s₀.id w es = (w', sw) → ∀ s, w'.db.sessions.find s₀.id = some s →
    s.status = .active → ∀ t, w'.now ≤ t → WithinBudget env s w' sw t := by
  intro h
  let es : List Event := [⟨3000000, "amal", .pause⟩, ⟨3000000, "amal", .resume⟩]
  have ordered : Ordered started.now es := ⟨by decide, le_rfl, trivial⟩
  have within := h .plain "amal" oneHour home started hour start_home es ordered
    _ ⟨3000000, some 3000000⟩ (Prod.ext rfl (by decide)) _ rfl rfl 3000000 le_rfl
  exact absurd within.remaining (by decide)

end GuardTime.Session.Budget
