import Mathlib.Tactic
import GuardTime.Session.Budget
import GuardTime.Session.Runs

/-! # The daily limit of a child

A `start` is admitted by what `getUsedMinutesToday` counts: of a session that has not ended, only
what was stored at its last pause. What the child can have consumed on a day is more: the minutes
its sessions were ACTIVE, read off a stopwatch for each session, plus what they have left.
`within_limit`: in a run of careful requests (`Careful`) this never exceeds the limit.

* `Fits`: what ties a row of the day to its stopwatch;
* `Kept`: the durations granted on the day stay within the limit, and every row fits. -/

namespace GuardTime.Session.DailyLimit

open GuardTime.Lib.Program GuardTime.Lib.Keyed GuardTime.Lib.Js GuardTime.Lib.Runs GuardTime.Schema
open GuardTime.Server GuardTime.Services GuardTime.Services.Sessions GuardTime.Session.Runs
open GuardTime.Session.Budget
open GuardTime.Session.Lifecycle (Op.next)

/-! ### What a child can consume -/

/-- A session of the child, started since `day`. -/
def ofDay (childId : String) (day : Time) (s : Session) : Bool :=
  s.childId = childId && day ≤ s.startedAt

/-- The minutes the session still has: what the service reads while it is ACTIVE, what the pause has
stored while it is PAUSED. -/
def left (t : Time) (s : Session) : ℤ :=
  if s.status = .active then calculateRemainingMinutes t s
  else if s.status = .paused then s.remainingMinutes
  else 0

/-- A world with a stopwatch for each session. -/
abbrev Watched : Type := World × (String → Stopwatch)

/-- A request, observed by the stopwatches. -/
def watch (env : Env) (x : Watched) (e : Event) : Watched :=
  (step env x.1 e, fun sid => (x.2 sid).observe e.time (isActive sid (step env x.1 e)))

/-- Nothing has run yet. -/
def Watched.start (w : World) : Watched := (w, fun _ => .fresh)

section
variable (childId : String) (day : Time)

/-- The sessions of the child on the day. -/
def daySessions (w : World) : List Session := w.db.sessions.rows.filter (ofDay childId day)

/-- The durations granted on the day. -/
def grantedToday (w : World) : ℤ := ((daySessions childId day w).map Session.durationMinutes).sum

/-- The minutes spent ACTIVE on the day, plus the minutes that are left. -/
def consumable (x : Watched) (t : Time) : ℤ :=
  ((daySessions childId day x.1).map fun s => (x.2 s.id).total t / 60000 + left t s).sum

/-- At time `t` no session of the day runs on after its minutes. -/
def NoOverrun (w : World) (t : Time) : Prop :=
  ∀ s ∈ daySessions childId day w, s.status = .active → elapsed t s ≤ s.durationMinutes

/-- A request without extension and violation, at a time of the day. -/
structure Plain (env : Env) (e : Event) : Prop where
  time : day ≤ e.time
  today : env.zone.startOfDay e.time = day
  extend : ∀ sid caller dto, e.request ≠ .extend sid caller dto
  violated : ∀ sid, e.request ≠ .markViolated sid

/-- While the child has a session that has not ended, a `start` for it fits the limit together with
all durations of the day; a session is resumed only if it was paused the moment it began; and no
session is left to run on after its minutes. -/
structure Careful (limit : ℤ) (w : World) (e : Event) : Prop where
  start : ∀ parentId dto d, e.request = .start parentId dto →
    w.db.devices.find dto.deviceId = some d → d.childId = some childId →
    (∃ s ∈ daySessions childId day w, s.status = .active ∨ s.status = .paused) →
    grantedToday childId day w + dto.durationMinutes ≤ limit
  resume : ∀ sid caller s, e.request = .resume sid caller → w.db.sessions.find sid = some s →
    s ∈ daySessions childId day w → s.parentId = caller → s.status = .paused →
    s.pausedAt = some (s.resumedAt.getD s.startedAt)
  overrun : NoOverrun childId day w e.time

/-- Every active daily limit of the child is a number, at most `limit`, and there is one. -/
structure Limited (limit : ℤ) (db : Database) : Prop where
  rule : ∃ r ∈ db.rules.rows, limits childId r = true
  value : ∀ r ∈ db.rules.rows, limits childId r = true → ∃ l ≤ limit, parseInt r.value = some l

end

/-! ### Rows and stopwatches -/

/-- The row of a session of the day and its stopwatch. -/
structure Fits (s : Session) (sw : Stopwatch) : Prop where
  extended : s.extendedMinutes = 0
  active : s.status = .active → sw.closed = 0 ∧ sw.openSince = some (s.resumedAt.getD s.startedAt)
  paused : s.status = .paused → s.pausedAt = some (s.resumedAt.getD s.startedAt + sw.closed) ∧
    s.remainingMinutes = s.durationMinutes - sw.closed / 60000
  ended : s.status ≠ .active → s.status ≠ .paused →
    (s.status = .stopped ∨ s.status = .expired) ∧ s.remainingMinutes = 0
  halted : s.status ≠ .active → sw.openSince = none ∧ sw.closed / 60000 ≤ s.durationMinutes

theorem Fits.minutes_le {s : Session} {sw : Stopwatch} (h : Fits s sw) {t : Time}
    (hover : s.status = .active → elapsed t s ≤ s.durationMinutes) :
    sw.total t / 60000 + left t s ≤ s.durationMinutes := by
  by_cases hact : s.status = .active
  · obtain ⟨hclosed, hopen⟩ := h.active hact
    have htotal : sw.total t / 60000 = elapsed t s := by
      rw [Stopwatch.total, Stopwatch.current, hclosed, hopen, zero_add]
      rfl
    have hleft : left t s = max 0 (s.durationMinutes - elapsed t s) := by
      rw [left, if_pos hact, calculateRemainingMinutes, h.extended, add_zero]
      simp [hact, elapsed]
    have := hover hact
    rw [htotal, hleft]
    omega
  · obtain ⟨hopen, hclosed⟩ := h.halted hact
    have htotal : sw.total t = sw.closed := by
      rw [Stopwatch.total, Stopwatch.current, hopen]
      simp
    rw [htotal]
    by_cases hpaused : s.status = .paused
    · rw [left, if_neg hact, if_pos hpaused, (h.paused hpaused).2]
      omega
    · rw [left, if_neg hact, if_neg hpaused]
      omega

/-- The stopwatch of a session that is not ACTIVE stands still. -/
theorem observe_halted {s : Session} {sw : Stopwatch} (h : Fits s sw) (hact : s.status ≠ .active)
    (t : Time) : sw.observe t false = sw := by
  simp [Stopwatch.observe, (h.halted hact).1]

/-- The stopwatch of an ACTIVE session is closed at `t`. -/
theorem observe_closing {s : Session} {sw : Stopwatch} (h : Fits s sw) (hact : s.status = .active)
    (t : Time) : sw.observe t false = ⟨t - s.resumedAt.getD s.startedAt, none⟩ := by
  obtain ⟨hclosed, hopen⟩ := h.active hact
  simp [Stopwatch.observe, hopen, hclosed]

/-- A session that ends at `t`. -/
theorem Fits.end {s s' : Session} {sw : Stopwatch} (h : Fits s sw) {t : Time}
    (hover : s.status = .active → elapsed t s ≤ s.durationMinutes)
    (hst : s'.status = .stopped ∨ s'.status = .expired) (hrem : s'.remainingMinutes = 0)
    (hdur : s'.durationMinutes = s.durationMinutes) (hext : s'.extendedMinutes = 0) :
    Fits s' (sw.observe t false) := by
  have hact' : s'.status ≠ .active := by rcases hst with hst | hst <;> simp [hst]
  have hpaused' : s'.status ≠ .paused := by rcases hst with hst | hst <;> simp [hst]
  refine ⟨hext, fun h => absurd h hact', fun h => absurd h hpaused', fun _ _ => ⟨hst, hrem⟩,
    fun _ => ?_⟩
  by_cases hact : s.status = .active
  · rw [observe_closing h hact, hdur]
    exact ⟨rfl, hover hact⟩
  · rw [observe_halted h hact, hdur]
    exact h.halted hact

/-- One careful request on a session of the day. -/
theorem Fits.change {s : Session} {sw : Stopwatch} (h : Fits s sw) {env : Env} {day : Time}
    {e : Event} (hplain : Plain day env e)
    (hover : s.status = .active → elapsed e.time s ≤ s.durationMinutes)
    (hresume : ∀ caller, e.request = .resume s.id caller → s.parentId = caller →
      s.status = .paused → s.pausedAt = some (s.resumedAt.getD s.startedAt)) :
    Fits (e.request.change e.time s)
      (sw.observe e.time ((e.request.change e.time s).status = .active)) := by
  have stay : Fits s (sw.observe e.time (s.status = .active)) := by
    by_cases hact : s.status = .active
    · rw [decide_eq_true hact, observe_active (h.active hact).2]
      exact h
    · rw [decide_eq_false hact, observe_halted h hact]
      exact h
  unfold Request.change
  split_ifs with ht
  swap
  · exact stay
  cases hreq : e.request with
  | start parentId dto => exact stay
  | pause sid caller =>
    simp only [Request.next, Op.next]
    split_ifs with hp hact
    · exact stay
    · -- the current interval is closed
      have hover := hover hact
      simp only [decide_false]
      rw [observe_closing h hact]
      refine ⟨h.extended, fun hc => by simp at hc, fun _ => ⟨by simp, ?_⟩,
        fun _ hc => absurd rfl hc, fun _ => ⟨rfl, hover⟩⟩
      simp only [h.extended, add_zero]
      exact max_eq_right (sub_nonneg.mpr hover)
    · exact stay
  | resume sid caller =>
    obtain rfl : sid = s.id := by
      rw [hreq] at ht
      exact Option.some.inj ht
    simp only [Request.next, Op.next]
    split_ifs with hp hpaused
    · exact stay
    · -- nothing was spent before, so the new interval is the first one
      have hzero : sw.closed = 0 := by
        have h1 := (h.paused hpaused).1
        rw [hresume caller hreq (not_not.mp hp) hpaused] at h1
        have h2 := Option.some.inj h1
        exact left_eq_add.mp h2
      have hopen : sw.openSince = none := (h.halted (by simp [hpaused])).1
      refine ⟨h.extended, fun _ => ?_, fun hc => by simp at hc, fun hc => absurd rfl hc,
        fun hc => absurd rfl hc⟩
      simp [Stopwatch.observe, hopen, hzero]
    · exact stay
  | extend sid caller dto => exact absurd hreq (hplain.extend sid caller dto)
  | stop sid caller =>
    simp only [Request.next]
    split_ifs with hst
    · simp only [decide_false]
      exact h.end hover (.inl rfl) rfl rfl h.extended
    · exact stay
  | expire sid =>
    simp only [Request.next, reduceCtorEq, decide_false]
    exact h.end hover (.inr rfl) rfl rfl h.extended
  | markViolated sid => exact absurd hreq (hplain.violated sid)

/-! ### The invariant -/

section
variable {childId : String} {day : Time} {limit : ℤ} {env : Env}

/-- What holds all day long. -/
structure Kept (childId : String) (day : Time) (limit : ℤ) (x : Watched) : Prop where
  rules : Limited childId limit x.1.db
  bound : grantedToday childId day x.1 ≤ limit
  fits : ∀ s ∈ daySessions childId day x.1, Fits s (x.2 s.id)
  fresh : ∀ sid, x.1.db.sessions.find sid = none → x.2 sid = .fresh

theorem change_ofDay (now : Time) (req : Request) (s : Session) :
    ofDay childId day (req.change now s) = ofDay childId day s := by
  obtain ⟨-, -, hchild, hstarted, -⟩ := change_fixed now req s
  rw [ofDay, hchild, hstarted, ofDay]

theorem daySessions_map {w w' : World} {now : Time} {req : Request}
    (h : w'.db.sessions.rows = w.db.sessions.rows.map (req.change now)) :
    daySessions childId day w' = (daySessions childId day w).map (req.change now) := by
  rw [daySessions, h, List.filter_map, daySessions]
  congr 1
  exact List.filter_congr fun s _ => change_ofDay now req s

/-- The minutes used, when every session of the day has ended, are the durations granted. -/
theorem usedToday_of_ended {w : World} {sws : String → Stopwatch} {now : Time}
    (hfits : ∀ s ∈ daySessions childId day w, Fits s (sws s.id))
    (hended : ¬ ∃ s ∈ daySessions childId day w, s.status = .active ∨ s.status = .paused)
    (hday : env.zone.startOfDay now = day) :
    usedToday env w.db now childId = grantedToday childId day w := by
  have hended' : ∀ s ∈ daySessions childId day w,
      (s.status = .stopped ∨ s.status = .expired) ∧ s.remainingMinutes = 0 := fun s hs =>
    (hfits s hs).ended (fun h => hended ⟨s, hs, .inl h⟩) fun h => hended ⟨s, hs, .inr h⟩
  have hfilter : w.db.sessions.rows.filter (counted env childId now) =
      daySessions childId day w := by
    refine List.filter_congr fun s hs => ?_
    by_cases hof : ofDay childId day s = true
    · have hst := (hended' s (List.mem_filter.mpr ⟨hs, hof⟩)).1
      rw [hof]
      simp only [ofDay, Bool.and_eq_true, decide_eq_true_eq] at hof
      rcases hst with hst | hst <;> simp [counted, hof.1, hday, hof.2, hst]
    · rw [Bool.not_eq_true] at hof
      rw [hof, counted, hday]
      simp only [ofDay] at hof
      rw [hof, Bool.false_and]
  rw [usedToday, hfilter, grantedToday]
  congr 1
  refine List.map_congr_left fun s hs => ?_
  rw [used, (hfits s hs).extended, (hended' s hs).2]
  omega

theorem isActive_of_mem {w : World} {s : Session} (h : s ∈ w.db.sessions.rows) :
    isActive s.id w = decide (s.status = .active) := by
  simp [isActive, Table.find_key h]

/-- An admitted session fits the limit together with the durations of the day. -/
theorem admitted_within {w : World} {sws : String → Stopwatch} {e : Event} {parentId : String}
    {dto : StartSessionDto} {s : Session} (hrules : Limited childId limit w.db)
    (hfits : ∀ s ∈ daySessions childId day w, Fits s (sws s.id)) (hplain : Plain day env e)
    (hcare : Careful childId day limit w e) (hreq : e.request = .start parentId dto)
    (hadm : Admitted env (e.before w) parentId dto s) (hchild : s.childId = childId) :
    grantedToday childId day w + dto.durationMinutes ≤ limit := by
  obtain ⟨d, hd, -, hdchild⟩ := hadm.device
  rw [hchild] at hdchild
  by_cases hopen : ∃ s ∈ daySessions childId day w, s.status = .active ∨ s.status = .paused
  · exact hcare.start parentId dto d hreq hd hdchild hopen
  · rcases hadm.limit with hnone | ⟨r, hr, hlimits, hexceeds⟩
    · obtain ⟨r, hr, hlimits⟩ := hrules.rule
      have hfalse := hnone r hr
      rw [hchild, hlimits] at hfalse
      cases hfalse
    · rw [hchild] at hlimits hexceeds
      obtain ⟨l, hl, hparse⟩ := hrules.value r hr hlimits
      have hused : usedToday env (e.before w).db (e.before w).now childId =
          grantedToday childId day w := usedToday_of_ended hfits hopen hplain.today
      rw [hused, hparse] at hexceeds
      simp only [exceeds, Option.any_some, decide_eq_false_iff_not, not_lt] at hexceeds
      exact hexceeds.trans hl

theorem kept_step {x : Watched} {e : Event} (h : Kept childId day limit x)
    (hplain : Plain day env e) (hcare : Careful childId day limit x.1 e) :
    Kept childId day limit (watch env x e) := by
  obtain ⟨w, sws⟩ := x
  obtain ⟨⟨⟨t, hdb⟩, hnow⟩, hcases⟩ := step_cases env w e
  have hrules : Limited childId limit (step env w e).db := by
    rw [hdb]
    exact ⟨h.rules.rule, h.rules.value⟩
  have hfresh : ∀ sid, (step env w e).db.sessions.find sid = none →
      (sws sid).observe e.time (isActive sid (step env w e)) = .fresh := by
    intro sid hnone
    have hbefore : w.db.sessions.find sid = none := by
      rcases hs : w.db.sessions.find sid with _ | s
      · rfl
      · rw [find_step hs] at hnone
        cases hnone
    have hsw : sws sid = .fresh := h.fresh sid hbefore
    rw [hsw, isActive, hnone]
    rfl
  -- the stopwatch of a row of the new table
  have hwatch : ∀ s' ∈ (step env w e).db.sessions.rows, (watch env (w, sws) e).2 s'.id =
      (sws s'.id).observe e.time (s'.status = .active) := by
    intro s' hs'
    change (sws s'.id).observe e.time (isActive s'.id (step env w e)) = _
    rw [isActive_of_mem hs']
  rcases hcases with hrows | ⟨parentId, dto, s, hreq, hadm, hrows⟩
  · have hday := @daySessions_map childId day w (step env w e) e.time e.request hrows
    refine ⟨hrules, ?_, fun s' hs' => ?_, hfresh⟩
    · have hsame : grantedToday childId day (step env w e) = grantedToday childId day w := by
        rw [grantedToday, hday, List.map_map, grantedToday]
        congr 1
        exact List.map_congr_left fun s _ => (change_fixed _ _ s).2.2.2.2
      exact hsame.trans_le h.bound
    · rw [hwatch s' (List.mem_filter.mp hs').1]
      have hmem : s' ∈ (daySessions childId day w).map (e.request.change e.time) := hday ▸ hs'
      obtain ⟨s, hs, rfl⟩ := List.mem_map.mp hmem
      rw [change_id]
      refine (h.fits s hs).change hplain (hcare.overrun s hs) fun caller hreq hp hst => ?_
      exact hcare.resume s.id caller s hreq (Table.find_key (List.mem_filter.mp hs).1) hs hp hst
  · have hchange : ∀ r, e.request.change e.time r = r := fun r => by
      simp [Request.change, hreq, Request.target]
    have hstarted : s.startedAt = e.time := by rw [hadm.row]; rfl
    have hdur : s.durationMinutes = dto.durationMinutes := by rw [hadm.row]
    have hday : daySessions childId day (step env w e) =
        daySessions childId day w ++ [s].filter (ofDay childId day) := by
      rw [daySessions, hrows, List.filter_append, daySessions]
    refine ⟨hrules, ?_, fun s' hs' => ?_, hfresh⟩
    · change grantedToday childId day (step env w e) ≤ limit
      rw [grantedToday, hday, List.map_append, List.sum_append]
      by_cases hof : ofDay childId day s = true
      · have hchild : s.childId = childId := by
          simp only [ofDay, Bool.and_eq_true, decide_eq_true_eq] at hof
          exact hof.1
        simp only [List.filter_cons, hof, if_true, List.filter_nil, List.map_cons, List.map_nil,
          List.sum_cons, List.sum_nil, add_zero, hdur]
        exact admitted_within h.rules h.fits hplain hcare hreq hadm hchild
      · have hbound := h.bound
        rw [grantedToday] at hbound
        simpa [hof] using hbound
    · rw [hwatch s' (List.mem_filter.mp hs').1]
      have hmem' : s' ∈ daySessions childId day w ++ [s].filter (ofDay childId day) := hday ▸ hs'
      rcases List.mem_append.mp hmem' with hs' | hs'
      · have hfits := (h.fits s' hs').change hplain (hcare.overrun s' hs') fun caller hreq' => by
          rw [hreq] at hreq'
          cases hreq'
        rw [hchange] at hfits
        exact hfits
      · obtain rfl : s' = s := by simpa using (List.mem_filter.mp hs').1
        have hnone : w.db.sessions.find s'.id = none := Table.find_eq_none.mpr hadm.fresh
        have hsw : sws s'.id = .fresh := h.fresh _ hnone
        have hact : s'.status = .active := by rw [hadm.row]
        have hres : s'.resumedAt = none := by rw [hadm.row]
        rw [hsw, decide_eq_true hact]
        refine ⟨by rw [hadm.row], fun _ => ⟨rfl, ?_⟩, fun hc => ?_, fun hc => absurd hact hc,
          fun hc => absurd hact hc⟩
        · simp [Stopwatch.observe, Stopwatch.fresh, hres, hstarted]
        · rw [hact] at hc
          cases hc

/-- **The daily limit.** From a day without sessions, and through requests that are all careful,
what the child can have consumed never exceeds the limit. -/
theorem within_limit {w : World} {es : List Event} (hlimit : 0 ≤ limit)
    (hrules : Limited childId limit w.db) (hnone : daySessions childId day w = [])
    (hplain : ∀ e ∈ es, Plain day env e)
    (hcare : Steps (watch env) (fun x e => Careful childId day limit x.1 e) (.start w) es)
    {t : Time} (ht : NoOverrun childId day (es.foldl (watch env) (.start w)).1 t) :
    consumable childId day (es.foldl (watch env) (.start w)) t ≤ limit := by
  have hstart : Kept childId day limit (.start w) := by
    refine ⟨hrules, ?_, fun s hs => ?_, fun _ _ => rfl⟩
    · rw [Watched.start, grantedToday, hnone]
      exact hlimit
    · rw [Watched.start, hnone] at hs
      cases hs
  have hsteps : Steps (watch env)
      (fun x e => Plain day env e ∧ Careful childId day limit x.1 e) (.start w) es := by
    intro es₁ e es₂ hes
    exact ⟨hplain e (by simp [hes]), hcare es₁ e es₂ hes⟩
  have hkept := foldl_of_steps (fun x e hx he => kept_step hx he.1 he.2) hstart hsteps
  refine le_trans ?_ hkept.bound
  exact List.sum_le_sum fun s hs => (hkept.fits s hs).minutes_le (ht s hs)

end

/-- The child's limit of one hour a day. -/
def hourADay : Rule :=
  { id := "limit", childId := "adam", type := .dailyLimit, value := "60", startTime := none,
    endTime := none, daysOfWeek := none, blockedApps := [], blockedCategories := [],
    extraMinutes := none, active := true, createdAt := 0, updatedAt := 0 }

/-- A child with a tablet, a console and an hour a day. -/
def twoDevices : World := .fresh
  { Household.withDevices [Household.device "tablet" "amal" "adam",
      Household.device "console" "amal" "adam"] (by decide) with
    rules := ⟨[hourADay], by decide⟩ } 0

theorem limited_twoDevices : Limited "adam" 60 twoDevices.db := by
  refine ⟨⟨hourADay, by simp [twoDevices, World.fresh], rfl⟩, fun r hr _ => ?_⟩
  obtain rfl : r = hourADay := by simpa [twoDevices, World.fresh] using hr
  exact ⟨60, le_rfl, by decide +kernel⟩

theorem plain_start (parentId : String) (dto : StartSessionDto) :
    Plain 0 .plain ⟨0, .start parentId dto⟩ :=
  ⟨le_rfl, rfl, fun _ _ _ => by simp, fun _ => by simp⟩

/-- 25 minutes on the tablet, and after ten of them 25 minutes on the console, whose session is
paused. -/
def twoSessions : List Event :=
  [⟨0, .start "amal" ⟨"tablet", 25, by decide⟩⟩, ⟨600000, .start "amal" ⟨"console", 25, by decide⟩⟩,
    ⟨900000, .pause "uuid-9-0" "amal"⟩]

theorem plain_twoSessions : ∀ e ∈ twoSessions, Plain 0 .plain e := by
  intro e he
  simp only [twoSessions, List.mem_cons, List.not_mem_nil, or_false] at he
  rcases he with rfl | rfl | rfl
  · exact plain_start _ _
  · exact ⟨by decide, by decide, fun _ _ _ => by simp, fun _ => by simp⟩
  · exact ⟨by decide, by decide, fun _ _ _ => by simp, fun _ => by simp⟩

theorem careful_twoSessions : Steps (watch .plain) (fun x e => Careful "adam" 0 60 x.1 e)
    (.start twoDevices) twoSessions := by
  refine steps_cons.mpr ⟨⟨?_, ?_, ?_⟩, steps_cons.mpr ⟨⟨?_, ?_, ?_⟩,
    steps_cons.mpr ⟨⟨?_, ?_, ?_⟩, steps_nil _⟩⟩⟩
  · rintro _ _ _ - - - ⟨s, hs, -⟩
    cases hs
  · rintro sid caller s h
    cases h
  · intro s hs
    cases hs
  · rintro _ _ d h - - -
    cases h
    decide +kernel
  · rintro sid caller s h
    cases h
  · unfold NoOverrun
    decide +kernel
  · rintro _ _ d h
    cases h
  · rintro sid caller s h
    cases h
  · unfold NoOverrun
    decide +kernel

theorem within_limit_twoSessions : NoOverrun "adam" 0
      (twoSessions.foldl (watch .plain) (.start twoDevices)).1 1200000 ∧
    consumable "adam" 0 (twoSessions.foldl (watch .plain) (.start twoDevices)) 1200000 ≤ 60 := by
  have hover : NoOverrun "adam" 0
      (twoSessions.foldl (watch .plain) (.start twoDevices)).1 1200000 := by
    unfold NoOverrun
    decide +kernel
  refine ⟨hover, ?_⟩
  exact within_limit (by decide) limited_twoDevices rfl plain_twoSessions careful_twoSessions hover

/-- An hour on the tablet and an hour on the console are both admitted. -/
theorem limit_passed_twice : ¬ ∀ (env : Env) (childId : String) (day : Time) (limit : ℤ) (w : World)
    (es : List Event), 0 ≤ limit → Limited childId limit w.db → daySessions childId day w = [] →
    (∀ e ∈ es, Plain day env e) → ∀ t,
    NoOverrun childId day (es.foldl (watch env) (.start w)).1 t →
    consumable childId day (es.foldl (watch env) (.start w)) t ≤ limit := by
  intro h
  let es : List Event :=
    [⟨0, .start "amal" oneHour⟩, ⟨0, .start "amal" ⟨"console", 60, by decide⟩⟩]
  have hover : NoOverrun "adam" 0 (es.foldl (watch .plain) (.start twoDevices)).1 0 := by
    unfold NoOverrun
    decide +kernel
  have hle := h .plain "adam" 0 60 twoDevices es (by decide) limited_twoDevices rfl (fun e he => by
    rcases List.mem_cons.mp he with rfl | he
    · exact plain_start _ _
    · obtain rfl := List.mem_singleton.mp he
      exact plain_start _ _) 0 hover
  exact absurd hle (by decide +kernel)

end GuardTime.Session.DailyLimit
