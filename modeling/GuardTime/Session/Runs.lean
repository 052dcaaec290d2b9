import Mathlib.Tactic
import GuardTime.Lib.Runs
import GuardTime.Session.Lifecycle

/-! # Runs of session requests

Any requests of `SessionsService`, over any sessions and devices, one after the other. A request
that names a session changes at most that row, as `Request.next` says; a `start` either changes
nothing or appends one row that passed all its checks (`Admitted`). `step_cases` collects both, and
every result about runs is drawn from it. -/

namespace GuardTime.Session.Runs

open GuardTime.Lib.Program GuardTime.Lib.Keyed GuardTime.Lib.Js GuardTime.Lib.Runs GuardTime.Schema
open GuardTime.Server GuardTime.Prisma GuardTime.Services GuardTime.Services.Sessions
open GuardTime.Session.Lifecycle

/-! ### Requests -/

/-- A request of the service. -/
inductive Request where
  | start (parentId : String) (dto : StartSessionDto)
  | pause (sessionId parentId : String)
  | resume (sessionId parentId : String)
  | extend (sessionId parentId : String) (dto : ExtendSessionDto)
  | stop (sessionId parentId : String)
  | expire (sessionId : String)
  | markViolated (sessionId : String)

namespace Request

/-- The service call. -/
def prog (env : Env) : Request → Api Session
  | start parentId dto => Sessions.start env parentId dto
  | pause sessionId parentId => Sessions.pause sessionId parentId
  | resume sessionId parentId => Sessions.resume sessionId parentId
  | extend sessionId parentId dto => Sessions.extend sessionId parentId dto
  | stop sessionId parentId => Sessions.stop sessionId parentId
  | expire sessionId => Sessions.expire sessionId
  | markViolated sessionId => Sessions.markViolated sessionId

/-- The session the request names. -/
def target : Request → Option String
  | start _ _ => none
  | pause sid _ | resume sid _ | extend sid _ _ | stop sid _ | expire sid | markViolated sid =>
    some sid

/-- The named session's row after the request at time `now`; refused requests change nothing. -/
def next (now : Time) : Request → Session → Session
  | start _ _, s => s
  | pause _ caller, s => Op.pause.next caller now s
  | resume _ caller, s => Op.resume.next caller now s
  | extend _ caller dto, s => (Op.extend dto).next caller now s
  | stop _ caller, s =>
    if s.parentId = caller ∧ s.status ≠ .stopped then
      { s with status := .stopped, stoppedAt := some now, remainingMinutes := 0, updatedAt := now }
    else s
  | expire _, s =>
    { s with status := .expired, expiredAt := some now, remainingMinutes := 0, updatedAt := now }
  | markViolated _, s => { s with violated := true, status := .violated, updatedAt := now }

/-- What the request does to a row of the table. -/
def change (now : Time) (req : Request) (s : Session) : Session :=
  if req.target = some s.id then req.next now s else s

end Request

/-- What no request changes in a row. -/
theorem change_fixed (now : Time) (req : Request) (s : Session) :
    (req.change now s).id = s.id ∧ (req.change now s).deviceId = s.deviceId ∧
      (req.change now s).childId = s.childId ∧ (req.change now s).startedAt = s.startedAt ∧
      (req.change now s).durationMinutes = s.durationMinutes := by
  have hnext : (req.next now s).id = s.id ∧ (req.next now s).deviceId = s.deviceId ∧
      (req.next now s).childId = s.childId ∧ (req.next now s).startedAt = s.startedAt ∧
      (req.next now s).durationMinutes = s.durationMinutes := by
    cases req <;> simp only [Request.next, Op.next] <;> (try split_ifs) <;> simp
  unfold Request.change
  split_ifs
  · exact hnext
  · exact ⟨rfl, rfl, rfl, rfl, rfl⟩

theorem change_id (now : Time) (req : Request) (s : Session) : (req.change now s).id = s.id :=
  (change_fixed now req s).1

/-- The whole minutes since the session last started to run. -/
def elapsed (t : Time) (s : Session) : ℤ := calculateElapsedMinutes t s.startedAt s.resumedAt

theorem elapsed_mono (s : Session) {t t' : Time} (h : t ≤ t') : elapsed t s ≤ elapsed t' s :=
  Int.ediv_le_ediv (by norm_num) (sub_le_sub_right h _)

/-! ### Requests that name a session -/

/-- The row written by an update, in the whole table. -/
theorem rows_update {w : World} {sid : String} {s : Session} {f g : Session → Session}
    {hf : ∀ r, (f r).id = r.id} (h : w.db.sessions.find sid = some s)
    (hl : Model.session.links (f s) = Model.session.links s)
    (hg : g s = { f s with updatedAt := w.now }) (hg' : ∀ r, r.id ≠ sid → g r = r) :
    SameButSessions w ((Prisma.update .session sid f hf).run w).2 ∧
      ((Prisma.update .session sid f hf).run w).2.db.sessions.rows =
        w.db.sessions.rows.map g := by
  rw [run_update (m := Model.session) h rfl hl]
  refine ⟨⟨⟨_, rfl⟩, rfl⟩, ?_⟩
  change (Model.session.patch w.db.sessions w.now sid f hf).rows = _
  refine List.map_congr_left fun r hr => ?_
  by_cases hid : r.id = sid
  · obtain rfl : r = s := Table.eq_of_key hr (Table.mem_of_find h)
      (hid.trans (Table.key_of_find h).symm)
    simp only [hid, decide_true, if_true, hg]
    rfl
  · simp [hid, hg' r hid]

/-- A request that leaves the named row as it is leaves the table as it is. -/
theorem rows_same {t : Table Session.id} {g : Session → Session} (h : ∀ r ∈ t.rows, g r = r) :
    t.rows = t.rows.map g := by
  conv_lhs => rw [← List.map_id t.rows]
  exact List.map_congr_left fun r hr => (h r hr).symm

section Named
variable {w : World} {sid : String}

theorem run_getAndValidate (s : Session) (h : w.db.sessions.find sid = some s) (caller : String) :
    (getAndValidate sid caller).run w =
      (if s.parentId = caller then .ok s else .error (.forbidden "Not your session"),
        World.afterCall w w.db) := by
  simp only [getAndValidate, Prog.run_bind, run_findUnique, Model.session, h, Prog.run_orThrow_some,
    Prog.run_require]
  split_ifs <;> rfl

theorem run_getAndValidate_none (h : w.db.sessions.find sid = none) (caller : String) :
    (getAndValidate sid caller).run w =
      (.error (.notFound "Session not found"), World.afterCall w w.db) := by
  simp [getAndValidate, Model.session, h]

theorem change_of_ne {now : Time} {req : Request} (ht : req.target = some sid) {r : Session}
    (hr : r.id ≠ sid) : req.change now r = r := by
  rw [Request.change, ht, if_neg fun h => hr (Option.some.inj h).symm]

theorem change_self {now : Time} {req : Request} (ht : req.target = some sid) {s : Session}
    (hs : s.id = sid) : req.change now s = req.next now s := by
  rw [Request.change, ht, hs, if_pos rfl]

/-- What a request that names a session leaves. -/
def Rows (now : Time) (req : Request) (w w' : World) : Prop :=
  SameButSessions w w' ∧ w'.db.sessions.rows = w.db.sessions.rows.map (req.change now)

/-- Nothing was written, and nothing was to be written. -/
theorem rows_refused {req : Request} (ht : req.target = some sid)
    (h : ∀ s, w.db.sessions.find sid = some s → req.next w.now s = s) :
    Rows w.now req w (World.afterCall w w.db) := by
  refine ⟨.rfl' w, rows_same fun r hr => ?_⟩
  by_cases hid : r.id = sid
  · rw [change_self ht hid]
    exact h r (hid ▸ Table.find_key hr)
  · exact change_of_ne ht hid

/-- One update of the named row. -/
theorem rows_written {req : Request} {s : Session} {f : Session → Session}
    {hf : ∀ r, (f r).id = r.id} (ht : req.target = some sid)
    (hs : w.db.sessions.find sid = some s)
    (hl : Model.session.links (f s) = Model.session.links s)
    (hnext : req.next w.now s = { f s with updatedAt := w.now }) :
    Rows w.now req w ((Prisma.update .session sid f hf).run (World.afterCall w w.db)).2 := by
  have hs' : (World.afterCall w w.db).db.sessions.find sid = some s := hs
  obtain ⟨h1, h2⟩ := @rows_update _ _ _ _ _ hf hs' hl
    ((change_self ht (Table.key_of_find hs)).trans hnext) fun r hr => change_of_ne ht hr
  exact ⟨(SameButSessions.rfl' w).trans h1, h2⟩

/-- A request that validates the session, checks it and makes one update. -/
theorem rows_guarded {req : Request} {caller : String} {c : Session → Prop} [DecidablePred c]
    {e : Err} {p : Session → Api Session} {f : Session → Session → Session}
    {hf : ∀ s r, (f s r).id = r.id} (ht : req.target = some sid)
    (hp : ∀ s, (p s).run (World.afterCall w w.db) =
      (Prisma.update .session sid (f s) (hf s)).run (World.afterCall w w.db))
    (hl : ∀ s, Model.session.links (f s s) = Model.session.links s)
    (hnext : ∀ s, req.next w.now s =
      if s.parentId = caller ∧ c s then { f s s with updatedAt := w.now } else s) :
    Rows w.now req w ((do
      let session ← getAndValidate sid caller
      Prog.require (c session) e
      p session : Api Session).run w).2 := by
  rcases hs : w.db.sessions.find sid with _ | s
  · simp only [Prog.run_bind, run_getAndValidate_none hs]
    exact rows_refused ht fun s h => by simp [hs] at h
  · have hsame : ∀ s', w.db.sessions.find sid = some s' → s' = s := fun s' h =>
      Option.some.inj (h.symm.trans hs)
    simp only [Prog.run_bind, run_getAndValidate s hs]
    by_cases hcaller : s.parentId = caller
    · by_cases hc : c s
      · simp only [hcaller, if_true, Prog.run_require, hc, hp]
        exact rows_written ht hs (hl s) (by rw [hnext, if_pos ⟨hcaller, hc⟩])
      · simp only [hcaller, if_true, Prog.run_require, hc, if_false]
        exact rows_refused ht fun s' h => by rw [hsame s' h, hnext, if_neg fun h => hc h.2]
    · simp only [hcaller, if_false]
      exact rows_refused ht fun s' h => by rw [hsame s' h, hnext, if_neg fun h => hcaller h.1]

/-- **Requests on a session.** A request that names a session changes that row as `next` says, and
nothing else. -/
theorem rows_named (env : Env) (w : World) {req : Request} (ht : req.target = some sid) :
    Rows w.now req w ((req.prog env).run w).2 := by
  cases req with
  | start parentId dto => simp [Request.target] at ht
  | pause sid' caller =>
    obtain rfl : sid' = sid := Option.some.inj ht
    refine rows_guarded (c := fun s => s.status = .active) ht (fun s => rfl) (fun s => rfl)
      fun s => ?_
    by_cases hp : s.parentId = caller <;> simp [Request.next, Op.next, hp]
  | resume sid' caller =>
    obtain rfl : sid' = sid := Option.some.inj ht
    refine rows_guarded (c := fun s => s.status = .paused) ht (fun s => rfl) (fun s => rfl)
      fun s => ?_
    by_cases hp : s.parentId = caller <;> simp [Request.next, Op.next, hp]
  | extend sid' caller dto =>
    obtain rfl : sid' = sid := Option.some.inj ht
    refine rows_guarded (c := fun s => s.status = .active ∨ s.status = .paused) ht (fun s => rfl)
      (fun s => rfl) fun s => ?_
    by_cases hp : s.parentId = caller <;> simp [Request.next, Op.next, hp]
  | stop sid' caller =>
    obtain rfl : sid' = sid := Option.some.inj ht
    exact rows_guarded (c := fun s => s.status ≠ .stopped) ht (fun s => rfl) (fun s => rfl)
      fun s => rfl
  | expire sid' =>
    obtain rfl : sid' = sid := Option.some.inj ht
    rcases hs : w.db.sessions.find sid' with _ | s
    · have hrun : ((Request.expire sid').prog env).run w =
          (.error (.notFound "Session not found"), World.afterCall w w.db) := by
        simp [Request.prog, Sessions.expire, Model.session, hs]
      rw [hrun]
      exact rows_refused ht fun s h => by simp [hs] at h
    · simp only [Request.prog, Sessions.expire, Prog.run_bind, run_findUnique, Model.session, hs,
        Prog.run_orThrow_some, run_newDate]
      exact rows_written ht hs rfl rfl
  | markViolated sid' =>
    obtain rfl : sid' = sid := Option.some.inj ht
    rcases hs : w.db.sessions.find sid' with _ | s
    · have hrun : (Sessions.markViolated sid').run w =
          (.error (.prisma "P2025"), World.afterCall w w.db) := by
        simp [Sessions.markViolated, Prisma.update, run_dbCall, Model.updateRow, Model.session, hs]
      rw [Request.prog, hrun]
      exact rows_refused ht fun s h => by simp [hs] at h
    · have hl : Model.session.links { s with violated := true, status := .violated } =
          Model.session.links s := rfl
      exact rows_update hs hl ((change_self ht (Table.key_of_find hs)).trans rfl)
        fun r hr => change_of_ne ht hr

end Named

/-! ### Starts -/

/-- The sessions that count for the day of `now`. -/
def counted (env : Env) (childId : String) (now : Time) (s : Session) : Bool :=
  s.childId = childId && env.zone.startOfDay now ≤ s.startedAt &&
    s.status ∈ [.active, .paused, .stopped, .expired]

/-- The minutes a session counts with. -/
def used (s : Session) : ℤ := s.durationMinutes + s.extendedMinutes - s.remainingMinutes

/-- The minutes the child has used on the day of `now`, as the service counts them. -/
def usedToday (env : Env) (db : Database) (now : Time) (childId : String) : ℤ :=
  ((db.sessions.rows.filter (counted env childId now)).map used).sum

/-- An active daily limit of the child. -/
def limits (childId : String) (r : Rule) : Bool :=
  r.childId = childId && r.type = .dailyLimit && r.active

theorem foldl_used (l : List Session) : ∀ c : ℤ,
    l.foldl (fun total s => total + s.durationMinutes + s.extendedMinutes - s.remainingMinutes) c =
      c + (l.map used).sum := by
  induction l with
  | nil => simp
  | cons s l ih =>
    intro c
    rw [List.foldl_cons, ih, List.map_cons, List.sum_cons, used]
    ring

theorem run_getUsedMinutesToday (env : Env) (childId : String) (w : World) :
    (getUsedMinutesToday env childId).run w =
      (.ok (usedToday env w.db w.now childId), World.afterCall w w.db) := by
  have hperm : ((matching Model.session w.db (w.tape w.calls) (counted env childId w.now)).map
      used).sum = usedToday env w.db w.now childId :=
    ((arrange_perm _ _).map used).sum_eq
  simp only [getUsedMinutesToday, Prog.run_bind, run_newDate, findMany, run_query, Prog.run_pure,
    foldl_used, zero_add]
  exact Prod.ext (congrArg Except.ok hperm) rfl

/-- What `start` has checked before it creates the session. -/
structure Admitted (env : Env) (w : World) (parentId : String) (dto : StartSessionDto)
    (s : Session) : Prop where
  device : ∃ d, w.db.devices.find dto.deviceId = some d ∧ d.parentId = parentId ∧
    d.childId = some s.childId
  fresh : ∀ r ∈ w.db.sessions.rows, r.id ≠ s.id
  idle : ∀ r ∈ w.db.sessions.rows, r.deviceId = dto.deviceId → r.status ≠ .active
  limit : (∀ r ∈ w.db.rules.rows, limits s.childId r = false) ∨
    ∃ r ∈ w.db.rules.rows, limits s.childId r = true ∧
      exceeds (usedToday env w.db w.now s.childId) dto.durationMinutes (parseInt r.value) = false
  row : s = { s with
    deviceId := dto.deviceId, parentId, status := .active, startedAt := w.now, pausedAt := none,
    resumedAt := none, stoppedAt := none, expiredAt := none,
    durationMinutes := dto.durationMinutes, remainingMinutes := dto.durationMinutes,
    extendedMinutes := 0 }

/-- The daily limit allows the session. -/
theorem checkDailyLimit_ok {env : Env} {childId : String} {duration : ℤ} {w w' : World} {u : Unit}
    (h : (checkDailyLimit env childId duration).run w = (.ok u, w')) :
    (∀ r ∈ w.db.rules.rows, limits childId r = false) ∨
      ∃ r ∈ w.db.rules.rows, limits childId r = true ∧
        exceeds (usedToday env w.db w.now childId) duration (parseInt r.value) = false := by
  obtain ⟨limit, w₁, h1, h⟩ := Prog.run_bind_ok.mp h
  obtain ⟨rule, _, h2, h3⟩ := Prog.run_bind_ok.mp h1
  obtain ⟨hrule, rfl⟩ := run_query_ok.mp h2
  obtain ⟨rfl, rfl⟩ : rule.map (fun r => parseInt r.value) = limit ∧
      World.afterCall w w.db = w₁ := by
    simpa using h3
  have hmem : ∀ r, r ∈ matching Model.rule w.db (w.tape w.calls) (limits childId) ↔
      r ∈ w.db.rules.rows ∧ limits childId r = true := fun r => mem_matching
  rcases hl : matching Model.rule w.db (w.tape w.calls) (limits childId) with _ | ⟨r, rs⟩
  · refine .inl fun r hr => ?_
    by_contra hne
    have := (hmem r).mpr ⟨hr, by simpa using hne⟩
    simp [hl] at this
  · have hr := (hmem r).mp (by simp [hl])
    have hfound : rule = some r := by
      rw [hrule]
      exact congrArg List.head? hl
    subst hfound
    simp only [Option.map_some, Prog.run_bind, run_getUsedMinutesToday, Prog.run_require] at h
    refine .inr ⟨r, hr.1, hr.2, ?_⟩
    by_contra hne
    simp [hne] at h

theorem start_admitted {env : Env} {parentId : String} {dto : StartSessionDto} {w w' : World}
    {s : Session} (h : (Sessions.start env parentId dto).run w = (.ok s, w')) :
    Admitted env w parentId dto s ∧ SameButSessions w w' ∧
      w'.db.sessions.rows = w.db.sessions.rows ++ [s] := by
  obtain ⟨d, t, hd, hp, hc, hidle, ⟨w₀, w₁, hcheck, hdb, hnow₀⟩, ht, hset, hnow, hrow⟩ := start_ok h
  have hlimit := checkDailyLimit_ok hcheck
  rw [hdb, hnow₀] at hlimit
  obtain ⟨hfresh, hrows⟩ := Table.insert_eq_some ht
  refine ⟨⟨⟨d, hd, hp, hc⟩, hfresh, hidle, hlimit, hrow⟩, ⟨⟨t, hset⟩, hnow⟩, ?_⟩
  rw [hset]
  exact hrows

/-- A refused `start` has written nothing. -/
theorem start_refused {env : Env} {parentId : String} {dto : StartSessionDto} {w w' : World}
    {e : Err} (h : (Sessions.start env parentId dto).run w = (.error e, w')) :
    w'.db = w.db ∧ w'.now = w.now := by
  let P : World → Prop := fun w₁ => w₁.db = w.db ∧ w₁.now = w.now
  have steady : Steady P := fun _ h => h
  have hcreate : ∀ mk, Prog.Triple P (Prisma.create .session mk) (fun _ _ => True) fun _ => P := by
    intro mk w₁ hw₁
    rcases run_create_cases .session mk w₁ with ⟨e, he⟩ | ⟨t, -, ht⟩
    · rw [he]
      exact hw₁
    · rw [ht]
      trivial
  have htriple : Prog.Triple P (Sessions.start env parentId dto) (fun _ _ => True) fun _ => P :=
    .bind (.of_keeps (keeps_query steady _)) fun _ =>
      .bind (.of_keeps (.orThrow _ _)) fun _ => .bind (.of_keeps (.require _ _)) fun _ =>
        .bind (.of_keeps (.orThrow _ _)) fun _ => .bind (.of_keeps (keeps_query steady _)) fun _ =>
          .bind (.of_keeps (.require _ _)) fun _ =>
            .bind (.of_keeps (keeps_checkDailyLimit steady env _ _)) fun _ => hcreate _
  have := htriple w ⟨rfl, rfl⟩
  rw [h] at this
  exact this

/-! ### Steps and runs -/

/-- A request with its time. -/
structure Event where
  time : Time
  request : Request

/-- The world the request finds. -/
def Event.before (e : Event) (w : World) : World := { w with now := e.time }

/-- The request is handled at its time. -/
def step (env : Env) (w : World) (e : Event) : World := ((e.request.prog env).run (e.before w)).2

/-- The world after the requests. -/
def run (env : Env) (w : World) (es : List Event) : World := es.foldl (step env) w

/-- **What a step does.** Only sessions change: the named row as `next` says, or one admitted row is
added. -/
theorem step_cases (env : Env) (w : World) (e : Event) :
    ((∃ t, (step env w e).db = { w.db with sessions := t }) ∧ (step env w e).now = e.time) ∧
    ((step env w e).db.sessions.rows = w.db.sessions.rows.map (e.request.change e.time) ∨
      ∃ parentId dto s, e.request = .start parentId dto ∧
        Admitted env (e.before w) parentId dto s ∧
        (step env w e).db.sessions.rows = w.db.sessions.rows ++ [s]) := by
  rcases ht : e.request.target with _ | sid
  · obtain ⟨parentId, dto, hreq⟩ : ∃ parentId dto, e.request = .start parentId dto := by
      cases hreq : e.request <;> simp [hreq, Request.target] at ht ⊢
    rcases hrun : (Sessions.start env parentId dto).run (e.before w) with ⟨err | s, w'⟩
    · have hstep : step env w e = w' := by simp [step, hreq, Request.prog, hrun]
      obtain ⟨hdb, hnow⟩ := start_refused hrun
      rw [hstep]
      refine ⟨⟨⟨w.db.sessions, hdb⟩, hnow⟩, .inl ?_⟩
      rw [hdb]
      exact rows_same fun r _ => by simp [Request.change, hreq, Request.target]
    · have hstep : step env w e = w' := by simp [step, hreq, Request.prog, hrun]
      obtain ⟨hadm, ⟨hdb, hnow⟩, hrows⟩ := start_admitted hrun
      rw [hstep]
      exact ⟨⟨hdb, hnow⟩, .inr ⟨parentId, dto, s, hreq, hadm, hrows⟩⟩
  · obtain ⟨⟨hdb, hnow⟩, hrows⟩ := rows_named env (e.before w) ht
    exact ⟨⟨hdb, hnow⟩, .inl hrows⟩

theorem find_map_change {t t' : Table Session.id} {now : Time} {req : Request}
    (h : t'.rows = t.rows.map (req.change now)) (sid : String) :
    t'.find sid = (t.find sid).map (req.change now) := by
  rcases hs : t.find sid with _ | s
  · rw [Option.map_none, Table.find_eq_none, h]
    intro r hr
    obtain ⟨r₀, hr₀, rfl⟩ := List.mem_map.mp hr
    rw [change_id]
    exact Table.find_eq_none.mp hs r₀ hr₀
  · rw [Option.map_some, Table.find_eq_some, h]
    refine ⟨List.mem_map_of_mem (Table.mem_of_find hs), ?_⟩
    rw [change_id]
    exact Table.key_of_find hs

/-- A session that exists has its own row changed by every step, and never disappears. -/
theorem find_step {env : Env} {w : World} {e : Event} {sid : String} {s : Session}
    (h : w.db.sessions.find sid = some s) :
    (step env w e).db.sessions.find sid = some (e.request.change e.time s) := by
  obtain ⟨-, hrows | ⟨parentId, dto, s', hreq, hadm, hrows⟩⟩ := step_cases env w e
  · rw [find_map_change hrows, h]
    rfl
  · rw [Table.find_eq_some, hrows]
    have hchange : e.request.change e.time s = s := by simp [Request.change, hreq, Request.target]
    rw [hchange]
    exact ⟨by simp [Table.mem_of_find h], Table.key_of_find h⟩

end GuardTime.Session.Runs
