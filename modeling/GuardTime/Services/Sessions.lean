import Mathlib.Tactic
import GuardTime.Footprint

/-! # Rules and sessions

`RulesService` and `SessionsService`. -/

namespace GuardTime.Services

open GuardTime.Lib.Program GuardTime.Lib.Js GuardTime.Schema GuardTime.Server GuardTime.Prisma

/-- `o` unless it is null or the empty string: the test `if (o)`. -/
def truthy (o : Option String) : Option String := o.filter (· ≠ "")

theorem truthy_some {s : String} (h : s ≠ "") : truthy (some s) = some s := by
  simp [truthy, Option.filter, h]

/-! ### Rules -/

namespace Rules

/-- `CreateRuleDto`. -/
structure CreateRuleDto where
  childId : String
  type : RuleType
  value : String
  startTime : Option String := none
  endTime : Option String := none
  daysOfWeek : Option String := none
  blockedApps : Option (List String) := none
  blockedCategories : Option (List String) := none
  extraMinutes : Option ℤ := none

/-- `UpdateRuleDto`. -/
structure UpdateRuleDto where
  value : Patch String := none
  startTime : Patch String := none
  endTime : Patch String := none
  daysOfWeek : Patch String := none
  blockedApps : Patch (List String) := none
  blockedCategories : Patch (List String) := none
  extraMinutes : Patch ℤ := none
  active : Patch Bool := none

/-- `assertChildOwnership`. -/
def assertChildOwnership (parentId childId : String) : Api Unit := do
  let child ← Prog.orThrow (← Prisma.findUnique .child childId) (.notFound "Child not found")
  Prog.require (child.parentId = parentId) (.forbidden "Not your child")

/-- `create`. -/
def create (parentId : String) (dto : CreateRuleDto) : Api Rule := do
  assertChildOwnership parentId dto.childId
  Prisma.create .rule fun id now =>
    { id, childId := dto.childId, type := dto.type, value := dto.value, startTime := dto.startTime,
      endTime := dto.endTime, daysOfWeek := dto.daysOfWeek,
      blockedApps := dto.blockedApps.getD [], blockedCategories := dto.blockedCategories.getD [],
      extraMinutes := dto.extraMinutes, active := true, createdAt := now, updatedAt := now }

/-- `findOne`, with the child it includes. -/
def findOne (id : String) : Api (Rule × Child) := do
  let found ← Prisma.query fun db _ => (db.rules.find id).bind fun r =>
    (db.children.find r.childId).map fun c => (r, c)
  Prog.orThrow found (.notFound "Rule not found")

/-- `findOwnedOrThrow`. -/
def findOwnedOrThrow (parentId id : String) : Api Rule := do
  let (rule, child) ← findOne id
  Prog.require (child.parentId = parentId) (.forbidden "Not your rule")
  pure rule

/-- `update`. -/
def update (parentId id : String) (dto : UpdateRuleDto) : Api Rule := do
  let _ ← findOwnedOrThrow parentId id
  Prisma.validate (dto.value ≠ some none ∧ dto.active ≠ some none ∧ dto.blockedApps ≠ some none ∧
    dto.blockedCategories ≠ some none)
  Prisma.update .rule id fun r =>
    { r with
      value := dto.value.overReq r.value
      startTime := dto.startTime.over r.startTime
      endTime := dto.endTime.over r.endTime
      daysOfWeek := dto.daysOfWeek.over r.daysOfWeek
      blockedApps := dto.blockedApps.overReq r.blockedApps
      blockedCategories := dto.blockedCategories.overReq r.blockedCategories
      extraMinutes := dto.extraMinutes.over r.extraMinutes
      active := dto.active.overReq r.active }

/-- `remove`. -/
def remove (parentId id : String) : Api Unit := do
  let _ ← findOwnedOrThrow parentId id
  Prisma.delete .rule id

/-- `getDailyLimit`: null without a rule, else the number, which may be `NaN`. -/
def getDailyLimit (childId : String) : Api (Option JsNum) := do
  let rule ← Prisma.findFirst .rule fun r =>
    r.childId = childId && r.type = .dailyLimit && r.active
  pure (rule.map fun r => parseInt r.value)

end Rules

/-! ### Sessions -/

namespace Sessions

/-- `StartSessionDto`: the validation pipe lets only positive durations in. -/
structure StartSessionDto where
  deviceId : String
  durationMinutes : ℤ
  pos : 1 ≤ durationMinutes

/-- `ExtendSessionDto`. -/
structure ExtendSessionDto where
  extraMinutes : ℤ
  pos : 1 ≤ extraMinutes

/-- `getUsedMinutesToday`. -/
def getUsedMinutesToday (env : Env) (childId : String) : Api ℤ := do
  let now ← newDate
  let sessions ← Prisma.findMany .session fun s =>
    s.childId = childId && env.zone.startOfDay now ≤ s.startedAt &&
      s.status ∈ [.active, .paused, .stopped, .expired]
  pure (sessions.foldl
    (fun total s => total + s.durationMinutes + s.extendedMinutes - s.remainingMinutes) 0)

/-- The daily limit forbids the session; nothing exceeds `NaN`. -/
def exceeds (used duration : ℤ) (limit : JsNum) : Bool := limit.any fun l => used + duration > l

/-- A number in a template string. -/
def showNum : JsNum → String
  | some n => toString n
  | none => "NaN"

/-- The daily-limit check of `start`. -/
def checkDailyLimit (env : Env) (childId : String) (durationMinutes : ℤ) : Api Unit := do
  match ← Rules.getDailyLimit childId with
  | none => pure ()
  | some dailyLimit => do
    let usedToday ← getUsedMinutesToday env childId
    Prog.require (exceeds usedToday durationMinutes dailyLimit = false)
      (.badRequest ("Daily limit exceeded. Used " ++ toString usedToday ++ "/" ++
        showNum dailyLimit ++ " minutes today."))

/-- `start`. -/
def start (env : Env) (parentId : String) (dto : StartSessionDto) : Api Session := do
  let device ← Prog.orThrow (← Prisma.findUnique .device dto.deviceId)
    (.notFound "Device not found")
  Prog.require (device.parentId = parentId) (.forbidden "Not your device")
  let childId ← Prog.orThrow (truthy device.childId) (.badRequest "Device not assigned to a child")
  let existingActive ← Prisma.findFirst .session fun s =>
    s.deviceId = dto.deviceId && s.status = .active
  Prog.require (existingActive.isNone = true)
    (.badRequest "Device already has an active session")
  checkDailyLimit env childId dto.durationMinutes
  Prisma.create .session fun id now =>
    { id, deviceId := dto.deviceId, childId, parentId, status := .active, startedAt := now,
      pausedAt := none, resumedAt := none, stoppedAt := none, expiredAt := none,
      durationMinutes := dto.durationMinutes, remainingMinutes := dto.durationMinutes,
      extendedMinutes := 0, violated := false, activeApp := none, createdAt := now,
      updatedAt := now }

theorem keeps_checkDailyLimit {I : World → Prop} (hI : Steady I) (env : Env) (childId : String)
    (durationMinutes : ℤ) : Prog.Keeps I (checkDailyLimit env childId durationMinutes) := by
  refine .bind (.bind (keeps_query hI _) fun _ => .pure _) fun limit => ?_
  rcases limit with _ | dailyLimit
  · exact .pure _
  · exact .bind (.bind keeps_newDate fun _ => .bind (keeps_query hI _) fun _ => .pure _)
      fun _ => .require _ _

/-- What a successful `start` has checked and created. -/
theorem start_ok {env : Env} {parentId : String} {dto : StartSessionDto} {w w' : World}
    {s : Session} (h : (start env parentId dto).run w = (.ok s, w')) :
    ∃ d t, w.db.devices.find dto.deviceId = some d ∧ d.parentId = parentId ∧
      d.childId = some s.childId ∧
      (∀ r ∈ w.db.sessions.rows, r.deviceId = dto.deviceId → r.status ≠ .active) ∧
      (∃ w₀ w₁, (checkDailyLimit env s.childId dto.durationMinutes).run w₀ = (.ok (), w₁) ∧
        w₀.db = w.db ∧ w₀.now = w.now) ∧
      w.db.sessions.insert s = some t ∧ w'.db = { w.db with sessions := t } ∧ w'.now = w.now ∧
      s = { s with
        deviceId := dto.deviceId, parentId, status := .active, startedAt := w.now, pausedAt := none,
        resumedAt := none, stoppedAt := none, expiredAt := none,
        durationMinutes := dto.durationMinutes, remainingMinutes := dto.durationMinutes,
        extendedMinutes := 0 } := by
  obtain ⟨_, _, h1, h⟩ := Prog.run_bind_ok.mp h
  obtain ⟨d, _, h2, h⟩ := Prog.run_bind_ok.mp h
  obtain ⟨_, _, h3, h⟩ := Prog.run_bind_ok.mp h
  obtain ⟨c, _, h4, h⟩ := Prog.run_bind_ok.mp h
  obtain ⟨active, _, h5, h⟩ := Prog.run_bind_ok.mp h
  obtain ⟨_, _, h6, h⟩ := Prog.run_bind_ok.mp h
  obtain ⟨_, w₁, h7, hnew⟩ := Prog.run_bind_ok.mp h
  obtain ⟨rfl, rfl⟩ := run_findUnique_ok.mp h1
  obtain ⟨hd, rfl⟩ := Prog.run_orThrow_ok.mp h2
  obtain ⟨hp, rfl⟩ := Prog.run_require_ok.mp h3
  obtain ⟨hc, rfl⟩ := Prog.run_orThrow_ok.mp h4
  obtain ⟨hactive, rfl⟩ := run_query_ok.mp h5
  obtain ⟨hnone, rfl⟩ := Prog.run_require_ok.mp h6
  have steady : Steady fun w₁ => w₁.db = w.db ∧ w₁.now = w.now := fun _ h => h
  obtain ⟨hdb, hnow⟩ := (keeps_checkDailyLimit steady env c _).of_run h7 ⟨rfl, rfl⟩
  obtain ⟨rfl, -, t, ht, rfl⟩ := run_create_ok hnew
  have hc' : d.childId = some c := by
    cases hx : d.childId <;> simp_all [truthy, Option.filter]
  refine ⟨d, t, hd, hp, hc', fun r hr hdev hst => ?_, ⟨_, w₁, h7, rfl, rfl⟩,
    by simpa [Model.session, hdb] using ht, by simp [Model.session, hdb], hnow, by rw [hnow]⟩
  subst hactive
  have hempty : matching Model.session w.db (w.tape (w.calls + 1))
      (fun s => s.deviceId = dto.deviceId && s.status = .active) = [] := by
    simpa using hnone
  have hmem : r ∈ matching Model.session w.db (w.tape (w.calls + 1))
      (fun s => s.deviceId = dto.deviceId && s.status = .active) :=
    mem_matching.mpr ⟨hr, by simp [hdev, hst]⟩
  rw [hempty] at hmem
  simp at hmem

/-- `getAndValidate`. -/
def getAndValidate (sessionId parentId : String) : Api Session := do
  let session ← Prog.orThrow (← Prisma.findUnique .session sessionId)
    (.notFound "Session not found")
  Prog.require (session.parentId = parentId) (.forbidden "Not your session")
  pure session

/-- `calculateElapsedMinutes` at time `now`. -/
def calculateElapsedMinutes (now startedAt : Time) (resumedAt : Option Time) : ℤ :=
  (now - resumedAt.getD startedAt) / 60000

/-- `calculateRemainingMinutes` at time `now`. -/
def calculateRemainingMinutes (now : Time) (session : Session) : ℤ :=
  let left := session.durationMinutes + session.extendedMinutes -
    calculateElapsedMinutes now session.startedAt session.resumedAt
  if session.status = .paused then left
  else if session.status ≠ .active then 0
  else max 0 left

/-- `pause`. -/
def pause (sessionId parentId : String) : Api Session := do
  let session ← getAndValidate sessionId parentId
  Prog.require (session.status = .active) (.badRequest "Session is not active")
  let now ← newDate
  let elapsed := calculateElapsedMinutes now session.startedAt session.resumedAt
  let remaining := max 0 (session.durationMinutes + session.extendedMinutes - elapsed)
  Prisma.update .session sessionId fun s =>
    { s with status := .paused, pausedAt := some now, remainingMinutes := remaining }

/-- `resume`. -/
def resume (sessionId parentId : String) : Api Session := do
  let session ← getAndValidate sessionId parentId
  Prog.require (session.status = .paused) (.badRequest "Session is not paused")
  let now ← newDate
  Prisma.update .session sessionId fun s => { s with status := .active, resumedAt := some now }

/-- `extend`. -/
def extend (sessionId parentId : String) (dto : ExtendSessionDto) : Api Session := do
  let session ← getAndValidate sessionId parentId
  Prog.require (session.status = .active ∨ session.status = .paused)
    (.badRequest "Session is not active or paused")
  Prisma.update .session sessionId fun s =>
    { s with
      extendedMinutes := session.extendedMinutes + dto.extraMinutes
      remainingMinutes := session.remainingMinutes + dto.extraMinutes }

/-- `stop`. -/
def stop (sessionId parentId : String) : Api Session := do
  let session ← getAndValidate sessionId parentId
  Prog.require (session.status ≠ .stopped) (.badRequest "Session already stopped")
  let now ← newDate
  Prisma.update .session sessionId fun s =>
    { s with status := .stopped, stoppedAt := some now, remainingMinutes := 0 }

/-- `expire`. -/
def expire (sessionId : String) : Api Session := do
  let _ ← Prog.orThrow (← Prisma.findUnique .session sessionId) (.notFound "Session not found")
  let now ← newDate
  Prisma.update .session sessionId fun s =>
    { s with status := .expired, expiredAt := some now, remainingMinutes := 0 }

/-- `markViolated`. -/
def markViolated (sessionId : String) : Api Session :=
  Prisma.update .session sessionId fun s => { s with violated := true, status := .violated }

end Sessions

end GuardTime.Services
