import Mathlib.Tactic
import GuardTime.Services.Enforcement

/-! # The scheduler

The passes of `SchedulerService`. A pass reads its rows once and then handles them one after the
other; an exception on one row does not stop the others. -/

namespace GuardTime.Services.Scheduler

open GuardTime.Lib.Program GuardTime.Lib.Js GuardTime.Schema GuardTime.Server GuardTime.Prisma

/-- `for (const b of bs) try { f b } catch (err) { log }`. -/
def forEachSafely {β : Type} (bs : List β) (f : β → Api Unit) : Api Unit :=
  Prog.forEach bs fun b => ignoreErrors (f b)

/-- A nullable string in a template string. -/
def showOption (o : Option String) : String := o.getD "null"

/-- `now.getHours()` and `now.getMinutes()` as `HH:MM`. -/
def currentTime (env : Env) (now : Time) : String :=
  padStart (env.zone.hours now) 2 ++ ":" ++ padStart (env.zone.minutes now) 2

/-! ### Sessions -/

/-- The upsert of a child's `GAMING` block. -/
def blockGaming (childId reason : String) : Api Unit := do
  let _ ← Prisma.upsert .categoryBlock (fun b => b.childId = childId && b.category = .gaming)
    (fun b => { b with active := true, reason := some reason })
    fun id now =>
      { id, childId, category := .gaming, reason := some reason, active := true, createdAt := now,
        updatedAt := now }
  pure ()

/-- `expireSession`. -/
def expireSession (env : Env) (session : Session) (device : Device) : Api Unit := do
  let _ ← Sessions.expire session.id
  let result ← Enforcement.handleOfflineViolation device
  ignoreErrors (blockGaming session.childId ("Session " ++ session.id ++ " expired"))
  let _ ← Notifications.create env
    { userId := session.parentId
      type := .timeEnded
      title := "Screen Time Ended"
      message := "Session expired on device. Online gaming has been auto-blocked. " ++
        (if result.offlineLimitation then
          "Note: offline games cannot be killed directly — see device-specific guides." else "")
      deviceId := some session.deviceId
      childId := some session.childId
      sessionId := some session.id }
  Audit.log
    { userId := some session.parentId
      action := "SESSION_EXPIRED"
      entity := "session"
      entityId := some session.id
      details := some ("Device: " ++ session.deviceId ++ ", offlineLimitation: " ++
        (if result.offlineLimitation then "true" else "false") ++ ", gamingCategoryBlocked: true") }

/-- A notification of the given kind was made since `since`. -/
def recentNotification (p : NotificationEvent → Bool) (since : Time) :
    Api (Option NotificationEvent) :=
  Prisma.findFirst .notificationEvent fun n => p n && since ≤ n.createdAt

/-- `notifyTenMinutesLeft`. -/
def notifyTenMinutesLeft (env : Env) (session : Session) (remaining : ℤ) : Api Unit := do
  let now ← newDate
  let tenMinNotif ← recentNotification
    (fun n => n.sessionId = some session.id && n.type = .time10MinLeft) (now - 600000)
  match tenMinNotif with
  | some _ => pure ()
  | none => do
    let _ ← Notifications.create env
      { userId := session.parentId
        type := .time10MinLeft
        title := "10 Minutes Left"
        message := "Screen time has " ++ toString remaining ++ " minutes remaining"
        deviceId := some session.deviceId
        childId := some session.childId
        sessionId := some session.id }
    pure ()

/-- The body of the loop of `checkActiveSessions`. -/
def checkSession (env : Env) (session : Session) (device : Device) : Api Unit := do
  let now ← newDate
  let remaining := Sessions.calculateRemainingMinutes now session
  if remaining ≤ 0 then expireSession env session device
  else if remaining ≤ 10 then notifyTenMinutesLeft env session remaining
  else pure ()

/-- The active sessions with their devices. -/
def activeSessions (db : Database) (n : ℕ) : List (Session × Device) :=
  (matching .session db n fun s => s.status = .active).filterMap fun s =>
    (db.devices.find s.deviceId).map fun d => (s, d)

/-- `checkActiveSessions`. -/
def checkActiveSessions (env : Env) : Api Unit := do
  let sessions ← Prisma.query activeSessions
  forEachSafely sessions fun p => checkSession env p.1 p.2

/-! ### Rules -/

/-- The bedtime rules starting now, with the devices of their children. -/
def startingRules (time : String) (db : Database) (n : ℕ) : List (Rule × List Device) :=
  (matching .rule db n fun r => r.type = .bedtime && r.active && r.startTime = some time).map
    fun r => (r, matching .device db n fun d => d.childId = some r.childId)

/-- The rule applies on the day. -/
def appliesOn (day : ℕ) (rule : Rule) : Bool :=
  match truthy rule.daysOfWeek with
  | none => true
  | some days => toString day ∈ split days ','

/-- The block of one device by a bedtime rule. -/
def enforceBedtimeRule (rule : Rule) (device : Device) : Api Unit := do
  let window := showOption rule.startTime ++ "-" ++ showOption rule.endTime
  let result ← Enforcement.blockDevice device.id ("Bedtime rule: " ++ window) none
  if result.success then
    Audit.log
      { action := "BEDTIME_ENFORCED"
        entity := "device"
        entityId := some device.id
        details := some ("Rule " ++ rule.id ++ ": bedtime " ++ window) }
  else pure ()

/-- `checkRulesAndSchedules`. -/
def checkRulesAndSchedules (env : Env) : Api Unit := do
  let now ← newDate
  let bedtimeRules ← Prisma.query (startingRules (currentTime env now))
  Prog.forEach bedtimeRules fun p =>
    if appliesOn (env.zone.day now) p.1 then forEachSafely p.2 (enforceBedtimeRule p.1)
    else pure ()

/-! ### Health -/

/-- `STALE_THRESHOLD_MIN * 60_000`. -/
def staleThresholdMs : ℤ := 600000

/-- `COMPROMISED_THRESHOLD`. -/
def compromisedThreshold : ℤ := 3

/-- `lastDnsSeenAt?.toISOString() ?? 'null'`. -/
def showTime (t : Option Time) : String := (t.map toISOString).getD "null"

/-- The body of the loop of `detectDnsBypass`. -/
def reportBypass (env : Env) (device : Device) : Api Unit := do
  let newAttempts := device.bypassAttempts + 1
  let escalate : Bool := newAttempts ≥ compromisedThreshold
  let now ← newDate
  let _ ← Prisma.update .device device.id fun d =>
    { d with
      protectionStatus := if escalate then .compromised else .possibleDnsBypass
      bypassAttempts := newAttempts
      lastBypassDetectedAt := some now }
  let _ ← Notifications.create env
    { userId := device.parentId
      type := if escalate then .repeatedBypass else .possibleDnsBypass
      title := if escalate then "Repeated DNS bypass — device COMPROMISED"
        else "Possible DNS bypass detected"
      message := if escalate then
          "Device \"" ++ device.name ++ "\" has bypassed DNS " ++ toString newAttempts ++
            " times. Marked COMPROMISED — re-check router DNS, lock device network settings, " ++
              "or consider a hotspot block."
        else "Device \"" ++ device.name ++
          "\" is locked but our DNS server hasn't seen any traffic from it. The child may " ++
            "have changed DNS, started a VPN, or switched to a hotspot."
      deviceId := some device.id
      childId := device.childId }
  Audit.log
    { userId := some device.parentId
      action := if escalate then "DEVICE_COMPROMISED" else "DNS_BYPASS_DETECTED"
      entity := "device"
      entityId := some device.id
      details := some ("attempts=" ++ toString newAttempts ++ ", lastDnsSeenAt=" ++
        showTime device.lastDnsSeenAt) }

/-- `detectDnsBypass`. -/
def detectDnsBypass (env : Env) : Api Unit := do
  let now ← newDate
  let cutoff := now - staleThresholdMs
  let suspect ← Prisma.findMany .device fun d =>
    d.internetLocked && d.protectionStatus ≠ .compromised &&
      (d.lastDnsSeenAt.all fun t => t < cutoff) && (d.internetLockedAt.any fun t => t < cutoff)
  forEachSafely suspect (reportBypass env)

/-- The devices of the active sessions. -/
def liveDevices (db : Database) (n : ℕ) : List Device := (activeSessions db n).map Prod.snd

/-- Devices that occur again are skipped. -/
def firstOccurrences : List String → List Device → List Device
  | _, [] => []
  | seen, d :: ds =>
    if d.id ∈ seen then firstOccurrences seen ds else d :: firstOccurrences (d.id :: seen) ds

/-- The alert of `monitorDeviceHealth` for one silent device. -/
def reportSilent (env : Env) (device : Device) : Api Unit := do
  let now ← newDate
  let recent ← recentNotification
    (fun n => n.deviceId = some device.id && n.type = .deviceDisconnected) (now - 21600000)
  match recent with
  | some _ => pure ()
  | none => do
    let _ ← Notifications.create env
      { userId := device.parentId
        type := .deviceDisconnected
        title := "Protection not verified during active use"
        message := "\"" ++ device.name ++
          "\" has a live session but our DNS server hasn't seen it for over 15 minutes. " ++
            "Filtering may be bypassed — check the router/DNS setup, Private DNS, or for a " ++
            "VPN/hotspot."
        deviceId := some device.id
        childId := device.childId }
    Audit.log
      { userId := some device.parentId
        action := "DNS_HEALTH_ALERT"
        entity := "device"
        entityId := some device.id
        details := some ("active session, lastDnsSeenAt=" ++ showTime device.lastDnsSeenAt) }

/-- `monitorDeviceHealth`. -/
def monitorDeviceHealth (env : Env) : Api Unit := do
  let now ← newDate
  let cutoff := now - 900000
  let live ← Prisma.query liveDevices
  let silent := (firstOccurrences [] live).filter fun d =>
    d.dnsConfigured && d.lastDnsSeenAt.all fun t => t < cutoff
  forEachSafely silent (reportSilent env)

/-- The body of the loop of `notifyLowProtection`. -/
def reportLowProtection (env : Env) (device : Device) : Api Unit := do
  let now ← newDate
  let recent ← recentNotification
    (fun n => n.deviceId = some device.id && n.type = .protectionLow) (now - 86400000)
  match recent with
  | some _ => pure ()
  | none => do
    let _ ← Notifications.create env
      { userId := device.parentId
        type := .protectionLow
        title := "Low protection score"
        message := "Device \"" ++ device.name ++ "\" has a protection score of " ++
          toString device.protectionScore ++ "/100. Open insights to see recommendations."
        deviceId := some device.id
        childId := device.childId }
    pure ()

/-- `notifyLowProtection`. -/
def notifyLowProtection (env : Env) : Api Unit := do
  let lowScoreDevices ← Prisma.findMany .device fun d => d.protectionScore < 50
  forEachSafely lowScoreDevices (reportLowProtection env)

/-! ### Device schedules -/

/-- `toMin`: `NaN` when a part is missing or no number. -/
def toMin (s : String) : JsNum :=
  match split s ':' with
  | h :: m :: _ => do return (← number h) * 60 + (← number m)
  | _ => none

/-- `a <= b`, false when either is `NaN`. -/
def leNum : JsNum → JsNum → Bool
  | some a, some b => a ≤ b
  | _, _ => false

/-- `a < b`, false when either is `NaN`. -/
def ltNum : JsNum → JsNum → Bool
  | some a, some b => a < b
  | _, _ => false

/-- `isWithinBedtime`. -/
def isWithinBedtime (now start finish : String) : Bool :=
  let n := toMin now
  let s := toMin start
  let e := toMin finish
  if leNum s e then leNum s n && ltNum n e else leNum s n || ltNum n e

/-- The device has a bedtime and the time is inside it. -/
def inBedtime (time : String) (device : Device) : Bool :=
  match truthy device.bedtimeStart, truthy device.bedtimeEnd with
  | some s, some e => isWithinBedtime time s e
  | _, _ => false

/-- The lock was placed by a bedtime. -/
def lockedByBedtime (device : Device) : Bool :=
  device.internetLocked && device.internetLockedReason.any fun r => startsWith r "Bedtime"

/-- The bedtime lock of `enforceDeviceSchedules`. -/
def bedtimeLock (now : Time) (time : String) (device : Device) : Api Unit := do
  let _ ← Prisma.update .device device.id fun d =>
    { d with
      internetLocked := true
      blockingMode := .fullInternetLock
      internetLockedReason := some ("Bedtime " ++ showOption device.bedtimeStart ++ "-" ++
        showOption device.bedtimeEnd)
      internetLockedAt := some now }
  Audit.log
    { userId := some device.parentId
      action := "BEDTIME_LOCK"
      entity := "device"
      entityId := some device.id
      details := some ("Auto-locked at " ++ time) }

/-- The unlock when the bedtime has ended. -/
def bedtimeUnlock (time : String) (device : Device) : Api Unit := do
  let _ ← Prisma.update .device device.id
    (fun d =>
      { d with
        internetLocked := false
        blockingMode := .gamingOnly
        internetLockedReason := none
        internetLockedAt := none })
    Devices.unlocked_id
  Audit.log
    { userId := some device.parentId
      action := "BEDTIME_UNLOCK"
      entity := "device"
      entityId := some device.id
      details := some ("Auto-unlocked at " ++ time) }

/-- `aggregate({ _sum: { durationMinutes } })` over the device's sessions since `since`. -/
def sumDurations (deviceId : String) (since : Time) (db : Database) : ℤ :=
  ((db.sessions.rows.filter fun s => s.deviceId = deviceId && since ≤ s.startedAt).map
    Session.durationMinutes).sum

/-- The daily-limit check of `enforceDeviceSchedules`. -/
def enforceDailyLimit (env : Env) (now : Time) (device : Device) : Api Unit :=
  match device.dailyLimitMinutes.filter (· ≠ 0), truthy device.childId with
  | some limit, some childId => do
    let used ← Prisma.query fun db _ => sumDurations device.id (env.zone.startOfDay now) db
    if used ≥ limit then do
      blockGaming childId "Daily limit exceeded"
      Audit.log
        { userId := some device.parentId
          action := "DAILY_LIMIT_BLOCK"
          entity := "device"
          entityId := some device.id
          details := some ("used=" ++ toString used ++ "min, limit=" ++ toString limit ++ "min") }
    else pure ()
  | _, _ => pure ()

/-- The body of the loop of `enforceDeviceSchedules`. -/
def enforceSchedule (env : Env) (now : Time) (device : Device) : Api Unit :=
  let time := currentTime env now
  if inBedtime time device && !device.internetLocked then bedtimeLock now time device
  else do
    Prog.when (!inBedtime time device && lockedByBedtime device) (bedtimeUnlock time device)
    enforceDailyLimit env now device

/-- `enforceDeviceSchedules`. -/
def enforceDeviceSchedules (env : Env) : Api Unit := do
  let devices ← Prisma.findMany .device Device.autoBlockEnabled
  let now ← newDate
  forEachSafely devices (enforceSchedule env now)

/-! ### What the passes leave alone -/

section Keeps
variable {I : World → Prop} {K : Device → Prop}

theorem keeps_forEachSafely {β : Type} {bs : List β} {f : β → Api Unit}
    (h : ∀ b ∈ bs, Prog.Keeps I (f b)) : Prog.Keeps I (forEachSafely bs f) :=
  .forEach bs fun b hb => keeps_ignoreErrors (h b hb)

theorem keeps_expireSession (h : Relays I K) (env : Env) {s : Session} (device : Device)
    (hexp : Prog.Keeps I (Sessions.expire s.id))
    (hgam : ∀ reason, Prog.Keeps I (blockGaming s.childId reason)) :
    Prog.Keeps I (expireSession env s device) :=
  hexp.bind fun _ => (h.handleOfflineViolation device).bind fun _ =>
    (keeps_ignoreErrors (hgam _)).bind fun _ => (h.notify env _).bind fun _ => h.log _

theorem keeps_recentNotification (hI : Steady I) (p : NotificationEvent → Bool) (since : Time) :
    Prog.Keeps I (recentNotification p since) := by
  unfold recentNotification Prisma.findFirst
  exact keeps_query hI _

theorem keeps_notifyTenMinutesLeft (h : NoticeSafe I) (env : Env) (s : Session) (remaining : ℤ) :
    Prog.Keeps I (notifyTenMinutesLeft env s remaining) := by
  refine .bind keeps_newDate fun _ => .bind (keeps_recentNotification h.steady _ _) fun recent => ?_
  rcases recent with _ | _
  · exact (h.notify env _).bind fun _ => .pure _
  · exact .pure _

theorem keeps_checkSession (h : Relays I K) (env : Env) {s : Session} (device : Device)
    (hexp : Prog.Keeps I (Sessions.expire s.id))
    (hgam : ∀ reason, Prog.Keeps I (blockGaming s.childId reason)) :
    Prog.Keeps I (checkSession env s device) :=
  keeps_newDate.bind fun _ => .ite (fun _ => keeps_expireSession h env device hexp hgam) fun _ =>
    .ite (fun _ => keeps_notifyTenMinutesLeft h.toNoticeSafe env s _) fun _ => .pure _

theorem keeps_enforceBedtimeRule (h : Relays I K) (rule : Rule) (device : Device) :
    Prog.Keeps I (enforceBedtimeRule rule device) :=
  (h.blockDevice _ _ _).bind fun _ => .ite (fun _ => h.log _) fun _ => .pure _

theorem keeps_checkRulesAndSchedules (h : Relays I K) (env : Env) :
    Prog.Keeps I (checkRulesAndSchedules env) :=
  keeps_newDate.bind fun _ => .bind (keeps_query h.steady _) fun rules =>
    .forEach rules fun p _ => .ite
      (fun _ => keeps_forEachSafely fun d _ => keeps_enforceBedtimeRule h p.1 d) fun _ => .pure _

theorem keeps_reportSilent (h : NoticeSafe I) (env : Env) (device : Device) :
    Prog.Keeps I (reportSilent env device) := by
  refine .bind keeps_newDate fun _ => .bind (keeps_recentNotification h.steady _ _) fun recent => ?_
  rcases recent with _ | _
  · exact (h.notify env _).bind fun _ => h.log _
  · exact .pure _

theorem keeps_monitorDeviceHealth (h : NoticeSafe I) (env : Env) :
    Prog.Keeps I (monitorDeviceHealth env) :=
  keeps_newDate.bind fun _ => .bind (keeps_query h.steady _) fun _ =>
    keeps_forEachSafely fun d _ => keeps_reportSilent h env d

theorem keeps_reportLowProtection (h : NoticeSafe I) (env : Env) (device : Device) :
    Prog.Keeps I (reportLowProtection env device) := by
  refine .bind keeps_newDate fun _ => .bind (keeps_recentNotification h.steady _ _) fun recent => ?_
  rcases recent with _ | _
  · exact (h.notify env _).bind fun _ => .pure _
  · exact .pure _

theorem keeps_notifyLowProtection (h : NoticeSafe I) (env : Env) :
    Prog.Keeps I (notifyLowProtection env) :=
  .bind (keeps_query h.steady _) fun _ =>
    keeps_forEachSafely fun d _ => keeps_reportLowProtection h env d

end Keeps

end GuardTime.Services.Scheduler
