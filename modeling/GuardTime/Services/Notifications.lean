import Mathlib.Tactic
import GuardTime.Footprint

/-! # Audit log, push delivery and notifications

`AuditService.log`, `FcmSender.sendMulticast`, `PushService.sendToUser` and
`NotificationsService.create`. Delivery is best effort: no failure of it reaches the caller. -/

namespace GuardTime.Services

open GuardTime.Lib.Program GuardTime.Lib.Js GuardTime.Schema GuardTime.Server GuardTime.Prisma

/-! ### Audit -/

namespace Audit

/-- The argument of `AuditService.log`. -/
structure Entry where
  userId : Option String := none
  action : String
  entity : String
  entityId : Option String := none
  details : Option String := none
  ipAddress : Option String := none

/-- `log`. -/
def log (data : Entry) : Api Unit := do
  let _ ← Prisma.create .auditLog fun id now =>
    { id, userId := data.userId, action := data.action, entity := data.entity,
      entityId := data.entityId, details := data.details, ipAddress := data.ipAddress,
      createdAt := now }
  pure ()

/-- An entry is added to the audit table, or nothing is written. -/
theorem run_log (data : Entry) (w : World) :
    (∃ e, (log data).run w = (.error e, World.afterCall w w.db)) ∨
    ∃ entry logs, entry.id = w.uuids w.calls 0 ∧ w.db.auditLogs.insert entry = some logs ∧
      (log data).run w = (.ok (), World.afterCall w (audited w.db logs)) := by
  unfold log
  rw [Prog.run_bind]
  rcases run_create_cases .auditLog (fun id now =>
      { id, userId := data.userId, action := data.action, entity := data.entity,
        entityId := data.entityId, details := data.details, ipAddress := data.ipAddress,
        createdAt := now }) w with ⟨e, h⟩ | ⟨t, hins, h⟩
  · rw [h]
    exact .inl ⟨e, rfl⟩
  · rw [h]
    exact .inr ⟨_, t, rfl, hins, rfl⟩

/-- Why an entry is refused: its identifier is taken, or its user is missing. -/
theorem log_error {data : Entry} {w w' : World} {e : Err} (h : (log data).run w = (.error e, w')) :
    (∃ a ∈ w.db.auditLogs.rows, a.id = w.uuids w.calls 0) ∨
      ∃ u, data.userId = some u ∧ w.db.users.find u = none := by
  unfold log at h
  rw [Prog.run_bind] at h
  rcases hc : (Prisma.create .auditLog fun id now =>
      { id, userId := data.userId, action := data.action, entity := data.entity,
        entityId := data.entityId, details := data.details, ipAddress := data.ipAddress,
        createdAt := now }).run w with ⟨e' | a, w₁⟩ <;> rw [hc] at h
  · rcases run_create_error hc with ⟨u, hu, -⟩ | ⟨l, hl, hholds⟩ | ⟨a, ha, hid⟩
    · cases hu
    · refine .inr ?_
      rcases hu : data.userId with _ | u
      · simp [Model.auditLog, hu] at hl
      · simp only [Model.auditLog, hu, Option.map_some, Option.toList_some,
          List.mem_singleton] at hl
        subst hl
        exact ⟨u, rfl, by simpa [Link.holds] using hholds⟩
    · exact .inl ⟨a, ha, hid⟩
  · cases h

/-- An entry without a user depends on the audit table alone. -/
theorem run_log_anonymous {data : Entry} (h : data.userId = none) (w : World) : (log data).run w =
    match w.db.auditLogs.insert ⟨w.uuids w.calls 0, none, data.action, data.entity, data.entityId,
      data.details, data.ipAddress, w.now⟩ with
    | some logs => (.ok (), World.afterCall w (audited w.db logs))
    | none => (.error (.prisma "P2002"), World.afterCall w w.db) := by
  unfold log Prisma.create
  rw [Prog.run_bind, run_dbCall]
  simp only [Model.insertRow, Model.auditLog, h, List.any_nil, List.all_nil, Option.map_none,
    Option.toList_none]
  rcases hins : w.db.auditLogs.insert ⟨w.uuids w.calls 0, none, data.action, data.entity,
    data.entityId, data.details, data.ipAddress, w.now⟩ with _ | logs
  · simp [World.ctx, hins]
  · simp [World.ctx, hins, audited]

/-- Past the transaction's client such an entry is written as if inside. -/
theorem mirrors_log {data : Entry} (h : data.userId = none) :
    Mirrors (log data) (viaPlain (log data)) := by
  intro t ht
  rw [run_viaPlain, run_log_anonymous h, run_log_anonymous h]
  simp only [inside_db, inside_uuids, inside_calls, inside_now, ht.view_auditLogs]
  rcases t.base.db.auditLogs.insert _ with _ | logs
  · exact ⟨rfl, rfl, ht, t.base.db.auditLogs, rfl⟩
  · refine ⟨rfl, ?_, ht, logs, rfl⟩
    have hview := TxApart.foldl ht t.base.db logs
    exact congrArg (World.afterCall t.inside) hview

end Audit

/-! ### Push -/

namespace Push

/-- `MAX_RETRIES`. -/
def maxRetries : ℕ := 2

/-- `TRANSIENT_CODES`. -/
def transientCodes : List String :=
  ["messaging/internal-error", "messaging/server-unavailable", "messaging/unknown-error",
   "messaging/timeout", "messaging/quota-exceeded"]

/-- `INVALID_TOKEN_CODES`. -/
def invalidTokenCodes : List String :=
  ["messaging/registration-token-not-registered", "messaging/invalid-registration-token",
   "messaging/invalid-argument", "messaging/unregistered", "messaging/mismatched-credential"]

/-- `MulticastResult`. -/
structure MulticastResult where
  sent : List String := []
  invalid : List String := []
  errored : List String := []
  skipped : Bool := false
deriving DecidableEq

/-- One answer of a multicast call: the token joins a result list, or the retry list. -/
def classify (isLastAttempt : Bool) (acc : MulticastResult × List String)
    (answer : SendResponse × String) : MulticastResult × List String :=
  let (res, retryNext) := acc
  let (r, token) := answer
  match r with
  | .ok () => ({ res with sent := res.sent ++ [token] }, retryNext)
  | .error code =>
    if code ∈ invalidTokenCodes then ({ res with invalid := res.invalid ++ [token] }, retryNext)
    else if code ∈ transientCodes ∧ isLastAttempt = false then (res, retryNext ++ [token])
    else ({ res with errored := res.errored ++ [token] }, retryNext)

/-- The attempts of `sendMulticast` that are left, `fuel` of them, the last one with fuel `1`. -/
def attempts (send : ℕ → List String → FcmMessage → Except String (List SendResponse))
    (message : FcmMessage) : ℕ → List String → MulticastResult → Api MulticastResult
  | 0, _, res => pure res
  | fuel + 1, pending, res =>
    if pending = [] then pure res
    else do
      let answer ← Prog.call fun w =>
        (.ok (send w.calls pending message), { w with calls := w.calls + 1 })
      match answer with
      | .error _ =>
        if fuel = 0 then pure { res with errored := res.errored ++ pending }
        else attempts send message fuel pending res
      | .ok responses =>
        let (res', retryNext) :=
          (responses.zip pending).foldl (classify (fuel = 0)) (res, [])
        attempts send message fuel retryNext res'

/-- `sendMulticast`. -/
def sendMulticast (env : Env) (tokens : List String) (message : FcmMessage) :
    Api MulticastResult :=
  if tokens = [] then pure {}
  else match env.sendEachForMulticast with
    | none => pure { skipped := true }
    | some send => attempts send message (maxRetries + 1) tokens {}

/-- `sendToUser`. -/
def sendToUser (env : Env) (userId : String) (message : FcmMessage) : Api Unit := do
  let tokens ← Prisma.findMany .pushToken fun t => t.userId = userId
  if tokens = [] then pure ()
  else do
    let result ← sendMulticast env (tokens.map PushToken.token) message
    Prog.when (result.invalid ≠ [])
      (ignoreErrors (Prisma.deleteMany .pushToken fun t => t.token ∈ result.invalid))

end Push

/-! ### Notifications -/

namespace Notifications

/-- The argument of `NotificationsService.create`. -/
structure Data where
  userId : String
  type : NotificationType
  title : String
  message : String
  deviceId : Option String := none
  childId : Option String := none
  sessionId : Option String := none

/-- The enumeration value as the payload spells it. -/
def typeName : NotificationType → String
  | .time10MinLeft => "TIME_10_MIN_LEFT"
  | .timeEnded => "TIME_ENDED"
  | .deviceBlocked => "DEVICE_BLOCKED"
  | .childRequestMoreTime => "CHILD_REQUEST_MORE_TIME"
  | .parentApproved => "PARENT_APPROVED"
  | .parentDenied => "PARENT_DENIED"
  | .possibleDnsBypass => "POSSIBLE_DNS_BYPASS"
  | .offlineSetupIncomplete => "OFFLINE_SETUP_INCOMPLETE"
  | .protectionLow => "PROTECTION_LOW"
  | .repeatedBypass => "REPEATED_BYPASS"
  | .deviceDisconnected => "DEVICE_DISCONNECTED"

/-- `deliver`: whether the push went through without an exception. -/
def deliver (env : Env) (notificationId : String) (data : Data) : Api Bool :=
  if env.sendEachForMulticast.isNone then pure false
  else
    let nonEmpty (name : String) (v : Option String) : List (String × String) :=
      match v with
      | some s => if s = "" then [] else [(name, s)]
      | none => []
    let payload := [("notificationId", notificationId), ("type", typeName data.type)] ++
      nonEmpty "deviceId" data.deviceId ++ nonEmpty "childId" data.childId ++
      nonEmpty "sessionId" data.sessionId
    (do Push.sendToUser env data.userId ⟨data.title, data.message, payload⟩; pure true).catchErr
      fun _ => pure false

theorem sent_id (r : NotificationEvent) :
    ({ r with sentViaFcm := true } : NotificationEvent).id = r.id := rfl

/-- `create`. -/
def create (env : Env) (data : Data) : Api NotificationEvent := do
  let notification ← Prisma.create .notificationEvent fun id now =>
    { id, userId := data.userId, type := data.type, title := data.title, message := data.message,
      deviceId := data.deviceId, childId := data.childId, sessionId := data.sessionId,
      read := false, sentViaFcm := false, createdAt := now }
  let delivered ← deliver env notification.id data
  Prog.when delivered (ignoreErrors do
    let _ ← Prisma.update .notificationEvent notification.id fun r => { r with sentViaFcm := true }
    pure ())
  pure notification

end Notifications

/-! ### What they leave alone -/

/-- The property says nothing about the audit log, notifications and push tokens. -/
structure NoticeSafe (I : World → Prop) : Prop where
  steady : Steady I
  auditLog : Free .auditLog I
  notificationEvent : Free .notificationEvent I
  pushToken : Free .pushToken I

namespace NoticeSafe

variable {I : World → Prop} (h : NoticeSafe I)
include h

theorem log (data : Audit.Entry) : Prog.Keeps I (Audit.log data) :=
  (h.auditLog.create h.steady _).bind fun _ => .pure _

theorem attempts (send : ℕ → List String → FcmMessage → Except String (List SendResponse))
    (message : FcmMessage) : ∀ (fuel : ℕ) (pending : List String) (res : Push.MulticastResult),
    Prog.Keeps I (Push.attempts send message fuel pending res)
  | 0, _, _ => .pure _
  | fuel + 1, pending, res => by
    refine .ite (fun _ => .pure _) fun _ => .bind (.call fun w hw => h.steady w hw) fun answer => ?_
    rcases answer with _ | responses
    · exact .ite (fun _ => .pure _) fun _ => attempts send message fuel pending res
    · exact attempts send message fuel _ _

theorem sendToUser (env : Env) (userId : String) (message : FcmMessage) :
    Prog.Keeps I (Push.sendToUser env userId message) := by
  refine .bind (keeps_query h.steady _) fun tokens => .ite (fun _ => .pure _) fun _ => .bind ?_
    fun result => .when fun _ => keeps_ignoreErrors (h.pushToken.deleteMany h.steady _)
  unfold Push.sendMulticast
  split_ifs
  · exact .pure _
  · rcases env.sendEachForMulticast with _ | send
    · exact .pure _
    · exact h.attempts send message _ _ _

theorem notify (env : Env) (data : Notifications.Data) :
    Prog.Keeps I (Notifications.create env data) := by
  refine .bind (h.notificationEvent.create h.steady _) fun n => .bind ?_ fun delivered =>
    .bind (.when fun _ => keeps_ignoreErrors
      ((h.notificationEvent.update h.steady _ _ _).bind fun _ => .pure _)) fun _ => .pure _
  exact .ite (fun _ => .pure _) fun _ =>
    .catchErr ((h.sendToUser env _ _).bind fun _ => .pure _) fun _ => .pure _

end NoticeSafe

end GuardTime.Services
