import Mathlib.Tactic
import GuardTime.Lib.Faults
import GuardTime.Session.Once

/-! # Expiry with failing calls

A pass of `checkActiveSessions` in which calls fail. `expireSession` writes the status first, and
the `GAMING` block and the notification later, so a failure in between leaves a session that no
later pass retries: `kept_iff` says for which failing calls, and in which states, nothing is lost.

* `pass`: the pass with its handlers, the same program as `checkActiveSessions` (`prog_pass`);
* `Stage`: the part of `expireSession` to which a call belongs. -/

namespace GuardTime.Session.Interrupted

open GuardTime.Lib.Program GuardTime.Lib.Interleave GuardTime.Lib.Keyed GuardTime.Lib.Js
open GuardTime.Lib.Faults GuardTime.Lib.Faults.Code
open GuardTime.Schema GuardTime.Server GuardTime.Prisma GuardTime.Services
open GuardTime.Session.Once

/-- The parts of `expireSession`: the status, the enforcement on the device and its copy on the
router, the `GAMING` block, the notification and its delivery, the audit entry. -/
inductive Stage where
  | expire | enforce | sync | block | notify | deliver | log
deriving DecidableEq

/-- The calls of a pass: the list of the sessions, the expiry of a session, its reminder. -/
inductive Kind where
  | list
  | session (id : String) (stage : Stage)
  | remind (id : String)
deriving DecidableEq

/-! ### The pass with its handlers -/

/-- Requests whose calls may fail. -/
abbrev Faulty := Code World Err Kind

/-- `ignoreErrors`. -/
def ignoring (c : Faulty Unit) : Faulty Unit := handle c fun _ => ret (.ok ())

section Enforcement
variable (k : Stage → Kind)

/-- `Enforcement.syncToRouter`. -/
def syncToRouter (device : Device)
    (sync : String → String → Api SmartBlock.Outcome) : Faulty Json :=
  match truthy device.gatewayId with
  | none =>
    ret (.ok (Enforcement.routerSyncJson false ⟨false, none, [], some "device has no gateway"⟩))
  | some gatewayId =>
    handle
      (bind (step (k .sync) (sync gatewayId device.id)) fun outcome =>
        ret (.ok (Enforcement.routerSyncJson true outcome)))
      fun err => ret (.ok (Enforcement.routerSyncJson true ⟨false, none, [], some err.message⟩))

/-- `Enforcement.settle` of a block. -/
def settle (device : Device) (reason : String) (result : Adapters.ControlResult) :
    Faulty Adapters.ControlResult :=
  bind (step (k .enforce) (Prisma.update .device device.id fun d => { d with status := .blocked }))
    fun _ =>
  bind (step (k .enforce)
    (DnsPolicy.invalidateSourceIps [device.ipAddress, device.dnsSourceIp, device.ipv6Address]))
    fun _ =>
  bind (step (k .enforce) (Audit.log
    { userId := none, action := "device.block", entity := "device", entityId := some device.id,
      details := some reason })) fun _ =>
  bind (syncToRouter k device SmartBlock.syncBlockToRouter) fun routerSync =>
  ret (.ok { result with data := result.data ++ [("routerSync", routerSync)] })

/-- `Enforcement.blockDevice` without a caller. -/
def blockDevice (deviceId reason : String) : Faulty Adapters.ControlResult :=
  bind (step (k .enforce) (Enforcement.findDevice deviceId none)) fun device =>
  bind (step (k .enforce) (Adapters.blockDevice device reason)) fun result =>
  if result.success then settle k device reason result else ret (.ok result)

/-- `Enforcement.handleOfflineViolation`. -/
def handleOfflineViolation (device : Device) : Faulty Adapters.ControlResult :=
  bind (step (k .enforce) (Adapters.stopSession device)) fun _ =>
  if Adapters.isOfflineGameUnsupported device then
    bind (if (truthy device.gatewayId).isSome then
        bind (blockDevice k device.id "Session expired - offline game violation") fun _ =>
        ret (.ok ())
      else ret (.ok ())) fun _ =>
    ret (.ok
      { success := true
        message := "Session expired, internet blocked via gateway. Cannot kill offline game " ++
          "directly. Parent notified."
        data := [("offlineLimitation", .bool true), ("actions", .arr
          [.str "expire_session", .str "block_internet_via_gateway",
           .str "prevent_future_online_access", .str "apply_cooldown", .str "notify_parent",
           .str "mark_session_violated"])] })
  else blockDevice k device.id "Session expired"

end Enforcement

section Notifications
variable (notify deliver : Kind) (env : Env)

/-- `Push.sendToUser`. -/
def sendToUser (userId : String) (message : FcmMessage) : Faulty Unit :=
  bind (step deliver (Prisma.findMany .pushToken fun t => t.userId = userId)) fun tokens =>
  if tokens = [] then ret (.ok ())
  else
    bind (step deliver (Push.sendMulticast env (tokens.map PushToken.token) message)) fun result =>
    if result.invalid ≠ [] then
      ignoring (step deliver (Prisma.deleteMany .pushToken fun t => t.token ∈ result.invalid))
    else ret (.ok ())

/-- The payload of a push. -/
def pushPayload (notificationId : String) (data : Notifications.Data) : List (String × String) :=
  let nonEmpty (name : String) (v : Option String) : List (String × String) :=
    match v with
    | some s => if s = "" then [] else [(name, s)]
    | none => []
  [("notificationId", notificationId), ("type", Notifications.typeName data.type)] ++
    nonEmpty "deviceId" data.deviceId ++ nonEmpty "childId" data.childId ++
    nonEmpty "sessionId" data.sessionId

/-- `Notifications.deliver`. -/
def deliverNotice (notificationId : String) (data : Notifications.Data) : Faulty Bool :=
  if env.sendEachForMulticast.isNone then ret (.ok false)
  else
    handle
      (bind (sendToUser deliver env data.userId
          ⟨data.title, data.message, pushPayload notificationId data⟩) fun _ => ret (.ok true))
      fun _ => ret (.ok false)

/-- The rest of `Notifications.create`, when the notification exists. -/
def sendNotice (data : Notifications.Data) (notification : NotificationEvent) :
    Faulty NotificationEvent :=
  bind (deliverNotice deliver env notification.id data) fun delivered =>
  bind (if delivered then
      ignoring (bind (step deliver (Prisma.update .notificationEvent notification.id
        (fun r => { r with sentViaFcm := true }) Notifications.sent_id)) fun _ => ret (.ok ()))
    else ret (.ok ())) fun _ =>
  ret (.ok notification)

/-- `Notifications.create`. -/
def createNotice (data : Notifications.Data) : Faulty NotificationEvent :=
  bind (step notify (Prisma.create .notificationEvent (noticeRow data)))
    (sendNotice deliver env data)

end Notifications

section Pass
variable (env : Env)

/-- The session of `Sessions.expire`. -/
def findSession (sessionId : String) : Api Session := do
  Prog.orThrow (← Prisma.findUnique .session sessionId) (.notFound "Session not found")

/-- `Sessions.expire`. -/
def expire (k : Kind) (sessionId : String) : Faulty Session :=
  bind (step k (findSession sessionId)) fun _ =>
  bind (read World.now) fun now =>
  step k (Prisma.update .session sessionId (expiredRow now) (expiredRow_id now))

/-- What `Scheduler.blockGaming` creates. -/
def gamingBlock (childId reason id : String) (now : Time) : CategoryBlock :=
  { id, childId, category := .gaming, reason := some reason, active := true, createdAt := now,
    updatedAt := now }

/-- What it writes to a block that exists. -/
def activated (reason : String) (b : CategoryBlock) : CategoryBlock :=
  { b with active := true, reason := some reason }

/-- `Scheduler.blockGaming`. -/
def blockGaming (k : Kind) (childId reason : String) : Faulty Unit :=
  bind (step k (Prisma.upsert .categoryBlock
    (fun b => b.childId = childId && b.category = .gaming) (activated reason)
    (gamingBlock childId reason))) fun _ =>
  ret (.ok ())

/-- The notification of an expiry. -/
def endedData (session : Session) (result : Adapters.ControlResult) : Notifications.Data where
  userId := session.parentId
  type := .timeEnded
  title := "Screen Time Ended"
  message := "Session expired on device. Online gaming has been auto-blocked. " ++
    (if result.offlineLimitation then
      "Note: offline games cannot be killed directly — see device-specific guides." else "")
  deviceId := some session.deviceId
  childId := some session.childId
  sessionId := some session.id

/-- The audit entry of an expiry. -/
def expiredEntry (session : Session) (result : Adapters.ControlResult) : Audit.Entry where
  userId := some session.parentId
  action := "SESSION_EXPIRED"
  entity := "session"
  entityId := some session.id
  details := some ("Device: " ++ session.deviceId ++ ", offlineLimitation: " ++
    (if result.offlineLimitation then "true" else "false") ++ ", gamingCategoryBlocked: true")

/-- `expireSession`. -/
def expireSession (session : Session) (device : Device) : Faulty Unit :=
  let k := Kind.session session.id
  bind (expire (k .expire) session.id) fun _ =>
  bind (handleOfflineViolation k device) fun result =>
  bind (ignoring (blockGaming (k .block) session.childId ("Session " ++ session.id ++ " expired")))
    fun _ =>
  bind (createNotice (k .notify) (k .deliver) env (endedData session result)) fun _ =>
  step (k .log) (Audit.log (expiredEntry session result))

/-- The reminder of `notifyTenMinutesLeft`. -/
def reminderData (session : Session) (remaining : ℤ) : Notifications.Data where
  userId := session.parentId
  type := .time10MinLeft
  title := "10 Minutes Left"
  message := "Screen time has " ++ toString remaining ++ " minutes remaining"
  deviceId := some session.deviceId
  childId := some session.childId
  sessionId := some session.id

/-- `notifyTenMinutesLeft`. -/
def notifyTenMinutesLeft (session : Session) (remaining : ℤ) : Faulty Unit :=
  let k := Kind.remind session.id
  bind (read World.now) fun now =>
  bind (step k (Scheduler.recentNotification
    (fun n => n.sessionId = some session.id && n.type = .time10MinLeft) (now - 600000)))
    fun tenMinNotif =>
  match tenMinNotif with
  | some _ => ret (.ok ())
  | none => bind (createNotice k k env (reminderData session remaining)) fun _ => ret (.ok ())

/-- The body of the loop of `checkActiveSessions`. -/
def checkSession (session : Session) (device : Device) : Faulty Unit :=
  bind (read World.now) fun now =>
  if Sessions.calculateRemainingMinutes now session ≤ 0 then expireSession env session device
  else if Sessions.calculateRemainingMinutes now session ≤ 10 then
    notifyTenMinutesLeft env session (Sessions.calculateRemainingMinutes now session)
  else ret (.ok ())

/-- The loop of `checkActiveSessions`. -/
def sessionsLoop (sessions : List (Session × Device)) : Faulty Unit :=
  Code.forEach sessions fun p => ignoring (checkSession env p.1 p.2)

/-- `checkActiveSessions`. -/
def pass : Faulty Unit :=
  bind (step .list (Prisma.query Scheduler.activeSessions)) (sessionsLoop env)

end Pass

/-! ### It is the pass -/

section Prog
variable {env : Env}

theorem prog_syncToRouter (k : Stage → Kind) (device : Device)
    (sync : String → String → Api SmartBlock.Outcome) :
    (syncToRouter k device sync).prog = Enforcement.syncToRouter device sync := by
  unfold syncToRouter Enforcement.syncToRouter
  rcases truthy device.gatewayId with _ | gatewayId <;> rfl

theorem prog_settle (k : Stage → Kind) (device : Device) (reason : String)
    (result : Adapters.ControlResult) : (settle k device reason result).prog =
      Enforcement.settle device none .blocked "device.block" (some reason)
        SmartBlock.syncBlockToRouter result := by
  refine congrArg (Prog.bind _) (funext fun _ => congrArg (Prog.bind _) (funext fun _ =>
    congrArg (Prog.bind _) (funext fun _ => ?_)))
  exact congrArg (Prog.bind · _) (prog_syncToRouter k device _)

theorem prog_blockDevice (k : Stage → Kind) (deviceId reason : String) :
    (blockDevice k deviceId reason).prog = Enforcement.blockDevice deviceId reason none := by
  refine congrArg (Prog.bind _)
    (funext fun device => congrArg (Prog.bind _) (funext fun result => ?_))
  exact prog_ite (prog_settle k device reason result) rfl

theorem prog_handleOfflineViolation (k : Stage → Kind) (device : Device) :
    (handleOfflineViolation k device).prog = Enforcement.handleOfflineViolation device := by
  refine congrArg (Prog.bind _) (funext fun _ => prog_ite ?_ (prog_blockDevice k device.id _))
  refine congrArg (Prog.bind · _) (prog_ite ?_ rfl)
  exact congrArg (Prog.bind · _) (prog_blockDevice k device.id _)

theorem prog_sendToUser (deliver : Kind) (userId : String) (message : FcmMessage) :
    (sendToUser deliver env userId message).prog = Push.sendToUser env userId message :=
  congrArg (Prog.bind _) (funext fun _ => prog_ite rfl
    (congrArg (Prog.bind _) (funext fun _ => prog_ite rfl rfl)))

theorem prog_deliverNotice (deliver : Kind) (id : String) (data : Notifications.Data) :
    (deliverNotice deliver env id data).prog = Notifications.deliver env id data := by
  refine prog_ite rfl ?_
  exact congrArg (fun p => Prog.catchErr (Prog.bind p _) _) (prog_sendToUser deliver _ _)

theorem prog_createNotice (notify deliver : Kind) (data : Notifications.Data) :
    (createNotice notify deliver env data).prog = Notifications.create env data := by
  refine congrArg (Prog.bind _) (funext fun n => ?_)
  refine congrArg₂ Prog.bind (prog_deliverNotice deliver n.id data) (funext fun delivered => ?_)
  exact congrArg (Prog.bind · _) (prog_ite rfl rfl)

theorem prog_expireSession (session : Session) (device : Device) :
    (expireSession env session device).prog = Scheduler.expireSession env session device := by
  refine congrArg₂ Prog.bind (Prog.bind_assoc _ _ _) (funext fun _ => ?_)
  refine congrArg₂ Prog.bind (prog_handleOfflineViolation _ device) (funext fun result => ?_)
  refine congrArg (Prog.bind _) (funext fun _ => ?_)
  exact congrArg (Prog.bind · _) (prog_createNotice _ _ (endedData session result))

theorem prog_notifyTenMinutesLeft (session : Session) (remaining : ℤ) :
    (notifyTenMinutesLeft env session remaining).prog =
      Scheduler.notifyTenMinutesLeft env session remaining := by
  refine congrArg (Prog.bind _) (funext fun now => congrArg (Prog.bind _) (funext fun recent => ?_))
  rcases recent with _ | n
  · exact congrArg (Prog.bind · _) (prog_createNotice _ _ (reminderData session remaining))
  · rfl

theorem prog_checkSession (session : Session) (device : Device) :
    (checkSession env session device).prog = Scheduler.checkSession env session device := by
  refine congrArg (Prog.bind _) (funext fun now => ?_)
  exact prog_ite (prog_expireSession session device)
    (prog_ite (prog_notifyTenMinutesLeft session _) rfl)

theorem prog_sessionsLoop : ∀ sessions : List (Session × Device),
    (sessionsLoop env sessions).prog =
      Scheduler.forEachSafely sessions fun p => Scheduler.checkSession env p.1 p.2
  | [] => rfl
  | p :: ps =>
    congrArg₂ Prog.bind (congrArg ignoreErrors (prog_checkSession p.1 p.2))
      (funext fun _ => prog_sessionsLoop ps)

/-- When no call fails but by itself, this is the scheduler's pass. -/
theorem prog_pass : (pass env).prog = Scheduler.checkActiveSessions env :=
  congrArg (Prog.bind _) (funext fun sessions => prog_sessionsLoop sessions)

end Prog

/-! ### What a pass leaves -/

/-- The child's `GAMING` block is active. -/
def blocked (childId : String) (w : World) : Prop :=
  ∃ b ∈ w.db.categoryBlocks.rows, b.childId = childId ∧ b.category = .gaming ∧ b.active = true

/-- The session has a `TIME_ENDED` notification. -/
def notified (sid : String) (w : World) : Prop :=
  ∃ n ∈ w.db.notificationEvents.rows, n.type = .timeEnded ∧ n.sessionId = some sid

/-- The session `sid` is expired if `e`, the child is blocked if `b`, the parent notified if `n`;
nothing else happens to them. -/
structure Effect (childId sid : String) (e b n : Prop) (w w' : World) : Prop where
  now : w'.now = w.now
  expired : e → status sid w' = (status sid w).map fun _ => .expired
  status : ¬ e → status sid w' = status sid w
  blocked : blocked childId w' ↔ blocked childId w ∨ b
  notified : notified sid w' ↔ notified sid w ∨ n

/-- Nothing happens to the session and the block. -/
abbrev Same (childId sid : String) : World → World → Prop := Effect childId sid False False False

section Effect
variable {c sid : String} {e e' b b' n n' : Prop} {w w' w'' : World}

theorem Effect.trans (h : Effect c sid e b n w w') (h' : Effect c sid e' b' n' w' w'') :
    Effect c sid (e ∨ e') (b ∨ b') (n ∨ n') w w'' where
  now := h'.now.trans h.now
  expired he := by
    by_cases he' : e'
    · rw [h'.expired he']
      by_cases he₁ : e
      · rw [h.expired he₁, Option.map_map]
        rfl
      · rw [h.status he₁]
    · rw [h'.status he', h.expired (he.resolve_right he')]
  status he := by
    rw [h'.status fun h₁ => he (.inr h₁), h.status fun h₁ => he (.inl h₁)]
  blocked := by rw [h'.blocked, h.blocked, or_assoc]
  notified := by rw [h'.notified, h.notified, or_assoc]

theorem Effect.congr (h : Effect c sid e b n w w') (he : e ↔ e') (hb : b ↔ b') (hn : n ↔ n') :
    Effect c sid e' b' n' w w' := by
  obtain rfl : e = e' := propext he
  obtain rfl : b = b' := propext hb
  obtain rfl : n = n' := propext hn
  exact h

theorem Effect.same_trans (h : Same c sid w w') (h' : Effect c sid e b n w' w'') :
    Effect c sid e b n w w'' :=
  (h.trans h').congr (.of_eq (false_or e)) (.of_eq (false_or b)) (.of_eq (false_or n))

theorem Effect.trans_same (h : Effect c sid e b n w w') (h' : Same c sid w' w'') :
    Effect c sid e b n w w'' :=
  (h.trans h').congr (.of_eq (or_false e)) (.of_eq (or_false b)) (.of_eq (or_false n))

theorem same_of_tables (hnow : w'.now = w.now) (hs : w'.db.sessions = w.db.sessions)
    (hb : w'.db.categoryBlocks = w.db.categoryBlocks)
    (hn : w'.db.notificationEvents = w.db.notificationEvents) : Same c sid w w' where
  now := hnow
  expired h := h.elim
  status _ := by rw [Once.status, hs, Once.status]
  blocked := by simp only [Interrupted.blocked, hb, or_false]
  notified := by simp only [Interrupted.notified, hn, or_false]

theorem same_refl (w : World) : Same c sid w w := same_of_tables rfl rfl rfl rfl

theorem same_trans (h : Same c sid w w') (h' : Same c sid w' w'') : Same c sid w w'' :=
  h.same_trans h'

theorem idle_same : Idle (Same c sid) := fun _ => same_of_tables rfl rfl rfl rfl

theorem notified_iff : notified sid w ↔ 0 < ended sid w := by
  simp [notified, ended, List.countP_pos_iff]

/-- The session `k` is expired. -/
theorem effect_expire {k : String} (now : Time) (w : World) :
    Effect c sid (k = sid) False False w (World.afterCall w (Model.session.set w.db
      (Model.session.patch w.db.sessions w.now k (expiredRow now) (expiredRow_id now)))) where
  now := rfl
  expired h := by rw [status_expired, if_pos h]
  status h := by rw [status_expired, if_neg h]
  blocked := .of_eq (or_false _).symm
  notified := .of_eq (or_false _).symm

/-- The blocks of the child `k` after `t` has replaced the table. -/
theorem effect_block {k : String} {t : Table CategoryBlock.id}
    (h : ∀ b : CategoryBlock, b.active = true → b.category = .gaming → (b ∈ t.rows →
      b ∈ w.db.categoryBlocks.rows ∨ b.childId = k) ∧ (b ∈ w.db.categoryBlocks.rows →
        b.childId ≠ k →
      b ∈ t.rows))
    (hk : ∃ b ∈ t.rows, b.childId = k ∧ b.category = .gaming ∧ b.active = true) :
    Effect c sid False (k = c) False w
      (World.afterCall w (Model.categoryBlock.set w.db t)) where
  now := rfl
  expired h := h.elim
  status _ := rfl
  blocked := by
    constructor
    · rintro ⟨b, hb, hc, hg, ha⟩
      rcases (h b ha hg).1 hb with hb | hk
      · exact .inl ⟨b, hb, hc, hg, ha⟩
      · exact .inr (hk.symm.trans hc)
    · rintro (⟨b, hb, hc, hg, ha⟩ | rfl)
      · by_cases hbk : b.childId = k
        · rwa [← hc, hbk]
        · exact ⟨b, (h b ha hg).2 hb hbk, hc, hg, ha⟩
      · exact hk
  notified := .of_eq (or_false _).symm

/-- A notification is created. -/
theorem effect_notice {data : Notifications.Data} {t : Table NotificationEvent.id}
    (h : w.db.notificationEvents.insert (noticeRow data (w.uuids w.calls 0) w.now) = some t) :
    Effect c sid False False (data.type = .timeEnded ∧ data.sessionId = some sid) w
      (World.afterCall w (Model.notificationEvent.set w.db t)) where
  now := rfl
  expired h := h.elim
  status _ := rfl
  blocked := .of_eq (or_false _).symm
  notified := by
    change (∃ n ∈ t.rows, _) ↔ _
    rw [(Table.insert_eq_some h).2]
    simp [notified, noticeRow, or_and_right, exists_or]

/-- The mark of a sent notification. -/
theorem same_sent {k : String} :
    Calls (Same c sid)
      (Prisma.update .notificationEvent k fun r => { r with sentViaFcm := true }) := by
  refine calls_update idle_same fun w r _ => ⟨rfl, False.elim, fun _ => rfl,
    .of_eq (or_false _).symm, ?_⟩
  rw [or_false, notified_iff, notified_iff]
  refine .of_eq (congrArg (0 < ·) ?_)
  exact @countP_patch _ _ _ _ _ _ _ (fun _ => by rfl) _ fun _ => rfl

theorem deliverCalls : DeliverCalls (Same c sid) where
  refl := same_refl
  idle := idle_same
  pushToken _ _ := same_of_tables rfl rfl rfl rfl
  sent _ := same_sent

theorem same_log (data : Audit.Entry) : Calls (Same c sid) (Audit.log data) :=
  .bind (calls_create idle_same fun _ _ _ => same_of_tables rfl rfl rfl rfl) fun _ => .pure _

theorem enforcementCalls : EnforcementCalls (Same c sid) where
  refl := same_refl
  idle := idle_same
  command _ _ := same_of_tables rfl rfl rfl rfl
  queue _ _ := same_of_tables rfl rfl rfl rfl
  cache _ _ := same_of_tables rfl rfl rfl rfl
  log data _ := same_log data
  routerCommand _ _ := same_of_tables rfl rfl rfl rfl
  status _ _ := calls_update idle_same fun _ _ _ => same_of_tables rfl rfl rfl rfl

theorem same_of_runs {α : Type} {code : Faulty α} {l : List Kind} {r : Except Err α}
    (hc : code.Each (Same c sid)) (h : code.Runs w l r w') : Same c sid w w' :=
  Runs.rel same_refl same_trans hc h

end Effect

/-! ### The parts of an expiry -/

/-- The calls of kind `k` fail if and only if the result is an error. -/
def Alone {α : Type} (k : Kind) (l : List Kind) (r : Except Err α) : Prop :=
  (∃ a, r = .ok a) ∧ l = [] ∨ (∃ e, r = .error e) ∧ l = [k]

section Parts
variable (c sid : String) {w : World} {k : Kind}

theorem meets_step {α : Type} {p : Api α} (hp : Calls (Same c sid) p) :
    (step k p).Meets (fun l r w' => Alone k l r ∧ Same c sid w w') w := by
  intro l r w' h
  have hsame : Same c sid w w' := Runs.rel (c := step k p) same_refl same_trans hp h
  rcases h with ⟨a, -, hr, hl⟩ | ⟨e, -, hr, hl⟩
  · exact ⟨.inl ⟨⟨a, hr⟩, hl⟩, hsame⟩
  · exact ⟨.inr ⟨⟨e, hr⟩, hl⟩, hsame⟩

theorem meets_ignoring {code : Faulty Unit} {Q : List Kind → Except Err Unit → World → Prop}
    (h : code.Meets (fun l _ w' => Q l (.ok ()) w') w) : (ignoring code).Meets Q w := by
  rintro l r w' (⟨a, h₁, rfl⟩ | ⟨l₁, l₂, e, w₁, h₁, ⟨rfl, rfl, rfl⟩, rfl⟩)
  · exact h _ _ _ h₁
  · rw [List.append_nil]
    exact h _ _ _ h₁

/-- `expire` expires the session, or it fails and does nothing. -/
theorem meets_expire (id : String) : (expire k id).Meets
    (fun l r w' => Alone k l r ∧ Effect c sid (id = sid ∧ l = []) False False w w') w := by
  have hfind : Calls (Same c sid) (findSession id) :=
    .bind (calls_query idle_same _) fun _ => .orThrow _ _
  refine .bind (meets_step c sid hfind) ?_ ?_
  · rintro l s w₁ ⟨⟨-, rfl⟩ | ⟨⟨e, he⟩, -⟩, hsame⟩
    · refine .read_bind (.call ?_ ?_)
      · intro r w₂ hrun
        rcases run_update_cases .session id (expiredRow w₁.now) (fun _ => by rfl) w₁ with
          ⟨e, hrun'⟩ | ⟨row, -, hrun'⟩
        · cases hrun.symm.trans hrun'
        · cases hrun.symm.trans hrun'
          refine ⟨.inl ⟨⟨_, rfl⟩, rfl⟩,
            hsame.same_trans ((effect_expire w₁.now w₁).congr ?_ .rfl .rfl)⟩
          simp
      · intro e w₂ hrun
        refine ⟨.inr ⟨⟨e, rfl⟩, rfl⟩, hsame.same_trans (Effect.congr (e := False) ?_ ?_ .rfl .rfl)⟩
        · rcases hrun with hrun | rfl
          · rcases run_update_cases .session id (expiredRow w₁.now) (fun _ => by rfl) w₁ with
              ⟨e, hrun'⟩ | ⟨row, -, hrun'⟩
            · cases hrun.symm.trans hrun'
              exact idle_same w₁
            · cases hrun.symm.trans hrun'
          · exact same_refl _
        · simp
    · cases he
  · rintro l e w₁ ⟨⟨⟨a, ha⟩, -⟩ | ⟨-, rfl⟩, hsame⟩
    · cases ha
    · exact ⟨.inr ⟨⟨e, rfl⟩, rfl⟩, hsame.congr (by simp) .rfl .rfl⟩

/-- The upsert of the block leaves it active, or it fails and does nothing. -/
theorem meets_upsert (childId reason : String) : (step k (Prisma.upsert .categoryBlock
      (fun b => b.childId = childId && b.category = .gaming) (activated reason)
      (gamingBlock childId reason))).Meets
    (fun l r w' => Alone k l r ∧ Effect c sid False (childId = c ∧ l = []) False w w') w := by
  refine .call ?_ ?_
  · intro b w' hrun
    refine ⟨.inl ⟨⟨b, rfl⟩, rfl⟩, ?_⟩
    rcases run_upsert_cases .categoryBlock (fun b => b.childId = childId && b.category = .gaming)
      (activated reason) (gamingBlock childId reason) (fun _ => by rfl) w with
      ⟨e, hrun'⟩ | ⟨r, hfind, hrun'⟩ | ⟨t, -, hins, hrun'⟩
    · cases hrun.symm.trans hrun'
    · cases hrun.symm.trans hrun'
      have hr := List.find?_some hfind
      have hmem := List.mem_of_find?_eq_some hfind
      simp only [Bool.and_eq_true, decide_eq_true_eq] at hr
      refine (effect_block (k := childId) (fun b ha hg => ⟨fun hb => ?_, fun hb hne => ?_⟩)
        ⟨Model.categoryBlock.touch w.now (activated reason r), Model.mem_patch.mpr
          ⟨r, hmem, (if_pos rfl).symm⟩, hr.1, hr.2, rfl⟩).congr .rfl (by simp) .rfl
      · obtain ⟨b₀, hb₀, rfl⟩ := Model.mem_patch.mp hb
        split_ifs with hid
        · have hrow : b₀ = r := Table.eq_of_key hb₀ hmem hid
          subst hrow
          exact .inr hr.1
        · exact .inl hb₀
      · refine Model.mem_patch.mpr ⟨b, hb, (if_neg fun hid => hne ?_).symm⟩
        rw [Table.eq_of_key hb hmem hid]
        exact hr.1
    · cases hrun.symm.trans hrun'
      have hrows := (Table.insert_eq_some hins).2
      refine (effect_block (k := childId) (fun b ha hg => ⟨fun hb => ?_, fun hb _ => ?_⟩)
        ⟨gamingBlock childId reason (w.uuids w.calls 0) w.now, ?_, rfl, rfl, rfl⟩).congr
          .rfl (by simp) .rfl
      · rw [hrows] at hb
        rcases List.mem_append.mp hb with hb | hb
        · exact .inl hb
        · rw [List.mem_singleton.mp hb]
          exact .inr rfl
      · rw [hrows]
        exact List.mem_append_left _ hb
      · rw [hrows]
        exact List.mem_append_right _ (List.mem_singleton_self _)
  · intro e w' hrun
    refine ⟨.inr ⟨⟨e, rfl⟩, rfl⟩, Effect.congr (b := False) ?_ .rfl (by simp) .rfl⟩
    rcases hrun with hrun | rfl
    · rcases run_upsert_cases .categoryBlock (fun b => b.childId = childId && b.category = .gaming)
        (activated reason) (gamingBlock childId reason) (fun _ => by rfl) w with
        ⟨e, hrun'⟩ | ⟨r, -, hrun'⟩ | ⟨t, -, -, hrun'⟩
      · cases hrun.symm.trans hrun'
        exact idle_same w
      · cases hrun.symm.trans hrun'
      · cases hrun.symm.trans hrun'
    · exact same_refl _

/-- The block of an expiry: its failure is swallowed. -/
theorem meets_blockGaming (childId reason : String) :
    (ignoring (blockGaming k childId reason)).Meets
    (fun l r w' => r = .ok () ∧ (l = [] ∨ l = [k]) ∧
      Effect c sid False (childId = c ∧ l = []) False w w') w := by
  refine meets_ignoring (.bind (meets_upsert c sid childId reason) ?_ ?_)
  · rintro l b w₁ ⟨hl, heff⟩
    refine .ret ⟨rfl, ?_, ?_⟩ <;> rw [List.append_nil]
    · exact hl.imp And.right And.right
    · exact heff
  · rintro l e w₁ ⟨hl, heff⟩
    exact ⟨rfl, hl.imp And.right And.right, heff⟩

/-- The notification is created, or its creation fails and nothing is done. -/
theorem meets_notice (data : Notifications.Data) :
    (step k (Prisma.create .notificationEvent (noticeRow data))).Meets
      (fun l r w' => Alone k l r ∧ Effect c sid False False
        ((data.type = .timeEnded ∧ data.sessionId = some sid) ∧ l = []) w w') w := by
  refine .call ?_ ?_
  · intro n w' hrun
    refine ⟨.inl ⟨⟨n, rfl⟩, rfl⟩, ?_⟩
    rcases run_create_cases .notificationEvent (noticeRow data) w with ⟨e, hrun'⟩ | ⟨t, ht, hrun'⟩
    · cases hrun.symm.trans hrun'
    · cases hrun.symm.trans hrun'
      exact (effect_notice ht).congr .rfl .rfl (by simp)
  · intro e w' hrun
    refine ⟨.inr ⟨⟨e, rfl⟩, rfl⟩, Effect.congr (n := False) ?_ .rfl .rfl (by simp)⟩
    rcases hrun with hrun | rfl
    · rcases run_create_cases .notificationEvent (noticeRow data) w with ⟨e, hrun'⟩ | ⟨t, -, hrun'⟩
      · cases hrun.symm.trans hrun'
        exact idle_same w
      · cases hrun.symm.trans hrun'
    · exact same_refl _

end Parts

/-! ### Enforcement and delivery -/

section Quiet
variable {c sid : String} {w : World} {k : Stage → Kind} {env : Env}

/-- The calls of the enforcement. -/
abbrev Enforces (k : Stage → Kind) (x : Kind) : Prop := x = k .enforce ∨ x = k .sync

theorem each_syncToRouter (device : Device) :
    (syncToRouter k device SmartBlock.syncBlockToRouter).Each (Same c sid) := by
  unfold syncToRouter
  split
  · trivial
  · exact ⟨⟨enforcementCalls.enqueueStrategyCommand _ _ _ _, fun _ => trivial⟩, fun _ => trivial⟩

theorem each_blockDevice (deviceId reason : String) :
    (blockDevice k deviceId reason).Each (Same c sid) := by
  refine ⟨enforcementCalls.findDevice _ _, fun device =>
    ⟨enforcementCalls.adapterBlock device reason, fun result => .ite ?_ trivial⟩⟩
  exact ⟨enforcementCalls.status _ _, fun _ => ⟨enforcementCalls.invalidateSourceIps _, fun _ =>
    ⟨same_log _, fun _ => ⟨each_syncToRouter device, fun _ => trivial⟩⟩⟩⟩

theorem each_handleOfflineViolation (device : Device) :
    (handleOfflineViolation k device).Each (Same c sid) := by
  refine ⟨enforcementCalls.adapterStop device, fun _ => .ite ⟨.ite ?_ trivial, fun _ => trivial⟩
    (each_blockDevice _ _)⟩
  exact ⟨each_blockDevice _ _, fun _ => trivial⟩

theorem kinds_syncToRouter (device : Device) :
    (syncToRouter k device SmartBlock.syncBlockToRouter).Kinds (· = k .sync) := by
  unfold syncToRouter
  split
  · trivial
  · exact ⟨⟨rfl, fun _ => trivial⟩, fun _ => trivial⟩

theorem kinds_blockDevice (deviceId reason : String) :
    (blockDevice k deviceId reason).Kinds (Enforces k) := by
  refine ⟨.inl rfl, fun device => ⟨.inl rfl, fun result => .ite ?_ trivial⟩⟩
  refine ⟨.inl rfl, fun _ => ⟨.inl rfl, fun _ => ⟨.inl rfl, fun _ => ⟨?_, fun _ => trivial⟩⟩⟩⟩
  exact .mono (fun _ => .inr) (kinds_syncToRouter device)

theorem kinds_handleOfflineViolation (device : Device) :
    (handleOfflineViolation k device).Kinds (Enforces k) := by
  refine ⟨.inl rfl, fun _ => .ite ⟨.ite ?_ trivial, fun _ => trivial⟩ (kinds_blockDevice _ _)⟩
  exact ⟨kinds_blockDevice _ _, fun _ => trivial⟩

theorem loud_syncToRouter (hk : k .sync ≠ k .enforce) (device : Device) :
    (syncToRouter k device SmartBlock.syncBlockToRouter).Loud (· = k .enforce) := by
  unfold syncToRouter
  split
  · exact ⟨_, rfl⟩
  · exact ⟨⟨hk, fun _ => trivial⟩, fun _ => ⟨_, rfl⟩⟩

theorem loud_blockDevice (hk : k .sync ≠ k .enforce) (deviceId reason : String) :
    (blockDevice k deviceId reason).Loud (· = k .enforce) := by
  refine ⟨rfl, fun device => ⟨rfl, fun result => .ite ?_ ⟨_, rfl⟩⟩⟩
  exact ⟨rfl, fun _ =>
    ⟨rfl, fun _ => ⟨rfl, fun _ => ⟨loud_syncToRouter hk device, fun _ => ⟨_, rfl⟩⟩⟩⟩⟩

theorem loud_handleOfflineViolation (hk : k .sync ≠ k .enforce) (device : Device) :
    (handleOfflineViolation k device).Loud (· = k .enforce) := by
  refine ⟨rfl, fun _ => .ite ⟨.ite ?_ ⟨_, rfl⟩, fun _ => ⟨_, rfl⟩⟩ (loud_blockDevice hk _ _)⟩
  exact ⟨loud_blockDevice hk _ _, fun _ => ⟨_, rfl⟩⟩

variable (c sid) in
/-- The enforcement leaves the session, the block and the notification alone, and fails exactly when
a call other than the copy on the router does. -/
theorem meets_handleOfflineViolation (hk : k .sync ≠ k .enforce) (device : Device) :
    (handleOfflineViolation k device).Meets (fun l r w' => ((∃ e, r = .error e) ↔ k .enforce ∈ l) ∧
      (∀ x ∈ l, Enforces k x) ∧ Same c sid w w') w := by
  intro l r w' h
  refine ⟨?_, Runs.kind (kinds_handleOfflineViolation device) h,
    same_of_runs (each_handleOfflineViolation device) h⟩
  rw [Runs.error_iff (loud_handleOfflineViolation hk device) h]
  exact exists_eq_right

theorem each_sendNotice (deliver : Kind) (data : Notifications.Data) (n : NotificationEvent) :
    (sendNotice deliver env data n).Each (Same c sid) := by
  have hdelete : ∀ p, Calls (Same c sid) (Prisma.deleteMany .pushToken p) :=
    deliverCalls.pushToken.deleteMany
  have hpush : ∀ tokens message, Calls (Same c sid) (Push.sendMulticast env tokens message) :=
    deliverCalls.sendMulticast env
  refine ⟨.ite trivial ⟨⟨⟨calls_query idle_same _, fun tokens => .ite trivial ⟨hpush _ _,
    fun result => .ite ⟨hdelete _, fun _ => trivial⟩ trivial⟩⟩, fun _ => trivial⟩,
      fun _ => trivial⟩,
    fun delivered => ⟨.ite ⟨⟨same_sent, fun _ => trivial⟩, fun _ => trivial⟩ trivial,
      fun _ => trivial⟩⟩

theorem kinds_deliverNotice (deliver : Kind) (id : String) (data : Notifications.Data) :
    (deliverNotice deliver env id data).Kinds (· = deliver) :=
  .ite trivial ⟨⟨⟨rfl, fun _ => .ite trivial ⟨rfl, fun _ => .ite ⟨rfl, fun _ => trivial⟩ trivial⟩⟩,
    fun _ => trivial⟩, fun _ => trivial⟩

theorem kinds_sendNotice (deliver : Kind) (data : Notifications.Data) (n : NotificationEvent) :
    (sendNotice deliver env data n).Kinds (· = deliver) :=
  ⟨kinds_deliverNotice deliver n.id data, fun _ =>
    ⟨.ite ⟨⟨rfl, fun _ => trivial⟩, fun _ => trivial⟩ trivial, fun _ => trivial⟩⟩

theorem loud_sendNotice (deliver : Kind) (data : Notifications.Data) (n : NotificationEvent) :
    (sendNotice deliver env data n).Loud fun _ => False := by
  refine ⟨.ite ⟨_, rfl⟩ ⟨⟨?_, fun _ => trivial⟩, fun _ => ⟨_, rfl⟩⟩, fun _ =>
    ⟨.ite ⟨⟨not_false, fun _ => trivial⟩, fun _ => ⟨_, rfl⟩⟩ ⟨_, rfl⟩, fun _ => ⟨_, rfl⟩⟩⟩
  exact ⟨not_false, fun _ => .ite trivial ⟨not_false, fun _ =>
    .ite ⟨not_false, fun _ => trivial⟩ trivial⟩⟩

variable (c sid) in
/-- No failure of the delivery reaches the caller. -/
theorem meets_sendNotice (deliver : Kind) (data : Notifications.Data) (n : NotificationEvent) :
    (sendNotice deliver env data n).Meets (fun l r w' => (¬ ∃ e, r = .error e) ∧
      (∀ x ∈ l, x = deliver) ∧ Same c sid w w') w := by
  intro l r w' h
  refine ⟨?_, Runs.kind (kinds_sendNotice deliver data n) h,
    same_of_runs (each_sendNotice deliver data n) h⟩
  rw [Runs.error_iff (loud_sendNotice deliver data n) h]
  rintro ⟨x, -, hx⟩
  exact hx

variable (c sid) in
/-- The notification is created, unless its creation fails. -/
theorem meets_createNotice {notify deliver : Kind} (hne : notify ≠ deliver)
    (data : Notifications.Data) : (createNotice notify deliver env data).Meets
      (fun l r w' => ((∃ e, r = .error e) ↔ notify ∈ l) ∧ (∀ x ∈ l, x = notify ∨ x = deliver) ∧
        Effect c sid False False
          ((data.type = .timeEnded ∧ data.sessionId = some sid) ∧ notify ∉ l) w w') w := by
  refine .bind (meets_notice c sid data) ?_ ?_
  · rintro l n w₁ ⟨⟨-, rfl⟩ | ⟨⟨e, he⟩, -⟩, heff⟩
    · refine (meets_sendNotice c sid deliver data n).mono ?_
      rintro l r w' ⟨hr, hl, hsame⟩
      have hmem : notify ∉ l := fun hm => hne (hl notify hm)
      refine ⟨iff_of_false hr hmem, fun x hx => .inr (hl x hx),
        (heff.trans_same hsame).congr .rfl .rfl ?_⟩
      simp [hmem]
    · cases he
  · rintro l e w₁ ⟨⟨⟨n, hn⟩, -⟩ | ⟨-, rfl⟩, heff⟩
    · cases hn
    · refine ⟨iff_of_true ⟨e, rfl⟩ (List.mem_singleton_self _), fun x hx => .inl
        (List.mem_singleton.mp hx), heff.congr .rfl .rfl ?_⟩
      simp

/-- A reminder is no notification of an expiry. -/
theorem each_notifyTenMinutesLeft (s : Session) (remaining : ℤ) :
    (notifyTenMinutesLeft env s remaining).Each (Same c sid) := by
  have hrecent : ∀ p since, Calls (Same c sid) (Scheduler.recentNotification p since) := by
    intro p since
    unfold Scheduler.recentNotification Prisma.findFirst
    exact calls_query idle_same _
  refine ⟨trivial, fun now => ⟨hrecent _ _, fun recent => ?_⟩⟩
  rcases recent with _ | n
  · refine ⟨⟨calls_create idle_same fun w t ht => ?_, fun n => each_sendNotice _ _ n⟩,
      fun _ => trivial⟩
    exact (effect_notice ht).congr .rfl .rfl (by simp [reminderData])
  · trivial

theorem kinds_notifyTenMinutesLeft (s : Session) (remaining : ℤ) :
    (notifyTenMinutesLeft env s remaining).Kinds (· = .remind s.id) := by
  refine ⟨trivial, fun now => ⟨rfl, fun recent => ?_⟩⟩
  rcases recent with _ | n
  · exact ⟨⟨rfl, fun n => kinds_sendNotice _ _ n⟩, fun _ => trivial⟩
  · trivial

end Quiet

/-! ### One session of a pass -/

/-- None of these parts of the expiry of the session fails. -/
def Spared (id : String) (l : List Kind) (stages : List Stage) : Prop :=
  ∀ stage ∈ stages, Kind.session id stage ∉ l

/-- The session to which a call belongs. -/
def Kind.about : Kind → Option String
  | .list => none
  | .session id _ => some id
  | .remind id => some id

section Expire
variable {id : String} {l₁ l₂ l₃ : List Kind}

/-- The calls that fail in an expiry whose status and enforcement succeed. -/
theorem spared_iff (h₁ : ∀ x ∈ l₁, x = .session id .sync) (h₂ : l₂ = [] ∨ l₂ = [.session id .block])
    (h₃ : ∀ x ∈ l₃, ∃ stage ∈ [Stage.notify, .deliver, .log], x = .session id stage) :
    Spared id (l₁ ++ (l₂ ++ l₃)) [.expire] ∧
      (Spared id (l₁ ++ (l₂ ++ l₃)) [.expire, .enforce, .block] ↔ l₂ = []) ∧
      (Spared id (l₁ ++ (l₂ ++ l₃)) [.expire, .enforce, .notify] ↔
        Kind.session id .notify ∉ l₃) := by
  have hin₁ : ∀ {stage}, Kind.session id stage ∈ l₁ → stage = .sync := by
    intro stage hmem
    exact (Kind.session.inj (h₁ _ hmem)).2
  have hin₃ : ∀ {stage}, Kind.session id stage ∈ l₃ → stage ∈ [Stage.notify, .deliver, .log] := by
    intro stage hmem
    obtain ⟨stage', hmem', h⟩ := h₃ _ hmem
    rwa [(Kind.session.inj h).2]
  have hexpire₁ : Kind.session id .expire ∉ l₁ := fun h => by cases hin₁ h
  have henforce₁ : Kind.session id .enforce ∉ l₁ := fun h => by cases hin₁ h
  have hblock₁ : Kind.session id .block ∉ l₁ := fun h => by cases hin₁ h
  have hnotify₁ : Kind.session id .notify ∉ l₁ := fun h => by cases hin₁ h
  have hexpire₃ : Kind.session id .expire ∉ l₃ := fun h => by simpa using hin₃ h
  have henforce₃ : Kind.session id .enforce ∉ l₃ := fun h => by simpa using hin₃ h
  have hblock₃ : Kind.session id .block ∉ l₃ := fun h => by simpa using hin₃ h
  rcases h₂ with rfl | rfl <;>
    simp [Spared, hexpire₁, henforce₁, hblock₁, hnotify₁, hexpire₃, henforce₃, hblock₃]

variable (c sid : String) {w : World} {env : Env}

/-- The notification and the audit entry. -/
theorem meets_tell (s : Session) (result : Adapters.ControlResult) :
    (bind (createNotice (.session s.id .notify) (.session s.id .deliver) env (endedData s result))
      fun _ => step (.session s.id .log) (Audit.log (expiredEntry s result))).Meets
    (fun l _ w' => (∀ x ∈ l, ∃ stage ∈ [Stage.notify, .deliver, .log], x = .session s.id stage) ∧
      Effect c sid False False (s.id = sid ∧ Kind.session s.id .notify ∉ l) w w') w := by
  refine .bind (meets_createNotice c sid (by simp) _) ?_ ?_
  · rintro l n w₁ ⟨-, hl, heff⟩
    refine (meets_step c sid (same_log _)).mono ?_
    rintro l' r w' ⟨hl', hsame⟩
    have hlog : ∀ x ∈ l', x = .session s.id .log := by
      rcases hl' with ⟨-, rfl⟩ | ⟨-, rfl⟩ <;> simp
    refine ⟨fun x hx => ?_, (heff.trans_same hsame).congr .rfl .rfl ?_⟩
    · rcases List.mem_append.mp hx with hx | hx
      · rcases hl x hx with rfl | rfl <;> simp
      · simp [hlog x hx]
    · have hnot : Kind.session s.id .notify ∉ l' := by
        intro hmem
        cases hlog _ hmem
      simp [endedData, hnot]
  · rintro l e w₁ ⟨-, hl, heff⟩
    refine ⟨fun x hx => ?_, heff.congr .rfl .rfl (by simp [endedData])⟩
    rcases hl x hx with rfl | rfl <;> simp

/-- **An expiry.** The status is written unless its calls fail, the block and the notification
unless their own calls, the enforcement or the status fail. -/
theorem meets_expireSession (s : Session) (d : Device) : (expireSession env s d).Meets
    (fun l _ w' => Effect c sid (s.id = sid ∧ Spared s.id l [.expire])
      (s.childId = c ∧ Spared s.id l [.expire, .enforce, .block])
      (s.id = sid ∧ Spared s.id l [.expire, .enforce, .notify]) w w') w := by
  refine .bind (meets_expire c sid s.id) ?_ ?_
  · rintro l _ w₁ ⟨⟨-, rfl⟩ | ⟨⟨e, he⟩, -⟩, hexp⟩
    · refine .bind (meets_handleOfflineViolation c sid (by simp) d) ?_ ?_
      · rintro l₁ result w₂ ⟨herr, hl₁, hsame⟩
        have hsync : ∀ x ∈ l₁, x = Kind.session s.id .sync := by
          intro x hx
          refine (hl₁ x hx).resolve_left ?_
          rintro rfl
          obtain ⟨e, he⟩ := herr.mpr hx
          cases he
        refine .bind (meets_blockGaming c sid s.childId _) ?_ ?_
        · rintro l₂ - w₃ ⟨-, hl₂, hblock⟩
          refine (meets_tell c sid s result).mono ?_
          rintro l₃ r w' ⟨hl₃, htell⟩
          obtain ⟨hexpire, hblocks, hnotify⟩ := spared_iff hsync hl₂ hl₃
          refine ((hexp.trans_same hsame).trans (hblock.trans htell)).congr ?_ ?_ ?_ <;>
            rw [List.nil_append]
          · simp [hexpire]
          · simp [hblocks]
          · simp [hnotify]
        · rintro l₂ e w₃ ⟨he, -⟩
          cases he
      · rintro l₁ e w₂ ⟨herr, hl₁, hsame⟩
        have henf : Kind.session s.id .enforce ∈ l₁ := herr.mp ⟨e, rfl⟩
        have hexpire : Kind.session s.id .expire ∉ l₁ := by
          intro h
          rcases hl₁ _ h with h | h <;> cases h
        refine (hexp.trans_same hsame).congr ?_ ?_ ?_
        · simp [Spared, hexpire]
        · simp [Spared, henf]
        · simp [Spared, henf]
    · cases he
  · rintro l e w₁ ⟨⟨⟨a, ha⟩, -⟩ | ⟨-, rfl⟩, hexp⟩
    · cases ha
    · refine hexp.congr ?_ ?_ ?_ <;> simp [Spared]

theorem kinds_expireSession (s : Session) (d : Device) :
    (expireSession env s d).Kinds fun x => ∃ stage, x = .session s.id stage := by
  refine ⟨⟨⟨_, rfl⟩, fun _ => ⟨trivial, fun _ => ⟨_, rfl⟩⟩⟩, fun _ => ⟨?_, fun result =>
    ⟨⟨⟨⟨_, rfl⟩, fun _ => trivial⟩, fun _ => trivial⟩, fun _ => ⟨⟨⟨_, rfl⟩, fun n => ?_⟩,
      fun _ => ⟨_, rfl⟩⟩⟩⟩⟩
  · refine .mono ?_ (kinds_handleOfflineViolation d)
    rintro x (rfl | rfl) <;> exact ⟨_, rfl⟩
  · refine .mono ?_ (kinds_sendNotice _ _ n)
    rintro x rfl
    exact ⟨_, rfl⟩

theorem kinds_checkSession (s : Session) (d : Device) :
    (checkSession env s d).Kinds fun x => x.about = some s.id := by
  refine ⟨trivial, fun now => .ite ?_ (.ite ?_ trivial)⟩
  · refine .mono ?_ (kinds_expireSession s d)
    rintro x ⟨stage, rfl⟩
    rfl
  · refine .mono ?_ (kinds_notifyTenMinutesLeft s _)
    rintro x rfl
    rfl

/-- One session of a pass: it is expired when its minutes are over. -/
theorem meets_checkSession (s : Session) (d : Device) : (checkSession env s d).Meets
    (fun l _ w' =>
      let due := Sessions.calculateRemainingMinutes w.now s ≤ 0
      Effect c sid (s.id = sid ∧ due ∧ Spared s.id l [.expire])
        (s.childId = c ∧ due ∧ Spared s.id l [.expire, .enforce, .block])
        (s.id = sid ∧ due ∧ Spared s.id l [.expire, .enforce, .notify]) w w') w := by
  refine .read_bind ?_
  by_cases hdue : Sessions.calculateRemainingMinutes w.now s ≤ 0
  · rw [if_pos hdue]
    refine (meets_expireSession c sid s d).mono fun l r w' heff => heff.congr ?_ ?_ ?_ <;>
      simp [hdue]
  · rw [if_neg hdue]
    have hsame : (if Sessions.calculateRemainingMinutes w.now s ≤ 10 then notifyTenMinutesLeft env s
        (Sessions.calculateRemainingMinutes w.now s) else ret (.ok ()) : Faulty Unit).Each
          (Same c sid) := .ite (each_notifyTenMinutesLeft s _) trivial
    intro l r w' h
    refine (same_of_runs hsame h).congr ?_ ?_ ?_ <;> simp [hdue]

end Expire

/-! ### The pass -/

section Pass
variable {id : String} {l l' : List Kind} {env : Env}

theorem spared_append_left (h : ∀ x ∈ l', x.about ≠ some id) (stages : List Stage) :
    Spared id (l ++ l') stages ↔ Spared id l stages := by
  have hnot : ∀ stage, Kind.session id stage ∉ l' := fun stage hmem => h _ hmem rfl
  simp [Spared, hnot]

theorem spared_append_right (h : ∀ x ∈ l, x.about ≠ some id) (stages : List Stage) :
    Spared id (l ++ l') stages ↔ Spared id l' stages := by
  have hnot : ∀ stage, Kind.session id stage ∉ l := fun stage hmem => h _ hmem rfl
  simp [Spared, hnot]

theorem kinds_sessionsLoop : ∀ ps : List (Session × Device),
    (sessionsLoop env ps).Kinds fun x => ∃ p ∈ ps, x.about = some p.1.id
  | [] => trivial
  | p :: ps => by
    refine ⟨⟨.mono ?_ (kinds_checkSession p.1 p.2), fun _ => trivial⟩, fun _ =>
      .mono ?_ (kinds_sessionsLoop ps)⟩
    · exact fun x hx => ⟨p, List.mem_cons_self, hx⟩
    · rintro x ⟨p', hp', hx⟩
      exact ⟨p', List.mem_cons_of_mem _ hp', hx⟩

variable (c sid : String)

/-- What happens for the sessions with `R` whose minutes are over, when the calls `l` fail. -/
def Happens (ps : List (Session × Device)) (R : Session → Prop) (now : Time) (l : List Kind)
    (stages : List Stage) : Prop :=
  ∃ p ∈ ps, R p.1 ∧ Sessions.calculateRemainingMinutes now p.1 ≤ 0 ∧ Spared p.1.id l stages

theorem meets_sessionsLoop : ∀ {ps : List (Session × Device)} {w : World},
    (ps.map fun p => p.1.id).Nodup → (sessionsLoop env ps).Meets
      (fun l _ w' => Effect c sid (Happens ps (·.id = sid) w.now l [.expire])
        (Happens ps (·.childId = c) w.now l [.expire, .enforce, .block])
        (Happens ps (·.id = sid) w.now l [.expire, .enforce, .notify]) w w') w
  | [], w, _ => by
    refine .ret ((same_refl w).congr ?_ ?_ ?_) <;> simp [Happens]
  | p :: ps, w, hnodup => by
    obtain ⟨hp, hps⟩ := List.nodup_cons.mp hnodup
    have hbody : (ignoring (checkSession env p.1 p.2)).Meets (fun l r w' => r = .ok () ∧
        (∀ x ∈ l, x.about = some p.1.id) ∧
        Effect c sid (Happens [p] (·.id = sid) w.now l [.expire])
          (Happens [p] (·.childId = c) w.now l [.expire, .enforce, .block])
          (Happens [p] (·.id = sid) w.now l [.expire, .enforce, .notify]) w w') w := by
      refine meets_ignoring fun l r w' h => ⟨rfl, Runs.kind (kinds_checkSession p.1 p.2) h, ?_⟩
      refine (meets_checkSession c sid p.1 p.2 l r w' h).congr ?_ ?_ ?_ <;> simp [Happens]
    refine .bind hbody ?_ ?_
    · rintro l₁ - w₁ ⟨-, hl₁, heff₁⟩ l₂ r w' h
      have hl₂ := Runs.kind (kinds_sessionsLoop ps) h
      have heff₂ := meets_sessionsLoop hps l₂ r w' h
      rw [heff₁.now] at heff₂
      have hsplit : ∀ (R : Session → Prop) (stages : List Stage),
          Happens [p] R w.now l₁ stages ∨ Happens ps R w.now l₂ stages ↔
            Happens (p :: ps) R w.now (l₁ ++ l₂) stages := by
        intro R stages
        have hhead : Spared p.1.id (l₁ ++ l₂) stages ↔ Spared p.1.id l₁ stages := by
          refine spared_append_left (fun x hx hid => ?_) stages
          obtain ⟨p', hp', hx'⟩ := hl₂ x hx
          exact hp (List.mem_map.mpr ⟨p', hp', Option.some.inj (hx'.symm.trans hid)⟩)
        have htail : ∀ p' ∈ ps, (Spared p'.1.id (l₁ ++ l₂) stages ↔ Spared p'.1.id l₂ stages) := by
          intro p' hp'
          refine spared_append_right (fun x hx hid => ?_) stages
          exact hp (List.mem_map.mpr ⟨p', hp', Option.some.inj (hid.symm.trans (hl₁ x hx))⟩)
        simp only [Happens, List.mem_cons, List.not_mem_nil, or_false, exists_eq_left,
          or_and_right, exists_or, hhead]
        refine or_congr_right (exists_congr fun p' => and_congr_right fun hp' => ?_)
        rw [htail p' hp']
      exact (heff₁.trans heff₂).congr (hsplit _ _) (hsplit _ _) (hsplit _ _)
    · rintro l₁ e w₁ ⟨he, -⟩
      cases he

/-- The sessions that a pass expires. -/
def Due (w : World) (s : Session) : Prop :=
  s ∈ w.db.sessions.rows ∧ s.status = .active ∧ (w.db.devices.find s.deviceId).isSome ∧
    Sessions.calculateRemainingMinutes w.now s ≤ 0

theorem happens_iff {w : World} {R : Session → Prop} {stages : List Stage} (n : ℕ) :
    Happens (Scheduler.activeSessions w.db n) R w.now l stages ↔
      ∃ s, Due w s ∧ R s ∧ Spared s.id l stages := by
  have hmem : ∀ p, p ∈ Scheduler.activeSessions w.db n ↔ p.1 ∈ w.db.sessions.rows ∧
      p.1.status = .active ∧ w.db.devices.find p.1.deviceId = some p.2 := by
    intro p
    simp only [Scheduler.activeSessions, List.mem_filterMap, mem_matching, Option.map_eq_some_iff,
      decide_eq_true_eq]
    constructor
    · rintro ⟨s, ⟨hs, hact⟩, d, hd, rfl⟩
      exact ⟨hs, hact, hd⟩
    · rintro ⟨hs, hact, hd⟩
      exact ⟨p.1, ⟨hs, hact⟩, p.2, hd, rfl⟩
  constructor
  · rintro ⟨p, hp, hR, hdue, hsp⟩
    obtain ⟨hs, hact, hd⟩ := (hmem p).mp hp
    exact ⟨p.1, ⟨hs, hact, by rw [hd]; rfl, hdue⟩, hR, hsp⟩
  · rintro ⟨s, ⟨hs, hact, hd, hdue⟩, hR, hsp⟩
    obtain ⟨d, hd⟩ := Option.isSome_iff_exists.mp hd
    exact ⟨(s, d), (hmem (s, d)).mpr ⟨hs, hact, hd⟩, hR, hdue, hsp⟩

/-- **A pass**, in which any calls but the first may fail. -/
theorem meets_pass {w : World} : (pass env).Meets (fun l _ w' => Kind.list ∉ l →
    Effect c sid (∃ s, Due w s ∧ s.id = sid ∧ Spared s.id l [.expire])
      (∃ s, Due w s ∧ s.childId = c ∧ Spared s.id l [.expire, .enforce, .block])
      (∃ s, Due w s ∧ s.id = sid ∧ Spared s.id l [.expire, .enforce, .notify]) w w') w := by
  refine .bind (Meets.call (Q := fun l r w' => Kind.list ∉ l → l = [] ∧
    w' = World.afterCall w w.db ∧
    r = .ok (Scheduler.activeSessions w.db (w.tape w.calls))) ?_ ?_) ?_ ?_
  · intro ps w₁ hrun _
    cases hrun
    exact ⟨rfl, rfl, rfl⟩
  · intro e w₁ _ h
    exact absurd (List.mem_singleton_self _) h
  · intro l₁ ps w₁ h₁ l₂ r w' h hnot
    obtain ⟨rfl, rfl, hps⟩ := h₁ fun hm => hnot (List.mem_append_left _ hm)
    cases hps
    have heff := meets_sessionsLoop c sid (Scheduler.nodup_activeSessions w.db (w.tape w.calls))
      l₂ r w' h
    have hidle : Same c sid w (World.afterCall w w.db) := idle_same w
    exact (hidle.same_trans heff).congr (happens_iff _) (happens_iff _) (happens_iff _)
  · intro l₁ e w₁ h₁ hnot
    obtain ⟨-, -, he⟩ := h₁ hnot
    cases he

end Pass

/-! ### Nothing is lost -/

/-- The next pass expires the session again, or its child is blocked and its parent notified. -/
def Kept (s : Session) (w : World) : Prop :=
  status s.id w = some .active ∨ blocked s.childId w ∧ notified s.id w

section Kept
variable {env : Env} {w w' : World} {s : Session} {stage : Stage}

theorem Due.status (h : Due w s) : status s.id w = some .active := by
  rw [Once.status, Table.find_key h.1]
  exact congrArg some h.2.1

theorem spared_singleton {id : String} {stages : List Stage} :
    Spared id [.session s.id stage] stages ↔ (id = s.id → stage ∉ stages) := by
  simp only [Spared, List.mem_singleton, Kind.session.injEq, not_and]
  constructor
  · intro h hid hmem
    exact h stage hmem hid rfl
  · rintro h stage' hmem hid rfl
    exact h hid hmem

/-- The session itself is spared when the failing call is in none of the parts. -/
theorem exists_self_iff (h : Due w s) (stages : List Stage) :
    (∃ o, Due w o ∧ o.id = s.id ∧ Spared o.id [.session s.id stage] stages) ↔ stage ∉ stages := by
  simp only [spared_singleton]
  constructor
  · rintro ⟨o, -, hid, hmem⟩
    exact hmem hid
  · exact fun hmem => ⟨s, h, rfl, fun _ => hmem⟩

/-- Another session of the child blocks it as well. -/
theorem exists_child_iff (h : Due w s) (stages : List Stage) :
    (∃ o, Due w o ∧ o.childId = s.childId ∧ Spared o.id [.session s.id stage] stages) ↔
      stage ∉ stages ∨ ∃ o, Due w o ∧ o.id ≠ s.id ∧ o.childId = s.childId := by
  simp only [spared_singleton]
  constructor
  · rintro ⟨o, ho, hc, hmem⟩
    by_cases hid : o.id = s.id
    · exact .inl (hmem hid)
    · exact .inr ⟨o, ho, hid, hc⟩
  · rintro (hmem | ⟨o, ho, hid, hc⟩)
    · exact ⟨s, h, rfl, fun _ => hmem⟩
    · exact ⟨o, ho, hc, fun h => absurd h hid⟩

/-- **Expiry is not lost.** When one call of the expiry of a session fails, the session is still
`ACTIVE`, or its child is blocked and its parent notified, if and only if the call belongs to the
status; or, where it belongs to the enforcement or the block, the child was blocked before or
another of its sessions expires in the same pass, and, where it belongs to the enforcement or the
notification, the parent was notified before. -/
theorem kept_iff (h : Due w s) {r : Except Err Unit}
    (hrun : (pass env).Runs w [.session s.id stage] r w') :
    Kept s w' ↔ stage = .expire ∨
      (stage = .enforce ∨ stage = .block →
        blocked s.childId w ∨ ∃ o, Due w o ∧ o.id ≠ s.id ∧ o.childId = s.childId) ∧
      (stage = .enforce ∨ stage = .notify → notified s.id w) := by
  have heff := meets_pass s.childId s.id [.session s.id stage] r w' hrun (by simp)
  have heff := heff.congr (exists_self_iff h _) (exists_child_iff h _) (exists_self_iff h _)
  have hstatus : status s.id w' = some .active ↔ stage = .expire := by
    by_cases hst : stage = .expire
    · rw [heff.status (by simp [hst]), h.status]
      simp [hst]
    · rw [heff.expired (by simp [hst]), h.status]
      simp [hst]
  unfold Kept
  rw [hstatus, heff.blocked, heff.notified]
  cases stage <;> simp

end Kept

/-! ### A session of an hour, two hours later -/

/-- The first call of the part `stage` of the expiry of the session fails. -/
def failAt (id : String) (stage : Stage) (k : Kind) : Option (ℕ × Err) :=
  if k = .session id stage then some (0, .error "connection lost") else none

/-- What the pass leaves. -/
def left (stage : Stage) : World := ((pass .plain).exec (failAt hour.id stage) overdue).2.2

theorem due_hour : Due overdue hour := by
  refine ⟨?_, rfl, ?_, ?_⟩ <;> decide +kernel

theorem runs_left (stage : Stage)
    (hl : ((pass .plain).exec (failAt hour.id stage) overdue).1 = [.session hour.id stage]) :
    ∃ r, (pass .plain).Runs overdue [.session hour.id stage] r (left stage) := by
  have hrun := runs_exec (failAt hour.id stage) (pass .plain) overdue
  rw [hl] at hrun
  exact ⟨_, hrun⟩

/-- A lost audit entry is no lost expiry. -/
theorem kept_iff_log : ∃ r, (pass .plain).Runs overdue [.session hour.id .log] r (left .log) ∧
    Kept hour (left .log) := by
  obtain ⟨r, hr⟩ := runs_left .log (by decide +kernel)
  exact ⟨r, hr, (kept_iff due_hour hr).mpr (.inr ⟨by simp, by simp⟩)⟩

/-- The adapter fails: the session is `EXPIRED`, its child not blocked and its parent not told. -/
theorem expiry_lost : ¬ ∀ (env : Env) (w w' : World) (s : Session) (stage : Stage)
    (r : Except Err Unit), Due w s → (pass env).Runs w [.session s.id stage] r w' → Kept s w' := by
  intro h
  obtain ⟨r, hr⟩ := runs_left .enforce (by decide +kernel)
  have hkept := h _ _ _ _ _ _ due_hour hr
  revert hkept
  unfold Kept blocked notified
  decide +kernel

end GuardTime.Session.Interrupted
