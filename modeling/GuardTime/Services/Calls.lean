import Mathlib.Tactic
import GuardTime.Calls
import GuardTime.Services.Scheduler

/-! # The single calls of enforcement

Like `AdapterSafe` and `EnforcementSafe`, for a relation between the worlds before and after each
single call. Interleavings need this: another request may run between any two calls. -/

namespace GuardTime.Services

open GuardTime.Lib.Program GuardTime.Lib.Interleave GuardTime.Lib.Js GuardTime.Schema
open GuardTime.Server
open GuardTime.Prisma GuardTime.Lib.Keyed

/-! ### Adapters -/

/-- The relation holds of what the adapters do: nothing, or a queued command. -/
structure AdapterCalls (R : World → World → Prop) : Prop where
  refl : ∀ w, R w w
  idle : Idle R
  command : Ignores .command R
  queue : ∀ w q, R w { w with commandQueue := q }

namespace AdapterCalls

variable {R : World → World → Prop} (h : AdapterCalls R)
include h

theorem newDate : Calls R newDate := calls_newDate h.refl

theorem createCommand (device : Device) (type : CommandType) (payload : String) :
    Calls R (Adapters.createCommand device type payload) :=
  .bind (h.command.create h.idle _) fun _ => .bind (.call fun w => h.queue w _) fun _ => .pure _

theorem createIosCommand (deviceId : String) (type : CommandType) (payload : String) :
    Calls R (Adapters.createIosCommand deviceId type payload) := h.command.create h.idle _

theorem viaXbox (device : Device) (action stored : String) :
    Calls R (Adapters.viaXbox device action stored) := by
  refine .bind (calls_query h.idle _) fun oauth => ?_
  cases oauth <;> exact .pure _

theorem adapterBlock (device : Device) (reason : String) :
    Calls R (Adapters.blockDevice device reason) := by
  unfold Adapters.blockDevice
  split
  · exact (h.createCommand _ _ _).bind fun _ => .pure _
  · exact (h.createIosCommand _ _ _).bind fun _ => .pure _
  · exact h.viaXbox _ _ _
  · exact .pure _
  · exact .pure _

theorem adapterUnblock (device : Device) : Calls R (Adapters.unblockDevice device) := by
  unfold Adapters.unblockDevice
  split
  · exact (h.createCommand _ _ _).bind fun _ => .pure _
  · exact (h.createIosCommand _ _ _).bind fun _ => .pure _
  · exact h.viaXbox _ _ _
  · exact .pure _
  · exact .pure _

theorem adapterStop (device : Device) : Calls R (Adapters.stopSession device) := by
  unfold Adapters.stopSession
  split
  · exact (h.createCommand _ _ _).bind fun _ => .pure _
  · exact (h.createIosCommand _ _ _).bind fun _ => .pure _
  · exact h.viaXbox _ _ _
  · exact .pure _
  · exact .pure _

theorem findDevice (deviceId : String) (parentId : Option String) :
    Calls R (Enforcement.findDevice deviceId parentId) :=
  .bind (calls_query h.idle _) fun _ => .bind (.orThrow _ _) fun _ =>
    .bind (.require _ _) fun _ => .pure _

end AdapterCalls

/-! ### Enforcement -/

/-- The relation also holds of raised cache versions and of audit entries about devices. -/
structure SettleCalls (R : World → World → Prop) : Prop extends AdapterCalls R where
  cache : ∀ w c, R w { w with cache := c }
  log : ∀ data, data.entity = "device" → Calls R (Audit.log data)

theorem SettleCalls.invalidateSourceIps {R : World → World → Prop} (h : SettleCalls R) :
    ∀ ips : List (Option String), Calls R (DnsPolicy.invalidateSourceIps ips)
  | [] => .pure _
  | ip :: ips => by
    refine .bind ?_ fun _ => h.invalidateSourceIps ips
    unfold DnsPolicy.invalidateSourceIp
    split
    · exact .pure _
    · exact .ite (.pure _) (.bind (.bind (.call h.refl) fun _ => .pure _) fun _ =>
        .call fun w => h.cache w _)

/-- The relation also holds of changed statuses of devices and of queued router commands. -/
structure EnforcementCalls (R : World → World → Prop) : Prop extends SettleCalls R where
  routerCommand : Ignores .routerCommand R
  status : ∀ id status, Calls R (Prisma.update .device id fun d => { d with status := status })

namespace EnforcementCalls

variable {R : World → World → Prop} (h : EnforcementCalls R)
include h

theorem enqueueStrategyCommand (gatewayId deviceId : String) (type : RouterCommandType)
    (priority : List SmartBlock.Strategy) :
    Calls R (SmartBlock.enqueueStrategyCommand gatewayId deviceId type priority) :=
  .bind (calls_query h.idle _) fun _ =>
    .ite (.bind (h.log _ rfl) fun _ => .pure _)
      (.bind (h.routerCommand.create h.idle _) fun _ => .bind (h.log _ rfl) fun _ => .pure _)

omit h in
theorem syncToRouter (device : Device) {sync : String → String → Api SmartBlock.Outcome}
    (hs : ∀ g d, Calls R (sync g d)) : Calls R (Enforcement.syncToRouter device sync) := by
  unfold Enforcement.syncToRouter
  split
  · exact .pure _
  · exact .catchErr (.bind (hs _ _) fun _ => .pure _) fun _ => .pure _

theorem settle (device : Device) (parentId : Option String) (status : DeviceStatus)
    (action : String) (details : Option String) (result : Adapters.ControlResult)
    {sync : String → String → Api SmartBlock.Outcome} (hs : ∀ g d, Calls R (sync g d)) :
    Calls R (Enforcement.settle device parentId status action details sync result) :=
  .bind (h.status _ _) fun _ => .bind (h.invalidateSourceIps _) fun _ =>
    .bind (h.log _ rfl) fun _ => .bind (syncToRouter device hs) fun _ => .pure _

theorem blockDevice (deviceId reason : String) (parentId : Option String) :
    Calls R (Enforcement.blockDevice deviceId reason parentId) :=
  .bind (h.findDevice _ _) fun device => .bind (h.adapterBlock device reason) fun result =>
    .ite (h.settle device parentId _ _ _ result fun _ _ => h.enqueueStrategyCommand _ _ _ _)
      (.pure _)

theorem unblockDevice (deviceId : String) (parentId : Option String) :
    Calls R (Enforcement.unblockDevice deviceId parentId) :=
  .bind (h.findDevice _ _) fun device => .bind (h.adapterUnblock device) fun result =>
    .ite (h.settle device parentId _ _ _ result fun _ _ => h.enqueueStrategyCommand _ _ _ _)
      (.pure _)

theorem handleOfflineViolation (device : Device) :
    Calls R (Enforcement.handleOfflineViolation device) := by
  refine .bind (h.adapterStop device) fun _ => .ite (.bind ?_ fun _ => .pure _)
    (h.blockDevice _ _ _)
  exact .ite (.bind (h.blockDevice _ _ _) fun _ => .pure _) (.pure _)

end EnforcementCalls

/-! ### Notifications -/

/-- The row of a notification. -/
def noticeRow (data : Notifications.Data) (id : String) (now : Time) : NotificationEvent :=
  { id, userId := data.userId, type := data.type, title := data.title, message := data.message,
    deviceId := data.deviceId, childId := data.childId, sessionId := data.sessionId,
    read := false, sentViaFcm := false, createdAt := now }

/-- The delivery of a notification and the mark that it was sent. -/
def afterNotice (env : Env) (data : Notifications.Data) (n : NotificationEvent) :
    Api NotificationEvent := do
  let delivered ← Notifications.deliver env n.id data
  Prog.when delivered (ignoreErrors do
    let _ ← Prisma.update .notificationEvent n.id (fun r => { r with sentViaFcm := true })
      Notifications.sent_id
    pure ())
  pure n

theorem create_eq (env : Env) (data : Notifications.Data) : Notifications.create env data =
    Prisma.create .notificationEvent (noticeRow data) >>= afterNotice env data := rfl

/-- The relation holds of the delivery of notifications. -/
structure DeliverCalls (R : World → World → Prop) : Prop where
  refl : ∀ w, R w w
  idle : Idle R
  pushToken : Ignores .pushToken R
  sent : ∀ id, Calls R (Prisma.update .notificationEvent id fun r => { r with sentViaFcm := true })

namespace DeliverCalls

variable {R : World → World → Prop} (h : DeliverCalls R)
include h

theorem attempts (send : ℕ → List String → FcmMessage → Except String (List SendResponse))
    (message : FcmMessage) : ∀ (fuel : ℕ) (pending : List String) (res : Push.MulticastResult),
    Calls R (Push.attempts send message fuel pending res)
  | 0, _, _ => .pure _
  | fuel + 1, pending, res => by
    refine .ite (.pure _) (.bind (.call fun w => h.idle w) fun answer => ?_)
    rcases answer with _ | responses
    · exact .ite (.pure _) (attempts send message fuel pending res)
    · exact attempts send message fuel _ _

theorem sendMulticast (env : Env) (tokens : List String) (message : FcmMessage) :
    Calls R (Push.sendMulticast env tokens message) := by
  unfold Push.sendMulticast
  split_ifs
  · exact .pure _
  · rcases env.sendEachForMulticast with _ | send
    · exact .pure _
    · exact h.attempts send message _ _ _

theorem sendToUser (env : Env) (userId : String) (message : FcmMessage) :
    Calls R (Push.sendToUser env userId message) :=
  .bind (calls_query h.idle _) fun _ => .ite (.pure _) (.bind (h.sendMulticast env _ message)
    fun _ => .ite (.catchErr (h.pushToken.deleteMany _) fun _ => .pure _) (.pure _))

theorem deliver (env : Env) (id : String) (data : Notifications.Data) :
    Calls R (Notifications.deliver env id data) :=
  .ite (.pure _) (.catchErr (.bind (h.sendToUser env _ _) fun _ => .pure _) fun _ => .pure _)

/-- What `create` does after it has created the notification. -/
theorem afterNotice (env : Env) (data : Notifications.Data) (n : NotificationEvent) :
    Calls R (Services.afterNotice env data n) :=
  .bind (h.deliver env n.id data) fun _ =>
    .bind (.ite (.catchErr (.bind (h.sent _) fun _ => .pure _) fun _ => .pure _) (.pure _))
      fun _ => .pure _

theorem notify (env : Env) {data : Notifications.Data}
    (hcreate : Calls R (Prisma.create .notificationEvent (noticeRow data))) :
    Calls R (Notifications.create env data) := by
  rw [create_eq]
  exact .bind hcreate fun n => h.afterNotice env data n

end DeliverCalls

/-! ### Passes over the sessions -/

/-- No session is listed twice. -/
theorem Scheduler.nodup_activeSessions (db : Database) (n : ℕ) :
    ((Scheduler.activeSessions db n).map fun p => p.1.id).Nodup := by
  have hrows : (matching .session db n fun s => s.status = .active).Pairwise
      fun s s' => s.id ≠ s'.id := by
    rw [← List.pairwise_map]
    refine ((arrange_perm _ _).map Session.id).nodup_iff.mpr ?_
    exact (List.Sublist.map _ List.filter_sublist).nodup db.sessions.nodup
  rw [List.Nodup, List.pairwise_map, Scheduler.activeSessions, List.pairwise_filterMap]
  refine hrows.imp ?_
  rintro s s' hne p hp p' hp'
  obtain ⟨d, -, rfl⟩ := Option.map_eq_some_iff.mp hp
  obtain ⟨d', -, rfl⟩ := Option.map_eq_some_iff.mp hp'
  exact hne

/-- The relation holds of what a pass does besides expiring sessions and telling the parents. -/
structure ExpiryCalls (R : World → World → Prop) : Prop extends EnforcementCalls R where
  deliver : DeliverCalls R
  categoryBlock : Ignores .categoryBlock R

namespace ExpiryCalls

variable {R : World → World → Prop} (h : ExpiryCalls R)
include h

theorem blockGaming (childId reason : String) :
    Calls R (ignoreErrors (Scheduler.blockGaming childId reason)) :=
  .catchErr (.bind (h.categoryBlock.upsert h.idle _ _ _ _) fun _ => .pure _) fun _ => .pure _

theorem notifyTenMinutesLeft (env : Env) (s : Session) (remaining : ℤ)
    (hnotice : ∀ data : Notifications.Data, data.type = .time10MinLeft →
      Calls R (Prisma.create .notificationEvent (noticeRow data))) :
    Calls R (Scheduler.notifyTenMinutesLeft env s remaining) := by
  have hrecent : ∀ p since, Calls R (Scheduler.recentNotification p since) := by
    intro p since
    unfold Scheduler.recentNotification Prisma.findFirst
    exact calls_query h.idle _
  refine .bind h.newDate fun now => .bind (hrecent _ _) fun recent => ?_
  rcases recent with _ | n
  · exact .bind (h.deliver.notify env (hnotice _ rfl)) fun _ => .pure _
  · exact .pure _

/-- One session of a pass, where the relation holds of what it does to the session. -/
theorem checkSession (env : Env) {s : Session} (d : Device)
    (hexpire : Calls R (Sessions.expire s.id))
    (hnotice : ∀ data : Notifications.Data, data.sessionId = some s.id →
      Calls R (Prisma.create .notificationEvent (noticeRow data)))
    (hten : ∀ data : Notifications.Data, data.type = .time10MinLeft →
      Calls R (Prisma.create .notificationEvent (noticeRow data)))
    (hlog : ∀ data : Audit.Entry, data.entityId = some s.id → Calls R (Audit.log data)) :
    Calls R (Scheduler.checkSession env s d) := by
  refine .bind h.newDate fun now => .ite ?_
    (.ite (h.notifyTenMinutesLeft env s _ hten) (.pure _))
  exact .bind hexpire fun _ => .bind (h.handleOfflineViolation d) fun _ =>
    .bind (h.blockGaming _ _) fun _ => .bind (h.deliver.notify env (hnotice _ rfl)) fun _ =>
      hlog _ rfl

end ExpiryCalls

end GuardTime.Services
