import Mathlib.Tactic
import GuardTime.System.Links

/-! # Requests that keep the links

Service by service, the operations that change neither links nor cache. What is left are the
operations on children, devices, gateways and sessions themselves, the category blocks of the
scheduler, and the cache of the DNS engine. -/

namespace GuardTime.System.Quiet

open GuardTime.Lib.Program GuardTime.Lib.Js GuardTime.Schema GuardTime.Server GuardTime.Prisma
open GuardTime.Services GuardTime.System.Links

variable {V : View}

/-! ### Notices -/

theorem noticeSafe {I : World → Prop} (h : Frame V I) : NoticeSafe I where
  steady := h.steady
  auditLog := V.auditLog.free h
  notificationEvent := V.notificationEvent.free h
  pushToken := V.pushToken.free h

theorem quiet_log (data : Audit.Entry) :
    Quiet V (Audit.log data) := fun _ h => (noticeSafe h).log data

theorem quiet_notify (env : Env) (data : Notifications.Data) :
    Quiet V (Notifications.create env data) := fun _ h => (noticeSafe h).notify env data

theorem commandSafe {I : World → Prop} (h : Frame V I) : CommandSafe I where
  toNoticeSafe := noticeSafe h
  command := V.command.free h
  queue w _ hw := h w _ rfl rfl rfl hw

theorem quiet_status (id : String) (s : DeviceStatus) :
    Quiet V (Prisma.update .device id fun d => { d with status := s }) := quiet_device fun _ => rfl

/-- Enforcement raises cache versions; it keeps what survives that. -/
theorem enforcementSafe {I : World → Prop} (h : Frame linkView I)
    (hinv : ∀ ips, Prog.Keeps I (DnsPolicy.invalidateSourceIps ips)) : EnforcementSafe I where
  toCommandSafe := commandSafe h
  routerCommand := Links.routerCommand.free h
  status id s := quiet_status id s h
  invalidate := hinv

/-! ### Accounts -/

theorem quiet_issueTokens (env : Env) (sub email : String) (role : Role) :
    Quiet V (Auth.issueTokens env sub email role) :=
  .bind (.bind quiet_newDate fun _ => .bind quiet_randomUUID fun _ =>
    .bind quiet_randomUUID fun _ =>
    .pure _) fun _ => quiet_user.bind fun _ => .pure _

theorem quiet_register (env : Env) (dto : Auth.RegisterDto) :
    Quiet linkView (Auth.register env dto) :=
  .bind (quiet_query _) fun _ => .bind (.require _ _) fun _ => .bind quiet_randomUUID fun _ =>
    .bind (TxQuiet.transaction (.bind (.viaTx (Links.user.create _)) fun _ =>
      .bind (.viaTx (Links.subscription.create _)) fun _ => .pure _)) fun _ =>
      quiet_issueTokens env _ _ _

theorem quiet_login (env : Env) (dto : Auth.LoginDto) : Quiet V (Auth.login env dto) :=
  .bind (quiet_query _) fun _ => .bind (.orThrow _ _) fun _ => .bind quiet_newDate fun _ =>
    .bind (.require _ _) fun _ => .ite
      (.bind (.when (quiet_user.bind fun _ => .pure _)) fun _ =>
        quiet_issueTokens env _ _ _)
      (.bind (.bind quiet_newDate fun _ => quiet_user.bind fun _ => .pure _) fun _ =>
        .throw _)

theorem quiet_refresh (env : Env) (token : String) : Quiet V (Auth.refresh env token) :=
  .bind quiet_newDate fun _ => .bind (.orThrow _ _) fun _ => .bind (quiet_query _) fun _ =>
    .bind (.orThrow _ _) fun _ =>
      .bind (.bind quiet_newDate fun _ => .bind quiet_randomUUID fun _ =>
      .bind quiet_randomUUID fun _ => .pure _) fun _ =>
      .bind (V.user.updateMany fun _ _ => rfl) fun _ => .bind (.require _ _) fun _ => .pure _

theorem quiet_logout (userId : String) : Quiet V (Auth.logout userId) :=
  quiet_user.bind fun _ => .pure _

/-! ### Children, devices, limits, rules, sessions -/

theorem quiet_findChild (parentId id : String) : Quiet V (Children.findOne parentId id) :=
  .bind (quiet_query _) fun _ => .bind (.orThrow _ _) fun _ => .bind (.require _ _) fun _ => .pure _

theorem quiet_updateChild (parentId id : String) (dto : Children.UpdateChildDto) :
    Quiet V (Children.update parentId id dto) :=
  (quiet_findChild _ _).bind fun _ => .bind (.require _ _) fun _ => quiet_child fun _ => rfl

theorem quiet_findDevice (parentId id : String) : Quiet V (Devices.findOne parentId id) :=
  .bind (quiet_query _) fun _ => .bind (.orThrow _ _) fun _ => .bind (.require _ _) fun _ => .pure _

theorem quiet_upsertSchedule (parentId id : String) (dto : Protection.UpsertScheduleDto) :
    Quiet V (Protection.upsertSchedule parentId id dto) :=
  (quiet_findDevice _ _).bind fun _ => .bind (.require _ _) fun _ => quiet_device fun _ => rfl

theorem quiet_checkDevice (parentId : String) (o : Option String) :
    Quiet V (Bandwidth.checkDevice parentId o) := by
  rcases o with _ | id
  · exact .pure _
  · exact .bind (quiet_query _) fun _ => .bind (.orThrow _ _) fun _ => .require _ _

theorem quiet_checkChild (parentId : String) (o : Option String) :
    Quiet V (Bandwidth.checkChild parentId o) := by
  rcases o with _ | id
  · exact .pure _
  · exact .bind (quiet_query _) fun _ => .bind (.orThrow _ _) fun _ => .require _ _

theorem quiet_createLimit (parentId : String) (dto : Bandwidth.CreateBandwidthLimitDto) :
    Quiet linkView (Bandwidth.create parentId dto) :=
  .bind (.require _ _) fun _ => .bind (.require _ _) fun _ => .bind (.require _ _) fun _ =>
    (quiet_checkDevice _ _).bind fun _ => (quiet_checkChild _ _).bind fun _ =>
      Links.bandwidthLimit.create _

theorem quiet_findLimit (parentId id : String) : Quiet V (Bandwidth.findOne parentId id) :=
  .bind (quiet_query _) fun _ => .bind (.orThrow _ _) fun _ => .bind (.require _ _) fun _ => .pure _

theorem quiet_updateLimit (parentId id : String) (dto : Bandwidth.UpdateBandwidthLimitDto) :
    Quiet V (Bandwidth.update parentId id dto) :=
  (quiet_findLimit _ _).bind fun _ => .bind (.require _ _) fun _ =>
    V.bandwidthLimit.update fun _ _ => rfl

theorem quiet_removeLimit (parentId id : String) : Quiet linkView (Bandwidth.remove parentId id) :=
  (quiet_findLimit _ _).bind fun _ => Links.bandwidthLimit.delete (fun _ _ => rfl) _

theorem quiet_getCommands (deviceId : String) : Quiet V (ChildAgent.getCommands deviceId) :=
  .bind (quiet_query _) fun _ => .ite (.pure _) (.bind quiet_newDate fun _ =>
    (V.command.updateMany _ _ _).bind fun _ => .pure _)

theorem quiet_reportStatus (deviceId : String) (app : Option String) :
    Quiet V (ChildAgent.reportStatus deviceId app) := by
  refine .bind quiet_newDate fun _ => .bind (quiet_device fun _ => rfl) fun _ => ?_
  rcases truthy app with _ | app
  · exact .pure _
  refine .bind (quiet_query _) fun device => ?_
  rcases device.bind fun d => truthy d.childId with _ | _
  · exact .pure _
  refine .bind (quiet_query _) fun session => ?_
  rcases session with _ | s
  · exact .pure _
  · exact .bind (quiet_session fun _ => rfl) fun _ => .pure _

theorem quiet_createRule (parentId : String) (dto : Rules.CreateRuleDto) :
    Quiet V (Rules.create parentId dto) :=
  .bind (.bind (quiet_query _) fun _ => .bind (.orThrow _ _) fun _ => .require _ _) fun _ =>
    V.rule.create _

theorem quiet_findRule (parentId id : String) : Quiet V (Rules.findOwnedOrThrow parentId id) :=
  .bind (.bind (quiet_query _) fun _ => .orThrow _ _) fun _ => .bind (.require _ _) fun _ => .pure _

theorem quiet_updateRule (parentId id : String) (dto : Rules.UpdateRuleDto) :
    Quiet V (Rules.update parentId id dto) :=
  (quiet_findRule _ _).bind fun _ => .bind (.require _ _) fun _ => V.rule.update _ _ _

theorem quiet_removeRule (parentId id : String) : Quiet V (Rules.remove parentId id) :=
  (quiet_findRule _ _).bind fun _ => V.rule.delete (fun _ _ => rfl) _

theorem quiet_getAndValidate (sid parentId : String) :
    Quiet V (Sessions.getAndValidate sid parentId) :=
  .bind (quiet_query _) fun _ => .bind (.orThrow _ _) fun _ => .bind (.require _ _) fun _ => .pure _

theorem quiet_pause (sid parentId : String) : Quiet V (Sessions.pause sid parentId) :=
  (quiet_getAndValidate _ _).bind fun _ => .bind (.require _ _) fun _ =>
    .bind quiet_newDate fun _ =>
    quiet_session fun _ => rfl

theorem quiet_resume (sid parentId : String) : Quiet V (Sessions.resume sid parentId) :=
  (quiet_getAndValidate _ _).bind fun _ => .bind (.require _ _) fun _ =>
    .bind quiet_newDate fun _ =>
    quiet_session fun _ => rfl

theorem quiet_extend (sid parentId : String) (dto : Sessions.ExtendSessionDto) :
    Quiet V (Sessions.extend sid parentId dto) :=
  (quiet_getAndValidate _ _).bind fun _ => .bind (.require _ _) fun _ => quiet_session fun _ => rfl

theorem quiet_stop (sid parentId : String) : Quiet V (Sessions.stop sid parentId) :=
  (quiet_getAndValidate _ _).bind fun _ => .bind (.require _ _) fun _ =>
    .bind quiet_newDate fun _ =>
    quiet_session fun _ => rfl

theorem quiet_expire (sid : String) : Quiet V (Sessions.expire sid) :=
  .bind (quiet_query _) fun _ => .bind (.orThrow _ _) fun _ => .bind quiet_newDate fun _ =>
    quiet_session fun _ => rfl

theorem quiet_process (data : CommandJobData) : Quiet V (CommandQueue.process data) := by
  refine .bind (quiet_query _) fun device => ?_
  rcases device with _ | d
  · exact .pure _
  · exact .bind (.require _ _) fun _ => .bind quiet_newDate fun _ =>
      (V.command.update _ _ _).bind fun _ => .pure _

/-! ### Gateways -/

section Gateways
open Gateways

theorem quiet_findGateway (g : String) : Quiet V (findGateway g) :=
  .bind (quiet_query _) fun _ => .orThrow _ _

theorem quiet_findOwned (parentId g : String) : Quiet V (findOwned parentId g) :=
  (quiet_findGateway g).bind fun _ => .bind (.require _ _) fun _ => .pure _

theorem quiet_renameGateway (parentId g : String) (name description : Patch String) :
    Quiet V (renameGateway parentId g name description) :=
  (quiet_findOwned _ _).bind fun _ => .bind (.require _ _) fun _ => quiet_gateway fun _ => rfl

theorem quiet_pair (g parentId : String) : Quiet V (pair g parentId) :=
  (quiet_findOwned _ _).bind fun _ => .bind quiet_newDate fun _ => quiet_gateway fun _ => rfl

theorem quiet_rotateToken (parentId g : String) (grace : ℤ) :
    Quiet V (rotateToken parentId g grace) :=
  (quiet_findOwned _ _).bind fun _ => .bind quiet_randomUUID fun _ => .bind quiet_newDate fun _ =>
    .bind (quiet_gateway fun _ => rfl) fun _ => (quiet_log _).bind fun _ => .pure _

theorem quiet_findWithDevices (g : String) : Quiet V (findWithDevices g) :=
  .bind (quiet_query _) fun _ => .orThrow _ _

theorem quiet_setStatus (g mac : String) (status : DeviceStatus) :
    Quiet V (setStatus g mac status) :=
  (quiet_findGateway g).bind fun _ => .bind (quiet_query _) fun _ => .bind (.orThrow _ _) fun _ =>
    .bind (quiet_device fun _ => rfl) fun _ => .pure _

theorem quiet_updateLastSeen (g : String) (v : Option String) : Quiet V (updateLastSeen g v) :=
  .bind quiet_newDate fun _ => .bind (quiet_gateway fun _ => rfl) fun _ => .pure _

theorem quiet_getPolicies (env : Env) (g : String) (prev : Bool) (v : Option String) :
    Quiet V (getPolicies env g prev v) :=
  (quiet_findWithDevices g).bind fun _ => (quiet_updateLastSeen g v).ignoreErrors.bind fun _ =>
    .bind (.ite (.pure _) (quiet_query _)) fun _ => .bind quiet_newDate fun _ => .pure _

theorem quiet_findByHostname (g : String) (d : DiscoveredDevice) :
    Quiet V (findByHostname g d) := by
  unfold findByHostname
  split
  · exact quiet_query _
  · exact .pure _

theorem quiet_findDiscovered (g mac : String) (d : DiscoveredDevice) :
    Quiet V (findDiscovered g mac d) := by
  refine .bind (quiet_query _) fun found => ?_
  rcases found with _ | device
  · exact quiet_findByHostname g d
  · exact .pure _

theorem quiet_updateDiscovered (env : Env) (g : String) (n : ℕ) (d : DiscoveredDevice) :
    Quiet V (updateDiscovered env g n d) := by
  refine (quiet_findDiscovered g _ d).bind fun found => ?_
  rcases found with _ | device
  · exact .pure _
  · exact .bind quiet_newDate fun _ => .bind (quiet_device fun _ => rfl) fun _ => .pure _

theorem quiet_updateDiscoveredDevices (env : Env) (g : String) (ds : List DiscoveredDevice) :
    Quiet V (updateDiscoveredDevices env g ds) :=
  (quiet_findGateway g).bind fun _ => (Quiet.foldEach ds 0 fun n d =>
    quiet_updateDiscovered env g n d).bind fun _ =>
      (quiet_updateLastSeen g none).ignoreErrors.bind fun _ => .pure _

theorem quiet_validDetections (g : String) (ds : List Detection) : Quiet V (validDetections g ds) :=
  .bind (quiet_query _) fun _ => .pure _

theorem quiet_recordVpnDetections (g : String) (ds : List Detection) :
    Quiet linkView (recordVpnDetections g ds) :=
  .ite (.pure _) ((quiet_findGateway g).bind fun _ => (quiet_validDetections g ds).bind fun _ =>
    .bind (.when (Links.vpnDetectionLog.createMany _)) fun _ => .pure _)

theorem quiet_recordDohDetections (g : String) (ds : List Detection) :
    Quiet V (recordDohDetections g ds) :=
  .ite (.pure _) ((quiet_findGateway g).bind fun _ => (quiet_validDetections g ds).bind fun _ =>
    .bind (.forEach _ fun _ => quiet_log _) fun _ => .pure _)

theorem quiet_recordDetection (g : String) (r : RouterDetection.RouterDetectionReport) :
    Quiet linkView (RouterDetection.recordDetection g r) :=
  .bind (quiet_query _) fun _ => .bind (.orThrow _ _) fun _ => .bind quiet_newDate fun _ =>
    Links.detectedRouter.upsert _ _ _ _

theorem quiet_getPendingCommands (g : String) : Quiet V (RouterCommands.getPendingCommands g) :=
  .bind (quiet_query _) fun _ => .ite (.pure _) (.bind quiet_newDate fun _ =>
    .bind (V.routerCommand.updateMany fun _ _ => rfl) fun _ => .pure _)

theorem quiet_acknowledgeCommand (g id : String) (success : Bool) (data : Option Json) :
    Quiet V (RouterCommands.acknowledgeCommand g id success data) :=
  .bind (quiet_query _) fun _ => .bind (.orThrow _ _) fun _ => .bind (.require _ _) fun _ =>
    .bind quiet_newDate fun _ => V.routerCommand.update fun _ _ => rfl

/-- The endpoints, given what the two that record detections keep. -/
theorem keeps_dispatch {I : World → Prop} (h : Frame V I) (env : Env) (g : Gateway) (prev : Bool)
    (e : Endpoint) (hvpn : ∀ ds, Prog.Keeps I (recordVpnDetections g.id ds))
    (hrouter : ∀ r, Prog.Keeps I (RouterDetection.recordDetection g.id r)) :
    Prog.Keeps I (dispatch env g prev e) := by
  have hid : ∀ o, Quiet V (requireId o) := fun o => .orThrow _ _
  have hdevices : ∀ id, Quiet V (getDiscoveredDevices id) := fun id =>
    (quiet_findWithDevices id).bind fun _ => .pure _
  have hstatus : ∀ id, Quiet V (getStatus id) := fun id =>
    (quiet_findWithDevices id).bind fun _ => .pure _
  have hset : ∀ id mac s text, Quiet V (do setStatus id mac s; pure (text : String)) :=
    fun id mac s _ => (quiet_setStatus id mac s).bind fun _ => .pure _
  cases e with
  | devices id => exact ((hid id).bind fun id => (hdevices id).bind fun _ => .pure _) h
  | block id mac => exact ((hid id).bind fun id => (hset id mac _ _).bind fun _ => .pure _) h
  | unblock id mac => exact ((hid id).bind fun id => (hset id mac _ _).bind fun _ => .pure _) h
  | status id => exact ((hid id).bind fun id => (hstatus id).bind fun _ => .pure _) h
  | policies v => exact ((quiet_getPolicies env _ _ _).bind fun _ => .pure _) h
  | discovery ds => exact ((quiet_updateDiscoveredDevices env _ _).bind fun _ => .pure _) h
  | vpnDetections ds => exact (hvpn ds).bind fun _ => .pure _
  | dohDetections ds => exact ((quiet_recordDohDetections _ _).bind fun _ => .pure _) h
  | routerDetection r => exact (hrouter r).bind fun _ => .pure _
  | pollRouterCommands =>
    exact ((quiet_getPendingCommands _).bind fun _ =>
      .bind (.bind (quiet_query _) fun _ => .pure _) fun _ => .pure _) h
  | ackRouterCommand id s d => exact ((quiet_acknowledgeCommand _ _ _ _).bind fun _ => .pure _) h

theorem keeps_guarded {I : World → Prop} (h : Frame V I) (env : Env) (request : GuardRequest)
    (e : Endpoint) (hvpn : ∀ g ds, Prog.Keeps I (recordVpnDetections g ds))
    (hrouter : ∀ g r, Prog.Keeps I (RouterDetection.recordDetection g r)) :
    Prog.Keeps I (guarded env request e) := by
  have hsig : ∀ token, Quiet V (verifySignature env request token) := by
    intro token
    unfold verifySignature
    split
    · exact .bind quiet_newDate fun _ => .bind (.require _ _) fun _ => .require _ _
    · exact .throw _
  have htoken : ∀ token, Quiet V (findByToken token) := by
    intro token
    refine .bind (quiet_query _) fun found => ?_
    rcases found with _ | g
    · exact .bind quiet_newDate fun _ => .bind (quiet_query _) fun _ => .pure _
    · exact .pure _
  exact .bind (((Quiet.orThrow _ _).bind fun _ => (htoken _).bind fun _ =>
    .bind (.orThrow _ _) fun _ =>
    .bind (.when (hsig _)) fun _ => .pure _) h) fun _ =>
      keeps_dispatch h env _ _ e (hvpn _) (hrouter _)

theorem quiet_guarded (env : Env) (request : GuardRequest) (e : Endpoint) :
    Quiet linkView (guarded env request e) := fun _ h =>
  keeps_guarded h env request e (fun g ds => quiet_recordVpnDetections g ds h)
    fun g r => quiet_recordDetection g r h

end Gateways

/-! ### Pairing -/

section Pairing
open Pairing

theorem quiet_pairStatus (id : String) (s : PairStatus) : Quiet V (setDevicePairStatus id s) :=
  quiet_device fun _ => rfl

theorem quiet_pairOwned (id parentId : String) : Quiet V (Pairing.findOwned id parentId) :=
  .bind (quiet_query _) fun _ => .bind (.orThrow _ _) fun _ => .bind (.require _ _) fun _ => .pure _

theorem quiet_startPairing (env : Env) (id parentId : String) :
    Quiet V (startPairing env id parentId) :=
  (quiet_pairOwned _ _).bind fun _ => (V.pairingSession.deleteMany _).bind fun _ =>
    .bind quiet_randomUUID fun _ => .bind quiet_newDate fun _ =>
      (V.pairingSession.create _).bind fun _ => (quiet_pairStatus _ _).bind fun _ =>
        (quiet_log _).bind fun _ => .pure _

theorem quiet_cancelPairing (id parentId : String) : Quiet V (cancelPairing id parentId) :=
  (quiet_pairOwned _ _).bind fun _ => (V.pairingSession.deleteMany _).bind fun _ => quiet_log _

theorem txQuiet_completePairing (dto : ConfirmPairingDto) (s : PairingSession) :
    TxQuiet V (completePairing dto s) :=
  .bind (.viaPlain quiet_newDate) fun _ => .bind (.viaPlain quiet_randomUUID) fun _ =>
    .bind (.viaTx (quiet_device fun _ => rfl)) fun _ =>
      .bind (.viaTx (V.deviceIpHistory.upsert _ _ _ _)) fun _ =>
        .bind (.viaTx (V.deviceConnectionEvent.create _)) fun _ =>
          .bind (.viaTx (V.pairingSession.delete (fun _ _ => rfl) _)) fun _ =>
            .bind (.viaPlain (quiet_log _)) fun _ => .pure _

theorem quiet_tryConfirm (dto : ConfirmPairingDto) : Quiet V (tryConfirmPairingSession dto) := by
  refine TxQuiet.transaction (.bind (.viaTx (quiet_query _)) fun found => ?_)
  rcases found with _ | s
  · exact .pure _
  · exact .bind (.require _ _) fun _ => .bind (.viaPlain quiet_newDate) fun _ => .ite
      (.bind (.viaTx (V.pairingSession.update _ _ _)) fun _ =>
        .bind (.viaPlain (quiet_pairStatus _ _)) fun _ => .throw _)
      (.bind (.viaTx (V.pairingSession.update _ _ _)) fun _ => .ite
        (.bind (.viaTx (V.pairingSession.update _ _ _)) fun _ =>
          .bind (.viaPlain (quiet_pairStatus _ _)) fun _ => .throw _)
        ((txQuiet_completePairing dto s).bind fun _ => .pure _))

theorem quiet_recordHeartbeat (id ip : String) : Quiet V (recordHeartbeat id ip) := by
  refine .bind (quiet_query _) fun found => ?_
  rcases found.filter Device.paired with _ | d
  · exact .pure _
  · exact .bind quiet_newDate fun _ => .ite
      (.bind (V.deviceIpHistory.upsert _ _ _ _) fun _ =>
        .bind (quiet_device fun _ => rfl) fun _ => .pure _)
      (TxQuiet.transaction (.bind (.viaTx (quiet_device fun _ => rfl)) fun _ =>
        .bind (.viaTx (V.deviceIpHistory.upsert _ _ _ _)) fun _ =>
          .bind (.viaTx (V.deviceConnectionEvent.create _)) fun _ => .pure _))

theorem quiet_confirmProbe (dto : ConfirmPairingDto) : Quiet V (confirmProbe dto) := by
  refine (quiet_tryConfirm dto).bind fun found => ?_
  rcases found with _ | id
  · exact .bind (quiet_query _) fun _ => .bind (.orThrow _ _) fun _ =>
      (quiet_recordHeartbeat _ _).bind fun _ => .pure _
  · exact .pure _

end Pairing

/-! ### Scheduler -/

section Scheduler
open Scheduler

theorem quiet_reportBypass (env : Env) (d : Device) : Quiet V (reportBypass env d) :=
  .bind quiet_newDate fun _ => .bind (quiet_device fun _ => rfl) fun _ =>
    (quiet_notify env _).bind fun _ => quiet_log _

theorem quiet_detectDnsBypass (env : Env) : Quiet V (detectDnsBypass env) :=
  .bind quiet_newDate fun _ => .bind (quiet_query _) fun _ =>
    .forEach _ fun d => (quiet_reportBypass env d).ignoreErrors

theorem quiet_monitorDeviceHealth (env : Env) : Quiet V (monitorDeviceHealth env) :=
  fun _ h => keeps_monitorDeviceHealth (noticeSafe h) env

theorem quiet_notifyLowProtection (env : Env) : Quiet V (notifyLowProtection env) :=
  fun _ h => keeps_notifyLowProtection (noticeSafe h) env

theorem quiet_bedtimeLock (now : Time) (time : String) (d : Device) :
    Quiet V (bedtimeLock now time d) :=
  .bind (quiet_device fun _ => rfl) fun _ => quiet_log _

theorem quiet_bedtimeUnlock (time : String) (d : Device) : Quiet V (bedtimeUnlock time d) :=
  .bind (quiet_device fun _ => rfl) fun _ => quiet_log _

end Scheduler

end GuardTime.System.Quiet
