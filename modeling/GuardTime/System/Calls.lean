import Mathlib.Tactic
import GuardTime.Services.Account
import GuardTime.Services.Categories
import GuardTime.Services.OAuth
import GuardTime.Services.Protection
import GuardTime.Services.RouterIntegration
import GuardTime.System.Quiet
import GuardTime.System.Run

/-! # All calls

A `Call` is a request of the system or one of the other operations that write: the account, push
tokens, notices and categories of a parent, the setup of routers, Microsoft accounts, what the
agents acknowledge, the block list, and what the server does when it starts. Apart from the requests
only the deletion of an account changes who owns what (`quiet_other`). -/

namespace GuardTime.System.Calls

open GuardTime.Lib.Program GuardTime.Lib.Js GuardTime.Schema GuardTime.Server GuardTime.Prisma
open GuardTime.Services GuardTime.System.Links GuardTime.System.Quiet
open GuardTime.System.Run

/-- A call that may write. -/
inductive Call where
  | request (r : Request)
  | updateProfile (p : String) (dto : Parents.UpdateProfileDto)
  | deleteAccount (p : String)
  | registerToken (p token : String) (platform : Push.PushPlatform)
  | removeToken (p token : String)
  | markReadForUser (p id : String)
  | setCategoryBlock (p id : String) (category : BlockCategory) (active : Bool)
      (reason : Patch String)
  | syncRules (p id : String)
  | setSetupStatus (p id : String) (dto : OfflineControl.SetSetupStatusDto)
  | getProtectionScore (p id : String) (checklists : OfflineControl.Checklists)
  | getInsights (p id : String) (checklists : OfflineControl.Checklists)
  | setupRouter (p id : String) (dto : RouterIntegration.RouterSetupDto)
  | testConnection (p id : String)
  | triggerDetection (p id : String)
  | changeDns (p id dnsServer : String)
  | blockMac (p id macAddress : String)
  | unblockMac (p id macAddress : String)
  | endGamingSession (p id deviceId : String)
  | microsoftCallback (p code : String) (fetch : OAuth.TokenRequest → OAuth.TokenResponse)
  | refreshMicrosoft (p : String) (fetch : OAuth.TokenRequest → OAuth.TokenResponse)
  | acknowledgeCommand (dto : ChildAgent.CommandAckDto)
  | requestMoreTime (sessionId : String) (requestedMinutes : ℤ)
  | addDomain (domain : String) (category : BlockCategory) (wildcard : Bool)
  | bulkImport (items : List Categories.BulkImportItem)
  | classifyUnknownDomain (domain : String) (category : BlockCategory) (wildcard : Bool)
  | deleteDomain (id : String)
  | seedDefaultDomains
  | hashFingerprints

section
variable (env : Env) (encryption : OAuth.EncryptionService) (microsoft : OAuth.Microsoft)

/-- What the server does. -/
def handleCall : Call → Api Unit
  | .request r => System.Run.handle env r
  | .updateProfile p dto => System.Run.discard (Parents.updateProfile p dto)
  | .deleteAccount p => Parents.deleteAccount p
  | .registerToken p token platform => System.Run.discard (Push.registerToken p token platform)
  | .removeToken p token => Push.removeToken p token
  | .markReadForUser p id => System.Run.discard (Notifications.markReadForUser p id)
  | .setCategoryBlock p id category active reason =>
    System.Run.discard (Categories.setCategoryBlock p id category active reason)
  | .syncRules p id => System.Run.discard (Enforcement.syncRules id (some p))
  | .setSetupStatus p id dto => System.Run.discard (OfflineControl.setSetupStatus p id dto)
  | .getProtectionScore p id checklists =>
    System.Run.discard (Protection.getProtectionScore checklists p id)
  | .getInsights p id checklists => System.Run.discard (Protection.getInsights checklists p id)
  | .setupRouter p id dto => System.Run.discard (RouterIntegration.setup encryption p id dto)
  | .testConnection p id => System.Run.discard (RouterIntegration.testConnection p id)
  | .triggerDetection p id => System.Run.discard (RouterIntegration.triggerDetection p id)
  | .changeDns p id dnsServer => System.Run.discard (RouterIntegration.changeDns p id dnsServer)
  | .blockMac p id macAddress => System.Run.discard (RouterIntegration.blockMac p id macAddress)
  | .unblockMac p id macAddress => System.Run.discard (RouterIntegration.unblockMac p id macAddress)
  | .endGamingSession p id deviceId =>
    System.Run.discard (SmartBlock.endGamingSession p id deviceId)
  | .microsoftCallback p code fetch =>
    System.Run.discard (OAuth.handleMicrosoftCallback encryption microsoft fetch p code)
  | .refreshMicrosoft p fetch =>
    System.Run.discard (OAuth.refreshMicrosoftToken encryption microsoft fetch p)
  | .acknowledgeCommand dto => System.Run.discard (ChildAgent.acknowledgeCommand dto)
  | .requestMoreTime sessionId minutes =>
    System.Run.discard (ChildAgent.requestMoreTime env sessionId minutes)
  | .addDomain domain category wildcard =>
    System.Run.discard (Categories.addDomain env domain category wildcard)
  | .bulkImport items => System.Run.discard (Categories.bulkImport env items)
  | .classifyUnknownDomain domain category wildcard =>
    System.Run.discard (Categories.classifyUnknownDomain env domain category wildcard)
  | .deleteDomain id => Categories.deleteDomain id
  | .seedDefaultDomains => Categories.seedDefaultDomainsIfEmpty
  | .hashFingerprints => Gateways.DeviceFingerprint.onModuleInit env

/-- A call with its time. -/
structure Occasion where
  time : Time
  call : Call

/-- The world after a call. -/
def perform (w : World) (o : Occasion) : World :=
  ((handleCall env encryption microsoft o.call).run { w with now := o.time }).2

/-- The world after the calls. -/
def performs (w : World) (os : List Occasion) : World :=
  os.foldl (perform env encryption microsoft) w

end

/-! ### Who owns what -/

/-- The links without the category blocks. -/
def ownView : View where
  Shown := LinkGraph
  of db := { linksOf db with categoryBlocks := [] }
  pushToken _ _ := rfl
  pairingSession _ _ := rfl
  deviceIpHistory _ _ := rfl
  deviceConnectionEvent _ _ := rfl
  unknownDomainLog _ _ := rfl
  rule _ _ := rfl
  command _ _ := rfl
  notificationEvent _ _ := rfl
  auditLog _ _ := rfl
  dnsQueryLog _ _ := rfl
  user _ _ _ := rfl
  child db _ h := congrArg (fun l => { linksOf db with children := l, categoryBlocks := [] }) h
  gateway db _ h := congrArg (fun l => { linksOf db with gateways := l, categoryBlocks := [] }) h
  device db _ h := congrArg (fun l => { linksOf db with devices := l, categoryBlocks := [] }) h
  session db _ h := congrArg (fun l => { linksOf db with sessions := l, categoryBlocks := [] }) h
  bandwidthLimit _ _ _ := rfl
  routerCommand _ _ _ := rfl

theorem categoryBlock : Unlinked ownView.of .categoryBlock := fun _ _ => rfl
theorem blockedDomain : Unlinked ownView.of .blockedDomain := fun _ _ => rfl
theorem detectedRouter : Unlinked ownView.of .detectedRouter := fun _ _ => rfl
theorem routerCommand : Unlinked ownView.of .routerCommand := fun _ _ => rfl
theorem oAuthAccount : Unlinked ownView.of .oAuthAccount := fun _ _ => rfl
theorem commandAck : Unlinked ownView.of .commandAck := fun _ _ => rfl

theorem adapterSafe {I : World → Prop} (h : Frame ownView I) : AdapterSafe I where
  toCommandSafe := commandSafe h
  routerCommand := routerCommand.free h

theorem quiet_discard {V : View} {α : Type} {p : Api α} (h : Quiet V p) :
    Quiet V (System.Run.discard p) :=
  h.bind fun _ => .pure _

/-! ### Parents -/

theorem quiet_updateProfile (p : String) (dto : Parents.UpdateProfileDto) :
    Quiet ownView (Parents.updateProfile p dto) := quiet_user.bind fun _ => .pure _

theorem quiet_registerToken (p token : String) (platform : Push.PushPlatform) :
    Quiet ownView (Push.registerToken p token platform) :=
  quiet_newDate.bind fun _ => ownView.pushToken.upsert _ _ _ _

theorem quiet_markReadForUser (p id : String) :
    Quiet ownView (Notifications.markReadForUser p id) :=
  (quiet_query _).bind fun _ => .bind (.orThrow _ _) fun _ => ownView.notificationEvent.update _ _ _

theorem quiet_setCategoryBlock (p id : String) (category : BlockCategory) (active : Bool)
    (reason : Patch String) :
    Quiet ownView (Categories.setCategoryBlock p id category active reason) := by
  have howner : Quiet ownView (Categories.assertChildOwnership p id) :=
    (quiet_query _).bind fun _ => .bind (.orThrow _ _) fun _ => .require _ _
  exact howner.bind fun _ => categoryBlock.upsert _ _ _ _

/-- The five adapters write commands at most. -/
theorem quiet_startSession (device : Device) (rules : List Rule) :
    Quiet ownView (Adapters.startSession device rules) := by
  intro I h
  have safe := commandSafe h
  unfold Adapters.startSession
  dsimp only
  split
  · exact (safe.createCommand _ _ _).bind fun _ => (safe.createCommand _ _ _).bind fun _ => .pure _
  · exact (safe.command.create h.steady _).bind fun _ => .pure _
  · refine .bind (keeps_query h.steady _) fun oauth => ?_
    rcases oauth with _ | a
    · exact .pure _
    · exact .pure _
  · unfold Adapters.startViaGateway
    rcases truthy device.gatewayId with _ | gatewayId
    · exact .pure _
    · refine .bind (keeps_query h.steady _) fun gateway => ?_
      rcases gateway.filter Gateway.paired with _ | g
      · exact .pure _
      · exact .pure _
  · exact .pure _

theorem quiet_syncRules (p id : String) : Quiet ownView (Enforcement.syncRules id (some p)) := by
  have hfind : Quiet ownView (Enforcement.findDevice id (some p)) := fun _ h =>
    (commandSafe h).findDevice id (some p)
  unfold Enforcement.syncRules
  refine hfind.bind fun device => ?_
  rcases truthy device.childId with _ | childId
  · exact .pure _
  · have hrules : Quiet ownView (Rules.getActiveRulesForChild childId) := by
      unfold Rules.getActiveRulesForChild Prisma.findMany
      exact quiet_query _
    exact hrules.bind fun rules => quiet_startSession device rules

theorem quiet_setSetupStatus (p id : String) (dto : OfflineControl.SetSetupStatusDto) :
    Quiet ownView (OfflineControl.setSetupStatus p id dto) :=
  (quiet_findDevice p id).bind fun _ => quiet_newDate.bind fun _ => quiet_device fun _ => by rfl

theorem quiet_calculateScore (checklists : OfflineControl.Checklists) (id : String) :
    Quiet ownView (Protection.calculateProtectionScore checklists id) := by
  refine (quiet_query _).bind fun _ => .bind (.orThrow _ _) fun _ => quiet_newDate.bind fun _ =>
    .bind (.ignoreErrors (.bind (quiet_device ?_) fun _ => .pure _)) fun _ => .pure _
  intro d
  rfl

theorem quiet_getProtectionScore (checklists : OfflineControl.Checklists) (p id : String) :
    Quiet ownView (Protection.getProtectionScore checklists p id) :=
  (quiet_findDevice p id).bind fun _ => quiet_calculateScore checklists id

theorem quiet_getInsights (checklists : OfflineControl.Checklists) (p id : String) :
    Quiet ownView (Protection.getInsights checklists p id) := by
  refine (quiet_findDevice p id).bind fun _ => (quiet_calculateScore checklists id).bind fun _ =>
    quiet_newDate.bind fun _ => ?_
  dsimp only
  split_ifs
  · exact .bind (.pure _) fun _ => .pure _
  · exact (quiet_query _).bind fun _ => .pure _

/-! ### Routers -/

theorem quiet_routerRequest (p id : String) (type : RouterCommandType) (payload : Json) :
    Quiet ownView (RouterIntegration.request p id type payload) :=
  (quiet_findOwned p id).bind fun _ => (routerCommand.create _).bind fun _ => .pure _

theorem quiet_encrypt (encryption : OAuth.EncryptionService) (text : Option String) :
    Quiet ownView (OAuth.encrypt encryption text) :=
  .bind (.orThrow _ _) fun _ => quiet_randomUUID.bind fun _ => .pure _

theorem quiet_setup (encryption : OAuth.EncryptionService) (p id : String)
    (dto : RouterIntegration.RouterSetupDto) :
    Quiet ownView (RouterIntegration.setup encryption p id dto) :=
  (quiet_findOwned p id).bind fun _ => (quiet_encrypt encryption _).bind fun _ =>
    (detectedRouter.upsert _ _ _ _).bind fun _ => (routerCommand.create _).bind fun _ => .pure _

theorem quiet_endGamingSession (p id deviceId : String) :
    Quiet ownView (SmartBlock.endGamingSession p id deviceId) :=
  (quiet_query _).bind fun _ => .bind (.orThrow _ _) fun _ => .bind (.require _ _) fun _ =>
    fun _ h => (adapterSafe h).enqueueStrategyCommand _ _ _ _

/-! ### Microsoft accounts -/

section Microsoft
variable (encryption : OAuth.EncryptionService) (microsoft : OAuth.Microsoft)

theorem quiet_expiresAt (data : OAuth.TokenData) : Quiet ownView (OAuth.expiresAt data) :=
  quiet_newDate.bind fun _ => .bind (.orThrow _ _) fun _ => .pure _

theorem quiet_handleMicrosoftCallback (fetch : OAuth.TokenRequest → OAuth.TokenResponse)
    (p code : String) :
    Quiet ownView (OAuth.handleMicrosoftCallback encryption microsoft fetch p code) := by
  unfold OAuth.handleMicrosoftCallback
  split
  · split
    · exact .throw _
    · exact .pure _
    · exact (quiet_encrypt encryption _).bind fun _ => (quiet_encrypt encryption _).bind fun _ =>
        (quiet_expiresAt _).bind fun _ => (oAuthAccount.upsert _ _ _ _).bind fun _ => .pure _
  · exact .throw _

theorem quiet_refreshMicrosoftToken (fetch : OAuth.TokenRequest → OAuth.TokenResponse)
    (p : String) :
    Quiet ownView (OAuth.refreshMicrosoftToken encryption microsoft fetch p) := by
  unfold OAuth.refreshMicrosoftToken OAuth.findAccount
  refine (quiet_query _).bind fun found => ?_
  rcases found with _ | account
  · exact .pure _
  · dsimp only
    split
    · have hdecrypt : Quiet ownView (OAuth.decrypt encryption account.refreshToken) := by
        unfold OAuth.decrypt
        split
        · exact .pure _
        · exact .throw _
      refine hdecrypt.bind fun _ => ?_
      split
      · exact .throw _
      · exact .pure _
      · exact (quiet_encrypt encryption _).bind fun _ => (quiet_encrypt encryption _).bind fun _ =>
          (quiet_expiresAt _).bind fun _ => (oAuthAccount.update _ _ _).bind fun _ => .pure _
    · exact .pure _

end Microsoft

/-! ### Agents, administrators and the start -/

theorem quiet_acknowledgeCommand (dto : ChildAgent.CommandAckDto) :
    Quiet ownView (ChildAgent.acknowledgeCommand dto) :=
  (quiet_query _).bind fun _ => .bind (.orThrow _ _) fun _ => quiet_newDate.bind fun _ =>
    (ownView.command.update _ _ _).bind fun _ => commandAck.create _

theorem quiet_requestMoreTime (env : Env) (sessionId : String) (minutes : ℤ) :
    Quiet ownView (ChildAgent.requestMoreTime env sessionId minutes) :=
  (quiet_query _).bind fun _ => .bind (.orThrow _ _) fun _ => (quiet_notify env _).bind fun _ =>
    .pure _

/-! ### The block list -/

theorem quiet_dbCall {α : Type} {f : Ctx → Database → Except Err α × Database}
    (h : ∀ c db, ownView.of (f c db).2 = ownView.of db) : Quiet ownView (dbCall f) :=
  fun _ hI w hw => by
    rw [run_dbCall]
    exact hI w _ (h _ _) rfl rfl hw

theorem own_insertMissing : ∀ {rs : List BlockedDomain} {db db' : Database} {n : ℕ},
    Categories.insertMissing .blockedDomain db rs = .ok (n, db') → ownView.of db' = ownView.of db
  | [], _, _, _, h => by
    cases h
    rfl
  | r :: rs, db, db', n, h => by
    unfold Categories.insertMissing at h
    rcases hins : Model.blockedDomain.insertRow db r with e | db₁
    · rw [hins] at h
      split at h
      · rename_i heq
        cases heq
      · exact own_insertMissing h
      · cases h
    · obtain ⟨-, t, -, rfl⟩ := Model.insertRow_ok hins
      rw [hins] at h
      dsimp only at h
      rcases hrest : Categories.insertMissing .blockedDomain (Model.blockedDomain.set db t) rs
        with e | ⟨k, db₂⟩
      · rw [hrest] at h
        cases h
      · rw [hrest] at h
        cases h
        exact (own_insertMissing hrest).trans (blockedDomain db t)

theorem quiet_addDomain (env : Env) (domain : String) (category : BlockCategory)
    (wildcard : Bool) : Quiet ownView (Categories.addDomain env domain category wildcard) :=
  blockedDomain.upsert _ _ _ _

theorem quiet_bulkImport (env : Env) (items : List Categories.BulkImportItem) :
    Quiet ownView (Categories.bulkImport env items) := by
  refine .bind (quiet_dbCall fun c db => ?_) fun _ => .pure _
  dsimp only
  split
  · exact own_insertMissing ‹_›
  · rfl

theorem quiet_classifyUnknownDomain (env : Env) (domain : String) (category : BlockCategory)
    (wildcard : Bool) :
    Quiet ownView (Categories.classifyUnknownDomain env domain category wildcard) :=
  (quiet_addDomain env _ category wildcard).bind fun _ =>
    (ownView.unknownDomainLog.updateMany _ _ _).bind fun _ => .pure _

theorem quiet_seedDefaultDomains : Quiet ownView Categories.seedDefaultDomainsIfEmpty := by
  refine .ignoreErrors (.bind (quiet_query _) fun _ => .when (quiet_dbCall fun c db => ?_))
  dsimp only
  split
  · exact own_insertMissing ‹_›
  · rfl

/-! ### The start of the server -/

theorem quiet_onModuleInit (env : Env) :
    Quiet ownView (Gateways.DeviceFingerprint.onModuleInit env) := by
  refine .ignoreErrors (.bind (quiet_query _) fun pending => .ite (.pure _) ?_)
  refine quiet_newDate.bind fun now => .forEach pending fun d => .bind (quiet_device ?_) fun _ =>
    .pure _
  intro d
  rfl

/-! ### Every other call -/

/-- **Who owns what.** Only requests and deletions of accounts change it. -/
theorem quiet_other (env : Env) (encryption : OAuth.EncryptionService)
    (microsoft : OAuth.Microsoft) {c : Call} (hr : ∀ r, c ≠ .request r)
    (hd : ∀ p, c ≠ .deleteAccount p) : Quiet ownView (handleCall env encryption microsoft c) := by
  cases c with
  | request r => exact absurd rfl (hr r)
  | deleteAccount p => exact absurd rfl (hd p)
  | updateProfile p dto => exact quiet_discard (quiet_updateProfile p dto)
  | registerToken p token platform => exact quiet_discard (quiet_registerToken p token platform)
  | removeToken p token => exact ownView.pushToken.deleteMany _
  | markReadForUser p id => exact quiet_discard (quiet_markReadForUser p id)
  | setCategoryBlock p id category active reason =>
    exact quiet_discard (quiet_setCategoryBlock p id category active reason)
  | syncRules p id => exact quiet_discard (quiet_syncRules p id)
  | setSetupStatus p id dto => exact quiet_discard (quiet_setSetupStatus p id dto)
  | getProtectionScore p id checklists =>
    exact quiet_discard (quiet_getProtectionScore checklists p id)
  | getInsights p id checklists => exact quiet_discard (quiet_getInsights checklists p id)
  | setupRouter p id dto => exact quiet_discard (quiet_setup encryption p id dto)
  | testConnection p id => exact quiet_discard (quiet_routerRequest p id _ _)
  | triggerDetection p id => exact quiet_discard (quiet_routerRequest p id _ _)
  | changeDns p id dnsServer => exact quiet_discard (quiet_routerRequest p id _ _)
  | blockMac p id macAddress => exact quiet_discard (quiet_routerRequest p id _ _)
  | unblockMac p id macAddress => exact quiet_discard (quiet_routerRequest p id _ _)
  | endGamingSession p id deviceId => exact quiet_discard (quiet_endGamingSession p id deviceId)
  | microsoftCallback p code fetch =>
    exact quiet_discard (quiet_handleMicrosoftCallback encryption microsoft fetch p code)
  | refreshMicrosoft p fetch =>
    exact quiet_discard (quiet_refreshMicrosoftToken encryption microsoft fetch p)
  | acknowledgeCommand dto => exact quiet_discard (quiet_acknowledgeCommand dto)
  | requestMoreTime sessionId minutes =>
    exact quiet_discard (quiet_requestMoreTime env sessionId minutes)
  | addDomain domain category wildcard =>
    exact quiet_discard (quiet_addDomain env domain category wildcard)
  | bulkImport items => exact quiet_discard (quiet_bulkImport env items)
  | classifyUnknownDomain domain category wildcard =>
    exact quiet_discard (quiet_classifyUnknownDomain env domain category wildcard)
  | deleteDomain id => exact blockedDomain.delete (fun _ _ => rfl) id
  | seedDefaultDomains => exact quiet_seedDefaultDomains
  | hashFingerprints => exact quiet_onModuleInit env

end GuardTime.System.Calls
