import Mathlib.Tactic
import GuardTime.Columns
import GuardTime.Services.RouterIntegration
import GuardTime.Household

/-! # Router credentials

`DetectedRouter.adminCredentialsEncrypted` in two runs: databases that differ in this column only,
and the operations on routers and gateways that a parent or a gateway may call. All answers are the
same but those of the two operations that return a whole row (`credentials_hidden_iff`); the
connection of a gateway shows the credentials of its own router. -/

namespace GuardTime.Secrets.Credentials

open GuardTime.Lib.Program GuardTime.Lib.Js GuardTime.Lib.Keyed GuardTime.Schema GuardTime.Server
open GuardTime.Prisma GuardTime.Columns GuardTime.Columns.Column GuardTime.Services

/-! ### The column and the operations -/

/-- The column. -/
def credentials : Column .detectedRouter where
  hide r := { r with adminCredentialsEncrypted := none }
  holds l _ _ _ _ := by cases l <;> rfl

/-- What a parent (first) or a gateway (last four) asks for. -/
inductive Operation where
  | getFeatures (parentId gatewayId : String)
  | setup (parentId gatewayId : String) (dto : RouterIntegration.RouterSetupDto)
  | testConnection (parentId gatewayId : String)
  | triggerDetection (parentId gatewayId : String)
  | getDiagnostics (parentId gatewayId : String)
  | changeDns (parentId gatewayId dnsServer : String)
  | blockMac (parentId gatewayId macAddress : String)
  | unblockMac (parentId gatewayId macAddress : String)
  | endGamingSession (parentId gatewayId deviceId : String)
  | getDetectedRouter (parentId gatewayId : String)
  | listGateways (parentId : String)
  | recordDetection (gatewayId : String) (report : RouterDetection.RouterDetectionReport)
  | getPendingCommands (gatewayId : String)
  | acknowledgeCommand (gatewayId commandId : String) (success : Bool) (resultData : Option Json)
  | getRouterConnectionInfo (gatewayId : String)

/-- The answers. -/
inductive Answer where
  | features (f : RouterIntegration.Features)
  | commandId (id : String)
  | diagnostics (d : RouterIntegration.Diagnostics)
  | outcome (o : SmartBlock.Outcome)
  | detected (r : Option DetectedRouter)
  | gateways (cs : List Gateways.GatewayCard)
  | recorded (r : DetectedRouter)
  | commands (cs : List RouterCommand)
  | command (c : RouterCommand)
  | connection (c : Option RouterCommands.RouterConnection)

section
variable (env : Env) (encryption : OAuth.EncryptionService)

/-- What the services do. -/
def prog : Operation → Api Answer
  | .getFeatures p g => do
    let f ← RouterIntegration.getFeatures p g
    pure (.features f)
  | .setup p g dto => do
    let id ← RouterIntegration.setup encryption p g dto
    pure (.commandId id)
  | .testConnection p g => do
    let id ← RouterIntegration.testConnection p g
    pure (.commandId id)
  | .triggerDetection p g => do
    let id ← RouterIntegration.triggerDetection p g
    pure (.commandId id)
  | .getDiagnostics p g => do
    let d ← RouterIntegration.getDiagnostics p g
    pure (.diagnostics d)
  | .changeDns p g dns => do
    let id ← RouterIntegration.changeDns p g dns
    pure (.commandId id)
  | .blockMac p g mac => do
    let id ← RouterIntegration.blockMac p g mac
    pure (.commandId id)
  | .unblockMac p g mac => do
    let id ← RouterIntegration.unblockMac p g mac
    pure (.commandId id)
  | .endGamingSession p g d => do
    let o ← SmartBlock.endGamingSession p g d
    pure (.outcome o)
  | .getDetectedRouter p g => do
    let r ← RouterIntegration.getDetectedRouter p g
    pure (.detected r)
  | .listGateways p => do
    let cs ← Gateways.listGateways p
    pure (.gateways cs)
  | .recordDetection g report => do
    let r ← RouterDetection.recordDetection g report
    pure (.recorded r)
  | .getPendingCommands g => do
    let cs ← RouterCommands.getPendingCommands g
    pure (.commands cs)
  | .acknowledgeCommand g c success data => do
    let c ← RouterCommands.acknowledgeCommand g c success data
    pure (.command c)
  | .getRouterConnectionInfo g => do
    let c ← RouterCommands.getRouterConnectionInfo env g
    pure (.connection c)

/-- The router of the gateway. -/
def routerOf (g : String) (w : World) : Option DetectedRouter :=
  w.db.detectedRouters.rows.find? fun r => r.gatewayId = g

/-- Where the answer may depend on the column: a gateway that asks for the connection of its router,
when the credentials of this router are not the same. -/
def Granted : Operation → World → World → Prop
  | .getRouterConnectionInfo g, w, w' => routerOf g w ≠ routerOf g w'
  | _, _, _ => False

/-- Worlds that differ in the column only give the same answer, but where it may depend on it. -/
def Hidden (op : Operation) : Prop :=
  ∀ w w', credentials.Differ w w' → ¬ Granted op w w' →
    ((prog env encryption op).run w).1 = ((prog env encryption op).run w').1

end

/-- The operations that return a row. -/
def Discloses : Operation → Prop
  | .getDetectedRouter _ _ => True
  | .recordDetection _ _ => True
  | _ => False

/-! ### Operations that do not look at the column -/

section Respects

theorem apart_gateway : Apart .detectedRouter .gateway where

theorem apart_routerCommand : Apart .detectedRouter .routerCommand where

theorem apart_auditLog : Apart .detectedRouter .auditLog where

theorem apart_device : Apart .detectedRouter .device where

theorem respects_findOwned (p g : String) :
    Prog.Respects credentials.Differ (Gateways.findOwned p g) :=
  .bind (.bind (respects_findUnique apart_gateway g) fun _ => .orThrow _ _) fun _ =>
    .bind (.require _ _) fun _ => .pure _

theorem respects_enqueue (g : String) (type : RouterCommandType) (payload : Option Json)
    (d : Option String) :
    Prog.Respects credentials.Differ (RouterCommands.enqueueCommand g type payload d) :=
  respects_create apart_routerCommand _

/-- The router is looked up, and what follows does not look at its credentials. -/
theorem respects_router {α : Type} (g : String) {f : Option DetectedRouter → Api α}
    (hf : ∀ o, f (o.map credentials.hide) = f o)
    (hr : ∀ o, Prog.Respects credentials.Differ (f o)) :
    Prog.Respects credentials.Differ (RouterIntegration.findRouter g >>= f) := by
  refine Prog.RespectsTo.bind (respectsTo_findUniqueBy fun _ => rfl) (fun o o' ho => ?_) hr
  rw [← hf o, ho, hf]

theorem respects_request (p g : String) (type : RouterCommandType) (payload : Json) :
    Prog.Respects credentials.Differ (RouterIntegration.request p g type payload) :=
  .bind (respects_findOwned p g) fun _ => .bind (respects_enqueue _ _ _ _) fun _ => .pure _

theorem respects_getFeatures (p g : String) :
    Prog.Respects credentials.Differ (RouterIntegration.getFeatures p g) := by
  refine .bind (respects_findOwned p g) fun _ => respects_router g (fun o => ?_) fun o => ?_
  · rcases o with _ | r
    · rfl
    · have hsame : (credentials.hide r).pluginId = r.pluginId := rfl
      by_cases hplugin : (truthy r.pluginId).isSome = true
      · simp only [Option.map_some, Option.filter_some, hsame, if_pos hplugin]
        rfl
      · simp only [Option.map_some, Option.filter_some, hsame, if_neg hplugin]
  · split
    · exact .pure _
    · exact .pure _

theorem respects_setup (encryption : OAuth.EncryptionService) (p g : String)
    (dto : RouterIntegration.RouterSetupDto) :
    Prog.Respects credentials.Differ (RouterIntegration.setup encryption p g dto) := by
  refine .bind (respects_findOwned p g) fun _ => .bind ?_ fun encrypted => ?_
  · exact .bind (.orThrow _ _) fun _ => .bind respects_randomUUID fun _ => .pure _
  · refine Prog.RespectsTo.bind (g := credentials.hide) ?_ (fun _ _ _ => rfl) fun _ => ?_
    · exact respectsTo_upsert (fun _ => by rfl) (fun _ _ => by rfl) (fun _ => by rfl)
        (fun _ => by rfl) (fun _ => by rfl) fun _ _ _ _ _ => Iff.rfl
    exact .bind (respects_enqueue _ _ _ _) fun _ => .pure _

theorem respects_getDiagnostics (p g : String) :
    Prog.Respects credentials.Differ (RouterIntegration.getDiagnostics p g) := by
  refine .bind (respects_findOwned p g) fun _ => respects_router g (fun o => ?_) fun o => ?_
  · cases o <;> rfl
  · exact .bind (.bind (respects_findManyBy apart_routerCommand _ _) fun _ => .pure _)
      fun _ => .pure _

theorem respects_log (data : Audit.Entry) : Prog.Respects credentials.Differ (Audit.log data) :=
  .bind (respects_create apart_auditLog _) fun _ => .pure _

theorem respects_endGamingSession (p g d : String) :
    Prog.Respects credentials.Differ (SmartBlock.endGamingSession p g d) := by
  refine .bind (respects_findUnique apart_gateway g) fun _ => .bind (.orThrow _ _) fun _ =>
    .bind (.require _ _) fun _ => respects_router g (fun o => ?_) fun o => ?_
  · cases o <;> rfl
  · dsimp only
    split_ifs
    · exact .bind (respects_log _) fun _ => .pure _
    · exact .bind (respects_log _) fun _ => .pure _
    · exact .bind (respects_enqueue _ _ _ _) fun _ => .bind (respects_log _) fun _ => .pure _

theorem respects_listGateways (p : String) :
    Prog.Respects credentials.Differ (Gateways.listGateways p) := by
  refine .bind (respects_findManyBy apart_gateway _ _) fun gateways =>
    .bind respects_newDate fun _ =>
    .bind respects_newDate fun _ => .foldEach gateways [] fun cards g _ => .bind ?_ fun _ => .pure _
  refine .bind (respects_findMany apart_device _) fun devices => respects_router g.id (fun o => ?_)
    fun o => .bind (respects_query fun _ _ _ _ _ => rfl) fun _ => .bind ?_ fun _ => .pure _
  · cases o <;> rfl
  · unfold Gateways.countDoh
    split_ifs
    · exact .pure _
    · exact respects_query fun _ _ _ _ _ => rfl

theorem respects_getPendingCommands (g : String) :
    Prog.Respects credentials.Differ (RouterCommands.getPendingCommands g) := by
  refine .bind (respects_findManyBy apart_routerCommand _ _) fun pending => ?_
  split_ifs
  · exact .pure _
  · exact .bind respects_newDate fun _ => .bind (respects_updateMany apart_routerCommand _ _ _)
      fun _ => .pure _

theorem respects_acknowledgeCommand (g c : String) (success : Bool) (data : Option Json) :
    Prog.Respects credentials.Differ (RouterCommands.acknowledgeCommand g c success data) :=
  .bind (respects_findUnique apart_routerCommand c) fun _ => .bind (.orThrow _ _) fun _ =>
    .bind (.require _ _) fun _ => .bind respects_newDate fun _ =>
      respects_update apart_routerCommand _ _ _

end Respects

/-! ### Operations that return a row -/

/-- A detected router with these credentials. -/
def router (g : String) (creds : Option String) : DetectedRouter :=
  ⟨"router", g, none, none, none, none, .undetected, none, none, none, none, none, creds,
    none, none,
    none, 0, 0⟩

/-- The gateway of a parent with its router. -/
def world (p g : String) (creds : Option String) : World :=
  .fresh { Database.empty with
    gateways := ⟨[Household.gateway g p], Household.nodup_gateway g p⟩
    detectedRouters := ⟨[router g creds], by simp⟩ } 0

theorem differ_world (p g : String) (creds creds' : Option String) :
    credentials.Differ (world p g creds) (world p g creds') :=
  ⟨(world p g creds).db, ⟨[router g creds], by simp⟩, ⟨[router g creds'], by simp⟩, rfl, rfl, rfl⟩

theorem find_gateway (p g : String) (creds : Option String) :
    (Model.gateway.get (world p g creds).db).find g = some (Household.gateway g p) := by
  change Table.find ⟨[Household.gateway g p], _⟩ g = _
  simp [Table.find, Household.gateway]

theorem find_router (p g : String) (creds : Option String) :
    (Model.detectedRouter.get (world p g creds).db).rows.find? (fun r => decide (r.gatewayId = g)) =
      some (router g creds) := by
  change List.find? _ [router g creds] = _
  simp [router]

theorem run_getDetectedRouter (p g : String) (creds : Option String) :
    ((RouterIntegration.getDetectedRouter p g).run (world p g creds)).1 =
      .ok (some (router g creds)) := by
  rw [RouterIntegration.getDetectedRouter, Gateways.findOwned, Gateways.findGateway]
  simp only [Prog.run_bind, run_findUnique, find_gateway, Prog.run_orThrow_some, Prog.run_require,
    Household.gateway, if_true, Prog.run_pure, RouterIntegration.findRouter, run_findUniqueBy,
    afterCall_db, find_router]

theorem run_recordDetection (p g : String) (report : RouterDetection.RouterDetectionReport)
    (creds : Option String) :
    ∃ r, ((RouterDetection.recordDetection g report).run (world p g creds)).1 = .ok r ∧
      r.adminCredentialsEncrypted = creds := by
  rw [RouterDetection.recordDetection]
  simp only [Prog.run_bind, run_findUnique, find_gateway, Prog.run_orThrow_some, newDate,
    Prog.run_read]
  have hfind : (Model.detectedRouter.get (World.afterCall (world p g creds)
      (world p g creds).db).db).rows.find? (fun r => decide (r.gatewayId = g)) =
        some (router g creds) := find_router p g creds
  refine ⟨_, congrArg Prod.fst (run_upsert_found hfind rfl rfl), rfl⟩

/-- **The operations that return a row disclose it.** -/
theorem not_hidden_of_discloses (env : Env) (encryption : OAuth.EncryptionService) {op : Operation}
    (h : Discloses op) : ¬ Hidden env encryption op := by
  intro hidden
  cases op with
  | getDetectedRouter p g =>
    have hsame := hidden _ _ (differ_world p g none (some "")) id
    simp only [prog] at hsame
    rw [Prog.run_answer (run_getDetectedRouter p g none),
      Prog.run_answer (run_getDetectedRouter p g (some ""))]
      at hsame
    cases hsame
  | recordDetection g report =>
    have hsame := hidden _ _ (differ_world "" g none (some "")) id
    obtain ⟨r, hr, hcreds⟩ := run_recordDetection "" g report none
    obtain ⟨r', hr', hcreds'⟩ := run_recordDetection "" g report (some "")
    simp only [prog] at hsame
    rw [Prog.run_answer hr, Prog.run_answer hr'] at hsame
    cases hsame
    rw [hcreds] at hcreds'
    cases hcreds'
  | _ => exact h

theorem hidden_of_respects {env : Env} {encryption : OAuth.EncryptionService} {op : Operation}
    (h : Prog.Respects credentials.Differ (prog env encryption op)) : Hidden env encryption op :=
  fun w w' hdiffer _ => (h w w' hdiffer).1

/-- A gateway's connection shows its own router only. -/
theorem hidden_getRouterConnectionInfo (env : Env) (encryption : OAuth.EncryptionService)
    (g : String) : Hidden env encryption (.getRouterConnectionInfo g) := by
  intro w w' _ hgranted
  have hrouter : routerOf g w = routerOf g w' := not_not.mp hgranted
  have hrun : ∀ w, ((prog env encryption (.getRouterConnectionInfo g)).run w).1 =
      .ok (.connection ((routerOf g w).map fun r =>
        { pluginId := r.pluginId, ipAddress := r.ipAddress, hostname := r.hostname,
          credentials := (r.adminCredentialsEncrypted.filter (· ≠ "")).bind env.decryptJson })) :=
    fun _ => rfl
  rw [hrun, hrun, hrouter]

/-- **What shows router credentials.** The answer of an operation on routers and gateways is the
same in worlds that differ only in the stored credentials, the connection of a gateway to its own
router apart, exactly when the operation returns no whole row. -/
theorem credentials_hidden_iff (env : Env) (encryption : OAuth.EncryptionService) (op : Operation) :
    Hidden env encryption op ↔ ¬ Discloses op := by
  refine ⟨fun h hd => not_hidden_of_discloses env encryption hd h, fun h => ?_⟩
  cases op with
  | getFeatures p g => exact hidden_of_respects (.bind (respects_getFeatures p g) fun _ => .pure _)
  | setup p g dto =>
    exact hidden_of_respects (.bind (respects_setup encryption p g dto) fun _ => .pure _)
  | testConnection p g =>
    exact hidden_of_respects (.bind (respects_request _ _ _ _) fun _ => .pure _)
  | triggerDetection p g =>
    exact hidden_of_respects (.bind (respects_request _ _ _ _) fun _ => .pure _)
  | getDiagnostics p g =>
    exact hidden_of_respects (.bind (respects_getDiagnostics p g) fun _ => .pure _)
  | changeDns p g dns =>
    exact hidden_of_respects (.bind (respects_request _ _ _ _) fun _ => .pure _)
  | blockMac p g mac => exact hidden_of_respects (.bind (respects_request _ _ _ _) fun _ => .pure _)
  | unblockMac p g mac =>
    exact hidden_of_respects (.bind (respects_request _ _ _ _) fun _ => .pure _)
  | endGamingSession p g d =>
    exact hidden_of_respects (.bind (respects_endGamingSession p g d) fun _ => .pure _)
  | getDetectedRouter p g => exact absurd trivial h
  | listGateways p => exact hidden_of_respects (.bind (respects_listGateways p) fun _ => .pure _)
  | recordDetection g report => exact absurd trivial h
  | getPendingCommands g =>
    exact hidden_of_respects (.bind (respects_getPendingCommands g) fun _ => .pure _)
  | acknowledgeCommand g c success data =>
    exact hidden_of_respects (.bind (respects_acknowledgeCommand g c success data) fun _ => .pure _)
  | getRouterConnectionInfo g => exact hidden_getRouterConnectionInfo env encryption g

/-- A cipher that keeps its texts readable. -/
def readable : OAuth.EncryptionService where
  cipher _ text := text
  decrypt c := .ok c
  decrypt_cipher _ _ := rfl

/-- The owner of a gateway gets the row of its router, with the stored credentials. -/
theorem credentials_returned : ¬ ∀ (w w' : World), credentials.Differ w w' →
    ((prog Env.plain readable (.getDetectedRouter "amal" "ga")).run w).1 =
      ((prog Env.plain readable (.getDetectedRouter "amal" "ga")).run w').1 := by
  intro h
  exact @not_hidden_of_discloses Env.plain readable (.getDetectedRouter "amal" "ga") trivial
    fun w w' hdiffer _ => h w w' hdiffer

end GuardTime.Secrets.Credentials
