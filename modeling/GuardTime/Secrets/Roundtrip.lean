import Mathlib.Tactic
import GuardTime.Calls
import GuardTime.Lib.Assure
import GuardTime.Lib.Faults
import GuardTime.Secrets.Credentials
import GuardTime.Services.Encryption
import GuardTime.Services.Parents
import GuardTime.System.Run

/-! # Credentials on their way to the gateway

What a parent enters in `setup` is written as JSON, encrypted, stored in the row of the router, read
by the gateway's agent, decrypted and parsed. The agent gets what the owner has entered, however
calls run side by side (`credentials_delivered`): reports leave the column alone, and no other
parent's call gets past the owner check. Only the owner can end this, with the gateway or with the
account. -/

namespace GuardTime.Secrets.Roundtrip

open GuardTime.Lib.Program GuardTime.Lib.Interleave GuardTime.Lib.Faults GuardTime.Lib.Keyed
open GuardTime.Lib.Js
open GuardTime.Schema GuardTime.Server GuardTime.Prisma GuardTime.Services
open GuardTime.Services.Encryption GuardTime.Services.RouterIntegration
open GuardTime.Services.Gateways (GuardRequest Endpoint)
open GuardTime.Secrets.Credentials (Operation Answer prog)

/-- A call that has to do with gateways: an operation on routers, a request of an agent, or what
parents do with gateways and accounts. -/
inductive Action where
  | router (op : Operation)
  | agent (request : GuardRequest) (endpoint : Endpoint)
  | register (parentId name : String) (endpoint : Option String) (type : GatewayType)
      (description : Option String)
  | rename (parentId gatewayId : String) (name description : Patch String)
  | pair (gatewayId parentId : String)
  | rotateToken (parentId gatewayId : String) (gracePeriodMs : ℤ)
  | deleteGateway (parentId gatewayId : String)
  | deleteAccount (userId : String)

/-- What the server does. -/
def act (env : Env) (encryption : OAuth.EncryptionService) : Action → Api Unit
  | .router op => System.Run.discard (prog env encryption op)
  | .agent request e => System.Run.handle env (.gateway request e)
  | .register p name endpoint type description =>
    System.Run.handle env (.registerGateway p name endpoint type description)
  | .rename p g name description => System.Run.handle env (.renameGateway p g name description)
  | .pair g p => System.Run.handle env (.pairGateway g p)
  | .rotateToken p g grace => System.Run.handle env (.rotateToken p g grace)
  | .deleteGateway p g => System.Run.handle env (.deleteGateway p g)
  | .deleteAccount p => Parents.deleteAccount p

/-- The parent gives up the gateway. -/
def GivesUp (p g : String) : Action → Prop
  | .deleteGateway q k => q = p ∧ k = g
  | .deleteAccount q => q = p
  | _ => False

/-- The credentials of a form, as `setup` writes them. -/
def credentialsOf (dto : RouterSetupDto) : Json := object
  [("username", dto.username.map strOrNull), ("password", dto.password.map strOrNull),
   ("apiKey", dto.apiKey.map strOrNull)]

/-- The row of the gateway. -/
def routerOf (g : String) (db : Database) : Option DetectedRouter :=
  db.detectedRouters.rows.find? fun r => r.gatewayId = g

/-- The column holds the credentials of one of the forms. -/
def Sealed (cipher : Cipher) (forms : RouterSetupDto → Prop) (column : Option String) : Prop :=
  ∃ u dto, forms dto ∧ column = some (encrypt cipher u (stringify (credentialsOf dto)))

/-- The parent owns the gateway, and its router has credentials of one of the forms. -/
structure Entered (cipher : Cipher) (p g : String) (forms : RouterSetupDto → Prop) (db : Database) :
    Prop where
  owner : ∃ k, db.gateways.find g = some k ∧ k.parentId = p
  router : ∃ r, routerOf g db = some r ∧ Sealed cipher forms r.adminCredentialsEncrypted

/-- A call that leaves gateways and routers alone. -/
def Same (w w' : World) : Prop :=
  w'.db.gateways = w.db.gateways ∧ w'.db.detectedRouters = w.db.detectedRouters

/-! ### Operations that leave the routers alone -/

section Same

theorem idle_same : Idle Same := fun _ => ⟨rfl, rfl⟩

theorem Same.refl (w : World) : Same w w := ⟨rfl, rfl⟩

theorem Same.trans {w w' w'' : World} (h : Same w w') (h' : Same w' w'') : Same w w'' :=
  ⟨h'.1.trans h.1, h'.2.trans h.2⟩

theorem same_newDate : Calls Same newDate := calls_newDate Same.refl

theorem same_query {α : Type} (f : Database → ℕ → α) : Calls Same (Prisma.query f) :=
  calls_query idle_same f

theorem same_randomUUID : Calls Same randomUUID := calls_randomUUID idle_same

theorem same_findOwned (p g : String) : Calls Same (Gateways.findOwned p g) :=
  .bind (.bind (same_query _) fun _ => .orThrow _ _) fun _ => .bind (.require _ _) fun _ => .pure _

theorem same_enqueue (g : String) (type : RouterCommandType) (payload : Option Json)
    (d : Option String) : Calls Same (RouterCommands.enqueueCommand g type payload d) :=
  Ignores.create (m := .routerCommand) idle_same (fun _ _ => ⟨rfl, rfl⟩) _

theorem same_request (p g : String) (type : RouterCommandType) (payload : Json) :
    Calls Same (RouterIntegration.request p g type payload) :=
  .bind (same_findOwned p g) fun _ => .bind (same_enqueue _ _ _ _) fun _ => .pure _

theorem same_log (data : Audit.Entry) : Calls Same (Audit.log data) :=
  .bind (Ignores.create (m := .auditLog) idle_same (fun _ _ => ⟨rfl, rfl⟩) _) fun _ => .pure _

theorem same_device (id : String) (f : Device → Device) (hf : ∀ d, (f d).id = d.id) :
    Calls Same (Prisma.update .device id f hf) :=
  Ignores.update idle_same (fun _ _ => ⟨rfl, rfl⟩) _ _ _

theorem same_findRouter (g : String) : Calls Same (findRouter g) := by
  unfold findRouter Prisma.findUniqueBy
  exact same_query _

theorem same_getFeatures (p g : String) : Calls Same (RouterIntegration.getFeatures p g) := by
  refine .bind (same_findOwned p g) fun _ => .bind (same_findRouter g) fun o => ?_
  split
  · exact .pure _
  · exact .pure _

theorem same_getDiagnostics (p g : String) : Calls Same (RouterIntegration.getDiagnostics p g) :=
  .bind (same_findOwned p g) fun _ => .bind (same_findRouter g) fun _ =>
    .bind (.bind (same_query _) fun _ => .pure _) fun _ => .pure _

theorem same_endGamingSession (p g d : String) :
    Calls Same (SmartBlock.endGamingSession p g d) := by
  refine .bind (same_query _) fun _ => .bind (.orThrow _ _) fun _ => .bind (.require _ _) fun _ =>
    .bind (same_query _) fun o => ?_
  dsimp only
  refine .ite ?_ ?_
  · exact .bind (same_log _) fun _ => .pure _
  · exact .bind (same_enqueue _ _ _ _) fun _ => .bind (same_log _) fun _ => .pure _

theorem same_listGateways (p : String) : Calls Same (Gateways.listGateways p) := by
  refine .bind (same_query _) fun gateways => .bind same_newDate fun _ =>
    .bind same_newDate fun _ =>
    .foldEach gateways [] fun cards g _ => .bind ?_ fun _ => .pure _
  refine .bind (same_query _) fun _ => .bind (same_query _) fun _ => .bind (same_query _) fun _ =>
    .bind ?_ fun _ => .pure _
  unfold Gateways.countDoh
  exact .ite (.pure _) (same_query _)

theorem same_getPendingCommands (g : String) :
    Calls Same (RouterCommands.getPendingCommands g) := by
  refine .bind (same_query _) fun pending => .ite (.pure _) ?_
  exact .bind same_newDate fun _ =>
    .bind (Ignores.updateMany (m := .routerCommand) (fun _ _ => ⟨rfl, rfl⟩) _ _ _) fun _ => .pure _

theorem same_acknowledgeCommand (g c : String) (success : Bool) (data : Option Json) :
    Calls Same (RouterCommands.acknowledgeCommand g c success data) :=
  .bind (same_query _) fun _ => .bind (.orThrow _ _) fun _ => .bind (.require _ _) fun _ =>
    .bind same_newDate fun _ =>
      Ignores.update (m := .routerCommand) idle_same (fun _ _ => ⟨rfl, rfl⟩) _ _ _

theorem same_setStatus (g mac : String) (s : DeviceStatus) :
    Calls Same (Gateways.setStatus g mac s) :=
  .bind (.bind (same_query _) fun _ => .orThrow _ _) fun _ => .bind (same_query _) fun _ =>
    .bind (.orThrow _ _) fun _ => .bind (same_device _ _ _) fun _ => .pure _

theorem same_findWithDevices (g : String) : Calls Same (Gateways.findWithDevices g) :=
  .bind (same_query _) fun _ => .orThrow _ _

theorem same_updateDiscovered (env : Env) (g : String) (n : ℕ) (d : Gateways.DiscoveredDevice) :
    Calls Same (Gateways.updateDiscovered env g n d) := by
  have hhostname : Calls Same (Gateways.findByHostname g d) := by
    unfold Gateways.findByHostname
    split
    · exact same_query _
    · exact .pure _
  have hfind : Calls Same (Gateways.findDiscovered g (env.toLowerCase d.macAddress) d) := by
    refine .bind (same_query _) fun found => ?_
    rcases found with _ | device
    · exact hhostname
    · exact .pure _
  refine .bind hfind fun found => ?_
  rcases found with _ | device
  · exact .pure _
  · exact .bind same_newDate fun _ => .bind (same_device _ _ _) fun _ => .pure _

theorem same_validDetections (g : String) (ds : List Gateways.Detection) :
    Calls Same (Gateways.validDetections g ds) :=
  .bind (same_query _) fun _ => .pure _

theorem same_createLogs (mks : List (String → Time → VpnDetectionLog)) :
    Calls Same (Prisma.createMany .vpnDetectionLog mks) := by
  refine .call fun w => ?_
  have hsteady : Steady (Same w) := fun _ h => h
  have hfree : Free Model.vpnDetectionLog (Same w) := fun _ _ h => h
  exact hfree.createMany hsteady mks w (Same.refl w)

theorem same_recordVpnDetections (g : String) (ds : List Gateways.Detection) :
    Calls Same (Gateways.recordVpnDetections g ds) :=
  .ite (.pure _) (.bind (.bind (same_query _) fun _ => .orThrow _ _) fun _ =>
    .bind (same_validDetections g ds) fun _ => .bind (.ite (same_createLogs _) (.pure _)) fun _ =>
      .pure _)

theorem same_recordDohDetections (g : String) (ds : List Gateways.Detection) :
    Calls Same (Gateways.recordDohDetections g ds) :=
  .ite (.pure _) (.bind (.bind (same_query _) fun _ => .orThrow _ _) fun _ =>
    .bind (same_validDetections g ds) fun _ => .bind (.forEach _ fun _ _ => same_log _) fun _ =>
      .pure _)

theorem same_canActivate (env : Env) (request : GuardRequest) :
    Calls Same (Gateways.canActivate env request) := by
  have htoken : ∀ token, Calls Same (Gateways.findByToken token) := by
    intro token
    refine .bind (same_query _) fun found => ?_
    rcases found with _ | g
    · exact .bind same_newDate fun _ => .bind (same_query _) fun _ => .pure _
    · exact .pure _
  have hsignature : ∀ token, Calls Same (Gateways.verifySignature env request token) := by
    intro token
    unfold Gateways.verifySignature
    split
    · exact .bind same_newDate fun _ => .bind (.require _ _) fun _ => .require _ _
    · exact trivial
  exact .bind (.orThrow _ _) fun _ => .bind (htoken _) fun _ => .bind (.orThrow _ _) fun _ =>
    .bind (.ite (hsignature _) (.pure _)) fun _ => .pure _

end Same

/-! ### Operations that leave the owners alone -/

/-- The gateway stays its owner's, and routers stay as they are. -/
def Kept (g : String) (w w' : World) : Prop :=
  (∀ k, w.db.gateways.find g = some k →
    ∃ k', w'.db.gateways.find g = some k' ∧ k'.parentId = k.parentId) ∧
  w'.db.detectedRouters = w.db.detectedRouters

section Kept
variable {g : String}

theorem Same.to_kept {w w' : World} (h : Same w w') : Kept g w w' := by
  obtain ⟨hgateways, hrouters⟩ := h
  refine ⟨fun k hk => ⟨k, ?_, rfl⟩, hrouters⟩
  rw [hgateways]
  exact hk

theorem kept_same {α : Type} {c : Api α} (h : Calls Same c) : Calls (Kept g) c :=
  h.mono fun _ _ => Same.to_kept

theorem idle_kept : Idle (Kept g) := fun w => (idle_same w).to_kept

theorem kept_create {mk : String → Time → Gateway} :
    Calls (Kept g) (Prisma.create .gateway mk) := by
  refine calls_create idle_kept fun w t ht => ⟨fun k hk => ⟨k, ?_, rfl⟩, rfl⟩
  obtain ⟨hmem, rfl⟩ := Table.find_eq_some.mp hk
  refine Table.find_key ?_
  change k ∈ t.rows
  rw [(Table.insert_eq_some ht).2]
  exact List.mem_append_left _ hmem

theorem kept_update {id : String} {f : Gateway → Gateway} {hf : ∀ k, (f k).id = k.id}
    (hp : ∀ k, (f k).parentId = k.parentId) : Calls (Kept g) (Prisma.update .gateway id f hf) := by
  refine calls_update idle_kept fun w r hr => ⟨fun k hk => ?_, rfl⟩
  refine ⟨_, Model.find_patch_some hk hf, ?_⟩
  split_ifs
  · exact hp k
  · rfl

theorem kept_updateLastSeen (k : String) (v : Option String) :
    Calls (Kept g) (Gateways.updateLastSeen k v) :=
  .bind (kept_same same_newDate) fun _ => .bind (kept_update fun _ => rfl) fun _ => .pure _

theorem kept_getPolicies (env : Env) (k : String) (previous : Bool) (v : Option String) :
    Calls (Kept g) (Gateways.getPolicies env k previous v) := by
  refine .bind (kept_same (same_findWithDevices k)) fun _ =>
    .bind (.catchErr (kept_updateLastSeen k v) fun _ => .pure _) fun _ =>
      .bind (.ite (.pure _) (kept_same (same_query _))) fun _ =>
        .bind (kept_same same_newDate) fun _ => .pure _

theorem kept_updateDiscoveredDevices (env : Env) (k : String)
    (ds : List Gateways.DiscoveredDevice) :
    Calls (Kept g) (Gateways.updateDiscoveredDevices env k ds) :=
  .bind (kept_same (.bind (same_query _) fun _ => .orThrow _ _)) fun _ =>
    .bind (kept_same (.foldEach ds 0 fun n d _ => same_updateDiscovered env k n d)) fun _ =>
      .bind (.catchErr (kept_updateLastSeen k none) fun _ => .pure _) fun _ => .pure _

end Kept

/-! ### Writes to routers -/

section Entered
variable {cipher : Cipher} {p g : String} {forms : RouterSetupDto → Prop}

theorem Entered.of_kept {w w' : World} (h : Kept g w w') (hw : Entered cipher p g forms w.db) :
    Entered cipher p g forms w'.db := by
  obtain ⟨⟨k, hk, hp⟩, hrouter⟩ := hw
  obtain ⟨k', hk', hp'⟩ := h.1 k hk
  unfold routerOf at hrouter
  rw [← h.2] at hrouter
  exact ⟨⟨k', hk', hp'.trans hp⟩, hrouter⟩

theorem Entered.of_same {w w' : World} (h : Same w w') (hw : Entered cipher p g forms w.db) :
    Entered cipher p g forms w'.db := hw.of_kept h.to_kept

theorem assures_kept {α : Type} {c : Api α} (h : Calls (Kept g) c) :
    Assures (OnDb (Entered cipher p g forms)) (fun _ => True) c :=
  h.assures fun _ _ => Entered.of_kept

theorem assures_same {α : Type} {c : Api α} (h : Calls Same c) :
    Assures (OnDb (Entered cipher p g forms)) (fun _ => True) c := assures_kept (kept_same h)

theorem assures_discard {α : Type} {P : α → Prop} {c : Api α}
    (h : Assures (OnDb (Entered cipher p g forms)) P c) :
    Assures (OnDb (Entered cipher p g forms)) (fun _ => True) (System.Run.discard c) :=
  .bind h fun _ _ => .pure trivial

/-- An owner check lets only the owner of the gateway through. -/
theorem assures_findOwned (q k : String) :
    Assures (OnDb (Entered cipher p g forms)) (fun _ => k = g → q = p)
      (Gateways.findOwned q k) := by
  refine .bind (.bind
    (.call (fun _ hw => hw) (P := fun o => ∀ r, o = some r → k = g → r.parentId = p)
      fun w hw o ho r hr hkg => ?_) fun o ho => .mono (.orThrow o _) ho) fun r hr =>
      .bind (.require _ _)
      fun _ hq => .pure fun hkg => hq.symm.trans (hr hkg)
  obtain ⟨⟨k', hfind, howner⟩, -⟩ := hw
  subst hkg
  cases ho
  obtain rfl := Option.some.inj (hr.symm.trans hfind)
  exact howner

/-- The row of the gateway after a change of a row. -/
theorem routerOf_patch {f : DetectedRouter → DetectedRouter} {hf : ∀ r, (f r).id = r.id}
    {now : Time}
    {id : String} {db : Database} (hfg : ∀ r, (f r).gatewayId = r.gatewayId) :
    routerOf g (Model.detectedRouter.set db
      (Model.detectedRouter.patch db.detectedRouters now id f hf)) =
        (routerOf g db).map fun r => if r.id = id then Model.detectedRouter.touch now (f r)
          else r := by
  have hfind := @Table.find?_modify _ _ _ db.detectedRouters (fun r => decide (r.id = id))
    (fun r => decide (r.gatewayId = g)) (fun r => Model.detectedRouter.touch now (f r)) hf
    fun r => congrArg (fun x => decide (x = g)) (hfg r)
  simp only [decide_eq_true_eq] at hfind
  exact hfind

/-- A row is updated or made, and what it has as credentials is fit for its gateway. -/
theorem assures_upsert {k : String} {f : DetectedRouter → DetectedRouter}
    {mk : String → Time → DetectedRouter} {hf : ∀ r, (f r).id = r.id}
    (hfg : ∀ r, (f r).gatewayId = r.gatewayId)
    (hcreds : k = g → ∀ r, Sealed cipher forms r.adminCredentialsEncrypted →
      Sealed cipher forms (f r).adminCredentialsEncrypted) :
    Assures (OnDb (Entered cipher p g forms)) (fun _ => True)
      (Prisma.upsert .detectedRouter (fun r => r.gatewayId = k) f mk hf) := by
  refine .call (fun w hw => ?_) fun _ _ _ _ => trivial
  obtain ⟨howner, r, hr, hsealed⟩ := hw
  rcases run_upsert_cases .detectedRouter (fun r => r.gatewayId = k) f mk hf w with
    ⟨e, hrun⟩ | ⟨r', hr', hrun⟩ | ⟨t, hnone, ht, hrun⟩ <;>
    change OnDb _ ((Prisma.upsert .detectedRouter (fun r => r.gatewayId = k) f mk hf).run w).2 <;>
    rw [hrun]
  · exact ⟨howner, r, hr, hsealed⟩
  · refine ⟨howner, _, (routerOf_patch hfg).trans (congrArg _ hr), ?_⟩
    dsimp only
    split_ifs with hid
    · obtain rfl := Table.eq_of_key (List.mem_of_find?_eq_some hr)
        (List.mem_of_find?_eq_some hr') hid
      have hg : r.gatewayId = g := of_decide_eq_true (List.find?_some hr :)
      have hk : r.gatewayId = k := of_decide_eq_true (List.find?_some hr' :)
      exact hcreds (hk.symm.trans hg) r hsealed
    · exact hsealed
  · refine ⟨howner, r, ?_, hsealed⟩
    change t.rows.find? (fun r => r.gatewayId = g) = some r
    have hr : (w.db.detectedRouters.rows.find? fun r => r.gatewayId = g) = some r := hr
    have hrows : t.rows = w.db.detectedRouters.rows ++ _ := (Table.insert_eq_some ht).2
    rw [hrows, List.find?_append, hr]
    rfl

theorem assures_encrypt (text : String) :
    Assures (OnDb (Entered cipher p g forms)) (fun s => ∃ u, s = encrypt cipher u text)
      (OAuth.encrypt (service cipher) (some text)) := by
  refine .bind (.orThrow _ _) fun text' htext => .bind (Q := fun s => ∃ u,
    s = encrypt cipher u text)
    (P := fun _ => True) (.call (fun _ hw => hw) fun _ _ _ _ => trivial) fun u _ => .pure ⟨u, ?_⟩
  obtain rfl := Option.some.inj htext
  rfl

theorem assures_setup (q k : String) (dto : RouterSetupDto) (h : k = g → q = p → forms dto) :
    Assures (OnDb (Entered cipher p g forms)) (fun _ => True)
      (RouterIntegration.setup (service cipher) q k dto) := by
  refine .bind (assures_findOwned q k) fun _ howner => .bind (assures_encrypt _) fun s hs =>
    .bind (assures_upsert (fun _ => rfl) fun hkg _ _ => ?_) fun _ _ =>
      .bind (assures_same (same_enqueue _ _ _ _)) fun _ _ => .pure trivial
  obtain ⟨u, rfl⟩ := hs
  exact ⟨u, dto, h hkg (howner hkg), rfl⟩

theorem assures_recordDetection (k : String) (report : RouterDetection.RouterDetectionReport) :
    Assures (OnDb (Entered cipher p g forms)) (fun _ => True)
      (RouterDetection.recordDetection k report) :=
  .bind (assures_same (same_query _)) fun _ _ => .bind (.weaken (.orThrow _ _)) fun _ _ =>
    .bind (assures_same same_newDate) fun _ _ =>
      assures_upsert (fun _ => rfl) fun _ _ h => h

/-- **What an operation assures.** Credentials of one of the forms stay so if the owner's own forms
are among them. -/
theorem assures_prog (env : Env) {op : Operation} (h : ∀ dto, op = .setup p g dto → forms dto) :
    Assures (OnDb (Entered cipher p g forms)) (fun _ => True) (prog env (service cipher) op) := by
  cases op with
  | getFeatures q k => exact .bind (assures_same (same_getFeatures q k)) fun _ _ => .pure trivial
  | setup q k dto =>
    refine .bind (assures_setup q k dto ?_) fun _ _ => .pure trivial
    rintro rfl rfl
    exact h dto rfl
  | testConnection q k => exact .bind (assures_same (same_request _ _ _ _)) fun _ _ => .pure trivial
  | triggerDetection q k =>
    exact .bind (assures_same (same_request _ _ _ _)) fun _ _ => .pure trivial
  | getDiagnostics q k =>
    exact .bind (assures_same (same_getDiagnostics q k)) fun _ _ => .pure trivial
  | changeDns q k dns => exact .bind (assures_same (same_request _ _ _ _)) fun _ _ => .pure trivial
  | blockMac q k mac => exact .bind (assures_same (same_request _ _ _ _)) fun _ _ => .pure trivial
  | unblockMac q k mac => exact .bind (assures_same (same_request _ _ _ _)) fun _ _ => .pure trivial
  | endGamingSession q k d =>
    exact .bind (assures_same (same_endGamingSession q k d)) fun _ _ => .pure trivial
  | getDetectedRouter q k =>
    exact .bind (assures_same (.bind (same_findOwned q k) fun _ => same_findRouter k))
      fun _ _ => .pure trivial
  | listGateways q => exact .bind (assures_same (same_listGateways q)) fun _ _ => .pure trivial
  | recordDetection k report =>
    exact .bind (assures_recordDetection k report) fun _ _ => .pure trivial
  | getPendingCommands k =>
    exact .bind (assures_same (same_getPendingCommands k)) fun _ _ => .pure trivial
  | acknowledgeCommand k c success data =>
    exact .bind (assures_same (same_acknowledgeCommand k c success data)) fun _ _ => .pure trivial
  | getRouterConnectionInfo k =>
    exact .bind (assures_same (.bind (same_query _) fun _ => .pure _)) fun _ _ => .pure trivial

/-! ### Agents -/

/-- **What a request of an agent assures.** Only a report writes to routers, and it leaves the
credentials alone. -/
theorem assures_guarded (env : Env) (request : GuardRequest) (e : Endpoint) :
    Assures (OnDb (Entered cipher p g forms)) (fun _ => True) (Gateways.guarded env request e) := by
  refine .bind (assures_same (same_canActivate env request)) fun ⟨k, previous⟩ _ => ?_
  cases e with
  | devices o =>
    exact .bind (.weaken (.orThrow _ _)) fun _ _ =>
      .bind (assures_same (.bind (same_findWithDevices _) fun _ => .pure _)) fun _ _ =>
        .pure trivial
  | block o mac =>
    exact .bind (.weaken (.orThrow _ _)) fun _ _ =>
      .bind (assures_same (.bind (same_setStatus _ _ _) fun _ => .pure _)) fun _ _ => .pure trivial
  | unblock o mac =>
    exact .bind (.weaken (.orThrow _ _)) fun _ _ =>
      .bind (assures_same (.bind (same_setStatus _ _ _) fun _ => .pure _)) fun _ _ => .pure trivial
  | status o =>
    exact .bind (.weaken (.orThrow _ _)) fun _ _ =>
      .bind (assures_same (.bind (same_findWithDevices _) fun _ => .pure _)) fun _ _ =>
        .pure trivial
  | policies v =>
    exact .bind (assures_kept (kept_getPolicies env _ _ _)) fun _ _ => .pure trivial
  | discovery ds =>
    exact .bind (assures_kept (kept_updateDiscoveredDevices env _ _)) fun _ _ => .pure trivial
  | vpnDetections ds =>
    exact .bind (assures_same (same_recordVpnDetections _ _)) fun _ _ => .pure trivial
  | dohDetections ds =>
    exact .bind (assures_same (same_recordDohDetections _ _)) fun _ _ => .pure trivial
  | routerDetection r => exact .bind (assures_recordDetection _ _) fun _ _ => .pure trivial
  | pollRouterCommands =>
    exact .bind (assures_same (same_getPendingCommands _)) fun _ _ =>
      .bind (assures_same (.bind (same_query _) fun _ => .pure _)) fun _ _ => .pure trivial
  | ackRouterCommand id success data =>
    exact .bind (assures_same (same_acknowledgeCommand _ _ _ _)) fun _ _ => .pure trivial

/-! ### Owners -/

/-- A gateway is deleted with what is behind it, by its owner. -/
theorem assures_deleteGateway (q k : String) (h : ¬ (q = p ∧ k = g)) :
    Assures (OnDb (Entered cipher p g forms)) (fun _ => True) (Gateways.deleteGateway q k) := by
  refine .bind (assures_findOwned q k) fun _ howner => ?_
  have hne : k ≠ g := fun hkg => h ⟨howner hkg, hkg⟩
  refine .call (fun w hw => keeps_transaction ?_ w hw) fun _ _ _ _ => trivial
  have hdevices : Prog.Keeps (OnDb (Entered cipher p g forms)) (Prisma.updateMany .device
      (fun d => d.gatewayId = some k) (fun d => { d with gatewayId := none }) Model.ungated_id) :=
    keeps_updateMany fun _ => Entered.of_same ⟨rfl, rfl⟩
  have hrouters : Prog.Keeps (OnDb (Entered cipher p g forms))
      (Prisma.deleteMany .detectedRouter fun r => r.gatewayId = k) := by
    refine keeps_deleteMany fun w hw => ⟨hw.owner, ?_⟩
    obtain ⟨r, hr, hsealed⟩ := hw.router
    refine ⟨r, ?_, hsealed⟩
    change List.find? _ (List.filter _ _) = _
    rw [List.find?_filter]
    unfold routerOf at hr
    rw [← hr]
    congr 1
    funext r
    grind
  have hcommands : Prog.Keeps (OnDb (Entered cipher p g forms))
      (Prisma.deleteMany .routerCommand fun c => c.gatewayId = k) :=
    keeps_deleteMany fun _ => Entered.of_same ⟨rfl, rfl⟩
  have hlogs : Prog.Keeps (OnDb (Entered cipher p g forms))
      (Prisma.deleteMany .vpnDetectionLog fun l => l.gatewayId = k) :=
    keeps_deleteMany fun _ => Entered.of_same ⟨rfl, rfl⟩
  have hdelete : Prog.Keeps (OnDb (Entered cipher p g forms)) (Prisma.delete .gateway k) := by
    refine keeps_delete (steady_onDb _) fun w _ hw _ => ?_
    obtain ⟨⟨x, hx, hp⟩, hrouter⟩ := hw
    obtain ⟨hmem, rfl⟩ := Table.find_eq_some.mp hx
    refine ⟨⟨x, Table.find_key (Table.mem_erase.mpr ⟨hmem, decide_eq_false hne.symm⟩), hp⟩, hrouter⟩
  exact .bind (keeps_viaTx hdevices) fun _ => .bind (keeps_viaTx hrouters) fun _ =>
    .bind (keeps_viaTx hcommands) fun _ => .bind (keeps_viaTx hlogs) fun _ => keeps_viaTx hdelete

/-- The gateways of others go with their account. -/
theorem assures_deleteAccount (q : String) (h : q ≠ p) :
    Assures (OnDb (Entered cipher p g forms)) (fun _ => True) (Parents.deleteAccount q) := by
  have hfind : Assures (OnDb (Entered cipher p g forms)) (fun o => ∀ u, o = some u → u.id = q)
      (Prisma.findUnique .user q) :=
    .call (fun _ hw => hw) fun w _ o ho u hu => by
      cases ho
      exact Table.key_of_find hu
  refine .bind hfind fun o ho => .bind (.orThrow _ _) fun u hu => ?_
  have hid : u.id ≠ p := fun hp => h ((ho u hu).symm.trans hp)
  refine .call (fun w hw => keeps_transaction ?_ w hw) fun _ _ _ _ => trivial
  have hentry : Prog.Keeps (OnDb (Entered cipher p g forms))
      (Prisma.create .auditLog (Parents.deletionEntry u)) :=
    keeps_create (steady_onDb _) fun w _ hw _ _ => Entered.of_same (w := w) ⟨rfl, rfl⟩ hw
  have hdelete : Prog.Keeps (OnDb (Entered cipher p g forms)) (Prisma.delete .user u.id) := by
    refine keeps_delete (steady_onDb _) fun w _ hw _ => ?_
    obtain ⟨⟨k, hk, rfl⟩, hrouter⟩ := hw
    obtain ⟨hmem, rfl⟩ := Table.find_eq_some.mp hk
    exact ⟨⟨k, Table.find_key (Table.mem_erase.mpr ⟨hmem, decide_eq_false hid.symm⟩), rfl⟩, hrouter⟩
  exact .bind (keeps_viaTx hentry) fun _ => keeps_viaTx hdelete

/-- **What a call assures.** Credentials of one of the forms stay so if the owner's own forms are
among them, as long as the owner does not give the gateway up. -/
theorem assures_act (env : Env) {a : Action}
    (h : ∀ dto, a = .router (.setup p g dto) → forms dto) (hkept : ¬ GivesUp p g a) :
    Assures (OnDb (Entered cipher p g forms)) (fun _ => True) (act env (service cipher) a) := by
  cases a with
  | router op =>
    refine assures_discard (assures_prog env fun dto hdto => h dto ?_)
    rw [hdto]
  | agent request e => exact assures_discard (assures_guarded env request e)
  | register q name endpoint type description =>
    exact assures_discard (assures_kept (.bind (kept_same same_randomUUID) fun _ =>
      .bind (kept_same same_newDate) fun _ => kept_create))
  | rename q k name description =>
    exact assures_discard (assures_kept (.bind (kept_same (same_findOwned q k)) fun _ =>
      .bind (.require _ _) fun _ => kept_update fun _ => rfl))
  | pair k q =>
    exact assures_discard (assures_kept (.bind (kept_same (same_findOwned q k)) fun _ =>
      .bind (kept_same same_newDate) fun _ => kept_update fun _ => rfl))
  | rotateToken q k grace =>
    exact assures_discard (assures_kept (.bind (kept_same (same_findOwned q k)) fun _ =>
      .bind (kept_same same_randomUUID) fun _ => .bind (kept_same same_newDate) fun _ =>
        .bind (kept_update fun _ => rfl) fun _ => .bind (kept_same (same_log _)) fun _ => .pure _))
  | deleteGateway q k => exact assures_deleteGateway q k hkept
  | deleteAccount q => exact assures_deleteAccount q hkept

/-! ### What the agent is given -/

/-- The credentials of a form are read back from the row. -/
theorem connection_of_entered {env : Env} {w : World} (hw : Entered cipher p g forms w.db) :
    ∃ dto c, forms dto ∧
      ((RouterCommands.getRouterConnectionInfo (withCipher cipher env) g).run w).1 = .ok (some c) ∧
        c.credentials = some (credentialsOf dto) := by
  obtain ⟨-, r, hr, u, dto, hdto, hcreds⟩ := hw
  have hrun : ((RouterCommands.getRouterConnectionInfo (withCipher cipher env) g).run w).1 =
      .ok ((routerOf g w.db).map fun r =>
        { pluginId := r.pluginId, ipAddress := r.ipAddress, hostname := r.hostname,
          credentials := (r.adminCredentialsEncrypted.filter (· ≠ "")).bind
            (withCipher cipher env).decryptJson }) := rfl
  rw [hr] at hrun
  refine ⟨dto, _, hdto, hrun, ?_⟩
  dsimp only
  rw [hcreds, Option.filter_some_pos (by simpa using encrypt_ne_empty cipher u _), Option.bind_some,
    decryptJson_encrypt]

/-- The row that an upsert for the gateway leaves. -/
theorem entered_upsert {f : DetectedRouter → DetectedRouter} {mk : String → Time → DetectedRouter}
    {hf : ∀ r, (f r).id = r.id} {w w' : World} {row : DetectedRouter}
    (h : (Prisma.upsert .detectedRouter (fun r => r.gatewayId = g) f mk hf).run w = (.ok row, w'))
    (hfg : ∀ r, (f r).gatewayId = r.gatewayId) (hmkg : ∀ id now, (mk id now).gatewayId = g)
    (hfs : ∀ r, Sealed cipher forms (f r).adminCredentialsEncrypted)
    (hmks : ∀ id now, Sealed cipher forms (mk id now).adminCredentialsEncrypted)
    (howner : ∃ k, w.db.gateways.find g = some k ∧ k.parentId = p) :
    Entered cipher p g forms w'.db := by
  rcases run_upsert_cases .detectedRouter (fun r => r.gatewayId = g) f mk hf w with
    ⟨e, hrun⟩ | ⟨r, hr, hrun⟩ | ⟨t, hnone, ht, hrun⟩ <;> rw [hrun] at h <;> cases h
  · refine ⟨howner, _, (routerOf_patch hfg).trans (congrArg _ hr), ?_⟩
    dsimp only
    rw [if_pos rfl]
    exact hfs r
  · refine ⟨howner, mk (w.uuids w.calls 0) w.now, ?_, hmks _ _⟩
    change t.rows.find? (fun r => r.gatewayId = g) = _
    have hnone : (w.db.detectedRouters.rows.find? fun r => decide (r.gatewayId = g)) = none := hnone
    have hrows : t.rows = w.db.detectedRouters.rows ++ _ := (Table.insert_eq_some ht).2
    rw [hrows, List.find?_append, hnone, List.find?_cons_of_pos (by simp [hmkg])]
    rfl

theorem run_encrypt_ok {text s : String} {w w' : World}
    (h : (OAuth.encrypt (service cipher) (some text)).run w = (.ok s, w')) :
    (∃ u, s = encrypt cipher u text) ∧ w'.db = w.db := by
  cases h
  exact ⟨⟨_, rfl⟩, rfl⟩

/-- After a `setup` the credentials of its form are in the row. -/
theorem entered_setup {dto : RouterSetupDto} {w w₁ : World} {id : String}
    (h : (RouterIntegration.setup (service cipher) p g dto).run w = (.ok id, w₁)) :
    Entered cipher p g (· = dto) w₁.db := by
  obtain ⟨k, v₁, h1, ha⟩ := Prog.run_bind_ok.mp h
  obtain ⟨s, v₂, h2, hb⟩ := Prog.run_bind_ok.mp ha
  obtain ⟨row, v₃, h3, hc⟩ := Prog.run_bind_ok.mp hb
  obtain ⟨c, v₄, h4, hd⟩ := Prog.run_bind_ok.mp hc
  clear h ha hb hc
  obtain ⟨hk, howner, hv₁⟩ := Gateways.run_findOwned_ok h1
  obtain ⟨⟨u, rfl⟩, hv₂⟩ := run_encrypt_ok h2
  have hsealed : Sealed cipher (· = dto)
    (some (encrypt cipher u (stringify (credentialsOf dto)))) :=
    ⟨u, dto, rfl, rfl⟩
  rw [← hv₁, ← hv₂] at hk
  have hentered : Entered cipher p g (· = dto) v₃.db := entered_upsert h3 (fun _ => rfl)
    (fun _ _ => rfl) (fun _ => hsealed) (fun _ _ => hsealed) ⟨k, hk, howner⟩
  cases hd
  have hsame := Code.rel_run Same.refl Same.trans
    (same_enqueue g .testConnection (some (.obj [])) none) v₃
  rw [h4] at hsame
  exact hentered.of_same hsame

end Entered

/-- **Credentials on their way.** After a parent's `setup` for a gateway, in any interleaving of
calls on gateways and routers by any parents and agents, and of anything else that leaves these two
tables alone, the agent of the gateway that asks for its connection is given what that parent
entered, in this `setup` or in a later one, as long as the parent deletes neither the gateway nor
the account. -/
theorem credentials_delivered {cipher : Cipher} {env : Env} {p g id : String} {dto : RouterSetupDto}
    {w w₁ : World}
    (hsetup : (RouterIntegration.setup (service cipher) p g dto).run w = (.ok id, w₁))
    {moves : ℕ → Move Action World} {n : ℕ}
    (hkept : ∀ m < n, ∀ a, moves m = .start a → ¬ GivesUp p g a)
    (hother : ∀ m f, moves m = .other f → ∀ v, Same v (f v)) :
    ∃ dto' c, (dto' = dto ∨ ∃ m < n, moves m = .start (.router (.setup p g dto'))) ∧
      ((RouterCommands.getRouterConnectionInfo (withCipher cipher env) g).run
        ((Pool.idle w₁).after (fun _ => act (withCipher cipher env) (service cipher))
          moves n).state).1 = .ok (some c) ∧ c.credentials = some (credentialsOf dto') := by
  refine connection_of_entered (p := p) ?_
  let forms : RouterSetupDto → Prop := fun dto' =>
    dto' = dto ∨ ∃ m < n, moves m = .start (.router (.setup p g dto'))
  refine Pool.assured_until (P := fun _ _ => True) (I := OnDb (Entered cipher p g forms))
    (C := fun a => (∀ dto', a = .router (.setup p g dto') → forms dto') ∧ ¬ GivesUp p g a)
    (fun _ a ha => assures_act _ ha.1 ha.2) (fun m hm a ha => ⟨?_, hkept m hm a ha⟩)
    (fun m _ f hf v hv => hv.of_same (hother m f hf v)) ?_
  · intro dto' hdto
    rw [hdto] at ha
    exact .inr ⟨m, hm, ha⟩
  · obtain ⟨howner, r, hr, u, dto', hdto, hcreds⟩ := entered_setup hsetup
    exact ⟨howner, r, hr, u, dto', .inl hdto, hcreds⟩

/-- A parent confirms the router of a gateway. -/
def confirmation : RouterSetupDto :=
  { vendorPluginId := some "mikrotik", username := some "admin", password := some "secret" }

/-- The households with their gateways. -/
def homes : World := .fresh (Household.withDevices [] List.nodup_nil) 0

/-- The agent of the gateway. -/
def agentRequest : GuardRequest :=
  ⟨some "ga-token", none, none, "POST", "/gateway/router-detection", ""⟩

/-- Another parent sets the gateway up, tries to delete it and deletes the own account; the owner
rotates the token and renames the gateway, whose agent reports meanwhile. -/
def intrusion : List (Move Action World) :=
  [.start (.router (.setup "basma" "ga" { username := some "mallory" })), .call 0,
    .start (.agent agentRequest (.routerDetection { vendor := some "MikroTik" })), .call 1, .call 1,
    .start (.deleteGateway "basma" "ga"), .call 2, .start (.rotateToken "amal" "ga" 60000), .call 3,
    .call 3, .call 3, .call 1, .call 3, .start (.deleteAccount "basma"), .call 4, .call 1, .call 4,
    .call 3, .start (.rename "amal" "ga" (some (some "attic")) none), .call 5, .call 5]

theorem credentials_delivered_homes : ∃ dto' c, (dto' = confirmation ∨
      ∃ m < 21, schedule intrusion m = .start (.router (.setup "amal" "ga" dto'))) ∧
    ((RouterCommands.getRouterConnectionInfo (withCipher padding .plain) "ga").run
      ((Pool.idle ((RouterIntegration.setup (service padding) "amal" "ga" confirmation).run
        homes).2).after
        (fun _ => act (withCipher padding .plain) (service padding))
          (schedule intrusion) 21).state).1 =
          .ok (some c) ∧ c.credentials = some (credentialsOf dto') := by
  have hok : ((RouterIntegration.setup (service padding) "amal" "ga" confirmation).run
    homes).1.isOk =
      true := by decide +kernel
  rcases hr : (RouterIntegration.setup (service padding) "amal" "ga" confirmation).run homes with
    ⟨e | id, w₁⟩
  · rw [hr] at hok
    cases hok
  · refine credentials_delivered hr (fun m _ a ha => ?_)
      (forall_other_schedule (by simp [intrusion]))
    have hmem := mem_of_schedule_start ha
    simp only [intrusion, List.mem_cons, Move.start.injEq, List.not_mem_nil, reduceCtorEq,
      or_false, false_or] at hmem
    rcases hmem with rfl | rfl | rfl | rfl | rfl | rfl <;> simp [GivesUp]

end GuardTime.Secrets.Roundtrip
