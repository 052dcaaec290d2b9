import Mathlib.Tactic
import GuardTime.Lib.Runs
import GuardTime.Agents.Rotation

/-! # Leaked tokens

A party that knows a rotated-out token, and otherwise only what the answers to its own requests tell
it. One answer tells a token: that of the policies, to a request let through on the previous token.
Without such a request (`Unhealed`) the party's token is useless once its grace period is over
(`useless_after_grace`); one such request gives it the current token.

* `Event`, `step`: the party, other agents, the owner, and the rest of the server;
* `Spent`: the gateway no longer has the token, save as its previous one until the promised time. -/

namespace GuardTime.Agents.Leak

open GuardTime.Lib.Program GuardTime.Lib.Keyed GuardTime.Lib.Js GuardTime.Lib.Runs GuardTime.Schema
open GuardTime.Server GuardTime.Prisma GuardTime.Services GuardTime.Services.Gateways
open GuardTime.Agents.Rotation (rotated rotated_id run_rotateToken start plain)

/-! ### Runs -/

/-- What the owners of gateways may ask. -/
inductive Op where
  | register (parentId name : String) (endpoint : Option String) (gatewayType : GatewayType)
      (description : Option String)
  | rename (parentId gatewayId : String) (name description : Patch String)
  | pair (gatewayId parentId : String)
  | rotate (parentId gatewayId : String) (gracePeriodMs : ℤ)
  | delete (parentId gatewayId : String)

/-- The operation, without its answer: it goes to the owner. -/
def Op.prog : Op → Api Unit
  | .register p name endpoint type description => do
    let _ ← Gateways.register p name endpoint type description
    pure ()
  | .rename p id name description => do let _ ← renameGateway p id name description; pure ()
  | .pair id p => do let _ ← Gateways.pair id p; pure ()
  | .rotate p id grace => do let _ ← rotateToken p id grace; pure ()
  | .delete p id => deleteGateway p id

/-- Anything else on the server that leaves the gateways alone and takes no identifier back. The
deletion of an account is not among it: it removes the owner's gateways. -/
structure Elsewhere where
  apply : World → World
  gateways : ∀ w, (apply w).db.gateways = w.db.gateways
  uuids : ∀ w, (apply w).uuids = w.uuids
  calls : ∀ w, w.calls ≤ (apply w).calls

/-- What may happen next. -/
inductive Event where
  | party (time : Time) (request : GuardRequest) (endpoint : Endpoint)
  | agent (time : Time) (request : GuardRequest) (endpoint : Endpoint)
  | owner (time : Time) (op : Op)
  | other (f : Elsewhere)

/-- The server, and the tokens the party knows. -/
structure State where
  world : World
  known : List String

/-- The tokens an answer tells; no other answer has a token of a gateway in it. -/
def learned : Except Err Response → List String
  | .ok (.policies p) => p.rotatedToken.toList
  | _ => []

section Step
variable (env : Env)

/-- The next state. -/
def step (s : State) : Event → State
  | .party t request e =>
    let answer := (guarded env request e).run (s.world.atTime t)
    ⟨answer.2, s.known ++ learned answer.1⟩
  | .agent t request e => { s with world := ((guarded env request e).run (s.world.atTime t)).2 }
  | .owner t op => { s with world := (op.prog.run (s.world.atTime t)).2 }
  | .other f => { s with world := f.apply s.world }

/-- The party sends only tokens it knows. -/
def Able (s : State) : Event → Prop
  | .party _ request _ => ∀ token, request.token = some token → token ∈ s.known
  | _ => True

/-- The guard lets no request of the party for the policies through on a previous token. -/
def Unhealed (s : State) : Event → Prop
  | .party t request (.policies _) =>
    ∀ g w', (canActivate env request).run (s.world.atTime t) ≠ (.ok (g, true), w')
  | _ => True

/-- The guard lets the request act as the gateway. -/
def Accepts (gatewayId : String) (request : GuardRequest) (w : World) : Prop :=
  ∃ g used w', (canActivate env request).run w = (.ok (g, used), w') ∧ g.id = gatewayId

end Step

/-! ### The guard -/

section Guard
variable {env : Env} {request : GuardRequest} {w w' : World} {g : Gateway} {used : Bool}

theorem findByToken_ok {token : String}
    (h : (findByToken token).run w = (.ok (some (g, used)), w')) : g ∈ w.db.gateways.rows ∧
      if used then g.previousToken = some token ∧
        ∃ expires, g.previousTokenExpiresAt = some expires ∧ w.now < expires
      else g.token = token := by
  rw [findByToken, Prog.run_bind, run_findUniqueBy] at h
  rcases hf : (Model.gateway.get w.db).rows.find? (fun g' => g'.token = token) with _ | g₀ <;>
    rw [hf] at h
  · simp only [Prog.run_bind, run_newDate, run_findFirst, Prog.run_pure, Prod.mk.injEq,
      Except.ok.injEq, Option.map_eq_some_iff, afterCall_now, afterCall_db] at h
    obtain ⟨⟨g₁, hhead, hg⟩, -⟩ := h
    obtain ⟨rfl, rfl⟩ := hg
    have hmem := mem_matching.mp (List.mem_of_mem_head? hhead)
    simp only [Bool.and_eq_true, decide_eq_true_eq, Option.any_eq_true] at hmem
    obtain ⟨hrow, hprev, expires, hexp, hlt⟩ := hmem
    exact ⟨hrow, hprev, expires, hexp, hlt⟩
  · simp only [Prog.run_pure, Prod.mk.injEq, Except.ok.injEq, Option.some.injEq] at h
    obtain ⟨⟨rfl, rfl⟩, -⟩ := h
    exact ⟨List.mem_of_find?_eq_some hf, by simpa using List.find?_some hf⟩

/-- A request is let through on a token of the gateway: the current one, or the previous one within
its grace period. -/
theorem canActivate_ok (h : (canActivate env request).run w = (.ok (g, used), w')) :
    ∃ token, request.token = some token ∧ g ∈ w.db.gateways.rows ∧
      if used then g.previousToken = some token ∧
        ∃ expires, g.previousTokenExpiresAt = some expires ∧ w.now < expires
      else g.token = token := by
  unfold canActivate at h
  obtain ⟨token, w₁, htoken, h₁⟩ := Prog.run_bind_ok.mp h
  obtain ⟨htoken, hw₁⟩ := Prog.run_orThrow_ok.mp htoken
  obtain ⟨found, w₂, hfound, h₂⟩ := Prog.run_bind_ok.mp h₁
  obtain ⟨⟨g₀, used₀⟩, w₃, hthrow, h₃⟩ := Prog.run_bind_ok.mp h₂
  obtain ⟨hfilter, -⟩ := Prog.run_orThrow_ok.mp hthrow
  obtain ⟨-, w₄, -, h₄⟩ := Prog.run_bind_ok.mp h₃
  simp only [Prog.run_pure, Prod.mk.injEq, Except.ok.injEq] at h₄
  obtain ⟨⟨rfl, rfl⟩, -⟩ := h₄
  rw [hw₁, (Option.filter_eq_some_iff.mp hfilter).1] at hfound
  exact ⟨token, (Option.filter_eq_some_iff.mp htoken).1, findByToken_ok hfound⟩

end Guard

/-! ### Spent tokens -/

/-- The row does not hold the token, save as its previous one until `expires`. -/
def Outdated (token : String) (expires : Time) (g : Gateway) : Prop :=
  g.token ≠ token ∧ (g.previousToken = some token → g.previousTokenExpiresAt = some expires)

/-- The gateway's row, if any, is outdated. -/
def OutdatedAt (gatewayId token : String) (expires : Time) (db : Database) : Prop :=
  ∀ g ∈ db.gateways.rows, g.id = gatewayId → Outdated token expires g

/-- The identifiers still to come are not the token. -/
def Unissued (token : String) (w : World) : Prop := ∀ n, w.calls ≤ n → w.uuids n 0 ≠ token

/-- The gateway has no use for the token after `expires`, nor will it be issued again. -/
structure Spent (gatewayId token : String) (expires : Time) (w : World) : Prop where
  row : OutdatedAt gatewayId token expires w.db
  supply : Unissued token w

section Spent
variable {gatewayId token : String} {expires : Time}

theorem Unissued.mono {w w' : World} (h : Unissued token w) (huuids : w'.uuids = w.uuids)
    (hcalls : w.calls ≤ w'.calls) : Unissued token w' := by
  intro n hn
  rw [huuids]
  exact h n (hcalls.trans hn)

theorem steady_spent : Steady (Spent gatewayId token expires) :=
  fun _ h => ⟨h.row, h.supply.mono rfl (Nat.le_succ _)⟩

theorem Spent.mono {w w' : World} (h : Spent gatewayId token expires w)
    (hdb : w'.db.gateways = w.db.gateways) (huuids : w'.uuids = w.uuids)
    (hcalls : w.calls ≤ w'.calls) : Spent gatewayId token expires w' := by
  refine ⟨?_, h.supply.mono huuids hcalls⟩
  unfold OutdatedAt
  rw [hdb]
  exact h.row

theorem Spent.atTime {w : World} (h : Spent gatewayId token expires w) (t : Time) :
    Spent gatewayId token expires (w.atTime t) := ⟨h.row, h.supply⟩

theorem OutdatedAt.patch {db db' : Database} (h : OutdatedAt gatewayId token expires db)
    {now : Time} {id : String} {f : Gateway → Gateway} {hf : ∀ g, (f g).id = g.id}
    (hdb : db'.gateways = Model.gateway.patch db.gateways now id f hf)
    (hout : ∀ g ∈ db.gateways.rows, g.id = id → g.id = gatewayId → Outdated token expires (f g)) :
    OutdatedAt gatewayId token expires db' := by
  intro g hg hid
  rw [hdb, Model.mem_patch] at hg
  obtain ⟨g₀, hg₀, rfl⟩ := hg
  split_ifs at hid ⊢ with hk
  · exact hout g₀ hg₀ hk ((hf g₀).symm.trans hid)
  · exact h g₀ hg₀ hid

/-- An update of a gateway that leaves its tokens alone. -/
theorem keeps_gateway {id : String} {f : Gateway → Gateway} {hf : ∀ g, (f g).id = g.id}
    (h : ∀ g, Outdated token expires g → Outdated token expires (f g)) :
    Prog.Keeps (Spent gatewayId token expires) (Prisma.update .gateway id f hf) := by
  refine keeps_update steady_spent fun w g hw _ _ => ⟨?_, hw.supply.mono rfl (Nat.le_succ _)⟩
  have hdb : (World.afterCall w (Model.gateway.set w.db
      (Model.gateway.patch (Model.gateway.get w.db) w.now id f hf))).db.gateways =
      Model.gateway.patch w.db.gateways w.now id f hf := rfl
  exact hw.row.patch hdb fun g hg _ hid => h g (hw.row g hg hid)

theorem free_device : Free .device (Spent gatewayId token expires) := fun _ _ h => ⟨h.row, h.supply⟩

theorem free_auditLog : Free .auditLog (Spent gatewayId token expires) :=
  fun _ _ h => ⟨h.row, h.supply⟩

theorem free_vpnDetectionLog : Free .vpnDetectionLog (Spent gatewayId token expires) :=
  fun _ _ h => ⟨h.row, h.supply⟩

theorem free_detectedRouter : Free .detectedRouter (Spent gatewayId token expires) :=
  fun _ _ h => ⟨h.row, h.supply⟩

theorem free_routerCommand : Free .routerCommand (Spent gatewayId token expires) :=
  fun _ _ h => ⟨h.row, h.supply⟩

end Spent

/-! ### Requests behind the guard -/

section Guarded
variable {gatewayId token : String} {expires : Time}

theorem keeps_canActivate (env : Env) (request : GuardRequest) :
    Prog.Keeps (Spent gatewayId token expires) (canActivate env request) := by
  have hfind : ∀ t, Prog.Keeps (Spent gatewayId token expires) (findByToken t) := by
    intro t
    refine .bind (keeps_query steady_spent _) fun found => ?_
    rcases found with _ | g
    · exact .bind keeps_newDate fun _ => .bind (keeps_query steady_spent _) fun _ => .pure _
    · exact .pure _
  have hverify : ∀ t,
      Prog.Keeps (Spent gatewayId token expires) (verifySignature env request t) := by
    intro t
    unfold verifySignature
    split
    · exact .bind keeps_newDate fun _ => .bind (.require _ _) fun _ => .require _ _
    · exact .throw _
  exact .bind (.orThrow _ _) fun t => (hfind t).bind fun found => .bind (.orThrow _ _) fun _ =>
    .bind (.when fun _ => hverify _) fun _ => .pure _

theorem keeps_findGateway (id : String) :
    Prog.Keeps (Spent gatewayId token expires) (findGateway id) :=
  .bind (keeps_query steady_spent _) fun _ => .orThrow _ _

theorem keeps_findWithDevices (id : String) :
    Prog.Keeps (Spent gatewayId token expires) (findWithDevices id) :=
  .bind (keeps_query steady_spent _) fun _ => .orThrow _ _

theorem keeps_updateLastSeen (id : String) (version : Option String) :
    Prog.Keeps (Spent gatewayId token expires) (updateLastSeen id version) :=
  .bind keeps_newDate fun _ => .bind (keeps_gateway fun _ h => h) fun _ => .pure _

theorem keeps_setStatus (id mac : String) (status : DeviceStatus) :
    Prog.Keeps (Spent gatewayId token expires) (setStatus id mac status) :=
  (keeps_findGateway id).bind fun _ => .bind (keeps_query steady_spent _) fun _ =>
    .bind (.orThrow _ _) fun _ => .bind (free_device.update steady_spent _ _ _) fun _ => .pure _

theorem keeps_getPolicies (env : Env) (id : String) (used : Bool) (version : Option String) :
    Prog.Keeps (Spent gatewayId token expires) (getPolicies env id used version) :=
  (keeps_findWithDevices id).bind fun _ =>
    (keeps_ignoreErrors (keeps_updateLastSeen id version)).bind fun _ =>
      .bind (.ite (fun _ => .pure _) fun _ => keeps_query steady_spent _) fun _ =>
        .bind keeps_newDate fun _ => .pure _

theorem keeps_updateDiscovered (env : Env) (id : String) (n : ℕ) (d : DiscoveredDevice) :
    Prog.Keeps (Spent gatewayId token expires) (updateDiscovered env id n d) := by
  have hhost : Prog.Keeps (Spent gatewayId token expires) (findByHostname id d) := by
    unfold findByHostname
    split
    · exact keeps_query steady_spent _
    · exact .pure _
  have hfind : ∀ mac, Prog.Keeps (Spent gatewayId token expires) (findDiscovered id mac d) := by
    intro mac
    refine .bind (keeps_query steady_spent _) fun found => ?_
    rcases found with _ | device
    · exact hhost
    · exact .pure _
  refine (hfind _).bind fun found => ?_
  rcases found with _ | device
  · exact .pure _
  · exact .bind keeps_newDate fun _ =>
      .bind (free_device.update steady_spent _ _ _) fun _ => .pure _

theorem keeps_updateDiscoveredDevices (env : Env) (id : String) (ds : List DiscoveredDevice) :
    Prog.Keeps (Spent gatewayId token expires) (updateDiscoveredDevices env id ds) :=
  (keeps_findGateway id).bind fun _ =>
    (Prog.Keeps.foldEach ds 0 fun n d _ => keeps_updateDiscovered env id n d).bind fun _ =>
      (keeps_ignoreErrors (keeps_updateLastSeen id none)).bind fun _ => .pure _

theorem keeps_recordVpnDetections (id : String) (ds : List Detection) :
    Prog.Keeps (Spent gatewayId token expires) (recordVpnDetections id ds) :=
  .ite (fun _ => .pure _) fun _ => (keeps_findGateway id).bind fun _ =>
    .bind (.bind (keeps_query steady_spent _) fun _ => .pure _) fun _ =>
      .bind (.when fun _ => free_vpnDetectionLog.createMany steady_spent _) fun _ => .pure _

theorem keeps_recordDohDetections (id : String) (ds : List Detection) :
    Prog.Keeps (Spent gatewayId token expires) (recordDohDetections id ds) :=
  .ite (fun _ => .pure _) fun _ => (keeps_findGateway id).bind fun _ =>
    .bind (.bind (keeps_query steady_spent _) fun _ => .pure _) fun _ =>
      .bind (.forEach _ fun _ _ =>
        (free_auditLog.create steady_spent _).bind fun _ => .pure _) fun _ => .pure _

theorem keeps_recordDetection (id : String) (r : RouterDetection.RouterDetectionReport) :
    Prog.Keeps (Spent gatewayId token expires) (RouterDetection.recordDetection id r) :=
  .bind (keeps_query steady_spent _) fun _ => .bind (.orThrow _ _) fun _ => .bind keeps_newDate
    fun _ => free_detectedRouter.upsert steady_spent _ _ _ _

theorem keeps_getPendingCommands (id : String) :
    Prog.Keeps (Spent gatewayId token expires) (RouterCommands.getPendingCommands id) :=
  .bind (keeps_query steady_spent _) fun _ => .ite (fun _ => .pure _) fun _ =>
    .bind keeps_newDate fun _ => (free_routerCommand.updateMany steady_spent _ _ _).bind fun _ =>
      .pure _

theorem keeps_acknowledgeCommand (id commandId : String) (success : Bool) (data : Option Json) :
    Prog.Keeps (Spent gatewayId token expires)
      (RouterCommands.acknowledgeCommand id commandId success data) :=
  .bind (keeps_query steady_spent _) fun _ => .bind (.orThrow _ _) fun _ => .bind (.require _ _)
    fun _ => .bind keeps_newDate fun _ => free_routerCommand.update steady_spent _ _ _

/-- No request behind the guard brings the token back. -/
theorem keeps_guarded (env : Env) (request : GuardRequest) (e : Endpoint) :
    Prog.Keeps (Spent gatewayId token expires) (guarded env request e) := by
  refine (keeps_canActivate env request).bind fun ⟨g, used⟩ => ?_
  cases e with
  | devices id =>
    exact .bind (.orThrow _ _) fun id =>
      (Prog.Keeps.bind (keeps_findWithDevices id) fun _ => .pure _).bind fun _ => .pure _
  | block id mac =>
    exact .bind (.orThrow _ _) fun id =>
      (Prog.Keeps.bind (keeps_setStatus id mac _) fun _ => .pure _).bind fun _ => .pure _
  | unblock id mac =>
    exact .bind (.orThrow _ _) fun id =>
      (Prog.Keeps.bind (keeps_setStatus id mac _) fun _ => .pure _).bind fun _ => .pure _
  | status id =>
    exact .bind (.orThrow _ _) fun id =>
      (Prog.Keeps.bind (keeps_findWithDevices id) fun _ => .pure _).bind fun _ => .pure _
  | policies version => exact (keeps_getPolicies env g.id used version).bind fun _ => .pure _
  | discovery ds => exact (keeps_updateDiscoveredDevices env g.id ds).bind fun _ => .pure _
  | vpnDetections ds => exact (keeps_recordVpnDetections g.id ds).bind fun _ => .pure _
  | dohDetections ds => exact (keeps_recordDohDetections g.id ds).bind fun _ => .pure _
  | routerDetection r => exact (keeps_recordDetection g.id r).bind fun _ => .pure _
  | pollRouterCommands =>
    exact (keeps_getPendingCommands g.id).bind fun _ =>
      .bind (.bind (keeps_query steady_spent _) fun _ => .pure _) fun _ => .pure _
  | ackRouterCommand c success data =>
    exact (keeps_acknowledgeCommand g.id c success data).bind fun _ => .pure _

end Guarded

/-! ### Owners -/

section Owner
variable {gatewayId token : String} {expires : Time}

theorem keeps_findOwned (parentId id : String) :
    Prog.Keeps (Spent gatewayId token expires) (Gateways.findOwned parentId id) :=
  (keeps_findGateway id).bind fun _ => .bind (.require _ _) fun _ => .pure _

/-- A new gateway gets a new token. -/
theorem keeps_register (parentId name : String) (endpoint : Option String) (type : GatewayType)
    (description : Option String) : Prog.Keeps (Spent gatewayId token expires)
      (Gateways.register parentId name endpoint type description) := by
  refine Prog.Keeps.bindOf (P := fun t => t ≠ token) (keeps_randomUUID steady_spent)
    (fun w hw t ht => ?_) fun t ht => .bind keeps_newDate fun pairedAt => ?_
  · obtain rfl : w.uuids w.calls 0 = t := Except.ok.inj ht
    exact hw.supply w.calls le_rfl
  · refine keeps_create steady_spent fun w table hw _ hins =>
      ⟨fun g hg hid => ?_, hw.supply.mono rfl (Nat.le_succ _)⟩
    have hrows := (Table.insert_eq_some hins).2
    rcases List.mem_append.mp (hrows ▸ hg) with hold | hnew
    · exact hw.row g hold hid
    · obtain rfl := List.mem_singleton.mp hnew
      exact ⟨ht, fun hprev => by cases hprev⟩

/-- A rotation puts a token in the place of the previous one that is not the spent one. -/
theorem keeps_rotateToken (parentId id : String) (grace : ℤ) :
    Prog.Keeps (Spent gatewayId token expires) (rotateToken parentId id grace) := by
  intro w hw
  obtain ⟨r, w', hrun, huuids, hcalls, hdb⟩ := run_rotateToken parentId id grace w
  rw [hrun]
  rcases hdb with ⟨-, hdb⟩ | ⟨g, hg, -, -, hdb⟩
  · exact hw.mono hdb huuids hcalls.le
  · refine ⟨hw.row.patch hdb fun g₀ hg₀ hk hid => ⟨hw.supply _ (Nat.le_succ _), fun hprev => ?_⟩,
      hw.supply.mono huuids hcalls.le⟩
    have hid' : g.id = gatewayId := (Table.key_of_find hg).trans (hk.symm.trans hid)
    exact absurd (Option.some.inj hprev) (hw.row g (Table.mem_of_find hg) hid').1

theorem keeps_deleteGateway (parentId id : String) :
    Prog.Keeps (Spent gatewayId token expires) (deleteGateway parentId id) := by
  have hrow : Prog.Keeps (OnDb (OutdatedAt gatewayId token expires))
      (deleteGateway parentId id) := by
    have hsteady := steady_onDb (OutdatedAt gatewayId token expires)
    have hdevice : Free .device (OnDb (OutdatedAt gatewayId token expires)) := fun _ _ h => h
    have hrouter : Free .detectedRouter (OnDb (OutdatedAt gatewayId token expires)) :=
      fun _ _ h => h
    have hcommand : Free .routerCommand (OnDb (OutdatedAt gatewayId token expires)) :=
      fun _ _ h => h
    have hlog : Free .vpnDetectionLog (OnDb (OutdatedAt gatewayId token expires)) := fun _ _ h => h
    have hdelete : Prog.Keeps (OnDb (OutdatedAt gatewayId token expires))
        (Prisma.delete .gateway id) := by
      refine keeps_delete hsteady fun w _ hw _ g hg hid => ?_
      exact hw g (Table.mem_erase.mp hg).1 hid
    exact .bind (.bind (.bind (keeps_query hsteady _) fun _ => .orThrow _ _) fun _ =>
      .bind (.require _ _) fun _ => .pure _) fun _ => keeps_transaction
        (.bind (keeps_viaTx (hdevice.updateMany hsteady _ _ _)) fun _ =>
          .bind (keeps_viaTx (hrouter.deleteMany hsteady _)) fun _ =>
            .bind (keeps_viaTx (hcommand.deleteMany hsteady _)) fun _ =>
              .bind (keeps_viaTx (hlog.deleteMany hsteady _)) fun _ => keeps_viaTx hdelete)
  have hsupply : Prog.Keeps (Unissued token) (deleteGateway parentId id) := by
    have hbase : ∀ (w : World) db, Unissued token w → Unissued token { w with db := db } :=
      fun _ _ h => h
    have hcall : ∀ {α : Type} (f : Ctx → Database → Except Err α × Database),
        Prog.Keeps (Unissued token) (dbCall f) := fun f =>
      keeps_dbCall fun w hw => hw.mono rfl (Nat.le_succ _)
    have hsteady : Steady (Unissued token) := fun _ h => h.mono rfl (Nat.le_succ _)
    exact .bind (.bind (.bind (keeps_query hsteady _) fun _ => .orThrow _ _) fun _ =>
      .bind (.require _ _) fun _ => .pure _) fun _ => keeps_transaction_base hbase
        (.bind (keeps_viaTx_base hbase (hcall _)) fun _ =>
          .bind (keeps_viaTx_base hbase (hcall _)) fun _ =>
            .bind (keeps_viaTx_base hbase (hcall _)) fun _ =>
              .bind (keeps_viaTx_base hbase (hcall _)) fun _ => keeps_viaTx_base hbase (hcall _))
  intro w hw
  exact ⟨hrow w hw.row, hsupply w hw.supply⟩

/-- No operation of an owner brings the token back. -/
theorem keeps_op (op : Op) : Prog.Keeps (Spent gatewayId token expires) op.prog := by
  cases op with
  | register p name endpoint type description =>
    exact (keeps_register p name endpoint type description).bind fun _ => .pure _
  | rename p id name description =>
    exact .bind (.bind (keeps_findOwned p id) fun _ => .bind (.require _ _) fun _ =>
      keeps_gateway fun _ h => h) fun _ => .pure _
  | pair id p =>
    exact .bind (.bind (keeps_findOwned p id) fun _ => .bind keeps_newDate fun _ =>
      keeps_gateway fun _ h => h) fun _ => .pure _
  | rotate p id grace => exact (keeps_rotateToken p id grace).bind fun _ => .pure _
  | delete p id => exact keeps_deleteGateway p id

end Owner

/-! ### What the party knows -/

section Knowledge
variable {env : Env} {request : GuardRequest}

theorem learned_answer {α : Type} {f : α → Response} (hf : ∀ a, learned (.ok (f a)) = [])
    (p : Api α) (w : World) : learned ((p >>= fun a => pure (f a)).run w).1 = [] := by
  rw [Prog.run_bind]
  rcases p.run w with ⟨e | a, w'⟩
  · rfl
  · exact hf a

/-- The same behind a check of the query. -/
theorem learned_checked {α : Type} {f : α → Response} (hf : ∀ a, learned (.ok (f a)) = [])
    (id : Option String) (p : String → Api α) (w : World) :
    learned ((do
      let a ← p (← requireId id)
      pure (f a)).run w).1 = [] := by
  rw [Prog.run_bind]
  rcases id with _ | id
  · rfl
  · exact learned_answer hf (p id) w

theorem rotatedToken_getPolicies {id : String} {version : Option String} {w w' : World}
    {p : Policies} (h : (getPolicies env id false version).run w = (.ok p, w')) :
    p.rotatedToken = none := by
  unfold getPolicies at h
  obtain ⟨⟨g, devices⟩, w₁, -, h₁⟩ := Prog.run_bind_ok.mp h
  obtain ⟨-, w₂, -, h₂⟩ := Prog.run_bind_ok.mp h₁
  obtain ⟨limits, w₃, -, h₃⟩ := Prog.run_bind_ok.mp h₂
  obtain ⟨now, w₄, -, h₄⟩ := Prog.run_bind_ok.mp h₃
  simp only [Prog.run_pure, Prod.mk.injEq, Except.ok.injEq] at h₄
  rw [← h₄.1]
  rfl

/-- Only a request let through on a previous token is told a token. -/
theorem learned_guarded (w : World) (e : Endpoint)
    (h : ∀ version, e = .policies version →
      ∀ g w', (canActivate env request).run w ≠ (.ok (g, true), w')) :
    learned ((guarded env request e).run w).1 = [] := by
  rw [guarded, Prog.run_bind]
  rcases hactive : (canActivate env request).run w with ⟨err | ⟨g, used⟩, w'⟩
  · rfl
  cases e with
  | devices id => exact learned_checked (fun _ => rfl) id _ w'
  | block id mac => exact learned_checked (fun _ => rfl) id (blockDevice · mac) w'
  | unblock id mac => exact learned_checked (fun _ => rfl) id (unblockDevice · mac) w'
  | status id => exact learned_checked (fun _ => rfl) id _ w'
  | policies version =>
    obtain rfl : used = false := by
      rcases used with _ | _
      · rfl
      · exact absurd hactive (h version rfl g w')
    change learned ((getPolicies env g.id false version >>= fun p => pure (.policies p)).run w').1 =
      []
    rw [Prog.run_bind]
    rcases hrun : (getPolicies env g.id false version).run w' with ⟨err | p, w''⟩
    · rfl
    · exact congrArg Option.toList (rotatedToken_getPolicies hrun)
  | discovery ds => exact learned_answer (fun _ => rfl) _ w'
  | vpnDetections ds => exact learned_answer (fun _ => rfl) _ w'
  | dohDetections ds => exact learned_answer (fun _ => rfl) _ w'
  | routerDetection r => exact learned_answer (fun _ => rfl) _ w'
  | pollRouterCommands =>
    change learned ((do
      let cs ← RouterCommands.getPendingCommands g.id
      let c ← RouterCommands.getRouterConnectionInfo env g.id
      pure (Response.commands cs c)).run w').1 = []
    rw [Prog.run_bind]
    rcases (RouterCommands.getPendingCommands g.id).run w' with ⟨err | cs, w''⟩
    · rfl
    · exact learned_answer (fun _ => rfl) _ w''
  | ackRouterCommand c success data => exact learned_answer (fun _ => rfl) _ w'

end Knowledge

/-! ### The run -/

section Run
variable {env : Env} {gatewayId token : String} {expires : Time}

/-- The token is spent, and the party knows no other. -/
structure Useless (gatewayId token : String) (expires : Time) (s : State) : Prop where
  spent : Spent gatewayId token expires s.world
  known : ∀ t ∈ s.known, t = token

theorem useless_step {s : State} {e : Event} (h : Useless gatewayId token expires s)
    (he : Unhealed env s e) : Useless gatewayId token expires (step env s e) := by
  cases e with
  | party t request e =>
    refine ⟨keeps_guarded env request e _ (h.spent.atTime t), fun k hk => ?_⟩
    have hlearned : learned ((guarded env request e).run (s.world.atTime t)).1 = [] := by
      refine learned_guarded _ e fun version hv => ?_
      subst hv
      exact he
    have hknown : (step env s (.party t request e)).known = s.known := by
      simp only [step, hlearned, List.append_nil]
    exact h.known k (hknown ▸ hk)
  | agent t request e => exact ⟨keeps_guarded env request e _ (h.spent.atTime t), h.known⟩
  | owner t op => exact ⟨keeps_op op _ (h.spent.atTime t), h.known⟩
  | other f => exact ⟨h.spent.mono (f.gateways _) (f.uuids _) (f.calls _), h.known⟩

/-- The guard refuses a spent token once its time is over. -/
theorem Spent.refused {w : World} (h : Spent gatewayId token expires w) (hnow : expires ≤ w.now)
    {request : GuardRequest} (hrequest : request.token = some token) :
    ¬ Accepts env gatewayId request w := by
  rintro ⟨g, used, w', hrun, hid⟩
  obtain ⟨token', htoken, hg, hused⟩ := canActivate_ok hrun
  obtain rfl : token' = token := Option.some.inj (htoken.symm.trans hrequest)
  obtain ⟨hne, hprev⟩ := h.row g hg hid
  split_ifs at hused
  · obtain ⟨hprevious, e, he, hlt⟩ := hused
    obtain rfl : e = expires := Option.some.inj (he.symm.trans (hprev hprevious))
    exact absurd hlt (not_lt.mpr hnow)
  · exact hne hused

/-- A rotation leaves the old token as the previous one. -/
theorem spent_rotateToken {w w₁ : World} {parentId : String} {grace : ℤ} {g : Gateway}
    {answer : String × String × Option Time} (hg : w.db.gateways.find gatewayId = some g)
    (hnew : Unissued g.token w)
    (hrotate : (rotateToken parentId gatewayId grace).run w = (.ok answer, w₁)) :
    Spent gatewayId g.token (w.now + grace) w₁ := by
  obtain ⟨r, w', hrun, huuids, hcalls, hdb⟩ := run_rotateToken parentId gatewayId grace w
  rw [hrotate] at hrun
  cases hrun
  refine ⟨?_, hnew.mono huuids hcalls.le⟩
  rcases hdb with ⟨⟨e, he⟩, -⟩ | ⟨g', hg', -, -, hdb⟩
  · cases he
  · obtain rfl := Option.some.inj (hg.symm.trans hg')
    intro row hrow hid
    rw [hdb, Model.mem_patch] at hrow
    obtain ⟨g₀, -, rfl⟩ := hrow
    split_ifs at hid ⊢ with hk
    · exact ⟨hnew _ (Nat.le_succ _), fun _ => rfl⟩
    · exact absurd hid hk

end Run

/-- **A rotated-out token is useless after its grace period** to a party that knows nothing else,
as long as no request of it for the policies is let through on a previous token: in every run, no
request with a token the party knows is then let through as the gateway. -/
theorem useless_after_grace {env : Env} {w w₁ : World} {parentId gatewayId : String} {grace : ℤ}
    {g : Gateway} {answer : String × String × Option Time}
    (hg : w.db.gateways.find gatewayId = some g) (hnew : Unissued g.token w)
    (hrotate : (rotateToken parentId gatewayId grace).run w = (.ok answer, w₁)) {es : List Event}
    (hcond : Steps (step env) (Unhealed env) ⟨w₁, [g.token]⟩ es) {t : Time}
    (ht : w.now + grace < t) {request : GuardRequest} {token : String}
    (hrequest : request.token = some token)
    (hknown : token ∈ (es.foldl (step env) ⟨w₁, [g.token]⟩).known) :
    ¬ Accepts env gatewayId request ((es.foldl (step env) ⟨w₁, [g.token]⟩).world.atTime t) := by
  have hstart : Useless gatewayId g.token (w.now + grace) ⟨w₁, [g.token]⟩ :=
    ⟨spent_rotateToken hg hnew hrotate, by simp⟩
  have hend : Useless gatewayId g.token (w.now + grace) (es.foldl (step env) ⟨w₁, [g.token]⟩) :=
    foldl_of_steps (fun _ _ => useless_step) hstart hcond
  obtain rfl := hend.known token hknown
  exact (hend.spent.atTime t).refused ht.le hrequest

/-! ### The first poll after a rotation -/

/-- The gateway's token is rotated at time zero, with a grace period of a day. -/
def afterRotation : World := ((rotateToken "amal" "ga" 86400000).run start).2

theorem run_first :
    ∃ answer, (rotateToken "amal" "ga" 86400000).run start = (.ok answer, afterRotation) :=
  ⟨("ga", "uuid-1-0", some 86400000), Prod.ext (by decide +kernel) rfl⟩

theorem unissued_start : Unissued "ga-token" start := fun n _ he =>
  absurd (he ▸ fresh_uuids_head : "ga-token".toList.head? = some 'u') (by decide)

/-- The state after the rotation and the events. -/
def afterEvents (es : List Event) : State := es.foldl (step .plain) ⟨afterRotation, ["ga-token"]⟩

/-- A party that asks for the gateway's status and devices learns nothing. -/
def looks : List Event :=
  [.party 10 (plain "ga-token") (.status (some "ga")),
   .party 20 (plain "ga-token") (.devices (some "ga"))]

theorem useless_after_looking : "ga-token" ∈ (afterEvents looks).known ∧
    ¬ Accepts .plain "ga" (plain "ga-token") ((afterEvents looks).world.atTime 86400001) := by
  obtain ⟨answer, hrun⟩ := run_first
  have hknown : "ga-token" ∈ (afterEvents looks).known := by decide +kernel
  have hcond : Steps (step .plain) (Unhealed .plain) ⟨afterRotation, ["ga-token"]⟩ looks :=
    steps_cons.mpr ⟨trivial, steps_cons.mpr ⟨trivial, steps_nil _⟩⟩
  exact ⟨hknown, useless_after_grace (g := Household.gateway "ga" "amal") (by decide) unissued_start
    hrun hcond (by decide) rfl hknown⟩

/-- A party that asks for the policies within the grace period is told the new token, and acts as
the gateway ever after. -/
theorem useful_after_poll : ¬ ∀ (env : Env) (w w₁ : World) (parentId gatewayId : String) (grace : ℤ)
    (g : Gateway) (answer : String × String × Option Time),
    w.db.gateways.find gatewayId = some g → Unissued g.token w →
    (rotateToken parentId gatewayId grace).run w = (.ok answer, w₁) → ∀ es : List Event,
    Steps (step env) Able ⟨w₁, [g.token]⟩ es → ∀ t, w.now + grace < t →
    ∀ (request : GuardRequest) (token : String), request.token = some token →
    token ∈ (es.foldl (step env) ⟨w₁, [g.token]⟩).known →
    ¬ Accepts env gatewayId request ((es.foldl (step env) ⟨w₁, [g.token]⟩).world.atTime t) := by
  intro h
  obtain ⟨answer, hrun⟩ := run_first
  have hable : Steps (step .plain) Able ⟨afterRotation, ["ga-token"]⟩
      [.party 10 (plain "ga-token") (.policies none)] := by
    refine steps_cons.mpr ⟨fun token htoken => ?_, steps_nil _⟩
    obtain rfl := Option.some.inj htoken
    exact List.mem_singleton.mpr rfl
  refine h .plain start afterRotation "amal" "ga" 86400000 (Household.gateway "ga" "amal") answer
    (by decide) unissued_start hrun _ hable 86400001 (by decide) (plain "uuid-1-0") "uuid-1-0" rfl
    (by decide +kernel) ?_
  have haccepted : ((canActivate .plain (plain "uuid-1-0")).run
      ((afterEvents [.party 10 (plain "ga-token") (.policies none)]).world.atTime 86400001)).1.map
      (fun x => x.1.id) = .ok "ga" := by
    decide +kernel
  rcases hrun : (canActivate .plain (plain "uuid-1-0")).run
      ((afterEvents [.party 10 (plain "ga-token") (.policies none)]).world.atTime 86400001) with
    ⟨e | ⟨g, used⟩, w'⟩ <;> rw [hrun] at haccepted
  · cases haccepted
  · exact ⟨g, used, w', hrun, Except.ok.inj haccepted⟩

end GuardTime.Agents.Leak
