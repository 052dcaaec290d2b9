import Mathlib.Tactic
import GuardTime.Services.Calls
import GuardTime.Household

/-! # The router queue and the status of a device

`blockDevice` and `unblockDevice` write the status of the device and enqueue a router command later,
with other calls in between. Overlapping requests may do the two in different orders, and then the
router is told the opposite of what the parent sees. As long as every request that enqueues its
command finds the status it has written, queue and status agree once all requests have succeeded
(`queue_agrees`). -/

namespace GuardTime.Commands.RouterSync

open GuardTime.Lib.Program GuardTime.Lib.Interleave GuardTime.Lib.Keyed GuardTime.Lib.Js
open GuardTime.Schema GuardTime.Server GuardTime.Prisma GuardTime.Services
open GuardTime.Services.Adapters (ControlResult)

/-! ### Requests -/

/-- A request on the device. -/
inductive Request where
  | block (reason : String) (parentId : Option String)
  | unblock (parentId : Option String)

namespace Request

/-- What the service does. -/
def prog (d : String) : Request → Api ControlResult
  | block reason parentId => Enforcement.blockDevice d reason parentId
  | unblock parentId => Enforcement.unblockDevice d parentId

/-- The status the request writes. -/
def status : Request → DeviceStatus
  | block _ _ => .blocked
  | unblock _ => .online

/-- The command the request enqueues. -/
def type : Request → RouterCommandType
  | block _ _ => .blockDevice
  | unblock _ => .unblockDevice

end Request

/-! ### What they are about -/

/-- The stored status of the device. -/
def status (d : String) (w : World) : Option DeviceStatus := (w.db.devices.find d).map Device.status

/-- A block or unblock command of the device. -/
def isSync (d : String) (c : RouterCommand) : Bool :=
  c.deviceId = some d && (c.type = .blockDevice || c.type = .unblockDevice)

/-- The block and unblock commands of the device, in the order they were enqueued. -/
def enqueued (d : String) (w : World) : List RouterCommandType :=
  (w.db.routerCommands.rows.filter (isSync d)).map RouterCommand.type

/-- The last command is a block exactly when the status says so. -/
def Agrees (d : String) (w : World) : Prop :=
  (enqueued d w).getLast? = some .blockDevice ↔ status d w = some .blocked

/-- The device is behind gateway `g`, whose router supports a strategy, and new identifiers are
new. -/
structure Sound (d g : String) (w : World) : Prop where
  device : ∃ r, w.db.devices.find d = some r ∧ truthy r.gatewayId = some g
  router : ∃ p ∈ SmartBlock.blockStrategyPriority, SmartBlock.isSupported
    ((w.db.detectedRouters.rows.find? fun r => r.gatewayId = g).bind DetectedRouter.pluginId)
    p.2 = true
  fresh : ∀ c ∈ w.db.routerCommands.rows, ∀ n, w.calls ≤ n → c.id ≠ w.uuids n 0
  distinct : ∀ m n, w.uuids m 0 = w.uuids n 0 → m = n

/-- Nothing happens to the device and its commands. -/
structure Quiet (d g : String) (w w' : World) : Prop where
  status : status d w' = status d w
  enqueued : enqueued d w' = enqueued d w
  sound : Sound d g w → Sound d g w'

/-- A call that may enqueue a command. -/
def Enqueues (d : String) (u : World → World) : Prop := ∃ w, enqueued d (u w) ≠ enqueued d w

/-- Where a request stands; one that has left the circumstances of `Sound` is astray. -/
inductive Phase where
  | before | between | done | astray
deriving DecidableEq

/-- What a call of a request does. -/
inductive Acts (d g : String) (r : Request) (u : World → World) : Phase → World → Phase → Prop
  | quiet {q : Phase} {w : World} (h : Quiet d g w (u w)) : Acts d g r u q w q
  | write {w : World} (hq : enqueued d (u w) = enqueued d w) (hsound :
    Sound d g w → Sound d g (u w)) :
    Acts d g r u .before w .between
  | enqueue {w : World} (hu : Enqueues d u) (hs : RouterSync.status d (u w) = RouterSync.status d w)
    (hq : enqueued d (u w) = enqueued d w ++ [r.type]) (hsound : Sound d g w → Sound d g (u w)) :
    Acts d g r u .between w .done
  | leave {q : Phase} {w : World} (h : ¬ Sound d g w) : Acts d g r u q w .astray
  | stray {w : World} : Acts d g r u .astray w .astray

section Quiet
variable {d g : String}

theorem quiet_of_tables {w w' : World} (hd : w'.db.devices = w.db.devices)
    (hc : w'.db.routerCommands = w.db.routerCommands)
    (hr : w'.db.detectedRouters = w.db.detectedRouters) (hu : w'.uuids = w.uuids)
    (hn : w.calls ≤ w'.calls) : Quiet d g w w' where
  status := by rw [status, hd, status]
  enqueued := by rw [enqueued, hc, enqueued]
  sound h := by
    refine ⟨by rw [hd]; exact h.device, by rw [hr]; exact h.router,
      ?_, by rw [hu]; exact h.distinct⟩
    intro c hmem n hle
    rw [hu]
    exact h.fresh c (hc ▸ hmem) n (hn.trans hle)

theorem quiet_call {w w' : World} (hd : w'.db.devices = w.db.devices)
    (hc : w'.db.routerCommands = w.db.routerCommands)
    (hr : w'.db.detectedRouters = w.db.detectedRouters) (hu : w'.uuids = w.uuids)
    (hn : w'.calls = w.calls + 1) : Quiet d g w w' :=
  quiet_of_tables hd hc hr hu (by omega)

theorem idle_quiet : Idle (Quiet d g) := fun _ => quiet_call rfl rfl rfl rfl rfl

theorem refl_quiet (w : World) : Quiet d g w w := quiet_of_tables rfl rfl rfl rfl le_rfl

theorem quiet_log (data : Audit.Entry) : Calls (Quiet d g) (Audit.log data) :=
  .bind (calls_create idle_quiet fun _ _ _ => quiet_call rfl rfl rfl rfl rfl) fun _ => .pure _

theorem settleCalls : SettleCalls (Quiet d g) where
  refl := refl_quiet
  idle := idle_quiet
  command _ _ := quiet_call rfl rfl rfl rfl rfl
  queue _ _ := quiet_of_tables rfl rfl rfl rfl le_rfl
  cache _ _ := quiet_of_tables rfl rfl rfl rfl le_rfl
  log data _ := quiet_log data

theorem follows_quiet {α : Type} {r : Request} {p : Api α} (h : Calls (Quiet d g) p) (q : Phase) :
    Follows (Acts d g r) (fun q' _ => q' = q) p q :=
  .of_calls h rfl fun _ q' s hq h => ⟨q', .quiet (h s), hq⟩

end Quiet

/-! ### One request -/

section Follows
variable {d g : String} {r : Request}

theorem follows_astray {α : Type} (p : Api α) :
    Follows (Acts d g r) (fun q _ => q = .astray) p .astray := by
  induction p with
  | ret res => exact rfl
  | act u k ih => exact fun w => ⟨.astray, .stray, ih w⟩

/-- The device that a request finds. -/
theorem follows_findDevice (parentId : Option String) : Follows (Acts d g r)
    (fun q res => q = .astray ∨
      q = .before ∧ ∀ v, res = .ok v → v.id = d ∧ truthy v.gatewayId = some g)
    (Enforcement.findDevice d parentId) .before := by
  intro w
  by_cases hw : Sound d g w
  · refine ⟨.before, .quiet (idle_quiet w), ?_⟩
    obtain ⟨v, hv, hg⟩ := hw.device
    change Follows _ _ (Prog.orThrow (w.db.devices.find d) _ >>= _) _
    refine .orThrow_bind (fun v' hv' => ?_) fun hnone => ?_
    · obtain rfl : v' = v := Option.some.inj (hv'.symm.trans hv)
      refine .require_bind (fun _ => .inr ⟨rfl, fun v' hv' => ?_⟩) fun _ =>
        .inr ⟨rfl, fun _ h => ?_⟩
      · cases hv'
        exact ⟨Table.key_of_find hv, hg⟩
      · cases h
    · rw [hv] at hnone
      cases hnone
  · exact ⟨.astray, .leave hw, (follows_astray _).mono fun _ _ hq => .inl hq⟩

/-- The row of a router command. -/
def commandRow (g d : String) (type : RouterCommandType) (payload : Option Json) (id : String)
    (now : Time) : RouterCommand :=
  { id, gatewayId := g, deviceId := some d, type, payload := payload.map stringify,
    status := .pending, resultData := none, createdAt := now, deliveredAt := none, ackedAt := none }

theorem enqueueCommand_eq (g d : String) (type : RouterCommandType) (payload : Option Json) :
    RouterCommands.enqueueCommand g type payload (some d) =
      Prisma.create .routerCommand (commandRow g d type payload) := rfl

/-- In sound circumstances the command is enqueued. -/
theorem run_enqueue (payload : Option Json) {w : World} (hw : Sound d g w) :
    ∃ c w', (RouterCommands.enqueueCommand g r.type payload (some d)).run w = (.ok c, w') ∧
      status d w' = status d w ∧ enqueued d w' = enqueued d w ++ [r.type] ∧ Sound d g w' := by
  rw [enqueueCommand_eq]
  let mk := commandRow g d r.type payload
  rcases run_create_cases .routerCommand mk w with ⟨e, hrun⟩ | ⟨t, hins, hrun⟩
  · rcases run_create_error hrun with ⟨u, hu, -⟩ | ⟨l, hl, -⟩ | ⟨c, hc, hid⟩
    · cases hu
    · cases hl
    · exact absurd hid (hw.fresh c hc w.calls le_rfl)
  · obtain ⟨-, hrows⟩ := Table.insert_eq_some hins
    refine ⟨_, _, hrun, rfl, ?_, hw.device, hw.router, fun c hc n hn => ?_, hw.distinct⟩
    · have hsync : isSync d (mk (w.uuids w.calls 0) w.now) = true := by
        cases r <;> simp [isSync, mk, commandRow, Request.type]
      change (t.rows.filter (isSync d)).map RouterCommand.type = _
      rw [hrows, List.filter_append, List.map_append, List.filter_singleton, hsync]
      rfl
    · have hmem : c ∈ w.db.routerCommands.rows ++ [mk (w.uuids w.calls 0) w.now] := hrows ▸ hc
      have hn' : w.calls + 1 ≤ n := hn
      rcases List.mem_append.mp hmem with hc | hc
      · exact hw.fresh c hc n (by omega)
      · rw [List.mem_singleton.mp hc]
        intro heq
        have := hw.distinct w.calls n heq
        omega

theorem follows_enqueue {f : RouterCommand → Api SmartBlock.Outcome} (payload : Option Json)
    (hf : ∀ c, Calls (Quiet d g) (f c)) : Follows (Acts d g r)
      (fun q _ => q = .done ∨ q = .astray)
      (RouterCommands.enqueueCommand g r.type payload (some d) >>= f) .between := by
  let p := RouterCommands.enqueueCommand g r.type payload (some d)
  have hcreate : Follows (Acts d g r) (fun q _ => q = .done ∨ q = .astray) p .between := by
    intro w
    change ∃ q', Acts d g r (fun w => (p.run w).2) _ w q' ∧ _
    by_cases hw : Sound d g w
    · obtain ⟨c, w', hrun, hs, hq, hsound⟩ := @run_enqueue d g r payload w hw
      have hu : (p.run w).2 = w' := by rw [hrun]
      refine ⟨.done, .enqueue ⟨w, ?_⟩ (hu ▸ hs) (hu ▸ hq) fun _ => hu ▸ hsound, .inl rfl⟩
      change enqueued d (p.run w).2 ≠ enqueued d w
      rw [hu, hq]
      simp
    · exact ⟨.astray, .leave hw, .inr rfl⟩
  refine .bind hcreate ?_ fun _ _ hq => hq
  rintro q c (rfl | rfl)
  · exact (follows_quiet (hf c) _).mono fun _ _ hq => .inl hq
  · exact (follows_astray _).mono fun _ _ hq => .inr hq

/-- The synchronisation with the router enqueues the command. -/
theorem follows_sync : Follows (Acts d g r) (fun q _ => q = .done ∨ q = .astray)
    (SmartBlock.enqueueStrategyCommand g d r.type SmartBlock.blockStrategyPriority) .between := by
  intro w
  by_cases hw : Sound d g w
  · refine ⟨.between, .quiet (idle_quiet w), ?_⟩
    obtain ⟨p, hp, hsup⟩ := hw.router
    have hne : ∀ {l : List (RouterCommandType × Bool)}, l = SmartBlock.blockStrategyPriority.map
        (fun s => (s.1, SmartBlock.isSupported ((w.db.detectedRouters.rows.find? fun r =>
          r.gatewayId = g).bind DetectedRouter.pluginId) s.2)) →
        (l.filter Prod.snd).map Prod.fst ≠ [] := by
      rintro l rfl hnil
      have hmem := List.map_eq_nil_iff.mp hnil
      rw [List.filter_eq_nil_iff] at hmem
      exact hmem _ (List.mem_map_of_mem hp) hsup
    change Follows _ _ (if _ = [] then _ else _) _
    exact .ite (fun hnil => absurd hnil (hne rfl)) fun _ =>
      follows_enqueue _ fun c => .bind (quiet_log _) fun _ => .pure _
  · exact ⟨.astray, .leave hw, (follows_astray _).mono fun _ _ hq => .inr hq⟩

/-- The status is written, or there is no device. -/
theorem follows_status (st : DeviceStatus) : Follows (Acts d g r)
    (fun q res => q = .between ∨ q = .before ∧ ∃ e, res = .error e)
    (Prisma.update .device d fun v => { v with status := st }) .before := by
  refine follows_update ?_ ?_
  · intro w e hrun
    refine ⟨.before, .quiet ?_, .inr ⟨rfl, e, rfl⟩⟩
    rw [hrun]
    exact idle_quiet w
  · intro w v hv hrun
    refine ⟨.between, .write ?_ fun hw => ?_, .inl rfl⟩
    · rw [hrun]
      rfl
    · rw [hrun]
      obtain ⟨v', hv', hgate⟩ := hw.device
      have hfresh : ∀ c ∈ w.db.routerCommands.rows, ∀ n, w.calls + 1 ≤ n → c.id ≠ w.uuids n 0 :=
        fun c hc n hn => hw.fresh c hc n (by omega)
      refine ⟨⟨_, Model.find_patch_some
        (m := .device) hv' fun _ => by rfl, ?_⟩, hw.router, hfresh, hw.distinct⟩
      split_ifs <;> exact hgate

/-- A request that succeeds has enqueued its command. -/
def Ended (q : Phase) (res : Except Err ControlResult) : Prop :=
  ∀ a, res = .ok a → a.success = true → q = .done ∨ q = .astray

theorem follows_settle {v : Device} (hid : v.id = d) (hgate : truthy v.gatewayId = some g)
    (parentId : Option String) (action : String) (details : Option String)
    (result : ControlResult) :
    Follows (Acts d g r) Ended (Enforcement.settle v parentId r.status action details
      (fun g d => SmartBlock.enqueueStrategyCommand g d r.type SmartBlock.blockStrategyPriority)
      result) .before := by
  subst hid
  have herror : ∀ {q : Phase} {e : Err}, Ended q (.error e) := by
    intro q e a ha
    cases ha
  refine .bind (follows_status _) ?_ fun _ _ _ => herror
  rintro q v' (rfl | ⟨-, e, he⟩)
  · refine .bind (follows_quiet (settleCalls.invalidateSourceIps _) _) ?_ fun _ _ _ => herror
    rintro q - rfl
    refine .bind (follows_quiet (quiet_log _) _) ?_ fun _ _ _ => herror
    rintro q - rfl
    have hsync : Follows (Acts v.id g r) (fun q _ => q = .done ∨ q = .astray)
        (Enforcement.syncToRouter v fun g d =>
          SmartBlock.enqueueStrategyCommand g d r.type SmartBlock.blockStrategyPriority)
            .between := by
      unfold Enforcement.syncToRouter
      rw [hgate]
      exact .catchErr (F := fun q _ => q = .done ∨ q = .astray)
        (.bind follows_sync (fun _ _ hq => hq) fun _ _ hq => hq) (fun _ _ hq => hq) fun _ _ hq => hq
    exact .bind hsync (fun q _ hq a _ _ => hq) fun _ _ _ => herror
  · cases he

/-- **One request.** A request that succeeds writes the status and then enqueues its command. -/
theorem follows_prog (r : Request) : Follows (Acts d g r) Ended (r.prog d) .before := by
  have herror : ∀ {q : Phase} {e : Err}, Ended q (.error e) := by
    intro q e a ha
    cases ha
  have hfind : ∀ {p : Device → Api ControlResult} (parentId : Option String),
      (∀ v, v.id = d → truthy v.gatewayId = some g → Follows (Acts d g r) Ended (p v) .before) →
      Follows (Acts d g r) Ended (Enforcement.findDevice d parentId >>= p) .before := by
    intro p parentId hp
    refine .bind (follows_findDevice parentId) ?_ fun _ _ _ => herror
    rintro q v (rfl | ⟨rfl, hv⟩)
    · exact (follows_astray _).mono fun _ _ hq a _ _ => .inr hq
    · exact hp v (hv v rfl).1 (hv v rfl).2
  cases r with
  | block reason parentId =>
    refine hfind parentId fun v hid hgate => ?_
    refine .bind (follows_quiet (settleCalls.adapterBlock v reason) _) ?_ fun _ _ _ => herror
    rintro q result rfl
    split_ifs with hsuccess
    · exact follows_settle hid hgate _ _ _ _
    · intro a ha hs
      cases ha
      exact absurd hs hsuccess
  | unblock parentId =>
    refine hfind parentId fun v hid hgate => ?_
    refine .bind (follows_quiet (settleCalls.adapterUnblock v) _) ?_ fun _ _ _ => herror
    rintro q result rfl
    split_ifs with hsuccess
    · exact follows_settle hid hgate _ _ _ _
    · intro a ha hs
      cases ha
      exact absurd hs hsuccess

end Follows

/-! ### Runs -/

/-- The pool of requests on the device after `n` moves. -/
def pool (d : String) (w : World) (moves : ℕ → Move Request World) :
    ℕ → Pool Request World Err ControlResult :=
  (Pool.idle w).after (fun _ r => r.prog d) moves

/-- The rest of the server leaves the devices, the router commands and the detected routers
alone. -/
def Elsewhere (moves : ℕ → Move Request World) : Prop :=
  ∀ n f, moves n = .other f → ∀ w, (f w).db.devices = w.db.devices ∧
    (f w).db.routerCommands = w.db.routerCommands ∧
    (f w).db.detectedRouters = w.db.detectedRouters ∧ (f w).uuids = w.uuids ∧ w.calls ≤ (f w).calls

/-- A request that is about to enqueue its command finds the status it has written. -/
def InStep (d : String) (P : Pool Request World Err ControlResult)
    (m : Move Request World) : Prop :=
  ∀ i r u k, m = .call i → P.tag i = some r → P.prog i = some (.act u k) → Enqueues d u →
    status d P.state = some r.status

/-- Every request has succeeded, and there is one. -/
def AllSucceeded (P : Pool Request World Err ControlResult) : Prop :=
  (∃ i r, P.tag i = some r) ∧
    ∀ i r, P.tag i = some r → ∃ a, P.result i = some (.ok a) ∧ a.success = true

/-- How requests act on the device. -/
def protocol (d g : String) : Protocol Request World Err ControlResult Phase where
  init _ := .before
  step := Acts d g
  ends _ := Ended

/-- Nobody has begun, somebody is between status and command, or queue and status agree. -/
structure Stands (d g : String) (w : World) (φ : Locals Request Phase) : Prop where
  sound : Sound d g w
  here : ∀ i r, φ i ≠ some (r, .astray)
  agrees : (∀ i r, φ i ≠ some (r, .done)) ∨ (∃ i r, φ i = some (r, .between)) ∨ Agrees d w

section Run
variable {d g : String} {P P' : Pool Request World Err ControlResult} {m : Move Request World}
  {φ φ' : Locals Request Phase}

theorem stands_step (h : Stands d g P.state φ) (hfits : (protocol d g).Fits P φ)
    (hm : (protocol d g).Moved P φ m P' φ') (hcond : InStep d P m)
    (hother : ∀ f, m = .other f → Quiet d g P.state (f P.state)) : Stands d g P'.state φ' := by
  have hquiet : ∀ {w' : World}, Quiet d g P.state w' → Stands d g w' φ := by
    intro w' hw
    refine ⟨hw.sound h.sound, h.here, ?_⟩
    rw [Agrees, hw.enqueued, hw.status]
    exact h.agrees
  cases hm with
  | @start r i _ hi hs =>
    rw [hs]
    refine ⟨h.sound, fun j r' hj => ?_, ?_⟩
    · by_cases hji : j = i
      · subst hji
        rw [Function.update_self] at hj
        cases hj
      · rw [Function.update_of_ne hji] at hj
        exact h.here j r' hj
    · refine h.agrees.imp (fun hnone j r' hj => ?_) (.imp_left ?_)
      · by_cases hji : j = i
        · subst hji
          rw [Function.update_self] at hj
          cases hj
        · rw [Function.update_of_ne hji] at hj
          exact hnone j r' hj
      · rintro ⟨j, r', hj⟩
        have hji : j ≠ i := by
          rintro rfl
          rw [hi] at hj
          cases hj
        exact ⟨j, r', by rw [Function.update_of_ne hji, hj]⟩
  | @call i r q q' u k _ hi hp hstep hs =>
    rw [hs]
    have hhere : q' ≠ .astray → ∀ j r', Function.update φ i (some (r, q')) j ≠
        some (r', .astray) := by
      intro hq' j r' hj
      by_cases hji : j = i
      · subst hji
        rw [Function.update_self] at hj
        cases hj
        exact hq' rfl
      · rw [Function.update_of_ne hji] at hj
        exact h.here j r' hj
    cases hstep with
    | quiet hw =>
      have hsame : Function.update φ i (some (r, q)) = φ := by
        rw [← hi]
        exact Function.update_eq_self i φ
      rw [hsame]
      exact hquiet hw
    | write hq hsound =>
      exact ⟨hsound h.sound, hhere (by simp), .inr (.inl ⟨i, r, Function.update_self ..⟩)⟩
    | enqueue hu hst hq hsound =>
      refine ⟨hsound h.sound, hhere (by simp), .inr (.inr ?_)⟩
      have hstatus := hcond i r u k rfl (hfits.tag hi) hp hu
      rw [Agrees, hst, hstatus, hq, List.getLast?_concat]
      cases r <;> simp [Request.type, Request.status]
    | leave hw => exact absurd h.sound hw
    | stray => exact absurd hi (h.here i r)
  | idle _ => exact h
  | @other f _ hs =>
    rw [hs]
    exact hquiet (hother f rfl)

end Run

/-- **Queue and status agree** once all requests have succeeded, in every run in which every request
that is about to enqueue its command finds the status it has written. -/
theorem queue_agrees {d g : String} {w : World} {moves : ℕ → Move Request World}
    (hother : Elsewhere moves) (hsound : Sound d g w)
    (hcond : ∀ n, InStep d (pool d w moves n) (moves n)) {n : ℕ}
    (hall : AllSucceeded (pool d w moves n)) : Agrees d (pool d w moves n).state := by
  obtain ⟨φ, hφ⟩ := (protocol d g).exists_locals (fun _ r => follows_prog r) w moves
  have hstands : ∀ n, Stands d g (pool d w moves n).state (φ n) := by
    intro n
    induction n with
    | zero =>
      refine ⟨hsound, fun i r => ?_, .inl fun i r => ?_⟩ <;> simp [hφ.zero]
    | succ n ih =>
      refine stands_step ih (hφ.fits n) (hφ.moved n) (hcond n) fun f hf => ?_
      obtain ⟨h1, h2, h3, h4, h5⟩ := hother n f hf (pool d w moves n).state
      exact quiet_of_tables h1 h2 h3 h4 h5
  have hdone : ∀ i r, (pool d w moves n).tag i = some r → φ n i = some (r, .done) := by
    intro i r hr
    obtain ⟨a, ha, hsuccess⟩ := hall.2 i r hr
    obtain ⟨r', q, hr', hq, hends⟩ := (hφ.fits n).of_result ha
    obtain rfl : r = r' := Option.some.inj (hr.symm.trans hr')
    rcases hends a rfl hsuccess with rfl | rfl
    · exact hq
    · exact absurd hq ((hstands n).here i r)
  rcases (hstands n).agrees with hnone | ⟨i, r, hi⟩ | hagrees
  · obtain ⟨i, r, hr⟩ := hall.1
    exact absurd (hdone i r hr) (hnone i r)
  · have := hdone i r ((hφ.fits n).tag hi)
    rw [hi] at this
    cases this
  · exact hagrees

/-! ### Requests in step, and overlapping -/

/-- A console behind gateway `ga`, blocked through it. -/
def console (status : DeviceStatus) : Device :=
  { Household.device "console" "amal" "adam" with
    status, controlMethod := .networkGateway, gatewayId := some "ga" }

/-- The router of the gateway. -/
def router : DetectedRouter :=
  ⟨"router", "ga", none, none, none, some "draytek", .officialApi, none, none, none, none,
    none, none,
    none, none, none, 0, 0⟩

/-- The households with the console and the router. -/
def home (status : DeviceStatus) : World :=
  .fresh { Household.withDevices [console status] (by simp) with
    detectedRouters := ⟨[router], by simp⟩ } 0

theorem sound_home (status : DeviceStatus) : Sound "console" "ga" (home status) where
  device := ⟨console status, rfl, rfl⟩
  router := ⟨(.pauseDevice,
    (·.supportsPauseDevice)), by simp [SmartBlock.blockStrategyPriority], rfl⟩
  fresh c hc := by
    have hempty : c ∈ ([] : List RouterCommand) := hc
    simp at hempty
  distinct _ _ h := (fresh_uuids_injective h).1

/-- Two parents block a console that is already blocked. -/
def twice : List (Move Request World) :=
  [.start (.block "late" (some "amal")), .start (.block "homework" none)] ++
    List.replicate 8 (.call 0) ++ List.replicate 8 (.call 1)

/-- A console is unblocked while the command of a block is still to be enqueued. -/
def overlapping : List (Move Request World) :=
  [.start (.block "late" (some "amal")), .start (.unblock (some "amal")), .call 0, .call 0] ++
    List.replicate 8 (.call 1) ++ List.replicate 8 (.call 0)

/-- The thread has returned a success. -/
def succeeded (θ : Thread Request World Err ControlResult) : Bool :=
  match θ.prog with
  | .ret (.ok a) => a.success
  | _ => false

theorem allSucceeded_of {P : Pool Request World Err ControlResult} (hne : P.threads.length ≠ 0)
    (h : P.threads.all succeeded = true) : AllSucceeded P := by
  constructor
  · obtain ⟨θ, θs, hθ⟩ := List.exists_cons_of_length_pos (Nat.pos_of_ne_zero hne)
    exact ⟨0, θ.tag, by simp [Pool.tag, hθ]⟩
  · intro i r hr
    obtain ⟨θ, hθ, -⟩ := Option.map_eq_some_iff.mp hr
    have hs := List.all_eq_true.mp h θ (List.mem_of_getElem? hθ)
    unfold succeeded at hs
    rcases hprog : θ.prog with (e | a) | ⟨u, k⟩ <;> rw [hprog] at hs
    · cases hs
    · refine ⟨a, ?_, hs⟩
      rw [Pool.result, hθ]
      obtain ⟨t, p⟩ := θ
      cases hprog
      rfl
    · cases hs

theorem queue_agrees_twice : AllSucceeded (pool "console" (home .blocked) (schedule twice) 18) ∧
    enqueued "console" (pool "console" (home .blocked) (schedule twice) 18).state =
      [.blockDevice, .blockDevice] ∧
    Agrees "console" (pool "console" (home .blocked) (schedule twice) 18).state := by
  have hall : AllSucceeded (pool "console" (home .blocked) (schedule twice) 18) :=
    allSucceeded_of (by decide +kernel) (by decide +kernel)
  have hcond : ∀ n, InStep "console" (pool "console" (home .blocked) (schedule twice) n)
      (schedule twice n) := by
    refine forall_schedule (C := fun P m => InStep "console" P m) ?_ ?_
    · rintro P i hi j r u k ⟨⟩ - hp
      rw [hi] at hp
      cases hp
    · intro n hn i r u k _ hr _ _
      have hall : ∀ n < 18,
        status "console" (pool "console" (home .blocked) (schedule twice) n).state =
          some .blocked ∧ (pool "console" (home .blocked) (schedule twice) n).threads.all
            (fun θ => θ.tag.status = .blocked) = true := by decide +kernel
      obtain ⟨hst, htags⟩ := hall n hn
      obtain ⟨θ, hθ, rfl⟩ := Option.map_eq_some_iff.mp hr
      have htag := List.all_eq_true.mp htags θ (List.mem_of_getElem? hθ)
      rw [of_decide_eq_true htag]
      exact hst
  exact ⟨hall, by decide +kernel, queue_agrees (forall_other_schedule (by simp [twice]))
    (sound_home .blocked) hcond hall⟩

/-- Both requests succeed, the console is `ONLINE`, and the last command blocks it. -/
theorem queue_disagrees : ¬ ∀ (d g : String) (w : World) (moves : ℕ → Move Request World),
    Elsewhere moves → Sound d g w → ∀ n, AllSucceeded (pool d w moves n) →
      Agrees d (pool d w moves n).state := by
  intro h
  have hall : AllSucceeded (pool "console" (home .online) (schedule overlapping) 20) :=
    allSucceeded_of (by decide +kernel) (by decide +kernel)
  have hagrees := h "console" "ga" (home .online) (schedule overlapping)
    (forall_other_schedule (by simp [overlapping])) (sound_home .online) 20 hall
  rw [Agrees] at hagrees
  revert hagrees
  decide +kernel

end GuardTime.Commands.RouterSync
