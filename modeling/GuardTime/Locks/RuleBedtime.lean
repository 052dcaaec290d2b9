import Mathlib.Tactic
import GuardTime.Locks.Clock

/-! # Bedtimes of rules

A device has a bedtime of its own (`Clock`) or through a `BEDTIME` rule of its child, which
`checkRulesAndSchedules` compares with the clock at one minute only, the start. Runs of all requests
carry, for each device, the rule that alone has blocked it since it was last free.

* `blocked_tick`, `same_tick`, `reaches_tick`: what a tick does to the status of a device;
* `rule_bedtimes_kept_iff`: the rules are kept, in the sense of device bedtimes, exactly when every
  tick inside a window finds the device blocked or a rule starting, and every tick outside finds
  no device the rule alone holds or starts to hold. -/

namespace GuardTime.Locks.RuleBedtime

open GuardTime.Lib.Program GuardTime.Lib.Keyed GuardTime.Lib.Js GuardTime.Lib.Circle
open GuardTime.Lib.Runs
open GuardTime.Schema GuardTime.Server GuardTime.Prisma GuardTime.Services GuardTime.Locks.Clock
open GuardTime.System.Run (Step Request exec)

/-! ### What a block leaves alone -/

/-- The property survives what a block writes besides the status of the device. -/
structure BlockSafe (I : World → Prop) : Prop where
  steady : Steady I
  audit : Free .auditLog I
  routerCommand : Free .routerCommand I
  command : ∀ mk : String → Time → Command, (∀ id now, (mk id now).id = id) →
    Prog.Keeps I (Prisma.create .command mk)
  queue : ∀ w q, I w → I { w with commandQueue := q }
  cache : ∀ w c, I w → I { w with cache := c }

namespace BlockSafe

variable {I : World → Prop} (h : BlockSafe I)
include h

theorem log (data : Audit.Entry) : Prog.Keeps I (Audit.log data) :=
  (h.audit.create h.steady _).bind fun _ => .pure _

theorem adapter (device : Device) (reason : String) :
    Prog.Keeps I (Adapters.blockDevice device reason) := by
  unfold Adapters.blockDevice
  split
  · refine .bind (.bind (h.command _ fun _ _ => rfl) fun _ => ?_) fun _ => .pure _
    exact .bind (.write fun w hw => h.queue w _ hw) fun _ => .pure _
  · exact (h.command _ fun _ _ => rfl).bind fun _ => .pure _
  · refine .bind (keeps_query h.steady _) fun oauth => ?_
    cases oauth <;> exact .pure _
  · exact .pure _
  · exact .pure _

theorem syncBlockToRouter (gatewayId deviceId : String) :
    Prog.Keeps I (SmartBlock.syncBlockToRouter gatewayId deviceId) :=
  .bind (keeps_query h.steady _) fun _ =>
    .ite (fun _ => (h.log _).bind fun _ => .pure _) fun _ =>
      (h.routerCommand.create h.steady _).bind fun _ => (h.log _).bind fun _ => .pure _

/-- What follows the change of the status. -/
theorem settled (device : Device) (data : Audit.Entry) (result : Adapters.ControlResult) :
    Prog.Keeps I (do
      DnsPolicy.invalidateSourceIps [device.ipAddress, device.dnsSourceIp, device.ipv6Address]
      Audit.log data
      let routerSync ← Enforcement.syncToRouter device SmartBlock.syncBlockToRouter
      pure { result with data := result.data ++ [("routerSync", routerSync)] }) :=
  .bind (DnsPolicy.keeps_invalidateSourceIps h.cache) fun _ => (h.log _).bind fun _ =>
    .bind (Relays.syncToRouter fun g _ => h.syncBlockToRouter g _) fun _ => .pure _

theorem findDevice (deviceId : String) (parentId : Option String) :
    Prog.Keeps I (Enforcement.findDevice deviceId parentId) :=
  .bind (keeps_query h.steady _) fun _ => .bind (.orThrow _ _) fun _ =>
    .bind (.require _ _) fun _ => .pure _

/-- A block, where the status of the device may change. -/
theorem blockDevice {id : String} (reason : String) (parentId : Option String)
    (hstatus : Prog.Keeps I (Prisma.update .device id fun d => { d with status := .blocked })) :
    Prog.Keeps I (Enforcement.blockDevice id reason parentId) := by
  refine .bindOf (P := fun d => d.id = id) (h.findDevice id parentId) (fun w _ d hd => ?_) ?_
  · exact Table.key_of_find (Enforcement.findDevice_ok hd)
  · rintro d rfl
    refine .bind (h.adapter d reason) fun result => .ite (fun _ => ?_) fun _ => .pure _
    exact hstatus.bind fun _ => h.settled d _ result

end BlockSafe

/-! ### A device during a tick -/

/-- The device is `BLOCKED`. -/
def blocked (w : World) (k : String) : Bool :=
  (w.db.devices.find k).any fun d => d.status = .blocked

theorem blocked_iff {w : World} {k : String} :
    blocked w k = true ↔ ∃ d, w.db.devices.find k = some d ∧ d.status = .blocked := by
  simp [blocked, Option.any_eq_true]

/-- The identifiers of commands to come are distinct and new. -/
structure FreshCommands (w : World) : Prop where
  distinct : ∀ m n, w.uuids m 0 = w.uuids n 0 → m = n
  commands : ∀ n, w.calls ≤ n → ∀ c ∈ w.db.commands.rows, c.id ≠ w.uuids n 0

/-- The adapter of the device succeeds in blocking it. -/
def AdapterSucceeds (w : World) (d : Device) : Prop :=
  match d.controlMethod with
  | .androidAgent => FreshCommands w
  | .iosScreenTime => False
  | .xboxAdapter =>
    (∃ a ∈ w.db.oAuthAccounts.rows, a.userId = d.parentId ∧ a.provider = "microsoft") ∨
      (truthy d.gatewayId).isSome = true
  | .networkGateway => (truthy d.gatewayId).isSome = true
  | _ => True

/-- The device can be found, and its adapter succeeds. -/
def Ready (k : String) (w : World) : Prop :=
  ∃ d, w.db.devices.find k = some d ∧ AdapterSucceeds w d

/-- Whether the adapter succeeds depends on the columns it reads. -/
theorem AdapterSucceeds.congr {w w' : World} {d d' : Device} (h : AdapterSucceeds w d)
    (hmethod : d'.controlMethod = d.controlMethod) (hparent : d'.parentId = d.parentId)
    (hgateway : d'.gatewayId = d.gatewayId) (hoauth : w'.db.oAuthAccounts = w.db.oAuthAccounts)
    (hfresh : FreshCommands w → FreshCommands w') : AdapterSucceeds w' d' := by
  unfold AdapterSucceeds at h ⊢
  rw [hmethod, hparent, hgateway, hoauth]
  split <;> simp_all

/-- A property of the table of devices. -/
theorem blockSafe_devices (J : Table Device.id → Prop) : BlockSafe fun w => J w.db.devices where
  steady _ hw := hw
  audit _ _ hw := hw
  routerCommand _ _ hw := hw
  command _ _ := Free.create (fun _ hw => hw) (fun _ _ hw => hw) _
  queue _ _ hw := hw
  cache _ _ hw := hw

theorem FreshCommands.afterCall {w : World} {db : Database} (h : FreshCommands w)
    (hdb : db.commands = w.db.commands) : FreshCommands (World.afterCall w db) where
  distinct := h.distinct
  commands n hn c hc := h.commands n (Nat.le_of_succ_le hn) c (by rwa [← hdb])

/-- A new command uses up its identifier. -/
theorem FreshCommands.inserted {w : World} {c : Command} {t : Table Command.id}
    (h : FreshCommands w)
    (hid : c.id = w.uuids w.calls 0) (hins : w.db.commands.insert c = some t) :
    FreshCommands (World.afterCall w { w.db with commands := t }) where
  distinct := h.distinct
  commands n hn c' hc' := by
    have hlt : w.calls < n := hn
    have hrows : c' ∈ w.db.commands.rows ++ [c] := (Table.insert_eq_some hins).2 ▸ hc'
    rcases List.mem_append.mp hrows with hold | hnew
    · exact h.commands n hlt.le c' hold
    · intro heq
      rw [List.mem_singleton.mp hnew, hid] at heq
      have hn' : w.calls = n := h.distinct _ _ heq
      omega

theorem Ready.of_calls {k : String} {w : World} {db : Database} (h : Ready k w)
    (hdevices : db.devices = w.db.devices) (hoauth : db.oAuthAccounts = w.db.oAuthAccounts)
    (hfresh : FreshCommands w → FreshCommands (World.afterCall w db)) :
    Ready k (World.afterCall w db) := by
  obtain ⟨d, hd, hs⟩ := h
  exact ⟨d, (congrArg (Table.find · k) hdevices).trans hd, hs.congr rfl rfl rfl hoauth hfresh⟩

theorem blockSafe_ready (k : String) : BlockSafe (Ready k) where
  steady _ hw := hw.of_calls rfl rfl fun h => h.afterCall rfl
  audit w t hw := by
    obtain ⟨d, hd, hs⟩ := hw
    exact ⟨d, hd, hs.congr rfl rfl rfl rfl fun h => ⟨h.distinct, h.commands⟩⟩
  routerCommand w t hw := by
    obtain ⟨d, hd, hs⟩ := hw
    exact ⟨d, hd, hs.congr rfl rfl rfl rfl fun h => ⟨h.distinct, h.commands⟩⟩
  command mk hmk := by
    refine keeps_create (fun _ hw => hw.of_calls rfl rfl fun h => h.afterCall rfl)
      fun w t hw _ hins => ?_
    exact hw.of_calls rfl rfl fun h => h.inserted (hmk _ _) hins
  queue w q hw := by
    obtain ⟨d, hd, hs⟩ := hw
    exact ⟨d, hd, hs.congr rfl rfl rfl rfl fun h => ⟨h.distinct, h.commands⟩⟩
  cache w c hw := by
    obtain ⟨d, hd, hs⟩ := hw
    exact ⟨d, hd, hs.congr rfl rfl rfl rfl fun h => ⟨h.distinct, h.commands⟩⟩

/-- A change of a status, in the table. -/
theorem find_status {w : World} {id k : String} {status : DeviceStatus} {d : Device}
    (hd : w.db.devices.find k = some d)
    (hf : ∀ r : Device, ({ r with status := status } : Device).id = r.id) :
    (Model.device.patch w.db.devices w.now id (fun d => { d with status := status }) hf).find k =
      some (if d.id = id then { d with status := status, updatedAt := w.now } else d) :=
  Model.find_patch_some hd hf

theorem keeps_status_blocked (id k : String) :
    Prog.Keeps (fun w => blocked w k = true)
      (Prisma.update .device id fun d => { d with status := .blocked }) := by
  refine keeps_update (fun _ hw => hw) fun w _ hw _ _ => ?_
  obtain ⟨d, hd, hs⟩ := blocked_iff.mp hw
  refine blocked_iff.mpr ⟨_, find_status hd fun _ => rfl, ?_⟩
  split_ifs
  · rfl
  · exact hs

theorem keeps_status_ready (id k : String) :
    Prog.Keeps (Ready k) (Prisma.update .device id fun d => { d with status := .blocked }) := by
  refine keeps_update (blockSafe_ready k).steady fun w _ hw _ _ => ?_
  obtain ⟨d, hd, hs⟩ := hw
  refine ⟨_, find_status hd fun _ => rfl, ?_⟩
  split_ifs
  · exact hs.congr rfl rfl rfl rfl fun h => h.afterCall rfl
  · exact hs.congr rfl rfl rfl rfl fun h => h.afterCall rfl

theorem keeps_status_other {id k : String} (hne : id ≠ k) (d : Device) :
    Prog.Keeps (fun w => w.db.devices.find k = some d)
      (Prisma.update .device id fun d => { d with status := .blocked }) := by
  refine keeps_update (fun _ hw => hw) fun w _ hw _ _ => (find_status hw fun _ => rfl).trans ?_
  have hid : d.id = k := Table.key_of_find hw
  rw [if_neg (by rw [hid]; exact hne.symm)]

/-! ### A block -/

/-- A command for a device that can be found is accepted. -/
theorem run_createCommand {w : World} {k : String} {d : Device} (hd : w.db.devices.find k = some d)
    (h : FreshCommands w) (type : CommandType) (payload : String) :
    ∃ c w', (Adapters.createCommand d type payload).run w = (.ok c, w') := by
  unfold Adapters.createCommand
  rw [Prog.run_bind]
  rcases hc : (Prisma.create .command fun id now =>
      { id, deviceId := d.id, type, payload := some payload, status := .pending,
        deliveredAt := none, ackedAt := none, createdAt := now }).run w with ⟨e | c, w'⟩
  · have hid : d.id = k := Table.key_of_find hd
    rcases run_create_error hc with ⟨u, hu, -⟩ | ⟨l, hl, hholds⟩ | ⟨c, hc, hkey⟩
    · cases hu
    · rw [List.mem_singleton.mp hl] at hholds
      simp [Link.holds, hid, hd] at hholds
    · exact absurd hkey (h.commands w.calls le_rfl c hc)
  · exact ⟨c, _, rfl⟩

/-- A linked account is found. -/
theorem run_viaXbox {w : World} {d : Device} (action stored : String)
    (h : (∃ a ∈ w.db.oAuthAccounts.rows, a.userId = d.parentId ∧ a.provider = "microsoft") ∨
      (truthy d.gatewayId).isSome = true) :
    ∃ r w', (Adapters.viaXbox d action stored).run w = (.ok r, w') ∧ r.success = true := by
  unfold Adapters.viaXbox
  rw [Prog.run_bind, run_findFirst]
  rcases hhead : (matching .oAuthAccount w.db (w.tape w.calls) fun a =>
      a.userId = d.parentId && a.provider = "microsoft").head? with _ | a
  · have hgateway : (truthy d.gatewayId).isSome = true := by
      refine h.resolve_left ?_
      rintro ⟨a, ha, hmine⟩
      have hmem : a ∈ matching .oAuthAccount w.db (w.tape w.calls) fun a =>
          a.userId = d.parentId && a.provider = "microsoft" :=
        mem_matching.mpr ⟨ha, by simpa using hmine⟩
      rw [List.head?_eq_none_iff.mp hhead] at hmem
      cases hmem
    obtain ⟨g, hg⟩ := Option.isSome_iff_exists.mp hgateway
    exact ⟨_, _, rfl, by rw [Adapters.fallbackToGateway, hg]⟩
  · exact ⟨_, _, rfl, rfl⟩

/-- The adapter of a device that is ready answers with success. -/
theorem run_adapter {w : World} {k : String} {d : Device} (hd : w.db.devices.find k = some d)
    (h : AdapterSucceeds w d) (reason : String) :
    ∃ r w', (Adapters.blockDevice d reason).run w = (.ok r, w') ∧ r.success = true := by
  unfold AdapterSucceeds at h
  unfold Adapters.blockDevice
  cases hm : d.controlMethod <;> simp only [hm] at h ⊢
  case androidAgent =>
    obtain ⟨c, w', hc⟩ := run_createCommand hd h .lockDevice
      (stringify (.obj [("reason", .str reason)]))
    rw [Prog.run_bind, hc]
    exact ⟨_, _, rfl, rfl⟩
  case xboxAdapter => exact run_viaXbox _ _ h
  case networkGateway =>
    obtain ⟨g, hg⟩ := Option.isSome_iff_exists.mp h
    exact ⟨_, _, rfl, by rw [Adapters.viaGateway, hg]⟩
  -- the methods without an adapter use the mock
  all_goals exact ⟨_, _, rfl, rfl⟩

/-- **A block reaches its device**, if the adapter succeeds. -/
theorem reaches_blockDevice (k reason : String) {w : World} (h : Ready k w) :
    blocked ((Enforcement.blockDevice k reason none).run w).2 k = true := by
  obtain ⟨d, hd, hs⟩ := h
  have hid : d.id = k := Table.key_of_find hd
  have hfound : (Enforcement.findDevice k none).run w = (.ok d, World.afterCall w w.db) := by
    have hget : (Model.device.get w.db).find k = some d := hd
    rw [Enforcement.findDevice, Prog.run_bind, run_findUnique, hget]
    rfl
  have hready : Ready k (World.afterCall w w.db) := (blockSafe_ready k).steady w ⟨d, hd, hs⟩
  have hs' : AdapterSucceeds (World.afterCall w w.db) d :=
    hs.congr rfl rfl rfl rfl fun h => h.afterCall rfl
  have hd' : (World.afterCall w w.db).db.devices.find k = some d := hd
  obtain ⟨r, w₂, hadapter, hsuccess⟩ := run_adapter hd' hs' reason
  obtain ⟨d₂, hd₂, -⟩ := ((blockSafe_ready k).adapter d reason).of_run hadapter hready
  have hget₂ : (Model.device.get w₂.db).find k = some d₂ := hd₂
  have hupdate : (Prisma.update .device k fun d => { d with status := .blocked }).run w₂ = _ :=
    run_update hget₂ rfl rfl
  rw [Enforcement.blockDevice, Prog.run_bind, hfound]
  dsimp only
  rw [Prog.run_bind, hadapter]
  dsimp only
  rw [if_pos hsuccess, Enforcement.settle, hid, Prog.run_bind, hupdate]
  refine ((blockSafe_devices fun t => (t.find k).any (fun d => d.status = .blocked) = true).settled
    d _ r) _ ?_
  refine blocked_iff.mpr ⟨_, find_status hd₂ fun _ => rfl, ?_⟩
  rw [if_pos (Table.key_of_find hd₂)]

/-! ### A tick -/

/-- The bedtime rules of the device's child that start at the time. -/
def starting (env : Env) (t : Time) (w : World) (k : String) : List Rule :=
  match w.db.devices.find k with
  | none => []
  | some d => w.db.rules.rows.filter fun r => r.type = .bedtime && r.active &&
      r.startTime = some (Scheduler.currentTime env t) && Scheduler.appliesOn (env.zone.day t) r &&
      d.childId = some r.childId

theorem mem_starting {env : Env} {t : Time} {w : World} {k : String} {d : Device} {r : Rule}
    (hd : w.db.devices.find k = some d) : r ∈ starting env t w k ↔
      r ∈ w.db.rules.rows ∧ r.type = .bedtime ∧ r.active = true ∧
      r.startTime = some (Scheduler.currentTime env t) ∧
      Scheduler.appliesOn (env.zone.day t) r = true ∧ d.childId = some r.childId := by
  simp [starting, hd, and_assoc]

/-- The turns of a tick are those of the starting rules, each with the devices of its child. -/
theorem mem_startingRules {time : String} {db : Database} {n : ℕ} {p : Rule × List Device} :
    p ∈ Scheduler.startingRules time db n ↔
      (p.1 ∈ db.rules.rows ∧ p.1.type = .bedtime ∧ p.1.active = true ∧
        p.1.startTime = some time) ∧
      p.2 = matching .device db n fun d => d.childId = some p.1.childId := by
  unfold Scheduler.startingRules
  rw [List.mem_map]
  constructor
  · rintro ⟨r, hr, rfl⟩
    obtain ⟨hmem, hr⟩ := mem_matching.mp hr
    refine ⟨⟨hmem, ?_⟩, rfl⟩
    simpa [and_assoc] using hr
  · rintro ⟨⟨hmem, hr⟩, hds⟩
    refine ⟨p.1, mem_matching.mpr ⟨hmem, by simpa [and_assoc] using hr⟩, ?_⟩
    rw [← hds]

/-- One turn, where the block of the device keeps the property. -/
theorem keeps_turn {I : World → Prop} (h : BlockSafe I) (rule : Rule) (device : Device)
    (hstatus : Prog.Keeps I
      (Prisma.update .device device.id fun d => { d with status := .blocked })) :
    Prog.Keeps I (ignoreErrors (Scheduler.enforceBedtimeRule rule device)) :=
  keeps_ignoreErrors (.bind (h.blockDevice _ _ hstatus) fun _ =>
    .ite (fun _ => h.log _) fun _ => .pure _)

/-- The turns of one rule. -/
def turns (env : Env) (t : Time) (p : Rule × List Device) : Api Unit :=
  if Scheduler.appliesOn (env.zone.day t) p.1 then
    Scheduler.forEachSafely p.2 (Scheduler.enforceBedtimeRule p.1)
  else pure ()

theorem run_tick (env : Env) (w : World) : (Scheduler.checkRulesAndSchedules env).run w =
    (Prog.forEach (Scheduler.startingRules (Scheduler.currentTime env w.now) w.db (w.tape w.calls))
      (turns env w.now)).run (World.afterCall w w.db) := rfl

theorem yields_turns (env : Env) (t : Time) (p : Rule × List Device) :
    Prog.Yields () (turns env t p) :=
  .ite (.forEach (fun _ => yields_ignoreErrors _) _) .pure

/-- The world after a tick. -/
def tick (env : Env) (w : World) : World := ((Scheduler.checkRulesAndSchedules env).run w).2

/-- What every block of the tick keeps, the tick keeps. -/
theorem keeps_tick {I : World → Prop} (h : BlockSafe I) (env : Env) (w : World)
    (hstatus : ∀ d ∈ w.db.devices.rows, starting env w.now w d.id ≠ [] →
      Prog.Keeps I (Prisma.update .device d.id fun d => { d with status := .blocked }))
    (hw : I w) : I (tick env w) := by
  rw [tick, run_tick]
  refine Prog.Keeps.forEach _ (fun p hp => .ite (fun happlies => ?_) fun _ => .pure _) _
    (h.steady w hw)
  obtain ⟨⟨hmem, htype, hactive, hstart⟩, hds⟩ := mem_startingRules.mp hp
  refine .forEach _ fun d hd => keeps_turn h p.1 d (hstatus d ?_ ?_)
  · rw [hds] at hd
    exact (mem_matching.mp hd).1
  · rw [hds] at hd
    obtain ⟨hrow, hchild⟩ := mem_matching.mp hd
    have hfind : w.db.devices.find d.id = some d := Table.find_key hrow
    exact List.ne_nil_of_mem ((mem_starting hfind).mpr
      ⟨hmem, htype, hactive, hstart, happlies, by simpa using hchild⟩)

/-- A blocked device stays blocked. -/
theorem blocked_tick (env : Env) {w : World} {k : String} (h : blocked w k = true) :
    blocked (tick env w) k = true :=
  keeps_tick (blockSafe_devices fun t => (t.find k).any (fun d => d.status = .blocked) = true) env w
    (fun d _ _ => keeps_status_blocked d.id k) h

/-- A device for which no rule starts stays as it is. -/
theorem same_tick (env : Env) {w : World} {k : String} {d : Device}
    (hd : w.db.devices.find k = some d) (h : starting env w.now w k = []) :
    (tick env w).db.devices.find k = some d := by
  refine keeps_tick (blockSafe_devices fun t => t.find k = some d) env w (fun d' _ hne => ?_) hd
  refine keeps_status_other ?_ d
  rintro rfl
  exact hne h

/-- The turn of a device that is ready blocks it. -/
theorem reaches_turn (rule : Rule) (device : Device) {w : World} (h : Ready device.id w) :
    blocked ((ignoreErrors (Scheduler.enforceBedtimeRule rule device)).run w).2 device.id =
      true := by
  have hsafe := blockSafe_devices fun t =>
    (t.find device.id).any (fun d => d.status = .blocked) = true
  have hturn : Prog.Leads (Ready device.id) (fun w => blocked w device.id = true)
      (Scheduler.enforceBedtimeRule rule device) := by
    refine .andThen (fun w hw => reaches_blockDevice _ _ hw) fun result => ?_
    exact .ite (fun _ => hsafe.log _) fun _ => .pure _
  have hend := hturn w h
  rw [ignoreErrors, Prog.run_catchErr]
  rcases hrun : (Scheduler.enforceBedtimeRule rule device).run w with ⟨e | u, w'⟩ <;>
    rw [hrun] at hend
  · exact hend
  · exact hend

/-- **A starting rule blocks** every device of its child whose adapter succeeds. -/
theorem reaches_tick (env : Env) {w : World} {k : String} (h : Ready k w)
    (hstarting : starting env w.now w k ≠ []) : blocked (tick env w) k = true := by
  obtain ⟨d, hd, -⟩ := id h
  obtain rfl : d.id = k := Table.key_of_find hd
  obtain ⟨r, hr⟩ := List.exists_mem_of_ne_nil _ hstarting
  obtain ⟨hmem, htype, hactive, hstart, happlies, hchild⟩ := (mem_starting hd).mp hr
  have hready : ∀ rule d', Prog.Keeps (Ready d.id)
      (ignoreErrors (Scheduler.enforceBedtimeRule rule d')) := fun rule d' =>
    keeps_turn (blockSafe_ready d.id) rule d' (keeps_status_ready d'.id d.id)
  have hblocked : ∀ rule d', Prog.Keeps (fun w => blocked w d.id = true)
      (ignoreErrors (Scheduler.enforceBedtimeRule rule d')) := fun rule d' =>
    keeps_turn (blockSafe_devices fun t => (t.find d.id).any (fun d => d.status = .blocked) = true)
      rule d' (keeps_status_blocked d'.id d.id)
  let p : Rule × List Device := (r, matching .device w.db (w.tape w.calls) fun d' =>
    d'.childId = some r.childId)
  -- the rule's turn among the rules', and the device's among the rule's
  have hrule : ∀ w', Ready d.id w' → blocked ((turns env w.now p).run w').2 d.id = true := by
    intro w' hw'
    have hdevice : d ∈ p.2 := mem_matching.mpr ⟨Table.mem_of_find hd, by simpa using hchild⟩
    rw [turns, if_pos happlies]
    exact Prog.forEach_reaches (fun _ => yields_ignoreErrors _) (fun _ => reaches_turn r d) hdevice
      (fun d' _ => hready r d') (fun d' _ => hblocked r d') w' hw'
  have hp : p ∈ Scheduler.startingRules (Scheduler.currentTime env w.now) w.db (w.tape w.calls) :=
    mem_startingRules.mpr ⟨⟨hmem, htype, hactive, hstart⟩, rfl⟩
  rw [tick, run_tick]
  refine Prog.forEach_reaches (J := fun w => blocked w d.id = true)
    (yields_turns env w.now) hrule hp
    (fun q _ => ?_) (fun q _ => ?_) _ ((blockSafe_ready d.id).steady w h)
  · exact .ite (fun _ => .forEach _ fun d' _ => hready q.1 d') fun _ => .pure _
  · exact .ite (fun _ => .forEach _ fun d' _ => hblocked q.1 d') fun _ => .pure _

/-! ### Which rule holds a device -/

/-- The table with the device free. -/
def freedDevice (t : Table Device.id) (k : String) : Table Device.id :=
  t.modify (fun d => d.id = k) (fun d => { d with status := .online }) fun _ => rfl

/-- The world with the device free. -/
def freed (w : World) (k : String) : World :=
  { w with db := { w.db with devices := freedDevice w.db.devices k } }

/-- The step blocks the device by itself: it would also if the device were free. -/
def blocksAfresh (env : Env) (w : World) (k : String) (e : Step) : Bool :=
  blocked (exec env (freed w k) e) k

/-- A run's state: the world, and for each device the rule that alone has blocked it. -/
structure State where
  world : World
  only : String → Option String

/-- The rule that alone blocks the device after a step: the one rule that starts at a tick, where
the device was free or this rule's before; and the same as before where the step does not block. -/
def onlyAfter (env : Env) (s : State) (e : Step) (k : String) : Option String :=
  if blocked (exec env s.world e) k then
    if blocksAfresh env s.world k e then
      match e.request, starting env e.time s.world k with
      | .scheduler .checkRulesAndSchedules, [r] =>
        if blocked s.world k = false ∨ s.only k = some r.id then some r.id else none
      | _, _ => none
    else s.only k
  else none

def advance (env : Env) (s : State) (e : Step) : State := ⟨exec env s.world e, onlyAfter env s e⟩

def start (w : World) : State := ⟨w, fun _ => none⟩

/-- A rule holds blocked devices only. -/
def HoldsBlocked (s : State) : Prop := ∀ k id, s.only k = some id → blocked s.world k = true

theorem holdsBlocked_advance (env : Env) (s : State) (e : Step) :
    HoldsBlocked (advance env s e) := by
  intro k id h
  by_contra hfree
  have hnone : (advance env s e).only k = none := if_neg hfree
  rw [hnone] at h
  cases h

theorem holdsBlocked_run (env : Env) (w : World) (steps : List Step) :
    HoldsBlocked (steps.foldl (advance env) (start w)) := by
  rcases steps.eq_nil_or_concat with rfl | ⟨steps, e, rfl⟩
  · intro k id h
    cases h
  · rw [List.concat_eq_append, List.foldl_append]
    exact holdsBlocked_advance env _ e

/-- A tick of the scheduler at the time. -/
def tickAt (t : Time) : Step := ⟨t, .scheduler .checkRulesAndSchedules⟩

section Tick
variable {env : Env} {s : State} {t : Time} {k : String} {d : Device}

theorem exec_tickAt (env : Env) (w : World) (t : Time) :
    exec env w (tickAt t) = tick env (w.atTime t) := rfl

theorem ready_atTime {w : World} (t : Time) (hd : w.db.devices.find k = some d)
    (h : AdapterSucceeds w d) : Ready k (w.atTime t) :=
  ⟨d, hd, h.congr rfl rfl rfl rfl fun h => ⟨h.distinct, h.commands⟩⟩

theorem find_freed {w : World} (hd : w.db.devices.find k = some d) :
    (freed w k).db.devices.find k = some { d with status := .online } := by
  have hid : d.id = k := Table.key_of_find hd
  change (freedDevice w.db.devices k).find k = _
  rw [freedDevice, Table.find_modify, hd, Option.map_some, if_pos (by simpa using hid)]

theorem starting_freed {w : World} (hd : w.db.devices.find k = some d) :
    starting env t (freed w k) k = starting env t w k := by
  unfold starting
  rw [find_freed hd, hd]
  rfl

/-- After a tick the device is blocked exactly if it was, or a rule starts. -/
theorem blocked_tickAt {w : World} (hd : w.db.devices.find k = some d) (hs : AdapterSucceeds w d) :
    blocked (exec env w (tickAt t)) k = true ↔
      blocked w k = true ∨ starting env t w k ≠ [] := by
  rw [exec_tickAt]
  constructor
  · intro h
    by_contra hnot
    obtain ⟨hfree, hnone⟩ := not_or.mp hnot
    obtain ⟨d', hd', hblocked⟩ := blocked_iff.mp h
    have hsame := same_tick env (w := w.atTime t) hd (not_not.mp hnone)
    cases hd'.symm.trans hsame
    exact hfree (blocked_iff.mpr ⟨d, hd, hblocked⟩)
  · rintro (h | h)
    · exact blocked_tick env h
    · exact reaches_tick env (ready_atTime t hd hs) h

theorem blocksAfresh_tickAt {w : World} (hd : w.db.devices.find k = some d)
    (hs : AdapterSucceeds w d) :
    blocksAfresh env w k (tickAt t) = true ↔ starting env t w k ≠ [] := by
  have hs' : AdapterSucceeds (freed w k) { d with status := .online } :=
    hs.congr rfl rfl rfl rfl fun h => ⟨h.distinct, h.commands⟩
  have hfree : blocked (freed w k) k = false := by
    rw [blocked, find_freed hd]
    rfl
  rw [blocksAfresh, blocked_tickAt (find_freed hd) hs', starting_freed hd, hfree]
  simp

end Tick

/-! ### Rules and the clock -/

/-- The rule is in force today, from `a` to `b`. -/
structure InForce (env : Env) (t : Time) (w : World) (r : Rule) (a b : String) : Prop where
  mem : r ∈ w.db.rules.rows
  type : r.type = .bedtime
  active : r.active = true
  startTime : r.startTime = some a
  endTime : r.endTime = some b
  starts : hhmm a = true
  ends : hhmm b = true
  today : Scheduler.appliesOn (env.zone.day t) r = true

/-- The rule is kept at a tick as a bedtime of the device is: inside the window the device is
blocked after the tick, outside it is not blocked by the rule alone. -/
def KeptAt (env : Env) (s : State) (t : Time) : Prop := ∀ r a b k d, InForce env t s.world r a b →
  s.world.db.devices.find k = some d → d.childId = some r.childId → AdapterSucceeds s.world d →
  (minuteOfDay env.zone t ∈ Arc 1440 (minutes a) (minutes b) →
    blocked (advance env s (tickAt t)).world k = true) ∧
  (minuteOfDay env.zone t ∉ Arc 1440 (minutes a) (minutes b) →
    (advance env s (tickAt t)).only k = some r.id →
    blocked (advance env s (tickAt t)).world k = false)

/-- Inside its window the rule finds the device blocked, or a rule of the child starts. -/
def FindsBlocked (env : Env) (s : State) (t : Time) (k : String) : Prop :=
  blocked s.world k = true ∨ starting env t s.world k ≠ []

/-- Outside its window the rule alone holds the device and none starts, or it is the one to start
and the device is free or the rule's. -/
def Overstays (env : Env) (s : State) (t : Time) (r : Rule) (k : String) : Prop :=
  (starting env t s.world k = [] ∧ s.only k = some r.id) ∨
  (starting env t s.world k = [r] ∧ (blocked s.world k = false ∨ s.only k = some r.id))

/-- What a tick has to find. -/
def Meets (env : Env) (s : State) (t : Time) : Prop := ∀ r a b k d, InForce env t s.world r a b →
  s.world.db.devices.find k = some d → d.childId = some r.childId → AdapterSucceeds s.world d →
  (minuteOfDay env.zone t ∈ Arc 1440 (minutes a) (minutes b) → FindsBlocked env s t k) ∧
  (minuteOfDay env.zone t ∉ Arc 1440 (minutes a) (minutes b) → ¬ Overstays env s t r k)

/-- After a tick the rule alone holds the device exactly if it overstays. -/
theorem only_tickAt {env : Env} {s : State} {t : Time} {r : Rule} {k : String} {d : Device}
    (hholds : HoldsBlocked s) (hr : r ∈ s.world.db.rules.rows)
    (hd : s.world.db.devices.find k = some d) (hs : AdapterSucceeds s.world d) :
    (advance env s (tickAt t)).only k = some r.id ↔ Overstays env s t r k := by
  have hblocked : blocked (exec env s.world (tickAt t)) k = true ↔
      blocked s.world k = true ∨ starting env t s.world k ≠ [] := blocked_tickAt hd hs
  have hafresh : blocksAfresh env s.world k (tickAt t) = true ↔ starting env t s.world k ≠ [] :=
    blocksAfresh_tickAt hd hs
  have hrules : ∀ r' ∈ starting env t s.world k, r'.id = r.id → r' = r := fun r' hr' hid =>
    Table.eq_of_key ((mem_starting hd).mp hr').1 hr hid
  change onlyAfter env s (tickAt t) k = some r.id ↔ _
  unfold onlyAfter Overstays
  rcases hstarting : starting env t s.world k with _ | ⟨r', _ | ⟨r'', rs⟩⟩ <;>
    rw [hstarting] at hblocked hafresh hrules
  · -- nothing starts
    have hquiet : blocksAfresh env s.world k (tickAt t) = false := by simpa using hafresh
    rw [hquiet, if_neg Bool.false_ne_true]
    constructor
    · intro h
      split_ifs at h
      exact .inl ⟨rfl, h⟩
    · rintro (⟨-, h⟩ | ⟨h, -⟩)
      · rw [if_pos (hblocked.mpr (.inl (hholds k r.id h)))]
        exact h
      · cases h
  · -- one rule starts
    have hnow : blocksAfresh env s.world k (tickAt t) = true := hafresh.mpr (by simp)
    have hafter : blocked (exec env s.world (tickAt t)) k = true := hblocked.mpr (.inr (by simp))
    rw [if_pos hafter, if_pos hnow]
    simp only [tickAt, hstarting]
    constructor
    · intro h
      split_ifs at h with hfree
      obtain rfl := hrules r' (by simp) (Option.some.inj h)
      exact .inr ⟨rfl, hfree⟩
    · rintro (⟨h, -⟩ | ⟨h, hfree⟩)
      · cases h
      · obtain rfl := (List.cons.inj h).1
        rw [if_pos hfree]
  · -- several rules start
    have hnow : blocksAfresh env s.world k (tickAt t) = true := hafresh.mpr (by simp)
    have hafter : blocked (exec env s.world (tickAt t)) k = true := hblocked.mpr (.inr (by simp))
    rw [if_pos hafter, if_pos hnow]
    simp [tickAt, hstarting]

/-- A tick keeps the rules exactly if it finds what it has to. -/
theorem keptAt_iff {env : Env} {s : State} (hholds : HoldsBlocked s) (t : Time) :
    KeptAt env s t ↔ Meets env s t := by
  unfold KeptAt Meets
  refine forall₅_congr fun r a b k d => forall₄_congr fun hr hd hchild hs => ?_
  have hblocked : blocked (advance env s (tickAt t)).world k = true ↔ FindsBlocked env s t k :=
    blocked_tickAt hd hs
  have honly : (advance env s (tickAt t)).only k = some r.id ↔ Overstays env s t r k :=
    only_tickAt hholds hr.mem hd hs
  refine and_congr (imp_congr_right fun _ => hblocked) (imp_congr_right fun _ => ?_)
  rw [honly]
  constructor
  · intro h hstays
    have hheld := holdsBlocked_advance env s (tickAt t) k r.id (honly.mpr hstays)
    rw [h hstays] at hheld
    cases hheld
  · exact fun h hstays => absurd hstays h

/-- Of the steps, the ticks. -/
def AtTicks (P : State → Time → Prop) (s : State) (e : Step) : Prop := ∀ t, e = tickAt t → P s t

/-- **Bedtimes of rules.** In a run of any requests, every tick leaves the rules kept exactly when
every tick inside the window of a rule finds the device blocked or a rule starting, and outside it
the rule does not overstay. -/
theorem rule_bedtimes_kept_iff (env : Env) (w : World) (steps : List Step) :
    Steps (advance env) (AtTicks (KeptAt env)) (start w) steps ↔
      Steps (advance env) (AtTicks (Meets env)) (start w) steps := by
  refine forall₄_congr fun steps₁ e steps₂ _ => forall₂_congr fun t _ => ?_
  exact keptAt_iff (holdsBlocked_run env w steps₁) t

/-- A bedtime from nine in the evening to seven. -/
def bedtimeRule : Rule :=
  ⟨"rule", "adam", .bedtime, "", some "21:00", some "07:00", none, [], [], none, true, 0, 0⟩

/-- The household with the rule. -/
def ruled : World :=
  .fresh { Household.withDevices [Household.device "phone" "amal" "adam"]
    (Household.nodup_device "phone" "amal" "adam") with
    rules := ⟨[bedtimeRule], by simp⟩ } 0

/-- A tick half an hour into the window, the first since the rule was made, leaves the phone
alone. -/
theorem late_tick_misses : ¬ ∀ (env : Env) (w : World) (steps : List Step),
    Steps (advance env) (AtTicks (KeptAt env)) (start w) steps := by
  intro h
  have hkept := h .plain ruled [tickAt 77460000] [] _
    [] rfl _ rfl bedtimeRule "21:00" "07:00" "phone"
    (Household.device "phone" "amal" "adam")
    ⟨List.mem_singleton.mpr rfl, rfl, rfl, rfl, rfl, by decide, by decide, rfl⟩ rfl rfl trivial
  have hfree : blocked (exec .plain ruled (tickAt 77460000)) "phone" = false := by decide +kernel
  have hblocked : blocked (exec .plain ruled (tickAt 77460000)) "phone" = true :=
    hkept.1 (by decide +kernel)
  rw [hfree] at hblocked
  cases hblocked

end GuardTime.Locks.RuleBedtime
