import Mathlib.Tactic
import GuardTime.Lib.Runs
import GuardTime.System.Run
import GuardTime.Household

/-! # Parents' locks and bedtime locks

Runs of `lockInternet`, `unlockInternet`, `upsertSchedule` and passes of `enforceDeviceSchedules`,
one after the other at any times. Next to the world a run keeps whose each lock is: the last lock a
parent has set on a device and not taken back, and whether the scheduler has placed the one in
force.

* `find_pass`: what a pass does to every device, in one equation;
* `parents_locks_kept_iff`: parents' locks stay in force exactly when no pass meets one whose reason
  starts with `Bedtime` on a device with automatic blocking that is outside its bedtime;
* `bedtime_locks_released_iff`: after a pass the bedtime locks left are those inside their windows
  exactly when automatic blocking is still on for every device with such a lock. -/

namespace GuardTime.Locks.Bedtime

open GuardTime.Lib.Program GuardTime.Lib.Keyed GuardTime.Lib.Js GuardTime.Lib.Runs
open GuardTime.Schema GuardTime.Server GuardTime.Prisma GuardTime.Services

/-! ### Programs and the devices -/

/-- The devices are those of the table, and the clock shows `now`. -/
def At (t : Table Device.id) (now : Time) (w : World) : Prop := w.db.devices = t ∧ w.now = now

section At
variable {t t' : Table Device.id} {now : Time}

theorem steady_at : Steady (At t now) := fun _ h => h

theorem keeps_log (data : Audit.Entry) : Prog.Keeps (At t now) (Audit.log data) :=
  have hlogs : Free .auditLog (At t now) := fun _ _ h => h
  .bind (hlogs.create steady_at _) fun _ => .pure _

theorem keeps_blockGaming (childId reason : String) :
    Prog.Keeps (At t now) (Scheduler.blockGaming childId reason) :=
  have hblocks : Free .categoryBlock (At t now) := fun _ _ h => h
  .bind (hblocks.upsert steady_at _ _ _ _) fun _ => .pure _

theorem keeps_enforceDailyLimit (env : Env) (d : Device) :
    Prog.Keeps (At t now) (Scheduler.enforceDailyLimit env now d) := by
  unfold Scheduler.enforceDailyLimit
  split
  · exact .bind (keeps_query steady_at _) fun _ => .ite
      (fun _ => (keeps_blockGaming _ _).bind fun _ => keeps_log _) fun _ => .pure _
  · exact .pure _

/-- An update of an existing device that touches neither unique columns nor links. -/
theorem leads_updateDevice {d : Device} {f : Device → Device} {hf : ∀ d, (f d).id = d.id}
    (hd : t.find d.id = some d) (hu : Model.device.uniques (f d) = Model.device.uniques d)
    (hl : Model.device.links (f d) = Model.device.links d) :
    Prog.Leads (At t now) (At (Model.device.patch t now d.id f hf) now)
      (Prisma.update .device d.id f hf) := by
  rintro w ⟨rfl, rfl⟩
  rw [run_update (m := .device) hd hu hl]
  exact ⟨rfl, rfl⟩

theorem leads_ignoreErrors {p : Api Unit} {P Q : World → Prop} (h : Prog.Leads P Q p) :
    Prog.Leads P Q (ignoreErrors p) := by
  intro w hw
  have hq := h w hw
  rw [ignoreErrors, Prog.run_catchErr]
  rcases hr : p.run w with ⟨_ | _, w'⟩ <;> rw [hr] at hq <;> exact hq

end At

/-! ### A pass -/

/-- The device with the bedtime lock. -/
def withBedtimeLock (now : Time) (d : Device) : Device :=
  { d with
    internetLocked := true
    blockingMode := .fullInternetLock
    internetLockedReason := some ("Bedtime " ++ Scheduler.showOption d.bedtimeStart ++ "-" ++
      Scheduler.showOption d.bedtimeEnd)
    internetLockedAt := some now
    updatedAt := now }

/-- The device without a lock. -/
def withoutLock (now : Time) (d : Device) : Device :=
  { d with
    internetLocked := false
    blockingMode := .gamingOnly
    internetLockedReason := none
    internetLockedAt := none
    updatedAt := now }

/-- What a pass makes of a device with automatic blocking. -/
def enforced (env : Env) (now : Time) (d : Device) : Device :=
  let time := Scheduler.currentTime env now
  if Scheduler.inBedtime time d && !d.internetLocked then withBedtimeLock now d
  else if !Scheduler.inBedtime time d && Scheduler.lockedByBedtime d then withoutLock now d
  else d

/-- What a pass makes of a device. -/
def afterPass (env : Env) (now : Time) (d : Device) : Device :=
  if d.autoBlockEnabled then enforced env now d else d

section Pass
variable {t : Table Device.id} {env : Env} {now : Time}

/-- The table with one row replaced. -/
def Replaces (t t' : Table Device.id) (d d' : Device) : Prop :=
  t'.find d.id = some d' ∧ ∀ k, k ≠ d.id → t'.find k = t.find k

theorem replaces_patch {d : Device} {f : Device → Device} {hf : ∀ d, (f d).id = d.id}
    (hd : t.find d.id = some d) :
    Replaces t (Model.device.patch t now d.id f hf) d (Model.device.touch now (f d)) := by
  constructor
  · rw [Model.find_patch_self, hd]
    rfl
  · intro k hk
    rw [Model.find_patch]
    rcases hk' : t.find k with _ | d'
    · rfl
    · rw [Option.map_some, if_neg]
      rw [Table.key_of_find hk']
      exact hk

/-- One device of a pass. -/
theorem enforceSchedule_device {d : Device} (hd : t.find d.id = some d) {w : World}
    (hw : At t now w) : ∃ t', At t' now ((Scheduler.enforceSchedule env now d).run w).2 ∧
      Replaces t t' d (enforced env now d) := by
  have hkept : Replaces t t d d := ⟨hd, fun _ _ => rfl⟩
  unfold Scheduler.enforceSchedule enforced
  dsimp only
  split_ifs with hlock hunlock
  · refine ⟨_, Prog.Leads.andThen (leads_updateDevice hd rfl rfl) (fun _ => keeps_log _) w hw, ?_⟩
    exact replaces_patch hd
  · rw [Prog.when, if_pos hunlock]
    refine ⟨_, Prog.Leads.andThen (Prog.Leads.andThen (leads_updateDevice hd rfl rfl) fun _ =>
      keeps_log _) (fun _ => keeps_enforceDailyLimit env d) w hw, ?_⟩
    exact replaces_patch hd
  · refine ⟨t, ?_, hkept⟩
    rw [Prog.when, if_neg hunlock]
    exact (Prog.Keeps.bind (.pure _) fun _ => keeps_enforceDailyLimit env d) w hw

/-- The loop of a pass. -/
theorem forEach_devices : ∀ (ds : List Device) (t : Table Device.id), (ds.map Device.id).Nodup →
    (∀ d ∈ ds, t.find d.id = some d) → ∀ w, At t now w →
    ∃ t', At t' now ((Scheduler.forEachSafely ds (Scheduler.enforceSchedule env now)).run w).2 ∧
      (∀ d ∈ ds, t'.find d.id = some (enforced env now d)) ∧
      ∀ k, k ∉ ds.map Device.id → t'.find k = t.find k
  | [], t, _, _, w, hw => ⟨t, hw, by simp, fun _ _ => rfl⟩
  | d :: ds, t, hnodup, hfind, w, hw => by
    obtain ⟨hd, hnodup⟩ := List.nodup_cons.mp hnodup
    have hstep : ∃ t₁, At t₁ now ((ignoreErrors (Scheduler.enforceSchedule env now d)).run w).2 ∧
        Replaces t t₁ d (enforced env now d) := by
      obtain ⟨t₁, hat, hrep⟩ := enforceSchedule_device (hfind d (by simp)) hw
      refine ⟨t₁, ?_, hrep⟩
      exact leads_ignoreErrors (P := fun w' => w' = w) (by rintro _ rfl; exact hat) w rfl
    obtain ⟨t₁, hat, hself, hothers⟩ := hstep
    have hne : ∀ d' ∈ ds, d'.id ≠ d.id := fun d' hd' he => hd (he ▸ List.mem_map_of_mem hd')
    obtain ⟨t', hat', hlisted, hrest⟩ := forEach_devices ds t₁ hnodup
      (fun d' hd' => by rw [hothers _ (hne d' hd')]; exact hfind d' (by simp [hd'])) _ hat
    refine ⟨t', ?_, ?_, ?_⟩
    · rw [Scheduler.forEachSafely, Prog.forEach, (yields_ignoreErrors _).run_bind]
      exact hat'
    · intro d' hd'
      rcases List.mem_cons.mp hd' with rfl | hd'
      · rw [hrest _ hd, hself]
      · exact hlisted d' hd'
    · intro k hk
      rw [List.map_cons, List.mem_cons, not_or] at hk
      rw [hrest k hk.2, hothers k hk.1]

/-- **What a pass does** to the devices. -/
theorem find_pass (env : Env) (w : World) (k : String) :
    ((Scheduler.enforceDeviceSchedules env).run w).2.db.devices.find k =
      (w.db.devices.find k).map (afterPass env w.now) := by
  have hmem : ∀ d, d ∈ matching .device w.db (w.tape w.calls) Device.autoBlockEnabled ↔
      d ∈ w.db.devices.rows ∧ d.autoBlockEnabled = true := fun d => mem_matching
  have hnodup : ((matching .device w.db (w.tape w.calls) Device.autoBlockEnabled).map
      Device.id).Nodup := by
    refine ((arrange_perm _ _).map Device.id).nodup_iff.mpr ?_
    exact (List.Sublist.map _ List.filter_sublist).nodup w.db.devices.nodup
  obtain ⟨t, hat, hlisted, hrest⟩ := @forEach_devices env w.now
    (matching .device w.db (w.tape w.calls) Device.autoBlockEnabled) w.db.devices hnodup
    (fun d hd => Table.find_key ((hmem d).mp hd).1) (World.afterCall w w.db) ⟨rfl, rfl⟩
  have hrun : ((Scheduler.enforceDeviceSchedules env).run w).2.db.devices = t := hat.1
  rw [hrun]
  have hout : ∀ d, w.db.devices.find k = some d → d.autoBlockEnabled = false →
      k ∉ (matching .device w.db (w.tape w.calls) Device.autoBlockEnabled).map Device.id := by
    intro d hd hauto hk
    obtain ⟨d', hd', rfl⟩ := List.mem_map.mp hk
    obtain rfl := Option.some.inj (hd.symm.trans (Table.find_key ((hmem d').mp hd').1))
    rw [((hmem _).mp hd').2] at hauto
    cases hauto
  rcases hk : w.db.devices.find k with _ | d
  · rw [hrest k, hk, Option.map_none]
    intro hmap
    obtain ⟨d', hd', rfl⟩ := List.mem_map.mp hmap
    rw [Table.find_key ((hmem d').mp hd').1] at hk
    cases hk
  · rw [Option.map_some, afterPass]
    split_ifs with hauto
    · obtain rfl := Table.key_of_find hk
      exact hlisted d ((hmem d).mpr ⟨Table.mem_of_find hk, hauto⟩)
    · rw [hrest k (hout d hk (by simpa using hauto)), hk]

end Pass

/-! ### Parents' requests -/

/-- The program changes the device by `f`, or fails and changes no device. -/
def ChangesDevice {α : Type} (id : String) (f : Time → Device → Device) (p : Api α) : Prop :=
  ∀ t now, Prog.Triple (At t now) p
    (fun _ w => ∃ d t', t.find id = some d ∧ At t' now w ∧ Replaces t t' d (f now d))
    fun _ => At t now

section Parents
variable {t : Table Device.id} {now : Time} {α : Type}

theorem triple_findOne (p id : String) : Prog.Triple (At t now) (Devices.findOne p id)
    (fun d w => t.find id = some d ∧ At t now w) fun _ => At t now := by
  rintro w ⟨rfl, rfl⟩
  rcases hd : w.db.devices.find id with _ | d
  · have hrun : (Devices.findOne p id).run w =
        (.error (.notFound "Device not found"), World.afterCall w w.db) := by
      simp [Devices.findOne, Model.device, hd]
    rw [hrun]
    exact ⟨rfl, rfl⟩
  · by_cases hp : d.parentId = p
    · have hrun : (Devices.findOne p id).run w = (.ok d, World.afterCall w w.db) := by
        simp [Devices.findOne, Model.device, hd, hp]
      rw [hrun]
      exact ⟨rfl, rfl, rfl⟩
    · have hrun : (Devices.findOne p id).run w =
          (.error (.forbidden "Not your device"), World.afterCall w w.db) := by
        simp [Devices.findOne, Model.device, hd, hp]
      rw [hrun]
      exact ⟨rfl, rfl⟩

theorem triple_newDate (E : Err → World → Prop) :
    Prog.Triple (At t now) newDate (fun a w => a = now ∧ At t now w) E := by
  rintro w ⟨rfl, rfl⟩
  exact ⟨rfl, rfl, rfl⟩

theorem yields_invalidate (d : Device) :
    Prog.Yields () (Devices.invalidateDnsCacheForDevice d) := by
  refine .forEach (fun ip => ?_) _
  unfold DnsPolicy.invalidateSourceIp
  split
  · exact .pure
  · exact .ite .pure fun w => rfl

/-- The cache is not among the devices. -/
theorem triple_invalidate {I : World → Prop} (hI : ∀ w c, I w → I { w with cache := c })
    (d : Device)
    (E : Err → World → Prop) :
    Prog.Triple I (Devices.invalidateDnsCacheForDevice d) (fun _ => I) E := by
  intro w hw
  have hkeeps : I ((Devices.invalidateDnsCacheForDevice d).run w).2 :=
    DnsPolicy.keeps_invalidateSourceIps hI w hw
  have hok := yields_invalidate d w
  rcases hr : (Devices.invalidateDnsCacheForDevice d).run w with ⟨r, w'⟩
  rw [hr] at hok
  cases hok
  rw [hr] at hkeeps
  exact hkeeps

theorem triple_update {id : String} {d : Device} {f : Device → Device}
    {hf : ∀ d, (f d).id = d.id} (hd : t.find id = some d)
    (hu : Model.device.uniques (f d) = Model.device.uniques d)
    (hl : Model.device.links (f d) = Model.device.links d) (E : Err → World → Prop) :
    Prog.Triple (At t now) (Prisma.update .device id f hf)
      (fun _ w => ∃ d t', t.find id = some d ∧ At t' now w ∧
        Replaces t t' d (Model.device.touch now (f d))) E := by
  rintro w ⟨rfl, rfl⟩
  obtain rfl := Table.key_of_find hd
  rw [run_update (m := .device) hd hu hl]
  exact ⟨d, Model.device.patch w.db.devices w.now d.id f hf, hd, ⟨rfl, rfl⟩, replaces_patch hd⟩

end Parents

/-- The device with a parent's lock. -/
def withParentLock (reason : String) (now : Time) (d : Device) : Device :=
  { d with
    blockingMode := .fullInternetLock
    internetLocked := true
    internetLockedReason := some reason
    internetLockedAt := some now
    updatedAt := now }

/-- `reason ?? 'Locked by parent'`. -/
def givenReason (reason : Option String) : String := reason.getD "Locked by parent"

theorem changes_lockInternet (p id : String) (reason : Option String) :
    ChangesDevice id (withParentLock (givenReason reason)) (Devices.lockInternet p id reason) := by
  intro t now
  refine .bind (triple_findOne p id) fun d => .of_fact fun hd => ?_
  refine .bind (triple_newDate fun _ => At t now) fun a => .of_fact fun ha => ?_
  subst ha
  refine .bind (triple_update hd rfl rfl _) fun updated => ?_
  exact .bind (triple_invalidate (fun _ _ h => h) updated _) fun _ => .pure fun _ h => h

theorem changes_unlockInternet (p id : String) :
    ChangesDevice id withoutLock (Devices.unlockInternet p id) := by
  intro t now
  refine .bind (triple_findOne p id) fun d => .of_fact fun hd => ?_
  refine .bind (triple_update hd rfl rfl _) fun updated => ?_
  exact .bind (triple_invalidate (fun _ _ h => h) updated _) fun _ => .pure fun _ h => h

/-- The device with another schedule. -/
def withSchedule (dto : Protection.UpsertScheduleDto) (now : Time) (d : Device) : Device :=
  { d with
    dailyLimitMinutes := dto.dailyLimitMinutes.over d.dailyLimitMinutes
    bedtimeStart := dto.bedtimeStart.over d.bedtimeStart
    bedtimeEnd := dto.bedtimeEnd.over d.bedtimeEnd
    autoBlockEnabled := dto.autoBlockEnabled.overReq d.autoBlockEnabled
    updatedAt := now }

theorem changes_upsertSchedule (p id : String) (dto : Protection.UpsertScheduleDto) :
    ChangesDevice id (withSchedule dto) (Protection.upsertSchedule p id dto) := by
  intro t now
  refine .bind (triple_findOne p id) fun d => .of_fact fun hd => ?_
  refine .bind (.require fun _ h => h) fun _ => ?_
  exact triple_update hd rfl rfl _

/-! ### Runs -/

/-- What may happen to the locks. -/
inductive Request where
  | lockInternet (parentId id : String) (reason : Option String)
  | unlockInternet (parentId id : String)
  | upsertSchedule (parentId id : String) (dto : Protection.UpsertScheduleDto)
  | enforceDeviceSchedules

/-- The program, without its answer. -/
def Request.prog (env : Env) : Request → Api Unit
  | .lockInternet p id reason => System.Run.discard (Devices.lockInternet p id reason)
  | .unlockInternet p id => System.Run.discard (Devices.unlockInternet p id)
  | .upsertSchedule p id dto => System.Run.discard (Protection.upsertSchedule p id dto)
  | .enforceDeviceSchedules => Scheduler.enforceDeviceSchedules env

/-- A request with its time. -/
structure Step where
  time : Time
  request : Request

/-- The world and whose the locks are: the reason and time of the last lock a parent has set and not
taken back, and whether the lock in force was placed by the scheduler. -/
structure State where
  world : World
  parents : String → Option (String × Time)
  placed : String → Bool

/-- The device is locked. -/
def locked (w : World) (id : String) : Bool := (w.db.devices.find id).any Device.internetLocked

/-- Successful requests of parents set and take back their locks. -/
def parentsAfter (s : State) (e : Step) (ok : Bool) : String → Option (String × Time) :=
  match e.request, ok with
  | .lockInternet _ id reason, true =>
    Function.update s.parents id (some (givenReason reason, e.time))
  | .unlockInternet _ id, true => Function.update s.parents id none
  | _, _ => s.parents

/-- A pass places the locks of the devices it finds unlocked and leaves locked. -/
def placedAfter (s : State) (e : Step) (ok : Bool) (w' : World) : String → Bool :=
  match e.request, ok with
  | .lockInternet _ id _, true | .unlockInternet _ id, true => Function.update s.placed id false
  | .enforceDeviceSchedules, _ => fun id => locked w' id && (s.placed id || !locked s.world id)
  | _, _ => s.placed

/-- The state after a step. -/
def exec (env : Env) (s : State) (e : Step) : State :=
  let r := (e.request.prog env).run (s.world.atTime e.time)
  ⟨r.2, parentsAfter s e r.1.isOk, placedAfter s e r.1.isOk r.2⟩

/-- Nobody has set a lock yet. -/
def start (w : World) : State := ⟨w, fun _ => none, fun _ => false⟩

/-- The state after the steps. -/
def run (env : Env) (w : World) (steps : List Step) : State := steps.foldl (exec env) (start w)

/-- A parent's request either succeeds and changes its device, or changes no device. -/
theorem ChangesDevice.run_discard {α : Type} {id : String} {f : Time → Device → Device} {p : Api α}
    (h : ChangesDevice id f p) (w : World) (t : Time) :
    (((System.Run.discard p).run (w.atTime t)).1.isOk = true ∧
      ∃ d, w.db.devices.find id = some d ∧
        Replaces w.db.devices ((System.Run.discard p).run (w.atTime t)).2.db.devices d (f t d)) ∨
    ((System.Run.discard p).run (w.atTime t)).1.isOk = false ∧
      ((System.Run.discard p).run (w.atTime t)).2.db.devices = w.db.devices := by
  have hrun := h w.db.devices t (w.atTime t) ⟨rfl, rfl⟩
  rw [System.Run.discard, Prog.run_bind]
  rcases hr : p.run (w.atTime t) with ⟨e | a, w'⟩ <;> rw [hr] at hrun
  · exact .inr ⟨rfl, hrun.1⟩
  · obtain ⟨d, t', hd, hat, hrep⟩ := hrun
    obtain rfl := hat.1
    exact .inl ⟨rfl, d, hd, hrep⟩

/-! ### Parents' locks -/

/-- Every lock set by a parent and not taken back is in force, as it was set. -/
def ParentsKept (s : State) : Prop := ∀ id reason since, s.parents id = some (reason, since) →
  ∃ d, s.world.db.devices.find id = some d ∧ d.internetLocked = true ∧
    d.blockingMode = .fullInternetLock ∧ d.internetLockedReason = some reason ∧
    d.internetLockedAt = some since

/-- A pass meets no parent's lock whose reason starts with `Bedtime` on a device with automatic
blocking that is outside its bedtime. -/
def Spares (env : Env) (s : State) (e : Step) : Prop := e.request = .enforceDeviceSchedules →
  ∀ id reason since d, s.parents id = some (reason, since) → startsWith reason "Bedtime" = true →
    s.world.db.devices.find id = some d → d.autoBlockEnabled = true →
    Scheduler.inBedtime (Scheduler.currentTime env e.time) d = true

section ParentsKept
variable {env : Env} {s s' : State}

/-- Requests that change one device, where its own lock is kept. -/
theorem ParentsKept.of_replaces {d d' : Device} (h : ParentsKept s)
    (hrep : Replaces s.world.db.devices s'.world.db.devices d d')
    (hothers : ∀ id, id ≠ d.id → s'.parents id = s.parents id)
    (hself : ∀ reason since, s'.parents d.id = some (reason, since) → d'.internetLocked = true ∧
      d'.blockingMode = .fullInternetLock ∧ d'.internetLockedReason = some reason ∧
      d'.internetLockedAt = some since) : ParentsKept s' := by
  intro id reason since hp
  by_cases hid : id = d.id
  · subst hid
    exact ⟨d', hrep.1, hself reason since hp⟩
  · rw [hothers id hid] at hp
    rw [hrep.2 id hid]
    exact h id reason since hp

/-- Requests that change no device and no parent's lock. -/
theorem ParentsKept.of_same (h : ParentsKept s) (hdev : s'.world.db.devices = s.world.db.devices)
    (hp : s'.parents = s.parents) : ParentsKept s' := by
  intro id reason since hlock
  rw [hp] at hlock
  rw [hdev]
  exact h id reason since hlock

theorem parentsKept_lock (h : ParentsKept s) (t : Time) (p id : String) (reason : Option String) :
    ParentsKept (exec env s ⟨t, .lockInternet p id reason⟩) := by
  rcases (changes_lockInternet p id reason).run_discard s.world t with ⟨hok, d, hd,
    hrep⟩ | ⟨hok, hdev⟩
  · obtain rfl := Table.key_of_find hd
    have hparents : (exec env s ⟨t, .lockInternet p d.id reason⟩).parents =
        Function.update s.parents d.id (some (givenReason reason, t)) := by
      simp only [exec, Request.prog, parentsAfter, hok]
    refine h.of_replaces hrep (fun id hid => ?_) fun reason' since hself => ?_
    · rw [hparents, Function.update_of_ne hid]
    · rw [hparents, Function.update_self] at hself
      cases hself
      exact ⟨rfl, rfl, rfl, rfl⟩
  · refine h.of_same hdev ?_
    simp only [exec, Request.prog, parentsAfter, hok]

theorem parentsKept_unlock (h : ParentsKept s) (t : Time) (p id : String) :
    ParentsKept (exec env s ⟨t, .unlockInternet p id⟩) := by
  rcases (changes_unlockInternet p id).run_discard s.world t with ⟨hok, d, hd, hrep⟩ | ⟨hok, hdev⟩
  · obtain rfl := Table.key_of_find hd
    have hparents : (exec env s ⟨t, .unlockInternet p d.id⟩).parents =
        Function.update s.parents d.id none := by
      simp only [exec, Request.prog, parentsAfter, hok]
    refine h.of_replaces hrep (fun id hid => ?_) fun reason' since hself => ?_
    · rw [hparents, Function.update_of_ne hid]
    · rw [hparents, Function.update_self] at hself
      cases hself
  · refine h.of_same hdev ?_
    simp only [exec, Request.prog, parentsAfter, hok]

theorem parentsKept_schedule (h : ParentsKept s) (t : Time) (p id : String)
    (dto : Protection.UpsertScheduleDto) :
    ParentsKept (exec env s ⟨t, .upsertSchedule p id dto⟩) := by
  rcases (changes_upsertSchedule p id dto).run_discard s.world t with ⟨-, d, hd, hrep⟩ | ⟨-, hdev⟩
  · obtain rfl := Table.key_of_find hd
    refine h.of_replaces hrep (fun _ _ => rfl) fun reason since hself => ?_
    obtain ⟨d₀, hd₀, hlock⟩ := h d.id reason since hself
    obtain rfl := Option.some.inj (hd.symm.trans hd₀)
    exact hlock
  · exact h.of_same hdev rfl

/-- A pass keeps the parents' locks exactly when it spares them. -/
theorem parentsKept_pass (h : ParentsKept s) (t : Time) :
    ParentsKept (exec env s ⟨t, .enforceDeviceSchedules⟩) ↔
      Spares env s ⟨t, .enforceDeviceSchedules⟩ := by
  have hfind : ∀ id, (exec env s ⟨t, .enforceDeviceSchedules⟩).world.db.devices.find id =
      (s.world.db.devices.find id).map (afterPass env t) := find_pass env (s.world.atTime t)
  constructor
  · intro h' _ id reason since d hp hreason hd hauto
    obtain ⟨d₀, hd₀, hlocked, -, hr, -⟩ := h id reason since hp
    obtain rfl := Option.some.inj (hd.symm.trans hd₀)
    obtain ⟨d', hd', hlocked', -⟩ := h' id reason since hp
    rw [hfind, hd, Option.map_some, Option.some.injEq] at hd'
    by_contra hout
    have hby : Scheduler.lockedByBedtime d = true := by
      simp [Scheduler.lockedByBedtime, hlocked, hr, hreason]
    have hunlocked : d' = withoutLock t d := by
      rw [← hd', afterPass, if_pos hauto, enforced]
      simp only [Bool.not_eq_true] at hout
      simp [hout, hby]
    rw [hunlocked] at hlocked'
    cases hlocked'
  · intro hspares id reason since hp
    obtain ⟨d, hd, hlocked, hmode, hr, hat⟩ := h id reason since hp
    have hsame : afterPass env t d = d := by
      rw [afterPass]
      split_ifs with hauto
      · rw [enforced]
        split_ifs with hlock hunlock
        · simp [hlocked] at hlock
        · obtain ⟨hout, hby⟩ := Bool.and_eq_true_iff.mp hunlock
          have hreason : startsWith reason "Bedtime" = true := by
            simpa [Scheduler.lockedByBedtime, hlocked, hr] using hby
          have hin := hspares rfl id reason since d hp hreason hd hauto
          rw [hin] at hout
          cases hout
        · rfl
      · rfl
    refine ⟨d, ?_, hlocked, hmode, hr, hat⟩
    rw [hfind, hd, Option.map_some, hsame]

end ParentsKept

/-- **The scheduler and parents' locks.** In every state of a run each lock a parent has set and not
taken back is in force, exactly when every pass spares the parents' locks. -/
theorem parents_locks_kept_iff (env : Env) (w : World) (steps : List Step) :
    (∀ steps₁, steps₁ <+: steps → ParentsKept (run env w steps₁)) ↔
      Steps (exec env) (Spares env) (start w) steps := by
  refine foldl_iff_steps (fun s e h => ?_) fun id reason since hp => by cases hp
  obtain ⟨t, r⟩ := e
  cases r with
  | lockInternet p id reason =>
    exact iff_of_true (parentsKept_lock h t p id reason) fun hpass => by cases hpass
  | unlockInternet p id =>
    exact iff_of_true (parentsKept_unlock h t p id) fun hpass => by cases hpass
  | upsertSchedule p id dto =>
    exact iff_of_true (parentsKept_schedule h t p id dto) fun hpass => by cases hpass
  | enforceDeviceSchedules => exact parentsKept_pass h t

/-- The households with a phone. -/
def home : World :=
  .fresh (Household.withDevices [Household.device "phone" "amal" "adam"] (by simp)) 0

/-- A parent with automatic blocking on, and without a bedtime, locks the phone for a reason of her
own; a pass follows. -/
def ownWords : List Step :=
  [⟨0, .upsertSchedule "amal" "phone" { autoBlockEnabled := some (some true) }⟩,
   ⟨1, .lockInternet "amal" "phone" (some "Bedtime stories first")⟩,
   ⟨60000, .enforceDeviceSchedules⟩]

theorem own_words_unlocked : ¬ ∀ (env : Env) (w : World) (steps : List Step),
    ParentsKept (run env w steps) := by
  intro h
  obtain ⟨d, hd, hlocked, -⟩ := h .plain home ownWords "phone" "Bedtime stories first" 1
    (by decide +kernel)
  have hunlocked : locked (run .plain home ownWords).world "phone" = false := by decide +kernel
  rw [locked, hd] at hunlocked
  rw [Option.any_some, hlocked] at hunlocked
  cases hunlocked

/-! ### Bedtime locks -/

/-- The locks the scheduler has placed are in force, with its reason. -/
def PlacedStand (s : State) : Prop := ∀ id, s.placed id = true →
  ∃ d, s.world.db.devices.find id = some d ∧ Scheduler.lockedByBedtime d = true

/-- Every lock placed by the scheduler is on a device with automatic blocking that is inside its
bedtime at the time. -/
def InWindow (env : Env) (t : Time) (s : State) : Prop := ∀ id d, s.placed id = true →
  s.world.db.devices.find id = some d →
  d.autoBlockEnabled = true ∧ Scheduler.inBedtime (Scheduler.currentTime env t) d = true

/-- Automatic blocking is on wherever the scheduler's lock is in force. -/
def StillEnabled (s : State) : Prop := ∀ id d, s.placed id = true →
  s.world.db.devices.find id = some d → d.autoBlockEnabled = true

section Placed
variable {env : Env} {s s' : State}

theorem lockedByBedtime_withBedtimeLock (t : Time) (d : Device) :
    Scheduler.lockedByBedtime (withBedtimeLock t d) = true := by
  simp [Scheduler.lockedByBedtime, withBedtimeLock, startsWith, List.isPrefixOf]

/-- What a pass leaves locked: a device it skips, one inside its bedtime, or a parent's lock. -/
theorem locked_afterPass {t : Time} {d : Device} (h : (afterPass env t d).internetLocked = true) :
    (d.autoBlockEnabled = true ∧ d.internetLocked = false ∧
      Scheduler.inBedtime (Scheduler.currentTime env t) d = true ∧
      afterPass env t d = withBedtimeLock t d) ∨
    (d.internetLocked = true ∧ afterPass env t d = d ∧ (d.autoBlockEnabled = true →
      Scheduler.lockedByBedtime d = true →
      Scheduler.inBedtime (Scheduler.currentTime env t) d = true)) := by
  rw [afterPass] at h ⊢
  split_ifs at h ⊢ with hauto
  · rw [enforced] at h ⊢
    split_ifs at h ⊢ with hlock hunlock
    · obtain ⟨hin, hfree⟩ := Bool.and_eq_true_iff.mp hlock
      exact .inl ⟨hauto, by simpa using hfree, hin, rfl⟩
    · cases h
    · refine .inr ⟨h, rfl, fun _ hby => ?_⟩
      by_contra hout
      exact hunlock (by simp [hby, hout])
  · exact .inr ⟨h, rfl, fun hauto' => absurd hauto' hauto⟩

theorem PlacedStand.of_replaces {d d' : Device} (h : PlacedStand s)
    (hrep : Replaces s.world.db.devices s'.world.db.devices d d')
    (hothers : ∀ id, id ≠ d.id → s'.placed id = s.placed id)
    (hself : s'.placed d.id = true → Scheduler.lockedByBedtime d' = true) : PlacedStand s' := by
  intro id hp
  by_cases hid : id = d.id
  · subst hid
    exact ⟨d', hrep.1, hself hp⟩
  · rw [hothers id hid] at hp
    rw [hrep.2 id hid]
    exact h id hp

theorem PlacedStand.of_same (h : PlacedStand s) (hdev : s'.world.db.devices = s.world.db.devices)
    (hp : s'.placed = s.placed) : PlacedStand s' := by
  intro id hplaced
  rw [hp] at hplaced
  rw [hdev]
  exact h id hplaced

/-- A lock or unlock of a parent takes the place of the scheduler's lock. -/
theorem PlacedStand.of_parent {α : Type} {id : String} {f : Time → Device → Device} {p : Api α}
    {e : Step} (h : PlacedStand s) (hp : ChangesDevice id f p)
    (hprog : e.request.prog env = System.Run.discard p)
    (hplaced : ∀ ok w', placedAfter s e ok w' = if ok then Function.update s.placed id false
      else s.placed) : PlacedStand (exec env s e) := by
  have hexec : (exec env s e).placed =
    if ((System.Run.discard p).run (s.world.atTime e.time)).1.isOk
      then Function.update s.placed id false else s.placed := by
    simp only [exec, hprog, hplaced]
  have hworld : (exec env s e).world = ((System.Run.discard p).run (s.world.atTime e.time)).2 := by
    simp only [exec, hprog]
  rcases hp.run_discard s.world e.time with ⟨hok, d, hd, hrep⟩ | ⟨hok, hdev⟩
  · obtain rfl := Table.key_of_find hd
    rw [hok, if_pos rfl] at hexec
    rw [← hworld] at hrep
    refine h.of_replaces hrep (fun id hid => ?_) fun hself => ?_
    · rw [hexec, Function.update_of_ne hid]
    · rw [hexec, Function.update_self] at hself
      cases hself
  · refine h.of_same (by rw [hworld, hdev]) ?_
    rw [hexec, hok]
    rfl

/-- Where a pass leaves the scheduler's lock: it placed it, or found it. -/
theorem placed_pass {t : Time} {id : String}
    (hp : (exec env s ⟨t, .enforceDeviceSchedules⟩).placed id = true) :
    ∃ d, s.world.db.devices.find id = some d ∧
      (exec env s ⟨t, .enforceDeviceSchedules⟩).world.db.devices.find id =
        some (afterPass env t d) ∧
      (afterPass env t d).internetLocked = true ∧
        (s.placed id = true ∨ d.internetLocked = false) := by
  have hfind : (exec env s ⟨t, .enforceDeviceSchedules⟩).world.db.devices.find id =
      (s.world.db.devices.find id).map (afterPass env t) := find_pass env (s.world.atTime t) id
  obtain ⟨hlocked, hwas⟩ := Bool.and_eq_true_iff.mp hp
  change ((exec env s ⟨t, .enforceDeviceSchedules⟩).world.db.devices.find id).any
    Device.internetLocked = true at hlocked
  rw [hfind] at hlocked ⊢
  rcases hd : s.world.db.devices.find id with _ | d <;> rw [hd] at hlocked
  · cases hlocked
  · refine ⟨d, rfl, rfl, hlocked, ?_⟩
    simpa [locked, hd] using hwas

theorem placedStand_exec (h : PlacedStand s) (e : Step) : PlacedStand (exec env s e) := by
  obtain ⟨t, r⟩ := e
  cases r with
  | lockInternet p id reason =>
    refine h.of_parent (changes_lockInternet p id reason) rfl fun ok w' => ?_
    cases ok <;> rfl
  | unlockInternet p id =>
    refine h.of_parent (changes_unlockInternet p id) rfl fun ok w' => ?_
    cases ok <;> rfl
  | upsertSchedule p id dto =>
    rcases (changes_upsertSchedule p id dto).run_discard s.world t with ⟨-, d, hd, hrep⟩ | ⟨-, hdev⟩
    · obtain rfl := Table.key_of_find hd
      refine h.of_replaces hrep (fun _ _ => rfl) fun hself => ?_
      obtain ⟨d₀, hd₀, hlock⟩ := h d.id hself
      obtain rfl := Option.some.inj (hd.symm.trans hd₀)
      exact hlock
    · exact h.of_same hdev rfl
  | enforceDeviceSchedules =>
    intro id hp
    obtain ⟨d, hd, hfind, hlocked, hwas⟩ := placed_pass hp
    refine ⟨_, hfind, ?_⟩
    rcases locked_afterPass hlocked with ⟨-, -, -, heq⟩ | ⟨hbefore, heq, -⟩ <;> rw [heq]
    · exact lockedByBedtime_withBedtimeLock t d
    · obtain hplaced | hfree := hwas
      · obtain ⟨d₀, hd₀, hby⟩ := h id hplaced
        obtain rfl := Option.some.inj (hd.symm.trans hd₀)
        exact hby
      · rw [hbefore] at hfree
        cases hfree

/-- A pass leaves only locks inside their windows exactly when automatic blocking is still on
wherever the scheduler has locked. -/
theorem inWindow_pass (h : PlacedStand s) (t : Time) :
    InWindow env t (exec env s ⟨t, .enforceDeviceSchedules⟩) ↔ StillEnabled s := by
  have hfind : ∀ id, (exec env s ⟨t, .enforceDeviceSchedules⟩).world.db.devices.find id =
      (s.world.db.devices.find id).map (afterPass env t) := find_pass env (s.world.atTime t)
  constructor
  · intro hin id d hp hd
    by_contra hoff
    obtain ⟨d₀, hd₀, hby⟩ := h id hp
    obtain rfl := Option.some.inj (hd.symm.trans hd₀)
    have hsame : afterPass env t d = d := if_neg hoff
    have hfind' := hfind id
    rw [hd, Option.map_some, hsame] at hfind'
    have hplaced : (exec env s ⟨t, .enforceDeviceSchedules⟩).placed id = true := by
      change (((exec env s ⟨t, .enforceDeviceSchedules⟩).world.db.devices.find id).any
        Device.internetLocked && (s.placed id || !locked s.world id)) = true
      rw [hfind', hp]
      simpa using (Bool.and_eq_true_iff.mp hby).1
    exact hoff (hin id d hplaced hfind').1
  · intro hon id d' hp hd'
    obtain ⟨d, hd, hafter, hlocked, hwas⟩ := placed_pass hp
    obtain rfl := Option.some.inj (hafter.symm.trans hd')
    rcases locked_afterPass hlocked with ⟨hauto, -, hin, heq⟩ | ⟨hbefore, heq, hwindow⟩ <;> rw [heq]
    · exact ⟨hauto, hin⟩
    · obtain hplaced | hfree := hwas
      · obtain ⟨d₀, hd₀, hby⟩ := h id hplaced
        obtain rfl := Option.some.inj (hd.symm.trans hd₀)
        have hauto := hon id d hplaced hd
        exact ⟨hauto, hwindow hauto hby⟩
      · rw [hbefore] at hfree
        cases hfree

theorem placedStand_run (env : Env) (w : World) :
    ∀ steps : List Step, PlacedStand (run env w steps) := by
  intro steps
  have hstep : ∀ s e, PlacedStand s → True → PlacedStand (exec env s e) :=
    fun s e h _ => placedStand_exec h e
  refine foldl_of_steps (C := fun _ _ => True) hstep ?_ fun _ _ _ _ => trivial
  intro id hp
  cases hp

end Placed

/-- **Bedtime locks end with their bedtime.** After each pass of a run every lock placed by the
scheduler is on a device with automatic blocking inside its bedtime, exactly when each pass finds
automatic blocking on wherever the scheduler has locked. -/
theorem bedtime_locks_released_iff (env : Env) (w : World) (steps : List Step) :
    (∀ steps₁ t steps₂, steps = steps₁ ++ ⟨t, .enforceDeviceSchedules⟩ :: steps₂ →
      InWindow env t (run env w (steps₁ ++ [⟨t, .enforceDeviceSchedules⟩]))) ↔
    Steps (exec env) (fun s e => e.request = .enforceDeviceSchedules → StillEnabled s) (start w)
      steps := by
  have hpass : ∀ steps₁ t, InWindow env t (run env w (steps₁ ++ [⟨t, .enforceDeviceSchedules⟩])) ↔
      StillEnabled (run env w steps₁) := by
    intro steps₁ t
    rw [run, List.foldl_append]
    exact inWindow_pass (placedStand_run env w steps₁) t
  constructor
  · rintro h steps₁ ⟨t, r⟩ steps₂ hsteps rfl
    exact (hpass steps₁ t).mp (h steps₁ t steps₂ hsteps)
  · intro h steps₁ t steps₂ hsteps
    exact (hpass steps₁ t).mpr (h steps₁ ⟨t, .enforceDeviceSchedules⟩ steps₂ hsteps rfl)

/-- Automatic blocking is switched off in the night; nothing unlocks the phone the next day. -/
def switchedOff : List Step :=
  [⟨79200000, .upsertSchedule "amal" "phone"
      { bedtimeStart := some (some "21:00"), bedtimeEnd := some (some "07:00"),
        autoBlockEnabled := some (some true) }⟩,
   ⟨79200000, .enforceDeviceSchedules⟩,
   ⟨79260000, .upsertSchedule "amal" "phone" { autoBlockEnabled := some (some false) }⟩]

theorem switched_off_still_locked : ¬ ∀ (env : Env) (w : World) (steps : List Step) (t : Time),
    InWindow env t (run env w (steps ++ [⟨t, .enforceDeviceSchedules⟩])) := by
  intro h
  have hplaced : (run .plain home (switchedOff ++ [⟨129600000, .enforceDeviceSchedules⟩])).placed
      "phone" = true := by decide +kernel
  have hoff : ((run .plain home (switchedOff ++ [⟨129600000, .enforceDeviceSchedules⟩])
      ).world.db.devices.find "phone").map Device.autoBlockEnabled = some false := by decide +kernel
  obtain ⟨d, hd, hauto⟩ := Option.map_eq_some_iff.mp hoff
  have hin := h .plain home switchedOff 129600000 "phone" d hplaced hd
  rw [hauto] at hin
  cases hin.1

end GuardTime.Locks.Bedtime
