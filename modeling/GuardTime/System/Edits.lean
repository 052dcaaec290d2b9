import Mathlib.Tactic
import GuardTime.Lib.Commit
import GuardTime.Services.Calls
import GuardTime.Dns.Blocklist

/-! # What parents set on a device

Any number of requests on a device, one call at a time: edits, locks, schedules, blocks and its
removal. Each checks the row first and writes later, by then perhaps over the write of another. It
writes the columns it is about and no others, so no write is lost: the settings of the device are at
all times the result of the requests that have written, one after the other (`edits_in_order`). So a
locked device stays locked, and without names, until it is unlocked (`stays_locked`). -/

namespace GuardTime.System.Edits

open GuardTime.Lib.Program GuardTime.Lib.Interleave GuardTime.Lib.Commit GuardTime.Lib.Keyed
open GuardTime.Lib.Js GuardTime.Schema GuardTime.Server GuardTime.Prisma GuardTime.Services
open GuardTime.Services.Devices (UpdateDeviceDto)
open GuardTime.Services.Protection (UpsertScheduleDto)

/-! ### Settings and requests -/

/-- The columns of a device that these requests write, without `updatedAt`. -/
structure Settings where
  name : String
  childId : Option String
  macAddress : Option String
  ipAddress : Option String
  controlMethod : ControlMethod
  gatewayId : Option String
  vpnBlockEnabled : Bool
  quicBlockEnabled : Bool
  status : DeviceStatus
  blockingMode : BlockingMode
  internetLocked : Bool
  internetLockedReason : Option String
  internetLockedAt : Option Time
  dailyLimitMinutes : Option ℤ
  bedtimeStart : Option String
  bedtimeEnd : Option String
  autoBlockEnabled : Bool
deriving DecidableEq

/-- The settings in a row. -/
def settings (d : Device) : Settings :=
  ⟨d.name, d.childId, d.macAddress, d.ipAddress, d.controlMethod, d.gatewayId, d.vpnBlockEnabled,
    d.quicBlockEnabled, d.status, d.blockingMode, d.internetLocked, d.internetLockedReason,
    d.internetLockedAt, d.dailyLimitMinutes, d.bedtimeStart, d.bedtimeEnd, d.autoBlockEnabled⟩

/-- What is asked about a device: by a parent, or, for a block, by the server itself. -/
inductive Request where
  | update (parentId deviceId : String) (dto : UpdateDeviceDto)
  | lock (parentId deviceId : String) (reason : Option String)
  | unlock (parentId deviceId : String)
  | schedule (parentId deviceId : String) (dto : UpsertScheduleDto)
  | block (parentId : Option String) (deviceId reason : String)
  | unblock (parentId : Option String) (deviceId : String)
  | remove (parentId deviceId : String)

namespace Request

/-- The device it is about. -/
def deviceId : Request → String
  | update _ k _ | lock _ k _ | unlock _ k | schedule _ k _ | block _ k _ | unblock _ k
  | remove _ k => k

/-- What the services do, and whether it was carried out. -/
def prog : Request → Api Bool
  | update p k dto => do
    let _ ← Devices.update p k dto
    pure true
  | lock p k reason => do
    let _ ← Devices.lockInternet p k reason
    pure true
  | unlock p k => do
    let _ ← Devices.unlockInternet p k
    pure true
  | schedule p k dto => do
    let _ ← Protection.upsertSchedule p k dto
    pure true
  | block p k reason => do
    let result ← Enforcement.blockDevice k reason p
    pure result.success
  | unblock p k => do
    let result ← Enforcement.unblockDevice k p
    pure result.success
  | remove p k => do
    Devices.remove p k
    pure true

/-- The settings after the request, executed alone at the time `now`. -/
def edit (now : Time) : Request → Option Settings → Option Settings
  | update _ _ dto => Option.map fun s =>
    { s with
      name := dto.name.overReq s.name
      childId := dto.childId.over s.childId
      macAddress := dto.macAddress.over s.macAddress
      ipAddress := dto.ipAddress.over s.ipAddress
      controlMethod := dto.controlMethod.overReq s.controlMethod
      gatewayId := dto.gatewayId.over s.gatewayId
      vpnBlockEnabled := dto.vpnBlockEnabled.overReq s.vpnBlockEnabled
      quicBlockEnabled := dto.quicBlockEnabled.overReq s.quicBlockEnabled }
  | lock _ _ reason => Option.map fun s =>
    { s with
      blockingMode := .fullInternetLock
      internetLocked := true
      internetLockedReason := some (reason.getD "Locked by parent")
      internetLockedAt := some now }
  | unlock _ _ => Option.map fun s =>
    { s with
      blockingMode := .gamingOnly
      internetLocked := false
      internetLockedReason := none
      internetLockedAt := none }
  | schedule _ _ dto => Option.map fun s =>
    { s with
      dailyLimitMinutes := dto.dailyLimitMinutes.over s.dailyLimitMinutes
      bedtimeStart := dto.bedtimeStart.over s.bedtimeStart
      bedtimeEnd := dto.bedtimeEnd.over s.bedtimeEnd
      autoBlockEnabled := dto.autoBlockEnabled.overReq s.autoBlockEnabled }
  | block _ _ _ => Option.map fun s => { s with status := .blocked }
  | unblock _ _ => Option.map fun s => { s with status := .online }
  | remove _ _ => fun _ => none

/-- It goes through an adapter, and has more to do once it has written. -/
def Enforces : Request → Prop
  | block _ _ _ | unblock _ _ => True
  | _ => False

end Request

/-- The settings of the device `id`. A request for it writes at a time that it has read. -/
def cell (id : String) : Cell Request World (Option Settings) Time Time where
  get w := (w.db.devices.find id).map settings
  sees := World.now
  chooses r ts _ now := r.deviceId = id ∧ now ∈ ts
  change r now := r.edit now

/-! ### Calls that leave the settings -/

section Same
variable {id : String}

theorem same_of_get {w w' : World} (h : (cell id).get w' = (cell id).get w) :
    (cell id).Same w w' := fun _ => ⟨trivial, h⟩

theorem same_of_devices {w w' : World} (h : w'.db.devices = w.db.devices) :
    (cell id).Same w w' :=
  same_of_get (congrArg (fun t : Table Device.id => (t.find id).map settings) h)

theorem idle_same : Idle (cell id).Same := fun _ => same_of_devices rfl

theorem refl_same (w : World) : (cell id).Same w w := same_of_devices rfl

theorem settleCalls : SettleCalls (cell id).Same where
  refl := refl_same
  idle := idle_same
  command _ _ := same_of_devices rfl
  queue _ _ := same_of_devices rfl
  cache _ _ := same_of_devices rfl
  log _ _ := .bind (calls_create idle_same fun _ _ _ => same_of_devices rfl) fun _ => .pure _

/-- What follows the write of a block: nothing of it concerns the settings. -/
theorem same_enqueue (gatewayId deviceId : String) (type : RouterCommandType)
    (priority : List SmartBlock.Strategy) :
    Calls (cell id).Same (SmartBlock.enqueueStrategyCommand gatewayId deviceId type priority) :=
  .bind (calls_query idle_same _) fun _ =>
    .ite (.bind (settleCalls.log _ rfl) fun _ => .pure _)
      (.bind (calls_create idle_same fun _ _ _ => same_of_devices rfl) fun _ =>
        .bind (settleCalls.log _ rfl) fun _ => .pure _)

end Same

/-! ### The write of a request -/

section Write
variable {id : String} {r : Request} {ts : List Time} {t : Time}

/-- How the part of a request that writes ends: it has written the settings of the device if it is
about it and succeeds. -/
def Ended {α : Type} (id : String) (r : Request) (q : Local Time) (res : Except Err α) : Prop :=
  (∃ a, res = .ok a) ∧ (q = .wrote ↔ r.deviceId = id) ∨ (∃ e, res = .error e) ∧ q ≠ .wrote

/-- How a request ends. Once a block has written, its audit entry may still fail. -/
def Answered (id : String) (r : Request) (q : Local Time) (res : Except Err Bool) : Prop :=
  (res = .ok true → (q = .wrote ↔ r.deviceId = id)) ∧ (res = .ok false → q ≠ .wrote) ∧
    ((∃ e, res = .error e) → q = .wrote → r.Enforces)

theorem answered_error (e : Err) {q : Local Time} (hq : q ≠ .wrote) :
    Answered id r q (.error e) := by
  refine ⟨fun h => ?_, fun h => ?_, fun _ h => absurd h hq⟩ <;> cases h

theorem find_erase (t : Table Device.id) (k k' : String) :
    (t.erase fun d => d.id = k).find k' = if k = k' then none else t.find k' := by
  change (t.rows.filter _).find? _ = _
  rw [List.find?_filter]
  split_ifs with hk
  · subst hk
    simp
  · refine List.find?_congr fun d _ => ?_
    by_cases hd : d.id = k'
    · simp [hd, Ne.symm hk]
    · simp [hd]

/-- The update of a request. -/
theorem follows_edit {f : Device → Device} {hf : ∀ d, (f d).id = d.id} (ht : t ∈ ts)
    (hedit : ∀ d, some (settings (f d)) = r.edit t (some (settings d))) :
    Follows (Acts (cell id) r) (Ended id r) (Prisma.update .device r.deviceId f hf)
      (.waiting ts) := by
  refine Prisma.follows_update (fun w e hw => ?_) fun w d hd hw => ?_
  · exact ⟨_, .wait (same_of_devices (by rw [hw]; rfl)), .inr ⟨⟨e, rfl⟩, by simp⟩⟩
  · have hget : (cell id).get ((Prisma.update .device r.deviceId f hf).run w).2 =
        (w.db.devices.find id).map fun d =>
          settings (if d.id = r.deviceId then Model.device.touch w.now (f d) else d) := by
      rw [hw]
      change Option.map settings (Table.find (Model.device.patch w.db.devices w.now r.deviceId f hf)
        id) = _
      rw [Model.find_patch, Option.map_map]
      rfl
    by_cases hid : r.deviceId = id
    · refine ⟨.wrote, .write ⟨hid, ht⟩ fun _ => ⟨trivial, ?_⟩, .inl ⟨⟨_, rfl⟩, by simp [hid]⟩⟩
      have hrow : w.db.devices.find id = some d := hid ▸ hd
      rw [hget, hrow, Option.map_some, if_pos ((Table.key_of_find hrow).trans hid.symm)]
      refine (hedit d).trans (congrArg (r.edit t) ?_)
      exact (congrArg (Option.map settings) hrow).symm
    · refine ⟨_, .wait (same_of_get ?_), .inl ⟨⟨_, rfl⟩, by simp [hid]⟩⟩
      rw [hget]
      rcases hrow : w.db.devices.find id with _ | d'
      · exact (congrArg (Option.map settings) hrow).symm
      · have hne : ¬ d'.id = r.deviceId := fun h => hid (h.symm.trans (Table.key_of_find hrow))
        rw [Option.map_some, if_neg hne]
        exact (congrArg (Option.map settings) hrow).symm

/-- The deletion of a request. -/
theorem follows_delete (ht : t ∈ ts) (hedit : ∀ s, r.edit t s = none) :
    Follows (Acts (cell id) r) (Ended id r) (Prisma.delete .device r.deviceId) (.waiting ts) := by
  intro w
  change ∃ q', Acts (cell id) r (fun w => ((Prisma.delete .device r.deviceId).run w).2) _ w q' ∧
    Ended id r q' ((Prisma.delete .device r.deviceId).run w).1
  rcases run_delete_cases .device r.deviceId w with ⟨e, hrun⟩ | ⟨d, hd, hrun⟩
  · refine ⟨_, .wait (same_of_devices ?_), ?_⟩
    · rw [hrun]
      rfl
    · rw [hrun]
      exact .inr ⟨⟨e, rfl⟩, by simp⟩
  · have hget : (cell id).get ((Prisma.delete .device r.deviceId).run w).2 =
        Option.map settings ((w.db.devices.erase fun d => d.id = r.deviceId).find id) := by
      rw [hrun]
      rfl
    rw [hrun]
    by_cases hid : r.deviceId = id
    · refine ⟨.wrote, .write ⟨hid, ht⟩ fun _ => ⟨trivial, ?_⟩, .inl ⟨⟨_, rfl⟩, by simp [hid]⟩⟩
      change _ = r.edit t _
      rw [hget, hedit, find_erase, if_pos hid]
      rfl
    · refine ⟨_, .wait (same_of_get ?_), .inl ⟨⟨_, rfl⟩, by simp [hid]⟩⟩
      rw [hget, find_erase, if_neg hid]
      rfl

/-- What a request does once it has written, or has failed to. -/
theorem follows_then {α : Type} {p : Api α} {f : α → Api Bool} {q : Local Time}
    (hp : Follows (Acts (cell id) r) (Ended id r) p q) (hf : ∀ a, Calls (cell id).Same (f a))
    (hends : ∀ a, (f a).Ends fun res => res = .ok true ∨ r.Enforces ∧ ∃ e, res = .error e) :
    Follows (Acts (cell id) r) (Answered id r) (p >>= f) q := by
  refine .bind hp (fun q' a hq' => ?_) fun q' e hq' => ?_
  · refine (follows_ends (follows_same (hf a) q') (hends a)).mono ?_
    rintro q₁ res ⟨hsame, hres⟩
    rcases hq' with ⟨-, hwrote⟩ | ⟨⟨e, he⟩, -⟩
    · rcases hres with rfl | ⟨henforces, e, rfl⟩
      · refine ⟨fun _ => hsame.trans hwrote, fun h => ?_, fun ⟨e, he⟩ => ?_⟩
        · cases h
        · cases he
      · refine ⟨fun h => ?_, fun h => ?_, fun _ _ => henforces⟩ <;> cases h
    · cases he
  · rcases hq' with ⟨⟨a, ha⟩, -⟩ | ⟨-, hne⟩
    · cases ha
    · exact answered_error e hne

/-- The first call of a request reads the row and the time. -/
theorem follows_read {k : String} {p : Option Device → Api Bool}
    (hp : ∀ o t, (∀ d, o = some d → d.id = k) →
      Follows (Acts (cell id) r) (Answered id r) (p o) (.waiting [t])) :
    Follows (Acts (cell id) r) (Answered id r) (Prisma.findUnique .device k >>= p) (.waiting []) :=
  fun w => ⟨.waiting [w.now], .wait (idle_same w), hp _ w.now fun _ hd => Table.key_of_find hd⟩

/-- A request that checks whose device it is and goes on. -/
theorem follows_owned {parentId k : String} {p : Device → Api Bool}
    (hp : ∀ d t, Follows (Acts (cell id) r) (Answered id r) (p d) (.waiting [t])) :
    Follows (Acts (cell id) r) (Answered id r) (Devices.findOne parentId k >>= p)
      (.waiting []) := by
  rw [Devices.findOne]
  simp only [Prog.bind_assoc]
  refine follows_read fun o t _ => .orThrow_bind (fun d _ => ?_) fun _ => answered_error _ (by simp)
  exact .require_bind (fun _ => hp d t) fun _ => answered_error _ (by simp)

/-- Raising the versions of cached decisions never fails. -/
theorem raises_invalidate (ips : List (Option String)) {E : Err → Prop} :
    Prog.Raises E (DnsPolicy.invalidateSourceIps ips) := by
  induction ips with
  | nil => exact .pure ()
  | cons ip ips ih =>
    refine .bind ?_ fun _ => ih
    unfold DnsPolicy.invalidateSourceIp
    split
    · exact .pure ()
    · split_ifs
      · exact .pure ()
      · exact .bind (.bind (.call fun w e he => by cases he) fun _ => .pure _) fun _ =>
          .call fun w e he => by cases he

/-- A request that changes the row, drops cached decisions and answers. -/
theorem follows_invalidating {α : Type} {f : Device → Device} {hf : ∀ d, (f d).id = d.id}
    {g : Device → α} (ht : t ∈ ts)
    (hedit : ∀ d, some (settings (f d)) = r.edit t (some (settings d))) :
    Follows (Acts (cell id) r) (Answered id r) (do
      let updated ← Prisma.update .device r.deviceId f hf
      Devices.invalidateDnsCacheForDevice updated
      let _ ← (pure (g updated) : Api α)
      pure true) (.waiting ts) :=
  follows_then (follows_edit ht hedit)
    (fun _ => .bind (settleCalls.invalidateSourceIps _) fun _ => .bind (.pure _) fun _ => .pure _)
    fun _ => .bind (raises_invalidate _) fun _ => .inl rfl

/-- Whatever a program ends in. -/
theorem ends_of_forall {α : Type} {Q : Except Err α → Prop} (h : ∀ res, Q res) :
    ∀ p : Api α, p.Ends Q
  | .ret r => h r
  | .act _ k => fun s => ends_of_forall h (k s)

/-- A block or unblock: the adapter goes first, and the row is written if it succeeds. -/
theorem follows_enforce {parentId : Option String} {adapter : Device → Api Adapters.ControlResult}
    {status : DeviceStatus} {action : String} {details : Option String}
    {sync : String → String → Api SmartBlock.Outcome} (hr : r.Enforces)
    (hedit : ∀ t d, some (settings { d with status := status }) = r.edit t (some (settings d)))
    (hadapter : ∀ d, Calls (cell id).Same (adapter d))
    (hsync : ∀ g d, Calls (cell id).Same (sync g d)) :
    Follows (Acts (cell id) r) (Answered id r) ((do
      let device ← Enforcement.findDevice r.deviceId parentId
      let result ← adapter device
      if result.success then
        Enforcement.settle device parentId status action details sync result
      else pure result) >>= fun result => pure result.success) (.waiting []) := by
  rw [Enforcement.findDevice]
  simp only [Prog.bind_assoc]
  refine follows_read fun o t ho => .orThrow_bind (fun d hd => ?_) fun _ =>
    answered_error _ (by simp)
  refine .require_bind (fun _ => ?_) fun _ => answered_error _ (by simp)
  refine .bind (p := adapter d) (follows_wait (hadapter d)) ?_ ?_
  · rintro q result ⟨ts, rfl, hts⟩
    have hid : d.id = r.deviceId := ho d hd
    by_cases hsuccess : result.success
    · rw [if_pos hsuccess, Enforcement.settle, hid]
      simp only [Prog.bind_assoc]
      refine follows_then (follows_edit (hts (List.mem_singleton_self t)) (hedit t)) (fun _ => ?_)
        fun _ => ?_
      · exact .bind (settleCalls.invalidateSourceIps _) fun _ =>
          .bind (settleCalls.log _ rfl) fun _ =>
          .bind (EnforcementCalls.syncToRouter d hsync) fun _ => .bind (.pure _) fun _ => .pure _
      · have herror : ∀ {α : Type} (p : Api α), Prog.Raises
            (fun e => (.error e : Except Err Bool) = .ok true ∨ r.Enforces ∧
              ∃ e', (.error e : Except Err Bool) = .error e') p :=
          fun p => ends_of_forall (fun _ e _ => .inr ⟨hr, e, rfl⟩) p
        exact .bind (herror _) fun _ => .bind (herror _) fun _ => .bind (herror _) fun _ =>
          .inl (congrArg Except.ok hsuccess)
    · rw [if_neg hsuccess]
      refine ⟨fun h => ?_, fun _ => by simp, fun h => ?_⟩
      · exact absurd (Except.ok.inj h) hsuccess
      · obtain ⟨e, he⟩ := h
        cases he
  · rintro q e ⟨ts, rfl, -⟩
    exact answered_error e (by simp)

end Write

/-- **Every request writes at most once**, whole, and says so. -/
theorem follows_prog (id : String) (r : Request) :
    Follows (Acts (cell id) r) (Answered id r) r.prog (.waiting []) := by
  cases r with
  | update p k dto =>
    rw [Request.prog, Devices.update]
    simp only [Prog.bind_assoc]
    refine follows_owned fun d t => .require_bind (fun _ => ?_) fun _ => answered_error _ (by simp)
    refine follows_then (follows_edit (r := .update p k dto) (t := t) (List.mem_singleton_self t)
      fun _ => rfl) (fun _ => ?_) fun _ => ?_
    · exact .bind (.pure _) fun _ => .pure _
    · exact .inl rfl
  | lock p k reason =>
    rw [Request.prog, Devices.lockInternet]
    simp only [Prog.bind_assoc]
    refine follows_owned fun d t => fun w => ⟨.waiting [w.now, t], .wait (refl_same w), ?_⟩
    exact follows_invalidating (r := .lock p k reason) (List.mem_cons_self ..) fun _ => rfl
  | unlock p k =>
    rw [Request.prog, Devices.unlockInternet]
    simp only [Prog.bind_assoc]
    refine follows_owned fun d t => ?_
    exact follows_invalidating (r := .unlock p k) (t := t) (List.mem_singleton_self t) fun _ => rfl
  | schedule p k dto =>
    rw [Request.prog, Protection.upsertSchedule]
    simp only [Prog.bind_assoc]
    refine follows_owned fun d t => .require_bind (fun _ => ?_) fun _ => answered_error _ (by simp)
    refine follows_then (follows_edit (r := .schedule p k dto) (t := t)
      (List.mem_singleton_self t) fun _ => rfl) (fun _ => .pure _) fun _ => ?_
    exact .inl rfl
  | block p k reason =>
    exact follows_enforce (r := .block p k reason) trivial (fun _ _ => rfl)
      (fun d => settleCalls.adapterBlock d reason) fun _ _ => same_enqueue _ _ _ _
  | unblock p k =>
    exact follows_enforce (r := .unblock p k) trivial (fun _ _ => rfl)
      (fun d => settleCalls.adapterUnblock d) fun _ _ => same_enqueue _ _ _ _
  | remove p k =>
    rw [Request.prog, Devices.remove]
    simp only [Prog.bind_assoc]
    refine follows_owned fun d t => ?_
    refine follows_then (follows_delete (r := .remove p k) (t := t) (List.mem_singleton_self t)
      fun _ => rfl) (fun _ => .pure _) fun _ => ?_
    exact .inl rfl

/-! ### Every run -/

/-- A run of requests, about this and other devices. -/
def pool (w : World) (moves : ℕ → Move Request World) : ℕ → Pool Request World Err Bool :=
  (Pool.idle w).after (fun _ => Request.prog) moves

/-- The surroundings leave the settings of the device, but may do anything else: time passes, the
device is seen, its sessions are started and stopped. -/
def Elsewhere (id : String) (moves : ℕ → Move Request World) : Prop :=
  ∀ n f, moves n = .other f → ∀ w, (cell id).get (f w) = (cell id).get w

/-- **No edit is lost.** In every interleaving of requests, the settings of the device are at all
times what the requests that have written make of them, one whole request after the other, in an
order that agrees with real time. A request about the device has written when it answers that it was
carried out; one that has written answers so, or is a block that fails after its write. -/
theorem edits_in_order {id : String} {w : World} {moves : ℕ → Move Request World}
    (hother : Elsewhere id moves) (n : ℕ) :
    ∃ es, Log (cell id) (pool w moves) moves n es ∧
      (∀ i r res, (pool w moves n).tag i = some r → (pool w moves n).result i = some res →
        (r.deviceId = id → res = .ok true → i ∈ es.map Entry.thread) ∧
        (i ∈ es.map Entry.thread →
          r.deviceId = id ∧ (res = .ok true ∨ r.Enforces ∧ ∃ e, res = .error e))) ∧
      ∀ e ∈ es, ∀ e' ∈ es, ∀ m res, (pool w moves m).result e.thread = some res →
        (pool w moves m).prog e'.thread = none → e.move < e'.move := by
  obtain ⟨es, hlog, hends⟩ := exists_log (E := Answered id) (fun _ r => follows_prog id r)
    (s := w) trivial (fun n f hf s => same_of_get (hother n f hf s)) n
  refine ⟨es, hlog, fun i r res hr hres => ?_, fun e he e' he' m res hdone hnone =>
    hlog.before he he' hdone hnone⟩
  obtain ⟨r', q, hr', hanswered, hmem⟩ := hends i res hres
  obtain rfl : r = r' := Option.some.inj (hr.symm.trans hr')
  refine ⟨fun hid hok => hmem.mpr ((hanswered.1 hok).mpr hid), fun hi => ?_⟩
  obtain ⟨e, he, rfl⟩ := List.mem_map.mp hi
  obtain ⟨-, -, htag, os, -, hchooses⟩ := hlog.written e he
  obtain rfl : r = e.request := Option.some.inj (hr.symm.trans htag)
  refine ⟨hchooses.1, ?_⟩
  rcases res with err | ok
  · exact .inr ⟨hanswered.2.2 ⟨err, rfl⟩ (hmem.mp hi), err, rfl⟩
  · cases ok with
    | true => exact .inl rfl
    | false => exact absurd (hmem.mp hi) (hanswered.2.1 rfl)

/-- A lock, a new name and a schedule: all have read the row before the first of them writes. -/
def overlapping : List (Move Request World) :=
  [.start (.lock "amal" "phone" none),
    .start (.update "amal" "phone" { name := some (some "pixel") }),
    .start (.schedule "amal" "phone" { bedtimeStart := some (some "21:00") }), .call 0, .call 1,
    .call 2, .call 1, .call 0, .call 0, .call 2]

/-- The phone, which is not locked. -/
def unlocked : World :=
  .fresh (Household.withDevices [Household.device "phone" "amal" "adam"]
    (Household.nodup_device "phone" "amal" "adam")) 0

theorem edits_in_order_overlapping : Elsewhere "phone" (schedule overlapping) ∧
    ∃ es, Log (cell "phone") (pool unlocked (schedule overlapping)) (schedule overlapping) 10 es ∧
      (∀ i r res, (pool unlocked (schedule overlapping) 10).tag i = some r →
        (pool unlocked (schedule overlapping) 10).result i = some res →
        (r.deviceId = "phone" → res = .ok true → i ∈ es.map Entry.thread) ∧
        (i ∈ es.map Entry.thread →
          r.deviceId = "phone" ∧ (res = .ok true ∨ r.Enforces ∧ ∃ e, res = .error e))) ∧
      ∀ e ∈ es, ∀ e' ∈ es, ∀ m res,
        (pool unlocked (schedule overlapping) m).result e.thread = some res →
        (pool unlocked (schedule overlapping) m).prog e'.thread = none → e.move < e'.move := by
  have hother : Elsewhere "phone" (schedule overlapping) :=
    forall_other_schedule (by simp [overlapping])
  exact ⟨hother, edits_in_order hother 10⟩

/-! ### What the engine makes of a lock -/

/-- The device is locked, if it is there. -/
def Held (o : Option Settings) : Prop := ∀ s, o = some s → s.internetLocked = true

/-- Only an unlock opens a locked device. -/
theorem held_edit {now : Time} {r : Request} {o : Option Settings} (h : Held o)
    (hr : ∀ p k, r ≠ .unlock p k) : Held (r.edit now o) := by
  intro s hs
  cases r with
  | unlock p k => exact absurd rfl (hr p k)
  | remove p k => cases hs
  | lock p k reason =>
    obtain ⟨s₀, -, rfl⟩ := Option.map_eq_some_iff.mp hs
    rfl
  | update p k dto | schedule p k dto | block p k reason | unblock p k =>
    obtain ⟨s₀, hs₀, rfl⟩ := Option.map_eq_some_iff.mp hs
    exact h s₀ hs₀

/-- **A lock stays in force.** A device that is locked after some move is answered `BLOCK`, whatever
the name, after any later move, if every request to unlock it has returned by the first of the
moves. No edit, schedule, block or unblock opens it, also none that has read the row before it was
locked. -/
theorem stays_locked {env : Env} {id : String} {w : World} {moves : ℕ → Move Request World}
    {n m : ℕ}
    {ip q : String} (hother : Elsewhere id moves) (hm : m ≤ n)
    (hlocked : Held ((cell id).get (pool w moves m).state))
    (hunlock : ∀ i p, (pool w moves n).tag i = some (.unlock p id) →
      ∃ res, (pool w moves m).result i = some res)
    (hmiss : Dns.Engine.cachedFor (pool w moves n).state ip q = none)
    (hknown : ∃ d ∈ (pool w moves n).state.db.devices.rows, DnsPolicy.holds ip d = true)
    (honly : ∀ d ∈ (pool w moves n).state.db.devices.rows, DnsPolicy.holds ip d = true →
      d.id = id) : ∃ r, ((DnsPolicy.checkPolicy env ip q).run (pool w moves n).state).1 = .ok r ∧
      r.action = .block := by
  obtain ⟨es, hlog, -⟩ := exists_log (E := Answered id) (fun _ r => follows_prog id r)
    (s := w) trivial (fun n f hf s => same_of_get (hother n f hf s)) n
  have hheld : Held ((cell id).get (pool w moves n).state) := by
    refine hlog.lasts hm hlocked fun e he hmove o ho => held_edit ho fun p k hreq => ?_
    obtain ⟨-, -, htag, os, -, hchooses⟩ := hlog.written e he
    have hid : e.request.deviceId = id := hchooses.1
    rw [hreq] at htag hid
    obtain rfl : k = id := hid
    obtain ⟨res, hres⟩ := hunlock e.thread p htag
    have hlate : (pool w moves m).result e.thread = none := hlog.unfinished he hmove
    rw [hlate] at hres
    cases hres
  refine Dns.Blocklist.block_of_blocked hmiss hknown fun d hd hip _ => .inr (.inl ?_)
  have hrow : (cell id).get (pool w moves n).state = some (settings d) := by
    change ((pool w moves n).state.db.devices.find id).map settings = _
    rw [← honly d hd hip, Table.find_key hd]
    rfl
  exact hheld (settings d) hrow

/-- The phone, locked. -/
def locked : World :=
  .fresh (Household.withDevices [{ Dns.Blocklist.phone with internetLocked := true }]
    (List.nodup_singleton _)) 0

/-- A new name and a schedule, side by side. -/
def edits : List (Move Request World) :=
  [.start (.update "amal" "phone" { name := some (some "pixel") }),
    .start (.schedule "amal" "phone" { bedtimeStart := some (some "21:00") }), .call 0, .call 1,
    .call 1, .call 0]

theorem stays_locked_edits :
    ∃ r, ((DnsPolicy.checkPolicy .plain "10.0.0.5" "wikipedia.org").run
      (pool locked (schedule edits) 6).state).1 = .ok r ∧ r.action = .block := by
  have hother : Elsewhere "phone" (schedule edits) := forall_other_schedule (by simp [edits])
  have hlocked : Held ((cell "phone").get (pool locked (schedule edits) 0).state) := by
    intro s hs
    obtain rfl := Option.some.inj hs
    rfl
  refine stays_locked hother (Nat.zero_le 6) hlocked (fun i p hi => ?_) rfl (by decide +kernel)
    (by decide +kernel)
  rcases i with _ | _ | i
  · cases Option.some.inj hi
  · cases Option.some.inj hi
  · cases hi

end GuardTime.System.Edits
