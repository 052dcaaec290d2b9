import Mathlib.Tactic
import GuardTime.Lib.Assure
import GuardTime.Services.Calls
import GuardTime.Services.Protection
import GuardTime.Household

/-! # The ladder of bypasses

`detectDnsBypass` counts the bypasses of a device and raises its status with the count. Passes may
overlap: each reads the devices once and writes them later, so a pass may write a count that is out
of date. Even so a device is always on one of four rungs, on which status, count and bypass history
go together (`on_ladder`): a count is never found with the status of another, and never gets past
the threshold. -/

namespace GuardTime.Health.Ladder

open GuardTime.Lib.Program GuardTime.Lib.Interleave GuardTime.Lib.Keyed GuardTime.Lib.Js
open GuardTime.Schema GuardTime.Server GuardTime.Prisma GuardTime.Services
open GuardTime.Services.Scheduler

/-- The status, the count and the bypass history on a rung. -/
structure Rung where
  status : ProtectionStatus
  attempts : ℤ
  history : ℤ
deriving DecidableEq

/-- The ladder. -/
def ladder : List Rung :=
  [⟨.normal, 0, 25⟩, ⟨.possibleDnsBypass, 1, 12⟩, ⟨.possibleDnsBypass, 2, 9⟩, ⟨.compromised, 3, 0⟩]

/-- The device is on a rung. -/
def OnLadder (d : Device) : Prop :=
  ∃ r ∈ ladder, d.protectionStatus = r.status ∧ d.bypassAttempts = r.attempts ∧
    Protection.bypassHistory d = r.history

/-- All devices are. -/
def AllOnLadder (db : Database) : Prop := ∀ d ∈ db.devices.rows, OnLadder d

/-! ### One device -/

section Device

/-- A status and a count that go together. -/
theorem onLadder_of {d : Device} (h : (d.protectionStatus = .normal ∧ d.bypassAttempts = 0) ∨
    (d.protectionStatus = .possibleDnsBypass ∧ (d.bypassAttempts = 1 ∨ d.bypassAttempts = 2)) ∨
    (d.protectionStatus = .compromised ∧ d.bypassAttempts = 3)) : OnLadder d := by
  unfold OnLadder Protection.bypassHistory
  rcases h with ⟨hs, ha⟩ | ⟨hs, ha | ha⟩ | ⟨hs, ha⟩ <;> rw [hs, ha] <;> decide

theorem OnLadder.congr {d d' : Device} (h : OnLadder d)
    (hs : d'.protectionStatus = d.protectionStatus)
    (ha : d'.bypassAttempts = d.bypassAttempts) : OnLadder d' := by
  unfold OnLadder Protection.bypassHistory at h ⊢
  rw [hs, ha]
  exact h

/-- A device that is not compromised has some rungs left. -/
theorem OnLadder.attempts {d : Device} (h : OnLadder d) (hs : d.protectionStatus ≠ .compromised) :
    d.bypassAttempts = 0 ∨ d.bypassAttempts = 1 ∨ d.bypassAttempts = 2 := by
  obtain ⟨r, hr, hstatus, hattempts, -⟩ := h
  simp only [ladder, List.mem_cons, List.not_mem_nil, or_false] at hr
  rcases hr with rfl | rfl | rfl | rfl
  · exact .inl hattempts
  · exact .inr (.inl hattempts)
  · exact .inr (.inr hattempts)
  · exact absurd hstatus hs

/-- What a pass writes to a device it has found. -/
theorem onLadder_raised {d' : Device} {n : ℤ} (hn : n = 0 ∨ n = 1 ∨ n = 2)
    (hs : d'.protectionStatus = if decide (n + 1 ≥ compromisedThreshold) = true then .compromised
      else .possibleDnsBypass) (ha : d'.bypassAttempts = n + 1) : OnLadder d' := by
  refine onLadder_of ?_
  rw [hs, ha]
  rcases hn with rfl | rfl | rfl <;> decide

end Device

/-! ### Passes -/

section Pass

/-- A call that leaves the devices alone. -/
def Same (w w' : World) : Prop := w'.db.devices = w.db.devices

theorem idle_same : Idle Same := fun _ => rfl

theorem deliverCalls : DeliverCalls Same where
  refl _ := rfl
  idle := idle_same
  pushToken _ _ := rfl
  sent _ := Ignores.update (m := .notificationEvent) idle_same (fun _ _ => rfl) _ _ _

theorem same_log (data : Audit.Entry) : Calls Same (Audit.log data) :=
  .bind (Ignores.create (m := .auditLog) idle_same (fun _ _ => rfl) _) fun _ => .pure _

theorem same_notify (env : Env) (data : Notifications.Data) :
    Calls Same (Notifications.create env data) :=
  deliverCalls.notify env (Ignores.create (m := .notificationEvent) idle_same (fun _ _ => rfl) _)

theorem assures_same {α : Type} {p : Api α} (h : Calls Same p) :
    Assures (OnDb AllOnLadder) (fun _ => True) p :=
  h.assures fun w w' hsame hw => by
    have hdevices : w'.db.devices = w.db.devices := hsame
    unfold OnDb AllOnLadder at hw ⊢
    rw [hdevices]
    exact hw

/-- A change of a device that puts it on a rung. -/
theorem assures_update (id : String) {f : Device → Device} {hf : ∀ d, (f d).id = d.id}
    (h : ∀ d, OnLadder d → OnLadder (f d)) :
    Assures (OnDb AllOnLadder) (fun _ => True) (Prisma.update .device id f hf) := by
  refine .call (fun w hw => ?_) fun _ _ _ _ => trivial
  rcases run_update_cases .device id f hf w with ⟨e, hrun⟩ | ⟨r, -, hrun⟩ <;>
    change OnDb _ ((Prisma.update .device id f hf).run w).2 <;> rw [hrun]
  · exact hw
  · intro d hd
    obtain ⟨d₀, hd₀, rfl⟩ := List.mem_map.mp (show d ∈ List.map _ w.db.devices.rows from hd)
    split_ifs
    · exact h d₀ (hw d₀ hd₀)
    · exact hw d₀ hd₀

theorem assures_reportBypass (env : Env) {d : Device}
    (h : d.bypassAttempts = 0 ∨ d.bypassAttempts = 1 ∨ d.bypassAttempts = 2) :
    Assures (OnDb AllOnLadder) (fun _ => True) (reportBypass env d) :=
  .bind (assures_same (calls_newDate fun _ => rfl)) fun _ _ =>
    .bind (assures_update d.id fun _ _ => onLadder_raised h rfl rfl) fun _ _ =>
      .bind (assures_same (same_notify env _)) fun _ _ => assures_same (same_log _)

/-- **What a pass assures.** -/
theorem assures_detectDnsBypass (env : Env) :
    Assures (OnDb AllOnLadder) (fun _ => True) (detectDnsBypass env) := by
  refine .bind (assures_same (calls_newDate fun _ => rfl)) fun _ _ =>
    .bind (P := fun ds => ∀ d ∈ ds, OnLadder d ∧ d.protectionStatus ≠ .compromised)
      (.call (fun _ hw => hw) fun w hw ds hds d hd => ?_) fun ds hds => .forEach ds fun d hd =>
        .catchErr (assures_reportBypass env ((hds d hd).1.attempts (hds d hd).2)) fun _ =>
          .pure trivial
  cases hds
  obtain ⟨hmem, hp⟩ := mem_matching.mp hd
  simp only [Bool.and_eq_true, decide_eq_true_eq] at hp
  exact ⟨hw d hmem, hp.1.1.2⟩

/-- A score is computed and stored meanwhile. -/
theorem assures_getProtectionScore (checklists : OfflineControl.Checklists) (p id : String) :
    Assures (OnDb AllOnLadder) (fun _ => True) (Protection.getProtectionScore checklists p id) := by
  refine .bind (.bind (assures_same (calls_query idle_same _)) fun _ _ =>
    .bind (.weaken (.orThrow _ _))
    fun _ _ => .bind (.weaken (.require _ _)) fun _ _ => .pure trivial) fun _ (_ : True) =>
      .bind (assures_same (calls_query idle_same _)) fun _ _ =>
        .bind (.weaken (.orThrow _ _)) fun _ _ =>
        .bind (assures_same (calls_newDate fun _ => rfl)) fun _ _ => .bind (P := fun _ => True)
          (.catchErr
          (.bind (assures_update id fun _ h => h.congr rfl rfl) fun _ _ => .pure trivial)
            fun _ => .pure trivial) fun _ _ => .pure trivial

end Pass

/-! ### Interleavings -/

/-- What runs side by side. -/
inductive Task where
  | detectDnsBypass
  | getProtectionScore (checklists : OfflineControl.Checklists) (parentId deviceId : String)

/-- Its program. -/
def Task.prog (env : Env) : Task → Api Unit
  | .detectDnsBypass => Scheduler.detectDnsBypass env
  | .getProtectionScore checklists p id =>
    System.Run.discard (Protection.getProtectionScore checklists p id)

/-- What else happens leaves status and count of the devices alone; a new device has those of
`newDevice`. -/
def Aside (f : World → World) : Prop :=
  ∀ w, ∀ d ∈ (f w).db.devices.rows,
    (∃ d₀ ∈ w.db.devices.rows, d.protectionStatus = d₀.protectionStatus ∧
    d.bypassAttempts = d₀.bypassAttempts) ∨ d.protectionStatus = .normal ∧ d.bypassAttempts = 0

/-- **The ladder of bypasses.** In any interleaving of passes, overlapping or not, with computations
of scores and with changes of anything else, every device is on a rung: status, count and bypass
history go together. -/
theorem on_ladder (env : Env) {w : World} (hw : AllOnLadder w.db) {moves : ℕ → Move Task World}
    (hother : ∀ n f, moves n = .other f → Aside f) (n : ℕ) :
    ∀ d ∈ ((Pool.idle w).after (fun _ => Task.prog env) moves n).state.db.devices.rows,
      OnLadder d := by
  refine Pool.assured (I := OnDb AllOnLadder) (C := fun _ => True) (P := fun _ _ => True)
    (fun _ t _ => ?_) (fun _ _ _ => trivial) (fun m f hf v hv d hd => ?_) hw n
  · cases t with
    | detectDnsBypass => exact assures_detectDnsBypass env
    | getProtectionScore checklists p id =>
      exact .bind (assures_getProtectionScore checklists p id) fun _ _ => .pure trivial
  · rcases hother m f hf v d hd with ⟨d₀, hd₀, hs, ha⟩ | hnew
    · exact (hv d₀ hd₀).congr hs ha
    · exact onLadder_of (.inl hnew)

/-- A locked device that has not been seen. -/
def phone : Device :=
  { Household.device "phone" "amal" "adam" with
    internetLocked := true, internetLockedAt := some (-900000) }

/-- The households with the phone. -/
def home : World := .fresh (Household.withDevices [phone] (List.nodup_singleton phone.id)) 0

/-- Two passes that read the phone before either writes it. -/
def overlapping : List (Move Task World) :=
  [.start .detectDnsBypass, .start .detectDnsBypass, .call 0, .call 0, .call 1, .call 1, .call 0,
    .call 0,
    .call 1, .call 1]

theorem on_ladder_home : AllOnLadder home.db ∧
    ∀ d ∈ ((Pool.idle home).after (fun _ => Task.prog .plain)
      (schedule overlapping) 10).state.db.devices.rows, OnLadder d := by
  have hhome : AllOnLadder home.db := fun d hd => by
    obtain rfl := List.mem_singleton.mp hd
    exact onLadder_of (.inl ⟨rfl, rfl⟩)
  exact ⟨hhome, on_ladder .plain hhome (forall_other_schedule (by simp [overlapping])) 10⟩

end GuardTime.Health.Ladder
