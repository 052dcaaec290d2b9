import Mathlib.Tactic
import GuardTime.Services.Health
import GuardTime.Household

/-! # Three verdicts on freshness

The report counts a device as protected up to 15 minutes after its last query, the health verdict
rounds the age down to whole minutes first, and the scheduler compares with a cutoff.

* `isProtected_iff`, `filteringActive_iff`, `silent_iff`: each verdict as a bound on the age in
  milliseconds;
* `freshness_agrees_iff`: they agree exactly outside the sixteenth minute. -/

namespace GuardTime.Health.Freshness

open GuardTime.Lib.Program GuardTime.Lib.Js GuardTime.Schema GuardTime.Server GuardTime.Prisma
open GuardTime.Services GuardTime.Services.DeviceHealth GuardTime.Services.Reports

/-- `monitorDeviceHealth` considers the device silent. -/
def silent (now : Time) (d : Device) : Bool :=
  d.dnsConfigured && d.lastDnsSeenAt.all fun t => t < now - 900000

/-- The pass reports the live devices it considers silent, each once. -/
theorem monitorDeviceHealth_eq (env : Env) : Scheduler.monitorDeviceHealth env = (do
    let now ← newDate
    let live ← Prisma.query Scheduler.liveDevices
    Scheduler.forEachSafely ((Scheduler.firstOccurrences [] live).filter (silent now))
      (Scheduler.reportSilent env)) := rfl

section Verdicts
variable {d : Device} {now : Time}

theorem isProtected_iff : (deviceActivity now d).isProtected = true ↔
    ∃ t, d.lastDnsSeenAt = some t ∧ now - t ≤ 900000 := by
  unfold deviceActivity freshMinutes
  rcases d.lastDnsSeenAt with _ | t
  · simp
  · have hms : (15 : ℤ) * 60000 = 900000 := by norm_num
    simp [hms]

theorem silent_iff (hdns : d.dnsConfigured = true) : silent now d = true ↔
    ∀ t, d.lastDnsSeenAt = some t → 900000 < now - t := by
  unfold silent
  rw [hdns, Bool.true_and]
  rcases d.lastDnsSeenAt with _ | t
  · simp
  · have hcut : t < now - 900000 ↔ 900000 < now - t := ⟨fun h => by linarith, fun h => by linarith⟩
    simp [hcut]

/-- An age of whole minutes, rounded down and not below zero. -/
theorem minutes_le_iff (age : ℤ) : max 0 (age / 60000) ≤ freshThresholdMinutes ↔ age < 960000 := by
  unfold freshThresholdMinutes
  constructor
  · intro h
    have hdiv : age / 60000 ≤ 15 := le_trans (le_max_right _ _) h
    omega
  · intro h
    have hdiv : age / 60000 ≤ 15 := by omega
    exact max_le (by norm_num) hdiv

theorem filteringActive_iff (active : List String) :
    (evaluateDeviceHealth (inputOf active d) now).filteringActive = true ↔
      ∃ t, d.lastDnsSeenAt = some t ∧ now - t < 960000 := by
  unfold evaluateDeviceHealth ageMinutes inputOf
  rcases d.lastDnsSeenAt with _ | t
  · dsimp only [Option.map_none]
    split_ifs <;> simp
  · dsimp only [Option.map_some]
    split_ifs with hfresh hused
    · simpa using (minutes_le_iff (now - t)).mp hfresh
    · simpa using fun h => hfresh ((minutes_le_iff (now - t)).mpr h)
    · simpa using fun h => hfresh ((minutes_le_iff (now - t)).mpr h)

end Verdicts

/-- The three verdicts say the same. -/
def Agree (now : Time) (active : List String) (d : Device) : Prop :=
  (deviceActivity now d).isProtected =
    (evaluateDeviceHealth (inputOf active d) now).filteringActive ∧
    (evaluateDeviceHealth (inputOf active d) now).filteringActive = !silent now d

/-- **Where the verdicts agree.** For a device with DNS configured the report, the health verdict
and the scheduler agree exactly when the last query is not between 15 and 16 minutes ago. -/
theorem freshness_agrees_iff (d : Device) (hdns : d.dnsConfigured = true) (now : Time)
    (active : List String) : Agree now active d ↔
      ∀ t, d.lastDnsSeenAt = some t → ¬ (900000 < now - t ∧ now - t < 960000) := by
  have hreport := @isProtected_iff d now
  have hhealth := @filteringActive_iff d now active
  have hsilent := @silent_iff d now hdns
  unfold Agree
  rw [Bool.eq_iff_iff, hreport, hhealth, Bool.eq_iff_iff, hhealth, Bool.not_eq_true', ←
    Bool.not_eq_true, hsilent]
  rcases d.lastDnsSeenAt with _ | t
  · simp
  simp only [Option.some.injEq, exists_eq_left', forall_eq']
  generalize now - t = age
  constructor
  · rintro ⟨h, -⟩ ⟨hgt, hlt⟩
    exact absurd (h.mpr hlt) (not_le.mpr hgt)
  · intro h
    refine ⟨⟨fun hle => by linarith, fun hlt => ?_⟩, ⟨fun hlt hgt => h ⟨hgt, hlt⟩, fun hle => ?_⟩⟩
    · by_contra hgt
      exact h ⟨not_le.mp hgt, hlt⟩
    · by_contra hge
      exact hle (lt_of_lt_of_le (by norm_num) (not_lt.mp hge))

/-- A device with DNS configured that was last seen at the given time. -/
def seenAt (t : Time) : Device :=
  { Household.device "phone" "amal" "adam" with dnsConfigured := true, lastDnsSeenAt := some t }

theorem freshness_agrees_just_seen : Agree 900000 [] (seenAt 0) := by
  refine (freshness_agrees_iff (seenAt 0) rfl 900000 []).mpr ?_
  rintro t ⟨⟩ ⟨hgt, -⟩
  exact absurd hgt (by decide)

/-- Half a minute after the fifteenth the health verdict still says that filtering is active, when
the report does not count the device as protected and the scheduler alerts the parent. -/
theorem disagree_sixteenth_minute : ¬ ∀ (d : Device), d.dnsConfigured = true → ∀ (now : Time)
    (active : List String), Agree now active d := by
  intro h
  have hagree := h (seenAt 0) rfl 930000 []
  exact absurd hagree.1 (by decide)

end GuardTime.Health.Freshness
