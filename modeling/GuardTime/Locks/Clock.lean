import Mathlib.Tactic
import GuardTime.Lib.Circle
import GuardTime.Locks.Bedtime

/-! # Bedtimes on the clock

Bedtimes are texts `HH:MM`; the scheduler compares them with the text of the current time through
`toMin`. On texts that the schedule's pattern accepts this is membership in an arc of the circle of
1440 minutes (`isWithinBedtime_iff`), so in runs of passes and parents' requests a device is locked
inside its bedtime and outside it not held by the scheduler (`bedtime_tracks_clock`). -/

namespace GuardTime.Locks.Clock

open GuardTime.Lib.Program GuardTime.Lib.Keyed GuardTime.Lib.Js GuardTime.Lib.Circle
open GuardTime.Schema GuardTime.Server GuardTime.Services GuardTime.Locks.Bedtime

/-! ### Times of day as texts -/

/-- `\d`. -/
def digits : List Char := ['0', '1', '2', '3', '4', '5', '6', '7', '8', '9']

/-- `[01]\d|2[0-3]`. -/
def isHour (a b : Char) : Bool := a ∈ ['0', '1'] && b ∈ digits || a = '2' && b ∈ digits.take 4

/-- `[0-5]\d`. -/
def isMinute (c d : Char) : Bool := c ∈ digits.take 6 && d ∈ digits

/-- `HHMM` of the schedule's body. -/
def hhmm (s : String) : Bool :=
  match s.toList with
  | [a, b, ':', c, d] => isHour a b && isMinute c d
  | _ => false

/-- The value of two digits. -/
def pairValue (a b : Char) : ℤ := digitsValue [a, b]

/-- The minutes of a day at a text `HH:MM`. -/
def minutes (s : String) : ℤ :=
  match s.toList with
  | [a, b, _, c, d] => pairValue a b * 60 + pairValue c d
  | _ => 0

/-- What holds of all pairs of digits, checked pair by pair. -/
theorem forall_digits {P : Char → Char → Prop} [∀ a b, Decidable (P a b)]
    (h : (digits.all fun a => digits.all fun b => decide (P a b)) = true) :
    ∀ a ∈ digits, ∀ b ∈ digits, P a b := by
  intro a ha b hb
  exact of_decide_eq_true (List.all_eq_true.mp (List.all_eq_true.mp h a ha) b hb)

theorem number_pair : ∀ a ∈ digits, ∀ b ∈ digits,
    number (String.ofList [a, b]) = some (pairValue a b) :=
  forall_digits (by decide +kernel)

theorem isHour_spec : ∀ a ∈ digits, ∀ b ∈ digits, isHour a b = true →
    0 ≤ pairValue a b ∧ pairValue a b < 24 :=
  forall_digits (by decide +kernel)

theorem isMinute_spec : ∀ c ∈ digits, ∀ d ∈ digits, isMinute c d = true →
    0 ≤ pairValue c d ∧ pairValue c d < 60 :=
  forall_digits (by decide +kernel)

theorem digits_of_isHour {a b : Char} (h : isHour a b = true) : a ∈ digits ∧ b ∈ digits := by
  simp only [isHour, Bool.or_eq_true, Bool.and_eq_true, decide_eq_true_eq, List.mem_cons,
    List.not_mem_nil, or_false] at h
  rcases h with ⟨rfl | rfl, hb⟩ | ⟨rfl, hb⟩
  · exact ⟨by decide, hb⟩
  · exact ⟨by decide, hb⟩
  · exact ⟨by decide, List.mem_of_mem_take hb⟩

theorem digits_of_isMinute {c d : Char} (h : isMinute c d = true) : c ∈ digits ∧ d ∈ digits := by
  simp only [isMinute, Bool.and_eq_true, decide_eq_true_eq] at h
  exact ⟨List.mem_of_mem_take h.1, h.2⟩

/-- The texts the pattern accepts. -/
theorem hhmm_iff {s : String} : hhmm s = true ↔ ∃ a b c d, s = String.ofList [a, b, ':', c, d] ∧
    isHour a b = true ∧ isMinute c d = true := by
  unfold hhmm
  constructor
  · intro h
    split at h
    · rename_i a b c d hs
      obtain ⟨hh, hm⟩ := Bool.and_eq_true_iff.mp h
      exact ⟨a, b, c, d, by rw [← hs, String.ofList_toList], hh, hm⟩
    · cases h
  · rintro ⟨a, b, c, d, rfl, hh, hm⟩
    simp [hh, hm]

theorem colon_notMem {a b : Char} (ha : a ∈ digits) (hb : b ∈ digits) : ':' ∉ [a, b] := by
  intro h
  rcases List.mem_cons.mp h with rfl | h
  · exact absurd ha (by decide)
  · rw [List.mem_singleton] at h
    subst h
    exact absurd hb (by decide)

/-- `toMin` on accepted texts. -/
theorem toMin_hhmm {s : String} (h : hhmm s = true) :
    Scheduler.toMin s = some (minutes s) ∧ 0 ≤ minutes s ∧ minutes s < 1440 := by
  obtain ⟨a, b, c, d, rfl, hh, hm⟩ := hhmm_iff.mp h
  obtain ⟨ha, hb⟩ := digits_of_isHour hh
  obtain ⟨hc, hd⟩ := digits_of_isMinute hm
  have hsplit : split (String.ofList [a, b, ':', c, d]) ':' =
      [String.ofList [a, b], String.ofList [c, d]] := by
    rw [split, String.toList_ofList]
    have hcut := List.splitOn_append_cons_self_of_not_mem (colon_notMem ha hb) [c, d]
    rw [List.splitOn_eq_singleton (colon_notMem hc hd)] at hcut
    exact congrArg (List.map String.ofList) hcut
  have hvalue : minutes (String.ofList [a, b, ':', c, d]) = pairValue a b * 60 + pairValue c d := by
    simp [minutes]
  have hhour := isHour_spec a ha b hb hh
  have hminute := isMinute_spec c hc d hd hm
  refine ⟨?_, ?_, ?_⟩
  · simp only [Scheduler.toMin, hsplit, number_pair a ha b hb, number_pair c hc d hd, hvalue]
    rfl
  · rw [hvalue]
    omega
  · rw [hvalue]
    omega

/-! ### The clock of the server -/

/-- `getHours()` and `getMinutes()` are on the face of a clock. -/
structure OnFace (z : Zone) : Prop where
  hours : ∀ t, z.hours t < 24
  minutes : ∀ t, z.minutes t < 60

/-- The minute of the day. -/
def minuteOfDay (z : Zone) (t : Time) : ℤ := z.hours t * 60 + z.minutes t

/-- The text has two digits of the given kind, with the given value. -/
def reads (kind : Char → Char → Bool) (n : ℕ) (s : String) : Bool :=
  match s.toList with
  | [a, b] => kind a b && pairValue a b = n
  | _ => false

theorem reads_iff {kind : Char → Char → Bool} {n : ℕ} {s : String} :
    reads kind n s = true ↔ ∃ a b, s.toList = [a, b] ∧ kind a b = true ∧ pairValue a b = n := by
  unfold reads
  constructor
  · intro h
    split at h
    · rename_i a b hs
      obtain ⟨hk, hn⟩ := Bool.and_eq_true_iff.mp h
      exact ⟨a, b, hs, hk, of_decide_eq_true hn⟩
    · cases h
  · rintro ⟨a, b, hs, hk, hn⟩
    simp [hs, hk, hn]

theorem reads_hour : ∀ n < 24, reads isHour n (padStart n 2) = true := by
  decide +kernel

theorem reads_minute : ∀ n < 60, reads isMinute n (padStart n 2) = true := by
  decide +kernel

/-- The text of the current time. -/
theorem hhmm_currentTime {env : Env} (hface : OnFace env.zone) (t : Time) :
    hhmm (Scheduler.currentTime env t) = true ∧
      minutes (Scheduler.currentTime env t) = minuteOfDay env.zone t := by
  obtain ⟨a, b, hh, hhour, hhv⟩ := reads_iff.mp (reads_hour _ (hface.hours t))
  obtain ⟨c, d, hm, hminute, hmv⟩ := reads_iff.mp (reads_minute _ (hface.minutes t))
  have htext : (Scheduler.currentTime env t).toList = [a, b, ':', c, d] := by
    simp [Scheduler.currentTime, hh, hm]
  constructor
  · exact hhmm_iff.mpr ⟨a, b, c, d, by rw [← htext, String.ofList_toList], hhour, hminute⟩
  · simp only [minutes, htext, minuteOfDay, hhv, hmv]

/-- **Bedtimes are arcs.** -/
theorem isWithinBedtime_iff {env : Env} (hface : OnFace env.zone) (t : Time) {s e : String}
    (hs : hhmm s = true) (he : hhmm e = true) :
    Scheduler.isWithinBedtime (Scheduler.currentTime env t) s e = true ↔
      minuteOfDay env.zone t ∈ Arc 1440 (minutes s) (minutes e) := by
  obtain ⟨hnow, hvalue⟩ := hhmm_currentTime hface t
  obtain ⟨hn, hn0, hn1⟩ := toMin_hhmm hnow
  obtain ⟨hs', hs0, hs1⟩ := toMin_hhmm hs
  obtain ⟨he', he0, he1⟩ := toMin_hhmm he
  rw [← hvalue, mem_arc_iff ⟨hs0, hs1⟩ ⟨he0, he1⟩ ⟨hn0, hn1⟩, Scheduler.isWithinBedtime]
  simp only [hn, hs', he', Scheduler.leNum, Scheduler.ltNum, decide_eq_true_eq]
  split_ifs <;> simp

theorem ne_empty_of_hhmm {s : String} (h : hhmm s = true) : s ≠ "" := by
  rintro rfl
  exact absurd h (by decide)

theorem inBedtime_iff {env : Env} (hface : OnFace env.zone) (t : Time) {d : Device} {s e : String}
    (hstart : d.bedtimeStart = some s) (hend : d.bedtimeEnd = some e) (hs : hhmm s = true)
    (he : hhmm e = true) : Scheduler.inBedtime (Scheduler.currentTime env t) d = true ↔
      minuteOfDay env.zone t ∈ Arc 1440 (minutes s) (minutes e) := by
  rw [Scheduler.inBedtime, hstart, hend, truthy_some (ne_empty_of_hhmm hs),
    truthy_some (ne_empty_of_hhmm he)]
  exact isWithinBedtime_iff hface t hs he

/-! ### Runs -/

theorem locked_enforced {env : Env} {t : Time} {d : Device}
    (h : Scheduler.inBedtime (Scheduler.currentTime env t) d = true) :
    (enforced env t d).internetLocked = true := by
  unfold enforced
  dsimp only
  rw [h]
  rcases hl : d.internetLocked with _ | _
  · rfl
  · simp [hl]

theorem released_enforced {env : Env} {t : Time} {d : Device}
    (h : Scheduler.inBedtime (Scheduler.currentTime env t) d = false) :
    Scheduler.lockedByBedtime (enforced env t d) = false := by
  unfold enforced
  dsimp only
  rw [h]
  rcases hl : Scheduler.lockedByBedtime d with _ | _
  · simp [hl]
  · simp [Scheduler.lockedByBedtime, withoutLock]

/-- **Bedtime locking tracks the clock.** After a pass of any run, a device with automatic blocking
and a bedtime `HH:MM` is locked if the minute of the day lies on the arc of its bedtime, and
otherwise it is not held by a lock of the scheduler. -/
theorem bedtime_tracks_clock {env : Env} (hface : OnFace env.zone) (w : World) (steps : List Step)
    (t : Time) {id : String} {d : Device} {s e : String}
    (hd : (run env w steps).world.db.devices.find id = some d) (hauto : d.autoBlockEnabled = true)
    (hstart : d.bedtimeStart = some s) (hend : d.bedtimeEnd = some e) (hs : hhmm s = true)
    (he : hhmm e = true) :
    ∃ d', (run env w (steps ++ [⟨t, .enforceDeviceSchedules⟩])).world.db.devices.find id = some d' ∧
      (minuteOfDay env.zone t ∈ Arc 1440 (minutes s) (minutes e) → d'.internetLocked = true) ∧
      (minuteOfDay env.zone t ∉ Arc 1440 (minutes s) (minutes e) →
        Scheduler.lockedByBedtime d' = false ∧
        (run env w (steps ++ [⟨t, .enforceDeviceSchedules⟩])).placed id = false) := by
  have hafter : (run env w (steps ++ [⟨t, .enforceDeviceSchedules⟩])).world.db.devices.find id =
      some (enforced env t d) := by
    have hpass := find_pass env ((run env w steps).world.atTime t) id
    rw [run, List.foldl_append]
    refine hpass.trans ?_
    have hd' : ((run env w steps).world.atTime t).db.devices.find id = some d := hd
    rw [hd', Option.map_some, afterPass, if_pos hauto]
    rfl
  have hwindow := inBedtime_iff hface t hstart hend hs he
  refine ⟨enforced env t d, hafter, fun hin => locked_enforced (hwindow.mpr hin), fun hout => ?_⟩
  have hfree : Scheduler.lockedByBedtime (enforced env t d) = false :=
    released_enforced (by simpa using fun h => hout (hwindow.mp h))
  refine ⟨hfree, ?_⟩
  rw [← Bool.not_eq_true]
  intro hplaced
  obtain ⟨d', hd', hby⟩ :=
    placedStand_run env w (steps ++ [⟨t, .enforceDeviceSchedules⟩]) id hplaced
  obtain rfl := Option.some.inj (hafter.symm.trans hd')
  rw [hfree] at hby
  cases hby

theorem onFace_plain : OnFace Env.plain.zone where
  hours t := by
    have hlt : t / 3600000 % 24 < 24 := Int.emod_lt_of_pos _ (by norm_num)
    change (t / 3600000 % 24).toNat < 24
    omega
  minutes t := by
    have hlt : t / 60000 % 60 < 60 := Int.emod_lt_of_pos _ (by norm_num)
    change (t / 60000 % 60).toNat < 60
    omega

/-- The parent sets a bedtime past midnight, a pass at ten in the evening locks the phone, and the
parent unlocks it. -/
def evening : List Step :=
  [⟨79200000, .upsertSchedule "amal" "phone"
      { bedtimeStart := some (some "21:00"), bedtimeEnd := some (some "07:00"),
        autoBlockEnabled := some (some true) }⟩,
   ⟨79200000, .enforceDeviceSchedules⟩,
   ⟨79260000, .unlockInternet "amal" "phone"⟩]

theorem bedtime_tracks_clock_evening : ∃ d',
    (run .plain home (evening ++ [⟨79320000, .enforceDeviceSchedules⟩])).world.db.devices.find
      "phone" =
      some d' ∧ d'.internetLocked = true := by
  have hfind : ((run .plain home evening).world.db.devices.find "phone").map
      (fun d => (d.autoBlockEnabled, d.bedtimeStart, d.bedtimeEnd)) =
        some (true, some "21:00", some "07:00") := by decide +kernel
  obtain ⟨d, hd, hcols⟩ := Option.map_eq_some_iff.mp hfind
  obtain ⟨hauto, hstart, hend⟩ : d.autoBlockEnabled = true ∧ d.bedtimeStart = some "21:00" ∧
      d.bedtimeEnd = some "07:00" := by simpa using hcols
  obtain ⟨d', hd', hlocked, -⟩ :=
    bedtime_tracks_clock onFace_plain home evening 79320000 hd hauto hstart
    hend (by decide) (by decide)
  exact ⟨d', hd', hlocked (by decide +kernel)⟩

end GuardTime.Locks.Clock
