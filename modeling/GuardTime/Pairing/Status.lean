import Mathlib.Tactic
import GuardTime.Pairing.Run

/-! # The status of a paired device

`paired`, `pairStatus` and the waiting sessions encode one status. `startPairing` makes the status
of a paired device waiting, and nothing but a successful confirmation makes it paired again:
`cancelPairing` deletes the session and leaves the status, a rejected confirmation overwrites it. In
runs in which neither meets a paired device, the status tells the truth (`truthful`). -/

namespace GuardTime.Pairing.Status

open GuardTime.Lib.Program GuardTime.Lib.Keyed GuardTime.Lib.Js GuardTime.Schema GuardTime.Server
open GuardTime.Prisma GuardTime.Services GuardTime.Services.Pairing GuardTime.Pairing.Effects
open GuardTime.Pairing.Run

/-- A session of the device is waiting. -/
def Waits (T : Tables) (deviceId : String) : Prop :=
  ∃ s ∈ T.sessions.rows, s.deviceId = deviceId ∧ s.status = .waiting

/-- A paired device without a waiting session has the status paired. -/
def Truthful (T : Tables) : Prop :=
  ∀ d ∈ T.devices.rows, d.paired = true → ¬ Waits T d.id → d.pairStatus = .paired

/-- No paired device is marked expired or failed. -/
def Unmarked (T : Tables) : Prop :=
  ∀ d ∈ T.devices.rows, d.paired = true → d.pairStatus ≠ .expired ∧ d.pairStatus ≠ .failed

/-- A paired device has the status paired, or it is being paired again. -/
def Told (T : Tables) : Prop := ∀ d ∈ T.devices.rows, d.paired = true →
  d.pairStatus = .paired ∨ d.pairStatus = .waiting ∧ Waits T d.id

theorem told_iff {T : Tables} : Told T ↔ Truthful T ∧ Unmarked T := by
  constructor
  · intro h
    refine ⟨fun d hd hpaired hno => ?_, fun d hd hpaired => ?_⟩
    · exact (h d hd hpaired).resolve_right fun hw => hno hw.2
    · rcases h d hd hpaired with hstatus | ⟨hstatus, -⟩ <;> simp [hstatus]
  · rintro ⟨htrue, hun⟩ d hd hpaired
    obtain ⟨hexpired, hfailed⟩ := hun d hd hpaired
    by_cases hw : Waits T d.id
    · rcases hstatus : d.pairStatus with _ | _ | _ | _
      · exact .inr ⟨rfl, hw⟩
      · exact .inl rfl
      · exact absurd hstatus hexpired
      · exact absurd hstatus hfailed
    · exact .inl (htrue d hd hpaired hw)

/-- The operation does not end a re-pairing of a paired device without success: no session of a
device that is paired but not marked so is cancelled, and no confirmation on a paired device is
rejected. -/
def Restores (w : World) : Op → Prop
  | .cancel deviceId parentId => ∀ d, w.db.devices.find deviceId = some d →
      d.parentId = parentId → d.paired = true → d.pairStatus = .paired
  | .confirm dto => ∀ s d, sessionOf w.db dto = some s → s.status = .waiting →
      s.expiresAt < w.now ∨ 5 ≤ s.attempts → w.db.devices.find s.deviceId = some d →
      d.paired = false
  | .start _ _ | .heartbeat _ _ => True

/-! ### One operation -/

section Effect
variable {w w' : World} {op : Op} {T : Tables}

/-- The session of another device stays when one device's are deleted. -/
theorem waits_cleared {deviceId k : String} {db : Database} (hk : deviceId ≠ k)
    (h : Waits (tables db) deviceId) : Waits (tables (cleared k db)) deviceId := by
  obtain ⟨s, hs, hdevice, hwait⟩ := h
  exact ⟨s, Table.mem_erase.mpr ⟨hs, by simp [hdevice, hk]⟩, hdevice, hwait⟩

/-- What a heartbeat writes to the device leaves both columns alone. -/
theorem told_beat {k ip : String} {r : Except Err Unit} (h : Told (tables w.db))
    (hbeat : Beat w w' k ip r T) : Told T := by
  cases hbeat with
  | silent hwhy => exact h
  | failed e hno => exact h
  | again hd hpaired hip hid hseen =>
    intro d' hd'
    obtain ⟨d, hd, ⟨-, rfl⟩ | ⟨-, rfl⟩⟩ := mem_patched (touched w.now) (touched_id _) hd'
    · exact h d hd
    · exact h d' hd
  | change hd hpaired hip hid hseen hid' hev hins =>
    intro d' hd'
    obtain ⟨d, hd, ⟨-, rfl⟩ | ⟨-, rfl⟩⟩ := mem_patched (moved ip w.now) (moved_id _ _) hd'
    · exact h d hd
    · exact h d' hd

/-- The device is paired, and only its own session is gone. -/
theorem told_completed {dto : ConfirmPairingDto} {s : PairingSession} (h : Told (tables w.db))
    (hs : s ∈ w.db.pairingSessions.rows) (hdone : Completed w w' dto s T) : Told T := by
  obtain @⟨_, beacon, _, _, _, _, _, hd, hbeacon, hid, hseen, hid', hev, hins⟩ := hdone
  intro d' hd' hpaired
  obtain ⟨d, hd, ⟨-, rfl⟩ | ⟨hne, rfl⟩⟩ :=
    mem_patched (paired dto.sourceIp dto.resolverRegion w.now beacon) (paired_id _ _ _ _) hd'
  · exact .inl rfl
  · refine (h d' hd hpaired).imp_right fun ⟨hstatus, s₀, hs₀, hdevice, hwait⟩ => ⟨hstatus, s₀, ?_⟩
    refine ⟨Table.mem_erase.mpr ⟨hs₀, ?_⟩, hdevice, hwait⟩
    rw [decide_eq_false_iff_not]
    intro hid
    rw [Table.eq_of_key hs₀ hs hid] at hdevice
    exact hne hdevice.symm

/-- One operation keeps the status told. -/
theorem told_effect (h : Told (tables w.db)) (hsupply : Supply w) (hop : Restores w op)
    (heffect : Effect w w' op T) : Told T := by
  cases heffect with
  | quiet => exact h
  | cut hd hno => exact absurd hsupply hno
  | @opened _ deviceId _ _ _ s _ hd hid htoken hs hins =>
    have hrows := (Table.insert_eq_some hins).2
    intro d' hd' hpaired
    obtain ⟨d, hd, ⟨rfl, rfl⟩ | ⟨hne, rfl⟩⟩ :=
      mem_patched (marked .waiting) (marked_id .waiting) hd'
    · exact .inr ⟨rfl, s, by simp [hrows], by rw [hs]; rfl, by rw [hs]⟩
    · refine (h d' hd hpaired).imp_right fun ⟨hstatus, hwaits⟩ => ⟨hstatus, ?_⟩
      obtain ⟨s₀, hs₀, hsession⟩ := waits_cleared hne hwaits
      refine ⟨s₀, ?_, hsession⟩
      simp only [hrows]
      exact List.mem_append_left _ hs₀
  | @cancelled d₀ deviceId _ hd hparent =>
    intro d hd' hpaired
    by_cases hk : d.id = deviceId
    · subst hk
      have hfind := Table.find_key hd'
      obtain rfl : d₀ = d := Option.some.inj (hd.symm.trans hfind)
      exact .inl (hop d₀ hfind hparent hpaired)
    · exact (h d hd' hpaired).imp_right fun ⟨hstatus, hwaits⟩ => ⟨hstatus, waits_cleared hk hwaits⟩
  | @rejected _ s d hs hwait hdead hd =>
    intro d' hd' hpaired
    obtain ⟨d₀, hd₀, ⟨hk, rfl⟩ | ⟨-, rfl⟩⟩ := mem_patched (marked _) (marked_id _) hd'
    · have hno := hop s d₀ hs hwait hdead (hk ▸ Table.find_key hd₀)
      cases hno.symm.trans hpaired
    · exact h d' hd₀ hpaired
  | paired hs hdone => exact told_completed h (List.mem_of_find?_eq_some hs) hdone
  | beat hbeat => exact told_beat h hbeat

end Effect

/-! ### Runs -/

/-- **The status tells the truth** in every state of a run in which no operation ends the re-pairing
of a paired device without success. -/
theorem truthful {env : Env} {w₀ w : World} (hsupply : Supply w₀)
    (htrue : Truthful (tables w₀.db)) (hun : Unmarked (tables w₀.db))
    (h : Reaches env Restores w₀ w) : Truthful (tables w.db) ∧ Unmarked (tables w.db) := by
  have hinv : Supply w ∧ Told (tables w.db) := by
    induction h with
    | refl => exact ⟨hsupply, told_iff.mpr ⟨htrue, hun⟩⟩
    | @step w op t ht hop _ ih =>
      have hnow : Supply (w.atTime t) := ⟨ih.1.distinct, ih.1.tables, ih.1.audits⟩
      have heffect := (effect_exec env (w.atTime t) op).2
      exact ⟨supply_exec hnow op, told_effect (w := w.atTime t) ih.2 hnow hop heffect⟩
  exact told_iff.mp hinv.2

/-! ### A tablet that is already paired -/

/-- A paired tablet of `amal`'s. -/
def pairedTablet : Device :=
  { Household.device "tablet" "amal" "adam" with
    paired := true, pairStatus := .paired, dnsSourceIp := some "203.0.113.7",
    publicIp := some "203.0.113.7" }

/-- The world with it. -/
def pairedWorld : World := .fresh (Household.withDevices [pairedTablet] (by simp)) 0

theorem supply_pairedWorld : Supply pairedWorld := by
  refine supply_household [pairedTablet] _ 0 fun d hd => ?_
  obtain rfl := List.mem_singleton.mp hd
  rfl

theorem told_pairedWorld : Truthful (tables pairedWorld.db) ∧ Unmarked (tables pairedWorld.db) := by
  rw [← told_iff]
  intro d hd _
  obtain rfl := List.mem_singleton.mp hd
  exact .inl rfl

/-- The tablet is to be paired again. -/
def reopened : World := exec .plain (pairedWorld.atTime 0) (.start "tablet" "amal")

/-- The probe of the tablet, from another address. -/
def probe : ConfirmPairingDto := ⟨"uuid-2-0", "203.0.113.9", none⟩

/-- It confirms, and only then the parent cancels. -/
def repaired : World :=
  exec .plain ((exec .plain (reopened.atTime 60000) (.confirm probe)).atTime 120000)
    (.cancel "tablet" "amal")

/-- The session is neither late nor worn out. -/
theorem restores_confirm : Restores (reopened.atTime 60000) (.confirm probe) := by
  intro s d hs _ hdead _
  have hmem : s ∈ reopened.db.pairingSessions.rows := List.mem_of_find?_eq_some hs
  have hlive : ∀ s ∈ reopened.db.pairingSessions.rows,
      ¬ (s.expiresAt < 60000 ∨ 5 ≤ s.attempts) := by
    decide +kernel
  exact absurd hdead (hlive s hmem)

/-- The device is marked as paired again. -/
theorem restores_cancel : Restores
    ((exec .plain (reopened.atTime 60000) (.confirm probe)).atTime 120000)
    (.cancel "tablet" "amal") := by
  intro d hd _ _
  have hmem := (Table.find_eq_some.mp hd).1
  have hstatus : ∀ d ∈ (exec .plain (reopened.atTime 60000) (.confirm probe)).db.devices.rows,
      d.pairStatus = .paired := by
    decide +kernel
  exact hstatus d hmem

/-- Pairing it again, and cancelling after that, keeps to the truth. -/
theorem truthful_repaired : Truthful (tables repaired.db) ∧ Unmarked (tables repaired.db) :=
  truthful supply_pairedWorld told_pairedWorld.1 told_pairedWorld.2
    (.step (.cancel "tablet" "amal") (by decide +kernel) restores_cancel
      (.step (.confirm probe) (by decide +kernel) restores_confirm
        (.step (.start "tablet" "amal") le_rfl trivial .refl)))

/-- The tablet is to be paired again, and that is cancelled. -/
def cancelledWorld : World :=
  exec .plain ((exec .plain (pairedWorld.atTime 0) (.start "tablet" "amal")).atTime 0)
    (.cancel "tablet" "amal")

/-- Starting and cancelling leaves the paired tablet waiting, without a session. -/
theorem untruthful_when_cancelled : ¬ ∀ (env : Env) (w₀ w : World), Supply w₀ →
    Truthful (tables w₀.db) → Unmarked (tables w₀.db) → Reaches env Any w₀ w →
    Truthful (tables w.db) := by
  intro h
  have hreach : Reaches .plain Any pairedWorld cancelledWorld :=
    .step _ (by decide +kernel) trivial (.step _ le_rfl trivial .refl)
  have htrue := h _ _ _ supply_pairedWorld told_pairedWorld.1 told_pairedWorld.2 hreach
  obtain ⟨d, hd, hpaired, hstatus⟩ : ∃ d ∈ cancelledWorld.db.devices.rows,
      d.paired = true ∧ d.pairStatus = .waiting := by decide +kernel
  have hnone : cancelledWorld.db.pairingSessions.rows.length = 0 := by decide +kernel
  have hpaired' : d.pairStatus = .paired := by
    refine htrue d hd hpaired ?_
    rintro ⟨s, hs, -⟩
    rw [show (tables cancelledWorld.db).sessions.rows =
      [] from List.eq_nil_of_length_eq_zero hnone] at hs
    cases hs
  cases hstatus.symm.trans hpaired'

end GuardTime.Pairing.Status
