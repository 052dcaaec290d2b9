import Mathlib.Tactic
import GuardTime.Household
import GuardTime.Pairing.Effects

/-! # Runs of the pairing service

The operations of `PairingService` one after the other, at times that do not decrease. `Effect` says
once what an operation may do to the tables; every invariant of a run is a case analysis of it.

* `effect_exec`: every operation has such an effect;
* `supply_exec`: every operation leaves the identifiers to come unused. -/

namespace GuardTime.Pairing.Run

open GuardTime.Lib.Program GuardTime.Lib.Keyed GuardTime.Lib.Js GuardTime.Schema GuardTime.Server
open GuardTime.Prisma GuardTime.Services GuardTime.Services.Pairing GuardTime.Pairing.Effects

/-! ### Start and cancel -/

/-- The database after `deleteWaitingSessionsForDevice`. -/
def cleared (deviceId : String) (db : Database) : Database :=
  { db with
    pairingSessions := db.pairingSessions.erase fun s =>
      s.deviceId = deviceId && s.status = .waiting }

theorem run_deleteWaitingSessionsForDevice (deviceId : String) (w : World) :
    (deleteWaitingSessionsForDevice deviceId).run w =
      (.ok (), World.afterCall w (cleared deviceId w.db)) := rfl

theorem run_findOwned (deviceId parentId : String) (w : World) :
    ((∃ e, (findOwned deviceId parentId).run w = (.error e, World.afterCall w w.db)) ∧
      ∀ d, w.db.devices.find deviceId = some d → d.parentId ≠ parentId) ∨
    ∃ d, (findOwned deviceId parentId).run w = (.ok d, World.afterCall w w.db) ∧
      w.db.devices.find deviceId = some d ∧ d.parentId = parentId := by
  rw [findOwned, Prog.run_bind, run_findUnique,
    show (Model.device.get w.db) = w.db.devices from rfl]
  rcases w.db.devices.find deviceId with _ | d
  · exact .inl ⟨⟨_, rfl⟩, by simp⟩
  · by_cases hp : d.parentId = parentId
    · exact .inr ⟨d, by simp [hp], rfl, hp⟩
    · refine .inl ⟨⟨.forbidden "You do not own this device", by simp [hp]⟩, ?_⟩
      rintro d' hd'
      rwa [← Option.some.inj hd']

/-- What `startPairing` comes to: refused, cut short after the old sessions are gone, or a new
session is open; the answer then fails only with the audit entry. -/
inductive Started (w w' : World) (deviceId parentId : String) :
    Except Err StartPairingResponse → Tables → Prop
  | refused (e : Err) (hwhy : ∀ d, w.db.devices.find deviceId = some d → d.parentId ≠ parentId) :
      Started w w' deviceId parentId (.error e) (tables w.db)
  | cut {d : Device} (e : Err) (hd : w.db.devices.find deviceId = some d)
      (hparent : d.parentId = parentId) (hno : ¬ Supply w) :
      Started w w' deviceId parentId (.error e) (tables (cleared deviceId w.db))
  | opened {d : Device} {id token : String} {s : PairingSession}
      {sessions' : Table PairingSession.id} {r : Except Err StartPairingResponse}
      (hd : w.db.devices.find deviceId = some d) (hparent : d.parentId = parentId)
      (hid : Drawn w w' id) (htoken : Drawn w w' token)
      (hs : s = ⟨id, deviceId, parentId, token, .waiting, w.now + pairTokenTtlMs, 0, w.now⟩)
      (hins : (cleared deviceId w.db).pairingSessions.insert s = some sessions')
      (hr : (∃ response, r = .ok response ∧ response.token = token) ∨
        (∃ e, r = .error e) ∧ (Supply w → w.db.users.find parentId = none)) :
      Started w w' deviceId parentId r { tables w.db with
        devices := (withStatus w.now deviceId .waiting w.db).devices
        sessions := sessions' }

theorem run_startPairing (env : Env) (deviceId parentId : String) (w : World) :
    ∃ r w', (startPairing env deviceId parentId).run w = (r, w') ∧ Later w w' ∧
      Started w w' deviceId parentId r (tables w'.db) := by
  rw [startPairing, Prog.run_bind]
  rcases run_findOwned deviceId parentId w with ⟨⟨e, h₁⟩, hwhy⟩ | ⟨d, h₁, hd, hparent⟩ <;> rw [h₁]
  · exact ⟨_, _, rfl, .afterCall _ _, .refused e hwhy⟩
  simp only [Prog.run_bind, run_deleteWaitingSessionsForDevice, run_randomUUID, run_newDate]
  set w₁ := World.afterCall w w.db
  set w₂ := World.afterCall w₁ (cleared deviceId w₁.db)
  set w₃ : World := { w₂ with calls := w₂.calls + 1 }
  have hlater₃ : Later w w₃ :=
    ((Later.afterCall w w.db).trans (.afterCall _ (cleared deviceId w.db))).trans (.randomUUID w₂)
  rcases run_create_cases .pairingSession (fun id now =>
      ({ id, deviceId, parentId, token := w₂.uuids w₂.calls 0, status := .waiting,
         expiresAt := w₃.now + pairTokenTtlMs, attempts := 0, createdAt := now } :
        PairingSession)) w₃ with ⟨e, h₄⟩ | ⟨sessions', hins, h₄⟩ <;> rw [h₄]
  · refine ⟨_, _, rfl, hlater₃.trans (.afterCall _ _), .cut e hd hparent fun hsupply => ?_⟩
    -- nothing but a used identifier can stop the insertion
    have hsession : ∀ s ∈ (cleared deviceId w.db).pairingSessions.rows,
        s ∈ w.db.pairingSessions.rows := fun s hs => (Table.mem_erase.mp hs).1
    rcases run_create_error h₄ with ⟨u, hu, s, hs, hus⟩ | ⟨l, hl, hholds⟩ | ⟨s, hs, hid⟩
    · obtain rfl := List.mem_singleton.mp hu
      have htoken : s.token = w₂.uuids w₂.calls 0 := by
        simpa [Model.pairingSession, eq_comm] using hus
      exact (hsupply.session (Nat.le_add_right _ 2) s (hsession s hs)).2 htoken
    · obtain rfl := List.mem_singleton.mp hl
      have hnone : w₃.db.devices.find deviceId = none := by simpa [Link.holds] using hholds
      cases hd.symm.trans hnone
    · exact (hsupply.session hlater₃.calls s (hsession s hs)).1 hid
  set w₄ := World.afterCall w₃ (Model.pairingSession.set w₃.db sessions')
  have hlater₄ : Later w w₄ := hlater₃.trans (.afterCall _ _)
  obtain ⟨d', h₅⟩ := @run_setDevicePairStatus w₄ deviceId d .waiting hd
  simp only
  rw [h₅]
  simp only
  set w₅ := World.afterCall w₄ (withStatus w₄.now deviceId .waiting w₄.db)
  have hlater₅ : Later w w₅ := hlater₄.trans (.afterCall _ _)
  have hid : ∀ w', w₅.calls ≤ w'.calls → Drawn w w' (w₃.uuids w₃.calls 0) := by
    intro w' hw'
    refine ⟨w.calls + 3, by omega, lt_of_lt_of_le ?_ hw', rfl⟩
    change w.calls + 3 < w.calls + 1 + 1 + 1 + 1 + 1
    omega
  have htoken : ∀ w', w₅.calls ≤ w'.calls → Drawn w w' (w₂.uuids w₂.calls 0) := by
    intro w' hw'
    refine ⟨w.calls + 2, by omega, lt_of_lt_of_le ?_ hw', rfl⟩
    change w.calls + 2 < w.calls + 1 + 1 + 1 + 1 + 1
    omega
  rcases Audit.run_log
    { userId := some parentId, action := "pairing.start", entity := "device",
      entityId := some deviceId } w₅ with
    ⟨e, h₆⟩ | ⟨entry, logs, hentry, hlogs, h₆⟩ <;> rw [h₆]
  · refine ⟨_, _, rfl, hlater₅.trans (.afterCall _ _),
      .opened hd hparent (hid _ (Nat.le_succ _)) (htoken _ (Nat.le_succ _)) rfl hins
        (.inr ⟨⟨e, rfl⟩, fun hsupply => ?_⟩)⟩
    rcases Audit.log_error h₆ with ⟨a, ha, hx⟩ | ⟨u, hu, hnone⟩
    · exact absurd hx (hsupply.audits _ hlater₅.calls a ha)
    · cases hu
      exact hnone
  · exact ⟨_, _, rfl, hlater₅.trans (.audited hentry hlogs),
      .opened hd hparent (hid _ (Nat.le_succ _)) (htoken _ (Nat.le_succ _)) rfl hins
        (.inl ⟨_, rfl, rfl⟩)⟩

/-- What `cancelPairing` comes to: refused, or the waiting sessions of the device are gone. -/
inductive Cancelled (w : World) (deviceId parentId : String) : Except Err Unit → Tables → Prop
  | refused (e : Err) (hwhy : ∀ d, w.db.devices.find deviceId = some d → d.parentId ≠ parentId) :
      Cancelled w deviceId parentId (.error e) (tables w.db)
  | cleared {d : Device} {r : Except Err Unit} (hd : w.db.devices.find deviceId = some d)
      (hparent : d.parentId = parentId)
      (hr : r = .ok () ∨ (∃ e, r = .error e) ∧ (Supply w → w.db.users.find parentId = none)) :
      Cancelled w deviceId parentId r (tables (cleared deviceId w.db))

theorem run_cancelPairing (deviceId parentId : String) (w : World) :
    ∃ r w', (cancelPairing deviceId parentId).run w = (r, w') ∧ Later w w' ∧
      Cancelled w deviceId parentId r (tables w'.db) := by
  rw [cancelPairing, Prog.run_bind]
  rcases run_findOwned deviceId parentId w with ⟨⟨e, h₁⟩, hwhy⟩ | ⟨d, h₁, hd, hparent⟩ <;> rw [h₁]
  · exact ⟨_, _, rfl, .afterCall _ _, .refused e hwhy⟩
  simp only [Prog.run_bind, run_deleteWaitingSessionsForDevice]
  set w₁ := World.afterCall w w.db
  set w₂ := World.afterCall w₁ (cleared deviceId w₁.db)
  have hlater₂ : Later w w₂ := (Later.afterCall w w.db).trans (.afterCall _ _)
  rcases Audit.run_log
    { userId := some parentId, action := "pairing.cancel", entity := "device",
      entityId := some deviceId } w₂ with
    ⟨e, h₃⟩ | ⟨entry, logs, hentry, hlogs, h₃⟩ <;> rw [h₃]
  · refine ⟨_, _, rfl, hlater₂.trans (.afterCall _ _),
      .cleared hd hparent (.inr ⟨⟨e, rfl⟩, fun hsupply => ?_⟩)⟩
    rcases Audit.log_error h₃ with ⟨a, ha, hx⟩ | ⟨u, hu, hnone⟩
    · exact absurd hx (hsupply.audits _ hlater₂.calls a ha)
    · cases hu
      exact hnone
  · exact ⟨_, _, rfl, hlater₂.trans (.audited hentry hlogs), .cleared hd hparent (.inl rfl)⟩

/-! ### Probes -/

/-- The device with the beacon token. -/
def beaconDevice (db : Database) (token : String) : Option Device :=
  db.devices.rows.find? fun d => d.dnsBeaconToken = some token

/-- A probe whose token is no session's looks for the beacon. -/
theorem run_confirmProbe_unknown {dto : ConfirmPairingDto} {w : World}
    (hs : sessionOf w.db dto = none) : (confirmProbe dto).run w =
      (confirmBeacon dto).run (World.afterCall w w.db) := by
  rw [confirmProbe, Prog.run_bind, transaction_unknown hs]

theorem run_confirmBeacon_none {dto : ConfirmPairingDto} {w : World}
    (hb : beaconDevice w.db dto.token = none) : (confirmBeacon dto).run w =
      (.error (.notFound "Unknown or expired pairing/beacon token"), World.afterCall w w.db) := by
  rw [confirmBeacon, Prog.run_bind, run_findUniqueBy]
  rw [show (Model.device.get w.db).rows.find? (fun d => d.dnsBeaconToken = some dto.token) = none
    from hb]
  rfl

/-- A probe with a device's beacon is a heartbeat of the device. -/
theorem run_confirmBeacon_some {dto : ConfirmPairingDto} {w : World} {d : Device}
    (hb : beaconDevice w.db dto.token = some d) : (confirmBeacon dto).run w =
      (do recordHeartbeat d.id dto.sourceIp; pure d.id).run (World.afterCall w w.db) := by
  rw [confirmBeacon, Prog.run_bind, run_findUniqueBy]
  rw [show (Model.device.get w.db).rows.find? (fun d => d.dnsBeaconToken = some dto.token) = some d
    from hb]
  rfl

/-- What a probe comes to: an unknown token, a heartbeat, or the confirmation of a session. -/
inductive Probed (w w' : World) (dto : ConfirmPairingDto) : Except Err String → Tables → Prop
  | unknown (e : Err) (hs : sessionOf w.db dto = none) (hb : beaconDevice w.db dto.token = none) :
      Probed w w' dto (.error e) (tables w.db)
  | beat {d : Device} {r : Except Err Unit} {r' : Except Err String} {T : Tables}
      (hs : sessionOf w.db dto = none) (hb : beaconDevice w.db dto.token = some d)
      (hbeat : Beat w w' d.id dto.sourceIp r T) (hr : r' = r.map fun _ => d.id) :
      Probed w w' dto r' T
  | refused {s : PairingSession} {T : Tables} (e : Err) (hs : sessionOf w.db dto = some s)
      (hc : Confirmed w w' dto (.error e) T) : Probed w w' dto (.error e) T
  | paired {s : PairingSession} {T : Tables} (hs : sessionOf w.db dto = some s)
      (hwait : s.status = .waiting) (hlive : w.now ≤ s.expiresAt) (hatt : s.attempts < 5)
      (hdone : Completed w w' dto s T) : Probed w w' dto (.ok s.deviceId) T

theorem run_confirmProbe (dto : ConfirmPairingDto) (w : World) :
    ∃ r w', (confirmProbe dto).run w = (r, w') ∧ Later w w' ∧ Probed w w' dto r (tables w'.db) := by
  rcases hs : sessionOf w.db dto with _ | s
  · rw [run_confirmProbe_unknown hs]
    set w₁ := World.afterCall w w.db
    have hlater₁ : Later w w₁ := .afterCall _ _
    rcases hb : beaconDevice w.db dto.token with _ | d
    · rw [run_confirmBeacon_none (w := w₁) hb]
      exact ⟨_, _, rfl, hlater₁.trans (.afterCall _ _), .unknown _ hs hb⟩
    · rw [run_confirmBeacon_some (w := w₁) hb, Prog.run_bind]
      set w₂ := World.afterCall w₁ w₁.db
      have hlater₂ : Later w w₂ := hlater₁.trans (.afterCall _ _)
      obtain ⟨r, w', hrun, hlater, hbeat⟩ := run_recordHeartbeat d.id dto.sourceIp w₂
      rw [hrun]
      have hbeat' := hbeat.of_later hlater₂ rfl
      rcases r with e | _
      · exact ⟨_, w', rfl, hlater₂.trans hlater, .beat hs hb hbeat' rfl⟩
      · exact ⟨_, w', rfl, hlater₂.trans hlater, .beat hs hb hbeat' rfl⟩
  · obtain ⟨r, w', hrun, hlater, hc⟩ := run_tryConfirm dto w
    rw [confirmProbe, Prog.run_bind, hrun]
    rcases r with e | o
    · exact ⟨_, w', rfl, hlater, .refused e hs hc⟩
    · generalize hT : tables w'.db = T at hc
      cases hc with
      | unknown hnone => cases hs.symm.trans hnone
      | paired hs' hwait hlive hatt hdone =>
        exact ⟨_, w', rfl, hlater, .paired hs' hwait hlive hatt (hT ▸ hdone)⟩

/-! ### Operations -/

/-- An operation of the pairing service. -/
inductive Op where
  | start (deviceId parentId : String)
  | cancel (deviceId parentId : String)
  | confirm (dto : ConfirmPairingDto)
  | heartbeat (deviceId sourceIp : String)

/-- The world after an operation. -/
def exec (env : Env) (w : World) : Op → World
  | .start deviceId parentId => ((startPairing env deviceId parentId).run w).2
  | .cancel deviceId parentId => ((cancelPairing deviceId parentId).run w).2
  | .confirm dto => ((confirmProbe dto).run w).2
  | .heartbeat deviceId sourceIp => ((recordHeartbeat deviceId sourceIp).run w).2

/-- What an operation does to the tables. -/
inductive Effect (w w' : World) : Op → Tables → Prop
  | quiet {op : Op} : Effect w w' op (tables w.db)
  | cut {d : Device} {deviceId parentId : String} (hd : w.db.devices.find deviceId = some d)
      (hno : ¬ Supply w) :
      Effect w w' (.start deviceId parentId) (tables (cleared deviceId w.db))
  | opened {d : Device} {deviceId parentId id token : String} {s : PairingSession}
      {sessions' : Table PairingSession.id} (hd : w.db.devices.find deviceId = some d)
      (hid : Drawn w w' id) (htoken : Drawn w w' token)
      (hs : s = ⟨id, deviceId, parentId, token, .waiting, w.now + pairTokenTtlMs, 0, w.now⟩)
      (hins : (cleared deviceId w.db).pairingSessions.insert s = some sessions') :
      Effect w w' (.start deviceId parentId) { tables w.db with
        devices := (withStatus w.now deviceId .waiting w.db).devices
        sessions := sessions' }
  | cancelled {d : Device} {deviceId parentId : String}
      (hd : w.db.devices.find deviceId = some d) (hparent : d.parentId = parentId) :
      Effect w w' (.cancel deviceId parentId) (tables (cleared deviceId w.db))
  | rejected {dto : ConfirmPairingDto} {s : PairingSession} {d : Device}
      (hs : sessionOf w.db dto = some s) (hwait : s.status = .waiting)
      (hdead : s.expiresAt < w.now ∨ 5 ≤ s.attempts)
      (hd : w.db.devices.find s.deviceId = some d) :
      Effect w w' (.confirm dto) (tables (withStatus w.now s.deviceId (rejection w.now s) w.db))
  | paired {dto : ConfirmPairingDto} {s : PairingSession} {T : Tables}
      (hs : sessionOf w.db dto = some s) (hdone : Completed w w' dto s T) :
      Effect w w' (.confirm dto) T
  | beat {op : Op} {deviceId ip : String} {r : Except Err Unit} {T : Tables}
      (hbeat : Beat w w' deviceId ip r T) : Effect w w' op T

theorem Started.effect {w w' : World} {deviceId parentId : String}
    {r : Except Err StartPairingResponse} {T : Tables} (h : Started w w' deviceId parentId r T) :
    Effect w w' (.start deviceId parentId) T := by
  cases h with
  | refused e hwhy => exact .quiet
  | cut e hd hparent hno => exact .cut hd hno
  | opened hd hparent hid htoken hs hins hr => exact .opened hd hid htoken hs hins

theorem Cancelled.effect {w w' : World} {deviceId parentId : String} {r : Except Err Unit}
    {T : Tables} (h : Cancelled w deviceId parentId r T) :
    Effect w w' (.cancel deviceId parentId) T := by
  cases h with
  | refused e hwhy => exact .quiet
  | cleared hd hparent hr => exact .cancelled hd hparent

theorem Probed.effect {w w' : World} {dto : ConfirmPairingDto} {r : Except Err String} {T : Tables}
    (h : Probed w w' dto r T) : Effect w w' (.confirm dto) T := by
  cases h with
  | unknown e hs hb => exact .quiet
  | beat hs hb hbeat hr => exact .beat hbeat
  | refused e hs hc =>
    cases hc with
    | refused hs' _ hwhy => exact .quiet
    | rejected hs' hwait hdead hd message => exact .rejected hs' hwait hdead hd
  | paired hs hwait hlive hatt hdone => exact .paired hs hdone

/-- **What an operation does.** -/
theorem effect_exec (env : Env) (w : World) (op : Op) :
    Later w (exec env w op) ∧ Effect w (exec env w op) op (tables (exec env w op).db) := by
  cases op with
  | start deviceId parentId =>
    obtain ⟨r, w', hrun, hlater, h⟩ := run_startPairing env deviceId parentId w
    simp only [exec, hrun]
    exact ⟨hlater, h.effect⟩
  | cancel deviceId parentId =>
    obtain ⟨r, w', hrun, hlater, h⟩ := run_cancelPairing deviceId parentId w
    simp only [exec, hrun]
    exact ⟨hlater, h.effect⟩
  | confirm dto =>
    obtain ⟨r, w', hrun, hlater, h⟩ := run_confirmProbe dto w
    simp only [exec, hrun]
    exact ⟨hlater, h.effect⟩
  | heartbeat deviceId sourceIp =>
    obtain ⟨r, w', hrun, hlater, hbeat⟩ := run_recordHeartbeat deviceId sourceIp w
    simp only [exec, hrun]
    exact ⟨hlater, .beat hbeat⟩

/-! ### The supply of identifiers -/

section Uses
variable {w w' : World} {x : String}

theorem beacon_patch {devices : Table Device.id} {now : Time} {k : String} (f : Device → Device)
    (hf : ∀ d, (f d).id = d.id)
    (h : ∃ d ∈ (Model.device.patch devices now k f hf).rows, d.dnsBeaconToken = some x) :
    (∃ d ∈ devices.rows, d.dnsBeaconToken = some x) ∨
      ∃ d ∈ devices.rows, (f d).dnsBeaconToken = some x := by
  obtain ⟨d, hd, hx⟩ := h
  obtain ⟨d₀, hd₀, rfl⟩ := Model.mem_patch.mp hd
  split_ifs at hx
  · exact .inr ⟨d₀, hd₀, hx⟩
  · exact .inl ⟨d₀, hd₀, hx⟩

theorem Seen.uses {history history' : Table DeviceIpHistory.id} {deviceId ip id : String} {t : Time}
    (h : Seen history deviceId ip t id history') (hx : ∃ r ∈ history'.rows, r.id = x) :
    (∃ r ∈ history.rows, r.id = x) ∨ x = id := by
  obtain ⟨r, hr, rfl⟩ := hx
  cases h with
  | again h₀ hmem hdevice hip =>
    obtain ⟨r₀, hr₀, rfl⟩ := Table.mem_modify.mp hr
    refine .inl ⟨r₀, hr₀, ?_⟩
    split_ifs <;> rfl
  | first hnew hins =>
    rw [(Table.insert_eq_some hins).2] at hr
    rcases List.mem_append.mp hr with hr | hr
    · exact .inl ⟨r, hr, rfl⟩
    · rw [List.mem_singleton.mp hr]
      exact .inr rfl

theorem event_insert {events events' : Table DeviceConnectionEvent.id} {ev : DeviceConnectionEvent}
    (hins : events.insert ev = some events') (hx : ∃ e ∈ events'.rows, e.id = x) :
    (∃ e ∈ events.rows, e.id = x) ∨ x = ev.id := by
  obtain ⟨e, he, rfl⟩ := hx
  rw [(Table.insert_eq_some hins).2] at he
  rcases List.mem_append.mp he with he | he
  · exact .inl ⟨e, he, rfl⟩
  · rw [List.mem_singleton.mp he]
    exact .inr rfl

theorem uses_cleared {deviceId : String} {db : Database}
    (h : (tables (cleared deviceId db)).Uses x) : (tables db).Uses x := by
  rcases h with h | ⟨s, hs, hx⟩ | h
  · exact .inl h
  · exact .inr (.inl ⟨s, (Table.mem_erase.mp hs).1, hx⟩)
  · exact .inr (.inr h)

theorem uses_withStatus {deviceId : String} {now : Time} {status : PairStatus} {db : Database}
    (h : (tables (withStatus now deviceId status db)).Uses x) : (tables db).Uses x := by
  rcases h with h | h
  · exact .inl ((beacon_patch (marked status) (marked_id _) h).elim id id)
  · exact .inr h

theorem Beat.uses {deviceId ip : String} {r : Except Err Unit} {T : Tables}
    (h : Beat w w' deviceId ip r T) (hx : T.Uses x) : (tables w.db).Uses x ∨ Drawn w w' x := by
  cases h with
  | silent hwhy => exact .inl hx
  | failed e hno => exact .inl hx
  | again hd hpaired hip hid hseen =>
    rcases hx with hx | hx | hx | hx
    · exact .inl (.inl ((beacon_patch (touched w.now) (touched_id _) hx).elim id id))
    · exact .inl (.inr (.inl hx))
    · rcases Seen.uses hseen hx with hx | rfl
      · exact .inl (.inr (.inr (.inl hx)))
      · exact .inr hid
    · exact .inl (.inr (.inr (.inr hx)))
  | change hd hpaired hip hid hseen hid' hev hins =>
    rcases hx with hx | hx | hx | hx
    · exact .inl (.inl ((beacon_patch (moved ip w.now) (moved_id _ _) hx).elim id id))
    · exact .inl (.inr (.inl hx))
    · rcases Seen.uses hseen hx with hx | rfl
      · exact .inl (.inr (.inr (.inl hx)))
      · exact .inr hid
    · rcases event_insert hins hx with hx | rfl
      · exact .inl (.inr (.inr (.inr hx)))
      · rw [hev]
        exact .inr hid'

theorem Completed.uses {dto : ConfirmPairingDto} {s : PairingSession} {T : Tables}
    (h : Completed w w' dto s T) (hx : T.Uses x) : (tables w.db).Uses x ∨ Drawn w w' x := by
  obtain @⟨_, beacon, _, _, _, _, _, hd, hbeacon, hid, hseen, hid', hev, hins⟩ := h
  rcases hx with hx | ⟨r, hr, hx⟩ | hx | hx
  · rcases beacon_patch (paired dto.sourceIp dto.resolverRegion w.now beacon) (paired_id _ _ _ _) hx
      with hx | ⟨d, -, hx⟩
    · exact .inl (.inl hx)
    · obtain rfl := Option.some.inj hx
      exact .inr hbeacon
  · exact .inl (.inr (.inl ⟨r, (Table.mem_erase.mp hr).1, hx⟩))
  · rcases Seen.uses hseen hx with hx | rfl
    · exact .inl (.inr (.inr (.inl hx)))
    · exact .inr hid
  · rcases event_insert hins hx with hx | rfl
    · exact .inl (.inr (.inr (.inr hx)))
    · rw [hev]
      exact .inr hid'

/-- An operation puts only identifiers into the tables that it drew. -/
theorem Effect.uses {op : Op} {T : Tables} (h : Effect w w' op T) (hx : T.Uses x) :
    (tables w.db).Uses x ∨ Drawn w w' x := by
  cases h with
  | quiet => exact .inl hx
  | cut hd hno => exact .inl (uses_cleared hx)
  | opened hd hid htoken hs hins =>
    rcases hx with hx | ⟨r, hr, hx⟩ | hx
    · exact .inl (uses_withStatus (.inl hx))
    · rw [(Table.insert_eq_some hins).2] at hr
      rcases List.mem_append.mp hr with hr | hr
      · exact .inl (.inr (.inl ⟨r, (Table.mem_erase.mp hr).1, hx⟩))
      · obtain rfl := List.mem_singleton.mp hr
        subst hs
        rcases hx with rfl | rfl
        · exact .inr hid
        · exact .inr htoken
    · exact .inl (.inr (.inr hx))
  | cancelled hd hparent => exact .inl (uses_cleared hx)
  | rejected hs hwait hdead hd => exact .inl (uses_withStatus hx)
  | paired hs hdone => exact Completed.uses hdone hx
  | beat hbeat => exact Beat.uses hbeat hx

end Uses

theorem supply_exec {env : Env} {w : World} (h : Supply w) (op : Op) : Supply (exec env w op) :=
  let ⟨hlater, heffect⟩ := effect_exec env w op
  h.later hlater fun _ hx => heffect.uses hx

/-! ### Runs -/

/-- The worlds reached from `w₀` by runs whose steps meet `C`; the clock does not go back. -/
inductive Reaches (env : Env) (C : World → Op → Prop) (w₀ : World) : World → Prop
  | refl : Reaches env C w₀ w₀
  | step {w : World} (op : Op) {t : Time} (ht : w.now ≤ t) (hop : C (w.atTime t) op)
      (h : Reaches env C w₀ w) : Reaches env C w₀ (exec env (w.atTime t) op)

/-- No condition on the steps. -/
def Any : World → Op → Prop := fun _ _ => True

/-! ### Households -/

/-- A household without beacons has a supply of identifiers. -/
theorem supply_household (ds : List Device) (hds : (ds.map Device.id).Nodup) (t : Time)
    (hbeacon : ∀ d ∈ ds, d.dnsBeaconToken = none) :
    Supply (.fresh (Household.withDevices ds hds) t) := by
  refine ⟨fun m n h => (fresh_uuids_injective h).1, fun n _ => ?_, fun n _ => ?_⟩
  · rintro (⟨d, hd, hx⟩ | ⟨s, hs, -⟩ | ⟨r, hr, -⟩ | ⟨ev, hev, -⟩)
    · cases (hbeacon d hd).symm.trans hx
    · cases hs
    · cases hr
    · cases hev
  · rintro a ⟨⟩

/-- A tablet that has not been paired yet. -/
def newTablet : World :=
  .fresh (Household.withDevices [Household.device "tablet" "amal" "adam"]
    (Household.nodup_device "tablet" "amal" "adam")) 0

end GuardTime.Pairing.Run
