import Mathlib.Tactic
import GuardTime.Footprint
import GuardTime.Services.Pairing

/-! # What the pairing operations write

Each repository call as a function of the database, and each operation of `PairingService` by the
cases it can end in. -/

namespace GuardTime.Pairing.Effects

open GuardTime.Lib.Program GuardTime.Lib.Keyed GuardTime.Lib.Js GuardTime.Schema GuardTime.Server
open GuardTime.Prisma GuardTime.Services GuardTime.Services.Pairing

/-! ### Tables -/

/-- The tables of the pairing feature. -/
structure Tables where
  devices : Table Device.id
  sessions : Table PairingSession.id
  history : Table DeviceIpHistory.id
  events : Table DeviceConnectionEvent.id

/-- The tables of a database. -/
def tables (db : Database) : Tables :=
  ⟨db.devices, db.pairingSessions, db.deviceIpHistory, db.deviceConnectionEvents⟩

/-- The identifier stands in one of the tables: as a key, a pairing token or a beacon token. -/
def Tables.Uses (T : Tables) (x : String) : Prop :=
  (∃ d ∈ T.devices.rows, d.dnsBeaconToken = some x) ∨
  (∃ s ∈ T.sessions.rows, s.id = x ∨ s.token = x) ∨
  (∃ h ∈ T.history.rows, h.id = x) ∨ ∃ ev ∈ T.events.rows, ev.id = x

/-! ### Identifiers -/

/-- The identifiers drawn between two worlds. -/
def Drawn (w w' : World) (s : String) : Prop := ∃ n, w.calls ≤ n ∧ n < w'.calls ∧ s = w.uuids n 0

/-- What stays while a request runs: the clock, the supply of identifiers and the users; the audit
log grows. -/
structure Later (w w' : World) : Prop where
  now : w'.now = w.now
  uuids : w'.uuids = w.uuids
  calls : w.calls ≤ w'.calls
  users : w'.db.users = w.db.users
  audits : ∀ a ∈ w'.db.auditLogs.rows, a ∈ w.db.auditLogs.rows ∨ Drawn w w' a.id

/-- The identifiers to come are new and differ from each other. -/
structure Supply (w : World) : Prop where
  distinct : ∀ m n, w.uuids m 0 = w.uuids n 0 → m = n
  tables : ∀ n, w.calls ≤ n → ¬ (tables w.db).Uses (w.uuids n 0)
  audits : ∀ n, w.calls ≤ n → ∀ a ∈ w.db.auditLogs.rows, a.id ≠ w.uuids n 0

section Identifiers
variable {w w' w'' : World} {x : String}

theorem Drawn.mono (h : Drawn w w' x) (hcalls : w'.calls ≤ w''.calls) : Drawn w w'' x := by
  obtain ⟨n, hn, hn', rfl⟩ := h
  exact ⟨n, hn, by omega, rfl⟩

theorem Drawn.of_later (hlater : Later w w') (h : Drawn w' w'' x) : Drawn w w'' x := by
  obtain ⟨n, hn, hn', rfl⟩ := h
  exact ⟨n, hlater.calls.trans hn, hn', by rw [hlater.uuids]⟩

theorem Later.trans (h : Later w w') (h' : Later w' w'') : Later w w'' := by
  refine ⟨h'.now.trans h.now, h'.uuids.trans h.uuids, h.calls.trans h'.calls,
    h'.users.trans h.users, fun a ha => ?_⟩
  rcases h'.audits a ha with ha | ha
  · exact (h.audits a ha).imp_right fun h'' => h''.mono h'.calls
  · exact .inr (ha.of_later h)

theorem Later.afterCall (w : World) (db : Database) (husers : db.users = w.db.users := by rfl)
    (haudits : db.auditLogs = w.db.auditLogs := by rfl) : Later w (World.afterCall w db) :=
  ⟨rfl, rfl, Nat.le_succ _, husers, fun _ ha => .inl (haudits ▸ ha)⟩

theorem Later.randomUUID (w : World) : Later w { w with calls := w.calls + 1 } :=
  ⟨rfl, rfl, Nat.le_succ _, rfl, fun _ ha => .inl ha⟩

/-- After an entry of the audit log. -/
theorem Later.audited {entry : AuditLog} {logs : Table AuditLog.id}
    (hid : entry.id = w.uuids w.calls 0) (hins : w.db.auditLogs.insert entry = some logs) :
    Later w (World.afterCall w (audited w.db logs)) := by
  refine ⟨rfl, rfl, Nat.le_succ _, rfl, fun a ha => ?_⟩
  have hrows := (Table.insert_eq_some hins).2
  rw [show (World.afterCall w (Prisma.audited w.db logs)).db.auditLogs = logs from rfl, hrows] at ha
  rcases List.mem_append.mp ha with ha | ha
  · exact .inl ha
  · rw [List.mem_singleton.mp ha]
    exact .inr ⟨w.calls, le_rfl, Nat.lt_succ_self _, hid⟩

/-- A world that differs from a later one in its database only. -/
theorem Later.congr {w₁ : World} (h : Later w w') (hsame : { w₁ with db := w'.db } = w')
    (husers : w₁.db.users = w.db.users) (haudits : w₁.db.auditLogs = w'.db.auditLogs) :
    Later w w₁ := by
  have hnow : w₁.now = w'.now := by rw [← hsame]
  have huuids : w₁.uuids = w'.uuids := by rw [← hsame]
  have hcalls : w₁.calls = w'.calls := by rw [← hsame]
  refine ⟨hnow.trans h.now, huuids.trans h.uuids, hcalls ▸ h.calls, husers, fun a ha => ?_⟩
  rcases h.audits a (haudits ▸ ha) with h | h
  · exact .inl h
  · exact .inr (h.mono hcalls.ge)

/-- Inside a transaction the worlds go on as outside. -/
theorem later_base {t t' : TxWorld} {db : Database} (h : t'.inside = World.afterCall t.inside db)
    (hbase : t'.base.db = t.base.db) : Later t.base t'.base := by
  have hnow : t'.inside.now = t.base.now := by rw [h]; rfl
  have huuids : t'.inside.uuids = t.base.uuids := by rw [h]; rfl
  have hcalls : t'.inside.calls = t.base.calls + 1 := by rw [h]; rfl
  refine ⟨hnow, huuids, ?_, by rw [hbase], fun a ha => .inl (hbase ▸ ha)⟩
  exact (Nat.le_succ _).trans hcalls.ge

section Fresh
variable {n : ℕ} (h : Supply w) (hn : w.calls ≤ n)
include h hn

theorem Supply.beacon (d : Device) (hd : d ∈ w.db.devices.rows) :
    d.dnsBeaconToken ≠ some (w.uuids n 0) := fun hx => h.tables n hn (.inl ⟨d, hd, hx⟩)

theorem Supply.session (s : PairingSession) (hs : s ∈ w.db.pairingSessions.rows) :
    s.id ≠ w.uuids n 0 ∧ s.token ≠ w.uuids n 0 :=
  ⟨fun hx => h.tables n hn (.inr (.inl ⟨s, hs, .inl hx⟩)),
    fun hx => h.tables n hn (.inr (.inl ⟨s, hs, .inr hx⟩))⟩

theorem Supply.history (r : DeviceIpHistory) (hr : r ∈ w.db.deviceIpHistory.rows) :
    r.id ≠ w.uuids n 0 := fun hx => h.tables n hn (.inr (.inr (.inl ⟨r, hr, hx⟩)))

theorem Supply.events (ev : DeviceConnectionEvent) (hev : ev ∈ w.db.deviceConnectionEvents.rows) :
    ev.id ≠ w.uuids n 0 := fun hx => h.tables n hn (.inr (.inr (.inr ⟨ev, hev, hx⟩)))

end Fresh

/-- A request that puts only drawn identifiers into the tables leaves the rest of the supply. -/
theorem Supply.later (h : Supply w) (hlater : Later w w')
    (huses : ∀ x, (Effects.tables w'.db).Uses x → (Effects.tables w.db).Uses x ∨ Drawn w w' x) :
    Supply w' := by
  have hnew : ∀ n, w'.calls ≤ n → ¬ Drawn w w' (w'.uuids n 0) := by
    rintro n hn ⟨m, -, hm, heq⟩
    rw [hlater.uuids] at heq
    have := h.distinct n m heq
    omega
  refine ⟨fun m n heq => ?_, fun n hn hx => ?_, fun n hn a ha heq => ?_⟩
  · rw [hlater.uuids] at heq
    exact h.distinct m n heq
  · rcases huses _ hx with hx | hx
    · rw [hlater.uuids] at hx
      exact h.tables n (hlater.calls.trans hn) hx
    · exact hnew n hn hx
  · rcases hlater.audits a ha with ha | ha
    · rw [hlater.uuids] at heq
      exact h.audits n (hlater.calls.trans hn) a ha heq
    · exact hnew n hn (heq ▸ ha)

end Identifiers

/-! ### Rows of the device table -/

section Rows
variable {devices : Table Device.id} {now : Time} {k deviceId : String} {d' : Device}
  (f : Device → Device) (hf : ∀ d, (f d).id = d.id)

/-- The rows after a change of one of them. -/
theorem mem_patched (h : d' ∈ (Model.device.patch devices now k f hf).rows) :
    ∃ d ∈ devices.rows, d.id = k ∧ d' = Model.device.touch now (f d) ∨ d.id ≠ k ∧ d' = d := by
  obtain ⟨d, hd, rfl⟩ := Model.mem_patch.mp h
  refine ⟨d, hd, ?_⟩
  split_ifs with hk
  · exact .inl ⟨hk, rfl⟩
  · exact .inr ⟨hk, rfl⟩

theorem find_patched (h : (Model.device.patch devices now k f hf).find deviceId = some d') :
    ∃ d, devices.find deviceId = some d ∧
      d' = if d.id = k then Model.device.touch now (f d) else d := by
  rw [Model.find_patch] at h
  obtain ⟨d, hd, rfl⟩ := Option.map_eq_some_iff.mp h
  exact ⟨d, hd, rfl⟩

/-- A change of the row of another device. -/
theorem find_patched_other (hne : k ≠ deviceId) :
    (Model.device.patch devices now k f hf).find deviceId = devices.find deviceId := by
  rw [Model.find_patch]
  rcases hd : devices.find deviceId with _ | d
  · rfl
  · have hid : ¬ d.id = k := fun hid => hne (hid.symm.trans (Table.key_of_find hd))
    simp [hid]

/-- A change of the device's own row. -/
theorem find_patched_self
    (h : (Model.device.patch devices now deviceId f hf).find deviceId = some d') :
    ∃ d, devices.find deviceId = some d ∧ d' = Model.device.touch now (f d) := by
  obtain ⟨d, hd, rfl⟩ := find_patched f hf h
  exact ⟨d, hd, if_pos (Table.key_of_find hd)⟩

theorem find_patched_ne_none (hd : devices.find deviceId ≠ none) :
    (Model.device.patch devices now k f hf).find deviceId ≠ none := by
  rw [Model.find_patch]
  simpa using hd

end Rows

/-! ### Repository calls -/

/-- The row after `setDevicePairStatus`. -/
def marked (status : PairStatus) (d : Device) : Device := { d with pairStatus := status }

theorem marked_id (status : PairStatus) (d : Device) : (marked status d).id = d.id := rfl

/-- The database after `setDevicePairStatus`. -/
def withStatus (now : Time) (deviceId : String) (status : PairStatus) (db : Database) : Database :=
  { db with
    devices := Model.device.patch db.devices now deviceId (marked status) (marked_id status) }

theorem run_setDevicePairStatus {w : World} {deviceId : String} {d : Device} {status : PairStatus}
    (hd : w.db.devices.find deviceId = some d) :
    ∃ d', (setDevicePairStatus deviceId status).run w =
      (.ok d', World.afterCall w (withStatus w.now deviceId status w.db)) :=
  ⟨_, run_update (m := Model.device) hd rfl rfl⟩

theorem run_markSessionStatus {w : World} {s : PairingSession} {id : String} {status : PairStatus}
    (hs : w.db.pairingSessions.find id = some s) :
    ∃ db', (markSessionStatus id status).run w = (.ok { s with status }, World.afterCall w db') :=
  ⟨_, run_update (m := Model.pairingSession) hs rfl rfl⟩

/-- The row after `incrementSessionAttempts`. -/
def charged (s : PairingSession) : PairingSession := { s with attempts := s.attempts + 1 }

theorem charged_id (s : PairingSession) : (charged s).id = s.id := rfl

/-- The database after `incrementSessionAttempts`. -/
def withAttempt (now : Time) (id : String) (db : Database) : Database :=
  { db with
    pairingSessions := Model.pairingSession.patch db.pairingSessions now id charged charged_id }

theorem find_withAttempt (now : Time) (id : String) (db : Database) :
    (withAttempt now id db).pairingSessions.find id =
      (db.pairingSessions.find id).map charged := by
  rw [withAttempt, Model.find_patch_self]
  rfl

theorem run_incrementSessionAttempts {w : World} {s : PairingSession} {id : String}
    (hs : w.db.pairingSessions.find id = some s) : (incrementSessionAttempts id).run w =
      (.ok (charged s), World.afterCall w (withAttempt w.now id w.db)) :=
  run_update (m := Model.pairingSession) hs rfl rfl

/-- The history after `upsertIpHistory`: the row of the address is seen again, or it is new and gets
`id`. -/
inductive Seen (history : Table DeviceIpHistory.id) (deviceId ip : String) (t : Time)
    (id : String) : Table DeviceIpHistory.id → Prop
  | again (h : DeviceIpHistory) (hmem : h ∈ history.rows) (hdevice : h.deviceId = deviceId)
      (hip : h.ipAddress = ip) : Seen history deviceId ip t id
        (history.modify (fun r => r.id = h.id) (fun r => { r with lastSeenAt := t }) fun _ => rfl)
  | first (hnew : ∀ h ∈ history.rows, ¬ (h.deviceId = deviceId ∧ h.ipAddress = ip))
      {history' : Table DeviceIpHistory.id}
      (hins : history.insert ⟨id, deviceId, ip, t, t⟩ = some history') :
      Seen history deviceId ip t id history'

theorem run_upsertIpHistory (deviceId ip : String) (t : Time) (w : World) :
    (∃ e, (upsertIpHistory deviceId ip t).run w = (.error e, World.afterCall w w.db)) ∨
    ∃ r history', (upsertIpHistory deviceId ip t).run w =
        (.ok r, World.afterCall w { w.db with deviceIpHistory := history' }) ∧
      Seen w.db.deviceIpHistory deviceId ip t (w.uuids w.calls 0) history' := by
  rcases run_upsert_cases .deviceIpHistory
      (fun h => h.deviceId = deviceId && h.ipAddress = ip) (fun h => { h with lastSeenAt := t })
      (fun id _ => { id, deviceId, ipAddress := ip, firstSeenAt := t, lastSeenAt := t })
      (fun _ => rfl) w with h | ⟨r, hfind, h⟩ | ⟨history', hfind, hins, h⟩
  · exact .inl h
  · have hr : r.deviceId = deviceId ∧ r.ipAddress = ip := by simpa using List.find?_some hfind
    exact .inr ⟨_, _, h, .again r (List.mem_of_find?_eq_some hfind) hr.1 hr.2⟩
  · refine .inr ⟨_, _, h, .first (fun h hh => ?_) hins⟩
    simpa using List.find?_eq_none.mp hfind h hh

theorem upsertIpHistory_error {deviceId ip : String} {t : Time} {w w' : World} {e : Err}
    (h : (upsertIpHistory deviceId ip t).run w = (.error e, w')) :
    (∃ r ∈ w.db.deviceIpHistory.rows, r.id = w.uuids w.calls 0) ∨
      w.db.devices.find deviceId = none := by
  rcases run_upsert_error h with ⟨r, hfind, hrefuses⟩ | ⟨hfind, hu | ⟨l, hl, hholds⟩ | hkey⟩
  · -- an update of `lastSeenAt` touches no constraint
    rcases hrefuses r (Table.find_key (List.mem_of_find?_eq_some hfind)) with
      ⟨u, hu, hnot, -⟩ | ⟨l, hl, hnot, -⟩
    · exact absurd hu hnot
    · exact absurd hl hnot
  · obtain ⟨u, hu, r, hr, hur⟩ := hu
    obtain rfl := List.mem_singleton.mp hu
    have hrow : r.deviceId = deviceId ∧ r.ipAddress = ip := by
      simpa [Model.deviceIpHistory, eq_comm] using hur
    have hnone := List.find?_eq_none.mp hfind r hr
    simp [hrow] at hnone
  · obtain rfl := List.mem_singleton.mp hl
    exact .inr (by simpa [Link.holds] using hholds)
  · exact .inl hkey

theorem run_recordConnectionEvent (deviceId : String) (type : ConnectionEventType)
    (ip : Option String) (metadata : List (String × Option String)) (w : World) :
    (∃ e, (recordConnectionEvent deviceId type ip metadata).run w =
      (.error e, World.afterCall w w.db)) ∨
    ∃ ev events', ev = ⟨w.uuids w.calls 0, deviceId, type, ip, metadata, w.now⟩ ∧
      w.db.deviceConnectionEvents.insert ev = some events' ∧
      (recordConnectionEvent deviceId type ip metadata).run w =
        (.ok ev, World.afterCall w { w.db with deviceConnectionEvents := events' }) := by
  rcases run_create_cases .deviceConnectionEvent (fun id now =>
      { id, deviceId, type, ipAddress := ip, metadata, createdAt := now }) w with h | ⟨t, hins, h⟩
  · exact .inl h
  · exact .inr ⟨_, t, rfl, hins, h⟩

theorem recordConnectionEvent_error {deviceId : String} {type : ConnectionEventType}
    {ip : Option String} {metadata : List (String × Option String)} {w w' : World} {e : Err}
    (h : (recordConnectionEvent deviceId type ip metadata).run w = (.error e, w')) :
    (∃ ev ∈ w.db.deviceConnectionEvents.rows, ev.id = w.uuids w.calls 0) ∨
      w.db.devices.find deviceId = none := by
  rcases run_create_error h with ⟨u, hu, -⟩ | ⟨l, hl, hholds⟩ | hkey
  · cases hu
  · obtain rfl := List.mem_singleton.mp hl
    exact .inr (by simpa [Link.holds] using hholds)
  · exact .inl hkey

/-! ### Heartbeat -/

/-- The row after `touchLastSeen`. -/
def touched (now : Time) (d : Device) : Device := { d with lastDnsSeenAt := some now }

/-- The row after `applyIpChange`. -/
def moved (ip : String) (now : Time) (d : Device) : Device :=
  { d with dnsSourceIp := some ip, publicIp := some ip, lastDnsSeenAt := some now }

theorem touched_id (now : Time) (d : Device) : (touched now d).id = d.id := rfl

theorem moved_id (ip : String) (now : Time) (d : Device) : (moved ip now d).id = d.id := rfl

/-- What a heartbeat comes to: nothing for a device that is missing or not paired, a failure without
effect, the known address seen again, or a move to a new one. -/
inductive Beat (w w' : World) (deviceId ip : String) : Except Err Unit → Tables → Prop
  | silent (hwhy : ∀ d, w.db.devices.find deviceId = some d → d.paired = false) :
      Beat w w' deviceId ip (.ok ()) (tables w.db)
  | failed (e : Err) (hno : ¬ Supply w) : Beat w w' deviceId ip (.error e) (tables w.db)
  | again {d : Device} {id : String} {history' : Table DeviceIpHistory.id}
      (hd : w.db.devices.find deviceId = some d) (hpaired : d.paired = true)
      (hip : d.dnsSourceIp = some ip) (hid : Drawn w w' id)
      (hseen : Seen w.db.deviceIpHistory deviceId ip w.now id history') :
      Beat w w' deviceId ip (.ok ()) { tables w.db with
        devices := Model.device.patch w.db.devices w.now deviceId (touched w.now) (touched_id _)
        history := history' }
  | change {d : Device} {id id' : String} {ev : DeviceConnectionEvent}
      {history' : Table DeviceIpHistory.id} {events' : Table DeviceConnectionEvent.id}
      (hd : w.db.devices.find deviceId = some d) (hpaired : d.paired = true)
      (hip : d.dnsSourceIp ≠ some ip) (hid : Drawn w w' id)
      (hseen : Seen w.db.deviceIpHistory deviceId ip w.now id history') (hid' : Drawn w w' id')
      (hev : ev = ⟨id', deviceId, .ipChanged, some ip, [("previous", d.dnsSourceIp)], w.now⟩)
      (hins : w.db.deviceConnectionEvents.insert ev = some events') :
      Beat w w' deviceId ip (.ok ()) { tables w.db with
        devices := Model.device.patch w.db.devices w.now deviceId (moved ip w.now) (moved_id _ _)
        history := history'
        events := events' }

theorem run_applyIpChange {w : World} {d : Device} {deviceId ip : String} {t : Time}
    (hd : w.db.devices.find deviceId = some d) :
    ∃ d', (applyIpChange deviceId ip t).run w = (.ok d', World.afterCall w { w.db with
      devices := Model.device.patch w.db.devices w.now deviceId (moved ip t) (moved_id _ _) }) :=
  ⟨_, run_update (m := Model.device) hd rfl rfl⟩

theorem run_touchLastSeen {w : World} {d : Device} {deviceId : String} {t : Time}
    (hd : w.db.devices.find deviceId = some d) :
    ∃ d', (touchLastSeen deviceId t).run w = (.ok d', World.afterCall w { w.db with
      devices := Model.device.patch w.db.devices w.now deviceId (touched t) (touched_id _) }) :=
  ⟨_, run_update (m := Model.device) hd rfl rfl⟩

theorem apart_device : Apart Model.device :=
  ⟨fun _ _ => rfl, fun _ _ _ => rfl, fun _ _ _ => rfl⟩

theorem apart_pairingSession : Apart Model.pairingSession :=
  ⟨fun _ _ => rfl, fun _ _ _ => rfl, fun _ _ _ => rfl⟩

theorem apart_deviceIpHistory : Apart Model.deviceIpHistory :=
  ⟨fun _ _ => rfl, fun _ _ _ => rfl, fun _ _ _ => rfl⟩

theorem apart_deviceConnectionEvent : Apart Model.deviceConnectionEvent :=
  ⟨fun _ _ => rfl, fun _ _ _ => rfl, fun _ _ _ => rfl⟩

section Heartbeat
variable {w : World} {d : Device} {deviceId ip : String}

/-- A heartbeat from a world that has only gone on. -/
theorem Beat.of_later {w₁ w' : World} {r : Except Err Unit} {T : Tables} (hlater : Later w w₁)
    (hdb : w₁.db = w.db) (h : Beat w₁ w' deviceId ip r T) : Beat w w' deviceId ip r T := by
  cases h with
  | silent hwhy =>
    rw [hdb] at *
    exact .silent hwhy
  | failed e hno =>
    rw [hdb]
    refine .failed e fun hsupply => hno (hsupply.later hlater fun x hx => .inl ?_)
    rwa [hdb] at hx
  | again hd hpaired hip hid hseen =>
    rw [hlater.now, hdb] at *
    exact .again hd hpaired hip (hid.of_later hlater) hseen
  | change hd hpaired hip hid hseen hid' hev hins =>
    rw [hlater.now, hdb] at *
    exact .change hd hpaired hip (hid.of_later hlater) hseen (hid'.of_later hlater) hev hins

/-- With a supply of identifiers a heartbeat does not fail. -/
theorem Beat.ok {w' : World} {r : Except Err Unit} {T : Tables} (h : Beat w w' deviceId ip r T)
    (hsupply : Supply w) : r = .ok () := by
  cases h with
  | failed e hno => exact absurd hsupply hno
  | _ => rfl

/-- The calls of a move to another address, made directly. -/
def changeCalls (deviceId ip : String) (t : Time) (previous : Option String) : Api Unit := do
  let _ ← applyIpChange deviceId ip t
  let _ ← upsertIpHistory deviceId ip t
  let _ ← recordConnectionEvent deviceId .ipChanged (some ip) [("previous", previous)]
  pure ()

theorem mirrors_change (deviceId ip : String) (t : Time) (previous : Option String) :
    Mirrors (changeCalls deviceId ip t previous) (do
      let _ ← viaTx (applyIpChange deviceId ip t)
      let _ ← viaTx (upsertIpHistory deviceId ip t)
      let _ ← viaTx (recordConnectionEvent deviceId .ipChanged (some ip) [("previous", previous)])
      pure ()) :=
  .bind (.viaTx (apart_device.update _ _ _)) fun _ =>
    .bind (.viaTx (apart_deviceIpHistory.upsert _ _ _ _)) fun _ =>
      .bind (.viaTx (apart_deviceConnectionEvent.create _)) fun _ => .pure ()

theorem run_changeCalls (hd : w.db.devices.find deviceId = some d) (hpaired : d.paired = true)
    (hip : d.dnsSourceIp ≠ some ip) :
    ∃ r w', (changeCalls deviceId ip w.now d.dnsSourceIp).run w = (r, w') ∧ Later w w' ∧
      ((∃ e, r = .error e ∧ ¬ Supply w) ∨
        r = .ok () ∧ Beat w w' deviceId ip r (tables w'.db)) := by
  obtain ⟨d', h₁⟩ := @run_applyIpChange w d deviceId ip w.now hd
  set w₁ := World.afterCall w { w.db with
    devices := Model.device.patch w.db.devices w.now deviceId (moved ip w.now) (moved_id _ _) }
  have hlater₁ : Later w w₁ := .afterCall w _
  have hexists : w₁.db.devices.find deviceId ≠ none := by
    rw [show w₁.db.devices.find deviceId = _ from Model.find_patch_some hd (moved_id _ _)]
    simp
  rw [changeCalls, Prog.run_bind, h₁]
  simp only [Prog.run_bind]
  rcases run_upsertIpHistory deviceId ip w.now w₁ with ⟨e, h₂⟩ | ⟨r, history', h₂, hseen⟩ <;>
    rw [h₂]
  · refine ⟨_, _, rfl, hlater₁.trans (.afterCall _ _), .inl ⟨e, rfl, fun hsupply => ?_⟩⟩
    obtain ⟨r, hr, hid⟩ := (upsertIpHistory_error h₂).resolve_right hexists
    exact hsupply.history hlater₁.calls r hr hid
  set w₂ := World.afterCall w₁ { w₁.db with deviceIpHistory := history' }
  have hlater₂ : Later w w₂ := hlater₁.trans (.afterCall _ _)
  rcases run_recordConnectionEvent deviceId .ipChanged (some ip) [("previous", d.dnsSourceIp)] w₂
    with ⟨e, h₃⟩ | ⟨ev, events', hev, hins, h₃⟩ <;> simp only [h₃]
  · refine ⟨_, _, rfl, hlater₂.trans (.afterCall _ _), .inl ⟨e, rfl, fun hsupply => ?_⟩⟩
    obtain ⟨ev, hev, hid⟩ := (recordConnectionEvent_error h₃).resolve_right hexists
    exact hsupply.events hlater₂.calls ev hev hid
  · refine ⟨_, _, rfl, hlater₂.trans (.afterCall _ _), .inr ⟨rfl, ?_⟩⟩
    refine .change hd hpaired hip ⟨w.calls + 1, ?_, ?_, rfl⟩ hseen ⟨w.calls + 2, ?_, ?_,
      rfl⟩ hev hins
    · omega
    · change w.calls + 1 < w.calls + 1 + 1 + 1
      omega
    · omega
    · exact Nat.lt_succ_self _

/-- What a heartbeat comes to. -/
theorem run_recordHeartbeat (deviceId ip : String) (w : World) :
    ∃ r w', (recordHeartbeat deviceId ip).run w = (r, w') ∧ Later w w' ∧
      Beat w w' deviceId ip r (tables w'.db) := by
  rw [recordHeartbeat, Prog.run_bind, run_findUnique]
  set w₁ := World.afterCall w w.db
  have hlater₁ : Later w w₁ := .afterCall w _
  have hsupply₁ : Supply w → Supply w₁ := fun h => h.later hlater₁ fun _ => .inl
  rcases hd : (Model.device.get w.db).find deviceId with _ | d
  · refine ⟨_, _, rfl, hlater₁, .silent fun d hd' => ?_⟩
    cases hd.symm.trans hd'
  by_cases hpaired : d.paired = true
  swap
  · simp only [Option.filter, hpaired]
    refine ⟨_, _, rfl, hlater₁, .silent fun d' hd' => ?_⟩
    cases hd.symm.trans hd'
    simpa using hpaired
  simp only [Option.filter, hpaired, if_true, Prog.run_bind, run_newDate]
  split_ifs with hip
  · simp only [Prog.run_bind]
    rcases run_upsertIpHistory deviceId ip w₁.now w₁ with ⟨e, h₂⟩ | ⟨r, history', h₂, hseen⟩ <;>
      rw [h₂]
    · refine ⟨_, _, rfl, hlater₁.trans (.afterCall _ _), .failed e fun hsupply => ?_⟩
      obtain ⟨r, hr, hid⟩ := (upsertIpHistory_error h₂).resolve_right (hd ▸ by simp)
      exact absurd hid (hsupply.history hlater₁.calls r hr)
    · set w₂ := World.afterCall w₁ { w₁.db with deviceIpHistory := history' }
      obtain ⟨d', h₃⟩ := @run_touchLastSeen w₂ d deviceId w₁.now hd
      simp only [h₃]
      refine ⟨_, _, rfl, (hlater₁.trans (.afterCall _ _)).trans (.afterCall _ _),
        .again hd hpaired hip ⟨w.calls + 1, Nat.le_succ _, ?_, rfl⟩ hseen⟩
      change w.calls + 1 < w.calls + 1 + 1 + 1
      omega
  · obtain ⟨r, w', hcalls, hlater, hres⟩ := @run_changeCalls w₁ d deviceId ip hd hpaired hip
    obtain ⟨r', w'', hrun, htx⟩ := run_transaction_of_mirrors
      (mirrors_change deviceId ip w₁.now d.dnsSourceIp) w₁
    rw [hcalls] at hrun
    cases hrun
    rcases htx with ⟨a, rfl, htx⟩ | ⟨e, w₃, rfl, htx, hsame, hdb⟩
    · rcases hres with ⟨e, he, -⟩ | ⟨-, hbeat⟩
      · cases he
      · exact ⟨_, w', htx, hlater₁.trans hlater, hbeat.of_later hlater₁ rfl⟩
    · rcases hres with ⟨-, -, hno⟩ | ⟨he, -⟩
      swap
      · cases he
      have hlater₃ : Later w₁ w₃ := hlater.congr hsame (by rw [hdb]; rfl) (by rw [hdb]; rfl)
      refine ⟨_, w₃, htx, hlater₁.trans hlater₃, ?_⟩
      have htables : tables w₃.db = tables w.db := by rw [hdb]; rfl
      rw [htables]
      exact .failed e fun h => hno (hsupply₁ h)

end Heartbeat

/-! ### Confirmation -/

/-- The session with the token of the probe. -/
def sessionOf (db : Database) (dto : ConfirmPairingDto) : Option PairingSession :=
  db.pairingSessions.rows.find? fun s => s.token = dto.token

theorem find_sessionOf {db : Database} {dto : ConfirmPairingDto} {s : PairingSession}
    (h : sessionOf db dto = some s) :
    db.pairingSessions.find s.id = some s ∧ s.token = dto.token :=
  ⟨Table.find_key (List.mem_of_find?_eq_some h), by simpa using List.find?_some h⟩

section Confirm
variable {w : World} {dto : ConfirmPairingDto} {session s : PairingSession} {d : Device}
  {status : PairStatus} {message : String}

/-- The transaction after it has looked for the session. -/
theorem run_findSession (dto : ConfirmPairingDto) (w : World) :
    ∃ t, (viaTx (findUniqueBy .pairingSession fun s => s.token = dto.token)).run ⟨w, []⟩ =
      (.ok (sessionOf w.db dto), t) ∧ t.inside = World.afterCall w w.db ∧ t.base.db = w.db ∧
      TxApart t :=
  run_viaTx_apart (apart_pairingSession.findUniqueBy _) (t := ⟨w, []⟩) (by simp [TxApart])
    (run_query _ _)

/-- A rejection marks the device for good and the session only inside the transaction. -/
theorem run_rejectSession {t : TxWorld} (hs : t.view.pairingSessions.find session.id = some s)
    (hd : t.base.db.devices.find session.deviceId = some d) :
    ∃ t', (rejectSession session status message).run t = (.error (.badRequest message), t') ∧
      Later t.base t'.base ∧
      t'.base.db = withStatus t.base.now session.deviceId status t.base.db := by
  obtain ⟨db', hmark⟩ := @run_markSessionStatus t.inside s _ status hs
  obtain ⟨t₁, ht₁, hin, hbase⟩ := run_viaTx hmark
  have hlater := later_base hin hbase
  obtain ⟨d', hset⟩ := @run_setDevicePairStatus t₁.base _ d status (hbase ▸ hd)
  rw [hbase, hlater.now] at hset
  let db₁ := withStatus t.base.now session.deviceId status t.base.db
  refine ⟨⟨World.afterCall t₁.base db₁, t₁.log⟩, ?_,
    hlater.trans (.afterCall _ _ (hbase ▸ rfl) (hbase ▸ rfl)), rfl⟩
  unfold rejectSession
  rw [Prog.run_bind, ht₁]
  simp only [Prog.run_bind, run_viaPlain, hset]
  rfl

/-- Without the device the rejection itself fails. -/
theorem run_rejectSession_missing {t : TxWorld}
    (hs : t.view.pairingSessions.find session.id = some s)
    (hd : t.base.db.devices.find session.deviceId = none) :
    ∃ e t', (rejectSession session status message).run t = (.error e, t') ∧
      Later t.base t'.base ∧ t'.base.db = t.base.db := by
  obtain ⟨db', hmark⟩ := @run_markSessionStatus t.inside s _ status hs
  obtain ⟨t₁, ht₁, hin, hbase⟩ := run_viaTx hmark
  have hlater := later_base hin hbase
  rcases run_update_cases .device session.deviceId (fun d => { d with pairStatus := status })
    (fun _ => rfl) t₁.base with ⟨e, hset⟩ | ⟨d, hfind, -⟩
  · refine ⟨e, ⟨World.afterCall t₁.base t₁.base.db, t₁.log⟩, ?_, hlater.trans (.afterCall _ _),
      hbase⟩
    unfold rejectSession setDevicePairStatus
    rw [Prog.run_bind, ht₁]
    simp only [Prog.run_bind, run_viaPlain, hset]
  · rw [hbase] at hfind
    cases hd.symm.trans hfind

theorem confirmWaiting_expired {t : TxWorld} (hexp : s.expiresAt < t.base.now) :
    (confirmWaiting dto s).run t =
      (rejectSession s .expired "Pairing token expired — start pairing again").run t := by
  rw [confirmWaiting, Prog.run_bind, run_viaPlain]
  simp only [run_newDate, if_pos hexp]

/-- A session that has not expired is charged with an attempt. -/
theorem confirmWaiting_charged (dto : ConfirmPairingDto) {t : TxWorld} (ht : TxApart t)
    (hlive : t.base.now ≤ s.expiresAt) (hs : t.view.pairingSessions.find s.id = some s) :
    ∃ t', t'.inside = World.afterCall t.inside (withAttempt t.base.now s.id t.view) ∧
      t'.base.db = t.base.db ∧ TxApart t' ∧ (confirmWaiting dto s).run t =
        (if s.attempts + 1 > 5 then
          rejectSession s .failed "Too many pairing attempts — start pairing again"
        else do
          let deviceId ← completePairing dto s
          pure (some deviceId)).run t' := by
  obtain ⟨t', ht', hin, hbase, hapart⟩ := run_viaTx_apart (apart_pairingSession.update _ _ _) ht
    (run_incrementSessionAttempts (w := t.inside) hs)
  refine ⟨t', hin, hbase, hapart, ?_⟩
  rw [confirmWaiting, Prog.run_bind, run_viaPlain]
  simp only [run_newDate, if_neg (not_lt.mpr hlive), Prog.run_bind]
  rw [show (viaTx (incrementSessionAttempts s.id)).run t = _ from ht']
  rfl

/-- A waiting session's confirmation, from the state in which it was found. -/
theorem run_confirmSession (hs : sessionOf w.db dto = some s) (hwait : s.status = .waiting) :
    ∃ t, t.inside = World.afterCall w w.db ∧ t.base.db = w.db ∧ TxApart t ∧
      (confirmSession dto).run ⟨w, []⟩ = (confirmWaiting dto s).run t := by
  obtain ⟨t, ht, hin, hbase, hapart⟩ := run_findSession dto w
  refine ⟨t, hin, hbase, hapart, ?_⟩
  rw [confirmSession, Prog.run_bind, ht, hs]
  simp [hwait]

/-! ### The success path -/

/-- The row after `markDevicePaired`. -/
def paired (ip : String) (region : Option String) (t : Time) (beacon : String) (d : Device) :
    Device :=
  { d with
    paired := true
    pairStatus := .paired
    pairedAt := some t
    dnsSourceIp := some ip
    publicIp := some ip
    dnsConfigured := true
    lastDnsSeenAt := some t
    resolverRegion := region
    dnsBeaconToken := some beacon }

theorem paired_id (ip : String) (region : Option String) (t : Time) (beacon : String) (d : Device) :
    (paired ip region t beacon d).id = d.id := rfl

/-- The tables after a successful confirmation of the session. -/
inductive Completed (w w' : World) (dto : ConfirmPairingDto) (s : PairingSession) : Tables → Prop
  | intro {d : Device} {beacon id id' : String} {history' : Table DeviceIpHistory.id}
      {ev : DeviceConnectionEvent} {events' : Table DeviceConnectionEvent.id}
      (hd : w.db.devices.find s.deviceId = some d) (hbeacon : Drawn w w' beacon)
      (hid : Drawn w w' id)
      (hseen : Seen w.db.deviceIpHistory s.deviceId dto.sourceIp w.now id history')
      (hid' : Drawn w w' id')
      (hev : ev = ⟨id', s.deviceId, .paired, some dto.sourceIp, [("via", some "probe")], w.now⟩)
      (hins : w.db.deviceConnectionEvents.insert ev = some events') :
      Completed w w' dto s
        { devices := Model.device.patch w.db.devices w.now s.deviceId
            (paired dto.sourceIp dto.resolverRegion w.now beacon) (paired_id _ _ _ _)
          sessions := w.db.pairingSessions.erase fun r => r.id = s.id
          history := history'
          events := events' }

/-- The calls of `completePairing`, made directly. -/
def completeCalls (dto : ConfirmPairingDto) (session : PairingSession) : Api String := do
  let pairedAt ← newDate
  let beaconToken ← randomUUID
  let _ ← markDevicePaired session.deviceId dto.sourceIp dto.resolverRegion pairedAt beaconToken
  let _ ← upsertIpHistory session.deviceId dto.sourceIp pairedAt
  let _ ← recordConnectionEvent session.deviceId .paired (some dto.sourceIp) [("via", some "probe")]
  Prisma.delete .pairingSession session.id
  Audit.log { action := "pairing.confirmed", entity := "device", entityId := some session.deviceId,
              ipAddress := some dto.sourceIp }
  pure session.deviceId

theorem mirrors_complete (dto : ConfirmPairingDto) (s : PairingSession) :
    Mirrors (completeCalls dto s) (completePairing dto s) :=
  .bind (.viaPlain (fun _ _ => rfl) fun _ => rfl) fun _ =>
    .bind (.viaPlain (fun _ _ => rfl) fun _ => rfl) fun _ =>
      .bind (.viaTx (apart_device.update _ _ _)) fun _ =>
        .bind (.viaTx (apart_deviceIpHistory.upsert _ _ _ _)) fun _ =>
          .bind (.viaTx (apart_deviceConnectionEvent.create _)) fun _ =>
            .bind (.viaTx (apart_pairingSession.delete _)) fun _ =>
              .bind (Audit.mirrors_log rfl) fun _ => .pure _

theorem run_markDevicePaired (deviceId ip : String) (region : Option String) (t : Time)
    (beacon : String) (w : World) :
    (∃ e, (markDevicePaired deviceId ip region t beacon).run w =
      (.error e, World.afterCall w w.db)) ∨
    ∃ d d', w.db.devices.find deviceId = some d ∧
      (markDevicePaired deviceId ip region t beacon).run w = (.ok d', World.afterCall w { w.db with
        devices := Model.device.patch w.db.devices w.now deviceId (paired ip region t beacon)
          (paired_id _ _ _ _) }) := by
  rcases run_update_cases .device deviceId (paired ip region t beacon) (paired_id _ _ _ _) w with
    h | ⟨d, hd, h⟩
  · exact .inl h
  · exact .inr ⟨d, _, hd, h⟩

/-- The beacon of a pairing is refused only if another device has it. -/
theorem markDevicePaired_error {deviceId ip : String} {region : Option String} {t : Time}
    {beacon : String} {w w' : World} {e : Err}
    (h : (markDevicePaired deviceId ip region t beacon).run w = (.error e, w')) :
    (∃ d ∈ w.db.devices.rows, d.dnsBeaconToken = some beacon) ∨
      w.db.devices.find deviceId = none := by
  rcases hd : w.db.devices.find deviceId with _ | d
  · exact .inr rfl
  rcases run_update_error h d hd with ⟨u, hu, -, d', hd', -, hu'⟩ | ⟨l, hl, hnot, -⟩
  · refine .inl ⟨d', hd', ?_⟩
    obtain rfl := List.mem_singleton.mp hu
    simpa [Model.device] using hu'
  · exact absurd hl hnot

theorem run_deleteSession (id : String) (w : World) :
    (∃ e, (Prisma.delete .pairingSession id).run w = (.error e, World.afterCall w w.db) ∧
      w.db.pairingSessions.find id = none) ∨
    (Prisma.delete .pairingSession id).run w = (.ok (), World.afterCall w { w.db with
      pairingSessions := w.db.pairingSessions.erase fun r => r.id = id }) := by
  rw [Prisma.delete, run_dbCall]
  rcases hs : (Model.pairingSession.get w.db).find id with _ | s
  · exact .inl ⟨_, rfl, hs⟩
  · exact .inr rfl

theorem run_completeCalls (dto : ConfirmPairingDto) (s : PairingSession) (w : World) :
    ∃ r w', (completeCalls dto s).run w = (r, w') ∧ Later w w' ∧
      ((∃ e, r = .error e ∧ (Supply w →
          w.db.devices.find s.deviceId = none ∨ w.db.pairingSessions.find s.id = none)) ∨
        r = .ok s.deviceId ∧ Completed w w' dto s (tables w'.db)) := by
  rw [completeCalls, Prog.run_bind, run_newDate]
  simp only [Prog.run_bind, run_randomUUID]
  set w₁ : World := { w with calls := w.calls + 1 }
  have hlater₁ : Later w w₁ := .randomUUID w
  rcases run_markDevicePaired s.deviceId dto.sourceIp dto.resolverRegion w.now (w.uuids w.calls 0)
    w₁ with ⟨e, h₂⟩ | ⟨d, d', hd, h₂⟩ <;> rw [h₂]
  · refine ⟨_, _, rfl, hlater₁.trans (.afterCall _ _), .inl ⟨e, rfl, fun hsupply => ?_⟩⟩
    rcases markDevicePaired_error h₂ with ⟨d, hd, hx⟩ | hnone
    · exact absurd hx (hsupply.beacon le_rfl d hd)
    · exact .inl hnone
  simp only
  set w₂ := World.afterCall w₁ { w₁.db with
    devices := Model.device.patch w₁.db.devices w₁.now s.deviceId (paired dto.sourceIp
      dto.resolverRegion w.now (w.uuids w.calls 0)) (paired_id _ _ _ _) }
  have hlater₂ : Later w w₂ := hlater₁.trans (.afterCall _ _)
  have hexists : w₂.db.devices.find s.deviceId ≠ none := by
    rw [show w₂.db.devices.find s.deviceId = _ from Model.find_patch_some hd (paired_id _ _ _ _)]
    simp
  rcases run_upsertIpHistory s.deviceId dto.sourceIp w.now w₂ with
    ⟨e, h₃⟩ | ⟨r, history', h₃, hseen⟩ <;> rw [h₃]
  · refine ⟨_, _, rfl, hlater₂.trans (.afterCall _ _), .inl ⟨e, rfl, fun hsupply => ?_⟩⟩
    obtain ⟨r, hr, hx⟩ := (upsertIpHistory_error h₃).resolve_right hexists
    exact absurd hx (hsupply.history hlater₂.calls r hr)
  simp only
  set w₃ := World.afterCall w₂ { w₂.db with deviceIpHistory := history' }
  have hlater₃ : Later w w₃ := hlater₂.trans (.afterCall _ _)
  rcases run_recordConnectionEvent s.deviceId .paired (some dto.sourceIp) [("via", some "probe")]
    w₃ with ⟨e, h₄⟩ | ⟨ev, events', hev, hins, h₄⟩ <;> rw [h₄]
  · refine ⟨_, _, rfl, hlater₃.trans (.afterCall _ _), .inl ⟨e, rfl, fun hsupply => ?_⟩⟩
    obtain ⟨ev, hev, hx⟩ := (recordConnectionEvent_error h₄).resolve_right hexists
    exact absurd hx (hsupply.events hlater₃.calls ev hev)
  simp only
  set w₄ := World.afterCall w₃ { w₃.db with deviceConnectionEvents := events' }
  have hlater₄ : Later w w₄ := hlater₃.trans (.afterCall _ _)
  rcases run_deleteSession s.id w₄ with ⟨e, h₅, hnone⟩ | h₅ <;> rw [h₅]
  · exact ⟨_, _, rfl, hlater₄.trans (.afterCall _ _), .inl ⟨e, rfl, fun _ => .inr hnone⟩⟩
  simp only
  set w₅ := World.afterCall w₄ { w₄.db with
    pairingSessions := w₄.db.pairingSessions.erase fun r => r.id = s.id }
  have hlater₅ : Later w w₅ := hlater₄.trans (.afterCall _ _)
  rcases Audit.run_log
    { action := "pairing.confirmed", entity := "device", entityId := some s.deviceId,
      ipAddress := some dto.sourceIp } w₅ with
    ⟨e, h₆⟩ | ⟨entry, logs, hentry, hlogs, h₆⟩ <;> rw [h₆]
  · refine ⟨_, _, rfl, hlater₅.trans (.afterCall _ _), .inl ⟨e, rfl, fun hsupply => ?_⟩⟩
    rcases Audit.log_error h₆ with ⟨a, ha, hx⟩ | ⟨u, hu, -⟩
    · exact absurd hx (hsupply.audits _ hlater₅.calls a ha)
    · cases hu
  · refine ⟨_, _, rfl, hlater₅.trans (.audited hentry hlogs), .inr ⟨rfl, ?_⟩⟩
    have hcalls : w.calls + 4 < (World.afterCall w₅ (audited w₅.db logs)).calls := by
      change w.calls + 4 < w.calls + 1 + 1 + 1 + 1 + 1 + 1
      omega
    exact .intro hd ⟨w.calls, le_rfl, by omega, rfl⟩ ⟨w.calls + 2, by omega, by omega, rfl⟩ hseen
      ⟨w.calls + 3, by omega, by omega, rfl⟩ hev hins

/-- The status a session past its time or its attempts is rejected with. -/
def rejection (now : Time) (s : PairingSession) : PairStatus :=
  if s.expiresAt < now then .expired else .failed

/-- What the transaction of a confirmation comes to: no such session, no effect, the device marked,
or the pairing completed. -/
inductive Confirmed (w w' : World) (dto : ConfirmPairingDto) :
    Except Err (Option String) → Tables → Prop
  | unknown (hs : sessionOf w.db dto = none) : Confirmed w w' dto (.ok none) (tables w.db)
  | refused {s : PairingSession} (hs : sessionOf w.db dto = some s) (e : Err)
      (hwhy : Supply w → s.status ≠ .waiting ∨ w.db.devices.find s.deviceId = none) :
      Confirmed w w' dto (.error e) (tables w.db)
  | rejected {s : PairingSession} {d : Device} (hs : sessionOf w.db dto = some s)
      (hwait : s.status = .waiting) (hdead : s.expiresAt < w.now ∨ 5 ≤ s.attempts)
      (hd : w.db.devices.find s.deviceId = some d) (message : String) :
      Confirmed w w' dto (.error (.badRequest message))
        (tables (withStatus w.now s.deviceId (rejection w.now s) w.db))
  | paired {s : PairingSession} {T : Tables} (hs : sessionOf w.db dto = some s)
      (hwait : s.status = .waiting) (hlive : w.now ≤ s.expiresAt) (hatt : s.attempts < 5)
      (hdone : Completed w w' dto s T) : Confirmed w w' dto (.ok (some s.deviceId)) T

theorem erase_withAttempt (now : Time) (id : String) (db : Database) :
    ((withAttempt now id db).pairingSessions.erase fun r => r.id = id) =
      db.pairingSessions.erase fun r => r.id = id := by
  refine Table.ext ?_
  simp only [withAttempt, Table.erase, Model.patch, Table.modify]
  induction db.pairingSessions.rows with
  | nil => rfl
  | cons r rs ih =>
    by_cases h : r.id = id
    · simpa [h, Model.pairingSession, charged] using ih
    · simpa [h, Model.pairingSession] using ih

/-- An attempt that is charged and then completed. -/
theorem Completed.of_charged {w w₁ w' : World} {dto : ConfirmPairingDto} {s : PairingSession}
    {T : Tables} (hlater : Later w w₁) (hdb : w₁.db = withAttempt w.now s.id w.db)
    (h : Completed w₁ w' dto s T) : Completed w w' dto s T := by
  obtain ⟨hd, hbeacon, hid, hseen, hid', hev, hins⟩ := h
  rw [hlater.now, hdb] at *
  rw [erase_withAttempt]
  exact .intro hd (hbeacon.of_later hlater) (hid.of_later hlater) hseen (hid'.of_later hlater) hev
    hins

/-- The attempt changes neither keys nor tokens. -/
theorem uses_withAttempt {now : Time} {id x : String} {db : Database}
    (h : (tables (withAttempt now id db)).Uses x) : (tables db).Uses x := by
  rcases h with h | ⟨s, hs, hx⟩ | h
  · exact .inl h
  · rw [tables, withAttempt, Model.mem_patch] at hs
    obtain ⟨s₀, hs₀, rfl⟩ := hs
    refine .inr (.inl ⟨s₀, hs₀, ?_⟩)
    split_ifs at hx
    · exact hx
    · exact hx
  · exact .inr (.inr h)
/-- The callback on a waiting session that has not expired, once the attempt is charged. -/
theorem confirmSession_live (hs : sessionOf w.db dto = some s) (hwait : s.status = .waiting)
    (hlive : w.now ≤ s.expiresAt) :
    ∃ t, Later w t.base ∧ t.base.db = w.db ∧ TxApart t ∧
      t.view = withAttempt w.now s.id w.db ∧ (confirmSession dto).run ⟨w, []⟩ =
        (if s.attempts + 1 > 5 then
          rejectSession s .failed "Too many pairing attempts — start pairing again"
        else do
          let deviceId ← completePairing dto s
          pure (some deviceId)).run t := by
  obtain ⟨t, hin, hbase, hapart, hrun⟩ := run_confirmSession hs hwait
  have hlater : Later w t.base := later_base (t := ⟨w, []⟩) hin hbase
  have hview : t.view = w.db := congrArg World.db hin
  obtain ⟨t', hin', hbase', hapart', hrun'⟩ := confirmWaiting_charged dto hapart
    (hlater.now ▸ hlive) (hview ▸ (find_sessionOf hs).1)
  have hview' : t'.view = withAttempt t.base.now s.id t.view := congrArg World.db hin'
  rw [hlater.now, hview] at hview'
  exact ⟨t', hlater.trans (later_base hin' hbase'), hbase'.trans hbase, hapart', hview',
    hrun.trans hrun'⟩

/-- The callback on a waiting session past its time or its attempts. -/
theorem confirmSession_dead (hs : sessionOf w.db dto = some s) (hwait : s.status = .waiting)
    (hdead : s.expiresAt < w.now ∨ 5 ≤ s.attempts) :
    ∃ message s' t, Later w t.base ∧ t.base.db = w.db ∧
      t.view.pairingSessions.find s.id = some s' ∧
      (confirmSession dto).run ⟨w, []⟩ = (rejectSession s (rejection w.now s) message).run t := by
  by_cases hexp : s.expiresAt < w.now
  · obtain ⟨t, hin, hbase, -, hrun⟩ := run_confirmSession hs hwait
    have hlater : Later w t.base := later_base (t := ⟨w, []⟩) hin hbase
    have hview : t.view = w.db := congrArg World.db hin
    rw [confirmWaiting_expired (hlater.now ▸ hexp)] at hrun
    rw [rejection, if_pos hexp]
    exact ⟨_, s, t, hlater, hbase, hview ▸ (find_sessionOf hs).1, hrun⟩
  · obtain ⟨t, hlater, hbase, -, hview, hrun⟩ := confirmSession_live hs hwait (not_lt.mp hexp)
    rw [if_pos (by have := hdead.resolve_left hexp; omega)] at hrun
    rw [rejection, if_neg hexp]
    refine ⟨_, charged s, t, hlater, hbase, ?_, hrun⟩
    rw [hview, find_withAttempt, (find_sessionOf hs).1]
    rfl

/-- The transaction of a confirmation that is rejected. -/
theorem transaction_rejected (hs : sessionOf w.db dto = some s) (hwait : s.status = .waiting)
    (hdead : s.expiresAt < w.now ∨ 5 ≤ s.attempts)
    (hd : w.db.devices.find s.deviceId = some d) :
    ∃ message w', (tryConfirmPairingSession dto).run w = (.error (.badRequest message), w') ∧
      Later w w' ∧ w'.db = withStatus w.now s.deviceId (rejection w.now s) w.db := by
  obtain ⟨message, s', t, hlater, hbase, hfind, hrun⟩ := confirmSession_dead hs hwait hdead
  obtain ⟨t', ht', hlater', hdb⟩ :=
    @run_rejectSession s s' d (rejection w.now s) message t hfind (hbase ▸ hd)
  refine ⟨message, t'.base, ?_, hlater.trans hlater', ?_⟩
  · rw [tryConfirmPairingSession, run_transaction, hrun, ht']
  · rw [hdb, hlater.now, hbase]

/-- Without the device a rejection fails and leaves no trace. -/
theorem transaction_rejected_missing (hs : sessionOf w.db dto = some s)
    (hwait : s.status = .waiting)
    (hdead : s.expiresAt < w.now ∨ 5 ≤ s.attempts)
    (hd : w.db.devices.find s.deviceId = none) :
    ∃ e w', (tryConfirmPairingSession dto).run w = (.error e, w') ∧ Later w w' ∧
      w'.db = w.db := by
  obtain ⟨message, s', t, hlater, hbase, hfind, hrun⟩ := confirmSession_dead hs hwait hdead
  obtain ⟨e, t', ht', hlater', hdb⟩ :=
    @run_rejectSession_missing s s' (rejection w.now s) message t hfind (hbase ▸ hd)
  refine ⟨e, t'.base, ?_, hlater.trans hlater', hdb.trans hbase⟩
  rw [tryConfirmPairingSession, run_transaction, hrun, ht']

/-- The transaction of a live session with attempts left: it fails, or the pairing is complete. -/
theorem transaction_completed (hs : sessionOf w.db dto = some s) (hwait : s.status = .waiting)
    (hlive : w.now ≤ s.expiresAt) (hatt : s.attempts < 5) :
    ∃ r w', (tryConfirmPairingSession dto).run w = (r, w') ∧ Later w w' ∧
      ((∃ e, r = .error e ∧ tables w'.db = tables w.db ∧
          (Supply w → w.db.devices.find s.deviceId = none)) ∨
        r = .ok (some s.deviceId) ∧ Completed w w' dto s (tables w'.db)) := by
  obtain ⟨t, hlater, hbase, hapart, hview, hrun⟩ := confirmSession_live hs hwait hlive
  rw [if_neg (by omega)] at hrun
  have hmirrors : Mirrors (do let deviceId ← completeCalls dto s; pure (some deviceId))
      (do let deviceId ← completePairing dto s; pure (some deviceId)) :=
    (mirrors_complete dto s).bind fun _ => .pure _
  obtain ⟨hres, hin, hapart', -⟩ := hmirrors t hapart
  have hdb := hmirrors.base hapart
  have hinside : t.inside.db = withAttempt w.now s.id w.db := hview
  have hlater₁ : Later w t.inside := by
    refine ⟨hlater.now, hlater.uuids, hlater.calls, ?_, fun a ha => .inl ?_⟩
    · rw [hinside]
      rfl
    · rw [hinside] at ha
      exact ha
  obtain ⟨r, w', hcalls, hlater', hdone⟩ := run_completeCalls dto s t.inside
  -- the direct calls, followed by the callback's `pure`
  have hdirect := Prog.run_bind (completeCalls dto s)
    (fun deviceId => pure (some deviceId)) t.inside
  rw [hcalls] at hdirect
  rw [hdirect] at hres hin hdb
  rcases hq : (do let deviceId ← completePairing dto s; pure (some deviceId)).run t with ⟨r', t'⟩
  rw [hq] at hres hin hdb
  rw [tryConfirmPairingSession, run_transaction, hrun, hq]
  rcases r with e | deviceId
  · obtain rfl : r' = .error e := hres
    have hin : t'.inside = w' := hin
    have hdb : t'.base.db = audited t.base.db w'.db.auditLogs := hdb
    rw [hbase] at hdb
    refine ⟨.error e, t'.base, rfl, ?_, .inl ⟨e, rfl, ?_, fun hsupply => ?_⟩⟩
    · refine (hlater₁.trans hlater').congr ?_ (by rw [hdb]; rfl) (by rw [hdb]; rfl)
      rw [← hin]
      rfl
    · rw [hdb]
      rfl
    · have hsupply₁ : Supply t.inside := by
        refine hsupply.later hlater₁ fun x hx => .inl ?_
        rw [hinside] at hx
        exact uses_withAttempt hx
      rcases hdone with ⟨-, -, hwhy⟩ | ⟨he, -⟩
      swap
      · cases he
      rcases hwhy hsupply₁ with hnone | hnone
      · rw [hinside] at hnone
        exact hnone
      · rw [hinside, find_withAttempt, (find_sessionOf hs).1] at hnone
        cases hnone
  · obtain rfl : r' = .ok (some deviceId) := hres
    have hin : t'.inside = w' := hin
    rcases hdone with ⟨e, he, -⟩ | ⟨hid, hdone⟩
    · cases he
    · cases hid
      refine ⟨.ok (some s.deviceId), t'.inside, rfl, ?_, .inr ⟨rfl, ?_⟩⟩
      · rw [hin]
        exact hlater₁.trans hlater'
      · rw [hin]
        exact hdone.of_charged hlater₁ hview

/-- The transaction when the token is no session's. -/
theorem transaction_unknown (hs : sessionOf w.db dto = none) :
    (tryConfirmPairingSession dto).run w = (.ok none, World.afterCall w w.db) := by
  obtain ⟨t, ht, hin, -, -⟩ := run_findSession dto w
  rw [tryConfirmPairingSession, run_transaction, confirmSession, Prog.run_bind, ht, hs, ← hin]
  rfl

/-- The transaction when the session is not waiting. -/
theorem transaction_settled (hs : sessionOf w.db dto = some s) (hwait : s.status ≠ .waiting) :
    ∃ w', (tryConfirmPairingSession dto).run w =
        (.error (.badRequest ("Pairing session already " ++ statusName s.status)), w') ∧
      Later w w' ∧ w'.db = w.db := by
  obtain ⟨t, ht, hin, hbase, -⟩ := run_findSession dto w
  refine ⟨t.base, ?_, later_base (t := ⟨w, []⟩) hin hbase, hbase⟩
  rw [tryConfirmPairingSession, run_transaction, confirmSession, Prog.run_bind, ht, hs]
  simp only [Prog.run_bind, Prog.run_require, if_neg hwait]

/-- **The cases of a confirmation.** -/
theorem run_tryConfirm (dto : ConfirmPairingDto) (w : World) :
    ∃ r w', (tryConfirmPairingSession dto).run w = (r, w') ∧ Later w w' ∧
      Confirmed w w' dto r (tables w'.db) := by
  rcases hs : sessionOf w.db dto with _ | s
  · exact ⟨_, _, transaction_unknown hs, .afterCall _ _, .unknown hs⟩
  by_cases hwait : s.status = .waiting
  swap
  · obtain ⟨w', hrun, hlater, hdb⟩ := transaction_settled hs hwait
    exact ⟨_, w', hrun, hlater, hdb ▸ .refused hs _ fun _ => .inl hwait⟩
  by_cases hdead : s.expiresAt < w.now ∨ 5 ≤ s.attempts
  · rcases hd : w.db.devices.find s.deviceId with _ | d
    · obtain ⟨e, w', hrun, hlater, hdb⟩ := transaction_rejected_missing hs hwait hdead hd
      exact ⟨_, w', hrun, hlater, hdb ▸ .refused hs e fun _ => .inr hd⟩
    · obtain ⟨message, w', hrun, hlater, hdb⟩ := transaction_rejected hs hwait hdead hd
      exact ⟨_, w', hrun, hlater, hdb ▸ .rejected hs hwait hdead hd message⟩
  · push Not at hdead
    obtain ⟨r, w', hrun, hlater, ⟨e, rfl, htables, hwhy⟩ | ⟨rfl, hdone⟩⟩ :=
      transaction_completed hs hwait hdead.1 hdead.2
    · exact ⟨_, w', hrun, hlater, htables ▸ .refused hs e fun h => .inr (hwhy h)⟩
    · exact ⟨_, w', hrun, hlater, .paired hs hwait hdead.1 hdead.2 hdone⟩

end Confirm

end GuardTime.Pairing.Effects
