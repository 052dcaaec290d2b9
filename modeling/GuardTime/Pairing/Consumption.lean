import Mathlib.Tactic
import GuardTime.Transactions
import GuardTime.Pairing.Agreement
import GuardTime.Pairing.Effects

/-! # A token is consumed once

Any number of confirmations with one token, each in its transaction. The status is checked by a
plain read that several can pass; the first write of a confirmation, the increment of the attempts,
takes the lock of the session, and whoever waits for it finds the session deleted. So at most one
confirmation commits a pairing (`paired_once`).

* `Stage`: how far a transaction has come, and what its writes do to any database;
* `follows_confirmSession`: a confirmation goes through the stages;
* `Inv`: what holds of the pool at all times. -/

namespace GuardTime.Pairing.Consumption

open GuardTime.Lib.Program GuardTime.Lib.Interleave GuardTime.Lib.Keyed GuardTime.Lib.Js
open GuardTime.Schema GuardTime.Server GuardTime.Prisma GuardTime.Services
open GuardTime.Services.Pairing GuardTime.Pairing.Effects GuardTime.Pairing.Agreement
open GuardTime.Transactions

/-! ### What a pairing leaves behind -/

/-- The `PAIRED` events. -/
def pairedEvents (db : Database) : ℕ :=
  db.deviceConnectionEvents.rows.countP fun e => e.type = .paired

/-- The beacon token of a device. -/
def beaconToken (db : Database) (deviceId : String) : Option String :=
  (db.devices.find deviceId).bind Device.dnsBeaconToken

/-- The only session the token may be of. -/
def Fine (token sid : String) (db : Database) : Prop :=
  ∀ s ∈ db.pairingSessions.rows, s.token = token → s.id = sid

/-- Sessions, `PAIRED` events and beacon tokens are as before. -/
structure Quiet (db db' : Database) : Prop where
  sessions : db'.pairingSessions = db.pairingSessions
  events : pairedEvents db' = pairedEvents db
  beacon : ∀ id, beaconToken db' id = beaconToken db id

theorem Quiet.refl (db : Database) : Quiet db db := ⟨rfl, rfl, fun _ => rfl⟩

/-- What a transaction that has locked the session has written. -/
structure Marks where
  gone : Bool
  events : ℕ
  beacon : Option (String × String)

/-- How far a transaction has come.

* `free`: it has written nothing;
* `held`: it has locked the session;
* `doomed`: it will be rolled back;
* `void`: it has seen a second session with the token. -/
inductive Stage where
  | free
  | held (m : Marks)
  | doomed
  | void

/-- The session is locked, and the transaction may yet commit. -/
def Stage.Holds : Stage → Prop
  | .held _ => True
  | _ => False

section Steps
variable (token sid : String)

/-- What writes with the marks do to a database. -/
structure Done (m : Marks) (db db' : Database) : Prop where
  fine : Fine token sid db → Fine token sid db'
  gone : m.gone = true → db'.pairingSessions.find sid = none
  events : pairedEvents db' ≤ pairedEvents db + m.events
  beacon : ∀ id, beaconToken db' id = beaconToken db id ∨ ∃ b, m.beacon = some (id, b) ∧
    beaconToken db' id = some b

/-- What the writes of a transaction would do to any database. -/
def LogOk : Stage → List (Database → Database) → Prop
  | .free, log => ∀ db, replay log db = db
  | .held m, log => ∀ db, Done token sid m db (replay log db)
  | _, _ => True

/-- A call of a transaction. -/
inductive Step (u : TxWorld → TxWorld) : Stage → TxWorld → Stage → Prop
  | void {q : Stage} {s : TxWorld} (hd : q ≠ .doomed)
    (h : q = .void ∨ ¬ Fine token sid s.view) : Step u q s .void
  | doomed {q : Stage} {s : TxWorld} (hv : q ≠ .void) (h : Quiet s.base.db (u s).base.db) :
    Step u q s .doomed
  | regular {q q' : Stage} {s : TxWorld} (hq : q ≠ .void ∧ q ≠ .doomed)
    (hq' : q' ≠ .void ∧ q' ≠ .doomed) (h : Quiet s.base.db (u s).base.db)
    (hlog : LogOk token sid q s.log → LogOk token sid q' (u s).log)
    (hlock : q'.Holds → ¬ q.Holds → sid ∈ changed s.view (u s).view) : Step u q s q'

/-- How a transaction ends: it pairs the device only after it has deleted the session. -/
def Ends : Stage → Except Err (Option String) → Prop
  | .free, r => r = .ok none ∨ ∃ e, r = .error e
  | .held m, r => (∃ e, r = .error e) ∨ m.gone = true ∧ m.events ≤ 1 ∧ ∃ d, r = .ok (some d)
  | .doomed, r => ∃ e, r = .error e
  | .void, _ => True

end Steps

/-! ### The effect of single calls -/

section Effects
variable {token sid : String}

/-- What one more call does to a database the writes so far have been applied to. -/
structure Effect (token sid : String) (m m' : Marks) (db db' : Database) : Prop where
  fine : Fine token sid db → Fine token sid db'
  gone : m'.gone = true → db'.pairingSessions.find sid = none
  events : pairedEvents db' + m.events ≤ pairedEvents db + m'.events
  kept : m.beacon = none ∨ m'.beacon = m.beacon
  beacon : ∀ id, beaconToken db' id = beaconToken db id ∨ ∃ b, m'.beacon = some (id, b) ∧
    beaconToken db' id = some b

theorem Done.effect {m m' : Marks} {db db₁ db₂ : Database} (h : Done token sid m db db₁)
    (he : Effect token sid m m' db₁ db₂) : Done token sid m' db db₂ where
  fine hf := he.fine (h.fine hf)
  gone := he.gone
  events := by
    have h₁ := h.events
    have h₂ := he.events
    omega
  beacon id := by
    rcases he.beacon id with heq | hnew
    · rcases h.beacon id with hold | ⟨b, hm, hb⟩
      · exact .inl (heq.trans hold)
      · rcases he.kept with hnone | hkept
        · rw [hnone] at hm
          cases hm
        · exact .inr ⟨b, hkept.trans hm, heq.trans hb⟩
    · exact .inr hnew

/-- The call leaves the tables alone that a pairing is told by, sessions apart. -/
theorem Effect.of_sessions {m m' : Marks} {db db' : Database}
    (hfine : Fine token sid db → Fine token sid db')
    (hgone : m'.gone = true → db'.pairingSessions.find sid = none) (hevents : m'.events = m.events)
    (hbeacon : m'.beacon = m.beacon) (he : db'.deviceConnectionEvents = db.deviceConnectionEvents)
    (hd : db'.devices = db.devices) : Effect token sid m m' db db' where
  fine := hfine
  gone := hgone
  events := by
    unfold pairedEvents
    rw [he, hevents]
  kept := .inr hbeacon
  beacon id := .inl (by rw [beaconToken, beaconToken, hd])

/-- The attempts of a session are counted. -/
theorem fine_withAttempt {now : Time} {id : String} {db : Database} (h : Fine token sid db) :
    Fine token sid (withAttempt now id db) := by
  intro s hs ht
  obtain ⟨s₀, hs₀, rfl⟩ := (@Model.mem_patch _ _ _ _ _ _ charged_id _ _).mp hs
  by_cases hid : s₀.id = id
  · rw [if_pos hid] at ht ⊢
    exact h s₀ hs₀ ht
  · rw [if_neg hid] at ht ⊢
    exact h s₀ hs₀ ht

theorem run_increment (id : String) (w : World) :
    (w.db.pairingSessions.find id = none ∧ ∃ e, (incrementSessionAttempts id).run w =
      (.error e, World.afterCall w w.db)) ∨
    ∃ s, w.db.pairingSessions.find id = some s ∧ (incrementSessionAttempts id).run w =
      (.ok (charged s), World.afterCall w (withAttempt w.now id w.db)) := by
  rcases hs : w.db.pairingSessions.find id with _ | s
  · exact .inl ⟨rfl, _, run_update_none (m := Model.pairingSession) hs⟩
  · exact .inr ⟨s, rfl, run_incrementSessionAttempts hs⟩

/-- A counted attempt changes the row, and so locks it. -/
theorem mem_changed_withAttempt {now : Time} {id : String} {db : Database} {r : PairingSession}
    (hr : db.pairingSessions.find id = some r) : id ∈ changed db (withAttempt now id db) := by
  have hid : r.id = id := Table.key_of_find hr
  refine List.mem_map.mpr ⟨r, List.mem_filter.mpr ⟨Table.mem_of_find hr, ?_⟩, hid⟩
  rw [decide_eq_true_eq, hid, find_withAttempt, hr]
  intro h
  have hattempts := congrArg PairingSession.attempts (Option.some.inj h)
  exact absurd hattempts (by simp [charged])

/-- Marks that do not say so promise nothing about a deleted session. -/
theorem find_of_gone {m : Marks} {db : Database} (hm : m.gone = false) (h : m.gone = true) :
    db.pairingSessions.find sid = none := by
  rw [hm] at h
  cases h

theorem effect_increment {m : Marks} (hm : m.gone = false) (id : String) (w : World) :
    Effect token sid m m w.db ((incrementSessionAttempts id).run w).2.db := by
  have hnot {db : Database} : m.gone = true → db.pairingSessions.find sid = none := find_of_gone hm
  rcases run_increment id w with ⟨-, e, hrun⟩ | ⟨s, -, hrun⟩
  · rw [hrun]
    exact .of_sessions (fun h => h) (hnot) rfl rfl rfl rfl
  · rw [hrun]
    exact .of_sessions fine_withAttempt (hnot) rfl rfl rfl rfl

/-- The device is marked as paired with a new beacon token. -/
theorem effect_markDevicePaired {m : Marks} (hm : m.gone = false) (hnone : m.beacon = none)
    (deviceId sourceIp : String) (region : Option String) (t : Time) (b : String) (w : World) :
    Effect token sid m { m with beacon := some (deviceId, b) } w.db
      ((markDevicePaired deviceId sourceIp region t b).run w).2.db := by
  have hnot {db : Database} : m.gone = true → db.pairingSessions.find sid = none := find_of_gone hm
  rcases run_markDevicePaired deviceId sourceIp region t b w with ⟨e, hrun⟩ | ⟨d, d', -, hrun⟩
  · rw [hrun]
    exact ⟨fun h => h, hnot, le_rfl, .inl hnone, fun _ => .inl rfl⟩
  · rw [hrun]
    refine ⟨fun h => h, hnot, le_rfl, .inl hnone, fun id => ?_⟩
    unfold beaconToken
    dsimp only [World.afterCall]
    rw [Model.find_patch]
    rcases hd : w.db.devices.find id with _ | d₀
    · exact .inl rfl
    · have hid := Table.key_of_find hd
      by_cases h : d₀.id = deviceId
      · refine .inr ⟨b, ?_, ?_⟩
        · rw [← h, hid]
        · rw [Option.map_some, if_pos h]
          rfl
      · refine .inl ?_
        rw [Option.map_some, if_neg h]

theorem effect_upsertIpHistory {m : Marks} (hm : m.gone = false) (deviceId ip : String) (t : Time)
    (w : World) : Effect token sid m m w.db ((upsertIpHistory deviceId ip t).run w).2.db := by
  have hnot {db : Database} : m.gone = true → db.pairingSessions.find sid = none := find_of_gone hm
  rcases run_upsertIpHistory deviceId ip t w with ⟨e, hrun⟩ | ⟨r, history', hrun, -⟩
  · rw [hrun]
    exact .of_sessions (fun h => h) (hnot) rfl rfl rfl rfl
  · rw [hrun]
    exact .of_sessions (fun h => h) (hnot) rfl rfl rfl rfl

/-- An event is recorded. -/
theorem effect_recordConnectionEvent {m : Marks} (hm : m.gone = false) (deviceId : String)
    (ip : Option String) (metadata : List (String × Option String)) (w : World) :
    Effect token sid m { m with events := m.events + 1 } w.db
      ((recordConnectionEvent deviceId .paired ip metadata).run w).2.db := by
  have hnot {db : Database} : m.gone = true → db.pairingSessions.find sid = none := find_of_gone hm
  rcases run_recordConnectionEvent deviceId .paired ip metadata w with
    ⟨e, hrun⟩ | ⟨ev, events', -, hins, hrun⟩
  · rw [hrun]
    refine ⟨fun h => h, hnot, ?_, .inr rfl, fun _ => .inl rfl⟩
    exact Nat.add_le_add_left (Nat.le_succ _) _
  · rw [hrun]
    refine ⟨fun h => h, hnot, ?_, .inr rfl, fun _ => .inl rfl⟩
    have hcount : pairedEvents { w.db with deviceConnectionEvents := events' } ≤
        pairedEvents w.db + 1 := by
      unfold pairedEvents
      rw [(Table.insert_eq_some hins).2, List.countP_append]
      have hone := @List.countP_le_length _ (fun e : DeviceConnectionEvent => e.type = .paired) [ev]
      exact Nat.add_le_add_left hone _
    change pairedEvents { w.db with deviceConnectionEvents := events' } + m.events ≤
      pairedEvents w.db + (m.events + 1)
    omega

/-- The session is deleted. -/
theorem effect_delete {m : Marks} (w : World) :
    Effect token sid m { m with gone := true } w.db
      ((Prisma.delete .pairingSession sid).run w).2.db := by
  rcases run_deleteSession sid w with ⟨e, hrun, hnone⟩ | hrun
  · rw [hrun]
    exact .of_sessions (fun h => h) (fun _ => hnone) rfl rfl rfl rfl
  · rw [hrun]
    refine .of_sessions (fun h s hs => ?_) (fun _ => ?_) rfl rfl rfl rfl
    · exact h s (Table.mem_erase.mp hs).1
    · refine Table.find_eq_none.mpr fun s hs hid => ?_
      have herased := (Table.mem_erase.mp hs).2
      rw [hid] at herased
      simp at herased

end Effects

/-! ### A confirmation -/

section Confirm
variable {token sid : String} {α : Type}

theorem replay_concat (log : List (Database → Database)) (f : Database → Database) (db : Database) :
    replay (log ++ [f]) db = f (replay log db) := by
  unfold replay
  rw [List.foldl_append]
  rfl

/-- Nothing is asked of a transaction that has seen the impossible. -/
theorem follows_void {E : Stage → Except Err α → Prop} (hE : ∀ r, E .void r) :
    ∀ p : Prog TxWorld Err α, Follows (Step token sid) E p .void
  | .ret r => hE r
  | .act _ k => fun s => ⟨.void, .void (by simp) (.inl rfl), follows_void hE (k s)⟩

theorem quiet_viaTx (p : Api α) (s : TxWorld) :
    Quiet s.base.db ((viaTx p).run s).2.base.db := .refl _

/-- A call past the transaction that leaves sessions, events and beacon tokens alone. -/
theorem follows_viaPlain {p : Api α} (hp : ∀ w, Quiet w.db (p.run w).2.db) {q : Stage}
    (hq : q ≠ .void) : Follows (Step token sid) (fun q' _ => q' = q) (viaPlain p) q := by
  refine .call fun s => ⟨q, ?_, rfl⟩
  by_cases hd : q = .doomed
  · rw [hd]
    exact .doomed (by simp) (hp s.base)
  · exact .regular ⟨hq, hd⟩ ⟨hq, hd⟩ (hp s.base) (fun h => h) fun h h' => absurd h h'

/-- A write that follows the lock. -/
theorem follows_held {p : Api α} {m m' : Marks}
    (hp : ∀ w, Effect token sid m m' w.db (p.run w).2.db) :
    Follows (Step token sid) (fun q' _ => q' = .held m') (viaTx p) (.held m) := by
  refine .call fun s => ⟨.held m', ?_, rfl⟩
  refine .regular ⟨by simp, by simp⟩ ⟨by simp, by simp⟩ (quiet_viaTx p s) (fun h db => ?_)
    fun _ h => absurd trivial h
  change Done token sid m' db (replay (s.log ++ [_]) db)
  rw [replay_concat]
  exact (h db).effect (hp { s.base with db := replay s.log db })

theorem quiet_setDevicePairStatus (deviceId : String) (status : PairStatus) (w : World) :
    Quiet w.db ((setDevicePairStatus deviceId status).run w).2.db := by
  rcases run_update_cases Model.device deviceId (marked status) (marked_id status) w with
    ⟨e, hrun⟩ | ⟨d, -, hrun⟩
  · unfold setDevicePairStatus
    rw [show update Model.device deviceId (fun d => { d with pairStatus := status }) _ =
      update Model.device deviceId (marked status) (marked_id status) from rfl, hrun]
    exact .refl _
  · unfold setDevicePairStatus
    rw [show update Model.device deviceId (fun d => { d with pairStatus := status }) _ =
      update Model.device deviceId (marked status) (marked_id status) from rfl, hrun]
    refine ⟨rfl, rfl, fun id => ?_⟩
    unfold beaconToken
    change ((Model.device.patch w.db.devices w.now deviceId (marked status)
      (marked_id status)).find id).bind _ = _
    rw [Model.find_patch]
    rcases w.db.devices.find id with _ | d₀
    · rfl
    · by_cases h : d₀.id = deviceId
      · rw [Option.map_some, if_pos h]
        rfl
      · rw [Option.map_some, if_neg h]

theorem quiet_log (entry : Audit.Entry) (w : World) :
    Quiet w.db ((Audit.log entry).run w).2.db := by
  rcases Audit.run_log entry w with ⟨e, hrun⟩ | ⟨row, logs, -, -, hrun⟩
  · rw [hrun]
    exact .refl _
  · rw [hrun]
    exact ⟨rfl, rfl, fun _ => rfl⟩

theorem quiet_newDate (w : World) : Quiet w.db (newDate.run w).2.db := .refl _

theorem quiet_randomUUID (w : World) : Quiet w.db (randomUUID.run w).2.db := .refl _

/-- A rejection ends in an error. -/
theorem follows_rejectSession (session : PairingSession) (status : PairStatus) (message : String)
    {q : Stage} (hq : q ≠ .void) :
    Follows (Step token sid) Ends (rejectSession session status message) q := by
  have hmark : Follows (Step token sid) (fun q' _ => q' = .doomed)
      (viaTx (markSessionStatus session.id status)) q :=
    .call fun s => ⟨.doomed, .doomed hq (quiet_viaTx _ s), rfl⟩
  have hquiet := quiet_setDevicePairStatus session.deviceId status
  refine hmark.bind ?_ ?_
  · rintro q - rfl
    refine (follows_viaPlain hquiet (by simp)).bind ?_ ?_
    · rintro q - rfl
      exact ⟨_, rfl⟩
    · rintro q e rfl
      exact ⟨e, rfl⟩
  · rintro q e rfl
    exact ⟨e, rfl⟩

/-- The session is looked up by a plain read. -/
theorem follows_find (dto : ConfirmPairingDto) (htoken : dto.token = token) :
    Follows (Step token sid) (fun q r => q = .void ∨ q = .free ∧
        ∃ o, r = .ok o ∧ ∀ s, o = some s → s.id = sid)
      (viaTx (Prisma.findUniqueBy .pairingSession fun s => s.token = dto.token)) .free := by
  refine .call fun s => ?_
  by_cases hfine : Fine token sid s.view
  · refine ⟨.free, ?_, .inr ⟨rfl, _, rfl, fun r hr => ?_⟩⟩
    · refine .regular ⟨by simp, by simp⟩ ⟨by simp, by simp⟩ (quiet_viaTx _ s) (fun h db => ?_)
        fun h => absurd h id
      change replay (s.log ++ [_]) db = db
      rw [replay_concat]
      exact h db
    · have htok := List.find?_some hr
      rw [htoken] at htok
      exact hfine r (List.mem_of_find?_eq_some hr) (of_decide_eq_true htok)
  · exact ⟨.void, .void (by simp) (.inr hfine), .inl rfl⟩

/-- **The increment takes the lock**, or fails because the session is gone. -/
theorem follows_increment :
    Follows (Step token sid) (fun q r => q = .void ∨ (q = .held ⟨false, 0, none⟩ ∧ ∃ a, r = .ok a) ∨
        q = .doomed ∧ ∃ e, r = .error e)
      (viaTx (incrementSessionAttempts sid)) .free := by
  refine .call fun s => ?_
  by_cases hfine : Fine token sid s.view
  · rcases run_increment sid s.inside with ⟨-, e, hrun⟩ | ⟨r, hr, hrun⟩
    · exact ⟨.doomed, .doomed
        (by simp) (quiet_viaTx _ s), .inr (.inr ⟨rfl, e, congrArg Prod.fst hrun⟩)⟩
    · refine ⟨.held ⟨false, 0, none⟩, ?_, .inr (.inl ⟨rfl, _, congrArg Prod.fst hrun⟩)⟩
      refine .regular ⟨by simp, by simp⟩ ⟨by simp, by simp⟩ (quiet_viaTx _ s) (fun h db => ?_)
        fun _ _ => ?_
      · change Done token sid _ db (replay (s.log ++ [_]) db)
        rw [replay_concat, h db]
        have heffect := @effect_increment token sid ⟨false, 0,
          none⟩ rfl sid { s.base with db := db }
        exact ⟨heffect.fine, heffect.gone, heffect.events, heffect.beacon⟩
      · have hview : ((viaTx (incrementSessionAttempts sid)).run s).2.view =
            withAttempt s.base.now sid s.view := by
          rw [viaTx_view]
          exact congrArg (fun x => x.2.db) hrun
        change sid ∈ changed s.view ((viaTx (incrementSessionAttempts sid)).run s).2.view
        rw [hview]
        exact mem_changed_withAttempt hr
  · exact ⟨.void, .void (by simp) (.inr hfine), .inl rfl⟩

/-- **A confirmation that holds the lock** marks the device, records one event and deletes the
session. -/
theorem follows_completePairing (dto : ConfirmPairingDto) {session : PairingSession}
    (hid : session.id = sid) :
    Follows (Step token sid) (fun q r => q = .void ∨ ∃ m, q = .held m ∧
        ((∃ e, r = .error e) ∨ m.gone = true ∧ m.events ≤ 1 ∧ ∃ d, r = .ok d))
      (completePairing dto session) (.held ⟨false, 0, none⟩) := by
  have hheld : ∀ m : Marks, Stage.held m ≠ .void := by simp
  unfold completePairing
  refine (follows_viaPlain quiet_newDate (hheld _)).bind ?_ ?_
  swap
  · rintro q e rfl
    exact .inr ⟨_, rfl, .inl ⟨e, rfl⟩⟩
  rintro q pairedAt rfl
  refine (follows_viaPlain quiet_randomUUID (hheld _)).bind ?_ ?_
  swap
  · rintro q e rfl
    exact .inr ⟨_, rfl, .inl ⟨e, rfl⟩⟩
  rintro q beacon rfl
  refine (follows_held (effect_markDevicePaired rfl rfl session.deviceId dto.sourceIp
    dto.resolverRegion pairedAt beacon)).bind ?_ ?_
  swap
  · rintro q e rfl
    exact .inr ⟨_, rfl, .inl ⟨e, rfl⟩⟩
  rintro q - rfl
  refine (follows_held
    (effect_upsertIpHistory rfl session.deviceId dto.sourceIp pairedAt)).bind ?_ ?_
  swap
  · rintro q e rfl
    exact .inr ⟨_, rfl, .inl ⟨e, rfl⟩⟩
  rintro q - rfl
  refine (follows_held (effect_recordConnectionEvent rfl session.deviceId _ _)).bind ?_ ?_
  swap
  · rintro q e rfl
    exact .inr ⟨_, rfl, .inl ⟨e, rfl⟩⟩
  rintro q - rfl
  rw [hid]
  refine (follows_held effect_delete).bind ?_ ?_
  swap
  · rintro q e rfl
    exact .inr ⟨_, rfl, .inl ⟨e, rfl⟩⟩
  rintro q - rfl
  refine (follows_viaPlain (quiet_log _) (hheld _)).bind ?_ ?_
  · rintro q - rfl
    exact .inr ⟨_, rfl, .inr ⟨rfl, le_rfl, _, rfl⟩⟩
  · rintro q e rfl
    exact .inr ⟨_, rfl, .inl ⟨e, rfl⟩⟩

/-- **A confirmation goes through the stages.** -/
theorem follows_confirmSession (dto : ConfirmPairingDto) (htoken : dto.token = token) :
    Follows (Step token sid) Ends (confirmSession dto) .free := by
  unfold confirmSession
  refine (follows_find dto htoken).bind ?_ ?_
  · rintro q o (rfl | ⟨rfl, o', ho, hsid⟩)
    · exact follows_void (fun _ => trivial) _
    · cases ho
      rcases o with _ | session
      · exact .inl rfl
      have hid := hsid session rfl
      refine .require_bind (fun _ => ?_) fun _ => .inr ⟨_, rfl⟩
      unfold confirmWaiting
      refine (follows_viaPlain quiet_newDate (by simp)).bind ?_ ?_
      · rintro q now rfl
        refine .ite (fun _ => follows_rejectSession _ _ _ (by simp)) fun _ => ?_
        rw [hid]
        refine follows_increment.bind ?_ ?_
        · rintro q a (rfl | ⟨rfl, -⟩ | ⟨rfl, e, he⟩)
          · exact follows_void (fun _ => trivial) _
          · refine .ite (fun _ => follows_rejectSession _ _ _ (by simp)) fun _ => ?_
            refine (follows_completePairing dto hid).bind ?_ ?_
            · rintro q d (rfl | ⟨m, rfl, ⟨e, he⟩ | ⟨hgone, hevents, d', hd⟩⟩)
              · exact follows_void (fun _ => trivial) _
              · cases he
              · exact .inr ⟨hgone, hevents, d, rfl⟩
            · rintro q e (rfl | ⟨m, rfl, -⟩)
              · trivial
              · exact .inl ⟨e, rfl⟩
          · cases he
        · rintro q e (rfl | ⟨rfl, a, ha⟩ | ⟨rfl, -⟩)
          · trivial
          · cases ha
          · exact ⟨e, rfl⟩
      · rintro q e rfl
        exact .inr ⟨e, rfl⟩
  · rintro q e (rfl | ⟨rfl, -⟩)
    · trivial
    · exact .inr ⟨e, rfl⟩

end Confirm

/-! ### Runs -/

/-- Confirmations side by side. -/
abbrev Confirmations : Type := Transactions.Pool (Option String)

/-- The transaction has committed a pairing. -/
def Paired (P : Confirmations) (i : ℕ) : Prop :=
  ∃ log locks d, P.tx i = some ⟨log, locks, .ret (.ok (some d)), true⟩

/-- What holds of the pool at all times. -/
structure Inv (token sid : String) (db₀ : Database) (P : Confirmations) : Prop where
  fine : Fine token sid P.world.db
  running : ∀ i θ, P.tx i = some θ → θ.ended = false → ∃ q, q ≠ .void ∧
    Follows (Step token sid) Ends θ.prog q ∧ LogOk token sid q θ.log ∧
      (q.Holds → sid ∈ θ.locks ∧ ∀ j, ¬ Paired P j)
  ended : ∀ i θ, P.tx i = some θ → θ.ended = true → ∃ r, θ.prog = .ret r
  once : ∀ i j, Paired P i → Paired P j → i = j
  gone : ∀ i, Paired P i → P.world.db.pairingSessions.find sid = none
  events : pairedEvents P.world.db ≤ pairedEvents db₀ + 1
  before : (∀ i, ¬ Paired P i) → pairedEvents P.world.db = pairedEvents db₀ ∧
    ∀ id, beaconToken P.world.db id = beaconToken db₀ id

/-- What one move does to the beacon tokens. -/
structure Outcome (P P' : Confirmations) : Prop where
  lasting : ∀ i, Paired P i → Paired P' i
  after : (∃ i, Paired P i) → ∀ id, beaconToken P'.world.db id = beaconToken P.world.db id
  single : ∃ d b, ∀ id, beaconToken P'.world.db id = beaconToken P.world.db id ∨
    id = d ∧ beaconToken P'.world.db id = some b

section Run
variable {token sid : String} {db₀ : Database} {P P' : Confirmations}

theorem changed_self (db : Database) : changed db db = [] := by
  unfold changed
  rw [List.filter_eq_nil_iff.mpr fun s hs => ?_, List.map_nil]
  rw [Table.find_key hs]
  simp

/-- A transaction changes that is not ended, before or after, and the tables are as before. -/
theorem Inv.update (h : Inv token sid db₀ P) {i : ℕ} {θ : Tx (Option String)}
    (hnew : ∀ log locks d, P.tx i ≠ some ⟨log, locks, .ret (.ok (some d)), true⟩)
    (hold : ∀ log locks d, θ ≠ ⟨log, locks, .ret (.ok (some d)), true⟩)
    (htx : P'.tx = Function.update P.tx i (some θ)) (hq : Quiet P.world.db P'.world.db)
    (hrun : θ.ended = false → ∃ q, q ≠ .void ∧ Follows (Step token sid) Ends θ.prog q ∧
      LogOk token sid q θ.log ∧ (q.Holds → sid ∈ θ.locks ∧ ∀ j, ¬ Paired P j))
    (hend : θ.ended = true → ∃ r, θ.prog = .ret r) :
    Inv token sid db₀ P' ∧ Outcome P P' := by
  have hpaired : ∀ j, Paired P' j ↔ Paired P j := by
    intro j
    unfold Paired
    rw [htx]
    by_cases hj : j = i
    · rw [hj, Function.update_self]
      constructor
      · rintro ⟨log, locks, d, heq⟩
        exact absurd (Option.some.inj heq) (hold log locks d)
      · rintro ⟨log, locks, d, heq⟩
        exact absurd heq (hnew log locks d)
    · rw [Function.update_of_ne hj]
  refine ⟨⟨?_, ?_, ?_, ?_, ?_, ?_, ?_⟩, ⟨fun j => (hpaired j).mpr, fun _ => hq.beacon,
    "", "", fun id => .inl (hq.beacon id)⟩⟩
  · unfold Fine
    rw [hq.sessions]
    exact h.fine
  · intro j θ' hj hended
    have hnone : ∀ q : Stage, (q.Holds → sid ∈ θ'.locks ∧ ∀ j, ¬ Paired P j) →
        q.Holds → sid ∈ θ'.locks ∧ ∀ j, ¬ Paired P' j := fun q hlock hholds =>
      ⟨(hlock hholds).1, fun j hj => (hlock hholds).2 j ((hpaired j).mp hj)⟩
    rw [htx] at hj
    by_cases hji : j = i
    · rw [hji, Function.update_self] at hj
      obtain rfl := Option.some.inj hj
      obtain ⟨q, hv, hfollows, hlog, hlock⟩ := hrun hended
      exact ⟨q, hv, hfollows, hlog, hnone q hlock⟩
    · rw [Function.update_of_ne hji] at hj
      obtain ⟨q, hv, hfollows, hlog, hlock⟩ := h.running j θ' hj hended
      exact ⟨q, hv, hfollows, hlog, hnone q hlock⟩
  · intro j θ' hj hended
    rw [htx] at hj
    by_cases hji : j = i
    · rw [hji, Function.update_self] at hj
      obtain rfl := Option.some.inj hj
      exact hend hended
    · rw [Function.update_of_ne hji] at hj
      exact h.ended j θ' hj hended
  · exact fun j j' hj hj' => h.once j j' ((hpaired j).mp hj) ((hpaired j').mp hj')
  · intro j hj
    rw [hq.sessions]
    exact h.gone j ((hpaired j).mp hj)
  · rw [hq.events]
    exact h.events
  · intro hnone
    obtain ⟨hevents, hbeacon⟩ := h.before fun j hj => hnone j ((hpaired j).mpr hj)
    exact ⟨hq.events.trans hevents, fun id => (hq.beacon id).trans (hbeacon id)⟩

theorem changed_of_sessions {db db' : Database} (h : db'.pairingSessions = db.pairingSessions) :
    changed db db' = [] := by
  unfold changed
  rw [h]
  exact changed_self db

/-- A transaction that may yet commit sees no second session with the token. -/
theorem LogOk.fine {q : Stage} {log : List (Database → Database)} {db : Database}
    (h : LogOk token sid q log) (hv : q ≠ .void) (hd : q ≠ .doomed) (hf : Fine token sid db) :
    Fine token sid (replay log db) := by
  cases q with
  | free =>
    rw [h db]
    exact hf
  | held m => exact (h db).fine hf
  | doomed => exact absurd rfl hd
  | void => exact absurd rfl hv

theorem LogOk.free {q : Stage} {log : List (Database → Database)} (h : LogOk token sid q log)
    (hv : q ≠ .void) (hd : q ≠ .doomed) (hq : ¬ q.Holds) (db : Database) : replay log db = db := by
  cases q with
  | free => exact h db
  | held m => exact absurd trivial hq
  | doomed => exact absurd rfl hd
  | void => exact absurd rfl hv

/-- **Whoever takes the lock** takes it at a session that is still there, so that no pairing has
been committed. -/
theorem Inv.call (h : Inv token sid db₀ P) {i : ℕ} {log : List (Database → Database)}
    {locks : List String} {u : TxWorld → TxWorld} {k : TxWorld → Prog TxWorld Err (Option String)}
    {ended : Bool} (hi : P.tx i = some ⟨log, locks, .act u k, ended⟩)
    (hw : P'.world = (u ⟨P.world, log⟩).base)
    (htx : P'.tx = Function.update P.tx i (some ⟨(u ⟨P.world, log⟩).log, locks ++
      (changed (replay log P.world.db) (u ⟨P.world, log⟩).view).filter
        (· ∉ changed P.world.db (u ⟨P.world, log⟩).base.db), k ⟨P.world, log⟩, ended⟩)) :
    Inv token sid db₀ P' ∧ Outcome P P' := by
  have hlive : ended = false := by
    cases ended with
    | false => rfl
    | true =>
      obtain ⟨r, hr⟩ := h.ended i _ hi rfl
      cases hr
  subst hlive
  obtain ⟨q, hv, hfollows, hlog, hlock⟩ := h.running i _ hi rfl
  obtain ⟨q', hstep, hk⟩ := hfollows ⟨P.world, log⟩
  have hnew : ∀ log' locks' d, P.tx i ≠ some ⟨log', locks', .ret (.ok (some d)), true⟩ := by
    intro log' locks' d heq
    rw [hi] at heq
    cases heq
  have hold : ∀ log' locks' d, (⟨(u ⟨P.world, log⟩).log, locks ++
      (changed (replay log P.world.db) (u ⟨P.world, log⟩).view).filter
        (· ∉ changed P.world.db (u ⟨P.world, log⟩).base.db), k ⟨P.world, log⟩, false⟩ :
          Tx (Option String)) ≠ ⟨log', locks', .ret (.ok (some d)), true⟩ := by
    intro log' locks' d heq
    have hended := congrArg Tx.ended heq
    cases hended
  cases hstep with
  | void hd hbad =>
    rcases hbad with hbad | hbad
    · exact absurd hbad hv
    · exact absurd (hlog.fine hv hd h.fine) hbad
  | doomed _ hquiet =>
    refine h.update hnew hold htx (by rw [hw]; exact hquiet) (fun _ => ?_) fun hend => by cases hend
    exact ⟨.doomed, by simp, hk, trivial, fun hholds => absurd hholds id⟩
  | regular hq hq' hquiet hnext htakes =>
    refine h.update hnew hold htx (by rw [hw]; exact hquiet) (fun _ => ?_) fun hend => by cases hend
    refine ⟨q', hq'.1, hk, hnext hlog, fun hholds => ?_⟩
    by_cases hheld : q.Holds
    · exact ⟨List.mem_append_left _ (hlock hheld).1, (hlock hheld).2⟩
    have hmem := htakes hholds hheld
    constructor
    · refine List.mem_append_right _ (List.mem_filter.mpr ⟨hmem, ?_⟩)
      rw [changed_of_sessions hquiet.sessions]
      simp
    · intro j hj
      obtain ⟨s, hs, hsid⟩ := List.mem_map.mp hmem
      have hrow := (List.mem_filter.mp hs).1
      have hview : (⟨P.world, log⟩ : TxWorld).view = P.world.db :=
        hlog.free hq.1 hq.2 hheld P.world.db
      rw [hview] at hrow
      exact Table.find_eq_none.mp (h.gone j hj) s hrow hsid

/-- A transaction that has paired the device commits. -/
theorem Inv.pair (h : Inv token sid db₀ P) (hexcl : P.Exclusive) {i : ℕ}
    {log : List (Database → Database)} {locks : List String} {m : Marks} {d : String}
    (hi : P.tx i = some ⟨log, locks, .ret (.ok (some d)), false⟩)
    (hlog : LogOk token sid (.held m) log) (hgone : m.gone = true) (hevents : m.events ≤ 1)
    (hlock : sid ∈ locks) (hnone : ∀ j, ¬ Paired P j)
    (hw : P'.world = { P.world with db := replay log P.world.db })
    (htx : P'.tx = Function.update P.tx i (some ⟨[], [], .ret (.ok (some d)), true⟩)) :
    Inv token sid db₀ P' ∧ Outcome P P' := by
  have hdone := hlog P.world.db
  have hself : Paired P' i := ⟨[], [], d, by rw [htx, Function.update_self]⟩
  have honly : ∀ j, Paired P' j → j = i := by
    intro j hj
    by_contra hne
    refine hnone j ?_
    unfold Paired at hj
    rw [htx, Function.update_of_ne hne] at hj
    exact hj
  refine ⟨⟨?_, ?_, ?_, ?_, ?_, ?_, ?_⟩, ⟨fun j hj => absurd hj (hnone j),
    fun ⟨j, hj⟩ => absurd hj (hnone j), ?_⟩⟩
  · rw [hw]
    exact hdone.fine h.fine
  · intro j θ hj hended
    by_cases hji : j = i
    · rw [hji, htx, Function.update_self] at hj
      obtain rfl := Option.some.inj hj
      cases hended
    · rw [htx, Function.update_of_ne hji] at hj
      obtain ⟨q, hv, hfollows, hq, hlock'⟩ := h.running j θ hj hended
      refine ⟨q, hv, hfollows, hq, fun hholds => ?_⟩
      exact absurd (hexcl j i θ _ sid hj hi (hlock' hholds).1 hlock) hji
  · intro j θ hj hended
    by_cases hji : j = i
    · rw [hji, htx, Function.update_self] at hj
      obtain rfl := Option.some.inj hj
      exact ⟨_, rfl⟩
    · rw [htx, Function.update_of_ne hji] at hj
      exact h.ended j θ hj hended
  · intro j j' hj hj'
    rw [honly j hj, honly j' hj']
  · intro j _
    rw [hw]
    exact hdone.gone hgone
  · have hcount := hdone.events
    rw [(h.before hnone).1] at hcount
    rw [hw]
    exact hcount.trans (Nat.add_le_add_left hevents _)
  · intro hnone'
    exact absurd hself (hnone' i)
  · rcases hb : m.beacon with _ | ⟨d₀, b⟩
    · refine ⟨"", "", fun id => .inl ?_⟩
      rcases hdone.beacon id with heq | ⟨b, hm, -⟩
      · rw [hw]
        exact heq
      · rw [hb] at hm
        cases hm
    · refine ⟨d₀, b, fun id => ?_⟩
      rw [hw]
      rcases hdone.beacon id with heq | ⟨b', hm, heq⟩
      · exact .inl heq
      · rw [hb] at hm
        cases hm
        exact .inr ⟨rfl, heq⟩

/-- A transaction ends without having paired the device. -/
theorem Inv.close (h : Inv token sid db₀ P) {i : ℕ} {θ : Tx (Option String)}
    {r : Except Err (Option String)} (hi : P.tx i = some θ) (hended : θ.ended = false)
    (hr : ∀ d, r ≠ .ok (some d)) (hw : P'.world.db = P.world.db)
    (htx : P'.tx = Function.update P.tx i (some ⟨[], [], .ret r, true⟩)) :
    Inv token sid db₀ P' ∧ Outcome P P' := by
  refine h.update (fun log locks d heq => ?_) (fun log locks d heq => ?_) htx
    (by rw [hw]; exact .refl _) (fun hend => by cases hend) fun _ => ⟨r, rfl⟩
  · rw [hi] at heq
    obtain rfl := Option.some.inj heq
    cases hended
  · cases heq
    exact hr d rfl

/-- **What a move preserves.** -/
theorem Inv.step {m : Move ConfirmPairingDto} (h : Inv token sid db₀ P) (hexcl : P.Exclusive)
    (hm : Pool.Moves confirmSession P m P') (htoken : ∀ dto, m = .start dto → dto.token = token) :
    Inv token sid db₀ P' ∧ Outcome P P' := by
  cases hm with
  | @start dto i _ hi hw htx =>
    refine h.update (fun log locks d heq => ?_) (fun log locks d heq => ?_) htx
      (by rw [hw]; exact .refl _) (fun _ => ?_) fun hend => by cases hend
    · rw [hi] at heq
      cases heq
    · cases heq
    · exact ⟨.free, by simp, follows_confirmSession dto (htoken dto rfl), fun _ => rfl,
        fun hholds => absurd hholds id⟩
  | call hi _ hw htx => exact h.call hi hw htx
  | @commit i log locks a _ hi hw htx =>
    obtain ⟨q, hv, hends, hlog, hlock⟩ := h.running i _ hi rfl
    cases q with
    | free =>
      rcases hends with hnone | ⟨e, he⟩
      · refine h.close hi rfl (fun d hd => ?_) (by rw [hw]; exact hlog _) htx
        rw [hnone] at hd
        cases hd
      · cases he
    | held m =>
      rcases hends with ⟨e, he⟩ | ⟨hgone, hevents, d, hd⟩
      · cases he
      · cases hd
        exact h.pair hexcl hi hlog hgone hevents (hlock trivial).1 (hlock trivial).2 hw htx
    | doomed =>
      obtain ⟨e, he⟩ := hends
      cases he
    | void => exact absurd rfl hv
  | rollback hi hw htx => exact h.close hi rfl (by simp) (by rw [hw]) htx
  | tick hw htx =>
    have hdb : P'.world.db = P.world.db := by rw [hw]
    have hpaired : Paired P' = Paired P := by
      unfold Paired
      rw [htx]
    refine ⟨?_, fun i hi => ?_, fun _ _ => by rw [hdb], "", "", fun _ => .inl (by rw [hdb])⟩
    · constructor <;> simp only [hdb, hpaired, htx]
      exacts [h.fine, h.running, h.ended, h.once, h.gone, h.events, h.before]
    · rw [hpaired]
      exact hi
  | idle => exact ⟨h, fun _ hi => hi, fun _ _ => rfl, "", "", fun _ => .inl rfl⟩

/-- The pool after the first `n` moves. -/
def run (w : World) (moves : ℕ → Move ConfirmPairingDto) (n : ℕ) : Confirmations :=
  (Transactions.Pool.idle w).after confirmSession moves n

theorem Inv.idle {w : World} (h : Fine token sid w.db) : Inv token sid w.db (Pool.idle w) := by
  have hnone : ∀ i, ¬ Paired (Pool.idle w) i := by
    rintro i ⟨log, locks, d, hi⟩
    cases hi
  refine ⟨h, fun i θ hi => ?_, fun i θ hi => ?_, fun i _ hi => absurd hi (hnone i),
    fun i hi => absurd hi (hnone i), Nat.le_succ _, fun _ => ⟨rfl, fun _ => rfl⟩⟩
  · cases hi
  · cases hi

variable {w : World} {moves : ℕ → Move ConfirmPairingDto}

theorem Inv.run (h : Fine token sid w.db)
    (hmoves : ∀ n dto, moves n = .start dto → dto.token = token) (n : ℕ) :
    Inv token sid w.db (Consumption.run w moves n) := by
  induction n with
  | zero => exact .idle h
  | succ n ih =>
    exact (ih.step (Pool.exclusive_after _ w moves n) (Pool.exec_moves _ _ _) (hmoves n)).1

theorem outcome_run (h : Fine token sid w.db)
    (hmoves : ∀ n dto, moves n = .start dto → dto.token = token) (n : ℕ) :
    Outcome (run w moves n) (run w moves (n + 1)) :=
  ((Inv.run h hmoves n).step (Pool.exclusive_after _ w moves n) (Pool.exec_moves _ _ _)
    (hmoves n)).2

/-- After a pairing the beacon tokens stay. -/
theorem beacon_after (h : Fine token sid w.db)
    (hmoves : ∀ n dto, moves n = .start dto → dto.token = token) {m i : ℕ}
    (hi : Paired (run w moves m) i) (n : ℕ) : Paired (run w moves (m + n)) i ∧
    ∀ id, beaconToken (run w moves (m + n)).world.db id =
      beaconToken (run w moves m).world.db id := by
  induction n with
  | zero => exact ⟨hi, fun _ => rfl⟩
  | succ n ih =>
    have hout := outcome_run h hmoves (m + n)
    exact ⟨hout.lasting i ih.1, fun id => (hout.after ⟨i, ih.1⟩ id).trans (ih.2 id)⟩

/-- Over the whole run one device gets one beacon token. -/
theorem one_beacon (h : Fine token sid w.db)
    (hmoves : ∀ n dto, moves n = .start dto → dto.token = token) :
    ∃ d b, ∀ n id, beaconToken (run w moves n).world.db id = beaconToken w.db id ∨
      id = d ∧ beaconToken (run w moves n).world.db id = some b := by
  have hbefore : ∀ n, (∀ i, ¬ Paired (run w moves n) i) →
      ∀ id, beaconToken (run w moves n).world.db id = beaconToken w.db id :=
    fun n hnone => ((Inv.run h hmoves n).before hnone).2
  by_cases hex : ∃ n, ∃ i, Paired (run w moves n) i
  · classical
    -- the first move after which somebody has paired the device
    obtain ⟨i, hi⟩ := Nat.find_spec hex
    have hmin : ∀ n < Nat.find hex, ∀ i, ¬ Paired (run w moves n) i := fun n hn i hi =>
      Nat.find_min hex hn ⟨i, hi⟩
    rcases hfirst : Nat.find hex with _ | k
    · rw [hfirst] at hi
      obtain ⟨log, locks, d, hi⟩ := hi
      cases hi
    rw [hfirst] at hi hmin
    have hk := hbefore k (hmin k (Nat.lt_succ_self k))
    obtain ⟨d, b, hsingle⟩ := (outcome_run h hmoves k).single
    refine ⟨d, b, fun n id => ?_⟩
    rcases Nat.lt_or_ge n (k + 1) with hn | hn
    · exact .inl (hbefore n (hmin n hn) id)
    · obtain ⟨m, rfl⟩ := Nat.exists_eq_add_of_le hn
      rw [(beacon_after h hmoves hi m).2 id, ← hk id]
      exact hsingle id
  · refine ⟨"", "", fun n id => .inl (hbefore n (fun i hi => hex ⟨n, i, hi⟩) id)⟩

/-- **A token is consumed at most once.** However many confirmations with one token run, and however
their calls are interleaved, at most one commits a pairing, at most one event is recorded and one
device gets one beacon token. -/
theorem paired_once {w : World} {token : String} {moves : ℕ → Move ConfirmPairingDto}
    (hunique : ∀ s ∈ w.db.pairingSessions.rows, ∀ s' ∈ w.db.pairingSessions.rows,
      s.token = token → s'.token = token → s = s')
    (hmoves : ∀ n dto, moves n = .start dto → dto.token = token) :
    (∀ n i j, Paired (run w moves n) i → Paired (run w moves n) j → i = j) ∧
    (∀ n, pairedEvents (run w moves n).world.db ≤ pairedEvents w.db + 1) ∧
    ∃ d b, ∀ n id, beaconToken (run w moves n).world.db id = beaconToken w.db id ∨
      id = d ∧ beaconToken (run w moves n).world.db id = some b := by
  obtain ⟨sid, hfine⟩ : ∃ sid, Fine token sid w.db := by
    by_cases hex : ∃ s ∈ w.db.pairingSessions.rows, s.token = token
    · obtain ⟨s, hs, ht⟩ := hex
      exact ⟨s.id, fun s' hs' ht' => congrArg _ (hunique s' hs' s hs ht' ht)⟩
    · exact ⟨"", fun s hs ht => absurd ⟨s, hs, ht⟩ hex⟩
  exact ⟨fun n => (Inv.run hfine hmoves n).once, fun n => (Inv.run hfine hmoves n).events,
    one_beacon hfine hmoves⟩

/-- Two probes both find the session waiting, and one of them pairs the tablet. -/
def twoProbes : List (Move ConfirmPairingDto) :=
  ([.start probe, .start probe, .call 0, .call 1, .call 0, .call 1, .call 0, .call 1] :
    List (Move ConfirmPairingDto)) ++
  (List.replicate 9 (.call 0) : List (Move ConfirmPairingDto)) ++
  ([.finish 0] : List (Move ConfirmPairingDto)) ++
  (List.replicate 4 (.call 1) : List (Move ConfirmPairingDto)) ++
  ([.finish 1] : List (Move ConfirmPairingDto))

theorem paired_once_twoProbes :
    pairedEvents (run (.fresh waitingTablet 1000) (twoProbes.getD · (.tick 1000)) 23).world.db = 1 ∧
    (∀ n, pairedEvents
      (run (.fresh waitingTablet 1000) (twoProbes.getD · (.tick 1000)) n).world.db ≤
      pairedEvents waitingTablet + 1) := by
  refine ⟨by decide +kernel, (@paired_once (.fresh waitingTablet 1000) "token"
    (twoProbes.getD · (.tick 1000)) (by decide) fun n dto hn => ?_).2.1⟩
  have hall : ∀ m ∈ twoProbes, ∀ dto, m = .start dto → dto = probe := by
    simp [twoProbes, List.replicate]
  rcases hget : twoProbes[n]? with _ | m
  · rw [List.getD_eq_getElem?_getD, hget] at hn
    cases hn
  · rw [List.getD_eq_getElem?_getD, hget] at hn
    rw [hall m (List.mem_of_getElem? hget) dto hn]
    rfl

end Run

end GuardTime.Pairing.Consumption
