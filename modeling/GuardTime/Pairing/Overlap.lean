import Mathlib.Tactic
import GuardTime.Calls
import GuardTime.Lib.Faults
import GuardTime.Transactions
import GuardTime.Pairing.Run
import GuardTime.Pairing.Consumption

/-! # One live session

Any number of starts, cancellations and confirmations for one device, one repository call at a time.
A start deletes the waiting sessions and then creates its own, outside of any transaction: two
starts that overlap leave two sessions (`two_live`).

* `Phase`, `Step`: how far a request has come, and what its calls do to the sessions;
* `goes_serve`: every request goes through the phases. -/

namespace GuardTime.Pairing.Overlap

open GuardTime.Lib.Program GuardTime.Lib.Keyed GuardTime.Lib.Js GuardTime.Schema GuardTime.Server
open GuardTime.Lib.Interleave (Calls Follows Rest Tracks)
open GuardTime.Prisma GuardTime.Services GuardTime.Services.Pairing GuardTime.Pairing.Effects
open GuardTime.Pairing.Run GuardTime.Transactions
open GuardTime.Pairing.Consumption (replay_concat run_increment mem_changed_withAttempt
  changed_of_sessions)

/-! ### Requests -/

/-- What is asked for the device. -/
inductive Request where
  | start (parentId : String)
  | cancel (parentId : String)
  | confirm (dto : ConfirmPairingDto)

/-- What comes back; a confirmation names the device it has paired. -/
inductive Reply where
  | started (r : StartPairingResponse)
  | cancelled
  | confirmed (dto : ConfirmPairingDto) (deviceId : Option String)

/-- The requests side by side. -/
abbrev Requests : Type := Transactions.Pool Reply

section Requests
variable (env : Env) (deviceId : String)

/-- A request, call by call; a confirmation is its transaction. -/
def serve : Request → Prog TxWorld Err Reply
  | .start parentId => outside do
    let r ← startPairing env deviceId parentId
    pure (.started r)
  | .cancel parentId => outside do
    cancelPairing deviceId parentId
    pure .cancelled
  | .confirm dto => do
    let paired ← confirmSession dto
    pure (.confirmed dto paired)

/-- What `startPairing` does after it has deleted the waiting sessions. -/
def issue (parentId : String) : Api Reply := do
  let token ← randomUUID
  let now ← newDate
  let expiresAt := now + pairTokenTtlMs
  let session ← Prisma.create .pairingSession fun id now =>
    { id, deviceId, parentId, token, status := .waiting, expiresAt, attempts := 0,
      createdAt := now }
  let _ ← setDevicePairStatus deviceId .waiting
  Audit.log { userId := some parentId, action := "pairing.start", entity := "device",
              entityId := some deviceId }
  pure (.started
    { sessionId := session.id
      dnsServer := env.dnsServerHost
      token
      expiresAt := toISOString expiresAt
      qrPayload := stringify (.obj
        [("v", .num 1), ("deviceId", .str deviceId), ("token", .str token),
         ("dnsServer", .str env.dnsServerHost),
         ("probeHost", .str (pairHostnameFor env token))]) })

theorem serve_start (parentId : String) : serve env deviceId (.start parentId) = outside (do
    let _ ← findOwned deviceId parentId
    deleteWaitingSessionsForDevice deviceId
    issue env deviceId parentId) := by
  unfold serve startPairing issue
  simp only [Prog.bind_assoc]
  rfl

/-- The requests after the first `n` moves. -/
def run (w : World) (moves : ℕ → Move Request) (n : ℕ) : Requests :=
  (Pool.idle w).after (serve env deviceId) moves n

end Requests

/-! ### Sessions of a run -/

/-- At most one session of the device is waiting. -/
def OneWaiting (deviceId : String) (t : Table PairingSession.id) : Prop :=
  ∀ s ∈ t.rows, ∀ s' ∈ t.rows, s.deviceId = deviceId → s.status = .waiting →
    s'.deviceId = deviceId → s'.status = .waiting → s = s'

instance (deviceId : String) (t : Table PairingSession.id) : Decidable (OneWaiting deviceId t) := by
  unfold OneWaiting
  infer_instance

/-- The sessions of the committed state. -/
def sessions (P : Requests) : Table PairingSession.id := P.world.db.pairingSessions

/-- Start `i` has returned. -/
def Returned (P : Requests) (i : ℕ) (r : StartPairingResponse) : Prop :=
  ∃ log locks ended, P.tx i = some ⟨log, locks, .ret (.ok (.started r)), ended⟩

/-- Confirmation `k` has committed a pairing. -/
def Paired (P : Requests) (k : ℕ) (dto : ConfirmPairingDto) : Prop :=
  ∃ log locks d, P.tx k = some ⟨log, locks, .ret (.ok (.confirmed dto (some d))), true⟩

/-- A start with this rest is between its deletion and its return. -/
def Issuing (env : Env) (deviceId : String) (p : Prog TxWorld Err Reply) : Prop :=
  (∃ parentId, Rest (outside (issue env deviceId parentId)) p) ∧ ∀ r, p ≠ .ret r

/-- A session was created. -/
def Creates (P P' : Requests) : Prop :=
  ∃ s ∈ (sessions P').rows, (sessions P).find s.id = none

/-- **Nobody creates a session while another start is between its deletion and its return.** -/
def Apart (env : Env) (deviceId : String) (w : World) (moves : ℕ → Move Request) : Prop :=
  ∀ n i, moves n = .call i →
    Creates (run env deviceId w moves n) (run env deviceId w moves (n + 1)) →
    ∀ j θ, j ≠ i → (run env deviceId w moves n).tx j = some θ → ¬ Issuing env deviceId θ.prog

/-! ### Two starts overlap -/

/-- Both starts have deleted the waiting sessions before either creates its own. -/
def twoStarts : List (Move Request) :=
  ([.start (.start "amal"), .start (.start "amal"), .call 0, .call 1, .call 0, .call 1] :
    List (Move Request)) ++
  (List.replicate 3 (.call 0) : List (Move Request)) ++
  (List.replicate 3 (.call 1) : List (Move Request))

theorem two_live : ¬ ∀ (env : Env) (deviceId : String) (w : World) (moves : ℕ → Move Request),
    Supply w → OneWaiting deviceId w.db.pairingSessions →
      ∀ n, OneWaiting deviceId (sessions (run env deviceId w moves n)) := by
  intro h
  have hone := h .plain "tablet" newTablet (twoStarts.getD · (.tick 0))
    (supply_household _ (by simp) 0 (by decide)) (by decide) 12
  exact absurd hone (by decide +kernel)

/-! ### Phases -/

/-- How far a request has come.

* `early`: a start before its deletion;
* `cleared`, `drawn`, `opened`: it has deleted the sessions, drawn its token, created its session;
* `cancelling`: a cancellation;
* `reading`, `found`, `held`: a confirmation that has found the session, and locked it;
* `doomed`: it will be rolled back. -/
inductive Phase where
  | early
  | cleared
  | drawn (token : String)
  | opened (token : String)
  | cancelling
  | reading
  | found (id token : String)
  | held (id token : String)
  | doomed

/-- Between the deletion and the return of a start. -/
def Phase.Between : Phase → Prop
  | .cleared | .drawn _ | .opened _ => True
  | _ => False

/-- All calls go past the transaction. -/
def Phase.Outside : Phase → Prop
  | .early | .cleared | .drawn _ | .opened _ | .cancelling => True
  | _ => False

/-- The token a start has drawn. -/
def Phase.token : Phase → Option String
  | .drawn t | .opened t => some t
  | _ => none

/-- The identifier of a session a confirmation has found. -/
def Phase.sessionId : Phase → Option String
  | .found id _ | .held id _ => some id
  | _ => none

/-! ### What calls do to the sessions -/

/-- Rows may be gone, and attempts counted. -/
def Thin (t t' : Table PairingSession.id) : Prop :=
  ∀ s ∈ t'.rows, ∃ s₀ ∈ t.rows, s.id = s₀.id ∧ s.token = s₀.token ∧ s.deviceId = s₀.deviceId ∧
    s.status = s₀.status

theorem Thin.refl (t : Table PairingSession.id) :
    Thin t t := fun s hs => ⟨s, hs, rfl, rfl, rfl, rfl⟩

theorem Thin.trans {t t' t'' : Table PairingSession.id} (h : Thin t t') (h' : Thin t' t'') :
    Thin t t'' := by
  intro s hs
  obtain ⟨s₁, hs₁, hid₁, htoken₁, hdevice₁, hstatus₁⟩ := h' s hs
  obtain ⟨s₀, hs₀, hid, htoken, hdevice, hstatus⟩ := h s₁ hs₁
  exact ⟨s₀, hs₀, hid₁.trans hid, htoken₁.trans htoken, hdevice₁.trans hdevice,
    hstatus₁.trans hstatus⟩

/-- Only the row `id` may be gone. -/
structure Only (id : String) (t t' : Table PairingSession.id) : Prop where
  thin : Thin t t'
  others : ∀ s ∈ t.rows, s.id ≠ id → s ∈ t'.rows

theorem Only.refl (id : String) (t : Table PairingSession.id) : Only id t t :=
  ⟨.refl t, fun _ hs _ => hs⟩

theorem Only.trans {id : String} {t t' t'' : Table PairingSession.id} (h : Only id t t')
    (h' : Only id t' t'') : Only id t t'' :=
  ⟨h.thin.trans h'.thin, fun s hs hid => h'.others s (h.others s hs hid) hid⟩

/-- The identifiers still to be drawn stay. -/
structure Grows (w w' : World) : Prop where
  uuids : w'.uuids = w.uuids
  calls : w.calls ≤ w'.calls

/-- The sessions stay, and the identifiers still to be drawn. -/
structure Still (w w' : World) : Prop extends Grows w w' where
  sessions : w'.db.pairingSessions = w.db.pairingSessions

/-- A new waiting session of the device. -/
structure Fresh (deviceId token : String) (w : World) (s : PairingSession) : Prop where
  id : s.id = w.uuids w.calls 0
  token : s.token = token
  device : s.deviceId = deviceId
  status : s.status = .waiting

section Steps
variable (deviceId : String)

/-- A call of a start or a cancellation. -/
inductive Plain : Phase → World → World → Phase → Prop
  | still {q : Phase} {w w' : World} (h : Still w w') : Plain q w w' q
  | clear {q q' : Phase} {w : World}
    (hq : q = .early ∧ q' = .cleared ∨ q = .cancelling ∧ q' = .cancelling) :
    Plain q w (World.afterCall w (cleared deviceId w.db)) q'
  | draw {w : World} : Plain .cleared w { w with calls := w.calls + 1 } (.drawn (w.uuids w.calls 0))
  | create {t : String} {w : World} {s : PairingSession} {rows : Table PairingSession.id}
    (hs : Fresh deviceId t w s) (hins : w.db.pairingSessions.insert s = some rows) :
    Plain (.drawn t) w (World.afterCall w { w.db with pairingSessions := rows }) (.opened t)

/-- The sessions of a database the writes were applied to. -/
def logged (log : List (Database → Database)) (db : Database) : Table PairingSession.id :=
  (replay log db).pairingSessions

/-- A call of a request. -/
inductive Step : Phase → TxWorld → TxWorld → Phase → Prop
  | plain {q q' : Phase} {s : TxWorld} {w : World} (hq : q.Outside) (hq' : q'.Outside)
    (h : Plain deviceId q s.base w q') : Step q s { s with base := w } q'
  | read {q : Phase} {s s' : TxWorld} (hq : q = .reading ∨ ∃ id t, q = .found id t)
    (hbase : Still s.base s'.base) (hlog : ∀ db, logged s'.log db = logged s.log db) : Step q s s' q
  | find {s s' : TxWorld} {r : PairingSession} (hbase : Still s.base s'.base)
    (hlog : ∀ db, logged s'.log db = logged s.log db) (hr : r ∈ s.view.pairingSessions.rows) :
    Step .reading s s' (.found r.id r.token)
  | lock {id t : String} {s s' : TxWorld} (hbase : Still s.base s'.base)
    (hlog : ∀ db, Only id (logged s.log db) (logged s'.log db))
    (hlock : id ∈ changed s.view s'.view) : Step (.found id t) s s' (.held id t)
  | held {id t : String} {s s' : TxWorld} (hbase : Still s.base s'.base)
    (hlog : ∀ db, Only id (logged s.log db) (logged s'.log db)) : Step (.held id t) s s'
    (.held id t)
  | doom {q : Phase} {s s' : TxWorld} (hq : ¬ q.Outside) (hbase : Still s.base s'.base) :
    Step q s s' .doomed

/-- What the writes of a transaction would do to any sessions. -/
def LogOk : Phase → List (Database → Database) → Prop
  | .held id _, log => ∀ db : Database, Only id db.pairingSessions (logged log db)
  | .doomed, _ => True
  | _, log => ∀ db : Database, logged log db = db.pairingSessions

/-- How a request ends. -/
def Ends : Phase → Except Err Reply → Prop
  | .opened t, r => (∃ e, r = .error e) ∨ ∃ response, r = .ok (.started response) ∧
    response.token = t
  | .cancelling, r => (∃ e, r = .error e) ∨ r = .ok .cancelled
  | .reading, r | .found _ _, r => (∃ e, r = .error e) ∨ ∃ dto, r = .ok (.confirmed dto none)
  | .held _ t, r => (∃ e, r = .error e) ∨ ∃ dto d, r = .ok (.confirmed dto d) ∧ dto.token = t
  | _, r => ∃ e, r = .error e

/-- What is left of a start after its deletion. -/
def Left (env : Env) (q : Phase) (p : Prog TxWorld Err Reply) : Prop :=
  q.Between → ∃ parentId, Rest (outside (issue env deviceId parentId)) p

end Steps

/-! ### Starts and cancellations -/

section Outside
variable {env : Env} {deviceId : String}

theorem Grows.refl (w : World) : Grows w w := ⟨rfl, le_rfl⟩

theorem Grows.trans {w w' w'' : World} (h : Grows w w') (h' : Grows w' w'') : Grows w w'' :=
  ⟨h'.uuids.trans h.uuids, h.calls.trans h'.calls⟩

theorem Still.refl (w : World) : Still w w := ⟨.refl w, rfl⟩

theorem Still.trans {w w' w'' : World} (h : Still w w') (h' : Still w' w'') : Still w w'' :=
  ⟨h.toGrows.trans h'.toGrows, h'.sessions.trans h.sessions⟩

theorem Still.afterCall {w : World} {db : Database}
    (h : db.pairingSessions = w.db.pairingSessions) :
    Still w (World.afterCall w db) := ⟨⟨rfl, Nat.le_succ _⟩, h⟩

theorem idle_still : Idle Still := fun _ => .afterCall rfl

theorem still_setDevicePairStatus (id : String) (status : PairStatus) :
    Calls Still (setDevicePairStatus id status) :=
  have hdevices : Ignores .device Still := fun _ _ => .afterCall rfl
  hdevices.update idle_still _ _ _

theorem still_log (entry : Audit.Entry) : Calls Still (Audit.log entry) :=
  have hlogs : Ignores .auditLog Still := fun _ _ => .afterCall rfl
  .bind (hlogs.create idle_still _) fun _ => .pure _

theorem still_findOwned (id parentId : String) : Calls Still (findOwned id parentId) :=
  .bind (calls_query idle_still _) fun _ => .bind (.orThrow _ _) fun _ =>
    .bind (.require _ _) fun _ => .pure _

/-- A call of a start or a cancellation, as the single world sees it. -/
def PlainCall (deviceId : String) (u : World → World) (q : Phase) (w : World) (q' : Phase) : Prop :=
  (q.Outside ∧ q'.Outside) ∧ Plain deviceId q w (u w) q'

theorem follows_still {α : Type} {p : Api α} (hp : Calls Still p) {q : Phase} (hq : q.Outside) :
    Follows (PlainCall deviceId) (fun q' _ => q' = q) p q := by
  refine Follows.of_calls hp rfl ?_
  rintro u q' w rfl hu
  exact ⟨q', ⟨⟨hq, hq⟩, .still (hu w)⟩, rfl⟩

/-- **A start draws its token and creates its session.** -/
theorem follows_issue (parentId : String) :
    Follows (PlainCall deviceId) Ends (issue env deviceId parentId) .cleared := by
  unfold issue
  have hdraw : Follows (PlainCall deviceId) (fun q r => ∃ t, r = .ok t ∧ q = .drawn t) randomUUID
      .cleared := .call fun w => ⟨.drawn _, ⟨⟨trivial, trivial⟩, .draw⟩, _, rfl, rfl⟩
  refine hdraw.bind ?_ ?_
  swap
  · rintro q e ⟨t, ht, -⟩
    cases ht
  rintro q token ⟨t, ht, rfl⟩
  cases ht
  refine (follows_still (q := .drawn token) (calls_newDate .refl) trivial).bind ?_ ?_
  swap
  · rintro q e rfl
    exact ⟨e, rfl⟩
  rintro q now rfl
  have hcreate : Follows (PlainCall deviceId) (fun q (r : Except Err PairingSession) =>
      (q = .drawn token ∧ ∃ e, r = .error e) ∨ q = .opened token)
      (Prisma.create .pairingSession fun id now' =>
        { id, deviceId, parentId, token, status := .waiting, expiresAt := now + pairTokenTtlMs,
          attempts := 0, createdAt := now' }) (.drawn token) := by
    refine follows_create (fun u w e hu => ?_) fun u w t hins hu => ?_
    · refine ⟨.drawn token, ⟨⟨trivial, trivial⟩, ?_⟩, .inl ⟨rfl, e, rfl⟩⟩
      rw [hu]
      exact .still (.afterCall rfl)
    · refine ⟨.opened token, ⟨⟨trivial, trivial⟩, ?_⟩, .inr rfl⟩
      rw [hu]
      exact .create ⟨rfl, rfl, rfl, rfl⟩ hins
  refine hcreate.bind ?_ ?_
  swap
  · rintro q e (⟨rfl, -⟩ | rfl)
    · exact ⟨e, rfl⟩
    · exact .inl ⟨e, rfl⟩
  rintro q session (⟨-, e, he⟩ | rfl)
  · cases he
  refine (follows_still (q := .opened token) (still_setDevicePairStatus deviceId .waiting)
    trivial).bind ?_ ?_
  swap
  · rintro q e rfl
    exact .inl ⟨e, rfl⟩
  rintro q d rfl
  refine (follows_still (q := .opened token) (still_log _) trivial).bind ?_ ?_
  · rintro q u rfl
    exact .inr ⟨_, rfl, rfl⟩
  · rintro q e rfl
    exact .inl ⟨e, rfl⟩

/-- The deletion of the waiting sessions. -/
theorem follows_clear {q q' : Phase}
    (hq : q = .early ∧ q' = .cleared ∨ q = .cancelling ∧ q' = .cancelling) :
    Follows (PlainCall deviceId) (fun q'' r => q'' = q' ∧ r = .ok ())
      (deleteWaitingSessionsForDevice deviceId) q := by
  refine .call fun w => ⟨q', ⟨?_, .clear hq⟩, rfl, rfl⟩
  rcases hq with ⟨rfl, rfl⟩ | ⟨rfl, rfl⟩
  · exact ⟨trivial, trivial⟩
  · exact ⟨trivial, trivial⟩

theorem follows_cancel (parentId : String) : Follows (PlainCall deviceId) Ends (do
    cancelPairing deviceId parentId
    pure .cancelled) .cancelling := by
  refine Follows.bind (F := fun q _ => q = .cancelling) ?_ ?_ ?_
  · refine (follows_still (q := .cancelling) (still_findOwned deviceId parentId) trivial).bind ?_
      fun _ _ h => h
    rintro q d rfl
    refine (follows_clear (.inr ⟨rfl, rfl⟩)).bind ?_ fun _ _ h => h.1
    rintro q u ⟨rfl, -⟩
    exact follows_still (still_log _) trivial
  · rintro q u rfl
    exact .inr rfl
  · rintro q e rfl
    exact .inl ⟨e, rfl⟩

end Outside

/-! ### Confirmations -/

section Confirm
variable {deviceId : String} {α : Type}

/-- A call that touches the row `id` of the sessions only. -/
structure Locked (id : String) (w w' : World) : Prop extends Grows w w' where
  sessions : Only id w.db.pairingSessions w'.db.pairingSessions

theorem Still.locked {w w' : World} (h : Still w w') (id : String) : Locked id w w' :=
  ⟨h.toGrows, by rw [h.sessions]; exact .refl id _⟩

theorem Locked.refl (id : String) (w : World) : Locked id w w := (Still.refl w).locked id

theorem Locked.trans {id : String} {w w' w'' : World} (h : Locked id w w') (h' : Locked id w' w'') :
    Locked id w w'' := ⟨h.toGrows.trans h'.toGrows, h.sessions.trans h'.sessions⟩

theorem still_of_calls {p : Api α} (hp : Calls Still p) (w : World) : Still w (p.run w).2 :=
  Lib.Faults.Code.rel_run .refl .trans hp w

theorem locked_of_calls {id : String} {p : Api α} (hp : Calls (Locked id) p) (w : World) :
    Locked id w (p.run w).2 := Lib.Faults.Code.rel_run (.refl id) .trans hp w

theorem still_markDevicePaired (id ip : String) (region : Option String) (t : Time) (b : String) :
    Calls Still (markDevicePaired id ip region t b) :=
  have hdevices : Ignores .device Still := fun _ _ => .afterCall rfl
  hdevices.update idle_still _ _ _

theorem still_upsertIpHistory (id ip : String) (t : Time) : Calls Still (upsertIpHistory id ip t) :=
  have hhistory : Ignores .deviceIpHistory Still := fun _ _ => .afterCall rfl
  hhistory.upsert idle_still _ _ _ _

theorem still_recordConnectionEvent (id : String) (type : ConnectionEventType) (ip : Option String)
    (metadata : List (String × Option String)) :
    Calls Still (recordConnectionEvent id type ip metadata) :=
  have hevents : Ignores .deviceConnectionEvent Still := fun _ _ => .afterCall rfl
  hevents.create idle_still _

theorem only_patch {now : Time} {id : String} {t : Table PairingSession.id} :
    Only id t (Model.pairingSession.patch t now id charged charged_id) := by
  constructor
  · intro s hs
    obtain ⟨s₀, hs₀, rfl⟩ := (@Model.mem_patch _ _ _ _ _ _ charged_id _ _).mp hs
    refine ⟨s₀, hs₀, ?_⟩
    split_ifs
    · exact ⟨rfl, rfl, rfl, rfl⟩
    · exact ⟨rfl, rfl, rfl, rfl⟩
  · intro s hs hid
    exact (@Model.mem_patch _ _ _ _ _ _ charged_id _ _).mpr ⟨s, hs, by rw [if_neg hid]⟩

theorem locked_increment (id : String) : Calls (Locked id) (incrementSessionAttempts id) :=
  calls_update (fun w => (idle_still w).locked id) fun _ _ _ => ⟨⟨rfl, Nat.le_succ _⟩, only_patch⟩

theorem locked_delete (id : String) : Calls (Locked id) (Prisma.delete .pairingSession id) := by
  refine .call fun w => ?_
  change Locked id w ((Prisma.delete .pairingSession id).run w).2
  rcases run_deleteSession id w with ⟨e, hrun, -⟩ | hrun
  · rw [hrun]
    exact (idle_still w).locked id
  · rw [hrun]
    refine ⟨⟨rfl, Nat.le_succ _⟩, fun s hs => ?_, fun s hs hid => ?_⟩
    · exact ⟨s, (Table.mem_erase.mp hs).1, rfl, rfl, rfl, rfl⟩
    · exact Table.mem_erase.mpr ⟨hs, by simpa using hid⟩

/-- A call through the transaction's client leaves the committed sessions alone. -/
theorem still_viaTx {id : String} {p : Api α} (hp : Calls (Locked id) p) (s : TxWorld) :
    Still s.base ((viaTx p).run s).2.base := by
  have hgrows := (locked_of_calls hp s.inside).toGrows
  rw [viaTx_base]
  exact ⟨⟨hgrows.uuids, hgrows.calls⟩, rfl⟩

theorem only_viaTx {id : String} {p : Api α} (hp : Calls (Locked id) p) (s : TxWorld)
    (db : Database) : Only id (logged s.log db) (logged ((viaTx p).run s).2.log db) := by
  change Only id _ (replay (s.log ++ [_]) db).pairingSessions
  rw [replay_concat]
  exact (locked_of_calls hp { s.base with db := replay s.log db }).sessions

/-- A call past the transaction. -/
theorem follows_viaPlain {p : Api α} (hp : Calls Still p) {q : Phase} (hq : ¬ q.Outside) :
    Follows (fun u q s => Step deviceId q s (u s)) (fun q' _ => q' = q) (viaPlain p) q := by
  refine .call fun s => ⟨q, ?_, rfl⟩
  have hstill := still_of_calls hp s.base
  cases q with
  | reading => exact .read (.inl rfl) hstill fun _ => rfl
  | found id t => exact .read (.inr ⟨id, t, rfl⟩) hstill fun _ => rfl
  | held id t => exact .held hstill fun _ => .refl id _
  | doomed => exact .doom hq hstill
  | _ => exact absurd trivial hq

/-- A write of a transaction that has locked the session. -/
theorem follows_held {p : Api α} {id t : String} (hp : Calls (Locked id) p) :
    Follows (fun u q s => Step deviceId q s (u s)) (fun q' _ => q' = .held id t) (viaTx p)
      (.held id t) :=
  .call fun s => ⟨_, .held (still_viaTx hp s) (only_viaTx hp s), rfl⟩

/-- The session is looked up by its token. -/
theorem follows_find (dto : ConfirmPairingDto) :
    Follows (fun u q s => Step deviceId q s (u s)) (fun q r => q = .reading ∧ r = .ok none ∨
        ∃ session, r = .ok (some session) ∧ q = .found session.id dto.token)
      (viaTx (Prisma.findUniqueBy .pairingSession fun s => s.token = dto.token)) .reading := by
  refine .call fun s => ?_
  have hread : Calls (Locked "") (Prisma.findUniqueBy .pairingSession fun s => s.token =
    dto.token) :=
    calls_query (fun w => (idle_still w).locked "") _
  have hbase := still_viaTx hread s
  have hlog : ∀ db, logged ((viaTx (Prisma.findUniqueBy .pairingSession fun s =>
      s.token = dto.token)).run s).2.log db = logged s.log db := by
    intro db
    change (replay (s.log ++ [_]) db).pairingSessions = _
    rw [replay_concat]
    rfl
  rcases hfind : s.view.pairingSessions.rows.find? fun s => s.token = dto.token with _ | session
  · exact ⟨.reading, .read (.inl rfl) hbase hlog, .inl ⟨rfl, congrArg Except.ok hfind⟩⟩
  · have htoken : session.token = dto.token := of_decide_eq_true (List.find?_some hfind :)
    refine ⟨.found session.id dto.token, ?_, .inr ⟨session, congrArg Except.ok hfind, rfl⟩⟩
    rw [← htoken]
    exact .find hbase hlog (List.mem_of_find?_eq_some hfind)

/-- The attempt is counted, or the session is gone. -/
theorem follows_increment (id t : String) :
    Follows (fun u q s => Step deviceId q s (u s)) (fun q r => (q = .held id t ∧ ∃ a, r = .ok a) ∨
        q = .doomed ∧ ∃ e, r = .error e)
      (viaTx (incrementSessionAttempts id)) (.found id t) := by
  refine .call fun s => ?_
  have hbase := still_viaTx (locked_increment id) s
  rcases run_increment id s.inside with ⟨-, e, hrun⟩ | ⟨r, hr, hrun⟩
  · exact ⟨.doomed, .doom (fun h => h) hbase, .inr ⟨rfl, e, congrArg Prod.fst hrun⟩⟩
  · refine ⟨.held id t, .lock hbase (only_viaTx (locked_increment id) s) ?_,
      .inl ⟨rfl, _, congrArg Prod.fst hrun⟩⟩
    have hview : ((viaTx (incrementSessionAttempts id)).run s).2.view =
        withAttempt s.base.now id s.view := by
      rw [viaTx_view]
      exact congrArg (fun x => x.2.db) hrun
    change id ∈ changed s.view ((viaTx (incrementSessionAttempts id)).run s).2.view
    rw [hview]
    exact mem_changed_withAttempt hr

/-- A rejection ends in an error. -/
theorem follows_rejectSession (session : PairingSession) (status : PairStatus) (message : String)
    {q : Phase} (hq : ¬ q.Outside) :
    Follows (fun u q s => Step deviceId q s (u s)) (fun q' r => q' = .doomed ∧ ∃ e, r = .error e)
      (rejectSession session status message) q := by
  have hmark : Calls Grows (markSessionStatus session.id status) :=
    calls_update (fun w => ⟨rfl, Nat.le_succ _⟩) fun w _ _ => ⟨rfl, Nat.le_succ _⟩
  have hdoom : Follows (fun u q s => Step deviceId q s (u s)) (fun q' _ => q' = .doomed)
      (viaTx (markSessionStatus session.id status)) q := by
    refine .call fun s => ⟨.doomed, .doom hq ?_, rfl⟩
    have hgrows := Lib.Faults.Code.rel_run .refl .trans hmark s.inside
    exact ⟨⟨hgrows.uuids, hgrows.calls⟩, rfl⟩
  refine hdoom.bind ?_ ?_
  · rintro q - rfl
    refine (follows_viaPlain (q := .doomed) (still_setDevicePairStatus _ status)
      fun h => h).bind ?_ ?_
    · rintro q - rfl
      exact ⟨rfl, _, rfl⟩
    · rintro q e rfl
      exact ⟨rfl, e, rfl⟩
  · rintro q e rfl
    exact ⟨rfl, e, rfl⟩

/-- A confirmation that has locked the session keeps the lock. -/
theorem follows_completePairing (dto : ConfirmPairingDto) (session : PairingSession) (t : String) :
    Follows (fun u q s => Step deviceId q s (u s)) (fun q _ => q = .held session.id t)
      (completePairing dto session) (.held session.id t) := by
  have hstill : ∀ {β : Type} {p : Api β}, Calls Still p → Calls (Locked session.id) p :=
    fun hp => hp.mono fun _ _ h => h.locked _
  unfold completePairing
  refine (follows_viaPlain (q := .held session.id t) (calls_newDate .refl) fun h => h).bind ?_
    fun _ _ h => h
  rintro q pairedAt rfl
  refine (follows_viaPlain (q := .held session.id t) (calls_randomUUID idle_still)
    fun h => h).bind ?_ fun _ _ h => h
  rintro q beacon rfl
  refine (follows_held (hstill (still_markDevicePaired _ _ _ _ _))).bind ?_ fun _ _ h => h
  rintro q - rfl
  refine (follows_held (hstill (still_upsertIpHistory _ _ _))).bind ?_ fun _ _ h => h
  rintro q - rfl
  refine (follows_held (hstill (still_recordConnectionEvent _ _ _ _))).bind ?_ fun _ _ h => h
  rintro q - rfl
  refine (follows_held (locked_delete session.id)).bind ?_ fun _ _ h => h
  rintro q - rfl
  refine (follows_viaPlain (q := .held session.id t) (still_log _) fun h => h).bind ?_
    fun _ _ h => h
  rintro q - rfl
  exact rfl

/-- How far a confirmation has come when its transaction ends. -/
theorem follows_confirmSession (dto : ConfirmPairingDto) :
    Follows (fun u q s => Step deviceId q s (u s))
      (fun q r => (q = .reading ∨ ∃ id, q = .found id dto.token) ∧
        (r = .ok none ∨ ∃ e, r = .error e) ∨
        (∃ id, q = .held id dto.token) ∨ q = .doomed ∧ ∃ e, r = .error e)
      (confirmSession dto) .reading := by
  unfold confirmSession
  refine (follows_find dto).bind ?_ ?_
  swap
  · rintro q e (⟨-, he⟩ | ⟨session, he, -⟩)
    · cases he
    · cases he
  rintro q o (⟨rfl, ho⟩ | ⟨session, ho, rfl⟩)
  · cases ho
    exact .inl ⟨.inl rfl, .inl rfl⟩
  cases ho
  refine .require_bind (fun _ => ?_) fun _ => .inl ⟨.inr ⟨_, rfl⟩, .inr ⟨_, rfl⟩⟩
  unfold confirmWaiting
  have hrejected : ∀ (q : Phase) (r : Except Err (Option String)),
      (q = .doomed ∧ ∃ e, r = .error e) →
      (q = .reading ∨ ∃ id, q = .found id dto.token) ∧ (r = .ok none ∨ ∃ e, r = .error e) ∨
        (∃ id, q = .held id dto.token) ∨ q = .doomed ∧ ∃ e, r = .error e :=
    fun _ _ h => .inr (.inr h)
  refine (follows_viaPlain (q := .found session.id dto.token) (calls_newDate .refl)
    fun h => h).bind ?_ ?_
  swap
  · rintro q e rfl
    exact .inl ⟨.inr ⟨_, rfl⟩, .inr ⟨e, rfl⟩⟩
  rintro q now rfl
  refine .ite (fun _ => ?_) fun _ => ?_
  · exact (follows_rejectSession (q := .found session.id dto.token) _ _ _ fun h => h).mono
      hrejected
  refine (follows_increment session.id dto.token).bind ?_ ?_
  swap
  · rintro q e (⟨rfl, -⟩ | hdoomed)
    · exact .inr (.inl ⟨_, rfl⟩)
    · exact .inr (.inr ⟨hdoomed.1, e, rfl⟩)
  rintro q a (⟨rfl, -⟩ | ⟨-, e, he⟩)
  swap
  · cases he
  refine .ite (fun _ => ?_) fun _ => ?_
  · exact (follows_rejectSession (q := .held session.id dto.token) _ _ _ fun h => h).mono
      hrejected
  refine (follows_completePairing dto session dto.token).bind ?_ ?_
  · rintro q d rfl
    exact .inr (.inl ⟨_, rfl⟩)
  · rintro q e rfl
    exact .inr (.inl ⟨_, rfl⟩)

theorem follows_confirm (env : Env) (dto : ConfirmPairingDto) :
    Follows (fun u q s => Step deviceId q s (u s)) Ends
      (serve env deviceId (.confirm dto)) .reading := by
  refine (follows_confirmSession dto).bind ?_ ?_
  · rintro q d (⟨rfl | ⟨id, rfl⟩, hd | ⟨e, he⟩⟩ | ⟨id, rfl⟩ | ⟨-, e, he⟩)
    · cases hd
      exact .inr ⟨dto, rfl⟩
    · cases he
    · cases hd
      exact .inr ⟨dto, rfl⟩
    · cases he
    · exact .inr ⟨dto, d, rfl, rfl⟩
    · cases he
  · rintro q e (⟨rfl | ⟨id, rfl⟩, -⟩ | ⟨id, rfl⟩ | ⟨rfl, -⟩)
    · exact .inl ⟨e, rfl⟩
    · exact .inl ⟨e, rfl⟩
    · exact .inl ⟨e, rfl⟩
    · exact ⟨e, rfl⟩

end Confirm

/-! ### All requests -/

section Tracks
variable (env : Env) (deviceId : String)

theorem Plain.cancelling {deviceId : String} {w w' : World} {q : Phase}
    (h : Plain deviceId .cancelling w w' q) : q = .cancelling := by
  cases h with
  | still => rfl
  | clear hq =>
    rcases hq with ⟨h, -⟩ | ⟨-, h⟩
    · cases h
    · exact h

theorem Step.inside {deviceId : String} {s s' : TxWorld} {q q' : Phase}
    (h : Step deviceId q s s' q') (hq : ¬ q.Outside) : ¬ q'.Outside := by
  cases h with
  | plain hq' => exact absurd hq' hq
  | read => exact hq
  | find => exact fun h => h
  | lock => exact fun h => h
  | held => exact fun h => h
  | doom => exact fun h => h

/-- The request goes through the phases, and what is left of it is known. -/
def Goes (p : Prog TxWorld Err Reply) (q : Phase) : Prop :=
  Tracks (fun u q s => Step deviceId q s (u s)) Ends (Left deviceId env) p q

/-- The phase a request starts in. -/
def first : Request → Phase
  | .start _ => .early
  | .cancel _ => .cancelling
  | .confirm _ => .reading

variable {env deviceId}

theorem goes_outside {p : Api Reply} {q : Phase}
    (h : Tracks (PlainCall deviceId) Ends
      (fun q p' => q.Between → ∃ parentId, Rest (issue env deviceId parentId) p') p q) :
    Goes env deviceId (outside p) q := by
  refine tracks_outside (fun u q w q' log hstep => ?_) (fun q p' hleft hq => ?_) h
  · exact .plain hstep.1.1 hstep.1.2 hstep.2
  · obtain ⟨parentId, hrest⟩ := hleft hq
    exact ⟨parentId, rest_outside hrest⟩

theorem goes_start (parentId : String) :
    Goes env deviceId (serve env deviceId (.start parentId)) .early := by
  rw [serve_start]
  refine goes_outside ((still_findOwned deviceId parentId).tracks_bind (fun _ h => h.elim)
    (fun u w hu => ⟨⟨trivial, trivial⟩, .still hu⟩) (fun e => ⟨e, rfl⟩) fun _ => ?_)
  refine ⟨fun h => h.elim, fun w => ⟨.cleared, ⟨⟨trivial, trivial⟩, .clear (.inl ⟨rfl, rfl⟩)⟩, ?_⟩⟩
  exact (follows_issue parentId).tracks (I := fun _ => True) trivial (fun _ _ _ _ _ _ => trivial)
    fun _ _ _ hrest _ => ⟨parentId, hrest⟩

theorem goes_cancel (parentId : String) :
    Goes env deviceId (serve env deviceId (.cancel parentId)) .cancelling := by
  refine goes_outside ((follows_cancel parentId).tracks (I := (· = .cancelling)) rfl ?_ ?_)
  · rintro u q w q' rfl ⟨-, hstep⟩
    exact hstep.cancelling
  · rintro q p rfl - h
    exact h.elim

/-- **Every request goes through the phases.** -/
theorem goes_serve : ∀ t : Request, Goes env deviceId (serve env deviceId t) (first t)
  | .start parentId => goes_start parentId
  | .cancel parentId => goes_cancel parentId
  | .confirm dto => by
    refine (follows_confirm env dto).tracks (I := fun q => ¬ q.Outside) (fun h => h) ?_ ?_
    · exact fun u q s q' hq hstep => hstep.inside hq
    · intro q p hq _ hbetween
      cases q with
      | cleared => exact absurd trivial hq
      | drawn t => exact absurd trivial hq
      | opened t => exact absurd trivial hq
      | _ => exact hbetween.elim

end Tracks

end GuardTime.Pairing.Overlap
