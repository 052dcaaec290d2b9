import Mathlib.Tactic
import GuardTime.Household
import GuardTime.Pairing.Effects

/-! # Rejected confirmations

`tryConfirmPairingSession` marks a session through the transaction's client and the device past it,
and then throws: the rollback takes back the session's new status and its attempt, the device keeps
its own. Session and device agree exactly when the confirmation does not come to such a rejection
(`agrees_iff`). -/

namespace GuardTime.Pairing.Agreement

open GuardTime.Lib.Program GuardTime.Lib.Keyed GuardTime.Lib.Js GuardTime.Schema GuardTime.Server
open GuardTime.Prisma GuardTime.Services GuardTime.Services.Pairing GuardTime.Pairing.Effects

/-! ### Calls cut short -/

/-- The callback, with an exception after its first calls if `fault` says so. -/
def cut {α : Type} (fault : Option (ℕ × String)) (q : Prog TxWorld Err α) : Prog TxWorld Err α :=
  match fault with
  | none => q
  | some (n, message) => q.interrupt (.error message) n

/-- `confirmProbe` with its transaction's callback cut short. -/
def confirmProbeCut (fault : Option (ℕ × String)) (dto : ConfirmPairingDto) : Api String := do
  match ← Prisma.transaction (cut fault (confirmSession dto)) with
  | some deviceId => pure deviceId
  | none => confirmBeacon dto

theorem confirmProbeCut_none (dto : ConfirmPairingDto) :
    confirmProbeCut none dto = confirmProbe dto := rfl

/-- After the call: a device it made expired or failed has a session of that status, and a rejected
attempt on the session `s` is counted. -/
structure Agrees (w : World) (s : PairingSession) (r : Except Err String) (w' : World) : Prop where
  status : ∀ d d', w.db.devices.find s.deviceId = some d →
    w'.db.devices.find s.deviceId = some d' → d'.pairStatus ≠ d.pairStatus →
    d'.pairStatus = .expired ∨ d'.pairStatus = .failed →
    ∃ s', w'.db.pairingSessions.find s.id = some s' ∧ s'.status = d'.pairStatus
  counted : ∀ message, r = .error (.badRequest message) →
    ∃ s', w'.db.pairingSessions.find s.id = some s' ∧ s'.attempts = s.attempts + 1

/-! ### Confirmations that are not rejected -/

/-- The device keeps its status or is paired. -/
def StatusOrPaired (deviceId : String) (status : PairStatus) (db : Database) : Prop :=
  ∀ d, db.devices.find deviceId = some d → d.pairStatus = status ∨ d.pairStatus = .paired

/-- The callback ends with a device, or with an error that is no rejection. -/
def Unrejected (r : Except Err (Option String)) : Prop :=
  r ≠ .ok none ∧ ∀ message, r ≠ .error (.badRequest message)

section Live
variable {deviceId : String} {status : PairStatus}

theorem always_markDevicePaired (id ip : String) (region : Option String) (t : Time)
    (beacon : String) : Prog.Always (TxOnDb (StatusOrPaired deviceId status))
      (viaTx (markDevicePaired id ip region t beacon)) := by
  refine always_viaTx (keeps_update (steady_onDb _) fun w r hw hr _ d hd => ?_)
  simp only [afterCall_db, Model.device, Model.find_patch] at hd
  obtain ⟨d₀, hd₀, rfl⟩ := Option.map_eq_some_iff.mp hd
  split_ifs with h
  · exact .inr rfl
  · exact hw d₀ hd₀

theorem always_completePairing (dto : ConfirmPairingDto) (s : PairingSession) :
    Prog.Always (TxOnDb (StatusOrPaired deviceId status)) (completePairing dto s) := by
  have steady := steady_onDb (StatusOrPaired deviceId status)
  refine .bind (always_viaPlain keeps_newDate) fun now => .bind
    (always_viaPlain (keeps_randomUUID steady)) fun beacon => ?_
  refine (always_markDevicePaired _ _ _ _ _).bind fun _ => ?_
  have history : Free .deviceIpHistory (OnDb (StatusOrPaired deviceId status)) := fun _ _ h => h
  have event : Free .deviceConnectionEvent (OnDb (StatusOrPaired deviceId status)) :=
    fun _ _ h => h
  have audit : Free .auditLog (OnDb (StatusOrPaired deviceId status)) := fun _ _ h => h
  refine .bind (always_viaTx (history.upsert steady _ _ _ _)) fun _ =>
    .bind (always_viaTx (event.create steady _)) fun _ =>
      .bind (always_viaTx (keeps_delete steady fun w r hw _ => hw)) fun _ =>
        .bind (always_viaPlain ((audit.create steady _).bind fun _ => .pure _)) fun _ => .pure _

theorem raises_completePairing (dto : ConfirmPairingDto) (s : PairingSession) :
    Prog.Raises Err.FromPrisma (completePairing dto s) := by
  have log : ∀ data, Prog.Raises Err.FromPrisma (Audit.log data) := fun data =>
    (raises_create _).bind fun _ => .pure _
  refine .bind (raises_viaPlain (.call fun _ _ h => by cases h)) fun _ =>
    .bind (raises_viaPlain (.call fun _ _ h => by cases h)) fun _ =>
      .bind (raises_viaTx (raises_update _ _ _)) fun _ =>
        .bind (raises_viaTx (raises_upsert _ _ _ _)) fun _ =>
          .bind (raises_viaTx (raises_create _)) fun _ =>
            .bind (raises_viaTx (raises_delete _)) fun _ =>
              .bind (raises_viaPlain (log _)) fun _ => .pure _

end Live

/-! ### One call -/

section Call
variable {w : World} {s : PairingSession} {dto : ConfirmPairingDto}

/-- A live session with attempts left: the callback runs to its end or into an error that is no
rejection, and the device is never marked. -/
theorem through_confirmSession {status : PairStatus} (hs : sessionOf w.db dto = some s)
    (hwait : s.status = .waiting) (hlive : w.now ≤ s.expiresAt) (hatt : s.attempts < 5)
    (hw : StatusOrPaired s.deviceId status w.db) :
    (confirmSession dto).Through (TxOnDb (StatusOrPaired s.deviceId status)) Unrejected
      ⟨w, []⟩ := by
  have h₀ : TxOnDb (StatusOrPaired s.deviceId status) ⟨w, []⟩ := ⟨hw, by simp⟩
  have hquery : Prog.Keeps (OnDb (StatusOrPaired s.deviceId status))
      (findUniqueBy .pairingSession fun s => s.token = dto.token) :=
    keeps_query (steady_onDb _) _
  obtain ⟨t₁, ht₁, hin₁, -⟩ := run_findSession dto w
  have h₁ := (keeps_viaTx hquery).of_run ht₁ h₀
  have hnow : t₁.inside.now = w.now := by rw [hin₁]; rfl
  have hfind : t₁.inside.db.pairingSessions.find s.id = some s := by
    rw [hin₁]
    exact (find_sessionOf hs).1
  rw [hs] at ht₁
  refine .call_bind ht₁ h₀ ?_
  simp only [hwait]
  change (confirmWaiting dto s).Through _ _ t₁
  refine .call_bind (b := w.now) (t := t₁) ?_ h₁ ?_
  · rw [← hnow]
    rfl
  rw [if_neg (not_lt.mpr hlive)]
  have hincrement : Prog.Keeps (OnDb (StatusOrPaired s.deviceId status))
      (incrementSessionAttempts s.id) :=
    keeps_update (steady_onDb _) fun _ _ hw _ _ => hw
  obtain ⟨t₂, ht₂, -, -⟩ := run_viaTx (run_incrementSessionAttempts hfind)
  have h₂ := (keeps_viaTx hincrement).of_run ht₂ h₁
  refine .call_bind ht₂ h₁ ?_
  rw [if_neg (by simp only [charged]; omega)]
  refine .of_always ((always_completePairing dto s).bind fun _ => .pure _) ?_ h₂
  refine .bind ((raises_completePairing dto s).mono ?_) fun _ => ⟨by simp, by simp⟩
  rintro _ ⟨code, rfl⟩
  exact ⟨by simp, by simp⟩

theorem through_cut {α : Type} {C : TxWorld → Prop} {Q : Except Err α → Prop}
    {q : Prog TxWorld Err α} {t : TxWorld} (h : q.Through C Q t)
    (hQ : ∀ message, Q (.error (.error message))) (fault : Option (ℕ × String)) :
    (cut fault q).Through C Q t := by
  rcases fault with _ | ⟨n, message⟩
  · exact h
  · exact h.interrupt (hQ message)

/-- What the transaction of a live session comes to. -/
theorem transaction_of_live (hs : sessionOf w.db dto = some s) (hwait : s.status = .waiting)
    (hlive : w.now ≤ s.expiresAt) (hatt : s.attempts < 5) {status : PairStatus}
    (hw : StatusOrPaired s.deviceId status w.db) (fault : Option (ℕ × String)) :
    Unrejected ((Prisma.transaction (cut fault (confirmSession dto))).run w).1 ∧
    StatusOrPaired s.deviceId status
      ((Prisma.transaction (cut fault (confirmSession dto))).run w).2.db := by
  have hfaults : ∀ message, Unrejected (.error (.error message)) := fun _ => ⟨by simp, by simp⟩
  have h := (through_cut (through_confirmSession hs hwait hlive hatt hw) hfaults fault).run
  refine ⟨?_, onDb_transaction h.1⟩
  rw [run_transaction]
  rcases hq : (cut fault (confirmSession dto)).run ⟨w, []⟩ with ⟨e | a, t⟩ <;> rw [hq] at h
  · exact h.2
  · exact h.2

theorem agrees_of_live (hs : sessionOf w.db dto = some s) (hwait : s.status = .waiting)
    (hlive : w.now ≤ s.expiresAt) (hatt : s.attempts < 5) {d : Device}
    (hd : w.db.devices.find s.deviceId = some d) (fault : Option (ℕ × String)) :
    Agrees w s ((confirmProbeCut fault dto).run w).1 ((confirmProbeCut fault dto).run w).2 := by
  have hw : StatusOrPaired s.deviceId d.pairStatus w.db := by
    intro d' hd'
    obtain rfl := Option.some.inj (hd.symm.trans hd')
    exact .inl rfl
  obtain ⟨hr, hdb⟩ := transaction_of_live hs hwait hlive hatt hw fault
  -- the outcome of the call is the outcome of its transaction
  have hcall : (∀ message, ((confirmProbeCut fault dto).run w).1 ≠ .error (.badRequest message)) ∧
      StatusOrPaired s.deviceId d.pairStatus ((confirmProbeCut fault dto).run w).2.db := by
    rw [confirmProbeCut, Prog.run_bind]
    rcases htx : (Prisma.transaction (cut fault (confirmSession dto))).run w with ⟨e | o, w'⟩ <;>
      rw [htx] at hr hdb
    · refine ⟨fun message he => hr.2 message ?_, hdb⟩
      cases he
      rfl
    · rcases o with _ | id
      · exact absurd rfl hr.1
      · exact ⟨by simp, hdb⟩
  refine ⟨fun d₀ d' hd₀ hd' hne hbad => ?_, fun message he => absurd he (hcall.1 message)⟩
  obtain rfl := Option.some.inj (hd.symm.trans hd₀)
  rcases hcall.2 d' hd' with h | h
  · exact absurd h hne
  · rw [h] at hbad
    simp at hbad

/-- A confirmation that is rejected for time or attempts leaves the session as it was. -/
theorem rejected_uncounted (hs : sessionOf w.db dto = some s) (hwait : s.status = .waiting)
    {d : Device} (hd : w.db.devices.find s.deviceId = some d)
    (hdead : ¬ (w.now ≤ s.expiresAt ∧ s.attempts < 5)) :
    ∃ message w', (confirmProbe dto).run w = (.error (.badRequest message), w') ∧
      w'.db.pairingSessions = w.db.pairingSessions := by
  have hreject : ∃ message w', (tryConfirmPairingSession dto).run w =
      (.error (.badRequest message), w') ∧ w'.db.pairingSessions = w.db.pairingSessions := by
    have hdead' : s.expiresAt < w.now ∨ 5 ≤ s.attempts := by
      rcases not_and_or.mp hdead with h | h
      · exact .inl (not_le.mp h)
      · exact .inr (not_lt.mp h)
    obtain ⟨message, w', hw', -, hdb⟩ := transaction_rejected hs hwait hdead' hd
    exact ⟨message, w', hw', by rw [hdb]; rfl⟩
  obtain ⟨message, w', hw', hsame⟩ := hreject
  refine ⟨message, w', ?_, hsame⟩
  rw [confirmProbe, Prog.run_bind, hw']

/-- **Session and device agree after every outcome** of a confirmation of a waiting session exactly
when the session has not expired and has attempts left. -/
theorem agrees_iff (hs : sessionOf w.db dto = some s) (hwait : s.status = .waiting) {d : Device}
    (hd : w.db.devices.find s.deviceId = some d) :
    (∀ fault, Agrees w s ((confirmProbeCut fault dto).run w).1
      ((confirmProbeCut fault dto).run w).2) ↔ w.now ≤ s.expiresAt ∧ s.attempts < 5 := by
  refine ⟨fun h => ?_, fun ⟨hlive, hatt⟩ => agrees_of_live hs hwait hlive hatt hd⟩
  by_contra hdead
  obtain ⟨message, w', hrun, hsame⟩ := rejected_uncounted hs hwait hd hdead
  have hagrees := h none
  rw [confirmProbeCut_none, hrun] at hagrees
  obtain ⟨s', hs', hcount⟩ := hagrees.counted message rfl
  rw [hsame, (find_sessionOf hs).1] at hs'
  obtain rfl := Option.some.inj hs'
  omega

end Call

/-! ### An expired token -/

/-- A session whose token is good until time 600000. -/
def waitingSession : PairingSession where
  id := "pairing"
  deviceId := "tablet"
  parentId := "amal"
  token := "token"
  status := .waiting
  expiresAt := 600000
  attempts := 0
  createdAt := 0

/-- A tablet waiting to be paired. -/
def waitingTablet : Database :=
  { Household.withDevices [Household.device "tablet" "amal" "adam"] (by simp) with
    pairingSessions := ⟨[waitingSession], by simp⟩ }

/-- A probe with the token. -/
def probe : ConfirmPairingDto := { token := "token", sourceIp := "203.0.113.7" }

theorem agrees_in_time :
    (∀ fault, Agrees (.fresh waitingTablet 1000) waitingSession
      ((confirmProbeCut fault probe).run (.fresh waitingTablet 1000)).1
      ((confirmProbeCut fault probe).run (.fresh waitingTablet 1000)).2) ↔
      (1000 : ℤ) ≤ 600000 ∧ (0 : ℤ) < 5 :=
  agrees_iff rfl rfl rfl

/-- A probe after the expiry makes the device expired, the session stays waiting and uncounted. -/
theorem disagrees_when_expired : ¬ ∀ (w : World) (s : PairingSession) (dto : ConfirmPairingDto),
    sessionOf w.db dto = some s → s.status = .waiting →
      (∃ d, w.db.devices.find s.deviceId = some d) →
    ∀ fault, Agrees w s ((confirmProbeCut fault dto).run w).1
      ((confirmProbeCut fault dto).run w).2 := by
  intro h
  have hagrees := h (.fresh waitingTablet 600001) waitingSession probe rfl rfl ⟨_, rfl⟩ none
  obtain ⟨s', hs', hcount⟩ := hagrees.counted "Pairing token expired — start pairing again" rfl
  obtain rfl := Option.some.inj hs'
  exact absurd hcount (by decide)

end GuardTime.Pairing.Agreement
