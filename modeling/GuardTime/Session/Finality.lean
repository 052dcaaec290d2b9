import Mathlib.Tactic
import GuardTime.Session.Budget
import GuardTime.Session.Runs

/-! # Sessions that have ended

`pause`, `resume` and `extend` refuse a session that is STOPPED, EXPIRED or VIOLATED; `stop` refuses
only a STOPPED one, and `expire` and `markViolated` refuse none. `final_iff` says which requests
leave the outcome of an ended session as it is: exactly those that `Spares` lists. -/

namespace GuardTime.Session.Finality

open GuardTime.Lib.Keyed GuardTime.Lib.Js GuardTime.Lib.Runs GuardTime.Schema GuardTime.Server
open GuardTime.Services GuardTime.Services.Sessions GuardTime.Session.Runs
open GuardTime.Session.Lifecycle (Op.next)

/-- The statuses that `getHistory` lists. -/
def Terminal (st : SessionStatus) : Prop := st = .stopped ∨ st = .expired ∨ st = .violated

/-- What history and daily usage read of an ended session. -/
structure Outcome where
  status : SessionStatus
  stoppedAt : Option Time
  expiredAt : Option Time
  extendedMinutes : ℤ
  remainingMinutes : ℤ
deriving DecidableEq

/-- The outcome in a session's row. -/
def outcome (s : Session) : Outcome :=
  ⟨s.status, s.stoppedAt, s.expiredAt, s.extendedMinutes, s.remainingMinutes⟩

/-- The session has the outcome `o`. -/
def Ended (sid : String) (o : Outcome) (w : World) : Prop :=
  ∃ s, w.db.sessions.find sid = some s ∧ outcome s = o

/-- The request at time `now` changes nothing in the outcome of the ended session `s`. -/
def Spares (now : Time) (s : Session) : Request → Prop
  | .stop sid caller => sid = s.id → s.parentId = caller → s.status = .stopped
  | .expire sid => sid = s.id →
    s.status = .expired ∧ s.expiredAt = some now ∧ s.remainingMinutes = 0
  | .markViolated sid => sid = s.id → s.status = .violated
  | _ => True

/-- One request on an ended session. -/
theorem outcome_change_iff {now : Time} {s : Session} (h : Terminal s.status) (req : Request) :
    outcome (req.change now s) = outcome s ↔ Spares now s req := by
  have hactive : s.status ≠ .active := by rcases h with h | h | h <;> simp [h]
  have hpaused : s.status ≠ .paused := by rcases h with h | h | h <;> simp [h]
  cases req with
  | start parentId dto => simp [Request.change, Request.target, Spares]
  | pause sid caller =>
    simp only [Request.change, Request.next, Op.next, hactive, if_false, ite_self, Spares]
  | resume sid caller =>
    simp only [Request.change, Request.next, Op.next, hpaused, if_false, ite_self, Spares]
  | extend sid caller dto =>
    simp only [Request.change, Request.next, Op.next, hactive, hpaused, or_self, if_false, ite_self,
      Spares]
  | stop sid caller =>
    by_cases hid : sid = s.id
    · by_cases hp : s.parentId = caller
      · by_cases hst : s.status = .stopped
        · simp [Request.change, Request.target, Request.next, Spares, hst]
        · simp [Request.change, Request.target, Request.next, Spares, hid, hp, hst, outcome,
            Ne.symm hst]
      · simp [Request.change, Request.target, Request.next, Spares, hp]
    · simp [Request.change, Request.target, Spares, hid]
  | expire sid =>
    by_cases hid : sid = s.id
    · simp only [Request.change, Request.target, Request.next, Spares, hid, if_true, outcome,
        Outcome.mk.injEq, true_and, forall_const]
      constructor
      · rintro ⟨h1, h2, h3⟩
        exact ⟨h1.symm, h2.symm, h3.symm⟩
      · rintro ⟨h1, h2, h3⟩
        exact ⟨h1.symm, h2.symm, h3.symm⟩
    · simp [Request.change, Request.target, Spares, hid]
  | markViolated sid =>
    by_cases hid : sid = s.id
    · simp [Request.change, Request.target, Request.next, Spares, hid, outcome, eq_comm]
    · simp [Request.change, Request.target, Spares, hid]

/-- The event leaves the outcome of the session alone. -/
def Leaves (sid : String) (w : World) (e : Event) : Prop :=
  ∀ s, w.db.sessions.find sid = some s → Spares e.time s e.request

theorem ended_step_iff {env : Env} {w : World} {e : Event} {sid : String} {o : Outcome}
    (ho : Terminal o.status) (h : Ended sid o w) :
    Ended sid o (step env w e) ↔ Leaves sid w e := by
  obtain ⟨s, hs, rfl⟩ := h
  have hiff : outcome (e.request.change e.time s) = outcome s ↔ Spares e.time s e.request :=
    outcome_change_iff ho e.request
  constructor
  · rintro ⟨s', hs', ho'⟩ s'' hs''
    obtain rfl := Option.some.inj (hs.symm.trans hs'')
    rw [find_step hs] at hs'
    obtain rfl := Option.some.inj hs'
    exact hiff.mp ho'
  · intro hspares
    exact ⟨_, find_step hs, hiff.mpr (hspares s hs)⟩

/-- **Ended sessions.** Once a session has a terminal status, its outcome is the same in every state
of the run that follows exactly when no `stop` of its parent meets it EXPIRED or VIOLATED, no
`expire` meets it except at the moment it was expired, and no `markViolated` meets it before it is
VIOLATED. -/
theorem final_iff {env : Env} {w : World} {sid : String} {s : Session} {es : List Event}
    (hs : w.db.sessions.find sid = some s) (hterm : Terminal s.status) :
    (∀ es₁, es₁ <+: es → Ended sid (outcome s) (run env w es₁)) ↔
      Steps (step env) (Leaves sid) w es :=
  foldl_iff_steps (fun _ _ h => ended_step_iff hterm h) ⟨s, hs, rfl⟩

/-- The hour of `Budget.started`, stopped after half of it. -/
def halfTime : World :=
  run .plain Budget.started [⟨1800000, .stop "uuid-3-0" "amal"⟩]

theorem final_iff_halfTime :
    (∀ es₁, es₁ <+: [⟨1860000, .resume "uuid-3-0" "amal"⟩] →
      Ended "uuid-3-0" ⟨.stopped, some 1800000, none, 0, 0⟩ (run .plain halfTime es₁)) ↔
      Steps (step .plain) (Leaves "uuid-3-0") halfTime [⟨1860000, .resume "uuid-3-0" "amal"⟩] :=
  final_iff (s := { Budget.hour with
    status := .stopped, stoppedAt := some 1800000, remainingMinutes := 0, updatedAt := 1800000 })
    rfl (.inl rfl)

/-- A session expires after its hour; a `stop` then turns it into a STOPPED one. -/
theorem expired_then_stopped : ¬ ∀ (env : Env) (w : World) (sid : String) (s : Session),
    w.db.sessions.find sid = some s → Terminal s.status → ∀ es : List Event,
    (∀ e ∈ es, ∀ k, e.request ≠ .markViolated k) → Ended sid (outcome s) (run env w es) := by
  intro h
  let w := run .plain Budget.started [⟨3600000, .expire "uuid-3-0"⟩]
  let s : Session := { Budget.hour with
    status := .expired, expiredAt := some 3600000, remainingMinutes := 0, updatedAt := 3600000 }
  obtain ⟨s', hs', ho⟩ := h .plain w "uuid-3-0" s rfl (.inr (.inl rfl))
    [⟨3660000, .stop "uuid-3-0" "amal"⟩] (by simp)
  have hrun : (run .plain w [⟨3660000, .stop "uuid-3-0" "amal"⟩]).db.sessions.find "uuid-3-0" =
      some { s with
        status := .stopped, stoppedAt := some 3660000, updatedAt := 3660000 } := rfl
  rw [hrun] at hs'
  obtain rfl := Option.some.inj hs'
  exact absurd (congrArg Outcome.status ho) (by decide)

end GuardTime.Session.Finality
