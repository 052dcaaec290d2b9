import Mathlib.Tactic
import GuardTime.Services.Sessions

/-! # The life of one session

Runs of `start` followed by any number of `pause`, `resume` and `extend` requests on the session it
created, by any callers, at non-decreasing times. `Op.next` is what a request does to the session
row; `run_op` says that the services do exactly that. -/

namespace GuardTime.Session.Lifecycle

open GuardTime.Lib.Program GuardTime.Lib.Keyed GuardTime.Lib.Js GuardTime.Schema GuardTime.Server
open GuardTime.Prisma GuardTime.Services GuardTime.Services.Sessions

/-- A request on an existing session. -/
inductive Op where
  | pause
  | resume
  | extend (dto : ExtendSessionDto)

/-- The service call. -/
def Op.prog (sessionId caller : String) : Op → Api Session
  | .pause => Sessions.pause sessionId caller
  | .resume => Sessions.resume sessionId caller
  | .extend dto => Sessions.extend sessionId caller dto

/-- The session row after a request at time `now`; refused requests change nothing. -/
def Op.next (caller : String) (now : Time) (op : Op) (s : Session) : Session :=
  if s.parentId ≠ caller then s
  else match op with
    | .pause =>
      if s.status = .active then
        { s with
          status := .paused
          pausedAt := some now
          remainingMinutes := max 0 (s.durationMinutes + s.extendedMinutes -
            calculateElapsedMinutes now s.startedAt s.resumedAt)
          updatedAt := now }
      else s
    | .resume =>
      if s.status = .paused then
        { s with status := .active, resumedAt := some now, updatedAt := now }
      else s
    | .extend dto =>
      if s.status = .active ∨ s.status = .paused then
        { s with
          extendedMinutes := s.extendedMinutes + dto.extraMinutes
          remainingMinutes := s.remainingMinutes + dto.extraMinutes
          updatedAt := now }
      else s

/-- The world is the same except for the session table. -/
def SameButSessions (w w' : World) : Prop :=
  (∃ t, w'.db = { w.db with sessions := t }) ∧ w'.now = w.now

theorem SameButSessions.rfl' (w : World) : SameButSessions w (World.afterCall w w.db) :=
  ⟨⟨w.db.sessions, rfl⟩, rfl⟩

/-- Updating the session keeps everything else. -/
theorem run_update_session {w : World} {sid : String} {s : Session} {f : Session → Session}
    {hf : ∀ r, (f r).id = r.id} (h : w.db.sessions.find sid = some s)
    (hl : Model.session.links (f s) = Model.session.links s) :
    SameButSessions w ((Prisma.update .session sid f hf).run w).2 ∧
      ((Prisma.update .session sid f hf).run w).2.db.sessions.find sid =
        some { f s with updatedAt := w.now } := by
  rw [run_update (m := Model.session) h rfl hl]
  refine ⟨⟨⟨_, rfl⟩, rfl⟩, ?_⟩
  change (Model.session.patch w.db.sessions w.now sid f hf).find sid = _
  rw [Model.find_patch_self, h]
  rfl

theorem SameButSessions.trans {w w' w'' : World} (h : SameButSessions w w')
    (h' : SameButSessions w' w'') : SameButSessions w w'' := by
  obtain ⟨⟨t, ht⟩, hn⟩ := h
  obtain ⟨⟨t', ht'⟩, hn'⟩ := h'
  exact ⟨⟨t', by rw [ht', ht]⟩, hn'.trans hn⟩

/-- **One request.** On an existing session a request changes the session row as `Op.next` says, and
nothing outside the session table. -/
theorem run_op {w : World} {sid : String} {s : Session} (h : w.db.sessions.find sid = some s)
    (caller : String) (op : Op) :
    SameButSessions w ((op.prog sid caller).run w).2 ∧
      ((op.prog sid caller).run w).2.db.sessions.find sid = some (op.next caller w.now s) := by
  have h' : (World.afterCall w w.db).db.sessions.find sid = some s := h
  have hget : (getAndValidate sid caller).run w =
      (if s.parentId = caller then .ok s else .error (.forbidden "Not your session"),
        World.afterCall w w.db) := by
    simp [getAndValidate, Model.session, h]
    split_ifs <;> rfl
  by_cases hp : s.parentId = caller
  · rw [if_pos hp] at hget
    have stay : SameButSessions w (World.afterCall w w.db) ∧
        (World.afterCall w w.db).db.sessions.find sid = some s := ⟨.rfl' w, h⟩
    cases op with
    | pause =>
      by_cases hs : s.status = .active
      · simp only [Op.prog, Sessions.pause, Prog.run_bind, hget, Prog.run_require, hs, if_true,
          run_newDate]
        refine ⟨(SameButSessions.rfl' w).trans (run_update_session h' rfl).1, ?_⟩
        rw [(run_update_session h' rfl).2]
        simp [Op.next, hp, hs]
      · simpa [Op.prog, Sessions.pause, hget, hs, Op.next, hp] using stay
    | resume =>
      by_cases hs : s.status = .paused
      · simp only [Op.prog, Sessions.resume, Prog.run_bind, hget, Prog.run_require, hs, if_true,
          run_newDate]
        refine ⟨(SameButSessions.rfl' w).trans (run_update_session h' rfl).1, ?_⟩
        rw [(run_update_session h' rfl).2]
        simp [Op.next, hp, hs]
      · simpa [Op.prog, Sessions.resume, hget, hs, Op.next, hp] using stay
    | extend dto =>
      by_cases hs : s.status = .active ∨ s.status = .paused
      · simp only [Op.prog, Sessions.extend, Prog.run_bind, hget, Prog.run_require, hs, if_true]
        refine ⟨(SameButSessions.rfl' w).trans (run_update_session h' rfl).1, ?_⟩
        rw [(run_update_session h' rfl).2]
        simp [Op.next, hp, hs]
      · simpa [Op.prog, Sessions.extend, hget, hs, Op.next, hp] using stay
  · rw [if_neg hp] at hget
    have next : op.next caller w.now s = s := by simp [Op.next, hp]
    rw [next]
    cases op <;>
      simpa [Op.prog, Sessions.pause, Sessions.resume, Sessions.extend, hget] using
        ⟨SameButSessions.rfl' w, h⟩

/-! ### Runs -/

/-- A request with its time and its caller. -/
structure Event where
  time : Time
  caller : String
  op : Op

/-- The request is handled at its time. -/
def step (sid : String) (w : World) (e : Event) : World :=
  ((e.op.prog sid e.caller).run { w with now := e.time }).2

/-- The requests come one after the other, from time `t` on. -/
def Ordered : Time → List Event → Prop
  | _, [] => True
  | t, e :: es => t ≤ e.time ∧ Ordered e.time es

/-- One step of a run on an existing session. -/
theorem step_eq {w : World} {sid : String} {s : Session} (h : w.db.sessions.find sid = some s)
    (e : Event) : (∃ t, (step sid w e).db = { w.db with sessions := t }) ∧
      (step sid w e).now = e.time ∧
      (step sid w e).db.sessions.find sid = some (e.op.next e.caller e.time s) := by
  obtain ⟨⟨hdb, hnow⟩, hrow⟩ := @run_op { w with now := e.time } sid s h e.caller e.op
  exact ⟨hdb, hnow, hrow⟩

end GuardTime.Session.Lifecycle
