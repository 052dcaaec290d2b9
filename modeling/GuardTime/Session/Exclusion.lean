import Mathlib.Tactic
import GuardTime.Session.Budget
import GuardTime.Session.Runs

/-! # One running session per device

`start` looks for an ACTIVE session of the device before it creates one; `resume` makes a session
ACTIVE without looking. In a run of any requests each device has at most one ACTIVE session exactly
as long as no `resume` meets another ACTIVE session of the device: `one_active_iff`. -/

namespace GuardTime.Session.Exclusion

open GuardTime.Lib.Keyed GuardTime.Lib.Js GuardTime.Lib.Runs GuardTime.Schema GuardTime.Server
open GuardTime.Services GuardTime.Services.Sessions GuardTime.Session.Runs
open GuardTime.Session.Lifecycle (Op.next)

/-- No device has two ACTIVE sessions. -/
def OneActive (w : World) : Prop :=
  ∀ s ∈ w.db.sessions.rows, ∀ s' ∈ w.db.sessions.rows, s.status = .active → s'.status = .active →
    s.deviceId = s'.deviceId → s = s'

/-- The event resumes no session whose device has an ACTIVE one. -/
def Lone (w : World) (e : Event) : Prop :=
  ∀ sid caller s, e.request = .resume sid caller → w.db.sessions.find sid = some s →
    s.parentId = caller → s.status = .paused →
    ∀ r ∈ w.db.sessions.rows, r.deviceId = s.deviceId → r.status ≠ .active

/-- Only `resume` makes an existing session ACTIVE. -/
theorem active_of_change {now : Time} {req : Request} {s : Session}
    (h : (req.change now s).status = .active) :
    s.status = .active ∨ ∃ caller, req = .resume s.id caller ∧ s.parentId = caller ∧
      s.status = .paused := by
  unfold Request.change at h
  split_ifs at h with ht
  · cases req with
    | start parentId dto => exact .inl h
    | pause sid caller =>
      simp only [Request.next, Op.next] at h
      split_ifs at h <;> exact .inl h
    | resume sid caller =>
      obtain rfl : sid = s.id := Option.some.inj ht
      simp only [Request.next, Op.next] at h
      split_ifs at h with hp hs
      · exact .inl h
      · exact .inr ⟨caller, rfl, not_not.mp hp, hs⟩
      · exact .inl h
    | extend sid caller dto =>
      simp only [Request.next, Op.next] at h
      split_ifs at h <;> exact .inl h
    | stop sid caller =>
      simp only [Request.next] at h
      split_ifs at h
      exact .inl h
    | expire sid => simp [Request.next] at h
    | markViolated sid => simp [Request.next] at h
  · exact .inl h

/-- A step that spares ACTIVE sessions keeps them alone. -/
theorem oneActive_step {env : Env} {w : World} {e : Event} (h : OneActive w) (he : Lone w e) :
    OneActive (step env w e) := by
  obtain ⟨-, hrows | ⟨parentId, dto, s, hreq, hadm, hrows⟩⟩ := step_cases env w e
  · -- a newly ACTIVE row excludes every other one of its device
    have resumed : ∀ s ∈ w.db.sessions.rows, ∀ s' ∈ w.db.sessions.rows,
        (e.request.change e.time s).status = .active → s.status ≠ .active →
        (e.request.change e.time s').status = .active → s.deviceId = s'.deviceId → s = s' := by
      intro s hs s' hs' hact hnot hact' hdev
      obtain ⟨caller, hreq, hp, hst⟩ := (active_of_change hact).resolve_left hnot
      have hnone := he s.id caller s hreq (Table.find_key hs) hp hst
      rcases active_of_change hact' with hact' | ⟨caller', hreq', -⟩
      · exact absurd hact' (hnone s' hs' hdev.symm)
      · rw [hreq] at hreq'
        exact Table.eq_of_key hs hs' (Request.resume.inj hreq').1
    intro s₁ hs₁ s₁' hs₁' hact hact' hdev
    rw [hrows] at hs₁ hs₁'
    obtain ⟨s, hs, rfl⟩ := List.mem_map.mp hs₁
    obtain ⟨s', hs', rfl⟩ := List.mem_map.mp hs₁'
    rw [(change_fixed _ _ s).2.1, (change_fixed _ _ s').2.1] at hdev
    by_cases hst : s.status = .active
    · by_cases hst' : s'.status = .active
      · rw [h s hs s' hs' hst hst' hdev]
      · rw [resumed s' hs' s hs hact' hst' hact hdev.symm]
    · rw [resumed s hs s' hs' hact hst hact' hdev]
  · intro s₁ hs₁ s₂ hs₂ hact₁ hact₂ hdev
    have hnew : s.deviceId = dto.deviceId := by rw [hadm.row]
    rw [hrows, List.mem_append, List.mem_singleton] at hs₁ hs₂
    rcases hs₁ with hs₁ | rfl <;> rcases hs₂ with hs₂ | rfl
    · exact h s₁ hs₁ s₂ hs₂ hact₁ hact₂ hdev
    · exact absurd hact₁ (hadm.idle s₁ hs₁ (hdev.trans hnew))
    · exact absurd hact₂ (hadm.idle s₂ hs₂ (hdev.symm.trans hnew))
    · rfl

/-- A `resume` that meets an ACTIVE session of the device makes two of them. -/
theorem lone_of_oneActive_step {env : Env} {w : World} {e : Event}
    (h : OneActive (step env w e)) : Lone w e := by
  intro sid caller s hreq hs hp hst r hr hdev hact
  have hid : s.id = sid := Table.key_of_find hs
  have hne : r.id ≠ sid := by
    intro hrid
    obtain rfl := Table.eq_of_key hr (Table.mem_of_find hs) (hrid.trans hid.symm)
    rw [hst] at hact
    cases hact
  have hs' : (step env w e).db.sessions.find sid =
      some { s with status := .active, resumedAt := some e.time, updatedAt := e.time } := by
    rw [find_step hs]
    simp [Request.change, hreq, Request.target, hid, Request.next, Op.next, hp, hst]
  have hr' : (step env w e).db.sessions.find r.id = some r := by
    rw [find_step (Table.find_key hr)]
    simp [Request.change, hreq, Request.target, Ne.symm hne]
  have heq := h _ (Table.mem_of_find hs') _ (Table.mem_of_find hr') rfl hact hdev.symm
  exact hne (by rw [← heq]; exact hid)

/-- **One ACTIVE session per device.** From a state without two ACTIVE sessions on a device, every
state of the run is one exactly when every `resume` finds its device without an ACTIVE session. -/
theorem one_active_iff {env : Env} {w : World} {es : List Event} (h : OneActive w) :
    (∀ es₁, es₁ <+: es → OneActive (run env w es₁)) ↔ Steps (step env) Lone w es :=
  foldl_iff_steps (fun _ _ hw => ⟨lone_of_oneActive_step, oneActive_step hw⟩) h

/-- A session is started, paused and resumed. -/
def breather : List Event :=
  [⟨0, .start "amal" Budget.oneHour⟩, ⟨60000, .pause "uuid-3-0" "amal"⟩,
    ⟨120000, .resume "uuid-3-0" "amal"⟩]

theorem one_active_iff_breather :
    (∀ es₁, es₁ <+: breather → OneActive (run .plain Budget.home es₁)) ↔
      Steps (step .plain) Lone Budget.home breather :=
  one_active_iff fun _ h => by cases h

/-- The device of a paused session starts another one; then the first is resumed. -/
theorem two_active_after_resume : ¬ ∀ (env : Env) (w : World), w.db.sessions.rows = [] →
    ∀ es : List Event, OneActive (run env w es) := by
  intro h
  let es : List Event :=
    [⟨0, .start "amal" Budget.oneHour⟩, ⟨60000, .pause "uuid-3-0" "amal"⟩,
      ⟨120000, .start "amal" Budget.oneHour⟩, ⟨180000, .resume "uuid-3-0" "amal"⟩]
  have hone := h .plain Budget.home rfl es
  have hdec : ∃ s ∈ (run .plain Budget.home es).db.sessions.rows,
      ∃ s' ∈ (run .plain Budget.home es).db.sessions.rows, s.status = .active ∧
        s'.status = .active ∧ s.deviceId = s'.deviceId ∧ s.id ≠ s'.id := by decide +kernel
  obtain ⟨s, hs, s', hs', hact, hact', hdev, hne⟩ := hdec
  exact hne (congrArg Session.id (hone s hs s' hs' hact hact' hdev))

end GuardTime.Session.Exclusion
