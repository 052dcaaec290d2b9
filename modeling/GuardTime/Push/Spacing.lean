import Mathlib.Tactic
import GuardTime.Lib.Gaps
import GuardTime.Lib.Assure
import GuardTime.Services.Account
import GuardTime.Services.Calls
import GuardTime.Household

/-! # Notices that are told once in a while

Three passes of the scheduler tell a parent again and again of what goes on: that a session is about
to end, that a device in use is silent, that a device is poorly protected. Each looks for a recent
notice first. Over whole runs of the passes, among anything else that reads, marks, makes or deletes
notices, at most one of a kind about a subject is made in any stretch of its length
(`one_notice_in_window`). -/

namespace GuardTime.Push.Spacing

open GuardTime.Lib.Program GuardTime.Lib.Interleave GuardTime.Lib.Gaps GuardTime.Lib.Keyed
open GuardTime.Lib.Js GuardTime.Schema GuardTime.Server GuardTime.Prisma GuardTime.Services
open GuardTime.System.Run

/-- A kind of notice, what it is about, and how long it is not told again. -/
structure Damped where
  type : NotificationType
  subject : NotificationEvent → Option String
  window : ℤ

/-- `notifyTenMinutesLeft`. -/
def ending : Damped := ⟨.time10MinLeft, NotificationEvent.sessionId, 600000⟩

/-- `monitorDeviceHealth`. -/
def silence : Damped := ⟨.deviceDisconnected, NotificationEvent.deviceId, 21600000⟩

/-- `notifyLowProtection`. -/
def weakness : Damped := ⟨.protectionLow, NotificationEvent.deviceId, 86400000⟩

/-- The kinds. -/
def kinds : List Damped := [ending, silence, weakness]

/-- What a notice of the kind is about. -/
def Damped.key (k : Damped) (n : NotificationEvent) : Option String :=
  if n.type = k.type then k.subject n else none

theorem Damped.key_eq_some {k : Damped} {n : NotificationEvent} {x : String} :
    k.key n = some x ↔ n.type = k.type ∧ k.subject n = some x := by
  unfold Damped.key
  split_ifs with h
  · simp [h]
  · simp [h]

/-- The notices of every kind are apart. -/
def Apart (db : Database) : Prop :=
  ∀ k ∈ kinds, Spaced NotificationEvent.createdAt k.key k.window db.notificationEvents.rows

/-! ### What else runs -/

/-- Whatever makes no notice. -/
structure Rest where
  run : World → World
  sublist : ∀ w, (run w).db.notificationEvents.rows.Sublist w.db.notificationEvents.rows

/-- What makes or changes notices, and the rest of the system. -/
inductive Event where
  | pass (pass : Pass)
  | requestMoreTime (sessionId : String) (requestedMinutes : ℤ)
  | markReadForUser (userId notificationId : String)
  | rest (rest : Rest)

/-- An event with its time. -/
structure Occurrence where
  time : Time
  event : Event

/-- The world after an event. -/
def occur (env : Env) (w : World) (o : Occurrence) : World :=
  match o.event with
  | .pass p => ((p.prog env).run { w with now := o.time }).2
  | .requestMoreTime id n => ((ChildAgent.requestMoreTime env id n).run { w with now := o.time }).2
  | .markReadForUser u id => ((Notifications.markReadForUser u id).run { w with now := o.time }).2
  | .rest r => r.run w

/-! ### Calls that make no such notice -/

/-- The clock stands, and notices stay apart. -/
def Plain (w w' : World) : Prop := w'.now = w.now ∧ (Apart w.db → Apart w'.db)

section Plain

theorem Plain.refl (w : World) : Plain w w := ⟨rfl, id⟩

theorem idle_plain : Idle Plain := fun _ => ⟨rfl, id⟩

/-- A notice that is of none of the kinds. -/
theorem plain_notice {data : Notifications.Data} (h : ∀ k ∈ kinds, data.type ≠ k.type) :
    Calls Plain (Prisma.create .notificationEvent (noticeRow data)) := by
  refine calls_create idle_plain fun w t ht => ⟨rfl, fun hw k hk => ?_⟩
  change Spaced _ _ _ t.rows
  rw [(Table.insert_eq_some ht).2]
  refine (hw k hk).add fun x hx => ?_
  have hother : k.key (noticeRow data (w.uuids w.calls 0) w.now) = none := if_neg (h k hk)
  rw [hother] at hx
  cases hx

theorem key_congr {n n' : NotificationEvent} (htype : n.type = n'.type)
    (hdevice : n.deviceId = n'.deviceId) (hsession : n.sessionId = n'.sessionId) :
    ∀ k ∈ kinds, k.key n = k.key n' := by
  intro k hk
  have hsubject : k.subject n = k.subject n' := by
    simp only [kinds, List.mem_cons, List.not_mem_nil, or_false] at hk
    rcases hk with rfl | rfl | rfl
    · exact hsession
    · exact hdevice
    · exact hdevice
  unfold Damped.key
  rw [htype, hsubject]

/-- A change of a notice that leaves its kind, its subjects and its time. -/
theorem plain_patch (id : String) {f : NotificationEvent → NotificationEvent}
    {hf : ∀ n, (f n).id = n.id} (htime : ∀ n, (f n).createdAt = n.createdAt)
    (htype : ∀ n, (f n).type = n.type) (hdevice : ∀ n, (f n).deviceId = n.deviceId)
    (hsession : ∀ n, (f n).sessionId = n.sessionId) :
    Calls Plain (Prisma.update .notificationEvent id f hf) := by
  refine calls_update idle_plain fun w r _ => ⟨rfl, fun hw k hk => ?_⟩
  refine (hw k hk).map (fun n => ?_) fun n => ?_
  · split_ifs
    · exact htime n
    · rfl
  · split_ifs
    · exact key_congr (htype n) (hdevice n) (hsession n) k hk
    · rfl

theorem plain_log (data : Audit.Entry) : Calls Plain (Audit.log data) :=
  .bind (Ignores.create (m := .auditLog) idle_plain (fun _ _ => ⟨rfl, id⟩) _) fun _ => .pure _

theorem plain_device (id : String) (f : Device → Device) (hf : ∀ d, (f d).id = d.id) :
    Calls Plain (Prisma.update .device id f hf) :=
  Ignores.update (m := .device) idle_plain (fun _ _ => ⟨rfl, fun h => h⟩) _ _ _

theorem deliverCalls : DeliverCalls Plain where
  refl := Plain.refl
  idle := idle_plain
  pushToken _ _ := ⟨rfl, fun h => h⟩
  sent _ := plain_patch _ (fun _ => rfl) (fun _ => rfl) (fun _ => rfl) fun _ => rfl

theorem expiryCalls : ExpiryCalls Plain where
  refl := Plain.refl
  idle := idle_plain
  command _ _ := ⟨rfl, fun h => h⟩
  queue _ _ := ⟨rfl, fun h => h⟩
  cache _ _ := ⟨rfl, fun h => h⟩
  log data _ := plain_log data
  routerCommand _ _ := ⟨rfl, fun h => h⟩
  status _ _ := plain_device _ _ _
  deliver := deliverCalls
  categoryBlock _ _ := ⟨rfl, fun h => h⟩

theorem plain_notify (env : Env) {data : Notifications.Data} (h : ∀ k ∈ kinds, data.type ≠ k.type) :
    Calls Plain (Notifications.create env data) := deliverCalls.notify env (plain_notice h)

theorem plain_expireSession (env : Env) (s : Session) (d : Device) :
    Calls Plain (Scheduler.expireSession env s d) := by
  have htype : ∀ k ∈ kinds, NotificationType.timeEnded ≠ k.type := by decide
  refine .bind ?_ fun _ => .bind (expiryCalls.handleOfflineViolation d) fun _ =>
    .bind (expiryCalls.blockGaming _ _) fun _ =>
      .bind (plain_notify env htype) fun _ => plain_log _
  exact .bind (calls_query idle_plain _) fun _ => .bind (.orThrow _ _) fun _ =>
    .bind (calls_newDate Plain.refl) fun _ =>
      Ignores.update (m := .session) idle_plain (fun _ _ => ⟨rfl, fun h => h⟩) _ _ _

theorem plain_reportBypass (env : Env) (d : Device) :
    Calls Plain (Scheduler.reportBypass env d) := by
  refine .bind (calls_newDate Plain.refl) fun _ => .bind (plain_device _ _ _) fun _ =>
    .bind (plain_notify env fun k hk => ?_) fun _ => plain_log _
  dsimp only
  split_ifs
  · revert k
    decide
  · revert k
    decide

theorem plain_enforceBedtimeRule (rule : Rule) (d : Device) :
    Calls Plain (Scheduler.enforceBedtimeRule rule d) :=
  .bind (expiryCalls.blockDevice _ _ _) fun _ => .ite (plain_log _) (.pure _)

theorem plain_enforceSchedule (env : Env) (now : Time) (d : Device) :
    Calls Plain (Scheduler.enforceSchedule env now d) := by
  refine .ite (.bind (plain_device _ _ _) fun _ => plain_log _)
    (.bind (.ite ?_ (.pure _)) fun _ => ?_)
  · exact .bind (plain_device _ _ _) fun _ => plain_log _
  · unfold Scheduler.enforceDailyLimit
    split
    · refine .bind (calls_query idle_plain _) fun _ => .ite (.bind ?_ fun _ => plain_log _)
        (.pure _)
      exact .bind (Ignores.upsert (m := .categoryBlock) idle_plain
        (fun _ _ => ⟨rfl, fun h => h⟩) _ _ _ _)
        fun _ => .pure _
    · exact .pure _

end Plain

/-! ### Notices after a gap -/

/-- The clock stands at `t`, and notices are apart. -/
def At (t : Time) (w : World) : Prop := w.now = t ∧ Apart w.db

section At
variable {t : Time}

theorem steady_at : Steady (At t) := fun _ h => h

theorem keeps_plain {α : Type} {p : Api α} (h : Calls Plain p) : Prog.Keeps (At t) p :=
  (h.assures fun _ _ hplain hw => ⟨hplain.1.trans hw.1, hplain.2 hw.2⟩).keeps

/-- A notice of a kind that has not been made about its subject for a while. -/
theorem leads_notify (env : Env) {data : Notifications.Data} {k : Damped} (hk : k ∈ kinds)
    (htype : data.type = k.type) {x : String}
    (hx : ∀ id now, k.subject (noticeRow data id now) = some x) :
    Prog.Leads (fun w => At t w ∧ ∀ n ∈ w.db.notificationEvents.rows, k.key n = some x →
      n.createdAt < t - k.window) (At t) (Notifications.create env data) := by
  rw [Services.create_eq]
  refine Prog.Leads.andThen (fun w hw => ?_) fun n =>
    keeps_plain (deliverCalls.afterNotice env data n)
  obtain ⟨⟨hnow, hapart⟩, hgap⟩ := hw
  rcases run_create_cases .notificationEvent (noticeRow data) w with ⟨e, hrun⟩ | ⟨tb, htb, hrun⟩ <;>
    rw [hrun]
  · exact ⟨hnow, hapart⟩
  · refine ⟨hnow, fun k' hk' => ?_⟩
    change Spaced _ _ _ tb.rows
    rw [(Table.insert_eq_some htb).2]
    refine (hapart k' hk').add fun y hy n hn hkey => ?_
    have hsame : k'.type = k.type := by
      rw [← htype]
      by_contra hne
      have hnone : k'.key (noticeRow data (w.uuids w.calls 0) w.now) = none := if_neg (Ne.symm hne)
      rw [hnone] at hy
      cases hy
    have hkind : ∀ a ∈ kinds, ∀ b ∈ kinds, a.type = b.type → a = b := by
      simp [kinds, ending, silence, weakness]
    obtain rfl := hkind k' hk' k hk hsame
    have hrow : k'.key (noticeRow data (w.uuids w.calls 0) w.now) = some x :=
      (if_pos htype).trans (hx _ _)
    rw [hrow] at hy
    obtain rfl := Option.some.inj hy
    have hbefore := hgap n hn hkey
    rw [← hnow] at hbefore
    exact hbefore

/-- What looks for a recent notice and makes one if there is none. -/
theorem keeps_damped (env : Env) {data : Notifications.Data} {k : Damped} (hk : k ∈ kinds)
    (htype : data.type = k.type) {x : String}
    (hx : ∀ id now, k.subject (noticeRow data id now) = some x)
    {p : NotificationEvent → Bool} (hp : ∀ n, k.key n = some x → p n = true)
    {rest : NotificationEvent → Api Unit} (hrest : ∀ n, Calls Plain (rest n))
    {c : Option NotificationEvent → Api Unit} (hsome : ∀ n, c (some n) = pure ())
    (hnone : c none = Notifications.create env data >>= rest) {now : Time} (hnow : now = t) :
    Prog.Keeps (At t) (Scheduler.recentNotification p (now - k.window) >>= c) := by
  intro w hw
  rw [Prog.run_bind, Scheduler.recentNotification, run_findFirst]
  dsimp only
  rcases hrecent : (matching .notificationEvent w.db (w.tape w.calls) fun n =>
    p n && decide (now - k.window ≤ n.createdAt)).head? with _ | n
  · rw [hnone]
    refine (leads_notify env hk htype hx).andThen (fun n => keeps_plain (hrest n)) _
      ⟨hw, fun n hn hkey => ?_⟩
    rw [List.head?_eq_none_iff] at hrecent
    by_contra hlate
    have hmem : n ∈ matching .notificationEvent w.db (w.tape w.calls) fun n =>
        p n && decide (now - k.window ≤ n.createdAt) := by
      refine mem_matching.mpr ⟨hn, ?_⟩
      rw [hp n hkey, hnow, Bool.true_and]
      exact decide_eq_true (not_lt.mp hlate)
    rw [hrecent] at hmem
    cases hmem
  · rw [hsome]
    exact hw

theorem keeps_dated {α : Type} {f : Time → Api α} (h : ∀ now, now = t → Prog.Keeps (At t) (f now)) :
    Prog.Keeps (At t) (newDate >>= f) :=
  .bindOf (P := fun now => now = t) (keeps_plain (calls_newDate Plain.refl))
    (fun w hw now hnow => by cases hnow; exact hw.1) h

theorem keeps_notifyTenMinutesLeft (env : Env) (s : Session) (remaining : ℤ) :
    Prog.Keeps (At t) (Scheduler.notifyTenMinutesLeft env s remaining) := by
  refine keeps_dated fun now hnow => keeps_damped env (k := ending) (x := s.id)
    (by simp [kinds]) rfl
    (fun _ _ => rfl) (fun n hn => ?_) (fun _ => .pure ()) (fun _ => rfl) rfl hnow
  simpa [ending, and_comm] using Damped.key_eq_some.mp hn

theorem keeps_reportSilent (env : Env) (d : Device) :
    Prog.Keeps (At t) (Scheduler.reportSilent env d) := by
  refine keeps_dated fun now hnow => keeps_damped env (k := silence) (x := d.id)
    (by simp [kinds]) rfl
    (fun _ _ => rfl) (fun n hn => ?_) (fun _ => plain_log _) (fun _ => rfl) rfl hnow
  simpa [silence, and_comm] using Damped.key_eq_some.mp hn

theorem keeps_reportLowProtection (env : Env) (d : Device) :
    Prog.Keeps (At t) (Scheduler.reportLowProtection env d) := by
  refine keeps_dated fun now hnow => keeps_damped env (k := weakness) (x := d.id)
    (by simp [kinds]) rfl
    (fun _ _ => rfl) (fun n hn => ?_) (fun _ => .pure ()) (fun _ => rfl) rfl hnow
  simpa [weakness, and_comm] using Damped.key_eq_some.mp hn

theorem keeps_checkSession (env : Env) (s : Session) (d : Device) :
    Prog.Keeps (At t) (Scheduler.checkSession env s d) :=
  .bind (keeps_plain (calls_newDate Plain.refl)) fun _ =>
    .ite (fun _ => keeps_plain (plain_expireSession env s d)) fun _ =>
      .ite (fun _ => keeps_notifyTenMinutesLeft env s _) fun _ => .pure ()

/-- **What the passes keep.** -/
theorem keeps_pass (env : Env) (p : Pass) : Prog.Keeps (At t) (p.prog env) := by
  have hdate : Prog.Keeps (At t) newDate := keeps_plain (calls_newDate Plain.refl)
  cases p with
  | checkActiveSessions =>
    exact .bind (keeps_query steady_at _) fun _ =>
      Scheduler.keeps_forEachSafely fun p _ => keeps_checkSession env p.1 p.2
  | checkRulesAndSchedules =>
    exact .bind hdate fun _ => .bind (keeps_query steady_at _) fun rules =>
      .forEach rules fun p _ =>
      .ite (fun _ => Scheduler.keeps_forEachSafely fun d _ =>
        keeps_plain (plain_enforceBedtimeRule p.1 d))
        fun _ => .pure ()
  | detectDnsBypass =>
    exact .bind hdate fun _ => .bind (keeps_query steady_at _) fun _ =>
      Scheduler.keeps_forEachSafely fun d _ => keeps_plain (plain_reportBypass env d)
  | monitorDeviceHealth =>
    exact .bind hdate fun _ => .bind (keeps_query steady_at _) fun _ =>
      Scheduler.keeps_forEachSafely fun d _ => keeps_reportSilent env d
  | notifyLowProtection =>
    exact .bind (keeps_query steady_at _) fun _ =>
      Scheduler.keeps_forEachSafely fun d _ => keeps_reportLowProtection env d
  | enforceDeviceSchedules =>
    exact .bind (keeps_query steady_at _) fun _ => .bind hdate fun now =>
      Scheduler.keeps_forEachSafely fun d _ => keeps_plain (plain_enforceSchedule env now d)

theorem keeps_requestMoreTime (env : Env) (id : String) (n : ℤ) :
    Prog.Keeps (At t) (ChildAgent.requestMoreTime env id n) := by
  have htype : ∀ k ∈ kinds, NotificationType.childRequestMoreTime ≠ k.type := by decide
  exact .bind (keeps_query steady_at _) fun _ => .bind (.orThrow _ _) fun _ =>
    .bind (keeps_plain (plain_notify env htype)) fun _ => .pure _

theorem keeps_markReadForUser (u id : String) :
    Prog.Keeps (At t) (Notifications.markReadForUser u id) := by
  unfold Notifications.markReadForUser Prisma.findFirst
  exact .bind (keeps_query steady_at _) fun _ => .bind (.orThrow _ _) fun _ =>
    keeps_plain (plain_patch id (fun _ => rfl) (fun _ => rfl) (fun _ => rfl) fun _ => rfl)

end At

/-! ### Runs -/

section Run
variable {env : Env} {w : World}

theorem apart_occur (o : Occurrence) (h : Apart w.db) : Apart (occur env w o).db := by
  have hat : At o.time { w with now := o.time } := ⟨rfl, h⟩
  obtain ⟨t, e⟩ := o
  cases e with
  | pass p => exact (keeps_pass env p _ hat).2
  | requestMoreTime id n => exact (keeps_requestMoreTime env id n _ hat).2
  | markReadForUser u id => exact (keeps_markReadForUser u id _ hat).2
  | rest r => exact fun k hk => (h k hk).sublist (r.sublist w)

theorem apart_run (h : Apart w.db) (os : List Occurrence) : Apart (os.foldl (occur env) w).db := by
  induction os generalizing w with
  | nil => exact h
  | cons o os ih => exact ih (apart_occur o h)

end Run

/-- **Notices that are told once in a while.** If the notices of a server are apart at the start, as
they are when there are none, then after any run the table has at most one notice of a kind about a
subject in any stretch of time as long as the kind's window. Deleted notices are not counted. -/
theorem one_notice_in_window (env : Env) {w : World} (h : Apart w.db) (os : List Occurrence)
    {k : Damped} (hk : k ∈ kinds) (x : String) (t : Time) :
    (os.foldl (occur env) w).db.notificationEvents.rows.countP (fun n =>
      k.key n = some x ∧ t ≤ n.createdAt ∧ n.createdAt ≤ t + k.window) ≤ 1 :=
  (apart_run h os k hk).countP_le_one x t

/-- A device that is poorly protected. -/
def phone : Device := { Household.device "phone" "amal" "adam" with protectionScore := 20 }

/-- The households with the phone. -/
def home : World := .fresh (Household.withDevices [phone] (List.nodup_singleton phone.id)) 0

/-- Two passes an hour apart. -/
def hourly : List Occurrence :=
  [⟨0, .pass .notifyLowProtection⟩, ⟨3600000, .pass .notifyLowProtection⟩]

theorem one_notice_in_window_home :
    (hourly.foldl (occur .plain) home).db.notificationEvents.rows.countP (fun n =>
      weakness.key n = some "phone" ∧ (0 : Time) ≤ n.createdAt ∧
        n.createdAt ≤ 0 + weakness.window) ≤ 1 := by
  have hempty : home.db.notificationEvents.rows = [] := rfl
  refine one_notice_in_window .plain (fun k _ => ?_) hourly (by simp [kinds]) "phone" 0
  rw [hempty]
  exact List.Pairwise.nil

end GuardTime.Push.Spacing
