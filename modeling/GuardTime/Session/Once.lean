import Mathlib.Tactic
import GuardTime.Services.Calls
import GuardTime.Household

/-! # Expiry under overlapping passes

Any number of passes of `checkActiveSessions`, interleaved call by call. A pass expires the sessions
it has listed without looking at them again, so two overlapping passes notify the parent twice. In a
run in which every pass finds the session still `ACTIVE` when it expires it, the session gets at
most one `TIME_ENDED` notification and one `SESSION_EXPIRED` entry (`expires_once`). -/

namespace GuardTime.Session.Once

open GuardTime.Lib.Program GuardTime.Lib.Interleave GuardTime.Lib.Keyed GuardTime.Lib.Js
open GuardTime.Schema GuardTime.Server GuardTime.Prisma GuardTime.Services

/-! ### What a session has got -/

/-- Its `TIME_ENDED` notifications. -/
def ended (sid : String) (w : World) : ℕ :=
  w.db.notificationEvents.rows.countP fun n => n.type = .timeEnded && n.sessionId = some sid

/-- Its `SESSION_EXPIRED` entries. -/
def logged (sid : String) (w : World) : ℕ :=
  w.db.auditLogs.rows.countP fun a =>
    a.action = "SESSION_EXPIRED" && a.entity = "session" && a.entityId = some sid

/-- Its status. -/
def status (sid : String) (w : World) : Option SessionStatus :=
  (w.db.sessions.find sid).map Session.status

/-- Nothing happens to the session. -/
structure Quiet (sid : String) (w w' : World) : Prop where
  status : status sid w' = status sid w
  ended : ended sid w' = ended sid w
  logged : logged sid w' = logged sid w

section Quiet
variable {sid : String}

theorem quiet_of_tables {w w' : World} (hs : w'.db.sessions = w.db.sessions)
    (hn : w'.db.notificationEvents = w.db.notificationEvents)
    (ha : w'.db.auditLogs = w.db.auditLogs) : Quiet sid w w' where
  status := by rw [status, hs, status]
  ended := by rw [ended, hn, ended]
  logged := by rw [logged, ha, logged]

theorem idle_quiet : Idle (Quiet sid) := fun _ => quiet_of_tables rfl rfl rfl

theorem refl_quiet (w : World) : Quiet sid w w := quiet_of_tables rfl rfl rfl

/-- A count over a table with a new row. -/
theorem countP_insert {ρ : Type} {key : ρ → String} {t t' : Table key} {r : ρ} (p : ρ → Bool)
    (h : t.insert r = some t') : t'.rows.countP p = t.rows.countP p + if p r then 1 else 0 := by
  rw [(Table.insert_eq_some h).2, List.countP_append, List.countP_singleton]

/-- A count that an update does not matter to. -/
theorem countP_patch {ρ : Type} {key : ρ → String} {m : Model key} {t : Table key} {now : Time}
    {k : String} {f : ρ → ρ} {hf : ∀ r, key (f r) = key r} (p : ρ → Bool)
    (h : ∀ r, p (m.touch now (f r)) = p r) :
    (m.patch t now k f hf).rows.countP p = t.rows.countP p := by
  rw [Model.patch, Table.modify, List.countP_map]
  refine List.countP_congr fun r _ => ?_
  simp only [Function.comp]
  split_ifs
  · rw [h]
  · rfl

/-- A notification that is none of the session's expiry. -/
theorem quiet_notice {data : Notifications.Data}
    (h : data.type ≠ .timeEnded ∨ data.sessionId ≠ some sid) :
    Calls (Quiet sid) (Prisma.create .notificationEvent (noticeRow data)) := by
  refine calls_create idle_quiet fun w t ht => ⟨rfl, ?_, rfl⟩
  have hcount := countP_insert (fun n : NotificationEvent =>
    n.type = .timeEnded && n.sessionId = some sid) ht
  have hnot : (decide ((noticeRow data (w.uuids w.calls 0) w.now).type = .timeEnded) &&
      decide ((noticeRow data (w.uuids w.calls 0) w.now).sessionId = some sid)) = false := by
    rcases h with h | h <;> simp [noticeRow, h]
  rw [hnot] at hcount
  exact hcount

/-- An entry that is none of the session's expiry. -/
theorem quiet_log {data : Audit.Entry} (h : data.entity ≠ "session" ∨ data.entityId ≠ some sid) :
    Calls (Quiet sid) (Audit.log data) := by
  refine .bind (calls_create idle_quiet fun w t ht => ⟨rfl, rfl, ?_⟩) fun _ => .pure _
  have hcount := countP_insert (fun a : AuditLog =>
    a.action = "SESSION_EXPIRED" && a.entity = "session" && a.entityId = some sid) ht
  refine hcount.trans ?_
  rcases h with h | h <;> simp [h, logged, Model.auditLog]

theorem deliverCalls : DeliverCalls (Quiet sid) where
  refl := refl_quiet
  idle := idle_quiet
  pushToken _ _ := quiet_of_tables rfl rfl rfl
  sent _ := calls_update idle_quiet fun w r _ =>
    ⟨rfl, @countP_patch _ _ _ _ _ _ _ (fun _ => by rfl) _ fun _ => rfl, rfl⟩

theorem expiryCalls : ExpiryCalls (Quiet sid) where
  refl := refl_quiet
  idle := idle_quiet
  command _ _ := quiet_of_tables rfl rfl rfl
  queue _ _ := quiet_of_tables rfl rfl rfl
  cache _ _ := quiet_of_tables rfl rfl rfl
  log data h := quiet_log (.inl (by rw [h]; decide))
  routerCommand _ _ := quiet_of_tables rfl rfl rfl
  status _ _ := calls_update idle_quiet fun _ _ _ => quiet_of_tables rfl rfl rfl
  deliver := deliverCalls
  categoryBlock _ _ := quiet_of_tables rfl rfl rfl

end Quiet

/-! ### One pass -/

/-- What `expire` writes. -/
def expiredRow (now : Time) (s : Session) : Session :=
  { s with status := .expired, expiredAt := some now, remainingMinutes := 0 }

theorem expiredRow_id (now : Time) (s : Session) : (expiredRow now s).id = s.id := rfl

/-- The statuses when the session `k` is expired. -/
theorem status_expired {k : String} (sid : String) (now : Time) (w : World) :
    status sid (World.afterCall w (Model.session.set w.db
      (Model.session.patch w.db.sessions w.now k (expiredRow now) (expiredRow_id now)))) =
      if k = sid then (status sid w).map fun _ => .expired else status sid w := by
  change Option.map Session.status (Table.find (Model.session.patch w.db.sessions w.now k
    (expiredRow now) (expiredRow_id now)) sid) = _
  rw [Model.find_patch, status]
  rcases hs : w.db.sessions.find sid with _ | s
  · simp
  · have hid : s.id = sid := Table.key_of_find hs
    simp only [Option.map_some, hid, eq_comm]
    split_ifs <;> rfl

/-- The call with which `expire` writes it. -/
def expireCall (sid : String) (now : Time) (w : World) : World :=
  ((Prisma.update .session sid (expiredRow now)).run w).2

/-- Where a pass stands with a session. -/
inductive Phase where
  | before | expired | notified | finished
deriving DecidableEq

/-- The notifications a pass has created for it. -/
def Phase.notices : Phase → ℕ
  | before | expired => 0
  | notified | finished => 1

/-- The entries a pass has written for it. -/
def Phase.entries : Phase → ℕ
  | before | expired | notified => 0
  | finished => 1

/-- What a call of a pass does to the session. -/
inductive Does (sid : String) (u : World → World) : Phase → World → Phase → Prop
  | quiet {q : Phase} {w : World} (h : Quiet sid w (u w)) : Does sid u q w q
  | expire {w : World} (now : Time) (hu : u = expireCall sid now)
    (hs : status sid (u w) = some .expired) (he : ended sid (u w) = ended sid w)
    (hl : logged sid (u w) = logged sid w) : Does sid u .before w .expired
  | notify {w : World} (hs : status sid (u w) = status sid w)
    (he : ended sid (u w) = ended sid w + 1) (hl : logged sid (u w) = logged sid w) :
    Does sid u .expired w .notified
  | log {w : World} (hs : status sid (u w) = status sid w) (he : ended sid (u w) = ended sid w)
    (hl : logged sid (u w) = logged sid w + 1) : Does sid u .notified w .finished

section Pass
variable {sid : String} {env : Env}

/-- A program that leaves the session alone stays where it is. -/
theorem follows_quiet {α : Type} {p : Api α} (h : Calls (Quiet sid) p) (q : Phase) :
    Follows (Does sid) (fun q' _ => q' = q) p q :=
  .of_calls h rfl fun _ q' s hq h => ⟨q', .quiet (h s), hq⟩

/-- A session that is expired under another identifier. -/
theorem quiet_expire {id : String} (h : id ≠ sid) : Calls (Quiet sid) (Sessions.expire id) := by
  refine .bind (calls_query idle_quiet _) fun found => .bind (.orThrow _ _) fun _ =>
    .bind (calls_newDate refl_quiet) fun now => calls_update idle_quiet fun w r hr => ⟨?_, rfl, rfl⟩
  exact (status_expired sid now w).trans (if_neg h)

theorem quiet_checkSession {s : Session} (h : s.id ≠ sid) (d : Device) :
    Calls (Quiet sid) (Scheduler.checkSession env s d) := by
  have hne : some s.id ≠ some sid := fun he => h (Option.some.inj he)
  refine expiryCalls.checkSession env d (quiet_expire h) ?_ ?_ ?_
  · exact fun data hdata => quiet_notice (.inr (by rw [hdata]; exact hne))
  · exact fun data hdata => quiet_notice (.inl (by rw [hdata]; decide))
  · exact fun data hdata => quiet_log (.inr (by rw [hdata]; exact hne))

/-- `expire`: the session is expired, or there is none. -/
theorem follows_expire : Follows (Does sid)
    (fun q r => q = .expired ∨ q = .before ∧ ∃ e, r = .error e) (Sessions.expire sid) .before := by
  refine .bind (follows_quiet (calls_query idle_quiet _) _) ?_ fun q e hq => .inr ⟨hq, e, rfl⟩
  rintro q found rfl
  refine .bind (follows_quiet (.orThrow _ _) _) ?_ fun q e hq => .inr ⟨hq, e, rfl⟩
  rintro q s rfl
  refine .bind (follows_quiet (calls_newDate refl_quiet) _) ?_ fun q e hq => .inr ⟨hq, e, rfl⟩
  rintro q now rfl
  refine follows_update (m := .session) (f := expiredRow now) ?_ ?_
  · intro w e hrun
    refine ⟨.before, .quiet ?_, .inr ⟨rfl, e, rfl⟩⟩
    rw [hrun]
    exact idle_quiet w
  · intro w r hr hrun
    refine ⟨.expired, .expire now rfl ?_ ?_ ?_, .inl rfl⟩ <;> rw [hrun]
    · refine (status_expired sid now w).trans ?_
      rw [if_pos rfl, status, show w.db.sessions.find sid = some r from hr]
      rfl
    · rfl
    · rfl

/-- The notification of the expiry is created, or refused. -/
theorem follows_notice {data : Notifications.Data} (htype : data.type = .timeEnded)
    (hsid : data.sessionId = some sid) : Follows (Does sid)
      (fun q r => q = .notified ∨ q = .expired ∧ ∃ e, r = .error e)
      (Notifications.create env data) .expired := by
  have hcreate : Follows (Does sid) (fun q r => q = .notified ∨ q = .expired ∧ ∃ e, r = .error e)
      (Prisma.create .notificationEvent (noticeRow data)) .expired := by
    refine follows_create ?_ ?_
    · intro u w e hu
      refine ⟨.expired, .quiet ?_, .inr ⟨rfl, e, rfl⟩⟩
      rw [hu]
      exact idle_quiet w
    · intro u w t ht hu
      refine ⟨.notified, .notify ?_ ?_ ?_, .inl rfl⟩ <;> rw [hu]
      · rfl
      · refine (countP_insert (fun n : NotificationEvent =>
          n.type = .timeEnded && n.sessionId = some sid) ht).trans ?_
        simp [noticeRow, htype, hsid, ended, Model.notificationEvent]
      · rfl
  rw [create_eq]
  refine .bind hcreate ?_ ?_
  · rintro q n (rfl | ⟨-, e, he⟩)
    · exact (follows_quiet (deliverCalls.afterNotice env data n) _).mono fun q' _ hq => .inl hq
    · cases he
  · rintro q e (rfl | ⟨rfl, -⟩)
    · exact .inl rfl
    · exact .inr ⟨rfl, e, rfl⟩

/-- The entry of the expiry is written, or refused. -/
theorem follows_log {data : Audit.Entry} (haction : data.action = "SESSION_EXPIRED")
    (hentity : data.entity = "session") (hsid : data.entityId = some sid) :
    Follows (Does sid) (fun _ _ => True) (Audit.log data) .notified := by
  refine .bind (F := fun _ _ => True) (follows_create ?_ ?_) (fun _ _ _ => trivial)
    fun _ _ _ => trivial
  · intro u w e hu
    refine ⟨.notified, .quiet ?_, trivial⟩
    rw [hu]
    exact idle_quiet w
  · intro u w t ht hu
    refine ⟨.finished, .log ?_ ?_ ?_, trivial⟩ <;> rw [hu]
    · rfl
    · rfl
    · refine (countP_insert (fun a : AuditLog =>
        a.action = "SESSION_EXPIRED" && a.entity = "session" && a.entityId = some sid) ht).trans ?_
      simp [haction, hentity, hsid, logged, Model.auditLog]

/-- **One session of a pass**: it is expired, notified and logged once each, in this order. -/
theorem follows_checkSession {s : Session} (h : s.id = sid) (d : Device) :
    Follows (Does sid) (fun _ _ => True) (Scheduler.checkSession env s d) .before := by
  subst h
  refine .bind (follows_quiet (calls_newDate refl_quiet) _) ?_ fun _ _ _ => trivial
  rintro q now rfl
  dsimp only
  split_ifs
  · refine .bind follows_expire ?_ fun _ _ _ => trivial
    rintro q r (rfl | ⟨-, e, he⟩)
    · refine .bind (follows_quiet (expiryCalls.handleOfflineViolation d) _) ?_
        fun _ _ _ => trivial
      rintro q result rfl
      refine .bind (follows_quiet (expiryCalls.blockGaming _ _) _) ?_ fun _ _ _ => trivial
      rintro q - rfl
      refine .bind (follows_notice rfl rfl) ?_ fun _ _ _ => trivial
      rintro q n (rfl | ⟨-, e, he⟩)
      · exact follows_log rfl rfl rfl
      · cases he
    · cases he
  · have hten : Calls (Quiet s.id) (Scheduler.notifyTenMinutesLeft env s
        (Sessions.calculateRemainingMinutes now s)) :=
      expiryCalls.notifyTenMinutesLeft env s _ fun data hdata =>
        quiet_notice (.inl (by rw [hdata]; decide))
    exact (follows_quiet hten _).mono fun _ _ _ => trivial
  · trivial

theorem follows_sessions : ∀ {ps : List (Session × Device)}, (ps.map fun p => p.1.id).Nodup →
    Follows (Does sid) (fun _ _ => True)
      (Scheduler.forEachSafely ps fun p => Scheduler.checkSession env p.1 p.2) .before
  | [], _ => trivial
  | p :: ps, h => by
    obtain ⟨hp, hps⟩ := List.nodup_cons.mp h
    by_cases hid : p.1.id = sid
    · refine .bind (F := fun _ _ => True) (.catchErr (follows_checkSession hid p.2)
        (fun _ _ _ => trivial) fun _ _ _ => trivial) ?_ fun _ _ _ => trivial
      rintro q - -
      have hrest : Calls (Quiet sid)
          (Scheduler.forEachSafely ps fun p => Scheduler.checkSession env p.1 p.2) := by
        refine .forEach ps fun p' hp' => .catchErr (quiet_checkSession ?_ _) fun _ => .pure _
        intro hid'
        exact hp (List.mem_map.mpr ⟨p', hp', hid'.trans hid.symm⟩)
      exact (follows_quiet hrest q).mono fun _ _ _ => trivial
    · refine .bind (follows_quiet (.catchErr (quiet_checkSession hid p.2) fun _ => .pure _) _) ?_
        fun _ _ _ => trivial
      rintro q - rfl
      exact follows_sessions hps

/-- A pass takes the session through the phases once. -/
theorem follows_pass : Follows (Does sid) (fun _ _ => True) (Scheduler.checkActiveSessions env)
    .before := by
  refine fun w => ⟨.before, .quiet (idle_quiet w), ?_⟩
  exact follows_sessions (Scheduler.nodup_activeSessions w.db (w.tape w.calls))

end Pass

/-! ### Runs -/

/-- The pool of passes after `n` moves. -/
def pool (env : Env) (w : World) (moves : ℕ → Move Unit World) : ℕ → Pool Unit World Err Unit :=
  (Pool.idle w).after (fun _ _ => Scheduler.checkActiveSessions env) moves

/-- The rest of the server leaves sessions, notifications and the audit log alone. -/
def Elsewhere (moves : ℕ → Move Unit World) : Prop :=
  ∀ n f, moves n = .other f → ∀ w, (f w).db.sessions = w.db.sessions ∧
    (f w).db.notificationEvents = w.db.notificationEvents ∧ (f w).db.auditLogs = w.db.auditLogs

/-- A pass that is about to expire the session finds it `ACTIVE`. -/
def Timely (sid : String) (P : Pool Unit World Err Unit) (m : Move Unit World) : Prop :=
  ∀ i now k, m = .call i → P.prog i = some (.act (expireCall sid now) k) →
    status sid P.state = some .active

/-- How passes go through the phases. -/
def protocol (sid : String) : Protocol Unit World Err Unit Phase where
  init _ := .before
  step _ := Does sid
  ends _ _ _ := True

/-- No pass has begun to expire the session, or one has and the session is no longer `ACTIVE`. -/
inductive Stands (sid : String) (e l : ℕ) (w : World) (g : Locals Unit Phase) : Prop
  | nobody (hall : ∀ j q, g j = some ((), q) → q = .before) (he : ended sid w = e)
    (hl : logged sid w = l) : Stands sid e l w g
  | one (i : ℕ) (q : Phase) (hi : g i = some ((), q)) (hq : q ≠ .before)
    (hothers : ∀ j q', j ≠ i → g j = some ((), q') → q' = .before)
    (hs : status sid w ≠ some .active) (he : ended sid w = e + q.notices)
    (hl : logged sid w = l + q.entries) : Stands sid e l w g

section Run
variable {sid : String} {e l : ℕ} {g g' : Locals Unit Phase}

theorem Stands.quiet {w w' : World} (h : Stands sid e l w g) (hw : Quiet sid w w') :
    Stands sid e l w' g := by
  cases h with
  | nobody hall he hl => exact .nobody hall (hw.ended.trans he) (hw.logged.trans hl)
  | one i q hi hq hothers hs he hl =>
    exact .one i q hi hq hothers (by rw [hw.status]; exact hs) (hw.ended.trans he)
      (hw.logged.trans hl)

/-- The pass that has begun goes on. -/
theorem Stands.next {w w' : World} {i : ℕ} {q q' : Phase} (h : Stands sid e l w g)
    (hi : g i = some ((), q)) (hq : q ≠ .before) (hq' : q' ≠ .before)
    (hs : status sid w' = status sid w) (he : ended sid w' + q.notices = ended sid w + q'.notices)
    (hl : logged sid w' + q.entries = logged sid w + q'.entries) :
    Stands sid e l w' (Function.update g i (some ((), q'))) := by
  cases h with
  | nobody hall _ _ => exact absurd (hall i q hi) hq
  | one j r hj hr hothers hsj hej hlj =>
    obtain rfl : i = j := by
      by_contra hne
      exact hq (hothers i q hne hi)
    obtain rfl : r = q := by
      rw [hi] at hj
      cases hj
      rfl
    refine .one i q' (Function.update_self ..) hq' ?_ (by rw [hs]; exact hsj) (by omega) (by omega)
    intro k p hk hp
    rw [Function.update_of_ne hk] at hp
    exact hothers k p hk hp

variable {P P' : Pool Unit World Err Unit} {m : Move Unit World}

theorem stands_step (h : Stands sid e l P.state g) (hm : (protocol sid).Moved P g m P' g')
    (hcond : Timely sid P m) (hother : ∀ f, m = .other f → Quiet sid P.state (f P.state)) :
    Stands sid e l P'.state g' := by
  cases hm with
  | @start t i _ hi hs =>
    rw [hs]
    cases h with
    | nobody hall he hl =>
      refine .nobody (fun j q hj => ?_) he hl
      by_cases hij : j = i
      · subst hij
        rw [Function.update_self] at hj
        cases hj
        rfl
      · rw [Function.update_of_ne hij] at hj
        exact hall j q hj
    | one k q hk hq hothers hst he hl =>
      have hne : k ≠ i := by
        rintro rfl
        rw [hi] at hk
        cases hk
      refine .one k q (by rw [Function.update_of_ne hne, hk]) hq (fun j q' hj hj' => ?_) hst he hl
      by_cases hij : j = i
      · subst hij
        rw [Function.update_self] at hj'
        cases hj'
        rfl
      · rw [Function.update_of_ne hij] at hj'
        exact hothers j q' hj hj'
  | @call i t q q' u k _ hi hp hstep hs =>
    rw [hs]
    cases hstep with
    | quiet hquiet =>
      have hsame : Function.update g i (some (t, q)) = g := by
        rw [← hi]
        exact Function.update_eq_self i g
      rw [hsame]
      exact h.quiet hquiet
    | expire now hu hst he hl =>
      subst hu
      have hactive := hcond i now k rfl hp
      cases h with
      | nobody hall hen hlo =>
        refine .one i .expired (Function.update_self ..) (by decide) (fun j q' hj hj' => ?_)
          (by rw [hst]; decide) (by rw [he, hen]; rfl) (by rw [hl, hlo]; rfl)
        rw [Function.update_of_ne hj] at hj'
        exact hall j q' hj'
      | one j q hj hq hothers hsj hej hlj => exact absurd hactive hsj
    | notify hst he hl =>
      exact h.next hi (by decide) (by decide) hst (by rw [he]; rfl) (by rw [hl]; rfl)
    | log hst he hl =>
      exact h.next hi (by decide) (by decide) hst (by rw [he]; rfl) (by rw [hl]; rfl)
  | idle _ => exact h
  | @other f _ hs =>
    rw [hs]
    exact h.quiet (hother f rfl)

end Run

/-- **A session expires once**, in every run in which every pass that is about to expire it finds it
`ACTIVE`: it gets at most one `TIME_ENDED` notification and at most one `SESSION_EXPIRED` entry. -/
theorem expires_once {env : Env} {w : World} {moves : ℕ → Move Unit World} {sid : String}
    (hother : Elsewhere moves) (hcond : ∀ n, Timely sid (pool env w moves n) (moves n)) (n : ℕ) :
    ended sid (pool env w moves n).state ≤ ended sid w + 1 ∧
      logged sid (pool env w moves n).state ≤ logged sid w + 1 := by
  obtain ⟨g, hg⟩ := (protocol sid).exists_locals (fun _ _ => follows_pass) w moves
  have hstands : ∀ n, Stands sid (ended sid w) (logged sid w) (pool env w moves n).state (g n) := by
    intro n
    induction n with
    | zero =>
      refine .nobody (fun j q hj => ?_) rfl rfl
      rw [hg.zero] at hj
      cases hj
    | succ n ih =>
      refine stands_step ih (hg.moved n) (hcond n) fun f hf => ?_
      obtain ⟨h1, h2, h3⟩ := hother n f hf (pool env w moves n).state
      exact quiet_of_tables h1 h2 h3
  cases hstands n with
  | nobody hall he hl => omega
  | one i q hi hq hothers hs he hl =>
    have hle : q.notices ≤ 1 ∧ q.entries ≤ 1 := by cases q <;> decide
    omega

/-! ### Passes one after the other, and overlapping -/

/-- A session of an hour. -/
def hour : Session :=
  ⟨"hour", "phone", "adam", "amal", .active, 0, none, none, none, none, 60, 60, 0, false,
    none, 0, 0⟩

/-- The households with the session, two hours after its start. -/
def overdue : World :=
  .fresh { Household.withDevices [Household.device "phone" "amal" "adam"]
    (Household.nodup_device "phone" "amal" "adam") with
    sessions := ⟨[hour], by decide⟩ } 7200000

/-- One pass after the other. -/
def inTurn : ℕ → Move Unit World := schedule
  (.start () :: (List.replicate 24 (.call 0) ++ .start () :: List.replicate 4 (.call 1)))

/-- Two passes that both list the session. -/
def overlapping : ℕ → Move Unit World := schedule
  ([.start (), .start (), .call 0, .call 1] ++ List.replicate 24 (.call 0) ++
    List.replicate 24 (.call 1))

/-- The session is `ACTIVE`, or the next call would leave it so. -/
def spared (P : Pool Unit World Err Unit) (m : Move Unit World) : Bool :=
  status "hour" P.state = some .active ||
    match m with
    | .call i =>
      match P.prog i with
      | some (.act u _) => status "hour" (u overdue) = some .active
      | _ => true
    | _ => true

theorem timely_of_spared {P : Pool Unit World Err Unit} {m : Move Unit World}
    (h : spared P m = true) : Timely "hour" P m := by
  rintro i now k rfl hp
  rcases Bool.or_eq_true_iff.mp h with hactive | hspared
  · simpa using hactive
  · simp only [hp] at hspared
    have hexpired : status "hour" (expireCall "hour" now overdue) = some .expired := rfl
    rw [hexpired] at hspared
    simp at hspared

theorem expires_once_inTurn :
    status "hour" (pool .plain overdue inTurn 30).state = some .expired ∧
      ended "hour" (pool .plain overdue inTurn 30).state ≤ ended "hour" overdue + 1 ∧
      logged "hour" (pool .plain overdue inTurn 30).state ≤ logged "hour" overdue + 1 := by
  have hother : Elsewhere inTurn := forall_other_schedule (by simp)
  have hcond : ∀ n, Timely "hour" (pool .plain overdue inTurn n) (inTurn n) := by
    refine forall_schedule (C := fun P m => Timely "hour" P m) ?_ ?_
    · rintro P i hi j now k ⟨⟩ hp
      rw [hi] at hp
      cases hp
    · intro n hn
      refine timely_of_spared ?_
      have hall : ∀ n < 30, spared (pool .plain overdue inTurn n) (inTurn n) = true := by
        decide +kernel
      exact hall n hn
  exact ⟨by decide +kernel, expires_once hother hcond 30⟩

/-- The parent is notified twice, and the log has two entries. -/
theorem expires_twice : ¬ ∀ (env : Env) (w : World) (moves : ℕ → Move Unit World), Elsewhere moves →
    ∀ sid n, ended sid (pool env w moves n).state ≤ ended sid w + 1 ∧
      logged sid (pool env w moves n).state ≤ logged sid w + 1 := by
  intro h
  have hother : Elsewhere overlapping := forall_other_schedule (by simp)
  have htwice := (h .plain overdue overlapping hother "hour" 52).1
  revert htwice
  decide +kernel

end GuardTime.Session.Once
