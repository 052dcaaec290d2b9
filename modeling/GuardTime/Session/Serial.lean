import Mathlib.Tactic
import GuardTime.Services.Calls
import GuardTime.Session.Runs
import GuardTime.Household

/-! # Requests on one session, interleaved

Any number of `pause`, `resume`, `extend` and `stop` requests on a session and of scheduler passes,
one call at a time. Each reads the row first and writes absolute values later, so a write may undo
another one. As long as every write finds the row its request has read, the row is the result of the
successful requests one after the other, in the order of their writes (`no_lost_update`). -/

namespace GuardTime.Session.Serial

open GuardTime.Lib.Program GuardTime.Lib.Interleave GuardTime.Lib.Keyed GuardTime.Lib.Js
open GuardTime.Schema GuardTime.Server GuardTime.Prisma GuardTime.Services
open GuardTime.Services.Sessions (ExtendSessionDto calculateRemainingMinutes)

/-! ### Requests -/

/-- A request of a parent on the session, or a pass of the scheduler. -/
inductive Request where
  | pause (parentId : String)
  | resume (parentId : String)
  | extend (parentId : String) (dto : ExtendSessionDto)
  | stop (parentId : String)
  | pass

namespace Request

/-- What the request does to the session; a pass expires it. -/
def op (sid : String) : Request → Runs.Request
  | pause p => .pause sid p
  | resume p => .resume sid p
  | extend p dto => .extend sid p dto
  | stop p => .stop sid p
  | pass => .expire sid

/-- What the services do. -/
def prog (env : Env) (sid : String) : Request → Api (Option Session)
  | pass => do
    Scheduler.checkActiveSessions env
    pure none
  | r => do
    let s ← (r.op sid).prog env
    pure (some s)

/-- The request is carried out on the row; a pass decides at the time `decided`. -/
def Accepts (decided : Time) (s : Session) : Request → Prop
  | pause p => s.parentId = p ∧ s.status = .active
  | resume p => s.parentId = p ∧ s.status = .paused
  | extend p _ => s.parentId = p ∧ (s.status = .active ∨ s.status = .paused)
  | stop p => s.parentId = p ∧ s.status ≠ .stopped
  | pass => s.status = .active ∧ calculateRemainingMinutes decided s ≤ 0

/-- The minutes the request adds. -/
def extra : Request → ℤ
  | extend _ dto => dto.extraMinutes
  | _ => 0

end Request

/-! ### One after the other -/

/-- A request that is carried out, with the clock readings of its decision, its data and its
write. -/
structure Entry where
  thread : ℕ
  request : Request
  decided : Time
  read : Time
  written : Time

/-- The row after the request, executed alone. -/
def Entry.apply (sid : String) (e : Entry) (s : Session) : Session :=
  { (e.request.op sid).next e.read s with updatedAt := e.written }

/-- The rows before and after the requests, executed one after the other. -/
inductive Serially (sid : String) (s : Session) : List Entry → Session → Prop
  | nil : Serially sid s [] s
  | snoc {es : List Entry} {e : Entry} {s' : Session} (h : Serially sid s es s')
    (ha : e.request.Accepts e.decided s') : Serially sid s (es ++ [e]) (e.apply sid s')

section Serially
variable {sid : String} {s s' : Session} {es : List Entry}

/-- Extensions add up. -/
theorem Serially.extended (h : Serially sid s es s') :
    s'.extendedMinutes = s.extendedMinutes + (es.map fun e => e.request.extra).sum := by
  induction h with
  | nil => simp
  | @snoc es e s' h ha ih =>
    rw [List.map_append, List.sum_append, ← add_assoc, ← ih]
    rcases hr : e.request with p | p | ⟨p, dto⟩ | p | _ <;> rw [hr] at ha
    · simp [Entry.apply, hr, Request.op, Runs.Request.next, Lifecycle.Op.next, ha.1, ha.2,
        Request.extra]
    · simp [Entry.apply, hr, Request.op, Runs.Request.next, Lifecycle.Op.next, ha.1, ha.2,
        Request.extra]
    · have hstatus := ha.2
      simp [Entry.apply, hr, Request.op, Runs.Request.next, Lifecycle.Op.next, ha.1, hstatus,
        Request.extra]
    · simp [Entry.apply, hr, Request.op, Runs.Request.next, ha.1, ha.2, Request.extra]
    · simp [Entry.apply, hr, Request.op, Runs.Request.next, Request.extra]

/-- Nothing is carried out on a stopped session. -/
theorem Serially.stopped (h : Serially sid s es s') :
    (∃ e ∈ es, ∃ p, e.request = .stop p) → s'.status = .stopped := by
  induction h with
  | nil =>
    rintro ⟨e, he, -⟩
    simp at he
  | @snoc es e s' h ha ih =>
    rintro ⟨e', he', p, hp⟩
    rcases List.mem_append.mp he' with hmem | hmem
    · have hstopped := ih ⟨e', hmem, p, hp⟩
      rcases hr : e.request with q | q | ⟨q, dto⟩ | q | _ <;> rw [hr] at ha <;>
        simp [Request.Accepts, hstopped] at ha
    · obtain rfl := List.mem_singleton.mp hmem
      rw [hp] at ha
      simp [Entry.apply, hp, Request.op, Runs.Request.next, ha.1, ha.2]

end Serially

/-! ### What a request does call by call -/

/-- The session's row. -/
def row (sid : String) (w : World) : Option Session := w.db.sessions.find sid

/-- The session's row stays. -/
def Same (sid : String) (w w' : World) : Prop := row sid w' = row sid w

/-- The call may change the session's row. -/
def Writes (sid : String) (u : World → World) : Prop := ∃ w, ¬ Same sid w (u w)

/-- Where a request stands: it has made no call yet, it has read the row, with the clock readings
since, or it has written. -/
inductive Local where
  | idle
  | holding (s : Option Session) (ts : List Time)
  | wrote

/-- What a call of a request does to the session. -/
inductive Acts (sid : String) (r : Request) (u : World → World) : Local → World → Local → Prop
  | read {w : World} (hu : ∀ w, Same sid w (u w)) :
    Acts sid r u .idle w (.holding (row sid w) [w.now])
  | wait {w : World} {s : Option Session} {ts : List Time} (hu : ∀ w, Same sid w (u w)) :
    Acts sid r u (.holding s ts) w (.holding s (w.now :: ts))
  | write {w : World} {s : Session} {ts : List Time} {decided t : Time} (hu : Writes sid u)
    (hd : decided ∈ ts) (ht : t ∈ ts) (ha : r.Accepts decided s)
    (hrow : row sid w = some s →
      row sid (u w) = some { (r.op sid).next t s with updatedAt := w.now }) :
    Acts sid r u (.holding (some s) ts) w .wrote
  | refused {w : World} {s : Option Session} {ts : List Time} (hrow : row sid w = none)
    (hu : Same sid w (u w)) : Acts sid r u (.holding s ts) w (.holding s ts)
  | rest {w : World} (hu : ∀ w, Same sid w (u w)) : Acts sid r u .wrote w .wrote

section Calls
variable {sid : String}

theorem same_of_sessions {w w' : World} (h : w'.db.sessions = w.db.sessions) : Same sid w w' := by
  rw [Same, row, h, row]

theorem idle_same : Idle (Same sid) := fun _ => rfl

theorem refl_same (w : World) : Same sid w w := rfl

theorem deliverCalls : DeliverCalls (Same sid) where
  refl := refl_same
  idle := idle_same
  pushToken _ _ := rfl
  sent _ := calls_update idle_same fun _ _ _ => rfl

theorem same_log (data : Audit.Entry) : Calls (Same sid) (Audit.log data) :=
  .bind (calls_create idle_same fun _ _ _ => rfl) fun _ => .pure _

theorem same_notice (data : Notifications.Data) :
    Calls (Same sid) (Prisma.create .notificationEvent (noticeRow data)) :=
  calls_create idle_same fun _ _ _ => rfl

theorem expiryCalls : ExpiryCalls (Same sid) where
  refl := refl_same
  idle := idle_same
  command _ _ := rfl
  queue _ _ := rfl
  cache _ _ := rfl
  log data _ := same_log data
  routerCommand _ _ := rfl
  status _ _ := calls_update idle_same fun _ _ _ => rfl
  deliver := deliverCalls
  categoryBlock _ _ := rfl

/-- The row after an update of a session. -/
theorem row_update {k : String} {f : Session → Session} {hf : ∀ r, (f r).id = r.id} {w : World} :
    row sid (World.afterCall w
      (Model.session.set w.db (Model.session.patch w.db.sessions w.now k f hf)))
      = (row sid w).map fun s => if s.id = k then { f s with updatedAt := w.now } else s := by
  change Table.find (Model.session.patch w.db.sessions w.now k f hf) sid = _
  rw [Model.find_patch]
  rfl

/-- A session that is expired under another identifier. -/
theorem same_expire {id : String} (h : id ≠ sid) : Calls (Same sid) (Sessions.expire id) := by
  refine .bind (calls_query idle_same _) fun found => .bind (.orThrow _ _) fun _ =>
    .bind (calls_newDate refl_same) fun now => calls_update idle_same fun w r hr => ?_
  refine row_update.trans ?_
  rcases hs : row sid w with _ | s
  · rfl
  · rw [Option.map_some, if_neg fun hid => h (hid.symm.trans (Table.key_of_find hs))]

theorem same_checkSession {env : Env} {s : Session} (h : s.id ≠ sid) (d : Device) :
    Calls (Same sid) (Scheduler.checkSession env s d) :=
  expiryCalls.checkSession env d (same_expire h) (fun _ _ => same_notice _)
    (fun _ _ => same_notice _) fun _ _ => same_log _

/-- An update of the session is a write. -/
theorem writes_update {f : Session → Session} {hf : ∀ r, (f r).id = r.id} {s : Session}
    (hid : s.id = sid) (hl : Model.session.links (f s) = Model.session.links s) :
    Writes sid fun w => ((Prisma.update .session sid f hf).run w).2 := by
  let w : World := .fresh { Database.empty with sessions := ⟨[s], by simp⟩ } (s.updatedAt + 1)
  have hs : w.db.sessions.find sid = some s :=
    Table.find_eq_some.mpr ⟨by simp [w, World.fresh], hid⟩
  refine ⟨w, fun hsame => ?_⟩
  have hrow : row sid ((Prisma.update .session sid f hf).run w).2 =
      some { f s with updatedAt := w.now } := (Lifecycle.run_update_session hs hl).2
  have heq : some { f s with updatedAt := w.now } = some s := hrow.symm.trans (hsame.trans hs)
  have htime := congrArg (Option.map Session.updatedAt) heq
  simp [w, World.fresh] at htime

end Calls

section Follows
variable {sid : String} {r : Request} {s : Session} {ts : List Time}

theorem follows_wait {α : Type} {p : Api α} (h : Calls (Same sid) p) (s : Option Session)
    (ts : List Time) : Follows (Acts sid r) (fun q _ => ∃ ts', q = .holding s ts' ∧ ts ⊆ ts') p
      (.holding s ts) := by
  refine .of_calls h ⟨ts, rfl, fun _ => id⟩ ?_
  rintro u q w ⟨ts', rfl, hts⟩ hu
  exact ⟨_, .wait hu, _, rfl, fun t ht => by simp [hts ht]⟩

theorem follows_rest {α : Type} {p : Api α} (h : Calls (Same sid) p) :
    Follows (Acts sid r) (fun q _ => q = .wrote) p .wrote := by
  refine .of_calls h rfl ?_
  rintro u q w rfl hu
  exact ⟨_, .rest hu, rfl⟩

theorem follows_newDate (s : Option Session) (ts : List Time) : Follows (Acts sid r)
    (fun q res => ∃ now, q = .holding s (now :: ts) ∧ res = .ok now) newDate (.holding s ts) :=
  fun w => ⟨_, .wait fun _ => rfl, w.now, rfl, rfl⟩

theorem follows_find : Follows (Acts sid r)
    (fun q res => ∃ o t, q = .holding o [t] ∧ (∀ s, o = some s → s.id = sid) ∧ res = .ok o)
    (Prisma.findUnique .session sid) .idle :=
  fun w => ⟨_, .read fun _ => rfl, _, w.now, rfl, fun _ hs => Table.key_of_find hs, rfl⟩

/-- A request succeeds when it has written; else it still holds what it read. -/
def Ended {α : Type} (o : Option Session) (ts : List Time) (q : Local)
    (res : Except Err α) : Prop :=
  (q = .wrote ∧ ∃ a, res = .ok a) ∨ (∃ ts', q = .holding o ts' ∧ ts ⊆ ts') ∧ ∃ e, res = .error e

theorem ended_error {α : Type} {o : Option Session} {ts' : List Time} (h : ts ⊆ ts') (e : Err) :
    Ended o ts (.holding o ts') (.error e : Except Err α) := .inr ⟨⟨ts', rfl, h⟩, e, rfl⟩

theorem Ended.mono {α : Type} {o : Option Session} {ts' : List Time} {q : Local}
    {res : Except Err α} (h : Ended o ts' q res) (hts : ts ⊆ ts') : Ended o ts q res := by
  rcases h with hq | ⟨⟨ts'', rfl, hts'⟩, he⟩
  · exact .inl hq
  · exact .inr ⟨⟨ts'', rfl, fun t ht => hts' (hts ht)⟩, he⟩

/-- The update of a request. -/
theorem follows_write {f : Session → Session} {hf : ∀ r, (f r).id = r.id} {decided t : Time}
    (hid : s.id = sid) (hl : ∀ s, Model.session.links (f s) = Model.session.links s)
    (hd : decided ∈ ts) (ht : t ∈ ts) (ha : r.Accepts decided s)
    (hnext : { (r.op sid).next t s with updatedAt := t } = { f s with updatedAt := t }) :
    Follows (Acts sid r) (Ended (some s) ts) (Prisma.update .session sid f hf)
      (.holding (some s) ts) := by
  intro w
  change ∃ q', Acts sid r (fun w => ((Prisma.update .session sid f hf).run w).2) _ w q' ∧
    Ended _ _ q' ((Prisma.update .session sid f hf).run w).1
  rcases hrow : w.db.sessions.find sid with _ | s₁
  · have hrun : (Prisma.update .session sid f hf).run w =
        (.error (.prisma "P2025"), World.afterCall w w.db) := run_update_none (m := .session) hrow
    rw [hrun]
    refine ⟨_, .refused hrow ?_, ended_error (fun _ => id) _⟩
    rw [hrun]
    rfl
  · have hrun : (Prisma.update .session sid f hf).run w =
        (.ok (Model.session.touch w.now (f s₁)), World.afterCall w (Model.session.set w.db
          (Model.session.patch w.db.sessions w.now sid f hf))) :=
      run_update (m := .session) hrow rfl (hl s₁)
    rw [hrun]
    refine ⟨.wrote, .write (writes_update hid (hl s)) hd ht ha fun hs => ?_,
      .inl ⟨rfl, _, rfl⟩⟩
    obtain rfl : s₁ = s := Option.some.inj (hrow.symm.trans hs)
    rw [hrun]
    refine row_update.trans ?_
    rw [hs, Option.map_some, if_pos hid]
    have hfields := congrArg (fun s : Session => { s with updatedAt := w.now }) hnext
    exact congrArg some hfields.symm

/-- A request that validates the session, checks it and goes on to its update. -/
theorem follows_guarded {caller : String} {c : Session → Prop} [DecidablePred c] {e : Err}
    {p : Session → Api Session}
    (hp : ∀ s t, s.id = sid → s.parentId = caller → c s →
      Follows (Acts sid r) (Ended (some s) [t]) (p s) (.holding (some s) [t])) :
    Follows (Acts sid r) (fun q res => ∃ o ts, Ended o ts q res) (do
      let session ← Sessions.getAndValidate sid caller
      Prog.require (c session) e
      p session) .idle := by
  have herror : ∀ {α : Type} o t (e : Err), ∃ o' ts, Ended o' ts (.holding o [t])
      (.error e : Except Err α) := fun o t e => ⟨o, [t], ended_error (fun _ => id) e⟩
  rw [Sessions.getAndValidate]
  simp only [Prog.bind_assoc]
  refine .bind follows_find ?_ ?_
  · rintro q o ⟨_, t, rfl, hid, ho⟩
    cases ho
    refine .orThrow_bind (fun s hs => ?_) fun _ => herror _ _ _
    subst hs
    refine .require_bind (fun hcaller => ?_) fun _ => herror _ _ _
    refine .require_bind (fun hc => ?_) fun _ => herror _ _ _
    exact (hp s t (hid s rfl) hcaller hc).mono fun _ _ hq => ⟨some s, [t], hq⟩
  · rintro q e ⟨o, t, rfl, -, he⟩
    cases he

/-- A request that takes the time and goes on to its update. -/
theorem follows_dated {s : Session} {t : Time} {p : Time → Api Session}
    (hp : ∀ now, Follows (Acts sid r) (Ended (some s) [t]) (p now) (.holding (some s) [now, t])) :
    Follows (Acts sid r) (Ended (some s) [t]) (newDate >>= p) (.holding (some s) [t]) := by
  refine .bind (follows_newDate _ _) ?_ ?_
  · rintro q now ⟨_, rfl, hnow⟩
    cases hnow
    exact hp now
  · rintro q e ⟨now, -, he⟩
    cases he

/-- Every parent's request follows the protocol. -/
theorem follows_asked (env : Env) (hr : r ≠ .pass) :
    Follows (Acts sid r) (fun q res => ∃ o ts, Ended o ts q res) ((r.op sid).prog env) .idle := by
  have hwrite : ∀ {f : Session → Session} {hf : ∀ r, (f r).id = r.id} {s : Session} {t now : Time},
      s.id = sid → (∀ s, Model.session.links (f s) = Model.session.links s) → r.Accepts now s →
      { (r.op sid).next now s with updatedAt := now } = { f s with updatedAt := now } →
      Follows (Acts sid r) (Ended (some s) [t]) (Prisma.update .session sid f hf)
        (.holding (some s) [now, t]) := by
    intro f hf s t now hid hl ha hnext
    refine (follows_write hid hl (List.mem_cons_self ..) (List.mem_cons_self ..) ha hnext).mono ?_
    exact fun _ _ hq => hq.mono fun t ht => List.mem_cons_of_mem _ ht
  cases r with
  | pause p =>
    refine follows_guarded (c := fun s => s.status = .active) fun s t hid hp hc => ?_
    refine follows_dated fun now => hwrite hid (fun _ => rfl) ⟨hp, hc⟩ ?_
    simp [Request.op, Runs.Request.next, Lifecycle.Op.next, hp, hc]
  | resume p =>
    refine follows_guarded (c := fun s => s.status = .paused) fun s t hid hp hc => ?_
    refine follows_dated fun now => hwrite hid (fun _ => rfl) ⟨hp, hc⟩ ?_
    simp [Request.op, Runs.Request.next, Lifecycle.Op.next, hp, hc]
  | extend p dto =>
    refine follows_guarded (c := fun s => s.status = .active ∨ s.status = .paused)
      fun s t hid hp hc => ?_
    refine follows_write hid (fun _ => rfl) (List.mem_cons_self ..) (List.mem_cons_self ..)
      ⟨hp, hc⟩ ?_
    simp [Request.op, Runs.Request.next, Lifecycle.Op.next, hp, hc]
  | stop p =>
    refine follows_guarded (c := fun s => s.status ≠ .stopped) fun s t hid hp hc => ?_
    refine follows_dated fun now => hwrite hid (fun _ => rfl) ⟨hp, hc⟩ ?_
    simp [Request.op, Runs.Request.next, hp, hc]
  | pass => exact absurd rfl hr

/-- `expire` in a pass that has decided on the row. -/
theorem follows_expire {decided : Time} (hid : s.id = sid) (hd : decided ∈ ts)
    (ha : Request.pass.Accepts decided s) : Follows (Acts sid .pass) (Ended (some s) ts)
      (Sessions.expire sid) (.holding (some s) ts) := by
  refine .bind (follows_wait (calls_query idle_same _) _ _) ?_ ?_
  · rintro q found ⟨ts', rfl, hts⟩
    refine .orThrow_bind (fun _ _ => ?_) fun _ => ended_error hts _
    refine .bind (follows_newDate _ _) ?_ ?_
    · rintro q now ⟨_, rfl, hnow⟩
      cases hnow
      refine (follows_write hid ?_ (List.mem_cons_of_mem now (hts hd)) (List.mem_cons_self ..) ha
        ?_).mono ?_
      · exact fun _ => rfl
      · rfl
      · exact fun _ _ hq => hq.mono fun t ht => List.mem_cons_of_mem _ (hts ht)
    · rintro q e ⟨now, -, he⟩
      cases he
  · rintro q e ⟨ts', rfl, hts⟩
    exact ended_error hts e

/-- What a pass leaves of the session, whatever it returns. -/
def Passed (o : Option Session) (q : Local) : Prop := q = .wrote ∨ ∃ ts, q = .holding o ts

theorem follows_passed {α : Type} {p : Api α} {o : Option Session} {q : Local}
    (h : Calls (Same sid) p) (hq : Passed o q) :
    Follows (Acts sid r) (fun q _ => Passed o q) p q := by
  rcases hq with rfl | ⟨ts, rfl⟩
  · exact (follows_rest h).mono fun _ _ hq => .inl hq
  · refine (follows_wait h _ _).mono ?_
    rintro q - ⟨ts', rfl, -⟩
    exact .inr ⟨ts', rfl⟩

/-- The session's turn in a pass that has listed it. -/
theorem follows_checkSession {env : Env} (hid : s.id = sid) (hactive : s.status = .active)
    (d : Device) : Follows (Acts sid .pass) (fun q _ => Passed (some s) q)
      (Scheduler.checkSession env s d) (.holding (some s) ts) := by
  subst hid
  refine .bind (follows_newDate _ _) ?_ ?_
  · rintro q now ⟨_, rfl, hnow⟩
    cases hnow
    dsimp only
    split_ifs with hleft
    · refine .bind (follows_expire rfl (List.mem_cons_self ..) ⟨hactive, hleft⟩) ?_ ?_
      · rintro q s' (⟨rfl, -⟩ | ⟨-, e, he⟩)
        · refine (follows_rest ?_).mono fun _ _ hq => .inl hq
          exact .bind (expiryCalls.handleOfflineViolation d) fun _ =>
            .bind (expiryCalls.blockGaming _ _) fun _ =>
              .bind (deliverCalls.notify env (same_notice _)) fun _ => same_log _
        · cases he
      · rintro q e (⟨-, s', hs'⟩ | ⟨⟨ts', rfl, -⟩, -⟩)
        · cases hs'
        · exact .inr ⟨ts', rfl⟩
    · have hten := expiryCalls.notifyTenMinutesLeft env s (calculateRemainingMinutes now s)
        fun data _ => @same_notice s.id data
      exact follows_passed hten (.inr ⟨_, rfl⟩)
    · exact .inr ⟨_, rfl⟩
  · rintro q e ⟨now, -, he⟩
    cases he

/-- The sessions of a pass: the session itself, if it is listed, and others. -/
theorem follows_sessions {env : Env} {o : Option Session} : ∀ {ps : List (Session × Device)}
    {ts : List Time}, (∀ p ∈ ps, p.1.id = sid → o = some p.1 ∧ p.1.status = .active) →
    (ps.map fun p => p.1.id).Nodup → Follows (Acts sid .pass) (fun q _ => Passed o q)
      (Scheduler.forEachSafely ps fun p => Scheduler.checkSession env p.1 p.2) (.holding o ts)
  | [], ts, _, _ => .inr ⟨ts, rfl⟩
  | p :: ps, ts, hps, hnodup => by
    obtain ⟨hp, hnodup'⟩ := List.nodup_cons.mp hnodup
    by_cases hid : p.1.id = sid
    · obtain ⟨rfl, hactive⟩ := hps p (by simp) hid
      have hrest : Calls (Same sid)
          (Scheduler.forEachSafely ps fun p => Scheduler.checkSession env p.1 p.2) := by
        refine .forEach ps fun p' hp' => .catchErr (same_checkSession ?_ _) fun _ => .pure _
        intro hid'
        exact hp (List.mem_map.mpr ⟨p', hp', hid'.trans hid.symm⟩)
      refine .bind (F := fun q _ => Passed (some p.1) q) (.catchErr
        (follows_checkSession hid hactive p.2) (fun _ _ hq => hq) fun _ _ hq => hq)
        (fun q _ hq => follows_passed hrest hq) fun _ _ hq => hq
    · refine .bind (follows_wait (.catchErr (same_checkSession hid p.2) fun _ => .pure _) _ _) ?_ ?_
      · rintro q - ⟨ts', rfl, -⟩
        exact follows_sessions (fun p' hp' => hps p' (List.mem_cons_of_mem _ hp')) hnodup'
      · rintro q e ⟨ts', rfl, -⟩
        exact .inr ⟨ts', rfl⟩

/-- A pass follows the protocol. -/
theorem follows_pass (env : Env) : Follows (Acts sid .pass) (fun q _ => ∃ o, Passed o q)
    (Scheduler.checkActiveSessions env) .idle := by
  intro w
  refine ⟨_, .read fun _ => rfl, (follows_sessions ?_ ?_).mono fun q _ hq => ⟨_, hq⟩⟩
  · rintro ⟨s, d⟩ hp rfl
    obtain ⟨s', hs', hd⟩ := List.mem_filterMap.mp hp
    obtain ⟨d', -, heq⟩ := Option.map_eq_some_iff.mp hd
    obtain ⟨rfl, rfl⟩ := Prod.mk.inj heq
    obtain ⟨hmem, hactive⟩ := mem_matching.mp hs'
    exact ⟨Table.find_key hmem, by simpa using hactive⟩
  · exact Scheduler.nodup_activeSessions w.db (w.tape w.calls)

end Follows

/-! ### Runs -/

/-- How requests act on the session; a parent's request succeeds when it has written. -/
def protocol (sid : String) : Protocol Request World Err (Option Session) Local where
  init _ := .idle
  step := Acts sid
  ends r q res := q ≠ .idle ∧ (r ≠ .pass → ((∃ a, res = .ok a) ↔ q = .wrote))

theorem follows_prog (env : Env) (sid : String) (r : Request) : Follows ((protocol sid).step r)
    ((protocol sid).ends r) (r.prog env sid) ((protocol sid).init r) := by
  by_cases hr : r = .pass
  · subst hr
    have hidle : ∀ {q : Local}, (∃ o, Passed o q) → q ≠ .idle := by
      rintro q ⟨o, rfl | ⟨ts, rfl⟩⟩ <;> simp
    exact .bind (follows_pass env) (fun q _ hq => ⟨hidle hq, fun h => absurd rfl h⟩)
      fun q _ hq => ⟨hidle hq, fun h => absurd rfl h⟩
  · have hprog : r.prog env sid = (r.op sid).prog env >>= fun s => pure (some s) := by
      cases r <;> first | rfl | exact absurd rfl hr
    rw [hprog]
    refine .bind (follows_asked env hr) ?_ ?_
    · rintro q s ⟨o, ts, ⟨rfl, -⟩ | ⟨-, e, he⟩⟩
      · exact ⟨by simp, fun _ => ⟨fun _ => rfl, fun _ => ⟨_, rfl⟩⟩⟩
      · cases he
    · rintro q e ⟨o, ts, ⟨-, s, hs⟩ | ⟨⟨ts', rfl, -⟩, -⟩⟩
      · cases hs
      · exact ⟨by simp, fun _ => ⟨(fun ⟨_, h⟩ => by cases h), fun h => by cases h⟩⟩

/-- The pool after `n` moves. -/
def pool (env : Env) (sid : String) (w : World) (moves : ℕ → Move Request World) :
    ℕ → Pool Request World Err (Option Session) :=
  (Pool.idle w).after (fun _ r => r.prog env sid) moves

/-- The rest of the server leaves the sessions alone. -/
def Elsewhere (moves : ℕ → Move Request World) : Prop :=
  ∀ n f, moves n = .other f → ∀ w, (f w).db.sessions = w.db.sessions

section Run
variable (P : ℕ → Pool Request World Err (Option Session)) (moves : ℕ → Move Request World)

/-- Thread `i` has made a call when the clock showed `t`. -/
def Saw (n i : ℕ) (t : Time) : Prop := ∃ m < n, moves m = .call i ∧ (P m).state.now = t

/-- The first call of thread `i`. -/
def FirstCall (i m : ℕ) : Prop :=
  moves m = .call i ∧ (P m).prog i ≠ none ∧ ∀ l < m, moves l = .call i → (P l).prog i = none

/-- Thread `i` is about to write the session. -/
def AboutToWrite (sid : String) (n i : ℕ) : Prop :=
  moves n = .call i ∧ ∃ u k, (P n).prog i = some (.act u k) ∧ Writes sid u

/-- A thread that is about to write the session finds the row that its first call read. -/
def Undisturbed (sid : String) (n : ℕ) : Prop :=
  ∀ i, AboutToWrite P moves sid n i → ∀ m < n, FirstCall P moves i m →
    row sid (P n).state = row sid (P m).state

/-- The successful requests up to move `n`, in the order of their writes, and the row they lead
to. -/
structure Carried (sid : String) (s₀ : Session) (n : ℕ) (g : Locals Request Local)
    (es : List Entry) (s : Session) : Prop where
  found : row sid (P n).state = some s
  serially : Serially sid s₀ es s
  nodup : (es.map Entry.thread).Nodup
  threads : ∀ i, i ∈ es.map Entry.thread ↔ ∃ r, g i = some (r, .wrote)
  entries : ∀ e ∈ es, g e.thread = some (e.request, .wrote) ∧ Saw P moves n e.thread e.decided ∧
    Saw P moves n e.thread e.read ∧ Saw P moves n e.thread e.written
  wrote : ∀ i, (∃ r, g i = some (r, .wrote)) ↔ ∃ m < n, AboutToWrite P moves sid m i

variable {P moves} {sid : String} {g : ℕ → Locals Request Local}

theorem Saw.succ {n i : ℕ} {t : Time} (h : Saw P moves n i t) : Saw P moves (n + 1) i t := by
  obtain ⟨m, hm, hcall, ht⟩ := h
  exact ⟨m, by omega, hcall, ht⟩

variable (hg : (protocol sid).Traces P moves g)
include hg

/-- A thread that has made no call. -/
theorem unread (n i : ℕ) (h : g n i = none ∨ ∃ r, g n i = some (r, .idle)) :
    ∀ l < n, moves l = .call i → (P l).prog i = none := by
  induction n with
  | zero => exact fun l hl => absurd hl (by omega)
  | succ n ih =>
    have hbefore : (g n i = none ∨ ∃ r, g n i = some (r, .idle)) ∧
        (moves n = .call i → (P n).prog i = none) := by
      rcases (hg.moved n).at i with ⟨hsame, hcall⟩ | ⟨t, hnone, hstart, -⟩ |
        ⟨t, q, q', u, k, hcall, hi, hp, hstep, hs, hi'⟩
      · rw [hsame] at h
        refine ⟨h, fun hc => ?_⟩
        rcases hprog : (P n).prog i with _ | res | ⟨u, k⟩
        · rfl
        · obtain ⟨t, q, -, hq, hends⟩ := (hg.fits n).of_prog hprog
          rcases h with h | ⟨r, h⟩ <;> rw [h] at hq <;> cases hq
          exact absurd rfl hends.1
        · exact absurd hprog (hcall hc u k)
      · exact ⟨.inl hnone, fun hc => by rw [hstart] at hc; cases hc⟩
      · rw [hi'] at h
        rcases h with h | ⟨r, h⟩ <;> cases h
        cases hstep
    intro l hl hcall
    rcases Nat.lt_succ_iff_lt_or_eq.mp hl with hl | rfl
    · exact ih hbefore.1 l hl hcall
    · exact hbefore.2 hcall

/-- A thread that holds a row has read it with its first call. -/
theorem held (n i : ℕ) {r : Request} {o : Option Session} {ts : List Time}
    (h : g n i = some (r, .holding o ts)) : (∀ t ∈ ts, Saw P moves n i t) ∧
      ∃ m < n, FirstCall P moves i m ∧ row sid (P m).state = o := by
  induction n generalizing ts with
  | zero =>
    rw [hg.zero] at h
    cases h
  | succ n ih =>
    have hsucc : ∀ {ts}, g n i = some (r, .holding o ts) → (∀ t ∈ ts, Saw P moves (n + 1) i t) ∧
        ∃ m < n + 1, FirstCall P moves i m ∧ row sid (P m).state = o := by
      intro ts h
      obtain ⟨hsaw, m, hm, hfirst⟩ := ih h
      exact ⟨fun t ht => (hsaw t ht).succ, m, by omega, hfirst⟩
    rcases (hg.moved n).at i with ⟨hsame, -⟩ | ⟨t, -, -, hi'⟩ |
      ⟨t, q, q', u, k, hcall, hi, hp, hstep, hs, hi'⟩
    · exact hsucc (hsame ▸ h)
    · rw [hi'] at h
      cases h
    · rw [hi'] at h
      cases h
      have hnow : Saw P moves (n + 1) i (P n).state.now := ⟨n, by omega, hcall, rfl⟩
      cases hstep with
      | read hu =>
        refine ⟨fun t ht => List.mem_singleton.mp ht ▸ hnow, n, by omega, ⟨hcall, ?_, ?_⟩, rfl⟩
        · rw [hp]
          simp
        · exact unread hg n i (.inr ⟨r, hi⟩)
      | @wait _ _ ts hu =>
        obtain ⟨hsaw, hfirst⟩ := hsucc hi
        refine ⟨fun t ht => ?_, hfirst⟩
        rcases List.mem_cons.mp ht with rfl | ht
        · exact hnow
        · exact hsaw t ht
      | refused hrow hu => exact hsucc hi

omit hg in
/-- A move that writes nothing. -/
theorem Carried.keep {s₀ s : Session} {n : ℕ} {g₁ g₂ : Locals Request Local} {es : List Entry}
    (h : Carried P moves sid s₀ n g₁ es s)
    (hrow : row sid (P (n + 1)).state = row sid (P n).state)
    (hwrote : ∀ i r, g₂ i = some (r, .wrote) ↔ g₁ i = some (r, .wrote))
    (hnot : ∀ i, ¬ AboutToWrite P moves sid n i) : Carried P moves sid s₀ (n + 1) g₂ es s where
  found := hrow.trans h.found
  serially := h.serially
  nodup := h.nodup
  threads i := by simp only [hwrote]; exact h.threads i
  entries e he := by
    obtain ⟨hi, h1, h2, h3⟩ := h.entries e he
    exact ⟨(hwrote _ _).mpr hi, h1.succ, h2.succ, h3.succ⟩
  wrote i := by
    simp only [hwrote]
    rw [h.wrote i]
    constructor
    · rintro ⟨m, hm, hw⟩
      exact ⟨m, by omega, hw⟩
    · rintro ⟨m, hm, hw⟩
      rcases Nat.lt_succ_iff_lt_or_eq.mp hm with hm | rfl
      · exact ⟨m, hm, hw⟩
      · exact absurd hw (hnot i)

/-- A request writes. -/
theorem Carried.write {s₀ s : Session} {n i : ℕ} {r : Request} {ts : List Time} {es : List Entry}
    {decided t : Time} (h : Carried P moves sid s₀ n (g n) es s)
    (hi : g n i = some (r, .holding (some s) ts)) (hw : AboutToWrite P moves sid n i)
    (hd : decided ∈ ts) (ht : t ∈ ts) (ha : r.Accepts decided s)
    (hrow : row sid (P (n + 1)).state =
      some { (r.op sid).next t s with updatedAt := (P n).state.now }) :
    Carried P moves sid s₀ (n + 1) (Function.update (g n) i (some (r, .wrote)))
      (es ++ [⟨i, r, decided, t, (P n).state.now⟩])
      (Entry.apply sid ⟨i, r, decided, t, (P n).state.now⟩ s) := by
  obtain ⟨hsaw, -⟩ := held hg n i hi
  have hnew : i ∉ es.map Entry.thread := by
    rw [h.threads i, hi]
    rintro ⟨r', hr'⟩
    cases hr'
  have hwrote : ∀ j, (∃ r', Function.update (g n) i (some (r, .wrote)) j = some (r', .wrote)) ↔
      j = i ∨ ∃ r', g n j = some (r', .wrote) := by
    intro j
    by_cases hj : j = i
    · subst hj
      simp
    · simp [hj]
  refine ⟨hrow, h.serially.snoc ha, ?_, fun j => ?_, fun e he => ?_, fun j => ?_⟩
  · rw [List.map_append, List.nodup_append]
    refine ⟨h.nodup, by simp, fun a ha b hb hab => ?_⟩
    rw [List.map_singleton, List.mem_singleton] at hb
    subst hb hab
    exact hnew ha
  · rw [hwrote, ← h.threads j, List.map_append, List.mem_append, List.map_singleton,
      List.mem_singleton, or_comm]
  · rcases List.mem_append.mp he with he | he
    · obtain ⟨hg', h1, h2, h3⟩ := h.entries e he
      have hne : e.thread ≠ i := fun heq => hnew (heq ▸ List.mem_map_of_mem he)
      exact ⟨by rw [Function.update_of_ne hne, hg'], h1.succ, h2.succ, h3.succ⟩
    · obtain rfl := List.mem_singleton.mp he
      exact ⟨Function.update_self .., (hsaw _ hd).succ, (hsaw _ ht).succ, n, by omega, hw.1, rfl⟩
  · rw [hwrote, h.wrote j]
    constructor
    · rintro (rfl | ⟨m, hm, hw'⟩)
      · exact ⟨n, by omega, hw⟩
      · exact ⟨m, by omega, hw'⟩
    · rintro ⟨m, hm, hw'⟩
      rcases Nat.lt_succ_iff_lt_or_eq.mp hm with hm | rfl
      · exact .inr ⟨m, hm, hw'⟩
      · left
        have heq := hw'.1.symm.trans hw.1
        cases heq
        rfl

/-- One move carries out at most one request. -/
theorem carried_step {s₀ s : Session} {n : ℕ} {es : List Entry}
    (h : Carried P moves sid s₀ n (g n) es s) (hcond : Undisturbed P moves sid n)
    (hother : ∀ f, moves n = .other f → ∀ w, Same sid w (f w)) :
    ∃ es' s', Carried P moves sid s₀ (n + 1) (g (n + 1)) es' s' := by
  have hmoved := hg.moved n
  generalize hm : moves n = m at hmoved
  generalize hP : P (n + 1) = P' at hmoved
  generalize g (n + 1) = g' at hmoved
  have hcalls : ∀ {i u k}, m = .call i → (P n).prog i = some (.act u k) →
      (∀ w, Same sid w (u w)) → ∀ j, ¬ AboutToWrite P moves sid n j := by
    rintro i u k rfl hp hu j ⟨hj, u', k', hp', w, hw⟩
    obtain rfl : i = j := by
      rw [hm] at hj
      cases hj
      rfl
    rw [hp] at hp'
    cases hp'
    exact hw (hu w)
  cases hmoved with
  | @start r i _ hi hs =>
    refine ⟨es, s, h.keep (by rw [hP, hs]) (fun j r' => ?_) fun j hj => ?_⟩
    · by_cases hj : j = i
      · subst hj
        simp [hi, protocol]
      · rw [Function.update_of_ne hj]
    · rw [AboutToWrite, hm] at hj
      cases hj.1
  | @call i r q q' u k _ hi hp hstep hs =>
    have hsame : ∀ {q'}, (q ≠ .wrote ∧ q' ≠ .wrote ∨ q' = q) → ∀ j r',
        Function.update (g n) i (some (r, q')) j = some (r', .wrote) ↔
          g n j = some (r', .wrote) := by
      intro q' hq j r'
      by_cases hj : j = i
      · subst hj
        rw [Function.update_self, hi]
        rcases hq with ⟨h1, h2⟩ | rfl
        · simp [h1, h2]
        · rfl
      · rw [Function.update_of_ne hj]
    cases hstep with
    | read hu =>
      exact ⟨es, s, h.keep (by rw [hP, hs]; exact hu _) (hsame (.inl ⟨by simp, by simp⟩))
        (hcalls rfl hp hu)⟩
    | wait hu =>
      exact ⟨es, s, h.keep (by rw [hP, hs]; exact hu _) (hsame (.inl ⟨by simp, by simp⟩))
        (hcalls rfl hp hu)⟩
    | rest hu =>
      exact ⟨es, s, h.keep (by rw [hP, hs]; exact hu _) (hsame (.inr rfl)) (hcalls rfl hp hu)⟩
    | refused hrow _ =>
      rw [h.found] at hrow
      cases hrow
    | @write _ s' ts decided t hu hd ht ha hrow =>
      have hw : AboutToWrite P moves sid n i := ⟨hm, u, k, hp, hu⟩
      obtain ⟨-, m, hlt, hfirst, hread⟩ := held hg n i hi
      have hfind := (hcond i hw m hlt hfirst).trans hread
      obtain rfl : s = s' := Option.some.inj (h.found.symm.trans hfind)
      exact ⟨_, _, h.write hg hi hw hd ht ha (by rw [hP, hs]; exact hrow hfind)⟩
  | @idle i hp =>
    refine ⟨es, s, h.keep (by rw [hP]) (fun _ _ => Iff.rfl) fun j hj => ?_⟩
    obtain ⟨hj, u, k, hp', -⟩ := hj
    rw [hm] at hj
    cases hj
    exact hp u k hp'
  | @other f _ hs =>
    refine ⟨es, s, h.keep (by rw [hP, hs]; exact hother f hm _) (fun _ _ => Iff.rfl) fun j hj => ?_⟩
    rw [AboutToWrite, hm] at hj
    cases hj.1

end Run

/-- The row is the result of the successful requests, one after the other: each is carried out once,
with clock readings of its own, a parent's request when it returns a session and a pass when it
writes the session. -/
structure Serialized (P : ℕ → Pool Request World Err (Option Session))
    (moves : ℕ → Move Request World) (sid : String) (s₀ : Session) (n : ℕ) (es : List Entry)
    (s : Session) : Prop where
  found : row sid (P n).state = some s
  serially : Serially sid s₀ es s
  nodup : (es.map Entry.thread).Nodup
  requests : ∀ e ∈ es, (P n).tag e.thread = some e.request ∧ Saw P moves n e.thread e.decided ∧
    Saw P moves n e.thread e.read ∧ Saw P moves n e.thread e.written
  asked : ∀ i r res, (P n).tag i = some r → r ≠ .pass → (P n).result i = some res →
    (i ∈ es.map Entry.thread ↔ ∃ a, res = .ok a)
  passes : ∀ i, (P n).tag i = some .pass →
    (i ∈ es.map Entry.thread ↔ ∃ m < n, AboutToWrite P moves sid m i)

/-- **No lost update.** In every run in which every request that is about to write the session finds
the row it has read, the row is at any time the result of the successful requests one after the
other; so extensions add up, and a session that a request has stopped stays `STOPPED`. -/
theorem no_lost_update {env : Env} {sid : String} {w : World} {s₀ : Session}
    {moves : ℕ → Move Request World} (hother : Elsewhere moves) (hs : row sid w = some s₀)
    (hcond : ∀ n, Undisturbed (pool env sid w moves) moves sid n) (n : ℕ) :
    ∃ es s, Serialized (pool env sid w moves) moves sid s₀ n es s ∧
      s.extendedMinutes = s₀.extendedMinutes + (es.map fun e => e.request.extra).sum ∧
      ((∃ e ∈ es, ∃ p, e.request = .stop p) → s.status = .stopped) := by
  obtain ⟨g, hg⟩ := (protocol sid).exists_locals (fun _ r => follows_prog env sid r) w moves
  have hcarried : ∀ n, ∃ es s, Carried (pool env sid w moves) moves sid s₀ n (g n) es s := by
    intro n
    induction n with
    | zero =>
      refine ⟨[], s₀, hs, .nil, by simp, fun i => ?_, fun e he => by simp at he, fun i => ?_⟩
      · simp [hg.zero]
      · simp [hg.zero]
    | succ n ih =>
      obtain ⟨es, s, h⟩ := ih
      exact carried_step hg h (hcond n) fun f hf w => same_of_sessions (hother n f hf w)
  obtain ⟨es, s, h⟩ := hcarried n
  refine ⟨es, s, ⟨h.found, h.serially, h.nodup, fun e he => ?_, fun i r res ht hr hres => ?_,
    fun i _ => (h.threads i).trans (h.wrote i)⟩, h.serially.extended, h.serially.stopped⟩
  · obtain ⟨hi, hsaw⟩ := h.entries e he
    exact ⟨(hg.fits n).tag hi, hsaw⟩
  · obtain ⟨r', q, ht', hq, hends⟩ := (hg.fits n).of_result hres
    obtain rfl : r = r' := Option.some.inj (ht.symm.trans ht')
    rw [h.threads i, hends.2 hr, hq]
    constructor
    · rintro ⟨r', hr'⟩
      cases hr'
      rfl
    · rintro rfl
      exact ⟨r, rfl⟩

/-! ### Requests in turn, and overlapping -/

/-- A session of an hour. -/
def hour : Session :=
  ⟨"hour", "phone", "adam", "amal", .active, 0, none, none, none, none, 60, 60, 0, false,
    none, 0, 0⟩

/-- The households with the session, a minute after its start. -/
def playing : World :=
  .fresh { Household.withDevices [Household.device "phone" "amal" "adam"]
    (Household.nodup_device "phone" "amal" "adam") with
    sessions := ⟨[hour], by decide⟩ } 60000

/-- Half an hour more. -/
def halfHour : ExtendSessionDto := ⟨30, by decide⟩

/-- Two extensions, one after the other. -/
def inTurn : List (Move Request World) :=
  [.start (.extend "amal" halfHour), .start (.extend "amal" halfHour), .call 0, .call 0, .call 1,
    .call 1]

/-- A session is stopped while it is about to be paused. -/
def overlapping : List (Move Request World) :=
  [.start (.pause "amal"), .start (.stop "amal"), .call 0, .call 1, .call 1, .call 1, .call 0,
    .call 0]

/-- The row is as it was at every earlier call of the thread that moves. -/
def settled (ms : List (Move Request World)) (n : ℕ) : Bool :=
  match schedule ms n with
  | .call i => (List.range n).all fun m =>
    match schedule ms m with
    | .call j => i ≠ j || row "hour" (pool .plain "hour" playing (schedule ms) n).state =
        row "hour" (pool .plain "hour" playing (schedule ms) m).state
    | _ => true
  | _ => true

theorem undisturbed_of_settled {ms : List (Move Request World)}
    (h : ∀ n < ms.length, settled ms n = true) (n : ℕ) :
    Undisturbed (pool .plain "hour" playing (schedule ms)) (schedule ms) "hour" n := by
  rintro i ⟨hcall, u, k, hp, -⟩ m hm ⟨hfirst, -, -⟩
  rcases Nat.lt_or_ge n ms.length with hn | hn
  · have hsettled := h n hn
    rw [settled, hcall] at hsettled
    have hrow := List.all_eq_true.mp hsettled m (List.mem_range.mpr hm)
    rw [hfirst] at hrow
    simpa using hrow
  · rw [schedule_of_le hn] at hcall
    cases hcall
    have hnone : (pool .plain "hour" playing (schedule ms) n).prog ms.length = none := prog_of_le hn
    rw [hnone] at hp
    cases hp

theorem no_lost_update_inTurn :
    (∀ n, Undisturbed (pool .plain "hour" playing (schedule inTurn)) (schedule inTurn) "hour" n) ∧
    ∃ es s, Serialized (pool .plain "hour" playing (schedule inTurn))
      (schedule inTurn) "hour" hour 6
        es s ∧
      s.extendedMinutes = hour.extendedMinutes + (es.map fun e => e.request.extra).sum ∧
      ((∃ e ∈ es, ∃ p, e.request = .stop p) → s.status = .stopped) := by
  have hcond : ∀ n, Undisturbed (pool .plain "hour" playing (schedule inTurn)) (schedule inTurn)
      "hour" n := undisturbed_of_settled (by decide +kernel)
  exact ⟨hcond, no_lost_update (forall_other_schedule (by simp [inTurn])) rfl hcond 6⟩

/-- The request to stop the session has succeeded, and the session is `PAUSED`. -/
theorem stop_lost : ¬ ∀ (env : Env) (sid : String) (w : World) (s₀ : Session)
    (moves : ℕ → Move Request World), Elsewhere moves → row sid w = some s₀ → ∀ n, ∃ es s,
      Serialized (pool env sid w moves) moves sid s₀ n es s := by
  intro h
  obtain ⟨es, s, hs⟩ := h .plain "hour" playing hour (schedule overlapping)
    (forall_other_schedule (by simp [overlapping])) rfl 8
  have hstop : (pool .plain "hour" playing (schedule overlapping) 8).tag 1 =
    some (.stop "amal") := rfl
  have hresult : ∃ a, (pool .plain "hour" playing (schedule overlapping) 8).result 1 =
      some (.ok a) := ⟨_, rfl⟩
  have hpaused : (row "hour" (pool .plain "hour" playing (schedule overlapping) 8).state).map
      Session.status = some .paused := by decide +kernel
  obtain ⟨a, ha⟩ := hresult
  obtain ⟨e, he, hthread⟩ := List.mem_map.mp ((hs.asked 1 _ _ hstop (by simp) ha).mpr ⟨a, rfl⟩)
  have hrequest := (hs.requests e he).1
  rw [hthread, hstop] at hrequest
  have hstopped := hs.serially.stopped ⟨e, he, "amal", (Option.some.inj hrequest).symm⟩
  rw [hs.found, Option.map_some, hstopped] at hpaused
  cases hpaused

end GuardTime.Session.Serial
