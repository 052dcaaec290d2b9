import Mathlib.Tactic
import GuardTime.Household
import GuardTime.Push.Multicast

/-! # When a notification is marked as pushed

`NotificationsService.create` stores a notification, pushes it to the tokens of its user and marks
the row when the push came back without an exception. `sendToUser` has no exception to raise, so the
mark says that Firebase is configured, and nothing about what became of the tokens.

* `marked_iff`: a created row is marked exactly when Firebase is configured;
* `marked_only_if_sent_iff`: the mark is honest exactly when there is none, or when Firebase
  delivered to a token in one of the calls of the multicast. -/

namespace GuardTime.Push

open GuardTime.Lib.Program GuardTime.Lib.Keyed GuardTime.Lib.Js GuardTime.Lib.Rounds
open GuardTime.Schema GuardTime.Server GuardTime.Prisma GuardTime.Services GuardTime.Services.Push
open GuardTime.Services.Notifications

/-! ### The parts of `create` -/

/-- The row `create` stores. -/
def stored (data : Data) (id : String) (now : Time) : NotificationEvent :=
  { id, userId := data.userId, type := data.type, title := data.title, message := data.message,
    deviceId := data.deviceId, childId := data.childId, sessionId := data.sessionId,
    read := false, sentViaFcm := false, createdAt := now }

/-- The message `deliver` pushes. -/
def pushed (data : Data) (notificationId : String) : FcmMessage :=
  let nonEmpty (name : String) (v : Option String) : List (String × String) :=
    match v with
    | some s => if s = "" then [] else [(name, s)]
    | none => []
  ⟨data.title, data.message,
    [("notificationId", notificationId), ("type", typeName data.type)] ++
      nonEmpty "deviceId" data.deviceId ++ nonEmpty "childId" data.childId ++
      nonEmpty "sessionId" data.sessionId⟩

/-- The database refuses the row: its user does not exist, or its identifier is taken. -/
def Refused (data : Data) (w : World) : Prop :=
  w.db.users.find data.userId = none ∨
    ∃ e ∈ w.db.notificationEvents.rows, e.id = w.uuids w.calls 0

/-- The tokens of the user, in the order the second call of `create` answers them. -/
def offered (data : Data) (w : World) : List String :=
  (matching Model.pushToken w.db (w.tape (w.calls + 1))
    fun t => t.userId = data.userId).map PushToken.token

/-- What `sendMulticast` answers inside `create`, after the two calls before it. -/
def multicast (env : Env) (data : Data) (w : World) : Except Err MulticastResult :=
  ((sendMulticast env (offered data w) (pushed data (w.uuids w.calls 0))).run
    { w with calls := w.calls + 1 + 1 }).1

/-- `create` stores the row and leaves it marked as pushed. -/
def Marked (env : Env) (data : Data) (w : World) : Prop :=
  ∃ e w', (create env data).run w = (.ok e, w') ∧
    ∃ r, w'.db.notificationEvents.find e.id = some r ∧ r.sentViaFcm = true

/-- One of the user's tokens ended in the list of the sent ones. -/
def Sent (env : Env) (data : Data) (w : World) : Prop :=
  ∃ result, multicast env data w = .ok result ∧
    ∃ t ∈ w.db.pushTokens.rows, t.userId = data.userId ∧ t.token ∈ result.sent

/-! ### The run -/

theorem refused_iff {data : Data} {w : World} : Refused data w ↔
    ∃ e w', (Prisma.create Model.notificationEvent (stored data)).run w = (.error e, w') := by
  constructor
  · rintro h
    rcases hrun : (Prisma.create Model.notificationEvent (stored data)).run w with ⟨e | r, w'⟩
    · exact ⟨e, w', rfl⟩
    · obtain ⟨rfl, hlinks, t, hins, -⟩ := run_create_ok hrun
      have huser := hlinks (.user data.userId) (List.mem_singleton.mpr rfl)
      rcases h with hnone | htaken
      · rw [Link.holds, hnone] at huser
        cases huser
      · rw [Table.insert_eq_none.mpr htaken] at hins
        cases hins
  · rintro ⟨e, w', hrun⟩
    rcases run_create_error hrun with ⟨u, hu, -⟩ | ⟨l, hl, hmissing⟩ | ⟨r, hr, hid⟩
    · cases hu
    · obtain rfl : l = .user data.userId := List.mem_singleton.mp hl
      exact .inl (by simpa [Link.holds] using hmissing)
    · exact .inr ⟨r, hr, hid⟩

/-- The push cannot fail, and leaves the notifications alone. -/
theorem run_sendToUser (env : Env) (userId : String) (message : FcmMessage) (w : World) :
    ∃ w', (sendToUser env userId message).run w = (.ok (), w') ∧
      w'.db.notificationEvents = w.db.notificationEvents := by
  unfold sendToUser findMany
  rw [Prog.run_bind, run_query]
  dsimp only
  split_ifs with hnil
  · exact ⟨_, rfl, rfl⟩
  · obtain ⟨result, n, hrun⟩ := run_sendMulticast_ok env
      ((matching Model.pushToken w.db (w.tape w.calls) fun t => t.userId = userId).map
        PushToken.token) message (World.afterCall w w.db)
    rw [Prog.run_bind, hrun]
    dsimp only
    unfold Prog.when
    split_ifs
    · exact ⟨_, rfl, rfl⟩
    · exact ⟨_, rfl, rfl⟩

theorem deliver_eq (env : Env) (id : String) (data : Data) : deliver env id data =
    if env.sendEachForMulticast.isNone then pure false
    else (do sendToUser env data.userId (pushed data id); pure true).catchErr fun _ => pure false :=
  rfl

theorem run_deliver (env : Env) (id : String) (data : Data) (w : World) :
    ∃ w', (deliver env id data).run w = (.ok env.sendEachForMulticast.isSome, w') ∧
      w'.db.notificationEvents = w.db.notificationEvents := by
  rw [deliver_eq]
  rcases env.sendEachForMulticast with _ | send
  · exact ⟨w, rfl, rfl⟩
  · obtain ⟨w', hrun, hsame⟩ := run_sendToUser env data.userId (pushed data id) w
    refine ⟨w', ?_, hsame⟩
    rw [if_neg (by simp), Prog.run_catchErr, Prog.run_bind, hrun]
    rfl

/-- Marking the row. -/
def mark (id : String) : Api Unit := ignoreErrors do
  let _ ← Prisma.update .notificationEvent id (fun r => { r with sentViaFcm := true })
    Notifications.sent_id
  pure ()

theorem run_mark {id : String} {row : NotificationEvent} {w : World}
    (h : w.db.notificationEvents.find id = some row) : ∃ w', (mark id).run w = (.ok (), w') ∧
      w'.db.notificationEvents.find id = some { row with sentViaFcm := true } := by
  have hupdate := @run_update _ _ Model.notificationEvent w id row
    (fun r => { r with sentViaFcm := true }) (fun _ => rfl) h rfl rfl
  unfold mark ignoreErrors
  rw [Prog.run_catchErr, Prog.run_bind, hupdate]
  refine ⟨_, rfl, ?_⟩
  have hself : (Model.notificationEvent.patch w.db.notificationEvents w.now id
      (fun r => { r with sentViaFcm := true }) (fun _ => rfl)).find id =
      (w.db.notificationEvents.find id).map fun r =>
        Model.notificationEvent.touch w.now { r with sentViaFcm := true } := Model.find_patch_self
  rw [h] at hself
  exact hself

theorem create_eq (env : Env) (data : Data) : Notifications.create env data = (do
    let notification ← Prisma.create Model.notificationEvent (stored data)
    let delivered ← deliver env notification.id data
    Prog.when delivered (mark notification.id)
    pure notification) :=
  rfl

/-- **A stored row is marked exactly when Firebase is configured**, whatever it answers. -/
theorem marked_iff {env : Env} {data : Data} {w : World} :
    Marked env data w ↔ ¬ Refused data w ∧ env.sendEachForMulticast.isSome = true := by
  rw [refused_iff]
  unfold Marked
  rw [create_eq, Prog.run_bind]
  rcases hrun : (Prisma.create Model.notificationEvent (stored data)).run w with ⟨e | row, w₁⟩
  · simp
  · obtain ⟨hrow, -, t, hins, hw₁⟩ := run_create_ok hrun
    have hfind : w₁.db.notificationEvents.find row.id = some row := by
      rw [hw₁]
      exact Table.find_insert hins
    obtain ⟨w₂, hdeliver, hsame⟩ := run_deliver env row.id data w₁
    have hfind₂ : w₂.db.notificationEvents.find row.id = some row := by rw [hsame, hfind]
    have hunmarked : row.sentViaFcm = false := by rw [hrow]; rfl
    dsimp only
    rw [Prog.run_bind, hdeliver]
    dsimp only
    rcases hsend : env.sendEachForMulticast.isSome with _ | _
    · simp [Prog.when, hfind₂, hunmarked]
    · obtain ⟨w₃, hmark, hfind₃⟩ := run_mark hfind₂
      rw [Prog.run_bind]
      simp only [Prog.when, if_true, hmark]
      simp [hfind₃]

/-! ### The mark and the push -/

/-- Firebase delivers to a token in one of the calls of the multicast. -/
def Delivers (send : Sdk) (data : Data) (w : World) : Prop :=
  ∃ r ∈ rounds send (pushed data (w.uuids w.calls 0)) (maxRetries + 1) (w.calls + 1 + 1)
    (offered data w).zipIdx, ∃ o, (o, some Verdict.sent) ∈ r

theorem mem_offered {data : Data} {w : World} {t : String} : t ∈ offered data w ↔
    ∃ p ∈ w.db.pushTokens.rows, p.userId = data.userId ∧ p.token = t := by
  simp [offered, mem_matching, Model.pushToken, and_assoc]

theorem sent_iff {env : Env} {send : Sdk} (hsend : env.sendEachForMulticast = some send)
    {data : Data} {w : World} : Sent env data w ↔ Delivers send data w := by
  unfold Sent multicast Delivers
  by_cases hnone : offered data w = []
  · simp [hnone, sendMulticast, rounds_nil]
  · rw [run_sendMulticast hsend hnone]
    simp only [Except.ok.injEq, exists_eq_left', tally, List.nil_append, mem_tokensWith, mem_ledger]
    constructor
    · rintro ⟨t, -, -, i, r, hr, hmem⟩
      exact ⟨r, hr, _, hmem⟩
    · rintro ⟨r, hr, o, hmem⟩
      have hoffered : o.1 ∈ offered data w :=
        List.fst_mem_of_mem_zipIdx (mem_rounds send _ hr (Round.mem_items hmem))
      obtain ⟨p, hp, huser, htoken⟩ := mem_offered.mp hoffered
      exact ⟨p, hp, huser, o.2, r, hr, htoken ▸ hmem⟩

/-- **When the mark is honest.** A row marked as pushed was pushed exactly when no row is marked at
all, or Firebase delivers to a token in one of the calls of the multicast. -/
theorem marked_only_if_sent_iff (env : Env) (data : Data) (w : World) :
    (Marked env data w → Sent env data w) ↔
      env.sendEachForMulticast = none ∨ Refused data w ∨
        ∃ send, env.sendEachForMulticast = some send ∧ Delivers send data w := by
  rw [marked_iff]
  rcases hsend : env.sendEachForMulticast with _ | send
  · simp
  · simp only [Option.isSome_some, and_true, sent_iff hsend, Option.some.injEq, exists_eq_left',
      reduceCtorEq, false_or]
    rw [imp_iff_not_or, not_not]

/-- The parent `amal`, who has registered no token, is told that a device was blocked. -/
def blocked : Data := ⟨"amal", .deviceBlocked, "Blocked", "The phone is blocked", none, none, none⟩

/-- Firebase is configured and would deliver to every token. -/
def delivering : Env :=
  { Env.plain with sendEachForMulticast := some fun _ tokens _ => .ok (tokens.map fun _ => .ok ()) }

/-- Nothing is pushed to a parent without tokens, and the notification is marked as pushed. -/
theorem marked_without_tokens : ¬ ∀ (env : Env) (data : Data) (w : World),
    Marked env data w → Sent env data w := by
  intro h
  have hmarked : Marked delivering blocked (World.fresh Household.families 0) := by
    rw [marked_iff]
    refine ⟨?_, rfl⟩
    rintro (hnone | ⟨e, he, -⟩)
    · exact absurd hnone (by decide)
    · exact absurd he (List.not_mem_nil)
  obtain ⟨result, -, t, ht, -⟩ := h delivering blocked _ hmarked
  exact absurd ht (List.not_mem_nil)

end GuardTime.Push
