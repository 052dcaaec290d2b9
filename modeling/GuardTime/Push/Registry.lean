import Mathlib.Tactic
import GuardTime.Lib.Commit
import GuardTime.Services.Account
import GuardTime.Services.Calls
import GuardTime.Household

/-! # Whose push token it is

Phones register their push tokens, and hand them over when somebody else logs in. Registrations,
removals, deletions of accounts and notifications, which drop the tokens that the provider calls
invalid, run side by side, one call at a time. At all times every token has at most one owner, and a
token is a user's if the user has registered it and nothing has taken it away since
(`owners_in_order`). A notification takes tokens from whoever owns them by then, but only those that
its own recipient owned when it listed them. -/

namespace GuardTime.Push.Registry

open GuardTime.Lib.Program GuardTime.Lib.Interleave GuardTime.Lib.Commit GuardTime.Lib.Keyed
open GuardTime.Lib.Js GuardTime.Schema GuardTime.Server GuardTime.Prisma GuardTime.Services
open GuardTime.Services.Push

/-! ### Owners and requests -/

/-- Who owns which token: pairs of a token and a user. -/
def owned (w : World) : Set (String × String) :=
  {p | ∃ t ∈ w.db.pushTokens.rows, t.token = p.1 ∧ t.userId = p.2}

/-- No token is there twice. -/
def Unique (w : World) : Prop := (w.db.pushTokens.rows.map PushToken.token).Nodup

/-- What is asked by a phone, or of the server by an event. -/
inductive Request where
  | register (userId token : String) (platform : PushPlatform)
  | remove (userId token : String)
  | notify (data : Notifications.Data)
  | deleteAccount (userId : String)

namespace Request

/-- What the services do. -/
def prog (env : Env) : Request → Api Unit
  | register u t platform => do
    let _ ← registerToken u t platform
    pure ()
  | remove u t => removeToken u t
  | notify data => do
    let _ ← Notifications.create env data
    pure ()
  | deleteAccount u => Parents.deleteAccount u

/-- The request makes the user the owner of the token. -/
def Puts : Request → String × String → Prop
  | register u t _, p => p = (t, u)
  | _, _ => False

/-- The request takes the token from the user; a notification takes the tokens `pruned`. -/
def Takes (pruned : List String) : Request → String × String → Prop
  | register u t _, p => p.1 = t ∧ p.2 ≠ u
  | remove u t, p => p = (t, u)
  | notify _, p => p.1 ∈ pruned
  | deleteAccount u, p => p.2 = u

/-- The tokens that a notification may take after what its calls have found. -/
def Prunes (found : List (Set (String × String))) (pruned : List String) : Request → Prop
  | notify data => ∃ reg ∈ found, ∀ t ∈ pruned, (t, data.userId) ∈ reg
  | _ => True

end Request

/-- The owners of all tokens. -/
def cell : Cell Request World (Set (String × String)) (Set (String × String)) (List String) where
  get := owned
  sees := owned
  sound := Unique
  chooses r found _ pruned := r.Prunes found pruned
  change r pruned reg := {p | r.Puts p ∨ p ∈ reg ∧ ¬ r.Takes pruned p}

/-! ### Calls that leave the owners -/

section Same
variable {w w' : World}

theorem same_of_tokens (h : w'.db.pushTokens = w.db.pushTokens) : cell.Same w w' := fun hw => by
  have howned : owned w' = owned w := by rw [owned, owned, h]
  have hunique : Unique w' := by rwa [Unique, h]
  exact ⟨hunique, howned⟩

theorem idle_same : Idle cell.Same := fun _ => same_of_tokens rfl

theorem refl_same (w : World) : cell.Same w w := same_of_tokens rfl

end Same

/-! ### Registrations -/

section Rows
variable {w w' : World} {u t : String}

theorem eq_of_token (hw : Unique w) {r r' : PushToken} (hr : r ∈ w.db.pushTokens.rows)
    (hr' : r' ∈ w.db.pushTokens.rows) (h : r.token = r'.token) : r = r' :=
  List.inj_on_of_nodup_map hw hr hr' h

/-- A known token is handed over. -/
theorem leaves_repoint {r : PushToken} (hr : r ∈ w.db.pushTokens.rows) (htoken : r.token = t)
    {platform : PushPlatform} {s : Time} (hrows : w'.db.pushTokens.rows =
      w.db.pushTokens.rows.map fun r' => if r'.id = r.id then repoint u platform s r' else r') :
    cell.Leaves w w' (cell.change (.register u t platform) [] (owned w)) := by
  intro hw
  have htokens : ∀ r' : PushToken,
      (if r'.id = r.id then repoint u platform s r' else r').token = r'.token := by
    intro r'
    split_ifs <;> rfl
  refine ⟨?_, Set.ext fun p => ?_⟩
  · change (w'.db.pushTokens.rows.map PushToken.token).Nodup
    have hmap : (w'.db.pushTokens.rows.map PushToken.token) =
        w.db.pushTokens.rows.map PushToken.token := by
      rw [hrows, List.map_map]
      exact List.map_congr_left fun r' _ => htokens r'
    rw [hmap]
    exact hw
  · change (∃ x ∈ w'.db.pushTokens.rows, x.token = p.1 ∧ x.userId = p.2) ↔
      p = (t, u) ∨ p ∈ owned w ∧ ¬ (p.1 = t ∧ p.2 ≠ u)
    rw [hrows]
    constructor
    · rintro ⟨x, hx, htok, huser⟩
      obtain ⟨r', hr', rfl⟩ := List.mem_map.mp hx
      rw [htokens] at htok
      by_cases hid : r'.id = r.id
      · rw [if_pos hid] at huser
        obtain rfl := Table.eq_of_key hr' hr hid
        exact .inl (Prod.ext (htok.symm.trans htoken) huser.symm)
      · rw [if_neg hid] at huser
        refine .inr ⟨⟨r', hr', htok, huser⟩, fun hp => hid ?_⟩
        rw [eq_of_token hw hr' hr (htok.trans (hp.1.trans htoken.symm))]
    · rintro (rfl | ⟨⟨r', hr', htok, huser⟩, hkeep⟩)
      · refine ⟨_, List.mem_map_of_mem hr, ?_⟩
        rw [if_pos rfl]
        exact ⟨htoken, rfl⟩
      · refine ⟨_, List.mem_map_of_mem hr', (htokens r').trans htok, ?_⟩
        by_cases hid : r'.id = r.id
        · obtain rfl := Table.eq_of_key hr' hr hid
          rw [if_pos rfl]
          by_contra hne
          exact hkeep ⟨htok.symm.trans htoken, fun h => hne h.symm⟩
        · rw [if_neg hid]
          exact huser

/-- A new token is registered. -/
theorem leaves_new {r : PushToken} (hnew : ∀ r' ∈ w.db.pushTokens.rows, r'.token ≠ t)
    (htoken : r.token = t) (huser : r.userId = u) {platform : PushPlatform}
    (hrows : w'.db.pushTokens.rows = w.db.pushTokens.rows ++ [r]) :
    cell.Leaves w w' (cell.change (.register u t platform) [] (owned w)) := by
  intro hw
  refine ⟨?_, Set.ext fun p => ?_⟩
  · change (w'.db.pushTokens.rows.map PushToken.token).Nodup
    rw [hrows, List.map_append, List.nodup_append]
    refine ⟨hw, List.nodup_singleton _, fun a ha b hb hab => ?_⟩
    obtain ⟨r', hr', rfl⟩ := List.mem_map.mp ha
    rw [List.map_singleton, List.mem_singleton, htoken] at hb
    exact hnew r' hr' (hab.trans hb)
  · change (∃ x ∈ w'.db.pushTokens.rows, x.token = p.1 ∧ x.userId = p.2) ↔
      p = (t, u) ∨ p ∈ owned w ∧ ¬ (p.1 = t ∧ p.2 ≠ u)
    rw [hrows]
    constructor
    · rintro ⟨x, hx, htok, hx'⟩
      rcases List.mem_append.mp hx with hmem | hmem
      · exact .inr ⟨⟨x, hmem, htok, hx'⟩, fun hp => hnew x hmem (htok.trans hp.1)⟩
      · obtain rfl := List.mem_singleton.mp hmem
        exact .inl (Prod.ext (htok.symm.trans htoken) (hx'.symm.trans huser))
    · rintro (rfl | ⟨⟨x, hx, hp⟩, -⟩)
      · exact ⟨r, List.mem_append_right _ (List.mem_singleton_self r), htoken, huser⟩
      · exact ⟨x, List.mem_append_left _ hx, hp⟩

/-- Tokens are dropped. -/
theorem leaves_erase {q : PushToken → Bool} {r : Request} {pruned : List String}
    (hputs : ∀ p, ¬ r.Puts p)
    (htakes : ∀ x : PushToken, q x = true ↔ r.Takes pruned (x.token, x.userId))
    (htokens : w'.db.pushTokens = w.db.pushTokens.erase q) :
    cell.Leaves w w' (cell.change r pruned (owned w)) := by
  intro hw
  refine ⟨?_, Set.ext fun p => ?_⟩
  · change (w'.db.pushTokens.rows.map PushToken.token).Nodup
    rw [htokens]
    exact (List.Sublist.map _ List.filter_sublist).nodup hw
  · change (∃ x ∈ w'.db.pushTokens.rows, x.token = p.1 ∧ x.userId = p.2) ↔
      r.Puts p ∨ p ∈ owned w ∧ ¬ r.Takes pruned p
    rw [htokens]
    constructor
    · rintro ⟨x, hx, htok, huser⟩
      obtain ⟨hmem, hq⟩ := Table.mem_erase.mp hx
      refine .inr ⟨⟨x, hmem, htok, huser⟩, fun ht => ?_⟩
      have hp : p = (x.token, x.userId) := Prod.ext htok.symm huser.symm
      rw [hp] at ht
      rw [(htakes x).mpr ht] at hq
      cases hq
    · rintro (hp | ⟨⟨x, hx, htok, huser⟩, hkeep⟩)
      · exact absurd hp (hputs p)
      · have hp : p = (x.token, x.userId) := Prod.ext htok.symm huser.symm
        refine ⟨x, Table.mem_erase.mpr ⟨hx, ?_⟩, htok, huser⟩
        by_contra hq
        rw [hp] at hkeep
        exact hkeep ((htakes x).mp (by simpa using hq))

end Rows

/-! ### What a request does call by call -/

/-- How a request ends. A notification may find nothing to drop. -/
def Answered : Request → Local (Set (String × String)) → Except Err Unit → Prop
  | .notify _, _, _ => True
  | _, q, res => q = .wrote ↔ res = .ok ()

section Follows
variable {r : Request} {os : List (Set (String × String))}

/-- The upsert of a registration. -/
theorem follows_upsert (u t : String) (platform : PushPlatform) (now : Time)
    {mk : String → Time → PushToken}
    (hmk : ∀ id now, (mk id now).token = t ∧ (mk id now).userId = u) :
    Follows (Acts cell (.register u t platform)) (fun q res => q = .wrote ↔ ∃ a, res = .ok a)
      (Prisma.upsert .pushToken (fun x => x.token = t) (repoint u platform now) mk)
      (.waiting os) := by
  refine Prisma.follows_upsert (fun w e hw => ?_) (fun w x hfind hw => ?_)
    fun w rows hfind hins hw => ?_
  · exact ⟨_, .wait (same_of_tokens (by rw [hw]; rfl)), by simp⟩
  · refine ⟨.wrote, .write (d := []) trivial ?_, by simp⟩
    have htoken : x.token = t := by simpa using List.find?_some hfind
    rw [hw]
    refine leaves_repoint (s := now) (List.mem_of_find?_eq_some hfind) htoken ?_
    change (w.db.pushTokens.rows.map fun r' => if decide (r'.id = x.id) = true then _ else r') = _
    simp only [decide_eq_true_eq]
    rfl
  · refine ⟨.wrote, .write (d := []) trivial ?_, by simp⟩
    rw [hw]
    refine leaves_new (fun x hx => ?_) (hmk _ _).1 (hmk _ _).2 (Table.insert_eq_some hins).2
    simpa using List.find?_eq_none.mp hfind x hx

/-- One answer of the provider. -/
theorem offered_classify (last : Bool) {tokens : List String} {acc : MulticastResult × List String}
    {answer : SendResponse × String} (hacc : acc.1.invalid ⊆ tokens ∧ acc.2 ⊆ tokens)
    (ha : answer.2 ∈ tokens) : (classify last acc answer).1.invalid ⊆ tokens ∧
      (classify last acc answer).2 ⊆ tokens := by
  obtain ⟨res, retryNext⟩ := acc
  obtain ⟨answer, token⟩ := answer
  have hsnoc : ∀ {l : List String}, l ⊆ tokens → l ++ [token] ⊆ tokens := fun hl =>
    List.append_subset.mpr ⟨hl, by simpa using ha⟩
  rcases answer with code | ok
  · rw [classify]
    split_ifs
    · exact ⟨hsnoc hacc.1, hacc.2⟩
    · exact ⟨hacc.1, hsnoc hacc.2⟩
    · exact hacc
  · exact hacc

/-- All answers of a call. -/
theorem offered_foldl (last : Bool) {tokens : List String} :
    ∀ (answers : List (SendResponse × String)) (acc : MulticastResult × List String),
      acc.1.invalid ⊆ tokens ∧ acc.2 ⊆ tokens → (∀ a ∈ answers, a.2 ∈ tokens) →
      (answers.foldl (classify last) acc).1.invalid ⊆ tokens ∧
        (answers.foldl (classify last) acc).2 ⊆ tokens
  | [], _, hacc, _ => hacc
  | a :: answers, _, hacc, h =>
    offered_foldl last answers _ (offered_classify last hacc (h a List.mem_cons_self))
      fun a' ha' => h a' (List.mem_cons_of_mem a ha')

/-- What a part of a notification ends with that does not write: more found, and only tokens that
were offered called invalid. -/
def Offered (tokens : List String) (os : List (Set (String × String)))
    (q : Local (Set (String × String))) (ans : Except Err MulticastResult) : Prop :=
  ∃ os' a, q = .waiting os' ∧ os ⊆ os' ∧ ans = .ok a ∧ a.invalid ⊆ tokens

/-- What the provider calls invalid was offered to it. -/
theorem follows_attempts (send : ℕ → List String → FcmMessage → Except String (List SendResponse))
    (message : FcmMessage) {tokens : List String} : ∀ (fuel : ℕ) (pending : List String)
    (res : MulticastResult) (os : List (Set (String × String))), pending ⊆ tokens →
    res.invalid ⊆ tokens → Follows (Acts cell r) (Offered tokens os)
      (attempts send message fuel pending res) (.waiting os)
  | 0, _, res, os, _, hres => ⟨os, res, rfl, fun _ => id, rfl, hres⟩
  | fuel + 1, pending, res, os, hpending, hres => by
    rw [attempts]
    refine .ite (fun _ => ⟨os, res, rfl, fun _ => id, rfl, hres⟩) fun _ => ?_
    refine .bind (F := fun q ans => ∃ o answer, q = .waiting (o :: os) ∧ ans = .ok answer)
      (.call fun w => ⟨_, .wait (same_of_tokens rfl), owned w, _, rfl, rfl⟩) ?_ ?_
    · rintro q answer ⟨o, answer', rfl, hans⟩
      have hmore : ∀ {p : Api MulticastResult},
          Follows (Acts cell r) (Offered tokens (o :: os)) p (.waiting (o :: os)) →
          Follows (Acts cell r) (Offered tokens os) p (.waiting (o :: os)) := by
        refine fun hp => hp.mono ?_
        rintro q ans ⟨os', a, hq, hos, hans⟩
        exact ⟨os', a, hq, fun x hx => hos (List.mem_cons_of_mem _ hx), hans⟩
      rcases answer with e | responses
      · refine .ite (fun _ => ?_) fun _ => ?_
        · exact ⟨_, _, rfl, fun x hx => List.mem_cons_of_mem _ hx, rfl, hres⟩
        · exact hmore (follows_attempts send message fuel pending res _ hpending hres)
      · obtain ⟨hinvalid, hretry⟩ := offered_foldl (fuel = 0) (responses.zip pending) (res, [])
          ⟨hres, List.nil_subset _⟩ fun a ha => hpending (List.of_mem_zip ha).2
        exact hmore (follows_attempts send message fuel _ _ _ hretry hinvalid)
    · rintro q e ⟨o, answer, -, hans⟩
      cases hans

theorem follows_sendMulticast (env : Env) (tokens : List String) (message : FcmMessage) :
    Follows (Acts cell r) (Offered tokens os) (sendMulticast env tokens message) (.waiting os) := by
  unfold sendMulticast
  refine .ite (fun _ => ⟨os, _, rfl, fun _ => id, rfl, List.nil_subset _⟩) fun _ => ?_
  rcases env.sendEachForMulticast with _ | send
  · exact ⟨os, _, rfl, fun _ => id, rfl, List.nil_subset _⟩
  · exact follows_attempts send message _ _ _ os (fun _ => id) (List.nil_subset _)

/-- A push to all phones of a user, which drops the tokens that turn out invalid. -/
theorem follows_sendToUser (env : Env) (data : Notifications.Data) (message : FcmMessage) :
    Follows (Acts cell (.notify data)) (fun _ _ => True) (sendToUser env data.userId message)
      (.waiting os) := by
  refine .bind (F := fun q ans => ∃ reg tokens, q = .waiting (reg :: os) ∧ ans = .ok tokens ∧
    ∀ x ∈ tokens, (x.token, data.userId) ∈ reg) (fun w => ?_) ?_ fun _ _ _ => trivial
  · refine ⟨_, .wait (idle_same w), owned w, _, rfl, rfl, fun x hx => ?_⟩
    obtain ⟨hmem, huser⟩ := mem_matching.mp hx
    exact ⟨x, hmem, rfl, by simpa using huser⟩
  · rintro q tokens ⟨reg, tokens', rfl, hok, howned⟩
    cases hok
    refine .ite (fun _ => trivial) fun _ => ?_
    refine .bind (follows_sendMulticast env _ message) ?_ fun _ _ _ => trivial
    rintro q res ⟨os', a, rfl, hos, hok, hinvalid⟩
    cases hok
    refine .ite (fun _ => ?_) fun _ => trivial
    refine .catchErr (F := fun _ _ => True) (.call fun w => ?_) (fun _ _ _ => trivial)
      fun _ _ _ => trivial
    refine ⟨.wrote, .write (d := res.invalid) ⟨reg, hos (List.mem_cons_self ..), fun t ht => ?_⟩
      (leaves_erase (fun _ h => h) (fun x => by simp [Request.Takes]) rfl), trivial⟩
    obtain ⟨x, hx, rfl⟩ := List.mem_map.mp (hinvalid ht)
    exact howned x hx

theorem follows_notify (env : Env) (data : Notifications.Data) :
    Follows (Acts cell (.notify data)) (Answered (.notify data)) (Request.prog env (.notify data))
      (.waiting []) := by
  rw [Request.prog, Services.create_eq]
  simp only [Prog.bind_assoc]
  refine .bind (follows_wait (calls_create idle_same fun _ _ _ => same_of_tokens rfl)) ?_
    fun _ _ _ => trivial
  rintro q n ⟨os, rfl, -⟩
  refine .bind (F := fun _ _ => True) (.bind (F := fun _ _ => True) ?_ (fun q delivered _ => ?_)
    fun _ _ _ => trivial) (fun _ _ _ => trivial) fun _ _ _ => trivial
  · refine .ite (fun _ => trivial) fun _ => .catchErr (F := fun _ _ => True) ?_
      (fun _ _ _ => trivial)
      fun _ _ _ => trivial
    exact .bind (follows_sendToUser env data _) (fun _ _ _ => trivial) fun _ _ _ => trivial
  · refine (follows_same ?_ q).mono fun _ _ _ => trivial
    exact .bind (.ite (.catchErr (.bind (calls_update idle_same fun _ _ _ => same_of_tokens rfl)
      fun _ => .pure _) fun _ => .pure _) (.pure _)) fun _ => .pure _

/-- The transaction that deletes an account, as far as the tokens go. -/
theorem run_deletion (user : User) (w : World) :
    ∃ res w', (Prisma.transaction (do
      let _ ← viaTx (Prisma.create .auditLog (Parents.deletionEntry user))
      viaTx (Prisma.delete .user user.id))).run w = (res, w') ∧
      ((∃ e, res = .error e) ∧ w'.db.pushTokens = w.db.pushTokens ∨
        res = .ok () ∧ w'.db.pushTokens = w.db.pushTokens.erase fun t => t.userId = user.id) := by
  rw [run_transaction, Prog.run_bind]
  rcases run_create_cases .auditLog (Parents.deletionEntry user) (⟨w, []⟩ : TxWorld).inside with
    ⟨e, hrun⟩ | ⟨t, -, hrun⟩
  · obtain ⟨s, hs, -, hbase⟩ := run_viaTx hrun
    rw [hs]
    exact ⟨_, _, rfl, .inl ⟨⟨e, rfl⟩, congrArg Database.pushTokens hbase⟩⟩
  · obtain ⟨s, hs, hinside, hbase⟩ := run_viaTx hrun
    rw [hs]
    dsimp only
    rcases run_delete_cases .user user.id s.inside with ⟨e, hrun'⟩ | ⟨u, -, hrun'⟩
    · obtain ⟨s', hs', -, hbase'⟩ := run_viaTx hrun'
      rw [hs']
      exact ⟨_, _, rfl, .inl ⟨⟨e, rfl⟩, congrArg Database.pushTokens (hbase'.trans hbase)⟩⟩
    · obtain ⟨s', hs', hinside', -⟩ := run_viaTx hrun'
      rw [hs']
      refine ⟨_, _, rfl, .inr ⟨rfl, ?_⟩⟩
      change s'.inside.db.pushTokens = _
      rw [hinside', hinside]
      rfl

/-- The transaction that deletes an account. -/
theorem follows_deleteAccount (env : Env) (u : String) :
    Follows (Acts cell (.deleteAccount u)) (Answered (.deleteAccount u))
      (Request.prog env (.deleteAccount u)) (.waiting []) := by
  rw [Request.prog, Parents.deleteAccount]
  refine .bind (F := fun q ans => ∃ os o, q = .waiting os ∧ ans = .ok o ∧
    ∀ user : User, o = some user → user.id = u) (fun w => ?_) ?_ ?_
  · exact ⟨_, .wait (idle_same w), _, _, rfl, rfl, fun user hu => Table.key_of_find hu⟩
  · rintro q o ⟨os, o', rfl, hok, huser⟩
    cases hok
    refine .orThrow_bind (fun user hu => ?_) fun _ => by simp [Answered]
    obtain rfl := huser user hu
    refine .call fun w => ?_
    obtain ⟨res, w', hrun, ⟨⟨e, rfl⟩, htokens⟩ | ⟨rfl, htokens⟩⟩ := run_deletion user w
    · refine ⟨_, .wait (same_of_tokens ?_), ?_⟩
      · exact (congrArg (fun x => x.2.db.pushTokens) hrun).trans htokens
      · have hend : Answered (.deleteAccount user.id) (.waiting (owned w :: os)) (.error e) := by
          simp [Answered]
        exact congrArg Prod.fst hrun ▸ hend
    · refine ⟨.wrote, .write (d := []) trivial (leaves_erase (fun _ h => h)
        (q := fun t => t.userId = user.id) (fun x => by simp [Request.Takes]) ?_), ?_⟩
      · exact (congrArg (fun x => x.2.db.pushTokens) hrun).trans htokens
      · have hend : Answered (.deleteAccount user.id) .wrote (.ok ()) := by simp [Answered]
        exact congrArg Prod.fst hrun ▸ hend
  · rintro q e ⟨os, o, -, hok, -⟩
    cases hok

end Follows

theorem follows_prog (env : Env) (r : Request) :
    Follows (Acts cell r) (Answered r) (r.prog env) (.waiting []) := by
  cases r with
  | register u t platform =>
    rw [Request.prog, registerToken]
    simp only [Prog.bind_assoc]
    refine .bind (p := newDate) (F := fun q ans => ∃ os now, q = .waiting os ∧ ans = .ok now)
      (fun w => ⟨_, .wait (refl_same w), _, _, rfl, rfl⟩) ?_ ?_
    · rintro q now ⟨os, now', rfl, -⟩
      refine .bind (follows_upsert u t platform now fun _ _ => ⟨rfl, rfl⟩) ?_ ?_
      · exact fun q a hq => ⟨fun _ => rfl, fun _ => hq.mpr ⟨a, rfl⟩⟩
      · exact fun q e hq => ⟨fun h => by simpa using hq.mp h, fun h => by cases h⟩
    · rintro q e ⟨os, now, -, hnow⟩
      cases hnow
  | remove u t =>
    refine fun w => ⟨.wrote,
      .write (d := []) trivial (leaves_erase (fun _ h => h) (fun x => ?_) rfl),
      fun _ => rfl, fun _ => rfl⟩
    rw [Bool.and_eq_true, decide_eq_true_eq, decide_eq_true_eq]
    exact ⟨fun h => Prod.ext h.2 h.1, fun h => ⟨congrArg Prod.snd h, congrArg Prod.fst h⟩⟩
  | notify data => exact follows_notify env data
  | deleteAccount u => exact follows_deleteAccount env u

/-! ### Every run -/

/-- A run of requests. -/
def pool (env : Env) (w : World) (moves : ℕ → Move Request World) :
    ℕ → Pool Request World Err Unit :=
  (Pool.idle w).after (fun _ => Request.prog env) moves

/-- The surroundings leave the table of tokens. -/
def Elsewhere (moves : ℕ → Move Request World) : Prop :=
  ∀ n f, moves n = .other f → ∀ w, (f w).db.pushTokens = w.db.pushTokens

/-- The entry puts the pair, or takes it away. -/
def Puts (e : Entry Request (List String)) : String × String → Prop := e.request.Puts

def Takes (e : Entry Request (List String)) : String × String → Prop := e.request.Takes e.data

/-- **Whose token it is.** In every interleaving the tokens are at all times what the requests that
have written make of them, one whole request after the other, in an order that agrees with real
time. A user owns a token if the user's registration has come last, and neither a removal of the
user's, nor the deletion of the account, nor a notification has taken it away since. No token has
two owners. -/
theorem owners_in_order {env : Env} {w : World} {moves : ℕ → Move Request World} (hw : Unique w)
    (hother : Elsewhere moves) (n : ℕ) :
    Unique (pool env w moves n).state ∧ ∃ es, Log cell (pool env w moves) moves n es ∧
      (∀ p, p ∈ owned (pool env w moves n).state ↔
        (∃ es₁ e es₂, es = es₁ ++ e :: es₂ ∧ Puts e p ∧ ∀ e' ∈ es₂, ¬ Takes e' p) ∨
          p ∈ owned w ∧ ∀ e ∈ es, ¬ Takes e p) ∧
      (∀ i r res, (pool env w moves n).tag i = some r → (pool env w moves n).result i = some res →
        (∀ data, r ≠ .notify data) → (i ∈ es.map Entry.thread ↔ res = .ok ())) ∧
      ∀ e ∈ es, ∀ e' ∈ es, ∀ m res, (pool env w moves m).result e.thread = some res →
        (pool env w moves m).prog e'.thread = none → e.move < e'.move := by
  obtain ⟨es, hlog, hends⟩ := exists_log (E := Answered) (fun _ r => follows_prog env r)
    (s := w) hw (fun n f hf s => same_of_tokens (hother n f hf s)) n
  refine ⟨hlog.sound n le_rfl, es, hlog, fun p => ?_, fun i r res hr hres hnotify => ?_,
    fun e he e' he' m res hdone hnone => hlog.before he he' hdone hnone⟩
  · have hnow : owned (pool env w moves n).state = cell.replay es (owned w) := hlog.now
    rw [hnow]
    exact mem_replay Puts Takes fun e c x => Iff.rfl
  · obtain ⟨r', q, hr', hanswered, hmem⟩ := hends i res hres
    obtain rfl : r = r' := Option.some.inj (hr.symm.trans hr')
    rw [hmem]
    cases r with
    | notify data => exact absurd rfl (hnotify data)
    | register u t platform => exact hanswered
    | remove u t => exact hanswered
    | deleteAccount u => exact hanswered

/-- A provider that no longer knows the phone. -/
def forgetful : Env :=
  { Env.plain with
    sendEachForMulticast := some fun _ tokens _ => .ok (tokens.map fun t =>
      if t = "phone" then .error "messaging/registration-token-not-registered" else .ok ()) }

/-- A notice for `basma`. -/
def blockedNotice : Notifications.Data :=
  ⟨"basma", .deviceBlocked, "Blocked", "Tablet", none, none, none⟩

/-- A phone changes hands: `basma` registers its token while `amal`, who logs out, still owns it. A
notification prunes it while `basma` registers a tablet. -/
def handover : List (Move Request World) :=
  [.start (.register "amal" "phone" .android), .call 0, .call 0,
    .start (.register "basma" "phone" .android), .start (.remove "amal" "phone"), .call 1, .call 1,
    .call 2, .start (.notify blockedNotice), .call 3, .call 3, .call 3,
    .start (.register "basma" "tablet" .android), .call 4, .call 4, .call 3, .call 3]

/-- The families, before anybody has a phone. -/
def phoneless : World := .fresh Household.families 0

theorem owners_in_order_handover : Unique phoneless ∧ Elsewhere (schedule handover) ∧
    Unique (pool forgetful phoneless (schedule handover) 17).state ∧
      ∃ es, Log cell (pool forgetful phoneless (schedule handover)) (schedule handover) 17 es ∧
        (∀ p, p ∈ owned (pool forgetful phoneless (schedule handover) 17).state ↔
          (∃ es₁ e es₂, es = es₁ ++ e :: es₂ ∧ Puts e p ∧ ∀ e' ∈ es₂, ¬ Takes e' p) ∨
            p ∈ owned phoneless ∧ ∀ e ∈ es, ¬ Takes e p) ∧
        (∀ i r res, (pool forgetful phoneless (schedule handover) 17).tag i = some r →
          (pool forgetful phoneless (schedule handover) 17).result i = some res →
          (∀ data, r ≠ .notify data) → (i ∈ es.map Entry.thread ↔ res = .ok ())) ∧
        ∀ e ∈ es, ∀ e' ∈ es, ∀ m res,
          (pool forgetful phoneless (schedule handover) m).result e.thread = some res →
          (pool forgetful phoneless (schedule handover) m).prog e'.thread = none →
          e.move < e'.move := by
  have hw : Unique phoneless := List.nodup_nil
  have hother : Elsewhere (schedule handover) := forall_other_schedule (by simp [handover])
  exact ⟨hw, hother, owners_in_order hw hother 17⟩

end GuardTime.Push.Registry
