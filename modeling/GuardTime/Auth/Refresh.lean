import Mathlib.Tactic
import GuardTime.Calls
import GuardTime.Services.Auth
import GuardTime.Household

/-! # Refresh tokens under overlapping requests

Any number of `login`, `refresh` and `logout` requests, interleaved call by call. `login` and
`logout` write the stored hash unconditionally; `refresh` swaps it if it is still the presented one.
A hash is stored by the request that has signed its token and by no other, so a hash that has left
the column never returns to it (`Gone`), and a refresh token is used at most once (`single_use`). -/

namespace GuardTime.Auth.Refresh

open GuardTime.Lib.Program GuardTime.Lib.Interleave GuardTime.Lib.Keyed GuardTime.Lib.Js
open GuardTime.Schema GuardTime.Server GuardTime.Prisma GuardTime.Services
open GuardTime.Services.Auth (Tokens LoginDto hashToken)

/-! ### Requests -/

/-- A request to the service. -/
inductive Request where
  | login (dto : LoginDto)
  | refresh (token : String)
  | logout (userId : String)

/-- What the service does; the tokens it returns. -/
def Request.prog (env : Env) : Request → Api (Option Tokens)
  | .login dto => do
    let tokens ← Auth.login env dto
    pure (some tokens)
  | .refresh token => do
    let tokens ← Auth.refresh env token
    pure (some tokens)
  | .logout userId => do
    Auth.logout userId
    pure none

/-- The pool of requests after `n` moves. -/
def pool (env : Env) (w : World) (moves : ℕ → Move Request World) :
    ℕ → Pool Request World Err (Option Tokens) :=
  (Pool.idle w).after (fun _ r => r.prog env) moves

/-- The user whose tokens were issued or revoked. -/
def Request.user : Request → Option Tokens → Option String
  | .logout userId, _ => some userId
  | _, tokens => tokens.map Tokens.userId

/-! ### The stored hash -/

/-- The column `refreshToken` of the user. -/
def stored (userId : String) (w : World) : Option (Option String) :=
  (w.db.users.find userId).map User.refreshToken

/-- The stored hashes are left alone, and no identifier is handed out again. -/
structure Quiet (w w' : World) : Prop where
  stored : ∀ userId, stored userId w' = stored userId w
  uuids : w'.uuids = w.uuids
  calls : w.calls ≤ w'.calls

theorem quiet_of_users {w w' : World} (hu : w'.db.users = w.db.users) (huuids : w'.uuids = w.uuids)
    (hcalls : w.calls ≤ w'.calls) : Quiet w w' :=
  ⟨fun _ => by rw [stored, hu, stored], huuids, hcalls⟩

theorem idle_quiet : Idle Quiet := fun _ => quiet_of_users rfl rfl (Nat.le_succ _)

theorem quiet_refl (w : World) : Quiet w w := quiet_of_users rfl rfl le_rfl

/-- The column after an update of the users with `p`. -/
theorem stored_modify {f : User → User} {hf : ∀ u, (f u).id = u.id} (p : User → Bool)
    (userId : String) (w : World) :
    stored userId (World.afterCall w (Model.user.set w.db (w.db.users.modify p f hf))) =
      (w.db.users.find userId).map fun u => if p u then (f u).refreshToken else u.refreshToken := by
  change Option.map User.refreshToken ((w.db.users.modify p f hf).find userId) = _
  rw [Table.find_modify, Option.map_map]
  refine congrFun (congrArg Option.map (funext fun u => ?_)) _
  exact apply_ite User.refreshToken _ _ _

/-- The column after an update of one user. -/
theorem stored_patch {f : User → User} {hf : ∀ u, (f u).id = u.id} (userId k : String) (w : World) :
    stored userId (World.afterCall w
      (Model.user.set w.db (Model.user.patch w.db.users w.now k f hf))) =
      (w.db.users.find userId).map fun u =>
        if u.id = k then (f u).refreshToken else u.refreshToken := by
  refine (stored_modify _ userId w).trans (congrFun (congrArg Option.map (funext fun u => ?_)) _)
  simp only [decide_eq_true_eq]
  rfl

/-- The hash `h` is of a refresh token with this `jti`. -/
def Signed (env : Env) (h jti : String) : Prop :=
  ∃ p expiresIn now, p.jti = jti ∧
    h = hashToken env (env.jwtSign p env.jwtRefreshSecret expiresIn now)

/-- A token with this hash may still be signed. -/
def Future (env : Env) (h : String) (w : World) : Prop :=
  ∃ n, w.calls ≤ n ∧ Signed env h (w.uuids n 0)

/-! ### One request -/

/-- Where a request stands: it has signed no refresh token yet, it has signed one for a user, or it
has written the user's column. -/
inductive Local where
  | working
  | signed (userId h : String)
  | done (userId : String)
deriving DecidableEq

/-- The column of the user becomes `x`, the others stay. -/
structure Writes (userId : String) (x : Option String) (w w' : World) : Prop where
  found : (stored userId w).isSome
  stored : ∀ k, stored k w' = if k = userId then some x else stored k w
  uuids : w'.uuids = w.uuids
  calls : w.calls ≤ w'.calls

/-- What a call of a request does; a request that has written makes no further call. -/
inductive Does (env : Env) (r : Request) (u : World → World) : Local → World → Local → Prop
  | quiet {q : Local} {w : World} (hq : ∀ userId, q ≠ .done userId) (h : Quiet w (u w)) :
    Does env r u q w q
  | sign {w : World} (userId h : String) (hs : Signed env h (w.uuids w.calls 0))
    (hq : Quiet w (u w)) (hcalls : w.calls < (u w).calls) :
    Does env r u .working w (.signed userId h)
  | write {w : World} {userId h : String} (hw : Writes userId (some h) w (u w))
    (hswap : ∀ v, r = .refresh v → stored userId w = some (some (hashToken env v))) :
    Does env r u (.signed userId h) w (.done userId)
  | revoke {w : World} {userId : String} (hr : r = .logout userId)
    (hw : Writes userId none w (u w)) : Does env r u .working w (.done userId)

section Request
variable {env : Env} {r : Request}

/-- Calls that matter to no token, before one is signed. -/
theorem Follows.quiet_bind {α β : Type} {p : Api α} {f : α → Api β} {E : β → Local → Prop}
    (hp : Calls Quiet p)
    (hf : ∀ a, Follows (Does env r) (fun q res => ∀ b, res = .ok b → E b q) (f a) .working) :
    Follows (Does env r) (fun q res => ∀ b, res = .ok b → E b q) (p >>= f) .working := by
  have hquiet : Follows (Does env r) (fun q' _ => q' = .working) p .working :=
    .of_calls hp rfl fun _ q' w hq h => ⟨q', .quiet (fun userId => by rw [hq]; simp) (h w), hq⟩
  refine .bind hquiet ?_ ?_
  · rintro q' a rfl
    exact hf a
  · rintro q' e - b hb
    cases hb

/-- A token pair is signed. -/
theorem follows_generateTokens (sub email : String) (role : Role) :
    Follows (Does env r) (fun q res => ∀ tokens, res = .ok tokens → tokens.userId = sub ∧
      q = .signed sub (hashToken env tokens.refreshToken))
      (Auth.generateTokens env sub email role) .working := by
  refine Follows.quiet_bind (calls_newDate quiet_refl) fun now =>
    Follows.quiet_bind (calls_randomUUID idle_quiet) fun accessJti => ?_
  refine .bind (F := fun q res => ∀ jti, res = .ok jti → q = .signed sub (hashToken env
    (env.jwtSign ⟨sub, email, role, jti⟩ env.jwtRefreshSecret env.jwtRefreshExpiresIn now)))
    (.call fun w => ?_) ?_ ?_
  · have hsigned : Signed env (hashToken env (env.jwtSign ⟨sub, email, role, w.uuids w.calls 0⟩
        env.jwtRefreshSecret env.jwtRefreshExpiresIn now)) (w.uuids w.calls 0) := ⟨_, _, _,
          rfl, rfl⟩
    refine ⟨_, .sign sub _ hsigned (idle_quiet w) (Nat.lt_succ_self _), ?_⟩
    rintro jti ⟨⟩
    rfl
  · intro q jti hq tokens htokens
    cases htokens
    exact ⟨rfl, hq jti rfl⟩
  · intro q e _ tokens htokens
    cases htokens

/-- What the update of one user writes. -/
theorem writes_update {f : User → User} {hf : ∀ u, (f u).id = u.id} {k : String} {x : Option String}
    (hx : ∀ u, (f u).refreshToken = x) {w : World} {row : User}
    (hrow : w.db.users.find k = some row) : Writes k x w (World.afterCall w
      (Model.user.set w.db (Model.user.patch w.db.users w.now k f hf))) := by
  refine ⟨by rw [stored, hrow]; rfl, fun userId => ?_, rfl, Nat.le_succ _⟩
  rw [stored_patch]
  by_cases hid : userId = k
  · subst hid
    rw [hrow, Option.map_some, if_pos (Table.key_of_find hrow), hx, if_pos rfl]
  · rw [if_neg hid, stored]
    rcases hu : w.db.users.find userId with _ | u
    · rfl
    · have hne : u.id ≠ k := by rwa [Table.key_of_find hu]
      simp [hne]

/-- `issueTokens` writes what it has signed. -/
theorem follows_issueTokens (hr : ∀ v, r ≠ .refresh v) (sub email : String) (role : Role) :
    Follows (Does env r) (fun q res => ∀ tokens, res = .ok tokens → q = .done tokens.userId)
      (Auth.issueTokens env sub email role) .working := by
  refine .bind (follows_generateTokens sub email role) ?_ ?_
  · intro q tokens hq
    obtain ⟨rfl, rfl⟩ := hq tokens rfl
    refine .bind (F := fun q res => ∀ u, res = .ok u → q = .done tokens.userId)
      (follows_update ?_ ?_) ?_ ?_
    · intro w e hrun
      refine ⟨_, .quiet (by simp) ?_, fun u hu => by cases hu⟩
      rw [hrun]
      exact idle_quiet w
    · intro w row hrow hrun
      refine ⟨_, .write ?_ fun v hv => absurd hv (hr v), fun u _ => rfl⟩
      rw [hrun]
      exact writes_update (fun _ => by rfl) hrow
    · intro q u hq tokens' htokens
      cases htokens
      exact hq u rfl
    · intro q e _ tokens' htokens
      cases htokens
  · intro q e _ tokens htokens
    cases htokens

/-- Other columns of the user. -/
theorem quiet_update {f : User → User} {hf : ∀ u, (f u).id = u.id}
    (hkeep : ∀ u, (f u).refreshToken = u.refreshToken) (k : String) :
    Calls Quiet (Prisma.update .user k f hf) := by
  refine calls_update idle_quiet fun w row _ => ⟨fun userId => ?_, rfl, Nat.le_succ _⟩
  refine (stored_patch userId k w).trans (congrFun (congrArg Option.map (funext fun u => ?_)) _)
  rw [hkeep, ite_self]

theorem follows_login (dto : LoginDto) : Follows (Does env (.login dto))
    (fun q res => ∀ tokens, res = .ok tokens → q = .done tokens.userId) (Auth.login env dto)
    .working := by
  refine Follows.quiet_bind (calls_query idle_quiet _) fun found =>
    Follows.quiet_bind (.orThrow _ _) fun user =>
    Follows.quiet_bind (calls_newDate quiet_refl) fun now =>
    Follows.quiet_bind (.require _ _) fun _ => .ite (fun _ => ?_) fun _ => ?_
  · refine Follows.quiet_bind
      (.ite (.bind (quiet_update (fun _ => by rfl) _) fun _ => .pure _) (.pure _))
      fun _ => follows_issueTokens (fun v hv => by cases hv) _ _ _
  · refine Follows.quiet_bind ?_ fun _ => ?_
    · exact .bind (calls_newDate quiet_refl) fun now =>
        .bind (quiet_update (fun _ => by rfl) _) fun _ => .pure _
    · intro tokens htokens
      cases htokens

theorem follows_logout (userId : String) : Follows (Does env (.logout userId))
    (fun q res => ∀ u, res = .ok u → q = .done userId) (Auth.logout userId) .working := by
  refine .bind (F := fun q res => ∀ u, res = .ok u → q = .done userId) (follows_update ?_ ?_) ?_ ?_
  · intro w e hrun
    refine ⟨_, .quiet (by simp) ?_, fun u hu => by cases hu⟩
    rw [hrun]
    exact idle_quiet w
  · intro w row hrow hrun
    refine ⟨_, .revoke rfl ?_, fun u _ => rfl⟩
    rw [hrun]
    exact writes_update (fun _ => by rfl) hrow
  · intro q u hq u' _
    exact hq u rfl
  · intro q e _ u hu
    cases hu

/-- The swap: the column is written if it holds the presented hash, else nothing is. -/
theorem follows_swap {userId h v : String} : Follows (Does env (.refresh v))
    (fun q res => ∀ count, res = .ok count → count ≠ 0 → q = .done userId)
    (Prisma.updateMany .user (fun u => u.id = userId && u.refreshToken = some (hashToken env v))
      fun u => { u with refreshToken := some h }) (.signed userId h) := by
  refine .call fun w => ?_
  set p : User → Bool := fun u => u.id = userId && u.refreshToken = some (hashToken env v) with hp
  have hstored : ∀ k, stored k (World.afterCall w (Model.user.set w.db (w.db.users.modify p
      (fun u => Model.user.touch w.now { u with refreshToken := some h }) fun _ => by rfl))) =
      (w.db.users.find k).map fun u => if p u then some h else u.refreshToken :=
    fun k => stored_modify p k w
  by_cases hcount : (w.db.users.rows.countP p) = 0
  · -- no row matches: the swap leaves the table as it is
    refine ⟨_, .quiet (by simp) ⟨fun k => (hstored k).trans ?_, rfl, Nat.le_succ _⟩, ?_⟩
    · have hnone : ∀ u ∈ w.db.users.rows, ¬ p u = true := List.countP_eq_zero.mp hcount
      rw [stored]
      rcases hu : w.db.users.find k with _ | u
      · rfl
      · simp [hnone u (Table.mem_of_find hu)]
    · rintro count ⟨⟩ hne
      exact absurd hcount hne
  · obtain ⟨row, hrow, hmatch⟩ := List.countP_pos_iff.mp (Nat.pos_of_ne_zero hcount)
    simp only [hp, Bool.and_eq_true, decide_eq_true_eq] at hmatch
    have hfind : w.db.users.find userId = some row := hmatch.1 ▸ Table.find_key hrow
    refine ⟨_,
      .write ⟨by rw [stored, hfind]; rfl, fun k => (hstored k).trans ?_, rfl, Nat.le_succ _⟩ ?_,
      fun count _ _ => rfl⟩
    · by_cases hk : k = userId
      · subst hk
        rw [hfind, if_pos rfl, Option.map_some, if_pos (by simp [hp, hmatch])]
      · rw [if_neg hk, stored]
        rcases hu : w.db.users.find k with _ | u
        · rfl
        · have hne : u.id ≠ userId := by rwa [Table.key_of_find hu]
          simp [hp, hne]
    · rintro v' ⟨⟩
      rw [stored, hfind]
      exact congrArg some hmatch.2

/-- **One refresh**: it signs a token for the user of the presented one, and swaps the hashes. -/
theorem follows_refresh (v : String) : Follows (Does env (.refresh v))
    (fun q res => ∀ tokens, res = .ok tokens → q = .done tokens.userId ∧
      ∃ now, (env.jwtVerify v env.jwtRefreshSecret now).map JwtPayload.sub = some tokens.userId)
    (Auth.refresh env v) .working := by
  refine Follows.quiet_bind (calls_newDate quiet_refl) fun now => ?_
  refine .orThrow_bind (fun payload hpayload => ?_) fun _ tokens htokens => by cases htokens
  refine .bind (F := fun q res => q = .working ∧ ∀ found, res = .ok found → ∀ u, found = some u →
    u.id = payload.sub) (.call fun w => ?_) ?_ ?_
  · refine ⟨_, .quiet (by simp) (idle_quiet w), rfl, ?_⟩
    rintro found ⟨⟩ u hu
    exact Table.key_of_find hu
  · rintro q found ⟨rfl, hfound⟩
    refine .orThrow_bind (fun user huser => ?_) fun _ tokens htokens => by cases htokens
    have hid : user.id = payload.sub :=
      hfound found rfl user (Option.eq_some_of_filter_eq_some huser)
    refine .bind (follows_generateTokens user.id user.email user.role) ?_ ?_
    · intro q tokens hq
      obtain ⟨husr, rfl⟩ := hq tokens rfl
      refine .bind follows_swap ?_ ?_
      · intro q count hq
        refine .require_bind (fun hcount => ?_) fun _ tokens htokens => by cases htokens
        rintro tokens' ⟨⟩
        rw [husr]
        exact ⟨hq count rfl hcount, now, by rw [hpayload, hid]; rfl⟩
      · intro q e _ tokens htokens
        cases htokens
    · intro q e _ tokens htokens
      cases htokens
  · intro q e _ tokens htokens
    cases htokens

end Request

/-- How requests sign and write. -/
def protocol (env : Env) : Protocol Request World Err (Option Tokens) Local where
  init _ := .working
  step := Does env
  ends r q res := ∀ x, res = .ok x → ∃ userId, r.user x = some userId ∧ q = .done userId ∧
    ∀ v, r = .refresh v →
      ∃ now, (env.jwtVerify v env.jwtRefreshSecret now).map JwtPayload.sub = some userId

theorem follows_prog (env : Env) (r : Request) :
    Follows ((protocol env).step r) ((protocol env).ends r) (r.prog env) .working := by
  cases r with
  | login dto =>
    refine .bind (follows_login dto) (fun q tokens hq x hx => ?_) fun q e _ x hx => by cases hx
    cases hx
    exact ⟨_, rfl, hq tokens rfl, fun v hv => by cases hv⟩
  | refresh token =>
    refine .bind (follows_refresh token) (fun q tokens hq x hx => ?_) fun q e _ x hx => by cases hx
    cases hx
    refine ⟨_, rfl, (hq tokens rfl).1, ?_⟩
    rintro v ⟨⟩
    exact (hq tokens rfl).2
  | logout userId =>
    refine .bind (follows_logout userId) (fun q u hq x hx => ?_) fun q e _ x hx => by cases hx
    exact ⟨_, rfl, hq u rfl, fun v hv => by cases hv⟩

/-! ### Where a hash can be -/

/-- Distinct `jti` values give distinct tokens, SHA-256 has no collisions, and what a token says
does not depend on when it is verified. -/
structure Sound (env : Env) : Prop where
  sha256 : Function.Injective env.sha256
  jti : ∀ p p' expiresIn expiresIn' now now', env.jwtSign p env.jwtRefreshSecret expiresIn now =
    env.jwtSign p' env.jwtRefreshSecret expiresIn' now' → p.jti = p'.jti
  payload : ∀ v now now' p p', env.jwtVerify v env.jwtRefreshSecret now = some p →
    env.jwtVerify v env.jwtRefreshSecret now' = some p' → p = p'

/-- `randomUUID` never repeats itself, and no stored hash is of a token with an identifier still to
come. -/
structure FreshIds (env : Env) (w : World) : Prop where
  uuids : Function.Injective fun n => w.uuids n 0
  stored : ∀ userId h, stored userId w = some (some h) → ¬ Future env h w

/-- The rest of the server leaves the refresh tokens alone. -/
def Elsewhere (moves : ℕ → Move Request World) : Prop :=
  ∀ n f, moves n = .other f → ∀ w, Quiet w (f w)

/-- The request `i` has signed the token with the hash `h` and not written it. -/
def Pending (h : String) (g : Locals Request Local) (i : ℕ) : Prop :=
  ∃ r userId, g i = some (r, .signed userId h)

/-- The hash will not be written again. -/
structure Settled (env : Env) (h : String) (w : World) (g : Locals Request Local) : Prop where
  pending : ∀ i, ¬ Pending h g i
  future : ¬ Future env h w

/-- A hash is still to come, or one request has it, or it is written. -/
structure Once (env : Env) (h : String) (w : World) (g : Locals Request Local) : Prop where
  uuids : Function.Injective fun n => w.uuids n 0
  column : ∀ userId, stored userId w = some (some h) → Settled env h w g
  pending : ∀ i, Pending h g i → ¬ Future env h w ∧ (∀ j, Pending h g j → j = i) ∧
    ∀ userId, stored userId w ≠ some (some h)

/-- What a move does with a hash: nothing, or a request signs it, or a request writes it. -/
inductive Touch (env : Env) (h : String) (w : World) (g : Locals Request Local) (w' : World)
    (g' : Locals Request Local) : Prop
  | keeps (hp : ∀ j, Pending h g' j → Pending h g j)
    (hs : ∀ k, stored k w' = some (some h) → stored k w = some (some h))
    (hf : Future env h w' → Future env h w)
  | signs (i : ℕ) (hfuture : Future env h w) (hf : ¬ Future env h w')
    (hp : ∀ j, Pending h g' j → Pending h g j ∨ j = i) (hs : ∀ k, stored k w' = stored k w)
  | writes (i : ℕ) (hi : Pending h g i) (hp : ∀ j, Pending h g' j → Pending h g j ∧ j ≠ i)
    (hf : Future env h w' → Future env h w)

section Touch
variable {env : Env} {h : String} {w w' : World} {g g' : Locals Request Local}

theorem Future.of_later (huuids : w'.uuids = w.uuids) (hcalls : w.calls ≤ w'.calls)
    (hf : Future env h w') : Future env h w := by
  obtain ⟨n, hn, hs⟩ := hf
  rw [huuids] at hs
  exact ⟨n, hcalls.trans hn, hs⟩

theorem Settled.touch (hset : Settled env h w g) (ht : Touch env h w g w' g') :
    Settled env h w' g' ∧
      ∀ k, stored k w ≠ some (some h) → stored k w' ≠ some (some h) := by
  cases ht with
  | keeps hp hs hf =>
    exact ⟨⟨fun j hj => hset.pending j (hp j hj), fun hf' => hset.future (hf hf')⟩,
      fun k hk hk' => hk (hs k hk')⟩
  | signs i hfuture => exact absurd hfuture hset.future
  | writes i hi => exact absurd hi (hset.pending i)

theorem Once.touch (hinv : Once env h w g) (huuids : w'.uuids = w.uuids)
    (ht : Touch env h w g w' g') : Once env h w' g' := by
  refine ⟨huuids ▸ hinv.uuids, fun k hk => ?_, fun i hi => ?_⟩
  · cases ht with
    | keeps hp hs hf =>
      exact ((hinv.column k (hs k hk)).touch (.keeps hp hs hf)).1
    | signs i hfuture hf hp hs =>
      rw [hs] at hk
      exact absurd hfuture (hinv.column k hk).future
    | writes i hi hp hf =>
      obtain ⟨hnot, honly, -⟩ := hinv.pending i hi
      exact ⟨fun j hj => (hp j hj).2 (honly j (hp j hj).1), fun hf' => hnot (hf hf')⟩
  · cases ht with
    | keeps hp hs hf =>
      obtain ⟨hnot, honly, hcol⟩ := hinv.pending i (hp i hi)
      exact ⟨fun hf' => hnot (hf hf'), fun j hj => honly j (hp j hj), fun k hk => hcol k (hs k hk)⟩
    | signs i' hfuture hf hp hs =>
      have hsole : ∀ j, Pending h g' j → j = i' := by
        intro j hj
        refine (hp j hj).resolve_left fun hj' => ?_
        exact (hinv.pending j hj').1 hfuture
      refine ⟨hf, fun j hj => (hsole j hj).trans (hsole i hi).symm, fun k hk => ?_⟩
      rw [hs] at hk
      exact (hinv.column k hk).future hfuture
    | writes i' hi' hp hf =>
      obtain ⟨-, honly, -⟩ := hinv.pending i' hi'
      exact absurd (honly i (hp i hi).1) (hp i hi).2

theorem Pending.of_update {i j : ℕ} {r : Request} {q : Local}
    (hj : Pending h (Function.update g i (some (r, q))) j) :
    j = i ∧ (∃ userId, q = .signed userId h) ∨ j ≠ i ∧ Pending h g j := by
  obtain ⟨r', userId, hj⟩ := hj
  by_cases hij : j = i
  · subst hij
    rw [Function.update_self] at hj
    cases hj
    exact .inl ⟨rfl, userId, rfl⟩
  · rw [Function.update_of_ne hij] at hj
    exact .inr ⟨hij, r', userId, hj⟩

theorem Signed.inj (hs : Sound env) {a b : String} (ha : Signed env h a) (hb : Signed env h b) :
    a = b := by
  obtain ⟨p, e, t, rfl, rfl⟩ := ha
  obtain ⟨p', e', t', rfl, hb⟩ := hb
  exact hs.jti _ _ _ _ _ _ (hs.sha256 hb)

/-- A call of a request, and a hash. -/
theorem touch_call (hs : Sound env) (hinj : Function.Injective fun n => w.uuids n 0) {i : ℕ}
    {r : Request} {u : World → World} {q q' : Local} (hi : g i = some (r, q))
    (hstep : Does env r u q w q') : (u w).uuids = w.uuids ∧
      Touch env h w g (u w) (Function.update g i (some (r, q'))) := by
  cases hstep with
  | quiet _ hq =>
    refine ⟨hq.uuids, .keeps (fun j hj => ?_) (fun k hk => hq.stored k ▸ hk)
      (Future.of_later hq.uuids hq.calls)⟩
    rcases hj.of_update with ⟨rfl, userId, rfl⟩ | ⟨-, hj⟩
    · exact ⟨r, userId, hi⟩
    · exact hj
  | sign userId h' hsigned hq hcalls =>
    refine ⟨hq.uuids, ?_⟩
    by_cases hh : h' = h
    · subst hh
      refine .signs i ⟨w.calls, le_rfl, hsigned⟩ ?_ (fun j hj => ?_) hq.stored
      · rintro ⟨n, hn, hs'⟩
        rw [hq.uuids] at hs'
        have hn' : w.calls = n := hinj (hsigned.inj hs hs')
        omega
      · exact hj.of_update.elim (fun h => .inr h.1) fun h => .inl h.2
    · refine .keeps (fun j hj => ?_) (fun k hk => hq.stored k ▸ hk)
        (Future.of_later hq.uuids hq.calls)
      rcases hj.of_update with ⟨-, userId', he⟩ | ⟨-, hj⟩
      · cases he
        exact absurd rfl hh
      · exact hj
  | @write _ userId h' hw hswap =>
    refine ⟨hw.uuids, ?_⟩
    have hpending : ∀ j, Pending h (Function.update g i (some (r, .done userId))) j →
        Pending h g j ∧ j ≠ i := by
      intro j hj
      rcases hj.of_update with ⟨-, userId', he⟩ | ⟨hji, hj⟩
      · cases he
      · exact ⟨hj, hji⟩
    by_cases hh : h' = h
    · subst hh
      exact .writes i ⟨r, userId, hi⟩ hpending (Future.of_later hw.uuids hw.calls)
    · refine .keeps (fun j hj => (hpending j hj).1) (fun k hk => ?_)
        (Future.of_later hw.uuids hw.calls)
      rw [hw.stored] at hk
      split_ifs at hk with hku
      · exact absurd (Option.some.inj (Option.some.inj hk)) hh
      · exact hk
  | @revoke _ userId hr hw =>
    refine ⟨hw.uuids, .keeps (fun j hj => ?_) (fun k hk => ?_)
      (Future.of_later hw.uuids hw.calls)⟩
    · rcases hj.of_update with ⟨-, userId', he⟩ | ⟨-, hj⟩
      · cases he
      · exact hj
    · rw [hw.stored] at hk
      split_ifs at hk with hku
      · cases hk
      · exact hk

/-- Any move, and a hash. -/
theorem touch_moved {P P' : Pool Request World Err (Option Tokens)} {m : Move Request World}
    (hs : Sound env) (hinj : Function.Injective fun n => P.state.uuids n 0)
    (hmoved : (protocol env).Moved P g m P' g') (hother : ∀ f, m = .other f → ∀ w, Quiet w (f w)) :
    P'.state.uuids = P.state.uuids ∧ Touch env h P.state g P'.state g' := by
  cases hmoved with
  | @start r i _ hi hstate =>
    rw [hstate]
    refine ⟨rfl, .keeps (fun j hj => ?_) (fun k hk => hk) id⟩
    rcases hj.of_update with ⟨-, userId, he⟩ | ⟨-, hj⟩
    · cases he
    · exact hj
  | call hi hp hstep hstate =>
    rw [hstate]
    exact touch_call hs hinj hi hstep
  | idle hp => exact ⟨rfl, .keeps (fun j hj => hj) (fun k hk => hk) id⟩
  | @other f _ hstate =>
    rw [hstate]
    have hq := hother f rfl P.state
    exact ⟨hq.uuids, .keeps (fun j hj => hj) (fun k hk => hq.stored k ▸ hk)
      (Future.of_later hq.uuids hq.calls)⟩

/-- A request that writes the column of the user takes a written hash out of it. -/
theorem Settled.done (hset : Settled env h w g) {i : ℕ} {r : Request} {u : World → World}
    {q : Local}
    {userId : String} (hi : g i = some (r, q)) (hstep : Does env r u q w (.done userId)) :
    stored userId (u w) ≠ some (some h) := by
  cases hstep with
  | quiet hq _ => exact absurd rfl (hq userId)
  | @write _ _ h' hw hswap =>
    rw [hw.stored, if_pos rfl]
    rintro ⟨⟩
    exact hset.pending i ⟨r, userId, hi⟩
  | revoke hr hw =>
    rw [hw.stored, if_pos rfl]
    rintro ⟨⟩

end Touch

/-! ### Runs -/

section Run
variable {env : Env} {w : World} {moves : ℕ → Move Request World} {g : ℕ → Locals Request Local}
  {h : String}

/-- Every hash is written at most once. -/
theorem once_run (hs : Sound env) (hw : FreshIds env w) (hother : Elsewhere moves)
    (hg : (protocol env).Traces (pool env w moves) moves g) (h : String) (n : ℕ) :
    Once env h (pool env w moves n).state (g n) := by
  induction n with
  | zero =>
    rw [hg.zero]
    refine ⟨hw.uuids, fun k hk => ⟨?_, hw.stored k h hk⟩, ?_⟩
    · rintro i ⟨r, userId, hi⟩
      cases hi
    · rintro i ⟨r, userId, hi⟩
      cases hi
  | succ n ih =>
    obtain ⟨huuids, ht⟩ := touch_moved hs ih.uuids (hg.moved n) (hother n)
    exact ih.touch huuids ht

/-- The hash has been written and has left the column of the user. -/
def Gone (env : Env) (userId h : String) (w : World) (g : Locals Request Local) : Prop :=
  Settled env h w g ∧ stored userId w ≠ some (some h)

section Gone
variable (hs : Sound env) (hw : FreshIds env w) (hother : Elsewhere moves)
  (hg : (protocol env).Traces (pool env w moves) moves g)
include hs hw hother hg

theorem settled_of_le {a n : ℕ} (han : a ≤ n)
    (h₀ : Settled env h (pool env w moves a).state (g a)) :
    Settled env h (pool env w moves n).state (g n) := by
  induction n, han using Nat.le_induction with
  | base => exact h₀
  | succ n _ ih =>
    have honce := once_run hs hw hother hg h n
    exact (ih.touch (touch_moved hs honce.uuids (hg.moved n) (hother n)).2).1

/-- It never returns. -/
theorem gone_of_le {userId : String} {a n : ℕ} (han : a ≤ n)
    (h₀ : Gone env userId h (pool env w moves a).state (g a)) :
    Gone env userId h (pool env w moves n).state (g n) := by
  induction n, han using Nat.le_induction with
  | base => exact h₀
  | succ n _ ih =>
    have honce := once_run hs hw hother hg h n
    have hkept := ih.1.touch (touch_moved hs honce.uuids (hg.moved n) (hother n)).2
    exact ⟨hkept.1, hkept.2 userId ih.2⟩

end Gone

/-- A request that has written did so in one of its calls. -/
theorem exists_done (hg : (protocol env).Traces (pool env w moves) moves g) {i : ℕ} {r : Request}
    {userId : String} {a n : ℕ} (han : a ≤ n) (ha : ∀ r userId, g a i ≠ some (r, .done userId))
    (hn : g n i = some (r, .done userId)) :
    ∃ m q u, a ≤ m ∧ m < n ∧ moves m = .call i ∧ g m i = some (r, q) ∧
      Does env r u q (pool env w moves m).state (.done userId) ∧
      (pool env w moves (m + 1)).state = u (pool env w moves m).state := by
  induction n, han using Nat.le_induction with
  | base => exact absurd hn (ha r userId)
  | succ n han ih =>
    rcases (hg.moved n).at i with ⟨heq, -⟩ | ⟨t, -, -, hnew⟩ | ⟨t, q, q', u, k, hm, hi, -, hstep,
      hstate, hnew⟩
    · obtain ⟨m, q, u, hle, hlt, hrest⟩ := ih (heq ▸ hn)
      exact ⟨m, q, u, hle, by omega, hrest⟩
    · rw [hnew] at hn
      cases hn
    · rw [hnew] at hn
      cases hn
      exact ⟨n, q, u, han, by omega, hm, hi, hstep, hstate⟩

/-- A request that has written has returned. -/
theorem result_of_done {P : Pool Request World Err (Option Tokens)} {g : Locals Request Local}
    (hfit : (protocol env).Fits P g) {i : ℕ} {r : Request} {userId : String}
    (hi : g i = some (r, .done userId)) : P.result i ≠ none := by
  rcases hθ : P.threads[i]? with _ | ⟨t, p⟩
  · rw [hfit.none i hθ] at hi
    cases hi
  · obtain ⟨q, hq, hfollows⟩ := hfit.some i _ hθ
    rw [hi] at hq
    cases hq
    rcases p with res | ⟨u, k⟩
    · simp [Pool.result, hθ]
    · obtain ⟨q', hstep, -⟩ := hfollows P.state
      cases hstep with
      | quiet hne _ => exact absurd rfl (hne userId)

theorem done_of_le (hg : (protocol env).Traces (pool env w moves) moves g) {i : ℕ} {r : Request}
    {userId : String} {a n : ℕ} (han : a ≤ n) (ha : g a i = some (r, .done userId)) :
    g n i = some (r, .done userId) := by
  induction n, han using Nat.le_induction with
  | base => exact ha
  | succ n _ ih =>
    rcases (hg.moved n).at i with ⟨heq, -⟩ | ⟨t, hi, -, -⟩ | ⟨t, q, q', u, k, -, hi, -, hstep, -, -⟩
    · rw [heq, ih]
    · rw [ih] at hi
      cases hi
    · rw [ih] at hi
      cases hi
      cases hstep with
      | quiet hne _ => exact absurd rfl (hne userId)

/-- The refresh `i` of the token `v` has succeeded. -/
def Succeeded (P : Pool Request World Err (Option Tokens)) (i : ℕ) (v : String) : Prop :=
  P.tag i = some (.refresh v) ∧ ∃ tokens, P.result i = some (.ok tokens)

/-- The request `j` is a login, a rotation or a logout of the user, and it has committed: the write
is the last call of each. -/
def Committed (P : Pool Request World Err (Option Tokens)) (j : ℕ) (userId : String) : Prop :=
  ∃ r tokens, P.tag j = some r ∧ P.result j = some (.ok tokens) ∧ r.user tokens = some userId

theorem done_of_succeeded (hg : (protocol env).Traces (pool env w moves) moves g) {i n : ℕ}
    {v : String} (h : Succeeded (pool env w moves n) i v) :
    ∃ userId, g n i = some (.refresh v, .done userId) ∧
      ∃ now, (env.jwtVerify v env.jwtRefreshSecret now).map JwtPayload.sub = some userId := by
  obtain ⟨htag, tokens, hres⟩ := h
  obtain ⟨r, q, hr, hq, hends⟩ := (hg.fits n).of_result hres
  rw [htag] at hr
  cases hr
  obtain ⟨userId, -, rfl, hnow⟩ := hends tokens rfl
  exact ⟨userId, hq, hnow v rfl⟩

/-- A refresh that succeeds takes the hash of its token out of the column. -/
theorem swap_of_succeeded (hs : Sound env) (hw : FreshIds env w) (hother : Elsewhere moves)
    (hg : (protocol env).Traces (pool env w moves) moves g) {i a n : ℕ} {v userId : String}
    (han : a ≤ n) (ha : (pool env w moves a).result i = none)
    (hn : g n i = some (.refresh v, .done userId)) :
    ∃ m, a ≤ m ∧ m < n ∧ moves m = .call i ∧
      stored userId (pool env w moves m).state = some (some (hashToken env v)) ∧
      Gone env userId (hashToken env v) (pool env w moves (m + 1)).state (g (m + 1)) := by
  have hbefore : ∀ r k, g a i ≠ some (r, .done k) := fun r k hk => result_of_done (hg.fits a) hk ha
  obtain ⟨m, q, u, hle, hlt, hm, hi, hstep, hstate⟩ := exists_done hg han hbefore hn
  have hcol : stored userId (pool env w moves m).state = some (some (hashToken env v)) := by
    cases hstep with
    | quiet hne _ => exact absurd rfl (hne userId)
    | write _ hswap => exact hswap v rfl
    | revoke hr _ => cases hr
  have honce := once_run hs hw hother hg (hashToken env v) m
  have hset := honce.column userId hcol
  refine ⟨m, hle, hlt, hm, hcol,
    (hset.touch (touch_moved hs honce.uuids (hg.moved m) (hother m)).2).1,
    ?_⟩
  rw [hstate]
  exact hset.done hi hstep

/-- **Refresh tokens are used once and can be revoked.** In every interleaving of logins, refreshes
and logouts, no token is refreshed twice with success; and once a login, a rotation or a logout of a
user has committed after a token was the user's current one, no refresh of that token that has not
returned by then succeeds. -/
theorem single_use (hs : Sound env) (hw : FreshIds env w) (hother : Elsewhere moves) :
    (∀ n v i j, Succeeded (pool env w moves n) i v → Succeeded (pool env w moves n) j v → i = j) ∧
    ∀ a c n userId v i j, a ≤ c →
      stored userId (pool env w moves a).state = some (some (hashToken env v)) →
      (∀ now p, env.jwtVerify v env.jwtRefreshSecret now = some p → p.sub = userId) →
      (pool env w moves a).result j = none → Committed (pool env w moves c) j userId →
      (pool env w moves c).result i = none → ¬ Succeeded (pool env w moves n) i v := by
  obtain ⟨g, hg⟩ := Protocol.exists_locals (A := protocol env)
    (fun _ r => follows_prog env r) w moves
  change (protocol env).Traces (pool env w moves) moves g at hg
  have hstart : ∀ i, (pool env w moves 0).result i = none := fun i => rfl
  constructor
  · intro n v i j hi hj
    obtain ⟨userId, hdone, now, hnow⟩ := done_of_succeeded hg hi
    obtain ⟨userId', hdone', now', hnow'⟩ := done_of_succeeded hg hj
    obtain rfl : userId = userId' := by
      obtain ⟨p, hp, rfl⟩ := Option.map_eq_some_iff.mp hnow
      obtain ⟨p', hp', rfl⟩ := Option.map_eq_some_iff.mp hnow'
      rw [hs.payload v now now' p p' hp hp']
    obtain ⟨m, -, -, hm, hcol, hgone⟩ :=
      swap_of_succeeded hs hw hother hg (Nat.zero_le n) (hstart i) hdone
    obtain ⟨m', -, -, hm', hcol', hgone'⟩ :=
      swap_of_succeeded hs hw hother hg (Nat.zero_le n) (hstart j) hdone'
    rcases Nat.lt_trichotomy m m' with hlt | rfl | hlt
    · exact absurd hcol' (gone_of_le hs hw hother hg hlt hgone).2
    · rw [hm] at hm'
      cases hm'
      rfl
    · exact absurd hcol (gone_of_le hs hw hother hg hlt hgone').2
  · rintro a c n userId v i j hac hcur hsub hj ⟨r, tokens, htag, hres, huser⟩ hi hsucc
    have hset := (once_run hs hw hother hg (hashToken env v) a).column userId hcur
    -- the commit takes the hash out of the column
    have hgone : Gone env userId (hashToken env v) (pool env w moves c).state (g c) := by
      obtain ⟨r', q, hr', hq, hends⟩ := (hg.fits c).of_result hres
      rw [htag] at hr'
      cases hr'
      obtain ⟨k, hk, rfl, -⟩ := hends tokens rfl
      rw [huser] at hk
      cases hk
      have hbefore : ∀ r k, g a j ≠ some (r, .done k) :=
        fun r k hk => result_of_done (hg.fits a) hk hj
      obtain ⟨m, q, u, hle, hlt, -, hq', hstep, hstate⟩ := exists_done hg hac hbefore hq
      have hset' := settled_of_le hs hw hother hg hle hset
      refine gone_of_le hs hw hother hg hlt ⟨settled_of_le hs hw hother hg (by omega) hset, ?_⟩
      rw [hstate]
      exact hset'.done hq' hstep
    obtain ⟨userId', hdone, now, hnow⟩ := done_of_succeeded hg hsucc
    obtain rfl : userId' = userId := by
      obtain ⟨p, hp, rfl⟩ := Option.map_eq_some_iff.mp hnow
      exact hsub now p hp
    rcases Nat.lt_or_ge c n with hcn | hnc
    · obtain ⟨m, hle, -, -, hcol, -⟩ := swap_of_succeeded hs hw hother hg hcn.le hi hdone
      exact (gone_of_le hs hw hother hg hle hgone).2 hcol
    · exact result_of_done (hg.fits c) (done_of_le hg hnc hdone) hi

end Run

/-! ### A replay that overlaps the first use -/

/-- Tokens are named after their `jti`, and all belong to `amal`. -/
def named : Env where
  __ := Env.plain
  jwtSign p secret _ _ := secret ++ ":" ++ p.jti
  jwtVerify v _ _ := some ⟨"amal", "amal@example.com", .parent, v⟩

theorem sound_named : Sound named where
  sha256 := fun _ _ h => (String.append_right_inj _).mp h
  jti := fun _ _ _ _ _ _ h => (String.append_right_inj _).mp h
  payload := by
    rintro v now now' p p' ⟨⟩ ⟨⟩
    rfl

/-- The households before anyone has logged in. -/
def quietDay : World := .fresh Household.families 0

theorem freshIds_quietDay : FreshIds named quietDay where
  uuids := fun _ _ h => (fresh_uuids_injective h).1
  stored := by
    intro userId h hstored
    obtain ⟨u, hu, hh⟩ := Option.map_eq_some_iff.mp hstored
    have hnone : ∀ u ∈ quietDay.db.users.rows, u.refreshToken = none := by decide +kernel
    rw [hnone u (Table.mem_of_find hu)] at hh
    cases hh

/-- `amal` logs in, and her token is presented by two requests that overlap. -/
def replayed : ℕ → Move Request World := schedule
  (.start (.login ⟨"amal@example.com", "secret"⟩) ::
    ((List.replicate 6 (.call 0) : List (Move Request World)) ++
    ([.start (.refresh "refresh:uuid-2-0"), .start (.refresh "refresh:uuid-2-0")] :
      List (Move Request World)) ++
    (List.replicate 5 (.call 1) : List (Move Request World)) ++
    (List.replicate 5 (.call 2) : List (Move Request World)) ++
    ([.call 1, .call 2] : List (Move Request World))))

theorem single_use_replayed :
    Succeeded (pool named quietDay replayed 20) 1 "refresh:uuid-2-0" ∧
      (pool named quietDay replayed 20).result 2 = none ∧
      ∀ n, ¬ Succeeded (pool named quietDay replayed n) 2 "refresh:uuid-2-0" := by
  have hother : Elsewhere replayed := forall_other_schedule (by simp)
  have hfirst : (pool named quietDay replayed 20).result 1 = some (.ok (some
      ⟨"access:uuid-5-0", "refresh:uuid-6-0", "amal", .parent⟩)) := by decide +kernel
  have hunreturned : (pool named quietDay replayed 20).result 2 = none := by decide +kernel
  refine ⟨⟨rfl, _, hfirst⟩, hunreturned, fun n => ?_⟩
  refine (single_use sound_named freshIds_quietDay hother).2 8 20 n "amal" "refresh:uuid-2-0" 2 1
    (by decide) (by decide +kernel) ?_ (by decide +kernel) ⟨.refresh "refresh:uuid-2-0", _, ?_,
      hfirst, rfl⟩
    hunreturned
  · rintro now p ⟨⟩
    rfl
  · rfl

end GuardTime.Auth.Refresh
