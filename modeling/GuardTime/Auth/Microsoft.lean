import Mathlib.Tactic
import GuardTime.Lib.Runs
import GuardTime.Services.OAuth
import GuardTime.Household

/-! # Whose Microsoft tokens are returned

An account is linked under the id the provider gives for it, and under `unknown` when it gives none;
linking it again leaves its owner as it is, while tokens are looked up by owner. So two users with
one provider id share an account, and a user with two ids has two. In a run in which every link is
of an id that is the caller's own and only one, `getDecryptedAccessToken` returns to everyone the
token of their own last link or refresh (`own_token_returned`). -/

namespace GuardTime.Auth.Microsoft

open GuardTime.Lib.Program GuardTime.Lib.Keyed GuardTime.Lib.Js GuardTime.Lib.Runs
open GuardTime.Schema GuardTime.Server GuardTime.Prisma GuardTime.Services GuardTime.Services.OAuth

/-! ### What the calls do to the accounts -/

/-- The accounts are those of the table. -/
def At (t : Table OAuthAccount.id) (w : World) : Prop := w.db.oAuthAccounts = t

/-- The account `r` gets the access token `c` and keeps its owner. -/
def Rewrites (t t' : Table OAuthAccount.id) (r : OAuthAccount) (c : String) : Prop :=
  r ∈ t.rows ∧ ∃ r', r'.userId = r.userId ∧ r'.provider = r.provider ∧ r'.accessToken = c ∧
    ∀ a, a ∈ t'.rows ↔ a = r' ∨ a ∈ t.rows ∧ a ≠ r

/-- A new account of the user. -/
def Adds (t t' : Table OAuthAccount.id) (userId c : String) : Prop :=
  ∃ r', r'.userId = userId ∧ r'.provider = "microsoft" ∧ r'.accessToken = c ∧
    t'.rows = t.rows ++ [r']

section Triples
variable {encryption : EncryptionService} {t : Table OAuthAccount.id}

theorem triple_encrypt (text : Option String) : Prog.Triple (At t) (encrypt encryption text)
    (fun c w => (∃ x, text = some x ∧ encryption.decrypt c = .ok x) ∧ At t w) fun _ => At t := by
  intro w hw
  rcases text with _ | x
  · exact hw
  · exact ⟨⟨x, rfl, encryption.decrypt_cipher _ x⟩, hw⟩

theorem triple_expiresAt (data : TokenData) :
    Prog.Triple (At t) (expiresAt data) (fun _ => At t) fun _ => At t := by
  intro w hw
  rcases hs : data.expires_in with _ | seconds
  · have hrun : (expiresAt data).run w = (.error (.error "PrismaClientValidationError"), w) := by
      simp [expiresAt, hs]
    rw [hrun]
    exact hw
  · have hrun : (expiresAt data).run w = (.ok (w.now + seconds * 1000), w) := by
      simp [expiresAt, hs]
    rw [hrun]
    exact hw

theorem triple_findAccount (userId provider : String) : Prog.Triple (At t)
    (findAccount userId provider)
    (fun o w => (∀ a, o = some a → a ∈ t.rows ∧ a.userId = userId ∧ a.provider = provider) ∧ At t w)
    fun _ => At t := by
  rintro w rfl
  rw [findAccount, run_findFirst]
  refine ⟨fun a ha => ?_, rfl⟩
  have hmem := mem_matching.mp (List.mem_of_head? ha)
  simp only [Bool.and_eq_true, decide_eq_true_eq] at hmem
  exact ⟨hmem.1, hmem.2⟩

/-- The row with the key is rewritten, and no other. -/
theorem rewrites_patch {r : OAuthAccount} (f : OAuthAccount → OAuthAccount)
    (hf : ∀ a, (f a).id = a.id) (hr : r ∈ t.rows) (now : Time) (huser : (f r).userId = r.userId)
    (hprovider : (f r).provider = r.provider) :
    Rewrites t (Model.oAuthAccount.patch t now r.id f hf) r (f r).accessToken := by
  refine ⟨hr, { f r with updatedAt := now }, huser, hprovider, rfl, fun a => ?_⟩
  rw [Model.mem_patch]
  constructor
  · rintro ⟨a₀, ha₀, rfl⟩
    split_ifs with hid
    · obtain rfl := Table.eq_of_key ha₀ hr hid
      exact .inl rfl
    · refine .inr ⟨ha₀, ?_⟩
      rintro rfl
      exact hid rfl
  · rintro (rfl | ⟨ha, hne⟩)
    · exact ⟨r, hr, by rw [if_pos rfl]; rfl⟩
    · refine ⟨a, ha, ?_⟩
      rw [if_neg]
      intro hid
      exact hne (Table.eq_of_key ha hr hid)

/-- Linking gives the tokens to the account with the provider id, or makes one for the user. -/
theorem triple_link (userId : String) (data : TokenData) : Prog.Triple (At t)
    (link encryption userId data)
    (fun o w => o.success = true ∧ ∃ x c, data.access_token = some x ∧
      encryption.decrypt c = .ok x ∧
      ((∃ r, r.provider = "microsoft" ∧ r.providerUserId = providerUserId data ∧
          Rewrites t w.db.oAuthAccounts r c) ∨
        (∀ a ∈ t.rows, a.provider = "microsoft" → a.providerUserId ≠ providerUserId data) ∧
          Adds t w.db.oAuthAccounts userId c))
    fun _ => At t := by
  refine .bind (triple_encrypt _) fun c => .of_fact fun hc => ?_
  refine .bind (triple_encrypt _) fun c' => .of_fact fun _ => ?_
  refine .bind (triple_expiresAt data) fun expires => ?_
  obtain ⟨x, hx, hdecrypt⟩ := hc
  rintro w rfl
  rw [Prog.run_bind]
  rcases run_upsert_cases .oAuthAccount _ (relink data c c' expires)
    (newAccount userId data c c' expires) (fun _ => rfl) w with
    ⟨e, hrun⟩ | ⟨r, hr, hrun⟩ | ⟨t', hnone, ht', hrun⟩ <;> rw [hrun]
  · rfl
  · have hmem := List.mem_of_find?_eq_some hr
    have hkey := List.find?_some hr
    simp only [Bool.and_eq_true, decide_eq_true_eq] at hkey
    exact ⟨rfl, x, c, hx, hdecrypt, .inl ⟨r, hkey.1, hkey.2,
      rewrites_patch (relink data c c' expires) (fun _ => rfl) hmem w.now rfl rfl⟩⟩
  · have hfree := List.find?_eq_none.mp hnone
    refine ⟨rfl, x, c, hx, hdecrypt, .inr ⟨fun a ha hp hk => ?_, ?_⟩⟩
    · exact hfree a ha (by simp [hp, hk])
    · exact ⟨_, rfl, rfl, rfl, (Table.insert_eq_some ht').2⟩

/-- A refresh gives its tokens to the account. -/
theorem triple_storeRefreshed {r : OAuthAccount} (hr : r ∈ t.rows) (data : TokenData) :
    Prog.Triple (At t) (storeRefreshed encryption r.id data)
      (fun o w => o.success = true ∧ ∃ x c, data.access_token = some x ∧
        encryption.decrypt c = .ok x ∧ Rewrites t w.db.oAuthAccounts r c)
      fun _ => At t := by
  refine .bind (triple_encrypt _) fun c => .of_fact fun hc => ?_
  refine .bind (triple_encrypt _) fun c' => .of_fact fun _ => ?_
  refine .bind (triple_expiresAt data) fun expires => ?_
  obtain ⟨x, hx, hdecrypt⟩ := hc
  rintro w rfl
  rw [Prog.run_bind]
  rcases run_update_cases .oAuthAccount r.id (refreshed c c' expires) (fun _ => rfl) w with
    ⟨e, hrun⟩ | ⟨r₀, -, hrun⟩ <;> rw [hrun]
  · rfl
  · exact ⟨rfl, x, c, hx, hdecrypt,
      rewrites_patch (refreshed c c' expires) (fun _ => rfl) hr w.now rfl rfl⟩

theorem triple_callback (microsoft : OAuth.Microsoft) (answer : TokenResponse)
    (userId code : String) :
    Prog.Triple (At t)
      (OAuth.handleMicrosoftCallback encryption microsoft (fun _ => answer) userId code)
    (fun o w => (o.success = false ∧ At t w) ∨ ∃ data, answer = .ok data ∧ o.success = true ∧
      ∃ x c, data.access_token = some x ∧ encryption.decrypt c = .ok x ∧
      ((∃ r, r.provider = "microsoft" ∧ r.providerUserId = providerUserId data ∧
          Rewrites t w.db.oAuthAccounts r c) ∨
        (∀ a ∈ t.rows, a.provider = "microsoft" → a.providerUserId ≠ providerUserId data) ∧
          Adds t w.db.oAuthAccounts userId c))
    fun _ => At t := by
  unfold OAuth.handleMicrosoftCallback
  split
  · rcases answer with message | _ | data
    · exact .throw fun _ h => h
    · exact .pure fun _ h => .inl ⟨rfl, h⟩
    · exact (triple_link userId data).conseq (fun _ h => h) (fun _ _ h => .inr ⟨data, rfl, h⟩)
        fun _ _ h => h
  · exact .throw fun _ h => h

theorem triple_decrypt (text : String) :
    Prog.Triple (At t) (OAuth.decrypt encryption text) (fun _ => At t) fun _ => At t := by
  unfold OAuth.decrypt
  split
  · exact .pure fun _ h => h
  · exact .throw fun _ h => h

theorem triple_refresh (microsoft : OAuth.Microsoft) (answer : TokenResponse) (userId : String) :
    Prog.Triple (At t) (OAuth.refreshMicrosoftToken encryption microsoft (fun _ => answer) userId)
    (fun o w => (o.success = false ∧ At t w) ∨ ∃ data, answer = .ok data ∧ o.success = true ∧
      ∃ x c, data.access_token = some x ∧ encryption.decrypt c = .ok x ∧
      ∃ r, r.provider = "microsoft" ∧ r.userId = userId ∧ Rewrites t w.db.oAuthAccounts r c)
    fun _ => At t := by
  refine .bind (triple_findAccount userId "microsoft") fun o => .of_fact fun ho => ?_
  rcases o with _ | r
  · exact .pure fun _ h => .inl ⟨rfl, h⟩
  · obtain ⟨hr, huser, hp⟩ := ho r rfl
    dsimp only
    split
    · refine .bind (triple_decrypt _) fun _ => ?_
      rcases answer with message | _ | data
      · exact .throw fun _ h => h
      · exact .pure fun _ h => .inl ⟨rfl, h⟩
      · refine (triple_storeRefreshed hr data).conseq (fun _ h => h)
          (fun o w h => ?_) fun _ _ h => h
        obtain ⟨hok, x, c, hx, hdecrypt, hrewrites⟩ := h
        exact .inr ⟨data, rfl, hok, x, c, hx, hdecrypt, r, hp, huser, hrewrites⟩
    · exact .pure fun _ h => .inl ⟨rfl, h⟩

end Triples

/-! ### Runs -/

/-- A call of the service, with the answer the token endpoint gives to it. -/
inductive Request where
  | handleMicrosoftCallback (userId code : String) (answer : TokenResponse)
  | refreshMicrosoftToken (userId : String) (answer : TokenResponse)

/-- The user the call is for. -/
def Request.user : Request → String
  | .handleMicrosoftCallback userId _ _ => userId
  | .refreshMicrosoftToken userId _ => userId

/-- The access token in the answer. -/
def Request.accessToken : Request → Option String
  | .handleMicrosoftCallback _ _ (.ok data) => data.access_token
  | .refreshMicrosoftToken _ (.ok data) => data.access_token
  | _ => none

section
variable (encryption : EncryptionService) (microsoft : OAuth.Microsoft)

/-- The program of a call. -/
def Request.prog : Request → Api Outcome
  | .handleMicrosoftCallback userId code answer =>
    OAuth.handleMicrosoftCallback encryption microsoft (fun _ => answer) userId code
  | .refreshMicrosoftToken userId answer =>
    OAuth.refreshMicrosoftToken encryption microsoft (fun _ => answer) userId

end

/-- The token `c` of the call goes to an account: one of the caller, one with the provider id of the
answer, or a new one of the caller where no account has this id. -/
def Grants (t t' : Table OAuthAccount.id) (r : Request) (c : String) : Prop :=
  (∃ a, a.provider = "microsoft" ∧ Rewrites t t' a c ∧ (a.userId = r.user ∨
    ∃ userId code data, a.providerUserId = providerUserId data ∧
      r = .handleMicrosoftCallback userId code (.ok data))) ∨
  ∃ userId code data, r = .handleMicrosoftCallback userId code (.ok data) ∧
    (∀ a ∈ t.rows, a.provider = "microsoft" → a.providerUserId ≠ providerUserId data) ∧
    Adds t t' r.user c

theorem triple_prog {encryption : EncryptionService} {microsoft : OAuth.Microsoft}
    {t : Table OAuthAccount.id} (r : Request) : Prog.Triple (At t) (r.prog encryption microsoft)
    (fun o w => (o.success = false ∧ At t w) ∨ o.success = true ∧ ∃ x c, r.accessToken = some x ∧
      encryption.decrypt c = .ok x ∧ Grants t w.db.oAuthAccounts r c)
    fun _ => At t := by
  cases r with
  | handleMicrosoftCallback userId code answer =>
    refine (triple_callback microsoft answer userId code).conseq (fun _ h => h) (fun o w h => ?_)
      fun _ _ h => h
    rcases h with hfail | ⟨data, rfl, hok, x, c, hx, hdecrypt, ⟨r, hp, hk, hr⟩ | ⟨hk, hadd⟩⟩
    · exact .inl hfail
    · exact .inr ⟨hok, x, c, hx, hdecrypt, .inl ⟨r, hp, hr, .inr ⟨userId, code, data, hk, rfl⟩⟩⟩
    · exact .inr ⟨hok, x, c, hx, hdecrypt, .inr ⟨userId, code, data, rfl, hk, hadd⟩⟩
  | refreshMicrosoftToken userId answer =>
    refine (triple_refresh microsoft answer userId).conseq (fun _ h => h) (fun o w h => ?_)
      fun _ _ h => h
    rcases h with hfail | ⟨data, rfl, hok, x, c, hx, hdecrypt, r, hp, huser, hr⟩
    · exact .inl hfail
    · exact .inr ⟨hok, x, c, hx, hdecrypt, .inl ⟨r, hp, hr, .inl huser⟩⟩

/-- A call with its time. -/
structure Step where
  time : Time
  request : Request

/-- The world, and the access token each user got in their last successful link or refresh. -/
structure State where
  world : World
  latest : String → Option String

/-- The call succeeded. -/
def succeeded : Except Err Outcome → Bool
  | .ok o => o.success
  | .error _ => false

/-- The state after a step. -/
def exec (encryption : EncryptionService) (microsoft : OAuth.Microsoft) (s : State) (e : Step) :
    State :=
  let r := (e.request.prog encryption microsoft).run (s.world.atTime e.time)
  ⟨r.2, if succeeded r.1 then Function.update s.latest e.request.user e.request.accessToken
    else s.latest⟩

/-- Nobody has linked an account. -/
def start (w : World) : State := ⟨w, fun _ => none⟩

/-- The state after the steps. -/
def run (encryption : EncryptionService) (microsoft : OAuth.Microsoft) (w : World)
    (steps : List Step) : State := steps.foldl (exec encryption microsoft) (start w)

/-- **The condition on a link:** the Microsoft accounts with the provider id of the answer are the
accounts of the caller. -/
def OwnId (s : State) (e : Step) : Prop := ∀ userId code data,
  e.request = .handleMicrosoftCallback userId code (.ok data) →
  ∀ a ∈ s.world.db.oAuthAccounts.rows, a.provider = "microsoft" →
    (a.userId = userId ↔ a.providerUserId = providerUserId data)

/-- Every user with a token has one account, which holds it. -/
structure Sound (encryption : EncryptionService) (s : State) : Prop where
  one : ∀ a ∈ s.world.db.oAuthAccounts.rows, ∀ a' ∈ s.world.db.oAuthAccounts.rows,
    a.provider = "microsoft" → a'.provider = "microsoft" → a.userId = a'.userId → a = a'
  token : ∀ a ∈ s.world.db.oAuthAccounts.rows, a.provider = "microsoft" →
    ∃ x, s.latest a.userId = some x ∧ encryption.decrypt a.accessToken = .ok x
  linked : ∀ u, s.latest u ≠ none →
    ∃ a ∈ s.world.db.oAuthAccounts.rows, a.provider = "microsoft" ∧ a.userId = u

section Sound
variable {encryption : EncryptionService} {microsoft : OAuth.Microsoft} {s s' : State} {e : Step}

/-- What `getDecryptedAccessToken` returns. -/
theorem Sound.returns (h : Sound encryption s) (u : String) :
    ((getDecryptedAccessToken encryption u "microsoft").run s.world).1 = .ok (s.latest u) := by
  rw [getDecryptedAccessToken, Prog.run_bind, findAccount, run_findFirst]
  rcases hhead : (matching .oAuthAccount s.world.db (s.world.tape s.world.calls)
      fun a => a.userId = u && a.provider = "microsoft").head? with _ | a
  · have hnone : s.latest u = none := by
      by_contra hsome
      obtain ⟨a, ha, hp, hu⟩ := h.linked u hsome
      have hmem : a ∈ matching .oAuthAccount s.world.db (s.world.tape s.world.calls)
          fun a => a.userId = u && a.provider = "microsoft" :=
            mem_matching.mpr ⟨ha, by simp [hp, hu]⟩
      rw [List.head?_eq_none_iff.mp hhead] at hmem
      cases hmem
    rw [hnone]
    rfl
  · have hmem := mem_matching.mp (List.mem_of_head? hhead)
    simp only [Bool.and_eq_true, decide_eq_true_eq] at hmem
    obtain ⟨ha, rfl, hp⟩ := hmem
    obtain ⟨x, hx, hdecrypt⟩ := h.token a ha hp
    simp [OAuth.decrypt, hdecrypt, hx]

theorem Sound.of_same (h : Sound encryption s)
    (hw : s'.world.db.oAuthAccounts = s.world.db.oAuthAccounts) (hl : s'.latest = s.latest) :
    Sound encryption s' := by
  refine ⟨?_, ?_, ?_⟩ <;> simp only [hw, hl]
  · exact h.one
  · exact h.token
  · exact h.linked

/-- The account of a user gets the token the user has just obtained. -/
theorem Sound.rewrite {r : OAuthAccount} {c x : String} (h : Sound encryption s)
    (hr : Rewrites s.world.db.oAuthAccounts s'.world.db.oAuthAccounts r c)
    (hp : r.provider = "microsoft") (hx : encryption.decrypt c = .ok x)
    (hl : s'.latest = Function.update s.latest r.userId (some x)) : Sound encryption s' := by
  obtain ⟨hmem, r', huser, hprovider, haccess, hrows⟩ := hr
  have hother : ∀ a ∈ s.world.db.oAuthAccounts.rows, a ≠ r → a.provider = "microsoft" →
      a.userId ≠ r.userId := fun a ha hne hpa hua => hne (h.one a ha r hmem hpa hp hua)
  refine ⟨fun a ha a' ha' hpa hpa' hu => ?_, fun a ha hpa => ?_, fun u hu => ?_⟩
  · rcases (hrows a).mp ha with rfl | ⟨hin, hne⟩ <;> rcases
      (hrows a').mp ha' with rfl | ⟨hin', hne'⟩
    · rfl
    · exact absurd (huser ▸ hu.symm) (hother a' hin' hne' hpa')
    · exact absurd (huser ▸ hu) (hother a hin hne hpa)
    · exact h.one a hin a' hin' hpa hpa' hu
  · rcases (hrows a).mp ha with rfl | ⟨hin, hne⟩
    · exact ⟨x, by rw [hl, huser, Function.update_self], by rw [haccess]; exact hx⟩
    · obtain ⟨y, hy, hdecrypt⟩ := h.token a hin hpa
      exact ⟨y, by rw [hl, Function.update_of_ne (hother a hin hne hpa)]; exact hy, hdecrypt⟩
  · by_cases hur : u = r.userId
    · exact ⟨r', (hrows r').mpr (.inl rfl), hprovider.trans hp, huser.trans hur.symm⟩
    · rw [hl, Function.update_of_ne hur] at hu
      obtain ⟨a, ha, hpa, hua⟩ := h.linked u hu
      refine ⟨a, (hrows a).mpr (.inr ⟨ha, ?_⟩), hpa, hua⟩
      rintro rfl
      exact hur hua.symm

/-- A user without an account gets one. -/
theorem Sound.add {u c x : String} (h : Sound encryption s)
    (hadd : Adds s.world.db.oAuthAccounts s'.world.db.oAuthAccounts u c)
    (hnone : ∀ a ∈ s.world.db.oAuthAccounts.rows, a.provider = "microsoft" → a.userId ≠ u)
    (hx : encryption.decrypt c = .ok x) (hl : s'.latest = Function.update s.latest u (some x)) :
    Sound encryption s' := by
  obtain ⟨r', rfl, hprovider, haccess, hrows⟩ := hadd
  have hmem : ∀ a, a ∈ s'.world.db.oAuthAccounts.rows ↔ a ∈ s.world.db.oAuthAccounts.rows ∨
      a = r' := by
    intro a
    rw [hrows, List.mem_append, List.mem_singleton]
  refine ⟨fun a ha a' ha' hpa hpa' hu => ?_, fun a ha hpa => ?_, fun u hu => ?_⟩
  · rcases (hmem a).mp ha with hin | rfl <;> rcases (hmem a').mp ha' with hin' | rfl
    · exact h.one a hin a' hin' hpa hpa' hu
    · exact absurd hu (hnone a hin hpa)
    · exact absurd hu.symm (hnone a' hin' hpa')
    · rfl
  · rcases (hmem a).mp ha with hin | rfl
    · obtain ⟨y, hy, hdecrypt⟩ := h.token a hin hpa
      exact ⟨y, by rw [hl, Function.update_of_ne (hnone a hin hpa)]; exact hy, hdecrypt⟩
    · exact ⟨x, by rw [hl, Function.update_self], by rw [haccess]; exact hx⟩
  · by_cases hur : u = r'.userId
    · exact ⟨r', (hmem r').mpr (.inr rfl), hprovider, hur.symm⟩
    · rw [hl, Function.update_of_ne hur] at hu
      obtain ⟨a, ha, hpa, hua⟩ := h.linked u hu
      exact ⟨a, (hmem a).mpr (.inl ha), hpa, hua⟩

theorem exec_failed {t : Time} {r : Request} {o : Except Err Outcome} {w' : World}
    (hrun : (r.prog encryption microsoft).run (s.world.atTime t) = (o, w'))
    (ho : succeeded o = false) : exec encryption microsoft s ⟨t, r⟩ = ⟨w', s.latest⟩ := by
  simp only [exec, hrun, ho]
  rfl

theorem exec_succeeded {t : Time} {r : Request} {o : Except Err Outcome} {w' : World}
    (hrun : (r.prog encryption microsoft).run (s.world.atTime t) = (o, w'))
    (ho : succeeded o = true) : exec encryption microsoft s ⟨t, r⟩ =
      ⟨w', Function.update s.latest r.user r.accessToken⟩ := by
  simp only [exec, hrun, ho]
  rfl

/-- What a step does: nothing, or its token goes to one account. -/
theorem exec_cases (s : State) (e : Step) :
    ((exec encryption microsoft s e).world.db.oAuthAccounts = s.world.db.oAuthAccounts ∧
      (exec encryption microsoft s e).latest = s.latest) ∨
    ∃ x c, (exec encryption microsoft s e).latest =
        Function.update s.latest e.request.user (some x) ∧ encryption.decrypt c = .ok x ∧
      Grants s.world.db.oAuthAccounts (exec encryption microsoft s e).world.db.oAuthAccounts
        e.request c := by
  obtain ⟨t, r⟩ := e
  have htriple := @triple_prog encryption microsoft s.world.db.oAuthAccounts r
    (s.world.atTime t) rfl
  rcases hrun : (r.prog encryption microsoft).run (s.world.atTime t) with ⟨err | o, w'⟩ <;>
    rw [hrun] at htriple
  · refine .inl ?_
    rw [exec_failed hrun rfl]
    exact ⟨htriple, rfl⟩
  · rcases htriple with ⟨hfail, hat⟩ | ⟨hok, x, c, htoken, hdecrypt, hgrants⟩
    · refine .inl ?_
      rw [exec_failed hrun hfail]
      exact ⟨hat, rfl⟩
    · refine .inr ⟨x, c, ?_⟩
      rw [exec_succeeded hrun hok]
      exact ⟨congrArg (Function.update s.latest r.user) htoken, hdecrypt, hgrants⟩

theorem sound_exec (h : Sound encryption s) (hown : OwnId s e) :
    Sound encryption (exec encryption microsoft s e) := by
  rcases exec_cases s e with ⟨hw, hl⟩ | ⟨x, c, hl, hx, hgrants⟩
  · exact h.of_same hw hl
  · rcases hgrants with ⟨r, hp, hr, hwhose⟩ | ⟨u, code, data, he, hk, hadd⟩
    · have huser : r.userId = e.request.user := by
        rcases hwhose with hu | ⟨u, code, data, hk, he⟩
        · exact hu
        · rw [he]
          exact (hown u code data he r hr.1 hp).mpr hk
      exact h.rewrite hr hp hx (by rw [hl, huser])
    · refine h.add hadd (fun a ha hpa hu => ?_) hx hl
      rw [he] at hu
      exact hk a ha hpa ((hown u code data he a ha hpa).mp hu)

end Sound

/-- What `getDecryptedAccessToken` returns to the user. -/
def returned (encryption : EncryptionService) (s : State)
    (u : String) : Except Err (Option String) :=
  ((getDecryptedAccessToken encryption u "microsoft").run s.world).1

/-- **Everyone gets their own token.** In a run from a state without Microsoft accounts in which
every link meets the condition, `getDecryptedAccessToken` always returns the token of the user's own
last successful link or refresh, and a call for a user changes nothing for the others. -/
theorem own_token_returned {encryption : EncryptionService} {microsoft : OAuth.Microsoft}
    {w : World}
    {steps : List Step} (hstart : ∀ a ∈ w.db.oAuthAccounts.rows, a.provider ≠ "microsoft")
    (hown : Steps (exec encryption microsoft) OwnId (start w) steps) :
    (∀ steps₁, steps₁ <+: steps → ∀ u, returned encryption (run encryption microsoft w steps₁) u =
      .ok ((run encryption microsoft w steps₁).latest u)) ∧
    ∀ steps₁ e, steps₁ ++ [e] <+: steps → ∀ u, u ≠ e.request.user →
      returned encryption (run encryption microsoft w (steps₁ ++ [e])) u =
        returned encryption (run encryption microsoft w steps₁) u := by
  have hsound : ∀ steps₁, steps₁ <+: steps →
      Sound encryption (run encryption microsoft w steps₁) := by
    rintro steps₁ ⟨steps₂, rfl⟩
    refine foldl_of_steps (fun s e h he => sound_exec h he) ?_ hown.of_append
    exact ⟨fun a ha _ _ hp => absurd hp (hstart a ha), fun a ha hp => absurd hp (hstart a ha),
      fun u hu => absurd rfl hu⟩
  have hall : ∀ steps₁, steps₁ <+: steps → ∀ u, returned encryption
      (run encryption microsoft w steps₁) u = .ok ((run encryption microsoft w steps₁).latest u) :=
    fun steps₁ h u => (hsound steps₁ h).returns u
  refine ⟨hall, fun steps₁ e h u hu => ?_⟩
  rw [hall _ h, hall steps₁ ((List.prefix_append steps₁ [e]).trans h)]
  have hrun : run encryption microsoft w (steps₁ ++ [e]) =
      exec encryption microsoft (run encryption microsoft w steps₁) e := by
    rw [run, List.foldl_append]
    rfl
  rw [hrun]
  rcases exec_cases (run encryption microsoft w steps₁) e with ⟨-, hl⟩ | ⟨x, c, hl, -⟩ <;> rw [hl]
  rw [Function.update_of_ne hu]

/-! ### Two users, with ids of their own and without -/

/-- An encryption that can be read off. -/
def sealing : EncryptionService where
  cipher _ text := "sealed:" ++ text
  decrypt s :=
    if startsWith s "sealed:" then .ok (String.ofList (s.toList.drop 7))
    else .error (.error "Malformed encrypted payload")
  decrypt_cipher := by
    intro iv text
    have hstart : startsWith ("sealed:" ++ text) "sealed:" = true := by
      simp [startsWith]
    rw [if_pos hstart]
    simp

/-- Microsoft OAuth is configured. -/
def configured : OAuth.Microsoft := ⟨some "client", some "secret", some "https://app/callback"⟩

/-- The households. -/
def homes : World := .fresh Household.families 0

/-- An answer of the token endpoint. -/
def answer (accessToken : String) (sub : Option String) : TokenResponse :=
  .ok ⟨some accessToken, some "refresh", some 3600, sub, none⟩

/-- A link. -/
def callback (userId accessToken : String) (sub : Option String) : Step :=
  ⟨0, .handleMicrosoftCallback userId "code" (answer accessToken sub)⟩

/-- Both parents link their accounts, and one refreshes hers. -/
def ownIds : List Step :=
  [callback "amal" "amal-1" (some "id-of-amal"), callback "basma" "basma-1" (some "id-of-basma"),
   ⟨1, .refreshMicrosoftToken "amal" (answer "amal-2" none)⟩]

/-- The condition, as a check. -/
def checkOwnId (s : State) (e : Step) : Bool :=
  match e.request with
  | .handleMicrosoftCallback userId _ (.ok data) => s.world.db.oAuthAccounts.rows.all fun a =>
      a.provider ≠ "microsoft" || decide (a.userId = userId ↔
        a.providerUserId = providerUserId data)
  | _ => true

theorem ownId_of_check {s : State} {e : Step} (h : checkOwnId s e = true) : OwnId s e := by
  intro userId code data he a ha hp
  simp only [checkOwnId, he, List.all_eq_true] at h
  have hrow := h a ha
  simpa [hp] using hrow

theorem own_token_returned_ownIds :
    returned sealing (run sealing configured homes ownIds) "amal" = .ok (some "amal-2") ∧
      returned sealing (run sealing configured homes ownIds) "basma" = .ok (some "basma-1") := by
  have hown : Steps (exec sealing configured) OwnId (start homes) ownIds := by
    refine steps_cons.mpr ⟨ownId_of_check (by decide +kernel), ?_⟩
    refine steps_cons.mpr ⟨ownId_of_check (by decide +kernel), ?_⟩
    exact steps_cons.mpr ⟨ownId_of_check (by decide +kernel), steps_nil _⟩
  have hall := (own_token_returned (w := homes) (by decide +kernel) hown).1 ownIds List.prefix_rfl
  rw [hall, hall]
  exact ⟨by decide +kernel, by decide +kernel⟩

/-- The answers carry no provider id, so both accounts are stored as `unknown`. -/
def unnamed : List Step := [callback "amal" "amal-1" none, callback "basma" "basma-1" none]

theorem token_of_another_returned : ¬ ∀ (encryption : EncryptionService)
    (microsoft : OAuth.Microsoft) (w : World) (steps : List Step),
    (∀ a ∈ w.db.oAuthAccounts.rows, a.provider ≠ "microsoft") →
    ∀ u, returned encryption (run encryption microsoft w steps) u =
      .ok ((run encryption microsoft w steps).latest u) := by
  intro h
  have hamal := h sealing configured homes unnamed (by decide +kernel) "amal"
  have hgot : returned sealing (run sealing configured homes unnamed) "amal" =
      .ok (some "basma-1") := by
    decide +kernel
  have hlatest : (run sealing configured homes unnamed).latest "amal" = some "amal-1" := by
    decide +kernel
  rw [hgot, hlatest] at hamal
  exact absurd hamal (by decide)

end GuardTime.Auth.Microsoft
