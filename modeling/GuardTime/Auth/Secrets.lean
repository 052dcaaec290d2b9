import Mathlib.Tactic
import Mathlib.Logic.Equiv.List
import GuardTime.Services.Config
import GuardTime.Household

/-! # Refresh tokens as access tokens

Access and refresh tokens carry the same claims and differ only in the secret they are signed with
and in their lifetime; the guard looks at the signature alone. `validateEnv` checks each secret but
does not compare them: a refresh token that has not expired is rejected as an access token exactly
when the two secrets differ (`refresh_rejected_iff`). -/

namespace GuardTime.Auth.Secrets

open GuardTime.Lib.Program GuardTime.Lib.Js GuardTime.Schema GuardTime.Server GuardTime.Prisma
open GuardTime.Services GuardTime.Services.Config

/-! ### Accepted configurations -/

section Valid
variable {env : Env} {config : Values}

theorem validateEnv_ok {config' : Values} (h : validateEnv env config = .ok config') :
    errors env config = [] ∧ config' = config := by
  unfold validateEnv at h
  split_ifs at h with herrors
  cases h
  exact ⟨by simpa using herrors, rfl⟩

/-- A secret without errors is a string of at least 32 characters. -/
theorem exists_of_secretErrors {key noun : String} (h : secretErrors env config key noun = []) :
    ∃ s, config key = some (.str s) ∧ 32 ≤ length s := by
  unfold secretErrors requireString at h
  rcases hv : config key with _ | ⟨s | ⟨text, number⟩⟩
  · simp [hv] at h
  · refine ⟨s, rfl, ?_⟩
    by_contra hlt
    have hshort : length s < minSecretLength := not_le.mp hlt
    by_cases hempty : length (trim s) = 0
    · simp [hv, hempty] at h
    · simp [hv, hempty, hshort] at h
  · simp [hv] at h

theorem requiredSecret_eq {key s : String} (hv : config key = some (.str s)) (hs : 32 ≤ length s) :
    requiredSecret config key = .ok s := by
  have hlong : ¬ (length s = 0 ∨ length s < 32) := by omega
  simp [requiredSecret, getString, hv, Value.text, hlong]

/-- The application with the secrets `s` and `r`. -/
def appWith (env : Env) (config : Values) (s r : String) : App where
  env :=
    { env with
      jwtSecret := s
      jwtRefreshSecret := r
      jwtExpiresIn := (getString config "JWT_EXPIRATION").getD "15m"
      jwtRefreshExpiresIn := (getString config "JWT_REFRESH_EXPIRATION").getD "7d" }
  jwtModuleSecret := s

/-- **Every accepted configuration starts**, with the two secrets as they are configured. -/
theorem start_of_valid (h : ∃ config', validateEnv env config = .ok config') :
    ∃ s r, config "JWT_SECRET" = some (.str s) ∧ config "JWT_REFRESH_SECRET" = some (.str r) ∧
      start env config = .ok (appWith env config s r) := by
  obtain ⟨config', hvalid⟩ := h
  obtain ⟨herrors, rfl⟩ := validateEnv_ok hvalid
  simp only [errors, List.append_eq_nil_iff] at herrors
  obtain ⟨⟨⟨⟨⟨-, hsecret⟩, hrefresh⟩, -⟩, -⟩, -⟩ := herrors
  obtain ⟨s, hs, hslen⟩ := exists_of_secretErrors hsecret
  obtain ⟨r, hr, hrlen⟩ := exists_of_secretErrors hrefresh
  have hmodule : jwtModuleSecret config' = .ok s := by
    simp [jwtModuleSecret, getString, hs, Value.text]
  have hauth : authService env config' = .ok (appWith env config' s r).env := by
    rw [authService, requiredSecret_eq hs hslen, requiredSecret_eq hr hrlen]
    rfl
  refine ⟨s, r, hs, hr, ?_⟩
  calc start env config'
      = (jwtModuleSecret config').bind fun secret => (authService env config').map fun e =>
        ⟨e, secret⟩ := by
        rw [start, hvalid]
        rfl
    _ = .ok (appWith env config' s r) := by
        rw [hmodule, hauth]
        rfl

end Valid

/-! ### Presenting a token -/

/-- What the code relies on of the JWT library: a token verifies exactly under the secret it was
signed with and before it expires, and is a non-empty text without spaces. -/
structure JwtSound (env : Env) (expired : String → Time → Time → Prop) : Prop where
  verifies : ∀ p secret expiresIn issued secret' now,
    (env.jwtVerify (env.jwtSign p secret expiresIn issued) secret' now).isSome = true ↔
      secret' = secret ∧ ¬ expired expiresIn issued now
  nonempty : ∀ p secret expiresIn issued, env.jwtSign p secret expiresIn issued ≠ ""
  compact : ∀ p secret expiresIn issued, ' ' ∉ (env.jwtSign p secret expiresIn issued).toList

/-- The guard rejects the token as a Bearer token. -/
def Rejected (app : App) (token : String) (w : World) : Prop :=
  ∃ message, ((JwtAuthGuard.canActivate app (some ("Bearer " ++ token))).run w).1 =
    .error (.unauthorized message)

theorem extract_bearer {token : String} (h : ' ' ∉ token.toList) :
    JwtAuthGuard.extractTokenFromHeader (some ("Bearer " ++ token)) = some token := by
  have hsplit : split ("Bearer " ++ token) ' ' = ["Bearer", token] := by
    have hlist : ("Bearer " ++ token).toList = "Bearer".toList ++ ' ' :: token.toList := by simp
    have hbearer : ("Bearer".toList).splitOn ' ' = ["Bearer".toList] := by decide
    rw [split, hlist, List.splitOn_append_cons_self, hbearer, List.splitOn_eq_singleton h]
    simp
  simp [JwtAuthGuard.extractTokenFromHeader, hsplit]

/-- The guard rejects a token without spaces exactly when it does not verify. -/
theorem rejected_iff {app : App} {token : String} (hne : token ≠ "") (hspace : ' ' ∉ token.toList)
    (w : World) : Rejected app token w ↔
      (app.env.jwtVerify token app.jwtModuleSecret w.now).isSome = false := by
  have hrun : (JwtAuthGuard.canActivate app (some ("Bearer " ++ token))).run w =
      (Prog.orThrow (app.env.jwtVerify token app.jwtModuleSecret w.now)
        (.unauthorized "Invalid or expired token")).run w := by
    simp [JwtAuthGuard.canActivate, extract_bearer hspace, hne, Option.filter]
  unfold Rejected
  rw [hrun]
  rcases app.env.jwtVerify token app.jwtModuleSecret w.now with _ | p <;> simp

/-- The refresh token that is issued. -/
theorem refreshToken_of_run {env : Env} {sub email : String} {role : Role} {w w' : World}
    {tokens : Auth.Tokens} (h : (Auth.generateTokens env sub email role).run w = (.ok tokens, w')) :
    ∃ jti, tokens.refreshToken =
      env.jwtSign ⟨sub, email, role, jti⟩ env.jwtRefreshSecret env.jwtRefreshExpiresIn w.now := by
  simp only [Auth.generateTokens, Prog.run_bind, run_newDate, run_randomUUID, Prog.run_pure] at h
  cases h
  exact ⟨_, rfl⟩

/-- The guard against the refresh tokens of the application with the secrets `s` and `r`. -/
theorem rejected_appWith {env : Env} {expired : String → Time → Time → Prop}
    (hjwt : JwtSound env expired) (config : Values) (s r : String) {sub email : String}
    {role : Role}
    {w w₁ : World} {tokens : Auth.Tokens}
    (hissue : (Auth.generateTokens (appWith env config s r).env sub email role).run w =
      (.ok tokens, w₁)) (w₂ : World) :
    Rejected (appWith env config s r) tokens.refreshToken w₂ ↔
      s ≠ r ∨ expired (appWith env config s r).env.jwtRefreshExpiresIn w.now w₂.now := by
  obtain ⟨jti, htoken⟩ := refreshToken_of_run hissue
  have hverify := hjwt.verifies ⟨sub, email, role, jti⟩ r
    (appWith env config s r).env.jwtRefreshExpiresIn w.now s w₂.now
  rw [htoken]
  refine (rejected_iff (hjwt.nonempty _ _ _ _) (hjwt.compact _ _ _ _) w₂).trans ?_
  change (env.jwtVerify (env.jwtSign ⟨sub, email, role, jti⟩ r _ w.now) s w₂.now).isSome = false ↔ _
  rw [← Bool.not_eq_true, hverify, not_and_or, not_not]

/-- **Refresh tokens and access tokens.** Under every accepted configuration the application starts,
and a refresh token it has issued to anyone at any time is rejected as a Bearer access token exactly
when the two secrets differ or the token has expired. -/
theorem refresh_rejected_iff {env : Env} {expired : String → Time → Time → Prop}
    (hjwt : JwtSound env expired) {config : Values}
    (hvalid : ∃ config', validateEnv env config = .ok config') :
    ∃ app, start env config = .ok app ∧
      ∀ sub email role w w₁ tokens w₂,
        (Auth.generateTokens app.env sub email role).run w = (.ok tokens, w₁) →
        (Rejected app tokens.refreshToken w₂ ↔
          config "JWT_SECRET" ≠ config "JWT_REFRESH_SECRET" ∨
            expired app.env.jwtRefreshExpiresIn w.now w₂.now) := by
  obtain ⟨s, r, hs, hr, hstart⟩ := start_of_valid hvalid
  refine ⟨_, hstart, fun sub email role w w₁ tokens w₂ hissue => ?_⟩
  rw [rejected_appWith hjwt config s r hissue w₂, hs, hr]
  simp

/-! ### Equal and different secrets -/

/-- A token of the library below: the number that codes its claims, secret, lifetime and time. -/
def token (p : JwtPayload) (secret expiresIn : String) (issued : Time) : String :=
  toString (Encodable.encode
    ([p.sub, p.email, p.jti, secret, expiresIn].map fun s => s.toList.map Char.toNat, issued))

/-- Lifetimes in milliseconds: fifteen minutes, or else a week. -/
def lifetime (expiresIn : String) : ℤ := if expiresIn = "15m" then 900000 else 604800000

/-- The lifetime has passed. -/
def hasExpired (expiresIn : String) (issued now : Time) : Prop := issued + lifetime expiresIn ≤ now

open Classical in
/-- A library that finds the claims of a token by its secret. -/
noncomputable def library : Env where
  __ := Env.plain
  jwtSign := token
  jwtVerify v secret now :=
    if h : ∃ p expiresIn issued, v = token p secret expiresIn issued ∧
        ¬ hasExpired expiresIn issued now then some h.choose else none

theorem codes_injective {s s' : String} (h : s.toList.map Char.toNat = s'.toList.map Char.toNat) :
    s = s' := by
  have hchars : Function.Injective Char.toNat := fun c c' hc => Char.ext (UInt32.toNat_inj.mp hc)
  exact String.toList_inj.mp (List.map_injective_iff.mpr hchars h)

theorem token_injective {p p' : JwtPayload} {secret secret' expiresIn expiresIn' : String}
    {issued issued' : Time}
    (h : token p secret expiresIn issued = token p' secret' expiresIn' issued') :
    secret = secret' ∧ expiresIn = expiresIn' ∧ issued = issued' := by
  have hcode := Encodable.encode_injective (toString_nat_injective h)
  simp only [List.map_cons, List.map_nil, Prod.mk.injEq, List.cons.injEq] at hcode
  obtain ⟨⟨-, -, -, hsecret, hexpires, -⟩, hissued⟩ := hcode
  exact ⟨codes_injective hsecret, codes_injective hexpires, hissued⟩

open Classical in
theorem verify_library (v secret : String) (now : Time) :
    (library.jwtVerify v secret now).isSome = true ↔
      ∃ p expiresIn issued, v = token p secret expiresIn issued ∧
        ¬ hasExpired expiresIn issued now := by
  change (dite (∃ p expiresIn issued, v = token p secret expiresIn issued ∧
    ¬ hasExpired expiresIn issued now) _ _ : Option JwtPayload).isSome = true ↔ _
  split_ifs with h
  · exact iff_of_true rfl h
  · exact iff_of_false (by simp) h

theorem toList_toString_ne_nil (n : ℕ) : (toString n).toList ≠ [] := by
  rw [Nat.toString_eq_ofList_toDigits, String.toList_ofList]
  exact Nat.toDigits_ne_nil

theorem jwtSound_library : JwtSound library hasExpired where
  verifies := by
    intro p secret expiresIn issued secret' now
    rw [verify_library]
    constructor
    · rintro ⟨p', expiresIn', issued', htoken, hlive⟩
      obtain ⟨rfl, rfl, rfl⟩ := token_injective htoken
      exact ⟨rfl, hlive⟩
    · rintro ⟨rfl, hlive⟩
      exact ⟨p, expiresIn, issued, rfl, hlive⟩
  nonempty := by
    intro p secret expiresIn issued h
    exact toList_toString_ne_nil _ (congrArg String.toList h)
  compact := fun p secret expiresIn issued => notMem_toString (by decide) _

/-- A configuration with the given secrets. -/
def configWith (secret refreshSecret : String) : Values
  | "DATABASE_URL" => some (.str "postgresql://db")
  | "JWT_SECRET" => some (.str secret)
  | "JWT_REFRESH_SECRET" => some (.str refreshSecret)
  | "ENCRYPTION_KEY" => some (.str "kept-in-the-vault-kept-in-the-vault")
  | _ => none

/-- One secret for both kinds of tokens. -/
def shared : Values :=
  configWith "one-secret-of-thirty-six-characters-" "one-secret-of-thirty-six-characters-"

/-- A secret for each kind. -/
def separate : Values :=
  configWith "one-secret-of-thirty-six-characters-" "two-secret-of-thirty-six-characters-"

theorem validateEnv_shared : ∃ config', validateEnv library shared = .ok config' := by
  have herrors : errors library shared = [] := by decide +kernel
  exact ⟨shared, by simp [validateEnv, herrors]⟩

theorem validateEnv_separate : ∃ config', validateEnv library separate = .ok config' := by
  have herrors : errors library separate = [] := by decide +kernel
  exact ⟨separate, by simp [validateEnv, herrors]⟩

/-- The world in which `amal` gets her tokens. -/
def login : World := .fresh Household.families 0

theorem not_hasExpired {env : Env} {config : Values} {s r : String}
    (h : config "JWT_REFRESH_EXPIRATION" = none) :
    ¬ hasExpired (appWith env config s r).env.jwtRefreshExpiresIn 0 60000 := by
  have hweek : (appWith env config s r).env.jwtRefreshExpiresIn = "7d" := by
    simp [appWith, getString, h]
  rw [hweek, hasExpired, lifetime, if_neg (by decide)]
  decide

/-- With separate secrets her refresh token is no access token, also before it expires. -/
theorem refresh_rejected_separate : ∃ app, start library separate = .ok app ∧
    ∃ tokens w₁, (Auth.generateTokens app.env "amal" "amal@example.com" .parent).run login =
      (.ok tokens, w₁) ∧ Rejected app tokens.refreshToken (login.atTime 60000) := by
  obtain ⟨app, hstart, hiff⟩ := refresh_rejected_iff jwtSound_library validateEnv_separate
  have hdiffer : separate "JWT_SECRET" ≠ separate "JWT_REFRESH_SECRET" := by decide +kernel
  refine ⟨app, hstart, _, _, rfl, ?_⟩
  exact (hiff "amal" "amal@example.com" .parent login _ _ (login.atTime 60000) rfl).mpr
    (.inl hdiffer)

/-- With one secret for both, a refresh token passes the guard. -/
theorem refresh_accepted_shared : ¬ ∀ (env : Env) (expired : String → Time → Time → Prop),
    JwtSound env expired → ∀ config app, start env config = .ok app →
    ∀ sub email role w w₁ tokens w₂,
      (Auth.generateTokens app.env sub email role).run w = (.ok tokens, w₁) →
      Rejected app tokens.refreshToken w₂ := by
  intro h
  obtain ⟨s, r, hs, hr, hstart⟩ := start_of_valid validateEnv_shared
  cases hs
  cases hr
  have hrejected := h library hasExpired jwtSound_library shared _ hstart "amal" "amal@example.com"
    .parent login _ _ (login.atTime 60000) rfl
  rw [rejected_appWith jwtSound_library shared _ _ rfl] at hrejected
  rcases hrejected with hne | hexpired
  · exact hne rfl
  · exact not_hasExpired rfl hexpired

end GuardTime.Auth.Secrets
