import Mathlib.Tactic
import GuardTime.Services.Sessions

/-! # Linked Microsoft accounts

`OAuthService`. The token endpoint of the provider is outside the repository: its answer is an
argument. Encryption is given with the law that decryption undoes it. -/

namespace GuardTime.Services.OAuth

open GuardTime.Lib.Program GuardTime.Lib.Js GuardTime.Schema GuardTime.Server GuardTime.Prisma

/-- `EncryptionService`: encryption under a random initialization vector, and decryption. -/
structure EncryptionService where
  cipher : String → String → String
  decrypt : String → Except Err String
  decrypt_cipher : ∀ iv text, decrypt (cipher iv text) = .ok text

/-- `encrypt`; a value that is no string is refused by the cipher. -/
def encrypt (encryption : EncryptionService) (text : Option String) : Api String := do
  let text ← Prog.orThrow text (.error "ERR_INVALID_ARG_TYPE")
  let iv ← randomUUID
  pure (encryption.cipher iv text)

/-- The configuration of the provider. -/
structure Microsoft where
  clientId : Option String
  clientSecret : Option String
  redirectUri : Option String

/-- The form that is posted to the token endpoint. -/
inductive TokenRequest where
  | authorizationCode (clientId clientSecret code redirectUri : String)
  | refreshToken (clientId clientSecret refreshToken : String)

/-- The fields of a token answer; a field is absent when it is missing or of another type. -/
structure TokenData where
  access_token : Option String
  refresh_token : Option String
  expires_in : Option ℤ
  sub : Option String
  scope : Option String

/-- What `fetch` gives: an exception, a refusal, or tokens. -/
inductive TokenResponse where
  | failed (message : String)
  | refused
  | ok (data : TokenData)

/-- The answer of the service. -/
structure Outcome where
  success : Bool
  message : String
deriving DecidableEq

/-- `(data.sub as string) || 'unknown'`. -/
def providerUserId (data : TokenData) : String := (truthy data.sub).getD "unknown"

/-- `new Date(Date.now() + expires_in * 1000)`, which the client refuses when it is no date. -/
def expiresAt (data : TokenData) : Api Time := do
  let now ← newDate
  let seconds ← Prog.orThrow data.expires_in (.error "PrismaClientValidationError")
  pure (now + seconds * 1000)

/-- The row of a new account. -/
def newAccount (userId : String) (data : TokenData) (access refresh : String) (expires : Time)
    (id : String) (now : Time) : OAuthAccount :=
  { id, userId, provider := "microsoft", providerUserId := providerUserId data,
    accessToken := access, refreshToken := refresh, tokenExpiresAt := expires,
    scope := some ((truthy data.scope).getD ""), createdAt := now, updatedAt := now }

/-- The changes to an account that is linked again; its owner stays. -/
def relink (data : TokenData) (access refresh : String) (expires : Time) (a : OAuthAccount) :
    OAuthAccount :=
  { a with
    accessToken := access
    refreshToken := refresh
    tokenExpiresAt := expires
    scope := some ((truthy data.scope).getD "") }

/-- The changes to an account whose tokens are refreshed. -/
def refreshed (access refresh : String) (expires : Time) (a : OAuthAccount) : OAuthAccount :=
  { a with accessToken := access, refreshToken := refresh, tokenExpiresAt := expires }

section
variable (encryption : EncryptionService) (microsoft : Microsoft)

/-- The account found by its provider id gets the tokens, or a new one is made. -/
def link (userId : String) (data : TokenData) : Api Outcome := do
  let encryptedAccess ← encrypt encryption data.access_token
  let encryptedRefresh ← encrypt encryption data.refresh_token
  let expires ← expiresAt data
  let _ ← Prisma.upsert .oAuthAccount
    (fun a => a.provider = "microsoft" && a.providerUserId = providerUserId data)
    (relink data encryptedAccess encryptedRefresh expires)
    (newAccount userId data encryptedAccess encryptedRefresh expires)
  pure ⟨true, "Microsoft account linked"⟩

/-- `handleMicrosoftCallback`. -/
def handleMicrosoftCallback (fetch : TokenRequest → TokenResponse) (userId code : String) :
    Api Outcome :=
  match truthy microsoft.clientId, truthy microsoft.clientSecret, truthy microsoft.redirectUri with
  | some clientId, some clientSecret, some redirectUri =>
    match fetch (.authorizationCode clientId clientSecret code redirectUri) with
    | .failed message => Prog.throw (.error message)
    | .refused => pure ⟨false, "Token exchange failed"⟩
    | .ok data => link encryption userId data
  | _, _, _ => Prog.throw (.error "Microsoft OAuth not configured")

/-- Any account of the user with the provider. -/
def findAccount (userId provider : String) : Api (Option OAuthAccount) :=
  Prisma.findFirst .oAuthAccount fun a => a.userId = userId && a.provider = provider

/-- `decrypt`, which may throw. -/
def decrypt (text : String) : Api String :=
  match encryption.decrypt text with
  | .ok s => pure s
  | .error e => Prog.throw e

/-- `getDecryptedAccessToken`. -/
def getDecryptedAccessToken (userId provider : String) : Api (Option String) := do
  match ← findAccount userId provider with
  | none => pure none
  | some account => do
    let token ← decrypt encryption account.accessToken
    pure (some token)

/-- The refreshed tokens go to the account that was found. -/
def storeRefreshed (accountId : String) (data : TokenData) : Api Outcome := do
  let encryptedAccess ← encrypt encryption data.access_token
  let encryptedRefresh ← encrypt encryption data.refresh_token
  let expires ← expiresAt data
  let _ ← Prisma.update .oAuthAccount accountId (refreshed encryptedAccess encryptedRefresh expires)
  pure ⟨true, "Token refreshed"⟩

/-- `refreshMicrosoftToken`. -/
def refreshMicrosoftToken (fetch : TokenRequest → TokenResponse) (userId : String) :
    Api Outcome := do
  match ← findAccount userId "microsoft" with
  | none => pure ⟨false, "No Microsoft account linked"⟩
  | some account =>
    match truthy microsoft.clientId, truthy microsoft.clientSecret with
    | some clientId, some clientSecret => do
      let decryptedRefresh ← decrypt encryption account.refreshToken
      match fetch (.refreshToken clientId clientSecret decryptedRefresh) with
      | .failed message => Prog.throw (.error message)
      | .refused => pure ⟨false, "Token refresh failed"⟩
      | .ok data => storeRefreshed encryption account.id data
    | _, _ => pure ⟨false, "Microsoft OAuth not configured"⟩

end

end GuardTime.Services.OAuth
