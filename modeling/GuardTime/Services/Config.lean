import Mathlib.Tactic
import Mathlib.Data.Int.Log
import GuardTime.Services.Auth

/-! # Configuration and access tokens

What happens to the two JWT secrets between boot and a request: `validateEnv`, the constructor of
`AuthService`, the options of `JwtModule` in `CommonModule`, and `JwtAuthGuard`. -/

namespace GuardTime.Services.Config

open GuardTime.Lib.Program GuardTime.Lib.Js GuardTime.Schema GuardTime.Server GuardTime.Prisma

/-! ### Values -/

/-- A configuration value: a string, or anything else by what `String` and `Number` make of it. -/
inductive Value where
  | str (s : String)
  | other (text : String) (number : Option ℚ)
deriving DecidableEq

/-- `Record<string, unknown>`; a missing key is `undefined`. -/
abbrev Values : Type := String → Option Value

/-- `String(v)`. -/
def Value.text : Value → String
  | .str s => s
  | .other text _ => text

/-- The nearest double, ties to even, of a number below the largest one. -/
def roundDouble (q : ℚ) : ℚ :=
  let ulp : ℚ := (2 : ℚ) ^ max (Int.log 2 |q| - 52) (-1074)
  let n := ⌊q / ulp⌋
  let rest := q / ulp - n
  (if rest < 1 / 2 ∨ rest = 1 / 2 ∧ n % 2 = 0 then n else n + 1) * ulp

/-- `Number(v)`, none for what is not finite. -/
def Value.number : Value → Option ℚ
  | .str s => (toNumber s).map roundDouble
  | .other _ number => number

/-- `s.length`, in UTF-16 code units. -/
def length (s : String) : ℕ := (s.toList.map fun c => if c.toNat < 0x10000 then 1 else 2).sum

/-- `s.includes(p)`. -/
def includes (s p : String) : Bool := s.toList.tails.any fun t => p.toList.isPrefixOf t

/-! ### Validation -/

/-- `MIN_SECRET_LENGTH`. -/
def minSecretLength : ℕ := 32

/-- `PLACEHOLDER_MARKERS`. -/
def placeholderMarkers : List String := ["change-me", "change_me", "your-secret", "secret-here"]

section
variable (env : Env) (config : Values)

/-- `looksLikePlaceholder`. -/
def looksLikePlaceholder (value : String) : Bool :=
  placeholderMarkers.any (includes (env.toLowerCase value))

/-- `config.NODE_ENV === 'production'`. -/
def isProduction : Bool := config "NODE_ENV" = some (.str "production")

/-- `requireString`: the value, or the error that is pushed. -/
def requireString (key : String) : Except String String :=
  match config key with
  | some (.str s) => if length (trim s) = 0 then .error (key ++ " is required") else .ok s
  | _ => .error (key ++ " is required")

/-- The errors of a required secret; `noun` is the word its placeholder message uses. -/
def secretErrors (key noun : String) : List String :=
  match requireString config key with
  | .error e => [e]
  | .ok value =>
    (if length value < minSecretLength then
      [key ++ " must be at least " ++ toString minSecretLength ++ " characters"] else []) ++
    (if isProduction config && looksLikePlaceholder env value then
      [key ++ " is still set to a placeholder value — set a real " ++ noun ++ " in production"]
    else [])

/-- The check of `NODE_ENV`. -/
def nodeEnvErrors : List String :=
  match config "NODE_ENV" with
  | none => []
  | some v =>
    if v.text ∈ ["development", "production", "test"] then []
    else ["NODE_ENV must be one of development|production|test (got \"" ++ v.text ++ "\")"]

/-- The check of `PORT`. -/
def portErrors : List String :=
  match config "PORT" with
  | none => []
  | some v =>
    if v.number.any fun n => n.isInt && 1 ≤ n && n ≤ 65535 then []
    else ["PORT must be a valid port number (got \"" ++ v.text ++ "\")"]

/-- All errors, in the order they are pushed. -/
def errors : List String :=
  (match requireString config "DATABASE_URL" with
    | .error e => [e]
    | .ok _ => []) ++
  secretErrors env config "JWT_SECRET" "secret" ++
  secretErrors env config "JWT_REFRESH_SECRET" "secret" ++
  secretErrors env config "ENCRYPTION_KEY" "key" ++
  nodeEnvErrors config ++ portErrors config

/-- `validateEnv`. -/
def validateEnv : Except Err Values :=
  if errors env config ≠ [] then
    .error (.error ("Invalid environment configuration:\n  - " ++
      join (errors env config) "\n  - " ++ "\n" ++
      "Refusing to start. See .env.example for the required variables."))
  else .ok config

end

/-! ### Services -/

/-- `configService.get(key)` of a string. -/
def getString (config : Values) (key : String) : Option String := (config key).map Value.text

/-- A secret as the constructor of `AuthService` insists on it. -/
def requiredSecret (config : Values) (key : String) : Except Err String :=
  match getString config key with
  | some s =>
    if length s = 0 ∨ length s < 32 then
      .error (.error (key ++
        " must be defined and at least 32 characters long. Refusing to start."))
    else .ok s
  | none =>
    .error (.error (key ++ " must be defined and at least 32 characters long. Refusing to start."))

/-- The constructor of `AuthService`: the environment it works in. -/
def authService (env : Env) (config : Values) : Except Err Env := do
  let jwtSecret ← requiredSecret config "JWT_SECRET"
  let jwtRefreshSecret ← requiredSecret config "JWT_REFRESH_SECRET"
  pure
    { env with
      jwtSecret := jwtSecret
      jwtRefreshSecret := jwtRefreshSecret
      jwtExpiresIn := (getString config "JWT_EXPIRATION").getD "15m"
      jwtRefreshExpiresIn := (getString config "JWT_REFRESH_EXPIRATION").getD "7d" }

/-- `config.getOrThrow('JWT_SECRET')`: the secret of the `JwtModule`. -/
def jwtModuleSecret (config : Values) : Except Err String :=
  match getString config "JWT_SECRET" with
  | some s => .ok s
  | none => .error (.error "Configuration key \"JWT_SECRET\" does not exist")

/-- The running application: the environment of `AuthService` and the secret of the guard. -/
structure App where
  env : Env
  jwtModuleSecret : String

/-- The application under a configuration. -/
def start (env : Env) (config : Values) : Except Err App := do
  let config ← validateEnv env config
  let secret ← jwtModuleSecret config
  let auth ← authService env config
  pure ⟨auth, secret⟩

end GuardTime.Services.Config

/-! ### The guard -/

namespace GuardTime.Services.JwtAuthGuard

open GuardTime.Lib.Program GuardTime.Lib.Js GuardTime.Server

/-- `extractTokenFromHeader`. -/
def extractTokenFromHeader (authorization : Option String) : Option String :=
  match (authorization.map fun h => split h ' ').getD [] with
  | type :: token :: _ => if type = "Bearer" then some token else none
  | _ => none

/-- `canActivate`: the payload put on the request. -/
def canActivate (app : Config.App) (authorization : Option String) : Api JwtPayload := do
  let token ← Prog.orThrow ((extractTokenFromHeader authorization).filter (· ≠ ""))
    (.unauthorized "Missing authentication token")
  let now ← newDate
  Prog.orThrow (app.env.jwtVerify token app.jwtModuleSecret now)
    (.unauthorized "Invalid or expired token")

end GuardTime.Services.JwtAuthGuard
