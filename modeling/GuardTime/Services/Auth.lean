import Mathlib.Tactic
import GuardTime.Models

/-! # Authentication

`AuthService`: registration, login with lockout, refresh-token rotation and logout. -/

namespace GuardTime.Services.Auth

open GuardTime.Lib.Program GuardTime.Lib.Js GuardTime.Schema GuardTime.Server GuardTime.Prisma

/-- `MAX_FAILED_ATTEMPTS`. -/
def maxFailedAttempts : ℤ := 5

/-- `LOCKOUT_DURATION_MINUTES * 60_000`. -/
def lockoutDurationMs : ℤ := 900000

/-- A token pair as the client receives it. -/
structure Tokens where
  accessToken : String
  refreshToken : String
  userId : String
  role : Role
deriving DecidableEq

/-- `RegisterDto`. -/
structure RegisterDto where
  email : String
  password : String
  firstName : Option String := none
  lastName : Option String := none

/-- `LoginDto`. -/
structure LoginDto where
  email : String
  password : String

section
variable (env : Env)

/-- `hashToken`. -/
def hashToken (token : String) : String := env.sha256 token

/-- `generateTokens`. -/
def generateTokens (sub email : String) (role : Role) : Api Tokens := do
  let now ← newDate
  let accessJti ← randomUUID
  let refreshJti ← randomUUID
  pure
    { accessToken := env.jwtSign ⟨sub, email, role, accessJti⟩ env.jwtSecret env.jwtExpiresIn now
      refreshToken := env.jwtSign ⟨sub, email, role, refreshJti⟩ env.jwtRefreshSecret
        env.jwtRefreshExpiresIn now
      userId := sub
      role }

/-- `issueTokens`. -/
def issueTokens (sub email : String) (role : Role) : Api Tokens := do
  let tokens ← generateTokens env sub email role
  let _ ← Prisma.update .user sub fun u =>
    { u with refreshToken := some (hashToken env tokens.refreshToken) }
  pure tokens

/-- `register`. -/
def register (dto : RegisterDto) : Api Tokens := do
  let email := env.toLowerCase (trim dto.email)
  let existing ← Prisma.findUniqueBy .user fun u => u.email = email
  Prog.require (existing.isNone = true) (.conflict "Email already registered")
  let salt ← randomUUID
  let user ← Prisma.transaction do
    let user ← viaTx (Prisma.create .user fun id now =>
      { id, email, passwordHash := env.bcryptHash dto.password salt, role := .parent,
        firstName := dto.firstName, lastName := dto.lastName, refreshToken := none,
        failedLoginAttempts := 0, lockedUntil := none, createdAt := now, updatedAt := now })
    let _ ← viaTx (Prisma.create .subscription fun id now =>
      { id, userId := user.id, plan := .free, createdAt := now })
    pure user
  issueTokens env user.id user.email user.role

/-- The lockout is in force at `now`. -/
def locked (now : Time) (user : User) : Bool := user.lockedUntil.any fun t => now < t

/-- `Math.ceil(ms / 60000)`. -/
def ceilMinutes (ms : ℤ) : ℤ := -(-ms / 60000)

/-- The bookkeeping of a failed password comparison. -/
def recordFailure (user : User) : Api Unit := do
  let newAttempts := user.failedLoginAttempts + 1
  let now ← newDate
  let _ ← Prisma.update .user user.id fun u =>
    { u with
      failedLoginAttempts := newAttempts
      lockedUntil :=
        if newAttempts ≥ maxFailedAttempts then some (now + lockoutDurationMs)
        else u.lockedUntil }
  pure ()

theorem reset_id (u : User) :
    ({ u with failedLoginAttempts := 0, lockedUntil := none } : User).id = u.id := rfl

/-- `login`. -/
def login (dto : LoginDto) : Api Tokens := do
  let email := env.toLowerCase (trim dto.email)
  let found ← Prisma.findUniqueBy .user fun u => u.email = email
  let user ← Prog.orThrow found (.unauthorized "Invalid credentials")
  let now ← newDate
  Prog.require (locked now user = false)
    (.forbidden
      ("Account is temporarily locked due to too many failed login attempts. Try again in "
      ++ toString (ceilMinutes (user.lockedUntil.getD now - now)) ++ " minute(s)."))
  if env.bcryptCompare dto.password user.passwordHash then do
    Prog.when (user.failedLoginAttempts > 0) do
      let _ ← Prisma.update .user user.id fun u =>
        { u with failedLoginAttempts := 0, lockedUntil := none }
      pure ()
    issueTokens env user.id user.email user.role
  else do
    recordFailure user
    Prog.throw (.unauthorized "Invalid credentials")

/-- `refresh`. -/
def refresh (refreshToken : String) : Api Tokens := do
  let now ← newDate
  let payload ← Prog.orThrow (env.jwtVerify refreshToken env.jwtRefreshSecret now)
    (.unauthorized "Invalid or expired refresh token")
  let presentedHash := hashToken env refreshToken
  let found ← Prisma.findUnique .user payload.sub
  let user ← Prog.orThrow
    (found.filter fun u => u.refreshToken ≠ some "" && u.refreshToken = some presentedHash)
    (.unauthorized "Invalid refresh token")
  let tokens ← generateTokens env user.id user.email user.role
  let count ← Prisma.updateMany .user
    (fun u => u.id = user.id && u.refreshToken = some presentedHash)
    fun u => { u with refreshToken := some (hashToken env tokens.refreshToken) }
  Prog.require (count ≠ 0) (.unauthorized "Invalid refresh token")
  pure tokens

/-- `logout`. -/
def logout (userId : String) : Api Unit := do
  let _ ← Prisma.update .user userId fun u => { u with refreshToken := none }
  pure ()

end

end GuardTime.Services.Auth
