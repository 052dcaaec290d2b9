import Mathlib.Tactic
import GuardTime.Lib.Program
import GuardTime.Lib.TtlCache
import GuardTime.Schema

/-! # The server: state, environment and errors

A `World` is everything a request handler can read or change: the database, the cache, the delivery
queue and the clock. Two streams stand for what the code does not control, both read at the position
`calls`, which every call advances: `tape` chooses the order in which an unordered query answers,
and `uuids` holds the random identifiers. `Env` collects the configuration and the code outside the
repository. -/

namespace GuardTime.Server

open GuardTime.Lib.Program GuardTime.Lib.TtlCache GuardTime.Lib.Js GuardTime.Schema

/-! ### Errors -/

/-- What a handler may throw: the framework's HTTP exceptions, a coded Prisma error, or a plain
`Error`. -/
inductive Err where
  | notFound (message : String)
  | forbidden (message : String)
  | badRequest (message : String)
  | unauthorized (message : String)
  | conflict (message : String)
  | prisma (code : String)
  | error (message : String)
deriving DecidableEq

/-- `err.message`; of a Prisma error only the code is modelled. -/
def Err.message : Err → String
  | notFound m | forbidden m | badRequest m | unauthorized m | conflict m | prisma m | error m => m

/-! ### Cached values and queued jobs -/

inductive DnsAction where
  | allow | block
deriving DecidableEq

inductive DnsReason where
  | fullInternetLock | strictModeDoh | timeLimitExceeded | domainBlocked | categoryBlocked
  | manualBlock
deriving DecidableEq

/-- `DnsPolicyResponseDto`; `category` is absent, null or a category. -/
structure DnsPolicyResponse where
  action : DnsAction
  blockIp : String
  reason : Option DnsReason
  category : Option (Option BlockCategory)
deriving DecidableEq

/-- What the services keep in the cache manager. -/
inductive CacheValue where
  | version (n : ℕ)
  | decision (r : DnsPolicyResponse)
  | deviceId (id : String)
  | throttled
deriving DecidableEq

/-- `CommandJobData`. -/
structure CommandJobData where
  commandId : String
  deviceId : String
  type : CommandType
  payload : String
  controlMethod : ControlMethod
deriving DecidableEq

/-! ### State -/

structure World where
  db : Database
  cache : Cache String CacheValue
  commandQueue : List CommandJobData
  now : Time
  tape : ℕ → ℕ
  uuids : ℕ → ℕ → String
  calls : ℕ

/-- The world when the clock shows `t`. -/
def World.atTime (w : World) (t : Time) : World := { w with now := t }

@[simp] theorem atTime_db (w : World) (t : Time) : (w.atTime t).db = w.db := rfl
@[simp] theorem atTime_now (w : World) (t : Time) : (w.atTime t).now = t := rfl
@[simp] theorem atTime_uuids (w : World) (t : Time) : (w.atTime t).uuids = w.uuids := rfl
@[simp] theorem atTime_calls (w : World) (t : Time) : (w.atTime t).calls = w.calls := rfl

/-- A request handler, one atomic step per database, cache or queue call. -/
abbrev Api (α : Type) : Type := Prog World Err α

/-- `new Date()`. -/
def newDate : Api Time := Prog.read World.now

/-- `randomUUID()`, `uuidv4()`. -/
def randomUUID : Api String :=
  Prog.call fun w => (.ok (w.uuids w.calls 0), { w with calls := w.calls + 1 })

/-- `cacheManager.get(key)`. -/
def cacheGet (key : String) : Api (Option CacheValue) := Prog.read fun w => w.cache.get w.now key

/-- `cacheManager.set(key, value, ttl)`. -/
def cacheSet (key : String) (value : CacheValue) (ttl : ℤ) : Api Unit :=
  Prog.write fun w => { w with cache := w.cache.set w.now key value ttl }

/-- `p.catch(() => undefined)`, also of a promise that is not awaited. -/
def ignoreErrors (p : Api Unit) : Api Unit := p.catchErr fun _ => pure ()

@[simp] theorem run_newDate (w : World) : newDate.run w = (.ok w.now, w) := rfl

@[simp] theorem run_randomUUID (w : World) :
    randomUUID.run w = (.ok (w.uuids w.calls 0), { w with calls := w.calls + 1 }) := rfl

@[simp] theorem run_cacheGet (key : String) (w : World) :
    (cacheGet key).run w = (.ok (w.cache.get w.now key), w) := rfl

@[simp] theorem run_cacheSet (key : String) (value : CacheValue) (ttl : ℤ) (w : World) :
    (cacheSet key value ttl).run w =
      (.ok (), { w with cache := w.cache.set w.now key value ttl }) := rfl

theorem yields_ignoreErrors (p : Api Unit) : Prog.Yields () (ignoreErrors p) := by
  intro w
  rw [ignoreErrors, Prog.run_catchErr]
  rcases p.run w with ⟨_ | _, _⟩ <;> rfl

/-! ### Environment -/

/-- The claims of a token: `{ sub, email, role, jti }`. -/
structure JwtPayload where
  sub : String
  email : String
  role : Role
  jti : String
deriving DecidableEq

/-- The server's time zone: the local clock at an instant and the start of its local day. -/
structure Zone where
  hours : Time → ℕ
  minutes : Time → ℕ
  day : Time → ℕ
  startOfDay : Time → Time

/-- A push message. -/
structure FcmMessage where
  title : String
  body : String
  data : List (String × String)
deriving DecidableEq

/-- The outcome for one token of a multicast call: delivered, or an error code. -/
abbrev SendResponse : Type := Except String Unit

/-- Configuration and library code. -/
structure Env where
  /-- `process.env.STRICT_MODE` is `true`. -/
  strictMode : Bool
  /-- `String.prototype.toLowerCase`. -/
  toLowerCase : String → String
  zone : Zone
  /-- `createHash('sha256').update(s).digest('hex')`. -/
  sha256 : String → String
  /-- `createHmac('sha256', key).update(s).digest('hex')`. -/
  hmacSha256 : String → String → String
  /-- `bcrypt.hash(password)` under a salt. -/
  bcryptHash : String → String → String
  bcryptCompare : String → String → Bool
  /-- `jwtService.signAsync(payload, { secret, expiresIn })` at a time. -/
  jwtSign : JwtPayload → String → String → Time → String
  /-- `jwtService.verifyAsync(token, { secret })` at a time. -/
  jwtVerify : String → String → Time → Option JwtPayload
  jwtSecret : String
  jwtRefreshSecret : String
  jwtExpiresIn : String
  jwtRefreshExpiresIn : String
  /-- `JSON.parse(encryption.decrypt(s))`, or none where either throws. -/
  decryptJson : String → Option Json
  /-- `sendEachForMulticast`, when Firebase is configured: its answer to each call. -/
  sendEachForMulticast : Option (ℕ → List String → FcmMessage → Except String (List SendResponse))
  controlledDnsIp : Option String
  dnsServiceIp : Option String
  controlledDnsIpv6 : Option String
  dnsServerHost : String
  pairDomainSuffix : String

/-- A server in UTC without strict mode and without Firebase; hashes and tokens are kept
readable. -/
def Env.plain : Env where
  strictMode := false
  toLowerCase s := String.ofList (s.toList.map Char.toLower)
  zone :=
    { hours := fun t => (t / 3600000 % 24).toNat
      minutes := fun t => (t / 60000 % 60).toNat
      day := fun t => ((t / 86400000 + 4) % 7).toNat
      startOfDay := fun t => t - t % 86400000 }
  sha256 s := "sha256:" ++ s
  hmacSha256 k s := k ++ ":" ++ s
  bcryptHash p _ := p
  bcryptCompare p h := p = h
  jwtSign p secret _ _ := secret ++ ":" ++ p.sub ++ ":" ++ p.jti
  jwtVerify _ _ _ := none
  jwtSecret := "access"
  jwtRefreshSecret := "refresh"
  jwtExpiresIn := "15m"
  jwtRefreshExpiresIn := "7d"
  decryptJson _ := none
  sendEachForMulticast := none
  controlledDnsIp := none
  dnsServiceIp := none
  controlledDnsIpv6 := none
  dnsServerHost := "dns.guardtime.app"
  pairDomainSuffix := "pair.guardtime.local"

/-- A world with the given database at time `now`: nothing cached or queued, unordered queries
answer in storage order, identifiers are numbered. -/
def World.fresh (db : Database) (now : Time) : World where
  db := db
  cache := .empty
  commandQueue := []
  now := now
  tape _ := 0
  uuids n i := "uuid-" ++ toString n ++ "-" ++ toString i
  calls := 0

section Fresh
variable {db : Database} {t : Time} {n n' i i' : ℕ}

theorem fresh_uuids_injective
    (h : (World.fresh db t).uuids n i = (World.fresh db t).uuids n' i') : n = n' ∧ i = i' := by
  have hcut : ∀ n i, ((World.fresh db t).uuids n i).toList =
      ("uuid-".toList ++ (toString n).toList) ++ '-' :: (toString i).toList := by
    intro n i
    simp [World.fresh]
  have hlists := congrArg String.toList h
  rw [hcut, hcut] at hlists
  obtain ⟨h1, h2⟩ :=
    eq_of_cut (notMem_toString (by decide) i) (notMem_toString (by decide) i') hlists
  have h3 := List.append_cancel_left h1
  exact ⟨toString_nat_injective (String.toList_inj.mp h3),
    toString_nat_injective (String.toList_inj.mp h2)⟩

theorem fresh_uuids_head : ((World.fresh db t).uuids n i).toList.head? = some 'u' := by
  simp [World.fresh]

end Fresh

end GuardTime.Server
