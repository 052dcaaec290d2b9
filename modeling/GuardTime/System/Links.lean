import Mathlib.Tactic
import GuardTime.Services.Scheduler
import GuardTime.Services.Gateway
import GuardTime.Services.Pairing
import GuardTime.Services.Auth

/-! # Links between rows

The columns by which rows belong to each other: who owns a child, a gateway or a device, which child
and gateway a device has, whose a session is, and the category blocks. Most requests change none of
them, nor the cache; `Quiet` says so, and has a rule for every construct and every database call.
The rules are for any `View` of the database that shows no more of the tables than such columns. -/

namespace GuardTime.System.Links

open GuardTime.Lib.Program GuardTime.Lib.Keyed GuardTime.Lib.TtlCache GuardTime.Lib.Js
open GuardTime.Schema GuardTime.Server GuardTime.Prisma GuardTime.Services

/-! ### The links of a database -/

/-- A row and its parent. -/
structure Owned where
  id : String
  parentId : String
deriving DecidableEq

/-- A device, its parent, its child and its gateway. -/
structure DeviceLink where
  id : String
  parentId : String
  childId : Option String
  gatewayId : Option String
deriving DecidableEq

/-- A session, its device, child and parent. -/
structure SessionLink where
  id : String
  deviceId : String
  childId : String
  parentId : String
deriving DecidableEq

/-- The links of a database. -/
@[ext]
structure LinkGraph where
  children : List Owned
  gateways : List Owned
  devices : List DeviceLink
  sessions : List SessionLink
  categoryBlocks : List CategoryBlock

def ofChild (c : Child) : Owned := ⟨c.id, c.parentId⟩
def ofGateway (g : Gateway) : Owned := ⟨g.id, g.parentId⟩
def ofDevice (d : Device) : DeviceLink := ⟨d.id, d.parentId, d.childId, d.gatewayId⟩
def ofSession (s : Session) : SessionLink := ⟨s.id, s.deviceId, s.childId, s.parentId⟩

/-- The links of the rows. -/
def linksOf (db : Database) : LinkGraph where
  children := db.children.rows.map ofChild
  gateways := db.gateways.rows.map ofGateway
  devices := db.devices.rows.map ofDevice
  sessions := db.sessions.rows.map ofSession
  categoryBlocks := db.categoryBlocks.rows

/-! ### Views -/

/-- The columns of a limit that refer to other rows. -/
def ofLimit (l : BandwidthLimit) : String × Option String × Option String :=
  (l.parentId, l.childId, l.deviceId)

/-- The columns of a router command that refer to other rows. -/
def ofRouterCommand (c : RouterCommand) : String × Option String := (c.gatewayId, c.deviceId)

section
variable {ρ τ γ : Type} {key : ρ → String}

/-- `f` does not show the table. -/
def Unlinked (f : Database → γ) (m : Model key) : Prop := ∀ db t, f (m.set db t) = f db

/-- `f` shows the table only through `g`. -/
def Via (f : Database → γ) (m : Model key) (g : ρ → τ) : Prop :=
  ∀ db t, t.rows.map g = (m.get db).rows.map g → f (m.set db t) = f db

end

/-- A view of the database that shows of each table at most the columns that link its rows. -/
structure View where
  Shown : Type
  of : Database → Shown
  pushToken : Unlinked of .pushToken
  pairingSession : Unlinked of .pairingSession
  deviceIpHistory : Unlinked of .deviceIpHistory
  deviceConnectionEvent : Unlinked of .deviceConnectionEvent
  unknownDomainLog : Unlinked of .unknownDomainLog
  rule : Unlinked of .rule
  command : Unlinked of .command
  notificationEvent : Unlinked of .notificationEvent
  auditLog : Unlinked of .auditLog
  dnsQueryLog : Unlinked of .dnsQueryLog
  user : Via of .user User.id
  child : Via of .child ofChild
  gateway : Via of .gateway ofGateway
  device : Via of .device ofDevice
  session : Via of .session ofSession
  bandwidthLimit : Via of .bandwidthLimit ofLimit
  routerCommand : Via of .routerCommand ofRouterCommand

/-- The links. -/
def linkView : View where
  Shown := LinkGraph
  of := linksOf
  pushToken _ _ := rfl
  pairingSession _ _ := rfl
  deviceIpHistory _ _ := rfl
  deviceConnectionEvent _ _ := rfl
  unknownDomainLog _ _ := rfl
  rule _ _ := rfl
  command _ _ := rfl
  notificationEvent _ _ := rfl
  auditLog _ _ := rfl
  dnsQueryLog _ _ := rfl
  user _ _ _ := rfl
  child db _ h := congrArg (fun l => { linksOf db with children := l }) h
  gateway db _ h := congrArg (fun l => { linksOf db with gateways := l }) h
  device db _ h := congrArg (fun l => { linksOf db with devices := l }) h
  session db _ h := congrArg (fun l => { linksOf db with sessions := l }) h
  bandwidthLimit _ _ _ := rfl
  routerCommand _ _ _ := rfl

theorem user : Unlinked linkView.of .user := fun _ _ => rfl
theorem subscription : Unlinked linkView.of .subscription := fun _ _ => rfl
theorem bandwidthLimit : Unlinked linkView.of .bandwidthLimit := fun _ _ => rfl
theorem vpnDetectionLog : Unlinked linkView.of .vpnDetectionLog := fun _ _ => rfl
theorem detectedRouter : Unlinked linkView.of .detectedRouter := fun _ _ => rfl
theorem routerCommand : Unlinked linkView.of .routerCommand := fun _ _ => rfl

/-- The property looks at the view, the cache and the clock only. -/
def Frame (V : View) (I : World → Prop) : Prop := ∀ w w', V.of w'.db = V.of w.db →
  w'.cache = w.cache → w'.now = w.now → I w → I w'

/-- The program changes neither the view nor cache nor clock. -/
def Quiet (V : View) {α : Type} (p : Api α) : Prop := ∀ ⦃I⦄, Frame V I → Prog.Keeps I p

variable {V : View}

/-! ### Rules -/

section Rules
variable {α β γ : Type}

theorem Frame.steady {I : World → Prop} (h : Frame V I) : Steady I := fun w => h w _ rfl rfl rfl

theorem Quiet.pure (a : α) : Quiet V (pure a) := fun _ _ => .pure a

theorem Quiet.throw (e : Err) : Quiet V (Prog.throw e : Api α) := fun _ _ => .throw e

theorem Quiet.require (c : Prop) [Decidable c] (e : Err) : Quiet V (Prog.require c e) :=
  fun _ _ => .require c e

theorem Quiet.orThrow (o : Option α) (e : Err) :
    Quiet V (Prog.orThrow o e) := fun _ _ => .orThrow o e

theorem Quiet.read (f : World → α) : Quiet V (Prog.read f) := fun _ _ => .read f

theorem Quiet.bind {p : Api α} {f : α → Api β} (hp : Quiet V p) (hf : ∀ a, Quiet V (f a)) :
    Quiet V (p >>= f) := fun _ h => (hp h).bind fun a => hf a h

theorem Quiet.ite {c : Prop} [Decidable c] {p q : Api α} (hp : Quiet V p) (hq : Quiet V q) :
    Quiet V (if c then p else q) := fun _ h => .ite (fun _ => hp h) fun _ => hq h

theorem Quiet.when {c : Prop} [Decidable c] {p : Api Unit} (hp : Quiet V p) :
    Quiet V (Prog.when c p) :=
  .ite hp (.pure ())

theorem Quiet.catchErr {p : Api α} {f : Err → Api α} (hp : Quiet V p) (hf : ∀ e, Quiet V (f e)) :
    Quiet V (p.catchErr f) := fun _ h => (hp h).catchErr fun e => hf e h

theorem Quiet.ignoreErrors {p : Api Unit} (hp : Quiet V p) : Quiet V (ignoreErrors p) :=
  hp.catchErr fun _ => .pure ()

theorem Quiet.forEach {f : β → Api Unit} (bs : List β) (hf : ∀ b, Quiet V (f b)) :
    Quiet V (Prog.forEach bs f) := fun _ h => .forEach bs fun b _ => hf b h

theorem Quiet.foldEach {f : γ → β → Api γ} (bs : List β) (c : γ) (hf : ∀ c b, Quiet V (f c b)) :
    Quiet V (Prog.foldEach bs c f) := fun _ h => .foldEach bs c fun c b _ => hf c b h

theorem quiet_newDate : Quiet V newDate := .read _

theorem quiet_randomUUID : Quiet V randomUUID := fun _ h => keeps_randomUUID h.steady

theorem quiet_query (f : Database → ℕ → α) : Quiet V (query f) := fun _ h => keeps_query h.steady f

end Rules

/-! ### Calls on tables without links -/

section Unlinked
variable {ρ : Type} {key : ρ → String} {m : Model key}

theorem Unlinked.free (hm : Unlinked V.of m) {I : World → Prop} (h : Frame V I) : Free m I :=
  fun w t hw => h w _ (hm w.db t) rfl rfl hw

theorem Unlinked.create (hm : Unlinked V.of m) (mk : String → Time → ρ) :
    Quiet V (Prisma.create m mk) := fun _ h => (hm.free h).create h.steady mk

theorem Unlinked.update (hm : Unlinked V.of m) (k : String) (f : ρ → ρ)
    (hf : ∀ r, key (f r) = key r) : Quiet V (Prisma.update m k f hf) :=
  fun _ h => (hm.free h).update h.steady k f hf

theorem Unlinked.updateMany (hm : Unlinked V.of m) (p : ρ → Bool) (f : ρ → ρ)
    (hf : ∀ r, key (f r) = key r) : Quiet V (Prisma.updateMany m p f hf) :=
  fun _ h => (hm.free h).updateMany h.steady p f hf

theorem Unlinked.upsert (hm : Unlinked V.of m) (p : ρ → Bool) (f : ρ → ρ) (mk : String → Time → ρ)
    (hf : ∀ r, key (f r) = key r) : Quiet V (Prisma.upsert m p f mk hf) :=
  fun _ h => (hm.free h).upsert h.steady p f mk hf

theorem Unlinked.deleteMany (hm : Unlinked V.of m) (p : ρ → Bool) :
    Quiet V (Prisma.deleteMany m p) := fun _ h => (hm.free h).deleteMany h.steady p

theorem Unlinked.delete (hm : Unlinked V.of m) (hd : ∀ k db, m.onDelete k db = db) (k : String) :
    Quiet V (Prisma.delete m k) := fun _ h => keeps_delete h.steady fun w _ hw _ => by
  rw [hd]; exact (hm.free h).afterCall h.steady _ hw

theorem Unlinked.createMany (hm : Unlinked V.of m) (mks : List (String → Time → ρ)) :
    Quiet V (Prisma.createMany m mks) := fun _ h => (hm.free h).createMany h.steady mks

end Unlinked

/-! ### Updates that keep the links -/

section Linked
variable {ρ τ : Type} {key : ρ → String}

theorem map_modify {t : Table key} {p : ρ → Bool} {f : ρ → ρ} {hf : ∀ r, key (f r) = key r}
    {g : ρ → τ} (hg : ∀ r, g (f r) = g r) : (t.modify p f hf).rows.map g = t.rows.map g := by
  rw [Table.modify, List.map_map]
  refine List.map_congr_left fun r _ => ?_
  by_cases h : p r <;> simp [h, hg]

theorem map_patch {m : Model key} {t : Table key} {now : Time} {k : String} {f : ρ → ρ} {g : ρ → τ}
    (hf : ∀ r, key (f r) = key r) (hg : ∀ r, g (m.touch now (f r)) = g r) :
    (m.patch t now k f hf).rows.map g = t.rows.map g := map_modify hg

/-- An update of a linked table that keeps the links. -/
theorem Via.update {m : Model key} {g : ρ → τ} (h : Via V.of m g) {k : String} {f : ρ → ρ}
    {hf : ∀ r, key (f r) = key r} (hg : ∀ now r, g (m.touch now (f r)) = g r) :
    Quiet V (Prisma.update m k f hf) :=
  fun _ hI => keeps_update hI.steady fun w _ hw _ _ =>
    hI w _ (h w.db _ (map_patch hf (hg w.now))) rfl rfl hw

theorem Via.updateMany {m : Model key} {g : ρ → τ} (h : Via V.of m g) {p : ρ → Bool} {f : ρ → ρ}
    {hf : ∀ r, key (f r) = key r} (hg : ∀ now r, g (m.touch now (f r)) = g r) :
    Quiet V (Prisma.updateMany m p f hf) :=
  fun _ hI => keeps_updateMany fun w hw =>
    hI w _ (h w.db _ (map_modify (hg w.now))) rfl rfl hw

theorem quiet_device {id : String} {f : Device → Device} {hf : ∀ r, (f r).id = r.id}
    (h : ∀ d, ofDevice (f d) = ofDevice d) : Quiet V (Prisma.update .device id f hf) :=
  V.device.update fun _ d => h d

theorem quiet_session {id : String} {f : Session → Session} {hf : ∀ r, (f r).id = r.id}
    (h : ∀ s, ofSession (f s) = ofSession s) : Quiet V (Prisma.update .session id f hf) :=
  V.session.update fun _ s => h s

theorem quiet_gateway {id : String} {f : Gateway → Gateway} {hf : ∀ r, (f r).id = r.id}
    (h : ∀ g, ofGateway (f g) = ofGateway g) : Quiet V (Prisma.update .gateway id f hf) :=
  V.gateway.update fun _ g => h g

theorem quiet_child {id : String} {f : Child → Child} {hf : ∀ r, (f r).id = r.id}
    (h : ∀ c, ofChild (f c) = ofChild c) : Quiet V (Prisma.update .child id f hf) :=
  V.child.update fun _ c => h c

theorem quiet_user {id : String} {f : User → User} {hf : ∀ r, (f r).id = r.id} :
    Quiet V (Prisma.update .user id f hf) := V.user.update fun _ u => hf u

end Linked

/-! ### Transactions -/

section Transaction
variable {α β : Type}

/-- A transaction body of quiet calls. -/
def TxQuiet (V : View) (q : Prog TxWorld Err α) : Prop :=
  (∀ g, Prog.Keeps (TxOnDb fun db => V.of db = g) q) ∧ ∀ Q, Prog.Keeps (TxOffDb Q) q

theorem frame_onDb (g : V.Shown) : Frame V (OnDb fun db => V.of db = g) :=
  fun _ _ hl _ _ h => hl.trans h

theorem frame_offDb (Q : Cache String CacheValue → Time → Prop) : Frame V (OffDb Q) :=
  fun w w' _ hc hn h => by unfold OffDb; rw [hc, hn]; exact h

theorem TxQuiet.viaTx {p : Api α} (h : Quiet V p) : TxQuiet V (viaTx p) :=
  ⟨fun g => keeps_viaTx (h (frame_onDb g)), fun Q => keeps_viaTx_offDb (h (frame_offDb Q))⟩

theorem TxQuiet.viaPlain {p : Api α} (h : Quiet V p) : TxQuiet V (viaPlain p) :=
  ⟨fun g => keeps_viaPlain (h (frame_onDb g)), fun Q => keeps_viaPlain_offDb (h (frame_offDb Q))⟩

theorem TxQuiet.pure (a : α) : TxQuiet V (pure a) := ⟨fun _ => .pure a, fun _ => .pure a⟩

theorem TxQuiet.throw (e : Err) : TxQuiet V (Prog.throw e : Prog TxWorld Err α) :=
  ⟨fun _ => .throw e, fun _ => .throw e⟩

theorem TxQuiet.require (c : Prop) [Decidable c] (e : Err) : TxQuiet V (Prog.require c e) :=
  ⟨fun _ => .require c e, fun _ => .require c e⟩

theorem TxQuiet.bind {p : Prog TxWorld Err α} {f : α → Prog TxWorld Err β} (hp : TxQuiet V p)
    (hf : ∀ a, TxQuiet V (f a)) : TxQuiet V (p >>= f) :=
  ⟨fun g => (hp.1 g).bind fun a => (hf a).1 g, fun Q => (hp.2 Q).bind fun a => (hf a).2 Q⟩

theorem TxQuiet.ite {c : Prop} [Decidable c] {p q : Prog TxWorld Err α} (hp : TxQuiet V p)
    (hq : TxQuiet V q) : TxQuiet V (if c then p else q) :=
  ⟨fun g => .ite (fun _ => hp.1 g) fun _ => hq.1 g, fun Q => .ite (fun _ => hp.2 Q) fun _ => hq.2 Q⟩

theorem TxQuiet.transaction {q : Prog TxWorld Err α} (h : TxQuiet V q) :
    Quiet V (transaction q) := by
  intro I hI w hw
  have hdb := keeps_transaction (h.1 (V.of w.db)) w rfl
  have hoff := keeps_transaction_offDb (h.2 fun c t => c = w.cache ∧ t = w.now) w ⟨rfl, rfl⟩
  exact hI w _ hdb hoff.1 hoff.2 hw

end Transaction

end GuardTime.System.Links
