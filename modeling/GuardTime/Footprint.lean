import Mathlib.Tactic
import GuardTime.Models

/-! # What database calls preserve

Rules for `Keeps`: a property of the world survives a call when it survives the write the call
makes. A property that says nothing about a table (`Free`) survives every call on it.

Two kinds of property get rules for transactions: those of the database alone (`OnDb`) and those of
the cache and the clock (`OffDb`), which no database call touches. -/

namespace GuardTime.Prisma

open GuardTime.Lib.Program GuardTime.Lib.Keyed GuardTime.Lib.TtlCache GuardTime.Lib.Js
open GuardTime.Schema GuardTime.Server Prog

/-! ### Properties of a world -/

section
variable {ρ : Type} {key : ρ → String}

/-- The property survives a call that writes nothing. -/
def Steady (I : World → Prop) : Prop := ∀ w, I w → I (World.afterCall w w.db)

/-- The property says nothing about the table of `m`. -/
def Free (m : Model key) (I : World → Prop) : Prop :=
  ∀ w t, I w → I { w with db := m.set w.db t }

/-- A property of the database. -/
def OnDb (J : Database → Prop) (w : World) : Prop := J w.db

/-- A property of the cache and the clock. -/
def OffDb (Q : Cache String CacheValue → Time → Prop) (w : World) : Prop := Q w.cache w.now

theorem steady_onDb (J : Database → Prop) : Steady (OnDb J) := fun _ h => h

theorem steady_offDb (Q : Cache String CacheValue → Time → Prop) : Steady (OffDb Q) := fun _ h => h

theorem free_offDb (m : Model key) (Q : Cache String CacheValue → Time → Prop) :
    Free m (OffDb Q) := fun _ _ h => h

end

/-! ### Calls -/

section Calls
variable {ρ α : Type} {key : ρ → String} {m : Model key} {I : World → Prop}

theorem keeps_dbCall {f : Ctx → Database → Except Err α × Database}
    (h : ∀ w, I w → I (World.afterCall w (f (World.ctx w) w.db).2)) : Keeps I (dbCall f) :=
  Keeps.call h

theorem keeps_query (hI : Steady I) (f : Database → ℕ → α) : Keeps I (query f) := Keeps.call hI

theorem keeps_create (hI : Steady I) {mk : String → Time → ρ}
    (h : ∀ w t, I w → (∀ l ∈ m.links (mk (w.uuids w.calls 0) w.now), l.holds w.db = true) →
      (m.get w.db).insert (mk (w.uuids w.calls 0) w.now) = some t →
      I (World.afterCall w (m.set w.db t))) : Keeps I (create m mk) := by
  refine keeps_dbCall fun w hw => ?_
  rcases hr : m.insertRow w.db (mk ((World.ctx w).uuid 0) (World.ctx w).now) with e | db'
  · exact hI w hw
  · obtain ⟨hl, t, ht, rfl⟩ := Model.insertRow_ok hr
    exact h w t hw hl ht

theorem keeps_update (hI : Steady I) {k : String} {f : ρ → ρ} {hf : ∀ r, key (f r) = key r}
    (h : ∀ w r, I w → (m.get w.db).find k = some r →
      (∀ l ∈ m.links (f r), l ∈ m.links r ∨ l.holds w.db = true) →
      I (World.afterCall w (m.set w.db (m.patch (m.get w.db) w.now k f hf)))) :
    Keeps I (update m k f hf) := by
  refine keeps_dbCall fun w hw => ?_
  rcases hr : m.updateRow w.db (World.ctx w).now k f hf with e | ⟨r', db'⟩
  · exact hI w hw
  · obtain ⟨r, hfind, -, hl, rfl⟩ := Model.updateRow_ok hr
    exact h w r hw hfind hl

theorem keeps_updateMany {p : ρ → Bool} {f : ρ → ρ} {hf : ∀ r, key (f r) = key r}
    (h : ∀ w, I w → I (World.afterCall w (m.set w.db
      ((m.get w.db).modify p (fun r => m.touch w.now (f r)) fun r => by rw [m.touch_key, hf])))) :
    Keeps I (updateMany m p f hf) := Keeps.call h

theorem keeps_upsert (hI : Steady I) {p : ρ → Bool} {f : ρ → ρ} {mk : String → Time → ρ}
    {hf : ∀ r, key (f r) = key r}
    (hupd : ∀ w r, I w → r ∈ (m.get w.db).rows → p r = true →
      I (World.afterCall w (m.set w.db (m.patch (m.get w.db) w.now (key r) f hf))))
    (hnew : ∀ w t, I w → (∀ l ∈ m.links (mk (w.uuids w.calls 0) w.now), l.holds w.db = true) →
      (m.get w.db).insert (mk (w.uuids w.calls 0) w.now) = some t →
      I (World.afterCall w (m.set w.db t))) : Keeps I (upsert m p f mk hf) := by
  refine keeps_dbCall fun w hw => ?_
  rcases hp : (m.get w.db).rows.find? p with _ | r
  · rcases hr : m.insertRow w.db (mk ((World.ctx w).uuid 0) (World.ctx w).now) with e | db'
    · exact hI w hw
    · obtain ⟨hl, t, ht, rfl⟩ := Model.insertRow_ok hr
      exact hnew w t hw hl ht
  · rcases hr : m.updateRow w.db (World.ctx w).now (key r) f hf with e | ⟨r', db'⟩
    · simp only [hr]; exact hI w hw
    · obtain ⟨-, -, -, -, rfl⟩ := Model.updateRow_ok hr
      simp only [hr]
      exact hupd w r hw (List.mem_of_find?_eq_some hp) (List.find?_some hp)

theorem keeps_delete (hI : Steady I) {k : String}
    (h : ∀ w r, I w → (m.get w.db).find k = some r → I (World.afterCall w
      (m.onDelete k (m.set w.db ((m.get w.db).erase fun r => key r = k))))) :
    Keeps I (delete m k) := by
  refine keeps_dbCall fun w hw => ?_
  rcases hr : (m.get w.db).find k with _ | r
  · exact hI w hw
  · exact h w r hw hr

theorem keeps_deleteMany {p : ρ → Bool}
    (h : ∀ w, I w → I (World.afterCall w (m.set w.db ((m.get w.db).erase p)))) :
    Keeps I (deleteMany m p) := Keeps.call h

/-! ### Calls on tables the property says nothing about -/

variable (hI : Steady I) (hm : Free m I)
include hI hm

theorem Free.afterCall {w : World} (t : Table key) (h : I w) :
    I (World.afterCall w (m.set w.db t)) := hI _ (hm w t h)

theorem Free.create (mk : String → Time → ρ) : Keeps I (Prisma.create m mk) :=
  keeps_create hI fun _ t hw _ _ => hm.afterCall hI t hw

theorem Free.update (k : String) (f : ρ → ρ) (hf : ∀ r, key (f r) = key r) :
    Keeps I (Prisma.update m k f hf) := keeps_update hI fun _ _ hw _ _ => hm.afterCall hI _ hw

theorem Free.updateMany (p : ρ → Bool) (f : ρ → ρ) (hf : ∀ r, key (f r) = key r) :
    Keeps I (Prisma.updateMany m p f hf) := keeps_updateMany fun _ hw => hm.afterCall hI _ hw

theorem Free.upsert (p : ρ → Bool) (f : ρ → ρ) (mk : String → Time → ρ)
    (hf : ∀ r, key (f r) = key r) : Keeps I (Prisma.upsert m p f mk hf) :=
  keeps_upsert hI (fun _ _ hw _ _ => hm.afterCall hI _ hw) fun _ _ hw _ _ => hm.afterCall hI _ hw

theorem Free.deleteMany (p : ρ → Bool) : Keeps I (Prisma.deleteMany m p) :=
  keeps_deleteMany fun _ hw => hm.afterCall hI _ hw

theorem Free.createMany (mks : List (String → Time → ρ)) : Keeps I (Prisma.createMany m mks) := by
  have hrows : ∀ (rs : List ρ) (w : World) (db' : Database), m.insertRows w.db rs = .ok db' →
      I w → I { w with db := db' } := by
    intro rs
    induction rs with
    | nil =>
      rintro w db' ⟨⟩ hw
      exact hw
    | cons r rs ih =>
      intro w db' hins hw
      rcases hr : m.insertRow w.db r with e | db₁ <;> simp only [Model.insertRows, hr] at hins
      · cases hins
      · obtain ⟨-, t, -, rfl⟩ := Model.insertRow_ok hr
        exact ih { w with db := m.set w.db t } db' hins (hm w t hw)
  refine keeps_dbCall fun w hw => ?_
  dsimp only
  split
  · exact hI _ (hrows _ w _ ‹_› hw)
  · exact hI w hw

end Calls

/-! ### Transactions -/

section Transaction
variable {α β : Type} {J : Database → Prop} {Q : Cache String CacheValue → Time → Prop}

/-- Inside a transaction: the committed state has the property, and so keep the pending writes. -/
def TxOnDb (J : Database → Prop) (s : TxWorld) : Prop :=
  J s.base.db ∧ ∀ f ∈ s.log, ∀ db, J db → J (f db)

theorem TxOnDb.foldl {J : Database → Prop} : ∀ {log : List (Database → Database)} {db : Database},
    J db → (∀ f ∈ log, ∀ db, J db → J (f db)) → J (log.foldl (fun db f => f db) db)
  | [], _, h, _ => h
  | f :: log, db, h, hf =>
    @TxOnDb.foldl J log (f db) (hf f (by simp) db h) fun g hg => hf g (by simp [hg])

theorem keeps_viaTx {p : Api α} (h : Keeps (OnDb J) p) : Keeps (TxOnDb J) (viaTx p) := by
  refine Keeps.call fun s hs => ⟨hs.1, fun f hf db hdb => ?_⟩
  rcases List.mem_append.mp hf with hf | hf
  · exact hs.2 f hf db hdb
  · obtain rfl := List.mem_singleton.mp hf
    exact h { s.base with db := db } hdb

theorem keeps_viaPlain {p : Api α} (h : Keeps (OnDb J) p) : Keeps (TxOnDb J) (viaPlain p) :=
  Keeps.call fun s hs => ⟨h s.base hs.1, hs.2⟩

/-- What a transaction leaves, given the state its callback ends in. -/
theorem onDb_transaction {q : Prog TxWorld Err α} {w : World}
    (h : TxOnDb J (q.run ⟨w, []⟩).2) : J ((transaction q).run w).2.db := by
  rw [run_transaction]
  rcases hq : q.run ⟨w, []⟩ with ⟨e | a, s⟩ <;> rw [hq] at h
  · exact h.1
  · exact TxOnDb.foldl h.1 h.2

theorem keeps_transaction {q : Prog TxWorld Err α} (h : Keeps (TxOnDb J) q) :
    Keeps (OnDb J) (transaction q) :=
  fun w hw => onDb_transaction (h ⟨w, []⟩ ⟨hw, by simp⟩)

/-- A call inside a transaction, in terms of what the transaction sees. -/
theorem triple_viaTx {K : Database → Prop} {b : Database} {p : Api α}
    (h : ∀ w, J w.db → K (p.run w).2.db) :
    Triple (fun s : TxWorld => J s.view ∧ s.base.db = b) (viaTx p)
      (fun _ s => K s.view ∧ s.base.db = b) fun _ s => s.base.db = b := by
  rintro s ⟨hs, hb⟩
  have hview : K ((viaTx p).run s).2.view := by
    rw [viaTx_view]
    exact h _ hs
  have hbase : ((viaTx p).run s).2.base.db = b := hb
  rcases hr : (viaTx p).run s with ⟨e | a, s'⟩ <;> rw [hr] at hview hbase
  · exact hbase
  · exact ⟨hview, hbase⟩

/-- A transaction ends as its calls say, or leaves the database as it was. -/
theorem onDb_transaction_of_triple {q : Prog TxWorld Err α} {w : World} {P : Database → Prop}
    (hw : P w.db) (h : Triple (fun s : TxWorld => P s.view ∧ s.base.db = w.db) q
      (fun _ s => J s.view ∧ s.base.db = w.db) fun _ s => s.base.db = w.db) :
    J ((transaction q).run w).2.db ∨ ((transaction q).run w).2.db = w.db := by
  have hq := h ⟨w, []⟩ ⟨hw, rfl⟩
  rw [run_transaction]
  rcases hr : q.run ⟨w, []⟩ with ⟨e | a, s⟩ <;> rw [hr] at hq
  · exact .inr hq
  · exact .inl hq.1

theorem always_viaTx {p : Api α} (h : Keeps (OnDb J) p) : Always (TxOnDb J) (viaTx p) :=
  .call (keeps_viaTx h)

theorem always_viaPlain {p : Api α} (h : Keeps (OnDb J) p) : Always (TxOnDb J) (viaPlain p) :=
  .call (keeps_viaPlain h)

/-- Outside the database, a transaction is a direct run. -/
theorem keeps_viaTx_base {I : World → Prop} (hI : ∀ w db, I w → I { w with db := db }) {p : Api α}
    (h : Keeps I p) : Keeps (fun s => I s.base) (viaTx p) :=
  Keeps.call fun s hs => hI _ _ (h { s.base with db := s.view } (hI _ _ hs))

theorem keeps_transaction_base {I : World → Prop} (hI : ∀ w db, I w → I { w with db := db })
    {q : Prog TxWorld Err α} (h : Keeps (fun s => I s.base) q) : Keeps I (transaction q) := by
  refine Keeps.call fun w hw => ?_
  have hs := h ⟨w, []⟩ hw
  rcases hq : q.run ⟨w, []⟩ with ⟨e | a, s⟩ <;> rw [hq] at hs
  · exact hs
  · exact hI _ _ hs

/-- The cache and the clock inside a transaction. -/
def TxOffDb (Q : Cache String CacheValue → Time → Prop) (s : TxWorld) : Prop := OffDb Q s.base

theorem keeps_viaTx_offDb {p : Api α} (h : Keeps (OffDb Q) p) : Keeps (TxOffDb Q) (viaTx p) :=
  keeps_viaTx_base (fun _ _ hw => hw) h

theorem keeps_viaPlain_offDb {p : Api α} (h : Keeps (OffDb Q) p) :
    Keeps (TxOffDb Q) (viaPlain p) := Keeps.call fun s hs => h s.base hs

theorem keeps_transaction_offDb {q : Prog TxWorld Err α} (h : Keeps (TxOffDb Q) q) :
    Keeps (OffDb Q) (transaction q) := keeps_transaction_base (fun _ _ hw => hw) h

end Transaction

/-! ### Transactions as direct runs

A transaction that succeeds has done what its calls do directly, one after the other; one that fails
leaves only what went past its client. Here that is the audit log, which no other call looks at. -/

section Mirrors
variable {ρ α β : Type} {key : ρ → String} {m : Model key}

/-- The database with another audit log. -/
def audited (db : Database) (logs : Table AuditLog.id) : Database := { db with auditLogs := logs }

/-- The model does not look at the audit log. -/
structure Apart (m : Model key) : Prop where
  get : ∀ db t, m.get (audited db t) = m.get db
  set : ∀ db t t', m.set (audited db t) t' = audited (m.set db t') t
  onDelete : ∀ k db t, m.onDelete k (audited db t) = audited (m.onDelete k db) t

theorem holds_auditLogs (db : Database) (t : Table AuditLog.id) (l : Link) :
    l.holds (audited db t) = l.holds db := by
  cases l <;> rfl

/-- The program does the same whatever the audit log holds, and leaves it alone. -/
def Commutes (p : Api α) : Prop := ∀ w t, p.run { w with db := audited w.db t } =
  ((p.run w).1, { (p.run w).2 with db := audited (p.run w).2.db t })

theorem commutes_dbCall {f : Ctx → Database → Except Err α × Database}
    (hf : ∀ c db t, f c (audited db t) = ((f c db).1, audited (f c db).2 t)) : Commutes
    (dbCall f) := by
  intro w t
  have hfst := congrArg Prod.fst (hf (World.ctx w) w.db t)
  have hsnd := congrArg (fun x => World.afterCall w x.2) (hf (World.ctx w) w.db t)
  exact Prod.ext hfst hsnd

namespace Apart

variable (h : Apart m)
include h

theorem insertRow (db : Database) (t : Table AuditLog.id) (r : ρ) :
    m.insertRow (audited db t) r =
      (m.insertRow db r).map fun db' => audited db' t := by
  have hlinks : (m.links r).all (Link.holds (audited db t)) =
      (m.links r).all (Link.holds db) :=
    congrArg (m.links r).all (funext (holds_auditLogs db t))
  unfold Model.insertRow
  rw [h.get, hlinks]
  split_ifs
  · rfl
  · rcases (m.get db).insert r with _ | t'
    · rfl
    · simp only [h.set]
      rfl
  · rfl

theorem updateRow (db : Database) (t : Table AuditLog.id) (now : Time) (k : String) (f : ρ → ρ)
    (hf : ∀ r, key (f r) = key r) : m.updateRow (audited db t) now k f hf =
      (m.updateRow db now k f hf).map fun r => (r.1, audited r.2 t) := by
  unfold Model.updateRow
  rw [h.get]
  rcases (m.get db).find k with _ | r
  · rfl
  · simp only [holds_auditLogs, h.set]
    split_ifs <;> rfl

theorem create (mk : String → Time → ρ) : Commutes (Prisma.create m mk) := by
  refine commutes_dbCall fun c db t => ?_
  simp only [h.insertRow]
  rcases m.insertRow db (mk (c.uuid 0) c.now) with e | db' <;> rfl

theorem update (k : String) (f : ρ → ρ) (hf : ∀ r, key (f r) = key r) :
    Commutes (Prisma.update m k f hf) := by
  refine commutes_dbCall fun c db t => ?_
  simp only [h.updateRow]
  rcases m.updateRow db c.now k f hf with e | ⟨r, db'⟩ <;> rfl

theorem upsert (p : ρ → Bool) (f : ρ → ρ) (mk : String → Time → ρ)
    (hf : ∀ r, key (f r) = key r) : Commutes (Prisma.upsert m p f mk hf) := by
  refine commutes_dbCall fun c db t => ?_
  simp only [h.insertRow, h.updateRow, h.get]
  rcases (m.get db).rows.find? p with _ | r
  · rcases m.insertRow db (mk (c.uuid 0) c.now) with e | db' <;> rfl
  · rcases hr : m.updateRow db c.now (key r) f hf with e | ⟨r', db'⟩ <;> simp only [hr] <;> rfl

theorem delete (k : String) : Commutes (Prisma.delete m k) := by
  refine commutes_dbCall fun c db t => ?_
  simp only [h.get, h.set, h.onDelete]
  rcases (m.get db).find k with _ | r <;> rfl

theorem findUniqueBy (p : ρ → Bool) : Commutes (Prisma.findUniqueBy m p) := by
  unfold Prisma.findUniqueBy query
  refine commutes_dbCall fun c db t => ?_
  simp only [h.get]

end Apart

/-- The pending writes of the transaction leave the audit log alone and do not look at it. -/
def TxApart (s : TxWorld) : Prop :=
  ∀ f ∈ s.log, ∀ db t, f (audited db t) = audited (f db) t

theorem TxApart.foldl {log : List (Database → Database)}
    (h : ∀ f ∈ log, ∀ db t, f (audited db t) = audited (f db) t) :
    ∀ db t, log.foldl (fun db f => f db) (audited db t) =
      audited (log.foldl (fun db f => f db) db) t := by
  induction log with
  | nil => exact fun _ _ => rfl
  | cons f log ih =>
    intro db t
    simp only [List.foldl_cons]
    rw [h f (by simp), ih fun g hg => h g (by simp [hg])]

theorem TxApart.view_auditLogs {s : TxWorld} (h : TxApart s) :
    s.view.auditLogs = s.base.db.auditLogs := by
  have hlogs := congrArg Database.auditLogs (TxApart.foldl h s.base.db s.base.db.auditLogs)
  exact hlogs

/-- Inside its transaction `q` does what `p` does directly, and past it writes only to the audit
log. -/
def Mirrors (p : Api α) (q : Prog TxWorld Err α) : Prop := ∀ t, TxApart t →
  (q.run t).1 = (p.run t.inside).1 ∧ (q.run t).2.inside = (p.run t.inside).2 ∧
  TxApart (q.run t).2 ∧ ∃ logs, (q.run t).2.base.db = audited t.base.db logs

theorem Mirrors.viaTx {p : Api α} (h : Commutes p) : Mirrors p (viaTx p) := by
  intro t ht
  obtain ⟨t', hrun, hin, hbase⟩ := run_viaTx (p := p) (s := t) (Prod.ext rfl rfl)
  rw [hrun]
  refine ⟨rfl, hin, ?_, t.base.db.auditLogs, hbase⟩
  have hlog : t'.log = t.log ++ [fun db => (p.run { t.base with db := db }).2.db] :=
    congrArg (fun x => x.2.log) hrun.symm
  intro f hf db logs
  rw [hlog] at hf
  rcases List.mem_append.mp hf with hf | hf
  · exact ht f hf db logs
  · obtain rfl := List.mem_singleton.mp hf
    exact congrArg (fun x => x.2.db) (h { t.base with db := db } logs)

theorem run_viaTx_apart {p : Api α} (hp : Commutes p) {t : TxWorld} (ht : TxApart t)
    {r : Except Err α} {w' : World} (h : p.run t.inside = (r, w')) :
    ∃ t', (viaTx p).run t = (r, t') ∧ t'.inside = w' ∧ t'.base.db = t.base.db ∧ TxApart t' := by
  obtain ⟨t', hrun, hin, hbase⟩ := run_viaTx h
  have hapart := (Mirrors.viaTx hp t ht).2.2.1
  rw [hrun] at hapart
  exact ⟨t', hrun, hin, hbase, hapart⟩

/-- A call that has nothing to do with the database. -/
theorem Mirrors.viaPlain {p : Api α}
    (h : ∀ w db, p.run { w with db := db } = ((p.run w).1, { (p.run w).2 with db := db }))
    (hdb : ∀ w, (p.run w).2.db = w.db) : Mirrors p (viaPlain p) := by
  intro t ht
  have hin : p.run t.inside = ((p.run t.base).1, { (p.run t.base).2 with db := t.view }) :=
    h t.base t.view
  rw [run_viaPlain, hin]
  refine ⟨rfl, ?_, ht, t.base.db.auditLogs, hdb t.base⟩
  simp only [TxWorld.inside, TxWorld.view, hdb]

theorem Mirrors.pure (a : α) : Mirrors (pure a) (pure a) :=
  fun t ht => ⟨rfl, rfl, ht, t.base.db.auditLogs, rfl⟩

theorem Mirrors.bind {p : Api α} {q : Prog TxWorld Err α} {f : α → Api β}
    {g : α → Prog TxWorld Err β} (hp : Mirrors p q) (hf : ∀ a, Mirrors (f a) (g a)) :
    Mirrors (p >>= f) (q >>= g) := by
  intro t ht
  obtain ⟨hres, hin, hapart, logs, hbase⟩ := hp t ht
  rw [run_bind, run_bind]
  rcases hq : q.run t with ⟨r, t'⟩
  rcases hr : p.run t.inside with ⟨r', w'⟩
  rw [hq, hr] at hres hin
  rw [hq] at hapart hbase
  cases hres
  cases hin
  rcases r with e | a
  · exact ⟨rfl, rfl, hapart, logs, hbase⟩
  · obtain ⟨hres', hin', hapart', logs', hbase'⟩ := hf a t' hapart
    refine ⟨hres', hin', hapart', logs', ?_⟩
    rw [hbase', show t'.base.db = _ from hbase]
    rfl

/-- What went past the transaction is the audit log of the direct run. -/
theorem Mirrors.base {p : Api α} {q : Prog TxWorld Err α} (h : Mirrors p q) {t : TxWorld}
    (ht : TxApart t) :
    (q.run t).2.base.db = audited t.base.db (p.run t.inside).2.db.auditLogs := by
  obtain ⟨-, hin, hapart, logs, hbase⟩ := h t ht
  have hlogs : (q.run t).2.base.db.auditLogs = logs := by rw [hbase]; rfl
  rw [← hin, inside_db, hapart.view_auditLogs, hlogs, hbase]

/-- **A transaction is a direct run**, unless it fails: then only the audit log may have grown. -/
theorem run_transaction_of_mirrors {p : Api α} {q : Prog TxWorld Err α} (h : Mirrors p q)
    (w : World) : ∃ r w', p.run w = (r, w') ∧
      ((∃ a, r = .ok a ∧ (transaction q).run w = (.ok a, w')) ∨
        ∃ e w'', r = .error e ∧ (transaction q).run w = (.error e, w'') ∧
          { w'' with db := w'.db } = w' ∧ w''.db = audited w.db w'.db.auditLogs) := by
  have hstart : TxApart ⟨w, []⟩ := by simp [TxApart]
  obtain ⟨hres, hin, -, -⟩ := h ⟨w, []⟩ hstart
  have hbase := h.base hstart
  rw [inside_start] at hres hin hbase
  refine ⟨(p.run w).1, (p.run w).2, rfl, ?_⟩
  rw [run_transaction]
  rcases hq : q.run ⟨w, []⟩ with ⟨e | a, t⟩ <;> rw [hq] at hres hin hbase
  · refine .inr ⟨e, t.base, hres.symm, rfl, ?_, hbase⟩
    rw [← hin]
    rfl
  · exact .inl ⟨a, hres.symm, congrArg (fun w' => (Except.ok a, w')) hin⟩

end Mirrors

/-! ### Other calls -/

theorem keeps_randomUUID {I : World → Prop} (hI : Steady I) : Keeps I randomUUID :=
  Keeps.call fun w hw => hI w hw

theorem keeps_newDate {I : World → Prop} : Keeps I newDate := Keeps.read _

theorem keeps_ignoreErrors {I : World → Prop} {p : Api Unit} (h : Keeps I p) :
    Keeps I (ignoreErrors p) := h.catchErr fun _ => Keeps.pure _

end GuardTime.Prisma
