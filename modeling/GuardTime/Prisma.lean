import Mathlib.Tactic
import Mathlib.Data.List.Sort
import GuardTime.Server

/-! # Database calls

Every call of the Prisma client is one atomic `dbCall`. A `Model` says where its table lives and
which constraints the database enforces on it: unique columns (error `P2002`), foreign keys
(`P2003`), and what a deletion does to the rows that refer to it. A missing row is `P2025`.

`transaction` runs a body of calls, some through the transaction's client (`viaTx`) and some past it
(`viaPlain`): when the body throws, only the latter stay. -/

namespace GuardTime.Prisma

open GuardTime.Lib.Program GuardTime.Lib.Keyed GuardTime.Lib.Js GuardTime.Schema GuardTime.Server

/-! ### The primitive call -/

/-- What a database call finds besides the database: the time, the choice for unordered answers and
fresh identifiers. -/
structure Ctx where
  now : Time
  choice : ℕ
  uuid : ℕ → String

/-- The context of the next call. -/
def World.ctx (w : World) : Ctx := ⟨w.now, w.tape w.calls, w.uuids w.calls⟩

/-- The world after a database call that left `db`. -/
def World.afterCall (w : World) (db : Database) : World := { w with db := db, calls := w.calls + 1 }

/-- One call of the client. -/
def dbCall {α : Type} (f : Ctx → Database → Except Err α × Database) : Api α :=
  Prog.call fun w => ((f (World.ctx w) w.db).1, World.afterCall w (f (World.ctx w) w.db).2)

section Run
variable {α : Type} (w : World) (db : Database)

@[simp] theorem afterCall_db : (World.afterCall w db).db = db := rfl
@[simp] theorem afterCall_cache : (World.afterCall w db).cache = w.cache := rfl
@[simp] theorem afterCall_now : (World.afterCall w db).now = w.now := rfl
@[simp] theorem afterCall_commandQueue : (World.afterCall w db).commandQueue = w.commandQueue := rfl
@[simp] theorem afterCall_tape : (World.afterCall w db).tape = w.tape := rfl
@[simp] theorem afterCall_uuids : (World.afterCall w db).uuids = w.uuids := rfl
@[simp] theorem afterCall_calls : (World.afterCall w db).calls = w.calls + 1 := rfl

theorem run_dbCall (f : Ctx → Database → Except Err α × Database) :
    (dbCall f).run w =
      ((f (World.ctx w) w.db).1, World.afterCall w (f (World.ctx w) w.db).2) := rfl

end Run

/-! ### Models -/

/-- The row a foreign key refers to. -/
inductive Link where
  | user (id : String)
  | child (id : String)
  | device (id : String)
  | gateway (id : String)
  | command (id : String)
deriving DecidableEq

/-- The row exists. -/
def Link.holds (db : Database) : Link → Bool
  | user id => (db.users.find id).isSome
  | child id => (db.children.find id).isSome
  | device id => (db.devices.find id).isSome
  | gateway id => (db.gateways.find id).isSome
  | command id => (db.commands.find id).isSome

/-- A model of the schema: its table, the values of its unique columns, its foreign keys, its
`@updatedAt` column and the referential actions on deletion. -/
structure Model {ρ : Type} (key : ρ → String) where
  get : Database → Table key
  set : Database → Table key → Database
  uniques : ρ → List (List String) := fun _ => []
  links : ρ → List Link := fun _ => []
  touch : Time → ρ → ρ := fun _ r => r
  touch_key : ∀ t r, key (touch t r) = key r := by intros; rfl
  onDelete : String → Database → Database := fun _ db => db

namespace Model

variable {ρ : Type} {key : ρ → String} (m : Model key)

/-- Insert a row, checking keys, unique columns and foreign keys. -/
def insertRow (db : Database) (r : ρ) : Except Err Database :=
  if (m.uniques r).any fun u => (m.get db).rows.any fun r' => u ∈ m.uniques r' then
    .error (.prisma "P2002")
  else if (m.links r).all (Link.holds db) then
    match (m.get db).insert r with
    | some t => .ok (m.set db t)
    | none => .error (.prisma "P2002")
  else .error (.prisma "P2003")

/-- Insert rows one after the other; all or none. -/
def insertRows (db : Database) : List ρ → Except Err Database
  | [] => .ok db
  | r :: rs => do insertRows (← m.insertRow db r) rs

/-- The table with `f` applied to the row with key `k`. -/
def patch (t : Table key) (now : Time) (k : String) (f : ρ → ρ)
    (hf : ∀ r, key (f r) = key r) : Table key :=
  t.modify (fun r => key r = k) (fun r => m.touch now (f r)) fun r => by rw [m.touch_key, hf]

/-- Update the row with key `k`, checking the unique columns and foreign keys that change. -/
def updateRow (db : Database) (now : Time) (k : String) (f : ρ → ρ)
    (hf : ∀ r, key (f r) = key r) : Except Err (ρ × Database) :=
  match (m.get db).find k with
  | none => .error (.prisma "P2025")
  | some r =>
    if (m.uniques (f r)).any fun u => u ∉ m.uniques r ∧
        (m.get db).rows.any fun r' => key r' ≠ k ∧ u ∈ m.uniques r' then
      .error (.prisma "P2002")
    else if (m.links (f r)).all fun l => l ∈ m.links r ∨ l.holds db then
      .ok (m.touch now (f r), m.set db (m.patch (m.get db) now k f hf))
    else .error (.prisma "P2003")

variable {m} {db db' : Database} {r r' : ρ} {rs : List ρ} {now : Time} {k : String} {f : ρ → ρ}
  {hf : ∀ r, key (f r) = key r}

theorem insertRow_ok (h : m.insertRow db r = .ok db') :
    (∀ l ∈ m.links r, l.holds db = true) ∧
      ∃ t, (m.get db).insert r = some t ∧ db' = m.set db t := by
  unfold insertRow at h
  split_ifs at h with h1 h2
  split at h
  · cases h
    exact ⟨by simpa using h2, _, ‹_›, rfl⟩
  · cases h

theorem updateRow_ok (h : m.updateRow db now k f hf = .ok (r', db')) :
    ∃ r, (m.get db).find k = some r ∧ r' = m.touch now (f r) ∧
      (∀ l ∈ m.links (f r), l ∈ m.links r ∨ l.holds db = true) ∧
      db' = m.set db (m.patch (m.get db) now k f hf) := by
  unfold updateRow at h
  split at h
  · cases h
  · rename_i r hr
    split_ifs at h with h1 h2
    cases h
    exact ⟨r, hr, rfl, by simpa using h2, rfl⟩

variable (m) in
/-- Why the database refuses a row: a unique value is taken, a row it refers to is missing, or its
key is taken. -/
def Refuses (db : Database) (r : ρ) : Prop :=
  (∃ u ∈ m.uniques r, ∃ r' ∈ (m.get db).rows, u ∈ m.uniques r') ∨
  (∃ l ∈ m.links r, l.holds db = false) ∨ ∃ r' ∈ (m.get db).rows, key r' = key r

theorem refuses_of_insertRow {e : Err} (h : m.insertRow db r = .error e) : m.Refuses db r := by
  unfold insertRow at h
  split_ifs at h with h1 h2
  · exact .inl (by simpa using h1)
  · split at h
    · cases h
    · exact .inr (.inr (Table.insert_eq_none.mp ‹_›))
  · exact .inr (.inl (by simpa using h2))

variable (m) in
/-- Why the database refuses an update: no such row, another row has one of its new unique values,
or a row it newly refers to is missing. -/
def RefusesUpdate (db : Database) (k : String) (f : ρ → ρ) : Prop :=
  ∀ r, (m.get db).find k = some r →
    (∃ u ∈ m.uniques (f r), u ∉ m.uniques r ∧
      ∃ r' ∈ (m.get db).rows, key r' ≠ k ∧ u ∈ m.uniques r') ∨
    ∃ l ∈ m.links (f r), l ∉ m.links r ∧ l.holds db = false

theorem refuses_of_updateRow {e : Err} (h : m.updateRow db now k f hf = .error e) :
    m.RefusesUpdate db k f := by
  intro r hr
  unfold updateRow at h
  rw [hr] at h
  simp only at h
  split_ifs at h with h1 h2
  · exact .inl (by simpa using h1)
  · exact .inr (by simpa using h2)

theorem mem_patch {t : Table key} {x : ρ} : x ∈ (m.patch t now k f hf).rows ↔
    ∃ r ∈ t.rows, x = if key r = k then m.touch now (f r) else r := by
  simp [patch, Table.mem_modify]

theorem find_patch {t : Table key} {k' : String} : (m.patch t now k f hf).find k' =
    (t.find k').map fun r => if key r = k then m.touch now (f r) else r := by
  rw [patch, Table.find_modify]
  simp

theorem find_patch_some {t : Table key} {k' : String} (h : t.find k' = some r)
    (hf : ∀ r, key (f r) = key r) :
    (m.patch t now k f hf).find k' = some (if key r = k then m.touch now (f r) else r) := by
  rw [find_patch, h]
  rfl

theorem find_patch_self {t : Table key} :
    (m.patch t now k f hf).find k = (t.find k).map fun r => m.touch now (f r) := by
  rw [find_patch]
  rcases h : t.find k with _ | r
  · rfl
  · simp [Table.key_of_find h]

/-- An update that changes neither unique columns nor foreign keys succeeds on an existing row. -/
theorem updateRow_eq (h : (m.get db).find k = some r) (hu : m.uniques (f r) = m.uniques r)
    (hl : m.links (f r) = m.links r) : m.updateRow db now k f hf =
      .ok (m.touch now (f r), m.set db (m.patch (m.get db) now k f hf)) := by
  simp +contextual [updateRow, h, hu, hl]

end Model

/-! ### The calls of the client -/

section Calls
variable {ρ α : Type} {key : ρ → String} (m : Model key)

/-- A query that only reads, with the choice for an unordered answer. -/
def query (f : Database → ℕ → α) : Api α := dbCall fun c db => (.ok (f db c.choice), db)

/-- `findUnique({ where: { id } })`. -/
def findUnique (k : String) : Api (Option ρ) := query fun db _ => (m.get db).find k

/-- `findUnique` by another unique column. -/
def findUniqueBy (p : ρ → Bool) : Api (Option ρ) := query fun db _ => (m.get db).rows.find? p

/-- The rows matching `p`, in the order the choice selects. -/
def matching (db : Database) (n : ℕ) (p : ρ → Bool) : List ρ :=
  arrange n ((m.get db).rows.filter p)

/-- `findMany({ where })`. -/
def findMany (p : ρ → Bool) : Api (List ρ) := query fun db n => matching m db n p

/-- `findMany({ where, orderBy })`; `le` is the order, ties come in any order. -/
def findManyBy (p : ρ → Bool) (le : ρ → ρ → Bool) : Api (List ρ) :=
  query fun db n => (matching m db n p).insertionSort fun r r' => le r r'

/-- `findFirst({ where })`: any matching row. -/
def findFirst (p : ρ → Bool) : Api (Option ρ) := query fun db n => (matching m db n p).head?

/-- `findFirst({ where, orderBy })`. -/
def findFirstBy (p : ρ → Bool) (le : ρ → ρ → Bool) : Api (Option ρ) :=
  query fun db n => ((matching m db n p).insertionSort fun r r' => le r r').head?

/-- `create({ data })`; `mk` builds the row from its fresh id and the time. -/
def create (mk : String → Time → ρ) : Api ρ := dbCall fun c db =>
  match m.insertRow db (mk (c.uuid 0) c.now) with
  | .ok db' => (.ok (mk (c.uuid 0) c.now), db')
  | .error e => (.error e, db)

/-- `createMany({ data })`. -/
def createMany (mks : List (String → Time → ρ)) : Api Unit := dbCall fun c db =>
  match m.insertRows db (mks.zipIdx.map fun (mk, i) => mk (c.uuid i) c.now) with
  | .ok db' => (.ok (), db')
  | .error e => (.error e, db)

/-- `update({ where: { id }, data })`. -/
def update (k : String) (f : ρ → ρ) (hf : ∀ r, key (f r) = key r := by intros; rfl) : Api ρ :=
  dbCall fun c db =>
    match m.updateRow db c.now k f hf with
    | .ok (r, db') => (.ok r, db')
    | .error e => (.error e, db)

/-- `updateMany({ where, data })`: the number of rows updated. -/
def updateMany (p : ρ → Bool) (f : ρ → ρ) (hf : ∀ r, key (f r) = key r := by intros; rfl) : Api ℕ :=
  dbCall fun c db => (.ok ((m.get db).rows.countP p),
    m.set db ((m.get db).modify p (fun r => m.touch c.now (f r)) fun r => by rw [m.touch_key, hf]))

/-- `upsert({ where, update, create })`; `p` selects by a unique column. -/
def upsert (p : ρ → Bool) (f : ρ → ρ) (mk : String → Time → ρ)
    (hf : ∀ r, key (f r) = key r := by intros; rfl) : Api ρ := dbCall fun c db =>
  match (m.get db).rows.find? p with
  | some r =>
    match m.updateRow db c.now (key r) f hf with
    | .ok (r', db') => (.ok r', db')
    | .error e => (.error e, db)
  | none =>
    match m.insertRow db (mk (c.uuid 0) c.now) with
    | .ok db' => (.ok (mk (c.uuid 0) c.now), db')
    | .error e => (.error e, db)

/-- `delete({ where: { id } })`, with the referential actions. -/
def delete (k : String) : Api Unit := dbCall fun _ db =>
  match (m.get db).find k with
  | none => (.error (.prisma "P2025"), db)
  | some _ => (.ok (), m.onDelete k (m.set db ((m.get db).erase fun r => key r = k)))

/-- `deleteMany({ where })` on a model nothing refers to. -/
def deleteMany (p : ρ → Bool) : Api Unit :=
  dbCall fun _ db => (.ok (), m.set db ((m.get db).erase p))

end Calls

section RunCalls
variable {ρ α : Type} {key : ρ → String} {m : Model key} {w : World} {k : String} {r : ρ}
  {f : ρ → ρ} {hf : ∀ r, key (f r) = key r}

@[simp] theorem run_query (f : Database → ℕ → α) (w : World) :
    (query f).run w = (.ok (f w.db (w.tape w.calls)), World.afterCall w w.db) := rfl

@[simp] theorem run_findUnique (m : Model key) (k : String) (w : World) :
    (findUnique m k).run w = (.ok ((m.get w.db).find k), World.afterCall w w.db) := rfl

theorem run_findUniqueBy (m : Model key) (p : ρ → Bool) (w : World) : (findUniqueBy m p).run w =
    (.ok ((m.get w.db).rows.find? p), World.afterCall w w.db) := rfl

theorem run_findFirst (m : Model key) (p : ρ → Bool) (w : World) : (findFirst m p).run w =
    (.ok (matching m w.db (w.tape w.calls) p).head?, World.afterCall w w.db) := rfl

theorem mem_matching {m : Model key} {db : Database} {n : ℕ} {p : ρ → Bool} {r : ρ} :
    r ∈ matching m db n p ↔ r ∈ (m.get db).rows ∧ p r = true := by
  simp [matching]

/-- The only matching row comes first. -/
theorem head_matching (m : Model key) (db : Database) (p : ρ → Bool) {r : ρ}
    (hr : r ∈ (m.get db).rows) (hp : p r = true)
    (hall : ∀ r' ∈ (m.get db).rows, p r' = true → r' = r) (n : ℕ) :
    (matching m db n p).head? = some r := by
  have hmem : r ∈ matching m db n p := mem_matching.mpr ⟨hr, hp⟩
  rcases hl : matching m db n p with _ | ⟨r', rs⟩
  · rw [hl] at hmem
    simp at hmem
  · have hr' : r' ∈ matching m db n p := by simp [hl]
    rw [mem_matching] at hr'
    rw [hall r' hr'.1 hr'.2]
    rfl

theorem run_update (h : (m.get w.db).find k = some r) (hu : m.uniques (f r) = m.uniques r)
    (hl : m.links (f r) = m.links r) : (update m k f hf).run w = (.ok (m.touch w.now (f r)),
      World.afterCall w (m.set w.db (m.patch (m.get w.db) w.now k f hf))) := by
  rw [update, run_dbCall, Model.updateRow_eq h hu hl]
  rfl

theorem run_update_none (h : (m.get w.db).find k = none) :
    (update m k f hf).run w = (.error (.prisma "P2025"), World.afterCall w w.db) := by
  rw [update, run_dbCall, Model.updateRow, h]

/-- An update either fails and writes nothing, or finds the row and writes it. -/
theorem run_update_cases (m : Model key) (k : String) (f : ρ → ρ) (hf : ∀ r, key (f r) = key r)
    (w : World) :
    (∃ e, (update m k f hf).run w = (.error e, World.afterCall w w.db)) ∨
    ∃ r, (m.get w.db).find k = some r ∧ (update m k f hf).run w = (.ok (m.touch w.now (f r)),
      World.afterCall w (m.set w.db (m.patch (m.get w.db) w.now k f hf))) := by
  rw [update, run_dbCall]
  rcases hr : m.updateRow w.db (World.ctx w).now k f hf with e | ⟨r', db'⟩
  · exact .inl ⟨e, rfl⟩
  · obtain ⟨r, hfind, rfl, -, rfl⟩ := Model.updateRow_ok hr
    exact .inr ⟨r, hfind, rfl⟩

theorem run_query_ok {f : Database → ℕ → α} {a : α} {w' : World} :
    (query f).run w = (.ok a, w') ↔
      a = f w.db (w.tape w.calls) ∧ w' = World.afterCall w w.db := by
  rw [run_query]
  simp [eq_comm]

theorem run_findUnique_ok {o : Option ρ} {w' : World} :
    (findUnique m k).run w = (.ok o, w') ↔
      o = (m.get w.db).find k ∧ w' = World.afterCall w w.db := run_query_ok

/-- A row that is looked up and passes a check; the lookup changes no row. -/
theorem run_checked_ok {c : ρ → Prop} [DecidablePred c] {e e' : Err} {w' : World}
    (h : (do
      let r ← Prog.orThrow (← findUnique m k) e
      Prog.require (c r) e'
      pure r : Api ρ).run w = (.ok r, w')) :
    (m.get w.db).find k = some r ∧ c r ∧ w'.db = w.db := by
  obtain ⟨_, _, h1, h⟩ := Prog.run_bind_ok.mp h
  obtain ⟨_, _, h2, h⟩ := Prog.run_bind_ok.mp h
  obtain ⟨_, _, h3, h⟩ := Prog.run_bind_ok.mp h
  obtain ⟨rfl, rfl⟩ := run_findUnique_ok.mp h1
  obtain ⟨hr, rfl⟩ := Prog.run_orThrow_ok.mp h2
  obtain ⟨hc, rfl⟩ := Prog.run_require_ok.mp h3
  cases h
  exact ⟨hr, hc, rfl⟩

theorem run_create_ok {mk : String → Time → ρ} {w' : World}
    (h : (create m mk).run w = (.ok r, w')) : r = mk (w.uuids w.calls 0) w.now ∧
      (∀ l ∈ m.links r, l.holds w.db = true) ∧
      ∃ t, (m.get w.db).insert r = some t ∧ w' = World.afterCall w (m.set w.db t) := by
  rw [create, run_dbCall] at h
  rcases hr : m.insertRow w.db (mk ((World.ctx w).uuid 0) (World.ctx w).now) with e | db'
  · simp [hr] at h
  · obtain ⟨hl, t, ht, rfl⟩ := Model.insertRow_ok hr
    simp only [hr, Prod.mk.injEq, Except.ok.injEq] at h
    obtain ⟨rfl, rfl⟩ := h
    exact ⟨rfl, hl, t, ht, rfl⟩

theorem run_create_error {mk : String → Time → ρ} {w' : World} {e : Err}
    (h : (create m mk).run w = (.error e, w')) : m.Refuses w.db (mk (w.uuids w.calls 0) w.now) := by
  rw [create, run_dbCall] at h
  rcases hr : m.insertRow w.db (mk ((World.ctx w).uuid 0) (World.ctx w).now) with e | db'
  · exact Model.refuses_of_insertRow hr
  · simp [hr] at h

theorem run_update_error {w' : World} {e : Err} (h : (update m k f hf).run w = (.error e, w')) :
    m.RefusesUpdate w.db k f := by
  rw [update, run_dbCall] at h
  rcases hr : m.updateRow w.db (World.ctx w).now k f hf with e | ⟨r, db'⟩
  · exact Model.refuses_of_updateRow hr
  · simp [hr] at h

/-- A creation either fails and writes nothing, or inserts the row. -/
theorem run_create_cases (m : Model key) (mk : String → Time → ρ) (w : World) :
    (∃ e, (create m mk).run w = (.error e, World.afterCall w w.db)) ∨
    ∃ t, (m.get w.db).insert (mk (w.uuids w.calls 0) w.now) = some t ∧
      (create m mk).run w =
        (.ok (mk (w.uuids w.calls 0) w.now), World.afterCall w (m.set w.db t)) := by
  rw [create, run_dbCall]
  rcases hr : m.insertRow w.db (mk ((World.ctx w).uuid 0) (World.ctx w).now) with e | db'
  · exact .inl ⟨e, rfl⟩
  · obtain ⟨-, t, ht, rfl⟩ := Model.insertRow_ok hr
    exact .inr ⟨t, ht, rfl⟩

/-- An upsert fails and writes nothing, updates a matching row, or inserts one where none
matches. -/
theorem run_upsert_cases (m : Model key) (p : ρ → Bool) (f : ρ → ρ) (mk : String → Time → ρ)
    (hf : ∀ r, key (f r) = key r) (w : World) :
    (∃ e, (upsert m p f mk hf).run w = (.error e, World.afterCall w w.db)) ∨
    (∃ r, (m.get w.db).rows.find? p = some r ∧ (upsert m p f mk hf).run w =
      (.ok (m.touch w.now (f r)),
        World.afterCall w (m.set w.db (m.patch (m.get w.db) w.now (key r) f hf)))) ∨
    ∃ t, (m.get w.db).rows.find? p = none ∧
      (m.get w.db).insert (mk (w.uuids w.calls 0) w.now) = some t ∧
      (upsert m p f mk hf).run w =
        (.ok (mk (w.uuids w.calls 0) w.now), World.afterCall w (m.set w.db t)) := by
  rw [upsert, run_dbCall]
  rcases hp : (m.get w.db).rows.find? p with _ | r
  · rcases hr : m.insertRow w.db (mk ((World.ctx w).uuid 0) (World.ctx w).now) with e | db'
    · exact .inl ⟨e, rfl⟩
    · obtain ⟨-, t, ht, rfl⟩ := Model.insertRow_ok hr
      exact .inr (.inr ⟨t, rfl, ht, rfl⟩)
  · rcases hr : m.updateRow w.db (World.ctx w).now (key r) f hf with e | ⟨r', db'⟩
    · exact .inl ⟨e, by simp only [hr]⟩
    · obtain ⟨r₀, hfind, rfl, -, rfl⟩ := Model.updateRow_ok hr
      have hkey := Table.find_key (List.mem_of_find?_eq_some hp)
      obtain rfl : r₀ = r := Option.some.inj (hfind.symm.trans hkey)
      exact .inr (.inl ⟨r₀, rfl, by simp only [hr]; rfl⟩)

/-- An upsert that finds its row and changes no unique column and no foreign key. -/
theorem run_upsert_found {p : ρ → Bool} {mk : String → Time → ρ}
    (h : (m.get w.db).rows.find? p = some r) (hu : m.uniques (f r) = m.uniques r)
    (hl : m.links (f r) = m.links r) : (upsert m p f mk hf).run w = (.ok (m.touch w.now (f r)),
      World.afterCall w (m.set w.db (m.patch (m.get w.db) w.now (key r) f hf))) := by
  have hkey := Table.find_key (List.mem_of_find?_eq_some h)
  rw [upsert, run_dbCall]
  simp only [h, Model.updateRow_eq hkey hu hl]
  rfl

theorem run_upsert_error {p : ρ → Bool} {mk : String → Time → ρ} {w' : World} {e : Err}
    (h : (upsert m p f mk hf).run w = (.error e, w')) :
    (∃ r, (m.get w.db).rows.find? p = some r ∧ m.RefusesUpdate w.db (key r) f) ∨
      (m.get w.db).rows.find? p = none ∧ m.Refuses w.db (mk (w.uuids w.calls 0) w.now) := by
  rw [upsert, run_dbCall] at h
  rcases hp : (m.get w.db).rows.find? p with _ | r <;> rw [hp] at h
  · rcases hr : m.insertRow w.db (mk ((World.ctx w).uuid 0) (World.ctx w).now) with e | db'
    · exact .inr ⟨rfl, Model.refuses_of_insertRow hr⟩
    · simp [hr] at h
  · rcases hr : m.updateRow w.db (World.ctx w).now (key r) f hf with e | ⟨r', db'⟩
    · exact .inl ⟨r, rfl, Model.refuses_of_updateRow hr⟩
    · simp [hr] at h

/-- A deletion of a model nothing refers to. -/
theorem run_delete_cases (m : Model key) (k : String) (w : World) :
    (∃ e, (delete m k).run w = (.error e, World.afterCall w w.db)) ∨
    ∃ r, (m.get w.db).find k = some r ∧ (delete m k).run w = (.ok (),
      World.afterCall w (m.onDelete k (m.set w.db ((m.get w.db).erase fun r => key r = k)))) := by
  rw [delete, run_dbCall]
  rcases hr : (m.get w.db).find k with _ | r
  · exact .inl ⟨_, rfl⟩
  · exact .inr ⟨r, rfl, rfl⟩

end RunCalls

/-! ### Errors of the client -/

/-- A coded error of the client. -/
def Err.FromPrisma (e : Err) : Prop := ∃ code, e = .prisma code

section Errors
variable {ρ α : Type} {key : ρ → String} {m : Model key}

theorem Model.insertRow_error {db : Database} {r : ρ} {e : Err}
    (h : m.insertRow db r = .error e) : Err.FromPrisma e := by
  unfold Model.insertRow at h
  split_ifs at h
  · cases h; exact ⟨_, rfl⟩
  · split at h
    · cases h
    · cases h; exact ⟨_, rfl⟩
  · cases h; exact ⟨_, rfl⟩

theorem Model.updateRow_error {db : Database} {now : Time} {k : String} {f : ρ → ρ}
    {hf : ∀ r, key (f r) = key r} {e : Err} (h : m.updateRow db now k f hf = .error e) :
    Err.FromPrisma e := by
  unfold Model.updateRow at h
  split at h
  · cases h; exact ⟨_, rfl⟩
  · split_ifs at h <;> cases h <;> exact ⟨_, rfl⟩

theorem raises_create (mk : String → Time → ρ) : Prog.Raises Err.FromPrisma (create m mk) := by
  refine .call fun w e h => ?_
  rcases hr : m.insertRow w.db (mk ((World.ctx w).uuid 0) (World.ctx w).now) with e' | db' <;>
    simp only [hr] at h <;> cases h
  exact Model.insertRow_error hr

theorem raises_update (k : String) (f : ρ → ρ) (hf : ∀ r, key (f r) = key r) :
    Prog.Raises Err.FromPrisma (update m k f hf) := by
  refine .call fun w e h => ?_
  rcases hr : m.updateRow w.db (World.ctx w).now k f hf with e' | ⟨r', db'⟩ <;>
    simp only [hr] at h <;> cases h
  exact Model.updateRow_error hr

theorem raises_upsert (p : ρ → Bool) (f : ρ → ρ) (mk : String → Time → ρ)
    (hf : ∀ r, key (f r) = key r) : Prog.Raises Err.FromPrisma (upsert m p f mk hf) := by
  refine .call fun w e h => ?_
  rcases hp : (m.get w.db).rows.find? p with _ | r
  · rcases hr : m.insertRow w.db (mk ((World.ctx w).uuid 0) (World.ctx w).now) with e' | db' <;>
      simp only [hp, hr] at h <;> cases h
    exact Model.insertRow_error hr
  · rcases hr : m.updateRow w.db (World.ctx w).now (key r) f hf with e' | ⟨r', db'⟩ <;>
      simp only [hp, hr] at h <;> cases h
    exact Model.updateRow_error hr

theorem raises_delete (k : String) : Prog.Raises Err.FromPrisma (delete m k) := by
  refine .call fun w e h => ?_
  rcases hr : (m.get w.db).find k with _ | r <;> simp only [hr] at h <;> cases h
  exact ⟨_, rfl⟩

end Errors

/-! ### Partial updates -/

/-- A field of a partial update: absent, `null`, or a value. -/
abbrev Patch (α : Type) : Type := Option (Option α)

/-- The field over a nullable column. -/
def Patch.over {α : Type} (p : Patch α) (cur : Option α) : Option α := p.getD cur

/-- The field over a column that is not nullable; `null` never gets here (`validate`). -/
def Patch.overReq {α : Type} (p : Patch α) (cur : α) : α := (p.getD none).getD cur

/-- The client refuses malformed arguments before it calls the database. -/
def validate (ok : Bool) : Api Unit := Prog.require ok (.error "PrismaClientValidationError")

/-! ### Transactions -/

/-- A world inside a transaction: the committed state and the writes still to be applied to it. -/
structure TxWorld where
  base : World
  log : List (Database → Database)

/-- What the transaction's client sees. -/
def TxWorld.view (s : TxWorld) : Database := s.log.foldl (fun db f => f db) s.base.db

/-- A call through the transaction's client. -/
def viaTx {α : Type} (p : Api α) : Prog TxWorld Err α := Prog.call fun s =>
  let r := p.run { s.base with db := s.view }
  (r.1, { base := { r.2 with db := s.base.db }
          log := s.log ++ [fun db => (p.run { s.base with db := db }).2.db] })

/-- A call past the transaction. -/
def viaPlain {α : Type} (p : Api α) : Prog TxWorld Err α := Prog.call fun s =>
  ((p.run s.base).1, { s with base := (p.run s.base).2 })

/-- `$transaction(async (tx) => ...)`, nothing else running meanwhile. -/
def transaction {α : Type} (q : Prog TxWorld Err α) : Api α := Prog.call fun w =>
  match q.run ⟨w, []⟩ with
  | (.ok a, s) => (.ok a, { s.base with db := s.view })
  | (.error e, s) => (.error e, s.base)

section Transaction
variable {α : Type} {p : Api α} {s s' : TxWorld}

theorem run_transaction (q : Prog TxWorld Err α) (w : World) :
    (transaction q).run w = match q.run ⟨w, []⟩ with
      | (.ok a, s) => (.ok a, { s.base with db := s.view })
      | (.error e, s) => (.error e, s.base) := rfl

@[simp] theorem view_start (w : World) : (⟨w, []⟩ : TxWorld).view = w.db := rfl

theorem run_viaPlain (p : Api α) (s : TxWorld) :
    (viaPlain p).run s = ((p.run s.base).1, { s with base := (p.run s.base).2 }) := rfl

theorem viaTx_base (p : Api α) (s : TxWorld) : ((viaTx p).run s).2.base =
    { (p.run { s.base with db := s.view }).2 with db := s.base.db } := rfl

/-- The transaction sees its own writes. -/
theorem viaTx_view (p : Api α) (s : TxWorld) :
    ((viaTx p).run s).2.view = (p.run { s.base with db := s.view }).2.db := by
  change List.foldl _ _ (s.log ++ [_]) = _
  rw [List.foldl_append]
  rfl

/-- The world as the transaction's client finds it. -/
def TxWorld.inside (s : TxWorld) : World := { s.base with db := s.view }

@[simp] theorem inside_start (w : World) : (⟨w, []⟩ : TxWorld).inside = w := rfl
@[simp] theorem inside_db (s : TxWorld) : s.inside.db = s.view := rfl
@[simp] theorem inside_now (s : TxWorld) : s.inside.now = s.base.now := rfl
@[simp] theorem inside_uuids (s : TxWorld) : s.inside.uuids = s.base.uuids := rfl
@[simp] theorem inside_calls (s : TxWorld) : s.inside.calls = s.base.calls := rfl

/-- A call through the transaction's client runs on what the transaction sees and leaves the
committed state alone. -/
theorem run_viaTx {r : Except Err α} {w' : World} (h : p.run s.inside = (r, w')) :
    ∃ s', (viaTx p).run s = (r, s') ∧ s'.inside = w' ∧ s'.base.db = s.base.db := by
  have hfst : ((viaTx p).run s).1 = r := congrArg Prod.fst h
  have hbase : ((viaTx p).run s).2.base = { w' with db := s.base.db } := by
    rw [viaTx_base]
    exact congrArg (fun x => { x.2 with db := s.base.db }) h
  have hview : ((viaTx p).run s).2.view = w'.db := by
    rw [viaTx_view]
    exact congrArg (fun x => x.2.db) h
  refine ⟨((viaTx p).run s).2, Prod.ext hfst rfl, ?_, ?_⟩
  · rw [TxWorld.inside, hbase, hview]
  · rw [hbase]

theorem raises_viaTx {E : Err → Prop} (h : Prog.Raises E p) : Prog.Raises E (viaTx p) :=
  .call fun _ _ he => h.of_run (Prod.ext he rfl)

theorem raises_viaPlain {E : Err → Prop} (h : Prog.Raises E p) : Prog.Raises E (viaPlain p) :=
  .call fun _ _ he => h.of_run (Prod.ext he rfl)

end Transaction

end GuardTime.Prisma
