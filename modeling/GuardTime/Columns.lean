import Mathlib.Tactic
import GuardTime.Models

/-! # Databases that differ in one column

Two worlds that are the same but for the values of one column of one table. A program that never
looks at the column gives the same answer in both, and leaves worlds that again differ in the column
only. Each call of the client is treated once:

* `Apart`: tables that are not the one with the column; calls on these respect the difference;
* `respectsTo_update`, `respects_create`, ...: calls on the table itself, which answer with rows
  that agree outside the column. -/

namespace GuardTime.Columns

open GuardTime.Lib.Program GuardTime.Lib.Js GuardTime.Lib.Keyed GuardTime.Schema GuardTime.Server
open GuardTime.Prisma

variable {ρ : Type} {key : ρ → String} {m : Model key}

/-- A column of a table, given by rows that do not show it. No foreign key refers to it. -/
structure Column (m : Model key) where
  hide : ρ → ρ
  hide_hide : ∀ r, hide (hide r) = hide r := by intros; rfl
  key_hide : ∀ r, key (hide r) = key r := by intros; rfl
  get_set : ∀ db t, m.get (m.set db t) = t := by intros; rfl
  set_set : ∀ db t t', m.set (m.set db t) t' = m.set db t' := by intros; rfl
  holds : ∀ (l : Link) (db : Database) (t t' : Table key), t.rows.map hide = t'.rows.map hide →
    l.holds (m.set db t) = l.holds (m.set db t')

/-- Two tables that are not the same. -/
structure Apart (m : Model key) {ρ₂ : Type} {key₂ : ρ₂ → String} (m₂ : Model key₂) : Prop where
  get : ∀ db t, m₂.get (m.set db t) = m₂.get db := by intros; rfl
  set : ∀ db t t₂, m₂.set (m.set db t) t₂ = m.set (m₂.set db t₂) t := by intros; rfl

namespace Column

variable (c : Column m)

/-- The tables agree outside the column. -/
def Same (t t' : Table key) : Prop := t.rows.map c.hide = t'.rows.map c.hide

/-- The worlds agree outside the column. -/
def Differ (w w' : World) : Prop :=
  ∃ db t t', c.Same t t' ∧ w.db = m.set db t ∧ w' = { w with db := m.set db t' }

variable {c}

/-! ### Tables that agree outside the column -/

section Same
variable {t t' : Table key}

theorem Same.filter (h : c.Same t t') {p : ρ → Bool} (hp : ∀ r, p (c.hide r) = p r) :
    (t.rows.filter p).map c.hide = (t'.rows.filter p).map c.hide := by
  have hcomp : p ∘ c.hide = p := funext hp
  have hmap : ∀ l : List ρ, (l.filter p).map c.hide = (l.map c.hide).filter p := fun l => by
    rw [List.filter_map, hcomp]
  rw [hmap, hmap, h]

theorem Same.findP (h : c.Same t t') {p : ρ → Bool} (hp : ∀ r, p (c.hide r) = p r) :
    (t.rows.find? p).map c.hide = (t'.rows.find? p).map c.hide := by
  have hcomp : p ∘ c.hide = p := funext hp
  have hmap : ∀ l : List ρ, (l.find? p).map c.hide = (l.map c.hide).find? p := fun l => by
    rw [List.find?_map, hcomp]
  rw [hmap, hmap, h]

theorem Same.find (h : c.Same t t') (k : String) :
    (t.find k).map c.hide = (t'.find k).map c.hide :=
  h.findP fun r => by rw [c.key_hide]

theorem Same.map (h : c.Same t t') {α : Type} {f : ρ → α} (hf : ∀ r, f (c.hide r) = f r) :
    t.rows.map f = t'.rows.map f := by
  have hmap : ∀ l : List ρ, (l.map c.hide).map f = l.map f := fun l => by
    rw [List.map_map]
    exact List.map_congr_left fun r _ => hf r
  rw [← hmap, ← hmap t'.rows, h]

theorem Same.any (h : c.Same t t') {p : ρ → Bool} (hp : ∀ r, p (c.hide r) = p r) :
    t.rows.any p = t'.rows.any p := by
  have hmap : ∀ l : List ρ, l.any p = (l.map p).any id := fun l => by rw [List.any_map]; rfl
  rw [hmap, hmap t'.rows, h.map hp]

theorem Same.modify (h : c.Same t t') {p : ρ → Bool} {f : ρ → ρ} {hf : ∀ r, key (f r) = key r}
    (hp : ∀ r, p (c.hide r) = p r) (hhide : ∀ r, c.hide (f (c.hide r)) = c.hide (f r)) :
    c.Same (t.modify p f hf) (t'.modify p f hf) := by
  change (t.rows.map _).map _ = (t'.rows.map _).map _
  rw [List.map_map, List.map_map]
  refine h.map fun r => ?_
  simp only [Function.comp, hp]
  split_ifs
  · exact hhide r
  · exact c.hide_hide r

theorem Same.erase (h : c.Same t t') {p : ρ → Bool} (hp : ∀ r, p (c.hide r) = p r) :
    c.Same (t.erase p) (t'.erase p) := h.filter fun r => by rw [hp]

/-- Rows can be inserted in both or in neither. -/
theorem Same.insert (h : c.Same t t') (r : ρ) :
    (t.insert r = none ∧ t'.insert r = none) ∨
      ∃ t₁ t₁', t.insert r = some t₁ ∧ t'.insert r = some t₁' ∧ c.Same t₁ t₁' := by
  have hkeys : t.rows.map key = t'.rows.map key := h.map c.key_hide
  rcases ht : t.insert r with _ | t₁ <;> rcases ht' : t'.insert r with _ | t₁'
  · exact .inl ⟨rfl, rfl⟩
  · obtain ⟨r₀, hr₀, hkey⟩ := Table.insert_eq_none.mp ht
    have hmem : key r ∈ t'.rows.map key := by
      rw [← hkeys, ← hkey]
      exact List.mem_map_of_mem hr₀
    obtain ⟨r₁, hr₁, hkey₁⟩ := List.mem_map.mp hmem
    exact absurd hkey₁ ((Table.insert_eq_some ht').1 r₁ hr₁)
  · obtain ⟨r₀, hr₀, hkey⟩ := Table.insert_eq_none.mp ht'
    have hmem : key r ∈ t.rows.map key := by
      rw [hkeys, ← hkey]
      exact List.mem_map_of_mem hr₀
    obtain ⟨r₁, hr₁, hkey₁⟩ := List.mem_map.mp hmem
    exact absurd hkey₁ ((Table.insert_eq_some ht).1 r₁ hr₁)
  · refine .inr ⟨t₁, t₁', rfl, rfl, ?_⟩
    rw [Same, (Table.insert_eq_some ht).2, (Table.insert_eq_some ht').2, List.map_append,
      List.map_append, h]

theorem Same.matching (h : c.Same t t') {p : ρ → Bool} (hp : ∀ r, p (c.hide r) = p r)
    (db : Database) (n : ℕ) :
    (matching m (m.set db t) n p).map c.hide = (matching m (m.set db t') n p).map c.hide := by
  rw [Prisma.matching, Prisma.matching, map_arrange, map_arrange, c.get_set, c.get_set, h.filter hp]

end Same

/-! ### Calls -/

section Calls
variable {α γ : Type}

/-- The outcomes agree under `g`, and the databases outside the column. -/
def Step (c : Column m) (g : α → γ) (x x' : Except Err α × Database) : Prop :=
  x.1.map g = x'.1.map g ∧ ∃ db t t', c.Same t t' ∧ x.2 = m.set db t ∧ x'.2 = m.set db t'

theorem respectsTo_dbCall {g : α → γ} {f : Ctx → Database → Except Err α × Database}
    (h : ∀ ctx db t t', c.Same t t' → c.Step g (f ctx (m.set db t)) (f ctx (m.set db t'))) :
    Prog.RespectsTo g c.Differ (dbCall f) := by
  rintro w w' ⟨db, t, t', hsame, hdb, rfl⟩
  obtain ⟨hresult, db₁, t₁, t₁', hsame₁, h₁, h₁'⟩ := h (World.ctx w) db t t' hsame
  rw [run_dbCall, run_dbCall, hdb]
  refine ⟨hresult, db₁, t₁, t₁', hsame₁, h₁, ?_⟩
  change World.afterCall _ (f (World.ctx w) (m.set db t')).2 = _
  rw [h₁']
  rfl

theorem respects_dbCall {f : Ctx → Database → Except Err α × Database}
    (h : ∀ ctx db t t', c.Same t t' → c.Step id (f ctx (m.set db t)) (f ctx (m.set db t'))) :
    Prog.Respects c.Differ (dbCall f) := Prog.respects_iff.mpr (respectsTo_dbCall h)

theorem respectsTo_query {g : α → γ} {f : Database → ℕ → α}
    (h : ∀ db t t' n, c.Same t t' → g (f (m.set db t) n) = g (f (m.set db t') n)) :
    Prog.RespectsTo g c.Differ (query f) :=
  respectsTo_dbCall fun _ db t t' hs =>
    ⟨congrArg Except.ok (h db t t' _ hs), db, t, t', hs, rfl, rfl⟩

theorem respects_query {f : Database → ℕ → α}
    (h : ∀ db t t' n, c.Same t t' → f (m.set db t) n = f (m.set db t') n) :
    Prog.Respects c.Differ (query f) := Prog.respects_iff.mpr (respectsTo_query h)

/-- What is read of the world besides the database. -/
theorem respects_read {f : World → α} (h : ∀ w db, f { w with db := db } = f w) :
    Prog.Respects c.Differ (Prog.read f : Api α) := by
  refine .read ?_
  rintro w w' ⟨db, t, t', hsame, hdb, rfl⟩
  exact (h w _).symm

theorem respects_newDate : Prog.Respects c.Differ newDate := respects_read fun _ _ => rfl

/-- What is written besides the database. -/
theorem respects_call {f : World → Except Err α × World}
    (h : ∀ w db, f { w with db := db } = ((f w).1, { (f w).2 with db := db })) :
    Prog.Respects c.Differ (Prog.call f) := by
  refine .call ?_
  rintro w w' ⟨db, t, t', hsame, hdb, rfl⟩
  have hw := h w w.db
  rw [h w (m.set db t')]
  refine ⟨rfl, db, t, t', hsame, ?_, rfl⟩
  rw [← hdb]
  exact (congrArg (fun x => x.2.db) hw :)

theorem respects_randomUUID : Prog.Respects c.Differ randomUUID := respects_call fun _ _ => rfl

theorem respects_cacheSet (k : String) (v : CacheValue) (ttl : ℤ) :
    Prog.Respects c.Differ (cacheSet k v ttl) := respects_call fun _ _ => rfl

end Calls

/-! ### The other tables -/

section Apart
variable {α ρ₂ : Type} {key₂ : ρ₂ → String} {m₂ : Model key₂} {t t' : Table key}

theorem apart_insertRow (ha : Apart m m₂) (h : c.Same t t') (db : Database) (r : ρ₂) :
    (∃ e, m₂.insertRow (m.set db t) r = .error e ∧ m₂.insertRow (m.set db t') r = .error e) ∨
      ∃ db₁, m₂.insertRow (m.set db t) r = .ok (m.set db₁ t) ∧
        m₂.insertRow (m.set db t') r = .ok (m.set db₁ t') := by
  have hlinks : (m₂.links r).all (Link.holds (m.set db t)) =
      (m₂.links r).all (Link.holds (m.set db t')) := by
    congr 1
    funext l
    exact c.holds l db t t' h
  simp only [Model.insertRow, ha.get, ha.set, hlinks]
  split_ifs
  · exact .inl ⟨_, rfl, rfl⟩
  · rcases (m₂.get db).insert r with _ | t₂
    · exact .inl ⟨_, rfl, rfl⟩
    · exact .inr ⟨m₂.set db t₂, rfl, rfl⟩
  · exact .inl ⟨_, rfl, rfl⟩

theorem apart_updateRow (ha : Apart m m₂) (h : c.Same t t') (db : Database) (now : Time)
    (k : String) (f : ρ₂ → ρ₂) (hf : ∀ r, key₂ (f r) = key₂ r) :
    (∃ e, m₂.updateRow (m.set db t) now k f hf = .error e ∧
      m₂.updateRow (m.set db t') now k f hf = .error e) ∨
      ∃ r db₁, m₂.updateRow (m.set db t) now k f hf = .ok (r, m.set db₁ t) ∧
        m₂.updateRow (m.set db t') now k f hf = .ok (r, m.set db₁ t') := by
  have hlinks : ∀ l : Link, l.holds (m.set db t) = l.holds (m.set db t') := fun l =>
    c.holds l db t t' h
  simp only [Model.updateRow, ha.get, ha.set, hlinks]
  rcases (m₂.get db).find k with _ | r
  · exact .inl ⟨_, rfl, rfl⟩
  · dsimp only
    split_ifs
    · exact .inl ⟨_, rfl, rfl⟩
    · exact .inr ⟨_, _, rfl, rfl⟩
    · exact .inl ⟨_, rfl, rfl⟩

theorem respects_table (ha : Apart m m₂) (f : Table key₂ → ℕ → α) :
    Prog.Respects c.Differ (query fun db n => f (m₂.get db) n) :=
  respects_query fun db t t' n _ => by rw [ha.get, ha.get]

theorem respects_findUnique (ha : Apart m m₂) (k : String) :
    Prog.Respects c.Differ (findUnique m₂ k) := respects_table ha fun t _ => t.find k

theorem respects_findMany (ha : Apart m m₂) (p : ρ₂ → Bool) :
    Prog.Respects c.Differ (findMany m₂ p) :=
  respects_table ha fun t n => arrange n (t.rows.filter p)

theorem respects_findManyBy (ha : Apart m m₂) (p : ρ₂ → Bool) (le : ρ₂ → ρ₂ → Bool) :
    Prog.Respects c.Differ (findManyBy m₂ p le) :=
  respects_table ha fun t n => (arrange n (t.rows.filter p)).insertionSort fun r r' => le r r'

theorem respects_create (ha : Apart m m₂) (mk : String → Time → ρ₂) :
    Prog.Respects c.Differ (create m₂ mk) := by
  refine respects_dbCall fun ctx db t t' hs => ?_
  rcases apart_insertRow ha hs db (mk (ctx.uuid 0) ctx.now) with ⟨e, he, he'⟩ | ⟨db₁, hok, hok'⟩
  · rw [he, he']
    exact ⟨rfl, db, t, t', hs, rfl, rfl⟩
  · rw [hok, hok']
    exact ⟨rfl, db₁, t, t', hs, rfl, rfl⟩

theorem respects_update (ha : Apart m m₂) (k : String) (f : ρ₂ → ρ₂)
    (hf : ∀ r, key₂ (f r) = key₂ r) : Prog.Respects c.Differ (update m₂ k f hf) := by
  refine respects_dbCall fun ctx db t t' hs => ?_
  rcases apart_updateRow ha hs db ctx.now k f hf with ⟨e, he, he'⟩ | ⟨r, db₁, hok, hok'⟩
  · rw [he, he']
    exact ⟨rfl, db, t, t', hs, rfl, rfl⟩
  · rw [hok, hok']
    exact ⟨rfl, db₁, t, t', hs, rfl, rfl⟩

theorem respects_updateMany (ha : Apart m m₂) (p : ρ₂ → Bool) (f : ρ₂ → ρ₂)
    (hf : ∀ r, key₂ (f r) = key₂ r) : Prog.Respects c.Differ (updateMany m₂ p f hf) := by
  refine respects_dbCall fun ctx db t t' hs => ?_
  simp only [ha.get, ha.set]
  exact ⟨rfl, _, t, t', hs, rfl, rfl⟩

end Apart

/-! ### The table with the column -/

section Self
variable {t t' : Table key}

/-- Rows that agree outside the column have the same images under what does not show it. -/
theorem apply_eq {α : Type} {f : ρ → α} (hf : ∀ r, f (c.hide r) = f r) {r r' : ρ}
    (h : c.hide r = c.hide r') : f r = f r' := by
  rw [← hf r, h, hf]

theorem respectsTo_findUnique (k : String) :
    Prog.RespectsTo (Option.map c.hide) c.Differ (findUnique m k) :=
  respectsTo_query fun db t t' _ hs => by
    rw [c.get_set, c.get_set]
    exact hs.find k

theorem respectsTo_findUniqueBy {p : ρ → Bool} (hp : ∀ r, p (c.hide r) = p r) :
    Prog.RespectsTo (Option.map c.hide) c.Differ (findUniqueBy m p) :=
  respectsTo_query fun db t t' _ hs => by
    rw [c.get_set, c.get_set]
    exact hs.findP hp

theorem respectsTo_findFirst {p : ρ → Bool} (hp : ∀ r, p (c.hide r) = p r) :
    Prog.RespectsTo (Option.map c.hide) c.Differ (findFirst m p) :=
  respectsTo_query fun db _ _ n hs => by
    rw [← List.head?_map, ← List.head?_map, hs.matching hp db n]

/-- An update that looks neither at the column nor at a unique one. -/
theorem Same.updateRow (h : c.Same t t') {f : ρ → ρ} (hf : ∀ r, key (f r) = key r)
    (hhide : ∀ now r, c.hide (m.touch now (f (c.hide r))) = c.hide (m.touch now (f r)))
    (hu : ∀ r, m.uniques (f r) = m.uniques r) (hl : ∀ r, m.links (c.hide r) = m.links r)
    (hlf : ∀ r, m.links (f (c.hide r)) = m.links (f r)) (db : Database) (now : Time) (k : String) :
    (∃ e, m.updateRow (m.set db t) now k f hf = .error e ∧
      m.updateRow (m.set db t') now k f hf = .error e) ∨
      ∃ r r' t₁ t₁', m.updateRow (m.set db t) now k f hf = .ok (r, m.set db t₁) ∧
        m.updateRow (m.set db t') now k f hf = .ok (r', m.set db t₁') ∧ c.hide r = c.hide r' ∧
        c.Same t₁ t₁' := by
  have hfind := h.find k
  have hunique : ∀ (r : ρ) (q : List String → Prop) [DecidablePred q],
      ((m.uniques (f r)).any fun u => decide (u ∉ m.uniques r ∧ q u)) = false := by
    intro r q _
    rw [List.any_eq_false]
    intro u hmem
    rw [hu] at hmem
    simp [hmem]
  simp only [Model.updateRow, c.get_set, c.set_set]
  rcases hr : t.find k with _ | r <;> rcases hr' : t'.find k with _ | r' <;>
    rw [hr, hr'] at hfind <;> simp only [Option.map_some, Option.map_none, reduceCtorEq,
      Option.some.injEq] at hfind
  · exact .inl ⟨_, rfl, rfl⟩
  · have hlinks : ((m.links (f r)).all fun l =>
      decide (l ∈ m.links r ∨ l.holds (m.set db t) = true)) =
        (m.links (f r')).all fun l => decide (l ∈ m.links r' ∨ l.holds (m.set db t') = true) := by
      have hafter : m.links (f r) = m.links (f r') :=
        apply_eq (f := fun r => m.links (f r)) hlf hfind
      rw [hafter, apply_eq hl hfind]
      simp only [c.holds _ db t t' h]
    simp only [hunique, Bool.false_eq_true, if_false, hlinks]
    split_ifs
    · refine .inr ⟨_, _, _, _, rfl, rfl,
        apply_eq (f := fun r => c.hide (m.touch now (f r))) (hhide now) hfind, ?_⟩
      exact h.modify (fun r => by rw [c.key_hide]) (hhide now)
    · exact .inl ⟨_, rfl, rfl⟩

theorem respectsTo_update {f : ρ → ρ} {hf : ∀ r, key (f r) = key r}
    (hhide : ∀ now r, c.hide (m.touch now (f (c.hide r))) = c.hide (m.touch now (f r)))
    (hu : ∀ r, m.uniques (f r) = m.uniques r) (hl : ∀ r, m.links (c.hide r) = m.links r)
    (hlf : ∀ r, m.links (f (c.hide r)) = m.links (f r)) (k : String) :
    Prog.RespectsTo c.hide c.Differ (update m k f hf) := by
  refine respectsTo_dbCall fun ctx db t t' hs => ?_
  rcases hs.updateRow hf hhide hu hl hlf db ctx.now k with
    ⟨e, he, he'⟩ | ⟨r, r', t₁, t₁', hok, hok', hrow, hs₁⟩
  · rw [he, he']
    exact ⟨rfl, db, t, t', hs, rfl, rfl⟩
  · rw [hok, hok']
    exact ⟨congrArg Except.ok hrow, db, t₁, t₁', hs₁, rfl, rfl⟩

/-- A row whose unique columns are not the hidden one. -/
theorem Same.insertRow (h : c.Same t t') {r : ρ}
    (hu : ∀ u ∈ m.uniques r, ∀ r₀, u ∈ m.uniques (c.hide r₀) ↔ u ∈ m.uniques r₀) (db : Database) :
    (∃ e, m.insertRow (m.set db t) r = .error e ∧ m.insertRow (m.set db t') r = .error e) ∨
      ∃ t₁ t₁', m.insertRow (m.set db t) r = .ok (m.set db t₁) ∧
        m.insertRow (m.set db t') r = .ok (m.set db t₁') ∧ c.Same t₁ t₁' := by
  have hlinks : (m.links r).all (Link.holds (m.set db t)) =
      (m.links r).all (Link.holds (m.set db t')) := by
    congr 1
    funext l
    exact c.holds l db t t' h
  have hunique : ((m.uniques r).any fun u => t.rows.any fun r' => decide (u ∈ m.uniques r')) =
      (m.uniques r).any fun u => t'.rows.any fun r' => decide (u ∈ m.uniques r') := by
    rw [Bool.eq_iff_iff, List.any_eq_true, List.any_eq_true]
    refine exists_congr fun u => and_congr_right fun hmem => ?_
    rw [h.any fun r₀ => by simp only [hu u hmem r₀]]
  simp only [Model.insertRow, c.get_set, c.set_set, hlinks, hunique]
  split_ifs
  · exact .inl ⟨_, rfl, rfl⟩
  · rcases h.insert r with ⟨hn, hn'⟩ | ⟨t₁, t₁', ht, ht', hs⟩
    · rw [hn, hn']
      exact .inl ⟨_, rfl, rfl⟩
    · rw [ht, ht']
      exact .inr ⟨t₁, t₁', rfl, rfl, hs⟩
  · exact .inl ⟨_, rfl, rfl⟩

theorem respects_createSelf {mk : String → Time → ρ}
    (hu : ∀ id now, ∀ u ∈ m.uniques (mk id now), ∀ r₀,
      u ∈ m.uniques (c.hide r₀) ↔ u ∈ m.uniques r₀) : Prog.Respects c.Differ (create m mk) := by
  refine respects_dbCall fun ctx db t t' hs => ?_
  rcases hs.insertRow (hu (ctx.uuid 0) ctx.now) db with ⟨e, he, he'⟩ | ⟨t₁, t₁', hok, hok', hs₁⟩
  · rw [he, he']
    exact ⟨rfl, db, t, t', hs, rfl, rfl⟩
  · rw [hok, hok']
    exact ⟨rfl, db, t₁, t₁', hs₁, rfl, rfl⟩

theorem respectsTo_upsert {p : ρ → Bool} {f : ρ → ρ} {mk : String → Time → ρ}
    {hf : ∀ r, key (f r) = key r} (hp : ∀ r, p (c.hide r) = p r)
    (hhide : ∀ now r, c.hide (m.touch now (f (c.hide r))) = c.hide (m.touch now (f r)))
    (hu : ∀ r, m.uniques (f r) = m.uniques r) (hl : ∀ r, m.links (c.hide r) = m.links r)
    (hlf : ∀ r, m.links (f (c.hide r)) = m.links (f r))
    (hmk : ∀ id now, ∀ u ∈ m.uniques (mk id now), ∀ r₀,
      u ∈ m.uniques (c.hide r₀) ↔ u ∈ m.uniques r₀) :
    Prog.RespectsTo c.hide c.Differ (upsert m p f mk hf) := by
  refine respectsTo_dbCall fun ctx db t t' hs => ?_
  have hfind := hs.findP hp
  simp only [c.get_set]
  rcases hr : t.rows.find? p with _ | r <;> rcases hr' : t'.rows.find? p with _ | r' <;>
    rw [hr, hr'] at hfind <;> simp only [Option.map_some, Option.map_none, reduceCtorEq,
      Option.some.injEq] at hfind
  · rcases hs.insertRow (hmk (ctx.uuid 0) ctx.now) db with ⟨e, he, he'⟩ | ⟨t₁, t₁', hok, hok', hs₁⟩
    · simp only [he, he']
      exact ⟨rfl, db, t, t', hs, rfl, rfl⟩
    · simp only [hok, hok']
      exact ⟨rfl, db, t₁, t₁', hs₁, rfl, rfl⟩
  · have hkey : key r = key r' := apply_eq c.key_hide hfind
    rcases hs.updateRow hf hhide hu hl hlf db ctx.now (key r') with
      ⟨e, he, he'⟩ | ⟨r₁, r₁', t₁, t₁', hok, hok', hrow, hs₁⟩
    · simp only [hkey, he, he']
      exact ⟨rfl, db, t, t', hs, rfl, rfl⟩
    · simp only [hkey, hok, hok']
      exact ⟨congrArg Except.ok hrow, db, t₁, t₁', hs₁, rfl, rfl⟩

/-- A deletion whose referential actions do not look at the table. -/
theorem respects_deleteSelf (hd : ∀ k db t, m.onDelete k (m.set db t) = m.set (m.onDelete k db) t)
    (k : String) : Prog.Respects c.Differ (delete m k) := by
  refine respects_dbCall fun ctx db t t' hs => ?_
  have hfind := hs.find k
  simp only [c.get_set, c.set_set, hd]
  rcases hr : t.find k with _ | r <;> rcases hr' : t'.find k with _ | r' <;>
    rw [hr, hr'] at hfind <;> simp only [Option.map_some, Option.map_none, reduceCtorEq,
      Option.some.injEq] at hfind
  · exact ⟨rfl, db, t, t', hs, rfl, rfl⟩
  · exact ⟨rfl, _, _, _, hs.erase fun r => by rw [c.key_hide], rfl, rfl⟩

end Self

end Column

end GuardTime.Columns
