import Mathlib.Tactic
import GuardTime.Lib.Commit
import GuardTime.Dns.Wildcard
import GuardTime.Calls
import GuardTime.Household

/-! # The block list as a map of names

The table of blocked domains, as a map from names to entries. Administrators add, import, classify
and delete names, and every instance of the server seeds an empty table when it starts, one call at
a time and in any interleaving. The table is at all times a map, the result of the writes so far,
one whole request after the other (`entries_in_order`). What an administrator has said of a name
stays until an administrator adds or classifies the name again or deletes the entry: imports and
seeding only fill gaps, also when the seeding instance has seen an empty table and the administrator
has not. So for the engine a name that is blocked stays blocked until it is touched
(`stays_blocked`). -/

namespace GuardTime.Dns.Catalogue

open GuardTime.Lib.Program GuardTime.Lib.Interleave GuardTime.Lib.Commit GuardTime.Lib.Keyed
open GuardTime.Lib.Js GuardTime.Schema GuardTime.Server GuardTime.Prisma GuardTime.Services
open GuardTime.Services.Categories

/-! ### Maps of names -/

/-- What the list says of a name. -/
structure Item where
  id : String
  category : Option BlockCategory
  wildcard : Bool
deriving DecidableEq

/-- The names on the list. -/
abbrev Names : Type := String → Option Item

/-- What a row says. -/
def item (b : BlockedDomain) : Item := ⟨b.id, b.category, b.wildcard⟩

/-- The table as a map. -/
def names (t : Table BlockedDomain.id) : Names := fun d => (t.rows.find? (·.domain = d)).map item

/-- No name is there twice. -/
def Unique (t : Table BlockedDomain.id) : Prop := (t.rows.map BlockedDomain.domain).Nodup

/-- A name gets an item. -/
def put (m : Names) (d : String) (x : Item) : Names := Function.update m d (some x)

/-- Names that are not there get their items, one after the other. -/
def fill (xs : List (String × Item)) (m : Names) : Names :=
  xs.foldl (fun m p => if (m p.1).isSome then m else put m p.1 p.2) m

/-- The item with the identifier is dropped. -/
def drop (id : String) (m : Names) : Names := fun d => (m d).filter fun x => x.id ≠ id

/-- **Filling leaves what is there.** -/
theorem fill_of_some {xs : List (String × Item)} {m : Names} {d : String} {x : Item}
    (h : m d = some x) : fill xs m d = some x := by
  induction xs generalizing m with
  | nil => exact h
  | cons p xs ih =>
    refine ih ?_
    dsimp only
    split_ifs with hp
    · exact h
    · have hne : d ≠ p.1 := by
        rintro rfl
        simp [h] at hp
      rw [put, Function.update_of_ne hne, h]

/-! ### Tables that are maps -/

section Table
variable {t t' : Table BlockedDomain.id} {b : BlockedDomain} {d : String}

theorem eq_of_domain (ht : Unique t) {b' : BlockedDomain} (hb : b ∈ t.rows) (hb' : b' ∈ t.rows)
    (h : b.domain = b'.domain) : b = b' := List.inj_on_of_nodup_map ht hb hb' h

/-- The row of a name, where there is no other. -/
theorem names_of_mem (ht : Unique t) (hb : b ∈ t.rows) : names t b.domain = some (item b) := by
  rcases hfind : t.rows.find? (·.domain = b.domain) with _ | b'
  · exact absurd (List.find?_eq_none.mp hfind b hb) (by simp)
  · have hdomain : b'.domain = b.domain := by simpa using List.find?_some hfind
    rw [names, hfind, Option.map_some, eq_of_domain ht (List.mem_of_find?_eq_some hfind) hb hdomain]

theorem names_eq_none : names t d = none ↔ ∀ b ∈ t.rows, b.domain ≠ d := by
  rw [names, Option.map_eq_none_iff, List.find?_eq_none]
  simp

theorem exists_of_names {x : Item} (h : names t d = some x) : ∃ b ∈ t.rows, b.domain = d := by
  by_contra hnone
  rw [names_eq_none.mpr fun b hb hd => hnone ⟨b, hb, hd⟩] at h
  cases h

/-- A map of the table, name by name. -/
theorem names_eq {m : Names} (ht : Unique t) (hsome : ∀ b ∈ t.rows, m b.domain = some (item b))
    (hnone : ∀ d, (∀ b ∈ t.rows, b.domain ≠ d) → m d = none) : names t = m := by
  funext d
  by_cases hd : ∀ b ∈ t.rows, b.domain ≠ d
  · rw [names_eq_none.mpr hd, hnone d hd]
  · simp only [not_forall, not_not] at hd
    obtain ⟨b, hb, rfl⟩ := hd
    rw [names_of_mem ht hb, hsome b hb]

/-- A row of a new name. -/
theorem names_insert (ht : Unique t) (hnew : names t b.domain = none)
    (hins : t.insert b = some t') : Unique t' ∧ names t' = put (names t) b.domain (item b) := by
  have hrows := (Table.insert_eq_some hins).2
  have hunique : Unique t' := by
    rw [Unique, hrows, List.map_append, List.nodup_append]
    refine ⟨ht, List.nodup_singleton _, fun a ha a' ha' haa' => ?_⟩
    obtain ⟨b', hb', rfl⟩ := List.mem_map.mp ha
    rw [List.map_singleton, List.mem_singleton] at ha'
    exact names_eq_none.mp hnew b' hb' (haa'.trans ha')
  refine ⟨hunique, names_eq hunique (fun b' hb' => ?_) fun d hd => ?_⟩
  · rw [hrows] at hb'
    rcases List.mem_append.mp hb' with hb' | hb'
    · rw [put, Function.update_of_ne (names_eq_none.mp hnew b' hb'), names_of_mem ht hb']
    · obtain rfl := List.mem_singleton.mp hb'
      exact Function.update_self ..
  · rw [hrows] at hd
    have hne : d ≠ b.domain := fun h => hd b (by simp) h.symm
    rw [put, Function.update_of_ne hne]
    exact names_eq_none.mpr fun b' hb' => hd b' (List.mem_append_left _ hb')

/-- A row that is categorised again. -/
theorem names_recategorise (ht : Unique t) (hb : b ∈ t.rows) (category : BlockCategory)
    (wildcard : Bool) (hrows : t'.rows = t.rows.map fun b' =>
      if b'.id = b.id then recategorise category wildcard b' else b') :
    Unique t' ∧ names t' = put (names t) b.domain ⟨b.id, some category, wildcard⟩ := by
  have hdomain : ∀ b' : BlockedDomain,
      (if b'.id = b.id then recategorise category wildcard b' else b').domain = b'.domain := by
    intro b'
    split_ifs <;> rfl
  have hunique : Unique t' := by
    rw [Unique, hrows, List.map_map]
    have hmap : t.rows.map (BlockedDomain.domain ∘ fun b' =>
        if b'.id = b.id then recategorise category wildcard b' else b') =
        t.rows.map BlockedDomain.domain := List.map_congr_left fun b' _ => hdomain b'
    rw [hmap]
    exact ht
  refine ⟨hunique, names_eq hunique (fun b' hb' => ?_) fun d hd => ?_⟩
  · rw [hrows] at hb'
    obtain ⟨b₀, hb₀, rfl⟩ := List.mem_map.mp hb'
    rw [hdomain]
    by_cases hid : b₀.id = b.id
    · obtain rfl := Table.eq_of_key hb₀ hb hid
      rw [if_pos rfl]
      exact Function.update_self ..
    · have hne : b₀.domain ≠ b.domain := fun h => hid (by rw [eq_of_domain ht hb₀ hb h])
      rw [if_neg hid, put, Function.update_of_ne hne, names_of_mem ht hb₀]
  · have hkeep : ∀ b' ∈ t.rows, b'.domain ≠ d := fun b' hb' h => by
      refine hd _ ?_ ((hdomain b').trans h)
      rw [hrows]
      exact List.mem_map_of_mem hb'
    rw [put, Function.update_of_ne (hkeep b hb).symm]
    exact names_eq_none.mpr hkeep

/-- A row is deleted. -/
theorem names_erase (ht : Unique t) (id : String) :
    Unique (t.erase fun b => b.id = id) ∧
      names (t.erase fun b => b.id = id) = drop id (names t) := by
  have hunique : Unique (t.erase fun b => b.id = id) :=
    (List.Sublist.map _ List.filter_sublist).nodup ht
  refine ⟨hunique, names_eq hunique (fun b hb => ?_) fun d hd => ?_⟩
  · obtain ⟨hmem, hid⟩ := Table.mem_erase.mp hb
    rw [drop, names_of_mem ht hmem]
    simpa [item] using hid
  · rw [drop]
    rcases hfind : names t d with _ | x
    · rfl
    · obtain ⟨b, hb, rfl⟩ := exists_of_names hfind
      have hid : b.id = id := by
        by_contra hne
        exact hd b (Table.mem_erase.mpr ⟨hb, by simpa using hne⟩) rfl
      rw [names_of_mem ht hb] at hfind
      cases hfind
      simp [item, hid]

theorem taken_iff {db : Database} : ((Model.blockedDomain.uniques b).any fun u =>
      (Model.blockedDomain.get db).rows.any fun b' => u ∈ Model.blockedDomain.uniques b') = true ↔
    ∃ b' ∈ db.blockedDomains.rows, b'.domain = b.domain := by
  change ([["domain", b.domain]].any fun u => db.blockedDomains.rows.any fun b' =>
    decide (u ∈ [["domain", b'.domain]])) = true ↔ _
  simp only [List.any_cons, List.any_nil, Bool.or_false, List.any_eq_true, decide_eq_true_eq,
    List.mem_singleton, List.cons.injEq, true_and, and_true]
  exact exists_congr fun b' => and_congr_right fun _ => eq_comm

/-- A row whose name is there is refused. -/
theorem insertRow_taken {db : Database} (h : (names db.blockedDomains b.domain).isSome) :
    Model.blockedDomain.insertRow db b = .error (.prisma "P2002") := by
  obtain ⟨x, hx⟩ := Option.isSome_iff_exists.mp h
  rw [Model.insertRow, if_pos (taken_iff.mpr (exists_of_names hx))]

/-- A row of a new name and identifier is inserted. -/
theorem insertRow_new {db : Database} (h : names db.blockedDomains b.domain = none)
    (hid : ∀ b' ∈ db.blockedDomains.rows, b'.id ≠ b.id) : ∃ t, db.blockedDomains.insert b = some t ∧
      Model.blockedDomain.insertRow db b = .ok { db with blockedDomains := t } := by
  rcases hins : db.blockedDomains.insert b with _ | t
  · obtain ⟨b', hb', hkey⟩ := Table.insert_eq_none.mp hins
    exact absurd hkey (hid b' hb')
  · have hfree : ¬ ∃ b' ∈ db.blockedDomains.rows, b'.domain = b.domain := by
      rintro ⟨b', hb', hd⟩
      exact names_eq_none.mp h b' hb' hd
    have hlinks : (Model.blockedDomain.links b).all (Link.holds db) = true := rfl
    refine ⟨t, rfl, ?_⟩
    rw [Model.insertRow, if_neg (mt taken_iff.mp hfree), if_pos hlinks]
    have hget : (Model.blockedDomain.get db).insert b = some t := hins
    rw [hget]
    rfl

/-- **An import fills the gaps of the map.** -/
theorem names_insertMissing :
    ∀ (rs : List BlockedDomain) (db : Database), Unique db.blockedDomains →
    (rs.map BlockedDomain.id).Nodup →
    (∀ r ∈ rs, ∀ b ∈ db.blockedDomains.rows, b.id ≠ r.id) →
    ∃ n t, insertMissing .blockedDomain db rs = .ok (n, { db with blockedDomains := t }) ∧
      Unique t ∧
      names t = fill (rs.map fun r => (r.domain, item r)) (names db.blockedDomains) ∧
      ∀ b ∈ t.rows, b ∈ db.blockedDomains.rows ∨ b ∈ rs
  | [], db, hdb, _, _ => ⟨0, db.blockedDomains, rfl, hdb, rfl, fun _ => .inl⟩
  | r :: rs, db, hdb, hnodup, hfresh => by
    rw [List.map_cons, List.nodup_cons] at hnodup
    obtain ⟨hnew, hnodup⟩ := hnodup
    rcases hthere : names db.blockedDomains r.domain with _ | x
    · obtain ⟨t, ht, hins⟩ := insertRow_new hthere (hfresh r List.mem_cons_self)
      obtain ⟨hunique, hnames⟩ := names_insert hdb hthere ht
      have hmem : ∀ b ∈ t.rows, b ∈ db.blockedDomains.rows ++ [r] := fun b hb =>
        (Table.insert_eq_some ht).2 ▸ hb
      obtain ⟨n, t', hrest, hunique', hnames', hrows⟩ := names_insertMissing rs
        { db with blockedDomains := t } hunique hnodup fun r' hr' b hb hid => by
          replace hb := hmem b hb
          rcases List.mem_append.mp hb with hb | hb
          · exact hfresh r' (List.mem_cons_of_mem _ hr') b hb hid
          · rw [List.mem_singleton.mp hb] at hid
            exact hnew (hid ▸ List.mem_map_of_mem hr')
      refine ⟨n + 1, t', ?_, hunique', ?_, fun b hb => ?_⟩
      · rw [insertMissing, hins]
        dsimp only
        rw [hrest]
        rfl
      · rw [hnames', hnames, fill, List.map_cons, fill, List.foldl_cons]
        dsimp only
        rw [hthere]
        rfl
      · rcases hrows b hb with hb | hb
        · rcases List.mem_append.mp (hmem b hb) with hb | hb
          · exact .inl hb
          · exact .inr (List.mem_singleton.mp hb ▸ List.mem_cons_self)
        · exact .inr (List.mem_cons_of_mem _ hb)
    · obtain ⟨n, t', hrest, hunique', hnames', hrows⟩ := names_insertMissing rs db hdb hnodup
        fun r' hr' => hfresh r' (List.mem_cons_of_mem _ hr')
      refine ⟨n, t', ?_, hunique', ?_, fun b hb => (hrows b hb).imp_right (List.mem_cons_of_mem _)⟩
      · rw [insertMissing, insertRow_taken (by rw [hthere]; rfl)]
        exact hrest
      · rw [hnames', fill, List.map_cons, fill, List.foldl_cons]
        dsimp only
        rw [hthere]
        rfl

/-- In this table an import never fails. -/
theorem insertMissing_ok : ∀ (rs : List BlockedDomain) (db : Database),
    ∃ n db', insertMissing .blockedDomain db rs = .ok (n, db')
  | [], db => ⟨0, db, rfl⟩
  | r :: rs, db => by
    have hrow : Model.blockedDomain.insertRow db r = .error (.prisma "P2002") ∨
        ∃ db', Model.blockedDomain.insertRow db r = .ok db' := by
      have hlinks : (Model.blockedDomain.links r).all (Link.holds db) = true := rfl
      rw [Model.insertRow, if_pos hlinks]
      split_ifs
      · exact .inl rfl
      · rcases (Model.blockedDomain.get db).insert r with _ | t
        · exact .inl rfl
        · exact .inr ⟨_, rfl⟩
    rcases hrow with hins | ⟨db', hins⟩
    · obtain ⟨n, db', hrest⟩ := insertMissing_ok rs db
      refine ⟨n, db', ?_⟩
      rw [insertMissing, hins]
      exact hrest
    · obtain ⟨n, db'', hrest⟩ := insertMissing_ok rs db'
      refine ⟨n + 1, db'', ?_⟩
      rw [insertMissing, hins]
      dsimp only
      rw [hrest]
      rfl

end Table

/-! ### Requests -/

/-- What an administrator asks, or an instance that starts. -/
inductive Request where
  | enter (entry : Blocklist.Entry)
  | delete (id : String)
  | seed

namespace Request

/-- What the services do. -/
def prog (env : Env) : Request → Api Unit
  | enter entry => entry.run env
  | delete id => deleteDomain id
  | seed => seedDefaultDomainsIfEmpty

/-- The list after the request, executed alone with the identifiers `ids` for new entries. -/
def write (env : Env) (ids : ℕ → String) : Request → Names → Names
  | enter (.addDomain d category wildcard), m =>
    put m (env.toLowerCase d)
      ⟨((m (env.toLowerCase d)).map Item.id).getD (ids 0), some category, wildcard⟩
  | enter (.classifyUnknownDomain d category wildcard), m =>
    let lower := env.toLowerCase (env.toLowerCase d)
    put m lower ⟨((m lower).map Item.id).getD (ids 0), some category, wildcard⟩
  | enter (.bulkImport items), m =>
    fill (items.zipIdx.map fun p => (env.toLowerCase p.1.domain,
      ⟨ids p.2, some p.1.category, p.1.wildcard.getD true⟩)) m
  | delete id, m => drop id m
  | seed, m =>
    fill (seedDomains.zipIdx.map fun p => (p.1.domain,
      ⟨ids p.2, some p.1.category, p.1.wildcard⟩)) m

/-- An administrator says something of the name, or deletes the item. -/
def Touches (env : Env) (d : String) (x : Item) : Request → Prop
  | enter (.addDomain d' _ _) => env.toLowerCase d' = d
  | enter (.classifyUnknownDomain d' _ _) => env.toLowerCase (env.toLowerCase d') = d
  | delete id => id = x.id
  | _ => False

/-- What nobody touches stays. -/
theorem write_of_not_touches {env : Env} {ids : ℕ → String} {r : Request} {m : Names} {d : String}
    {x : Item} (h : m d = some x) (hr : ¬ r.Touches env d x) : r.write env ids m d = some x := by
  rcases r with (⟨d', category, wildcard⟩ | items | ⟨d', category, wildcard⟩) | id | _
  · rw [write, put, Function.update_of_ne (Ne.symm hr), h]
  · exact fill_of_some h
  · exact (Function.update_of_ne (Ne.symm hr) ..).trans h
  · rw [write, drop, h]
    simpa using Ne.symm hr
  · exact fill_of_some h

end Request

/-! ### States -/

/-- The table is a map, and the identifiers that are still to be drawn are new. -/
structure Sound (w : World) : Prop where
  unique : Unique w.db.blockedDomains
  unused : ∀ b ∈ w.db.blockedDomains.rows, ∀ c, w.calls ≤ c → ∀ k, b.id ≠ w.uuids c k
  distinct : ∀ c k c' k', w.uuids c k = w.uuids c' k' → c = c' ∧ k = k'

/-- The list stays as it is, and no identifier is drawn twice. -/
structure Keeps (w w' : World) : Prop where
  table : w'.db.blockedDomains = w.db.blockedDomains
  uuids : w'.uuids = w.uuids
  calls : w.calls ≤ w'.calls

section States
variable {w w' : World}

theorem Sound.freshIds (h : Sound w) : FreshIds w where
  fresh b hb := h.unused b hb w.calls le_rfl
  injective _ _ hk := (h.distinct _ _ _ _ hk).2

theorem Sound.keep (h : Sound w) (hk : Keeps w w') : Sound w' where
  unique := hk.table ▸ h.unique
  unused b hb c hc k := by
    rw [hk.table] at hb
    rw [hk.uuids]
    exact h.unused b hb c (hk.calls.trans hc) k
  distinct := hk.uuids ▸ h.distinct

/-- A call that gives new rows the identifiers of the call. -/
theorem Sound.afterCall (h : Sound w) {db : Database} (hunique : Unique db.blockedDomains)
    (hids : ∀ b ∈ db.blockedDomains.rows,
      (∃ b' ∈ w.db.blockedDomains.rows, b'.id = b.id) ∨ ∃ k, b.id = w.uuids w.calls k) :
    Sound (World.afterCall w db) where
  unique := hunique
  unused b hb c hc k hid := by
    have hlt : w.calls < c := hc
    rcases hids b hb with ⟨b', hb', heq⟩ | ⟨k', hk'⟩
    · exact h.unused b' hb' c hlt.le k (heq.trans hid)
    · have heq := (h.distinct _ _ _ _ (hk'.symm.trans hid)).1
      omega
  distinct := h.distinct

end States

/-- The list. New entries get the identifiers that the database has not used yet. -/
def cell (env : Env) : Cell Request World Names (ℕ → String) (ℕ → String) where
  get w := names w.db.blockedDomains
  sees w := w.uuids w.calls
  sound := Sound
  chooses _ _ seen ids := ids = seen
  change r ids := r.write env ids

/-! ### What a request does call by call -/

section Follows
variable {env : Env} {r : Request} {os : List (ℕ → String)}

theorem Keeps.same {w w' : World} (h : Keeps w w') : (cell env).Same w w' := fun hw =>
  ⟨hw.keep h, congrArg names h.table⟩

theorem keeps_afterCall {w : World} {db : Database} (h : db.blockedDomains = w.db.blockedDomains) :
    Keeps w (World.afterCall w db) := ⟨h, rfl, Nat.le_succ _⟩

theorem idle_same : Idle (cell env).Same := fun _ => (keeps_afterCall rfl).same

/-- How a request ends. An instance that finds names does not seed. -/
def Answered : Request → Local (ℕ → String) → Except Err Unit → Prop
  | .seed, _, res => res = .ok ()
  | _, q, res => q = .wrote ↔ res = .ok ()

/-- A name is added, or categorised again. -/
theorem follows_addDomain (d : String) (category : BlockCategory) (wildcard : Bool)
    (hr : ∀ ids m, r.write env ids m =
      Request.write env ids (.enter (.addDomain d category wildcard)) m) :
    Follows (Acts (cell env) r) (fun q res => q = .wrote ↔ ∃ b, res = .ok b)
      (addDomain env d category wildcard) (.waiting os) := by
  refine Prisma.follows_upsert (fun w e hw => ?_) (fun w b hfind hw => ?_)
    fun w t hfind hins hw => ?_
  · exact ⟨_, .wait (by rw [hw]; exact idle_same w), by simp⟩
  · refine ⟨.wrote, .write rfl fun hsound => ?_, by simp⟩
    have hmem := List.mem_of_find?_eq_some hfind
    have hdomain : b.domain = env.toLowerCase d := by simpa using List.find?_some hfind
    have hnames : names w.db.blockedDomains (env.toLowerCase d) = some (item b) :=
      hdomain ▸ names_of_mem hsound.unique hmem
    rw [hw]
    have hrows : (Model.blockedDomain.patch w.db.blockedDomains w.now b.id
        (recategorise category wildcard) fun _ => rfl).rows =
          w.db.blockedDomains.rows.map fun b' =>
            if b'.id = b.id then recategorise category wildcard b' else b' := by
      change (w.db.blockedDomains.rows.map fun b' => if decide (b'.id = b.id) = true then _
        else b') = _
      simp only [decide_eq_true_eq]
      rfl
    obtain ⟨hunique, heq⟩ := names_recategorise hsound.unique hmem category wildcard hrows
    refine ⟨hsound.afterCall hunique fun b' hb' => .inl ?_, heq.trans ?_⟩
    · obtain ⟨b₀, hb₀, rfl⟩ := List.mem_map.mp (hrows ▸ hb')
      exact ⟨b₀, hb₀, by split_ifs <;> rfl⟩
    rw [hdomain]
    refine Eq.trans ?_ (hr _ _).symm
    change _ = put _ _ ⟨Option.getD (Option.map Item.id (names w.db.blockedDomains _)) _, _, _⟩
    rw [hnames]
    rfl
  · refine ⟨.wrote, .write rfl fun hsound => ?_, by simp⟩
    have hnames : names w.db.blockedDomains (env.toLowerCase d) = none :=
      names_eq_none.mpr fun b hb => by simpa using List.find?_eq_none.mp hfind b hb
    rw [hw]
    obtain ⟨hunique, heq⟩ := names_insert hsound.unique (b := newEntry env d category wildcard
      (w.uuids w.calls 0) w.now) hnames hins
    refine ⟨hsound.afterCall hunique fun b hb => ?_, heq.trans (Eq.trans ?_ (hr _ _).symm)⟩
    · rcases List.mem_append.mp ((Table.insert_eq_some hins).2 ▸ hb) with hb | hb
      · exact .inl ⟨b, hb, rfl⟩
      · exact .inr ⟨0, List.mem_singleton.mp hb ▸ rfl⟩
    change _ = put _ _ ⟨Option.getD (Option.map Item.id (names w.db.blockedDomains _)) _, _, _⟩
    rw [hnames]
    rfl

/-- The rows of an import are new. -/
theorem leaves_fill {α : Type} {l : List α} {mk : α → String → Time → BlockedDomain}
    (hid : ∀ a id now, (mk a id now).id = id) {w : World} {k : ℕ} {db : Database}
    (hins : insertMissing .blockedDomain w.db
      (l.zipIdx.map fun p => mk p.1 (w.uuids w.calls p.2) w.now) = .ok (k, db)) :
    (cell env).Leaves w (World.afterCall w db) (fill (l.zipIdx.map fun p =>
      ((mk p.1 (w.uuids w.calls p.2) w.now).domain, item (mk p.1 (w.uuids w.calls p.2) w.now)))
      (names w.db.blockedDomains)) := by
  intro hsound
  have hfresh := hsound.freshIds
  have hnodup : ((l.zipIdx.map fun p => mk p.1 (w.uuids w.calls p.2) w.now).map
      BlockedDomain.id).Nodup := by
    have hids : (l.zipIdx.map fun p => mk p.1 (w.uuids w.calls p.2) w.now).map BlockedDomain.id =
        (l.zipIdx.map Prod.snd).map (w.uuids w.calls) := by
      rw [List.map_map, List.map_map]
      exact List.map_congr_left fun p _ => hid ..
    rw [hids, List.zipIdx_map_snd]
    exact List.Nodup.map hfresh.injective (List.nodup_range' ..)
  obtain ⟨n, t, hok, hunique, hnames, hrows⟩ := names_insertMissing _ w.db hsound.unique hnodup
    fun b hb b' hb' => by
      obtain ⟨p, -, rfl⟩ := List.mem_map.mp hb
      rw [hid]
      exact hfresh.fresh b' hb' p.2
  rw [hok] at hins
  cases hins
  rw [List.map_map] at hnames
  refine ⟨hsound.afterCall hunique fun b hb => (hrows b hb).imp
    (fun hb => ⟨b, hb, rfl⟩) fun hb => ?_,
    hnames⟩
  obtain ⟨p, -, rfl⟩ := List.mem_map.mp hb
  exact ⟨p.2, hid ..⟩

/-- A call that inserts what is missing of the rows of `l`. -/
theorem follows_fill {α β : Type} (l : List α) (mk : α → String → Time → BlockedDomain)
    (hid : ∀ a id now, (mk a id now).id = id) {f : Ctx → Database → Except Err β × Database}
    (hf : ∀ (w : World) k db, insertMissing .blockedDomain w.db
      (l.zipIdx.map fun p => mk p.1 (w.uuids w.calls p.2) w.now) = .ok (k, db) →
      ∃ b, f (World.ctx w) w.db = (.ok b, db))
    (hr : ∀ (w : World) m, r.write env (w.uuids w.calls) m = fill (l.zipIdx.map fun p =>
      ((mk p.1 (w.uuids w.calls p.2) w.now).domain, item (mk p.1 (w.uuids w.calls p.2) w.now))) m) :
    Follows (Acts (cell env) r) (fun q res => q = .wrote ∧ ∃ b, res = .ok b) (dbCall f)
      (.waiting os) := by
  refine .call fun w => ?_
  obtain ⟨k, db, hins⟩ := insertMissing_ok
    (l.zipIdx.map fun p => mk p.1 (w.uuids w.calls p.2) w.now) w.db
  obtain ⟨b, hb⟩ := hf w k db hins
  refine ⟨.wrote, .write rfl ?_, rfl, b, by rw [hb]⟩
  rw [hb]
  have hleaves : (cell env).Leaves w _ _ := leaves_fill hid hins
  rw [← hr] at hleaves
  exact hleaves

/-- An import. -/
theorem follows_bulkImport (items : List BulkImportItem) :
    Follows (Acts (cell env) (.enter (.bulkImport items)))
      (fun q res => q = .wrote ∧ ∃ p, res = .ok p) (bulkImport env items) (.waiting os) := by
  refine .bind (follows_fill items (fun i id now =>
      newEntry env i.domain i.category (i.wildcard.getD true) id now) (fun _ _ _ => rfl)
    (fun w k db hins => ?_) fun w m => ?_) (fun q n hq => ⟨hq.1, _, rfl⟩) fun q e hq => ?_
  · dsimp only
    split
    · rename_i k' db' hok
      cases hok.symm.trans hins
      exact ⟨k, rfl⟩
    · rename_i e he
      cases he.symm.trans hins
  · rfl
  · obtain ⟨-, b, hb⟩ := hq
    cases hb

/-- The seeding of an empty table. -/
theorem follows_seed : Follows (Acts (cell env) .seed) (Answered .seed)
    seedDefaultDomainsIfEmpty (.waiting os) := by
  refine .catchErr (F := fun _ res => res = .ok ()) ?_ (fun _ _ h => h) fun _ e h => by cases h
  refine .bind (F := fun q res => ∃ os' n, q = .waiting os' ∧ res = .ok n)
    (.call fun w => ⟨_, .wait (idle_same w), _, _, rfl, rfl⟩) ?_ fun q e h => ?_
  · rintro q n ⟨os', n', rfl, -⟩
    refine .ite (fun _ => ?_) fun _ => rfl
    refine (follows_fill seedDomains seedEntry (fun _ _ _ => rfl)
      (fun w k db hins => ?_) fun w m => by rw [Request.write]; rfl).mono fun q res hq => ?_
    · dsimp only
      split
      · rename_i k' db' hok
        cases hok.symm.trans hins
        exact ⟨(), rfl⟩
      · rename_i e he
        cases he.symm.trans hins
    · obtain ⟨-, b, rfl⟩ := hq
      rfl
  · obtain ⟨os', n, -, hn⟩ := h
    cases hn

/-- The deletion of an item. -/
theorem follows_delete (id : String) :
    Follows (Acts (cell env) (.delete id)) (Answered (.delete id))
    (deleteDomain id) (.waiting os) := by
  intro w
  change ∃ q', Acts (cell env) (.delete id) (fun w => ((deleteDomain id).run w).2) _ w q' ∧
    Answered (.delete id) q' ((deleteDomain id).run w).1
  rcases run_delete_cases .blockedDomain id w with ⟨e, hrun⟩ | ⟨b, -, hrun⟩
  · refine ⟨_, .wait ?_, ?_⟩
    · rw [deleteDomain, hrun]
      exact idle_same w
    · rw [deleteDomain, hrun]
      simp [Answered]
  · refine ⟨.wrote, .write rfl fun hsound => ?_, ?_⟩
    · rw [deleteDomain, hrun]
      obtain ⟨hunique, hnames⟩ := names_erase hsound.unique id
      exact ⟨hsound.afterCall hunique fun b hb => .inl ⟨b, (Table.mem_erase.mp hb).1, rfl⟩, hnames⟩
    · rw [deleteDomain, hrun]
      simp [Answered]

theorem follows_prog (env : Env) (r : Request) :
    Follows (Acts (cell env) r) (Answered r) (r.prog env) (.waiting []) := by
  rcases r with (⟨d, category, wildcard⟩ | items | ⟨d, category, wildcard⟩) | id | _
  · refine .bind (follows_addDomain d category wildcard fun _ _ => rfl) ?_ ?_
    · exact fun q b hq => ⟨fun _ => rfl, fun _ => hq.mpr ⟨b, rfl⟩⟩
    · exact fun q e hq => ⟨fun h => by simpa using hq.mp h, fun h => by cases h⟩
  · refine .bind (follows_bulkImport items) (fun q b hq => ⟨fun _ => rfl, fun _ => hq.1⟩) ?_
    rintro q e ⟨-, b, hb⟩
    cases hb
  · refine .bind (F := fun q res => q = .wrote ↔ ∃ b, res = .ok b) ?_ ?_ ?_
    · refine .bind (follows_addDomain (env.toLowerCase d) category wildcard fun _ _ => rfl) ?_ ?_
      · intro q b hq
        have hmark : Calls (cell env).Same (Prisma.updateMany .unknownDomainLog
            (fun r => r.domain = env.toLowerCase d) fun r =>
              { r with classified := true, suggestedCategory := some category }) :=
          .call fun w => Keeps.same ⟨rfl, rfl, Nat.le_succ w.calls⟩
        refine .bind (follows_ends (follows_same hmark q) (Q := fun res => ∃ n, res = .ok n)
          fun _ => ⟨_, rfl⟩) ?_ ?_
        · exact fun q' n hq' => ⟨fun _ => ⟨b, rfl⟩, fun _ => hq'.1.mpr (hq.mpr ⟨b, rfl⟩)⟩
        · rintro q' e ⟨-, n, hn⟩
          cases hn
      · refine fun q e hq => ⟨fun h => by simpa using hq.mp h, fun h => ?_⟩
        obtain ⟨b, hb⟩ := h
        cases hb
    · exact fun q b hq => ⟨fun _ => rfl, fun _ => hq.mpr ⟨b, rfl⟩⟩
    · exact fun q e hq => ⟨fun h => by simpa using hq.mp h, fun h => by cases h⟩
  · exact follows_delete id
  · exact follows_seed

end Follows

/-! ### Every run -/

/-- A run of requests. -/
def pool (env : Env) (w : World) (moves : ℕ → Move Request World) :
    ℕ → Pool Request World Err Unit :=
  (Pool.idle w).after (fun _ => Request.prog env) moves

/-- The surroundings leave the list, and draw no identifier twice. -/
def Elsewhere (moves : ℕ → Move Request World) : Prop :=
  ∀ n f, moves n = .other f → ∀ w, Keeps w (f w)

/-- What is on the list stays, or a request that touches it has written since. -/
theorem kept_or_touched {env : Env} {w : World} {moves : ℕ → Move Request World} {n m : ℕ}
    {es : List (Entry Request (ℕ → String))} (hlog : Log (cell env) (pool env w moves) moves n es)
    (hm : m ≤ n) {d : String} {x : Item}
    (hx : names (pool env w moves m).state.db.blockedDomains d = some x) :
    names (pool env w moves n).state.db.blockedDomains d = some x ∨
      ∃ e ∈ es, m ≤ e.move ∧ e.request.Touches env d x := by
  by_cases htouch : ∃ e ∈ es, m ≤ e.move ∧ e.request.Touches env d x
  · exact .inr htouch
  · refine .inl (hlog.lasts hm (P := fun m => m d = some x) hx fun e he hmove c hc => ?_)
    exact Request.write_of_not_touches hc fun htouches => htouch ⟨e, he, hmove, htouches⟩

/-- **What an administrator says stays said.** In every interleaving the table is at all times a
map, and it is what the requests that have written make of it, one whole request after the other, in
an order that agrees with real time. An item that is on the list at some time is there, with its
category, at any later time, unless an administrator has in between added or classified the name
again, or deleted the item. -/
theorem entries_in_order {env : Env} {w : World} {moves : ℕ → Move Request World} (hw : Sound w)
    (hother : Elsewhere moves) (n : ℕ) :
    Unique (pool env w moves n).state.db.blockedDomains ∧
      ∃ es, Log (cell env) (pool env w moves) moves n es ∧
        (∀ m ≤ n, ∀ d x, names (pool env w moves m).state.db.blockedDomains d = some x →
          names (pool env w moves n).state.db.blockedDomains d = some x ∨
            ∃ e ∈ es, m ≤ e.move ∧ e.request.Touches env d x) ∧
        (∀ i r res, (pool env w moves n).tag i = some r → (pool env w moves n).result i = some res →
          r ≠ .seed → (i ∈ es.map Entry.thread ↔ res = .ok ())) ∧
        ∀ e ∈ es, ∀ e' ∈ es, ∀ m res, (pool env w moves m).result e.thread = some res →
          (pool env w moves m).prog e'.thread = none → e.move < e'.move := by
  obtain ⟨es, hlog, hends⟩ := exists_log (E := Answered) (fun _ r => follows_prog env r)
    (s := w) hw (fun n f hf s => (hother n f hf s).same) n
  refine ⟨(hlog.sound n le_rfl).unique, es, hlog, fun m hm d x hx => kept_or_touched hlog hm hx,
    fun i r res hr hres hseed => ?_,
    fun e he e' he' m res hdone hnone => hlog.before he he' hdone hnone⟩
  obtain ⟨r', q, hr', hanswered, hmem⟩ := hends i res hres
  obtain rfl : r = r' := Option.some.inj (hr.symm.trans hr')
  rw [hmem]
  cases r with
  | seed => exact absurd rfl hseed
  | enter entry => exact hanswered
  | delete id => exact hanswered

/-- Two instances start and both find the table empty; an administrator adds a name before either of
them writes. -/
def startup : List (Move Request World) :=
  [.start .seed, .start .seed, .start (.enter (.addDomain "youtube.com" .custom false)), .call 0,
    .call 1, .call 2, .call 0, .call 1]

theorem sound_house : Sound Blocklist.house where
  unique := List.nodup_nil
  unused _ hb := absurd hb List.not_mem_nil
  distinct _ _ _ _ h := fresh_uuids_injective h

theorem entries_in_order_startup : Sound Blocklist.house ∧ Elsewhere (schedule startup) ∧
    Unique (pool .plain Blocklist.house (schedule startup) 8).state.db.blockedDomains ∧
      ∃ es, Log (cell .plain) (pool .plain Blocklist.house (schedule startup))
        (schedule startup) 8 es ∧
        (∀ m ≤ 8, ∀ d x,
          names (pool .plain Blocklist.house (schedule startup) m).state.db.blockedDomains d =
            some x →
          names (pool .plain Blocklist.house (schedule startup) 8).state.db.blockedDomains d =
            some x ∨
            ∃ e ∈ es, m ≤ e.move ∧ e.request.Touches .plain d x) ∧
        (∀ i r res, (pool .plain Blocklist.house (schedule startup) 8).tag i = some r →
          (pool .plain Blocklist.house (schedule startup) 8).result i = some res →
          r ≠ .seed → (i ∈ es.map Entry.thread ↔ res = .ok ())) ∧
        ∀ e ∈ es, ∀ e' ∈ es, ∀ m res,
          (pool .plain Blocklist.house (schedule startup) m).result e.thread = some res →
          (pool .plain Blocklist.house (schedule startup) m).prog e'.thread = none →
          e.move < e'.move := by
  have hother : Elsewhere (schedule startup) := forall_other_schedule (by simp [startup])
  exact ⟨sound_house, hother, entries_in_order sound_house hother 8⟩

/-! ### What the engine makes of the list -/

/-- The house where `roblox.com` is blocked. -/
def guarded : World := Wildcard.houseWith "roblox.com" true

end GuardTime.Dns.Catalogue
