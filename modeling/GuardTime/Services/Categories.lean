import Mathlib.Tactic
import GuardTime.Services.DnsPolicy

/-! # The global blocklist

`CategoriesService`: the three ways an administrator adds names to the table of blocked domains, and
what `classifyUnknownDomain` does to the log of unknown domains; `deleteDomain`, and the names that
every instance of the server puts into an empty table when it starts. -/

namespace GuardTime.Services.Categories

open GuardTime.Lib.Program GuardTime.Lib.Js GuardTime.Lib.Keyed GuardTime.Schema GuardTime.Server
open GuardTime.Prisma

/-- The row of a name that is new. -/
def newEntry (env : Env) (domain : String) (category : BlockCategory) (wildcard : Bool)
    (id : String) (now : Time) : BlockedDomain :=
  { id, domain := env.toLowerCase domain, category := some category, wildcard, createdAt := now }

/-- The update of a row whose name is there. -/
def recategorise (category : BlockCategory) (wildcard : Bool) (b : BlockedDomain) : BlockedDomain :=
  { b with category := some category, wildcard }

/-- `addDomain`. -/
def addDomain (env : Env) (domain : String) (category : BlockCategory) (wildcard : Bool) :
    Api BlockedDomain :=
  Prisma.upsert .blockedDomain (fun b => b.domain = env.toLowerCase domain)
    (recategorise category wildcard) (newEntry env domain category wildcard)

/-- `BulkImportItemDto`. -/
structure BulkImportItem where
  domain : String
  category : BlockCategory
  wildcard : Option Bool := none

/-- `createMany({ data, skipDuplicates: true })`: rows whose unique values are taken are left out;
the count is that of the rows written. -/
def insertMissing {ρ : Type} {key : ρ → String} (m : Model key) (db : Database) :
    List ρ → Except Err (ℕ × Database)
  | [] => .ok (0, db)
  | r :: rs =>
    match m.insertRow db r with
    | .ok db' => (insertMissing m db' rs).map fun p => (p.1 + 1, p.2)
    | .error (.prisma "P2002") => insertMissing m db rs
    | .error e => .error e

/-- `bulkImport`: the numbers of names imported and offered. -/
def bulkImport (env : Env) (items : List BulkImportItem) : Api (ℕ × ℕ) := do
  let count ← dbCall fun c db =>
    let data := items.zipIdx.map fun (i, n) =>
      newEntry env i.domain i.category (i.wildcard.getD true) (c.uuid n) c.now
    match insertMissing .blockedDomain db data with
    | .ok (count, db') => (.ok count, db')
    | .error e => (.error e, db)
  pure (count, items.length)

/-- `classifyUnknownDomain`. -/
def classifyUnknownDomain (env : Env) (domain : String) (category : BlockCategory)
    (wildcard : Bool) : Api BlockedDomain := do
  let lower := env.toLowerCase domain
  let blocked ← addDomain env lower category wildcard
  let _ ← Prisma.updateMany .unknownDomainLog (fun r => r.domain = lower)
    fun r => { r with classified := true, suggestedCategory := some category }
  pure blocked

/-- `deleteDomain`; the deleted row is not returned. -/
def deleteDomain (id : String) : Api Unit := Prisma.delete .blockedDomain id

/-! ### Seeding -/

/-- `SeedDomain`. -/
structure SeedDomain where
  domain : String
  category : BlockCategory
  wildcard : Bool
deriving DecidableEq

/-- `SEED_DOMAINS`. -/
def seedDomains : List SeedDomain :=
  [⟨"xboxlive.com", .gaming, true⟩, ⟨"xbox.com", .gaming, true⟩,
    ⟨"xboxservices.com", .gaming, true⟩, ⟨"playstation.net", .gaming, true⟩,
    ⟨"playstation.com", .gaming, true⟩, ⟨"sonyentertainmentnetwork.com", .gaming, true⟩,
    ⟨"nintendo.net", .gaming, true⟩, ⟨"nintendo.com", .gaming, true⟩,
    ⟨"nintendoswitch.com", .gaming, true⟩, ⟨"steampowered.com", .gaming, true⟩,
    ⟨"steamcommunity.com", .gaming, true⟩, ⟨"steamcontent.com", .gaming, true⟩,
    ⟨"steamstatic.com", .gaming, true⟩, ⟨"epicgames.com", .gaming, true⟩,
    ⟨"unrealengine.com", .gaming, true⟩, ⟨"fortnite.com", .gaming, true⟩,
    ⟨"roblox.com", .gaming, true⟩, ⟨"rbxcdn.com", .gaming, true⟩, ⟨"ea.com", .gaming, true⟩,
    ⟨"easports.com", .gaming, true⟩, ⟨"battle.net", .gaming, true⟩,
    ⟨"blizzard.com", .gaming, true⟩, ⟨"ubisoft.com", .gaming, true⟩, ⟨"ubi.com", .gaming, true⟩,
    ⟨"riotgames.com", .gaming, true⟩, ⟨"leagueoflegends.com", .gaming, true⟩,
    ⟨"minecraft.net", .gaming, true⟩, ⟨"mojang.com", .gaming, true⟩,
    ⟨"rockstargames.com", .gaming, true⟩, ⟨"take2games.com", .gaming, true⟩,
    ⟨"activision.com", .gaming, true⟩, ⟨"callofduty.com", .gaming, true⟩,
    ⟨"discord.com", .gaming, true⟩, ⟨"discord.gg", .gaming, true⟩, ⟨"twitch.tv", .gaming, true⟩,
    ⟨"youtube.com", .streaming, true⟩, ⟨"youtu.be", .streaming, true⟩,
    ⟨"googlevideo.com", .streaming, true⟩, ⟨"netflix.com", .streaming, true⟩,
    ⟨"nflxvideo.net", .streaming, true⟩, ⟨"primevideo.com", .streaming, true⟩,
    ⟨"disneyplus.com", .streaming, true⟩, ⟨"hulu.com", .streaming, true⟩,
    ⟨"hbomax.com", .streaming, true⟩, ⟨"spotify.com", .streaming, true⟩,
    ⟨"tiktok.com", .streaming, true⟩, ⟨"tiktokcdn.com", .streaming, true⟩,
    ⟨"facebook.com", .social, true⟩, ⟨"fbcdn.net", .social, true⟩,
    ⟨"instagram.com", .social, true⟩, ⟨"cdninstagram.com", .social, true⟩,
    ⟨"twitter.com", .social, true⟩, ⟨"x.com", .social, true⟩, ⟨"snapchat.com", .social, true⟩,
    ⟨"reddit.com", .social, true⟩, ⟨"pinterest.com", .social, true⟩,
    ⟨"whatsapp.com", .social, true⟩, ⟨"telegram.org", .social, true⟩,
    ⟨"pornhub.com", .adult, true⟩, ⟨"xvideos.com", .adult, true⟩, ⟨"xnxx.com", .adult, true⟩,
    ⟨"xhamster.com", .adult, true⟩, ⟨"redtube.com", .adult, true⟩, ⟨"youporn.com", .adult, true⟩]

/-- The row of a seeded name, which is taken as it is. -/
def seedEntry (s : SeedDomain) (id : String) (now : Time) : BlockedDomain :=
  ⟨id, s.domain, some s.category, s.wildcard, now⟩

/-- `seedDefaultDomainsIfEmpty`; a failure is only logged. -/
def seedDefaultDomainsIfEmpty : Api Unit :=
  ignoreErrors do
    let count ← query fun db _ => db.blockedDomains.rows.length
    Prog.when (¬ count > 0) do
      dbCall fun c db =>
        let data := seedDomains.zipIdx.map fun (s, n) => seedEntry s (c.uuid n) c.now
        match insertMissing .blockedDomain db data with
        | .ok (_, db') => (.ok (), db')
        | .error e => (.error e, db)

/-! ### What they write -/

section Writes
variable {env : Env} {w w' : World} {b : BlockedDomain} {domain : String}
  {category : BlockCategory} {wildcard : Bool}

/-- The identifiers of the next call are not taken, and differ from one another. -/
structure FreshIds (w : World) : Prop where
  fresh : ∀ b ∈ w.db.blockedDomains.rows, ∀ n, b.id ≠ w.uuids w.calls n
  injective : Function.Injective (w.uuids w.calls)

/-- An added name is in the table, and only this table is written. -/
theorem run_addDomain (h : (addDomain env domain category wildcard).run w = (.ok b, w')) :
    b.domain = env.toLowerCase domain ∧ b ∈ w'.db.blockedDomains.rows ∧
      ∃ t, w' = World.afterCall w { w.db with blockedDomains := t } := by
  unfold addDomain at h
  rcases run_upsert_cases Model.blockedDomain (fun b => b.domain = env.toLowerCase domain)
      (recategorise category wildcard) (newEntry env domain category wildcard) (fun _ => rfl) w with
    ⟨e, hrun⟩ | ⟨r, hfind, hrun⟩ | ⟨t, -, hins, hrun⟩
  · rw [hrun] at h
    cases h
  · rw [hrun] at h
    cases h
    have hdomain : r.domain = env.toLowerCase domain := by
      simpa using List.find?_some hfind
    refine ⟨hdomain, ?_, _, rfl⟩
    have hrow : r ∈ w.db.blockedDomains.rows := List.mem_of_find?_eq_some hfind
    have hpatch : recategorise category wildcard r ∈ (Model.blockedDomain.patch
        w.db.blockedDomains w.now r.id (recategorise category wildcard) fun _ => rfl).rows :=
      Model.mem_patch.mpr ⟨r, hrow, (if_pos rfl).symm⟩
    exact hpatch
  · rw [hrun] at h
    cases h
    refine ⟨rfl, ?_, t, rfl⟩
    have hrows := (Table.insert_eq_some hins).2
    change _ ∈ t.rows
    rw [hrows]
    exact List.mem_append_right _ (List.mem_singleton_self _)

/-- Into an empty table a name goes without fail. -/
theorem run_addDomain_empty (hempty : w.db.blockedDomains.rows = []) (env : Env) (domain : String)
    (category : BlockCategory) (wildcard : Bool) :
    ∃ b t, (addDomain env domain category wildcard).run w =
        (.ok b, World.afterCall w { w.db with blockedDomains := t }) ∧
      t.rows = [b] ∧ b.domain = env.toLowerCase domain := by
  have hget : (Model.blockedDomain.get w.db).rows = [] := hempty
  unfold addDomain
  rcases run_upsert_cases Model.blockedDomain (fun b => b.domain = env.toLowerCase domain)
      (recategorise category wildcard) (newEntry env domain category wildcard) (fun _ => rfl) w with
    ⟨e, hrun⟩ | ⟨r, hfind, hrun⟩ | ⟨t, -, hins, hrun⟩
  · rcases run_upsert_error hrun with ⟨r, hfind, -⟩ | ⟨-,
      ⟨u, -, r, hr, -⟩ | ⟨l, hl, -⟩ | ⟨r, hr, -⟩⟩
    · rw [hget] at hfind
      cases hfind
    · rw [hget] at hr
      cases hr
    · cases hl
    · rw [hget] at hr
      cases hr
  · rw [hget] at hfind
    cases hfind
  · have hrows := (Table.insert_eq_some hins).2
    rw [hget] at hrows
    exact ⟨_, t, hrun, hrows, rfl⟩

/-- After an import every row is in the table, or another row with its name is. -/
theorem mem_insertMissing : ∀ (rs : List BlockedDomain) (db db' : Database) (n : ℕ),
    insertMissing .blockedDomain db rs = .ok (n, db') →
    (rs.map BlockedDomain.id).Nodup →
    (∀ r ∈ rs, ∀ b ∈ db.blockedDomains.rows, b.id ≠ r.id) →
    (∀ b ∈ db.blockedDomains.rows, b ∈ db'.blockedDomains.rows) ∧
      ∀ r ∈ rs, ∃ b ∈ db'.blockedDomains.rows, b.domain = r.domain
  | [], db, db', n, h, _, _ => by
    cases h
    exact ⟨fun b hb => hb, fun r hr => absurd hr List.not_mem_nil⟩
  | r :: rs, db, db', n, h, hnodup, hfresh => by
    rw [List.map_cons, List.nodup_cons] at hnodup
    obtain ⟨hnew, hnodup⟩ := hnodup
    unfold insertMissing at h
    rcases hins : Model.blockedDomain.insertRow db r with e | db₁
    · -- a refused row has a name that is there, for its identifier is not
      have hthere : ∃ b ∈ db.blockedDomains.rows, b.domain = r.domain := by
        rcases Model.refuses_of_insertRow hins with ⟨u, hu, b, hb, hub⟩ | ⟨l, hl, -⟩ | ⟨b, hb, hid⟩
        · obtain rfl : u = ["domain", r.domain] := List.mem_singleton.mp hu
          exact ⟨b, hb, by simpa [Model.blockedDomain, eq_comm] using hub⟩
        · cases hl
        · exact absurd hid (hfresh r List.mem_cons_self b hb)
      have hrest : insertMissing .blockedDomain db rs = .ok (n, db') := by
        rw [hins] at h
        split at h
        · rename_i heq
          cases heq
        · exact h
        · cases h
      obtain ⟨hkept, hnames⟩ := mem_insertMissing rs db db' n hrest hnodup fun r' hr' =>
        hfresh r' (List.mem_cons_of_mem _ hr')
      refine ⟨hkept, fun r' hr' => ?_⟩
      rcases List.mem_cons.mp hr' with rfl | hr'
      · obtain ⟨b, hb, hdomain⟩ := hthere
        exact ⟨b, hkept b hb, hdomain⟩
      · exact hnames r' hr'
    · obtain ⟨-, t, ht, rfl⟩ := Model.insertRow_ok hins
      have hrows : t.rows = db.blockedDomains.rows ++ [r] := (Table.insert_eq_some ht).2
      rw [hins] at h
      dsimp only at h
      rcases hrest : insertMissing .blockedDomain
        (Model.blockedDomain.set db t) rs with e | ⟨m, db₂⟩
      · rw [hrest] at h
        cases h
      rw [hrest] at h
      cases h
      have hfresh' : ∀ r' ∈ rs, ∀ b ∈ t.rows, b.id ≠ r'.id := by
        intro r' hr' b hb hid
        rw [hrows] at hb
        rcases List.mem_append.mp hb with hb | hb
        · exact hfresh r' (List.mem_cons_of_mem _ hr') b hb hid
        · rw [List.mem_singleton.mp hb] at hid
          exact hnew (hid ▸ List.mem_map_of_mem hr')
      obtain ⟨hkept, hnames⟩ := mem_insertMissing rs _ db₂ m hrest hnodup hfresh'
      have hrow : ∀ b ∈ t.rows, b ∈ db₂.blockedDomains.rows := hkept
      refine ⟨fun b hb => hrow b ?_, fun r' hr' => ?_⟩
      · rw [hrows]
        exact List.mem_append_left _ hb
      · rcases List.mem_cons.mp hr' with rfl | hr'
        · refine ⟨r', hrow r' ?_, rfl⟩
          rw [hrows]
          exact List.mem_append_right _ (List.mem_singleton_self _)
        · exact hnames r' hr'

end Writes

end GuardTime.Services.Categories
