import Mathlib.Tactic
import GuardTime.Household
import GuardTime.Services.Categories
import GuardTime.Dns.Decision

/-! # Which listed domains take effect

An administrator's name is stored in lower case as it is; the engine looks for a query in lower case
without its trailing dot, and for parents of it with a dot in them. So an entry that ends in a dot
or has no dot is never found (`takes_effect_iff`). -/

namespace GuardTime.Dns.Blocklist

open GuardTime.Lib.Program GuardTime.Lib.Keyed GuardTime.Lib.Js GuardTime.Lib.Labels
open GuardTime.Schema GuardTime.Server GuardTime.Prisma GuardTime.Services.DnsPolicy
open GuardTime.Services.Categories GuardTime.Dns.Engine GuardTime.Dns.Decision

/-! ### Lower case -/

/-- What `String.prototype.toLowerCase` does to a name twice, and to a name with a dot after it. -/
structure LowerCase (env : Env) : Prop where
  idem : ∀ s, env.toLowerCase (env.toLowerCase s) = env.toLowerCase s
  dot : ∀ s, env.toLowerCase (s ++ ".") = env.toLowerCase s ++ "."

theorem dropTrailingDot_append_dot (s : String) : dropTrailingDot (s ++ ".") = s := by
  unfold dropTrailingDot
  have hlist : (s ++ ".").toList = s.toList ++ ['.'] := by
    rw [String.toList_append]
    rfl
  rw [hlist, if_pos (List.getLast?_concat ..), List.dropLast_concat, String.ofList_toList]

theorem dropTrailingDot_of_ne {s : String} (h : s.toList.getLast? ≠ some '.') :
    dropTrailingDot s = s := if_neg h

theorem length_dropTrailingDot_lt {s : String} (h : s.toList.getLast? = some '.') :
    (dropTrailingDot s).toList.length < s.toList.length := by
  have hne : s.toList ≠ [] := by
    intro hnil
    rw [hnil] at h
    cases h
  have hpos : 0 < s.toList.length := List.length_pos_of_ne_nil hne
  unfold dropTrailingDot
  rw [if_pos h, String.toList_ofList, List.length_dropLast]
  omega

/-! ### Names that are found -/

/-- A name in lower case is found for its own queries. -/
def Effective (env : Env) (d : String) : Prop :=
  '.' ∈ (env.toLowerCase d).toList ∧ (env.toLowerCase d).toList.getLast? ≠ some '.'

instance (env : Env) (d : String) : Decidable (Effective env d) :=
  inferInstanceAs (Decidable (_ ∧ _))

/-- The query `q` spells `d` in any letter case, with or without one trailing dot. -/
def Spells (env : Env) (d q : String) : Prop :=
  ∃ d', env.toLowerCase d' = env.toLowerCase d ∧ (q = d' ∨ q = d' ++ ".")

theorem normalize_of_spells {env : Env} (hlower : LowerCase env) {d q : String}
    (hd : Effective env d) (hq : Spells env d q) :
    Services.DnsPolicy.normalize env q = env.toLowerCase d := by
  unfold Services.DnsPolicy.normalize
  obtain ⟨d', hd', rfl | rfl⟩ := hq
  · rw [hd']
    exact dropTrailingDot_of_ne hd.2
  · rw [hlower.dot, hd']
    exact dropTrailingDot_append_dot _

/-! ### Entries -/

/-- The three ways to add names. -/
inductive Entry where
  | addDomain (domain : String) (category : BlockCategory) (wildcard : Bool)
  | bulkImport (items : List BulkImportItem)
  | classifyUnknownDomain (domain : String) (category : BlockCategory) (wildcard : Bool)

/-- The request of an entry. -/
def Entry.run (env : Env) : Entry → Api Unit
  | addDomain domain category wildcard => do
    let _ ← Services.Categories.addDomain env domain category wildcard
    pure ()
  | bulkImport items => do
    let _ ← Services.Categories.bulkImport env items
    pure ()
  | classifyUnknownDomain domain category wildcard => do
    let _ ← Services.Categories.classifyUnknownDomain env domain category wildcard
    pure ()

/-- The entry adds the name. -/
def Entry.Adds : Entry → String → Prop
  | addDomain domain _ _, d => domain = d
  | bulkImport items, d => ∃ i ∈ items, i.domain = d
  | classifyUnknownDomain domain _ _, d => domain = d

theorem mem_bulkImport {env : Env} {items : List BulkImportItem} {w w' : World} {p : ℕ × ℕ}
    (hids : FreshIds w) (hrun : (bulkImport env items).run w = (.ok p, w'))
    {i : BulkImportItem} (hi : i ∈ items) :
    ∃ b ∈ w'.db.blockedDomains.rows, b.domain = env.toLowerCase i.domain := by
  obtain ⟨n, w₁, hcall, hpure⟩ := Prog.run_bind_ok.mp hrun
  cases hpure
  rw [run_dbCall] at hcall
  dsimp only at hcall
  split at hcall
  case h_2 => cases hcall
  case h_1 m db' hok =>
  cases hcall
  let row : BulkImportItem × ℕ → BlockedDomain := fun a =>
    newEntry env a.1.domain a.1.category (a.1.wildcard.getD true) (w.uuids w.calls a.2) w.now
  have hins : insertMissing .blockedDomain w.db (items.zipIdx.map row) = .ok (n, db') := hok
  have hnodup : ((items.zipIdx.map row).map BlockedDomain.id).Nodup := by
    have hids' : (items.zipIdx.map row).map BlockedDomain.id =
        (items.zipIdx.map Prod.snd).map (w.uuids w.calls) := by
      rw [List.map_map, List.map_map]
      rfl
    rw [hids', List.zipIdx_map_snd]
    exact List.Nodup.map hids.injective (List.nodup_range' ..)
  have hfresh : ∀ r ∈ items.zipIdx.map row, ∀ b ∈ w.db.blockedDomains.rows, b.id ≠ r.id := by
    intro r hr b hb
    obtain ⟨a, -, rfl⟩ := List.mem_map.mp hr
    exact hids.fresh b hb a.2
  obtain ⟨-, hnames⟩ := mem_insertMissing _ _ _ _ hins hnodup hfresh
  have hi' : i ∈ items.zipIdx.map Prod.fst := by rwa [List.zipIdx_map_fst]
  obtain ⟨a, ha, rfl⟩ := List.mem_map.mp hi'
  exact hnames _ (List.mem_map_of_mem ha)

/-- **The name is in the table**, whichever way it was added. -/
theorem listed_of_adds {env : Env} (hlower : LowerCase env) {entry : Entry} {d : String}
    (hadds : entry.Adds d) {w w' : World} {u : Unit} (hids : FreshIds w)
    (hrun : (entry.run env).run w = (.ok u, w')) :
    ∃ b ∈ w'.db.blockedDomains.rows, b.domain = env.toLowerCase d := by
  cases entry with
  | addDomain domain category wildcard =>
    obtain ⟨b, w₁, hadd, hpure⟩ := Prog.run_bind_ok.mp hrun
    cases hpure
    obtain ⟨hdomain, hmem, -⟩ := run_addDomain hadd
    obtain rfl : domain = d := hadds
    exact ⟨b, hmem, hdomain⟩
  | bulkImport items =>
    obtain ⟨p, w₁, himport, hpure⟩ := Prog.run_bind_ok.mp hrun
    cases hpure
    obtain ⟨i, hi, rfl⟩ := hadds
    exact mem_bulkImport hids himport hi
  | classifyUnknownDomain domain category wildcard =>
    obtain ⟨b, w₁, hclassify, hpure⟩ := Prog.run_bind_ok.mp hrun
    cases hpure
    obtain ⟨b', w₂, hadd, hmark⟩ := Prog.run_bind_ok.mp hclassify
    obtain ⟨hdomain, hmem, -⟩ := run_addDomain hadd
    obtain ⟨n, w₃, hupdate, hlast⟩ := Prog.run_bind_ok.mp hmark
    cases hupdate
    cases hlast
    obtain rfl : domain = d := hadds
    exact ⟨b, hmem, by rw [hdomain, hlower.idem]⟩

/-! ### Entries that take effect -/

/-- Whenever an entry with the name `d` has been made, a check of `d` that misses the cache answers
`BLOCK` for a known device, as long as the table stays as it is. -/
def TakesEffect (env : Env) (d : String) : Prop :=
  ∀ (entry : Entry) (w w₁ w' : World) (u : Unit), entry.Adds d → FreshIds w →
    (entry.run env).run w = (.ok u, w₁) → w'.db.blockedDomains = w₁.db.blockedDomains →
    ∀ ip q, Spells env d q → cachedFor w' ip q = none →
      (∃ device ∈ w'.db.devices.rows, holds ip device = true) →
      ∃ r, ((checkPolicy env ip q).run w').1 = .ok r ∧ r.action = .block

/-- What blocks every holder of the address blocks the address. -/
theorem block_of_blocked {env : Env} {w : World} {ip q : String} (hmiss : cachedFor w ip q = none)
    (hknown : ∃ device ∈ w.db.devices.rows, holds ip device = true)
    (hblocked : ∀ device ∈ w.db.devices.rows, holds ip device = true →
      ∀ o, Blocked env w.db w.now q device o) :
    ∃ r, ((checkPolicy env ip q).run w).1 = .ok r ∧ r.action = .block := by
  refine ⟨_, checkPolicy_of_miss hmiss env, ?_⟩
  unfold verdict
  rcases hl : lookup w.db (upcoming w 0) ip with _ | device
  · obtain ⟨device, hmem, hip⟩ := hknown
    rw [lookup_eq_none.mp hl device hmem] at hip
    cases hip
  · obtain ⟨hmem, hip⟩ := lookup_eq_some hl
    exact (answer_deviceVerdict _ _ device).block.mpr (hblocked device hmem hip _)

theorem strict_congr {env : Env} {q q' : String}
    (h : Services.DnsPolicy.normalize env q = Services.DnsPolicy.normalize env q') :
    Strict env q ↔ Strict env q' := by
  unfold Strict
  rw [h]

/-- The phone of `adam`, at a known address. -/
def phone : Device :=
  { Household.device "phone" "amal" "adam" with ipAddress := some "10.0.0.5" }

theorem nodup_phone : ([phone].map Device.id).Nodup := List.nodup_singleton _

/-- A house with the phone, and an empty blocklist. -/
def house : World := World.fresh (Household.withDevices [phone] nodup_phone) 0

theorem freshIds_house : FreshIds house :=
  ⟨fun _ hb => absurd hb List.not_mem_nil, fun _ _ h => (fresh_uuids_injective h).2⟩

/-- In that house, an only entry blocks no more than the names it covers. -/
theorem covers_of_block {env : Env} {q : String} (hstrict : ¬ Strict env q) {b : BlockedDomain}
    {t : Table BlockedDomain.id} (ht : t.rows = [b]) {r : DnsPolicyResponse}
    (hr : ((checkPolicy env "10.0.0.5" q).run
      (World.afterCall house { house.db with blockedDomains := t })).1 = .ok r)
    (hblock : r.action = .block) : Covers b (Services.DnsPolicy.normalize env q) := by
  set w' := World.afterCall house { house.db with blockedDomains := t } with hw'
  have hsingle : Single w'.db "10.0.0.5" := by
    intro d hd d' hd' _ _
    rw [List.mem_singleton.mp hd, List.mem_singleton.mp hd']
  have hphone : phone ∈ w'.db.devices.rows := List.mem_singleton_self _
  have hlookup := lookup_of_single hsingle hphone (by decide) (upcoming w' 0)
  rw [checkPolicy_of_miss rfl] at hr
  cases hr
  unfold verdict at hblock
  rw [hlookup] at hblock
  have hnone : ∀ n, currentSession w'.db n "phone" = none := by
    intro n
    rcases hcur : currentSession w'.db n "phone" with _ | s
    · rfl
    · have hlatest := latest_currentSession w'.db n "phone"
      rw [hcur] at hlatest
      exact absurd hlatest.1 List.not_mem_nil
  rcases (answer_deviceVerdict _ _ phone).block.mp hblock with h | h | h | ⟨s, hs, -⟩ | ⟨b',
    hb', hc⟩
  · exact absurd h hstrict
  · cases h
  · cases h
  · change currentSession w'.db _ "phone" = some s at hs
    rw [hnone] at hs
    cases hs
  · change b' ∈ t.rows at hb'
    rw [ht] at hb'
    rwa [List.mem_singleton.mp hb'] at hc

/-- A name that is not found leaves the house open. -/
theorem not_takes_effect {env : Env} {d : String} (hineffective : ¬ Effective env d)
    (hstrict : ¬ Strict env d) : ¬ TakesEffect env d := by
  intro h
  obtain ⟨b, t, hadd, ht, hdomain⟩ := @run_addDomain_empty house rfl env d .custom true
  obtain ⟨r, hr, hblock⟩ := h (.addDomain d .custom true) house
    (World.afterCall house { house.db with blockedDomains := t })
    (World.afterCall house { house.db with blockedDomains := t }) () rfl freshIds_house
    (by rw [Entry.run, Prog.run_bind, hadd]; rfl) rfl "10.0.0.5" d ⟨d, rfl, .inl rfl⟩ rfl
    ⟨phone, List.mem_singleton_self _, by decide⟩
  obtain ⟨hdot, hcover⟩ := covers_of_block hstrict ht hr hblock
  rw [hdomain] at hdot hcover
  have hlast : (env.toLowerCase d).toList.getLast? = some '.' := by
    by_contra hne
    exact hineffective ⟨hdot, hne⟩
  -- the query is shorter than the entry, so it is neither the entry nor below it
  have hshort := length_dropTrailingDot_lt hlast
  unfold Services.DnsPolicy.normalize at hcover
  rcases hcover with heq | hbelow
  · rw [← heq] at hshort
    exact lt_irrefl _ hshort
  · exact lt_asymm hshort hbelow.length_lt

/-- **Which added domains take effect.** In each of the three ways, a name takes effect exactly
when, in lower case, it has a dot and does not end in one; or when strict mode blocks it anyway. -/
theorem takes_effect_iff {env : Env} (hlower : LowerCase env) (d : String) :
    TakesEffect env d ↔ Effective env d ∨ Strict env d := by
  constructor
  · intro h
    by_contra hnot
    rw [not_or] at hnot
    exact not_takes_effect hnot.1 hnot.2 h
  · intro hd entry w w₁ w' u hadds hids hrun htable ip q hq hmiss hknown
    obtain ⟨b, hb, hdomain⟩ := listed_of_adds hlower hadds hids hrun
    rw [← htable] at hb
    refine block_of_blocked hmiss hknown fun device _ _ o => ?_
    rcases hd with hd | hd
    · refine .inr (.inr (.inr (.inr ⟨b, hb, ?_⟩)))
      rw [normalize_of_spells hlower hd hq]
      exact ⟨hdomain ▸ hd.1, .inl hdomain⟩
    · obtain ⟨d', hd', rfl | rfl⟩ := hq
      · refine .inl ((strict_congr ?_).mpr hd)
        unfold Services.DnsPolicy.normalize
        rw [hd']
      · have hname : Services.DnsPolicy.normalize env (d' ++ ".") = env.toLowerCase d := by
          unfold Services.DnsPolicy.normalize
          rw [hlower.dot, hd', dropTrailingDot_append_dot]
        by_cases hlast : (env.toLowerCase d).toList.getLast? = some '.'
        · refine .inr (.inr (.inr (.inr ⟨b, hb, ?_⟩)))
          rw [hname]
          exact ⟨hdomain ▸ List.mem_of_getLast? hlast, .inl hdomain⟩
        · refine .inl ((strict_congr ?_).mpr hd)
          rw [hname, Services.DnsPolicy.normalize, dropTrailingDot_of_ne hlast]

theorem toLower_toLower (c : Char) : c.toLower.toLower = c.toLower := by
  by_cases h : c.val ≥ 'A'.val ∧ c.val ≤ 'Z'.val
  · have hge : 65 ≤ c.val.toNat := UInt32.le_iff_toNat_le.mp h.1
    have hle : c.val.toNat ≤ 90 := UInt32.le_iff_toNat_le.mp h.2
    have hval : c.toLower.val = c.val + ('a'.val - 'A'.val) := by
      unfold Char.toLower
      rw [dif_pos h]
    have hnat : c.toLower.val.toNat = c.val.toNat + 32 := by
      have h32 : ('a'.val - 'A'.val).toNat = 32 := by decide
      rw [hval, UInt32.toNat_add, h32]
      omega
    conv_lhs => unfold Char.toLower
    refine dif_neg fun h' => ?_
    have hle' : c.toLower.val.toNat ≤ 90 := UInt32.le_iff_toNat_le.mp h'.2
    omega
  · have hself : c.toLower = c := dif_neg h
    rw [hself, hself]

theorem lowerCase_plain : LowerCase .plain where
  idem s := by
    simp only [Env.plain, String.toList_ofList, List.map_map, Function.comp_def, toLower_toLower]
  dot s := by
    simp only [Env.plain]
    rw [← String.toList_inj]
    simp

theorem takes_effect_youtube : TakesEffect .plain "YouTube.com" :=
  (takes_effect_iff lowerCase_plain "YouTube.com").mpr (.inl (by decide))

/-- A name with a trailing dot is accepted, and never found. -/
theorem trailing_dot_without_effect :
    ¬ ∀ env : Env, LowerCase env → ∀ d : String, TakesEffect env d := by
  intro h
  refine not_takes_effect (d := "youtube.com.") ?_ ?_ (h .plain lowerCase_plain _)
  · decide
  · rintro ⟨hstrict, -⟩
    cases hstrict

end GuardTime.Dns.Blocklist
