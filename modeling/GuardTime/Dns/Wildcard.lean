import Mathlib.Tactic
import GuardTime.Dns.Blocklist

/-! # The wildcard flag of a blocked domain

An entry with the flag stands for a name and everything below it, one without for the name alone.
The engine reads the flag nowhere, and looks for names with a dot only.

* `block_iff_listed`: for a device without other restrictions, a check answers `BLOCK` exactly when
  an entry with a dot is the name or a parent of it;
* `wildcard_honoured_iff`: when that is what the flags say. -/

namespace GuardTime.Dns.Wildcard

open GuardTime.Lib.Program GuardTime.Lib.Keyed GuardTime.Lib.Js GuardTime.Schema GuardTime.Server
open GuardTime.Prisma GuardTime.Services.DnsPolicy GuardTime.Dns.Engine GuardTime.Dns.Decision
open GuardTime.Dns.Blocklist

/-- What an entry stands for. -/
def StandsFor (b : BlockedDomain) (q : String) : Prop :=
  b.domain = q ∨ b.wildcard = true ∧ Subdomain q b.domain

/-- Nothing but the blocklist can block the device. -/
structure Unrestricted (env : Env) (db : Database) (now : Time) (q : String)
    (d : Device) : Prop where
  strict : ¬ Strict env q
  locked : d.internetLocked = false
  manual : d.status ≠ .blocked
  time : ∀ s ∈ db.sessions.rows, isCurrent d.id s = true → ¬ OutOfTime now s

/-- The check answers `BLOCK`. -/
def Blocks (env : Env) (w : World) (ip q : String) : Prop :=
  ∃ r, ((checkPolicy env ip q).run w).1 = .ok r ∧ r.action = .block

section Flags
variable {env : Env} {w : World} {ip q : String}

/-- **What the blocklist blocks.** -/
theorem block_iff_listed (hmiss : cachedFor w ip q = none)
    (hknown : ∃ d ∈ w.db.devices.rows, holds ip d = true)
    (hfree : ∀ d ∈ w.db.devices.rows, holds ip d = true → Unrestricted env w.db w.now q d) :
    Blocks env w ip q ↔ Listed env w.db q := by
  constructor
  · rintro ⟨r, hr, hblock⟩
    rw [checkPolicy_of_miss hmiss] at hr
    cases hr
    unfold verdict at hblock
    rcases hl : lookup w.db (upcoming w 0) ip with _ | d
    · rw [hl] at hblock
      cases hblock
    · rw [hl] at hblock
      obtain ⟨hd, hip⟩ := lookup_eq_some hl
      have hd' := hfree d hd hip
      rcases (answer_deviceVerdict _ _ d).block.mp hblock with h | h | h | ⟨s, hs, hout⟩ | h
      · exact absurd h hd'.strict
      · rw [hd'.locked] at h
        cases h
      · exact absurd h hd'.manual
      · have hlatest := latest_currentSession w.db (upcoming w 1) d.id
        rw [hs] at hlatest
        exact absurd hout (hd'.time s hlatest.1 hlatest.2.1)
      · exact h
  · intro h
    exact block_of_blocked hmiss hknown fun _ _ _ _ => .inr (.inr (.inr (.inr h)))

/-- An entry with a dot stands for the name. -/
def Dotted (db : Database) (n : String) : Prop :=
  ∃ b ∈ db.blockedDomains.rows, '.' ∈ b.domain.toList ∧ StandsFor b n

/-- An entry without a dot stands for the name. -/
def Dotless (db : Database) (n : String) : Prop :=
  ∃ b ∈ db.blockedDomains.rows, '.' ∉ b.domain.toList ∧ StandsFor b n

/-- An entry with a dot and without the flag is a parent of the name. -/
def Overreached (db : Database) (n : String) : Prop :=
  ∃ b ∈ db.blockedDomains.rows, '.' ∈ b.domain.toList ∧ b.wildcard = false ∧ Subdomain n b.domain

theorem listed_iff : Listed env w.db q ↔ Dotted w.db (Services.DnsPolicy.normalize env q) ∨
    Overreached w.db (Services.DnsPolicy.normalize env q) := by
  constructor
  · rintro ⟨b, hb, hdot, heq | hbelow⟩
    · exact .inl ⟨b, hb, hdot, .inl heq⟩
    · rcases hflag : b.wildcard with _ | _
      · exact .inr ⟨b, hb, hdot, hflag, hbelow⟩
      · exact .inl ⟨b, hb, hdot, .inr ⟨hflag, hbelow⟩⟩
  · rintro (⟨b, hb, hdot, heq | ⟨-, hbelow⟩⟩ | ⟨b, hb, hdot, -, hbelow⟩)
    · exact ⟨b, hb, hdot, .inl heq⟩
    · exact ⟨b, hb, hdot, .inr hbelow⟩
    · exact ⟨b, hb, hdot, .inr hbelow⟩

theorem standsFor_iff {db : Database} {n : String} :
    (∃ b ∈ db.blockedDomains.rows, StandsFor b n) ↔ Dotted db n ∨ Dotless db n := by
  constructor
  · rintro ⟨b, hb, h⟩
    by_cases hdot : '.' ∈ b.domain.toList
    · exact .inl ⟨b, hb, hdot, h⟩
    · exact .inr ⟨b, hb, hdot, h⟩
  · rintro (⟨b, hb, -, h⟩ | ⟨b, hb, -, h⟩)
    · exact ⟨b, hb, h⟩
    · exact ⟨b, hb, h⟩

/-- **When the flag is honoured.** The blocklist blocks a name exactly when an entry stands for it,
if and only if an entry with a dot stands for the name, or else the two mistakes come together: a
parent without the flag, and an entry without a dot that stands for the name. -/
theorem wildcard_honoured_iff (hmiss : cachedFor w ip q = none)
    (hknown : ∃ d ∈ w.db.devices.rows, holds ip d = true)
    (hfree : ∀ d ∈ w.db.devices.rows, holds ip d = true → Unrestricted env w.db w.now q d) :
    (Blocks env w ip q ↔
        ∃ b ∈ w.db.blockedDomains.rows, StandsFor b (Services.DnsPolicy.normalize env q)) ↔
      Dotted w.db (Services.DnsPolicy.normalize env q) ∨
        (Overreached w.db (Services.DnsPolicy.normalize env q) ↔
          Dotless w.db (Services.DnsPolicy.normalize env q)) := by
  rw [block_iff_listed hmiss hknown hfree, listed_iff, standsFor_iff]
  by_cases hdotted : Dotted w.db (Services.DnsPolicy.normalize env q)
  · simp only [hdotted, true_or]
  · simp only [hdotted, false_or]

end Flags

/-- A house with the phone and one entry. -/
def houseWith (domain : String) (wildcard : Bool) : World :=
  World.fresh { Household.withDevices [phone] nodup_phone with
    blockedDomains := ⟨[⟨"entry", domain, some .gaming, wildcard, 0⟩], List.nodup_singleton _⟩ } 0

theorem unrestricted_phone (domain : String) (wildcard : Bool) (q : String) :
    ∀ d ∈ (houseWith domain wildcard).db.devices.rows, holds "10.0.0.5" d = true →
      Unrestricted .plain (houseWith domain wildcard).db 0 q d := by
  intro d hd _
  obtain rfl : d = phone := List.mem_singleton.mp hd
  exact
    { strict := by rintro ⟨h, -⟩; cases h
      locked := rfl
      manual := by decide
      time := fun s hs => absurd hs List.not_mem_nil }

theorem wildcard_honoured_roblox :
    Blocks .plain (houseWith "roblox.com" true) "10.0.0.5" "www.roblox.com" ↔
      ∃ b ∈ (houseWith "roblox.com" true).db.blockedDomains.rows,
        StandsFor b (Services.DnsPolicy.normalize .plain "www.roblox.com") :=
  (wildcard_honoured_iff rfl ⟨phone, List.mem_singleton_self _, by decide⟩
    (unrestricted_phone "roblox.com" true "www.roblox.com")).mpr
    (.inl ⟨_, List.mem_singleton_self _, by decide, .inr ⟨rfl, by decide⟩⟩)

/-- An entry without the flag blocks what is below it. -/
theorem overreached_roblox : ¬ ∀ (env : Env) (w : World) (ip q : String),
    cachedFor w ip q = none → (∃ d ∈ w.db.devices.rows, holds ip d = true) →
    (∀ d ∈ w.db.devices.rows, holds ip d = true → Unrestricted env w.db w.now q d) →
    (Blocks env w ip q ↔
      ∃ b ∈ w.db.blockedDomains.rows, StandsFor b (Services.DnsPolicy.normalize env q)) := by
  intro h
  have hknown : ∃ d ∈ (houseWith "roblox.com" false).db.devices.rows,
      holds "10.0.0.5" d = true := ⟨phone, List.mem_singleton_self _, by decide⟩
  have hfree := unrestricted_phone "roblox.com" false "www.roblox.com"
  have hblocks : Blocks .plain (houseWith "roblox.com" false) "10.0.0.5" "www.roblox.com" := by
    rw [block_iff_listed rfl hknown hfree]
    exact ⟨_, List.mem_singleton_self _, by decide, .inr (by decide)⟩
  obtain ⟨b, hb, heq | ⟨hflag, -⟩⟩ := (h .plain _ _ _ rfl hknown hfree).mp hblocks
  · rw [List.mem_singleton.mp hb] at heq
    exact absurd heq (by decide)
  · rw [List.mem_singleton.mp hb] at hflag
    cases hflag

end GuardTime.Dns.Wildcard
