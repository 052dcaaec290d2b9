import Mathlib.Tactic
import GuardTime.Dns.Blocklist

/-! # The queue of unknown domains

An allowed query is recorded in the log of unknown domains under its name in lower case without its
trailing dot. Classifying a name adds it to the blocklist and takes the rows with exactly that name
out of the queue; the rows of its subdomains stay, though the new entry blocks them. -/

namespace GuardTime.Dns.Queue

open GuardTime.Lib.Program GuardTime.Lib.Keyed GuardTime.Lib.Js GuardTime.Schema GuardTime.Server
open GuardTime.Prisma GuardTime.Services.DnsPolicy GuardTime.Services.Categories
open GuardTime.Dns.Decision GuardTime.Dns.Blocklist

/-- No row is still in the queue that the entry blocks. -/
def Cleared (env : Env) (db : Database) (b : BlockedDomain) : Prop :=
  ∀ r ∈ db.unknownDomainLogs.rows, r.classified = false →
    ¬ Covers b (Services.DnsPolicy.normalize env r.domain)

/-- Every row in the queue that is the name or below it has the name as it is stored. -/
def Alone (env : Env) (db : Database) (d : String) : Prop :=
  '.' ∈ (env.toLowerCase d).toList → ∀ r ∈ db.unknownDomainLogs.rows, r.classified = false →
    Services.DnsPolicy.normalize env r.domain = env.toLowerCase d ∨
      Subdomain (Services.DnsPolicy.normalize env r.domain) (env.toLowerCase d) →
    r.domain = env.toLowerCase d

/-- A row after the name `lower` has been classified. -/
def classify (lower : String) (category : BlockCategory) (r : UnknownDomainLog) :
    UnknownDomainLog :=
  if r.domain = lower then { r with classified := true, suggestedCategory := some category } else r

section Classify
variable {env : Env} {w w' : World} {d : String} {category : BlockCategory} {wildcard : Bool}
  {b : BlockedDomain}

/-- The new entry, and the rows of the log. -/
theorem run_classifyUnknownDomain
    (h : (classifyUnknownDomain env d category wildcard).run w = (.ok b, w')) :
    b.domain = env.toLowerCase (env.toLowerCase d) ∧
      ∀ r, r ∈ w'.db.unknownDomainLogs.rows ↔
        ∃ r₀ ∈ w.db.unknownDomainLogs.rows, r = classify (env.toLowerCase d) category r₀ := by
  obtain ⟨b', w₁, hadd, hmark⟩ := Prog.run_bind_ok.mp h
  obtain ⟨hdomain, -, t, rfl⟩ := run_addDomain hadd
  obtain ⟨n, w₂, hupdate, hlast⟩ := Prog.run_bind_ok.mp hmark
  cases hupdate
  cases hlast
  have hrows : ∀ r, r ∈ (w.db.unknownDomainLogs.modify
      (fun r => decide (r.domain = env.toLowerCase d))
      (fun r => { r with classified := true, suggestedCategory := some category })
      fun _ => rfl).rows ↔ ∃ r₀ ∈ w.db.unknownDomainLogs.rows,
        r = if decide (r₀.domain = env.toLowerCase d) = true then
          { r₀ with classified := true, suggestedCategory := some category } else r₀ :=
    fun r => Table.mem_modify
  refine ⟨hdomain, fun r => (hrows r).trans ?_⟩
  unfold classify
  simp only [decide_eq_true_eq]

/-- **When a classified domain leaves the queue.** After a classification no row is left in the
queue that the new entry blocks, exactly when every row in the queue that the name covers has the
name itself. -/
theorem classified_leaves_iff (hlower : LowerCase env)
    (h : (classifyUnknownDomain env d category wildcard).run w = (.ok b, w')) :
    Cleared env w'.db b ↔ Alone env w.db d := by
  obtain ⟨hdomain, hrows⟩ := run_classifyUnknownDomain h
  rw [hlower.idem] at hdomain
  constructor
  · intro hcleared hdot r hr hqueue hcover
    by_contra hne
    have hstays : classify (env.toLowerCase d) category r = r := if_neg hne
    refine hcleared r ((hrows r).mpr ⟨r, hr, hstays.symm⟩) hqueue ?_
    rw [Covers, hdomain]
    exact ⟨hdot, hcover.imp_left Eq.symm⟩
  · intro halone r hr hqueue hcover
    obtain ⟨r₀, hr₀, rfl⟩ := (hrows r).mp hr
    rw [Covers, hdomain] at hcover
    by_cases heq : r₀.domain = env.toLowerCase d
    · rw [classify, if_pos heq] at hqueue
      cases hqueue
    · rw [classify, if_neg heq] at hqueue hcover
      exact heq (halone hcover.1 r₀ hr₀ hqueue (hcover.2.imp_left Eq.symm))

end Classify

/-! ### Recorded queries -/

/-- The world after a list of checks, each of an address and a name. -/
def asked (env : Env) (queries : List (String × String)) (w : World) : World :=
  queries.foldl (fun w q => ((checkPolicy env q.1 q.2).run w).2) w

/-- The phone has asked for a name; then the administrator classifies a name. -/
def classified (query name : String) : Except Err BlockedDomain × World :=
  (classifyUnknownDomain .plain name .gaming true).run
    (asked .plain [("10.0.0.5", query)] house)

/-- The entry that the administrator adds for a name. -/
def entry (name : String) : BlockedDomain :=
  ⟨house.uuids 6 0, name, some .gaming, true, 0⟩

theorem classified_leaves_roblox :
    Cleared .plain (classified "roblox.com" "Roblox.com").2.db (entry "roblox.com") ↔
      Alone .plain (asked .plain [("10.0.0.5", "roblox.com")] house).db "Roblox.com" :=
  classified_leaves_iff lowerCase_plain (Prod.ext (by decide +kernel) rfl)

/-- The row of the phone's query for a subdomain. -/
def subdomainRow : UnknownDomainLog :=
  ⟨house.uuids 5 0, "www.roblox.com", "10.0.0.5", some "phone", 1, 0, 0, none, false⟩

/-- The row of a subdomain stays in the queue. -/
theorem subdomain_stays : ¬ ∀ (env : Env) (start w' : World) (queries : List (String × String))
    (d : String) (category : BlockCategory) (b : BlockedDomain), LowerCase env →
    start.db.unknownDomainLogs.rows = [] →
    (classifyUnknownDomain env d category true).run (asked env queries start) = (.ok b, w') →
    Cleared env w'.db b := by
  intro h
  have hcleared := h .plain house (classified "www.roblox.com" "roblox.com").2 _ "roblox.com"
    .gaming (entry "roblox.com") lowerCase_plain rfl (Prod.ext (by decide +kernel) rfl)
  have hrow : subdomainRow ∈
      (classified "www.roblox.com" "roblox.com").2.db.unknownDomainLogs.rows := by
    decide +kernel
  exact hcleared subdomainRow hrow rfl ⟨by decide, .inr (by decide)⟩

end GuardTime.Dns.Queue
