import Mathlib.Tactic
import GuardTime.Dns.Versions

/-! # Keys of decisions

A decision is cached under its address, version and name, put together with colons. Addresses and
names may contain colons themselves, so the parts of two queries can come together to one key.

* `key_eq_iff`: when they do;
* `separate_iff`: which two queries never share a decision. -/

namespace GuardTime.Dns.Keys

open GuardTime.Lib.Program GuardTime.Lib.TtlCache GuardTime.Lib.Js GuardTime.Schema
open GuardTime.Server GuardTime.Services.DnsPolicy GuardTime.Dns.Engine GuardTime.Dns.Cache

/-- A query under a version of its address. -/
@[ext] structure Query where
  sourceIp : String
  version : ℕ
  domain : String
deriving DecidableEq

/-- The key of its decision. -/
def Query.key (t : Query) : String := decisionKey t.sourceIp t.version t.domain

/-- The address of `t'` continues that of `t` with its version, and the rest of it and the version
of `t'` are the start of the name of `t`. -/
def Overlaps (t t' : Query) : Prop := ∃ z,
  t'.sourceIp = t.sourceIp ++ ":" ++ toString t.version ++ z ∧
    ":" ++ t.domain = z ++ ":" ++ toString t'.version ++ ":" ++ t'.domain

/-! ### Keys as lists of characters -/

theorem toList_key (t : Query) : t.key.toList = "dns:".toList ++ (t.sourceIp.toList ++
    ':' :: ((toString t.version).toList ++ ':' :: t.domain.toList)) := by
  simp [Query.key, decisionKey]

theorem notMem_version (n : ℕ) : ':' ∉ (toString n).toList := notMem_toString (by decide) n

theorem overlaps_iff {t t' : Query} : Overlaps t t' ↔ ∃ z,
    t'.sourceIp.toList = t.sourceIp.toList ++ ':' :: ((toString t.version).toList ++ z) ∧
      ':' :: t.domain.toList = z ++
        ':' :: ((toString t'.version).toList ++ ':' :: t'.domain.toList) := by
  constructor
  · rintro ⟨z, hip, hd⟩
    refine ⟨z.toList, ?_, ?_⟩
    · rw [hip]
      simp
    · have hlists := congrArg String.toList hd
      simpa using hlists
  · rintro ⟨z, hip, hd⟩
    refine ⟨String.ofList z, String.toList_inj.mp ?_, String.toList_inj.mp ?_⟩
    · rw [hip]
      simp
    · simpa using hd

/-- The address of the second query is the longer one. -/
theorem overlaps_of_longer {t t' : Query} {s : List Char}
    (hip : t'.sourceIp.toList = t.sourceIp.toList ++ s)
    (h : ':' :: ((toString t.version).toList ++ ':' :: t.domain.toList) =
      s ++ ':' :: ((toString t'.version).toList ++ ':' :: t'.domain.toList)) :
    t = t' ∨ Overlaps t t' := by
  rcases s with _ | ⟨x, s⟩
  · have hcut := (List.cons.inj h).2
    obtain ⟨hv, hd⟩ := eq_of_first_cut (notMem_version _) (notMem_version _) hcut
    rw [List.append_nil] at hip
    exact .inl (Query.ext (String.toList_inj.mp hip.symm)
      (toString_nat_injective (String.toList_inj.mp hv)) (String.toList_inj.mp hd))
  · obtain ⟨rfl, hrest⟩ := List.cons.inj h
    refine .inr (overlaps_iff.mpr ?_)
    rcases List.append_eq_append_iff.mp hrest with ⟨z, rfl, hd⟩ | ⟨z, hv, hd⟩
    · exact ⟨z, hip, hd⟩
    · rcases z with _ | ⟨y, z⟩
      · rw [List.append_nil] at hv
        exact ⟨[], by rw [hip, hv, List.append_nil], hd.symm⟩
      · obtain ⟨rfl, -⟩ := List.cons.inj hd
        refine absurd ?_ (notMem_version t.version)
        rw [hv]
        simp

theorem key_of_overlaps {t t' : Query} (h : Overlaps t t') : t.key = t'.key := by
  obtain ⟨z, hip, hd⟩ := overlaps_iff.mp h
  refine String.toList_inj.mp ?_
  rw [toList_key, toList_key, hip, hd]
  simp

/-- **When two queries have one key.** -/
theorem key_eq_iff {t t' : Query} : t.key = t'.key ↔ t = t' ∨ Overlaps t t' ∨ Overlaps t' t := by
  constructor
  · intro h
    have hlists := congrArg String.toList h
    rw [toList_key, toList_key] at hlists
    rcases List.append_eq_append_iff.mp (List.append_cancel_left hlists) with
      ⟨s, hip, hrest⟩ | ⟨s, hip, hrest⟩
    · rcases overlaps_of_longer hip hrest with rfl | ho
      · exact .inl rfl
      · exact .inr (.inl ho)
    · rcases overlaps_of_longer hip hrest with rfl | ho
      · exact .inl rfl
      · exact .inr (.inr ho)
  · rintro (rfl | ho | ho)
    · rfl
    · exact key_of_overlaps ho
    · exact (key_of_overlaps ho).symm

theorem ne_of_overlaps {t t' : Query} (h : Overlaps t t') : t ≠ t' := by
  rintro rfl
  obtain ⟨z, hip, -⟩ := overlaps_iff.mp h
  have hlen := congrArg List.length hip
  simp only [List.length_append, List.length_cons] at hlen
  omega

/-! ### Shared decisions -/

/-- No decision is cached. -/
def Undecided (w : World) : Prop := ∀ k e, w.cache k = some e → ∀ r, e.value ≠ .decision r

/-- The queries have different keys, and the decision made for `t` does not answer `t'`. -/
def Separate (t t' : Query) : Prop :=
  (t.key = t'.key → t = t') ∧
  ∀ env w, Undecided w → versionAt w t.sourceIp = t.version →
    versionAt w t'.sourceIp = t'.version →
    cachedFor ((checkPolicy env t.sourceIp t.domain).run w).2 t'.sourceIp t'.domain ≠ none → t = t'

/-- The only decision after a check is its own. -/
theorem key_of_cachedFor {env : Env} {w : World} {t t' : Query} (hw : Undecided w)
    (ht : versionAt w t.sourceIp = t.version) (ht' : versionAt w t'.sourceIp = t'.version)
    (hc : cachedFor ((checkPolicy env t.sourceIp t.domain).run w).2 t'.sourceIp t'.domain ≠ none) :
    t'.key = t.key := by
  have honly := checkPolicy_cache env t.sourceIp t.domain w
  rw [ht] at honly
  have hversion : versionAt ((checkPolicy env t.sourceIp t.domain).run w).2 t'.sourceIp =
      t'.version := by
    rw [← ht', versionAt, versionAt, Cache.get, Cache.get, honly.now_eq]
    rcases honly.entry (versionKey t'.sourceIp) with hk | hk | ⟨hk, -⟩
    · rw [hk]
    · exact absurd hk (not_isAux_versionKey _)
    · exact absurd hk.symm (decisionKey_ne_versionKey _ _ _ _)
  rw [cachedFor, hversion] at hc
  rcases honly.entry t'.key with hk | hk | ⟨hk, -⟩
  · refine absurd ?_ hc
    rw [Cache.get]
    change cachedDecision
      (Option.bind (((checkPolicy env t.sourceIp t.domain).run w).2.cache t'.key)
      _) = none
    rw [hk]
    rcases he : w.cache t'.key with _ | e
    · rfl
    · have hvalue := hw t'.key e he
      rcases e with ⟨v | r | d | _, setAt, ttl⟩
      · simp only [Option.bind_some]
        split_ifs <;> rfl
      · exact absurd rfl (hvalue r)
      · simp only [Option.bind_some]
        split_ifs <;> rfl
      · simp only [Option.bind_some]
        split_ifs <;> rfl
  · exact absurd hk (not_isAux_decisionKey _ _ _)
  · exact hk

/-- **Which queries never share a decision:** those that do not overlap. -/
theorem separate_iff (t t' : Query) : Separate t t' ↔ ¬ Overlaps t t' ∧ ¬ Overlaps t' t := by
  constructor
  · rintro ⟨hkey, -⟩
    refine ⟨fun ho => ?_, fun ho => ?_⟩
    · exact ne_of_overlaps ho (hkey (key_of_overlaps ho))
    · exact ne_of_overlaps ho (hkey (key_of_overlaps ho).symm).symm
  · rintro ⟨ho, ho'⟩
    have hkey : t.key = t'.key → t = t' := by
      intro h
      rcases key_eq_iff.mp h with rfl | h | h
      · rfl
      · exact absurd h ho
      · exact absurd h ho'
    exact ⟨hkey, fun env w hw ht ht' hc => hkey (key_of_cachedFor hw ht ht' hc).symm⟩

/-- Two addresses of a network and a name that starts like a version. -/
theorem neighbours_share : ¬ ∀ t t', Separate t t' := by
  intro h
  have hkey := (h ⟨"fe80::1", 0, "0:example.org"⟩ ⟨"fe80::1:0", 0, "example.org"⟩).1 (by decide)
  exact absurd hkey (by decide)

end GuardTime.Dns.Keys
