import Mathlib.Tactic
import GuardTime.Lib.Mean
import GuardTime.Services.NetworkHealth
import GuardTime.Household

/-! # The score of the household

The score is the rounded mean of the sections that are measured, each with its own weight, and every
percent grows with what it counts. So the score lies between the percents of the measured sections,
a grey section has no part in it, and no good sign lowers it (`household_score`). -/

namespace GuardTime.Health.Score

open GuardTime.Lib.Program GuardTime.Lib.Js GuardTime.Lib.Mean GuardTime.Schema GuardTime.Server
open GuardTime.Prisma
open GuardTime.Services GuardTime.Services.Reports GuardTime.Services.NetworkHealth

/-- Every part is at most its total, and only a household with a gateway has tested routers. -/
structure Valid (input : NetworkHealthInput) : Prop where
  dns : input.dns.protectedCount ≤ input.dns.total
  router : input.router.healthy ≤ input.router.tested
  gateway : 0 < input.router.tested → input.router.anyGateway = true
  plugin : input.plugin.succeeded ≤ input.plugin.considered
  devices : input.devicesOnline ≤ input.devicesTotal

/-- The sections of the score that are not grey. -/
def measured (s : NetworkHealthSummary) : List HealthSection :=
  [s.dns, s.router, s.plugin, s.security, s.networkStability].filter fun x => x.color ≠ .grey

/-- The percents of the sections that are not grey. -/
def percents (s : NetworkHealthSummary) : List ℤ := (measured s).filterMap HealthSection.percent

/-- The score lies between the smallest and the largest percent of the measured sections. -/
structure Bounded (s : NetworkHealthSummary) : Prop where
  percent : ∀ x ∈ measured s, x.percent ≠ none
  extremes : ∃ lo ∈ percents s, ∃ hi ∈ percents s, (∀ p ∈ percents s, lo ≤ p ∧ p ≤ hi) ∧
    lo ≤ s.overallProtection ∧ s.overallProtection ≤ hi
  nonneg : 0 ≤ s.overallProtection
  le_hundred : s.overallProtection ≤ 100

/-- The second household has the same totals, no fewer good signs and no more bad ones. -/
structure Better (i i' : NetworkHealthInput) : Prop where
  dnsTotal : i.dns.total = i'.dns.total
  tested : i.router.tested = i'.router.tested
  anyGateway : i.router.anyGateway = i'.router.anyGateway
  considered : i.plugin.considered = i'.plugin.considered
  devicesTotal : i.devicesTotal = i'.devicesTotal
  protectedCount : i.dns.protectedCount ≤ i'.dns.protectedCount
  healthy : i.router.healthy ≤ i'.router.healthy
  succeeded : i.plugin.succeeded ≤ i'.plugin.succeeded
  devicesOnline : i.devicesOnline ≤ i'.devicesOnline
  vpn : i'.vpnDetections24h ≤ i.vpnDetections24h
  bypass : i'.bypassSuspectedDeviceCount ≤ i.bypassSuspectedDeviceCount
  doh : i'.dohDetections24h ≤ i.dohDetections24h

/-! ### Percents -/

section Percents
variable {part part' total total' : ℕ} {p : ℤ}

theorem percentOf_mono (htotal : total = total') (h : part ≤ part') :
    ((percentOf part total).isSome ↔ (percentOf part' total').isSome) ∧
      ∀ p ∈ percentOf part total, ∀ p' ∈ percentOf part' total', p ≤ p' := by
  subst htotal
  unfold percentOf
  split_ifs with htotal
  · refine ⟨by simp, fun p hp p' hp' => ?_⟩
    obtain rfl := Option.mem_some_iff.mp hp
    obtain rfl := Option.mem_some_iff.mp hp'
    refine round_mono (mul_le_mul_of_nonneg_right ?_ (by norm_num))
    exact div_le_div_of_nonneg_right (by exact_mod_cast h) (by positivity)
  · exact ⟨Iff.rfl, by simp⟩

/-- **A percent of a part is one of 0 to 100.** -/
theorem percentOf_range (hle : part ≤ total) (h : p ∈ percentOf part total) : 0 ≤ p ∧ p ≤ 100 := by
  unfold percentOf at h
  split_ifs at h with htotal
  · obtain rfl := Option.mem_some_iff.mp h
    have hpos : (0 : ℚ) < total := by exact_mod_cast htotal
    have hratio : (part : ℚ) / total ≤ 1 := (div_le_one hpos).mpr (by exact_mod_cast hle)
    refine ⟨le_round ?_, round_le ?_⟩
    · push_cast
      positivity
    · push_cast
      linarith
  · simp at h

end Percents

/-! ### Sections -/

/-- The section has the label and the percent, and is grey exactly without a percent. -/
structure Shows (name : String) (p : Option ℤ) (x : HealthSection) : Prop where
  label : x.label = name
  percent : x.percent = p
  grey : x.color = .grey ↔ p = none

section Sections
variable {i i' : NetworkHealthInput}

theorem colorForPercent_ne (p : ℤ) : colorForPercent p ≠ .grey := by
  unfold colorForPercent
  split_ifs <;> simp

theorem shows_dns (i : NetworkHealthInput) : Shows "DNS" (dnsPercent i) (dns i) := by
  unfold dns
  cases dnsPercent i with
  | none => exact ⟨rfl, rfl, by simp⟩
  | some p => exact ⟨rfl, rfl, by simpa using colorForPercent_ne p⟩

theorem shows_plugin (i : NetworkHealthInput) : Shows "Plugin" (pluginPercent i) (plugin i) := by
  unfold plugin
  cases pluginPercent i with
  | none => exact ⟨rfl, rfl, by simp⟩
  | some p => exact ⟨rfl, rfl, by simpa using colorForPercent_ne p⟩

theorem shows_networkStability (i : NetworkHealthInput) :
    Shows "Network Stability" (stabilityPercent i) (networkStability i) := by
  unfold networkStability
  cases stabilityPercent i with
  | none => exact ⟨rfl, rfl, by simp⟩
  | some p => exact ⟨rfl, rfl, by simpa using colorForPercent_ne p⟩

theorem shows_security (i : NetworkHealthInput) :
    Shows "Security" (some (securityPercent i)) (security i) :=
  ⟨rfl, rfl, by simpa [security] using colorForPercent_ne _⟩

/-- A household without a gateway has no tested routers, so no percent is pushed behind a grey
section. -/
theorem shows_router (hv : Valid i) : Shows "Router" (routerPercent i) (router i) := by
  unfold router
  split_ifs with hgateway
  · have hnone : routerPercent i = none := by
      refine if_neg fun htested => ?_
      rw [hv.gateway htested] at hgateway
      exact absurd hgateway (by simp)
    rw [hnone]
    exact ⟨rfl, rfl, by simp⟩
  · cases routerPercent i with
    | none => exact ⟨rfl, rfl, by simp⟩
    | some p => exact ⟨rfl, rfl, by simpa using colorForPercent_ne p⟩

/-! ### Security -/

/-- A signal of the security section is one of 0 to 100. -/
def InRange (x : HealthSection) : Prop := 0 ≤ x.percent.getD 0 ∧ x.percent.getD 0 ≤ 100

theorem signals_range (i : NetworkHealthInput) :
    InRange (vpn i) ∧ InRange (privateDns i) ∧ InRange (doh i) := by
  unfold InRange vpn privateDns doh
  refine ⟨?_, ?_, ?_⟩ <;> split_ifs <;> simp

theorem securityPercent_range (i : NetworkHealthInput) :
    0 ≤ securityPercent i ∧ securityPercent i ≤ 100 := by
  obtain ⟨⟨hvpn, hvpn'⟩, ⟨hdns, hdns'⟩, hdoh, hdoh'⟩ := signals_range i
  refine ⟨le_round ?_, round_le ?_⟩
  · rw [le_div_iff₀ (by norm_num)]
    exact_mod_cast by omega
  · rw [div_le_iff₀ (by norm_num)]
    exact_mod_cast by omega

/-- Fewer detections never lower a signal. -/
theorem signals_mono (h : Better i i') :
    (vpn i).percent.getD 0 ≤ (vpn i').percent.getD 0 ∧
      (privateDns i).percent.getD 0 ≤ (privateDns i').percent.getD 0 ∧
      (doh i).percent.getD 0 ≤ (doh i').percent.getD 0 := by
  have hvpn := h.vpn
  have hbypass := h.bypass
  have hdoh := h.doh
  unfold vpn privateDns doh
  refine ⟨?_, ?_, ?_⟩ <;> split_ifs <;> first | omega | simp

theorem securityPercent_mono (h : Better i i') : securityPercent i ≤ securityPercent i' := by
  obtain ⟨hvpn, hdns, hdoh⟩ := signals_mono h
  refine round_mono (div_le_div_of_nonneg_right ?_ (by norm_num))
  exact_mod_cast by omega

/-! ### The mean -/

/-- The percents that were pushed, with their weights. -/
def terms (i : NetworkHealthInput) : List (ℚ × ℚ) :=
  (sections i).map fun s => (((s.entry.percent.getD 0 : ℤ) : ℚ), (s.weight : ℚ))

theorem terms_nonneg (i : NetworkHealthInput) : ∀ t ∈ terms i, 0 ≤ t.2 := by
  intro t ht
  obtain ⟨s, -, rfl⟩ := List.mem_map.mp ht
  exact Nat.cast_nonneg _

theorem total_terms (i : NetworkHealthInput) :
    total (terms i) = (((sections i).map Weighted.weight).sum : ℕ) := by
  rw [total, terms, List.map_map, Nat.cast_list_sum, List.map_map]
  rfl

/-- Security is always measured. -/
theorem weight_pos (i : NetworkHealthInput) : 0 < ((sections i).map Weighted.weight).sum := by
  have hmem : 20 ∈ (sections i).map Weighted.weight :=
    List.mem_map.mpr ⟨⟨security i, 20⟩, by simp [sections], rfl⟩
  exact lt_of_lt_of_le (by norm_num) (List.le_sum_of_mem hmem)

theorem overallProtection_eq (i : NetworkHealthInput) :
    overallProtection i = Services.Reports.round (mean (terms i)) := by
  have hweight : (sections i).foldl (fun sum s => sum + s.weight) 0 =
      ((sections i).map Weighted.weight).sum := by
    rw [List.sum_eq_foldl, List.foldl_map]
  have hsum : (sections i).foldl (fun (sum : ℤ) s => sum + s.entry.percent.getD 0 * s.weight) 0 =
      ((sections i).map fun s => s.entry.percent.getD 0 * (s.weight : ℤ)).sum := by
    rw [List.sum_eq_foldl, List.foldl_map]
  have hcast : (terms i).map (fun t => t.1 * t.2) =
      ((sections i).map fun s => s.entry.percent.getD 0 * (s.weight : ℤ)).map Int.cast := by
    simp [terms, List.map_map, Function.comp_def]
  rw [NetworkHealth.overallProtection]
  simp only [hweight, hsum]
  rw [if_pos (weight_pos i), mean, total_terms, hcast, Int.cast_list_sum]

/-! ### Measured sections -/

/-- The weight of a section. -/
def weightOf : String → ℕ
  | "DNS" => 30
  | "Router" | "Security" => 20
  | "Plugin" | "Network Stability" => 15
  | _ => 0

/-- A section is pushed exactly when it is not grey. -/
theorem pushed_eq {name : String} {p : Option ℤ} {x : HealthSection} (h : Shows name p x) :
    (if p.isSome then [⟨x, weightOf name⟩] else []) =
      ([x].filter fun x => x.color ≠ .grey).map fun x => (⟨x, weightOf x.label⟩ : Weighted) := by
  cases p with
  | none => simp [h.grey.mpr rfl]
  | some p =>
    have hcolor : x.color ≠ .grey := fun hgrey => by simpa using h.grey.mp hgrey
    simp [hcolor, h.label]

theorem sections_eq (hv : Valid i) (now : Time) : sections i =
    (measured (computeNetworkHealth i now)).map fun x => ⟨x, weightOf x.label⟩ := by
  have hmeasured : measured (computeNetworkHealth i now) =
      ([dns i].filter fun x => x.color ≠ .grey) ++ ([router i].filter fun x => x.color ≠ .grey) ++
      ([plugin i].filter fun x => x.color ≠ .grey) ++
        ([security i].filter fun x => x.color ≠ .grey) ++
      ([networkStability i].filter fun x => x.color ≠ .grey) := by
    simp only [← List.filter_append]
    rfl
  rw [hmeasured, List.map_append, List.map_append, List.map_append, List.map_append,
    ← pushed_eq (shows_dns i), ← pushed_eq (shows_router hv), ← pushed_eq (shows_plugin i),
    ← pushed_eq (shows_security i), ← pushed_eq (shows_networkStability i)]
  rfl

/-- **The score is the mean of the measured sections.** -/
theorem terms_eq (hv : Valid i) (now : Time) : terms i = (measured (computeNetworkHealth i now)).map
    fun x => (((x.percent.getD 0 : ℤ) : ℚ), (weightOf x.label : ℚ)) := by
  rw [terms, sections_eq hv now, List.map_map]
  rfl

theorem shown_of_measured (hv : Valid i) {now : Time} {x : HealthSection}
    (hx : x ∈ measured (computeNetworkHealth i now)) : ∃ p, x.percent = some p ∧ 0 ≤ p ∧
    p ≤ 100 := by
  have hshown : ∀ {name : String} {p : Option ℤ} {y : HealthSection}, Shows name p y →
      (∀ q ∈ p, 0 ≤ q ∧ q ≤ 100) → y.color ≠ .grey → ∃ q, y.percent = some q ∧ 0 ≤ q ∧ q ≤ 100 := by
    intro name p y hy hrange hcolor
    cases p with
    | none => exact absurd (hy.grey.mpr rfl) hcolor
    | some q => exact ⟨q, hy.percent, hrange q rfl⟩
  obtain ⟨hmem, hcolor⟩ := List.mem_filter.mp hx
  have hgrey : x.color ≠ .grey := of_decide_eq_true hcolor
  simp only [List.mem_cons, List.not_mem_nil, or_false] at hmem
  rcases hmem with rfl | rfl | rfl | rfl | rfl
  · exact hshown (shows_dns i) (fun q => percentOf_range hv.dns) hgrey
  · exact hshown (shows_router hv) (fun q => percentOf_range hv.router) hgrey
  · exact hshown (shows_plugin i) (fun q => percentOf_range hv.plugin) hgrey
  · refine hshown (shows_security i) (fun q hq => ?_) hgrey
    obtain rfl := Option.mem_some_iff.mp hq
    exact securityPercent_range i
  · exact hshown (shows_networkStability i) (fun q => percentOf_range hv.devices) hgrey

theorem mem_percents (hv : Valid i) {now : Time} {t : ℚ × ℚ} (ht : t ∈ terms i) :
    ∃ p ∈ percents (computeNetworkHealth i now), t.1 = (p : ℚ) := by
  rw [terms_eq hv now] at ht
  obtain ⟨x, hx, rfl⟩ := List.mem_map.mp ht
  obtain ⟨p, hp, -⟩ := shown_of_measured hv hx
  exact ⟨p, List.mem_filterMap.mpr ⟨x, hx, hp⟩, by simp [hp]⟩

theorem total_pos (i : NetworkHealthInput) : 0 < total (terms i) := by
  rw [total_terms]
  exact_mod_cast weight_pos i

theorem bounded (hv : Valid i) (now : Time) : Bounded (computeNetworkHealth i now) := by
  have hrange : ∀ p ∈ percents (computeNetworkHealth i now), 0 ≤ p ∧ p ≤ 100 := by
    intro p hp
    obtain ⟨x, hx, hxp⟩ := List.mem_filterMap.mp hp
    obtain ⟨q, hq, hrange⟩ := shown_of_measured hv hx
    obtain rfl : q = p := Option.some.inj (hq.symm.trans hxp)
    exact hrange
  have hsecurity : securityPercent i ∈ percents (computeNetworkHealth i now) := by
    refine List.mem_filterMap.mpr ⟨security i, List.mem_filter.mpr ⟨?_, ?_⟩, rfl⟩
    · simp [computeNetworkHealth]
    · simp [security, colorForPercent_ne]
  have hmem := List.mem_toFinset.mpr hsecurity
  obtain ⟨lo, hlo, hmin⟩ := Finset.exists_min_image _ id ⟨_, hmem⟩
  obtain ⟨hi, hhi, hmax⟩ := Finset.exists_max_image _ id ⟨_, hmem⟩
  simp only [List.mem_toFinset, id] at hlo hmin hhi hmax
  have hscore : (computeNetworkHealth i now).overallProtection =
    Services.Reports.round (mean (terms i)) :=
    overallProtection_eq i
  have hbelow : lo ≤ (computeNetworkHealth i now).overallProtection := by
    rw [hscore]
    refine le_round (le_mean (terms_nonneg i) (total_pos i) fun t ht => ?_)
    obtain ⟨p, hp, hval⟩ := mem_percents hv ht
    rw [hval]
    exact_mod_cast hmin p hp
  have habove : (computeNetworkHealth i now).overallProtection ≤ hi := by
    rw [hscore]
    refine round_le (mean_le (terms_nonneg i) (total_pos i) fun t ht => ?_)
    obtain ⟨p, hp, hval⟩ := mem_percents hv ht
    rw [hval]
    exact_mod_cast hmax p hp
  refine ⟨fun x hx hnone => ?_,
    ⟨lo, hlo, hi, hhi, fun p hp => ⟨hmin p hp, hmax p hp⟩, hbelow, habove⟩,
    (hrange lo hlo).1.trans hbelow, habove.trans (hrange hi hhi).2⟩
  obtain ⟨p, hp, -⟩ := shown_of_measured hv hx
  simp [hp] at hnone

/-- Grey sections have no part in the score. -/
theorem score_congr (hv : Valid i) (hv' : Valid i') {now now' : Time}
    (h : (measured (computeNetworkHealth i now)).map (fun x => (x.label, x.percent)) =
      (measured (computeNetworkHealth i' now')).map fun x => (x.label, x.percent)) :
    overallProtection i = overallProtection i' := by
  have hterms := congrArg (List.map fun y : String × Option ℤ =>
    (((y.2.getD 0 : ℤ) : ℚ), (weightOf y.1 : ℚ))) h
  rw [List.map_map, List.map_map] at hterms
  rw [overallProtection_eq, overallProtection_eq, terms_eq hv now, terms_eq hv' now']
  exact congrArg (fun l => Services.Reports.round (mean l)) hterms

/-! ### Growth -/

/-- The second entry has the weight of the first and no smaller percent. -/
def Grows (s s' : Weighted) : Prop :=
  s.entry.percent.getD 0 ≤ s'.entry.percent.getD 0 ∧ s.weight = s'.weight

/-- What is pushed for a section grows with its percent. -/
theorem pushed_mono {name : String} {x x' : HealthSection} {p p' : Option ℤ} (w : ℕ)
    (hx : Shows name p x) (hx' : Shows name p' x')
    (h : (p.isSome ↔ p'.isSome) ∧ ∀ q ∈ p, ∀ q' ∈ p', q ≤ q') :
    List.Forall₂ Grows (if p.isSome then [⟨x, w⟩] else []) (if p'.isSome then [⟨x', w⟩]
      else []) := by
  obtain ⟨hsome, hle⟩ := h
  cases p with
  | none =>
    cases p' with
    | none => simp
    | some q' => simp at hsome
  | some q =>
    cases p' with
    | none => simp at hsome
    | some q' => simpa [Grows, hx.percent, hx'.percent] using hle q rfl q' rfl

theorem sections_mono (hv : Valid i) (hv' : Valid i') (h : Better i i') :
    List.Forall₂ Grows (sections i) (sections i') := by
  have hdns := pushed_mono 30 (shows_dns i) (shows_dns i')
    (percentOf_mono h.dnsTotal h.protectedCount)
  have hrouter := pushed_mono 20 (shows_router hv) (shows_router hv')
    (percentOf_mono h.tested h.healthy)
  have hplugin := pushed_mono 15 (shows_plugin i) (shows_plugin i')
    (percentOf_mono h.considered h.succeeded)
  have hsecurity : List.Forall₂ Grows [⟨security i, 20⟩] [⟨security i', 20⟩] := by
    simpa [Grows, security] using securityPercent_mono h
  have hstability := pushed_mono 15 (shows_networkStability i) (shows_networkStability i')
    (percentOf_mono h.devicesTotal h.devicesOnline)
  exact List.rel_append (List.rel_append (List.rel_append (List.rel_append hdns hrouter) hplugin)
    hsecurity) hstability

theorem score_mono (hv : Valid i) (hv' : Valid i') (h : Better i i') :
    overallProtection i ≤ overallProtection i' := by
  rw [overallProtection_eq, overallProtection_eq]
  refine round_mono (mean_mono (terms_nonneg i) ?_)
  rw [terms, terms, List.forall₂_map_left_iff, List.forall₂_map_right_iff]
  refine (sections_mono hv hv' h).imp fun s s' hs => ⟨?_, ?_⟩
  · exact Int.cast_le.mpr hs.1
  · exact congrArg Nat.cast hs.2

end Sections

/-! ### What the service hands over -/

theorem countStates_concat (items : List DeviceHealth.DeviceHealthItem)
    (item : DeviceHealth.DeviceHealthItem) : DeviceHealth.countStates (items ++ [item]) =
      Function.update (DeviceHealth.countStates items) item.verdict.state
        (DeviceHealth.countStates items item.verdict.state + 1) := by
  rw [DeviceHealth.countStates, List.foldl_append]
  rfl

theorem countStates_le (items : List DeviceHealth.DeviceHealthItem)
    (state : DeviceHealth.DeviceHealthState) :
    DeviceHealth.countStates items state ≤ items.length := by
  have hcount : DeviceHealth.countStates items state =
      items.countP fun item => item.verdict.state = state := by
    induction items using List.reverseRecOn with
    | nil => rfl
    | append_singleton items item ih =>
      rw [countStates_concat, List.countP_append, ← ih]
      by_cases hstate : item.verdict.state = state
      · rw [hstate, Function.update_self]
        simp [hstate]
      · rw [Function.update_of_ne (Ne.symm hstate)]
        simp [hstate]
  rw [hcount]
  exact List.countP_le_length

theorem signals_valid {parentId : String} {w w' : World} {i : NetworkHealthInput}
    (h : (signals parentId).run w = (.ok i, w')) : Valid i := by
  obtain ⟨now, w₁, -, h⟩ := Prog.run_bind_ok.mp h
  obtain ⟨summary, w₂, hsummary, h⟩ := Prog.run_bind_ok.mp h
  obtain ⟨gateways, w₃, -, h⟩ := Prog.run_bind_ok.mp h
  obtain ⟨devices, w₄, -, h⟩ := Prog.run_bind_ok.mp h
  obtain ⟨routers, w₅, hrouters, h⟩ := Prog.run_bind_ok.mp h
  obtain ⟨commands, w₆, -, h⟩ := Prog.run_bind_ok.mp h
  obtain ⟨vpn, w₇, -, h⟩ := Prog.run_bind_ok.mp h
  obtain ⟨doh, w₈, -, h⟩ := Prog.run_bind_ok.mp h
  obtain rfl := Except.ok.inj (Prod.mk.inj h).1
  refine ⟨?_, List.length_filter_le _ _, fun htested => ?_, List.length_filter_le _ _,
    List.length_filter_le _ _⟩
  · obtain ⟨rows, w₉, -, hsummary⟩ := Prog.run_bind_ok.mp hsummary
    obtain ⟨active, w₁₀, -, hsummary⟩ := Prog.run_bind_ok.mp hsummary
    obtain ⟨today, w₁₁, -, hsummary⟩ := Prog.run_bind_ok.mp hsummary
    obtain rfl := Except.ok.inj (Prod.mk.inj hsummary).1
    exact countStates_le _ _
  · rcases gateways with _ | ⟨g, gateways⟩
    · obtain rfl := Except.ok.inj (Prod.mk.inj hrouters).1
      exact absurd htested (by simp)
    · simp

/-- **The score of the household.** Whatever is counted, the score lies between the percents of the
sections that are measured; a section without data has no part in it; and with the same totals it
never falls when more is protected, healthy, acknowledged or online, nor when less is detected. The
service hands over only such counts. -/
theorem household_score :
    (∀ i now, Valid i → Bounded (computeNetworkHealth i now)) ∧
    (∀ i i' now now', Valid i → Valid i' →
      (measured (computeNetworkHealth i now)).map (fun x => (x.label, x.percent)) =
        (measured (computeNetworkHealth i' now')).map (fun x => (x.label, x.percent)) →
      (computeNetworkHealth i now).overallProtection =
        (computeNetworkHealth i' now').overallProtection) ∧
    (∀ i i' now now', Valid i → Valid i' → Better i i' →
      (computeNetworkHealth i now).overallProtection ≤
        (computeNetworkHealth i' now').overallProtection) ∧
    ∀ parentId w i w', (signals parentId).run w = (.ok i, w') → Valid i :=
  ⟨fun _ now hv => bounded hv now, fun _ _ _ _ hv hv' h => score_congr hv hv' h,
    fun _ _ _ _ hv hv' h => score_mono hv hv' h, fun _ _ _ _ h => signals_valid h⟩

/-- A household with a phone that bypasses the filter, and the same one without. -/
def flagged : NetworkHealthInput :=
  ⟨⟨10, 3⟩, ⟨2, 1, true⟩, ⟨0, 0⟩, 1, 2, 0, 7, 10, none⟩

theorem household_score_flagged :
    (computeNetworkHealth flagged 0).overallProtection = 50 ∧
    Bounded (computeNetworkHealth flagged 0) ∧
    (computeNetworkHealth flagged 0).overallProtection ≤
      (computeNetworkHealth { flagged with bypassSuspectedDeviceCount := 0 }
        0).overallProtection := by
  have hv : Valid flagged := ⟨by decide, by decide, fun _ => rfl, by decide, by decide⟩
  have hv' : Valid { flagged with bypassSuspectedDeviceCount := 0 } :=
    ⟨hv.1, hv.2, hv.3, hv.4, hv.5⟩
  have hbetter : Better flagged { flagged with bypassSuspectedDeviceCount := 0 } :=
    ⟨rfl, rfl, rfl, rfl, rfl, le_rfl, le_rfl, le_rfl, le_rfl, le_rfl, by decide, le_rfl⟩
  exact ⟨by decide +kernel, household_score.1 _ 0 hv, household_score.2.2.1 _ _ 0 0 hv hv' hbetter⟩

end GuardTime.Health.Score
