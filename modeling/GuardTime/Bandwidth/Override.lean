import Mathlib.Tactic
import GuardTime.Bandwidth.Order

/-! # Limits of a device and of its child

A limit is for one device or for all devices of one child. A device gets one entry for each category
that has a limit for it or for its child: from a limit of the device where there is one, and from a
limit of the child elsewhere (`Resolved`). A poll asks once for the limits of all devices of the
gateway, and this leaves no limit out that one of the devices needs. -/

namespace GuardTime.Bandwidth.Override

open GuardTime.Lib.Program GuardTime.Lib.Keyed GuardTime.Lib.LastWins
open GuardTime.Schema GuardTime.Server GuardTime.Prisma GuardTime.Services
open GuardTime.Services.Gateways GuardTime.Bandwidth.Order

/-- The limit names exactly one of a device and a child. -/
def OneTarget (l : BandwidthLimit) : Prop := (truthy l.deviceId).isSome ↔ (truthy l.childId).isNone

/-- The limit is for this device. -/
def ForDevice (d : Device) (l : BandwidthLimit) : Prop := l.deviceId = some d.id

/-- The limit is for the child of this device. -/
def ForChild (d : Device) (l : BandwidthLimit) : Prop :=
  ∃ c, truthy l.childId = some c ∧ d.childId = some c

/-- The entries are what the limits say about the device: one for each category that has a limit of
the device or of its child and none for another, and each from a limit of the device, or from one of
its child when the device has none for the category. -/
structure Resolved (d : Device) (limits : List BandwidthLimit) (entries : List BandwidthEntry) :
    Prop where
  nodup : (entries.map BandwidthEntry.category).Nodup
  category : ∀ c, (∃ e ∈ entries, e.category = c) ↔
    ∃ l ∈ limits, (ForDevice d l ∨ ForChild d l) ∧ l.category = c
  origin : ∀ e ∈ entries, ∃ l ∈ limits, e = ⟨l.category, l.downloadKbps, l.uploadKbps⟩ ∧
    (ForDevice d l ∨ ForChild d l ∧ ∀ l' ∈ limits, ForDevice d l' → l'.category ≠ l.category)

/-! ### One device -/

section Device
variable {d : Device} {l : BandwidthLimit} {limits : List BandwidthLimit}

theorem ofDevice_iff : ofDevice d l = true ↔ ForDevice d l := decide_eq_true_iff

theorem forChild_of_ofChild (h : ofChild d l = true) : ForChild d l := by
  simp only [ofChild, Bool.and_eq_true, decide_eq_true_eq] at h
  obtain ⟨⟨htruthy, -⟩, hchild⟩ := h
  obtain ⟨c, hc⟩ := Option.isSome_iff_exists.mp htruthy
  exact ⟨c, hc, hchild.symm.trans (Option.filter_eq_some_iff.mp hc).1⟩

/-- A limit with one target that names the child is no limit of a device. -/
theorem ofChild_of_forChild (hone : OneTarget l) (h : ForChild d l) : ofChild d l = true := by
  obtain ⟨c, hc, hchild⟩ := h
  have hdevice : (truthy l.deviceId).isNone = true := by
    by_contra hsome
    rw [Option.isNone_iff_eq_none, ← ne_eq, Option.ne_none_iff_isSome] at hsome
    have hnone := hone.mp hsome
    simp [hc] at hnone
  have hid : l.childId = some c := (Option.filter_eq_some_iff.mp hc).1
  rw [ofChild, hc, hdevice, hid, hchild]
  simp

/-- **The override rule.** -/
theorem resolved (hone : ∀ l ∈ limits, OneTarget l) :
    Resolved d limits (resolveBandwidthLimits d limits) := by
  have horigin : ∀ e ∈ resolveBandwidthLimits d limits, ∃ l ∈ limits, e = entry l ∧
      (ForDevice d l ∨ ForChild d l ∧
        ∀ l' ∈ limits, ForDevice d l' → l'.category ≠ l.category) := by
    intro e he
    rw [resolve_eq] at he
    obtain ⟨l, hl, rfl⟩ := List.mem_map.mp he
    obtain ⟨hmem, hlayer⟩ := effective_of_last (mem_collect.mp hl)
    refine ⟨l, hmem, rfl, hlayer.imp ofDevice_iff.mp fun h => ⟨forChild_of_ofChild h.1, ?_⟩⟩
    exact fun l' hl' hdevice => h.2 l' hl' (ofDevice_iff.mpr hdevice)
  refine ⟨?_, fun c => ⟨?_, ?_⟩, horigin⟩
  · rw [resolve_eq, List.map_map]
    exact nodup_collect _
  · rintro ⟨e, he, rfl⟩
    obtain ⟨l, hl, rfl, hlayer⟩ := horigin e he
    exact ⟨l, hl, hlayer.imp id And.left, rfl⟩
  · rintro ⟨l, hl, htarget, rfl⟩
    have hmem : l ∈ layered (ofChild d) (ofDevice d) limits := by
      rw [layered, List.mem_append, List.mem_filter, List.mem_filter]
      rcases htarget with hdevice | hchild
      · exact .inr ⟨hl, ofDevice_iff.mpr hdevice⟩
      · exact .inl ⟨hl, ofChild_of_forChild (hone l hl) hchild⟩
    obtain ⟨l', hlast, hcategory⟩ := @exists_last _ _ _ BandwidthLimit.category _ _ hmem
    rw [resolve_eq]
    exact ⟨entry l', List.mem_map_of_mem (mem_collect.mpr hlast), hcategory⟩

/-- Only the limits for the device and for its child count. -/
theorem Resolved.of_agree {limits' : List BandwidthLimit} {entries : List BandwidthEntry}
    (h : Resolved d limits entries)
    (hagree : ∀ l, ForDevice d l ∨ ForChild d l → (l ∈ limits ↔ l ∈ limits')) :
    Resolved d limits' entries := by
  refine ⟨h.nodup, fun c => (h.category c).trans ?_, fun e he => ?_⟩
  · constructor
    · rintro ⟨l, hl, htarget, hc⟩
      exact ⟨l, (hagree l htarget).mp hl, htarget, hc⟩
    · rintro ⟨l, hl, htarget, hc⟩
      exact ⟨l, (hagree l htarget).mpr hl, htarget, hc⟩
  · obtain ⟨l, hl, hentry, hlayer⟩ := h.origin e he
    refine ⟨l, (hagree l (hlayer.imp id And.left)).mp hl, hentry, hlayer.imp id fun hchild =>
      ⟨hchild.1, fun l' hl' hdevice => ?_⟩⟩
    exact hchild.2 l' ((hagree l' (.inl hdevice)).mpr hl') hdevice

end Device

/-! ### One poll -/

/-- The enabled limits. -/
def enabledLimits (db : Database) : List BandwidthLimit :=
  db.bandwidthLimits.rows.filter BandwidthLimit.enabled

/-- The limits `create` makes name one target. -/
theorem oneTarget_create {parentId : String} {dto : Bandwidth.CreateBandwidthLimitDto}
    {w w' : World} {l : BandwidthLimit}
    (h : (Bandwidth.create parentId dto).run w = (.ok l, w')) : OneTarget l := by
  obtain ⟨_, w₁, hone, h⟩ := Prog.run_bind_ok.mp h
  obtain ⟨_, w₂, hboth, h⟩ := Prog.run_bind_ok.mp h
  obtain ⟨_, w₃, -, h⟩ := Prog.run_bind_ok.mp h
  obtain ⟨_, w₄, -, h⟩ := Prog.run_bind_ok.mp h
  obtain ⟨_, w₅, -, h⟩ := Prog.run_bind_ok.mp h
  have hsome := (Prog.run_require_ok.mp hone).1
  have hnot := (Prog.run_require_ok.mp hboth).1
  obtain ⟨rfl, -⟩ := run_create_ok h
  rw [OneTarget]
  constructor
  · intro hdevice
    rw [Option.isNone_iff_eq_none, ← Option.not_isSome_iff_eq_none]
    exact fun hchild => hnot ⟨hchild, hdevice⟩
  · intro hchild
    exact hsome.resolve_left
      (Option.not_isSome_iff_eq_none.mpr (Option.isNone_iff_eq_none.mp hchild))

/-- The limits loaded for the devices of a gateway are those that matter for any of them. -/
theorem mem_loaded {ds : List Device} {w w' : World} {d : Device} {l : BandwidthLimit}
    {loaded : List BandwidthLimit} (hload : (loadBandwidthLimits ds).run w = (.ok loaded, w'))
    (hone : ∀ l ∈ enabledLimits w.db, OneTarget l) (hd : d ∈ ds)
    (hl : ForDevice d l ∨ ForChild d l) : l ∈ loaded ↔ l ∈ enabledLimits w.db := by
  have hrows := load_eq (List.ne_nil_of_mem hd) w
  rw [hload] at hrows
  obtain rfl := Except.ok.inj hrows
  rw [(arrange_perm _ _).mem_iff, List.mem_filter]
  constructor
  · rintro ⟨hrow, hasked⟩
    rw [asked, Bool.and_eq_true] at hasked
    exact List.mem_filter.mpr ⟨hrow, hasked.1⟩
  · intro hon
    obtain ⟨hrow, henabled⟩ := List.mem_filter.mp hon
    exact ⟨hrow, (asked_iff hd (hl.imp ofDevice_iff.mpr (ofChild_of_forChild (hone l hon)))).mpr
      henabled⟩

/-- **Limits of a device override those of its child.** For every list of limits with one target
each, the entries of a device are what the limits say about it; `create` makes only such limits; and
in a poll every device of the gateway gets the limits the one query has loaded, resolved for it,
which is what all enabled limits say about it. -/
theorem bandwidth_override :
    (∀ (d : Device) (limits : List BandwidthLimit), (∀ l ∈ limits, OneTarget l) →
      Resolved d limits (resolveBandwidthLimits d limits)) ∧
    (∀ parentId dto w l w', (Bandwidth.create parentId dto).run w = (.ok l, w') → OneTarget l) ∧
    ∀ env w g k used version, w.db.gateways.find g = some k →
      (∀ l ∈ enabledLimits w.db, OneTarget l) →
      ∃ ds w₁ loaded w₂ p w', ds.Perm (devicesOf g w.db) ∧
        w₁.db.bandwidthLimits = w.db.bandwidthLimits ∧
        (loadBandwidthLimits ds).run w₁ = (.ok loaded, w₂) ∧
        (getPolicies env g used version).run w = (.ok p, w') ∧
        p.devices = ds.map (devicePolicy loaded) ∧
        ∀ d ∈ ds, (devicePolicy loaded d).bandwidthLimits = resolveBandwidthLimits d loaded ∧
          Resolved d (enabledLimits w.db) (resolveBandwidthLimits d loaded) := by
  refine ⟨fun d limits hone => resolved hone, fun _ _ _ _ _ h => oneTarget_create h, ?_⟩
  intro env w g k used version hk hone
  obtain ⟨ds, w₁, loaded, w₂, p, w', hperm, hlimits, -, -, hload, hrun, hp⟩ :=
    getPolicies_loads env used version hk
  have henabled : enabledLimits w₁.db = enabledLimits w.db := by
    rw [enabledLimits, hlimits, enabledLimits]
  rw [← henabled] at hone ⊢
  refine ⟨ds, w₁, loaded, w₂, p, w', hperm, hlimits, hload, hrun, hp, fun d hd => ⟨rfl, ?_⟩⟩
  have hloaded : ∀ l ∈ loaded, OneTarget l := by
    intro l hl
    have hrows := load_eq (List.ne_nil_of_mem hd) w₁
    rw [hload] at hrows
    obtain rfl := Except.ok.inj hrows
    obtain ⟨hrow, hasked⟩ := List.mem_filter.mp ((arrange_perm _ _).mem_iff.mp hl)
    rw [asked, Bool.and_eq_true] at hasked
    exact hone l (List.mem_filter.mpr ⟨hrow, hasked.1⟩)
  exact (resolved hloaded).of_agree fun l hl => mem_loaded hload hone hd hl

/-! ### A phone with a limit of its own -/

/-- A limit of the parent. -/
def newLimit (id : String) (deviceId childId : Option String) (kbps : ℤ) : BandwidthLimit :=
  ⟨id, "amal", childId, deviceId, none, some kbps, none, true, 0, 0⟩

/-- The limit of the phone and that of its child. -/
def limits : List BandwidthLimit :=
  [newLimit "l1" (some "phone") none 200, newLimit "l2" none (some "adam") 1000]

/-- The household with the limits. -/
def limited : World :=
  { home with db := { home.db with bandwidthLimits := ⟨limits, by decide⟩ } }

theorem bandwidth_override_phone :
    resolveBandwidthLimits phone limits = [⟨none, some 200, none⟩] ∧
    Resolved phone limits (resolveBandwidthLimits phone limits) ∧
    ∃ p w', (getPolicies .plain "ga" false none).run limited = (.ok p, w') ∧ p.devices ≠ [] := by
  have hone : ∀ l ∈ limits, OneTarget l := by
    intro l hl
    simp only [limits, List.mem_cons, List.not_mem_nil, or_false] at hl
    rcases hl with rfl | rfl <;> simp [OneTarget, newLimit, truthy]
  obtain ⟨k, hk⟩ : ∃ k, limited.db.gateways.find "ga" = some k :=
    Option.isSome_iff_exists.mp (by decide +kernel)
  have henabled : ∀ l ∈ enabledLimits limited.db, OneTarget l := fun l hl =>
    hone l (List.mem_filter.mp hl).1
  obtain ⟨ds, w₁, loaded, w₂, p, w', hperm, -, -, hrun, hp, -⟩ :=
    bandwidth_override.2.2 .plain limited "ga" k false none hk henabled
  refine ⟨by decide +kernel, bandwidth_override.1 phone limits hone, p, w', hrun, ?_⟩
  rw [hp, ne_eq, List.map_eq_nil_iff]
  rintro rfl
  exact absurd hperm.symm.eq_nil (by decide +kernel)

end GuardTime.Bandwidth.Override
