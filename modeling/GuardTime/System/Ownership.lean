import Mathlib.Tactic
import GuardTime.Household
import GuardTime.System.Changes

/-! # Ownership closure

The links of a device lead to rows of its own parent, and so do those of a session. Neither
`DevicesService` nor `ChildAgentService` checks the ids in its dto, so the closure holds along the
runs in which these requests name rows of the caller (`Own`); the foreign keys do the rest.

* `closed_change`: a change of links by a request with own ids keeps the closure;
* `closed_run`: so does every run, and each pass of the scheduler blocks children of the right
  parents. -/

namespace GuardTime.System.Ownership

open GuardTime.Lib.Program GuardTime.Lib.Keyed GuardTime.Lib.Js GuardTime.Schema GuardTime.Server
open GuardTime.Prisma GuardTime.Services GuardTime.System.Links GuardTime.System.Run
open GuardTime.System.Changes GuardTime.Household

/-! ### Closure -/

/-- Devices and sessions refer to children and gateways of their own parent. -/
structure Closed (g : LinkGraph) : Prop where
  deviceChild : ∀ d ∈ g.devices, ∀ c, d.childId = some c → ⟨c, d.parentId⟩ ∈ g.children
  deviceGateway : ∀ d ∈ g.devices, ∀ k, d.gatewayId = some k → ⟨k, d.parentId⟩ ∈ g.gateways
  sessionChild : ∀ s ∈ g.sessions, ⟨s.childId, s.parentId⟩ ∈ g.children

/-- The children and gateways a request names belong to the caller, those that exist at all. -/
def OwnIds (g : LinkGraph) (p : String) (childIds gatewayIds : List String) : Prop :=
  (∀ o ∈ g.children, o.id ∈ childIds → o.parentId = p) ∧
    ∀ o ∈ g.gateways, o.id ∈ gatewayIds → o.parentId = p

/-- The request names rows of the caller. -/
def Own (g : LinkGraph) : Request → Prop
  | .createDevice p dto => OwnIds g p [dto.childId] dto.gatewayId.toList
  | .registerDevice p dto => OwnIds g p [dto.childId] []
  | .updateDevice p _ dto =>
    OwnIds g p (dto.childId.getD none).toList (dto.gatewayId.getD none).toList
  | _ => True

section Change
variable {g : LinkGraph} {p c k : String} {cs ks : List String}

theorem OwnIds.child (h : OwnIds g p cs ks) (hc : HasChild g c) (hmem : c ∈ cs) :
    ⟨c, p⟩ ∈ g.children := by
  obtain ⟨o, ho, rfl⟩ := hc
  rw [← h.1 o ho hmem]
  exact ho

theorem OwnIds.gateway (h : OwnIds g p cs ks) (hk : HasGateway g k) (hmem : k ∈ ks) :
    ⟨k, p⟩ ∈ g.gateways := by
  obtain ⟨o, ho, rfl⟩ := hk
  rw [← h.2 o ho hmem]
  exact ho

theorem Closed.addDevice (h : Closed g) {d : DeviceLink}
    (hc : ∀ c, d.childId = some c → ⟨c, d.parentId⟩ ∈ g.children)
    (hk : ∀ k, d.gatewayId = some k → ⟨k, d.parentId⟩ ∈ g.gateways) :
    Closed { g with devices := g.devices ++ [d] } where
  deviceChild d' hd' := by
    rcases List.mem_append.mp hd' with hd' | hd'
    · exact h.deviceChild d' hd'
    · rw [List.mem_singleton.mp hd']; exact hc
  deviceGateway d' hd' := by
    rcases List.mem_append.mp hd' with hd' | hd'
    · exact h.deviceGateway d' hd'
    · rw [List.mem_singleton.mp hd']; exact hk
  sessionChild := h.sessionChild

theorem Closed.dropChild (h : Closed g) (id : String) : Closed (dropChild id g) where
  deviceChild d hd c hc := by
    obtain ⟨d', hd', rfl⟩ := List.mem_map.mp hd
    split_ifs at hc ⊢ with hid
    refine List.mem_filter.mpr ⟨h.deviceChild d' hd' c hc, ?_⟩
    simp only [decide_eq_true_eq]
    rintro rfl
    exact hid hc
  deviceGateway d hd k hk := by
    obtain ⟨d', hd', rfl⟩ := List.mem_map.mp hd
    split_ifs at hk ⊢ with hid
    · exact h.deviceGateway d' hd' k hk
    · exact h.deviceGateway d' hd' k hk
  sessionChild s hs := by
    obtain ⟨hs, hne⟩ := List.mem_filter.mp hs
    exact List.mem_filter.mpr ⟨h.sessionChild s hs, hne⟩

theorem Closed.unlinkGateway (h : Closed g) (id : String) : Closed (unlinkGateway id g) where
  deviceChild d hd c hc := by
    obtain ⟨d', hd', rfl⟩ := List.mem_map.mp hd
    split_ifs at hc ⊢ with hid
    · exact h.deviceChild d' hd' c hc
    · exact h.deviceChild d' hd' c hc
  deviceGateway d hd k hk := by
    obtain ⟨d', hd', rfl⟩ := List.mem_map.mp hd
    split_ifs at hk ⊢ with hid
    exact h.deviceGateway d' hd' k hk
  sessionChild := h.sessionChild

theorem Closed.dropGateway (h : Closed g) (id : String) : Closed (dropGateway id g) where
  deviceChild := (h.unlinkGateway id).deviceChild
  deviceGateway d hd k hk := by
    refine List.mem_filter.mpr ⟨(h.unlinkGateway id).deviceGateway d hd k hk, ?_⟩
    obtain ⟨d', hd', rfl⟩ := List.mem_map.mp hd
    split_ifs at hk with hid
    simp only [decide_eq_true_eq]
    rintro rfl
    exact hid hk
  sessionChild := h.sessionChild

theorem Closed.relink (h : Closed g) {id : String} {dto : Devices.UpdateDeviceDto}
    (hown : OwnIds g p (dto.childId.getD none).toList (dto.gatewayId.getD none).toList)
    (howner : ∀ d ∈ g.devices, d.id = id → d.parentId = p)
    (hc : ∀ d ∈ g.devices, d.id = id → ∀ c, (relink dto d).childId = some c →
      d.childId = some c ∨ HasChild g c)
    (hk : ∀ d ∈ g.devices, d.id = id → ∀ k, (relink dto d).gatewayId = some k →
      d.gatewayId = some k ∨ HasGateway g k) :
    Closed { g with devices := g.devices.map fun d => if d.id = id then relink dto d else d } where
  deviceChild d hd c hdc := by
    obtain ⟨d', hd', rfl⟩ := List.mem_map.mp hd
    split_ifs at hdc ⊢ with hid
    · rcases hc d' hd' hid c hdc with hold | hnew
      · exact h.deviceChild d' hd' c hold
      · rcases hdto : dto.childId with _ | o
        · have hold : d'.childId = some c := by
            simpa [Changes.relink, Patch.over, hdto] using hdc
          exact h.deviceChild d' hd' c hold
        · have : o = some c := by simpa [Changes.relink, Patch.over, hdto] using hdc
          change ⟨c, d'.parentId⟩ ∈ g.children
          rw [howner d' hd' hid]
          exact hown.child hnew (by simp [hdto, this])
    · exact h.deviceChild d' hd' c hdc
  deviceGateway d hd k hdk := by
    obtain ⟨d', hd', rfl⟩ := List.mem_map.mp hd
    split_ifs at hdk ⊢ with hid
    · rcases hk d' hd' hid k hdk with hold | hnew
      · exact h.deviceGateway d' hd' k hold
      · rcases hdto : dto.gatewayId with _ | o
        · have hold : d'.gatewayId = some k := by
            simpa [Changes.relink, Patch.over, hdto] using hdk
          exact h.deviceGateway d' hd' k hold
        · have : o = some k := by simpa [Changes.relink, Patch.over, hdto] using hdk
          change ⟨k, d'.parentId⟩ ∈ g.gateways
          rw [howner d' hd' hid]
          exact hown.gateway hnew (by simp [hdto, this])
    · exact h.deviceGateway d' hd' k hdk
  sessionChild := h.sessionChild

/-- A change of links by a request with own ids keeps the closure. -/
theorem closed_change {r : Request} {g' : LinkGraph} (hchange : Change r g g') (hown : Own g r)
    (h : Closed g) : Closed g' ∧ Own g' r := by
  cases hchange with
  | createChild id =>
    refine ⟨⟨fun d hd c hc => ?_, h.deviceGateway, fun s hs => ?_⟩, hown⟩
    · exact List.mem_append_left _ (h.deviceChild d hd c hc)
    · exact List.mem_append_left _ (h.sessionChild s hs)
  | removeChild => exact ⟨h.dropChild _, trivial⟩
  | registerGateway id =>
    exact ⟨⟨h.deviceChild, fun d hd k hk => List.mem_append_left _ (h.deviceGateway d hd k hk),
      h.sessionChild⟩, trivial⟩
  | unlinkGateway => exact ⟨h.unlinkGateway _, trivial⟩
  | deleteGateway => exact ⟨h.dropGateway _, trivial⟩
  | createDevice id hc hg =>
    refine ⟨h.addDevice (fun c hd => ?_) fun k hd => ?_, hown⟩
    · obtain rfl := Option.some.inj hd
      exact hown.child hc (by simp)
    · exact hown.gateway (hg k hd) (by simpa using hd)
  | registerDevice id hc =>
    refine ⟨h.addDevice (fun c hd => ?_) (fun k hd => by cases hd), hown⟩
    obtain rfl := Option.some.inj hd
    exact hown.child hc (by simp)
  | updateDevice howner hc hg => exact ⟨h.relink hown howner hc hg, hown⟩
  | removeDevice =>
    exact ⟨⟨fun d hd => h.deviceChild d (List.mem_filter.mp hd).1,
      fun d hd => h.deviceGateway d (List.mem_filter.mp hd).1,
      fun s hs => h.sessionChild s (List.mem_filter.mp hs).1⟩, trivial⟩
  | startSession id hd hid hp hc =>
    refine ⟨⟨h.deviceChild, h.deviceGateway, fun s hs => ?_⟩, trivial⟩
    rcases List.mem_append.mp hs with hs | hs
    · exact h.sessionChild s hs
    · obtain rfl := List.mem_singleton.mp hs
      rw [← hp]
      exact h.deviceChild _ hd _ hc
  | block c hc hb => exact ⟨⟨h.deviceChild, h.deviceGateway, h.sessionChild⟩, trivial⟩

end Change

/-! ### Runs -/

/-- Every request of the run names rows of its caller, as they are when it comes. -/
def OwnRun (env : Env) (w : World) : List Step → Prop
  | [] => True
  | s :: steps => Own (linksOf w.db) s.request ∧ OwnRun env (exec env w s) steps

theorem closed_exec {env : Env} {w : World} {s : Step} (hown : Own (linksOf w.db) s.request)
    (h : Closed (linksOf w.db)) : Closed (linksOf (exec env w s).db) := by
  have hsince := exec_since env w s
  unfold Since at hsince
  generalize linksOf (exec env w s).db = g' at hsince
  suffices Closed g' ∧ Own g' s.request from this.1
  induction hsince with
  | refl => exact ⟨h, hown⟩
  | tail _ hchange ih => exact closed_change hchange ih.2 ih.1

theorem closed_steps {env : Env} : ∀ {steps : List Step} {w : World}, OwnRun env w steps →
    Closed (linksOf w.db) → Closed (linksOf (run env w steps).db)
  | [], _, _, h => h
  | s :: steps, w, hown, h => @closed_steps env steps (exec env w s) hown.2 (closed_exec hown.1 h)

/-- The rows of the database are closed under ownership. -/
structure OwnershipClosed (db : Database) : Prop where
  deviceChild : ∀ d ∈ db.devices.rows, ∀ c, d.childId = some c →
    ∃ r ∈ db.children.rows, r.id = c ∧ r.parentId = d.parentId
  deviceGateway : ∀ d ∈ db.devices.rows, ∀ k, d.gatewayId = some k →
    ∃ r ∈ db.gateways.rows, r.id = k ∧ r.parentId = d.parentId
  sessionChild : ∀ s ∈ db.sessions.rows,
    ∃ r ∈ db.children.rows, r.id = s.childId ∧ r.parentId = s.parentId

theorem mem_children {db : Database} {c p : String} :
    (⟨c, p⟩ : Owned) ∈ (linksOf db).children ↔
      ∃ r ∈ db.children.rows, r.id = c ∧ r.parentId = p := by
  simp [linksOf, ofChild]

theorem mem_gateways {db : Database} {k p : String} :
    (⟨k, p⟩ : Owned) ∈ (linksOf db).gateways ↔
      ∃ r ∈ db.gateways.rows, r.id = k ∧ r.parentId = p := by
  simp [linksOf, ofGateway]

theorem Closed.rows {db : Database} (h : Closed (linksOf db)) : OwnershipClosed db where
  deviceChild _ hd c hc := mem_children.mp (h.deviceChild _ (List.mem_map_of_mem hd) c hc)
  deviceGateway _ hd k hk := mem_gateways.mp (h.deviceGateway _ (List.mem_map_of_mem hd) k hk)
  sessionChild _ hs := mem_children.mp (h.sessionChild _ (List.mem_map_of_mem hs))

/-- The block is for a child of a session's or a device's parent, as the link says. -/
def BlockConcerns (db : Database) (b : CategoryBlock) : Prop :=
  (∃ s ∈ db.sessions.rows, s.childId = b.childId ∧
      ∃ r ∈ db.children.rows, r.id = b.childId ∧ r.parentId = s.parentId) ∨
    ∃ d ∈ db.devices.rows, d.childId = some b.childId ∧
      ∃ r ∈ db.children.rows, r.id = b.childId ∧ r.parentId = d.parentId

theorem OwnershipClosed.concerns {db : Database} (h : OwnershipClosed db) {b : CategoryBlock}
    (hb : Concerned (linksOf db) b.childId) : BlockConcerns db b := by
  rcases hb with ⟨s, hs, hc⟩ | ⟨d, hd, hc⟩
  · obtain ⟨s, hmem, rfl⟩ := List.mem_map.mp hs
    refine .inl ⟨s, hmem, hc, ?_⟩
    rw [← show s.childId = b.childId from hc]
    exact h.sessionChild s hmem
  · obtain ⟨d, hmem, rfl⟩ := List.mem_map.mp hd
    exact .inr ⟨d, hmem, hc, h.deviceChild d hmem _ hc⟩

/-- The blocks a pass writes are for children that its sessions and devices refer to. -/
theorem blocks_pass {env : Env} {w : World} {t : Time} {p : Pass} :
    ∀ b ∈ (exec env w ⟨t, .scheduler p⟩).db.categoryBlocks.rows,
      b ∈ w.db.categoryBlocks.rows ∨ Concerned (linksOf w.db) b.childId := by
  have hsince := exec_since env w ⟨t, .scheduler p⟩
  unfold Since at hsince
  change ∀ b ∈ (linksOf (exec env w ⟨t, .scheduler p⟩).db).categoryBlocks, _
  generalize linksOf (exec env w ⟨t, .scheduler p⟩).db = g' at hsince
  suffices concerned g' = concerned (linksOf w.db) ∧ ∀ b ∈ g'.categoryBlocks,
    b ∈ w.db.categoryBlocks.rows ∨ Concerned (linksOf w.db) b.childId from this.2
  induction hsince with
  | refl => exact ⟨rfl, fun b hb => .inl hb⟩
  | tail _ hchange ih =>
    cases hchange with
    | block c hc hblocks =>
      refine ⟨ih.1, fun b hb => ?_⟩
      rcases hblocks b hb with hold | rfl
      · exact ih.2 b hold
      · exact .inr (hc.congr ih.1.symm)

/-- **Ownership closure.** From an empty database, a run whose requests name rows of their callers
keeps all rows closed under ownership, and whatever pass comes next, it blocks only children of its
sessions' and devices' parents. -/
theorem closed_run {env : Env} {w : World} (hw : w.db = .empty) {steps : List Step}
    (hown : OwnRun env w steps) : OwnershipClosed (run env w steps).db ∧
      ∀ t p, ∀ b ∈ (exec env (run env w steps) ⟨t, .scheduler p⟩).db.categoryBlocks.rows,
        b ∈ (run env w steps).db.categoryBlocks.rows ∨ BlockConcerns (run env w steps).db b := by
  have hempty : Closed (linksOf w.db) := by
    rw [hw]
    exact ⟨by simp [linksOf, Database.empty], by simp [linksOf, Database.empty],
      by simp [linksOf, Database.empty]⟩
  have hclosed := (closed_steps hown hempty).rows
  exact ⟨hclosed, fun t p b hb => (blocks_pass b hb).imp id hclosed.concerns⟩

theorem closed_run_family : OwnershipClosed
    (run .plain (.fresh .empty 0) (family 1 "amal@example.com" "uuid-2-0" "adam" ++
      [addDevice 2 "uuid-2-0" "uuid-7-0" "phone" none])).db := by
  have hown : OwnRun .plain (.fresh .empty 0) (family 1 "amal@example.com" "uuid-2-0" "adam" ++
      [addDevice 2 "uuid-2-0" "uuid-7-0" "phone" none]) := by
    refine ⟨trivial, trivial, ⟨?_, ?_⟩, trivial⟩
    · decide +kernel
    · decide +kernel
  exact (closed_run rfl hown).1

/-- A parent may put a device under another parent's child. -/
theorem foreign_child_linked : ¬ ∀ (env : Env) (w : World) (steps : List Step), w.db = .empty →
    OwnershipClosed (run env w steps).db := by
  intro h
  have hclosed := h .plain (.fresh .empty 0) (family 1 "amal@example.com" "uuid-2-0" "adam" ++
    family 2 "basma@example.com" "uuid-10-0" "badr" ++
      [addDevice 3 "uuid-2-0" "uuid-15-0" "phone" none]) rfl
  have hchild := fun d hd c (hc : c ∈ d.childId.toList) =>
    hclosed.deviceChild d hd c (by simpa using hc)
  exact absurd hchild (by decide +kernel)

end GuardTime.System.Ownership
