import Mathlib.Tactic
import GuardTime.System.Calls
import GuardTime.System.Changes

/-! # Tenure

Children, gateways and devices over whole runs of all calls. A row keeps its parent for as long as
it is there, comes only from a request of that parent, and goes only by a request of that parent or
with the parent's account (`tenure`). The changes of links say which requests make and remove rows;
who may remove one is up to the owner checks (`refused`). -/

namespace GuardTime.System.Tenure

open GuardTime.Lib.Program GuardTime.Lib.Keyed GuardTime.Lib.Js GuardTime.Schema GuardTime.Server
open GuardTime.Prisma GuardTime.Services GuardTime.System.Links GuardTime.System.Run
open GuardTime.System.Changes GuardTime.System.Calls

/-- What parents own. -/
inductive Kind where
  | child | gateway | device

/-- The rows of a kind, with their parents. -/
def rowsOf (g : LinkGraph) : Kind → List Owned
  | .child => g.children
  | .gateway => g.gateways
  | .device => g.devices.map fun d => ⟨d.id, d.parentId⟩

/-- The requests of a parent that make a row. -/
def Makes (p : String) : Kind → Request → Prop
  | .child, .createChild q _ => q = p
  | .gateway, .registerGateway q _ _ _ _ => q = p
  | .device, .createDevice q _ => q = p
  | .device, .registerDevice q _ => q = p
  | _, _ => False

/-- The requests of anyone to remove a row. -/
def Removes (q id : String) : Kind → Request → Prop
  | .child, .removeChild q' id' => q' = q ∧ id' = id
  | .gateway, .deleteGateway q' id' => q' = q ∧ id' = id
  | .device, .removeDevice q' id' => q' = q ∧ id' = id
  | _, _ => False

/-! ### One write -/

section Change
variable {r : Request} {g g' : LinkGraph} {k : Kind} {o : Owned}

theorem rows_of_map {f : DeviceLink → DeviceLink} (hid : ∀ d, (f d).id = d.id)
    (hp : ∀ d, (f d).parentId = d.parentId) (ds : List DeviceLink) :
    (ds.map f).map (fun d => (⟨d.id, d.parentId⟩ : Owned)) =
      ds.map fun d => ⟨d.id, d.parentId⟩ := by
  rw [List.map_map]
  exact List.map_congr_left fun d _ => by simp only [Function.comp_apply, hid, hp]

theorem rows_unlink (id : String) (g : LinkGraph) :
    rowsOf (unlinkGateway id g) .device = rowsOf g .device := by
  refine rows_of_map (fun d => ?_) (fun d => ?_) g.devices
  · split_ifs <;> rfl
  · split_ifs <;> rfl

theorem rows_dropChild (id : String) (g : LinkGraph) :
    rowsOf (dropChild id g) .device = rowsOf g .device := by
  refine rows_of_map (fun d => ?_) (fun d => ?_) g.devices
  · split_ifs <;> rfl
  · split_ifs <;> rfl

theorem rows_relink (id : String) (dto : Devices.UpdateDeviceDto) (g : LinkGraph) :
    rowsOf { g with devices := g.devices.map fun d => if d.id = id then relink dto d else d }
      .device =
      rowsOf g .device := by
  refine rows_of_map (fun d => ?_) (fun d => ?_) g.devices
  · split_ifs <;> rfl
  · split_ifs <;> rfl

/-- A row after a write was there before, or the request has made it. -/
theorem rows_before (h : Change r g g') (ho : o ∈ rowsOf g' k) :
    o ∈ rowsOf g k ∨ Makes o.parentId k r := by
  cases h with
  | createChild id =>
    cases k with
    | child =>
      rcases List.mem_append.mp ho with ho | ho
      · exact .inl ho
      · obtain rfl := List.mem_singleton.mp ho
        exact .inr rfl
    | _ => exact .inl ho
  | removeChild =>
    cases k with
    | child => exact .inl (List.mem_of_mem_filter ho)
    | gateway => exact .inl ho
    | device => exact .inl (rows_dropChild _ g ▸ ho)
  | registerGateway id =>
    cases k with
    | gateway =>
      rcases List.mem_append.mp ho with ho | ho
      · exact .inl ho
      · obtain rfl := List.mem_singleton.mp ho
        exact .inr rfl
    | _ => exact .inl ho
  | unlinkGateway =>
    cases k with
    | device => exact .inl (rows_unlink _ g ▸ ho)
    | _ => exact .inl ho
  | deleteGateway =>
    cases k with
    | child => exact .inl ho
    | gateway => exact .inl (List.mem_of_mem_filter ho)
    | device => exact .inl (rows_unlink _ g ▸ ho)
  | createDevice id =>
    cases k with
    | device =>
      rw [rowsOf, List.map_append, List.mem_append] at ho
      rcases ho with ho | ho
      · exact .inl ho
      · obtain rfl := List.mem_singleton.mp ho
        exact .inr rfl
    | _ => exact .inl ho
  | registerDevice id =>
    cases k with
    | device =>
      rw [rowsOf, List.map_append, List.mem_append] at ho
      rcases ho with ho | ho
      · exact .inl ho
      · obtain rfl := List.mem_singleton.mp ho
        exact .inr rfl
    | _ => exact .inl ho
  | updateDevice =>
    cases k with
    | device => exact .inl (rows_relink _ _ g ▸ ho)
    | _ => exact .inl ho
  | removeDevice =>
    cases k with
    | device =>
      obtain ⟨d, hd, rfl⟩ := List.mem_map.mp ho
      exact .inl (List.mem_map_of_mem (List.mem_of_mem_filter hd))
    | _ => exact .inl ho
  | startSession => cases k <;> exact .inl ho
  | block => cases k <;> exact .inl ho

/-- A row before a write is there after it, or the request is to remove it. -/
theorem rows_after (h : Change r g g') (ho : o ∈ rowsOf g k) :
    o ∈ rowsOf g' k ∨ ∃ q, Removes q o.id k r := by
  cases h with
  | createChild =>
    cases k with
    | child => exact .inl (List.mem_append_left _ ho)
    | _ => exact .inl ho
  | @removeChild p id =>
    cases k with
    | child =>
      by_cases hid : o.id = id
      · exact .inr ⟨p, rfl, hid.symm⟩
      · exact .inl (List.mem_filter.mpr ⟨ho, decide_eq_true hid⟩)
    | gateway => exact .inl ho
    | device => exact .inl ((rows_dropChild _ g).symm ▸ ho)
  | registerGateway =>
    cases k with
    | gateway => exact .inl (List.mem_append_left _ ho)
    | _ => exact .inl ho
  | unlinkGateway =>
    cases k with
    | device => exact .inl ((rows_unlink _ g).symm ▸ ho)
    | _ => exact .inl ho
  | @deleteGateway p id =>
    cases k with
    | child => exact .inl ho
    | gateway =>
      by_cases hid : o.id = id
      · exact .inr ⟨p, rfl, hid.symm⟩
      · exact .inl (List.mem_filter.mpr ⟨ho, decide_eq_true hid⟩)
    | device => exact .inl ((rows_unlink _ g).symm ▸ ho)
  | createDevice =>
    cases k with
    | device =>
      rw [rowsOf, List.map_append]
      exact .inl (List.mem_append_left _ ho)
    | _ => exact .inl ho
  | registerDevice =>
    cases k with
    | device =>
      rw [rowsOf, List.map_append]
      exact .inl (List.mem_append_left _ ho)
    | _ => exact .inl ho
  | updateDevice =>
    cases k with
    | device => exact .inl ((rows_relink _ _ g).symm ▸ ho)
    | _ => exact .inl ho
  | @removeDevice p id =>
    cases k with
    | device =>
      obtain ⟨d, hd, rfl⟩ := List.mem_map.mp ho
      by_cases hid : d.id = id
      · exact .inr ⟨p, rfl, hid.symm⟩
      · exact .inl (List.mem_map_of_mem (List.mem_filter.mpr ⟨hd, decide_eq_true hid⟩))
    | _ => exact .inl ho
  | startSession => cases k <;> exact .inl ho
  | block => cases k <;> exact .inl ho

/-- The writes of a whole request. -/
theorem rows_since {db : Database} (h : Since r g db) :
    (∀ o ∈ rowsOf (linksOf db) k, o ∈ rowsOf g k ∨ Makes o.parentId k r) ∧
      ∀ o ∈ rowsOf g k, o ∈ rowsOf (linksOf db) k ∨ ∃ q, Removes q o.id k r := by
  unfold Since at h
  generalize linksOf db = g' at h
  induction h with
  | refl => exact ⟨fun _ ho => .inl ho, fun _ ho => .inl ho⟩
  | tail _ hchange ih =>
    refine ⟨fun o ho => ?_, fun o ho => ?_⟩
    · rcases rows_before hchange ho with ho | hmakes
      · exact ih.1 o ho
      · exact .inr hmakes
    · rcases ih.2 o ho with ho | hremoves
      · exact rows_after hchange ho
      · exact .inr hremoves

end Change

/-! ### Who may remove a row -/

section Refused
variable {p id : String} {w : World}

theorem refused_removeChild {c : Child} (hc : w.db.children.find id = some c)
    (hp : c.parentId ≠ p) : ((Children.remove p id).run w).2.db = w.db := by
  have hget : (Model.child.get w.db).find id = some c := hc
  simp only [Children.remove, Children.findOne, Prog.run_bind, run_findUnique, hget,
    Prog.run_orThrow_some, Prog.run_require, if_neg hp, afterCall_db]

theorem refused_deleteGateway {k : Gateway} (hk : w.db.gateways.find id = some k)
    (hp : k.parentId ≠ p) : ((Gateways.deleteGateway p id).run w).2.db = w.db := by
  have hget : (Model.gateway.get w.db).find id = some k := hk
  simp only [Gateways.deleteGateway, Gateways.findOwned, Gateways.findGateway, Prog.run_bind,
    run_findUnique, hget, Prog.run_orThrow_some, Prog.run_require, if_neg hp, afterCall_db]

theorem refused_removeDevice {d : Device} (hd : w.db.devices.find id = some d)
    (hp : d.parentId ≠ p) : ((Devices.remove p id).run w).2.db = w.db := by
  have hget : (Model.device.get w.db).find id = some d := hd
  simp only [Devices.remove, Devices.findOne, Prog.run_bind, run_findUnique, hget,
    Prog.run_orThrow_some, Prog.run_require, if_neg hp, afterCall_db]

/-- **Removals by others are refused.** -/
theorem refused {env : Env} {s : Step} {k : Kind} {o : Owned} (ho : o ∈ rowsOf (linksOf w.db) k)
    {q : String} (h : Removes q o.id k s.request) (hq : o.parentId ≠ q) :
    (exec env w s).db = w.db := by
  obtain ⟨t, r⟩ := s
  cases k <;> cases r <;> try exact h.elim
  · obtain ⟨rfl, rfl⟩ := h
    obtain ⟨c, hc, rfl⟩ := List.mem_map.mp ho
    exact refused_removeChild (w := { w with now := t }) (Table.find_eq_some.mpr ⟨hc, rfl⟩) hq
  · obtain ⟨rfl, rfl⟩ := h
    obtain ⟨g, hg, rfl⟩ := List.mem_map.mp ho
    exact refused_deleteGateway (w := { w with now := t }) (Table.find_eq_some.mpr ⟨hg, rfl⟩) hq
  · obtain ⟨rfl, rfl⟩ := h
    obtain ⟨l, hl, rfl⟩ := List.mem_map.mp ho
    obtain ⟨d, hd, rfl⟩ := List.mem_map.mp hl
    exact refused_removeDevice (w := { w with now := t }) (Table.find_eq_some.mpr ⟨hd, rfl⟩) hq

end Refused

/-! ### Deleted accounts -/

/-- The rows of a parent are gone, and no others. -/
def Gone (u : String) (g g' : LinkGraph) : Prop :=
  ∀ k, rowsOf g' k = (rowsOf g k).filter fun o => o.parentId ≠ u

section Account
variable {u : String}

theorem rows_erase {ρ : Type} {key : ρ → String} {t : Table key} {f : ρ → Owned} {q : ρ → Bool}
    (hq : ∀ r, q r = decide ((f r).parentId = u)) :
    (t.erase q).rows.map f = (t.rows.map f).filter fun o => o.parentId ≠ u := by
  rw [Table.erase, List.filter_map]
  congr 1
  refine List.filter_congr fun r _ => ?_
  simp [hq]

theorem gone_cascadeUser (u : String) (db : Database) :
    Gone u (linksOf db) (linksOf (Model.cascadeUser u db)) := by
  intro k
  cases k with
  | child => exact rows_erase fun _ => rfl
  | gateway => exact rows_erase fun _ => rfl
  | device =>
    have hrows : ∀ t : Table Device.id, (t.rows.map ofDevice).map
        (fun d => (⟨d.id, d.parentId⟩ : Owned)) = t.rows.map fun d => ⟨d.id, d.parentId⟩ := by
      intro t
      rw [List.map_map]
      rfl
    unfold rowsOf linksOf Model.cascadeUser Model.cascadeGateways Model.cascadeDevices
      Model.cascadeChildren
    dsimp only
    rw [hrows, hrows, map_modify fun _ => by rfl, map_modify fun _ => by rfl]
    exact rows_erase fun _ => rfl

/-- The rows of a parent go with the account, or all rows stay. -/
theorem rows_deleteAccount (u : String) (w : World) :
    Gone u (linksOf w.db) (linksOf ((Parents.deleteAccount u).run w).2.db) ∨
      linksOf ((Parents.deleteAccount u).run w).2.db = linksOf w.db := by
  rw [Parents.deleteAccount, Prog.run_bind, run_findUnique]
  have hget : (Model.user.get w.db).find u = w.db.users.find u := rfl
  rw [hget]
  rcases hu : w.db.users.find u with _ | user
  · exact .inr rfl
  obtain rfl : user.id = u := Table.key_of_find hu
  change Gone user.id _ (linksOf ((Prisma.transaction _).run (World.afterCall w w.db)).2.db) ∨
    linksOf ((Prisma.transaction _).run (World.afterCall w w.db)).2.db = _
  have hlogs : Free .auditLog (OnDb fun db => linksOf db = linksOf w.db) := fun _ _ hw => hw
  have hlog := hlogs.create (steady_onDb _) (Parents.deletionEntry user)
  have hend := onDb_transaction_of_triple (w := World.afterCall w w.db)
    (J := fun db => Gone user.id (linksOf w.db) (linksOf db) ∨ linksOf db = linksOf w.db)
    (P := fun db => linksOf db = linksOf w.db) rfl
    (q := do
      let _ ← viaTx (Prisma.create .auditLog (Parents.deletionEntry user))
      viaTx (Prisma.delete .user user.id)) ?_
  · rcases hend with hend | hend
    · exact hend
    · exact .inr (congrArg linksOf hend)
  · refine .bind (triple_viaTx (J := fun db => linksOf db = linksOf w.db)
      (K := fun db => linksOf db = linksOf w.db) fun v hv => hlog v hv)
      fun _ => triple_viaTx (J := fun db => linksOf db = linksOf w.db) (K := fun db =>
        Gone user.id (linksOf w.db) (linksOf db) ∨ linksOf db = linksOf w.db) fun v hv => ?_
    rcases run_delete_cases .user user.id v with ⟨e, hrun⟩ | ⟨r, -, hrun⟩ <;> rw [hrun]
    · exact .inr hv
    · have hgone := gone_cascadeUser user.id
        (Model.user.set v.db ((Model.user.get v.db).erase fun r => r.id = user.id))
      have hv : linksOf v.db = linksOf w.db := hv
      have hset : linksOf (Model.user.set v.db
          ((Model.user.get v.db).erase fun r => r.id = user.id)) = linksOf v.db := rfl
      rw [hset, hv] at hgone
      exact .inl hgone

end Account

/-! ### Runs -/

/-- The calls of a parent that make a row. -/
def MakesBy (p : String) (k : Kind) : Call → Prop
  | .request r => Makes p k r
  | _ => False

/-- The calls of anyone to remove a row. -/
def RemovesBy (q id : String) (k : Kind) : Call → Prop
  | .request r => Removes q id k r
  | .deleteAccount q' => q' = q
  | _ => False

section Run
variable {env : Env} {encryption : OAuth.EncryptionService} {microsoft : OAuth.Microsoft}
  {w : World} {k : Kind} {o : Owned}

theorem tenure_request (s : Step) :
    (o ∈ rowsOf (linksOf (exec env w s).db) k → o ∈ rowsOf (linksOf w.db) k ∨
      Makes o.parentId k s.request) ∧
    (o ∈ rowsOf (linksOf w.db) k → o ∈ rowsOf (linksOf (exec env w s).db) k ∨
      Removes o.parentId o.id k s.request) := by
  obtain ⟨hbefore, hafter⟩ := rows_since (k := k) (exec_since env w s)
  refine ⟨hbefore o, fun ho => ?_⟩
  rcases hafter o ho with hkept | ⟨q, hremoves⟩
  · exact .inl hkept
  · by_cases hq : o.parentId = q
    · exact .inr (hq ▸ hremoves)
    · rw [refused ho hremoves hq]
      exact .inl ho

/-- Rows are the same where the links are but for the category blocks. -/
theorem rows_of_own {db db' : Database} (h : ownView.of db' = ownView.of db) (k : Kind) :
    rowsOf (linksOf db') k = rowsOf (linksOf db) k := by
  obtain ⟨hchildren, hgateways, hdevices, -⟩ := LinkGraph.mk.inj h
  have hdevices : (linksOf db').devices = (linksOf db).devices := hdevices
  cases k with
  | child => exact hchildren
  | gateway => exact hgateways
  | device =>
    unfold rowsOf
    dsimp only
    rw [hdevices]

theorem tenure_step (c : Occasion) :
    (o ∈ rowsOf (linksOf (perform env encryption microsoft w c).db) k →
      o ∈ rowsOf (linksOf w.db) k ∨ MakesBy o.parentId k c.call) ∧
    (o ∈ rowsOf (linksOf w.db) k →
      o ∈ rowsOf (linksOf (perform env encryption microsoft w c).db) k ∨
        RemovesBy o.parentId o.id k c.call) := by
  obtain ⟨t, c⟩ := c
  by_cases hr : ∃ r, c = .request r
  · obtain ⟨r, rfl⟩ := hr
    exact tenure_request ⟨t, r⟩
  by_cases hd : ∃ u, c = .deleteAccount u
  · obtain ⟨u, rfl⟩ := hd
    have hrows := rows_deleteAccount u { w with now := t }
    change (o ∈ rowsOf (linksOf ((Parents.deleteAccount u).run { w with now := t }).2.db) k → _) ∧
      (_ → o ∈ rowsOf (linksOf ((Parents.deleteAccount u).run { w with now := t }).2.db) k ∨ _)
    rcases hrows with hgone | hsame
    · rw [hgone k, List.mem_filter]
      refine ⟨fun ho => .inl ho.1, fun ho => ?_⟩
      by_cases hu : o.parentId = u
      · exact .inr hu.symm
      · exact .inl ⟨ho, decide_eq_true hu⟩
    · rw [hsame]
      exact ⟨.inl, .inl⟩
  · have hquiet := quiet_other env encryption microsoft (fun r h => hr ⟨r, h⟩)
      fun u h => hd ⟨u, h⟩
    have hown : ownView.of (perform env encryption microsoft w ⟨t, c⟩).db = ownView.of w.db :=
      hquiet (frame_onDb (ownView.of w.db)) { w with now := t } rfl
    rw [rows_of_own hown k]
    exact ⟨.inl, .inl⟩

/-- **Tenure.** Over any run of calls, a child, a gateway or a device of a parent that is there at
the end was there at the start or a request of that parent has made it, and one that was there at
the start is there at the end, with the same parent, or that parent has removed it or deleted the
account. -/
theorem tenure (env : Env) (encryption : OAuth.EncryptionService) (microsoft : OAuth.Microsoft)
    (w : World) (calls : List Occasion) (k : Kind) (o : Owned) :
    (o ∈ rowsOf (linksOf (performs env encryption microsoft w calls).db) k →
      o ∈ rowsOf (linksOf w.db) k ∨ ∃ c ∈ calls, MakesBy o.parentId k c.call) ∧
    (o ∈ rowsOf (linksOf w.db) k →
      o ∈ rowsOf (linksOf (performs env encryption microsoft w calls).db) k ∨
        ∃ c ∈ calls, RemovesBy o.parentId o.id k c.call) := by
  induction calls generalizing w with
  | nil => exact ⟨.inl, .inl⟩
  | cons c calls ih =>
    obtain ⟨hmade, hkept⟩ := ih (perform env encryption microsoft w c)
    obtain ⟨hmade₁, hkept₁⟩ := @tenure_step env encryption microsoft w k o c
    refine ⟨fun ho => ?_, fun ho => ?_⟩
    · rcases hmade ho with ho | ⟨c', hc', hmakes⟩
      · exact (hmade₁ ho).imp id fun hmakes => ⟨c, List.mem_cons_self, hmakes⟩
      · exact .inr ⟨c', List.mem_cons_of_mem c hc', hmakes⟩
    · rcases hkept₁ ho with ho | hremoves
      · exact (hkept ho).imp id fun ⟨c', hc', h⟩ => ⟨c', List.mem_cons_of_mem c hc', h⟩
      · exact .inr ⟨c, List.mem_cons_self, hremoves⟩

end Run

end GuardTime.System.Tenure
