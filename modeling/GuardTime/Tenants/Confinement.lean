import Mathlib.Tactic
import GuardTime.Auth.Microsoft
import GuardTime.System.Calls
import GuardTime.Tenants.Strangers

/-! # Confinement

The writing calls of the parent app, made by other parents and run side by side one database call at
a time, leave the rows of a family as they are. Three things are outside of it: a device that is
given to a child or put behind a gateway of the family (`DevicesService` does not check the ids), a
push token of the family that another parent presents, and a Microsoft account that both have
linked.

* `enclosed_run`: after a run whose requests name rows of their callers, a family keeps to itself;
* `leaves_handle`: what one call leaves alone;
* `family_untouched`: what any interleaving of calls leaves alone. -/

namespace GuardTime.Tenants.Confinement

open GuardTime.Lib.Program GuardTime.Lib.Interleave GuardTime.Lib.Keyed GuardTime.Lib.Js
open GuardTime.Schema GuardTime.Server GuardTime.Prisma GuardTime.Services GuardTime.System.Links
open GuardTime.System.Run GuardTime.System.Calls GuardTime.System.Changes
open GuardTime.System.Ownership GuardTime.Household
open GuardTime.Tenants.Writes GuardTime.Tenants.Strangers

/-! ### Families after a run -/

/-- Sessions are on devices of their parents. -/
def Housed (g : LinkGraph) : Prop :=
  ∀ s ∈ g.sessions, ∃ d ∈ g.devices, d.id = s.deviceId ∧ d.parentId = s.parentId

theorem Housed.map {g : LinkGraph} {f : DeviceLink → DeviceLink}
    (hid : ∀ d, (f d).id = d.id) (hp : ∀ d, (f d).parentId = d.parentId) {s : SessionLink}
    (h : ∃ d ∈ g.devices, d.id = s.deviceId ∧ d.parentId = s.parentId) :
    ∃ d ∈ g.devices.map f, d.id = s.deviceId ∧ d.parentId = s.parentId := by
  obtain ⟨d, hd, hdev, hpar⟩ := h
  exact ⟨f d, List.mem_map_of_mem hd, (hid d).trans hdev, (hp d).trans hpar⟩

theorem housed_change {r : Request} {g g' : LinkGraph} (hchange : Change r g g') (h : Housed g) :
    Housed g' := by
  cases hchange with
  | createChild id => exact h
  | removeChild =>
    exact fun s hs => Housed.map (fun d => by split_ifs <;> rfl) (fun d => by split_ifs <;> rfl)
      (h s (List.mem_filter.mp hs).1)
  | registerGateway id => exact h
  | unlinkGateway =>
    exact fun s hs => Housed.map
      (fun d => by split_ifs <;> rfl) (fun d => by split_ifs <;> rfl) (h s hs)
  | deleteGateway =>
    exact fun s hs => Housed.map
      (fun d => by split_ifs <;> rfl) (fun d => by split_ifs <;> rfl) (h s hs)
  | createDevice id hc hg =>
    intro s hs
    obtain ⟨d, hd, hdev⟩ := h s hs
    exact ⟨d, List.mem_append_left _ hd, hdev⟩
  | registerDevice id hc =>
    intro s hs
    obtain ⟨d, hd, hdev⟩ := h s hs
    exact ⟨d, List.mem_append_left _ hd, hdev⟩
  | updateDevice howner hc hg =>
    exact fun s hs => Housed.map
      (fun d => by split_ifs <;> rfl) (fun d => by split_ifs <;> rfl) (h s hs)
  | @removeDevice p id =>
    intro s hs
    obtain ⟨hs, hne⟩ := List.mem_filter.mp hs
    obtain ⟨d, hd, hdev, hp⟩ := h s hs
    exact ⟨d, List.mem_filter.mpr ⟨hd, by rwa [hdev]⟩, hdev, hp⟩
  | startSession id hd hid hp hc =>
    intro s hs
    rcases List.mem_append.mp hs with hs | hs
    · exact h s hs
    · obtain rfl := List.mem_singleton.mp hs
      exact ⟨_, hd, hid, hp⟩
  | block c hc hb => exact h

theorem housed_exec {env : Env} {w : World} (s : Step) (h : Housed (linksOf w.db)) :
    Housed (linksOf (exec env w s).db) := by
  have hsince := exec_since env w s
  unfold Since at hsince
  generalize linksOf (exec env w s).db = g' at hsince
  induction hsince with
  | refl => exact h
  | tail _ hchange ih => exact housed_change hchange ih

theorem housed_steps {env : Env} : ∀ {steps : List Step} {w : World}, Housed (linksOf w.db) →
    Housed (linksOf (run env w steps).db)
  | [], _, h => h
  | s :: steps, w, h => @housed_steps env steps (exec env w s) (housed_exec s h)

/-- Closed links and housed sessions enclose every family. -/
theorem enclosed_of {p : String} {db : Database} (hclosed : OwnershipClosed db)
    (hhoused : Housed (linksOf db)) : Enclosed p db where
  deviceChild d hd c hc := by
    obtain ⟨r, hr, rfl, hrp⟩ := hclosed.deviceChild d hd c hc
    constructor
    · intro hp
      exact List.mem_map_of_mem (List.mem_filter.mpr ⟨hr, decide_eq_true (hrp.trans hp)⟩)
    · intro hmem
      obtain ⟨r', hr', hid⟩ := List.mem_map.mp hmem
      obtain ⟨hr', hp⟩ := List.mem_filter.mp hr'
      rw [Table.eq_of_key hr' hr hid] at hp
      exact hrp.symm.trans (of_decide_eq_true hp)
  deviceGateway d hd k hk := by
    obtain ⟨r, hr, rfl, hrp⟩ := hclosed.deviceGateway d hd k hk
    constructor
    · intro hp
      exact List.mem_map_of_mem (List.mem_filter.mpr ⟨hr, decide_eq_true (hrp.trans hp)⟩)
    · intro hmem
      obtain ⟨r', hr', hid⟩ := List.mem_map.mp hmem
      obtain ⟨hr', hp⟩ := List.mem_filter.mp hr'
      rw [Table.eq_of_key hr' hr hid] at hp
      exact hrp.symm.trans (of_decide_eq_true hp)
  sessionChild s hs hp := by
    obtain ⟨r, hr, hid, hrp⟩ := hclosed.sessionChild s hs
    exact hid ▸ List.mem_map_of_mem (List.mem_filter.mpr ⟨hr, decide_eq_true (hrp.trans hp)⟩)
  sessionDevice s hs hp := by
    obtain ⟨l, hl, hid, hlp⟩ := hhoused _ (List.mem_map_of_mem hs)
    obtain ⟨d, hd, rfl⟩ := List.mem_map.mp hl
    have hdp : d.parentId = p := hlp.trans hp
    have hds : d.id = s.deviceId := hid
    exact hds ▸ List.mem_map_of_mem (List.mem_filter.mpr ⟨hd, decide_eq_true hdp⟩)

theorem enclosed_run {env : Env} {w : World} (hw : w.db = .empty) {steps : List Step}
    (hown : OwnRun env w steps) (p : String) : Enclosed p (run env w steps).db := by
  have hhoused : Housed (linksOf w.db) := by
    rw [hw]
    exact fun s hs => absurd hs List.not_mem_nil
  have hclosed : Closed (linksOf w.db) := by
    rw [hw]
    exact ⟨by simp [linksOf, Database.empty], by simp [linksOf, Database.empty],
      by simp [linksOf, Database.empty]⟩
  exact enclosed_of (closed_steps hown hclosed).rows (housed_steps hhoused)

/-! ### Calls of parents -/

/-- The parent a request is made by, if it is a parent's. -/
def parentOf : Request → Option String
  | .logout p | .createChild p _ | .updateChild p _ _ | .removeChild p _ | .createDevice p _
  | .updateDevice p _ _ | .removeDevice p _ | .lockInternet p _ _ | .unlockInternet p _
  | .upsertSchedule p _ _ | .createLimit p _ | .updateLimit p _ _ | .removeLimit p _
  | .registerDevice p _ | .createRule p _ | .updateRule p _ _ | .removeRule p _
  | .startSession p _ | .pauseSession _ p | .resumeSession _ p | .extendSession _ p _
  | .stopSession _ p | .registerGateway p _ _ _ _ | .renameGateway p _ _ _ | .pairGateway _ p
  | .rotateToken p _ _ | .deleteGateway p _ | .startPairing _ p | .cancelPairing _ p => some p
  | .blockDevice _ _ p | .unblockDevice _ p => p
  | _ => none

/-- The parent a call is made by, if it is a parent's. -/
def callerOf : Call → Option String
  | .request r => parentOf r
  | .updateProfile p _ | .deleteAccount p | .registerToken p _ _ | .removeToken p _
  | .markReadForUser p _ | .setCategoryBlock p _ _ _ _ | .syncRules p _ | .setSetupStatus p _ _
  | .getProtectionScore p _ _ | .getInsights p _ _ | .setupRouter p _ _ | .testConnection p _
  | .triggerDetection p _ | .changeDns p _ _ | .blockMac p _ _ | .unblockMac p _ _
  | .endGamingSession p _ _ | .microsoftCallback p _ _ | .refreshMicrosoft p _ => some p
  | _ => none

/-- The children the call gives a device to. -/
def childIds : Call → List String
  | .request (.createDevice _ dto) => [dto.childId]
  | .request (.registerDevice _ dto) => [dto.childId]
  | .request (.updateDevice _ _ dto) => (dto.childId.getD none).toList
  | _ => []

/-- The gateways the call puts a device behind. -/
def gatewayIds : Call → List String
  | .request (.createDevice _ dto) => dto.gatewayId.toList
  | .request (.updateDevice _ _ dto) => (dto.gatewayId.getD none).toList
  | _ => []

/-- The push token the call presents. -/
def tokenOf : Call → Option String
  | .registerToken _ token _ => some token
  | _ => none

/-- The provider's answers may link the account. -/
def MayLink (providerUserId : String) : Call → Prop
  | .microsoftCallback _ _ fetch =>
    ∃ request data, fetch request = .ok data ∧ OAuth.providerUserId data = providerUserId
  | _ => False

/-- A call of another parent that names no child and no gateway, presents no push token and links no
Microsoft account of the family. -/
structure Foreign (p : String) (db₀ : Database) (t : Call) : Prop where
  caller : ∃ q, callerOf t = some q ∧ q ≠ p ∧ q ≠ ""
  children : ∀ c ∈ childIds t, c ∉ (familyOf p db₀).children
  gateways : ∀ k ∈ gatewayIds t, k ∉ (familyOf p db₀).gateways
  tokens : ∀ x ∈ tokenOf t, ∀ r ∈ (holding (familyOf p db₀) db₀).pushTokens, r.token ≠ x
  accounts : ∀ a ∈ (holding (familyOf p db₀) db₀).oAuthAccounts, a.provider = "microsoft" →
    ¬ MayLink a.providerUserId t

theorem leaves_discard {p : String} {db₀ : Database} {α : Type} {c : Api α} (h : Leaves p db₀ c) :
    Leaves p db₀ (System.Run.discard c) := .bind h fun _ _ => .pure trivial

/-- **What a request of another parent leaves alone.** -/
theorem leaves_request_handle {env : Env} {p q : String} {db₀ : Database} (he : Enclosed p db₀)
    (hq : q ≠ p) (hne : q ≠ "") {r : Request} (hr : parentOf r = some q)
    (hchildren : ∀ c ∈ childIds (.request r), c ∉ (familyOf p db₀).children)
    (hgateways : ∀ k ∈ gatewayIds (.request r), k ∉ (familyOf p db₀).gateways) :
    Leaves p db₀ (System.Run.handle env r) := by
  cases r <;> cases hr
  case logout => exact leaves_logout hq
  case createChild dto => exact leaves_discard (leaves_createChild hq dto)
  case updateChild id dto => exact leaves_discard (leaves_updateChild hq id dto)
  case removeChild id => exact leaves_removeChild hq he id
  case createDevice dto =>
    exact leaves_discard (leaves_createDevice hq dto (hchildren _ (by simp [childIds]))
      fun k hk => hgateways k (by simp [gatewayIds, hk]))
  case updateDevice id dto =>
    exact leaves_discard (leaves_updateDevice hq he id dto
      (fun c hc => hchildren c (by simp [childIds, hc]))
      fun k hk => hgateways k (by simp [gatewayIds, hk]))
  case removeDevice id => exact leaves_removeDevice hq he id
  case lockInternet id reason => exact leaves_discard (leaves_lockInternet hq he id reason)
  case unlockInternet id => exact leaves_discard (leaves_unlockInternet hq he id)
  case upsertSchedule id dto => exact leaves_discard (leaves_upsertSchedule hq he id dto)
  case createLimit dto => exact leaves_discard (leaves_createLimit hq dto)
  case updateLimit id dto => exact leaves_discard (leaves_updateLimit hq id dto)
  case removeLimit id => exact leaves_removeLimit hq id
  case registerDevice dto =>
    exact leaves_discard (leaves_registerDevice hq dto (hchildren _ (by simp [childIds])))
  case createRule dto => exact leaves_discard (leaves_createRule hq dto)
  case updateRule id dto => exact leaves_discard (leaves_updateRule hq id dto)
  case removeRule id => exact leaves_removeRule hq id
  case startSession dto => exact leaves_discard (leaves_start hq env dto)
  case pauseSession id => exact leaves_discard (leaves_pause hq id)
  case resumeSession id => exact leaves_discard (leaves_resume hq id)
  case extendSession id dto => exact leaves_discard (leaves_extend hq id dto)
  case stopSession id => exact leaves_discard (leaves_stop hq id)
  case blockDevice id reason => exact leaves_discard (leaves_blockDevice hq he hne id reason)
  case unblockDevice id => exact leaves_discard (leaves_unblockDevice hq he hne id)
  case registerGateway name endpoint type description =>
    exact leaves_discard (leaves_registerGateway hq name endpoint type description)
  case renameGateway id name description =>
    exact leaves_discard (leaves_renameGateway hq id name description)
  case pairGateway id => exact leaves_discard (leaves_pair hq id)
  case rotateToken id grace => exact leaves_discard (leaves_rotateToken hq id grace)
  case deleteGateway id => exact leaves_deleteGateway hq he id
  case startPairing id => exact leaves_discard (leaves_startPairing hq he env id)
  case cancelPairing id => exact leaves_cancelPairing hq he id

/-- **What a call of another parent leaves alone.** -/
theorem leaves_handle {env : Env} {encryption : OAuth.EncryptionService}
    {microsoft : OAuth.Microsoft} {p : String} {db₀ : Database} (he : Enclosed p db₀)
    {t : Call} (ht : Foreign p db₀ t) :
    Leaves p db₀ (handleCall env encryption microsoft t) := by
  obtain ⟨⟨q, hcaller, hq, hne⟩, hchildren, hgateways, htokens, haccounts⟩ := ht
  cases t with
  | request r => exact leaves_request_handle he hq hne hcaller hchildren hgateways
  | updateProfile q' dto =>
    cases hcaller
    exact leaves_discard (leaves_updateProfile hq dto)
  | deleteAccount q' =>
    cases hcaller
    exact leaves_deleteAccount hq he
  | registerToken q' token platform =>
    cases hcaller
    exact leaves_discard (leaves_registerToken hq (htokens token rfl) platform)
  | removeToken q' token =>
    cases hcaller
    exact leaves_removeToken hq token
  | markReadForUser q' id =>
    cases hcaller
    exact leaves_discard (leaves_markRead hq id)
  | setCategoryBlock q' id category active reason =>
    cases hcaller
    exact leaves_discard (leaves_setCategoryBlock hq id category active reason)
  | syncRules q' id =>
    cases hcaller
    exact leaves_discard (leaves_syncRules hq he hne id)
  | setSetupStatus q' id dto =>
    cases hcaller
    exact leaves_discard (leaves_setSetupStatus hq he id dto)
  | getProtectionScore q' id checklists =>
    cases hcaller
    exact leaves_discard (leaves_getProtectionScore hq he checklists id)
  | getInsights q' id checklists =>
    cases hcaller
    exact leaves_discard (leaves_getInsights hq he checklists id)
  | setupRouter q' id dto =>
    cases hcaller
    exact leaves_discard (leaves_setup hq encryption id dto)
  | testConnection q' id =>
    cases hcaller
    exact leaves_discard (leaves_request hq id _ _)
  | triggerDetection q' id =>
    cases hcaller
    exact leaves_discard (leaves_request hq id _ _)
  | changeDns q' id dnsServer =>
    cases hcaller
    exact leaves_discard (leaves_request hq id _ _)
  | blockMac q' id macAddress =>
    cases hcaller
    exact leaves_discard (leaves_request hq id _ _)
  | unblockMac q' id macAddress =>
    cases hcaller
    exact leaves_discard (leaves_request hq id _ _)
  | endGamingSession q' id deviceId =>
    cases hcaller
    exact leaves_discard (leaves_endGamingSession hq id deviceId)
  | microsoftCallback q' code fetch =>
    cases hcaller
    exact leaves_discard (leaves_handleCallback hq encryption microsoft fetch code
      fun request data hdata a ha hp hid => haccounts a ha hp ⟨request, data, hdata, hid.symm⟩)
  | refreshMicrosoft q' fetch =>
    cases hcaller
    exact leaves_discard (leaves_refreshMicrosoft hq encryption microsoft fetch)
  | _ => cases hcaller

section Interleaving
variable {env : Env} {encryption : OAuth.EncryptionService} {microsoft : OAuth.Microsoft}
  {w : World}
  {p : String} {moves : ℕ → Move Call World}

/-- Calls of other parents, interleaved anyhow, leave the family's rows. -/
theorem untouched_after (he : Enclosed p w.db)
    (hstart : ∀ n t, moves n = .start t → Foreign p w.db t)
    (hother : ∀ n f, moves n = .other f → ∀ v, (f v).db = v.db) (n : ℕ) :
    Untouched (familyOf p w.db) w.db
      ((Pool.idle w).after (fun _ => handleCall env encryption microsoft) moves n).state := by
  refine Pool.assured (C := Foreign p w.db) (P := fun _ _ => True)
    (fun _ t ht => leaves_handle he ht) hstart ?_ rfl n
  intro n f hf v hv
  have hv : holding _ v.db = holding _ _ := hv
  change holding _ (f v).db = holding _ _
  rw [hother n f hf, hv]

/-- **Confinement.** Where a family keeps to itself, any interleaving of other parents' calls leaves
all rows of the family as they are. -/
theorem family_untouched (he : Enclosed p w.db)
    (hstart : ∀ n t, moves n = .start t → Foreign p w.db t)
    (hother : ∀ n f, moves n = .other f → ∀ v, (f v).db = v.db) (n : ℕ) :
    holding (familyOf p w.db)
        ((Pool.idle w).after (fun _ => handleCall env encryption microsoft) moves n).state.db =
      holding (familyOf p w.db) w.db :=
  untouched_after he hstart hother n

end Interleaving

/-- Two accounts with a child each, and a phone of the first. -/
def homes : List Step :=
  family 1 "amal@example.com" "uuid-2-0" "adam" ++
    family 2 "basma@example.com" "uuid-10-0" "badr" ++
    [addDevice 3 "uuid-2-0" "uuid-7-0" "phone" none]

theorem ownRun_homes : OwnRun .plain (.fresh .empty 0) homes := by
  refine ⟨trivial, trivial, trivial, trivial, ⟨?_, ?_⟩, trivial⟩
  · decide +kernel
  · decide +kernel

/-- Their database, in which the first parent also has a push token and a Microsoft account. -/
def homesDb : Database :=
  { (run .plain (.fresh .empty 0) homes).db with
    pushTokens := ⟨[⟨"token", "uuid-2-0", "amal-phone", "ios", 4, 4⟩], by decide⟩
    oAuthAccounts := ⟨[⟨"account", "uuid-2-0", "microsoft", "amal-ms", "a", "r", 9, none, 5, 5⟩],
      by decide⟩ }

/-- The world with it. -/
def homesWorld : World := { run .plain (.fresh .empty 0) homes with db := homesDb }

theorem enclosed_homesWorld : Enclosed "uuid-2-0" homesWorld.db := by
  have he : Enclosed "uuid-2-0" (run .plain (.fresh .empty 0) homes).db :=
    enclosed_run rfl ownRun_homes "uuid-2-0"
  exact ⟨he.deviceChild, he.deviceGateway, he.sessionChild, he.sessionDevice⟩

/-- The provider's answer for the second parent. -/
def basmaData : OAuth.TokenData := ⟨some "access", some "refresh", some 3600, some "basma-ms", none⟩

/-- The second parent tries to remove the phone, the child and the push token of the first and to
block a category of the child, registers a phone, links a Microsoft account, and deletes the own
account meanwhile. -/
def attempts : List (Move Call World) :=
  [.start (.request (.removeDevice "uuid-10-0" "uuid-16-0")), .call 0,
    .start (.request (.removeChild "uuid-10-0" "uuid-7-0")),
    .start (.removeToken "uuid-10-0" "amal-phone"), .call 2,
    .start (.setCategoryBlock "uuid-10-0" "uuid-7-0" .gaming true none), .call 3,
    .start (.registerToken "uuid-10-0" "basma-phone" .android), .call 4, .call 4,
    .start (.microsoftCallback "uuid-10-0" "code" fun _ => .ok basmaData), .call 5, .call 5,
      .call 5,
    .call 5, .start (.deleteAccount "uuid-10-0"), .call 6, .call 1, .call 6, .call 0]

theorem foreign_attempts {m : ℕ} {t : Call} (ht : schedule attempts m = .start t) :
    Foreign "uuid-2-0" homesWorld.db t := by
  have hmem := mem_of_schedule_start ht
  simp only [attempts, List.mem_cons, Move.start.injEq, List.not_mem_nil, reduceCtorEq,
    or_false, false_or] at hmem
  rcases hmem with rfl | rfl | rfl | rfl | rfl | rfl | rfl
  · exact ⟨⟨_, rfl, by decide, by decide⟩, nofun, nofun, nofun, fun _ _ _ h => h⟩
  · exact ⟨⟨_, rfl, by decide, by decide⟩, nofun, nofun, nofun, fun _ _ _ h => h⟩
  · exact ⟨⟨_, rfl, by decide, by decide⟩, nofun, nofun, nofun, fun _ _ _ h => h⟩
  · exact ⟨⟨_, rfl, by decide, by decide⟩, nofun, nofun, nofun, fun _ _ _ h => h⟩
  · refine ⟨⟨_, rfl, by decide, by decide⟩, nofun, nofun, ?_, fun _ _ _ h => h⟩
    rintro _ ⟨⟩
    decide +kernel
  · refine ⟨⟨_, rfl, by decide, by decide⟩, nofun, nofun, nofun, ?_⟩
    rintro a ha - ⟨_, _, ⟨⟩, hid⟩
    have hother : ∀ a ∈ (holding (familyOf "uuid-2-0" homesWorld.db) homesWorld.db).oAuthAccounts,
        a.providerUserId ≠ "basma-ms" := by
      decide +kernel
    exact hother a ha hid.symm
  · exact ⟨⟨_, rfl, by decide, by decide⟩, nofun, nofun, nofun, fun _ _ _ h => h⟩

theorem family_untouched_homes :
    holding (familyOf "uuid-2-0" homesWorld.db) ((Pool.idle homesWorld).after
      (fun _ => handleCall .plain Auth.Microsoft.sealing Auth.Microsoft.configured)
      (schedule attempts) 20).state.db =
    holding (familyOf "uuid-2-0" homesWorld.db) homesWorld.db :=
  family_untouched enclosed_homesWorld (fun _ _ => foreign_attempts)
    (forall_other_schedule (by simp [attempts])) 20

end GuardTime.Tenants.Confinement
