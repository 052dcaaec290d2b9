import Mathlib.Tactic
import GuardTime.System.Ownership
import GuardTime.Tenants.Writes

/-! # Requests of other parents

What another parent's request leaves alone: all rows of the family, wherever its calls find them as
they were. The ownership checks let the request through with ids that are not the family's
(`assures_find*`), and its writes go to those ids only (`leaves_*`). -/

namespace GuardTime.Tenants.Strangers

open GuardTime.Lib.Program GuardTime.Lib.Interleave GuardTime.Lib.Keyed GuardTime.Lib.Js
open GuardTime.Lib.Owners GuardTime.Schema GuardTime.Server GuardTime.Prisma GuardTime.Services
open GuardTime.Tenants.Writes

/-- Wherever its calls find the family's rows as they were, they stay so. -/
def Leaves (p : String) (db₀ : Database) {α : Type} (c : Api α) : Prop :=
  Assures (Untouched (familyOf p db₀) db₀) (fun _ => True) c

/-- A device of another parent: none of the family's, and not behind its gateways. -/
structure Stranger (f : Family) (q : String) (d : Device) : Prop where
  parentId : d.parentId = q
  id : d.id ∉ f.devices
  gateway : ∀ k, truthy d.gatewayId = some k → k ∉ f.gateways

theorem some_of_truthy {o : Option String} {s : String} (h : truthy o = some s) : o = some s :=
  (Option.filter_eq_some_iff.mp h).1

section Calls
variable {p : String} {db₀ : Database}

/-! ### Calls on other ids -/

theorem leaves_newDate : Leaves p db₀ newDate := .call (fun _ hw => hw) fun _ _ _ _ => trivial

theorem leaves_randomUUID : Leaves p db₀ randomUUID :=
  .call (fun _ hw => hw) fun _ _ _ _ => trivial

theorem leaves_query {α : Type} (f : Database → ℕ → α) : Leaves p db₀ (Prisma.query f) :=
  .call (fun _ hw => hw) fun _ _ _ _ => trivial

theorem leaves_orThrow {α : Type} (o : Option α) (e : Err) : Leaves p db₀ (Prog.orThrow o e) :=
  .weaken (.orThrow o e)

theorem leaves_ignoreErrors {c : Api Unit} (h : Leaves p db₀ c) : Leaves p db₀ (ignoreErrors c) :=
  .catchErr h fun _ => .pure trivial

theorem leaves_encrypt (encryption : OAuth.EncryptionService) (text : Option String) :
    Leaves p db₀ (OAuth.encrypt encryption text) :=
  .bind (leaves_orThrow _ _) fun _ _ => .bind leaves_randomUUID fun _ _ => .pure trivial

theorem leaves_decrypt (encryption : OAuth.EncryptionService) (text : String) :
    Leaves p db₀ (OAuth.decrypt encryption text) := by
  unfold OAuth.decrypt
  split
  · exact .pure trivial
  · exact .throw _

theorem leaves_expiresAt (data : OAuth.TokenData) : Leaves p db₀ (OAuth.expiresAt data) :=
  .bind leaves_newDate fun _ _ => .bind (leaves_orThrow _ _) fun _ _ => .pure trivial

theorem leaves_transaction {α : Type} {c : Prog TxWorld Err α}
    (h : Prog.Keeps (TxOnDb fun db => holding (familyOf p db₀) db =
      holding (familyOf p db₀) db₀) c) : Leaves p db₀ (Prisma.transaction c) :=
  .call (fun w hw => keeps_transaction h w hw) fun _ _ _ _ => trivial

theorem leaves_log {data : Audit.Entry} (h : data.userId ≠ some p)
    (ha : data.action ≠ "doh_dot_detected") : Leaves p db₀ (Audit.log data) :=
  .bind (assures_createAuditLog (fun _ _ => decide_eq_false h) fun _ _ =>
    Bool.and_eq_false_iff.mpr (.inl (decide_eq_false ha))) fun _ _ => .pure trivial

theorem leaves_invalidate (ips : List (Option String)) :
    Leaves p db₀ (DnsPolicy.invalidateSourceIps ips) := by
  refine .forEach ips fun ip _ => ?_
  unfold DnsPolicy.invalidateSourceIp
  split
  · exact .pure trivial
  · exact .ite (fun _ => .pure trivial) fun _ =>
      .bind (.bind (.call (fun _ hw => hw) fun _ _ _ _ => trivial) fun _ (_ : True) =>
        .pure trivial)
        fun _ (_ : True) => .call (fun _ hw => hw) fun _ _ _ _ => trivial

theorem leaves_deleteWaiting {id : String} (hid : id ∉ (familyOf p db₀).devices) :
    Leaves p db₀ (Pairing.deleteWaitingSessionsForDevice id) := by
  refine guardPairingSession.deleteMany fun s hs => ?_
  have hown := (List.mem_filter.mp hs).2
  rw [Family.ofPairingSession, decide_eq_true_eq] at hown
  rw [Bool.and_eq_false_iff]
  refine .inl (decide_eq_false ?_)
  rintro rfl
  exact hid hown

/-! ### Adapters -/

section Adapters
variable {d : Device} (hd : d.id ∉ (familyOf p db₀).devices)
include hd

theorem leaves_createCommand (type : CommandType) (payload : String) :
    Leaves p db₀ (Adapters.createCommand d type payload) :=
  .bind (.weaken (guardCommand.create fun _ _ => decide_eq_false hd)) fun _ _ =>
    .bind (.call (fun _ hw => hw) fun _ _ _ _ => trivial) fun _ (_ : True) => .pure trivial

theorem leaves_createIosCommand (type : CommandType) (payload : String) :
    Leaves p db₀ (Adapters.createIosCommand d.id type payload) :=
  .weaken (guardCommand.create fun _ _ => decide_eq_false hd)

omit hd in
theorem leaves_viaXbox (d : Device) (action stored : String) :
    Leaves p db₀ (Adapters.viaXbox d action stored) := by
  refine .bind (leaves_query _) fun oauth _ => ?_
  cases oauth <;> exact .pure trivial

theorem leaves_adapterBlock (reason : String) : Leaves p db₀ (Adapters.blockDevice d reason) := by
  unfold Adapters.blockDevice
  split
  · exact .bind (leaves_createCommand hd _ _) fun _ _ => .pure trivial
  · exact .bind (leaves_createIosCommand hd _ _) fun _ _ => .pure trivial
  · exact leaves_viaXbox _ _ _
  · exact .pure trivial
  · exact .pure trivial

theorem leaves_adapterUnblock : Leaves p db₀ (Adapters.unblockDevice d) := by
  unfold Adapters.unblockDevice
  split
  · exact .bind (leaves_createCommand hd _ _) fun _ _ => .pure trivial
  · exact .bind (leaves_createIosCommand hd _ _) fun _ _ => .pure trivial
  · exact leaves_viaXbox _ _ _
  · exact .pure trivial
  · exact .pure trivial

theorem leaves_adapterStart (rules : List Rule) : Leaves p db₀ (Adapters.startSession d rules) := by
  unfold Adapters.startSession
  split
  · exact .bind (leaves_createCommand hd _ _) fun _ _ =>
      .bind (leaves_createCommand hd _ _) fun _ _ => .pure trivial
  · exact .bind (leaves_createIosCommand hd _ _) fun _ _ => .pure trivial
  · refine .bind (leaves_query _) fun oauth _ => ?_
    cases oauth <;> exact .pure trivial
  · unfold Adapters.startViaGateway
    split
    · exact .pure trivial
    · refine .bind (leaves_query _) fun gateway _ => ?_
      split <;> exact .pure trivial
  · exact .pure trivial

end Adapters

/-! ### Router commands -/

section Gateway
variable {k : String} (hk : k ∉ (familyOf p db₀).gateways)
include hk

theorem leaves_enqueueRouter (type : RouterCommandType) (payload : Option Json)
    (deviceId : Option String) :
    Leaves p db₀ (RouterCommands.enqueueCommand k type payload deviceId) :=
  .weaken (guardRouterCommand.create fun _ _ => decide_eq_false hk)

theorem leaves_enqueueStrategy (id : String) (type : RouterCommandType)
    (priority : List SmartBlock.Strategy) :
    Leaves p db₀ (SmartBlock.enqueueStrategyCommand k id type priority) :=
  .bind (leaves_query _) fun _ _ => .ite
    (fun _ => .bind (leaves_log nofun (by simp)) fun _ _ => .pure trivial) fun _ =>
      .bind (leaves_enqueueRouter hk _ _ _) fun _ _ =>
        .bind (leaves_log nofun (by simp)) fun _ _ => .pure trivial

end Gateway

/-! ### Sessions, gateways and devices -/

/-- An update of a session that is not the family's. -/
theorem leaves_patchSession {id : String} {f : Session → Session} {hf : ∀ s, (f s).id = s.id}
    (hid : id ∉ (holding (familyOf p db₀) db₀).sessions.map Session.id)
    (hp : ∀ s, (f s).parentId = s.parentId) : Leaves p db₀ (Prisma.update .session id f hf) := by
  refine .weaken (guardSession.update hid fun now s hs => ?_)
  change decide ((f s).parentId = p) = false
  rw [hp]
  exact hs

/-- An update of a gateway that is not the family's. -/
theorem leaves_patchGateway {id : String} {f : Gateway → Gateway} {hf : ∀ g, (f g).id = g.id}
    (hid : id ∉ (familyOf p db₀).gateways) (hp : ∀ g, (f g).parentId = g.parentId) :
    Leaves p db₀ (Prisma.update .gateway id f hf) := by
  refine .weaken (guardGateway.update hid fun now g hg => ?_)
  change decide ((f g).parentId = p) = false
  rw [hp]
  exact hg

/-- An update of a device that is not the family's, and stays where it is. -/
theorem leaves_patchDevice (he : Enclosed p db₀) {id : String} {f : Device → Device}
    {hf : ∀ d, (f d).id = d.id} (hid : id ∉ (familyOf p db₀).devices)
    (hp : ∀ d, (f d).parentId = d.parentId) (hc : ∀ d, (f d).childId = d.childId)
    (hg : ∀ d, (f d).gatewayId = d.gatewayId) : Leaves p db₀ (Prisma.update .device id f hf) := by
  refine (guardDevice.update (fun h => hid (he.mem_devices.mpr h)) fun now d hd => ?_).weaken
  change (decide ((f d).parentId = p) || ((f d).childId.any (fun c => decide (c ∈ _)) ||
    (f d).gatewayId.any fun k => decide (k ∈ _))) = false
  rw [hp, hc, hg]
  exact hd

theorem leaves_calculateScore (he : Enclosed p db₀) (checklists : OfflineControl.Checklists)
    {id : String} (hid : id ∉ (familyOf p db₀).devices) :
    Leaves p db₀ (Protection.calculateProtectionScore checklists id) :=
  .bind (leaves_query _) fun _ _ => .bind (leaves_orThrow _ _) fun _ _ =>
    .bind leaves_newDate fun _ _ => .bind (leaves_ignoreErrors
      (.bind (leaves_patchDevice he hid (fun _ => rfl) (fun _ => rfl) fun _ => rfl) fun _ _ =>
        .pure trivial))
      fun _ _ => .pure trivial

end Calls

section Requests
variable {p q : String} {db₀ : Database}

/-! ### Ownership checks -/

theorem notMine (hq : q ≠ p) {x : String} (hx : x = q) : decide (x = p) = false :=
  decide_eq_false (hx ▸ hq)

variable (hq : q ≠ p)
include hq

theorem notMem_users : q ∉ (holding (familyOf p db₀) db₀).users.map User.id := by
  rintro hmem
  obtain ⟨u, hu, rfl⟩ := List.mem_map.mp hmem
  exact hq (of_decide_eq_true (List.mem_filter.mp hu).2)

theorem assures_ownChild (id : String) {e e' : Err} : Assures (Untouched (familyOf p db₀) db₀)
    (fun _ => id ∉ (familyOf p db₀).children) (do
      let c ← Prog.orThrow (← Prisma.findUnique .child id) e
      Prog.require (c.parentId = q) e') := by
  refine .bind (guardChild.query _) fun o ho => .bind (.orThrow _ _) fun c hc =>
    (Assures.require _ _).mono fun _ hp => ?_
  obtain ⟨w, n, hw, rfl⟩ := ho
  obtain ⟨hmem, rfl⟩ := Table.find_eq_some.mp hc
  exact guardChild.key_notMem hw hmem (notMine hq hp)

theorem assures_findChild (id : String) : Assures (Untouched (familyOf p db₀) db₀)
    (fun _ => id ∉ (familyOf p db₀).children) (Children.findOne q id) :=
  .mono (Guard.checked (c := fun c => c.parentId = q) guardChild fun _ _ _ _ hc => notMine hq hc)
    fun _ h => h.2.2.2

theorem assures_findGateway (id : String) : Assures (Untouched (familyOf p db₀) db₀)
    (fun g => g.id = id ∧ id ∉ (familyOf p db₀).gateways) (Gateways.findOwned q id) := by
  have hfind : Assures (Untouched (familyOf p db₀) db₀)
      (fun g => g.id = id ∧ (g.parentId = q → id ∉ (familyOf p db₀).gateways))
      (Gateways.findGateway id) := by
    refine .bind (guardGateway.query _) fun o ho => (Assures.orThrow _ _).mono fun g hg => ?_
    obtain ⟨w, n, hw, rfl⟩ := ho
    obtain ⟨hmem, rfl⟩ := Table.find_eq_some.mp hg
    exact ⟨rfl, fun hp => guardGateway.key_notMem hw hmem (notMine hq hp)⟩
  exact .bind hfind fun g hg => .bind (.require _ _) fun _ hp => .pure ⟨hg.1, hg.2 hp⟩

theorem stranger_of_found (he : Enclosed p db₀) {w : World}
    (hw : Untouched (familyOf p db₀) db₀ w) {d : Device} (hd : d ∈ w.db.devices.rows)
    (hp : d.parentId = q) : Stranger (familyOf p db₀) q d := by
  have hmine : (familyOf p db₀).ofDevice d = false := by
    by_contra hown
    have hmem : d ∈ (holding (familyOf p db₀) w.db).devices :=
      List.mem_filter.mpr ⟨hd, Bool.eq_true_of_not_eq_false hown⟩
    have hholding : holding (familyOf p db₀) w.db = holding (familyOf p db₀) db₀ := hw
    rw [hholding] at hmem
    exact hq (hp.symm.trans (he.parentId hmem).2)
  refine ⟨hp, fun hid => ?_, fun k hk hmem => ?_⟩
  · exact guardDevice.key_notMem hw hd hmine (he.mem_devices.mp hid)
  · rw [Family.ofDevice, Bool.or_eq_false_iff, Bool.or_eq_false_iff, some_of_truthy hk] at hmine
    exact absurd hmem (by simpa using hmine.2.2)

theorem assures_ownDevice (he : Enclosed p db₀) (id : String) {c : Device → Prop} [DecidablePred c]
    (hc : ∀ d, c d → d.parentId = q) (e e' : Err) : Assures (Untouched (familyOf p db₀) db₀)
    (fun d => d.id = id ∧ Stranger (familyOf p db₀) q d) (do
      let d ← Prog.orThrow (← Prisma.findUnique .device id) e
      Prog.require (c d) e'
      pure d) := by
  refine .bind (guardDevice.query _) fun o ho => .bind (.orThrow _ _) fun d hd =>
    .bind (.require _ _) fun _ hcd => .pure ?_
  obtain ⟨w, n, hw, rfl⟩ := ho
  obtain ⟨hmem, rfl⟩ := Table.find_eq_some.mp hd
  exact ⟨rfl, stranger_of_found hq he hw hmem (hc d hcd)⟩

theorem assures_findDevice (he : Enclosed p db₀) (id : String) :
    Assures (Untouched (familyOf p db₀) db₀)
      (fun d => d.id = id ∧ Stranger (familyOf p db₀) q d) (Devices.findOne q id) :=
  assures_ownDevice hq he id (fun _ h => h) _ _

/-! ### The account -/

theorem leaves_logout : Leaves p db₀ (Auth.logout q) :=
  .bind (.weaken (guardUser.update (notMem_users hq) fun _ _ hu => hu)) fun _ _ => .pure trivial

theorem leaves_updateProfile (dto : Parents.UpdateProfileDto) :
    Leaves p db₀ (Parents.updateProfile q dto) :=
  .bind (.weaken (guardUser.update (notMem_users hq) fun _ _ hu => hu)) fun _ _ => .pure trivial

theorem leaves_removeToken (token : String) : Leaves p db₀ (Push.removeToken q token) := by
  refine guardPushToken.deleteMany fun t ht => ?_
  have hown := of_decide_eq_true (List.mem_filter.mp ht).2
  rw [Bool.and_eq_false_iff, hown]
  exact .inl (decide_eq_false hq.symm)

/-- A token that none of the family has. -/
theorem leaves_registerToken {token : String}
    (htoken : ∀ t ∈ (holding (familyOf p db₀) db₀).pushTokens, t.token ≠ token)
    (platform : Push.PushPlatform) : Leaves p db₀ (Push.registerToken q token platform) :=
  .bind leaves_newDate fun _ _ => guardPushToken.upsert
    (fun t ht => decide_eq_false (htoken t ht)) (fun _ _ _ => notMine hq rfl)
    fun _ _ => notMine hq rfl

theorem leaves_markRead (id : String) : Leaves p db₀ (Notifications.markReadForUser q id) := by
  refine .bind (guardNotification.query _) fun o ho => .bind (.orThrow _ _) fun n hn =>
    .weaken (guardNotification.update (fun hmem => ?_) fun _ _ hn => hn)
  obtain ⟨w, m, hw, rfl⟩ := ho
  obtain ⟨hrow, hp⟩ := mem_matching.mp (List.mem_of_mem_head? hn)
  rw [Bool.and_eq_true, decide_eq_true_eq, decide_eq_true_eq] at hp
  exact guardNotification.key_notMem hw hrow (notMine hq hp.2) (hp.1 ▸ hmem)

omit hq in
theorem leaves_storeRefreshed (encryption : OAuth.EncryptionService) {id : String}
    (hid : id ∉ (holding (familyOf p db₀) db₀).oAuthAccounts.map OAuthAccount.id)
    (data : OAuth.TokenData) : Leaves p db₀ (OAuth.storeRefreshed encryption id data) :=
  .bind (leaves_encrypt _ _) fun _ _ => .bind (leaves_encrypt _ _) fun _ _ =>
    .bind (leaves_expiresAt _) fun _ _ => .bind
      (.weaken (guardOAuthAccount.update hid fun _ _ ha => ha)) fun _ _ => .pure trivial

theorem leaves_refreshMicrosoft (encryption : OAuth.EncryptionService) (microsoft : OAuth.Microsoft)
    (fetch : OAuth.TokenRequest → OAuth.TokenResponse) :
    Leaves p db₀ (OAuth.refreshMicrosoftToken encryption microsoft fetch q) := by
  unfold OAuth.refreshMicrosoftToken OAuth.findAccount Prisma.findFirst
  refine .bind (guardOAuthAccount.query _) fun o ho => ?_
  obtain ⟨w, n, hw, rfl⟩ := ho
  split
  · exact .pure trivial
  · rename_i account hfound
    obtain ⟨hrow, hp⟩ := mem_matching.mp (List.mem_of_mem_head? hfound)
    rw [Bool.and_eq_true, decide_eq_true_eq] at hp
    have hid := guardOAuthAccount.key_notMem hw hrow (notMine hq hp.1)
    split
    · refine .bind (leaves_decrypt _ _) fun _ _ => ?_
      split
      · exact .throw _
      · exact .pure trivial
      · exact leaves_storeRefreshed encryption hid _
    · exact .pure trivial

/-- Linking an account that none of the family has linked. -/
theorem leaves_handleCallback (encryption : OAuth.EncryptionService) (microsoft : OAuth.Microsoft)
    (fetch : OAuth.TokenRequest → OAuth.TokenResponse) (code : String)
    (hfetch : ∀ request data, fetch request = .ok data →
      ∀ a ∈ (holding (familyOf p db₀) db₀).oAuthAccounts, a.provider = "microsoft" →
        a.providerUserId ≠ OAuth.providerUserId data) :
    Leaves p db₀ (OAuth.handleMicrosoftCallback encryption microsoft fetch q code) := by
  unfold OAuth.handleMicrosoftCallback
  split
  · split
    · exact .throw _
    · exact .pure trivial
    · rename_i data hdata
      refine .bind (leaves_encrypt _ _) fun _ _ => .bind (leaves_encrypt _ _) fun _ _ =>
        .bind (leaves_expiresAt _) fun _ _ => .bind (guardOAuthAccount.upsert (fun a ha => ?_)
          (fun _ _ ha => ha) fun _ _ => notMine hq rfl) fun _ _ => .pure trivial
      rw [Bool.and_eq_false_iff, decide_eq_false_iff_not, decide_eq_false_iff_not]
      by_cases hp : a.provider = "microsoft"
      · exact .inr (hfetch _ _ hdata a ha hp)
      · exact .inl hp
  · exact .throw _

theorem leaves_deleteAccount (he : Enclosed p db₀) : Leaves p db₀ (Parents.deleteAccount q) := by
  refine .bind (guardUser.query _) fun o ho => .bind (.orThrow _ _) fun u hu => ?_
  obtain ⟨w, n, hw, rfl⟩ := ho
  obtain rfl := Table.key_of_find hu
  have hentry : Leaves p db₀ (Prisma.create .auditLog (Parents.deletionEntry u)) :=
    assures_createAuditLog (fun _ _ => decide_eq_false fun h => hq (Option.some.inj h))
      fun _ _ => Bool.and_eq_false_iff.mpr (.inl (by simp [Parents.deletionEntry]))
  have hdelete : Leaves p db₀ (Prisma.delete .user u.id) :=
    guardUser.delete (notMem_users hq) fun _ _ hw => untouched_cascadeUser he hq hw
  exact leaves_transaction (.bind (keeps_viaTx hentry.keeps) fun _ => keeps_viaTx hdelete.keeps)

/-! ### Children, rules and limits -/

theorem leaves_createChild (dto : Children.CreateChildDto) : Leaves p db₀ (Children.create q dto) :=
  .weaken (guardChild.create fun _ _ => notMine hq rfl)

theorem leaves_updateChild (id : String) (dto : Children.UpdateChildDto) :
    Leaves p db₀ (Children.update q id dto) :=
  .bind (assures_findChild hq id) fun _ hid => .bind (.require _ _) fun _ _ =>
    .weaken (guardChild.update hid fun _ _ hc => hc)

theorem leaves_removeChild (he : Enclosed p db₀) (id : String) :
    Leaves p db₀ (Children.remove q id) :=
  .bind (assures_findChild hq id) fun _ hid => guardChild.delete hid fun _ _ hw =>
    untouched_cascadeChildren he (fun _ hc hmem => hid (List.mem_singleton.mp hmem ▸ hc)) hw

theorem leaves_setCategoryBlock (id : String) (category : BlockCategory) (active : Bool)
    (reason : Patch String) :
    Leaves p db₀ (Categories.setCategoryBlock q id category active reason) := by
  refine .bind (assures_ownChild hq id) fun _ hid => .weaken (guardCategoryBlock.upsert
    (fun b hb => ?_) (fun _ _ hb => hb) fun _ _ => decide_eq_false hid)
  have hown := of_decide_eq_true (List.mem_filter.mp hb).2
  rw [Bool.and_eq_false_iff]
  refine .inl (decide_eq_false ?_)
  rintro rfl
  exact hid hown

theorem leaves_createRule (dto : Rules.CreateRuleDto) : Leaves p db₀ (Rules.create q dto) :=
  .bind (assures_ownChild hq _) fun _ hid =>
    .weaken (guardRule.create fun _ _ => decide_eq_false hid)

theorem assures_findRule (id : String) : Assures (Untouched (familyOf p db₀) db₀)
    (fun _ => id ∉ (holding (familyOf p db₀) db₀).rules.map Rule.id)
    (Rules.findOwnedOrThrow q id) := by
  have hfind : Assures (Untouched (familyOf p db₀) db₀) (fun x => x.2.parentId = q →
      id ∉ (holding (familyOf p db₀) db₀).rules.map Rule.id) (Rules.findOne id) := by
    refine .bind (guardRule.query _) fun o ho => (Assures.orThrow _ _).mono fun x hx hp => ?_
    obtain ⟨w, n, hw, rfl⟩ := ho
    obtain ⟨r, hr, hx⟩ := Option.bind_eq_some_iff.mp hx
    obtain ⟨c, hc, rfl⟩ := Option.map_eq_some_iff.mp hx
    obtain ⟨hrow, rfl⟩ := Table.find_eq_some.mp hr
    obtain ⟨hchild, hid⟩ := Table.find_eq_some.mp hc
    refine guardRule.key_notMem hw hrow (decide_eq_false ?_)
    rw [← hid]
    exact guardChild.key_notMem hw hchild (notMine hq hp)
  exact .bind hfind fun x hx => .bind (.require _ _) fun _ hp => .pure (hx hp)

theorem leaves_updateRule (id : String) (dto : Rules.UpdateRuleDto) :
    Leaves p db₀ (Rules.update q id dto) :=
  .bind (assures_findRule hq id) fun _ hid => .bind (.require _ _) fun _ _ =>
    .weaken (guardRule.update hid fun _ _ hr => hr)

theorem leaves_removeRule (id : String) : Leaves p db₀ (Rules.remove q id) :=
  .bind (assures_findRule hq id) fun _ hid => guardRule.delete hid fun _ _ hw => hw

theorem assures_findLimit (id : String) : Assures (Untouched (familyOf p db₀) db₀)
    (fun _ => id ∉ (holding (familyOf p db₀) db₀).bandwidthLimits.map BandwidthLimit.id)
    (Bandwidth.findOne q id) :=
  .mono (Guard.checked (c := fun l => l.parentId = q) guardLimit fun _ _ _ _ hl => notMine hq hl)
    fun _ h => h.2.2.2

theorem leaves_createLimit (dto : Bandwidth.CreateBandwidthLimitDto) :
    Leaves p db₀ (Bandwidth.create q dto) := by
  have hdevice : ∀ o, Leaves p db₀ (Bandwidth.checkDevice q o) := by
    rintro (_ | id)
    · exact .pure trivial
    · exact .bind (leaves_query _) fun _ _ => .bind (leaves_orThrow _ _) fun _ _ =>
        .weaken (.require _ _)
  have hchild : ∀ o, Leaves p db₀ (Bandwidth.checkChild q o) := by
    rintro (_ | id)
    · exact .pure trivial
    · exact .bind (leaves_query _) fun _ _ => .bind (leaves_orThrow _ _) fun _ _ =>
        .weaken (.require _ _)
  exact .bind (.require _ _) fun _ _ => .bind (.require _ _) fun _ _ => .bind (.require _ _)
    fun _ _ => .bind (hdevice _) fun _ _ => .bind (hchild _) fun _ _ =>
      .weaken (guardLimit.create fun _ _ => notMine hq rfl)

theorem leaves_updateLimit (id : String) (dto : Bandwidth.UpdateBandwidthLimitDto) :
    Leaves p db₀ (Bandwidth.update q id dto) :=
  .bind (assures_findLimit hq id) fun _ hid => .bind (.require _ _) fun _ _ =>
    .weaken (guardLimit.update hid fun _ _ hl => hl)

theorem leaves_removeLimit (id : String) : Leaves p db₀ (Bandwidth.remove q id) :=
  .bind (assures_findLimit hq id) fun _ hid => guardLimit.delete hid fun _ _ hw => hw

/-! ### Sessions -/

theorem assures_findSession (id : String) : Assures (Untouched (familyOf p db₀) db₀)
    (fun _ => id ∉ (holding (familyOf p db₀) db₀).sessions.map Session.id)
    (Sessions.getAndValidate id q) :=
  .mono (Guard.checked (c := fun s => s.parentId = q) guardSession fun _ _ _ _ hs => notMine hq hs)
    fun _ h => h.2.2.2

theorem leaves_start (env : Env) (dto : Sessions.StartSessionDto) :
    Leaves p db₀ (Sessions.start env q dto) := by
  have hlimit : ∀ c, Leaves p db₀ (Sessions.checkDailyLimit env c dto.durationMinutes) := by
    intro c
    refine .bind (.bind (leaves_query _) fun _ _ => .pure trivial) fun limit (_ : True) => ?_
    rcases limit with _ | l
    · exact .pure trivial
    · exact .bind (.bind leaves_newDate fun _ _ => .bind (leaves_query _) fun _ _ => .pure trivial)
        fun _ (_ : True) => .weaken (.require _ _)
  exact .bind (leaves_query _) fun _ _ => .bind (leaves_orThrow _ _) fun _ _ =>
    .bind (.require _ _) fun _ _ => .bind (leaves_orThrow _ _) fun _ _ =>
    .bind (leaves_query _) fun _ _ => .bind (.require _ _) fun _ _ =>
    .bind (hlimit _) fun _ _ => .weaken (guardSession.create fun _ _ => notMine hq rfl)

theorem leaves_pause (id : String) : Leaves p db₀ (Sessions.pause id q) :=
  .bind (assures_findSession hq id) fun _ hid => .bind (.require _ _) fun _ _ =>
    .bind leaves_newDate fun _ _ => leaves_patchSession hid fun _ => rfl

theorem leaves_resume (id : String) : Leaves p db₀ (Sessions.resume id q) :=
  .bind (assures_findSession hq id) fun _ hid => .bind (.require _ _) fun _ _ =>
    .bind leaves_newDate fun _ _ => leaves_patchSession hid fun _ => rfl

theorem leaves_extend (id : String) (dto : Sessions.ExtendSessionDto) :
    Leaves p db₀ (Sessions.extend id q dto) :=
  .bind (assures_findSession hq id) fun _ hid => .bind (.require _ _) fun _ _ =>
    leaves_patchSession hid fun _ => rfl

theorem leaves_stop (id : String) : Leaves p db₀ (Sessions.stop id q) :=
  .bind (assures_findSession hq id) fun _ hid => .bind (.require _ _) fun _ _ =>
    .bind leaves_newDate fun _ _ => leaves_patchSession hid fun _ => rfl

/-! ### Gateways -/

theorem leaves_registerGateway (name : String) (endpoint : Option String) (type : GatewayType)
    (description : Option String) :
    Leaves p db₀ (Gateways.register q name endpoint type description) :=
  .bind leaves_randomUUID fun _ _ => .bind leaves_newDate fun _ _ =>
    .weaken (guardGateway.create fun _ _ => notMine hq rfl)

theorem leaves_renameGateway (id : String) (name description : Patch String) :
    Leaves p db₀ (Gateways.renameGateway q id name description) :=
  .bind (assures_findGateway hq id) fun _ hg => .bind (.require _ _) fun _ _ =>
    leaves_patchGateway hg.2 fun _ => rfl

theorem leaves_pair (id : String) : Leaves p db₀ (Gateways.pair id q) :=
  .bind (assures_findGateway hq id) fun _ hg => .bind leaves_newDate fun _ _ =>
    leaves_patchGateway hg.2 fun _ => rfl

theorem leaves_rotateToken (id : String) (gracePeriodMs : ℤ) :
    Leaves p db₀ (Gateways.rotateToken q id gracePeriodMs) :=
  .bind (assures_findGateway hq id) fun _ hg => .bind leaves_randomUUID fun _ _ =>
    .bind leaves_newDate fun _ _ => .bind (leaves_patchGateway hg.2 fun _ => rfl) fun _ _ =>
      .bind (leaves_log (fun h => hq (Option.some.inj h)) (by simp)) fun _ _ => .pure trivial

theorem leaves_setup (encryption : OAuth.EncryptionService) (id : String)
    (dto : RouterIntegration.RouterSetupDto) :
    Leaves p db₀ (RouterIntegration.setup encryption q id dto) := by
  refine .bind (assures_findGateway hq id) fun _ hg => .bind (leaves_encrypt _ _) fun _ _ =>
    .bind (guardRouter.upsert (fun r hr => decide_eq_false ?_) (fun _ _ hr => hr)
      fun _ _ => decide_eq_false hg.2) fun _ _ =>
    .bind (leaves_enqueueRouter hg.2 _ _ _) fun _ _ => .pure trivial
  rintro rfl
  exact hg.2 (of_decide_eq_true (List.mem_filter.mp hr).2)

theorem leaves_request (id : String) (type : RouterCommandType) (payload : Json) :
    Leaves p db₀ (RouterIntegration.request q id type payload) :=
  .bind (assures_findGateway hq id) fun _ hg => .bind (leaves_enqueueRouter hg.2 _ _ _) fun _ _ =>
    .pure trivial

theorem leaves_endGamingSession (id deviceId : String) :
    Leaves p db₀ (SmartBlock.endGamingSession q id deviceId) := by
  refine .bind (guardGateway.query _) fun o ho => .bind (.orThrow _ _) fun g hg =>
    .bind (.require _ _) fun _ hp => leaves_enqueueStrategy ?_ _ _ _
  obtain ⟨w, n, hw, rfl⟩ := ho
  obtain ⟨hmem, rfl⟩ := Table.find_eq_some.mp hg
  exact guardGateway.key_notMem hw hmem (notMine hq hp)

/-! ### Devices -/

theorem leaves_createDevice (dto : Devices.CreateDeviceDto)
    (hc : dto.childId ∉ (familyOf p db₀).children)
    (hg : ∀ k, dto.gatewayId = some k → k ∉ (familyOf p db₀).gateways) :
    Leaves p db₀ (Devices.create q dto) := by
  refine .bind (.weaken (guardDevice.create fun id now => ?_)) fun _ _ => .pure trivial
  rw [Family.ofDevice, Bool.or_eq_false_iff, Bool.or_eq_false_iff]
  refine ⟨notMine hq rfl, decide_eq_false hc, ?_⟩
  rcases hk : dto.gatewayId with _ | k
  · rfl
  · simpa using hg k hk

theorem leaves_registerDevice (dto : ChildAgent.RegisterDeviceDto)
    (hc : dto.childId ∉ (familyOf p db₀).children) : Leaves p db₀
    (ChildAgent.registerDevice q dto) := by
  refine .bind leaves_newDate fun _ _ => .weaken (guardDevice.create fun id now => ?_)
  rw [Family.ofDevice, Bool.or_eq_false_iff, Bool.or_eq_false_iff]
  exact ⟨notMine hq rfl, decide_eq_false hc, rfl⟩

variable (he : Enclosed p db₀)
include he

theorem leaves_updateDevice (id : String) (dto : Devices.UpdateDeviceDto)
    (hc : ∀ c, dto.childId = some (some c) → c ∉ (familyOf p db₀).children)
    (hg : ∀ k, dto.gatewayId = some (some k) → k ∉ (familyOf p db₀).gateways) :
    Leaves p db₀ (Devices.update q id dto) := by
  refine .bind (assures_findDevice hq he id) fun d hd => .bind (.require _ _) fun _ _ =>
    .bind (.weaken (guardDevice.update (fun h => hd.2.id ?_) fun now r hr => ?_)) fun _ _ =>
      .pure trivial
  · exact hd.1 ▸ he.mem_devices.mpr h
  · rw [Family.ofDevice, Bool.or_eq_false_iff, Bool.or_eq_false_iff] at hr ⊢
    refine ⟨hr.1, ?_, ?_⟩
    · change (dto.childId.over r.childId).any _ = false
      rcases hk : dto.childId with _ | _ | c
      · exact hr.2.1
      · rfl
      · simpa [Patch.over] using hc c hk
    · change (dto.gatewayId.over r.gatewayId).any _ = false
      rcases hk : dto.gatewayId with _ | _ | k
      · exact hr.2.2
      · rfl
      · simpa [Patch.over] using hg k hk

theorem leaves_removeDevice (id : String) : Leaves p db₀ (Devices.remove q id) :=
  .bind (assures_findDevice hq he id) fun _ hd =>
    guardDevice.delete (fun h => hd.2.id (hd.1 ▸ he.mem_devices.mpr h)) fun _ _ hw =>
      untouched_cascadeDevices he (fun _ hx hmem =>
        hd.2.id (hd.1 ▸ List.mem_singleton.mp hmem ▸ hx)) hw

/-- A request that goes on with a device it owns. -/
theorem leaves_onOwn (id : String) {α : Type} {k : Device → Api α}
    (hk : ∀ d, id ∉ (familyOf p db₀).devices → Leaves p db₀ (k d)) :
    Leaves p db₀ (Devices.findOne q id >>= k) :=
  .bind (assures_findDevice hq he id) fun d hd => hk d (hd.1 ▸ hd.2.id)

theorem leaves_lockInternet (id : String) (reason : Option String) :
    Leaves p db₀ (Devices.lockInternet q id reason) :=
  leaves_onOwn hq he id fun _ hid => .bind leaves_newDate fun _ _ =>
    .bind (leaves_patchDevice he hid (fun _ => rfl) (fun _ => rfl) fun _ => rfl) fun _ _ =>
      .bind (leaves_invalidate _) fun _ _ => .pure trivial

theorem leaves_unlockInternet (id : String) : Leaves p db₀ (Devices.unlockInternet q id) :=
  leaves_onOwn hq he id fun _ hid =>
    .bind (leaves_patchDevice he hid (fun _ => rfl) (fun _ => rfl) fun _ => rfl) fun _ _ =>
      .bind (leaves_invalidate _) fun _ _ => .pure trivial

theorem leaves_upsertSchedule (id : String) (dto : Protection.UpsertScheduleDto) :
    Leaves p db₀ (Protection.upsertSchedule q id dto) :=
  leaves_onOwn hq he id fun _ hid => .bind (.require _ _) fun _ _ =>
    leaves_patchDevice he hid (fun _ => rfl) (fun _ => rfl) fun _ => rfl

theorem leaves_setSetupStatus (id : String) (dto : OfflineControl.SetSetupStatusDto) :
    Leaves p db₀ (OfflineControl.setSetupStatus q id dto) :=
  leaves_onOwn hq he id fun _ hid => .bind leaves_newDate fun _ _ =>
    leaves_patchDevice he hid (fun _ => rfl) (fun _ => rfl) fun _ => rfl

theorem leaves_getProtectionScore (checklists : OfflineControl.Checklists) (id : String) :
    Leaves p db₀ (Protection.getProtectionScore checklists q id) :=
  leaves_onOwn hq he id fun _ hid => leaves_calculateScore he checklists hid

theorem leaves_getInsights (checklists : OfflineControl.Checklists) (id : String) :
    Leaves p db₀ (Protection.getInsights checklists q id) :=
  leaves_onOwn hq he id fun _ hid => .bind (leaves_calculateScore he checklists hid) fun _ _ =>
    .bind leaves_newDate fun _ _ => .ite
      (fun _ => .bind (.pure (P := fun _ => True) trivial) fun _ _ => .pure trivial)
      fun _ => .bind (leaves_query _) fun _ _ => .pure trivial

/-! ### Pairing -/

theorem leaves_startPairing (env : Env) (id : String) :
    Leaves p db₀ (Pairing.startPairing env id q) :=
  .bind (assures_ownDevice hq he id (fun _ h => h) _ _) fun d hd => by
    have hid : id ∉ (familyOf p db₀).devices := hd.1 ▸ hd.2.id
    exact .bind (leaves_deleteWaiting hid) fun _ _ => .bind leaves_randomUUID fun _ _ =>
      .bind leaves_newDate fun _ _ =>
      .bind (.weaken (guardPairingSession.create fun _ _ => decide_eq_false hid)) fun _ _ =>
      .bind (leaves_patchDevice he hid (fun _ => rfl) (fun _ => rfl) fun _ => rfl) fun _ _ =>
      .bind (leaves_log (fun h => hq (Option.some.inj h)) (by simp)) fun _ _ => .pure trivial

theorem leaves_cancelPairing (id : String) : Leaves p db₀ (Pairing.cancelPairing id q) :=
  .bind (assures_ownDevice hq he id (fun _ h => h) _ _) fun _ hd =>
    .bind (leaves_deleteWaiting (hd.1 ▸ hd.2.id)) fun _ _ =>
      leaves_log (fun h => hq (Option.some.inj h)) (by simp)

/-! ### Deleting gateways -/

theorem leaves_deleteGateway (id : String) : Leaves p db₀ (Gateways.deleteGateway q id) := by
  refine .bind (assures_findGateway hq id) fun _ hg => leaves_transaction ?_
  obtain ⟨-, hid⟩ := hg
  have hungate : Leaves p db₀ (Prisma.updateMany .device (fun d => d.gatewayId = some id)
      (fun d => { d with gatewayId := none }) Model.ungated_id) := by
    refine guardDevice.updateMany (fun d hd => decide_eq_false fun hk => ?_) fun now d hd => ?_
    · obtain ⟨hmem, hp⟩ := he.parentId hd
      exact hid ((he.deviceGateway d hmem id hk).mp hp)
    · rw [Family.ofDevice, Bool.or_eq_false_iff, Bool.or_eq_false_iff] at hd ⊢
      exact ⟨hd.1, hd.2.1, rfl⟩
  have hbehind : ∀ x : String, decide (x ∈ (familyOf p db₀).gateways) = true →
      decide (x = id) = false := by
    rintro x hx
    refine decide_eq_false ?_
    rintro rfl
    exact hid (of_decide_eq_true hx)
  have hrouters : Leaves p db₀ (Prisma.deleteMany .detectedRouter fun r => r.gatewayId = id) :=
    guardRouter.deleteMany fun r hr => hbehind _ (List.mem_filter.mp hr).2
  have hcommands : Leaves p db₀ (Prisma.deleteMany .routerCommand fun c => c.gatewayId = id) :=
    guardRouterCommand.deleteMany fun c hc => hbehind _ (List.mem_filter.mp hc).2
  have hlogs : Leaves p db₀ (Prisma.deleteMany .vpnDetectionLog fun l => l.gatewayId = id) :=
    guardVpnDetection.deleteMany fun l hl => hbehind _ (List.mem_filter.mp hl).2
  have hdelete : Leaves p db₀ (Prisma.delete .gateway id) :=
    guardGateway.delete hid fun _ _ hw => untouched_cascadeGateways he
      (fun _ hk hmem => hid (List.mem_singleton.mp hmem ▸ hk)) hw
  exact .bind (keeps_viaTx hungate.keeps) fun _ => .bind (keeps_viaTx hrouters.keeps) fun _ =>
    .bind (keeps_viaTx hcommands.keeps) fun _ => .bind (keeps_viaTx hlogs.keeps) fun _ =>
      keeps_viaTx hdelete.keeps

/-! ### Enforcement -/

theorem leaves_settle {d : Device} (hd : Stranger (familyOf p db₀) q d) (status : DeviceStatus)
    {action : String} (ha : action ≠ "doh_dot_detected") (details : Option String)
    (result : Adapters.ControlResult) {sync : String → String → Api SmartBlock.Outcome}
    (hs : ∀ k, k ∉ (familyOf p db₀).gateways → Leaves p db₀ (sync k d.id)) :
    Leaves p db₀ (Enforcement.settle d (some q) status action details sync result) := by
  have hsync : Leaves p db₀ (Enforcement.syncToRouter d sync) := by
    unfold Enforcement.syncToRouter
    split
    · exact .pure trivial
    · rename_i k hk
      exact .catchErr (.bind (hs k (hd.gateway k hk)) fun _ _ => .pure trivial) fun _ =>
        .pure trivial
  exact .bind (leaves_patchDevice he hd.id (fun _ => rfl) (fun _ => rfl) fun _ => rfl) fun _ _ =>
    .bind (leaves_invalidate _) fun _ _ => .bind (leaves_log (fun h => hq (Option.some.inj h)) ha)
      fun _ _ => .bind hsync fun _ _ => .pure trivial

variable (hne : q ≠ "")
include hne

theorem assures_ownedDevice (id : String) : Assures (Untouched (familyOf p db₀) db₀)
    (fun d => d.id = id ∧ Stranger (familyOf p db₀) q d) (Enforcement.findDevice id (some q)) :=
  assures_ownDevice hq he id (fun _ h => h q (by rw [truthy_some hne]; rfl)) _ _

theorem leaves_blockDevice (id reason : String) :
    Leaves p db₀ (Enforcement.blockDevice id reason (some q)) :=
  .bind (assures_ownedDevice hq he hne id) fun _ hd =>
    .bind (leaves_adapterBlock hd.2.id reason) fun _ _ => .ite (fun _ =>
      leaves_settle hq he hd.2 _
        (by decide) _ _ fun _ hk => leaves_enqueueStrategy hk _ _ _) fun _ =>
        .pure trivial

theorem leaves_unblockDevice (id : String) :
    Leaves p db₀ (Enforcement.unblockDevice id (some q)) :=
  .bind (assures_ownedDevice hq he hne id) fun _ hd =>
    .bind (leaves_adapterUnblock hd.2.id) fun _ _ => .ite (fun _ =>
      leaves_settle hq he hd.2 _
        (by decide) _ _ fun _ hk => leaves_enqueueStrategy hk _ _ _) fun _ =>
        .pure trivial

theorem leaves_syncRules (id : String) : Leaves p db₀ (Enforcement.syncRules id (some q)) := by
  unfold Enforcement.syncRules Rules.getActiveRulesForChild Prisma.findMany
  refine .bind (assures_ownedDevice hq he hne id) fun d hd => ?_
  split
  · exact .pure trivial
  · exact .bind (leaves_query _) fun _ _ => leaves_adapterStart hd.2.id _

end Requests

end GuardTime.Tenants.Strangers
