import Mathlib.Tactic
import GuardTime.Household
import GuardTime.System.Changes

/-! # Locks and the decision cache

Within a day no version of an address expires, so versions only grow and no decision is cached above
the current one (`Stamped`), whatever requests come. An operation that locks, unlocks, blocks or
unblocks a device is then followed by the right answers when it raises the versions of the device's
addresses; `fresh_after_toggle` says which operations do. -/

namespace GuardTime.Dns.Invalidation

open GuardTime.Lib.Program GuardTime.Lib.Keyed GuardTime.Lib.TtlCache GuardTime.Lib.Js
open GuardTime.Schema GuardTime.Server GuardTime.Prisma GuardTime.Services
open GuardTime.Services.DnsPolicy GuardTime.Dns.Engine GuardTime.Dns.Cache
open GuardTime.System.Links GuardTime.System.Quiet GuardTime.System.Run GuardTime.System.Changes

/-! ### Versions within a day -/

/-- The version last written for the address. -/
def written (c : Cache String CacheValue) (ip : String) : ℕ :=
  versionOf ((c (versionKey ip)).map Entry.value)

/-- Every version was written since `t₀`, and no decision is cached above its version. -/
structure Stamped (t₀ : Time) (c : Cache String CacheValue) : Prop where
  version : ∀ ip e, c (versionKey ip) = some e → e.ttl = versionTtl ∧ t₀ ≤ e.setAt
  decision : ∀ ip n domain e, ':' ∉ domain.toList → c (decisionKey ip n domain) = some e →
    n ≤ written c ip

/-- Within a day of `t₀`, with such a cache. -/
def Day (t₀ : Time) (c : Cache String CacheValue) (now : Time) : Prop :=
  (t₀ ≤ now ∧ now < t₀ + versionTtl) ∧ Stamped t₀ c

section Stamped
variable {t₀ t : Time} {c c' : Cache String CacheValue} {ip : String}

theorem Stamped.get_version (h : Stamped t₀ c) (ht : t < t₀ + versionTtl) :
    versionOf (c.get t (versionKey ip)) = written c ip := by
  unfold written Cache.get
  rcases he : c (versionKey ip) with _ | e
  · rfl
  · obtain ⟨httl, hset⟩ := h.version ip e he
    have hlive : e.Live t := by
      unfold Entry.Live
      rw [httl]
      exact ht.trans_le (add_le_add_left hset _)
    simp [hlive]

theorem written_congr (h : c' (versionKey ip) = c (versionKey ip)) :
    written c' ip = written c ip := by
  rw [written, h, written]

theorem written_bump (ip ip' : String) (w : World) : written (bump ip w).cache ip' =
    if ip' = ip then versionAt w ip + 1 else written w.cache ip' := by
  by_cases h : ip' = ip
  · subst h
    simp [written, bump_self, versionOf]
  · rw [if_neg h]
    exact written_congr (bump_of_ne (fun hk => h (versionKey_injective hk)) w)

theorem day_versionAt {w : World} (h : OffDb (Day t₀) w) (ip : String) :
    versionAt w ip = written w.cache ip := h.2.get_version h.1.2

theorem day_le_written_bump {w : World} (h : OffDb (Day t₀) w) (ip ip' : String) :
    written w.cache ip' ≤ written (bump ip w).cache ip' := by
  rw [written_bump]
  split_ifs with hip
  · rw [hip, day_versionAt h ip]
    exact Nat.le_succ _
  · exact le_rfl

theorem day_bump {w : World} (h : OffDb (Day t₀) w) (ip : String) :
    OffDb (Day t₀) (bump ip w) := by
  refine ⟨h.1, fun ip' e he => ?_, fun ip' n domain e hd he => ?_⟩
  · by_cases hip : ip' = ip
    · subst hip
      rw [bump_self] at he
      obtain rfl := Option.some.inj he
      exact ⟨rfl, h.1.1⟩
    · rw [bump_of_ne fun hk => hip (versionKey_injective hk)] at he
      exact h.2.version ip' e he
  · rw [bump_decision] at he
    exact (h.2.decision ip' n domain e hd he).trans (day_le_written_bump h ip ip')

theorem keeps_day_invalidateSourceIp (ip : Option String) :
    Prog.Keeps (OffDb (Day t₀)) (invalidateSourceIp ip) := by
  intro w hw
  rw [run_invalidateSourceIp]
  rcases truthy ip with _ | ip
  · exact hw
  · exact day_bump hw ip

/-- What a check may write. -/
theorem OnlyDecision.version_eq {w : World} {ip domain ip' : String} {n : ℕ} {now : Time}
    (h : OnlyDecision w (decisionKey ip n domain) c now) :
    c (versionKey ip') = w.cache (versionKey ip') := by
  rcases h.entry (versionKey ip') with h | h | ⟨h, -⟩
  · exact h
  · exact absurd h (not_isAux_versionKey ip')
  · exact absurd h.symm (decisionKey_ne_versionKey _ _ _ _)

theorem keeps_day_checkPolicy {env : Env} {ip domain : String} (hd : ':' ∉ domain.toList) :
    Prog.Keeps (OffDb (Day t₀)) (checkPolicy env ip domain) := by
  intro w hw
  have hc := checkPolicy_cache env ip domain w
  refine ⟨by rw [hc.now_eq]; exact hw.1, fun ip' e he => ?_, fun ip' n domain' e hd' he => ?_⟩
  · rw [OnlyDecision.version_eq hc] at he
    exact hw.2.version ip' e he
  · rw [written_congr (OnlyDecision.version_eq hc)]
    rcases hc.entry (decisionKey ip' n domain') with h | h | ⟨h, -⟩
    · exact hw.2.decision ip' n domain' e hd' (h ▸ he)
    · exact absurd h (not_isAux_decisionKey _ _ _)
    · obtain ⟨rfl, rfl, -⟩ := decisionKey_injective hd' hd h
      exact (day_versionAt hw ip').le

end Stamped

/-! ### Runs within a day -/

/-- The step is within a day of `t₀` and asks for a proper name if it asks for any. -/
def Proper (t₀ : Time) (s : Step) : Prop :=
  (t₀ ≤ s.time ∧ s.time < t₀ + versionTtl) ∧
    ∀ ip domain, s.request = .checkPolicy ip domain → ':' ∉ domain.toList

theorem day_exec {env : Env} {t₀ : Time} {w : World} {s : Step} (hs : Proper t₀ s)
    (h : Stamped t₀ w.cache) : OffDb (Day t₀) (exec env w s) :=
  keeps_handle env (kept_offDb _ _)
    (fun ips => .forEach ips fun ip _ => keeps_day_invalidateSourceIp ip)
    (fun ip domain hr => keeps_day_checkPolicy (hs.2 ip domain hr)) { w with now := s.time }
      ⟨hs.1, h⟩

theorem stamped_run {env : Env} {t₀ : Time} : ∀ {steps : List Step} {w : World},
    (∀ s ∈ steps, Proper t₀ s) → Stamped t₀ w.cache → Stamped t₀ (run env w steps).cache
  | [], _, _, h => h
  | s :: steps, w, hs, h =>
    @stamped_run env t₀ steps (exec env w s) (fun s' hs' => hs s' (by simp [hs']))
      (day_exec (hs s (by simp)) h).2

/-! ### Operations that raise versions -/

/-- The addresses of a device, as an invalidation takes them. -/
def addresses (d : Device) : List (Option String) := [d.ipAddress, d.dnsSourceIp, d.ipv6Address]

theorem holds_iff {ip : String} {d : Device} : holds ip d = true ↔ some ip ∈ addresses d := by
  simp only [holds, addresses, Bool.or_eq_true, decide_eq_true_eq, List.mem_cons, List.not_mem_nil,
    or_false, or_assoc, @eq_comm _ (some ip)]

/-- The device was locked, unlocked, blocked or unblocked. -/
def Toggled (d d' : Device) : Prop :=
  ¬ (d'.internetLocked = d.internetLocked ∧ (d'.status = .blocked ↔ d.status = .blocked))

instance (d d' : Device) : Decidable (Toggled d d') := inferInstanceAs (Decidable (¬ (_ ∧ _)))

theorem not_toggled (d : Device) : ¬ Toggled d d := fun h => h ⟨rfl, Iff.rfl⟩

/-- A device with the address was toggled between the two databases. -/
def ToggledAt (db db' : Database) (ip : String) : Prop :=
  ∃ id d d', db.devices.find id = some d ∧ db'.devices.find id = some d' ∧ Toggled d d' ∧
    holds ip d' = true

/-- The property looks at devices, cache and clock only. -/
def OnDevices (I : World → Prop) : Prop := ∀ w w', w'.db.devices = w.db.devices →
  w'.cache = w.cache → w'.now = w.now → I w → I w'

theorem OnDevices.adapterSafe {I : World → Prop} (h : OnDevices I) : AdapterSafe I where
  steady w hw := h w _ rfl rfl rfl hw
  auditLog w _ hw := h w _ rfl rfl rfl hw
  notificationEvent w _ hw := h w _ rfl rfl rfl hw
  pushToken w _ hw := h w _ rfl rfl rfl hw
  command w _ hw := h w _ rfl rfl rfl hw
  routerCommand w _ hw := h w _ rfl rfl rfl hw
  queue w _ hw := h w _ rfl rfl rfl hw

section Raise
variable {t₀ : Time} {w₀ : World}

/-- Since `w₀` versions have only grown. -/
def Grown (t₀ : Time) (w₀ w : World) : Prop :=
  OffDb (Day t₀) w ∧ ∀ ip, written w₀.cache ip ≤ written w.cache ip

/-- The devices are those of `w₀`. -/
def Start (t₀ : Time) (w₀ w : World) : Prop := Grown t₀ w₀ w ∧ w.db.devices = w₀.db.devices

/-- The devices toggled since `w₀` have their addresses among `ips`. -/
def Pending (t₀ : Time) (w₀ : World) (ips : List (Option String)) (w : World) : Prop :=
  Grown t₀ w₀ w ∧ ∀ ip, ToggledAt w₀.db w.db ip → some ip ∈ ips

/-- The versions of the devices toggled since `w₀` were raised. -/
def Raised (t₀ : Time) (w₀ w : World) : Prop :=
  Grown t₀ w₀ w ∧ ∀ ip, ip ≠ "" → ToggledAt w₀.db w.db ip → written w₀.cache ip < written w.cache ip

theorem ToggledAt.congr {db db' db'' : Database} {ip : String} (h : ToggledAt db db' ip)
    (hd : db''.devices = db'.devices) : ToggledAt db db'' ip := by
  unfold ToggledAt
  rw [hd]
  exact h

theorem Grown.congr {w w' : World} (h : Grown t₀ w₀ w) (hc : w'.cache = w.cache)
    (hn : w'.now = w.now) : Grown t₀ w₀ w' := by
  unfold Grown OffDb at *
  rw [hc, hn]
  exact h

theorem onDevices_start : OnDevices (Start t₀ w₀) := fun _ _ hd hc hn hw =>
  ⟨hw.1.congr hc hn, hd.trans hw.2⟩

theorem onDevices_raised : OnDevices (Raised t₀ w₀) := fun _ _ hd hc hn hw =>
  ⟨hw.1.congr hc hn, fun ip hne ht => by rw [hc]; exact hw.2 ip hne (ht.congr hd.symm)⟩

theorem Start.raised {w : World} (h : Start t₀ w₀ w) : Raised t₀ w₀ w := by
  refine ⟨h.1, fun ip _ ht => ?_⟩
  obtain ⟨id, d, d', hd, hd', htog, -⟩ := ht
  rw [h.2, hd] at hd'
  obtain rfl := Option.some.inj hd'
  exact absurd htog (not_toggled d)

theorem keeps_grown_invalidateSourceIp (ip : Option String) :
    Prog.Keeps (Grown t₀ w₀) (invalidateSourceIp ip) := by
  intro w hw
  refine ⟨keeps_day_invalidateSourceIp ip w hw.1, fun ip' => (hw.2 ip').trans ?_⟩
  rw [run_invalidateSourceIp]
  rcases truthy ip with _ | ip
  · exact le_rfl
  · exact day_le_written_bump hw.1 ip ip'

/-- An invalidation raises every address it is given. -/
theorem leads_invalidateSourceIps (ips : List (Option String)) :
    Prog.Leads (Pending t₀ w₀ ips) (Raised t₀ w₀) (invalidateSourceIps ips) := by
  intro w hw
  have hgrown : Grown t₀ w₀ ((invalidateSourceIps ips).run w).2 :=
    Prog.Keeps.forEach ips (fun ip _ => keeps_grown_invalidateSourceIp ip) w hw.1
  refine ⟨hgrown, fun ip hne ht => ?_⟩
  have hdb : ((invalidateSourceIps ips).run w).2.db = w.db :=
    keeps_invalidateSourceIps (I := fun v => v.db = w.db) (fun _ _ hv => hv) w rfl
  rw [hdb] at ht
  have hmem := hw.2 ip ht
  -- the turn of `ip` raises it, the turns before and after keep it
  have hyields : ∀ o, Prog.Yields () (invalidateSourceIp o) := fun o v => by
    rw [run_invalidateSourceIp]
  have hturn : ∀ v, Grown t₀ w₀ v → Grown t₀ w₀ ((invalidateSourceIp (some ip)).run v).2 ∧
      written w₀.cache ip < written ((invalidateSourceIp (some ip)).run v).2.cache ip := by
    intro v hv
    refine ⟨keeps_grown_invalidateSourceIp _ v hv, ?_⟩
    rw [run_invalidateSourceIp]
    simp only [truthy, Option.filter, ne_eq, hne, not_false_eq_true, decide_true, if_true]
    rw [written_bump, if_pos rfl, day_versionAt hv.1 ip]
    exact Nat.lt_succ_of_le (hv.2 ip)
  have hkeep : ∀ o, Prog.Keeps (fun v => Grown t₀ w₀ v ∧ written w₀.cache ip < written v.cache ip)
      (invalidateSourceIp o) := by
    intro o v hv
    refine ⟨keeps_grown_invalidateSourceIp o v hv.1, hv.2.trans_le ?_⟩
    rw [run_invalidateSourceIp]
    rcases truthy o with _ | ip'
    · exact le_rfl
    · exact day_le_written_bump hv.1.1 ip' ip
  exact (Prog.forEach_reaches hyields hturn hmem
    (fun o _ => keeps_grown_invalidateSourceIp o) (fun o _ => hkeep o) w hw.1).2

/-- A write of a device followed by the invalidation of its addresses. -/
theorem leads_toggle {α : Type} {id : String} {f : Device → Device} {hf : ∀ d, (f d).id = d.id}
    (haddr : ∀ d, addresses (f d) = addresses d) {g : Device → Api α}
    (hg : ∀ u d, w₀.db.devices.find id = some d → addresses u = addresses d →
      Prog.Leads (Pending t₀ w₀ (addresses d)) (Raised t₀ w₀) (g u)) :
    Prog.Leads (Start t₀ w₀) (Raised t₀ w₀) (Prisma.update .device id f hf >>= g) := by
  intro w hw
  rw [Prog.run_bind]
  rcases run_update_cases .device id f hf w with ⟨e, he⟩ | ⟨d, hd, hok⟩
  · rw [he]
    exact (onDevices_start w _ rfl rfl rfl hw).raised
  · rw [hok]
    have hd₀ : w₀.db.devices.find id = some d := by rw [← hw.2]; exact hd
    refine hg (Model.device.touch w.now (f d)) d hd₀ (haddr d) (World.afterCall w _)
      ⟨hw.1.congr rfl rfl, fun ip ht => ?_⟩
    obtain ⟨id', d₁, d', hd₁, hd', htog, hip⟩ := ht
    have hfind : w.db.devices.find id' = some d₁ := by rw [hw.2]; exact hd₁
    have hpatch : (Model.device.patch (Model.device.get w.db) w.now id f hf).find id' = _ :=
      Model.find_patch_some hfind hf
    obtain rfl : (if d₁.id = id then _ else d₁) = d' := Option.some.inj (hpatch.symm.trans hd')
    split_ifs at htog hip with hid
    · obtain rfl : d₁ = d := Option.some.inj ((hid ▸ Table.key_of_find hfind ▸ hfind).symm.trans hd)
      rw [holds_iff] at hip
      exact (haddr d₁) ▸ hip
    · exact absurd htog (not_toggled d₁)

theorem keeps_findDevice {I : World → Prop} (hI : Steady I) (p id : String) :
    Prog.Keeps I (Devices.findOne p id) :=
  .bind (keeps_query hI _) fun _ => .bind (.orThrow _ _) fun _ => .bind (.require _ _) fun _ =>
    .pure _

theorem leads_lockInternet (p id : String) (reason : Option String) :
    Prog.Leads (Start t₀ w₀) (Raised t₀ w₀) (Devices.lockInternet p id reason) := by
  refine .bind (keeps_findDevice onDevices_start.adapterSafe.steady p id) (fun _ => Start.raised)
    fun _ => .bind keeps_newDate (fun _ => Start.raised) fun now =>
    leads_toggle (fun _ => by rfl) fun u d _ hu => ?_
  have hinv := @leads_invalidateSourceIps t₀ w₀ (addresses d)
  rw [← hu] at hinv ⊢
  exact hinv.andThen fun _ => .pure _

theorem leads_unlockInternet (p id : String) :
    Prog.Leads (Start t₀ w₀) (Raised t₀ w₀) (Devices.unlockInternet p id) := by
  refine .bind (keeps_findDevice onDevices_start.adapterSafe.steady p id) (fun _ => Start.raised)
    fun _ => leads_toggle (fun _ => by rfl) fun u d _ hu => ?_
  have hinv := @leads_invalidateSourceIps t₀ w₀ (addresses d)
  rw [← hu] at hinv ⊢
  exact hinv.andThen fun _ => .pure _

theorem leads_settle {device : Device} (hd : w₀.db.devices.find device.id = some device)
    (parentId : Option String) (status : DeviceStatus) (action : String) (details : Option String)
    (type : RouterCommandType) (priority : List SmartBlock.Strategy)
    (result : Adapters.ControlResult) : Prog.Leads (Start t₀ w₀) (Raised t₀ w₀)
      (Enforcement.settle device parentId status action details
        (fun g d => SmartBlock.enqueueStrategyCommand g d type priority) result) := by
  have safe := (@onDevices_raised t₀ w₀).adapterSafe
  refine leads_toggle (fun _ => by rfl) fun u d hd' _ => ?_
  obtain rfl := Option.some.inj (hd.symm.trans hd')
  exact (leads_invalidateSourceIps _).andThen fun _ => (safe.log _).bind fun _ =>
    (Relays.syncToRouter fun _ _ => safe.enqueueStrategyCommand _ _ _ _).bind fun _ =>
      .pure _

/-- Both enforcement operations: find the device, ask the adapter, settle. -/
theorem leads_enforcement {id : String} {parentId : Option String} {status : DeviceStatus}
    {action : String} {details : Option String} {type : RouterCommandType}
    {priority : List SmartBlock.Strategy} {adapter : Device → Api Adapters.ControlResult}
    (hadapter : ∀ d, Prog.Keeps (Start t₀ w₀) (adapter d)) :
    Prog.Leads (Start t₀ w₀) (Raised t₀ w₀) (do
      let device ← Enforcement.findDevice id parentId
      let result ← adapter device
      if result.success then
        Enforcement.settle device parentId status action details
          (fun g d => SmartBlock.enqueueStrategyCommand g d type priority) result
      else pure result) := by
  refine .bindOf (F := fun d => w₀.db.devices.find d.id = some d)
    (onDevices_start.adapterSafe.findDevice id parentId) ?_ (fun _ => Start.raised) fun d hd =>
    .bind (hadapter d) (fun _ => Start.raised) fun result =>
      .ite (fun _ => leads_settle hd _ _ _ _ _ _ _) fun _ =>
        .of_keeps (.pure _) fun _ => Start.raised
  intro w hw d hd
  have hfind := Enforcement.findDevice_ok hd
  rw [← hw.2, Table.key_of_find hfind]
  exact hfind

theorem leads_blockDevice (id reason : String) (parentId : Option String) :
    Prog.Leads (Start t₀ w₀) (Raised t₀ w₀) (Enforcement.blockDevice id reason parentId) :=
  leads_enforcement fun d => onDevices_start.adapterSafe.adapterBlock d reason

theorem leads_unblockDevice (id : String) (parentId : Option String) :
    Prog.Leads (Start t₀ w₀) (Raised t₀ w₀) (Enforcement.unblockDevice id parentId) :=
  leads_enforcement fun d => onDevices_start.adapterSafe.adapterUnblock d

end Raise

/-- The operations that lock, unlock, block or unblock a device and raise its versions. -/
def Invalidating : Request → Prop
  | .lockInternet .. | .unlockInternet .. | .blockDevice .. | .unblockDevice .. => True
  | _ => False

theorem raised_exec {env : Env} {t₀ : Time} {w : World} {s : Step} (hs : Proper t₀ s)
    (h : Stamped t₀ w.cache) (hinv : Invalidating s.request) : Raised t₀ w (exec env w s) := by
  have start : Start t₀ w { w with now := s.time } := ⟨⟨⟨hs.1, h⟩, fun _ => le_rfl⟩, rfl⟩
  unfold exec
  rcases hr : s.request <;> rw [hr] at hinv <;> try exact hinv.elim
  · exact ((leads_lockInternet _ _ _).andThen fun _ => .pure _) _ start
  · exact ((leads_unlockInternet _ _).andThen fun _ => .pure _) _ start
  · exact ((leads_blockDevice _ _ _).andThen fun _ => .pure _) _ start
  · exact ((leads_unblockDevice _ _).andThen fun _ => .pure _) _ start

/-! ### Operations that do not -/

/-- The operations that lock, unlock, block or unblock devices and leave the cache alone. -/
def Silent : Request → Prop
  | .gateway _ (.block ..) | .gateway _ (.unblock ..) | .scheduler .enforceDeviceSchedules => True
  | _ => False

theorem cache_exec_of_silent {env : Env} {w : World} {s : Step} (hs : Silent s.request) :
    (exec env w s).cache = w.cache := by
  have frame := @frame_offDb linkView fun c _ => c = w.cache
  unfold exec
  rcases hr : s.request <;> rw [hr] at hs <;> try exact hs.elim
  · exact keeps_discard (quiet_guarded env _ _ frame) { w with now := s.time } rfl
  · rename_i p
    cases p <;> try exact hs.elim
    have safe : PassSafe linkView (OffDb fun c _ => c = w.cache) fun _ => True :=
      { frame := frame
        blockGaming := fun c _ reason =>
          ((free_offDb _ _).upsert (steady_offDb _) _ _ _ _).bind fun _ => .pure _
        sessions := fun _ _ _ _ => trivial
        devices := fun _ _ _ _ _ _ => trivial }
    exact safe.enforceDeviceSchedules env { w with now := s.time } rfl

/-! ### The decision does not depend on heartbeats -/

/-- The device without its heartbeat. -/
def seenless (d : Device) : Device := { d with lastDnsSeenAt := none, updatedAt := 0 }

/-- The databases differ at most in heartbeats and logs. -/
structure SamePolicy (db db' : Database) : Prop where
  devices : db'.devices.rows.map seenless = db.devices.rows.map seenless
  sessions : db'.sessions = db.sessions
  blockedDomains : db'.blockedDomains = db.blockedDomains
  categoryBlocks : db'.categoryBlocks = db.categoryBlocks

theorem lookup_seenless (db : Database) (n : ℕ) (ip : String) :
    (lookup db n ip).map seenless =
      (arrange n ((db.devices.rows.map seenless).filter (holds ip))).head? := by
  have hfilter : (db.devices.rows.map seenless).filter (holds ip) =
      (db.devices.rows.filter (holds ip)).map seenless := List.filter_map
  rw [hfilter, ← map_arrange, List.head?_map]
  rfl

theorem verdict_congr {env : Env} {db db' : Database} (h : SamePolicy db db') (now : Time)
    (tape : ℕ → ℕ) (ip domain : String) :
    verdict env db' now tape ip domain = verdict env db now tape ip domain := by
  have hlook : (lookup db' (tape 0) ip).map seenless = (lookup db (tape 0) ip).map seenless := by
    rw [lookup_seenless, lookup_seenless, h.devices]
  have hsession : ∀ n id, currentSession db' n id = currentSession db n id := fun n id => by
    simp only [currentSession, matching, Model.session, h.sessions]
  have hdomain : ∀ n, blockedDomain env db' n domain = blockedDomain env db n domain := fun n => by
    simp only [blockedDomain, matching, Model.blockedDomain, h.blockedDomains]
  have hchild : ∀ d b, childBlocks db' d b = childBlocks db d b := fun d b => by
    unfold childBlocks
    rw [h.categoryBlocks]
  have hdevice : ∀ d, deviceVerdict env db' now (tape 1) (tape 2) domain d =
      deviceVerdict env db now (tape 1) (tape 2) domain d := fun d => by
    simp only [deviceVerdict, domainVerdict, hsession, hdomain, hchild]
  have hseenless : ∀ d, deviceVerdict env db now (tape 1) (tape 2) domain d =
      deviceVerdict env db now (tape 1) (tape 2) domain (seenless d) := fun _ => rfl
  unfold verdict
  rcases h1 : lookup db' (tape 0) ip with _ | d' <;> rcases h2 : lookup db
    (tape 0) ip with _ | d <;>
    rw [h1, h2] at hlook
  · cases hlook
  · cases hlook
  · simp only [Option.map_some, Option.some.injEq] at hlook
    change deviceVerdict env db' now (tape 1) (tape 2) domain d' =
      deviceVerdict env db now (tape 1) (tape 2) domain d
    rw [hdevice, hseenless d', hlook, ← hseenless]

theorem keeps_samePolicy_checkPolicy (env : Env) (db : Database) (ip domain : String) :
    Prog.Keeps (OnDb (SamePolicy db)) (checkPolicy env ip domain) := fun _ hw =>
  keeps_checkPolicy
    { steady := steady_onDb _
      dnsQueryLog := fun _ _ hv => ⟨hv.devices, hv.sessions, hv.blockedDomains, hv.categoryBlocks⟩
      unknownDomainLog := fun _ _ hv =>
        ⟨hv.devices, hv.sessions, hv.blockedDomains, hv.categoryBlocks⟩
      seen := fun _ _ => keeps_update (steady_onDb _) fun _ _ hv _ _ =>
        ⟨(map_patch (m := .device) (fun _ => by rfl) fun _ => by rfl).trans hv.devices, hv.sessions,
          hv.blockedDomains, hv.categoryBlocks⟩
      aux := fun _ _ _ _ => .write fun _ hv => hv
      decision := fun _ => .write fun _ hv => hv } hw

/-! ### The answer after an operation -/

section Answer
variable {env : Env} {t₀ : Time}

/-- Nothing is cached for the query at time `t`. -/
def Uncached (c : Cache String CacheValue) (ip domain : String) (t : Time) : Prop :=
  cachedDecision (c.get t (decisionKey ip (written c ip) domain)) = none

/-- A check from another address. -/
def CheckFromOther (ip : String) (s : Step) : Prop :=
  ∃ ip' domain, ip' ≠ ip ∧ s.request = .checkPolicy ip' domain

theorem Uncached.check {w : World} {s : Step} {ip domain : String} {t : Time}
    (h : Uncached w.cache ip domain t) (hs : CheckFromOther ip s) (hp : Proper t₀ s)
    (hd : ':' ∉ domain.toList) : Uncached (exec env w s).cache ip domain t := by
  obtain ⟨ip', domain', hne, hr⟩ := hs
  have hexec : (exec env w s).cache =
      ((checkPolicy env ip' domain').run { w with now := s.time }).2.cache := by
    simp only [exec, hr, handle, run_discard_snd]
  have hc := checkPolicy_cache env ip' domain' { w with now := s.time }
  unfold OffDb at hc
  rw [← hexec] at hc
  unfold Uncached Cache.get at *
  rw [written_congr (OnlyDecision.version_eq hc)]
  rcases hc.entry (decisionKey ip (written w.cache ip) domain) with he | he | ⟨he, -⟩
  · rw [he]
    exact h
  · exact absurd he (not_isAux_decisionKey _ _ _)
  · exact absurd (decisionKey_injective hd (hp.2 _ _ hr) he).1 (Ne.symm hne)

theorem samePolicy_exec {w : World} {s : Step} {ip : String} (hs : CheckFromOther ip s) :
    SamePolicy w.db (exec env w s).db := by
  obtain ⟨ip', domain', -, hr⟩ := hs
  have hkeep := keeps_discard (keeps_samePolicy_checkPolicy env w.db ip' domain')
  unfold exec
  rw [hr]
  exact hkeep { w with now := s.time } ⟨rfl, rfl, rfl, rfl⟩

theorem SamePolicy.trans {db db' db'' : Database} (h : SamePolicy db db')
    (h' : SamePolicy db' db'') : SamePolicy db db'' :=
  ⟨h'.devices.trans h.devices, h'.sessions.trans h.sessions,
    h'.blockedDomains.trans h.blockedDomains, h'.categoryBlocks.trans h.categoryBlocks⟩

/-- Checks from other addresses in between change neither the cached answer nor the decision. -/
theorem others_run {ip domain : String} {t : Time} (hd : ':' ∉ domain.toList) :
    ∀ {steps : List Step} {w : World}, (∀ s ∈ steps, CheckFromOther ip s ∧ Proper t₀ s) →
    Uncached w.cache ip domain t → Uncached (run env w steps).cache ip domain t ∧
      SamePolicy w.db (run env w steps).db
  | [], _, _, h => ⟨h, rfl, rfl, rfl, rfl⟩
  | s :: steps, w, hs, h => by
    obtain ⟨hother, hp⟩ := hs s (by simp)
    obtain ⟨h1, h2⟩ :=
      @others_run _ _ _ hd steps (exec env w s) (fun s' hs' => hs s' (by simp [hs']))
      (h.check hother hp hd)
    exact ⟨h1, (samePolicy_exec hother).trans h2⟩

/-- No request but a check caches a decision. -/
theorem decision_exec {w : World} {s : Step} (hs : ∀ ip domain, s.request ≠ .checkPolicy ip domain)
    (ip : String) (n : ℕ) (domain : String) :
    (exec env w s).cache (decisionKey ip n domain) = w.cache (decisionKey ip n domain) := by
  have hinv : ∀ ips, Prog.Keeps
      (OffDb fun c _ => c (decisionKey ip n domain) = w.cache (decisionKey ip n domain))
      (invalidateSourceIps ips) := fun ips => .forEach ips fun o _ v hv => by
    rw [run_invalidateSourceIp]
    rcases truthy o with _ | ip'
    · exact hv
    · exact (bump_decision ip' v ip n domain).trans hv
  exact keeps_handle env (kept_offDb _ _) hinv (fun ip' domain' hr => absurd hr (hs ip' domain'))
    { w with now := s.time } rfl

/-- An operation that raises the version of an address leaves nothing cached for it. -/
theorem uncached_of_raised {w : World} {s : Step} (hs : Proper t₀ s) (h : Stamped t₀ w.cache)
    (hinv : Invalidating s.request) {ip domain : String} (hne : ip ≠ "") (hd : ':' ∉ domain.toList)
    (ht : ToggledAt w.db (exec env w s).db ip) (t : Time) :
    Uncached (exec env w s).cache ip domain t := by
  have hraised := (@raised_exec env _ _ _ hs h hinv).2 ip hne ht
  have hnone : (exec env w s).cache
      (decisionKey ip (written (exec env w s).cache ip) domain) = none := by
    rw [decision_exec fun ip' domain' hr => by rw [hr] at hinv; exact hinv]
    rcases he : w.cache (decisionKey ip (written (exec env w s).cache ip) domain) with _ | e
    · rfl
    · exact absurd (h.decision _ _ _ e hd he) (not_le.mpr hraised)
  simp [Uncached, Cache.get, hnone, cachedDecision]

/-- No request but a check writes the version of the empty address, which invalidations skip. -/
theorem version_exec_empty {w : World} {s : Step}
    (hs : ∀ ip domain, s.request ≠ .checkPolicy ip domain) :
    (exec env w s).cache (versionKey "") = w.cache (versionKey "") := by
  have hinv : ∀ ips, Prog.Keeps (OffDb fun c _ => c (versionKey "") = w.cache (versionKey ""))
      (invalidateSourceIps ips) := fun ips => .forEach ips fun o _ v hv => by
    rw [run_invalidateSourceIp]
    rcases ho : truthy o with _ | ip
    · exact hv
    · have hne : ip ≠ "" := by simpa using (Option.filter_eq_some_iff.mp ho).2
      exact (bump_of_ne (fun hk => hne (versionKey_injective hk).symm) v).trans hv
  exact keeps_handle env (kept_offDb _ _) hinv (fun ip domain hr => absurd hr (hs ip domain))
    { w with now := s.time } rfl

/-- What is not cached when an operation comes that writes neither the version of the address nor
its decisions is not cached later. -/
theorem uncached_of_same {w : World} {s : Step} (hs : Proper t₀ s) (h : Stamped t₀ w.cache)
    {ip domain : String}
    (hversion : (exec env w s).cache (versionKey ip) = w.cache (versionKey ip))
    (hdecision : ∀ n, (exec env w s).cache (decisionKey ip n domain) =
      w.cache (decisionKey ip n domain))
    (hmiss : cachedFor { w with now := s.time } ip domain = none) {t : Time} (ht : s.time ≤ t) :
    Uncached (exec env w s).cache ip domain t := by
  have hver : versionAt { w with now := s.time } ip = written w.cache ip := h.get_version hs.1.2
  unfold cachedFor at hmiss
  rw [hver] at hmiss
  unfold Uncached
  rw [written_congr hversion]
  unfold Cache.get at *
  rw [hdecision]
  rcases he : w.cache (decisionKey ip (written w.cache ip) domain) with _ | e
  · rfl
  · by_cases hlive : e.Live t
    · have hlive' : e.Live s.time := lt_of_le_of_lt ht hlive
      simp only [he, Option.bind_some, hlive', if_true] at hmiss
      simpa [hlive] using hmiss
    · simp [hlive, cachedDecision]

/-- What is not cached when a toggling operation comes is not cached after it. -/
theorem uncached_of_uncached {w : World} {s : Step} (hs : Proper t₀ s) (h : Stamped t₀ w.cache)
    (hkind : Invalidating s.request ∨ Silent s.request) {ip domain : String}
    (hd : ':' ∉ domain.toList) (htoggle : ToggledAt w.db (exec env w s).db ip)
    (hmiss : cachedFor { w with now := s.time } ip domain = none) {t : Time} (ht : s.time ≤ t) :
    Uncached (exec env w s).cache ip domain t := by
  rcases hkind with hinv | hsilent
  · have hcheck : ∀ ip domain, s.request ≠ .checkPolicy ip domain := fun ip domain hr => by
      rw [hr] at hinv
      exact hinv
    by_cases hne : ip = ""
    · subst hne
      exact uncached_of_same hs h (version_exec_empty hcheck)
        (fun n => decision_exec hcheck "" n domain) hmiss ht
    · exact uncached_of_raised hs h hinv hne hd htoggle t
  · have hcache := @cache_exec_of_silent env w s hsilent
    exact uncached_of_same hs h (by rw [hcache]) (fun n => by rw [hcache]) hmiss ht

/-- **Locks and the decision cache.** In a run within a day from an empty cache, let an operation
toggle a device. If it raises versions and the address is not empty, or nothing was cached for the
address, then the next check from the address returns the decision for the database the operation
left. -/
theorem fresh_after_toggle {w : World} (hw : w.cache = .empty) {steps : List Step} {op : Step}
    (hsteps : ∀ s ∈ steps, Proper t₀ s) (hop : Proper t₀ op) {ip : String}
    (htoggle : ToggledAt (run env w steps).db (exec env (run env w steps) op).db ip)
    (hkind : Invalidating op.request ∧ ip ≠ "" ∨
      (Invalidating op.request ∨ Silent op.request) ∧ ∀ domain,
        cachedFor { run env w steps with now := op.time } ip domain = none)
    {others : List Step} (hothers : ∀ s ∈ others, CheckFromOther ip s ∧ Proper t₀ s)
    {domain : String} (hd : ':' ∉ domain.toList) {t : Time} (ht : op.time ≤ t)
    (hday : t < t₀ + versionTtl) :
    ((checkPolicy env ip domain).run
        { run env (exec env (run env w steps) op) others with now := t }).1 =
      .ok (verdict env (exec env (run env w steps) op).db t
        (upcoming (run env (exec env (run env w steps) op) others)) ip domain) := by
  have hempty : Stamped t₀ w.cache := by
    rw [hw]
    exact ⟨fun _ _ h => by simp [Cache.empty] at h, fun _ _ _ _ _ h => by simp [Cache.empty] at h⟩
  have hbefore : Stamped t₀ (run env w steps).cache := stamped_run hsteps hempty
  have hafter : Stamped t₀ (exec env (run env w steps) op).cache := (day_exec hop hbefore).2
  have huncached : Uncached (exec env (run env w steps) op).cache ip domain t := by
    rcases hkind with ⟨hinv, hne⟩ | ⟨hkind, hmiss⟩
    · exact uncached_of_raised hop hbefore hinv hne hd htoggle t
    · exact uncached_of_uncached hop hbefore hkind hd htoggle (hmiss domain) ht
  obtain ⟨hmiss, hsame⟩ := @others_run env _ _ _ _ hd _ _ hothers huncached
  have hstamped := @stamped_run env _ _ _ (fun s hs => (hothers s hs).2) hafter
  rw [checkPolicy_of_miss]
  · exact congrArg Except.ok (verdict_congr hsame t _ ip domain)
  · have hver : versionOf (Cache.get _ t (versionKey ip)) = _ := hstamped.get_version hday
    unfold cachedFor versionAt
    simp only [hver]
    exact hmiss

end Answer

/-! ### A tablet behind a gateway -/

/-- A household with a tablet on a gateway. -/
def home : World := .fresh (Household.withDevices
  [{ Household.device "tablet" "amal" "adam" with
      ipAddress := some "10.0.0.5"
      macAddress := some "aa:bb"
      gatewayId := some "ga" }] (by simp)) 0

/-- The tablet asks for a name. -/
def ask (t : Time) : Step := ⟨t, .checkPolicy "10.0.0.5" "example.org"⟩

/-- The parent locks the tablet. -/
def lock (t : Time) : Step := ⟨t, .lockInternet "amal" "tablet" none⟩

/-- The gateway blocks the tablet. -/
def gatewayBlock (t : Time) : Step :=
  ⟨t, .gateway ⟨some "ga-token", none, none, "POST", "/gateways/devices/block", ""⟩
    (.block (some "ga") "aa:bb")⟩

theorem proper_ask {t : Time} (h : 0 ≤ t ∧ t < versionTtl) : Proper 0 (ask t) := by
  refine ⟨by simpa [ask] using h, ?_⟩
  rintro _ _ ⟨⟩
  decide

theorem proper_lock {t : Time} (h : 0 ≤ t ∧ t < versionTtl) : Proper 0 (lock t) :=
  ⟨by simpa [lock] using h, fun _ _ hr => by cases hr⟩

theorem proper_gatewayBlock {t : Time} (h : 0 ≤ t ∧ t < versionTtl) : Proper 0 (gatewayBlock t) :=
  ⟨by simpa [gatewayBlock] using h, fun _ _ hr => by cases hr⟩

theorem toggledAt_of_rows {db db' : Database} {ip : String}
    (h : ∃ d ∈ db.devices.rows, ∃ d' ∈ db'.devices.rows, d.id = d'.id ∧ Toggled d d' ∧
      holds ip d' = true) : ToggledAt db db' ip := by
  obtain ⟨d, hd, d', hd', hid, ht, hip⟩ := h
  exact ⟨d.id, d, d', Table.find_key hd, by rw [hid]; exact Table.find_key hd', ht, hip⟩

theorem fresh_after_lock : ((checkPolicy .plain "10.0.0.5" "example.org").run
      { exec .plain (run .plain home [ask 1]) (lock 2) with now := 3 }).1 =
    .ok (verdict .plain (exec .plain (run .plain home [ask 1]) (lock 2)).db 3
      (upcoming (exec .plain (run .plain home [ask 1]) (lock 2))) "10.0.0.5" "example.org") := by
  have hsteps : ∀ s ∈ [ask 1], Proper 0 s := by
    intro s hs
    rw [List.mem_singleton.mp hs]
    exact proper_ask (by decide)
  have hothers : ∀ s ∈ [], CheckFromOther "10.0.0.5" s ∧ Proper 0 s := by simp
  exact fresh_after_toggle rfl hsteps (proper_lock (by decide))
    (toggledAt_of_rows (by decide +kernel)) (.inl ⟨trivial, by decide⟩) hothers (by decide)
    (by decide) (by decide)

/-- A gateway that blocks the tablet leaves its old answers in the cache. -/
theorem stale_after_gatewayBlock : ¬ ∀ (env : Env) (t₀ : Time) (w : World), w.cache = .empty →
    ∀ (steps : List Step) (op : Step), (∀ s ∈ steps, Proper t₀ s) → Proper t₀ op → ∀ ip,
    ToggledAt (run env w steps).db (exec env (run env w steps) op).db ip →
    Invalidating op.request ∨ Silent op.request → ∀ domain, ':' ∉ domain.toList →
    ∀ t, op.time ≤ t → t < t₀ + versionTtl →
    ((checkPolicy env ip domain).run { exec env (run env w steps) op with now := t }).1 =
      .ok (verdict env (exec env (run env w steps) op).db t
        (upcoming (exec env (run env w steps) op)) ip domain) := by
  intro h
  have hsteps : ∀ s ∈ [ask 1], Proper 0 s := by
    intro s hs
    rw [List.mem_singleton.mp hs]
    exact proper_ask (by decide)
  have hfresh := h .plain 0 home rfl [ask 1] (gatewayBlock 2) hsteps
    (proper_gatewayBlock (by decide)) "10.0.0.5"
    (toggledAt_of_rows (by decide +kernel)) (.inr trivial) "example.org" (by decide) 3 (by decide)
    (by decide)
  exact absurd hfresh (by decide +kernel)

end GuardTime.Dns.Invalidation
