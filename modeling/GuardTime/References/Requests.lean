import Mathlib.Tactic
import GuardTime.References.Graph
import GuardTime.System.Changes
import GuardTime.Services.RouterIntegration
import GuardTime.Services.Parents

/-! # Requests and references

What each request does to the references: rows are made with foreign keys that the database checks,
router commands and detections are for rows that the request has found, and everything else keeps
the graph as it is. Deletions are treated apart. -/

namespace GuardTime.References

open GuardTime.Lib.Program GuardTime.Lib.Keyed GuardTime.Lib.Js GuardTime.Schema GuardTime.Server
open GuardTime.Prisma GuardTime.Services GuardTime.System.Links GuardTime.System.Quiet
open GuardTime.System.Changes (Safe PassSafe keeps_discard keeps_checkPolicy findDevice_ok)
open GuardTime.System.Run (Request Pass handle)

/-! ### New rows -/

section Rows

theorem graph_addUser {db : Database} {u : User} {t : Table User.id}
    (h : db.users.insert u = some t) : graphOf (Model.user.set db t) =
      { graphOf db with users := (graphOf db).users ++ [u.id] } := by
  simp [graphOf, refsOf, Model.user, (Table.insert_eq_some h).2]

theorem graph_addChild {db : Database} {c : Child} {t : Table Child.id}
    (h : db.children.insert c = some t) : graphOf (Model.child.set db t) =
      { graphOf db with children := (graphOf db).children ++ [ofChild c] } := by
  simp [graphOf, refsOf, Model.child, (Table.insert_eq_some h).2]

theorem graph_addGateway {db : Database} {k : Gateway} {t : Table Gateway.id}
    (h : db.gateways.insert k = some t) : graphOf (Model.gateway.set db t) =
      { graphOf db with gateways := (graphOf db).gateways ++ [ofGateway k] } := by
  simp [graphOf, refsOf, Model.gateway, (Table.insert_eq_some h).2]

theorem graph_addDevice {db : Database} {d : Device} {t : Table Device.id}
    (h : db.devices.insert d = some t) : graphOf (Model.device.set db t) =
      { graphOf db with devices := (graphOf db).devices ++ [ofDevice d] } := by
  simp [graphOf, refsOf, Model.device, (Table.insert_eq_some h).2]

theorem sound_createUser (mk : String → Time → User) :
    Prog.Keeps (OnDb SoundDb) (Prisma.create .user mk) :=
  keeps_create (steady_onDb _) fun w t hw _ ht => by
    change Sound (graphOf (Model.user.set w.db t))
    rw [graph_addUser ht]
    exact Sound.addUser hw _

theorem sound_createChild (mk : String → Time → Child) :
    Prog.Keeps (OnDb SoundDb) (Prisma.create .child mk) :=
  keeps_create (steady_onDb _) fun w t hw hl ht => by
    change Sound (graphOf (Model.child.set w.db t))
    rw [graph_addChild ht]
    exact Sound.addChild hw (holds_graphOf (hl _ (by simp [Model.child, ofChild])) (by simp))

theorem sound_createGateway (mk : String → Time → Gateway) :
    Prog.Keeps (OnDb SoundDb) (Prisma.create .gateway mk) :=
  keeps_create (steady_onDb _) fun w t hw _ ht => by
    change Sound (graphOf (Model.gateway.set w.db t))
    rw [graph_addGateway ht]
    exact Sound.addGateway hw _

theorem sound_createDevice (mk : String → Time → Device) :
    Prog.Keeps (OnDb SoundDb) (Prisma.create .device mk) :=
  keeps_create (steady_onDb _) fun w t hw hl ht => by
    change Sound (graphOf (Model.device.set w.db t))
    rw [graph_addDevice ht]
    refine Sound.addDevice hw (holds_graphOf (hl _ (by simp [Model.device, ofDevice])) (by simp))
      fun k hk => ?_
    have hlink : (mk (w.uuids w.calls 0) w.now).gatewayId = some k := hk
    exact holds_graphOf (hl _ (by simp [Model.device, hlink])) (by simp)

/-- Devices may be moved to children and gateways that exist. -/
theorem sound_updateDevice {id : String} {f : Device → Device} {hf : ∀ d, (f d).id = d.id}
    (howner : ∀ d, (f d).parentId = d.parentId) :
    Prog.Keeps (OnDb SoundDb) (Prisma.update .device id f hf) := by
  refine keeps_update (steady_onDb _) fun w r hw hr hl => ?_
  change Sound { graphOf w.db with
    devices := (Model.device.patch w.db.devices w.now id f hf).rows.map ofDevice }
  refine Sound.setDevices hw (fun d hd => ?_) fun d' hd' => ?_
  · obtain ⟨r', hr', rfl⟩ := List.mem_map.mp hd
    refine ⟨_, List.mem_map_of_mem (Model.mem_patch.mpr ⟨r', hr', rfl⟩), ?_⟩
    split_ifs
    · exact hf r'
    · rfl
  · obtain ⟨r₁, hr₁, rfl⟩ := List.mem_map.mp hd'
    obtain ⟨r', hr', rfl⟩ := Model.mem_patch.mp hr₁
    refine ⟨ofDevice r', List.mem_map_of_mem hr', ?_, fun k hk => ?_⟩
    · split_ifs
      · exact howner r'
      · rfl
    · split_ifs at hk with hid
      · have hlink : (f r').gatewayId = some k := hk
        have hsame : r' = r := Table.eq_of_key hr' (Table.mem_of_find hr)
          (hid.trans (Table.key_of_find hr).symm)
        subst hsame
        refine (hl (.gateway k) (by simp [Model.device, hlink])).imp (fun hmem => ?_)
          fun hold => holds_graphOf hold (by simp)
        simpa [Model.device, ofDevice] using hmem
      · exact .inl hk

theorem sound_register (env : Env) (dto : Auth.RegisterDto) :
    Prog.Keeps (OnDb SoundDb) (Auth.register env dto) := by
  have hsubscription : Free .subscription (OnDb SoundDb) := fun _ _ hw => hw
  refine .bind (keeps_query (steady_onDb _) _) fun _ => .bind (.require _ _) fun _ =>
    .bind (keeps_randomUUID (steady_onDb _)) fun _ => .bind (keeps_transaction ?_) fun _ =>
      quiet_issueTokens env _ _ _ frame_sound
  exact .bind (keeps_viaTx (sound_createUser _)) fun _ =>
    .bind (keeps_viaTx (hsubscription.create (steady_onDb _) _)) fun _ => .pure _

end Rows

/-! ### New references -/

section References
variable {g₀ : Graph}

theorem Pinned.foundGateway {db : Database} (h : Pinned g₀ db) {k : String} {g : Gateway}
    (hg : db.gateways.find k = some g) : g₀.Holds (.gateway k) := by
  refine h.holds.mp (holds_graphOf ?_ (by simp))
  exact Option.isSome_iff_exists.mpr ⟨g, hg⟩

/-- The device and its gateway exist. -/
def Linked (g₀ : Graph) (d : Device) : Prop :=
  g₀.Holds (.device d.id) ∧ ∀ k, d.gatewayId = some k → g₀.Holds (.gateway k)

theorem Pinned.linked {db : Database} (h : Pinned g₀ db) {d : Device} (hd : d ∈ db.devices.rows) :
    Linked g₀ d := by
  have hmem : ofDevice d ∈ (graphOf db).devices := List.mem_map_of_mem hd
  refine ⟨h.holds.mp ⟨ofDevice d, hmem, rfl⟩, fun k hk => ?_⟩
  exact h.holds.mp (h.1.gateways (ofDevice d) hmem k hk)

/-- What follows the lookup of a gateway may refer to it. -/
theorem pinned_findOwned {α : Type} {p k : String} {f : Gateway → Api α}
    (hf : g₀.Holds (.gateway k) → ∀ g, Prog.Keeps (OnDb (Pinned g₀)) (f g)) :
    Prog.Keeps (OnDb (Pinned g₀)) (Gateways.findOwned p k >>= f) := by
  refine .bindOf (P := fun _ => g₀.Holds (.gateway k)) (quiet_findOwned p k (frame_pinned g₀))
    (fun w hw g hg => ?_) fun g hk => hf hk g
  exact Pinned.foundGateway hw (Gateways.run_findOwned_ok (Prod.ext hg rfl)).1

theorem pinned_enqueue {k : String} {d : Option String} (type : RouterCommandType)
    (payload : Option Json) (hk : g₀.Holds (.gateway k)) (hd : ∀ id ∈ d, g₀.Holds (.device id)) :
    Prog.Keeps (OnDb (Pinned g₀)) (RouterCommands.enqueueCommand k type payload d) := by
  refine routerCommand.create fun id now l hl => ?_
  simp only [commandRefs, ofRouterCommand, List.mem_cons, List.mem_map, Option.mem_toList] at hl
  rcases hl with rfl | ⟨id', hid', rfl⟩
  · exact hk
  · exact hd id' hid'

theorem pinned_enqueueStrategyCommand {k id : String} (type : RouterCommandType)
    (priority : List SmartBlock.Strategy) (hk : g₀.Holds (.gateway k))
    (hd : g₀.Holds (.device id)) :
    Prog.Keeps (OnDb (Pinned g₀)) (SmartBlock.enqueueStrategyCommand k id type priority) := by
  refine .bind (keeps_query (steady_onDb _) _) fun _ => .ite (fun _ => ?_) fun _ => ?_
  · exact .bind (quiet_log _ (frame_pinned g₀)) fun _ => .pure _
  · refine .bind (pinned_enqueue _ _ hk fun id' hid' => ?_) fun _ =>
      .bind (quiet_log _ (frame_pinned g₀)) fun _ => .pure _
    cases hid'
    exact hd

theorem pinned_found {α : Type} {k : String} {e : Err} {f : Gateway → Api α}
    (hf : g₀.Holds (.gateway k) → ∀ g, Prog.Keeps (OnDb (Pinned g₀)) (f g)) :
    Prog.Keeps (OnDb (Pinned g₀))
      (Prisma.findUnique .gateway k >>= fun found => Prog.orThrow found e >>= f) := by
  refine .bindOf (P := fun found => ∀ g, found = some g → g₀.Holds (.gateway k))
    (keeps_query (steady_onDb _) _) ?_ fun found hfound => ?_
  · rintro w hw _ ⟨⟩ g hg
    exact Pinned.foundGateway hw hg
  · rcases found with _ | g
    · exact .throw _
    · exact hf (hfound g rfl) g

theorem pinned_findGateway {α : Type} {k : String} {f : Gateway → Api α}
    (hf : g₀.Holds (.gateway k) → ∀ g, Prog.Keeps (OnDb (Pinned g₀)) (f g)) :
    Prog.Keeps (OnDb (Pinned g₀)) (Gateways.findGateway k >>= f) := by
  rw [Gateways.findGateway, Prog.bind_assoc]
  exact pinned_found hf

theorem pinned_recordVpnDetections (k : String) (ds : List Gateways.Detection) :
    Prog.Keeps (OnDb (Pinned g₀)) (Gateways.recordVpnDetections k ds) := by
  refine .ite (fun _ => .pure _) fun _ => pinned_findGateway fun hk _ => ?_
  refine .bindOf (P := fun valid => ∀ d ∈ valid, g₀.Holds (.device d.deviceId))
    (quiet_validDetections k ds (frame_pinned g₀)) ?_ fun valid hvalid => ?_
  · rintro w hw _ ⟨⟩ d hd
    have hknown := (List.mem_filter.mp hd).2
    rw [decide_eq_true_eq, List.mem_map] at hknown
    obtain ⟨d', hd', hid⟩ := hknown
    rw [← hid]
    exact (Pinned.linked hw (List.mem_filter.mp (mem_arrange.mp hd')).1).1
  · refine .bind (.when fun _ => vpnDetectionLog.createMany fun mk hmk id now l hl => ?_) fun _ =>
      .pure _
    obtain ⟨d, hd, rfl⟩ := List.mem_map.mp hmk
    simp only [detectionRefs, List.mem_cons, List.not_mem_nil, or_false] at hl
    rcases hl with rfl | rfl
    · exact hk
    · exact hvalid d hd

theorem pinned_recordDetection (k : String) (report : RouterDetection.RouterDetectionReport) :
    Prog.Keeps (OnDb (Pinned g₀)) (RouterDetection.recordDetection k report) := by
  refine pinned_found fun hk _ => .bind keeps_newDate fun now => ?_
  refine detectedRouter.upsert (fun now r => rfl) fun id now l hl => ?_
  rw [List.mem_singleton.mp hl]
  exact hk

theorem gatewayId_of_truthy {d : Device} {k : String} (h : truthy d.gatewayId = some k) :
    d.gatewayId = some k := (Option.filter_eq_some_iff.mp h).1

/-- Enforcement sends router commands about devices that it has found to their gateways. -/
theorem pinned_relays (g₀ : Graph) : Relays (OnDb (Pinned g₀)) (Linked g₀) where
  toCommandSafe := commandSafe (frame_pinned g₀)
  status id s := quiet_status id s (frame_pinned g₀)
  invalidate _ := DnsPolicy.keeps_invalidateSourceIps fun _ _ hw => hw
  found _ hw _ hd := Pinned.linked hw hd
  relay _ hd k hk type priority :=
    pinned_enqueueStrategyCommand type priority (hd.2 k (gatewayId_of_truthy hk)) hd.1

theorem pinned_pass (env : Env) (pass : Pass) : Prog.Keeps (OnDb (Pinned g₀)) (pass.prog env) := by
  have hblocks : Free .categoryBlock (OnDb (Pinned g₀)) := fun _ _ hw => hw
  have safe : PassSafe refView (OnDb (Pinned g₀)) fun _ => True :=
    { frame := frame_pinned g₀
      blockGaming := fun c _ reason =>
        (hblocks.upsert (steady_onDb _) _ _ _ _).bind fun _ => .pure _
      sessions := fun _ _ _ _ => trivial
      devices := fun _ _ _ _ _ _ => trivial }
  exact safe.pass (pinned_relays g₀) env pass

theorem Pinned.checkedDevice {w : World} (h : Pinned g₀ w.db) {p id : String} {u : Unit}
    (hrun : ((Bandwidth.checkDevice p (some id)).run w).1 = .ok u) :
    g₀.Holds (.device id) ∧ g₀.Holds (.user p) := by
  have hok : (Bandwidth.checkDevice p (some id)).run w = (.ok u, _) := Prod.ext hrun rfl
  obtain ⟨_, _, h1, hok⟩ := Prog.run_bind_ok.mp hok
  obtain ⟨d, _, h2, hok⟩ := Prog.run_bind_ok.mp hok
  obtain ⟨rfl, rfl⟩ := run_findUnique_ok.mp h1
  obtain ⟨hd, rfl⟩ := Prog.run_orThrow_ok.mp h2
  obtain ⟨rfl, -⟩ := Prog.run_require_ok.mp hok
  have hmem : ofDevice d ∈ (graphOf w.db).devices := List.mem_map_of_mem (Table.mem_of_find hd)
  have hid : d.id = id := Table.key_of_find hd
  exact ⟨h.holds.mp ⟨ofDevice d, hmem, hid⟩,
    h.holds.mp (h.1.devices (ofDevice d) hmem)⟩

theorem Pinned.checkedChild {w : World} (h : Pinned g₀ w.db) {p id : String} {u : Unit}
    (hrun : ((Bandwidth.checkChild p (some id)).run w).1 = .ok u) :
    g₀.Holds (.child id) ∧ g₀.Holds (.user p) := by
  have hok : (Bandwidth.checkChild p (some id)).run w = (.ok u, _) := Prod.ext hrun rfl
  obtain ⟨_, _, h1, hok⟩ := Prog.run_bind_ok.mp hok
  obtain ⟨c, _, h2, hok⟩ := Prog.run_bind_ok.mp hok
  obtain ⟨rfl, rfl⟩ := run_findUnique_ok.mp h1
  obtain ⟨hc, rfl⟩ := Prog.run_orThrow_ok.mp h2
  obtain ⟨rfl, -⟩ := Prog.run_require_ok.mp hok
  have hmem : ofChild c ∈ (graphOf w.db).children := List.mem_map_of_mem (Table.mem_of_find hc)
  have hid : c.id = id := Table.key_of_find hc
  exact ⟨h.holds.mp ⟨ofChild c, hmem, hid⟩,
    h.holds.mp (h.1.children (ofChild c) hmem)⟩

/-- Limits are for a device or a child of the parent that has been found. -/
theorem pinned_createLimit (p : String) {dto : Bandwidth.CreateBandwidthLimitDto}
    (hchild : dto.childId ≠ some "") (hdevice : dto.deviceId ≠ some "") :
    Prog.Keeps (OnDb (Pinned g₀)) (Bandwidth.create p dto) := by
  have htruthy : ∀ o : Option String, o ≠ some "" → truthy o = o := by
    intro o ho
    rcases o with _ | x
    · rfl
    · rw [truthy, Option.filter_some_pos (by simpa using ho)]
  refine .requireBind fun hsome => .bind (.require _ _) fun _ => .bind (.require _ _) fun _ => ?_
  rw [htruthy _ hchild, htruthy _ hdevice] at hsome ⊢
  refine .bindOf (P := fun _ => ∀ d ∈ dto.deviceId, g₀.Holds (.device d) ∧ g₀.Holds (.user p))
    (quiet_checkDevice _ _ (frame_pinned g₀)) (fun w hw _ hrun d hd => ?_) fun _ hd => ?_
  · rw [hd] at hrun
    exact Pinned.checkedDevice hw hrun
  refine .bindOf (P := fun _ => ∀ c ∈ dto.childId, g₀.Holds (.child c) ∧ g₀.Holds (.user p))
    (quiet_checkChild _ _ (frame_pinned g₀)) (fun w hw _ hrun c hc => ?_) fun _ hc => ?_
  · rw [hc] at hrun
    exact Pinned.checkedChild hw hrun
  refine bandwidthLimit.create fun id now l hl => ?_
  simp only [limitRefs, ofLimit, List.mem_cons, List.mem_append, List.mem_map,
    Option.mem_toList] at hl
  rcases hl with rfl | ⟨c, hc', rfl⟩ | ⟨d, hd', rfl⟩
  · rcases hsome with hsome | hsome
    · obtain ⟨c, hc'⟩ := Option.isSome_iff_exists.mp hsome
      exact (hc c hc').2
    · obtain ⟨d, hd'⟩ := Option.isSome_iff_exists.mp hsome
      exact (hd d hd').2
  · exact (hc c hc').1
  · exact (hd d hd').1

theorem pinned_setup (encryption : OAuth.EncryptionService) (p k : String)
    (dto : RouterIntegration.RouterSetupDto) :
    Prog.Keeps (OnDb (Pinned g₀)) (RouterIntegration.setup encryption p k dto) := by
  refine pinned_findOwned fun hk _ => .bind (.bind (.orThrow _ _) fun _ =>
    .bind (keeps_randomUUID (steady_onDb _)) fun _ => .pure _) fun _ =>
      .bind (detectedRouter.upsert ?_ ?_) fun _ =>
        .bind (pinned_enqueue _ _ hk (by simp)) fun _ => .pure _
  · intro now r
    rfl
  · intro id now l hl
    rw [List.mem_singleton.mp hl]
    exact hk

theorem pinned_request (p k : String) (type : RouterCommandType) (payload : Json) :
    Prog.Keeps (OnDb (Pinned g₀)) (RouterIntegration.request p k type payload) :=
  pinned_findOwned fun hk _ => .bind (pinned_enqueue _ _ hk (by simp)) fun _ => .pure _

end References

/-! ### Requests that delete nothing -/

/-- The requests that delete rows that can be referred to. -/
def Deletes : Request → Prop
  | .removeChild _ _ => True
  | .removeDevice _ _ => True
  | .deleteGateway _ _ => True
  | _ => False

/-- A limit is not for the empty id. -/
def Proper : Request → Prop
  | .createLimit _ dto => dto.childId ≠ some "" ∧ dto.deviceId ≠ some ""
  | _ => True

theorem sound_handle (env : Env) {r : Request} (hr : ¬ Deletes r) (hproper : Proper r) :
    Prog.Keeps (OnDb SoundDb) (handle env r) := by
  have safe : Safe refView (OnDb SoundDb) :=
    ⟨frame_sound, fun _ => DnsPolicy.keeps_invalidateSourceIps fun _ _ hw => hw⟩
  have hsessions : Free .session (OnDb SoundDb) := fun _ _ hw => hw
  cases r with
  | register dto => exact keeps_discard (sound_register env dto)
  | login dto => exact keeps_discard (quiet_login env dto frame_sound)
  | refresh token => exact keeps_discard (quiet_refresh env token frame_sound)
  | logout userId => exact quiet_logout userId frame_sound
  | createChild p dto => exact keeps_discard (sound_createChild _)
  | updateChild p id dto => exact keeps_discard (quiet_updateChild p id dto frame_sound)
  | removeChild p id => exact absurd trivial hr
  | createDevice p dto => exact keeps_discard (.bind (sound_createDevice _) fun _ => .pure _)
  | updateDevice p id dto =>
    exact keeps_discard (.bind (quiet_findDevice p id frame_sound) fun _ =>
      .bind (.require _ _) fun _ => .bind (sound_updateDevice fun _ => rfl) fun _ => .pure _)
  | removeDevice p id => exact absurd trivial hr
  | lockInternet p id reason => exact keeps_discard (safe.lockInternet p id reason)
  | unlockInternet p id => exact keeps_discard (safe.unlockInternet p id)
  | upsertSchedule p id dto => exact keeps_discard (quiet_upsertSchedule p id dto frame_sound)
  | createLimit p dto =>
    exact keeps_discard (keeps_of_pinned fun _ => pinned_createLimit p hproper.1 hproper.2)
  | updateLimit p id dto => exact keeps_discard (quiet_updateLimit p id dto frame_sound)
  | removeLimit p id =>
    exact keeps_of_pinned fun g₀ => .bind (quiet_findLimit p id (frame_pinned g₀)) fun _ =>
      bandwidthLimit.delete (fun _ _ => rfl) id
  | registerDevice p dto =>
    exact keeps_discard (.bind keeps_newDate fun _ => sound_createDevice _)
  | getCommands id => exact keeps_discard (quiet_getCommands id frame_sound)
  | reportStatus id app => exact quiet_reportStatus id app frame_sound
  | createRule p dto => exact keeps_discard (quiet_createRule p dto frame_sound)
  | updateRule p id dto => exact keeps_discard (quiet_updateRule p id dto frame_sound)
  | removeRule p id => exact quiet_removeRule p id frame_sound
  | startSession p dto =>
    exact keeps_discard
      (.bind (keeps_query (steady_onDb _) _) fun _ => .bind (.orThrow _ _) fun _ =>
      .bind (.require _ _) fun _ => .bind (.orThrow _ _) fun _ =>
        .bind (keeps_query (steady_onDb _) _) fun _ => .bind (.require _ _) fun _ =>
          .bind (Sessions.keeps_checkDailyLimit (steady_onDb _) env _ _) fun _ =>
            hsessions.create (steady_onDb _) _)
  | pauseSession id p => exact keeps_discard (quiet_pause id p frame_sound)
  | resumeSession id p => exact keeps_discard (quiet_resume id p frame_sound)
  | extendSession id p dto => exact keeps_discard (quiet_extend id p dto frame_sound)
  | stopSession id p => exact keeps_discard (quiet_stop id p frame_sound)
  | blockDevice id reason p =>
    exact keeps_discard (keeps_of_pinned fun g₀ => (pinned_relays g₀).blockDevice id reason p)
  | unblockDevice id p =>
    exact keeps_discard (keeps_of_pinned fun g₀ => (pinned_relays g₀).unblockDevice id p)
  | registerGateway p n e t d =>
    exact keeps_discard
      (.bind (keeps_randomUUID (steady_onDb _)) fun _ => .bind keeps_newDate fun _ =>
      sound_createGateway _)
  | renameGateway p id n d => exact keeps_discard (quiet_renameGateway p id n d frame_sound)
  | pairGateway id p => exact keeps_discard (quiet_pair id p frame_sound)
  | rotateToken p id grace => exact keeps_discard (quiet_rotateToken p id grace frame_sound)
  | deleteGateway p id => exact absurd trivial hr
  | gateway request e =>
    exact keeps_discard (keeps_of_pinned fun g₀ => keeps_guarded (frame_pinned g₀) env request e
      pinned_recordVpnDetections pinned_recordDetection)
  | startPairing id p => exact keeps_discard (quiet_startPairing env id p frame_sound)
  | cancelPairing id p => exact quiet_cancelPairing id p frame_sound
  | confirmProbe dto => exact keeps_discard (quiet_confirmProbe dto frame_sound)
  | checkPolicy ip domain => exact keeps_discard (keeps_checkPolicy frame_sound env ip domain)
  | processCommand data => exact quiet_process data frame_sound
  | scheduler pass => exact keeps_of_pinned fun _ => pinned_pass env pass

end GuardTime.References
