import Mathlib.Tactic
import GuardTime.Pairing.Run
import GuardTime.Dns.Engine
import GuardTime.Services.Gateway

/-! # Pairing and discovery

`dnsSourceIp` has two writers: the pairing service keeps the public address of the household there,
a gateway's discovery report the address of the device in its network. A report about a paired
device takes it away from the address its probes come from, unless it carries that very address; in
runs whose reports spare the device, its address stays that of its last probe (`kept`).

* `run_updateDiscovered`: what one entry of a report writes;
* `at_probe`, `at_report`: what the two operations do to the address;
* `kept`: the address of the last probe through a whole run. -/

namespace GuardTime.Pairing.Discovery

open GuardTime.Lib.Program GuardTime.Lib.Keyed GuardTime.Lib.Js GuardTime.Schema GuardTime.Server
open GuardTime.Prisma GuardTime.Services GuardTime.Services.Pairing GuardTime.Services.Gateways
open GuardTime.Pairing.Effects GuardTime.Pairing.Run

/-! ### One entry of a report -/

/-- The device an entry of a report is about, in the world before it is looked up. -/
def found (env : Env) (gatewayId : String) (w : World) (e : DiscoveredDevice) : Option Device :=
  match (matching .device w.db (w.tape w.calls) fun d =>
      d.gatewayId = some gatewayId && d.macAddress = some (env.toLowerCase e.macAddress)).head? with
  | some d => some d
  | none =>
    match truthy e.hostname, truthy e.dhcpClientId with
    | some hostname, some dhcpClientId =>
      (matching .device w.db (w.tape (w.calls + 1)) fun d =>
        d.gatewayId = some gatewayId && d.hostname = some hostname &&
          d.dhcpClientId = some dhcpClientId).head?
    | _, _ => none

theorem run_findDiscovered (env : Env) (gatewayId : String) (w : World) (e : DiscoveredDevice) :
    ∃ w', (findDiscovered gatewayId (env.toLowerCase e.macAddress) e).run w =
      (.ok (found env gatewayId w e), w') ∧ w'.db = w.db ∧ w'.now = w.now := by
  unfold findDiscovered found
  rw [Prog.run_bind, run_findFirst]
  rcases (matching .device w.db (w.tape w.calls) fun d =>
      d.gatewayId = some gatewayId && d.macAddress = some (env.toLowerCase e.macAddress)).head?
    with _ | d
  · unfold findByHostname
    rcases truthy e.hostname with _ | hostname
    · exact ⟨_, rfl, rfl, rfl⟩
    · rcases truthy e.dhcpClientId with _ | dhcpClientId
      · exact ⟨_, rfl, rfl, rfl⟩
      · exact ⟨_, rfl, rfl, rfl⟩
  · exact ⟨_, rfl, rfl, rfl⟩

/-- The row of the device an entry is about. -/
def relocated (env : Env) (e : DiscoveredDevice) (device : Device) (now : Time) (d : Device) :
    Device :=
  { d with
    macAddress := some (env.toLowerCase e.macAddress)
    ipAddress := some e.ipAddress
    dnsSourceIp := some e.ipAddress
    lastSeen := some now
    hostname := e.hostname.or device.hostname
    dhcpClientId := e.dhcpClientId.or device.dhcpClientId
    vendorOui := e.vendorOui.or device.vendorOui
    osHint := e.osHint.or device.osHint
    fingerprintHash := some (computeFingerprintHash env (some (env.toLowerCase e.macAddress))
      (e.hostname.or device.hostname) (e.dhcpClientId.or device.dhcpClientId)
      (e.vendorOui.or device.vendorOui))
    fingerprintUpdatedAt := some now }

theorem relocated_id (env : Env) (e : DiscoveredDevice) (device : Device) (now : Time)
    (d : Device) : (relocated env e device now d).id = d.id := rfl

/-- One turn of the loop: nothing, or the device found moves to the address of the entry. -/
theorem run_updateDiscovered (env : Env) (gatewayId : String) (n : ℕ) (e : DiscoveredDevice)
    (w : World) :
    ∃ r w', (updateDiscovered env gatewayId n e).run w = (r, w') ∧
      (w'.db.devices = w.db.devices ∨ ∃ d, found env gatewayId w e = some d ∧
        w'.db.devices = Model.device.patch w.db.devices w'.now d.id (relocated env e d w'.now)
          (relocated_id env e d w'.now)) := by
  obtain ⟨w₁, hfind, hdb, -⟩ := run_findDiscovered env gatewayId w e
  rcases hfound : found env gatewayId w e with _ | d
  · refine ⟨.ok n, w₁, ?_, .inl (by rw [hdb])⟩
    simp only [updateDiscovered, Prog.run_bind, hfind, hfound]
    rfl
  · have hturn : (updateDiscovered env gatewayId n e).run w = (do
        let _ ← Prisma.update .device d.id (relocated env e d w₁.now) (relocated_id env e d w₁.now)
        pure (n + 1)).run w₁ := by
      simp only [updateDiscovered, Prog.run_bind, hfind, hfound]
      rfl
    rw [hturn, Prog.run_bind]
    rcases run_update_cases .device d.id (relocated env e d w₁.now) (relocated_id env e d w₁.now) w₁
      with ⟨err, h⟩ | ⟨d₁, -, h⟩ <;> rw [h]
    · exact ⟨_, _, rfl, .inl (by rw [afterCall_db, hdb])⟩
    · refine ⟨_, _, rfl, .inr ⟨d, rfl, ?_⟩⟩
      rw [← hdb]
      rfl

/-! ### The address of a device -/

/-- The device is not paired, or it is paired and has the address for its queries and as its public
one. -/
def At (devices : Table Device.id) (deviceId : String) : Option String → Prop
  | none => ∀ d, devices.find deviceId = some d → d.paired = false
  | some x => ∃ d, devices.find deviceId = some d ∧ d.paired = true ∧ d.dnsSourceIp = some x ∧
      d.publicIp = some x

section Address
variable {devices : Table Device.id} {deviceId k : String} {last : Option String} {now : Time}
  (f : Device → Device) (hf : ∀ d, (f d).id = d.id)

theorem At.congr {devices' : Table Device.id}
    (hfind : devices'.find deviceId = devices.find deviceId) (h : At devices deviceId last) :
    At devices' deviceId last := by
  cases last with
  | none =>
    intro d hd
    exact h d (hfind ▸ hd)
  | some x =>
    obtain ⟨d, hd, hrow⟩ := h
    exact ⟨d, hfind ▸ hd, hrow⟩

/-- A change of another device's row. -/
theorem At.patch_other (hne : k ≠ deviceId) (h : At devices deviceId last) :
    At (Model.device.patch devices now k f hf) deviceId last :=
  h.congr (find_patched_other f hf hne)

/-- A change that leaves the three columns alone. -/
theorem At.patch (hsame : ∀ d, (f d).paired = d.paired ∧ (f d).dnsSourceIp = d.dnsSourceIp ∧
      (f d).publicIp = d.publicIp) (h : At devices deviceId last) :
    At (Model.device.patch devices now k f hf) deviceId last := by
  by_cases hk : k = deviceId
  swap
  · exact h.patch_other f hf hk
  subst hk
  cases last with
  | none =>
    intro d' hd'
    obtain ⟨d, hd, rfl⟩ := find_patched_self f hf hd'
    exact (hsame d).1.trans (h d hd)
  | some x =>
    obtain ⟨d, hd, hpaired, hsource, hpublic⟩ := h
    refine ⟨_, (Model.find_patch_self).trans (congrArg _ hd), ?_, ?_, ?_⟩
    · exact (hsame d).1.trans hpaired
    · exact (hsame d).2.1.trans hsource
    · exact (hsame d).2.2.trans hpublic

/-- A change that sets the three columns. -/
theorem At.patch_self {x : String} {d : Device} (hd : devices.find deviceId = some d)
    (hset : (f d).paired = true ∧ (f d).dnsSourceIp = some x ∧ (f d).publicIp = some x) :
    At (Model.device.patch devices now deviceId f hf) deviceId (some x) :=
  ⟨_, (Model.find_patch_self).trans (congrArg _ hd), hset⟩

end Address

/-! ### Probes -/

/-- The address of the last probe that found the device paired, or made it so. -/
def lastAfter (deviceId : String) (dto : ConfirmPairingDto) (last : Option String) :
    Except Err String × World → Option String
  | (.ok id, w) =>
    if id = deviceId ∧ (w.db.devices.find deviceId).any Device.paired then some dto.sourceIp
    else last
  | (.error _, _) => last

section Probe
variable {w w' : World} {deviceId id : String} {last : Option String} {dto : ConfirmPairingDto}
  {T : Tables}

theorem lastAfter_self (h : At w'.db.devices deviceId (some dto.sourceIp)) :
    lastAfter deviceId dto last (.ok deviceId, w') = some dto.sourceIp := by
  obtain ⟨d, hd, hpaired, -⟩ := h
  simp [lastAfter, hd, hpaired]

theorem lastAfter_other (hne : id ≠ deviceId) :
    lastAfter deviceId dto last (.ok id, w') = last := by
  simp [lastAfter, hne]

theorem at_completed {s : PairingSession} (h : At w.db.devices deviceId last)
    (hdone : Completed w w' dto s (tables w'.db)) :
    At w'.db.devices deviceId (lastAfter deviceId dto last (.ok s.deviceId, w')) := by
  generalize hT : tables w'.db = T at hdone
  have hdevices : w'.db.devices = T.devices := congrArg Tables.devices hT
  obtain @⟨_, beacon, _, _, _, _, _, hd, hbeacon, hid, hseen, hid', hev, hins⟩ := hdone
  by_cases hk : s.deviceId = deviceId
  · subst hk
    have hat : At w'.db.devices s.deviceId (some dto.sourceIp) := by
      rw [hdevices]
      exact At.patch_self (paired dto.sourceIp dto.resolverRegion w.now beacon) (paired_id _ _ _ _)
        hd ⟨rfl, rfl, rfl⟩
    rw [lastAfter_self hat]
    exact hat
  · rw [lastAfter_other hk, hdevices]
    exact h.patch_other (paired dto.sourceIp dto.resolverRegion w.now beacon) (paired_id _ _ _ _) hk

theorem at_beat {k : String} {r : Except Err Unit} (h : At w.db.devices deviceId last)
    (hbeat : Beat w w' k dto.sourceIp r (tables w'.db)) :
    At w'.db.devices deviceId (lastAfter deviceId dto last (r.map fun _ => k, w')) := by
  generalize hT : tables w'.db = T at hbeat
  have hdevices : w'.db.devices = T.devices := congrArg Tables.devices hT
  cases hbeat with
  | silent hwhy =>
    have hlast : lastAfter deviceId dto last (.ok k, w') = last := by
      refine if_neg ?_
      rintro ⟨rfl, hany⟩
      rw [hdevices] at hany
      rcases hd : w.db.devices.find k with _ | d
      · simp [tables, hd] at hany
      · simp [tables, hd, hwhy d hd] at hany
    rw [show lastAfter deviceId dto last ((Except.ok ()).map fun _ => k, w') = last from hlast,
      hdevices]
    exact h
  | failed e hno =>
    rw [hdevices]
    exact h
  | again hd hpaired hip hid hseen =>
    by_cases hk : k = deviceId
    swap
    · rw [show lastAfter deviceId dto last ((Except.ok ()).map fun _ => k, w') = last from
        lastAfter_other hk, hdevices]
      exact h.patch_other (touched w.now) (touched_id _) hk
    subst hk
    have hat : At w'.db.devices k (some dto.sourceIp) := by
      -- the paired device has one address, that of the probe
      cases last with
      | none => cases (h _ hd).symm.trans hpaired
      | some x =>
        obtain ⟨d, hd', -, hsource, hpublic⟩ := h
        cases hd.symm.trans hd'
        cases hip.symm.trans hsource
        rw [hdevices]
        exact At.patch_self (touched w.now) (touched_id _) hd ⟨hpaired, hsource, hpublic⟩
    rw [show lastAfter k dto last ((Except.ok ()).map fun _ => k, w') = _ from lastAfter_self hat]
    exact hat
  | change hd hpaired hip hid hseen hid' hev hins =>
    by_cases hk : k = deviceId
    swap
    · rw [show lastAfter deviceId dto last ((Except.ok ()).map fun _ => k, w') = last from
        lastAfter_other hk, hdevices]
      exact h.patch_other (moved dto.sourceIp w.now) (moved_id _ _) hk
    subst hk
    have hat : At w'.db.devices k (some dto.sourceIp) := by
      rw [hdevices]
      exact At.patch_self (moved dto.sourceIp w.now) (moved_id _ _) hd ⟨hpaired, rfl, rfl⟩
    rw [show lastAfter k dto last ((Except.ok ()).map fun _ => k, w') = _ from lastAfter_self hat]
    exact hat

theorem at_probe (h : At w.db.devices deviceId last) (dto : ConfirmPairingDto) :
    At ((confirmProbe dto).run w).2.db.devices deviceId
      (lastAfter deviceId dto last ((confirmProbe dto).run w)) := by
  obtain ⟨r, w', hrun, -, hprobed⟩ := run_confirmProbe dto w
  rw [hrun]
  generalize hT : tables w'.db = T at hprobed
  have hdevices : w'.db.devices = T.devices := congrArg Tables.devices hT
  cases hprobed with
  | unknown e hs hb =>
    rw [hdevices]
    exact h
  | refused e hs hc =>
    cases hc with
    | refused hs' _ hwhy =>
      rw [hdevices]
      exact h
    | @rejected s _ hs' hwait hdead hd message =>
      rw [hdevices]
      exact h.patch (marked (rejection w.now s)) (marked_id _) fun _ => ⟨rfl, rfl, rfl⟩
  | paired hs hwait hlive hatt hdone => exact at_completed h (hT ▸ hdone)
  | beat hs hb hbeat hr =>
    subst hr
    exact at_beat h (hT ▸ hbeat)

end Probe

/-! ### Reports -/

/-- No entry of the report takes the device away from the address `x`: each one that is about the
device, when its turn comes, carries it. -/
def Spares (env : Env) (x deviceId gatewayId : String) : ℕ → World → List DiscoveredDevice → Prop
  | _, _, [] => True
  | n, w, e :: es =>
    (∀ d, found env gatewayId w e = some d → d.id = deviceId → e.ipAddress = x) ∧
      ∀ n' w', (updateDiscovered env gatewayId n e).run w = (.ok n', w') →
        Spares env x deviceId gatewayId n' w' es

section Report
variable {env : Env} {w : World} {deviceId gatewayId : String} {last : Option String}

/-- A turn that spares the device. -/
theorem at_turn {e : DiscoveredDevice} {n : ℕ} (h : At w.db.devices deviceId last)
    (hspare : ∀ x, last = some x → ∀ d, found env gatewayId w e = some d → d.id = deviceId →
      e.ipAddress = x) :
    At ((updateDiscovered env gatewayId n e).run w).2.db.devices deviceId last := by
  obtain ⟨r, w', hrun, hdevices | ⟨d, hfound, hdevices⟩⟩ := run_updateDiscovered env gatewayId n e w
  · rw [hrun, hdevices]
    exact h
  · rw [hrun, hdevices]
    by_cases hk : d.id = deviceId
    swap
    · exact h.patch_other (relocated env e d w'.now) (relocated_id env e d w'.now) hk
    subst hk
    cases last with
    | none =>
      intro d' hd'
      obtain ⟨d₀, hd₀, rfl⟩ :=
        find_patched_self (relocated env e d w'.now) (relocated_id env e d w'.now) hd'
      exact h d₀ hd₀
    | some x =>
      obtain ⟨d₀, hd₀, hpaired, -, hpublic⟩ := h
      refine At.patch_self _ _ hd₀ ⟨hpaired, ?_, hpublic⟩
      rw [← hspare x rfl d hfound rfl]
      rfl

theorem at_turns : ∀ (es : List DiscoveredDevice) (n : ℕ) {w : World},
    At w.db.devices deviceId last →
    (∀ x, last = some x → Spares env x deviceId gatewayId n w es) →
    At ((Prog.foldEach es n (updateDiscovered env gatewayId)).run w).2.db.devices deviceId last
  | [], _, _, h, _ => h
  | e :: es, n, w, h, hspares => by
    have hturn := at_turn (e := e) (n := n) h fun x hx => (hspares x hx).1
    rw [Prog.foldEach, Prog.run_bind]
    rcases hrun : (updateDiscovered env gatewayId n e).run w with ⟨_ | n', w'⟩ <;>
      rw [hrun] at hturn
    · exact hturn
    · exact at_turns es n' hturn fun x hx => (hspares x hx).2 n' w' hrun

/-- The report of the gateway, if there is one, spares the device at the address of its last
probe. -/
def SparesReport (env : Env) (deviceId : String) (last : Option String) (w : World)
    (gatewayId : String) (es : List DiscoveredDevice) : Prop :=
  w.db.gateways.find gatewayId ≠ none → ∀ x, last = some x →
    Spares env x deviceId gatewayId 0 (World.afterCall w w.db) es

theorem at_report {es : List DiscoveredDevice} (h : At w.db.devices deviceId last)
    (hspares : SparesReport env deviceId last w gatewayId es) :
    At ((updateDiscoveredDevices env gatewayId es).run w).2.db.devices deviceId last := by
  have hfree : Free .gateway (OnDb fun db => At db.devices deviceId last) := fun _ _ hw => hw
  have hseen : Prog.Keeps (OnDb fun db => At db.devices deviceId last)
      (ignoreErrors (updateLastSeen gatewayId none)) :=
    keeps_ignoreErrors (keeps_newDate.bind fun _ =>
      (hfree.update (steady_onDb _) _ _ _).bind fun _ => .pure _)
  rw [updateDiscoveredDevices, Prog.run_bind]
  rcases hg : w.db.gateways.find gatewayId with _ | g
  · rw [show (findGateway gatewayId).run w =
      (.error (.notFound "Gateway not found"), World.afterCall w w.db) by
        simp [findGateway, Model.gateway, hg]]
    exact h
  · rw [show (findGateway gatewayId).run w = (.ok g, World.afterCall w w.db) by
      simp [findGateway, Model.gateway, hg]]
    have hturns := at_turns es 0 (w := World.afterCall w w.db) h (hspares (by simp [hg]))
    simp only [Prog.run_bind]
    rcases hrun : (Prog.foldEach es 0 (updateDiscovered env gatewayId)).run (World.afterCall w w.db)
      with ⟨_ | n, w'⟩ <;> rw [hrun] at hturns
    · exact hturns
    · have hlast := hseen w' hturns
      simp only
      rcases hrun' : (ignoreErrors (updateLastSeen gatewayId none)).run w' with ⟨_ | _, w''⟩ <;>
        rw [hrun'] at hlast
      · exact hlast
      · exact hlast

end Report

/-! ### Runs -/

/-- Runs that mix probes and reports, with the address of the device's last probe. The reports meet
the condition `C`. -/
inductive Runs (env : Env) (deviceId : String)
    (C : Option String → World → String → List DiscoveredDevice → Prop) (w₀ : World)
    (last₀ : Option String) : Option String → World → Prop
  | refl : Runs env deviceId C w₀ last₀ last₀ w₀
  | probe {last : Option String} {w : World} (dto : ConfirmPairingDto) (t : Time)
      (h : Runs env deviceId C w₀ last₀ last w) :
      Runs env deviceId C w₀ last₀
        (lastAfter deviceId dto last ((confirmProbe dto).run (w.atTime t)))
        ((confirmProbe dto).run (w.atTime t)).2
  | report {last : Option String} {w : World} (gatewayId : String) (es : List DiscoveredDevice)
      (t : Time) (hes : C last (w.atTime t) gatewayId es)
      (h : Runs env deviceId C w₀ last₀ last w) :
      Runs env deviceId C w₀ last₀ last
        ((updateDiscoveredDevices env gatewayId es).run (w.atTime t)).2

theorem at_runs {env : Env} {deviceId : String} {w₀ w : World} {last₀ last : Option String}
    (h₀ : At w₀.db.devices deviceId last₀)
    (h : Runs env deviceId (SparesReport env deviceId) w₀ last₀ last w) :
    At w.db.devices deviceId last := by
  induction h with
  | refl => exact h₀
  | @probe last w dto t _ ih => exact at_probe (w := w.atTime t) ih dto
  | @report last w gatewayId es t hes _ ih => exact at_report (w := w.atTime t) ih hes

/-- **Discovery does not undo pairing** in runs whose reports spare the device: as long as its
probes come from `x`, the lookup for `x` matches the device, and its two addresses agree. -/
theorem kept {env : Env} {deviceId x : String} {w₀ w : World} {last₀ : Option String}
    (h₀ : At w₀.db.devices deviceId last₀)
    (h : Runs env deviceId (SparesReport env deviceId) w₀ last₀ (some x) w) :
    ∃ d, w.db.devices.find deviceId = some d ∧
      (∀ n, d ∈ matching .device w.db n (DnsPolicy.holds x)) ∧ d.dnsSourceIp = d.publicIp := by
  obtain ⟨d, hd, -, hsource, hpublic⟩ := at_runs h₀ h
  refine ⟨d, hd, fun n => ?_, hsource.trans hpublic.symm⟩
  rw [mem_matching]
  exact ⟨Table.mem_of_find hd, by simp [DnsPolicy.holds, hsource]⟩

/-! ### A tablet behind a gateway -/

/-- A tablet behind the gateway `ga`, paired from the household's public address. -/
def homeTablet : Device :=
  { Household.device "tablet" "amal" "adam" with
    gatewayId := some "ga", macAddress := some "aa:bb:cc:dd:ee:ff", paired := true,
    pairStatus := .paired, dnsSourceIp := some "203.0.113.7", publicIp := some "203.0.113.7",
    dnsBeaconToken := some "beacon" }

/-- The world with it. -/
def homeWorld : World := .fresh (Household.withDevices [homeTablet] (by simp)) 0

theorem at_homeWorld : At homeWorld.db.devices "tablet" (some "203.0.113.7") :=
  ⟨homeTablet, rfl, rfl, rfl, rfl⟩

/-- A report of an unknown device, and of the tablet at the address `ip`. -/
def reportOf (ip : String) : List DiscoveredDevice :=
  [{ ipAddress := "192.168.1.30", macAddress := "11:22:33:44:55:66" },
    { ipAddress := ip, macAddress := "aa:bb:cc:dd:ee:ff" }]

/-- Its beacon, from another address. -/
def beacon : ConfirmPairingDto := { token := "beacon", sourceIp := "198.51.100.4" }

/-- A report finds the tablet where its probes come from. -/
def reported : World :=
  ((updateDiscoveredDevices .plain "ga" (reportOf "203.0.113.7")).run (homeWorld.atTime 500)).2

/-- The tablet's beacon then comes from another address. -/
def reaffirmed : World := ((confirmProbe beacon).run (reported.atTime 1000)).2

/-- A second report finds it there. -/
def reportedAgain : World :=
  ((updateDiscoveredDevices .plain "ga" (reportOf "198.51.100.4")).run (reaffirmed.atTime 1500)).2

/-- Such a report spares the tablet: the unknown device is not the tablet, and the tablet's entry
has its address. -/
theorem spares_reportOf {x : String} {w : World}
    (hunknown : found .plain "ga" (World.afterCall w w.db)
      { ipAddress := "192.168.1.30", macAddress := "11:22:33:44:55:66" } = none) :
    SparesReport .plain "tablet" (some x) w "ga" (reportOf x) := by
  rintro - _ ⟨⟩
  refine ⟨fun d hd => ?_, fun n w' _ => ⟨fun _ _ _ => rfl, fun _ _ _ => trivial⟩⟩
  rw [hunknown] at hd
  cases hd

theorem lastAfter_beacon : lastAfter "tablet" beacon (some "203.0.113.7")
    ((confirmProbe beacon).run (reported.atTime 1000)) = some "198.51.100.4" := by
  decide +kernel

theorem runs_reportedAgain : Runs .plain "tablet" (SparesReport .plain "tablet") homeWorld
    (some "203.0.113.7") (some "198.51.100.4") reportedAgain := by
  have hreported : Runs .plain "tablet" (SparesReport .plain "tablet") homeWorld
      (some "203.0.113.7") (some "203.0.113.7") reported :=
    .report "ga" _ 500 (spares_reportOf (by decide +kernel)) .refl
  have hreaffirmed := Runs.probe beacon 1000 hreported
  rw [lastAfter_beacon] at hreaffirmed
  exact .report "ga" _ 1500 (spares_reportOf (by decide +kernel)) hreaffirmed

theorem kept_reportedAgain :
    (reportedAgain.db.devices.find "tablet").bind Device.ipAddress = some "198.51.100.4" ∧
    ∃ d, reportedAgain.db.devices.find "tablet" = some d ∧
      (∀ n, d ∈ matching .device reportedAgain.db n (DnsPolicy.holds "198.51.100.4")) ∧
      d.dnsSourceIp = d.publicIp :=
  ⟨by decide +kernel, kept at_homeWorld runs_reportedAgain⟩

/-- A report with the tablet's address at home takes it away from the address of its probes. -/
theorem not_kept_when_discovered : ¬ ∀ (env : Env) (deviceId x : String) (w₀ w : World)
    (last₀ : Option String), At w₀.db.devices deviceId last₀ →
    Runs env deviceId (fun _ _ _ _ => True) w₀ last₀ (some x) w →
    ∃ d, w.db.devices.find deviceId = some d ∧
      (∀ n, d ∈ matching .device w.db n (DnsPolicy.holds x)) ∧ d.dnsSourceIp = d.publicIp := by
  intro h
  have hruns : Runs .plain "tablet" (fun _ _ _ _ => True) homeWorld (some "203.0.113.7")
      (some "203.0.113.7") ((updateDiscoveredDevices .plain "ga"
        [{ ipAddress := "192.168.1.20", macAddress := "aa:bb:cc:dd:ee:ff" }]).run
        (homeWorld.atTime 1000)).2 := .report "ga" _ 1000 trivial .refl
  obtain ⟨d, hd, -, hsame⟩ := h _ _ _ _ _ _ at_homeWorld hruns
  have hsource : (((updateDiscoveredDevices .plain "ga"
      [{ ipAddress := "192.168.1.20", macAddress := "aa:bb:cc:dd:ee:ff" }]).run
      (homeWorld.atTime 1000)).2.db.devices.find "tablet").map
      (fun d => (d.dnsSourceIp, d.publicIp)) = some (some "192.168.1.20", some "203.0.113.7") := by
    decide +kernel
  rw [hd] at hsource
  have hpair := Option.some.inj hsource
  rw [Prod.ext_iff] at hpair
  rw [show d.dnsSourceIp = some "192.168.1.20" from hpair.1,
    show d.publicIp = some "203.0.113.7" from hpair.2] at hsame
  exact absurd hsame (by decide)

end GuardTime.Pairing.Discovery
