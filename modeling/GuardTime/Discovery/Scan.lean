import Mathlib.Tactic
import GuardTime.Pairing.Discovery

/-! # Discovery scans

A gateway reports the devices in its network as a list of entries. Each entry is matched to a device
of the gateway by its MAC address or, where no device has it, by hostname and DHCP client id, and
the device takes the address of the entry; every entry sees what the ones before it wrote.

`Scan` is the loop as a relation on the devices alone, with the device each entry is matched to.

* `Finds`: the devices an entry may be matched to;
* `run_turn`, `scan_turns`, `scan_report`: the loop of the service is a scan;
* `macs_stay_distinct`: a scan keeps the MAC addresses of the gateway's devices distinct, and
  touches neither the set of devices nor those of other gateways. -/

namespace GuardTime.Discovery

open GuardTime.Lib.Program GuardTime.Lib.Keyed GuardTime.Lib.Js GuardTime.Schema GuardTime.Server
open GuardTime.Prisma GuardTime.Services GuardTime.Services.Gateways
open GuardTime.Pairing.Discovery (found relocated relocated_id run_findDiscovered)

/-! ### Matching -/

/-- The MAC address of an entry, as it is looked up and stored. -/
def mac (env : Env) (e : DiscoveredDevice) : String := env.toLowerCase e.macAddress

/-- No device of the gateway has the MAC address of the entry. -/
def Unknown (env : Env) (g : String) (T : Table Device.id) (e : DiscoveredDevice) : Prop :=
  ∀ d ∈ T.rows, d.gatewayId = some g → d.macAddress ≠ some (mac env e)

/-- The entry carries the hostname and the DHCP client id of the device, neither of them empty. -/
def SameHost (e : DiscoveredDevice) (d : Device) : Prop :=
  ∃ hostname dhcpClientId, truthy e.hostname = some hostname ∧
    truthy e.dhcpClientId = some dhcpClientId ∧ d.hostname = some hostname ∧
    d.dhcpClientId = some dhcpClientId

/-- What the lookup for an entry may answer. -/
inductive Finds (env : Env) (g : String) (T : Table Device.id) (e : DiscoveredDevice) :
    Option Device → Prop
  | byMac {d : Device} (hd : d ∈ T.rows) (hg : d.gatewayId = some g)
      (hmac : d.macAddress = some (mac env e)) : Finds env g T e (some d)
  | byHost {d : Device} (hd : d ∈ T.rows) (hg : d.gatewayId = some g)
      (hunknown : Unknown env g T e) (hhost : SameHost e d) : Finds env g T e (some d)
  | none (hunknown : Unknown env g T e)
      (hhost : ∀ d ∈ T.rows, d.gatewayId = some g → ¬ SameHost e d) : Finds env g T e none

section Finds
variable {env : Env} {g : String} {T : Table Device.id} {e : DiscoveredDevice} {d : Device}

theorem Finds.mem (h : Finds env g T e (some d)) : d ∈ T.rows := by
  cases h with
  | byMac hd => exact hd
  | byHost hd => exact hd

theorem Finds.gateway (h : Finds env g T e (some d)) : d.gatewayId = some g := by
  cases h with
  | byMac _ hg => exact hg
  | byHost _ hg => exact hg

end Finds

theorem head_matching_none {w : World} {n : ℕ} {p : Device → Bool}
    (h : (matching .device w.db n p).head? = none) : ∀ d ∈ w.db.devices.rows, p d = false := by
  intro d hd
  rw [List.head?_eq_none_iff] at h
  by_contra hp
  have hmem : d ∈ matching .device w.db n p := mem_matching.mpr ⟨hd, by simpa using hp⟩
  rw [h] at hmem
  cases hmem

theorem of_head_matching {w : World} {n : ℕ} {p : Device → Bool} {d : Device}
    (h : (matching .device w.db n p).head? = some d) : d ∈ w.db.devices.rows ∧ p d = true :=
  mem_matching.mp (List.mem_of_head? h)

/-- The lookup of the service. -/
theorem finds_found (env : Env) (g : String) (w : World) (e : DiscoveredDevice) :
    Finds env g w.db.devices e (found env g w e) := by
  unfold found
  rcases hmac : (matching .device w.db (w.tape w.calls) fun d => d.gatewayId = some g &&
      d.macAddress = some (env.toLowerCase e.macAddress)).head? with _ | d
  swap
  · obtain ⟨hd, hp⟩ := of_head_matching hmac
    rw [Bool.and_eq_true, decide_eq_true_eq, decide_eq_true_eq] at hp
    exact .byMac hd hp.1 hp.2
  have hunknown : Unknown env g w.db.devices e := by
    intro d hd hg hm
    have hno := head_matching_none hmac d hd
    rw [mac] at hm
    simp [hg, hm] at hno
  rcases hh : truthy e.hostname with _ | hostname
  · refine .none hunknown ?_
    rintro d - - ⟨_, _, hh', -⟩
    cases hh.symm.trans hh'
  rcases hc : truthy e.dhcpClientId with _ | dhcpClientId
  · refine .none hunknown ?_
    rintro d - - ⟨_, _, -, hc', -⟩
    cases hc.symm.trans hc'
  simp only
  rcases hhost : (matching .device w.db (w.tape (w.calls + 1)) fun d => d.gatewayId = some g &&
      d.hostname = some hostname && d.dhcpClientId = some dhcpClientId).head? with _ | d
  · refine .none hunknown ?_
    rintro d hd hg ⟨_, _, hh', hc', hdh, hdc⟩
    cases hh.symm.trans hh'
    cases hc.symm.trans hc'
    have hno := head_matching_none hhost d hd
    simp [hg, hdh, hdc] at hno
  · obtain ⟨hd, hp⟩ := of_head_matching hhost
    simp only [Bool.and_eq_true, decide_eq_true_eq] at hp
    exact .byHost hd hp.1.1 hunknown ⟨_, _, hh, hc, hp.1.2, hp.2⟩

/-! ### Scans -/

/-- The devices after an entry has been matched to `d`. -/
def placed (env : Env) (now : Time) (T : Table Device.id) (e : DiscoveredDevice) (d : Device) :
    Table Device.id :=
  Model.device.patch T now d.id (relocated env e d now) (relocated_id env e d now)

/-- The row of the device an entry was matched to. -/
def after (env : Env) (now : Time) (e : DiscoveredDevice) (d : Device) : Device :=
  Model.device.touch now (relocated env e d now d)

/-- The loop over the entries, with the device each one is matched to. -/
inductive Scan (env : Env) (g : String) (now : Time) :
    Table Device.id → List DiscoveredDevice → List (Option String) → Table Device.id → Prop
  | nil {T : Table Device.id} : Scan env g now T [] [] T
  | skip {T T' : Table Device.id} {e : DiscoveredDevice} {es : List DiscoveredDevice}
      {ms : List (Option String)} (hfind : Finds env g T e none)
      (h : Scan env g now T es ms T') : Scan env g now T (e :: es) (none :: ms) T'
  | hit {T T' : Table Device.id} {e : DiscoveredDevice} {es : List DiscoveredDevice}
      {ms : List (Option String)} {d : Device} (hfind : Finds env g T e (some d))
      (h : Scan env g now (placed env now T e d) es ms T') :
      Scan env g now T (e :: es) (some d.id :: ms) T'

section Placed
variable {env : Env} {now : Time} {T : Table Device.id} {e : DiscoveredDevice} {d : Device}

/-- The device takes the address of the entry, the others stay. -/
theorem mem_placed (hd : d ∈ T.rows) {x : Device} : x ∈ (placed env now T e d).rows ↔
    x = after env now e d ∨ x ∈ T.rows ∧ x.id ≠ d.id := by
  rw [placed, Model.mem_patch]
  constructor
  · rintro ⟨r, hr, rfl⟩
    split_ifs with hk
    · cases Table.eq_of_key hr hd hk
      exact .inl rfl
    · exact .inr ⟨hr, hk⟩
  · rintro (rfl | ⟨hx, hk⟩)
    · exact ⟨d, hd, by rw [if_pos rfl]; rfl⟩
    · exact ⟨x, hx, by rw [if_neg hk]⟩

theorem after_macAddress : (after env now e d).macAddress = some (mac env e) := rfl

/-- The rows one by one. -/
theorem placed_rows (hd : d ∈ T.rows) : (placed env now T e d).rows =
    T.rows.map fun x => if x.id = d.id then after env now e x else x := by
  unfold placed Model.patch Table.modify
  refine List.map_congr_left fun x hx => ?_
  by_cases hk : x.id = d.id
  · cases Table.eq_of_key hx hd hk
    simp [after]
  · simp [hk]

end Placed

/-! ### The loop of the service -/

/-- The device each entry of a report is matched to, when its turn comes. -/
def matched (env : Env) (g : String) : World → List DiscoveredDevice → List (Option String)
  | _, [] => []
  | w, e :: es => (found env g w e).map Device.id ::
      matched env g ((updateDiscovered env g 0 e).run w).2 es

/-- One turn of the loop; the count so far does not matter to the devices. -/
theorem run_turn (env : Env) (g : String) (e : DiscoveredDevice) (w : World) :
    ∃ w', (∀ n, (updateDiscovered env g n e).run w =
        (.ok (n + ((found env g w e).map fun _ => 1).getD 0), w')) ∧ w'.now = w.now ∧
      w'.db.devices = match found env g w e with
        | none => w.db.devices
        | some d => placed env w.now w.db.devices e d := by
  have hfinds := finds_found env g w e
  obtain ⟨w₁, hfind, hdb, hnow⟩ := run_findDiscovered env g w e
  rcases hfound : found env g w e with _ | d
  · refine ⟨w₁, fun n => ?_, hnow, by rw [hdb]⟩
    simp only [updateDiscovered, Prog.run_bind, hfind, hfound]
    rfl
  · rw [hfound] at hfinds
    have hrow : (Model.device.get w₁.db).find d.id = some d := by
      rw [show Model.device.get w₁.db = w.db.devices from congrArg Database.devices hdb]
      exact Table.find_key hfinds.mem
    have hupdate : (Prisma.update .device d.id (relocated env e d w₁.now)
        (relocated_id env e d w₁.now)).run w₁ = _ := run_update hrow rfl rfl
    refine ⟨World.afterCall w₁ (Model.device.set w₁.db (Model.device.patch (Model.device.get w₁.db)
      w₁.now d.id (relocated env e d w₁.now) (relocated_id env e d w₁.now))), fun n => ?_, hnow, ?_⟩
    · have hturn : (updateDiscovered env g n e).run w = (do
          let _ ← Prisma.update .device d.id (relocated env e d w₁.now)
            (relocated_id env e d w₁.now)
          pure (n + 1)).run w₁ := by
        simp only [updateDiscovered, Prog.run_bind, hfind, hfound]
        rfl
      rw [hturn, Prog.run_bind, hupdate]
      rfl
    · rw [← hdb, ← hnow]
      rfl

theorem scan_turns (env : Env) (g : String) : ∀ (es : List DiscoveredDevice) (n : ℕ) (w : World),
    ∃ r w', (Prog.foldEach es n (updateDiscovered env g)).run w = (.ok r, w') ∧
      Scan env g w.now w.db.devices es (matched env g w es) w'.db.devices
  | [], n, w => ⟨n, w, rfl, .nil⟩
  | e :: es, n, w => by
    have hfinds := finds_found env g w e
    obtain ⟨w₁, hturn, hnow, hdevices⟩ := run_turn env g e w
    obtain ⟨r, w', hrun, hscan⟩ :=
      scan_turns env g es (n + ((found env g w e).map fun _ => 1).getD 0) w₁
    refine ⟨r, w', ?_, ?_⟩
    · rw [Prog.foldEach, Prog.run_bind, hturn]
      exact hrun
    · have hnext : ((updateDiscovered env g 0 e).run w).2 = w₁ := congrArg Prod.snd (hturn 0)
      rw [hnow] at hscan
      rw [matched, hnext]
      rcases hfound : found env g w e with _ | d <;> rw [hfound] at hfinds hdevices <;>
        rw [hdevices] at hscan
      · exact .skip hfinds hscan
      · exact .hit hfinds hscan

/-- The device each entry is matched to, from the request on: the gateway is looked up first. -/
def scanned (env : Env) (g : String) (es : List DiscoveredDevice) (w : World) :
    List (Option String) := matched env g (World.afterCall w w.db) es

/-- **A report is a scan**, if there is such a gateway. -/
theorem scan_report (env : Env) (g : String) (es : List DiscoveredDevice) (w : World) :
    w.db.gateways.find g = none ∧
      ((updateDiscoveredDevices env g es).run w).2.db = w.db ∨
    w.db.gateways.find g ≠ none ∧ Scan env g w.now w.db.devices es (scanned env g es w)
      ((updateDiscoveredDevices env g es).run w).2.db.devices := by
  rw [updateDiscoveredDevices, Prog.run_bind]
  rcases hg : w.db.gateways.find g with _ | gateway
  · rw [show (findGateway g).run w =
      (.error (.notFound "Gateway not found"), World.afterCall w w.db) by
        simp [findGateway, Model.gateway, hg]]
    exact .inl ⟨rfl, rfl⟩
  refine .inr ⟨by simp, ?_⟩
  rw [show (findGateway g).run w = (.ok gateway, World.afterCall w w.db) by
    simp [findGateway, Model.gateway, hg]]
  obtain ⟨n, w', hrun, hscan⟩ := scan_turns env g es 0 (World.afterCall w w.db)
  simp only [Prog.run_bind, hrun]
  -- the time of the last report is no column of a device
  have hfree : Free .gateway (OnDb fun db => db.devices = w'.db.devices) := fun _ _ hw => hw
  have hseen : Prog.Keeps (OnDb fun db => db.devices = w'.db.devices)
      (ignoreErrors (updateLastSeen g none)) :=
    keeps_ignoreErrors (keeps_newDate.bind fun _ =>
      (hfree.update (steady_onDb _) _ _ _).bind fun _ => .pure _)
  have hlast : ((ignoreErrors (updateLastSeen g none)).run w').2.db.devices = w'.db.devices :=
    hseen w' rfl
  rcases hrun' : (ignoreErrors (updateLastSeen g none)).run w' with ⟨_ | _, w''⟩ <;>
    rw [hrun'] at hlast
  · exact hlast ▸ hscan
  · exact hlast ▸ hscan

/-! ### MAC addresses -/

/-- No two devices of the gateway have the same MAC address. -/
def DistinctMacs (g : String) (T : Table Device.id) : Prop :=
  ∀ d ∈ T.rows, ∀ d' ∈ T.rows, d.gatewayId = some g → d'.gatewayId = some g →
    ∀ m, d.macAddress = some m → d'.macAddress = some m → d = d'

/-- The same as a check that can be run. -/
theorem distinctMacs_of_nodup {g : String} {T : Table Device.id}
    (h : ((T.rows.filter fun d => d.gatewayId = some g).filterMap Device.macAddress).Nodup) :
    DistinctMacs g T := by
  intro d hd d' hd' hg hg' m hm hm'
  by_contra hne
  rw [List.Nodup, List.pairwise_filterMap] at h
  have hmem : d ∈ T.rows.filter fun d => d.gatewayId = some g :=
    List.mem_filter.mpr ⟨hd, by simpa using hg⟩
  have hmem' : d' ∈ T.rows.filter fun d => d.gatewayId = some g :=
    List.mem_filter.mpr ⟨hd', by simpa using hg'⟩
  have hsymm : Std.Symm fun x y : Device =>
      ∀ b, x.macAddress = some b → ∀ b', y.macAddress = some b' → b ≠ b' :=
    ⟨fun x y hxy b hb b' hb' => (hxy b' hb' b hb).symm⟩
  exact h.forall hmem hmem' hne m hm m hm' rfl

section Macs
variable {env : Env} {g : String} {now : Time} {T T' : Table Device.id} {e : DiscoveredDevice}
  {es : List DiscoveredDevice} {ms : List (Option String)} {d : Device}

/-- The device an entry is matched to is the only one of its gateway that may have the entry's MAC
address. -/
theorem Finds.only (h : DistinctMacs g T) (hfind : Finds env g T e (some d)) {x : Device}
    (hx : x ∈ T.rows) (hg : x.gatewayId = some g) (hmac : x.macAddress = some (mac env e)) :
    x = d := by
  cases hfind with
  | byMac hd hg' hmac' => exact h x hx d hd hg hg' _ hmac hmac'
  | byHost _ _ hunknown _ => exact absurd hmac (hunknown x hx hg)

theorem DistinctMacs.placed (h : DistinctMacs g T) (hfind : Finds env g T e (some d)) :
    DistinctMacs g (placed env now T e d) := by
  intro x hx y hy hgx hgy m hmx hmy
  rw [mem_placed hfind.mem] at hx hy
  rcases hx with rfl | ⟨hx, hnx⟩ <;> rcases hy with rfl | ⟨hy, hny⟩
  · rfl
  · cases after_macAddress.symm.trans hmx
    exact absurd (congrArg Device.id (hfind.only h hy hgy hmy)) hny
  · cases after_macAddress.symm.trans hmy
    exact absurd (congrArg Device.id (hfind.only h hx hgx hmx)) hnx
  · exact h x hx y hy hgx hgy m hmx hmy

theorem Scan.distinctMacs (hscan : Scan env g now T es ms T') (h : DistinctMacs g T) :
    DistinctMacs g T' := by
  induction hscan with
  | nil => exact h
  | skip _ _ ih => exact ih h
  | hit hfind _ ih => exact ih (h.placed hfind)

/-- A scan neither makes, removes nor moves devices. -/
theorem Scan.places (hscan : Scan env g now T es ms T') :
    T'.rows.map (fun d => (d.id, d.gatewayId)) = T.rows.map fun d => (d.id, d.gatewayId) := by
  induction hscan with
  | nil => rfl
  | skip _ _ ih => exact ih
  | @hit T T' e es ms d hfind _ ih =>
    rw [ih, placed_rows hfind.mem, List.map_map]
    refine List.map_congr_left fun x _ => ?_
    rw [Function.comp_apply]
    split_ifs <;> rfl

/-- Devices of other gateways, or of none, stay as they are. -/
theorem Scan.others (hscan : Scan env g now T es ms T') {x : Device} (hx : x.gatewayId ≠ some g) :
    x ∈ T'.rows ↔ x ∈ T.rows := by
  induction hscan with
  | nil => rfl
  | skip _ _ ih => exact ih
  | @hit T T' e es ms d hfind _ ih =>
    rw [ih, mem_placed hfind.mem]
    constructor
    · rintro (rfl | ⟨hmem, -⟩)
      · exact absurd hfind.gateway hx
      · exact hmem
    · intro hmem
      refine .inr ⟨hmem, fun hk => hx ?_⟩
      rw [Table.eq_of_key hmem hfind.mem hk]
      exact hfind.gateway

end Macs

/-- **Discovery keeps MAC addresses distinct.** Whatever a gateway reports, its devices keep
pairwise different MAC addresses, no device is made, removed or moved to another gateway, and the
devices of other gateways stay as they are. -/
theorem macs_stay_distinct (env : Env) (g : String) (es : List DiscoveredDevice) (w : World)
    (h : DistinctMacs g w.db.devices) :
    DistinctMacs g ((updateDiscoveredDevices env g es).run w).2.db.devices ∧
    ((updateDiscoveredDevices env g es).run w).2.db.devices.rows.map
        (fun d => (d.id, d.gatewayId)) = w.db.devices.rows.map (fun d => (d.id, d.gatewayId)) ∧
    ∀ d : Device, d.gatewayId ≠ some g →
      (d ∈ ((updateDiscoveredDevices env g es).run w).2.db.devices.rows ↔
        d ∈ w.db.devices.rows) := by
  rcases scan_report env g es w with ⟨-, hsame⟩ | ⟨-, hscan⟩
  · rw [hsame]
    exact ⟨h, rfl, fun _ _ => .rfl⟩
  · exact ⟨hscan.distinctMacs h, hscan.places, fun _ hd => hscan.others hd⟩

/-- A phone and a tablet behind the gateway `ga`, and a console behind `gb` with the tablet's MAC
address. -/
def homes : World := .fresh (Household.withDevices
  [{ Household.device "phone" "amal" "adam" with
      gatewayId := some "ga", macAddress := some "aa:aa:aa:aa:aa:aa", hostname := some "pixel-8",
      dhcpClientId := some "client-xyz" },
    { Household.device "tablet" "amal" "adam" with
      gatewayId := some "ga", macAddress := some "cc:cc:cc:cc:cc:cc" },
    { Household.device "console" "basma" "badr" with
      gatewayId := some "gb", macAddress := some "cc:cc:cc:cc:cc:cc" }] (by decide)) 0

theorem distinctMacs_homes : DistinctMacs "ga" homes.db.devices :=
  distinctMacs_of_nodup (by decide)

/-- The phone comes back under another MAC address, and then the tablet. -/
theorem macs_stay_distinct_merge :
    (((updateDiscoveredDevices .plain "ga"
      [{ ipAddress := "192.168.1.7", macAddress := "bb:bb:bb:bb:bb:bb", hostname := some "pixel-8",
         dhcpClientId := some "client-xyz" },
       { ipAddress := "192.168.1.8", macAddress := "cc:cc:cc:cc:cc:cc", hostname := some "pixel-8",
         dhcpClientId := some "client-xyz" }]).run homes).2.db.devices.rows.map Device.macAddress =
      [some "bb:bb:bb:bb:bb:bb", some "cc:cc:cc:cc:cc:cc", some "cc:cc:cc:cc:cc:cc"]) ∧
    DistinctMacs "ga" ((updateDiscoveredDevices .plain "ga"
      [{ ipAddress := "192.168.1.7", macAddress := "bb:bb:bb:bb:bb:bb", hostname := some "pixel-8",
         dhcpClientId := some "client-xyz" },
       { ipAddress := "192.168.1.8", macAddress := "cc:cc:cc:cc:cc:cc", hostname := some "pixel-8",
         dhcpClientId := some "client-xyz" }]).run homes).2.db.devices :=
  ⟨by decide +kernel, (macs_stay_distinct _ _ _ _ distinctMacs_homes).1⟩

end GuardTime.Discovery
