import Mathlib.Tactic
import GuardTime.Discovery.Scan

/-! # Repeating a scan

The agent sends the same report again every few seconds. What an entry writes in the row it is
matched to are the columns it carries, and the hash of the result (`stamp`); entries for one device
applied twice in the same order write what they wrote before (`stamps_stamps`). So a scan that
matches its entries as the one before it did changes nothing but the timestamps.

It may match them otherwise: an entry that found no device the first time finds, by hostname and
client id, the device that a later entry has given them to (`hint_appears`). That is ruled out where
no entry is left that finds its device by hostname alone.

* `Scan.view`: the columns of every device after a scan;
* `Scan.settled`, `Scan.fixed`: the second scan where every entry finds its device by MAC address;
* `repeated_scan`: when a repeated scan changes nothing. -/

namespace GuardTime.Discovery

open GuardTime.Lib.Program GuardTime.Lib.Keyed GuardTime.Lib.Js GuardTime.Schema GuardTime.Server
open GuardTime.Prisma GuardTime.Services GuardTime.Services.Gateways

/-! ### What an entry writes -/

/-- The columns of a device that a scan writes, timestamps apart. -/
structure Columns where
  macAddress : Option String
  ipAddress : Option String
  dnsSourceIp : Option String
  hostname : Option String
  dhcpClientId : Option String
  vendorOui : Option String
  osHint : Option String
  fingerprintHash : Option String
deriving DecidableEq

def columns (d : Device) : Columns :=
  ⟨d.macAddress, d.ipAddress, d.dnsSourceIp, d.hostname, d.dhcpClientId, d.vendorOui, d.osHint,
    d.fingerprintHash⟩

/-- An entry over the columns of the device it is matched to. -/
def stamp (env : Env) (c : Columns) (e : DiscoveredDevice) : Columns where
  macAddress := some (mac env e)
  ipAddress := some e.ipAddress
  dnsSourceIp := some e.ipAddress
  hostname := e.hostname.or c.hostname
  dhcpClientId := e.dhcpClientId.or c.dhcpClientId
  vendorOui := e.vendorOui.or c.vendorOui
  osHint := e.osHint.or c.osHint
  fingerprintHash := some (computeFingerprintHash env (some (mac env e)) (e.hostname.or c.hostname)
    (e.dhcpClientId.or c.dhcpClientId) (e.vendorOui.or c.vendorOui))

theorem columns_after (env : Env) (now : Time) (e : DiscoveredDevice) (d : Device) :
    columns (after env now e d) = stamp env (columns d) e := rfl

/-- The last value the entries carry for a column, over the stored one. -/
def latest (f : DiscoveredDevice → Option String) (l : List DiscoveredDevice) (c : Option String) :
    Option String :=
  l.foldl (fun c e => (f e).or c) c

section Latest
variable (f : DiscoveredDevice → Option String) (l : List DiscoveredDevice) (c : Option String)

theorem latest_cons (e : DiscoveredDevice) : latest f (e :: l) c = latest f l ((f e).or c) := rfl

theorem latest_eq : latest f l c = (latest f l none).or c := by
  induction l generalizing c with
  | nil => rfl
  | cons e l ih => rw [latest_cons, latest_cons, ih, ih ((f e).or none), Option.or_none,
      Option.or_assoc]

theorem latest_latest : latest f l (latest f l c) = latest f l c := by
  rw [latest_eq f l (latest f l c), latest_eq f l c, ← Option.or_assoc, Option.or_self]

end Latest

/-- The entries matched to one device, column by column. -/
def noted (env : Env) (l : List DiscoveredDevice) (c : Columns) : Columns where
  macAddress := latest (fun e => some (mac env e)) l c.macAddress
  ipAddress := latest (fun e => some e.ipAddress) l c.ipAddress
  dnsSourceIp := latest (fun e => some e.ipAddress) l c.dnsSourceIp
  hostname := latest DiscoveredDevice.hostname l c.hostname
  dhcpClientId := latest DiscoveredDevice.dhcpClientId l c.dhcpClientId
  vendorOui := latest DiscoveredDevice.vendorOui l c.vendorOui
  osHint := latest DiscoveredDevice.osHint l c.osHint
  fingerprintHash := if l = [] then c.fingerprintHash else
    some (computeFingerprintHash env (latest (fun e => some (mac env e)) l c.macAddress)
      (latest DiscoveredDevice.hostname l c.hostname)
      (latest DiscoveredDevice.dhcpClientId l c.dhcpClientId)
      (latest DiscoveredDevice.vendorOui l c.vendorOui))

theorem stamps_eq (env : Env) (l : List DiscoveredDevice) (c : Columns) :
    l.foldl (stamp env) c = noted env l c := by
  induction l generalizing c with
  | nil => rfl
  | cons e l ih =>
    rw [List.foldl_cons, ih]
    unfold noted
    simp only [latest_cons, reduceCtorEq, if_false]
    by_cases hl : l = []
    · subst hl
      rfl
    · simp only [hl, if_false]
      rfl

/-- Entries applied again change nothing. -/
theorem stamps_stamps (env : Env) (l : List DiscoveredDevice) (c : Columns) :
    l.foldl (stamp env) (l.foldl (stamp env) c) = l.foldl (stamp env) c := by
  rw [stamps_eq, stamps_eq]
  by_cases hl : l = []
  · subst hl
    rfl
  · simp only [noted, latest_latest, hl, if_false]

/-! ### The same matches -/

/-- A device without its timestamps. -/
def view (d : Device) : String × Option String × Columns := (d.id, d.gatewayId, columns d)

/-- The entries matched to the device. -/
def told (k : String) : List DiscoveredDevice → List (Option String) → List DiscoveredDevice
  | e :: es, m :: ms => if m = some k then e :: told k es ms else told k es ms
  | _, _ => []

section Same
variable {env : Env} {g : String} {now now' : Time} {T T' T'' : Table Device.id}
  {e : DiscoveredDevice} {es : List DiscoveredDevice} {ms : List (Option String)} {d : Device}

/-- Every device after a scan. -/
theorem Scan.view (hscan : Scan env g now T es ms T') : T'.rows.map view =
    T.rows.map fun d => (d.id, d.gatewayId, (told d.id es ms).foldl (stamp env) (columns d)) := by
  induction hscan with
  | nil => rfl
  | skip _ _ ih =>
    rw [ih]
    refine List.map_congr_left fun x _ => ?_
    rw [told, if_neg (by simp)]
  | @hit T T' e es ms d hfind _ ih =>
    rw [ih, placed_rows hfind.mem, List.map_map]
    refine List.map_congr_left fun x _ => ?_
    rw [Function.comp_apply, told]
    by_cases hk : x.id = d.id
    · rw [if_pos hk, if_pos (congrArg some hk.symm)]
      rfl
    · rw [if_neg hk, if_neg fun h => hk (Option.some.inj h).symm]

/-- A scan with the matches of the one before it. -/
theorem Scan.again (hscan : Scan env g now T es ms T') (hscan' : Scan env g now' T' es ms T'') :
    T''.rows.map Discovery.view = T'.rows.map Discovery.view := by
  have hcomp : (fun d => (d.id, d.gatewayId, (told d.id es ms).foldl (stamp env) (columns d))) =
      (fun v : String × Option String × Columns =>
        (v.1, v.2.1, (told v.1 es ms).foldl (stamp env) v.2.2)) ∘ Discovery.view := rfl
  rw [hscan'.view, hcomp, ← List.map_map, hscan.view, List.map_map]
  refine List.map_congr_left fun x _ => ?_
  rw [Function.comp_apply, stamps_stamps]

end Same

/-! ### Matches by MAC address -/

/-- The device with the entry's MAC address, if there is one, has what the entry carries. -/
def Settled (env : Env) (g : String) (T : Table Device.id) (e : DiscoveredDevice) : Prop :=
  ∀ d ∈ T.rows, d.gatewayId = some g → d.macAddress = some (mac env e) →
    stamp env (columns d) e = columns d

/-- The entry finds no device by its hostname and client id. -/
def NotByHost (env : Env) (g : String) (T : Table Device.id) (e : DiscoveredDevice) : Prop :=
  Unknown env g T e → ∀ d ∈ T.rows, d.gatewayId = some g → ¬ SameHost e d

section Settled
variable {env : Env} {g : String} {now : Time} {T T' : Table Device.id} {e e' : DiscoveredDevice}
  {es : List DiscoveredDevice} {ms : List (Option String)} {d : Device}

theorem settled_placed (h : DistinctMacs g T) (hfind : Finds env g T e (some d)) :
    Settled env g (placed env now T e d) e := by
  intro x hx hg hmac
  rcases (mem_placed hfind.mem).mp hx with rfl | ⟨hx', hne⟩
  · rw [columns_after]
    exact stamps_stamps env [e] (columns d)
  · exact absurd (congrArg Device.id (hfind.only h hx' hg hmac)) hne

theorem Settled.placed (h : Settled env g T e') (hd : d ∈ T.rows) (hne : mac env e' ≠ mac env e) :
    Settled env g (placed env now T e d) e' := by
  intro x hx hg hmac
  rcases (mem_placed hd).mp hx with rfl | ⟨hx', -⟩
  · exact absurd (Option.some.inj hmac).symm hne
  · exact h x hx' hg hmac

/-- A scan settles its entries, where no two of them have the same MAC address. -/
theorem Scan.settled (hscan : Scan env g now T es ms T') (h : DistinctMacs g T)
    (hes : (es.map (mac env)).Nodup) :
    (∀ e ∈ es, Settled env g T' e) ∧
      ∀ e, mac env e ∉ es.map (mac env) → Settled env g T e → Settled env g T' e := by
  induction hscan with
  | nil => exact ⟨by simp, fun _ _ hset => hset⟩
  | @skip T T' e es ms hfind _ ih =>
    rw [List.map_cons, List.nodup_cons] at hes
    obtain ⟨hall, hkept⟩ := ih h hes.2
    have hself : Settled env g T e := by
      cases hfind with
      | none hunknown _ => exact fun x hx hg hmac => absurd hmac (hunknown x hx hg)
    refine ⟨List.forall_mem_cons.mpr ⟨hkept e hes.1 hself, hall⟩, fun e' he' hset => ?_⟩
    rw [List.map_cons, List.mem_cons, not_or] at he'
    exact hkept e' he'.2 hset
  | @hit T T' e es ms d hfind _ ih =>
    rw [List.map_cons, List.nodup_cons] at hes
    obtain ⟨hall, hkept⟩ := ih (h.placed hfind) hes.2
    refine ⟨List.forall_mem_cons.mpr ⟨hkept e hes.1 (settled_placed h hfind), hall⟩,
      fun e' he' hset => ?_⟩
    rw [List.map_cons, List.mem_cons, not_or] at he'
    exact hkept e' he'.2 (hset.placed hfind.mem he'.1)

/-- A device of a table with the same devices, timestamps apart. -/
theorem exists_alike (hview : T'.rows.map view = T.rows.map view) {x : Device} (hx : x ∈ T'.rows) :
    ∃ y ∈ T.rows, y.gatewayId = x.gatewayId ∧ columns y = columns x := by
  have hmem : view x ∈ T.rows.map view := hview ▸ List.mem_map_of_mem hx
  obtain ⟨y, hy, hxy⟩ := List.mem_map.mp hmem
  simp only [view, Prod.mk.injEq] at hxy
  exact ⟨y, hy, hxy.2⟩

theorem Settled.congr (hview : T'.rows.map view = T.rows.map view) (h : Settled env g T e) :
    Settled env g T' e := by
  intro x hx hg hmac
  obtain ⟨y, hy, hgy, hcol⟩ := exists_alike hview hx
  rw [← hcol]
  exact h y hy (hgy.trans hg) ((congrArg Columns.macAddress hcol).trans hmac)

theorem Unknown.congr (hview : T'.rows.map view = T.rows.map view) (h : Unknown env g T e) :
    Unknown env g T' e := by
  intro x hx hg hmac
  obtain ⟨y, hy, hgy, hcol⟩ := exists_alike hview hx
  exact h y hy (hgy.trans hg) ((congrArg Columns.macAddress hcol).trans hmac)

theorem NotByHost.congr (hview : T'.rows.map view = T.rows.map view) (h : NotByHost env g T e) :
    NotByHost env g T' e := by
  intro hunknown x hx hg hhost
  obtain ⟨y, hy, hgy, hcol⟩ := exists_alike hview hx
  obtain ⟨hostname, dhcpClientId, hh, hc, hdh, hdc⟩ := hhost
  refine h (hunknown.congr hview.symm) y hy (hgy.trans hg)
    ⟨hostname, dhcpClientId, hh, hc, ?_, ?_⟩
  · exact (congrArg Columns.hostname hcol).trans hdh
  · exact (congrArg Columns.dhcpClientId hcol).trans hdc

/-- A scan of settled entries, none of which finds its device by hostname. -/
theorem Scan.fixed (hscan : Scan env g now T es ms T')
    (h : ∀ e ∈ es, Settled env g T e ∧ NotByHost env g T e) :
    T'.rows.map Discovery.view = T.rows.map Discovery.view := by
  induction hscan with
  | nil => rfl
  | skip _ _ ih => exact ih fun e he => h e (List.mem_cons_of_mem _ he)
  | @hit T T' e es ms d hfind _ ih =>
    obtain ⟨hset, hhost⟩ := h e List.mem_cons_self
    have hsame : stamp env (columns d) e = columns d := by
      cases hfind with
      | byMac hd hg hmac => exact hset d hd hg hmac
      | byHost hd hg hunknown hh => exact absurd hh (hhost hunknown d hd hg)
    have hview : (placed env now T e d).rows.map Discovery.view = T.rows.map Discovery.view := by
      rw [placed_rows hfind.mem, List.map_map]
      refine List.map_congr_left fun x hx => ?_
      rw [Function.comp_apply]
      split_ifs with hk
      · cases Table.eq_of_key hx hfind.mem hk
        exact congrArg (fun c => (d.id, d.gatewayId, c)) hsame
      · rfl
    refine (ih fun e' he' => ?_).trans hview
    obtain ⟨hset', hhost'⟩ := h e' (List.mem_cons_of_mem _ he')
    exact ⟨hset'.congr hview, hhost'.congr hview⟩

end Settled

/-! ### Two runs -/

/-- **A repeated scan changes nothing** but timestamps, if its entries are matched as they were the
first time, or if the MAC addresses of the gateway's devices and those of the entries are distinct
and, after the first run, no entry is left that finds its device by hostname and client id. -/
theorem repeated_scan (env : Env) (g : String) (es : List DiscoveredDevice) (w : World) (t : Time)
    (h : scanned env g es w =
        scanned env g es (((updateDiscoveredDevices env g es).run w).2.atTime t) ∨
      DistinctMacs g w.db.devices ∧ (es.map (mac env)).Nodup ∧
        ∀ e ∈ es, NotByHost env g ((updateDiscoveredDevices env g es).run w).2.db.devices e) :
    ((updateDiscoveredDevices env g es).run
        (((updateDiscoveredDevices env g es).run w).2.atTime t)).2.db.devices.rows.map view =
      ((updateDiscoveredDevices env g es).run w).2.db.devices.rows.map view := by
  rcases scan_report env g es (((updateDiscoveredDevices env g es).run w).2.atTime t)
    with ⟨-, hsame⟩ | ⟨hg', hscan'⟩
  · rw [hsame]
    rfl
  rcases scan_report env g es w with ⟨hg, hsame⟩ | ⟨-, hscan⟩
  · refine absurd ?_ hg'
    rw [World.atTime, hsame]
    exact hg
  rcases h with hms | ⟨hmacs, hes, hhost⟩
  · rw [← hms] at hscan'
    exact hscan.again hscan'
  · exact hscan'.fixed fun e he => ⟨(hscan.settled hmacs hes).1 e he, hhost e he⟩

/-- The phone under another MAC address, and the tablet: the second time both are found by MAC
address. -/
def twoEntries : List DiscoveredDevice :=
  [{ ipAddress := "192.168.1.7", macAddress := "bb:bb:bb:bb:bb:bb", hostname := some "pixel-8",
     dhcpClientId := some "client-xyz" },
   { ipAddress := "192.168.1.8", macAddress := "cc:cc:cc:cc:cc:cc", osHint := some "iPadOS" }]

/-- The phone under its MAC address and under another one: the second time only the other finds
it. -/
def otherNic : List DiscoveredDevice :=
  [{ ipAddress := "192.168.1.6", macAddress := "aa:aa:aa:aa:aa:aa" },
   { ipAddress := "192.168.1.7", macAddress := "bb:bb:bb:bb:bb:bb", hostname := some "pixel-8",
     dhcpClientId := some "client-xyz" }]

theorem notByHost_otherNic : ∀ e ∈ otherNic, NotByHost .plain "ga"
    ((updateDiscoveredDevices .plain "ga" otherNic).run homes).2.db.devices e := by
  rintro e he hunknown d hd hg ⟨hostname, _, htruthy, -, hhost, -⟩
  have hall : ∀ e ∈ otherNic,
      ∀ d ∈ ((updateDiscoveredDevices .plain "ga" otherNic).run homes).2.db.devices.rows,
      d.gatewayId = some "ga" → (truthy e.hostname).isSome → d.hostname = truthy e.hostname →
      d.macAddress = some (mac .plain e) := by
    decide +kernel
  refine hunknown d hd hg (hall e he d hd hg ?_ ?_)
  · rw [htruthy]
    rfl
  · rw [hhost, htruthy]

theorem repeated_scan_merge :
    (scanned .plain "ga" twoEntries homes = [some "phone", some "tablet"] ∧
      ((updateDiscoveredDevices .plain "ga" twoEntries).run
          (((updateDiscoveredDevices .plain "ga" twoEntries).run homes).2.atTime
            30000)).2.db.devices.rows.map view =
        ((updateDiscoveredDevices .plain "ga" twoEntries).run homes).2.db.devices.rows.map view) ∧
    scanned .plain "ga" otherNic homes = [some "phone", some "phone"] ∧
      ((updateDiscoveredDevices .plain "ga" otherNic).run
          (((updateDiscoveredDevices .plain "ga" otherNic).run homes).2.atTime
            30000)).2.db.devices.rows.map view =
        ((updateDiscoveredDevices .plain "ga" otherNic).run homes).2.db.devices.rows.map view :=
  ⟨⟨by decide +kernel, repeated_scan .plain "ga" twoEntries homes 30000 (.inl (by decide +kernel))⟩,
    by decide +kernel, repeated_scan .plain "ga" otherNic homes 30000
      (.inr ⟨distinctMacs_homes, by decide, notByHost_otherNic⟩)⟩

/-- A device of which only the MAC address is known. -/
def plainTablet : World := .fresh (Household.withDevices
  [{ Household.device "tablet" "amal" "adam" with
      gatewayId := some "ga", macAddress := some "cc:cc:cc:cc:cc:cc" }] (by simp)) 0

/-- The tablet under two MAC addresses, the unknown one first. -/
def twoNics : List DiscoveredDevice :=
  [{ ipAddress := "192.168.1.7", macAddress := "bb:bb:bb:bb:bb:bb", hostname := some "tab",
     dhcpClientId := some "client-xyz", osHint := some "Android" },
   { ipAddress := "192.168.1.8", macAddress := "cc:cc:cc:cc:cc:cc", hostname := some "tab",
     dhcpClientId := some "client-xyz" }]

/-- The first entry finds nothing at first; the second time it finds the tablet by the hostname that
the second entry has given to it, and leaves its hint there. -/
theorem hint_appears : ¬ ∀ (env : Env) (g : String) (es : List DiscoveredDevice) (w : World)
    (t : Time),
    ((updateDiscoveredDevices env g es).run
        (((updateDiscoveredDevices env g es).run w).2.atTime t)).2.db.devices.rows.map view =
      ((updateDiscoveredDevices env g es).run w).2.db.devices.rows.map view := by
  intro h
  have hsame := h .plain "ga" twoNics plainTablet 30000
  exact absurd hsame (by decide +kernel)

end GuardTime.Discovery
