import Mathlib.Tactic
import GuardTime.Discovery.Scan

/-! # Fingerprints

`fingerprintHash` is derived from four other columns of a device. A discovery report writes it with
them and the backfill at boot adds it where it is missing; `DevicesService.update` writes the MAC
address alone. The hash stays current in every run whose updates give no device that has one a MAC
address that normalises differently.

* `Current`: every hash is that of the device's own columns;
* `Scan.current`, `current_backfill`, `keeps_update`: the operations one by one;
* `fingerprints_current`: whole runs. -/

namespace GuardTime.Discovery

open GuardTime.Lib.Program GuardTime.Lib.Keyed GuardTime.Lib.Js GuardTime.Schema GuardTime.Server
open GuardTime.Prisma GuardTime.Services GuardTime.Services.Gateways

/-- The hash of the device's own columns. -/
def fingerprint (env : Env) (d : Device) : String :=
  computeFingerprintHash env d.macAddress d.hostname d.dhcpClientId d.vendorOui

/-- A device without a hash, or with that of its columns. -/
def UpToDate (env : Env) (d : Device) : Prop :=
  ∀ h, d.fingerprintHash = some h → h = fingerprint env d

/-- Every device is up to date. -/
def Current (env : Env) (T : Table Device.id) : Prop := ∀ d ∈ T.rows, UpToDate env d

section Rows
variable {env : Env} {T T' : Table Device.id} {k : String} {now : Time} {f : Device → Device}

theorem Current.patch (h : Current env T) (hf : ∀ d, (f d).id = d.id)
    (hfd : ∀ d, T.find k = some d → UpToDate env d → UpToDate env (f d)) :
    Current env (Model.device.patch T now k f hf) := by
  intro x hx
  obtain ⟨d, hd, rfl⟩ := Model.mem_patch.mp hx
  split_ifs with hk
  · subst hk
    exact hfd d (Table.find_key hd) (h d hd)
  · exact h d hd

theorem Current.insert {x : Device} (h : Current env T) (hx : x.fingerprintHash = none)
    (hins : T.insert x = some T') : Current env T' := by
  intro d hd
  rw [(Table.insert_eq_some hins).2, List.mem_append, List.mem_singleton] at hd
  rcases hd with hd | rfl
  · exact h d hd
  · intro v hv
    cases hx.symm.trans hv

end Rows

/-! ### Registration -/

section Create
variable {env : Env}

/-- New devices have no hash. -/
theorem keeps_createDevice {mk : String → Time → Device}
    (h : ∀ id now, (mk id now).fingerprintHash = none) :
    Prog.Keeps (OnDb fun db => Current env db.devices) (Prisma.create .device mk) := by
  refine keeps_create (steady_onDb _) fun w t hw _ ht => ?_
  exact Current.insert hw (h _ _) ht

theorem current_create (p : String) (dto : Devices.CreateDeviceDto) :
    Prog.Keeps (OnDb fun db => Current env db.devices) (Devices.create p dto) :=
  .bind (keeps_createDevice fun _ _ => rfl) fun _ => .pure _

theorem current_registerDevice (p : String) (dto : ChildAgent.RegisterDeviceDto) :
    Prog.Keeps (OnDb fun db => Current env db.devices) (ChildAgent.registerDevice p dto) :=
  keeps_newDate.bind fun _ => keeps_createDevice fun _ _ => rfl

end Create

/-! ### Updates -/

/-- The update gives the device, if it has a hash, no MAC address that normalises differently. -/
def SameMac (env : Env) (id : String) (dto : Devices.UpdateDeviceDto)
    (T : Table Device.id) : Prop :=
  ∀ d, T.find id = some d → d.fingerprintHash ≠ none →
    normalizeField env (dto.macAddress.over d.macAddress) = normalizeField env d.macAddress

theorem over_over {α : Type} (p : Patch α) (c : Option α) : p.over (p.over c) = p.over c := by
  cases p <;> rfl

/-- The same update would not change the address again. -/
theorem SameMac.patch {env : Env} {id : String} {dto : Devices.UpdateDeviceDto}
    {T : Table Device.id} {now : Time} {f : Device → Device} (hf : ∀ d, (f d).id = d.id)
    (hmac : ∀ d, (f d).macAddress = dto.macAddress.over d.macAddress) :
    SameMac env id dto (Model.device.patch T now id f hf) := by
  intro d' hd' _
  rw [Model.find_patch_self] at hd'
  obtain ⟨d, -, rfl⟩ := Option.map_eq_some_iff.mp hd'
  have hd : (Model.device.touch now (f d)).macAddress = dto.macAddress.over d.macAddress := hmac d
  rw [hd, over_over]

theorem fingerprint_congr {env : Env} {d d' : Device}
    (hmac : normalizeField env d'.macAddress = normalizeField env d.macAddress)
    (hhost : d'.hostname = d.hostname) (hclient : d'.dhcpClientId = d.dhcpClientId)
    (hvendor : d'.vendorOui = d.vendorOui) : fingerprint env d' = fingerprint env d := by
  simp only [fingerprint, computeFingerprintHash, List.map_cons, hmac, hhost, hclient, hvendor]

theorem current_update {env : Env} (p id : String) (dto : Devices.UpdateDeviceDto) :
    Prog.Keeps (OnDb fun db => Current env db.devices ∧ SameMac env id dto db.devices)
      (Devices.update p id dto) := by
  refine .bind (.bind (keeps_query (steady_onDb _) _) fun _ => .bind (.orThrow _ _) fun _ =>
    .bind (.require _ _) fun _ => .pure _) fun _ => .bind (.require _ _) fun _ =>
    .bind (keeps_update (steady_onDb _) fun w r hw hr _ => ?_) fun _ => .pure _
  obtain ⟨hcur, hsame⟩ := hw
  constructor
  · refine hcur.patch (fun _ => by rfl) fun d hd hup h hh => ?_
    have hmac := hsame d hd (by rw [show d.fingerprintHash = some h from hh]; simp)
    rw [hup h hh]
    symm
    apply fingerprint_congr
    · exact hmac
    · rfl
    · rfl
    · rfl
  · exact SameMac.patch (fun _ => by rfl) fun _ => rfl

/-! ### Reports and the backfill -/

/-- A scan writes the hash with the columns. -/
theorem Scan.current {env : Env} {g : String} {now : Time} {T T' : Table Device.id}
    {es : List DiscoveredDevice} {ms : List (Option String)} (hscan : Scan env g now T es ms T')
    (h : Current env T) : Current env T' := by
  induction hscan with
  | nil => exact h
  | skip _ _ ih => exact ih h
  | @hit T T' e es ms d hfind _ ih =>
    refine ih fun x hx => ?_
    rcases (mem_placed hfind.mem).mp hx with rfl | ⟨hx', -⟩
    · rintro _ ⟨⟩
      rfl
    · exact h x hx'

/-- The devices that the backfill has read still have the columns they had then. -/
def Read (pending : List Device) (T : Table Device.id) : Prop :=
  ∀ p ∈ pending, ∀ d, T.find p.id = some d → d.macAddress = p.macAddress ∧
    d.hostname = p.hostname ∧ d.dhcpClientId = p.dhcpClientId ∧ d.vendorOui = p.vendorOui

theorem Read.patch {pending : List Device} {T : Table Device.id} {k : String} {now : Time}
    {f : Device → Device} (h : Read pending T) (hf : ∀ d, (f d).id = d.id)
    (hcols : ∀ d, (f d).macAddress = d.macAddress ∧ (f d).hostname = d.hostname ∧
      (f d).dhcpClientId = d.dhcpClientId ∧ (f d).vendorOui = d.vendorOui) :
    Read pending (Model.device.patch T now k f hf) := by
  intro p hp d hd
  rw [Model.find_patch] at hd
  obtain ⟨d₀, hd₀, rfl⟩ := Option.map_eq_some_iff.mp hd
  obtain ⟨hm, hh, hc, ho⟩ := h p hp d₀ hd₀
  obtain ⟨hm', hh', hc', ho'⟩ := hcols d₀
  split_ifs
  · exact ⟨hm'.trans hm, hh'.trans hh, hc'.trans hc, ho'.trans ho⟩
  · exact ⟨hm, hh, hc, ho⟩

theorem current_backfill (env : Env) :
    Prog.Keeps (OnDb fun db => Current env db.devices) (DeviceFingerprint.onModuleInit env) := by
  refine keeps_ignoreErrors fun w hw => ?_
  rw [Prog.run_bind]
  have hquery := run_query (fun db n =>
    matching .device db n fun d => d.fingerprintHash = none && d.macAddress ≠ none) w
  rw [show findMany .device (fun d => d.fingerprintHash = none && d.macAddress ≠ none) =
    query fun db n => matching .device db n fun d =>
      d.fingerprintHash = none && d.macAddress ≠ none from rfl, hquery]
  generalize hpending : matching .device w.db (w.tape w.calls)
    (fun d => d.fingerprintHash = none && d.macAddress ≠ none) = pending
  have hread : Read pending w.db.devices := by
    intro p hp d hd
    rw [← hpending, mem_matching] at hp
    cases hd.symm.trans (Table.find_key hp.1)
    exact ⟨rfl, rfl, rfl, rfl⟩
  have hkeeps : Prog.Keeps (OnDb fun db => Current env db.devices ∧ Read pending db.devices)
      (if pending.length = 0 then pure () else do
        let now ← newDate
        Prog.forEach pending fun device => do
          let fingerprintHash := computeFingerprintHash env device.macAddress device.hostname
            device.dhcpClientId device.vendorOui
          let _ ← Prisma.update .device device.id fun d =>
            { d with fingerprintHash := some fingerprintHash, fingerprintUpdatedAt := some now }
          pure ()) := by
    refine .ite (fun _ => .pure _) fun _ => keeps_newDate.bind fun now => ?_
    refine .forEach _ fun p hp => .bind (keeps_update (steady_onDb _) fun v r hv hr _ => ?_)
      fun _ => .pure _
    obtain ⟨hcur, hread⟩ := hv
    refine ⟨hcur.patch (fun _ => by rfl) fun d hd _ => ?_,
      hread.patch (fun _ => by rfl) fun _ => ⟨rfl, rfl, rfl, rfl⟩⟩
    obtain ⟨hm, hh, hc, ho⟩ := hread p hp d hd
    rintro _ ⟨⟩
    rw [← hm, ← hh, ← hc, ← ho]
    rfl
  exact (hkeeps (World.afterCall w w.db) ⟨hw, hread⟩).1

/-! ### Runs -/

/-- The operations that write a device's columns. -/
inductive Op where
  | create (parentId : String) (dto : Devices.CreateDeviceDto)
  | update (parentId id : String) (dto : Devices.UpdateDeviceDto)
  | registerDevice (parentId : String) (dto : ChildAgent.RegisterDeviceDto)
  | discover (gatewayId : String) (devices : List DiscoveredDevice)
  | backfill

/-- Of a request by someone else nothing is written. -/
theorem update_forbidden {p id : String} {dto : Devices.UpdateDeviceDto} {w : World}
    (h : ∀ d, w.db.devices.find id = some d → d.parentId ≠ p) :
    ((Devices.update p id dto).run w).2.db = w.db := by
  rcases hd : w.db.devices.find id with _ | d
  · have hfind : (Devices.findOne p id).run w =
        (.error (.notFound "Device not found"), World.afterCall w w.db) := by
      simp [Devices.findOne, Model.device, hd]
    simp only [Devices.update, Prog.run_bind, hfind]
    rfl
  · have hfind : (Devices.findOne p id).run w =
        (.error (.forbidden "Not your device"), World.afterCall w w.db) := by
      simp [Devices.findOne, Model.device, hd, h d hd]
    simp only [Devices.update, Prog.run_bind, hfind]
    rfl

/-- The world after the operation. -/
def Op.run (env : Env) : Op → World → World
  | create p dto, w => ((Devices.create p dto).run w).2
  | update p id dto, w => ((Devices.update p id dto).run w).2
  | registerDevice p dto, w => ((ChildAgent.registerDevice p dto).run w).2
  | discover g es, w => ((updateDiscoveredDevices env g es).run w).2
  | backfill, w => ((DeviceFingerprint.onModuleInit env).run w).2

/-- An update by the device's parent leaves its normalised MAC address as it is, if the device has a
hash. -/
def Op.SparesMac (env : Env) : Op → World → Prop
  | update p id dto, w => ∀ d, w.db.devices.find id = some d → d.parentId = p →
      d.fingerprintHash ≠ none →
      normalizeField env (dto.macAddress.over d.macAddress) = normalizeField env d.macAddress
  | _, _ => True

/-- Runs of the operations in any order, at any times, each meeting the condition `C` where it
starts. -/
inductive Reached (env : Env) (C : Op → World → Prop) (w₀ : World) : World → Prop
  | refl : Reached env C w₀ w₀
  | step {w : World} (op : Op) (t : Time) (hop : C op (w.atTime t)) (h : Reached env C w₀ w) :
      Reached env C w₀ (op.run env (w.atTime t))

/-- One operation. -/
theorem current_op {env : Env} {op : Op} {w : World} (hop : op.SparesMac env w)
    (h : Current env w.db.devices) : Current env (op.run env w).db.devices := by
  cases op with
  | create p dto => exact current_create p dto w h
  | update p id dto =>
    by_cases howner : ∀ d, w.db.devices.find id = some d → d.parentId ≠ p
    · rw [Op.run, update_forbidden howner]
      exact h
    · push Not at howner
      obtain ⟨d, hd, hp⟩ := howner
      refine (current_update p id dto w ⟨h, fun d' hd' => ?_⟩).1
      cases hd.symm.trans hd'
      exact hop d hd hp
  | registerDevice p dto => exact current_registerDevice p dto w h
  | discover g es =>
    rcases scan_report env g es w with ⟨-, hsame⟩ | ⟨-, hscan⟩
    · rw [Op.run, hsame]
      exact h
    · exact hscan.current h
  | backfill => exact current_backfill env w h

/-- **Fingerprints stay current** in every run whose updates spare the MAC addresses of devices that
have one. -/
theorem fingerprints_current {env : Env} {w₀ w : World} (h₀ : Current env w₀.db.devices)
    (h : Reached env (Op.SparesMac env) w₀ w) : Current env w.db.devices := by
  induction h with
  | refl => exact h₀
  | step op t hop _ ih => exact current_op hop ih

/-- The scan of the household's tablet, and then an update that moves its MAC address to upper
case: the hash is that of the normalised address. -/
def scanThenRename : World :=
  (Op.update "amal" "tablet" { macAddress := some (some "CC:CC:CC:CC:CC:CC") }).run .plain
    (((Op.discover "ga" [{ ipAddress := "192.168.1.8", macAddress := "cc:cc:cc:cc:cc:cc" }]).run
      .plain (homes.atTime 1000)).atTime 2000)

theorem current_homes : Current .plain homes.db.devices := by
  intro d hd h hh
  simp only [homes, World.fresh, Household.withDevices, List.mem_cons, List.not_mem_nil,
    or_false] at hd
  rcases hd with rfl | rfl | rfl <;> cases hh

theorem fingerprints_current_rename :
    (scanThenRename.db.devices.find "tablet").map (fun d => (d.macAddress, d.fingerprintHash)) =
      some (some "CC:CC:CC:CC:CC:CC", some "sha256:cc:cc:cc:cc:cc:cc|||") ∧
    Current .plain scanThenRename.db.devices := by
  refine ⟨by decide +kernel, fingerprints_current current_homes (.step _ 2000 ?_
    (.step _ 1000 trivial .refl))⟩
  intro d hd _ _
  have hrow : (((Op.discover "ga"
      [{ ipAddress := "192.168.1.8", macAddress := "cc:cc:cc:cc:cc:cc" }]).run .plain
      (homes.atTime 1000)).db.devices.find "tablet").map Device.macAddress =
      some (some "cc:cc:cc:cc:cc:cc") := by decide +kernel
  have hd' := congrArg (Option.map Device.macAddress) hd
  rw [show d.macAddress = some "cc:cc:cc:cc:cc:cc" from Option.some.inj (hd'.symm.trans hrow)]
  decide +kernel

/-- The hash survives an update of the MAC address it was made from. -/
theorem stale_after_update : ¬ ∀ (env : Env) (w₀ w : World), Current env w₀.db.devices →
    Reached env (fun _ _ => True) w₀ w → Current env w.db.devices := by
  intro h
  let w₁ : World := ((Op.discover "ga"
    [{ ipAddress := "192.168.1.8", macAddress := "cc:cc:cc:cc:cc:cc" }]).run .plain
      (homes.atTime 1000)).atTime 2000
  let w₂ : World :=
    (Op.update "amal" "tablet" { macAddress := some (some "dd:dd:dd:dd:dd:dd") }).run .plain w₁
  have hcur := h .plain homes w₂ current_homes (.step _ 2000 trivial (.step _ 1000 trivial .refl))
  have hrow : (w₂.db.devices.rows.all fun d =>
      d.fingerprintHash.all fun v => v = fingerprint .plain d) = false := by decide +kernel
  refine absurd hrow ?_
  rw [Bool.not_eq_false, List.all_eq_true]
  intro d hd
  rw [Option.all_eq_true]
  intro v hv
  exact decide_eq_true (hcur d hd v hv)

end GuardTime.Discovery
