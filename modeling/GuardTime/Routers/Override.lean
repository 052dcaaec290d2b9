import Mathlib.Tactic
import GuardTime.Lib.Runs
import GuardTime.Secrets.Credentials
import GuardTime.Household

/-! # Confirmed vendors

`RouterIntegrationService.setup` stores the vendor a parent has confirmed, and
`RouterDetectionService.recordDetection` stores the vendor an agent has recognised, in the same row.
Reports leave the credentials alone and write their own vendor over the confirmed one, so what
`setup` stored is kept exactly as long as every report recognises the confirmed vendor itself
(`confirmed_kept_iff`). -/

namespace GuardTime.Routers.Override

open GuardTime.Lib.Program GuardTime.Lib.Keyed GuardTime.Lib.Js GuardTime.Lib.Runs GuardTime.Schema
open GuardTime.Server GuardTime.Prisma GuardTime.Services GuardTime.Services.RouterDatabase
open GuardTime.Services.RouterIntegration GuardTime.Services.RouterDetection
open GuardTime.Secrets.Credentials (readable)

/-- The row of the gateway. -/
def routerOf (g : String) (db : Database) : Option DetectedRouter :=
  db.detectedRouters.rows.find? fun r => r.gatewayId = g

/-- A report with its time. -/
structure Arrival where
  time : Time
  report : RouterDetectionReport

/-- The world after a report. -/
def record (g : String) (w : World) (a : Arrival) : World :=
  ((recordDetection g a.report).run (w.atTime a.time)).2

/-- The status `setup` stores for a vendor. -/
def statusOf (v : String) : RouterIntegrationStatus :=
  ((capabilitiesOf (some v)).map (·.flags.integrationStatus)).getD .undetected

/-- The gateway is there and has a row with the vendor, its status and the credentials. -/
def Confirmed (g v credentials : String) (db : Database) : Prop :=
  (db.gateways.find g).isSome ∧ ∃ r, routerOf g db = some r ∧ r.pluginId = some v ∧
    r.integrationStatus = statusOf v ∧
    r.adminCredentialsEncrypted = some credentials

/-! ### Reports -/

/-- The row after a report. -/
def reported (report : RouterDetectionReport) (now : Time) (r : DetectedRouter) : DetectedRouter :=
  { r with
    vendor := report.vendor, model := report.model, firmwareVersion := report.firmwareVersion
    pluginId := resolveVendorNameToPluginId report.vendor
    integrationStatus := (((resolveVendorNameToPluginId report.vendor).bind getCapabilities).map
      (·.integrationStatus)).getD .undetected
    detectionMethod := report.detectionMethod, confidence := report.confidence
    macOui := report.macOui, ipAddress := report.ipAddress, hostname := report.hostname
    lastDetectedAt := some now, updatedAt := now }

section Reports
variable {g v credentials : String} {w : World} {a : Arrival}

/-- The row of a gateway after a change of it that keeps its gateway. -/
theorem routerOf_patch {r : DetectedRouter} {f : DetectedRouter → DetectedRouter}
    {hf : ∀ r, (f r).id = r.id} {now : Time} {db : Database} (h : routerOf g db = some r)
    (hg : ∀ r, (f r).gatewayId = r.gatewayId) :
    routerOf g (Model.detectedRouter.set db
      (Model.detectedRouter.patch db.detectedRouters now r.id f hf)) =
        some (Model.detectedRouter.touch now (f r)) := by
  have hpatch : (Model.detectedRouter.patch db.detectedRouters now r.id f hf).rows.find?
      (fun r' => r'.gatewayId = g) = (db.detectedRouters.rows.find? fun r' => r'.gatewayId = g).map
        fun r' => if decide (r'.id = r.id) then Model.detectedRouter.touch now (f r') else r' :=
    Table.find?_modify fun r' => congrArg (fun x => decide (x = g)) (hg r')
  have hfind : (db.detectedRouters.rows.find? fun r => decide (r.gatewayId = g)) = some r := h
  rw [hfind, Option.map_some, if_pos (by simp)] at hpatch
  exact hpatch

/-- A report to a gateway that has a row. -/
theorem routerOf_record {k : Gateway} {r : DetectedRouter} (hk : w.db.gateways.find g = some k)
    (hr : routerOf g w.db = some r) :
    routerOf g (record g w a).db = some (reported a.report a.time r) ∧
      (record g w a).db.gateways.find g = some k := by
  have hget : (Model.gateway.get (w.atTime a.time).db).find g = some k := hk
  have hdb : (record g w a).db = Model.detectedRouter.set w.db (Model.detectedRouter.patch
      w.db.detectedRouters a.time r.id (fun r =>
        { reported a.report a.time r with updatedAt := r.updatedAt }) fun _ => rfl) := by
    simp only [record, recordDetection, Prog.run_bind, run_findUnique, hget]
    refine congrArg (fun x : Except Err DetectedRouter × World => x.2.db)
      (run_upsert_found (m := .detectedRouter)
        (w := World.afterCall (w.atTime a.time) w.db) hr ?_ ?_)
    · rfl
    · rfl
  rw [hdb]
  exact ⟨routerOf_patch hr fun _ => rfl, hk⟩

/-- Both services know the same vendors. -/
theorem statusOf_eq (hv : v ≠ "") :
    statusOf v = ((getCapabilities v).map (·.integrationStatus)).getD .undetected := by
  rw [statusOf, capabilitiesOf, truthy_some hv]
  rcases hc : getCapabilities v with _ | c
  · simp [hc]
  · simp [hc]

/-- A report keeps what was confirmed exactly when it recognises the same vendor. -/
theorem confirmed_record (h : Confirmed g v credentials w.db) (hv : v ≠ "") :
    Confirmed g v credentials (record g w a).db ↔
      resolveVendorNameToPluginId a.report.vendor = some v := by
  obtain ⟨hgateway, r, hr, -, -, hcreds⟩ := h
  obtain ⟨k, hk⟩ := Option.isSome_iff_exists.mp hgateway
  obtain ⟨hrow, hk'⟩ := @routerOf_record g w a k r hk hr
  constructor
  · rintro ⟨-, r', hr', hplugin, -⟩
    obtain rfl := Option.some.inj (hrow.symm.trans hr')
    exact hplugin
  · intro hsame
    refine ⟨by rw [hk']; rfl, _, hrow, hsame, ?_, hcreds⟩
    simp only [reported, hsame, Option.bind_some, statusOf_eq hv]

end Reports

/-! ### Setup -/

section Setup
variable {encryption : OAuth.EncryptionService} {p g v : String} {dto : RouterSetupDto}

theorem encrypt_same {text : Option String} {c : String} {w w' : World}
    (h : (OAuth.encrypt encryption text).run w = (.ok c, w')) : w'.db = w.db := by
  have hkeeps : Prog.Keeps (OnDb fun db => db = w.db) (OAuth.encrypt encryption text) :=
    .bind (.orThrow _ _) fun _ => .bind (keeps_randomUUID (steady_onDb _)) fun _ => .pure _
  have hdb := hkeeps w rfl
  rw [h] at hdb
  exact hdb

/-- The row is updated or made with the vendor and the credentials. -/
theorem confirmed_upsert {credentials : String} {vendor : Option String} {w w' : World}
    {row : DetectedRouter} (hv : truthy vendor = some v) (hk : (w.db.gateways.find g).isSome)
    (h : (Prisma.upsert .detectedRouter (fun r => r.gatewayId = g)
      (saveCredentials vendor (statusOf v) credentials)
      (newRouter g vendor (statusOf v) credentials)).run w = (.ok row, w')) :
    Confirmed g v credentials w'.db := by
  obtain rfl : vendor = some v := (Option.filter_eq_some_iff.mp hv).1
  rcases run_upsert_cases .detectedRouter (fun r => r.gatewayId = g)
      (saveCredentials (some v) (statusOf v) credentials)
      (newRouter g (some v) (statusOf v) credentials) (fun _ => rfl) w with
    ⟨e, hrun⟩ | ⟨r, hr, hrun⟩ | ⟨t, hnone, ht, hrun⟩
  · rw [hrun] at h
    cases h
  · have hw' : World.afterCall w (Model.detectedRouter.set w.db (Model.detectedRouter.patch
        w.db.detectedRouters w.now r.id (saveCredentials (some v) (statusOf v) credentials)
        fun _ => rfl)) = w' := congrArg Prod.snd (hrun.symm.trans h)
    rw [← hw']
    refine ⟨hk, _, routerOf_patch hr fun _ => rfl, ?_, ?_, rfl⟩
    · simp [Model.detectedRouter, saveCredentials, hv]
    · simp [Model.detectedRouter, saveCredentials, hv]
  · have hw' : World.afterCall w (Model.detectedRouter.set w.db t) = w' :=
      congrArg Prod.snd (hrun.symm.trans h)
    rw [← hw']
    refine ⟨hk, newRouter g (some v) (statusOf v) credentials (w.uuids w.calls 0) w.now, ?_, rfl,
      rfl, rfl⟩
    change t.rows.find? (fun r => r.gatewayId = g) = _
    have hnone' : (w.db.detectedRouters.rows.find? fun r => decide (r.gatewayId = g)) =
      none := hnone
    have hrows : t.rows = w.db.detectedRouters.rows ++ _ := (Table.insert_eq_some ht).2
    rw [hrows, List.find?_append, hnone']
    simp [newRouter]

/-- What `setup` leaves when it succeeds with a vendor. -/
theorem confirmed_setup {w w₁ : World} {command : String} (hv : truthy dto.vendorPluginId = some v)
    (h : (setup encryption p g dto).run w = (.ok command, w₁)) :
    ∃ credentials, Confirmed g v credentials w₁.db := by
  obtain ⟨k, v₁, h1, h⟩ := Prog.run_bind_ok.mp h
  obtain ⟨credentials, v₂, h2, h⟩ := Prog.run_bind_ok.mp h
  obtain ⟨row, v₃, h3, h⟩ := Prog.run_bind_ok.mp h
  obtain ⟨c, v₄, h4, h⟩ := Prog.run_bind_ok.mp h
  obtain ⟨hk, -, hv₁⟩ := Gateways.run_findOwned_ok h1
  have hv₂ : v₂.db = w.db := (encrypt_same h2).trans hv₁
  have hconfirmed : Confirmed g v credentials v₃.db := by
    rw [← hv₂] at hk
    have hvendor : dto.vendorPluginId = some v := (Option.filter_eq_some_iff.mp hv).1
    rw [hvendor] at hv h3
    exact confirmed_upsert hv (by rw [hk]; rfl) h3
  have hcommand : Prog.Keeps (OnDb (Confirmed g v credentials))
      (RouterCommands.enqueueCommand g .testConnection (some (.obj [])) none) :=
    have hfree : Free .routerCommand (OnDb (Confirmed g v credentials)) := fun _ _ hw => hw
    hfree.create (steady_onDb _) _
  have hend := hcommand v₃ hconfirmed
  rw [h4] at hend
  cases h
  exact ⟨credentials, hend⟩

/-- **Confirmed vendors and reports.** After `setup` with a vendor the row of the gateway has the
vendor, its status and the credentials, and it keeps them through a sequence of reports exactly when
every report recognises the confirmed vendor. -/
theorem confirmed_kept_iff {w w₁ : World} {command : String}
    (hv : truthy dto.vendorPluginId = some v)
    (hsetup : (setup encryption p g dto).run w = (.ok command, w₁)) (arrivals : List Arrival) :
    ∃ credentials, Confirmed g v credentials w₁.db ∧
      ((∀ as, as <+: arrivals → Confirmed g v credentials (as.foldl (record g) w₁).db) ↔
        ∀ a ∈ arrivals, resolveVendorNameToPluginId a.report.vendor = some v) := by
  obtain ⟨credentials, hconfirmed⟩ := confirmed_setup hv hsetup
  have hne : v ≠ "" := by simpa using (Option.filter_eq_some_iff.mp hv).2
  have hruns : (∀ as, as <+: arrivals → Confirmed g v credentials (as.foldl (record g) w₁).db) ↔
      Steps (record g) (fun _ a => resolveVendorNameToPluginId a.report.vendor = some v) w₁
        arrivals :=
    foldl_iff_steps (I := fun w : World => Confirmed g v credentials w.db)
      (fun _ _ h => confirmed_record h hne) hconfirmed
  refine ⟨credentials, hconfirmed, hruns.trans ⟨fun h a ha => ?_, fun h as a as' has => ?_⟩⟩
  · obtain ⟨as, as', rfl⟩ := List.append_of_mem ha
    exact h as a as' rfl
  · exact h a (by simp [has])

end Setup

/-- The households with their gateways. -/
def homes : World := .fresh (Household.withDevices [] List.nodup_nil) 0

/-- A parent confirms a router that can be controlled. -/
def confirmation : RouterSetupDto := { vendorPluginId := some "mikrotik", username := some "admin" }

theorem run_confirmation : ∃ command w₁, (setup readable "amal" "ga" confirmation).run homes =
    (.ok command, w₁) := by
  have hok : ((setup readable "amal" "ga" confirmation).run homes).1.isOk = true := by
    decide +kernel
  rcases hr : (setup readable "amal" "ga" confirmation).run homes with ⟨e | command, w₁⟩
  · rw [hr] at hok
    cases hok
  · exact ⟨command, w₁, rfl⟩

/-- Reports that name the vendor keep what was confirmed. -/
theorem confirmed_kept_named : ∃ credentials, Confirmed "ga" "mikrotik" credentials
    ([⟨1, { vendor := some "MikroTik" }⟩, ⟨2, { vendor := some "mikrotik" }⟩].foldl (record "ga")
      ((setup readable "amal" "ga" confirmation).run homes).2).db := by
  obtain ⟨command, w₁, hrun⟩ := run_confirmation
  obtain ⟨credentials, -, hiff⟩ := confirmed_kept_iff (v := "mikrotik") (by decide) hrun
    [⟨1, { vendor := some "MikroTik" }⟩, ⟨2, { vendor := some "mikrotik" }⟩]
  rw [hrun]
  refine ⟨credentials, hiff.mpr (fun a ha => ?_) _ List.prefix_rfl⟩
  fin_cases ha <;> decide +kernel

/-- A report without a vendor takes the confirmed one away. -/
theorem confirmed_lost : ¬ ∀ (encryption : OAuth.EncryptionService) (p g v : String)
    (dto : RouterSetupDto) (w w₁ : World) (command : String), truthy dto.vendorPluginId = some v →
    (setup encryption p g dto).run w = (.ok command, w₁) → ∀ arrivals : List Arrival,
    ∃ credentials, Confirmed g v credentials (arrivals.foldl (record g) w₁).db := by
  intro h
  have hplugin : (routerOf "ga" ([⟨1, {}⟩].foldl (record "ga")
      ((setup readable "amal" "ga" confirmation).run homes).2).db).map DetectedRouter.pluginId =
        some none := by decide +kernel
  obtain ⟨command, w₁, hrun⟩ := run_confirmation
  obtain ⟨credentials, -, r, hr, hv, -⟩ := h readable "amal" "ga" "mikrotik" confirmation homes w₁
    command (by decide) hrun [⟨1, {}⟩]
  rw [hrun, hr, Option.map_some, hv] at hplugin
  cases hplugin

end GuardTime.Routers.Override
