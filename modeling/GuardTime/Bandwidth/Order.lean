import Mathlib.Tactic
import GuardTime.Lib.LastWins
import GuardTime.Services.Gateway
import GuardTime.System.Run
import GuardTime.Household

/-! # Bandwidth limits and row order

`getPolicies` loads the limits of a gateway's devices without an order and keeps one for each
category: limits of the device over limits of its child, and inside these the last one. Nothing
keeps a parent from making two limits for one target and category, so which of them is enforced may
depend on the order of the rows; it does not exactly when the limits that can be the one kept have
the same rates (`bandwidth_order_free_iff`). -/

namespace GuardTime.Bandwidth.Order

open GuardTime.Lib.Program GuardTime.Lib.Keyed GuardTime.Lib.Js GuardTime.Lib.LastWins
open GuardTime.Schema GuardTime.Server GuardTime.Prisma GuardTime.Services
open GuardTime.Services.Gateways

/-! ### Resolving limits -/

/-- The limit is for the child of the device. -/
def ofChild (d : Device) (l : BandwidthLimit) : Bool :=
  (truthy l.childId).isSome && (truthy l.deviceId).isNone && l.childId = d.childId

/-- The limit is for the device. -/
def ofDevice (d : Device) (l : BandwidthLimit) : Bool := l.deviceId = some d.id

/-- What the gateway is told of a limit. -/
def entry (l : BandwidthLimit) : BandwidthEntry := ⟨l.category, l.downloadKbps, l.uploadKbps⟩

theorem setCategory_eq (l : BandwidthLimit) (ls : List BandwidthLimit) :
    setCategory l ls = put BandwidthLimit.category l ls := by
  induction ls with
  | nil => rfl
  | cons l' ls ih => simp only [setCategory, put, ih]

theorem resolve_eq (d : Device) (ls : List BandwidthLimit) : resolveBandwidthLimits d ls =
    (collect BandwidthLimit.category (layered (ofChild d) (ofDevice d) ls)).map entry := by
  simp only [resolveBandwidthLimits, setCategory_eq]
  rfl

/-! ### Polls -/

/-- `loadBandwidthLimits` asks for the limit. -/
def asked (devices : List Device) (l : BandwidthLimit) : Bool := l.enabled &&
  (l.deviceId.any (fun i => i ∈ devices.map Device.id) ||
    l.childId.any fun i => i ∈ devices.filterMap fun d => truthy d.childId)

theorem asked_congr {ds ds' : List Device} (h : ∀ d, d ∈ ds ↔ d ∈ ds') : asked ds = asked ds' := by
  funext l
  have hids : ∀ i, i ∈ ds.map Device.id ↔ i ∈ ds'.map Device.id := by simp [h]
  have hchildren : ∀ i, i ∈ ds.filterMap (fun d => truthy d.childId) ↔
      i ∈ ds'.filterMap fun d => truthy d.childId := by simp [h]
  simp only [asked, hids, hchildren]

/-- The entries for the device in the answer of a poll. -/
def entriesFor (id : String) : Except Err Policies → List BandwidthEntry
  | .ok p => ((p.devices.find? fun x => x.deviceId = id).map (·.bandwidthLimits)).getD []
  | .error _ => []

/-- The devices of the gateway. -/
def devicesOf (g : String) (db : Database) : List Device :=
  db.devices.rows.filter fun d => d.gatewayId = some g

section Polls
variable {env : Env} {w : World} {g : String} {k : Gateway} {d : Device} {used : Bool}
  {version : Option String}

theorem find_devicePolicy {ds : List Device} (hd : d ∈ ds) (hids : (ds.map Device.id).Nodup)
    (limits : List BandwidthLimit) :
    (ds.map (devicePolicy limits)).find? (fun x => x.deviceId = d.id) =
      some (devicePolicy limits d) := by
  rw [List.find?_map]
  have hfind : (ds.find? fun x => x.id = d.id) = some d := by
    rcases hf : ds.find? fun x => decide (x.id = d.id) with _ | d'
    · exact absurd (List.find?_eq_none.mp hf d hd) (by simp)
    · have hid : d'.id = d.id := by simpa using List.find?_some hf
      exact hf.trans (congrArg some
        (List.inj_on_of_nodup_map hids (List.mem_of_find?_eq_some hf) hd hid))
  exact congrArg (Option.map (devicePolicy limits)) hfind

/-- The write of the last contact leaves the limits and the coming choices alone. -/
theorem run_contact (g : String) (f : Gateway → Gateway) (hf : ∀ k, (f k).id = k.id) (w : World) :
    ∃ w', (ignoreErrors (do
      let _ ← Prisma.update .gateway g f hf
      pure ())).run w = (.ok (), w') ∧
      w'.db.bandwidthLimits = w.db.bandwidthLimits ∧ w'.calls = w.calls + 1 ∧ w'.tape = w.tape := by
  rw [ignoreErrors, Prog.run_catchErr, Prog.run_bind]
  rcases run_update_cases .gateway g f hf w with ⟨e, hrun⟩ | ⟨r, -, hrun⟩ <;> rw [hrun]
  · exact ⟨_, rfl, rfl, rfl, rfl⟩
  · exact ⟨_, rfl, rfl, rfl, rfl⟩

theorem run_updateLastSeen (g : String) (version : Option String) (w : World) : ∃ w',
    (ignoreErrors (updateLastSeen g version)).run w = (.ok (), w') ∧
      w'.db.bandwidthLimits = w.db.bandwidthLimits ∧ w'.calls = w.calls + 1 ∧ w'.tape = w.tape :=
  run_contact g _ _ w

theorem load_eq {ds : List Device} (hne : ds ≠ []) (w : World) :
    ((loadBandwidthLimits ds).run w).1 =
    .ok (arrange (w.tape w.calls) (w.db.bandwidthLimits.rows.filter (asked ds))) := by
  rw [loadBandwidthLimits, if_neg hne]
  rfl

/-- A poll loads the limits of the devices of the gateway once and resolves them for each device. -/
theorem getPolicies_loads (env : Env) (used : Bool) (version : Option String)
    (hk : w.db.gateways.find g = some k) : ∃ ds w₁ loaded w₂ p w',
      ds.Perm (devicesOf g w.db) ∧ w₁.db.bandwidthLimits = w.db.bandwidthLimits ∧
      w₁.calls = w.calls + 2 ∧ w₁.tape = w.tape ∧
      (loadBandwidthLimits ds).run w₁ = (.ok loaded, w₂) ∧
      (getPolicies env g used version).run w = (.ok p, w') ∧
      p.devices = ds.map (devicePolicy loaded) := by
  obtain rfl : k.id = g := Table.key_of_find hk
  obtain ⟨w₁, hseen, hlimits, hcalls, htape⟩ :=
    run_updateLastSeen k.id version (World.afterCall w w.db)
  obtain ⟨loaded, w₂, hload⟩ : ∃ loaded w₂, (loadBandwidthLimits (matching .device w.db
      (w.tape w.calls) fun d => d.gatewayId = some k.id)).run w₁ = (.ok loaded, w₂) := by
    unfold loadBandwidthLimits
    split_ifs
    · exact ⟨_, _, rfl⟩
    · exact ⟨_, _, rfl⟩
  obtain ⟨p, w', hrun, hp⟩ : ∃ p w', (getPolicies env k.id used version).run w = (.ok p, w') ∧
      p.devices = (matching .device w.db (w.tape w.calls) fun d => d.gatewayId = some k.id).map
        (devicePolicy loaded) := by
    rw [getPolicies, Prog.run_bind, run_findWithDevices hk]
    simp only []
    rw [Prog.run_bind, hseen]
    simp only []
    rw [Prog.run_bind, hload]
    exact ⟨_, _, rfl, rfl⟩
  exact ⟨_, w₁, loaded, w₂, p, w', arrange_perm _ _, hlimits, hcalls, htape, hload, hrun, hp⟩

/-- What a poll says about a device of the gateway. -/
theorem entriesFor_getPolicies (hk : w.db.gateways.find g = some k) (hd : d ∈ devicesOf g w.db) :
    entriesFor d.id ((getPolicies env g used version).run w).1 = resolveBandwidthLimits d
      (arrange (w.tape (w.calls + 2))
        (w.db.bandwidthLimits.rows.filter (asked (devicesOf g w.db)))) := by
  obtain ⟨ds, w₁, loaded, w₂, p, w', hperm, hlimits, hcalls, htape, hload, hrun, hp⟩ :=
    getPolicies_loads env used version hk
  have hmem := hperm.mem_iff.mpr hd
  have hids : (ds.map Device.id).Nodup := by
    refine (hperm.map Device.id).nodup_iff.mpr ?_
    exact (List.Sublist.map _ List.filter_sublist).nodup w.db.devices.nodup
  have hrows := load_eq (List.ne_nil_of_mem hmem) w₁
  rw [hload, htape, hcalls, hlimits, asked_congr fun d => hperm.mem_iff] at hrows
  rw [hrun, ← Except.ok.inj hrows]
  have hfind := find_devicePolicy hmem hids loaded
  rw [← hp] at hfind
  exact congrArg (fun o => (o.map DevicePolicy.bandwidthLimits).getD []) hfind

end Polls

/-! ### Order -/

/-- The limit can be the one kept for its category: it is enabled, and for the device, or for its
child when the device has none for the category. -/
def Candidate (db : Database) (d : Device) (l : BandwidthLimit) : Prop :=
  l ∈ db.bandwidthLimits.rows ∧ l.enabled = true ∧ (ofDevice d l = true ∨ ofChild d l = true ∧
    ∀ l' ∈ db.bandwidthLimits.rows, l'.enabled = true → ofDevice d l' = true →
      l'.category ≠ l.category)

instance (db : Database) (d : Device) (l : BandwidthLimit) : Decidable (Candidate db d l) :=
  inferInstanceAs (Decidable (_ ∧ _ ∧ (_ ∨ _ ∧ _)))

/-- The limits that can be kept for one category have the same rates. -/
def Unambiguous (db : Database) (d : Device) : Prop :=
  ∀ l l', Candidate db d l → Candidate db d l' →
  l.category = l'.category → l.downloadKbps = l'.downloadKbps ∧ l.uploadKbps = l'.uploadKbps

/-- Whatever orders the queries of two polls answer in, the polls say the same about the device. -/
def OrderFree (env : Env) (w : World) (g : String) (used : Bool) (version : Option String)
    (d : Device) : Prop := ∀ (tape tape' : ℕ → ℕ) (e : BandwidthEntry),
  e ∈ entriesFor d.id ((getPolicies env g used version).run { w with tape := tape }).1 ↔
    e ∈ entriesFor d.id ((getPolicies env g used version).run { w with tape := tape' }).1

theorem asked_iff {ds : List Device} {d : Device} {l : BandwidthLimit} (hd : d ∈ ds)
    (hl : ofDevice d l = true ∨ ofChild d l = true) : asked ds l = true ↔ l.enabled = true := by
  rw [asked, Bool.and_eq_true, and_iff_left_iff_imp]
  intro _
  rcases hl with hl | hl
  · have hid : l.deviceId = some d.id := of_decide_eq_true hl
    simp only [hid, Option.any_some, Bool.or_eq_true, decide_eq_true_eq]
    exact .inl (List.mem_map_of_mem hd)
  · simp only [ofChild, Bool.and_eq_true, decide_eq_true_eq] at hl
    obtain ⟨⟨htruthy, -⟩, hchild⟩ := hl
    obtain ⟨c, hc⟩ := Option.isSome_iff_exists.mp htruthy
    have hsome : l.childId = some c := (Option.filter_eq_some_iff.mp hc).1
    simp only [hsome, Option.any_some, Bool.or_eq_true, decide_eq_true_eq]
    exact .inr (List.mem_filterMap.mpr ⟨d, hd, by rw [← hchild, hc]⟩)

theorem effective_iff {db : Database} {ds : List Device} {d : Device} {l : BandwidthLimit}
    (hd : d ∈ ds) : Effective BandwidthLimit.category (ofChild d) (ofDevice d)
      (db.bandwidthLimits.rows.filter (asked ds)) l ↔ Candidate db d l := by
  have hasked : ∀ l', ofDevice d l' = true ∨ ofChild d l' = true →
      (l' ∈ db.bandwidthLimits.rows.filter (asked ds) ↔
        l' ∈ db.bandwidthLimits.rows ∧ l'.enabled = true) := fun l' hl' => by
    rw [List.mem_filter, asked_iff hd hl']
  constructor
  · rintro ⟨hmem, hlayer⟩
    obtain ⟨hrow, hon⟩ := (hasked l (hlayer.imp id And.left)).mp hmem
    refine ⟨hrow, hon, hlayer.imp id fun h => ⟨h.1, fun l' hl' hon' hdevice => ?_⟩⟩
    exact h.2 l' ((hasked l' (.inl hdevice)).mpr ⟨hl', hon'⟩) hdevice
  · rintro ⟨hrow, hon, hlayer⟩
    refine ⟨(hasked l (hlayer.imp id And.left)).mpr ⟨hrow, hon⟩, hlayer.imp id fun h =>
      ⟨h.1, fun l' hl' hdevice => ?_⟩⟩
    obtain ⟨hrow', hon'⟩ := (hasked l' (.inl hdevice)).mp hl'
    exact h.2 l' hrow' hon' hdevice

/-- **When the enforced bandwidth depends on row order.** The entries a gateway gets for one of its
devices are the same in all orders of the rows exactly when the limits that can be kept for one
category have the same rates. -/
theorem bandwidth_order_free_iff (env : Env) (w : World) (used : Bool) (version : Option String)
    {g : String} {k : Gateway} {d : Device} (hk : w.db.gateways.find g = some k)
    (hd : d ∈ w.db.devices.rows) (hg : d.gatewayId = some g) :
    OrderFree env w g used version d ↔ Unambiguous w.db d := by
  have hdevice : d ∈ devicesOf g w.db := List.mem_filter.mpr ⟨hd, by simpa using hg⟩
  have hval : ∀ l l', entry l = entry l' → l.category = l'.category := fun l l' h =>
    congrArg BandwidthEntry.category h
  have hfree := order_free_iff BandwidthLimit.category (ofChild d) (ofDevice d) hval
    (l := w.db.bandwidthLimits.rows.filter (asked (devicesOf g w.db)))
  have hpoll : ∀ tape : ℕ → ℕ,
      entriesFor d.id ((getPolicies env g used version).run { w with tape := tape }).1 =
        (collect BandwidthLimit.category (layered (ofChild d) (ofDevice d)
          (arrange (tape (w.calls + 2))
            (w.db.bandwidthLimits.rows.filter (asked (devicesOf g w.db)))))).map entry :=
    fun tape => (entriesFor_getPolicies (w := { w with tape := tape }) hk hdevice).trans
      (resolve_eq d _)
  have horders : OrderFree env w g used version d ↔ ∀ l' l'',
      l'.Perm (w.db.bandwidthLimits.rows.filter (asked (devicesOf g w.db))) →
      l''.Perm (w.db.bandwidthLimits.rows.filter (asked (devicesOf g w.db))) → ∀ v,
        v ∈ (collect BandwidthLimit.category (layered (ofChild d) (ofDevice d) l')).map entry ↔
        v ∈ (collect BandwidthLimit.category (layered (ofChild d) (ofDevice d) l'')).map entry := by
    constructor
    · intro h l' l'' hl' hl'' v
      obtain ⟨n, rfl⟩ := exists_arrange hl'
      obtain ⟨n', rfl⟩ := exists_arrange hl''
      have hsame := h (fun _ => n) (fun _ => n') v
      rw [hpoll, hpoll] at hsame
      exact hsame
    · intro h tape tape' e
      rw [hpoll, hpoll]
      exact h _ _ (arrange_perm _ _) (arrange_perm _ _) e
  rw [horders, hfree]
  constructor
  · intro h l l' hl hl' hcategory
    have hentry := h l l' ((effective_iff hdevice).mpr hl)
      ((effective_iff hdevice).mpr hl') hcategory
    exact ⟨congrArg BandwidthEntry.downloadKbps hentry, congrArg BandwidthEntry.uploadKbps hentry⟩
  · intro h l l' hl hl' hcategory
    obtain ⟨hdown, hup⟩ :=
      h l l' ((effective_iff hdevice).mp hl) ((effective_iff hdevice).mp hl') hcategory
    simp only [entry, hcategory, hdown, hup]

/-! ### A phone with limits -/

/-- A phone behind the gateway. -/
def phone : Device := { Household.device "phone" "amal" "adam" with gatewayId := some "ga" }

/-- The household of the phone, without limits. -/
def home : World := .fresh (Household.withDevices [phone] (by simp)) 0

/-- The parent limits the downloads of the phone. -/
def limit (kbps : ℤ) : System.Run.Step :=
  ⟨1, .createLimit "amal" { deviceId := some "phone", downloadKbps := some (some kbps) }⟩

/-- The phone behind the gateway after the steps. -/
theorem phone_home (steps : List System.Run.Step)
    (h : (((System.Run.run .plain home steps).db.devices.find "phone").map Device.gatewayId,
      ((System.Run.run .plain home steps).db.gateways.find "ga").isSome) = (some (some "ga"),
        true)) :
    ∃ k d, (System.Run.run .plain home steps).db.gateways.find "ga" = some k ∧
      d ∈ (System.Run.run .plain home steps).db.devices.rows ∧ d.gatewayId = some "ga" ∧
      d.id = "phone" := by
  obtain ⟨hphone, hgateway⟩ := Prod.mk.inj h
  obtain ⟨d, hd, hg⟩ := Option.map_eq_some_iff.mp hphone
  obtain ⟨k, hk⟩ := Option.isSome_iff_exists.mp hgateway
  exact ⟨k, d, hk, Table.mem_of_find hd, hg, Table.key_of_find hd⟩

/-- Limits of the phone, and of its child: for everything, where the phone has its own, and for
streaming. -/
def severalLimits : List System.Run.Step :=
  [limit 1000,
    ⟨1, .createLimit "amal" { childId := some "adam", downloadKbps := some (some 3000) }⟩,
    ⟨2, .createLimit "amal"
      { deviceId := some "phone", category := some .gaming, downloadKbps := some (some 500) }⟩,
    ⟨3, .createLimit "amal"
      { childId := some "adam", category := some .streaming, uploadKbps := some (some 200) }⟩]

theorem order_free_several_limits : ∃ d, d.id = "phone" ∧
    OrderFree .plain (System.Run.run .plain home severalLimits) "ga" false none d := by
  obtain ⟨k, d, hk, hd, hg, hid⟩ := phone_home severalLimits (by decide +kernel)
  refine ⟨d, hid, (bandwidth_order_free_iff .plain _ false none hk hd hg).mpr ?_⟩
  have hall : ∀ d ∈ (System.Run.run .plain home severalLimits).db.devices.rows,
      ∀ l ∈ (System.Run.run .plain home severalLimits).db.bandwidthLimits.rows,
      ∀ l' ∈ (System.Run.run .plain home severalLimits).db.bandwidthLimits.rows,
      Candidate (System.Run.run .plain home severalLimits).db d l →
      Candidate (System.Run.run .plain home severalLimits).db d l' → l.category = l'.category →
      l.downloadKbps = l'.downloadKbps ∧ l.uploadKbps = l'.uploadKbps := by
    decide +kernel
  intro l l' hl hl' hcategory
  exact hall d hd l hl.1 l' hl'.1 hl hl' hcategory

/-- Two limits for one phone: which of them the gateway gets depends on the order of the rows. -/
theorem order_decides : ¬ ∀ (env : Env) (w : World) (steps : List System.Run.Step) (g : String)
    (k : Gateway) (d : Device), (System.Run.run env w steps).db.gateways.find g = some k →
    d ∈ (System.Run.run env w steps).db.devices.rows → d.gatewayId = some g →
    ∀ used version, OrderFree env (System.Run.run env w steps) g used version d := by
  intro h
  obtain ⟨k, d, hk, hd, hg, hid⟩ := phone_home [limit 1000, limit 2000] (by decide +kernel)
  have hfree := h .plain home [limit 1000, limit 2000] "ga" k d hk hd hg false none (fun _ => 0)
    (fun _ => 1) ⟨none, some 1000, none⟩
  rw [hid] at hfree
  exact absurd hfree (by decide +kernel)

end GuardTime.Bandwidth.Order
