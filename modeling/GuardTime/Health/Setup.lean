import Mathlib.Tactic
import GuardTime.Household
import GuardTime.Services.Protection
import GuardTime.System.Calls

/-! # The offline setup

Each request to save a checklist speaks of some of its items, and the first one makes the row. As
long as the device stays, an item holds the latest word on it (`latest_word`), whatever else the
server does, and so the status of the device counts the items last called done (`run_getStatus`). -/

namespace GuardTime.Health.Setup

open GuardTime.Lib.Program GuardTime.Lib.Keyed GuardTime.Lib.Js GuardTime.Schema GuardTime.Server
open GuardTime.Prisma GuardTime.Services GuardTime.Services.OfflineControl

/-! ### Items -/

/-- An item as the checklist has it, and the word of a request on it. -/
structure Item where
  value : Items → Bool
  word : ChecklistDto → Patch Bool
  value_over : ∀ (dto : ChecklistDto) (i : Items),
    value (dto.over i) = (word dto).overReq (value i)
  value_default : value {} = false

/-- The items in the order of the columns. -/
def allItems : List Item :=
  [⟨Items.pinEnabled, ChecklistDto.pinEnabled, fun _ _ => rfl, rfl⟩,
    ⟨Items.childAccountLinked, ChecklistDto.childAccountLinked, fun _ _ => rfl, rfl⟩,
    ⟨Items.playTimeLimitEnabled, ChecklistDto.playTimeLimitEnabled, fun _ _ => rfl, rfl⟩,
    ⟨Items.ageRatingEnabled, ChecklistDto.ageRatingEnabled, fun _ _ => rfl, rfl⟩,
    ⟨Items.purchasesBlocked, ChecklistDto.purchasesBlocked, fun _ _ => rfl, rfl⟩,
    ⟨Items.networkSettingsLocked, ChecklistDto.networkSettingsLocked, fun _ _ => rfl, rfl⟩]

theorem values_eq (i : Items) : i.values = allItems.map fun item => item.value i := rfl

/-- The items of a device; without a row nothing is ticked off. -/
def itemsOf (checklists : Checklists) (deviceId : String) : Items :=
  ((checklistOf checklists deviceId).map OfflineControlChecklist.toItems).getD {}

theorem itemsOf_none {checklists : Checklists} {deviceId : String}
    (h : checklistOf checklists deviceId = none) : itemsOf checklists deviceId = {} := by
  unfold itemsOf
  rw [h]
  rfl

theorem itemsOf_some {checklists : Checklists} {deviceId : String} {c : OfflineControlChecklist}
    (h : checklistOf checklists deviceId = some c) :
    itemsOf checklists deviceId = c.toItems := by
  unfold itemsOf
  rw [h]
  rfl

theorem completedCount_eq (checklists : Checklists) (deviceId : String) :
    completedCount (checklistOf checklists deviceId) =
      allItems.countP fun item => item.value (itemsOf checklists deviceId) := by
  unfold completedCount itemsOf
  rcases checklistOf checklists deviceId with _ | c
  · rfl
  · have hvalues : c.toItems.done =
        (allItems.map fun item => item.value c.toItems).count true := by
      unfold Items.done
      rw [values_eq]
    simp only [Option.map_some, Option.getD_some]
    rw [hvalues, List.count, List.countP_map]
    exact List.countP_congr fun item _ => by simp

/-! ### Saving -/

/-- A request to save a checklist. -/
structure Save where
  time : Time
  parentId : String
  deviceId : String
  dto : ChecklistDto

section Saving
variable {checklists checklists' : Checklists} {p d : String} {dto : ChecklistDto} {w w' : World}

/-- A new row for a device without one. -/
theorem itemsOf_insert {c : OfflineControlChecklist} (h : checklists.insert c = some checklists')
    (hnone : checklistOf checklists c.deviceId = none) (k : String) :
    itemsOf checklists' k = if k = c.deviceId then c.toItems else itemsOf checklists k := by
  obtain ⟨-, hrows⟩ := Table.insert_eq_some h
  have hlast : checklistOf checklists' k =
      (checklistOf checklists k).or (if c.deviceId = k then some c else none) := by
    unfold checklistOf
    rw [hrows, List.find?_append]
    by_cases hk : c.deviceId = k
    · simp [hk]
    · simp [hk]
  unfold itemsOf
  rw [hlast]
  split_ifs with hk hk' hk'
  · rw [hk', hnone]
    rfl
  · exact absurd hk.symm hk'
  · exact absurd hk'.symm hk
  · rw [Option.or_none]

/-- A change of the row of a device. -/
theorem itemsOf_modify {c : OfflineControlChecklist}
    {f : OfflineControlChecklist → OfflineControlChecklist} {hf : ∀ c, (f c).id = c.id}
    (hdevice : ∀ c, (f c).deviceId = c.deviceId) (hrow : checklistOf checklists d = some c)
    (k : String) : itemsOf (checklists.modify (fun r => r.id = c.id) f hf) k =
      if k = d then (f c).toItems else itemsOf checklists k := by
  have hmodify : checklistOf (checklists.modify (fun r => r.id = c.id) f hf) k =
      (checklistOf checklists k).map fun r => if decide (r.id = c.id) then f r else r := by
    unfold checklistOf
    exact Table.find?_modify fun r => by rw [hdevice]
  unfold itemsOf
  rw [hmodify]
  split_ifs with hk
  · subst hk
    rw [hrow]
    simp
  · rcases hother : checklistOf checklists k with _ | r
    · rfl
    · -- the row of another device is another row
      have hne : r.id ≠ c.id := by
        intro hsame
        have heq := Table.eq_of_key (List.mem_of_find?_eq_some hother)
          (List.mem_of_find?_eq_some hrow) hsame
        have hk' : r.deviceId = k := by simpa using List.find?_some hother
        have hd : c.deviceId = d := by simpa using List.find?_some hrow
        exact hk (by rw [← hk', heq, hd])
      simp [hne]

theorem run_findOne_ok {device : Device} (h : (Devices.findOne p d).run w = (.ok device, w')) :
    w.db.devices.find d = some device ∧ device.parentId = p ∧ w'.db = w.db :=
  run_checked_ok h

/-- **What a saved request does**: the device is its sender's, its items get the words of the
request, and no other checklist changes. -/
theorem run_upsertChecklist
    (h : (upsertChecklist checklists p d dto).run w = (.ok checklists', w')) :
    (∃ device, w.db.devices.find d = some device ∧ device.parentId = p) ∧ w'.db = w.db ∧
      ∀ k, itemsOf checklists' k =
        if k = d then dto.over (itemsOf checklists k) else itemsOf checklists k := by
  unfold upsertChecklist at h
  obtain ⟨device, w₁, hdevice, h₁⟩ := Prog.run_bind_ok.mp h
  obtain ⟨hfind, hparent, hdb⟩ := run_findOne_ok hdevice
  obtain ⟨_, w₂, hvalid, h₂⟩ := Prog.run_bind_ok.mp h₁
  obtain ⟨-, rfl⟩ := Prog.run_require_ok.mp hvalid
  obtain ⟨id, w₃, hid, h₃⟩ := Prog.run_bind_ok.mp h₂
  cases hid
  obtain ⟨now, w₄, hnow, h₄⟩ := Prog.run_bind_ok.mp h₃
  cases hnow
  refine ⟨⟨device, hfind, hparent⟩, ?_⟩
  rcases hrow : checklistOf checklists d with _ | c <;> rw [hrow] at h₄
  · obtain ⟨hinsert, rfl⟩ := Prog.run_orThrow_ok.mp h₄
    refine ⟨hdb, fun k => ?_⟩
    rw [itemsOf_insert hinsert hrow]
    split_ifs with hk
    · rw [hk, itemsOf_none hrow]
    · rfl
  · cases h₄
    refine ⟨hdb, fun k => ?_⟩
    refine (itemsOf_modify ?_ hrow k).trans ?_
    · exact fun _ => rfl
    · split_ifs with hk
      · rw [hk, itemsOf_some hrow]
      · rfl

end Saving

/-! ### Runs -/

/-- What happens on the server: a request about a checklist, or any other call. -/
inductive Move where
  | save (s : Save)
  | call (o : System.Calls.Occasion)

/-- The server with its checklists. -/
structure State where
  world : World
  checklists : Checklists

/-- The checklists of devices that are gone go with them. -/
def cascade (db : Database) (checklists : Checklists) : Checklists :=
  checklists.erase fun c => (db.devices.find c.deviceId).isNone

/-- The table a request leaves: a failed one leaves it alone. -/
def orKeep (checklists : Checklists) : Except Err Checklists → Checklists
  | .ok checklists' => checklists'
  | .error _ => checklists

/-- The answer to a request about a checklist. -/
def State.answer (S : State) (s : Save) : Except Err Checklists × World :=
  (upsertChecklist S.checklists s.parentId s.deviceId s.dto).run (S.world.atTime s.time)

section Run
variable (env : Env) (encryption : OAuth.EncryptionService) (microsoft : OAuth.Microsoft)
  (deviceId : String)

/-- One move. -/
def State.step (S : State) : Move → State
  | .save s => ⟨(S.answer s).2, orKeep S.checklists (S.answer s).1⟩
  | .call o =>
    let world := System.Calls.perform env encryption microsoft S.world o
    ⟨world, cascade world.db S.checklists⟩

/-- All moves. -/
def State.run (S : State) (moves : List Move) : State :=
  moves.foldl (State.step env encryption microsoft) S

/-- The device is there after every move. -/
def Stays : State → List Move → Prop
  | _, [] => True
  | S, m :: moves =>
    ((S.step env encryption microsoft m).world.db.devices.find deviceId).isSome ∧
      Stays (S.step env encryption microsoft m) moves

/-- What a move says about the checklist of the device: the request, if it is one and succeeds. -/
def said (S : State) : Move → List ChecklistDto
  | .save s => if s.deviceId = deviceId ∧ (S.answer s).1.isOk then [s.dto] else []
  | .call _ => []

/-- What all moves say about it. -/
def saved : State → List Move → List ChecklistDto
  | _, [] => []
  | S, m :: moves => said deviceId S m ++ saved (S.step env encryption microsoft m) moves

variable {env encryption microsoft deviceId}

/-- A device that is there keeps its checklist. -/
theorem itemsOf_cascade {db : Database} (h : (db.devices.find deviceId).isSome)
    (checklists : Checklists) :
    itemsOf (cascade db checklists) deviceId = itemsOf checklists deviceId := by
  have hrow : checklistOf (cascade db checklists) deviceId = checklistOf checklists deviceId := by
    unfold checklistOf cascade Table.erase
    rw [List.find?_filter]
    refine List.find?_congr fun c _ => ?_
    by_cases hc : c.deviceId = deviceId
    · subst hc
      have hsome : ¬ (db.devices.find c.deviceId).isNone := by
        simpa [Option.isSome_iff_ne_none] using h
      simp [hsome]
    · simp [hc]
  unfold itemsOf
  rw [hrow]

/-- **A move says what it changes.** -/
theorem itemsOf_step {S : State} {m : Move}
    (h : ((S.step env encryption microsoft m).world.db.devices.find deviceId).isSome) :
    itemsOf (S.step env encryption microsoft m).checklists deviceId =
      (said deviceId S m).foldl (fun i dto => dto.over i) (itemsOf S.checklists deviceId) := by
  cases m with
  | call o => exact itemsOf_cascade h S.checklists
  | save s =>
    change itemsOf (orKeep S.checklists (S.answer s).1) deviceId = _
    rcases hanswer : S.answer s with ⟨e | checklists', w'⟩
    · simp [said, hanswer, orKeep, Except.isOk, Except.toBool]
    · have hitems := (run_upsertChecklist hanswer).2.2 deviceId
      simp only [orKeep]
      rw [hitems]
      by_cases hd : deviceId = s.deviceId
      · simp [said, hanswer, Except.isOk, Except.toBool, hd]
      · have hd' : ¬ s.deviceId = deviceId := fun heq => hd heq.symm
        simp [said, hd, hd']

/-- **A run says what it changes.** -/
theorem itemsOf_run {moves : List Move} : ∀ {S : State},
    Stays env encryption microsoft deviceId S moves →
    itemsOf (S.run env encryption microsoft moves).checklists deviceId =
      (saved env encryption microsoft deviceId S moves).foldl (fun i dto => dto.over i)
        (itemsOf S.checklists deviceId) := by
  induction moves with
  | nil => exact fun _ => rfl
  | cons m moves ih =>
    rintro S ⟨hdevice, hstays⟩
    have hrest := ih hstays
    unfold State.run at hrest ⊢
    rw [List.foldl_cons, hrest, itemsOf_step hdevice, saved, List.foldl_append]

/-- The latest of the words on an item. -/
def latest (item : Item) (dtos : List ChecklistDto) : Option Bool :=
  (dtos.filterMap fun dto => (item.word dto).join).getLast?

theorem value_foldl (item : Item) : ∀ (dtos : List ChecklistDto) (i : Items),
    item.value (dtos.foldl (fun i dto => dto.over i) i) =
      (latest item dtos).getD (item.value i)
  | [], _ => rfl
  | dto :: dtos, i => by
    rw [List.foldl_cons, value_foldl item dtos, item.value_over]
    unfold latest Patch.overReq
    rw [List.filterMap_cons]
    rcases item.word dto with _ | _ | b
    · rfl
    · rfl
    · simp [List.getLast?_cons]

/-- **The latest word counts.** In a run in which the device stays, an item of its checklist holds
the latest word of the requests that succeed. -/
theorem latest_word {S : State} {moves : List Move}
    (h : Stays env encryption microsoft deviceId S moves) (item : Item) :
    item.value (itemsOf (S.run env encryption microsoft moves).checklists deviceId) =
      (latest item (saved env encryption microsoft deviceId S moves)).getD
        (item.value (itemsOf S.checklists deviceId)) := by
  rw [itemsOf_run h, value_foldl]

end Run

/-- A phone of `amal`, without a checklist. -/
def phoneWorld : State where
  world := World.fresh (Household.withDevices [Household.device "phone" "amal" "adam"]
    (Household.nodup_device _ _ _)) 0
  checklists := Table.empty

/-- The second request takes the first word on the PIN back; a stranger's says nothing. -/
example (env : Env) (encryption : OAuth.EncryptionService) (microsoft : OAuth.Microsoft) :
    itemsOf (phoneWorld.run env encryption microsoft
      [.save ⟨1, "amal", "phone", { pinEnabled := some (some true) }⟩,
        .save ⟨2, "amal", "phone",
          { pinEnabled := some (some false), purchasesBlocked := some (some true) }⟩,
        .save ⟨3, "basma", "phone", { ageRatingEnabled := some (some true) }⟩]).checklists
      "phone" = { purchasesBlocked := true } := rfl

/-! ### The status -/

section Status
variable {env : Env} {encryption : OAuth.EncryptionService} {microsoft : OAuth.Microsoft}
  {deviceId p : String} {w w' : World} {s : Status}

theorem run_getStatus_ok {checklists : Checklists}
    (h : (getStatus checklists p deviceId).run w = (.ok s, w')) :
    ∃ device, w.db.devices.find deviceId = some device ∧ device.parentId = p ∧
      s = status device (checklistOf checklists deviceId) := by
  unfold getStatus at h
  obtain ⟨device, w₁, hdevice, hanswer⟩ := Prog.run_bind_ok.mp h
  obtain ⟨hfind, hparent, -⟩ := run_findOne_ok hdevice
  cases hanswer
  exact ⟨device, hfind, hparent, rfl⟩

/-- **The status counts the latest words.** For a device that had no checklist before the run, the
owner is told the number of items last called done. -/
theorem run_getStatus {S : State} {moves : List Move}
    (hstays : Stays env encryption microsoft deviceId S moves)
    (hnew : checklistOf S.checklists deviceId = none)
    (h : (getStatus (S.run env encryption microsoft moves).checklists p deviceId).run w =
      (.ok s, w')) :
    s.checklistCompletedCount = allItems.countP fun item =>
      latest item (saved env encryption microsoft deviceId S moves) = some true := by
  obtain ⟨device, -, -, rfl⟩ := run_getStatus_ok h
  change completedCount _ = _
  rw [completedCount_eq]
  refine List.countP_congr fun item _ => ?_
  rw [latest_word hstays, itemsOf_none hnew, item.value_default]
  rcases latest item (saved env encryption microsoft deviceId S moves) with _ | b
  · simp
  · simp

/-- **The last advice is never reached.** A device whose items are all done needs no more of them,
so `Continue checklist items.` is said to no one. -/
theorem recommended_ne {checklists : Checklists}
    (h : (getStatus checklists p deviceId).run w = (.ok s, w')) :
    s.recommendedNextStep ≠ "Continue checklist items." := by
  obtain ⟨device, -, -, rfl⟩ := run_getStatus_ok h
  unfold status recommendNextStep
  simp only
  split_ifs with henabled hpin hchild hplay hage hbuy hnetwork hverified hrequired
  · cases device.type <;> decide
  · decide
  · decide
  · decide
  · decide
  · decide
  · decide
  · decide
  · -- all items are done, so there are four
    exfalso
    rw [Bool.not_eq_false] at henabled hpin hchild hplay hage hbuy hnetwork
    have hall : ∀ item ∈ allItems, item.value (itemsOf checklists deviceId) = true := by
      simp only [allItems, List.forall_mem_cons, List.not_mem_nil, false_implies, implies_true,
        and_true]
      exact ⟨hpin, hchild, hplay, hage, hbuy, hnetwork⟩
    have hcount : completedCount (checklistOf checklists deviceId) = 6 := by
      rw [completedCount_eq]
      exact List.countP_eq_length.mpr hall
    simp [henabled, hcount] at hrequired
  · decide

end Status

end GuardTime.Health.Setup
