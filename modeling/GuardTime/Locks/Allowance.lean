import Mathlib.Tactic
import GuardTime.Locks.Bedtime

/-! # The daily limit of a device

A pass of `enforceDeviceSchedules` turns on the `GAMING` block of a child when one of its devices
has reached its daily limit. It skips a limit of `0` as if there were none, and nothing turns the
block off again.

* `Marked`: what a pass may do to the blocks, for the children it blocks;
* `marked_turn`, `marked_pass`: one device, and a whole pass;
* `limit_enforced_iff`: the blocks after a pass are those of the children with a device at its limit
  exactly when no limit is `0` and no block is left over from another day. -/

namespace GuardTime.Locks.Allowance

open GuardTime.Lib.Program GuardTime.Lib.Keyed GuardTime.Lib.Js GuardTime.Schema GuardTime.Server
open GuardTime.Prisma GuardTime.Services

/-! ### Limits and blocks -/

/-- The minutes of the device's sessions of the day. -/
def used (env : Env) (now : Time) (db : Database) (d : Device) : ℤ :=
  Scheduler.sumDurations d.id (env.zone.startOfDay now) db

/-- The device has reached its limit. -/
def AtLimit (env : Env) (now : Time) (db : Database) (d : Device) : Prop :=
  ∃ limit, d.dailyLimitMinutes = some limit ∧ limit ≤ used env now db d

/-- A pass at the time locks the device for its bedtime. -/
def locksForBedtime (env : Env) (now : Time) (d : Device) : Bool :=
  Scheduler.inBedtime (Scheduler.currentTime env now) d && !d.internetLocked

/-- The row is the `GAMING` block of the child. -/
def GamingOf (c : String) (b : CategoryBlock) : Prop := b.childId = c ∧ b.category = .gaming

/-- The `GAMING` block of the child is on. -/
def Blocked (T : Table CategoryBlock.id) (c : String) : Prop :=
  ∃ b ∈ T.rows, GamingOf c b ∧ b.active = true

/-- The block is on, and the scheduler's reason for it is a daily limit. -/
def ByLimit (b : CategoryBlock) : Prop :=
  b.category = .gaming ∧ b.active = true ∧ b.reason = some "Daily limit exceeded"

/-- A pass blocks the child on account of the device. -/
def Hits (env : Env) (now : Time) (db : Database) (d : Device) (c : String) : Prop :=
  d.autoBlockEnabled = true ∧ locksForBedtime env now d = false ∧ truthy d.childId = some c ∧
    ∃ limit, d.dailyLimitMinutes = some limit ∧ limit ≠ 0 ∧ limit ≤ used env now db d

/-- The blocks of the children in `S` are on, the other rows are as before. -/
structure Marked (S : String → Prop) (T T' : Table CategoryBlock.id) : Prop where
  on : ∀ c, S c → Blocked T' c
  others : ∀ b, ¬ (S b.childId ∧ b.category = .gaming) → (b ∈ T'.rows ↔ b ∈ T.rows)

section Marked
variable {S S' : String → Prop} {T T' T'' : Table CategoryBlock.id}

theorem Marked.refl (h : ∀ c, ¬ S c) (T : Table CategoryBlock.id) : Marked S T T :=
  ⟨fun c hc => absurd hc (h c), fun _ _ => .rfl⟩

theorem Marked.trans (h : Marked S T T') (h' : Marked S' T' T'') :
    Marked (fun c => S c ∨ S' c) T T'' := by
  constructor
  · rintro c (hc | hc)
    · by_cases hc' : S' c
      · exact h'.on c hc'
      · obtain ⟨b, hb, hgaming, hactive⟩ := h.on c hc
        refine ⟨b, (h'.others b ?_).mpr hb, hgaming, hactive⟩
        rintro ⟨hs, -⟩
        exact hc' (hgaming.1 ▸ hs)
    · exact h'.on c hc
  · intro b hb
    rw [h'.others b fun hs => hb ⟨.inr hs.1, hs.2⟩, h.others b fun hs => hb ⟨.inl hs.1, hs.2⟩]

theorem Marked.congr (h : Marked S T T') (hS : ∀ c, S c ↔ S' c) : Marked S' T T' := by
  have heq : S = S' := funext fun c => propext (hS c)
  exact heq ▸ h

/-- The row of the child's block is changed, and on. -/
theorem marked_patch {c : String} {r : CategoryBlock} {now : Time}
    {f : CategoryBlock → CategoryBlock} (hf : ∀ b, (f b).id = b.id) (hmem : r ∈ T.rows)
    (hr : GamingOf c r) (hfr : GamingOf c (f r)) (hon : (f r).active = true) :
    Marked (· = c) T (Model.categoryBlock.patch T now r.id f hf) := by
  constructor
  · intro c' hc'
    subst hc'
    exact ⟨Model.categoryBlock.touch now (f r), Model.mem_patch.mpr ⟨r, hmem, (if_pos rfl).symm⟩,
      hfr, hon⟩
  · intro b hb
    constructor
    · intro hb'
      obtain ⟨b₀, hb₀, rfl⟩ := Model.mem_patch.mp hb'
      split_ifs at hb ⊢ with hid
      · cases Table.eq_of_key hb₀ hmem hid
        exact absurd hfr hb
      · exact hb₀
    · intro hb'
      refine Model.mem_patch.mpr ⟨b, hb', (if_neg fun hid => hb ?_).symm⟩
      rw [Table.eq_of_key hb' hmem hid]
      exact hr

theorem id_of_patched {k : String} {b : CategoryBlock} {now : Time}
    {f : CategoryBlock → CategoryBlock} (hf : ∀ b, (f b).id = b.id)
    (hb : b ∈ (Model.categoryBlock.patch T now k f hf).rows) : ∃ b₀ ∈ T.rows, b₀.id = b.id := by
  obtain ⟨b₀, hb₀, rfl⟩ := Model.mem_patch.mp hb
  refine ⟨b₀, hb₀, ?_⟩
  split_ifs
  · exact (hf b₀).symm
  · rfl

/-- A row for the child's block is inserted, and on. -/
theorem marked_insert {c : String} {r : CategoryBlock} (hr : GamingOf c r) (hon : r.active = true)
    (hins : T.insert r = some T') : Marked (· = c) T T' := by
  have hrows := (Table.insert_eq_some hins).2
  constructor
  · intro c' hc'
    subst hc'
    exact ⟨r, by simp [hrows], hr, hon⟩
  · intro b hb
    rw [hrows, List.mem_append, List.mem_singleton, or_iff_left]
    rintro rfl
    exact hb hr

end Marked

/-! ### What a pass relies on -/

/-- The database keeps its foreign keys, and the identifiers to come are new and differ from each
other. -/
structure Sound (w : World) : Prop where
  parents : ∀ d ∈ w.db.devices.rows, w.db.users.find d.parentId ≠ none
  children : ∀ d ∈ w.db.devices.rows, ∀ c, d.childId = some c → w.db.children.find c ≠ none
  named : ∀ c ∈ w.db.children.rows, c.id ≠ ""
  distinct : ∀ m n, w.uuids m 0 = w.uuids n 0 → m = n
  blocks : ∀ n, w.calls ≤ n → ∀ b ∈ w.db.categoryBlocks.rows, b.id ≠ w.uuids n 0
  audits : ∀ n, w.calls ≤ n → ∀ a ∈ w.db.auditLogs.rows, a.id ≠ w.uuids n 0

/-- A world in the course of a pass that began in `w₀`. -/
structure During (w₀ w : World) : Prop where
  now : w.now = w₀.now
  uuids : w.uuids = w₀.uuids
  sessions : w.db.sessions = w₀.db.sessions
  users : w.db.users = w₀.db.users
  children : w.db.children = w₀.db.children
  devices : ∀ k, w₀.db.devices.find k ≠ none → w.db.devices.find k ≠ none
  blocks : ∀ n, w.calls ≤ n → ∀ b ∈ w.db.categoryBlocks.rows, b.id ≠ w₀.uuids n 0
  audits : ∀ n, w.calls ≤ n → ∀ a ∈ w.db.auditLogs.rows, a.id ≠ w₀.uuids n 0

section During
variable {w₀ w : World}

theorem Sound.during (h : Sound w₀) : During w₀ (World.afterCall w₀ w₀.db) :=
  ⟨rfl, rfl, rfl, rfl, rfl, fun _ hk => hk,
    fun n hn => h.blocks n (by rw [afterCall_calls] at hn; omega),
    fun n hn => h.audits n (by rw [afterCall_calls] at hn; omega)⟩

/-- A call that changes no table but that of the devices. -/
theorem During.afterCall (h : During w₀ w) {t : Table Device.id}
    (ht : ∀ k, w.db.devices.find k ≠ none → t.find k ≠ none) :
    During w₀ (World.afterCall w { w.db with devices := t }) where
  now := h.now
  uuids := h.uuids
  sessions := h.sessions
  users := h.users
  children := h.children
  devices k hk := ht k (h.devices k hk)
  blocks n hn := h.blocks n (by rw [afterCall_calls] at hn; omega)
  audits n hn := h.audits n (by rw [afterCall_calls] at hn; omega)

/-- Entries of the audit log about a device, for its parent. -/
theorem During.log (h : During w₀ w) (hsound : Sound w₀) {data : Audit.Entry} {d : Device}
    (hd : d ∈ w₀.db.devices.rows) (hdata : data.userId = some d.parentId) :
    ∃ w', (Audit.log data).run w = (.ok (), w') ∧ During w₀ w' ∧
      w'.db.categoryBlocks = w.db.categoryBlocks := by
  rcases Audit.run_log data w with ⟨e, hrun⟩ | ⟨entry, logs, hid, hins, hrun⟩
  · exfalso
    rcases Audit.log_error hrun with ⟨a, ha, hid⟩ | ⟨u, hu, hnone⟩
    · rw [h.uuids] at hid
      exact h.audits w.calls le_rfl a ha hid
    · cases hdata.symm.trans hu
      rw [h.users] at hnone
      exact hsound.parents d hd hnone
  · refine ⟨_, hrun, ⟨h.now, h.uuids, h.sessions, h.users, h.children, h.devices, ?_, ?_⟩, rfl⟩
    · intro n hn
      exact h.blocks n (by rw [afterCall_calls] at hn; omega)
    · intro n hn a ha heq
      rw [afterCall_calls] at hn
      change a ∈ logs.rows at ha
      rw [(Table.insert_eq_some hins).2, List.mem_append, List.mem_singleton] at ha
      rcases ha with ha | rfl
      · exact h.audits n (by omega) a ha heq
      · rw [hid, h.uuids] at heq
        have := hsound.distinct _ _ heq
        omega

/-- A change of an existing device that touches neither unique columns nor links. -/
theorem During.updateDevice (h : During w₀ w) {d : Device} (hd : d ∈ w₀.db.devices.rows)
    {f : Device → Device} (hf : ∀ d, (f d).id = d.id)
    (hu : ∀ d, Model.device.uniques (f d) = Model.device.uniques d)
    (hl : ∀ d, Model.device.links (f d) = Model.device.links d) :
    ∃ x w', (Prisma.update .device d.id f hf).run w = (.ok x, w') ∧ During w₀ w' ∧
      w'.db.categoryBlocks = w.db.categoryBlocks := by
  have hsome : w.db.devices.find d.id ≠ none :=
    h.devices d.id (by rw [Table.find_key hd]; simp)
  obtain ⟨r, hr⟩ := Option.ne_none_iff_exists'.mp hsome
  have hget : (Model.device.get w.db).find d.id = some r := hr
  refine ⟨_, _, run_update hget (hu r) (hl r), ?_, rfl⟩
  refine h.afterCall fun k hk => ?_
  rw [Model.find_patch, Ne, Option.map_eq_none_iff]
  exact hk

/-- The same with an entry for the parent. -/
theorem During.updateAndLog (h : During w₀ w) (hsound : Sound w₀) {d : Device}
    (hd : d ∈ w₀.db.devices.rows) {f : Device → Device} (hf : ∀ d, (f d).id = d.id)
    (hu : ∀ d, Model.device.uniques (f d) = Model.device.uniques d)
    (hl : ∀ d, Model.device.links (f d) = Model.device.links d) {data : Audit.Entry}
    (hdata : data.userId = some d.parentId) :
    ∃ w', (do let _ ← Prisma.update .device d.id f hf; Audit.log data : Api Unit).run w =
      (.ok (), w') ∧
      During w₀ w' ∧ w'.db.categoryBlocks = w.db.categoryBlocks := by
  obtain ⟨_, w₁, hupdate, hduring, hsame⟩ := h.updateDevice (f := f) hd hf hu hl
  obtain ⟨w₂, hlog, hduring', hsame'⟩ := hduring.log hsound hd hdata
  refine ⟨w₂, ?_, hduring', hsame'.trans hsame⟩
  rw [Prog.run_bind, hupdate]
  exact hlog

/-- The upsert of a child's block finds its row, or may insert one. -/
theorem During.upsert_ok (h : During w₀ w) {c : String} (hc : w₀.db.children.find c ≠ none)
    {f : CategoryBlock → CategoryBlock} {mk : String → Time → CategoryBlock}
    {hf : ∀ b, (f b).id = b.id}
    (hrow : ∀ b, (f b).childId = b.childId ∧ (f b).category = b.category)
    (hmk : ∀ id now, (mk id now).id = id ∧ GamingOf c (mk id now)) {e : Err} {w' : World} :
    (Prisma.upsert .categoryBlock (fun b => b.childId = c && b.category = .gaming) f mk hf).run w ≠
      (.error e, w') := by
  intro hrun
  rcases run_upsert_error hrun with ⟨r, hfind, hrefuse⟩ | ⟨hnone, hrefuse⟩
  · have hr : (Model.categoryBlock.get w.db).find r.id = some r :=
      Table.find_key (List.mem_of_find?_eq_some hfind)
    rcases hrefuse r hr with ⟨u, hu, hnew, -⟩ | ⟨l, hl, hnew, -⟩
    · simp only [Model.categoryBlock, (hrow r).1, (hrow r).2] at hu hnew
      exact hnew hu
    · simp only [Model.categoryBlock, (hrow r).1] at hl hnew
      exact hnew hl
  · obtain ⟨hid, hchild, hcat⟩ := hmk (w.uuids w.calls 0) w.now
    rcases hrefuse with ⟨u, hu, r, hr, hur⟩ | ⟨l, hl, hmissing⟩ | ⟨r, hr, hkey⟩
    · -- the unique value is that of the rows the upsert looks for
      simp only [Model.categoryBlock, hchild, hcat, List.mem_singleton] at hu hur
      subst hu
      have hno := List.find?_eq_none.mp hnone r hr
      simp only [List.cons.injEq, and_true, true_and] at hur
      cases hcr : r.category <;> simp_all
    · simp only [Model.categoryBlock, hchild, List.mem_singleton] at hl
      subst hl
      rw [Link.holds, h.children] at hmissing
      exact hc (by simpa using hmissing)
    · rw [hid, h.uuids] at hkey
      exact h.blocks w.calls le_rfl r hr hkey

/-- The block of an existing child is turned on. -/
theorem During.blockGaming (h : During w₀ w) (hsound : Sound w₀) {c : String}
    (hc : w₀.db.children.find c ≠ none) (reason : String) :
    ∃ w', (Scheduler.blockGaming c reason).run w = (.ok (), w') ∧ During w₀ w' ∧
      Marked (· = c) w.db.categoryBlocks w'.db.categoryBlocks := by
  unfold Scheduler.blockGaming
  rw [Prog.run_bind]
  rcases run_upsert_cases .categoryBlock (fun b => b.childId = c && b.category = .gaming)
    (fun b => { b with active := true, reason := some reason })
    (fun id now => CategoryBlock.mk id c .gaming (some reason) true now now) (fun _ => by rfl) w
    with ⟨e, hrun⟩ | ⟨r, hfind, hrun⟩ | ⟨t, hnone, hins, hrun⟩
  · refine absurd hrun (h.upsert_ok hc ?_ ?_)
    · intro b
      exact ⟨rfl, rfl⟩
    · intro id now
      exact ⟨rfl, rfl, rfl⟩
  · have hr : GamingOf c r := by simpa [GamingOf] using List.find?_some hfind
    have hmem := List.mem_of_find?_eq_some hfind
    rw [hrun]
    refine ⟨_, rfl, ⟨h.now, h.uuids, h.sessions, h.users, h.children, h.devices, ?_, ?_⟩,
      marked_patch (fun _ => by rfl) hmem hr hr rfl⟩
    · intro n hn b hb
      rw [afterCall_calls] at hn
      obtain ⟨b₀, hb₀, hid⟩ := id_of_patched (fun _ => by rfl) hb
      rw [← hid]
      exact h.blocks n (by omega) b₀ hb₀
    · intro n hn
      exact h.audits n (by rw [afterCall_calls] at hn; omega)
  · rw [hrun]
    refine ⟨_, rfl, ⟨h.now, h.uuids, h.sessions, h.users, h.children, h.devices, ?_, ?_⟩,
      marked_insert ⟨rfl, rfl⟩ rfl hins⟩
    · intro n hn b hb heq
      rw [afterCall_calls] at hn
      change b ∈ t.rows at hb
      rw [(Table.insert_eq_some hins).2, List.mem_append, List.mem_singleton] at hb
      rcases hb with hb | rfl
      · exact h.blocks n (by omega) b hb heq
      · rw [h.uuids] at heq
        have := hsound.distinct _ _ heq
        omega
    · intro n hn
      exact h.audits n (by rw [afterCall_calls] at hn; omega)

end During

/-! ### One device -/

section Turn
variable {env : Env} {w₀ w : World} {d : Device}

theorem truthy_eq_some {o : Option String} {c : String} :
    truthy o = some c ↔ o = some c ∧ c ≠ "" := by
  rw [truthy, Option.filter_eq_some_iff]
  simp

/-- Where the limit check of a device stops before it reads the sessions. -/
theorem hits_limit {c : String} (h : Hits env w₀.now w₀.db d c) :
    ∃ limit, d.dailyLimitMinutes.filter (· ≠ 0) = some limit ∧ truthy d.childId = some c ∧
      limit ≤ used env w₀.now w₀.db d := by
  obtain ⟨-, -, hchild, limit, hlimit, hne, hle⟩ := h
  exact ⟨limit, by simp [hlimit, hne], hchild, hle⟩

/-- The limit check of a device. -/
theorem marked_limit (h : During w₀ w) (hsound : Sound w₀) (hd : d ∈ w₀.db.devices.rows)
    (hauto : d.autoBlockEnabled = true) (hlock : locksForBedtime env w₀.now d = false) :
    During w₀ ((Scheduler.enforceDailyLimit env w₀.now d).run w).2 ∧
      Marked (Hits env w₀.now w₀.db d) w.db.categoryBlocks
        ((Scheduler.enforceDailyLimit env w₀.now d).run w).2.db.categoryBlocks := by
  unfold Scheduler.enforceDailyLimit
  split
  swap
  · rename_i hno
    refine ⟨h, .refl (fun c hc => ?_) _⟩
    obtain ⟨limit, hlimit, hchild, -⟩ := hits_limit hc
    exact hno limit c hlimit hchild
  rename_i limit c hlimit hchild
  have hquery : During w₀ (World.afterCall w w.db) := h.afterCall fun _ hk => hk
  have hused : Scheduler.sumDurations d.id (env.zone.startOfDay w₀.now) w.db =
      used env w₀.now w₀.db d := by
    rw [used, Scheduler.sumDurations, Scheduler.sumDurations, h.sessions]
  simp only [Prog.run_bind, run_query, hused]
  by_cases hle : used env w₀.now w₀.db d ≥ limit
  swap
  · rw [if_neg hle]
    refine ⟨hquery, .refl (fun c' hc' => ?_) _⟩
    obtain ⟨limit', hlimit', -, hle'⟩ := hits_limit hc'
    cases hlimit.symm.trans hlimit'
    exact hle hle'
  rw [if_pos hle]
  have hexists : w₀.db.children.find c ≠ none :=
    hsound.children d hd c (truthy_eq_some.mp hchild).1
  obtain ⟨w₁, hblock, hduring, hmarked⟩ := hquery.blockGaming hsound hexists "Daily limit exceeded"
  rw [Prog.run_bind, hblock]
  have hiff : ∀ c', c' = c ↔ Hits env w₀.now w₀.db d c' := by
    intro c'
    constructor
    · rintro rfl
      rw [Option.filter_eq_some_iff] at hlimit
      exact ⟨hauto, hlock, hchild, limit, hlimit.1, by simpa using hlimit.2, hle⟩
    · intro hc'
      obtain ⟨_, -, hchild', -⟩ := hits_limit hc'
      cases hchild.symm.trans hchild'
      rfl
  simp only
  generalize hdata : (⟨some d.parentId, "DAILY_LIMIT_BLOCK", "device", some d.id,
    some ("used=" ++ toString (used env w₀.now w₀.db d) ++ "min, limit=" ++
      toString limit ++ "min"),
    none⟩ : Audit.Entry) = data
  have hparent : data.userId = some d.parentId := by rw [← hdata]
  obtain ⟨w₂, hlog, hduring', hsame⟩ := hduring.log hsound hd hparent
  rw [hlog]
  refine ⟨hduring', ?_⟩
  rw [hsame]
  exact hmarked.congr hiff

theorem run_ignoreErrors_snd (p : Api Unit) (w : World) :
    ((ignoreErrors p).run w).2 = (p.run w).2 := by
  rw [ignoreErrors, Prog.run_catchErr]
  rcases p.run w with ⟨_ | _, w'⟩ <;> rfl

/-- **One device of a pass.** -/
theorem marked_turn (env : Env) (h : During w₀ w) (hsound : Sound w₀) (hd : d ∈ w₀.db.devices.rows)
    (hauto : d.autoBlockEnabled = true) :
    During w₀ ((ignoreErrors (Scheduler.enforceSchedule env w₀.now d)).run w).2 ∧
      Marked (Hits env w₀.now w₀.db d) w.db.categoryBlocks
        ((ignoreErrors (Scheduler.enforceSchedule env w₀.now d)).run w).2.db.categoryBlocks := by
  rw [run_ignoreErrors_snd]
  unfold Scheduler.enforceSchedule
  dsimp only
  split_ifs with hlock
  · -- the bedtime lock comes before the limit
    have hno : ∀ c, ¬ Hits env w₀.now w₀.db d c := by
      rintro c ⟨-, hfree, -⟩
      cases hlock.symm.trans hfree
    obtain ⟨w', hrun, hduring, hsame⟩ : ∃ w', (Scheduler.bedtimeLock w₀.now
        (Scheduler.currentTime env w₀.now) d).run w = (.ok (), w') ∧ During w₀ w' ∧
        w'.db.categoryBlocks = w.db.categoryBlocks := by
      refine h.updateAndLog hsound hd (fun _ => by rfl) ?_ ?_ rfl
      · intro x
        rfl
      · intro x
        rfl
    rw [hrun]
    refine ⟨hduring, ?_⟩
    rw [hsame]
    exact .refl hno _
  have hfree : locksForBedtime env w₀.now d = false := Bool.eq_false_of_not_eq_true hlock
  rw [Prog.run_bind, Prog.when]
  split_ifs with hunlock
  · obtain ⟨w', hrun, hduring, hsame⟩ : ∃ w', (Scheduler.bedtimeUnlock
        (Scheduler.currentTime env w₀.now) d).run w = (.ok (), w') ∧ During w₀ w' ∧
        w'.db.categoryBlocks = w.db.categoryBlocks := by
      refine h.updateAndLog hsound hd (fun _ => by rfl) ?_ ?_ rfl
      · intro x
        rfl
      · intro x
        rfl
    rw [hrun, ← hsame]
    exact marked_limit hduring hsound hd hauto hfree
  · exact marked_limit h hsound hd hauto hfree

end Turn

/-! ### A pass -/

section Pass
variable {env : Env} {w₀ : World}

theorem marked_turns (env : Env) (hsound : Sound w₀) :
    ∀ (ds : List Device) {w : World}, During w₀ w →
    (∀ d ∈ ds, d ∈ w₀.db.devices.rows ∧ d.autoBlockEnabled = true) →
    During w₀ ((Scheduler.forEachSafely ds (Scheduler.enforceSchedule env w₀.now)).run w).2 ∧
      Marked (fun c => ∃ d ∈ ds, Hits env w₀.now w₀.db d c) w.db.categoryBlocks
        ((Scheduler.forEachSafely ds
          (Scheduler.enforceSchedule env w₀.now)).run w).2.db.categoryBlocks
  | [], w, h, _ => ⟨h, .refl (by simp) _⟩
  | d :: ds, w, h, hds => by
    obtain ⟨hd, hauto⟩ := hds d List.mem_cons_self
    obtain ⟨hduring, hmarked⟩ := marked_turn env h hsound hd hauto
    obtain ⟨hduring', hmarked'⟩ := marked_turns env hsound ds hduring fun d' hd' =>
      hds d' (List.mem_cons_of_mem _ hd')
    rw [Scheduler.forEachSafely, Prog.forEach, (yields_ignoreErrors _).run_bind]
    refine ⟨hduring', (hmarked.trans hmarked').congr fun c => ?_⟩
    simp

/-- **What a pass does to the blocks.** -/
theorem marked_pass (env : Env) (hsound : Sound w₀) :
    During w₀ ((Scheduler.enforceDeviceSchedules env).run w₀).2 ∧
    Marked (fun c => ∃ d ∈ w₀.db.devices.rows, Hits env w₀.now w₀.db d c) w₀.db.categoryBlocks
      ((Scheduler.enforceDeviceSchedules env).run w₀).2.db.categoryBlocks := by
  have hmem : ∀ d, d ∈ matching .device w₀.db (w₀.tape w₀.calls) Device.autoBlockEnabled ↔
      d ∈ w₀.db.devices.rows ∧ d.autoBlockEnabled = true := fun d => mem_matching
  obtain ⟨hduring, hmarked⟩ := marked_turns env hsound
    (matching .device w₀.db (w₀.tape w₀.calls) Device.autoBlockEnabled) hsound.during
    fun d hd => (hmem d).mp hd
  refine ⟨hduring, hmarked.congr fun c => ?_⟩
  constructor
  · rintro ⟨d, hd, hhit⟩
    exact ⟨d, ((hmem d).mp hd).1, hhit⟩
  · rintro ⟨d, hd, hhit⟩
    exact ⟨d, (hmem d).mpr ⟨hd, hhit.1⟩, hhit⟩

end Pass

/-! ### Limits and blocks after a pass -/

/-- After a pass: the block of a child is on where a device of it that the pass did not lock for its
bedtime has reached its limit, and is on for that reason only where some device of the child has. -/
structure Enforced (env : Env) (w : World) : Prop where
  blocked : ∀ d ∈ w.db.devices.rows, d.autoBlockEnabled = true → ∀ c limit, d.childId = some c →
    d.dailyLimitMinutes = some limit → 0 ≤ limit → limit ≤ 1440 →
    locksForBedtime env w.now d = false → limit ≤ used env w.now w.db d →
    Blocked ((Scheduler.enforceDeviceSchedules env).run w).2.db.categoryBlocks c
  released : ∀ b ∈ ((Scheduler.enforceDeviceSchedules env).run w).2.db.categoryBlocks.rows,
    ByLimit b → ∃ d ∈ ((Scheduler.enforceDeviceSchedules env).run w).2.db.devices.rows,
      d.childId = some b.childId ∧
      AtLimit env w.now ((Scheduler.enforceDeviceSchedules env).run w).2.db d

/-- Before it: the block of a child with a limit of `0` on a device is on already, or another of its
devices brings it about; and every block on account of a limit is one of today. -/
structure Clean (env : Env) (w : World) : Prop where
  zero : ∀ d ∈ w.db.devices.rows, d.autoBlockEnabled = true → ∀ c, d.childId = some c →
    d.dailyLimitMinutes = some 0 → locksForBedtime env w.now d = false →
    0 ≤ used env w.now w.db d →
    Blocked w.db.categoryBlocks c ∨ ∃ d' ∈ w.db.devices.rows, Hits env w.now w.db d' c
  today : ∀ b ∈ w.db.categoryBlocks.rows, ByLimit b →
    ∃ d ∈ w.db.devices.rows, d.childId = some b.childId ∧ AtLimit env w.now w.db d

section After
variable {env : Env} {w : World}

theorem afterPass_columns (env : Env) (now : Time) (d : Device) :
    (Bedtime.afterPass env now d).id = d.id ∧ (Bedtime.afterPass env now d).childId = d.childId ∧
      (Bedtime.afterPass env now d).dailyLimitMinutes = d.dailyLimitMinutes := by
  unfold Bedtime.afterPass Bedtime.enforced
  dsimp only
  split_ifs <;> exact ⟨rfl, rfl, rfl⟩

/-- A pass changes neither limits nor sessions. -/
theorem exists_atLimit_iff (hsound : Sound w) (c : String) :
    (∃ d ∈ ((Scheduler.enforceDeviceSchedules env).run w).2.db.devices.rows, d.childId = some c ∧
      AtLimit env w.now ((Scheduler.enforceDeviceSchedules env).run w).2.db d) ↔
    ∃ d ∈ w.db.devices.rows, d.childId = some c ∧ AtLimit env w.now w.db d := by
  have hsessions := (marked_pass env hsound).1.sessions
  have hlimit : ∀ d, AtLimit env w.now ((Scheduler.enforceDeviceSchedules env).run w).2.db
      (Bedtime.afterPass env w.now d) ↔ AtLimit env w.now w.db d := by
    intro d
    obtain ⟨hid, -, hmin⟩ := afterPass_columns env w.now d
    unfold AtLimit used Scheduler.sumDurations
    rw [hid, hmin, hsessions]
  constructor
  · rintro ⟨d', hd', hchild, hat⟩
    have hfind := Bedtime.find_pass env w d'.id
    rw [Table.find_key hd', eq_comm] at hfind
    obtain ⟨d, hd, rfl⟩ := Option.map_eq_some_iff.mp hfind
    exact ⟨d, Table.mem_of_find hd, (afterPass_columns env w.now d).2.1.symm.trans hchild,
      (hlimit d).mp hat⟩
  · rintro ⟨d, hd, hchild, hat⟩
    have hfind := Bedtime.find_pass env w d.id
    rw [Table.find_key hd, Option.map_some] at hfind
    exact ⟨_, Table.mem_of_find hfind, (afterPass_columns env w.now d).2.1.trans hchild,
      (hlimit d).mpr hat⟩

theorem Hits.atLimit {d : Device} {c : String} (h : Hits env w.now w.db d c) :
    d.childId = some c ∧ AtLimit env w.now w.db d := by
  obtain ⟨-, -, hchild, limit, hlimit, -, hle⟩ := h
  exact ⟨(truthy_eq_some.mp hchild).1, limit, hlimit, hle⟩

/-- Blocks that are on stay on. -/
theorem blocked_pass (hsound : Sound w) {c : String} (h : Blocked w.db.categoryBlocks c) :
    Blocked ((Scheduler.enforceDeviceSchedules env).run w).2.db.categoryBlocks c := by
  have hmarked := (marked_pass env hsound).2
  by_cases hhit : ∃ d ∈ w.db.devices.rows, Hits env w.now w.db d c
  · exact hmarked.on c hhit
  · obtain ⟨b, hb, hgaming, hactive⟩ := h
    refine ⟨b, (hmarked.others b ?_).mpr hb, hgaming, hactive⟩
    rintro ⟨hs, -⟩
    exact hhit (hgaming.1 ▸ hs)

/-- **Daily limits of devices.** A pass leaves the blocks as the limits of the day ask for exactly
when no limit of `0` waits for a block and no block is left over. -/
theorem limit_enforced_iff (env : Env) (hsound : Sound w) : Enforced env w ↔ Clean env w := by
  have hmarked := (marked_pass env hsound).2
  constructor
  · rintro ⟨hblocked, hreleased⟩
    refine ⟨fun d hd hauto c hchild hzero hlock hle => ?_, fun b hb hby => ?_⟩
    · by_cases hhit : ∃ d' ∈ w.db.devices.rows, Hits env w.now w.db d' c
      · exact .inr hhit
      · obtain ⟨b, hb, hgaming, hactive⟩ :=
          hblocked d hd hauto c 0 hchild hzero le_rfl (by norm_num) hlock hle
        refine .inl ⟨b, (hmarked.others b ?_).mp hb, hgaming, hactive⟩
        rintro ⟨hs, -⟩
        exact hhit (hgaming.1 ▸ hs)
    · by_cases hhit : ∃ d ∈ w.db.devices.rows, Hits env w.now w.db d b.childId
      · obtain ⟨d, hd, h⟩ := hhit
        exact ⟨d, hd, h.atLimit⟩
      · have hb' := (hmarked.others b fun hs => hhit hs.1).mpr hb
        exact (exists_atLimit_iff hsound b.childId).mp (hreleased b hb' hby)
  · rintro ⟨hzero, htoday⟩
    refine ⟨fun d hd hauto c limit hchild hlimit _ _ hlock hle => ?_, fun b hb hby => ?_⟩
    · by_cases hne : limit = 0
      · subst hne
        rcases hzero d hd hauto c hchild hlimit hlock hle with hon | hhit
        · exact blocked_pass hsound hon
        · exact hmarked.on c hhit
      · have hc : c ≠ "" := by
          obtain ⟨child, hfind⟩ := Option.ne_none_iff_exists'.mp (hsound.children d hd c hchild)
          have hid : child.id = c := Table.key_of_find hfind
          exact hid ▸ hsound.named child (Table.mem_of_find hfind)
        exact hmarked.on c ⟨d, hd, hauto, hlock, truthy_eq_some.mpr ⟨hchild, hc⟩, limit,
          hlimit, hne,
          hle⟩
    · refine (exists_atLimit_iff hsound b.childId).mpr ?_
      by_cases hhit : ∃ d ∈ w.db.devices.rows, Hits env w.now w.db d b.childId
      · obtain ⟨d, hd, h⟩ := hhit
        exact ⟨d, hd, h.atLimit⟩
      · exact htoday b ((hmarked.others b fun hs => hhit hs.1).mp hb) hby

end After

/-- A phone with automatic blocking and the given limit, at half past eight. -/
def homeWith (limit : ℤ) (sessions : Table Session.id) : World :=
  .fresh { Household.withDevices [{ Household.device "phone" "amal" "adam" with
    autoBlockEnabled := true, dailyLimitMinutes := some limit }] (by simp) with
    sessions := sessions } 30600000

theorem sound_homeWith (limit : ℤ) (sessions : Table Session.id) :
    Sound (homeWith limit sessions) where
  parents d hd := by
    obtain rfl := List.mem_singleton.mp hd
    exact (by decide : Household.families.users.find "amal" ≠ none)
  children d hd c hc := by
    obtain rfl := List.mem_singleton.mp hd
    cases hc
    exact (by decide : Household.families.children.find "adam" ≠ none)
  named c hc := by
    have hnames : ∀ c ∈ Household.families.children.rows, c.id ≠ "" := by decide
    exact hnames c hc
  distinct m n h := (fresh_uuids_injective h).1
  blocks n _ b hb := by cases hb
  audits n _ a ha := by cases ha

/-- An hour of a session this morning. -/
def morning : Table Session.id :=
  ⟨[⟨"s", "phone", "adam", "amal", .stopped, 25200000, none, none, some 28800000, none, 60, 0,
    0, false,
    none, 25200000, 28800000⟩], by simp⟩

/-- The session is over the limit, and the pass blocks the child. -/
theorem limit_enforced_morning :
    (((Scheduler.enforceDeviceSchedules .plain).run
      (homeWith 40 morning)).2.db.categoryBlocks.rows.map
      fun b => (b.childId, b.active, b.reason)) = [("adam", true, some "Daily limit exceeded")] ∧
    Enforced .plain (homeWith 40 morning) := by
  refine ⟨by decide +kernel, (limit_enforced_iff .plain (sound_homeWith 40 morning)).mpr ⟨?_, ?_⟩⟩
  · intro d hd _ c _ hzero
    obtain rfl := List.mem_singleton.mp hd
    cases hzero
  · intro b hb
    cases hb

/-- A limit of `0` is no limit to the pass. -/
theorem zero_limit_skipped : ¬ ∀ (env : Env) (w : World), Sound w → Enforced env w := by
  intro h
  have henforced := h .plain (homeWith 0 .empty) (sound_homeWith 0 .empty)
  obtain ⟨b, hb, -⟩ := henforced.blocked _ (List.mem_singleton_self _) rfl "adam" 0 rfl rfl le_rfl
    (by norm_num) (by decide +kernel) (by decide +kernel)
  have hnone : ((Scheduler.enforceDeviceSchedules .plain).run
      (homeWith 0 .empty)).2.db.categoryBlocks.rows = [] := by decide +kernel
  rw [hnone] at hb
  cases hb

end GuardTime.Locks.Allowance
