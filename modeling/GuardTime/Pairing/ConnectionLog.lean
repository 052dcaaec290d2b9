import Mathlib.Tactic
import GuardTime.Pairing.Run

/-! # The connection log

Pairing and the silent repair of an address write to three tables: the device, the history of its
addresses and its connection events. `Replays` says that they tell one story: the events, in the
order in which they were written, end with the device's address, each change names the address it
left, and the history holds one row for each address that occurs.

* `Seen.ips`, `Seen.times`: what seeing an address does to the history;
* `Replays.append`: an event of the device goes on with the story;
* `replays_effect`: an operation leaves the story whole;
* `replays`: the tables tell the story after every step of a run. -/

namespace GuardTime.Pairing.ConnectionLog

open GuardTime.Lib.Program GuardTime.Lib.Keyed GuardTime.Lib.Js GuardTime.Schema GuardTime.Server
open GuardTime.Prisma GuardTime.Services GuardTime.Services.Pairing GuardTime.Pairing.Effects
open GuardTime.Pairing.Run

/-! ### The story of a device -/

/-- The events of the device, in the order in which they were written. -/
def log (events : Table DeviceConnectionEvent.id) (deviceId : String) :
    List DeviceConnectionEvent := events.rows.filter fun ev => ev.deviceId = deviceId

/-- The rows of the device in the history. -/
def rowsOf (history : Table DeviceIpHistory.id) (deviceId : String) : List DeviceIpHistory :=
  history.rows.filter fun r => r.deviceId = deviceId

/-- The addresses of the device in the history. -/
def ips (history : Table DeviceIpHistory.id) (deviceId : String) : List String :=
  (rowsOf history deviceId).map DeviceIpHistory.ipAddress

/-- The tables tell one story about the device, up to the time `now`. -/
structure Replays (T : Tables) (now : Time) (deviceId : String) : Prop where
  /-- A paired device has the address of its latest event. -/
  current : ∀ d, T.devices.find deviceId = some d → d.paired = true →
    ∃ ev, (log T.events deviceId).getLast? = some ev ∧ d.dnsSourceIp = ev.ipAddress ∧
      d.publicIp = ev.ipAddress
  /-- A change names the address of the event before it, and leaves it. -/
  previous : ∀ before ev after, log T.events deviceId = before ++ ev :: after →
    ev.type = .ipChanged →
    ∃ ev₀, before.getLast? = some ev₀ ∧ ev.metadata = [("previous", ev₀.ipAddress)] ∧
      ev₀.ipAddress ≠ ev.ipAddress
  /-- The events are pairings and changes. -/
  kinds : ∀ ev ∈ log T.events deviceId, ev.type = .paired ∨ ev.type = .ipChanged
  /-- The order of the events is the order of their times. -/
  ordered : (log T.events deviceId).Pairwise fun ev ev' => ev.createdAt ≤ ev'.createdAt
  past : ∀ ev ∈ log T.events deviceId, ev.createdAt ≤ now
  /-- The history has no two rows for one address. -/
  single : (ips T.history deviceId).Nodup
  /-- The history has a row exactly for the addresses of the events. -/
  covers : ∀ ip, ip ∈ ips T.history deviceId ↔ ∃ ev ∈ log T.events deviceId, ev.ipAddress = some ip
  times : ∀ r ∈ rowsOf T.history deviceId, r.firstSeenAt ≤ r.lastSeenAt ∧ r.lastSeenAt ≤ now

/-! ### The history -/

section History
variable {history history' : Table DeviceIpHistory.id} {deviceId other ip id : String} {t : Time}

/-- The rows of a device with an address seen again. -/
theorem rowsOf_again (h₀ : DeviceIpHistory) :
    rowsOf (history.modify (fun r => r.id = h₀.id) (fun r => { r with lastSeenAt := t })
      fun _ => rfl) other =
      (rowsOf history other).map fun r => if r.id = h₀.id then { r with lastSeenAt := t }
        else r := by
  rw [rowsOf, Table.filter_modify fun _ => by rfl]
  simp [rowsOf]

theorem rowsOf_first {r : DeviceIpHistory} (hins : history.insert r = some history') :
    rowsOf history' other = rowsOf history other ++ if r.deviceId = other then [r] else [] := by
  rw [rowsOf, (Table.insert_eq_some hins).2, List.filter_append]
  by_cases h : r.deviceId = other <;> simp [h, rowsOf]

theorem Seen.rowsOf_other (h : Seen history deviceId ip t id history') (hne : deviceId ≠ other) :
    rowsOf history' other = rowsOf history other := by
  cases h with
  | again h₀ hmem hdevice hip =>
    rw [rowsOf_again]
    have hsame : ∀ r ∈ rowsOf history other,
        (if r.id = h₀.id then { r with lastSeenAt := t } else r) = r := by
      intro r hr
      have hr' : r ∈ history.rows ∧ r.deviceId = other := by simpa [rowsOf] using hr
      refine if_neg fun hid => hne ?_
      rw [← hdevice, ← hr'.2, Table.eq_of_key hr'.1 hmem hid]
    rw [List.map_congr_left hsame, List.map_id']
  | first hnew hins => simp [rowsOf_first hins, hne]

/-- The addresses after one is seen. -/
theorem Seen.ips (h : Seen history deviceId ip t id history')
    (hn : (ips history deviceId).Nodup) : (ips history' deviceId).Nodup ∧
      ∀ x, x ∈ ips history' deviceId ↔ x ∈ ips history deviceId ∨ x = ip := by
  cases h with
  | again h₀ hmem hdevice hip =>
    have hsame : ConnectionLog.ips (history.modify (fun r => r.id = h₀.id)
        (fun r => { r with lastSeenAt := t }) fun _ => rfl) deviceId =
        ConnectionLog.ips history deviceId := by
      rw [ConnectionLog.ips, rowsOf_again, List.map_map]
      refine List.map_congr_left fun r _ => ?_
      simp only [Function.comp]
      split_ifs <;> rfl
    have hip' : ip ∈ ConnectionLog.ips history deviceId :=
      List.mem_map.mpr ⟨h₀, by simp [rowsOf, hmem, hdevice], hip⟩
    rw [hsame]
    refine ⟨hn, fun x => ⟨.inl, ?_⟩⟩
    rintro (hx | rfl)
    · exact hx
    · exact hip'
  | first hnew hins =>
    have hsnoc : ConnectionLog.ips history' deviceId =
        ConnectionLog.ips history deviceId ++ [ip] := by
      simp [ConnectionLog.ips, rowsOf_first hins]
    have hnot : ip ∉ ConnectionLog.ips history deviceId := by
      intro hmem
      obtain ⟨r, hr, hip⟩ := List.mem_map.mp hmem
      have hr' : r ∈ history.rows ∧ r.deviceId = deviceId := by simpa [rowsOf] using hr
      exact hnew r hr'.1 ⟨hr'.2, hip⟩
    rw [hsnoc]
    refine ⟨?_, by simp⟩
    rw [List.nodup_append]
    refine ⟨hn, by simp, fun a ha b hb => ?_⟩
    rw [List.mem_singleton.mp hb]
    rintro rfl
    exact hnot ha

/-- The times of the history after an address is seen. -/
theorem Seen.times {now : Time} (h : Seen history deviceId ip t id history') (hnow : now ≤ t)
    (ht : ∀ r ∈ rowsOf history deviceId, r.firstSeenAt ≤ r.lastSeenAt ∧ r.lastSeenAt ≤ now) :
    ∀ r ∈ rowsOf history' deviceId, r.firstSeenAt ≤ r.lastSeenAt ∧ r.lastSeenAt ≤ t := by
  intro r hr
  cases h with
  | again h₀ hmem hdevice hip =>
    rw [rowsOf_again] at hr
    obtain ⟨r₀, hr₀, rfl⟩ := List.mem_map.mp hr
    obtain ⟨h₁, h₂⟩ := ht r₀ hr₀
    split_ifs
    · exact ⟨(h₁.trans h₂).trans hnow, le_rfl⟩
    · exact ⟨h₁, h₂.trans hnow⟩
  | first hnew hins =>
    rw [rowsOf_first hins, if_pos rfl] at hr
    rcases List.mem_append.mp hr with hr | hr
    · exact ⟨(ht r hr).1, (ht r hr).2.trans hnow⟩
    · rw [List.mem_singleton.mp hr]
      exact ⟨le_rfl, le_rfl⟩

end History

/-! ### The events -/

theorem log_insert {events events' : Table DeviceConnectionEvent.id} {ev : DeviceConnectionEvent}
    (hins : events.insert ev = some events') (deviceId : String) : log events' deviceId =
      log events deviceId ++ if ev.deviceId = deviceId then [ev] else [] := by
  rw [log, (Table.insert_eq_some hins).2, List.filter_append, log]
  by_cases h : ev.deviceId = deviceId <;> simp [h]

/-! ### Steps of the story -/

section Steps
variable {T T' : Tables} {now t : Time} {deviceId ip id : String}

/-- The story at a later time. -/
theorem Replays.mono (h : Replays T now deviceId) (ht : now ≤ t) : Replays T t deviceId :=
  { h with
    past := fun ev hev => (h.past ev hev).trans ht
    times := fun r hr => ⟨(h.times r hr).1, (h.times r hr).2.trans ht⟩ }

/-- The story goes on unchanged while address and pairing of the device do. -/
theorem Replays.same (h : Replays T now deviceId)
    (hlog : log T'.events deviceId = log T.events deviceId)
    (hrows : rowsOf T'.history deviceId = rowsOf T.history deviceId)
    (hdevice : ∀ d', T'.devices.find deviceId = some d' → ∃ d, T.devices.find deviceId = some d ∧
      d'.paired = d.paired ∧ d'.dnsSourceIp = d.dnsSourceIp ∧ d'.publicIp = d.publicIp) :
    Replays T' now deviceId := by
  have hips : ips T'.history deviceId = ips T.history deviceId := by rw [ips, hrows, ips]
  refine ⟨fun d' hd' hpaired => ?_, ?_, ?_, ?_, ?_, ?_, ?_, ?_⟩
  · obtain ⟨d, hd, h₁, h₂, h₃⟩ := hdevice d' hd'
    rw [hlog, h₂, h₃]
    exact h.current d hd (h₁ ▸ hpaired)
  · rw [hlog]
    exact h.previous
  · rw [hlog]
    exact h.kinds
  · rw [hlog]
    exact h.ordered
  · rw [hlog]
    exact h.past
  · rw [hips]
    exact h.single
  · rw [hips, hlog]
    exact h.covers
  · rw [hrows]
    exact h.times

/-- The known address is seen again. -/
theorem Replays.again (h : Replays T now deviceId)
    (hlog : log T'.events deviceId = log T.events deviceId)
    {d : Device} (hd : T.devices.find deviceId = some d) (hpaired : d.paired = true)
    (hip : d.dnsSourceIp = some ip) (hseen : Seen T.history deviceId ip now id T'.history)
    (hdevice : ∀ d', T'.devices.find deviceId = some d' → d'.paired = d.paired ∧
      d'.dnsSourceIp = d.dnsSourceIp ∧ d'.publicIp = d.publicIp) : Replays T' now deviceId := by
  obtain ⟨hsingle, hmem⟩ := Seen.ips hseen h.single
  obtain ⟨ev, hlast, hev, hpublic⟩ := h.current d hd hpaired
  have hold : ip ∈ ips T.history deviceId :=
    (h.covers ip).mpr ⟨ev, List.mem_of_getLast? hlast, hev ▸ hip⟩
  refine ⟨fun d' hd' _ => ?_, ?_, ?_, ?_, ?_, hsingle, fun x => ?_, Seen.times hseen le_rfl h.times⟩
  · obtain ⟨-, h₂, h₃⟩ := hdevice d' hd'
    rw [hlog, h₂, h₃]
    exact ⟨ev, hlast, hev, hpublic⟩
  · rw [hlog]
    exact h.previous
  · rw [hlog]
    exact h.kinds
  · rw [hlog]
    exact h.ordered
  · rw [hlog]
    exact h.past
  · rw [hlog, hmem, ← h.covers]
    refine ⟨?_, .inl⟩
    rintro (hx | rfl)
    · exact hx
    · exact hold

/-- **The story goes on** with an event that leaves the device at its address. -/
theorem Replays.append (h : Replays T now deviceId) {ev : DeviceConnectionEvent}
    (hlog : log T'.events deviceId = log T.events deviceId ++ [ev]) (hip : ev.ipAddress = some ip)
    (hat : ev.createdAt = now) (hseen : Seen T.history deviceId ip now id T'.history)
    (hdevice : ∀ d', T'.devices.find deviceId = some d' → d'.dnsSourceIp = some ip ∧
      d'.publicIp = some ip)
    (hkind : ev.type = .paired ∨ ev.type = .ipChanged ∧ ∃ ev₀,
      (log T.events deviceId).getLast? = some ev₀ ∧ ev.metadata = [("previous", ev₀.ipAddress)] ∧
      ev₀.ipAddress ≠ ev.ipAddress) : Replays T' now deviceId := by
  obtain ⟨hsingle, hmem⟩ := Seen.ips hseen h.single
  refine ⟨fun d' hd' _ => ⟨ev, by simp [hlog], ?_, ?_⟩, fun before e after hcut htype => ?_,
    fun e he => ?_, ?_, fun e he => ?_, hsingle, fun x => ?_, Seen.times hseen le_rfl h.times⟩
  · rw [(hdevice d' hd').1, hip]
  · rw [(hdevice d' hd').2, hip]
  · -- the change is an old one, or the new event
    rw [hlog] at hcut
    rcases List.eq_nil_or_concat after with rfl | ⟨after', last, rfl⟩
    · obtain ⟨rfl, hlast⟩ := List.append_inj' hcut rfl
      cases hlast
      rcases hkind with hpaired | ⟨-, hchange⟩
      · cases hpaired.symm.trans htype
      · exact hchange
    · rw [List.concat_eq_append, ← List.cons_append, ← List.append_assoc] at hcut
      obtain ⟨hcut, -⟩ := List.append_inj' hcut rfl
      exact h.previous before e after' hcut htype
  · rw [hlog] at he
    rcases List.mem_append.mp he with he | he
    · exact h.kinds e he
    · rw [List.mem_singleton.mp he]
      exact hkind.imp_right fun hchange => hchange.1
  · rw [hlog, List.pairwise_append]
    refine ⟨h.ordered, List.pairwise_singleton _ _, fun e he e' he' => ?_⟩
    rw [List.mem_singleton.mp he', hat]
    exact h.past e he
  · rw [hlog] at he
    rcases List.mem_append.mp he with he | he
    · exact h.past e he
    · rw [List.mem_singleton.mp he, hat]
  · rw [hmem, h.covers, hlog]
    constructor
    · rintro (⟨e, he, hx⟩ | rfl)
      · exact ⟨e, List.mem_append_left _ he, hx⟩
      · exact ⟨ev, by simp, hip⟩
    · rintro ⟨e, he, hx⟩
      rcases List.mem_append.mp he with he | he
      · exact .inl ⟨e, he, hx⟩
      · rw [List.mem_singleton.mp he, hip] at hx
        exact .inr (Option.some.inj hx).symm

end Steps

/-! ### Operations -/

section Operations
variable {w w' : World} {deviceId : String} {T : Tables}

/-- A new status of some device says nothing about addresses. -/
theorem replays_withStatus (h : Replays (tables w.db) w.now deviceId) (k : String)
    (status : PairStatus) {sessions' : Table PairingSession.id} :
    Replays { tables w.db with
      devices := (withStatus w.now k status w.db).devices
      sessions := sessions' } w.now deviceId := by
  refine h.same rfl rfl fun d' hd' => ?_
  obtain ⟨d, hd, rfl⟩ := find_patched (marked status) (marked_id status) hd'
  refine ⟨d, hd, ?_⟩
  split_ifs <;> exact ⟨rfl, rfl, rfl⟩

theorem replays_beat {k ip : String} {r : Except Err Unit}
    (h : Replays (tables w.db) w.now deviceId) (hbeat : Beat w w' k ip r T) :
    Replays T w.now deviceId := by
  cases hbeat with
  | silent hwhy => exact h
  | failed e hno => exact h
  | again hd hpaired hip hid hseen =>
    by_cases hk : k = deviceId
    · subst hk
      refine h.again rfl hd hpaired hip hseen fun d' hd' => ?_
      obtain ⟨d, hd₀, rfl⟩ := find_patched_self (touched w.now) (touched_id _) hd'
      cases hd.symm.trans hd₀
      exact ⟨rfl, rfl, rfl⟩
    · refine h.same rfl (Seen.rowsOf_other hseen hk) fun d' hd' => ?_
      exact ⟨d', (find_patched_other (touched w.now) (touched_id _) hk).symm.trans hd', rfl,
        rfl, rfl⟩
  | change hd hpaired hip hid hseen hid' hev hins =>
    have hlog := log_insert hins deviceId
    by_cases hk : k = deviceId
    · subst hk
      obtain ⟨ev₀, hlast, hsource, -⟩ := h.current _ hd hpaired
      rw [hev, if_pos rfl] at hlog
      refine h.append hlog rfl rfl hseen (fun d' hd' => ?_) (.inr ⟨rfl, ev₀, hlast, ?_, ?_⟩)
      · obtain ⟨d, -, rfl⟩ := find_patched_self (moved ip w.now) (moved_id _ _) hd'
        exact ⟨rfl, rfl⟩
      · rw [hsource]
      · rw [← hsource]
        exact hip
    · rw [hev, if_neg hk, List.append_nil] at hlog
      refine h.same hlog (Seen.rowsOf_other hseen hk) fun d' hd' => ?_
      exact ⟨d', (find_patched_other (moved ip w.now) (moved_id _ _) hk).symm.trans hd', rfl, rfl,
        rfl⟩

theorem replays_completed {dto : ConfirmPairingDto} {s : PairingSession}
    (h : Replays (tables w.db) w.now deviceId) (hdone : Completed w w' dto s T) :
    Replays T w.now deviceId := by
  obtain @⟨_, beacon, _, _, _, _, _, hd, hbeacon, hid, hseen, hid', hev, hins⟩ := hdone
  have hlog := log_insert hins deviceId
  by_cases hk : s.deviceId = deviceId
  · subst hk
    rw [hev, if_pos rfl] at hlog
    refine h.append hlog rfl rfl hseen (fun d' hd' => ?_) (.inl rfl)
    obtain ⟨d, -, rfl⟩ := find_patched_self (paired dto.sourceIp dto.resolverRegion w.now beacon)
      (paired_id _ _ _ _) hd'
    exact ⟨rfl, rfl⟩
  · rw [hev, if_neg hk, List.append_nil] at hlog
    refine h.same hlog (Seen.rowsOf_other hseen hk) fun d' hd' => ?_
    exact ⟨d', (find_patched_other (paired dto.sourceIp dto.resolverRegion w.now beacon)
      (paired_id _ _ _ _) hk).symm.trans hd', rfl, rfl, rfl⟩

/-- Every operation leaves the story whole. -/
theorem replays_effect {op : Op} (h : Replays (tables w.db) w.now deviceId)
    (heffect : Effect w w' op T) : Replays T w.now deviceId := by
  cases heffect with
  | quiet => exact h
  | cut hd hno => exact h.same rfl rfl fun d hd => ⟨d, hd, rfl, rfl, rfl⟩
  | opened hd hid htoken hs hins => exact replays_withStatus h _ _
  | cancelled hd hparent => exact h.same rfl rfl fun d hd => ⟨d, hd, rfl, rfl, rfl⟩
  | rejected hs hwait hdead hd => exact replays_withStatus h _ _
  | paired hs hdone => exact replays_completed h hdone
  | beat hbeat => exact replays_beat h hbeat

end Operations

/-! ### Runs -/

/-- A device that is not paired and has neither events nor addresses yet. -/
structure Untold (db : Database) (deviceId : String) : Prop where
  unpaired : ∀ d, db.devices.find deviceId = some d → d.paired = false
  events : ∀ ev ∈ db.deviceConnectionEvents.rows, ev.deviceId ≠ deviceId
  history : ∀ r ∈ db.deviceIpHistory.rows, r.deviceId ≠ deviceId

theorem Untold.replays_nil {db : Database} {deviceId : String} (h : Untold db deviceId)
    (now : Time) : Replays (tables db) now deviceId := by
  have hlog : log (tables db).events deviceId = [] := by
    simpa [log, tables] using h.events
  have hrows : rowsOf (tables db).history deviceId = [] := by
    simpa [rowsOf, tables] using h.history
  refine ⟨fun d hd hpaired => ?_, ?_, ?_, ?_, ?_, ?_, ?_, ?_⟩
  · rw [h.unpaired d hd] at hpaired
    cases hpaired
  · rw [hlog]
    intro before ev after hcut
    simp at hcut
  all_goals simp [hlog, hrows, ips]

/-- **The connection log replays to the current address** after every step of a run that starts with
an unpaired device without events. -/
theorem replays {env : Env} {w₀ w : World} {deviceId : String} (h₀ : Untold w₀.db deviceId)
    (h : Reaches env Any w₀ w) : Replays (tables w.db) w.now deviceId := by
  induction h with
  | refl => exact h₀.replays_nil w₀.now
  | @step w op t ht _ _ ih =>
    obtain ⟨hlater, heffect⟩ := effect_exec env (w.atTime t) op
    rw [hlater.now]
    exact replays_effect (ih.mono ht) heffect

/-- The tablet, paired at time 1000 and seen elsewhere at time 2000. -/
def movedTablet : World :=
  exec .plain ((exec .plain
    ((exec .plain (newTablet.atTime 0) (.start "tablet" "amal")).atTime 1000)
    (.confirm { token := "uuid-2-0", sourceIp := "203.0.113.7" })).atTime 2000)
    (.heartbeat "tablet" "198.51.100.4")

theorem replays_movedTablet :
    (log movedTablet.db.deviceConnectionEvents "tablet").map DeviceConnectionEvent.ipAddress =
      [some "203.0.113.7", some "198.51.100.4"] ∧
    Replays (tables movedTablet.db) movedTablet.now "tablet" := by
  refine ⟨by decide +kernel, ?_⟩
  refine @replays .plain newTablet movedTablet "tablet" ⟨?_, ?_, ?_⟩ ?_
  · intro d hd
    cases hd
    rfl
  · rintro ev ⟨⟩
  · rintro r ⟨⟩
  · refine .step _ ?_ trivial (.step _ ?_ trivial (.step _ ?_ trivial .refl))
    · decide +kernel
    · decide +kernel
    · decide +kernel

end GuardTime.Pairing.ConnectionLog
