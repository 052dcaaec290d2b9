import Mathlib.Tactic
import GuardTime.Dns.Cache

/-! # Heartbeats

A check writes the time of a device's last query at most every ten seconds: an entry of the cache
throttles the write. On a cached decision it knows the device from another entry, which maps the
address to the device.

A `View` is what of the world decides over heartbeats: the cache, the clock, and of each device its
addresses and the time it was last seen. `checked_checkPolicy` says what a check does to it. -/

namespace GuardTime.Dns.Heartbeat

open GuardTime.Lib.Program GuardTime.Lib.Keyed GuardTime.Lib.TtlCache GuardTime.Lib.Js
open GuardTime.Schema GuardTime.Server GuardTime.Prisma GuardTime.Services.DnsPolicy
open GuardTime.Dns.Engine GuardTime.Dns.Cache

/-! ### Views -/

/-- The addresses of a device and the time it was last seen. -/
structure Card where
  id : String
  ipAddress : Option String
  dnsSourceIp : Option String
  ipv6Address : Option String
  seen : Option Time

def cardOf (d : Device) : Card :=
  ⟨d.id, d.ipAddress, d.dnsSourceIp, d.ipv6Address, d.lastDnsSeenAt⟩

/-- The device holds the address. -/
def Card.holds (ip : String) (c : Card) : Bool :=
  c.ipAddress = some ip || c.dnsSourceIp = some ip || c.ipv6Address = some ip

/-- What decides over heartbeats. -/
structure View where
  cache : Cache String CacheValue
  now : Time
  cards : List Card

def view (w : World) : View := ⟨w.cache, w.now, w.db.devices.rows.map cardOf⟩

namespace View

/-- The key of a decision under the current version of its address. -/
def key (v : View) (ip domain : String) : String :=
  decisionKey ip (versionOf (v.cache.get v.now (versionKey ip))) domain

/-- An entry is written. -/
def put (k : String) (x : CacheValue) (ttl : ℤ) (v : View) : View :=
  { v with cache := v.cache.set v.now k x ttl }

/-- The device is seen now. -/
def stamp (id : String) (v : View) : View :=
  { v with cards := v.cards.map fun c => if c.id = id then { c with seen := some v.now } else c }

/-- The device is seen now, unless its heartbeat is throttled. -/
def touch (id : String) (v : View) : View :=
  match v.cache.get v.now (heartbeatKey id) with
  | some _ => v
  | none => (v.stamp id).put (heartbeatKey id) .throttled 10000

/-- The device that is known, if any, is touched. -/
def touchKnown : Option String → View → View
  | some id => touch id
  | none => fun v => v

end View

/-- What a check of a name from an address does to the view.

* `hit`: the decision is cached, and the device the address is mapped to is touched;
* `unknown`: no device has the address, and the decision is cached;
* `known`: a device has it; the address is mapped to it, the decision cached, the device touched. -/
inductive Checked (ip domain : String) (v : View) : View → Prop where
  | hit {r : DnsPolicyResponse}
      (h : cachedDecision (v.cache.get v.now (v.key ip domain)) = some r) :
      Checked ip domain v (v.touchKnown (knownDeviceId (v.cache.get v.now (deviceIdKey ip))))
  | unknown (r : DnsPolicyResponse)
      (h : cachedDecision (v.cache.get v.now (v.key ip domain)) = none)
      (hnone : ∀ c ∈ v.cards, c.holds ip = false) :
      Checked ip domain v (v.put (v.key ip domain) (.decision r) decisionTtl)
  | known (r : DnsPolicyResponse) {c : Card}
      (h : cachedDecision (v.cache.get v.now (v.key ip domain)) = none) (hc : c ∈ v.cards)
      (hip : c.holds ip = true) :
      Checked ip domain v (((v.put (deviceIdKey ip) (.deviceId c.id) decisionTtl).put
        (v.key ip domain) (.decision r) decisionTtl).touch c.id)

/-! ### The writes of a check -/

/-- The world shows the view. -/
def Shows (v : View) (w : World) : Prop := view w = v

section Writes
variable {v : View}

theorem steady_shows : Steady (Shows v) := fun _ h => h

theorem leads_put (k : String) (x : CacheValue) (ttl : ℤ) :
    Prog.Leads (Shows v) (Shows (v.put k x ttl)) (cacheSet k x ttl) := by
  rintro w rfl
  rfl

theorem keeps_logQuery (domain sourceIp action : String) :
    Prog.Keeps (Shows v) (logQuery domain sourceIp action) := by
  have hfree : Free Model.dnsQueryLog (Shows v) := fun _ _ h => h
  exact keeps_ignoreErrors ((hfree.create steady_shows _).bind fun _ => .pure _)

theorem keeps_recordUnknownDomain (env : Env) (domain sourceIp deviceId : String) :
    Prog.Keeps (Shows v) (recordUnknownDomain env domain sourceIp deviceId) := by
  have hfree : Free Model.unknownDomainLog (Shows v) := fun _ _ h => h
  exact .ite (fun _ => .pure _) fun _ => keeps_ignoreErrors (.bind keeps_newDate fun _ =>
    (hfree.upsert steady_shows _ _ _ _).bind fun _ => .pure _)

/-- The stamped rows. -/
theorem cards_patch (t : Table Device.id) (now : Time) (id : String) :
    (Model.device.patch t now id (fun d => { d with lastDnsSeenAt := some now })
        fun _ => rfl).rows.map cardOf =
      (t.rows.map cardOf).map fun c => if c.id = id then { c with seen := some now } else c := by
  change (t.rows.map _).map cardOf = _
  rw [List.map_map, List.map_map]
  refine List.map_congr_left fun d _ => ?_
  by_cases h : d.id = id
  · simp [h, cardOf, Model.device]
  · simp [h, cardOf]

/-- The row of the device is stamped, if there is one. -/
theorem leads_updateDnsSeen (id : String) :
    Prog.Leads (Shows v) (Shows (v.stamp id)) (updateDnsSeen id) := by
  rintro w rfl
  unfold updateDnsSeen ignoreErrors
  rw [Prog.run_catchErr, Prog.run_bind, run_newDate]
  dsimp only
  rw [Prog.run_bind]
  rcases hfind : w.db.devices.find id with _ | d
  · rw [run_update_none hfind]
    have hsame : (view w).stamp id = view w := by
      unfold View.stamp view
      rw [List.map_map]
      congr 1
      refine List.map_congr_left fun d hd => if_neg fun hid => ?_
      exact Table.find_eq_none.mp hfind d hd hid
    rw [hsame]
    rfl
  · rw [@run_update _ _ Model.device w id d (fun d => { d with lastDnsSeenAt := some w.now })
      (fun _ => rfl) hfind rfl rfl]
    unfold Shows View.stamp
    rw [show (view w).cards = w.db.devices.rows.map cardOf from rfl, ← cards_patch]
    rfl

theorem leads_touchHeartbeat (id : String) :
    Prog.Leads (Shows v) (Shows (v.touch id)) (touchHeartbeat id) := by
  intro w hw
  unfold touchHeartbeat View.touch
  rw [Prog.run_bind, run_cacheGet]
  dsimp only
  have hget : w.cache.get w.now (heartbeatKey id) = v.cache.get v.now (heartbeatKey id) := by
    rw [← hw]
    rfl
  rw [hget]
  rcases v.cache.get v.now (heartbeatKey id) with _ | x
  · exact (leads_updateDnsSeen id).seq (fun s => ⟨_, yields_ignoreErrors _ s⟩)
      (fun _ => leads_put _ _ _) w hw
  · exact hw

theorem leads_touchKnownDevice (ip : String) :
    Prog.Leads (Shows v)
      (Shows (v.touchKnown (knownDeviceId (v.cache.get v.now (deviceIdKey ip)))))
      (touchKnownDevice ip) := by
  intro w hw
  unfold touchKnownDevice
  rw [Prog.run_bind, run_cacheGet]
  dsimp only
  have hget : w.cache.get w.now (deviceIdKey ip) = v.cache.get v.now (deviceIdKey ip) := by
    rw [← hw]
    rfl
  rw [hget]
  rcases knownDeviceId (v.cache.get v.now (deviceIdKey ip)) with _ | id
  · exact hw
  · exact leads_touchHeartbeat id w hw

theorem leads_answer (key domain sourceIp id : String) (r : DnsPolicyResponse) :
    Prog.Leads (Shows v) (Shows ((v.put key (.decision r) decisionTtl).touch id))
      (answer key domain sourceIp id r) :=
  (leads_put _ _ _).seq (fun _ => ⟨_, rfl⟩) fun _ =>
    (Prog.Leads.of_keeps (keeps_logQuery _ _ _) fun _ h => h).seq
      (fun s => ⟨_, yields_ignoreErrors _ s⟩) fun _ =>
        (leads_touchHeartbeat id).seq (fun s => ⟨_, yields_touchHeartbeat id s⟩) fun _ _ h => h

/-- Some decision has been cached and the device touched. -/
def Answered (v : View) (key id : String) (w : World) : Prop :=
  ∃ r, Shows ((v.put key (.decision r) decisionTtl).touch id) w

theorem leads_answered (key domain sourceIp id : String) (r : DnsPolicyResponse) :
    Prog.Leads (Shows v) (Answered v key id) (answer key domain sourceIp id r) :=
  fun w hw => ⟨r, leads_answer key domain sourceIp id r w hw⟩

theorem leads_session (env : Env) (key sourceIp domain : String) (d : Device) :
    Prog.Leads (Shows v) (Answered v key d.id)
      (checkSessionAndDomains env key sourceIp domain d) := by
  have hquery : ∀ {α : Type} (f : Database → ℕ → α),
      Prog.Leads (Shows v) (Shows v) (Prisma.query f) :=
    fun f => .of_keeps (keeps_query steady_shows f) fun _ h => h
  have hanswer : ∀ r, Prog.Leads (Shows v) (Answered v key d.id)
      (answer key domain sourceIp d.id r) := fun r => leads_answered _ _ _ _ r
  unfold checkSessionAndDomains findFirstBy findBlockedDomain findFirst
  refine (hquery _).seq (fun _ => ⟨_, rfl⟩) fun s =>
    (Prog.Leads.of_keeps keeps_newDate fun _ h => h).seq (fun _ => ⟨_, rfl⟩) fun now =>
    .ite (fun _ => hanswer _) fun _ => (hquery _).seq (fun _ => ⟨_, rfl⟩) fun b => ?_
  rcases b with _ | b
  · exact (hanswer _).andThen fun _ => .bind (fun w hw =>
      hw.imp fun _ h => keeps_recordUnknownDomain _ _ _ _ w h) fun _ => .pure _
  · have hcategory : Prog.Leads (Shows v) (Shows v) (categoryBlocked d b) := by
      unfold categoryBlocked findUniqueBy
      split
      · exact .of_keeps ((keeps_query steady_shows _).bind fun _ => .pure _) fun _ h => h
      · exact .of_keeps (.pure _) fun _ h => h
    have hok : ∀ w, ∃ a, ((categoryBlocked d b).run w).1 = .ok a := fun w => by
      obtain ⟨w', hw'⟩ := run_categoryBlocked d b w
      exact ⟨_, by rw [hw']⟩
    exact hcategory.seq hok fun _ => .ite (fun _ => hanswer _) fun _ => hanswer _

end Writes

/-! ### A check -/

/-- What a miss does to the view. -/
def Missed (ip key : String) (v : View) (w : World) : Prop :=
  (∃ r, (∀ c ∈ v.cards, c.holds ip = false) ∧ Shows (v.put key (.decision r) decisionTtl) w) ∨
    ∃ c ∈ v.cards, c.holds ip = true ∧
      Answered (v.put (deviceIdKey ip) (.deviceId c.id) decisionTtl) key c.id w

theorem leads_miss (env : Env) (key ip domain : String) (v : View) :
    Prog.Leads (Shows v) (Missed ip key v) (checkPolicyMiss env key ip domain) := by
  have hfound : ∀ w, Shows v w → ∃ o : Option Device,
      ((Prisma.findFirst .device (holds ip)).run w).1 = .ok o ∧
        (o = none → ∀ c ∈ v.cards, c.holds ip = false) ∧
        ∀ d, o = some d → cardOf d ∈ v.cards ∧ holds ip d = true := by
    rintro w rfl
    refine ⟨lookup w.db (w.tape w.calls) ip, rfl, fun hl c hc => ?_, fun d hl => ?_⟩
    · obtain ⟨d, hd, rfl⟩ := List.mem_map.mp hc
      exact lookup_eq_none.mp hl d hd
    · obtain ⟨hd, hip⟩ := lookup_eq_some hl
      exact ⟨List.mem_map_of_mem hd, hip⟩
  unfold checkPolicyMiss
  refine .seqOf (.of_keeps (keeps_query steady_shows _) fun _ h => h) hfound fun o ho => ?_
  rcases o with _ | d
  · refine (leads_put _ _ _).seq (fun _ => ⟨_, rfl⟩) fun _ =>
      (Prog.Leads.of_keeps (keeps_logQuery _ _ _) fun _ h => h).seq
        (fun s => ⟨_, yields_ignoreErrors _ s⟩) fun _ w hw => ?_
    exact .inl ⟨_, ho.1 rfl, hw⟩
  · obtain ⟨hcard, hip⟩ := ho.2 d rfl
    have hmissed : ∀ w, Answered (v.put (deviceIdKey ip) (.deviceId d.id) decisionTtl) key d.id w →
        Missed ip key v w := fun w hw => .inr ⟨cardOf d, hcard, hip, hw⟩
    refine (leads_put _ _ _).seq (fun _ => ⟨_, rfl⟩) fun _ w hw => hmissed _ ?_
    have hanswer := fun r => @leads_answered (v.put (deviceIdKey ip) (.deviceId d.id) decisionTtl)
      key domain ip d.id r
    exact Prog.Leads.ite (fun _ => hanswer _) (fun _ => .ite (fun _ => hanswer _) fun _ =>
      .ite (fun _ => hanswer _) fun _ => leads_session env key ip domain d) w hw

/-- **What a check does to the view.** -/
theorem checked_checkPolicy (env : Env) (ip domain : String) (w : World) :
    Checked ip domain (view w) (view ((checkPolicy env ip domain).run w).2) := by
  rcases hc : cachedFor w ip domain with _ | r
  · rw [run_checkPolicy_of_miss hc]
    rcases leads_miss env _ ip domain (view w) w rfl with
      ⟨r, hnone, hshows⟩ | ⟨c, hmem, hip, r, hshows⟩
    · rw [show view _ = _ from hshows]
      exact .unknown r hc hnone
    · rw [show view _ = _ from hshows]
      exact .known r hc hmem hip
  · rw [run_checkPolicy_of_hit hc]
    have hhit := (leads_touchKnownDevice (v := view w) ip).andThen fun _ => .pure r
    rw [show view _ = _ from hhit w rfl]
    exact .hit hc

end GuardTime.Dns.Heartbeat
