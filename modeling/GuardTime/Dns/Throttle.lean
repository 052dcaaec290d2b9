import Mathlib.Tactic
import GuardTime.Dns.Heartbeat
import GuardTime.Dns.Decision

/-! # Heartbeats are throttled but never stale

Runs of checks and invalidations, the addresses of the devices fixed and unique. Two writes of a
device's `lastDnsSeenAt` are ten seconds apart, and right after a check from an address of a device
its `lastDnsSeenAt` is less than ten seconds old (`heartbeat_fresh`).

* `Sound`: a live decision of an address never outlives the entry that maps it to its device, and a
  throttling entry is as old as the write it throttles;
* `Checked.eq_touch`: a check touches one device, which the cache and the addresses determine. -/

namespace GuardTime.Dns.Heartbeat

open GuardTime.Lib.Program GuardTime.Lib.Keyed GuardTime.Lib.TtlCache GuardTime.Lib.Js
open GuardTime.Schema GuardTime.Server GuardTime.Prisma GuardTime.Services
open GuardTime.Services.DnsPolicy
open GuardTime.Dns.Engine GuardTime.Dns.Cache

/-! ### Runs -/

/-- A call with its time and the change of the database since the call before. -/
structure Event where
  time : Time
  edit : Database → Database
  call : Versions.Call

/-- The change leaves the addresses and the heartbeats of all devices alone. -/
def Event.Calm (e : Event) : Prop :=
  ∀ db : Database, (e.edit db).devices.rows.map cardOf = db.devices.rows.map cardOf

/-- A call whose name, if it checks one, has no `:`. -/
def Plain (c : Versions.Call) : Prop := ∀ ip domain, c = .check ip domain → ':' ∉ domain.toList

/-- Events in the order of time that leave the addresses alone and check names without `:`. -/
structure Regular (es : List Event) : Prop where
  calm : ∀ e ∈ es, e.Calm
  plain : ∀ e ∈ es, Plain e.call
  ordered : es.Pairwise fun e e' => e.time ≤ e'.time

/-- The world in which the call is made. -/
def Event.before (e : Event) (w : World) : World := { w with now := e.time, db := e.edit w.db }

/-- The world after the call. -/
def after (env : Env) (w : World) : Versions.Call → World
  | .check sourceIp domain => ((checkPolicy env sourceIp domain).run w).2
  | .invalidate ips => ((invalidateSourceIps ips).run w).2

/-- The world after the call of the event. -/
def step (env : Env) (w : World) (e : Event) : World := after env (e.before w) e.call

/-- The world after the calls. -/
def reach (env : Env) (w : World) (es : List Event) : World := es.foldl (step env) w

/-- When the device was last seen. -/
def lastSeen (w : World) (id : String) : Option Time :=
  (w.db.devices.find id).bind Device.lastDnsSeenAt

/-- The world, had no device ever been seen. -/
def unseen (w : World) : World :=
  { w with db := { w.db with
      devices := w.db.devices.modify (fun _ => true) (fun d => { d with lastDnsSeenAt := none })
        fun _ => rfl } }

/-- The call of the event writes `lastDnsSeenAt` of the device: it sets it even where it was never
set before. -/
def Writes (env : Env) (w : World) (e : Event) (id : String) : Prop :=
  (lastSeen (after env (unseen (e.before w)) e.call) id).isSome

instance (env : Env) (w : World) (e : Event) (id : String) : Decidable (Writes env w e id) :=
  inferInstanceAs (Decidable (_ = true))

/-! ### What is touched -/

/-- No two devices hold one address. -/
def View.Unique (v : View) : Prop :=
  ∀ ip, ∀ c ∈ v.cards, ∀ c' ∈ v.cards, c.holds ip = true → c'.holds ip = true → c.id = c'.id

/-- The device a check touches: on a cached decision the one the address is mapped to, else the one
that holds the address. -/
def View.target (v : View) (ip domain : String) : Option String :=
  if cachedDecision (v.cache.get v.now (v.key ip domain)) = none then
    (v.cards.find? (·.holds ip)).map Card.id
  else knownDeviceId (v.cache.get v.now (deviceIdKey ip))

/-- The views differ at most in entries of the cache that are no heartbeats. -/
structure SameBeats (v v' : View) : Prop where
  now : v'.now = v.now
  cards : v'.cards = v.cards
  beat : ∀ id, v'.cache (heartbeatKey id) = v.cache (heartbeatKey id)

theorem SameBeats.refl (v : View) : SameBeats v v := ⟨rfl, rfl, fun _ => rfl⟩

theorem heartbeatKey_injective {id id' : String} (h : heartbeatKey id = heartbeatKey id') :
    id = id' := by
  have := congrArg String.toList h
  exact String.toList_inj.mp (by simpa [heartbeatKey] using this)

theorem deviceIdKey_injective {ip ip' : String} (h : deviceIdKey ip = deviceIdKey ip') :
    ip = ip' := by
  have := congrArg String.toList h
  exact String.toList_inj.mp (by simpa [deviceIdKey] using this)

theorem deviceIdKey_ne_heartbeatKey (ip id : String) : deviceIdKey ip ≠ heartbeatKey id := by
  intro h
  have := congrArg (fun s => s.toList[3]?) h
  simp [deviceIdKey, heartbeatKey] at this

theorem decisionKey_ne_deviceIdKey (ip : String) (n : ℕ) (domain s : String) :
    decisionKey ip n domain ≠ deviceIdKey s :=
  fun h => not_isAux_decisionKey ip n domain ⟨s, .inl h⟩

theorem decisionKey_ne_heartbeatKey (ip : String) (n : ℕ) (domain s : String) :
    decisionKey ip n domain ≠ heartbeatKey s :=
  fun h => not_isAux_decisionKey ip n domain ⟨s, .inr h⟩

theorem versionKey_ne_deviceIdKey (ip s : String) : versionKey ip ≠ deviceIdKey s :=
  fun h => not_isAux_versionKey ip ⟨s, .inl h⟩

theorem versionKey_ne_heartbeatKey (ip s : String) : versionKey ip ≠ heartbeatKey s :=
  fun h => not_isAux_versionKey ip ⟨s, .inr h⟩

theorem View.put_self (k : String) (x : CacheValue) (ttl : ℤ) (v : View) :
    (v.put k x ttl).cache k = some ⟨x, v.now, ttl⟩ := Cache.set_self ..

theorem View.put_of_ne {k k' : String} (hk : k' ≠ k) (x : CacheValue) (ttl : ℤ) (v : View) :
    (v.put k x ttl).cache k' = v.cache k' := Cache.set_of_ne _ _ _ _ hk

/-- Caching a decision writes no heartbeat. -/
theorem View.put_decision_beat (v v' : View) (ip domain id : String) (x : CacheValue) (ttl : ℤ) :
    (v.put (v'.key ip domain) x ttl).cache (heartbeatKey id) = v.cache (heartbeatKey id) :=
  View.put_of_ne (decisionKey_ne_heartbeatKey _ _ _ id).symm x ttl v

/-- Mapping an address writes no heartbeat. -/
theorem View.put_deviceId_beat (v : View) (ip id : String) (x : CacheValue) (ttl : ℤ) :
    (v.put (deviceIdKey ip) x ttl).cache (heartbeatKey id) = v.cache (heartbeatKey id) :=
  View.put_of_ne (deviceIdKey_ne_heartbeatKey _ id).symm x ttl v

/-- **A check touches its target**, and otherwise writes no heartbeat. -/
theorem Checked.eq_touch {ip domain : String} {v v' : View} (h : Checked ip domain v v')
    (hu : v.Unique) : ∃ v₀, SameBeats v v₀ ∧ v' = v₀.touchKnown (v.target ip domain) := by
  unfold View.target
  cases h with
  | hit h =>
    refine ⟨v, .refl v, ?_⟩
    rw [if_neg (by simp [h])]
  | unknown r h hnone =>
    refine ⟨v.put (v.key ip domain) (.decision r) decisionTtl, ⟨rfl, rfl, fun id => ?_⟩, ?_⟩
    · exact View.put_decision_beat v v ip domain id _ _
    · have hfind : v.cards.find? (·.holds ip) = none :=
        List.find?_eq_none.mpr fun c hc => by simp [hnone c hc]
      rw [if_pos h, hfind]
      rfl
  | @known r c h hc hip =>
    refine ⟨(v.put (deviceIdKey ip) (.deviceId c.id) decisionTtl).put (v.key ip domain)
      (.decision r) decisionTtl, ⟨rfl, rfl, fun id => ?_⟩, ?_⟩
    · rw [View.put_decision_beat, View.put_deviceId_beat]
    · obtain ⟨c', hfind⟩ : ∃ c', v.cards.find? (·.holds ip) = some c' :=
        Option.isSome_iff_exists.mp (List.find?_isSome.mpr ⟨c, hc, hip⟩)
      have hid : c'.id = c.id :=
        hu ip c' (List.mem_of_find?_eq_some hfind) c hc (List.find?_some hfind) hip
      rw [if_pos h, hfind]
      rw [Option.map_some, hid]
      rfl

/-! ### The invariant -/

/-- What holds of the view at any time after the calls so far. -/
structure Sound (v : View) : Prop where
  unique : v.Unique
  ids : ∀ c ∈ v.cards, c.id ≠ ""
  heartbeat : ∀ id e, v.cache (heartbeatKey id) = some e → e.ttl = 10000 ∧ e.setAt ≤ v.now ∧
    ∀ c ∈ v.cards, c.id = id → c.seen = some e.setAt
  decision : ∀ ip n domain e, ':' ∉ domain.toList →
    v.cache (decisionKey ip n domain) = some e → e.ttl = decisionTtl ∧ e.setAt ≤ v.now ∧
      ∀ c ∈ v.cards, c.holds ip = true → ∃ t, e.setAt ≤ t ∧
        v.cache (deviceIdKey ip) = some ⟨.deviceId c.id, t, decisionTtl⟩

/-- The device was seen less than ten seconds ago. -/
def Card.Fresh (c : Card) (now : Time) : Prop := ∃ t, c.seen = some t ∧ t ≤ now ∧ now - t < 10000

/-- The heartbeat of the device has been throttled since `t`. -/
def Throttled (t : Time) (id : String) (v : View) : Prop :=
  ∃ e, v.cache (heartbeatKey id) = some e ∧ t ≤ e.setAt ∧ e.ttl = 10000

/-- A card after a write of a heartbeat. -/
theorem exists_of_stamp {v : View} {id k : String} {x : CacheValue} {ttl : ℤ} {c : Card}
    (hc : c ∈ ((v.stamp id).put k x ttl).cards) : ∃ c₀ ∈ v.cards, c₀.id = c.id ∧
      (∀ ip, c₀.holds ip = c.holds ip) ∧ c.seen = if c₀.id = id then some v.now else c₀.seen := by
  obtain ⟨c₀, hc₀, rfl⟩ := List.mem_map.mp hc
  refine ⟨c₀, hc₀, ?_⟩
  by_cases h : c₀.id = id
  · rw [if_pos h, if_pos h]
    exact ⟨rfl, fun _ => rfl, rfl⟩
  · rw [if_neg h, if_neg h]
    exact ⟨rfl, fun _ => rfl, rfl⟩

namespace Sound

/-- Time passes. -/
theorem later {v : View} (h : Sound v) {t : Time} (ht : v.now ≤ t) : Sound { v with now := t } where
  unique := h.unique
  ids := h.ids
  heartbeat id e he := by
    obtain ⟨httl, hset, hseen⟩ := h.heartbeat id e he
    exact ⟨httl, le_trans hset ht, hseen⟩
  decision ip n domain e hd he := by
    obtain ⟨httl, hset, hmap⟩ := h.decision ip n domain e hd he
    exact ⟨httl, le_trans hset ht, hmap⟩

/-- What only changes versions keeps the invariant. -/
theorem of_versions {v : View} (h : Sound v) {c : Cache String CacheValue}
    (hc : ∀ k, (∀ ip, k ≠ versionKey ip) → c k = v.cache k) : Sound { v with cache := c } where
  unique := h.unique
  ids := h.ids
  heartbeat id e he := by
    refine h.heartbeat id e ?_
    rwa [← hc _ fun ip => (versionKey_ne_heartbeatKey ip id).symm]
  decision ip n domain e hd he := by
    have hmap := hc (deviceIdKey ip) fun ip' => (versionKey_ne_deviceIdKey ip' ip).symm
    dsimp only
    rw [hmap]
    refine h.decision ip n domain e hd ?_
    rwa [← hc _ fun ip' => decisionKey_ne_versionKey ip n domain ip']

/-- A decision is cached, the address mapped to the device that holds it. -/
theorem decide {v : View} (h : Sound v) {ip domain : String} {n : ℕ} (r : DnsPolicyResponse)
    (hd : ':' ∉ domain.toList)
    (hmap : ∀ c ∈ v.cards, c.holds ip = true →
      v.cache (deviceIdKey ip) = some ⟨.deviceId c.id, v.now, decisionTtl⟩) :
    Sound (v.put (decisionKey ip n domain) (.decision r) decisionTtl) where
  unique := h.unique
  ids := h.ids
  heartbeat id e he := by
    rw [View.put_of_ne (decisionKey_ne_heartbeatKey ip n domain id).symm] at he
    exact h.heartbeat id e he
  decision ip' n' domain' e hd' he := by
    rw [View.put_of_ne (decisionKey_ne_deviceIdKey ip n domain ip').symm]
    by_cases hk : decisionKey ip' n' domain' = decisionKey ip n domain
    · obtain ⟨rfl, rfl, rfl⟩ := decisionKey_injective hd' hd hk
      rw [View.put_self] at he
      obtain rfl := Option.some.inj he
      exact ⟨rfl, le_rfl, fun c hc hip => ⟨v.now, le_rfl, hmap c hc hip⟩⟩
    · rw [View.put_of_ne hk] at he
      exact h.decision ip' n' domain' e hd' he

/-- An address is mapped to the device that holds it. -/
theorem mapTo {v : View} (h : Sound v) {ip : String} {c : Card} (hc : c ∈ v.cards)
    (hip : c.holds ip = true) :
    Sound (v.put (deviceIdKey ip) (.deviceId c.id) decisionTtl) where
  unique := h.unique
  ids := h.ids
  heartbeat id e he := by
    rw [View.put_deviceId_beat] at he
    exact h.heartbeat id e he
  decision ip' n domain e hd he := by
    rw [View.put_of_ne (decisionKey_ne_deviceIdKey ip' n domain ip)] at he
    obtain ⟨httl, hset, hmap⟩ := h.decision ip' n domain e hd he
    refine ⟨httl, hset, fun c' hc' hip' => ?_⟩
    by_cases hs : ip' = ip
    · subst hs
      rw [h.unique ip' c' hc' c hc hip' hip]
      exact ⟨v.now, hset, View.put_self ..⟩
    · obtain ⟨t, ht, hentry⟩ := hmap c' hc' hip'
      have hne : deviceIdKey ip' ≠ deviceIdKey ip := fun h => hs (deviceIdKey_injective h)
      exact ⟨t, ht, by rw [View.put_of_ne hne, hentry]⟩

/-- A device is touched. -/
theorem touch {v : View} (h : Sound v) (id : String) : Sound (v.touch id) := by
  unfold View.touch
  rcases v.cache.get v.now (heartbeatKey id) with _ | _
  · exact
    { unique := fun ip c hc c' hc' hip hip' => by
        obtain ⟨c₀, hc₀, hid, hholds, -⟩ := exists_of_stamp hc
        obtain ⟨c₁, hc₁, hid', hholds', -⟩ := exists_of_stamp hc'
        rw [← hid, ← hid']
        exact h.unique ip c₀ hc₀ c₁ hc₁ (hholds ip ▸ hip) (hholds' ip ▸ hip')
      ids := fun c hc => by
        obtain ⟨c₀, hc₀, hid, -⟩ := exists_of_stamp hc
        exact hid ▸ h.ids c₀ hc₀
      heartbeat := fun id' e he => by
        by_cases hs : id' = id
        · subst hs
          rw [View.put_self] at he
          obtain rfl := Option.some.inj he
          refine ⟨rfl, le_rfl, fun c hc hid' => ?_⟩
          obtain ⟨c₀, -, hid, -, hseen⟩ := exists_of_stamp hc
          rw [hseen, if_pos (hid.trans hid')]
          rfl
        · have hk : heartbeatKey id' ≠ heartbeatKey id := fun h => hs (heartbeatKey_injective h)
          rw [View.put_of_ne hk] at he
          obtain ⟨httl, hset, hall⟩ := h.heartbeat id' e he
          refine ⟨httl, hset, fun c hc hid' => ?_⟩
          obtain ⟨c₀, hc₀, hid, -, hseen⟩ := exists_of_stamp hc
          rw [hseen, if_neg fun heq => hs (hid'.symm.trans (hid.symm.trans heq))]
          exact hall c₀ hc₀ (hid.trans hid')
      decision := fun ip n domain e hd he => by
        rw [View.put_of_ne (decisionKey_ne_heartbeatKey ip n domain id)] at he
        rw [View.put_of_ne (deviceIdKey_ne_heartbeatKey ip id)]
        obtain ⟨httl, hset, hmap⟩ := h.decision ip n domain e hd he
        refine ⟨httl, hset, fun c hc hip => ?_⟩
        obtain ⟨c₀, hc₀, hid, hholds, -⟩ := exists_of_stamp hc
        rw [← hid]
        exact hmap c₀ hc₀ (hholds ip ▸ hip) }
  · exact h

/-- **A check keeps the invariant.** -/
theorem checked {v v' : View} (h : Sound v) {ip domain : String} (hd : ':' ∉ domain.toList)
    (hv : Checked ip domain v v') : Sound v' := by
  cases hv with
  | hit hc =>
    rcases knownDeviceId (v.cache.get v.now (deviceIdKey ip)) with _ | id
    · exact h
    · exact h.touch id
  | unknown r hc hnone =>
    refine h.decide r hd fun c hmem hip => ?_
    rw [hnone c hmem] at hip
    cases hip
  | @known r c hc hmem hip =>
    have hmap := h.mapTo hmem hip
    refine (hmap.decide r hd fun c' hmem' hip' => ?_).touch c.id
    rw [h.unique ip c' hmem' c hmem hip' hip]
    exact View.put_self ..

end Sound

/-! ### A device that is touched -/

/-- A device whose heartbeat is throttled was seen less than ten seconds ago. -/
theorem Sound.fresh {v : View} (h : Sound v) {c : Card} (hc : c ∈ v.cards)
    (hlive : (v.cache.get v.now (heartbeatKey c.id)).isSome) : c.Fresh v.now := by
  obtain ⟨x, hx⟩ := Option.isSome_iff_exists.mp hlive
  obtain ⟨e, he, hlt, -⟩ := Cache.get_eq_some.mp hx
  obtain ⟨httl, hset, hall⟩ := h.heartbeat c.id e he
  unfold Entry.Live at hlt
  rw [httl] at hlt
  exact ⟨e.setAt, hall c hc rfl, hset, sub_lt_iff_lt_add'.mpr hlt⟩

/-- A device that is touched has its heartbeat throttled, anew or still. -/
theorem isSome_touch (v : View) (id : String) :
    ((v.touch id).cache.get (v.touch id).now (heartbeatKey id)).isSome := by
  unfold View.touch
  rcases hget : v.cache.get v.now (heartbeatKey id) with _ | x
  · refine Option.isSome_iff_exists.mpr ⟨.throttled, ?_⟩
    refine Cache.get_eq_some.mpr ⟨_, View.put_self .., ?_, rfl⟩
    exact lt_add_of_pos_right v.now (by decide : (0 : ℤ) < 10000)
  · dsimp only
    rw [hget]
    rfl

/-- **A check touches the device of its address**, also when it answers from the cache. -/
theorem target_of_holds {v : View} (h : Sound v) {ip domain : String} (hd : ':' ∉ domain.toList)
    {c : Card} (hc : c ∈ v.cards) (hip : c.holds ip = true) :
    v.target ip domain = some c.id := by
  unfold View.target
  rcases hdec : cachedDecision (v.cache.get v.now (v.key ip domain)) with _ | r
  · obtain ⟨c', hfind⟩ : ∃ c', v.cards.find? (·.holds ip) = some c' :=
      Option.isSome_iff_exists.mp (List.find?_isSome.mpr ⟨c, hc, hip⟩)
    have hid : c'.id = c.id :=
      h.unique ip c' (List.mem_of_find?_eq_some hfind) c hc (List.find?_some hfind) hip
    rw [if_pos rfl, hfind, Option.map_some, hid]
  · obtain ⟨x, hx⟩ : ∃ x, v.cache.get v.now (v.key ip domain) = some x := by
      rcases hget : v.cache.get v.now (v.key ip domain) with _ | x
      · rw [hget] at hdec
        cases hdec
      · exact ⟨x, rfl⟩
    obtain ⟨e, he, hlive, -⟩ := Cache.get_eq_some.mp hx
    obtain ⟨httl, -, hmap⟩ := h.decision ip _ domain e hd he
    -- The mapping is no older than the decision and lives as long.
    obtain ⟨t, ht, hentry⟩ := hmap c hc hip
    have hget : v.cache.get v.now (deviceIdKey ip) = some (.deviceId c.id) := by
      refine Cache.get_eq_some.mpr ⟨_, hentry, ?_, rfl⟩
      unfold Entry.Live at hlive ⊢
      rw [httl] at hlive
      dsimp only
      omega
    rw [if_neg (by simp), hget]
    exact if_neg (h.ids c hc)

/-! ### Throttling -/

theorem Throttled.touch {t : Time} {id : String} {v : View} (h : Throttled t id v) (ht : t ≤ v.now)
    (id' : String) : Throttled t id (v.touch id') := by
  unfold View.touch
  rcases v.cache.get v.now (heartbeatKey id') with _ | _
  · by_cases hs : id = id'
    · subst hs
      exact ⟨_, View.put_self .., ht, rfl⟩
    · obtain ⟨e, he, hset, httl⟩ := h
      have hk : heartbeatKey id ≠ heartbeatKey id' := fun h => hs (heartbeatKey_injective h)
      exact ⟨e, by rw [View.put_of_ne hk]; exact he, hset, httl⟩
  · exact h

theorem Throttled.checked {t : Time} {id : String} {v v' : View} (h : Throttled t id v)
    (ht : t ≤ v.now) (hu : v.Unique) {ip domain : String} (hv : Checked ip domain v v') :
    Throttled t id v' := by
  obtain ⟨v₀, hsame, rfl⟩ := hv.eq_touch hu
  have h₀ : Throttled t id v₀ := by
    obtain ⟨e, he, hset, httl⟩ := h
    exact ⟨e, (hsame.beat id).trans he, hset, httl⟩
  rcases v.target ip domain with _ | id'
  · exact h₀
  · exact h₀.touch (hsame.now.symm ▸ ht) id'

/-- While a heartbeat is throttled for less than ten seconds it still answers. -/
theorem Throttled.le_of_none {t : Time} {id : String} {v : View} (h : Throttled t id v)
    (hget : v.cache.get v.now (heartbeatKey id) = none) : 10000 ≤ v.now - t := by
  obtain ⟨e, he, hset, httl⟩ := h
  have hlive := Cache.get_eq_none.mp hget e he
  unfold Entry.Live at hlive
  rw [httl] at hlive
  have hend : e.setAt + 10000 ≤ v.now := not_lt.mp hlive
  exact le_sub_iff_add_le'.mpr (le_trans (Int.add_le_add_right hset _) hend)

/-! ### Writes -/

/-- The view, had no device ever been seen. -/
def View.unseen (v : View) : View :=
  { v with cards := v.cards.map fun c => { c with seen := none } }

theorem now_touch (v : View) (id : String) : (v.touch id).now = v.now := by
  unfold View.touch
  rcases v.cache.get v.now (heartbeatKey id) with _ | _
  · rfl
  · rfl

theorem unseen_touch (v : View) (id : String) : (v.touch id).unseen.cards = v.unseen.cards := by
  unfold View.touch
  rcases v.cache.get v.now (heartbeatKey id) with _ | _
  · unfold View.unseen View.stamp View.put
    rw [List.map_map]
    refine List.map_congr_left fun c _ => ?_
    by_cases h : c.id = id <;> simp [h]
  · rfl

theorem View.Unique.unseen {v : View} (h : v.Unique) : v.unseen.Unique := by
  rintro ip c hc c' hc' hip hip'
  obtain ⟨c₀, hc₀, rfl⟩ := List.mem_map.mp hc
  obtain ⟨c₁, hc₁, rfl⟩ := List.mem_map.mp hc'
  exact h ip c₀ hc₀ c₁ hc₁ hip hip'

theorem target_unseen (v : View) (ip domain : String) :
    v.unseen.target ip domain = v.target ip domain := by
  unfold View.target View.unseen
  rw [List.find?_map, Option.map_map]
  rfl

/-- Where no device was seen before, one seen after a check is the check's target. -/
theorem Checked.target_of_seen {ip domain : String} {v v' : View}
    (h : Checked ip domain v.unseen v') (hu : v.Unique) {c : Card} (hc : c ∈ v'.cards)
    (hseen : c.seen.isSome) : v.target ip domain = some c.id ∧
      v.cache.get v.now (heartbeatKey c.id) = none := by
  obtain ⟨v₀, hsame, rfl⟩ := h.eq_touch hu.unseen
  have hnever : ∀ c ∈ v₀.cards, c.seen = none := by
    intro c hc
    rw [hsame.cards] at hc
    obtain ⟨c₀, -, rfl⟩ := List.mem_map.mp hc
    rfl
  rw [target_unseen] at hc
  rcases htarget : v.target ip domain with _ | id
  · rw [htarget] at hc
    rw [hnever c hc] at hseen
    cases hseen
  · rw [htarget] at hc
    change c ∈ (v₀.touch id).cards at hc
    unfold View.touch at hc
    rcases hget : v₀.cache.get v₀.now (heartbeatKey id) with _ | x
    · rw [hget] at hc
      obtain ⟨c₀, hc₀, hid, -, heq⟩ := exists_of_stamp hc
      by_cases hs : c₀.id = id
      · rw [← hid, hs]
        refine ⟨rfl, ?_⟩
        rw [← hget]
        unfold Cache.get
        rw [hsame.now, hsame.beat]
        rfl
      · rw [heq, if_neg hs, hnever c₀ hc₀] at hseen
        cases hseen
    · rw [hget] at hc
      rw [hnever c hc] at hseen
      cases hseen

/-- A check that writes the heartbeat of its target throttles it. -/
theorem Checked.throttled {ip domain id : String} {v v' : View} (h : Checked ip domain v v')
    (hu : v.Unique) (htarget : v.target ip domain = some id)
    (hget : v.cache.get v.now (heartbeatKey id) = none) : Throttled v.now id v' := by
  obtain ⟨v₀, hsame, rfl⟩ := h.eq_touch hu
  have hget₀ : v₀.cache.get v₀.now (heartbeatKey id) = none := by
    rw [← hget]
    unfold Cache.get
    rw [hsame.now, hsame.beat]
  rw [htarget]
  change Throttled v.now id (v₀.touch id)
  unfold View.touch
  rw [hget₀]
  exact ⟨_, View.put_self .., le_of_eq hsame.now.symm, rfl⟩

/-! ### A call -/

/-- An invalidation changes nothing but versions. -/
theorem view_invalidate (w : World) (ips : List (Option String)) :
    ∃ c : Cache String CacheValue, (∀ k, (∀ ip, k ≠ versionKey ip) → c k = w.cache k) ∧
      view ((invalidateSourceIps ips).run w).2 = { view w with cache := c } := by
  let I : World → Prop := fun w' => ∃ c : Cache String CacheValue,
    (∀ k, (∀ ip, k ≠ versionKey ip) → c k = w.cache k) ∧ view w' = { view w with cache := c }
  have hkeeps : Prog.Keeps I (invalidateSourceIps ips) := by
    refine .forEach ips fun ip _ w' hw' => ?_
    rw [run_invalidateSourceIp]
    rcases truthy ip with _ | ip
    · exact hw'
    · obtain ⟨c, hc, hview⟩ := hw'
      have hcache : w'.cache = c := congrArg View.cache hview
      refine ⟨(bump ip w').cache, fun k hk => ?_, ?_⟩
      · rw [bump_of_ne (hk ip), hcache]
        exact hc k hk
      · change { view w' with cache := (bump ip w').cache } = _
        rw [hview]
  exact hkeeps w ⟨w.cache, fun _ _ => rfl, rfl⟩

section Call
variable {env : Env} {w : World} {c : Versions.Call}

theorem sound_after (env : Env) (h : Sound (view w)) (hc : Plain c) :
    Sound (view (after env w c)) := by
  cases c with
  | check ip domain => exact h.checked (hc ip domain rfl) (checked_checkPolicy env ip domain w)
  | invalidate ips =>
    obtain ⟨c, hc, hview⟩ := view_invalidate w ips
    unfold after
    rw [hview]
    exact h.of_versions hc

theorem throttled_after {t : Time} {id : String} (h : Throttled t id (view w)) (ht : t ≤ w.now)
    (hu : (view w).Unique) : Throttled t id (view (after env w c)) := by
  cases c with
  | check ip domain => exact h.checked ht hu (checked_checkPolicy env ip domain w)
  | invalidate ips =>
    obtain ⟨c, hc, hview⟩ := view_invalidate w ips
    unfold after
    rw [hview]
    obtain ⟨e, he, hset, httl⟩ := h
    have hkey := hc (heartbeatKey id) fun ip => (versionKey_ne_heartbeatKey ip id).symm
    exact ⟨e, hkey.trans he, hset, httl⟩

/-- The addresses stay. -/
theorem unseen_after (h : (view w).Unique) :
    (view (after env w c)).unseen.cards = (view w).unseen.cards := by
  cases c with
  | check ip domain =>
    obtain ⟨v₀, hsame, hview⟩ := (checked_checkPolicy env ip domain w).eq_touch h
    unfold after
    rw [hview]
    have h₀ : v₀.unseen.cards = (view w).unseen.cards := by
      unfold View.unseen
      rw [hsame.cards]
    rcases (view w).target ip domain with _ | id
    · exact h₀
    · exact (unseen_touch v₀ id).trans h₀
  | invalidate ips =>
    obtain ⟨c, -, hview⟩ := view_invalidate w ips
    unfold after
    rw [hview]
    rfl

/-- No call moves the clock. -/
theorem now_after (h : (view w).Unique) : (after env w c).now = w.now := by
  change (view (after env w c)).now = (view w).now
  cases c with
  | check ip domain =>
    obtain ⟨v₀, hsame, hview⟩ := (checked_checkPolicy env ip domain w).eq_touch h
    unfold after
    rw [hview, ← hsame.now]
    rcases (view w).target ip domain with _ | id
    · rfl
    · exact now_touch v₀ id
  | invalidate ips =>
    obtain ⟨c, -, hview⟩ := view_invalidate w ips
    unfold after
    rw [hview]

theorem view_unseen (w : World) : view (unseen w) = (view w).unseen := by
  unfold view unseen View.unseen
  congr 1
  change ((w.db.devices.rows.map _).map cardOf) = _
  rw [List.map_map, List.map_map]
  rfl

/-- The last time a device was seen, read off its card. -/
theorem lastSeen_of_mem {x : Card} (hx : x ∈ (view w).cards) : lastSeen w x.id = x.seen := by
  obtain ⟨d, hd, rfl⟩ := List.mem_map.mp hx
  unfold lastSeen
  rw [show (cardOf d).id = d.id from rfl, Table.find_key hd]
  rfl

theorem exists_of_lastSeen {id : String} (h : (lastSeen w id).isSome) :
    ∃ x ∈ (view w).cards, x.id = id ∧ x.seen.isSome := by
  unfold lastSeen at h
  rcases hfind : w.db.devices.find id with _ | d
  · rw [hfind] at h
    cases h
  · rw [hfind] at h
    have hid : d.id = id := Table.key_of_find hfind
    exact ⟨cardOf d, List.mem_map_of_mem (Table.mem_of_find hfind), hid, h⟩

/-- **A write is throttled**: a heartbeat is written where none was throttled, and throttled from
then on. -/
theorem throttled_of_writes {id : String} (hu : (view w).Unique)
    (h : (lastSeen (after env (unseen w) c) id).isSome) :
    w.cache.get w.now (heartbeatKey id) = none ∧
      Throttled w.now id (view (after env w c)) := by
  obtain ⟨x, hx, rfl, hseen⟩ := exists_of_lastSeen h
  cases c with
  | check ip domain =>
    have hchecked := checked_checkPolicy env ip domain (unseen w)
    rw [view_unseen] at hchecked
    obtain ⟨htarget, hget⟩ := hchecked.target_of_seen hu hx hseen
    exact ⟨hget, (checked_checkPolicy env ip domain w).throttled hu htarget hget⟩
  | invalidate ips =>
    obtain ⟨c, -, hview⟩ := view_invalidate (unseen w) ips
    unfold after at hx
    rw [hview, view_unseen] at hx
    obtain ⟨x₀, -, rfl⟩ := List.mem_map.mp hx
    cases hseen

end Call

/-! ### Runs -/

/-- The invariant at the time of every event to come. -/
def Ready (v : View) (es : List Event) : Prop := ∀ e ∈ es, Sound { v with now := e.time }

theorem Event.Calm.view_before {e : Event} (h : e.Calm) (w : World) :
    view (e.before w) = { view w with now := e.time } := by
  unfold view Event.before
  rw [h w.db]

section Run
variable {env : Env} {w : World}

theorem Regular.tail {e : Event} {es : List Event} (h : Regular (e :: es)) : Regular es where
  calm e' he' := h.calm e' (List.mem_cons_of_mem _ he')
  plain e' he' := h.plain e' (List.mem_cons_of_mem _ he')
  ordered := (List.pairwise_cons.mp h.ordered).2

/-- An event finds the invariant. -/
theorem Ready.sound {e : Event} {es : List Event} (h : Ready (view w) (e :: es))
    (hr : Regular (e :: es)) : Sound (view (e.before w)) := by
  rw [(hr.calm e List.mem_cons_self).view_before]
  exact h e List.mem_cons_self

/-- **Every event keeps the invariant for the events to come.** -/
theorem Ready.step (env : Env) {e : Event} {es : List Event} (h : Ready (view w) (e :: es))
    (hr : Regular (e :: es)) : Ready (view (step env w e)) es := by
  intro e' he'
  have hsound := h.sound hr
  have hafter := sound_after env hsound (hr.plain e List.mem_cons_self)
  have hnow : (view (Heartbeat.step env w e)).now = e.time := now_after hsound.unique
  refine hafter.later ?_
  rw [show (view (after env (e.before w) e.call)).now = e.time from hnow]
  exact (List.pairwise_cons.mp hr.ordered).1 e' he'

theorem Ready.reach (env : Env) {es es' : List Event} {w : World}
    (h : Ready (view w) (es ++ es')) (hr : Regular (es ++ es')) :
    Ready (view (reach env w es)) es' ∧ Regular es' := by
  induction es generalizing w with
  | nil => exact ⟨h, hr⟩
  | cons e es ih => exact ih (h.step env hr) hr.tail

/-- The addresses stay throughout a run. -/
theorem Ready.unseen (env : Env) {es es' : List Event} {w : World}
    (h : Ready (view w) (es ++ es')) (hr : Regular (es ++ es')) :
    (view (Heartbeat.reach env w es)).unseen.cards = (view w).unseen.cards := by
  induction es generalizing w with
  | nil => rfl
  | cons e es ih =>
    have hbefore : (view (e.before w)).unseen.cards = (view w).unseen.cards := by
      rw [(hr.calm e List.mem_cons_self).view_before]
      rfl
    have hafter : (view (Heartbeat.step env w e)).unseen.cards = _ :=
      unseen_after (h.sound hr).unique
    exact (ih (h.step env hr) hr.tail).trans (hafter.trans hbefore)

/-- A throttled heartbeat stays throttled throughout a run. -/
theorem Ready.throttled (env : Env) {t : Time} {id : String} {es es' : List Event} {w : World}
    (h : Ready (view w) (es ++ es')) (hr : Regular (es ++ es')) (ht : ∀ e ∈ es, t ≤ e.time)
    (hth : Throttled t id (view w)) : Throttled t id (view (Heartbeat.reach env w es)) := by
  induction es generalizing w with
  | nil => exact hth
  | cons e es ih =>
    have hbefore : Throttled t id (view (e.before w)) := by
      rw [(hr.calm e List.mem_cons_self).view_before]
      exact hth
    have hafter : Throttled t id (view (Heartbeat.step env w e)) :=
      throttled_after hbefore (ht e List.mem_cons_self) (h.sound hr).unique
    exact ih (h.step env hr) hr.tail (fun e' he' => ht e' (List.mem_cons_of_mem _ he')) hafter

end Run

/-! ### The property -/

/-- A card of one view is, up to its heartbeat, a card of the other. -/
theorem exists_of_unseen {v v' : View} (h : v.unseen.cards = v'.unseen.cards) {c : Card}
    (hc : c ∈ v.cards) :
    ∃ c' ∈ v'.cards, c'.id = c.id ∧ ∀ ip, c'.holds ip = c.holds ip := by
  have hmem : ({ c with seen := none } : Card) ∈ v.unseen.cards := List.mem_map_of_mem hc
  rw [h] at hmem
  obtain ⟨c', hc', heq⟩ := List.mem_map.mp hmem
  have hid : ({ c' with seen := none } : Card).id = ({ c with seen := none } : Card).id :=
    congrArg Card.id heq
  have hholds : ∀ ip, ({ c' with seen := none } : Card).holds ip =
      ({ c with seen := none } : Card).holds ip := fun ip => congrArg (Card.holds ip) heq
  exact ⟨c', hc', hid, hholds⟩

/-- A cache nothing was written to is sound at any time. -/
theorem ready_of_empty {w : World} (hcache : w.cache = Cache.empty) (hu : (view w).Unique)
    (hids : ∀ d ∈ w.db.devices.rows, d.id ≠ "") (es : List Event) : Ready (view w) es :=
  fun e _ =>
    { unique := hu
      ids := fun c hc => by
        obtain ⟨d, hd, rfl⟩ := List.mem_map.mp hc
        exact hids d hd
      heartbeat := fun id x hx => by
        change w.cache _ = some x at hx
        rw [hcache] at hx
        cases hx
      decision := fun ip n domain x _ hx => by
        change w.cache _ = some x at hx
        rw [hcache] at hx
        cases hx }

/-- **Heartbeats are throttled but never stale.** Any two writes of one device's `lastDnsSeenAt` are
at least ten seconds apart, and after every check from one of its addresses it is less than ten
seconds old. (Ids are generated and never empty.) -/
theorem heartbeat_fresh (env : Env) {w : World} (hcache : w.cache = Cache.empty)
    (hunique : ∀ ip, Decision.Single w.db ip)
    (hids : ∀ d ∈ w.db.devices.rows, d.id ≠ "") {es : List Event} (hr : Regular es) :
    (∀ past e mid e' rest id, es = past ++ e :: (mid ++ e' :: rest) →
      Writes env (reach env w past) e id → Writes env (reach env w (past ++ e :: mid)) e' id →
        10000 ≤ e'.time - e.time) ∧
    ∀ past e rest ip domain, es = past ++ e :: rest → e.call = .check ip domain →
      ∀ d ∈ w.db.devices.rows, holds ip d = true →
        ∃ t, lastSeen (reach env w (past ++ [e])) d.id = some t ∧ t ≤ e.time ∧
          e.time - t < 10000 := by
  have hu : (view w).Unique := by
    intro ip c hc c' hc' hip hip'
    obtain ⟨d, hd, rfl⟩ := List.mem_map.mp hc
    obtain ⟨d', hd', rfl⟩ := List.mem_map.mp hc'
    rw [hunique ip d hd d' hd' hip hip']
  have hready : Ready (view w) es := ready_of_empty hcache hu hids es
  refine ⟨?_, ?_⟩
  · rintro past e mid e' rest id rfl hw hw'
    obtain ⟨h₁, hr₁⟩ := hready.reach env hr
    have hbetween : ∀ x ∈ mid ++ [e'], e.time ≤ x.time := fun x hx =>
      (List.pairwise_cons.mp hr₁.ordered).1 x (by
        rcases List.mem_append.mp hx with hx | hx
        · exact List.mem_append_left _ hx
        · rw [List.mem_singleton.mp hx]
          exact List.mem_append_right _ List.mem_cons_self)
    have hwrite := throttled_of_writes (h₁.sound hr₁).unique hw
    have hth : Throttled e.time id (view (reach env w (past ++ e :: mid))) := by
      rw [show reach env w (past ++ e :: mid) =
        reach env (step env (reach env w past) e) mid by unfold reach; rw [List.foldl_append]; rfl]
      exact (h₁.step env hr₁).throttled env hr₁.tail
        (fun x hx => hbetween x (List.mem_append_left _ hx)) hwrite.2
    rw [show past ++ e :: (mid ++ e' :: rest) = (past ++ e :: mid) ++ e' :: rest by simp]
      at hready hr
    obtain ⟨h₂, hr₂⟩ := hready.reach env hr
    have hget := (throttled_of_writes (h₂.sound hr₂).unique hw').1
    have hth' : Throttled e.time id (view (e'.before (reach env w (past ++ e :: mid)))) := by
      rw [(hr₂.calm e' List.mem_cons_self).view_before]
      exact hth
    exact hth'.le_of_none hget
  · rintro past e rest ip domain rfl hcall d hd hip
    obtain ⟨h₁, hr₁⟩ := hready.reach env hr
    have hsound := h₁.sound hr₁
    have hsame : (view (e.before (reach env w past))).unseen.cards = (view w).unseen.cards := by
      rw [(hr₁.calm e List.mem_cons_self).view_before]
      exact hready.unseen env hr
    obtain ⟨c, hc, hid, hholds⟩ := exists_of_unseen hsame.symm (List.mem_map_of_mem hd)
    have hd' := hr₁.plain e List.mem_cons_self ip domain hcall
    have htarget := target_of_holds hsound hd' hc ((hholds ip).trans hip)
    -- The check touches the device, which keeps its card.
    have hafter : Sound (view (step env (reach env w past) e)) :=
      sound_after env hsound (hr₁.plain e List.mem_cons_self)
    have hstay : (view (step env (reach env w past) e)).unseen.cards =
        (view (e.before (reach env w past))).unseen.cards := unseen_after hsound.unique
    obtain ⟨x, hx, hidx, -⟩ := exists_of_unseen hstay.symm hc
    have hnow : (view (step env (reach env w past) e)).now = e.time := now_after hsound.unique
    have hlive : ((view (step env (reach env w past) e)).cache.get
        (view (step env (reach env w past) e)).now (heartbeatKey x.id)).isSome := by
      rw [hidx]
      unfold step
      rw [hcall]
      obtain ⟨v₀, -, hview⟩ := (checked_checkPolicy env ip domain
        (e.before (reach env w past))).eq_touch hsound.unique
      rw [htarget] at hview
      unfold after
      rw [hview]
      exact isSome_touch v₀ c.id
    obtain ⟨t, hseen, ht, hfresh⟩ := hafter.fresh hx hlive
    rw [hnow] at ht hfresh
    refine ⟨t, ?_, ht, hfresh⟩
    have hend : reach env w (past ++ [e]) = step env (reach env w past) e := by
      unfold reach
      rw [List.foldl_append]
      rfl
    have hxd : x.id = d.id := hidx.trans hid
    rw [hend, ← hxd, lastSeen_of_mem hx, hseen]

/-- A household with a tablet that has two addresses. -/
def den : World := .fresh (Household.withDevices
  [{ Household.device "tablet" "amal" "adam" with
      ipAddress := some "10.0.0.5", ipv6Address := some "fd00::5" }] (by simp)) 0

/-- The tablet asks for a name, nothing else having happened. -/
def ask (t : Time) (ip : String) : Event := ⟨t, id, .check ip "example.org"⟩

/-- The tablet asks three times; the third answer is cached, and yet it is seen again. -/
theorem heartbeat_fresh_den :
    10000 ≤ (ask 12000 "10.0.0.5").time - (ask 1000 "10.0.0.5").time ∧
    ∃ t, lastSeen (reach .plain den ([ask 1000 "10.0.0.5", ask 6000 "fd00::5"] ++
        [ask 12000 "10.0.0.5"])) "tablet" = some t ∧ t ≤ 12000 ∧ 12000 - t < 10000 := by
  have hsingle : ∀ ip, Decision.Single den.db ip := by
    intro ip d hd d' hd' _ _
    rw [List.mem_singleton.mp hd, List.mem_singleton.mp hd']
  have hids : ∀ d ∈ den.db.devices.rows, d.id ≠ "" := by decide
  have hregular : Regular [ask 1000 "10.0.0.5", ask 6000 "fd00::5", ask 12000 "10.0.0.5"] :=
    { calm := by
        intro e he db
        simp only [List.mem_cons, List.not_mem_nil, or_false] at he
        rcases he with rfl | rfl | rfl <;> rfl
      plain := by
        intro e he ip domain hcall
        simp only [List.mem_cons, List.not_mem_nil, or_false] at he
        rcases he with rfl | rfl | rfl <;> cases hcall <;> decide
      ordered := by simp [ask] }
  obtain ⟨hapart, hfresh⟩ := heartbeat_fresh .plain (w := den) rfl hsingle hids hregular
  refine ⟨?_, ?_⟩
  · exact hapart [] (ask 1000 "10.0.0.5") [ask 6000 "fd00::5"] (ask 12000 "10.0.0.5")
      [] "tablet" rfl
      (by decide +kernel) (by decide +kernel)
  · exact hfresh [ask 1000 "10.0.0.5", ask 6000 "fd00::5"] (ask 12000 "10.0.0.5") [] "10.0.0.5"
      "example.org" rfl rfl _ List.mem_cons_self (by decide)

end GuardTime.Dns.Heartbeat
