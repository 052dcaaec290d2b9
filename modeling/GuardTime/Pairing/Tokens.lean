import Mathlib.Tactic
import GuardTime.Pairing.Run

/-! # The life of a token

Which tokens pair a device, and which count as its heartbeat, is a matter of the history: the last
`startPairing`, `cancelPairing` and successful confirmation of the device. `Live` links the history
to the tables: the sessions are exactly the pending tokens, the beacons those of the last pairings,
and no token serves twice.

* `Live.cleared`, `Live.opens`, `Live.pairs`: what the operations that move tokens do to the link;
* `linked_histories`: every run keeps history and tables linked;
* `lifecycle`: what a probe does, told from the history alone. -/

namespace GuardTime.Pairing.Tokens

open GuardTime.Lib.Program GuardTime.Lib.Keyed GuardTime.Lib.Js GuardTime.Schema GuardTime.Server
open GuardTime.Prisma GuardTime.Services GuardTime.Services.Pairing GuardTime.Pairing.Effects
open GuardTime.Pairing.Run

/-! ### Histories -/

/-- What moves tokens: a started pairing with the token it returned and its expiry, a cancelled one,
and a successful confirmation with the beacon it issued. -/
inductive Did where
  | started (deviceId token : String) (expiresAt : Time)
  | cancelled (deviceId : String)
  | paired (deviceId beacon : String)

/-- The token of the last start, unless a cancellation or a confirmation came after it. The latest
entry of a history stands first. -/
def pending (deviceId : String) : List Did → Option (String × Time)
  | [] => none
  | .started d token expiresAt :: h =>
    if d = deviceId then some (token, expiresAt) else pending deviceId h
  | .cancelled d :: h => if d = deviceId then none else pending deviceId h
  | .paired d _ :: h => if d = deviceId then none else pending deviceId h

/-- The beacon of the last successful confirmation. -/
def beaconOf (deviceId : String) : List Did → Option String
  | [] => none
  | .started _ _ _ :: h | .cancelled _ :: h => beaconOf deviceId h
  | .paired d beacon :: h => if d = deviceId then some beacon else beaconOf deviceId h

/-- The probe pairs the device: it is answered with the device, which is now paired from the probe's
address under a beacon, the event is logged, and the token is used up. -/
structure Pairs (w : World) (dto : ConfirmPairingDto) (deviceId beacon : String) (w' : World) :
    Prop where
  answer : (confirmProbe dto).run w = (.ok deviceId, w')
  device : ∃ d, w'.db.devices.find deviceId = some d ∧ d.paired = true ∧ d.pairStatus = .paired ∧
    d.pairedAt = some w.now ∧ d.dnsSourceIp = some dto.sourceIp ∧ d.publicIp = some dto.sourceIp ∧
    d.dnsBeaconToken = some beacon
  event : ∃ ev, w'.db.deviceConnectionEvents.rows = w.db.deviceConnectionEvents.rows ++ [ev] ∧
    ev.deviceId = deviceId ∧ ev.type = .paired
  consumed : ∀ s ∈ w'.db.pairingSessions.rows, s.token ≠ dto.token

/-- The probe is a heartbeat of the device: it is answered with the device, and leaves what
`recordHeartbeat` leaves. -/
def Beats (w : World) (dto : ConfirmPairingDto) (deviceId : String) (w' : World) : Prop :=
  (confirmProbe dto).run w = (.ok deviceId, w') ∧ ∃ w₁, Later w w₁ ∧ w₁.db = w.db ∧
    (recordHeartbeat deviceId dto.sourceIp).run w₁ = (.ok (), w')

/-- The runs of the service from `w₀`, with their histories. The clock does not go back. -/
inductive Histories (env : Env) (w₀ : World) : List Did → World → Prop
  | nil : Histories env w₀ [] w₀
  | start {h : List Did} {w w' : World} {t : Time} {deviceId parentId : String}
      {r : StartPairingResponse} (hw : Histories env w₀ h w) (ht : w.now ≤ t)
      (hrun : (startPairing env deviceId parentId).run (w.atTime t) = (.ok r, w')) :
      Histories env w₀ (.started deviceId r.token (t + pairTokenTtlMs) :: h) w'
  | startFailed {h : List Did} {w w' : World} {t : Time} {deviceId parentId : String} {e : Err}
      (hw : Histories env w₀ h w) (ht : w.now ≤ t)
      (hrun : (startPairing env deviceId parentId).run (w.atTime t) = (.error e, w')) :
      Histories env w₀ h w'
  | cancel {h : List Did} {w w' : World} {t : Time} {deviceId parentId : String}
      (hw : Histories env w₀ h w) (ht : w.now ≤ t)
      (hrun : (cancelPairing deviceId parentId).run (w.atTime t) = (.ok (), w')) :
      Histories env w₀ (.cancelled deviceId :: h) w'
  | cancelFailed {h : List Did} {w w' : World} {t : Time} {deviceId parentId : String} {e : Err}
      (hw : Histories env w₀ h w) (ht : w.now ≤ t)
      (hrun : (cancelPairing deviceId parentId).run (w.atTime t) = (.error e, w')) :
      Histories env w₀ h w'
  | paired {h : List Did} {w w' : World} {t : Time} {dto : ConfirmPairingDto}
      {deviceId beacon : String} (hw : Histories env w₀ h w) (ht : w.now ≤ t)
      (hpairs : Pairs (w.atTime t) dto deviceId beacon w') :
      Histories env w₀ (.paired deviceId beacon :: h) w'
  | unpaired {h : List Did} {w : World} {t : Time} (dto : ConfirmPairingDto)
      (hw : Histories env w₀ h w) (ht : w.now ≤ t)
      (hno : ¬ ∃ deviceId beacon w', Pairs (w.atTime t) dto deviceId beacon w') :
      Histories env w₀ h ((confirmProbe dto).run (w.atTime t)).2
  | heartbeat {h : List Did} {w : World} {t : Time} (deviceId ip : String)
      (hw : Histories env w₀ h w) (ht : w.now ≤ t) :
      Histories env w₀ h ((recordHeartbeat deviceId ip).run (w.atTime t)).2

/-! ### History and tables -/

/-- The sessions are the pending tokens of the history, the beacons those of its last pairings. -/
structure Live (h : List Did) (users : Table User.id) (devices : Table Device.id)
    (sessions : Table PairingSession.id) : Prop where
  parents : ∀ d ∈ devices.rows, users.find d.parentId ≠ none
  session : ∀ s ∈ sessions.rows, s.status = .waiting ∧ s.attempts = 0 ∧
    pending s.deviceId h = some (s.token, s.expiresAt) ∧ devices.find s.deviceId ≠ none
  opened : ∀ deviceId token expiresAt, pending deviceId h = some (token, expiresAt) →
    ∃ s ∈ sessions.rows, s.deviceId = deviceId ∧ s.token = token ∧ s.expiresAt = expiresAt
  tokens : ∀ s ∈ sessions.rows, ∀ s' ∈ sessions.rows, s.token = s'.token → s = s'
  beacon : ∀ d ∈ devices.rows, d.dnsBeaconToken = beaconOf d.id h
  device : ∀ deviceId beacon, beaconOf deviceId h = some beacon → devices.find deviceId ≠ none
  beacons : ∀ d ∈ devices.rows, ∀ d' ∈ devices.rows, ∀ beacon, d.dnsBeaconToken = some beacon →
    d'.dnsBeaconToken = some beacon → d = d'
  apart : ∀ s ∈ sessions.rows, ∀ d ∈ devices.rows, d.dnsBeaconToken ≠ some s.token

section Live
variable {h : List Did} {users : Table User.id} {devices : Table Device.id}
  {sessions sessions' : Table PairingSession.id}

/-- Columns that have nothing to do with tokens do not matter. -/
theorem Live.patch (hl : Live h users devices sessions) {now : Time} {k : String}
    (f : Device → Device) (hf : ∀ d, (f d).id = d.id)
    (hparent : ∀ d, (f d).parentId = d.parentId)
    (hbeacon : ∀ d, (f d).dnsBeaconToken = d.dnsBeaconToken) :
    Live h users (Model.device.patch devices now k f hf) sessions := by
  -- every row comes from one with the same key, parent and beacon
  have hrow : ∀ d' ∈ (Model.device.patch devices now k f hf).rows, ∃ d ∈ devices.rows,
      d'.id = d.id ∧ d'.parentId = d.parentId ∧ d'.dnsBeaconToken = d.dnsBeaconToken ∧
      d' = if d.id = k then Model.device.touch now (f d) else d := by
    intro d' hd'
    obtain ⟨d, hd, rfl⟩ := Model.mem_patch.mp hd'
    refine ⟨d, hd, ?_⟩
    split_ifs
    · exact ⟨hf d, hparent d, hbeacon d, rfl⟩
    · exact ⟨rfl, rfl, rfl, rfl⟩
  refine ⟨fun d' hd' => ?_, fun s hs => ?_, hl.opened, hl.tokens, fun d' hd' => ?_,
    fun deviceId b hb => ?_, fun d₁ hd₁ d₂ hd₂ b hb₁ hb₂ => ?_, fun s hs d' hd' => ?_⟩
  · obtain ⟨d, hd, -, hp, -⟩ := hrow d' hd'
    rw [hp]
    exact hl.parents d hd
  · obtain ⟨hwait, hatt, hpending, hdevice⟩ := hl.session s hs
    exact ⟨hwait, hatt, hpending, find_patched_ne_none f hf hdevice⟩
  · obtain ⟨d, hd, hid, -, hb, -⟩ := hrow d' hd'
    rw [hid, hb]
    exact hl.beacon d hd
  · exact find_patched_ne_none f hf (hl.device deviceId b hb)
  · obtain ⟨d, hd, -, -, hb, rfl⟩ := hrow d₁ hd₁
    obtain ⟨d', hd', -, -, hb', rfl⟩ := hrow d₂ hd₂
    rw [hl.beacons d hd d' hd' b (hb ▸ hb₁) (hb' ▸ hb₂)]
  · obtain ⟨d, hd, -, -, hb, -⟩ := hrow d' hd'
    rw [hb]
    exact hl.apart s hs d hd

/-- The device's sessions are gone, as its entry in the history says. -/
theorem Live.cleared (hl : Live h users devices sessions) {deviceId : String} (did : Did)
    (hrows : ∀ s, s ∈ sessions'.rows ↔ s ∈ sessions.rows ∧ s.deviceId ≠ deviceId)
    (hself : pending deviceId (did :: h) = none)
    (hother : ∀ d, d ≠ deviceId → pending d (did :: h) = pending d h)
    (hbeacon : ∀ d, beaconOf d (did :: h) = beaconOf d h) :
    Live (did :: h) users devices sessions' := by
  refine ⟨hl.parents, fun s hs => ?_, fun d token expiresAt hp => ?_, fun s hs s' hs' => ?_,
    fun d hd => ?_, fun d b hb => ?_, hl.beacons, fun s hs => ?_⟩
  · obtain ⟨hs, hne⟩ := (hrows s).mp hs
    rw [hother s.deviceId hne]
    exact hl.session s hs
  · have hne : d ≠ deviceId := by
      rintro rfl
      rw [hself] at hp
      cases hp
    rw [hother d hne] at hp
    obtain ⟨s, hs, hdevice, hs'⟩ := hl.opened d token expiresAt hp
    exact ⟨s, (hrows s).mpr ⟨hs, hdevice ▸ hne⟩, hdevice, hs'⟩
  · exact hl.tokens s ((hrows s).mp hs).1 s' ((hrows s').mp hs').1
  · rw [hbeacon]
    exact hl.beacon d hd
  · rw [hbeacon] at hb
    exact hl.device d b hb
  · exact hl.apart s ((hrows s).mp hs).1

/-- A session is opened under a new token, where the device had none. -/
theorem Live.opens (hl : Live h users devices sessions) {s : PairingSession} {did : Did}
    (hrows : sessions'.rows = sessions.rows ++ [s]) (hwait : s.status = .waiting)
    (hatt : s.attempts = 0) (hdevice : devices.find s.deviceId ≠ none)
    (hnone : ∀ s' ∈ sessions.rows, s'.deviceId ≠ s.deviceId)
    (hfresh : ∀ s' ∈ sessions.rows, s'.token ≠ s.token)
    (hapart : ∀ d ∈ devices.rows, d.dnsBeaconToken ≠ some s.token)
    (hself : pending s.deviceId (did :: h) = some (s.token, s.expiresAt))
    (hother : ∀ d, d ≠ s.deviceId → pending d (did :: h) = pending d h)
    (hbeacon : ∀ d, beaconOf d (did :: h) = beaconOf d h) :
    Live (did :: h) users devices sessions' := by
  have hmem : ∀ s', s' ∈ sessions'.rows ↔ s' ∈ sessions.rows ∨ s' = s := by simp [hrows]
  refine ⟨hl.parents, fun s' hs' => ?_, fun d token expiresAt hp => ?_,
    fun s₁ hs₁ s₂ hs₂ htoken => ?_,
    fun d hd => ?_, fun d b hb => ?_, hl.beacons, fun s' hs' d hd => ?_⟩
  · rcases (hmem s').mp hs' with hs' | rfl
    · rw [hother s'.deviceId (hnone s' hs')]
      exact hl.session s' hs'
    · exact ⟨hwait, hatt, hself, hdevice⟩
  · by_cases hd : d = s.deviceId
    · subst hd
      cases hself.symm.trans hp
      exact ⟨s, (hmem s).mpr (.inr rfl), rfl, rfl, rfl⟩
    · rw [hother d hd] at hp
      obtain ⟨s', hs', hsession⟩ := hl.opened d token expiresAt hp
      exact ⟨s', (hmem s').mpr (.inl hs'), hsession⟩
  · rcases (hmem s₁).mp hs₁ with hs₁ | rfl <;> rcases (hmem s₂).mp hs₂ with hs₂ | rfl
    · exact hl.tokens s₁ hs₁ s₂ hs₂ htoken
    · exact absurd htoken (hfresh s₁ hs₁)
    · exact absurd htoken.symm (hfresh s₂ hs₂)
    · rfl
  · rw [hbeacon]
    exact hl.beacon d hd
  · rw [hbeacon] at hb
    exact hl.device d b hb
  · rcases (hmem s').mp hs' with hs' | rfl
    · exact hl.apart s' hs' d hd
    · exact hapart d hd

/-- The device gets a new beacon. -/
theorem Live.pairs (hl : Live h users devices sessions) {deviceId beacon : String} {now : Time}
    (f : Device → Device) (hf : ∀ d, (f d).id = d.id) (hparent : ∀ d, (f d).parentId = d.parentId)
    (hset : ∀ d, (f d).dnsBeaconToken = some beacon) (hdevice : devices.find deviceId ≠ none)
    (hfresh : ∀ d ∈ devices.rows, d.dnsBeaconToken ≠ some beacon)
    (hapart : ∀ s ∈ sessions.rows, s.token ≠ beacon)
    (hnone : ∀ s ∈ sessions.rows, s.deviceId ≠ deviceId) :
    Live (.paired deviceId beacon :: h) users
      (Model.device.patch devices now deviceId f hf) sessions := by
  have hrow : ∀ d' ∈ (Model.device.patch devices now deviceId f hf).rows, ∃ d ∈ devices.rows,
      d'.id = d.id ∧ d'.parentId = d.parentId ∧
      (d.id = deviceId ∧ d'.dnsBeaconToken = some beacon ∧ d' = Model.device.touch now (f d) ∨
        d.id ≠ deviceId ∧ d' = d) := by
    intro d' hd'
    obtain ⟨d, hd, rfl⟩ := Model.mem_patch.mp hd'
    refine ⟨d, hd, ?_⟩
    split_ifs with hk
    · exact ⟨hf d, hparent d, .inl ⟨hk, hset d, rfl⟩⟩
    · exact ⟨rfl, rfl, .inr ⟨hk, rfl⟩⟩
  refine ⟨fun d' hd' => ?_, fun s hs => ?_, fun d token expiresAt hp => ?_, hl.tokens,
    fun d' hd' => ?_, fun d b hb => ?_, fun d₁ hd₁ d₂ hd₂ b hb₁ hb₂ => ?_, fun s hs d' hd' => ?_⟩
  · obtain ⟨d, hd, -, hp, -⟩ := hrow d' hd'
    rw [hp]
    exact hl.parents d hd
  · obtain ⟨hwait, hatt, hpending, hd⟩ := hl.session s hs
    rw [pending, if_neg (hnone s hs).symm]
    exact ⟨hwait, hatt, hpending, find_patched_ne_none f hf hd⟩
  · rw [pending] at hp
    split_ifs at hp with hd
    exact hl.opened d token expiresAt hp
  · obtain ⟨d, hd, hid, -, ⟨hk, hb, -⟩ | ⟨hk, rfl⟩⟩ := hrow d' hd'
    · rw [hb, hid, beaconOf, if_pos hk.symm]
    · rw [beaconOf, if_neg (Ne.symm hk)]
      exact hl.beacon d' hd
  · rw [beaconOf] at hb
    split_ifs at hb with hd
    · exact find_patched_ne_none f hf (hd ▸ hdevice)
    · exact find_patched_ne_none f hf (hl.device d b hb)
  · obtain ⟨d, hd, -, -, ⟨hk, hb, rfl⟩ | ⟨hk, rfl⟩⟩ := hrow d₁ hd₁ <;>
      obtain ⟨d', hd', -, -, ⟨hk', hb', rfl⟩ | ⟨hk', rfl⟩⟩ := hrow d₂ hd₂
    · rw [Table.eq_of_key hd hd' (hk.trans hk'.symm)]
    · cases hb.symm.trans hb₁
      exact absurd hb₂ (hfresh _ hd')
    · cases hb'.symm.trans hb₂
      exact absurd hb₁ (hfresh _ hd)
    · exact hl.beacons _ hd _ hd' b hb₁ hb₂
  · obtain ⟨d, hd, -, -, ⟨-, hb, -⟩ | ⟨-, rfl⟩⟩ := hrow d' hd'
    · rw [hb]
      exact fun heq => hapart s hs (Option.some.inj heq).symm
    · exact hl.apart s hs d' hd

/-- Only the pending tokens and the beacons of a history matter. -/
theorem Live.congr {h' : List Did} (hl : Live h users devices sessions)
    (hpending : ∀ d, pending d h' = pending d h) (hbeacon : ∀ d, beaconOf d h' = beaconOf d h) :
    Live h' users devices sessions := by
  refine ⟨hl.parents, fun s hs => ?_, fun d token expiresAt hp => ?_, hl.tokens, fun d hd => ?_,
    fun d b hb => ?_, hl.beacons, hl.apart⟩
  · rw [hpending]
    exact hl.session s hs
  · rw [hpending] at hp
    exact hl.opened d token expiresAt hp
  · rw [hbeacon]
    exact hl.beacon d hd
  · rw [hbeacon] at hb
    exact hl.device d b hb

end Live

/-! ### One operation -/

/-- History and tables of the world are linked, and the identifiers to come are new. -/
structure Linked (h : List Did) (w : World) : Prop where
  supply : Supply w
  live : Live h w.db.users w.db.devices w.db.pairingSessions

section Steps
variable {h : List Did} {w w' : World} {deviceId parentId : String} {T : Tables}

theorem Linked.atTime (hl : Linked h w) (t : Time) : Linked h (w.atTime t) :=
  ⟨⟨hl.supply.distinct, hl.supply.tables, hl.supply.audits⟩, hl.live⟩

theorem drawn_unused {x : String} (hs : Supply w) (hx : Drawn w w' x) :
    ¬ (tables w.db).Uses x := by
  obtain ⟨n, hn, -, rfl⟩ := hx
  exact hs.tables n hn

/-- The waiting sessions of a device are all its sessions. -/
theorem mem_cleared (hl : Linked h w) (s : PairingSession) :
    s ∈ (cleared deviceId w.db).pairingSessions.rows ↔
      s ∈ w.db.pairingSessions.rows ∧ s.deviceId ≠ deviceId := by
  refine Table.mem_erase.trans ⟨?_, ?_⟩
  · rintro ⟨hs, hno⟩
    refine ⟨hs, fun hd => ?_⟩
    simp [hd, (hl.live.session s hs).1] at hno
  · rintro ⟨hs, hne⟩
    exact ⟨hs, by simp [hne]⟩

theorem live_cancelled (hl : Linked h w) (deviceId : String) : Live (.cancelled deviceId :: h)
    w.db.users w.db.devices (cleared deviceId w.db).pairingSessions := by
  refine hl.live.cleared (.cancelled deviceId) (mem_cleared hl) ?_ (fun d hd => ?_) fun d => rfl
  · rw [pending, if_pos rfl]
  · rw [pending, if_neg hd.symm]

theorem live_started (hl : Linked h w) {r : StartPairingResponse}
    (hstart : Started w w' deviceId parentId (.ok r) T) :
    Live (.started deviceId r.token (w.now + pairTokenTtlMs) :: h) w.db.users T.devices
      T.sessions := by
  cases hstart with
  | @opened d id token s sessions' _ hd hparent hid htoken hs hins hr =>
    obtain ⟨r', hr', rfl⟩ | ⟨⟨e, he⟩, -⟩ := hr
    swap
    · cases he
    cases hr'
    obtain ⟨-, hrows⟩ := Table.insert_eq_some hins
    have hunused := drawn_unused hl.supply htoken
    have hdid : ∀ d, pending d (.started deviceId r.token (w.now + pairTokenTtlMs) ::
        .cancelled deviceId :: h) =
        pending d (.started deviceId r.token (w.now + pairTokenTtlMs) :: h) := by
      intro d
      simp only [pending]
      split_ifs <;> rfl
    have hmarked : Live (.cancelled deviceId :: h) w.db.users
        (withStatus w.now deviceId .waiting w.db).devices (cleared deviceId w.db).pairingSessions :=
      (live_cancelled hl deviceId).patch (marked .waiting) (marked_id _) (fun _ => rfl) fun _ => rfl
    refine (hmarked.opens hrows ?_ ?_ ?_ ?_ ?_ ?_ ?_ ?_ fun d => rfl).congr
      (fun d => (hdid d).symm) fun d => rfl
    · rw [hs]
    · rw [hs]
    · rw [hs]
      refine find_patched_ne_none (marked .waiting) (marked_id _) ?_
      rw [hd]
      simp
    · intro s' hs'
      rw [hs]
      exact ((mem_cleared hl s').mp hs').2
    · intro s' hs' heq
      rw [hs] at heq
      exact hunused (.inr (.inl ⟨s', ((mem_cleared hl s').mp hs').1, .inr heq⟩))
    · intro d' hd' heq
      rw [hs] at heq
      exact hunused (uses_withStatus (.inl ⟨d', hd', heq⟩))
    · rw [hs, pending, if_pos rfl]
    · intro d' hne
      rw [hs] at hne
      rw [pending, if_neg (Ne.symm hne)]

/-- The sessions of the device of a session are the session itself. -/
theorem mem_consumed (hl : Linked h w) {s : PairingSession} (hs : s ∈ w.db.pairingSessions.rows)
    (s' : PairingSession) :
    s' ∈ (w.db.pairingSessions.erase fun r => r.id = s.id).rows ↔
      s' ∈ w.db.pairingSessions.rows ∧ s'.deviceId ≠ s.deviceId := by
  refine Table.mem_erase.trans (and_congr_right fun hs' => ?_)
  rw [decide_eq_false_iff_not, not_iff_not]
  refine ⟨fun hid => by rw [Table.eq_of_key hs' hs hid], fun hd => ?_⟩
  have hp := (hl.live.session s hs).2.2.1
  have hp' := (hl.live.session s' hs').2.2.1
  rw [hd, hp] at hp'
  have htoken : s.token = s'.token := congrArg Prod.fst (Option.some.inj hp')
  rw [hl.live.tokens s hs s' hs' htoken]

theorem live_completed (hl : Linked h w) {dto : ConfirmPairingDto} {s : PairingSession}
    (hs : s ∈ w.db.pairingSessions.rows) (hdone : Completed w w' dto s T) :
    ∃ beacon d, T.devices.find s.deviceId = some d ∧ d.paired = true ∧ d.pairStatus = .paired ∧
      d.pairedAt = some w.now ∧ d.dnsSourceIp = some dto.sourceIp ∧
      d.publicIp = some dto.sourceIp ∧ d.dnsBeaconToken = some beacon ∧
      Live (.paired s.deviceId beacon :: h) w.db.users T.devices T.sessions := by
  obtain @⟨d, beacon, _, _, _, _, _, hd, hbeacon, hid, hseen, hid', hev, hins⟩ := hdone
  have hunused := drawn_unused hl.supply hbeacon
  let row := paired dto.sourceIp dto.resolverRegion w.now beacon
  have hfind : (Model.device.patch w.db.devices w.now s.deviceId row (paired_id _ _ _ _)).find
      s.deviceId = some (Model.device.touch w.now (row d)) := by
    rw [Model.find_patch_some hd, if_pos (Table.key_of_find hd)]
  refine ⟨beacon, _, hfind, rfl, rfl, rfl, rfl, rfl, rfl, ?_⟩
  have hcleared := hl.live.cleared (.cancelled s.deviceId) (mem_consumed hl hs)
    (by rw [pending, if_pos rfl]) (fun d hd => by rw [pending, if_neg hd.symm]) fun d => rfl
  refine (hcleared.pairs row (paired_id _ _ _ _) (fun _ => rfl) (fun _ => rfl) ?_ ?_ ?_ ?_).congr
    (fun d => ?_) fun d => ?_
  · rw [hd]
    simp
  · exact fun d' hd' heq => hunused (.inl ⟨d', hd', heq⟩)
  · exact fun s' hs' heq =>
      hunused (.inr (.inl ⟨s', ((mem_consumed hl hs s').mp hs').1, .inr heq⟩))
  · exact fun s' hs' => ((mem_consumed hl hs s').mp hs').2
  · simp only [pending]
    split_ifs <;> rfl
  · simp only [beaconOf]

/-- What a heartbeat writes has nothing to do with tokens. -/
theorem live_beat (hl : Linked h w) {ip : String} {r : Except Err Unit}
    (hbeat : Beat w w' deviceId ip r T) : Live h w.db.users T.devices T.sessions := by
  cases hbeat with
  | silent hwhy => exact hl.live
  | failed e hno => exact hl.live
  | again hd hpaired hip hid hseen =>
    exact hl.live.patch (touched w.now) (touched_id _) (fun _ => rfl) fun _ => rfl
  | change hd hpaired hip hid hseen hid' hev hins =>
    exact hl.live.patch (moved ip w.now) (moved_id _ _) (fun _ => rfl) fun _ => rfl

/-! ### Pairing and beating -/

/-- The event a heartbeat may add is a change of address. -/
theorem events_beat {ip : String} {r : Except Err Unit} (hbeat : Beat w w' deviceId ip r T) :
    T.events.rows = w.db.deviceConnectionEvents.rows ∨
      ∃ ev, T.events.rows = w.db.deviceConnectionEvents.rows ++ [ev] ∧ ev.type = .ipChanged := by
  cases hbeat with
  | silent hwhy => exact .inl rfl
  | failed e hno => exact .inl rfl
  | again hd hpaired hip hid hseen => exact .inl rfl
  | change hd hpaired hip hid hseen hid' hev hins =>
    exact .inr ⟨_, (Table.insert_eq_some hins).2, by rw [hev]⟩

theorem events_completed {dto : ConfirmPairingDto} {s : PairingSession}
    (hdone : Completed w w' dto s T) :
    ∃ ev, T.events.rows = w.db.deviceConnectionEvents.rows ++ [ev] ∧ ev.deviceId = s.deviceId ∧
      ev.type = .paired := by
  obtain ⟨hd, hbeacon, hid, hseen, hid', hev, hins⟩ := hdone
  exact ⟨_, (Table.insert_eq_some hins).2, by rw [hev], by rw [hev]⟩

/-- A heartbeat adds no pairing to the events. -/
theorem beat_not_paired {ip : String} {r : Except Err Unit}
    (hbeat : Beat w w' deviceId ip r (tables w'.db)) {ev : DeviceConnectionEvent}
    (htype : ev.type = .paired)
    (hrows : w'.db.deviceConnectionEvents.rows = w.db.deviceConnectionEvents.rows ++ [ev]) :
    False := by
  rcases events_beat hbeat with hsame | ⟨ev', hrows', htype'⟩
  · have hlen := congrArg List.length (hsame.symm.trans hrows)
    simp at hlen
  · have hev := List.append_cancel_left (hrows'.symm.trans hrows)
    obtain rfl : ev' = ev := by simpa using hev
    cases htype'.symm.trans htype

theorem token_consumed (hl : Linked h w) {dto : ConfirmPairingDto} {s : PairingSession}
    (hs : sessionOf w.db dto = some s) (hdone : Completed w w' dto s T) :
    ∀ s' ∈ T.sessions.rows, s'.token ≠ dto.token := by
  obtain ⟨hd, hbeacon, hid, hseen, hid', hev, hins⟩ := hdone
  have hmem : s ∈ w.db.pairingSessions.rows := List.mem_of_find?_eq_some hs
  intro s' hs' htoken
  have hrow := (mem_consumed hl hmem s').mp hs'
  rw [← (find_sessionOf hs).2] at htoken
  exact hrow.2 (by rw [hl.live.tokens s' hrow.1 s hmem htoken])

/-- A completed confirmation pairs the device. -/
theorem pairs_of_completed (hl : Linked h w) {dto : ConfirmPairingDto} {s : PairingSession}
    (hs : sessionOf w.db dto = some s) (hrun : (confirmProbe dto).run w = (.ok s.deviceId, w'))
    (hdone : Completed w w' dto s (tables w'.db)) :
    ∃ beacon, Pairs w dto s.deviceId beacon w' := by
  obtain ⟨beacon, d, hd, h₁, h₂, h₃, h₄, h₅, h₆, -⟩ :=
    live_completed hl (List.mem_of_find?_eq_some hs) hdone
  exact ⟨beacon, hrun, ⟨d, hd, h₁, h₂, h₃, h₄, h₅, h₆⟩, events_completed hdone,
    token_consumed hl hs hdone⟩

/-- What pairs a device is the confirmation of a live session of it. -/
theorem completed_of_pairs {dto : ConfirmPairingDto} {beacon : String}
    (hp : Pairs w dto deviceId beacon w') :
    ∃ s, sessionOf w.db dto = some s ∧ s.deviceId = deviceId ∧ w.now ≤ s.expiresAt ∧
      Completed w w' dto s (tables w'.db) := by
  obtain ⟨r, w'', hrun, -, hprobed⟩ := run_confirmProbe dto w
  cases hp.answer.symm.trans hrun
  obtain ⟨ev, hrows, hdevice, htype⟩ := hp.event
  generalize hT : tables w'.db = T at hprobed
  cases hprobed with
  | beat hs hb hbeat hr =>
    subst hT
    exact absurd hrows fun hrows => beat_not_paired hbeat htype hrows
  | paired hs hwait hlive hatt hdone => exact ⟨_, hs, rfl, hlive, hT ▸ hdone⟩

/-! ### What a probe does -/

variable {dto : ConfirmPairingDto}

/-- The session of a token. -/
theorem sessionOf_eq (hl : Linked h w) {s : PairingSession} (hs : s ∈ w.db.pairingSessions.rows)
    (htoken : s.token = dto.token) : sessionOf w.db dto = some s := by
  rcases hfind : sessionOf w.db dto with _ | s'
  · have hnone := List.find?_eq_none.mp hfind s hs
    simp [htoken] at hnone
  · have htoken' := (find_sessionOf hfind).2
    rw [hl.live.tokens s' (List.mem_of_find?_eq_some hfind) s hs (htoken'.trans htoken.symm)]

/-- **A probe pairs the device** exactly when its token is pending and has not expired. -/
theorem pairs_iff (hl : Linked h w) : (∃ beacon w', Pairs w dto deviceId beacon w') ↔
    ∃ expiresAt, pending deviceId h = some (dto.token, expiresAt) ∧ w.now ≤ expiresAt := by
  constructor
  · rintro ⟨beacon, w', hp⟩
    obtain ⟨s, hs, rfl, hlive, -⟩ := completed_of_pairs hp
    obtain ⟨-, -, hpending, -⟩ := hl.live.session s (List.mem_of_find?_eq_some hs)
    rw [(find_sessionOf hs).2] at hpending
    exact ⟨s.expiresAt, hpending, hlive⟩
  · rintro ⟨expiresAt, hp, hlive⟩
    obtain ⟨s, hmem, rfl, htoken, rfl⟩ := hl.live.opened deviceId _ _ hp
    have hs := sessionOf_eq hl hmem htoken
    obtain ⟨hwait, hatt, -, hdevice⟩ := hl.live.session s hmem
    obtain ⟨r, w', hrun, -, hprobed⟩ := run_confirmProbe dto w
    generalize hT : tables w'.db = T at hprobed
    cases hprobed with
    | unknown e hs' => cases hs.symm.trans hs'
    | beat hs' => cases hs.symm.trans hs'
    | refused e hs' hc =>
      -- neither reason to refuse the session applies
      cases hc with
      | refused hs'' _ hwhy =>
        cases hs.symm.trans hs''
        rcases hwhy hl.supply with hno | hno
        · exact absurd hwait hno
        · exact absurd hno hdevice
      | rejected hs'' hwait' hdead =>
        cases hs.symm.trans hs''
        rcases hdead with hexp | hmax
        · exact absurd hexp (not_lt.mpr hlive)
        · rw [hatt] at hmax
          omega
    | paired hs' hwait' hlive' hatt' hdone =>
      cases hs.symm.trans hs'
      obtain ⟨beacon, hpairs⟩ := pairs_of_completed hl hs hrun (hT ▸ hdone)
      exact ⟨beacon, w', hpairs⟩

/-- **A probe is the device's heartbeat** exactly when its token is the beacon of the device's last
pairing. -/
theorem beats_iff (hl : Linked h w) :
    (∃ w', Beats w dto deviceId w') ↔ beaconOf deviceId h = some dto.token := by
  constructor
  · rintro ⟨w', hanswer, w₁, hlater, hdb, hbeat⟩
    obtain ⟨r, w'', hrun, -, hprobed⟩ := run_confirmProbe dto w
    cases hanswer.symm.trans hrun
    generalize hT : tables w'.db = T at hprobed
    cases hprobed with
    | beat hs hb hbeat₁ hr =>
      rw [hbeat₁.ok hl.supply] at hr
      cases hr
      have hbeacon := List.find?_some hb
      rw [← hl.live.beacon _ (List.mem_of_find?_eq_some hb)]
      simpa using hbeacon
    | paired hs _ _ _ hdone =>
      -- a heartbeat writes no pairing
      obtain ⟨ev, hrows, -, htype⟩ := events_completed hdone
      obtain ⟨r, w₂, hrun₂, -, hbeat₂⟩ := run_recordHeartbeat _ dto.sourceIp w₁
      cases hbeat.symm.trans hrun₂
      rw [← hT] at hrows
      exact absurd hrows fun hrows => beat_not_paired (hbeat₂.of_later hlater hdb) htype hrows
  · intro hbeacon
    obtain ⟨d, hd⟩ := Option.ne_none_iff_exists'.mp (hl.live.device _ _ hbeacon)
    obtain ⟨hmem, rfl⟩ := Table.find_eq_some.mp hd
    have htoken : d.dnsBeaconToken = some dto.token := (hl.live.beacon d hmem).trans hbeacon
    have hs : sessionOf w.db dto = none := by
      refine List.find?_eq_none.mpr fun s hs => ?_
      intro heq
      have heq : s.token = dto.token := by simpa using heq
      exact hl.live.apart s hs d hmem (heq ▸ htoken)
    have hb : beaconDevice w.db dto.token = some d := by
      rcases hfind : beaconDevice w.db dto.token with _ | d'
      · have hnone := List.find?_eq_none.mp hfind d hmem
        simp [htoken] at hnone
      · have htoken' : d'.dnsBeaconToken = some dto.token := by simpa using List.find?_some hfind
        rw [hl.live.beacons d' (List.mem_of_find?_eq_some hfind) d hmem _ htoken' htoken]
    set w₁ := World.afterCall w w.db with hw₁
    set w₂ := World.afterCall w₁ w₁.db
    have hlater : Later w w₂ := (Later.afterCall w w.db).trans (.afterCall _ _)
    have hsupply : Supply w₂ := hl.supply.later hlater fun _ => .inl
    obtain ⟨r, w', hrun, -, hbeat⟩ := run_recordHeartbeat d.id dto.sourceIp w₂
    cases hbeat.ok hsupply
    refine ⟨w', ?_, w₂, hlater, rfl, hrun⟩
    rw [run_confirmProbe_unknown hs, ← hw₁, run_confirmBeacon_some (w := w₁) hb,
      Prog.run_bind, hrun]
    rfl

/-- Nothing but the bookkeeping of a device's pairing status differs. -/
def SameButStatus (db db' : Database) : Prop :=
  ∃ devices, db' = { db with devices := devices } ∧ List.Forall₂ (fun d d' : Device =>
    d' = { d with pairStatus := d'.pairStatus, updatedAt := d'.updatedAt })
    db.devices.rows devices.rows

theorem SameButStatus.refl (db : Database) : SameButStatus db db :=
  ⟨db.devices, rfl, List.forall₂_same.mpr fun _ _ => rfl⟩

theorem sameButStatus_withStatus (now : Time) (deviceId : String) (status : PairStatus)
    (db : Database) : SameButStatus db (withStatus now deviceId status db) := by
  refine ⟨_, rfl, ?_⟩
  rw [Model.patch, Table.modify, List.forall₂_map_right_iff]
  refine List.forall₂_same.mpr fun d _ => ?_
  split_ifs <;> rfl

/-- **Every other token is rejected**, and leaves no more than the device's status. -/
theorem rejected_of_other (hl : Linked h w)
    (hpending : ∀ d expiresAt, pending d h = some (dto.token, expiresAt) → expiresAt < w.now)
    (hbeacon : ∀ d, beaconOf d h ≠ some dto.token) :
    ∃ e w', (confirmProbe dto).run w = (.error e, w') ∧ SameButStatus w.db w'.db := by
  rcases hs : sessionOf w.db dto with _ | s
  · have hb : beaconDevice w.db dto.token = none := by
      rcases hfind : beaconDevice w.db dto.token with _ | d
      · rfl
      · have htoken : d.dnsBeaconToken = some dto.token := by simpa using List.find?_some hfind
        rw [hl.live.beacon d (List.mem_of_find?_eq_some hfind)] at htoken
        exact absurd htoken (hbeacon d.id)
    rw [run_confirmProbe_unknown hs, run_confirmBeacon_none (w := World.afterCall w w.db) hb]
    exact ⟨_, _, rfl, SameButStatus.refl w.db⟩
  · obtain ⟨hwait, -, hp, hdevice⟩ := hl.live.session s (List.mem_of_find?_eq_some hs)
    rw [(find_sessionOf hs).2] at hp
    obtain ⟨d, hd⟩ := Option.ne_none_iff_exists'.mp hdevice
    obtain ⟨message, w', hrun, -, hdb⟩ :=
      transaction_rejected hs hwait (.inl (hpending _ _ hp)) hd
    refine ⟨.badRequest message, w', ?_, ?_⟩
    · rw [confirmProbe, Prog.run_bind, hrun]
    · rw [hdb]
      exact sameButStatus_withStatus _ _ _ _

theorem Linked.step {h' : List Did} (hl : Linked h w) {op : Op} (hlater : Later w w')
    (heffect : Effect w w' op (tables w'.db))
    (hlive : Live h' w.db.users w'.db.devices w'.db.pairingSessions) : Linked h' w' := by
  refine ⟨hl.supply.later hlater fun x hx => heffect.uses hx, ?_⟩
  rw [hlater.users]
  exact hlive

/-- The parent of a device has an account. -/
theorem Linked.parent (hl : Linked h w) {d : Device} (hd : w.db.devices.find deviceId = some d) :
    w.db.users.find d.parentId ≠ none := hl.live.parents d (Table.mem_of_find hd)

theorem live_startFailed (hl : Linked h w) {e : Err}
    (hstart : Started w w' deviceId parentId (.error e) T) :
    Live h w.db.users T.devices T.sessions := by
  cases hstart with
  | refused e hwhy => exact hl.live
  | cut e hd hparent hno => exact absurd hl.supply hno
  | opened hd hparent hid htoken hs hins hr =>
    rcases hr with ⟨r, hr, -⟩ | ⟨-, hnone⟩
    · cases hr
    · exact absurd (hparent ▸ hnone hl.supply) (hl.parent hd)

theorem live_cancelFailed (hl : Linked h w) {e : Err}
    (hcancel : Cancelled w deviceId parentId (.error e) T) :
    Live h w.db.users T.devices T.sessions := by
  cases hcancel with
  | refused e hwhy => exact hl.live
  | cleared hd hparent hr =>
    rcases hr with hr | ⟨-, hnone⟩
    · cases hr
    · exact absurd (hparent ▸ hnone hl.supply) (hl.parent hd)

theorem live_cancelled_ok (hl : Linked h w) (hcancel : Cancelled w deviceId parentId (.ok ()) T) :
    Live (.cancelled deviceId :: h) w.db.users T.devices T.sessions := by
  cases hcancel with
  | cleared hd hparent hr => exact live_cancelled hl deviceId

theorem live_unpaired (hl : Linked h w)
    (hno : ¬ ∃ deviceId beacon w', Pairs w dto deviceId beacon w') {r : Except Err String}
    (hrun : (confirmProbe dto).run w = (r, w')) (hprobed : Probed w w' dto r (tables w'.db)) :
    Live h w.db.users w'.db.devices w'.db.pairingSessions := by
  change Live h w.db.users (tables w'.db).devices (tables w'.db).sessions
  generalize hT : tables w'.db = T at hprobed
  cases hprobed with
  | unknown e hs hb => exact hl.live
  | beat hs hb hbeat hr => exact live_beat hl hbeat
  | refused e hs hc =>
    cases hc with
    | refused hs' _ hwhy => exact hl.live
    | @rejected s _ hs' hwait hdead hd message =>
      exact hl.live.patch (marked (rejection w.now s)) (marked_id _) (fun _ => rfl) fun _ => rfl
  | paired hs hwait hlive hatt hdone =>
    obtain ⟨beacon, hpairs⟩ := pairs_of_completed hl hs hrun (hT ▸ hdone)
    exact absurd ⟨_, beacon, w', hpairs⟩ hno

end Steps

/-! ### Runs -/

/-- No pairing has begun: no sessions and no beacons; every device's parent has an account. -/
structure Blank (w : World) : Prop where
  supply : Supply w
  sessions : w.db.pairingSessions.rows = []
  beacons : ∀ d ∈ w.db.devices.rows, d.dnsBeaconToken = none
  parents : ∀ d ∈ w.db.devices.rows, w.db.users.find d.parentId ≠ none

theorem Blank.linked {w : World} (hw : Blank w) : Linked [] w := by
  refine ⟨hw.supply, hw.parents, ?_, ?_, ?_, hw.beacons, ?_, fun d hd d' _ beacon hb => ?_, ?_⟩
  · simp [hw.sessions]
  · simp [pending]
  · simp [hw.sessions]
  · simp [beaconOf]
  · rw [hw.beacons d hd] at hb
    cases hb
  · simp [hw.sessions]

/-- Every run keeps history and tables linked. -/
theorem linked_histories {env : Env} {w₀ w : World} {h : List Did} (hw₀ : Blank w₀)
    (hh : Histories env w₀ h w) : Linked h w := by
  induction hh with
  | nil => exact hw₀.linked
  | @start h w w' t deviceId parentId r _ _ hrun ih =>
    obtain ⟨_, _, hrun', hlater, hstart⟩ := run_startPairing env deviceId parentId (w.atTime t)
    cases hrun.symm.trans hrun'
    exact (ih.atTime t).step hlater hstart.effect (live_started (ih.atTime t) hstart)
  | @startFailed h w w' t deviceId parentId e _ _ hrun ih =>
    obtain ⟨_, _, hrun', hlater, hstart⟩ := run_startPairing env deviceId parentId (w.atTime t)
    cases hrun.symm.trans hrun'
    exact (ih.atTime t).step hlater hstart.effect (live_startFailed (ih.atTime t) hstart)
  | @cancel h w w' t deviceId parentId _ _ hrun ih =>
    obtain ⟨_, _, hrun', hlater, hcancel⟩ := run_cancelPairing deviceId parentId (w.atTime t)
    cases hrun.symm.trans hrun'
    exact (ih.atTime t).step hlater hcancel.effect (live_cancelled_ok (ih.atTime t) hcancel)
  | @cancelFailed h w w' t deviceId parentId e _ _ hrun ih =>
    obtain ⟨_, _, hrun', hlater, hcancel⟩ := run_cancelPairing deviceId parentId (w.atTime t)
    cases hrun.symm.trans hrun'
    exact (ih.atTime t).step hlater hcancel.effect (live_cancelFailed (ih.atTime t) hcancel)
  | @paired h w w' t dto deviceId beacon _ _ hpairs ih =>
    obtain ⟨_, _, hrun', hlater, hprobed⟩ := run_confirmProbe dto (w.atTime t)
    cases hpairs.answer.symm.trans hrun'
    obtain ⟨s, hs, rfl, -, hdone⟩ := completed_of_pairs hpairs
    obtain ⟨beacon', d', hd', -, -, -, -, -, hb', hlive⟩ :=
      live_completed (ih.atTime t) (List.mem_of_find?_eq_some hs) hdone
    obtain ⟨d, hd, -, -, -, -, -, hb⟩ := hpairs.device
    cases hd'.symm.trans hd
    cases hb'.symm.trans hb
    exact (ih.atTime t).step hlater hprobed.effect hlive
  | @unpaired h w t dto _ _ hno ih =>
    obtain ⟨r, w', hrun, hlater, hprobed⟩ := run_confirmProbe dto (w.atTime t)
    rw [hrun]
    exact (ih.atTime t).step hlater hprobed.effect (live_unpaired (ih.atTime t) hno hrun hprobed)
  | @heartbeat h w t deviceId ip _ _ ih =>
    obtain ⟨r, w', hrun, hlater, hbeat⟩ := run_recordHeartbeat deviceId ip (w.atTime t)
    rw [hrun]
    have heffect : Effect (w.atTime t) w' (.heartbeat deviceId ip) (tables w'.db) := .beat hbeat
    exact (ih.atTime t).step hlater heffect (live_beat (ih.atTime t) hbeat)

/-- **The life of a token.** After every run, a probe pairs a device exactly when its token was
returned by the device's last start, not cancelled or used since, and has not expired; it is the
device's heartbeat exactly when its token is the beacon of the device's last pairing; and with any
other token it fails and changes nothing but a pairing status. -/
theorem lifecycle {env : Env} {w₀ w : World} {h : List Did} (hw₀ : Blank w₀)
    (hh : Histories env w₀ h w) (t : Time) (dto : ConfirmPairingDto) :
    (∀ deviceId, (∃ beacon w', Pairs (w.atTime t) dto deviceId beacon w') ↔
      ∃ expiresAt, pending deviceId h = some (dto.token, expiresAt) ∧ t ≤ expiresAt) ∧
    (∀ deviceId, (∃ w', Beats (w.atTime t) dto deviceId w') ↔
      beaconOf deviceId h = some dto.token) ∧
    ((∀ deviceId expiresAt, pending deviceId h = some (dto.token, expiresAt) → expiresAt < t) →
      (∀ deviceId, beaconOf deviceId h ≠ some dto.token) →
      ∃ e w', (confirmProbe dto).run (w.atTime t) = (.error e, w') ∧ SameButStatus w.db w'.db) := by
  have hl := (linked_histories hw₀ hh).atTime t
  exact ⟨fun deviceId => pairs_iff hl, fun deviceId => beats_iff hl,
    fun hpending hbeacon => rejected_of_other hl hpending hbeacon⟩

/-! ### A token in time -/

theorem blank_newTablet : Blank newTablet := by
  refine ⟨supply_household [Household.device "tablet" "amal" "adam"] _ 0 ?_, rfl, ?_, ?_⟩
  · intro d hd
    obtain rfl := List.mem_singleton.mp hd
    rfl
  · intro d hd
    obtain rfl := List.mem_singleton.mp hd
    rfl
  · intro d hd
    obtain rfl := List.mem_singleton.mp hd
    decide

/-- The token that pairing the new tablet at time 0 returns pairs it at time 1000. -/
theorem pairs_newTablet : ∃ h w, Histories .plain newTablet h w ∧
    ∃ beacon w', Pairs (w.atTime 1000) { token := "uuid-2-0", sourceIp := "203.0.113.7" } "tablet"
      beacon w' := by
  have htoken : ((startPairing .plain "tablet" "amal").run (newTablet.atTime 0)).1.toOption.map
      StartPairingResponse.token = some "uuid-2-0" := by decide +kernel
  rcases hrun : (startPairing .plain "tablet" "amal").run (newTablet.atTime 0) with ⟨e | r, w⟩ <;>
    rw [hrun] at htoken
  · cases htoken
  · have hh : Histories .plain newTablet [.started "tablet" r.token (0 + pairTokenTtlMs)] w :=
      .start .nil le_rfl hrun
    have htoken : r.token = "uuid-2-0" := Option.some.inj htoken
    refine ⟨_, w, hh, ((lifecycle blank_newTablet hh 1000 _).1 "tablet").mpr
      ⟨0 + pairTokenTtlMs, ?_, by decide⟩⟩
    rw [pending, if_pos rfl, htoken]

end GuardTime.Pairing.Tokens
