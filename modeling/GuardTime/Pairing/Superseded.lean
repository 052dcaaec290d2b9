import Mathlib.Tactic
import GuardTime.Pairing.Overlap

/-! # A superseded token

What holds of starts, cancellations and confirmations for one device at all times, when nobody
creates a session while another start is between its deletion and its return (`Apart`).

* `Rows`: what the phases say about the sessions;
* `Names`: the tokens of starts differ, and identifiers still to be drawn are new;
* `Linked.next`: what a move preserves;
* `one_live`: one session is waiting, and superseded tokens pair no more. -/

namespace GuardTime.Pairing.Superseded

open GuardTime.Lib.Program GuardTime.Lib.Keyed GuardTime.Schema GuardTime.Server GuardTime.Prisma
open GuardTime.Services GuardTime.Services.Pairing GuardTime.Pairing.Effects GuardTime.Pairing.Run
open GuardTime.Transactions GuardTime.Pairing.Overlap
open GuardTime.Pairing.Consumption (changed_of_sessions)

/-! ### Phases and sessions -/

/-- What a phase says about a session. -/
def Fits (deviceId : String) : Phase → PairingSession → Prop
  | .drawn t, s => s.token ≠ t
  | .opened t, s => s.token = t → s.deviceId = deviceId ∧ s.status = .waiting
  | .found id t, s | .held id t, s => s.id = id → s.token = t
  | _, _ => True

/-- What a start that has not returned says about a waiting session of the device. -/
def Window : Phase → PairingSession → Prop
  | .cleared, _ | .drawn _, _ => False
  | .opened t, s => s.token = t
  | _, _ => True

/-- The request has started and is not done. -/
def Running (P : Requests) (i : ℕ) : Prop := ∃ θ, P.tx i = some θ ∧ ∀ r, θ.prog ≠ .ret r

/-- What the phases say about the sessions. -/
structure Rows (deviceId : String) (g : ℕ → Option Phase) (active : ℕ → Prop)
    (w : World) : Prop where
  one : OneWaiting deviceId w.db.pairingSessions
  fits : ∀ i q, g i = some q → ∀ s ∈ w.db.pairingSessions.rows, Fits deviceId q s
  window : ∀ i q, g i = some q → active i → ∀ s ∈ w.db.pairingSessions.rows,
    s.deviceId = deviceId → s.status = .waiting → Window q s
  fresh : ∀ n, w.calls ≤ n → ∀ s ∈ w.db.pairingSessions.rows,
    s.id ≠ w.uuids n 0 ∧ s.token ≠ w.uuids n 0

/-- What the phases say about identifiers. -/
structure Names (g : ℕ → Option Phase) (w : World) : Prop where
  uuids : ∀ m n, w.uuids m 0 = w.uuids n 0 → m = n
  tokens : ∀ i j q q' t, g i = some q → g j = some q' → q.token = some t → q'.token = some t → i = j
  fresh : ∀ i q, g i = some q → ∀ n, w.calls ≤ n →
    q.token ≠ some (w.uuids n 0) ∧ q.sessionId ≠ some (w.uuids n 0)

section Rows
variable {deviceId : String} {g : ℕ → Option Phase} {active active' : ℕ → Prop} {w w' : World}

/-- Only what a session is about counts. -/
theorem Fits.congr {q : Phase} {s s₀ : PairingSession} (h : Fits deviceId q s₀) (hid : s.id = s₀.id)
    (htoken : s.token = s₀.token) (hdevice : s.deviceId = s₀.deviceId)
    (hstatus : s.status = s₀.status) : Fits deviceId q s := by
  cases q with
  | drawn t => exact fun ht => h (htoken.symm.trans ht)
  | opened t =>
    intro ht
    rw [hdevice, hstatus]
    exact h (htoken ▸ ht)
  | found id t =>
    intro hs
    rw [htoken]
    exact h (hid ▸ hs)
  | held id t =>
    intro hs
    rw [htoken]
    exact h (hid ▸ hs)
  | _ => trivial

theorem Window.congr {q : Phase} {s s₀ : PairingSession} (h : Window q s₀)
    (htoken : s.token = s₀.token) : Window q s := by
  cases q with
  | cleared => exact h
  | drawn t => exact h
  | opened t => exact htoken.trans h
  | _ => trivial

theorem window_of_not_between {q : Phase} (hq : ¬ q.Between) (s : PairingSession) : Window q s := by
  cases q with
  | cleared => exact absurd trivial hq
  | drawn t => exact absurd trivial hq
  | opened t => exact absurd trivial hq
  | _ => trivial

theorem Rows.mono (h : Rows deviceId g active w) (hactive : ∀ i, active' i → active i) :
    Rows deviceId g active' w :=
  ⟨h.one, h.fits, fun i q hq hi => h.window i q hq (hactive i hi), h.fresh⟩

/-- Sessions may be gone. -/
theorem Rows.thin (h : Rows deviceId g active w) (hgrows : Grows w w')
    (hthin : Thin w.db.pairingSessions w'.db.pairingSessions) : Rows deviceId g active w' where
  one := by
    intro s hs s' hs' hdevice hstatus hdevice' hstatus'
    obtain ⟨s₀, hs₀, hid, -, hdevice₀, hstatus₀⟩ := hthin s hs
    obtain ⟨s₁, hs₁, hid', -, hdevice₁, hstatus₁⟩ := hthin s' hs'
    have heq := h.one s₀ hs₀ s₁ hs₁ (hdevice₀ ▸ hdevice) (hstatus₀ ▸ hstatus) (hdevice₁ ▸ hdevice')
      (hstatus₁ ▸ hstatus')
    exact Table.eq_of_key hs hs' (by rw [hid, hid', heq])
  fits i q hq s hs := by
    obtain ⟨s₀, hs₀, hid, htoken, hdevice, hstatus⟩ := hthin s hs
    exact (h.fits i q hq s₀ hs₀).congr hid htoken hdevice hstatus
  window i q hq hi s hs hdevice hstatus := by
    obtain ⟨s₀, hs₀, -, htoken, hdevice₀, hstatus₀⟩ := hthin s hs
    exact (h.window i q hq hi s₀ hs₀ (hdevice₀ ▸ hdevice) (hstatus₀ ▸ hstatus)).congr htoken
  fresh n hn s hs := by
    obtain ⟨s₀, hs₀, hid, htoken, -, -⟩ := hthin s hs
    rw [hgrows.uuids, hid, htoken]
    exact h.fresh n (hgrows.calls.trans hn) s₀ hs₀

/-- A request is in a new phase. -/
theorem Rows.set (h : Rows deviceId g active w) {i : ℕ} {q : Phase}
    (hactive : ∀ j, j ≠ i → active' j → active j)
    (hfits : ∀ s ∈ w.db.pairingSessions.rows, Fits deviceId q s)
    (hwindow : ∀ s ∈ w.db.pairingSessions.rows, s.deviceId = deviceId → s.status = .waiting →
      Window q s) : Rows deviceId (Function.update g i (some q)) active' w := by
  refine ⟨h.one, fun j q' hq => ?_, fun j q' hq hj => ?_, h.fresh⟩
  · by_cases hji : j = i
    · rw [hji, Function.update_self] at hq
      obtain rfl := Option.some.inj hq
      exact hfits
    · rw [Function.update_of_ne hji] at hq
      exact h.fits j q' hq
  · by_cases hji : j = i
    · rw [hji, Function.update_self] at hq
      obtain rfl := Option.some.inj hq
      exact hwindow
    · rw [Function.update_of_ne hji] at hq
      exact h.window j q' hq (hactive j hji hj)

/-- A start creates its session while no other is between its deletion and its return. -/
theorem Rows.create (h : Rows deviceId g active w) (hnames : Names g w) {i : ℕ} {t : String}
    {s : PairingSession} {rows : Table PairingSession.id} (hi : g i = some (.drawn t))
    (hactive : active i) (hothers : ∀ j, j ≠ i → active j → ∀ q, g j = some q → ¬ q.Between)
    (hs : Fresh deviceId t w s) (hins : w.db.pairingSessions.insert s = some rows) :
    Rows deviceId (Function.update g i (some (.opened t))) active
      (World.afterCall w { w.db with pairingSessions := rows }) := by
  have hrows : ∀ s' ∈ rows.rows, s' ∈ w.db.pairingSessions.rows ∨ s' = s := by
    intro s' hs'
    rw [(Table.insert_eq_some hins).2, List.mem_append, List.mem_singleton] at hs'
    exact hs'
  have hnone : ∀ s' ∈ w.db.pairingSessions.rows, s'.deviceId = deviceId → s'.status ≠ .waiting :=
    fun s' hs' hdevice hstatus => h.window i _ hi hactive s' hs' hdevice hstatus
  have hwaiting : ∀ s' ∈ rows.rows, s'.deviceId = deviceId → s'.status = .waiting → s' = s := by
    intro s' hs' hdevice hstatus
    rcases hrows s' hs' with hold | rfl
    · exact absurd hstatus (hnone s' hold hdevice)
    · rfl
  refine ⟨?_, fun j q hq s' hs' => ?_, fun j q hq hj s' hs' hdevice hstatus => ?_,
    fun n hn s' hs' => ?_⟩
  · intro s₁ hs₁ s₂ hs₂ hdevice hstatus hdevice' hstatus'
    rw [hwaiting s₁ hs₁ hdevice hstatus, hwaiting s₂ hs₂ hdevice' hstatus']
  · by_cases hji : j = i
    · rw [hji, Function.update_self] at hq
      obtain rfl := Option.some.inj hq
      intro htoken
      rcases hrows s' hs' with hold | rfl
      · exact absurd htoken (h.fits i _ hi s' hold)
      · exact ⟨hs.device, hs.status⟩
    · rw [Function.update_of_ne hji] at hq
      rcases hrows s' hs' with hold | rfl
      · exact h.fits j q hq s' hold
      have hother : ∀ t', q.token = some t' → t ≠ t' := by
        rintro t' ht' rfl
        exact hji (hnames.tokens j i q _ t hq hi ht' rfl)
      cases q with
      | drawn t' => exact fun htoken => hother t' rfl (hs.token.symm.trans htoken)
      | opened t' => exact fun htoken => absurd (hs.token.symm.trans htoken) (hother t' rfl)
      | found id t' =>
        intro hid
        exact absurd (congrArg some (hid.symm.trans hs.id)) (hnames.fresh j _ hq w.calls le_rfl).2
      | held id t' =>
        intro hid
        exact absurd (congrArg some (hid.symm.trans hs.id)) (hnames.fresh j _ hq w.calls le_rfl).2
      | _ => trivial
  · by_cases hji : j = i
    · rw [hji, Function.update_self] at hq
      obtain rfl := Option.some.inj hq
      rw [hwaiting s' hs' hdevice hstatus]
      exact hs.token
    · rw [Function.update_of_ne hji] at hq
      exact window_of_not_between (hothers j hji hj q hq) s'
  · have hn' : w.calls + 1 ≤ n := hn
    rcases hrows s' hs' with hold | rfl
    · exact h.fresh n (by omega) s' hold
    · refine ⟨fun hid => ?_, fun htoken => ?_⟩
      · have := hnames.uuids _ _ (hs.id.symm.trans hid)
        omega
      · exact (hnames.fresh i _ hi n (by omega)).1 (congrArg some (hs.token.symm.trans htoken))

/-- A request is in a new phase, and identifiers were drawn. -/
theorem Names.set (h : Names g w) (hgrows : Grows w w') {i : ℕ} {q : Phase}
    (htokens : ∀ t, q.token = some t → ∀ j q', j ≠ i → g j = some q' → q'.token ≠ some t)
    (hfresh : ∀ n, w'.calls ≤ n → q.token ≠ some (w.uuids n 0) ∧ q.sessionId ≠ some (w.uuids n 0)) :
    Names (Function.update g i (some q)) w' := by
  refine ⟨?_, fun j j' q₁ q₂ t hq₁ hq₂ ht₁ ht₂ => ?_, fun j q₁ hq₁ n hn => ?_⟩
  · rw [hgrows.uuids]
    exact h.uuids
  · by_cases hj : j = i
    · by_cases hj' : j' = i
      · rw [hj, hj']
      · rw [hj, Function.update_self] at hq₁
        rw [Function.update_of_ne hj'] at hq₂
        obtain rfl := Option.some.inj hq₁
        exact absurd ht₂ (htokens t ht₁ j' q₂ hj' hq₂)
    · rw [Function.update_of_ne hj] at hq₁
      by_cases hj' : j' = i
      · rw [hj', Function.update_self] at hq₂
        obtain rfl := Option.some.inj hq₂
        exact absurd ht₁ (htokens t ht₂ j q₁ hj hq₁)
      · rw [Function.update_of_ne hj'] at hq₂
        exact h.tokens j j' q₁ q₂ t hq₁ hq₂ ht₁ ht₂
  · rw [hgrows.uuids]
    by_cases hj : j = i
    · rw [hj, Function.update_self] at hq₁
      obtain rfl := Option.some.inj hq₁
      exact hfresh n hn
    · rw [Function.update_of_ne hj] at hq₁
      exact h.fresh j q₁ hq₁ n (hgrows.calls.trans hn)

theorem Names.grow (h : Names g w) (hgrows : Grows w w') : Names g w' := by
  refine ⟨?_, h.tokens, fun i q hq n hn => ?_⟩
  · rw [hgrows.uuids]
    exact h.uuids
  · rw [hgrows.uuids]
    exact h.fresh i q hq n (hgrows.calls.trans hn)

end Rows

/-! ### What holds at all times -/

/-- Phases, sessions and transactions fit together. -/
structure Linked (env : Env) (deviceId : String) (P : Requests) (g : ℕ → Option Phase) : Prop where
  goes : ∀ i θ, P.tx i = some θ → ∃ q, g i = some q ∧ Goes env deviceId θ.prog q ∧ LogOk q θ.log
  idle : ∀ i, P.tx i = none → g i = none
  ended : ∀ i θ, P.tx i = some θ → θ.ended = true → ∃ r, θ.prog = .ret r
  locked : ∀ i θ id t, P.tx i = some θ → θ.ended = false → g i = some (.held id t) →
    id ∈ θ.locks ∧ ∃ s ∈ (sessions P).rows, s.id = id
  rows : Rows deviceId g (Running P) P.world
  names : Names g P.world

/-- What a move does, apart from keeping things linked. -/
structure Next (env : Env) (deviceId : String) (P P' : Requests)
    (g g' : ℕ → Option Phase) : Prop where
  linked : Linked env deviceId P' g'
  effect : Thin (sessions P) (sessions P') ∨ ∃ i t s, g i = some (.drawn t) ∧ s.token = t ∧
    (sessions P').rows = (sessions P).rows ++ [s]
  settled : Rows deviceId g' (Running P) P'.world

section Linked
variable {env : Env} {deviceId : String} {P P' : Requests} {g : ℕ → Option Phase}

theorem Linked.phase (h : Linked env deviceId P g) {i : ℕ} {θ : Tx Reply} {q : Phase}
    (hi : P.tx i = some θ) (hq : g i = some q) : Goes env deviceId θ.prog q ∧ LogOk q θ.log := by
  obtain ⟨q', hq', hgoes, hlog⟩ := h.goes i θ hi
  rw [hq] at hq'
  obtain rfl := Option.some.inj hq'
  exact ⟨hgoes, hlog⟩

/-- One request has moved. -/
theorem Linked.update (h : Linked env deviceId P g) {i : ℕ} {θ : Tx Reply} {q : Phase}
    (htx : P'.tx = Function.update P.tx i (some θ)) (hgoes : Goes env deviceId θ.prog q)
    (hlog : LogOk q θ.log) (hended : θ.ended = true → ∃ r, θ.prog = .ret r)
    (hlocked : ∀ id t, q = .held id t → θ.ended = false →
      id ∈ θ.locks ∧ ∃ s ∈ (sessions P').rows, s.id = id)
    (hothers : ∀ j θ' id, j ≠ i → P.tx j = some θ' → id ∈ θ'.locks →
      ∀ s ∈ (sessions P).rows, s.id = id → ∃ s' ∈ (sessions P').rows, s'.id = id)
    (hrows : Rows deviceId (Function.update g i (some q)) (Running P') P'.world)
    (hnames : Names (Function.update g i (some q)) P'.world) :
    Linked env deviceId P' (Function.update g i (some q)) := by
  refine ⟨fun j θ' hj => ?_, fun j hj => ?_, fun j θ' hj hend => ?_, fun j θ' id t hj hend hq => ?_,
    hrows, hnames⟩
  · rw [htx] at hj
    by_cases hji : j = i
    · rw [hji, Function.update_self] at hj ⊢
      obtain rfl := Option.some.inj hj
      exact ⟨q, rfl, hgoes, hlog⟩
    · rw [Function.update_of_ne hji] at hj ⊢
      exact h.goes j θ' hj
  · rw [htx] at hj
    by_cases hji : j = i
    · rw [hji, Function.update_self] at hj
      cases hj
    · rw [Function.update_of_ne hji] at hj ⊢
      exact h.idle j hj
  · rw [htx] at hj
    by_cases hji : j = i
    · rw [hji, Function.update_self] at hj
      obtain rfl := Option.some.inj hj
      exact hended hend
    · rw [Function.update_of_ne hji] at hj
      exact h.ended j θ' hj hend
  · rw [htx] at hj
    by_cases hji : j = i
    · rw [hji, Function.update_self] at hj hq
      obtain rfl := Option.some.inj hj
      exact hlocked id t (Option.some.inj hq) hend
    · rw [Function.update_of_ne hji] at hj hq
      obtain ⟨hmem, s, hs, hid⟩ := h.locked j θ' id t hj hend hq
      exact ⟨hmem, hothers j θ' id hji hj hmem s hs hid⟩

theorem running_update {i : ℕ} {θ : Tx Reply}
    (htx : P'.tx = Function.update P.tx i (some θ)) {j : ℕ}
    (hji : j ≠ i) : Running P' j ↔ Running P j := by
  unfold Running
  rw [htx, Function.update_of_ne hji]

/-- A row that is locked by another stays. -/
theorem kept_of_unchanged {db db' : Database} {s : PairingSession}
    (hs : s ∈ db.pairingSessions.rows) (h : s.id ∉ changed db db') :
    ∃ s' ∈ db'.pairingSessions.rows, s'.id = s.id := by
  by_cases hfind : db'.pairingSessions.find s.id = some s
  · exact ⟨s, Table.mem_of_find hfind, rfl⟩
  · refine absurd (List.mem_map.mpr ⟨s, List.mem_filter.mpr ⟨hs, ?_⟩, rfl⟩) h
    simpa using hfind

theorem changed_congr {db db₁ db' db₁' : Database} (h : db₁.pairingSessions = db.pairingSessions)
    (h' : db₁'.pairingSessions = db'.pairingSessions) : changed db₁ db₁' = changed db db' := by
  unfold changed
  rw [h, h']

/-- Outside of its transaction a request logs nothing. -/
theorem LogOk.outside {q : Phase} {log : List (Database → Database)} (hq : q.Outside) :
    LogOk q log ↔ ∀ db : Database, logged log db = db.pairingSessions := by
  cases q with
  | early => rfl
  | cleared => rfl
  | drawn t => rfl
  | opened t => rfl
  | cancelling => rfl
  | _ => exact hq.elim

/-- A call moves its request, and nobody else. -/
theorem Linked.call_next (h : Linked env deviceId P g) {i : ℕ} {θ : Tx Reply}
    {p' : Prog TxWorld Err Reply}
    {q' : Phase} {log' : List (Database → Database)} {locks' : List String} (hi : P.tx i = some θ)
    (hp : ∀ r, θ.prog ≠ .ret r)
    (htx : P'.tx = Function.update P.tx i (some ⟨log', locks', p', false⟩))
    (hgoes : Goes env deviceId p' q') (hlog : LogOk q' log')
    (hlocked : ∀ id t, q' = .held id t → id ∈ locks' ∧ ∃ s ∈ (sessions P').rows, s.id = id)
    (hothers : ∀ j θ' id, j ≠ i → P.tx j = some θ' → id ∈ θ'.locks →
      ∀ s ∈ (sessions P).rows, s.id = id → ∃ s' ∈ (sessions P').rows, s'.id = id)
    (hrows : Rows deviceId (Function.update g i (some q')) (Running P) P'.world)
    (hnames : Names (Function.update g i (some q')) P'.world)
    (heffect : Thin (sessions P) (sessions P') ∨ ∃ i t s, g i = some (.drawn t) ∧ s.token = t ∧
      (sessions P').rows = (sessions P).rows ++ [s]) :
    Next env deviceId P P' g (Function.update g i (some q')) := by
  have hrun : ∀ j, Running P' j → Running P j := by
    intro j hj
    by_cases hji : j = i
    · rw [hji]
      exact ⟨θ, hi, hp⟩
    · exact (running_update htx hji).mp hj
  exact ⟨h.update htx hgoes hlog
    (fun hend => by cases hend) (fun id t hq _ => hlocked id t hq) hothers
    (hrows.mono hrun) hnames, heffect, hrows⟩

/-- A call that leaves the committed sessions alone. -/
theorem Linked.inside (h : Linked env deviceId P g) {i : ℕ} {θ : Tx Reply}
    {p' : Prog TxWorld Err Reply}
    {q' : Phase} {log' : List (Database → Database)} {locks' : List String} (hi : P.tx i = some θ)
    (hp : ∀ r, θ.prog ≠ .ret r) (hstill : Still P.world P'.world)
    (htx : P'.tx = Function.update P.tx i (some ⟨log', locks', p', false⟩))
    (hgoes : Goes env deviceId p' q') (hlog : LogOk q' log') (hq' : ¬ q'.Outside)
    (hfits : ∀ s ∈ (sessions P).rows, Fits deviceId q' s)
    (hname : ∀ n, P.world.calls ≤ n → q'.sessionId ≠ some (P.world.uuids n 0))
    (hlocked : ∀ id t, q' = .held id t → id ∈ locks' ∧ ∃ s ∈ (sessions P).rows, s.id = id) :
    Next env deviceId P P' g (Function.update g i (some q')) := by
  have hsame : sessions P' = sessions P := hstill.sessions
  have hthin : Thin (sessions P) (sessions P') := by
    rw [hsame]
    exact .refl _
  have htoken : ∀ t, q'.token ≠ some t := by
    intro t ht
    cases q' with
    | drawn t' => exact hq' trivial
    | opened t' => exact hq' trivial
    | _ => cases ht
  have hbetween : ¬ q'.Between := by
    intro hb
    cases q' with
    | cleared => exact hq' trivial
    | drawn t => exact hq' trivial
    | opened t => exact hq' trivial
    | _ => exact hb
  refine h.call_next hi hp htx hgoes hlog ?_ ?_ ?_ ?_ (.inl hthin)
  · rw [hsame]
    exact hlocked
  · rw [hsame]
    exact fun j θ' id _ _ _ s hs hid => ⟨s, hs, hid⟩
  · refine (h.rows.thin hstill.toGrows hthin).set (fun _ _ hj => hj) ?_
      fun s _ _ _ => window_of_not_between hbetween s
    rintro s hs
    rw [hstill.sessions] at hs
    exact hfits s hs
  · exact h.names.set hstill.toGrows (fun t ht => absurd ht (htoken t)) fun n hn =>
      ⟨htoken _, hname n (hstill.calls.trans hn)⟩

/-- A call of a start or a cancellation. -/
theorem Linked.plain (h : Linked env deviceId P g) {i : ℕ} {θ : Tx Reply}
    {p' : Prog TxWorld Err Reply}
    {q q' : Phase} {locks' : List String} (hi : P.tx i = some θ)
    (hp : ∀ r, θ.prog ≠ .ret r) (hg : g i = some q) (hout : q.Outside ∧ q'.Outside)
    (hstep : Plain deviceId q P.world P'.world q')
    (htx : P'.tx = Function.update P.tx i (some ⟨θ.log, locks', p', false⟩))
    (hgoes : Goes env deviceId p' q')
    (hfree : ∀ j θ', j ≠ i → P.tx j = some θ' →
      ∀ id ∈ changed P.world.db P'.world.db, id ∉ θ'.locks)
    (hapart : Creates P P' → ∀ j θ', j ≠ i → P.tx j = some θ' → ¬ Issuing env deviceId θ'.prog) :
    Next env deviceId P P' g (Function.update g i (some q')) := by
  have hlog : LogOk q' θ.log :=
    (LogOk.outside hout.2).mpr ((LogOk.outside hout.1).mp (h.phase hi hg).2)
  have hrunning : Running P i := ⟨θ, hi, hp⟩
  have hlocked : ∀ id t, q' = .held id t → id ∈ locks' ∧ ∃ s ∈ (sessions P').rows, s.id = id := by
    rintro id t rfl
    exact hout.2.elim
  have hothers : ∀ j θ' id, j ≠ i → P.tx j = some θ' → id ∈ θ'.locks →
      ∀ s ∈ (sessions P).rows, s.id = id → ∃ s' ∈ (sessions P').rows, s'.id = id := by
    rintro j θ' _ hji hj hlock s hs rfl
    exact kept_of_unchanged hs fun hmem => hfree j θ' hji hj s.id hmem hlock
  have hnext := fun hrows hnames heffect =>
    h.call_next hi hp htx hgoes hlog hlocked hothers hrows hnames heffect
  generalize hw : P'.world = w' at hstep
  cases hstep with
  | still hstill =>
    have hthin : Thin P.world.db.pairingSessions P'.world.db.pairingSessions := by
      rw [hw, hstill.sessions]
      exact .refl _
    have hgrows : Grows P.world P'.world := hw ▸ hstill.toGrows
    have hsame : Function.update g i (some q) = g := by
      rw [← hg]
      exact Function.update_eq_self i g
    refine hnext ?_ ?_ (.inl hthin)
    · rw [hsame]
      exact h.rows.thin hgrows hthin
    · rw [hsame]
      exact h.names.grow hgrows
  | clear hq =>
    have hthin : Thin P.world.db.pairingSessions P'.world.db.pairingSessions := by
      rw [hw]
      exact fun s hs => ⟨s, (Table.mem_erase.mp hs).1, rfl, rfl, rfl, rfl⟩
    have hgrows : Grows P.world P'.world := hw ▸ ⟨rfl, Nat.le_succ _⟩
    refine hnext ((h.rows.thin hgrows hthin).set (fun _ _ hj => hj) ?_ ?_) ?_ (.inl hthin)
    · rcases hq with ⟨-, rfl⟩ | ⟨-, rfl⟩
      · exact fun _ _ => trivial
      · exact fun _ _ => trivial
    · rcases hq with ⟨-, rfl⟩ | ⟨-, rfl⟩
      · intro s hs hdevice hstatus
        rw [hw] at hs
        have hkept := (Table.mem_erase.mp hs).2
        simp [hdevice, hstatus] at hkept
      · exact fun _ _ _ _ => trivial
    · rcases hq with ⟨-, rfl⟩ | ⟨-, rfl⟩
      · exact h.names.set hgrows (fun t ht => by cases ht) fun n _ => ⟨nofun, nofun⟩
      · exact h.names.set hgrows (fun t ht => by cases ht) fun n _ => ⟨nofun, nofun⟩
  | draw =>
    have hthin : Thin P.world.db.pairingSessions P'.world.db.pairingSessions := by
      rw [hw]
      exact .refl _
    have hgrows : Grows P.world P'.world := hw ▸ ⟨rfl, Nat.le_succ _⟩
    refine hnext ((h.rows.thin hgrows hthin).set (fun _ _ hj => hj) ?_ ?_) ?_ (.inl hthin)
    · intro s hs
      rw [hw] at hs
      exact (h.rows.fresh _ le_rfl s hs).2
    · intro s hs hdevice hstatus
      rw [hw] at hs
      exact h.rows.window i _ hg hrunning s hs hdevice hstatus
    · refine h.names.set hgrows (fun t ht j q' _ hq' => ?_) fun n hn => ⟨fun heq => ?_, nofun⟩
      · obtain rfl := Option.some.inj ht
        exact (h.names.fresh j q' hq' _ le_rfl).1
      · have := h.names.uuids _ _ (Option.some.inj heq)
        have hn' : P.world.calls + 1 ≤ n := by
          rw [hw] at hn
          exact hn
        omega
  | @create t _ s rows hs hins =>
    have hgrows : Grows P.world P'.world := hw ▸ ⟨rfl, Nat.le_succ _⟩
    have hrows : (sessions P').rows = (sessions P).rows ++ [s] := by
      rw [sessions, hw]
      exact (Table.insert_eq_some hins).2
    have hcreates : Creates P P' := by
      refine ⟨s, by rw [hrows]; simp, Table.find_eq_none.mpr fun s' hs' hid => ?_⟩
      exact (h.rows.fresh _ le_rfl s' hs').1 (hid.trans hs.id)
    refine hnext ?_ ?_ (.inr ⟨i, t, s, hg, hs.token, hrows⟩)
    · rw [hw]
      refine h.rows.create h.names hg hrunning
        (fun j hji ⟨θ', hj, hret⟩ q hq hbetween => ?_) hs hins
      exact hapart hcreates j θ' hji hj ⟨(h.phase hj hq).1.here hbetween, hret⟩
    · refine h.names.set hgrows (fun t' ht j q' hji hq' ht' => ?_) fun n hn => ⟨?_, nofun⟩
      · obtain rfl := Option.some.inj ht
        exact hji (h.names.tokens j i q' _ t hq' hg ht' rfl)
      · exact (h.names.fresh i _ hg n (hgrows.calls.trans hn)).1

/-- **What a call preserves.** -/
theorem Linked.call (h : Linked env deviceId P g) {i : ℕ} {log : List (Database → Database)}
    {locks : List String} {u : TxWorld → TxWorld} {k : TxWorld → Prog TxWorld Err Reply}
    {ended : Bool}
    (hi : P.tx i = some ⟨log, locks, .act u k, ended⟩)
    (hfree : ∀ j θ, j ≠ i → P.tx j = some θ →
      ∀ id ∈ changed (replay log P.world.db) (u ⟨P.world, log⟩).view, id ∉ θ.locks)
    (hw : P'.world = (u ⟨P.world, log⟩).base)
    (htx : P'.tx = Function.update P.tx i (some ⟨(u ⟨P.world, log⟩).log, locks ++
      (changed (replay log P.world.db) (u ⟨P.world, log⟩).view).filter
        (· ∉ changed P.world.db (u ⟨P.world, log⟩).base.db), k ⟨P.world, log⟩, ended⟩))
    (hapart : Creates P P' → ∀ j θ', j ≠ i → P.tx j = some θ' → ¬ Issuing env deviceId θ'.prog) :
    ∃ g', Next env deviceId P P' g g' := by
  have hlive : ended = false := by
    cases ended with
    | false => rfl
    | true =>
      obtain ⟨r, hr⟩ := h.ended i _ hi rfl
      cases hr
  subst hlive
  have hret : ∀ r, (Prog.act u k : Prog TxWorld Err Reply) ≠ .ret r := nofun
  obtain ⟨q, hg, hgoes, hlog⟩ := h.goes i _ hi
  obtain ⟨q', hstep, hk⟩ := hgoes.2 ⟨P.world, log⟩
  refine ⟨Function.update g i (some q'), ?_⟩
  have hfits := h.rows.fits i q hg
  have hnames := h.names.fresh i q hg
  -- what a request without writes of its own sees
  have hview : (∀ db : Database, logged log db = db.pairingSessions) →
      (⟨P.world, log⟩ : TxWorld).view.pairingSessions = sessions P := fun hnone => hnone P.world.db
  generalize u ⟨P.world, log⟩ = s' at hfree hw htx hstep
  change Step deviceId q ⟨P.world, log⟩ s' q' at hstep
  cases hstep with
  | @plain _ _ _ w' hq hq' hplain =>
    refine h.plain hi hret hg ⟨hq, hq'⟩ (by rw [hw]; exact hplain) htx hk ?_ hapart
    have hnone : ∀ db : Database, (replay log db).pairingSessions = db.pairingSessions :=
      (LogOk.outside hq).mp hlog
    have hsame : changed (replay log P.world.db) (replay log w'.db) = changed P.world.db w'.db :=
      changed_congr (hnone P.world.db) (hnone w'.db)
    rw [hw]
    intro j θ' hji hj id hid
    refine hfree j θ' hji hj id ?_
    change id ∈ changed (replay log P.world.db) (replay log w'.db)
    rw [hsame]
    exact hid
  | read hq hbase hsame =>
    have hnone : LogOk q s'.log := by
      rcases hq with rfl | ⟨id, t, rfl⟩
      · exact fun db => (hsame db).trans (hlog db)
      · exact fun db => (hsame db).trans (hlog db)
    refine h.inside hi hret
      (by rw [hw]; exact hbase) htx hk hnone ?_ hfits (fun n hn => (hnames n hn).2) ?_
    · rcases hq with rfl | ⟨id, t, rfl⟩
      · exact fun h => h
      · exact fun h => h
    · rintro id t rfl
      rcases hq with hq | ⟨_, _, hq⟩
      · cases hq
      · cases hq
  | @find _ _ r hbase hsame hr =>
    have hmem : r ∈ (sessions P).rows := by
      rw [← hview hlog]
      exact hr
    refine h.inside hi hret (by rw [hw]; exact hbase) htx hk (fun db => (hsame db).trans (hlog db))
      (fun h => h) (fun s hs hid => ?_) (fun n hn heq => ?_) nofun
    · rw [Table.eq_of_key hs hmem hid]
    · exact (h.rows.fresh n hn r hmem).1 (Option.some.inj heq)
  | @lock id t _ _ hbase honly hlock =>
    refine h.inside hi hret (by rw [hw]; exact hbase) htx hk (fun db => ?_) (fun h => h) hfits
      (fun n hn => (hnames n hn).2) ?_
    · rw [← hlog db]
      exact honly db
    · rintro _ _ ⟨⟩
      constructor
      · refine List.mem_append_right _ (List.mem_filter.mpr ⟨hlock, ?_⟩)
        rw [changed_of_sessions hbase.sessions]
        simp
      · obtain ⟨s, hs, hid⟩ := List.mem_map.mp hlock
        have hrow := (List.mem_filter.mp hs).1
        rw [hview hlog] at hrow
        exact ⟨s, hrow, hid⟩
  | @held id t _ _ hbase honly =>
    refine h.inside hi hret (by rw [hw]; exact hbase) htx hk (fun db => (hlog db).trans (honly db))
      (fun h => h) hfits (fun n hn => (hnames n hn).2) ?_
    rintro _ _ ⟨⟩
    obtain ⟨hmem, hrow⟩ := h.locked i _ id t hi rfl hg
    exact ⟨List.mem_append_left _ hmem, hrow⟩
  | doom hq hbase =>
    exact h.inside hi hret (by rw [hw]; exact hbase) htx hk trivial (fun h => h)
      (fun _ _ => trivial) (fun _ _ => nofun) nofun

/-- **What the end of a transaction preserves.** -/
theorem Linked.finish (h : Linked env deviceId P g) {i : ℕ} {log : List (Database → Database)}
    {locks : List String} {r : Except Err Reply}
    (hi : P.tx i = some ⟨log, locks, .ret r, false⟩) (hgrows : Grows P.world P'.world)
    (hthin : Thin (sessions P) (sessions P'))
    (hothers : ∀ j θ' id, j ≠ i → P.tx j = some θ' → id ∈ θ'.locks →
      ∀ s ∈ (sessions P).rows, s.id = id → ∃ s' ∈ (sessions P').rows, s'.id = id)
    (htx : P'.tx = Function.update P.tx i (some ⟨[], [], .ret r, true⟩)) :
    Next env deviceId P P' g g := by
  obtain ⟨q, hg, hgoes, -⟩ := h.goes i _ hi
  have hlog : LogOk q [] := by
    cases q with
    | held id t => exact fun db => .refl id _
    | doomed => trivial
    | _ => exact fun db => rfl
  have hsame : Function.update g i (some q) = g := by
    rw [← hg]
    exact Function.update_eq_self i g
  have hrows : Rows deviceId g (Running P) P'.world := h.rows.thin hgrows hthin
  have hrun : ∀ j, Running P' j → Running P j := by
    rintro j hj
    by_cases hji : j = i
    · obtain ⟨θ, hθ, hret⟩ := hj
      rw [hji, htx, Function.update_self] at hθ
      obtain rfl := Option.some.inj hθ
      exact absurd rfl (hret r)
    · exact (running_update htx hji).mp hj
  refine ⟨?_, .inl hthin, hrows⟩
  rw [← hsame]
  refine h.update htx hgoes hlog (fun _ => ⟨r, rfl⟩) (fun _ _ _ => nofun) hothers ?_ ?_
  · rw [hsame]
    exact hrows.mono hrun
  · rw [hsame]
    exact h.names.grow hgrows

/-- **What a move preserves.** -/
theorem Linked.next (h : Linked env deviceId P g) (hexcl : P.Exclusive) {m : Move Request}
    (hm : Pool.Moves (serve env deviceId) P m P')
    (hapart : ∀ i, m = .call i → Creates P P' →
      ∀ j θ', j ≠ i → P.tx j = some θ' → ¬ Issuing env deviceId θ'.prog) :
    ∃ g', Next env deviceId P P' g g' := by
  cases hm with
  | @start t i _ hi hw htx =>
    have hgrows : Grows P.world P'.world := hw ▸ .refl _
    have hthin : Thin (sessions P) (sessions P') := by
      rw [sessions, sessions, hw]
      exact .refl _
    have hrows := h.rows.thin hgrows hthin
    have hbetween : ¬ (first t).Between := by
      cases t with
      | _ => exact fun h => h
    have hset : ∀ active, (∀ j, j ≠ i → active j → Running P j) →
        Rows deviceId (Function.update g i (some (first t))) active P'.world := by
      intro active hactive
      refine hrows.set hactive (fun s _ => ?_) fun s _ _ _ => window_of_not_between hbetween s
      cases t with
      | _ => trivial
    refine ⟨Function.update g i (some (first t)), ?_, .inl hthin, hset _ fun _ _ hj => hj⟩
    refine h.update htx (goes_serve t) ?_ (fun hend => by cases hend) ?_ ?_ ?_ ?_
    · cases t with
      | _ => exact fun db => rfl
    · rintro id t' hq
      cases t with
      | _ => cases hq
    · rw [sessions, sessions, hw]
      exact fun j θ' id _ _ _ s hs hid => ⟨s, hs, hid⟩
    · exact hset _ fun j hji hj => (running_update htx hji).mp hj
    · refine h.names.set hgrows (fun t' ht => ?_) fun n _ => ⟨?_, ?_⟩
      · cases t with
        | _ => cases ht
      · cases t with
        | _ => exact nofun
      · cases t with
        | _ => exact nofun
  | @call i _ _ _ _ _ _ hi hfree hw htx => exact h.call hi hfree hw htx (hapart i rfl)
  | @commit i log locks a _ hi hw htx =>
    have hgrows : Grows P.world P'.world := hw ▸ ⟨rfl, le_rfl⟩
    obtain ⟨q, hg, hgoes, hlog⟩ := h.goes i _ hi
    have hrows : sessions P' = logged log P.world.db := by
      rw [sessions, hw]
      rfl
    by_cases hnone : sessions P' = sessions P
    · refine ⟨g, h.finish hi hgrows ?_ ?_ htx⟩
      · rw [hnone]
        exact .refl _
      · rw [hnone]
        exact fun j θ' id _ _ _ s hs hid => ⟨s, hs, hid⟩
    -- only a confirmation with its lock writes to the sessions
    cases q with
    | held id t =>
      have honly : Only id (sessions P) (sessions P') := by
        rw [hrows]
        exact hlog P.world.db
      refine ⟨g, h.finish hi hgrows honly.thin ?_ htx⟩
      rintro j θ' id' hji hj hlock s hs rfl
      refine ⟨s, honly.others s hs fun hid => hji ?_, rfl⟩
      exact hexcl j i θ' _ id hj hi (hid ▸ hlock) (h.locked i _ id t hi rfl hg).1
    | doomed =>
      obtain ⟨e, he⟩ := hgoes.2
      cases he
    | _ => exact absurd (hrows.trans (hlog P.world.db)) hnone
  | rollback hi hw htx =>
    have hsame : sessions P' = sessions P := by rw [sessions, sessions, hw]
    refine ⟨g, h.finish hi (hw ▸ .refl _) ?_ ?_ htx⟩
    · rw [hsame]
      exact .refl _
    · rw [hsame]
      exact fun j θ' id _ _ _ s hs hid => ⟨s, hs, hid⟩
  | tick hw htx =>
    have hgrows : Grows P.world P'.world := hw ▸ ⟨rfl, le_rfl⟩
    have hsame : sessions P' = sessions P := by rw [sessions, sessions, hw]
    have hthin : Thin (sessions P) (sessions P') := by
      rw [hsame]
      exact .refl _
    have hrun : Running P' = Running P := by
      unfold Running
      rw [htx]
    refine ⟨g, ⟨?_, ?_, ?_, ?_, ?_, h.names.grow hgrows⟩, .inl hthin, h.rows.thin hgrows hthin⟩
    · rw [htx]
      exact h.goes
    · rw [htx]
      exact h.idle
    · rw [htx]
      exact h.ended
    · rw [htx, hsame]
      exact h.locked
    · rw [hrun]
      exact h.rows.thin hgrows hthin
  | idle => exact ⟨g, h, .inl (.refl _), h.rows⟩

theorem Linked.start {w : World} (hw : Supply w) (hone : OneWaiting deviceId w.db.pairingSessions) :
    Linked env deviceId (Transactions.Pool.idle w) fun _ => none where
  goes i θ hi := by cases hi
  idle _ _ := rfl
  ended i θ hi := by cases hi
  locked i θ id t hi := by cases hi
  rows := ⟨hone, fun _ _ => nofun, fun _ _ => nofun, fun n hn s hs => hw.session hn s hs⟩
  names := ⟨hw.distinct, fun _ _ _ _ _ => nofun, fun _ _ => nofun⟩

/-! ### Tokens that were returned -/

/-- Only a start that has created its session answers with a token, and with its own. -/
theorem opened_of_ends {q : Phase} {r : StartPairingResponse} (h : Ends q (.ok (.started r))) :
    q = .opened r.token := by
  cases q with
  | opened t =>
    rcases h with ⟨e, he⟩ | ⟨r', hr, ht⟩
    · cases he
    · cases hr
      rw [ht]
  | cancelling =>
    rcases h with ⟨e, he⟩ | he
    · cases he
    · cases he
  | reading =>
    rcases h with ⟨e, he⟩ | ⟨dto, he⟩
    · cases he
    · cases he
  | found id t =>
    rcases h with ⟨e, he⟩ | ⟨dto, he⟩
    · cases he
    · cases he
  | held id t =>
    rcases h with ⟨e, he⟩ | ⟨dto, d, he, -⟩
    · cases he
    · cases he
  | _ =>
    obtain ⟨e, he⟩ := h
    cases he

/-- Only a confirmation that holds the lock of its session pairs a device. -/
theorem held_of_ends {q : Phase} {dto : ConfirmPairingDto} {d : String}
    (h : Ends q (.ok (.confirmed dto (some d)))) : ∃ id, q = .held id dto.token := by
  cases q with
  | held id t =>
    rcases h with ⟨e, he⟩ | ⟨dto', d', he, ht⟩
    · cases he
    · cases he
      exact ⟨id, by rw [ht]⟩
  | opened t =>
    rcases h with ⟨e, he⟩ | ⟨r, he, -⟩
    · cases he
    · cases he
  | cancelling =>
    rcases h with ⟨e, he⟩ | he
    · cases he
    · cases he
  | reading =>
    rcases h with ⟨e, he⟩ | ⟨dto', he⟩
    · cases he
    · cases he
  | found id t =>
    rcases h with ⟨e, he⟩ | ⟨dto', he⟩
    · cases he
    · cases he
  | _ =>
    obtain ⟨e, he⟩ := h
    cases he

theorem Linked.returned (h : Linked env deviceId P g) {i : ℕ} {r : StartPairingResponse}
    (hi : Returned P i r) : g i = some (.opened r.token) := by
  obtain ⟨log, locks, ended, hi⟩ := hi
  obtain ⟨q, hg, hgoes, -⟩ := h.goes i _ hi
  rw [hg, opened_of_ends hgoes.2]

/-- A pairing is committed from a session with the token that is still there. -/
theorem Linked.pairs (h : Linked env deviceId P g) {m : Move Request} {k : ℕ}
    {dto : ConfirmPairingDto}
    (hm : Pool.Moves (serve env deviceId) P m P') (hk : Paired P' k dto) :
    Paired P k dto ∨ ∃ s ∈ (sessions P).rows, s.token = dto.token := by
  obtain ⟨log', locks', d, hk⟩ := hk
  have hother : ∀ {i : ℕ} {θ : Tx Reply}, P'.tx = Function.update P.tx i (some θ) → k ≠ i →
      Paired P k dto := by
    intro i θ htx hki
    rw [htx, Function.update_of_ne hki] at hk
    exact ⟨log', locks', d, hk⟩
  have hself : ∀ {i : ℕ} {θ : Tx Reply}, P'.tx = Function.update P.tx i (some θ) → k = i →
      θ = ⟨log', locks', .ret (.ok (.confirmed dto (some d))), true⟩ := by
    rintro i θ htx rfl
    rw [htx, Function.update_self] at hk
    exact Option.some.inj hk
  cases hm with
  | @start t i _ hi hw htx =>
    by_cases hki : k = i
    · have hended := congrArg Tx.ended (hself htx hki)
      cases hended
    · exact .inl (hother htx hki)
  | @call i log locks u c ended _ hi hfree hw htx =>
    by_cases hki : k = i
    · have hended : ended = true := congrArg Tx.ended (hself htx hki)
      obtain ⟨r, hr⟩ := h.ended i _ hi hended
      cases hr
    · exact .inl (hother htx hki)
  | @commit i log locks a _ hi hw htx =>
    by_cases hki : k = i
    · have hprog := congrArg Tx.prog (hself htx hki)
      obtain ⟨q, hg, hgoes, -⟩ := h.goes i _ hi
      have hends : Ends q (.ok (.confirmed dto (some d))) := by
        have hret : Ends q (.ok a) := hgoes.2
        cases hprog
        exact hret
      obtain ⟨id, rfl⟩ := held_of_ends hends
      obtain ⟨-, s, hs, hid⟩ := h.locked i _ id dto.token hi rfl hg
      exact .inr ⟨s, hs, h.rows.fits i _ hg s hs hid⟩
    · exact .inl (hother htx hki)
  | @rollback i log locks e _ hi hw htx =>
    by_cases hki : k = i
    · have hprog := congrArg Tx.prog (hself htx hki)
      cases hprog
    · exact .inl (hother htx hki)
  | tick hw htx =>
    rw [htx] at hk
    exact .inl ⟨log', locks', d, hk⟩
  | idle => exact .inl ⟨log', locks', d, hk⟩

/-- Who has returned stays so. -/
theorem returned_next {m : Move Request} (hm : Pool.Moves (serve env deviceId) P m P') {i : ℕ}
    {r : StartPairingResponse} (hi : Returned P i r) : Returned P' i r := by
  obtain ⟨log, locks, ended, hi⟩ := hi
  have hother : ∀ {j : ℕ} {θ : Tx Reply}, P'.tx = Function.update P.tx j (some θ) → i ≠ j →
      Returned P' i r := by
    intro j θ htx hij
    refine ⟨log, locks, ended, ?_⟩
    rw [htx, Function.update_of_ne hij]
    exact hi
  cases hm with
  | @start t j _ hj hw htx =>
    by_cases hij : i = j
    · rw [hij, hj] at hi
      cases hi
    · exact hother htx hij
  | @call j log' locks' u c ended' _ hj hfree hw htx =>
    by_cases hij : i = j
    · rw [hij, hj] at hi
      cases hi
    · exact hother htx hij
  | @commit j log' locks' a _ hj hw htx =>
    by_cases hij : i = j
    · rw [hij, hj] at hi
      cases hi
      exact ⟨[], [], true, by rw [htx, hij, Function.update_self]⟩
    · exact hother htx hij
  | @rollback j log' locks' e _ hj hw htx =>
    by_cases hij : i = j
    · rw [hij, hj] at hi
      cases hi
    · exact hother htx hij
  | tick hw htx => exact ⟨log, locks, ended, by rw [htx]; exact hi⟩
  | idle => exact ⟨log, locks, ended, hi⟩

/-- Only a call makes a start return. -/
theorem running_of_returns {m : Move Request} (hm : Pool.Moves (serve env deviceId) P m P') {i : ℕ}
    {r : StartPairingResponse} (hnot : ∀ r, ¬ Returned P i r)
    (hi : Returned P' i r) : Running P i := by
  obtain ⟨log, locks, ended, hi⟩ := hi
  have hother : ∀ {j : ℕ} {θ : Tx Reply}, P'.tx = Function.update P.tx j (some θ) → i ≠ j →
      Running P i := by
    intro j θ htx hij
    rw [htx, Function.update_of_ne hij] at hi
    exact absurd ⟨log, locks, ended, hi⟩ (hnot r)
  have hself : ∀ {j : ℕ} {θ : Tx Reply}, P'.tx = Function.update P.tx j (some θ) → i = j →
      θ.prog = .ret (.ok (.started r)) := by
    rintro j θ htx rfl
    rw [htx, Function.update_self] at hi
    exact congrArg Tx.prog (Option.some.inj hi)
  cases hm with
  | @start t j _ hj hw htx =>
    by_cases hij : i = j
    · have hgoes := @goes_serve env deviceId t
      have hprog : serve env deviceId t = .ret (.ok (.started r)) := hself htx hij
      rw [hprog] at hgoes
      have hfirst : first t = .opened r.token := opened_of_ends hgoes.2
      cases t <;> cases hfirst
    · exact hother htx hij
  | @call j log' locks' u c ended' _ hj hfree hw htx =>
    by_cases hij : i = j
    · rw [hij]
      exact ⟨_, hj, nofun⟩
    · exact hother htx hij
  | @commit j log' locks' a _ hj hw htx =>
    by_cases hij : i = j
    · have hprog := hself htx hij
      cases hprog
      exact absurd ⟨log', locks', false, hij ▸ hj⟩ (hnot r)
    · exact hother htx hij
  | @rollback j log' locks' e _ hj hw htx =>
    by_cases hij : i = j
    · have hprog := hself htx hij
      cases hprog
    · exact hother htx hij
  | tick hw htx =>
    rw [htx] at hi
    exact absurd ⟨log, locks, ended, hi⟩ (hnot r)
  | idle => exact absurd ⟨log, locks, ended, hi⟩ (hnot r)

end Linked

/-! ### Runs -/

section Run
variable {env : Env} {deviceId : String} {w : World} {moves : ℕ → Move Request}

theorem exists_linked (hw : Supply w) (hone : OneWaiting deviceId w.db.pairingSessions)
    (hapart : Apart env deviceId w moves) (n : ℕ) :
    ∃ g, Linked env deviceId (run env deviceId w moves n) g := by
  induction n with
  | zero => exact ⟨_, .start hw hone⟩
  | succ n ih =>
    obtain ⟨g, hg⟩ := ih
    obtain ⟨g', hnext⟩ := hg.next (Pool.exclusive_after _ w moves n) (Pool.exec_moves _ _ _)
      fun i hi => hapart n i hi
    exact ⟨g', hnext.linked⟩

/-- No session with the token is left. -/
def Gone (P : Requests) (token : String) : Prop := ∀ s ∈ (sessions P).rows, s.token ≠ token

/-- A token somebody has returned does not come back. -/
theorem gone_next (hw : Supply w) (hone : OneWaiting deviceId w.db.pairingSessions)
    (hapart : Apart env deviceId w moves) {n j : ℕ} {r : StartPairingResponse}
    (hj : Returned (run env deviceId w moves n) j r)
    (hgone : Gone (run env deviceId w moves n) r.token) :
    Gone (run env deviceId w moves (n + 1)) r.token := by
  obtain ⟨g, hg⟩ := exists_linked hw hone hapart n
  obtain ⟨g', hnext⟩ := hg.next (Pool.exclusive_after _ w moves n) (Pool.exec_moves _ _ _)
    fun i hi => hapart n i hi
  intro s hs
  rcases hnext.effect with hthin | ⟨i, t, s', hi, ht, hrows⟩
  · obtain ⟨s₀, hs₀, -, htoken, -, -⟩ := hthin s hs
    rw [htoken]
    exact hgone s₀ hs₀
  · change s ∈ (sessions (run env deviceId w moves (n + 1))).rows at hs
    rw [show (sessions (run env deviceId w moves (n + 1))).rows = _ from hrows, List.mem_append,
      List.mem_singleton] at hs
    rcases hs with hs | rfl
    · exact hgone s hs
    · rintro htoken
      have hopened := hg.returned hj
      have hij := hg.names.tokens i j _ _ t hi hopened rfl (by rw [Phase.token, ← htoken, ht])
      rw [hij, hopened] at hi
      cases hi

/-- **A start supersedes the tokens that were returned before it returns.** -/
theorem gone_after (hw : Supply w) (hone : OneWaiting deviceId w.db.pairingSessions)
    (hapart : Apart env deviceId w moves) {m i j : ℕ} {r' : StartPairingResponse}
    (hj : Returned (run env deviceId w moves m) j r')
    (hi : ∀ r, ¬ Returned (run env deviceId w moves m) i r) (d : ℕ) :
    Returned (run env deviceId w moves (m + d)) j r' ∧
      ((∀ r, ¬ Returned (run env deviceId w moves (m + d)) i r) ∨
        Gone (run env deviceId w moves (m + d)) r'.token) := by
  induction d with
  | zero => exact ⟨hj, .inl hi⟩
  | succ d ih =>
    obtain ⟨hj, hbefore⟩ := ih
    have hmoves := Pool.exec_moves (serve env deviceId) (run env deviceId w moves (m + d))
      (moves (m + d))
    have hj' : Returned (run env deviceId w moves (m + d + 1)) j r' := returned_next hmoves hj
    refine ⟨hj', ?_⟩
    rcases hbefore with hbefore | hgone
    swap
    · exact .inr (gone_next hw hone hapart hj hgone)
    by_cases hnow : ∀ r, ¬ Returned (run env deviceId w moves (m + d + 1)) i r
    · exact .inl hnow
    -- now `i` returns: what is waiting has its token
    push Not at hnow
    obtain ⟨r, hr⟩ := hnow
    obtain ⟨g, hg⟩ := exists_linked hw hone hapart (m + d)
    obtain ⟨g', hnext⟩ := hg.next (Pool.exclusive_after _ w moves (m + d)) hmoves
      fun i hi => hapart (m + d) i hi
    have hi' := hnext.linked.returned hr
    have hj'' := hnext.linked.returned hj'
    have hrunning := running_of_returns hmoves hbefore hr
    refine .inr fun s hs htoken => ?_
    obtain ⟨hdevice, hstatus⟩ := hnext.linked.rows.fits j _ hj'' s hs htoken
    have hwindow := hnext.settled.window i _ hi' hrunning s hs hdevice hstatus
    have hij := hnext.linked.names.tokens i j _ _ r.token hi' hj'' rfl
      (by rw [Phase.token, ← htoken]; exact congrArg some hwindow)
    rw [hij] at hbefore
    exact hbefore r' hj

/-- A token of which no session is left pairs no more. -/
theorem paired_of_gone (hw : Supply w) (hone : OneWaiting deviceId w.db.pairingSessions)
    (hapart : Apart env deviceId w moves) {n j k : ℕ} {r : StartPairingResponse}
    {dto : ConfirmPairingDto} (hj : Returned (run env deviceId w moves n) j r)
    (hgone : Gone (run env deviceId w moves n) r.token) (hdto : dto.token = r.token) (d : ℕ)
    (hk : Paired (run env deviceId w moves (n + d)) k dto) :
    Paired (run env deviceId w moves n) k dto := by
  have hlasts : ∀ d, Returned (run env deviceId w moves (n + d)) j r ∧
      Gone (run env deviceId w moves (n + d)) r.token := by
    intro d
    induction d with
    | zero => exact ⟨hj, hgone⟩
    | succ d ih =>
      exact ⟨returned_next (Pool.exec_moves _ _ _) ih.1, gone_next hw hone hapart ih.1 ih.2⟩
  induction d with
  | zero => exact hk
  | succ d ih =>
    obtain ⟨g, hg⟩ := exists_linked hw hone hapart (n + d)
    rcases hg.pairs (Pool.exec_moves _ _ _) hk with hk | ⟨s, hs, htoken⟩
    · exact ih hk
    · exact absurd (htoken.trans hdto) ((hlasts d).2 s hs)

/-- **One live session.** When nobody creates a session while another start is between its deletion
and its return, at most one session of the device is waiting at all times, and once a start has
returned, no token returned before it did pairs the device any more. -/
theorem one_live (hw : Supply w) (hone : OneWaiting deviceId w.db.pairingSessions)
    (hapart : Apart env deviceId w moves) :
    (∀ n, OneWaiting deviceId (sessions (run env deviceId w moves n))) ∧
    ∀ m n i j r r', m ≤ n → Returned (run env deviceId w moves m) j r' →
      (∀ r, ¬ Returned (run env deviceId w moves m) i r) →
        Returned (run env deviceId w moves n) i r →
      ∀ n' k dto, n ≤ n' → dto.token = r'.token → Paired (run env deviceId w moves n') k dto →
        Paired (run env deviceId w moves n) k dto := by
  refine ⟨fun n => ?_, fun m n i j r r' hmn hj hi hr n' k dto hn hdto hk => ?_⟩
  · obtain ⟨g, hg⟩ := exists_linked hw hone hapart n
    exact hg.rows.one
  · obtain ⟨d, rfl⟩ := Nat.exists_eq_add_of_le hmn
    obtain ⟨d', rfl⟩ := Nat.exists_eq_add_of_le hn
    obtain ⟨hj', hnot | hgone⟩ := gone_after hw hone hapart hj hi d
    · exact absurd hr (hnot r)
    · exact paired_of_gone hw hone hapart hj' hgone hdto d' hk

/-- Two starts, one after the other. -/
def oneByOne : List (Move Request) :=
  .start (.start "amal") :: List.replicate 7 (.call 0) ++
    .start (.start "amal") :: List.replicate 7 (.call 1)

/-- Nothing is left of the request. -/
def done : Option (Tx Reply) → Bool
  | some ⟨_, _, .act _ _, _⟩ => false
  | _ => true

instance (P P' : Requests) : Decidable (Creates P P') := by
  unfold Creates
  infer_instance

theorem not_issuing_of_done {env : Env} {deviceId : String} {θ : Tx Reply}
    (h : done (some θ) = true) : ¬ Issuing env deviceId θ.prog := by
  obtain ⟨log, locks, p, ended⟩ := θ
  cases p with
  | ret r => exact fun hissuing => hissuing.2 r rfl
  | act u k => cases h

theorem one_live_oneByOne : OneWaiting "tablet"
    (sessions (run .plain "tablet" newTablet (oneByOne.getD · (.tick 0)) 16)) := by
  refine (@one_live .plain "tablet" newTablet (oneByOne.getD · (.tick 0))
    (supply_household _ (by simp) 0 (by decide)) (by decide) ?_).1 16
  intro n i hi hcreates j θ hji hj
  have hcall : n < 16 := by
    by_contra hn
    have hnone : oneByOne[n]? = none := List.getElem?_eq_none (by simpa [oneByOne] using hn)
    have hmove : oneByOne.getD n (.tick 0) = .tick 0 := by
      rw [List.getD_eq_getElem?_getD, hnone]
      rfl
    cases hmove.symm.trans hi
  have hwhen : ∀ n < 16, Creates (run .plain "tablet" newTablet (oneByOne.getD · (.tick 0)) n)
      (run .plain "tablet" newTablet (oneByOne.getD · (.tick 0)) (n + 1)) → n = 5 ∨ n = 13 := by
    decide +kernel
  refine not_issuing_of_done ?_
  rw [← hj]
  rcases hwhen n hcall hcreates with rfl | rfl
  · cases hi
    rcases j with _ | j
    · exact absurd rfl hji
    · cases hj
  · cases hi
    rcases j with _ | _ | j
    · decide +kernel
    · exact absurd rfl hji
    · cases hj

end Run

end GuardTime.Pairing.Superseded
