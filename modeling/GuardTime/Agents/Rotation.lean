import Mathlib.Tactic
import GuardTime.Household
import GuardTime.Services.Gateway

/-! # Token rotation

A gateway row has room for one previous token. A rotation inside the grace period of the one before
drops the token that period was granted to, and an agent still using it is locked out. When every
rotation finds the earlier grace period over (`Spaced`), no agent is (`never_locked_out`).

* `Ready`: the tokens of all gateways are different, and the identifiers still to come are new;
* `Graced`: every rotated-out token is the previous token for as long as it was promised. -/

namespace GuardTime.Agents.Rotation

open GuardTime.Lib.Program GuardTime.Lib.Keyed GuardTime.Lib.Js GuardTime.Schema GuardTime.Server
open GuardTime.Prisma GuardTime.Services GuardTime.Services.Gateways

/-! ### Runs -/

/-- A call of `rotateToken`. -/
structure Call where
  time : Time
  parentId : String
  gracePeriodMs : ℤ

section Run
variable (gatewayId : String)

/-- The world after the call. -/
def step (w : World) (e : Call) : World :=
  ((rotateToken e.parentId gatewayId e.gracePeriodMs).run (w.atTime e.time)).2

/-- The world after the calls. -/
def reach (w : World) (es : List Call) : World := es.foldl (step gatewayId) w

/-- The gateway's token. -/
def currentToken (w : World) : Option String := (w.db.gateways.find gatewayId).map Gateway.token

/-- The token was rotated out with a grace period until `expires`: before the calls, or by one of
them. -/
def RotatedOut (w : World) (es : List Call) (token : String) (expires : Time) : Prop :=
  (∃ g, w.db.gateways.find gatewayId = some g ∧ g.previousToken = some token ∧
    g.previousTokenExpiresAt = some expires) ∨
  ∃ es₁ e es₂, es = es₁ ++ e :: es₂ ∧ currentToken gatewayId (reach gatewayId w es₁) = some token ∧
    currentToken gatewayId (reach gatewayId w (es₁ ++ [e])) ≠ some token ∧
    expires = e.time + e.gracePeriodMs

/-- Every rotation by the owner finds the grace period of the one before over. -/
def Spaced (w : World) (es : List Call) : Prop :=
  ∀ es₁ e es₂, es = es₁ ++ e :: es₂ → ∀ g, (reach gatewayId w es₁).db.gateways.find gatewayId =
    some g → g.parentId = e.parentId → ∀ expires, g.previousTokenExpiresAt = some expires →
    expires ≤ e.time

end Run

/-! ### One rotation -/

/-- The row after a rotation to `token`. -/
def rotated (old token : String) (expires : Time) (g : Gateway) : Gateway :=
  { g with token := token, previousToken := some old, previousTokenExpiresAt := some expires }

theorem rotated_id (old token : String) (expires : Time) (g : Gateway) :
    (rotated old token expires g).id = g.id := rfl

theorem run_findOwned (parentId gatewayId : String) (w : World) :
    (∃ e, (Gateways.findOwned parentId gatewayId).run w = (.error e, World.afterCall w w.db)) ∨
    ∃ g, w.db.gateways.find gatewayId = some g ∧ g.parentId = parentId ∧
      (Gateways.findOwned parentId gatewayId).run w = (.ok g, World.afterCall w w.db) := by
  unfold Gateways.findOwned findGateway
  simp only [Prog.run_bind, run_findUnique]
  rcases hg : (Model.gateway.get w.db).find gatewayId with _ | g
  · exact .inl ⟨_, rfl⟩
  · by_cases howner : g.parentId = parentId
    · exact .inr ⟨g, hg, howner, by simp [howner]⟩
    · exact .inl ⟨.forbidden "Not your gateway", by simp [howner]⟩

/-- An update of a gateway that is then logged. -/
theorem run_update_log {α : Type} (gatewayId : String) (f : Gateway → Gateway)
    (hf : ∀ g, (f g).id = g.id) (data : Audit.Entry) (result : Gateway → α) (w : World) :
    ∃ r w', (do
        let updated ← Prisma.update .gateway gatewayId f hf
        Audit.log data
        pure (result updated)).run w = (r, w') ∧ w'.uuids = w.uuids ∧ w.calls < w'.calls ∧
      ((∃ e, r = .error e) ∧ w'.db.gateways = w.db.gateways ∨
        w'.db.gateways = Model.gateway.patch w.db.gateways w.now gatewayId f hf) := by
  rw [Prog.run_bind]
  rcases run_update_cases .gateway gatewayId f hf w with ⟨e, h⟩ | ⟨g, -, h⟩ <;> rw [h]
  · exact ⟨_, _, rfl, rfl, Nat.lt_succ_self _, .inl ⟨⟨e, rfl⟩, rfl⟩⟩
  · rcases Audit.run_log data (World.afterCall w (Model.gateway.set w.db
      (Model.gateway.patch (Model.gateway.get w.db) w.now gatewayId f hf))) with
      ⟨e, hlog⟩ | ⟨entry, logs, -, -, hlog⟩ <;> simp only [Prog.run_bind, hlog]
    · exact ⟨_, _, rfl, rfl, by simp only [afterCall_calls]; omega, .inr rfl⟩
    · exact ⟨_, _, rfl, rfl, by simp only [afterCall_calls]; omega, .inr rfl⟩

/-- The gateways after a rotation: as before, after an error, or the owner's gateway with a new
token. -/
theorem run_rotateToken (parentId gatewayId : String) (grace : ℤ) (w : World) :
    ∃ r w', (rotateToken parentId gatewayId grace).run w = (r, w') ∧ w'.uuids = w.uuids ∧
      w.calls < w'.calls ∧ ((∃ e, r = .error e) ∧ w'.db.gateways = w.db.gateways ∨
        ∃ g, w.db.gateways.find gatewayId = some g ∧ g.parentId = parentId ∧
          w.calls + 1 < w'.calls ∧
            w'.db.gateways = Model.gateway.patch w.db.gateways w.now gatewayId
            (rotated g.token (w.uuids (w.calls + 1) 0) (w.now + grace)) (rotated_id _ _ _)) := by
  rw [rotateToken, Prog.run_bind]
  rcases run_findOwned parentId gatewayId w with ⟨e, h⟩ | ⟨g, hg, howner, h⟩ <;> rw [h]
  · exact ⟨_, _, rfl, rfl, Nat.lt_succ_self _, .inl ⟨⟨e, rfl⟩, rfl⟩⟩
  · obtain ⟨r, w', hrun, huuids, hcalls, hdb⟩ := run_update_log gatewayId
      (rotated g.token (w.uuids (w.calls + 1) 0) (w.now + grace)) (rotated_id _ _ _)
      { userId := some parentId
        action := "gateway.token_rotated"
        entity := "gateway"
        entityId := some gatewayId
        details := some (stringify (.obj
          [("previousTokenExpiresAt", .str (toISOString (w.now + grace)))])) }
      (fun updated => (updated.id, updated.token, updated.previousTokenExpiresAt))
      { w with calls := w.calls + 1 + 1 }
    have hlt : w.calls + 1 < w'.calls := (Nat.lt_succ_self _).trans hcalls
    refine ⟨r, w', hrun, huuids, (Nat.lt_succ_self _).trans hlt, ?_⟩
    rcases hdb with hdb | hdb
    · exact .inl hdb
    · exact .inr ⟨g, hg, howner, hlt, hdb⟩

/-! ### Distinct tokens -/

/-- The tokens a gateway row holds. -/
def issued (g : Gateway) : List String := g.token :: g.previousToken.toList

/-- The gateway `g` is paired, its tokens are its own, and the identifiers still to come are new. -/
structure Ready (gatewayId : String) (w : World) (g : Gateway) : Prop where
  row : w.db.gateways.find gatewayId = some g
  paired : g.paired = true
  nonempty : ∀ token ∈ issued g, token ≠ ""
  own : g.previousToken ≠ some g.token
  distinct : ∀ g' ∈ w.db.gateways.rows, g'.id ≠ gatewayId → ∀ token ∈ issued g, token ∉ issued g'
  supply : ∀ n, w.calls ≤ n → w.uuids n 0 ≠ "" ∧
    (∀ g' ∈ w.db.gateways.rows, w.uuids n 0 ∉ issued g') ∧
    ∀ m, w.calls ≤ m → w.uuids m 0 = w.uuids n 0 → m = n

section Ready
variable {gatewayId : String} {w : World} {g : Gateway}

/-- Nothing changes but the number of calls. -/
theorem Ready.mono (h : Ready gatewayId w g) {w' : World} (hdb : w'.db.gateways = w.db.gateways)
    (huuids : w'.uuids = w.uuids) (hcalls : w.calls ≤ w'.calls) : Ready gatewayId w' g where
  row := by rw [hdb]; exact h.row
  paired := h.paired
  nonempty := h.nonempty
  own := h.own
  distinct := by rw [hdb]; exact h.distinct
  supply n hn := by
    obtain ⟨h1, h2, h3⟩ := h.supply n (hcalls.trans hn)
    rw [hdb, huuids]
    exact ⟨h1, h2, fun m hm => h3 m (hcalls.trans hm)⟩

/-- The row the rotation leaves. -/
def renewed (w : World) (g : Gateway) (grace : ℤ) : Gateway :=
  Model.gateway.touch w.now (rotated g.token (w.uuids (w.calls + 1) 0) (w.now + grace) g)

theorem issued_renewed (w : World) (g : Gateway) (grace : ℤ) :
    issued (renewed w g grace) = [w.uuids (w.calls + 1) 0, g.token] := rfl

theorem Ready.rotate (h : Ready gatewayId w g) {grace : ℤ} {w' : World}
    (hdb : w'.db.gateways = Model.gateway.patch w.db.gateways w.now gatewayId
      (rotated g.token (w.uuids (w.calls + 1) 0) (w.now + grace)) (rotated_id _ _ _))
    (huuids : w'.uuids = w.uuids) (hcalls : w.calls + 1 < w'.calls) :
    Ready gatewayId w' (renewed w g grace) := by
  obtain ⟨hne, hnew, hinj⟩ := h.supply (w.calls + 1) (Nat.le_succ _)
  have hmem : g ∈ w.db.gateways.rows := Table.mem_of_find h.row
  have hid : g.id = gatewayId := Table.key_of_find h.row
  have htoken : g.token ≠ w.uuids (w.calls + 1) 0 := fun he => hnew g hmem (by simp [issued, ← he])
  -- the other rows are as before
  have hother : ∀ g' ∈ w'.db.gateways.rows, g' = renewed w g grace ∨
      g' ∈ w.db.gateways.rows ∧ g'.id ≠ gatewayId := by
    intro g' hg'
    rw [hdb, Model.mem_patch] at hg'
    obtain ⟨g₀, hg₀, rfl⟩ := hg'
    split_ifs with hk
    · obtain rfl := Table.eq_of_key hg₀ hmem (hk.trans hid.symm)
      exact .inl rfl
    · exact .inr ⟨hg₀, hk⟩
  refine ⟨?_, h.paired, ?_, ?_, ?_, ?_⟩
  · rw [hdb, Model.find_patch_self, h.row]
    rfl
  · intro token ht
    rw [issued_renewed] at ht
    rcases List.mem_pair.mp ht with rfl | rfl
    · exact hne
    · exact h.nonempty _ (by simp [issued])
  · intro he
    exact htoken (Option.some.inj he)
  · intro g' hg' hk token ht
    obtain ⟨hold, -⟩ := (hother g' hg').resolve_left fun he => hk (by rw [he]; exact hid)
    rw [issued_renewed] at ht
    rcases List.mem_pair.mp ht with rfl | rfl
    · exact hnew g' hold
    · exact h.distinct g' hold hk _ (by simp [issued])
  · intro n hn
    obtain ⟨h1, h2, h3⟩ := h.supply n (by omega)
    rw [huuids]
    refine ⟨h1, fun g' hg' => ?_, fun m hm => h3 m (by omega)⟩
    rcases hother g' hg' with rfl | ⟨hold, -⟩
    · rw [issued_renewed, List.mem_pair, not_or]
      refine ⟨fun he => ?_, fun he => h2 g hmem (by simp [issued, he])⟩
      have := hinj n (by omega) he
      omega
    · exact h2 g' hold

end Ready

/-! ### The run -/

/-- Every token in `past` that is still promised at time `t` is the previous token. -/
def Graced (past : String → Time → Prop) (g : Gateway) (t : Time) : Prop :=
  ∀ token expires, past token expires → t < expires →
    g.previousToken = some token ∧ g.previousTokenExpiresAt = some expires

section Invariant
variable {gatewayId : String} {w : World}

/-- A token rotated out by the end of the run was rotated out before its last call, or by it. -/
theorem RotatedOut.last {es : List Call} {e : Call} {token : String} {expires : Time}
    (h : RotatedOut gatewayId w (es ++ [e]) token expires) :
    RotatedOut gatewayId w es token expires ∨
      currentToken gatewayId (reach gatewayId w es) = some token ∧
      currentToken gatewayId (reach gatewayId w (es ++ [e])) ≠ some token ∧
      expires = e.time + e.gracePeriodMs := by
  rcases h with h | ⟨es₁, e', es₂, hes, hbefore, hafter, hexp⟩
  · exact .inl (.inl h)
  · rcases List.eq_nil_or_concat es₂ with rfl | ⟨es₃, e₃, rfl⟩
    · obtain ⟨rfl, hlast⟩ := List.append_inj' hes rfl
      obtain rfl : e = e' := by simpa using hlast
      exact .inr ⟨hbefore, hafter, hexp⟩
    · have hsplit : es ++ [e] = (es₁ ++ e' :: es₃) ++ [e₃] := by simpa using hes
      obtain ⟨rfl, -⟩ := List.append_inj' hsplit rfl
      exact .inl (.inr ⟨es₁, e', es₃, rfl, hbefore, hafter, hexp⟩)

theorem Spaced.init {es : List Call} {e : Call} (h : Spaced gatewayId w (es ++ [e])) :
    Spaced gatewayId w es := by
  intro es₁ e' es₂ hes
  refine h es₁ e' (es₂ ++ [e]) ?_
  simp [hes]

theorem reach_append (es : List Call) (e : Call) :
    reach gatewayId w (es ++ [e]) = step gatewayId (reach gatewayId w es) e := by
  simp [reach]

/-- Step by step: the gateway stays ready, and every promise is kept. -/
theorem graced_run {g₀ : Gateway} (hw : Ready gatewayId w g₀) : ∀ (es : List Call),
    (es.Pairwise fun e e' => e.time ≤ e'.time) → Spaced gatewayId w es →
    ∃ g, Ready gatewayId (reach gatewayId w es) g ∧
      ∀ t, (∀ e ∈ es, e.time ≤ t) → Graced (RotatedOut gatewayId w es) g t := by
  intro es
  induction es using List.reverseRecOn with
  | nil =>
    intro _ _
    refine ⟨g₀, hw, fun t _ token expires hpast _ => ?_⟩
    rcases hpast with ⟨g, hg, hprev, hexp⟩ | ⟨es₁, e, es₂, hes, -⟩
    · obtain rfl := Option.some.inj (hw.row.symm.trans hg)
      exact ⟨hprev, hexp⟩
    · simp at hes
  | append_singleton es e ih =>
    intro htimes hspaced
    obtain ⟨hes, -, hlast⟩ := List.pairwise_append.mp htimes
    obtain ⟨g, hready, hgraced⟩ := ih hes hspaced.init
    obtain ⟨r, w', hrun, huuids, hcalls, hdb⟩ := run_rotateToken e.parentId gatewayId
      e.gracePeriodMs ((reach gatewayId w es).atTime e.time)
    have hstep : reach gatewayId w (es ++ [e]) = w' := by
      rw [reach_append, step, hrun]
    have hready' : Ready gatewayId ((reach gatewayId w es).atTime e.time) g :=
      hready.mono rfl rfl le_rfl
    rcases hdb with ⟨-, hdb⟩ | ⟨g', hg', howner, hcalls', hdb⟩
    · -- nothing was rotated
      have hsame : currentToken gatewayId w' = currentToken gatewayId (reach gatewayId w es) := by
        unfold currentToken
        rw [hdb, atTime_db]
      refine ⟨g, hstep ▸ hready'.mono hdb huuids hcalls.le, fun t ht token expires hpast hlt => ?_⟩
      refine hgraced t (fun e' he' => ht e' (by simp [he'])) token expires ?_ hlt
      rcases hpast.last with hpast | ⟨hbefore, hafter, -⟩
      · exact hpast
      · rw [hstep, hsame] at hafter
        exact absurd hbefore hafter
    · obtain rfl := Option.some.inj (hready'.row.symm.trans hg')
      refine ⟨_, hstep ▸ hready'.rotate hdb huuids hcalls', fun t ht token expires hpast hlt => ?_⟩
      have htime : e.time ≤ t := ht e (by simp)
      rcases hpast.last with hpast | ⟨hbefore, -, rfl⟩
      · -- an older promise would still run: the rotations are spaced
        have hbefore : ∀ e' ∈ es, e'.time ≤ e.time := fun e' he' => hlast e' he' e (by simp)
        have hexp := (hgraced e.time hbefore token expires hpast (htime.trans_lt hlt)).2
        have hover := hspaced es e [] rfl g hready.row howner expires hexp
        exact absurd (htime.trans_lt hlt) (not_lt.mpr hover)
      · have htoken : token = g.token := by
          rw [currentToken, hready.row] at hbefore
          exact (Option.some.inj hbefore).symm
        rw [htoken]
        exact ⟨rfl, rfl⟩

end Invariant

/-! ### The guard -/

/-- At time `t` the request passes the signature check under the token; so does every request
without signature and timestamp. -/
def Signed (env : Env) (request : GuardRequest) (token : String) (t : Time) : Prop :=
  ∀ w : World, w.now = t →
    (Prog.when ((truthy request.signature).isSome ∨ (truthy request.timestamp).isSome)
      (verifySignature env request token)).run w = (.ok (), w)

section Guard
variable {gatewayId : String} {w : World} {g : Gateway} {token : String} {env : Env}
  {request : GuardRequest}

/-- No other gateway holds a token of `g`. -/
theorem Ready.eq_of_issued (h : Ready gatewayId w g) {g' : Gateway} (hg' : g' ∈ w.db.gateways.rows)
    (ht : token ∈ issued g) (ht' : token ∈ issued g') : g' = g := by
  by_cases hk : g'.id = gatewayId
  · exact Table.eq_of_key hg' (Table.mem_of_find h.row) (hk.trans (Table.key_of_find h.row).symm)
  · exact absurd ht' (h.distinct g' hg' hk token ht)

theorem findByToken_current (h : Ready gatewayId w g) :
    (findByToken g.token).run w = (.ok (some (g, false)), World.afterCall w w.db) := by
  have hfind : (Model.gateway.get w.db).rows.find? (fun g' => g'.token = g.token) = some g := by
    rcases hf : (Model.gateway.get w.db).rows.find? fun g' => g'.token = g.token with _ | g'
    · have := List.find?_eq_none.mp hf g (Table.mem_of_find h.row)
      simp at this
    · have htoken : g'.token = g.token := by simpa using List.find?_some hf
      have hg' := h.eq_of_issued (List.mem_of_find?_eq_some hf)
        (show g.token ∈ issued g by simp [issued]) (by simp [issued, htoken])
      rw [hf, hg']
  rw [findByToken, Prog.run_bind, run_findUniqueBy, hfind]
  rfl

theorem findByToken_previous (h : Ready gatewayId w g) (hprev : g.previousToken = some token)
    {expires : Time} (hexp : g.previousTokenExpiresAt = some expires) (hlt : w.now < expires) :
    (findByToken token).run w = (.ok (some (g, true)),
      World.afterCall (World.afterCall w w.db) w.db) := by
  have hmem : g ∈ w.db.gateways.rows := Table.mem_of_find h.row
  have hissued : token ∈ issued g := by simp [issued, hprev]
  have hnone : (Model.gateway.get w.db).rows.find? (fun g' => g'.token = token) = none := by
    refine List.find?_eq_none.mpr fun g' hg' htoken => ?_
    have htoken : g'.token = token := by simpa using htoken
    obtain rfl := h.eq_of_issued hg' hissued (show token ∈ issued g' by simp [issued, htoken])
    exact h.own (by rw [hprev, htoken])
  have hfirst := head_matching .gateway w.db
    (fun g' => g'.previousToken = some token &&
      g'.previousTokenExpiresAt.any fun t => w.now < t) hmem (by simp [hprev, hexp, hlt])
    (fun g' hg' hp => h.eq_of_issued hg' hissued (by
      simp only [Bool.and_eq_true, decide_eq_true_eq] at hp
      simp [issued, hp.1]))
  rw [findByToken, Prog.run_bind, run_findUniqueBy, hnone]
  simp only [Prog.run_bind, run_newDate, run_findFirst, afterCall_db, afterCall_now, hfirst]
  rfl

/-- The request acts as the gateway its token was found for. -/
theorem run_canActivate {used : Bool} {w' : World} (hne : token ≠ "")
    (hrequest : request.token = some token) (hsigned : Signed env request token w.now)
    (hfind : (findByToken token).run w = (.ok (some (g, used)), w')) (hnow : w'.now = w.now)
    (hpaired : g.paired = true)
    (hkey : (if used then g.previousToken.getD "" else g.token) = token) :
    (canActivate env request).run w = (.ok (g, used), w') := by
  rw [canActivate, hrequest, truthy_some hne]
  simp only [Prog.run_bind, Prog.run_orThrow_some, hfind, Option.filter, hpaired, if_true]
  rw [hkey, hsigned w' hnow]
  rfl

theorem run_getPolicies (env : Env) (used : Bool) (agentVersion : Option String)
    (hg : w.db.gateways.find gatewayId = some g) :
    ∃ p, ((getPolicies env gatewayId used agentVersion).run w).1 = .ok p ∧ p.gatewayId = g.id ∧
      p.rotatedToken = if used then some g.token else none := by
  have hlimits : ∀ (ds : List Device) (w : World), ∃ ls w', (loadBandwidthLimits ds).run w =
      (.ok ls, w') := by
    intro ds w
    unfold loadBandwidthLimits
    split_ifs
    · exact ⟨_, _, rfl⟩
    · exact ⟨_, _, rfl⟩
  unfold getPolicies findWithDevices
  simp only [Prog.run_bind, run_query, hg, Option.map_some, Prog.run_orThrow_some]
  obtain ⟨w₁, h₁⟩ : ∃ w₁, (ignoreErrors (updateLastSeen gatewayId agentVersion)).run
      (World.afterCall w w.db) = (.ok (), w₁) := ⟨_, Prod.ext (yields_ignoreErrors _ _) rfl⟩
  obtain ⟨ls, w₂, h₂⟩ := hlimits
    (matching .device w.db (w.tape w.calls) fun d => d.gatewayId = some g.id) w₁
  simp only [h₁, h₂, run_newDate]
  exact ⟨_, rfl, rfl, rfl⟩

/-- A request for the policies tells the gateway's token to an agent on the previous one. -/
theorem run_guarded_policies {used : Bool} {w' : World} (agentVersion : Option String)
    (hactive : (canActivate env request).run w = (.ok (g, used), w'))
    (hg : w'.db.gateways.find g.id = some g) :
    ∃ p, ((guarded env request (.policies agentVersion)).run w).1 = .ok (.policies p) ∧
      p.gatewayId = g.id ∧ p.rotatedToken = if used then some g.token else none := by
  obtain ⟨p, hp, hid, htoken⟩ := run_getPolicies env used agentVersion hg
  refine ⟨p, ?_, hid, htoken⟩
  rw [guarded, Prog.run_bind, hactive]
  simp only [dispatch, Prog.run_bind]
  rcases hrun : (getPolicies env g.id used agentVersion).run w' with ⟨r, w₁⟩
  rw [hrun] at hp
  cases hp
  rfl

end Guard

/-- The request with the token is let through as gateway `gatewayId`, as its previous token or not
(`used`), and its policies name the current token if it is the previous one. -/
def Accepted (env : Env) (gatewayId : String) (used : Bool) (request : GuardRequest) (w : World) :
    Prop :=
  (∃ g w', (canActivate env request).run w = (.ok (g, used), w') ∧ g.id = gatewayId) ∧
  ∀ agentVersion, ∃ p, ((guarded env request (.policies agentVersion)).run w).1 =
    .ok (.policies p) ∧ p.gatewayId = gatewayId ∧
    p.rotatedToken = if used then currentToken gatewayId w else none

/-- **Rotation never locks out an agent** when every rotation finds the earlier grace period over: a
token that was rotated out is accepted until the end of its grace period, and its requests learn the
current token; the current token is accepted at any time. -/
theorem never_locked_out {gatewayId : String} {w : World} {g₀ : Gateway}
    (hw : Ready gatewayId w g₀) {es : List Call}
    (htimes : es.Pairwise fun e e' => e.time ≤ e'.time) (hspaced : Spaced gatewayId w es) {t : Time}
    (ht : ∀ e ∈ es, e.time ≤ t) {env : Env} {request : GuardRequest} {token : String}
    (hrequest : request.token = some token) (hsigned : Signed env request token t) :
    (∀ expires, RotatedOut gatewayId w es token expires → t < expires →
      Accepted env gatewayId true request ((reach gatewayId w es).atTime t)) ∧
    (currentToken gatewayId (reach gatewayId w es) = some token →
      Accepted env gatewayId false request ((reach gatewayId w es).atTime t)) := by
  obtain ⟨g, hready, hgraced⟩ := graced_run hw es htimes hspaced
  have hnow : Ready gatewayId ((reach gatewayId w es).atTime t) g :=
    hready.mono rfl rfl le_rfl
  have hid : g.id = gatewayId := Table.key_of_find hready.row
  have hrow : (reach gatewayId w es).db.gateways.find g.id = some g := hid ▸ hready.row
  refine ⟨fun expires hpast hlt => ?_, fun hcurrent => ?_⟩
  · obtain ⟨hprev, hexp⟩ := hgraced t ht token expires hpast hlt
    have hactive := run_canActivate (hready.nonempty token (by simp [issued, hprev])) hrequest
      hsigned (findByToken_previous hnow hprev hexp hlt) rfl hready.paired (by simp [hprev])
    refine ⟨⟨g, _, hactive, hid⟩, fun agentVersion => ?_⟩
    obtain ⟨p, hp, hpid, hptoken⟩ := run_guarded_policies agentVersion hactive hrow
    refine ⟨p, hp, hpid.trans hid, ?_⟩
    rw [hptoken, currentToken]
    simp [hready.row]
  · have htoken : g.token = token := by
      rw [currentToken, hready.row] at hcurrent
      exact Option.some.inj hcurrent
    subst htoken
    have hactive := run_canActivate (hready.nonempty g.token (by simp [issued])) hrequest
      hsigned (findByToken_current hnow) rfl hready.paired rfl
    refine ⟨⟨g, _, hactive, hid⟩, fun agentVersion => ?_⟩
    obtain ⟨p, hp, hpid, hptoken⟩ := run_guarded_policies agentVersion hactive hrow
    exact ⟨p, hp, hpid.trans hid, hptoken⟩

/-! ### Two rotations in one day -/

/-- The households at time zero. -/
def start : World := .fresh (Household.withDevices [] (by simp)) 0

theorem ready_start : Ready "ga" start (Household.gateway "ga" "amal") where
  row := by decide
  paired := rfl
  nonempty := by decide
  own := by decide
  distinct := by decide
  supply n _ := by
    have hu : ∀ s : String, s.toList.head? ≠ some 'u' → start.uuids n 0 ≠ s := fun s hs he =>
      hs (he ▸ fresh_uuids_head)
    refine ⟨hu _ (by decide), fun g' hg' hmem => ?_, fun m _ he => (fresh_uuids_injective he).1⟩
    have hissued : ∀ g ∈ start.db.gateways.rows, ∀ s ∈ issued g, s.toList.head? ≠ some 'u' := by
      decide
    exact hu _ (hissued g' hg' _ hmem) rfl

/-- The owner rotates the token at time `t`, with the default grace period of a day. -/
def daily (t : Time) : Call := ⟨t, "amal", 86400000⟩

/-- A plain request with the token. -/
def plain (token : String) : GuardRequest :=
  ⟨some token, none, none, "GET", "/gateway/policies", ""⟩

theorem signed_plain (env : Env) (token : String) (t : Time) : Signed env (plain token) token t :=
  fun _ _ => rfl

/-- The first rotation grants the token a day. -/
theorem rotatedOut_first (es : List Call) :
    RotatedOut "ga" start (daily 0 :: es) "ga-token" 86400000 :=
  .inr ⟨[], daily 0, es, rfl, by decide, by decide +kernel, by decide⟩

/-- A rotation, and another one after the day. -/
def twoDays : List Call := [daily 0, daily 90000000]

theorem spaced_twoDays : Spaced "ga" start twoDays := by
  intro es₁ e es₂ hes g hg _ expires hexp
  rcases es₁ with _ | ⟨e₁, _ | ⟨e₂, es₁⟩⟩
  · obtain rfl := Option.some.inj (ready_start.row.symm.trans hg)
    cases hexp
  · obtain ⟨rfl, h⟩ := List.cons_eq_cons.mp hes
    obtain ⟨rfl, -⟩ := List.cons_eq_cons.mp h
    have hover : ∀ g ∈ (reach "ga" start [daily 0]).db.gateways.rows,
        ∀ expires ∈ g.previousTokenExpiresAt, expires ≤ 90000000 := by
      decide +kernel
    exact hover g (Table.find_eq_some.mp hg).1 expires hexp
  · simp [twoDays] at hes

/-- The second rotation grants the token of the first a day. -/
theorem rotatedOut_second : RotatedOut "ga" start twoDays "uuid-1-0" 176400000 :=
  .inr ⟨[daily 0], daily 90000000, [], rfl, by decide +kernel, by decide +kernel, by decide⟩

theorem never_locked_out_twoDays :
    RotatedOut "ga" start twoDays "uuid-1-0" 176400000 ∧
    Accepted .plain "ga" true (plain "uuid-1-0") ((reach "ga" start twoDays).atTime 90001000) := by
  have haccepted := never_locked_out ready_start (by simp [twoDays, daily]) spaced_twoDays
    (t := 90001000) (by simp [twoDays, daily]) rfl (signed_plain .plain "uuid-1-0" 90001000)
  exact ⟨rotatedOut_second, haccepted.1 176400000 rotatedOut_second (by decide)⟩

/-- After a second rotation within the day the first token is refused, a day before the end of its
grace period. -/
theorem locked_out_after_two : ¬ ∀ (gatewayId : String) (w : World) (g₀ : Gateway),
    Ready gatewayId w g₀ → ∀ es : List Call, (es.Pairwise fun e e' => e.time ≤ e'.time) →
    ∀ t, (∀ e ∈ es, e.time ≤ t) → ∀ (env : Env) (request : GuardRequest) (token : String),
    request.token = some token → Signed env request token t →
    ∀ expires, RotatedOut gatewayId w es token expires → t < expires →
      Accepted env gatewayId true request ((reach gatewayId w es).atTime t) := by
  intro h
  have haccepted := h "ga" start _ ready_start [daily 0, daily 1000] (by simp [daily]) 2000
    (by simp [daily]) .plain (plain "ga-token") "ga-token" rfl (signed_plain _ _ _) 86400000
    (rotatedOut_first [daily 1000]) (by decide)
  obtain ⟨⟨g, w', hrun, -⟩, -⟩ := haccepted
  have hrefused : ((canActivate .plain (plain "ga-token")).run
      ((reach "ga" start [daily 0, daily 1000]).atTime 2000)).1.toBool = false := by
    decide +kernel
  rw [hrun] at hrefused
  cases hrefused

end GuardTime.Agents.Rotation
