import Mathlib.Tactic
import GuardTime.Lib.Rounds
import GuardTime.Services.Notifications

/-! # A multicast accounts for every token

`sendMulticast` offers a list of tokens to Firebase, sorts the answers into three lists and offers
what is left again. An *occurrence* is a token with its position in the list, so that equal tokens
stay apart.

* `rounds`: the calls of the SDK, each as the occurrences it offers with what its answer makes of
  them (`judge`);
* `run_attempts`: the loop makes these calls and no others, and its result is their ledger;
* `workedOff_rounds`: with one response per token, the rounds work off the whole list. -/

namespace GuardTime.Push

open GuardTime.Lib.Program GuardTime.Lib.Rounds GuardTime.Schema GuardTime.Server
open GuardTime.Services.Push

/-! ### The calls of the SDK -/

/-- The list of the result that a token ends in. -/
inductive Verdict where
  | sent
  | invalid
  | errored
deriving DecidableEq

/-- The SDK, as a function of the number of the call, the tokens and the message. -/
abbrev Sdk : Type := ℕ → List String → FcmMessage → Except String (List SendResponse)

/-- What one response makes of its token; without a verdict the token is offered again. -/
def verdict (isLastAttempt : Bool) : SendResponse → Option Verdict
  | .ok () => some .sent
  | .error code =>
    if code ∈ invalidTokenCodes then some .invalid
    else if code ∈ transientCodes ∧ isLastAttempt = false then none
    else some .errored

/-- What the answer to a call makes of the occurrences it offers. -/
def judge (isLastAttempt : Bool) (pending : List (String × ℕ)) :
    Except String (List SendResponse) → Round (String × ℕ) Verdict
  | .error _ => pending.map fun o => (o, if isLastAttempt then some .errored else none)
  | .ok responses => (responses.zip pending).map fun a => (a.2, verdict isLastAttempt a.1)

/-- The calls of the attempts that are left, from call number `n` on. -/
def rounds (send : Sdk) (message : FcmMessage) :
    ℕ → ℕ → List (String × ℕ) → List (Round (String × ℕ) Verdict)
  | 0, _, _ => []
  | fuel + 1, n, pending =>
    if pending = [] then []
    else
      let r := judge (fuel = 0) pending (send n (pending.map Prod.fst) message)
      r :: rounds send message fuel (n + 1) r.again

/-- The tokens with a verdict, in the order of the calls. -/
def tokensWith (v : Verdict) (l : List ((String × ℕ) × Verdict)) : List String :=
  (l.filter (·.2 = v)).map fun a => a.1.1

/-- A result with the tokens of a ledger added to its lists. -/
def tally (res : MulticastResult) (l : List ((String × ℕ) × Verdict)) : MulticastResult :=
  { res with
    sent := res.sent ++ tokensWith .sent l
    invalid := res.invalid ++ tokensWith .invalid l
    errored := res.errored ++ tokensWith .errored l }

theorem mem_tokensWith {v : Verdict} {t : String} {l : List ((String × ℕ) × Verdict)} :
    t ∈ tokensWith v l ↔ ∃ i, ((t, i), v) ∈ l := by
  simp [tokensWith]

theorem tokensWith_append (v : Verdict) (l l' : List ((String × ℕ) × Verdict)) :
    tokensWith v (l ++ l') = tokensWith v l ++ tokensWith v l' := by
  unfold tokensWith
  rw [List.filter_append, List.map_append]

/-- Tokens that all end in the same list. -/
theorem tokensWith_map (v v' : Verdict) (pending : List (String × ℕ)) :
    tokensWith v (pending.map fun o => (o, v')) = if v' = v then pending.map Prod.fst else [] := by
  unfold tokensWith
  by_cases hv : v' = v
  · simp [List.filter_map, Function.comp_def, hv]
  · simp [List.filter_map, Function.comp_def, hv]

theorem tally_nil (res : MulticastResult) : tally res [] = res := by
  simp [tally, tokensWith]

theorem tally_tally (res : MulticastResult) (l l' : List ((String × ℕ) × Verdict)) :
    tally (tally res l) l' = tally res (l ++ l') := by
  simp [tally, tokensWith_append]

/-! ### The loop -/

/-- One response, as the loop books it. -/
theorem classify_eq (last : Bool) (res : MulticastResult) (retryNext : List String)
    (r : SendResponse) (o : String × ℕ) : classify last (res, retryNext) (r, o.1) =
      (tally res (Round.settled [(o, verdict last r)]),
        retryNext ++ (Round.again [(o, verdict last r)]).map Prod.fst) := by
  rcases r with code | u
  · by_cases hinvalid : code ∈ invalidTokenCodes
    · simp [classify, verdict, hinvalid, Round.settled, Round.again, tally, tokensWith]
    · by_cases htransient : code ∈ transientCodes ∧ last = false
      · simp [classify, verdict, hinvalid, htransient, Round.settled, Round.again, tally_nil]
      · simp [classify, verdict, hinvalid, htransient, Round.settled, Round.again, tally,
          tokensWith]
  · simp [classify, verdict, Round.settled, Round.again, tally, tokensWith]

/-- All responses of a call. -/
theorem foldl_classify (last : Bool) : ∀ (answers : List (SendResponse × (String × ℕ)))
    (res : MulticastResult) (retryNext : List String),
    (answers.map fun a => (a.1, a.2.1)).foldl (classify last) (res, retryNext) =
      (tally res (Round.settled (answers.map fun a => (a.2, verdict last a.1))),
        retryNext ++ (Round.again (answers.map fun a => (a.2, verdict last a.1))).map Prod.fst)
  | [], res, retryNext => by simp [Round.settled, Round.again, tally_nil]
  | (r, o) :: answers, res, retryNext => by
    rw [List.map_cons, List.foldl_cons, classify_eq, foldl_classify last answers, tally_tally]
    rcases hv : verdict last r with _ | v <;> simp [Round.settled, Round.again, hv]

/-- A call that threw. -/
theorem judge_error (last : Bool) (e : String) : ∀ pending : List (String × ℕ),
    Round.settled (judge last pending (.error e)) =
        (if last then pending.map fun o => (o, .errored) else []) ∧
      Round.again (judge last pending (.error e)) = if last then [] else pending
  | [] => by cases last <;> exact ⟨rfl, rfl⟩
  | o :: pending => by
    obtain ⟨hs, ha⟩ := judge_error last e pending
    cases last
    · exact ⟨hs, congrArg (o :: ·) ha⟩
    · exact ⟨congrArg ((o, Verdict.errored) :: ·) hs, ha⟩

/-- **The loop makes the calls of `rounds`, and its result is their ledger.** -/
theorem run_attempts (send : Sdk) (message : FcmMessage) :
    ∀ (fuel : ℕ) (pending : List (String × ℕ)) (res : MulticastResult) (w : World),
    (attempts send message fuel (pending.map Prod.fst) res).run w =
      (.ok (tally res (ledger (rounds send message fuel w.calls pending))),
        { w with calls := w.calls + (rounds send message fuel w.calls pending).length })
  | 0, pending, res, w => by
    simp [attempts, rounds, tally_nil]
  | fuel + 1, pending, res, w => by
    by_cases hnil : pending = []
    · subst hnil
      simp [attempts, rounds, tally_nil]
    · have hmap : pending.map Prod.fst ≠ [] := by simpa using hnil
      have ih := run_attempts send message fuel
      unfold attempts rounds
      rw [if_neg hmap, if_neg hnil, Prog.run_bind, Prog.run_call]
      dsimp only
      rcases send w.calls (pending.map Prod.fst) message with e | responses
      · obtain ⟨hs, ha⟩ := judge_error (fuel = 0) e pending
        rw [ledger_cons, hs, ha]
        by_cases hlast : fuel = 0
        · subst hlast
          simp [rounds, tally, tokensWith_map]
        · simp [hlast, ih, Nat.add_assoc, Nat.add_comm 1]
      · have hzip : responses.zip (pending.map Prod.fst) =
            (responses.zip pending).map fun a => (a.1, a.2.1) := by
          rw [List.zip_map_right]
          rfl
        simp only [hzip, foldl_classify, List.nil_append]
        rw [ih, ledger_cons, tally_tally, List.length_cons]
        simp only [judge, Nat.add_assoc, Nat.add_comm 1]

/-! ### One response per token -/

/-- A call that returns gives one response per token it is offered. -/
def OnePerToken (send : Sdk) : Prop := ∀ n tokens message responses,
  send n tokens message = .ok responses → responses.length = tokens.length

theorem judge_items {send : Sdk} (hone : OnePerToken send) (last : Bool) (n : ℕ)
    (pending : List (String × ℕ)) (message : FcmMessage) :
    (judge last pending (send n (pending.map Prod.fst) message)).items = pending := by
  rcases hsend : send n (pending.map Prod.fst) message with e | responses
  · simp [judge, Round.items, Function.comp_def]
  · have hlen : pending.length ≤ responses.length := by
      rw [hone _ _ _ _ hsend, List.length_map]
    simp only [judge, Round.items, List.map_map, Function.comp_def]
    exact List.map_snd_zip hlen

/-- Position by position, a response decides over an occurrence. -/
theorem judge_verdicts (last : Bool) {pending : List (String × ℕ)} {responses : List SendResponse}
    (hlen : responses.length = pending.length) :
    (judge last pending (.ok responses)).map Prod.snd = responses.map (verdict last) := by
  simp only [judge, List.map_map]
  calc (responses.zip pending).map (Prod.snd ∘ fun a => (a.2, verdict last a.1))
      = ((responses.zip pending).map Prod.fst).map (verdict last) := by rw [List.map_map]; rfl
    _ = responses.map (verdict last) := by rw [List.map_fst_zip hlen.le]

/-- The last call leaves nothing. -/
theorem judge_last (pending : List (String × ℕ)) (answer : Except String (List SendResponse)) :
    Round.again (judge true pending answer) = [] := by
  rw [List.eq_nil_iff_forall_not_mem]
  intro o ho
  rw [Round.mem_again] at ho
  rcases answer with e | responses
  · simp [judge] at ho
  · simp only [judge, List.mem_map, Prod.mk.injEq] at ho
    obtain ⟨⟨r, o'⟩, -, -, hverdict⟩ := ho
    rcases r with code | u
    · simp only [verdict] at hverdict
      split_ifs at hverdict with h1 h2
      exact absurd h2.2 (by decide)
    · cases hverdict

theorem rounds_nil (send : Sdk) (message : FcmMessage) (n : ℕ) :
    ∀ fuel, rounds send message fuel n [] = []
  | 0 => rfl
  | _ + 1 => if_pos rfl

/-- One call and the calls after it. -/
theorem workedOff_step {send : Sdk} (hone : OnePerToken send) (message : FcmMessage) (fuel n : ℕ)
    (pending : List (String × ℕ))
    (h : WorkedOff (Round.again
        (judge (fuel = 0) pending (send n (pending.map Prod.fst) message)))
      (rounds send message fuel (n + 1) (Round.again
        (judge (fuel = 0) pending (send n (pending.map Prod.fst) message))))) :
    WorkedOff pending (rounds send message (fuel + 1) n pending) := by
  by_cases hnil : pending = []
  · subst hnil
    rw [rounds_nil]
    exact .done
  · rw [rounds, if_neg hnil]
    have hnext := WorkedOff.next h
    rwa [judge_items hone] at hnext

theorem mem_judge {last : Bool} {pending : List (String × ℕ)}
    {answer : Except String (List SendResponse)} {o : String × ℕ}
    (h : o ∈ (judge last pending answer).items) : o ∈ pending := by
  rcases answer with e | responses
  · simpa [judge, Round.items, Function.comp_def] using h
  · simp only [judge, Round.items, List.map_map, List.mem_map] at h
    obtain ⟨a, ha, rfl⟩ := h
    exact (List.of_mem_zip ha).2

/-- Only occurrences of the list are ever offered. -/
theorem mem_rounds (send : Sdk) (message : FcmMessage) :
    ∀ {fuel n : ℕ} {pending : List (String × ℕ)} {r : Round (String × ℕ) Verdict} {o : String × ℕ},
    r ∈ rounds send message fuel n pending → o ∈ r.items → o ∈ pending
  | 0, n, pending, r, o, hr, ho => by simp [rounds] at hr
  | fuel + 1, n, pending, r, o, hr, ho => by
    rw [rounds] at hr
    split_ifs at hr with hnil
    · simp at hr
    · rcases List.mem_cons.mp hr with rfl | hr
      · exact mem_judge ho
      · exact mem_judge ((Round.again_sublist _).subset (mem_rounds send message hr ho))

/-- **The calls work off the list.** -/
theorem workedOff_rounds {send : Sdk} (hone : OnePerToken send) (message : FcmMessage) :
    ∀ (fuel n : ℕ) (pending : List (String × ℕ)),
    WorkedOff pending (rounds send message (fuel + 1) n pending)
  | 0, n, pending => by
    refine workedOff_step hone message 0 n pending ?_
    rw [decide_eq_true rfl, judge_last]
    exact .done
  | fuel + 1, n, pending =>
    workedOff_step hone message (fuel + 1) n pending (workedOff_rounds hone message fuel _ _)

theorem length_rounds_le (send : Sdk) (message : FcmMessage) :
    ∀ (fuel n : ℕ) (pending : List (String × ℕ)), (rounds send message fuel n pending).length ≤ fuel
  | 0, _, _ => Nat.le_refl 0
  | fuel + 1, n, pending => by
    rw [rounds]
    split_ifs
    · exact Nat.zero_le _
    · exact Nat.succ_le_succ (length_rounds_le send message fuel _ _)

/-- **The calls one by one.** Call number `k` offers the occurrences of its round, and the answer
decides what becomes of them. -/
theorem rounds_getElem? {send : Sdk} (hone : OnePerToken send) (message : FcmMessage) :
    ∀ {fuel n k : ℕ} {pending : List (String × ℕ)} {r : Round (String × ℕ) Verdict},
    (rounds send message fuel n pending)[k]? = some r →
      r = judge (k + 1 = fuel) r.items (send (n + k) (r.items.map Prod.fst) message)
  | 0, n, k, pending, r, h => by simp [rounds] at h
  | fuel + 1, n, k, pending, r, h => by
    rw [rounds] at h
    split_ifs at h with hnil
    · simp at h
    · rcases k with _ | k
      · have hitems := judge_items hone (fuel = 0) n pending message
        simp only [List.getElem?_cons_zero, Option.some.injEq] at h
        rw [h] at hitems
        rw [hitems, ← h]
        simp
      · have ih := rounds_getElem? hone message (List.getElem?_cons_succ ▸ h)
        rw [Nat.add_right_comm, Nat.add_assoc] at ih
        simpa using ih

/-! ### The account -/

/-- The account of a multicast whose first call has number `n`: its calls and its result.

* `worked`: the first call offers every occurrence, and each later call what the one before left;
* `called`: what a call makes of its occurrences is what the SDK answers to their tokens;
* `answered`: position by position, the `i`-th response decides over the `i`-th occurrence;
* `once`: an occurrence with a verdict is not offered again;
* `perm`: the three lists hold every token once. -/
structure Accounts (send : Sdk) (message : FcmMessage) (n : ℕ) (tokens : List String)
    (result : MulticastResult) (calls : List (Round (String × ℕ) Verdict)) : Prop where
  few : calls.length ≤ maxRetries + 1
  worked : WorkedOff tokens.zipIdx calls
  called : ∀ k r, calls[k]? = some r →
    r = judge (k = maxRetries) r.items (send (n + k) (r.items.map Prod.fst) message)
  answered : ∀ k r responses, calls[k]? = some r →
    send (n + k) (r.items.map Prod.fst) message = .ok responses →
    r.map Prod.snd = responses.map (verdict (k = maxRetries))
  once : calls.Pairwise fun r r' => ∀ o v, (o, some v) ∈ r → o ∉ r'.items
  sent : result.sent = tokensWith .sent (ledger calls)
  invalid : result.invalid = tokensWith .invalid (ledger calls)
  errored : result.errored = tokensWith .errored (ledger calls)
  perm : (result.sent ++ result.invalid ++ result.errored).Perm tokens

/-- The three lists together are the tokens of the ledger. -/
theorem perm_tally (l : List ((String × ℕ) × Verdict)) :
    (tokensWith .sent l ++ tokensWith .invalid l ++ tokensWith .errored l).Perm
      (l.map fun a => a.1.1) := by
  unfold tokensWith
  rw [← List.map_append, ← List.map_append]
  refine List.Perm.map _ (perm_three (by decide) (by decide) (by decide) ?_ l)
  intro v
  cases v <;> simp

theorem run_sendMulticast {env : Env} {send : Sdk} (hsend : env.sendEachForMulticast = some send)
    {tokens : List String} (htokens : tokens ≠ []) (message : FcmMessage) (w : World) :
    (sendMulticast env tokens message).run w =
      (.ok (tally {} (ledger (rounds send message (maxRetries + 1) w.calls tokens.zipIdx))),
        { w with calls := w.calls +
            (rounds send message (maxRetries + 1) w.calls tokens.zipIdx).length }) := by
  unfold sendMulticast
  rw [if_neg htokens, hsend]
  have hrun := run_attempts send message (maxRetries + 1) tokens.zipIdx {} w
  rwa [List.zipIdx_map_fst] at hrun

/-- Whatever Firebase does, the multicast comes back and only counts calls. -/
theorem run_sendMulticast_ok (env : Env) (tokens : List String) (message : FcmMessage) (w : World) :
    ∃ result n, (sendMulticast env tokens message).run w =
      (.ok result, { w with calls := w.calls + n }) := by
  by_cases htokens : tokens = []
  · unfold sendMulticast
    rw [if_pos htokens]
    exact ⟨_, 0, rfl⟩
  · rcases hsend : env.sendEachForMulticast with _ | send
    · unfold sendMulticast
      rw [if_neg htokens, hsend]
      exact ⟨_, 0, rfl⟩
    · exact ⟨_, _, run_sendMulticast hsend htokens message w⟩

theorem nodup_zipIdx (tokens : List String) : tokens.zipIdx.Nodup := by
  refine List.Nodup.of_map Prod.snd ?_
  rw [List.zipIdx_map_snd]
  exact List.nodup_range'

/-- **Every token is accounted for exactly once**, in at most `maxRetries + 1` calls. -/
theorem multicast_accounts {env : Env} {send : Sdk} (hsend : env.sendEachForMulticast = some send)
    (hone : OnePerToken send) {tokens : List String} (htokens : tokens ≠ [])
    (message : FcmMessage) (w : World) :
    ∃ result calls, Accounts send message w.calls tokens result calls ∧
      (sendMulticast env tokens message).run w =
        (.ok result, { w with calls := w.calls + calls.length }) := by
  have hworked := workedOff_rounds hone message maxRetries w.calls tokens.zipIdx
  have hcalled : ∀ k r,
      (rounds send message (maxRetries + 1) w.calls tokens.zipIdx)[k]? = some r →
      r = judge (k = maxRetries) r.items
        (send (w.calls + k) (r.items.map Prod.fst) message) := by
    intro k r hr
    simpa using rounds_getElem? hone message hr
  refine ⟨_, _, ?_, run_sendMulticast hsend htokens message w⟩
  exact
    { few := length_rounds_le send message _ _ _
      worked := hworked
      called := hcalled
      answered := by
        intro k r responses hr hok
        have hlen : responses.length = r.items.length := by
          rw [hone _ _ _ _ hok, List.length_map]
        have hjudge := hcalled k r hr
        rw [hok] at hjudge
        exact (congrArg (List.map Prod.snd) hjudge).trans (judge_verdicts _ hlen)
      once := hworked.pairwise (nodup_zipIdx tokens)
      sent := rfl
      invalid := rfl
      errored := rfl
      perm := by
        have hperm := hworked.perm.map Prod.fst
        rw [List.map_map, List.zipIdx_map_fst] at hperm
        exact (perm_tally _).trans hperm }

/-- A service that delivers to `b` alone and is busy for every other token. -/
def busyFor : Sdk := fun _ tokens _ =>
  .ok (tokens.map fun t => if t = "b" then .ok () else .error "messaging/server-unavailable")

/-- Two equal tokens for which the service is busy, and one it delivers to. -/
theorem multicast_accounts_busy : ∃ result calls,
    Accounts busyFor ⟨"", "", []⟩ 0 ["a", "b", "a"] result calls ∧
      (sendMulticast { Env.plain with sendEachForMulticast := some busyFor } ["a", "b", "a"]
        ⟨"", "", []⟩).run (World.fresh Database.empty 0) =
      (.ok result, { World.fresh Database.empty 0 with calls := 0 + calls.length }) :=
  multicast_accounts rfl
    (by
      intro n tokens message responses h
      simp only [busyFor, Except.ok.injEq] at h
      rw [← h, List.length_map])
    (by decide) ⟨"", "", []⟩ (World.fresh Database.empty 0)

end GuardTime.Push
