import Mathlib.Tactic
import GuardTime.Lib.Interleave
import GuardTime.Services.Auth
import GuardTime.Household

/-! # The lockout, interleaved

Any number of logins for one account, one call at a time. A login whose comparison fails writes the
number of attempts it has read plus one, so two of them may count as one. As long as every login
that counts its failure finds the number it has read, the number is at least that of the failed
logins, and the lock stands since the last of them (`failures_counted`). -/

namespace GuardTime.Auth.Lockout

open GuardTime.Lib.Program GuardTime.Lib.Interleave GuardTime.Lib.Keyed GuardTime.Lib.Js
open GuardTime.Schema GuardTime.Server GuardTime.Prisma GuardTime.Services.Auth

/-! ### The calls of a login -/

/-- The answer to a wrong password. -/
def invalid : Err := .unauthorized "Invalid credentials"

/-- The answer while the account is locked. -/
def lockedOut (user : User) (now : Time) : Err :=
  .forbidden ("Account is temporarily locked due to too many failed login attempts. Try again in "
    ++ toString (ceilMinutes (user.lockedUntil.getD now - now)) ++ " minute(s).")

/-- A login whose comparison has succeeded. -/
def granting (env : Env) (user : User) : Api Tokens := do
  Prog.when (user.failedLoginAttempts > 0) do
    let _ ← Prisma.update .user user.id
      (fun u => { u with failedLoginAttempts := 0, lockedUntil := none }) reset_id
    pure ()
  issueTokens env user.id user.email user.role

/-- A login whose comparison has failed. -/
def recording (user : User) : Api Tokens := do
  recordFailure user
  Prog.throw invalid

/-- A login that has read the row, before it looks at the lock. -/
def checking (env : Env) (dto : LoginDto) (user : User) : Api Tokens := do
  let now ← newDate
  Prog.require (locked now user = false) (lockedOut user now)
  if env.bcryptCompare dto.password user.passwordHash then granting env user else recording user

/-- What a failure at `now` writes. -/
def count (user : User) (now : Time) (u : User) : User :=
  { u with
    failedLoginAttempts := user.failedLoginAttempts + 1
    lockedUntil :=
      if user.failedLoginAttempts + 1 ≥ maxFailedAttempts then some (now + lockoutDurationMs)
      else u.lockedUntil }

/-- A login that is about to count its failure. -/
def writing (user : User) (now : Time) : Api Tokens := do
  let _ ← Prisma.update .user user.id (count user now)
  Prog.throw invalid

/-- The account with this email. -/
def account (email : String) (w : World) : Option User :=
  w.db.users.rows.find? fun u => u.email = email

theorem login_eq (env : Env) (dto : LoginDto) : login env dto =
    .act (fun w => World.afterCall w w.db) fun w =>
      match account (env.toLowerCase (trim dto.email)) w with
      | some user => checking env dto user
      | none => .ret (.error invalid) := by
  change Prisma.findUniqueBy .user _ >>= _ = _
  refine congrArg (Prog.act _) (funext fun w => ?_)
  change Prog.orThrow (account (env.toLowerCase (trim dto.email)) w) _ >>= _ = _
  rcases account (env.toLowerCase (trim dto.email)) w with _ | user
  · rfl
  · rfl

theorem checking_eq (env : Env) (dto : LoginDto) (user : User) : checking env dto user =
    .act id fun w =>
      if locked w.now user then .ret (.error (lockedOut user w.now))
      else if env.bcryptCompare dto.password user.passwordHash then granting env user
      else recording user := by
  refine congrArg (Prog.act id) (funext fun w => ?_)
  change Prog.require (locked w.now user = false) _ >>= _ = _
  unfold Prog.require
  by_cases hlocked : locked w.now user = true
  · rw [if_neg (by simp [hlocked]), if_pos hlocked]
    rfl
  · rw [if_pos (by simpa using hlocked), if_neg hlocked]
    rfl

theorem recording_eq (user : User) :
    recording user = .act id fun w => writing user w.now := by
  rw [recording, recordFailure, Prog.bind_assoc]
  refine congrArg (Prog.act id) (funext fun w => ?_)
  change (Prisma.update .user user.id (count user w.now) >>= fun _ => pure ()) >>= _ = _
  rw [Prog.bind_assoc]
  rfl

theorem writing_eq (user : User) (now : Time) : writing user now =
    .act (fun w => ((Prisma.update .user user.id (count user now)).run w).2) fun w =>
      match ((Prisma.update .user user.id (count user now)).run w).1 with
      | .ok _ => .ret (.error invalid)
      | .error e => .ret (.error e) := by
  refine congrArg (Prog.act _) (funext fun w => ?_)
  change (Prog.ret ((Prisma.update .user user.id (count user now)).run w).1 : Api User).bind _ = _
  rcases ((Prisma.update .user user.id (count user now)).run w).1 with e | u
  · rfl
  · rfl

/-- The account after a failure is counted in some row. -/
theorem account_count {w : World} {user r : User} (hr : w.db.users.find user.id = some r)
    (email : String) (now : Time) :
    ∃ a w', (Prisma.update .user user.id (count user now)).run w = (.ok a, w') ∧ w'.now = w.now ∧
      account email w' = (account email w).map fun u =>
        if u.id = user.id then { count user now u with updatedAt := w.now } else u := by
  refine ⟨_, _, run_update (m := .user) hr rfl rfl, rfl, ?_⟩
  change List.find? _ (List.map _ w.db.users.rows) = _
  rw [List.find?_map]
  have hemail : ((fun u : User => decide (u.email = email)) ∘ fun r =>
      if decide (User.id r = user.id) = true then Model.user.touch w.now (count user now r)
        else r) =
        fun u => decide (u.email = email) := by
    funext r
    simp only [Function.comp]
    split_ifs
    · rfl
    · rfl
  rw [hemail]
  simp only [decide_eq_true_eq]
  rfl

/-- A failure that is counted in the account's row. -/
theorem run_count {email : String} {w : World} {u user : User} (hu : account email w = some u)
    (hid : user.id = u.id) (now : Time) :
    ∃ a w', (Prisma.update .user user.id (count user now)).run w = (.ok a, w') ∧
      account email w' = some { count user now u with updatedAt := w.now } ∧ w'.now = w.now := by
  have hfind : w.db.users.find user.id = some u := by
    rw [hid]
    exact Table.find_key (List.mem_of_find?_eq_some hu)
  obtain ⟨a, w', hrun, hnow, hrow⟩ := account_count hfind email now
  refine ⟨a, w', hrun, ?_, hnow⟩
  rw [hrow, hu, Option.map_some, if_pos hid.symm]

/-! ### Runs -/

/-- The logins. -/
abbrev Logins : Type := Pool LoginDto World Err Tokens

/-- The login has been rejected for its password. -/
def rejected (P : Logins) (i : ℕ) : Bool :=
  match P.result i with
  | some (.error e) => e = invalid
  | _ => false

/-- When each login made its last call, and the times of the failures counted so far: the clock as
the login has read it before it counts. -/
structure Clocks where
  last : ℕ → Time
  failures : List Time

/-- The clocks after a move. -/
def Clocks.next (c : Clocks) (P P' : Logins) : Move LoginDto World → Clocks
  | .call i =>
    { last := Function.update c.last i P.state.now
      failures := if rejected P' i && !rejected P i then c.last i :: c.failures else c.failures }
  | _ => c

section
variable (env : Env) (w : World) (moves : ℕ → Move LoginDto World)

/-- The logins after `n` moves. -/
def pool : ℕ → Logins := (Pool.idle w).after (fun _ dto => login env dto) moves

/-- The clocks after `n` moves. -/
def clocks : ℕ → Clocks
  | 0 => ⟨fun _ => w.now, []⟩
  | n + 1 => (clocks n).next (pool env w moves n) (pool env w moves (n + 1)) (moves n)

end

/-- What the lockout rests on. -/
def lockState (email : String) (w : World) : Option (String × ℤ × Option Time) :=
  (account email w).map fun u => (u.id, u.failedLoginAttempts, u.lockedUntil)

/-- The rest of the server leaves the lockout alone, and time does not go back. -/
def Elsewhere (email : String) (moves : ℕ → Move LoginDto World) : Prop :=
  ∀ n f, moves n = .other f → ∀ w, lockState email (f w) = lockState email w ∧ w.now ≤ (f w).now

/-- All logins are for the account. -/
def Addressed (env : Env) (email : String) (moves : ℕ → Move LoginDto World) : Prop :=
  ∀ n dto, moves n = .start dto → env.toLowerCase (trim dto.email) = email

/-- A login that finds the account unlocked fails its comparison. -/
def Unsuccessful (env : Env) (P : Logins) (m : Move LoginDto World) : Prop :=
  ∀ i dto user, m = .call i → P.prog i = some (checking env dto user) →
    locked P.state.now user = true ∨ env.bcryptCompare dto.password user.passwordHash = false

/-- A login that is about to count its failure finds the number of attempts it has read. -/
def Undisturbed (email : String) (P : Logins) (m : Move LoginDto World) : Prop :=
  ∀ i user now, m = .call i → P.prog i = some (writing user now) →
    ∀ u, account email P.state = some u → u.failedLoginAttempts = user.failedLoginAttempts

/-! ### Where a login stands -/

/-- What is left of login `i`, given the account's row, the clock and the clocks of the logins. A
login that holds the current number of attempts has read the clock after every counted failure. -/
inductive Stage (env : Env) (email : String) (u : User) (now : Time) (c : Clocks) (i : ℕ) :
    Api Tokens → Prop
  | asked {dto : LoginDto} (h : env.toLowerCase (trim dto.email) = email) :
    Stage env email u now c i (login env dto)
  | checking {dto : LoginDto} {user : User} (hid : user.id = u.id)
    (hle : user.failedLoginAttempts ≤ u.failedLoginAttempts) :
    Stage env email u now c i (checking env dto user)
  | recording {user : User} (hid : user.id = u.id)
    (hle : user.failedLoginAttempts ≤ u.failedLoginAttempts) :
    Stage env email u now c i (recording user)
  | writing {user : User} (hid : user.id = u.id)
    (hle : user.failedLoginAttempts ≤ u.failedLoginAttempts) (hnow : c.last i ≤ now)
    (hlast : user.failedLoginAttempts = u.failedLoginAttempts → ∀ t ∈ c.failures, t ≤ c.last i) :
    Stage env email u now c i (writing user (c.last i))
  | returned (r : Except Err Tokens) : Stage env email u now c i (.ret r)

/-- The row's number of attempts covers all rejected logins, and its lock all counted failures. -/
structure Covers (env : Env) (email : String) (P : Logins) (c : Clocks) (u : User) : Prop where
  row : account email P.state = some u
  stage : ∀ i p, P.prog i = some p → Stage env email u P.state.now c i p
  past : ∀ t ∈ c.failures, t ≤ P.state.now
  counted : ∀ i, rejected P i = true → c.failures ≠ []
  attempts : ∀ s : Finset ℕ, (∀ i ∈ s, rejected P i = true) → (s.card : ℤ) ≤ u.failedLoginAttempts
  lock : c.failures ≠ [] → maxFailedAttempts ≤ u.failedLoginAttempts →
    ∃ t, u.lockedUntil = some t ∧ ∀ t' ∈ c.failures, t' + lockoutDurationMs ≤ t

section Step
variable {env : Env} {email : String} {P P' : Logins} {c c' : Clocks} {u u' : User}
  {m : Move LoginDto World}

/-- A login stays where it is while others move. -/
theorem Stage.mono {now now' : Time} {i : ℕ} {p : Api Tokens} (h : Stage env email u now c i p)
    (hid : u'.id = u.id) (hle : u.failedLoginAttempts ≤ u'.failedLoginAttempts) (hnow : now ≤ now')
    (hlast : c'.last i = c.last i)
    (hsame : u'.failedLoginAttempts = u.failedLoginAttempts → c'.failures = c.failures) :
    Stage env email u' now' c' i p := by
  cases h with
  | asked h => exact .asked h
  | checking hid' hle' => exact .checking (hid'.trans hid.symm) (hle'.trans hle)
  | recording hid' hle' => exact .recording (hid'.trans hid.symm) (hle'.trans hle)
  | writing hid' hle' hnow' hlast' =>
    rw [← hlast]
    refine .writing (hid'.trans hid.symm) (hle'.trans hle) (hlast ▸ hnow'.trans hnow) fun heq => ?_
    have hu : u'.failedLoginAttempts = u.failedLoginAttempts := by omega
    rw [hsame hu, hlast]
    exact hlast' (heq.trans hu)
  | returned r => exact .returned r

theorem rejected_iff {i : ℕ} : rejected P i = true ↔ P.prog i = some (.ret (.error invalid)) := by
  unfold rejected Pool.result Pool.prog
  rcases P.threads[i]? with _ | ⟨t, (e | a) | ⟨f, k⟩⟩ <;> simp

theorem rejected_update {i j : ℕ} {p : Api Tokens}
    (hp : P'.prog = Function.update P.prog i (some p))
    (hj : j ≠ i) : rejected P' j = rejected P j := by
  rw [Bool.eq_iff_iff, rejected_iff, rejected_iff, hp, Function.update_of_ne hj]

/-- Where no login is rejected and the lockout stays, only the stages are left to see. -/
theorem Covers.quiet (h : Covers env email P c u) (hrow : account email P'.state = some u')
    (hattempts : u'.failedLoginAttempts = u.failedLoginAttempts)
    (hlock : u'.lockedUntil = u.lockedUntil) (hnow : P.state.now ≤ P'.state.now)
    (hfailures : c'.failures = c.failures)
    (hrejected : ∀ i, rejected P' i = true → rejected P i = true)
    (hstage : ∀ i p, P'.prog i = some p → Stage env email u' P'.state.now c' i p) :
    Covers env email P' c' u' where
  row := hrow
  stage := hstage
  past t ht := (h.past t (hfailures ▸ ht)).trans hnow
  counted i hi := hfailures ▸ h.counted i (hrejected i hi)
  attempts s hs := by
    rw [hattempts]
    exact h.attempts s fun i hi => hrejected i (hs i hi)
  lock := by
    rw [hattempts, hlock, hfailures]
    exact h.lock

/-- A call of a login that neither writes nor ends in a rejection. -/
theorem Covers.pass {i : ℕ} {p' : Api Tokens} (h : Covers env email P c u)
    (hne' : p' ≠ .ret (.error invalid))
    (hrow : account email P'.state = account email P.state) (hnow : P'.state.now = P.state.now)
    (hp' : P'.prog = Function.update P.prog i (some p'))
    (hstage : ∀ c' : Clocks, c'.last i = P.state.now → c'.failures = c.failures →
      Stage env email u P.state.now c' i p') :
    Covers env email P' (c.next P P' (.call i)) u := by
  have hnot : rejected P' i = false := by
    rw [Bool.eq_false_iff, ne_eq, rejected_iff, hp', Function.update_self]
    simpa using hne'
  have hfailures : (c.next P P' (.call i)).failures = c.failures := by
    simp [Clocks.next, hnot]
  refine h.quiet (hrow.trans h.row) rfl rfl hnow.ge hfailures (fun j hj => ?_) fun j q hq => ?_
  · have hji : j ≠ i := by
      rintro rfl
      rw [hnot] at hj
      cases hj
    rwa [← rejected_update hp' hji]
  · rw [hnow]
    by_cases hji : j = i
    · subst hji
      rw [hp', Function.update_self] at hq
      obtain rfl := Option.some.inj hq
      exact hstage _ (by simp [Clocks.next]) hfailures
    · rw [hp', Function.update_of_ne hji] at hq
      refine (h.stage j q hq).mono rfl le_rfl le_rfl ?_ fun _ => hfailures
      simp [Clocks.next, Function.update_of_ne hji]

/-- A failure that is counted. -/
theorem Covers.count {i : ℕ} {user : User} (h : Covers env email P c u)
    (hp : P.prog i = some (writing user (c.last i)))
    (hsame : u.failedLoginAttempts = user.failedLoginAttempts) (hnow : c.last i ≤ P.state.now)
    (hlast : ∀ t ∈ c.failures, t ≤ c.last i)
    (hrow : account email P'.state =
      some { Lockout.count user (c.last i) u with updatedAt := P.state.now })
    (hnow' : P'.state.now = P.state.now)
    (hp' : P'.prog = Function.update P.prog i (some (.ret (.error invalid)))) :
    Covers env email P' (c.next P P' (.call i))
      { Lockout.count user (c.last i) u with updatedAt := P.state.now } := by
  have hbefore : rejected P i = false := by
    rw [Bool.eq_false_iff, ne_eq, rejected_iff, hp, writing_eq]
    simp
  have hafter : rejected P' i = true := by
    rw [rejected_iff, hp', Function.update_self]
  have hfailures : (c.next P P' (.call i)).failures = c.last i :: c.failures := by
    simp [Clocks.next, hbefore, hafter]
  have hall : ∀ t ∈ c.last i :: c.failures, t ≤ c.last i := by
    intro t ht
    rcases List.mem_cons.mp ht with rfl | ht
    · exact le_rfl
    · exact hlast t ht
  refine ⟨hrow, fun j q hq => ?_, fun t ht => ?_, fun j _ => by rw [hfailures]; simp,
    fun s hs => ?_, fun _ hmax => ?_⟩
  · rw [hnow']
    by_cases hji : j = i
    · rw [hji, hp', Function.update_self] at hq
      rw [← Option.some.inj hq]
      exact .returned _
    · rw [hp', Function.update_of_ne hji] at hq
      refine (h.stage j q hq).mono rfl ?_ le_rfl ?_ fun heq => ?_
      · change _ ≤ user.failedLoginAttempts + 1
        omega
      · simp [Clocks.next, Function.update_of_ne hji]
      · change user.failedLoginAttempts + 1 = u.failedLoginAttempts at heq
        omega
  · rw [hnow']
    rw [hfailures] at ht
    exact (hall t ht).trans hnow
  · -- all but the new rejection were covered before
    have herase := h.attempts (s.erase i) fun j hj => by
      obtain ⟨hji, hj⟩ := Finset.mem_erase.mp hj
      rw [← rejected_update hp' hji]
      exact hs j hj
    have hcard := Finset.pred_card_le_card_erase (s := s) (a := i)
    change (s.card : ℤ) ≤ user.failedLoginAttempts + 1
    omega
  · change maxFailedAttempts ≤ user.failedLoginAttempts + 1 at hmax
    refine ⟨c.last i + lockoutDurationMs, if_pos hmax, fun t ht => ?_⟩
    rw [hfailures] at ht
    exact Int.add_le_add_right (hall t ht) _

/-- **One move.** -/
theorem Covers.step (h : Covers env email P c u)
    (hstart : ∀ dto, m = .start dto → env.toLowerCase (trim dto.email) = email)
    (hother : ∀ f, m = .other f → ∀ w, lockState email (f w) = lockState email w ∧
      w.now ≤ (f w).now)
    (hfail : Unsuccessful env P m) (hcond : Undisturbed email P m)
    (hm : P.Moves (fun _ dto => login env dto) m P') :
    ∃ u', Covers env email P' (c.next P P' m) u' := by
  cases hm with
  | @start dto i _ hi hs hp =>
    refine ⟨u, h.quiet (by rw [hs]; exact h.row) rfl rfl (by rw [hs]) rfl (fun j hj => ?_)
      fun j q hq => ?_⟩
    · have hji : j ≠ i := by
        rintro rfl
        rw [rejected_iff, hp, Function.update_self, login_eq] at hj
        simp at hj
      rwa [← rejected_update hp hji]
    · rw [hs]
      by_cases hji : j = i
      · rw [hji, hp, Function.update_self] at hq
        rw [← Option.some.inj hq]
        exact .asked (hstart dto rfl)
      · rw [hp, Function.update_of_ne hji] at hq
        exact h.stage j q hq
  | @call i f k _ hi hs hp =>
    have hstage := h.stage i _ hi
    generalize hq : Prog.act f k = q at hstage
    rw [hq] at hi
    cases hstage with
    | @asked dto hdto =>
      rw [login_eq, hdto] at hq
      obtain ⟨rfl, rfl⟩ := Prog.act.inj hq
      simp only [h.row] at hp
      refine ⟨u, h.pass (by rw [checking_eq]; simp) (by rw [hs]; rfl) (by rw [hs]; rfl) hp
        fun c' _ _ => .checking rfl le_rfl⟩
    | @checking dto user hid hle =>
      rw [checking_eq] at hq
      obtain ⟨rfl, rfl⟩ := Prog.act.inj hq
      refine ⟨u, ?_⟩
      by_cases hlocked : locked P.state.now user = true
      · simp only [hlocked, if_true] at hp
        exact h.pass (by simp [lockedOut, invalid]) (by rw [hs]; rfl) (by rw [hs]; rfl) hp
          fun c' _ _ => .returned _
      · have hwrong := (hfail i dto user rfl hi).resolve_left hlocked
        simp only [hlocked, hwrong, if_false, Bool.false_eq_true] at hp
        exact h.pass (by rw [recording_eq]; simp) (by rw [hs]; rfl) (by rw [hs]; rfl) hp
          fun c' _ _ => .recording hid hle
    | @recording user hid hle =>
      rw [recording_eq] at hq
      obtain ⟨rfl, rfl⟩ := Prog.act.inj hq
      dsimp only at hp
      refine ⟨u, h.pass (by rw [writing_eq]; simp) (by rw [hs]; rfl) (by rw [hs]; rfl) hp ?_⟩
      intro c' hlast hfailures
      rw [show writing user P.state.now = writing user (c'.last i) by rw [hlast]]
      refine .writing hid hle (by rw [hlast]) fun _ t ht => ?_
      rw [hlast]
      exact h.past t (hfailures ▸ ht)
    | @writing user hid hle hnow hlast =>
      rw [writing_eq] at hq
      obtain ⟨rfl, rfl⟩ := Prog.act.inj hq
      obtain ⟨a, w', hrun, hrow, hnow'⟩ := run_count h.row hid (c.last i)
      have hsame := hcond i user (c.last i) rfl hi u h.row
      simp only [hrun] at hs hp
      exact ⟨_, h.count hi hsame hnow (hlast hsame.symm) (by rw [hs]; exact hrow)
        (by rw [hs]; exact hnow') hp⟩
    | returned r => cases hq
  | @idle i hi =>
    refine ⟨u, h.quiet h.row rfl rfl le_rfl ?_ (fun j hj => hj) fun j q hq => ?_⟩
    · simp [Clocks.next]
    · by_cases hji : j = i
      · subst hji
        rcases q with r | ⟨f, k⟩
        · exact .returned r
        · exact absurd hq (hi f k)
      · refine (h.stage j q hq).mono rfl le_rfl le_rfl ?_ fun _ => by simp [Clocks.next]
        simp [Clocks.next, Function.update_of_ne hji]
  | @other f _ hs hp =>
    obtain ⟨hlock, hnow⟩ := hother f rfl P.state
    rw [lockState, lockState, h.row, Option.map_some] at hlock
    obtain ⟨u', hu', hfields⟩ := Option.map_eq_some_iff.mp hlock
    obtain ⟨hid, hattempts, huntil⟩ := by simpa using hfields
    refine ⟨u', h.quiet (by rw [hs]; exact hu') hattempts huntil (by rw [hs]; exact hnow) rfl
      (fun j hj => ?_) fun j q hq => ?_⟩
    · rw [rejected_iff, hp] at hj
      exact rejected_iff.mpr hj
    · rw [hp] at hq
      rw [hs]
      exact (h.stage j q hq).mono hid hattempts.ge hnow rfl fun _ => rfl

end Step

section Run
variable {env : Env} {email : String} {w : World} {moves : ℕ → Move LoginDto World}

/-- A login that reads the row while the account is locked, and the clock before the lock ends. -/
theorem result_of_locked {i a b : ℕ} {dto : LoginDto} {u : User} {t : Time}
    (hdto : env.toLowerCase (trim dto.email) = email)
    (hp : (pool env w moves a).prog i = some (login env dto)) (ha : moves a = .call i)
    (hu : account email (pool env w moves a).state = some u) (ht : u.lockedUntil = some t)
    (hab : a < b) (hne : ∀ m, a < m → m < b → moves m ≠ .call i) (hb : moves b = .call i)
    (hlock : (pool env w moves b).state.now < t) :
    (pool env w moves (b + 1)).result i =
      some (.error (lockedOut u (pool env w moves b).state.now)) := by
  have hstep : ∀ n, (pool env w moves n).Moves (fun _ dto => login env dto) (moves n)
      (pool env w moves (n + 1)) := fun n => Pool.exec_moves _ _ _
  have hchecking : (pool env w moves (a + 1)).prog i = some (checking env dto u) := by
    rw [login_eq, hdto] at hp
    have hcall := (ha ▸ hstep a).prog_of_call hp
    simpa only [hu] using hcall
  have hlater : (pool env w moves b).prog i = some (checking env dto u) :=
    Pool.prog_between hab hchecking fun m hm hlt => hne m (by omega) hlt
  rw [checking_eq] at hlater
  have hcall := (hb ▸ hstep b).prog_of_call hlater
  have hlocked : locked (pool env w moves b).state.now u = true := by
    simp [locked, ht, hlock]
  rw [if_pos hlocked] at hcall
  exact Pool.result_of_prog hcall

/-- The row covers the logins all along. -/
theorem covers_run (haddressed : Addressed env email moves) (hother : Elsewhere email moves)
    (hfail : ∀ n, Unsuccessful env (pool env w moves n) (moves n))
    (hcond : ∀ n, Undisturbed email (pool env w moves n) (moves n))
    (hstart : ∃ u, account email w = some u ∧ 0 ≤ u.failedLoginAttempts) (n : ℕ) :
    ∃ u, Covers env email (pool env w moves n) (clocks env w moves n) u := by
  induction n with
  | zero =>
    obtain ⟨u, hu, hzero⟩ := hstart
    have hnone : ∀ i, (pool env w moves 0).prog i = none := fun i => by
      simp [pool, Pool.after, Pool.idle, Pool.prog]
    have hnot : ∀ i, rejected (pool env w moves 0) i ≠ true := fun i hi => by
      rw [rejected_iff, hnone] at hi
      cases hi
    refine ⟨u, hu, fun i p hp => ?_, fun t ht => (by cases ht), fun i hi => absurd hi (hnot i),
      fun s hs => ?_, fun h => absurd rfl h⟩
    · rw [hnone] at hp
      cases hp
    · have hempty : s = ∅ := Finset.eq_empty_of_forall_notMem fun i hi => hnot i (hs i hi)
      rw [hempty]
      exact hzero
  | succ n ih =>
    obtain ⟨u, hu⟩ := ih
    exact hu.step (haddressed n) (hother n) (hfail n) (hcond n) (Pool.exec_moves _ _ _)

end Run

/-- **No failure is lost** in a run in which every login that counts its failure finds the number of
attempts it has read, and no login succeeds: when as many logins as the limit have been rejected for
their password, the account is locked until a quarter of an hour after the last failure, and a login
that finds it locked is turned away, whatever its password. -/
theorem failures_counted {env : Env} {email : String} {w : World}
    {moves : ℕ → Move LoginDto World} (haddressed : Addressed env email moves)
    (hother : Elsewhere email moves)
    (hfail : ∀ n, Unsuccessful env (pool env w moves n) (moves n))
    (hstart : ∃ u, account email w = some u ∧ 0 ≤ u.failedLoginAttempts)
    (hcond : ∀ n, Undisturbed email (pool env w moves n) (moves n))
    {n : ℕ} {s : Finset ℕ} (hmax : maxFailedAttempts ≤ s.card)
    (hs : ∀ i ∈ s, rejected (pool env w moves n) i = true) :
    ∃ u t, account email (pool env w moves n).state = some u ∧ u.lockedUntil = some t ∧
      (clocks env w moves n).failures ≠ [] ∧
      (∀ t' ∈ (clocks env w moves n).failures, t' + lockoutDurationMs ≤ t) ∧
      ∀ i dto b, (pool env w moves n).prog i = some (login env dto) → moves n = .call i →
        env.toLowerCase (trim dto.email) = email → n < b →
        (∀ m, n < m → m < b → moves m ≠ .call i) → moves b = .call i →
        (pool env w moves b).state.now < t →
        (pool env w moves (b + 1)).result i =
          some (.error (lockedOut u (pool env w moves b).state.now)) := by
  obtain ⟨u, hu⟩ := covers_run haddressed hother hfail hcond hstart n
  have hne : s.Nonempty := by
    rw [← Finset.card_pos]
    unfold maxFailedAttempts at hmax
    omega
  obtain ⟨i, hi⟩ := hne
  have hcounted := hu.counted i (hs i hi)
  obtain ⟨t, ht, hlock⟩ := hu.lock hcounted (hmax.trans (hu.attempts s hs))
  refine ⟨u, t, hu.row, ht, hcounted, hlock, ?_⟩
  intro j dto b hp hn hdto hnb hbetween hb hnow
  exact result_of_locked hdto hp hn hu.row ht hnb hbetween hb hnow

/-! ### Parallel guesses -/

/-- The account of `amal`, without failures. -/
def start : World := .fresh Household.families 0

/-- A login for the account. -/
def guess (password : String) : LoginDto := ⟨"amal@example.com", password⟩

/-- A login that fails, from start to end. -/
def attempt (i : ℕ) : List (Move LoginDto World) :=
  [.start (guess "guess"), .call i, .call i, .call i, .call i]

/-- Five failures one after the other, then the right password. -/
def serial : ℕ → Move LoginDto World := schedule
  (attempt 0 ++ attempt 1 ++ attempt 2 ++ attempt 3 ++ attempt 4 ++
    [.start (guess "secret"), .call 5, .call 5])

/-- Five logins that all read the row before any of them counts its failure. -/
def parallel : ℕ → Move LoginDto World := schedule
  ([0, 1, 2, 3, 4].map (fun _ => .start (guess "guess")) ++ [0, 1, 2, 3, 4].map .call ++
    [0, 1, 2, 3, 4].flatMap fun i => [.call i, .call i, .call i])

/-- The number of attempts of the account. -/
def attempts (w : World) : Option ℤ :=
  (account "amal@example.com" w).map User.failedLoginAttempts

/-- What the login that moves would answer, and the state it would leave, if it went on alone. -/
def alone (P : Logins) : Move LoginDto World → Option (Except Err Tokens × World)
  | .call i => (P.prog i).map fun p => p.run P.state
  | _ => none

/-- The login that moves is going to be turned away by the lock or for its password. -/
def refused : Option (Except Err Tokens × World) → Bool
  | some (.error (.forbidden _), _) => true
  | some (.error (.unauthorized _), _) => true
  | some _ => false
  | none => true

/-- The login that moves is going to raise the number of attempts by one, or is turned away by the
lock. -/
def raises (w : World) : Option (Except Err Tokens × World) → Bool
  | some (.error (.forbidden _), _) => true
  | some (_, w') => attempts w' = (attempts w).map (· + 1)
  | none => true

theorem raises_granting (env : Env) (user : User) :
    Prog.Raises Err.FromPrisma (granting env user) := by
  have hwhen : Prog.Raises Err.FromPrisma (Prog.when (user.failedLoginAttempts > 0) do
      let _ ← Prisma.update .user user.id fun u =>
        { u with failedLoginAttempts := 0, lockedUntil := none }
      (pure () : Api Unit)) := by
    unfold Prog.when
    split_ifs
    · exact .bind (raises_update _ _ _) fun _ => .pure _
    · exact .pure _
  have hread : ∀ {β : Type} (f : World → β), Prog.Raises Err.FromPrisma (Prog.read f : Api β) :=
    fun f => .call fun _ _ h => by cases h
  refine .bind hwhen fun _ => .bind ?_ fun _ => .bind (raises_update _ _ _) fun _ => .pure _
  refine .bind (hread _) fun _ => .bind ?_ fun _ => .bind ?_ fun _ => .pure _
  · exact .call fun _ _ h => by cases h
  · exact .call fun _ _ h => by cases h

theorem unsuccessful_of_refused {env : Env} {P : Logins} {m : Move LoginDto World}
    (h : refused (alone P m) = true) : Unsuccessful env P m := by
  rintro i dto user rfl hp
  by_cases hlocked : locked P.state.now user = true
  · exact .inl hlocked
  · right
    by_contra hcompare
    have hrun : (checking env dto user).run P.state = (granting env user).run P.state := by
      rw [checking_eq]
      change Prog.run (if _ then _ else _) P.state = _
      rw [if_neg hlocked, if_pos (by simpa using hcompare)]
    rw [alone, hp, Option.map_some, hrun] at h
    rcases hresult : (granting env user).run P.state with ⟨e | a, w'⟩
    · obtain ⟨code, rfl⟩ := (raises_granting env user).of_run hresult
      simp [hresult, refused] at h
    · simp [hresult, refused] at h

theorem run_writing {w w' : World} {user : User} {now : Time} {r : Except Err User}
    (h : (Prisma.update .user user.id (count user now)).run w = (r, w')) :
    (writing user now).run w = (r.bind fun _ => .error invalid, w') := by
  rw [writing_eq]
  change Prog.run (match ((Prisma.update .user user.id (count user now)).run w).1 with
    | .ok _ => .ret (.error invalid)
    | .error e => .ret (.error e)) ((Prisma.update .user user.id (count user now)).run w).2 = _
  rw [h]
  rcases r with e | u
  · rfl
  · rfl

theorem undisturbed_of_raises {P : Logins} {m : Move LoginDto World}
    (h : raises P.state (alone P m) = true) : Undisturbed "amal@example.com" P m := by
  rintro i user now rfl hp u hu
  rw [alone, hp, Option.map_some] at h
  rcases hr : P.state.db.users.find user.id with _ | r
  · have hrun : (writing user now).run P.state =
        (.error (.prisma "P2025"), World.afterCall P.state P.state.db) :=
      run_writing (run_update_none (m := .user) hr)
    have hsame : account "amal@example.com" (World.afterCall P.state P.state.db) = some u := hu
    simp [hrun, raises, attempts, hsame, hu] at h
  · obtain ⟨a, w', hcount, -, hrow⟩ := account_count hr "amal@example.com" now
    have hrun : (writing user now).run P.state = (.error invalid, w') := run_writing hcount
    simp only [hrun, raises, invalid, attempts, hrow, hu, Option.map_some] at h
    by_cases hid : u.id = user.id
    · simp [hid, count] at h
      exact h.symm
    · simp [hid] at h

/-- The login that is started is for the account. -/
def addressed : Move LoginDto World → Bool
  | .start dto => Env.plain.toLowerCase (trim dto.email) = "amal@example.com"
  | _ => true

section Schedules
variable {ms : List (Move LoginDto World)}

theorem addressed_schedule (h : ∀ m ∈ ms, addressed m = true) :
    Addressed Env.plain "amal@example.com" (schedule ms) := by
  intro n dto hdto
  rcases Nat.lt_or_ge n ms.length with hn | hn
  · rw [schedule, List.getD_eq_getElem?_getD, List.getElem?_eq_getElem hn, Option.getD_some] at hdto
    have := h _ (List.getElem_mem hn)
    rw [hdto] at this
    simpa [addressed] using this
  · rw [schedule_of_le hn] at hdto
    cases hdto

end Schedules

theorem start_account :
    ∃ u, account "amal@example.com" start = some u ∧ 0 ≤ u.failedLoginAttempts :=
  ⟨Household.parent "amal", by decide +kernel, by decide⟩

/-- Five logins have failed, and the right password does not help. -/
theorem failures_counted_serial :
    ∃ u, account "amal@example.com" (pool Env.plain start serial 26).state = some u ∧
      (pool Env.plain start serial 28).result 5 = some (.error (lockedOut u 0)) := by
  have hidle : ∀ (P : Logins) i, P.prog i = none → alone P (.call i) = none := fun P i hi => by
    simp [alone, hi]
  have hrefused : ∀ n, refused (alone (pool Env.plain start serial n) (serial n)) = true := by
    refine forall_schedule (C := fun P m => refused (alone P m) = true) (fun P i hi => ?_) ?_
    · rw [hidle P i hi]
      rfl
    · change ∀ n < 28, refused (alone (pool Env.plain start serial n) (serial n)) = true
      decide +kernel
  have hraises : ∀ n, raises (pool Env.plain start serial n).state
      (alone (pool Env.plain start serial n) (serial n)) = true := by
    refine forall_schedule (C := fun P m => raises P.state (alone P m) = true) (fun P i hi => ?_) ?_
    · rw [hidle P i hi]
      rfl
    · change ∀ n < 28, raises (pool Env.plain start serial n).state
        (alone (pool Env.plain start serial n) (serial n)) = true
      decide +kernel
  obtain ⟨u, t, hu, ht, -, hlock, hout⟩ :=
    @failures_counted Env.plain "amal@example.com" start serial
    (addressed_schedule (by decide +kernel)) (forall_other_schedule (by simp [attempt]))
    (fun n => unsuccessful_of_refused (hrefused n)) start_account
    (fun n => undisturbed_of_raises (hraises n)) 26 {0, 1, 2, 3, 4} (by decide) (by decide +kernel)
  have hfailures : (0 : Time) ∈ (clocks Env.plain start serial 26).failures := by decide +kernel
  have hnow : (pool Env.plain start serial 27).state.now = 0 := by decide +kernel
  have hbefore : (pool Env.plain start serial 27).state.now < t := by
    rw [hnow]
    exact lt_of_lt_of_le (by decide) (hlock 0 hfailures)
  have hresult := hout 5 (guess "secret") 27 rfl rfl (by decide +kernel) (by omega)
    (fun m _ _ => by omega) rfl hbefore
  rw [hnow] at hresult
  exact ⟨u, hu, hresult⟩

/-- Five logins in parallel have failed, and the account is not locked. -/
theorem failures_lost : ¬ ∀ (env : Env) (email : String) (w : World)
    (moves : ℕ → Move LoginDto World), Addressed env email moves → Elsewhere email moves →
    (∀ n, Unsuccessful env (pool env w moves n) (moves n)) →
    (∃ u, account email w = some u ∧ 0 ≤ u.failedLoginAttempts) →
    ∀ (n : ℕ) (s : Finset ℕ), maxFailedAttempts ≤ s.card →
      (∀ i ∈ s, rejected (pool env w moves n) i = true) →
      ∃ u t, account email (pool env w moves n).state = some u ∧ u.lockedUntil = some t := by
  intro h
  have hrefused : ∀ n, refused (alone (pool Env.plain start parallel n) (parallel n)) = true := by
    refine forall_schedule (C := fun P m => refused (alone P m) = true) (fun P i hi => ?_) ?_
    · simp [alone, hi, refused]
    · change ∀ n < 25, refused (alone (pool Env.plain start parallel n) (parallel n)) = true
      decide +kernel
  obtain ⟨u, t, hu, ht⟩ := h Env.plain "amal@example.com" start parallel
    (addressed_schedule (by decide +kernel)) (forall_other_schedule (by simp))
    (fun n => unsuccessful_of_refused (hrefused n)) start_account 25 {0, 1, 2, 3, 4} (by decide)
    (by decide +kernel)
  have hopen : (account "amal@example.com" (pool Env.plain start parallel 25).state).map
      User.lockedUntil = some none := by decide +kernel
  rw [hu, Option.map_some, ht] at hopen
  cases hopen

end GuardTime.Auth.Lockout
