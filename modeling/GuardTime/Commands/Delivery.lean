import Mathlib.Tactic
import GuardTime.Commands.Lifecycle

/-! # Delivery to the device

A `Command` row is `DELIVERED` because a poll has returned it, or because a job of the delivery
queue has written so without handing anything over. When the jobs only touch commands that a poll
has already returned, `DELIVERED` means returned, and no poll misses a command
(`delivered_returned`). -/

namespace GuardTime.Commands.Delivery

open GuardTime.Lib.Program GuardTime.Lib.Interleave GuardTime.Lib.Js GuardTime.Lib.Keyed
open GuardTime.Schema GuardTime.Server GuardTime.Prisma GuardTime.Services
open GuardTime.Commands.Polling
open GuardTime.Commands.Lifecycle (Answer commandStatus markCommands calm_device idle_device
  device_newDate device_create)

/-! ### Requests -/

/-- A command is created, a job is attempted, or the device polls. -/
inductive Request where
  | create (device : Device) (type : CommandType) (payload : String)
  | process (data : CommandJobData)
  | poll (deviceId : String)

/-- What the services do. -/
def body (_ : ℕ) : Request → Api Answer
  | .create d type payload => do
    let c ← Adapters.createCommand d type payload
    pure (.command c)
  | .process data => do
    CommandQueue.process data
    pure .done
  | .poll d => do
    let cs ← ChildAgent.getCommands d
    pure (.commands cs)

/-- The end of `process`: the command is marked. -/
def markProcessed (commandId : String) (now : Time) : Api Answer := do
  let _ ← Prisma.update .command commandId
    (fun c => { c with status := .delivered, deliveredAt := some now })
    (ChildAgent.delivered_id now)
  pure .done

/-- Device commands, with the jobs in the place of acknowledgements. -/
def channel : Channel Answer where
  __ := Lifecycle.device
  Ack c s p := s = .delivered ∧ ∃ now, p = markProcessed c now
  look_ack := by
    rintro c status u k ⟨rfl, now, hp⟩ w id
    cases hp
    exact status_update (m := .command) (fun _ _ => rfl) (fun _ => by rfl) (fun _ => by rfl)
      (fun _ _ => by rfl) w id
  ack_ne := by
    rintro c status p ⟨rfl, -⟩
    simp

theorem plays (i : ℕ) (r : Request) : channel.Plays (body i r) := by
  cases r with
  | create d type payload =>
    exact .bind (.bind (device_create fun _ _ => rfl) fun _ =>
      .bind (.call fun _ => calm_device rfl) fun _ => .pure _) fun _ => .pure rfl
  | process data =>
    change channel.Plays (CommandQueue.process data >>= _)
    rw [CommandQueue.process, Prog.bind_assoc]
    refine .bind (calls_query idle_device _) fun found => ?_
    rcases found with _ | d
    · exact .pure rfl
    · simp only [Prog.bind_assoc]
      refine .bind (.require _ _) fun _ => .bind device_newDate fun now => ?_
      exact .ack ⟨rfl, now, rfl⟩ fun _ => .pure rfl
  | poll d =>
    change channel.Plays (ChildAgent.getCommands d >>= _)
    rw [ChildAgent.getCommands, Prog.bind_assoc]
    refine .bind (calls_query idle_device _) fun pending => ?_
    split_ifs with hnil
    · exact .pure (by rw [hnil]; rfl)
    · simp only [Prog.bind_assoc]
      refine .bind device_newDate fun now => ?_
      exact .mark rfl ⟨pending, now, rfl, rfl⟩

/-! ### One poll -/

/-- What is left of a poll that has listed `pending`: nothing yet, the mark, or its answer. -/
inductive Listed (pending : List Command) : Api Answer → Prop
  | timing : Listed pending (newDate >>= fun now => markCommands pending now)
  | marking (now : Time) : Listed pending (markCommands pending now)
  | answered : Listed pending (.ret (.ok (.commands pending)))

/-- The rows a poll lists. -/
def pendingFor (d : String) (w : World) : List Command :=
  (matching .command w.db (w.tape w.calls)
    (fun c => c.deviceId = d && c.status = .pending)).insertionSort
      fun c c' => decide (c.createdAt ≤ c'.createdAt) = true

theorem body_poll (i : ℕ) (d : String) : body i (.poll d) =
    .act (fun w => World.afterCall w w.db) fun w =>
      if pendingFor d w = [] then .ret (.ok (.commands (pendingFor d w)))
      else newDate >>= fun now => markCommands (pendingFor d w) now := by
  change ChildAgent.getCommands d >>= _ = _
  rw [ChildAgent.getCommands, Prog.bind_assoc]
  refine congrArg (Prog.act _) (funext fun w => ?_)
  change (if pendingFor d w = [] then _ else _) >>= _ = _
  split_ifs
  · rfl
  · simp only [Prog.bind_assoc]
    rfl

theorem mem_pendingFor {d : String} {w : World} {c : Command} (hc : c ∈ w.db.commands.rows)
    (hd : c.deviceId = d) (hs : c.status = .pending) : c ∈ pendingFor d w := by
  rw [pendingFor, List.mem_insertionSort, mem_matching]
  exact ⟨hc, by simp [hd, hs]⟩

section Poll
variable {P P' : Pool Request World Err Answer} {m : Move Request World} {pending : List Command}

/-- A poll that has listed its commands goes on to return them. -/
theorem listed_step {i : ℕ} (h : ∃ p, P.prog i = some p ∧ Listed pending p)
    (hm : P.Moves body m P') : ∃ p, P'.prog i = some p ∧ Listed pending p := by
  obtain ⟨p, hp, hl⟩ := h
  cases hm with
  | @start t j _ hj hs hp' =>
    have hne : i ≠ j := by
      rintro rfl
      rw [hj] at hp
      cases hp
    exact ⟨p, by rw [hp', Function.update_of_ne hne, hp], hl⟩
  | @call j u k _ hj hs hp' =>
    by_cases hij : i = j
    · subst hij
      rw [hj] at hp
      obtain rfl := Option.some.inj hp
      refine ⟨k P.state, by rw [hp', Function.update_self], ?_⟩
      generalize hq : Prog.act u k = q at hl
      cases hl with
      | timing =>
        cases hq
        exact .marking P.state.now
      | marking now =>
        cases hq
        exact .answered
      | answered => cases hq
    · exact ⟨p, by rw [hp', Function.update_of_ne hij, hp], hl⟩
  | idle => exact ⟨p, hp, hl⟩
  | other hs hp' => exact ⟨p, by rw [hp', hp], hl⟩

/-- The first call of a poll lists the commands that are pending. -/
theorem listed_first {i : ℕ} {d : String} (hp : P.prog i = some (body i (.poll d)))
    (hm : P.Moves body (.call i) P') :
    ∃ p, P'.prog i = some p ∧ Listed (pendingFor d P.state) p := by
  rw [body_poll] at hp
  cases hm with
  | @call _ u k _ hi hs hp' =>
    rw [hi] at hp
    cases hp
    refine ⟨_, by rw [hp', Function.update_self], ?_⟩
    dsimp only
    split_ifs
    · exact .answered
    · exact .timing
  | idle hi => exact absurd hp (hi _ _)

end Poll

/-! ### Runs -/

/-- The rest of the server leaves the commands alone. -/
def Elsewhere (moves : ℕ → Move Request World) : Prop :=
  ∀ n f, moves n = .other f → ∀ w, (f w).db.commands = w.db.commands

/-- The pool after `n` moves. -/
def pool (w : World) (moves : ℕ → Move Request World) : ℕ → Pool Request World Err Answer :=
  (Pool.idle w).after body moves

/-- Some poll has returned the command. -/
def Returned (P : Pool Request World Err Answer) (id : String) : Prop :=
  ∃ i, id ∈ handed channel P i

/-- A job that is about to mark a command finds it returned by a poll, or gone. -/
def Prompted (P : Pool Request World Err Answer) (m : Move Request World) : Prop :=
  ∀ i c now, m = .call i → P.prog i = some (markProcessed c now) →
    commandStatus P.state c = none ∨ Returned P c

section Run
variable {w : World} {moves : ℕ → Move Request World}

theorem returned_step {P P' : Pool Request World Err Answer} {m : Move Request World}
    (h : ∀ id, commandStatus P.state id = some .delivered → Returned P id)
    (hstep : Step channel P m P') (hcond : Prompted P m) (id : String)
    (hid : commandStatus P'.state id = some .delivered) : Returned P' id := by
  have hsame : (∀ j, handed channel P' j = handed channel P j) → Returned P id →
      Returned P' id := by
    rintro hh ⟨i, hi⟩
    exact ⟨i, by rw [hh i]; exact hi⟩
  cases hstep with
  | calm hl hh =>
    rcases hl id with heq | ⟨-, hnew⟩
    · exact hsame hh (h id (heq.symm.trans hid))
    · exact absurd (hid.symm.trans hnew) (by simp)
  | @mark i ids p _ hp hm hl hi hi' hh =>
    by_cases hmem : id ∈ ids
    · exact ⟨i, by rw [hi']; exact hmem⟩
    · have heq : commandStatus P'.state id = commandStatus P.state id := by
        have := hl id
        rwa [if_neg hmem] at this
      obtain ⟨j, hj⟩ := h id (heq ▸ hid)
      have hne : j ≠ i := by
        rintro rfl
        rw [hi] at hj
        simp at hj
      exact ⟨j, by rw [hh j hne]; exact hj⟩
  | @ack i c s p _ hp ha hl hh =>
    obtain ⟨-, now, rfl⟩ := ha
    have heq := hl id
    by_cases hc : id = c
    · subst hc
      rcases hcond i id now rfl hp with hnone | hreturned
      · rw [if_pos rfl, show channel.look P.state id = none from hnone] at heq
        exact absurd (hid.symm.trans heq) (by simp)
      · exact hsame hh hreturned
    · rw [if_neg hc] at heq
      exact hsame hh (h id (heq.symm.trans hid))

variable (hother : Elsewhere moves)
include hother

theorem returned_of_delivered (hstart : ∀ id, commandStatus w id ≠ some .delivered)
    (hcond : ∀ n, Prompted (pool w moves n) (moves n)) (n : ℕ) : ∀ id,
    commandStatus (pool w moves n).state id = some .delivered → Returned (pool w moves n) id := by
  have hcalm : ∀ n f, moves n = .other f → ∀ w, channel.Calm w (f w) := fun n f hf w =>
    calm_device (hother n f hf w)
  induction n with
  | zero => exact fun id hid => absurd hid (hstart id)
  | succ n ih => exact returned_step ih (step_after plays hcalm n) (hcond n)

omit hother in
theorem listed_after {i k n : ℕ} {pending : List Command} (hkn : k ≤ n)
    (h : ∃ p, (pool w moves k).prog i = some p ∧ Listed pending p) :
    ∃ p, (pool w moves n).prog i = some p ∧ Listed pending p := by
  induction n, hkn using Nat.le_induction with
  | base => exact h
  | succ n _ ih => exact listed_step ih (Pool.exec_moves body _ _)

end Run

/-- **`DELIVERED` means returned**, and no poll misses a command, in every run in which the jobs
only mark commands that a poll has returned: at any time, a `DELIVERED` command has been returned by
a poll, and a poll of the device returns every command it finds, unless a poll has already returned
it. -/
theorem delivered_returned {w : World} {moves : ℕ → Move Request World} (hother : Elsewhere moves)
    (hstart : ∀ id, commandStatus w id ≠ some .delivered)
    (hcond : ∀ n, Prompted (pool w moves n) (moves n)) :
    (∀ n id, commandStatus (pool w moves n).state id = some .delivered →
      Returned (pool w moves n) id) ∧
    ∀ k n i d r, (pool w moves k).prog i = some (body i (.poll d)) → moves k = .call i → k < n →
      (pool w moves n).result i = some r → ∀ c ∈ (pool w moves k).state.db.commands.rows,
      c.deviceId = d → c.status = .pending ∨ c.status = .delivered →
      c.id ∈ handed channel (pool w moves n) i ∨ Returned (pool w moves k) c.id := by
  have hdelivered := returned_of_delivered hother hstart hcond
  refine ⟨hdelivered, fun k n i d r hp hmove hkn hr c hc hd hs => ?_⟩
  rcases hs with hs | hs
  · left
    have hmoves : (pool w moves k).Moves body (.call i) (pool w moves (k + 1)) :=
      hmove ▸ Pool.exec_moves body (pool w moves k) (moves k)
    obtain ⟨p, hp', hl⟩ := listed_after hkn (listed_first hp hmoves)
    obtain rfl : p = .ret r := Option.some.inj (hp'.symm.trans (Pool.prog_of_result hr))
    generalize hq : (Prog.ret r : Api Answer) = q at hl
    cases hl with
    | timing => cases hq
    | marking now => cases hq
    | answered =>
      cases hq
      rw [handed, hp']
      exact List.mem_map_of_mem (mem_pendingFor hc hd hs)
  · right
    refine hdelivered k c.id ?_
    rw [commandStatus, Table.find_key hc, Option.map_some, hs]

/-! ### A job before the poll -/

/-- A phone that is online. -/
def phone : Device := { Household.device "phone" "amal" "adam" with status := .online }

/-- A command to lock it. -/
def lock : Command := ⟨"lock", "phone", .lockDevice, none, .pending, none, none, 0⟩

/-- The households with the command. -/
def queued : World :=
  .fresh { Household.withDevices [phone] (by simp) with commands := ⟨[lock], by decide⟩ } 0

theorem pending_queued (id : String) : commandStatus queued id ≠ some .delivered := by
  intro hid
  obtain ⟨r, hr, hs⟩ := Option.map_eq_some_iff.mp hid
  obtain rfl := List.mem_singleton.mp (Table.mem_of_find hr)
  cases hs

/-- The job of the command. -/
def job : CommandJobData := ⟨"lock", "phone", .lockDevice, "", .androidAgent⟩

/-- The phone polls, then the job runs. -/
def pollFirst : ℕ → Move Request World := schedule
  [.start (.poll "phone"), .call 0, .call 0, .call 0, .start (.process job), .call 1, .call 1,
    .call 1]

/-- The job runs before the phone polls. -/
def jobFirst : ℕ → Move Request World := schedule
  [.start (.process job), .call 0, .call 0, .call 0]

/-- Every command has been returned, or the thread that moves is a poll. -/
def calmAt (P : Pool Request World Err Answer) (m : Move Request World) : Bool :=
  (P.state.db.commands.rows.all fun c => c.id ∈ handed channel P 0) ||
    match m with
    | .call i =>
      match P.prog i with
      | some p =>
        match (p.run P.state).1 with
        | .ok (.commands _) => true
        | _ => false
      | none => true
    | _ => true

theorem prompted_of_calmAt {P : Pool Request World Err Answer} {m : Move Request World}
    (h : calmAt P m = true) : Prompted P m := by
  rintro i c now rfl hp
  rcases Bool.or_eq_true_iff.mp h with hall | hpoll
  · rcases hc : P.state.db.commands.find c with _ | r
    · exact .inl (by rw [commandStatus, hc]; rfl)
    · refine .inr ⟨0, ?_⟩
      have := List.all_eq_true.mp hall r (Table.mem_of_find hc)
      rw [← Table.key_of_find hc]
      simpa using this
  · simp only [hp] at hpoll
    rcases hc : P.state.db.commands.find c with _ | r
    · exact .inl (by rw [commandStatus, hc]; rfl)
    · rw [markProcessed, Prog.run_bind, run_update (m := .command) hc rfl rfl] at hpoll
      simp at hpoll

theorem delivered_returned_pollFirst :
    commandStatus (pool queued pollFirst 8).state "lock" = some .delivered ∧
      Returned (pool queued pollFirst 8) "lock" := by
  have hother : Elsewhere pollFirst := forall_other_schedule (by simp)
  have hcond : ∀ n, Prompted (pool queued pollFirst n) (pollFirst n) := by
    refine forall_schedule (C := fun P m => Prompted P m) ?_ ?_
    · rintro P i hi j c now ⟨⟩ hp
      rw [hi] at hp
      cases hp
    · intro n hn
      refine prompted_of_calmAt ?_
      have hall : ∀ n < 8, calmAt (pool queued pollFirst n) (pollFirst n) = true := by
        decide +kernel
      exact hall n hn
  have hdelivered : commandStatus (pool queued pollFirst 8).state "lock" = some .delivered := by
    decide +kernel
  exact ⟨hdelivered, (delivered_returned hother pending_queued hcond).1 8 "lock" hdelivered⟩

/-- The command is `DELIVERED`, and no poll has ever returned it. -/
theorem delivered_unseen : ¬ ∀ (w : World) (moves : ℕ → Move Request World), Elsewhere moves →
    (∀ id, commandStatus w id ≠ some .delivered) →
    ∀ n id, commandStatus (pool w moves n).state id = some .delivered →
      Returned (pool w moves n) id := by
  intro h
  have hother : Elsewhere jobFirst := forall_other_schedule (by simp)
  obtain ⟨i, hi⟩ := h queued jobFirst hother pending_queued 4 "lock" (by decide +kernel)
  have hlength : (pool queued jobFirst 4).threads.length = 1 := by decide +kernel
  rcases i with _ | i
  · revert hi
    decide +kernel
  · rw [handed, Pool.prog, List.getElem?_eq_none (by omega)] at hi
    simp at hi

end GuardTime.Commands.Delivery
