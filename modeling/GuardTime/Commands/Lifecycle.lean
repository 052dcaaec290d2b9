import Mathlib.Tactic
import GuardTime.Services.Enforcement
import GuardTime.Commands.Polling
import GuardTime.Household

/-! # The lifecycle of commands

`RouterCommand` and `Command` rows under any interleaving of enqueueing, polls and acknowledgements.
Their statuses go `PENDING`, `DELIVERED`, `ACKNOWLEDGED` or `FAILED`, and no command reaches two
polls, as long as no request finds its commands changed between its two calls (`moves_forward`). Two
overlapping polls hand the same command over. -/

namespace GuardTime.Commands.Lifecycle

open GuardTime.Lib.Program GuardTime.Lib.Interleave GuardTime.Lib.Js GuardTime.Lib.Keyed
open GuardTime.Schema GuardTime.Server GuardTime.Prisma GuardTime.Services
open GuardTime.Commands.Polling

/-! ### Requests -/

/-- A request of either service. -/
inductive Request where
  | enqueueRouter (gatewayId : String) (type : RouterCommandType) (payload : Option Json)
      (deviceId : Option String)
  | pollRouter (gatewayId : String)
  | ackRouter (gatewayId commandId : String) (success : Bool) (resultData : Option Json)
  | create (device : Device) (type : CommandType) (payload : String)
  | createIos (deviceId : String) (type : CommandType) (payload : String)
  | poll (deviceId : String)
  | ack (dto : ChildAgent.CommandAckDto)

/-- What the caller gets. -/
inductive Answer where
  | routerCommand (c : RouterCommand)
  | routerCommands (cs : List RouterCommand)
  | command (c : Command)
  | commands (cs : List Command)
  | commandAck (a : CommandAck)
  | done

/-- What the services do. -/
def body (_ : ℕ) : Request → Api Answer
  | .enqueueRouter g type payload d => do
    let c ← RouterCommands.enqueueCommand g type payload d
    pure (.routerCommand c)
  | .pollRouter g => do
    let cs ← RouterCommands.getPendingCommands g
    pure (.routerCommands cs)
  | .ackRouter g c success data => do
    let c ← RouterCommands.acknowledgeCommand g c success data
    pure (.routerCommand c)
  | .create d type payload => do
    let c ← Adapters.createCommand d type payload
    pure (.command c)
  | .createIos d type payload => do
    let c ← Adapters.createIosCommand d type payload
    pure (.command c)
  | .poll d => do
    let cs ← ChildAgent.getCommands d
    pure (.commands cs)
  | .ack dto => do
    let a ← ChildAgent.acknowledgeCommand dto
    pure (.commandAck a)

/-! ### The two channels -/

/-- The status of a router command. -/
def routerStatus (w : World) (id : String) : Option CommandStatus :=
  (w.db.routerCommands.find id).map RouterCommand.status

/-- The status of a device command. -/
def commandStatus (w : World) (id : String) : Option CommandStatus :=
  (w.db.commands.find id).map Command.status

/-- The end of `getPendingCommands`: the listed commands are marked and returned. -/
def markRouter (pending : List RouterCommand) (now : Time) : Api Answer := do
  let _ ← Prisma.updateMany .routerCommand (fun c => c.id ∈ pending.map RouterCommand.id)
    (fun c => { c with status := .delivered, deliveredAt := some now })
    (RouterCommands.delivered_id now)
  pure (.routerCommands
    (pending.map fun c => { c with status := .delivered, deliveredAt := some now }))

/-- The end of `RouterCommandService.acknowledgeCommand`. -/
def settleRouter (commandId : String) (success : Bool) (resultData : Option Json) (now : Time) :
    Api Answer := do
  let c ← Prisma.update .routerCommand commandId
    (fun c =>
      { c with
        status := if success then .acknowledged else .failed
        ackedAt := some now
        resultData := resultData.map stringify })
    (RouterCommands.acknowledged_id success resultData now)
  pure (.routerCommand c)

/-- The end of `getCommands`. -/
def markCommands (pending : List Command) (now : Time) : Api Answer := do
  let _ ← Prisma.updateMany .command (fun c => c.id ∈ pending.map Command.id)
    (fun c => { c with status := .delivered, deliveredAt := some now })
    (ChildAgent.delivered_id now)
  pure (.commands pending)

/-- The end of `ChildAgentService.acknowledgeCommand`. -/
def settleCommand (dto : ChildAgent.CommandAckDto) (now : Time) : Api Answer := do
  let _ ← Prisma.update .command dto.commandId
    (fun c =>
      { c with status := if dto.success then .acknowledged else .failed, ackedAt := some now })
    (ChildAgent.acknowledged_id dto now)
  let a ← Prisma.create .commandAck fun id now =>
    { id, commandId := dto.commandId, success := dto.success, resultData := dto.resultData,
      ackedAt := now }
  pure (.commandAck a)

/-- Router commands. -/
def router : Channel Answer where
  look := routerStatus
  hands
    | .routerCommands cs => cs.map RouterCommand.id
    | _ => []
  Mark ids p := ∃ pending now, ids = pending.map RouterCommand.id ∧ p = markRouter pending now
  Ack c s p := ∃ success data now, s = (if success then .acknowledged else .failed) ∧
    p = settleRouter c success data now
  look_mark := by
    rintro ids u k ⟨pending, now, rfl, hp⟩ w id
    cases hp
    exact status_modify (fun _ => by rfl) (fun _ => by rfl) id
  hands_mark := by
    rintro ids u k ⟨pending, now, rfl, hp⟩ w
    cases hp
    exact ⟨_, rfl, by simp⟩
  look_ack := by
    rintro c status u k ⟨success, data, now, rfl, hp⟩ w id
    cases hp
    exact status_update (m := .routerCommand) (fun _ _ => rfl) (fun _ => by rfl) (fun _ => by rfl)
      (fun _ _ => by rfl) w id
  ack_ne := by
    rintro c status p ⟨success, data, now, rfl, -⟩
    cases success <;> simp

/-- Device commands. -/
def device : Channel Answer where
  look := commandStatus
  hands
    | .commands cs => cs.map Command.id
    | _ => []
  Mark ids p := ∃ pending now, ids = pending.map Command.id ∧ p = markCommands pending now
  Ack c s p := ∃ dto now, c = dto.commandId ∧
    s = (if dto.success then .acknowledged else .failed) ∧ p = settleCommand dto now
  look_mark := by
    rintro ids u k ⟨pending, now, rfl, hp⟩ w id
    cases hp
    exact status_modify (fun _ => by rfl) (fun _ => by rfl) id
  hands_mark := by
    rintro ids u k ⟨pending, now, rfl, hp⟩ w
    cases hp
    exact ⟨_, rfl, rfl⟩
  look_ack := by
    rintro c status u k ⟨dto, now, rfl, rfl, hp⟩ w id
    cases hp
    exact status_update (m := .command) (fun _ _ => rfl) (fun _ => by rfl) (fun _ => by rfl)
      (fun _ _ => by rfl) w id
  ack_ne := by
    rintro c status p ⟨dto, now, -, rfl, -⟩
    cases dto.success <;> simp

/-! ### The requests play by both channels -/

theorem calm_router {w w' : World} (h : w'.db.routerCommands = w.db.routerCommands) :
    router.Calm w w' := by
  intro id
  left
  change routerStatus w' id = routerStatus w id
  rw [routerStatus, h, routerStatus]

theorem calm_device {w w' : World} (h : w'.db.commands = w.db.commands) : device.Calm w w' := by
  intro id
  left
  change commandStatus w' id = commandStatus w id
  rw [commandStatus, h, commandStatus]

theorem idle_router : Idle router.Calm := fun _ => calm_router rfl

theorem idle_device : Idle device.Calm := fun _ => calm_device rfl

theorem router_command : Ignores .command router.Calm := fun _ _ => calm_router rfl

theorem router_commandAck : Ignores .commandAck router.Calm := fun _ _ => calm_router rfl

theorem device_routerCommand : Ignores .routerCommand device.Calm := fun _ _ => calm_device rfl

theorem device_commandAck : Ignores .commandAck device.Calm := fun _ _ => calm_device rfl

theorem router_newDate : Calls router.Calm newDate := calls_newDate fun _ => calm_router rfl

theorem device_newDate : Calls device.Calm newDate := calls_newDate fun _ => calm_device rfl

/-- A new command is `PENDING`. -/
theorem router_create {mk : String → Time → RouterCommand}
    (h : ∀ id now, (mk id now).status = .pending) :
    Calls router.Calm (Prisma.create .routerCommand mk) :=
  .call fun w id => status_create RouterCommand.status (m := .routerCommand) (fun _ _ => rfl) h w id

theorem device_create {mk : String → Time → Command} (h : ∀ id now, (mk id now).status = .pending) :
    Calls device.Calm (Prisma.create .command mk) :=
  .call fun w id => status_create Command.status (m := .command) (fun _ _ => rfl) h w id

theorem plays_router (i : ℕ) (r : Request) : router.Plays (body i r) := by
  cases r with
  | enqueueRouter g type payload d =>
    exact .bind (router_create fun _ _ => rfl) fun _ => .pure rfl
  | pollRouter g =>
    change router.Plays (RouterCommands.getPendingCommands g >>= _)
    rw [RouterCommands.getPendingCommands, Prog.bind_assoc]
    refine .bind (calls_query idle_router _) fun pending => ?_
    split_ifs
    · exact .pure rfl
    · rw [Prog.bind_assoc]
      refine .bind router_newDate fun now => ?_
      rw [Prog.bind_assoc]
      exact .mark rfl ⟨pending, now, rfl, rfl⟩
  | ackRouter g c success data =>
    change router.Plays (RouterCommands.acknowledgeCommand g c success data >>= _)
    rw [RouterCommands.acknowledgeCommand, Prog.bind_assoc]
    refine .bind (calls_query idle_router _) fun found => ?_
    rw [Prog.bind_assoc]
    refine .bind (.orThrow _ _) fun command => ?_
    rw [Prog.bind_assoc]
    refine .bind (.require _ _) fun _ => ?_
    rw [Prog.bind_assoc]
    refine .bind router_newDate fun now => ?_
    exact .ack ⟨success, data, now, rfl, rfl⟩ fun _ => .pure rfl
  | create d type payload =>
    exact .bind (.bind (router_command.create idle_router _) fun _ =>
      .bind (.call fun _ => calm_router rfl) fun _ => .pure _) fun _ => .pure rfl
  | createIos d type payload =>
    exact .bind (router_command.create idle_router _) fun _ => .pure rfl
  | poll d =>
    exact .bind (.bind (calls_query idle_router _) fun _ => .ite (.pure _)
      (.bind router_newDate fun _ => .bind (router_command.updateMany _ _ _) fun _ => .pure _))
      fun _ => .pure rfl
  | ack dto =>
    exact .bind (.bind (calls_query idle_router _) fun _ => .bind (.orThrow _ _) fun _ =>
      .bind router_newDate fun _ => .bind (router_command.update idle_router _ _ _) fun _ =>
        router_commandAck.create idle_router _) fun _ => .pure rfl

theorem plays_device (i : ℕ) (r : Request) : device.Plays (body i r) := by
  cases r with
  | enqueueRouter g type payload d =>
    exact .bind (device_routerCommand.create idle_device _) fun _ => .pure rfl
  | pollRouter g =>
    exact .bind (.bind (calls_query idle_device _) fun _ => .ite (.pure _)
      (.bind device_newDate fun _ => .bind (device_routerCommand.updateMany _ _ _) fun _ =>
        .pure _))
      fun _ => .pure rfl
  | ackRouter g c success data =>
    exact .bind (.bind (calls_query idle_device _) fun _ => .bind (.orThrow _ _) fun _ =>
      .bind (.require _ _) fun _ => .bind device_newDate fun _ =>
        device_routerCommand.update idle_device _ _ _) fun _ => .pure rfl
  | create d type payload =>
    exact .bind (.bind (device_create fun _ _ => rfl) fun _ =>
      .bind (.call fun _ => calm_device rfl) fun _ => .pure _) fun _ => .pure rfl
  | createIos d type payload =>
    exact .bind (device_create fun _ _ => rfl) fun _ => .pure rfl
  | poll d =>
    change device.Plays (ChildAgent.getCommands d >>= _)
    rw [ChildAgent.getCommands, Prog.bind_assoc]
    refine .bind (calls_query idle_device _) fun pending => ?_
    split_ifs with hnil
    · exact .pure (by rw [hnil]; rfl)
    · rw [Prog.bind_assoc]
      refine .bind device_newDate fun now => ?_
      rw [Prog.bind_assoc]
      exact .mark rfl ⟨pending, now, rfl, rfl⟩
  | ack dto =>
    change device.Plays (ChildAgent.acknowledgeCommand dto >>= _)
    rw [ChildAgent.acknowledgeCommand, Prog.bind_assoc]
    refine .bind (calls_query idle_device _) fun found => ?_
    rw [Prog.bind_assoc]
    refine .bind (.orThrow _ _) fun command => ?_
    rw [Prog.bind_assoc]
    refine .bind device_newDate fun now => ?_
    rw [Prog.bind_assoc]
    refine .ack ⟨dto, now, rfl, rfl, rfl⟩ fun _ => ?_
    exact .bind (device_commandAck.create idle_device _) fun _ => .pure rfl

/-! ### Runs -/

/-- The rest of the server leaves both tables alone. -/
def Elsewhere (moves : ℕ → Move Request World) : Prop :=
  ∀ n f, moves n = .other f → ∀ w,
    (f w).db.routerCommands = w.db.routerCommands ∧ (f w).db.commands = w.db.commands

/-- The pool after `n` moves. -/
def pool (w : World) (moves : ℕ → Move Request World) : ℕ → Pool Request World Err Answer :=
  (Pool.idle w).after body moves

/-- **Commands move forward**, step by step, and reach at most one poll, in every run in which every
mark finds its commands `PENDING` and every acknowledgement finds its command `DELIVERED` or already
with the status it writes. -/
theorem moves_forward {w : World} {moves : ℕ → Move Request World} (hother : Elsewhere moves)
    (hcond : ∀ n, Orderly router (pool w moves n) (moves n) ∧
      Orderly device (pool w moves n) (moves n)) :
    (∀ n id,
      Forward (routerStatus (pool w moves n).state id)
        (routerStatus (pool w moves (n + 1)).state id) ∧
      Forward (commandStatus (pool w moves n).state id)
        (commandStatus (pool w moves (n + 1)).state id)) ∧
    ∀ n i j id, i ≠ j →
      ¬ (id ∈ handed router (pool w moves n) i ∧ id ∈ handed router (pool w moves n) j) ∧
      ¬ (id ∈ handed device (pool w moves n) i ∧ id ∈ handed device (pool w moves n) j) := by
  have hr : ∀ n f, moves n = .other f → ∀ w, router.Calm w (f w) := fun n f hf w =>
    calm_router (hother n f hf w).1
  have hd : ∀ n f, moves n = .other f → ∀ w, device.Calm w (f w) := fun n f hf w =>
    calm_device (hother n f hf w).2
  refine ⟨fun n id => ⟨?_, ?_⟩, fun n i j id hij => ⟨?_, ?_⟩⟩
  · exact forward_of_orderly plays_router hr (fun n => (hcond n).1) n id
  · exact forward_of_orderly plays_device hd (fun n => (hcond n).2) n id
  · rintro ⟨hi, hj⟩
    exact hij ((once_of_orderly plays_router hr (fun n => (hcond n).1) n).once i j id hi hj)
  · rintro ⟨hi, hj⟩
    exact hij ((once_of_orderly plays_device hd (fun n => (hcond n).2) n).once i j id hi hj)

/-! ### Overlapping polls -/

/-- A pending block of a device behind gateway `ga`. -/
def blockCommand : RouterCommand :=
  ⟨"block", "ga", some "xbox", .blockDevice, none, .pending, none, 0, none, none⟩

/-- The households with the command. -/
def queued : World :=
  .fresh { Household.withDevices
    [] List.nodup_nil with routerCommands := ⟨[blockCommand], by decide⟩ } 0

/-- An outcome of requests that are on their own: what a poll lists is `PENDING`, and what an
acknowledgement writes is `DELIVERED` before. -/
def Alone (w : World) : Except Err Answer → Bool
  | .ok (.routerCommands cs) => cs.all fun c => routerStatus w c.id = some .pending
  | .ok (.routerCommand c) => c.status = .pending || routerStatus w c.id = some .delivered
  | .ok (.commands cs) => cs.all fun c => commandStatus w c.id = some .pending
  | .ok (.command _) => true
  | .ok (.commandAck a) => commandStatus w a.commandId = some .delivered
  | _ => false

theorem orderly_of_alone {P : Pool Request World Err Answer} {m : Move Request World}
    (h : ∀ i p, m = .call i → P.prog i = some p → Alone P.state (p.run P.state).1 = true) :
    Orderly router P m ∧ Orderly device P m := by
  refine ⟨fun i p hm hp => ⟨?_, ?_⟩, fun i p hm hp => ⟨?_, ?_⟩⟩
  · rintro ids ⟨pending, now, rfl, rfl⟩ id hid
    obtain ⟨c, hc, rfl⟩ := List.mem_map.mp hid
    have halone : Alone P.state (.ok (.routerCommands (pending.map fun c =>
      { c with status := .delivered, deliveredAt := some now }))) = true := h i _ hm hp
    simp only [Alone, List.all_map, List.all_eq_true, Function.comp, decide_eq_true_eq] at halone
    exact halone c hc
  · rintro c s ⟨success, data, now, rfl, rfl⟩
    have halone := h i _ hm hp
    change routerStatus P.state c ∈ _
    rcases hr : P.state.db.routerCommands.find c with _ | r
    · simp [routerStatus, hr]
    · rw [settleRouter, Prog.run_bind, run_update (m := .routerCommand) hr rfl rfl] at halone
      have hid : r.id = c := Table.key_of_find hr
      cases success <;> simp [Alone, Model.routerCommand, hid] at halone <;> simp [halone]
  · rintro ids ⟨pending, now, rfl, rfl⟩ id hid
    obtain ⟨c, hc, rfl⟩ := List.mem_map.mp hid
    have halone : Alone P.state (.ok (.commands pending)) = true := h i _ hm hp
    simp only [Alone, List.all_eq_true, decide_eq_true_eq] at halone
    exact halone c hc
  · rintro c s ⟨dto, now, rfl, rfl, rfl⟩
    have halone := h i _ hm hp
    change commandStatus P.state dto.commandId ∈ _
    rcases hr : P.state.db.commands.find dto.commandId with _ | r
    · simp [commandStatus, hr]
    · rw [settleCommand, Prog.run_bind, run_update (m := .command) hr rfl rfl] at halone
      simp only [Prog.run_bind] at halone
      split at halone
      · rename_i a w' hcreate
        obtain ⟨rfl, -⟩ := run_create_ok hcreate
        simp [Alone] at halone
        simp [halone]
      · simp [Alone] at halone

/-- A command is queued, polled and acknowledged, one request after the other. -/
def oneByOne : ℕ → Move Request World := schedule
  [.start (.enqueueRouter "ga" .unblockDevice none none), .call 0, .start (.pollRouter "ga"),
    .call 1,
   .call 1, .call 1, .start (.ackRouter "ga" "block" true none), .call 2, .call 2, .call 2]

/-- Whether thread `i` is on its own. -/
def aloneAt (P : Pool Request World Err Answer) (i : ℕ) : Bool :=
  match P.prog i with
  | some p => Alone P.state (p.run P.state).1
  | none => true

/-- Whether a move calls a thread that is on its own. -/
def callsAlone (P : Pool Request World Err Answer) (m : Move Request World) : Bool :=
  match m with
  | .call i => aloneAt P i
  | _ => true

theorem orderly_oneByOne (n : ℕ) : Orderly router (pool queued oneByOne n) (oneByOne n) ∧
    Orderly device (pool queued oneByOne n) (oneByOne n) := by
  refine orderly_of_alone (forall_schedule (C := fun P m => ∀ i p, m = .call i → P.prog i = some p →
    Alone P.state (p.run P.state).1 = true) ?_ ?_ n)
  · rintro P i hi j p ⟨⟩ hp
    rw [hi] at hp
    cases hp
  · have hall : ∀ n < 10, callsAlone (pool queued oneByOne n) (oneByOne n) = true := by
      decide +kernel
    intro n hn i p hm hp
    have halone := hall n hn
    rw [show oneByOne n = .call i from hm] at halone
    simp only [callsAlone, aloneAt, show (pool queued oneByOne n).prog i = some p from hp] at halone
    exact halone

theorem moves_forward_oneByOne :
    (∀ id, Forward (routerStatus (pool queued oneByOne 9).state id)
      (routerStatus (pool queued oneByOne 10).state id)) ∧
    routerStatus (pool queued oneByOne 10).state "block" = some .acknowledged := by
  have hother : Elsewhere oneByOne := forall_other_schedule (by simp)
  refine ⟨fun id => ((moves_forward hother orderly_oneByOne).1 9 id).1, ?_⟩
  decide +kernel

/-- Two polls list the command before either marks it. -/
def twoPolls : ℕ → Move Request World := schedule
  [.start (.pollRouter "ga"), .start (.pollRouter "ga"), .call 0, .call 1, .call 0, .call 0,
    .call 1,
   .call 1]

theorem handed_twice : ¬ ∀ (w : World) (moves : ℕ → Move Request World), Elsewhere moves →
    (∀ n id,
      Forward (routerStatus (pool w moves n).state id)
        (routerStatus (pool w moves (n + 1)).state id) ∧
      Forward (commandStatus (pool w moves n).state id)
        (commandStatus (pool w moves (n + 1)).state id)) ∧
    ∀ n i j id, i ≠ j →
      ¬ (id ∈ handed router (pool w moves n) i ∧ id ∈ handed router (pool w moves n) j) ∧
      ¬ (id ∈ handed device (pool w moves n) i ∧ id ∈ handed device (pool w moves n) j) := by
  intro h
  have hother : Elsewhere twoPolls := forall_other_schedule (by simp)
  exact ((h queued twoPolls hother).2 8 0 1 "block" (by decide)).1 (by decide +kernel)

end GuardTime.Commands.Lifecycle
