import Mathlib.Tactic
import GuardTime.Commands.Lifecycle

/-! # Answers that get lost

The router queue when the answer of a poll travels to the agent as a message, which arrives or is
lost. `getPendingCommands` marks its commands `DELIVERED` before the answer leaves, so a command is
`PENDING` exactly as long as no answer lists it and nobody has acknowledged it (`Settled`). The next
poll of the gateway therefore lists a command the agent still waits for exactly when no answer that
lists it was lost or is still on its way (`next_poll_iff`). -/

namespace GuardTime.Commands.Durability

open GuardTime.Lib.Program GuardTime.Lib.Js GuardTime.Lib.Keyed
open GuardTime.Schema GuardTime.Server GuardTime.Prisma GuardTime.Services
open GuardTime.Commands.Polling
open GuardTime.Commands.Lifecycle (routerStatus)

/-! ### Messages -/

/-- The server, the answers on their way, and what has become of the commands: the agents have
received some, some were in an answer that got lost, and some have been acknowledged. -/
structure State where
  world : World
  flight : List (List RouterCommand) := []
  received : List String := []
  lost : List String := []
  acknowledged : List String := []

/-- The server handles a request, the answer at a position of the network arrives or is lost, or
something else happens at the server. -/
inductive Event where
  | enqueue (gatewayId : String) (type : RouterCommandType) (payload : Option Json)
      (deviceId : Option String)
  | poll (gatewayId : String)
  | arrive (n : ℕ)
  | lose (n : ℕ)
  | ack (gatewayId commandId : String) (success : Bool) (resultData : Option Json)
  | other (f : World → World)

/-- The commands of the answer at position `n`. -/
def State.answer (s : State) (n : ℕ) : List String := (s.flight.getD n []).map RouterCommand.id

/-- What an event does. -/
def step (s : State) : Event → State
  | .enqueue g type payload d =>
    { s with world := ((RouterCommands.enqueueCommand g type payload d).run s.world).2 }
  | .poll g =>
    let r := (RouterCommands.getPendingCommands g).run s.world
    match r.1 with
    | .ok cs => { s with world := r.2, flight := s.flight ++ [cs] }
    | .error _ => { s with world := r.2 }
  | .arrive n =>
    { s with flight := s.flight.eraseIdx n, received := s.received ++ s.answer n }
  | .lose n => { s with flight := s.flight.eraseIdx n, lost := s.lost ++ s.answer n }
  | .ack g c success data =>
    let r := (RouterCommands.acknowledgeCommand g c success data).run s.world
    match r.1 with
    | .ok _ => { s with world := r.2, acknowledged := c :: s.acknowledged }
    | .error _ => { s with world := r.2 }
  | .other f => { s with world := f s.world }

/-- The state after the events. -/
def run (w : World) (es : List Event) : State := es.foldl step { world := w }

/-! ### One request -/

/-- The rows a poll lists. -/
def pendingFor (g : String) (w : World) : List RouterCommand :=
  (matching .routerCommand w.db (w.tape w.calls)
    (fun c => c.gatewayId = g && c.status = .pending)).insertionSort
      fun c c' => decide (c.createdAt ≤ c'.createdAt) = true

theorem mem_pendingFor {g : String} {w : World} {c : RouterCommand} :
    c ∈ pendingFor g w ↔
      c ∈ w.db.routerCommands.rows ∧ c.gatewayId = g ∧ c.status = .pending := by
  rw [pendingFor, List.mem_insertionSort, mem_matching, Bool.and_eq_true, decide_eq_true_eq,
    decide_eq_true_eq]
  rfl

theorem id_mem_pendingFor {w : World} {c : RouterCommand} (hc : c ∈ w.db.routerCommands.rows) :
    c.id ∈ (pendingFor c.gatewayId w).map RouterCommand.id ↔ c.status = .pending := by
  constructor
  · intro h
    obtain ⟨c', hc', hid⟩ := List.mem_map.mp h
    obtain ⟨hrow, -, hs⟩ := mem_pendingFor.mp hc'
    obtain rfl : c' = c := Table.eq_of_key hrow hc hid
    exact hs
  · intro hs
    exact List.mem_map_of_mem (mem_pendingFor.mpr ⟨hc, rfl, hs⟩)

/-- A poll answers with the pending commands, all of them now `DELIVERED`. -/
theorem run_poll (g : String) (w : World) : ∃ cs w',
    (RouterCommands.getPendingCommands g).run w = (.ok cs, w') ∧
    cs.map RouterCommand.id = (pendingFor g w).map RouterCommand.id ∧
    ∀ id, routerStatus w' id =
      if id ∈ cs.map RouterCommand.id then (routerStatus w id).map fun _ => .delivered
      else routerStatus w id := by
  have hquery : (RouterCommands.getPendingCommands g).run w =
      ((if pendingFor g w = [] then pure [] else do
        let now ← newDate
        let _ ← Prisma.updateMany .routerCommand
          (fun c => c.id ∈ (pendingFor g w).map RouterCommand.id)
          fun c => { c with status := .delivered, deliveredAt := some now }
        pure ((pendingFor g w).map fun c =>
          { c with status := .delivered, deliveredAt := some now }) :
        Api (List RouterCommand))).run (World.afterCall w w.db) := rfl
  rw [hquery]
  split_ifs with hnil
  · refine ⟨[], _, rfl, by rw [hnil], fun id => ?_⟩
    rw [if_neg (by simp)]
    rfl
  · refine ⟨_, _, rfl, by simp, fun id => ?_⟩
    have hids : ((pendingFor g w).map fun c : RouterCommand =>
        { c with status := .delivered, deliveredAt := some w.now }).map RouterCommand.id =
          (pendingFor g w).map RouterCommand.id := by simp
    rw [show (World.afterCall w w.db).now = w.now from rfl, hids]
    exact status_modify (fun _ => by rfl) (fun _ => by rfl) id

/-- An acknowledgement settles its command, or fails and leaves all statuses alone. -/
theorem run_ack (g c : String) (success : Bool) (data : Option Json) (w : World) :
    (∃ e w', (RouterCommands.acknowledgeCommand g c success data).run w = (.error e, w') ∧
      ∀ id, routerStatus w' id = routerStatus w id) ∨
    ∃ a w' s, (RouterCommands.acknowledgeCommand g c success data).run w = (.ok a, w') ∧
      s ≠ .pending ∧ ∀ id, routerStatus w' id = if id = c then some s else routerStatus w id := by
  rw [RouterCommands.acknowledgeCommand]
  simp only [Prog.run_bind, run_findUnique]
  rcases hc : (Model.routerCommand.get w.db).find c with _ | r
  · left
    exact ⟨_, _, rfl, fun _ => rfl⟩
  · simp only [Prog.run_orThrow_some, Prog.run_require]
    by_cases hg : r.gatewayId = g
    · right
      rw [if_pos hg]
      simp only [newDate, Prog.run_read]
      rw [run_update (m := .routerCommand) (r := r) (w := World.afterCall w w.db) hc rfl rfl]
      refine ⟨_, _, if success then .acknowledged else .failed, rfl, ?_, fun id => ?_⟩
      · cases success <;> simp
      · have hst : ∀ r : RouterCommand, (Model.routerCommand.touch w.now { r with
            status := if success then .acknowledged else .failed
            ackedAt := some w.now
            resultData := data.map stringify }).status =
              if success then .acknowledged else .failed := fun _ => rfl
        have hpatch := status_patch (m := .routerCommand) (t := w.db.routerCommands) (c := c)
          (f := fun c => { c with
            status := if success then .acknowledged else .failed
            ackedAt := some w.now
            resultData := data.map stringify }) (fun _ => by rfl) hst id
        refine Eq.trans hpatch ?_
        by_cases hid : id = c
        · rw [if_pos hid, if_pos hid, hid, show w.db.routerCommands.find c = some r from hc]
          rfl
        · rw [if_neg hid, if_neg hid]
          rfl
    · left
      rw [if_neg hg]
      exact ⟨_, _, rfl, fun _ => rfl⟩

/-! ### Runs -/

/-- The commands that some answer lists. -/
def State.handed (s : State) : List String :=
  s.flight.flatten.map RouterCommand.id ++ s.received ++ s.lost

/-- The command is no longer `PENDING`. -/
def Passed (w : World) (id : String) : Prop := ∃ st, routerStatus w id = some st ∧ st ≠ .pending

/-- The commands that are no longer `PENDING` are those that an answer lists or that have been
acknowledged. -/
def Settled (s : State) : Prop :=
  ∀ id, Passed s.world id ↔ id ∈ s.handed ∨ id ∈ s.acknowledged

/-- The rest of the server leaves the router commands alone. -/
def Elsewhere (es : List Event) : Prop :=
  ∀ f, Event.other f ∈ es → ∀ w, (f w).db.routerCommands = w.db.routerCommands

/-- The answer at a position and the others are all that is on its way. -/
theorem mem_flight (s : State) (n : ℕ) (id : String) :
    id ∈ s.flight.flatten.map RouterCommand.id ↔
      id ∈ (s.flight.eraseIdx n).flatten.map RouterCommand.id ∨ id ∈ s.answer n := by
  rw [State.answer]
  generalize s.flight = answers
  induction answers generalizing n with
  | nil => simp
  | cons cs answers ih =>
    cases n with
    | zero =>
      simp only [List.eraseIdx_cons_zero, List.getD_cons_zero, List.flatten_cons, List.map_append,
        List.mem_append]
      exact or_comm
    | succ n =>
      simp only [List.eraseIdx_cons_succ, List.getD_cons_succ, List.flatten_cons, List.map_append,
        List.mem_append, ih n]
      exact or_assoc.symm

theorem handed_arrive (s : State) (n : ℕ) (id : String) :
    id ∈ (step s (.arrive n)).handed ↔ id ∈ s.handed := by
  have hmem := mem_flight s n id
  simp only [step, State.handed, List.mem_append] at hmem ⊢
  tauto

theorem handed_lose (s : State) (n : ℕ) (id : String) :
    id ∈ (step s (.lose n)).handed ↔ id ∈ s.handed := by
  have hmem := mem_flight s n id
  simp only [step, State.handed, List.mem_append] at hmem ⊢
  tauto

theorem passed_congr {w w' : World} {id : String} (h : routerStatus w' id = routerStatus w id) :
    Passed w' id ↔ Passed w id := by
  rw [Passed, h, Passed]

theorem passed_enqueue (g : String) (type : RouterCommandType) (payload : Option Json)
    (d : Option String) (w : World) (id : String) :
    Passed ((RouterCommands.enqueueCommand g type payload d).run w).2 id ↔ Passed w id := by
  have hst : ∀ id now, RouterCommand.status
      ⟨id, g, d, type, payload.map stringify, .pending, none, now, none, none⟩ = .pending :=
    fun _ _ => rfl
  rcases status_create RouterCommand.status (m := .routerCommand) (fun _ _ => rfl) hst w id with
    hsame | ⟨hnone, hnew⟩
  · exact passed_congr hsame
  · constructor
    · rintro ⟨st, hst, hne⟩
      exact absurd (Option.some.inj (hst.symm.trans hnew)) hne
    · rintro ⟨st, hst, -⟩
      exact absurd (hst.symm.trans hnone) (by simp)

theorem settled_step {s : State} {e : Event} (hs : Settled s)
    (hother : ∀ f, e = .other f → ∀ w, (f w).db.routerCommands = w.db.routerCommands) :
    Settled (step s e) := by
  intro id
  cases e with
  | enqueue g type payload d =>
    change Passed _ id ↔ id ∈ s.handed ∨ id ∈ s.acknowledged
    rw [← hs id]
    exact passed_enqueue g type payload d s.world id
  | poll g =>
    obtain ⟨cs, w', hrun, hids, hstatus⟩ := run_poll g s.world
    have hstep : step s (.poll g) = { s with world := w', flight := s.flight ++ [cs] } := by
      simp only [step, hrun]
    rw [hstep]
    have hhanded : id ∈ ({ s with world := w', flight := s.flight ++ [cs] } : State).handed ↔
        id ∈ cs.map RouterCommand.id ∨ id ∈ s.handed := by
      simp only [State.handed, List.flatten_append, List.flatten_singleton, List.map_append,
        List.mem_append]
      tauto
    change Passed w' id ↔ _ ∨ id ∈ s.acknowledged
    rw [hhanded, or_assoc, ← hs id]
    by_cases hid : id ∈ cs.map RouterCommand.id
    · -- a listed command has a row, which is now `DELIVERED`
      obtain ⟨c, hc, rfl⟩ := List.mem_map.mp (hids ▸ hid)
      have hrow : routerStatus s.world c.id = some c.status := by
        rw [routerStatus, Table.find_key (mem_pendingFor.mp hc).1, Option.map_some]
      refine iff_of_true ⟨.delivered, ?_, by simp⟩ (.inl hid)
      rw [hstatus, if_pos hid, hrow, Option.map_some]
    · have hsame : routerStatus w' id = routerStatus s.world id := by
        rw [hstatus, if_neg hid]
      rw [passed_congr hsame]
      exact (or_iff_right hid).symm
  | arrive n =>
    rw [handed_arrive]
    exact hs id
  | lose n =>
    rw [handed_lose]
    exact hs id
  | ack g c success data =>
    rcases run_ack g c success data s.world with ⟨e, w', hrun, hstatus⟩ |
      ⟨a, w', st, hrun, hst, hstatus⟩
    · have hstep : step s (.ack g c success data) = { s with world := w' } := by
        simp only [step, hrun]
      rw [hstep]
      exact (passed_congr (hstatus id)).trans (hs id)
    · have hstep : step s (.ack g c success data) =
          { s with world := w', acknowledged := c :: s.acknowledged } := by
        simp only [step, hrun]
      rw [hstep]
      change Passed w' id ↔ id ∈ s.handed ∨ id ∈ c :: s.acknowledged
      by_cases hid : id = c
      · refine iff_of_true ⟨st, ?_, hst⟩ (.inr (by simp [hid]))
        rw [hstatus, if_pos hid]
      · rw [List.mem_cons, or_iff_right hid, ← hs id]
        exact passed_congr (by rw [hstatus, if_neg hid])
  | other f =>
    refine (passed_congr ?_).trans (hs id)
    change routerStatus (f s.world) id = _
    rw [routerStatus, hother f rfl s.world, routerStatus]

theorem settled_run {w : World} (hstart : ∀ c ∈ w.db.routerCommands.rows, c.status = .pending) :
    ∀ {es : List Event}, Elsewhere es → Settled (run w es) := by
  intro es
  induction es using List.reverseRecOn with
  | nil =>
    intro _ id
    refine iff_of_false ?_ (by simp [run, State.handed])
    rintro ⟨st, hst, hne⟩
    obtain ⟨c, hc, rfl⟩ := Option.map_eq_some_iff.mp hst
    exact hne (hstart c (Table.mem_of_find hc))
  | append_singleton es e ih =>
    intro hother
    rw [run, List.foldl_append]
    refine settled_step (ih fun f hf => hother f (by simp [hf])) fun f hf => ?_
    exact hother f (by simp [hf])

/-- The next poll of the gateway lists the command. -/
def NextPoll (s : State) (c : RouterCommand) : Prop :=
  ∃ cs, ((RouterCommands.getPendingCommands c.gatewayId).run s.world).1 = .ok cs ∧
    c.id ∈ cs.map RouterCommand.id

theorem nextPoll_iff_pending {s : State} {c : RouterCommand}
    (hc : c ∈ s.world.db.routerCommands.rows) : NextPoll s c ↔ c.status = .pending := by
  obtain ⟨cs, w', hrun, hids, -⟩ := run_poll c.gatewayId s.world
  rw [← id_mem_pendingFor hc, ← hids, NextPoll, hrun]
  constructor
  · rintro ⟨cs', hcs, hmem⟩
    obtain rfl := Except.ok.inj hcs
    exact hmem
  · exact fun hmem => ⟨cs, rfl, hmem⟩

/-- **What the next poll lists.** After any events, in any order, a command that its agent has
neither received nor acknowledged is in the answer of the next poll of its gateway exactly when no
answer that lists it was lost, and none is still on its way. -/
theorem next_poll_iff {w : World} (hstart : ∀ c ∈ w.db.routerCommands.rows, c.status = .pending)
    {es : List Event} (hother : Elsewhere es) {c : RouterCommand}
    (hc : c ∈ (run w es).world.db.routerCommands.rows) (hreceived : c.id ∉ (run w es).received)
    (hack : c.id ∉ (run w es).acknowledged) :
    NextPoll (run w es) c ↔
      c.id ∉ (run w es).lost ∧ ∀ cs ∈ (run w es).flight, c.id ∉ cs.map RouterCommand.id := by
  have hsettled := settled_run hstart hother c.id
  have hpassed : Passed (run w es).world c.id ↔ c.status ≠ .pending := by
    rw [Passed, routerStatus, Table.find_key hc, Option.map_some]
    constructor
    · rintro ⟨st, hst, hne⟩
      rwa [Option.some.inj hst]
    · exact fun hne => ⟨c.status, rfl, hne⟩
  have hflight : c.id ∈ (run w es).flight.flatten.map RouterCommand.id ↔
      ∃ cs ∈ (run w es).flight, c.id ∈ cs.map RouterCommand.id := by
    simp only [List.mem_map, List.mem_flatten]
    constructor
    · rintro ⟨c', ⟨cs, hcs, hc'⟩, hid⟩
      exact ⟨cs, hcs, c', hc', hid⟩
    · rintro ⟨cs, hcs, c', hc', hid⟩
      exact ⟨c', ⟨cs, hcs, hc'⟩, hid⟩
  rw [hpassed, State.handed, List.mem_append, List.mem_append, hflight] at hsettled
  rw [nextPoll_iff_pending hc, ← not_iff_not, ← ne_eq, hsettled]
  simp only [hreceived, hack, or_false, not_and_or, not_not, not_forall, exists_prop]
  exact or_comm

/-! ### A lost answer -/

/-- The households, without commands. -/
def start : World := .fresh (Household.withDevices [] List.nodup_nil) 0

theorem pending_start : ∀ c ∈ start.db.routerCommands.rows, c.status = .pending := by
  intro c hc
  cases hc

/-- A command for the gateway `ga`. -/
def detect : Event := .enqueue "ga" .detect none none

/-- The first answer arrives and a second command follows. -/
def arrived : List Event := [detect, .poll "ga", .arrive 0, detect]

/-- The first answer is lost. -/
def lossy : List Event := [detect, .poll "ga", .lose 0]

theorem next_poll_arrived :
    ∃ c ∈ (run start arrived).world.db.routerCommands.rows, NextPoll (run start arrived) c := by
  let c : RouterCommand :=
    ⟨"uuid-3-0", "ga", none, .detect, none, .pending, none, 0, none, none⟩
  have hc : c ∈ (run start arrived).world.db.routerCommands.rows := by decide +kernel
  refine ⟨c, hc, (next_poll_iff pending_start ?_ hc (by decide +kernel) (by decide +kernel)).mpr
    ⟨by decide +kernel, by decide +kernel⟩⟩
  intro f hf
  simp [arrived, detect] at hf

/-- The answer is lost, and the next poll does not list the command. -/
theorem lost_for_good : ¬ ∀ (w : World) (es : List Event),
    (∀ c ∈ w.db.routerCommands.rows, c.status = .pending) → Elsewhere es →
    ∀ c ∈ (run w es).world.db.routerCommands.rows, c.id ∉ (run w es).received →
      c.id ∉ (run w es).acknowledged → NextPoll (run w es) c := by
  intro h
  let c : RouterCommand :=
    ⟨"uuid-0-0", "ga", none, .detect, none, .delivered, none, 0, some 0, none⟩
  have hc : c ∈ (run start lossy).world.db.routerCommands.rows := by decide +kernel
  obtain ⟨cs, hcs, hmem⟩ := h start lossy pending_start (fun f hf => by simp [lossy, detect] at hf)
    c hc (by decide +kernel) (by decide +kernel)
  have hnil : ((RouterCommands.getPendingCommands "ga").run (run start lossy).world).1 =
      .ok [] := by
    decide +kernel
  obtain rfl := Except.ok.inj (hcs.symm.trans hnil)
  cases hmem

end GuardTime.Commands.Durability
