import Mathlib.Tactic
import GuardTime.Calls

/-! # Polled command tables

Two services hand commands over in the same way: a poll lists the `PENDING` rows and then marks the
listed rows `DELIVERED`, an acknowledgement looks its row up and then overwrites its status. Between
the two calls of either, other requests may run.

* `Channel`: the statuses a table shows, and the points at which a program writes them;
* `Plays`: all other calls of a program leave the statuses alone, or add a `PENDING` command;
* `exec_cases`: what one move of a pool of such programs does to statuses and answers;
* `forward_of_orderly`, `once_of_orderly`: when every mark finds its rows `PENDING`, and every
  acknowledgement finds its row `DELIVERED` or as it leaves it, statuses only move forward and no
  command is handed over twice. -/

namespace GuardTime.Commands.Polling

open GuardTime.Lib.Program GuardTime.Lib.Interleave GuardTime.Lib.Keyed GuardTime.Lib.Js
open GuardTime.Schema GuardTime.Server GuardTime.Prisma

/-! ### Channels -/

/-- A table of commands as polls and acknowledgements see it. `Mark` and `Ack` are the programs that
are about to write. -/
structure Channel (α : Type) where
  look : World → String → Option CommandStatus
  hands : α → List String
  Mark : List String → Api α → Prop
  Ack : String → CommandStatus → Api α → Prop
  look_mark : ∀ {ids u k}, Mark ids (.act u k) → ∀ w id,
    look (u w) id = if id ∈ ids then (look w id).map fun _ => .delivered else look w id
  hands_mark : ∀ {ids u k}, Mark ids (.act u k) → ∀ w, ∃ a, k w = .ret (.ok a) ∧ hands a = ids
  look_ack : ∀ {c status u k}, Ack c status (.act u k) → ∀ w id,
    look (u w) id = if id = c then (look w id).map fun _ => status else look w id
  ack_ne : ∀ {c status p}, Ack c status p → status ≠ .pending

/-- A status stays, appears as `PENDING`, or moves one step forward. -/
inductive Forward : Option CommandStatus → Option CommandStatus → Prop
  | same {s} : Forward s s
  | create : Forward none (some .pending)
  | deliver : Forward (some .pending) (some .delivered)
  | acknowledge : Forward (some .delivered) (some .acknowledged)
  | fail : Forward (some .delivered) (some .failed)

variable {α : Type} (ch : Channel α)

namespace Channel

/-- Statuses stay, or appear as `PENDING`. -/
def Calm (w w' : World) : Prop :=
  ∀ id, ch.look w' id = ch.look w id ∨ ch.look w id = none ∧ ch.look w' id = some .pending

/-- Every call of the program is calm, up to where it marks commands; it may also acknowledge.
Without a mark it hands nothing over. -/
def Plays : Api α → Prop
  | .ret r => ∀ a, r = .ok a → ch.hands a = []
  | .act u k => (∃ ids, ch.Mark ids (.act u k)) ∨
    (((∃ c s, ch.Ack c s (.act u k)) ∨ ∀ w, ch.Calm w (u w)) ∧ ∀ w, Plays (k w))

/-- The commands an outcome hands over. -/
def handsOf : Api α → List String
  | .ret (.ok a) => ch.hands a
  | _ => []

/-! ### Programs -/

section Plays
variable {ch} {β : Type}

theorem Plays.pure {a : α} (h : ch.hands a = []) : ch.Plays (pure a) := by
  rintro a' ⟨⟩
  exact h

theorem Plays.mark {p : Api α} {u : World → World} {k : World → Api α} {ids : List String}
    (hp : p = .act u k) (h : ch.Mark ids p) : ch.Plays p := by
  subst hp
  exact .inl ⟨ids, h⟩

/-- Calm calls first. -/
theorem Plays.bind {p : Api β} {f : β → Api α} (hp : Calls ch.Calm p) (hf : ∀ b, ch.Plays (f b)) :
    ch.Plays (p >>= f) := by
  induction p with
  | ret r =>
    cases r with
    | ok b => exact hf b
    | error e => rintro a ⟨⟩
  | act u k ih => exact .inr ⟨.inr fun w => (hp w).1, fun w => ih w (hp w).2⟩

/-- An acknowledgement first. -/
theorem Plays.ack {f : World → Except Err β × World} {g : β → Api α} {c : String}
    {s : CommandStatus} (h : ch.Ack c s (Prog.call f >>= g)) (hg : ∀ b, ch.Plays (g b)) :
    ch.Plays (Prog.call f >>= g) := by
  refine .inr ⟨.inl ⟨c, s, h⟩, fun w => ?_⟩
  change ch.Plays ((Prog.ret (f w).1 : Api β).bind g)
  rcases (f w).1 with e | b
  · rintro a ⟨⟩
  · exact hg b

end Plays

end Channel

/-! ### Tables -/

section Table
variable {ρ : Type} {key : ρ → String} {st : ρ → CommandStatus} {t t' : Table key}

theorem status_modify {ids : List String} {f : ρ → ρ} (hf : ∀ r, key (f r) = key r)
    (hst : ∀ r, st (f r) = .delivered) (id : String) :
    ((t.modify (fun r => key r ∈ ids) f hf).find id).map st =
      if id ∈ ids then ((t.find id).map st).map fun _ => .delivered else (t.find id).map st := by
  rw [Table.find_modify]
  rcases hr : t.find id with _ | r
  · simp
  · have hkey := Table.key_of_find hr
    by_cases hid : id ∈ ids
    · simp [hkey, hid, hst]
    · simp [hkey, hid]

theorem status_patch {m : Model key} {now : Time} {c : String} {f : ρ → ρ} {s : CommandStatus}
    (hf : ∀ r, key (f r) = key r) (hst : ∀ r, st (m.touch now (f r)) = s) (id : String) :
    ((m.patch t now c f hf).find id).map st =
      if id = c then ((t.find id).map st).map fun _ => s else (t.find id).map st := by
  rw [Model.find_patch]
  rcases hr : t.find id with _ | r
  · simp
  · have hkey := Table.key_of_find hr
    by_cases hid : id = c
    · simp [hkey, hid, hst]
    · simp [hkey, hid]

/-- An update of one row, also where there is none. -/
theorem status_update {m : Model key} (hget : ∀ db t, m.get (m.set db t) = t) {c : String}
    {f : ρ → ρ} {s : CommandStatus} {hf : ∀ r, key (f r) = key r}
    (hu : ∀ r, m.uniques (f r) = m.uniques r) (hl : ∀ r, m.links (f r) = m.links r)
    (hst : ∀ now r, st (m.touch now (f r)) = s) (w : World) (id : String) :
    ((m.get ((Prisma.update m c f hf).run w).2.db).find id).map st =
      if id = c then (((m.get w.db).find id).map st).map fun _ => s
      else ((m.get w.db).find id).map st := by
  rcases hr : (m.get w.db).find c with _ | r
  · rw [run_update_none hr, afterCall_db]
    by_cases hid : id = c
    · simp [hid, hr]
    · rw [if_neg hid]
  · rw [run_update hr (hu r) (hl r)]
    simp only [afterCall_db, hget]
    exact status_patch hf (hst _) id

/-- A creation: the new row is `PENDING`, the others are as before. -/
theorem status_create (st : ρ → CommandStatus) {m : Model key}
    (hget : ∀ db t, m.get (m.set db t) = t)
    {mk : String → Time → ρ} (hst : ∀ id now, st (mk id now) = .pending) (w : World) (id : String) :
    ((m.get ((Prisma.create m mk).run w).2.db).find id).map st = ((m.get w.db).find id).map st ∨
      ((m.get w.db).find id).map st = none ∧
        ((m.get ((Prisma.create m mk).run w).2.db).find id).map st = some .pending := by
  rcases run_create_cases m mk w with ⟨e, h⟩ | ⟨t, ht, h⟩ <;> rw [h]
  · exact .inl rfl
  · simp only [afterCall_db, hget]
    by_cases hid : key (mk (w.uuids w.calls 0) w.now) = id
    · subst hid
      refine .inr ⟨?_, by rw [Table.find_insert ht, Option.map_some, hst]⟩
      rw [Option.map_eq_none_iff, Table.find_eq_none]
      exact (Table.insert_eq_some ht).1
    · rw [Table.find_insert_of_ne ht hid]
      exact .inl rfl

end Table

/-! ### Pools -/

section Pool
variable {τ : Type} {body : ℕ → τ → Api α}

/-- The commands thread `i` has handed over. -/
def handed (P : Pool τ World Err α) (i : ℕ) : List String :=
  match P.prog i with
  | some p => ch.handsOf p
  | none => []

/-- Every thread of the pool plays by the channel, or has returned. -/
def Fair (P : Pool τ World Err α) : Prop :=
  ∀ i p, P.prog i = some p → ch.Plays p ∨ ∃ r, p = .ret r

/-- What one move does to the statuses and to what has been handed over. -/
inductive Step (P : Pool τ World Err α) : Move τ World → Pool τ World Err α → Prop
  | calm {m : Move τ World} {P' : Pool τ World Err α} (hl : ch.Calm P.state P'.state)
    (hh : ∀ j, handed ch P' j = handed ch P j) : Step P m P'
  | mark {i : ℕ} {ids : List String} {p : Api α} {P' : Pool τ World Err α}
    (hp : P.prog i = some p) (hm : ch.Mark ids p)
    (hl : ∀ id, ch.look P'.state id =
      if id ∈ ids then (ch.look P.state id).map fun _ => .delivered else ch.look P.state id)
    (hi : handed ch P i = []) (hi' : handed ch P' i = ids)
    (hh : ∀ j, j ≠ i → handed ch P' j = handed ch P j) : Step P (.call i) P'
  | ack {i : ℕ} {c : String} {s : CommandStatus} {p : Api α} {P' : Pool τ World Err α}
    (hp : P.prog i = some p) (ha : ch.Ack c s p)
    (hl : ∀ id, ch.look P'.state id =
      if id = c then (ch.look P.state id).map fun _ => s else ch.look P.state id)
    (hh : ∀ j, handed ch P' j = handed ch P j) : Step P (.call i) P'

variable {ch} {P P' : Pool τ World Err α} {m : Move τ World}

theorem handsOf_plays {p : Api α} (h : ch.Plays p) : ch.handsOf p = [] := by
  rcases p with (e | a) | ⟨u, k⟩
  · rfl
  · exact h a rfl
  · rfl

theorem handed_update {i : ℕ} {p : Api α} (hp : P'.prog = Function.update P.prog i (some p))
    (hi : handed ch P i = ch.handsOf p) (j : ℕ) : handed ch P' j = handed ch P j := by
  by_cases hj : j = i
  · subst hj
    rw [hi, handed, hp, Function.update_self]
  · rw [handed, hp, Function.update_of_ne hj, handed]

/-- **One move of a pool** whose threads play by the channel. -/
theorem step_of_fair (hbody : ∀ i t, ch.Plays (body i t)) (hfair : Fair ch P)
    (hother : ∀ f, m = .other f → ch.Calm P.state (f P.state)) (hm : P.Moves body m P') :
    Fair ch P' ∧ Step ch P m P' := by
  have hsame : ∀ w, ch.Calm w w := fun _ _ => .inl rfl
  cases hm with
  | @start t i _ hi hs hp =>
    refine ⟨fun j p hj => ?_, .calm (hs ▸ hsame _) (handed_update hp ?_)⟩
    · rw [hp] at hj
      by_cases hji : j = i
      · subst hji
        rw [Function.update_self] at hj
        exact .inl (Option.some.inj hj ▸ hbody _ t)
      · rw [Function.update_of_ne hji] at hj
        exact hfair j p hj
    · rw [handed, hi, handsOf_plays (hbody i t)]
  | @call i u k _ hi hs hp =>
    have hothers : ∀ {q}, (ch.Plays (k P.state) ∨ ∃ r, k P.state = .ret r) →
        ∀ j, P'.prog j = some q → ch.Plays q ∨ ∃ r, q = .ret r := by
      intro q hk j hj
      rw [hp] at hj
      by_cases hji : j = i
      · subst hji
        rw [Function.update_self] at hj
        exact Option.some.inj hj ▸ hk
      · rw [Function.update_of_ne hji] at hj
        exact hfair j q hj
    have hnone : handed ch P i = [] := by rw [handed, hi]; rfl
    rcases hfair i _ hi with hplays | ⟨r, hr⟩
    · rcases hplays with ⟨ids, hmark⟩ | ⟨hact, hk⟩
      · obtain ⟨a, ha, hhands⟩ := ch.hands_mark hmark P.state
        refine ⟨fun j q => hothers (.inr ⟨_, ha⟩) j, .mark hi hmark ?_ hnone ?_ fun j hj => ?_⟩
        · rw [hs]
          exact ch.look_mark hmark P.state
        · rw [handed, hp, Function.update_self, ha]
          exact hhands
        · rw [handed, hp, Function.update_of_ne hj, handed]
      · have hh : ∀ j, handed ch P' j = handed ch P j :=
          handed_update hp (by rw [hnone, handsOf_plays (hk P.state)])
        refine ⟨fun j q => hothers (.inl (hk P.state)) j, ?_⟩
        rcases hact with ⟨c, s, hack⟩ | hcalm
        · refine .ack hi hack ?_ hh
          rw [hs]
          exact ch.look_ack hack P.state
        · exact .calm (hs ▸ hcalm P.state) hh
    · cases hr
  | idle => exact ⟨hfair, .calm (hsame _) fun _ => rfl⟩
  | other hs hp =>
    refine ⟨fun j p hj => hfair j p (hp ▸ hj), .calm (hs ▸ hother _ rfl) fun j => ?_⟩
    rw [handed, hp, handed]

/-! ### Orderly moves -/

variable (ch) in
/-- The move does not find its commands changed: a mark finds them `PENDING`, an acknowledgement
finds its command `DELIVERED`, already with the status it writes, or gone. -/
def Orderly (P : Pool τ World Err α) (m : Move τ World) : Prop :=
  ∀ i p, m = .call i → P.prog i = some p →
    (∀ ids, ch.Mark ids p → ∀ id ∈ ids, ch.look P.state id = some .pending) ∧
    ∀ c s, ch.Ack c s p → ch.look P.state c ∈ [none, some .delivered, some s]

theorem Forward.of_calm {w w' : World} (h : ch.Calm w w') (id : String) :
    Forward (ch.look w id) (ch.look w' id) := by
  rcases h id with h | ⟨h, h'⟩
  · rw [h]
    exact .same
  · rw [h, h']
    exact .create

theorem forward_of_step (hstep : Step ch P m P') (ho : Orderly ch P m) (id : String) :
    Forward (ch.look P.state id) (ch.look P'.state id) := by
  cases hstep with
  | calm hl hh => exact .of_calm hl id
  | mark hp hm hl hi hi' hh =>
    rw [hl]
    split_ifs with hid
    · rw [(ho _ _ rfl hp).1 _ hm id hid]
      exact .deliver
    · exact .same
  | @ack i c s p _ hp ha hl hh =>
    rw [hl]
    split_ifs with hid
    · subst hid
      have hcur := (ho _ _ rfl hp).2 _ _ ha
      have hne := ch.ack_ne ha
      simp only [List.mem_cons, List.not_mem_nil, or_false] at hcur
      rcases hcur with hcur | hcur | hcur <;> rw [hcur]
      · exact .same
      · cases s
        · exact absurd rfl hne
        · exact .same
        · exact .acknowledge
        · exact .fail
      · exact .same
    · exact .same

/-- A status that is there and not `PENDING` stays so. -/
theorem Forward.settled {a b : Option CommandStatus} (h : Forward a b) (hn : a ≠ none)
    (hp : a ≠ some .pending) : b ≠ none ∧ b ≠ some .pending := by
  cases h with
  | same => exact ⟨hn, hp⟩
  | create => exact absurd rfl hn
  | deliver => exact absurd rfl hp
  | acknowledge => exact ⟨by simp, by simp⟩
  | fail => exact ⟨by simp, by simp⟩

variable (ch) in
/-- What has been handed over is no longer `PENDING`, and was handed over by one thread only. -/
structure Settled (P : Pool τ World Err α) : Prop where
  status : ∀ i, ∀ id ∈ handed ch P i, ch.look P.state id ≠ none ∧ ch.look P.state id ≠ some .pending
  once : ∀ i j, ∀ id ∈ handed ch P i, id ∈ handed ch P j → i = j

theorem Settled.step (h : Settled ch P) (hstep : Step ch P m P') (ho : Orderly ch P m) :
    Settled ch P' := by
  have hforward := forward_of_step hstep ho
  have hkept : ∀ i, ∀ id ∈ handed ch P i,
      ch.look P'.state id ≠ none ∧ ch.look P'.state id ≠ some .pending := fun i id hid =>
    (hforward id).settled (h.status i id hid).1 (h.status i id hid).2
  cases hstep with
  | calm hl hh =>
    exact ⟨fun i id hid => hkept i id (hh i ▸ hid), fun i j id hi hj =>
      h.once i j id (hh i ▸ hi) (hh j ▸ hj)⟩
  | ack hp ha hl hh =>
    exact ⟨fun i id hid => hkept i id (hh i ▸ hid), fun i j id hi hj =>
      h.once i j id (hh i ▸ hi) (hh j ▸ hj)⟩
  | @mark i ids p _ hp hm hl hi hi' hh =>
    have hpending := (ho _ _ rfl hp).1 _ hm
    -- nobody else has handed the marked commands over: they were still pending
    have hothers : ∀ j, j ≠ i → ∀ id ∈ handed ch P' j, id ∉ ids := by
      intro j hj id hid hmem
      rw [hh j hj] at hid
      exact (h.status j id hid).2 (hpending id hmem)
    refine ⟨fun j id hid => ?_, fun j j' id hid hid' => ?_⟩
    · by_cases hj : j = i
      · subst hj
        rw [hi'] at hid
        rw [hl, if_pos hid, hpending id hid]
        exact ⟨by simp, by simp⟩
      · rw [hh j hj] at hid
        exact hkept j id hid
    · by_cases hj : j = i
      · subst hj
        rw [hi'] at hid
        by_contra hne
        exact hothers j' (Ne.symm hne) id hid' hid
      · by_cases hj' : j' = i
        · subst hj'
          rw [hi'] at hid'
          exact absurd hid' (hothers j hj id hid)
        · rw [hh j hj] at hid
          rw [hh j' hj'] at hid'
          exact h.once j j' id hid hid'

end Pool

/-! ### Runs -/

section Run
variable {ch} {τ : Type} {body : ℕ → τ → Api α} {w : World} {moves : ℕ → Move τ World}

theorem fair_idle : Fair ch (.idle w : Pool τ World Err α) := by
  intro i p hi
  simp [Pool.idle, Pool.prog] at hi

theorem settled_idle : Settled ch (.idle w : Pool τ World Err α) := by
  constructor
  · intro i id hid
    simp [handed, Pool.idle, Pool.prog] at hid
  · intro i j id hid
    simp [handed, Pool.idle, Pool.prog] at hid

variable (hbody : ∀ i t, ch.Plays (body i t))
  (hother : ∀ n f, moves n = .other f → ∀ w, ch.Calm w (f w))
include hbody hother

theorem fair_after (n : ℕ) : Fair ch ((Pool.idle w).after body moves n) := by
  induction n with
  | zero => exact fair_idle
  | succ n ih =>
    exact (step_of_fair hbody ih (fun f hf => hother n f hf _) (Pool.exec_moves body _ _)).1

theorem step_after (n : ℕ) : Step ch ((Pool.idle w).after body moves n) (moves n)
    ((Pool.idle w).after body moves (n + 1)) :=
  (step_of_fair hbody (fair_after hbody hother n) (fun f hf => hother n f hf _)
    (Pool.exec_moves body _ _)).2

/-- **Statuses move forward** in a run of orderly moves. -/
theorem forward_of_orderly
    (ho : ∀ n, Orderly ch ((Pool.idle w).after body moves n) (moves n)) (n : ℕ) (id : String) :
    Forward (ch.look ((Pool.idle w).after body moves n).state id)
      (ch.look ((Pool.idle w).after body moves (n + 1)).state id) :=
  forward_of_step (step_after hbody hother n) (ho n) id

/-- **No command is handed over twice** in a run of orderly moves. -/
theorem once_of_orderly
    (ho : ∀ n, Orderly ch ((Pool.idle w).after body moves n) (moves n)) (n : ℕ) :
    Settled ch ((Pool.idle w).after body moves n) := by
  induction n with
  | zero => exact settled_idle
  | succ n ih => exact ih.step (step_after hbody hother n) (ho n)

end Run

end GuardTime.Commands.Polling
