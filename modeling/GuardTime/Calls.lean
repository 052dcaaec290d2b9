import Mathlib.Tactic
import GuardTime.Footprint
import GuardTime.Lib.Interleave

/-! # What single database calls do

Rules for `Calls`: every call of a program is in a relation between the worlds before and after it.
A relation that says nothing about a table (`Ignores`) holds of every call on it. -/

namespace GuardTime.Prisma

open GuardTime.Lib.Program GuardTime.Lib.Interleave GuardTime.Lib.Keyed GuardTime.Lib.Js
open GuardTime.Schema GuardTime.Server

section Calls
variable {ρ α : Type} {key : ρ → String} {m : Model key} {R : World → World → Prop}

/-- The relation holds of a call that writes nothing. -/
def Idle (R : World → World → Prop) : Prop := ∀ w, R w (World.afterCall w w.db)

/-- The relation says nothing about the table of `m`. -/
def Ignores (m : Model key) (R : World → World → Prop) : Prop :=
  ∀ w t, R w (World.afterCall w (m.set w.db t))

theorem calls_query (hI : Idle R) (f : Database → ℕ → α) : Calls R (query f) := .call hI

theorem calls_newDate (hR : ∀ w, R w w) : Calls R newDate := .call hR

theorem calls_randomUUID (hI : Idle R) : Calls R randomUUID := .call hI

theorem calls_create (hI : Idle R) {mk : String → Time → ρ}
    (h : ∀ w t, (m.get w.db).insert (mk (w.uuids w.calls 0) w.now) = some t →
      R w (World.afterCall w (m.set w.db t))) : Calls R (create m mk) := by
  refine .call fun w => ?_
  have hrun := run_create_cases m mk w
  rw [create, run_dbCall] at hrun
  rcases hrun with ⟨e, hrun⟩ | ⟨t, ht, hrun⟩ <;> rw [hrun]
  · exact hI w
  · exact h w t ht

theorem calls_update (hI : Idle R) {k : String} {f : ρ → ρ} {hf : ∀ r, key (f r) = key r}
    (h : ∀ w r, (m.get w.db).find k = some r →
      R w (World.afterCall w (m.set w.db (m.patch (m.get w.db) w.now k f hf)))) :
    Calls R (update m k f hf) := by
  refine .call fun w => ?_
  have hrun := run_update_cases m k f hf w
  rw [update, run_dbCall] at hrun
  rcases hrun with ⟨e, hrun⟩ | ⟨r, hr, hrun⟩ <;> rw [hrun]
  · exact hI w
  · exact h w r hr

variable (hI : Idle R) (hm : Ignores m R)
include hI hm

theorem Ignores.create (mk : String → Time → ρ) : Calls R (Prisma.create m mk) :=
  calls_create hI fun w t _ => hm w t

theorem Ignores.update (k : String) (f : ρ → ρ) (hf : ∀ r, key (f r) = key r) :
    Calls R (Prisma.update m k f hf) := calls_update hI fun w _ _ => hm w _

omit hI in
theorem Ignores.updateMany (p : ρ → Bool) (f : ρ → ρ) (hf : ∀ r, key (f r) = key r) :
    Calls R (Prisma.updateMany m p f hf) := .call fun w => hm w _

omit hI in
theorem Ignores.deleteMany (p : ρ → Bool) : Calls R (Prisma.deleteMany m p) := .call fun w => hm w _

theorem Ignores.upsert (p : ρ → Bool) (f : ρ → ρ) (mk : String → Time → ρ)
    (hf : ∀ r, key (f r) = key r) : Calls R (Prisma.upsert m p f mk hf) := by
  refine .call fun w => ?_
  have hrun := run_upsert_cases m p f mk hf w
  rw [Prisma.upsert, run_dbCall] at hrun
  rcases hrun with ⟨e, hrun⟩ | ⟨r, -, hrun⟩ | ⟨t, -, -, hrun⟩ <;> rw [hrun]
  · exact hI w
  · exact hm w _
  · exact hm w t

end Calls

/-! ### Local states -/

section Follows
variable {ρ α Q : Type} {key : ρ → String} {m : Model key} {q : Q}
  {S : (World → World) → Q → World → Q → Prop}

/-- A creation is refused, or inserts the row. -/
theorem follows_create {E : Q → Except Err ρ → Prop} {mk : String → Time → ρ}
    (herror : ∀ u w e, u w = World.afterCall w w.db → ∃ q', S u q w q' ∧ E q' (.error e))
    (hok : ∀ u w t, (m.get w.db).insert (mk (w.uuids w.calls 0) w.now) = some t →
      u w = World.afterCall w (m.set w.db t) →
      ∃ q', S u q w q' ∧ E q' (.ok (mk (w.uuids w.calls 0) w.now))) :
    Follows S E (create m mk) q := by
  intro w
  change ∃ q', S (fun w => ((create m mk).run w).2) q w q' ∧ E q' ((create m mk).run w).1
  rcases run_create_cases m mk w with ⟨e, hrun⟩ | ⟨t, ht, hrun⟩
  · rw [hrun]
    exact herror _ w e (by rw [hrun])
  · rw [hrun]
    exact hok _ w t ht (by rw [hrun])

/-- An update is refused, or writes the row. -/
theorem follows_update {E : Q → Except Err ρ → Prop} {k : String} {f : ρ → ρ}
    {hf : ∀ r, key (f r) = key r}
    (herror : ∀ w e, ((update m k f hf).run w).2 = World.afterCall w w.db →
      ∃ q', S (fun w => ((update m k f hf).run w).2) q w q' ∧ E q' (.error e))
    (hok : ∀ w r, (m.get w.db).find k = some r → ((update m k f hf).run w).2 =
        World.afterCall w (m.set w.db (m.patch (m.get w.db) w.now k f hf)) →
      ∃ q', S (fun w => ((update m k f hf).run w).2) q w q' ∧ E q' (.ok (m.touch w.now (f r)))) :
    Follows S E (update m k f hf) q := by
  intro w
  change ∃ q', S (fun w => ((update m k f hf).run w).2) q w q' ∧ E q' ((update m k f hf).run w).1
  rcases run_update_cases m k f hf w with ⟨e, hrun⟩ | ⟨r, hr, hrun⟩
  · rw [hrun]
    exact herror w e (by rw [hrun])
  · rw [hrun]
    exact hok w r hr (by rw [hrun])

/-- An upsert is refused, writes the row it finds, or inserts the new one. -/
theorem follows_upsert {E : Q → Except Err ρ → Prop} {p : ρ → Bool} {f : ρ → ρ}
    {mk : String → Time → ρ} {hf : ∀ r, key (f r) = key r}
    (herror : ∀ w e, ((upsert m p f mk hf).run w).2 = World.afterCall w w.db →
      ∃ q', S (fun w => ((upsert m p f mk hf).run w).2) q w q' ∧ E q' (.error e))
    (hfound : ∀ w r, (m.get w.db).rows.find? p = some r → ((upsert m p f mk hf).run w).2 =
        World.afterCall w (m.set w.db (m.patch (m.get w.db) w.now (key r) f hf)) →
      ∃ q', S (fun w => ((upsert m p f mk hf).run w).2) q w q' ∧ E q' (.ok (m.touch w.now (f r))))
    (hnew : ∀ w t, (m.get w.db).rows.find? p = none →
      (m.get w.db).insert (mk (w.uuids w.calls 0) w.now) = some t →
      ((upsert m p f mk hf).run w).2 = World.afterCall w (m.set w.db t) →
      ∃ q', S (fun w => ((upsert m p f mk hf).run w).2) q w q' ∧
        E q' (.ok (mk (w.uuids w.calls 0) w.now))) :
    Follows S E (upsert m p f mk hf) q := by
  intro w
  change ∃ q', S (fun w => ((upsert m p f mk hf).run w).2) q w q' ∧
    E q' ((upsert m p f mk hf).run w).1
  rcases run_upsert_cases m p f mk hf w with ⟨e, hrun⟩ | ⟨r, hr, hrun⟩ | ⟨t, hp, ht, hrun⟩
  · rw [hrun]
    exact herror w e (by rw [hrun])
  · rw [hrun]
    exact hfound w r hr (by rw [hrun])
  · rw [hrun]
    exact hnew w t hp ht (by rw [hrun])

end Follows

end GuardTime.Prisma
