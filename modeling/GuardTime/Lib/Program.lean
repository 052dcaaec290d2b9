import Mathlib.Tactic

/-! # Programs over a shared state

A program either has finished, with a value or an error, or makes one *call*: an atomic step that
reads the shared state and replaces it. `run` executes a program alone; `Interleave` runs several,
one call at a time. What a program has written stays when it ends in an error: only `transaction`
takes writes back.

* one-run reasoning: `Triple`, `Keeps` (the program preserves a property of the state);
* two-run reasoning: `Respects` (equal results, and related states stay related). -/

namespace GuardTime.Lib.Program

/-- A program over states `σ` with errors `ε` and result `α`: finished, or one call that updates the
state by `upd` and continues with what it read. -/
inductive Prog (σ ε α : Type) where
  | ret (r : Except ε α)
  | act (upd : σ → σ) (k : σ → Prog σ ε α)

namespace Prog

variable {σ ε α β γ : Type}

/-- Sequencing; an error ends the whole program. -/
def bind : Prog σ ε α → (α → Prog σ ε β) → Prog σ ε β
  | ret (.ok a), f => f a
  | ret (.error e), _ => ret (.error e)
  | act u k, f => act u fun s => (k s).bind f

instance : Monad (Prog σ ε) where
  pure a := ret (.ok a)
  bind := bind

/-- Stop with an error. -/
def throw (e : ε) : Prog σ ε α := ret (.error e)

/-- One atomic call, which may fail. -/
def call (f : σ → Except ε α × σ) : Prog σ ε α := act (fun s => (f s).2) fun s => ret (f s).1

/-- A call that only reads. -/
def read (f : σ → α) : Prog σ ε α := call fun s => (.ok (f s), s)

/-- A call that only writes. -/
def write (f : σ → σ) : Prog σ ε Unit := call fun s => (.ok (), f s)

/-- `if (!c) throw e`. -/
def require (c : Prop) [Decidable c] (e : ε) : Prog σ ε Unit := if c then pure () else throw e

/-- `if (c) p`. -/
def when (c : Prop) [Decidable c] (p : Prog σ ε Unit) : Prog σ ε Unit := if c then p else pure ()

/-- The value, or `throw e` when there is none. -/
def orThrow : Option α → ε → Prog σ ε α
  | some a, _ => pure a
  | none, e => throw e

/-- `try p catch (e) { h e }`. -/
def catchErr : Prog σ ε α → (ε → Prog σ ε α) → Prog σ ε α
  | ret (.ok a), _ => ret (.ok a)
  | ret (.error e), h => h e
  | act u k, h => act u fun s => (k s).catchErr h

/-- `for (const b of bs) f b`. -/
def forEach : List β → (β → Prog σ ε Unit) → Prog σ ε Unit
  | [], _ => pure ()
  | b :: bs, f => do f b; forEach bs f

/-- `forEach` with an accumulator. -/
def foldEach : List β → γ → (γ → β → Prog σ ε γ) → Prog σ ε γ
  | [], c, _ => pure c
  | b :: bs, c, f => do let c' ← f c b; foldEach bs c' f

/-- Run a program alone: its outcome and the state it leaves. -/
def run : Prog σ ε α → σ → Except ε α × σ
  | ret r, s => (r, s)
  | act u k, s => (k s).run (u s)

theorem bind_assoc (p : Prog σ ε α) (f : α → Prog σ ε β) (g : β → Prog σ ε γ) :
    p >>= f >>= g = p >>= fun a => f a >>= g := by
  induction p with
  | ret r => cases r <;> rfl
  | act u k ih => exact congrArg (act u) (funext ih)

/-! ### Running the constructs -/

@[simp] theorem run_ret (r : Except ε α) (s : σ) : (ret r : Prog σ ε α).run s = (r, s) := rfl

@[simp] theorem run_pure (a : α) (s : σ) : (pure a : Prog σ ε α).run s = (.ok a, s) := rfl

@[simp] theorem run_throw (e : ε) (s : σ) : (throw e : Prog σ ε α).run s = (.error e, s) := rfl

@[simp] theorem run_call (f : σ → Except ε α × σ) (s : σ) : (call f).run s = f s := rfl

@[simp] theorem run_read (f : σ → α) (s : σ) : (read f : Prog σ ε α).run s = (.ok (f s), s) := rfl

@[simp] theorem run_write (f : σ → σ) (s : σ) :
    (write f : Prog σ ε Unit).run s = (.ok (), f s) := rfl

@[simp] theorem run_bind (p : Prog σ ε α) (f : α → Prog σ ε β) (s : σ) :
    (p >>= f).run s = match p.run s with
      | (.ok a, s') => (f a).run s'
      | (.error e, s') => (.error e, s') := by
  induction p generalizing s with
  | ret r => cases r <;> rfl
  | act u k ih => exact ih s (u s)

@[simp] theorem run_catchErr (p : Prog σ ε α) (h : ε → Prog σ ε α) (s : σ) :
    (p.catchErr h).run s = match p.run s with
      | (.ok a, s') => (.ok a, s')
      | (.error e, s') => (h e).run s' := by
  induction p generalizing s with
  | ret r => cases r <;> rfl
  | act u k ih => exact ih s (u s)

@[simp] theorem run_require (c : Prop) [Decidable c] (e : ε) (s : σ) :
    (require c e : Prog σ ε Unit).run s = (if c then .ok () else .error e, s) := by
  unfold require; split_ifs <;> rfl

/-- The answer that is made of a result. -/
theorem run_answer {p : Prog σ ε α} {f : α → β} {s : σ} {a : α} (h : (p.run s).1 = .ok a) :
    ((p >>= fun a => pure (f a)).run s).1 = .ok (f a) := by
  rcases hrun : p.run s with ⟨r, s'⟩
  rw [hrun] at h
  subst h
  rw [run_bind, hrun]
  rfl

theorem run_bind_ok {p : Prog σ ε α} {f : α → Prog σ ε β} {s s' : σ} {b : β} :
    (p >>= f).run s = (.ok b, s') ↔
      ∃ a s₁, p.run s = (.ok a, s₁) ∧ (f a).run s₁ = (.ok b, s') := by
  rw [run_bind]
  rcases p.run s with ⟨e | a, s₁⟩
  · simp
  · constructor
    · exact fun h => ⟨a, s₁, rfl, h⟩
    · rintro ⟨a', s₁', h, h'⟩
      cases h
      exact h'

theorem run_require_ok {c : Prop} [Decidable c] {e : ε} {s s' : σ} {u : Unit} :
    (require c e : Prog σ ε Unit).run s = (.ok u, s') ↔ c ∧ s' = s := by
  rw [run_require]
  split_ifs with h <;> simp [h, eq_comm]

theorem run_orThrow_ok {o : Option α} {e : ε} {s s' : σ} {a : α} :
    (orThrow o e : Prog σ ε α).run s = (.ok a, s') ↔ o = some a ∧ s' = s := by
  cases o <;> simp [orThrow, eq_comm]

@[simp] theorem run_orThrow_some (a : α) (e : ε) (s : σ) :
    (orThrow (some a) e : Prog σ ε α).run s = (.ok a, s) := rfl

@[simp] theorem run_orThrow_none (e : ε) (s : σ) :
    (orThrow none e : Prog σ ε α).run s = (.error e, s) := rfl

/-! ### One run: triples -/

/-- From a state with `P`, the program ends in a value with `Q` or in an error with `E`. -/
def Triple (P : σ → Prop) (p : Prog σ ε α) (Q : α → σ → Prop) (E : ε → σ → Prop) : Prop :=
  ∀ s, P s → match p.run s with
    | (.ok a, s') => Q a s'
    | (.error e, s') => E e s'

section Triple
variable {P P' : σ → Prop} {Q Q' : α → σ → Prop} {E E' : ε → σ → Prop}

theorem Triple.pure {a : α} (h : ∀ s, P s → Q a s) : Triple P (pure a) Q E := h

theorem Triple.throw {e : ε} (h : ∀ s, P s → E e s) : Triple P (throw e) Q E := h

theorem Triple.bind {p : Prog σ ε α} {f : α → Prog σ ε β} {R : β → σ → Prop}
    (hp : Triple P p Q E) (hf : ∀ a, Triple (Q a) (f a) R E) : Triple P (p >>= f) R E := by
  intro s hs
  have h := hp s hs
  rw [run_bind]
  rcases hr : p.run s with ⟨r | r, s'⟩ <;> rw [hr] at h
  · exact h
  · exact hf r s' h

/-- A fact about the state found that says nothing about the state. -/
theorem Triple.of_fact {c : Prop} {p : Prog σ ε α} (h : c → Triple P p Q E) :
    Triple (fun s => c ∧ P s) p Q E := fun s hs => h hs.1 s hs.2

theorem Triple.require {c : Prop} [Decidable c] {e : ε} (h : ∀ s, P s → E e s) :
    Triple P (require c e : Prog σ ε Unit) (fun _ => P) E := by
  unfold Prog.require
  split_ifs
  · exact fun _ hs => hs
  · exact h

theorem Triple.conseq {p : Prog σ ε α} (h : Triple P p Q E) (hP : ∀ s, P' s → P s)
    (hQ : ∀ a s, Q a s → Q' a s) (hE : ∀ e s, E e s → E' e s) : Triple P' p Q' E' := by
  intro s hs
  have h' := h s (hP s hs)
  rcases hr : p.run s with ⟨r | r, s'⟩ <;> rw [hr] at h'
  · exact hE r s' h'
  · exact hQ r s' h'

end Triple

/-! ### One run: programs that cannot fail -/

/-- The program ends in the value `a`, whatever the state. -/
def Yields (a : α) (p : Prog σ ε α) : Prop := ∀ s, (p.run s).1 = .ok a

section Yields
variable {a : α} {b : β}

theorem Yields.pure : Yields a (pure a : Prog σ ε α) := fun _ => rfl

theorem Yields.bind {p : Prog σ ε α} {f : α → Prog σ ε β} (hp : Yields a p) (hf : Yields b (f a)) :
    Yields b (p >>= f) := by
  intro s
  have h := hp s
  rw [run_bind]
  rcases hr : p.run s with ⟨r, s'⟩
  rw [hr] at h
  cases h
  exact hf s'

theorem Yields.read_bind {g : σ → α} {f : α → Prog σ ε β} (hf : ∀ a, Yields b (f a)) :
    Yields b (read g >>= f) := fun s => hf (g s) s

theorem Yields.ite {c : Prop} [Decidable c] {p q : Prog σ ε α} (hp : Yields a p) (hq : Yields a q) :
    Yields a (if c then p else q) := by
  split_ifs
  · exact hp
  · exact hq

theorem Yields.forEach {f : β → Prog σ ε Unit} (hf : ∀ b, Yields () (f b)) :
    ∀ bs : List β, Yields () (forEach bs f)
  | [] => .pure
  | b :: bs => (hf b).bind (.forEach hf bs)

theorem Yields.run_bind {p : Prog σ ε α} {f : α → Prog σ ε β} (hp : Yields a p) (s : σ) :
    (p >>= f).run s = (f a).run (p.run s).2 := by
  have h := hp s
  rw [Prog.run_bind]
  rcases hr : p.run s with ⟨r, s'⟩
  rw [hr] at h
  cases h
  rfl

end Yields

/-! ### One run: preserved properties -/

/-- The program preserves `I`, whether it succeeds or fails. -/
def Keeps (I : σ → Prop) (p : Prog σ ε α) : Prop := ∀ s, I s → I (p.run s).2

section Keeps
variable {I : σ → Prop}

theorem Keeps.of_run {p : Prog σ ε α} (h : Keeps I p) {s s' : σ} {r : Except ε α}
    (hr : p.run s = (r, s')) (hs : I s) : I s' := by
  have := h s hs
  rwa [hr] at this

theorem Triple.of_keeps {p : Prog σ ε α} (h : Keeps I p) :
    Triple I p (fun _ => I) fun _ => I := by
  intro s hs
  have := h s hs
  rcases hr : p.run s with ⟨r | r, s'⟩ <;> rw [hr] at this <;> exact this

theorem Keeps.pure (a : α) : Keeps I (pure a : Prog σ ε α) := fun _ h => h

theorem Keeps.throw (e : ε) : Keeps I (throw e : Prog σ ε α) := fun _ h => h

theorem Keeps.read (f : σ → α) : Keeps I (read f : Prog σ ε α) := fun _ h => h

theorem Keeps.call {f : σ → Except ε α × σ} (h : ∀ s, I s → I (f s).2) : Keeps I (call f) := h

theorem Keeps.write {f : σ → σ} (h : ∀ s, I s → I (f s)) : Keeps I (write f : Prog σ ε Unit) := h

theorem Keeps.require (c : Prop) [Decidable c] (e : ε) :
    Keeps I (require c e : Prog σ ε Unit) := fun s h => by rw [run_require]; exact h

theorem Keeps.orThrow (o : Option α) (e : ε) : Keeps I (orThrow o e : Prog σ ε α) := by
  cases o <;> exact fun _ h => h

theorem Keeps.bind {p : Prog σ ε α} {f : α → Prog σ ε β} (hp : Keeps I p)
    (hf : ∀ a, Keeps I (f a)) : Keeps I (p >>= f) := by
  intro s hs
  have h := hp s hs
  rw [run_bind]
  rcases hr : p.run s with ⟨r | r, s'⟩ <;> rw [hr] at h
  · exact h
  · exact hf r s' h

theorem Keeps.catchErr {p : Prog σ ε α} {h : ε → Prog σ ε α} (hp : Keeps I p)
    (hh : ∀ e, Keeps I (h e)) : Keeps I (p.catchErr h) := by
  intro s hs
  have h' := hp s hs
  rw [run_catchErr]
  rcases hr : p.run s with ⟨r | r, s'⟩ <;> rw [hr] at h'
  · exact hh r s' h'
  · exact h'

theorem Keeps.ite {c : Prop} [Decidable c] {p q : Prog σ ε α} (hp : c → Keeps I p)
    (hq : ¬ c → Keeps I q) : Keeps I (if c then p else q) := by
  split_ifs with h
  · exact hp h
  · exact hq h

theorem Keeps.when {c : Prop} [Decidable c] {p : Prog σ ε Unit} (hp : c → Keeps I p) :
    Keeps I (when c p) := Keeps.ite hp fun _ => Keeps.pure ()

theorem Keeps.forEach {f : β → Prog σ ε Unit} :
    ∀ (bs : List β), (∀ b ∈ bs, Keeps I (f b)) → Keeps I (forEach bs f)
  | [], _ => Keeps.pure ()
  | b :: bs, h => (h b (by simp)).bind fun _ => Keeps.forEach bs fun b' hb' => h b' (by simp [hb'])

theorem Keeps.foldEach {f : γ → β → Prog σ ε γ} :
    ∀ (bs : List β) (c : γ), (∀ c, ∀ b ∈ bs, Keeps I (f c b)) → Keeps I (foldEach bs c f)
  | [], c, _ => Keeps.pure c
  | b :: bs, c, h =>
    (h c b (by simp)).bind fun c' => Keeps.foldEach bs c' fun c b' hb' => h c b' (by simp [hb'])

theorem Keeps.and {J : σ → Prop} {p : Prog σ ε α} (hI : Keeps I p) (hJ : Keeps J p) :
    Keeps (fun s => I s ∧ J s) p := fun s hs => ⟨hI s hs.1, hJ s hs.2⟩

/-- Sequencing with a fact about the first result. -/
theorem Keeps.bindOf {P : α → Prop} {p : Prog σ ε α} {f : α → Prog σ ε β} (hp : Keeps I p)
    (hP : ∀ s, I s → ∀ a, (p.run s).1 = .ok a → P a) (hf : ∀ a, P a → Keeps I (f a)) :
    Keeps I (p >>= f) := by
  intro s hs
  have h := hp s hs
  have h' := hP s hs
  rw [run_bind]
  rcases hr : p.run s with ⟨r | r, s'⟩ <;> rw [hr] at h h'
  · exact h
  · exact hf r (h' r rfl) s' h

/-- What follows a check may use it. -/
theorem Keeps.requireBind {c : Prop} [Decidable c] {e : ε} {f : Unit → Prog σ ε α}
    (hf : c → Keeps I (f ())) : Keeps I (Prog.require c e >>= f) := by
  unfold Prog.require
  split_ifs with h
  · exact hf h
  · exact Keeps.throw e

/-- From `P` the program ends in `Q`, whether it succeeds or fails. -/
def Leads (P Q : σ → Prop) (p : Prog σ ε α) : Prop := ∀ s, P s → Q (p.run s).2

section Leads
variable {P Q : σ → Prop}

theorem Leads.of_keeps {p : Prog σ ε α} (h : Keeps Q p) (hPQ : ∀ s, P s → Q s) : Leads P Q p :=
  fun s hs => h s (hPQ s hs)

/-- A first part that keeps `P`, with a fact about its result. -/
theorem Leads.bindOf {F : α → Prop} {p : Prog σ ε α} {f : α → Prog σ ε β} (hp : Keeps P p)
    (hF : ∀ s, P s → ∀ a, (p.run s).1 = .ok a → F a) (hPQ : ∀ s, P s → Q s)
    (hf : ∀ a, F a → Leads P Q (f a)) : Leads P Q (p >>= f) := by
  intro s hs
  have h := hp s hs
  have h' := hF s hs
  rw [run_bind]
  rcases hr : p.run s with ⟨r | r, s'⟩ <;> rw [hr] at h h'
  · exact hPQ s' h
  · exact hf r (h' r rfl) s' h

theorem Leads.bind {p : Prog σ ε α} {f : α → Prog σ ε β} (hp : Keeps P p)
    (hPQ : ∀ s, P s → Q s) (hf : ∀ a, Leads P Q (f a)) : Leads P Q (p >>= f) :=
  .bindOf (F := fun _ => True) hp (fun _ _ _ _ => trivial) hPQ fun a _ => hf a

theorem Leads.ite {c : Prop} [Decidable c] {p q : Prog σ ε α} (hp : c → Leads P Q p)
    (hq : ¬ c → Leads P Q q) : Leads P Q (if c then p else q) := by
  split_ifs with h
  · exact hp h
  · exact hq h

/-- Two stretches one after the other, the first of which does not fail. -/
theorem Leads.seqOf {R : σ → Prop} {F : α → Prop} {p : Prog σ ε α} {f : α → Prog σ ε β}
    (hp : Leads P Q p) (hok : ∀ s, P s → ∃ a, (p.run s).1 = .ok a ∧ F a)
    (hf : ∀ a, F a → Leads Q R (f a)) : Leads P R (p >>= f) := by
  intro s hs
  have h := hp s hs
  obtain ⟨a, ha, hF⟩ := hok s hs
  rw [run_bind]
  rcases hr : p.run s with ⟨r, s'⟩
  rw [hr] at h ha
  cases ha
  exact hf a hF s' h

theorem Leads.seq {R : σ → Prop} {p : Prog σ ε α} {f : α → Prog σ ε β} (hp : Leads P Q p)
    (hok : ∀ s, ∃ a, (p.run s).1 = .ok a) (hf : ∀ a, Leads Q R (f a)) : Leads P R (p >>= f) :=
  .seqOf (F := fun _ => True) hp (fun s _ => (hok s).imp fun _ ha => ⟨ha, trivial⟩)
    fun a _ => hf a

/-- What the first part has reached, the rest keeps. -/
theorem Leads.andThen {p : Prog σ ε α} {f : α → Prog σ ε β} (hp : Leads P Q p)
    (hf : ∀ a, Keeps Q (f a)) : Leads P Q (p >>= f) := by
  intro s hs
  have h := hp s hs
  rw [run_bind]
  rcases hr : p.run s with ⟨r | r, s'⟩ <;> rw [hr] at h
  · exact h
  · exact hf r s' h

end Leads

/-- What the first program has established, the second keeps. -/
theorem Keeps.after {p : Prog σ ε α} {f : α → Prog σ ε β} {s : σ} (hp : I (p.run s).2)
    (hf : ∀ a, Keeps I (f a)) : I ((p >>= f).run s).2 := by
  have hleads : Leads (· = s) I p := by
    rintro _ rfl
    exact hp
  exact hleads.andThen hf s rfl

/-- A loop whose bodies never fail reaches `J` when the body of one element leads from `I` to
`J`. -/
theorem forEach_reaches {J : σ → Prop} {f : β → Prog σ ε Unit} (hok : ∀ b, Yields () (f b))
    {b : β} (hb : ∀ s, I s → J ((f b).run s).2) : ∀ {bs : List β}, b ∈ bs →
    (∀ b ∈ bs, Keeps I (f b)) → (∀ b ∈ bs, Keeps J (f b)) → ∀ s, I s → J ((forEach bs f).run s).2
  | b' :: bs, hmem, hI, hJ, s, hs => by
    rw [forEach, (hok b').run_bind]
    rcases List.mem_cons.mp hmem with rfl | hmem
    · exact Keeps.forEach bs (fun b' hb' => hJ b' (by simp [hb'])) _ (hb s hs)
    · exact forEach_reaches hok hb hmem (fun b' hb' => hI b' (by simp [hb']))
        (fun b' hb' => hJ b' (by simp [hb'])) _ (hI b' (by simp) s hs)

end Keeps

/-! ### Every call -/

/-- Every call of the program preserves `I`. -/
def Always (I : σ → Prop) : Prog σ ε α → Prop
  | ret _ => True
  | act u k => ∀ s, I s → I (u s) ∧ (k s).Always I

/-- Every outcome the program may end in, whatever its calls find, satisfies `Q`. -/
def Ends (Q : Except ε α → Prop) : Prog σ ε α → Prop
  | ret r => Q r
  | act _ k => ∀ s, (k s).Ends Q

/-- Every error the program may end in satisfies `E`. -/
def Raises (E : ε → Prop) (p : Prog σ ε α) : Prop := p.Ends fun r => ∀ e, r = .error e → E e

/-- The program with the error `e` in place of whatever follows its first `n` calls. -/
def interrupt (e : ε) : ℕ → Prog σ ε α → Prog σ ε α
  | 0, _ => ret (.error e)
  | _ + 1, ret r => ret r
  | n + 1, act u k => act u fun s => (k s).interrupt e n

section Always
variable {I : σ → Prop}

theorem Always.pure (a : α) : Always I (pure a : Prog σ ε α) := trivial

theorem Always.call {f : σ → Except ε α × σ} (h : ∀ s, I s → I (f s).2) : Always I (call f) :=
  fun s hs => ⟨h s hs, trivial⟩

theorem Always.bind {p : Prog σ ε α} {f : α → Prog σ ε β} (hp : Always I p)
    (hf : ∀ a, Always I (f a)) : Always I (p >>= f) := by
  induction p with
  | ret r =>
    cases r with
    | ok a => exact hf a
    | error e => trivial
  | act u k ih => exact fun s hs => ⟨(hp s hs).1, ih s (hp s hs).2⟩

end Always

section Ends
variable {E : ε → Prop} {Q : Except ε α → Prop}

theorem Ends.run {p : Prog σ ε α} (h : Ends Q p) (s : σ) : Q (p.run s).1 := by
  induction p generalizing s with
  | ret r => exact h
  | act u k ih => exact ih s (h s) (u s)

theorem Ends.bind {p : Prog σ ε β} {f : β → Prog σ ε α} (hp : Raises (fun e => Q (.error e)) p)
    (hf : ∀ a, Ends Q (f a)) : Ends Q (p >>= f) := by
  induction p with
  | ret r =>
    cases r with
    | ok a => exact hf a
    | error e => exact hp e rfl
  | act u k ih => exact fun s => ih s (hp s)

theorem Raises.pure (a : α) : Raises E (pure a : Prog σ ε α) := by
  intro e he
  cases he

theorem Raises.call {f : σ → Except ε α × σ} (h : ∀ s e, (f s).1 = .error e → E e) :
    Raises E (call f) := fun s => h s

theorem Raises.mono {E' : ε → Prop} {p : Prog σ ε α} (h : Raises E p) (hE : ∀ e, E e → E' e) :
    Raises E' p := by
  induction p with
  | ret r => exact fun e he => hE e (h e he)
  | act u k ih => exact fun s => ih s (h s)

theorem Raises.bind {p : Prog σ ε β} {f : β → Prog σ ε α} (hp : Raises E p)
    (hf : ∀ a, Raises E (f a)) : Raises E (p >>= f) := by
  refine Ends.bind (hp.mono fun e he e' he' => ?_) hf
  cases he'
  exact he

theorem Raises.of_run {p : Prog σ ε α} (h : Raises E p) {s s' : σ} {e : ε}
    (hr : p.run s = (.error e, s')) : E e := Ends.run h s e (by rw [hr])

end Ends

/-! ### Interrupted runs -/

/-- Run from `s`, the program is in states with `C` throughout and ends with `Q`. -/
def Through (C : σ → Prop) (Q : Except ε α → Prop) : Prog σ ε α → σ → Prop
  | ret r, s => C s ∧ Q r
  | act u k, s => C s ∧ (k s).Through C Q (u s)

section Through
variable {C : σ → Prop} {Q : Except ε α → Prop}

theorem Through.run {p : Prog σ ε α} {s : σ} (h : p.Through C Q s) :
    C (p.run s).2 ∧ Q (p.run s).1 := by
  induction p generalizing s with
  | ret r => exact h
  | act u k ih => exact ih s h.2

theorem Through.start {p : Prog σ ε α} {s : σ} (h : p.Through C Q s) : C s := by
  cases p with
  | ret r => exact h.1
  | act u k => exact h.1

/-- A run that is cut short anywhere ends in a state of the run. -/
theorem Through.interrupt {e : ε} (he : Q (.error e)) : ∀ {n : ℕ} {p : Prog σ ε α} {s : σ},
    p.Through C Q s → (p.interrupt e n).Through C Q s
  | 0, _, _, h => ⟨h.start, he⟩
  | _ + 1, .ret _, _, h => h
  | _ + 1, .act _ _, _, h => ⟨h.1, Through.interrupt he h.2⟩

theorem Through.call_bind {f : σ → Except ε β × σ} {g : β → Prog σ ε α} {s t : σ} {b : β}
    (hf : f s = (.ok b, t)) (hs : C s) (hg : (g b).Through C Q t) :
    (call f >>= g).Through C Q s := by
  refine ⟨hs, ?_⟩
  change ((ret (f s).1 : Prog σ ε β).bind g).Through C Q (f s).2
  rw [hf]
  exact hg

theorem Through.of_always {p : Prog σ ε α} {s : σ} (hC : p.Always C) (hQ : p.Ends Q) (hs : C s) :
    p.Through C Q s := by
  induction p generalizing s with
  | ret r => exact ⟨hs, hQ⟩
  | act u k ih => exact ⟨hs, ih s (hC s hs).2 (hQ s) (hC s hs).1⟩

end Through

/-! ### Two runs -/

/-- From related states the program gives equal results and related states. -/
def Respects (R : σ → σ → Prop) (p : Prog σ ε α) : Prop :=
  ∀ s t, R s t → (p.run s).1 = (p.run t).1 ∧ R (p.run s).2 (p.run t).2

section Respects
variable {R : σ → σ → Prop}

theorem Respects.pure (a : α) : Respects R (pure a : Prog σ ε α) := fun _ _ h => ⟨rfl, h⟩

theorem Respects.throw (e : ε) : Respects R (throw e : Prog σ ε α) := fun _ _ h => ⟨rfl, h⟩

theorem Respects.read {f : σ → α} (h : ∀ s t, R s t → f s = f t) :
    Respects R (read f : Prog σ ε α) := fun s t hst => ⟨by simp [h s t hst], hst⟩

theorem Respects.call {f : σ → Except ε α × σ}
    (h : ∀ s t, R s t → (f s).1 = (f t).1 ∧ R (f s).2 (f t).2) : Respects R (call f) := h

theorem Respects.require (c : Prop) [Decidable c] (e : ε) :
    Respects R (require c e : Prog σ ε Unit) := fun s t h => by simpa using h

theorem Respects.orThrow (o : Option α) (e : ε) : Respects R (orThrow o e : Prog σ ε α) := by
  cases o <;> exact fun _ _ h => ⟨rfl, h⟩

/-- From what two runs have reached alike, the rest leads on to related states. -/
theorem Respects.after {S : σ → σ → Prop} {p : Prog σ ε α} {f : α → Prog σ ε β} {s t : σ}
    (hp : (p.run s).1 = (p.run t).1 ∧ R (p.run s).2 (p.run t).2) (hRS : ∀ s t, R s t → S s t)
    (hf : ∀ a s t, R s t →
      ((f a).run s).1 = ((f a).run t).1 ∧ S ((f a).run s).2 ((f a).run t).2) :
    ((p >>= f).run s).1 = ((p >>= f).run t).1 ∧ S ((p >>= f).run s).2 ((p >>= f).run t).2 := by
  obtain ⟨h1, h2⟩ := hp
  rw [run_bind, run_bind]
  rcases hs : p.run s with ⟨r | r, s'⟩ <;> rcases ht : p.run t with ⟨r' | r', t'⟩ <;>
    rw [hs, ht] at h1 h2 <;> simp only [Except.error.injEq, Except.ok.injEq, reduceCtorEq] at h1
  · subst h1; exact ⟨rfl, hRS s' t' h2⟩
  · subst h1; exact hf r s' t' h2

theorem Respects.bind {p : Prog σ ε α} {f : α → Prog σ ε β} (hp : Respects R p)
    (hf : ∀ a, Respects R (f a)) : Respects R (p >>= f) :=
  fun s t hst => Respects.after (hp s t hst) (fun _ _ h => h) hf

theorem Respects.catchErr {p : Prog σ ε α} {h : ε → Prog σ ε α} (hp : Respects R p)
    (hh : ∀ e, Respects R (h e)) : Respects R (p.catchErr h) := by
  intro s t hst
  obtain ⟨h1, h2⟩ := hp s t hst
  rw [run_catchErr, run_catchErr]
  rcases hs : p.run s with ⟨r | r, s'⟩ <;> rcases ht : p.run t with ⟨r' | r', t'⟩ <;>
    rw [hs, ht] at h1 h2 <;> simp only [Except.error.injEq, Except.ok.injEq, reduceCtorEq] at h1
  · subst h1; exact hh r s' t' h2
  · subst h1; exact ⟨rfl, h2⟩

/-- Sequencing with a fact about the first result and the two states it leaves. -/
theorem Respects.bindOf {P : α → σ → σ → Prop} {p : Prog σ ε α} {f : α → Prog σ ε β}
    (hp : Respects R p)
    (hP : ∀ s t, R s t → ∀ a, (p.run s).1 = .ok a → P a (p.run s).2 (p.run t).2)
    (hf : ∀ a s t, R s t → P a s t →
      ((f a).run s).1 = ((f a).run t).1 ∧ R ((f a).run s).2 ((f a).run t).2) :
    Respects R (p >>= f) := by
  intro s t hst
  obtain ⟨h1, h2⟩ := hp s t hst
  have h3 := hP s t hst
  rw [run_bind, run_bind]
  rcases hs : p.run s with ⟨r | r, s'⟩ <;> rcases ht : p.run t with ⟨r' | r', t'⟩ <;>
    rw [hs, ht] at h1 h2 h3 <;> simp only [Except.error.injEq, Except.ok.injEq, reduceCtorEq] at h1
  · subst h1; exact ⟨rfl, h2⟩
  · subst h1; exact hf r s' t' h2 (h3 r rfl)

/-- From related states the program gives results that agree under `g`, and related states. -/
def RespectsTo (g : α → γ) (R : σ → σ → Prop) (p : Prog σ ε α) : Prop :=
  ∀ s t, R s t → (p.run s).1.map g = (p.run t).1.map g ∧ R (p.run s).2 (p.run t).2

theorem respects_iff {p : Prog σ ε α} : Respects R p ↔ RespectsTo id R p := by
  have hid : ∀ r : Except ε α, r.map id = r := fun r => by cases r <;> rfl
  simp only [Respects, RespectsTo, hid]

/-- What follows a result agrees with what follows the results that agree with it. -/
theorem RespectsTo.bindTo {δ : Type} {g : α → γ} {h : β → δ} {p : Prog σ ε α} {f : α → Prog σ ε β}
    (hp : RespectsTo g R p) (hf : ∀ a a', g a = g a' → ∀ s t, R s t →
      ((f a).run s).1.map h = ((f a').run t).1.map h ∧ R ((f a).run s).2 ((f a').run t).2) :
    RespectsTo h R (p >>= f) := by
  intro s t hst
  obtain ⟨h1, h2⟩ := hp s t hst
  rw [run_bind, run_bind]
  rcases hs : p.run s with ⟨e | a, s'⟩ <;> rcases ht : p.run t with ⟨e' | a', t'⟩ <;>
    rw [hs, ht] at h1 h2 <;> simp only [Except.map, Except.error.injEq, Except.ok.injEq,
      reduceCtorEq] at h1
  · subst h1; exact ⟨rfl, h2⟩
  · exact hf a a' h1 s' t' h2

/-- What follows looks at the result only through `g`. -/
theorem RespectsTo.bind {g : α → γ} {p : Prog σ ε α} {f : α → Prog σ ε β}
    (hp : RespectsTo g R p) (hg : ∀ a a', g a = g a' → f a = f a') (hf : ∀ a, Respects R (f a)) :
    Respects R (p >>= f) := by
  refine respects_iff.mpr (hp.bindTo fun a a' haa => ?_)
  rw [hg a a' haa]
  exact respects_iff.mp (hf a')

theorem Respects.forEach {f : β → Prog σ ε Unit} :
    ∀ (bs : List β), (∀ b ∈ bs, Respects R (f b)) → Respects R (forEach bs f)
  | [], _ => Respects.pure ()
  | b :: bs, h =>
    (h b (by simp)).bind fun _ => Respects.forEach bs fun b' hb' => h b' (by simp [hb'])

theorem Respects.foldEach {f : γ → β → Prog σ ε γ} :
    ∀ (bs : List β) (c : γ), (∀ c, ∀ b ∈ bs, Respects R (f c b)) → Respects R (foldEach bs c f)
  | [], c, _ => Respects.pure c
  | b :: bs, c, h =>
    (h c b (by simp)).bind fun c' =>
      Respects.foldEach bs c' fun c b' hb' => h c b' (by simp [hb'])

end Respects

end Prog

end GuardTime.Lib.Program
