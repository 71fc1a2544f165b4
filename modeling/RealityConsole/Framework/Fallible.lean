import Mathlib.Logic.Basic

/-!
# Operations whose changes survive a failure

An operation takes a state to the state after it and to a result or an error; a
failure does not undo what was changed before it. The rules compose two facts
along a sequence: what an operation keeps, and what a success says about its
parts.
-/

namespace RealityConsole.Framework

/-- An operation on a state that may fail. -/
def Fallible (σ ε α : Type) : Type := σ → σ × Except ε α

namespace Fallible

variable {σ ε α β : Type}

/-- Goes on with the result of an operation, or stops with its error. -/
def andThen (op : Fallible σ ε α) (next : α → Fallible σ ε β) : Fallible σ ε β := fun s =>
  match op s with
  | (s, .error e) => (s, .error e)
  | (s, .ok a) => next a s

instance : Monad (Fallible σ ε) where
  pure a := fun s => (s, .ok a)
  bind := andThen

def fail (error : ε) : Fallible σ ε α := fun s => (s, .error error)

def read : Fallible σ ε σ := fun s => (s, .ok s)

def change (f : σ → σ) : Fallible σ ε Unit := fun s => (f s, .ok ())

/-- Stops with the error of a computation, or goes on with its result. -/
def ofExcept : Except ε α → Fallible σ ε α
  | .ok a => pure a
  | .error e => fail e

/-- A transaction: a failure undoes its changes, while what it commits may still be answered with an
error. -/
def transaction (body : σ → Except ε (σ × Except ε α)) : Fallible σ ε α := fun s =>
  match body s with
  | .error e => (s, .error e)
  | .ok committed => committed

/-! ### Success -/

variable {next : α → Fallible σ ε β} {op : Fallible σ ε α}

theorem bind_of_ok {s u : σ} {a : α} (h : op s = (u, .ok a)) : (op >>= next) s = next a u := by
  show andThen op next s = _
  unfold andThen
  rw [h]

theorem bind_of_error {s u : σ} {e : ε}
    (h : op s = (u, .error e)) : (op >>= next) s = (u, .error e) := by
  show andThen op next s = _
  unfold andThen
  rw [h]

theorem bind_ok {s t : σ} {b : β} :
    (op >>= next) s = (t, .ok b) ↔ ∃ u a, op s = (u, .ok a) ∧ next a u = (t, .ok b) := by
  show andThen op next s = _ ↔ _
  unfold andThen
  rcases op s with ⟨u, e | a⟩
  · simp
  constructor
  · intro h
    exact ⟨u, a, rfl, h⟩
  · rintro ⟨u', a', heq, h⟩
    obtain ⟨rfl, hok⟩ := Prod.mk.inj heq
    rwa [Except.ok.inj hok]

theorem pure_ok {s t : σ} {a b : α} : (pure a : Fallible σ ε α) s = (t, .ok b) ↔ t = s ∧ b = a := by
  show ((s, Except.ok a) : σ × Except ε α) = (t, .ok b) ↔ _
  rw [Prod.mk.injEq, Except.ok.injEq, eq_comm, eq_comm (a := a)]

variable {body : σ → Except ε (σ × Except ε α)}

theorem transaction_of_ok {s : σ} {committed : σ × Except ε α} (h : body s = .ok committed) :
    transaction body s = committed := by
  unfold transaction
  rw [h]

theorem transaction_of_error {s : σ} {e : ε}
    (h : body s = .error e) : transaction body s = (s, .error e) := by
  unfold transaction
  rw [h]

theorem eq_of_snd {s : σ} {r : Except ε α} (h : (op s).2 = r) : op s = ((op s).1, r) := by rw [← h]

/-- A transaction fails and leaves the state alone, or it commits. -/
theorem transaction_eq {s t : σ} {r : Except ε α} (h : transaction body s = (t, r)) :
    (t = s ∧ ∃ e, r = .error e) ∨ body s = .ok (t, r) := by
  unfold transaction at h
  rcases hbody : body s with e | committed
  · rw [hbody] at h
    obtain ⟨hs, hr⟩ := Prod.mk.inj h
    exact .inl ⟨hs.symm, e, hr.symm⟩
  · rw [hbody] at h
    exact .inr (congrArg Except.ok h)

/-! ### Invariants -/

/-- Whatever becomes of the operation, it keeps the property. -/
def Keeps (P : σ → Prop) (op : Fallible σ ε α) : Prop := ∀ s, P s → P (op s).1

variable {P : σ → Prop}

theorem keeps_pure (a : α) : Keeps P (pure a : Fallible σ ε α) := fun _ h => h

theorem keeps_fail (e : ε) : Keeps P (fail e : Fallible σ ε α) := fun _ h => h

theorem keeps_read : Keeps P (read : Fallible σ ε σ) := fun _ h => h

theorem Keeps.bind (hop : Keeps P op) (hnext : ∀ a, Keeps P (next a)) : Keeps P (op >>= next) := by
  intro s hs
  have hfirst := hop s hs
  show P (andThen op next s).1
  unfold andThen
  rcases hrun : op s with ⟨u, e | a⟩
  · rw [hrun] at hfirst
    exact hfirst
  · rw [hrun] at hfirst
    exact hnext a u hfirst

theorem keeps_ofExcept (x : Except ε α) : Keeps P (ofExcept x : Fallible σ ε α) := by
  cases x with
  | error e => exact keeps_fail e
  | ok a => exact keeps_pure a

end Fallible

end RealityConsole.Framework
