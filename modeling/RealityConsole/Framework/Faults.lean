import RealityConsole.Framework.Fallible

/-!
# Programs that can fail or be cut off at any effect

A program changes a state by effects. Each effect may be refused, may take place and still be
reported as failed, or may be the last thing before a crash; which is read from a script.
`Spec P op I Q`: from a state with `P`, the state left behind has `I`, and a result has `Q`.
-/

namespace RealityConsole.Framework

/-- What happens to one effect. -/
inductive Fault where
  | none
  /-- It is reported as failed and did not take place. -/
  | refused
  /-- It is reported as failed and did take place. -/
  | reported
  | crashBefore
  | crashAfter

/-- A state and what will happen to the next effects; those beyond the list succeed. -/
structure Scripted (σ : Type) where
  state : σ
  faults : List Fault

inductive Stop (ε : Type) where
  | error (error : ε)
  | crash
  deriving DecidableEq, Repr

abbrev Faulty (σ ε α : Type) := Fallible (Scripted σ) (Stop ε) α

namespace Faulty

variable {σ ε α β : Type}

def fail (error : ε) : Faulty σ ε α := Fallible.fail (.error error)

def refuseWhen (condition : Prop) [Decidable condition] (error : ε) : Faulty σ ε Unit :=
  if condition then fail error else pure ()

/-- Changes the state without any effect on the outside. -/
def note (f : σ → σ) : Faulty σ ε Unit := fun s => (⟨f s.state, s.faults⟩, .ok ())

def effect (f : σ → σ) (error : ε) : Faulty σ ε Unit := fun s =>
  match s.faults with
  | [] => (⟨f s.state, []⟩, .ok ())
  | .none :: rest => (⟨f s.state, rest⟩, .ok ())
  | .refused :: rest => (⟨s.state, rest⟩, .error (.error error))
  | .reported :: rest => (⟨f s.state, rest⟩, .error (.error error))
  | .crashBefore :: rest => (⟨s.state, rest⟩, .error .crash)
  | .crashAfter :: rest => (⟨f s.state, rest⟩, .error .crash)

def inspect (g : σ → Except ε α) (error : ε) : Faulty σ ε α := fun s =>
  match effect id error s with
  | (s, .error stop) => (s, .error stop)
  | (s, .ok ()) => (s, (g s.state).mapError .error)

def rescue (op : Faulty σ ε α) (handler : ε → Faulty σ ε α) : Faulty σ ε α := fun s =>
  match op s with
  | (s, .error (.error e)) => handler e s
  | (s, .error .crash) => (s, .error .crash)
  | (s, .ok a) => (s, .ok a)

/-! ### Without faults -/

theorem inspect_nil (g : σ → Except ε α) (error : ε) (state : σ) :
    inspect g error ⟨state, []⟩ = (⟨state, []⟩, (g state).mapError .error) := rfl

variable {op : Faulty σ ε α}
  {a : α} {handler : ε → Faulty σ ε α}

theorem rescue_of_ok {s t : Scripted σ}
    (h : op s = (t, .ok a)) : rescue op handler s = (t, .ok a) := by
  unfold rescue
  rw [h]

/-- Without faults the program returns this. -/
def Returns (op : Faulty σ ε α) (state : σ) (a : α) : Prop :=
  ∃ state', op ⟨state, []⟩ = (⟨state', []⟩, .ok a)

theorem returns_pure (state : σ) (a : α) : Returns (pure a : Faulty σ ε α) state a := ⟨state, rfl⟩

theorem returns_effect (f : σ → σ) (error : ε) (state : σ) :
    Returns (effect f error) state () := ⟨f state, rfl⟩

variable {g : σ → Except ε α} {state : σ}

theorem returns_inspect (error : ε)
    (h : g state = .ok a) : inspect g error ⟨state, []⟩ = (⟨state, []⟩, .ok a) := by
  rw [inspect_nil, h]
  rfl

variable {next : α → Faulty σ ε β}

theorem Returns.bind {b : β} (hop : Returns op state a)
    (hnext : ∀ state', Returns (next a) state' b) : Returns (op >>= next) state b := by
  obtain ⟨state', hrun⟩ := hop
  obtain ⟨final, hfinal⟩ := hnext state'
  refine ⟨final, ?_⟩
  rw [Fallible.bind_of_ok hrun]
  exact hfinal

theorem Returns.inspect_bind {error : ε} {b : β} (h : g state = .ok a)
    (hnext : Returns (next a) state b) : Returns (inspect g error >>= next) state b := by
  obtain ⟨final, hfinal⟩ := hnext
  refine ⟨final, ?_⟩
  rw [Fallible.bind_of_ok (returns_inspect error h)]
  exact hfinal

/-! ### The cases of an effect -/

/-- An effect takes place or not, and it takes place if it is reported as done. -/
theorem effect_cases (f : σ → σ) (error : ε) (s : Scripted σ) :
    ((effect f error s).1.state = f s.state ∨ (effect f error s).1.state = s.state) ∧
      ((effect f error s).2 = .ok () → (effect f error s).1.state = f s.state) := by
  obtain ⟨state, faults⟩ := s
  rcases faults with _ | ⟨fault, rest⟩
  · exact ⟨.inl rfl, fun _ => rfl⟩
  cases fault with
  | none => exact ⟨.inl rfl, fun _ => rfl⟩
  | refused => exact ⟨.inr rfl, fun h => by cases h⟩
  | reported => exact ⟨.inl rfl, fun _ => rfl⟩
  | crashBefore => exact ⟨.inr rfl, fun h => by cases h⟩
  | crashAfter => exact ⟨.inl rfl, fun _ => rfl⟩

/-! ### Pre- and postconditions -/

/-- From `P` every way to stop leaves `I`, and a result comes with `Q`. -/
def Spec (P : σ → Prop) (op : Faulty σ ε α) (I : σ → Prop) (Q : α → σ → Prop) : Prop :=
  ∀ s : Scripted σ, P s.state →
    I (op s).1.state ∧ ∀ a, (op s).2 = .ok a → Q a (op s).1.state

variable {P P' I I' : σ → Prop} {Q Q' : α → σ → Prop} {R : β → σ → Prop}

theorem Spec.weaken (h : Spec P op I Q) (hP : ∀ s, P' s → P s)
    (hI : ∀ s, I s → I' s) (hQ : ∀ a s, Q a s → Q' a s) : Spec P' op I' Q' := by
  intro s hs
  obtain ⟨hstop, hres⟩ := h s (hP _ hs)
  exact ⟨hI _ hstop, fun a ha => hQ _ _ (hres a ha)⟩

/-- What does not depend on the state stays true. -/
theorem spec_frame (op : Faulty σ ε α) {p : Prop} :
    Spec (fun _ => p) op (fun _ => True) fun _ _ => p :=
  fun _ hp => ⟨trivial, fun _ _ => hp⟩

theorem spec_pure (a : α) (hI : ∀ s, P s → I s) (hQ : ∀ s, P s → Q a s) :
    Spec P (pure a : Faulty σ ε α) I Q := by
  intro s hs
  refine ⟨hI _ hs, ?_⟩
  intro b hb
  cases hb
  exact hQ _ hs

theorem spec_fail (e : ε) (hI : ∀ s, P s → I s) : Spec P (fail e : Faulty σ ε α) I Q := by
  intro s hs
  refine ⟨hI _ hs, ?_⟩
  intro b hb
  cases hb

theorem spec_note {Q : Unit → σ → Prop} (f : σ → σ) (hI : ∀ s, P s → I (f s))
    (hQ : ∀ s, P s → Q () (f s)) : Spec P (note f : Faulty σ ε Unit) I Q :=
  fun _ hs => ⟨hI _ hs, fun _ _ => hQ _ hs⟩

theorem spec_refuseWhen {Q : Unit → σ → Prop} {condition : Prop} [Decidable condition] (e : ε)
    (hI : ∀ s, P s → I s) (hQ : ∀ s, P s → ¬ condition → Q () s) :
    Spec P (refuseWhen condition e : Faulty σ ε Unit) I Q := by
  unfold refuseWhen
  split
  · exact spec_fail e hI
  · rename_i hnot
    exact spec_pure () hI fun s hs => hQ s hs hnot

theorem spec_effect {Q : Unit → σ → Prop} (f : σ → σ) (e : ε) (hbef : ∀ s, P s → I s)
    (haft : ∀ s, P s → I (f s)) (hQ : ∀ s, P s → Q () (f s)) : Spec P (effect f e) I Q := by
  intro s hs
  obtain ⟨hst, hdone⟩ := effect_cases f e s
  constructor
  · rcases hst with h | h
    · rw [h]
      exact haft _ hs
    · rw [h]
      exact hbef _ hs
  · intro a ha
    rw [hdone ha]
    exact hQ _ hs

theorem spec_inspect (g : σ → Except ε α) (e : ε) (hI : ∀ s, P s → I s)
    (hQ : ∀ s a, P s → g s = .ok a → Q a s) : Spec P (inspect g e) I Q := by
  intro s hs
  have hst : (effect id e s).1.state = s.state := (effect_cases id e s).1.elim id id
  unfold inspect
  rcases heff : effect id e s with ⟨t, stop | ⟨⟩⟩
  · rw [heff] at hst
    refine ⟨?_, fun a ha => by cases ha⟩
    rw [hst]
    exact hI _ hs
  rw [heff] at hst
  dsimp only at hst ⊢
  rw [hst]
  refine ⟨hI _ hs, ?_⟩
  intro a ha
  cases hg : g s.state with
  | error err =>
    rw [hg] at ha
    cases ha
  | ok b =>
    rw [hg] at ha
    cases ha
    exact hQ _ _ hs hg

theorem Spec.bind (hop : Spec P op I Q)
    (hnext : ∀ a, Spec (Q a) (next a) I R) : Spec P (op >>= next) I R := by
  intro s hs
  obtain ⟨hstop, hres⟩ := hop s hs
  rcases hrun : op s with ⟨t, e | a⟩
  · rw [hrun] at hstop
    rw [Fallible.bind_of_error hrun]
    exact ⟨hstop, fun a ha => by cases ha⟩
  · rw [hrun] at hres
    rw [Fallible.bind_of_ok hrun]
    exact hnext a t (hres a rfl)

theorem Spec.rescue (hop : Spec P op I Q)
    (hhandler : ∀ e, Spec I (handler e) I Q) : Spec P (rescue op handler) I Q := by
  intro s hs
  obtain ⟨hstop, hres⟩ := hop s hs
  unfold Faulty.rescue
  rcases hrun : op s with ⟨t, (e | _) | a⟩
  · rw [hrun] at hstop
    exact hhandler e t hstop
  · rw [hrun] at hstop
    exact ⟨hstop, fun a ha => by cases ha⟩
  · rw [hrun] at hstop hres
    exact ⟨hstop, hres⟩

end Faulty

end RealityConsole.Framework
