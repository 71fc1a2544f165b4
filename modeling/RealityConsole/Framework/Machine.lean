import Mathlib.Logic.Relation

/-!
# Labelled machines and guarded runs

The label of a step carries every choice that is not the machine's own, so a concrete run can be
evaluated. A *guarded* run is one whose every step meets a condition on the state before it and on
its label. The rules below are the only inductions over runs.
-/

namespace RealityConsole.Framework

universe u v

structure Machine (σ : Type u) (ℓ : Type v) where
  /-- The states a run may start in. -/
  init : σ → Prop
  /-- The state after the step named by the label; `none` if it is not enabled. -/
  next : σ → ℓ → Option σ

namespace Machine

variable {σ : Type u} {ℓ : Type v} (M : Machine σ ℓ)

/-- One step that meets the guard `ok`. -/
def StepWhen (ok : σ → ℓ → Prop) (s s' : σ) : Prop :=
  ∃ l, ok s l ∧ M.next s l = some s'

def Steps (ok : σ → ℓ → Prop) : σ → σ → Prop :=
  Relation.ReflTransGen (M.StepWhen ok)

/-- `s` ends a guarded run from an initial state. -/
def Run (ok : σ → ℓ → Prop) (s : σ) : Prop :=
  ∃ s₀, M.init s₀ ∧ M.Steps ok s₀ s

/-- `s` ends a run of the machine. -/
def Reachable (s : σ) : Prop :=
  M.Run (fun _ _ => True) s

variable {M} {ok : σ → ℓ → Prop} {s t : σ}

theorem Steps.preserves {P : σ → Prop} (h : M.Steps ok s t)
    (hstep : ∀ a l b, P a → ok a l → M.next a l = some b → P b) (hs : P s) : P t := by
  induction h with
  | refl => exact hs
  | tail _ hlast ih =>
    obtain ⟨l, hok, hnext⟩ := hlast
    exact hstep _ l _ ih hok hnext

/-- The invariant rule: true at the start and kept by every guarded step. -/
theorem Run.invariant {I : σ → Prop} (h : M.Run ok s) (hinit : ∀ a, M.init a → I a)
    (hstep : ∀ a l b, I a → ok a l → M.next a l = some b → I b) : I s := by
  obtain ⟨s₀, h₀, hsteps⟩ := h
  exact hsteps.preserves hstep (hinit s₀ h₀)

theorem Run.trans (h : M.Run ok s) (hsteps : M.Steps ok s t) : M.Run ok t := by
  obtain ⟨s₀, h₀, hs⟩ := h
  exact ⟨s₀, h₀, Relation.ReflTransGen.trans hs hsteps⟩

theorem Run.imp {ok' : σ → ℓ → Prop} (h : M.Run ok s) (hok : ∀ a l, ok a l → ok' a l) :
    M.Run ok' s := by
  obtain ⟨s₀, h₀, hsteps⟩ := h
  refine ⟨s₀, h₀, Relation.ReflTransGen.mono ?_ _ _ hsteps⟩
  rintro a b ⟨l, hl, hnext⟩
  exact ⟨l, hok a l hl, hnext⟩

/-! ### Evaluating a run -/

variable (M)

/-- Runs the labels from `s` as long as each step is enabled and meets the guard. -/
def exec (ok : σ → ℓ → Prop) [∀ s l, Decidable (ok s l)] (s : σ) : List ℓ → Option σ
  | [] => some s
  | l :: ls => if ok s l then (M.next s l).bind fun s' => exec ok s' ls else none

variable {M}

theorem steps_of_exec [∀ s l, Decidable (ok s l)] {ls : List ℓ}
    (h : M.exec ok s ls = some t) : M.Steps ok s t := by
  induction ls generalizing s with
  | nil =>
    simp only [exec, Option.some.injEq] at h
    exact h ▸ .refl
  | cons l ls ih =>
    simp only [exec] at h
    split at h
    · rename_i hok
      obtain ⟨s', hnext, hrest⟩ := Option.bind_eq_some_iff.1 h
      exact .head ⟨l, hok, hnext⟩ (ih hrest)
    · cases h

/-- A computed run ends in a state with the computed property. -/
theorem run_of_exec (ok : σ → ℓ → Prop) [∀ s l, Decidable (ok s l)] (P : σ → Prop)
    [DecidablePred P] (ls : List ℓ) (h₀ : M.init s)
    (h : (M.exec ok s ls).any (fun t => P t) = true) : ∃ t, M.Run ok t ∧ P t := by
  obtain ⟨t, ht, hP⟩ := (Option.any_eq_true _ _).mp h
  exact ⟨t, ⟨s, h₀, steps_of_exec ht⟩, of_decide_eq_true hP⟩

theorem runs_of_exec (ok : σ → ℓ → Prop) [∀ s l, Decidable (ok s l)] (P Q : σ → Prop)
    [DecidablePred P] [DecidablePred Q] (ls more : List ℓ) (h₀ : M.init s)
    (h : (M.exec ok s ls).any (fun t => P t ∧ (M.exec ok t more).any (fun u => Q u)) = true) :
    ∃ t u, M.Run ok t ∧ M.Steps ok t u ∧ P t ∧ Q u := by
  obtain ⟨t, hrun, hP, hmore⟩ := run_of_exec ok _ ls h₀ h
  obtain ⟨u, hu, hQ⟩ := (Option.any_eq_true _ _).mp hmore
  exact ⟨t, u, hrun, steps_of_exec hu, hP, of_decide_eq_true hQ⟩

end Machine

end RealityConsole.Framework
