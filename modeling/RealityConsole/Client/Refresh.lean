import RealityConsole.Client.Postcondition

/-!
# A refresh while connected

Whether Xray is restarted is decided before the old and the new profile are compared: a bundle that
is taken over always stops it, and a fetch that brings nothing leaves it alone.
-/

namespace RealityConsole.Client

open Framework Protocol Supervisor

variable {c : ConnectService}

theorem supervisor_ne_of_idle {s s' : Supervisor} (hphase : s.state.phase = .connected)
    (h : s'.Idle) : s' ≠ s := by
  rintro rfl
  exact h.phase_ne hphase

/-- A selection that is applied by force stops Xray, whatever is selected. -/
theorem applySelection_forced {selector : NodeSelector} (now : Nat) (mode : ProxyMode)
    (env : RuntimeEnvironment) (hselector : c.inner.selector = some selector)
    (hphase : c.supervisor.state.phase = .connected) :
    (applySelection now mode true true env c).1.supervisor ≠ c.supervisor := by
  let c₁ : ConnectService := { c with inner := { c.inner with
    selector := some (selector.select now).1, lastReason := some (selector.select now).2.reason } }
  have hrun : decideSelection now c = (c₁, .ok (selector.select now).2) := by
    unfold decideSelection
    rw [hselector]
  unfold applySelection
  rw [Fallible.bind_of_ok hrun]
  cases (selector.select now).2.nodeId with
  | none =>
    have hidle := c.supervisor.stop_idle env.stop
    dsimp only
    rw [if_pos rfl]
    rcases hstop : stopSupervisor env.stop c₁ with ⟨c₂, error | state⟩
    · rw [Fallible.bind_of_error hstop]
      exact supervisor_ne_of_idle hphase (congrArg (·.1.supervisor) hstop ▸ hidle)
    · rw [Fallible.bind_of_ok hstop]
      exact supervisor_ne_of_idle hphase (congrArg (·.1.supervisor) hstop ▸ hidle)
  | some node =>
    dsimp only
    rw [Bool.or_true, if_pos rfl]
    obtain ⟨-, ⟨_, -, -, hok, hgeneration⟩ | ⟨error, herr, hidle⟩⟩ :=
      restart_settled node mode env c₁
    · have hrestart : restart node mode env c₁ = ((restart node mode env c₁).1, .ok ()) :=
        Prod.ext rfl hok
      rw [Fallible.bind_of_ok hrestart]
      exact fun hsame => hgeneration (congrArg Supervisor.generation hsame)
    · have hrestart : restart node mode env c₁ = ((restart node mode env c₁).1, .error error) :=
        Prod.ext rfl herr
      rw [Fallible.bind_of_error hrestart]
      exact supervisor_ne_of_idle hphase hidle

/-- The current bundle must not be used any more. -/
def ConnectService.Expired (c : ConnectService) (now : Nat) : Prop :=
  c.inner.bundle.any (fun bundle => bundle.signed.manifest.offlineExpiresAt ≤ now) = true

instance (c : ConnectService) (now : Nat) : Decidable (c.Expired now) :=
  inferInstanceAs (Decidable (_ = _))

theorem refuseRefresh_leaves {call : ConnectCall} (error : ClientError)
    (hphase : c.supervisor.state.phase = .connected) :
    (refuseRefresh call error c).1.supervisor = c.supervisor ↔ ¬c.Expired call.wallNow := by
  have hread : (Fallible.read : Operation _) c = (c, .ok c) := rfl
  have hidle := c.supervisor.stop_idle call.env.stop
  unfold refuseRefresh
  by_cases hexpired : c.inner.bundle.any
      (fun bundle => bundle.signed.manifest.offlineExpiresAt ≤ call.wallNow) = true
  · refine iff_of_false ?_ (not_not_intro hexpired)
    rcases hstop : stopSupervisor call.env.stop c with ⟨c', failure | state⟩
    · have hpart : stopIfBundleExpired call.wallNow call.env.stop c = (c', .error failure) := by
        unfold stopIfBundleExpired
        rw [Fallible.bind_of_ok hread, if_pos hexpired, Fallible.bind_of_error hstop]
      rw [Fallible.bind_of_error hpart]
      exact supervisor_ne_of_idle hphase (congrArg (·.1.supervisor) hstop ▸ hidle)
    · have hpart : stopIfBundleExpired call.wallNow call.env.stop c = (c', .ok true) := by
        unfold stopIfBundleExpired
        rw [Fallible.bind_of_ok hread, if_pos hexpired, Fallible.bind_of_ok hstop]
        rfl
      rw [Fallible.bind_of_ok hpart]
      exact supervisor_ne_of_idle hphase (congrArg (·.1.supervisor) hstop ▸ hidle)
  · refine iff_of_true ?_ hexpired
    have hpart : stopIfBundleExpired call.wallNow call.env.stop c = (c, .ok false) := by
      unfold stopIfBundleExpired
      rw [Fallible.bind_of_ok hread, if_neg hexpired]
      rfl
    rw [Fallible.bind_of_ok hpart]
    rfl

/-- The fetch changes nothing, or it fails or its bundle is refused while the current one is good.
-/
def LeavesXray (c : ConnectService) (now : Nat) : Fetched → Prop
  | .ok none => True
  | .ok (some bundle) =>
    (selectorFor c.inner bundle.signed.manifest).isOk = false ∧ ¬c.Expired now
  | .error _ => ¬c.Expired now

def sampleConnected : ConnectService := (selectAndConnect sampleCall sampleInstalled).1

end RealityConsole.Client
