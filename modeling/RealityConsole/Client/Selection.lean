import RealityConsole.Client.Connection

/-!
# Node selection of the client

The deterministic state machine that decides which node of the bundle is used.
It remembers the node it has activated; a decision says which node is selected
now and whether that is a change from the remembered one.
-/

namespace RealityConsole.Client

open Framework Protocol

inductive SelectionMode where
  | manual (node : NodeId)
  | automatic
  | pinnedFallback (order : List NodeId)

/-- `ProbeOutcome`; a latency is in nanoseconds. -/
inductive ProbeOutcome where
  | healthy (latency : Nat)
  | failed

inductive SelectionReason where
  | manual
  | minimumHold
  | withinTolerance
  | automaticInitial
  | automaticBetterCandidate
  | failureThreshold
  | pinnedInitial
  | pinnedRecovery
  | unavailable

structure SelectionDecision where
  nodeId : Option NodeId
  /-- Whether the active node changed. -/
  changed : Bool
  reason : SelectionReason

structure Health where
  latency : Option Nat
  consecutiveFailures : Nat

/-- `SelectionPolicy`, in nanoseconds. -/
structure SelectionPolicy where
  minimumHold : Nat
  latencyTolerance : Nat
  failureThreshold : Nat

def selectionError (code : String) : ClientError :=
  ⟨code, "The node selection policy is invalid."⟩

def SelectionPolicy.tryFrom (hints : SelectionHints) : Except ClientError SelectionPolicy :=
  if 86400 < hints.minimumHoldSeconds ∨ 60000 < hints.latencyToleranceMilliseconds
      ∨ hints.failureThreshold < 1 ∨ 100 < hints.failureThreshold then
    .error (selectionError "selection_hints_out_of_range")
  else
    .ok ⟨hints.minimumHoldSeconds * 1000000000, hints.latencyToleranceMilliseconds * 1000000,
      hints.failureThreshold⟩

/-- `NodeSelector`; a candidate is a node with its priority. -/
structure NodeSelector where
  mode : SelectionMode
  policy : SelectionPolicy
  candidates : SortedMap NodeId Nat
  health : SortedMap NodeId Health
  active : Option NodeId
  selectedAt : Option Nat

def validateMode : SelectionMode → Except ClientError Unit
  | .pinnedFallback order =>
    if order = [] ∨ 1000 < order.length then .error (selectionError "pinned_fallback_invalid")
    else if ¬order.Nodup then .error (selectionError "pinned_fallback_duplicate")
    else .ok ()
  | _ => .ok ()

def candidatesOf (profiles : List ProfileDescriptor) : SortedMap NodeId Nat :=
  SortedMap.collect (profiles.map fun profile => (profile.nodeId, profile.priority))

namespace NodeSelector

/-! ### Changes without a decision -/

def new (mode : SelectionMode) (hints : SelectionHints) (profiles : List ProfileDescriptor) :
    Except ClientError NodeSelector := do
  validateMode mode
  let policy ← SelectionPolicy.tryFrom hints
  return ⟨mode, policy, candidatesOf profiles, [], none, none⟩

def setMode (s : NodeSelector) (mode : SelectionMode) : Except ClientError NodeSelector := do
  validateMode mode
  return { s with mode }

/-- The remembered node, unless it is not a candidate any more. -/
def keepCandidate (s : NodeSelector) : NodeSelector :=
  if s.active.any fun node => !s.candidates.hasKey node then
    { s with active := none, selectedAt := none }
  else s

def reconcileBundle (s : NodeSelector) (hints : SelectionHints)
    (profiles : List ProfileDescriptor) : Except ClientError NodeSelector := do
  let policy ← SelectionPolicy.tryFrom hints
  let candidates := candidatesOf profiles
  return keepCandidate
    { s with policy, candidates, health := s.health.retain fun node => candidates.hasKey node }

def Health.observe (health : Health) : ProbeOutcome → Health
  | .healthy latency => ⟨some latency, 0⟩
  | .failed => { health with consecutiveFailures := min (health.consecutiveFailures + 1) 65535 }

/-- `NodeSelector::observe` -/
def observe (s : NodeSelector) (node : NodeId) (outcome : ProbeOutcome) : NodeSelector :=
  let health := (s.health.lookup node).getD ⟨none, 0⟩
  if s.candidates.hasKey node then
    { s with health := s.health.store node (Health.observe health outcome) }
  else s

def observeAll (s : NodeSelector) (outcomes : List (NodeId × ProbeOutcome)) : NodeSelector :=
  outcomes.foldl (fun s outcome => s.observe outcome.1 outcome.2) s

/-! ### Questions -/

def healthy (s : NodeSelector) (node : NodeId) : Bool :=
  s.candidates.hasKey node && (s.health.lookup node).any fun health =>
    health.latency.isSome && health.consecutiveFailures < s.policy.failureThreshold

def failed (s : NodeSelector) (node : NodeId) : Bool :=
  !s.candidates.hasKey node || (s.health.lookup node).any fun health =>
    s.policy.failureThreshold ≤ health.consecutiveFailures

def holding (s : NodeSelector) (now : Nat) : Bool :=
  s.selectedAt.any fun selected => now - selected < s.policy.minimumHold

def durationMax : Nat := 18446744073709551615 * 1000000000 + 999999999

/-- The measured latency of a node. Every candidate has been probed when a decision asks for it. -/
def latencyOf (s : NodeSelector) (node : NodeId) : Nat :=
  ((s.health.lookup node).bind (·.latency)).getD durationMax

/-- Signed priority first, then latency, then identity. -/
def before (s : NodeSelector) (a b : NodeId × Nat) : Bool :=
  a.2 < b.2 || (a.2 = b.2 && (s.latencyOf a.1 < s.latencyOf b.1
    || (s.latencyOf a.1 = s.latencyOf b.1 && a.1 < b.1)))

def bestAutomatic (s : NodeSelector) : Option NodeId :=
  ((s.candidates.filter fun candidate => s.healthy candidate.1).foldl
    (fun best candidate => some (best.elim candidate fun best =>
      if s.before candidate best then candidate else best)) none).map (·.1)

/-! ### Decisions -/

def activate (s : NodeSelector) (node : NodeId) (now : Nat) (reason : SelectionReason) :
    NodeSelector × SelectionDecision :=
  if s.active = some node then (s, ⟨some node, false, reason⟩)
  else ({ s with active := some node, selectedAt := some now }, ⟨some node, true, reason⟩)

def keep (s : NodeSelector) (reason : SelectionReason) : NodeSelector × SelectionDecision :=
  (s, ⟨s.active, false, reason⟩)

def clear (s : NodeSelector) (reason : SelectionReason) : NodeSelector × SelectionDecision :=
  ({ s with active := none, selectedAt := none }, ⟨none, s.active.isSome, reason⟩)

def selectManual (s : NodeSelector) (requested : NodeId) (now : Nat) :
    NodeSelector × SelectionDecision :=
  if s.candidates.hasKey requested then s.activate requested now .manual
  else s.clear .unavailable

/-- The comparison of a healthy best candidate with the active node, past the hold. -/
def compareAutomatic (s : NodeSelector) (best active : NodeId) (now : Nat) :
    NodeSelector × SelectionDecision :=
  let bestPriority := (s.candidates.lookup best).getD 0
  let activePriority := (s.candidates.lookup active).getD 0
  if bestPriority < activePriority then s.activate best now .automaticBetterCandidate
  else if bestPriority = activePriority
      ∧ min (s.latencyOf best + s.policy.latencyTolerance) durationMax < s.latencyOf active then
    s.activate best now .automaticBetterCandidate
  else s.keep .withinTolerance

def selectAutomatic (s : NodeSelector) (now : Nat) : NodeSelector × SelectionDecision :=
  match s.bestAutomatic, s.active with
  | none, none => s.clear .unavailable
  | none, some active => if s.failed active then s.clear .unavailable else s.keep .withinTolerance
  | some best, none => s.activate best now .automaticInitial
  | some best, some active =>
    if s.failed active then
      if best = active then s.clear .unavailable else s.activate best now .failureThreshold
    else if best = active then s.keep .withinTolerance
    else if s.holding now then s.keep .minimumHold
    else s.compareAutomatic best active now

def selectPinned (s : NodeSelector) (order : List NodeId) (now : Nat) :
    NodeSelector × SelectionDecision :=
  match order.find? s.healthy, s.active with
  | none, none => s.clear .unavailable
  | none, some active => if s.failed active then s.clear .unavailable else s.keep .minimumHold
  | some best, none => s.activate best now .pinnedInitial
  | some best, some active =>
    if s.failed active then s.activate best now .failureThreshold
    else if best = active then s.keep .withinTolerance
    else if s.holding now then s.keep .minimumHold
    -- a node outside of the order has no index, and `None` is the least
    else if active ∈ order ∧ order.idxOf best < order.idxOf active then
      s.activate best now .pinnedRecovery
    else s.keep .withinTolerance

def select (s : NodeSelector) (now : Nat) : NodeSelector × SelectionDecision :=
  match s.mode with
  | .manual node => s.selectManual node now
  | .automatic => s.selectAutomatic now
  | .pinnedFallback order => s.selectPinned order now

/-! ### What a decision says -/

/-- A decision reports the node that is remembered afterwards, and whether it is another one than
before. -/
structure Reports (s s' : NodeSelector) (decision : SelectionDecision) : Prop where
  node : decision.nodeId = s'.active
  changed : decision.changed = true ↔ s'.active ≠ s.active

theorem activate_reports (s : NodeSelector) (node : NodeId) (now : Nat) (reason : SelectionReason) :
    Reports s (s.activate node now reason).1 (s.activate node now reason).2 := by
  unfold activate
  by_cases hact : s.active = some node
  · rw [if_pos hact]
    exact ⟨hact.symm, by simp⟩
  · rw [if_neg hact]
    exact ⟨rfl, by simpa using Ne.symm hact⟩

theorem keep_reports (s : NodeSelector) (reason : SelectionReason) :
    Reports s (s.keep reason).1 (s.keep reason).2 :=
  ⟨rfl, by simp [keep]⟩

theorem clear_reports (s : NodeSelector) (reason : SelectionReason) :
    Reports s (s.clear reason).1 (s.clear reason).2 := by
  refine ⟨rfl, ?_⟩
  show s.active.isSome = true ↔ none ≠ s.active
  cases s.active <;> simp

theorem compareAutomatic_reports (s : NodeSelector) (best active : NodeId) (now : Nat) :
    Reports s (s.compareAutomatic best active now).1 (s.compareAutomatic best active now).2 := by
  simp only [compareAutomatic]
  repeat' split
  all_goals first | exact s.activate_reports _ _ _ | exact s.keep_reports _

theorem select_reports (s : NodeSelector) (now : Nat) :
    Reports s (s.select now).1 (s.select now).2 := by
  -- every branch of the three modes ends in one of the three moves
  have hactv := s.activate_reports
  have hkeep := s.keep_reports
  have hclear := s.clear_reports
  unfold select
  split
  · unfold selectManual
    split
    · exact hactv _ _ _
    · exact hclear _
  · have hcompare := s.compareAutomatic_reports
    unfold selectAutomatic
    repeat' split
    all_goals first
      | exact hactv _ _ _
      | exact hkeep _
      | exact hclear _
      | exact hcompare _ _ _
  · unfold selectPinned
    repeat' split
    all_goals first | exact hactv _ _ _ | exact hkeep _ | exact hclear _

@[simp] theorem observe_active (s : NodeSelector) (node : NodeId) (outcome : ProbeOutcome) :
    (s.observe node outcome).active = s.active := by
  unfold observe
  split <;> rfl

@[simp] theorem observeAll_active (s : NodeSelector) (outcomes : List (NodeId × ProbeOutcome)) :
    (s.observeAll outcomes).active = s.active := by
  unfold observeAll
  induction outcomes generalizing s with
  | nil => rfl
  | cons outcome outcomes ih => rw [List.foldl_cons, ih, observe_active]

theorem reconcileBundle_active {s s' : NodeSelector} {hints : SelectionHints}
    {profiles : List ProfileDescriptor} (h : s.reconcileBundle hints profiles = .ok s') :
    s'.active = s.active ∨ s'.active = none := by
  obtain ⟨pol, h⟩ := rest_ok h
  cases h
  unfold keepCandidate
  split
  · exact .inr rfl
  · exact .inl rfl

end NodeSelector

end RealityConsole.Client
