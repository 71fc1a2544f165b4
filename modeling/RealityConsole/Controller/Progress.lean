import Mathlib.Data.List.MinMax
import RealityConsole.Protocol.Revision

/-!
# Revision progress at the controller

A result is folded into four cursors when it arrives (`recordRevisionResult`); a heartbeat is
accepted only if the node reports exactly these cursors (`validateReportedProgress`).
-/

namespace RealityConsole.Controller

open Protocol Framework

inductive NodeStatus where
  | pending
  | active
  | disabled
  | revoked
  deriving DecidableEq, Repr

/-- `status IN ('pending', 'active')`: the node may talk to the controller. -/
def NodeStatus.mayReport : NodeStatus → Bool
  | pending => true
  | active => true
  | _ => false

inductive NodeLifecycleAction where
  | approve
  | disable
  | revoke
  deriving DecidableEq, Repr

/-- `node_lifecycle_target`: the status after the action; `none` if it is refused. -/
def nodeLifecycleTarget : NodeLifecycleAction → NodeStatus → Option NodeStatus
  | .approve, .revoked => none
  | .approve, _ => some .active
  | .disable, .revoked => none
  | .disable, _ => some .disabled
  | .revoke, _ => some .revoked

inductive ProgressError where
  /-- A protocol value failed its own validation. -/
  | protocol (error : ProtocolValidationError)
  | nodeRevoked
  | nodeHeartbeatStale
  | nodeHeartbeatConflict
  | nodeProgressRegressed
  | nodeProgressConflict
  | revisionResultConflict
  | revisionTargetNotFound
  | desiredStatePublicationConflict (currentStatus : NodeStatus)
  deriving DecidableEq, Repr

structure NodeRecord where
  status : NodeStatus
  /-- The revision the node should run. -/
  desiredRevision : Option Revision
  /-- The desired revision the node last said it knows. -/
  reportedDesiredRevision : Option Revision
  receivedRevision : Option Revision
  validatedRevision : Option Revision
  appliedRevision : Option Revision
  telemetryCursor : Nat
  lastHeartbeatGeneration : Nat
  /-- Stands for the stored digest of the last heartbeat. -/
  lastHeartbeat : Option NodeHeartbeat
  /-- The revisions published to this node. -/
  targets : List Revision
  /-- The append-only log of revision results. -/
  results : List (Revision × RevisionResult)
  /-- The network's last revision number, shared by all nodes. -/
  lastRevision : Revision

namespace NodeRecord

def enrolled : NodeRecord where
  status := .active
  desiredRevision := none
  reportedDesiredRevision := none
  receivedRevision := none
  validatedRevision := none
  appliedRevision := none
  telemetryCursor := 0
  lastHeartbeatGeneration := 0
  lastHeartbeat := none
  targets := []
  results := []
  lastRevision := 0

/-! ### Publication -/

/-- The effect of `publish_compiled_desired_state` on the progress record. -/
def publish (c : NodeRecord) : Except ProgressError NodeRecord :=
  if c.status = .active then
    .ok { c with
      desiredRevision := some (c.lastRevision + 1)
      targets := c.targets ++ [c.lastRevision + 1]
      lastRevision := c.lastRevision + 1 }
  else .error (.desiredStatePublicationConflict c.status)

/-- A publication to another node of the network takes the next revision number. -/
def publishElsewhere (c : NodeRecord) : NodeRecord :=
  { c with lastRevision := c.lastRevision + 1 }

/-- `desired_state_after`: the newest desired revision, if the node lacks it. -/
def desiredStateAfter (c : NodeRecord) (afterRevision : Nat) :
    Except ProgressError (Option Revision) :=
  if c.status.mayReport then .ok (c.desiredRevision.filter fun r => r > afterRevision)
  else .error .nodeRevoked

/-! ### Revision results -/

def validateResultTarget (c : NodeRecord) (revision : Revision) : Except ProgressError Unit := do
  refuseWhen (!c.status.mayReport) .nodeRevoked
  refuseWhen (c.desiredRevision.any fun target => revision > target) .revisionResultConflict
  refuseWhen (revision ∉ c.targets) .revisionTargetNotFound

/-- `load_latest_revision_result`: the stored result of highest rank. -/
def latestRevisionResult (c : NodeRecord) (revision : Revision) : Option RevisionResult :=
  ((c.results.filter fun p => p.1 = revision).map Prod.snd).argmax fun r => r.state.rank

/-- `load_revision_result_state` -/
def revisionResultState (c : NodeRecord) (revision : Revision) (state : RevisionResultState) :
    Option RevisionResult :=
  (c.results.find? fun p => p.1 = revision ∧ p.2.state = state).map Prod.snd

/-- `validate_result_dependencies`: an applied or rolled-back revision was validated, and a rollback
restores a revision that was applied. -/
def validateResultDependencies (c : NodeRecord) (revision : Revision) (result : RevisionResult) :
    Except ProgressError Unit :=
  match result.state, c.revisionResultState revision .validated with
  | .applied, some validated =>
    refuseWhen (validated.configDigest ≠ result.configDigest) .revisionResultConflict
  | .rolledBack, some _ =>
    match result.rollbackRevision.bind fun rollback => c.revisionResultState rollback .applied with
    | none => .error .revisionResultConflict
    | some applied =>
      refuseWhen (applied.configDigest ≠ result.configDigest) .revisionResultConflict
  | .applied, none | .rolledBack, none => .error .revisionResultConflict
  | _, _ => .ok ()

def appendRevisionResult (c : NodeRecord) (revision : Revision) (result : RevisionResult) :
    NodeRecord :=
  { c with results := c.results ++ [(revision, result)] }

/-- The SQL expression `max(COALESCE(cursor, 0), revision)`. -/
def advance (cursor : Option Revision) (revision : Revision) : Option Revision :=
  some (max (cursor.getD 0) revision)

/-- `update_revision_progress_cache`. An applied revision moves the applied cursor forward; a
rollback sets it to the restored revision. -/
def updateRevisionProgressCache (c : NodeRecord) (revision : Revision) (result : RevisionResult) :
    Except ProgressError NodeRecord :=
  let c := { c with
    reportedDesiredRevision := advance c.reportedDesiredRevision revision
    receivedRevision := advance c.receivedRevision revision }
  match result.state with
  | .received | .rejected => .ok c
  | .validated => .ok { c with validatedRevision := advance c.validatedRevision revision }
  | .applied => .ok { c with
      validatedRevision := advance c.validatedRevision revision
      appliedRevision := advance c.appliedRevision revision }
  | .rolledBack =>
    match result.rollbackRevision with
    | none => .error .revisionResultConflict
    | some rollback => .ok { c with
        validatedRevision := advance c.validatedRevision revision
        appliedRevision := some rollback }

/-- `record_revision_result`: a repetition of the latest result has no effect; a new one is appended
and folded into the cursors. -/
def recordRevisionResult (c : NodeRecord) (revision : Revision) (result : RevisionResult) :
    Except ProgressError NodeRecord := do
  (result.validate revision).mapError .protocol
  c.validateResultTarget revision
  (result.validateTransitionFrom (c.latestRevisionResult revision)).mapError
    fun _ => .revisionResultConflict
  if c.latestRevisionResult revision = some result then return c
  c.validateResultDependencies revision result
  (c.appendRevisionResult revision result).updateRevisionProgressCache revision result

/-! ### Heartbeats -/

def ensureMonotonicCursor (previous reported : Option Revision) : Except ProgressError Unit :=
  match previous, reported with
  | some _, none => .error .nodeProgressRegressed
  | some previous, some reported => refuseWhen (reported < previous) .nodeProgressRegressed
  | none, _ => .ok ()

def validateReportedDesiredRevision (c : NodeRecord) (reported : Option Revision) :
    Except ProgressError Unit := do
  ensureMonotonicCursor c.reportedDesiredRevision reported
  match reported with
  | none => .ok ()
  | some reported =>
    refuseWhen (c.desiredRevision.all fun target => reported > target) .nodeProgressConflict
    refuseWhen (reported ∉ c.targets) .nodeProgressConflict

/-- `ensure_authoritative_progress`: the node must report the controller's own value. -/
def ensureAuthoritativeProgress (authoritative reported : Option Revision) :
    Except ProgressError Unit :=
  if authoritative = reported then .ok ()
  else match authoritative, reported with
    | some _, none => .error .nodeProgressRegressed
    | some authoritative, some reported =>
      if reported < authoritative then .error .nodeProgressRegressed
      else .error .nodeProgressConflict
    | none, _ => .error .nodeProgressConflict

def validateReportedProgress (c : NodeRecord) (heartbeat : NodeHeartbeat) :
    Except ProgressError Unit := do
  refuseWhen (!c.status.mayReport) .nodeRevoked
  c.validateReportedDesiredRevision heartbeat.revisions.desiredRevision
  ensureAuthoritativeProgress c.receivedRevision heartbeat.revisions.receivedRevision
  ensureAuthoritativeProgress c.validatedRevision heartbeat.revisions.validatedRevision
  ensureAuthoritativeProgress c.appliedRevision heartbeat.revisions.appliedRevision
  refuseWhen (heartbeat.telemetryCursor < c.telemetryCursor) .nodeProgressRegressed

/-- `record_heartbeat`, without the endpoint candidates of the heartbeat. -/
def recordHeartbeat (c : NodeRecord) (heartbeat : NodeHeartbeat) :
    Except ProgressError NodeRecord := do
  heartbeat.validate.mapError .protocol
  refuseWhen (!c.status.mayReport) .nodeRevoked
  refuseWhen (heartbeat.heartbeatGeneration < c.lastHeartbeatGeneration) .nodeHeartbeatStale
  if heartbeat.heartbeatGeneration = c.lastHeartbeatGeneration ∧ c.lastHeartbeat = some heartbeat
    then return c
  refuseWhen (heartbeat.heartbeatGeneration = c.lastHeartbeatGeneration) .nodeHeartbeatConflict
  c.validateReportedProgress heartbeat
  return { c with
    reportedDesiredRevision := heartbeat.revisions.desiredRevision
    telemetryCursor := heartbeat.telemetryCursor
    lastHeartbeatGeneration := heartbeat.heartbeatGeneration
    lastHeartbeat := some heartbeat }

/-! ### What a recorded result changes -/

def provesValidated : RevisionResultState → Bool
  | .validated | .applied | .rolledBack => true
  | .received | .rejected => false

variable {c c' : NodeRecord} {revision : Revision} {result : RevisionResult}

theorem mem_results_of_latest (h : c.latestRevisionResult revision = some result) :
    (revision, result) ∈ c.results := by
  have hmem := List.argmax_mem (Option.mem_def.2 h)
  obtain ⟨⟨r, res⟩, hp, rfl⟩ := List.mem_map.1 hmem
  simp only [List.mem_filter, decide_eq_true_eq] at hp
  obtain ⟨hp, rfl⟩ := hp
  exact hp

/-- The record after a new result: the log grows by it, the received and the validated cursor take
it in. -/
structure Recorded (c c' : NodeRecord) (revision : Revision) (result : RevisionResult) :
    Prop where
  results : c'.results = c.results ++ [(revision, result)]
  reportedDesired : c'.reportedDesiredRevision = advance c.reportedDesiredRevision revision
  received : c'.receivedRevision = advance c.receivedRevision revision
  validated : c'.validatedRevision =
    if provesValidated result.state then advance c.validatedRevision revision
    else c.validatedRevision
  applied : c'.appliedRevision = match result.state with
    | .applied => advance c.appliedRevision revision
    | .rolledBack => result.rollbackRevision
    | _ => c.appliedRevision
  rollbackPresent : result.state = .rolledBack → result.rollbackRevision.isSome
  status : c'.status = c.status
  desired : c'.desiredRevision = c.desiredRevision
  targets : c'.targets = c.targets
  lastRevision : c'.lastRevision = c.lastRevision
  telemetry : c'.telemetryCursor = c.telemetryCursor
  generation : c'.lastHeartbeatGeneration = c.lastHeartbeatGeneration

theorem recorded_of_update
    (h : (c.appendRevisionResult revision result).updateRevisionProgressCache revision result =
      .ok c') : Recorded c c' revision result := by
  simp only [updateRevisionProgressCache, appendRevisionResult] at h
  cases hst : result.state with
  | rolledBack =>
    cases hroll : result.rollbackRevision with
    | none => simp [hst, hroll] at h
    | some rollback =>
      simp only [hst, hroll, Except.ok.injEq] at h
      subst h
      constructor <;> simp [provesValidated, hst, hroll]
  | _ =>
    simp only [hst, Except.ok.injEq] at h
    subst h
    constructor <;> simp [provesValidated, hst]

/-- A result that may follow the latest one and differs from it was not recorded before. -/
theorem notMem_results_of_transition
    (htr : result.validateTransitionFrom (c.latestRevisionResult revision) = .ok ())
    (hne : c.latestRevisionResult revision ≠ some result) : (revision, result) ∉ c.results := by
  intro hmem
  have hin : result ∈ (c.results.filter fun p => p.1 = revision).map Prod.snd :=
    List.mem_map.2 ⟨(revision, result), by simpa using hmem, rfl⟩
  cases hlatest : c.latestRevisionResult revision with
  | none =>
    rw [latestRevisionResult, List.argmax_eq_none] at hlatest
    simp [hlatest] at hin
  | some latest =>
    have hle : result.state.rank ≤ latest.state.rank := List.le_of_mem_argmax (f := fun r :
      RevisionResult => r.state.rank) hin (Option.mem_def.2 hlatest)
    have hdiff : result ≠ latest := by
      intro heq
      exact hne (heq ▸ hlatest)
    rw [hlatest, RevisionResult.validateTransitionFrom, if_neg hdiff, refuse_ok] at htr
    exact htr (.inr (.inr hle))

/-- What an accepted revision result does: nothing if it repeats a stored one. -/
theorem record_cases (h : c.recordRevisionResult revision result = .ok c') :
    (c' = c ∧ (revision, result) ∈ c.results) ∨
      ((revision, result) ∉ c.results ∧ Recorded c c' revision result) := by
  simp only [recordRevisionResult, bind_ok, mapError_ok] at h
  obtain ⟨_, _, _, _, _, htr, h⟩ := h
  split at h
  · rename_i hlatest
    simp only [pure, Except.pure, Except.ok.injEq] at h
    exact .inl ⟨h.symm, mem_results_of_latest hlatest⟩
  · rename_i hne
    obtain ⟨_, h⟩ := rest_ok h
    exact .inr ⟨notMem_results_of_transition htr hne, recorded_of_update h⟩

theorem mem_results_of_record (h : c.recordRevisionResult revision result = .ok c') :
    (revision, result) ∈ c'.results := by
  obtain ⟨rfl, hmem⟩ | ⟨_, hrec⟩ := record_cases h
  · exact hmem
  · rw [hrec.results]
    exact List.mem_append_right _ (List.mem_singleton_self _)

theorem heartbeat_cases {beat : NodeHeartbeat} (h : c.recordHeartbeat beat = .ok c') :
    c' = c ∨ c' = { c with
      reportedDesiredRevision := beat.revisions.desiredRevision
      telemetryCursor := beat.telemetryCursor
      lastHeartbeatGeneration := beat.heartbeatGeneration
      lastHeartbeat := some beat } := by
  simp only [recordHeartbeat, bind_ok] at h
  obtain ⟨_, _, _, _, _, _, h⟩ := h
  split at h
  · left
    simpa [pure, Except.pure] using h.symm
  right
  simp only [bind_ok, pure, Except.pure, Except.ok.injEq] at h
  obtain ⟨_, _, _, _, h⟩ := h
  exact h.symm

end NodeRecord

end RealityConsole.Controller
