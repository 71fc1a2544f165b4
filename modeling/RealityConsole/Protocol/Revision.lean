import RealityConsole.Protocol.Validation

/-!
# Revision results and revision progress

One `RevisionResult` for each lifecycle state a desired revision reaches, and the `RevisionProgress`
cursors that every heartbeat carries. A revision number is positive; an absent cursor is `none`. A
digest is a number standing for its 32 bytes.
-/

namespace RealityConsole.Protocol

open Framework

/-- A desired-state revision number. -/
abbrev Revision := Nat

/-- Seconds since the epoch. -/
abbrev Timestamp := Nat

/-- A SHA-256 digest, up to equality. -/
abbrev Digest := Nat

/-- The stable error codes that a node puts into a revision result. -/
inductive ErrorCode where
  | schemaUnsupported
  | stateStale
  | stateConflict
  | validationFailed
  | xrayStartFailed
  | xrayUnhealthy
  | admissionBindFailed
  | admissionUnhealthy
  | rollbackFailed
  deriving DecidableEq, Repr

/-- Lifecycle of one desired revision at a node. -/
inductive RevisionResultState where
  | received
  | validated
  | applied
  | rejected
  | rolledBack
  deriving DecidableEq, Repr

namespace RevisionResultState

/-- Monotonic rank; the three terminal states share the highest one. -/
def rank : RevisionResultState → Nat
  | received => 10
  | validated => 20
  | applied => 30
  | rejected => 30
  | rolledBack => 30

/-- No result may follow a terminal one. -/
def isTerminal : RevisionResultState → Bool
  | applied => true
  | rejected => true
  | rolledBack => true
  | _ => false

/-- The place of the wire names in alphabetical order: applied, received, rejected, rolledBack,
validated. -/
def nameOrder : RevisionResultState → Nat
  | applied => 0
  | received => 1
  | rejected => 2
  | rolledBack => 3
  | validated => 4

end RevisionResultState

/-- Node report for one desired-state revision. -/
structure RevisionResult where
  /-- Monotonic result state. -/
  state : RevisionResultState
  /-- Digest of the generated active configuration, when available. -/
  configDigest : Option Digest
  /-- Start of the bounded apply attempt. -/
  startedAt : Timestamp
  /-- Completion of this state. -/
  completedAt : Timestamp
  /-- Stable safe diagnostic for a rejected or rolled-back revision. -/
  errorCode : Option ErrorCode
  /-- Prior revision restored after failure. -/
  rollbackRevision : Option Revision
  deriving DecidableEq, Repr

namespace RevisionResult

def validate (r : RevisionResult) (revision : Revision) : Checked Unit := do
  refuseWhen (r.completedAt < r.startedAt)
    ⟨.inconsistentState, "completedAt", "completion cannot precede start"⟩
  match r.state with
  | .received =>
    requireAbsent r.configDigest "configDigest"
    requireAbsent r.errorCode "errorCode"
    requireAbsent r.rollbackRevision "rollbackRevision"
  | .validated | .applied =>
    requirePresent r.configDigest "configDigest"
    requireAbsent r.errorCode "errorCode"
    requireAbsent r.rollbackRevision "rollbackRevision"
  | .rejected =>
    requirePresent r.errorCode "errorCode"
    requireAbsent r.rollbackRevision "rollbackRevision"
  | .rolledBack =>
    requirePresent r.configDigest "configDigest"
    requirePresent r.errorCode "errorCode"
    match r.rollbackRevision with
    | none =>
      throw ⟨.missingField, "rollbackRevision",
        "rolled-back state requires the restored revision"⟩
    | some rollback =>
      refuseWhen (rollback ≥ revision)
        ⟨.inconsistentState, "rollbackRevision",
          "rollback revision must precede the failed revision"⟩

/-- Validates a monotonic transition from a previously committed result. Repeating an identical
result is idempotent. -/
def validateTransitionFrom (r : RevisionResult) : Option RevisionResult → Checked Unit
  | none => .ok ()
  | some previous =>
    if r = previous then .ok ()
    else refuseWhen (r.state = previous.state ∨ previous.state.isTerminal ∨
        r.state.rank ≤ previous.state.rank)
      ⟨.invalidTransition, "state",
        "revision result transition must move monotonically to a new state"⟩

end RevisionResult

/-! ### Progress cursors -/

/-- The four lifecycle cursors of a heartbeat. -/
structure RevisionProgress where
  desiredRevision : Option Revision
  receivedRevision : Option Revision
  validatedRevision : Option Revision
  appliedRevision : Option Revision
  deriving DecidableEq, Repr

/-- `validate_revision_pair`: a cursor needs its predecessor and may not pass it. -/
def validateRevisionPair (upper lower : Option Revision) (lowerField : String) : Checked Unit :=
  match upper, lower with
  | none, some _ =>
    .error ⟨.inconsistentState, lowerField,
      "revision progress cannot skip a preceding lifecycle state"⟩
  | some upper, some lower =>
    refuseWhen (lower > upper)
      ⟨.inconsistentState, lowerField,
        "revision progress cannot exceed its preceding lifecycle state"⟩
  | _, none => .ok ()

/-- Validates `desired >= received >= validated >= applied` and presence. -/
def RevisionProgress.validate (p : RevisionProgress) : Checked Unit := do
  validateRevisionPair p.desiredRevision p.receivedRevision "receivedRevision"
  validateRevisionPair p.receivedRevision p.validatedRevision "validatedRevision"
  validateRevisionPair p.validatedRevision p.appliedRevision "appliedRevision"

/-- What the node's runtime is doing when it sends a heartbeat. -/
inductive NodeRuntimeState where
  | pending
  | idle
  | serving
  | providerPaused
  | degraded
  | quarantined
  | stopped
  deriving DecidableEq, Repr

/-- Current-state heartbeat from the node host, without its endpoint candidates and version
texts. -/
structure NodeHeartbeat where
  /-- Durable, monotonically increasing identity of this snapshot. -/
  heartbeatGeneration : Nat
  state : NodeRuntimeState
  /-- Lifecycle cursors. -/
  revisions : RevisionProgress
  /-- Must agree with `state`. -/
  providerPaused : Bool
  /-- Highest telemetry sequence the node has spooled. -/
  telemetryCursor : Nat
  deriving DecidableEq, Repr

def NodeHeartbeat.validate (h : NodeHeartbeat) : Checked Unit := do
  refuseWhen (h.heartbeatGeneration = 0)
    ⟨.outOfRange, "heartbeatGeneration", "heartbeat generation must be positive"⟩
  h.revisions.validate
  refuseWhen (h.providerPaused ≠ decide (h.state = .providerPaused))
    ⟨.inconsistentState, "providerPaused", "providerPaused must agree with the runtime state"⟩

end RealityConsole.Protocol
