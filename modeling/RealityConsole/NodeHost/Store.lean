import Mathlib.Data.List.Sort
import RealityConsole.Protocol.Revision

/-!
# The durable state of a node host

The tables of the node's database that decide which revision runs and what the node reports. Every
function is one transaction or one query; a transaction that fails (`none`) leaves the tables as
they were.

Source: `node-host/src/sync.rs`, `xray.rs` and `activation.rs`.
-/

namespace RealityConsole.NodeHost

open Protocol

inductive JournalPhase where
  | activating
  | stabilizing
  | retryPending
  | applied
  | rollingBack
  | rolledBack
  | rejected
  | recoveryRequired

/-- A terminal journal row is never changed again. -/
def JournalPhase.isTerminal : JournalPhase → Bool
  | applied | rolledBack | rejected | recoveryRequired => true
  | activating | stabilizing | retryPending | rollingBack => false

/-- A row of `local_revision_results`. -/
structure LocalResult where
  revision : Revision
  report : RevisionResult
  /-- When the controller acknowledged it; `none` while unreported. -/
  reportedAt : Option Timestamp
  deriving DecidableEq, Repr

/-- A row of `xray_activation_journal`. -/
structure ActivationJournal where
  revision : Revision
  /-- The revision that was active when the activation began. -/
  previousRevision : Option Revision
  phase : JournalPhase
  attemptCount : Nat
  startedAt : Timestamp

/-- The row of `xray_active_state`, when a revision is active. -/
structure ActiveState where
  revision : Revision
  configDigest : Digest

/-- A row of `rendered_xray_configs`; also what a validated candidate is made of. -/
structure RenderedConfig where
  revision : Revision
  configDigest : Digest
  deriving DecidableEq, Repr

/-- The durable state of one node host. -/
structure Disk where
  /-- `desired_revision_cursor`, zero before the first desired state. -/
  desiredRevisionCursor : Nat
  /-- Revisions of the immutable desired-state artifacts. -/
  artifacts : List Revision
  results : List LocalResult
  rendered : List RenderedConfig
  journal : List ActivationJournal
  active : Option ActiveState
  heartbeatGeneration : Nat
  /-- `next_sequence` of the telemetry spool. -/
  nextSequence : Nat

namespace Disk

def enrolled : Disk where
  desiredRevisionCursor := 0
  artifacts := []
  results := []
  rendered := []
  journal := []
  active := none
  heartbeatGeneration := 0
  nextSequence := 1

/-! ### Revision results -/

/-- `ORDER BY revision, CASE state ..., state`, as a comparison of rows. -/
def reportOrder (a b : LocalResult) : Prop :=
  a.revision < b.revision ∨ a.revision = b.revision ∧
    (a.report.state.rank < b.report.state.rank ∨ a.report.state.rank = b.report.state.rank ∧
      a.report.state.nameOrder ≤ b.report.state.nameOrder)

instance : DecidableRel reportOrder := fun a b => by
  unfold reportOrder; infer_instance

/-- `load_revision_results`: all results of one revision, lowest rank first. -/
def revisionResults (d : Disk) (revision : Revision) : List LocalResult :=
  (d.results.filter fun row => row.revision = revision).insertionSort reportOrder

def latestResult (d : Disk) (revision : Revision) : Option LocalResult :=
  (d.revisionResults revision).getLast?

/-- `insert_revision_result`: the result is well formed, follows the stored ones and its key
(revision, state) is new. -/
def insertRevisionResult (d : Disk) (revision : Revision) (result : RevisionResult) :
    Option Disk :=
  if (result.validate revision).isOk ∧
      (result.validateTransitionFrom ((d.latestResult revision).map (·.report))).isOk ∧
      ∀ row ∈ d.results, ¬(row.revision = revision ∧ row.report.state = result.state) then
    some { d with results := d.results ++ [⟨revision, result, none⟩] }
  else none

def maxPendingReportsPerSync : Nat := 64

/-- The rows of `local_revision_results` that one reporting pass covers. -/
inductive ReportScope where
  | receivedFor (revision : Revision)
  | revision (revision : Revision)
  | all
  deriving DecidableEq, Repr

/-- The `WHERE` clause of a reporting pass. -/
def ReportScope.covers (scope : ReportScope) (row : LocalResult) : Bool :=
  row.reportedAt.isNone &&
    match scope with
    | .receivedFor r => row.revision == r && row.report.state == .received
    | .revision r => row.revision == r
    | .all => true

/-- `load_unreported_results` -/
def unreportedResults (d : Disk) (scope : ReportScope) : List LocalResult :=
  ((d.results.filter scope.covers).insertionSort reportOrder).take maxPendingReportsPerSync

def isReportRow (revision : Revision) (state : RevisionResultState) (row : LocalResult) : Bool :=
  row.revision == revision && row.report.state == state && row.reportedAt.isNone

/-- Marks one report as acknowledged; exactly one row must change. -/
def markReported (d : Disk) (revision : Revision) (state : RevisionResultState)
    (now : Timestamp) : Option Disk :=
  if (d.results.filter (isReportRow revision state)).length = 1 then
    some { d with results := d.results.map fun row =>
      if isReportRow revision state row then { row with reportedAt := some now } else row }
  else none

/-- `ensure_received_result_reported` -/
def receivedResultReported (d : Disk) (revision : Revision) : Bool :=
  (d.results.find? fun row => row.revision == revision && row.report.state == .received).any
    fun row => row.reportedAt.isSome

/-- `ensure_revision_results_reported` -/
def revisionResultsReported (d : Disk) (revision : Revision) : Bool :=
  d.results.all fun row => !(row.revision == revision && row.reportedAt.isNone)

/-! ### Desired state -/

/-- `persist_verified_desired_state`: the artifact, its received result and the cursor are written
together. -/
def persistVerifiedDesiredState (d : Disk) (previousCursor : Nat) (revision : Revision)
    (now : Timestamp) : Option Disk :=
  if d.desiredRevisionCursor = previousCursor ∧ previousCursor < revision ∧
      revision ∉ d.artifacts then
    some { d with
      artifacts := d.artifacts ++ [revision]
      results := d.results ++ [⟨revision, ⟨.received, none, now, now, none, none⟩, none⟩]
      desiredRevisionCursor := revision }
  else none

/-- `verify_persisted_desired_state`: the cursor names the newest artifact. -/
def verifyPersistedDesiredState (d : Disk) : Option (Option Revision) :=
  if d.artifacts.max?.getD 0 = d.desiredRevisionCursor then
    some (if d.desiredRevisionCursor = 0 then none else some d.desiredRevisionCursor)
  else none

def appendRejectedResult (d : Disk) (revision : Revision) (startedAt now : Timestamp)
    (code : ErrorCode) : Option Disk :=
  d.insertRevisionResult revision ⟨.rejected, none, startedAt, now, some code, none⟩

/-- `append_validated_result`: the rendered configuration and the validated result are written
together. -/
def appendValidatedResult (d : Disk) (revision : Revision) (startedAt now : Timestamp)
    (digest : Digest) : Option Disk :=
  if ∀ row ∈ d.rendered, row.revision ≠ revision then
    let d : Disk := { d with rendered := d.rendered ++ [⟨revision, digest⟩] }
    d.insertRevisionResult revision ⟨.validated, some digest, startedAt, now, none, none⟩
  else none

/-- `verify_rendered_config`: the configuration rendered for the revision is the one its result
names. -/
def verifyRenderedConfig (d : Disk) (revision : Revision) (report : RevisionResult) :
    Option RenderedConfig :=
  (d.rendered.find? fun row => row.revision = revision).filter
    fun row => report.configDigest = some row.configDigest

/-- `validation_is_complete`: the stored history starts with `received`, moves monotonically, and is
complete once something follows. -/
def validationIsComplete (d : Disk) (revision : Revision) : Option Bool :=
  let history := (d.revisionResults revision).map (·.report)
  if history.head?.map (·.state) = some .received ∧
      (history.zip history.tail).all fun p => (p.2.validateTransitionFrom (some p.1)).isOk then
    match history.getLast? with
    | none => none
    | some latest =>
      match latest.state with
      | .received => some false
      | .validated | .applied => (d.verifyRenderedConfig revision latest).map fun _ => true
      | .rejected | .rolledBack => some true
  else none

/-- `load_validated_candidate`: the latest result lets the revision run and names the configuration
that was rendered for it. -/
def loadCandidate (d : Disk) (revision : Revision) : Option RenderedConfig :=
  match d.latestResult revision with
  | none => none
  | some latest =>
    if latest.report.state = .validated ∨ latest.report.state = .applied then
      d.verifyRenderedConfig revision latest.report
    else none

/-! ### Activation journal -/

/-- `load_pending_revision`: the cursor's revision, once its validated result is the latest one and
has been acknowledged. -/
def pendingRevision (d : Disk) : Option Revision :=
  if d.desiredRevisionCursor = 0 then none
  else match d.latestResult d.desiredRevisionCursor with
    | none => none
    | some row =>
      if row.report.state = .validated ∧ row.reportedAt.isSome then some d.desiredRevisionCursor
      else none

/-- `load_incomplete_journal`: more than one incomplete row is an error. -/
def incompleteJournal (d : Disk) : Option (Option ActivationJournal) :=
  match d.journal.filter fun j => !j.phase.isTerminal with
  | [] => some none
  | [j] => some (some j)
  | _ => none

def loadJournal (d : Disk) (revision : Revision) : Option ActivationJournal :=
  d.journal.find? fun j => j.revision = revision

/-- Rewrites the incomplete journal row of a revision; exactly one must change. -/
def updateJournal (d : Disk) (revision : Revision) (f : ActivationJournal → ActivationJournal) :
    Option Disk :=
  if (d.journal.filter fun j => j.revision = revision && !j.phase.isTerminal).length = 1 then
    some { d with journal := d.journal.map fun j =>
      if j.revision = revision && !j.phase.isTerminal then f j else j }
  else none

/-- `begin_activation`: a new journal row, or the next attempt of an incomplete one with the same
predecessor. -/
def beginActivation (d : Disk) (revision : Revision) (previous : Option Revision)
    (now : Timestamp) : Option (Nat × Disk) :=
  match d.loadJournal revision with
  | some j =>
    if j.previousRevision = previous ∧ !j.phase.isTerminal then do
      let d ← d.updateJournal revision fun j =>
        { j with phase := .activating, attemptCount := j.attemptCount + 1 }
      return (j.attemptCount + 1, d)
    else none
  | none =>
    if ∀ p ∈ previous, p < revision then
      some (1, { d with journal := d.journal ++ [⟨revision, previous, .activating, 1, now⟩] })
    else none

/-- `update_journal_phase`, for nonterminal phases. -/
def updateJournalPhase (d : Disk) (revision : Revision) (phase : JournalPhase) : Option Disk :=
  if phase.isTerminal then none
  else d.updateJournal revision fun j => { j with phase := phase }

/-- `finish_journal`, for terminal phases. -/
def finishJournal (d : Disk) (revision : Revision) (phase : JournalPhase) : Option Disk :=
  if phase.isTerminal then d.updateJournal revision fun j => { j with phase := phase }
  else none

/-- `finalize_applied`: result, active pointer and journal in one transaction. -/
def finalizeApplied (d : Disk) (candidate : RenderedConfig) (now : Timestamp) : Option Disk := do
  let journal ← d.loadJournal candidate.revision
  let d ← d.insertRevisionResult candidate.revision
    ⟨.applied, some candidate.configDigest, journal.startedAt, now, none, none⟩
  let d := { d with active := some ⟨candidate.revision, candidate.configDigest⟩ }
  d.finishJournal candidate.revision .applied

def finalizeRolledBack (d : Disk) (journal : ActivationJournal) (previous : RenderedConfig)
    (code : ErrorCode) (now : Timestamp) : Option Disk := do
  let d ← d.insertRevisionResult journal.revision
    ⟨.rolledBack, some previous.configDigest, journal.startedAt, now, some code,
      some previous.revision⟩
  d.finishJournal journal.revision .rolledBack

def finalizeRejected (d : Disk) (journal : ActivationJournal) (code : ErrorCode)
    (now : Timestamp) : Option Disk := do
  let d ← d.insertRevisionResult journal.revision
    ⟨.rejected, none, journal.startedAt, now, some code, none⟩
  d.finishJournal journal.revision .rejected

/-- `mark_recovery_required`: terminal, and no result is recorded. -/
def markRecoveryRequired (d : Disk) (revision : Revision) : Option Disk :=
  d.finishJournal revision .recoveryRequired

/-- `resolve_superseded_journal`: an incomplete activation of another revision is settled as rolled
back or as rejected. -/
def resolveSupersededJournal (d : Disk) (journal : ActivationJournal) (now : Timestamp) :
    Option Disk :=
  match journal.previousRevision with
  | some previousRevision => do
    let active ← d.active
    if active.revision = previousRevision then
      let previous ← d.loadCandidate previousRevision
      d.finalizeRolledBack journal previous .stateStale now
    else none
  | none => d.finalizeRejected journal .stateStale now

/-! ### Heartbeat -/

def highestSequence (d : Disk) : Nat := d.nextSequence - 1

/-- `optional_revision`: zero stands for no revision. -/
def optionalRevision (value : Nat) : Option Revision :=
  if value = 0 then none else some value

/-- `COALESCE(MAX(revision), 0)` over all results. -/
def receivedValue (d : Disk) : Nat := (d.results.map (·.revision)).max?.getD 0

/-- A result in one of these states proves that its revision was validated. -/
def countsAsValidated (row : LocalResult) : Bool :=
  row.report.state == .validated || row.report.state == .applied

/-- `COALESCE(MAX(revision), 0)` over the validated and applied results. -/
def validatedValue (d : Disk) : Nat :=
  ((d.results.filter countsAsValidated).map (·.revision)).max?.getD 0

/-- The four cursors of `current_heartbeat_with_relay`. -/
def revisionProgress (d : Disk) : RevisionProgress where
  desiredRevision := optionalRevision d.desiredRevisionCursor
  receivedRevision := optionalRevision d.receivedValue
  validatedRevision := optionalRevision d.validatedValue
  appliedRevision := optionalRevision ((d.active.map (·.revision)).getD 0)

/-- `current_heartbeat_with_relay`: the snapshot the node would send, or an error if its own tables
disagree. A policy that does not allow advertising overrides the runtime state. -/
def currentHeartbeat (d : Disk) (allowsAdvertising : Bool) (runtime : NodeRuntimeState)
    (generation : Nat) : Option NodeHeartbeat :=
  let runtime := if allowsAdvertising then runtime else .providerPaused
  let heartbeat : NodeHeartbeat := {
    heartbeatGeneration := generation
    state := runtime
    revisions := d.revisionProgress
    providerPaused := decide (runtime = .providerPaused)
    telemetryCursor := d.highestSequence }
  if d.receivedValue = d.desiredRevisionCursor ∧ heartbeat.validate.isOk then some heartbeat
  else none

end Disk

end RealityConsole.NodeHost
