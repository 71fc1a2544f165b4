import RealityConsole.Framework.Machine
import RealityConsole.Controller.Progress
import RealityConsole.NodeHost.Store

/-!
# One node and its controller, step by step

The node host is one process; `Pc` is where it stands, and a crash loses it and keeps the `Disk`. A
step is one transaction on the disk, one exchange with the controller, or one decision of the
process. Its label carries what the model does not decide.

Source: `node-host/src/service.rs`, `sync.rs` and `activation.rs`.
-/

namespace RealityConsole.RevisionSync

open Protocol NodeHost Controller Framework

/-! ### State -/

/-- Who waits for a synchronization to end. -/
inductive Job where
  /-- The `sync` command, run while the service is down. -/
  | oneShot
  /-- A service cycle that found the provider policy unavailable. -/
  | pausedCycle
  /-- A service cycle that reconciles again afterwards. -/
  | cycle
  deriving DecidableEq, Repr

/-- The two reconciliations of a service cycle. -/
inductive Pass where
  | beforeSync
  | afterSync
  deriving DecidableEq, Repr

/-- Where the node's process stands. -/
inductive Pc where
  /-- No process holds the data-directory lock. -/
  | down
  /-- The service waits for its next cycle. -/
  | idle
  /-- The active revision is known to run; the pending one is not loaded yet. -/
  | reconcile (pass : Pass)
  /-- A pending revision differs from the active one. -/
  | resolve (pass : Pass) (revision : Revision) (previous : Option Revision)
  | begin (pass : Pass) (revision : Revision) (previous : Option Revision)
  /-- The journal row is written; the candidate is about to be started. -/
  | activating (pass : Pass) (candidate : RenderedConfig) (previous : Option RenderedConfig)
      (attempt : Nat)
  /-- The candidate was started; its health is being proved. -/
  | stabilizing (pass : Pass) (candidate : RenderedConfig) (previous : Option RenderedConfig)
      (attempt : Nat)
  /-- The previous revision runs again; the rollback is not recorded yet. -/
  | rollingBack (pass : Pass) (revision : Revision) (previous : RenderedConfig)
      (code : ErrorCode)
  /-- The policy is evaluated again before or after the synchronization. -/
  | gate (pass : Pass)
  /-- A synchronization starts with the persisted desired state. -/
  | resume (job : Job)
  /-- `validate_and_report` sends the reports of one scope, oldest first.
      `fetched` tells a newly fetched revision from a resumed one. -/
  | reporting (job : Job) (fetched : Bool) (revision : Revision) (scope : Disk.ReportScope)
      (queue : List LocalResult)
  | validating (job : Job) (fetched : Bool) (revision : Revision)
  | telemetry (job : Job)
  | heartbeat (job : Job)
  | fetch (job : Job) (cursor : Nat)
  deriving DecidableEq, Repr

structure World where
  disk : Disk
  pc : Pc
  /-- Whether the provider policy lets the node serve. -/
  policyAvailable : Bool
  controller : NodeRecord

def Job.failed : Job → Pc
  | oneShot => .down
  | pausedCycle => .idle
  | cycle => .idle

def Job.done : Job → Pc
  | oneShot => .down
  | pausedCycle => .idle
  | cycle => .gate .afterSync

/-- The process after a reconciliation that succeeded. -/
def Pass.done : Pass → Pc
  | beforeSync => .gate .beforeSync
  | afterSync => .idle

/-! ### Labels -/

inductive Delivery where
  | requestLost
  /-- The controller processed the request, the node never learns it. -/
  | responseLost
  | answered

/-- How far the attempt to start the candidate comes. -/
inductive StartOutcome where
  /-- The candidate process runs. -/
  | spawned
  /-- The old runtime could not be stopped. -/
  | stopFailed
  /-- The candidate did not start; the flag tells whether the runtime could be
      stopped and the previous revision restored. -/
  | spawnFailed (code : ErrorCode) (restored : Bool)
  /-- The journal transition failed; the flag tells whether the previous
      revision was restored. -/
  | journalFailed (restored : Bool)

inductive ProofOutcome where
  | healthy
  /-- The candidate is healthy but the commit failed. -/
  | commitFailed (restored : Bool)
  | unhealthy (code : ErrorCode) (restored : Bool)

/-- What `validate_desired_state` does with a received revision. -/
inductive ValidationOutcome where
  /-- No Xray runtime is configured: nothing is recorded. -/
  | noRuntime
  | rejected (code : ErrorCode)
  | validated (digest : Digest)
  /-- Validation could not be carried out. -/
  | failed

inductive Label where
  /-- The controller publishes a desired state to this node. -/
  | publish
  /-- The controller publishes to another node. -/
  | publishElsewhere
  /-- The provider policy changes. -/
  | setPolicy (available : Bool)
  /-- The node spools a telemetry event. -/
  | spool
  | crash
  /-- The service starts; `healthy` tells whether the active revision runs. -/
  | startService (healthy : Bool) (now : Timestamp)
  | startSyncOnce
  | startCycle
  /-- A step of the cycle outside the revision state fails and ends the cycle. -/
  | cycleFails
  | loadPending
  | resolveSuperseded (now : Timestamp)
  | beginActivation (now : Timestamp)
  | startCandidate (outcome : StartOutcome) (now : Timestamp)
  | proveCandidate (outcome : ProofOutcome) (now : Timestamp)
  | commitRollback (now : Timestamp)
  | evaluatePolicy
  | resumeLocalState
  | report (delivery : Delivery) (now : Timestamp)
  | endReport
  | validateDesired (outcome : ValidationOutcome) (startedAt now : Timestamp)
  | syncTelemetry (succeeds : Bool)
  | sendHeartbeat (runtime : NodeRuntimeState) (delivery : Delivery)
  | fetchDesired (delivery : Delivery) (verified : Bool) (now : Timestamp)

/-! ### Service start and recovery -/

def maxActivationAttemptsWithoutPredecessor : Nat := 3

/-- The disk after a transaction that may fail, and whether it succeeded. -/
def attempted (d : Disk) (result : Option Disk) : Disk × Bool :=
  match result with
  | some d' => (d', true)
  | none => (d, false)

/-- `recover_interrupted`: an interrupted activation is rolled back to its predecessor; without one
it is retried, and rejected in the end. -/
def recoverInterrupted (d : Disk) (journal : ActivationJournal) (healthy : Bool)
    (now : Timestamp) : Disk × Bool :=
  match journal.previousRevision, d.active with
  | some _, none => (d, false)
  | some previousRevision, some active =>
    if active.revision = previousRevision ∧ healthy then
      match d.loadCandidate previousRevision with
      | none => (d, false)
      | some previous =>
        attempted d (d.finalizeRolledBack journal previous .xrayUnhealthy now)
    else ((attempted d (d.markRecoveryRequired journal.revision)).1, false)
  | none, active =>
    let result :=
      if journal.attemptCount ≥ maxActivationAttemptsWithoutPredecessor then
        attempted d (d.finalizeRejected journal .xrayStartFailed now)
      else attempted d (d.updateJournalPhase journal.revision .retryPending)
    (result.1, result.2 && (healthy || active.isNone))

def recover (d : Disk) (healthy : Bool) (now : Timestamp) : Disk × Bool :=
  match d.incompleteJournal with
  | none => (d, false)
  | some none => (d, healthy || d.active.isNone)
  | some (some journal) => recoverInterrupted d journal healthy now

/-- `run_until` up to its service loop. Recovery runs only if the provider policy is available. -/
def startService (w : World) (healthy : Bool) (now : Timestamp) : Option World :=
  if w.pc ≠ .down then none
  else if !w.policyAvailable then some { w with pc := .idle }
  else
    let recovered := recover w.disk healthy now
    some { w with disk := recovered.1, pc := if recovered.2 then .idle else .down }

/-! ### Reconciliation -/

/-- `reconcile` up to the choice of a candidate. -/
def loadPending (w : World) : Option World :=
  match w.pc with
  | .reconcile pass =>
    match w.disk.pendingRevision with
    | none => some { w with pc := pass.done }
    | some revision =>
      if w.disk.active.map (·.revision) = some revision then some { w with pc := pass.done }
      else some { w with pc := .resolve pass revision (w.disk.active.map (·.revision)) }
  | _ => none

/-- `reconcile`: an incomplete journal of another revision is settled first. -/
def resolveSuperseded (w : World) (now : Timestamp) : Option World :=
  match w.pc with
  | .resolve pass revision previous =>
    match w.disk.incompleteJournal with
    | none => some { w with pc := .idle }
    | some none => some { w with pc := .begin pass revision previous }
    | some (some journal) =>
      if journal.revision = revision then some { w with pc := .begin pass revision previous }
      else match w.disk.resolveSupersededJournal journal now with
        | none => some { w with pc := .idle }
        | some d => some { w with disk := d, pc := .begin pass revision previous }
  | _ => none

/-- The candidates of an activation: the new revision's and the active one's. -/
def loadCandidates (d : Disk) (revision : Revision) (previous : Option Revision) :
    Option (RenderedConfig × Option RenderedConfig) := do
  let candidate ← d.loadCandidate revision
  match previous with
  | none => return (candidate, none)
  | some previous =>
    let previous ← d.loadCandidate previous
    return (candidate, some previous)

/-- `reconcile`: the journal row is written before anything is started. -/
def beginActivation (w : World) (now : Timestamp) : Option World :=
  match w.pc with
  | .begin pass revision previous =>
    match loadCandidates w.disk revision previous,
        w.disk.beginActivation revision previous now with
    | some (candidate, previousCandidate), some (attempt, d) =>
      some { w with disk := d, pc := .activating pass candidate previousCandidate attempt }
    | _, _ => some { w with pc := .idle }
  | _ => none

/-- `handle_activation_failure` up to the commit of a rollback. `restored` tells whether the failed
runtime was stopped and the previous one proved healthy. -/
def handleActivationFailure (d : Disk) (pass : Pass) (candidate : RenderedConfig)
    (previous : Option RenderedConfig) (attempt : Nat) (code : ErrorCode) (restored : Bool)
    (now : Timestamp) : Disk × Pc :=
  if !restored then ((attempted d (d.markRecoveryRequired candidate.revision)).1, .idle)
  else match previous with
    | some previous =>
      match d.updateJournalPhase candidate.revision .rollingBack with
      | none => (d, .idle)
      | some d => (d, .rollingBack pass candidate.revision previous code)
    | none =>
      if attempt ≥ maxActivationAttemptsWithoutPredecessor then
        match (d.loadJournal candidate.revision).bind fun journal =>
          d.finalizeRejected journal code now with
        | none => (d, .idle)
        | some d => (d, pass.done)
      else ((attempted d (d.updateJournalPhase candidate.revision .retryPending)).1, .idle)

/-- From the written journal row to a running candidate. -/
def startCandidate (w : World) (outcome : StartOutcome) (now : Timestamp) : Option World :=
  match w.pc with
  | .activating pass candidate previous attempt =>
    match outcome with
    | .stopFailed =>
      some { w with
        disk := (attempted w.disk (w.disk.markRecoveryRequired candidate.revision)).1
        pc := .idle }
    | .spawnFailed code restored =>
      let failure :=
        handleActivationFailure w.disk pass candidate previous attempt code restored now
      some { w with disk := failure.1, pc := failure.2 }
    | .journalFailed restored =>
      if restored then some { w with pc := .idle }
      else some { w with
        disk := (attempted w.disk (w.disk.markRecoveryRequired candidate.revision)).1
        pc := .idle }
    | .spawned =>
      match w.disk.updateJournalPhase candidate.revision .stabilizing with
      | none => some { w with pc := .idle }
      | some d => some { w with disk := d, pc := .stabilizing pass candidate previous attempt }
  | _ => none

/-- `stabilize_and_commit_candidate` after the journal transition. -/
def proveCandidate (w : World) (outcome : ProofOutcome) (now : Timestamp) : Option World :=
  match w.pc with
  | .stabilizing pass candidate previous attempt =>
    match outcome with
    | .healthy =>
      match w.disk.finalizeApplied candidate now with
      | none => some { w with pc := .idle }
      | some d => some { w with disk := d, pc := pass.done }
    | .commitFailed restored =>
      if restored then some { w with pc := .idle }
      else some { w with
        disk := (attempted w.disk (w.disk.markRecoveryRequired candidate.revision)).1
        pc := .idle }
    | .unhealthy code restored =>
      let failure :=
        handleActivationFailure w.disk pass candidate previous attempt code restored now
      some { w with disk := failure.1, pc := failure.2 }
  | _ => none

/-- The end of `handle_activation_failure` with a predecessor. -/
def commitRollback (w : World) (now : Timestamp) : Option World :=
  match w.pc with
  | .rollingBack pass revision previous code =>
    match (w.disk.loadJournal revision).bind fun journal =>
      w.disk.finalizeRolledBack journal previous code now with
    | none => some { w with pc := .idle }
    | some d => some { w with disk := d, pc := pass.done }
  | _ => none

/-- `run_cycle` evaluates the policy before and after the synchronization. -/
def evaluatePolicy (w : World) : Option World :=
  match w.pc with
  | .gate .beforeSync =>
    some { w with pc := .resume (if w.policyAvailable then .cycle else .pausedCycle) }
  | .gate .afterSync =>
    some { w with pc := if w.policyAvailable then .reconcile .afterSync else .idle }
  | _ => none

/-! ### Synchronization -/

/-- The process at the start of one pass of `report_unreported_results`. -/
def reportScope (d : Disk) (job : Job) (fetched : Bool) (revision : Revision)
    (scope : Disk.ReportScope) : Pc :=
  .reporting job fetched revision scope (d.unreportedResults scope)

def resumeLocalState (w : World) : Option World :=
  match w.pc with
  | .resume job =>
    match w.disk.verifyPersistedDesiredState with
    | none => some { w with pc := job.failed }
    | some none => some { w with pc := .telemetry job }
    | some (some revision) =>
      some { w with pc := reportScope w.disk job false revision (.receivedFor revision) }
  | _ => none

/-- One request of `report_unreported_results`. -/
def report (w : World) (delivery : Delivery) (now : Timestamp) : Option World :=
  match w.pc with
  | .reporting job fetched revision scope (row :: rest) =>
    match delivery with
    | .requestLost => some { w with pc := job.failed }
    | .responseLost =>
      match w.controller.recordRevisionResult row.revision row.report with
      | .error _ => some { w with pc := job.failed }
      | .ok c => some { w with controller := c, pc := job.failed }
    | .answered =>
      match w.controller.recordRevisionResult row.revision row.report with
      | .error _ => some { w with pc := job.failed }
      | .ok c =>
        match w.disk.markReported row.revision row.report.state now with
        | none => some { w with controller := c, pc := job.failed }
        | some d =>
          some { w with
            disk := d
            controller := c
            pc := .reporting job fetched revision scope rest }
  | _ => none

/-- `validate_and_report` between two reporting passes, and after the last one. -/
def endReport (w : World) : Option World :=
  match w.pc with
  | .reporting job fetched revision (.receivedFor _) [] =>
    if w.disk.receivedResultReported revision then
      some { w with pc := .validating job fetched revision }
    else some { w with pc := job.failed }
  | .reporting job fetched revision (.revision _) [] =>
    if w.disk.revisionResultsReported revision then
      some { w with pc := reportScope w.disk job fetched revision .all }
    else some { w with pc := job.failed }
  | .reporting job fetched _ .all [] =>
    some { w with pc := if fetched then job.done else .telemetry job }
  | _ => none

/-- `validate_desired_state` -/
def validateDesired (w : World) (outcome : ValidationOutcome) (startedAt now : Timestamp) :
    Option World :=
  match w.pc with
  | .validating job fetched revision =>
    let next (d : Disk) : World :=
      { w with disk := d, pc := reportScope d job fetched revision (.revision revision) }
    match w.disk.validationIsComplete revision with
    | none => some { w with pc := job.failed }
    | some true => some (next w.disk)
    | some false =>
      match outcome with
      | .noRuntime => some (next w.disk)
      | .failed => some { w with pc := job.failed }
      | .rejected code =>
        match w.disk.appendRejectedResult revision startedAt now code with
        | none => some { w with pc := job.failed }
        | some d => some (next d)
      | .validated digest =>
        match w.disk.appendValidatedResult revision startedAt now digest with
        | none => some { w with pc := job.failed }
        | some d => some (next d)
  | _ => none

/-- `sync_telemetry`; what it uploads is modelled elsewhere. -/
def syncTelemetry (w : World) (succeeds : Bool) : Option World :=
  match w.pc with
  | .telemetry job => some { w with pc := if succeeds then .heartbeat job else job.failed }
  | _ => none

/-- `send_heartbeat`: the generation is allocated before the request. -/
def sendHeartbeat (w : World) (runtime : NodeRuntimeState) (delivery : Delivery) :
    Option World :=
  match w.pc with
  | .heartbeat job =>
    let d : Disk := { w.disk with heartbeatGeneration := w.disk.heartbeatGeneration + 1 }
    match d.currentHeartbeat w.policyAvailable runtime d.heartbeatGeneration with
    | none => some { w with disk := d, pc := job.failed }
    | some heartbeat =>
      match delivery with
      | .requestLost => some { w with disk := d, pc := job.failed }
      | .responseLost =>
        match w.controller.recordHeartbeat heartbeat with
        | .error _ => some { w with disk := d, pc := job.failed }
        | .ok c => some { w with disk := d, controller := c, pc := job.failed }
      | .answered =>
        match w.controller.recordHeartbeat heartbeat with
        | .error _ => some { w with disk := d, pc := job.failed }
        | .ok c => some { w with
            disk := d, controller := c, pc := .fetch job d.desiredRevisionCursor }
  | _ => none

/-- `fetch_and_process_desired`; `verified` tells whether the envelope passes the node's checks of
its addressing and signature. -/
def fetchDesired (w : World) (delivery : Delivery) (verified : Bool) (now : Timestamp) :
    Option World :=
  match w.pc with
  | .fetch job cursor =>
    match delivery with
    | .requestLost => some { w with pc := job.failed }
    | .responseLost => some { w with pc := job.failed }
    | .answered =>
      match w.controller.desiredStateAfter cursor with
      | .error _ => some { w with pc := job.failed }
      | .ok none => some { w with pc := job.done }
      | .ok (some revision) =>
        if !verified then some { w with pc := job.failed }
        else match w.disk.persistVerifiedDesiredState cursor revision now with
          | none => some { w with pc := job.failed }
          | some d =>
            some { w with
              disk := d
              pc := reportScope d job true revision (.receivedFor revision) }
  | _ => none

/-! ### The system -/

def step (w : World) : Label → Option World
  | .publish =>
    match w.controller.publish with
    | .error _ => none
    | .ok c => some { w with controller := c }
  | .publishElsewhere => some { w with controller := w.controller.publishElsewhere }
  | .setPolicy available => some { w with policyAvailable := available }
  | .spool => some { w with disk := { w.disk with nextSequence := w.disk.nextSequence + 1 } }
  | .crash => if w.pc = .down then none else some { w with pc := .down }
  | .startService healthy now => startService w healthy now
  | .startSyncOnce => if w.pc = .down then some { w with pc := .resume .oneShot } else none
  | .startCycle =>
    if w.pc = .idle then
      some { w with
        pc := if w.policyAvailable then .reconcile .beforeSync else .resume .pausedCycle }
    else none
  | .cycleFails =>
    match w.pc with
    | .reconcile _ => some { w with pc := .idle }
    | .gate _ => some { w with pc := .idle }
    | _ => none
  | .loadPending => loadPending w
  | .resolveSuperseded now => resolveSuperseded w now
  | .beginActivation now => beginActivation w now
  | .startCandidate outcome now => startCandidate w outcome now
  | .proveCandidate outcome now => proveCandidate w outcome now
  | .commitRollback now => commitRollback w now
  | .evaluatePolicy => evaluatePolicy w
  | .resumeLocalState => resumeLocalState w
  | .report delivery now => report w delivery now
  | .endReport => endReport w
  | .validateDesired outcome startedAt now => validateDesired w outcome startedAt now
  | .syncTelemetry succeeds => syncTelemetry w succeeds
  | .sendHeartbeat runtime delivery => sendHeartbeat w runtime delivery
  | .fetchDesired delivery verified now => fetchDesired w delivery verified now

/-- An enrolled, approved node that is not running yet. -/
def initial (policyAvailable : Bool) : World where
  disk := .enrolled
  pc := .down
  policyAvailable := policyAvailable
  controller := .enrolled

def system : Machine World Label where
  init := fun w => ∃ policyAvailable, w = initial policyAvailable
  next := step

end RealityConsole.RevisionSync
