import RealityConsole.Controller.Assignments
import RealityConsole.Framework.Table

/-!
# Member policy and desired documents

The operations by which accounts, assignments, nodes and canaries change, each one transaction with
the publications it makes. `config_revisions` and `node_revision_targets` are one table, since a
revision is published together with its target row.
-/

namespace RealityConsole.Controller

open Framework Protocol

/-- `ControllerIdentity`: the signing key of the controller. -/
structure ControllerIdentity where
  scheme : SignatureScheme DesiredStateDocument
  key : PublicKey

structure DesiredStateConfigurationDraft where
  minAgentVersion : String
  xray : DesiredXrayState

def DesiredStateConfigurationDraft.withUsers (configuration : DesiredStateConfigurationDraft)
    (users : List DesiredUser) : DesiredStateDraft :=
  ⟨configuration.minAgentVersion, users, configuration.xray⟩

def configurationOf (signed : SignedDesiredState) : DesiredStateConfigurationDraft :=
  ⟨signed.document.minAgentVersion, signed.document.xray⟩

structure OperatorRollbackTarget where
  nodeId : NodeId
  sourceRevision : Revision
  failedRevision : Revision
  deriving DecidableEq, Repr

/-- The identities that an operation draws, for each node it touches. -/
structure Draws where
  assignment : NodeId → FreshAssignment
  canary : NodeId → FreshCanary

/-- The tables that decide which member may use which node. -/
structure PolicyStore where
  networkId : NetworkId
  /-- `networks.controller_epoch` -/
  controllerInstanceId : ControllerInstanceId
  lastRevision : Nat
  members : Members
  nodes : Table NodeId NodeRecord
  /-- `endpoint_canary_credentials` -/
  canaries : List CanaryCredential
  /-- `config_revisions` with `node_revision_targets` -/
  documents : Table (NodeId × Revision) SignedDesiredState
  /-- `node_revision_member_snapshots` with `node_revision_member_credentials` -/
  snapshots : Table (NodeId × Revision) (List CredentialId)
  /-- `node_revision_canary_credentials` -/
  revisionCanaries : Table (NodeId × Revision) CredentialId

def supportedDesiredStateSchemaVersions : List Nat := [1, 2]

namespace PolicyStore

variable (identity : ControllerIdentity)

/-! ### Publication -/

/-- `verify_desired_revision`. The digests of the stored texts are not modelled. -/
def verifyDesiredRevision (s : PolicyStore) (node : NodeId) (signed : SignedDesiredState) :
    Except PolicyError SignedDesiredState := do
  (signed.document.validateFor s.networkId node s.controllerInstanceId none
    supportedDesiredStateSchemaVersions).mapError fun e => .desiredState (.protocol e)
  refuseWhen (signed.document.signingKeyId ≠ ed25519SigningKeyId identity.key)
    .storedDesiredStateCorrupt
  (verifyDesiredStateSignature identity.scheme signed.document signed.signature
    identity.key).mapError fun e => .desiredState (.crypto e)
  return signed

def loadLatestNodeDesired (s : PolicyStore) (node : NodeId) :
    Except PolicyError SignedDesiredState := do
  let record ← required (s.nodes.find node) .nodeNotFound
  refuseWhen (record.status ≠ .active)
    (.progress (.desiredStatePublicationConflict record.status))
  let revision ← required record.desiredRevision .nodeConfigurationMissing
  let signed ← required (s.documents.find (node, revision)) .storedDesiredStateCorrupt
  s.verifyDesiredRevision identity node signed

def published (s : PolicyStore) (node : NodeId) (record : NodeRecord)
    (users : List Members.CompiledDesiredUser) (canary : CanaryCredential × List CanaryCredential)
    (signed : SignedDesiredState) : PolicyStore :=
  { s with
    lastRevision := s.lastRevision + 1
    canaries := canary.2
    nodes := s.nodes.updateAt node fun _ => record
    documents := s.documents.insert (node, s.lastRevision + 1) signed
    snapshots := s.snapshots.insert (node, s.lastRevision + 1)
      (users.map (·.user.credentialId))
    revisionCanaries := s.revisionCanaries.insert (node, s.lastRevision + 1)
      canary.1.credentialId }

/-- `publish_compiled_desired_state`. The row of the node shows the network's last revision, which
the publication advances. -/
def publishCompiledDesiredState (s : PolicyStore) (node : NodeId)
    (configuration : DesiredStateConfigurationDraft) (users : List Members.CompiledDesiredUser)
    (fresh : FreshCanary) (now : Nat) : Except PolicyError PolicyStore := do
  refuseWhen (9223372036854775807 < s.lastRevision + 1) .revisionOverflow
  let canary := ensureEndpointCanaryCredential s.canaries node fresh
  let artifact ← (buildSignedDesiredState identity.scheme
    ⟨identity.key, s.networkId, node, s.lastRevision + 1, now, s.controllerInstanceId⟩
    (configuration.withUsers (documentUsers users canary.1))).mapError .desiredState
  let row ← required (s.nodes.find node) .nodeNotFound
  let record ← ({ row with lastRevision := s.lastRevision }.publish).mapError .progress
  return s.published node record users canary artifact.envelope

def compileAndPublish (s : PolicyStore) (node : NodeId)
    (configuration : DesiredStateConfigurationDraft) (draws : Draws) (now : Nat) :
    Except PolicyError PolicyStore := do
  let users ← (s.members.compileDesiredUsers node).mapError .members
  s.publishCompiledDesiredState identity node configuration users (draws.canary node) now

def publishAccountRevisions (s : PolicyStore) (draws : Draws) (now : Nat) :
    List NodeId → Except PolicyError PolicyStore
  | [] => .ok s
  | node :: rest => do
    let current ← s.loadLatestNodeDesired identity node
    let s ← s.compileAndPublish identity node (configurationOf current) draws now
    s.publishAccountRevisions draws now rest

/-! ### Accounts -/

def createAccount (s : PolicyStore) (userId : UserId) : Except PolicyError PolicyStore := do
  let members ← s.members.insertAccount userId
  return { s with members := members }

def loadAccountStatus (s : PolicyStore) (userId : UserId) : Except PolicyError AccountStatus :=
  required ((s.members.users.find? fun u => u.userId = userId).map (·.status)) .accountNotFound

def validateAssignmentNodes (s : PolicyStore) : List NodeId → Except PolicyError Unit
  | [] => .ok ()
  | node :: rest => do
    let record ← required (s.nodes.find node) .nodeNotFound
    refuseWhen (record.status ≠ .active) (.nodeUnavailableForAssignment node record.status)
    s.validateAssignmentNodes rest

def replaceAccountNodes (s : PolicyStore) (userId : UserId) (nodeIds : List NodeId)
    (draws : Draws) (now : Nat) : Except PolicyError PolicyStore := do
  let status ← s.loadAccountStatus userId
  refuseWhen (status ≠ .active) (.accountLifecycleConflict status)
  let requested := nodeIds.dedup.insertionSort (· ≤ ·)
  s.validateAssignmentNodes requested
  let existing := s.members.storedAssignments userId
  let (members, enabled) ←
    s.members.enableRequestedAssignments userId existing draws.assignment requested
  let disabled := members.disableOmittedAssignments requested existing
  { s with members := disabled.1 }.publishAccountRevisions identity draws now
    ((enabled ++ disabled.2).insertionSort (· ≤ ·))

/-- `load_publishable_account_nodes` -/
def publishableAccountNodes (s : PolicyStore) (userId : UserId) : List NodeId :=
  ((s.members.enabledAssignments userId).filter fun a =>
    (s.nodes.find a.nodeId).any fun record => record.status = .active).map (·.nodeId)

def setAccountStatus (s : PolicyStore) (userId : UserId) (requested : AccountStatus)
    (draws : Draws) (now : Nat) : Except PolicyError PolicyStore := do
  let current ← s.loadAccountStatus userId
  refuseWhen (current = .deleted ∧ requested ≠ .deleted) (.accountLifecycleConflict current)
  if current = requested then return s
  let members ← s.members.applyAccountStatusTransition userId
    (fun node => (draws.assignment node).credential) requested
  { s with members := members }.publishAccountRevisions identity draws now
    (s.publishableAccountNodes userId)

/-- The policy part of a password change, a consumed reset token, a session reset and a device
revocation. -/
def rotateAccountCredentials (s : PolicyStore) (userId : UserId) (draws : Draws) (now : Nat) :
    Except PolicyError PolicyStore := do
  let (members, affected) ← s.members.rotateAccountCredentials userId
    fun node => (draws.assignment node).credential
  { s with members := members }.publishAccountRevisions identity draws now affected

/-! ### Nodes -/

/-- The rows of `insert_node_records`. -/
def insertNode (s : PolicyStore) (node : NodeId) (status : NodeStatus) : PolicyStore :=
  { s with nodes := s.nodes.insert node { NodeRecord.enrolled with status := status } }

/-- `enroll_node`. A node that brings a configuration is active at once
(`apply_invitation_bootstrap`). -/
def enrollNode (s : PolicyStore) (node : NodeId)
    (configuration : Option DesiredStateConfigurationDraft) (draws : Draws) (now : Nat) :
    Except PolicyError PolicyStore := do
  refuseWhen (s.nodes.find node).isSome .constraint
  match configuration with
  | none => .ok (s.insertNode node .pending)
  | some configuration =>
    (s.insertNode node .active).publishCompiledDesiredState identity node configuration []
      (draws.canary node) now

def transitionNode (s : PolicyStore) (node : NodeId) (action : NodeLifecycleAction) :
    Except PolicyError PolicyStore := do
  let record ← required (s.nodes.find node) .nodeNotFound
  let target ← required (nodeLifecycleTarget action record.status)
    (.nodeLifecycleConflict action record.status)
  return { s with
    nodes := s.nodes.updateAt node fun row => { row with status := target }
    members := s.members.closeNodeMemberAccess node action }

def publishDesiredState (s : PolicyStore) (node : NodeId)
    (configuration : DesiredStateConfigurationDraft) (draws : Draws) (now : Nat) :
    Except PolicyError PolicyStore := do
  let record ← required (s.nodes.find node) .nodeNotFound
  refuseWhen (record.status ≠ .active)
    (.progress (.desiredStatePublicationConflict record.status))
  s.compileAndPublish identity node configuration draws now

/-- `prepare_rollback_target`; `compatible` says whether the node's capabilities and version allow
the source document. -/
def prepareRollbackTarget (s : PolicyStore) (compatible : OperatorRollbackTarget → Bool)
    (target : OperatorRollbackTarget) :
    Except PolicyError (NodeId × DesiredStateConfigurationDraft) := do
  let record ← required (s.nodes.find target.nodeId) .nodeNotFound
  refuseWhen (record.status ≠ .active ∨ record.desiredRevision ≠ some target.failedRevision)
    .rollbackTargetInvalid
  let source ← required (s.documents.find (target.nodeId, target.sourceRevision))
    .rollbackTargetInvalid
  let source ← s.verifyDesiredRevision identity target.nodeId source
  refuseWhen ((record.revisionResultState target.sourceRevision .validated).isNone
    ∨ (record.revisionResultState target.sourceRevision .applied).isNone) .rollbackTargetInvalid
  refuseWhen (¬ ∃ failed ∈ record.latestRevisionResult target.failedRevision,
    failed.state = .rejected ∨ failed.state = .rolledBack) .rollbackTargetInvalid
  refuseWhen (!compatible target) .rollbackTargetIncompatible
  return (target.nodeId, configurationOf source)

/-- The loop of `operator_rollback` over the prepared targets. -/
def publishRollbacks (s : PolicyStore) (draws : Draws) (now : Nat) :
    List (NodeId × DesiredStateConfigurationDraft) → Except PolicyError PolicyStore
  | [] => .ok s
  | (node, configuration) :: rest => do
    let s ← s.compileAndPublish identity node configuration draws now
    s.publishRollbacks draws now rest

/-- `operator_rollback` of a request that is not a replay. -/
def operatorRollback (s : PolicyStore) (targets : List OperatorRollbackTarget)
    (compatible : OperatorRollbackTarget → Bool) (draws : Draws) (now : Nat) :
    Except PolicyError PolicyStore := do
  let prepared ← (targets.insertionSort fun a b => a.nodeId ≤ b.nodeId).mapM
    (s.prepareRollbackTarget identity compatible)
  s.publishRollbacks identity draws now prepared

def memberSnapshotMatches (s : PolicyStore) (node : NodeId) (revision : Revision)
    (users : List Members.CompiledDesiredUser) : Bool :=
  (s.snapshots.find (node, revision)).any fun stored =>
    stored.insertionSort (· ≤ ·) = (users.map (·.user.credentialId)).insertionSort (· ≤ ·)

/-- Whether `reconcile_node_desired_state` keeps the current document. -/
def isReconciled (s : PolicyStore) (node : NodeId) (current : SignedDesiredState)
    (users : List Members.CompiledDesiredUser) (canary : CanaryCredential) : Bool :=
  current.document.users = (documentUsers users canary).insertionSort userOrder
    && s.memberSnapshotMatches node current.document.revision users
    && !(s.nodes.find node).any fun record => record.results.any fun entry =>
      entry.1 = current.document.revision
        && (entry.2.state = .rejected || entry.2.state = .rolledBack)

def reconcileNodeDesiredState (s : PolicyStore) (node : NodeId) (draws : Draws) (now : Nat) :
    Except PolicyError PolicyStore := do
  let current ← s.loadLatestNodeDesired identity node
  let users ← (s.members.compileDesiredUsers node).mapError .members
  let canary := ensureEndpointCanaryCredential s.canaries node (draws.canary node)
  if s.isReconciled node current users canary.1 then return { s with canaries := canary.2 }
  { s with canaries := canary.2 }.publishCompiledDesiredState identity node
    (configurationOf current) users (draws.canary node) now

/-- `rotate_protocol_canary` on these tables. The publication finds the new canary. -/
def rotateProtocolCanary (s : PolicyStore) (node : NodeId) (draws : Draws) (now : Nat) :
    Except PolicyError PolicyStore := do
  let current ← s.loadLatestNodeDesired identity node
  { s with canaries := rotateCanary s.canaries node (draws.canary node) }.compileAndPublish
    identity node (configurationOf current) draws now

/-! ### Reports -/

/-- `reconcile_applied_member_credentials`: a revision without a snapshot is no authority. -/
def reconcileApplied (s : PolicyStore) (node : NodeId) (record : NodeRecord) :
    Except PolicyError PolicyStore := do
  let applied ← required record.appliedRevision (.progress .revisionResultConflict)
  match s.snapshots.find (node, applied) with
  | none => .ok s
  | some snapshot =>
    .ok { s with members := s.members.reconcileAppliedMemberCredentials node snapshot }

/-- `record_revision_result`: a repeated result has no effect. -/
def recordRevisionResult (s : PolicyStore) (node : NodeId) (revision : Revision)
    (result : RevisionResult) : Except PolicyError PolicyStore := do
  let record ← required (s.nodes.find node) .nodeNotFound
  let after ← (record.recordRevisionResult revision result).mapError .progress
  if record.latestRevisionResult revision = some result then return s
  let stored : PolicyStore := { s with nodes := s.nodes.updateAt node fun _ => after }
  if result.state = .applied ∨ result.state = .rolledBack then stored.reconcileApplied node after
  else return stored

/-- `record_heartbeat` on these tables. -/
def recordHeartbeat (s : PolicyStore) (node : NodeId) (heartbeat : NodeHeartbeat) :
    Except PolicyError PolicyStore := do
  let record ← required (s.nodes.find node) .nodeNotFound
  let after ← (record.recordHeartbeat heartbeat).mapError .progress
  return { s with nodes := s.nodes.updateAt node fun _ => after }

end PolicyStore

end RealityConsole.Controller
