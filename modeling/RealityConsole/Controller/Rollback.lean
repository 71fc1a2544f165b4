import RealityConsole.Controller.Policy
import RealityConsole.Framework.Net
import RealityConsole.Framework.Text

/-!
# Operator rollbacks

One transaction looks for an earlier response under the idempotency key, checks every node of the
cohort, publishes one document after the other and stores the response. If a node fails the check,
only a record of the rejection is committed. Keys and requests stand for their digests.
-/

namespace RealityConsole.Controller

open Framework Protocol

/-! ### Requests -/

inductive OperatorRollbackReason where
  | configurationFailure
  | compatibilityFailure
  | fleetRecovery
  | other
  deriving DecidableEq, Repr

def OperatorRollbackTarget.validate (target : OperatorRollbackTarget) (field : String) :
    Checked Unit :=
  refuseWhen (target.failedRevision ≤ target.sourceRevision)
    ⟨.inconsistentState, field, "rollback source revision must precede the failed revision"⟩

structure OperatorCohortRollbackRequest where
  targets : List OperatorRollbackTarget
  reason : OperatorRollbackReason

/-- The loop of `OperatorCohortRollbackRequest::validate`, with the nodes seen so far. -/
def validateTargets : List NodeId → List OperatorRollbackTarget → Checked Unit
  | _, [] => .ok ()
  | nodes, target :: targets => do
    target.validate "targets.sourceRevision"
    refuseWhen (target.nodeId ∈ nodes)
      ⟨.duplicateIdentity, "targets.nodeId", "rollback cohort node IDs must be unique"⟩
    validateTargets (target.nodeId :: nodes) targets

def OperatorCohortRollbackRequest.validate (request : OperatorCohortRollbackRequest) :
    Checked Unit := do
  refuseWhen (request.targets = [] ∨ 100 < request.targets.length)
    ⟨.outOfRange, "targets", "rollback cohort must contain between 1 and 100 nodes"⟩
  validateTargets [] request.targets

theorem validateTargets_ok {nodes : List NodeId} {tgts : List OperatorRollbackTarget} :
    validateTargets nodes tgts = .ok () ↔ (∀ tgt ∈ tgts, tgt.sourceRevision < tgt.failedRevision) ∧
    Unseen nodes (tgts.map (·.nodeId)) := by
  induction tgts generalizing nodes with
  | nil => simp [validateTargets]
  | cons tgt tgts ih =>
    simp only [validateTargets, check_ok, ih, OperatorRollbackTarget.validate, refuse_ok,
      List.map_cons, unseen_cons, List.mem_cons, forall_eq_or_imp, not_le]
    tauto

/-- What `validate` accepts. The order of the targets plays no role. -/
structure OperatorCohortRollbackRequest.Valid (request : OperatorCohortRollbackRequest) :
    Prop where
  nonempty : request.targets ≠ []
  length_le : request.targets.length ≤ 100
  precedes : ∀ target ∈ request.targets, target.sourceRevision < target.failedRevision
  nodup : (request.targets.map (·.nodeId)).Nodup

theorem OperatorCohortRollbackRequest.validate_ok {req : OperatorCohortRollbackRequest} :
    req.validate = .ok () ↔ req.Valid := by
  simp only [validate, check_ok, refuse_ok, validateTargets_ok, unseen_nil_left, not_or, not_lt]
  constructor
  · rintro ⟨⟨h₁, h₂⟩, h₃, h₄⟩
    exact ⟨h₁, h₂, h₃, h₄⟩
  · exact fun h => ⟨⟨h.nonempty, h.length_le⟩, h.precedes, h.nodup⟩

theorem OperatorCohortRollbackRequest.Valid.perm {req other : OperatorCohortRollbackRequest}
    (h : req.Valid) (hperm : other.targets.Perm req.targets) : other.Valid where
  nonempty hnil := h.nonempty (List.nil_perm.1 (hnil ▸ hperm))
  length_le := hperm.length_eq.trans_le h.length_le
  precedes target htarget := h.precedes target (hperm.mem_iff.1 htarget)
  nodup := (hperm.map _).nodup_iff.2 h.nodup

structure OperatorRollbackPublication where
  nodeId : NodeId
  sourceRevision : Revision
  failedRevision : Revision
  revision : Revision
  deriving DecidableEq, Repr

structure OperatorRollbackResponse where
  publications : List OperatorRollbackPublication
  deriving DecidableEq, Repr

/-- The routes under which a key is remembered. -/
inductive RollbackRoute where
  | node
  | cohort
  deriving DecidableEq, Repr

/-! ### Tables -/

inductive NodeCapability where
  | xray
  | directTcp
  | upnp
  | natPmp
  | pcp
  | relayTcp
  deriving DecidableEq, Repr

/-- `nodes.agent_version` and `nodes.capabilities_json` -/
structure HostFacts where
  agentVersion : String
  capabilities : List NodeCapability

/-- A completed row of `idempotency_records`. -/
structure RollbackRecord where
  targets : List OperatorRollbackTarget
  reason : OperatorRollbackReason
  response : OperatorRollbackResponse

inductive RollbackAudit where
  /-- `node.operator-rollback-rejected` -/
  | rejected (target : OperatorRollbackTarget) (reason : OperatorRollbackReason)
      (rejectionCode : String) (now : Nat)
  /-- `node.desired-state-published`, with the reason `operator-rollback` -/
  | desiredStatePublished (node : NodeId) (revision : Revision) (userCount : Nat) (now : Nat)
  /-- `node.operator-rollback-published` -/
  | published (publication : OperatorRollbackPublication) (idempotencyKey : String)
      (reason : OperatorRollbackReason) (now : Nat)

structure RollbackStore where
  policy : PolicyStore
  /-- The columns of the node rows that only a rollback reads. -/
  hosts : NodeId → HostFacts
  records : Table (RollbackRoute × String) RollbackRecord
  audit : List RollbackAudit

inductive RollbackError where
  | protocol (error : ProtocolValidationError)
  | idempotencyKeyConflict
  | policy (error : PolicyError)
  deriving DecidableEq, Repr

/-! ### Versions -/

/-- `str::parse::<u64>` -/
def parseU64 : List Char → Option Nat := parseUnsigned (2 ^ 64)

/-- `numeric_version_core`: up to four numbers, filled up with zeros. -/
def numericVersionCore (value : String) : Option (List Nat) :=
  if value.toList.any fun c => !isDecimalDigit c && c ≠ '.' then none
  else match (value.toList.splitOn '.').mapM parseU64 with
    | none => none
    | some parts =>
      if parts = [] ∨ 4 < parts.length then none
      else some (parts ++ List.replicate (4 - parts.length) 0)

def agentVersionSatisfies (agentVersion minimumVersion : String) : Bool :=
  match numericVersionCore agentVersion, numericVersionCore minimumVersion with
  | some agent, some minimum => minimum ≤ agent
  | _, _ => agentVersion = minimumVersion

def rollbackRejectionCode : PolicyError → String
  | .nodeNotFound => "node_not_found"
  | .rollbackTargetIncompatible => "target_incompatible"
  | .storedDesiredStateCorrupt => "source_artifact_invalid"
  | .desiredState _ => "source_artifact_invalid"
  | _ => "target_invalid"

namespace RollbackStore

variable (identity : ControllerIdentity)

/-! ### Checks -/

def prepareRollbackTarget (s : RollbackStore) (target : OperatorRollbackTarget) :
    Except PolicyError DesiredStateConfigurationDraft := do
  let record ← required (s.policy.nodes.find target.nodeId) .nodeNotFound
  refuseWhen (record.status ≠ .active ∨ record.desiredRevision ≠ some target.failedRevision)
    .rollbackTargetInvalid
  refuseWhen (.xray ∉ (s.hosts target.nodeId).capabilities) .rollbackTargetIncompatible
  let source ← required (s.policy.documents.find (target.nodeId, target.sourceRevision))
    .rollbackTargetInvalid
  let source ← s.policy.verifyDesiredRevision identity target.nodeId source
  refuseWhen ((record.revisionResultState target.sourceRevision .validated).isNone
    ∨ (record.revisionResultState target.sourceRevision .applied).isNone) .rollbackTargetInvalid
  refuseWhen (¬ ∃ failed ∈ record.latestRevisionResult target.failedRevision,
    failed.state = .rejected ∨ failed.state = .rolledBack) .rollbackTargetInvalid
  refuseWhen (!agentVersionSatisfies (s.hosts target.nodeId).agentVersion
    source.document.minAgentVersion) .rollbackTargetIncompatible
  return configurationOf source

/-- The first loop of `operator_rollback`: what is to be published, or the first target that
fails. -/
def prepareTargets (s : RollbackStore) :
    List OperatorRollbackTarget →
      Except (OperatorRollbackTarget × PolicyError)
        (List (OperatorRollbackTarget × DesiredStateConfigurationDraft))
  | [] => .ok []
  | target :: targets => do
    let configuration ← (s.prepareRollbackTarget identity target).mapError fun e => (target, e)
    let prepared ← s.prepareTargets targets
    return (target, configuration) :: prepared

/-! ### Publications -/

/-- The second loop of `operator_rollback`. -/
def publishTargets (s : RollbackStore) (key : String) (reason : OperatorRollbackReason)
    (draws : Draws) (now : Nat) :
    List (OperatorRollbackTarget × DesiredStateConfigurationDraft) →
      Except PolicyError (RollbackStore × List OperatorRollbackPublication)
  | [] => .ok (s, [])
  | (target, configuration) :: prepared => do
    let users ← (s.policy.members.compileDesiredUsers target.nodeId).mapError .members
    let policy ← s.policy.publishCompiledDesiredState identity target.nodeId configuration users
      (draws.canary target.nodeId) now
    let publication : OperatorRollbackPublication :=
      ⟨target.nodeId, target.sourceRevision, target.failedRevision, s.policy.lastRevision + 1⟩
    let published : RollbackStore :=
      { s with
        policy := policy
        audit := s.audit ++
          [.desiredStatePublished target.nodeId publication.revision users.length now,
            .published publication key reason now] }
    let (s, publications) ← published.publishTargets key reason draws now prepared
    return (s, publication :: publications)

def loadRollbackReplay (s : RollbackStore) (route : RollbackRoute) (key : String)
    (targets : List OperatorRollbackTarget) (reason : OperatorRollbackReason) :
    Except RollbackError (Option OperatorRollbackResponse) :=
  match s.records.find (route, key) with
  | none => .ok none
  | some record =>
    if record.targets = targets ∧ record.reason = reason then .ok (some record.response)
    else .error .idempotencyKeyConflict

/-- The order of `sort_by_key`. -/
def nodeOrder (a b : OperatorRollbackTarget) : Prop := a.nodeId ≤ b.nodeId

instance : DecidableRel nodeOrder := fun a b =>
  inferInstanceAs (Decidable (a.nodeId ≤ b.nodeId))

instance : Std.Total nodeOrder := ⟨fun a b => BitVec.le_total a.nodeId b.nodeId⟩

instance : IsTrans OperatorRollbackTarget nodeOrder := ⟨fun _ _ _ => BitVec.le_trans⟩

theorem insertionSort_eq_iff_perm {targets others : List OperatorRollbackTarget}
    (hnd : (targets.map (·.nodeId)).Nodup) :
    targets.insertionSort nodeOrder = others.insertionSort nodeOrder ↔ others.Perm targets := by
  constructor
  · intro heq
    exact (List.perm_insertionSort nodeOrder others).symm.trans
      (heq ▸ List.perm_insertionSort nodeOrder targets)
  · intro hperm
    have hsort : (targets.insertionSort nodeOrder).Perm (others.insertionSort nodeOrder) :=
      (List.perm_insertionSort nodeOrder targets).trans
        (hperm.symm.trans (List.perm_insertionSort nodeOrder others).symm)
    refine hsort.eq_of_pairwise ?_ (List.pairwise_insertionSort nodeOrder targets)
      (List.pairwise_insertionSort nodeOrder others)
    intro a b ha hb hab hba
    have ha := (List.perm_insertionSort nodeOrder targets).mem_iff.1 ha
    have hb := hperm.mem_iff.1 ((List.perm_insertionSort nodeOrder others).mem_iff.1 hb)
    exact List.inj_on_of_nodup_map hnd ha hb (BitVec.le_antisymm hab hba)

/-- `operator_rollback`: the tables after the transaction, and the answer. -/
def operatorRollback (s : RollbackStore) (targets : List OperatorRollbackTarget)
    (reason : OperatorRollbackReason) (key : String) (route : RollbackRoute) (draws : Draws)
    (now : Nat) : RollbackStore × Except RollbackError OperatorRollbackResponse :=
  let targets := targets.insertionSort nodeOrder
  match s.loadRollbackReplay route key targets reason with
  | .error e => (s, .error e)
  | .ok (some response) => (s, .ok response)
  | .ok none =>
    match s.prepareTargets identity targets with
    | .error (target, e) =>
      -- the rejection is committed, and nothing else
      ({ s with audit := s.audit ++ [.rejected target reason (rollbackRejectionCode e) now] },
        .error (.policy e))
    | .ok prepared =>
      match s.publishTargets identity key reason draws now prepared with
      | .error e => (s, .error (.policy e))
      | .ok (published, publications) =>
        ({ published with
            records := published.records.insert (route, key) ⟨targets, reason, ⟨publications⟩⟩ },
          .ok ⟨publications⟩)

def rollbackCohort (s : RollbackStore) (request : OperatorCohortRollbackRequest) (key : String)
    (draws : Draws) (now : Nat) :
    RollbackStore × Except RollbackError OperatorRollbackResponse :=
  match request.validate with
  | .error e => (s, .error (.protocol e))
  | .ok () => s.operatorRollback identity request.targets request.reason key .cohort draws now

def rollbackNode (s : RollbackStore) (target : OperatorRollbackTarget)
    (reason : OperatorRollbackReason) (key : String) (draws : Draws) (now : Nat) :
    RollbackStore × Except RollbackError OperatorRollbackResponse :=
  match target.validate "sourceRevision" with
  | .error e => (s, .error (.protocol e))
  | .ok () => s.operatorRollback identity [target] reason key .node draws now

end RollbackStore

end RealityConsole.Controller
