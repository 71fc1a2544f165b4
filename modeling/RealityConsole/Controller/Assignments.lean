import RealityConsole.Controller.Desired
import RealityConsole.Controller.Members
import RealityConsole.Controller.Progress

/-!
# Changes of the member tables

The statements by which the controller's operations change accounts, assignments and credentials,
without the clock readings that only `CHECK` constraints read.
-/

namespace RealityConsole.Controller

open Protocol Framework

/-- Failures of the operations on members, nodes and desired documents. -/
inductive PolicyError where
  | nodeNotFound
  | accountNotFound
  | accountLifecycleConflict (currentStatus : AccountStatus)
  | accountAssignmentConflict (nodeId : NodeId) (currentStatus : AssignmentStatus)
  | nodeUnavailableForAssignment (nodeId : NodeId) (currentStatus : NodeStatus)
  | nodeLifecycleConflict (action : NodeLifecycleAction) (currentStatus : NodeStatus)
  | nodeConfigurationMissing
  | storedDesiredStateCorrupt
  | revisionOverflow
  | credentialVersionOverflow
  | rollbackTargetInvalid
  | rollbackTargetIncompatible
  /-- A key of the schema would be violated. -/
  | constraint
  | members (error : MembersError)
  | progress (error : ProgressError)
  | desiredState (error : DesiredStateError)
  deriving DecidableEq, Repr

/-- `status IN ('pending', 'active')`: the credential compiles. -/
def CredentialStatus.isLive : CredentialStatus → Bool
  | pending => true
  | active => true
  | _ => false

/-- A credential that is taken out of service: an active one may still be in use. -/
def CredentialStatus.retire : CredentialStatus → CredentialStatus
  | pending => revoked
  | active => retiring
  | status => status

/-- The two updates of `reconcile_applied_member_credentials` on one credential. -/
def CredentialStatus.reconcile : CredentialStatus → Bool → CredentialStatus
  | pending, true => active
  | active, false => revoked
  | retiring, false => revoked
  | status, _ => status

structure FreshCredential where
  credentialId : CredentialId
  vlessUuid : String

/-- The identities that a new assignment draws, its first credential included. -/
structure FreshAssignment where
  assignmentId : AssignmentId
  credential : FreshCredential

namespace Members

/-! ### Status updates -/

def updateStatuses (m : Members) (user : Account → AccountStatus)
    (assignment : Assignment → AssignmentStatus) (credential : Credential → CredentialStatus) :
    Members where
  users := m.users.map fun u => { u with status := user u }
  assignments := m.assignments.map fun a => { a with status := assignment a }
  credentials := m.credentials.map fun c => { c with status := credential c }

def revokeAssignmentCredentials (m : Members) (id : AssignmentId) : Members :=
  m.updateStatuses (·.status) (·.status)
    fun c => if c.assignmentId = id then .revoked else c.status

def disableAssignment (m : Members) (id : AssignmentId) : Members :=
  m.updateStatuses (·.status)
    (fun a => if a.assignmentId = id ∧ a.status = .enabled then .disabled else a.status)
    fun c => if c.assignmentId = id then c.status.retire else c.status

/-- The update of `enable_requested_assignments` on a disabled assignment. -/
def enableAssignment (m : Members) (id : AssignmentId) : Members :=
  m.updateStatuses (·.status)
    (fun a => if a.assignmentId = id ∧ a.status = .disabled then .enabled else a.status)
    (·.status)

def closeNodeMemberAccess (m : Members) (node : NodeId) : NodeLifecycleAction → Members
  | .approve => m
  | .disable => m.updateStatuses (·.status)
      (fun a => if a.nodeId = node ∧ a.status = .enabled then .disabled else a.status)
      fun c => if c.nodeId = node then .revoked else c.status
  | .revoke => m.updateStatuses (·.status)
      (fun a => if a.nodeId = node then .deleted else a.status)
      fun c => if c.nodeId = node then .revoked else c.status

/-- `reconcile_applied_member_credentials` against the snapshot of the applied revision. -/
def reconcileAppliedMemberCredentials (m : Members) (node : NodeId)
    (snapshot : List CredentialId) : Members :=
  m.updateStatuses (·.status) (·.status) fun c =>
    if c.nodeId = node then c.status.reconcile (c.credentialId ∈ snapshot) else c.status

/-! ### New rows -/

/-- `COALESCE(MAX(version), 0)` -/
def previousVersion (m : Members) (id : AssignmentId) : Nat :=
  ((m.credentials.filter fun c => c.assignmentId = id).map (·.version)).foldr max 0

def issueAssignmentCredential (m : Members) (assignmentId : AssignmentId) (userId : UserId)
    (nodeId : NodeId) (fresh : FreshCredential) : Except PolicyError Members := do
  let version := m.previousVersion assignmentId + 1
  refuseWhen (9223372036854775807 < version) .credentialVersionOverflow
  refuseWhen (¬ ∃ a ∈ m.assignments,
    a.assignmentId = assignmentId ∧ a.userId = userId ∧ a.nodeId = nodeId) .constraint
  refuseWhen (∃ c ∈ m.credentials, c.credentialId = fresh.credentialId
    ∨ (c.nodeId = nodeId ∧ c.vlessUuid = fresh.vlessUuid)) .constraint
  return { m with credentials := m.credentials ++
    [⟨fresh.credentialId, assignmentId, userId, nodeId, fresh.vlessUuid, version, .pending⟩] }

/-- The insertion into `user_node_assignments`. -/
def insertAssignment (m : Members) (row : Assignment) : Except PolicyError Members := do
  refuseWhen (¬ ∃ u ∈ m.users, u.userId = row.userId) .constraint
  refuseWhen (∃ a ∈ m.assignments, a.assignmentId = row.assignmentId
    ∨ (a.userId = row.userId ∧ a.nodeId = row.nodeId)) .constraint
  return { m with assignments := m.assignments ++ [row] }

/-- The insertion of `create_account`. -/
def insertAccount (m : Members) (userId : UserId) : Except PolicyError Members := do
  refuseWhen (∃ u ∈ m.users, u.userId = userId) .constraint
  return { m with users := m.users ++ [⟨userId, .active⟩] }

/-! ### The assignments of an account -/

/-- `load_stored_assignments`, in the order of the nodes. -/
def storedAssignments (m : Members) (userId : UserId) : List Assignment :=
  (m.assignments.filter fun a => a.userId = userId).insertionSort fun a b => a.nodeId ≤ b.nodeId

/-- The stored assignments that the loops below act on. -/
def enabledAssignments (m : Members) (userId : UserId) : List Assignment :=
  (m.storedAssignments userId).filter fun a => a.status = .enabled

/-- The loop that gives each assignment a new credential in place of its old ones. -/
def rotateAssignments (m : Members) (userId : UserId) (fresh : NodeId → FreshCredential) :
    List Assignment → Except PolicyError Members
  | [] => .ok m
  | a :: rest => do
    let m ← (m.revokeAssignmentCredentials a.assignmentId).issueAssignmentCredential
      a.assignmentId userId a.nodeId (fresh a.nodeId)
    m.rotateAssignments userId fresh rest

/-- `rotate_account_credentials`, with the nodes it affects. -/
def rotateAccountCredentials (m : Members) (userId : UserId) (fresh : NodeId → FreshCredential) :
    Except PolicyError (Members × List NodeId) := do
  let rows := m.enabledAssignments userId
  let m ← m.rotateAssignments userId fresh rows
  return (m, rows.map (·.nodeId))

/-- One round of `enable_requested_assignments`, and whether it changed the node. -/
def enableRequestedAssignment (m : Members) (userId : UserId) (existing : List Assignment)
    (fresh : NodeId → FreshAssignment) (node : NodeId) : Except PolicyError (Members × Bool) :=
  match existing.find? fun a => a.nodeId = node with
  | none => do
    let m ← m.insertAssignment ⟨(fresh node).assignmentId, userId, node, .enabled⟩
    let m ← m.issueAssignmentCredential (fresh node).assignmentId userId node
      (fresh node).credential
    return (m, true)
  | some a =>
    match a.status with
    | .disabled => do
      let m ← ((m.revokeAssignmentCredentials a.assignmentId).enableAssignment
        a.assignmentId).issueAssignmentCredential a.assignmentId userId node
          (fresh node).credential
      return (m, true)
    | .enabled => .ok (m, false)
    | .deleted => .error (.accountAssignmentConflict node a.status)

def enableRequestedAssignments (m : Members) (userId : UserId) (existing : List Assignment)
    (fresh : NodeId → FreshAssignment) :
    List NodeId → Except PolicyError (Members × List NodeId)
  | [] => .ok (m, [])
  | node :: rest => do
    let (m, changed) ← m.enableRequestedAssignment userId existing fresh node
    let (m, nodes) ← m.enableRequestedAssignments userId existing fresh rest
    return (m, if changed then node :: nodes else nodes)

def disableOmittedAssignments (m : Members) (requested : List NodeId) :
    List Assignment → Members × List NodeId
  | [] => (m, [])
  | a :: rest =>
    if a.status = .enabled ∧ a.nodeId ∉ requested then
      let result := (m.disableAssignment a.assignmentId).disableOmittedAssignments requested rest
      (result.1, a.nodeId :: result.2)
    else m.disableOmittedAssignments requested rest

/-! ### The status of an account -/

/-- The `Disabled` branch of `apply_account_status_transition`. -/
def disableAccount (m : Members) (userId : UserId) : Members :=
  m.updateStatuses (fun u => if u.userId = userId then .disabled else u.status) (·.status)
    fun c => if ∃ a ∈ m.enabledAssignments userId, a.assignmentId = c.assignmentId
      then c.status.retire else c.status

/-- The `Deleted` branch of `apply_account_status_transition`. -/
def deleteAccount (m : Members) (userId : UserId) : Members :=
  m.updateStatuses (fun u => if u.userId = userId then .deleted else u.status)
    (fun a => if a.userId = userId then .deleted else a.status)
    fun c => if c.userId = userId then .revoked else c.status

/-- The update of `reactivate_account`. -/
def markActive (m : Members) (userId : UserId) : Members :=
  m.updateStatuses
    (fun u => if u.userId = userId ∧ u.status = .disabled then .active else u.status)
    (·.status) (·.status)

def applyAccountStatusTransition (m : Members) (userId : UserId)
    (fresh : NodeId → FreshCredential) : AccountStatus → Except PolicyError Members
  | .active =>
    (m.markActive userId).rotateAssignments userId fresh
      ((m.markActive userId).enabledAssignments userId)
  | .disabled => .ok (m.disableAccount userId)
  | .deleted => .ok (m.deleteAccount userId)

end Members

end RealityConsole.Controller
