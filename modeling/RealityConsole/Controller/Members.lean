import Mathlib.Data.List.Sort
import RealityConsole.Protocol.Desired

/-!
# Members, assignments and credentials

The controller's tables about who may use which node, and their compilation into the users of a
desired document. One user more is published: the protocol canary, which the controller invents for
each node to probe its endpoints. `Members.WellFormed` states the keys of the tables.
-/

namespace RealityConsole.Controller

open Protocol Framework

/-- `users.status` -/
inductive AccountStatus where
  | active
  | disabled
  | deleted
  deriving DecidableEq, Repr

/-- `user_node_assignments.status` -/
inductive AssignmentStatus where
  | enabled
  | disabled
  | deleted
  deriving DecidableEq, Repr

/-- `user_node_credentials.status` -/
inductive CredentialStatus where
  | pending
  | active
  | retiring
  | revoked
  deriving DecidableEq, Repr

/-- A row of `users`. -/
structure Account where
  userId : UserId
  status : AccountStatus

/-- A row of `user_node_assignments`. -/
structure Assignment where
  assignmentId : AssignmentId
  userId : UserId
  nodeId : NodeId
  status : AssignmentStatus

/-- A row of `user_node_credentials`. -/
structure Credential where
  credentialId : CredentialId
  assignmentId : AssignmentId
  userId : UserId
  nodeId : NodeId
  vlessUuid : String
  version : Nat
  status : CredentialStatus

structure Members where
  users : List Account
  assignments : List Assignment
  credentials : List Credential

inductive MembersError where
  | storedProtocolValue
  deriving DecidableEq, Repr

namespace Members

/-- The keys that the schema declares. -/
structure WellFormed (m : Members) : Prop where
  users_unique : (m.users.map (·.userId)).Nodup
  assignments_unique : (m.assignments.map (·.assignmentId)).Nodup
  /-- `UNIQUE(network_id, user_id, node_id)` -/
  assignment_pair_unique : (m.assignments.map fun a => (a.userId, a.nodeId)).Nodup
  credentials_unique : (m.credentials.map (·.credentialId)).Nodup
  /-- `UNIQUE(network_id, assignment_id, version)` -/
  credential_version_unique : (m.credentials.map fun c => (c.assignmentId, c.version)).Nodup
  /-- An assignment belongs to an account. -/
  assignment_user : ∀ a ∈ m.assignments, ∃ u ∈ m.users, u.userId = a.userId
  /-- A credential belongs to the assignment of its user to its node. -/
  credential_assignment : ∀ c ∈ m.credentials, ∃ a ∈ m.assignments,
    a.assignmentId = c.assignmentId ∧ a.userId = c.userId ∧ a.nodeId = c.nodeId

/-- The existence test of `validate_telemetry_user`: any row, of any status. -/
def isAssigned (m : Members) (node : NodeId) (user : UserId) : Bool :=
  m.assignments.any fun a => a.nodeId = node && a.userId = user

/-! ### Compilation -/

structure CompiledDesiredUser where
  assignmentId : AssignmentId
  user : DesiredUser

/-- The `WHERE` clause of `compile_desired_users`. -/
def isCompiled (m : Members) (node : NodeId) (c : Credential) : Bool :=
  c.nodeId = node && (c.status = .pending || c.status = .active)
    && (m.assignments.any fun a => a.assignmentId = c.assignmentId && a.status = .enabled)
    && (m.users.any fun u => u.userId = c.userId && u.status = .active)

/-- `ORDER BY credential.user_id, credential.version DESC` -/
def compileOrder (a b : Credential) : Prop :=
  a.userId < b.userId ∨ (a.userId = b.userId ∧ b.version ≤ a.version)

instance : DecidableRel compileOrder := fun _ _ => instDecidableOr

def compileRows (m : Members) (node : NodeId) : List Credential :=
  (m.credentials.filter (m.isCompiled node)).insertionSort compileOrder

/-- The document entry of one credential row. -/
def compiledUser (c : Credential) : CompiledDesiredUser where
  assignmentId := c.assignmentId
  user := { userId := c.userId, credentialId := c.credentialId, vlessUuid := c.vlessUuid
            enabled := true }

/-- The loop over the rows: a user or an assignment seen twice is an error. -/
def collectUsers : List Credential → List UserId → List AssignmentId →
    Except MembersError (List CompiledDesiredUser)
  | [], _, _ => .ok []
  | row :: rows, userIds, assignmentIds => do
    refuseWhen (row.userId ∈ userIds ∨ row.assignmentId ∈ assignmentIds) .storedProtocolValue
    let users ← collectUsers rows (row.userId :: userIds) (row.assignmentId :: assignmentIds)
    .ok (compiledUser row :: users)

def compileDesiredUsers (m : Members) (node : NodeId) :
    Except MembersError (List CompiledDesiredUser) :=
  collectUsers (m.compileRows node) [] []

theorem collectUsers_ok {rows : List Credential} {userIds : List UserId}
    {assignmentIds : List AssignmentId} {users : List CompiledDesiredUser}
    (h : collectUsers rows userIds assignmentIds = .ok users) : users = rows.map compiledUser := by
  induction rows generalizing userIds assignmentIds users with
  | nil =>
    cases h
    rfl
  | cons row rows ih =>
    obtain ⟨-, h⟩ := rest_ok h
    obtain ⟨rest, hrest, h⟩ := bind_ok.1 h
    cases h
    rw [ih hrest]
    rfl

theorem mem_compileRows {m : Members} {node : NodeId} {c : Credential} :
    c ∈ m.compileRows node ↔ c ∈ m.credentials ∧ m.isCompiled node c := by
  simp [compileRows, List.mem_insertionSort, List.mem_filter]

theorem WellFormed.compiled_isAssigned {m : Members} (hm : m.WellFormed) {node : NodeId}
    {users : List CompiledDesiredUser} (h : m.compileDesiredUsers node = .ok users) :
    ∀ c ∈ users, m.isAssigned node c.user.userId := by
  rw [collectUsers_ok h]
  intro c hc
  obtain ⟨row, hrow, rfl⟩ := List.mem_map.1 hc
  obtain ⟨hmem, hwhere⟩ := mem_compileRows.1 hrow
  obtain ⟨a, ha, -, hauser, han⟩ := hm.credential_assignment row hmem
  have hnode : row.nodeId = node := by
    simp only [isCompiled, Bool.and_eq_true, decide_eq_true_eq] at hwhere
    exact hwhere.1.1.1
  refine List.any_eq_true.2 ⟨a, ha, ?_⟩
  simp [han, hnode, hauser, compiledUser]

end Members

/-! ### The protocol canary -/

/-- `endpoint_canary_credentials.status` -/
inductive CanaryStatus where
  | active
  | retired
  deriving DecidableEq, Repr

/-- A row of `endpoint_canary_credentials`. -/
structure CanaryCredential where
  nodeId : NodeId
  userId : UserId
  credentialId : CredentialId
  vlessUuid : String
  generation : Nat
  status : CanaryStatus

/-- The identities a publication draws if it has to create a canary. -/
structure FreshCanary where
  userId : UserId
  credentialId : CredentialId
  vlessUuid : String

def CanaryCredential.desiredUser (c : CanaryCredential) : DesiredUser where
  userId := c.userId
  credentialId := c.credentialId
  vlessUuid := c.vlessUuid
  enabled := true

def activeCanary (canaries : List CanaryCredential) (node : NodeId) : Option CanaryCredential :=
  canaries.find? fun c => c.nodeId = node && c.status = .active

def FreshCanary.row (fresh : FreshCanary) (node : NodeId) (generation : Nat) :
    CanaryCredential where
  nodeId := node
  userId := fresh.userId
  credentialId := fresh.credentialId
  vlessUuid := fresh.vlessUuid
  generation := generation
  status := .active

/-- `ensure_endpoint_canary_credential`: the active canary, created if there is none. -/
def ensureEndpointCanaryCredential (canaries : List CanaryCredential) (node : NodeId)
    (fresh : FreshCanary) : CanaryCredential × List CanaryCredential :=
  match activeCanary canaries node with
  | some canary => (canary, canaries)
  | none => (fresh.row node 1, canaries ++ [fresh.row node 1])

/-- The rotation part of `rotate_protocol_canary`: the active canary is retired and the next
generation becomes active. -/
def rotateCanary (canaries : List CanaryCredential) (node : NodeId) (fresh : FreshCanary) :
    List CanaryCredential :=
  let generation := ((activeCanary canaries node).map (·.generation)).getD 0
  (canaries.map fun c =>
      if c.nodeId = node ∧ c.status = .active then { c with status := .retired } else c)
    ++ [fresh.row node (generation + 1)]

/-- The users that `publish_compiled_desired_state` puts into the document. -/
def documentUsers (compiled : List Members.CompiledDesiredUser) (canary : CanaryCredential) :
    List DesiredUser :=
  compiled.map (·.user) ++ [canary.desiredUser]

end RealityConsole.Controller
