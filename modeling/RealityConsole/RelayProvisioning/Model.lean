import RealityConsole.Framework.Machine
import RealityConsole.Controller.Relay

/-!
# The relay provisioner

Grants are in the database, route documents in a directory that the relay reads. A call of
`reconcile` lists its jobs in one transaction, publishes or removes one document after the other,
and marks each job in a transaction of its own. Calls and requests run at the same time.
-/

namespace RealityConsole.RelayProvisioning

open Framework Protocol Controller

/-! ### Jobs and passes -/

/-- `RelayOutboxJob` -/
structure Job where
  grantId : RelayGrantId
  action : RelayOutboxAction
  route : Option SignedRelayRoute

/-- `due_relay_outbox`, with the documents that the query joins. -/
def dueJobs (t : RelayTables) (now : Nat) : List Job :=
  (t.dueRelayOutbox now).map fun job =>
    { grantId := job.grantId
      action := job.action
      route := match job.action with
        | .publish => (t.grants.find? fun g => g.grantId = job.grantId).map (·.route)
        | .revoke => none }

/-- Where a call of `reconcile` stands; `rounds` is the number of rounds after this one. -/
inductive Pass where
  | expire
  | list (rounds : Nat)
  | work (jobs : List Job) (rounds : Nat)
  /-- The file operation of a job is over; `done` if it was reported as successful. -/
  | mark (job : Job) (done : Bool) (jobs : List Job) (rounds : Nat)

namespace Pass

/-- What follows when these jobs are left; `none` at the end of the call. -/
def next (jobs : List Job) (rounds : Nat) : Option Pass :=
  if jobs = [] then
    match rounds with
    | 0 => none
    | rounds + 1 => some (.list rounds)
  else some (.work jobs rounds)

/-- The jobs whose file operation is still to come. -/
def jobs : Pass → List Job
  | .expire => []
  | .list _ => []
  | .work jobs _ => jobs
  | .mark _ _ jobs _ => jobs

def removed : Pass → Option RelayGrantId
  | .mark job true _ _ => if job.action = .revoke then some job.grantId else none
  | _ => none

end Pass

/-! ### The directory -/

/-- The documents in the managed route directory, each under the name of its grant. -/
abbrev Files := List SignedRelayRoute

/-- The failures of `ManagedRouteStore` that are not those of the file system. -/
inductive ProvisioningError where
  | validation (error : ProtocolValidationError)
  | routeTooLarge
  | routeConflict

/-- `ManagedRouteStore::publish` -/
def publish (codec : RouteCodec) (files : Files) (route : SignedRelayRoute) :
    Except ProvisioningError Files := do
  route.validate.mapError .validation
  refuseWhen (RelayTables.maxRouteDocumentBytes < codec.size (codec.encode route)) .routeTooLarge
  match files.find? fun file => file.header.grantId = route.header.grantId with
  | some existing => if existing = route then .ok files else .error .routeConflict
  | none => .ok (files ++ [route])

/-- `ManagedRouteStore::revoke` -/
def remove (files : Files) (grantId : RelayGrantId) : Files :=
  files.filter fun file => file.header.grantId ≠ grantId

/-- How the file system answers. -/
inductive Io where
  | success
  | failed
  /-- The operation took place, but it is reported as failed. -/
  | failedAfter

/-- The file operation of a job: the directory after it, and what is reported. A publication without
a document ends the call. -/
def perform (codec : RouteCodec) (files : Files) (job : Job) (io : Io) : Option (Files × Bool) :=
  match job.action, job.route with
  | .publish, none => none
  | .publish, some route =>
    match publish codec files route, io with
    | .ok after, .success => some (after, true)
    | .ok after, .failedAfter => some (after, false)
    | .ok _, .failed => some (files, false)
    | .error _, _ => some (files, false)
  | .revoke, _ =>
    match io with
    | .success => some (remove files job.grantId, true)
    | .failedAfter => some (remove files job.grantId, false)
    | .failed => some (files, false)

/-! ### State -/

/-- The database, the directory, and what unfinished calls hold in memory. -/
structure World where
  tables : RelayTables
  files : Files
  /-- Calls of `ensure_assignment` that go on to issue a generation. -/
  issues : List (NodeId × RelayLimits)
  /-- Headers that were drawn up and are being signed. -/
  drafts : List RelayAssignmentHeader
  /-- Calls of `reconcile`. -/
  passes : List Pass
  /-- The generations whose acknowledgement was accepted, with their routes. -/
  acknowledged : List (RelayRouteId × Nat)

/-- Nodes may be there from the start; nothing was ever issued. -/
def initial (networkId : NetworkId) (nodes : List RelayNode) : World where
  tables := ⟨networkId, nodes, [], [], []⟩
  files := []
  issues := []
  drafts := []
  passes := []
  acknowledged := []

/-! ### Steps -/

/-- What can happen, with the choices of the environment. -/
inductive Label where
  /-- A node enrolls, or reports new capabilities or consent. -/
  | report (node : RelayNode)
  /-- `ensure_assignment` decides. -/
  | ensure (node : NodeId) (providerLimits : RelayLimits) (now nowUtc : Nat)
  /-- `issue_generation`: the first transaction. -/
  | prepare (node : NodeId) (limits : RelayLimits) (fresh : FreshRelayIds) (now : Nat)
  /-- `issue_generation`: the documents are signed and stored. -/
  | store (header : RelayAssignmentHeader) (token certificate : BitVec 256) (now : Nat)
  /-- A call fails between its two transactions. -/
  | abandon (header : RelayAssignmentHeader)
  /-- `acknowledge_relay_assignment` -/
  | acknowledge (node : NodeId) (request : AcknowledgeRelayAssignmentRequest) (now : Nat)
  /-- `revoke_relay_grant` -/
  | revoke (grantId : RelayGrantId) (now : Nat)
  /-- An administrator approves, disables or revokes a node. -/
  | transition (node : NodeId) (action : NodeLifecycleAction) (now : Nat)
  /-- A call of `reconcile` starts, by itself or inside another call. -/
  | begin
  /-- A call of `reconcile` takes its next step. -/
  | advance (pass : Nat) (now : Nat) (io : Io)
  /-- A call of `reconcile` fails or is cancelled. -/
  | stop (pass : Nat)
  /-- The controller crashes and starts again. -/
  | crash

/-- Puts a pass into the place of another, or takes it away at its end. -/
def setPass (passes : List Pass) (index : Nat) : Option Pass → List Pass
  | some pass => passes.set index pass
  | none => passes.eraseIdx index

def advance (codec : RouteCodec) (w : World) (now : Nat) (io : Io) :
    Pass → RelayTables × Files × Option Pass
  | .expire => (w.tables.expireRelayGrants now, w.files, some (.list 1))
  | .list rounds =>
    (w.tables, w.files,
      if dueJobs w.tables now = [] then none else some (.work (dueJobs w.tables now) rounds))
  | .work [] rounds => (w.tables, w.files, Pass.next [] rounds)
  | .work (job :: jobs) rounds =>
    match perform codec w.files job io with
    | none => (w.tables, w.files, none)
    | some (files, done) => (w.tables, files, some (.mark job done jobs rounds))
  | .mark job false jobs rounds =>
    (w.tables.recordRelayOutboxFailure ⟨job.grantId, job.action⟩ now, w.files,
      Pass.next jobs rounds)
  | .mark job true jobs rounds =>
    match job.action with
    | .publish =>
      match w.tables.markRelayPublished job.grantId now with
      | .ok tables => (tables, w.files, Pass.next jobs rounds)
      | .error _ => (w.tables, w.files, none)
    | .revoke => (w.tables.markRelayRevoked job.grantId now, w.files, Pass.next jobs rounds)

def reportNode (t : RelayTables) (node : RelayNode) : RelayTables :=
  if t.nodes.any fun n => n.nodeId = node.nodeId then
    { t with nodes := t.nodes.map fun n =>
        if n.nodeId = node.nodeId then { node with status := n.status } else n }
  else { t with nodes := t.nodes ++ [{ node with status := .pending }] }

instance : LawfulBEq (NodeId × RelayLimits) := inferInstance

def step (codec : RouteCodec) (config : RelayProvisioningConfig) (key : PublicKey) (w : World) :
    Label → Option World
  | .report node => some { w with tables := reportNode w.tables node }
  | .ensure node providerLimits now nowUtc =>
    match ensureAssignment config w.tables node providerLimits now nowUtc with
    | .ok (some limits) => some { w with issues := w.issues ++ [(node, limits)] }
    | .ok none => some w
    | .error _ => none
  | .prepare node limits fresh now =>
    if (node, limits) ∈ w.issues then
      (w.tables.prepareRelayGrant config node limits fresh now).toOption.map fun prepared =>
        { w with
          tables := prepared.1
          issues := w.issues.erase (node, limits)
          drafts := w.drafts ++ [prepared.2] }
    else none
  | .store header token certificate now =>
    if header ∈ w.drafts then
      (w.tables.storePendingRelayGrant codec
        (SignedRelayRoute.sign key header token certificate) now).toOption.map fun tables =>
          { w with tables, drafts := w.drafts.erase header }
    else none
  | .abandon header => some { w with drafts := w.drafts.erase header }
  | .acknowledge node request now =>
    (w.tables.acknowledgeRelayAssignment node request now).toOption.map fun tables =>
      { w with
        tables
        acknowledged := ((w.tables.acknowledgeable node request now).map fun g =>
          (g.routeId, request.generation)).toList ++ w.acknowledged }
  | .revoke grantId now =>
    (w.tables.revokeRelayGrant grantId now).toOption.map fun tables => { w with tables }
  | .transition node action now =>
    (w.tables.transitionNode node action now).toOption.map fun tables => { w with tables }
  | .begin => some { w with passes := w.passes ++ [.expire] }
  | .advance index now io =>
    w.passes[index]?.map fun pass =>
      let (tables, files, next) := advance codec w now io pass
      { w with tables, files, passes := setPass w.passes index next }
  | .stop index => some { w with passes := w.passes.eraseIdx index }
  | .crash => some { w with issues := [], drafts := [], passes := [] }

def system (codec : RouteCodec) (config : RelayProvisioningConfig) (key : PublicKey) :
    Machine World Label where
  init w := ∃ networkId nodes, w = initial networkId nodes
  next := step codec config key

end RealityConsole.RelayProvisioning
