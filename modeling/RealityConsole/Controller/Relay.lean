import Mathlib.Data.List.Sort
import RealityConsole.Controller.Progress
import RealityConsole.Protocol.Relay

/-!
# Relay grants in the controller's database

A node has one relay route and a grant of it for each credential generation. A grant is issued in
two transactions, published through the outbox, and leaves through `revoking`. Columns that repeat
the header are read from the document.
-/

namespace RealityConsole.Controller

open Framework Protocol

/-! ### Tables -/

/-- The columns of `nodes` that decide whether a node may use a relay. -/
structure RelayNode where
  nodeId : NodeId
  status : NodeStatus
  /-- The node's capabilities contain `relay-tcp`. -/
  relayTcp : Bool
  consentExitIp : Bool

/-- `relay_routes`: the logical route and the endpoint of one node. -/
structure RelayRoute where
  nodeId : NodeId
  routeId : RelayRouteId
  endpointId : EndpointId

inductive RelayGrantState where
  | pending
  | published
  | revoking
  | revoked
  | expired
  deriving DecidableEq, Repr

/-- `state IN ('pending', 'published')` -/
def RelayGrantState.isOpen : RelayGrantState → Bool
  | pending | published => true
  | revoking | revoked | expired => false

/-- `state IN ('pending', 'published', 'revoking')`: the public port is taken. -/
def RelayGrantState.holdsPort : RelayGrantState → Bool
  | pending | published | revoking => true
  | revoked | expired => false

/-- A row of `relay_grants`. -/
structure RelayGrant where
  route : SignedRelayRoute
  state : RelayGrantState
  publishedAt : Option Nat
  revokedAt : Option Nat
  createdAt : Nat
  deriving DecidableEq, Repr

namespace RelayGrant

def grantId (g : RelayGrant) : RelayGrantId := g.route.header.grantId
def nodeId (g : RelayGrant) : NodeId := g.route.header.nodeId
def routeId (g : RelayGrant) : RelayRouteId := g.route.header.routeId
def generation (g : RelayGrant) : Nat := g.route.header.generation
def publicPort (g : RelayGrant) : Nat := g.route.header.publicPort
def expiresAt (g : RelayGrant) : Nat := g.route.header.expiresAt

end RelayGrant

inductive RelayOutboxAction where
  | publish
  | revoke
  deriving DecidableEq, Repr

/-- A row of `relay_outbox`. -/
structure RelayOutboxRow where
  grantId : RelayGrantId
  action : RelayOutboxAction
  attempts : Nat
  nextAttemptAt : Nat
  completedAt : Option Nat
  createdAt : Nat

structure RelayTables where
  networkId : NetworkId
  nodes : List RelayNode
  routes : List RelayRoute
  grants : List RelayGrant
  outbox : List RelayOutboxRow

/-- `RelayProvisioningConfig` without the paths of its static files. -/
structure RelayProvisioningConfig where
  relayId : RelayId
  publicHost : String
  tunnelHost : String
  tunnelPort : Nat
  tlsServerName : String
  publicPortStart : Nat
  publicPortEnd : Nat
  limits : RelayLimits

/-- `from_optional_values`: the checks of a parsed profile; it has one error for all. -/
def RelayProvisioningConfig.isValid (config : RelayProvisioningConfig) : Bool :=
  !(config.publicPortStart = 0 || config.publicPortEnd ≤ config.publicPortStart)
    && config.limits.validate.isOk
    && [config.publicHost, config.tunnelHost, config.tlsServerName].all fun value =>
      !(value = "" || 253 < value.utf8ByteSize || value.toList.any fun c => c = '/' || c = ':'
        || isWhitespace c)

inductive RelayDatabaseError where
  | protocol (error : ProtocolValidationError)
  | nodeNotFound
  | relayNotEligible
  | relayPortExhausted
  | timestampOverflow
  | relayGrantMismatch
  | relayGrantNotPending
  | relayAcknowledgementConflict
  | relayGrantNotFound
  | nodeLifecycleConflict (action : NodeLifecycleAction) (currentStatus : NodeStatus)
  /-- A statement violates a constraint of the schema. -/
  | constraint

abbrev RelayResult := Except RelayDatabaseError

/-! ### Issue -/

/-- The identities that `prepare_relay_grant` draws at random. -/
structure FreshRelayIds where
  routeId : RelayRouteId
  endpointId : EndpointId
  grantId : RelayGrantId

namespace RelayTables

def checkEligible (t : RelayTables) (node : NodeId) : RelayResult Unit :=
  match t.nodes.find? fun n => n.nodeId = node with
  | none => .error .nodeNotFound
  | some n =>
    refuseWhen (n.status ≠ .active ∨ ¬n.consentExitIp ∨ ¬n.relayTcp) .relayNotEligible

/-- The route of the node; it is created with the first grant and kept ever after. -/
def ensureRoute (t : RelayTables) (node : NodeId) (fresh : FreshRelayIds) :
    RelayResult (RelayTables × RelayRoute) :=
  match t.routes.find? fun r => r.nodeId = node with
  | some r => .ok (t, r)
  | none =>
    if t.routes.any fun r => r.routeId = fresh.routeId then .error .constraint
    else .ok ({ t with routes := t.routes ++ [⟨node, fresh.routeId, fresh.endpointId⟩] },
      ⟨node, fresh.routeId, fresh.endpointId⟩)

/-- `COALESCE(MAX(generation), 0) + 1` over the grants of the route. -/
def nextGeneration (t : RelayTables) (routeId : RelayRouteId) : Nat :=
  (((t.grants.filter fun g => g.routeId = routeId).map (·.generation)).max?).getD 0 + 1

def choosePort (t : RelayTables) (first last : Nat) : RelayResult Nat :=
  match (List.range' first (last + 1 - first)).find? fun port =>
      !t.grants.any fun g => g.publicPort = port && g.state.holdsPort with
  | some port => .ok port
  | none => .error .relayPortExhausted

/-- The largest second that a timestamp can hold (the end of the year 9999). -/
def maxUnixTimestamp : Nat := 253402300799

/-- `prepare_relay_grant`: the header of the node's next generation. -/
def prepareRelayGrant (config : RelayProvisioningConfig) (t : RelayTables) (node : NodeId)
    (limits : RelayLimits) (fresh : FreshRelayIds) (now : Nat) :
    RelayResult (RelayTables × RelayAssignmentHeader) := do
  t.checkEligible node
  let (t', route) ← t.ensureRoute node fresh
  let port ← t.choosePort config.publicPortStart config.publicPortEnd
  refuseWhen (maxUnixTimestamp < now + maxRelayGrantLifetimeSeconds) .timestampOverflow
  let header : RelayAssignmentHeader :=
    { schemaVersion := relaySchemaVersion
      networkId := t.networkId
      nodeId := node
      relayId := config.relayId
      routeId := route.routeId
      grantId := fresh.grantId
      generation := t.nextGeneration route.routeId
      endpointId := route.endpointId
      publicHost := config.publicHost
      publicPort := port
      tunnelHost := config.tunnelHost
      tunnelPort := config.tunnelPort
      tlsServerName := config.tlsServerName
      issuedAt := now
      notBefore := now
      expiresAt := now + maxRelayGrantLifetimeSeconds
      limits := limits }
  header.validate.mapError .protocol
  return (t', header)

/-- The longest route document that `relay_grants` stores. -/
def maxRouteDocumentBytes : Nat := 65536

/-- `store_pending_relay_grant`: the grant and its publication are queued together. -/
def storePendingRelayGrant (codec : RouteCodec) (t : RelayTables) (route : SignedRelayRoute)
    (now : Nat) : RelayResult RelayTables := do
  route.validate.mapError .protocol
  refuseWhen (¬t.routes.any fun r =>
      r.nodeId = route.header.nodeId ∧ r.routeId = route.header.routeId) .relayGrantMismatch
  -- the keys and checks of `relay_grants`
  refuseWhen (t.grants.any fun g => g.grantId = route.header.grantId) .constraint
  refuseWhen (t.grants.any fun g =>
      g.routeId = route.header.routeId ∧ g.generation = route.header.generation) .constraint
  refuseWhen (maxRouteDocumentBytes < codec.size (codec.encode route)) .constraint
  return { t with
    grants := t.grants ++ [⟨route, .pending, none, none, now⟩]
    outbox := t.outbox ++ [⟨route.header.grantId, .publish, 0, now, none, now⟩] }

/-! ### Publication and revocation -/

/-- `UPDATE relay_grants SET … WHERE …` -/
def updateGrants (t : RelayTables) (selected : RelayGrant → Bool)
    (change : RelayGrant → RelayGrant) : RelayTables :=
  { t with grants := t.grants.map fun g => if selected g then change g else g }

/-- `UPDATE relay_grants SET state = 'revoking' WHERE …` -/
def setRevoking (t : RelayTables) (selected : RelayGrant → Bool) : RelayTables :=
  t.updateGrants selected fun g => { g with state := .revoking }

/-- `INSERT OR IGNORE INTO relay_outbox … 'revoke'`: one job for a grant. -/
def queueRevocation (now : Nat) (outbox : List RelayOutboxRow) (grantId : RelayGrantId) :
    List RelayOutboxRow :=
  if outbox.any fun row => row.grantId = grantId && row.action = .revoke then outbox
  else outbox ++ [⟨grantId, .revoke, 0, now, none, now⟩]

/-- `INSERT OR IGNORE … SELECT` over the selected grants in state `revoking`. -/
def queueRevocations (t : RelayTables) (selected : RelayGrant → Bool) (now : Nat) : RelayTables :=
  let revoking := t.grants.filter fun g => selected g && g.state = .revoking
  { t with outbox := (revoking.map (·.grantId)).foldl (queueRevocation now) t.outbox }

def expireRelayGrants (t : RelayTables) (now : Nat) : RelayTables :=
  (t.setRevoking fun g => g.state.isOpen && g.expiresAt ≤ now).queueRevocations
    (fun _ => true) now

def revokeNodeRelayGrants (t : RelayTables) (node : NodeId) (now : Nat) : RelayTables :=
  (t.setRevoking fun g => g.nodeId = node && g.state.isOpen).queueRevocations
    (fun g => g.nodeId = node) now

/-- `UPDATE nodes SET status = … WHERE node_id = …` -/
def setNodeStatus (t : RelayTables) (node : NodeId) (status : NodeStatus) : RelayTables :=
  { t with nodes := t.nodes.map fun n => if n.nodeId = node then { n with status } else n }

/-- `transition_node` as far as relay grants are concerned. -/
def transitionNode (t : RelayTables) (node : NodeId) (action : NodeLifecycleAction) (now : Nat) :
    RelayResult RelayTables :=
  match t.nodes.find? fun n => n.nodeId = node with
  | none => .error .nodeNotFound
  | some n =>
    match nodeLifecycleTarget action n.status with
    | none => .error (.nodeLifecycleConflict action n.status)
    | some status => .ok ((t.setNodeStatus node status).revokeNodeRelayGrants node now)

/-- `relay_assignment`: the header of the latest published grant that has not expired. -/
def relayAssignment (t : RelayTables) (node : NodeId) (now : Nat) :
    Option RelayAssignmentHeader :=
  let candidates := t.grants.filter fun g =>
    g.nodeId = node && g.state = .published && now < g.expiresAt
  (candidates.find? fun g => candidates.all fun h => h.generation ≤ g.generation).map
    (·.route.header)

/-- One unit of work of `reconcile`. -/
structure RelayOutboxJob where
  grantId : RelayGrantId
  action : RelayOutboxAction

/-- A job is listed while the grant is in the state that its action starts from. -/
def RelayOutboxAction.startsFrom : RelayOutboxAction → RelayGrantState
  | .publish => .pending
  | .revoke => .revoking

def isDue (t : RelayTables) (now : Nat) (row : RelayOutboxRow) : Bool :=
  row.completedAt.isNone && row.nextAttemptAt ≤ now
    && t.grants.any fun g =>
      g.grantId = row.grantId && g.state = RelayOutboxAction.startsFrom row.action

def dueRelayOutbox (t : RelayTables) (now : Nat) : List RelayOutboxJob :=
  ((t.outbox.filter (t.isDue now)).insertionSort fun a b => a.createdAt ≤ b.createdAt).map
    fun row => ⟨row.grantId, row.action⟩

/-- `UPDATE relay_outbox SET completed_at = …` -/
def completeJob (t : RelayTables) (job : RelayOutboxJob) (now : Nat) : RelayTables :=
  { t with outbox := t.outbox.map fun row =>
      if row.grantId = job.grantId && row.action = job.action then
        { row with completedAt := some now } else row }

def markRelayPublished (t : RelayTables) (grantId : RelayGrantId) (now : Nat) :
    RelayResult RelayTables := do
  refuseWhen (¬t.grants.any fun g => g.grantId = grantId && g.state = .pending)
    .relayGrantNotPending
  return (t.updateGrants (fun g => g.grantId = grantId) fun g =>
    { g with state := .published, publishedAt := some now }).completeJob ⟨grantId, .publish⟩ now

def markRelayRevoked (t : RelayTables) (grantId : RelayGrantId) (now : Nat) : RelayTables :=
  (t.updateGrants (fun g => g.grantId = grantId && g.state = .revoking) fun g =>
    { g with state := .revoked, revokedAt := some now }).completeJob ⟨grantId, .revoke⟩ now

/-- `record_relay_outbox_failure`: the delay doubles up to 256 seconds. -/
def recordRelayOutboxFailure (t : RelayTables) (job : RelayOutboxJob) (now : Nat) : RelayTables :=
  { t with outbox := t.outbox.map fun row =>
      if row.grantId = job.grantId && row.action = job.action then
        { row with
          attempts := row.attempts + 1
          nextAttemptAt := now + min (2 ^ min row.attempts 8) 300 }
      else row }

def acknowledgeable (t : RelayTables) (node : NodeId)
    (request : AcknowledgeRelayAssignmentRequest) (now : Nat) : Option RelayGrant :=
  t.grants.find? fun g => g.nodeId = node && g.grantId = request.grantId
    && g.generation = request.generation && g.state = .published && now < g.expiresAt
    && !t.grants.any fun newer => newer.nodeId = g.nodeId && newer.routeId = g.routeId
      && g.generation < newer.generation && newer.state = .published

/-- `acknowledge_relay_assignment`: the earlier generations of the route are revoked. -/
def acknowledgeRelayAssignment (t : RelayTables) (node : NodeId)
    (request : AcknowledgeRelayAssignmentRequest) (now : Nat) : RelayResult RelayTables := do
  request.validate.mapError .protocol
  match t.acknowledgeable node request now with
  | none => .error .relayAcknowledgementConflict
  | some current =>
    .ok ((t.setRevoking fun g => g.nodeId = node && g.routeId = current.routeId
      && g.generation < request.generation && g.state = .published).queueRevocations
      (fun g => g.nodeId = node && g.routeId = current.routeId) now)

def revokeRelayGrant (t : RelayTables) (grantId : RelayGrantId) (now : Nat) :
    RelayResult RelayTables := do
  refuseWhen (¬t.grants.any fun g => g.grantId = grantId) .relayGrantNotFound
  return { t.setRevoking fun g => g.grantId = grantId && g.state.isOpen with
    outbox := queueRevocation now t.outbox grantId }

end RelayTables

/-! ### Requests -/

def lowerLimits (operator provider : RelayLimits) : RelayLimits where
  maxConcurrentStreams := min operator.maxConcurrentStreams provider.maxConcurrentStreams
  maxBytesPerSecond := min operator.maxBytesPerSecond provider.maxBytesPerSecond
  maxBytesPerConnection := min operator.maxBytesPerConnection provider.maxBytesPerConnection
  monthlyByteLimit := min operator.monthlyByteLimit provider.monthlyByteLimit

def relayRenewalWindowSeconds : Nat := 3600

/-- The decision of `ensure_assignment`: `some limits` if a new generation is issued. `now` is the
reading for the query, `nowUtc` the one for the lifetime, rounded up to a second. -/
def ensureAssignment (config : RelayProvisioningConfig) (t : RelayTables) (node : NodeId)
    (providerLimits : RelayLimits) (now nowUtc : Nat) : RelayResult (Option RelayLimits) := do
  providerLimits.validate.mapError .protocol
  let limits := lowerLimits config.limits providerLimits
  match t.relayAssignment node now with
  | none => return some limits
  | some header =>
    -- `limits_within` is the componentwise comparison
    if nowUtc + relayRenewalWindowSeconds < header.expiresAt ∧ header.limits.Within limits then
      return none
    else return some limits

/-! ### Effects -/

namespace RelayTables

variable {t t' : RelayTables}

def documents (t : RelayTables) : List SignedRelayRoute := t.grants.map (·.route)

/-- The grants that the relay should serve. -/
def published (t : RelayTables) : List RelayGrant := t.grants.filter fun g => g.state = .published

/-- Only the lifecycle of the grants may differ: no route and no document does. -/
structure SameDocuments (t t' : RelayTables) : Prop where
  routes : t'.routes = t.routes
  documents : t'.documents = t.documents

theorem SameDocuments.trans {t'' : RelayTables} (h : t.SameDocuments t')
    (h' : t'.SameDocuments t'') : t.SameDocuments t'' :=
  ⟨h'.routes.trans h.routes, h'.documents.trans h.documents⟩

theorem updateGrants_sameDocuments (t : RelayTables) (selected : RelayGrant → Bool)
    {change : RelayGrant → RelayGrant} (hchange : ∀ g, (change g).route = g.route) :
    t.SameDocuments (t.updateGrants selected change) := by
  refine ⟨rfl, ?_⟩
  simp only [documents, updateGrants, List.map_map]
  refine List.map_congr_left fun g _ => ?_
  by_cases hsel : selected g = true
  · simp [hsel, hchange]
  · simp [hsel]

theorem setRevoking_sameDocuments (t : RelayTables) (selected : RelayGrant → Bool) :
    t.SameDocuments (t.setRevoking selected) :=
  t.updateGrants_sameDocuments selected fun _ => rfl

theorem queueRevocations_sameDocuments (t : RelayTables) (selected : RelayGrant → Bool)
    (now : Nat) : t.SameDocuments (t.queueRevocations selected now) :=
  ⟨rfl, rfl⟩

theorem completeJob_sameDocuments (t : RelayTables) (job : RelayOutboxJob) (now : Nat) :
    t.SameDocuments (t.completeJob job now) :=
  ⟨rfl, rfl⟩

theorem expireRelayGrants_sameDocuments (t : RelayTables) (now : Nat) :
    t.SameDocuments (t.expireRelayGrants now) :=
  (t.setRevoking_sameDocuments _).trans (queueRevocations_sameDocuments _ _ _)

theorem revokeNodeRelayGrants_sameDocuments (t : RelayTables) (node : NodeId) (now : Nat) :
    t.SameDocuments (t.revokeNodeRelayGrants node now) :=
  (t.setRevoking_sameDocuments _).trans (queueRevocations_sameDocuments _ _ _)

variable {node : NodeId} {now : Nat}

theorem transitionNode_sameDocuments {action : NodeLifecycleAction}
    (h : t.transitionNode node action now = .ok t') : t.SameDocuments t' := by
  unfold transitionNode at h
  split at h
  · cases h
  split at h
  · cases h
  cases h
  have hstat : ∀ status, t.SameDocuments (t.setNodeStatus node status) := fun _ => ⟨rfl, rfl⟩
  exact (hstat _).trans (revokeNodeRelayGrants_sameDocuments _ _ _)

theorem markRelayPublished_sameDocuments {grantId : RelayGrantId}
    (h : t.markRelayPublished grantId now = .ok t') : t.SameDocuments t' := by
  obtain ⟨_, h⟩ := rest_ok h
  cases h
  refine SameDocuments.trans ?_ (completeJob_sameDocuments _ _ _)
  exact t.updateGrants_sameDocuments _ fun _ => rfl

theorem markRelayRevoked_sameDocuments (t : RelayTables) (grantId : RelayGrantId) (now : Nat) :
    t.SameDocuments (t.markRelayRevoked grantId now) := by
  refine SameDocuments.trans ?_ (completeJob_sameDocuments _ _ _)
  exact t.updateGrants_sameDocuments _ fun _ => rfl

theorem acknowledgeRelayAssignment_sameDocuments {req : AcknowledgeRelayAssignmentRequest}
    (h : t.acknowledgeRelayAssignment node req now = .ok t') : t.SameDocuments t' := by
  obtain ⟨_, h⟩ := rest_ok h
  split at h
  · cases h
  · cases h
    exact (t.setRevoking_sameDocuments _).trans (queueRevocations_sameDocuments _ _ _)

theorem revokeRelayGrant_sameDocuments {grantId : RelayGrantId}
    (h : t.revokeRelayGrant grantId now = .ok t') : t.SameDocuments t' := by
  obtain ⟨_, h⟩ := rest_ok h
  cases h
  have hset := t.setRevoking_sameDocuments fun g => g.grantId = grantId && g.state.isOpen
  exact ⟨hset.routes, hset.documents⟩

structure Stored (codec : RouteCodec) (t : RelayTables) (route : SignedRelayRoute)
    (t' : RelayTables) : Prop where
  valid : route.header.validate = .ok ()
  size : codec.size (codec.encode route) ≤ maxRouteDocumentBytes
  fresh_grant : ∀ d ∈ t.documents, d.header.grantId ≠ route.header.grantId
  fresh_generation : ∀ d ∈ t.documents, d.header.routeId = route.header.routeId →
    d.header.generation ≠ route.header.generation
  routes : t'.routes = t.routes
  documents : t'.documents = t.documents ++ [route]

theorem storePendingRelayGrant_effect {codec : RouteCodec} {route : SignedRelayRoute}
    (h : t.storePendingRelayGrant codec route now = .ok t') : Stored codec t route t' := by
  obtain ⟨_, hval, h⟩ := bind_ok.1 h
  obtain ⟨_, h⟩ := rest_ok h
  obtain ⟨_, hgr, h⟩ := bind_ok.1 h
  obtain ⟨_, hgeneration, h⟩ := bind_ok.1 h
  obtain ⟨_, hsize, h⟩ := bind_ok.1 h
  have hgr := refuse_ok.1 hgr
  have hgeneration := refuse_ok.1 hgeneration
  cases h
  refine
    { valid := mapError_ok.1 hval
      size := not_lt.1 (refuse_ok.1 hsize)
      fresh_grant := ?_
      fresh_generation := ?_
      routes := rfl
      documents := by simp [RelayTables.documents] }
  · intro d hd heq
    obtain ⟨g, hg, rfl⟩ := List.mem_map.1 hd
    exact hgr (List.any_eq_true.2 ⟨g, hg, decide_eq_true heq⟩)
  · intro d hd hrt hgen
    obtain ⟨g, hg, rfl⟩ := List.mem_map.1 hd
    exact hgeneration (List.any_eq_true.2 ⟨g, hg, decide_eq_true ⟨hrt, hgen⟩⟩)

theorem ensureRoute_effect {fresh : FreshRelayIds} {route : RelayRoute}
    (h : t.ensureRoute node fresh = .ok (t', route)) :
    t'.documents = t.documents ∧ route ∈ t'.routes ∧ route.nodeId = node
      ∧ (t'.routes = t.routes
        ∨ t'.routes = t.routes ++ [route] ∧ route.endpointId = fresh.endpointId
          ∧ (∀ r ∈ t.routes, r.nodeId ≠ node) ∧ ∀ r ∈ t.routes, r.routeId ≠ route.routeId) := by
  unfold ensureRoute at h
  split at h
  · rename_i r hfind
    have hmem := List.mem_of_find?_eq_some hfind
    have hnode := List.find?_some hfind
    cases h
    exact ⟨rfl, hmem, by simpa using hnode, .inl rfl⟩
  · rename_i hfind
    split at h
    · cases h
    rename_i huniq
    cases h
    refine ⟨rfl, by simp, rfl, .inr ⟨rfl, rfl, ?_, ?_⟩⟩
    · intro r hr
      simpa using List.find?_eq_none.1 hfind r hr
    · intro r hr heq
      exact huniq (List.any_eq_true.2 ⟨r, hr, by simpa using heq⟩)

theorem choosePort_range {first last port : Nat} (h : t.choosePort first last = .ok port) :
    first ≤ port ∧ port ≤ last := by
  unfold choosePort at h
  split at h
  · rename_i p hfind
    cases h
    have hmem := List.mem_range'_1.1 (List.mem_of_find?_eq_some hfind)
    omega
  · cases h

/-- What a drawn-up header says, and what it did to the routes. -/
structure Prepared (config : RelayProvisioningConfig) (fresh : FreshRelayIds) (t : RelayTables)
    (header : RelayAssignmentHeader) (t' : RelayTables) : Prop where
  documents : t'.documents = t.documents
  relay : header.relayId = config.relayId
  port : config.publicPortStart ≤ header.publicPort ∧ header.publicPort ≤ config.publicPortEnd
  route : ⟨header.nodeId, header.routeId, header.endpointId⟩ ∈ t'.routes
  routes : t'.routes = t.routes
    ∨ t'.routes = t.routes ++ [⟨header.nodeId, header.routeId, header.endpointId⟩]
      ∧ header.endpointId = fresh.endpointId
      ∧ (∀ r ∈ t.routes, r.nodeId ≠ header.nodeId) ∧ ∀ r ∈ t.routes, r.routeId ≠ header.routeId

theorem prepareRelayGrant_effect {cfg : RelayProvisioningConfig}
    {limits : RelayLimits} {fresh : FreshRelayIds} {hdr : RelayAssignmentHeader}
    (h : t.prepareRelayGrant cfg node limits fresh now = .ok (t', hdr)) :
    Prepared cfg fresh t hdr t' := by
  obtain ⟨_, h⟩ := rest_ok h
  obtain ⟨⟨t₁, route⟩, hrt, h⟩ := bind_ok.1 h
  obtain ⟨port, hport, h⟩ := bind_ok.1 h
  obtain ⟨_, h⟩ := rest_ok h
  obtain ⟨_, h⟩ := rest_ok h
  obtain ⟨hdocs, hmem, rfl, hroutes⟩ := ensureRoute_effect hrt
  cases h
  exact
    { documents := hdocs
      relay := rfl
      port := choosePort_range hport
      route := hmem
      routes := hroutes }

end RelayTables

end RealityConsole.Controller
