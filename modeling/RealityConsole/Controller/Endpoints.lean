import RealityConsole.Controller.Policy
import RealityConsole.Controller.Sessions
import RealityConsole.Protocol.Endpoint

/-!
# Endpoint candidates and probes

The candidates that nodes report, the verification of each of them, and the attempts to probe them.
A heartbeat replaces the current candidates of its node; a probe is claimed for a candidate that is
due and completed later. A stored token digest stands for the token.
-/

namespace RealityConsole.Controller

open Framework Protocol

/-! ### Tables -/

/-- The columns of `nodes` that a heartbeat or an enrollment writes and that a probe or a bundle
reads. -/
structure HostRow where
  displayName : String
  realityPublicKey : Option String
  realityShortId : Option String
  runtimeState : Option NodeRuntimeState
  providerPaused : Bool
  lastSeenAt : Option Nat
  /-- Stands for `last_heartbeat_sha256`. -/
  lastReport : Option EndpointHeartbeat

/-- A row of `node_endpoint_candidates`; times are whole seconds. -/
structure CandidateRow where
  mode : EndpointMode
  source : EndpointSource
  address : String
  port : UInt16
  appliedRevision : Revision
  observedAt : Int
  expiresAt : Option Int
  lastReportGeneration : Nat
  firstReportedAt : Nat
  withdrawnAt : Option Nat
  /-- The report that announced the candidate, or announced it again after a withdrawal. -/
  verificationGeneration : Nat

inductive TcpProbeErrorCode where
  | targetNotPublic
  | noSupportedAddress
  | dnsFailed
  | dnsTimeout
  | tooManyAddresses
  | tcpUnreachable
  | tcpTimeout
  | executorFailed
  deriving DecidableEq, Repr

def TcpProbeErrorCode.asStr : TcpProbeErrorCode → String
  | targetNotPublic => "direct_target_not_public"
  | noSupportedAddress => "direct_no_supported_address"
  | dnsFailed => "direct_dns_failed"
  | dnsTimeout => "direct_dns_timeout"
  | tooManyAddresses => "direct_dns_too_many_addresses"
  | tcpUnreachable => "direct_tcp_unreachable"
  | tcpTimeout => "direct_tcp_timeout"
  | executorFailed => "direct_probe_executor_failed"

inductive ProtocolCanaryErrorCode where
  | binaryInvalid
  | clientStartFailed
  | clientUnhealthy
  | vlessRealityHandshakeFailed
  | timedOut
  deriving DecidableEq, Repr

def ProtocolCanaryErrorCode.asStr : ProtocolCanaryErrorCode → String
  | binaryInvalid => "protocol_binary_invalid"
  | clientStartFailed => "protocol_client_start_failed"
  | clientUnhealthy => "protocol_client_unhealthy"
  | vlessRealityHandshakeFailed => "protocol_vless_reality_failed"
  | timedOut => "protocol_timeout"

/-- A row of `node_endpoint_verifications`, with the columns that go with its status. The table
checks that they do. -/
inductive Verification where
  | pending
  /-- `last_success_at`, which is `last_probe_at` too, the latency and the expiry. -/
  | verified (lastSuccessAt latencyMs expiresAt : Nat)
  | failed (lastProbeAt : Nat) (code : ProtocolCanaryErrorCode) (lastSuccessAt : Option Nat)
  | withdrawn
  deriving DecidableEq, Repr

/-- `last_success_at`; that of a withdrawn row is not used again. -/
def Verification.lastSuccessAt : Verification → Option Nat
  | verified lastSuccessAt _ _ => some lastSuccessAt
  | failed _ _ lastSuccessAt => lastSuccessAt
  | _ => none

/-- `endpoint_probe_attempts.phase` -/
inductive ProbePhase where
  | tcp
  | protocol
  deriving DecidableEq, Repr

inductive ProbeErrorCode where
  | tcp (code : TcpProbeErrorCode)
  | protocol (code : ProtocolCanaryErrorCode)
  deriving DecidableEq, Repr

/-- `endpoint_probe_attempts.result_code` of a failed attempt. -/
def ProbeErrorCode.asStr : ProbeErrorCode → String
  | tcp code => code.asStr
  | protocol code => code.asStr

/-- `endpoint_probe_attempts.status` with the columns that the table checks along with it. -/
inductive ProbeStatus where
  | claimed
  | succeeded (completedAt : Nat) (resolvedAddress : IpAddr) (latencyMs : Nat)
  | failed (completedAt : Nat) (code : ProbeErrorCode)
  /-- The candidate changed. -/
  | cancelled (completedAt : Nat)
  /-- The claim expired. -/
  | expired (completedAt : Nat)
  deriving DecidableEq, Repr

/-- A row of `endpoint_probe_attempts`. -/
structure ProbeAttempt where
  attemptId : Nat
  probeId : Uuid
  nodeId : NodeId
  endpointId : EndpointId
  phase : ProbePhase
  status : ProbeStatus
  runnerId : Uuid
  /-- Stands for `claim_token_sha256`. -/
  claimToken : Nat
  candidateGeneration : Nat
  address : String
  port : UInt16
  appliedRevision : Revision
  startedAt : Nat
  claimExpiresAt : Nat

structure EndpointStore where
  policy : PolicyStore
  hosts : Table NodeId HostRow
  candidates : Table (NodeId × EndpointId) CandidateRow
  verifications : Table (NodeId × EndpointId) Verification
  /-- The newest attempt comes first. -/
  attempts : List ProbeAttempt

inductive EndpointError where
  | protocol (error : ProtocolValidationError)
  | policy (error : PolicyError)
  | nodeRevoked
  | nodeHeartbeatStale
  | nodeHeartbeatConflict
  | endpointCandidateRevisionConflict
  | endpointCandidateConflict
  | probeClaimNotFound
  | probeClaimConflict
  | storedProtocolValue
  | timestampOverflow
  | timestampComponent
  /-- A constraint of a table is violated. -/
  | sqlite

/-! ### Candidates -/

namespace CandidateRow

/-- The columns of the unique index on current addresses. -/
def addressKey (row : CandidateRow) : AddressKey :=
  ⟨row.mode, row.address, row.port, row.appliedRevision⟩

/-- The comparison in `refresh_endpoint_candidate`. -/
def unchanged (row : CandidateRow) (c : EndpointCandidate) : Bool :=
  row.mode = c.mode && row.source = c.source && row.address = c.address && row.port = c.port
    && row.appliedRevision = c.appliedRevision && row.observedAt = unixTimestamp c.observedAt
    && row.expiresAt = c.expiresAt.map unixTimestamp

def inserted (c : EndpointCandidate) (generation now : Nat) : CandidateRow where
  mode := c.mode
  source := c.source
  address := c.address
  port := c.port
  appliedRevision := c.appliedRevision
  observedAt := unixTimestamp c.observedAt
  expiresAt := c.expiresAt.map unixTimestamp
  lastReportGeneration := generation
  firstReportedAt := now
  withdrawnAt := none
  verificationGeneration := generation

def refreshed (generation : Nat) (row : CandidateRow) : CandidateRow :=
  { row with
    lastReportGeneration := generation
    withdrawnAt := none
    verificationGeneration :=
      if row.withdrawnAt.isSome then generation else row.verificationGeneration }

end CandidateRow

/-- The columns of `nodes` after a heartbeat. -/
def HostRow.reported (heartbeat : EndpointHeartbeat) (now : Nat) (row : HostRow) : HostRow :=
  { row with
    runtimeState := some heartbeat.state
    providerPaused := heartbeat.providerPaused
    lastSeenAt := some now
    lastReport := some heartbeat }

def PolicyStore.publicPortOf (policy : PolicyStore) (node : NodeId) (revision : Revision) :
    Option UInt16 :=
  (policy.documents.find (node, revision)).bind fun signed =>
    if signed.document.schemaVersion = 2 then signed.document.xray.publicPort else none

namespace ProbeAttempt

def isOf (attempt : ProbeAttempt) (node : NodeId) (endpoint : EndpointId) : Bool :=
  attempt.nodeId = node && attempt.endpointId = endpoint

def finish (status : ProbeStatus) (attempt : ProbeAttempt) : ProbeAttempt :=
  if attempt.status = .claimed then { attempt with status := status } else attempt

end ProbeAttempt

namespace EndpointStore

/-- The unique index: another current candidate of the node has the address. -/
def addressTaken (s : EndpointStore) (node : NodeId) (endpoint : EndpointId) (key : AddressKey) :
    Bool :=
  s.candidates.any fun entry => entry.1.1 = node && entry.1.2 ≠ endpoint
    && entry.2.withdrawnAt.isNone && entry.2.addressKey = key

def validateEndpointCandidateRevision (s : EndpointStore) (node : NodeId)
    (c : EndpointCandidate) : Except EndpointError Unit :=
  refuseWhen (c.mode = .direct ∧ s.policy.publicPortOf node c.appliedRevision ≠ some c.port)
    .endpointCandidateRevisionConflict

def claimedAttempts (s : EndpointStore) (node : NodeId) (endpoint : EndpointId) :
    List ProbeAttempt :=
  s.attempts.filter fun attempt => attempt.isOf node endpoint && attempt.status = .claimed

/-- The tables after a known candidate has been reported again; if it was withdrawn, its claimed
attempts are cancelled and its verification starts anew. -/
def refreshed (s : EndpointStore) (node : NodeId) (endpoint : EndpointId) (row : CandidateRow)
    (generation now : Nat) : EndpointStore :=
  { s with
    candidates := s.candidates.updateAt (node, endpoint) (CandidateRow.refreshed generation)
    attempts := s.attempts.map fun attempt =>
      if row.withdrawnAt.isSome ∧ attempt.isOf node endpoint
      then attempt.finish (.cancelled now) else attempt
    verifications := s.verifications.updateAt (node, endpoint) fun verification =>
      if row.withdrawnAt.isSome ∧ verification = .withdrawn then .pending else verification }

/-- `refresh_endpoint_candidate`: whether the candidate was known. Constraints can refuse a
withdrawn one. -/
def refreshEndpointCandidate (s : EndpointStore) (node : NodeId) (c : EndpointCandidate)
    (generation now : Nat) : Except EndpointError (EndpointStore × Bool) :=
  match s.candidates.find (node, c.endpointId) with
  | none => .ok (s, false)
  | some row => do
    refuseWhen (!row.unchanged c) .endpointCandidateConflict
    refuseWhen (row.withdrawnAt.isSome ∧ s.addressTaken node c.endpointId row.addressKey) .sqlite
    refuseWhen (row.withdrawnAt.isSome ∧ (s.claimedAttempts node c.endpointId).any fun attempt =>
      now < attempt.startedAt) .sqlite
    return (s.refreshed node c.endpointId row generation now, true)

/-- The first loop of `record_endpoint_candidates`: the candidates that are new. -/
def refreshCandidates (s : EndpointStore) (node : NodeId) (generation now : Nat) :
    List EndpointCandidate → Except EndpointError (EndpointStore × List EndpointCandidate)
  | [] => .ok (s, [])
  | c :: rest => do
    s.validateEndpointCandidateRevision node c
    let (s, known) ← s.refreshEndpointCandidate node c generation now
    let (s, new) ← s.refreshCandidates node generation now rest
    return (s, if known then new else c :: new)

def withdrawRow (node : NodeId) (generation now : Nat) (key : NodeId × EndpointId)
    (row : CandidateRow) : CandidateRow :=
  if key.1 = node ∧ row.withdrawnAt.isNone ∧ row.lastReportGeneration < generation
  then { row with withdrawnAt := some now } else row

def isWithdrawn (s : EndpointStore) (key : NodeId × EndpointId) : Bool :=
  (s.candidates.find key).any fun row => row.withdrawnAt.isSome

def withdrawMissingCandidates (s : EndpointStore) (node : NodeId) (generation now : Nat) :
    EndpointStore :=
  let s := { s with candidates := s.candidates.update (withdrawRow node generation now) }
  { s with
    verifications := s.verifications.update fun key verification =>
      if key.1 = node ∧ s.isWithdrawn key then .withdrawn else verification }

/-- `insert_endpoint_candidate`: the revision is published, the address free, and the expiry in
whole seconds later than the observation. -/
def insertEndpointCandidate (s : EndpointStore) (node : NodeId) (c : EndpointCandidate)
    (generation now : Nat) : Except EndpointError EndpointStore := do
  refuseWhen ((s.candidates.find (node, c.endpointId)).isSome) .sqlite
  refuseWhen ((s.policy.documents.find (node, c.appliedRevision)).isNone) .sqlite
  refuseWhen (s.addressTaken node c.endpointId c.addressKey) .sqlite
  refuseWhen (c.expiresAt.any fun expiry => unixTimestamp expiry ≤ unixTimestamp c.observedAt)
    .sqlite
  return { s with
    candidates := s.candidates.insert (node, c.endpointId)
      (CandidateRow.inserted c generation now)
    verifications := s.verifications.insert (node, c.endpointId) .pending }

/-- The second loop of `record_endpoint_candidates`. -/
def insertCandidates (s : EndpointStore) (node : NodeId) (generation now : Nat) :
    List EndpointCandidate → Except EndpointError EndpointStore
  | [] => .ok s
  | c :: rest => do
    let s ← s.insertEndpointCandidate node c generation now
    s.insertCandidates node generation now rest

def recordEndpointCandidates (s : EndpointStore) (node : NodeId)
    (endpoints : List EndpointCandidate) (generation now : Nat) :
    Except EndpointError EndpointStore := do
  let (s, new) ← s.refreshCandidates node generation now endpoints
  (s.withdrawMissingCandidates node generation now).insertCandidates node generation now new

/-! ### The answer to a heartbeat -/

/-- The newest attempt of an endpoint in a phase, made for a report no older than the given one. -/
def latestAttempt (s : EndpointStore) (node : NodeId) (endpoint : EndpointId) (phase : ProbePhase)
    (generation : Nat) : Option ProbeAttempt :=
  s.attempts.find? fun attempt => attempt.isOf node endpoint && attempt.phase = phase
    && generation ≤ attempt.candidateGeneration

/-- `timestamp` -/
def checkedAt (value : Nat) : Except EndpointError (Option Nat) :=
  ((timestamp value).mapError fun _ => .timestampComponent).map some

/-- The readiness that the latest TCP attempt shows. -/
def attemptStatus (endpoint : EndpointId) (row : CandidateRow) (now : Nat) :
    Option ProbeAttempt → Except EndpointError NodeEndpointStatus
  | none => .ok ⟨endpoint, .pending, none, none⟩
  | some attempt =>
    match attempt.status with
    | .claimed =>
      if attempt.candidateGeneration = row.lastReportGeneration ∧ now < attempt.claimExpiresAt
      then .ok ⟨endpoint, .checking, none, none⟩
      else .ok ⟨endpoint, .pending, none, none⟩
    | .cancelled _ | .expired _ => .ok ⟨endpoint, .pending, none, none⟩
    | .succeeded completedAt _ _ =>
      if row.verificationGeneration ≤ attempt.candidateGeneration
      then (checkedAt completedAt).map fun time => ⟨endpoint, .tcpReachable, time, none⟩
      else .ok ⟨endpoint, .pending, none, none⟩
    | .failed completedAt code =>
      if row.verificationGeneration ≤ attempt.candidateGeneration
      then (checkedAt completedAt).map fun time =>
        ⟨endpoint, .tcpUnreachable, time, some code.asStr⟩
      else .ok ⟨endpoint, .pending, none, none⟩

def decodeNodeEndpointStatus (endpoint : EndpointId) (row : CandidateRow)
    (verification : Verification) (attempt : Option ProbeAttempt) (now : Nat) :
    Except EndpointError NodeEndpointStatus :=
  match verification with
  | .withdrawn => .error .storedProtocolValue
  | .verified lastSuccessAt _ expiresAt =>
    if now < expiresAt
    then (checkedAt lastSuccessAt).map fun time => ⟨endpoint, .verified, time, none⟩
    else attemptStatus endpoint row now attempt
  | .pending | .failed .. => attemptStatus endpoint row now attempt

/-- The status of one current candidate; the join drops a candidate without a verification. -/
def endpointStatus (s : EndpointStore) (now : Nat)
    (entry : (NodeId × EndpointId) × CandidateRow) :
    Except EndpointError (Option NodeEndpointStatus) :=
  match s.verifications.find entry.1 with
  | none => .ok none
  | some verification =>
    (decodeNodeEndpointStatus entry.1.2 entry.2 verification
      (s.latestAttempt entry.1.1 entry.1.2 .tcp 0) now).map some

def currentCandidates (s : EndpointStore) (node : NodeId) :
    List ((NodeId × EndpointId) × CandidateRow) :=
  s.candidates.filter fun entry => entry.1.1 = node && entry.2.withdrawnAt.isNone

/-- `build_signed_node_heartbeat_status`, up to the signature. -/
def buildNodeHeartbeatStatus (s : EndpointStore) (key : PublicKey) (node : NodeId)
    (generation now : Nat) : Except EndpointError NodeHeartbeatStatus := do
  let statuses ← (s.currentCandidates node).mapM (s.endpointStatus now)
  let observedAt ← (timestamp now).mapError fun _ => .timestampComponent
  let status : NodeHeartbeatStatus := {
    nodeId := node
    heartbeatGeneration := generation
    observedAt
    endpoints := statuses.reduceOption.insertionSort fun a b => a.endpointId ≤ b.endpointId
    signingKeyId := ed25519SigningKeyId key
    controllerInstanceId := s.policy.controllerInstanceId }
  status.validate.mapError fun _ => .storedProtocolValue
  return status

/-! ### Heartbeats -/

def recordNewHeartbeat (s : EndpointStore) (key : PublicKey) (node : NodeId)
    (heartbeat : EndpointHeartbeat) (now : Nat) :
    Except EndpointError (EndpointStore × NodeHeartbeatStatus) := do
  let policy ← (s.policy.recordHeartbeat node heartbeat.toNodeHeartbeat).mapError .policy
  let reported : EndpointStore :=
    { s with policy := policy, hosts := s.hosts.updateAt node (HostRow.reported heartbeat now) }
  let recorded ← reported.recordEndpointCandidates node heartbeat.endpoints
    heartbeat.heartbeatGeneration now
  let status ← recorded.buildNodeHeartbeatStatus key node heartbeat.heartbeatGeneration now
  return (recorded, status)

def repeatHeartbeat (s : EndpointStore) (key : PublicKey) (node : NodeId)
    (heartbeat : EndpointHeartbeat) (now : Nat) :
    Except EndpointError (EndpointStore × NodeHeartbeatStatus) := do
  refuseWhen ((s.hosts.find node).bind (·.lastReport) ≠ some heartbeat) .nodeHeartbeatConflict
  let status ← s.buildNodeHeartbeatStatus key node heartbeat.heartbeatGeneration now
  return (s, status)

def recordHeartbeat (s : EndpointStore) (key : PublicKey) (node : NodeId)
    (heartbeat : EndpointHeartbeat) (now : Nat) :
    Except EndpointError (EndpointStore × NodeHeartbeatStatus) := do
  heartbeat.validate.mapError .protocol
  let record ← required (s.policy.nodes.find node) .nodeRevoked
  refuseWhen (!record.status.mayReport) .nodeRevoked
  refuseWhen (heartbeat.heartbeatGeneration < record.lastHeartbeatGeneration) .nodeHeartbeatStale
  if heartbeat.heartbeatGeneration = record.lastHeartbeatGeneration
  then s.repeatHeartbeat key node heartbeat now
  else s.recordNewHeartbeat key node heartbeat now

end EndpointStore

end RealityConsole.Controller
