import RealityConsole.Controller.Endpoints

/-!
# Probes of endpoint candidates

A TCP probe or a protocol canary is claimed for the candidate that is due, and the runner hands the
job back with a result; only a claim that is still open, for a candidate that has not changed since,
is recorded. A protocol canary that connects verifies its endpoint for fifteen minutes.
-/

namespace RealityConsole.Controller

open Framework Protocol

/-- `ProbeSchedule`, and the same durations of `ProtocolCanaryLoopOptions`, in positive seconds. -/
structure ProbeSchedule where
  claimLease : Nat
  successInterval : Nat
  failureInterval : Nat
  nodeOnlineWindow : Nat
  claimLease_pos : 0 < claimLease

structure FreshClaim where
  probeId : Uuid
  runnerId : Uuid
  claimToken : Nat

/-- `TcpProbeJob`: one durably claimed TCP preflight. -/
structure TcpProbeJob where
  probeId : Uuid
  runnerId : Uuid
  networkId : NetworkId
  nodeId : NodeId
  endpointId : EndpointId
  address : String
  port : UInt16
  appliedRevision : Revision
  candidateGeneration : Nat
  claimExpiresAt : Nat
  claimToken : Nat
  deriving DecidableEq, Repr

/-- `ProtocolCanaryJob`: a claim with the secrets that the canary needs. -/
structure ProtocolCanaryJob extends TcpProbeJob where
  resolvedAddress : IpAddr
  vlessUuid : String
  serverName : String
  realityPublicKey : String
  realityShortId : String
  deriving DecidableEq, Repr

inductive TcpProbeResult where
  | connected (resolvedAddress : IpAddr) (latencyMs : Nat)
  | failed (code : TcpProbeErrorCode)

inductive ProtocolCanaryResult where
  | connected (latencyMs : Nat)
  | failed (code : ProtocolCanaryErrorCode)

inductive TcpProbeCompletion where
  | recorded
  | alreadyRecorded
  | claimExpired
  | candidateChanged
  deriving DecidableEq, Repr

def verificationSeconds : Nat := 15 * 60

namespace ProbeAttempt

/-- `StoredProbeClaim::authenticates` and `authenticates_protocol` -/
def authenticates (claim : ProbeAttempt) (phase : ProbePhase) (job : TcpProbeJob) : Bool :=
  claim.claimToken = job.claimToken && claim.nodeId = job.nodeId
    && claim.endpointId = job.endpointId && claim.phase = phase && claim.runnerId = job.runnerId
    && claim.candidateGeneration = job.candidateGeneration && claim.address = job.address
    && claim.port = job.port && claim.appliedRevision = job.appliedRevision
    && claim.claimExpiresAt = job.claimExpiresAt

/-- `status = 'succeeded'` -/
def hasSucceeded (attempt : ProbeAttempt) : Bool :=
  match attempt.status with
  | .succeeded .. => true
  | _ => false

def resolvedSince (attempt : ProbeAttempt) (cutoff : Int) : Option IpAddr :=
  match attempt.status with
  | .succeeded completedAt resolved _ => if cutoff ≤ completedAt then some resolved else none
  | _ => none

end ProbeAttempt

namespace EndpointStore

/-! ### Claims -/

def expireStaleProbeClaims (s : EndpointStore) (now : Nat) : EndpointStore :=
  { s with attempts := s.attempts.map fun attempt =>
      if attempt.claimExpiresAt ≤ now then attempt.finish (.expired now) else attempt }

def nodeServes (s : EndpointStore) (node : NodeId) (row : CandidateRow) : Bool :=
  (s.policy.nodes.find node).any (fun record => record.status = .active
      && record.appliedRevision = some row.appliedRevision
      && record.lastHeartbeatGeneration = row.lastReportGeneration)
    && (s.hosts.find node).any fun host =>
      host.runtimeState = some .serving && !host.providerPaused

/-- `last_seen_at >= cutoff` -/
def seenSince (s : EndpointStore) (node : NodeId) (cutoff : Int) : Bool :=
  (s.hosts.find node).any fun host => host.lastSeenAt.any fun (seen : Nat) => cutoff ≤ seen

def portServed (s : EndpointStore) (node : NodeId) (row : CandidateRow) : Bool :=
  match row.mode with
  | .direct => s.policy.publicPortOf node row.appliedRevision = some row.port
  | .relay => row.source = .relay && (s.policy.documents.find (node, row.appliedRevision)).isSome

/-- `expires_at IS NULL OR expires_at > time` -/
def unexpired (row : CandidateRow) (time : Nat) : Bool :=
  row.expiresAt.all fun expiry => (time : Int) < expiry

def verifiable (s : EndpointStore) (key : NodeId × EndpointId) : Bool :=
  (s.verifications.find key).any fun verification => verification ≠ .withdrawn

def hasClaim (s : EndpointStore) (node : NodeId) : Bool :=
  s.attempts.any fun attempt => attempt.nodeId = node && attempt.status = .claimed

def latestSince (s : EndpointStore) (key : NodeId × EndpointId) (row : CandidateRow)
    (phase : ProbePhase) : Option ProbeAttempt :=
  s.latestAttempt key.1 key.2 phase row.verificationGeneration

def intervalPassed (schedule : ProbeSchedule) (now : Nat) : Option ProbeAttempt → Bool
  | none => true
  | some attempt =>
    let interval :=
      if attempt.hasSucceeded then schedule.successInterval else schedule.failureInterval
    attempt.startedAt + interval ≤ now

/-- The order in which due candidates are served: the longest without an attempt first. -/
def probeOrder (s : EndpointStore) (phase : ProbePhase)
    (a b : (NodeId × EndpointId) × CandidateRow) : Prop :=
  let latest := fun entry : (NodeId × EndpointId) × CandidateRow =>
    ((s.latestSince entry.1 entry.2 phase).map (·.attemptId)).getD 0
  latest a < latest b ∨ latest a = latest b ∧ (a.2.firstReportedAt < b.2.firstReportedAt ∨
    a.2.firstReportedAt = b.2.firstReportedAt ∧ a.1.2 ≤ b.1.2)

instance (s : EndpointStore) (phase : ProbePhase) : DecidableRel (s.probeOrder phase) :=
  fun _ _ => inferInstanceAs (Decidable (_ ∨ _))

/-- The condition of `SELECT_DUE_TCP_PROBE_SQL`. -/
def tcpDue (s : EndpointStore) (schedule : ProbeSchedule) (now : Nat)
    (entry : (NodeId × EndpointId) × CandidateRow) : Bool :=
  s.nodeServes entry.1.1 entry.2 && s.seenSince entry.1.1 (now - schedule.nodeOnlineWindow)
    && s.portServed entry.1.1 entry.2 && entry.2.withdrawnAt.isNone
    && unexpired entry.2 (now + schedule.claimLease) && s.verifiable entry.1
    && !s.hasClaim entry.1.1
    && intervalPassed schedule now (s.latestSince entry.1 entry.2 .tcp)

def claimAttempt (s : EndpointStore) (phase : ProbePhase) (fresh : FreshClaim)
    (entry : (NodeId × EndpointId) × CandidateRow) (now claimExpiresAt : Nat) : ProbeAttempt where
  attemptId := s.attempts.length + 1
  probeId := fresh.probeId
  nodeId := entry.1.1
  endpointId := entry.1.2
  phase := phase
  status := .claimed
  runnerId := fresh.runnerId
  claimToken := fresh.claimToken
  candidateGeneration := entry.2.lastReportGeneration
  address := entry.2.address
  port := entry.2.port
  appliedRevision := entry.2.appliedRevision
  startedAt := now
  claimExpiresAt := claimExpiresAt

def jobOf (s : EndpointStore) (attempt : ProbeAttempt) : TcpProbeJob where
  probeId := attempt.probeId
  runnerId := attempt.runnerId
  networkId := s.policy.networkId
  nodeId := attempt.nodeId
  endpointId := attempt.endpointId
  address := attempt.address
  port := attempt.port
  appliedRevision := attempt.appliedRevision
  candidateGeneration := attempt.candidateGeneration
  claimExpiresAt := attempt.claimExpiresAt
  claimToken := attempt.claimToken

def insertClaim (s : EndpointStore) (attempt : ProbeAttempt) :
    Except EndpointError EndpointStore := do
  refuseWhen (s.attempts.any fun other => other.probeId = attempt.probeId) .sqlite
  refuseWhen (s.hasClaim attempt.nodeId) .sqlite
  return { s with attempts := attempt :: s.attempts }

def claimTcpProbe (s : EndpointStore) (fresh : FreshClaim) (schedule : ProbeSchedule)
    (now : Nat) : Except EndpointError (EndpointStore × Option TcpProbeJob) := do
  refuseWhen (i64Limit ≤ now + schedule.claimLease) .timestampOverflow
  let s := s.expireStaleProbeClaims now
  match ((s.candidates.filter (s.tcpDue schedule now)).insertionSort (s.probeOrder .tcp)).head? with
  | none => .ok (s, none)
  | some entry =>
    let attempt := s.claimAttempt .tcp fresh entry now (now + schedule.claimLease)
    (s.insertClaim attempt).map fun claimed => (claimed, some (s.jobOf attempt))

/-- The canary credential that the applied revision of a candidate lists. -/
def revisionCanary (s : EndpointStore) (node : NodeId) (revision : Revision) :
    Option CanaryCredential :=
  (s.policy.revisionCanaries.find (node, revision)).bind fun id =>
    s.policy.canaries.find? fun c => c.nodeId = node && c.credentialId = id

/-- The latest TCP attempt that succeeded for exactly this candidate. -/
def tcpEvidence (s : EndpointStore) (key : NodeId × EndpointId) (row : CandidateRow) :
    Option ProbeAttempt :=
  s.attempts.find? fun attempt => attempt.isOf key.1 key.2 && attempt.phase = .tcp
    && attempt.hasSucceeded && attempt.appliedRevision = row.appliedRevision
    && attempt.address = row.address && attempt.port = row.port
    && row.verificationGeneration ≤ attempt.candidateGeneration

/-- The rows that the query of `claim_protocol_canary` joins to a candidate. -/
structure CanaryJoin where
  host : HostRow
  signed : SignedDesiredState
  credential : CanaryCredential
  /-- The address that TCP resolved. -/
  resolvedAddress : IpAddr

/-- The joins of `claim_protocol_canary`. -/
def canaryJoin (s : EndpointStore) (schedule : ProbeSchedule) (now : Nat)
    (entry : (NodeId × EndpointId) × CandidateRow) : Option CanaryJoin := do
  let host ← s.hosts.find entry.1.1
  let signed ← s.policy.documents.find (entry.1.1, entry.2.appliedRevision)
  let credential ← s.revisionCanary entry.1.1 entry.2.appliedRevision
  let tcp ← s.tcpEvidence entry.1 entry.2
  let resolvedAddress ← tcp.resolvedSince (now - schedule.successInterval)
  return { host, signed, credential, resolvedAddress }

/-- The condition of the query of `claim_protocol_canary`. -/
def canaryDue (s : EndpointStore) (schedule : ProbeSchedule) (now : Nat)
    (entry : (NodeId × EndpointId) × CandidateRow) : Bool :=
  entry.2.withdrawnAt.isNone && unexpired entry.2 now && s.nodeServes entry.1.1 entry.2
    && s.seenSince entry.1.1 (now - schedule.nodeOnlineWindow)
    && (s.canaryJoin schedule now entry).any (fun join => join.credential.status = .active)
    && s.verifiable entry.1 && !s.hasClaim entry.1.1
    && intervalPassed schedule now (s.latestSince entry.1 entry.2 .protocol)

def canaryJob (s : EndpointStore) (attempt : ProbeAttempt) (join : CanaryJoin) :
    Except EndpointError ProtocolCanaryJob := do
  let realityPublicKey ← required join.host.realityPublicKey .sqlite
  let realityShortId ← required join.host.realityShortId .sqlite
  let serverName ← required join.signed.document.xray.serverNames.head? .sqlite
  return {
    toTcpProbeJob := s.jobOf attempt
    resolvedAddress := join.resolvedAddress
    vlessUuid := join.credential.vlessUuid
    serverName, realityPublicKey, realityShortId }

def claimCanary (s : EndpointStore) (fresh : FreshClaim) (now claimExpiresAt : Nat)
    (entry : (NodeId × EndpointId) × CandidateRow) (join : CanaryJoin) :
    Except EndpointError (EndpointStore × Option ProtocolCanaryJob) := do
  let attempt := s.claimAttempt .protocol fresh entry now claimExpiresAt
  let job ← s.canaryJob attempt join
  let claimed ← s.insertClaim attempt
  return (claimed, some job)

def claimProtocolCanary (s : EndpointStore) (fresh : FreshClaim) (schedule : ProbeSchedule)
    (now : Nat) : Except EndpointError (EndpointStore × Option ProtocolCanaryJob) := do
  refuseWhen (i64Limit ≤ now + schedule.claimLease) .timestampOverflow
  let s := s.expireStaleProbeClaims now
  match ((s.candidates.filter (s.canaryDue schedule now)).insertionSort
    (s.probeOrder .protocol)).head? with
  | none => .ok (s, none)
  | some entry =>
    match s.canaryJoin schedule now entry with
    | none => .ok (s, none)
    | some join => s.claimCanary fresh now (now + schedule.claimLease) entry join

/-! ### Completions -/

def loadProbeClaim (s : EndpointStore) (job : TcpProbeJob) : Except EndpointError ProbeAttempt :=
  required (s.attempts.find? fun attempt =>
    job.networkId = s.policy.networkId && attempt.probeId = job.probeId) .probeClaimNotFound

/-- `finish_probe_attempt` of a claim that is open; a completion cannot precede the start. -/
def finishProbeAttempt (s : EndpointStore) (claim : ProbeAttempt) (status : ProbeStatus)
    (now : Nat) : Except EndpointError EndpointStore := do
  refuseWhen (now < claim.startedAt) .sqlite
  return { s with attempts := s.attempts.map fun attempt =>
      if attempt.probeId = claim.probeId then attempt.finish status else attempt }

def probeCandidateIsCurrent (s : EndpointStore) (job : TcpProbeJob) (now : Nat) : Bool :=
  (s.candidates.find (job.nodeId, job.endpointId)).any fun row =>
    row.address = job.address && row.port = job.port
      && row.appliedRevision = job.appliedRevision
      && row.lastReportGeneration = job.candidateGeneration
      && s.portServed job.nodeId row && row.withdrawnAt.isNone && unexpired row now
      && s.verifiable (job.nodeId, job.endpointId) && s.nodeServes job.nodeId row

def prepareProbeResult (now : Nat) : TcpProbeResult → ProbeStatus
  | .connected resolved latency => .succeeded now resolved latency
  | .failed code => .failed now (.tcp code)

def completeTcpProbe (s : EndpointStore) (job : TcpProbeJob) (result : TcpProbeResult)
    (now : Nat) : Except EndpointError (EndpointStore × TcpProbeCompletion) := do
  let claim ← s.loadProbeClaim job
  refuseWhen (!claim.authenticates .tcp job) .probeClaimConflict
  if claim.status ≠ .claimed then .ok (s, .alreadyRecorded)
  else if claim.claimExpiresAt ≤ now then
    (s.finishProbeAttempt claim (.expired now) now).map fun s => (s, .claimExpired)
  else if !s.probeCandidateIsCurrent job now then
    (s.finishProbeAttempt claim (.cancelled now) now).map fun s => (s, .candidateChanged)
  else (s.finishProbeAttempt claim (prepareProbeResult now result) now).map fun s => (s, .recorded)

def protocolCanaryCredentialIsCurrent (s : EndpointStore) (job : ProtocolCanaryJob) : Bool :=
  (s.revisionCanary job.nodeId job.appliedRevision).any fun credential =>
    credential.status = .active && credential.vlessUuid = job.vlessUuid

def protocolStatus (job : ProtocolCanaryJob) (now : Nat) : ProtocolCanaryResult → ProbeStatus
  | .connected latency => .succeeded now job.resolvedAddress latency
  | .failed code => .failed now (.protocol code)

def protocolVerification (now : Nat) (previous : Verification) :
    ProtocolCanaryResult → Verification
  | .connected latency => .verified now latency (now + verificationSeconds)
  | .failed code => .failed now code previous.lastSuccessAt

/-- `update_protocol_verification`. The table refuses a failure whose last success is later than the
probe. -/
def updateProtocolVerification (s : EndpointStore) (job : ProtocolCanaryJob)
    (result : ProtocolCanaryResult) (now : Nat) : Except EndpointError EndpointStore := do
  refuseWhen (i64Limit ≤ now + verificationSeconds) .timestampOverflow
  let previous ← required (s.verifications.find (job.nodeId, job.endpointId)) .probeClaimConflict
  refuseWhen (previous = .withdrawn) .probeClaimConflict
  refuseWhen ((protocolVerification now previous result).lastSuccessAt.any fun success =>
    now < success) .sqlite
  return { s with
    verifications := s.verifications.updateAt (job.nodeId, job.endpointId) fun _ =>
      protocolVerification now previous result }

/-- A protocol canary whose claim is open and whose candidate is current. -/
def recordProtocolResult (s : EndpointStore) (claim : ProbeAttempt) (job : ProtocolCanaryJob)
    (result : ProtocolCanaryResult) (now : Nat) :
    Except EndpointError (EndpointStore × TcpProbeCompletion) := do
  let finished ← s.finishProbeAttempt claim (protocolStatus job now result) now
  let updated ← finished.updateProtocolVerification job result now
  return (updated, .recorded)

def completeProtocolCanary (s : EndpointStore) (job : ProtocolCanaryJob)
    (result : ProtocolCanaryResult) (now : Nat) :
    Except EndpointError (EndpointStore × TcpProbeCompletion) := do
  let claim ← s.loadProbeClaim job.toTcpProbeJob
  refuseWhen (!claim.authenticates .protocol job.toTcpProbeJob) .probeClaimConflict
  if claim.status ≠ .claimed then .ok (s, .alreadyRecorded)
  else if claim.claimExpiresAt ≤ now then
    (s.finishProbeAttempt claim (.expired now) now).map fun s => (s, .claimExpired)
  else if !s.probeCandidateIsCurrent job.toTcpProbeJob now
      || !s.protocolCanaryCredentialIsCurrent job then
    (s.finishProbeAttempt claim (.cancelled now) now).map fun s => (s, .candidateChanged)
  else s.recordProtocolResult claim job result now

/-! ### Canary rotation and enrollment -/

def resetVerification (node : NodeId) (key : NodeId × EndpointId) (verification : Verification) :
    Verification :=
  if key.1 = node ∧ verification ≠ .withdrawn then .pending else verification

def resetVerifications (s : EndpointStore) (node : NodeId) : EndpointStore :=
  { s with verifications := s.verifications.update (resetVerification node) }

def rotateProtocolCanary (s : EndpointStore) (identity : ControllerIdentity) (node : NodeId)
    (draws : Draws) (now : Nat) : Except EndpointError EndpointStore := do
  let policy ← (s.policy.rotateProtocolCanary identity node draws now).mapError .policy
  return { s.resetVerifications node with policy := policy }

/-- `enroll_node` with the columns of its row. -/
def enrollNode (s : EndpointStore) (identity : ControllerIdentity) (node : NodeId)
    (host : HostRow) (configuration : Option DesiredStateConfigurationDraft) (draws : Draws)
    (now : Nat) : Except EndpointError EndpointStore := do
  let policy ← (s.policy.enrollNode identity node configuration draws now).mapError .policy
  return { s with
    policy := policy
    hosts := s.hosts.insert node
      { host with runtimeState := none, providerPaused := false, lastSeenAt := none
                  lastReport := none } }

end EndpointStore

end RealityConsole.Controller
