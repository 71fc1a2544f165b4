import RealityConsole.Protocol.Account
import RealityConsole.Protocol.Relay

/-!
# Endpoint candidates

What a node says about the addresses at which it can be reached, and what the
controller answers about each of them. A heartbeat with its candidates extends
the heartbeat of `Protocol.Revision`. Times on the wire are instants with
nanoseconds; the controller stores whole seconds.
-/

namespace RealityConsole.Protocol

open Framework

/-- `Timestamp` on the wire: nanoseconds since the Unix epoch. -/
abbrev Instant := Int

/-- `OffsetDateTime::unix_timestamp`: the whole seconds, rounded down. -/
def unixTimestamp (instant : Instant) : Int := instant / 1000000000

inductive EndpointSource where
  | manual
  | pcp
  | natPmp
  | upnp
  | relay
  deriving DecidableEq, Repr

/-- Unverified endpoint candidate reported by a node heartbeat. -/
structure EndpointCandidate where
  /-- Stable identity for this exact candidate and lease generation. -/
  endpointId : EndpointId
  mode : EndpointMode
  /-- How the node obtained this candidate. -/
  source : EndpointSource
  /-- Hostname or IP address, never a general URL. -/
  address : String
  port : UInt16
  /-- Applied Xray revision served by this candidate. -/
  appliedRevision : Revision
  /-- Time the node observed or created this candidate. -/
  observedAt : Instant
  /-- Mapping or relay lease expiry. Manual endpoints may omit it. -/
  expiresAt : Option Instant
  deriving DecidableEq, Repr

/-- What must be unique among the current candidates of a node. -/
structure AddressKey where
  mode : EndpointMode
  address : String
  port : UInt16
  appliedRevision : Revision
  deriving DecidableEq, Repr

namespace EndpointCandidate

def addressKey (c : EndpointCandidate) : AddressKey :=
  ⟨c.mode, c.address, c.port, c.appliedRevision⟩

def sourceMatchesMode : EndpointMode → EndpointSource → Bool
  | .direct, .relay => false
  | .direct, _ => true
  | .relay, source => source = .relay

def validate (c : EndpointCandidate) : Checked Unit := do
  validateShortText c.address 253 "endpoints.address"
  refuseWhen ('/' ∈ c.address.toList ∨ c.address.toList.any isWhitespace)
    ⟨.invalidFormat, "endpoints.address",
      "endpoint address must be a hostname or IP address, not a URL"⟩
  refuseWhen (c.port = 0) ⟨.outOfRange, "endpoints.port", "endpoint port must be non-zero"⟩
  refuseWhen (!sourceMatchesMode c.mode c.source)
    ⟨.inconsistentState, "endpoints.source",
      "endpoint source must agree with direct or relay mode"⟩
  refuseWhen (c.expiresAt.any fun expiry => expiry ≤ c.observedAt)
    ⟨.outOfRange, "endpoints.expiresAt",
      "endpoint expiry must be later than its observation time"⟩
  refuseWhen (c.source ≠ .manual ∧ c.expiresAt.isNone)
    ⟨.missingField, "endpoints.expiresAt",
      "mapped and relayed endpoint candidates require a finite expiry"⟩

end EndpointCandidate

/-! ### Heartbeats with candidates -/

/-- The whole heartbeat: `NodeHeartbeat` with its version texts and candidates. -/
structure EndpointHeartbeat extends NodeHeartbeat where
  agentVersion : String
  xrayVersion : Option String
  /-- Bounded unverified endpoint candidates. -/
  endpoints : List EndpointCandidate
  deriving DecidableEq, Repr

namespace EndpointHeartbeat

def validateXrayVersion : Option String → Checked Unit
  | none => .ok ()
  | some version => validateShortText version 64 "xrayVersion"

def validateEndpoints (appliedRevision : Option Revision) : List EndpointCandidate → Checked Unit
  | [] => .ok ()
  | c :: rest => do
    c.validate
    refuseWhen (some c.appliedRevision ≠ appliedRevision)
      ⟨.inconsistentState, "endpoints.appliedRevision",
        "endpoint candidate must match the heartbeat applied revision"⟩
    validateEndpoints appliedRevision rest

def validate (h : EndpointHeartbeat) : Checked Unit := do
  refuseWhen (h.heartbeatGeneration = 0)
    ⟨.outOfRange, "heartbeatGeneration", "heartbeat generation must be positive"⟩
  validateShortText h.agentVersion 64 "agentVersion"
  validateXrayVersion h.xrayVersion
  h.revisions.validate
  refuseWhen (h.providerPaused ≠ decide (h.state = .providerPaused))
    ⟨.inconsistentState, "providerPaused", "providerPaused must agree with the runtime state"⟩
  refuseWhen (16 < h.endpoints.length)
    ⟨.outOfRange, "endpoints", "heartbeat endpoint count exceeds the protocol bound"⟩
  refuseWhen (¬(h.endpoints.map (·.endpointId)).Nodup)
    ⟨.inconsistentState, "endpoints", "endpoint candidate identities must be unique"⟩
  refuseWhen (¬(h.endpoints.map (·.addressKey)).Nodup)
    ⟨.inconsistentState, "endpoints",
      "endpoint candidates must not repeat an address for one revision"⟩
  refuseWhen (h.endpoints ≠ [] ∧ h.state ≠ .serving)
    ⟨.inconsistentState, "endpoints", "only a serving node may report endpoint candidates"⟩
  validateEndpoints h.revisions.appliedRevision h.endpoints

end EndpointHeartbeat

/-! ### The controller's answer -/

inductive EndpointReadiness where
  | pending
  | checking
  | tcpReachable
  | tcpUnreachable
  | verified

/-- Redacted controller status for one current endpoint candidate. -/
structure NodeEndpointStatus where
  endpointId : EndpointId
  readiness : EndpointReadiness
  /-- Completion time of the latest relevant external check. -/
  lastCheckedAt : Option Nat
  /-- Stable failure code of `tcpUnreachable`. -/
  errorCode : Option String

namespace NodeEndpointStatus

def consistent (status : NodeEndpointStatus) : Bool :=
  match status.readiness with
  | .pending | .checking => status.lastCheckedAt.isNone && status.errorCode.isNone
  | .tcpReachable | .verified => status.lastCheckedAt.isSome && status.errorCode.isNone
  | .tcpUnreachable => status.lastCheckedAt.isSome && status.errorCode.isSome

def isSnakeCase (code : String) : Bool :=
  code.toList.all fun c => ('a' ≤ c && c ≤ 'z') || ('0' ≤ c && c ≤ '9') || c = '_'

def validateErrorCode : Option String → Checked Unit
  | none => .ok ()
  | some code => do
    validateShortText code 128 "endpoints.errorCode"
    refuseWhen (!isSnakeCase code)
      ⟨.invalidFormat, "endpoints.errorCode", "endpoint error code must use lowercase snake case"⟩

def validate (status : NodeEndpointStatus) : Checked Unit := do
  refuseWhen (!status.consistent)
    ⟨.inconsistentState, "endpoints.readiness",
      "endpoint readiness must agree with its check time and error code"⟩
  validateErrorCode status.errorCode

end NodeEndpointStatus

/-- `NodeHeartbeatStatus`, without its schema version, always 1, and the lifecycle, the status of
the node. -/
structure NodeHeartbeatStatus where
  nodeId : NodeId
  heartbeatGeneration : Nat
  observedAt : Nat
  /-- Current endpoint candidates sorted by endpoint identity. -/
  endpoints : List NodeEndpointStatus
  signingKeyId : SigningKeyId
  controllerInstanceId : ControllerInstanceId

namespace NodeHeartbeatStatus

def validateEndpoints : List NodeEndpointStatus → Checked Unit
  | [] => .ok ()
  | status :: rest => do
    status.validate
    validateEndpoints rest

/-- `NodeHeartbeatStatus::validate_for` of the document's own identity. -/
def validate (status : NodeHeartbeatStatus) : Checked Unit := do
  refuseWhen (status.heartbeatGeneration = 0)
    ⟨.outOfRange, "heartbeatGeneration", "node heartbeat status generation must be positive"⟩
  refuseWhen (16 < status.endpoints.length)
    ⟨.outOfRange, "endpoints", "node heartbeat status has too many endpoints"⟩
  refuseWhen (¬(status.endpoints.map (·.endpointId)).IsChain (· < ·))
    ⟨.inconsistentState, "endpoints", "node heartbeat status endpoints must be uniquely sorted"⟩
  validateEndpoints status.endpoints

end NodeHeartbeatStatus

/-! ### What the checks accept -/

/-- What the checks of a candidate have in common with the stored row. -/
structure EndpointCandidate.Valid (c : EndpointCandidate) : Prop where
  address : validateShortText c.address 253 "endpoints.address" = .ok ()
  plain : '/' ∉ c.address.toList ∧ c.address.toList.any isWhitespace = false
  port : c.port ≠ 0
  source : sourceMatchesMode c.mode c.source = true
  expiry : ∀ expiry, c.expiresAt = some expiry → c.observedAt < expiry
  finite : c.source ≠ .manual → c.expiresAt.isSome

theorem EndpointCandidate.validate_ok {c : EndpointCandidate} : c.validate = .ok () ↔ c.Valid := by
  unfold EndpointCandidate.validate
  simp only [check_ok, refuse_ok]
  constructor
  · rintro ⟨haddr, hplain, hport, hsource, hexpiry, hfinite⟩
    refine ⟨haddr, ?_, hport, by simpa using hsource, ?_, ?_⟩
    · simpa [not_or] using hplain
    · intro expiry hexp
      simpa [hexp] using hexpiry
    · intro hmanual
      simpa [hmanual, Option.isSome_iff_ne_none] using hfinite
  · rintro ⟨haddr, hplain, hport, hsource, hexpiry, hfinite⟩
    refine ⟨haddr, by simpa [not_or] using hplain, hport, by simp [hsource], ?_, ?_⟩
    · cases hexp : c.expiresAt with
      | none => simp
      | some expiry => simpa using hexpiry expiry hexp
    · rintro ⟨hmanual, hnone⟩
      have hsome := hfinite hmanual
      rw [Option.isNone_iff_eq_none.1 hnone] at hsome
      cases hsome

namespace EndpointHeartbeat

theorem validateEndpoints_ok {applied : Option Revision} {candidates : List EndpointCandidate} :
    validateEndpoints applied candidates = .ok ()
      ↔ ∀ c ∈ candidates, c.Valid ∧ some c.appliedRevision = applied := by
  induction candidates with
  | nil => simp [validateEndpoints]
  | cons c rest ih =>
    simp only [validateEndpoints, check_ok, EndpointCandidate.validate_ok, refuse_ok,
      not_not, ih, List.mem_cons, forall_eq_or_imp, and_assoc]

structure Valid (h : EndpointHeartbeat) : Prop where
  /-- The heartbeat without its candidates is valid. -/
  base : h.toNodeHeartbeat.validate = .ok ()
  count : h.endpoints.length ≤ 16
  ids : (h.endpoints.map (·.endpointId)).Nodup
  addresses : (h.endpoints.map (·.addressKey)).Nodup
  serving : h.endpoints ≠ [] → h.state = .serving
  candidates : ∀ c ∈ h.endpoints, c.Valid ∧ some c.appliedRevision = h.revisions.appliedRevision

theorem valid_of_validate {h : EndpointHeartbeat} (hval : h.validate = .ok ()) : h.Valid := by
  unfold validate at hval
  simp only [check_ok, refuse_ok, validateEndpoints_ok, not_not, not_and] at hval
  obtain ⟨hgen, -, -, hrevs, hpaused, hcount, hids, hads, hserving, hall⟩ := hval
  refine ⟨?_, Nat.le_of_not_lt hcount, hids, hads, hserving, hall⟩
  unfold NodeHeartbeat.validate
  simp only [check_ok, refuse_ok, not_not]
  exact ⟨hgen, hrevs, hpaused⟩

end EndpointHeartbeat

theorem NodeHeartbeatStatus.validateEndpoints_ok {stats : List NodeEndpointStatus} :
    validateEndpoints stats = .ok () ↔ ∀ status ∈ stats, status.validate = .ok () := by
  induction stats with
  | nil => simp [validateEndpoints]
  | cons status rest ih =>
    simp only [validateEndpoints, check_ok, ih, List.mem_cons, forall_eq_or_imp]

end RealityConsole.Protocol
