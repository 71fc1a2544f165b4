import RealityConsole.Framework.Net
import RealityConsole.Protocol.Crypto
import RealityConsole.Protocol.Telemetry

/-!
# Relay grants and route documents

One relay grant is one credential generation of one node at one relay. The controller signs its
header twice: for the node with the encrypted credential, and for the relay with the digests of that
credential. Signatures are symbolic: only the holder of the key signs.
-/

namespace RealityConsole.Protocol

open Framework

abbrev RelayId := Nat
abbrev RelayRouteId := Nat
abbrev EndpointId := Nat

/-- The grant identity is also a file name and a registration name, so it is kept with its text. -/
abbrev RelayGrantId := Uuid

def relaySchemaVersion : Nat := 1

def maxRelayGrantLifetimeSeconds : Nat := 86400

/-! ### Limits -/

/-- Controller and relay ceilings for one route generation. -/
structure RelayLimits where
  maxConcurrentStreams : Nat
  maxBytesPerSecond : Nat
  maxBytesPerConnection : Nat
  monthlyByteLimit : Nat
  deriving DecidableEq, Repr

/-- One finite byte limit: 1 MiB to 10 PiB. -/
def validateByteLimit (value : Nat) (field : String) : Checked Unit :=
  refuseWhen (¬(1048576 ≤ value ∧ value ≤ 10 * 2 ^ 50))
    ⟨.outOfRange, field, "relay byte limit is outside the supported finite range"⟩

def RelayLimits.validate (limits : RelayLimits) : Checked Unit := do
  refuseWhen (¬(1 ≤ limits.maxConcurrentStreams ∧ limits.maxConcurrentStreams ≤ 4096))
    ⟨.outOfRange, "limits.maxConcurrentStreams",
      "relay concurrent streams must be between 1 and 4096"⟩
  refuseWhen (¬(1024 ≤ limits.maxBytesPerSecond ∧ limits.maxBytesPerSecond ≤ 10000000000))
    ⟨.outOfRange, "limits.maxBytesPerSecond",
      "relay byte rate is outside the supported finite range"⟩
  validateByteLimit limits.maxBytesPerConnection "limits.maxBytesPerConnection"
  validateByteLimit limits.monthlyByteLimit "limits.monthlyByteLimit"

def RelayLimits.Within (limits ceilings : RelayLimits) : Prop :=
  limits.maxConcurrentStreams ≤ ceilings.maxConcurrentStreams
    ∧ limits.maxBytesPerSecond ≤ ceilings.maxBytesPerSecond
    ∧ limits.maxBytesPerConnection ≤ ceilings.maxBytesPerConnection
    ∧ limits.monthlyByteLimit ≤ ceilings.monthlyByteLimit

instance (limits ceilings : RelayLimits) : Decidable (limits.Within ceilings) :=
  inferInstanceAs (Decidable (_ ∧ _))

theorem RelayLimits.streams_pos_of_validate {limits : RelayLimits}
    (h : limits.validate = .ok ()) : 1 ≤ limits.maxConcurrentStreams := by
  obtain ⟨_, hstreams, -⟩ := bind_ok.1 h
  have hrange := refuse_ok.1 hstreams
  exact (not_not.1 hrange).1

/-! ### Header -/

/-- `RelayAssignmentHeader`: the identity that both documents sign. -/
structure RelayAssignmentHeader where
  schemaVersion : Nat
  networkId : NetworkId
  nodeId : NodeId
  relayId : RelayId
  /-- Logical route retained across rotations. -/
  routeId : RelayRouteId
  /-- Exact grant record. -/
  grantId : RelayGrantId
  generation : Nat
  /-- Endpoint identity reported by the node after registration. -/
  endpointId : EndpointId
  publicHost : String
  publicPort : Nat
  tunnelHost : String
  tunnelPort : Nat
  tlsServerName : String
  issuedAt : Nat
  notBefore : Nat
  expiresAt : Nat
  limits : RelayLimits
  deriving DecidableEq, Repr

/-- `validate_host`: an address literal, or at most 253 characters of lowercase labels. -/
def validateHost (value : String) (field : String) : Checked Unit :=
  refuseWhen
    (¬isIpLiteral value
      ∧ ¬(value ≠ "" ∧ value.utf8ByteSize ≤ 253
        ∧ (dotLabels value).all (isLabel fun c => isLowercase c || isDecimalDigit c)))
    ⟨.invalidFormat, field,
      "relay host must be a canonical IP literal or bounded DNS name without a port"⟩

def RelayAssignmentHeader.validate (header : RelayAssignmentHeader) : Checked Unit := do
  refuseWhen (header.schemaVersion ≠ relaySchemaVersion)
    ⟨.unsupportedSchema, "schemaVersion", "unsupported relay assignment schema"⟩
  validateHost header.publicHost "publicHost"
  validateHost header.tunnelHost "tunnelHost"
  validateHost header.tlsServerName "tlsServerName"
  refuseWhen (header.publicPort = 0 ∨ header.tunnelPort = 0)
    ⟨.outOfRange, "port", "relay ports must be non-zero"⟩
  refuseWhen (header.notBefore < header.issuedAt ∨ header.expiresAt ≤ header.notBefore)
    ⟨.inconsistentState, "expiresAt", "relay grant time ordering is invalid"⟩
  refuseWhen (header.issuedAt + maxRelayGrantLifetimeSeconds < header.expiresAt)
    ⟨.outOfRange, "expiresAt", "relay grant lifetime exceeds 24 hours"⟩
  header.limits.validate

theorem RelayAssignmentHeader.limits_of_validate {hdr : RelayAssignmentHeader}
    (h : hdr.validate = .ok ()) : hdr.limits.validate = .ok () := by
  simp only [validate, check_ok] at h
  exact h.2.2.2.2.2.2.2

/-! ### Route documents -/

/-- `relay_route_transcript`: what the signature of a route document covers. -/
structure RelayRouteTranscript where
  header : RelayAssignmentHeader
  routeTokenSha256 : BitVec 256
  clientCertificateSha256 : BitVec 256
  signingKeyId : SigningKeyId
  deriving DecidableEq, Repr

/-- `SignedRelayRoute`: the signed route document consumed by the relay. -/
structure SignedRelayRoute where
  header : RelayAssignmentHeader
  /-- Digest of the raw route token. -/
  routeTokenSha256 : BitVec 256
  /-- Digest of the exact client leaf certificate. -/
  clientCertificateSha256 : BitVec 256
  signingKeyId : SigningKeyId
  signature : Signature RelayRouteTranscript
  deriving DecidableEq, Repr

namespace SignedRelayRoute

def validate (route : SignedRelayRoute) : Checked Unit := route.header.validate

def transcript (route : SignedRelayRoute) : RelayRouteTranscript :=
  ⟨route.header, route.routeTokenSha256, route.clientCertificateSha256, route.signingKeyId⟩

/-- `verify_relay_route_signature` -/
def verify (route : SignedRelayRoute) (controllerPublicKey : PublicKey) : Bool :=
  route.signingKeyId = ed25519SigningKeyId controllerPublicKey
    && route.signature = ⟨controllerPublicKey, route.transcript⟩

/-- The document that the holder of the key signs over the header. -/
def sign (key : PublicKey) (header : RelayAssignmentHeader)
    (routeTokenSha256 clientCertificateSha256 : BitVec 256) : SignedRelayRoute where
  header := header
  routeTokenSha256 := routeTokenSha256
  clientCertificateSha256 := clientCertificateSha256
  signingKeyId := ed25519SigningKeyId key
  signature :=
    ⟨key, header, routeTokenSha256, clientCertificateSha256, ed25519SigningKeyId key⟩

@[simp] theorem signingKeyId_sign (key : PublicKey) (hdr : RelayAssignmentHeader)
    (token cert : BitVec 256) :
    (sign key hdr token cert).signingKeyId = ed25519SigningKeyId key := rfl

/-- An honestly signed document verifies under the signer's key. -/
@[simp] theorem verify_sign (key : PublicKey) (hdr : RelayAssignmentHeader)
    (token cert : BitVec 256) : (sign key hdr token cert).verify key := by
  simp [verify, sign, transcript]

end SignedRelayRoute

/-- How route documents are written as JSON. `Bytes` is the type of file contents. -/
structure RouteCodec where
  Bytes : Type
  size : Bytes → Nat
  encode : SignedRelayRoute → Bytes
  decode : Bytes → Option SignedRelayRoute
  /-- What was written is read back. -/
  decode_encode : ∀ route, decode (encode route) = some route
  /-- A JSON text is not empty. -/
  size_encode_pos : ∀ route, 0 < size (encode route)

/-- `EnsureRelayAssignmentRequest`: the provider's ceilings. -/
structure EnsureRelayAssignmentRequest where
  providerLimits : RelayLimits

def EnsureRelayAssignmentRequest.validate (request : EnsureRelayAssignmentRequest) :
    Checked Unit :=
  request.providerLimits.validate

structure AcknowledgeRelayAssignmentRequest where
  grantId : RelayGrantId
  generation : Nat

def AcknowledgeRelayAssignmentRequest.validate (request : AcknowledgeRelayAssignmentRequest) :
    Checked Unit :=
  refuseWhen (request.generation < 1)
    ⟨.outOfRange, "generation", "relay generation must be positive"⟩

end RealityConsole.Protocol
