import Mathlib.Data.List.Sort
import RealityConsole.Framework.JsonValue
import RealityConsole.Framework.Transcript
import RealityConsole.Protocol.Endpoint

/-!
# What is signed

The byte strings that controller, nodes and devices sign, field by field as the source writes them,
and the request texts that the controller digests for idempotency. Keys, nonces and ciphertexts are
the texts that carry them. The text of a timestamp is a parameter that no two instants share.
-/

namespace RealityConsole.Protocol.Wire

open Framework

/-- `Timestamp::to_string`, which fails outside the calendar. -/
structure TimestampText where
  format : Instant → Option String
  injective : ∀ {a b : Instant} {text : String}, format a = some text → format b = some text → a = b

variable (clock : TimestampText)

inductive TranscriptError where
  | fieldTooLarge
  | unsupportedSchema
  | invalidDocument
  | validation (error : ProtocolValidationError)
  /-- A timestamp has no text; the source panics. -/
  | timestamp

/-! ### Fields -/

/-- `Transcript::text` -/
def text (label value : String) : Field := ⟨textBytes label, textBytes value⟩

/-- A number of a fixed width. -/
def word (label : String) (width value : Nat) : Field := ⟨textBytes label, bigEndian width value⟩

/-- `Transcript::count` and the checked conversion of a length. -/
def checkCount (value : Nat) : Except TranscriptError Unit :=
  refuseWhen (256 ^ 4 ≤ value) .fieldTooLarge

def timestampText (instant : Instant) : Except TranscriptError String :=
  required (clock.format instant) .timestamp

def transcriptOf (domain : String) (fields : List Field) : Except TranscriptError Bytes :=
  required (encodeFields (text "domain" domain :: fields)) .fieldTooLarge

structure Sha256Digest where
  bits : BitVec 256
  deriving DecidableEq, Repr

def Sha256Digest.asStr (digest : Sha256Digest) : String :=
  String.ofList ("sha256:".toList ++ hexDigits 64 digest.bits.toNat)

/-- `decode_digest` -/
def Sha256Digest.raw (digest : Sha256Digest) : Bytes := bigEndian 32 digest.bits.toNat

/-! ### Desired state -/

/-- `DesiredStateDocument` -/
@[ext] structure DesiredState where
  schemaVersion : UInt16
  networkId : NetworkId
  nodeId : NodeId
  revision : UInt64
  createdAt : Instant
  minAgentVersion : String
  users : List DesiredUser
  xray : DesiredXrayState
  signingKeyId : Uuid
  controllerInstanceId : ControllerInstanceId

def DesiredState.domain (document : DesiredState) : Except TranscriptError String :=
  if document.schemaVersion = 1 then
    if document.xray.publicPort.isNone then .ok "control/desired-state/v1"
    else .error .invalidDocument
  else if document.schemaVersion = 2 then
    if document.xray.publicPort.isSome then .ok "control/desired-state/v2"
    else .error .invalidDocument
  else .error .unsupportedSchema

def userFields (user : DesiredUser) : List Field :=
  [text "user-id" user.userId.text, text "credential-id" user.credentialId.text,
    text "vless-uuid" user.vlessUuid, word "enabled" 1 user.enabled.toNat]

def portFields (schemaVersion : UInt16) (xray : DesiredXrayState) :
    Except TranscriptError (List Field) :=
  if schemaVersion = 1 then .ok [word "listen-port" 2 xray.listenPort.toNat]
  else do
    let publicPort ← required xray.publicPort .invalidDocument
    return [word "loopback-port" 2 xray.listenPort.toNat, word "public-port" 2 publicPort.toNat]

def DesiredState.transcript (document : DesiredState) : Except TranscriptError Bytes := do
  let domain ← document.domain
  let createdAt ← timestampText clock document.createdAt
  checkCount document.users.length
  let ports ← portFields document.schemaVersion document.xray
  checkCount document.xray.serverNames.length
  transcriptOf domain (
    word "schema-version" 2 document.schemaVersion.toNat ::
    text "network-id" document.networkId.text ::
    text "node-id" document.nodeId.text ::
    word "revision" 8 document.revision.toNat ::
    text "created-at" createdAt ::
    text "min-agent-version" document.minAgentVersion ::
    text "signing-key-id" document.signingKeyId.text ::
    text "controller-instance-id" document.controllerInstanceId.text ::
    word "user-count" 4 document.users.length ::
    (document.users.flatMap userFields ++ (ports ++
      word "server-name-count" 4 document.xray.serverNames.length ::
      (document.xray.serverNames.flatMap (fun name => [text "server-name" name]) ++
        [text "target" document.xray.target]))))

/-! ### Relay documents -/

@[ext] structure RelayLimits where
  maxConcurrentStreams : UInt32
  maxBytesPerSecond : UInt64
  maxBytesPerConnection : UInt64
  monthlyByteLimit : UInt64

def RelayLimits.validate (limits : RelayLimits) : Checked Unit :=
  Protocol.RelayLimits.validate ⟨limits.maxConcurrentStreams.toNat,
    limits.maxBytesPerSecond.toNat, limits.maxBytesPerConnection.toNat,
    limits.monthlyByteLimit.toNat⟩

/-- `RelayAssignmentHeader` -/
@[ext] structure RelayHeader where
  schemaVersion : UInt16
  networkId : NetworkId
  nodeId : NodeId
  relayId : Uuid
  routeId : Uuid
  grantId : RelayGrantId
  generation : UInt64
  endpointId : Uuid
  publicHost : String
  publicPort : UInt16
  tunnelHost : String
  tunnelPort : UInt16
  tlsServerName : String
  issuedAt : Instant
  notBefore : Instant
  expiresAt : Instant
  limits : RelayLimits

def RelayHeader.validate (header : RelayHeader) : Checked Unit := do
  refuseWhen (header.schemaVersion ≠ 1)
    ⟨.unsupportedSchema, "schemaVersion", "unsupported relay assignment schema"⟩
  validateHost header.publicHost "publicHost"
  validateHost header.tunnelHost "tunnelHost"
  validateHost header.tlsServerName "tlsServerName"
  refuseWhen (header.publicPort = 0 ∨ header.tunnelPort = 0)
    ⟨.outOfRange, "port", "relay ports must be non-zero"⟩
  refuseWhen (header.notBefore < header.issuedAt ∨ header.expiresAt ≤ header.notBefore)
    ⟨.inconsistentState, "expiresAt", "relay grant time ordering is invalid"⟩
  refuseWhen (header.issuedAt + maxRelayGrantLifetimeSeconds * 1000000000 < header.expiresAt)
    ⟨.outOfRange, "expiresAt", "relay grant lifetime exceeds 24 hours"⟩
  header.limits.validate

/-- `encode_header` -/
def RelayHeader.fields (header : RelayHeader) : Except TranscriptError (List Field) := do
  let issuedAt ← timestampText clock header.issuedAt
  let notBefore ← timestampText clock header.notBefore
  let expiresAt ← timestampText clock header.expiresAt
  return [word "schemaVersion" 8 header.schemaVersion.toNat,
    text "networkId" header.networkId.text,
    text "nodeId" header.nodeId.text,
    text "relayId" header.relayId.text,
    text "routeId" header.routeId.text,
    text "grantId" header.grantId.text,
    word "generation" 8 header.generation.toNat,
    text "endpointId" header.endpointId.text,
    text "publicHost" header.publicHost,
    word "publicPort" 8 header.publicPort.toNat,
    text "tunnelHost" header.tunnelHost,
    word "tunnelPort" 8 header.tunnelPort.toNat,
    text "tlsServerName" header.tlsServerName,
    text "issuedAt" issuedAt,
    text "notBefore" notBefore,
    text "expiresAt" expiresAt,
    word "maxConcurrentStreams" 8 header.limits.maxConcurrentStreams.toNat,
    word "maxBytesPerSecond" 8 header.limits.maxBytesPerSecond.toNat,
    word "maxBytesPerConnection" 8 header.limits.maxBytesPerConnection.toNat,
    word "monthlyByteLimit" 8 header.limits.monthlyByteLimit.toNat]

def base64Value (c : Char) : Option Nat :=
  if 65 ≤ c.toNat ∧ c.toNat ≤ 90 then some (c.toNat - 65)
  else if 97 ≤ c.toNat ∧ c.toNat ≤ 122 then some (c.toNat - 71)
  else if 48 ≤ c.toNat ∧ c.toNat ≤ 57 then some (c.toNat + 4)
  else if c = '-' then some 62
  else if c = '_' then some 63
  else none

/-- The number of bytes that `URL_SAFE_NO_PAD.decode` gives, if the text decodes. As documented, the
engine takes no padding, no other alphabet and no last character with unused bits set. -/
def base64Length (text : String) : Option Nat := do
  let values ← text.toList.mapM base64Value
  let last := values.getLast?.getD 0
  match values.length % 4 with
  | 0 => some (values.length / 4 * 3)
  | 2 => if last % 16 = 0 then some (values.length / 4 * 3 + 1) else none
  | 3 => if last % 4 = 0 then some (values.length / 4 * 3 + 2) else none
  | _ => none

/-- `SignedRelayAssignment` without its signature. The construction of the encryption is the only
member of its enumeration. -/
@[ext] structure RelayAssignment where
  header : RelayHeader
  ephemeralPublicKey : String
  nonce : String
  ciphertext : String
  signingKeyId : Uuid

def RelayAssignment.validate (assignment : RelayAssignment) : Checked Unit := do
  assignment.header.validate
  let length ← required (base64Length assignment.ciphertext)
    ⟨.invalidFormat, "encryptedMaterial.ciphertext",
      "relay ciphertext must be unpadded base64url"⟩
  refuseWhen (length = 0 ∨ 196608 < length)
    ⟨.outOfRange, "encryptedMaterial.ciphertext",
      "relay ciphertext is empty or exceeds its size limit"⟩

def RelayAssignment.transcript (assignment : RelayAssignment) :
    Except TranscriptError Bytes := do
  assignment.validate.mapError .validation
  let header ← assignment.header.fields clock
  transcriptOf "control/relay/signed-assignment/v1" (header ++
    [text "algorithm" "hpkeBaseX25519HkdfSha256ChaCha20Poly1305",
      text "ephemeralPublicKey" assignment.ephemeralPublicKey,
      text "nonce" assignment.nonce,
      text "ciphertext" assignment.ciphertext,
      text "signingKeyId" assignment.signingKeyId.text])

/-- `SignedRelayRoute` without its signature. -/
@[ext] structure RelayRoute where
  header : RelayHeader
  routeTokenSha256 : Sha256Digest
  clientCertificateSha256 : Sha256Digest
  signingKeyId : Uuid

def RelayRoute.transcript (route : RelayRoute) : Except TranscriptError Bytes := do
  route.header.validate.mapError .validation
  let header ← route.header.fields clock
  transcriptOf "control/relay/signed-route/v1" (header ++
    [text "routeTokenSha256" route.routeTokenSha256.asStr,
      text "clientCertificateSha256" route.clientCertificateSha256.asStr,
      text "signingKeyId" route.signingKeyId.text])

/-! ### Node requests and device proofs -/

inductive NodeRequestMethod where
  | get
  | post
  | put
  | patch
  | delete

def NodeRequestMethod.asStr : NodeRequestMethod → String
  | get => "GET"
  | post => "POST"
  | put => "PUT"
  | patch => "PATCH"
  | delete => "DELETE"

@[ext] structure NodeRequestSigningInput where
  method : NodeRequestMethod
  /-- The canonical origin-form target. -/
  pathAndQuery : String
  bodyDigest : Sha256Digest

/-- The arguments of `NodeRequestSigningInput::transcript`. -/
@[ext] structure NodeRequest where
  input : NodeRequestSigningInput
  timestamp : Instant
  nonce : String
  controllerInstanceId : ControllerInstanceId

/-- `NodeRequestSigningInput::transcript` -/
def NodeRequest.transcript (request : NodeRequest) : Except TranscriptError Bytes := do
  let timestamp ← timestampText clock request.timestamp
  transcriptOf "control/node-request/v1"
    [text "method" request.input.method.asStr,
      text "path-and-query" request.input.pathAndQuery,
      text "timestamp" timestamp,
      text "nonce" request.nonce,
      ⟨textBytes "body-sha256", request.input.bodyDigest.raw⟩,
      text "controller-instance-id" request.controllerInstanceId.text]

/-- `DeviceEnrollment` without its proof. -/
@[ext] structure DeviceEnrollment where
  displayName : String
  clientVersion : String
  platform : String
  identityPublicKey : String
  encryptionPublicKey : String
  nonce : String

/-- The part of a proof that is about the device. -/
def DeviceEnrollment.fields (enrollment : DeviceEnrollment) : List Field :=
  [text "identity-public-key" enrollment.identityPublicKey,
    text "encryption-public-key" enrollment.encryptionPublicKey,
    text "nonce" enrollment.nonce,
    text "display-name" enrollment.displayName,
    text "client-version" enrollment.clientVersion,
    text "platform" enrollment.platform]

/-- The arguments of `device_activation_proof_transcript`. -/
@[ext] structure ActivationProof where
  activationId : Uuid
  activationExpiresAt : Instant
  controllerOrigin : String
  enrollment : DeviceEnrollment

/-- `device_activation_proof_transcript` -/
def ActivationProof.transcript (proof : ActivationProof) : Except TranscriptError Bytes := do
  let expiresAt ← timestampText clock proof.activationExpiresAt
  transcriptOf "control/device-activation/proof/v1" (
    text "activation-id" proof.activationId.text ::
    text "activation-expires-at" expiresAt ::
    text "controller-origin" proof.controllerOrigin ::
    proof.enrollment.fields)

/-- The arguments of `device_login_proof_transcript`. -/
@[ext] structure LoginProof where
  account : String
  controllerOrigin : String
  enrollment : DeviceEnrollment

/-- `device_login_proof_transcript` -/
def LoginProof.transcript (proof : LoginProof) : Except TranscriptError Bytes :=
  transcriptOf "control/device-login/proof/v1" (
    text "account" proof.account ::
    text "controller-origin" proof.controllerOrigin ::
    proof.enrollment.fields)

/-! ### Profile bundles -/

/-- `serde_json::to_vec` -/
def jsonBytes (value : Json.Value) : Bytes := textBytes (String.ofList value.render)

/-- The text or `null`. -/
def optionalText : Option String → Json.Value
  | none => .null
  | some value => .text value

def accountStatusName : AccountStatus → String
  | .active => "active"
  | .disabled => "disabled"
  | .deleted => "deleted"

def endpointModeName : EndpointMode → String
  | .direct => "direct"
  | .relay => "relay"

/-- `EncryptedProfilePayload`; its algorithm is the only member of its enumeration. -/
@[ext] structure EncryptedProfile where
  nodeId : NodeId
  ephemeralPublicKey : String
  nonce : String
  ciphertext : String
  deriving DecidableEq, Repr

def EncryptedProfile.json (profile : EncryptedProfile) : Json.Value :=
  .object [("nodeId", .text profile.nodeId.text),
    ("algorithm", .text "hpke-base-x25519-hkdf-sha256-cha-cha20-poly1305"),
    ("ephemeralPublicKey", .text profile.ephemeralPublicKey),
    ("nonce", .text profile.nonce),
    ("ciphertext", .text profile.ciphertext)]

/-- `ProfileDescriptor` -/
@[ext] structure Descriptor where
  nodeId : NodeId
  displayName : String
  region : Option String
  endpointMode : EndpointMode
  encryptedPayloadDigest : Sha256Digest
  priority : UInt16
  deriving DecidableEq, Repr

def Descriptor.json (descriptor : Descriptor) : Json.Value :=
  .object [("nodeId", .text descriptor.nodeId.text),
    ("displayName", .text descriptor.displayName),
    ("region", optionalText descriptor.region),
    ("endpointMode", .text (endpointModeName descriptor.endpointMode)),
    ("encryptedPayloadDigest", .text descriptor.encryptedPayloadDigest.asStr),
    ("priority", .number descriptor.priority.toNat)]

/-- `SelectionHints` -/
@[ext] structure Hints where
  minimumHoldSeconds : UInt32
  latencyToleranceMilliseconds : UInt32
  failureThreshold : UInt16
  deriving DecidableEq, Repr

def Hints.json (hints : Hints) : Json.Value :=
  .object [("minimumHoldSeconds", .number hints.minimumHoldSeconds.toNat),
    ("latencyToleranceMilliseconds", .number hints.latencyToleranceMilliseconds.toNat),
    ("failureThreshold", .number hints.failureThreshold.toNat)]

/-- `BundleReplacement` -/
structure Replacement where
  replacesBundleId : Uuid
  reason : String
  deriving DecidableEq, Repr

/-- The replacement note or `null`. -/
def replacementJson : Option Replacement → Json.Value
  | none => .null
  | some replacement =>
    .object [("replacesBundleId", .text replacement.replacesBundleId.text),
      ("reason", .text replacement.reason)]

/-- `ProfileBundleManifest` -/
@[ext] structure Manifest where
  schemaVersion : UInt16
  formatVersion : UInt16
  bundleId : Uuid
  networkId : NetworkId
  userId : UserId
  deviceId : Uuid
  signingKeyId : Uuid
  controllerInstanceId : ControllerInstanceId
  generation : UInt64
  issuedAt : Instant
  notBefore : Instant
  refreshAfter : Instant
  offlineExpiresAt : Instant
  minClientVersion : String
  accountStatus : AccountStatus
  profiles : List Descriptor
  selectionHints : Hints
  replacement : Option Replacement
  deriving DecidableEq, Repr

def Manifest.json (manifest : Manifest) : Except TranscriptError Json.Value := do
  let issuedAt ← timestampText clock manifest.issuedAt
  let notBefore ← timestampText clock manifest.notBefore
  let refreshAfter ← timestampText clock manifest.refreshAfter
  let offlineExpiresAt ← timestampText clock manifest.offlineExpiresAt
  return .object [("schemaVersion", .number manifest.schemaVersion.toNat),
    ("formatVersion", .number manifest.formatVersion.toNat),
    ("bundleId", .text manifest.bundleId.text),
    ("networkId", .text manifest.networkId.text),
    ("userId", .text manifest.userId.text),
    ("deviceId", .text manifest.deviceId.text),
    ("signingKeyId", .text manifest.signingKeyId.text),
    ("controllerInstanceId", .text manifest.controllerInstanceId.text),
    ("generation", .number manifest.generation.toNat),
    ("issuedAt", .text issuedAt),
    ("notBefore", .text notBefore),
    ("refreshAfter", .text refreshAfter),
    ("offlineExpiresAt", .text offlineExpiresAt),
    ("minClientVersion", .text manifest.minClientVersion),
    ("accountStatus", .text (accountStatusName manifest.accountStatus)),
    ("profiles", .array (manifest.profiles.map Descriptor.json)),
    ("selectionHints", manifest.selectionHints.json),
    ("replacement", replacementJson manifest.replacement)]

/-- The arguments of `profile_bundle_signature_transcript`. -/
@[ext] structure Bundle where
  manifest : Manifest
  encryptedProfiles : List EncryptedProfile
  deriving DecidableEq, Repr

/-- `sort_by_key` over the node identities. -/
def sortProfiles (profiles : List EncryptedProfile) : List EncryptedProfile :=
  profiles.insertionSort fun a b => a.nodeId.toNat ≤ b.nodeId.toNat

def profileFields (profile : EncryptedProfile) : List Field :=
  [text "node-id" profile.nodeId.text,
    ⟨textBytes "encrypted-profile-json", jsonBytes profile.json⟩]

/-- `profile_bundle_signature_transcript` -/
def Bundle.transcript (bundle : Bundle) : Except TranscriptError Bytes := do
  let manifest ← bundle.manifest.json clock
  checkCount bundle.encryptedProfiles.length
  transcriptOf "control/profile-bundle/signature/v1" (
    ⟨textBytes "manifest-json", jsonBytes manifest⟩ ::
    word "encrypted-profile-count" 4 bundle.encryptedProfiles.length ::
    (sortProfiles bundle.encryptedProfiles).flatMap profileFields)

/-! ### Account requests -/

/-- The requests of accounts that the controller digests. The proof of a login is a text too. -/
inductive AccountRequest where
  /-- `CreateSessionRequest` -/
  | login (account password : String) (device : DeviceEnrollment) (proof : String)
  /-- `RefreshSessionRequest` -/
  | refresh (refreshCredential : String)
  /-- `IssueAccountResetTokenRequest` -/
  | issueReset (expiresInSeconds : UInt32)
  /-- `ConsumeAccountResetTokenRequest` -/
  | consumeReset (resetToken newPassword : String)

def AccountRequest.domain : AccountRequest → String
  | login .. => "private-network/member-login-request/v1\x00"
  | refresh .. => "private-network/member-refresh-request/v1\x00"
  | issueReset .. => "account-reset-issue/v1\x00"
  | consumeReset .. => "account-reset-consume/v1\x00"

def AccountRequest.json : AccountRequest → Json.Value
  | login account password device proof =>
    .object [("account", .text account),
      ("password", .text password),
      ("device", .object [("displayName", .text device.displayName),
        ("clientVersion", .text device.clientVersion),
        ("platform", .text device.platform),
        ("identityPublicKey", .text device.identityPublicKey),
        ("encryptionPublicKey", .text device.encryptionPublicKey),
        ("nonce", .text device.nonce),
        ("proof", .text proof)])]
  | refresh refreshCredential => .object [("refreshCredential", .text refreshCredential)]
  | issueReset expiresInSeconds => .object [("expiresInSeconds", .number expiresInSeconds.toNat)]
  | consumeReset resetToken newPassword =>
    .object [("resetToken", .text resetToken), ("newPassword", .text newPassword)]

/-- What `canonical_request_digest` hashes. -/
def AccountRequest.transcript (request : AccountRequest) : Bytes :=
  textBytes request.domain ++ jsonBytes request.json

/-! ### Derived secrets -/

/-- What `derive_secret` and `credential_verifier` sign: the digest of a domain and a context. -/
def secretDigest (sha256 : Bytes → Bytes) (domain context : Bytes) : Bytes :=
  sha256 (domain ++ context)

/-! ### Everything that is signed or digested -/

/-- A value of one of these kinds. -/
inductive Signed where
  | desiredState (document : DesiredState)
  | relayAssignment (assignment : RelayAssignment)
  | relayRoute (route : RelayRoute)
  | nodeRequest (request : NodeRequest)
  | activationProof (proof : ActivationProof)
  | loginProof (proof : LoginProof)
  | bundle (value : Bundle)
  | accountRequest (request : AccountRequest)

def Signed.transcript : Signed → Except TranscriptError Bytes
  | desiredState document => document.transcript clock
  | relayAssignment assignment => assignment.transcript clock
  | relayRoute route => route.transcript clock
  | nodeRequest request => request.transcript clock
  | activationProof proof => proof.transcript clock
  | loginProof proof => proof.transcript
  | bundle value => value.transcript clock
  | accountRequest request => .ok request.transcript

/-- The same kind of value with the same fields, up to the order of the encrypted profiles of a
bundle. -/
def Signed.Same : Signed → Signed → Prop
  | bundle a, bundle b => a.manifest = b.manifest ∧ a.encryptedProfiles.Perm b.encryptedProfiles
  | a, b => a = b

end RealityConsole.Protocol.Wire
