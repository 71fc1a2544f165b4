import RealityConsole.Protocol.Account

/-!
# Member sessions on the wire

Requests and responses of device activation, login and refresh, and the bearer texts in them. With
SHA-256 free of collisions and signing deterministic, a secret stands for its domain and context and
a verifier for its domain and text. The contexts of a login, an activation and a rotation have 148,
184 and 188 bytes, so they differ. Digests of requests and of idempotency keys are these themselves.
-/

namespace RealityConsole.Protocol

open Framework

/-- Identifies one rotation family of credentials. -/
abbrev SessionId := Uuid

/-- Identifies one activation that an administrator handed out. -/
abbrev DeviceActivationId := Uuid

abbrev IdempotencyKey := String

structure AccountMetadata where
  userId : UserId
  displayName : String
  status : AccountStatus
  deriving DecidableEq, Repr

/-! ### Device proofs -/

/-- What a device asks for when it proves that it holds its identity key. -/
inductive ProofSubject where
  | activation (activationId : DeviceActivationId) (expiresAt : Nat)
  | login (account : String)
  deriving DecidableEq, Repr

structure DeviceProof where
  subject : ProofSubject
  controllerOrigin : String
  identityPublicKey : PublicKey
  encryptionPublicKey : X25519PublicKey
  nonce : String
  displayName : String
  clientVersion : String
  platform : String
  deriving DecidableEq, Repr

structure DeviceEnrollment where
  displayName : String
  clientVersion : String
  platform : String
  identityPublicKey : PublicKey
  encryptionPublicKey : X25519PublicKey
  nonce : String
  proof : Signature DeviceProof
  deriving DecidableEq, Repr

namespace DeviceEnrollment

def validate (device : DeviceEnrollment) : Checked Unit := do
  validateText device.displayName 128 "device.displayName"
  validateText device.clientVersion 64 "device.clientVersion"
  validateText device.platform 64 "device.platform"

def transcript (device : DeviceEnrollment) (subject : ProofSubject) (controllerOrigin : String) :
    DeviceProof :=
  { subject, controllerOrigin
    identityPublicKey := device.identityPublicKey
    encryptionPublicKey := device.encryptionPublicKey
    nonce := device.nonce
    displayName := device.displayName
    clientVersion := device.clientVersion
    platform := device.platform }

/-- `device_activation_proof_transcript` -/
def activationProofTranscript (activationId : DeviceActivationId) (expiresAt : Nat)
    (controllerOrigin : String) (device : DeviceEnrollment) : DeviceProof :=
  device.transcript (.activation activationId expiresAt) controllerOrigin

/-- `device_login_proof_transcript` -/
def loginProofTranscript (account controllerOrigin : String) (device : DeviceEnrollment) :
    DeviceProof :=
  device.transcript (.login account) controllerOrigin

/-- `verify_device_activation_proof` -/
def verifyProof (device : DeviceEnrollment) (transcript : DeviceProof) : Bool :=
  device.proof = ⟨device.identityPublicKey, transcript⟩

end DeviceEnrollment

/-! ### Bearer texts -/

structure CreateSessionRequest where
  account : String
  password : String
  device : DeviceEnrollment
  deriving DecidableEq, Repr

/-- Which of the two credentials of a session a text is. -/
inductive CredentialKind where
  | access
  | refresh
  deriving DecidableEq, Repr

/-- What a bearer text of the kind begins with. -/
def CredentialKind.marker : CredentialKind → String
  | .access => "rca1"
  | .refresh => "rcr1"

inductive Bearer where
  /-- A text that Control did not derive, as the parts that its dots separate. -/
  | text (parts : List String)
  /-- The secret of an activation. -/
  | activation (network : NetworkId) (user : UserId) (id : DeviceActivationId)
      (key : IdempotencyKey) (expiresInSeconds : Nat)
  /-- The secret of an account reset. -/
  | accountReset (network : NetworkId) (user : UserId) (id : Uuid) (key : IdempotencyKey)
      (expiresInSeconds : Nat)
  /-- A first credential of a session that a login opened. -/
  | login (kind : CredentialKind) (network : NetworkId) (session : SessionId) (device : DeviceId)
      (request : CreateSessionRequest) (issuedAt : Nat)
  /-- A first credential of a session that an activation opened. -/
  | activated (kind : CredentialKind) (network : NetworkId) (session : SessionId)
      (device : DeviceId) (id : DeviceActivationId) (secret : Bearer)
      (enrollment : DeviceEnrollment) (issuedAt : Nat)
  /-- A credential that a refresh of the source generation issued. -/
  | rotated (kind : CredentialKind) (network : NetworkId) (session : SessionId)
      (device : DeviceId) (sourceGeneration : Nat) (key : IdempotencyKey) (presented : Bearer)
      (issuedAt : Nat)
  deriving DecidableEq, Repr

namespace Bearer

/-- The two parts before the secret, for a text of three parts. -/
def head : Bearer → Option (String × String)
  | .text [marker, id, _] => some (marker, id)
  | .text _ => none
  | .activation _ _ id _ _ => some ("rcd1", id.text)
  | .accountReset _ _ id _ _ => some ("rcr1", id.text)
  | .login kind _ session _ _ _ => some (kind.marker, session.text)
  | .activated kind _ session _ _ _ _ _ => some (kind.marker, session.text)
  | .rotated kind _ session _ _ _ _ _ => some (kind.marker, session.text)

def parsePrefixedId (raw : Bearer) (marker : String) : Option Uuid :=
  match raw.head with
  | some (found, id) => if found = marker then Uuid.parse id else none
  | none => none

/-- The generation of its session that a credential belongs to. -/
def generation : Bearer → Option Nat
  | .login .. => some 0
  | .activated .. => some 0
  | .rotated _ _ _ _ source _ _ _ => some (source + 1)
  | _ => none

/-- The number of bytes. A derived text has a marker, an identity of 36 bytes and a secret of 43. -/
def byteLength : Bearer → Nat
  | .text parts => (parts.map String.utf8ByteSize).sum + (parts.length - 1)
  | _ => 85

def isEmpty (raw : Bearer) : Bool := raw.byteLength = 0

end Bearer

/-! ### Requests and responses -/

def CreateSessionRequest.validate (request : CreateSessionRequest) : Checked Unit := do
  validateText request.account 254 "account"
  refuseWhen (request.password = "") ⟨.missingField, "password", "password is required"⟩
  request.device.validate

structure ConsumeDeviceActivationRequest where
  activationSecret : Bearer
  device : DeviceEnrollment
  deriving DecidableEq, Repr

def ConsumeDeviceActivationRequest.validate (request : ConsumeDeviceActivationRequest) :
    Checked Unit := do
  refuseWhen request.activationSecret.isEmpty
    ⟨.missingField, "activationSecret", "activation secret is required"⟩
  request.device.validate

structure RefreshSessionRequest where
  refreshCredential : Bearer
  deriving DecidableEq, Repr

def RefreshSessionRequest.validate (request : RefreshSessionRequest) : Checked Unit :=
  refuseWhen request.refreshCredential.isEmpty
    ⟨.missingField, "refreshCredential", "refresh credential is required"⟩

structure SessionCredentials where
  sessionId : SessionId
  accessToken : Bearer
  accessExpiresAt : Nat
  refreshCredential : Bearer
  refreshExpiresAt : Nat
  deriving DecidableEq, Repr

structure CreateDeviceSessionResponse where
  activationId : Option DeviceActivationId
  account : AccountMetadata
  deviceId : DeviceId
  credentials : SessionCredentials

structure RefreshSessionResponse where
  account : AccountMetadata
  credentials : SessionCredentials
  deriving DecidableEq, Repr

structure CreateDeviceActivationRequest where
  expiresInSeconds : Nat
  deriving DecidableEq, Repr

/-- The lifetimes of one-time secrets have one range. -/
def validateLifetime (expiresInSeconds : Nat) (message : String) : Checked Unit :=
  refuseWhen (¬(60 ≤ expiresInSeconds ∧ expiresInSeconds ≤ 3600))
    ⟨.outOfRange, "expiresInSeconds", message⟩

def CreateDeviceActivationRequest.validate (request : CreateDeviceActivationRequest) :
    Checked Unit :=
  validateLifetime request.expiresInSeconds
    "activation lifetime must be between 60 and 3600 seconds"

structure IssueAccountResetTokenRequest where
  expiresInSeconds : Nat
  deriving DecidableEq, Repr

def IssueAccountResetTokenRequest.validate (request : IssueAccountResetTokenRequest) :
    Checked Unit :=
  validateLifetime request.expiresInSeconds
    "account reset lifetime must be between 60 and 3600 seconds"

structure SetAccountPasswordRequest where
  newPassword : String

def SetAccountPasswordRequest.validate (request : SetAccountPasswordRequest) : Checked Unit :=
  refuseWhen (¬(12 ≤ request.newPassword.utf8ByteSize ∧ request.newPassword.utf8ByteSize ≤ 1024))
    ⟨.outOfRange, "newPassword", "password must contain 12 to 1024 bytes"⟩

structure ConsumeAccountResetTokenRequest where
  resetToken : Bearer
  newPassword : String
  deriving DecidableEq, Repr

def ConsumeAccountResetTokenRequest.validate (request : ConsumeAccountResetTokenRequest) :
    Checked Unit := do
  refuseWhen request.resetToken.isEmpty
    ⟨.missingField, "resetToken", "account reset token is required"⟩
  refuseWhen (512 < request.resetToken.byteLength)
    ⟨.outOfRange, "resetToken", "account reset token exceeds the protocol bound"⟩
  SetAccountPasswordRequest.validate ⟨request.newPassword⟩

end RealityConsole.Protocol
