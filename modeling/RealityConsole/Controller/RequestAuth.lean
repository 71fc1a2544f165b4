import RealityConsole.Controller.Progress
import RealityConsole.Framework.Table
import RealityConsole.Protocol.TranscriptUnique

/-!
# Authentication of node requests

A node signs every request. The controller checks that the credential is in force, verifies the
signature, and remembers the nonce until the timestamp of the request has left the window of
accepted clocks. A signature that verifies was made by the holder of the key.
-/

namespace RealityConsole.Controller

open Framework Protocol Protocol.Wire

abbrev NodeKeyId := Uuid

def nodeRequestClockSkewSeconds : Nat := 5 * 60

/-- `NODE_CREDENTIAL_LIFETIME_DAYS`, in seconds. -/
def nodeCredentialLifetimeSeconds : Int := 90 * 24 * 60 * 60

/-- Ed25519 and SHA-256. -/
structure NodeCrypto (Signature : Type) where
  /-- `verify_strict` -/
  verify : PublicKey → Bytes → Signature → Bool
  /-- The holder of the key has signed the message. -/
  Signed : PublicKey → Bytes → Prop
  unforgeable : ∀ {key : PublicKey} {message : Bytes} {signature : Signature},
    verify key message signature = true → Signed key message
  sha256 : Bytes → Sha256Digest

structure NodeRequestAuthHeaders (Signature : Type) where
  nodeId : NodeId
  keyId : NodeKeyId
  timestamp : Instant
  nonce : String
  signature : Signature

/-- A row of `node_auth_credentials`. -/
structure NodeCredential where
  nodeId : NodeId
  identityPublicKey : PublicKey
  notBefore : Int
  expiresAt : Int
  revokedAt : Option Int

/-- A row of `node_request_nonces`. -/
structure NonceRow where
  requestTimestamp : Int
  expiresAt : Int
  createdAt : Int

structure AuthStore where
  /-- `networks.controller_epoch` -/
  controllerInstanceId : ControllerInstanceId
  nodes : Table NodeId NodeStatus
  credentials : Table NodeKeyId NodeCredential
  nonces : Table (NodeId × NodeKeyId × Sha256Digest) NonceRow

inductive NodeAuthError where
  | nodeRequestClockSkew
  | nodeAuthenticationFailed
  | nodeRevoked
  | invalidNodeRequestSignature
  | timestampOverflow
  | nodeRequestNonceReplayed
  | nodeNotFound
  | nodeLifecycleConflict
  /-- A key of the schema would be violated. -/
  | constraint

section
variable {Signature : Type} (crypto : NodeCrypto Signature) (clock : TimestampText)

def signedRequest (headers : NodeRequestAuthHeaders Signature) (input : NodeRequestSigningInput)
    (controllerInstanceId : ControllerInstanceId) : NodeRequest :=
  { input, timestamp := headers.timestamp, nonce := headers.nonce, controllerInstanceId }

/-- `verify_node_request_signature`, under the error that the caller makes of every failure. -/
def verifyNodeRequestSignature (publicKey : PublicKey) (headers : NodeRequestAuthHeaders Signature)
    (input : NodeRequestSigningInput) (controllerInstanceId : ControllerInstanceId) :
    Except NodeAuthError Unit := do
  let transcript ← ((signedRequest headers input controllerInstanceId).transcript clock).mapError
    fun _ => NodeAuthError.invalidNodeRequestSignature
  refuseWhen (crypto.verify publicKey transcript headers.signature = false)
    .invalidNodeRequestSignature

namespace AuthStore

/-- The join of `nodes` and `node_auth_credentials`. -/
def findCredential (s : AuthStore) (node : NodeId) (key : NodeKeyId) :
    Option (NodeStatus × NodeCredential) := do
  let status ← s.nodes.find node
  let credential ← s.credentials.find key
  if credential.nodeId = node then some (status, credential) else none

def nonceKey (headers : NodeRequestAuthHeaders Signature) : NodeId × NodeKeyId × Sha256Digest :=
  (headers.nodeId, headers.keyId, crypto.sha256 (textBytes headers.nonce))

/-- `authenticate_node_request`. A failure rolls the transaction back. -/
def authenticateNodeRequest (s : AuthStore) (headers : NodeRequestAuthHeaders Signature)
    (input : NodeRequestSigningInput) (now : Int) : Except NodeAuthError AuthStore := do
  let requestTimestamp := unixTimestamp headers.timestamp
  refuseWhen (nodeRequestClockSkewSeconds < (now - requestTimestamp).natAbs) .nodeRequestClockSkew
  let nonces : Table (NodeId × NodeKeyId × Sha256Digest) NonceRow :=
    s.nonces.filter fun entry => decide (¬ entry.2.expiresAt < now)
  let (status, credential) ←
    required (s.findCredential headers.nodeId headers.keyId) .nodeAuthenticationFailed
  refuseWhen ((status = .disabled ∨ status = .revoked) ∨ credential.revokedAt.isSome) .nodeRevoked
  refuseWhen (now < credential.notBefore ∨ credential.expiresAt ≤ now) .nodeAuthenticationFailed
  verifyNodeRequestSignature crypto clock credential.identityPublicKey headers input
    s.controllerInstanceId
  refuseWhen (2 ^ 63 ≤ requestTimestamp + nodeRequestClockSkewSeconds) .timestampOverflow
  refuseWhen (nonces.find (nonceKey crypto headers)).isSome .nodeRequestNonceReplayed
  return { s with
    nonces := nonces.insert (nonceKey crypto headers)
      { requestTimestamp, expiresAt := requestTimestamp + nodeRequestClockSkewSeconds
        createdAt := now } }

end AuthStore

end

namespace AuthStore

/-- `insert_node_records`, then `apply_invitation_bootstrap` if the invitation has a
configuration. -/
def enrollNode (s : AuthStore) (node : NodeId) (key : NodeKeyId) (publicKey : PublicKey)
    (bootstrap : Bool) (now : Int) : Except NodeAuthError AuthStore := do
  refuseWhen ((s.nodes.find node).isSome ∨ (s.credentials.find key).isSome) .constraint
  return { s with
    nodes := s.nodes.insert node (if bootstrap then .active else .pending)
    credentials := s.credentials.insert key
      { nodeId := node, identityPublicKey := publicKey, notBefore := now
        expiresAt := now + nodeCredentialLifetimeSeconds, revokedAt := none } }

def revokeNodeCredentials (s : AuthStore) (node : NodeId) (action : NodeLifecycleAction)
    (now : Int) : AuthStore :=
  if action ≠ .revoke then s
  else
    { s with
      credentials := s.credentials.update fun _ row =>
        if row.nodeId = node ∧ row.revokedAt = none then { row with revokedAt := some now }
        else row }

def transitionNode (s : AuthStore) (node : NodeId) (action : NodeLifecycleAction) (now : Int) :
    Except NodeAuthError AuthStore := do
  let status ← required (s.nodes.find node) .nodeNotFound
  let target ← required (nodeLifecycleTarget action status) .nodeLifecycleConflict
  return { s with nodes := s.nodes.updateAt node fun _ => target }.revokeNodeCredentials node
    action now

end AuthStore

/-! ### What an accepted request is -/

namespace AuthStore

variable {Signature : Type} {crypto : NodeCrypto Signature} {clock : TimestampText}

theorem findCredential_eq_some {s : AuthStore} {node : NodeId} {key : NodeKeyId}
    {status : NodeStatus} {cred : NodeCredential} : s.findCredential node key =
    some (status, cred) ↔ s.nodes.find node = some status ∧ s.credentials.find key = some cred ∧
    cred.nodeId = node := by
  simp only [findCredential, Option.bind_eq_bind, Option.bind_eq_some_iff,
    Option.ite_none_right_eq_some, Option.some.injEq, Prod.mk.injEq]
  constructor
  · rintro ⟨_, hnode, _, hkey, hown, rfl, rfl⟩
    exact ⟨hnode, hkey, hown⟩
  · rintro ⟨hnode, hkey, hown⟩
    exact ⟨_, hnode, _, hkey, hown, rfl, rfl⟩

theorem verifyNodeRequestSignature_ok {pk : PublicKey} {headers : NodeRequestAuthHeaders Signature}
    {input : NodeRequestSigningInput} {controllerInstanceId : ControllerInstanceId} :
    verifyNodeRequestSignature crypto clock pk headers input controllerInstanceId = .ok () ↔
    ∃ transcript, (signedRequest headers input controllerInstanceId).transcript clock =
    .ok transcript ∧ crypto.verify pk transcript headers.signature := by
  simp only [verifyNodeRequestSignature, bind_ok, mapError_ok, refuse_ok, Bool.not_eq_false]

/-- The conditions under which a request is accepted, and the row that it leaves. -/
structure Accepts (crypto : NodeCrypto Signature) (clock : TimestampText) (s : AuthStore)
    (headers : NodeRequestAuthHeaders Signature) (input : NodeRequestSigningInput) (now : Int)
    (status : NodeStatus) (credential : NodeCredential) (transcript : Bytes) : Prop where
  inWindow : (now - unixTimestamp headers.timestamp).natAbs ≤ nodeRequestClockSkewSeconds
  node : s.nodes.find headers.nodeId = some status
  key : s.credentials.find headers.keyId = some credential
  owner : credential.nodeId = headers.nodeId
  enabled : status ≠ .disabled ∧ status ≠ .revoked
  unrevoked : credential.revokedAt = none
  started : credential.notBefore ≤ now
  unexpired : now < credential.expiresAt
  encoded : (signedRequest headers input s.controllerInstanceId).transcript clock = .ok transcript
  verified : crypto.verify credential.identityPublicKey transcript headers.signature = true
  fresh : Table.find (nonceKey crypto headers)
    (s.nonces.filter fun entry => decide (¬ entry.2.expiresAt < now)) = none

theorem authenticateNodeRequest_ok {s s' : AuthStore}
    {headers : NodeRequestAuthHeaders Signature} {input : NodeRequestSigningInput} {now : Int}
    (h : s.authenticateNodeRequest crypto clock headers input now = .ok s') :
    (∃ status cred tr,
      Accepts crypto clock s headers input now status cred tr) ∧
    s' = { s with
      nonces := Table.insert (nonceKey crypto headers)
        { requestTimestamp := unixTimestamp headers.timestamp
          expiresAt := unixTimestamp headers.timestamp + nodeRequestClockSkewSeconds
          createdAt := now }
        (s.nonces.filter fun entry => decide (¬ entry.2.expiresAt < now)) } := by
  obtain ⟨hwin, h⟩ := check_ok.1 h
  obtain ⟨⟨status, cred⟩, hfound, h⟩ := bind_ok.1 h
  obtain ⟨hrevoked, h⟩ := check_ok.1 h
  obtain ⟨hval, h⟩ := check_ok.1 h
  obtain ⟨hver, h⟩ := check_ok.1 h
  obtain ⟨-, h⟩ := check_ok.1 h
  obtain ⟨hfresh, h⟩ := check_ok.1 h
  rw [refuse_ok] at hwin hrevoked hval hfresh
  obtain ⟨hnode, hkey, hown⟩ := findCredential_eq_some.1 (required_ok.1 hfound)
  obtain ⟨tr, hencoded, hsig⟩ := verifyNodeRequestSignature_ok.1 hver
  refine ⟨⟨status, cred, tr, ?_⟩, (Except.ok.inj h).symm⟩
  exact
    { inWindow := not_lt.1 hwin
      node := hnode
      key := hkey
      owner := hown
      enabled := ⟨fun h => hrevoked (.inl (.inl h)), fun h => hrevoked (.inl (.inr h))⟩
      unrevoked := Option.not_isSome_iff_eq_none.1 fun h => hrevoked (.inr h)
      started := not_lt.1 fun h => hval (.inl h)
      unexpired := not_le.1 fun h => hval (.inr h)
      encoded := hencoded
      verified := hsig
      fresh := Option.not_isSome_iff_eq_none.1 hfresh }

end AuthStore

end RealityConsole.Controller
