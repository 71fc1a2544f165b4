import RealityConsole.Framework.Time
import RealityConsole.Protocol.Crypto
import RealityConsole.Protocol.Telemetry

/-!
# Desired state

What the controller signs for one node: the member credentials that may serve
traffic and the centrally controlled Xray fields. The same checks run where the
document is built and where it is received. The envelope travels as compact
JSON; its size is given from the sizes of its texts.
-/

namespace RealityConsole.Protocol

open Framework

/-- Identifies one credential of a member on a node. -/
abbrev CredentialId := Uuid

/-- Identifies the assignment of a member to a node. -/
abbrev AssignmentId := Nat

/-- Identifies one life of the controller's database. -/
abbrev ControllerInstanceId := Uuid

/-- Per-member credential in a node's signed desired state. -/
structure DesiredUser where
  userId : UserId
  credentialId : CredentialId
  /-- Node-specific VLESS UUID bearer secret. -/
  vlessUuid : String
  /-- Whether the credential may serve traffic. -/
  enabled : Bool
  deriving DecidableEq, Repr

/-- Closed Xray configuration fields centrally controlled for a node. -/
structure DesiredXrayState where
  /-- Node-local loopback port used only by the managed Xray inbound. -/
  listenPort : UInt16
  /-- Public admission-gate port, absent only in schema version 1. -/
  publicPort : Option UInt16
  /-- REALITY server names accepted by this node. -/
  serverNames : List String
  /-- REALITY fallback target in `host:port` form. -/
  target : String

structure DesiredStateDocument where
  schemaVersion : Nat
  networkId : NetworkId
  nodeId : NodeId
  revision : Nat
  createdAt : Nat
  minAgentVersion : String
  users : List DesiredUser
  xray : DesiredXrayState
  signingKeyId : SigningKeyId
  controllerInstanceId : ControllerInstanceId

structure SignedDesiredState where
  document : DesiredStateDocument
  signature : Ed25519Signature

/-! ### Validation -/

def validateShortText (value : String) (maximumLength : Nat) (field : String) : Checked Unit := do
  refuseWhen (value = "") ⟨.missingField, field, "value is required"⟩
  refuseWhen (maximumLength < value.utf8ByteSize ∨ value.toList.any isControl)
    ⟨.outOfRange, field, "value exceeds its length or character bound"⟩

/-- The port rules of `DesiredXrayState::validate` for each schema version. -/
def DesiredXrayState.validatePorts (xray : DesiredXrayState) (schemaVersion : Nat) :
    Checked Unit :=
  if schemaVersion = 1 then
    refuseWhen xray.publicPort.isSome ⟨.inconsistentState, "xray.publicPort",
      "desired-state schema version 1 cannot carry a public admission port"⟩
  else if schemaVersion = 2 then
    match xray.publicPort with
    | none => .error ⟨.missingField, "xray.publicPort",
        "desired-state schema version 2 requires a public admission port"⟩
    | some publicPort => do
      refuseWhen (publicPort = 0)
        ⟨.outOfRange, "xray.publicPort", "public admission port must be non-zero"⟩
      refuseWhen (xray.listenPort < 1024)
        ⟨.outOfRange, "xray.listenPort", "schema version 2 loopback port must be unprivileged"⟩
      refuseWhen (publicPort = xray.listenPort)
        ⟨.inconsistentState, "xray.publicPort",
          "public admission and Xray loopback ports must differ"⟩
  else
    .error ⟨.unsupportedSchema, "schemaVersion",
      "desired-state Xray schema version is not supported"⟩

def validateServerNames : List String → Checked Unit
  | [] => .ok ()
  | name :: names => do
    validateShortText name 253 "xray.serverNames"
    validateServerNames names

/-- `str::contains("//")` -/
def containsDoubleSlash : List Char → Bool
  | '/' :: '/' :: _ => true
  | _ :: rest => containsDoubleSlash rest
  | [] => false

def DesiredXrayState.validate (xray : DesiredXrayState) (schemaVersion : Nat) : Checked Unit := do
  refuseWhen (xray.listenPort = 0)
    ⟨.outOfRange, "xray.listenPort", "Xray listen port must be non-zero"⟩
  xray.validatePorts schemaVersion
  refuseWhen (xray.serverNames = [] ∨ 16 < xray.serverNames.length)
    ⟨.outOfRange, "xray.serverNames", "one to sixteen REALITY server names are required"⟩
  validateServerNames xray.serverNames
  validateShortText xray.target 259 "xray.target"
  refuseWhen (':' ∉ xray.target.toList ∨ containsDoubleSlash xray.target.toList)
    ⟨.invalidFormat, "xray.target", "Xray target must use host:port form"⟩

/-- The loop over the users, with the identities seen so far. -/
def validateUsers : List UserId → List CredentialId → List DesiredUser → Checked Unit
  | _, _, [] => .ok ()
  | userIds, credentialIds, user :: users => do
    refuseWhen (user.userId ∈ userIds ∨ user.credentialId ∈ credentialIds)
      ⟨.duplicateIdentity, "users",
        "user and credential IDs must be unique within desired state"⟩
    refuseWhen ((Uuid.parse user.vlessUuid).isNone)
      ⟨.invalidFormat, "users.vlessUuid", "VLESS credential must be a canonical lowercase UUID"⟩
    validateUsers (user.userId :: userIds) (user.credentialId :: credentialIds) users

namespace DesiredStateDocument

/-- The part of `validate_for` that depends on who receives the document. -/
def validateAddressee (document : DesiredStateDocument) (networkId : NetworkId) (nodeId : NodeId)
    (controllerInstanceId : ControllerInstanceId) (lastSeenRevision : Option Nat)
    (supportedSchemaVersions : List Nat) : Checked Unit := do
  refuseWhen (document.schemaVersion ∉ supportedSchemaVersions)
    ⟨.unsupportedSchema, "schemaVersion", "desired-state schema version is not supported"⟩
  refuseWhen (document.networkId ≠ networkId)
    ⟨.identityMismatch, "networkId", "desired state is addressed to another network"⟩
  refuseWhen (document.nodeId ≠ nodeId)
    ⟨.identityMismatch, "nodeId", "desired state is addressed to another node"⟩
  refuseWhen (document.controllerInstanceId ≠ controllerInstanceId)
    ⟨.identityMismatch, "controllerInstanceId",
      "desired state belongs to another controller epoch"⟩
  refuseWhen (lastSeenRevision.any fun last => document.revision ≤ last)
    ⟨.staleState, "revision", "desired-state revision is not newer than local state"⟩

/-- The part of `validate_for` that depends on the document alone. -/
def validateBody (document : DesiredStateDocument) : Checked Unit := do
  validateShortText document.minAgentVersion 64 "minAgentVersion"
  refuseWhen (10000 < document.users.length)
    ⟨.outOfRange, "users", "desired-state user count exceeds the protocol bound"⟩
  validateUsers [] [] document.users
  document.xray.validate document.schemaVersion

/-- `DesiredStateDocument::validate_for` -/
def validateFor (document : DesiredStateDocument) (networkId : NetworkId) (nodeId : NodeId)
    (controllerInstanceId : ControllerInstanceId) (lastSeenRevision : Option Nat)
    (supportedSchemaVersions : List Nat) : Checked Unit := do
  document.validateAddressee networkId nodeId controllerInstanceId lastSeenRevision
    supportedSchemaVersions
  document.validateBody

end DesiredStateDocument

inductive DesiredStateCryptoError where
  | invalidSignature
  | invalidDocument
  | unsupportedSchema
  deriving DecidableEq, Repr

/-- `desired_state_transcript`: a document whose fields fit their schema is its own transcript. -/
def desiredStateTranscript (document : DesiredStateDocument) :
    Except DesiredStateCryptoError DesiredStateDocument :=
  if document.schemaVersion = 1 then
    if document.xray.publicPort.isNone then .ok document else .error .invalidDocument
  else if document.schemaVersion = 2 then
    if document.xray.publicPort.isSome then .ok document else .error .invalidDocument
  else .error .unsupportedSchema

def verifyDesiredStateSignature (scheme : SignatureScheme DesiredStateDocument)
    (document : DesiredStateDocument) (signature : Ed25519Signature) (publicKey : PublicKey) :
    Except DesiredStateCryptoError Unit := do
  let transcript ← desiredStateTranscript document
  refuseWhen (¬scheme.verify publicKey signature transcript) .invalidSignature

/-! ### What the checks accept -/

theorem eq_of_desiredStateTranscript {document tr : DesiredStateDocument}
    (h : desiredStateTranscript document = .ok tr) : tr = document := by
  unfold desiredStateTranscript at h
  split_ifs at h
  all_goals exact (Except.ok.inj h).symm

theorem desiredStateTranscript_ok {document : DesiredStateDocument} {port : UInt16}
    (hschema : document.schemaVersion = 2) (hport : document.xray.publicPort = some port) :
    desiredStateTranscript document = .ok document := by
  unfold desiredStateTranscript
  rw [hschema, if_neg (by decide), if_pos rfl, hport]
  rfl

theorem validateUsers_ok {userIds : List UserId} {credentialIds : List CredentialId}
    {users : List DesiredUser} : validateUsers userIds credentialIds users = .ok () ↔
      Unseen userIds (users.map (·.userId)) ∧ Unseen credentialIds (users.map (·.credentialId))
        ∧ ∀ u ∈ users, (Uuid.parse u.vlessUuid).isSome := by
  induction users generalizing userIds credentialIds with
  | nil => simp [validateUsers]
  | cons user users ih =>
    simp only [validateUsers, check_ok, refuse_ok, ih, List.map_cons, unseen_cons, List.mem_cons,
      forall_eq_or_imp, not_or, Option.isNone_iff_eq_none, ← Option.isSome_iff_ne_none]
    tauto

end RealityConsole.Protocol
