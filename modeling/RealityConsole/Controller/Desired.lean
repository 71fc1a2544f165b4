import Mathlib.Data.Char
import Mathlib.Data.List.Lex
import Mathlib.Data.List.Sort
import RealityConsole.Protocol.DesiredJson

/-!
# Publication of desired state

The controller brings a draft into canonical order, checks the document with the
protocol's own rules, signs it and serializes the envelope.
-/

namespace RealityConsole.Controller

open Framework Protocol

structure DesiredStateDraft where
  minAgentVersion : String
  users : List DesiredUser
  xray : DesiredXrayState

def userOrder (a b : DesiredUser) : Prop :=
  a.userId < b.userId ∨ (a.userId = b.userId ∧ a.credentialId ≤ b.credentialId)

instance : DecidableRel userOrder := fun _ _ => instDecidableOr

/-- Texts are ordered by their bytes, which is the order of their characters. -/
def textOrder (a b : String) : Prop := a.toList ≤ b.toList

instance : DecidableRel textOrder := fun a b =>
  inferInstanceAs (Decidable (a.toList ≤ b.toList))

instance : Std.Total textOrder := ⟨fun a b => le_total a.toList b.toList⟩

instance : IsTrans String textOrder := ⟨fun _ _ _ => le_trans⟩

def DesiredStateDraft.canonicalize (draft : DesiredStateDraft) : DesiredStateDraft :=
  { draft with
    users := draft.users.insertionSort userOrder
    xray := { draft.xray with serverNames := draft.xray.serverNames.insertionSort textOrder } }

inductive DesiredStateError where
  | protocol (error : ProtocolValidationError)
  | crypto (error : DesiredStateCryptoError)
  deriving DecidableEq, Repr

/-- `PublishedDesiredState` without the digests of its texts. -/
structure PublishedDesiredState where
  envelope : SignedDesiredState
  artifactJson : List Char

def desiredStateSchemaVersion : Nat := 2

structure Publication where
  /-- The controller's signing key. -/
  key : PublicKey
  networkId : NetworkId
  nodeId : NodeId
  revision : Nat
  createdAt : Nat
  controllerInstanceId : ControllerInstanceId

/-- The document of a draft that is in canonical order. -/
def Publication.document (p : Publication) (draft : DesiredStateDraft) :
    DesiredStateDocument where
  schemaVersion := desiredStateSchemaVersion
  networkId := p.networkId
  nodeId := p.nodeId
  revision := p.revision
  createdAt := p.createdAt
  minAgentVersion := draft.minAgentVersion
  users := draft.users
  xray := draft.xray
  signingKeyId := ed25519SigningKeyId p.key
  controllerInstanceId := p.controllerInstanceId

def buildSignedDesiredState (scheme : SignatureScheme DesiredStateDocument) (p : Publication)
    (draft : DesiredStateDraft) : Except DesiredStateError PublishedDesiredState := do
  let document := p.document draft.canonicalize
  (document.validateFor p.networkId p.nodeId p.controllerInstanceId none
    [desiredStateSchemaVersion]).mapError .protocol
  let transcript ← (desiredStateTranscript document).mapError .crypto
  let envelope : SignedDesiredState := ⟨document, scheme.sign p.key transcript⟩
  return ⟨envelope, envelope.json⟩

structure Published (scheme : SignatureScheme DesiredStateDocument) (p : Publication)
    (draft : DesiredStateDraft) (published : PublishedDesiredState) : Prop where
  document : published.envelope.document = p.document draft.canonicalize
  signature : published.envelope.signature = scheme.sign p.key published.envelope.document
  artifact : published.artifactJson = published.envelope.json
  body : published.envelope.document.validateBody = .ok ()

theorem buildSignedDesiredState_effect {scheme : SignatureScheme DesiredStateDocument}
    {p : Publication} {draft : DesiredStateDraft} {published : PublishedDesiredState}
    (h : buildSignedDesiredState scheme p draft = .ok published) :
    Published scheme p draft published := by
  obtain ⟨_, hval, h⟩ := bind_ok.1 h
  obtain ⟨tr, htranscript, h⟩ := bind_ok.1 h
  have hbody := (check_ok.1 (mapError_ok.1 hval)).2
  have hself : tr = p.document draft.canonicalize := by
    have hok := mapError_ok.1 htranscript
    exact eq_of_desiredStateTranscript hok
  cases h
  exact
    { document := rfl
      signature := by rw [hself]
      artifact := rfl
      body := hbody }

theorem DesiredStateDraft.canonicalize_perm (draft : DesiredStateDraft) :
    draft.canonicalize.users.Perm draft.users
      ∧ draft.canonicalize.xray.serverNames.Perm draft.xray.serverNames :=
  ⟨List.perm_insertionSort _ _, List.perm_insertionSort _ _⟩

def DesiredXrayState.Ordered (xray : DesiredXrayState) : Prop :=
  xray.serverNames.Pairwise textOrder

theorem DesiredStateDraft.canonicalize_ordered (draft : DesiredStateDraft) :
    DesiredXrayState.Ordered draft.canonicalize.xray :=
  List.pairwise_insertionSort textOrder draft.xray.serverNames

theorem DesiredStateDraft.canonicalize_xray {draft : DesiredStateDraft}
    (h : DesiredXrayState.Ordered draft.xray) : draft.canonicalize.xray = draft.xray := by
  unfold DesiredStateDraft.canonicalize
  rw [List.Pairwise.insertionSort_eq h]

end RealityConsole.Controller
