import RealityConsole.Protocol.DesiredJson

/-!
# Fetching and verifying desired state

The node reads a response chunk by chunk up to a limit, parses the envelope, and
checks addressee, revision, key identity and signature before it stores
anything.
-/

namespace RealityConsole.NodeHost

open Framework Protocol

/-! ### The bounded read -/

def maxResponseBytes : Nat := 64 * 1024

/-- The controller response exceeds 64 KiB. -/
inductive FetchError where
  | responseTooLarge

def encode (text : List Char) : List UInt8 := text.flatMap String.utf8EncodeChar

/-- The loop of `read_bounded_response`, with the bytes read so far. -/
def readChunks : List UInt8 → List (List UInt8) → Except FetchError (List UInt8)
  | bytes, [] => .ok bytes
  | bytes, chunk :: chunks => do
    refuseWhen (maxResponseBytes < bytes.length + chunk.length) .responseTooLarge
    readChunks (bytes ++ chunk) chunks

def readBoundedResponse (contentLength : Option Nat) (chunks : List (List UInt8)) :
    Except FetchError (List UInt8) := do
  refuseWhen (contentLength.any fun length => maxResponseBytes < length) .responseTooLarge
  readChunks [] chunks

theorem length_encode (text : List Char) : (encode text).length = Json.bytes text := by
  induction text with
  | nil => rfl
  | cons c text ih =>
    have htail : encode (c :: text) = String.utf8EncodeChar c ++ encode text := rfl
    rw [htail, List.length_append, String.length_utf8EncodeChar, ih, Json.bytes_cons]

/-- The loop returns everything exactly if everything fits. -/
theorem readChunks_ok {read body : List UInt8} {chunks : List (List UInt8)}
    (hread : read.length ≤ maxResponseBytes) : readChunks read chunks = .ok body ↔
      body = read ++ chunks.flatten ∧ body.length ≤ maxResponseBytes := by
  induction chunks generalizing read with
  | nil =>
    simp only [readChunks, List.flatten_nil, List.append_nil, Except.ok.injEq]
    constructor
    · intro h
      exact ⟨h.symm, h ▸ hread⟩
    · intro h
      exact h.1.symm
  | cons chunk chunks ih =>
    have hlen : (read ++ chunk).length = read.length + chunk.length := List.length_append
    simp only [readChunks, check_ok, refuse_ok, List.flatten_cons]
    constructor
    · intro h
      have hfits : (read ++ chunk).length ≤ maxResponseBytes := by omega
      rw [← List.append_assoc]
      exact (ih hfits).mp h.2
    · intro h
      have htotal : body.length = (read ++ chunk).length + chunks.flatten.length := by
        rw [h.1, ← List.append_assoc, List.length_append]
      have hfits : (read ++ chunk).length ≤ maxResponseBytes := by omega
      refine ⟨by omega, (ih hfits).mpr ⟨?_, h.2⟩⟩
      rw [h.1, List.append_assoc]

structure Transports (contentLength : Option Nat) (chunks : List (List UInt8))
    (body : List UInt8) : Prop where
  chunks : chunks.flatten = body
  announced : contentLength = none ∨ contentLength = some body.length

/-- However a body arrives, it is read exactly if it is within the limit. -/
theorem readBoundedResponse_ok {contentLength : Option Nat} {chunks : List (List UInt8)}
    {body : List UInt8} (h : Transports contentLength chunks body) :
    readBoundedResponse contentLength chunks = .ok body ↔ body.length ≤ maxResponseBytes := by
  have hloop : readChunks [] chunks = .ok body ↔ body.length ≤ maxResponseBytes := by
    rw [readChunks_ok (Nat.zero_le _), List.nil_append, h.chunks]
    exact and_iff_right rfl
  simp only [readBoundedResponse, check_ok, hloop]
  rw [refuse_ok]
  constructor
  · intro hread
    exact hread.2
  · intro hfits
    refine ⟨?_, hfits⟩
    rcases h.announced with hnone | hsome
    · rw [hnone]
      exact Bool.false_ne_true
    · rw [hsome]
      simpa using hfits

/-! ### Verification -/

structure SyncRegistration where
  network : NetworkId
  node : NodeId
  controllerInstance : ControllerInstanceId
  controllerSigningPublicKey : PublicKey

/-- Why a response is not accepted as desired state. -/
inductive DesiredVerifyError where
  | invalidJson
  | invalidDocument (error : ProtocolValidationError)
  | signingKeyInvalid
  | signatureInvalid (error : DesiredStateCryptoError)

def supportedDesiredSchemas : List Nat := [1, 2]

def previousRevision (cursor : Nat) : Option Nat := if cursor = 0 then none else some cursor

/-- The checks of `persist_verified_desired_state` on an envelope. -/
def verifyEnvelope (scheme : SignatureScheme DesiredStateDocument)
    (registration : SyncRegistration) (cursor : Nat) (envelope : SignedDesiredState) :
    Except DesiredVerifyError SignedDesiredState := do
  (envelope.document.validateFor registration.network registration.node
    registration.controllerInstance (previousRevision cursor)
    supportedDesiredSchemas).mapError .invalidDocument
  refuseWhen (envelope.document.signingKeyId
    ≠ ed25519SigningKeyId registration.controllerSigningPublicKey) .signingKeyInvalid
  (verifyDesiredStateSignature scheme envelope.document envelope.signature
    registration.controllerSigningPublicKey).mapError .signatureInvalid
  return envelope

/-- The verification in `persist_verified_desired_state`, with the JSON reader as a parameter. -/
def verifyDesiredState (scheme : SignatureScheme DesiredStateDocument)
    (fromSlice : List UInt8 → Option SignedDesiredState) (registration : SyncRegistration)
    (cursor : Nat) (body : List UInt8) : Except DesiredVerifyError SignedDesiredState :=
  match fromSlice body with
  | none => .error .invalidJson
  | some envelope => verifyEnvelope scheme registration cursor envelope

end RealityConsole.NodeHost
