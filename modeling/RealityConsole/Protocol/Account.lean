import RealityConsole.Protocol.Desired

/-!
# Profile bundles

What the controller signs for one member device: a manifest that lists the nodes
the member may use, and one encrypted profile for each of them. Ciphertexts and
digests are symbolic: a ciphertext is the recipient's key with the bound data
and the plaintext, and the digest of a payload is the payload.
-/

namespace RealityConsole.Protocol

open Framework

abbrev DeviceId := Uuid

abbrev BundleId := Uuid

abbrev X25519PublicKey := Nat

inductive AccountStatus where
  | active
  | disabled
  | deleted
  deriving DecidableEq, Repr

inductive EndpointMode where
  | direct
  | relay
  deriving DecidableEq, Repr

/-! ### Node profiles -/

structure ProfileEndpoint where
  mode : EndpointMode
  address : String
  port : UInt16

structure RealityConnectionParameters where
  vlessUuid : String
  flow : String
  serverName : String
  fingerprint : String
  realityPublicKey : String
  shortId : String
  spiderX : String

/-- `NodeProfile`: one complete decrypted profile. -/
structure NodeProfile where
  nodeId : NodeId
  credentialId : CredentialId
  displayName : String
  region : Option String
  endpoint : ProfileEndpoint
  connection : RealityConnectionParameters

/-! ### The envelope -/

/-- What a profile is bound to when it is encrypted. -/
structure ProfileAad where
  networkId : NetworkId
  userId : UserId
  deviceId : DeviceId
  bundleId : BundleId
  generation : Nat
  nodeId : NodeId

/-- `EncryptedProfilePayload`: a profile that only the recipient can open. -/
structure EncryptedProfilePayload where
  nodeId : NodeId
  recipient : X25519PublicKey
  aad : ProfileAad
  plaintext : NodeProfile

/-- `ProfileDescriptor`: the manifest's entry for one encrypted profile. -/
structure ProfileDescriptor where
  nodeId : NodeId
  displayName : String
  region : Option String
  endpointMode : EndpointMode
  encryptedPayloadDigest : EncryptedProfilePayload
  priority : Nat

structure SelectionHints where
  minimumHoldSeconds : Nat
  latencyToleranceMilliseconds : Nat
  failureThreshold : Nat

/-- `ProfileBundleManifest` without its replacement note, which no check reads. -/
structure ProfileBundleManifest where
  schemaVersion : Nat
  formatVersion : Nat
  bundleId : BundleId
  networkId : NetworkId
  userId : UserId
  deviceId : DeviceId
  signingKeyId : SigningKeyId
  controllerInstanceId : ControllerInstanceId
  generation : Nat
  issuedAt : Nat
  notBefore : Nat
  refreshAfter : Nat
  offlineExpiresAt : Nat
  minClientVersion : String
  accountStatus : AccountStatus
  profiles : List ProfileDescriptor
  selectionHints : SelectionHints

/-- What the controller signs of a bundle. -/
structure BundleTranscript where
  manifest : ProfileBundleManifest
  encryptedProfiles : List EncryptedProfilePayload

structure SignedProfileBundle where
  manifest : ProfileBundleManifest
  encryptedProfiles : List EncryptedProfilePayload
  signature : Signature BundleTranscript

end RealityConsole.Protocol
