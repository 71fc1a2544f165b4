import RealityConsole.Framework.Json

/-!
# Keys and signatures

A key is a number standing for its 32 bytes. A signature is used in two ways: symbolically, as the
key that made it together with what it was made over; and as the text of its 64 bytes, where a
result depends on the size of a document.
-/

namespace RealityConsole.Protocol

open Framework

abbrev PublicKey := Nat

structure SigningKeyId where
  key : PublicKey
  deriving DecidableEq, Repr

def ed25519SigningKeyId (key : PublicKey) : SigningKeyId := ⟨key⟩

def SigningKeyId.uuid (id : SigningKeyId) : Uuid := BitVec.ofNat 128 id.key

/-! ### Symbolic signatures -/

structure Signature (transcript : Type) where
  key : PublicKey
  transcript : transcript
  deriving DecidableEq, Repr

/-! ### Signature texts -/

/-- `Ed25519Signature`: 64 bytes as unpadded base64url text. -/
structure Ed25519Signature where
  text : List Char
  length_text : text.length = 86
  plain : ∀ c ∈ text, Json.isPlain c = true
  deriving DecidableEq, Repr

/-- Signing with the secret half of a key, and verification under the public half. -/
structure SignatureScheme (transcript : Type) where
  sign : PublicKey → transcript → Ed25519Signature
  verify : PublicKey → Ed25519Signature → transcript → Bool
  /-- An honest signature verifies. -/
  verify_sign : ∀ key t, verify key (sign key t) t = true

end RealityConsole.Protocol
