import RealityConsole.Framework.SortedMap
import RealityConsole.Protocol.Account

/-!
# Connection profiles of the client

The normalized input of one Xray process, and a verified bundle: the signed
envelope with the profiles that were decrypted from it.
-/

namespace RealityConsole.Client

open Framework Protocol

/-- `ClientError`; none of the modelled operations names a field. -/
structure ClientError where
  code : String
  message : String

/-- `ConnectionProfile` of an account bundle. -/
structure ConnectionProfile where
  /-- The node and endpoint mode the profile comes from. -/
  nodeId : NodeId
  mode : EndpointMode
  name : String
  serverAddress : String
  serverPort : UInt16
  userId : Uuid
  flow : String
  serverName : String
  fingerprint : String
  realityPassword : String
  shortId : String
  spiderX : String
  deriving DecidableEq, Repr

/-- `VerifiedBundle` without the digest of the artifact. -/
structure VerifiedBundle where
  signed : SignedProfileBundle
  profiles : SortedMap NodeId ConnectionProfile
  etag : Option String

end RealityConsole.Client
