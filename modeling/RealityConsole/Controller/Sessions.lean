import RealityConsole.Framework.Fallible
import RealityConsole.Framework.Table
import RealityConsole.Protocol.Session

/-!
# Member sessions

The controller's tables about accounts, devices and sessions, and every operation that writes them,
each in one immediate transaction. The reuse of a refresh credential is answered with an error after
the session has been revoked; every other failure leaves the tables as they were.
-/

namespace RealityConsole.Controller

open Framework Protocol

/-! ### Tables -/

/-- What a verifier is derived for. -/
inductive SecretDomain where
  | activation
  | accountReset
  | credential (kind : CredentialKind)
  deriving DecidableEq, Repr

/-- `credential_verifier`: what is stored of a bearer text. -/
structure Verifier where
  domain : SecretDomain
  raw : Bearer
  deriving DecidableEq, Repr

/-- A row of `users`. The password verifier stands for the password it was made of. -/
structure User where
  displayName : String
  status : Protocol.AccountStatus
  passwordVerifier : Option String
  credentialVersion : Nat
  createdAt : Nat

/-- `devices.status` -/
inductive DeviceStatus where
  | active
  | revoked
  deriving DecidableEq, Repr

/-- A row of `devices`. -/
structure Device where
  userId : UserId
  displayName : String
  platform : String
  clientVersion : String
  identityPublicKey : PublicKey
  encryptionPublicKey : X25519PublicKey
  status : DeviceStatus
  createdAt : Nat

/-- A row of `refresh_sessions`. -/
structure Session where
  userId : UserId
  deviceId : DeviceId
  generation : Nat
  currentRefreshVerifier : Verifier
  previousRefreshVerifier : Option Verifier
  currentAccessVerifier : Verifier
  accessExpiresAt : Nat
  credentialVersion : Nat
  createdAt : Nat
  rotatedAt : Nat
  expiresAt : Nat
  revokedAt : Option Nat
  revokeReason : Option String

/-- The columns that the consumption of an activation sets together. -/
structure ActivationUse where
  consumedAt : Nat
  deviceId : DeviceId
  request : ConsumeDeviceActivationRequest
  sessionId : SessionId
  account : AccountMetadata

/-- A row of `device_activations`. -/
structure Activation where
  userId : UserId
  accountDisplayName : String
  controllerOrigin : String
  secretVerifier : Verifier
  idempotencyKey : IdempotencyKey
  request : CreateDeviceActivationRequest
  expiresAt : Nat
  consumed : Option ActivationUse

def Activation.consume (used : ActivationUse) (activation : Activation) : Activation :=
  { activation with consumed := some used }

/-- `ConsumeAccountResetTokenResponse` -/
structure AccountResetResponse where
  userId : UserId
  revokedSessions : Nat
  publishedRevisions : List Nat

/-- The columns that the consumption of a reset token sets together. -/
structure ResetTokenUse where
  consumedAt : Nat
  key : IdempotencyKey
  request : ConsumeAccountResetTokenRequest
  response : AccountResetResponse

/-- A row of `account_reset_tokens`. -/
structure ResetToken where
  userId : UserId
  secretVerifier : Verifier
  idempotencyKey : IdempotencyKey
  request : IssueAccountResetTokenRequest
  expiresAt : Nat
  consumed : Option ResetTokenUse

/-- A row of `login_idempotency_records`. -/
structure LoginRecord where
  request : CreateSessionRequest
  userId : UserId
  deviceId : DeviceId
  sessionId : SessionId
  account : AccountMetadata

/-- A row of `refresh_idempotency_records`. -/
structure RefreshRecord where
  request : RefreshSessionRequest
  account : AccountMetadata
  issuedAt : Nat
  accessExpiresAt : Nat
  refreshExpiresAt : Nat

structure SessionStore where
  network : NetworkId
  users : Table UserId User
  devices : Table DeviceId Device
  sessions : Table SessionId Session
  activations : Table DeviceActivationId Activation
  resetTokens : Table Uuid ResetToken
  logins : Table IdempotencyKey LoginRecord
  /-- By session, source generation and idempotency key. -/
  refreshes : Table (SessionId × Nat × IdempotencyKey) RefreshRecord

/-- The failures of the operations, as far as they can occur here. -/
inductive SessionError where
  | validation (error : ProtocolValidationError)
  | sqlite
  | timestampOverflow
  | timestampComponent
  | storedProtocolValue
  | idempotencyKeyConflict
  | accountNotFound
  | accountAuthenticationBlocked
  | accountLifecycleConflict
  | activationInvalid
  | activationExpired
  | activationConsumed
  | accountResetTokenInvalid
  | accountResetTokenExpired
  | accountResetTokenConsumed
  | invalidDeviceProof
  | memberAuthenticationFailed
  | refreshCredentialReused
  | deviceNotFound
  /-- The node credentials could not be rotated or the revisions not published. -/
  | publication
  deriving DecidableEq, Repr

def accessTokenLifetimeSeconds : Nat := 15 * 60

def refreshTokenLifetimeSeconds : Nat := 30 * 24 * 60 * 60

/-- A sum of a clock reading and a duration in signed 64 bits. -/
def checkedAdd (now seconds : Nat) : Except SessionError Nat :=
  if now + seconds < i64Limit then .ok (now + seconds) else .error .timestampOverflow

/-- `timestamp`: the calendar ends with the year 9999. -/
def timestamp (value : Nat) : Except SessionError Nat :=
  if value ≤ 253402300799 then .ok value else .error .timestampComponent

structure AuthenticatedMember where
  networkId : NetworkId
  userId : UserId
  deviceId : DeviceId
  sessionId : SessionId
  deriving DecidableEq, Repr

namespace SessionStore

/-! ### Reading -/

def loadAccountStatus (store : SessionStore) (userId : UserId) :
    Except SessionError Protocol.AccountStatus := do
  let user ← required (store.users.find userId) .accountNotFound
  return user.status

def loadAccountMetadata (store : SessionStore) (userId : UserId) :
    Except SessionError AccountMetadata := do
  let user ← required (store.users.find userId) .sqlite
  return ⟨userId, user.displayName, user.status⟩

def loadSession (store : SessionStore) (sessionId : SessionId) :
    Option (Session × User × Device) :=
  match store.sessions.find sessionId with
  | none => none
  | some session =>
    match store.users.find session.userId, store.devices.find session.deviceId with
    | some user, some device =>
      if device.userId = session.userId then some (session, user, device) else none
    | _, _ => none

/-! ### Credentials -/

inductive Opening where
  | login (request : CreateSessionRequest)
  | activation (id : DeviceActivationId) (request : ConsumeDeviceActivationRequest)

/-- The activation that is part of the context and of the response. -/
def Opening.activationId : Opening → Option DeviceActivationId
  | .login _ => none
  | .activation id _ => some id

/-- `derive_secret` in the context of a first credential. -/
def Opening.secret (opening : Opening) (kind : CredentialKind) (network : NetworkId)
    (session : SessionId) (device : DeviceId) (issuedAt : Nat) : Bearer :=
  match opening with
  | .login request => .login kind network session device request issuedAt
  | .activation id request =>
    .activated kind network session device id request.activationSecret request.device issuedAt

def deriveInitialCredentials (network : NetworkId) (session : SessionId) (device : DeviceId)
    (opening : Opening) (issuedAt accessExpiresAt refreshExpiresAt : Nat) :
    Except SessionError SessionCredentials := do
  let accessExpiresAt ← timestamp accessExpiresAt
  let refreshExpiresAt ← timestamp refreshExpiresAt
  return {
    sessionId := session
    accessToken := opening.secret .access network session device issuedAt
    accessExpiresAt
    refreshCredential := opening.secret .refresh network session device issuedAt
    refreshExpiresAt }

def deriveRefreshCredentials (network : NetworkId) (session : SessionId) (device : DeviceId)
    (sourceGeneration : Nat) (key : IdempotencyKey) (request : RefreshSessionRequest)
    (issuedAt accessExpiresAt refreshExpiresAt : Nat) :
    Except SessionError SessionCredentials := do
  let accessExpiresAt ← timestamp accessExpiresAt
  let refreshExpiresAt ← timestamp refreshExpiresAt
  return {
    sessionId := session
    accessToken := .rotated .access network session device sourceGeneration key
      request.refreshCredential issuedAt
    accessExpiresAt
    refreshCredential := .rotated .refresh network session device sourceGeneration key
      request.refreshCredential issuedAt
    refreshExpiresAt }

/-! ### Opening a session -/

/-- `insert_device`, with the unique keys of the table. -/
def insertDevice (store : SessionStore) (userId : UserId) (deviceId : DeviceId)
    (enrollment : DeviceEnrollment) (now : Nat) : Except SessionError SessionStore := do
  refuseWhen ((store.devices.find deviceId).isSome ∨ store.devices.any fun entry =>
      entry.2.identityPublicKey = enrollment.identityPublicKey
        ∨ entry.2.encryptionPublicKey = enrollment.encryptionPublicKey) .sqlite
  return { store with
    devices := store.devices.insert deviceId {
      userId
      displayName := enrollment.displayName
      platform := enrollment.platform
      clientVersion := enrollment.clientVersion
      identityPublicKey := enrollment.identityPublicKey
      encryptionPublicKey := enrollment.encryptionPublicKey
      status := .active
      createdAt := now } }

def openedSession (userId : UserId) (deviceId : DeviceId) (credentials : SessionCredentials)
    (credentialVersion now accessExpiresAt refreshExpiresAt : Nat) : Session :=
  { userId, deviceId
    generation := 0
    currentRefreshVerifier := ⟨.credential .refresh, credentials.refreshCredential⟩
    previousRefreshVerifier := none
    currentAccessVerifier := ⟨.credential .access, credentials.accessToken⟩
    accessExpiresAt, credentialVersion
    createdAt := now
    rotatedAt := now
    expiresAt := refreshExpiresAt
    revokedAt := none
    revokeReason := none }

/-- Adds a session under the unique keys of the table. -/
def insertSession (store : SessionStore) (sessionId : SessionId) (session : Session) :
    Except SessionError SessionStore := do
  refuseWhen ((store.sessions.find sessionId).isSome ∨ store.sessions.any fun entry =>
      entry.2.currentRefreshVerifier = session.currentRefreshVerifier
        ∨ entry.2.currentAccessVerifier = session.currentAccessVerifier) .sqlite
  return { store with sessions := store.sessions.insert sessionId session }

def issueInitialSession (store : SessionStore) (userId : UserId) (deviceId : DeviceId)
    (sessionId : SessionId) (opening : Opening) (now : Nat) :
    Except SessionError (SessionStore × CreateDeviceSessionResponse) := do
  let accessExpiresAt ← checkedAdd now accessTokenLifetimeSeconds
  let refreshExpiresAt ← checkedAdd now refreshTokenLifetimeSeconds
  let credentials ← deriveInitialCredentials store.network sessionId deviceId opening now
    accessExpiresAt refreshExpiresAt
  let user ← required (store.users.find userId) .sqlite
  let store ← store.insertSession sessionId
    (openedSession userId deviceId credentials user.credentialVersion now accessExpiresAt
      refreshExpiresAt)
  let account ← store.loadAccountMetadata userId
  return (store, ⟨opening.activationId, account, deviceId, credentials⟩)

def replayInitialSession (store : SessionStore) (userId : UserId) (deviceId : DeviceId)
    (sessionId : SessionId) (opening : Opening) (account : AccountMetadata) :
    Except SessionError CreateDeviceSessionResponse := do
  let session ← required (store.sessions.find sessionId) .sqlite
  refuseWhen (session.userId ≠ userId ∨ session.deviceId ≠ deviceId) .sqlite
  let accessExpiresAt ← checkedAdd session.createdAt accessTokenLifetimeSeconds
  let credentials ← deriveInitialCredentials store.network sessionId deviceId opening
    session.createdAt accessExpiresAt session.expiresAt
  return ⟨opening.activationId, account, deviceId, credentials⟩

/-- What a transaction commits, and what it answers. -/
abbrev Commit (α : Type) := SessionStore × Except SessionError α

/-- `replay_member_login` for the record of the key. -/
def replayMemberLogin (store : SessionStore) (record : LoginRecord)
    (request : CreateSessionRequest) :
    Except SessionError (Commit CreateDeviceSessionResponse) := do
  refuseWhen (record.request ≠ request) .idempotencyKeyConflict
  let response ← store.replayInitialSession record.userId record.deviceId record.sessionId
    (.login request) record.account
  return (store, .ok response)

/-- `create_member_session` after the replay: password and proof of the device are checked, a device
and a session are added. -/
def openMemberSession (store : SessionStore) (userId : UserId) (origin : String)
    (request : CreateSessionRequest) (key : IdempotencyKey) (deviceId : DeviceId)
    (sessionId : SessionId) (now : Nat) :
    Except SessionError (Commit CreateDeviceSessionResponse) := do
  let user ← required (store.users.find userId) .memberAuthenticationFailed
  refuseWhen (user.status ≠ .active) .memberAuthenticationFailed
  refuseWhen (user.passwordVerifier ≠ some request.password) .memberAuthenticationFailed
  refuseWhen (¬request.device.verifyProof
      (DeviceEnrollment.loginProofTranscript request.account origin request.device))
    .invalidDeviceProof
  let store ← store.insertDevice userId deviceId request.device now
  let (store, response) ← store.issueInitialSession userId deviceId sessionId (.login request) now
  return ({ store with
    logins := store.logins.insert key
      ⟨request, userId, deviceId, sessionId, response.account⟩ }, .ok response)

def createMemberSession (origin : String) (request : CreateSessionRequest)
    (key : IdempotencyKey) (deviceId : DeviceId) (sessionId : SessionId) (now : Nat) :
    Fallible SessionStore SessionError CreateDeviceSessionResponse :=
  Fallible.transaction fun store => do
    request.validate.mapError .validation
    let userId ← required (Uuid.parse request.account) .memberAuthenticationFailed
    match store.logins.find key with
    | some record => store.replayMemberLogin record request
    | none => store.openMemberSession userId origin request key deviceId sessionId now

/-! ### Activations -/

/-- `DeviceActivationDelivery` -/
structure ActivationDelivery where
  displayName : String
  userId : UserId
  activationId : DeviceActivationId
  expiresAt : Nat
  activationSecret : Bearer
  controllerOrigin : String

def replayDeviceActivation (store : SessionStore) (id : DeviceActivationId)
    (activation : Activation) (userId : UserId) (request : CreateDeviceActivationRequest)
    (key : IdempotencyKey) : Except SessionError (Commit ActivationDelivery) := do
  refuseWhen (activation.request ≠ request) .idempotencyKeyConflict
  let secret := Bearer.activation store.network userId id key request.expiresInSeconds
  refuseWhen (activation.secretVerifier ≠ ⟨.activation, secret⟩) .storedProtocolValue
  let expiresAt ← timestamp activation.expiresAt
  return (store, .ok ⟨activation.accountDisplayName, userId, id, expiresAt, secret,
    activation.controllerOrigin⟩)

def insertDeviceActivation (store : SessionStore) (userId : UserId)
    (request : CreateDeviceActivationRequest) (origin : String) (key : IdempotencyKey)
    (id : DeviceActivationId) (expiresAt : Nat) :
    Except SessionError (Commit ActivationDelivery) := do
  let user ← required (store.users.find userId) .accountNotFound
  refuseWhen (user.status ≠ .active) .accountAuthenticationBlocked
  let secret := Bearer.activation store.network userId id key request.expiresInSeconds
  refuseWhen (store.activations.find id).isSome .sqlite
  let shown ← timestamp expiresAt
  return ({ store with
    activations := store.activations.insert id {
      userId
      accountDisplayName := user.displayName
      controllerOrigin := origin
      secretVerifier := ⟨.activation, secret⟩
      idempotencyKey := key
      request, expiresAt
      consumed := none } },
    .ok ⟨user.displayName, userId, id, shown, secret, origin⟩)

def createDeviceActivation (userId : UserId) (request : CreateDeviceActivationRequest)
    (origin : String) (key : IdempotencyKey) (id : DeviceActivationId) (now : Nat) :
    Fallible SessionStore SessionError ActivationDelivery :=
  Fallible.transaction fun store => do
    request.validate.mapError .validation
    let expiresAt ← checkedAdd now request.expiresInSeconds
    match store.activations.find? fun entry =>
        entry.2.userId = userId ∧ entry.2.idempotencyKey = key with
    | some (found, activation) =>
      store.replayDeviceActivation found activation userId request key
    | none => store.insertDeviceActivation userId request origin key id expiresAt

def replayActivationUse (store : SessionStore) (id : DeviceActivationId) (userId : UserId)
    (used : ActivationUse) (request : ConsumeDeviceActivationRequest) :
    Except SessionError (Commit CreateDeviceSessionResponse) := do
  refuseWhen (used.request ≠ request) .activationConsumed
  let response ← store.replayInitialSession userId used.deviceId used.sessionId
    (.activation id request) used.account
  return (store, .ok response)

def useActivation (store : SessionStore) (id : DeviceActivationId) (userId : UserId)
    (request : ConsumeDeviceActivationRequest) (deviceId : DeviceId) (sessionId : SessionId)
    (now : Nat) : Except SessionError (Commit CreateDeviceSessionResponse) := do
  let status ← store.loadAccountStatus userId
  refuseWhen (status ≠ .active) .accountAuthenticationBlocked
  let store ← store.insertDevice userId deviceId request.device now
  let (store, response) ← store.issueInitialSession userId deviceId sessionId
    (.activation id request) now
  return ({ store with
    activations := store.activations.updateAt id
      (Activation.consume ⟨now, deviceId, request, sessionId, response.account⟩) }, .ok response)

def consumeDeviceActivation (origin : String) (request : ConsumeDeviceActivationRequest)
    (deviceId : DeviceId) (sessionId : SessionId) (now : Nat) :
    Fallible SessionStore SessionError CreateDeviceSessionResponse :=
  Fallible.transaction fun store => do
    request.validate.mapError .validation
    let id ← required (request.activationSecret.parsePrefixedId "rcd1") .memberAuthenticationFailed
    let activation ← required (store.activations.find id) .activationInvalid
    refuseWhen (activation.secretVerifier ≠ ⟨.activation, request.activationSecret⟩)
      .activationInvalid
    refuseWhen (activation.expiresAt < now ∧ activation.consumed.isNone) .activationExpired
    let expiresAt ← timestamp activation.expiresAt
    refuseWhen (¬request.device.verifyProof
        (DeviceEnrollment.activationProofTranscript id expiresAt origin request.device))
      .invalidDeviceProof
    match activation.consumed with
    | some used => store.replayActivationUse id activation.userId used request
    | none => store.useActivation id activation.userId request deviceId sessionId now

/-! ### Ending sessions -/

/-- Marks a session as revoked; the first revocation stays. -/
def revoked (now : Nat) (reason : String) (session : Session) : Session :=
  { session with
    revokedAt := some (session.revokedAt.getD now)
    revokeReason := some (session.revokeReason.getD reason) }

def revokeWhere (store : SessionStore) (p : SessionId → Session → Bool) (now : Nat)
    (reason : String) : SessionStore :=
  { store with
    sessions := store.sessions.update fun id session =>
      if p id session then revoked now reason session else session }

theorem find_revokeWhere (store : SessionStore) (p : SessionId → Session → Bool) (now : Nat)
    (reason : String) (id : SessionId) : (store.revokeWhere p now reason).sessions.find id
      = (store.sessions.find id).map fun session =>
          if p id session then revoked now reason session else session := by
  simp only [revokeWhere, Table.find_update]

def openSessionOf (userId : UserId) (_ : SessionId) (session : Session) : Bool :=
  session.userId = userId ∧ session.revokedAt = none

/-- `revoke_user_sessions`, and how many sessions it changed. -/
def revokeUserSessions (store : SessionStore) (userId : UserId) (now : Nat) (reason : String) :
    SessionStore × Nat :=
  (store.revokeWhere (openSessionOf userId) now reason,
    store.sessions.count (openSessionOf userId))

/-- An update of the row of a user, which must not be dated before its creation. -/
def updateUser (store : SessionStore) (userId : UserId) (now : Nat) (f : User → User) :
    Except SessionError SessionStore := do
  refuseWhen (store.users.any fun entry => entry.1 = userId ∧ now < entry.2.createdAt) .sqlite
  return { store with users := store.users.updateAt userId f }

/-- A count as an unsigned 32-bit number. -/
def toU32 (n : Nat) : Except SessionError Nat :=
  if n < 4294967296 then .ok n else .error .storedProtocolValue

/-! ### Refresh -/

/-- The generation whose refresh credential was presented, if it is one of the last two. -/
def sourceGeneration (session : Session) (verifier : Verifier) : Option Nat :=
  if session.currentRefreshVerifier = verifier then some session.generation
  else if session.previousRefreshVerifier = some verifier ∧ 0 < session.generation then
    some (session.generation - 1)
  else none

def replayRefresh (store : SessionStore) (sessionId : SessionId) (session : Session)
    (source : Nat) (key : IdempotencyKey) (request : RefreshSessionRequest)
    (record : RefreshRecord) : Except SessionError (Commit RefreshSessionResponse) := do
  refuseWhen (record.request ≠ request) .idempotencyKeyConflict
  let credentials ← deriveRefreshCredentials store.network sessionId session.deviceId source key
    request record.issuedAt record.accessExpiresAt record.refreshExpiresAt
  return (store, .ok ⟨record.account, credentials⟩)

def rotatedSession (session : Session) (credentials : SessionCredentials)
    (accessExpiresAt now : Nat) : Session :=
  { session with
    generation := session.generation + 1
    previousRefreshVerifier := some session.currentRefreshVerifier
    currentRefreshVerifier := ⟨.credential .refresh, credentials.refreshCredential⟩
    currentAccessVerifier := ⟨.credential .access, credentials.accessToken⟩
    accessExpiresAt
    rotatedAt := now }

def rotateSession (store : SessionStore) (sessionId : SessionId) (session : Session)
    (user : User) (device : Device) (source : Nat) (key : IdempotencyKey)
    (request : RefreshSessionRequest) (now : Nat) :
    Except SessionError (Commit RefreshSessionResponse) := do
  refuseWhen (session.currentRefreshVerifier ≠ ⟨.credential .refresh, request.refreshCredential⟩
      ∨ session.revokedAt.isSome ∨ session.expiresAt ≤ now
      ∨ session.credentialVersion ≠ user.credentialVersion ∨ user.status ≠ .active
      ∨ device.status ≠ .active) .memberAuthenticationFailed
  let accessExpiresAt ← checkedAdd now accessTokenLifetimeSeconds
  let account ← store.loadAccountMetadata session.userId
  let credentials ← deriveRefreshCredentials store.network sessionId session.deviceId source key
    request now accessExpiresAt session.expiresAt
  -- The session must outlive its access token, and nothing is dated before the device.
  refuseWhen (session.expiresAt ≤ accessExpiresAt ∨ now < device.createdAt) .sqlite
  return ({ store with
    sessions := store.sessions.updateAt sessionId fun session =>
      rotatedSession session credentials accessExpiresAt now
    refreshes := store.refreshes.insert (sessionId, source, key)
      ⟨request, account, now, accessExpiresAt, session.expiresAt⟩ },
    .ok ⟨account, credentials⟩)

/-- What a refresh does with a known credential: a copy of a recorded answer, the end of the session
if the previous credential comes with a new key, or a rotation. -/
def answerRefresh (store : SessionStore) (sessionId : SessionId) (session : Session)
    (user : User) (device : Device) (source : Nat) (key : IdempotencyKey)
    (request : RefreshSessionRequest) (now : Nat) :
    Except SessionError (Commit RefreshSessionResponse) :=
  match store.refreshes.find (sessionId, source, key) with
  | some record => store.replayRefresh sessionId session source key request record
  | none =>
    if session.previousRefreshVerifier
        = some ⟨.credential .refresh, request.refreshCredential⟩ then
      .ok (store.revokeWhere (fun id _ => id = sessionId) now "refresh-reuse",
        .error .refreshCredentialReused)
    else store.rotateSession sessionId session user device source key request now

def refreshMemberSession (request : RefreshSessionRequest) (key : IdempotencyKey) (now : Nat) :
    Fallible SessionStore SessionError RefreshSessionResponse :=
  Fallible.transaction fun store => do
    request.validate.mapError .validation
    let sessionId ← required (request.refreshCredential.parsePrefixedId "rcr1")
      .memberAuthenticationFailed
    let verifier : Verifier := ⟨.credential .refresh, request.refreshCredential⟩
    let (session, user, device) ← required (store.loadSession sessionId)
      .memberAuthenticationFailed
    let source ← required (sourceGeneration session verifier) .memberAuthenticationFailed
    store.answerRefresh sessionId session user device source key request now

/-! ### Authentication and logout -/

def authenticateMember (raw : Bearer) (now : Nat) :
    Fallible SessionStore SessionError AuthenticatedMember :=
  Fallible.transaction fun store => do
    let sessionId ← required (raw.parsePrefixedId "rca1") .memberAuthenticationFailed
    let (session, user, device) ← required (store.loadSession sessionId)
      .memberAuthenticationFailed
    refuseWhen (session.currentAccessVerifier ≠ ⟨.credential .access, raw⟩
        ∨ session.accessExpiresAt ≤ now ∨ session.expiresAt ≤ now ∨ session.revokedAt.isSome
        ∨ session.credentialVersion ≠ user.credentialVersion ∨ user.status ≠ .active
        ∨ device.status ≠ .active) .memberAuthenticationFailed
    refuseWhen (now < device.createdAt) .sqlite
    return (store, .ok ⟨store.network, session.userId, session.deviceId, sessionId⟩)

def revokeMemberSession (member : AuthenticatedMember) (pathDeviceId : DeviceId) (now : Nat) :
    Fallible SessionStore SessionError Unit :=
  Fallible.transaction fun store => do
    refuseWhen (member.deviceId ≠ pathDeviceId) .memberAuthenticationFailed
    return (store.revokeWhere
      (fun id session => id = member.sessionId ∧ session.deviceId = member.deviceId) now "logout",
      .ok ())

/-! ### Administration -/

def revokeMemberDevice (deviceId : DeviceId) (now : Nat) (published : Bool) :
    Fallible SessionStore SessionError Unit :=
  Fallible.transaction fun store => do
    let device ← required (store.devices.find deviceId) .deviceNotFound
    refuseWhen (device.status = .active ∧ ¬published) .publication
    let store := { store with
      devices := store.devices.updateAt deviceId fun device =>
        { device with status := .revoked } }
    return (store.revokeWhere
      (fun _ session => session.deviceId = deviceId ∧ session.revokedAt = none) now
      "device-revoked", .ok ())

/-- `create_account`, for a request that is not repeated. -/
def createAccount (userId : UserId) (displayName : String) (now : Nat) :
    Fallible SessionStore SessionError AccountMetadata :=
  Fallible.transaction fun store => do
    (validateText displayName 128 "displayName").mapError .validation
    refuseWhen (store.users.find userId).isSome .sqlite
    return ({ store with
      users := store.users.insert userId {
        displayName
        status := .active
        passwordVerifier := none
        credentialVersion := 1
        createdAt := now } }, .ok ⟨userId, displayName, .active⟩)

def applyAccountStatusTransition (store : SessionStore) (userId : UserId)
    (requested : Protocol.AccountStatus) (now : Nat) : Except SessionError SessionStore :=
  match requested with
  | .active => store.updateUser userId now fun user =>
      if user.status = .disabled then { user with status := .active } else user
  | .disabled => do
    let store ← store.updateUser userId now fun user =>
      { user with status := .disabled, credentialVersion := user.credentialVersion + 1 }
    return (store.revokeUserSessions userId now "account-disabled").1
  | .deleted => do
    let store ← store.updateUser userId now fun user =>
      { user with status := .deleted, credentialVersion := user.credentialVersion + 1 }
    return (store.revokeUserSessions userId now "account-deleted").1

/-- The transition of an account, unless it already has the status. -/
def changeAccountStatus (store : SessionStore) (userId : UserId)
    (current requested : Protocol.AccountStatus) (now : Nat) : Except SessionError SessionStore :=
  if current = requested then .ok store
  else store.applyAccountStatusTransition userId requested now

def setAccountStatus (userId : UserId) (requested : Protocol.AccountStatus) (now : Nat)
    (published : Bool) : Fallible SessionStore SessionError AccountMetadata :=
  Fallible.transaction fun store => do
    let _ ← checkedAdd now 3600
    let current ← store.loadAccountStatus userId
    refuseWhen (current = .deleted ∧ requested ≠ .deleted) .accountLifecycleConflict
    let store ← store.changeAccountStatus userId current requested now
    refuseWhen (current ≠ requested ∧ ¬published) .publication
    let summary ← store.loadAccountMetadata userId
    return (store, .ok summary)

def replacePassword (store : SessionStore) (userId : UserId) (password : String) (now : Nat)
    (reason : String) : Except SessionError (SessionStore × Nat) := do
  let store ← store.updateUser userId now fun user =>
    { user with
      passwordVerifier := some password
      credentialVersion := user.credentialVersion + 1 }
  return store.revokeUserSessions userId now reason

def setAccountPassword (userId : UserId) (request : SetAccountPasswordRequest) (now : Nat)
    (published : Bool) : Fallible SessionStore SessionError Unit :=
  Fallible.transaction fun store => do
    request.validate.mapError .validation
    let status ← store.loadAccountStatus userId
    refuseWhen (status = .deleted) .accountAuthenticationBlocked
    let (store, _) ← store.replacePassword userId request.newPassword now "password-reset"
    refuseWhen (¬published) .publication
    return (store, .ok ())

structure ResetAccountSessionsResponse where
  userId : UserId
  revokedSessions : Nat
  revokedDevices : Nat

def resetAccountSessions (userId : UserId) (now : Nat) (published : Bool) :
    Fallible SessionStore SessionError ResetAccountSessionsResponse :=
  Fallible.transaction fun store => do
    let status ← store.loadAccountStatus userId
    refuseWhen (status = .deleted) .accountAuthenticationBlocked
    let store ← store.updateUser userId now fun user =>
      { user with credentialVersion := user.credentialVersion + 1 }
    let (store, revokedSessions) := store.revokeUserSessions userId now "account-session-reset"
    let revokedDevices := store.devices.count fun _ device =>
      device.userId = userId ∧ device.status = .active
    let store := { store with
      devices := store.devices.update fun _ device =>
        if device.userId = userId then { device with status := .revoked } else device }
    refuseWhen (¬published) .publication
    -- The counts are converted after the commit.
    return (store, do
      let revokedSessions ← toU32 revokedSessions
      let revokedDevices ← toU32 revokedDevices
      return ⟨userId, revokedSessions, revokedDevices⟩)

/-! ### Account reset tokens -/

def replayResetToken (store : SessionStore) (id : Uuid) (token : ResetToken) (userId : UserId)
    (request : IssueAccountResetTokenRequest) (key : IdempotencyKey) :
    Except SessionError (Commit (Bearer × Nat)) := do
  refuseWhen (token.request ≠ request) .idempotencyKeyConflict
  let secret := Bearer.accountReset store.network userId id key request.expiresInSeconds
  refuseWhen (token.secretVerifier ≠ ⟨.accountReset, secret⟩) .storedProtocolValue
  let expiresAt ← timestamp token.expiresAt
  return (store, .ok (secret, expiresAt))

def insertResetToken (store : SessionStore) (userId : UserId)
    (request : IssueAccountResetTokenRequest) (key : IdempotencyKey) (id : Uuid)
    (expiresAt : Nat) : Except SessionError (Commit (Bearer × Nat)) := do
  let status ← store.loadAccountStatus userId
  refuseWhen (status ≠ .active) .accountAuthenticationBlocked
  refuseWhen (store.resetTokens.find id).isSome .sqlite
  let secret := Bearer.accountReset store.network userId id key request.expiresInSeconds
  let store := { store with
    resetTokens := store.resetTokens.insert id {
      userId
      secretVerifier := ⟨.accountReset, secret⟩
      idempotencyKey := key
      request, expiresAt
      consumed := none } }
  return (store, do
    let shown ← timestamp expiresAt
    return (secret, shown))

def issueAccountResetToken (userId : UserId) (request : IssueAccountResetTokenRequest)
    (key : IdempotencyKey) (id : Uuid) (now : Nat) :
    Fallible SessionStore SessionError (Bearer × Nat) :=
  Fallible.transaction fun store => do
    request.validate.mapError .validation
    let expiresAt ← checkedAdd now request.expiresInSeconds
    match store.resetTokens.find? fun entry =>
        entry.2.userId = userId ∧ entry.2.idempotencyKey = key with
    | some (found, token) => store.replayResetToken found token userId request key
    | none => store.insertResetToken userId request key id expiresAt

def replayResetTokenUse (store : SessionStore) (used : ResetTokenUse)
    (request : ConsumeAccountResetTokenRequest) (key : IdempotencyKey) :
    Except SessionError (Commit AccountResetResponse) := do
  refuseWhen (used.key ≠ key ∨ used.request ≠ request) .accountResetTokenConsumed
  return (store, .ok used.response)

def useResetToken (store : SessionStore) (id : Uuid) (token : ResetToken)
    (request : ConsumeAccountResetTokenRequest) (key : IdempotencyKey) (now : Nat)
    (published : Option (List Nat)) : Except SessionError (Commit AccountResetResponse) := do
  refuseWhen (token.expiresAt ≤ now) .accountResetTokenExpired
  let status ← store.loadAccountStatus token.userId
  refuseWhen (status ≠ .active) .accountAuthenticationBlocked
  let (store, revokedSessions) ← store.replacePassword token.userId request.newPassword now
    "account-reset-token"
  let publishedRevisions ← required published .publication
  let revokedSessions ← toU32 revokedSessions
  let response : AccountResetResponse := ⟨token.userId, revokedSessions, publishedRevisions⟩
  return ({ store with
    resetTokens := store.resetTokens.updateAt id fun token =>
      { token with consumed := some ⟨now, key, request, response⟩ } }, .ok response)

/-- `consume_account_reset_token`; `published` holds the revisions that were published. -/
def consumeAccountResetToken (request : ConsumeAccountResetTokenRequest) (key : IdempotencyKey)
    (now : Nat) (published : Option (List Nat)) :
    Fallible SessionStore SessionError AccountResetResponse :=
  Fallible.transaction fun store => do
    request.validate.mapError .validation
    let (id, token) ← required (store.resetTokens.find? fun entry =>
      entry.2.secretVerifier = ⟨.accountReset, request.resetToken⟩) .accountResetTokenInvalid
    match token.consumed with
    | some used => store.replayResetTokenUse used request key
    | none => store.useResetToken id token request key now published

end SessionStore

end RealityConsole.Controller
