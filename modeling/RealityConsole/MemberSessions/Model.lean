import RealityConsole.Controller.Sessions
import RealityConsole.Framework.Machine

/-!
# Runs of the session service

The controller's session tables with every call that reads or writes them, in any order and at any
clock reading. The world also remembers what was answered and who was authenticated: a logout is a
second transaction after the authentication of its request.
-/

namespace RealityConsole.MemberSessions

open Framework Protocol Controller Controller.SessionStore

/-- A request that was answered with credentials. -/
inductive Exchange where
  | activation (origin : String) (request : ConsumeDeviceActivationRequest)
      (response : CreateDeviceSessionResponse)
  | login (request : CreateSessionRequest) (key : IdempotencyKey)
      (response : CreateDeviceSessionResponse)
  | refresh (request : RefreshSessionRequest) (key : IdempotencyKey)
      (response : RefreshSessionResponse)

/-- The tables, and what the service has answered so far. -/
structure World where
  store : SessionStore
  answered : List Exchange
  authenticated : List AuthenticatedMember

/-- The calls, with the clock reading and the random choices of each. -/
inductive Label where
  | createAccount (userId : UserId) (displayName : String) (now : Nat)
  | createDeviceActivation (userId : UserId) (request : CreateDeviceActivationRequest)
      (origin : String) (key : IdempotencyKey) (id : DeviceActivationId) (now : Nat)
  | consumeDeviceActivation (origin : String) (request : ConsumeDeviceActivationRequest)
      (deviceId : DeviceId) (sessionId : SessionId) (now : Nat)
  | createMemberSession (origin : String) (request : CreateSessionRequest)
      (key : IdempotencyKey) (deviceId : DeviceId) (sessionId : SessionId) (now : Nat)
  | refreshMemberSession (request : RefreshSessionRequest) (key : IdempotencyKey) (now : Nat)
  | authenticateMember (raw : Bearer) (now : Nat)
  /-- The second transaction of a logout request. -/
  | logoutMember (member : AuthenticatedMember) (pathDeviceId : DeviceId) (now : Nat)
  | revokeMemberDevice (deviceId : DeviceId) (now : Nat) (published : Bool)
  | setAccountStatus (userId : UserId) (requested : Protocol.AccountStatus) (now : Nat)
      (published : Bool)
  | setAccountPassword (userId : UserId) (request : SetAccountPasswordRequest) (now : Nat)
      (published : Bool)
  | resetAccountSessions (userId : UserId) (now : Nat) (published : Bool)
  | issueAccountResetToken (userId : UserId) (request : IssueAccountResetTokenRequest)
      (key : IdempotencyKey) (id : Uuid) (now : Nat)
  | consumeAccountResetToken (request : ConsumeAccountResetTokenRequest) (key : IdempotencyKey)
      (now : Nat) (published : Option (List Nat))

namespace World

/-- Runs a call that answers with nothing to remember. -/
def run {α : Type} (w : World) (call : Fallible SessionStore SessionError α) : World :=
  { w with store := (call w.store).1 }

@[simp] theorem store_run {α : Type} (w : World) (call : Fallible SessionStore SessionError α) :
    (w.run call).store = (call w.store).1 := rfl

def answer {α : Type} (w : World) (call : Fallible SessionStore SessionError α)
    (exchange : α → Exchange) : World :=
  match call w.store with
  | (store, .ok response) =>
    { w with store, answered := exchange response :: w.answered }
  | (store, .error _) => { w with store }

def authenticate (w : World) (raw : Bearer) (now : Nat) : World :=
  match authenticateMember raw now w.store with
  | (store, .ok member) =>
    { w with store, authenticated := member :: w.authenticated }
  | (store, .error _) => { w with store }

end World

/-- The world after a call. Only a request that was authenticated logs out. -/
def step (w : World) : Label → Option World
  | .createAccount userId displayName now => some (w.run (createAccount userId displayName now))
  | .createDeviceActivation userId request origin key id now =>
    some (w.run (createDeviceActivation userId request origin key id now))
  | .consumeDeviceActivation origin request deviceId sessionId now =>
    some (w.answer (consumeDeviceActivation origin request deviceId sessionId now)
      (.activation origin request))
  | .createMemberSession origin request key deviceId sessionId now =>
    some (w.answer (createMemberSession origin request key deviceId sessionId now)
      (.login request key))
  | .refreshMemberSession request key now =>
    some (w.answer (refreshMemberSession request key now) (.refresh request key))
  | .authenticateMember raw now => some (w.authenticate raw now)
  | .logoutMember member pathDeviceId now =>
    if member ∈ w.authenticated then
      some (w.run (revokeMemberSession member pathDeviceId now))
    else none
  | .revokeMemberDevice deviceId now published =>
    some (w.run (revokeMemberDevice deviceId now published))
  | .setAccountStatus userId requested now published =>
    some (w.run (setAccountStatus userId requested now published))
  | .setAccountPassword userId request now published =>
    some (w.run (setAccountPassword userId request now published))
  | .resetAccountSessions userId now published =>
    some (w.run (resetAccountSessions userId now published))
  | .issueAccountResetToken userId request key id now =>
    some (w.run (issueAccountResetToken userId request key id now))
  | .consumeAccountResetToken request key now published =>
    some (w.run (consumeAccountResetToken request key now published))

/-- The tables of a network that has just been bootstrapped. -/
def emptyStore (network : NetworkId) : SessionStore :=
  { network, users := [], devices := [], sessions := [], activations := [], resetTokens := []
    logins := [], refreshes := [] }

def system : Machine World Label where
  init w := ∃ network, w = ⟨emptyStore network, [], []⟩
  next := step

end RealityConsole.MemberSessions
