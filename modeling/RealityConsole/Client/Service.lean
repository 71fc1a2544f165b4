import RealityConsole.Client.Selection
import RealityConsole.Client.Supervisor
import RealityConsole.Framework.Fallible
import RealityConsole.Framework.Machine

/-!
# The account-first service of the client

Sessions, bundles, selection and the supervisor behind one lock, so that the
operations happen one after the other. The session and the controller are the
environment: what a fetch returns is an input of the operation.
-/

namespace RealityConsole.Client

open Framework Protocol

/-! ### State -/

structure ConnectInner where
  bundle : Option VerifiedBundle
  selector : Option NodeSelector
  mode : SelectionMode
  lastReason : Option SelectionReason

/-- `ConnectService` without session, vault and paths. -/
structure ConnectService where
  inner : ConnectInner
  supervisor : Supervisor

def ConnectService.new : ConnectService := ⟨⟨none, none, .automatic, none⟩, .new⟩

structure SafeNodeSnapshot where
  nodeId : NodeId
  displayName : String
  region : Option String
  endpointMode : EndpointMode
  priority : Nat

structure SafeBundleSnapshot where
  generation : Nat
  refreshAfter : Nat
  offlineExpiresAt : Nat
  nodes : List SafeNodeSnapshot

/-- `ConnectSnapshot` without the session. -/
structure ConnectSnapshot where
  bundle : Option SafeBundleSnapshot
  selectionMode : SelectionMode
  selectedNodeId : Option NodeId
  selectionReason : Option SelectionReason
  runtime : ClientState

def connectError (code : String) : ClientError :=
  ⟨code, "The account connection operation failed."⟩

abbrev Operation := Fallible ConnectService ClientError

def ConnectService.activeNode (c : ConnectService) : Option NodeId :=
  c.inner.selector.bind (·.active)

def ConnectService.profileOf (c : ConnectService) (node : NodeId) :
    Option ConnectionProfile :=
  c.inner.bundle.bind fun bundle => bundle.profiles.lookup node

def safeBundle (bundle : VerifiedBundle) : SafeBundleSnapshot :=
  let manifest := bundle.signed.manifest
  ⟨manifest.generation, manifest.refreshAfter, manifest.offlineExpiresAt,
    manifest.profiles.map fun p => ⟨p.nodeId, p.displayName, p.region, p.endpointMode, p.priority⟩⟩

def snapshotLocked : Operation ConnectSnapshot := fun c =>
  (c, .ok ⟨c.inner.bundle.map safeBundle, c.inner.mode, c.activeNode, c.inner.lastReason,
    c.supervisor.state⟩)

/-! ### Parts -/

def stopSupervisor (env : StopEnvironment) : Operation ClientState := fun c =>
  let result := c.supervisor.stop env
  ({ c with supervisor := result.1 }, result.2)

def startSupervisor (profileId : String) (profile : ConnectionProfile) (mode : ProxyMode)
    (env : StartEnvironment) : Operation ClientState := fun c =>
  let result := c.supervisor.start profileId profile mode env
  ({ c with supervisor := result.1 }, result.2)

def selectorFor (inner : ConnectInner) (manifest : ProfileBundleManifest) :
    Except ClientError NodeSelector :=
  match inner.selector with
  | some selector => selector.reconcileBundle manifest.selectionHints manifest.profiles
  | none => NodeSelector.new inner.mode manifest.selectionHints manifest.profiles

def activateVerified (bundle : VerifiedBundle) : Operation Unit := fun c =>
  match selectorFor c.inner bundle.signed.manifest with
  | .error error => (c, .error error)
  | .ok selector =>
    ({ c with inner := { c.inner with selector := some selector, bundle := some bundle } }, .ok ())

/-- `probe_nodes_locked`, with an outcome for every node. -/
def probeNodesLocked (probe : NodeId → ProbeOutcome) : Operation Unit := fun c =>
  match c.inner.bundle, c.inner.selector with
  | some bundle, some selector =>
    let outcomes := bundle.profiles.map fun entry => (entry.1, probe entry.1)
    ({ c with inner := { c.inner with selector := some (selector.observeAll outcomes) } }, .ok ())
  | _, _ => (c, .error (connectError "connect_bundle_missing"))

/-- The decision in `apply_selection`. -/
def decideSelection (now : Nat) : Operation SelectionDecision := fun c =>
  match c.inner.selector with
  | none => (c, .error (connectError "connect_bundle_missing"))
  | some selector =>
    let result := selector.select now
    ({ c with inner := { c.inner with
        selector := some result.1, lastReason := some result.2.reason } }, .ok result.2)

/-- What the supervisor meets while a selection is applied. -/
structure RuntimeEnvironment where
  stop : StopEnvironment
  start : StartEnvironment

def restart (node : NodeId) (mode : ProxyMode) (env : RuntimeEnvironment) : Operation Unit := do
  let _ ← stopSupervisor env.stop
  let c ← Fallible.read
  match c.profileOf node with
  | none => Fallible.fail (connectError "connect_profile_missing")
  | some profile => do
    let _ ← startSupervisor node.text profile mode env.start
    return ()

def applySelection (now : Nat) (mode : ProxyMode) (forceRestart stopWhenUnavailable : Bool)
    (env : RuntimeEnvironment) : Operation SelectionDecision := do
  let decision ← decideSelection now
  match decision.nodeId with
  | none =>
    if stopWhenUnavailable then do
      let _ ← stopSupervisor env.stop
      return decision
    else return decision
  | some node =>
    if decision.changed || forceRestart then do
      restart node mode env
      return decision
    else return decision

def stopIfBundleExpired (now : Nat) (env : StopEnvironment) : Operation Bool := do
  let c ← Fallible.read
  if c.inner.bundle.any fun bundle => bundle.signed.manifest.offlineExpiresAt ≤ now then do
    let _ ← stopSupervisor env
    return true
  else return false

def activeRecovery (runtime : ClientState) : Option (ProxyMode × Bool) :=
  if runtime.activeProfileId.isNone then none
  else
    match runtime.phase with
    | .connected => runtime.mode.map (·, false)
    | .failed => runtime.mode.map (·, true)
    | .disconnected | .starting | .stopping => none

def refreshRecovery (runtime : ClientState) (modified : Bool) : Option (ProxyMode × Bool) :=
  (activeRecovery runtime).bind fun recovery =>
    if modified || recovery.2 then some (recovery.1, true) else none

/-! ### Operations -/

/-- The inputs of `select_and_connect` and `maintain_connection`. -/
structure ConnectCall where
  wallNow : Nat
  monotonicNow : Nat
  proxyMode : ProxyMode
  probe : NodeId → ProbeOutcome
  env : RuntimeEnvironment

def selectAndConnect (call : ConnectCall) : Operation ConnectSnapshot := do
  let expired ← stopIfBundleExpired call.wallNow call.env.stop
  if expired then Fallible.fail (connectError "connect_bundle_offline_expired")
  else do
    probeNodesLocked call.probe
    let _ ← applySelection call.monotonicNow call.proxyMode false true call.env
    snapshotLocked

/-- `maintain_connection`; the mode is that of the runtime. -/
def maintainConnection (call : ConnectCall) : Operation ConnectSnapshot := do
  let expired ← stopIfBundleExpired call.wallNow call.env.stop
  if expired then Fallible.fail (connectError "connect_bundle_offline_expired")
  else do
    let c ← Fallible.read
    match activeRecovery c.supervisor.state with
    | none => snapshotLocked
    | some (mode, forceRestart) => do
      probeNodesLocked call.probe
      let _ ← applySelection call.monotonicNow mode forceRestart false call.env
      snapshotLocked

/-- What a fetch returns: nothing new, or a bundle that was verified and cached. -/
abbrev Fetched := Except ClientError (Option VerifiedBundle)

/-- `refresh_bundle_locked`: whether the bundle was replaced. -/
def refreshBundleLocked (fetched : Fetched) : Operation Bool := do
  let fetched ← Fallible.ofExcept fetched
  match fetched with
  | none => return false
  | some bundle => do
    activateVerified bundle
    return true

/-- The part of `refresh_bundle` after a fetch that succeeded. -/
def applyRefreshed (runtimeBefore : ClientState) (call : ConnectCall) (modified : Bool) :
    Operation ConnectSnapshot :=
  match refreshRecovery runtimeBefore modified with
  | none => snapshotLocked
  | some (mode, forceRestart) =>
    if modified then do
      probeNodesLocked call.probe
      let _ ← applySelection call.monotonicNow mode forceRestart true call.env
      snapshotLocked
    else do
      let _ ← applySelection call.monotonicNow mode forceRestart true call.env
      snapshotLocked

/-- The part of `refresh_bundle` after a fetch that failed. -/
def refuseRefresh (call : ConnectCall) (error : ClientError) : Operation ConnectSnapshot := do
  let _ ← stopIfBundleExpired call.wallNow call.env.stop
  Fallible.fail error

def refreshBundle (fetched : Fetched) (call : ConnectCall) : Operation ConnectSnapshot := fun c =>
  match refreshBundleLocked fetched c with
  | (c', .error error) => refuseRefresh call error c'
  | (c', .ok modified) => applyRefreshed c.supervisor.state call modified c'

def bootstrapBundle (fetched : Fetched) : Operation ConnectSnapshot := do
  let _ ← refreshBundleLocked fetched
  let snapshot ← snapshotLocked
  if snapshot.bundle.isNone then Fallible.fail (connectError "connect_bundle_missing")
  else return snapshot

/-- `restore`, with the newest bundle of the cache. -/
def restore (recovered : Fetched) : Operation ConnectSnapshot := do
  let _ ← refreshBundleLocked recovered
  snapshotLocked

def setSelectionMode (mode : SelectionMode) : Operation ConnectSnapshot := fun c =>
  match c.inner.selector.mapM fun selector => selector.setMode mode with
  | .error error => (c, .error error)
  | .ok selector => snapshotLocked { c with inner := { c.inner with selector, mode } }

def observeProbe (node : NodeId) (outcome : ProbeOutcome) : Operation Unit :=
  Fallible.change fun c => { c with inner := { c.inner with
    selector := c.inner.selector.map fun selector => selector.observe node outcome } }

def probeNodes (probe : NodeId → ProbeOutcome) : Operation ConnectSnapshot := do
  probeNodesLocked probe
  snapshotLocked

def stop (env : StopEnvironment) : Operation ConnectSnapshot := do
  let _ ← stopSupervisor env
  snapshotLocked

def forget : Operation Unit :=
  Fallible.change fun c => { c with inner := { c.inner with
    bundle := none, selector := none, lastReason := none } }

/-- What `logout` and `abort_setup` meet. -/
structure LogoutEnvironment where
  hasBinding : Bool
  stop : StopEnvironment
  /-- The controller confirms the logout. -/
  remote : Except ClientError Unit
  discard : Except ClientError Unit
  purge : Except ClientError Unit

def logout (env : LogoutEnvironment) : Operation ConnectSnapshot :=
  if env.hasBinding then do
    let _ ← stopSupervisor env.stop
    Fallible.ofExcept (if env.remote.isOk then .ok () else env.discard)
    Fallible.ofExcept env.purge
    forget
    let snapshot ← snapshotLocked
    if env.remote.isOk then return snapshot
    else Fallible.fail (connectError "connect_remote_logout_unconfirmed")
  else Fallible.fail (connectError "connect_session_missing")

def abortSetup (env : LogoutEnvironment) : Operation Unit := do
  let _ ← stopSupervisor env.stop
  Fallible.ofExcept (if env.hasBinding then env.purge else .ok ())
  Fallible.ofExcept env.discard
  forget

/-! ### Runs -/

inductive Label where
  | restore (recovered : Fetched)
  | refreshBundle (fetched : Fetched) (call : ConnectCall)
  | bootstrapBundle (fetched : Fetched)
  | setSelectionMode (mode : SelectionMode)
  | observeProbe (node : NodeId) (outcome : ProbeOutcome)
  | probeNodes (probe : NodeId → ProbeOutcome)
  | connect (call : ConnectCall)
  | maintain (call : ConnectCall)
  | stop (env : StopEnvironment)
  | logout (env : LogoutEnvironment)
  | abortSetup (env : LogoutEnvironment)
  /-- Xray exits while no operation waits for it. -/
  | xrayExit (restore : ProxyAnswer)

/-- One operation or one exit; an operation may fail. -/
def step (c : ConnectService) : Label → Option ConnectService
  | .restore recovered => some (restore recovered c).1
  | .refreshBundle fetched call => some (refreshBundle fetched call c).1
  | .bootstrapBundle fetched => some (bootstrapBundle fetched c).1
  | .setSelectionMode mode => some (setSelectionMode mode c).1
  | .observeProbe node outcome => some (observeProbe node outcome c).1
  | .probeNodes probe => some (probeNodes probe c).1
  | .connect call => some (selectAndConnect call c).1
  | .maintain call => some (maintainConnection call c).1
  | .stop env => some (stop env c).1
  | .logout env => some (logout env c).1
  | .abortSetup env => some (abortSetup env c).1
  | .xrayExit restore =>
    if c.supervisor.child.isSome then
      some { c with
        supervisor := c.supervisor.handleTermination c.supervisor.generation restore }
    else none

def system : Machine ConnectService Label where
  init c := c = .new
  next := step

end RealityConsole.Client
