import RealityConsole.RelayServer.RouteUpdates

/-!
# Node credentials and route updates

A node connection authenticates against `configured_routes`, looks up its runtime in `active_routes`
and registers its tunnel there, while updates change the two maps one after the other.
-/

namespace RealityConsole.RelayServer

open Framework

/-! ### Credentials -/

def hexValue (c : Char) : Option Nat :=
  if isDecimalDigit c then some (c.toNat - 48)
  else if 'a'.toNat ≤ c.toNat ∧ c.toNat ≤ 'f'.toNat then some (c.toNat - 87)
  else if 'A'.toNat ≤ c.toNat ∧ c.toNat ≤ 'F'.toNat then some (c.toNat - 55)
  else none

/-- `hex::decode` as the crate documents it: two digits of either case a byte, and an error for an
odd length or any other character. -/
def decodeHex : List Char → Option (List (BitVec 8))
  | [] => some []
  | [_] => none
  | high :: low :: rest => do
    let h ← hexValue high
    let l ← hexValue low
    let bytes ← decodeHex rest
    return BitVec.ofNat 8 (16 * h + l) :: bytes

/-- The SHA-256 digests of the token and of the client certificate that a node presents. -/
structure Credential where
  token : List (BitVec 8)
  certificate : List (BitVec 8)

namespace RouteConfig

def tokenMatches (route : RouteConfig) (candidate : List (BitVec 8)) : Bool :=
  decodeHex route.nodeTokenSha256.toList = some candidate

def certMatches (route : RouteConfig) (candidate : List (BitVec 8)) : Bool :=
  decodeHex route.nodeCertSha256.toList = some candidate

/-- Both digests match. -/
def accepts (route : RouteConfig) (credential : Credential) : Bool :=
  route.tokenMatches credential.token && route.certMatches credential.certificate

end RouteConfig

/-! ### The machine -/

/-- Where `handle_node_connection` stands. -/
inductive Connection where
  /-- The registration frame has been read. -/
  | presented (routeId : String) (credential : Credential)
  /-- The credential matches the configuration that was found. -/
  | authenticated (routeId : String) (credential : Credential) (config : RouteConfig)
  /-- The runtime has been looked up. -/
  | attached (credential : Credential) (runtime : RouteRuntime)

structure Tunnel where
  runtime : RouteRuntime
  credential : Credential

/-- Where `apply_routes` stands: what is still to be revoked and to be looked at. -/
structure Update where
  next : SortedMap String RouteConfig
  revoking : List String
  starting : List RouteConfig

/-- The relay, the update under way, the connections, and the tunnels registered so far. -/
structure RelayWorld where
  relay : RelayState
  update : Option Update
  connections : SortedMap Nat Connection
  tunnels : List Tunnel

inductive RelayLabel where
  | present (connection : Nat) (routeId : String) (credential : Credential)
  | authenticate (connection : Nat) (now : Nat)
  | lookUp (connection : Nat)
  /-- `register_tunnel` -/
  | register (connection : Nat)
  /-- `apply_routes` is called, with the orders of its loops. -/
  | beginUpdate (routes : List RouteConfig) (quotaNow : Moment) (quotaFaults : List Fault)
      (revoking : List String) (starting : List RouteConfig)
  /-- The next step of the update. -/
  | stepUpdate (now : Nat) (binds : Bool)

/-- The check of a credential; a refused connection ends. -/
def authenticated (relay : RelayState) (routeId : String) (credential : Credential) (now : Nat) :
    Option Connection :=
  match relay.configured.lookup routeId with
  | none => none
  | some config =>
    if !config.enabled then none
    else if config.isExpired now then none
    else if !config.accepts credential then none
    else some (.authenticated routeId credential config)

def RelayWorld.setConnection (w : RelayWorld) (connection : Nat) : Option Connection → RelayWorld
  | some state => { w with connections := w.connections.store connection state }
  | none => { w with connections := w.connections.remove connection }

def RelayWorld.advance (w : RelayWorld) (update : Update) (now : Nat) (binds : Bool) :
    RelayWorld :=
  match update.revoking with
  | routeId :: rest =>
    { w with relay := w.relay.revoke routeId, update := some { update with revoking := rest } }
  | [] =>
    match update.starting with
    | [] => { w with relay := { w.relay with configured := update.next }, update := none }
    | route :: rest =>
      match w.relay.consider route now binds with
      | (relay, .ok ()) =>
        { w with relay := relay, update := some { update with starting := rest } }
      -- the error leaves everything else as it is
      | (relay, .error _) => { w with relay := relay, update := none }

def RelayWorld.step (w : RelayWorld) : RelayLabel → Option RelayWorld
  | .present connection routeId credential =>
    if w.connections.hasKey connection then none
    else some (w.setConnection connection (some (.presented routeId credential)))
  | .authenticate connection now =>
    match w.connections.lookup connection with
    | some (.presented routeId credential) =>
      some (w.setConnection connection (authenticated w.relay routeId credential now))
    | _ => none
  | .lookUp connection =>
    match w.connections.lookup connection with
    | some (.authenticated routeId credential _) =>
      some (w.setConnection connection
        ((w.relay.active.lookup routeId).map fun runtime => .attached credential runtime))
    | _ => none
  | .register connection =>
    match w.connections.lookup connection with
    | some (.attached credential runtime) =>
      some { w.setConnection connection none with tunnels := ⟨runtime, credential⟩ :: w.tunnels }
    | _ => none
  | .beginUpdate routes quotaNow quotaFaults revoking starting =>
    -- `route_update` admits one update at a time
    if w.update.isSome then none
    else match w.relay.reconcileQuota routes quotaNow quotaFaults with
      | (relay, .error _) => some { w with relay := relay }
      | (relay, .ok ()) =>
        if revoking.Perm (relay.changedRoutes (routeMap routes)) ∧
            starting.Perm ((routeMap routes).map Prod.snd) then
          some { w with relay := relay, update := some ⟨routeMap routes, revoking, starting⟩ }
        else none
  | .stepUpdate now binds => w.update.map fun update => w.advance update now binds

/-- Runs start with a relay that has no routes yet. -/
def relaySystem : Machine RelayWorld RelayLabel where
  init w := ∃ quota, w = ⟨⟨[], [], [], 0, quota⟩, none, [], []⟩
  next := RelayWorld.step

/-! ### Updates as runs -/

variable {w w' : RelayWorld}

theorem steps_startRoutes (choices : RelayState.Choices) (next : SortedMap String RouteConfig)
    (routes : List RouteConfig) (w : RelayWorld) (hupd : w.update = some ⟨next, [], routes⟩) :
    relaySystem.Steps (fun _ _ => True) w { w with
        relay := match w.relay.startRoutes choices routes with
          | (relay, .ok ()) => { relay with configured := next }
          | (relay, .error _) => relay
        update := none } := by
  induction routes generalizing w with
  | nil =>
    refine .single ⟨.stepUpdate 0 true, trivial, ?_⟩
    show w.update.map _ = _
    rw [hupd]
    rfl
  | cons route routes ih =>
    have hnext : relaySystem.next w (.stepUpdate (choices.clock route.routeId)
        (choices.binds route.routeId)) = some (w.advance ⟨next, [], route :: routes⟩
          (choices.clock route.routeId) (choices.binds route.routeId)) := by
      show w.update.map _ = _
      rw [hupd]
      rfl
    unfold RelayWorld.advance at hnext
    unfold RelayState.startRoutes
    rcases hcons : w.relay.consider route (choices.clock route.routeId)
      (choices.binds route.routeId) with ⟨relay, e | ⟨⟩⟩
    · simp only [hcons] at hnext
      exact .single ⟨_, trivial, hnext⟩
    · simp only [hcons] at hnext
      exact .head ⟨_, trivial, hnext⟩ (ih _ rfl)

theorem steps_revoke (next : SortedMap String RouteConfig) (routes : List RouteConfig)
    (routeIds : List String) (w : RelayWorld) (hupd : w.update = some ⟨next, routeIds, routes⟩) :
    relaySystem.Steps (fun _ _ => True) w { w with
        relay := routeIds.foldl RelayState.revoke w.relay
        update := some ⟨next, [], routes⟩ } := by
  induction routeIds generalizing w with
  | nil =>
    rw [← hupd]
    exact .refl
  | cons routeId routeIds ih =>
    have hnext : relaySystem.next w (.stepUpdate 0 true)
        = some (w.advance ⟨next, routeId :: routeIds, routes⟩ 0 true) := by
      show w.update.map _ = _
      rw [hupd]
      rfl
    exact .head ⟨_, trivial, hnext⟩ (ih _ rfl)

/-- A call of `apply_routes` that nothing comes in between of is a run of the machine. -/
theorem steps_applyRoutes (routes : List RouteConfig) (choices : RelayState.Choices)
    (hupd : w.update = none) (horder : choices.order.Perm ((routeMap routes).map Prod.snd)) :
    relaySystem.Steps (fun _ _ => True) w
      { w with relay := (w.relay.applyRoutes routes choices).1 } := by
  unfold RelayState.applyRoutes
  rcases hqu : w.relay.reconcileQuota routes choices.quotaNow choices.quotaFaults with
    ⟨relay, stop | ⟨⟩⟩
  · refine .single ⟨.beginUpdate routes choices.quotaNow choices.quotaFaults [] [], trivial, ?_⟩
    simp only [relaySystem, RelayWorld.step, hupd, hqu, Option.isSome_none,
      Bool.false_eq_true, if_false]
  have hbegin : relaySystem.next w (.beginUpdate routes choices.quotaNow choices.quotaFaults
      (relay.changedRoutes (routeMap routes)) choices.order) = some { w with
          relay := relay
          update := some ⟨routeMap routes, relay.changedRoutes (routeMap routes),
            choices.order⟩ } := by
    simp only [relaySystem, RelayWorld.step, hupd, hqu, Option.isSome_none,
      Bool.false_eq_true, if_false, horder, List.Perm.refl, and_self, if_true]
  refine .head ⟨_, trivial, hbegin⟩ ?_
  refine (steps_revoke _ _ _ _ rfl).trans ?_
  refine (steps_startRoutes choices _ _ _ rfl).trans ?_
  dsimp only
  rw [← hupd]
  rcases RelayState.startRoutes choices _ _ with ⟨final, e | ⟨⟩⟩ <;>
    exact .refl

/-! ### Orderly runs -/

def RelayWorld.Agrees (w : RelayWorld) (routeId : String) : Prop :=
  (w.relay.active.lookup routeId).all fun runtime =>
    w.relay.configured.lookup routeId = some runtime.config

/-- A connection for the route is between its check and its lookup. -/
def RelayWorld.Pending (w : RelayWorld) (routeId : String) : Prop :=
  ∃ entry ∈ w.connections, match entry.2 with
    | .authenticated checked _ _ => checked = routeId
    | _ => False

/-- The route that the next step of the update looks at. -/
def Update.starts (update : Update) : Option String :=
  if update.revoking = [] then update.starting.head?.map (·.routeId) else none

/-- Connections authenticate while the maps agree on their route, which is not started between check
and lookup. -/
def Orderly (w : RelayWorld) : RelayLabel → Prop
  | .authenticate connection _ =>
    match w.connections.lookup connection with
    | some (.presented routeId _) => w.Agrees routeId
    | _ => True
  | .stepUpdate _ _ =>
    match w.update.bind Update.starts with
    | some routeId => ¬ w.Pending routeId
    | none => True
  | _ => True

instance (w : RelayWorld) (routeId : String) : Decidable (w.Agrees routeId) :=
  inferInstanceAs (Decidable (_ = true))

instance (w : RelayWorld) (routeId : String) : Decidable (w.Pending routeId) :=
  haveI : ∀ entry : Nat × Connection, Decidable (match entry.2 with
      | .authenticated checked _ _ => checked = routeId
      | _ => False) := fun entry => match entry.2 with
    | .authenticated checked _ _ => inferInstanceAs (Decidable (checked = routeId))
    | .presented _ _ => isFalse id
    | .attached _ _ => isFalse id
  inferInstanceAs (Decidable (∃ entry ∈ w.connections, _))

instance (w : RelayWorld) (l : RelayLabel) : Decidable (Orderly w l) := by
  unfold Orderly
  cases l <;> dsimp only <;> first | infer_instance | (split <;> infer_instance)

/-- Every tunnel was registered with the credential of its own runtime. -/
def Bound (w : RelayWorld) : Prop :=
  ∀ tunnel ∈ w.tunnels, tunnel.runtime.config.accepts tunnel.credential = true

instance (w : RelayWorld) : Decidable (Bound w) :=
  inferInstanceAs (Decidable (∀ tunnel ∈ w.tunnels, _))

def Connection.Sound (active : SortedMap String RouteRuntime) : Connection → Prop
  | .presented _ _ => True
  | .authenticated routeId credential config => config.accepts credential = true ∧
    ∀ runtime, active.lookup routeId = some runtime → runtime.config = config
  | .attached credential runtime => runtime.config.accepts credential = true

structure CredentialInv (w : RelayWorld) : Prop where
  connections : ∀ connection state, w.connections.lookup connection = some state →
    state.Sound w.relay.active
  bound : Bound w

theorem setConnection_lookup (w : RelayWorld) (connection other : Nat) (state : Option Connection) :
    (w.setConnection connection state).connections.lookup other
      = if other = connection then state else w.connections.lookup other := by
  cases state with
  | none => exact SortedMap.lookup_remove _ _ _
  | some state => exact SortedMap.lookup_store _ _ _ _

theorem setConnection_frame (w : RelayWorld) (connection : Nat) (state : Option Connection) :
    (w.setConnection connection state).relay = w.relay ∧
      (w.setConnection connection state).tunnels = w.tunnels := by cases state <;> exact ⟨rfl, rfl⟩

theorem CredentialInv.setConnection (hinv : CredentialInv w) (connection : Nat)
    (state : Option Connection) (hst : ∀ new ∈ state, new.Sound w.relay.active) :
    CredentialInv (w.setConnection connection state) := by
  obtain ⟨hrel, htunnels⟩ := setConnection_frame w connection state
  constructor
  · intro other new hnew
    rw [setConnection_lookup] at hnew
    rw [hrel]
    split at hnew
    · exact hst new hnew
    · exact hinv.connections other new hnew
  · unfold Bound
    rw [htunnels]
    exact hinv.bound

theorem authenticated_eq_some {relay : RelayState} {routeId : String} {cred : Credential}
    {now : Nat} {state : Connection} (h : authenticated relay routeId cred now = some state) :
    ∃ config, relay.configured.lookup routeId = some config ∧
      config.accepts cred ∧ state = .authenticated routeId cred config := by
  unfold authenticated at h
  cases hconfig : relay.configured.lookup routeId with
  | none =>
    rw [hconfig] at h
    cases h
  | some config =>
    simp only [hconfig] at h
    by_cases hmatch : config.accepts cred = true
    · refine ⟨config, rfl, hmatch, ?_⟩
      split at h
      · cases h
      split at h
      · cases h
      rw [hmatch] at h
      exact (Option.some.inj h).symm
    · rw [Bool.eq_false_iff.2 hmatch] at h
      simp only [Bool.not_false, if_true, ite_self] at h
      cases h

theorem advance_active {update : Update} {now : Nat} {binds : Bool} {routeId : String}
    {runtime : RouteRuntime}
    (h : (w.advance update now binds).relay.active.lookup routeId = some runtime) :
    w.relay.active.lookup routeId = some runtime ∨ update.starts = some routeId := by
  unfold RelayWorld.advance at h
  rcases update with ⟨next, _ | ⟨first, revoking⟩, starting⟩
  · rcases starting with _ | ⟨route, starting⟩
    · exact .inl h
    by_cases hrt : routeId = route.routeId
    · exact .inr (by rw [hrt]; rfl)
    left
    unfold RelayState.consider at h
    have hbeg : (w.relay.start route).active.lookup routeId = w.relay.active.lookup routeId :=
      (SortedMap.lookup_store _ _ _ _).trans (if_neg hrt)
    rw [← hbeg]
    by_cases hoff : (!route.enabled || route.isExpired now) = true
    · simp only [if_pos hoff] at h
      exact hbeg.trans h
    by_cases hthere : w.relay.active.hasKey route.routeId = true
    · simp only [if_neg hoff, if_pos hthere] at h
      exact hbeg.trans h
    cases binds
    · simp only [if_neg hoff, if_neg hthere, Bool.false_eq_true, if_false] at h
      exact hbeg.trans h
    · simp only [if_neg hoff, if_neg hthere, if_true] at h
      exact h
  · left
    replace h := (RelayState.lookup_foldl_revoke [first] w.relay routeId).symm.trans h
    split at h
    · cases h
    · exact h

theorem advance_frame (w : RelayWorld) (update : Update) (now : Nat) (binds : Bool) :
    (w.advance update now binds).connections = w.connections ∧
      (w.advance update now binds).tunnels = w.tunnels := by
  unfold RelayWorld.advance
  rcases update with ⟨next, _ | ⟨first, revoking⟩, _ | ⟨route, starting⟩⟩
  · exact ⟨rfl, rfl⟩
  · dsimp only
    split <;> exact ⟨rfl, rfl⟩
  · exact ⟨rfl, rfl⟩
  · exact ⟨rfl, rfl⟩

theorem CredentialInv.advance (hinv : CredentialInv w) (update : Update) (now : Nat) (binds : Bool)
    (hfree : ∀ routeId, update.starts = some routeId → ¬ w.Pending routeId) :
    CredentialInv (w.advance update now binds) := by
  obtain ⟨hconnections, htunnels⟩ := advance_frame w update now binds
  constructor
  · intro connection state hst
    rw [hconnections] at hst
    have hsound := hinv.connections connection state hst
    cases state with
    | presented => trivial
    | attached => exact hsound
    | authenticated routeId credential config =>
      refine ⟨hsound.1, fun runtime hruntime => ?_⟩
      rcases advance_active hruntime with hold | hstarts
      · exact hsound.2 runtime hold
      · exact absurd ⟨_, SortedMap.mem_of_lookup hst, rfl⟩ (hfree routeId hstarts)
  · unfold Bound
    rw [htunnels]
    exact hinv.bound

theorem reconcileQuota_active (s : RelayState) (routes : List RouteConfig) (now : Moment)
    (faults : List Fault) : (s.reconcileQuota routes now faults).1.active = s.active := by
  unfold RelayState.reconcileQuota
  split
  · rfl
  · split <;> rfl

theorem credentialInv_step (l : RelayLabel) (hinv : CredentialInv w) (hordl : Orderly w l)
    (hnext : relaySystem.next w l = some w') : CredentialInv w' := by
  replace hnext : w.step l = some w' := hnext
  cases l with
  | present connection routeId cred =>
    simp only [RelayWorld.step] at hnext
    split at hnext
    · cases hnext
    · cases hnext
      exact hinv.setConnection _ _ (by rintro _ ⟨⟩; trivial)
  | authenticate connection now =>
    simp only [RelayWorld.step] at hnext
    split at hnext
    · rename_i routeId cred hpresented
      cases hnext
      simp only [Orderly, hpresented] at hordl
      apply hinv.setConnection
      intro state hst
      obtain ⟨cfg, hconfig, hacc, rfl⟩ := authenticated_eq_some hst
      refine ⟨hacc, fun runtime hruntime => ?_⟩
      -- the maps agree now
      unfold RelayWorld.Agrees at hordl
      rw [hruntime, hconfig] at hordl
      exact (Option.some.inj (of_decide_eq_true hordl)).symm
    · cases hnext
  | lookUp connection =>
    simp only [RelayWorld.step] at hnext
    split at hnext
    · rename_i routeId cred cfg hchecked
      cases hnext
      apply hinv.setConnection
      intro state hst
      obtain ⟨runtime, hruntime, rfl⟩ := Option.map_eq_some_iff.1 hst
      obtain ⟨hacc, hsame⟩ := hinv.connections _ _ hchecked
      show runtime.config.accepts cred = true
      rw [hsame runtime hruntime]
      exact hacc
    · cases hnext
  | register connection =>
    simp only [RelayWorld.step] at hnext
    split at hnext
    · rename_i cred runtime hattached
      cases hnext
      have hend := hinv.setConnection connection none (by rintro _ ⟨⟩)
      refine ⟨hend.connections, ?_⟩
      rintro tunnel (_ | ⟨_, htunnel⟩)
      · exact hinv.connections _ _ hattached
      · exact hinv.bound tunnel htunnel
    · cases hnext
  | beginUpdate routes quotaNow quotaFaults revoking starting =>
    have hact := reconcileQuota_active w.relay routes quotaNow quotaFaults
    have hkeep : ∀ relay update, relay.active = w.relay.active →
        CredentialInv { w with relay := relay, update := update } := by
      intro relay update hsame
      refine ⟨fun connection state hst => ?_, hinv.bound⟩
      rw [hsame]
      exact hinv.connections connection state hst
    simp only [RelayWorld.step] at hnext
    split at hnext
    · cases hnext
    split at hnext
    · rename_i relay stop hqu
      rw [hqu] at hact
      cases hnext
      exact hkeep relay w.update hact
    rename_i relay hqu
    rw [hqu] at hact
    split at hnext
    · cases hnext
      exact hkeep relay _ hact
    · cases hnext
  | stepUpdate now binds =>
    obtain ⟨update, hupd, rfl⟩ := Option.map_eq_some_iff.1 hnext
    apply hinv.advance
    intro routeId hstarts
    simp only [Orderly, hupd, Option.bind_some, hstarts] at hordl
    exact hordl

/-- In orderly runs a tunnel is registered on a runtime only with the runtime's own credential. -/
theorem tunnels_bound_of_orderly (h : relaySystem.Run Orderly w) : Bound w := by
  have hinv : CredentialInv w := by
    refine h.invariant (I := CredentialInv) ?_ fun _ l _ => credentialInv_step l
    rintro _ ⟨quota, rfl⟩
    exact ⟨nofun, nofun⟩
  exact hinv.bound

/-! ### Rotating a token -/

/-- The state of a relay without managed routes at its start. -/
def idleRelay : RelayWorld := ⟨RelayState.initial, none, [], []⟩

/-- A credential of the sample routes: all bytes of each digest are the same. -/
def sampleCredential (token : BitVec 8) : Credential :=
  ⟨List.replicate 32 token, List.replicate 32 0x22⟩

def rotatedRoute : RouteConfig :=
  { RelayState.firstRoute with
    nodeTokenSha256 := "4444444444444444444444444444444444444444444444444444444444444444" }

def servingRelay : RelayWorld := { idleRelay with relay := RelayState.serving }

/-- An update rotates the token of the route that is served and adds a second one, whose port is
taken. -/
def failedRotation : RelayState × Except (Stop RelayError) Unit :=
  RelayState.serving.applyRoutes [rotatedRoute, RelayState.secondRoute]
    (RelayState.visiting [rotatedRoute, RelayState.secondRoute] [RelayState.secondRoute.routeId])

theorem failed_rotation_applied : failedRotation.2 = .error (.error RelayState.bindError) ∧
    relaySystem.Steps (fun _ _ => True) servingRelay
      { servingRelay with relay := failedRotation.1 } :=
  ⟨by decide +kernel, steps_applyRoutes _ _ rfl (by decide +kernel)⟩

def connecting (connection : Nat) (token : BitVec 8) : List RelayLabel :=
  [.present connection "route_0123456789abcdef" (sampleCredential token),
   .authenticate connection 1783800000, .lookUp connection, .register connection]

/-- The token is rotated between two connections. -/
theorem rotation_in_order : ∃ w, relaySystem.Run Orderly w ∧ w.tunnels.length = 2 ∧ Bound w := by
  obtain ⟨w, hrun, hlen⟩ := Machine.run_of_exec (M := relaySystem) Orderly
    (fun w => w.tunnels.length = 2)
    ([.beginUpdate [RelayState.firstRoute] ⟨0, 0⟩ [] [] [RelayState.firstRoute],
      .stepUpdate 1783800000 true, .stepUpdate 1783800000 true] ++ connecting 1 0x11 ++
     [.beginUpdate [rotatedRoute] ⟨0, 0⟩ [] ["route_0123456789abcdef"] [rotatedRoute],
      .stepUpdate 1783800000 true, .stepUpdate 1783800000 true, .stepUpdate 1783800000 true] ++
     connecting 2 0x44)
    (s := idleRelay) ⟨none, rfl⟩ (by decide +kernel)
  exact ⟨w, hrun, hlen, tunnels_bound_of_orderly hrun⟩

/-- An update rotates the token of the first route and adds a second one, whose port is taken. The
update fails, and then a node with the old token registers on the new runtime. -/
theorem old_token_registers : ∃ w, relaySystem.Reachable w ∧ ¬ Bound w :=
  Machine.run_of_exec (M := relaySystem) (fun _ _ => True) (fun w => ¬ Bound w)
    ([.beginUpdate [RelayState.firstRoute] ⟨0, 0⟩ [] [] [RelayState.firstRoute],
      .stepUpdate 1783800000 true, .stepUpdate 1783800000 true,
      .beginUpdate [rotatedRoute, RelayState.secondRoute] ⟨0, 0⟩ [] ["route_0123456789abcdef"]
        [rotatedRoute, RelayState.secondRoute],
      .stepUpdate 1783800000 true, .stepUpdate 1783800000 true, .stepUpdate 1783800000 false] ++
     connecting 1 0x11)
    (s := idleRelay) ⟨none, rfl⟩ (by decide +kernel)

end RealityConsole.RelayServer
