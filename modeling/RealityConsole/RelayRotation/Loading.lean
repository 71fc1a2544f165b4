import Mathlib.Tactic.MkIffOfInductiveProp
import RealityConsole.RelayProvisioning.Effects
import RealityConsole.RelayServer.Registry

/-!
# Rotation of relay credentials

The controller issues, publishes and revokes grants for any number of nodes, and the relay loads the
published documents. In every run the documents are honestly signed, name the one route of their
node and differ in grant and generation. So two published documents break a loader rule exactly if
they belong to the same node, whose route has one endpoint.
-/

namespace RealityConsole.RelayRotation

open Framework Protocol Controller RelayServer
open RelayProvisioning (World Label system step initial step_effect)

/-! ### Properties -/

/-- The endpoint identity that a step draws. -/
def drawnEndpoint : Label → Option EndpointId
  | .prepare _ _ fresh _ => some fresh.endpointId
  | _ => none

def FreshEndpoint (w : World) (l : Label) : Prop :=
  ∀ endpoint ∈ drawnEndpoint l, ∀ r ∈ w.tables.routes, r.endpointId ≠ endpoint

instance (w : World) (l : Label) : Decidable (FreshEndpoint w l) :=
  inferInstanceAs (Decidable (∀ _ ∈ drawnEndpoint l, _))

/-- The relay is the one the grants are issued for, and its bounds hold for the published grants:
limits, exclusive ports and the number of routes. -/
@[mk_iff]
structure Serves (relay : RelayConfig) (managed : ManagedRoutesConfig)
    (config : RelayProvisioningConfig) (key : PublicKey) (t : RelayTables) : Prop where
  valid : relay.validate = .ok ()
  registry : relay.managedRoutes = some managed
  relayId : managed.relayId = config.relayId
  key : managed.controllerPublicKey = key
  portRange : managed.publicPortStart ≤ config.publicPortStart
    ∧ config.publicPortEnd ≤ managed.publicPortEnd
  ceilings : ∀ g ∈ t.published, g.route.header.limits.Within managed.ceilings
  window : ∀ g ∈ t.published, CoversWindow relay g.route
  ports : (t.published.map (·.publicPort)).Nodup
  staticPorts : ∀ r ∈ relay.routes, ∀ g ∈ t.published, r.publicListen.port ≠ g.publicPort
  /-- A fresh grant identity is not the name of a static route. -/
  staticIds : ∀ r ∈ relay.routes, ∀ g ∈ t.published, r.routeId ≠ g.grantId.text
  count : relay.routes.length + t.published.length ≤ relay.server.maxRoutes

instance (relay : RelayConfig) (managed : ManagedRoutesConfig) (config : RelayProvisioningConfig)
    (key : PublicKey) (t : RelayTables) : Decidable (Serves relay managed config key t) :=
  decidable_of_iff _ (serves_iff ..).symm

/-- Every published grant is within its lifetime. -/
def Live (t : RelayTables) (now : Nat) : Prop := ∀ g ∈ t.published, isActive now g.route = true

instance (t : RelayTables) (now : Nat) : Decidable (Live t now) := List.decidableBAll _ _

/-- The managed route directory with exactly the published documents. -/
def publishedFiles (codec : RouteCodec) (t : RelayTables) : List (RouteFile codec) :=
  (t.published.map (·.route)).map (fileOf codec)

/-- The relay accepts the published documents and serves one active route for each published grant,
next to its static routes. -/
def LoadsPublished (codec : RouteCodec) (relay : RelayConfig) (managed : ManagedRoutesConfig)
    (now : Nat) (t : RelayTables) : Prop :=
  ∃ routes fingerprint,
    loadEffectiveRoutes relay now (publishedFiles codec t)
      = .ok (relay.routes ++ routes, some fingerprint)
    ∧ routes.Perm (t.published.map fun g => routeOf managed g.route)

def SingleGeneration (t : RelayTables) : Prop := (t.published.map (·.nodeId)).Nodup

instance (t : RelayTables) : Decidable (SingleGeneration t) :=
  inferInstanceAs (Decidable (List.Nodup _))

variable {codec : RouteCodec} {config : RelayProvisioningConfig} {key : PublicKey}

/-! ### Invariant -/

structure Issued (config : RelayProvisioningConfig) (routes : List RelayRoute)
    (header : RelayAssignmentHeader) : Prop where
  relay : header.relayId = config.relayId
  port : config.publicPortStart ≤ header.publicPort ∧ header.publicPort ≤ config.publicPortEnd
  route : ⟨header.nodeId, header.routeId, header.endpointId⟩ ∈ routes

variable {header : RelayAssignmentHeader}

theorem Issued.mono {routes routes' : List RelayRoute} (h : Issued config routes header)
    (hsub : ∀ r ∈ routes, r ∈ routes') : Issued config routes' header :=
  ⟨h.relay, h.port, hsub _ h.route⟩

/-- A stored document is a valid, signed and bounded document about an issued header. -/
structure Document (codec : RouteCodec) (config : RelayProvisioningConfig) (key : PublicKey)
    (routes : List RelayRoute) (d : SignedRelayRoute) : Prop where
  issued : Issued config routes d.header
  signed : ∃ token certificate, d = SignedRelayRoute.sign key d.header token certificate
  valid : d.header.validate = .ok ()
  size : codec.size (codec.encode d) ≤ RelayTables.maxRouteDocumentBytes

/-- What holds of the controller in every reachable state. -/
structure Inv (codec : RouteCodec) (config : RelayProvisioningConfig) (key : PublicKey)
    (w : World) : Prop where
  node_route : ∀ r ∈ w.tables.routes, ∀ r' ∈ w.tables.routes, r.nodeId = r'.nodeId → r = r'
  endpoint_route : ∀ r ∈ w.tables.routes, ∀ r' ∈ w.tables.routes,
    r.endpointId = r'.endpointId → r = r'
  drafts : ∀ header ∈ w.drafts, Issued config w.tables.routes header
  documents : ∀ d ∈ w.tables.documents, Document codec config key w.tables.routes d
  grants : (w.tables.documents.map (·.header.grantId)).Nodup
  generations : (w.tables.documents.map fun d => (d.header.routeId, d.header.generation)).Nodup

theorem inv_initial (nid : NetworkId) (nodes : List RelayNode) :
    Inv codec config key (initial nid nodes) := by
  constructor <;> simp [initial, RelayTables.documents]

/-- A key that is unique stays so when an element with an unused key is added. -/
theorem unique_append {α β : Type} {l : List α} {f : α → β} {x : α}
    (h : ∀ a ∈ l, ∀ b ∈ l, f a = f b → a = b) (hx : ∀ a ∈ l, f a ≠ f x) :
    ∀ a ∈ l ++ [x], ∀ b ∈ l ++ [x], f a = f b → a = b := by
  intro a ha b hb heq
  rcases List.mem_append.1 ha with ha | ha
  · rcases List.mem_append.1 hb with hb | hb
    · exact h a ha b hb heq
    · exact absurd (heq.trans (congrArg f (List.mem_singleton.1 hb))) (hx a ha)
  · rcases List.mem_append.1 hb with hb | hb
    · exact absurd (heq.symm.trans (congrArg f (List.mem_singleton.1 ha))) (hx b hb)
    · rw [List.mem_singleton.1 ha, List.mem_singleton.1 hb]

theorem Inv.prepared {w w' : World} {fresh : FreshRelayIds}
    (h : Inv codec config key w) (hunus : ∀ r ∈ w.tables.routes, r.endpointId ≠ fresh.endpointId)
    (htab : RelayTables.Prepared config fresh w.tables header w'.tables)
    (hdrafts : w'.drafts = w.drafts ++ [header]) : Inv codec config key w' := by
  have hsub : ∀ r ∈ w.tables.routes, r ∈ w'.tables.routes := by
    intro r hr
    rcases htab.routes with hsame | ⟨hnew, -⟩
    · rwa [hsame]
    · rw [hnew]
      exact List.mem_append_left _ hr
  refine
    { node_route := ?_
      endpoint_route := ?_
      drafts := ?_
      documents := ?_
      grants := by rw [htab.documents]; exact h.grants
      generations := by rw [htab.documents]; exact h.generations }
  · rcases htab.routes with hsame | ⟨hnew, -, hnode, -⟩
    · rw [hsame]
      exact h.node_route
    · rw [hnew]
      exact unique_append h.node_route hnode
  · rcases htab.routes with hsame | ⟨hnew, hendp, -, -⟩
    · rw [hsame]
      exact h.endpoint_route
    rw [hnew]
    refine unique_append h.endpoint_route fun r hr => ?_
    rw [hendp]
    exact hunus r hr
  · intro header' hmem
    rw [hdrafts] at hmem
    rcases List.mem_append.1 hmem with hold | hnew
    · exact (h.drafts header' hold).mono hsub
    · rw [List.mem_singleton.1 hnew]
      exact ⟨htab.relay, htab.port, htab.route⟩
  · intro d hd
    rw [htab.documents] at hd
    have hold := h.documents d hd
    exact ⟨hold.issued.mono hsub, hold.signed, hold.valid, hold.size⟩

theorem Inv.stored {w w' : World} {token cert : BitVec 256}
    (h : Inv codec config key w) (hdraft : header ∈ w.drafts)
    (htab : RelayTables.Stored codec w.tables
      (SignedRelayRoute.sign key header token cert) w'.tables)
    (hdrafts : w'.drafts = w.drafts.erase header) : Inv codec config key w' := by
  have hiss := h.drafts header hdraft
  refine
    { node_route := by rw [htab.routes]; exact h.node_route
      endpoint_route := by rw [htab.routes]; exact h.endpoint_route
      drafts := ?_
      documents := ?_
      grants := ?_
      generations := ?_ }
  · intro header' hmem
    rw [hdrafts] at hmem
    rw [htab.routes]
    exact h.drafts header' (List.mem_of_mem_erase hmem)
  · intro d hd
    rw [htab.documents] at hd
    rw [htab.routes]
    rcases List.mem_append.1 hd with hold | hnew
    · exact h.documents d hold
    · rw [List.mem_singleton.1 hnew]
      exact ⟨hiss, ⟨token, cert, rfl⟩, htab.valid, htab.size⟩
  · rw [htab.documents, List.map_append, List.nodup_append_comm]
    refine List.nodup_cons.2 ⟨?_, h.grants⟩
    intro hmem
    obtain ⟨d, hd, heq⟩ := List.mem_map.1 hmem
    exact htab.fresh_grant d hd heq
  · rw [htab.documents, List.map_append, List.nodup_append_comm]
    refine List.nodup_cons.2 ⟨?_, h.generations⟩
    intro hmem
    obtain ⟨d, hd, heq⟩ := List.mem_map.1 hmem
    exact htab.fresh_generation d hd (congrArg Prod.fst heq) (congrArg Prod.snd heq)

theorem sameDocuments_of_grants {t t' : RelayTables} {change : RelayGrant → RelayGrant}
    (hroutes : t'.routes = t.routes) (hgrants : t'.grants = t.grants.map change)
    (hchange : ∀ g, (change g).route = g.route) : t.SameDocuments t' := by
  refine ⟨hroutes, ?_⟩
  rw [RelayTables.documents, hgrants, List.map_map]
  exact List.map_congr_left fun g _ => hchange g

theorem Inv.quiet {w w' : World} (h : Inv codec config key w)
    (htables : w.tables.SameDocuments w'.tables) (hdrafts : w'.drafts.Sublist w.drafts) :
    Inv codec config key w' := by
  obtain ⟨hroutes, hdocuments⟩ := htables
  exact
    { node_route := by rw [hroutes]; exact h.node_route
      endpoint_route := by rw [hroutes]; exact h.endpoint_route
      drafts := by rw [hroutes]; exact fun header hmem => h.drafts header (hdrafts.subset hmem)
      documents := by rw [hroutes, hdocuments]; exact h.documents
      grants := by rw [hdocuments]; exact h.grants
      generations := by rw [hdocuments]; exact h.generations }

theorem inv_step {w w' : World} {l : Label} (h : Inv codec config key w)
    (hfresh : FreshEndpoint w l)
    (hstep : step codec config key w l = some w') : Inv codec config key w' := by
  cases step_effect hstep with
  | withdrawn frame routes tables =>
    obtain ⟨selected, -, hgrants⟩ := tables
    refine h.quiet (sameDocuments_of_grants routes hgrants fun g => ?_) frame.drafts
    split <;> rfl
  | listed now files tables jobs removed drafts =>
    exact h.quiet (by rw [tables]; exact ⟨rfl, rfl⟩) (by rw [drafts])
  | prepared node limits fresh now header label =>
    subst label
    obtain ⟨-, hstep⟩ := Option.ite_none_right_eq_some.1 hstep
    obtain ⟨⟨tables, header⟩, hprep, rfl⟩ := Option.map_eq_some_iff.1 hstep
    exact h.prepared (hfresh _ rfl) (RelayTables.prepareRelayGrant_effect (toOption_some.1 hprep))
      rfl
  | stored header token certificate now files passes drafted tables grants drafts =>
    exact h.stored drafted tables drafts
  | acknowledged node request now current label files passes drafts tables =>
    refine h.quiet (sameDocuments_of_grants tables.routes tables.grants fun g => ?_)
      (by rw [drafts])
    split <;> rfl
  | performed index now io job jobs rounds done label pass run tables passes drafts =>
    exact h.quiet (by rw [tables]; exact ⟨rfl, rfl⟩) (by rw [drafts])
  | published grantId frame tables =>
    obtain ⟨now, hgrants⟩ := tables.grants
    refine h.quiet (sameDocuments_of_grants tables.routes hgrants fun g => ?_) frame.drafts
    split <;> rfl
  | revoked grantId now frame removed tables =>
    exact h.quiet (by rw [tables]; exact RelayTables.markRelayRevoked_sameDocuments _ _ _)
      frame.drafts

theorem inv_of_run {w : World} (h : (system codec config key).Run FreshEndpoint w) :
    Inv codec config key w := by
  refine h.invariant ?_ fun _ _ _ => inv_step
  rintro _ ⟨nid, nodes, rfl⟩
  exact inv_initial nid nodes

/-! ### Published documents -/

variable {relay : RelayConfig} {managed : ManagedRoutesConfig} {w : World} {now : Nat}

theorem published_sublist (t : RelayTables) : (t.published.map (·.route)).Sublist t.documents :=
  List.filter_sublist.map _

theorem Inv.document (h : Inv codec config key w) {g : RelayGrant} (hg : g ∈ w.tables.published) :
    Document codec config key w.tables.routes g.route :=
  h.documents _ ((published_sublist w.tables).subset (List.mem_map_of_mem hg))

/-- The published documents break no loader rule except, possibly, the one about endpoints. -/
theorem Inv.fits (h : Inv codec config key w) (hserv : Serves relay managed config key w.tables) :
    Fits codec relay managed (w.tables.published.map (·.route)) where
  valid := hserv.valid
  registry := hserv.registry
  count := by
    rw [List.length_map]
    exact hserv.count
  honest := by
    intro d hd
    obtain ⟨g, hg, rfl⟩ := List.mem_map.1 hd
    have hdoc := h.document hg
    obtain ⟨token, cert, hsigned⟩ := hdoc.signed
    have hlow := hserv.portRange.1
    have hhigh := hserv.portRange.2
    have hport := hdoc.issued.port
    refine
      { valid := hdoc.valid
        keyId := ?_
        signature := ?_
        size := hdoc.size
        relay := hdoc.issued.relay.trans hserv.relayId.symm
        port := ⟨by omega, by omega⟩
        limits := hserv.ceilings g hg }
    · rw [hsigned, SignedRelayRoute.signingKeyId_sign, hserv.key]
    · rw [hsigned, hserv.key, SignedRelayRoute.verify_sign]
  window := by
    intro d hd
    obtain ⟨g, hg, rfl⟩ := List.mem_map.1 hd
    exact hserv.window g hg
  grants := h.grants.sublist ((published_sublist w.tables).map _)
  generations := h.generations.sublist ((published_sublist w.tables).map _)
  ports := by
    have hports := hserv.ports
    rwa [List.map_map]
  staticPorts := by
    intro r hr d hd
    obtain ⟨g, hg, rfl⟩ := List.mem_map.1 hd
    exact hserv.staticPorts r hr g hg
  staticIds := by
    intro r hr d hd
    obtain ⟨g, hg, rfl⟩ := List.mem_map.1 hd
    exact hserv.staticIds r hr g hg

theorem Inv.endpoint_eq_iff (h : Inv codec config key w) {a b : RelayAssignmentHeader}
    (ha : Issued config w.tables.routes a) (hb : Issued config w.tables.routes b) :
    a.endpointId = b.endpointId ↔ a.nodeId = b.nodeId := by
  constructor
  · intro hendp
    exact congrArg RelayRoute.nodeId (h.endpoint_route _ ha.route _ hb.route hendp)
  · intro hnode
    exact congrArg RelayRoute.endpointId (h.node_route _ ha.route _ hb.route hnode)

theorem Inv.endpoints_nodup_iff (h : Inv codec config key w) :
    ((w.tables.published.map (·.route)).map (·.header.endpointId)).Nodup
      ↔ SingleGeneration w.tables := by
  have hiss : ∀ g ∈ w.tables.published, Issued config w.tables.routes g.route.header :=
    fun g hg => (h.document hg).issued
  unfold SingleGeneration List.Nodup
  rw [List.map_map, List.pairwise_map, List.pairwise_map]
  refine List.Pairwise.iff_of_mem fun {a b} ha hb => ?_
  exact not_congr (h.endpoint_eq_iff (hiss a ha) (hiss b hb))

/-- In every run the relay loads the published documents, with one route for each published grant,
exactly if no node has two of them: two generations of one node are never served together. -/
theorem published_routes_load_iff {w : World}
    (hrun : (system codec config key).Run FreshEndpoint w)
    (hserves : Serves relay managed config key w.tables) (hlive : Live w.tables now) :
    LoadsPublished codec relay managed now w.tables ↔ SingleGeneration w.tables := by
  have hinv := inv_of_run hrun
  have hfits := hinv.fits hserves
  have hactive : ∀ d ∈ w.tables.published.map (·.route), isActive now d = true := by
    intro d hd
    obtain ⟨g, hg, rfl⟩ := List.mem_map.1 hd
    exact hlive g hg
  rw [← hinv.endpoints_nodup_iff]
  constructor
  · rintro ⟨routes, fingerprint, hload, -⟩
    exact hfits.endpoints_nodup hactive hload
  · intro hnd
    obtain ⟨fingerprint, hload⟩ := hfits.loadEffectiveRoutes_ok hactive hnd
    refine ⟨_, fingerprint, hload, ?_⟩
    have hperm := (byFileName_perm codec (w.tables.published.map (·.route))).map (routeOf managed)
    rwa [List.map_map] at hperm

/-! ### A rotation -/

/-- Documents stand for their own JSON texts. -/
def plainCodec : RouteCodec where
  Bytes := SignedRelayRoute
  size _ := 1
  encode route := route
  decode := some
  decode_encode _ := rfl
  size_encode_pos _ := Nat.one_pos

def sampleLimits : RelayLimits := ⟨16, 2500000, 10737418240, 107374182400⟩

/-- The controller's side of a relay with two public ports for each of two nodes. -/
def sampleConfig : RelayProvisioningConfig where
  relayId := 1
  publicHost := "relay.example"
  tunnelHost := "tunnel.example"
  tunnelPort := 7443
  tlsServerName := "tunnel.example"
  publicPortStart := 20000
  publicPortEnd := 20003
  limits := sampleLimits

def sampleManaged : ManagedRoutesConfig where
  relayId := 1
  managedRoutesDirectory := "routes"
  quotaStateDirectory := "quota"
  controllerPublicKey := 7
  publicListenIp := .v4 0xCB007107
  publicPortStart := 20000
  publicPortEnd := 20003
  ceilings := sampleLimits

/-- The relay with its default bounds and no static route. -/
def sampleRelay : RelayConfig where
  server :=
    { nodeListen := ⟨.v4 0xCB007107, 7443⟩
      metricsListen := ⟨.v4 0x7F000001, 9090⟩
      maxFrameBytes := 65536
      commandQueueFrames := 256
      streamBufferFrames := 16
      initialWindowBytes := 262144
      openTimeoutSecs := 10
      noPayloadTimeoutSecs := 120
      idleTimeoutSecs := 1800
      heartbeatIntervalSecs := 15
      heartbeatTimeoutSecs := 45
      reloadIntervalSecs := 2
      maxRoutes := 1024
      maxNodeConnections := 1024 }
  managedRoutes := some sampleManaged
  routes := []

def sampleStart : World := initial 1 [⟨1, .active, true, true⟩, ⟨2, .active, true, true⟩]

def sampleHeader (node route generation grantId port issuedAt : Nat) : RelayAssignmentHeader where
  schemaVersion := 1
  networkId := 1
  nodeId := node
  relayId := 1
  routeId := route
  grantId := BitVec.ofNat 128 grantId
  generation := generation
  endpointId := route
  publicHost := "relay.example"
  publicPort := port
  tunnelHost := "tunnel.example"
  tunnelPort := 7443
  tlsServerName := "tunnel.example"
  issuedAt := issuedAt
  notBefore := issuedAt
  expiresAt := issuedAt + 86400
  limits := sampleLimits

/-- A node asks for an assignment and a grant is stored. The fresh identities are numbered like the
grant. -/
def issue (node route generation grantId port now : Nat) : List Label :=
  [.ensure node sampleLimits now now,
    .prepare node sampleLimits ⟨grantId, grantId, BitVec.ofNat 128 grantId⟩ now,
    .store (sampleHeader node route generation grantId port now) 1 2 now]

/-- A call of `reconcile` starts, as the call with this number, and lists its jobs. -/
def startPass (index now : Nat) : List Label :=
  [.begin, .advance index now .success, .advance index now .success]

/-- One grant for each of the two nodes: the relay serves both. -/
theorem published_routes_load_two_nodes :
    ∃ w, (system plainCodec sampleConfig 7).Run FreshEndpoint w
      ∧ LoadsPublished plainCodec sampleRelay sampleManaged 2000 w.tables
      ∧ w.tables.published.length = 2 := by
  obtain ⟨w, hrun, hserves, hlive, hsingle, hlen⟩ :=
    Machine.run_of_exec (M := system plainCodec sampleConfig 7) (s := sampleStart)
      FreshEndpoint
      (fun w => Serves sampleRelay sampleManaged sampleConfig 7 w.tables ∧ Live w.tables 2000
        ∧ SingleGeneration w.tables ∧ w.tables.published.length = 2)
      (issue 1 11 1 11 20000 1000 ++ issue 2 21 1 21 20001 1000 ++ startPass 0 1000
        ++ List.replicate 4 (.advance 0 1000 .success))
      ⟨_, _, rfl⟩ (by decide +kernel)
  exact ⟨w, hrun, (published_routes_load_iff hrun hserves hlive).mpr hsingle, hlen⟩

/-- Node 1 renews its grant inside the renewal window. While both of its generations are published
the relay refuses the whole directory, with the grant of node 2 in it. -/
theorem rotation_refused :
    ∃ w, (system plainCodec sampleConfig 7).Run FreshEndpoint w
      ∧ Serves sampleRelay sampleManaged sampleConfig 7 w.tables ∧ Live w.tables 84000
      ∧ ¬LoadsPublished plainCodec sampleRelay sampleManaged 84000 w.tables := by
  obtain ⟨w, hrun, hserves, hlive, hrefused⟩ :=
    Machine.run_of_exec (M := system plainCodec sampleConfig 7) (s := sampleStart)
      FreshEndpoint
      (fun w => Serves sampleRelay sampleManaged sampleConfig 7 w.tables ∧ Live w.tables 84000
        ∧ (loadEffectiveRoutes sampleRelay 84000
          (publishedFiles plainCodec w.tables)).toOption.isNone)
      (issue 1 11 1 11 20000 1000 ++ issue 2 21 1 21 20001 2000 ++ startPass 0 2000
        ++ List.replicate 5 (.advance 0 2000 .success) ++ issue 1 11 2 12 20002 84000
        ++ startPass 0 84000 ++ List.replicate 2 (.advance 0 84000 .success))
      ⟨_, _, rfl⟩ (by decide +kernel)
  refine ⟨w, hrun, hserves, hlive, ?_⟩
  rintro ⟨routes, fingerprint, hload, -⟩
  rw [hload] at hrefused
  exact absurd hrefused (by simp [Except.toOption])

end RealityConsole.RelayRotation
