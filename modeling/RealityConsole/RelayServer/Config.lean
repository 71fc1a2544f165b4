import RealityConsole.Protocol.Relay

/-!
# Relay configuration

The static configuration of the relay service, the routes it serves and the
checks that every set of routes passes before it replaces the current one.
Certificate paths and frame sizes that no check of routes reads are left out.
-/

namespace RealityConsole.RelayServer

open Framework Protocol

/-- The text of a configuration error. -/
abbrev RelayError := String

abbrev RelayResult := Except RelayError

structure RouteConfig where
  routeId : String
  publicListen : SocketAddr
  nodeTokenSha256 : String
  nodeCertSha256 : String
  expiresAt : Nat
  enabled : Bool
  maxConcurrentStreams : Nat
  maxBytesPerSecond : Nat
  maxBytesPerConnection : Nat
  /-- Managed routes always have a monthly limit. -/
  monthlyByteLimit : Option Nat
  deriving DecidableEq, Repr

/-- `ManagedRoutesConfig`: whom the relay takes routes from, and its ceilings. -/
structure ManagedRoutesConfig where
  relayId : RelayId
  managedRoutesDirectory : String
  quotaStateDirectory : String
  controllerPublicKey : PublicKey
  publicListenIp : IpAddr
  publicPortStart : Nat
  publicPortEnd : Nat
  ceilings : RelayLimits
  deriving DecidableEq, Repr

structure ServerConfig where
  nodeListen : SocketAddr
  metricsListen : SocketAddr
  maxFrameBytes : Nat
  commandQueueFrames : Nat
  streamBufferFrames : Nat
  initialWindowBytes : Nat
  openTimeoutSecs : Nat
  noPayloadTimeoutSecs : Nat
  idleTimeoutSecs : Nat
  heartbeatIntervalSecs : Nat
  heartbeatTimeoutSecs : Nat
  reloadIntervalSecs : Nat
  maxRoutes : Nat
  maxNodeConnections : Nat
  deriving DecidableEq, Repr

structure RelayConfig where
  server : ServerConfig
  managedRoutes : Option ManagedRoutesConfig
  routes : List RouteConfig

/-! ### Routes -/

def validateRouteId (routeId : String) : RelayResult Unit :=
  refuseWhen
    (¬(16 ≤ routeId.utf8ByteSize ∧ routeId.utf8ByteSize ≤ 128)
      ∨ ¬routeId.toList.all fun c => isAlphanumeric c || c = '_' || c = '-')
    "route_id must be 16-128 ASCII URL-safe characters"

def validateDigest (name value : String) : RelayResult Unit :=
  refuseWhen (value.utf8ByteSize ≠ 64 ∨ ¬value.toList.all isHexDigit)
    (name ++ " must be a 32-byte lowercase or uppercase hexadecimal digest")

namespace RelayConfig

variable (config : RelayConfig)

/-- The checks of `validate_routes` that concern one route alone. -/
def validateRoute (route : RouteConfig) : RelayResult Unit := do
  validateRouteId route.routeId
  validateDigest "node_token_sha256" route.nodeTokenSha256
  validateDigest "node_cert_sha256" route.nodeCertSha256

def validateListener (route : RouteConfig) : RelayResult Unit :=
  refuseWhen (route.publicListen.port ≠ 0
      ∧ (route.publicListen = config.server.nodeListen
        ∨ route.publicListen = config.server.metricsListen))
    "public listener conflicts with a service listener"

/-- The limits of the route cover one flow-control window. -/
def validateRouteLimits (route : RouteConfig) : RelayResult Unit :=
  refuseWhen (route.maxConcurrentStreams = 0
      ∨ route.maxBytesPerSecond < config.server.initialWindowBytes
      ∨ route.maxBytesPerConnection < config.server.initialWindowBytes
      ∨ route.monthlyByteLimit.any (· < config.server.initialWindowBytes))
    "route limits must be non-zero and at least initial_window_bytes"

/-- The loop of `validate_routes`, with the identities and addresses seen so far. -/
def validateRoutesFrom : List String → List SocketAddr → List RouteConfig → RelayResult Unit
  | _, _, [] => .ok ()
  | routeIds, publicAddresses, route :: routes => do
    validateRoute route
    refuseWhen (route.routeId ∈ routeIds) "duplicate route_id"
    refuseWhen (route.publicListen ∈ publicAddresses) "duplicate public_listen"
    config.validateListener route
    config.validateRouteLimits route
    validateRoutesFrom (route.routeId :: routeIds) (route.publicListen :: publicAddresses) routes

def validateRoutes (routes : List RouteConfig) : RelayResult Unit := do
  refuseWhen (config.server.maxRoutes < routes.length) "route count exceeds max_routes"
  config.validateRoutesFrom [] [] routes

def validateServiceAddress (managed : ManagedRoutesConfig) (address : SocketAddr) :
    RelayResult Unit :=
  refuseWhen (address.ip = managed.publicListenIp
      ∧ managed.publicPortStart ≤ address.port ∧ address.port ≤ managed.publicPortEnd)
    "managed public port range conflicts with a service listener"

/-- The checks of `validate` for managed routes. -/
def validateManaged : RelayResult Unit :=
  match config.managedRoutes with
  | none => .ok ()
  | some managed => do
    refuseWhen (8192 < config.server.maxRoutes) "managed max_routes must not exceed 8192"
    refuseWhen (managed.publicPortStart = 0 ∨ managed.publicPortEnd < managed.publicPortStart
        ∨ managed.ceilings.maxConcurrentStreams = 0
        ∨ managed.ceilings.maxBytesPerSecond < config.server.initialWindowBytes
        ∨ managed.ceilings.maxBytesPerConnection < config.server.initialWindowBytes
        ∨ managed.ceilings.monthlyByteLimit < config.server.initialWindowBytes)
      "managed route bounds are inconsistent"
    refuseWhen (managed.managedRoutesDirectory = managed.quotaStateDirectory)
      "managed route registry and quota state directories must be distinct"
    validateServiceAddress managed config.server.nodeListen
    validateServiceAddress managed config.server.metricsListen

def validate : RelayResult Unit := do
  let server := config.server
  refuseWhen (server.maxRoutes < config.routes.length) "route count exceeds max_routes"
  refuseWhen (¬(1024 ≤ server.maxFrameBytes ∧ server.maxFrameBytes ≤ 1048576))
    "max_frame_bytes must be between 1024 and 1048576"
  refuseWhen (server.commandQueueFrames = 0 ∨ server.streamBufferFrames = 0)
    "frame queue capacities must be non-zero"
  refuseWhen (server.initialWindowBytes = 0 ∨ server.initialWindowBytes < server.maxFrameBytes)
    "initial_window_bytes must fit at least one maximum frame"
  refuseWhen (server.openTimeoutSecs = 0 ∨ server.noPayloadTimeoutSecs = 0
      ∨ server.idleTimeoutSecs < server.noPayloadTimeoutSecs
      ∨ server.heartbeatIntervalSecs = 0
      ∨ server.heartbeatTimeoutSecs ≤ server.heartbeatIntervalSecs
      ∨ server.reloadIntervalSecs = 0 ∨ server.maxRoutes = 0 ∨ server.maxNodeConnections = 0)
    "timeouts, reload interval, and max_routes are inconsistent"
  refuseWhen (¬server.metricsListen.ip.isLoopback) "metrics_listen must use a loopback address"
  config.validateManaged
  refuseWhen (config.managedRoutes.isNone ∧ config.routes.any (·.monthlyByteLimit.isSome))
    "finite monthly route limits require managed quota state"
  config.validateRoutes config.routes

/-! ### What the checks accept -/

variable {config}

/-- A route that passes every check about itself. -/
structure Accepts (config : RelayConfig) (route : RouteConfig) : Prop where
  texts : validateRoute route = .ok ()
  listener : config.validateListener route = .ok ()
  limits : config.validateRouteLimits route = .ok ()

theorem validateRoutesFrom_ok {routeIds : List String} {addresses : List SocketAddr}
    {routes : List RouteConfig} : config.validateRoutesFrom routeIds addresses routes = .ok () ↔
      (∀ r ∈ routes, config.Accepts r) ∧ Unseen routeIds (routes.map (·.routeId))
        ∧ Unseen addresses (routes.map (·.publicListen)) := by
  induction routes generalizing routeIds addresses with
  | nil => simp [validateRoutesFrom]
  | cons route routes ih =>
    -- the head is checked against what was seen, the tail against that and the head
    simp only [validateRoutesFrom, check_ok, refuse_ok, ih, List.map_cons, unseen_cons,
      List.mem_cons, forall_eq_or_imp]
    constructor
    · rintro ⟨htexts, hid, haddr, hlistener, hlimits, hall, hids, hads⟩
      exact ⟨⟨⟨htexts, hlistener, hlimits⟩, hall⟩, ⟨hid, hids⟩, haddr, hads⟩
    · rintro ⟨⟨hrt, hall⟩, ⟨hid, hids⟩, haddr, hads⟩
      exact ⟨hrt.texts, hid, haddr, hrt.listener, hrt.limits, hall, hids, hads⟩

theorem validateRoutes_ok {routes : List RouteConfig} : config.validateRoutes routes = .ok () ↔
      routes.length ≤ config.server.maxRoutes ∧ (∀ r ∈ routes, config.Accepts r)
        ∧ (routes.map (·.routeId)).Nodup ∧ (routes.map (·.publicListen)).Nodup := by
  simp [validateRoutes, check_ok, validateRoutesFrom_ok]

theorem validateRoutes_of_validate (h : config.validate = .ok ()) :
    config.validateRoutes config.routes = .ok () := by
  simp only [validate, check_ok] at h
  exact h.2.2.2.2.2.2.2.2

theorem service_ports_of_validate {managed : ManagedRoutesConfig} (h : config.validate = .ok ())
    (hman : config.managedRoutes = some managed) :
    ∀ address ∈ [config.server.nodeListen, config.server.metricsListen],
      ¬(address.ip = managed.publicListenIp
        ∧ managed.publicPortStart ≤ address.port ∧ address.port ≤ managed.publicPortEnd) := by
  simp only [validate, check_ok, validateManaged, hman] at h
  obtain ⟨-, -, -, -, -, -, ⟨-, -, -, hnode, hmetrics⟩, -, -⟩ := h
  intro address haddr
  simp only [List.mem_cons, List.not_mem_nil, or_false] at haddr
  rcases haddr with rfl | rfl
  · exact refuse_ok.1 hnode
  · exact refuse_ok.1 hmetrics

end RelayConfig

end RealityConsole.RelayServer
