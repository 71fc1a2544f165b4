import RealityConsole.RelayServer.Quota

/-!
# Active and configured routes

`configured_routes` says against which digests a node authenticates, `active_routes` holds the
runtimes. An update reconciles the monthly quotas, revokes the runtimes that change, starts the
missing ones, and replaces the configured map; an error ends it where it is.
-/

namespace RealityConsole.RelayServer

open Framework

/-- `RouteRuntime`: what is shared is known by its number. -/
structure RouteRuntime where
  number : Nat
  config : RouteConfig
  deriving DecidableEq, Repr

/-- The part of `ServerState` that updates change. -/
structure RelayState where
  /-- `configured_routes` -/
  configured : SortedMap String RouteConfig
  /-- `active_routes` -/
  active : SortedMap String RouteRuntime
  /-- The runtimes that have been revoked. -/
  revoked : List Nat
  /-- The number of the next runtime. -/
  nextRuntime : Nat
  /-- `quota_store` -/
  quota : Option QuotaProcess

def RouteConfig.isExpired (route : RouteConfig) (now : Nat) : Bool := route.expiresAt ≤ now

namespace RelayState

def revoke (s : RelayState) (routeId : String) : RelayState :=
  match s.active.lookup routeId with
  | none => s
  | some runtime =>
    { s with active := s.active.remove routeId, revoked := runtime.number :: s.revoked }

/-- `start_route` with a listener that could be bound. -/
def start (s : RelayState) (route : RouteConfig) : RelayState :=
  { s with
    active := s.active.store route.routeId ⟨s.nextRuntime, route⟩
    nextRuntime := s.nextRuntime + 1 }

/-- The error of a listener that cannot be bound. -/
def bindError : RelayError := "listener bind retry failed"

/-- One turn of the loop that starts the missing routes. -/
def consider (s : RelayState) (route : RouteConfig) (now : Nat) (binds : Bool) :
    RelayState × RelayResult Unit :=
  if !route.enabled || route.isExpired now then (s, .ok ())
  else if s.active.hasKey route.routeId then (s, .ok ())
  else if binds then (s.start route, .ok ())
  else (s, .error bindError)

/-- The active routes that are to be revoked: removed ones are among the changed ones. -/
def changedRoutes (s : RelayState) (next : SortedMap String RouteConfig) : List String :=
  (s.active.map Prod.fst).filter fun routeId =>
    (s.active.lookup routeId).any fun runtime => next.lookup routeId ≠ some runtime.config

end RelayState

def quotaRoutes (routes : List RouteConfig) : List String :=
  (routes.filter (·.monthlyByteLimit.isSome)).map (·.routeId)

def routeMap (routes : List RouteConfig) : SortedMap String RouteConfig :=
  SortedMap.collect (routes.map fun route => (route.routeId, route))

namespace RelayState

/-- The first part of `apply_routes`. -/
def reconcileQuota (s : RelayState) (routes : List RouteConfig) (now : Moment)
    (faults : List Fault) : RelayState × Except (Stop RelayError) Unit :=
  match s.quota with
  | some process =>
    let (t, result) := locked
      (fun status => reconcile status.state status.maxRecords (quotaRoutes routes) now)
      ⟨process, faults⟩
    ({ s with quota := some t.state }, result)
  | none =>
    if quotaRoutes routes = [] then (s, .ok ())
    else (s, .error (.error "finite monthly route limits require managed quota state"))

/-- What the environment decides during one update. -/
structure Choices where
  quotaNow : Moment
  quotaFaults : List Fault
  /-- The order in which the loop comes to the new routes. -/
  order : List RouteConfig
  /-- The time at which it comes to a route. -/
  clock : String → Nat
  /-- Whether the listener of a route can be bound. -/
  binds : String → Bool

def startRoutes (choices : Choices) (s : RelayState) :
    List RouteConfig → RelayState × RelayResult Unit
  | [] => (s, .ok ())
  | route :: routes =>
    match s.consider route (choices.clock route.routeId) (choices.binds route.routeId) with
    | (s, .error e) => (s, .error e)
    | (s, .ok ()) => s.startRoutes choices routes

def applyRoutes (s : RelayState) (routes : List RouteConfig) (choices : Choices) :
    RelayState × Except (Stop RelayError) Unit :=
  match s.reconcileQuota routes choices.quotaNow choices.quotaFaults with
  | (s, .error stop) => (s, .error stop)
  | (s, .ok ()) =>
    let next := routeMap routes
    let s := (s.changedRoutes next).foldl revoke s
    match s.startRoutes choices choices.order with
    | (s, .error e) => (s, .error (.error e))
    | (s, .ok ()) => ({ s with configured := next }, .ok ())

end RelayState

structure RelayState.Choices.Visits (choices : RelayState.Choices)
    (next : SortedMap String RouteConfig) : Prop where
  nodup : (choices.order.map (·.routeId)).Nodup
  mem_iff : ∀ route, route ∈ choices.order ↔ next.lookup route.routeId = some route

end RealityConsole.RelayServer
