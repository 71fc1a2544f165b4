import RealityConsole.NodeHost.ProviderPolicy
import RealityConsole.RelayRotation.Loading

/-!
# Limits from the provider to the relay

The node host derives limits from the provider's policy, the controller intersects them with the
operator's, and the relay checks them against its ceilings and its window, which only it knows.
-/

namespace RealityConsole.RelayProvisioning

open Framework Protocol Controller NodeHost RelayServer

/-- The relay belongs to the controller's profile, and its ceilings are not below the operator's
limits. -/
structure Deployed (config : RelayProvisioningConfig) (relay : RelayConfig)
    (managed : ManagedRoutesConfig) : Prop where
  profile : config.isValid = true
  valid : relay.validate = .ok ()
  registry : relay.managedRoutes = some managed
  relayId : managed.relayId = config.relayId
  portRange : managed.publicPortStart ≤ config.publicPortStart
    ∧ config.publicPortEnd ≤ managed.publicPortEnd
  ceilings : config.limits.Within managed.ceilings

def Issued (config : RelayProvisioningConfig) (key : PublicKey) (requested : RelayLimits)
    (d : SignedRelayRoute) : Prop :=
  ∃ (t t' : RelayTables) (node : NodeId) (fresh : FreshRelayIds) (now : Nat)
    (header : RelayAssignmentHeader) (token certificate : BitVec 256),
    t.prepareRelayGrant config node (lowerLimits config.limits requested) fresh now
      = .ok (t', header) ∧ d = SignedRelayRoute.sign key header token certificate

/-- The document becomes a route, which the relay accepts among any others with their own names and
listeners. -/
def RouteFits (relay : RelayConfig) (managed : ManagedRoutesConfig) (d : SignedRelayRoute) :
    Prop :=
  ∃ route, convertRoute managed d = .ok route ∧ ∀ before after,
    relay.validateRoutes (before ++ after) = .ok () →
    (before ++ after).length < relay.server.maxRoutes →
    (∀ other ∈ before ++ after,
      other.routeId ≠ route.routeId ∧ other.publicListen ≠ route.publicListen) →
    relay.validateRoutes (before ++ route :: after) = .ok ()

def WindowCovered (policy : ProviderPolicy) (config : RelayProvisioningConfig)
    (relay : RelayConfig) : Prop :=
  let window := relay.server.initialWindowBytes
  window ≤ config.limits.maxBytesPerSecond ∧ window ≤ config.limits.maxBytesPerConnection ∧
    window ≤ config.limits.monthlyByteLimit ∧
    (∀ bits ∈ policy.bandwidthLimitBps, window ≤ 1024 ∨ 8 * (window - 1) < bits) ∧
    ∀ cap ∈ policy.monthlyTransferCapBytes, window ≤ cap

instance (policy : ProviderPolicy) (config : RelayProvisioningConfig) (relay : RelayConfig) :
    Decidable (WindowCovered policy config relay) :=
  inferInstanceAs (Decidable (_ ∧ _))

structure IssuedFields (config : RelayProvisioningConfig) (requested : RelayLimits)
    (d : SignedRelayRoute) : Prop where
  relayId : d.header.relayId = config.relayId
  port : config.publicPortStart ≤ d.header.publicPort ∧ d.header.publicPort ≤ config.publicPortEnd
  limits : d.header.limits = lowerLimits config.limits requested
  streams : 0 < d.header.limits.maxConcurrentStreams

variable {config : RelayProvisioningConfig} {key : PublicKey} {requested : RelayLimits}
  {relay : RelayConfig} {managed : ManagedRoutesConfig} {d : SignedRelayRoute}

theorem Issued.fields (h : Issued config key requested d) : IssuedFields config requested d := by
  obtain ⟨t, t', node, fresh, now, hdr, token, cert, hprep, rfl⟩ := h
  have hprepared := RelayTables.prepareRelayGrant_effect hprep
  obtain ⟨_, hprep⟩ := rest_ok hprep
  obtain ⟨_, hprep⟩ := rest_ok hprep
  obtain ⟨_, hprep⟩ := rest_ok hprep
  obtain ⟨_, hprep⟩ := rest_ok hprep
  obtain ⟨_, hval, hprep⟩ := bind_ok.1 hprep
  cases hprep
  refine ⟨rfl, hprepared.port, rfl, ?_⟩
  exact RelayLimits.streams_pos_of_validate
    (RelayAssignmentHeader.limits_of_validate (mapError_ok.1 hval))

theorem lowerLimits_within (operator provider : RelayLimits) :
    (lowerLimits operator provider).Within operator :=
  ⟨Nat.min_le_left _ _, Nat.min_le_left _ _, Nat.min_le_left _ _, Nat.min_le_left _ _⟩

theorem IssuedFields.convertRoute (h : IssuedFields config requested d)
    (hdep : Deployed config relay managed) : convertRoute managed d = .ok (routeOf managed d) := by
  simp only [RelayServer.convertRoute, check_ok, refuse_ok, not_not]
  refine ⟨h.relayId.trans hdep.relayId.symm, ?_, ?_, rfl⟩
  · exact ⟨hdep.portRange.1.trans h.port.1, h.port.2.trans hdep.portRange.2⟩
  · rw [h.limits]
    obtain ⟨hstreams, hrate, hconn, hmon⟩ := lowerLimits_within config.limits requested
    obtain ⟨hstreams', hrate', hconn', hmon'⟩ := hdep.ceilings
    exact ⟨hstreams.trans hstreams', hrate.trans hrate', hconn.trans hconn', hmon.trans hmon'⟩

theorem maxRoutes_pos_of_validate (h : relay.validate = .ok ()) : 0 < relay.server.maxRoutes := by
  simp only [RelayConfig.validate, check_ok, refuse_ok, not_or] at h
  obtain ⟨-, -, -, -, ⟨-, -, -, -, -, -, hroutes, -⟩, -⟩ := h
  exact Nat.pos_of_ne_zero hroutes

theorem validateRoutes_insert {route : RouteConfig} {before after : List RouteConfig}
    (hots : relay.validateRoutes (before ++ after) = .ok ())
    (hcount : (before ++ after).length < relay.server.maxRoutes) (hown : ∀ other ∈ before ++ after,
      other.routeId ≠ route.routeId ∧ other.publicListen ≠ route.publicListen) :
    relay.validateRoutes (before ++ route :: after) = .ok () ↔ relay.Accepts route := by
  obtain ⟨-, hacc, hids, hlisteners⟩ := RelayConfig.validateRoutes_ok.1 hots
  have hperm : (before ++ route :: after).Perm (route :: (before ++ after)) := List.perm_middle
  rw [RelayConfig.validateRoutes_ok]
  constructor
  · rintro ⟨-, hall, -, -⟩
    exact hall route (List.mem_append_right _ List.mem_cons_self)
  · intro hrt
    refine ⟨?_, ?_, ?_, ?_⟩
    · rw [hperm.length_eq]
      exact hcount
    · intro other hoth
      rcases List.mem_cons.1 (hperm.mem_iff.1 hoth) with rfl | hold
      · exact hrt
      · exact hacc other hold
    · refine (hperm.map _).nodup_iff.2 (List.nodup_cons.2 ⟨?_, hids⟩)
      intro hmem
      obtain ⟨other, hoth, hsame⟩ := List.mem_map.1 hmem
      exact (hown other hoth).1 hsame
    · refine (hperm.map _).nodup_iff.2 (List.nodup_cons.2 ⟨?_, hlisteners⟩)
      intro hmem
      obtain ⟨other, hoth, hsame⟩ := List.mem_map.1 hmem
      exact (hown other hoth).2 hsame

theorem IssuedFields.routeFits (h : IssuedFields config requested d)
    (hdep : Deployed config relay managed) : RouteFits relay managed d ↔ CoversWindow relay d := by
  have hconvert := h.convertRoute hdep
  have hport : managed.publicPortStart ≤ d.header.publicPort ∧ d.header.publicPort ≤
    managed.publicPortEnd := ⟨hdep.portRange.1.trans h.port.1, h.port.2.trans hdep.portRange.2⟩
  rw [← accepts_routeOf hdep.valid hdep.registry hport h.streams]
  constructor
  · rintro ⟨route, hrt, hfits⟩
    obtain rfl := Except.ok.inj (hconvert.symm.trans hrt)
    -- the route alone
    have hnone : relay.validateRoutes ([] ++ []) = .ok () :=
      RelayConfig.validateRoutes_ok.2 ⟨Nat.zero_le _, nofun, List.nodup_nil, List.nodup_nil⟩
    have hcount := maxRoutes_pos_of_validate hdep.valid
    exact (validateRoutes_insert hnone hcount nofun).mp (hfits [] [] hnone hcount nofun)
  · intro hacc
    refine ⟨routeOf managed d, hconvert, ?_⟩
    intro before after hots hcount hown
    exact (validateRoutes_insert hots hcount hown).mpr hacc

theorem IssuedFields.coversWindow {pol : ProviderPolicy}
    (h : IssuedFields config (relayLimitsOf pol) d) (hlimits : config.limits.validate = .ok ()) :
    CoversWindow relay d ↔ WindowCovered pol config relay := by
  simp only [RelayLimits.validate, check_ok, refuse_ok, not_not, validateByteLimit] at hlimits
  obtain ⟨-, hrate, hconn, hmon⟩ := hlimits
  simp only [CoversWindow, WindowCovered, h.limits, lowerLimits, Nat.le_min]
  have hbw : relay.server.initialWindowBytes ≤ config.limits.maxBytesPerSecond →
      (relay.server.initialWindowBytes ≤ (relayLimitsOf pol).maxBytesPerSecond ↔
        ∀ bits ∈ pol.bandwidthLimitBps, relay.server.initialWindowBytes ≤ 1024 ∨
          8 * (relay.server.initialWindowBytes - 1) < bits) := by
    intro hoperator
    cases hbits : pol.bandwidthLimitBps with
    | none =>
      simp only [relayLimitsOf, hbits, Option.elim_none, Option.mem_def, reduceCtorEq,
        false_implies, implies_true, iff_true]
      omega
    | some bits =>
      simp only [relayLimitsOf, hbits, Option.elim_some, Option.mem_def, Option.some.injEq,
        forall_eq']
      omega
  have hcap : relay.server.initialWindowBytes ≤ config.limits.monthlyByteLimit →
      (relay.server.initialWindowBytes ≤ pol.monthlyTransferCapBytes.getD maximumByteLimit ↔
        ∀ cap ∈ pol.monthlyTransferCapBytes, relay.server.initialWindowBytes ≤ cap) := by
    intro hoperator
    cases hcase : pol.monthlyTransferCapBytes with
    | none =>
      simp only [Option.getD_none, maximumByteLimit, Option.mem_def, reduceCtorEq, false_implies,
        implies_true, iff_true]
      omega
    | some cap => simp
  constructor
  · rintro ⟨⟨hrate, hbits⟩, ⟨hconn, -⟩, hmon, hlim⟩
    exact ⟨hrate, hconn, hmon, (hbw hrate).mp hbits, (hcap hmon).mp hlim⟩
  · rintro ⟨hrate, hconn, hmon, hbits, hlim⟩
    have hmonthly := (hcap hmon).mpr hlim
    exact ⟨⟨hrate, (hbw hrate).mpr hbits⟩, ⟨hconn, hmonthly⟩, hmon, hmonthly⟩

theorem Deployed.limits (h : Deployed config relay managed) : config.limits.validate = .ok () := by
  have hprof := h.profile
  unfold RelayProvisioningConfig.isValid at hprof
  simp only [Bool.and_eq_true] at hprof
  cases hlimits : config.limits.validate with
  | ok _ => rfl
  | error e =>
    rw [hlimits] at hprof
    cases hprof.1.2

/-- For an accepted policy the node host derives limits exactly if the transfer cap is at most what
the protocol can express, and they pass the check of the request. The relay takes every document
issued for it exactly if operator and provider allow at least one window. -/
theorem relay_limits_agree {policy : ProviderPolicy} (hpolicy : policy.validate = .ok ())
    (hdeployed : Deployed config relay managed) :
    ((∃ limits, providerRelayLimits policy = .ok limits) ↔
        ∀ cap ∈ policy.monthlyTransferCapBytes, cap ≤ maximumByteLimit) ∧
      ∀ limits, providerRelayLimits policy = .ok limits →
        EnsureRelayAssignmentRequest.validate ⟨limits⟩ = .ok () ∧ ∀ d, Issued config key limits d →
            (RouteFits relay managed d ↔ WindowCovered policy config relay) := by
  refine ⟨?_, ?_⟩
  · rw [← validate_relayLimitsOf (ProviderPolicy.bounds_of_validate hpolicy)]
    constructor
    · rintro ⟨limits, hlimits⟩
      exact (providerRelayLimits_ok.1 hlimits).2.1
    · intro hval
      exact ⟨_, providerRelayLimits_ok.2 ⟨hpolicy, hval, rfl⟩⟩
  · intro limits hlimits
    obtain ⟨-, hval, rfl⟩ := providerRelayLimits_ok.1 hlimits
    refine ⟨hval, ?_⟩
    intro d hiss
    rw [hiss.fields.routeFits hdeployed]
    exact hiss.fields.coversWindow hdeployed.limits

open RelayRotation (sampleConfig sampleManaged sampleRelay)

theorem deployed_sample : Deployed sampleConfig sampleRelay sampleManaged :=
  ⟨by decide, by decide, rfl, rfl, by decide, by decide⟩

/-- The tables of a network with one approved node. -/
def sampleTables : RelayTables := ⟨1, [⟨1, .active, true, true⟩], [], [], []⟩

def issuedHeader (limits : RelayLimits) : RelayAssignmentHeader :=
  { RelayRotation.sampleHeader 1 11 1 11 20000 1000 with limits }

/-- The relay takes the route of a provider with the default policy. -/
theorem default_policy_fits :
    ∃ limits d, providerRelayLimits .default = .ok limits ∧ Issued sampleConfig 7 limits d ∧
      RouteFits sampleRelay sampleManaged d := by
  have hiss : Issued sampleConfig 7 (relayLimitsOf .default)
      (.sign 7 (issuedHeader (lowerLimits sampleConfig.limits (relayLimitsOf .default))) 1 2) :=
    ⟨sampleTables, _, 1, ⟨11, 11, 11#128⟩, 1000, _, 1, 2, rfl, rfl⟩
  have hlimits : providerRelayLimits .default = .ok (relayLimitsOf .default) := by decide
  have hval : ProviderPolicy.default.validate = .ok () := by decide
  refine ⟨_, _, hlimits, hiss, ?_⟩
  obtain ⟨-, hfits⟩ := (relay_limits_agree hval deployed_sample).2 _ hlimits
  exact (hfits _ hiss).mpr (by decide)

/-- The policy of a provider who allows 1 Mbit/s. -/
def slowPolicy : ProviderPolicy := { ProviderPolicy.default with bandwidthLimitBps := some 1000000 }

/-- The relay refuses every set of routes with the one that is issued for the slow provider. -/
theorem low_bandwidth_refuses_snapshot : ∃ limits d route, slowPolicy.validate = .ok () ∧
      Deployed sampleConfig sampleRelay sampleManaged ∧
      providerRelayLimits slowPolicy = .ok limits ∧ Issued sampleConfig 7 limits d ∧
      convertRoute sampleManaged d = .ok route ∧
      ∀ routes, route ∈ routes → sampleRelay.validateRoutes routes ≠ .ok () := by
  have hiss : Issued sampleConfig 7 (relayLimitsOf slowPolicy)
      (.sign 7 (issuedHeader (lowerLimits sampleConfig.limits (relayLimitsOf slowPolicy))) 1 2) :=
    ⟨sampleTables, _, 1, ⟨11, 11, 11#128⟩, 1000, _, 1, 2, rfl, rfl⟩
  refine ⟨_, _, _, by decide, deployed_sample, by decide, hiss,
    hiss.fields.convertRoute deployed_sample, ?_⟩
  intro routes hrt hacpd
  obtain ⟨-, hall, -, -⟩ := RelayConfig.validateRoutes_ok.1 hacpd
  exact absurd (hall _ hrt).limits (by decide)

end RealityConsole.RelayProvisioning
