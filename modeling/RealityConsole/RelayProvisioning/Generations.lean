import RealityConsole.RelayProvisioning.Ports

/-!
# Generations of a route

Pending generations can pile up, and an acknowledgement retires only published ones below it. If a
generation is issued only while its route has at most one open grant, and no acknowledgement
overtakes a pending one, then a route has at most two, and what is retired is never published again.
-/

namespace RealityConsole.RelayProvisioning

open Framework Protocol Controller
open RelayRotation (plainCodec sampleConfig sampleStart issue startPass)

variable {codec : RouteCodec} {config : RelayProvisioningConfig} {key : PublicKey}

/-- The number of pending and published grants of a route. -/
def liveGrants (t : RelayTables) (routeId : RelayRouteId) : Nat :=
  t.grants.countP fun g => g.routeId = routeId && g.state.isOpen

def Label.acknowledges : Label → Option (NodeId × Nat)
  | .acknowledge node request _ => some (node, request.generation)
  | _ => none

/-- A header is drawn up while its route has at most one open grant and no other header, and no
pending grant of the node is older than an acknowledged one. -/
def Paced (w : World) (l : Label) : Prop :=
  (∀ r ∈ w.tables.routes, l.prepares = some r.nodeId →
    liveGrants w.tables r.routeId ≤ 1 ∧ ∀ header ∈ w.drafts, header.routeId ≠ r.routeId) ∧
  ∀ g ∈ w.tables.grants, g.state = .pending →
    ∀ ack ∈ l.acknowledges, g.nodeId = ack.1 → ack.2 ≤ g.generation

instance (w : World) (l : Label) : Decidable (Paced w l) :=
  inferInstanceAs (Decidable (_ ∧ _))

theorem Moves.isOpen {s s' : RelayGrantState} (h : Moves s s') (hs : s'.isOpen) :
    s.isOpen := by
  cases h with
  | stays => exact hs
  | published => rfl
  | withdrawn => cases hs
  | revoked => cases hs

variable {t t' : RelayTables}

theorem Carries.liveGrants_le (h : Carries t t') (routeId : RelayRouteId) :
    liveGrants t' routeId ≤ liveGrants t routeId := by
  obtain ⟨f, hgrants, hf⟩ := h.moved
  unfold liveGrants
  rw [hgrants, List.countP_map]
  apply List.countP_mono_left
  intro g hg hopen
  obtain ⟨hrt, hmoves⟩ := hf g hg
  simp only [Function.comp_apply, Bool.and_eq_true, decide_eq_true_eq, RelayGrant.routeId,
    hrt] at hopen
  simp only [Bool.and_eq_true, decide_eq_true_eq]
  exact ⟨hopen.1, hmoves.isOpen hopen.2⟩

theorem lt_nextGeneration {t : RelayTables} {g : RelayGrant} (hg : g ∈ t.grants) :
    g.generation < t.nextGeneration g.routeId := by
  unfold RelayTables.nextGeneration
  have hmem : g.generation ∈ (t.grants.filter fun k => k.routeId = g.routeId).map (·.generation) :=
    List.mem_map_of_mem (List.mem_filter.2 ⟨hg, decide_eq_true rfl⟩)
  cases hmax : ((t.grants.filter fun k => k.routeId = g.routeId).map (·.generation)).max? with
  | none =>
    rw [List.max?_eq_none_iff.1 hmax] at hmem
    cases hmem
  | some top =>
    have hle := (List.max?_eq_some_iff.1 hmax).2 _ hmem
    exact Nat.lt_succ_of_le hle

/-! ### Routes belong to nodes -/

structure RouteInv (w : World) : Prop where
  owner : ∀ r ∈ w.tables.routes, ∀ s ∈ w.tables.routes, r.routeId = s.routeId →
    r.nodeId = s.nodeId
  grants : ∀ g ∈ w.tables.grants, ∃ r ∈ w.tables.routes,
    r.nodeId = g.nodeId ∧ r.routeId = g.routeId
  drafts : ∀ header ∈ w.drafts, ∃ r ∈ w.tables.routes,
    r.nodeId = header.nodeId ∧ r.routeId = header.routeId

theorem RouteInv.same_node {w : World} (h : RouteInv w) {g k : RelayGrant}
    (hg : g ∈ w.tables.grants) (hk : k ∈ w.tables.grants) (hrt : g.routeId = k.routeId) :
    g.nodeId = k.nodeId := by
  obtain ⟨r, hr, hrnode, hrroute⟩ := h.grants g hg
  obtain ⟨s, hs, hsnode, hsroute⟩ := h.grants k hk
  rw [← hrnode, ← hsnode]
  exact h.owner r hr s hs (hrroute.trans (hrt.trans hsroute.symm))

variable {header : RelayAssignmentHeader} {node : NodeId}

/-- Headers are drawn up for an existing route of their node, or for a new one. -/
theorem Drafted.owner (h : Drafted t node header t')
    (hown : ∀ r ∈ t.routes, ∀ s ∈ t.routes, r.routeId = s.routeId → r.nodeId = s.nodeId) :
    ∀ r ∈ t'.routes, ∀ s ∈ t'.routes, r.routeId = s.routeId → r.nodeId = s.nodeId := by
  rcases h.routes with hsame | ⟨endpoint, hnew, -, hfresh⟩
  · rw [hsame]
    exact hown
  intro r hr s hs hrt
  rw [hnew] at hr hs
  rcases List.mem_append.1 hr with hr | hr <;> rcases List.mem_append.1 hs with hs | hs
  · exact hown r hr s hs hrt
  · rw [List.mem_singleton.1 hs] at hrt
    exact absurd hrt (hfresh r hr)
  · rw [List.mem_singleton.1 hr] at hrt
    exact absurd hrt.symm (hfresh s hs)
  · rw [List.mem_singleton.1 hr, List.mem_singleton.1 hs]

theorem Drafted.routes_subset (h : Drafted t node header t') : ∀ r ∈ t.routes, r ∈ t'.routes := by
  intro r hr
  rcases h.routes with hsame | ⟨endpoint, hnew, -, -⟩
  · rwa [hsame]
  · rw [hnew]
    exact List.mem_append_left _ hr

variable {w w' : World}
  {l : Label}

theorem RouteInv.effect (h : RouteInv w)
    (huniq : UniqueGrants w.tables) (heff : Effect codec key w l w') : RouteInv w' := by
  have hroutes : ∀ r ∈ w.tables.routes, r ∈ w'.tables.routes := by
    rcases heff.drafts with ⟨-, hsame⟩ | ⟨_, _, _, _, _, -, -, hdrafted⟩
    · rw [hsame]
      exact fun r hr => hr
    · exact hdrafted.routes_subset
  refine ⟨?_, ?_, ?_⟩
  · rcases heff.drafts with ⟨-, hsame⟩ | ⟨_, _, _, _, _, -, -, hdrafted⟩
    · rw [hsame]
      exact h.owner
    · exact hdrafted.owner h.owner
  · intro a ha
    rcases heff.carries huniq with hcar | ⟨header, _, _, _, hdraft, -, -, -, hgrants⟩
    · obtain ⟨g, hg, hrt, -⟩ := hcar.backward ha
      obtain ⟨r, hr, hnode, hid⟩ := h.grants g hg
      refine ⟨r, hroutes r hr, ?_⟩
      unfold RelayGrant.nodeId RelayGrant.routeId
      rw [hrt]
      exact ⟨hnode, hid⟩
    · rw [hgrants] at ha
      rcases List.mem_append.1 ha with hold | hnew
      · obtain ⟨r, hr, hfields⟩ := h.grants a hold
        exact ⟨r, hroutes r hr, hfields⟩
      obtain ⟨r, hr, hfields⟩ := h.drafts header hdraft
      rw [List.mem_singleton.1 hnew]
      exact ⟨r, hroutes r hr, hfields⟩
  · intro header hhead
    rcases heff.drafts with ⟨hsub, -⟩ | ⟨_, _, _, _, new, -, hdrafts, hdrafted⟩
    · obtain ⟨r, hr, hfields⟩ := h.drafts header (hsub.subset hhead)
      exact ⟨r, hroutes r hr, hfields⟩
    rw [hdrafts] at hhead
    rcases List.mem_append.1 hhead with hold | hnew
    · obtain ⟨r, hr, hfields⟩ := h.drafts header hold
      exact ⟨r, hroutes r hr, hfields⟩
    obtain ⟨endpoint, hrt⟩ := hdrafted.route
    rw [List.mem_singleton.1 hnew]
    exact ⟨_, hrt, rfl, rfl⟩

/-! ### Open grants -/

/-- What a header that is being signed says about its route. -/
structure Ahead (t : RelayTables) (header : RelayAssignmentHeader) : Prop where
  highest : ∀ g ∈ t.grants, g.routeId = header.routeId → g.generation < header.generation
  room : liveGrants t header.routeId ≤ 1

theorem Ahead.carries (h : Ahead t header) (hcar : Carries t t') : Ahead t' header where
  highest a ha hid := by
    obtain ⟨g, hg, hrt, -⟩ := hcar.backward ha
    unfold RelayGrant.routeId at hid
    unfold RelayGrant.generation
    rw [hrt] at hid ⊢
    exact h.highest g hg hid
  room := (hcar.liveGrants_le _).trans h.room

theorem Ahead.append {new : RelayGrant} (h : Ahead t header)
    (hgrants : t'.grants = t.grants ++ [new])
    (hoth : new.routeId ≠ header.routeId) : Ahead t' header where
  highest a ha hid := by
    rw [hgrants] at ha
    rcases List.mem_append.1 ha with hold | hnew
    · exact h.highest a hold hid
    · rw [List.mem_singleton.1 hnew] at hid
      exact absurd hid hoth
  room := by
    unfold liveGrants
    rw [hgrants, List.countP_append, List.countP_singleton]
    simp only [hoth, decide_false, Bool.false_and, Bool.false_eq_true, if_false]
    exact h.room

structure Retired (t : RelayTables) (routeId : RelayRouteId) (generation : Nat) : Prop where
  issued : ∃ g ∈ t.grants, g.routeId = routeId ∧ g.generation = generation
  closed : ∀ g ∈ t.grants, g.routeId = routeId → g.generation < generation →
    g.state.isOpen = false

variable {routeId : RelayRouteId}

theorem Retired.carries {generation : Nat} (h : Retired t routeId generation)
    (hcar : Carries t t') : Retired t' routeId generation where
  issued := by
    obtain ⟨g, hg, rfl, rfl⟩ := h.issued
    obtain ⟨g', hg', hrt, -⟩ := hcar.evolves.forward g hg
    refine ⟨g', hg', ?_⟩
    unfold RelayGrant.routeId RelayGrant.generation
    rw [hrt]
    exact ⟨rfl, rfl⟩
  closed a ha hid hlow := by
    obtain ⟨g, hg, hrt, hmoves⟩ := hcar.backward ha
    unfold RelayGrant.routeId at hid
    unfold RelayGrant.generation at hlow
    rw [hrt] at hid hlow
    have hclo := h.closed g hg hid hlow
    cases hopen : a.state.isOpen with
    | false => rfl
    | true =>
      rw [hmoves.isOpen hopen] at hclo
      cases hclo

theorem Retired.append {generation : Nat} {new : RelayGrant} (h : Retired t routeId generation)
    (hgrants : t'.grants = t.grants ++ [new])
    (hhi : ∀ g ∈ t.grants, g.routeId = new.routeId → g.generation < new.generation) :
    Retired t' routeId generation where
  issued := by
    obtain ⟨g, hg, hfields⟩ := h.issued
    exact ⟨g, hgrants ▸ List.mem_append_left _ hg, hfields⟩
  closed a ha hid hlow := by
    rw [hgrants] at ha
    rcases List.mem_append.1 ha with hold | hnew
    · exact h.closed a hold hid hlow
    rw [List.mem_singleton.1 hnew] at hid hlow
    obtain ⟨g, hg, hgroute, hggeneration⟩ := h.issued
    have habove := hhi g hg (hgroute.trans hid.symm)
    omega

theorem Acknowledged.retired
    {req : AcknowledgeRelayAssignmentRequest} {now : Nat} {cur : RelayGrant}
    (h : Acknowledged w.tables node req now cur w'.tables) (hroutes : RouteInv w)
    (hpend : ∀ g ∈ w.tables.grants, g.state = .pending → g.nodeId = node →
      req.generation ≤ g.generation) :
    Retired w'.tables cur.routeId req.generation := by
  have hgrants := h.grants
  refine ⟨?_, ?_⟩
  · refine ⟨cur, ?_, rfl, h.ofGeneration⟩
    rw [hgrants]
    refine List.mem_map.2 ⟨cur, h.mem, ?_⟩
    simp only [superseded, h.ofGeneration, Nat.lt_irrefl, decide_false, Bool.and_false,
      Bool.false_and, Bool.false_eq_true, if_false]
  · intro a ha hid hlow
    rw [hgrants] at ha
    obtain ⟨g, hg, rfl⟩ := List.mem_map.1 ha
    by_cases hsel : superseded node cur.routeId req.generation g = true
    · rw [if_pos hsel]
      rfl
    rw [if_neg hsel] at hid hlow ⊢
    have hnode : g.nodeId = node := (hroutes.same_node hg h.mem hid).trans h.ofNode
    cases hst : g.state with
    | pending => exact absurd (hpend g hg hst hnode) (Nat.not_le_of_lt hlow)
    | published =>
      refine absurd ?_ hsel
      simp only [superseded, hnode, hid, hlow, hst, decide_true, Bool.and_self]
    | revoking => rfl
    | revoked => rfl
    | expired => rfl

theorem Drafted.ahead (h : Drafted w.tables node header w'.tables) (hroutes : RouteInv w)
    (hroom : ∀ r ∈ w.tables.routes, r.nodeId = node →
      liveGrants w.tables r.routeId ≤ 1 ∧ ∀ other ∈ w.drafts, other.routeId ≠ r.routeId) :
    Ahead w.tables header ∧ ∀ other ∈ w.drafts, other.routeId ≠ header.routeId := by
  have hhi : ∀ g ∈ w.tables.grants, g.routeId = header.routeId →
      g.generation < header.generation := by
    intro g hg hid
    rw [h.generation, ← hid]
    exact lt_nextGeneration hg
  rcases h.routes with hsame | ⟨endpoint, -, -, hfresh⟩
  · obtain ⟨endpoint, hrt⟩ := h.route
    rw [hsame] at hrt
    obtain ⟨hlive, hoth⟩ := hroom _ hrt h.node
    exact ⟨⟨hhi, hlive⟩, hoth⟩
  -- the route is new, so nothing belongs to it yet
  have hnone : liveGrants w.tables header.routeId = 0 := by
    apply List.countP_eq_zero.2
    intro g hg hopen
    obtain ⟨r, hr, -, hid⟩ := hroutes.grants g hg
    simp only [Bool.and_eq_true, decide_eq_true_eq] at hopen
    exact hfresh r hr (hid.trans hopen.1)
  refine ⟨⟨hhi, ?_⟩, ?_⟩
  · rw [hnone]
    exact Nat.zero_le _
  · intro other hoth hid
    obtain ⟨r, hr, -, hrt⟩ := hroutes.drafts other hoth
    exact hfresh r hr (hrt.trans hid)

structure GenerationInv (w : World) : Prop where
  unique : UniqueGrants w.tables
  routes : RouteInv w
  /-- At most one header is being signed for a route. -/
  single : (w.drafts.map (·.routeId)).Nodup
  ahead : ∀ header ∈ w.drafts, Ahead w.tables header
  bounded : ∀ routeId, liveGrants w.tables routeId ≤ 2
  retired : ∀ ack ∈ w.acknowledged, Retired w.tables ack.1 ack.2

theorem GenerationInv.carries (h : GenerationInv w) (hok : Paced w l)
    (heff : Effect codec key w l w') (hcar : Carries w.tables w'.tables) : GenerationInv w' := by
  have hdrafts : (w'.drafts.map (·.routeId)).Nodup ∧
      ∀ header ∈ w'.drafts, Ahead w.tables header := by
    rcases heff.drafts with ⟨hsub, -⟩ | ⟨node, _, _, _, new, rfl, hnew, hdraft⟩
    · exact ⟨h.single.sublist (hsub.map _), fun header hhead =>
        h.ahead header (hsub.subset hhead)⟩
    obtain ⟨hahead, hoth⟩ := hdraft.ahead h.routes fun r hr hnode =>
      hok.1 r hr (congrArg some hnode.symm)
    rw [hnew]
    refine ⟨?_, ?_⟩
    · rw [List.map_append, List.nodup_append]
      refine ⟨h.single, List.nodup_singleton _, ?_⟩
      intro a ha b hb
      obtain ⟨other, hmem, rfl⟩ := List.mem_map.1 ha
      rw [List.mem_singleton.1 hb]
      exact hoth other hmem
    · intro header hhead
      rcases List.mem_append.1 hhead with hold | hlast
      · exact h.ahead header hold
      · rwa [List.mem_singleton.1 hlast]
  refine
    { unique := hcar.unique
      routes := h.routes.effect h.unique heff
      single := hdrafts.1
      ahead := fun header hhead => (hdrafts.2 header hhead).carries hcar
      bounded := fun routeId => (hcar.liveGrants_le routeId).trans (h.bounded routeId)
      retired := ?_ }
  intro ack hack
  rcases heff.acknowledgements with hsame | ⟨node, req, now, cur, rfl, hnew, hacked⟩
  · rw [hsame] at hack
    exact (h.retired ack hack).carries hcar
  rw [hnew] at hack
  rcases List.mem_cons.1 hack with rfl | hold
  · exact hacked.retired h.routes fun g hg hpend hnode => hok.2 g hg hpend _ rfl hnode
  · exact (h.retired ack hold).carries hcar

theorem GenerationInv.stored {token cert : BitVec 256} {now : Nat} (h : GenerationInv w)
    (heff : Effect codec key w l w') (hdraft : header ∈ w.drafts)
    (hdrafts : w'.drafts = w.drafts.erase header) (hacks : w'.acknowledged = w.acknowledged)
    (hgrants : w'.tables.grants = w.tables.grants ++
      [⟨SignedRelayRoute.sign key header token cert, .pending, none, none, now⟩]) :
    GenerationInv w' := by
  have hahead := h.ahead header hdraft
  refine
    { unique := (heff.evolves h.unique).unique
      routes := h.routes.effect h.unique heff
      single := h.single.sublist (hdrafts ▸ List.erase_sublist.map _)
      ahead := ?_
      bounded := ?_
      retired := ?_ }
  · intro other hoth
    rw [hdrafts] at hoth
    have hmem := List.mem_of_mem_erase hoth
    apply (h.ahead other hmem).append hgrants
    intro hid
    -- two headers for one route would be the same one
    have hsame : header = other := List.inj_on_of_nodup_map h.single hdraft hmem hid
    rw [hsame] at hoth
    exact (List.Nodup.of_map _ h.single).not_mem_erase hoth
  · intro routeId
    unfold liveGrants
    rw [hgrants, List.countP_append, List.countP_singleton]
    by_cases hid : header.routeId = routeId
    · have hroom := hahead.room
      rw [hid] at hroom
      unfold liveGrants at hroom
      split <;> omega
    · have hoth : ¬((⟨SignedRelayRoute.sign key header token cert, .pending, none, none,
          now⟩ : RelayGrant).routeId = routeId) := hid
      simp only [hoth, decide_false, Bool.false_and, Bool.false_eq_true, if_false]
      exact h.bounded routeId
  · intro ack hack
    rw [hacks] at hack
    exact (h.retired ack hack).append hgrants hahead.highest

theorem GenerationInv.effect (h : GenerationInv w) (hok : Paced w l)
    (heff : Effect codec key w l w') : GenerationInv w' := by
  rcases heff.carries h.unique with
    hcar | ⟨header, token, cert, now, hdraft, hdrafts, hacks, -, hgrants⟩
  · exact h.carries hok heff hcar
  · exact h.stored heff hdraft hdrafts hacks hgrants

theorem generationInv_initial (nid : NetworkId) (nodes : List RelayNode) :
    GenerationInv (initial nid nodes) where
  unique := by
    intro g hg
    cases hg
  routes := ⟨nofun, nofun, nofun⟩
  single := List.nodup_nil
  ahead := nofun
  bounded _ := Nat.zero_le _
  retired := nofun

theorem generationInv_of_run {w : World} (h : (system codec config key).Run Paced w) :
    GenerationInv w := by
  apply Machine.Run.invariant (I := GenerationInv) h
  · rintro _ ⟨nid, nodes, rfl⟩
    exact generationInv_initial nid nodes
  · intro a l b hinv hok hstep
    exact hinv.effect hok (step_effect hstep)

/-! ### Runs -/

theorem acknowledged_stays {ok : World → Label → Prop} {ack : RelayRouteId × Nat}
    (h : (system codec config key).Steps ok w w') (hack : ack ∈ w.acknowledged) :
    ack ∈ w'.acknowledged := by
  apply Machine.Steps.preserves (P := fun w => ack ∈ w.acknowledged) h
  · intro a l b hmem _ hstep
    rcases (step_effect hstep).acknowledgements with hsame | ⟨_, _, _, _, -, hnew, -⟩
    · rwa [hsame]
    · rw [hnew]
      exact .tail _ hmem
  · exact hack

/-- In a paced run every route has at most two open grants. After an accepted acknowledgement no
lower generation of the route is published, then or later. If publications are carried out while
their grants are pending, the documents of lower generations are gone when no revocation is
outstanding. -/
theorem relay_generations_bounded {w : World} (hrun : (system codec config key).Run Paced w) :
    (∀ routeId, liveGrants w.tables routeId ≤ 2) ∧
      ∀ ack ∈ w.acknowledged, ∀ w', (system codec config key).Steps Paced w w' →
        (∀ g ∈ w'.tables.grants, g.routeId = ack.1 → g.generation < ack.2 →
          g.state ≠ .published) ∧
        ((system codec config key).Run (fun w l => Paced w l ∧ Orderly w l) w' →
          (∀ g ∈ w'.tables.grants, g.state ≠ .revoking) →
          ∀ file ∈ w'.files, file.header.routeId = ack.1 → ack.2 ≤ file.header.generation) := by
  refine ⟨(generationInv_of_run hrun).bounded, ?_⟩
  intro ack hack w' hsteps
  have hinv := generationInv_of_run (hrun.trans hsteps)
  have hretired := hinv.retired ack (acknowledged_stays hsteps hack)
  refine ⟨?_, ?_⟩
  · intro g hg hid hlow hpub
    have hclo := hretired.closed g hg hid hlow
    rw [hpub] at hclo
    cases hclo
  · intro hboth hset file hfile hid
    obtain ⟨g, hg, rfl, hholds⟩ := (inv_of_run (hboth.imp fun _ _ h => h.2)).owned file hfile
    by_contra hlow
    have hclo := hretired.closed g hg hid (Nat.lt_of_not_le hlow)
    -- closed with a port: a revocation is outstanding
    cases hst : g.state with
    | pending =>
      rw [hst] at hclo
      cases hclo
    | published =>
      rw [hst] at hclo
      cases hclo
    | revoking => exact hset g hg hst
    | revoked =>
      rw [hst] at hholds
      cases hholds
    | expired =>
      rw [hst] at hholds
      cases hholds

/-! ### Renewals -/

/-- A node gets a grant, renews it and acknowledges the second generation. -/
theorem renewal_retires_first_generation :
    ∃ w, (system plainCodec sampleConfig 7).Run Paced w ∧
      (11, 2) ∈ w.acknowledged ∧ w.tables.grants.length = 2 ∧
      ∀ g ∈ w.tables.grants, g.routeId = 11 → g.generation < 2 → g.state ≠ .published := by
  obtain ⟨w, hrun, hack, hlen⟩ :=
    Machine.run_of_exec (M := system plainCodec sampleConfig 7)
      (s := sampleStart) Paced
      (fun w => (11, 2) ∈ w.acknowledged ∧ w.tables.grants.length = 2)
      (issue 1 11 1 11 20000 1000 ++ startPass 0 1000
        ++ [.advance 0 1000 .success, .advance 0 1000 .success, .stop 0]
        ++ issue 1 11 2 12 20001 84000 ++ startPass 0 84000
        ++ [.advance 0 84000 .success, .advance 0 84000 .success,
          .acknowledge 1 ⟨12#128, 2⟩ 84000])
      ⟨_, _, rfl⟩ (by decide +kernel)
  obtain ⟨-, hretired⟩ := relay_generations_bounded hrun
  exact ⟨w, hrun, hack, hlen, (hretired _ hack w .refl).1⟩

/-- The publications of the first two generations fail, so the node gets a third, which it
acknowledges. Then the first two are published. -/
theorem failed_publications_pile_up :
    ∃ w, (system plainCodec sampleConfig 7).Reachable w ∧
      w.passes = [] ∧ liveGrants w.tables 11 = 3 ∧ (11, 3) ∈ w.acknowledged ∧
      ∃ g ∈ w.tables.grants, g.routeId = 11 ∧ g.generation < 3 ∧ g.state = .published :=
  Machine.run_of_exec (M := system plainCodec sampleConfig 7)
    (s := sampleStart) (fun _ _ => True)
    (fun w => w.passes = [] ∧ liveGrants w.tables 11 = 3 ∧ (11, 3) ∈ w.acknowledged ∧
      ∃ g ∈ w.tables.grants, g.routeId = 11 ∧ g.generation < 3 ∧ g.state = .published)
    (issue 1 11 1 11 20000 1000 ++ issue 1 11 2 12 20001 1000 ++ issue 1 11 3 13 20002 1000
      ++ startPass 0 1000
      ++ [.advance 0 1000 .failed, .advance 0 1000 .success, .advance 0 1000 .failed,
        .advance 0 1000 .success, .advance 0 1000 .success, .advance 0 1000 .success,
        .advance 0 1000 .success, .acknowledge 1 ⟨13#128, 3⟩ 1001]
      ++ startPass 0 1002 ++ List.replicate 5 (.advance 0 1002 .success))
    ⟨_, _, rfl⟩ (by decide)

end RealityConsole.RelayProvisioning
