import RealityConsole.RelayProvisioning.Model

/-!
# What a step of the provisioner can do

Every transaction leaves the documents of the grants as they are, and their states only move
forward. `step_effect` sorts the steps by what they change; the invariants are proved from it.
-/

namespace RealityConsole.RelayProvisioning

open Framework Protocol Controller

variable {codec : RouteCodec} {config : RelayProvisioningConfig} {key : PublicKey}

/-! ### Grants -/

/-- Some open grants are now `revoking`; nothing else about the grants has changed. -/
def Withdraws (t t' : RelayTables) : Prop :=
  ∃ selected : RelayGrant → Bool, (∀ g, selected g = true → g.state.isOpen = true) ∧
    t'.grants = t.grants.map fun g => if selected g then { g with state := .revoking } else g

variable {t t' : RelayTables}

theorem withdraws_of_grants_eq (h : t'.grants = t.grants) : Withdraws t t' := by
  refine ⟨fun _ => false, ?_, ?_⟩
  · intro g hfalse
    cases hfalse
  · simp only [h, Bool.false_eq_true, if_false, List.map_id']

theorem expireRelayGrants_withdraws (t : RelayTables) (now : Nat) :
    Withdraws t (t.expireRelayGrants now) := by
  refine ⟨fun g => g.state.isOpen && g.expiresAt ≤ now, ?_, rfl⟩
  intro g hg
  exact (Bool.and_eq_true_iff.1 hg).1

variable {now : Nat}
  {node : NodeId}

theorem transitionNode_withdraws {action : NodeLifecycleAction}
    (h : t.transitionNode node action now = .ok t') : Withdraws t t' := by
  unfold RelayTables.transitionNode at h
  split at h
  · cases h
  split at h
  · cases h
  cases h
  refine ⟨fun g => g.nodeId = node && g.state.isOpen, ?_, rfl⟩
  intro g hg
  exact (Bool.and_eq_true_iff.1 hg).2

variable {grantId : RelayGrantId}

theorem revokeRelayGrant_withdraws
    (h : t.revokeRelayGrant grantId now = .ok t') : Withdraws t t' := by
  obtain ⟨_, h⟩ := rest_ok h
  cases h
  refine ⟨fun g => g.grantId = grantId && g.state.isOpen, ?_, rfl⟩
  intro g hg
  exact (Bool.and_eq_true_iff.1 hg).2

def superseded (node : NodeId) (routeId : RelayRouteId) (generation : Nat) (g : RelayGrant) :
    Bool :=
  g.nodeId = node && g.routeId = routeId && g.generation < generation && g.state = .published

structure Acknowledged (t : RelayTables) (node : NodeId)
    (request : AcknowledgeRelayAssignmentRequest) (now : Nat) (current : RelayGrant)
    (t' : RelayTables) : Prop where
  found : t.acknowledgeable node request now = some current
  mem : current ∈ t.grants
  ofNode : current.nodeId = node
  ofGeneration : current.generation = request.generation
  routes : t'.routes = t.routes
  grants : t'.grants = t.grants.map fun g =>
    if superseded node current.routeId request.generation g then { g with state := .revoking }
    else g

theorem acknowledgeRelayAssignment_effect {req : AcknowledgeRelayAssignmentRequest}
    (h : t.acknowledgeRelayAssignment node req now = .ok t') :
    ∃ cur, Acknowledged t node req now cur t' := by
  obtain ⟨_, h⟩ := rest_ok h
  split at h
  · cases h
  rename_i cur hfound
  cases h
  have hmem := List.mem_of_find?_eq_some hfound
  have hfields := List.find?_some hfound
  simp only [Bool.and_eq_true, decide_eq_true_eq] at hfields
  obtain ⟨⟨⟨⟨⟨hnode, -⟩, hgen⟩, -⟩, -⟩, -⟩ := hfields
  exact ⟨cur, ⟨hfound, hmem, hnode, hgen, rfl, rfl⟩⟩

structure Published (t : RelayTables) (grantId : RelayGrantId) (t' : RelayTables) : Prop where
  pending : ∃ g ∈ t.grants, g.grantId = grantId ∧ g.state = .pending
  routes : t'.routes = t.routes
  grants : ∃ now, t'.grants = t.grants.map fun g =>
    if g.grantId = grantId then { g with state := .published, publishedAt := some now } else g

theorem markRelayPublished_effect
    (h : t.markRelayPublished grantId now = .ok t') : Published t grantId t' := by
  obtain ⟨_, hpend, h⟩ := bind_ok.1 h
  cases h
  refine ⟨?_, rfl, now, ?_⟩
  · obtain ⟨g, hg, hfields⟩ := List.any_eq_true.1 (not_not.1 (refuse_ok.1 hpend))
    simp only [Bool.and_eq_true, decide_eq_true_eq] at hfields
    exact ⟨g, hg, hfields⟩
  · simp only [RelayTables.completeJob, RelayTables.updateGrants, decide_eq_true_eq]

theorem choosePort_free {t : RelayTables} {first last port : Nat}
    (h : t.choosePort first last = .ok port) :
    ∀ g ∈ t.grants, g.state.holdsPort → g.publicPort ≠ port := by
  unfold RelayTables.choosePort at h
  split at h
  · rename_i p hfind
    cases h
    intro g hg hholds heq
    have hfree := List.find?_some hfind
    simp only [Bool.not_eq_true', List.any_eq_false] at hfree
    exact hfree g hg (by simp [heq, hholds])
  · cases h

/-- What a drawn-up header says about its node, its route and the grants. -/
structure Drafted (t : RelayTables) (node : NodeId) (header : RelayAssignmentHeader)
    (t' : RelayTables) : Prop where
  grants : t'.grants = t.grants
  node : header.nodeId = node
  free : ∀ g ∈ t.grants, g.state.holdsPort = true → g.publicPort ≠ header.publicPort
  generation : header.generation = t.nextGeneration header.routeId
  route : ∃ endpoint, ⟨header.nodeId, header.routeId, endpoint⟩ ∈ t'.routes
  routes : t'.routes = t.routes ∨ ∃ endpoint,
    t'.routes = t.routes ++ [⟨header.nodeId, header.routeId, endpoint⟩] ∧
      (∀ r ∈ t.routes, r.nodeId ≠ header.nodeId) ∧ ∀ r ∈ t.routes, r.routeId ≠ header.routeId

theorem prepareRelayGrant_drafted {limits : RelayLimits}
    {fresh : FreshRelayIds} {hdr : RelayAssignmentHeader}
    (h : t.prepareRelayGrant config node limits fresh now = .ok (t', hdr)) :
    Drafted t node hdr t' := by
  have hprep := RelayTables.prepareRelayGrant_effect h
  obtain ⟨_, h⟩ := rest_ok h
  obtain ⟨⟨t₁, route⟩, hrt, h⟩ := bind_ok.1 h
  obtain ⟨port, hport, h⟩ := bind_ok.1 h
  obtain ⟨_, h⟩ := rest_ok h
  obtain ⟨_, h⟩ := rest_ok h
  cases h
  refine
    { grants := ?_
      node := rfl
      free := choosePort_free hport
      generation := rfl
      route := ⟨_, hprep.route⟩
      routes := hprep.routes.imp id fun ⟨hnew, _, hnode, hid⟩ => ⟨_, hnew, hnode, hid⟩ }
  unfold RelayTables.ensureRoute at hrt
  split at hrt
  · cases hrt
    rfl
  split at hrt
  · cases hrt
  · cases hrt
    rfl

theorem storePendingRelayGrant_grants {route : SignedRelayRoute}
    (h : t.storePendingRelayGrant codec route now = .ok t') :
    t'.grants = t.grants ++ [⟨route, .pending, none, none, now⟩] := by
  obtain ⟨_, h⟩ := rest_ok h
  obtain ⟨_, h⟩ := rest_ok h
  obtain ⟨_, h⟩ := rest_ok h
  obtain ⟨_, h⟩ := rest_ok h
  obtain ⟨_, h⟩ := rest_ok h
  rw [← Except.ok.inj h]

/-! ### What the calls hold -/

/-- The jobs whose file operation is still to come. -/
def World.listed (w : World) : List Job := w.passes.flatMap Pass.jobs

/-- The grants whose documents were removed and that are to be marked as revoked. -/
def World.removed (w : World) : List RelayGrantId := w.passes.filterMap Pass.removed

variable {index : Nat} {next : Option Pass}

theorem mem_setPass {passes : List Pass} {pass : Pass}
    (h : pass ∈ setPass passes index next) : pass ∈ passes ∨ next = some pass := by
  cases next with
  | none => exact .inl (List.mem_of_mem_eraseIdx h)
  | some new =>
    rcases List.mem_or_eq_of_mem_set h with hold | rfl
    · exact .inl hold
    · exact .inr rfl

variable {w w' : World}

theorem listed_setPass (known : Job → Prop) (hpasses : w'.passes = setPass w.passes index next)
    (hnext : ∀ new, next = some new → ∀ job ∈ new.jobs, known job) :
    ∀ job ∈ w'.listed, job ∈ w.listed ∨ known job := by
  intro job hjob
  obtain ⟨pass, hpass, hmem⟩ := List.mem_flatMap.1 hjob
  rw [hpasses] at hpass
  rcases mem_setPass hpass with hold | hnew
  · exact .inl (List.mem_flatMap.2 ⟨pass, hold, hmem⟩)
  · exact .inr (hnext pass hnew job hmem)

theorem removed_setPass
    (known : RelayGrantId → Prop) (hpasses : w'.passes = setPass w.passes index next)
    (hnext : ∀ new, next = some new → ∀ id, new.removed = some id → known id) :
    ∀ id ∈ w'.removed, id ∈ w.removed ∨ known id := by
  intro id hid
  obtain ⟨pass, hpass, hremove⟩ := List.mem_filterMap.1 hid
  rw [hpasses] at hpass
  rcases mem_setPass hpass with hold | hnew
  · exact .inl (List.mem_filterMap.2 ⟨pass, hold, hremove⟩)
  · exact .inr (hnext pass hnew id hremove)

theorem removed_of_setPass (hpasses : w'.passes = setPass w.passes index next)
    (hnext : ∀ new, next = some new → new.removed = none) : ∀ id ∈ w'.removed, id ∈ w.removed := by
  intro id hid
  rcases removed_setPass (fun _ => False) hpasses (by simp_all) id hid with hold | hfalse
  · exact hold
  · exact hfalse.elim

theorem Pass.next_eq_some {jobs : List Job} {rounds : Nat} {new : Pass}
    (h : Pass.next jobs rounds = some new) :
    (∀ job ∈ new.jobs, job ∈ jobs) ∧ new.removed = none := by
  unfold Pass.next at h
  split at h
  · split at h
    · cases h
    cases h
    refine ⟨?_, rfl⟩
    intro job hjob
    cases hjob
  · cases h
    exact ⟨fun job hjob => hjob, rfl⟩

/-! ### Steps -/

/-- The step leaves the directory alone and no pass holds more than before. -/
structure Still (w w' : World) : Prop where
  files : w'.files = w.files
  listed : ∀ job ∈ w'.listed, job ∈ w.listed
  removed : ∀ id ∈ w'.removed, id ∈ w.removed

theorem still_of_passes (hfiles : w'.files = w.files)
    (hpasses : w'.passes = w.passes) : Still w w' where
  files := hfiles
  listed job hjob := by
    unfold World.listed at hjob
    rwa [hpasses] at hjob
  removed id hid := by
    unfold World.removed at hid
    rwa [hpasses] at hid

/-- No call holds more than before. -/
structure Frame (w w' : World) : Prop extends Still w w' where
  drafts : w'.drafts.Sublist w.drafts
  acknowledged : w'.acknowledged = w.acknowledged

inductive Effect (codec : RouteCodec) (key : PublicKey) (w : World) (l : Label) (w' : World) :
    Prop where
  /-- Some open grants are withdrawn, or nothing happens to the grants. -/
  | withdrawn (frame : Frame w w') (routes : w'.tables.routes = w.tables.routes)
      (tables : Withdraws w.tables w'.tables)
  /-- A pass lists its jobs. -/
  | listed (now : Nat) (files : w'.files = w.files) (tables : w'.tables = w.tables)
      (jobs : ∀ job ∈ w'.listed, job ∈ w.listed ∨ job ∈ dueJobs w.tables now)
      (removed : ∀ id ∈ w'.removed, id ∈ w.removed) (drafts : w'.drafts = w.drafts)
      (acknowledged : w'.acknowledged = w.acknowledged)
  /-- A header is drawn up. -/
  | prepared (node : NodeId) (limits : RelayLimits) (fresh : FreshRelayIds) (now : Nat)
      (header : RelayAssignmentHeader) (label : l = .prepare node limits fresh now)
      (files : w'.files = w.files) (passes : w'.passes = w.passes)
      (tables : Drafted w.tables node header w'.tables)
      (drafts : w'.drafts = w.drafts ++ [header])
      (acknowledged : w'.acknowledged = w.acknowledged)
  /-- A grant is stored. -/
  | stored (header : RelayAssignmentHeader) (token certificate : BitVec 256) (now : Nat)
      (files : w'.files = w.files) (passes : w'.passes = w.passes) (drafted : header ∈ w.drafts)
      (tables : RelayTables.Stored codec w.tables
        (SignedRelayRoute.sign key header token certificate) w'.tables)
      (grants : w'.tables.grants = w.tables.grants ++
        [⟨SignedRelayRoute.sign key header token certificate, .pending, none, none, now⟩])
      (drafts : w'.drafts = w.drafts.erase header)
      (acknowledged : w'.acknowledged = w.acknowledged)
  /-- An acknowledgement is accepted. -/
  | acknowledged (node : NodeId) (request : AcknowledgeRelayAssignmentRequest) (now : Nat)
      (current : RelayGrant) (label : l = .acknowledge node request now)
      (files : w'.files = w.files) (passes : w'.passes = w.passes) (drafts : w'.drafts = w.drafts)
      (tables : Acknowledged w.tables node request now current w'.tables)
      (acknowledged : w'.acknowledged = (current.routeId, request.generation) :: w.acknowledged)
  /-- The file operation of a job. -/
  | performed (index now : Nat) (io : Io) (job : Job) (jobs : List Job) (rounds : Nat) (done : Bool)
      (label : l = .advance index now io)
      (pass : w.passes[index]? = some (.work (job :: jobs) rounds))
      (run : perform codec w.files job io = some (w'.files, done)) (tables : w'.tables = w.tables)
      (passes : w'.passes = setPass w.passes index (some (.mark job done jobs rounds)))
      (drafts : w'.drafts = w.drafts) (acknowledged : w'.acknowledged = w.acknowledged)
  /-- A grant is marked as published. -/
  | published (grantId : RelayGrantId) (frame : Frame w w')
      (tables : Published w.tables grantId w'.tables)
  /-- A grant is marked as revoked. -/
  | revoked (grantId : RelayGrantId) (now : Nat) (frame : Frame w w')
      (removed : grantId ∈ w.removed) (tables : w'.tables = w.tables.markRelayRevoked grantId now)

theorem advance_effect {index now : Nat} {io : Io}
    (h : step codec config key w (.advance index now io) = some w') :
    Effect codec key w (.advance index now io) w' := by
  obtain ⟨pass, hpass, rfl⟩ := Option.map_eq_some_iff.1 h
  have hmem := List.mem_of_getElem? hpass
  -- the jobs of the next pass are among those of this one
  have hframe : ∀ tables next, (∀ new, next = some new →
      (∀ job ∈ new.jobs, job ∈ pass.jobs) ∧ new.removed = none) →
      Frame w { w with tables, passes := setPass w.passes index next } := by
    intro tables next hnext
    refine ⟨⟨rfl, ?_, ?_⟩, List.Sublist.refl _, rfl⟩
    · intro job hjob
      rcases listed_setPass (· ∈ pass.jobs) rfl (fun new hnew => (hnext new hnew).1) job hjob with
        hold | hkn
      · exact hold
      · exact List.mem_flatMap.2 ⟨pass, hmem, hkn⟩
    · exact removed_of_setPass rfl fun new hnew => (hnext new hnew).2
  have hsame : ∀ next, (∀ new, next = some new →
      (∀ job ∈ new.jobs, job ∈ pass.jobs) ∧ new.removed = none) →
      Effect codec key w (.advance index now io)
        { w with passes := setPass w.passes index next } :=
    fun next hnext => .withdrawn (hframe w.tables next hnext) rfl (withdraws_of_grants_eq rfl)
  cases pass with
  | expire =>
    refine .withdrawn (hframe _ _ ?_) (RelayTables.expireRelayGrants_sameDocuments _ _).routes
      (expireRelayGrants_withdraws _ _)
    intro new hnew
    cases hnew
    exact ⟨fun job hjob => hjob, rfl⟩
  | list rounds =>
    have hnext : ∀ new, (advance codec w now io (.list rounds)).2.2 = some new →
        new = .work (dueJobs w.tables now) rounds := by
      intro new hnew
      simp only [advance] at hnew
      split at hnew
      · cases hnew
      · exact (Option.some.inj hnew).symm
    refine .listed now rfl rfl (listed_setPass _ rfl ?_) (removed_of_setPass rfl ?_) rfl rfl
    · intro new hnew job hjob
      rwa [hnext new hnew] at hjob
    · intro new hnew
      rw [hnext new hnew]
      rfl
  | work jobs rounds =>
    cases jobs with
    | nil => exact hsame _ fun new hnew => Pass.next_eq_some hnew
    | cons job jobs =>
      cases hrun : perform codec w.files job io with
      | none =>
        simp only [advance, hrun]
        refine hsame none ?_
        intro new hnew
        cases hnew
      | some result =>
        obtain ⟨files, done⟩ := result
        simp only [advance, hrun]
        exact .performed index now io job jobs rounds done rfl hpass hrun rfl rfl rfl rfl
  | mark job done jobs rounds =>
    have hnext : ∀ new, Pass.next jobs rounds = some new →
        (∀ job ∈ new.jobs, job ∈ jobs) ∧ new.removed = none := fun new => Pass.next_eq_some
    cases done with
    | false => exact .withdrawn (hframe _ _ hnext) rfl (withdraws_of_grants_eq rfl)
    | true =>
      cases hactn : job.action with
      | publish =>
        cases hmark : w.tables.markRelayPublished job.grantId now with
        | error e =>
          simp only [advance, hactn, hmark]
          refine hsame none ?_
          intro new hnew
          cases hnew
        | ok tables =>
          simp only [advance, hactn, hmark]
          exact .published job.grantId (hframe _ _ hnext) (markRelayPublished_effect hmark)
      | revoke =>
        simp only [advance, hactn]
        refine .revoked job.grantId now (hframe _ _ hnext) ?_ rfl
        refine List.mem_filterMap.2 ⟨_, hmem, ?_⟩
        simp only [Pass.removed, hactn, if_true]

theorem step_effect {l : Label} (h : step codec config key w l = some w') :
    Effect codec key w l w' := by
  -- steps that change neither the grants nor what the calls hold
  have hqt : ∀ tables issues, tables.routes = w.tables.routes →
      Withdraws w.tables tables → Effect codec key w l { w with tables, issues } := by
    intro tables issues hroutes htab
    exact .withdrawn ⟨still_of_passes rfl rfl, List.Sublist.refl _, rfl⟩ hroutes htab
  cases l with
  | report node =>
    cases h
    unfold reportNode
    split
    · exact hqt _ _ rfl (withdraws_of_grants_eq rfl)
    · exact hqt _ _ rfl (withdraws_of_grants_eq rfl)
  | ensure node providerLimits now nowUtc =>
    simp only [step] at h
    split at h
    · cases h
      exact hqt _ _ rfl (withdraws_of_grants_eq rfl)
    · cases h
      exact hqt _ _ rfl (withdraws_of_grants_eq rfl)
    · cases h
  | prepare node limits fresh now =>
    obtain ⟨-, h⟩ := Option.ite_none_right_eq_some.1 h
    obtain ⟨⟨tables, hdr⟩, hprep, rfl⟩ := Option.map_eq_some_iff.1 h
    exact .prepared node limits fresh now hdr rfl rfl rfl
      (prepareRelayGrant_drafted (toOption_some.1 hprep)) rfl rfl
  | store hdr token certificate now =>
    obtain ⟨hdraft, h⟩ := Option.ite_none_right_eq_some.1 h
    obtain ⟨tables, hstore, rfl⟩ := Option.map_eq_some_iff.1 h
    have hstore := toOption_some.1 hstore
    exact .stored hdr token certificate now rfl rfl hdraft
      (RelayTables.storePendingRelayGrant_effect hstore)
      (storePendingRelayGrant_grants hstore) rfl rfl
  | abandon hdr =>
    cases h
    exact .withdrawn ⟨still_of_passes rfl rfl, List.erase_sublist, rfl⟩ rfl
      (withdraws_of_grants_eq rfl)
  | acknowledge node request now =>
    obtain ⟨tables, hack, rfl⟩ := Option.map_eq_some_iff.1 h
    obtain ⟨cur, hcur⟩ := acknowledgeRelayAssignment_effect (toOption_some.1 hack)
    refine .acknowledged node request now cur rfl rfl rfl rfl hcur ?_
    rw [hcur.found]
    rfl
  | revoke grantId now =>
    obtain ⟨tables, hrvke, rfl⟩ := Option.map_eq_some_iff.1 h
    have hrvke := toOption_some.1 hrvke
    exact hqt _ _ (RelayTables.revokeRelayGrant_sameDocuments hrvke).routes
      (revokeRelayGrant_withdraws hrvke)
  | transition node action now =>
    obtain ⟨tables, htr, rfl⟩ := Option.map_eq_some_iff.1 h
    have htr := toOption_some.1 htr
    exact hqt _ _ (RelayTables.transitionNode_sameDocuments htr).routes
      (transitionNode_withdraws htr)
  | begin =>
    cases h
    refine .withdrawn ⟨⟨rfl, ?_, ?_⟩, List.Sublist.refl _, rfl⟩ rfl (withdraws_of_grants_eq rfl)
    · intro job hjob
      simpa [World.listed, Pass.jobs] using hjob
    · intro id hid
      simpa [World.removed, Pass.removed] using hid
  | advance index now io => exact advance_effect h
  | stop index =>
    cases h
    refine .withdrawn ⟨⟨rfl, ?_, ?_⟩, List.Sublist.refl _, rfl⟩ rfl (withdraws_of_grants_eq rfl)
    · intro job hjob
      obtain ⟨pass, hpass, hmem⟩ := List.mem_flatMap.1 hjob
      exact List.mem_flatMap.2 ⟨pass, List.mem_of_mem_eraseIdx hpass, hmem⟩
    · intro id hid
      obtain ⟨pass, hpass, hmem⟩ := List.mem_filterMap.1 hid
      exact List.mem_filterMap.2 ⟨pass, List.mem_of_mem_eraseIdx hpass, hmem⟩
  | crash =>
    cases h
    refine .withdrawn ⟨⟨rfl, ?_, ?_⟩, List.nil_sublist _, rfl⟩ rfl (withdraws_of_grants_eq rfl)
    · intro job hjob
      cases hjob
    · intro id hid
      cases hid

end RealityConsole.RelayProvisioning
