import RealityConsole.Controller.Rollback
import RealityConsole.Policy.Evolution

/-!
# Cohort rollbacks

A request publishes one document for each of its nodes, in node order, or leaves at most a record of
its rejection. A completed request is remembered under its key: a retry is answered from the record,
and another request under the key is refused. A rejected one is not remembered.
-/

namespace RealityConsole.Policy

open Framework Protocol Controller Controller.Members

variable {identity : ControllerIdentity} {s s' : RollbackStore} {target : OperatorRollbackTarget}
  {targets : List OperatorRollbackTarget} {configuration : DesiredStateConfigurationDraft}
  {prepared : List (OperatorRollbackTarget × DesiredStateConfigurationDraft)}
  {publications : List OperatorRollbackPublication} {draws : Draws} {now : Nat} {key : String}
  {reason : OperatorRollbackReason}

/-! ### Rollbacks as operations on the policy tables -/

def compatible (s : RollbackStore) (target : OperatorRollbackTarget) : Bool :=
  NodeCapability.xray ∈ (s.hosts target.nodeId).capabilities &&
    (s.policy.documents.find (target.nodeId, target.sourceRevision)).any fun source =>
      agentVersionSatisfies (s.hosts target.nodeId).agentVersion source.document.minAgentVersion

theorem verifyDesiredRevision_eq {policy : PolicyStore} {node : NodeId}
    {signed verified : SignedDesiredState}
    (h : policy.verifyDesiredRevision identity node signed = .ok verified) : verified = signed := by
  obtain ⟨-, h⟩ := check_ok.1 h
  obtain ⟨-, h⟩ := check_ok.1 h
  obtain ⟨-, h⟩ := check_ok.1 h
  exact (Except.ok.inj h).symm

/-- The facts about a target that may be rolled back. -/
structure Eligible (policy : PolicyStore) (target : OperatorRollbackTarget) (row : NodeRecord)
    (source : SignedDesiredState) : Prop where
  found : policy.nodes.find target.nodeId = some row
  active : row.status = .active
  desired : row.desiredRevision = some target.failedRevision
  source : policy.documents.find (target.nodeId, target.sourceRevision) = some source
  failed : (row.latestRevisionResult target.failedRevision).isSome

/-- `prepare_rollback_target` agrees with its form on the policy tables. -/
theorem prepareRollbackTarget_ok (h : s.prepareRollbackTarget identity target = .ok configuration) :
    (∃ row src, Eligible s.policy target row src ∧ configuration = configurationOf src) ∧
      s.policy.prepareRollbackTarget identity (compatible s) target
        = .ok (target.nodeId, configuration) := by
  obtain ⟨row, hrow, h⟩ := bind_ok.1 h
  obtain ⟨hst, h⟩ := check_ok.1 h
  obtain ⟨hxray, h⟩ := check_ok.1 h
  obtain ⟨src, hsource, h⟩ := bind_ok.1 h
  obtain ⟨verified, hver, h⟩ := bind_ok.1 h
  obtain ⟨hresults, h⟩ := check_ok.1 h
  obtain ⟨hfail, h⟩ := check_ok.1 h
  obtain ⟨hvers, h⟩ := check_ok.1 h
  cases h
  obtain rfl := verifyDesiredRevision_eq hver
  have hfound := required_ok.1 hsource
  constructor
  · have hact := refuse_ok.1 hst
    simp only [ne_eq, not_or, not_not] at hact
    obtain ⟨failed, hmem, -⟩ := not_not.1 (refuse_ok.1 hfail)
    exact ⟨row, verified, ⟨required_ok.1 hrow, hact.1, hact.2, hfound,
      Option.isSome_iff_exists.2 ⟨failed, hmem⟩⟩, rfl⟩
  · have hcompat : compatible s target = true := by
      have hcapable := not_not.1 (refuse_ok.1 hxray)
      have hsatisfies := refuse_ok.1 hvers
      simp only [Bool.not_eq_true', Bool.not_eq_false] at hsatisfies
      simp only [compatible, hfound, Option.any_some, hsatisfies, Bool.and_true, decide_eq_true_eq]
      exact hcapable
    refine bind_ok.2 ⟨row, hrow, check_ok.2 ⟨hst, bind_ok.2 ⟨verified, hsource, bind_ok.2 ⟨verified,
      hver, check_ok.2 ⟨hresults, check_ok.2 ⟨hfail, check_ok.2 ⟨?_, rfl⟩⟩⟩⟩⟩⟩⟩
    rw [refuse_ok, hcompat]
    decide

theorem prepareTargets_ok (h : s.prepareTargets identity targets = .ok prepared) :
    prepared.map Prod.fst = targets ∧
      ∀ entry ∈ prepared, s.prepareRollbackTarget identity entry.1 = .ok entry.2 := by
  induction targets generalizing prepared with
  | nil =>
    cases h
    exact ⟨rfl, nofun⟩
  | cons target targets ih =>
    obtain ⟨configuration, hprep, h⟩ := bind_ok.1 h
    obtain ⟨rest, hrest, h⟩ := bind_ok.1 h
    cases h
    obtain ⟨htargets, hprepared⟩ := ih hrest
    refine ⟨congrArg (target :: ·) htargets, ?_⟩
    rintro entry (_ | ⟨_, hent⟩)
    · exact mapError_ok.1 hprep
    · exact hprepared entry hent

theorem prepareTargets_error {e : PolicyError}
    (h : s.prepareTargets identity targets = .error (target, e)) : target ∈ targets := by
  induction targets with
  | nil => cases h
  | cons first targets ih =>
    simp only [RollbackStore.prepareTargets] at h
    cases hfirst : s.prepareRollbackTarget identity first with
    | error e =>
      rw [hfirst] at h
      cases h
      exact .head _
    | ok configuration =>
      rw [hfirst] at h
      cases hrest : s.prepareTargets identity targets with
      | error failure =>
        rw [hrest] at h
        cases h
        exact .tail _ (ih hrest)
      | ok rest =>
        rw [hrest] at h
        cases h

theorem publishTargets_policy
    (h : s.publishTargets identity key reason draws now prepared = .ok (s', publications)) :
    s.policy.publishRollbacks identity draws now
        (prepared.map fun entry => (entry.1.nodeId, entry.2)) = .ok s'.policy ∧
      s'.hosts = s.hosts ∧ s'.records = s.records := by
  induction prepared generalizing s publications with
  | nil =>
    cases h
    exact ⟨rfl, rfl, rfl⟩
  | cons first rest ih =>
    obtain ⟨users, husr, h⟩ := bind_ok.1 h
    obtain ⟨policy, hpol, h⟩ := bind_ok.1 h
    obtain ⟨⟨last, tail⟩, htail, h⟩ := bind_ok.1 h
    cases h
    obtain ⟨hpub, hhosts, hrecs⟩ := ih htail
    exact ⟨bind_ok.2 ⟨policy, bind_ok.2 ⟨users, husr, hpol⟩, hpub⟩, hhosts, hrecs⟩

/-- A rollback that is not a replay is one of the policy tables. -/
theorem operatorRollback_policy
    (hprep : s.prepareTargets identity (targets.insertionSort RollbackStore.nodeOrder)
      = .ok prepared) (hpub : s.publishTargets identity key reason draws now prepared
      = .ok (s', publications)) :
    s.policy.operatorRollback identity targets (compatible s) draws now = .ok s'.policy := by
  obtain ⟨htargets, hprepared⟩ := prepareTargets_ok hprep
  refine bind_ok.2 ⟨_, mapM_ok.2 ?_, (publishTargets_policy hpub).1⟩
  show List.Forall₂ _ (targets.insertionSort RollbackStore.nodeOrder) _
  rw [← htargets, List.forall₂_map_left_iff, List.forall₂_map_right_iff, List.forall₂_same]
  intro entry hent
  exact (prepareRollbackTarget_ok (hprepared entry hent)).2

/-! ### The documents of a cohort -/

def targetOf (publication : OperatorRollbackPublication) : OperatorRollbackTarget :=
  ⟨publication.nodeId, publication.sourceRevision, publication.failedRevision⟩

structure Installed (s s' : PolicyStore) (node : NodeId) (revision : Revision)
    (configuration : DesiredStateConfigurationDraft) (row : NodeRecord)
    (signed : SignedDesiredState) (users : List CompiledDesiredUser) (canary : CanaryCredential) :
    Prop where
  before : s.nodes.find node = some row
  after : s'.nodes.find node = some
    { row with
      desiredRevision := some revision
      targets := row.targets ++ [revision]
      lastRevision := revision }
  document : s'.documents.find (node, revision) = some signed
  revision : signed.document.revision = revision
  xray : signed.document.xray
    = (configuration.withUsers (documentUsers users canary)).canonicalize.xray
  compiled : s.members.compileDesiredUsers node = .ok users
  active : activeCanary s'.canaries node = some canary
  users : signed.document.users.Perm (documentUsers users canary)

structure PublishedInOrder (s s' : PolicyStore)
    (prepared : List (OperatorRollbackTarget × DesiredStateConfigurationDraft))
    (publications : List OperatorRollbackPublication) : Prop where
  targets : publications.map targetOf = prepared.map Prod.fst
  revisions : publications.map (·.revision)
    = List.range' (s.lastRevision + 1) publications.length
  documents : ∃ new, s'.documents = new ++ s.documents ∧
    new.map Prod.fst = (publications.map fun p => (p.nodeId, p.revision)).reverse
  members : s'.members = s.members
  others : ∀ node, node ∉ publications.map (·.nodeId) →
    s'.nodes.find node = s.nodes.find node ∧
      activeCanary s'.canaries node = activeCanary s.canaries node
  installed : ∀ p ∈ publications, ∃ configuration, (targetOf p, configuration) ∈ prepared ∧
    ∃ row signed users canary,
      Installed s s' p.nodeId p.revision configuration row signed users canary

theorem nodes_of_targets {publications : List OperatorRollbackPublication}
    (h : publications.map targetOf = targets) :
    publications.map (·.nodeId) = targets.map (·.nodeId) := by
  rw [← h, List.map_map]
  rfl

variable {policy mid last : PolicyStore}

theorem installed_first {node : NodeId} {row : NodeRecord}
    {signed : SignedDesiredState} {users : List CompiledDesiredUser}
    (hcompile : policy.members.compileDesiredUsers node = .ok users)
    (h : Publishes identity policy mid node configuration users (draws.canary node) now row signed)
    (hevol : Evolves mid last) (hnodes : last.nodes.find node = mid.nodes.find node)
    (hcan : activeCanary last.canaries node = activeCanary mid.canaries node) :
    Installed policy last node (policy.lastRevision + 1) configuration row signed users
      (ensureEndpointCanaryCredential policy.canaries node (draws.canary node)).1 := by
  obtain ⟨hfound, -, hdoc, -, rfl⟩ := h
  refine ⟨hfound, ?_, ?_, ?_, ?_, hcompile, ?_, ?_⟩
  · rw [hnodes, find_nodes_published _ _ _ _ hfound, if_pos rfl]
    rfl
  · rw [hevol.documents node (policy.lastRevision + 1) le_rfl]
    exact (Table.find_insert _ _ _ _).trans (if_pos rfl)
  · rw [hdoc]
    rfl
  · rw [hdoc]
    rfl
  · rw [hcan]
    exact activeCanary_ensure node
  · rw [hdoc]
    exact (DesiredStateDraft.canonicalize_perm _).1

/-- A later publication of the loop is about another node, which the first one leaves alone. -/
theorem Installed.of_later {node other : NodeId}
    {rev : Revision} {row row' : NodeRecord} {signed signed' : SignedDesiredState}
    {users users' : List CompiledDesiredUser} {canary : CanaryCredential} {fresh : FreshCanary}
    {configuration' : DesiredStateConfigurationDraft}
    (h : Installed mid last other rev configuration row signed users canary)
    (hfirst : Publishes identity policy mid node configuration' users' fresh now row' signed')
    (hne : other ≠ node) :
    Installed policy last other rev configuration row signed users canary := by
  have hbef := h.before
  have hcomp := h.compiled
  obtain ⟨hfound, -, -, -, rfl⟩ := hfirst
  rw [find_nodes_published _ _ _ _ hfound, if_neg hne] at hbef
  exact { h with before := hbef, compiled := hcomp }

theorem publishTargets_inOrder
    (h : s.publishTargets identity key reason draws now prepared = .ok (s', publications))
    (hnd : (prepared.map (·.1.nodeId)).Nodup) :
    PublishedInOrder s.policy s'.policy prepared publications := by
  induction prepared generalizing s publications with
  | nil =>
    obtain ⟨rfl, rfl⟩ := Prod.mk.inj (Except.ok.inj h)
    exact ⟨rfl, rfl, ⟨[], rfl, rfl⟩, rfl, fun _ _ => ⟨rfl, rfl⟩, nofun⟩
  | cons first rest ih =>
    obtain ⟨target, configuration⟩ := first
    obtain ⟨users, husr, h⟩ := bind_ok.1 h
    obtain ⟨policy, hpol, h⟩ := bind_ok.1 h
    obtain ⟨⟨last, tail⟩, htail, h⟩ := bind_ok.1 h
    obtain ⟨rfl, rfl⟩ := Prod.mk.inj (Except.ok.inj h)
    obtain ⟨hnew, hnd⟩ := List.nodup_cons.1 hnd
    have hrest := ih htail hnd
    obtain ⟨row, signed, hpubs⟩ := publishes_of_ok hpol
    have hevol : Evolves policy last.policy :=
      evolves_publishRollbacks (publishTargets_policy htail).1
    have hlast : policy.lastRevision = s.policy.lastRevision + 1 := by
      rw [hpubs.eq]
      rfl
    have htailNodes : tail.map (·.nodeId) = rest.map (·.1.nodeId) := by
      rw [nodes_of_targets hrest.targets, List.map_map]
      rfl
    have hfirst := hrest.others target.nodeId (htailNodes ▸ hnew)
    refine ⟨congrArg (target :: ·) hrest.targets, ?_, ?_, ?_, ?_, ?_⟩
    · have hrevs := hrest.revisions
      simp only [hlast] at hrevs
      rw [List.map_cons, hrevs, List.length_cons, List.range'_succ]
    · obtain ⟨new, hdocs, hkeys⟩ := hrest.documents
      refine ⟨new ++ [((target.nodeId, s.policy.lastRevision + 1), signed)], ?_, ?_⟩
      · rw [hdocs, hpubs.eq, List.append_assoc]
        rfl
      · rw [List.map_append, hkeys, List.map_cons, List.map_cons, List.reverse_cons]
        rfl
    · rw [hrest.members, hpubs.eq]
      rfl
    · intro node hnode
      obtain ⟨hne, hnode⟩ := not_or.1 (fun hor => hnode (List.mem_cons.2 hor))
      obtain ⟨hnodes, hcan⟩ := hrest.others node hnode
      rw [hnodes, hcan, hpubs.eq]
      exact ⟨(find_nodes_published _ _ _ _ hpubs.found).trans (if_neg hne),
        activeCanary_ensure_ne hne⟩
    · rintro p (_ | ⟨_, hp⟩)
      · exact ⟨configuration, .head _, row, signed, users, _,
          installed_first (mapError_ok.1 husr) hpubs hevol hfirst.1 hfirst.2⟩
      · obtain ⟨other, hmem, row', signed', users', canary, hinst⟩ := hrest.installed p hp
        have hne : p.nodeId ≠ target.nodeId := by
          intro heq
          exact hnew (List.mem_map.2 ⟨_, hmem, heq⟩)
        exact ⟨other, .tail _ hmem, row', signed', users', canary, hinst.of_later hpubs hne⟩

/-! ### The machine -/

/-- An operation of another kind, a report of the host's version and capabilities, and the two kinds
of rollback. -/
inductive RollbackLabel where
  | policy (label : Label)
  | report (node : NodeId) (facts : HostFacts)
  | rollbackCohort (request : OperatorCohortRollbackRequest) (key : String) (draws : Draws)
      (now : Nat)
  | rollbackNode (target : OperatorRollbackTarget) (reason : OperatorRollbackReason)
      (key : String) (draws : Draws) (now : Nat)

/-- The controller with its signing key. A rollback that fails may still write. -/
def rollbackSystem (identity : ControllerIdentity) : Machine RollbackStore RollbackLabel where
  init s := ∃ networkId controllerInstanceId hosts,
    s = ⟨emptyStore networkId controllerInstanceId, hosts, [], []⟩
  next s
    | .policy (.operatorRollback ..) => none
    | .policy label => (perform identity s.policy label).toOption.map fun policy =>
        { s with policy := policy }
    | .report node facts => some { s with hosts := Function.update s.hosts node facts }
    | .rollbackCohort request key draws now =>
      some (s.rollbackCohort identity request key draws now).1
    | .rollbackNode target reason key draws now =>
      some (s.rollbackNode identity target reason key draws now).1

variable {route : RollbackRoute}

/-- What a rollback can do: write nothing, record a rejection, or publish and remember. -/
theorem operatorRollback_cases {answer : Except RollbackError OperatorRollbackResponse}
    (h : s.operatorRollback identity targets reason key route draws now = (s', answer)) :
    let sorted := targets.insertionSort RollbackStore.nodeOrder
    (∃ record, s.records.find (route, key) = some record ∧ s' = s ∧
      answer = if record.targets = sorted ∧ record.reason = reason then .ok record.response
        else .error .idempotencyKeyConflict) ∨ s.records.find (route, key) = none ∧
      ((∃ target ∈ targets, ∃ e, answer = .error (.policy e) ∧ s' = { s with
          audit := s.audit ++ [.rejected target reason (rollbackRejectionCode e) now] }) ∨
      (∃ e, answer = .error (.policy e) ∧ s' = s) ∨ ∃ prepared published publications,
        s.prepareTargets identity sorted = .ok prepared ∧
        s.publishTargets identity key reason draws now prepared = .ok (published, publications) ∧
        answer = .ok ⟨publications⟩ ∧ s' = { published with
          records := published.records.insert (route, key) ⟨sorted, reason, ⟨publications⟩⟩ }) := by
  intro sorted
  simp only [RollbackStore.operatorRollback, RollbackStore.loadRollbackReplay] at h
  cases hfind : s.records.find (route, key) with
  | some record =>
    left
    rw [hfind] at h
    refine ⟨record, rfl, ?_⟩
    dsimp only at h
    by_cases hsame : record.targets = sorted ∧ record.reason = reason
    · rw [if_pos hsame] at h ⊢
      cases h
      exact ⟨rfl, rfl⟩
    · rw [if_neg hsame] at h ⊢
      cases h
      exact ⟨rfl, rfl⟩
  | none =>
    right
    refine ⟨rfl, ?_⟩
    rw [hfind] at h
    dsimp only at h
    split at h
    · rename_i target e hprep
      cases h
      have hmem := (List.perm_insertionSort _ _).mem_iff.1 (prepareTargets_error hprep)
      exact .inl ⟨target, hmem, e, rfl, rfl⟩
    rename_i prepared hprep
    split at h
    · rename_i e hpub
      cases h
      exact .inr (.inl ⟨e, rfl, rfl⟩)
    · rename_i published publications hpub
      cases h
      exact .inr (.inr ⟨prepared, published, publications, hprep, hpub, rfl, rfl⟩)

theorem operatorRollback_step (hanch : Anchored s.policy) :
    let after := (s.operatorRollback identity targets reason key route draws now).1
    Anchored after.policy ∧ ∀ k record, s.records.find k = some record →
      after.records.find k = some record := by
  intro after
  have haft := (Prod.mk.eta
    (p := s.operatorRollback identity targets reason key route draws now)).symm
  rcases operatorRollback_cases haft with ⟨record, -, hs, -⟩ | ⟨hnone, ⟨target, -, e, -, hs⟩ | ⟨e,
    -, hs⟩ | ⟨prepared, pub, publications, hprep, hpub, -, hs⟩⟩
  · rw [show after = s from hs]
    exact ⟨hanch, fun _ _ hfind => hfind⟩
  · rw [show after = _ from hs]
    exact ⟨hanch, fun _ _ hfind => hfind⟩
  · rw [show after = s from hs]
    exact ⟨hanch, fun _ _ hfind => hfind⟩
  · rw [show after = _ from hs]
    have hpol : perform identity s.policy (.operatorRollback targets (compatible s) draws now) = .ok
      pub.policy := operatorRollback_policy hprep hpub
    refine ⟨anchored_perform hanch hpol, fun k record hfind => ?_⟩
    have hrecs := (publishTargets_policy hpub).2.2
    exact Table.find_insert_of_find (hrecs ▸ hnone) (hrecs ▸ hfind)

theorem rollback_step {label : RollbackLabel} (hanch : Anchored s.policy)
    (hnext : (rollbackSystem identity).next s label = some s') : Anchored s'.policy ∧ ∀ k record,
    s.records.find k = some record → s'.records.find k = some record := by
  cases label with
  | policy label =>
    have hperform : ∃ policy, perform identity s.policy label = .ok policy ∧
        { s with policy := policy } = s' := by
      cases label with
      | operatorRollback => cases hnext
      | _ =>
        obtain ⟨policy, hpol, hs⟩ := Option.map_eq_some_iff.1 hnext
        exact ⟨policy, toOption_some.1 hpol, hs⟩
    obtain ⟨policy, hpol, rfl⟩ := hperform
    exact ⟨anchored_perform hanch hpol, fun _ _ hfind => hfind⟩
  | report node facts =>
    cases hnext
    exact ⟨hanch, fun _ _ hfind => hfind⟩
  | rollbackCohort request key draws now =>
    cases hnext
    unfold RollbackStore.rollbackCohort
    split
    · exact ⟨hanch, fun _ _ hfind => hfind⟩
    · exact operatorRollback_step hanch
  | rollbackNode target reason key draws now =>
    cases hnext
    unfold RollbackStore.rollbackNode
    split
    · exact ⟨hanch, fun _ _ hfind => hfind⟩
    · exact operatorRollback_step hanch

theorem anchored_of_reachable (h : (rollbackSystem identity).Reachable s) : Anchored s.policy := by
  apply h.invariant (I := fun s => Anchored s.policy)
  · rintro _ ⟨nid, controllerInstanceId, hosts, rfl⟩
    exact anchored_emptyStore nid controllerInstanceId
  · intro a label b ha _ hnext
    exact (rollback_step ha hnext).1

theorem record_kept {later : RollbackStore} {k : RollbackRoute × String} {record : RollbackRecord}
    (h : (rollbackSystem identity).Reachable s) (hfind : s.records.find k = some record)
    (hsteps : (rollbackSystem identity).Steps (fun _ _ => True) s later) :
    later.records.find k = some record := by
  have hkept : Anchored later.policy ∧ later.records.find k = some record := by
    apply hsteps.preserves (P := fun t => Anchored t.policy ∧ t.records.find k = some record)
    · rintro a label b ⟨hanch, hrec⟩ _ hnext
      obtain ⟨hanch', hrecs⟩ := rollback_step hanch hnext
      exact ⟨hanch', hrecs k record hrec⟩
    · exact ⟨anchored_of_reachable h, hfind⟩
  exact hkept.2

/-! ### All or nothing, once -/

/-- A failed request leaves at most a record of its rejection. -/
structure Refused (s s' : RollbackStore) (request : OperatorCohortRollbackRequest) (now : Nat) :
    Prop where
  policy : s'.policy = s.policy
  hosts : s'.hosts = s.hosts
  records : s'.records = s.records
  audit : s'.audit = s.audit ∨ ∃ target ∈ request.targets, ∃ code,
    s'.audit = s.audit ++ [.rejected target request.reason code now]

/-- The document that a node gets: newer than the one that failed, with the source's configuration
and the members compiled now. -/
structure RollsBack (s s' : PolicyStore) (p : OperatorRollbackPublication) (row : NodeRecord)
    (source signed : SignedDesiredState) (users : List CompiledDesiredUser)
    (canary : CanaryCredential) : Prop where
  before : s.nodes.find p.nodeId = some row
  failed : row.desiredRevision = some p.failedRevision
  newer : p.failedRevision < p.revision
  after : s'.nodes.find p.nodeId = some
    { row with
      desiredRevision := some p.revision
      targets := row.targets ++ [p.revision]
      lastRevision := p.revision }
  origin : s.documents.find (p.nodeId, p.sourceRevision) = some source
  document : s'.documents.find (p.nodeId, p.revision) = some signed
  revision : signed.document.revision = p.revision
  xray : signed.document.xray = source.document.xray
  compiled : s.members.compileDesiredUsers p.nodeId = .ok users
  active : activeCanary s'.canaries p.nodeId = some canary
  users : signed.document.users.Perm (users.map (·.user) ++ [canary.desiredUser])

structure CohortPublished (s s' : RollbackStore) (request : OperatorCohortRollbackRequest)
    (key : String) (response : OperatorRollbackResponse) : Prop where
  targets : (response.publications.map targetOf).Perm request.targets
  order : (response.publications.map (·.nodeId)).Pairwise (· < ·)
  revisions : response.publications.map (·.revision)
    = List.range' (s.policy.lastRevision + 1) response.publications.length
  documents : ∃ new, s'.policy.documents = new ++ s.policy.documents ∧
    new.map Prod.fst = (response.publications.map fun p => (p.nodeId, p.revision)).reverse
  rollsBack : ∀ p ∈ response.publications, ∃ row source signed users canary,
    RollsBack s.policy s'.policy p row source signed users canary
  others : ∀ node, node ∉ request.targets.map (·.nodeId) →
    s'.policy.nodes.find node = s.policy.nodes.find node
  members : s'.policy.members = s.policy.members
  hosts : s'.hosts = s.hosts
  records : s'.records = s.records.insert (.cohort, key)
    ⟨response.publications.map targetOf, request.reason, response⟩

/-- Under its key a completed request is answered with its response, and no other request. -/
def Remembered (identity : ControllerIdentity) (s : RollbackStore)
    (request : OperatorCohortRollbackRequest) (key : String)
    (response : OperatorRollbackResponse) : Prop :=
  ∀ retry draws now,
    (retry.targets.Perm request.targets ∧ retry.reason = request.reason →
      s.rollbackCohort identity retry key draws now = (s, .ok response)) ∧
    (¬ (retry.targets.Perm request.targets ∧ retry.reason = request.reason) →
      ∃ e, s.rollbackCohort identity retry key draws now = (s, .error e) ∧
        (retry.validate = .ok () → e = .idempotencyKeyConflict))

variable {request : OperatorCohortRollbackRequest}

theorem remembered_of_record {response : OperatorRollbackResponse} (hval : request.Valid)
    (hfind : s.records.find (.cohort, key)
      = some ⟨request.targets.insertionSort RollbackStore.nodeOrder, request.reason, response⟩) :
    Remembered identity s request key response := by
  have hanw : ∀ retry draws now, retry.validate = .ok () →
      s.rollbackCohort identity retry key draws now
        = (s, if retry.targets.Perm request.targets ∧ retry.reason = request.reason
          then .ok response else .error .idempotencyKeyConflict) := by
    intro retry draws now hretry
    have hsame : request.targets.insertionSort RollbackStore.nodeOrder = retry.targets.insertionSort
      RollbackStore.nodeOrder ↔ retry.targets.Perm request.targets :=
      RollbackStore.insertionSort_eq_iff_perm hval.nodup
    simp only [RollbackStore.rollbackCohort, hretry, RollbackStore.operatorRollback,
      RollbackStore.loadRollbackReplay, hfind, hsame, eq_comm (a := request.reason)]
    by_cases hretried : retry.targets.Perm request.targets ∧ retry.reason = request.reason
    · rw [if_pos hretried, if_pos hretried]
    · rw [if_neg hretried, if_neg hretried]
  intro retry draws now
  constructor
  · intro hretried
    have hretry := OperatorCohortRollbackRequest.validate_ok.2 (hval.perm hretried.1)
    rw [hanw retry draws now hretry, if_pos hretried]
  · intro hoth
    cases hretry : retry.validate with
    | error e =>
      refine ⟨.protocol e, ?_, by rintro ⟨⟩⟩
      unfold RollbackStore.rollbackCohort
      rw [hretry]
    | ok _ =>
      refine ⟨.idempotencyKeyConflict, ?_, fun _ => rfl⟩
      rw [hanw retry draws now hretry, if_neg hoth]

theorem Eligible.failed_le {policy : PolicyStore} {row : NodeRecord} {src : SignedDesiredState}
    (h : Eligible policy target row src) (hanch : Anchored policy) :
    (target.failedRevision : Nat) ≤ policy.lastRevision := by
  obtain ⟨result, hres⟩ := Option.isSome_iff_exists.1 h.failed
  have htarget := (hanch.tracked _ _ h.found).results _ (NodeRecord.mem_results_of_latest hres)
  obtain ⟨signed, hsigned⟩ := Option.isSome_iff_exists.1 (hanch.targets _ _ h.found _ htarget)
  exact hanch.documents _ _ hsigned

theorem sorted_nodes_lt (hnd : (targets.map (·.nodeId)).Nodup) :
    ((targets.insertionSort RollbackStore.nodeOrder).map (·.nodeId)).Pairwise (· < ·) := by
  have hsort : ((targets.insertionSort RollbackStore.nodeOrder).map (·.nodeId)).Pairwise (· ≤ ·) :=
    List.pairwise_map.2 (List.pairwise_insertionSort RollbackStore.nodeOrder targets)
  have hdist := ((List.perm_insertionSort RollbackStore.nodeOrder targets).map
    (·.nodeId)).nodup_iff.2 hnd
  exact (hsort.and hdist).imp fun ⟨hle, hne⟩ => BitVec.lt_of_le_ne hle hne

theorem cohortPublished {published : RollbackStore}
    (hanch : Anchored s.policy) (hval : request.Valid) (hprep : s.prepareTargets identity
      (request.targets.insertionSort RollbackStore.nodeOrder) = .ok prepared)
    (hpub : s.publishTargets identity key request.reason draws now prepared
      = .ok (published, publications)) : CohortPublished s { published with
        records := published.records.insert (.cohort, key)
          ⟨request.targets.insertionSort RollbackStore.nodeOrder, request.reason,
            ⟨publications⟩⟩ } request key ⟨publications⟩ := by
  obtain ⟨hfirst, hprepared⟩ := prepareTargets_ok hprep
  have hperm := List.perm_insertionSort RollbackStore.nodeOrder request.targets
  have horder := sorted_nodes_lt hval.nodup
  have hnodes : prepared.map (·.1.nodeId)
      = (request.targets.insertionSort RollbackStore.nodeOrder).map (·.nodeId) := by
    rw [← hfirst, List.map_map]
    rfl
  have hnd : (prepared.map (·.1.nodeId)).Nodup := by
    rw [hnodes]
    exact (hperm.map _).nodup_iff.2 hval.nodup
  have hord := publishTargets_inOrder hpub hnd
  have htargets : publications.map targetOf
      = request.targets.insertionSort RollbackStore.nodeOrder := hord.targets.trans hfirst
  obtain ⟨-, hhosts, hrecs⟩ := publishTargets_policy hpub
  refine ⟨htargets ▸ hperm, ?_, hord.revisions, hord.documents, ?_, ?_, hord.members, hhosts, ?_⟩
  · show (publications.map (·.nodeId)).Pairwise (· < ·)
    rw [nodes_of_targets htargets]
    exact horder
  · intro p hp
    obtain ⟨configuration, hmem, row, signed, users, canary, hinst⟩ := hord.installed p hp
    obtain ⟨⟨row', src, helig, rfl⟩, -⟩ := prepareRollbackTarget_ok (hprepared _ hmem)
    obtain rfl := Option.mem_unique hinst.before helig.found
    have hrev : p.revision ∈ List.range' (s.policy.lastRevision + 1) publications.length :=
      hord.revisions ▸ List.mem_map_of_mem hp
    have hbey := (List.mem_range'_1.1 hrev).1
    have hfail := helig.failed_le hanch
    refine ⟨row, src, signed, users, canary, hinst.before, helig.desired,
      lt_of_le_of_lt hfail hbey, hinst.after, helig.source, hinst.document,
      hinst.revision, ?_, hinst.compiled, hinst.active, hinst.users⟩
    -- the src is in canonical order already
    rw [hinst.xray]
    exact DesiredStateDraft.canonicalize_xray (hanch.ordered _ _ helig.source)
  · intro node hnode
    refine (hord.others node ?_).1
    rw [nodes_of_targets htargets]
    intro hmem
    exact hnode ((hperm.map _).mem_iff.1 hmem)
  · show published.records.insert _ _ = _
    rw [hrecs, htargets]

/-- A cohort rollback publishes one document for each node or nothing, and what is completed once is
never done again. -/
theorem cohort_rollback_atomic (h : (rollbackSystem identity).Reachable s)
    {request : OperatorCohortRollbackRequest}
    {answer : Except RollbackError OperatorRollbackResponse}
    (hop : s.rollbackCohort identity request key draws now = (s', answer)) :
    (∀ e, answer = .error e → Refused s s' request now) ∧ ∀ response, answer = .ok response →
      ((s.records.find (.cohort, key)).isSome → s' = s) ∧
      (s.records.find (.cohort, key) = none → CohortPublished s s' request key response) ∧
      ∀ later, (rollbackSystem identity).Steps (fun _ _ => True) s' later →
        Remembered identity later request key response := by
  have hanchored := anchored_of_reachable h
  have hreach : (rollbackSystem identity).Reachable s' := by
    apply h.trans (.single ⟨.rollbackCohort request key draws now, trivial, ?_⟩)
    show some (s.rollbackCohort identity request key draws now).1 = some s'
    rw [hop]
  cases hreq : request.validate with
  | error e =>
    unfold RollbackStore.rollbackCohort at hop
    rw [hreq] at hop
    cases hop
    exact ⟨fun _ _ => ⟨rfl, rfl, rfl, .inl rfl⟩, nofun⟩
  | ok _ =>
    have hval := OperatorCohortRollbackRequest.validate_ok.1 hreq
    unfold RollbackStore.rollbackCohort at hop
    rw [hreq] at hop
    rcases operatorRollback_cases hop with ⟨record, hfind, rfl, hanswer⟩ |
      ⟨hnone, ⟨target, htarget, e, rfl, rfl⟩ | ⟨e, rfl, rfl⟩ |
        ⟨prepared, published, publications, hprepare, hpublish, rfl, rfl⟩⟩
    · refine ⟨fun _ _ => ⟨rfl, rfl, rfl, .inl rfl⟩, fun response hresp => ?_⟩
      rw [hresp] at hanswer
      split at hanswer
      · rename_i hsame
        cases hanswer
        refine ⟨fun _ => rfl, fun hnone => ?_, fun later hsteps => ?_⟩
        · rw [hfind] at hnone
          cases hnone
        · refine remembered_of_record hval ((record_kept hreach hfind hsteps).trans ?_)
          rw [← hsame.1, ← hsame.2]
      · cases hanswer
    · exact ⟨fun _ _ => ⟨rfl, rfl, rfl, .inr ⟨target, htarget, _, rfl⟩⟩, nofun⟩
    · exact ⟨fun _ _ => ⟨rfl, rfl, rfl, .inl rfl⟩, nofun⟩
    · refine ⟨nofun, fun response hresp => ?_⟩
      cases hresp
      refine ⟨fun hsome => ?_, fun _ => cohortPublished hanchored hval hprepare hpublish,
        fun later hsteps => ?_⟩
      · rw [hnone] at hsome
        cases hsome
      · have hsto : (published.records.insert (.cohort, key)
            ⟨request.targets.insertionSort RollbackStore.nodeOrder, request.reason,
              ⟨publications⟩⟩).find (.cohort, key) = _ :=
          (Table.find_insert _ _ _ _).trans (if_pos rfl)
        exact remembered_of_record hval (record_kept hreach hsto hsteps)

/-! ### A cohort of two nodes -/

def resultOf (node : NodeId) (revision : Revision) (state : RevisionResultState) : RollbackLabel :=
  .policy (.recordRevisionResult node revision
    { state := state, configDigest := if state = .rejected then none else some 9
      startedAt := 0, completedAt := 0
      errorCode := if state = .rejected then some .validationFailed else none
      rollbackRevision := none })

def failedUpdateRun : List RollbackLabel :=
  [.policy (.enrollNode 2 (some plainConfiguration) plainDraws 100),
    .policy (.enrollNode 3 (some plainConfiguration) plainDraws 100),
    resultOf 2 1 .validated, resultOf 2 1 .applied,
    resultOf 3 2 .validated, resultOf 3 2 .applied,
    .policy (.publishDesiredState 2 plainConfiguration plainDraws 200),
    .policy (.publishDesiredState 3 plainConfiguration plainDraws 200),
    resultOf 2 3 .rejected, resultOf 3 4 .rejected]

/-- The operator lists the second node first. -/
def recoveryRequest : OperatorCohortRollbackRequest :=
  ⟨[⟨3, 2, 4⟩, ⟨2, 1, 3⟩], .configurationFailure⟩

/-- Both nodes get their first configuration again. -/
theorem two_nodes_rolled_back : ∃ s s', (rollbackSystem plainIdentity).Reachable s ∧
    s.rollbackCohort plainIdentity recoveryRequest "recovery" plainDraws 300
      = (s', .ok ⟨[⟨2, 1, 3, 5⟩, ⟨3, 2, 4, 6⟩]⟩) ∧
    CohortPublished s s' recoveryRequest "recovery" ⟨[⟨2, 1, 3, 5⟩, ⟨3, 2, 4, 6⟩]⟩ ∧
    Remembered plainIdentity s' recoveryRequest "recovery" ⟨[⟨2, 1, 3, 5⟩, ⟨3, 2, 4, 6⟩]⟩ := by
  obtain ⟨s, hrun, hanswer, hnone⟩ := Machine.run_of_exec
    (M := rollbackSystem plainIdentity)
    (fun _ _ => True)
    (fun s => (s.rollbackCohort plainIdentity recoveryRequest "recovery" plainDraws 300).2
        = .ok ⟨[⟨2, 1, 3, 5⟩, ⟨3, 2, 4, 6⟩]⟩ ∧
      s.records.find (.cohort, "recovery") = none)
    failedUpdateRun
    ⟨1, 4, fun _ => ⟨"0.1.0", [.xray]⟩, rfl⟩
    (by decide +kernel)
  have hop : s.rollbackCohort plainIdentity recoveryRequest "recovery" plainDraws 300
      = (_, .ok ⟨[⟨2, 1, 3, 5⟩, ⟨3, 2, 4, 6⟩]⟩) := Prod.ext_iff.2 ⟨rfl, hanswer⟩
  obtain ⟨-, hdone⟩ := cohort_rollback_atomic hrun hop
  obtain ⟨-, hpub, hremembered⟩ := hdone _ rfl
  exact ⟨s, _, hrun, hop, hpub hnone, hremembered _ .refl⟩

end RealityConsole.Policy
