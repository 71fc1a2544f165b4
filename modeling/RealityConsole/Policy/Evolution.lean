import RealityConsole.Policy.Drift

/-!
# What the policy operations leave alone

Documents, canary listings and canaries are never taken back: an operation only adds revisions
beyond the last one and credentials at the end. It holds of every operation, careful or not.
-/

namespace RealityConsole.Policy

open Framework Protocol Controller Controller.Members

variable {identity : ControllerIdentity} {s s' t : PolicyStore} {node : NodeId} {userId : UserId}
  {draws : Draws} {now : Nat} {configuration : DesiredStateConfigurationDraft}
  {record after : NodeRecord}

/-- Revisions are numbered up to the last one, documents are in canonical order, and what a node
reports is published to it. -/
structure Anchored (s : PolicyStore) : Prop where
  documents : ∀ key signed, s.documents.find key = some signed → (key.2 : Nat) ≤ s.lastRevision
  ordered : ∀ key signed, s.documents.find key = some signed →
    DesiredXrayState.Ordered signed.document.xray
  targets : ∀ node record, s.nodes.find node = some record →
    ∀ revision ∈ record.targets, (s.documents.find (node, revision)).isSome
  tracked : ∀ node record, s.nodes.find node = some record → Tracked record

theorem Anchored.applied_document (h : Anchored s) (hfind : s.nodes.find node = some record)
    {rev : Revision} (happ : record.appliedRevision = some rev) :
    (s.documents.find (node, rev)).isSome :=
  h.targets node record hfind rev ((h.tracked node record hfind).applied rev happ)

/-- What an operation does to the tables that endpoints refer to. -/
structure Evolves (s s' : PolicyStore) : Prop where
  network : s'.networkId = s.networkId
  last : s.lastRevision ≤ s'.lastRevision
  documents : ∀ node (revision : Nat), revision ≤ s.lastRevision →
    s'.documents.find (node, revision) = s.documents.find (node, revision)
  revisionCanaries : ∀ node (revision : Nat), revision ≤ s.lastRevision →
    s'.revisionCanaries.find (node, revision) = s.revisionCanaries.find (node, revision)
  canaries : s.canaries <+: s'.canaries
  nodes : ∀ node record, s.nodes.find node = some record → ∃ record',
    s'.nodes.find node = some record' ∧
      record'.lastHeartbeatGeneration = record.lastHeartbeatGeneration
  anchored : Anchored s → Anchored s'

theorem Evolves.refl (s : PolicyStore) : Evolves s s where
  network := rfl
  last := le_rfl
  documents _ _ _ := rfl
  revisionCanaries _ _ _ := rfl
  canaries := List.prefix_rfl
  nodes _ record hfind := ⟨record, hfind, rfl⟩
  anchored h := h

theorem Evolves.trans (h : Evolves s s') (h' : Evolves s' t) : Evolves s t where
  network := h'.network.trans h.network
  last := h.last.trans h'.last
  documents node revision hle :=
    (h'.documents node revision (hle.trans h.last)).trans (h.documents node revision hle)
  revisionCanaries node revision hle :=
    (h'.revisionCanaries node revision (hle.trans h.last)).trans
      (h.revisionCanaries node revision hle)
  canaries := h.canaries.trans h'.canaries
  nodes := by
    intro node record hfind
    obtain ⟨mid, hmid, hgen⟩ := h.nodes node record hfind
    obtain ⟨last, hlast, hgen'⟩ := h'.nodes node mid hmid
    exact ⟨last, hlast, hgen'.trans hgen⟩
  anchored hs := h'.anchored (h.anchored hs)

/-! ### Members, publications and node rows -/

theorem evolves_members (m : Members) : Evolves s { s with members := m } := { Evolves.refl s with
  anchored h := ⟨h.documents, h.ordered, h.targets, h.tracked⟩ }

theorem evolves_ensureCanary (fresh : FreshCanary) :
    Evolves s { s with canaries := (ensureEndpointCanaryCredential s.canaries node fresh).2 } :=
  { Evolves.refl s with
  canaries := by
    unfold ensureEndpointCanaryCredential
    cases activeCanary s.canaries node with
    | some canary => exact List.prefix_rfl
    | none => exact List.prefix_append _ _
  anchored h := ⟨h.documents, h.ordered, h.targets, h.tracked⟩ }

theorem find_updateAt_of_find (f : NodeRecord → NodeRecord)
    (hfind : s.nodes.find node = some record) (other : NodeId) :
    (s.nodes.updateAt node f).find other
      = if other = node then some (f record) else s.nodes.find other := by
  rw [Table.find_updateAt]
  by_cases hoth : other = node
  · rw [if_pos hoth, if_pos hoth, hoth, hfind]
    rfl
  · rw [if_neg hoth, if_neg hoth]

theorem anchored_updateRow (f : NodeRecord → NodeRecord) (hfind : s.nodes.find node = some record)
    (htargets : (f record).targets = record.targets)
    (htracked : Tracked record → Tracked (f record)) (h : Anchored s) :
    Anchored { s with nodes := s.nodes.updateAt node f } := by
  have hnodes : ∀ other row, (s.nodes.updateAt node f).find other = some row →
      (∀ rev ∈ row.targets, (s.documents.find (other, rev)).isSome) ∧ Tracked row := by
    intro other row hoth
    rw [find_updateAt_of_find f hfind] at hoth
    rcases ite_eq_iff.1 hoth with ⟨rfl, hrow⟩ | ⟨-, hoth⟩
    · cases hrow
      rw [htargets]
      exact ⟨h.targets other record hfind, htracked (h.tracked other record hfind)⟩
    · exact ⟨h.targets other row hoth, h.tracked other row hoth⟩
  exact ⟨h.documents, h.ordered, fun other row hoth => (hnodes other row hoth).1,
    fun other row hoth => (hnodes other row hoth).2⟩

theorem evolves_updateRow (f : NodeRecord → NodeRecord) (hfind : s.nodes.find node = some record)
    (hgen : (f record).lastHeartbeatGeneration = record.lastHeartbeatGeneration)
    (htargets : (f record).targets = record.targets)
    (htracked : Tracked record → Tracked (f record)) :
    Evolves s { s with nodes := s.nodes.updateAt node f } := by
  refine ⟨rfl, le_rfl, fun _ _ _ => rfl, fun _ _ _ => rfl, List.prefix_rfl, ?_,
    anchored_updateRow f hfind htargets htracked⟩
  intro other row hoth
  rw [find_updateAt_of_find f hfind]
  by_cases hnode : other = node
  · subst hnode
    obtain rfl := Option.mem_unique hfind hoth
    exact ⟨f record, if_pos rfl, hgen⟩
  · exact ⟨row, (if_neg hnode).trans hoth, rfl⟩

/-- A publication adds a revision beyond the last one. -/
theorem evolves_publish {users : List CompiledDesiredUser} {fresh : FreshCanary} {row : NodeRecord}
    {signed : SignedDesiredState}
    (h : Publishes identity s s' node configuration users fresh now row signed) : Evolves s s' := by
  obtain ⟨hfound, -, hdoc, -, rfl⟩ := h
  have hnodes := fun other => find_nodes_published users
    (ensureEndpointCanaryCredential s.canaries node fresh) signed other hfound
  have hbey : ∀ {other : NodeId} {rev : Nat}, rev ≤ s.lastRevision →
      ¬ (other, rev) = (node, s.lastRevision + 1) := by
    intro other rev hle hkey
    have hrev : rev = s.lastRevision + 1 := (Prod.mk.inj hkey).2
    omega
  have hkept : ∀ {other : NodeId} {rev : Nat}, rev ≤ s.lastRevision →
      (s.documents.insert (node, s.lastRevision + 1) signed).find (other, rev)
        = s.documents.find (other, rev) :=
    fun hle => (Table.find_insert _ _ _ _).trans (if_neg (hbey hle))
  refine ⟨rfl, Nat.le_succ _, fun _ _ hle => hkept hle, ?_, (evolves_ensureCanary fresh).canaries,
    ?_, ?_⟩
  · intro other rev hle
    exact (Table.find_insert _ _ _ _).trans (if_neg (hbey hle))
  · intro other record hoth
    rw [hnodes]
    by_cases hnode : other = node
    · subst hnode
      obtain rfl := Option.mem_unique hfound hoth
      exact ⟨_, if_pos rfl, rfl⟩
    · exact ⟨record, (if_neg hnode).trans hoth, rfl⟩
  · intro hs
    have hodoc : ∀ {other : NodeId} {rev : Nat},
        (s.documents.find (other, rev)).isSome →
          ((s.documents.insert (node, s.lastRevision + 1) signed).find (other, rev)).isSome := by
      intro other rev hsome
      obtain ⟨stored, hsto⟩ := Option.isSome_iff_exists.1 hsome
      rwa [hkept (hs.documents _ _ hsto)]
    refine ⟨?_, ?_, ?_, ?_⟩
    · intro key stored hsto
      rcases Table.find_insert_cases hsto with ⟨rfl, -⟩ | hsto
      · exact le_rfl
      · exact (hs.documents key stored hsto).trans (Nat.le_succ _)
    · intro key stored hsto
      rcases Table.find_insert_cases hsto with ⟨-, rfl⟩ | hsto
      · rw [hdoc]
        exact DesiredStateDraft.canonicalize_ordered _
      · exact hs.ordered key stored hsto
    · intro other record hoth rev hrev
      show ((s.documents.insert (node, s.lastRevision + 1) signed).find (other, rev)).isSome
      rw [hnodes] at hoth
      rcases ite_eq_iff.1 hoth with ⟨rfl, hrow⟩ | ⟨-, hoth⟩
      · cases hrow
        rcases List.mem_append.1 hrev with hold | hnew
        · exact hodoc (hs.targets other row hfound rev hold)
        · rw [List.mem_singleton.1 hnew, Table.find_insert, if_pos rfl]
          rfl
      · exact hodoc (hs.targets other record hoth rev hrev)
    · intro other record hoth
      rw [hnodes] at hoth
      rcases ite_eq_iff.1 hoth with ⟨rfl, hnew⟩ | ⟨-, hoth⟩
      · cases hnew
        have hrow := hs.tracked other row hfound
        exact ⟨fun entry hent => List.mem_append_left _ (hrow.results entry hent),
          fun rev happ => List.mem_append_left _ (hrow.applied rev happ)⟩
      · exact hs.tracked other record hoth

/-! ### The operations -/

theorem evolves_publishCompiled {users : List CompiledDesiredUser} {fresh : FreshCanary}
    (hop : s.publishCompiledDesiredState identity node configuration users fresh now = .ok s') :
    Evolves s s' := by
  obtain ⟨row, signed, hpub⟩ := publishes_of_ok hop
  exact evolves_publish hpub

theorem evolves_compileAndPublish
    (hop : s.compileAndPublish identity node configuration draws now = .ok s') : Evolves s s' := by
  obtain ⟨users, hop⟩ := rest_ok hop
  exact evolves_publishCompiled hop

theorem evolves_publishAccountRevisions {nodes : List NodeId}
    (hop : s.publishAccountRevisions identity draws now nodes = .ok s') : Evolves s s' := by
  induction nodes generalizing s with
  | nil =>
    obtain rfl := Except.ok.inj hop
    exact Evolves.refl s
  | cons first rest ih =>
    obtain ⟨cur, hop⟩ := rest_ok hop
    obtain ⟨mid, hmid, hop⟩ := bind_ok.1 hop
    exact (evolves_compileAndPublish hmid).trans (ih hop)

theorem evolves_publishRollbacks {prepared : List (NodeId × DesiredStateConfigurationDraft)}
    (hop : s.publishRollbacks identity draws now prepared = .ok s') : Evolves s s' := by
  induction prepared generalizing s with
  | nil =>
    obtain rfl := Except.ok.inj hop
    exact Evolves.refl s
  | cons first rest ih =>
    obtain ⟨mid, hmid, hop⟩ := bind_ok.1 hop
    exact (evolves_compileAndPublish hmid).trans (ih hop)

theorem evolves_setAccountStatus {requested : Controller.AccountStatus}
    (hop : s.setAccountStatus identity userId requested draws now = .ok s') : Evolves s s' := by
  obtain ⟨cur, hop⟩ := rest_ok hop
  obtain ⟨_, hop⟩ := rest_ok hop
  split at hop
  · cases hop
    exact Evolves.refl s
  · obtain ⟨members, hop⟩ := rest_ok hop
    exact (evolves_members members).trans (evolves_publishAccountRevisions hop)

theorem evolves_insertNode (hfresh : s.nodes.find node = none) (status : NodeStatus) :
    Evolves s (s.insertNode node status) := { Evolves.refl s with
  nodes _ record hfind := ⟨record, Table.find_insert_of_find hfresh hfind, rfl⟩
  anchored h := by
    refine ⟨h.documents, h.ordered, ?_, ?_⟩
    · intro other record hoth rev hrev
      rcases Table.find_insert_cases hoth with ⟨-, rfl⟩ | hold
      · cases hrev
      · exact h.targets other record hold rev hrev
    · intro other record hoth
      rcases Table.find_insert_cases hoth with ⟨-, rfl⟩ | hold
      · constructor
        · intro entry hent
          cases hent
        · intro rev happ
          cases happ
      · exact h.tracked other record hold }

theorem evolves_enrollNode {configuration : Option DesiredStateConfigurationDraft}
    (hop : s.enrollNode identity node configuration draws now = .ok s') : Evolves s s' := by
  obtain ⟨_, hfresh, hop⟩ := bind_ok.1 hop
  have hnone : s.nodes.find node = none := by simpa using refuse_ok.1 hfresh
  cases configuration with
  | none =>
    cases hop
    exact evolves_insertNode hnone _
  | some configuration => exact (evolves_insertNode hnone _).trans (evolves_publishCompiled hop)

theorem evolves_transitionNode {action : NodeLifecycleAction}
    (hop : s.transitionNode node action = .ok s') : Evolves s s' := by
  obtain ⟨record, hrec, hop⟩ := bind_ok.1 hop
  obtain ⟨tgt, hop⟩ := rest_ok hop
  cases hop
  have hrow : Evolves s { s with
      nodes := s.nodes.updateAt node fun row => { row with status := tgt } } :=
    evolves_updateRow _ (required_ok.1 hrec) rfl rfl
      fun htracked => ⟨htracked.results, htracked.applied⟩
  exact hrow.trans (evolves_members _)

theorem evolves_reconcileNodeDesiredState
    (hop : s.reconcileNodeDesiredState identity node draws now = .ok s') : Evolves s s' := by
  obtain ⟨cur, hop⟩ := rest_ok hop
  obtain ⟨users, hop⟩ := rest_ok hop
  dsimp only at hop
  split at hop
  · cases hop
    exact evolves_ensureCanary _
  · exact (evolves_ensureCanary _).trans (evolves_publishCompiled hop)

theorem evolves_recordRevisionResult {rev : Revision} {result : RevisionResult}
    (hop : s.recordRevisionResult node rev result = .ok s') : Evolves s s' := by
  obtain ⟨record, hrec, hop⟩ := bind_ok.1 hop
  obtain ⟨after, haft, hop⟩ := bind_ok.1 hop
  split at hop
  · cases hop
    exact Evolves.refl s
  rename_i hnew
  obtain ⟨hrecd, htarget, hback⟩ := recorded_of_new (mapError_ok.1 haft) hnew
  have hsto : Evolves s { s with nodes := s.nodes.updateAt node fun _ => after } :=
    evolves_updateRow _ (required_ok.1 hrec) hrecd.generation hrecd.targets
      fun htracked => htracked.recorded hrecd htarget hback
  split at hop
  · obtain ⟨applied, hop⟩ := rest_ok hop
    split at hop
    · cases hop
      exact hsto
    · cases hop
      exact hsto.trans (evolves_members _)
  · cases hop
    exact hsto

theorem evolves_perform {label : Label} (hop : perform identity s label = .ok s')
    (hrot : ∀ node draws now, label ≠ .rotateProtocolCanary node draws now)
    (hhb : ∀ node beat, label ≠ .recordHeartbeat node beat) : Evolves s s' := by
  cases label with
  | createAccount =>
    obtain ⟨members, hop⟩ := rest_ok hop
    cases hop
    exact evolves_members members
  | replaceAccountNodes =>
    obtain ⟨status, hop⟩ := rest_ok hop
    obtain ⟨_, hop⟩ := rest_ok hop
    obtain ⟨_, hop⟩ := rest_ok hop
    obtain ⟨⟨members, enabled⟩, hop⟩ := rest_ok hop
    exact (evolves_members _).trans (evolves_publishAccountRevisions hop)
  | setAccountStatus => exact evolves_setAccountStatus hop
  | rotateAccountCredentials =>
    obtain ⟨⟨members, affected⟩, hop⟩ := rest_ok hop
    exact (evolves_members _).trans (evolves_publishAccountRevisions hop)
  | enrollNode => exact evolves_enrollNode hop
  | transitionNode => exact evolves_transitionNode hop
  | publishDesiredState =>
    obtain ⟨record, hop⟩ := rest_ok hop
    obtain ⟨_, hop⟩ := rest_ok hop
    exact evolves_compileAndPublish hop
  | operatorRollback =>
    obtain ⟨prepared, hop⟩ := rest_ok hop
    exact evolves_publishRollbacks hop
  | reconcileNodeDesiredState => exact evolves_reconcileNodeDesiredState hop
  | rotateProtocolCanary node draws now => exact absurd rfl (hrot node draws now)
  | recordRevisionResult => exact evolves_recordRevisionResult hop
  | recordHeartbeat node beat => exact absurd rfl (hhb node beat)

theorem anchored_perform {label : Label} (h : Anchored s)
    (hop : perform identity s label = .ok s') : Anchored s' := by
  by_cases hrot : ∃ node draws now, label = .rotateProtocolCanary node draws now
  · obtain ⟨node, draws, now, rfl⟩ := hrot
    obtain ⟨cur, hop⟩ := rest_ok hop
    -- a rotation changes canaries and then publishes
    exact (evolves_compileAndPublish hop).anchored ⟨h.documents, h.ordered, h.targets, h.tracked⟩
  by_cases hhb : ∃ node heartbeat, label = .recordHeartbeat node heartbeat
  · obtain ⟨node, heartbeat, rfl⟩ := hhb
    obtain ⟨record, hrec, hop⟩ := bind_ok.1 hop
    obtain ⟨after, haft, hop⟩ := bind_ok.1 hop
    cases hop
    have hfound := required_ok.1 hrec
    rcases NodeRecord.heartbeat_cases (mapError_ok.1 haft) with rfl | rfl
    · exact anchored_updateRow _ hfound rfl id h
    · exact anchored_updateRow _ hfound rfl (fun htracked => ⟨htracked.results, htracked.applied⟩) h
  refine (evolves_perform hop ?_ ?_).anchored h
  · rintro node draws now rfl
    exact hrot ⟨node, draws, now, rfl⟩
  · rintro node heartbeat rfl
    exact hhb ⟨node, heartbeat, rfl⟩

theorem anchored_emptyStore (nid : NetworkId) (controllerInstanceId : ControllerInstanceId) :
    Anchored (emptyStore nid controllerInstanceId) := by
  refine ⟨?_, ?_, ?_, ?_⟩
  · intro key signed hfind
    cases hfind
  · intro key signed hfind
    cases hfind
  · intro node record hfind
    cases hfind
  · intro node record hfind
    cases hfind

end RealityConsole.Policy
