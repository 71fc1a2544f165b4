import RealityConsole.Policy.Invariant

/-!
# The operations keep the invariant

One lemma for each operation: a change of members followed by the publication of the affected nodes,
or a publication to one node. The approval of a node and a rollback need a condition.
-/

namespace RealityConsole.Policy

open Framework Protocol Controller Controller.Members

variable {identity : ControllerIdentity} {s s' : PolicyStore} {rest affected : List NodeId}
  {node : NodeId} {userId : UserId} {draws : Draws} {now : Nat}
  {configuration : DesiredStateConfigurationDraft} {record after : NodeRecord}

/-! ### Publications -/

theorem inv_compileAndPublish (h : Inv s (node :: rest))
    (hop : s.compileAndPublish identity node configuration draws now = .ok s') : Inv s' rest := by
  obtain ⟨users, husr, hop⟩ := bind_ok.1 hop
  obtain ⟨row, signed, hpub⟩ := publishes_of_ok hop
  exact inv_publish h (mapError_ok.1 husr) hpub

theorem inv_publishAccountRevisions {nodes : List NodeId} (h : Inv s nodes)
    (hop : s.publishAccountRevisions identity draws now nodes = .ok s') : Inv s' [] := by
  induction nodes generalizing s with
  | nil =>
    cases hop
    exact h
  | cons first others ih =>
    obtain ⟨cur, hop⟩ := rest_ok hop
    obtain ⟨mid, hmid, hop⟩ := bind_ok.1 hop
    exact ih (inv_compileAndPublish h hmid) hop

theorem inv_publishRollbacks {prepared : List (NodeId × DesiredStateConfigurationDraft)}
    (h : Inv s []) (hop : s.publishRollbacks identity draws now prepared = .ok s') : Inv s' [] := by
  induction prepared generalizing s with
  | nil =>
    cases hop
    exact h
  | cons first others ih =>
    obtain ⟨mid, hmid, hop⟩ := bind_ok.1 hop
    exact ih (inv_compileAndPublish (h.mono (List.nil_subset _)) hmid) hop

theorem inv_publishDesiredState (h : Inv s [])
    (hop : s.publishDesiredState identity node configuration draws now = .ok s') : Inv s' [] := by
  obtain ⟨record, hop⟩ := rest_ok hop
  obtain ⟨_, hop⟩ := rest_ok hop
  exact inv_compileAndPublish (h.mono (List.nil_subset _)) hop

theorem inv_operatorRollback {tgts : List OperatorRollbackTarget}
    {compatible : OperatorRollbackTarget → Bool} (h : Inv s [])
    (hop : s.operatorRollback identity tgts compatible draws now = .ok s') : Inv s' [] := by
  obtain ⟨prepared, hop⟩ := rest_ok hop
  exact inv_publishRollbacks h hop

theorem canary_of_loadLatest (h : Inv s []) {signed : SignedDesiredState}
    (hload : s.loadLatestNodeDesired identity node = .ok signed) :
    ∃ canary, activeCanary s.canaries node = some canary := by
  obtain ⟨record, hrec, hload⟩ := bind_ok.1 hload
  obtain ⟨_, hload⟩ := rest_ok hload
  obtain ⟨revision, hrev, -⟩ := bind_ok.1 hload
  have hnode := h.nodes node record (required_ok.1 hrec)
  obtain ⟨signed, canary, hlist⟩ := hnode.listed List.not_mem_nil revision (required_ok.1 hrev)
  exact ⟨canary, hlist.activeCanary⟩

theorem inv_reconcileNodeDesiredState (h : Inv s [])
    (hop : s.reconcileNodeDesiredState identity node draws now = .ok s') : Inv s' [] := by
  obtain ⟨cur, hload, hop⟩ := bind_ok.1 hop
  obtain ⟨users, husr, hop⟩ := bind_ok.1 hop
  -- the canary exists already, so looking for it changes nothing
  obtain ⟨canary, hcan⟩ := canary_of_loadLatest h hload
  have hensure : ensureEndpointCanaryCredential s.canaries node (draws.canary node)
      = (canary, s.canaries) := by
    unfold ensureEndpointCanaryCredential
    rw [hcan]
  dsimp only at hop
  rw [hensure] at hop
  split at hop
  · cases hop
    exact h
  · obtain ⟨row, signed, hpub⟩ := publishes_of_ok hop
    exact inv_publish (h.mono (List.nil_subset _)) (mapError_ok.1 husr) hpub

theorem inv_rotateCanary (h : Inv s []) (fresh : FreshCanary) :
    Inv { s with canaries := rotateCanary s.canaries node fresh } [node] where
  members := h.members
  enabled a ha hstat _ := h.enabled a ha hstat List.not_mem_nil
  snapshotRows := h.snapshotRows
  nodes := by
    intro other record hfind
    have hoth := h.nodes other record hfind
    by_cases hnode : other = node
    · -- nothing is claimed about this document
      refine { hoth with listed := ?_ }
      intro hnot
      exact absurd (List.mem_singleton.2 hnode) hnot
    apply (hoth.mono fun _ => List.not_mem_nil).frame
    · rfl
    · intro _
      rfl
    · exact activeCanary_rotate_ne hnode
    · intro _ _
      exact Iff.rfl
    · exact le_rfl

theorem inv_rotateProtocolCanary (h : Inv s [])
    (hop : s.rotateProtocolCanary identity node draws now = .ok s') : Inv s' [] := by
  obtain ⟨cur, hop⟩ := rest_ok hop
  exact inv_compileAndPublish (inv_rotateCanary h _) hop

/-! ### Accounts -/

theorem inv_changeAndPublish (h : Inv s []) {m' : Members} {nodes : List NodeId}
    (hchange : Change s.members m' affected) (hsub : affected ⊆ nodes)
    (hop : { s with members := m' }.publishAccountRevisions identity draws now nodes = .ok s') :
    Inv s' [] := by
  have hstale := inv_change h (hchange.mono hsub)
  rw [List.append_nil] at hstale
  exact inv_publishAccountRevisions hstale hop

theorem inv_createAccount (h : Inv s []) (hop : s.createAccount userId = .ok s') : Inv s' [] := by
  obtain ⟨members, hmems, hop⟩ := bind_ok.1 hop
  cases hop
  exact inv_change h (change_insertAccount h.members hmems)

theorem inv_replaceAccountNodes {nodeIds : List NodeId} (h : Inv s [])
    (hop : s.replaceAccountNodes identity userId nodeIds draws now = .ok s') : Inv s' [] := by
  obtain ⟨status, hop⟩ := rest_ok hop
  obtain ⟨_, hop⟩ := rest_ok hop
  obtain ⟨_, hop⟩ := rest_ok hop
  obtain ⟨⟨members, enabled⟩, henable, hop⟩ := bind_ok.1 hop
  have hfirst := change_enableRequestedAssignments h.members henable
  have hrows : ∀ a ∈ s.members.storedAssignments userId, ∃ b ∈ members.assignments,
      b.assignmentId = a.assignmentId ∧ b.nodeId = a.nodeId := by
    intro a ha
    have hmem : a ∈ s.members.assignments :=
      (List.mem_filter.1 ((List.mem_insertionSort _).mp ha)).1
    obtain ⟨b, hb, hid, -, hnode⟩ := hfirst.rows a hmem
    exact ⟨b, hb, hid, hnode⟩
  have hsec := change_disableOmittedAssignments (nodeIds.dedup.insertionSort (· ≤ ·))
    hfirst.sound hrows
  apply inv_changeAndPublish h (hfirst.trans hsec) _ hop
  intro affectedNode hmem
  exact (List.mem_insertionSort _).mpr hmem

theorem inv_setAccountStatus {requested : Controller.AccountStatus} (h : Inv s [])
    (hop : s.setAccountStatus identity userId requested draws now = .ok s') : Inv s' [] := by
  obtain ⟨cur, hop⟩ := rest_ok hop
  obtain ⟨_, hop⟩ := rest_ok hop
  split at hop
  · cases hop
    exact h
  obtain ⟨members, hmems, hop⟩ := bind_ok.1 hop
  apply inv_changeAndPublish h (change_applyAccountStatusTransition h.members hmems) _ hop
  -- enabled assignments are on active nodes, so all of them are published
  intro affectedNode hmem
  obtain ⟨a, ha, rfl⟩ := List.mem_map.1 hmem
  obtain ⟨hrow, -, hstat⟩ := mem_enabledAssignments.1 ha
  obtain ⟨record, hfind, hact⟩ := h.enabled a hrow hstat List.not_mem_nil
  apply List.mem_map.2
  refine ⟨a, List.mem_filter.2 ⟨ha, ?_⟩, rfl⟩
  rw [hfind]
  simpa using hact

theorem inv_rotateAccountCredentials (h : Inv s [])
    (hop : s.rotateAccountCredentials identity userId draws now = .ok s') : Inv s' [] := by
  obtain ⟨⟨members, nodes⟩, hrot, hop⟩ := bind_ok.1 hop
  obtain ⟨rotated, hloop, hrot⟩ := bind_ok.1 hrot
  cases hrot
  exact inv_changeAndPublish h (change_rotateAssignments h.members hloop) (List.Subset.refl _) hop

/-! ### Nodes -/

theorem NodeInv.setStatus {cur : Prop} (h : NodeInv s cur node record) (status : NodeStatus)
    (hact : status = .active → ∀ revision signed canary,
      Listed s node record revision signed canary → ∀ user, user ∈ signed.document.users ↔
        Compiles s.members node user ∨ user = canary.desiredUser) :
    NodeInv s cur node { record with status := status } := { h with
  listed := by
    intro hcur revision hdes
    obtain ⟨signed, canary, hlist⟩ := h.listed hcur revision hdes
    refine ⟨signed, canary, { hlist with mem_iff := ?_ }⟩
    intro hstat
    exact hact hstat revision signed canary hlist }

theorem inv_updateRow (h : Inv s []) (f : NodeRecord → NodeRecord)
    (hfind : s.nodes.find node = some record)
    (hstat : record.status = .active → (f record).status = .active)
    (hnode : NodeInv s True node (f record)) :
    Inv { s with nodes := s.nodes.updateAt node f } [] where
  members := h.members
  enabled := by
    intro a ha henab _
    rw [Table.find_updateAt]
    obtain ⟨row, hrow, hact⟩ := h.enabled a ha henab List.not_mem_nil
    by_cases han : a.nodeId = node
    · rw [han] at hrow
      obtain rfl := Option.mem_unique hfind hrow
      rw [if_pos han, han, hfind]
      exact ⟨f record, rfl, hstat hact⟩
    · rw [if_neg han]
      exact ⟨row, hrow, hact⟩
  snapshotRows := h.snapshotRows
  nodes := by
    intro other row hrow
    have hkept : NodeInv s (other ∉ ([] : List NodeId)) other row := by
      replace hrow : (s.nodes.updateAt node f).find other = some row := hrow
      rw [Table.find_updateAt] at hrow
      by_cases hoth : other = node
      · rw [if_pos hoth, hoth, hfind] at hrow
        cases hrow
        rw [hoth]
        exact hnode.mono fun _ => trivial
      · rw [if_neg hoth] at hrow
        exact h.nodes other row hrow
    exact hkept.frame rfl (fun _ => rfl) rfl (fun _ _ => Iff.rfl) le_rfl

variable {action : NodeLifecycleAction}

theorem not_enabled_of_close {m : Members} (hactn : action ≠ .approve) {a : Assignment}
    (ha : a ∈ (m.closeNodeMemberAccess node action).assignments) (hnode : a.nodeId = node) :
    a.status ≠ .enabled := by
  cases action with
  | approve => exact absurd rfl hactn
  | disable =>
    obtain ⟨b, -, rfl⟩ := mem_assignments_updateStatuses.1 ha
    show (if b.nodeId = node ∧ b.status = .enabled then AssignmentStatus.disabled
      else b.status) ≠ .enabled
    by_cases hb : b.nodeId = node ∧ b.status = .enabled
    · rw [if_pos hb]
      decide
    rw [if_neg hb]
    intro hstat
    exact hb ⟨hnode, hstat⟩
  | revoke =>
    obtain ⟨b, -, rfl⟩ := mem_assignments_updateStatuses.1 ha
    show (if b.nodeId = node then AssignmentStatus.deleted else b.status) ≠ .enabled
    rw [if_pos hnode]
    decide

theorem inv_close (h : Inv s []) {tgt : NodeStatus}
    (hfind : s.nodes.find node = some record) (hactn : action ≠ .approve)
    (htarget : tgt ≠ .active) : Inv { s with
      nodes := s.nodes.updateAt node fun row => { row with status := tgt }
      members := s.members.closeNodeMemberAccess node action } [] := by
  have hchange := change_closeNodeMemberAccess h.members node action
  have hfinds : ∀ {other}, other ≠ node →
      (s.nodes.updateAt node fun row => { row with status := tgt }).find other
        = s.nodes.find other := by
    intro other hoth
    rw [Table.find_updateAt, if_neg hoth]
  refine ⟨hchange.sound, ?_, ?_, ?_⟩
  · intro a ha henab _
    have hoth : a.nodeId ≠ node := fun hnode => not_enabled_of_close hactn ha hnode henab
    rcases hchange.enabled a ha henab with ⟨b, hb, hbn, hbefore⟩ | hmem
    · obtain ⟨row, hrow, hact⟩ := h.enabled b hb hbefore List.not_mem_nil
      exact ⟨row, (hfinds hoth).trans (hbn ▸ hrow), hact⟩
    · exact absurd (List.mem_singleton.1 hmem) hoth
  · intro other revision id hsnap
    obtain ⟨c, hc, rfl⟩ := h.snapshotRows other revision id hsnap
    exact hchange.ids c hc
  · intro other row hrow
    have hkept : NodeInv { s with members := s.members.closeNodeMemberAccess node action }
        (other ∉ ([] : List NodeId)) other row := by
      replace hrow : (s.nodes.updateAt node fun row => { row with status := tgt }).find other
        = some row := hrow
      by_cases hoth : other = node
      · subst hoth
        rw [Table.find_updateAt, if_pos rfl, hfind] at hrow
        cases hrow
        have hset := (h.nodes other record hfind).setStatus tgt fun hact => absurd hact htarget
        exact hset.change h.snapshotRows hchange id fun _ hact => absurd hact htarget
      · rw [hfinds hoth] at hrow
        apply (h.nodes other row hrow).change h.snapshotRows hchange id
        intro _ _ hmem
        exact hoth (List.mem_singleton.1 hmem)
    exact hkept.frame rfl (fun _ => rfl) rfl (fun _ _ => Iff.rfl) le_rfl

/-- The approval of a node is harmless if its last document lists the canary alone. -/
def ApprovalAllowed (s : PolicyStore) (node : NodeId) : Prop :=
  ∀ record ∈ s.nodes.find node, record.status ≠ .active →
    ∀ revision ∈ record.desiredRevision, ∀ signed ∈ s.documents.find (node, revision),
      signed.document.users.length ≤ 1

theorem inv_approve (h : Inv s []) (hfind : s.nodes.find node = some record)
    (halw : ApprovalAllowed s node) :
    Inv { s with nodes := s.nodes.updateAt node fun row => { row with status := .active } } [] := by
  have hnode := (h.nodes node record hfind).mono fun _ : True => List.not_mem_nil
  apply inv_updateRow h (fun row => { row with status := .active }) hfind fun _ => rfl
  by_cases hact : record.status = .active
  · exact hnode.setStatus .active fun _ _ _ _ hlist => hlist.mem_iff hact
  -- nothing compiles for the node, and its document lists nobody
  have hnone : ∀ user, ¬ Compiles s.members node user := by
    rintro user ⟨c, hc, hcomp, -⟩
    apply h.not_compiled List.not_mem_nil _ hc hcomp
    intro row hrow
    rwa [Option.mem_unique hfind hrow] at hact
  refine { hnode with listed := ?_ }
  intro _ revision hdes
  obtain ⟨signed, canary, hlist⟩ := hnode.listed trivial revision hdes
  refine ⟨signed, canary, { hlist with mem_iff := ?_ }⟩
  intro _ user
  have hlen := halw record (Option.mem_def.2 hfind) hact revision
    (Option.mem_def.2 hdes) signed (Option.mem_def.2 hlist.document)
  have husr : signed.document.users = [canary.desiredUser] := by
    obtain ⟨only, honly⟩ := List.length_eq_one_iff.1
      (le_antisymm hlen (List.length_pos_of_mem hlist.mem_canary))
    have hmem := hlist.mem_canary
    rw [honly, List.mem_singleton] at hmem
    rw [honly, hmem]
  rw [husr, List.mem_singleton]
  exact (or_iff_right (hnone user)).symm

theorem inv_transitionNode (h : Inv s []) (halw : action = .approve → ApprovalAllowed s node)
    (hop : s.transitionNode node action = .ok s') : Inv s' [] := by
  obtain ⟨record, hrec, hop⟩ := bind_ok.1 hop
  obtain ⟨tgt, htarget, hop⟩ := bind_ok.1 hop
  cases hop
  have hfind := required_ok.1 hrec
  replace htarget := required_ok.1 htarget
  cases action with
  | approve =>
    have hstat : tgt = .active := by
      cases hcur : record.status <;> simp_all [nodeLifecycleTarget]
    subst hstat
    exact inv_approve h hfind (halw rfl)
  | disable =>
    apply inv_close h hfind (by decide)
    cases hcur : record.status <;> simp_all [nodeLifecycleTarget]
    all_goals subst htarget; decide
  | revoke =>
    apply inv_close h hfind (by decide)
    cases htarget
    decide

/-- A new node has no desired state, and nothing compiles for it. -/
theorem inv_insertNode (h : Inv s []) (hfresh : s.nodes.find node = none) (status : NodeStatus) :
    Inv (s.insertNode node status) [] := by
  have hnodes : ∀ other, (s.insertNode node status).nodes.find other
      = if other = node then some { NodeRecord.enrolled with status := status }
        else s.nodes.find other := fun other => Table.find_insert _ _ _ _
  refine ⟨h.members, ?_, h.snapshotRows, ?_⟩
  · intro a ha henab _
    obtain ⟨row, hrow, hact⟩ := h.enabled a ha henab List.not_mem_nil
    exact ⟨row, Table.find_insert_of_find hfresh hrow, hact⟩
  · intro other row hrow
    rw [hnodes] at hrow
    by_cases hoth : other = node
    · subst hoth
      rw [if_pos rfl] at hrow
      cases hrow
      refine ⟨?_, ?_, ?_, ?_, ?_, ?_⟩
      · intro _ revision hdes
        cases hdes
      · intro revision hrev
        cases hrev
      · intro entry hent
        cases hent
      · intro revision happ
        cases happ
      · intro revision hrev
        cases hrev
      · intro c hc hcomp
        refine absurd hcomp (h.not_compiled List.not_mem_nil ?_ hc)
        intro row hrow
        rw [hfresh] at hrow
        cases hrow
    · rw [if_neg hoth] at hrow
      exact (h.nodes other row hrow).frame rfl (fun _ => rfl) rfl (fun _ _ => Iff.rfl) le_rfl

theorem inv_enrollNode {configuration : Option DesiredStateConfigurationDraft} (h : Inv s [])
    (hop : s.enrollNode identity node configuration draws now = .ok s') : Inv s' [] := by
  obtain ⟨_, hfresh, hop⟩ := bind_ok.1 hop
  rw [refuse_ok, Bool.not_eq_true, Option.isSome_eq_false_iff, Option.isNone_iff_eq_none] at hfresh
  cases configuration with
  | none =>
    cases hop
    exact inv_insertNode h hfresh .pending
  | some configuration =>
    obtain ⟨row, signed, hpub⟩ := publishes_of_ok hop
    apply inv_publish ((inv_insertNode h hfresh .active).mono (List.nil_subset _)) _ hpub
    -- the bootstrap publishes no member, and none compiles
    show s.members.compileDesiredUsers node = .ok []
    rw [h.members.compileDesiredUsers_eq]
    have hnone : s.members.compileRows node = [] := by
      apply List.eq_nil_iff_forall_not_mem.2
      intro c hmem
      obtain ⟨hc, hcomp⟩ := mem_compileRows.1 hmem
      refine h.not_compiled List.not_mem_nil ?_ hc hcomp
      intro row hrow
      rw [hfresh] at hrow
      cases hrow
    rw [hnone]
    rfl

/-! ### Results of the nodes -/

section Reconcile

variable {status : CredentialStatus} {held : Bool} {snapshot : List CredentialId}

theorem isLive_of_reconcile (h : (status.reconcile held).isLive) : status.isLive := by
  cases status <;> cases held <;> first | rfl | cases h

theorem held_of_reconcile (h : status.reconcile held = .active) : held := by
  cases status <;> cases held <;> first | rfl | cases h

/-- A compiled credential stays in service: an active one is in the snapshot. -/
theorem isLive_reconcile (hlive : status.isLive)
    (hact : status = .active → held) : (status.reconcile held).isLive := by
  cases status with
  | pending => cases held <;> rfl
  | active => rw [hact rfl]; rfl
  | retiring => cases hlive
  | revoked => cases hlive

def reconciled (node : NodeId) (snapshot : List CredentialId) (c : Credential) :
    CredentialStatus :=
  if c.nodeId = node then c.status.reconcile (c.credentialId ∈ snapshot) else c.status

theorem compiled_of_reconcile {m : Members} {other : NodeId} {c : Credential}
    (hc : c ∈ (m.reconcileAppliedMemberCredentials node snapshot).credentials) (hcomp :
      (m.reconcileAppliedMemberCredentials node snapshot).isCompiled other c) :
    ∃ d ∈ m.credentials, m.isCompiled other d ∧
      { d with status := reconciled node snapshot d } = c := by
  obtain ⟨d, hd, rfl⟩ := mem_credentials_updateStatuses.1 hc
  obtain ⟨hnode, hlive, hserv⟩ := isCompiled_iff.1 hcomp
  refine ⟨d, hd, isCompiled_iff.2 ⟨hnode, ?_, serves_updateStatuses.1 hserv⟩, rfl⟩
  by_cases hdn : d.nodeId = node
  · rw [if_pos hdn] at hlive
    exact isLive_of_reconcile hlive
  · rwa [if_neg hdn] at hlive

theorem compiled_reconcile {m : Members} {other : NodeId} {d : Credential}
    (hd : d ∈ m.credentials) (hcomp : m.isCompiled other d)
    (hact : other = node → d.status = .active → d.credentialId ∈ snapshot) :
    { d with status := reconciled node snapshot d } ∈
        (m.reconcileAppliedMemberCredentials node snapshot).credentials ∧
      (m.reconcileAppliedMemberCredentials node snapshot).isCompiled other
        { d with status := reconciled node snapshot d } = true := by
  obtain ⟨hnode, hlive, hserv⟩ := isCompiled_iff.1 hcomp
  refine ⟨mem_updateStatuses_of_mem hd, isCompiled_iff.2 ⟨hnode, ?_, serves_updateStatuses.2 hserv⟩⟩
  show (if d.nodeId = node then d.status.reconcile (d.credentialId ∈ snapshot)
    else d.status).isLive = true
  by_cases hdn : d.nodeId = node
  · rw [if_pos hdn]
    apply isLive_reconcile hlive
    intro hstat
    exact decide_eq_true (hact (hnode.symm.trans hdn) hstat)
  · rwa [if_neg hdn]

theorem inv_reconcile (h : Inv s []) (hfind : s.nodes.find node = some record)
    {applied : Revision} (happ : record.appliedRevision = some applied)
    (hsnap : s.snapshots.find (node, applied) = some snapshot) :
    Inv { s with members := s.members.reconcileAppliedMemberCredentials node snapshot } [] := by
  have hact : ∀ other, ∀ d ∈ s.members.credentials, s.members.isCompiled other d = true →
      other = node → d.status = .active → d.credentialId ∈ snapshot := by
    rintro other d hd hcomp rfl hstat
    obtain ⟨revision, hrev, ids, hids, hmem⟩ := (h.nodes other record hfind).active d hd hcomp hstat
    obtain rfl := Option.mem_unique hrev happ
    obtain rfl := Option.mem_unique hids hsnap
    exact hmem
  have hcompiles : ∀ other user,
      Compiles (s.members.reconcileAppliedMemberCredentials node snapshot) other user ↔
        Compiles s.members other user := by
    intro other user
    constructor
    · rintro ⟨c, hc, hcomp, huser⟩
      obtain ⟨d, hd, hdcomp, rfl⟩ := compiled_of_reconcile hc hcomp
      exact ⟨d, hd, hdcomp, huser⟩
    · rintro ⟨d, hd, hcomp, huser⟩
      obtain ⟨hc, hcc⟩ := compiled_reconcile hd hcomp (hact other d hd hcomp)
      exact ⟨_, hc, hcc, huser⟩
  refine ⟨h.members.updateStatuses ?_, ?_, ?_, ?_⟩
  · intro c _ hlive
    by_cases hnode : c.nodeId = node
    · rw [if_pos hnode] at hlive
      exact isLive_of_reconcile hlive
    · rwa [if_neg hnode] at hlive
  · intro a ha henab _
    obtain ⟨b, hb, rfl⟩ := mem_assignments_updateStatuses.1 ha
    exact h.enabled b hb henab List.not_mem_nil
  · intro other revision id hmem
    obtain ⟨c, hc, rfl⟩ := h.snapshotRows other revision id hmem
    exact ⟨_, mem_updateStatuses_of_mem hc, rfl⟩
  · intro other row hrow
    have hoth := h.nodes other row hrow
    refine ⟨?_, hoth.targets, hoth.results, hoth.applied, ?_, ?_⟩
    · intro hcur revision hdes
      obtain ⟨signed, canary, hlist⟩ := hoth.listed hcur revision hdes
      refine ⟨signed, canary, { hlist with mem_iff := ?_ }⟩
      intro hstat user
      rw [hlist.mem_iff hstat user, hcompiles]
    · intro revision hrev later hlat hle c hc hcomp
      obtain ⟨d, hd, hdcomp, rfl⟩ := compiled_of_reconcile hc hcomp
      exact hoth.snapshots revision hrev later hlat hle d hd hdcomp
    · intro c hc hcomp hstat
      obtain ⟨d, hd, hdcomp, rfl⟩ := compiled_of_reconcile hc hcomp
      have hdn := (isCompiled_iff.1 hdcomp).1
      change (if d.nodeId = node then d.status.reconcile (d.credentialId ∈ snapshot)
        else d.status) = .active at hstat
      by_cases hnode : d.nodeId = node
      · -- active now, so the snapshot has it
        rw [if_pos hnode] at hstat
        have hmem := of_decide_eq_true (held_of_reconcile hstat)
        obtain rfl : other = node := hdn.symm.trans hnode
        obtain rfl := Option.mem_unique hfind hrow
        exact ⟨applied, happ, snapshot, hsnap, hmem⟩
      · rw [if_neg hnode] at hstat
        exact hoth.active d hd hdcomp hstat

end Reconcile

variable {result : RevisionResult} {revision : Revision}

theorem recorded_of_new (h : record.recordRevisionResult revision result = .ok after)
    (hnew : record.latestRevisionResult revision ≠ some result) :
    record.Recorded after revision result ∧ revision ∈ record.targets ∧
      (result.state = .rolledBack → ∃ rollback applied,
        result.rollbackRevision = some rollback ∧ (rollback, applied) ∈ record.results) := by
  obtain ⟨_, h⟩ := rest_ok h
  obtain ⟨_, htarget, h⟩ := bind_ok.1 h
  obtain ⟨_, h⟩ := rest_ok h
  rw [if_neg hnew] at h
  obtain ⟨_, hdeps, h⟩ := bind_ok.1 h
  refine ⟨NodeRecord.recorded_of_update h, ?_, ?_⟩
  · obtain ⟨_, htarget⟩ := rest_ok htarget
    obtain ⟨_, htarget⟩ := rest_ok htarget
    exact not_not.1 (refuse_ok.1 htarget)
  · intro hst
    unfold NodeRecord.validateResultDependencies at hdeps
    rw [hst] at hdeps
    cases hvald : record.revisionResultState revision .validated with
    | none =>
      rw [hvald] at hdeps
      cases hdeps
    | some validated =>
      rw [hvald] at hdeps
      dsimp only at hdeps
      split at hdeps
      · cases hdeps
      rename_i applied hbind
      obtain ⟨rollback, hback, hres⟩ := Option.bind_eq_some_iff.1 hbind
      obtain ⟨entry, hent, rfl⟩ := Option.map_eq_some_iff.1 hres
      have hkey := List.find?_some hent
      obtain ⟨rfl, -⟩ : entry.1 = rollback ∧ entry.2.state = .applied := of_decide_eq_true hkey
      exact ⟨entry.1, entry.2, hback, List.mem_of_find?_eq_some hent⟩

/-- The results of a node and its applied cursor speak about revisions published to it. -/
structure Tracked (record : NodeRecord) : Prop where
  results : ∀ entry ∈ record.results, entry.1 ∈ record.targets
  applied : ∀ revision, record.appliedRevision = some revision → revision ∈ record.targets

theorem Tracked.recorded (h : Tracked record)
    (hrecd : record.Recorded after revision result) (htarget : revision ∈ record.targets)
    (hback : result.state = .rolledBack → ∃ rollback applied,
      result.rollbackRevision = some rollback ∧ (rollback, applied) ∈ record.results) :
    Tracked after := by
  refine ⟨?_, ?_⟩
  · rw [hrecd.targets, hrecd.results]
    intro entry hent
    rcases List.mem_append.1 hent with hold | hnew
    · exact h.results entry hold
    · rw [List.mem_singleton.1 hnew]
      exact htarget
  · rw [hrecd.targets, hrecd.applied]
    intro applied happ
    cases hst : result.state with
    | applied =>
      rw [hst] at happ
      cases happ
      -- the larger of the old cursor and the reported revision
      cases hold : record.appliedRevision with
      | none => simpa using htarget
      | some old =>
        rcases max_choice old revision with hmax | hmax
        · rw [Option.getD_some, hmax]
          exact h.applied old hold
        · rw [Option.getD_some, hmax]
          exact htarget
    | rolledBack =>
      rw [hst] at happ
      obtain ⟨rollback, restored, hsome, hmem⟩ := hback hst
      obtain rfl := Option.mem_unique hsome happ
      exact h.results _ hmem
    | received => exact h.applied applied (by rwa [hst] at happ)
    | validated => exact h.applied applied (by rwa [hst] at happ)
    | rejected => exact h.applied applied (by rwa [hst] at happ)

def RollbackAllowed (s : PolicyStore) (node : NodeId) (result : RevisionResult) : Prop :=
  result.state = .rolledBack → ∀ rollback ∈ result.rollbackRevision,
    ∀ c ∈ s.members.credentials, c.nodeId = node → c.status = .active →
      ∃ ids ∈ s.snapshots.find (node, rollback), c.credentialId ∈ ids

theorem nodeInv_recorded
    (h : NodeInv s True node record) (hrecd : record.Recorded after revision result)
    (htarget : revision ∈ record.targets)
    (hback : result.state = .rolledBack → ∃ rollback applied,
      result.rollbackRevision = some rollback ∧ (rollback, applied) ∈ record.results)
    (halw : RollbackAllowed s node result) : NodeInv s True node after := by
  have htracked := Tracked.recorded ⟨h.results, h.applied⟩ hrecd htarget hback
  refine ⟨?_, ?_, htracked.results, htracked.applied, ?_, ?_⟩
  · intro _ revision hdes
    rw [hrecd.desired] at hdes
    obtain ⟨signed, canary, hlist⟩ := h.listed trivial revision hdes
    refine ⟨signed, canary, { hlist with mem_iff := ?_ }⟩
    rw [hrecd.status]
    exact hlist.mem_iff
  · rw [hrecd.targets]
    exact h.targets
  · rw [hrecd.targets]
    exact h.snapshots
  · intro c hc hcomp hstat
    obtain ⟨old, hold, hsnap⟩ := h.active c hc hcomp hstat
    rw [hrecd.applied]
    cases hst : result.state with
    | applied =>
      -- the credential is in every later snapshot
      have holdTarget := h.applied old hold
      refine ⟨max old revision, by rw [hold]; rfl, ?_⟩
      refine h.snapshots old holdTarget _ ?_ (le_max_left _ _) c hc hcomp hsnap
      rcases max_choice old revision with hmax | hmax
      · rwa [hmax]
      · rwa [hmax]
    | rolledBack =>
      obtain ⟨rollback, restored, hsome, -⟩ := hback hst
      obtain ⟨ids, hids, hmem⟩ := halw hst rollback (Option.mem_def.2 hsome) c hc
        (isCompiled_iff.1 hcomp).1 hstat
      exact ⟨rollback, hsome, ids, Option.mem_def.1 hids, hmem⟩
    | received => exact ⟨old, hold, hsnap⟩
    | validated => exact ⟨old, hold, hsnap⟩
    | rejected => exact ⟨old, hold, hsnap⟩

theorem inv_recordRevisionResult (h : Inv s []) (halw : RollbackAllowed s node result)
    (hop : s.recordRevisionResult node revision result = .ok s') : Inv s' [] := by
  obtain ⟨record, hrec, hop⟩ := bind_ok.1 hop
  obtain ⟨after, haft, hop⟩ := bind_ok.1 hop
  have hfind := required_ok.1 hrec
  split at hop
  · cases hop
    exact h
  rename_i hnew
  obtain ⟨hrecd, htarget, hback⟩ := recorded_of_new (mapError_ok.1 haft) hnew
  have hnode := (h.nodes node record hfind).mono fun _ : True => List.not_mem_nil
  have hsto : Inv { s with nodes := s.nodes.updateAt node fun _ => after } [] := by
    apply inv_updateRow h (fun _ => after) hfind
    · intro hact
      rw [hrecd.status, hact]
    · exact nodeInv_recorded hnode hrecd htarget hback halw
  split at hop
  · obtain ⟨applied, happ, hop⟩ := bind_ok.1 hop
    split at hop
    · cases hop
      exact hsto
    rename_i snapshot hsnap
    cases hop
    refine inv_reconcile hsto ?_ (required_ok.1 happ) hsnap
    rw [Table.find_updateAt, if_pos rfl, hfind]
    rfl
  · cases hop
    exact hsto

/-- A heartbeat moves nothing that the invariant speaks about. -/
theorem inv_recordHeartbeat {beat : NodeHeartbeat} (h : Inv s [])
    (hop : s.recordHeartbeat node beat = .ok s') : Inv s' [] := by
  obtain ⟨record, hrec, hop⟩ := bind_ok.1 hop
  obtain ⟨after, haft, hop⟩ := bind_ok.1 hop
  cases hop
  have hfind := required_ok.1 hrec
  have hnode := (h.nodes node record hfind).mono fun _ : True => List.not_mem_nil
  have hcs := NodeRecord.heartbeat_cases (mapError_ok.1 haft)
  rcases hcs with rfl | rfl
  · exact inv_updateRow h _ hfind id hnode
  refine inv_updateRow h _ hfind id { hnode with listed := ?_ }
  intro hcur revision hdes
  obtain ⟨signed, canary, hlist⟩ := hnode.listed hcur revision hdes
  exact ⟨signed, canary, { hlist with }⟩

end RealityConsole.Policy
