import RealityConsole.Controller.MemberOperations
import RealityConsole.Controller.Policy

/-!
# The invariant of the policy tables

The document of a node lists what compiles for it. Operations on members break this for the nodes
they affect and publish those again, so the invariant is indexed by the nodes whose document is
stale (`inv_change`, `inv_publish`).
-/

namespace RealityConsole.Policy

open Framework Protocol Controller Controller.Members

variable {s s' : PolicyStore} {stale rest affected : List NodeId} {node : NodeId}
  {record : NodeRecord}

def SnapshotHas (s : PolicyStore) (node : NodeId) (revision : Revision) (id : CredentialId) :
    Prop :=
  ∃ ids, s.snapshots.find (node, revision) = some ids ∧ id ∈ ids

def Compiles (m : Members) (node : NodeId) (user : DesiredUser) : Prop :=
  ∃ c ∈ m.credentials, m.isCompiled node c = true ∧ (compiledUser c).user = user

structure Listed (s : PolicyStore) (node : NodeId) (record : NodeRecord) (revision : Revision)
    (signed : SignedDesiredState) (canary : CanaryCredential) : Prop where
  document : s.documents.find (node, revision) = some signed
  activeCanary : activeCanary s.canaries node = some canary
  mem_canary : canary.desiredUser ∈ signed.document.users
  mem_iff : record.status = .active → ∀ user, user ∈ signed.document.users ↔
    Compiles s.members node user ∨ user = canary.desiredUser

/-- The facts about one node. Its document is up to date if `current` holds. -/
structure NodeInv (s : PolicyStore) (current : Prop) (node : NodeId) (record : NodeRecord) :
    Prop where
  listed : current → ∀ revision, record.desiredRevision = some revision →
    ∃ signed canary, Listed s node record revision signed canary
  targets : ∀ revision ∈ record.targets, revision ≤ s.lastRevision
  results : ∀ entry ∈ record.results, entry.1 ∈ record.targets
  applied : ∀ revision, record.appliedRevision = some revision → revision ∈ record.targets
  /-- A credential that compiles is in every snapshot after one that has it. -/
  snapshots : ∀ revision ∈ record.targets, ∀ later ∈ record.targets, revision ≤ later →
    ∀ c ∈ s.members.credentials, s.members.isCompiled node c = true →
    SnapshotHas s node revision c.credentialId → SnapshotHas s node later c.credentialId
  /-- An active credential that compiles is in the snapshot of the applied revision. -/
  active : ∀ c ∈ s.members.credentials, s.members.isCompiled node c = true →
    c.status = .active → ∃ revision, record.appliedRevision = some revision ∧
      SnapshotHas s node revision c.credentialId

/-- What holds between operations, and inside them for the nodes that are not stale. -/
structure Inv (s : PolicyStore) (stale : List NodeId) : Prop where
  members : s.members.Sound
  enabled : ∀ a ∈ s.members.assignments, a.status = .enabled → a.nodeId ∉ stale →
    ∃ record, s.nodes.find a.nodeId = some record ∧ record.status = .active
  /-- Snapshots refer to credential rows. -/
  snapshotRows : ∀ node revision id, SnapshotHas s node revision id →
    ∃ c ∈ s.members.credentials, c.credentialId = id
  nodes : ∀ node record, s.nodes.find node = some record → NodeInv s (node ∉ stale) node record

theorem NodeInv.mono {cur cur' : Prop} (h : NodeInv s cur node record)
    (himp : cur' → cur) : NodeInv s cur' node record :=
  { h with listed := fun hcur => h.listed (himp hcur) }

theorem Inv.mono (h : Inv s stale) (hsub : stale ⊆ rest) : Inv s rest :=
  { h with
    enabled := fun a ha hstat hnode => h.enabled a ha hstat fun hmem => hnode (hsub hmem)
    nodes := fun node record hfind =>
      (h.nodes node record hfind).mono fun hnode hmem => hnode (hsub hmem) }

theorem Inv.not_compiled (h : Inv s stale) (hnot : node ∉ stale)
    (hinactive : ∀ record, s.nodes.find node = some record → record.status ≠ .active)
    {c : Credential} (hc : c ∈ s.members.credentials) : ¬ s.members.isCompiled node c := by
  intro hcomp
  obtain ⟨hnode, -, ⟨a, ha, haid, hast⟩, -⟩ := isCompiled_iff.1 hcomp
  have han : a.nodeId = node := by
    rw [← (h.members.keys.credential_row hc ha haid.symm).2, hnode]
  obtain ⟨record, hfind, hact⟩ := h.enabled a ha hast (han ▸ hnot)
  exact hinactive record (han ▸ hfind) hact

/-- A node keeps its facts if nothing they speak about changes for it. -/
theorem NodeInv.frame {cur : Prop} (h : NodeInv s cur node record)
    (hmems : s'.members = s.members)
    (hdocs : ∀ rev, s'.documents.find (node, rev) = s.documents.find (node, rev))
    (hcan : activeCanary s'.canaries node = activeCanary s.canaries node)
    (hsnapshots : ∀ rev id, SnapshotHas s' node rev id ↔ SnapshotHas s node rev id)
    (hlast : s.lastRevision ≤ s'.lastRevision) : NodeInv s' cur node record := { h with
  listed := by
    intro hcur rev hdes
    obtain ⟨signed, canary, hlist⟩ := h.listed hcur rev hdes
    refine ⟨signed, canary, (hdocs rev).trans hlist.document,
      hcan.trans hlist.activeCanary, hlist.mem_canary, ?_⟩
    rw [hmems]
    exact hlist.mem_iff
  targets rev hrev := (h.targets rev hrev).trans hlast
  snapshots := by
    rw [hmems]
    intro rev hrev later hlat hle c hc hcomp hsnap
    rw [hsnapshots] at hsnap ⊢
    exact h.snapshots rev hrev later hlat hle c hc hcomp hsnap
  active := by
    rw [hmems]
    intro c hc hcomp hstat
    obtain ⟨rev, happ, hsnap⟩ := h.active c hc hcomp hstat
    exact ⟨rev, happ, (hsnapshots _ _).mpr hsnap⟩ }

/-! ### Changes of the members -/

theorem compiles_change {m m' : Members} (hchange : Change m m' affected) (hnode : node ∉ affected)
    {user : DesiredUser} : Compiles m' node user ↔ Compiles m node user := by
  constructor
  · rintro ⟨c, hc, hcomp, huser⟩
    rcases hchange.kept node c hc hcomp with ⟨hold, hocmp⟩ | ⟨hmem, -⟩
    · exact ⟨c, hold, hocmp, huser⟩
    · exact absurd hmem hnode
  · rintro ⟨c, hc, hcomp, huser⟩
    obtain ⟨hnew, hnewCompiled⟩ := hchange.unaffected node hnode c hc hcomp
    exact ⟨c, hnew, hnewCompiled, huser⟩

/-- A node keeps its facts if the members change on other nodes, or if nobody asks any more what its
document lists. -/
theorem NodeInv.change {cur cur' : Prop} {m' : Members} (h : NodeInv s cur node record)
    (hrows : ∀ node rev id, SnapshotHas s node rev id →
      ∃ c ∈ s.members.credentials, c.credentialId = id)
    (hchange : Change s.members m' affected) (himp : cur' → cur)
    (hnode : cur' → record.status = .active → node ∉ affected) :
    NodeInv { s with members := m' } cur' node record := { h with
  listed := by
    intro hcur rev hdes
    obtain ⟨signed, canary, hlist⟩ := h.listed (himp hcur) rev hdes
    refine ⟨signed, canary, { hlist with mem_iff := ?_ }⟩
    intro hact user
    rw [hlist.mem_iff hact user, compiles_change hchange (hnode hcur hact)]
  snapshots := by
    intro rev hrev later hlat hle c hc hcomp hsnap
    rcases hchange.kept node c hc hcomp with ⟨hold, hocmp⟩ | ⟨-, -, hnew⟩
    · exact h.snapshots rev hrev later hlat hle c hold hocmp hsnap
    -- a new credential is in no snapshot
    obtain ⟨d, hd, hid⟩ := hrows node rev c.credentialId hsnap
    exact absurd hid (hnew d hd)
  active := by
    intro c hc hcomp hstat
    rcases hchange.kept node c hc hcomp with ⟨hold, hocmp⟩ | ⟨-, hpend, -⟩
    · exact h.active c hold hocmp hstat
    · rw [hpend] at hstat
      cases hstat }

/-- An operation on the members makes the documents of the affected nodes stale. -/
theorem inv_change (h : Inv s stale) {m' : Members} (hchange : Change s.members m' affected) :
    Inv { s with members := m' } (affected ++ stale) where
  members := hchange.sound
  enabled := by
    intro a ha hstat hnode
    rw [List.mem_append, not_or] at hnode
    rcases hchange.enabled a ha hstat with ⟨b, hb, hbn, hbefore⟩ | hmem
    · have hbstale : b.nodeId ∉ stale := hbn ▸ hnode.2
      rw [← hbn]
      exact h.enabled b hb hbefore hbstale
    · exact absurd hmem hnode.1
  snapshotRows := by
    intro node rev id hsnap
    obtain ⟨c, hc, rfl⟩ := h.snapshotRows node rev id hsnap
    exact hchange.ids c hc
  nodes := by
    intro node record hfind
    apply (h.nodes node record hfind).change h.snapshotRows hchange
    · intro hnot hmem
      exact hnot (List.mem_append_right _ hmem)
    · intro hnot _ hmem
      exact hnot (List.mem_append_left _ hmem)

/-! ### Publication -/

section Canaries

variable {canaries : List CanaryCredential} {fresh : FreshCanary}

theorem activeCanary_append (row : CanaryCredential) (other : NodeId) :
    activeCanary (canaries ++ [row]) other = (activeCanary canaries other).or
        (if row.nodeId = other ∧ row.status = .active then some row else none) := by
  unfold activeCanary
  rw [List.find?_append, List.find?_singleton]
  simp only [Bool.and_eq_true, decide_eq_true_eq]

/-- The publication finds or creates the active canary of its node. -/
theorem activeCanary_ensure (node : NodeId) :
    activeCanary (ensureEndpointCanaryCredential canaries node fresh).2 node
      = some (ensureEndpointCanaryCredential canaries node fresh).1 := by
  unfold ensureEndpointCanaryCredential
  cases hact : activeCanary canaries node with
  | some canary => exact hact
  | none =>
    rw [activeCanary_append, hact]
    simp [FreshCanary.row]

theorem activeCanary_ensure_ne {other : NodeId} (hne : other ≠ node) :
    activeCanary (ensureEndpointCanaryCredential canaries node fresh).2 other
      = activeCanary canaries other := by
  unfold ensureEndpointCanaryCredential
  cases activeCanary canaries node with
  | some canary => rfl
  | none =>
    rw [activeCanary_append, if_neg fun hrow => hne hrow.1.symm, Option.or_none]

theorem activeCanary_rotate_ne {other : NodeId} (hne : other ≠ node) :
    activeCanary (rotateCanary canaries node fresh) other = activeCanary canaries other := by
  unfold rotateCanary
  rw [activeCanary_append, if_neg fun hrow => hne hrow.1.symm, Option.or_none]
  unfold activeCanary
  induction canaries with
  | nil => rfl
  | cons first tail ih =>
    rw [List.map_cons, List.find?_cons, List.find?_cons, ih]
    by_cases hcase : first.nodeId = node ∧ first.status = .active
    · have hoth : ¬ first.nodeId = other := fun hfirst => hne (hfirst.symm.trans hcase.1)
      simp [if_pos hcase, hoth]
    · rw [if_neg hcase]

end Canaries

section Publication

variable {identity : ControllerIdentity} {configuration : DesiredStateConfigurationDraft}
  {users : List CompiledDesiredUser} {fresh : FreshCanary} {now : Nat} {row : NodeRecord}
  {signed : SignedDesiredState}

def publicationDraft (s : PolicyStore) (node : NodeId)
    (configuration : DesiredStateConfigurationDraft) (users : List CompiledDesiredUser)
    (fresh : FreshCanary) : DesiredStateDraft :=
  configuration.withUsers
    (documentUsers users (ensureEndpointCanaryCredential s.canaries node fresh).1)

def publishedRow (s : PolicyStore) (row : NodeRecord) : NodeRecord :=
  { row with
    desiredRevision := some (s.lastRevision + 1)
    targets := row.targets ++ [s.lastRevision + 1]
    lastRevision := s.lastRevision + 1 }

/-- A successful `publish_compiled_desired_state`. -/
structure Publishes (identity : ControllerIdentity) (s s' : PolicyStore) (node : NodeId)
    (configuration : DesiredStateConfigurationDraft) (users : List CompiledDesiredUser)
    (fresh : FreshCanary) (now : Nat) (row : NodeRecord) (signed : SignedDesiredState) :
    Prop where
  found : s.nodes.find node = some row
  active : row.status = .active
  document : signed.document = Publication.document
    ⟨identity.key, s.networkId, node, s.lastRevision + 1, now, s.controllerInstanceId⟩
    (publicationDraft s node configuration users fresh).canonicalize
  body : signed.document.validateBody = .ok ()
  eq : s' = s.published node (publishedRow s row) users
    (ensureEndpointCanaryCredential s.canaries node fresh) signed

theorem publishes_of_ok
    (h : s.publishCompiledDesiredState identity node configuration users fresh now = .ok s') :
    ∃ row signed, Publishes identity s s' node configuration users fresh now row signed := by
  obtain ⟨_, h⟩ := rest_ok h
  obtain ⟨artifact, hartifact, h⟩ := bind_ok.1 h
  obtain ⟨row, hrow, h⟩ := bind_ok.1 h
  obtain ⟨record, hrec, h⟩ := bind_ok.1 h
  have hbuilt := buildSignedDesiredState_effect (mapError_ok.1 hartifact)
  have hpub := mapError_ok.1 hrec
  unfold NodeRecord.publish at hpub
  split at hpub
  · rename_i hact
    cases hpub
    exact ⟨row, artifact.envelope, required_ok.1 hrow, hact, hbuilt.document, hbuilt.body,
      (Except.ok.inj h).symm⟩
  · cases hpub

theorem Publishes.mem_users
    (h : Publishes identity s s' node configuration users fresh now row signed)
    (user : DesiredUser) : user ∈ signed.document.users ↔ user ∈ users.map (·.user) ∨
      user = (ensureEndpointCanaryCredential s.canaries node fresh).1.desiredUser := by
  have hperm : signed.document.users.Perm
      (publicationDraft s node configuration users fresh).users := by
    rw [h.document]
    exact (DesiredStateDraft.canonicalize_perm _).1
  rw [hperm.mem_iff]
  simp only [publicationDraft, DesiredStateConfigurationDraft.withUsers, documentUsers,
    List.mem_append, List.mem_singleton]

theorem find_nodes_published (users : List CompiledDesiredUser)
    (canary : CanaryCredential × List CanaryCredential) (signed : SignedDesiredState)
    (other : NodeId) (hfound : s.nodes.find node = some row) :
    (s.published node (publishedRow s row) users canary signed).nodes.find other
      = if other = node then some (publishedRow s row) else s.nodes.find other := by
  show (s.nodes.updateAt node fun _ => publishedRow s row).find other = _
  rw [Table.find_updateAt]
  by_cases hnode : other = node
  · rw [if_pos hnode, if_pos hnode, hnode, hfound]
    rfl
  · rw [if_neg hnode, if_neg hnode]

/-- The new snapshot holds what compiles; the older ones stay. -/
theorem snapshotHas_published {canary : CanaryCredential × List CanaryCredential}
    {record : NodeRecord} {other : NodeId} {rev : Revision} {id : CredentialId} :
    SnapshotHas (s.published node record users canary signed) other rev id ↔
      if other = node ∧ rev = s.lastRevision + 1
      then id ∈ users.map (·.user.credentialId) else SnapshotHas s other rev id := by
  have hfind : (s.published node record users canary signed).snapshots.find (other, rev)
      = if (other, rev) = (node, s.lastRevision + 1)
        then some (users.map (·.user.credentialId)) else s.snapshots.find (other, rev) :=
    Table.find_insert _ _ _ _
  unfold SnapshotHas
  rw [hfind]
  simp only [Prod.mk.injEq]
  by_cases hkey : other = node ∧ rev = s.lastRevision + 1
  · simp [hkey]
  · simp only [if_neg hkey]

theorem compiles_iff (hsound : s.members.Sound)
    (hcompile : s.members.compileDesiredUsers node = .ok users) (user : DesiredUser) :
    user ∈ users.map (·.user) ↔ Compiles s.members node user := by
  rw [hsound.compileDesiredUsers_eq node] at hcompile
  cases hcompile
  simp only [List.map_map, List.mem_map, Function.comp_apply, Compiles, mem_compileRows, and_assoc]

theorem credentialId_mem_iff (hsound : s.members.Sound)
    (hcompile : s.members.compileDesiredUsers node = .ok users) (id : CredentialId) :
    id ∈ users.map (·.user.credentialId) ↔
      ∃ c ∈ s.members.credentials, s.members.isCompiled node c ∧ c.credentialId = id := by
  rw [hsound.compileDesiredUsers_eq node] at hcompile
  cases hcompile
  simp only [List.map_map, List.mem_map, Function.comp_apply, mem_compileRows, and_assoc]
  rfl

theorem nodeInv_publish {cur : Prop} (h : NodeInv s cur node row)
    (hsound : s.members.Sound) (hcompile : s.members.compileDesiredUsers node = .ok users)
    (hpub : Publishes identity s s' node configuration users fresh now row signed) :
    NodeInv s' True node (publishedRow s row) := by
  have husr := hpub.mem_users
  have hcompiles := compiles_iff hsound hcompile
  have hids := credentialId_mem_iff hsound hcompile
  obtain ⟨hfound, hact, -, -, rfl⟩ := hpub
  have hbef : ∀ r ∈ (publishedRow s row).targets, r ≠ s.lastRevision + 1 → r ∈ row.targets := by
    intro r hr hne
    rcases List.mem_append.1 hr with hmem | hlast
    · exact hmem
    · exact absurd (List.mem_singleton.1 hlast) hne
  have hnew : ∀ {r : Nat}, r ≤ s.lastRevision → r ≠ s.lastRevision + 1 := by
    intro r hle
    omega
  refine ⟨?_, ?_, ?_, ?_, ?_, ?_⟩
  · intro _ revision hdes
    obtain rfl : s.lastRevision + 1 = revision := Option.some.inj hdes
    refine ⟨signed, _, (Table.find_insert _ _ _ _).trans (if_pos rfl),
      activeCanary_ensure node, (husr _).mpr (.inr rfl), fun _ user => ?_⟩
    rw [husr, hcompiles]
    exact Iff.rfl
  · intro revision hrev
    rcases List.mem_append.1 hrev with hmem | hlast
    · exact (h.targets revision hmem).trans (Nat.le_succ _)
    · exact (List.mem_singleton.1 hlast).le
  · intro entry hent
    exact List.mem_append_left _ (h.results entry hent)
  · intro revision happ
    exact List.mem_append_left _ (h.applied revision happ)
  · intro revision hrev later hlat hle c hc hcomp hsnap
    rw [snapshotHas_published] at hsnap ⊢
    by_cases hlast : later = s.lastRevision + 1
    · -- the new snapshot has everything that compiles
      rw [if_pos ⟨rfl, hlast⟩]
      exact (hids _).mpr ⟨c, hc, hcomp, rfl⟩
    have hlaterOld := hbef later hlat hlast
    have hrne := hnew (le_trans hle (h.targets later hlaterOld))
    rw [if_neg fun hkey => hrne hkey.2] at hsnap
    rw [if_neg fun hkey => hlast hkey.2]
    exact h.snapshots revision (hbef revision hrev hrne) later hlaterOld hle c hc hcomp hsnap
  · intro c hc hcomp hstat
    obtain ⟨revision, happ, hsnap⟩ := h.active c hc hcomp hstat
    refine ⟨revision, happ, ?_⟩
    rw [snapshotHas_published, if_neg]
    · exact hsnap
    · rintro ⟨-, hkey⟩
      exact hnew (h.targets revision (h.applied revision happ)) hkey

/-- A publication brings the document of its node up to date. -/
theorem inv_publish (h : Inv s (node :: rest))
    (hcompile : s.members.compileDesiredUsers node = .ok users)
    (hpub : Publishes identity s s' node configuration users fresh now row signed) :
    Inv s' rest := by
  have hrow := nodeInv_publish (h.nodes node row hpub.found) h.members hcompile hpub
  have hids := credentialId_mem_iff h.members hcompile
  obtain ⟨hfound, hact, -, -, rfl⟩ := hpub
  have hnodes := fun other => find_nodes_published users
    (ensureEndpointCanaryCredential s.canaries node fresh) signed other hfound
  have hold : ∀ {other}, other ≠ node → other ∉ rest → other ∉ node :: rest := by
    intro other hne hnot hmem
    rcases List.mem_cons.1 hmem with heq | hmem
    · exact hne heq
    · exact hnot hmem
  refine ⟨h.members, ?_, ?_, ?_⟩
  · intro a ha hstat hnot
    rw [hnodes]
    by_cases hnode : a.nodeId = node
    · rw [if_pos hnode]
      exact ⟨_, rfl, hact⟩
    · rw [if_neg hnode]
      exact h.enabled a ha hstat (hold hnode hnot)
  · intro other rev id hsnap
    rw [snapshotHas_published] at hsnap
    split at hsnap
    · obtain ⟨c, hc, -, hid⟩ := (hids id).mp hsnap
      exact ⟨c, hc, hid⟩
    · exact h.snapshotRows other rev id hsnap
  · intro other record hfind
    rw [hnodes] at hfind
    rcases ite_eq_iff.1 hfind with ⟨rfl, hnew⟩ | ⟨hnode, hfind⟩
    · cases hnew
      exact hrow.mono fun _ => trivial
    apply ((h.nodes other record hfind).mono (hold hnode)).frame
    · rfl
    · intro rev
      exact (Table.find_insert _ _ _ _).trans (if_neg fun hkey => hnode (Prod.mk.inj hkey).1)
    · exact activeCanary_ensure_ne hnode
    · intro rev id
      rw [snapshotHas_published, if_neg fun hkey => hnode hkey.1]
    · exact Nat.le_succ _

end Publication

end RealityConsole.Policy
