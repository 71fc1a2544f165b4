import RealityConsole.Controller.Assignments

/-!
# What the member operations do to compiled credentials

`Members.Sound` is what makes `compile_desired_users` succeed: the keys of the schema, and at most
one pending or active credential for an assignment. `Members.Change m m' affected` is the effect of
an operation on the compiled credentials; it composes, so loops follow from their single rounds.
-/

namespace RealityConsole.Controller.Members

open Protocol Framework

variable {m m' m'' : Members} {node : NodeId} {c : Credential} {affected : List NodeId}

/-! ### Compiled credentials -/

def Serves (m : Members) (c : Credential) : Prop :=
  (∃ a ∈ m.assignments, a.assignmentId = c.assignmentId ∧ a.status = .enabled) ∧
    ∃ u ∈ m.users, u.userId = c.userId ∧ u.status = .active

theorem isCompiled_iff :
    m.isCompiled node c = true ↔ c.nodeId = node ∧ c.status.isLive ∧ m.Serves c := by
  have hlive : c.status.isLive = true ↔ c.status = .pending ∨ c.status = .active := by
    cases c.status <;> simp [CredentialStatus.isLive]
  simp only [isCompiled, Serves, Bool.and_eq_true, Bool.or_eq_true, decide_eq_true_eq,
    List.any_eq_true, hlive]
  tauto

structure Sound (m : Members) : Prop where
  keys : m.WellFormed
  /-- An assignment has at most one pending or active credential. -/
  live_unique : ∀ c ∈ m.credentials, ∀ d ∈ m.credentials, c.assignmentId = d.assignmentId →
    c.status.isLive = true → d.status.isLive = true → c = d

theorem sound_empty : Sound ⟨[], [], []⟩ where
  keys := by constructor <;> simp
  live_unique := by simp

theorem eq_of_key_eq {α β : Type} {key : α → β} {rows : List α} (h : (rows.map key).Nodup)
    {a b : α} (ha : a ∈ rows) (hb : b ∈ rows) (hkey : key a = key b) : a = b :=
  List.inj_on_of_nodup_map h ha hb hkey

theorem nodup_append_row {α β : Type} {key : α → β} {rows : List α} {row : α}
    (h : (rows.map key).Nodup) (hfresh : ∀ a ∈ rows, key a ≠ key row) :
    ((rows ++ [row]).map key).Nodup := by
  rw [List.map_append, List.map_singleton]
  refine List.Nodup.append h (List.nodup_singleton _) (List.disjoint_singleton.2 fun hmem => ?_)
  obtain ⟨a, ha, hkey⟩ := List.mem_map.1 hmem
  exact hfresh a ha hkey

theorem of_ite_eq {α : Type} {p : Prop} [Decidable p] {given before status : α}
    (h : (if p then given else before) = status) (hne : given ≠ status) : before = status := by
  split_ifs at h
  · exact absurd h hne
  · exact h

theorem Sound.compiled_unique (h : m.Sound) {d : Credential} (hc : c ∈ m.credentials)
    (hd : d ∈ m.credentials) (hcc : m.isCompiled node c)
    (hdc : m.isCompiled node d) (huser : c.userId = d.userId) : c = d := by
  obtain ⟨hcnode, hclive, -⟩ := isCompiled_iff.1 hcc
  obtain ⟨hdn, hdlive, -⟩ := isCompiled_iff.1 hdc
  obtain ⟨a, ha, hac, hauser, han⟩ := h.keys.credential_assignment c hc
  obtain ⟨b, hb, hbd, hbuser, hbn⟩ := h.keys.credential_assignment d hd
  -- user and node determine the assignment
  have hab : a = b := by
    apply eq_of_key_eq h.keys.assignment_pair_unique ha hb
    rw [hauser, han, hbuser, hbn, huser, hcnode, hdn]
  apply h.live_unique c hc d hd _ hclive hdlive
  rw [← hac, ← hbd, hab]

theorem collectUsers_of_unseen {rows : List Credential} {userIds : List UserId}
    {assignmentIds : List AssignmentId} (husr : Unseen userIds (rows.map (·.userId)))
    (hasg : Unseen assignmentIds (rows.map (·.assignmentId))) :
    collectUsers rows userIds assignmentIds = .ok (rows.map compiledUser) := by
  induction rows generalizing userIds assignmentIds with
  | nil => rfl
  | cons row rows ih =>
    rw [List.map_cons, unseen_cons] at husr hasg
    have hnew : ¬ (row.userId ∈ userIds ∨ row.assignmentId ∈ assignmentIds) := by
      rintro (hmem | hmem)
      · exact husr.1 hmem
      · exact hasg.1 hmem
    apply bind_ok.2
    refine ⟨(), refuse_ok.2 hnew, bind_ok.2 ⟨_, ih husr.2 hasg.2, ?_⟩⟩
    rfl

/-- Compilation succeeds, with one entry for each compiled credential. -/
theorem Sound.compileDesiredUsers_eq (h : m.Sound) (node : NodeId) :
    m.compileDesiredUsers node = .ok ((m.compileRows node).map compiledUser) := by
  have hrows : (m.compileRows node).Nodup := by
    apply (List.perm_insertionSort _ _).nodup_iff.2
    exact (List.Nodup.of_map _ h.keys.credentials_unique).filter _
  apply collectUsers_of_unseen
  · rw [unseen_nil_left]
    apply List.Nodup.map_on _ hrows
    intro c hc d hd huser
    obtain ⟨hc, hcc⟩ := mem_compileRows.1 hc
    obtain ⟨hd, hdc⟩ := mem_compileRows.1 hd
    exact h.compiled_unique hc hd hcc hdc huser
  · rw [unseen_nil_left]
    apply List.Nodup.map_on _ hrows
    intro c hc d hd hasn
    obtain ⟨hc, hcc⟩ := mem_compileRows.1 hc
    obtain ⟨hd, hdc⟩ := mem_compileRows.1 hd
    exact h.live_unique c hc d hd hasn (isCompiled_iff.1 hcc).2.1 (isCompiled_iff.1 hdc).2.1

/-! ### Changes -/

/-- The effect of an operation that reports `affected` as the nodes to publish. -/
structure Change (m m' : Members) (affected : List NodeId) : Prop where
  sound : m'.Sound
  kept : ∀ node, ∀ c ∈ m'.credentials, m'.isCompiled node c = true →
    (c ∈ m.credentials ∧ m.isCompiled node c = true) ∨
      (node ∈ affected ∧ c.status = .pending ∧
        ∀ d ∈ m.credentials, d.credentialId ≠ c.credentialId)
  unaffected : ∀ node, node ∉ affected → ∀ c ∈ m.credentials, m.isCompiled node c = true →
    c ∈ m'.credentials ∧ m'.isCompiled node c = true
  /-- No credential row is deleted. -/
  ids : ∀ c ∈ m.credentials, ∃ d ∈ m'.credentials, d.credentialId = c.credentialId
  /-- No assignment row is deleted or moved. -/
  rows : ∀ a ∈ m.assignments, ∃ b ∈ m'.assignments,
    b.assignmentId = a.assignmentId ∧ b.userId = a.userId ∧ b.nodeId = a.nodeId
  /-- Assignments become enabled on affected nodes only. -/
  enabled : ∀ a ∈ m'.assignments, a.status = .enabled →
    (∃ b ∈ m.assignments, b.nodeId = a.nodeId ∧ b.status = .enabled) ∨ a.nodeId ∈ affected

theorem Change.refl (h : m.Sound) : Change m m [] where
  sound := h
  kept _ _ hc hcomp := .inl ⟨hc, hcomp⟩
  unaffected _ _ _ hc hcomp := ⟨hc, hcomp⟩
  ids c hc := ⟨c, hc, rfl⟩
  rows a ha := ⟨a, ha, rfl, rfl, rfl⟩
  enabled a ha hstat := .inl ⟨a, ha, rfl, hstat⟩

theorem Change.mono {more : List NodeId} (h : Change m m' affected) (hsub : affected ⊆ more) :
    Change m m' more := { h with
  kept node c hc hcomp := by
    rcases h.kept node c hc hcomp with hold | ⟨hnode, hnew⟩
    · exact .inl hold
    · exact .inr ⟨hsub hnode, hnew⟩
  unaffected node hnode := h.unaffected node fun hmem => hnode (hsub hmem)
  enabled a ha hstat := by
    rcases h.enabled a ha hstat with hold | hnode
    · exact .inl hold
    · exact .inr (hsub hnode) }

theorem Change.trans {more : List NodeId} (h : Change m m' affected)
    (h' : Change m' m'' more) : Change m m'' (affected ++ more) where
  sound := h'.sound
  kept node c hc hcomp := by
    rcases h'.kept node c hc hcomp with ⟨hmid, hmidCompiled⟩ | ⟨hnode, hpend, hnew⟩
    · rcases h.kept node c hmid hmidCompiled with hold | ⟨hnode, hnew⟩
      · exact .inl hold
      · exact .inr ⟨List.mem_append_left _ hnode, hnew⟩
    -- a row that is new to `m'` is new to `m`, whose rows are all kept
    refine .inr ⟨List.mem_append_right _ hnode, hpend, ?_⟩
    intro d hd hid
    obtain ⟨e, he, heid⟩ := h.ids d hd
    exact hnew e he (heid.trans hid)
  unaffected node hnode c hc hcomp := by
    rw [List.mem_append, not_or] at hnode
    obtain ⟨hmid, hmidCompiled⟩ := h.unaffected node hnode.1 c hc hcomp
    exact h'.unaffected node hnode.2 c hmid hmidCompiled
  ids c hc := by
    obtain ⟨d, hd, hdid⟩ := h.ids c hc
    obtain ⟨e, he, heid⟩ := h'.ids d hd
    exact ⟨e, he, heid.trans hdid⟩
  rows a ha := by
    obtain ⟨b, hb, hid, huser, hnode⟩ := h.rows a ha
    obtain ⟨d, hd, hdid, hduser, hdn⟩ := h'.rows b hb
    exact ⟨d, hd, hdid.trans hid, hduser.trans huser, hdn.trans hnode⟩
  enabled a ha hstat := by
    rcases h'.enabled a ha hstat with ⟨b, hb, hnode, hbefore⟩ | hnode
    · rcases h.enabled b hb hbefore with ⟨d, hd, hdn, hdstatus⟩ | hbn
      · exact .inl ⟨d, hd, hdn.trans hnode, hdstatus⟩
      · exact .inr (List.mem_append_left _ (hnode ▸ hbn))
    · exact .inr (List.mem_append_right _ hnode)

/-! ### Status updates -/

section Statuses

variable {user : Account → AccountStatus} {assignment : Assignment → AssignmentStatus}
  {credential : Credential → CredentialStatus}

theorem mem_credentials_updateStatuses :
    c ∈ (m.updateStatuses user assignment credential).credentials ↔
      ∃ d ∈ m.credentials, { d with status := credential d } = c :=
  List.mem_map

theorem mem_updateStatuses_of_mem (hc : c ∈ m.credentials) : { c with status := credential c } ∈
      (m.updateStatuses user assignment credential).credentials :=
  mem_credentials_updateStatuses.2 ⟨c, hc, rfl⟩

theorem mem_assignments_updateStatuses {a : Assignment} :
    a ∈ (m.updateStatuses user assignment credential).assignments ↔
      ∃ b ∈ m.assignments, { b with status := assignment b } = a :=
  List.mem_map

theorem WellFormed.updateStatuses (h : m.WellFormed) :
    (m.updateStatuses user assignment credential).WellFormed where
  users_unique := by simpa [Members.updateStatuses, Function.comp_def] using h.users_unique
  assignments_unique := by
    simpa [Members.updateStatuses, Function.comp_def] using h.assignments_unique
  assignment_pair_unique := by
    simpa [Members.updateStatuses, Function.comp_def] using h.assignment_pair_unique
  credentials_unique := by
    simpa [Members.updateStatuses, Function.comp_def] using h.credentials_unique
  credential_version_unique := by
    simpa [Members.updateStatuses, Function.comp_def] using h.credential_version_unique
  assignment_user := by
    intro a ha
    obtain ⟨b, hb, rfl⟩ := mem_assignments_updateStatuses.1 ha
    obtain ⟨u, hu, huser⟩ := h.assignment_user b hb
    exact ⟨_, List.mem_map.2 ⟨u, hu, rfl⟩, huser⟩
  credential_assignment := by
    intro c hc
    obtain ⟨d, hd, rfl⟩ := mem_credentials_updateStatuses.1 hc
    obtain ⟨a, ha, hkeys⟩ := h.credential_assignment d hd
    exact ⟨_, mem_assignments_updateStatuses.2 ⟨a, ha, rfl⟩, hkeys⟩

/-- An update that brings no credential back into service keeps the invariant. -/
theorem Sound.updateStatuses (h : m.Sound)
    (hlive : ∀ c ∈ m.credentials, (credential c).isLive → c.status.isLive) :
    (m.updateStatuses user assignment credential).Sound where
  keys := h.keys.updateStatuses
  live_unique := by
    intro _ hcrow _ hdrow hasn hclive hdlive
    obtain ⟨c, hc, rfl⟩ := mem_credentials_updateStatuses.1 hcrow
    obtain ⟨d, hd, rfl⟩ := mem_credentials_updateStatuses.1 hdrow
    rw [h.live_unique c hc d hd hasn (hlive c hc hclive) (hlive d hd hdlive)]

theorem serves_updateStatuses : (m.updateStatuses user assignment credential).Serves c ↔
      (∃ a ∈ m.assignments, a.assignmentId = c.assignmentId ∧ assignment a = .enabled) ∧
        ∃ u ∈ m.users, u.userId = c.userId ∧ user u = .active := by
  simp only [Serves, Members.updateStatuses, List.mem_map]
  constructor
  · rintro ⟨⟨_, ⟨a, ha, rfl⟩, hid, hstat⟩, _, ⟨u, hu, rfl⟩, huser, hact⟩
    exact ⟨⟨a, ha, hid, hstat⟩, u, hu, huser, hact⟩
  · rintro ⟨⟨a, ha, hid, hstat⟩, u, hu, huser, hact⟩
    exact ⟨⟨_, ⟨a, ha, rfl⟩, hid, hstat⟩, _, ⟨u, hu, rfl⟩, huser, hact⟩

/-- An update under which no credential starts to serve, and which changes nothing in service
outside `affected`. -/
theorem change_updateStatuses (h : m.Sound)
    (hcred : ∀ c ∈ m.credentials, (credential c).isLive → credential c = c.status)
    (hserv : ∀ c ∈ m.credentials, (credential c).isLive →
      (∀ a ∈ m.assignments, a.assignmentId = c.assignmentId → assignment a = .enabled →
        a.status = .enabled) ∧
      ∀ u ∈ m.users, u.userId = c.userId → user u = .active → u.status = .active)
    (henab : ∀ a ∈ m.assignments, assignment a = .enabled →
      a.status = .enabled ∨ a.nodeId ∈ affected)
    (hstay : ∀ c ∈ m.credentials, c.nodeId ∉ affected → m.isCompiled c.nodeId c →
      credential c = c.status ∧
        (∀ a ∈ m.assignments, a.assignmentId = c.assignmentId → assignment a = a.status) ∧
        ∀ u ∈ m.users, u.userId = c.userId → user u = u.status) :
    Change m (m.updateStatuses user assignment credential) affected where
  sound := h.updateStatuses fun c hc hlive => hcred c hc hlive ▸ hlive
  kept := by
    intro node c hc hcomp
    obtain ⟨d, hd, rfl⟩ := mem_credentials_updateStatuses.1 hc
    obtain ⟨hnode, hlive, hnow⟩ := isCompiled_iff.1 hcomp
    obtain ⟨⟨a, ha, haid, hast⟩, u, hu, huid, hustatus⟩ := serves_updateStatuses.1 hnow
    obtain ⟨hwasEnabled, hwasActive⟩ := hserv d hd hlive
    have hsame : credential d = d.status := hcred d hd hlive
    have hrow : ({ d with status := credential d } : Credential) = d := by rw [hsame]
    rw [hrow]
    refine .inl ⟨hd, isCompiled_iff.2 ⟨hnode, hsame ▸ hlive, ?_, ?_⟩⟩
    · exact ⟨a, ha, haid, hwasEnabled a ha haid hast⟩
    · exact ⟨u, hu, huid, hwasActive u hu huid hustatus⟩
  unaffected := by
    intro node hnot c hc hcomp
    obtain ⟨hnode, hlive, ⟨a, ha, haid, hast⟩, u, hu, huid, hustatus⟩ := isCompiled_iff.1 hcomp
    subst hnode
    obtain ⟨hsame, hasame, husame⟩ := hstay c hc hnot hcomp
    have hrow : ({ c with status := credential c } : Credential) = c := by rw [hsame]
    constructor
    · exact mem_credentials_updateStatuses.2 ⟨c, hc, hrow⟩
    · refine isCompiled_iff.2 ⟨rfl, hlive, serves_updateStatuses.2 ⟨⟨a, ha, haid, ?_⟩, ?_⟩⟩
      · rw [hasame a ha haid, hast]
      · exact ⟨u, hu, huid, by rw [husame u hu huid, hustatus]⟩
  ids := by
    intro c hc
    exact ⟨_, mem_updateStatuses_of_mem hc, rfl⟩
  rows := by
    intro a ha
    exact ⟨_, mem_assignments_updateStatuses.2 ⟨a, ha, rfl⟩, rfl, rfl, rfl⟩
  enabled := by
    intro a ha hstat
    obtain ⟨b, hb, rfl⟩ := mem_assignments_updateStatuses.1 ha
    rcases henab b hb hstat with hold | hnode
    · exact .inl ⟨b, hb, rfl, hold⟩
    · exact .inr hnode

end Statuses

theorem isLive_retire (status : CredentialStatus) : status.retire.isLive = false := by
  cases status <;> rfl

theorem WellFormed.credential_row (h : m.WellFormed) {a : Assignment} (hc : c ∈ m.credentials)
    (ha : a ∈ m.assignments) (hid : c.assignmentId = a.assignmentId) :
    c.userId = a.userId ∧ c.nodeId = a.nodeId := by
  obtain ⟨b, hb, hbid, hbuser, hbn⟩ := h.credential_assignment c hc
  have hab : b = a := eq_of_key_eq h.assignments_unique hb ha (hbid.trans hid)
  subst hab
  exact ⟨hbuser.symm, hbn.symm⟩

theorem mem_enabledAssignments {userId : UserId} {a : Assignment} :
    a ∈ m.enabledAssignments userId ↔
      a ∈ m.assignments ∧ a.userId = userId ∧ a.status = .enabled := by
  simp only [enabledAssignments, storedAssignments, List.mem_filter, List.mem_insertionSort,
    decide_eq_true_eq, and_assoc]

theorem change_disableAssignment (h : m.Sound) {a : Assignment} (ha : a ∈ m.assignments) :
    Change m (m.disableAssignment a.assignmentId) [a.nodeId] := by
  apply change_updateStatuses h
  · intro c _ hlive
    by_cases hid : c.assignmentId = a.assignmentId
    · rw [if_pos hid, isLive_retire] at hlive
      cases hlive
    · exact if_neg hid
  · intro c _ _
    refine ⟨fun b _ _ hstat => ?_, fun _ _ _ hstat => hstat⟩
    by_cases hb : b.assignmentId = a.assignmentId ∧ b.status = .enabled
    · exact hb.2
    · rwa [if_neg hb] at hstat
  · intro b _ hstat
    by_cases hb : b.assignmentId = a.assignmentId ∧ b.status = .enabled
    · exact .inl hb.2
    · rw [if_neg hb] at hstat
      exact .inl hstat
  · intro c hc hnot _
    have hoth : c.assignmentId ≠ a.assignmentId := by
      intro hid
      apply hnot
      rw [(h.keys.credential_row hc ha hid).2]
      exact List.mem_singleton_self _
    refine ⟨if_neg hoth, fun b _ hb => if_neg ?_, fun _ _ _ => rfl⟩
    rintro ⟨hid, -⟩
    exact hoth (hb.symm.trans hid)

theorem Sound.user_ne_of_unaffected (h : m.Sound) (hc : c ∈ m.credentials)
    (hnot : c.nodeId ∉ (m.enabledAssignments userId).map (·.nodeId))
    (hcomp : m.isCompiled c.nodeId c) : c.userId ≠ userId := by
  obtain ⟨-, -, ⟨a, ha, haid, hast⟩, -⟩ := isCompiled_iff.1 hcomp
  obtain ⟨huser, hnode⟩ := h.keys.credential_row hc ha haid.symm
  intro hid
  apply hnot
  rw [hnode]
  exact List.mem_map.2 ⟨a, mem_enabledAssignments.2 ⟨ha, huser.symm.trans hid, hast⟩, rfl⟩

theorem change_disableAccount (h : m.Sound) (userId : UserId) :
    Change m (m.disableAccount userId) ((m.enabledAssignments userId).map (·.nodeId)) := by
  apply change_updateStatuses h
  · intro c _ hlive
    by_cases hmem : ∃ a ∈ m.enabledAssignments userId, a.assignmentId = c.assignmentId
    · rw [if_pos hmem, isLive_retire] at hlive
      cases hlive
    · exact if_neg hmem
  · intro c _ _
    refine ⟨fun _ _ _ hstat => hstat, fun u _ _ hstat => ?_⟩
    exact of_ite_eq hstat (by decide)
  · intro _ _ hstat
    exact .inl hstat
  · intro c hc hnot hcomp
    have hoth := h.user_ne_of_unaffected hc hnot hcomp
    refine ⟨if_neg ?_, fun _ _ _ => rfl, fun u _ hu => if_neg fun hid => ?_⟩
    · rintro ⟨b, hb, hbid⟩
      obtain ⟨hb, hbuser, -⟩ := mem_enabledAssignments.1 hb
      exact hoth ((h.keys.credential_row hc hb hbid.symm).1.trans hbuser)
    · exact hoth (hu.symm.trans hid)

theorem change_deleteAccount (h : m.Sound) (userId : UserId) :
    Change m (m.deleteAccount userId) ((m.enabledAssignments userId).map (·.nodeId)) := by
  apply change_updateStatuses h
  · intro c _ hlive
    by_cases hid : c.userId = userId
    · rw [if_pos hid] at hlive
      cases hlive
    · exact if_neg hid
  · intro c _ _
    constructor
    · intro a _ _ hstat
      exact of_ite_eq hstat (by decide)
    · intro u _ _ hstat
      exact of_ite_eq hstat (by decide)
  · intro a _ hstat
    exact .inl (of_ite_eq hstat (by decide))
  · intro c hc hnot hcomp
    have hoth := h.user_ne_of_unaffected hc hnot hcomp
    refine ⟨if_neg hoth, fun b hb hbid => if_neg fun hid => ?_, fun u _ hu => if_neg fun hid => ?_⟩
    · exact hoth ((h.keys.credential_row hc hb hbid.symm).1.trans hid)
    · exact hoth (hu.symm.trans hid)

theorem change_closeNodeMemberAccess (h : m.Sound) (node : NodeId) (action : NodeLifecycleAction) :
    Change m (m.closeNodeMemberAccess node action) [node] := by
  -- the two closing actions differ in the status that the assignments get
  have hclosed : ∀ assignment : Assignment → AssignmentStatus,
      (∀ a, assignment a = .enabled → a.status = .enabled) →
      (∀ a, a.nodeId ≠ node → assignment a = a.status) →
      Change m (m.updateStatuses (·.status) assignment
        fun c => if c.nodeId = node then .revoked else c.status) [node] := by
    intro assignment hwas hsame
    apply change_updateStatuses h
    · intro c _ hlive
      by_cases hid : c.nodeId = node
      · rw [if_pos hid] at hlive
        cases hlive
      · exact if_neg hid
    · intro _ _ _
      exact ⟨fun a _ _ => hwas a, fun _ _ _ hstat => hstat⟩
    · intro a _ hstat
      exact .inl (hwas a hstat)
    · intro c hc hnot _
      have hoth : c.nodeId ≠ node := fun hid => hnot (List.mem_singleton.2 hid)
      refine ⟨if_neg hoth, fun a ha haid => hsame a ?_, fun _ _ _ => rfl⟩
      rwa [← (h.keys.credential_row hc ha haid.symm).2]
  cases action with
  | approve => exact (Change.refl h).mono (List.nil_subset _)
  | disable =>
    apply hclosed
    · intro a hstat
      by_cases ha : a.nodeId = node ∧ a.status = .enabled
      · exact ha.2
      · rwa [if_neg ha] at hstat
    · intro a ha
      exact if_neg fun hmem => ha hmem.1
  | revoke =>
    apply hclosed
    · intro a hstat
      exact of_ite_eq hstat (by decide)
    · intro a ha
      exact if_neg ha

end RealityConsole.Controller.Members
