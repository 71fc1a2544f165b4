import RealityConsole.Controller.MemberChange

/-!
# The effects of the member operations

Each operation of the controller on accounts, assignments and credentials has one lemma that gives
its `Members.Change`. New rows come first, then the loops over assignments and nodes, and last the
transitions of an account's status.
-/

namespace RealityConsole.Controller.Members

open Protocol Framework

variable {m m' m'' : Members} {node : NodeId} {c : Credential} {affected : List NodeId}

/-! ### New rows -/

theorem le_foldr_max {l : List Nat} {n : Nat} (h : n ∈ l) : n ≤ l.foldr max 0 := by
  induction l with
  | nil => cases h
  | cons first rest ih =>
    rcases List.mem_cons.1 h with rfl | hrest
    · exact le_max_left _ _
    · exact (ih hrest).trans (le_max_right _ _)

theorem le_previousVersion (hc : c ∈ m.credentials) :
    c.version ≤ m.previousVersion c.assignmentId := by
  apply le_foldr_max
  exact List.mem_map.2 ⟨c, List.mem_filter.2 ⟨hc, by simp⟩, rfl⟩

/-- A successful `issue_assignment_credential`. -/
structure Issued (m m' : Members) (id : AssignmentId) (userId : UserId) (node : NodeId)
    (fresh : FreshCredential) : Prop where
  row : ∃ a ∈ m.assignments, a.assignmentId = id ∧ a.userId = userId ∧ a.nodeId = node
  unused : ∀ c ∈ m.credentials, c.credentialId ≠ fresh.credentialId
  eq : m' = { m with credentials := m.credentials ++
    [⟨fresh.credentialId, id, userId, node, fresh.vlessUuid, m.previousVersion id + 1, .pending⟩] }

variable {id : AssignmentId} {userId : UserId} {fresh : FreshCredential}

theorem issued_of_ok (h : m.issueAssignmentCredential id userId node fresh = .ok m') :
    Issued m m' id userId node fresh := by
  obtain ⟨_, h⟩ := rest_ok h
  obtain ⟨_, hrow, h⟩ := bind_ok.1 h
  obtain ⟨_, hfresh, h⟩ := bind_ok.1 h
  rw [refuse_ok] at hrow hfresh
  refine ⟨not_not.1 hrow, ?_, (Except.ok.inj h).symm⟩
  intro c hc hid
  exact hfresh ⟨c, hc, .inl hid⟩

theorem Issued.wellFormed (hisu : Issued m m' id userId node fresh) (h : m.WellFormed) :
    m'.WellFormed := by
  obtain ⟨hrow, hfresh, rfl⟩ := hisu
  refine { h with credentials_unique := ?_, credential_version_unique := ?_
                  credential_assignment := ?_ }
  · refine nodup_append_row h.credentials_unique fun c hc hid => ?_
    exact hfresh c hc hid
  · refine nodup_append_row h.credential_version_unique fun c hc hkey => ?_
    obtain ⟨rfl, hvers⟩ := Prod.mk.inj hkey
    have hle : c.version ≤ m.previousVersion c.assignmentId := le_previousVersion hc
    have hnext : c.version = m.previousVersion c.assignmentId + 1 := hvers
    omega
  · intro c hc
    rcases List.mem_append.1 hc with hold | hnew
    · exact h.credential_assignment c hold
    · rw [List.mem_singleton.1 hnew]
      exact hrow

theorem change_issue (h : m.Sound)
    (hnone : ∀ c ∈ m.credentials, c.assignmentId = id → c.status.isLive = false)
    (hisu : Issued m m' id userId node fresh) : Change m m' [node] := by
  have hkeys := hisu.wellFormed h.keys
  obtain ⟨-, hfresh, rfl⟩ := hisu
  refine ⟨⟨hkeys, ?_⟩, ?_, ?_, ?_, ?_, ?_⟩
  · intro c hc d hd hid hclive hdlive
    rcases List.mem_append.1 hc with hcold | hcnew <;>
      rcases List.mem_append.1 hd with hdold | hdnew
    · exact h.live_unique c hcold d hdold hid hclive hdlive
    · rw [List.mem_singleton.1 hdnew] at hid
      rw [hnone c hcold hid] at hclive
      cases hclive
    · rw [List.mem_singleton.1 hcnew] at hid
      rw [hnone d hdold hid.symm] at hdlive
      cases hdlive
    · rw [List.mem_singleton.1 hcnew, List.mem_singleton.1 hdnew]
  · intro other c hc hcomp
    rcases List.mem_append.1 hc with hold | hnew
    · exact .inl ⟨hold, hcomp⟩
    obtain ⟨hnode, -⟩ := isCompiled_iff.1 hcomp
    obtain rfl := List.mem_singleton.1 hnew
    exact .inr ⟨List.mem_singleton.2 hnode.symm, rfl, hfresh⟩
  · intro other _ c hc hcomp
    exact ⟨List.mem_append_left _ hc, hcomp⟩
  · intro c hc
    exact ⟨c, List.mem_append_left _ hc, rfl⟩
  · intro a ha
    exact ⟨a, ha, rfl, rfl, rfl⟩
  · intro a ha hstat
    exact .inl ⟨a, ha, rfl, hstat⟩

/-- After the credentials of an assignment are revoked none of them is in service. -/
theorem not_live_of_revoke {assignment : Assignment → AssignmentStatus}
    (hc : c ∈ (m.updateStatuses (·.status) assignment
      fun d => if d.assignmentId = id then .revoked else d.status).credentials)
    (hid : c.assignmentId = id) : c.status.isLive = false := by
  obtain ⟨d, -, rfl⟩ := mem_credentials_updateStatuses.1 hc
  rw [if_pos hid]
  rfl

theorem change_reissue (h : m.Sound) {assignment : Assignment → AssignmentStatus}
    (hoth : ∀ a, a.assignmentId ≠ id → assignment a = a.status)
    (hisu : Issued (m.updateStatuses (·.status) assignment
      fun c => if c.assignmentId = id then .revoked else c.status) m' id userId node fresh) :
    Change m m' [node] := by
  -- the insertion proves that the assignment is one of the node
  obtain ⟨row, hrow, hrowId, -, hrowNode⟩ := hisu.row
  obtain ⟨a, ha, rfl⟩ := mem_assignments_updateStatuses.1 hrow
  have hrvke : Change m (m.updateStatuses (·.status) assignment
      fun c => if c.assignmentId = id then .revoked else c.status) [node] := by
    apply change_updateStatuses h
    · intro c _ hlive
      by_cases hid : c.assignmentId = id
      · rw [if_pos hid] at hlive
        cases hlive
      · exact if_neg hid
    · intro c _ hlive
      refine ⟨fun b _ hb hstat => ?_, fun _ _ _ hstat => hstat⟩
      have hid : c.assignmentId ≠ id := by
        intro hid
        rw [if_pos hid] at hlive
        cases hlive
      rwa [hoth b (hb ▸ hid)] at hstat
    · intro b hb hstat
      by_cases hid : b.assignmentId = id
      · have hab : b = a := eq_of_key_eq h.keys.assignments_unique hb ha (hid.trans hrowId.symm)
        exact .inr (List.mem_singleton.2 (hab ▸ hrowNode))
      · rw [hoth b hid] at hstat
        exact .inl hstat
    · intro c hc hnot _
      have hid : c.assignmentId ≠ id := by
        intro hid
        apply hnot
        rw [(h.keys.credential_row hc ha (hid.trans hrowId.symm)).2]
        exact List.mem_singleton.2 hrowNode
      exact ⟨if_neg hid, fun b _ hb => hoth b (hb ▸ hid), fun _ _ _ => rfl⟩
  have hnew := change_issue hrvke.sound (fun c hc hid => not_live_of_revoke hc hid) hisu
  exact (hrvke.trans hnew).mono (by simp)

theorem change_insertAssignment (h : m.Sound) {row : Assignment}
    (hins : m.insertAssignment row = .ok m') :
    Change m m' [row.nodeId] ∧ ∀ c ∈ m'.credentials, c.assignmentId ≠ row.assignmentId := by
  obtain ⟨_, huser, hins⟩ := bind_ok.1 hins
  obtain ⟨_, hfresh, hins⟩ := bind_ok.1 hins
  rw [refuse_ok] at huser hfresh
  cases hins
  have hunus : ∀ c ∈ m.credentials, c.assignmentId ≠ row.assignmentId := by
    intro c hc hid
    obtain ⟨a, ha, haid, -⟩ := h.keys.credential_assignment c hc
    exact hfresh ⟨a, ha, .inl (haid.trans hid)⟩
  -- a credential serves with the new row iff it served without it
  have hcomp : ∀ other, ∀ c ∈ m.credentials,
      isCompiled { m with assignments := m.assignments ++ [row] } other c = true ↔
        m.isCompiled other c = true := by
    intro other c hc
    rw [isCompiled_iff, isCompiled_iff]
    simp [Serves, or_and_right, exists_or, (hunus c hc).symm]
  refine ⟨⟨⟨?_, h.live_unique⟩, ?_, ?_, ?_, ?_, ?_⟩, hunus⟩
  · refine { h.keys with assignments_unique := ?_, assignment_pair_unique := ?_
                         assignment_user := ?_, credential_assignment := ?_ }
    · refine nodup_append_row h.keys.assignments_unique fun a ha hid => ?_
      exact hfresh ⟨a, ha, .inl hid⟩
    · refine nodup_append_row h.keys.assignment_pair_unique fun a ha hpair => ?_
      exact hfresh ⟨a, ha, .inr (Prod.mk.inj hpair)⟩
    · intro a ha
      rcases List.mem_append.1 ha with hold | hnew
      · exact h.keys.assignment_user a hold
      · rw [List.mem_singleton.1 hnew]
        exact not_not.1 huser
    · intro c hc
      obtain ⟨a, ha, hkeys⟩ := h.keys.credential_assignment c hc
      exact ⟨a, List.mem_append_left _ ha, hkeys⟩
  · intro other c hc hnow
    exact .inl ⟨hc, (hcomp other c hc).mp hnow⟩
  · intro other _ c hc hbef
    exact ⟨hc, (hcomp other c hc).mpr hbef⟩
  · intro c hc
    exact ⟨c, hc, rfl⟩
  · intro a ha
    exact ⟨a, List.mem_append_left _ ha, rfl, rfl, rfl⟩
  · intro a ha hstat
    rcases List.mem_append.1 ha with hold | hnew
    · exact .inl ⟨a, hold, rfl, hstat⟩
    · rw [List.mem_singleton.1 hnew]
      exact .inr (List.mem_singleton_self _)

theorem change_insertAccount (h : m.Sound) (hins : m.insertAccount userId = .ok m') :
    Change m m' [] := by
  obtain ⟨_, hfresh, hins⟩ := bind_ok.1 hins
  rw [refuse_ok] at hfresh
  cases hins
  have hcomp : ∀ other, ∀ c ∈ m.credentials,
      isCompiled { m with users := m.users ++ [⟨userId, .active⟩] } other c = true ↔
        m.isCompiled other c = true := by
    intro other c hc
    have hoth : userId ≠ c.userId := by
      intro hid
      obtain ⟨a, ha, -, hauser, -⟩ := h.keys.credential_assignment c hc
      obtain ⟨u, hu, huid⟩ := h.keys.assignment_user a ha
      exact hfresh ⟨u, hu, huid.trans (hauser.trans hid.symm)⟩
    rw [isCompiled_iff, isCompiled_iff]
    simp [Serves, or_and_right, exists_or, hoth]
  refine ⟨⟨?_, h.live_unique⟩, ?_, ?_, ?_, ?_, ?_⟩
  · refine { h.keys with users_unique := ?_, assignment_user := ?_ }
    · refine nodup_append_row h.keys.users_unique fun u hu hid => ?_
      exact hfresh ⟨u, hu, hid⟩
    · intro a ha
      obtain ⟨u, hu, huser⟩ := h.keys.assignment_user a ha
      exact ⟨u, List.mem_append_left _ hu, huser⟩
  · intro other c hc hnow
    exact .inl ⟨hc, (hcomp other c hc).mp hnow⟩
  · intro other _ c hc hbef
    exact ⟨hc, (hcomp other c hc).mpr hbef⟩
  · intro c hc
    exact ⟨c, hc, rfl⟩
  · intro a ha
    exact ⟨a, ha, rfl, rfl, rfl⟩
  · intro a ha hstat
    exact .inl ⟨a, ha, rfl, hstat⟩

/-! ### The loops -/

section Loops

variable {existing rows : List Assignment} {requested nodes : List NodeId}

theorem enableAssignment_revokeAssignmentCredentials (m : Members) (id : AssignmentId) :
    (m.revokeAssignmentCredentials id).enableAssignment id = m.updateStatuses (·.status)
        (fun a => if a.assignmentId = id ∧ a.status = .disabled then .enabled else a.status)
        (fun c => if c.assignmentId = id then .revoked else c.status) := by
  simp only [revokeAssignmentCredentials, enableAssignment, updateStatuses, List.map_map,
    Function.comp_def]

theorem change_enableRequestedAssignment (h : m.Sound) {fresh : NodeId → FreshAssignment}
    {changed : Bool}
    (henable : m.enableRequestedAssignment userId existing fresh node = .ok (m', changed)) :
    Change m m' (if changed then [node] else []) := by
  unfold enableRequestedAssignment at henable
  split at henable
  · -- no assignment yet
    obtain ⟨mid, hins, henable⟩ := bind_ok.1 henable
    obtain ⟨last, hisu, henable⟩ := bind_ok.1 henable
    cases henable
    obtain ⟨hrow, hunus⟩ := change_insertAssignment h hins
    have hnew := change_issue hrow.sound (fun c hc hid => absurd hid (hunus c hc))
      (issued_of_ok hisu)
    exact (hrow.trans hnew).mono (by simp)
  · rename_i a _
    split at henable
    · -- a disabled assignment comes back
      obtain ⟨last, hisu, henable⟩ := bind_ok.1 henable
      cases henable
      rw [enableAssignment_revokeAssignmentCredentials] at hisu
      apply change_reissue h _ (issued_of_ok hisu)
      intro b hb
      exact if_neg fun hmem => hb hmem.1
    · cases henable
      exact Change.refl h
    · cases henable

theorem change_enableRequestedAssignments (h : m.Sound) {fresh : NodeId → FreshAssignment}
    (hloop : m.enableRequestedAssignments userId existing fresh requested = .ok (m', nodes)) :
    Change m m' nodes := by
  induction requested generalizing m nodes with
  | nil =>
    cases hloop
    exact Change.refl h
  | cons node rest ih =>
    obtain ⟨⟨mid, changed⟩, henable, hloop⟩ := bind_ok.1 hloop
    obtain ⟨⟨last, others⟩, hrest, hloop⟩ := bind_ok.1 hloop
    cases hloop
    have hfirst := change_enableRequestedAssignment h henable
    apply (hfirst.trans (ih hfirst.sound hrest)).mono
    cases changed <;> simp

/-- `disable_omitted_assignments` affects the nodes it returns. The rows it goes through only have
to be rows still. -/
theorem change_disableOmittedAssignments (requested : List NodeId) (h : m.Sound)
    (hrows : ∀ a ∈ rows, ∃ b ∈ m.assignments,
      b.assignmentId = a.assignmentId ∧ b.nodeId = a.nodeId) :
    Change m (m.disableOmittedAssignments requested rows).1
      (m.disableOmittedAssignments requested rows).2 := by
  induction rows generalizing m with
  | nil => exact Change.refl h
  | cons a rest ih =>
    unfold disableOmittedAssignments
    by_cases hcase : a.status = .enabled ∧ a.nodeId ∉ requested
    · rw [if_pos hcase]
      obtain ⟨b, hb, hid, hnode⟩ := hrows a List.mem_cons_self
      have hfirst : Change m (m.disableAssignment a.assignmentId) [a.nodeId] := by
        rw [← hid, ← hnode]
        exact change_disableAssignment h hb
      have hrest : ∀ d ∈ rest, ∃ b ∈ (m.disableAssignment a.assignmentId).assignments,
          b.assignmentId = d.assignmentId ∧ b.nodeId = d.nodeId := by
        intro d hd
        obtain ⟨e, he, heid, henode⟩ := hrows d (.tail _ hd)
        obtain ⟨f, hf, hfid, -, hfnode⟩ := hfirst.rows e he
        exact ⟨f, hf, hfid.trans heid, hfnode.trans henode⟩
      exact hfirst.trans (ih hfirst.sound hrest)
    · rw [if_neg hcase]
      exact ih h fun d hd => hrows d (.tail _ hd)

variable {fresh : NodeId → FreshCredential}

theorem change_rotateAssignments (h : m.Sound)
    (hloop : m.rotateAssignments userId fresh rows = .ok m') :
    Change m m' (rows.map (·.nodeId)) := by
  induction rows generalizing m with
  | nil =>
    cases hloop
    exact Change.refl h
  | cons a rest ih =>
    obtain ⟨mid, hisu, hloop⟩ := bind_ok.1 hloop
    have hfirst : Change m mid [a.nodeId] := change_reissue h (fun _ _ => rfl) (issued_of_ok hisu)
    exact hfirst.trans (ih hfirst.sound hloop)

/-- The loop touches neither accounts nor assignments. -/
theorem rotateAssignments_frame (hloop : m.rotateAssignments userId fresh rows = .ok m') :
    m'.users = m.users ∧ m'.assignments = m.assignments := by
  induction rows generalizing m with
  | nil =>
    cases hloop
    exact ⟨rfl, rfl⟩
  | cons a rest ih =>
    obtain ⟨mid, hisu, hloop⟩ := bind_ok.1 hloop
    obtain ⟨husr, hasg⟩ := ih hloop
    rw [husr, hasg, (issued_of_ok hisu).eq]
    simp [revokeAssignmentCredentials, updateStatuses]

theorem mem_of_rotate {assignment : Assignment → AssignmentStatus} {fresh : FreshCredential}
    (hisu : Issued (m.updateStatuses (·.status) assignment
      fun d => if d.assignmentId = id then .revoked else d.status) m' id userId node fresh)
    (hc : c ∈ m'.credentials) : (c.assignmentId ≠ id → c ∈ m.credentials) ∧
      (c.assignmentId = id → c.status.isLive →
        c.status = .pending ∧ ∀ d ∈ m.credentials, d.credentialId ≠ c.credentialId) := by
  rw [hisu.eq] at hc
  rcases List.mem_append.1 hc with hold | hnew
  · constructor
    · intro hid
      obtain ⟨d, hd, rfl⟩ := mem_credentials_updateStatuses.1 hold
      have hsame : (if d.assignmentId = id then CredentialStatus.revoked else d.status)
          = d.status := if_neg hid
      rw [hsame]
      exact hd
    · intro hid hlive
      rw [not_live_of_revoke hold hid] at hlive
      cases hlive
  · obtain rfl := List.mem_singleton.1 hnew
    refine ⟨fun hid => absurd rfl hid, fun _ _ => ⟨rfl, fun d hd hid => ?_⟩⟩
    exact hisu.unused _ (mem_updateStatuses_of_mem hd) hid

theorem mem_of_rotateAssignments
    (hloop : m.rotateAssignments userId fresh rows = .ok m') (hc : c ∈ m'.credentials)
    (hrow : ∀ a ∈ rows, a.assignmentId ≠ c.assignmentId) : c ∈ m.credentials := by
  induction rows generalizing m with
  | nil =>
    cases hloop
    exact hc
  | cons first rest ih =>
    obtain ⟨mid, hisu, hloop⟩ := bind_ok.1 hloop
    have hmid : c ∈ mid.credentials := ih hloop fun a ha => hrow a (.tail _ ha)
    exact (mem_of_rotate (issued_of_ok hisu) hmid).1 (hrow first List.mem_cons_self).symm

/-- After the loop, a credential in service of one of its rows is new. -/
theorem new_of_rotateAssignments (h : m.Sound)
    (hloop : m.rotateAssignments userId fresh rows = .ok m') (hc : c ∈ m'.credentials)
    (hlive : c.status.isLive) (hrow : ∃ a ∈ rows, a.assignmentId = c.assignmentId) :
    c.status = .pending ∧ ∀ d ∈ m.credentials, d.credentialId ≠ c.credentialId := by
  induction rows generalizing m with
  | nil =>
    obtain ⟨a, ha, -⟩ := hrow
    cases ha
  | cons first rest ih =>
    obtain ⟨mid, hisu, hloop⟩ := bind_ok.1 hloop
    have hiss := issued_of_ok hisu
    have hfirst : Change m mid [first.nodeId] := change_reissue h (fun _ _ => rfl) hiss
    by_cases hlat : ∃ a ∈ rest, a.assignmentId = c.assignmentId
    · -- issued by a later round, so new to `mid` and with it to `m`
      obtain ⟨hpend, hnew⟩ := ih hfirst.sound hloop hlat
      refine ⟨hpend, fun d hd hid => ?_⟩
      obtain ⟨e, he, heid⟩ := hfirst.ids d hd
      exact hnew e he (heid.trans hid)
    · -- not touched after this round
      have hmid : c ∈ mid.credentials :=
        mem_of_rotateAssignments hloop hc fun a ha hid => hlat ⟨a, ha, hid⟩
      obtain ⟨a, ha, haid⟩ := hrow
      rcases List.mem_cons.1 ha with rfl | ha
      · exact (mem_of_rotate hiss hmid).2 haid.symm hlive
      · exact absurd ⟨a, ha, haid⟩ hlat

end Loops

/-! ### The status of an account -/

theorem markActive_assignments (m : Members) (userId : UserId) :
    (m.markActive userId).assignments = m.assignments := by simp [markActive, updateStatuses]

theorem markActive_credentials (m : Members) (userId : UserId) :
    (m.markActive userId).credentials = m.credentials := by simp [markActive, updateStatuses]

theorem isCompiled_of_markActive (huser : c.userId ≠ userId)
    (h : (m.markActive userId).isCompiled node c) : m.isCompiled node c := by
  obtain ⟨hnode, hlive, hserv⟩ := isCompiled_iff.1 h
  obtain ⟨hasn, u, hu, huid, hstat⟩ := serves_updateStatuses.1 hserv
  refine isCompiled_iff.2 ⟨hnode, hlive, hasn, u, hu, huid, ?_⟩
  rwa [if_neg] at hstat
  rintro ⟨hid, -⟩
  exact huser (huid.symm.trans hid)

theorem isCompiled_markActive (h : m.isCompiled node c) :
    (m.markActive userId).isCompiled node c := by
  obtain ⟨hnode, hlive, hasn, u, hu, huid, hstat⟩ := isCompiled_iff.1 h
  refine isCompiled_iff.2 ⟨hnode, hlive, serves_updateStatuses.2 ⟨hasn, u, hu, huid, ?_⟩⟩
  by_cases hcase : u.userId = userId ∧ u.status = .disabled
  · exact if_pos hcase
  · rw [if_neg hcase, hstat]

/-- Reactivating an account affects the nodes of its enabled assignments: what compiles there was
issued by it. -/
theorem change_reactivate (h : m.Sound) {fresh : NodeId → FreshCredential}
    (hloop : (m.markActive userId).rotateAssignments userId fresh
      ((m.markActive userId).enabledAssignments userId) = .ok m') :
    Change m m' ((m.enabledAssignments userId).map (·.nodeId)) := by
  have hrows : (m.markActive userId).enabledAssignments userId = m.enabledAssignments userId := by
    simp only [enabledAssignments, storedAssignments, markActive_assignments]
  rw [hrows] at hloop
  have hsound : (m.markActive userId).Sound := h.updateStatuses fun _ _ hlive => hlive
  have hrot := change_rotateAssignments hsound hloop
  obtain ⟨-, hasg⟩ := rotateAssignments_frame hloop
  rw [markActive_assignments] at hasg
  refine ⟨hrot.sound, ?_, ?_, ?_, ?_, ?_⟩
  · intro node c hc hcomp
    rcases hrot.kept node c hc hcomp with ⟨hold, hocmp⟩ | ⟨hnode, hpend, hnew⟩
    · -- an old credential of the account itself would have been revoked
      have huser : c.userId ≠ userId := by
        intro hid
        obtain ⟨-, hlive, ⟨a, ha, haid, hast⟩, -⟩ := isCompiled_iff.1 hcomp
        have hrow := (hrot.sound.keys.credential_row hc ha haid.symm).1
        rw [hasg] at ha
        have hmem : a ∈ m.enabledAssignments userId :=
          mem_enabledAssignments.2 ⟨ha, hrow.symm.trans hid, hast⟩
        exact (new_of_rotateAssignments hsound hloop hc hlive ⟨a, hmem, haid⟩).2 c hold rfl
      rw [markActive_credentials] at hold
      exact .inl ⟨hold, isCompiled_of_markActive huser hocmp⟩
    · rw [markActive_credentials] at hnew
      exact .inr ⟨hnode, hpend, hnew⟩
  · intro node hnode c hc hcomp
    rw [← markActive_credentials m userId] at hc
    exact hrot.unaffected node hnode c hc (isCompiled_markActive hcomp)
  · intro c hc
    rw [← markActive_credentials m userId] at hc
    exact hrot.ids c hc
  · intro a ha
    rw [← markActive_assignments m userId] at ha
    exact hrot.rows a ha
  · intro a ha hstat
    rw [hasg] at ha
    exact .inl ⟨a, ha, rfl, hstat⟩

theorem change_applyAccountStatusTransition (h : m.Sound) {fresh : NodeId → FreshCredential}
    {requested : AccountStatus}
    (hchange : m.applyAccountStatusTransition userId fresh requested = .ok m') :
    Change m m' ((m.enabledAssignments userId).map (·.nodeId)) := by
  cases requested with
  | active => exact change_reactivate h hchange
  | disabled =>
    cases hchange
    exact change_disableAccount h userId
  | deleted =>
    cases hchange
    exact change_deleteAccount h userId

end RealityConsole.Controller.Members
