import RealityConsole.Endpoints.Model

/-!
# The invariant of the endpoint tables

Every candidate has a verification, which is withdrawn exactly when the candidate
is; the last report of a candidate is one that its node has made; and its revision
is published. Every step keeps this.
-/

namespace RealityConsole.Endpoints

open Framework Protocol Controller

variable {s s' : EndpointStore} {w w' : World} {node : NodeId} {now : Nat}
  {key : NodeId × EndpointId} {row : CandidateRow}

/-- The node has made this report or a later one. -/
def Heard (policy : PolicyStore) (node : NodeId) (generation : Nat) : Prop :=
  ∃ record, policy.nodes.find node = some record ∧ generation ≤ record.lastHeartbeatGeneration

structure RowInv (s : EndpointStore) (key : NodeId × EndpointId) (row : CandidateRow) : Prop where
  heard : Heard s.policy key.1 row.lastReportGeneration
  announced : row.verificationGeneration ≤ row.lastReportGeneration
  revision : (row.appliedRevision : Nat) ≤ s.policy.lastRevision
  withdrawn : s.verifications.find key = some .withdrawn ↔ row.withdrawnAt.isSome = true

/-- What holds of the tables between operations. -/
structure Inv (s : EndpointStore) : Prop where
  anchored : Policy.Anchored s.policy
  keyed : s.candidates.Keyed
  paired : ∀ key, (s.verifications.find key).isSome = (s.candidates.find key).isSome
  rows : ∀ key row, s.candidates.find key = some row → RowInv s key row
  /-- An attempt is made for a report that its node has made. -/
  attempts : ∀ a ∈ s.attempts, Heard s.policy a.nodeId a.candidateGeneration

theorem inv_emptyStore (nid : NetworkId) (controllerInstanceId : ControllerInstanceId) :
    Inv (emptyStore nid controllerInstanceId) where
  anchored := Policy.anchored_emptyStore nid controllerInstanceId
  keyed := Table.keyed_nil
  paired _ := rfl
  rows := by
    intro key row hfind
    cases hfind
  attempts := by
    intro a ha
    cases ha

theorem Inv.exists_row (h : Inv s) {verification : Verification}
    (hfind : s.verifications.find key = some verification) :
    ∃ row, s.candidates.find key = some row := by
  apply Option.isSome_iff_exists.1
  rw [← h.paired, hfind]
  rfl

variable {record : NodeRecord}

theorem Inv.newer (h : Inv s) (hfind : s.policy.nodes.find node = some record) {generation : Nat}
    (hlt : record.lastHeartbeatGeneration < generation) : Newer s node generation := by
  intro endpoint row hrow
  obtain ⟨record', hrec', hle⟩ := (h.rows _ _ hrow).heard
  obtain rfl := Option.mem_unique hfind hrec'
  exact lt_of_le_of_lt hle hlt

theorem Heard.evolves {pol pol' : PolicyStore} {generation : Nat} (h : Heard pol node generation)
    (hevol : Policy.Evolves pol pol') : Heard pol' node generation := by
  obtain ⟨record, hrec, hle⟩ := h
  obtain ⟨record', hrec', hgen⟩ := hevol.nodes node record hrec
  exact ⟨record', hrec', hgen ▸ hle⟩

/-- New attempts are made for reports that have been made. -/
theorem Inv.attempts_grow (h : Inv s) {attempts : List ProbeAttempt}
    (hgrow : AttemptsGrow s.candidates s.attempts attempts) {a : ProbeAttempt}
    (ha : a ∈ attempts) : Heard s.policy a.nodeId a.candidateGeneration := by
  rcases hgrow.made a ha with ⟨old, hold, hkept⟩ | ⟨entry, hent, hnode, hgen⟩
  · rw [hkept.eq]
    exact h.attempts old hold
  · rw [hnode, hgen]
    exact (h.rows entry.1 entry.2 ((h.keyed.find_eq_some_iff).mpr hent)).heard

/-- The candidates stay, and no verification is withdrawn or taken back. -/
theorem Inv.frame (h : Inv s) (hcands : s'.candidates = s.candidates)
    (hatt : AttemptsGrow s.candidates s.attempts s'.attempts)
    (hpaired : ∀ key, (s'.verifications.find key).isSome = (s.verifications.find key).isSome)
    (hwd : ∀ key, s'.verifications.find key = some .withdrawn ↔
      s.verifications.find key = some .withdrawn)
    {pol : PolicyStore} (hevol : Policy.Evolves pol s'.policy)
    (hnodes : pol.nodes = s.policy.nodes)
    (hlast : pol.lastRevision = s.policy.lastRevision) (hanch : Policy.Anchored pol) :
    Inv s' := by
  have hheard : ∀ {node generation}, Heard s.policy node generation →
      Heard pol node generation := by
    rintro node generation ⟨record, hrec, hle⟩
    exact ⟨record, hnodes ▸ hrec, hle⟩
  refine ⟨hevol.anchored hanch, hcands ▸ h.keyed, ?_, ?_, ?_⟩
  · intro key
    rw [hcands, hpaired, h.paired]
  · intro key row hrow
    rw [hcands] at hrow
    have hold := h.rows key row hrow
    exact ⟨(hheard hold.heard).evolves hevol, hold.announced,
      (hold.revision.trans hlast.ge).trans hevol.last, (hwd key).trans hold.withdrawn⟩
  · intro a ha
    exact (hheard (h.attempts_grow hatt ha)).evolves hevol

/-! ### Heartbeats -/

theorem appliedRevision_of_progress {heartbeat : NodeHeartbeat}
    (h : record.validateReportedProgress heartbeat = .ok ()) :
    record.appliedRevision = heartbeat.revisions.appliedRevision := by
  unfold NodeRecord.validateReportedProgress at h
  simp only [check_ok] at h
  obtain ⟨-, -, -, -, happ, -⟩ := h
  unfold NodeRecord.ensureAuthoritativeProgress at happ
  split at happ
  · assumption
  split at happ
  · cases happ
  · split at happ
    · cases happ
    · cases happ
  · cases happ

variable {heartbeat : EndpointHeartbeat}

theorem Inv.document (h : Inv s) (hacc : Accepts s node heartbeat record) {c : EndpointCandidate}
    (hc : c ∈ heartbeat.endpoints) :
    (s.policy.documents.find (node, c.appliedRevision)).isSome := by
  have happ := ((EndpointHeartbeat.valid_of_validate hacc.valid).candidates c hc).2
  exact h.anchored.applied_document hacc.found
    ((appliedRevision_of_progress hacc.progress).trans happ.symm)

theorem Inv.updated (h : Inv s) (hacc : Accepts s node heartbeat record)
    (hupd : (reportedStore s node heartbeat record now).recordEndpointCandidates node
      heartbeat.endpoints heartbeat.heartbeatGeneration now = .ok s') :
    Updated (reportedStore s node heartbeat record now) s' node heartbeat.endpoints
      heartbeat.heartbeatGeneration now := by
  have hval := EndpointHeartbeat.valid_of_validate hacc.valid
  have hkeyed : (reportedStore s node heartbeat record now).candidates.Keyed := h.keyed
  obtain ⟨hall, -, rfl⟩ := (recordEndpointCandidates_ok hkeyed hval.ids hval.addresses).mp hupd
  exact updated_updatedAll hkeyed (h.newer hacc.found hacc.newer) hval.ids hall

theorem inv_reported (h : Inv s) (hacc : Accepts s node heartbeat record)
    (hupd : Updated (reportedStore s node heartbeat record now) s' node heartbeat.endpoints
      heartbeat.heartbeatGeneration now) : Inv s' := by
  have hheard : ∀ other, s'.policy.nodes.find other = if other = node
      then some (heard heartbeat.toNodeHeartbeat record) else s.policy.nodes.find other := by
    rw [hupd.policy]
    exact Policy.find_updateAt_of_find (fun _ => heard heartbeat.toNodeHeartbeat record) hacc.found
  have hlast : s'.policy.lastRevision = s.policy.lastRevision := by rw [hupd.policy]; rfl
  have hanch : Policy.Anchored s'.policy := by
    rw [hupd.policy]
    exact Policy.anchored_updateRow _ hacc.found rfl
      (fun htracked => ⟨htracked.results, htracked.applied⟩) h.anchored
  have hself : s'.policy.nodes.find node = some (heard heartbeat.toNodeHeartbeat record) :=
    (hheard node).trans (if_pos rfl)
  have hkeep : ∀ {other generation}, Heard s.policy other generation →
      Heard s'.policy other generation := by
    rintro other generation ⟨stored, hsto, hle⟩
    by_cases hoth : other = node
    · subst hoth
      obtain rfl := Option.mem_unique hacc.found hsto
      exact ⟨_, hself, hle.trans hacc.newer.le⟩
    · exact ⟨stored, (hheard other).trans ((if_neg hoth).trans hsto), hle⟩
  refine ⟨hanch, hupd.keyed, ?_, ?_, ?_⟩
  · intro key
    rcases key_cases node heartbeat.endpoints key with hoth | ⟨c, hc, rfl⟩ | ⟨e, he, rfl⟩
    · obtain ⟨hrow, hvf⟩ := hupd.elsewhere key hoth
      rw [hrow, hvf]
      exact h.paired key
    · have hpaired := h.paired (node, c.endpointId)
      cases hold : s.candidates.find (node, c.endpointId) with
      | none =>
        obtain ⟨hrow, hvf⟩ := hupd.new c hc hold
        rw [hrow, hvf]
        rfl
      | some row =>
        obtain ⟨-, hrow, hvf⟩ := hupd.known c hc row hold
        rw [hrow, hvf, Option.isSome_map]
        exact hpaired.trans (by rw [hold]; rfl)
    · obtain ⟨hrow, hvf⟩ := hupd.dropped e he
      rw [hrow, hvf, Option.isSome_map, Option.isSome_map]
      exact h.paired (node, e)
  · intro key row' hrow'
    rcases key_cases node heartbeat.endpoints key with hoth | ⟨c, hc, rfl⟩ | ⟨e, he, rfl⟩
    · obtain ⟨hrow, hvf⟩ := hupd.elsewhere key hoth
      have hold := h.rows key row' (hrow.symm.trans hrow')
      refine ⟨hkeep hold.heard, hold.announced, hlast ▸ hold.revision, ?_⟩
      rw [hvf]
      exact hold.withdrawn
    · cases hold : s.candidates.find (node, c.endpointId) with
      | none =>
        obtain ⟨hrow, hvf⟩ := hupd.new c hc hold
        obtain rfl := Option.mem_unique hrow hrow'
        refine ⟨⟨_, hself, le_rfl⟩, le_rfl, ?_, ?_⟩
        · obtain ⟨signed, hsigned⟩ := Option.isSome_iff_exists.1 (h.document hacc hc)
          rw [hlast]
          exact h.anchored.documents _ signed hsigned
        · rw [hvf]
          constructor
          · intro hpend
            cases hpend
          · intro hsome
            cases hsome
      | some row =>
        obtain ⟨-, hrow, hvf⟩ := hupd.known c hc row hold
        obtain rfl := Option.mem_unique hrow hrow'
        have hrowInv := h.rows _ row hold
        have hnewer := h.newer hacc.found hacc.newer c.endpointId row hold
        refine ⟨⟨_, hself, le_rfl⟩, ?_, hlast ▸ hrowInv.revision, ?_⟩
        · show (if row.withdrawnAt.isSome then _ else row.verificationGeneration) ≤ _
          split
          · exact le_rfl
          · exact hrowInv.announced.trans hnewer.le
        · -- a verification that was withdrawn starts anew
          rw [hvf, withdrawnAt_refreshed]
          constructor
          · intro hwd
            obtain ⟨v, hv, hpend⟩ := Option.map_eq_some_iff.1 hwd
            split at hpend
            · cases hpend
            rename_i hnot
            subst hpend
            exact absurd ⟨hrowInv.withdrawn.1 hv, rfl⟩ hnot
          · intro hsome
            cases hsome
    · obtain ⟨hrow, hvf⟩ := hupd.dropped e he
      obtain ⟨row, hold, rfl⟩ := Option.map_eq_some_iff.1 (hrow.symm.trans hrow')
      replace hold : s.candidates.find (node, e) = some row := hold
      have hrowInv := h.rows _ row hold
      have hfields : (dropRow now row).lastReportGeneration = row.lastReportGeneration ∧
          (dropRow now row).verificationGeneration = row.verificationGeneration ∧
          (dropRow now row).appliedRevision = row.appliedRevision := by
        unfold dropRow
        split <;> exact ⟨rfl, rfl, rfl⟩
      refine ⟨?_, ?_, ?_, ?_⟩
      · rw [hfields.1]
        exact hkeep hrowInv.heard
      · rw [hfields.1, hfields.2.1]
        exact hrowInv.announced
      · rw [hfields.2.2, hlast]
        exact hrowInv.revision
      · have hver : (s.verifications.find (node, e)).isSome = true := by
          rw [h.paired, hold]
          rfl
        obtain ⟨v, hv⟩ := Option.isSome_iff_exists.1 hver
        replace hvf : s'.verifications.find (node, e)
          = (s.verifications.find (node, e)).map fun v =>
            if (s.candidates.find (node, e)).isSome then .withdrawn else v := hvf
        rw [hvf, hv, hold]
        simp [isSome_withdrawnAt_dropRow]
  · intro a ha
    rw [hupd.attempts] at ha
    exact hkeep (h.attempts_grow (attemptsGrow_map fun _ => kept_ite) ha)

/-! ### Every step -/

theorem inv_effect (h : Inv w.store) (heff : Effect now w w') : Inv w'.store := by
  cases heff with
  | quiet candidates verifications attempts policy jobs =>
    refine h.frame candidates attempts ?_ ?_ policy rfl rfl h.anchored
    · intro key
      rw [verifications]
    · intro key
      rw [verifications]
  | rotated node fresh policy eq evolves =>
    subst eq
    have hfind : ∀ key, (w.store.resetVerifications node).verifications.find key
        = (w.store.verifications.find key).map (EndpointStore.resetVerification node key) :=
      fun key => Table.find_update key (EndpointStore.resetVerification node) _
    have hanch : Policy.Anchored { w.store.policy with
        canaries := rotateCanary w.store.policy.canaries node fresh } :=
      ⟨h.anchored.documents, h.anchored.ordered, h.anchored.targets, h.anchored.tracked⟩
    refine h.frame rfl (AttemptsGrow.refl _ _) ?_ ?_ evolves rfl rfl hanch
    · intro key
      show ((w.store.resetVerifications node).verifications.find key).isSome = _
      rw [hfind, Option.isSome_map]
    · intro key
      show (w.store.resetVerifications node).verifications.find key = some .withdrawn ↔ _
      rw [hfind]
      cases w.store.verifications.find key with
      | none => simp
      | some v =>
        by_cases hnode : key.1 = node
        · by_cases hv : v = .withdrawn
          · simp [EndpointStore.resetVerification, hv]
          · simp [EndpointStore.resetVerification, hv, hnode]
        · simp [EndpointStore.resetVerification, hnode]
  | reported node heartbeat record accepts update jobs =>
    exact inv_reported h accepts (h.updated accepts update)
  | recorded job result claim row record credential prev issued current verification
      verifiable eq =>
    subst eq
    have hfind : ∀ key, (recordedStore w.store job claim prev result now).verifications.find key
        = if key = (job.nodeId, job.endpointId) then (w.store.verifications.find key).map fun _ =>
          EndpointStore.protocolVerification now prev result
        else w.store.verifications.find key :=
      fun key => Table.find_updateAt key (job.nodeId, job.endpointId)
        (fun _ => EndpointStore.protocolVerification now prev result) _
    refine h.frame rfl (attemptsGrow_map fun _ => kept_ite) ?_ ?_ (Policy.Evolves.refl _) rfl rfl
      h.anchored
    · intro key
      show ((recordedStore w.store job claim prev result now).verifications.find key).isSome = _
      rw [hfind]
      split
      · rw [Option.isSome_map]
      · rfl
    · intro key
      show (recordedStore w.store job claim prev result now).verifications.find key = _ ↔ _
      rw [hfind]
      split
      · rename_i hkey
        rw [hkey, verification]
        have hres : EndpointStore.protocolVerification now prev result ≠ .withdrawn := by
          cases result <;> exact fun h => by cases h
        simp [hres, verifiable]
      · rfl

/-- The invariant holds in every reachable state, whatever is asked of its steps. -/
theorem inv_of_run {ident : ControllerIdentity} {ok : World → Label → Prop}
    (h : (system ident).Run ok w) : Inv w.store := by
  apply h.invariant (I := fun w => Inv w.store)
  · rintro _ ⟨nid, controllerInstanceId, rfl⟩
    exact inv_emptyStore nid controllerInstanceId
  · intro a label b ha _ hnext
    exact inv_effect ha (effect_of_next hnext)

end RealityConsole.Endpoints
