import RealityConsole.RevisionSync.Effects

/-!
# The ledger of revision results

`Ledger` ties the rows stored at the node to the results recorded at the controller: what is
reported is recorded, what is recorded is stored, the cursors are maxima over the recorded results,
and a rollback that is not recorded yet names the active revision.
-/

namespace RealityConsole.RevisionSync

open Protocol NodeHost Controller Framework

/-! ### The ledger -/

/-- The revisions of the recorded results that satisfy `q`. -/
def revisionsWith (results : List (Revision × RevisionResult)) (q : RevisionResult → Bool) :
    Set Nat :=
  {r | ∃ p ∈ results, p.1 = r ∧ q p.2}

/-- How the node's stored results and the controller's record fit together. -/
structure Ledger (d : Disk) (c : NodeRecord) : Prop where
  reported : ∀ row ∈ d.results, row.reportedAt.isSome → (row.revision, row.report) ∈ c.results
  recorded : ∀ p ∈ c.results, d.Holds p.1 p.2
  received : IsMaxOf c.receivedRevision (revisionsWith c.results fun _ => true)
  validated : IsMaxOf c.validatedRevision
    (revisionsWith c.results fun r => NodeRecord.provesValidated r.state)
  appliedLe : ∀ r, c.appliedRevision = some r → ∃ a, d.active = some a ∧ r ≤ a.revision
  applied : ∀ a, d.active = some a →
    (∃ p ∈ c.results, p.1 = a.revision ∧ p.2.state = .applied) →
    c.appliedRevision = some a.revision
  /-- An unrecorded rollback names the active revision. -/
  rollback : ∀ row ∈ d.results, row.report.state = .rolledBack →
    (row.revision, row.report) ∉ c.results →
    ∃ a, d.active = some a ∧ row.report.rollbackRevision = some a.revision
  status : c.status = .active
  targeted : d.desiredRevisionCursor ≠ 0 → d.desiredRevisionCursor ∈ c.targets ∧
    ∃ t, c.desiredRevision = some t ∧ d.desiredRevisionCursor ≤ t
  desired : ∀ t, c.desiredRevision = some t → t ∈ c.targets ∧ t ≤ c.lastRevision
  reportedDesired : ∀ r, c.reportedDesiredRevision = some r →
    0 < r ∧ r ≤ d.desiredRevisionCursor
  telemetry : c.telemetryCursor ≤ d.highestSequence

variable {d d' : Disk} {c c' : NodeRecord}

theorem Disk.Frame.highestSequence_le (h : Disk.Frame d d') :
    d.highestSequence ≤ d'.highestSequence :=
  Nat.sub_le_sub_right h.sequence 1

variable {row : LocalResult}

theorem holds_append {r : Revision} {report : RevisionResult}
    (hres : d'.results = d.results ++ [row]) (h : d.Holds r report) : d'.Holds r report := by
  obtain ⟨x, hx, hxr⟩ := h
  exact ⟨x, by rw [hres]; exact List.mem_append_left _ hx, hxr⟩

theorem mem_of_append {x : LocalResult} (hres : d'.results = d.results ++ [row])
    (hx : x ∈ d'.results) : x ∈ d.results ∨ x = row := by simpa [hres] using hx

theorem Ledger.reported_append (h : Ledger d c) (new : Disk.NewRow d row)
    (hres : d'.results = d.results ++ [row]) :
    ∀ x ∈ d'.results, x.reportedAt.isSome → (x.revision, x.report) ∈ c.results := by
  intro x hx hrep
  rcases mem_of_append hres hx with hx | rfl
  · exact h.reported x hx hrep
  · simp [new.unreported] at hrep

theorem Ledger.quiet (h : Ledger d c) (frame : Disk.Frame d d')
    (results : d'.results = d.results) (active : d'.active = d.active)
    (cursor : d'.desiredRevisionCursor = d.desiredRevisionCursor) : Ledger d' c := { h with
  reported := by rw [results]; exact h.reported
  recorded := by
    intro p hp
    simpa only [Disk.Holds, results] using h.recorded p hp
  appliedLe := by rw [active]; exact h.appliedLe
  applied := by rw [active]; exact h.applied
  rollback := by rw [results, active]; exact h.rollback
  targeted := by rw [cursor]; exact h.targeted
  reportedDesired := by rw [cursor]; exact h.reportedDesired
  telemetry := Nat.le_trans h.telemetry (Disk.Frame.highestSequence_le frame) }

/-- Appending an unreported row keeps the ledger while the active pointer stays. -/
theorem Ledger.append (h : Ledger d c) (frame : Disk.Frame d d')
    (new : Disk.NewRow d row) (results : d'.results = d.results ++ [row])
    (active : d'.active = d.active) (rollback : row.report.state = .rolledBack →
      ∃ a, d.active = some a ∧ row.report.rollbackRevision = some a.revision)
    (grows : d.desiredRevisionCursor ≤ d'.desiredRevisionCursor)
    (targeted : d'.desiredRevisionCursor ≠ 0 → d'.desiredRevisionCursor ∈ c.targets ∧
      ∃ t, c.desiredRevision = some t ∧ d'.desiredRevisionCursor ≤ t) : Ledger d' c := by
  exact { h with
    reported := h.reported_append new results
    recorded := fun p hp => holds_append results (h.recorded p hp)
    appliedLe := by rw [active]; exact h.appliedLe
    applied := by rw [active]; exact h.applied
    rollback := by
      intro x hx hs hnot
      rw [active]
      rcases mem_of_append results hx with hx | rfl
      · exact h.rollback x hx hs hnot
      · exact rollback hs
    targeted := targeted
    reportedDesired := fun r hr =>
      ⟨(h.reportedDesired r hr).1, Nat.le_trans (h.reportedDesired r hr).2 grows⟩
    telemetry := Nat.le_trans h.telemetry (Disk.Frame.highestSequence_le frame) }

theorem Ledger.effect (h : Ledger d c) (heff : Disk.Effect d d') : Ledger d' c := by
  cases heff with
  | quiet frame results active cursor => exact h.quiet frame results active cursor
  | insert row frame new results active cursor state positive bounded rollback =>
    exact h.append frame new results active (fun hs => (rollback hs).2)
      (Nat.le_of_eq cursor.symm) (by rw [cursor]; exact h.targeted)

theorem Ledger.receive (h : Ledger d c) (hrec : Disk.Received d d')
    (hdes : c.desiredRevision = some d'.desiredRevisionCursor) : Ledger d' c := by
  obtain ⟨row, new, results, _, state⟩ := hrec.row
  exact h.append hrec.frame new results hrec.active (fun hs => by simp [state] at hs)
    (Nat.le_of_lt hrec.newer)
    fun _ => ⟨(h.desired _ hdes).1, _, hdes, le_rfl⟩

theorem Ledger.activate (h : Ledger d c) (hwf : Disk.WellFormed d) (hact : Disk.Activated d d')
    (hroll : ∀ row ∈ d.results, row.report.state = .rolledBack →
      (row.revision, row.report) ∈ c.results) : Ledger d' c := by
  obtain ⟨row, a, new, results, active, hrow, state, _, hcur⟩ := hact.row
  exact { h with
    reported := h.reported_append new results
    recorded := fun p hp => holds_append results (h.recorded p hp)
    appliedLe := by
      intro r hr
      obtain ⟨b, hb, hle⟩ := h.appliedLe r hr
      obtain ⟨x, hx, hxb, _⟩ := hwf.activeApplied b hb
      refine ⟨a, active, Nat.le_trans hle ?_⟩
      rw [← hxb, ← hrow, hcur]
      exact hwf.bounded x hx
    applied := by
      -- the applied row is new, so the controller cannot have recorded it
      rintro b hb ⟨p, hp, hpb, hps⟩
      rw [active, Option.some.injEq] at hb
      subst hb
      obtain ⟨x, hx, hxr, hxp⟩ := h.recorded p hp
      refine absurd ?_ (new.fresh x hx)
      simp [LocalResult.key, hxr, hpb, hrow, hxp, hps, state]
    rollback := by
      intro x hx hs hnot
      rcases mem_of_append results hx with hx | rfl
      · exact absurd (hroll x hx hs) hnot
      · simp [state] at hs
    targeted := by rw [hact.cursor]; exact h.targeted
    reportedDesired := by rw [hact.cursor]; exact h.reportedDesired
    telemetry := Nat.le_trans h.telemetry (Disk.Frame.highestSequence_le hact.frame) }

/-! ### Reports -/

theorem revisionsWith_append {results : List (Revision × RevisionResult)} {rev : Revision}
    {result : RevisionResult} {q : RevisionResult → Bool} :
    revisionsWith (results ++ [(rev, result)]) q =
      if q result then insert rev (revisionsWith results q) else revisionsWith results q := by
  ext r
  cases hq : q result
  · simp [revisionsWith, or_and_right, exists_or, hq]
  simp only [revisionsWith, List.mem_append, List.mem_singleton, or_and_right, exists_or,
    exists_eq_left, hq, and_true, if_true, Set.mem_insert_iff, Set.mem_ofPred_eq]
  rw [or_comm, eq_comm]

theorem applied_of_recorded {a : ActiveState} (h : Ledger d c)
    (hwf : Disk.WellFormed d) (hact : d.active = some a) (hmem : row ∈ d.results)
    (hnew : (row.revision, row.report) ∉ c.results)
    (hrec : NodeRecord.Recorded c c' row.revision row.report) :
    (∀ r, c'.appliedRevision = some r → r ≤ a.revision) ∧
    ((∃ p ∈ c'.results, p.1 = a.revision ∧ p.2.state = .applied) →
      c'.appliedRevision = some a.revision) := by
  have hle : c.appliedRevision.getD 0 ≤ a.revision := by
    cases hc : c.appliedRevision with
    | none => exact Nat.zero_le _
    | some r =>
      obtain ⟨b, hb, hrb⟩ := h.appliedLe r hc
      rw [hact, Option.some.injEq] at hb
      exact hb ▸ hrb
  have happ := hrec.applied
  cases hs : row.report.state with
  | applied =>
    rw [hs] at happ
    obtain ⟨b, hb, hrow⟩ := hwf.appliedLe row hmem hs
    rw [hact, Option.some.injEq] at hb
    subst hb
    refine ⟨fun r hr => ?_, fun hp => ?_⟩
    · rw [happ, NodeRecord.advance, Option.some.injEq] at hr
      exact hr ▸ Nat.max_le.2 ⟨hle, hrow⟩
    · -- either the activation was recorded before, or it is the result just recorded
      rw [happ, NodeRecord.advance]
      obtain ⟨p, hp, hpa, hps⟩ := hp
      rw [hrec.results, List.mem_append, List.mem_singleton] at hp
      rcases hp with hp | rfl
      · rw [h.applied a hact ⟨p, hp, hpa, hps⟩]
        exact congrArg some (Nat.max_eq_left hrow)
      have hpa : row.revision = a.revision := hpa
      rw [hpa]
      exact congrArg some (Nat.max_eq_right hle)
  | rolledBack =>
    rw [hs] at happ
    obtain ⟨b, hb, hroll⟩ := h.rollback row hmem hs hnew
    rw [hact, Option.some.injEq] at hb
    subst hb
    rw [happ, hroll]
    exact ⟨fun r hr => Nat.le_of_eq (Option.some.inj hr).symm, fun _ => rfl⟩
  | _ =>
    rw [hs] at happ
    rw [happ]
    refine ⟨fun r hr => ?_, ?_⟩
    · simpa [hr] using hle
    · rintro ⟨p, hp, hpa, hps⟩
      rw [hrec.results, List.mem_append, List.mem_singleton] at hp
      rcases hp with hp | rfl
      · exact h.applied a hact ⟨p, hp, hpa, hps⟩
      · simp [hs] at hps

theorem applied_of_recorded_none (h : Ledger d c) (hwf : Disk.WellFormed d) (hact : d.active = none)
    (hmem : row ∈ d.results) (hnew : (row.revision, row.report) ∉ c.results)
    (hrec : NodeRecord.Recorded c c' row.revision row.report) : c'.appliedRevision = none := by
  have hnone : c.appliedRevision = none := by
    cases hc : c.appliedRevision with
    | none => rfl
    | some r =>
      obtain ⟨b, hb, _⟩ := h.appliedLe r hc
      simp [hact] at hb
  have happ := hrec.applied
  cases hs : row.report.state with
  | applied =>
    obtain ⟨b, hb, _⟩ := hwf.appliedLe row hmem hs
    simp [hact] at hb
  | rolledBack =>
    obtain ⟨b, hb, _⟩ := h.rollback row hmem hs hnew
    simp [hact] at hb
  | _ =>
    rw [hs] at happ
    exact happ.trans hnone

theorem Ledger.record (h : Ledger d c) (hwf : Disk.WellFormed d) (hmem : row ∈ d.results)
    (hok : c.recordRevisionResult row.revision row.report = .ok c') : Ledger d c' := by
  obtain ⟨rfl, _⟩ | ⟨hnew, hrec⟩ := NodeRecord.record_cases hok
  · exact h
  have hsub : ∀ p ∈ c.results, p ∈ c'.results := by
    intro p hp
    rw [hrec.results]
    exact List.mem_append_left _ hp
  exact {
    reported := fun x hx hr => hsub _ (h.reported x hx hr)
    recorded := by
      intro p hp
      rw [hrec.results, List.mem_append, List.mem_singleton] at hp
      rcases hp with hp | rfl
      · exact h.recorded p hp
      · exact ⟨row, hmem, rfl, rfl⟩
    received := by
      rw [hrec.received, hrec.results, revisionsWith_append, if_pos rfl]
      exact h.received.advance _
    validated := by
      rw [hrec.validated, hrec.results, revisionsWith_append]
      split
      · exact h.validated.advance _
      · exact h.validated
    appliedLe := by
      intro r hr
      cases hact : d.active with
      | none => simp [applied_of_recorded_none h hwf hact hmem hnew hrec] at hr
      | some a => exact ⟨a, rfl, (applied_of_recorded h hwf hact hmem hnew hrec).1 r hr⟩
    applied := fun a hact => (applied_of_recorded h hwf hact hmem hnew hrec).2
    rollback := fun x hx hs hnot => h.rollback x hx hs fun hin => hnot (hsub _ hin)
    status := hrec.status.trans h.status
    targeted := by rw [hrec.targets, hrec.desired]; exact h.targeted
    desired := by rw [hrec.targets, hrec.desired, hrec.lastRevision]; exact h.desired
    reportedDesired := by
      intro r hr
      rw [hrec.reportedDesired, NodeRecord.advance, Option.some.injEq] at hr
      subst hr
      refine ⟨Nat.lt_of_lt_of_le (hwf.positive row hmem) (Nat.le_max_right _ _),
        Nat.max_le.2 ⟨?_, hwf.bounded row hmem⟩⟩
      cases hc : c.reportedDesiredRevision with
      | none => exact Nat.zero_le _
      | some q => exact (h.reportedDesired q hc).2
    telemetry := by rw [hrec.telemetry]; exact h.telemetry }

variable {now : Timestamp}

theorem Ledger.mark (h : Ledger d c) (hwf : Disk.WellFormed d) (hmem : row ∈ d.results)
    (hin : (row.revision, row.report) ∈ c.results)
    (hmark : d.markReported row.revision row.report.state now = some d') : Ledger d' c := by
  obtain ⟨hmarked, hrep⟩ := Disk.markReported_marked hmark
  have hwf' := hmarked.wellFormed hwf
  have hrow : d'.Holds row.revision row.report := hmarked.holds.2 ⟨row, hmem, rfl, rfl⟩
  have hreported : ∀ x ∈ d'.results, x.reportedAt.isSome → (x.revision, x.report) ∈ c.results := by
    intro x hx hsome
    rcases hrep x hx hsome with hx' | hkey
    · exact h.reported x hx' hsome
    -- keys are unique, so the marked row is the one that was sent
    obtain ⟨y, hy, hyr, hyp⟩ := hrow
    have hxy : x = y := by
      refine List.inj_on_of_nodup_map hwf'.keys hx hy ?_
      rw [hkey, LocalResult.key, hyr, hyp]
    rw [hxy, hyr, hyp]
    exact hin
  have hholds : ∀ {r rep}, d'.Holds r rep ↔ d.Holds r rep := hmarked.holds
  obtain ⟨f, rfl, hf⟩ := hmarked.rows
  exact { h with
    reported := hreported
    recorded := fun p hp => hholds.2 (h.recorded p hp)
    rollback := by
      intro x hx
      obtain ⟨y, hy, rfl⟩ := List.mem_map.1 hx
      rw [(hf y).1, (hf y).2]
      exact h.rollback y hy }

/-! ### Publications and heartbeats -/

theorem Ledger.publish (h : Ledger d c) (hok : c.publish = .ok c') : Ledger d c' := by
  unfold NodeRecord.publish at hok
  split at hok
  · cases hok
    exact { h with
      targeted := by
        -- the cursor was at or below the old target, which is at or below the last revision
        intro hne
        obtain ⟨hin, t, ht, hle⟩ := h.targeted hne
        exact ⟨List.mem_append_left _ hin, _, rfl,
          Nat.le_trans hle (Nat.le_succ_of_le (h.desired t ht).2)⟩
      desired := by
        intro t ht
        simp only [Option.some.injEq] at ht
        subst ht
        exact ⟨List.mem_append_right _ (List.mem_singleton_self _), le_rfl⟩ }
  · cases hok

theorem Ledger.publishElsewhere (h : Ledger d c) : Ledger d c.publishElsewhere :=
  { h with desired := fun t ht => ⟨(h.desired t ht).1, Nat.le_succ_of_le (h.desired t ht).2⟩ }

variable {runtime : NodeRuntimeState}

theorem currentHeartbeat_fields {advertising : Bool} {gen : Nat} {beat : NodeHeartbeat}
    (h : d.currentHeartbeat advertising runtime gen = some beat) :
    beat.revisions = d.revisionProgress ∧ beat.telemetryCursor = d.highestSequence := by
  simp only [Disk.currentHeartbeat, Option.ite_none_right_eq_some, Option.some.injEq] at h
  obtain ⟨_, rfl⟩ := h
  exact ⟨rfl, rfl⟩

theorem Ledger.heartbeat {advertising : Bool} {gen : Nat} {beat : NodeHeartbeat} (h : Ledger d c)
    (hbeat : d.currentHeartbeat advertising runtime gen = some beat)
    (hok : c.recordHeartbeat beat = .ok c') : Ledger d c' := by
  obtain ⟨hrev, htel⟩ := currentHeartbeat_fields hbeat
  obtain rfl | rfl := NodeRecord.heartbeat_cases hok
  · exact h
  exact { h with
    reportedDesired := by
      intro r hr
      simp only [hrev, Disk.revisionProgress, Disk.optionalRevision] at hr
      split at hr
      · cases hr
      rename_i hne
      cases hr
      exact ⟨Nat.pos_of_ne_zero hne, le_rfl⟩
    telemetry := Nat.le_of_eq htel }

end RealityConsole.RevisionSync
