import RealityConsole.RevisionSync.Ledger

/-!
# Every step keeps the ledger

Each function of the node's loop has one lemma that says what its step does to the stored rows
(`Sound`). An activation can break the ledger's last point, so none may be committed while the
controller lacks a stored rollback (`RollbacksRecorded`).
-/

namespace RealityConsole.RevisionSync

open Protocol NodeHost Controller Framework

variable {d : Disk} {c : NodeRecord} {now : Timestamp} {runtime : NodeRuntimeState}

/-! ### The position of the process -/

/-- What the node's process relies on between two steps. -/
def PcOk (d : Disk) : Pc → Prop
  | .resolve _ revision previous | .begin _ revision previous =>
    revision = d.desiredRevisionCursor ∧ d.Validated revision ∧
      previous = d.active.map (·.revision)
  | .activating _ candidate previous _ | .stabilizing _ candidate previous _ =>
    candidate.revision = d.desiredRevisionCursor ∧ d.Validated candidate.revision ∧
      previous.map (·.revision) = d.active.map (·.revision)
  | .rollingBack _ _ previous _ => d.active.map (·.revision) = some previous.revision
  | .reporting _ _ revision _ queue =>
    revision = d.desiredRevisionCursor ∧ 0 < revision ∧
      ∀ q ∈ queue, d.Holds q.revision q.report
  | .validating _ _ revision => revision = d.desiredRevisionCursor ∧ 0 < revision
  | .fetch _ cursor => cursor = d.desiredRevisionCursor
  | _ => True

@[simp] theorem pcOk_failed (job : Job) : PcOk d job.failed := by cases job <;> exact trivial

@[simp] theorem pcOk_jobDone (job : Job) : PcOk d job.done := by cases job <;> exact trivial

@[simp] theorem pcOk_passDone (pass : Pass) : PcOk d pass.done := by cases pass <;> exact trivial

theorem pcOk_spool {n : Nat} {pc : Pc} : PcOk { d with nextSequence := n } pc ↔ PcOk d pc := by
  cases pc <;> exact Iff.rfl

variable {scope : Disk.ReportScope}

theorem holds_of_unreported {q : LocalResult}
    (h : q ∈ d.unreportedResults scope) : d.Holds q.revision q.report := by
  have hsort := List.mem_of_mem_take h
  rw [List.mem_insertionSort] at hsort
  exact ⟨q, (List.mem_filter.1 hsort).1, rfl, rfl⟩

variable {revision : Revision}

theorem pcOk_reportScope {job : Job} {fetched : Bool} (hcur : revision = d.desiredRevisionCursor)
    (hpos : 0 < revision) : PcOk d (reportScope d job fetched revision scope) :=
  ⟨hcur, hpos, fun _ hq => holds_of_unreported hq⟩

/-! ### What one step does -/

inductive StepEffect (w : World) (l : Label) (w' : World) : Prop
  /-- A transaction of the node that keeps the cursor and the active pointer. -/
  | node (controller : w'.controller = w.controller) (effect : Disk.Effect w.disk w'.disk)
  | fetched (controller : w'.controller = w.controller) (effect : Disk.Received w.disk w'.disk)
      (desired : w.controller.desiredRevision = some w'.disk.desiredRevisionCursor)
  | activated (controller : w'.controller = w.controller) (now : Timestamp)
      (label : l = .proveCandidate .healthy now) (effect : Disk.Activated w.disk w'.disk)
  | published (disk : w'.disk = w.disk) (ok : w.controller.publish = .ok w'.controller)
  | publishedElsewhere (disk : w'.disk = w.disk)
      (controller : w'.controller = w.controller.publishElsewhere)
  /-- A report reached the controller; the node may not have learned it. -/
  | reported (row : LocalResult) (now : Timestamp) (stored : row ∈ w.disk.results)
      (ok : w.controller.recordRevisionResult row.revision row.report = .ok w'.controller)
      (disk : w'.disk = w.disk ∨
        w.disk.markReported row.revision row.report.state now = some w'.disk)
  | heartbeat (disk : Disk.Effect w.disk w'.disk) (advertising : Bool)
      (runtime : NodeRuntimeState) (generation : Nat) (heartbeat : NodeHeartbeat)
      (sent : w'.disk.currentHeartbeat advertising runtime generation = some heartbeat)
      (ok : w.controller.recordHeartbeat heartbeat = .ok w'.controller)

/-- The invariant of the runs in which no activation overtakes a rollback. -/
structure Inv (w : World) : Prop where
  wellFormed : Disk.WellFormed w.disk
  pc : PcOk w.disk w.pc
  ledger : Ledger w.disk w.controller

theorem Inv.pcOk {w : World} {pc : Pc} (h : Inv w) (hpc : w.pc = pc) : PcOk w.disk pc := hpc ▸ h.pc

/-- No activation is committed while the controller lacks a rollback that the node has stored. -/
def RollbacksRecorded (w : World) : Label → Prop
  | .proveCandidate .healthy _ => ∀ row ∈ w.disk.results, row.report.state = .rolledBack →
      (row.revision, row.report) ∈ w.controller.results
  | _ => True

instance (w : World) (l : Label) : Decidable (RollbacksRecorded w l) := by
  unfold RollbacksRecorded
  split <;> infer_instance

variable {w w' : World} {l : Label}

theorem StepEffect.wellFormed (h : StepEffect w l w') (hwf : Disk.WellFormed w.disk) :
    Disk.WellFormed w'.disk := by
  cases h with
  | node _ effect => exact effect.wellFormed hwf
  | fetched _ effect => exact effect.wellFormed hwf
  | activated _ _ _ effect => exact effect.wellFormed hwf
  | published disk => exact disk ▸ hwf
  | publishedElsewhere disk => exact disk ▸ hwf
  | reported row now _ _ disk =>
    rcases disk with disk | mark
    · exact disk ▸ hwf
    · exact (Disk.markReported_marked mark).1.wellFormed hwf
  | heartbeat disk => exact disk.wellFormed hwf

theorem StepEffect.ledger (h : StepEffect w l w') (hi : Inv w) (hok : RollbacksRecorded w l) :
    Ledger w'.disk w'.controller := by
  cases h with
  | node controller effect => exact controller ▸ hi.ledger.effect effect
  | fetched controller effect desired => exact controller ▸ hi.ledger.receive effect desired
  | activated controller now label effect =>
    subst label
    exact controller ▸ hi.ledger.activate hi.wellFormed effect hok
  | published disk ok => exact disk ▸ hi.ledger.publish ok
  | publishedElsewhere disk controller => exact disk ▸ controller ▸ hi.ledger.publishElsewhere
  | reported row now stored ok disk =>
    have hrec := hi.ledger.record hi.wellFormed stored ok
    rcases disk with disk | mark
    · exact disk ▸ hrec
    · exact hrec.mark hi.wellFormed stored (NodeRecord.mem_results_of_record ok) mark
  | heartbeat disk advertising runtime generation heartbeat sent ok =>
    exact (hi.ledger.effect disk).heartbeat sent ok

/-! ### The steps, one by one -/

def Sound (w : World) (l : Label) (w' : World) : Prop :=
  StepEffect w l w' ∧ PcOk w'.disk w'.pc

theorem Sound.move {pc : Pc} (h : PcOk w.disk pc) : Sound w l { w with pc := pc } :=
  ⟨.node rfl .refl, h⟩

theorem Sound.moved {pc : Pc} (heq : some { w with pc := pc } = some w') (h : PcOk w.disk pc) :
    Sound w l w' := by
  cases heq
  exact .move h

/-- A transaction of the node after which the process relies on nothing. -/
theorem Sound.effect {d : Disk} {pc : Pc} (heff : Disk.Effect w.disk d) (h : PcOk d pc) :
    Sound w l { w with disk := d, pc := pc } :=
  ⟨.node rfl heff, h⟩

theorem attempted_effect {result : Option Disk}
    (h : ∀ d', result = some d' → Disk.Effect d d') : Disk.Effect d (attempted d result).1 := by
  cases result with
  | none => exact .refl
  | some d' => exact h d' rfl

theorem recover_effect (hwf : Disk.WellFormed d) (healthy : Bool) (now : Timestamp) :
    Disk.Effect d (recover d healthy now).1 := by
  unfold recover
  split
  · exact .refl
  · exact .refl
  · rename_i journal hj
    have hmem := Disk.mem_journal_of_incomplete hj
    unfold recoverInterrupted
    split
    · exact .refl
    · rename_i previousRevision active _ hact
      split
      · rename_i hok
        split
        · exact .refl
        rename_i prev hcand
        refine attempted_effect fun d' hd' => Disk.finalizeRolledBack_effect hwf hmem hact ?_ hd'
        exact (Disk.loadCandidate_revision hcand).trans hok.1.symm
      · exact attempted_effect fun d' => Disk.markRecoveryRequired_quiet
    · dsimp only
      split
      · exact attempted_effect fun d' => Disk.finalizeRejected_effect hwf hmem
      · exact attempted_effect fun d' => Disk.updateJournalPhase_quiet

theorem startService_sound {healthy : Bool} (hi : Inv w)
    (h : startService w healthy now = some w') : Sound w l w' := by
  unfold startService at h
  split at h
  · cases h
  split at h
  · exact .moved h trivial
  cases h
  refine .effect (recover_effect hi.wellFormed healthy now) ?_
  split <;> exact trivial

theorem loadPending_sound (h : loadPending w = some w') : Sound w l w' := by
  unfold loadPending at h
  split at h
  · split at h
    · exact .moved h (by simp)
    rename_i revision hpend
    obtain ⟨hcur, hval⟩ := Disk.pendingRevision_spec hpend
    split at h
    · exact .moved h (by simp)
    · exact .moved h ⟨hcur, hval, rfl⟩
  · cases h

theorem resolveSuperseded_sound (hi : Inv w)
    (h : resolveSuperseded w now = some w') : Sound w l w' := by
  unfold resolveSuperseded at h
  split at h
  · rename_i pass revision prev hpc
    have hok := hi.pcOk hpc
    split at h
    · exact .moved h trivial
    · exact .moved h hok
    · rename_i journal hj
      split at h
      · exact .moved h hok
      split at h
      · exact .moved h trivial
      rename_i d hd
      cases h
      have heff := Disk.resolveSupersededJournal_effect hi.wellFormed
        (Disk.mem_journal_of_incomplete hj) hd
      refine .effect heff ⟨?_, heff.validated hok.2.1, ?_⟩
      · rw [heff.cursor_eq]; exact hok.1
      · rw [heff.active_eq]; exact hok.2.2
  · cases h

variable {candidate : RenderedConfig}

theorem loadCandidates_revisions {previous : Option Revision}
    {previousCandidate : Option RenderedConfig}
    (h : loadCandidates d revision previous = some (candidate, previousCandidate)) :
    candidate.revision = revision ∧ previousCandidate.map (·.revision) = previous := by
  obtain ⟨cand, hcand, h⟩ := Option.bind_eq_some_iff.1 h
  have hrev := Disk.loadCandidate_revision hcand
  cases previous with
  | none =>
    obtain ⟨rfl, rfl⟩ := h
    exact ⟨hrev, rfl⟩
  | some p =>
    obtain ⟨prev, hprev, h⟩ := Option.bind_eq_some_iff.1 h
    obtain ⟨rfl, rfl⟩ := h
    exact ⟨hrev, congrArg some (Disk.loadCandidate_revision hprev)⟩

theorem beginActivation_sound (hi : Inv w)
    (h : beginActivation w now = some w') : Sound w l w' := by
  unfold beginActivation at h
  split at h
  · rename_i pass revision prev hpc
    obtain ⟨hcur, hval, hprev⟩ := hi.pcOk hpc
    split at h
    · rename_i candidate previousCandidate attempt d hcand hbegin
      cases h
      obtain ⟨hrev, hprevCand⟩ := loadCandidates_revisions hcand
      have heff := Disk.beginActivation_quiet hval hbegin
      refine .effect heff ⟨?_, hrev ▸ heff.validated hval, ?_⟩
      · rw [heff.cursor_eq, hrev]; exact hcur
      · rw [heff.active_eq, hprevCand]; exact hprev
    · exact .moved h trivial
  · cases h

/-- A failed activation is settled without moving the active pointer. -/
theorem handleActivationFailure_sound {pass : Pass}
    {previous : Option RenderedConfig} {attempt : Nat} {code : ErrorCode} {restored : Bool}
    (hwf : Disk.WellFormed d) (hprev : previous.map (·.revision) = d.active.map (·.revision)) :
    let failure :=
      handleActivationFailure d pass candidate previous attempt code restored now
    Disk.Effect d failure.1 ∧ PcOk failure.1 failure.2 := by
  unfold handleActivationFailure
  split
  · exact ⟨attempted_effect fun d' => Disk.markRecoveryRequired_quiet, trivial⟩
  split
  · rename_i prev
    split
    · exact ⟨.refl, trivial⟩
    rename_i d' hd'
    have heff := Disk.updateJournalPhase_quiet hd'
    refine ⟨heff, ?_⟩
    show d'.active.map (·.revision) = some prev.revision
    rw [heff.active_eq, ← hprev]
    rfl
  · split
    · split
      · exact ⟨.refl, trivial⟩
      rename_i d' hd'
      obtain ⟨journal, hj, hfin⟩ := Option.bind_eq_some_iff.1 hd'
      exact ⟨Disk.finalizeRejected_effect hwf (Disk.mem_journal_of_load hj) hfin, by simp⟩
    · exact ⟨attempted_effect fun d' => Disk.updateJournalPhase_quiet, trivial⟩

theorem startCandidate_sound {outcome : StartOutcome} (hi : Inv w)
    (h : startCandidate w outcome now = some w') : Sound w l w' := by
  unfold startCandidate at h
  split at h
  · rename_i pass candidate prev attempt hpc
    have hok := hi.pcOk hpc
    have hmark : Disk.Effect w.disk (attempted w.disk (w.disk.markRecoveryRequired
      candidate.revision)).1 := attempted_effect fun d' => Disk.markRecoveryRequired_quiet
    cases outcome with
    | stopFailed =>
      cases h
      exact .effect hmark trivial
    | spawnFailed code restored =>
      cases h
      obtain ⟨heff, hpc'⟩ := handleActivationFailure_sound hi.wellFormed hok.2.2
      exact .effect heff hpc'
    | journalFailed restored =>
      simp only at h
      split at h
      · exact .moved h trivial
      · cases h
        exact .effect hmark trivial
    | spawned =>
      simp only at h
      split at h
      · exact .moved h trivial
      rename_i d hd
      cases h
      have heff := Disk.updateJournalPhase_quiet hd
      refine .effect heff ⟨?_, heff.validated hok.2.1, ?_⟩
      · rw [heff.cursor_eq]; exact hok.1
      · rw [heff.active_eq]; exact hok.2.2
  · cases h

theorem proveCandidate_sound {outcome : ProofOutcome} (hi : Inv w)
    (h : proveCandidate w outcome now = some w') : Sound w (.proveCandidate outcome now) w' := by
  unfold proveCandidate at h
  split at h
  · rename_i pass candidate prev attempt hpc
    have hok := hi.pcOk hpc
    cases outcome with
    | healthy =>
      simp only at h
      split at h
      · exact .moved h trivial
      rename_i d hd
      cases h
      exact ⟨.activated rfl now rfl (Disk.finalizeApplied_activated hok.2.1 hok.1 hd), by simp⟩
    | commitFailed restored =>
      simp only at h
      split at h
      · exact .moved h trivial
      · cases h
        exact .effect (attempted_effect fun d' => Disk.markRecoveryRequired_quiet) trivial
    | unhealthy code restored =>
      cases h
      obtain ⟨heff, hpc'⟩ := handleActivationFailure_sound hi.wellFormed hok.2.2
      exact .effect heff hpc'
  · cases h

theorem commitRollback_sound (hi : Inv w) (h : commitRollback w now = some w') : Sound w l w' := by
  unfold commitRollback at h
  split at h
  · rename_i pass revision prev code hpc
    have hok := hi.pcOk hpc
    split at h
    · exact .moved h trivial
    rename_i d hd
    cases h
    obtain ⟨journal, hj, hfin⟩ := Option.bind_eq_some_iff.1 hd
    obtain ⟨a, hact, hrev⟩ := Option.map_eq_some_iff.1 hok
    exact .effect (Disk.finalizeRolledBack_effect hi.wellFormed
      (Disk.mem_journal_of_load hj) hact hrev.symm hfin) (by simp)
  · cases h

theorem evaluatePolicy_sound (h : evaluatePolicy w = some w') : Sound w l w' := by
  unfold evaluatePolicy at h
  split at h
  · exact .moved h trivial
  · cases h
    refine .move ?_
    split <;> exact trivial
  · cases h

theorem resumeLocalState_sound (h : resumeLocalState w = some w') : Sound w l w' := by
  unfold resumeLocalState at h
  split at h
  · split at h
    · exact .moved h (by simp)
    · exact .moved h trivial
    · rename_i revision hverify
      cases h
      unfold Disk.verifyPersistedDesiredState at hverify
      split at hverify
      · simp only [Option.some.injEq] at hverify
        split at hverify
        · cases hverify
        rename_i hne
        cases hverify
        exact .move (pcOk_reportScope rfl (Nat.pos_of_ne_zero hne))
      · cases hverify
  · cases h

variable {delivery : Delivery}

theorem report_sound (hi : Inv w) (h : report w delivery now = some w') : Sound w l w' := by
  unfold report at h
  split at h
  · rename_i job fetched revision scope q rest hpc
    obtain ⟨hcur, hpos, hqueue⟩ := hi.pcOk hpc
    obtain ⟨row, hrow, hrev, hrep⟩ := hqueue q List.mem_cons_self
    rw [← hrev, ← hrep] at h
    cases delivery with
    | requestLost => exact .moved h (by simp)
    | responseLost =>
      simp only at h
      split at h
      · exact .moved h (by simp)
      rename_i c hc
      cases h
      exact ⟨.reported row now hrow hc (.inl rfl), by simp⟩
    | answered =>
      simp only at h
      split at h
      · exact .moved h (by simp)
      rename_i c hc
      split at h
      · cases h
        exact ⟨.reported row now hrow hc (.inl rfl), by simp⟩
      rename_i d hd
      cases h
      have hmark := (Disk.markReported_marked hd).1
      refine ⟨.reported row now hrow hc (.inr hd), ?_, hpos, fun x hx =>
        hmark.holds.2 (hqueue x (.tail _ hx))⟩
      obtain ⟨f, rfl, _⟩ := hmark.rows
      exact hcur
  · cases h

theorem endReport_sound (hi : Inv w) (h : endReport w = some w') : Sound w l w' := by
  unfold endReport at h
  split at h
  · rename_i hpc
    have hok := hi.pcOk hpc
    split at h
    · exact .moved h ⟨hok.1, hok.2.1⟩
    · exact .moved h (by simp)
  · rename_i hpc
    have hok := hi.pcOk hpc
    split at h
    · exact .moved h (pcOk_reportScope hok.1 hok.2.1)
    · exact .moved h (by simp)
  · cases h
    refine .move ?_
    split
    · simp
    · exact trivial
  · cases h

theorem validateDesired_sound {outcome : ValidationOutcome} {startedAt now : Timestamp}
    (hi : Inv w) (h : validateDesired w outcome startedAt now = some w') : Sound w l w' := by
  unfold validateDesired at h
  split at h
  · rename_i job fetched revision hpc
    obtain ⟨hcur, hpos⟩ := hi.pcOk hpc
    -- every way on goes to the reports of this revision
    have hnext : ∀ d, Disk.Effect w.disk d → Sound w l { w with
        disk := d, pc := reportScope d job fetched revision (.revision revision) } := by
      intro d heff
      refine .effect heff (pcOk_reportScope ?_ hpos)
      rw [heff.cursor_eq]
      exact hcur
    split at h
    · exact .moved h (by simp)
    · cases h
      exact hnext w.disk .refl
    · cases outcome with
      | noRuntime =>
        cases h
        exact hnext w.disk .refl
      | failed => exact .moved h (by simp)
      | rejected code =>
        simp only at h
        split at h
        · exact .moved h (by simp)
        rename_i d hd
        cases h
        exact hnext d (Disk.appendRejectedResult_effect hpos hcur hd)
      | validated digest =>
        simp only at h
        split at h
        · exact .moved h (by simp)
        rename_i d hd
        cases h
        exact hnext d (Disk.appendValidatedResult_effect hpos hcur hd)
  · cases h

theorem syncTelemetry_sound {succeeds : Bool} (h : syncTelemetry w succeeds = some w') :
    Sound w l w' := by
  unfold syncTelemetry at h
  split at h
  · cases h
    refine .move ?_
    split
    · exact trivial
    · simp
  · cases h

theorem sendHeartbeat_sound (h : sendHeartbeat w runtime delivery = some w') : Sound w l w' := by
  unfold sendHeartbeat at h
  split at h
  · rename_i job _
    simp only at h
    -- allocating a generation is the node's only own effect here
    have heff : Disk.Effect w.disk
        { w.disk with heartbeatGeneration := w.disk.heartbeatGeneration + 1 } :=
      .quiet ⟨fun j hj => .inl ⟨j, hj, rfl⟩, Nat.le_succ _, le_rfl⟩ rfl rfl rfl
    split at h
    · cases h
      exact .effect heff (by simp)
    rename_i heartbeat hbeat
    cases delivery with
    | requestLost =>
      cases h
      exact .effect heff (by simp)
    | responseLost =>
      simp only at h
      split at h
      · cases h
        exact .effect heff (by simp)
      rename_i c hc
      cases h
      exact ⟨.heartbeat heff _ _ _ heartbeat hbeat hc, by simp⟩
    | answered =>
      simp only at h
      split at h
      · cases h
        exact .effect heff (by simp)
      rename_i c hc
      cases h
      exact ⟨.heartbeat heff _ _ _ heartbeat hbeat hc, rfl⟩
  · cases h

theorem desiredStateAfter_desired {afterRevision : Nat}
    (h : c.desiredStateAfter afterRevision = .ok (some revision)) :
    c.desiredRevision = some revision := by
  unfold NodeRecord.desiredStateAfter at h
  split at h
  · exact (Option.filter_eq_some_iff.1 (Except.ok.inj h)).1
  · cases h

theorem fetchDesired_sound {verified : Bool} (hi : Inv w)
    (h : fetchDesired w delivery verified now = some w') : Sound w l w' := by
  unfold fetchDesired at h
  split at h
  · cases delivery with
    | requestLost => exact .moved h (by simp)
    | responseLost => exact .moved h (by simp)
    | answered =>
      simp only at h
      split at h
      · exact .moved h (by simp)
      · exact .moved h (by simp)
      · rename_i revision hdes
        split at h
        · exact .moved h (by simp)
        split at h
        · exact .moved h (by simp)
        rename_i d hd
        cases h
        obtain ⟨hrec, hcur⟩ := Disk.persistVerifiedDesiredState_effect hi.wellFormed hd
        have hpos : 0 < revision := hcur ▸ Nat.lt_of_le_of_lt (Nat.zero_le _) hrec.newer
        refine ⟨.fetched rfl hrec ?_, pcOk_reportScope hcur.symm hpos⟩
        rw [desiredStateAfter_desired hdes, hcur]
  · cases h

/-- Every step has one of the effects and leaves the process in order. -/
theorem step_sound (hi : Inv w) (h : step w l = some w') : Sound w l w' := by
  cases l with
  | publish =>
    simp only [step] at h
    split at h
    · cases h
    rename_i c hc
    cases h
    exact ⟨.published rfl hc, hi.pc⟩
  | publishElsewhere =>
    cases h
    exact ⟨.publishedElsewhere rfl rfl, hi.pc⟩
  | setPolicy available =>
    cases h
    exact ⟨.node rfl .refl, hi.pc⟩
  | spool =>
    cases h
    refine ⟨.node rfl (.quiet ⟨fun j hj => .inl ⟨j, hj, rfl⟩, le_rfl, Nat.le_succ _⟩
      rfl rfl rfl), pcOk_spool.2 hi.pc⟩
  | crash =>
    simp only [step] at h
    split at h
    · cases h
    · exact .moved h trivial
  | startService healthy now => exact startService_sound hi h
  | startSyncOnce =>
    simp only [step] at h
    split at h
    · exact .moved h trivial
    · cases h
  | startCycle =>
    simp only [step] at h
    split at h
    · cases h
      refine .move ?_
      split <;> exact trivial
    · cases h
  | cycleFails =>
    simp only [step] at h
    split at h
    · exact .moved h trivial
    · exact .moved h trivial
    · cases h
  | loadPending => exact loadPending_sound h
  | resolveSuperseded now => exact resolveSuperseded_sound hi h
  | beginActivation now => exact beginActivation_sound hi h
  | startCandidate outcome now => exact startCandidate_sound hi h
  | proveCandidate outcome now => exact proveCandidate_sound hi h
  | commitRollback now => exact commitRollback_sound hi h
  | evaluatePolicy => exact evaluatePolicy_sound h
  | resumeLocalState => exact resumeLocalState_sound h
  | report delivery now => exact report_sound hi h
  | endReport => exact endReport_sound hi h
  | validateDesired outcome startedAt now => exact validateDesired_sound hi h
  | syncTelemetry succeeds => exact syncTelemetry_sound h
  | sendHeartbeat runtime delivery => exact sendHeartbeat_sound h
  | fetchDesired delivery verified now => exact fetchDesired_sound hi h

theorem inv_step (hi : Inv w) (hok : RollbacksRecorded w l) (h : step w l = some w') : Inv w' := by
  obtain ⟨heff, hpc⟩ := step_sound hi h
  exact ⟨heff.wellFormed hi.wellFormed, hpc, heff.ledger hi hok⟩

theorem inv_initial (policyAvailable : Bool) : Inv (initial policyAvailable) where
  wellFormed := by constructor <;> simp [initial, Disk.enrolled]
  pc := trivial
  ledger := by constructor <;> simp [initial, Disk.enrolled, NodeRecord.enrolled, revisionsWith]

theorem inv_of_run (h : system.Run RollbacksRecorded w) : Inv w := by
  refine h.invariant ?_ fun _ _ _ hi hok hnext => inv_step hi hok hnext
  rintro _ ⟨policyAvailable, rfl⟩
  exact inv_initial policyAvailable

end RealityConsole.RevisionSync
