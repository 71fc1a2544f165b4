import RealityConsole.RevisionSync.Steps

/-!
# The node and the controller agree on revision progress

Once nothing is unreported, the cursors that the node computes from its own rows are those that the
controller recorded, and the controller accepts the heartbeat that carries them.
-/

namespace RealityConsole.RevisionSync

open Protocol NodeHost Controller Framework

variable {d : Disk} {c : NodeRecord} {w : World} {runtime : NodeRuntimeState}

/-! ### The node's own cursors -/

/-- The node has no unreported revision result left. -/
def NothingUnreported (w : World) : Prop :=
  ∀ row ∈ w.disk.results, row.reportedAt.isSome

/-- The next heartbeat exists, carries the controller's own cursors and is accepted. -/
def ProgressAgrees (w : World) : Prop :=
  ∀ runtime, ∃ heartbeat,
    w.disk.currentHeartbeat w.policyAvailable runtime (w.disk.heartbeatGeneration + 1) =
      some heartbeat ∧
    heartbeat.revisions.receivedRevision = w.controller.receivedRevision ∧
    heartbeat.revisions.validatedRevision = w.controller.validatedRevision ∧
    heartbeat.revisions.appliedRevision = w.controller.appliedRevision ∧
    w.controller.validateReportedProgress heartbeat = .ok ()

theorem optionalRevision_getD {o : Option Nat} (h : ∀ r, o = some r → 0 < r) :
    Disk.optionalRevision (o.getD 0) = o := by
  cases o with
  | none => rfl
  | some r => simp [Disk.optionalRevision, Nat.ne_of_gt (h r rfl)]

theorem max?_pos {l : List Nat} (h : ∀ r ∈ l, 0 < r) {m : Nat} (hm : l.max? = some m) : 0 < m :=
  h m (List.max?_eq_some_iff.1 hm).1

theorem isMaxOf_results {q : LocalResult → Bool} (hwf : Disk.WellFormed d) :
    IsMaxOf (Disk.optionalRevision (((d.results.filter q).map (·.revision)).max?.getD 0))
      {r | ∃ row ∈ d.results, row.revision = r ∧ q row} := by
  have hpos : ∀ r ∈ (d.results.filter q).map (·.revision), 0 < r := by
    intro r hr
    obtain ⟨row, hrow, rfl⟩ := List.mem_map.1 hr
    exact hwf.positive row (List.mem_filter.1 hrow).1
  rw [optionalRevision_getD fun m hm => max?_pos hpos hm]
  convert isMaxOf_max? ((d.results.filter q).map (·.revision)) using 1
  ext r
  simp only [List.mem_map, List.mem_filter, Set.mem_ofPred_eq]
  constructor
  · rintro ⟨row, hrow, rfl, hq⟩
    exact ⟨row, ⟨hrow, hq⟩, rfl⟩
  · rintro ⟨row, ⟨hrow, hq⟩, rfl⟩
    exact ⟨row, hrow, rfl, hq⟩

/-- With everything reported, the two sides hold the same results. -/
theorem received_agrees (hi : Inv w) (hall : NothingUnreported w) :
    w.disk.revisionProgress.receivedRevision = w.controller.receivedRevision := by
  have hnode := isMaxOf_results (q := fun _ => true) hi.wellFormed
  rw [List.filter_true] at hnode
  refine hnode.unique ?_
  convert hi.ledger.received using 1
  ext r
  constructor
  · rintro ⟨row, hrow, rfl, _⟩
    exact ⟨_, hi.ledger.reported row hrow (hall row hrow), rfl, rfl⟩
  · rintro ⟨p, hp, rfl, _⟩
    obtain ⟨row, hrow, hrev, _⟩ := hi.ledger.recorded p hp
    exact ⟨row, hrow, hrev, rfl⟩

theorem validated_agrees (hi : Inv w) (hall : NothingUnreported w) :
    w.disk.revisionProgress.validatedRevision = w.controller.validatedRevision := by
  refine (isMaxOf_results hi.wellFormed).unique ?_
  convert hi.ledger.validated using 1
  ext r
  constructor
  · rintro ⟨row, hrow, rfl, hq⟩
    refine ⟨_, hi.ledger.reported row hrow (hall row hrow), rfl, ?_⟩
    simp only [Disk.countsAsValidated, Bool.or_eq_true, beq_iff_eq] at hq
    rcases hq with hq | hq <;> simp [hq, NodeRecord.provesValidated]
  · -- a recorded rollback counts at the controller; the node has its validated row
    rintro ⟨p, hp, rfl, hq⟩
    obtain ⟨row, hrow, hrev, hrep⟩ := hi.ledger.recorded p hp
    have hvald : w.disk.Validated row.revision ∨ row.report.state = .validated := by
      rw [← hrep] at hq
      cases hs : row.report.state with
      | received => simp [hs, NodeRecord.provesValidated] at hq
      | rejected => simp [hs, NodeRecord.provesValidated] at hq
      | validated => exact .inr rfl
      | applied => exact .inl (hi.wellFormed.validatedFirst row hrow (.inl hs))
      | rolledBack => exact .inl (hi.wellFormed.validatedFirst row hrow (.inr hs))
    rcases hvald with ⟨x, hx, hxr, hxs⟩ | hs
    · exact ⟨x, hx, hxr.trans hrev, by simp [Disk.countsAsValidated, hxs]⟩
    · exact ⟨row, hrow, hrev, by simp [Disk.countsAsValidated, hs]⟩

theorem active_positive (hwf : Disk.WellFormed d) {r : Revision}
    (h : d.active.map (·.revision) = some r) : 0 < r := by
  obtain ⟨a, ha, rfl⟩ := Option.map_eq_some_iff.1 h
  obtain ⟨row, hrow, hrev, _⟩ := hwf.activeApplied a ha
  exact hrev ▸ hwf.positive row hrow

theorem applied_agrees (hi : Inv w) (hall : NothingUnreported w) :
    w.disk.revisionProgress.appliedRevision = w.controller.appliedRevision := by
  show Disk.optionalRevision ((w.disk.active.map (·.revision)).getD 0) = _
  rw [optionalRevision_getD fun r => active_positive hi.wellFormed]
  cases hact : w.disk.active with
  | none =>
    cases hc : w.controller.appliedRevision with
    | none => rfl
    | some r =>
      obtain ⟨a, ha, _⟩ := hi.ledger.appliedLe r hc
      simp [hact] at ha
  | some a =>
    obtain ⟨row, hrow, hrev, hs⟩ := hi.wellFormed.activeApplied a hact
    exact (hi.ledger.applied a hact ⟨_, hi.ledger.reported row hrow (hall row hrow), hrev, hs⟩).symm

/-! ### The heartbeat is accepted -/

theorem receivedValue_eq_cursor (hwf : Disk.WellFormed d) :
    d.receivedValue = d.desiredRevisionCursor := by
  unfold Disk.receivedValue
  by_cases hzero : d.desiredRevisionCursor = 0
  · have hnil : d.results = [] := by
      refine List.eq_nil_iff_forall_not_mem.2 fun row hrow => ?_
      have hpos := hwf.positive row hrow
      have hle := hwf.bounded row hrow
      rw [hzero] at hle
      exact absurd hpos (Nat.not_lt.2 hle)
    simp [hnil, hzero]
  · obtain ⟨row, hrow, hrev⟩ := hwf.cursorRow hzero
    have hmax : (d.results.map (·.revision)).max? = some d.desiredRevisionCursor := by
      refine List.max?_eq_some_iff.2 ⟨List.mem_map.2 ⟨row, hrow, hrev⟩, ?_⟩
      intro r hr
      obtain ⟨x, hx, rfl⟩ := List.mem_map.1 hr
      exact hwf.bounded x hx
    rw [hmax]
    rfl

theorem validateRevisionPair_ok {upper lower : Option Revision} {field : String}
    (h : ∀ l, lower = some l → ∃ u, upper = some u ∧ l ≤ u) :
    validateRevisionPair upper lower field = .ok () := by
  cases lower with
  | none => cases upper <;> rfl
  | some l =>
    obtain ⟨u, rfl, hle⟩ := h l rfl
    simpa [validateRevisionPair] using hle

theorem optionalRevision_eq_some {value r : Nat} :
    Disk.optionalRevision value = some r ↔ value = r ∧ 0 < r := by
  unfold Disk.optionalRevision
  split
  · rename_i hzero
    constructor
    · intro h
      cases h
    · rintro ⟨rfl, hpos⟩
      exact absurd hzero (Nat.ne_of_gt hpos)
  · rename_i hne
    constructor
    · intro h
      cases h
      exact ⟨rfl, Nat.pos_of_ne_zero hne⟩
    · rintro ⟨rfl, _⟩
      rfl

/-- `desired >= received >= validated >= applied` at the node. -/
theorem revisionProgress_validate (hwf : Disk.WellFormed d) :
    d.revisionProgress.validate = .ok () := by
  have hdr : validateRevisionPair d.revisionProgress.desiredRevision
      d.revisionProgress.receivedRevision "receivedRevision" = .ok () := by
    refine validateRevisionPair_ok fun l hl => ⟨l, ?_, le_rfl⟩
    simpa only [Disk.revisionProgress, receivedValue_eq_cursor hwf] using hl
  have hrv : validateRevisionPair d.revisionProgress.receivedRevision
      d.revisionProgress.validatedRevision "validatedRevision" = .ok () := by
    refine validateRevisionPair_ok fun l hl => ?_
    have hmax := isMaxOf_results (q := Disk.countsAsValidated) hwf
    simp only [Disk.revisionProgress, Disk.validatedValue] at hl
    rw [hl, isMaxOf_some] at hmax
    obtain ⟨row, hrow, hrev, _⟩ := hmax.1
    have hle := hwf.bounded row hrow
    have hpos := hwf.positive row hrow
    rw [hrev] at hle hpos
    refine ⟨d.desiredRevisionCursor, ?_, hle⟩
    simp only [Disk.revisionProgress, receivedValue_eq_cursor hwf]
    exact optionalRevision_eq_some.2 ⟨rfl, Nat.lt_of_lt_of_le hpos hle⟩
  have hva : validateRevisionPair d.revisionProgress.validatedRevision
      d.revisionProgress.appliedRevision "appliedRevision" = .ok () := by
    refine validateRevisionPair_ok fun l hl => ?_
    simp only [Disk.revisionProgress] at hl
    rw [optionalRevision_getD fun r => active_positive hwf] at hl
    obtain ⟨a, ha, rfl⟩ := Option.map_eq_some_iff.1 hl
    obtain ⟨row, hrow, hrev, hs⟩ := hwf.activeApplied a ha
    -- the row that made `a` active counts as validated
    have hmem : a.revision ∈ {r | ∃ row ∈ d.results, row.revision = r ∧
        Disk.countsAsValidated row} := ⟨row, hrow, hrev, by simp [Disk.countsAsValidated, hs]⟩
    have hmax := isMaxOf_results (q := Disk.countsAsValidated) hwf
    cases hv : d.revisionProgress.validatedRevision with
    | none =>
      simp only [Disk.revisionProgress, Disk.validatedValue] at hv
      rw [hv, isMaxOf_none] at hmax
      exact absurd (hmax ▸ hmem) (Set.notMem_empty _)
    | some m =>
      simp only [Disk.revisionProgress, Disk.validatedValue] at hv
      rw [hv, isMaxOf_some] at hmax
      exact ⟨m, rfl, hmax.2 hmem⟩
  simp only [RevisionProgress.validate, bind_ok]
  exact ⟨(), hdr, (), hrv, hva⟩

theorem currentHeartbeat_eq (hwf : Disk.WellFormed d) (advertising : Bool)
    (runtime : NodeRuntimeState) (gen : Nat) :
    ∃ heartbeat, d.currentHeartbeat advertising runtime (gen + 1) = some heartbeat := by
  simp only [Disk.currentHeartbeat, Option.ite_none_right_eq_some, Option.some.injEq]
  refine ⟨_, ⟨receivedValue_eq_cursor hwf, ?_⟩, rfl⟩
  simp [NodeHeartbeat.validate, revisionProgress_validate hwf, refuseWhen, bind, Except.bind,
    Except.isOk, Except.toBool]

/-- `validate_reported_progress` accepts the controller's own cursors from a node that has fetched
what it was given. -/
theorem validateReportedProgress_ok {beat : NodeHeartbeat} (h : Ledger d c)
    (hrev : beat.revisions = d.revisionProgress) (htel : beat.telemetryCursor = d.highestSequence)
    (hreceived : d.revisionProgress.receivedRevision = c.receivedRevision)
    (hvald : d.revisionProgress.validatedRevision = c.validatedRevision)
    (happ : d.revisionProgress.appliedRevision = c.appliedRevision) :
    c.validateReportedProgress beat = .ok () := by
  have hmono : NodeRecord.ensureMonotonicCursor c.reportedDesiredRevision
      d.revisionProgress.desiredRevision = .ok () := by
    cases hc : c.reportedDesiredRevision with
    | none => rfl
    | some r =>
      obtain ⟨hpos, hle⟩ := h.reportedDesired r hc
      have hdes : d.revisionProgress.desiredRevision = some d.desiredRevisionCursor :=
        optionalRevision_eq_some.2 ⟨rfl, Nat.lt_of_lt_of_le hpos hle⟩
      simpa [hdes, NodeRecord.ensureMonotonicCursor] using hle
  have hdesired : c.validateReportedDesiredRevision d.revisionProgress.desiredRevision = 
      .ok () := by
    simp only [NodeRecord.validateReportedDesiredRevision, bind_ok]
    refine ⟨(), hmono, ?_⟩
    split
    · rfl
    rename_i reported hreported
    obtain ⟨rfl, hpos⟩ := optionalRevision_eq_some.1 hreported
    obtain ⟨hin, t, ht, hle⟩ := h.targeted (Nat.ne_of_gt hpos)
    simp [ht, hin, Nat.not_lt.2 hle, refuseWhen, bind, Except.bind]
  simp [NodeRecord.validateReportedProgress, hrev, htel, hdesired, hreceived, hvald, happ,
    h.status, NodeStatus.mayReport, NodeRecord.ensureAuthoritativeProgress, refuseWhen,
    Nat.not_lt.2 h.telemetry, bind, Except.bind]

/-- In a run in which no activation is committed while the controller lacks a stored rollback,
whenever the node has nothing left to report its next heartbeat carries the controller's cursors and
is accepted. -/
theorem revision_progress_agreement (h : system.Run RollbacksRecorded w)
    (hall : NothingUnreported w) : ProgressAgrees w := by
  have hi := inv_of_run h
  intro runtime
  obtain ⟨heartbeat, hbeat⟩ := currentHeartbeat_eq hi.wellFormed w.policyAvailable runtime
    w.disk.heartbeatGeneration
  obtain ⟨hrev, htel⟩ := currentHeartbeat_fields hbeat
  have hreceived := received_agrees hi hall
  have hvald := validated_agrees hi hall
  have happ := applied_agrees hi hall
  exact ⟨heartbeat, hbeat, hrev ▸ hreceived, hrev ▸ hvald, hrev ▸ happ,
    validateReportedProgress_ok hi.ledger hrev htel hreceived hvald happ⟩

/-! ### Two runs -/

def fetchAndValidate (digest : Digest) : List Label :=
  [.syncTelemetry true, .sendHeartbeat .idle .answered, .fetchDesired .answered true 0,
    .report .answered 0, .endReport, .validateDesired (.validated digest) 0 0,
    .report .answered 0, .endReport, .endReport]

/-- The reconciliation after such a synchronization, up to a written journal row. -/
def beginPending : List Label :=
  [.loadPending, .resolveSuperseded 0, .beginActivation 0]

def applyFirst : List Label :=
  [.publish, .startService true 0, .startCycle, .loadPending, .evaluatePolicy,
    .resumeLocalState] ++ fetchAndValidate 11 ++ [.evaluatePolicy] ++ beginPending ++
  [.startCandidate .spawned 0, .proveCandidate .healthy 0]

/-- The next cycle reports the activation and fetches revision 2. -/
def reportAndFetchSecond : List Label :=
  [.publish, .startCycle, .loadPending, .evaluatePolicy, .resumeLocalState, .endReport,
    .validateDesired .noRuntime 0 0, .report .answered 0, .endReport, .endReport] ++
  fetchAndValidate 12

/-- A crash interrupts the activation of revision 2. The provider is paused at the restart, so the
journal is not recovered, and revision 3 is validated meanwhile. -/
def supersedeInterrupted : List Label :=
  [.evaluatePolicy] ++ beginPending ++ [.crash, .publish, .setPolicy false,
    .startService true 0, .startCycle, .resumeLocalState, .endReport,
    .validateDesired .noRuntime 0 0, .endReport, .endReport] ++ fetchAndValidate 13

/-- The provider resumes: revision 2 is settled as rolled back to 1, revision 3 is applied, and the
next synchronization reports revision 3 first. -/
def overtakeRollback : List Label :=
  [.setPolicy true, .startCycle] ++ beginPending ++
  [.startCandidate .spawned 0, .proveCandidate .healthy 0, .evaluatePolicy, .resumeLocalState,
    .endReport, .validateDesired .noRuntime 0 0, .report .answered 0, .endReport,
    .report .answered 0, .endReport]

instance (w : World) : Decidable (NothingUnreported w) := by
  unfold NothingUnreported; infer_instance

/-- An ordinary run meets the condition and ends with nothing to report. -/
theorem revision_progress_agreement_second : ∃ w, system.Run RollbacksRecorded w ∧
    w.disk.desiredRevisionCursor = 2 ∧ NothingUnreported w ∧ ProgressAgrees w := by
  obtain ⟨w, hrun, hcur, hall⟩ := Machine.run_of_exec (M := system) (s := initial true)
    RollbacksRecorded (fun w => w.disk.desiredRevisionCursor = 2 ∧ NothingUnreported w)
    (applyFirst ++ reportAndFetchSecond) ⟨true, rfl⟩ (by decide +kernel)
  exact ⟨w, hrun, hcur, hall, revision_progress_agreement hrun hall⟩

/-- Without the condition the agreement fails: after the run above the node has nothing to report
and runs revision 3, and the controller believes it runs revision 1. -/
theorem overtaken_rollback_breaks_agreement :
    ¬∀ w, system.Reachable w → NothingUnreported w → ProgressAgrees w := by
  intro hclaim
  obtain ⟨w, hrun, hall, hnode, hcontroller⟩ := Machine.run_of_exec (M := system)
    (s := initial true) (fun _ _ => True)
    (fun w => NothingUnreported w ∧ w.disk.revisionProgress.appliedRevision = some 3 ∧
      w.controller.appliedRevision = some 1)
    (applyFirst ++ reportAndFetchSecond ++ supersedeInterrupted ++ overtakeRollback)
    ⟨true, rfl⟩ (by decide +kernel)
  obtain ⟨heartbeat, hbeat, _, _, happ, _⟩ := hclaim w hrun hall .idle
  rw [(currentHeartbeat_fields hbeat).1, hnode, hcontroller] at happ
  cases happ

end RealityConsole.RevisionSync
