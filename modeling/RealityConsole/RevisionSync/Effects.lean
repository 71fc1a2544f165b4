import RealityConsole.RevisionSync.Model

/-!
# What the node's transactions do to its results

Most transactions of the node only move the journal. A few append one row to the stored results, and
exactly one kind moves the active pointer. `Effect` says so once; the rest is proved from it.
-/

namespace RealityConsole.NodeHost

open Protocol

/-- The primary key of `local_revision_results`. -/
def LocalResult.key (row : LocalResult) : Revision × RevisionResultState :=
  (row.revision, row.report.state)

namespace Disk

def Holds (d : Disk) (revision : Revision) (report : RevisionResult) : Prop :=
  ∃ row ∈ d.results, row.revision = revision ∧ row.report = report

def Validated (d : Disk) (revision : Revision) : Prop :=
  ∃ row ∈ d.results, row.revision = revision ∧ row.report.state = .validated

/-- What the tables say about each other. -/
structure WellFormed (d : Disk) : Prop where
  keys : (d.results.map LocalResult.key).Nodup
  positive : ∀ row ∈ d.results, 0 < row.revision
  /-- No result is newer than the cursor. -/
  bounded : ∀ row ∈ d.results, row.revision ≤ d.desiredRevisionCursor
  cursorRow : d.desiredRevisionCursor ≠ 0 →
    ∃ row ∈ d.results, row.revision = d.desiredRevisionCursor
  /-- Only validated revisions are activated. -/
  journal : ∀ j ∈ d.journal, d.Validated j.revision
  validatedFirst : ∀ row ∈ d.results,
    row.report.state = .applied ∨ row.report.state = .rolledBack → d.Validated row.revision
  activeApplied : ∀ a, d.active = some a →
    ∃ row ∈ d.results, row.revision = a.revision ∧ row.report.state = .applied
  /-- The active pointer holds the newest applied revision. -/
  appliedLe : ∀ row ∈ d.results, row.report.state = .applied →
    ∃ a, d.active = some a ∧ row.revision ≤ a.revision
  sequence : 0 < d.nextSequence

/-- What no transaction undoes. -/
structure Frame (d d' : Disk) : Prop where
  /-- Journal rows are only added for validated revisions. -/
  journal : ∀ j ∈ d'.journal, (∃ j₀ ∈ d.journal, j₀.revision = j.revision) ∨
    d.Validated j.revision
  generation : d.heartbeatGeneration ≤ d'.heartbeatGeneration
  sequence : d.nextSequence ≤ d'.nextSequence

structure NewRow (d : Disk) (row : LocalResult) : Prop where
  fresh : ∀ x ∈ d.results, x.key ≠ row.key
  unreported : row.reportedAt = none

/-- The effects of the node's transactions that keep the cursor and the active pointer. -/
inductive Effect (d d' : Disk) : Prop
  /-- The results stay. -/
  | quiet (frame : Frame d d') (results : d'.results = d.results) (active : d'.active = d.active)
      (cursor : d'.desiredRevisionCursor = d.desiredRevisionCursor)
  /-- One row is appended for a revision that was received before. A rollback
      names the revision that is active. -/
  | insert (row : LocalResult) (frame : Frame d d') (new : NewRow d row)
      (results : d'.results = d.results ++ [row]) (active : d'.active = d.active)
      (cursor : d'.desiredRevisionCursor = d.desiredRevisionCursor)
      (state : row.report.state ≠ .applied)
      (positive : 0 < row.revision) (bounded : row.revision ≤ d.desiredRevisionCursor)
      (rollback : row.report.state = .rolledBack → d.Validated row.revision ∧
        ∃ a, d.active = some a ∧ row.report.rollbackRevision = some a.revision)

/-- The effect of a fetch: a newer revision is received and becomes the cursor. -/
structure Received (d d' : Disk) : Prop where
  frame : Frame d d'
  active : d'.active = d.active
  newer : d.desiredRevisionCursor < d'.desiredRevisionCursor
  row : ∃ row, NewRow d row ∧ d'.results = d.results ++ [row] ∧
    d'.desiredRevisionCursor = row.revision ∧ row.report.state = .received

/-- The effect of an activation that is committed. -/
structure Activated (d d' : Disk) : Prop where
  frame : Frame d d'
  cursor : d'.desiredRevisionCursor = d.desiredRevisionCursor
  row : ∃ row a, NewRow d row ∧ d'.results = d.results ++ [row] ∧ d'.active = some a ∧
    row.revision = a.revision ∧ row.report.state = .applied ∧ d.Validated row.revision ∧
    row.revision = d.desiredRevisionCursor

variable {d d' : Disk}

theorem Frame.refl : Frame d d where
  journal := fun j hj => .inl ⟨j, hj, rfl⟩
  generation := le_rfl
  sequence := le_rfl

theorem Effect.refl : Effect d d := .quiet Frame.refl rfl rfl rfl

variable {r : Revision} {row : LocalResult}

theorem Validated.append (h : d.Validated r)
    (hres : d'.results = d.results ++ [row]) : d'.Validated r := by
  obtain ⟨x, hx, hr⟩ := h
  exact ⟨x, by rw [hres]; exact List.mem_append_left _ hx, hr⟩

variable {j : ActivationJournal}

theorem Frame.journal_validated (h : Frame d d') (hwf : WellFormed d)
    (hj : j ∈ d'.journal) : d.Validated j.revision := by
  obtain ⟨j₀, hj₀, hrev⟩ | hv := h.journal j hj
  · exact hrev ▸ hwf.journal j₀ hj₀
  · exact hv

theorem Frame.sequence_pos (h : Frame d d') (hwf : WellFormed d) : 0 < d'.nextSequence :=
  Nat.lt_of_lt_of_le hwf.sequence h.sequence

theorem NewRow.keys (h : NewRow d row) (hwf : WellFormed d) :
    ((d.results ++ [row]).map LocalResult.key).Nodup := by
  rw [List.map_append, List.map_singleton, List.nodup_append]
  refine ⟨hwf.keys, List.nodup_singleton _, ?_⟩
  intro k hk k' hk'
  obtain ⟨x, hx, rfl⟩ := List.mem_map.1 hk
  rw [List.mem_singleton.1 hk']
  exact h.fresh x hx

theorem Effect.cursor_eq (h : Effect d d') :
    d'.desiredRevisionCursor = d.desiredRevisionCursor := by cases h <;> assumption

theorem Effect.active_eq (h : Effect d d') : d'.active = d.active := by cases h <;> assumption

theorem Effect.validated (h : Effect d d') (hr : d.Validated r) : d'.Validated r := by
  cases h with
  | quiet _ results => simpa only [Validated, results] using hr
  | insert row _ _ results => exact hr.append results

/-! ### Well-formedness is kept -/

theorem WellFormed.quiet (hwf : WellFormed d) (frame : Frame d d')
    (results : d'.results = d.results) (active : d'.active = d.active)
    (cursor : d'.desiredRevisionCursor = d.desiredRevisionCursor) : WellFormed d' := by
  have hval : ∀ {r}, d.Validated r → d'.Validated r := by
    intro r hr
    simpa only [Validated, results] using hr
  exact {
    keys := by rw [results]; exact hwf.keys
    positive := by rw [results]; exact hwf.positive
    bounded := by rw [results, cursor]; exact hwf.bounded
    cursorRow := by rw [results, cursor]; exact hwf.cursorRow
    journal := fun j hj => hval (frame.journal_validated hwf hj)
    validatedFirst := by
      rw [results]
      exact fun row hrow hs => hval (hwf.validatedFirst row hrow hs)
    activeApplied := by rw [results, active]; exact hwf.activeApplied
    appliedLe := by rw [results, active]; exact hwf.appliedLe
    sequence := frame.sequence_pos hwf }

/-- Appending a row keeps the tables well formed if it is not newer than the cursor, and is an
applied row exactly if the active pointer moves to it. -/
theorem WellFormed.append (hwf : WellFormed d) (frame : Frame d d')
    (new : NewRow d row) (results : d'.results = d.results ++ [row])
    (positive : 0 < row.revision) (bounded : row.revision ≤ d'.desiredRevisionCursor)
    (grows : d.desiredRevisionCursor ≤ d'.desiredRevisionCursor)
    (cursor : d'.desiredRevisionCursor = d.desiredRevisionCursor ∨
      d'.desiredRevisionCursor = row.revision)
    (validated : row.report.state = .applied ∨ row.report.state = .rolledBack →
      d.Validated row.revision) (active : row.report.state ≠ .applied ∧ d'.active = d.active ∨
      row.report.state = .applied ∧ d.desiredRevisionCursor ≤ row.revision ∧
        ∃ a, d'.active = some a ∧ row.revision = a.revision) : WellFormed d' := by
  have hval : ∀ {r}, d.Validated r → d'.Validated r := fun hr => hr.append results
  have hmem : ∀ x, x ∈ d'.results ↔ x ∈ d.results ∨ x = row := by simp [results]
  exact {
    keys := by rw [results]; exact new.keys hwf
    positive := by
      intro x hx
      rcases (hmem x).mp hx with hx | rfl
      · exact hwf.positive x hx
      · exact positive
    bounded := by
      intro x hx
      rcases (hmem x).mp hx with hx | rfl
      · exact Nat.le_trans (hwf.bounded x hx) grows
      · exact bounded
    cursorRow := by
      intro hne
      rcases cursor with hcur | hcur
      · rw [hcur] at hne ⊢
        obtain ⟨x, hx, hrev⟩ := hwf.cursorRow hne
        exact ⟨x, (hmem x).mpr (.inl hx), hrev⟩
      · exact ⟨row, (hmem row).mpr (.inr rfl), hcur.symm⟩
    journal := fun j hj => hval (frame.journal_validated hwf hj)
    validatedFirst := by
      intro x hx hs
      rcases (hmem x).mp hx with hx | rfl
      · exact hval (hwf.validatedFirst x hx hs)
      · exact hval (validated hs)
    activeApplied := by
      intro a ha
      rcases active with ⟨_, hsame⟩ | ⟨hs, _, b, hb, hrow⟩
      · rw [hsame] at ha
        obtain ⟨x, hx, hxa⟩ := hwf.activeApplied a ha
        exact ⟨x, (hmem x).mpr (.inl hx), hxa⟩
      · rw [hb, Option.some.injEq] at ha
        exact ⟨row, (hmem row).mpr (.inr rfl), ha ▸ hrow, hs⟩
    appliedLe := by
      intro x hx hs
      rcases active with ⟨hne, hsame⟩ | ⟨_, hle, b, hb, hrow⟩
      · rw [hsame]
        rcases (hmem x).mp hx with hx | rfl
        · exact hwf.appliedLe x hx hs
        · exact absurd hs hne
      · refine ⟨b, hb, hrow ▸ ?_⟩
        rcases (hmem x).mp hx with hx | rfl
        · exact Nat.le_trans (hwf.bounded x hx) hle
        · exact le_rfl
    sequence := frame.sequence_pos hwf }

theorem Effect.wellFormed (h : Effect d d') (hwf : WellFormed d) : WellFormed d' := by
  cases h with
  | quiet frame results active cursor => exact hwf.quiet frame results active cursor
  | insert row frame new results active cursor state positive bounded rollback =>
    exact hwf.append frame new results positive (cursor ▸ bounded) (Nat.le_of_eq cursor.symm)
      (.inl cursor) (fun hs => (rollback (hs.resolve_left state)).1) (.inl ⟨state, active⟩)

theorem Received.wellFormed (h : Received d d') (hwf : WellFormed d) : WellFormed d' := by
  obtain ⟨row, new, results, cursor, state⟩ := h.row
  have positive : 0 < row.revision := cursor ▸ Nat.lt_of_le_of_lt (Nat.zero_le _) h.newer
  exact hwf.append h.frame new results positive (Nat.le_of_eq cursor.symm)
    (Nat.le_of_lt h.newer) (.inr cursor) (fun hs => by simp [state] at hs)
    (.inl ⟨by simp [state], h.active⟩)

theorem Activated.wellFormed (h : Activated d d') (hwf : WellFormed d) : WellFormed d' := by
  obtain ⟨row, a, new, results, active, hrow, state, validated, hcur⟩ := h.row
  have positive : 0 < row.revision := by
    obtain ⟨v, hv, hrev, _⟩ := validated
    exact hrev ▸ hwf.positive v hv
  exact hwf.append h.frame new results positive (Nat.le_of_eq (hcur.trans h.cursor.symm))
    (Nat.le_of_eq h.cursor.symm) (.inl h.cursor) (fun _ => validated)
    (.inr ⟨state, Nat.le_of_eq hcur.symm, a, active, hrow⟩)

/-! ### The transactions -/

variable {revision : Revision}
  {result : RevisionResult}

theorem insertRevisionResult_spec (h : d.insertRevisionResult revision result = some d') :
    d' = { d with results := d.results ++ [⟨revision, result, none⟩] } ∧
      NewRow d ⟨revision, result, none⟩ := by
  unfold insertRevisionResult at h
  split at h
  · rename_i hok
    refine ⟨(Option.some.inj h).symm, ?_, rfl⟩
    intro x hx hkey
    simp only [LocalResult.key, Prod.mk.injEq] at hkey
    exact hok.2.2 x hx hkey
  · cases h

variable {f : ActivationJournal → ActivationJournal}

theorem updateJournal_spec
    (h : d.updateJournal revision f = some d') (hf : ∀ j, (f j).revision = j.revision) :
    ∃ journal, d' = { d with journal := journal } ∧
      ∀ j ∈ journal, ∃ j₀ ∈ d.journal, j₀.revision = j.revision := by
  unfold updateJournal at h
  split at h
  · refine ⟨_, (Option.some.inj h).symm, ?_⟩
    intro j hj
    obtain ⟨j₀, hj₀, rfl⟩ := List.mem_map.1 hj
    refine ⟨j₀, hj₀, ?_⟩
    split
    · exact (hf j₀).symm
    · rfl
  · cases h

theorem updateJournal_quiet (h : d.updateJournal revision f = some d')
    (hf : ∀ j, (f j).revision = j.revision) : Effect d d' := by
  obtain ⟨journal, rfl, hj⟩ := updateJournal_spec h hf
  exact .quiet ⟨fun j hmem => .inl (hj j hmem), le_rfl, le_rfl⟩ rfl rfl rfl

variable {phase : JournalPhase}

theorem updateJournalPhase_quiet
    (h : d.updateJournalPhase revision phase = some d') : Effect d d' := by
  unfold updateJournalPhase at h
  split at h
  · cases h
  · exact updateJournal_quiet h fun _ => rfl

theorem finishJournal_spec (h : d.finishJournal revision phase = some d') :
    ∃ journal, d' = { d with journal := journal } ∧
      ∀ j ∈ journal, ∃ j₀ ∈ d.journal, j₀.revision = j.revision := by
  unfold finishJournal at h
  split at h
  · exact updateJournal_spec h fun _ => rfl
  · cases h

theorem markRecoveryRequired_quiet
    (h : d.markRecoveryRequired revision = some d') : Effect d d' := by
  obtain ⟨journal, rfl, hj⟩ := finishJournal_spec h
  exact .quiet ⟨fun j hmem => .inl (hj j hmem), le_rfl, le_rfl⟩ rfl rfl rfl

theorem mem_journal_of_load (h : d.loadJournal revision = some j) : j ∈ d.journal :=
  List.mem_of_find?_eq_some h

theorem mem_journal_of_incomplete (h : d.incompleteJournal = some (some j)) : j ∈ d.journal := by
  unfold incompleteJournal at h
  split at h
  · cases h
  · rename_i k hk
    have : k ∈ d.journal.filter fun j => !j.phase.isTerminal := by
      rw [hk]; exact List.mem_singleton_self _
    simp only [Option.some.injEq] at h
    exact h ▸ (List.mem_filter.1 this).1
  · cases h

theorem latestResult_mem
    (h : d.latestResult revision = some row) : row ∈ d.results ∧ row.revision = revision := by
  have hmem := List.mem_of_getLast? h
  rw [revisionResults, List.mem_insertionSort, List.mem_filter] at hmem
  exact ⟨hmem.1, by simpa using hmem.2⟩

theorem pendingRevision_spec (h : d.pendingRevision = some revision) :
    revision = d.desiredRevisionCursor ∧ d.Validated revision := by
  unfold pendingRevision at h
  split at h
  · cases h
  split at h
  · cases h
  rename_i row hlatest
  split at h
  · rename_i hok
    cases h
    obtain ⟨hmem, hrev⟩ := latestResult_mem hlatest
    exact ⟨rfl, row, hmem, hrev, hok.1⟩
  · cases h

variable {candidate : RenderedConfig}

theorem loadCandidate_revision
    (h : d.loadCandidate revision = some candidate) : candidate.revision = revision := by
  unfold loadCandidate at h
  split at h
  · cases h
  split at h
  · have hfind := (Option.filter_eq_some_iff.1 h).1
    simpa using List.find?_some hfind
  · cases h

variable {now : Timestamp}

theorem beginActivation_quiet {prev : Option Revision} {attempt : Nat} (hval : d.Validated revision)
    (h : d.beginActivation revision prev now = some (attempt, d')) : Effect d d' := by
  unfold beginActivation at h
  split at h
  · split at h
    · simp only [Option.bind_eq_bind, Option.bind_eq_some_iff, Option.pure_def,
        Option.some.injEq, Prod.mk.injEq] at h
      obtain ⟨e, he, _, rfl⟩ := h
      exact updateJournal_quiet he fun _ => rfl
    · cases h
  · split at h
    · simp only [Option.some.injEq, Prod.mk.injEq] at h
      obtain ⟨_, rfl⟩ := h
      refine .quiet ⟨?_, le_rfl, le_rfl⟩ rfl rfl rfl
      intro j hj
      rcases List.mem_append.1 hj with hj | hj
      · exact .inl ⟨j, hj, rfl⟩
      · rw [List.mem_singleton.1 hj]
        exact .inr hval
    · cases h

theorem finalize_spec (h : (do
      let d₁ ← d.insertRevisionResult revision result
      d₁.finishJournal revision phase) = some d') :
    Frame d d' ∧ NewRow d ⟨revision, result, none⟩ ∧
      d'.results = d.results ++ [⟨revision, result, none⟩] ∧ d'.active = d.active ∧
      d'.desiredRevisionCursor = d.desiredRevisionCursor := by
  obtain ⟨d₁, hins, hfin⟩ := Option.bind_eq_some_iff.1 h
  obtain ⟨rfl, hnew⟩ := insertRevisionResult_spec hins
  obtain ⟨journal, rfl, hj⟩ := finishJournal_spec hfin
  exact ⟨⟨fun j hmem => .inl (hj j hmem), le_rfl, le_rfl⟩, hnew, rfl, rfl, rfl⟩

theorem WellFormed.journal_bounds (hwf : WellFormed d)
    (hj : j ∈ d.journal) : 0 < j.revision ∧ j.revision ≤ d.desiredRevisionCursor := by
  obtain ⟨row, hrow, hrev, _⟩ := hwf.journal j hj
  exact hrev ▸ ⟨hwf.positive row hrow, hwf.bounded row hrow⟩

variable {journal : ActivationJournal}
  {code : ErrorCode}

theorem finalizeRolledBack_effect (hwf : WellFormed d) {prev : RenderedConfig} {a : ActiveState}
    (hj : journal ∈ d.journal) (hact : d.active = some a) (hprev : prev.revision = a.revision)
    (h : d.finalizeRolledBack journal prev code now = some d') : Effect d d' := by
  obtain ⟨frame, new, results, active, cursor⟩ := finalize_spec h
  obtain ⟨positive, bounded⟩ := hwf.journal_bounds hj
  exact .insert _ frame new results active cursor (by simp) positive bounded
    fun _ => ⟨hwf.journal journal hj, a, hact, by simp [hprev]⟩

theorem finalizeRejected_effect (hwf : WellFormed d) (hj : journal ∈ d.journal)
    (h : d.finalizeRejected journal code now = some d') : Effect d d' := by
  obtain ⟨frame, new, results, active, cursor⟩ := finalize_spec h
  obtain ⟨positive, bounded⟩ := hwf.journal_bounds hj
  exact .insert _ frame new results active cursor (by simp) positive bounded (by simp)

theorem finalizeApplied_activated
    (hval : d.Validated candidate.revision) (hcur : candidate.revision = d.desiredRevisionCursor)
    (h : d.finalizeApplied candidate now = some d') : Activated d d' := by
  simp only [finalizeApplied, Option.bind_eq_bind, Option.bind_eq_some_iff] at h
  obtain ⟨_, _, d₁, hins, hfin⟩ := h
  obtain ⟨rfl, hnew⟩ := insertRevisionResult_spec hins
  obtain ⟨journal, rfl, hj⟩ := finishJournal_spec hfin
  exact ⟨⟨fun j hmem => .inl (hj j hmem), le_rfl, le_rfl⟩, rfl,
    _, _, hnew, rfl, rfl, rfl, rfl, hval, hcur⟩

theorem resolveSupersededJournal_effect (hwf : WellFormed d) (hj : journal ∈ d.journal)
    (h : d.resolveSupersededJournal journal now = some d') : Effect d d' := by
  unfold resolveSupersededJournal at h
  split at h
  · rename_i previousRevision _
    simp only [Option.bind_eq_bind, Option.bind_eq_some_iff] at h
    obtain ⟨a, hact, h⟩ := h
    split at h
    · rename_i hprev
      obtain ⟨prev, hcand, hfin⟩ := Option.bind_eq_some_iff.1 h
      exact finalizeRolledBack_effect hwf hj hact
        ((loadCandidate_revision hcand).trans hprev.symm) hfin
    · cases h
  · exact finalizeRejected_effect hwf hj h

theorem appendRejectedResult_effect {startedAt now : Timestamp}
    (hpos : 0 < revision) (hcur : revision = d.desiredRevisionCursor)
    (h : d.appendRejectedResult revision startedAt now code = some d') : Effect d d' := by
  obtain ⟨rfl, hnew⟩ := insertRevisionResult_spec h
  exact .insert _ ⟨fun j hj => .inl ⟨j, hj, rfl⟩, le_rfl, le_rfl⟩ hnew rfl rfl rfl
    (by simp) hpos (Nat.le_of_eq hcur) (by simp)

theorem appendValidatedResult_effect {startedAt now : Timestamp}
    {digest : Digest} (hpos : 0 < revision) (hcur : revision = d.desiredRevisionCursor)
    (h : d.appendValidatedResult revision startedAt now digest = some d') : Effect d d' := by
  unfold appendValidatedResult at h
  split at h
  · obtain ⟨rfl, hnew⟩ := insertRevisionResult_spec h
    exact .insert _ ⟨fun j hj => .inl ⟨j, hj, rfl⟩, le_rfl, le_rfl⟩
      ⟨hnew.fresh, hnew.unreported⟩ rfl rfl rfl (by simp) hpos (Nat.le_of_eq hcur) (by simp)
  · cases h

theorem persistVerifiedDesiredState_effect (hwf : WellFormed d) {cursor : Nat}
    (h : d.persistVerifiedDesiredState cursor revision now = some d') :
    Received d d' ∧ d'.desiredRevisionCursor = revision := by
  unfold persistVerifiedDesiredState at h
  split at h
  · rename_i hok
    obtain ⟨hcur, hlt, _⟩ := hok
    cases h
    refine ⟨⟨⟨fun j hj => .inl ⟨j, hj, rfl⟩, le_rfl, le_rfl⟩, rfl,
      hcur ▸ hlt, _, ⟨?_, rfl⟩, rfl, rfl, rfl⟩, rfl⟩
    -- the key is new because every stored row is at or below the old cursor
    intro x hx hkey
    simp only [LocalResult.key, Prod.mk.injEq] at hkey
    have hle := hwf.bounded x hx
    rw [hkey.1, hcur] at hle
    exact absurd hlt (Nat.not_lt.2 hle)
  · cases h

/-! ### Acknowledged reports -/

/-- Marking rows as reported changes nothing else about them. -/
structure Marked (d d' : Disk) : Prop where
  rows : ∃ f : LocalResult → LocalResult,
    d' = { d with results := d.results.map f } ∧
    ∀ row, (f row).revision = row.revision ∧ (f row).report = row.report

theorem Marked.holds (h : Marked d d') {report : RevisionResult} :
    d'.Holds r report ↔ d.Holds r report := by
  obtain ⟨f, rfl, hf⟩ := h.rows
  simp [Holds, hf]

theorem Marked.validated (h : Marked d d') : d'.Validated r ↔ d.Validated r := by
  obtain ⟨f, rfl, hf⟩ := h.rows
  simp [Validated, hf]

theorem Marked.wellFormed (h : Marked d d') (hwf : WellFormed d) : WellFormed d' := by
  have hval : ∀ r, d.Validated r → d'.Validated r := fun r => h.validated.2
  obtain ⟨f, rfl, hf⟩ := h.rows
  have hkey : LocalResult.key ∘ f = LocalResult.key := by
    funext row
    simp [LocalResult.key, hf]
  exact {
    keys := by simpa [hkey] using hwf.keys
    positive := by simpa [hf] using hwf.positive
    bounded := by simpa [hf] using hwf.bounded
    cursorRow := by simpa [hf] using hwf.cursorRow
    journal := fun j hj => hval _ (hwf.journal j hj)
    validatedFirst := by
      intro row hrow hs
      obtain ⟨x, hx, rfl⟩ := List.mem_map.1 hrow
      rw [(hf x).1]
      rw [(hf x).2] at hs
      exact hval _ (hwf.validatedFirst x hx hs)
    activeApplied := by simpa [hf] using hwf.activeApplied
    appliedLe := by simpa [hf] using hwf.appliedLe
    sequence := hwf.sequence }

theorem markReported_marked {state : RevisionResultState}
    (h : d.markReported revision state now = some d') : Marked d d' ∧ ∀ row ∈ d'.results,
    row.reportedAt.isSome → row ∈ d.results ∨ row.key = (revision, state) := by
  unfold markReported at h
  split at h
  · cases h
    refine ⟨⟨_, rfl, fun row => ?_⟩, ?_⟩
    · split <;> exact ⟨rfl, rfl⟩
    · intro row hrow _
      obtain ⟨x, hx, rfl⟩ := List.mem_map.1 hrow
      by_cases hkey : isReportRow revision state x
      · right
        simp only [isReportRow, Bool.and_eq_true, beq_iff_eq] at hkey
        simp [LocalResult.key, isReportRow, hkey.1.1, hkey.1.2, apply_ite]
      · left
        simpa [hkey] using hx
  · cases h

end Disk

end RealityConsole.NodeHost
