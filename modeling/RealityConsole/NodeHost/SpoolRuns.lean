import RealityConsole.Framework.Machine
import RealityConsole.NodeHost.Spool

/-!
# Runs of the telemetry spool

The node enqueues, purges and builds batches, and acknowledgements of the controller arrive, in any
order and at any readings of the clock. The controller stores batches that begin at its cursor; an
acknowledgement may come late, again or never.

Source: `node-host/src/telemetry.rs`.
-/

namespace RealityConsole.NodeHost

open Protocol Framework

/-- The spool, and the last event that the controller has stored. -/
structure SpoolWorld where
  spool : Spool
  stored : Nat

inductive SpoolLabel where
  | purge (now : Nat)
  /-- An event of a transaction; `enqueue` is a purge and one event. -/
  | enqueue (kind : TelemetryEventKind) (occurredAt now : Nat)
  /-- A batch from the cursor of the controller, which stores it or refuses it. -/
  | upload (node : NodeId) (accepted : Bool)
  /-- An acknowledgement that the controller has sent at some time. -/
  | acknowledge (acknowledged now : Nat)

/-- A call that fails rolls its transaction back, so it is no step. -/
def SpoolWorld.step (enc : EventEncoding) (w : SpoolWorld) : SpoolLabel → Option SpoolWorld
  | .purge now => some { w with spool := w.spool.purgeAcknowledged now }
  | .enqueue kind occurredAt now =>
    (w.spool.enqueueInTransaction enc kind occurredAt now).toOption.map fun spool =>
      { w with spool }
  | .upload node accepted =>
    match w.spool.batchFrom enc node (w.stored + 1) with
    | .ok (some batch) => some (if accepted then { w with stored := batch.lastSequence } else w)
    | _ => none
  | .acknowledge acknowledged now =>
    -- the controller acknowledges nothing that it has not stored
    if w.stored < acknowledged then none
    else (w.spool.acknowledge ⟨acknowledged, acknowledged + 1⟩ now).toOption.map fun spool =>
      { w with spool }

/-- Runs start with the spool of a new installation. -/
def spoolSystem (enc : EventEncoding) : Machine SpoolWorld SpoolLabel where
  init w := w = ⟨.empty, 0⟩
  next := SpoolWorld.step enc

variable {enc : EventEncoding}

/-! ### What a transaction keeps -/

namespace Spool

variable {s t u : Spool}

/-- A row that is not acknowledged has no mark, so retention leaves it. -/
theorem WellFormed.not_marked (h : s.WellFormed enc) {row : SpoolRow} (hrow : row ∈ s.rows)
    (hbey : s.acknowledgedSequence < row.event.sequence) : row.acknowledgedAt = none := by
  refine Option.not_isSome_iff_eq_none.1 fun hmark => ?_
  exact absurd hbey (Nat.not_lt.2 (h.unmarked row hrow hmark))

/-- The cursor does not go back, and what is beyond it stays as it is. -/
structure Keeps (s t : Spool) : Prop where
  cursor : s.acknowledgedSequence ≤ t.acknowledgedSequence
  rows : ∀ row ∈ s.rows, t.acknowledgedSequence < row.event.sequence → row ∈ t.rows

theorem Keeps.refl (s : Spool) : Keeps s s := ⟨le_rfl, fun _ hrow _ => hrow⟩

theorem Keeps.trans (h : Keeps s t) (h' : Keeps t u) : Keeps s u where
  cursor := h.cursor.trans h'.cursor
  rows row hrow hbey :=
    h'.rows row (h.rows row hrow (Nat.lt_of_le_of_lt h'.cursor hbey)) hbey

theorem WellFormed.keeps_purge (h : s.WellFormed enc) (now : Nat) :
    Keeps s (s.purgeAcknowledged now) where
  cursor := le_rfl
  rows row hrow hbey := by
    exact List.mem_filter.2 ⟨hrow, by rw [h.not_marked hrow hbey]; rfl⟩

theorem keeps_enqueue {kind : TelemetryEventKind} {occurredAt now : Nat}
    (h : s.enqueueInTransaction enc kind occurredAt now = .ok t) : Keeps s t := by
  obtain ⟨-, -, -, rfl⟩ := enqueueInTransaction_ok h
  exact ⟨le_rfl, fun _ hrow _ => List.mem_append_left _ hrow⟩

theorem WellFormed.keeps_acknowledge (h : s.WellFormed enc) {cursor : TelemetryCursor} {now : Nat}
    (hack : s.acknowledge cursor now = .ok t) : Keeps s t := by
  obtain ⟨_, hack⟩ := rest_ok hack
  obtain ⟨_, hack⟩ := rest_ok hack
  obtain ⟨marked, hmark, hack⟩ := bind_ok.1 hack
  cases hack
  unfold markAcknowledged at hmark
  split at hmark
  · rename_i hadv
    obtain ⟨_, hmark⟩ := rest_ok hmark
    cases hmark
    refine ⟨hadv.le, fun row hrow hbey => List.mem_filter.2 ⟨?_, ?_⟩⟩
    · exact List.mem_map.2 ⟨row, hrow, if_neg (Nat.not_le.2 hbey)⟩
    · -- a row beyond the new cursor is beyond the old one
      rw [h.not_marked hrow (hadv.trans hbey)]
      rfl
  · cases hmark
    exact h.keeps_purge now

/-- `batch_from` finds nothing to upload, or a batch that the protocol admits. -/
def Uploads (enc : EventEncoding) (s : Spool) (node : NodeId) (expected : Nat) : Prop :=
  s.batchFrom enc node expected = .ok none ∧ expected = s.nextSequence ∨
    ∃ batch, s.batchFrom enc node expected = .ok (some batch) ∧ batch.events ≠ [] ∧
      batch.firstSequence = expected ∧ Contiguous expected batch.events ∧
      batch.events.length ≤ maxTelemetryBatchEvents ∧
      enc.batchBytes batch ≤ maxTelemetryBatchBytes

theorem WellFormed.uploads (h : s.WellFormed enc) (node : NodeId) {expected : Nat}
    (hlow : s.acknowledgedSequence < expected) (hhigh : expected ≤ s.nextSequence) :
    s.Uploads enc node expected := by
  have hbat := h.batchFrom_eq node hlow hhigh
  by_cases hend : expected = s.nextSequence
  · rw [if_pos hend] at hbat
    exact .inl ⟨hbat, hend⟩
  rw [if_neg hend] at hbat
  have hlt : expected < s.nextSequence := by omega
  have hne : uploadEvents enc s expected ≠ [] := by
    refine uploadEvents_ne_nil fun hnil => ?_
    have hlen := h.eventsFrom_length hlow
    rw [hnil, List.length_nil] at hlen
    omega
  refine .inr ⟨_, hbat, hne, rfl, ?_, ?_, h.batchBytes_le node hlow hlt⟩
  · exact contiguous_of_isPrefixOf (h.eventsFrom_contiguous hlow)
      (uploadEvents_isPrefixOf enc s expected)
  · exact (uploadEvents_length enc s expected).trans (by decide)

end Spool

/-! ### Runs -/

namespace SpoolWorld

variable {w w' : SpoolWorld} {label : SpoolLabel}

/-- The cursor of the controller is between the cursor of the spool and its end. -/
structure Sound (enc : EventEncoding) (w : SpoolWorld) : Prop where
  spool : w.spool.WellFormed enc
  local_le : w.spool.acknowledgedSequence ≤ w.stored
  stored_lt : w.stored < w.spool.nextSequence

theorem Sound.step (h : Sound enc w) (hstep : w.step enc label = some w') :
    Sound enc w' ∧ w.spool.Keeps w'.spool := by
  have hsp := h.spool
  have hlocal := h.local_le
  have hsto := h.stored_lt
  cases label with
  | purge now =>
    cases hstep
    exact ⟨⟨hsp.purge now, hlocal, hsto⟩, hsp.keeps_purge now⟩
  | enqueue kind occurredAt now =>
    obtain ⟨spool, hsp', rfl⟩ := Option.map_eq_some_iff.1 hstep
    rw [toOption_some] at hsp'
    have hnew := hsp.enqueue hsp'
    have hkeep := Spool.keeps_enqueue hsp'
    obtain ⟨-, -, -, rfl⟩ := Spool.enqueueInTransaction_ok hsp'
    exact ⟨⟨hnew, hlocal, hsto.trans (Nat.lt_succ_self _)⟩, hkeep⟩
  | upload node accepted =>
    simp only [SpoolWorld.step] at hstep
    split at hstep
    · rename_i batch hbat
      cases hstep
      cases accepted with
      | false => exact ⟨h, .refl _⟩
      | true =>
        -- the batch begins at the cursor and is a part of the spool
        have hlow : w.spool.acknowledgedSequence < w.stored + 1 := Nat.lt_succ_of_le hlocal
        have heq := hbat.symm.trans (hsp.batchFrom_eq node hlow hsto)
        split_ifs at heq with hend
        · cases heq
        cases heq
        have hlen := (Spool.uploadEvents_isPrefixOf enc w.spool (w.stored + 1)).length_le
        rw [hsp.eventsFrom_length hlow] at hlen
        refine ⟨⟨hsp, ?_, ?_⟩, .refl _⟩
        · show w.spool.acknowledgedSequence ≤ w.stored + 1 + _ - 1
          omega
        · show w.stored + 1 + _ - 1 < w.spool.nextSequence
          omega
    · cases hstep
  | acknowledge acknowledged now =>
    simp only [SpoolWorld.step] at hstep
    split at hstep
    · cases hstep
    rename_i hkn
    obtain ⟨spool, hsp', rfl⟩ := Option.map_eq_some_iff.1 hstep
    rw [toOption_some] at hsp'
    obtain ⟨hnew, hnext, hcurs, -⟩ := Spool.acknowledge_ok hsp' hsp
    refine ⟨⟨hnew, ?_, hnext ▸ hsto⟩, hsp.keeps_acknowledge hsp'⟩
    rcases hcurs with hsame | hmoved
    · exact hsame ▸ hlocal
    · exact hmoved ▸ Nat.not_lt.1 hkn

theorem sound_of_reachable (h : (spoolSystem enc).Reachable w) : Sound enc w := by
  refine h.invariant (fun a ha => ?_) fun _ _ _ hinv _ hnext => (hinv.step hnext).1
  rw [ha]
  exact ⟨Spool.empty_wellFormed enc, le_rfl, Nat.one_pos⟩

theorem Sound.keeps_steps (h : Sound enc w)
    (hsteps : (spoolSystem enc).Steps (fun _ _ => True) w w') : w.spool.Keeps w'.spool := by
  have hboth : Sound enc w' ∧ w.spool.Keeps w'.spool :=
    hsteps.preserves (P := fun v => Sound enc v ∧ w.spool.Keeps v.spool)
      (fun _ _ _ ⟨hsound, hkeep⟩ _ hnext =>
        ⟨(hsound.step hnext).1, hkeep.trans (hsound.step hnext).2⟩) ⟨h, .refl _⟩
  exact hboth.2

/-- In every run an event stays in the spool, as it is, until it is acknowledged; every number
between the acknowledged one and the next is there once; and for every cursor in this range
`batch_from` finds the end or a batch to upload. -/
theorem spool_integrity (h : (spoolSystem enc).Reachable w) :
    (∀ w', (spoolSystem enc).Steps (fun _ _ => True) w w' → ∀ row ∈ w.spool.rows,
      w'.spool.acknowledgedSequence < row.event.sequence → row ∈ w'.spool.rows) ∧
    (∀ n, w.spool.acknowledgedSequence < n → n < w.spool.nextSequence →
      (w.spool.rows.map (·.event.sequence)).count n = 1) ∧
    (w.spool.acknowledgedSequence < w.stored + 1 ∧ w.stored + 1 ≤ w.spool.nextSequence) ∧
    ∀ node expected, w.spool.acknowledgedSequence < expected → expected ≤ w.spool.nextSequence →
      w.spool.Uploads enc node expected := by
  have hsound := sound_of_reachable h
  refine ⟨fun w' hsteps => (hsound.keeps_steps hsteps).rows, fun n hlow hhigh => ?_,
    ⟨Nat.lt_succ_of_le hsound.local_le, hsound.stored_lt⟩,
    fun node expected => hsound.spool.uploads node⟩
  obtain ⟨row, hrow, hn⟩ := hsound.spool.kept n hlow hhigh
  have hnd : (w.spool.rows.map (·.event.sequence)).Nodup :=
    hsound.spool.sorted.imp fun hlt => Nat.ne_of_lt hlt
  exact List.count_eq_one_of_mem hnd (List.mem_map.2 ⟨row, hrow, hn⟩)

/-- The controller has the first of two events, and the second one is uploaded next. -/
theorem second_event_uploads : ∃ w, (spoolSystem jsonEncoding).Reachable w ∧ w.stored = 1 ∧
    w.spool.nextSequence = 3 ∧ w.spool.Uploads jsonEncoding 7 2 := by
  obtain ⟨w, hrun, hsto, hnext, hacknowledged⟩ := Machine.run_of_exec
    (M := spoolSystem jsonEncoding)
    (fun _ _ => True)
    (fun w => w.stored = 1 ∧ w.spool.nextSequence = 3 ∧ w.spool.acknowledgedSequence = 1)
    [.enqueue (.collectionStatus "reset" false) 10 10, .upload 7 true,
      .enqueue (.collectionStatus "reset" true) 20 20, .acknowledge 1 30, .purge 700000]
    (s := ⟨.empty, 0⟩)
    rfl
    (by decide +kernel)
  exact ⟨w, hrun, hsto, hnext, (spool_integrity hrun).2.2.2 7 2 (by omega) (by omega)⟩

end SpoolWorld

end RealityConsole.NodeHost
