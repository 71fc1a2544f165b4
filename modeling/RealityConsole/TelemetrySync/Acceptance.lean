import RealityConsole.TelemetrySync.Model

/-!
# Honest telemetry is accepted

The controller accepts an event about a user only if that user is assigned to the node. The protocol
canary has no assignment, so a single byte counted for it blocks the telemetry of the node. As long
as the canary is idle, every batch is accepted (`Inv`) and the spool drains.
-/

namespace RealityConsole.TelemetrySync

open Framework Protocol Controller NodeHost

variable {enc : EventEncoding} {w w' : World}

/-- No sample shows a higher counter for a canary than the node has stored, and nothing else spools
an event about a canary. -/
def CanaryIdle (w : World) : Label → Prop
  | .collect answer _ _ => ∀ c ∈ answer.getD [], w.isCanary c.userId = true →
      ∀ previous ∈ w.host.counters, previous.userId = c.userId →
        c.uplink ≤ previous.uplink.get ∧ c.downlink ≤ previous.downlink.get
  | .record kind _ => (kind.userId?.all fun user => !w.isCanary user) = true
  | _ => True

instance (w : World) (l : Label) : Decidable (CanaryIdle w l) := by
  cases l <;> unfold CanaryIdle <;> infer_instance

/-! ### The invariant -/

def World.Assigned (w : World) (user : UserId) : Prop := w.members.isAssigned w.node user = true

structure Inv (enc : EventEncoding) (w : World) : Prop where
  active : w.status.mayReport = true
  members : w.members.WellFormed
  spool : w.host.spool.WellFormed enc
  /-- The node never runs ahead of the controller … -/
  local_le : w.host.spool.acknowledgedSequence ≤ w.tables.acknowledgedSequence
  /-- … nor the controller ahead of the spool. -/
  cursor_lt : w.tables.acknowledgedSequence < w.host.spool.nextSequence
  stored : ∀ e ∈ w.tables.events, e.sequence ≤ w.tables.acknowledgedSequence
  /-- Documents hold assigned users and canaries. -/
  documents : ∀ d ∈ w.documents, ∀ u ∈ d.users,
    w.Assigned u.userId ∨ w.isCanary u.userId = true
  applied : ∀ a, w.host.applied = some a → a ∈ w.documents
  events : ∀ row ∈ w.host.spool.rows, ∀ user, row.event.kind.userId? = some user →
    w.Assigned user
  pending : ∀ p ∈ w.host.pending, w.Assigned p.userId

variable {node : NodeId}

theorem inv_initial {members : Members} (hm : members.WellFormed) :
    Inv enc (initial node members) where
  active := rfl
  members := hm
  spool := Spool.empty_wellFormed enc
  local_le := le_rfl
  cursor_lt := Nat.zero_lt_one
  stored e he := by cases he
  documents d hd := by cases hd
  applied a ha := by cases ha
  events row hrow := by cases hrow
  pending p hp := by cases hp

variable {user : UserId}

/-- Whoever the node serves is assigned or a canary. -/
theorem Inv.enabledUsers (h : Inv enc w) (huser : user ∈ w.host.enabledUsers) :
    w.Assigned user ∨ w.isCanary user := by
  unfold Traffic.enabledUsers at huser
  cases happ : w.host.applied with
  | none =>
    rw [happ] at huser
    cases huser
  | some a =>
    rw [happ] at huser
    obtain ⟨u, hu, rfl⟩ := List.mem_map.1 huser
    exact h.documents a (h.applied a happ) u (List.mem_of_mem_filter hu)

/-! ### Publication -/

theorem isCanary_of_append {canaries more : List CanaryCredential}
    (h : (canaries.any fun c => c.userId = user) = true) :
    ((canaries ++ more).any fun c => c.userId = user) = true := by
  rw [List.any_append, h, Bool.true_or]

variable {fresh : FreshCanary}
  {canaries : List CanaryCredential}

theorem isCanary_rotateCanary (h : (canaries.any fun c => c.userId = user) = true) :
    ((rotateCanary canaries node fresh).any fun c => c.userId = user) = true := by
  refine isCanary_of_append ?_
  obtain ⟨c, hc, huser⟩ := List.any_eq_true.1 h
  refine List.any_eq_true.2 ⟨_, List.mem_map_of_mem hc, ?_⟩
  split
  · exact huser
  · exact huser

theorem ensureEndpointCanaryCredential_spec {canaries canaries' : List CanaryCredential}
    {canary : CanaryCredential}
    (h : ensureEndpointCanaryCredential canaries node fresh = (canary, canaries')) :
    canary ∈ canaries' ∧ ∃ more, canaries' = canaries ++ more := by
  unfold ensureEndpointCanaryCredential at h
  split at h
  · rename_i found hfound
    cases h
    exact ⟨List.mem_of_find?_eq_some hfound, [], (List.append_nil _).symm⟩
  · cases h
    exact ⟨List.mem_append_right _ (List.mem_singleton_self _), _, rfl⟩

theorem publishCompiled_inv (h : Inv enc w)
    (hold : ∀ user, w.isCanary user → (canaries.any fun c => c.userId = user) = true)
    (hstep : publishCompiled w canaries fresh = some w') : Inv enc w' := by
  unfold publishCompiled at hstep
  split at hstep
  · cases hstep
  rename_i users hcompile
  rcases hensure : ensureEndpointCanaryCredential canaries w.node fresh with ⟨canary, canaries'⟩
  simp only [hensure, Option.some.injEq] at hstep
  subst hstep
  obtain ⟨hmem, more, rfl⟩ := ensureEndpointCanaryCredential_spec hensure
  have hassigned := h.members.compiled_isAssigned hcompile
  refine { h with documents := ?_, applied := ?_ }
  · intro d hd u hu
    rcases List.mem_append.1 hd with hd | hd
    · rcases h.documents d hd u hu with hasn | hcan
      · exact .inl hasn
      · exact .inr (isCanary_of_append (hold _ hcan))
    rw [List.mem_singleton.1 hd] at hu
    rcases List.mem_append.1 hu with hu | hu
    · obtain ⟨comp, hcomp, rfl⟩ := List.mem_map.1 hu
      exact .inl (hassigned comp hcomp)
    · rw [List.mem_singleton.1 hu]
      exact .inr (List.any_eq_true.2 ⟨canary, hmem, by simp [CanaryCredential.desiredUser]⟩)
  · intro a ha
    exact List.mem_append_left _ (h.applied a ha)

/-! ### Collection -/

variable {source : UserId → Prop}

/-- Changing the node's tables keeps the invariant if the new events and pending deltas are about
assigned users. -/
theorem Inv.collects (h : Inv enc w) {host : Traffic} (hcol : Collects enc w.host source host)
    (hsource : ∀ user, source user → w.Assigned user) : Inv enc { w with host } := { h with
  spool := hcol.spool.wellFormed h.spool
  local_le := by
    rw [hcol.spool.acknowledgedSequence_eq]
    exact h.local_le
  cursor_lt := lt_of_lt_of_le h.cursor_lt hcol.spool.nextSequence_le
  applied a ha := h.applied a (hcol.applied ▸ ha)
  events row hrow user huser := by
    have hkinds := hcol.spool.kinds (P := fun kind => ∀ user, kind.userId? = some user → w.Assigned
      user) h.events (fun kind hkind user huser => hsource user (hkind user huser))
    exact hkinds row hrow user huser
  pending p hp := hsource _ (hcol.pending p hp) }

theorem Inv.accounted (h : Inv enc w) {answer : Option (List CollectedUserCounter)}
    {now flushedAt : Nat} (hidle : CanaryIdle w (.collect answer now flushedAt))
    (huser : Accounted w.host (answer.getD []) user) : w.Assigned user := by
  rcases huser with ⟨p, hp, rfl⟩ | ⟨henab, c, hc, rfl, prev, hprev, hid, hgrew⟩
  · exact h.pending p hp
  rcases h.enabledUsers henab with hasn | hcan
  · exact hasn
  · have hle := hidle c hc hcan prev hprev hid
    omega

theorem recordTelemetryEvent_collects {t t' : Traffic} {kind : TelemetryEventKind} {now : Nat}
    (h : recordTelemetryEvent enc t kind now = .ok t')
    (hkind : ∀ user, kind.userId? = some user → source user)
    (hpend : ∀ p ∈ t.pending, source p.userId) : Collects enc t source t' := by
  obtain ⟨spool, hsp, h⟩ := bind_ok.1 h
  cases h
  exact ⟨rfl, .enqueue (.purge now .refl) hkind hsp, hpend⟩

/-! ### Upload -/

theorem Inv.below_limit (h : Inv enc w) : w.tables.acknowledgedSequence + 1 < i64Limit := by
  have hcurs := h.cursor_lt
  have hnext := h.spool.next_lt
  omega

def World.nextBatch (enc : EventEncoding) (w : World) : TelemetryBatch :=
  batchOf w.node (w.tables.acknowledgedSequence + 1)
    (w.host.spool.uploadEvents enc (w.tables.acknowledgedSequence + 1))

/-- The cursor of the controller and the spool always fit together: either there is nothing to
upload, or the next batch is sent. -/
theorem Inv.uploadBatch_eq (h : Inv enc w) (receivedAt : Nat) : uploadBatch enc w receivedAt =
      if w.tables.acknowledgedSequence + 1 = w.host.spool.nextSequence then (w.tables, .drained)
      else sendBatch enc w receivedAt (w.nextBatch enc) := by
  have hload : loadTelemetryCursor w.status w.tables =
      .ok ⟨w.tables.acknowledgedSequence, w.tables.acknowledgedSequence + 1⟩ := by
    refine bind_ok.2 ⟨(), ?_, telemetryCursorFromAcknowledged_succeeds h.below_limit⟩
    simp [h.active]
  have hlow : w.host.spool.acknowledgedSequence < w.tables.acknowledgedSequence + 1 :=
    Nat.lt_succ_of_le h.local_le
  have hbat := h.spool.batchFrom_eq w.node hlow h.cursor_lt
  unfold uploadBatch
  by_cases hend : w.tables.acknowledgedSequence + 1 = w.host.spool.nextSequence
  · rw [if_pos hend] at hbat
    simp only [hload, hbat, if_pos hend]
  rw [if_neg hend] at hbat
  simp only [hload, hbat, if_neg hend]
  rfl

variable {outcome : BatchOutcome} {receivedAt : Nat} {tables : TelemetryTables}

theorem sendBatch_effect {batch : TelemetryBatch}
    (h : sendBatch enc w receivedAt batch = (tables, outcome)) :
    (tables = w.tables ∨ ∃ stored, Stored batch.events w.tables stored ∧
      tables = { stored with acknowledgedSequence := batch.lastSequence }) ∧
    ∀ sent acknowledgement, outcome = .accepted sent acknowledgement →
      acknowledgement.acknowledgedSequence = tables.acknowledgedSequence := by
  unfold sendBatch at h
  split at h
  · rename_i stored error hupl
    cases h
    exact ⟨(uploadNodeTelemetry_effect hupl).1, fun sent ack hout => by cases hout⟩
  rename_i stored acknowledgement hupl
  obtain ⟨htab, hcurs⟩ := uploadNodeTelemetry_effect hupl
  split at h
  · cases h
    refine ⟨htab, fun sent ack hout => ?_⟩
    cases hout
    exact hcurs _ rfl
  · cases h
    exact ⟨htab, fun sent ack hout => by cases hout⟩

theorem Inv.nextBatch_events (h : Inv enc w)
    (hend : w.tables.acknowledgedSequence + 1 ≠ w.host.spool.nextSequence) :
    (w.nextBatch enc).events ≠ [] ∧ (w.nextBatch enc).events <+: w.outstanding ∧
      Contiguous (w.tables.acknowledgedSequence + 1) (w.nextBatch enc).events ∧
      (w.nextBatch enc).lastSequence =
        w.tables.acknowledgedSequence + (w.nextBatch enc).events.length ∧
      w.tables.acknowledgedSequence + (w.nextBatch enc).events.length
        < w.host.spool.nextSequence := by
  have hlow : w.host.spool.acknowledgedSequence < w.tables.acknowledgedSequence + 1 :=
    Nat.lt_succ_of_le h.local_le
  have hcurs := h.cursor_lt
  have hinit := Spool.uploadEvents_isPrefixOf enc w.host.spool (w.tables.acknowledgedSequence + 1)
  have hlen := h.spool.eventsFrom_length hlow
  have hshort := hinit.length_le
  have hne : w.host.spool.uploadEvents enc (w.tables.acknowledgedSequence + 1) ≠ [] := by
    refine Spool.uploadEvents_ne_nil ?_
    intro hnil
    rw [hnil, List.length_nil] at hlen
    omega
  refine ⟨hne, hinit,
    Spool.contiguous_of_isPrefixOf (h.spool.eventsFrom_contiguous hlow) hinit, ?_, ?_⟩
  · simp only [World.nextBatch, batchOf]
    omega
  · simp only [World.nextBatch, batchOf]
    omega

/-- The tables stay, or the controller's cursor moves to the end of the batch, which the
acknowledgement names. -/
theorem Inv.uploadBatch_effect (h : Inv enc w)
    (hupl : uploadBatch enc w receivedAt = (tables, outcome)) : w.tables.acknowledgedSequence ≤
    tables.acknowledgedSequence ∧ tables.acknowledgedSequence < w.host.spool.nextSequence ∧
    (∀ e ∈ tables.events, e.sequence ≤ tables.acknowledgedSequence) ∧ ∀ sent acknowledgement,
    outcome = .accepted sent acknowledgement → acknowledgement.acknowledgedSequence =
    tables.acknowledgedSequence := by
  rw [h.uploadBatch_eq receivedAt] at hupl
  split at hupl
  · cases hupl
    exact ⟨le_rfl, h.cursor_lt, h.stored, fun sent ack hout => by cases hout⟩
  rename_i hend
  obtain ⟨-, -, hcontiguous, hlast, hlt⟩ := h.nextBatch_events hend
  obtain ⟨htab, hcurs⟩ := sendBatch_effect hupl
  rcases htab with rfl | ⟨stored, hsto, rfl⟩
  · exact ⟨le_rfl, h.cursor_lt, h.stored, hcurs⟩
  refine ⟨?_, ?_, ?_, hcurs⟩
  · show w.tables.acknowledgedSequence ≤ (w.nextBatch enc).lastSequence
    omega
  · show (w.nextBatch enc).lastSequence < w.host.spool.nextSequence
    omega
  · intro e he
    show e.sequence ≤ (w.nextBatch enc).lastSequence
    have hmem : e.sequence ∈ stored.events.map (·.sequence) := List.mem_map_of_mem he
    rw [hsto.sequences, List.mem_append] at hmem
    rcases hmem with hmem | hmem
    · obtain ⟨old, hold, heq⟩ := List.mem_map.1 hmem
      have hle := h.stored old hold
      omega
    · rw [Spool.contiguous_iff_map.1 hcontiguous, List.mem_range'_1] at hmem
      omega

theorem Inv.afterUpload (h : Inv enc w) (receivedAt : Nat) :
    Inv enc (World.afterUpload enc receivedAt w) := by
  rcases hupl : uploadBatch enc w receivedAt with ⟨tables, outcome⟩
  obtain ⟨hle, hlt, hsto, -⟩ := h.uploadBatch_effect hupl
  have hworld : World.afterUpload enc receivedAt w = { w with tables } := by
    unfold World.afterUpload
    rw [hupl]
  rw [hworld]
  exact { h with local_le := h.local_le.trans hle, cursor_lt := hlt, stored := hsto }

/-- A lost response changes nothing at the node, one that arrives marks rows. -/
theorem Inv.acknowledged (h : Inv enc w) {arrival : Option Nat}
    (hupl : uploadBatch enc w receivedAt = (tables, outcome)) :
    Inv enc { w with tables, host := acknowledged w outcome arrival } := by
  have htab : Inv enc { w with tables } := by
    have haft := h.afterUpload receivedAt
    unfold World.afterUpload at haft
    rwa [hupl] at haft
  obtain ⟨hle, hlt, -, hack⟩ := h.uploadBatch_effect hupl
  unfold TelemetrySync.acknowledged
  split
  · rename_i sent acknowledgement now
    split
    · rename_i spool hsp
      obtain ⟨hwell, hnext, hcurs, hrows⟩ := Spool.acknowledge_ok hsp h.spool
      have hseq := hack sent acknowledgement rfl
      refine { htab with spool := hwell, local_le := ?_, cursor_lt := ?_, events := ?_ }
      · show spool.acknowledgedSequence ≤ tables.acknowledgedSequence
        have hlocal := h.local_le
        rcases hcurs with hcurs | hcurs <;> omega
      · show tables.acknowledgedSequence < spool.nextSequence
        omega
      · intro row hrow user huser
        obtain ⟨old, hold, heq⟩ := hrows row hrow
        exact h.events old hold user (by rw [heq]; exact huser)
    · exact htab
  · exact htab

/-! ### Every step keeps the invariant -/

theorem ok_of_toOption_map {ε α β : Type} {x : Except ε α} {f : α → β} {b : β}
    (h : x.toOption.map f = some b) : ∃ a, x = .ok a ∧ f a = b := by
  cases x with
  | error e => cases h
  | ok a => exact ⟨a, rfl, Option.some.inj h⟩

theorem inv_step (h : Inv enc w) {l : Label} (hidle : CanaryIdle w l)
    (hstep : step enc w l = some w') : Inv enc w' := by
  cases l with
  | publish fresh => exact publishCompiled_inv h (fun _ hcan => hcan) hstep
  | rotateCanary fresh =>
    simp only [step] at hstep
    split at hstep
    · cases hstep
    · exact publishCompiled_inv h (fun _ hcan => isCanary_rotateCanary hcan) hstep
  | apply revision =>
    simp only [step, Option.map_eq_some_iff] at hstep
    obtain ⟨doc, hfind, rfl⟩ := hstep
    refine { h with applied := ?_ }
    intro a ha
    cases ha
    exact List.mem_of_find?_eq_some hfind
  | restart =>
    simp only [step, Option.some.injEq] at hstep
    subst hstep
    exact { h with }
  | collect answer now flushedAt =>
    obtain ⟨host, hcollect, rfl⟩ := ok_of_toOption_map hstep
    exact h.collects (collectXrayTraffic_collects hcollect) fun user huser =>
      h.accounted hidle huser
  | record kind now =>
    simp only [step] at hstep
    split at hstep
    · rename_i hsaved
      obtain ⟨host, hrec, rfl⟩ := ok_of_toOption_map hstep
      refine h.collects (recordTelemetryEvent_collects hrec ?_ h.pending) fun user hu => hu
      intro user huser
      -- the event is about a served user that is not a canary
      have hidle : (kind.userId?.all fun user => !w.isCanary user) = true := hidle
      simp only [huser, Option.all_some, decide_eq_true_eq, Bool.not_eq_true'] at hsaved hidle
      rcases h.enabledUsers hsaved with hasn | hcan
      · exact hasn
      · rw [hidle] at hcan
        cases hcan
    · cases hstep
  | upload receivedAt arrival =>
    rcases hupl : uploadBatch enc w receivedAt with ⟨tables, outcome⟩
    simp only [step, hupl, Option.some.injEq] at hstep
    subst hstep
    exact h.acknowledged hupl
  | setPolicy detailedEnabled detailedRetentionDays =>
    simp only [step, Option.some.injEq] at hstep
    subst hstep
    exact { h with }
  | retain now =>
    simp only [step, Option.some.injEq] at hstep
    subst hstep
    exact { h with stored := fun e he => h.stored e (List.mem_of_mem_filter he) }

theorem inv_of_run (h : (system enc).Run CanaryIdle w) : Inv enc w := by
  refine h.invariant ?_ fun a l b ha hidle hnext => inv_step ha hidle hnext
  rintro a ⟨node, members, hm, rfl⟩
  exact inv_initial hm

/-! ### Acceptance -/

theorem Inv.sendBatch_accepted (h : Inv enc w)
    (hskew : w.WithinSkew receivedAt) (hrange : w.WithinRange)
    (hend : w.tables.acknowledgedSequence + 1 ≠ w.host.spool.nextSequence) :
    ∃ stored, Stored (w.nextBatch enc).events w.tables stored ∧
      sendBatch enc w receivedAt (w.nextBatch enc) =
        ({ stored with acknowledgedSequence := (w.nextBatch enc).lastSequence },
          .accepted (w.nextBatch enc)
            ⟨(w.nextBatch enc).lastSequence, (w.nextBatch enc).lastSequence + 1⟩) := by
  obtain ⟨hne, hinit, hcontiguous, hlast, hlt⟩ := h.nextBatch_events hend
  have hnext := h.spool.next_lt
  obtain ⟨rest, hrest⟩ := hinit
  have hmem : ∀ e ∈ (w.nextBatch enc).events, e ∈ w.outstanding := by
    intro e he
    rw [← hrest]
    exact List.mem_append_left _ he
  have hacceptable : Acceptable w.members w.node receivedAt w.tables (w.nextBatch enc).events := by
    obtain ⟨hhour, hday⟩ := hrange
    rw [← hrest] at hhour hday
    refine ⟨hcontiguous, by omega, ?_, fun e he => hskew e (hmem e he), ?_, hhour.left, hday.left⟩
    · intro e he
      obtain ⟨row, hrow, rfl⟩ := Spool.mem_eventsFrom (hmem e he)
      exact h.spool.valid row hrow
    · intro e he user huser
      obtain ⟨row, hrow, rfl⟩ := Spool.mem_eventsFrom (hmem e he)
      exact h.events row hrow user huser
  have hbody := h.spool.batchBytes_le w.node (Nat.lt_succ_of_le h.local_le)
    (by omega : w.tables.acknowledgedSequence + 1 < w.host.spool.nextSequence)
  have hcount : (w.nextBatch enc).events.length ≤ maxTelemetryBatchEvents :=
    (Spool.uploadEvents_length enc _ _).trans (by decide)
  obtain ⟨stored, hsto, hupl⟩ :=
    uploadNodeTelemetry_accepted h.members h.active hbody hne hcount hacceptable h.stored
  refine ⟨stored, hsto, ?_⟩
  have hval : TelemetryCursor.validate ⟨(w.nextBatch enc).lastSequence,
      (w.nextBatch enc).lastSequence + 1⟩ = .ok () := by
    have hchecked : checkedNext (w.nextBatch enc).lastSequence =
        some ((w.nextBatch enc).lastSequence + 1) :=
      checkedNext_eq_some.2 ⟨by omega, rfl⟩
    simp [TelemetryCursor.validate, hchecked]
  rw [← hlast] at hupl
  unfold sendBatch
  have hupl' : uploadNodeTelemetry w.members w.node w.status receivedAt
      (enc.batchBytes (w.nextBatch enc)) w.tables (w.nextBatch enc) = _ := hupl
  rw [hupl']
  simp only [hval, and_self, if_true]

theorem Inv.accepts (h : Inv enc w) (hskew : w.WithinSkew receivedAt)
    (hrange : w.WithinRange) : (uploadBatch enc w receivedAt).2.isAccepted := by
  rw [h.uploadBatch_eq receivedAt]
  split
  · rfl
  rename_i hend
  obtain ⟨stored, -, hsend⟩ := h.sendBatch_accepted hskew hrange hend
  rw [hsend]
  rfl

/-- After an accepted batch the rest is still outstanding and still in range. -/
theorem Inv.afterUpload_outstanding (h : Inv enc w) (hskew : w.WithinSkew receivedAt)
    (hrange : w.WithinRange)
    (hend : w.tables.acknowledgedSequence + 1 ≠ w.host.spool.nextSequence) :
    (World.afterUpload enc receivedAt w).WithinSkew receivedAt ∧
    (World.afterUpload enc receivedAt w).WithinRange ∧ w.tables.acknowledgedSequence <
    (World.afterUpload enc receivedAt w).tables.acknowledgedSequence := by
  obtain ⟨hne, hinit, -, hlast, -⟩ := h.nextBatch_events hend
  obtain ⟨stored, hsto, hsend⟩ := h.sendBatch_accepted hskew hrange hend
  have htab : (World.afterUpload enc receivedAt w).tables =
      { stored with acknowledgedSequence := (w.nextBatch enc).lastSequence } := by
    simp only [World.afterUpload, h.uploadBatch_eq receivedAt, if_neg hend, hsend]
  have hsplit := h.spool.eventsFrom_split (Nat.lt_succ_of_le h.local_le) hinit
  have hrest : (World.afterUpload enc receivedAt w).outstanding = w.host.spool.eventsFrom
        (w.tables.acknowledgedSequence + 1 + (w.nextBatch enc).events.length) := by
    show w.host.spool.eventsFrom
      ((World.afterUpload enc receivedAt w).tables.acknowledgedSequence + 1) = _
    rw [htab]
    congr 1
    show (w.nextBatch enc).lastSequence + 1 = _
    omega
  have hout : w.outstanding =
      (w.nextBatch enc).events ++ (World.afterUpload enc receivedAt w).outstanding := by
    rw [hrest]
    exact hsplit
  refine ⟨?_, ?_, ?_⟩
  · intro e he
    refine hskew e ?_
    rw [hout]
    exact List.mem_append_right _ he
  · obtain ⟨hhour, hday⟩ := hrange
    rw [hout] at hhour hday
    refine ⟨hhour.right ?_, hday.right ?_⟩
    · intro key
      rw [htab]
      exact hsto.hourly key
    · intro key
      rw [htab]
      exact hsto.daily key
  · rw [htab]
    have hpos := List.length_pos_of_ne_nil hne
    show w.tables.acknowledgedSequence < (w.nextBatch enc).lastSequence
    omega

/-- The spool drains: every upload moves the controller's cursor. -/
theorem Inv.drains (k : Nat) : ∀ {w : World}, Inv enc w → w.WithinSkew receivedAt → w.WithinRange →
    w.host.spool.nextSequence - w.tables.acknowledgedSequence ≤ k → w.Drains enc receivedAt := by
  induction k with
  | zero =>
    intro w h _ _ hk
    have hcurs := h.cursor_lt
    omega
  | succ k ih =>
    intro w h hskew hrange hk
    by_cases hend : w.tables.acknowledgedSequence + 1 = w.host.spool.nextSequence
    · refine ⟨0, ?_⟩
      show (uploadBatch enc w receivedAt).2 = .drained
      rw [h.uploadBatch_eq receivedAt, if_pos hend]
    obtain ⟨hskew', hrange', hmoved⟩ := h.afterUpload_outstanding hskew hrange hend
    have hk' : (World.afterUpload enc receivedAt w).host.spool.nextSequence
        - (World.afterUpload enc receivedAt w).tables.acknowledgedSequence ≤ k := by
      show w.host.spool.nextSequence
        - (World.afterUpload enc receivedAt w).tables.acknowledgedSequence ≤ k
      omega
    obtain ⟨n, hn⟩ := ih (h.afterUpload receivedAt) hskew' hrange' hk'
    exact ⟨n + 1, hn⟩

/-- In every run in which the canary is idle, whenever the outstanding events are within the clock
skew and their totals in range, the controller takes the next batch, and after finitely many it has
everything. -/
theorem honest_telemetry_accepted (h : (system enc).Run CanaryIdle w) {receivedAt : Nat}
    (hskew : w.WithinSkew receivedAt) (hrange : w.WithinRange) :
    (uploadBatch enc w receivedAt).2.isAccepted = true ∧ w.Drains enc receivedAt :=
  ⟨(inv_of_run h).accepts hskew hrange, Inv.drains _ (inv_of_run h) hskew hrange le_rfl⟩

/-! ### A member and a canary -/

def oneMember : Members where
  users := [⟨7, .active⟩]
  assignments := [⟨1, 7, 1, .enabled⟩]
  credentials := [⟨1, 1, 7, 1, "2f1b1a0e-0000-4000-8000-000000000007", 1, .pending⟩]

theorem oneMember_wellFormed : oneMember.WellFormed where
  users_unique := by decide
  assignments_unique := by decide
  assignment_pair_unique := by decide
  credentials_unique := by decide
  credential_version_unique := by decide
  assignment_user := by decide
  credential_assignment := by decide

def freshCanary : FreshCanary := ⟨99, 2, "9c1b1a0e-0000-4000-8000-000000000099"⟩

theorem initial_oneMember : (system jsonEncoding).init (initial 1 oneMember) :=
  ⟨1, oneMember, oneMember_wellFormed, rfl⟩

/-- The document is applied and the counters of one user are sampled twice. -/
def sampled (user : UserId) (uplink : Int) : List Label :=
  [.publish freshCanary, .apply 1, .collect (some [⟨user, 0, 0⟩]) 100 100,
    .collect (some [⟨user, uplink, 0⟩]) 200 200]

/-- The member's traffic is outstanding, and is accepted. -/
theorem honest_telemetry_accepted_member : ∃ w, (system jsonEncoding).Run CanaryIdle w ∧
    w.outstanding ≠ [] ∧ (uploadBatch jsonEncoding w 300).2.isAccepted = true ∧
    w.Drains jsonEncoding 300 := by
  obtain ⟨w, hrun, hne, hskew, hrange⟩ := Machine.run_of_exec CanaryIdle
    (fun w : World => w.outstanding ≠ [] ∧ w.WithinSkew 300 ∧ w.WithinRange) (sampled 7 10)
    initial_oneMember (by decide +kernel)
  exact ⟨w, hrun, hne, honest_telemetry_accepted hrun hskew hrange⟩

/-- A byte through the canary becomes a batch that the controller refuses. -/
theorem canary_traffic_refused : ∃ w, (system jsonEncoding).Reachable w ∧
    w.WithinSkew 300 ∧ w.WithinRange ∧
    ∃ batch, (uploadBatch jsonEncoding w 300).2 = .refused batch .telemetryUserNotAssigned := by
  obtain ⟨w, hrun, hskew, hrange, hrefd⟩ := Machine.run_of_exec (fun _ _ => True)
    (fun w : World => w.WithinSkew 300 ∧ w.WithinRange ∧
      (uploadBatch jsonEncoding w 300).2 =
        .refused (w.nextBatch jsonEncoding) .telemetryUserNotAssigned)
    (sampled 99 1) initial_oneMember (by decide +kernel)
  exact ⟨w, hrun, hskew, hrange, _, hrefd⟩

end RealityConsole.TelemetrySync
