import RealityConsole.RelayServer.Quota

/-!
# No month is granted more than its limit

The state file accounts for everything that was granted: the record of a route counts at least
the grants of its month, and no later month has grants. A record is dropped only 62 days after its
retirement, when the month has changed.
-/

namespace RealityConsole.RelayServer

open Framework

variable {state candidate : QuotaState} {routeId other : String} {grants : List Grant}
  {limit requested : Nat} {now : Moment} {record : QuotaRecord}

/-! ### Months -/

theorem Moment.not_lt {t t' : Moment} : ¬t < t' ↔ t' ≤ t := Int.not_lt

/-- Two moments in UTC, one not before the other. -/
structure UtcLe (t t' : Moment) : Prop where
  first : t.offset = 0
  second : t'.offset = 0
  le : t ≤ t'

theorem monthKey_utc {t : Moment} (h : t.offset = 0) :
    monthKey t = civilMonth (t.instant / 86400000000000) := by
  rw [monthKey, h, Int.zero_mul, Int.add_zero]

theorem monthKey_mono {t t' : Moment} (h : UtcLe t t') : monthKey t ≤ monthKey t' := by
  rw [monthKey_utc h.first, monthKey_utc h.second]
  exact civilMonth_mono (Int.ediv_le_ediv (by decide) h.le)

theorem monthKey_lt_of_retention {t t' : Moment} (hfirst : t.offset = 0) (hsecond : t'.offset = 0)
    (h : t ≤ t'.minus (days retentionDays)) : monthKey t < monthKey t' := by
  rw [monthKey_utc hfirst, monthKey_utc hsecond]
  replace h : t.instant ≤ t'.instant - 62 * 86400000000000 := h
  exact civilMonth_lt (by omega)

theorem watermark_le_effectiveNow {state : QuotaState} (hutc : state.clockHighWatermark.offset = 0)
    (now : Moment) : UtcLe state.clockHighWatermark (effectiveNow state now) := by
  unfold effectiveNow
  split
  · exact ⟨hutc, hutc, le_rfl⟩
  · rename_i hlate
    exact ⟨hutc, rfl, (Int.not_le.1 hlate).le⟩

/-! ### Sums of grants -/

@[simp] theorem granted_nil (month : MonthKey) : granted [] routeId month = 0 := rfl

theorem granted_append (grants' : List Grant) (month : MonthKey) :
    granted (grants ++ grants') routeId month
      = granted grants routeId month + granted grants' routeId month := by
  unfold granted
  rw [List.filter_append, List.map_append, List.sum_append]

theorem granted_singleton (grant : Grant) (month : MonthKey) : granted [grant] routeId month
      = if grant.routeId = routeId ∧ grant.month = month then grant.bytes else 0 := by
  unfold granted
  rw [List.filter_singleton]
  by_cases h : grant.routeId = routeId ∧ grant.month = month
  · simp [h]
  · simp [h]

/-! ### What the file accounts for -/

structure Covers (record : QuotaRecord) (routeId : String) (grants : List Grant) : Prop where
  counted : granted grants routeId record.key ≤ record.bytes
  later : ∀ month, record.key < month → granted grants routeId month = 0

structure Accounts (state : QuotaState) (routeId : String) (grants : List Grant) : Prop where
  utc : state.clockHighWatermark.offset = 0
  missing : state.records.lookup routeId = none →
    ∀ month, monthKey state.clockHighWatermark ≤ month → granted grants routeId month = 0
  covers : ∀ record, state.records.lookup routeId = some record → Covers record routeId grants
  current : ∀ record, state.records.lookup routeId = some record →
    record.key ≤ monthKey state.clockHighWatermark
  retired : ∀ record, state.records.lookup routeId = some record →
    ∀ t ∈ record.retiredAt, t.offset = 0 ∧ record.key ≤ monthKey t

theorem accounts_of_none (hutc : state.clockHighWatermark.offset = 0)
    (hnone : state.records.lookup routeId = none)
    (h : ∀ month, monthKey state.clockHighWatermark ≤ month → granted grants routeId month = 0) :
    Accounts state routeId grants where
  utc := hutc
  missing _ := h
  covers _ hrec := by cases hnone.symm.trans hrec
  current _ hrec := by cases hnone.symm.trans hrec
  retired _ hrec := by cases hnone.symm.trans hrec

theorem accounts_of_some (hutc : state.clockHighWatermark.offset = 0)
    (hsome : state.records.lookup routeId = some record)
    (hcov : Covers record routeId grants)
    (hcur : record.key ≤ monthKey state.clockHighWatermark)
    (hret : ∀ t ∈ record.retiredAt, t.offset = 0 ∧ record.key ≤ monthKey t) :
    Accounts state routeId grants where
  utc := hutc
  missing hnone := by cases hsome.symm.trans hnone
  covers r hr := by
    obtain rfl := Option.mem_unique hsome hr
    exact hcov
  current r hr := by
    obtain rfl := Option.mem_unique hsome hr
    exact hcur
  retired r hr := by
    obtain rfl := Option.mem_unique hsome hr
    exact hret

theorem Accounts.of_append {new : List Grant} (h : Accounts state routeId (grants ++ new)) :
    Accounts state routeId grants := by
  have hle : ∀ month, granted grants routeId month ≤ granted (grants ++ new) routeId month := by
    intro month
    rw [granted_append]
    exact Nat.le_add_right _ _
  refine ⟨h.utc, fun hnone month hmon => ?_, fun record hrec => ⟨?_, fun month hmon => ?_⟩,
    h.current, h.retired⟩
  · exact Nat.le_zero.1 ((hle month).trans_eq (h.missing hnone month hmon))
  · exact (hle _).trans (h.covers record hrec).counted
  · exact Nat.le_zero.1 ((hle month).trans_eq ((h.covers record hrec).later month hmon))

theorem Accounts.congr {grants' : List Grant} (h : Accounts state routeId grants)
    (hsame : ∀ month, granted grants' routeId month = granted grants routeId month) :
    Accounts state routeId grants' :=
  ⟨h.utc, fun hnone month hle => (hsame month).trans (h.missing hnone month hle),
    fun r hr => ⟨(hsame _).trans_le (h.covers r hr).counted,
      fun month hlt => (hsame month).trans ((h.covers r hr).later month hlt)⟩,
    h.current, h.retired⟩

variable {month : MonthKey}

theorem covers_start (h : ∀ later, month ≤ later → granted grants routeId later = 0)
    (hkey : record.key = month) : Covers record routeId grants :=
  ⟨by rw [hkey, h month le_rfl]; exact Nat.zero_le _, fun later hlat =>
    h later (hkey ▸ hlat.le)⟩

theorem key_rollRecord (h : record.key ≤ month) : (rollRecord record month).1.key = month := by
  unfold rollRecord
  split
  · rfl
  · rename_i hle
    exact le_antisymm h (not_lt.1 hle)

theorem retiredAt_rollRecord (month : MonthKey) :
    (rollRecord record month).1.retiredAt = record.retiredAt := by
  unfold rollRecord
  split <;> rfl

theorem Covers.rollRecord (h : Covers record routeId grants) (month : MonthKey) :
    Covers (rollRecord record month).1 routeId grants := by
  unfold RelayServer.rollRecord
  split
  · rename_i hlt
    exact covers_start (fun later hlat => h.later later (hlt.trans_le hlat)) rfl
  · exact h

/-! ### The plans -/

variable {moment : Moment}

theorem accounts_store (h : other ≠ routeId → Accounts state other grants)
    (hmom : UtcLe state.clockHighWatermark moment)
    (hrec : other = routeId → Covers record routeId grants ∧ record.key ≤ monthKey moment ∧
      ∀ t ∈ record.retiredAt, t.offset = 0 ∧ record.key ≤ monthKey t) : Accounts { state with
      clockHighWatermark := moment
      records := state.records.store routeId record } other grants := by
  have hmon := monthKey_mono hmom
  have hlook := SortedMap.lookup_store other routeId record state.records
  by_cases hoth : other = routeId
  · subst hoth
    obtain ⟨hcov, hcur, hret⟩ := hrec rfl
    exact accounts_of_some hmom.second (hlook.trans (if_pos rfl)) hcov hcur hret
  replace h := h hoth
  rw [if_neg hoth] at hlook
  exact {
    utc := hmom.second
    missing := fun hnone month hle => h.missing (hlook.symm.trans hnone) month (hmon.trans hle)
    covers := fun r hr => h.covers r (hlook.symm.trans hr)
    current := fun r hr => (h.current r (hlook.symm.trans hr)).trans hmon
    retired := fun r hr => h.retired r (hlook.symm.trans hr) }

theorem activeRecord_ok (h : activeRecord state routeId = .ok record) :
    state.records.lookup routeId = some record ∧ record.retiredAt = none := by
  obtain ⟨hlook, hact⟩ := Option.filter_eq_some_iff.1 (required_ok.1 h)
  exact ⟨hlook, Option.isNone_iff_eq_none.1 hact⟩

theorem Accounts.rolled {rolled : QuotaRecord} {changed : Bool} (h : Accounts state routeId grants)
    (hact : activeRecord state routeId = .ok record)
    (hroll : rollRecord record (monthKey (effectiveNow state now)) = (rolled, changed)) :
    Covers rolled routeId grants ∧ rolled.key = monthKey (effectiveNow state now) ∧
      rolled.retiredAt = none := by
  obtain ⟨hlook, hret⟩ := activeRecord_ok hact
  obtain rfl : (rollRecord record (monthKey (effectiveNow state now))).1 = rolled := by rw [hroll]
  refine ⟨(h.covers record hlook).rollRecord _, key_rollRecord ?_, ?_⟩
  · exact (h.current record hlook).trans (monthKey_mono (watermark_le_effectiveNow h.utc now))
  · exact (retiredAt_rollRecord _).trans hret

theorem accounts_permitsNewStream {permitted : Bool} (h : Accounts state other grants)
    (hplan : permitsNewStream state routeId limit now = .ok (some candidate, permitted)) :
    Accounts candidate other grants := by
  obtain ⟨record, hact, hplan⟩ := bind_ok.1 hplan
  rcases hroll : rollRecord record (monthKey (effectiveNow state now)) with ⟨rolled, changed⟩
  simp only [hroll] at hplan
  obtain ⟨hcand, -⟩ := Prod.mk.inj (Except.ok.inj hplan)
  split at hcand
  · cases hcand
    refine accounts_store (fun _ => h) (watermark_le_effectiveNow h.utc now) ?_
    rintro rfl
    obtain ⟨hcov, hkey, hret⟩ := h.rolled hact hroll
    refine ⟨hcov, hkey.le, ?_⟩
    rw [hret]
    nofun
  · cases hcand

theorem Accounts.append_other (h : Accounts state other grants) (hoth : other ≠ routeId)
    (month : MonthKey) (amount : Nat) :
    Accounts state other (grants ++ [⟨routeId, month, amount⟩]) := by
  apply h.congr
  intro m
  rw [granted_append, granted_singleton, if_neg fun hgr => hoth hgr.1.symm, add_zero]

theorem accounts_reserve {amount : Nat} (h : Accounts state other grants)
    (hplan : reserve state routeId limit requested now = .ok (some candidate, amount)) :
    Accounts candidate other (grants ++ [⟨routeId, monthKey (effectiveNow state now), amount⟩]) ∧
      (other = routeId →
        granted grants routeId (monthKey (effectiveNow state now)) + amount ≤ limit) := by
  obtain ⟨record, hact, hplan⟩ := bind_ok.1 hplan
  rcases hroll : rollRecord record (monthKey (effectiveNow state now)) with ⟨rolled, changed⟩
  simp only [hroll] at hplan
  split at hplan
  · cases hplan
  rename_i hpos
  obtain ⟨-, hplan⟩ := check_ok.1 hplan
  obtain ⟨hcand, hamount⟩ := Prod.mk.inj (Except.ok.inj hplan)
  cases hcand
  rw [hamount] at hpos ⊢
  constructor
  · refine accounts_store (fun hoth => h.append_other hoth _ _)
      (watermark_le_effectiveNow h.utc now) ?_
    rintro rfl
    obtain ⟨hcov, hkey, hret⟩ := h.rolled hact hroll
    refine ⟨⟨?_, fun month hmon => ?_⟩, hkey.le, ?_⟩
    · show granted _ other rolled.key ≤ rolled.bytes + amount
      rw [granted_append, granted_singleton, if_pos ⟨rfl, hkey.symm⟩]
      exact Nat.add_le_add_right hcov.counted amount
    · replace hmon : rolled.key < month := hmon
      rw [granted_append, granted_singleton, hcov.later month hmon,
        if_neg fun hgr => (hkey ▸ hmon).ne hgr.2]
    · show ∀ t ∈ rolled.retiredAt, _
      rw [hret]
      rintro _ ⟨⟩
  · rintro rfl
    obtain ⟨hcov, hkey, -⟩ := h.rolled hact hroll
    have hcounted := hcov.counted
    rw [hkey] at hcounted
    omega

/-- A route keeps its record, or it gets one that counts from zero. -/
theorem lookup_insertRecords {maxRecords : Nat} {routeIds : List String}
    {recs recs' : SortedMap String QuotaRecord} {changed changed' : Bool}
    (h : insertRecords maxRecords month routeIds (recs, changed) = .ok (recs', changed'))
    (other : String) : recs'.lookup other = recs.lookup other ∨
      recs.lookup other = none ∧ recs'.lookup other = some (QuotaRecord.start month) := by
  induction routeIds generalizing recs changed with
  | nil =>
    cases h
    exact .inl rfl
  | cons routeId routeIds ih =>
    simp only [insertRecords] at h
    split at h
    · exact ih h
    rename_i hmiss
    split at h
    · cases h
    have hnone : recs.lookup routeId = none := by simpa [SortedMap.hasKey] using hmiss
    have hsto := SortedMap.lookup_store other routeId (QuotaRecord.start month) recs
    rcases ih h with hsame | ⟨hnone', hbeg⟩
    · by_cases hoth : other = routeId
      · subst hoth
        rw [if_pos rfl] at hsto
        exact .inr ⟨hnone, hsame.trans hsto⟩
      · rw [if_neg hoth] at hsto
        exact .inl (hsame.trans hsto)
    · by_cases hoth : other = routeId
      · subst hoth
        rw [if_pos rfl, hnone'] at hsto
        cases hsto
      · rw [if_neg hoth] at hsto
        exact .inr ⟨hsto.symm.trans hnone', hbeg⟩

theorem covers_reconcileRecord {active : List String}
    (hutc : moment.offset = 0) (hcov : Covers record other grants)
    (hcur : record.key ≤ monthKey moment)
    (hret : ∀ t ∈ record.retiredAt, t.offset = 0 ∧ record.key ≤ monthKey t) :
    let after := (reconcileRecord active moment routeId record).1
    Covers after other grants ∧ after.key ≤ monthKey moment ∧
      ∀ t ∈ after.retiredAt, t.offset = 0 ∧ after.key ≤ monthKey t := by
  unfold reconcileRecord
  split
  · have hrolled := hcov.rollRecord (monthKey moment)
    exact ⟨⟨hrolled.counted, hrolled.later⟩, (key_rollRecord hcur).le, nofun⟩
  split
  · refine ⟨⟨hcov.counted, hcov.later⟩, hcur, ?_⟩
    intro t ht
    cases ht
    exact ⟨hutc, hcur⟩
  · exact ⟨hcov, hcur, hret⟩

/-- A record is dropped only when its month is over. -/
theorem Covers.of_not_retained (hutc : moment.offset = 0) (hcov : Covers record other grants)
    (hret : ∀ t ∈ record.retiredAt, t.offset = 0 ∧ record.key ≤ monthKey t)
    (hdropped : isRetained moment record = false) :
    ∀ month, monthKey moment ≤ month → granted grants other month = 0 := by
  intro month hle
  unfold isRetained at hdropped
  cases hat : record.retiredAt with
  | none => simp [hat] at hdropped
  | some t =>
    simp only [hat, Option.all_some, decide_eq_false_iff_not] at hdropped
    obtain ⟨hat, hkey⟩ := hret t hat
    have hbef := hkey.trans_lt (monthKey_lt_of_retention hat hutc (Moment.not_lt.1 hdropped))
    exact hcov.later month (hbef.trans_le hle)

theorem Accounts.reconciled (h : Accounts state other grants) (active : List String)
    (hmom : UtcLe state.clockHighWatermark moment) : Accounts { state with
      clockHighWatermark := moment
      records := (retainedRecords state moment).mapValues fun routeId record =>
        (reconcileRecord active moment routeId record).1 } other grants := by
  have hmon := monthKey_mono hmom
  have hlook := SortedMap.lookup_mapValues (fun routeId record => (reconcileRecord active moment
    routeId record).1) other (retainedRecords state moment)
  unfold retainedRecords at hlook
  rw [SortedMap.lookup_retainEntries] at hlook
  cases hrec : state.records.lookup other with
  | none =>
    rw [hrec] at hlook
    exact accounts_of_none hmom.second hlook fun month hle => h.missing hrec month (hmon.trans hle)
  | some record =>
    rw [hrec] at hlook
    have hcov := h.covers record hrec
    have hret := h.retired record hrec
    cases hkeep : isRetained moment record with
    | true =>
      rw [Option.filter_some_pos hkeep] at hlook
      obtain ⟨haft, hcur, hat⟩ :=
        covers_reconcileRecord hmom.second hcov ((h.current record hrec).trans hmon) hret
      exact accounts_of_some hmom.second hlook haft hcur hat
    | false =>
      rw [Option.filter_some_neg hkeep] at hlook
      exact accounts_of_none hmom.second hlook (hcov.of_not_retained hmom.second hret hkeep)

theorem accounts_reconcile {maxRecords : Nat} {activeRouteIds : List String}
    (h : Accounts state other grants)
    (hplan : reconcile state maxRecords activeRouteIds now = .ok (some candidate, ())) :
    Accounts candidate other grants := by
  obtain ⟨-, hplan⟩ := check_ok.1 hplan
  obtain ⟨⟨recs, changed⟩, hins, hplan⟩ := bind_ok.1 hplan
  obtain ⟨hcand, -⟩ := Prod.mk.inj (Except.ok.inj hplan)
  have hbef := h.reconciled activeRouteIds (watermark_le_effectiveNow h.utc now)
  split at hcand
  · cases hcand
    rcases lookup_insertRecords hins other with hsame | ⟨hnone, hbeg⟩
    · exact {
        utc := hbef.utc
        missing := fun hnone => hbef.missing (hsame.symm.trans hnone)
        covers := fun r hr => hbef.covers r (hsame.symm.trans hr)
        current := fun r hr => hbef.current r (hsame.symm.trans hr)
        retired := fun r hr => hbef.retired r (hsame.symm.trans hr) }
    · exact accounts_of_some hbef.utc hbeg (covers_start (hbef.missing hnone) rfl) le_rfl nofun
  · cases hcand

/-! ### Writing the file -/

section Persist

variable {stored : Option QuotaState} {status : Option StoreStatus}

def Holds (status : Option StoreStatus) (stored : Option QuotaState) (process : QuotaProcess) :
    Prop :=
  process.status = status ∧ process.directory.state = stored

/-- Whatever goes wrong, the file holds the old state or the new one. -/
theorem persistState_spec : Faulty.Spec (Holds status stored) (persistState candidate)
      (fun p => Holds status stored p ∨ Holds status (some candidate) p)
      fun _ p => Holds status (some candidate) p := by
  have hqt : ∀ e : RelayError, Faulty.Spec (Holds status stored) (Faulty.effect id e) (fun p =>
    Holds status stored p ∨ Holds status (some candidate) p) fun _ p => Holds status stored p := fun
    e => Faulty.spec_effect _ e (fun _ => .inl) (fun _ => .inl) fun _ h => h
  have hreplace : Faulty.Spec (Holds status stored) (replaceStateFile candidate)
      (fun p => Holds status stored p ∨ Holds status (some candidate) p)
      fun _ p => Holds status (some candidate) p := by
    refine (Faulty.spec_inspect _ _ (fun _ => .inl) fun _ _ h _ => h).bind fun _ => ?_
    refine Faulty.Spec.bind (Q := fun _ p => Holds status stored p) ?_ fun _ => ?_
    · exact Faulty.spec_effect _ _ (fun _ => .inl) (fun _ => .inl) fun _ h => h
    refine (hqt _).bind fun _ => (hqt _).bind fun _ => ?_
    refine (Faulty.spec_effect _ _ (fun _ => .inl) (fun _ h => .inr ⟨h.1, rfl⟩)
      (Q := fun _ p => Holds status (some candidate) p) fun _ h => ⟨h.1, rfl⟩).bind fun _ => ?_
    exact Faulty.spec_effect _ _ (fun _ => .inr) (fun _ => .inr) fun _ h => h
  refine (hqt _).bind fun _ => (hqt _).bind fun _ => hreplace.rescue fun e => ?_
  -- removing the temporary file changes neither
  refine Faulty.Spec.bind (Q := fun _ p => Holds status stored p ∨ Holds status (some candidate) p)
    ?_ fun _ => Faulty.spec_fail e fun _ h => h
  refine Faulty.Spec.rescue ?_ fun _ => Faulty.spec_pure _ (fun _ h => h) fun _ h => h
  exact Faulty.spec_effect _ _ (fun _ h => h) (fun _ h => h) fun _ h => h

end Persist

theorem commit_cases (candidate : QuotaState) {s : Scripted QuotaProcess} {status : StoreStatus}
    (hstat : s.state.status = some status) : (∃ t, commit candidate s = (t, .ok ()) ∧
      Holds (some { status with state := candidate }) (some candidate) t.state) ∨
    (∃ t e, commit candidate s = (t, .error (.error e)) ∧
      t.state.status = some { status with poisoned := true } ∧
      (t.state.directory.state = s.state.directory.state ∨
        t.state.directory.state = some candidate)) ∨ ∃ t, commit candidate s = (t, .error .crash) ∧
      (t.state.directory.state = s.state.directory.state ∨
        t.state.directory.state = some candidate) := by
  obtain ⟨hstop, hdone⟩ :=
    (persistState_spec : Faulty.Spec _ (persistState candidate) _ _) s ⟨hstat, rfl⟩
  have hfile := hstop.imp And.right And.right
  have hsame : (persistState candidate s).1.state.status = some status :=
    hstop.elim And.left And.left
  rcases hrun : persistState candidate s with ⟨t, (e | _) | ⟨⟩⟩
  · rw [hrun] at hfile hsame
    refine .inr (.inl ⟨⟨t.state.poison, t.faults⟩, e, ?_, ?_, hfile⟩)
    · apply Fallible.bind_of_error
      unfold Faulty.rescue
      rw [hrun]
      rfl
    · show t.state.status.map _ = _
      rw [hsame]
      rfl
  · rw [hrun] at hfile
    refine .inr (.inr ⟨t, ?_, hfile⟩)
    apply Fallible.bind_of_error
    unfold Faulty.rescue
    rw [hrun]
  · rw [hrun] at hdone hsame
    refine .inl ⟨⟨t.state.advance candidate, t.faults⟩, ?_, ?_, (hdone () rfl).2⟩
    · exact Fallible.bind_of_ok (Faulty.rescue_of_ok hrun)
    · show t.state.status.map _ = _
      rw [hsame]
      rfl

variable {α : Type} {plan : StoreStatus → RelayResult (Option QuotaState × α)}
  {s t : Scripted QuotaProcess}

/-- A call that returns had a store in order, and goes on with what it planned. -/
theorem locked_ok {result : α} (h : locked plan s = (t, .ok result)) :
    ∃ status planned, s.state.status = some status ∧ plan status = .ok (planned, result) ∧
      t.state.status = some { status with state := planned.getD status.state } := by
  unfold locked at h
  cases hstat : s.state.status with
  | none =>
    rw [hstat] at h
    cases h
  | some status =>
    rw [hstat] at h
    dsimp only at h
    split at h
    · cases h
    split at h
    · cases h
    · rename_i hplan
      obtain ⟨rfl, hres⟩ := Prod.mk.inj h
      cases hres
      exact ⟨status, none, rfl, hplan, hstat⟩
    rename_i candidate _ hplan
    rcases commit_cases candidate hstat with ⟨u, hrun, hmemory, -⟩ | ⟨u, e, hrun, -⟩ | ⟨u, hrun, -⟩
    · rw [Fallible.bind_of_ok hrun] at h
      obtain ⟨rfl, hres⟩ := Prod.mk.inj h
      cases hres
      exact ⟨status, some candidate, rfl, hplan, hmemory⟩
    · rw [Fallible.bind_of_error hrun] at h
      cases h
    · rw [Fallible.bind_of_error hrun] at h
      cases h

/-- A call that fails leaves the state in memory as it was. -/
theorem locked_error {e : RelayError} (h : locked plan s = (t, .error (.error e))) :
    t.state.status.map (·.state) = s.state.status.map (·.state) := by
  unfold locked at h
  cases hstat : s.state.status with
  | none =>
    rw [hstat] at h
    cases h
    rw [hstat]
  | some status =>
    rw [hstat] at h
    dsimp only at h
    split at h
    · cases h
      rw [hstat]
    split at h
    · cases h
      rw [hstat]
    · cases h
    rename_i candidate _ hplan
    rcases commit_cases candidate hstat with ⟨u, hrun, -⟩ | ⟨u, e, hrun, hpoi, -⟩ | ⟨u, hrun, -⟩
    · rw [Fallible.bind_of_ok hrun] at h
      cases h
    · rw [Fallible.bind_of_error hrun] at h
      cases h
      rw [hpoi]
      rfl
    · rw [Fallible.bind_of_error hrun] at h
      cases h

/-! ### Whole runs -/

variable {w w' : QuotaWorld} {faults : List Fault}

/-- The file accounts for all grants of a route, within the limit, and is in the memory of a store
that works. -/
structure QuotaInv (routeId : String) (limit : Nat) (w : QuotaWorld) : Prop where
  fresh : w.process.directory.state = none → ∀ month, granted w.grants routeId month = 0
  accounts : ∀ state, w.process.directory.state = some state → Accounts state routeId w.grants
  memory : ∀ status, w.process.status = some status → status.poisoned = false →
    w.process.directory.state = some status.state
  bounded : ∀ month, granted w.grants routeId month ≤ limit

/-- The file is the old one or accounts for the same grants, and the store is gone or in order. -/
theorem QuotaInv.frame (h : QuotaInv routeId limit w) {process : QuotaProcess}
    (hfile : process.directory.state = w.process.directory.state ∨
      ∃ state, process.directory.state = some state ∧ Accounts state routeId w.grants)
    (hmemory : ∀ status, process.status = some status → status.poisoned = false →
      process.directory.state = some status.state) :
    QuotaInv routeId limit { w with process := process } := by
  refine ⟨fun hnone => ?_, fun state hst => ?_, hmemory, h.bounded⟩
  · rcases hfile with hsame | ⟨state, hst, -⟩
    · exact h.fresh (hsame.symm.trans hnone)
    · cases hst.symm.trans hnone
  · rcases hfile with hsame | ⟨state', hst', hacc⟩
    · exact h.accounts state (hsame.symm.trans hst)
    · obtain rfl := Option.mem_unique hst' hst
      exact hacc

/-- A call whose plan accounts for what it grants keeps the invariant, however it ends. -/
theorem QuotaInv.locked {grantsOf : α → List Grant} {status : StoreStatus}
    (h : QuotaInv routeId limit w) (hstat : w.process.status = some status)
    (hqt : ∀ result, plan status = .ok (none, result) →
      ∀ month, granted (grantsOf result) routeId month = 0)
    (hplan : ∀ candidate result, plan status = .ok (some candidate, result) →
      Accounts status.state routeId w.grants →
        Accounts candidate routeId (w.grants ++ grantsOf result) ∧
          ∀ month, granted (w.grants ++ grantsOf result) routeId month ≤ limit) :
    QuotaInv routeId limit (w.after grantsOf (locked plan ⟨w.process, faults⟩)) := by
  unfold RelayServer.locked
  rw [hstat]
  dsimp only
  split
  · exact h
  rename_i hhealthy
  have hsto := h.memory status hstat (Bool.not_eq_true _ ▸ hhealthy)
  split
  · exact h
  · rename_i result hres
    have hsame : ∀ month, granted (w.grants ++ grantsOf result) routeId month
        = granted w.grants routeId month := by
      intro month
      rw [granted_append, hqt result hres month, add_zero]
    refine ⟨fun hnone => ?_, fun state hst => ?_, h.memory, fun month => ?_⟩
    · cases hsto.symm.trans hnone
    · exact (h.accounts state hst).congr hsame
    · exact (hsame month).trans_le (h.bounded month)
  · rename_i candidate result hres
    obtain ⟨hacc, hbound⟩ := hplan candidate result hres (h.accounts _ hsto)
    rcases commit_cases candidate (s := ⟨w.process, faults⟩) hstat with
      ⟨t, hrun, hmemory, hfile⟩ | ⟨t, e, hrun, hpoi, hfile⟩ | ⟨t, hrun, hfile⟩
    · rw [Fallible.bind_of_ok hrun]
      refine ⟨fun hnone => ?_, fun state hst => ?_, fun status' hstat' _ => ?_, hbound⟩
      · cases hfile.symm.trans hnone
      · obtain rfl := Option.mem_unique hfile hst
        exact hacc
      · obtain rfl := Option.mem_unique hmemory hstat'
        exact hfile
    · rw [Fallible.bind_of_error hrun]
      refine h.frame (hfile.imp_right fun hnew => ⟨candidate, hnew, hacc.of_append⟩) ?_
      intro status' hstat' hhealthy'
      obtain rfl := Option.mem_unique hpoi hstat'
      cases hhealthy'
    · rw [Fallible.bind_of_error hrun]
      exact h.frame (hfile.imp_right fun hnew => ⟨candidate, hnew, hacc.of_append⟩) nofun

/-- Whatever goes wrong, opening the store leaves the file as it was or creates it. -/
theorem openBlocking_spec (stored : Option QuotaState) (maxRoutes : Nat) (now : Moment) :
    Faulty.Spec (Holds none stored) (openBlocking maxRoutes now)
      (fun p => (p.directory.state = stored ∨
          stored = none ∧ p.directory.state = some ⟨stateSchemaVersion, utc now, []⟩) ∧
        ∀ status, p.status = some status → p.directory.state = some status.state)
      fun _ _ => True := by
  have hclo : ∀ p, Holds none stored p → (p.directory.state = stored ∨
      stored = none ∧ p.directory.state = some ⟨stateSchemaVersion, utc now, []⟩) ∧
        ∀ status, p.status = some status → p.directory.state = some status.state := by
    rintro p ⟨hstat, hst⟩
    refine ⟨.inl hst, fun status hopen => ?_⟩
    cases hstat.symm.trans hopen
  refine Faulty.Spec.bind (Q := fun _ p => Holds none stored p) ?_ fun _ => ?_
  · exact Faulty.spec_effect _ _ hclo hclo fun _ h => h
  refine Faulty.Spec.bind (Q := fun _ p => Holds none stored p) ?_ fun _ => ?_
  · exact Faulty.spec_refuseWhen _ hclo fun _ h _ => h
  refine Faulty.Spec.bind (Q := fun _ p => Holds none stored p) ?_ fun incomplete => ?_
  · refine Faulty.Spec.weaken (I := Holds none stored) (Q := fun _ => Holds none stored) ?_
      (fun _ h => h) hclo fun _ _ h => h
    refine Faulty.Spec.rescue ?_ fun _ => Faulty.spec_pure _ (fun _ h => h) fun _ h => h
    exact Faulty.spec_inspect _ _ (fun _ h => h) fun _ _ h _ => h
  refine Faulty.Spec.bind (Q := fun _ p => Holds none stored p) ?_ fun _ => ?_
  · exact Faulty.spec_refuseWhen _ hclo fun _ h _ => h
  refine Faulty.Spec.bind (Q := fun read p => Holds none stored p ∧ read = stored) ?_ fun read => ?_
  · refine Faulty.spec_inspect _ _ hclo ?_
    rintro p read hp hread
    exact ⟨hp, (Except.ok.inj hread).symm.trans hp.2⟩
  rcases read with _ | state
  · -- the first state is written before it is used
    refine Faulty.Spec.bind (Q := fun _ p => Holds none (some ⟨stateSchemaVersion, utc now, []⟩) p ∧
      stored = none) ?_ fun _ => ?_
    · intro s hs
      obtain ⟨hstop, hdone⟩ := persistState_spec s hs.1
      refine ⟨?_, fun u hu => ⟨hdone u hu, hs.2.symm⟩⟩
      rcases hstop with hold | ⟨hstat, hnew⟩
      · exact hclo _ hold
      · refine ⟨.inr ⟨hs.2.symm, hnew⟩, fun status hopen => ?_⟩
        cases hstat.symm.trans hopen
    · refine Faulty.spec_note _ ?_ fun _ _ => trivial
      rintro p ⟨⟨-, hst⟩, hnone⟩
      refine ⟨.inr ⟨hnone, hst⟩, fun status hopen => ?_⟩
      cases hopen
      exact hst
  · refine Faulty.Spec.bind (Q := fun _ p => Holds none stored p ∧ some state = stored) ?_
      fun _ => ?_
    · exact Faulty.spec_refuseWhen _ (fun p hp => hclo p hp.1) fun _ h _ => h
    · refine Faulty.spec_note _ ?_ fun _ _ => trivial
      rintro p ⟨⟨-, hst⟩, hread⟩
      refine ⟨.inl hst, fun status hopen => ?_⟩
      cases hopen
      exact hst.trans hread.symm

theorem QuotaInv.opened (h : QuotaInv routeId limit w) (hclo : w.process.status = none)
    (maxRoutes : Nat) (now : Moment) :
    QuotaInv routeId limit (w.after (fun _ => []) (openBlocking maxRoutes now ⟨w.process, faults⟩))
    := by
  obtain ⟨⟨hfile, hmemory⟩, -⟩ := openBlocking_spec w.process.directory.state maxRoutes now
    ⟨w.process, faults⟩ ⟨hclo, rfl⟩
  replace hfile : (openBlocking maxRoutes now ⟨w.process, faults⟩).1.state.directory.state
      = w.process.directory.state ∨ ∃ state,
        (openBlocking maxRoutes now ⟨w.process, faults⟩).1.state.directory.state = some state ∧
          Accounts state routeId w.grants := by
    refine hfile.imp_right fun ⟨hnone, hnew⟩ => ⟨_, hnew, accounts_of_none rfl rfl ?_⟩
    exact fun month _ => h.fresh hnone month
  rcases hrun : openBlocking maxRoutes now ⟨w.process, faults⟩ with ⟨t, (e | _) | ⟨⟩⟩
  · rw [hrun] at hfile hmemory
    exact h.frame hfile fun status hopen _ => hmemory status hopen
  · rw [hrun] at hfile
    exact h.frame hfile nofun
  · rw [hrun] at hfile hmemory
    have hframe := h.frame hfile fun status hopen _ => hmemory status hopen
    show QuotaInv routeId limit ⟨t.state, w.grants ++ []⟩
    rw [List.append_nil]
    exact hframe

/-- Every call of `reserve` for the route uses this limit. -/
def LimitIs (routeId : String) (limit : Nat) (_ : QuotaWorld) : QuotaLabel → Prop
  | .reserve route bound _ _ _ => route = routeId → bound = limit
  | _ => True

theorem QuotaInv.locked_quiet {status : StoreStatus}
    (h : QuotaInv routeId limit w) (hstat : w.process.status = some status)
    (hplan : ∀ candidate result, plan status = .ok (some candidate, result) →
      Accounts status.state routeId w.grants → Accounts candidate routeId w.grants) :
    QuotaInv routeId limit
      (w.after (fun _ => []) (RelayServer.locked plan ⟨w.process, faults⟩)) := by
  refine h.locked hstat (fun _ _ _ => rfl) fun candidate result hres hacc => ?_
  rw [List.append_nil]
  exact ⟨hplan candidate result hres hacc, h.bounded⟩

theorem QuotaInv.reserve {status : StoreStatus} {bound : Nat} (h : QuotaInv routeId limit w)
    (hstat : w.process.status = some status) (hbound : other = routeId → bound = limit) :
    QuotaInv routeId limit (w.after (reserveGrants status other now)
      (RelayServer.locked (fun status => RelayServer.reserve status.state other bound requested now)
        ⟨w.process, faults⟩)) := by
  refine h.locked hstat (fun amount hqt month => ?_) fun candidate amount hplan hacc => ?_
  · -- nothing to commit means nothing granted
    have hzero : amount = 0 := by
      obtain ⟨record, hqt⟩ := rest_ok hqt
      dsimp only at hqt
      split at hqt
      · exact (Prod.mk.inj (Except.ok.inj hqt)).2.symm
      · obtain ⟨-, hqt⟩ := check_ok.1 hqt
        cases (Prod.mk.inj (Except.ok.inj hqt)).1
    unfold reserveGrants
    rw [granted_singleton, hzero, ite_self]
  · obtain ⟨hcand, hwin⟩ := accounts_reserve hacc hplan
    refine ⟨hcand, fun month => ?_⟩
    unfold reserveGrants
    rw [granted_append, granted_singleton]
    split
    · rename_i hgr
      obtain ⟨rfl, rfl⟩ := hgr
      exact (hwin rfl).trans_eq (hbound rfl)
    · exact h.bounded month

theorem quotaInv_step {label : QuotaLabel} (h : QuotaInv routeId limit w)
    (hlim : LimitIs routeId limit w label) (hnext : quotaSystem.next w label = some w') :
    QuotaInv routeId limit w' := by
  cases label with
  | openStore maxRoutes now faults =>
    replace hnext : (if w.process.status.isSome then none else some _) = some w' := hnext
    split at hnext
    · cases hnext
    rename_i hclo
    cases hnext
    exact h.opened (Option.not_isSome_iff_eq_none.1 hclo) maxRoutes now
  | reconcile activeRouteIds now faults =>
    obtain ⟨status, hstat, rfl⟩ := Option.map_eq_some_iff.1 hnext
    exact h.locked_quiet hstat fun _ _ hplan hacc => accounts_reconcile hacc hplan
  | permitsNewStream route bound now faults =>
    obtain ⟨status, hstat, rfl⟩ := Option.map_eq_some_iff.1 hnext
    exact h.locked_quiet hstat fun _ _ hplan hacc =>
      accounts_permitsNewStream hacc hplan
  | reserve route bound requested now faults =>
    obtain ⟨status, hstat, rfl⟩ := Option.map_eq_some_iff.1 hnext
    split
    · exact h
    · exact h.reserve hstat hlim
  | crash =>
    cases hnext
    exact h.frame (.inl rfl) nofun
  | removeTemporary =>
    cases hnext
    exact h.frame (.inl rfl) h.memory

/-- No month of a route is granted more than the limit that its calls use, across crashes, failed
writes, clocks that go back, retirements and reopened stores. -/
theorem monthly_quota_never_exceeded {routeId : String} {limit : Nat} {w : QuotaWorld}
    (h : quotaSystem.Run (LimitIs routeId limit) w) (month : MonthKey) :
    granted w.grants routeId month ≤ limit := by
  have hinv : QuotaInv routeId limit w := by
    apply h.invariant
    · rintro _ rfl
      exact ⟨fun _ _ => rfl, nofun, nofun, fun _ => Nat.zero_le _⟩
    · intro a label b ha hlim hnext
      exact quotaInv_step ha hlim hnext
  exact hinv.bounded month

instance (routeId : String) (limit : Nat) (w : QuotaWorld) :
    (label : QuotaLabel) → Decidable (LimitIs routeId limit w label)
  | .openStore .. => isTrue trivial
  | .reconcile .. => isTrue trivial
  | .permitsNewStream .. => isTrue trivial
  | .reserve route bound _ _ _ => inferInstanceAs (Decidable (route = routeId → bound = limit))
  | .crash => isTrue trivial
  | .removeTemporary => isTrue trivial

/-- The last second of July 2026, on a clock two hours ahead. -/
def endOfJuly : Moment := ⟨1785542399000000000, 7200⟩

/-- A reservation is written and its process crashes; the store is opened again with a clock that
has gone back. -/
def interruptedRun : List QuotaLabel :=
  [.openStore 16 endOfJuly [],
    .reconcile ["grant_0123456789abcdef"] endOfJuly [],
    .reserve "grant_0123456789abcdef" 100 70 endOfJuly [],
    .reserve "grant_0123456789abcdef" 100 10 endOfJuly
      [.none, .none, .none, .none, .none, .none, .crashAfter],
    .openStore 16 (endOfJuly.minus (days 1)) [],
    .reserve "grant_0123456789abcdef" 100 100 (endOfJuly.minus (days 1)) []]

/-- The interrupted reservation counts although it granted nothing. -/
theorem interrupted_reservation_counts :
    ∃ w, quotaSystem.Run (LimitIs "grant_0123456789abcdef" 100) w ∧
      granted w.grants "grant_0123456789abcdef" (toLex (2026, 7)) = 90 ∧
      granted w.grants "grant_0123456789abcdef" (toLex (2026, 7)) ≤ 100 := by
  obtain ⟨w, hrun, hgranted⟩ := Machine.run_of_exec (M := quotaSystem)
    (LimitIs "grant_0123456789abcdef" 100)
    (fun w => granted w.grants "grant_0123456789abcdef" (toLex (2026, 7)) = 90)
    interruptedRun rfl (by decide +kernel)
  exact ⟨w, hrun, hgranted, monthly_quota_never_exceeded hrun _⟩

end RealityConsole.RelayServer
