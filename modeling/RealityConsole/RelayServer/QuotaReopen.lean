import Mathlib.Data.String.Basic
import RealityConsole.RelayServer.QuotaBound

/-!
# A store opens what it wrote

`validate_state` refuses a state with too many records, with a moment that is not in UTC, or with a
record that is malformed or ahead of the high watermark. Calls take what they put into records from
the clock or the watermark, whichever is later, and write both together.
-/

namespace RealityConsole.RelayServer

open Framework

/-- The checks of `validate_state` on one record. -/
structure Acceptable (watermark : Moment) (routeId : String) (record : QuotaRecord) : Prop where
  id : validateRouteId routeId = .ok ()
  month : 1 ≤ record.month ∧ record.month ≤ 12
  key : record.key ≤ monthKey watermark
  retired : ∀ t ∈ record.retiredAt, t.offset = 0 ∧ t ≤ watermark

/-- What `validate_state` checks, and the order of the records. -/
structure Passes (maxRecords : Nat) (state : QuotaState) : Prop where
  schema : state.schemaVersion = stateSchemaVersion
  utc : state.clockHighWatermark.offset = 0
  count : state.records.length ≤ maxRecords
  sorted : state.records.Sorted
  each : ∀ entry ∈ state.records, Acceptable state.clockHighWatermark entry.1 entry.2

variable {maxRecords : Nat} {state candidate : QuotaState} {routeId : String}
  {record : QuotaRecord} {now moment watermark : Moment}

theorem passes_iff : Passes maxRecords state ↔
    validateState state maxRecords = .ok () ∧ state.records.Sorted := by
  have hid : ∀ id, (validateRouteId id).isOk = true ↔ validateRouteId id = .ok () := by
    intro id
    rcases validateRouteId id with _ | ⟨⟩ <;> simp [Except.isOk, Except.toBool]
  simp only [validateState, check_ok, refuse_ok, List.any_eq_true, Bool.or_eq_true,
    Bool.not_eq_true', ← Bool.not_eq_true, hid, decide_eq_true_eq, Option.any_eq_true, not_exists,
    not_and, not_or, not_not, not_lt, Moment.not_lt]
  constructor
  · intro h
    refine ⟨⟨⟨h.schema, h.utc, h.count⟩, fun entry hmem => ?_⟩, h.sorted⟩
    have hent := h.each entry hmem
    exact ⟨⟨⟨⟨hent.id, hent.month.1⟩, hent.month.2⟩, hent.key⟩, hent.retired⟩
  · rintro ⟨⟨⟨hschema, hutc, hcount⟩, heach⟩, hsort⟩
    refine ⟨hschema, hutc, hcount, hsort, fun entry hmem => ?_⟩
    obtain ⟨⟨⟨⟨hid, hmin⟩, hmax⟩, hkey⟩, hret⟩ := heach entry hmem
    exact ⟨hid, ⟨hmin, hmax⟩, hkey, hret⟩

theorem Acceptable.later (h : Acceptable watermark routeId record) (hle : UtcLe watermark moment) :
    Acceptable moment routeId record :=
  ⟨h.id, h.month, h.key.trans (monthKey_mono hle),
    fun t ht => (h.retired t ht).imp_right fun hat => hat.trans hle.le⟩

theorem acceptable_current (hid : validateRouteId routeId = .ok ())
    (hkey : record.key = monthKey moment) (hret : record.retiredAt = none) :
    Acceptable moment routeId record := by
  refine ⟨hid, ?_, hkey.le, fun t ht => ?_⟩
  · have hmon : record.month = (monthCount
        ((moment.instant + moment.offset * 1000000000) / 86400000000000) + 2) % 12 + 1 :=
      congrArg (fun key => (ofLex key).2) hkey
    omega
  · cases hret.symm.trans ht

theorem Acceptable.reconcileRecord (h : Acceptable watermark routeId record)
    (hle : UtcLe watermark moment) (active : List String) :
    Acceptable moment routeId (reconcileRecord active moment routeId record).1 := by
  have hlat := h.later hle
  unfold RelayServer.reconcileRecord
  split
  · exact acceptable_current h.id (key_rollRecord hlat.key) rfl
  split
  · refine ⟨h.id, h.month, hlat.key, fun t ht => ?_⟩
    cases ht
    exact ⟨hle.second, le_rfl⟩
  · exact hlat

/-- The record of an active route gives way to the rolled one with another count. -/
theorem Passes.store (h : Passes maxRecords state) (hact : activeRecord state routeId = .ok record)
    (bytes : Nat) : Passes maxRecords { state with
      clockHighWatermark := effectiveNow state now
      records := state.records.store routeId
        { (rollRecord record (monthKey (effectiveNow state now))).1 with bytes := bytes } } := by
  obtain ⟨hlook, hret⟩ := activeRecord_ok hact
  have hle := watermark_le_effectiveNow h.utc now
  have hrec := (h.each _ (SortedMap.mem_of_lookup hlook)).later hle
  refine ⟨h.schema, hle.second, (h.sorted.length_store hlook _).trans_le h.count,
    h.sorted.store _ _, fun entry hmem => ?_⟩
  rcases SortedMap.mem_of_mem_store hmem with rfl | hold
  · exact acceptable_current hrec.id (key_rollRecord hrec.key) ((retiredAt_rollRecord _).trans hret)
  · exact (h.each entry hold).later hle

theorem Passes.insertRecords {routeIds : List String}
    {records records' : SortedMap String QuotaRecord} {changed changed' : Bool}
    (h : Passes maxRecords { state with clockHighWatermark := moment, records := records })
    (hids : ∀ id ∈ routeIds, validateRouteId id = .ok ())
    (hins : insertRecords maxRecords (monthKey moment) routeIds (records, changed)
      = .ok (records', changed')) :
    Passes maxRecords { state with clockHighWatermark := moment, records := records' } := by
  induction routeIds generalizing records changed with
  | nil =>
    cases hins
    exact h
  | cons id ids ih =>
    have hrest : ∀ id ∈ ids, validateRouteId id = .ok () := fun id hid => hids id (.tail _ hid)
    simp only [RelayServer.insertRecords] at hins
    split at hins
    · exact ih h hrest hins
    split at hins
    · cases hins
    refine ih ?_ hrest hins
    refine ⟨h.schema, h.utc, (SortedMap.length_store_le records).trans (by omega),
      h.sorted.store _ _, fun entry hmem => ?_⟩
    rcases SortedMap.mem_of_mem_store hmem with rfl | hold
    · exact acceptable_current (hids id (.head _)) rfl rfl
    · exact h.each entry hold

theorem Passes.reconcile {activeRouteIds : List String} (h : Passes maxRecords state)
    (hids : ∀ id ∈ activeRouteIds, validateRouteId id = .ok ())
    (hplan : reconcile state maxRecords activeRouteIds now = .ok (some candidate, ())) :
    Passes maxRecords candidate := by
  obtain ⟨-, hplan⟩ := check_ok.1 hplan
  obtain ⟨⟨records, changed⟩, hins, hplan⟩ := bind_ok.1 hplan
  obtain ⟨hcand, -⟩ := Prod.mk.inj (Except.ok.inj hplan)
  split at hcand
  · cases hcand
    have hle := watermark_le_effectiveNow h.utc now
    refine Passes.insertRecords ⟨h.schema, hle.second, ?_, ?_, fun entry hmem => ?_⟩ hids hins
    · exact (List.length_map _).trans_le ((List.length_filter_le _ _).trans h.count)
    · exact (List.Pairwise.filter _ h.sorted).map _ fun _ _ => id
    · obtain ⟨old, hold, rfl⟩ := List.mem_map.1 hmem
      exact (h.each old (List.mem_of_mem_filter hold)).reconcileRecord hle _
  · cases hcand

/-- A call of `reconcile`, with the ids of validated routes, of `permits_new_stream` or of `reserve`
finds one state in memory and persists another. -/
def Persists (maxRecords : Nat) (state next : QuotaState) : Prop :=
  ∃ now, (∃ ids, (∀ id ∈ ids, validateRouteId id = .ok ()) ∧
      reconcile state maxRecords ids now = .ok (some next, ())) ∨
    (∃ routeId limit permitted,
      permitsNewStream state routeId limit now = .ok (some next, permitted)) ∨
    ∃ routeId limit requested amount,
      reserve state routeId limit requested now = .ok (some next, amount)

theorem Passes.persists (h : Passes maxRecords state)
    (hcall : Persists maxRecords state candidate) : Passes maxRecords candidate := by
  rcases hcall with ⟨now, ⟨ids, hids, hplan⟩ | ⟨_, _, _, hplan⟩ | ⟨_, _, _, _, hplan⟩⟩
  · exact h.reconcile hids hplan
  · obtain ⟨record, hact, hplan⟩ := bind_ok.1 hplan
    obtain ⟨hcand, -⟩ := Prod.mk.inj (Except.ok.inj hplan)
    split at hcand
    · cases hcand
      exact h.store hact _
    · cases hcand
  · obtain ⟨record, hact, hplan⟩ := bind_ok.1 hplan
    dsimp only at hplan
    split at hplan
    · cases hplan
    obtain ⟨-, hplan⟩ := check_ok.1 hplan
    cases (Prod.mk.inj (Except.ok.inj hplan)).1
    exact h.store hact _

/-- A store that was opened with a valid state persists only states that it would open again,
whatever its calls and its clock. -/
theorem persisted_states_reopen {maxRecords : Nat} {opened state : QuotaState}
    (h : Relation.ReflTransGen (Persists maxRecords) opened state)
    (hopen : validateState opened maxRecords = .ok ()) (hsort : opened.records.Sorted) :
    validateState state maxRecords = .ok () := by
  suffices hpass : Passes maxRecords state from (passes_iff.1 hpass).1
  induction h with
  | refl => exact passes_iff.2 ⟨hopen, hsort⟩
  | tail _ hcall ih => exact ih.persists hcall

def oneRoute (watermark : Int) (retiredAt : Option Moment) : QuotaState :=
  ⟨1, ⟨watermark, 0⟩, [("grant_0123456789abcdef", ⟨2026, 7, 0, retiredAt⟩)]⟩

/-- On a clock two hours ahead a route is given its first record, and retires a day later. -/
theorem recorded_route_reopens : validateState
    (oneRoute 1785628799000000000 (some ⟨1785628799000000000, 0⟩)) 128 = .ok () := by
  have hfirst : Persists 128 ⟨1, utc endOfJuly, []⟩ (oneRoute 1785542399000000000 none) :=
    ⟨endOfJuly, .inl ⟨["grant_0123456789abcdef"], by decide, rfl⟩⟩
  have hnext : Persists 128 (oneRoute 1785542399000000000 none)
      (oneRoute 1785628799000000000 (some ⟨1785628799000000000, 0⟩)) :=
    ⟨endOfJuly.minus (days (-1)), .inl ⟨[], by decide, rfl⟩⟩
  exact persisted_states_reopen (.tail (.single hfirst) hnext) rfl List.Pairwise.nil

end RealityConsole.RelayServer
