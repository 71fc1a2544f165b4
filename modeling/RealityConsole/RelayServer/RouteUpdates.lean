import Mathlib.Data.List.Induction
import RealityConsole.RelayServer.QuotaBound
import RealityConsole.RelayServer.Routes

/-!
# Failed route updates

An update that fails while it binds a listener has already reconciled the quotas, revoked the
routes that change and started others. It leaves the relay as it was only if there was nothing to
reconcile or to revoke and the first listener fails.
-/

namespace RealityConsole.RelayServer

open Framework

/-! ### The routes of the quota store -/

def QuotaState.isActive (state : QuotaState) (routeId : String) : Bool :=
  (state.records.lookup routeId).any (·.retiredAt.isNone)

section Reconcile

variable {maxRecords : Nat} {month : MonthKey} {routeIds : List String}
  {records records' : SortedMap String QuotaRecord} {changed changed' : Bool}

/-- The last loop of `reconcile` gives a record to every route of the list. -/
theorem insertRecords_mem
    (h : insertRecords maxRecords month routeIds (records, changed) = .ok (records', changed'))
    {routeId : String} (hmem : routeId ∈ routeIds) : (records'.lookup routeId).isSome := by
  induction routeIds generalizing records changed with
  | nil => cases hmem
  | cons first routeIds ih =>
    -- a record that is there stays there
    have hkept : ∀ {records : SortedMap String QuotaRecord} {changed : Bool},
        insertRecords maxRecords month routeIds (records, changed) = .ok (records', changed') →
        (records.lookup first).isSome → (records'.lookup first).isSome := by
      intro records changed hloop hsome
      rcases lookup_insertRecords hloop first with hsame | ⟨hnone, -⟩
      · rwa [hsame]
      · rw [hnone] at hsome
        cases hsome
    simp only [insertRecords] at h
    rcases List.mem_cons.1 hmem with rfl | hrest
    · split at h
      · rename_i hthere
        exact hkept h hthere
      split at h
      · cases h
      refine hkept h ?_
      rw [SortedMap.lookup_store, if_pos rfl]
      rfl
    · split at h
      · exact ih h hrest
      split at h
      · cases h
      · exact ih h hrest

theorem insertRecords_not_mem
    (h : insertRecords maxRecords month routeIds (records, changed) = .ok (records', changed'))
    {routeId : String} (hmem : routeId ∉ routeIds) :
    records'.lookup routeId = records.lookup routeId := by
  induction routeIds generalizing records changed with
  | nil =>
    cases h
    rfl
  | cons first routeIds ih =>
    obtain ⟨hne, hrest⟩ := not_or.1 (fun hor => hmem (List.mem_cons.2 hor))
    simp only [insertRecords] at h
    split at h
    · exact ih h hrest
    split at h
    · cases h
    · rw [ih h hrest, SortedMap.lookup_store, if_neg hne]

theorem insertRecords_unchanged
    (h : insertRecords maxRecords month routeIds (records, changed) = .ok (records', false)) :
    changed = false ∧ records' = records := by
  induction routeIds generalizing records changed with
  | nil =>
    cases h
    exact ⟨rfl, rfl⟩
  | cons first routeIds ih =>
    simp only [insertRecords] at h
    split at h
    · exact ih h
    split at h
    · cases h
    · cases (ih h).1

theorem rollRecord_unchanged {record : QuotaRecord} (h : (rollRecord record month).2 = false) :
    (rollRecord record month).1 = record := by
  unfold rollRecord at h ⊢
  split at h
  · cases h
  · rename_i hold
    rw [if_neg hold]

theorem reconcileRecord_unchanged {active : List String} {moment : Moment} {routeId : String}
    {record : QuotaRecord} (h : (reconcileRecord active moment routeId record).2 = false) :
    (reconcileRecord active moment routeId record).1 = record := by
  unfold reconcileRecord at h ⊢
  by_cases hact : routeId ∈ active
  · rw [if_pos hact] at h ⊢
    obtain ⟨hrolled, hret⟩ := Bool.or_eq_false_iff.1 h
    show { (rollRecord record (monthKey moment)).1 with retiredAt := none } = record
    rw [rollRecord_unchanged hrolled, ← Option.not_isSome_iff_eq_none.1 (by rw [hret]; nofun)]
  rw [if_neg hact] at h ⊢
  split at h
  · cases h
  · rename_i hret
    rw [if_neg hret]

theorem isNone_reconcileRecord (active : List String) (moment : Moment) (routeId : String)
    (record : QuotaRecord) : (reconcileRecord active moment routeId record).1.retiredAt.isNone
      = decide (routeId ∈ active) := by
  unfold reconcileRecord
  split
  · rename_i hact
    simp [hact]
  rename_i hact
  split
  · simp [hact]
  · rename_i hret
    simp [hact, hret]

theorem isActive_of_reconcile {state : QuotaState} {now : Moment} {plan : Option QuotaState}
    (h : reconcile state maxRecords routeIds now = .ok (plan, ())) (routeId : String) :
    (plan.getD state).isActive routeId = decide (routeId ∈ routeIds) := by
  obtain ⟨-, h⟩ := check_ok.1 h
  obtain ⟨⟨records, changed⟩, hins, h⟩ := bind_ok.1 h
  obtain ⟨hplan, -⟩ := Prod.mk.inj (Except.ok.inj h)
  have hmapped : ∀ record,
      ((retainedRecords state (effectiveNow state now)).mapValues fun id record =>
        (reconcileRecord routeIds (effectiveNow state now) id record).1).lookup routeId
          = some record → record.retiredAt.isNone = decide (routeId ∈ routeIds) := by
    intro record hrec
    rw [SortedMap.lookup_mapValues] at hrec
    obtain ⟨kept, -, rfl⟩ := Option.map_eq_some_iff.1 hrec
    exact isNone_reconcileRecord routeIds _ routeId kept
  have hnew : (records.lookup routeId).any (·.retiredAt.isNone) = decide (routeId ∈ routeIds) := by
    by_cases hmem : routeId ∈ routeIds
    · obtain ⟨record, hrec⟩ := Option.isSome_iff_exists.1 (insertRecords_mem hins hmem)
      rw [hrec, Option.any_some]
      rcases lookup_insertRecords hins routeId with hsame | ⟨-, hbeg⟩
      · exact hmapped record (hsame.symm.trans hrec)
      · obtain rfl := Option.mem_unique hbeg hrec
        simp [hmem, QuotaRecord.start]
    · rw [insertRecords_not_mem hins hmem]
      cases hrec : SortedMap.lookup routeId _ with
      | none => simp [hmem]
      | some record => exact hmapped record hrec
  cases changed with
  | true =>
    obtain rfl := hplan
    exact hnew
  | false =>
    obtain rfl := hplan
    -- nothing has changed, so the new records are the old ones
    obtain ⟨hbef, rfl⟩ := insertRecords_unchanged hins
    obtain ⟨hlen, hsame⟩ := Bool.or_eq_false_iff.1 hbef
    have hkept : retainedRecords state (effectiveNow state now) = state.records := by
      have hle := of_decide_eq_false hlen
      exact List.filter_sublist.eq_of_length (not_not.1 hle)
    have hmap : (state.records.mapValues fun id record =>
        (reconcileRecord routeIds (effectiveNow state now) id record).1) = state.records := by
      rw [hkept] at hsame
      refine (List.map_congr_left fun entry hent => ?_).trans (List.map_id _)
      have hent := List.any_eq_false.1 hsame entry hent
      exact Prod.ext rfl (reconcileRecord_unchanged (Bool.not_eq_true _ ▸ hent))
    rw [hkept, hmap] at hnew
    exact hnew

end Reconcile

/-! ### The parts of an update -/

namespace RelayState

/-- The quota store has a record of the route that is not retired. -/
def quotaActive (s : RelayState) (routeId : String) : Bool :=
  (s.quota.bind (·.status)).any fun status => status.state.isActive routeId

variable {s t : RelayState} {routes : List RouteConfig} {choices : Choices}
  {next : SortedMap String RouteConfig} {routeId : String}

/-- After the quotas are reconciled the routes with a limit are the ones in use, and nothing else
has changed. -/
theorem reconcileQuota_ok {now : Moment} {faults : List Fault}
    (h : s.reconcileQuota routes now faults = (t, .ok ())) :
    (∃ quota, t = { s with quota := quota }) ∧
      ∀ routeId, t.quotaActive routeId = decide (routeId ∈ quotaRoutes routes) := by
  unfold reconcileQuota at h
  cases hqu : s.quota with
  | none =>
    rw [hqu] at h
    dsimp only at h
    split at h
    · rename_i hnone
      cases h
      refine ⟨⟨s.quota, rfl⟩, fun routeId => ?_⟩
      unfold quotaActive
      rw [hqu, hnone]
      rfl
    · cases (Prod.mk.inj h).2
  | some process =>
    rw [hqu] at h
    dsimp only at h
    obtain ⟨hst, hres⟩ := Prod.mk.inj h
    obtain ⟨status, planned, -, hplan, haft⟩ := locked_ok (Prod.ext_iff.2 ⟨rfl, hres⟩)
    refine ⟨⟨_, hst.symm⟩, fun routeId => ?_⟩
    rw [← hst]
    unfold quotaActive
    rw [Option.bind_some, haft]
    exact isActive_of_reconcile hplan routeId

theorem reconcileQuota_error {now : Moment} {faults : List Fault} {e : RelayError}
    (h : s.reconcileQuota routes now faults = (t, .error (.error e))) :
    (∃ quota, t = { s with quota := quota }) ∧
      ∀ routeId, t.quotaActive routeId = s.quotaActive routeId := by
  unfold reconcileQuota at h
  cases hqu : s.quota with
  | none =>
    rw [hqu] at h
    dsimp only at h
    split at h
    · cases (Prod.mk.inj h).2
    · cases h
      exact ⟨⟨s.quota, rfl⟩, fun _ => rfl⟩
  | some process =>
    rw [hqu] at h
    dsimp only at h
    obtain ⟨hst, hres⟩ := Prod.mk.inj h
    have hsame := locked_error (Prod.ext_iff.2 ⟨rfl, hres⟩)
    refine ⟨⟨_, hst.symm⟩, fun routeId => ?_⟩
    rw [← hst]
    unfold quotaActive
    rw [hqu, Option.bind_some, Option.bind_some]
    -- the state in memory decides
    have hmap : ∀ status : Option StoreStatus,
        (status.any fun status => status.state.isActive routeId)
          = (status.map (·.state)).any fun state => state.isActive routeId := by
      intro status
      cases status <;> rfl
    rw [hmap, hmap, hsame]

theorem lookup_foldl_revoke (routeIds : List String) (s : RelayState) (routeId : String) :
    (routeIds.foldl revoke s).active.lookup routeId
      = if routeId ∈ routeIds then none else s.active.lookup routeId := by
  induction routeIds generalizing s with
  | nil => simp
  | cons first routeIds ih =>
    have hfirst : (s.revoke first).active.lookup routeId
        = if routeId = first then none else s.active.lookup routeId := by
      unfold revoke
      cases hlook : s.active.lookup first with
      | none =>
        by_cases hsame : routeId = first
        · rw [if_pos hsame, hsame, hlook]
        · rw [if_neg hsame]
      | some runtime => exact SortedMap.lookup_remove _ _ _
    rw [List.foldl_cons, ih, hfirst]
    by_cases hmem : routeId ∈ routeIds
    · simp [hmem]
    · simp [hmem]

theorem foldl_revoke_frame (routeIds : List String) (s : RelayState) :
    (routeIds.foldl revoke s).configured = s.configured ∧
      (routeIds.foldl revoke s).quota = s.quota := by
  induction routeIds generalizing s with
  | nil => exact ⟨rfl, rfl⟩
  | cons first routeIds ih =>
    have hfirst : (s.revoke first).configured = s.configured ∧
        (s.revoke first).quota = s.quota := by
      unfold revoke
      split <;> exact ⟨rfl, rfl⟩
    rw [List.foldl_cons, (ih _).1, (ih _).2]
    exact hfirst

theorem mem_changedRoutes : routeId ∈ s.changedRoutes next ↔ ∃ runtime, s.active.lookup routeId =
    some runtime ∧ next.lookup routeId ≠ some runtime.config := by
  unfold changedRoutes
  rw [List.mem_filter, Option.any_eq_true]
  simp only [decide_eq_true_eq]
  constructor
  · exact And.right
  · rintro ⟨runtime, hlook, hchanged⟩
    exact ⟨List.mem_map_of_mem (SortedMap.mem_of_lookup hlook), runtime, hlook, hchanged⟩

/-! ### Starting the missing routes -/

/-- The routes of a list that the loop has to start. -/
def missing (choices : Choices) (s : RelayState) (routes : List RouteConfig) : List RouteConfig :=
  routes.filter fun route =>
    route.enabled && !route.isExpired (choices.clock route.routeId) &&
      !s.active.hasKey route.routeId

/-- The loop starts the missing routes up to the first that cannot be bound. -/
theorem startRoutes_eq (choices : Choices) (s : RelayState) {routes : List RouteConfig}
    (hnd : (routes.map (·.routeId)).Nodup) : (s.startRoutes choices routes).1
        = ((missing choices s routes).takeWhile fun route => choices.binds route.routeId).foldl
          start s ∧ (s.startRoutes choices routes).2
        = if ∀ route ∈ missing choices s routes, choices.binds route.routeId = true then .ok ()
          else .error bindError := by
  induction routes generalizing s with
  | nil => simp [startRoutes, missing]
  | cons route routes ih =>
    obtain ⟨hnew, hnd⟩ := List.nodup_cons.1 hnd
    unfold missing startRoutes consider
    rw [List.filter_cons]
    by_cases hoff : (!route.enabled || route.isExpired (choices.clock route.routeId)) = true
    · -- disabled or expired
      have hskip : (route.enabled && !route.isExpired (choices.clock route.routeId) &&
          !s.active.hasKey route.routeId) = false := by
        revert hoff
        cases route.enabled <;> cases route.isExpired (choices.clock route.routeId) <;> simp
      rw [if_pos hoff, hskip]
      exact ih s hnd
    by_cases hthere : s.active.hasKey route.routeId = true
    · rw [if_neg hoff, if_pos hthere, hthere]
      simp only [Bool.not_true, Bool.and_false, Bool.false_eq_true, if_false]
      exact ih s hnd
    have htake : (route.enabled && !route.isExpired (choices.clock route.routeId) &&
        !s.active.hasKey route.routeId) = true := by
      revert hoff hthere
      cases route.enabled <;> cases route.isExpired (choices.clock route.routeId) <;>
        cases s.active.hasKey route.routeId <;> simp
    rw [if_neg hoff, if_neg hthere, if_pos htake]
    by_cases hbinds : choices.binds route.routeId = true
    · rw [if_pos hbinds, List.takeWhile_cons, if_pos hbinds, List.foldl_cons]
      -- the started route is not among the rest
      have hrest : missing choices (s.start route) routes = missing choices s routes := by
        apply List.filter_congr
        intro other hoth
        have hne : other.routeId ≠ route.routeId := by
          intro heq
          exact hnew (List.mem_map.2 ⟨other, hoth, heq⟩)
        unfold SortedMap.hasKey start
        rw [SortedMap.lookup_store, if_neg hne]
      have hloop := ih (s.start route) hnd
      rw [hrest] at hloop
      refine ⟨hloop.1, hloop.2.trans (if_congr ?_ rfl rfl)⟩
      simp only [missing, List.forall_mem_cons, hbinds, true_and]
    · rw [if_neg hbinds, List.takeWhile_cons, if_neg hbinds]
      refine ⟨rfl, (if_neg fun hall => ?_).symm⟩
      exact hbinds (hall route List.mem_cons_self)

theorem lookup_foldl_start (started : List RouteConfig) (s : RelayState)
    (hnd : (started.map (·.routeId)).Nodup) : (∀ route ∈ started, ∃ number,
      (started.foldl start s).active.lookup route.routeId = some ⟨number, route⟩) ∧
    ∀ routeId, routeId ∉ started.map (·.routeId) →
      (started.foldl start s).active.lookup routeId = s.active.lookup routeId := by
  induction started generalizing s with
  | nil => exact ⟨nofun, fun _ _ => rfl⟩
  | cons first started ih =>
    obtain ⟨hnew, hnd⟩ := List.nodup_cons.1 hnd
    obtain ⟨hstarted, hots⟩ := ih (s.start first) hnd
    have hfirst : ∀ routeId, (s.start first).active.lookup routeId
        = if routeId = first.routeId then some ⟨s.nextRuntime, first⟩
          else s.active.lookup routeId :=
      fun routeId => SortedMap.lookup_store _ _ _ _
    constructor
    · rintro route (_ | ⟨_, hrt⟩)
      · exact ⟨s.nextRuntime, (hots _ hnew).trans ((hfirst _).trans (if_pos rfl))⟩
      · exact hstarted route hrt
    · intro routeId hmem
      obtain ⟨hne, hrest⟩ := not_or.1 (fun hor => hmem (List.mem_cons.2 hor))
      exact (hots routeId hrest).trans ((hfirst routeId).trans (if_neg hne))

theorem foldl_start_frame (started : List RouteConfig) (s : RelayState) :
    (started.foldl start s).configured = s.configured ∧
      (started.foldl start s).quota = s.quota ∧ (started.foldl start s).revoked = s.revoked := by
  induction started generalizing s with
  | nil => exact ⟨rfl, rfl, rfl⟩
  | cons first started ih => exact ih (s.start first)

/-! ### All or nothing -/

structure Unchanged (s t : RelayState) : Prop where
  active : ∀ routeId, t.active.lookup routeId = s.active.lookup routeId
  configured : ∀ routeId, t.configured.lookup routeId = s.configured.lookup routeId
  quota : ∀ routeId, t.quotaActive routeId = s.quotaActive routeId
  revoked : ∀ routeId runtime, s.active.lookup routeId = some runtime →
    runtime.number ∈ t.revoked → runtime.number ∈ s.revoked

/-- An update that returns an error leaves the relay as before. -/
def AllOrNothing (s : RelayState) (routes : List RouteConfig) (choices : Choices) : Prop :=
  ∀ e, (s.applyRoutes routes choices).2 = .error (.error e) →
    Unchanged s (s.applyRoutes routes choices).1

def toStart (s : RelayState) (choices : Choices) : List RouteConfig :=
  choices.order.filter fun route =>
    route.enabled && !route.isExpired (choices.clock route.routeId) &&
      !(s.active.lookup route.routeId).any fun runtime => runtime.config = route

/-- The quota store refuses the update, or every listener can be bound, or nothing is reconciled or
revoked and the first listener fails. -/
def Harmless (s : RelayState) (routes : List RouteConfig) (choices : Choices) : Prop :=
  (s.reconcileQuota routes choices.quotaNow choices.quotaFaults).2 ≠ .ok () ∨
  (∀ route ∈ toStart s choices, choices.binds route.routeId = true) ∨
  (∀ routeId runtime, s.active.lookup routeId = some runtime →
      (routeMap routes).lookup routeId = some runtime.config) ∧
    (∀ routeId, s.quotaActive routeId = decide (routeId ∈ quotaRoutes routes)) ∧
    ∃ route, (toStart s choices).head? = some route ∧ choices.binds route.routeId = false

theorem applyRoutes_of_reconciled (hvisits : choices.Visits (routeMap routes))
    (h : s.reconcileQuota routes choices.quotaNow choices.quotaFaults = (t, .ok ())) :
    let started := (toStart s choices).takeWhile fun route => choices.binds route.routeId
    let after := started.foldl start ((t.changedRoutes (routeMap routes)).foldl revoke t)
    s.applyRoutes routes choices =
      if ∀ route ∈ toStart s choices, choices.binds route.routeId = true
      then ({ after with configured := routeMap routes }, .ok ())
      else (after, .error (.error bindError)) := by
  intro started after
  obtain ⟨⟨quota, ht⟩, -⟩ := reconcileQuota_ok h
  have hact : t.active = s.active := by rw [ht]
  -- what is left active of a new route is active as it is
  have hmiss : missing choices ((t.changedRoutes (routeMap routes)).foldl revoke t)
      choices.order = toStart s choices := by
    apply List.filter_congr
    intro route hrt
    have hnext := (hvisits.mem_iff route).mp hrt
    congr 1
    unfold SortedMap.hasKey
    rw [lookup_foldl_revoke, hact]
    have hchanged : route.routeId ∈ t.changedRoutes (routeMap routes) ↔ _ := mem_changedRoutes
    rw [hact, hnext] at hchanged
    cases hlook : s.active.lookup route.routeId with
    | none => simp
    | some runtime =>
      rw [hlook] at hchanged
      by_cases hsame : runtime.config = route
      · rw [if_neg]
        · simp [hsame]
        · rw [hchanged]
          rintro ⟨other, hoth, hne⟩
          cases hoth
          exact hne (congrArg some hsame.symm)
      · rw [if_pos (hchanged.2 ⟨runtime, rfl, fun heq => hsame (Option.some.inj heq).symm⟩)]
        simp [hsame]
  obtain ⟨hst, hres⟩ := startRoutes_eq choices
    ((t.changedRoutes (routeMap routes)).foldl revoke t) hvisits.nodup
  rw [hmiss] at hst hres
  unfold applyRoutes
  rw [h]
  dsimp only
  rw [← Prod.mk.eta (p := startRoutes choices _ _), hst, hres]
  by_cases hall : ∀ route ∈ toStart s choices, choices.binds route.routeId = true
  · rw [if_pos hall, if_pos hall]
  · rw [if_neg hall, if_neg hall]

/-- A failed update with reconciled quotas changed nothing exactly if there was nothing to
reconcile, revoke or start. -/
theorem unchanged_iff_of_reconciled (hvisits : choices.Visits (routeMap routes))
    (h : s.reconcileQuota routes choices.quotaNow choices.quotaFaults = (t, .ok ())) :
    let started := (toStart s choices).takeWhile fun route => choices.binds route.routeId
    Unchanged s (started.foldl start ((t.changedRoutes (routeMap routes)).foldl revoke t)) ↔
      (∀ routeId runtime, s.active.lookup routeId = some runtime →
        (routeMap routes).lookup routeId = some runtime.config) ∧
      (∀ routeId, s.quotaActive routeId = decide (routeId ∈ quotaRoutes routes)) ∧
      started = [] := by
  intro started
  obtain ⟨⟨quota, ht⟩, hqu⟩ := reconcileQuota_ok h
  obtain ⟨hconf, hquotaRevoked⟩ := foldl_revoke_frame (t.changedRoutes (routeMap routes)) t
  obtain ⟨hconfiguredStart, hquotaStart, hrevokedStart⟩ :=
    foldl_start_frame started ((t.changedRoutes (routeMap routes)).foldl revoke t)
  have hact : t.active = s.active := by rw [ht]
  have hsub : started.Sublist choices.order := (List.takeWhile_sublist _).trans List.filter_sublist
  obtain ⟨hstarted, hots⟩ := lookup_foldl_start started
    ((t.changedRoutes (routeMap routes)).foldl revoke t) ((hsub.map _).nodup hvisits.nodup)
  have hsame : ∀ routeId, (started.foldl start
      ((t.changedRoutes (routeMap routes)).foldl revoke t)).quotaActive routeId
        = decide (routeId ∈ quotaRoutes routes) := by
    intro routeId
    rw [← hqu routeId]
    unfold quotaActive
    rw [hquotaStart, hquotaRevoked]
  constructor
  · intro hunch
    refine ⟨fun routeId runtime hruntime => ?_, fun routeId => ?_, ?_⟩
    · -- a changed route is not active any more, or with another configuration
      by_contra hne
      have hchanged : routeId ∈ t.changedRoutes (routeMap routes) :=
        mem_changedRoutes.2 ⟨runtime, hact ▸ hruntime, hne⟩
      have haft := (hunch.active routeId).trans hruntime
      by_cases hmem : routeId ∈ started.map (·.routeId)
      · obtain ⟨route, hrt, rfl⟩ := List.mem_map.1 hmem
        obtain ⟨number, hnum⟩ := hstarted route hrt
        obtain rfl := Option.mem_unique hnum haft
        exact hne ((hvisits.mem_iff route).mp (hsub.subset hrt))
      · rw [hots routeId hmem, lookup_foldl_revoke, if_pos hchanged] at haft
        cases haft
    · exact (hunch.quota routeId).symm.trans (hsame routeId)
    · -- a route that was started was not active as it is now
      by_contra hne
      obtain ⟨route, hrt⟩ := List.exists_mem_of_ne_nil _ hne
      obtain ⟨number, hnum⟩ := hstarted route hrt
      have hbef := (hunch.active route.routeId).symm.trans hnum
      have htoStart := (List.mem_filter.1 ((List.takeWhile_sublist _).subset hrt)).2
      rw [hbef] at htoStart
      simp at htoStart
  · rintro ⟨hkept, hquotas, hnone⟩
    have hnoth : t.changedRoutes (routeMap routes) = [] := by
      apply List.eq_nil_iff_forall_not_mem.2
      intro routeId hmem
      obtain ⟨runtime, hruntime, hne⟩ := mem_changedRoutes.1 hmem
      exact hne (hkept routeId runtime (hact ▸ hruntime))
    rw [hnone, hnoth]
    refine ⟨fun _ => ?_, fun _ => ?_, fun routeId => ?_, fun routeId runtime _ hmem => ?_⟩
    · show t.active.lookup _ = _
      rw [hact]
    · show t.configured.lookup _ = _
      rw [ht]
    · exact (hqu routeId).trans (hquotas routeId).symm
    · replace hmem : runtime.number ∈ t.revoked := hmem
      rwa [ht] at hmem

/-- A failed update leaves the relay as before exactly if it is harmless. -/
theorem all_or_nothing_iff (hvisits : choices.Visits (routeMap routes)) :
    AllOrNothing s routes choices ↔ Harmless s routes choices := by
  rcases hqu : s.reconcileQuota routes choices.quotaNow choices.quotaFaults with ⟨t, stop | ⟨⟩⟩
  · have hrun : s.applyRoutes routes choices = (t, .error stop) := by
      unfold applyRoutes
      rw [hqu]
    refine iff_of_true (fun e he => ?_) (.inl (by rw [hqu]; nofun))
    rw [hrun] at he ⊢
    obtain rfl : stop = .error e := Except.error.inj he
    obtain ⟨⟨quota, rfl⟩, hsame⟩ := reconcileQuota_error hqu
    exact ⟨fun _ => rfl, fun _ => rfl, hsame, fun _ _ _ hmem => hmem⟩
  · have hrun := applyRoutes_of_reconciled hvisits hqu
    by_cases hall : ∀ route ∈ toStart s choices, choices.binds route.routeId = true
    · refine iff_of_true (fun e he => ?_) (.inr (.inl hall))
      rw [hrun, if_pos hall] at he
      cases he
    have hatomic : AllOrNothing s routes choices ↔
        Unchanged s (s.applyRoutes routes choices).1 := by
      rw [AllOrNothing, hrun, if_neg hall]
      exact ⟨fun h => h _ rfl, fun h _ _ => h⟩
    have hfirst : (toStart s choices).takeWhile (fun route => choices.binds route.routeId) = [] ↔
        ∃ route, (toStart s choices).head? = some route ∧ choices.binds route.routeId = false := by
      cases hlist : toStart s choices with
      | nil => exact absurd (hlist ▸ nofun) hall
      | cons route rest =>
        rw [List.takeWhile_cons]
        cases hbinds : choices.binds route.routeId <;> simp [hbinds]
    rw [hatomic, hrun, if_neg hall]
    refine (unchanged_iff_of_reconciled hvisits hqu).trans ?_
    rw [hfirst]
    constructor
    · exact fun h => .inr (.inr h)
    · rintro (hrefd | hbinds | h)
      · rw [hqu] at hrefd
        exact absurd rfl hrefd
      · exact absurd hbinds hall
      · exact h

/-! ### A reload that loses the last good route -/

/-- The state of a relay without managed routes at its start. -/
def initial : RelayState := ⟨[], [], [], 0, none⟩

def plainRoute (routeId : String) (port : Nat) (token : String) : RouteConfig where
  routeId := routeId
  publicListen := ⟨.v4 0, port⟩
  nodeTokenSha256 := token
  nodeCertSha256 := "2222222222222222222222222222222222222222222222222222222222222222"
  expiresAt := 4102444800
  enabled := true
  maxConcurrentStreams := 16
  maxBytesPerSecond := 1048576
  maxBytesPerConnection := 1073741824
  monthlyByteLimit := none

def firstRoute : RouteConfig := plainRoute "route_0123456789abcdef" 20443
  "1111111111111111111111111111111111111111111111111111111111111111"

def secondRoute : RouteConfig := plainRoute "route_fedcba9876543210" 443
  "3333333333333333333333333333333333333333333333333333333333333333"

/-- An update that comes to the routes in this order and finds the ports of some of them taken. -/
def visiting (order : List RouteConfig) (taken : List String) : Choices :=
  ⟨⟨0, 0⟩, [], order, fun _ => 1783800000, fun routeId => routeId ∉ taken⟩

theorem visits_visiting {order : List RouteConfig} (h : (order.map (·.routeId)).Nodup)
    (taken : List String) : (visiting order taken).Visits (routeMap order) := by
  refine ⟨h, fun other => ?_⟩
  show other ∈ order ↔ _
  induction order using List.reverseRecOn with
  | nil => exact iff_of_false List.not_mem_nil nofun
  | append_singleton order last ih =>
    rw [List.map_append, List.nodup_append] at h
    have hlookup : (routeMap (order ++ [last])).lookup other.routeId
        = if other.routeId = last.routeId then some last
          else (routeMap order).lookup other.routeId := by
      rw [← SortedMap.lookup_store]
      simp [routeMap, SortedMap.collect, List.foldl_append]
    rw [hlookup, List.mem_append, List.mem_singleton]
    split
    · rename_i hid
      have hnew : other ∉ order := fun hmem =>
        h.2.2 _ (List.mem_map_of_mem hmem) _ (List.mem_singleton_self _) hid
      simp [hnew, eq_comm]
    · rename_i hid
      have hother : other ≠ last := fun heq => hid (heq ▸ rfl)
      simp [hother, ih h.1]

def serving : RelayState := (initial.applyRoutes [firstRoute] (visiting [firstRoute] [])).1

/-- A second route is added whose port is taken: the update fails and the first one stays. -/
theorem taken_port_harmless :
    let routes := [firstRoute, secondRoute]
    let choices := visiting routes [secondRoute.routeId]
    (serving.applyRoutes routes choices).2 = .error (.error bindError) ∧
      AllOrNothing serving routes choices := by
  refine ⟨by decide +kernel, (all_or_nothing_iff (visits_visiting (by decide) _)).mpr ?_⟩
  refine .inr (.inr ⟨fun routeId runtime hactive => ?_, fun _ => rfl, ?_⟩)
  · have hserving : serving.active = [(firstRoute.routeId, ⟨0, firstRoute⟩)] := by decide +kernel
    obtain ⟨rfl, rfl⟩ : routeId = firstRoute.routeId ∧ runtime = ⟨0, firstRoute⟩ := by
      have hmem := SortedMap.mem_of_lookup hactive
      rwa [hserving, List.mem_singleton, Prod.mk.injEq] at hmem
    decide +kernel
  · exact ⟨secondRoute, by decide +kernel, by decide⟩

/-- The relay serves one route; a reload replaces it by another whose port is taken. The reload
fails, and the first route is revoked all the same. -/
theorem failed_reload_revokes_route :
    ∃ s, s = serving ∧
      (visiting [secondRoute] [secondRoute.routeId]).Visits (routeMap [secondRoute]) ∧
      ¬ AllOrNothing s [secondRoute] (visiting [secondRoute] [secondRoute.routeId]) := by
  refine ⟨_, rfl, visits_visiting (by decide) _, fun hatomic => ?_⟩
  have hunch := hatomic bindError (by decide +kernel)
  have hactive := hunch.active firstRoute.routeId
  revert hactive
  decide +kernel

end RelayState

end RealityConsole.RelayServer
